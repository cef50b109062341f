import AsmXml.Text.Quoted

/-! # The command line

The program has one flag, which asks for help. Arguments are read from left to right, and the
first that is wrong decides. Flags may stand anywhere before `--`; every other argument is
positional, and the program takes none. Options that are addressed to a test runner are no flags of
the program and are passed over.
-/

namespace AsmXml.CommandLine

open Text

/-- What can be wrong with the arguments. -/
inductive Misuse where
  /-- An argument that begins like a flag and names none. -/
  | badFlag (argument : Bytes)
  /-- A flag of a name that does not exist. -/
  | unknownFlag (name : Bytes)
  /-- The flag for help with a value that is no truth value. -/
  | badValue (value : Bytes)
  /-- A one-letter flag that does not exist, with the letters from there on. -/
  | unknownLetter (letter : UInt8) (rest : Bytes)
  /-- A positional argument. -/
  | unknownCommand (name : Bytes)
  deriving DecidableEq, Repr

/-- The wording of a complaint about the arguments. -/
def Misuse.message : Misuse → Bytes
  | .badFlag argument => utf8 "bad flag syntax: " ++ argument
  | .unknownFlag name => utf8 "unknown flag: --" ++ name
  | .badValue value =>
    utf8 "invalid argument " ++ quote value ++
      utf8 " for \"-h, --help\" flag: strconv.ParseBool: parsing " ++ quote value ++
      utf8 ": invalid syntax"
  | .unknownLetter letter rest =>
    utf8 "unknown shorthand flag: " ++ quoteChar (Char.ofNat letter.toNat) ++ utf8 " in -" ++ rest
  | .unknownCommand name => utf8 "unknown command " ++ quote name ++ utf8 " for \"parse\""

/-! ## Truth values -/

/-- The spellings of true. -/
def trueWords : List Bytes :=
  ["1", "t", "T", "true", "TRUE", "True"].map utf8

/-- The spellings of false. -/
def falseWords : List Bytes :=
  ["0", "f", "F", "false", "FALSE", "False"].map utf8

/-- The truth value that a word spells. -/
def truth? (word : Bytes) : Option Bool :=
  if trueWords.contains word then some true
  else if falseWords.contains word then some false
  else none

/-- Sets the flag for help to a value. -/
def setHelp (value : Bytes) : Except Misuse Bool :=
  match truth? value with
  | some b => .ok b
  | none => .error (.badValue value)

/-! ## Scanning -/

/-- The hyphen, which begins a flag. -/
def hyphen : UInt8 := 0x2d

/-- The sign between a flag and its value. -/
def equalsSign : UInt8 := 0x3d

/-- The letter of the flag for help. -/
def helpLetter : UInt8 := 0x68

/-- What options addressed to a test runner begin with. -/
def runnerMark : Bytes := utf8 "test."

/-- The flag for help after the argument `--body`. -/
def longFlag (body : Bytes) : Except Misuse Bool :=
  let name := body.takeWhile (· != equalsSign)
  if body.isEmpty || body.head? == some hyphen || body.head? == some equalsSign then
    .error (.badFlag (hyphen :: hyphen :: body))
  else if name != utf8 "help" then .error (.unknownFlag name)
  else match body.dropWhile (· != equalsSign) with
    | [] => .ok true
    | _ :: value => setHelp value

/-- The flag for help after the argument `-letters`, where `help` was its value before. A value
behind a letter takes up the rest of the argument, and so does an option that is addressed to a
test runner, which is passed over whatever it says. -/
def letterFlags (help : Bool) : Bytes → Except Misuse Bool
  | [] => .ok help
  | letter :: rest =>
    if runnerMark.isPrefixOf (letter :: rest) then .ok help
    else if letter != helpLetter then .error (.unknownLetter letter (letter :: rest))
    else match rest with
      | [] => .ok true
      | next :: value =>
        if next == equalsSign && !value.isEmpty then setHelp value
        else letterFlags true rest

/-- How one argument is to be read. -/
inductive Form where
  | positional
  /-- All arguments behind it are positional. -/
  | separator
  /-- A flag by its name. -/
  | long (body : Bytes)
  /-- Flags by their letters. -/
  | letters (body : Bytes)
  deriving DecidableEq, Repr

/-- The form of an argument. A single hyphen is positional. -/
def form : Bytes → Form
  | first :: second :: more =>
    if first != hyphen then .positional
    else if second != hyphen then .letters (second :: more)
    else if more.isEmpty then .separator
    else .long more
  | _ => .positional

/-- What the arguments ask for. -/
structure Choices where
  help : Bool
  positional : List Bytes
  deriving DecidableEq, Repr

/-- The choices with one more positional argument in front. -/
def Choices.behind (argument : Bytes) (choices : Choices) : Choices :=
  { choices with positional := argument :: choices.positional }

/-- Reads arguments, where `help` is the value of the flag for help so far. -/
def scan (help : Bool) : List Bytes → Except Misuse Choices
  | [] => .ok ⟨help, []⟩
  | argument :: rest =>
    match form argument with
    | .positional => (scan help rest).map (Choices.behind argument)
    | .separator => .ok ⟨help, rest⟩
    | .long body => do
      let help ← longFlag body
      scan help rest
    | .letters body => do
      let help ← letterFlags help body
      scan help rest

/-- The three things that a command line can come to. -/
inductive Action where
  | help
  | translate
  | refuse (misuse : Misuse)
  deriving DecidableEq, Repr

/-- What a command line comes to. Help goes before positional arguments. -/
def action (arguments : List Bytes) : Action :=
  match scan false arguments with
  | .error misuse => .refuse misuse
  | .ok ⟨true, _⟩ => .help
  | .ok ⟨false, []⟩ => .translate
  | .ok ⟨false, name :: _⟩ => .refuse (.unknownCommand name)

end AsmXml.CommandLine
