import AsmXml.CommandLine
import AsmXml.Translator

/-! # Running a command line -/

namespace AsmXml.CommandLine

open Text

/-- What the program is for. -/
def about : Bytes := utf8
  "Script for parsing IPPcode24 to XML.

Parse reads an IPPcode24 program from standard input, checks the header,
the opcode and the operands of every instruction, and writes the program
as an XML document to standard output.

Exit codes:
  21  missing or wrong header
  22  unknown opcode
  23  any other lexical or syntax error"

/-- How the program is called. -/
def usage : Bytes := utf8
  "Usage:
  parse [options] < source [flags]

Flags:
  -h, --help   help for parse
"

/-- The pieces of the help text, each written on its own. -/
def helpPieces : List Bytes :=
  [about, utf8 "\n\n", usage]

/-- The exit code of a run with wrong arguments. -/
def misuseCode : Nat := 2

/-- What a run of the program shows to its surroundings. -/
structure Result where
  exitCode : Nat
  stdout : Bytes
  stderr : Bytes
  /-- What is left of the input. -/
  input : Input
  log : List Log.Record

/-- The last note of a run: a failure of the surroundings is an error, and a rejected program was
reported already. -/
def noteFailure (failure : Failure) : Log.Record :=
  let text : String × Log.Value := ("error", .text failure.message)
  let code := failure.exitCode
  if code = 11 ∨ code = 99 then ⟨.error, "Translation failed", [text]⟩
  else ⟨.debug, "Translation failed", [text, ("code", .number code)]⟩

/-- Runs the program with these arguments on the streams of a translator. Only a run that
translates reads the input. -/
def execute (colour : Bool) (arguments : List Bytes) (t : Translator) :
    Except Defect Result :=
  match action arguments with
  | .refuse misuse =>
    .ok ⟨misuseCode, [], utf8 "Error: " ++ misuse.message ++ utf8 "\n" ++ usage, t.input, []⟩
  | .help =>
    let (stored, failure) := t.sink.writeAll helpPieces
    .ok ⟨0, stored, failure.elim [] (· ++ utf8 "\n"), t.input, []⟩
  | .translate => do
    let (t, run) ← t.run colour
    return ⟨run.exitCode, t.output, t.diagnostics, t.input,
      run.log ++ (run.failure.map noteFailure).toList⟩

end AsmXml.CommandLine
