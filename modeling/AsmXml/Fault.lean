import AsmXml.Operand.Recognition

/-! # Faults of a program

Everything that can be wrong with a program, as a cause and not as a text. The wording of a fault,
the kind of error that it is and the token to blame for it are functions of the fault.
-/

namespace AsmXml

open Text

/-- The kinds of errors that users tell apart, each with an exit code of its own. -/
inductive ErrorKind where
  /-- No input, or a wrong first line. -/
  | header
  /-- The first field of a line is no opcode. -/
  | opcode
  /-- Anything else that is wrong with a line. -/
  | malformed
  /-- A code that denotes no kind. -/
  | unknown (code : Int)
  deriving DecidableEq, Repr

namespace ErrorKind

/-- The kind with this code. -/
def ofCode (code : Int) : ErrorKind :=
  match code with
  | 1 => .header
  | 2 => .opcode
  | 3 => .malformed
  | _ => .unknown code

/-- The name of a kind in reports. -/
def name : ErrorKind → Bytes
  | .header => utf8 "header error"
  | .opcode => utf8 "opcode error"
  | .malformed => utf8 "syntax error"
  | .unknown code => unknownName code

/-- The exit code of a run that ends with an error of this kind. -/
def exitCode : ErrorKind → Nat
  | .header => 21
  | .opcode => 22
  | .malformed | .unknown _ => 23

end ErrorKind

/-- What is wrong with a program. -/
inductive Fault where
  /-- The first line is blank. -/
  | emptyInput
  /-- The first line is something else than the header. -/
  | badHeader (line : Bytes)
  /-- More than one field of a line names an opcode. -/
  | ambiguousLine (count : Nat)
  /-- The first field of a line names no opcode. -/
  | unknownOpcode (token : Bytes)
  /-- An opcode has more or fewer operands than its signature says. -/
  | argumentCount (opcode : Bytes) (expected got : Nat)
  /-- A marked token has not the shape that its mark promises. -/
  | malformed (complaint : Malformed) (token : Bytes)
  /-- An operand is not of the category that the signature expects. -/
  | argumentType (token : Bytes) (expected found : Category)
  deriving DecidableEq, Repr

namespace Fault

/-- The kind of error that a fault is. -/
def kind : Fault → ErrorKind
  | .emptyInput | .badHeader _ => .header
  | .unknownOpcode _ => .opcode
  | .ambiguousLine _ | .argumentCount .. | .malformed .. | .argumentType .. => .malformed

/-- The single token to blame; empty if there is none. -/
def token : Fault → Bytes
  | .unknownOpcode token | .malformed _ token | .argumentType token _ _ => token
  | .emptyInput | .badHeader _ | .ambiguousLine _ | .argumentCount .. => []

/-- The wording of a fault. -/
def message : Fault → Bytes
  | .emptyInput => utf8 "empty input"
  | .badHeader line => utf8 "wrong header " ++ quote line
  | .ambiguousLine count =>
    utf8 "more than one opcode on line (" ++ decimal count ++ utf8 " found)"
  | .unknownOpcode token => utf8 "unknown opcode " ++ quote token
  | .argumentCount opcode expected got =>
    utf8 "wrong argument count: " ++ opcode ++ utf8 " takes " ++ decimal expected ++
      utf8 ", got " ++ decimal got
  | .malformed complaint token => complaint.message ++ utf8 " " ++ quote token
  | .argumentType token expected found =>
    utf8 "wrong argument type " ++ quote token ++ utf8 ": expected " ++ expected.name ++
      utf8 ", found " ++ found.name

end Fault

end AsmXml
