import AsmXml.Fault
import AsmXml.Instruction
import AsmXml.InstructionSet
import AsmXml.Text.Blank

/-! # Lines of a program

A line is an opcode and its operands, separated by blanks. `Line.check` decides whether a line is
an instruction and names the first fault otherwise. Faults come in stages: more than one opcode on
the line, no opcode in front, the number of operands, a malformed operand, an operand of the wrong
category; the last two go from left to right, and every operand is recognized before any category
is compared.
-/

namespace AsmXml

open Text

/-- One line of a program and the fields it consists of. -/
structure Line where
  text : Bytes
  fields : List Bytes
  deriving DecidableEq, Repr

/-- The opcode and the operands of a line, without a place in a program. -/
structure Statement where
  opcode : Bytes
  operands : List Operand
  deriving DecidableEq, Repr

/-- A statement as the instruction of a given order. -/
def Statement.numbered (s : Statement) (order : Nat) : Instruction :=
  ⟨order, s.opcode, s.operands⟩

/-- The operands that a list of tokens denotes, or the first of them that is malformed. -/
def recognizeAll (tokens : List Bytes) : Except Fault (List Operand) :=
  tokens.mapM fun token =>
    match recognize token with
    | (operand, none) => .ok operand
    | (_, some complaint) => .error (.malformed complaint token)

/-- Compares operands with the parameters of a signature from position `i` on. -/
def Signature.checkFrom (s : Signature) (i : Nat) : List Operand → Except (Halt Fault) Unit
  | [] => .ok ()
  | operand :: rest => do
    let expected ← (s.param i).mapError .defect
    let accepted ← (expected.accepts operand.category).mapError .defect
    if accepted then s.checkFrom (i + 1) rest
    else .error (.refused (.argumentType operand.text expected operand.category))

namespace Line

/-- Splits a text into its fields. -/
def ofText (text : Bytes) : Line :=
  ⟨text, Text.fields text⟩

/-- The first field in upper case; empty if there is none. -/
def opcode (line : Line) : Bytes :=
  match line.fields with
  | [] => []
  | first :: _ => upper first

/-- The fields after the first. -/
def operands (line : Line) : List Bytes :=
  line.fields.tail

/-- How many fields name an opcode. -/
def opcodeCount (line : Line) : Nat :=
  line.fields.countP isOpcode

/-- The statement of a line, judged by its signature alone. -/
def validate (line : Line) : Except (Halt Fault) Statement :=
  match lookup? line.opcode with
  | none => .error (.refused (.unknownOpcode (line.fields.headD [])))
  | some s =>
    if line.operands.length = s.arity then do
      let operands ← (recognizeAll line.operands).mapError .refused
      s.checkFrom 0 operands
      return ⟨s.opcode, operands⟩
    else
      .error (.refused (.argumentCount s.opcode s.arity line.operands.length))

/-- The statement of a line. A line that names more than one opcode has none, whatever else it
holds. -/
def check (line : Line) : Except (Halt Fault) Statement :=
  if 1 < line.opcodeCount then .error (.refused (.ambiguousLine line.opcodeCount))
  else line.validate

end Line

end AsmXml
