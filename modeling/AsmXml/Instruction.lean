import AsmXml.Operand

/-! # Instructions -/

namespace AsmXml

open Text

/-- One instruction of a program. -/
structure Instruction where
  /-- The place in the program; the first instruction has order one. -/
  order : Int
  opcode : Bytes
  operands : List Operand
  deriving DecidableEq, Repr

/-- An instruction as messages show it: its order, its opcode and its operands. -/
def Instruction.display (i : Instruction) : Bytes :=
  decimal i.order ++ utf8 ": (" ++ i.opcode ++ utf8 ", " ++
    (utf8 ", ").intercalate (i.operands.map Operand.display) ++ utf8 ")"

end AsmXml
