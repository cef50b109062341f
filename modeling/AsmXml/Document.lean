import AsmXml.Failure

/-! # Documents

A document is the tree that a program is written as: instructions with their order and opcode, and
under each its arguments with a type and a value. Not every program has one, since only operands
of a concrete category have a type.
-/

namespace AsmXml

open Text

/-- An operand in a document. Its position is its place among the arguments. -/
structure Argument where
  type : Bytes
  value : Bytes
  deriving DecidableEq, Repr

/-- An instruction in a document. -/
structure Entry where
  order : Int
  opcode : Bytes
  arguments : List Argument
  deriving DecidableEq, Repr

/-- The instructions of a program, as they are written out. -/
structure Document where
  entries : List Entry
  deriving DecidableEq, Repr

/-- An operand that has no type in a document. -/
structure Unrenderable where
  order : Int
  position : Nat
  operand : Operand
  deriving DecidableEq, Repr

/-- The failure that an unrenderable operand amounts to. -/
def Unrenderable.toFailure (u : Unrenderable) : Failure :=
  .unrenderable ⟨u.order, u.position, u.operand.text⟩ (.noTypeName u.operand.category)

/-- The arguments that the operands of the instruction of this order have from `position` on, up to
the first operand that is unrenderable. -/
def argumentsFrom (order : Int) (position : Nat) :
    List Operand → Except (Halt Unrenderable) (List Argument)
  | [] => .ok []
  | operand :: rest => do
    let concrete ← operand.category.isConcrete.mapError .defect
    if concrete then
      let value ← operand.value.mapError .defect
      let others ← argumentsFrom order (position + 1) rest
      return ⟨operand.category.name, value⟩ :: others
    else
      .error (.refused ⟨order, position, operand⟩)

/-- An instruction as an entry, with its opcode in upper case. -/
def Entry.ofInstruction (i : Instruction) : Except (Halt Unrenderable) Entry := do
  let arguments ← argumentsFrom i.order 1 i.operands
  return ⟨i.order, upper i.opcode, arguments⟩

/-- The document of a program, or its first unrenderable operand. -/
def Document.ofProgram (program : List Instruction) : Except (Halt Unrenderable) Document := do
  let entries ← program.mapM Entry.ofInstruction
  return ⟨entries⟩

end AsmXml
