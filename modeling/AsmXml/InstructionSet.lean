import AsmXml.Category
import AsmXml.Text.Upper

/-! # The instruction set

Each opcode has one signature: the categories of its operands in order. Opcodes are written in any
case and stand in the table in upper case.
-/

namespace AsmXml

open Text

/-- An opcode and the categories that its operands must have. -/
structure Signature where
  opcode : Bytes
  params : List Category
  deriving DecidableEq, Repr

namespace Signature

/-- The number of operands that the opcode takes. -/
def arity (s : Signature) : Nat := s.params.length

/-- The category expected at a position, counted from zero. -/
def param (s : Signature) (index : Int) : Except Defect Category :=
  match index with
  | .ofNat i =>
    match s.params[i]? with
    | some category => .ok category
    | none => .error (.indexOutOfRange index s.arity)
  | .negSucc _ => .error (.indexOutOfRange index s.arity)

end Signature

/-- All instructions of the language, grouped by what they are for. -/
def instructionSet : List Signature := [
    -- frames and calls
    ⟨utf8 "MOVE", [.var, .symb]⟩,
    ⟨utf8 "CREATEFRAME", []⟩,
    ⟨utf8 "PUSHFRAME", []⟩,
    ⟨utf8 "POPFRAME", []⟩,
    ⟨utf8 "DEFVAR", [.var]⟩,
    ⟨utf8 "CALL", [.label]⟩,
    ⟨utf8 "RETURN", []⟩,
    -- data stack
    ⟨utf8 "PUSHS", [.symb]⟩,
    ⟨utf8 "POPS", [.var]⟩,
    -- arithmetic, relations, logic and conversions
    ⟨utf8 "ADD", [.var, .symb, .symb]⟩,
    ⟨utf8 "SUB", [.var, .symb, .symb]⟩,
    ⟨utf8 "MUL", [.var, .symb, .symb]⟩,
    ⟨utf8 "IDIV", [.var, .symb, .symb]⟩,
    ⟨utf8 "LT", [.var, .symb, .symb]⟩,
    ⟨utf8 "GT", [.var, .symb, .symb]⟩,
    ⟨utf8 "EQ", [.var, .symb, .symb]⟩,
    ⟨utf8 "AND", [.var, .symb, .symb]⟩,
    ⟨utf8 "OR", [.var, .symb, .symb]⟩,
    ⟨utf8 "NOT", [.var, .symb]⟩,
    ⟨utf8 "INT2CHAR", [.var, .symb]⟩,
    ⟨utf8 "STRI2INT", [.var, .symb, .symb]⟩,
    -- input and output
    ⟨utf8 "READ", [.var, .type]⟩,
    ⟨utf8 "WRITE", [.symb]⟩,
    -- strings
    ⟨utf8 "CONCAT", [.var, .symb, .symb]⟩,
    ⟨utf8 "STRLEN", [.var, .symb]⟩,
    ⟨utf8 "GETCHAR", [.var, .symb, .symb]⟩,
    ⟨utf8 "SETCHAR", [.var, .symb, .symb]⟩,
    -- types
    ⟨utf8 "TYPE", [.var, .symb]⟩,
    -- control flow
    ⟨utf8 "LABEL", [.label]⟩,
    ⟨utf8 "JUMP", [.label]⟩,
    ⟨utf8 "JUMPIFEQ", [.label, .symb, .symb]⟩,
    ⟨utf8 "JUMPIFNEQ", [.label, .symb, .symb]⟩,
    ⟨utf8 "EXIT", [.symb]⟩,
    -- debugging
    ⟨utf8 "DPRINT", [.symb]⟩,
    ⟨utf8 "BREAK", []⟩]

/-- The signature of an opcode, written as in the table. -/
def signature? (opcode : Bytes) : Option Signature :=
  instructionSet.find? (·.opcode == opcode)

/-- The signature of an opcode, written in any case. -/
def lookup? (name : Bytes) : Option Signature :=
  signature? (upper name)

/-- The token names an opcode. -/
def isOpcode (name : Bytes) : Bool :=
  (lookup? name).isSome

/-- All opcodes in the order of their bytes. -/
def opcodes : List Bytes :=
  (instructionSet.map (·.opcode)).mergeSort fun a b => decide (a ≤ b)

end AsmXml
