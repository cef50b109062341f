import AsmXml.Text.Decimal

/-! # Defects

Some operations are defined only on part of their arguments: a category that is none of the known
ones has no rule, and a signature has no parameter outside its arity. Using one outside its domain
is a defect of the caller, kept apart from every error of the input. That the translator never
meets one is a theorem, not an assumption of its types.
-/

namespace AsmXml

open Text

/-- A broken assumption of the program itself. -/
inductive Defect where
  /-- An operation met a category that is none of the known ones. -/
  | unhandledCategory (code : Int)
  /-- A parameter was asked for at an index that a list of this length does not have. -/
  | indexOutOfRange (index : Int) (length : Nat)
  deriving DecidableEq, Repr

/-- The text of a defect. A negative index is out of range whatever the length is. -/
def Defect.message : Defect → Bytes
  | .unhandledCategory code => utf8 "lexer: unhandled category " ++ unknownName code
  | .indexOutOfRange index length =>
    utf8 "runtime error: index out of range [" ++ decimal index ++ utf8 "]" ++
      if index < 0 then [] else utf8 " with length " ++ decimal length

/-- Why a computation stopped: it refused its input, or it ran into a defect. -/
inductive Halt (ε : Type) where
  | refused (reason : ε)
  | defect (d : Defect)
  deriving DecidableEq, Repr

end AsmXml
