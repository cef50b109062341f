import AsmXml.Operand.Shape

/-! # Recognizing operands

A token is recognized by its form alone, whatever instruction it belongs to. A token with the mark
of a frame or a literal must have a well-formed body; a token without one is the name of a type,
a label, or of no known form, which only the signature of its instruction rules out.
-/

namespace AsmXml

open Text

/-- The forms whose mark promises a body of a certain shape. -/
inductive Malformed where
  | variable
  | integer
  | boolean
  | nil
  deriving DecidableEq, Repr

/-- The complaint about a body that has not the promised shape. -/
def Malformed.message : Malformed → Bytes
  | .variable => utf8 "invalid variable name"
  | .integer => utf8 "invalid integer literal"
  | .boolean => utf8 "invalid boolean literal"
  | .nil => utf8 "invalid nil literal"

/-- The marks of the global, local and temporary frame. -/
def frames : List Bytes :=
  [utf8 "GF@", utf8 "LF@", utf8 "TF@"]

/-- The category of a well-formed body, and the complaint otherwise. -/
def Category.ofBody (category : Category) (complaint : Malformed) (body : Bytes) :
    Except Malformed Category :=
  if category.isBody body then .ok category else .error complaint

/-- The category of a token without a mark. A type word has the shape of a label too, and is a
type word. -/
def classifyPlain (text : Bytes) : Category :=
  if Category.type.isBody text then .type
  else if Category.label.isBody text then .label
  else .invalid

/-- The category of a token. -/
def classify (text : Bytes) : Except Malformed Category :=
  match frames.findSome? (after? · text) with
  | some body => Category.var.ofBody .variable body
  | none =>
  match after? (utf8 "int@") text with
  | some body => Category.int.ofBody .integer body
  | none =>
  match after? (utf8 "bool@") text with
  | some body => Category.bool.ofBody .boolean body
  | none =>
  match after? (utf8 "string@") text with
  | some _ => .ok .string
  | none =>
  match after? (utf8 "nil@") text with
  | some body => Category.nil.ofBody .nil body
  | none => .ok (classifyPlain text)

/-- A token as an operand, with the complaint about it if its body is malformed. The text is never
changed, and a malformed token is of no category. -/
def recognize (text : Bytes) : Operand × Option Malformed :=
  match classify text with
  | .ok category => (⟨text, category⟩, none)
  | .error complaint => (⟨text, .invalid⟩, some complaint)

end AsmXml
