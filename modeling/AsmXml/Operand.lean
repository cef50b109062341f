import AsmXml.Category
import AsmXml.Text.After
import AsmXml.Text.Quoted

/-! # Operands -/

namespace AsmXml

open Text

/-- A token of a program together with what it is. -/
structure Operand where
  /-- The token as written. -/
  text : Bytes
  category : Category
  deriving DecidableEq, Repr

namespace Operand

/-- The text of an operand without the mark of its literal type. -/
def value (o : Operand) : Except Defect Bytes :=
  o.category.mark.map (unmark · o.text)

/-- An operand as messages show it: its category, then its text in quotes. -/
def display (o : Operand) : Bytes :=
  utf8 "\x7b" ++ o.category.name ++ utf8 " " ++ quote o.text ++ utf8 "\x7d"

end Operand

end AsmXml
