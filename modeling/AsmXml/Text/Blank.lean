import AsmXml.Text.CodeRange
import AsmXml.Text.Utf8

/-! # Blanks

White space separates the fields of a line and surrounds them without meaning. Only characters
can be blank: a stray byte is kept wherever it stands.
-/

namespace AsmXml.Text

/-- The runs of white space characters. -/
def blankRanges : List CodeRange :=
  [⟨0x0009, 0x000d⟩, ⟨0x0020, 0x0020⟩, ⟨0x0085, 0x0085⟩, ⟨0x00a0, 0x00a0⟩, ⟨0x1680, 0x1680⟩,
    ⟨0x2000, 0x200a⟩, ⟨0x2028, 0x2029⟩, ⟨0x202f, 0x202f⟩, ⟨0x205f, 0x205f⟩, ⟨0x3000, 0x3000⟩]

/-- The character is white space. -/
def isBlank (c : Char) : Bool :=
  blankRanges.any (·.contains c.toNat)

/-- The glyph is a white space character. -/
def Glyph.isBlank : Glyph → Bool
  | .char c => Text.isBlank c
  | .stray _ => false

/-- A list without the elements at either end that satisfy `p`. -/
def strip {α : Type} (p : α → Bool) (xs : List α) : List α :=
  ((xs.dropWhile p).reverse.dropWhile p).reverse

/-- The text without the blanks around it. -/
def trim (bs : Bytes) : Bytes :=
  encode (strip Glyph.isBlank (decode bs))

/-- The maximal runs of glyphs that are not blank. -/
def words (glyphs : List Glyph) : List (List Glyph) :=
  (glyphs.splitOnP Glyph.isBlank).filter (!·.isEmpty)

/-- The fields of a text: its maximal runs without a blank. -/
def fields (bs : Bytes) : List Bytes :=
  (words (decode bs)).map encode

end AsmXml.Text
