import AsmXml.Text.Utf8

/-! # Text in documents

Markup characters and line layout are written as character references, so that no text can end
the element or attribute it stands in. What a document cannot hold is replaced.
-/

namespace AsmXml

open Text

/-- A document can hold the character. -/
def isXmlChar (c : Char) : Bool :=
  let n := c.toNat
  n == 0x09 || n == 0x0a || n == 0x0d || (0x20 ≤ n && n ≤ 0xd7ff) ||
    (0xe000 ≤ n && n ≤ 0xfffd) || (0x10000 ≤ n && n ≤ 0x10ffff)

/-- The reference that is written for a character, for those that have one. -/
def reference? (c : Char) : Option Bytes :=
  match c.toNat with
  | 0x22 => some (utf8 "&#34;")
  | 0x27 => some (utf8 "&#39;")
  | 0x26 => some (utf8 "&amp;")
  | 0x3c => some (utf8 "&lt;")
  | 0x3e => some (utf8 "&gt;")
  | 0x09 => some (utf8 "&#x9;")
  | 0x0a => some (utf8 "&#xA;")
  | 0x0d => some (utf8 "&#xD;")
  | _ => none

/-- The character that a document holds for a glyph. -/
def Text.Glyph.sanitized : Glyph → Char
  | .char c => if isXmlChar c then c else replacement
  | .stray _ => replacement

/-- How a glyph is written in a document. -/
def escapeGlyph (g : Glyph) : Bytes :=
  let c := g.sanitized
  (reference? c).getD (Glyph.char c).bytes

/-- How a text is written in a document, be it an attribute or the content of an element. -/
def escape (bs : Bytes) : Bytes :=
  (decode bs).flatMap escapeGlyph

end AsmXml
