import AsmXml.Text.Decimal
import AsmXml.Text.Letter
import AsmXml.Text.Mark
import AsmXml.Text.Number
import AsmXml.Text.Punctuation
import AsmXml.Text.Sign

/-! # Quoted text

Messages show a text of the input between quotes, in a form that is printable whatever the text
holds and from which the text can be read back. Printable characters stand for themselves; the
quote, the backslash and all other characters and bytes are written as escapes.
-/

namespace AsmXml.Text

/-- The character leaves a visible mark, or is the plain space. -/
def isPrintable (c : Char) : Bool :=
  isLetter c || isMark c || isNumber c || isPunctuation c || isSign c || c == ' '

/-- The letter after the backslash for control characters that have one. -/
def shortEscape? (c : Char) : Option Char :=
  match c.toNat with
  | 0x07 => some 'a'
  | 0x08 => some 'b'
  | 0x09 => some 't'
  | 0x0a => some 'n'
  | 0x0b => some 'v'
  | 0x0c => some 'f'
  | 0x0d => some 'r'
  | _ => none

/-- The escape of a code point that is not printable: two, four or eight hexadecimal digits. -/
def codeEscape (n : Nat) : Bytes :=
  if n < 0x20 || n == 0x7f then utf8 "\\x" ++ hex 2 n
  else if n < 0x10000 then utf8 "\\u" ++ hex 4 n
  else utf8 "\\U" ++ hex 8 n

/-- A glyph as it stands between two `mark`s. -/
def quoteGlyph (mark : Char) : Glyph → Bytes
  | .stray b => utf8 "\\x" ++ hex 2 b.toNat
  | .char c =>
    if c == mark || c == '\\' then utf8 "\\" ++ (Glyph.char c).bytes
    else if isPrintable c then (Glyph.char c).bytes
    else match shortEscape? c with
      | some e => utf8 "\\" ++ (Glyph.char e).bytes
      | none => codeEscape c.toNat

/-- A text between double quotes. -/
def quote (bs : Bytes) : Bytes :=
  utf8 "\"" ++ (decode bs).flatMap (quoteGlyph '"') ++ utf8 "\""

/-- The single quote. -/
def apostrophe : Char := Char.ofNat 0x27

/-- One character between single quotes. -/
def quoteChar (c : Char) : Bytes :=
  (Glyph.char apostrophe).bytes ++ quoteGlyph apostrophe (.char c) ++ (Glyph.char apostrophe).bytes

end AsmXml.Text
