import AsmXml.Operand

/-! # Lexical shapes of operands

The shape of an operand is what may follow its mark, or the whole token where there is none.
-/

namespace AsmXml

open Text

/-! ## Identifiers -/

/-- One of the special characters that identifiers may hold anywhere. -/
def isSpecial (c : Char) : Bool :=
  ['_', '$', '&', '%', '*', '!', '?', '-'].contains c

/-- An identifier may begin with this glyph: an ASCII letter or a special character. -/
def isIdentifierStart : Glyph → Bool
  | .char c => c.isAlpha || isSpecial c
  | .stray _ => false

/-- An identifier may go on with this glyph: a letter or number of any script, or a special
character. -/
def isIdentifierRest : Glyph → Bool
  | .char c => isLetter c || isNumber c || isSpecial c
  | .stray _ => false

/-- The text is an identifier: the name of a variable or of a label. -/
def isIdentifier (text : Bytes) : Bool :=
  match decode text with
  | [] => false
  | first :: rest => isIdentifierStart first && rest.all isIdentifierRest

/-! ## Literals -/

/-- The byte is a digit of the given base, in either case. -/
def isDigitOf (base : Nat) (b : UInt8) : Bool :=
  let n := b.toNat
  (0x30 ≤ n && n ≤ 0x39 && n - 0x30 < base) ||
    (0x41 ≤ n && n ≤ 0x5a && n - 0x41 + 10 < base) ||
    (0x61 ≤ n && n ≤ 0x7a && n - 0x61 + 10 < base)

/-- One or more digits of the given base. -/
def isNumeral (base : Nat) (text : Bytes) : Bool :=
  !text.isEmpty && text.all (isDigitOf base)

/-- A decimal integer: digits, possibly behind one sign. -/
def isDecimal (text : Bytes) : Bool :=
  match text with
  | b :: rest => if b == 0x2b || b == 0x2d then isNumeral 10 rest else isNumeral 10 text
  | [] => false

/-- An unsigned integer behind one of the two given marks of its base. -/
def isBased (base : Nat) (lower upper : Bytes) (text : Bytes) : Bool :=
  ((after? lower text).or (after? upper text)).any (isNumeral base)

/-- The body of an integer literal: decimal with an optional sign, or octal or hexadecimal. -/
def isInteger (text : Bytes) : Bool :=
  isDecimal text || isBased 8 (utf8 "0o") (utf8 "0O") text ||
    isBased 16 (utf8 "0x") (utf8 "0X") text

/-- The body of a boolean literal. -/
def isBoolean (text : Bytes) : Bool :=
  text == utf8 "true" || text == utf8 "false"

/-- The name of a type that values can be read as. -/
def isTypeWord (text : Bytes) : Bool :=
  text == utf8 "int" || text == utf8 "bool" || text == utf8 "string"

/-- The text is well formed behind the mark or frame of the category. A string takes any text;
the categories that no operand has take none. -/
def Category.isBody : Category → Bytes → Bool
  | .var, text | .label, text => isIdentifier text
  | .int, text => isInteger text
  | .bool, text => isBoolean text
  | .string, _ => true
  | .nil, text => text == utf8 "nil"
  | .type, text => isTypeWord text
  | .invalid, _ | .symb, _ | .unknown _, _ => false

end AsmXml
