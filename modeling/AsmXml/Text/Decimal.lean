import AsmXml.Text.Utf8

/-! # Numbers in decimal and hexadecimal -/

namespace AsmXml.Text

/-- The digits of a number, each as one byte. -/
def digits (base n : Nat) : Bytes :=
  (Nat.toDigits base n).flatMap String.utf8EncodeChar

/-- An integer in decimal, with a sign only if it is negative. -/
def decimal : Int → Bytes
  | .ofNat n => digits 10 n
  | .negSucc n => utf8 "-" ++ digits 10 (n + 1)

/-- A number in lower-case hexadecimal, filled with zeros to `width` digits. -/
def hex (width n : Nat) : Bytes :=
  let ds := digits 16 n
  List.replicate (width - ds.length) 0x30 ++ ds

/-- The name of a code that has no name of its own. -/
def unknownName (code : Int) : Bytes :=
  utf8 "UNKNOWN(" ++ decimal code ++ utf8 ")"

end AsmXml.Text
