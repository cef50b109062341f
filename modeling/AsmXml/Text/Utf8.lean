/-! # Byte strings and their characters

Programs, operands and messages are byte strings: a source may hold bytes that are no UTF-8, and
they pass through every stage. `decode` reads a byte string as glyphs, where a glyph is a
character in its shortest encoding or one stray byte that belongs to no such encoding; `encode`
writes glyphs back. A character is read exactly where the bytes begin with its encoding
(`leading?`), and a byte at which no encoding begins is stray.
-/

namespace AsmXml

/-- A byte string. -/
abbrev Bytes := List UInt8

namespace Text

/-- What a byte string is made of: characters, and bytes that are part of no character. -/
inductive Glyph where
  | char (c : Char)
  | stray (b : UInt8)
  deriving DecidableEq, Repr

/-- The bytes a glyph stands for. -/
def Glyph.bytes : Glyph → Bytes
  | .char c => String.utf8EncodeChar c
  | .stray b => [b]

/-- The bytes of a sequence of glyphs. -/
def encode (glyphs : List Glyph) : Bytes :=
  glyphs.flatMap Glyph.bytes

/-- The UTF-8 bytes of a string. -/
def utf8 (s : String) : Bytes :=
  s.toList.flatMap String.utf8EncodeChar

/-! ## Reading characters -/

/-- The byte continues an encoding begun by an earlier byte; its low six bits are payload. -/
def isTail (b : UInt8) : Bool :=
  0x80 ≤ b.toNat && b.toNat ≤ 0xbf

/-- The character with code point `n`, provided that it needs an encoding this long: `least` is
the first code point that does. Surrogates are no characters. -/
def shortest? (least n : Nat) : Option Char :=
  if least ≤ n ∧ n.isValidChar then some (Char.ofNat n) else none

/-- The character encoded by the first byte alone. -/
def one? : Bytes → Option Char
  | b₀ :: _ => if b₀.toNat < 0x80 then some (Char.ofNat b₀.toNat) else none
  | _ => none

/-- The character encoded by the first two bytes. -/
def two? : Bytes → Option Char
  | b₀ :: b₁ :: _ =>
    if 0xc0 ≤ b₀.toNat && b₀.toNat ≤ 0xdf && isTail b₁ then
      shortest? 0x80 ((b₀.toNat - 0xc0) * 0x40 + (b₁.toNat - 0x80))
    else none
  | _ => none

/-- The character encoded by the first three bytes. -/
def three? : Bytes → Option Char
  | b₀ :: b₁ :: b₂ :: _ =>
    if 0xe0 ≤ b₀.toNat && b₀.toNat ≤ 0xef && isTail b₁ && isTail b₂ then
      shortest? 0x800
        ((b₀.toNat - 0xe0) * 0x1000 + (b₁.toNat - 0x80) * 0x40 + (b₂.toNat - 0x80))
    else none
  | _ => none

/-- The character encoded by the first four bytes. -/
def four? : Bytes → Option Char
  | b₀ :: b₁ :: b₂ :: b₃ :: _ =>
    if 0xf0 ≤ b₀.toNat && b₀.toNat ≤ 0xf7 && isTail b₁ && isTail b₂ && isTail b₃ then
      shortest? 0x10000
        ((b₀.toNat - 0xf0) * 0x40000 + (b₁.toNat - 0x80) * 0x1000 + (b₂.toNat - 0x80) * 0x40
          + (b₃.toNat - 0x80))
    else none
  | _ => none

/-- The character whose encoding the bytes begin with. -/
def leading? (bs : Bytes) : Option Char :=
  (one? bs).or ((two? bs).or ((three? bs).or (four? bs)))

/-- The glyphs of a byte string after its first `skip` bytes. -/
def decodeAfter : Nat → Bytes → List Glyph
  | _, [] => []
  | skip + 1, _ :: rest => decodeAfter skip rest
  | 0, b :: rest =>
    match leading? (b :: rest) with
    | some c => .char c :: decodeAfter (c.utf8Size - 1) rest
    | none => .stray b :: decodeAfter 0 rest

/-- The glyphs of a byte string. -/
def decode (bs : Bytes) : List Glyph :=
  decodeAfter 0 bs

/-- The characters of a byte string, if it is UTF-8 throughout. -/
def chars? (bs : Bytes) : Option (List Char) :=
  (decode bs).mapM fun
    | .char c => some c
    | .stray _ => none

/-- The character that stands in for bytes and code points that cannot be shown. -/
def replacement : Char := Char.ofNat 0xfffd

/-! ## Basic laws -/

@[simp] theorem decodeAfter_nil (n : Nat) : decodeAfter n [] = [] := by
  cases n <;> rfl

/-- Skipping bytes is decoding what remains of them. -/
theorem decodeAfter_eq_decode_drop (n : Nat) (bs : Bytes) :
    decodeAfter n bs = decode (bs.drop n) := by
  induction bs generalizing n with
  | nil => simp [decode]
  | cons b rest ih =>
    cases n with
    | zero => rfl
    | succ n => exact ih n

/-- Decoding reads the leading character, or one stray byte, and goes on behind it. -/
theorem decode_cons (b : UInt8) (rest : Bytes) :
    decode (b :: rest) =
      match leading? (b :: rest) with
      | some c => .char c :: decode (rest.drop (c.utf8Size - 1))
      | none => .stray b :: decode rest := by
  rw [decode, decodeAfter]
  cases leading? (b :: rest) with
  | some c => simp only [decodeAfter_eq_decode_drop]
  | none => rfl

@[simp] theorem decode_nil : decode [] = [] := rfl

@[simp] theorem encode_nil : encode [] = [] := rfl

@[simp] theorem encode_cons (g : Glyph) (gs : List Glyph) :
    encode (g :: gs) = g.bytes ++ encode gs := rfl

@[simp] theorem encode_append (gs hs : List Glyph) :
    encode (gs ++ hs) = encode gs ++ encode hs := by
  simp [encode]

end Text

end AsmXml
