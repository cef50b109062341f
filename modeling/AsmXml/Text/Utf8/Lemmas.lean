import AsmXml.Text.Utf8

/-! # Decoding reads encodings

`leading?_eq_some_iff`: the reader finds a character exactly where the bytes begin with its
encoding. From it follow that decoding loses no byte (`encode_decode`) and that it reads a character
back from its encoding, whatever follows (`decode_char_append`).
-/

namespace AsmXml.Text

/-! ## Numbers, bytes and characters -/

/-- A valid code point is that of a character. -/
theorem exists_char {n : Nat} (valid : n.isValidChar) : ∃ c : Char, c.toNat = n :=
  ⟨Char.ofNatAux n valid, rfl⟩

/-- A byte is the code point of its character. -/
theorem toNat_byteChar (b : UInt8) : (Char.ofNat b.toNat).toNat = b.toNat := by
  obtain ⟨c, same⟩ := exists_char (Or.inl (Nat.lt_trans b.toNat_lt (by decide)))
  rw [← same, Char.ofNat_toNat]

theorem charToNat_lt (c : Char) : c.toNat < 0x110000 := by
  rcases c.valid with h | h <;> simp only [Char.toNat] <;> omega

theorem byteOfNat_eq {n : Nat} {b : UInt8} (same : n = b.toNat) : UInt8.ofNat n = b := by
  rw [same, UInt8.ofNat_toNat]

theorem shortest?_eq_some_iff {least n : Nat} {c : Char} :
    shortest? least n = some c ↔ least ≤ n ∧ n = c.toNat := by
  unfold shortest?
  constructor
  · intro h
    split at h
    · next valid =>
      cases h
      obtain ⟨c, rfl⟩ := exists_char valid.2
      exact ⟨valid.1, by rw [Char.ofNat_toNat]⟩
    · cases h
  · rintro ⟨low, rfl⟩
    rw [if_pos ⟨low, c.valid⟩, Char.ofNat_toNat]

/-! ## The four lengths of encodings -/

theorem utf8EncodeChar_one {c : Char} (high : c.toNat < 0x80) :
    String.utf8EncodeChar c = [UInt8.ofNat c.toNat] := by
  have e : c.val.toNat = c.toNat := rfl
  simp only [String.utf8EncodeChar, e]
  rw [if_pos (by omega)]

theorem utf8EncodeChar_two {c : Char} (low : 0x80 ≤ c.toNat) (high : c.toNat < 0x800) :
    String.utf8EncodeChar c =
      [UInt8.ofNat (c.toNat / 64 + 0xc0), UInt8.ofNat (c.toNat % 64 + 0x80)] := by
  have e : c.val.toNat = c.toNat := rfl
  simp only [String.utf8EncodeChar, e]
  rw [if_neg (by omega), if_pos (by omega), Nat.mod_eq_of_lt (by omega : c.toNat / 64 < 32)]

theorem utf8EncodeChar_three {c : Char} (low : 0x800 ≤ c.toNat) (high : c.toNat < 0x10000) :
    String.utf8EncodeChar c =
      [UInt8.ofNat (c.toNat / 4096 + 0xe0), UInt8.ofNat (c.toNat / 64 % 64 + 0x80),
        UInt8.ofNat (c.toNat % 64 + 0x80)] := by
  have e : c.val.toNat = c.toNat := rfl
  simp only [String.utf8EncodeChar, e]
  rw [if_neg (by omega), if_neg (by omega), if_pos (by omega),
    Nat.mod_eq_of_lt (by omega : c.toNat / 4096 < 16)]

theorem utf8EncodeChar_four {c : Char} (low : 0x10000 ≤ c.toNat) :
    String.utf8EncodeChar c =
      [UInt8.ofNat (c.toNat / 262144 + 0xf0), UInt8.ofNat (c.toNat / 4096 % 64 + 0x80),
        UInt8.ofNat (c.toNat / 64 % 64 + 0x80), UInt8.ofNat (c.toNat % 64 + 0x80)] := by
  have e : c.val.toNat = c.toNat := rfl
  have := charToNat_lt c
  simp only [String.utf8EncodeChar, e]
  rw [if_neg (by omega), if_neg (by omega), if_neg (by omega),
    Nat.mod_eq_of_lt (by omega : c.toNat / 262144 < 8)]

/-- The reader of one byte finds the characters that are encoded in one byte, and no other; those of
two, three and four bytes do the same for theirs. -/
theorem one?_eq_some_iff {bs : Bytes} {c : Char} :
    one? bs = some c ↔ c.toNat < 0x80 ∧ String.utf8EncodeChar c <+: bs := by
  constructor
  · intro h
    unfold one? at h
    split at h
    · next b rest =>
      split at h
      · next small =>
        cases h
        have same := toNat_byteChar b
        rw [utf8EncodeChar_one (by omega), byteOfNat_eq same]
        exact ⟨by omega, List.prefix_append [b] rest⟩
      · cases h
    · cases h
  · rintro ⟨small, rest, rfl⟩
    rw [utf8EncodeChar_one small]
    simp [one?, UInt8.toNat_ofNat_of_lt' (by omega : c.toNat < 256), small]

theorem two?_eq_some_iff {bs : Bytes} {c : Char} :
    two? bs = some c ↔
      0x80 ≤ c.toNat ∧ c.toNat < 0x800 ∧ String.utf8EncodeChar c <+: bs := by
  constructor
  · intro h
    unfold two? at h
    split at h
    · next b₀ b₁ rest =>
      split at h
      · next lead =>
        simp only [isTail, Bool.and_eq_true, decide_eq_true_eq] at lead
        obtain ⟨low, same⟩ := shortest?_eq_some_iff.1 h
        refine ⟨by omega, by omega, ?_⟩
        rw [utf8EncodeChar_two (by omega) (by omega), byteOfNat_eq (b := b₀) (by omega),
          byteOfNat_eq (b := b₁) (by omega)]
        exact List.prefix_append [b₀, b₁] rest
      · cases h
    · cases h
  · rintro ⟨low, high, rest, rfl⟩
    rw [utf8EncodeChar_two low high]
    simp only [List.cons_append, List.nil_append, two?, isTail,
      UInt8.toNat_ofNat_of_lt' (by omega : c.toNat / 64 + 0xc0 < 256),
      UInt8.toNat_ofNat_of_lt' (by omega : c.toNat % 64 + 0x80 < 256)]
    rw [if_pos (by simp only [Bool.and_eq_true, decide_eq_true_eq]; omega)]
    exact shortest?_eq_some_iff.2 ⟨by omega, by omega⟩

theorem three?_eq_some_iff {bs : Bytes} {c : Char} :
    three? bs = some c ↔
      0x800 ≤ c.toNat ∧ c.toNat < 0x10000 ∧ String.utf8EncodeChar c <+: bs := by
  constructor
  · intro h
    unfold three? at h
    split at h
    · next b₀ b₁ b₂ rest =>
      split at h
      · next lead =>
        simp only [isTail, Bool.and_eq_true, decide_eq_true_eq] at lead
        obtain ⟨low, same⟩ := shortest?_eq_some_iff.1 h
        refine ⟨by omega, by omega, ?_⟩
        rw [utf8EncodeChar_three (by omega) (by omega), byteOfNat_eq (b := b₀) (by omega),
          byteOfNat_eq (b := b₁) (by omega), byteOfNat_eq (b := b₂) (by omega)]
        exact List.prefix_append [b₀, b₁, b₂] rest
      · cases h
    · cases h
  · rintro ⟨low, high, rest, rfl⟩
    rw [utf8EncodeChar_three low high]
    simp only [List.cons_append, List.nil_append, three?, isTail,
      UInt8.toNat_ofNat_of_lt' (by omega : c.toNat / 4096 + 0xe0 < 256),
      UInt8.toNat_ofNat_of_lt' (by omega : c.toNat / 64 % 64 + 0x80 < 256),
      UInt8.toNat_ofNat_of_lt' (by omega : c.toNat % 64 + 0x80 < 256)]
    rw [if_pos (by simp only [Bool.and_eq_true, decide_eq_true_eq]; omega)]
    exact shortest?_eq_some_iff.2 ⟨by omega, by omega⟩

theorem four?_eq_some_iff {bs : Bytes} {c : Char} :
    four? bs = some c ↔ 0x10000 ≤ c.toNat ∧ String.utf8EncodeChar c <+: bs := by
  constructor
  · intro h
    unfold four? at h
    split at h
    · next b₀ b₁ b₂ b₃ rest =>
      split at h
      · next lead =>
        simp only [isTail, Bool.and_eq_true, decide_eq_true_eq] at lead
        obtain ⟨low, same⟩ := shortest?_eq_some_iff.1 h
        refine ⟨by omega, ?_⟩
        rw [utf8EncodeChar_four (by omega), byteOfNat_eq (b := b₀) (by omega),
          byteOfNat_eq (b := b₁) (by omega), byteOfNat_eq (b := b₂) (by omega),
          byteOfNat_eq (b := b₃) (by omega)]
        exact List.prefix_append [b₀, b₁, b₂, b₃] rest
      · cases h
    · cases h
  · rintro ⟨low, rest, rfl⟩
    have := charToNat_lt c
    rw [utf8EncodeChar_four low]
    simp only [List.cons_append, List.nil_append, four?, isTail,
      UInt8.toNat_ofNat_of_lt' (by omega : c.toNat / 262144 + 0xf0 < 256),
      UInt8.toNat_ofNat_of_lt' (by omega : c.toNat / 4096 % 64 + 0x80 < 256),
      UInt8.toNat_ofNat_of_lt' (by omega : c.toNat / 64 % 64 + 0x80 < 256),
      UInt8.toNat_ofNat_of_lt' (by omega : c.toNat % 64 + 0x80 < 256)]
    rw [if_pos (by simp only [Bool.and_eq_true, decide_eq_true_eq]; omega)]
    exact shortest?_eq_some_iff.2 ⟨by omega, by omega⟩

/-! ## The leading character -/

/-- The first byte of an encoding tells its length. -/
theorem head_of_utf8EncodeChar_prefix {bs : Bytes} {c : Char}
    (starts : String.utf8EncodeChar c <+: bs) : ∃ b rest, bs = b :: rest ∧
      (c.toNat < 0x80 ∧ b.toNat < 0x80 ∨
        0x80 ≤ c.toNat ∧ c.toNat < 0x800 ∧ 0xc0 ≤ b.toNat ∧ b.toNat < 0xe0 ∨
        0x800 ≤ c.toNat ∧ c.toNat < 0x10000 ∧ 0xe0 ≤ b.toNat ∧ b.toNat < 0xf0 ∨
        0x10000 ≤ c.toNat ∧ 0xf0 ≤ b.toNat) := by
  obtain ⟨rest, rfl⟩ := starts
  have := charToNat_lt c
  by_cases one : c.toNat < 0x80
  · rw [utf8EncodeChar_one one]
    refine ⟨_, _, rfl, ?_⟩
    rw [UInt8.toNat_ofNat']
    omega
  by_cases two : c.toNat < 0x800
  · rw [utf8EncodeChar_two (by omega) two]
    refine ⟨_, _, rfl, ?_⟩
    rw [UInt8.toNat_ofNat']
    omega
  by_cases three : c.toNat < 0x10000
  · rw [utf8EncodeChar_three (by omega) three]
    refine ⟨_, _, rfl, ?_⟩
    rw [UInt8.toNat_ofNat']
    omega
  · rw [utf8EncodeChar_four (by omega)]
    refine ⟨_, _, rfl, ?_⟩
    rw [UInt8.toNat_ofNat']
    omega

/-- Encodings that one byte string begins with are of the same length class. -/
private theorem class_of_prefixes {bs : Bytes} {c d : Char}
    (hc : String.utf8EncodeChar c <+: bs) (hd : String.utf8EncodeChar d <+: bs) :
    (c.toNat < 0x80 ↔ d.toNat < 0x80) ∧ (c.toNat < 0x800 ↔ d.toNat < 0x800) ∧
      (c.toNat < 0x10000 ↔ d.toNat < 0x10000) := by
  obtain ⟨b, rest, rfl, classC⟩ := head_of_utf8EncodeChar_prefix hc
  obtain ⟨b', rest', same, classD⟩ := head_of_utf8EncodeChar_prefix hd
  cases same
  omega

/-- The bytes lead with a character exactly if they begin with its encoding. -/
theorem leading?_eq_some_iff {bs : Bytes} {c : Char} :
    leading? bs = some c ↔ String.utf8EncodeChar c <+: bs := by
  simp only [leading?, Option.or_eq_some_iff, one?_eq_some_iff, two?_eq_some_iff,
    three?_eq_some_iff, four?_eq_some_iff]
  constructor
  · rintro (⟨_, h⟩ | ⟨_, ⟨_, _, h⟩ | ⟨_, ⟨_, _, h⟩ | ⟨_, _, h⟩⟩⟩) <;> exact h
  · intro h
    have noOne (high : 0x80 ≤ c.toNat) : one? bs = none := by
      refine Option.eq_none_iff_forall_ne_some.2 fun d found => ?_
      obtain ⟨small, starts⟩ := one?_eq_some_iff.1 found
      have := class_of_prefixes h starts
      omega
    have noTwo (high : 0x800 ≤ c.toNat) : two? bs = none := by
      refine Option.eq_none_iff_forall_ne_some.2 fun d found => ?_
      obtain ⟨_, small, starts⟩ := two?_eq_some_iff.1 found
      have := class_of_prefixes h starts
      omega
    have noThree (high : 0x10000 ≤ c.toNat) : three? bs = none := by
      refine Option.eq_none_iff_forall_ne_some.2 fun d found => ?_
      obtain ⟨_, small, starts⟩ := three?_eq_some_iff.1 found
      have := class_of_prefixes h starts
      omega
    by_cases one : c.toNat < 0x80
    · exact Or.inl ⟨one, h⟩
    refine Or.inr ⟨noOne (by omega), ?_⟩
    by_cases two : c.toNat < 0x800
    · exact Or.inl ⟨by omega, two, h⟩
    refine Or.inr ⟨noTwo (by omega), ?_⟩
    by_cases three : c.toNat < 0x10000
    · exact Or.inl ⟨by omega, three, h⟩
    exact Or.inr ⟨noThree (by omega), by omega, h⟩

/-! ## Decoding and encoding -/

/-- A character is read back from its encoding, whatever follows. -/
theorem decode_char_append (c : Char) (rest : Bytes) :
    decode (String.utf8EncodeChar c ++ rest) = .char c :: decode rest := by
  have found := leading?_eq_some_iff.2 (List.prefix_append (String.utf8EncodeChar c) rest)
  have length := String.length_utf8EncodeChar c
  cases bytes : String.utf8EncodeChar c with
  | nil => exact absurd bytes String.utf8EncodeChar_ne_nil
  | cons b tail =>
    rw [bytes, List.cons_append] at found
    rw [bytes, List.length_cons] at length
    rw [List.cons_append, decode_cons, found]
    simp [← length]

/-- Decoding loses no byte. -/
theorem encode_decode (bs : Bytes) : encode (decode bs) = bs := by
  induction h : bs.length using Nat.strongRecOn generalizing bs with
  | ind n ih =>
    cases bs with
    | nil => rfl
    | cons b rest =>
      rw [decode_cons]
      cases found : leading? (b :: rest) with
      | none =>
        simp only [encode_cons, Glyph.bytes, List.cons_append, List.nil_append]
        rw [ih rest.length (by simp [← h]) rest rfl]
      | some c =>
        obtain ⟨tail, same⟩ := leading?_eq_some_iff.1 found
        have behind : rest.drop (c.utf8Size - 1) = tail := by
          rw [← String.length_utf8EncodeChar c]
          have := congrArg (List.drop (String.utf8EncodeChar c).length) same
          rw [List.drop_left] at this
          rw [this]
          cases bytes : String.utf8EncodeChar c with
          | nil => exact absurd bytes String.utf8EncodeChar_ne_nil
          | cons => simp
        have shorter : tail.length < n := by
          have := congrArg List.length same
          have := Char.utf8Size_pos c
          simp only [List.length_append, String.length_utf8EncodeChar] at *
          omega
        simp only [encode_cons, Glyph.bytes]
        rw [behind, ih tail.length shorter tail rfl, same]

end AsmXml.Text
