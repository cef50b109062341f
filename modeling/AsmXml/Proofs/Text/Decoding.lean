import AsmXml.Text.Utf8.Lemmas

/-! # Cutting byte strings between glyphs

Encoding glyphs and decoding the result need not give them back: stray bytes that stand side by side
may form a character. It does for what decoding itself gives (`Canonical`), and for every part of it
(`Canonical.of_isInfix`). Two byte strings decode one after the other wherever the second does not
go on with an encoding that the first began, in front of an ASCII byte above all
(`decode_append_ascii`). A text without stray bytes is the UTF-8 of its characters
(`chars?_eq_some_iff`).
-/

namespace AsmXml.Text

/-! ## Glyphs that are read back -/

/-- Decoding reads the glyphs back from their bytes. -/
def Canonical (gs : List Glyph) : Prop :=
  decode (encode gs) = gs

theorem canonical_decode (bs : Bytes) : Canonical (decode bs) := by
  unfold Canonical
  rw [encode_decode]

theorem canonical_nil : Canonical [] := rfl

theorem canonical_char_cons {c : Char} {gs : List Glyph} :
    Canonical (.char c :: gs) ↔ Canonical gs := by
  unfold Canonical
  rw [encode_cons, Glyph.bytes, decode_char_append]
  simp

theorem decode_stray_cons {b : UInt8} {rest : Bytes} (h : leading? (b :: rest) = none) :
    decode (b :: rest) = .stray b :: decode rest := by
  rw [decode_cons, h]

/-- A stray byte in front is read back unless it begins a character together with what follows. -/
theorem canonical_stray_cons {b : UInt8} {gs : List Glyph} :
    Canonical (.stray b :: gs) ↔ leading? (b :: encode gs) = none ∧ Canonical gs := by
  unfold Canonical
  have he : encode (.stray b :: gs) = b :: encode gs := rfl
  rw [he]
  constructor
  · intro h
    cases hl : leading? (b :: encode gs) with
    | some c =>
      rw [decode_cons, hl] at h
      cases (List.cons.inj h).1
    | none =>
      rw [decode_stray_cons hl] at h
      exact ⟨rfl, (List.cons.inj h).2⟩
  · rintro ⟨hl, hg⟩
    rw [decode_stray_cons hl, hg]

/-- Bytes that begin with no encoding still do not when they are cut short. -/
theorem leading?_eq_none_of_append {xs ys : Bytes} (h : leading? (xs ++ ys) = none) :
    leading? xs = none := by
  apply Option.eq_none_iff_forall_ne_some.2
  intro c hc
  have hp : String.utf8EncodeChar c <+: xs ++ ys :=
    (leading?_eq_some_iff.1 hc).trans (List.prefix_append xs ys)
  rw [leading?_eq_some_iff.2 hp] at h
  cases h

theorem Canonical.right {gs hs : List Glyph} (h : Canonical (gs ++ hs)) : Canonical hs := by
  induction gs with
  | nil => exact h
  | cons g gs ih =>
    cases g with
    | char c => exact ih (canonical_char_cons.1 h)
    | stray b => exact ih (canonical_stray_cons.1 h).2

theorem Canonical.left {gs hs : List Glyph} (h : Canonical (gs ++ hs)) : Canonical gs := by
  induction gs with
  | nil => exact canonical_nil
  | cons g gs ih =>
    cases g with
    | char c => exact canonical_char_cons.2 (ih (canonical_char_cons.1 h))
    | stray b =>
      rw [List.cons_append] at h
      obtain ⟨hl, hg⟩ := canonical_stray_cons.1 h
      rw [encode_append, ← List.cons_append] at hl
      exact canonical_stray_cons.2 ⟨leading?_eq_none_of_append hl, ih hg⟩

theorem Canonical.of_isInfix {gs hs : List Glyph} (h : Canonical hs) (hi : gs <:+: hs) :
    Canonical gs := by
  obtain ⟨front, back, rfl⟩ := hi
  exact h.left.right

/-! ## Joining byte strings -/

/-- Every byte of an encoding after the first is a tail byte. -/
theorem isTail_of_mem_tail {b : UInt8} {c : Char} (h : b ∈ (String.utf8EncodeChar c).tail) :
    isTail b = true := by
  have hc := charToNat_lt c
  have tail {n : Nat} (hn : n < 64) : isTail (UInt8.ofNat (n + 0x80)) = true := by
    simp only [isTail, UInt8.toNat_ofNat_of_lt' (by omega : n + 0x80 < 256), Bool.and_eq_true,
      decide_eq_true_eq]
    omega
  by_cases h1 : c.toNat < 0x80
  · rw [utf8EncodeChar_one h1] at h
    cases h
  by_cases h2 : c.toNat < 0x800
  · rw [utf8EncodeChar_two (by omega) h2] at h
    simp only [List.tail_cons, List.mem_singleton] at h
    rw [h]
    exact tail (by omega)
  by_cases h3 : c.toNat < 0x10000
  · rw [utf8EncodeChar_three (by omega) h3] at h
    simp only [List.tail_cons, List.mem_cons, List.not_mem_nil, or_false] at h
    rcases h with rfl | rfl
    · exact tail (by omega)
    · exact tail (by omega)
  · rw [utf8EncodeChar_four (by omega)] at h
    simp only [List.tail_cons, List.mem_cons, List.not_mem_nil, or_false] at h
    rcases h with rfl | rfl | rfl
    · exact tail (by omega)
    · exact tail (by omega)
    · exact tail (by omega)

/-- A leading character ends before a byte that continues no encoding. -/
theorem leading?_append_eq_none {b y : UInt8} {xs ys : Bytes} (hy : isTail y = false)
    (h : leading? (b :: xs) = none) : leading? (b :: xs ++ y :: ys) = none := by
  apply Option.eq_none_iff_forall_ne_some.2
  intro c hc
  have hp := leading?_eq_some_iff.1 hc
  rcases List.prefix_or_prefix_of_prefix hp (List.prefix_append (b :: xs) (y :: ys)) with hs | hl
  · rw [leading?_eq_some_iff.2 hs] at h
    cases h
  · obtain ⟨more, hm⟩ := hl
    rw [← hm, List.prefix_append_right_inj] at hp
    cases more with
    | nil =>
      rw [List.append_nil] at hm
      rw [hm, leading?_eq_some_iff.2 (List.prefix_refl _)] at h
      cases h
    | cons z more =>
      obtain ⟨rfl, -⟩ := List.cons_prefix_cons.1 hp
      have hz : z ∈ (String.utf8EncodeChar c).tail := by
        rw [← hm]
        simp
      rw [isTail_of_mem_tail hz] at hy
      cases hy

theorem Canonical.append {gs hs : List Glyph} (hg : Canonical gs) (hh : Canonical hs)
    (hb : ∀ b rest, encode hs = b :: rest → isTail b = false) : Canonical (gs ++ hs) := by
  induction gs with
  | nil => exact hh
  | cons g gs ih =>
    cases g with
    | char c => exact canonical_char_cons.2 (ih (canonical_char_cons.1 hg))
    | stray b =>
      obtain ⟨hl, hg⟩ := canonical_stray_cons.1 hg
      rw [List.cons_append]
      refine canonical_stray_cons.2 ⟨?_, ih hg⟩
      rw [encode_append]
      cases he : encode hs with
      | nil => rwa [List.append_nil]
      | cons y ys => exact leading?_append_eq_none (hb y ys he) hl

/-- Decoding is split wherever the second part begins with a byte that continues no encoding. -/
theorem decode_append {xs ys : Bytes} (hb : ∀ b rest, ys = b :: rest → isTail b = false) :
    decode (xs ++ ys) = decode xs ++ decode ys := by
  have hc : Canonical (decode xs ++ decode ys) := by
    apply (canonical_decode xs).append (canonical_decode ys)
    rwa [encode_decode]
  unfold Canonical at hc
  rwa [encode_append, encode_decode, encode_decode] at hc

/-! ## Characters and ASCII bytes -/

theorem decode_chars_append (cs : List Char) (rest : Bytes) :
    decode (cs.flatMap String.utf8EncodeChar ++ rest) = cs.map .char ++ decode rest := by
  induction cs with
  | nil => rfl
  | cons c cs ih =>
    rw [List.flatMap_cons, List.append_assoc, decode_char_append, ih]
    rfl

theorem decode_chars (cs : List Char) :
    decode (cs.flatMap String.utf8EncodeChar) = cs.map .char := by
  simpa using decode_chars_append cs []

theorem encode_chars (cs : List Char) :
    encode (cs.map .char) = cs.flatMap String.utf8EncodeChar := by
  unfold encode
  rw [List.flatMap_map]
  rfl

theorem decode_utf8_append (s : String) (rest : Bytes) :
    decode (utf8 s ++ rest) = s.toList.map .char ++ decode rest :=
  decode_chars_append s.toList rest

/-- Glyphs of a class that has no stray byte are characters of it. -/
theorem exists_chars {p : Glyph → Bool} (hp : ∀ b, p (.stray b) = false) {gs : List Glyph}
    (h : ∀ g ∈ gs, p g = true) :
    ∃ cs : List Char, gs = cs.map .char ∧ ∀ c ∈ cs, p (.char c) = true := by
  induction gs with
  | nil => exact ⟨[], rfl, by simp⟩
  | cons g gs ih =>
    obtain ⟨hg, hgs⟩ := List.forall_mem_cons.1 h
    obtain ⟨cs, rfl, hcs⟩ := ih hgs
    cases g with
    | char c => exact ⟨c :: cs, rfl, List.forall_mem_cons.2 ⟨hg, hcs⟩⟩
    | stray b =>
      rw [hp b] at hg
      cases hg

theorem chars?_chars (cs : List Char) : chars? (cs.flatMap String.utf8EncodeChar) = some cs := by
  unfold chars?
  rw [decode_chars]
  induction cs with
  | nil => rfl
  | cons c cs ih =>
    rw [List.map_cons, List.mapM_cons, ih]
    rfl

/-- A text is UTF-8 exactly if it has no stray bytes. -/
theorem chars?_eq_some_iff {t : Bytes} {cs : List Char} :
    chars? t = some cs ↔ decode t = cs.map .char := by
  constructor
  · unfold chars?
    generalize decode t = gs
    intro h
    induction gs generalizing cs with
    | nil =>
      cases h
      rfl
    | cons g gs ih =>
      rw [List.mapM_cons] at h
      cases g with
      | stray b => cases h
      | char c =>
        obtain ⟨_, hc, h⟩ := Option.bind_eq_some_iff.1 h
        cases hc
        obtain ⟨ds, hds, he⟩ := Option.bind_eq_some_iff.1 h
        cases he
        rw [ih hds, List.map_cons]
  · intro h
    have ht : t = cs.flatMap String.utf8EncodeChar := by
      rw [← encode_chars, ← h, encode_decode]
    rw [ht, chars?_chars]

theorem utf8EncodeChar_ofNat {b : UInt8} (hb : b.toNat < 0x80) :
    String.utf8EncodeChar (Char.ofNat b.toNat) = [b] := by
  have hn := toNat_byteChar b
  rw [utf8EncodeChar_one (by omega), byteOfNat_eq hn]

theorem decode_ascii_cons {b : UInt8} (hb : b.toNat < 0x80) (rest : Bytes) :
    decode (b :: rest) = .char (Char.ofNat b.toNat) :: decode rest := by
  have h := decode_char_append (Char.ofNat b.toNat) rest
  rwa [utf8EncodeChar_ofNat hb] at h

theorem decode_append_ascii (xs : Bytes) {b : UInt8} (hb : b.toNat < 0x80) (rest : Bytes) :
    decode (xs ++ b :: rest) = decode xs ++ .char (Char.ofNat b.toNat) :: decode rest := by
  rw [decode_append, decode_ascii_cons hb]
  intro b' rest' h
  cases h
  simp only [isTail, Bool.and_eq_false_iff, decide_eq_false_iff_not]
  omega

/-- An ASCII byte is a character wherever it stands. -/
theorem mem_decode_of_mem {b : UInt8} {bs : Bytes} (hb : b.toNat < 0x80) (h : b ∈ bs) :
    .char (Char.ofNat b.toNat) ∈ decode bs := by
  obtain ⟨xs, ys, rfl⟩ := List.append_of_mem h
  rw [decode_append_ascii xs hb]
  simp

/-- An ASCII byte in the encoding of a character is that character. -/
theorem toNat_eq_of_mem_utf8EncodeChar {b : UInt8} {c : Char} (hb : b.toNat < 0x80)
    (h : b ∈ String.utf8EncodeChar c) : c.toNat = b.toNat := by
  have hm := mem_decode_of_mem hb h
  have hd : decode (String.utf8EncodeChar c) = [.char c] := by simpa using decode_chars [c]
  rw [hd, List.mem_singleton, Glyph.char.injEq] at hm
  rw [← hm, toNat_byteChar]

end AsmXml.Text
