import AsmXml.Proofs.Text.Upper

/-! # The case of ASCII letters

ASCII letters are single bytes and part of no longer encoding, so a text whose letters are made small
byte by byte is read as the same glyphs otherwise. Upper case does not see the difference
(`upper_eq_of_sameLetters`).
-/

namespace AsmXml.Text

/-- The byte, made small if it is a capital ASCII letter. -/
def smallByte (b : UInt8) : UInt8 :=
  if 0x41 ≤ b.toNat ∧ b.toNat ≤ 0x5a then b + 0x20 else b

/-- The texts differ at most in the case of ASCII letters. -/
def SameLetters (xs ys : Bytes) : Prop :=
  xs.map smallByte = ys.map smallByte

theorem SameLetters.refl (xs : Bytes) : SameLetters xs xs := rfl

theorem smallByte_cases (b : UInt8) :
    0x41 ≤ b.toNat ∧ b.toNat ≤ 0x5a ∧ (smallByte b).toNat = b.toNat + 0x20 ∨
      ¬(0x41 ≤ b.toNat ∧ b.toNat ≤ 0x5a) ∧ smallByte b = b := by
  by_cases h : 0x41 ≤ b.toNat ∧ b.toNat ≤ 0x5a
  · refine Or.inl ⟨h.1, h.2, ?_⟩
    have hn : (0x20 : UInt8).toNat = 0x20 := rfl
    rw [smallByte, if_pos h, UInt8.toNat_add, hn]
    omega
  · exact Or.inr ⟨h, if_neg h⟩

/-! ## Reading small letters -/

theorem smallByte_eq_iff {b e : UInt8} (he : 0x80 ≤ e.toNat) : smallByte b = e ↔ b = e := by
  constructor
  · rintro rfl
    rcases smallByte_cases b with ⟨-, hb, hn⟩ | ⟨-, hn⟩
    · omega
    · exact hn.symm
  · rintro rfl
    rcases smallByte_cases b with ⟨-, hb, -⟩ | ⟨-, hn⟩
    · omega
    · exact hn

theorem prefix_map_smallByte {es : Bytes} (h : ∀ e ∈ es, 0x80 ≤ e.toNat) (rest : Bytes) :
    es <+: rest.map smallByte ↔ es <+: rest := by
  induction es generalizing rest with
  | nil => simp
  | cons e es ih =>
    obtain ⟨he, hes⟩ := List.forall_mem_cons.1 h
    cases rest with
    | nil => simp
    | cons b rest =>
      rw [List.map_cons, List.cons_prefix_cons, List.cons_prefix_cons, ih hes, eq_comm,
        smallByte_eq_iff he, eq_comm]

theorem leading?_map_smallByte (b : UInt8) (rest : Bytes) :
    leading? (b :: rest.map smallByte) = leading? (b :: rest) := by
  apply Option.ext
  intro c
  rw [leading?_eq_some_iff, leading?_eq_some_iff]
  cases he : String.utf8EncodeChar c with
  | nil => simp
  | cons e es =>
    have ht : ∀ x ∈ es, 0x80 ≤ x.toNat := by
      intro x hx
      have := isTail_of_mem_tail (b := x) (c := c) (by rwa [he])
      simp only [isTail, Bool.and_eq_true, decide_eq_true_eq] at this
      exact this.1
    rw [List.cons_prefix_cons, List.cons_prefix_cons, prefix_map_smallByte ht]

theorem upperChar_smallByte {b : UInt8} (hb : b.toNat < 0x80) :
    upperChar (Char.ofNat (smallByte b).toNat) = upperChar (Char.ofNat b.toNat) := by
  rcases smallByte_cases b with ⟨hl, hh, hn⟩ | ⟨-, hn⟩
  · have hv := toNat_byteChar b
    have hs := toNat_byteChar (smallByte b)
    rw [upperChar_of_lt (c := Char.ofNat b.toNat) (by omega), ← Char.toNat_inj, hv]
    rcases upperChar_cases (Char.ofNat (smallByte b).toNat) with h | h | h | h | h <;> omega
  · rw [hn]

/-- Small letters in place of capitals leave the upper case of every glyph. The induction is on the
length, because a character takes several bytes at once. -/
theorem map_upper_decode_smallByte (bs : Bytes) :
    (decode (bs.map smallByte)).map Glyph.upper = (decode bs).map Glyph.upper := by
  -- on the length, because a character takes several bytes
  induction h : bs.length using Nat.strongRecOn generalizing bs with
  | ind n ih =>
    cases bs with
    | nil => rfl
    | cons b rest =>
      have hshort (k : Nat) : (decode ((rest.drop k).map smallByte)).map Glyph.upper =
          (decode (rest.drop k)).map Glyph.upper := by
        have hlt : (rest.drop k).length < n := by
          rw [← h, List.length_cons, List.length_drop]
          omega
        exact ih (rest.drop k).length hlt (rest.drop k) rfl
      rw [List.map_cons]
      by_cases hb : b.toNat < 0x80
      · have hs : (smallByte b).toNat < 0x80 := by
          rcases smallByte_cases b with hc | ⟨-, hc⟩
          · omega
          · rwa [hc]
        have hr := hshort 0
        rw [List.drop_zero] at hr
        rw [decode_ascii_cons hs, decode_ascii_cons hb, List.map_cons, List.map_cons, hr,
          Glyph.upper, Glyph.upper, upperChar_smallByte hb]
      · rw [(smallByte_eq_iff (by omega)).2 rfl, decode_cons, decode_cons,
          leading?_map_smallByte]
        cases leading? (b :: rest) with
        | some c =>
          have hr := hshort (c.utf8Size - 1)
          rw [List.map_drop] at hr
          simp only [List.map_cons, hr]
        | none =>
          have hr := hshort 0
          rw [List.drop_zero] at hr
          simp only [List.map_cons, hr]

theorem upper_map_smallByte (bs : Bytes) : upper (bs.map smallByte) = upper bs := by
  unfold upper
  rw [map_upper_decode_smallByte]

theorem upper_eq_of_sameLetters {xs ys : Bytes} (h : SameLetters xs ys) : upper xs = upper ys := by
  rw [← upper_map_smallByte xs, h, upper_map_smallByte]

end AsmXml.Text
