import AsmXml.Proofs.Text.Decoding
import AsmXml.Text.Upper

/-! # Upper case and ASCII

Apart from the small ASCII letters, only the dotless i and the long s have an ASCII character as
upper case, and no character has one of these as upper case (`upperChar_cases`). So upper case that
is ASCII is reached in one step (`upperChar_eq_of_upperChar`).
-/

namespace AsmXml.Text

/-! ## One character -/

/-- The three runs whose upper case is ASCII, and what keeps the upper case of the others away from
ASCII, from the dotless i and from the long s, and among the characters. -/
theorem caseRuns_cases : ∀ r ∈ caseRuns,
    r = ⟨0x61, 0x7a, 1, -32⟩ ∨ r = ⟨0x131, 0x131, 1, -232⟩ ∨ r = ⟨0x17f, 0x17f, 1, -300⟩ ∨
      (0x80 ≤ r.first ∧ 0x80 ≤ r.first + r.shift ∧
        (r.last + r.shift < 0x131 ∨ 0x131 < r.first + r.shift) ∧
        (r.last + r.shift < 0x17f ∨ 0x17f < r.first + r.shift) ∧
        (r.last + r.shift < 0xd800 ∨ 0xdfff < r.first + r.shift) ∧
        r.last + r.shift < 0x110000) := by
  decide +kernel

theorem contains_bounds {r : CaseRun} {n : Nat} (h : r.contains n = true) :
    r.first ≤ n ∧ n ≤ r.last := by
  unfold CaseRun.contains at h
  simp only [Bool.and_eq_true, decide_eq_true_eq] at h
  exact h.1

theorem toNat_shifted {n : Nat} {shift : Int}
    (hv : n + shift < 0xd800 ∨ 0xdfff < n + shift) (hn : n + shift < 0x110000) :
    (Char.ofNat (n + shift).toNat).toNat = (n + shift).toNat := by
  have hvalid : (n + shift).toNat.isValidChar := by
    unfold Nat.isValidChar
    omega
  obtain ⟨c, hc⟩ := exists_char hvalid
  rw [← hc, Char.ofNat_toNat]

theorem upperChar_of_find {c : Char} {r : CaseRun}
    (h : caseRuns.find? (·.contains c.toNat) = some r) :
    upperChar c = Char.ofNat (c.toNat + r.shift).toNat := by
  unfold upperChar
  rw [h]

/-- What the upper case of a character can be: the character itself, the capital of a small ASCII
letter, an `I` or an `S` for the two letters outside ASCII that have one, or a character outside
ASCII that is none of these two. -/
theorem upperChar_cases (c : Char) :
    (upperChar c = c ∧ ¬(0x61 ≤ c.toNat ∧ c.toNat ≤ 0x7a) ∧ c.toNat ≠ 0x131 ∧ c.toNat ≠ 0x17f) ∨
    (0x61 ≤ c.toNat ∧ c.toNat ≤ 0x7a ∧ (upperChar c).toNat + 0x20 = c.toNat) ∨
    (c.toNat = 0x131 ∧ (upperChar c).toNat = 0x49) ∨
    (c.toNat = 0x17f ∧ (upperChar c).toNat = 0x53) ∨
    (0x80 ≤ c.toNat ∧ 0x80 ≤ (upperChar c).toNat ∧ (upperChar c).toNat ≠ 0x131 ∧
      (upperChar c).toNat ≠ 0x17f) := by
  cases hf : caseRuns.find? (·.contains c.toNat) with
  | none =>
    have hu : upperChar c = c := by
      unfold upperChar
      rw [hf]
    have hn := List.find?_eq_none.1 hf
    have h1 := hn ⟨0x61, 0x7a, 1, -32⟩ (by decide)
    have h2 := hn ⟨0x131, 0x131, 1, -232⟩ (by decide)
    have h3 := hn ⟨0x17f, 0x17f, 1, -300⟩ (by decide)
    simp only [CaseRun.contains, Nat.mod_one, beq_self_eq_true, Bool.and_true, Bool.and_eq_true,
      decide_eq_true_eq] at h1 h2 h3
    exact Or.inl ⟨hu, h1, by omega, by omega⟩
  | some r =>
    have hc : r.contains c.toNat = true := by simpa using List.find?_some hf
    have hb := contains_bounds hc
    rw [upperChar_of_find hf]
    refine Or.inr ?_
    rcases caseRuns_cases r (List.mem_of_find?_eq_some hf) with rfl | rfl | rfl | hr
    · simp only at hb ⊢
      rw [toNat_shifted (by omega) (by omega)]
      omega
    · simp only at hb ⊢
      rw [toNat_shifted (by omega) (by omega)]
      omega
    · simp only at hb ⊢
      rw [toNat_shifted (by omega) (by omega)]
      omega
    · rw [toNat_shifted (by omega) (by omega)]
      omega

theorem upperChar_of_lt {c : Char} (h : c.toNat < 0x61) : upperChar c = c := by
  rcases upperChar_cases c with ⟨hu, -⟩ | h' | h' | h' | h'
  · exact hu
  all_goals omega

/-- Upper case of upper case that is ASCII is the upper case itself. -/
theorem upperChar_eq_of_upperChar {c d : Char} (hd : d.toNat < 0x61)
    (h : upperChar (upperChar c) = d) : upperChar c = d := by
  have hn := congrArg Char.toNat h
  rcases upperChar_cases (upperChar c) with ⟨hu, -⟩ | h2 | h2 | h2 | h2
  · rw [← hu, h]
  -- the first upper case would be a small letter, the dotless i or the long s
  all_goals
    rcases upperChar_cases c with ⟨hc, h1⟩ | h1 | h1 | h1 | h1
    · rw [hc] at h2 hn
      omega
    all_goals omega

/-! ## Texts -/

theorem exists_upper_eq_char (g : Glyph) : ∃ c, g.upper = .char c := by
  cases g with
  | char c => exact ⟨upperChar c, rfl⟩
  | stray b => exact ⟨replacement, rfl⟩

theorem exists_map_upper_eq_chars (gs : List Glyph) :
    ∃ cs : List Char, gs.map Glyph.upper = cs.map .char := by
  induction gs with
  | nil => exact ⟨[], rfl⟩
  | cons g gs ih =>
    obtain ⟨c, hc⟩ := exists_upper_eq_char g
    obtain ⟨cs, hcs⟩ := ih
    exact ⟨c :: cs, by rw [List.map_cons, hc, hcs, List.map_cons]⟩

theorem decode_upper (bs : Bytes) : decode (upper bs) = (decode bs).map Glyph.upper := by
  obtain ⟨cs, hcs⟩ := exists_map_upper_eq_chars (decode bs)
  unfold upper
  rw [hcs, encode_chars, decode_chars]

theorem decode_ascii {bs : Bytes} (h : ∀ b ∈ bs, b.toNat < 0x80) :
    decode bs = bs.map fun b => .char (Char.ofNat b.toNat) := by
  induction bs with
  | nil => rfl
  | cons b bs ih =>
    obtain ⟨hb, hbs⟩ := List.forall_mem_cons.1 h
    rw [decode_ascii_cons hb, ih hbs]
    rfl

theorem upper_of_lt {bs : Bytes} (h : ∀ b ∈ bs, b.toNat < 0x61) : upper bs = bs := by
  have hd := decode_ascii fun b hb => Nat.lt_trans (h b hb) (by decide)
  have hu : (decode bs).map Glyph.upper = decode bs := by
    rw [hd, List.map_map]
    apply List.map_congr_left
    intro b hb
    have hn := toNat_byteChar b
    have := h b hb
    simp only [Function.comp_apply, Glyph.upper]
    rw [upperChar_of_lt (by omega)]
  unfold upper
  rw [hu, encode_decode]

/-- Upper case of upper case is reached in one step when it is ASCII without small letters. -/
theorem upper_eq_of_upper {bs name : Bytes} (hn : ∀ b ∈ name, b.toNat < 0x61)
    (h : upper (upper bs) = name) : upper bs = name := by
  have hd := decode_upper (upper bs)
  rw [h, decode_upper, decode_ascii fun b hb => Nat.lt_trans (hn b hb) (by decide)] at hd
  have hm : ((decode bs).map Glyph.upper).map Glyph.upper = (decode bs).map Glyph.upper := by
    rw [List.map_map]
    apply List.map_congr_left
    intro g hg
    have hmem : g.upper.upper ∈ ((decode bs).map Glyph.upper).map Glyph.upper :=
      List.mem_map_of_mem (List.mem_map_of_mem hg)
    rw [← hd] at hmem
    obtain ⟨b, hb, he⟩ := List.mem_map.1 hmem
    have hlt := hn b hb
    have hv := toNat_byteChar b
    rw [Function.comp_apply]
    cases g with
    | char c =>
      have hu : upperChar (upperChar c) = Char.ofNat b.toNat := by
        simpa [Glyph.upper] using he.symm
      simp only [Glyph.upper]
      rw [hu, upperChar_eq_of_upperChar (by omega) hu]
    | stray b' =>
      have hr : upperChar replacement = replacement := by decide
      simp only [Glyph.upper, hr]
  rw [← h]
  unfold upper
  rw [← decode_upper bs] at hm
  unfold upper at hm
  rw [hm, encode_decode]

end AsmXml.Text
