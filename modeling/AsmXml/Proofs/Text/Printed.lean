import AsmXml.Proofs.Text.CharacterClass
import AsmXml.Proofs.Text.Decimal
import AsmXml.Text.Quoted

/-! # Printed text

A text is printed if it is UTF-8 throughout and every character of it is printable (`Printed`).
Numbers are printed, and so is every quoted text, whatever bytes it quotes (`printed_quote`). A
printed text holds no control byte (`Printed.not_mem`).
-/

namespace AsmXml.Text

/-- A text of printable characters. -/
def Printed (text : Bytes) : Prop :=
  MadeOf isPrintable text

/-! ## Printable characters -/

theorem isPrintable_of_ascii {c : Char} (hl : 0x20 ≤ c.toNat) (hu : c.toNat ≤ 0x7e) :
    isPrintable c = true := by
  -- the ranges of ASCII stand at the front of each table
  have htable : (List.range 0x7f).all (fun n => n ≤ 0x20 ||
      (letterRanges.take 2).any (·.contains n) || (numberRanges.take 1).any (·.contains n) ||
      (punctuationRanges.take 9).any (·.contains n) || (signRanges.take 7).any (·.contains n)) =
        true := by decide
  have hc := List.all_eq_true.1 htable c.toNat (List.mem_range.2 (by omega))
  have front {ranges : List CodeRange} {k : Nat}
      (h : (ranges.take k).any (·.contains c.toNat) = true) :
      ranges.any (·.contains c.toNat) = true := by
    obtain ⟨r, hr, hin⟩ := List.any_eq_true.1 h
    exact List.any_eq_true.2 ⟨r, List.mem_of_mem_take hr, hin⟩
  unfold isPrintable
  simp only [Bool.or_eq_true, decide_eq_true_eq, beq_iff_eq] at hc ⊢
  rcases hc with (((hc | hc) | hc) | hc) | hc
  · refine Or.inr (Char.toNat_inj.1 ?_)
    have hs : ' '.toNat = 0x20 := rfl
    omega
  · exact Or.inl (Or.inl (Or.inl (Or.inl (Or.inl (front hc)))))
  · exact Or.inl (Or.inl (Or.inl (Or.inr (front hc))))
  · exact Or.inl (Or.inl (Or.inr (front hc)))
  · exact Or.inl (Or.inr (front hc))

/-- No control character of ASCII is printable: all runs of the tables lie behind them. -/
theorem le_toNat_of_isPrintable {c : Char} (h : isPrintable c = true) : 0x20 ≤ c.toNat := by
  have htable : (letterRanges ++ markRanges ++ numberRanges ++ punctuationRanges ++
      signRanges).all (fun r => 0x20 ≤ r.first) = true := by decide +kernel
  simp only [List.all_append, Bool.and_eq_true] at htable
  obtain ⟨⟨⟨⟨hletter, hmark⟩, hnumber⟩, hpunctuation⟩, hsign⟩ := htable
  have low {ranges : List CodeRange} (hr : ranges.all (fun r => 0x20 ≤ r.first) = true)
      (hc : ranges.any (·.contains c.toNat) = true) : 0x20 ≤ c.toNat := by
    obtain ⟨r, hm, hin⟩ := List.any_eq_true.1 hc
    have hf := List.all_eq_true.1 hr r hm
    simp only [CodeRange.contains, Bool.and_eq_true, decide_eq_true_eq] at hin hf
    omega
  unfold isPrintable at h
  simp only [Bool.or_eq_true, beq_iff_eq] at h
  rcases h with ((((h | h) | h) | h) | h) | rfl
  · exact low hletter h
  · exact low hmark h
  · exact low hnumber h
  · exact low hpunctuation h
  · exact low hsign h
  · decide

/-! ## Texts -/

theorem printed_of_ascii {text : Bytes} (h : isPlainAscii text = true) : Printed text :=
  madeOf_of_isPlainAscii isPrintable_of_ascii h

/-- A printed text holds no control byte. -/
theorem Printed.not_mem {text : Bytes} (h : Printed text) {b : UInt8} (hb : b.toNat < 0x20) :
    b ∉ text := by
  intro hm
  have hp := le_toNat_of_isPrintable (h.of_mem (by omega) hm)
  rw [toNat_byteChar] at hp
  omega

/-! ## Numbers -/

theorem printed_digits {base : Nat} (hb : 1 < base) (hs : base ≤ 16) (n : Nat) :
    Printed (digits base n) := by
  have hdigits : ∀ d < 16, 0x20 ≤ d.digitChar.toNat ∧ d.digitChar.toNat ≤ 0x7e := by decide
  refine ⟨Nat.toDigits base n, rfl, fun c hc => ?_⟩
  obtain ⟨d, hd, rfl⟩ := mem_toDigits hb hc
  obtain ⟨hl, hu⟩ := hdigits d (by omega)
  exact isPrintable_of_ascii hl hu

theorem printed_decimal (n : Int) : Printed (decimal n) := by
  cases n with
  | ofNat n => exact printed_digits (by omega) (by omega) n
  | negSucc n =>
    exact (printed_of_ascii rfl).append (printed_digits (by omega) (by omega) (n + 1))

theorem printed_hex (width n : Nat) : Printed (hex width n) := by
  have hzeros (k : Nat) : Printed (List.replicate k 0x30) := by
    refine printed_of_ascii (List.all_eq_true.2 fun b hb => ?_)
    rw [List.eq_of_mem_replicate hb]
    rfl
  exact (hzeros _).append (printed_digits (by omega) (by omega) n)

theorem printed_unknownName (code : Int) : Printed (unknownName code) :=
  ((printed_of_ascii rfl).append (printed_decimal code)).append
    (printed_of_ascii rfl)

/-! ## Quoted texts -/

theorem printed_codeEscape (n : Nat) : Printed (codeEscape n) := by
  unfold codeEscape
  split
  · exact (printed_of_ascii rfl).append (printed_hex 2 n)
  · split
    · exact (printed_of_ascii rfl).append (printed_hex 4 n)
    · exact (printed_of_ascii rfl).append (printed_hex 8 n)

theorem isPrintable_of_shortEscape? {c e : Char} (h : shortEscape? c = some e) :
    isPrintable e = true := by
  have hletters : ['a', 'b', 't', 'n', 'v', 'f', 'r'].all
      (fun e => 0x20 ≤ e.toNat && e.toNat ≤ 0x7e) = true := rfl
  have hm : e ∈ ['a', 'b', 't', 'n', 'v', 'f', 'r'] := by
    unfold shortEscape? at h
    split at h <;> cases h <;> simp
  have he := List.all_eq_true.1 hletters e hm
  simp only [Bool.and_eq_true, decide_eq_true_eq] at he
  exact isPrintable_of_ascii he.1 he.2

theorem printed_quoteGlyph {mark : Char} (hm : isPrintable mark = true) (g : Glyph) :
    Printed (quoteGlyph mark g) := by
  have hback : Printed (utf8 "\\") := printed_of_ascii rfl
  have hslash : isPrintable '\\' = true := isPrintable_of_ascii (by decide) (by decide)
  cases g with
  | stray b => exact (printed_of_ascii rfl).append (printed_hex 2 b.toNat)
  | char c =>
    rw [quoteGlyph]
    split
    · next hc =>
      simp only [Bool.or_eq_true, beq_iff_eq] at hc
      rcases hc with rfl | rfl
      · exact hback.append (madeOf_char hm)
      · exact hback.append (madeOf_char hslash)
    · split
      · next hc => exact madeOf_char hc
      · split
        · next e he => exact hback.append (madeOf_char (isPrintable_of_shortEscape? he))
        · exact printed_codeEscape c.toNat

/-- Every quoted text is printed, whatever bytes it quotes. -/
theorem printed_quote (text : Bytes) : Printed (quote text) := by
  have hquote : isPrintable '"' = true := isPrintable_of_ascii (by decide) (by decide)
  have hmark : Printed (utf8 "\"") := printed_of_ascii rfl
  exact (hmark.append (madeOf_flatMap fun g _ => printed_quoteGlyph hquote g)).append hmark

end AsmXml.Text
