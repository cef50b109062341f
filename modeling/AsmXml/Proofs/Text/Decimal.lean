import AsmXml.Proofs.Text.Decoding
import AsmXml.Text.After
import AsmXml.Text.Decimal

/-! # Reading decimal numbers back

`readDecimal?_decimal`: an integer is read back from its decimal form.
-/

namespace AsmXml.Text

/-- The number that has these decimal digits. -/
def readDigits? (text : Bytes) : Option Nat :=
  (chars? text).bind fun cs =>
    if cs ≠ [] ∧ cs.all Char.isDigit then some (Nat.ofDigitChars 10 cs 0) else none

/-- The integer that has this decimal form. -/
def readDecimal? (text : Bytes) : Option Int :=
  match after? (utf8 "-") text with
  | some body => (readDigits? body).map fun n => -(n : Int)
  | none => (readDigits? text).map Int.ofNat

theorem readDigits?_digits (n : Nat) : readDigits? (digits 10 n) = some n := by
  have hd : (Nat.toDigits 10 n).all Char.isDigit = true := by
    rw [List.all_eq_true]
    exact fun c hc => Nat.isDigit_of_mem_toDigits (by decide) (by decide) hc
  unfold readDigits? digits
  rw [chars?_chars, Option.bind_some, if_pos ⟨Nat.toDigits_ne_nil, hd⟩,
    Nat.ofDigitChars_ten_toDigits]

/-- The characters of a number are digits of its base. -/
theorem mem_toDigits {base : Nat} (hb : 1 < base) {n : Nat} {c : Char}
    (h : c ∈ Nat.toDigits base n) : ∃ d < base, c = d.digitChar := by
  induction n using Nat.strongRecOn with
  | ind n ih =>
    by_cases hn : n < base
    · rw [Nat.toDigits_of_lt_base hn, List.mem_singleton] at h
      exact ⟨n, hn, h⟩
    · rw [Nat.toDigits_of_base_le hb (by omega), List.mem_append, List.mem_singleton] at h
      rcases h with h | h
      · exact ih (n / base) (Nat.div_lt_self (by omega) hb) h
      · exact ⟨n % base, Nat.mod_lt n (by omega), h⟩

theorem mem_digits {b : UInt8} {n : Nat} (h : b ∈ digits 10 n) : b ∈ utf8 "0123456789" := by
  have hdigits : ∀ d < 10, d.digitChar ∈ "0123456789".toList := by decide
  obtain ⟨c, hc, hb⟩ := List.mem_flatMap.1 h
  obtain ⟨d, hd, rfl⟩ := mem_toDigits (by decide) hc
  exact List.mem_flatMap.2 ⟨_, hdigits d hd, hb⟩

theorem mem_decimal {b : UInt8} {n : Int} (h : b ∈ decimal n) : b ∈ utf8 "-0123456789" := by
  have hu : utf8 "-0123456789" = utf8 "-" ++ utf8 "0123456789" := rfl
  rw [hu]
  cases n with
  | ofNat n => exact List.mem_append_right _ (mem_digits h)
  | negSucc n =>
    rcases List.mem_append.1 h with h | h
    · exact List.mem_append_left _ h
    · exact List.mem_append_right _ (mem_digits h)

/-- An integer is read back from its decimal form. -/
theorem readDecimal?_decimal (n : Int) : readDecimal? (decimal n) = some n := by
  unfold readDecimal?
  cases n with
  | ofNat n =>
    have hn : after? (utf8 "-") (digits 10 n) = none := by
      rw [after?_eq_none_iff]
      intro hp
      have hm : 0x2d ∈ digits 10 n := hp.subset List.mem_cons_self
      exact absurd (mem_digits hm) (by decide)
    rw [decimal, hn]
    simp only [readDigits?_digits, Option.map_some]
  | negSucc n =>
    rw [decimal, after?_append]
    simp only [readDigits?_digits]
    rfl

theorem decimal_injective {m n : Int} (h : decimal m = decimal n) : m = n := by
  have hr := congrArg readDecimal? h
  rw [readDecimal?_decimal, readDecimal?_decimal] at hr
  exact Option.some.inj hr

end AsmXml.Text
