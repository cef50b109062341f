import AsmXml.Proofs.Text.Decoding
import AsmXml.Text.Quoted
import Mathlib.Algebra.Group.Nat.Defs

/-! # Reading quoted texts

A written form is self-delimiting if it can be cut off the front of any text: two texts that agree
and begin with such forms have the same value in front and the same rest (`SelfDelimiting`). Such
forms can be written one after the other, up to a byte that none of them begins with
(`SelfDelimiting.flatMap`). The escapes of quoted text are such forms: the letter behind a backslash
tells how many digits to read (`Quotes`). So a quoted text shows its own end, whatever bytes it
quotes, and determines them (`selfDelimiting_quote`).
-/

namespace AsmXml.Text

/-- The written forms of values that satisfy `p` tell where they end. -/
def SelfDelimiting {α : Type} (p : α → Prop) (write : α → Bytes) : Prop :=
  ∀ ⦃a b : α⦄, p a → p b → ∀ ⦃s t : Bytes⦄, write a ++ s = write b ++ t → a = b ∧ s = t

namespace SelfDelimiting

variable {α : Type} {p : α → Prop} {write : α → Bytes}

theorem eq_of_eq (h : SelfDelimiting p write) {a b : α} (ha : p a) (hb : p b)
    (he : write a = write b) : a = b :=
  (h ha hb (congrArg (· ++ []) he)).1

/-- Values written one after the other can be told apart up to a byte that none begins with. -/
theorem flatMap (h : SelfDelimiting p write) {stop : UInt8}
    (hstop : ∀ a, p a → ∀ s t, write a ++ s ≠ stop :: t) :
    SelfDelimiting (fun xs : List α => ∀ x ∈ xs, p x) fun xs => xs.flatMap write ++ [stop] := by
  intro xs ys hx hy s t he
  simp only [List.append_assoc] at he
  induction xs generalizing ys with
  | nil =>
    cases ys with
    | nil => exact ⟨rfl, List.append_cancel_left he⟩
    | cons y ys =>
      rw [List.flatMap_cons, List.append_assoc] at he
      exact absurd he.symm (hstop y (hy y List.mem_cons_self) _ _)
  | cons x xs ih =>
    obtain ⟨hx, hxs⟩ := List.forall_mem_cons.1 hx
    rw [List.flatMap_cons, List.append_assoc] at he
    cases ys with
    | nil => exact absurd he (hstop x hx _ _)
    | cons y ys =>
      obtain ⟨hy, hys⟩ := List.forall_mem_cons.1 hy
      rw [List.flatMap_cons, List.append_assoc] at he
      obtain ⟨rfl, hrest⟩ := h hx hy he
      obtain ⟨rfl, rfl⟩ := ih hxs hys hrest
      exact ⟨rfl, rfl⟩

end SelfDelimiting

/-- A text ends at the first byte that it does not hold. -/
theorem selfDelimiting_until (stop : UInt8) :
    SelfDelimiting (fun text : Bytes => stop ∉ text) fun text => text ++ [stop] := by
  have hbyte : SelfDelimiting (fun b : UInt8 => b ≠ stop) fun b => [b] := by
    intro a b _ _ s t he
    exact List.cons.inj he
  have hall : SelfDelimiting (fun text : Bytes => ∀ b ∈ text, b ≠ stop) fun text =>
      text.flatMap (fun b => [b]) ++ [stop] :=
    hbyte.flatMap fun b hb s t he => hb (List.cons.inj he).1
  intro xs ys hx hy s t he
  refine hall (fun b hb hs => hx (hs ▸ hb)) (fun b hb hs => hy (hs ▸ hb)) ?_
  simpa only [List.flatMap_singleton'] using he

/-- The encoding of a character tells where it ends. -/
theorem utf8EncodeChar_append_inj {c d : Char} {s t : Bytes}
    (h : String.utf8EncodeChar c ++ s = String.utf8EncodeChar d ++ t) : c = d ∧ s = t := by
  have hd := congrArg decode h
  rw [decode_char_append, decode_char_append] at hd
  obtain rfl : c = d := by simpa using (List.cons.inj hd).1
  exact ⟨rfl, List.append_cancel_left h⟩

/-! ## Hexadecimal numbers -/

/-- The value of a hexadecimal digit. -/
def digitValue (b : UInt8) : Nat :=
  if b.toNat < 0x61 then b.toNat - 0x30 else b.toNat - 0x57

/-- The number with these hexadecimal digits. -/
def hexValue (text : Bytes) : Nat :=
  text.foldl (fun value b => value * 16 + digitValue b) 0

theorem digits_of_lt {n : Nat} (h : n < 16) : ∃ b, digits 16 n = [b] ∧ digitValue b = n := by
  have hall : ∀ d < 16, (digits 16 d).map digitValue = [d] := by decide
  obtain ⟨b, hb, hv⟩ := List.map_eq_singleton_iff.1 (hall n h)
  exact ⟨b, hb, hv⟩

theorem digits_of_le {n : Nat} (h : 16 ≤ n) :
    digits 16 n = digits 16 (n / 16) ++ digits 16 (n % 16) := by
  have hlt : n % 16 < 16 := Nat.mod_lt n (by omega)
  unfold digits
  rw [Nat.toDigits_of_base_le (by omega) h, List.flatMap_append, Nat.toDigits_of_lt_base hlt]

theorem hexValue_digits (n : Nat) : hexValue (digits 16 n) = n := by
  induction n using Nat.strongRecOn with
  | ind n ih =>
    by_cases hn : n < 16
    · obtain ⟨b, hb, hv⟩ := digits_of_lt hn
      rw [hb, hexValue, List.foldl_cons, List.foldl_nil, hv, Nat.zero_mul, Nat.zero_add]
    · obtain ⟨b, hb, hv⟩ := digits_of_lt (Nat.mod_lt n (by omega : 16 > 0))
      have hrest := ih (n / 16) (by omega)
      rw [hexValue] at hrest
      rw [digits_of_le (by omega), hb, hexValue, List.foldl_append, hrest, List.foldl_cons,
        List.foldl_nil, hv]
      omega

/-- Zeros in front do not count. -/
theorem hexValue_hex (width n : Nat) : hexValue (hex width n) = n := by
  have hzero : digitValue 0x30 = 0 := rfl
  have hzeros (k : Nat) (text : Bytes) :
      hexValue (List.replicate k 0x30 ++ text) = hexValue text := by
    induction k with
    | zero => rfl
    | succ k ih =>
      rw [List.replicate_succ, List.cons_append, hexValue, List.foldl_cons, hzero]
      exact ih
  unfold hex
  rw [hzeros, hexValue_digits]

theorem length_digits_le {width n : Nat} (h : n < 16 ^ (width + 1)) :
    (digits 16 n).length ≤ width + 1 := by
  induction width generalizing n with
  | zero =>
    obtain ⟨b, hb, -⟩ := digits_of_lt (by simpa using h)
    exact Nat.le_of_eq (congrArg List.length hb)
  | succ width ih =>
    by_cases hlt : n < 16
    · obtain ⟨b, hb, -⟩ := digits_of_lt hlt
      rw [hb, List.length_singleton]
      omega
    · obtain ⟨b, hb, -⟩ := digits_of_lt (Nat.mod_lt n (by omega : 16 > 0))
      rw [Nat.pow_succ, Nat.mul_comm] at h
      have hrest := ih (Nat.div_lt_of_lt_mul h)
      rw [digits_of_le (by omega), hb, List.length_append, List.length_singleton]
      omega

theorem length_hex {width n : Nat} (hw : 0 < width) (hn : n < 16 ^ width) :
    (hex width n).length = width := by
  obtain ⟨width, rfl⟩ := Nat.exists_eq_add_one.2 hw
  have hl := length_digits_le hn
  unfold hex
  rw [List.length_append, List.length_replicate]
  omega

theorem selfDelimiting_hex {width : Nat} (hw : 0 < width) :
    SelfDelimiting (· < 16 ^ width) (hex width) := by
  intro m n hm hn s t he
  obtain ⟨hh, rfl⟩ := List.append_inj he (by rw [length_hex hw hm, length_hex hw hn])
  have hv := congrArg hexValue hh
  rw [hexValue_hex, hexValue_hex] at hv
  exact ⟨hv, rfl⟩

/-! ## Escapes -/

/-- What a letter behind a backslash means: a character, or a code of so many digits. -/
def escape? : Char → Option (Char ⊕ Nat)
  | '"' => some (.inl '"')
  | '\\' => some (.inl '\\')
  | 'a' => some (.inl (Char.ofNat 0x07))
  | 'b' => some (.inl (Char.ofNat 0x08))
  | 't' => some (.inl (Char.ofNat 0x09))
  | 'n' => some (.inl (Char.ofNat 0x0a))
  | 'v' => some (.inl (Char.ofNat 0x0b))
  | 'f' => some (.inl (Char.ofNat 0x0c))
  | 'r' => some (.inl (Char.ofNat 0x0d))
  | 'x' => some (.inr 2)
  | 'u' => some (.inr 4)
  | 'U' => some (.inr 8)
  | _ => none

/-- The glyph with a code. A code of two digits is a character of ASCII or a stray byte. -/
def glyphOfCode (width n : Nat) : Glyph :=
  if width = 2 ∧ 0x80 ≤ n then .stray (UInt8.ofNat n) else .char (Char.ofNat n)

/-- The forms in which glyphs stand between double quotes. -/
inductive Quotes : Glyph → Bytes → Prop
  | plain {c : Char} (hq : c ≠ '"') (hb : c ≠ '\\') : Quotes (.char c) (String.utf8EncodeChar c)
  | letter {e c : Char} (h : escape? e = some (.inl c)) :
      Quotes (.char c) (String.utf8EncodeChar '\\' ++ String.utf8EncodeChar e)
  | code {e : Char} {width n : Nat} (h : escape? e = some (.inr width)) (hn : n < 16 ^ width) :
      Quotes (glyphOfCode width n)
        (String.utf8EncodeChar '\\' ++ (String.utf8EncodeChar e ++ hex width n))

theorem pos_of_escape? {e : Char} {width : Nat} (h : escape? e = some (.inr width)) :
    0 < width := by
  unfold escape? at h
  split at h <;> cases h <;> omega

namespace Quotes

variable {g g' : Glyph} {w w' s t : Bytes}

/-- The glyph and the end of its form can be told from the form. -/
theorem append_inj (h : Quotes g w) (h' : Quotes g' w') (he : w ++ s = w' ++ t) :
    g = g' ∧ s = t := by
  -- the first character tells an escape from a plain form, and the letter behind it which escape
  cases h with
  | plain _ hb =>
    cases h' with
    | plain =>
      obtain ⟨rfl, rfl⟩ := utf8EncodeChar_append_inj he
      exact ⟨rfl, rfl⟩
    | letter =>
      rw [List.append_assoc] at he
      exact absurd (utf8EncodeChar_append_inj he).1 hb
    | code =>
      rw [List.append_assoc] at he
      exact absurd (utf8EncodeChar_append_inj he).1 hb
  | letter hc =>
    rw [List.append_assoc] at he
    cases h' with
    | plain _ hb => exact absurd (utf8EncodeChar_append_inj he).1.symm hb
    | letter hc' =>
      rw [List.append_assoc] at he
      obtain ⟨rfl, rfl⟩ := utf8EncodeChar_append_inj (List.append_cancel_left he)
      rw [hc] at hc'
      cases hc'
      exact ⟨rfl, rfl⟩
    | code hc' =>
      simp only [List.append_assoc] at he
      obtain ⟨rfl, -⟩ := utf8EncodeChar_append_inj (List.append_cancel_left he)
      rw [hc] at hc'
      cases hc'
  | code hc hn =>
    rw [List.append_assoc] at he
    cases h' with
    | plain _ hb => exact absurd (utf8EncodeChar_append_inj he).1.symm hb
    | letter hc' =>
      simp only [List.append_assoc] at he
      obtain ⟨rfl, -⟩ := utf8EncodeChar_append_inj (List.append_cancel_left he)
      rw [hc] at hc'
      cases hc'
    | code hc' hn' =>
      simp only [List.append_assoc] at he
      obtain ⟨rfl, hhex⟩ := utf8EncodeChar_append_inj (List.append_cancel_left he)
      rw [hc] at hc'
      cases hc'
      obtain ⟨rfl, rfl⟩ := selfDelimiting_hex (pos_of_escape? hc) hn hn' hhex
      exact ⟨rfl, rfl⟩

/-- No form begins with the quote that ends the text. -/
theorem ne_quote (h : Quotes g w) : w ++ s ≠ 0x22 :: t := by
  intro he
  have hq : String.utf8EncodeChar '"' ++ t = 0x22 :: t := rfl
  rw [← hq] at he
  cases h with
  | plain hc _ => exact hc (utf8EncodeChar_append_inj he).1
  | letter =>
    rw [List.append_assoc] at he
    cases (utf8EncodeChar_append_inj he).1
  | code =>
    rw [List.append_assoc] at he
    cases (utf8EncodeChar_append_inj he).1

end Quotes

/-! ## Quoted texts -/

/-- The glyph can occur in a byte string: a stray byte is none of ASCII. -/
def Glyph.Occurs (g : Glyph) : Prop :=
  ∀ b, g = .stray b → 0x80 ≤ b.toNat

theorem occurs_of_mem_decode {text : Bytes} {g : Glyph} (h : g ∈ decode text) : g.Occurs := by
  rintro b rfl
  obtain ⟨front, back, hd⟩ := List.append_of_mem h
  have hc : Canonical (front ++ .stray b :: back) := hd ▸ canonical_decode text
  have hn := (canonical_stray_cons.1 hc.right).1
  apply Nat.le_of_not_lt
  intro hlt
  -- an ASCII byte would have been read as a character
  have hs := decode_stray_cons hn
  rw [decode_ascii_cons hlt] at hs
  cases (List.cons.inj hs).1

theorem escape?_of_shortEscape? {c e : Char} (h : shortEscape? c = some e) :
    escape? e = some (.inl c) := by
  have hc : c = Char.ofNat c.toNat := (Char.ofNat_toNat c).symm
  unfold shortEscape? at h
  split at h
  all_goals cases h
  all_goals
    next hn =>
    rw [hn] at hc
    subst hc
    rfl

/-- The escape of a code point quotes its character: the letter behind the backslash tells how many
digits to read. -/
theorem quotes_codeEscape (c : Char) : Quotes (.char c) (codeEscape c.toNat) := by
  have hc : Char.ofNat c.toNat = c := Char.ofNat_toNat c
  have hlt := charToNat_lt c
  have coded {e : Char} {width : Nat} (he : escape? e = some (.inr width))
      (hn : c.toNat < 16 ^ width) (hw : ¬ (width = 2 ∧ 0x80 ≤ c.toNat)) :
      Quotes (.char c)
        (String.utf8EncodeChar '\\' ++ (String.utf8EncodeChar e ++ hex width c.toNat)) := by
    have hg : glyphOfCode width c.toNat = .char c := by rw [glyphOfCode, if_neg hw, hc]
    rw [← hg]
    exact .code he hn
  unfold codeEscape
  split
  · next hsmall =>
    have hs : c.toNat < 0x80 := by
      simp only [Bool.or_eq_true, decide_eq_true_eq, beq_iff_eq] at hsmall
      omega
    exact coded (e := 'x') rfl (by omega) (by omega)
  · split
    · exact coded (e := 'u') rfl (by omega) (by omega)
    · exact coded (e := 'U') rfl (by omega) (by omega)

theorem quotes_quoteGlyph {g : Glyph} (h : g.Occurs) : Quotes g (quoteGlyph '"' g) := by
  cases g with
  | stray b =>
    have hb := h b rfl
    have hg : glyphOfCode 2 b.toNat = .stray b := by
      rw [glyphOfCode, if_pos ⟨rfl, hb⟩, UInt8.ofNat_toNat]
    have hq : Quotes (glyphOfCode 2 b.toNat) (quoteGlyph '"' (.stray b)) :=
      .code (e := 'x') rfl b.toNat_lt
    rwa [hg] at hq
  | char c =>
    rw [quoteGlyph]
    split
    · next hc =>
      simp only [Bool.or_eq_true, beq_iff_eq] at hc
      rcases hc with rfl | rfl
      · exact .letter (e := '"') rfl
      · exact .letter (e := '\\') rfl
    · next hc =>
      simp only [Bool.or_eq_true, beq_iff_eq, not_or] at hc
      split
      · exact .plain hc.1 hc.2
      · split
        · next e he => exact .letter (escape?_of_shortEscape? he)
        · exact quotes_codeEscape c

/-- A quoted text shows its own end and determines the bytes that it quotes. -/
theorem selfDelimiting_quote : SelfDelimiting (fun _ => True) quote := by
  have hglyph : SelfDelimiting Glyph.Occurs (quoteGlyph '"') := by
    intro g g' hg hg' s t he
    exact (quotes_quoteGlyph hg).append_inj (quotes_quoteGlyph hg') he
  have hglyphs : SelfDelimiting (fun gs : List Glyph => ∀ g ∈ gs, g.Occurs) fun gs =>
      gs.flatMap (quoteGlyph '"') ++ [0x22] :=
    hglyph.flatMap fun g hg s t => (quotes_quoteGlyph hg).ne_quote
  intro a b _ _ s t he
  unfold quote at he
  rw [List.append_assoc, List.append_assoc, List.append_assoc, List.append_assoc] at he
  have hrest := List.append_cancel_left he
  rw [← List.append_assoc, ← List.append_assoc] at hrest
  obtain ⟨hd, rfl⟩ := hglyphs (fun _ => occurs_of_mem_decode) (fun _ => occurs_of_mem_decode) hrest
  refine ⟨?_, rfl⟩
  rw [← encode_decode a, hd, encode_decode]

end AsmXml.Text
