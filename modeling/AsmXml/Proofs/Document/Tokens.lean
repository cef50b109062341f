import AsmXml.Proofs.Document.Generation
import AsmXml.Proofs.Document.References
import AsmXml.Proofs.Grammar
import AsmXml.Proofs.Text.Blank

/-! # Tokens in documents

A document can hold the tokens of every category as they are, strings excepted (`Lexeme.xmlText`):
no letter, number or special character is outside the range of characters. What it holds for a
string is a string again (`Lexeme.sanitize`), and replacing characters brings no blank, no comment
and no opcode into a token (`IsToken.sanitize`, `lookup?_sanitize`).
-/

namespace AsmXml

open Text

/-! ## Characters of documents -/

/-- All code points of the run are characters that a document can hold. -/
def Text.CodeRange.Legal (r : CodeRange) : Prop :=
  0x20 ≤ r.first ∧ r.last ≤ 0xd7ff ∨ 0xe000 ≤ r.first ∧ r.last ≤ 0xfffd ∨ 0x10000 ≤ r.first

instance (r : CodeRange) : Decidable r.Legal :=
  inferInstanceAs (Decidable (_ ∨ _))

theorem isXmlChar_of_range {c : Char} (h : 0x20 ≤ c.toNat ∧ c.toNat ≤ 0xd7ff ∨
    0xe000 ≤ c.toNat ∧ c.toNat ≤ 0xfffd ∨ 0x10000 ≤ c.toNat) : isXmlChar c = true := by
  have hc := charToNat_lt c
  unfold isXmlChar
  simp only [Bool.or_eq_true, Bool.and_eq_true, beq_iff_eq, decide_eq_true_eq]
  omega

theorem isXmlChar_of_any {ranges : List CodeRange} (hr : ∀ r ∈ ranges, r.Legal) {c : Char}
    (h : ranges.any (·.contains c.toNat) = true) : isXmlChar c = true := by
  obtain ⟨r, hm, hc⟩ := List.any_eq_true.1 h
  have hl := hr r hm
  simp only [CodeRange.contains, Bool.and_eq_true, decide_eq_true_eq] at hc
  apply isXmlChar_of_range
  unfold CodeRange.Legal at hl
  omega

theorem isXmlChar_of_isLetter {c : Char} (h : isLetter c = true) : isXmlChar c = true :=
  isXmlChar_of_any (by decide +kernel : ∀ r ∈ letterRanges, r.Legal) h

theorem isXmlChar_of_isNumber {c : Char} (h : isNumber c = true) : isXmlChar c = true :=
  isXmlChar_of_any (by decide +kernel : ∀ r ∈ numberRanges, r.Legal) h

theorem isXmlChar_of_isSpecial {c : Char} (h : isSpecial c = true) : isXmlChar c = true := by
  have hs : ['_', '$', '&', '%', '*', '!', '?', '-'].all isXmlChar = true := by decide
  exact List.all_eq_true.1 hs c (List.contains_iff_mem.1 h)

theorem isXmlChar_of_isAlpha {c : Char} (h : c.isAlpha = true) : isXmlChar c = true := by
  have hc : (decide (0x41 ≤ c.val ∧ c.val ≤ 0x5a) || (0x61 ≤ c.val && c.val ≤ 0x7a)) = true := h
  simp only [Bool.or_eq_true, Bool.and_eq_true, decide_eq_true_eq, UInt32.le_iff_toNat_le,
    UInt32.reduceToNat, Char.toNat_val] at hc
  exact isXmlChar_of_range (by omega)

/-! ## Texts of documents -/

theorem xmlText_of_ascii {text : Bytes} (h : isPlainAscii text = true) : XmlText text :=
  madeOf_of_isPlainAscii (fun hl hu => isXmlChar_of_range (by omega)) h

theorem sanitize_append_of_xmlText {xs : Bytes} (h : XmlText xs) (ys : Bytes) :
    sanitize (xs ++ ys) = xs ++ sanitize ys := by
  have hx := sanitize_of_xmlText h
  obtain ⟨cs, rfl, -⟩ := h
  unfold sanitize at hx ⊢
  rw [decode_chars] at hx
  rw [decode_chars_append, List.map_append, encode_append, hx]

theorem escape_sanitize (text : Bytes) : escape (sanitize text) = escape text := by
  unfold escape
  rw [decode_sanitize, List.flatMap_map]
  apply List.flatMap_congr
  intro g _
  have hs := sanitized_of_isXmlChar (isXmlChar_sanitized g)
  unfold escapeGlyph
  rw [hs]

/-! ## Tokens of each category -/

theorem Identifier.xmlText {text : Bytes} (h : Identifier text) : XmlText text := by
  cases h with
  | @intro first rest hf hr =>
    refine ⟨first :: rest, rfl, List.forall_mem_cons.2 ⟨?_, fun c hc => ?_⟩⟩
    · rcases hf with hf | hf
      · exact isXmlChar_of_isAlpha hf
      · exact isXmlChar_of_isSpecial hf
    · rcases hr c hc with hc | hc | hc
      · exact isXmlChar_of_isLetter hc
      · exact isXmlChar_of_isNumber hc
      · exact isXmlChar_of_isSpecial hc

theorem Numeral.isPlainAscii {alphabet text : Bytes} (h : Numeral alphabet text)
    (ha : Text.isPlainAscii alphabet = true) : Text.isPlainAscii text = true :=
  isPlainAscii_iff.2 fun b hb => isPlainAscii_iff.1 ha b (h.2 b hb)

theorem Integer.isPlainAscii {text : Bytes} (h : Integer text) :
    Text.isPlainAscii text = true := by
  cases h with
  | decimal hs hd =>
    have hp : ∀ sign ∈ [[], utf8 "+", utf8 "-"], Text.isPlainAscii sign = true := by decide
    exact isPlainAscii_append (hp _ hs) (hd.isPlainAscii (by decide))
  | octal hm hd =>
    have hp : ∀ mark ∈ [utf8 "0o", utf8 "0O"], Text.isPlainAscii mark = true := by decide
    exact isPlainAscii_append (hp _ hm) (hd.isPlainAscii (by decide))
  | hexadecimal hm hd =>
    have hp : ∀ mark ∈ [utf8 "0x", utf8 "0X"], Text.isPlainAscii mark = true := by decide
    exact isPlainAscii_append (hp _ hm) (hd.isPlainAscii (by decide))

theorem Lexeme.xmlText {c : Category} {text : Bytes} (h : Lexeme c text) (hc : c ≠ .string) :
    XmlText text := by
  cases h with
  | var hf hn =>
    have hp : ∀ frame ∈ frames, isPlainAscii frame = true := by decide
    exact (xmlText_of_ascii (hp _ hf)).append hn.xmlText
  | int hb => exact (xmlText_of_ascii (by decide)).append (xmlText_of_ascii hb.isPlainAscii)
  | bool hb =>
    have hp : ∀ body ∈ truthWords, isPlainAscii body = true := by decide
    exact (xmlText_of_ascii (by decide)).append (xmlText_of_ascii (hp _ hb))
  | string body => exact absurd rfl hc
  | nil => exact xmlText_of_ascii (by decide)
  | label hn _ => exact hn.xmlText
  | type ht =>
    have hp : ∀ text ∈ typeWords, isPlainAscii text = true := by decide
    exact xmlText_of_ascii (hp _ ht)

/-- What a document holds for a token is a token of the same category. -/
theorem Lexeme.sanitize {c : Category} {text : Bytes} (h : Lexeme c text) :
    Lexeme c (AsmXml.sanitize text) := by
  by_cases hc : c = .string
  · subst hc
    cases h with
    | string body =>
      have hs : XmlText (utf8 "string@") := xmlText_of_ascii (by decide)
      rw [sanitize_append_of_xmlText hs]
      exact .string _
  · rwa [sanitize_of_xmlText (h.xmlText hc)]

theorem literalMark_xmlText (c : Category) : XmlText c.literalMark := by
  cases c with
  | int | bool | string | nil => exact xmlText_of_ascii (by decide)
  | _ => exact madeOf_nil

theorem Lexeme.sanitize_eq {c : Category} {text : Bytes} (h : Lexeme c text) :
    AsmXml.sanitize text =
      c.literalMark ++ AsmXml.sanitize (unmark c.literalMark text) := by
  rw [← sanitize_append_of_xmlText (literalMark_xmlText c), ← h.eq_literalMark_append]

theorem lookup?_sanitize {c : Category} {text : Bytes} (h : Lexeme c text)
    (hn : lookup? text = none) : lookup? (sanitize text) = none := by
  by_cases hc : c = .string
  · subst hc
    -- the mark of a string stays, and no opcode has the sign that ends it
    have hat : 0x40 ∈ sanitize text := by
      rw [h.sanitize_eq]
      exact List.mem_append_left _ (by decide)
    exact lookup?_eq_none_of_mem (mem_decode_of_mem (by decide) hat) (by decide)
  · rwa [sanitize_of_xmlText (h.xmlText hc)]

/-! ## Fields of a line -/

/-- A text that stands in a line as one field: not empty, without blanks, and without the sign that
begins a comment. -/
structure IsToken (text : Bytes) : Prop where
  ne_nil : text ≠ []
  not_blank : ∀ g ∈ decode text, g.isBlank = false
  not_comment : numberSign ∉ text

theorem IsToken.lineFeed_not_mem {text : Bytes} (h : IsToken text) : lineFeed ∉ text := by
  intro hm
  have hb := h.not_blank _ (mem_decode_of_mem (by decide) hm)
  exact absurd hb (by decide)

theorem isBlank_sanitized {g : Glyph} (h : g.isBlank = false) :
    (Glyph.char g.sanitized).isBlank = false := by
  have hr : (Glyph.char replacement).isBlank = false := by decide
  cases g with
  | stray b => exact hr
  | char c =>
    rw [Glyph.sanitized]
    split
    · exact h
    · exact hr

/-- Replacing characters brings no ASCII byte into a text. -/
theorem mem_of_mem_sanitize {b : UInt8} {text : Bytes} (hb : b.toNat < 0x80)
    (h : b ∈ sanitize text) : b ∈ text := by
  have hm := mem_decode_of_mem hb h
  rw [decode_sanitize] at hm
  obtain ⟨g, hg, he⟩ := List.mem_map.1 hm
  have hn := toNat_byteChar b
  have hr : replacement.toNat = 0xfffd := by decide
  have hs : g.sanitized = Char.ofNat b.toNat := by simpa using he
  have hne : Char.ofNat b.toNat ≠ replacement := by
    intro heq
    rw [heq, hr] at hn
    omega
  cases g with
  | stray x => exact absurd hs.symm hne
  | char c =>
    rw [Glyph.sanitized] at hs
    split at hs
    · have hx : b ∈ (Glyph.char c).bytes := by
        rw [hs, Glyph.bytes, utf8EncodeChar_ofNat hb]
        exact List.mem_singleton_self b
      have ht : b ∈ encode (decode text) := List.mem_flatMap.2 ⟨_, hg, hx⟩
      rwa [encode_decode] at ht
    · exact absurd hs.symm hne

theorem IsToken.sanitize {text : Bytes} (h : IsToken text) : IsToken (AsmXml.sanitize text) where
  ne_nil := by
    intro hs
    have hd := decode_sanitize text
    rw [hs, decode_nil, eq_comm, List.map_eq_nil_iff] at hd
    have he := encode_decode text
    rw [hd] at he
    exact h.ne_nil he.symm
  not_blank := by
    intro g hg
    rw [decode_sanitize] at hg
    obtain ⟨g', hg', rfl⟩ := List.mem_map.1 hg
    exact isBlank_sanitized (h.not_blank g' hg')
  not_comment := fun hm => h.not_comment (mem_of_mem_sanitize (by decide) hm)

theorem isToken_opcode {s : Signature} (hs : s ∈ instructionSet) : IsToken s.opcode where
  ne_nil := opcode_ne_nil s hs
  not_blank := (by decide :
    ∀ s ∈ instructionSet, ∀ g ∈ decode s.opcode, g.isBlank = false) s hs
  not_comment := (by decide : ∀ s ∈ instructionSet, numberSign ∉ s.opcode) s hs

theorem sanitize_opcode {s : Signature} (hs : s ∈ instructionSet) :
    sanitize s.opcode = s.opcode := by
  refine sanitize_of_xmlText (xmlText_of_ascii (isPlainAscii_iff.2 fun b hb => ?_))
  have := opcode_bytes s hs b hb
  omega

theorem isToken_of_mem_fields {line text : Bytes} (hl : numberSign ∉ line)
    (h : text ∈ fields line) : IsToken text := by
  obtain ⟨hne, hi, hb⟩ := mem_fields h
  exact ⟨hne, hb, fun hm => hl (hi.subset hm)⟩

end AsmXml
