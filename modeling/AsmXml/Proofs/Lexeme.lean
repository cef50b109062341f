import AsmXml.Operand.Recognition
import AsmXml.Proofs.Category

/-! # The grammar of tokens

What a token of each category looks like, stated on its bytes and characters without the recognizer:
`Lexeme c text` for the well-formed tokens, `Misshapen m text` for those whose mark promises a body
that they do not have. Recognition finds exactly these (`classify_eq_ok_iff`,
`classify_eq_error_iff`).
-/

namespace AsmXml

open Text

/-! ## Identifiers -/

/-- An ASCII letter or special character, and behind it letters and numbers of any script and
special characters. -/
inductive Identifier : Bytes → Prop
  | intro {first : Char} {rest : List Char} (hf : first.isAlpha = true ∨ isSpecial first = true)
      (hr : ∀ c ∈ rest, isLetter c = true ∨ isNumber c = true ∨ isSpecial c = true) :
      Identifier ((first :: rest).flatMap String.utf8EncodeChar)

theorem isIdentifierRest_char {c : Char} : isIdentifierRest (.char c) = true ↔
    isLetter c = true ∨ isNumber c = true ∨ isSpecial c = true := by
  simp only [isIdentifierRest, Bool.or_eq_true, or_assoc]

/-- The test on glyphs accepts exactly the identifiers; no stray byte is part of one. -/
theorem isIdentifier_iff {text : Bytes} : isIdentifier text = true ↔ Identifier text := by
  constructor
  · intro h
    have he := encode_decode text
    unfold isIdentifier at h
    cases hd : decode text with
    | nil =>
      rw [hd] at h
      cases h
    | cons g gs =>
      rw [hd] at h he
      simp only [Bool.and_eq_true, List.all_eq_true] at h
      obtain ⟨rest, rfl, hr⟩ := exists_chars (fun _ => rfl) h.2
      cases g with
      | stray b => cases h.1
      | char first =>
        rw [← he, ← List.map_cons, encode_chars]
        exact .intro (by simpa [isIdentifierStart] using h.1)
          fun c hc => isIdentifierRest_char.1 (hr c hc)
  · rintro ⟨hf, hr⟩
    unfold isIdentifier
    rw [decode_chars, List.map_cons]
    simp only [Bool.and_eq_true, List.all_eq_true]
    refine ⟨by simpa [isIdentifierStart] using hf, fun g hg => ?_⟩
    obtain ⟨c, hc, rfl⟩ := List.mem_map.1 hg
    exact isIdentifierRest_char.2 (hr c hc)

/-! ## Integers -/

/-- One or more digits of the alphabet. -/
def Numeral (alphabet text : Bytes) : Prop :=
  text ≠ [] ∧ ∀ b ∈ text, b ∈ alphabet

/-- A decimal number with an optional sign, or an octal or hexadecimal one behind its mark. -/
inductive Integer : Bytes → Prop
  | decimal {sign digits : Bytes} (hs : sign ∈ [[], utf8 "+", utf8 "-"])
      (hd : Numeral (utf8 "0123456789") digits) : Integer (sign ++ digits)
  | octal {mark digits : Bytes} (hm : mark ∈ [utf8 "0o", utf8 "0O"])
      (hd : Numeral (utf8 "01234567") digits) : Integer (mark ++ digits)
  | hexadecimal {mark digits : Bytes} (hm : mark ∈ [utf8 "0x", utf8 "0X"])
      (hd : Numeral (utf8 "0123456789abcdefABCDEF") digits) : Integer (mark ++ digits)

theorem forall_byte {p : UInt8 → Prop} (h : ∀ n : Fin 256, p (UInt8.ofFin n)) (b : UInt8) : p b :=
  h b.toFin

theorem isDigitOf_ten : ∀ b, isDigitOf 10 b = true ↔ b ∈ utf8 "0123456789" :=
  forall_byte (by decide +kernel)

theorem isDigitOf_eight : ∀ b, isDigitOf 8 b = true ↔ b ∈ utf8 "01234567" :=
  forall_byte (by decide +kernel)

theorem isDigitOf_sixteen : ∀ b, isDigitOf 16 b = true ↔ b ∈ utf8 "0123456789abcdefABCDEF" :=
  forall_byte (by decide +kernel)

theorem isNumeral_iff {base : Nat} {alphabet text : Bytes}
    (h : ∀ b, isDigitOf base b = true ↔ b ∈ alphabet) :
    isNumeral base text = true ↔ Numeral alphabet text := by
  unfold isNumeral Numeral
  simp [h]

/-- A number with a mark of its base begins with one of the two marks and goes on with digits. No
text begins with both, so it does not matter which is tried first. -/
theorem isBased_iff {base : Nat} {alphabet lower upper text : Bytes}
    (h : ∀ b, isDigitOf base b = true ↔ b ∈ alphabet) (hl : lower.length = upper.length)
    (hne : lower ≠ upper) : isBased base lower upper text = true ↔
      ∃ mark ∈ [lower, upper], ∃ digits, text = mark ++ digits ∧ Numeral alphabet digits := by
  unfold isBased
  constructor
  · intro ha
    obtain ⟨digits, hd, hn⟩ := (Option.any_eq_true _ _).1 ha
    rw [isNumeral_iff h] at hn
    rcases Option.or_eq_some_iff.1 hd with hd | ⟨-, hd⟩
    · exact ⟨lower, by simp, digits, after?_eq_some_iff.1 hd, hn⟩
    · exact ⟨upper, by simp, digits, after?_eq_some_iff.1 hd, hn⟩
  · rintro ⟨mark, hm, digits, rfl, hn⟩
    rw [← isNumeral_iff h] at hn
    simp only [List.mem_cons, List.not_mem_nil, or_false] at hm
    rcases hm with rfl | rfl
    · simp [hn]
    · have hno : after? lower (mark ++ digits) = none := by
        rw [after?_eq_none_iff]
        rintro ⟨rest, he⟩
        exact hne (List.append_inj he hl).1
      simp [hno, hn]

/-- A decimal number is digits behind a sign or none. The first byte tells which, since no sign is a
digit. -/
theorem isDecimal_iff {text : Bytes} : isDecimal text = true ↔
    ∃ sign ∈ [[], utf8 "+", utf8 "-"], ∃ digits, text = sign ++ digits ∧
      Numeral (utf8 "0123456789") digits := by
  have hp : utf8 "+" = [0x2b] := rfl
  have hm : utf8 "-" = [0x2d] := rfl
  constructor
  · intro h
    cases text with
    | nil => cases h
    | cons b rest =>
      unfold isDecimal at h
      simp only [Bool.or_eq_true, beq_iff_eq] at h
      split at h
      · next hb =>
        rw [isNumeral_iff isDigitOf_ten] at h
        rcases hb with rfl | rfl
        · exact ⟨utf8 "+", by simp, rest, rfl, h⟩
        · exact ⟨utf8 "-", by simp, rest, rfl, h⟩
      · exact ⟨[], by simp, b :: rest, rfl, (isNumeral_iff isDigitOf_ten).1 h⟩
  · rintro ⟨sign, hs, digits, rfl, hd⟩
    have hn := (isNumeral_iff isDigitOf_ten).2 hd
    simp only [List.mem_cons, List.not_mem_nil, or_false] at hs
    rcases hs with rfl | rfl | rfl
    · -- no sign is a digit, so the first byte is read as one
      obtain ⟨hne, hall⟩ := hd
      cases digits with
      | nil => exact absurd rfl hne
      | cons b rest =>
        have hb : ¬ (b = 0x2b ∨ b = 0x2d) := by
          have := hall b List.mem_cons_self
          rintro (rfl | rfl)
          · exact absurd this (by decide)
          · exact absurd this (by decide)
        unfold isDecimal
        simpa [hb] using hn
    · simpa [isDecimal, hp] using hn
    · simpa [isDecimal, hm] using hn

theorem isOctal_iff {text : Bytes} : isBased 8 (utf8 "0o") (utf8 "0O") text = true ↔
    ∃ mark ∈ [utf8 "0o", utf8 "0O"], ∃ digits, text = mark ++ digits ∧
      Numeral (utf8 "01234567") digits :=
  isBased_iff isDigitOf_eight (by decide) (by decide)

theorem isHexadecimal_iff {text : Bytes} : isBased 16 (utf8 "0x") (utf8 "0X") text = true ↔
    ∃ mark ∈ [utf8 "0x", utf8 "0X"], ∃ digits, text = mark ++ digits ∧
      Numeral (utf8 "0123456789abcdefABCDEF") digits :=
  isBased_iff isDigitOf_sixteen (by decide) (by decide)

theorem isInteger_iff {text : Bytes} : isInteger text = true ↔ Integer text := by
  unfold isInteger
  rw [Bool.or_eq_true, Bool.or_eq_true, isDecimal_iff, isOctal_iff, isHexadecimal_iff]
  constructor
  · rintro ((⟨sign, hs, digits, rfl, hd⟩ | ⟨mark, hm, digits, rfl, hd⟩) |
      ⟨mark, hm, digits, rfl, hd⟩)
    · exact .decimal hs hd
    · exact .octal hm hd
    · exact .hexadecimal hm hd
  · rintro (⟨hs, hd⟩ | ⟨hm, hd⟩ | ⟨hm, hd⟩)
    · exact Or.inl (Or.inl ⟨_, hs, _, rfl, hd⟩)
    · exact Or.inl (Or.inr ⟨_, hm, _, rfl, hd⟩)
    · exact Or.inr ⟨_, hm, _, rfl, hd⟩

/-! ## Tokens -/

/-- The names of the types. -/
def typeWords : List Bytes :=
  [utf8 "int", utf8 "bool", utf8 "string"]

/-- The bodies of boolean literals. -/
def truthWords : List Bytes :=
  [utf8 "true", utf8 "false"]

/-- The token is a well-formed operand of the category. -/
inductive Lexeme : Category → Bytes → Prop
  | var {frame name : Bytes} (hf : frame ∈ frames) (hn : Identifier name) :
      Lexeme .var (frame ++ name)
  | int {body : Bytes} (hb : Integer body) : Lexeme .int (utf8 "int@" ++ body)
  | bool {body : Bytes} (hb : body ∈ truthWords) : Lexeme .bool (utf8 "bool@" ++ body)
  | string (body : Bytes) : Lexeme .string (utf8 "string@" ++ body)
  | nil : Lexeme .nil (utf8 "nil@nil")
  | label {name : Bytes} (hn : Identifier name) (ht : name ∉ typeWords) : Lexeme .label name
  | type {name : Bytes} (ht : name ∈ typeWords) : Lexeme .type name

/-- The token has the mark of a frame or a literal, and a body that is none behind this mark. -/
inductive Misshapen : Malformed → Bytes → Prop
  | var {frame body : Bytes} (hf : frame ∈ frames) (hn : ¬ Identifier body) :
      Misshapen .variable (frame ++ body)
  | int {body : Bytes} (hb : ¬ Integer body) : Misshapen .integer (utf8 "int@" ++ body)
  | bool {body : Bytes} (hb : body ∉ truthWords) : Misshapen .boolean (utf8 "bool@" ++ body)
  | nil {body : Bytes} (hb : body ≠ utf8 "nil") : Misshapen .nil (utf8 "nil@" ++ body)

/-- A token begins with the mark of its category. -/
theorem Lexeme.eq_literalMark_append {c : Category} {text : Bytes} (h : Lexeme c text) :
    text = c.literalMark ++ unmark c.literalMark text := by
  have he (body : Bytes) : unmark [] body = body := unmark_append [] body
  cases h with
  | var hf hn => exact (he _).symm
  | int hb => rw [Category.literalMark, unmark_append]
  | bool hb => rw [Category.literalMark, unmark_append]
  | string body => rw [Category.literalMark, unmark_append]
  | nil => decide
  | label hn ht => exact (he _).symm
  | type ht => exact (he _).symm

/-! ## Recognition by marks -/

/-- All marks that decide how a token is read. -/
def marks : List Bytes :=
  frames ++ [utf8 "int@", utf8 "bool@", utf8 "string@", utf8 "nil@"]

theorem classify_frame {frame : Bytes} (hf : frame ∈ frames) (body : Bytes) :
    classify (frame ++ body) = Category.var.ofBody .variable body := by
  simp only [frames, List.mem_cons, List.not_mem_nil, or_false] at hf
  rcases hf with rfl | rfl | rfl
  · rfl
  · rfl
  · rfl

theorem classify_int (body : Bytes) :
    classify (utf8 "int@" ++ body) = Category.int.ofBody .integer body := rfl

theorem classify_bool (body : Bytes) :
    classify (utf8 "bool@" ++ body) = Category.bool.ofBody .boolean body := rfl

theorem classify_string (body : Bytes) : classify (utf8 "string@" ++ body) = .ok .string := rfl

theorem classify_nil (body : Bytes) :
    classify (utf8 "nil@" ++ body) = Category.nil.ofBody .nil body := rfl

theorem classify_plain {text : Bytes} (h : ∀ mark ∈ marks, ¬ mark <+: text) :
    classify text = .ok (classifyPlain text) := by
  have hf : frames.findSome? (after? · text) = none := by
    rw [List.findSome?_eq_none_iff]
    intro frame hf
    exact after?_eq_none_iff.2 (h frame (List.mem_append_left _ hf))
  unfold classify
  rw [hf, after?_eq_none_iff.2 (h (utf8 "int@") (by simp [marks])),
    after?_eq_none_iff.2 (h (utf8 "bool@") (by simp [marks])),
    after?_eq_none_iff.2 (h (utf8 "string@") (by simp [marks])),
    after?_eq_none_iff.2 (h (utf8 "nil@") (by simp [marks]))]

/-- A token begins with one of the marks, or with none. -/
theorem marked_or_plain (text : Bytes) :
    (∃ frame ∈ frames, ∃ body, text = frame ++ body) ∨ (∃ body, text = utf8 "int@" ++ body) ∨
      (∃ body, text = utf8 "bool@" ++ body) ∨ (∃ body, text = utf8 "string@" ++ body) ∨
      (∃ body, text = utf8 "nil@" ++ body) ∨ ∀ mark ∈ marks, ¬ mark <+: text := by
  by_cases h : ∀ mark ∈ marks, ¬ mark <+: text
  · exact Or.inr (Or.inr (Or.inr (Or.inr (Or.inr h))))
  · obtain ⟨mark, h⟩ := Classical.not_forall.1 h
    obtain ⟨hm, h⟩ := Classical.not_imp.1 h
    obtain ⟨body, rfl⟩ := Classical.not_not.1 h
    simp only [marks, List.mem_append, List.mem_cons, List.not_mem_nil, or_false] at hm
    rcases hm with hm | rfl | rfl | rfl | rfl
    · exact Or.inl ⟨mark, hm, body, rfl⟩
    · exact Or.inr (Or.inl ⟨body, rfl⟩)
    · exact Or.inr (Or.inr (Or.inl ⟨body, rfl⟩))
    · exact Or.inr (Or.inr (Or.inr (Or.inl ⟨body, rfl⟩)))
    · exact Or.inr (Or.inr (Or.inr (Or.inr (Or.inl ⟨body, rfl⟩))))

/-- Every mark ends with the sign that no identifier holds. -/
theorem at_mem_marks : ∀ mark ∈ marks, 0x40 ∈ mark := by
  decide

theorem Identifier.not_marked {text : Bytes} (h : Identifier text) :
    ∀ mark ∈ marks, ¬ mark <+: text := by
  intro mark hm hp
  have hat : .char '@' ∈ decode text :=
    mem_decode_of_mem (b := 0x40) (by decide) (hp.subset (at_mem_marks mark hm))
  obtain ⟨hf, hr⟩ := h
  rw [decode_chars] at hat
  obtain ⟨c, hc, he⟩ := List.mem_map.1 hat
  cases he
  rcases List.mem_cons.1 hc with rfl | hc
  · revert hf
    decide
  · have := hr _ hc
    revert this
    decide +kernel

theorem typeWords_not_marked : ∀ text ∈ typeWords, ∀ mark ∈ marks, ¬ mark <+: text := by
  decide

theorem isTypeWord_iff {text : Bytes} : isTypeWord text = true ↔ text ∈ typeWords := by
  simp [isTypeWord, typeWords, or_assoc]

theorem isBoolean_iff {text : Bytes} : isBoolean text = true ↔ text ∈ truthWords := by
  simp [isBoolean, truthWords]

theorem ofBody_eq_ok_iff {c found : Category} {m : Malformed} {body : Bytes} :
    c.ofBody m body = .ok found ↔ found = c ∧ c.isBody body = true := by
  unfold Category.ofBody
  split
  · next h => simp [h, eq_comm]
  · next h => simp [h]

theorem ofBody_eq_error_iff {c : Category} {m found : Malformed} {body : Bytes} :
    c.ofBody m body = .error found ↔ found = m ∧ ¬ c.isBody body = true := by
  unfold Category.ofBody
  split
  · next h => simp [h]
  · next h => simp [h, eq_comm]

/-- A token without a mark is the name of a type or a label, and the name of a type comes first. -/
theorem classifyPlain_eq_iff {text : Bytes} {c : Category} (hc : c ≠ .invalid)
    (hm : ∀ mark ∈ marks, ¬ mark <+: text) : classifyPlain text = c ↔ Lexeme c text := by
  have ht : Category.type.isBody text = true ↔ text ∈ typeWords := isTypeWord_iff
  have hi : Category.label.isBody text = true ↔ Identifier text := isIdentifier_iff
  unfold classifyPlain
  constructor
  · intro h
    split at h
    · next h1 => exact h ▸ .type (ht.1 h1)
    · next h1 =>
      split at h
      · next h2 => exact h ▸ .label (hi.1 h2) (mt ht.2 h1)
      · exact absurd h.symm hc
  · intro h
    cases h with
    | var hf hn => exact absurd (List.prefix_append ..) (hm _ (List.mem_append_left _ hf))
    | int hb => exact absurd (List.prefix_append ..) (hm (utf8 "int@") (by simp [marks]))
    | bool hb => exact absurd (List.prefix_append ..) (hm (utf8 "bool@") (by simp [marks]))
    | string body => exact absurd (List.prefix_append ..) (hm (utf8 "string@") (by simp [marks]))
    | nil => exact absurd (by decide) (hm (utf8 "nil@") (by simp [marks]))
    | label hn hw => rw [if_neg (mt ht.1 hw), if_pos (hi.2 hn)]
    | type hw => rw [if_pos (ht.2 hw)]

/-- The recognizer finds the category whose grammar the token follows. -/
theorem classify_eq_ok_iff {text : Bytes} {c : Category} (hc : c ≠ .invalid) :
    classify text = .ok c ↔ Lexeme c text := by
  constructor
  · intro h
    rcases marked_or_plain text with ⟨frame, hf, body, rfl⟩ | ⟨body, rfl⟩ | ⟨body, rfl⟩ |
      ⟨body, rfl⟩ | ⟨body, rfl⟩ | hm
    · rw [classify_frame hf, ofBody_eq_ok_iff] at h
      obtain ⟨rfl, hb⟩ := h
      exact .var hf (isIdentifier_iff.1 hb)
    · rw [classify_int, ofBody_eq_ok_iff] at h
      obtain ⟨rfl, hb⟩ := h
      exact .int (isInteger_iff.1 hb)
    · rw [classify_bool, ofBody_eq_ok_iff] at h
      obtain ⟨rfl, hb⟩ := h
      exact .bool (isBoolean_iff.1 hb)
    · rw [classify_string] at h
      cases h
      exact .string body
    · rw [classify_nil, ofBody_eq_ok_iff] at h
      obtain ⟨rfl, hb⟩ := h
      rw [eq_of_beq hb]
      exact .nil
    · rw [classify_plain hm, Except.ok.injEq] at h
      exact (classifyPlain_eq_iff hc hm).1 h
  · intro h
    cases h with
    | var hf hn =>
      rw [classify_frame hf, ofBody_eq_ok_iff]
      exact ⟨rfl, isIdentifier_iff.2 hn⟩
    | int hb =>
      rw [classify_int, ofBody_eq_ok_iff]
      exact ⟨rfl, isInteger_iff.2 hb⟩
    | bool hb =>
      rw [classify_bool, ofBody_eq_ok_iff]
      exact ⟨rfl, isBoolean_iff.2 hb⟩
    | string body => rfl
    | nil => rfl
    | label hn ht =>
      rw [classify_plain hn.not_marked, (classifyPlain_eq_iff hc hn.not_marked).2 (.label hn ht)]
    | type ht =>
      have hm := typeWords_not_marked text ht
      rw [classify_plain hm, (classifyPlain_eq_iff hc hm).2 (.type ht)]

/-- The recognizer complains about a token exactly if its body is not what its mark promises. -/
theorem classify_eq_error_iff {text : Bytes} {m : Malformed} :
    classify text = .error m ↔ Misshapen m text := by
  constructor
  · intro h
    rcases marked_or_plain text with ⟨frame, hf, body, rfl⟩ | ⟨body, rfl⟩ | ⟨body, rfl⟩ |
      ⟨body, rfl⟩ | ⟨body, rfl⟩ | hm
    · rw [classify_frame hf, ofBody_eq_error_iff] at h
      obtain ⟨rfl, hb⟩ := h
      exact .var hf (mt isIdentifier_iff.2 hb)
    · rw [classify_int, ofBody_eq_error_iff] at h
      obtain ⟨rfl, hb⟩ := h
      exact .int (mt isInteger_iff.2 hb)
    · rw [classify_bool, ofBody_eq_error_iff] at h
      obtain ⟨rfl, hb⟩ := h
      exact .bool (mt isBoolean_iff.2 hb)
    · rw [classify_string] at h
      cases h
    · rw [classify_nil, ofBody_eq_error_iff] at h
      obtain ⟨rfl, hb⟩ := h
      exact .nil fun he => hb (beq_iff_eq.2 he)
    · rw [classify_plain hm] at h
      cases h
  · intro h
    cases h with
    | var hf hn =>
      rw [classify_frame hf, ofBody_eq_error_iff]
      exact ⟨rfl, mt isIdentifier_iff.1 hn⟩
    | int hb =>
      rw [classify_int, ofBody_eq_error_iff]
      exact ⟨rfl, mt isInteger_iff.1 hb⟩
    | bool hb =>
      rw [classify_bool, ofBody_eq_error_iff]
      exact ⟨rfl, mt isBoolean_iff.1 hb⟩
    | nil hb =>
      rw [classify_nil, ofBody_eq_error_iff]
      exact ⟨rfl, fun he => hb (beq_iff_eq.1 he)⟩

end AsmXml
