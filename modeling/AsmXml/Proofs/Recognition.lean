import AsmXml.Proofs.LineCheck

/-! # Recognition divides all tokens by their shape

Every byte string has exactly one shape: it is a well-formed token of one category, a token whose
body is not what its mark promises, or of no known form (`Shaped`). Recognition tells which, keeps
the token, and loses none of it when the mark is taken off (`recognize_iff_shaped`).
-/

namespace AsmXml

open Text

/-- The category and the complaint that the shape of a token calls for. A complaint goes with no
category, and so does a token that follows no grammar and has no mark to break a promise of. -/
inductive Shaped (token : Bytes) : Category → Option Malformed → Prop
  | lexeme {c : Category} (h : Lexeme c token) : Shaped token c none
  | misshapen {m : Malformed} (h : Misshapen m token) : Shaped token .invalid (some m)
  | formless (hl : ∀ c, ¬ Lexeme c token) (hm : ∀ m, ¬ Misshapen m token) :
      Shaped token .invalid none

theorem recognize_of_error {token : Bytes} {m : Malformed} (h : classify token = .error m) :
    recognize token = (⟨token, .invalid⟩, some m) := by
  unfold recognize
  rw [h]

theorem Shaped.recognize_eq {token : Bytes} {c : Category} {m : Option Malformed}
    (h : Shaped token c m) : recognize token = (⟨token, c⟩, m) := by
  cases h with
  | lexeme h => exact recognize_of_ok h.classify
  | misshapen h => exact recognize_of_error (classify_eq_error_iff.2 h)
  | formless hl hm => exact recognize_of_ok (classify_of_shows hm (Or.inr ⟨rfl, hl⟩))

theorem exists_shaped (token : Bytes) : ∃ c m, Shaped token c m := by
  by_cases hm : ∃ m, Misshapen m token
  · obtain ⟨m, hm⟩ := hm
    exact ⟨.invalid, some m, .misshapen hm⟩
  · obtain ⟨c, hl | ⟨rfl, hl⟩⟩ := Complaint.shows_total token
    · exact ⟨c, none, .lexeme hl⟩
    · exact ⟨.invalid, none, .formless hl fun m h => hm ⟨m, h⟩⟩

theorem recognize_eq_iff {token : Bytes} {c : Category} {m : Option Malformed} :
    recognize token = (⟨token, c⟩, m) ↔ Shaped token c m := by
  refine ⟨fun h => ?_, Shaped.recognize_eq⟩
  obtain ⟨c', m', hs⟩ := exists_shaped token
  have he := hs.recognize_eq
  rw [h] at he
  simp only [Prod.mk.injEq, Operand.mk.injEq, true_and] at he
  rw [he.1, he.2]
  exact hs

/-- The fault of a single token is the complaint about it. -/
theorem recognizeAll_singleton_iff {token : Bytes} {fault : Fault} :
    recognizeAll [token] = .error fault ↔ ∃ m, Misshapen m token ∧ fault = .malformed m token := by
  constructor
  · intro h
    cases hc : classify token with
    | ok c =>
      rw [recognizeAll_cons_ok hc] at h
      cases h
    | error m =>
      rw [recognizeAll_cons_error hc] at h
      cases h
      exact ⟨m, classify_eq_error_iff.1 hc, rfl⟩
  · rintro ⟨m, hm, rfl⟩
    exact recognizeAll_cons_error (classify_eq_error_iff.2 hm) []

/-! ## Marks and values -/

theorem Shaped.mark_eq {token : Bytes} {c : Category} {m : Option Malformed}
    (h : Shaped token c m) : c.mark = .ok c.literalMark := by
  cases h with
  | lexeme h => exact mark_eq_literalMark h.known.2
  | misshapen | formless => rfl

/-- Putting the mark back in front of the value gives the token. -/
theorem Shaped.literalMark_append {token : Bytes} {c : Category} {m : Option Malformed}
    (h : Shaped token c m) : c.literalMark ++ unmark c.literalMark token = token := by
  cases h with
  | lexeme h => exact h.eq_literalMark_append.symm
  | misshapen | formless => exact unmark_append [] token

theorem Shaped.value_eq {token : Bytes} {c : Category} {m : Option Malformed}
    (h : Shaped token c m) :
    (⟨token, c⟩ : Operand).value = .ok (unmark c.literalMark token) := by
  unfold Operand.value
  rw [h.mark_eq]
  rfl

/-- **Recognition divides all tokens by their shape and loses nothing.** Every byte string has
exactly one shape, and recognition gives the token itself with the category and the complaint of
that shape. The mark of the category in front of the value is the token again, and the fault that
is reported for a token alone names its complaint. -/
theorem recognize_iff_shaped (token : Bytes) :
    (∃! outcome : Category × Option Malformed, Shaped token outcome.1 outcome.2) ∧
    (recognize token).1.text = token ∧
    (∀ c m, recognize token = (⟨token, c⟩, m) ↔ Shaped token c m) ∧
    (∃ mark value, (recognize token).1.category.mark = .ok mark ∧
      (recognize token).1.value = .ok value ∧ mark ++ value = token) ∧
    ∀ fault, recognizeAll [token] = .error fault ↔
      ∃ m, Misshapen m token ∧ fault = .malformed m token := by
  obtain ⟨c, m, hs⟩ := exists_shaped token
  have hr := hs.recognize_eq
  refine ⟨⟨(c, m), hs, ?_⟩, ?_, fun _ _ => recognize_eq_iff, ?_, ?_⟩
  · rintro ⟨c', m'⟩ hs'
    have he := recognize_eq_iff.2 hs'
    rw [hr] at he
    simpa [eq_comm] using he
  · rw [hr]
  · rw [hr]
    exact ⟨_, _, hs.mark_eq, hs.value_eq, hs.literalMark_append⟩
  · exact fun _ => recognizeAll_singleton_iff

end AsmXml
