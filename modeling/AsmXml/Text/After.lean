import AsmXml.Text.Utf8

/-! # Text behind a mark

`after?` cuts a mark off the front of a text and `unmark` does so where there is one to cut off.
-/

namespace AsmXml.Text

/-- What follows `mark` in a text that begins with it. -/
def after? (mark text : Bytes) : Option Bytes :=
  if mark.isPrefixOf text then some (text.drop mark.length) else none

/-- The text without `mark` in front, if it begins with it. -/
def unmark (mark text : Bytes) : Bytes :=
  (after? mark text).getD text

theorem after?_eq_some_iff {mark text body : Bytes} :
    after? mark text = some body ↔ text = mark ++ body := by
  unfold after?
  constructor
  · intro h
    split at h
    · next hp =>
      obtain ⟨rest, rfl⟩ := List.isPrefixOf_iff_prefix.1 hp
      rw [List.drop_left, Option.some.injEq] at h
      rw [h]
    · cases h
  · rintro rfl
    rw [if_pos (List.isPrefixOf_iff_prefix.2 (List.prefix_append mark body)), List.drop_left]

@[simp] theorem after?_append (mark body : Bytes) : after? mark (mark ++ body) = some body :=
  after?_eq_some_iff.2 rfl

theorem after?_eq_none_iff {mark text : Bytes} : after? mark text = none ↔ ¬ mark <+: text := by
  unfold after?
  rw [← List.isPrefixOf_iff_prefix]
  split
  · next h => simp [h]
  · next h => simp [h]

@[simp] theorem unmark_append (mark body : Bytes) : unmark mark (mark ++ body) = body := by
  simp [unmark]

theorem unmark_cases (mark text : Bytes) :
    text = mark ++ unmark mark text ∨ unmark mark text = text := by
  unfold unmark
  cases h : after? mark text with
  | some body => exact Or.inl (after?_eq_some_iff.1 h)
  | none => exact Or.inr rfl

end AsmXml.Text
