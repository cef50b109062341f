import AsmXml.Category
import AsmXml.Proofs.Text.Decimal

/-! # Names and marks of categories

A category is known by its name (`Category.name_injective`): the names of the table are different
words, and the name of a code without a category begins with a capital letter, which none of them
has, and holds the code. No name has a blank in it. Unknown codes apart, asking a category for its
mark gives that of its literals, which is empty for what is no literal (`mark_eq_literalMark`).
-/

namespace AsmXml

open Text

/-! ## Names -/

/-- The categories that have a name of their own. -/
def namedCategories : List Category :=
  [.invalid, .var, .int, .bool, .string, .nil, .label, .type, .symb]

/-- The first byte of the names that codes without a category have. -/
def unknownInitial : UInt8 := 0x55

def blankByte : UInt8 := 0x20

namespace Category

theorem named_or_unknown (c : Category) : c ∈ namedCategories ∨ ∃ code, c = .unknown code := by
  cases c <;> simp [namedCategories]

theorem name_of_named : ∀ c ∈ namedCategories, unknownInitial ∉ c.name ∧ blankByte ∉ c.name ∧
    ∀ d ∈ namedCategories, c.name = d.name → c = d := by
  decide

theorem unknownInitial_mem (code : Int) : unknownInitial ∈ (Category.unknown code).name :=
  List.mem_cons_self

/-- A category is known by its name, a code without a category included. -/
theorem name_injective {c d : Category} (h : c.name = d.name) : c = d := by
  rcases c.named_or_unknown with hc | ⟨m, rfl⟩
  · rcases d.named_or_unknown with hd | ⟨n, rfl⟩
    · exact (name_of_named c hc).2.2 d hd h
    · exact absurd (h ▸ unknownInitial_mem n) (name_of_named c hc).1
  · rcases d.named_or_unknown with hd | ⟨n, rfl⟩
    · exact absurd (h ▸ unknownInitial_mem m) (name_of_named d hd).1
    · have hd := List.append_cancel_left (List.append_cancel_right h)
      rw [decimal_injective hd]

theorem blankByte_not_mem_name (c : Category) : blankByte ∉ c.name := by
  rcases c.named_or_unknown with hc | ⟨n, rfl⟩
  · exact (name_of_named c hc).2.1
  · intro hm
    rcases List.mem_append.1 hm with hm | hm
    · rcases List.mem_append.1 hm with hm | hm
      · exact absurd hm (by decide)
      · exact absurd (mem_decimal hm) (by decide)
    · exact absurd hm (by decide)

end Category

/-! ## Marks of literals -/

/-- The mark of a literal type; empty for what is no literal. -/
def Category.literalMark : Category → Bytes
  | .int => utf8 "int@"
  | .bool => utf8 "bool@"
  | .string => utf8 "string@"
  | .nil => utf8 "nil@"
  | .invalid | .var | .label | .type | .symb | .unknown _ => []

theorem mark_eq_literalMark {c : Category} (h : ∀ k, c ≠ .unknown k) :
    c.mark = .ok c.literalMark := by
  cases c with
  | unknown k => exact absurd rfl (h k)
  | _ => rfl

theorem literalMark_eq_utf8 (c : Category) : ∃ s, c.literalMark = utf8 s := by
  cases c with
  | int => exact ⟨"int@", rfl⟩
  | bool => exact ⟨"bool@", rfl⟩
  | string => exact ⟨"string@", rfl⟩
  | nil => exact ⟨"nil@", rfl⟩
  | _ => exact ⟨"", rfl⟩

end AsmXml
