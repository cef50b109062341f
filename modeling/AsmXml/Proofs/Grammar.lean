import AsmXml.Line
import AsmXml.Proofs.InstructionSet
import AsmXml.Proofs.Lexeme
import Mathlib.Data.List.Forall2

/-! # The grammar of lines

When the fields of a line spell a statement (`Spells`), and what is to be said about a line that
does not (`Complaint.First`). Both are stated on the fields, the instruction set and the grammar of
tokens alone. Faults have an order of their own: five stages, of which the first that applies
decides. A line with a field spells a statement or has a first complaint
(`spells_or_first_complaint`). All stages but the first ask for a signature and the operands that
fit it (`Forms`), whatever these are called (`forms_or_firstOf`).
-/

namespace AsmXml

open Text

/-! ## Statements -/

/-- An operand of category `got` fits where `expected` stands in a signature. -/
def Category.Admits : (expected got : Category) → Prop
  | .symb, got => got ∈ [Category.var, .int, .bool, .string, .nil]
  | expected, got => got = expected

instance (expected got : Category) : Decidable (expected.Admits got) := by
  unfold Category.Admits
  split <;> infer_instance

/-- A well-formed token of a category that is expected. -/
def Operand.Fits (expected : Category) (o : Operand) : Prop :=
  expected.Admits o.category ∧ Lexeme o.category o.text

/-- The fields are an opcode and as many tokens as its signature has parameters, each of which
fits, and none of which names an opcode. -/
inductive Spells : List Bytes → Statement → Prop
  | intro {name : Bytes} {s : Signature} {operands : List Operand} (hs : lookup? name = some s)
      (ho : List.Forall₂ Operand.Fits s.params operands)
      (hn : ∀ o ∈ operands, lookup? o.text = none) :
      Spells (name :: operands.map Operand.text) ⟨s.opcode, operands⟩

/-- The fields are an opcode and as many tokens as its signature has parameters, each of which
fits. -/
inductive Forms : List Bytes → Statement → Prop
  | intro {name : Bytes} {s : Signature} {operands : List Operand} (hs : lookup? name = some s)
      (ho : List.Forall₂ Operand.Fits s.params operands) :
      Forms (name :: operands.map Operand.text) ⟨s.opcode, operands⟩

theorem spells_iff_forms {fields : List Bytes} {st : Statement} :
    Spells fields st ↔ Forms fields st ∧ ∀ o ∈ st.operands, lookup? o.text = none := by
  constructor
  · rintro ⟨hs, ho, hn⟩
    exact ⟨.intro hs ho, hn⟩
  · rintro ⟨⟨hs, ho⟩, hn⟩
    exact .intro hs ho hn

/-- Every operand of a statement is a well-formed token of a category that its position admits. -/
theorem exists_fits {params : List Category} {operands : List Operand}
    (h : List.Forall₂ Operand.Fits params operands) {o : Operand} (hm : o ∈ operands) :
    ∃ p ∈ params, Operand.Fits p o := by
  induction h with
  | nil => cases hm
  | @cons p o' params operands hf _ ih =>
    rcases List.mem_cons.1 hm with rfl | hm
    · exact ⟨p, List.mem_cons_self, hf⟩
    · obtain ⟨p', hp, hf'⟩ := ih hm
      exact ⟨p', List.mem_cons_of_mem _ hp, hf'⟩

theorem Forms.lexeme {fields : List Bytes} {st : Statement} (h : Forms fields st) :
    ∀ o ∈ st.operands, Lexeme o.category o.text := by
  cases h with
  | intro hs ho =>
    intro o hm
    obtain ⟨p, -, hf⟩ := exists_fits ho hm
    exact hf.2

theorem Spells.lexeme {fields : List Bytes} {st : Statement} (h : Spells fields st) :
    ∀ o ∈ st.operands, Lexeme o.category o.text :=
  (spells_iff_forms.1 h).1.lexeme

/-! ## Complaints -/

/-- What is said about a line at fault: the kind of error, the single token to blame if there is
one, and the cause. -/
structure Complaint where
  kind : ErrorKind
  token : Bytes
  fault : Fault

namespace Complaint

/-- More than one field names an opcode. -/
inductive Ambiguous (fields : List Bytes) : Complaint → Prop
  | intro (h : 1 < fields.countP isOpcode) :
      Ambiguous fields ⟨.malformed, [], .ambiguousLine (fields.countP isOpcode)⟩

/-- The first field names no opcode. -/
inductive UnknownOpcode : List Bytes → Complaint → Prop
  | intro {first : Bytes} {tokens : List Bytes} (h : lookup? first = none) :
      UnknownOpcode (first :: tokens) ⟨.opcode, first, .unknownOpcode first⟩

/-- There are more or fewer operands than the signature of the opcode has parameters. -/
inductive WrongCount : List Bytes → Complaint → Prop
  | intro {first : Bytes} {tokens : List Bytes} {s : Signature} (hs : lookup? first = some s)
      (h : tokens.length ≠ s.arity) : WrongCount (first :: tokens)
        ⟨.malformed, [], .argumentCount s.opcode s.arity tokens.length⟩

/-- The token is the first operand with a mark and no body that fits the mark. -/
inductive MalformedOperand : List Bytes → Complaint → Prop
  | intro {first token : Bytes} {before after : List Bytes} {m : Malformed}
      (hb : ∀ t ∈ before, ∀ m, ¬ Misshapen m t) (h : Misshapen m token) :
      MalformedOperand (first :: (before ++ token :: after))
        ⟨.malformed, token, .malformed m token⟩

/-- The category that a token shows: that of its grammar, or none. -/
def Shows (token : Bytes) (c : Category) : Prop :=
  Lexeme c token ∨ c = .invalid ∧ ∀ c', ¬ Lexeme c' token

/-- The token is the first operand of a category that its position does not admit. -/
inductive WrongType : List Bytes → Complaint → Prop
  | intro {first token : Bytes} {before after : List Bytes} {s : Signature}
      {params more : List Category} {expected found : Category} (hs : lookup? first = some s)
      (hp : s.params = params ++ expected :: more)
      (hb : List.Forall₂ (fun p t => ∃ c, p.Admits c ∧ Lexeme c t) params before)
      (hf : Shows token found) (h : ¬ expected.Admits found) :
      WrongType (first :: (before ++ token :: after))
        ⟨.malformed, token, .argumentType token expected found⟩

/-- The complaint of the first of several stages that applies to the fields. -/
def FirstOf (stages : List (List Bytes → Complaint → Prop)) (fields : List Bytes)
    (c : Complaint) : Prop :=
  ∃ before stage after, stages = before ++ stage :: after ∧ stage fields c ∧
    ∀ earlier ∈ before, ∀ c', ¬ earlier fields c'

/-- The faults of a line in the order in which they are looked for. -/
def stages : List (List Bytes → Complaint → Prop) :=
  [Ambiguous, UnknownOpcode, WrongCount, MalformedOperand, WrongType]

/-- The faults that are found by means of a signature: all but a second opcode on the line. -/
def signatureStages : List (List Bytes → Complaint → Prop) :=
  [UnknownOpcode, WrongCount, MalformedOperand, WrongType]

/-- The complaint of the first stage that applies to the fields. -/
def First (fields : List Bytes) (c : Complaint) : Prop :=
  FirstOf stages fields c

theorem First.cases {fields : List Bytes} {c : Complaint} (h : First fields c) :
    Ambiguous fields c ∨ UnknownOpcode fields c ∨ WrongCount fields c ∨
      MalformedOperand fields c ∨ WrongType fields c := by
  obtain ⟨before, stage, after, hs, hc, -⟩ := h
  have hm : stage ∈ stages := by simp [hs]
  simp only [stages, List.mem_cons, List.not_mem_nil, or_false] at hm
  rcases hm with rfl | rfl | rfl | rfl | rfl
  · exact Or.inl hc
  · exact Or.inr (Or.inl hc)
  · exact Or.inr (Or.inr (Or.inl hc))
  · exact Or.inr (Or.inr (Or.inr (Or.inl hc)))
  · exact Or.inr (Or.inr (Or.inr (Or.inr hc)))

theorem not_firstOf_nil {fields : List Bytes} {c : Complaint} : ¬ FirstOf [] fields c := by
  rintro ⟨before, stage, after, hs, -, -⟩
  simp at hs

theorem FirstOf.cons_cases {stage : List Bytes → Complaint → Prop}
    {stages : List (List Bytes → Complaint → Prop)} {fields : List Bytes} {c : Complaint}
    (h : FirstOf (stage :: stages) fields c) :
    stage fields c ∨ (∀ c', ¬ stage fields c') ∧ FirstOf stages fields c := by
  obtain ⟨before, found, after, hs, hc, hn⟩ := h
  cases before with
  | nil =>
    obtain ⟨rfl, -⟩ := List.cons.inj hs
    exact Or.inl hc
  | cons earlier before =>
    obtain ⟨rfl, rfl⟩ := List.cons.inj hs
    refine Or.inr ⟨hn _ List.mem_cons_self, before, found, after, rfl, hc, fun e he => ?_⟩
    exact hn e (List.mem_cons_of_mem _ he)

theorem FirstOf.cons {stage : List Bytes → Complaint → Prop}
    {stages : List (List Bytes → Complaint → Prop)} {fields : List Bytes} {c : Complaint}
    (hn : ∀ c', ¬ stage fields c') (h : FirstOf stages fields c) :
    FirstOf (stage :: stages) fields c := by
  obtain ⟨before, found, after, rfl, hc, hb⟩ := h
  exact ⟨stage :: before, found, after, rfl, hc, List.forall_mem_cons.2 ⟨hn, hb⟩⟩

end Complaint

/-! ## First positions -/

theorem exists_first {α : Type} {p : α → Prop} {xs : List α} (h : ∃ x ∈ xs, p x) :
    ∃ before x after, xs = before ++ x :: after ∧ p x ∧ ∀ y ∈ before, ¬ p y := by
  induction xs with
  | nil =>
    obtain ⟨x, hx, -⟩ := h
    cases hx
  | cons x xs ih =>
    by_cases hp : p x
    · exact ⟨[], x, xs, rfl, hp, by simp⟩
    · have h' : ∃ y ∈ xs, p y := by
        obtain ⟨y, hy, hpy⟩ := h
        rcases List.mem_cons.1 hy with rfl | hy
        · exact absurd hpy hp
        · exact ⟨y, hy, hpy⟩
      obtain ⟨before, y, after, rfl, hpy, hn⟩ := ih h'
      refine ⟨x :: before, y, after, rfl, hpy, fun z hz => ?_⟩
      rcases List.mem_cons.1 hz with rfl | hz
      · exact hp
      · exact hn z hz

/-- Two lists of one length agree throughout or have a first position where they do not. -/
theorem forall₂_or_first {α β : Type} (R : α → β → Prop) {xs : List α} {ys : List β}
    (hl : ys.length = xs.length) : List.Forall₂ R xs ys ∨
      ∃ xs₁ x xs₂ ys₁ y ys₂, xs = xs₁ ++ x :: xs₂ ∧ ys = ys₁ ++ y :: ys₂ ∧
        List.Forall₂ R xs₁ ys₁ ∧ ¬ R x y := by
  induction xs generalizing ys with
  | nil =>
    cases ys with
    | nil => exact Or.inl .nil
    | cons y ys => simp at hl
  | cons x xs ih =>
    cases ys with
    | nil => simp at hl
    | cons y ys =>
      by_cases hr : R x y
      · rcases ih (by simpa using hl) with hall | ⟨xs₁, x', xs₂, ys₁, y', ys₂, rfl, rfl, hp, hn⟩
        · exact Or.inl (.cons hr hall)
        · exact Or.inr ⟨x :: xs₁, x', xs₂, y :: ys₁, y', ys₂, rfl, rfl, .cons hr hp, hn⟩
      · exact Or.inr ⟨[], x, xs, [], y, ys, rfl, rfl, .nil, hr⟩

/-! ## Every line is judged -/

namespace Complaint

/-- A line to which one of several faults applies has a first complaint. -/
theorem exists_first_complaint {stages : List (List Bytes → Complaint → Prop)}
    {fields : List Bytes} (h : ∃ stage ∈ stages, ∃ c, stage fields c) :
    ∃ c, FirstOf stages fields c := by
  obtain ⟨before, stage, after, hs, ⟨c, hc⟩, hn⟩ := exists_first h
  exact ⟨c, before, stage, after, hs, hc, fun earlier he c' hc' => hn earlier he ⟨c', hc'⟩⟩

theorem shows_total (token : Bytes) : ∃ c, Shows token c := by
  by_cases h : ∃ c, Lexeme c token
  · obtain ⟨c, hc⟩ := h
    exact ⟨c, Or.inl hc⟩
  · exact ⟨.invalid, Or.inr ⟨rfl, fun c hc => h ⟨c, hc⟩⟩⟩

/-- No signature has a position for tokens of no known form. -/
theorem not_admits_invalid : ∀ s ∈ instructionSet, ∀ p ∈ s.params, ¬ p.Admits .invalid := by
  decide

theorem wrongType_of_not_fits {first : Bytes} {tokens : List Bytes} {s : Signature}
    (hs : lookup? first = some s) (hl : tokens.length = s.arity)
    (hn : ¬ List.Forall₂ (fun p t => ∃ c, p.Admits c ∧ Lexeme c t) s.params tokens) :
    ∃ c, WrongType (first :: tokens) c := by
  rcases forall₂_or_first (fun p t => ∃ c, p.Admits c ∧ Lexeme c t) hl with hall |
    ⟨params, expected, more, before, token, after, hp, rfl, hb, hx⟩
  · exact absurd hall hn
  · obtain ⟨found, hf⟩ := shows_total token
    refine ⟨_, .intro hs hp hb hf fun ha => ?_⟩
    rcases hf with hf | ⟨rfl, -⟩
    · exact hx ⟨found, ha, hf⟩
    · have hm : expected ∈ s.params := by simp [hp]
      exact not_admits_invalid s (lookup?_eq_some_iff.1 hs).1 expected hm ha

end Complaint

theorem exists_operands {params : List Category} {tokens : List Bytes}
    (h : List.Forall₂ (fun p t => ∃ c, p.Admits c ∧ Lexeme c t) params tokens) :
    ∃ operands, List.Forall₂ Operand.Fits params operands ∧
      tokens = operands.map Operand.text := by
  induction h with
  | nil => exact ⟨[], .nil, rfl⟩
  | cons hx _ ih =>
    obtain ⟨c, ha, hl⟩ := hx
    obtain ⟨operands, ho, rfl⟩ := ih
    exact ⟨⟨_, c⟩ :: operands, .cons ⟨ha, hl⟩ ho, rfl⟩

/-- Behind an opcode, one opcode a line means that no operand names one. -/
theorem countP_isOpcode_le_one {first : Bytes} {tokens : List Bytes} {s : Signature}
    (hs : lookup? first = some s) :
    ¬ 1 < (first :: tokens).countP isOpcode ↔ ∀ t ∈ tokens, lookup? t = none := by
  have hf : isOpcode first = true := by simp [isOpcode, hs]
  have hc : (first :: tokens).countP isOpcode = tokens.countP isOpcode + 1 :=
    List.countP_cons_of_pos hf
  have hz : tokens.countP isOpcode = 0 ↔ ∀ t ∈ tokens, lookup? t = none := by
    simp only [List.countP_eq_zero, Bool.not_eq_true, isOpcode_eq_false_iff]
  rw [hc, ← hz]
  omega

/-- A line that has a field forms a statement, or its signature finds a fault. -/
theorem forms_or_firstOf (first : Bytes) (tokens : List Bytes) :
    (∃ st, Forms (first :: tokens) st) ∨
      ∃ c, Complaint.FirstOf Complaint.signatureStages (first :: tokens) c := by
  by_cases h : ∃ stage ∈ Complaint.signatureStages, ∃ c, stage (first :: tokens) c
  · exact Or.inr (Complaint.exists_first_complaint h)
  -- no stage applies, so each part of the grammar is met
  have hno : ∀ stage ∈ Complaint.signatureStages, ¬ ∃ c, stage (first :: tokens) c :=
    fun stage hm hc => h ⟨stage, hm, hc⟩
  have h1 := hno Complaint.UnknownOpcode (by simp [Complaint.signatureStages])
  have h2 := hno Complaint.WrongCount (by simp [Complaint.signatureStages])
  have h4 := hno Complaint.WrongType (by simp [Complaint.signatureStages])
  refine Or.inl ?_
  cases hs : lookup? first with
  | none => exact absurd ⟨_, .intro hs⟩ h1
  | some s =>
    have hl : tokens.length = s.arity := by
      by_cases hl : tokens.length = s.arity
      · exact hl
      · exact absurd ⟨_, .intro hs hl⟩ h2
    by_cases hfit : List.Forall₂ (fun p t => ∃ c, p.Admits c ∧ Lexeme c t) s.params tokens
    · obtain ⟨operands, ho, rfl⟩ := exists_operands hfit
      exact ⟨_, .intro hs ho⟩
    · exact absurd (Complaint.wrongType_of_not_fits hs hl hfit) h4

/-- What a line with one opcode forms, it spells. -/
theorem Forms.spells {first : Bytes} {tokens : List Bytes} {st : Statement}
    (h : Forms (first :: tokens) st) (hone : ¬ 1 < (first :: tokens).countP isOpcode) :
    Spells (first :: tokens) st := by
  cases h with
  | intro hs ho =>
    have hn := (countP_isOpcode_le_one hs).1 hone
    exact .intro hs ho fun o hm => hn o.text (List.mem_map_of_mem hm)

/-- A line that has a field spells a statement or has a first complaint. -/
theorem spells_or_first_complaint (first : Bytes) (tokens : List Bytes) :
    (∃ st, Spells (first :: tokens) st) ∨ ∃ c, Complaint.First (first :: tokens) c := by
  by_cases hlt : 1 < (first :: tokens).countP isOpcode
  · exact Or.inr ⟨_, [], Complaint.Ambiguous, _, rfl, .intro hlt, by simp⟩
  have hno : ∀ c, ¬ Complaint.Ambiguous (first :: tokens) c := by
    rintro _ ⟨h⟩
    exact hlt h
  rcases forms_or_firstOf first tokens with ⟨st, hst⟩ | ⟨c, hc⟩
  · exact Or.inl ⟨st, hst.spells hlt⟩
  · exact Or.inr ⟨c, hc.cons hno⟩

end AsmXml
