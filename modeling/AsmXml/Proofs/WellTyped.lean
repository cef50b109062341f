import AsmXml.Proofs.Acceptance
import AsmXml.Proofs.Rereading

/-! # Programs are well typed

A program that a reader gives agrees with the instruction set throughout (`WellTyped`), whatever was
read before. This is all that code generation needs: every operand has a type, so the document is
built, and only the sink can keep it from being stored (`reading_wellTyped`).
-/

namespace AsmXml

open Text

/-- The operand is a token of the source, recognized as what it is, and fits at its position. -/
structure Operand.WellTyped (source : Bytes) (s : Signature) (position : Nat) (o : Operand) :
    Prop where
  token : ∃ line ∈ bodyLines source, o.text ∈ (fields line).tail
  ne_nil : o.text ≠ []
  not_blank : ∀ g ∈ decode o.text, g.isBlank = false
  recognized : recognize o.text = (o, none)
  category : o.category ∈ [Category.var, .int, .bool, .string, .nil, .label, .type]
  accepted : ∃ expected, s.param position = .ok expected ∧
    expected.accepts o.category = .ok true
  not_opcode : isOpcode o.text = false

/-- The instruction has the signature: the opcode stands in the table as it is, and there is one
operand for each parameter. -/
structure Instruction.WellTyped (source : Bytes) (s : Signature) (i : Instruction) : Prop where
  listed : signature? i.opcode = some s
  opcode : i.opcode = s.opcode
  arity : i.operands.length = s.arity
  operands : ∀ (k : Nat) (o : Operand), i.operands[k]? = some o → o.WellTyped source s k

/-- The instructions are numbered from one, and each has a signature. -/
structure WellTyped (source : Bytes) (program : List Instruction) : Prop where
  orders : ∀ (k : Nat) (i : Instruction), program[k]? = some i → i.order = k + 1
  typed : ∀ i ∈ program, ∃ s, i.WellTyped source s

/-- The failure says that some category has no type in a document. -/
def Failure.isUntyped : Failure → Bool
  | .noTypeName _ => true
  | _ => false

/-! ## Statements that were read -/

theorem Lexeme.mem_categories {c : Category} {text : Bytes} (h : Lexeme c text) :
    c ∈ [Category.var, .int, .bool, .string, .nil, .label, .type] := by
  cases h <;> simp

theorem operand_wellTyped {source line : Bytes} (hl : line ∈ bodyLines source) {s : Signature}
    (hs : s ∈ instructionSet) {position : Nat} {p : Category} (hp : s.params[position]? = some p)
    {o : Operand} (hm : o.text ∈ (fields line).tail) (hf : o.Fits p)
    (hn : lookup? o.text = none) : o.WellTyped source s position where
  token := ⟨line, hl, hm⟩
  ne_nil := (mem_fields (List.mem_of_mem_tail hm)).1
  not_blank := (mem_fields (List.mem_of_mem_tail hm)).2.2
  recognized := recognize_of_ok hf.2.classify
  category := hf.2.mem_categories
  accepted := by
    refine ⟨p, param_of_getElem? hp, ?_⟩
    rw [accepts_eq (params_known s hs p (List.mem_of_getElem? hp)) hf.2.known.2,
      decide_eq_true hf.1]
  not_opcode := isOpcode_eq_false_iff.2 hn

theorem Spells.wellTyped {source line : Bytes} (hl : line ∈ bodyLines source) {st : Statement}
    (h : Spells (fields line) st) (order : Nat) :
    ∃ s, (st.numbered order).WellTyped source s := by
  generalize hf : fields line = fs at h
  cases h with
  | @intro name s operands hs ho hn =>
    have hm := (lookup?_eq_some_iff.1 hs).1
    obtain ⟨hlen, hget⟩ := List.forall₂_iff_get.1 ho
    refine ⟨s, signature?_opcode s hm, rfl, hlen.symm, fun k o hk => ?_⟩
    obtain ⟨hk', rfl⟩ := List.getElem?_eq_some_iff.1 hk
    have hmem : operands[k] ∈ operands := List.getElem_mem hk'
    refine operand_wellTyped hl hm (List.getElem?_eq_getElem (hlen ▸ hk')) ?_
      (hget k (hlen ▸ hk') hk') (hn _ hmem)
    rw [hf]
    exact List.mem_map_of_mem hmem

theorem SpellAll.exists_mem {lines : List Bytes} {statements : List Statement}
    (h : SpellAll lines statements) :
    ∀ st ∈ statements, ∃ line ∈ lines, Spells (fields line) st :=
  h.forall_mem fun line hm _ hs => ⟨line, hm, hs⟩

theorem held_wellTyped {source : Bytes} {statements : List Statement}
    (hs : SpellAll (bodyLines source) statements) (k : Nat) :
    WellTyped source (held statements.length statements k) where
  orders i instruction hi := by
    rw [getElem?_held] at hi
    split at hi
    · obtain ⟨st, -, rfl⟩ := Option.map_eq_some_iff.1 hi
      rw [Nat.div_add_mod']
      rfl
    · cases hi
  typed instruction hm := by
    obtain ⟨i, hi⟩ := List.mem_iff_getElem?.1 hm
    rw [getElem?_held] at hi
    split at hi
    · obtain ⟨st, hst, rfl⟩ := Option.map_eq_some_iff.1 hi
      obtain ⟨line, hl, hsp⟩ := hs.exists_mem st (List.mem_of_getElem? hst)
      exact hsp.wellTyped hl _
    · cases hi

/-! ## Generation -/

theorem WellTyped.renderable {source : Bytes} {program : List Instruction}
    (h : WellTyped source program) : Renderable program := by
  intro i hi o ho
  obtain ⟨s, hs⟩ := h.typed i hi
  obtain ⟨k, hk⟩ := List.mem_iff_getElem?.1 ho
  have hc := (hs.operands k o hk).category
  simp only [List.mem_cons, List.not_mem_nil, or_false] at hc
  rcases hc with hc | hc | hc | hc | hc | hc | hc <;> rw [hc] <;> rfl

theorem not_isUntyped_of_deliver {sink : Sink} {text : Bytes} {f : Failure}
    (h : (sink.deliver text).failure = some f) : f.mentions Failure.isUntyped = false := by
  cases sink with
  | accepting => simp [Sink.deliver, Sink.write] at h
  | failing reason =>
    cases h
    rfl
  | halving =>
    simp only [Sink.deliver, Sink.write] at h
    split at h
    · cases h
    · cases h
      rfl

/-- **Every program that is read is well typed, and can be written.** This holds of every reading of
a source, and no reading and no generation from what it gave runs into a defect. -/
theorem reading_wellTyped (source : Bytes) (k : Nat) :
    (∀ d, (Reader.reading source k).2 ≠ .error (.defect d)) ∧
    ∀ program, (Reader.reading source k).2 = .ok program →
      WellTyped source program ∧
      ∀ sink, ∃ delivery, generate sink program = .ok delivery ∧
        ∀ f, delivery.failure = some f → f.mentions Failure.isUntyped = false := by
  rcases reading_cases source with ⟨fault, hc, hk⟩ |
    ⟨hh, ⟨statements, hs⟩ | ⟨before, line, after, statements, c, hl, hs, hc⟩⟩
  · rw [reading_of_checkHeader hc]
    exact ⟨by simp, by simp⟩
  · rw [reading_of_spellAll hh hs]
    refine ⟨by simp, fun program hp => ?_⟩
    cases hp
    have hw := held_wellTyped hs (k + 1)
    exact ⟨hw, fun sink => ⟨_, generate_of_renderable hw.renderable sink,
      fun f hf => not_isUntyped_of_deliver hf⟩⟩
  · rw [reading_of_first hh hl hs hc]
    exact ⟨by simp, by simp⟩

/-- A source that reads a number into a variable. -/
def readSource : Bytes :=
  utf8 ".IPPcode24\nread GF@x int"

theorem reading_wellTyped_read :
    ∃ program, (Reader.reading readSource 1).2 = .ok program ∧
      program.map (·.order) = [1, 2] ∧ WellTyped readSource program ∧
      ∀ sink, ∃ delivery, generate sink program = .ok delivery ∧
        ∀ f, delivery.failure = some f → f.mentions Failure.isUntyped = false := by
  have hr : (Reader.reading readSource 1).2 =
      .ok [⟨1, utf8 "READ", [⟨utf8 "GF@x", .var⟩, ⟨utf8 "int", .type⟩]⟩,
        ⟨2, utf8 "READ", [⟨utf8 "GF@x", .var⟩, ⟨utf8 "int", .type⟩]⟩] := rfl
  exact ⟨_, hr, rfl, (reading_wellTyped readSource 1).2 _ hr⟩

end AsmXml
