import AsmXml.Proofs.Document.Generation
import AsmXml.Proofs.Source
import AsmXml.Translator

/-! # Which sources are translated, and to what

A source is a program if its first line is the header and every other line spells a statement
(`IsProgram`). A translator that can read its input and write its output accepts exactly the
programs, and what it writes for one is the document of its statements, numbered from one
(`run_accepts_iff_isProgram`).
-/

namespace AsmXml

open Text

/-- The lines are a header and lines that spell the statements. -/
def IsProgram (lines : List Bytes) (statements : List Statement) : Prop :=
  ∃ rest, lines = header :: rest ∧ SpellAll rest statements

/-- The document of statements: their opcodes and operands, numbered from one. -/
def translation (statements : List Statement) : Document :=
  ⟨statements.mapIdx fun i st => ⟨i + 1, st.opcode, st.operands.map Operand.argument⟩⟩

/-! ## Statements that were spelled -/

theorem Lexeme.isConcrete {c : Category} {text : Bytes} (h : Lexeme c text) :
    c.isConcrete = .ok true := by
  cases h <;> rfl

theorem Spells.isConcrete {fields : List Bytes} {st : Statement} (h : Spells fields st) :
    ∀ o ∈ st.operands, o.category.isConcrete = .ok true :=
  fun o hm => (h.lexeme o hm).isConcrete

theorem Spells.upper_opcode {fields : List Bytes} {st : Statement} (h : Spells fields st) :
    upper st.opcode = st.opcode := by
  cases h with
  | intro hs ho hn => exact AsmXml.upper_opcode (lookup?_eq_some_iff.1 hs).1

/-- A fact about every statement that one of the lines spells holds of all of them. -/
theorem SpellAll.forall_mem {lines : List Bytes} {statements : List Statement}
    (h : SpellAll lines statements) {p : Statement → Prop}
    (hp : ∀ line ∈ lines, ∀ st, Spells (fields line) st → p st) : ∀ st ∈ statements, p st := by
  induction h with
  | nil => simp
  | cons hst _ ih =>
    obtain ⟨hline, hlines⟩ := List.forall_mem_cons.1 hp
    exact List.forall_mem_cons.2 ⟨hline _ hst, ih hlines⟩

theorem renderable_numbered {statements : List Statement} {order : Nat}
    (h : ∀ st ∈ statements, ∀ o ∈ st.operands, o.category.isConcrete = .ok true) :
    Renderable (numberedFrom order statements) := by
  intro i hi
  obtain ⟨k, hk, rfl⟩ := List.mem_mapIdx.1 hi
  exact h _ (List.getElem_mem hk)

theorem entries_numbered {statements : List Statement}
    (h : ∀ st ∈ statements, upper st.opcode = st.opcode) :
    (numberedFrom 0 statements).map Instruction.entry = (translation statements).entries := by
  unfold numberedFrom translation
  apply List.ext_getElem (by simp)
  intro k hk hk'
  have hst := h _ (List.getElem_mem (by simpa using hk' : k < statements.length))
  simp only [List.getElem_map, List.getElem_mapIdx, Instruction.entry, Statement.numbered, hst,
    Nat.zero_add, Int.natCast_add, Int.cast_ofNat_Int]

/-- The document of the instructions that were read is the translation of their statements. -/
theorem generate_spelled {lines : List Bytes} {statements : List Statement}
    (h : SpellAll lines statements) :
    generate .accepting (numberedFrom 0 statements) =
      .ok ⟨(translation statements).render, none⟩ := by
  have hr : Renderable (numberedFrom 0 statements) :=
    renderable_numbered (h.forall_mem fun _ _ _ => Spells.isConcrete)
  rw [generate_accepting hr, entries_numbered (h.forall_mem fun _ _ _ => Spells.upper_opcode)]

/-! ## Runs -/

/-- A prepared source is parsed as the statements of its lines, or it is refused. -/
theorem parse_prepare_cases (source : Bytes) :
    (∃ statements, IsProgram (sourceLines source) statements ∧
      parse (prepare (rawLines source)) = .ok (numberedFrom 0 statements)) ∨
    ∃ rejection, parse (prepare (rawLines source)) = .error (.refused rejection) := by
  cases hl : sourceLines source with
  | nil => exact Or.inr ⟨_, parse_of_blank (firstLine_prepare_nil hl)⟩
  | cons first rest =>
    have hf := firstLine_prepare hl
    by_cases hh : first = header
    · subst hh
      rcases parse_cases hf with ⟨statements, hs, hp⟩ | ⟨_, _, _, _, _, _, _, _, hp⟩
      · rw [bodyLines_prepare hl] at hs
        exact Or.inl ⟨statements, ⟨rest, rfl, hs⟩, hp⟩
      · exact Or.inr ⟨_, hp⟩
    · have hne : first ≠ [] := (mem_sourceLines (hl ▸ List.mem_cons_self)).2.1
      exact Or.inr ⟨_, parse_of_badHeader (by rwa [hf]) (by rwa [hf])⟩

section

variable (colour reporting : Bool) {source : Bytes} (output diagnostics : Bytes)

theorem run_eq_translateLines :
    Translator.run colour ⟨⟨source, none⟩, .accepting, reporting, output, diagnostics⟩ =
      Translator.translateLines colour (rawLines source)
        ⟨⟨[], none⟩, .accepting, reporting, output, diagnostics⟩ :=
  rfl

/-- A program is accepted, and its translation is written. -/
theorem run_of_isProgram {statements : List Statement}
    (h : IsProgram (sourceLines source) statements) :
    ∃ t r, Translator.run colour ⟨⟨source, none⟩, .accepting, reporting, output, diagnostics⟩ =
        .ok (t, r) ∧
      r.failure = none ∧ t.output = output ++ (translation statements).render := by
  obtain ⟨rest, hl, hs⟩ := h
  have hb := hs
  rw [← bodyLines_prepare hl] at hb
  rw [run_eq_translateLines]
  unfold Translator.translateLines
  rw [parse_of_spellAll (firstLine_prepare hl) hb]
  simp only [generate_spelled hs]
  refine ⟨_, _, rfl, ?_, rfl⟩
  simp [Translator.deliver, Sink.deliver, Sink.write]

/-- What is no program is refused, and nothing is written. -/
theorem run_of_not_isProgram (h : ¬ ∃ statements, IsProgram (sourceLines source) statements) :
    ∃ t r, Translator.run colour ⟨⟨source, none⟩, .accepting, reporting, output, diagnostics⟩ =
        .ok (t, r) ∧
      r.failure ≠ none ∧ t.output = output := by
  obtain ⟨rejection, hr⟩ : ∃ rejection, parse (prepare (rawLines source)) =
      .error (.refused rejection) := by
    rcases parse_prepare_cases source with ⟨statements, hs, -⟩ | hr
    · exact absurd ⟨statements, hs⟩ h
    · exact hr
  rw [run_eq_translateLines]
  unfold Translator.translateLines
  rw [hr]
  refine ⟨_, _, rfl, by simp, ?_⟩
  unfold Translator.reported
  split <;> rfl

end

/-- **Exactly the programs are translated.** On an input that can be read and an output that can be
written, a run ends without a failure if and only if the lines of the source are a program. Then it
has written the translation of that program, and otherwise nothing. -/
theorem run_accepts_iff_isProgram (colour reporting : Bool) (source output diagnostics : Bytes) :
    ∃ t r, Translator.run colour ⟨⟨source, none⟩, .accepting, reporting, output, diagnostics⟩ =
        .ok (t, r) ∧
      (r.failure = none ↔ ∃ statements, IsProgram (sourceLines source) statements) ∧
      (∀ statements, IsProgram (sourceLines source) statements →
        t.output = output ++ (translation statements).render) ∧
      (r.failure ≠ none → t.output = output) := by
  by_cases h : ∃ statements, IsProgram (sourceLines source) statements
  · obtain ⟨statements, hs⟩ := h
    obtain ⟨t, r, hr, hf, ho⟩ := run_of_isProgram colour reporting output diagnostics hs
    refine ⟨t, r, hr, ⟨fun _ => ⟨statements, hs⟩, fun _ => hf⟩, fun statements' hs' => ?_,
      fun hne => absurd hf hne⟩
    obtain ⟨t', r', hr', -, ho'⟩ := run_of_isProgram colour reporting output diagnostics hs'
    rw [hr] at hr'
    cases hr'
    exact ho'
  · obtain ⟨t, r, hr, hf, ho⟩ := run_of_not_isProgram colour reporting output diagnostics h
    exact ⟨t, r, hr, ⟨fun hn => absurd hn hf, fun hs => absurd hs h⟩,
      fun statements hs => absurd ⟨statements, hs⟩ h, fun _ => ho⟩

/-- The document of a program that writes `true`. -/
def writeDocument : Bytes :=
  [utf8 "<?xml version=\"1.0\" encoding=\"UTF-8\"?>",
    utf8 "<program language=\"IPPcode24\">",
    utf8 "  <instruction order=\"1\" opcode=\"WRITE\">",
    utf8 "    <arg1 type=\"bool\">true</arg1>",
    utf8 "  </instruction>",
    utf8 "</program>"].flatMap (· ++ utf8 "\n")

/-- An empty line, a comment and small letters make no difference to the document. -/
theorem run_accepts_write :
    IsProgram (sourceLines (utf8 ".IPPcode24\n\n write bool@true # done"))
        [⟨utf8 "WRITE", [⟨utf8 "bool@true", .bool⟩]⟩] ∧
      ∃ t r, Translator.run false ⟨⟨utf8 ".IPPcode24\n\n write bool@true # done", none⟩, .accepting,
          true, [], []⟩ = .ok (t, r) ∧
        r.failure = none ∧
        t.output = (translation [⟨utf8 "WRITE", [⟨utf8 "bool@true", .bool⟩]⟩]).render ∧
        t.output = writeDocument := by
  have hl : sourceLines (utf8 ".IPPcode24\n\n write bool@true # done") =
      [header, utf8 "write bool@true"] := by decide
  have hf : fields (utf8 "write bool@true") = [utf8 "write", utf8 "bool@true"] := by decide
  have hs : lookup? (utf8 "write") = some ⟨utf8 "WRITE", [.symb]⟩ := by decide
  have hfit : Operand.Fits .symb ⟨utf8 "bool@true", .bool⟩ :=
    ⟨(by decide : Category.symb.Admits .bool), .bool List.mem_cons_self⟩
  have hn : ∀ o ∈ [(⟨utf8 "bool@true", .bool⟩ : Operand)], lookup? o.text = none := by decide
  have hp : Spells [utf8 "write", utf8 "bool@true"]
      ⟨utf8 "WRITE", [⟨utf8 "bool@true", .bool⟩]⟩ := .intro hs (.cons hfit .nil) hn
  have hprogram : IsProgram (sourceLines (utf8 ".IPPcode24\n\n write bool@true # done"))
      [⟨utf8 "WRITE", [⟨utf8 "bool@true", .bool⟩]⟩] := by
    refine ⟨_, hl, .cons ?_ .nil⟩
    rwa [hf]
  obtain ⟨t, r, hr, hiff, hout, -⟩ :=
    run_accepts_iff_isProgram false true (utf8 ".IPPcode24\n\n write bool@true # done") [] []
  have hbytes : ((translation [⟨utf8 "WRITE", [⟨utf8 "bool@true", .bool⟩]⟩]).render ==
      writeDocument) = true := by decide
  exact ⟨hprogram, t, r, hr, hiff.2 ⟨_, hprogram⟩, hout _ hprogram,
    (hout _ hprogram).trans (eq_of_beq hbytes)⟩

end AsmXml
