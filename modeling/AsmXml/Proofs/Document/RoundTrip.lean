import AsmXml.Proofs.Category
import AsmXml.Proofs.Document.Generation
import AsmXml.Proofs.Document.ReadBack

/-! # A document determines its program

Reading the document of a program gives back its instructions, up to what a document cannot hold
(`document_determines_program`). For texts that a document can hold nothing is lost but the case of
opcodes, so that programs with the same document agree in all that is shown of them.
-/

namespace AsmXml

open Text

/-- What is read of an instruction of a program. -/
def Instruction.element (i : Instruction) : InstructionElement :=
  ⟨i.order, sanitize (upper i.opcode), i.operands.mapIdx fun k o =>
    ⟨utf8 "arg" ++ decimal (k + 1), o.category.name, sanitize o.argument.value⟩⟩

/-- The order, the opcode and the operands of an instruction, each operand as its category and its
value. -/
def Instruction.shown (i : Instruction) : Int × Bytes × List (Category × Bytes) :=
  (i.order, i.opcode, i.operands.map fun o => (o.category, o.argument.value))

/-- How many tags the document of a program has: three for the declaration and the root element, two
for each instruction, and two for each operand. -/
def tagCount (program : List Instruction) : Nat :=
  3 + 2 * program.length + 2 * (program.flatMap Instruction.operands).length

/-- A document can hold all texts of the instruction as they are. -/
structure Instruction.Holdable (i : Instruction) : Prop where
  opcode : XmlText i.opcode
  isUpper : upper i.opcode = i.opcode
  operands : ∀ o ∈ i.operands, XmlText o.text

/-! ## Concrete categories -/

def concreteCategories : List Category :=
  [.var, .int, .bool, .string, .nil, .label, .type]

theorem mem_concreteCategories {c : Category} (h : c.isConcrete = .ok true) :
    c ∈ concreteCategories := by
  cases c with
  | invalid | symb | unknown code => cases h
  | _ => decide

theorem sanitize_name : ∀ c ∈ concreteCategories, sanitize c.name = c.name := by
  decide

/-! ## Entries and elements -/

theorem element_entry {i : Instruction} (h : ∀ o ∈ i.operands, o.category.isConcrete = .ok true) :
    i.entry.element = i.element := by
  unfold Entry.element Instruction.element Instruction.entry elementsFrom
  simp only [InstructionElement.mk.injEq, true_and]
  apply List.ext_getElem (by simp)
  intro k hk hk'
  have ho := h _ (List.getElem_mem (by simpa using hk' : k < i.operands.length))
  have hn := sanitize_name _ (mem_concreteCategories ho)
  simp only [List.getElem_mapIdx, List.getElem_map, Argument.element, Operand.argument,
    argumentName, hn, Int.natCast_add, Int.cast_ofNat_Int, Int.add_comm 1]

/-- Arguments that a document can hold are read alike only if they are the same. -/
theorem elementsFrom_injective {as bs : List Argument} {position : Nat}
    (ha : ∀ a ∈ as, sanitize a.type = a.type ∧ sanitize a.value = a.value)
    (hb : ∀ b ∈ bs, sanitize b.type = b.type ∧ sanitize b.value = b.value)
    (h : elementsFrom position as = elementsFrom position bs) : as = bs := by
  induction as generalizing bs position with
  | nil =>
    cases bs with
    | nil => rfl
    | cons b bs =>
      rw [elementsFrom_cons] at h
      cases h
  | cons a as ih =>
    cases bs with
    | nil =>
      rw [elementsFrom_cons] at h
      cases h
    | cons b bs =>
      obtain ⟨⟨hat, hav⟩, has⟩ := List.forall_mem_cons.1 ha
      obtain ⟨⟨hbt, hbv⟩, hbs⟩ := List.forall_mem_cons.1 hb
      rw [elementsFrom_cons, elementsFrom_cons] at h
      obtain ⟨he, ht⟩ := List.cons.inj h
      simp only [Argument.element, hat, hav, hbt, hbv, ArgumentElement.mk.injEq, true_and] at he
      have hab : a = b := by
        cases a
        cases b
        simpa using he
      rw [hab, ih has hbs ht]

/-! ## Texts that a document can hold -/

theorem XmlText.value {o : Operand} (h : XmlText o.text) : XmlText o.argument.value := by
  obtain ⟨s, hs⟩ := literalMark_eq_utf8 o.category
  unfold Operand.argument
  rw [hs]
  rcases unmark_cases (utf8 s) o.text with ht | ht
  · rw [ht] at h
    exact h.right
  · rwa [ht]

/-! ## Programs with one document -/

theorem map_eq_of_map_eq {α β γ : Type} {f : α → β} {g : α → γ} {xs ys : List α}
    (h : ∀ x ∈ xs, ∀ y ∈ ys, f x = f y → g x = g y) (he : xs.map f = ys.map f) :
    xs.map g = ys.map g := by
  induction xs generalizing ys with
  | nil =>
    cases ys with
    | nil => rfl
    | cons y ys => cases he
  | cons x xs ih =>
    cases ys with
    | nil => cases he
    | cons y ys =>
      obtain ⟨hx, ht⟩ := List.cons.inj he
      rw [List.map_cons, List.map_cons, h x List.mem_cons_self y List.mem_cons_self hx,
        ih (fun x hx y hy => h x (List.mem_cons_of_mem _ hx) y (List.mem_cons_of_mem _ hy)) ht]

/-- Instructions that are read alike are shown alike, if a document can hold them. -/
theorem shown_eq_of_element_eq {i j : Instruction} (hi : i.Holdable) (hj : j.Holdable)
    (hci : ∀ o ∈ i.operands, o.category.isConcrete = .ok true)
    (hcj : ∀ o ∈ j.operands, o.category.isConcrete = .ok true)
    (h : i.element = j.element) : i.shown = j.shown := by
  rw [← element_entry hci, ← element_entry hcj] at h
  simp only [Entry.element, Instruction.entry, InstructionElement.mk.injEq, hi.isUpper, hj.isUpper,
    sanitize_of_xmlText hi.opcode, sanitize_of_xmlText hj.opcode] at h
  obtain ⟨horder, hopcode, helements⟩ := h
  have hheld {o : Operand} (hc : o.category.isConcrete = .ok true) (ht : XmlText o.text) :
      sanitize o.argument.type = o.argument.type ∧
        sanitize o.argument.value = o.argument.value :=
    ⟨sanitize_name _ (mem_concreteCategories hc), sanitize_of_xmlText ht.value⟩
  have harguments : i.operands.map Operand.argument = j.operands.map Operand.argument := by
    refine elementsFrom_injective ?_ ?_ helements
    · exact List.forall_mem_map.2 fun o ho => hheld (hci o ho) (hi.operands o ho)
    · exact List.forall_mem_map.2 fun o ho => hheld (hcj o ho) (hj.operands o ho)
  have hoperands : i.operands.map (fun o => (o.category, o.argument.value)) =
      j.operands.map (fun o => (o.category, o.argument.value)) := by
    refine map_eq_of_map_eq (fun o _ o' _ he => ?_) harguments
    have ht : o.category.name = o'.category.name := congrArg Argument.type he
    rw [Category.name_injective ht, he]
  unfold Instruction.shown
  rw [horder, hopcode, hoperands]

theorem tagCount_eq (program : List Instruction) :
    3 + 2 * (program.map Instruction.entry).length +
      2 * ((program.map Instruction.entry).flatMap Entry.arguments).length = tagCount program := by
  have ha : (program.map Instruction.entry).flatMap Entry.arguments =
      (program.flatMap Instruction.operands).map Operand.argument := by
    rw [List.flatMap_map, List.map_flatMap]
    rfl
  unfold tagCount
  rw [ha, List.length_map, List.length_map]

/-- The document of a program is read back as the elements of its instructions, and has no brackets
but those of their tags. -/
theorem generate_read {program : List Instruction} (h : Renderable program) :
    ∃ document, generate .accepting program = .ok ⟨document, none⟩ ∧
      readDocument? document = some (program.map Instruction.element) ∧
      document.count lessThan = tagCount program ∧
      document.count greaterThan = tagCount program := by
  refine ⟨_, generate_accepting h, ?_, ?_, ?_⟩
  · rw [readDocument?_render, List.map_map]
    exact congrArg some (List.map_congr_left fun i hi => element_entry (h i hi))
  · rw [count_render _ (Or.inl rfl), tagCount_eq]
  · rw [count_render _ (Or.inr rfl), tagCount_eq]

/-- **A document determines its program.** The document that an accepting sink receives of a program
with concrete operands reads back as the order, the opcode and the operands of every instruction, as
far as a document can hold them, which is all of a text of legal characters; and it has as many
brackets as these have tags. Two programs of such texts and upper-case opcodes have one document
only if they are shown alike. No text is written with a bracket or a quote. -/
theorem document_determines_program :
    (∀ program, Renderable program → ∃ document,
      generate .accepting program = .ok ⟨document, none⟩ ∧
        readDocument? document = some (program.map Instruction.element) ∧
        (∀ i ∈ program, ∀ o ∈ i.operands, o.value = .ok o.argument.value) ∧
        document.count lessThan = tagCount program ∧
        document.count greaterThan = tagCount program) ∧
    (∀ text, XmlText text → sanitize text = text) ∧
    (∀ p q, Renderable p → Renderable q → (∀ i ∈ p, i.Holdable) → (∀ i ∈ q, i.Holdable) →
      ∀ document, generate .accepting p = .ok ⟨document, none⟩ →
        generate .accepting q = .ok ⟨document, none⟩ →
        p.map Instruction.shown = q.map Instruction.shown) ∧
    ∀ text, ∀ b ∈ utf8 "<>\"", b ∉ escape text := by
  refine ⟨fun program h => ?_, fun text => sanitize_of_xmlText, ?_,
    fun text b hb => not_mem_escape hb text⟩
  · obtain ⟨document, hg, hr, hc⟩ := generate_read h
    exact ⟨document, hg, hr, fun i hi o ho => value_of_concrete (h i hi o ho), hc⟩
  · intro p q hp hq hhp hhq document hgp hgq
    obtain ⟨dp, hdp, hrp, -⟩ := generate_read hp
    obtain ⟨dq, hdq, hrq, -⟩ := generate_read hq
    rw [hgp] at hdp
    rw [hgq] at hdq
    cases hdp
    cases hdq
    have he : p.map Instruction.element = q.map Instruction.element :=
      Option.some.inj (hrp.symm.trans hrq)
    exact map_eq_of_map_eq (fun i hi j hj =>
      shown_eq_of_element_eq (hhp i hi) (hhq j hj) (hp i hi) (hq j hj)) he

/-- A program of one instruction that writes a string. -/
def writing (text : Bytes) : List Instruction :=
  [⟨-3, utf8 "WRITE", [⟨text, .string⟩]⟩]

theorem document_determines_writing :
    (Renderable (writing (utf8 "string@<&>")) ∧ Renderable (writing (utf8 "<&>"))) ∧
      (∃ document, generate .accepting (writing (utf8 "string@<&>")) = .ok ⟨document, none⟩ ∧
        readDocument? document =
          some [⟨-3, utf8 "WRITE", [⟨utf8 "arg1", utf8 "string", utf8 "<&>"⟩]⟩]) ∧
      (writing (utf8 "string@<&>")).map Instruction.shown =
        (writing (utf8 "<&>")).map Instruction.shown := by
  have hr (text : Bytes) : Renderable (writing text) := by
    simp [Renderable, writing, Category.isConcrete]
  have hh (s : String) (hs : s.toList.all isXmlChar = true) :
      ∀ i ∈ writing (utf8 s), i.Holdable := by
    have hu : upper (utf8 "WRITE") = utf8 "WRITE" := by decide
    simp only [writing, List.mem_singleton, forall_eq]
    refine ⟨madeOf_utf8 (by decide), hu, ?_⟩
    simp only [List.mem_singleton, forall_eq]
    exact madeOf_utf8 hs
  obtain ⟨hread, -, hsame, -⟩ := document_determines_program
  obtain ⟨document, hg, he, -⟩ := hread _ (hr (utf8 "string@<&>"))
  have hg' : generate .accepting (writing (utf8 "<&>")) = .ok ⟨document, none⟩ := by
    rw [← hg, generate_accepting (hr _), generate_accepting (hr _)]
    have hw : (writing (utf8 "<&>")).map Instruction.entry =
        (writing (utf8 "string@<&>")).map Instruction.entry := by decide
    rw [hw]
  refine ⟨⟨hr _, hr _⟩, ⟨document, hg, ?_⟩, ?_⟩
  · rw [he]
    decide
  · exact hsame _ _ (hr _) (hr _) (hh _ (by decide)) (hh _ (by decide)) document
      hg hg'

end AsmXml
