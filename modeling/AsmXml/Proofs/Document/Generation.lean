import AsmXml.Document.Render
import AsmXml.Proofs.Category

/-! # Programs as documents

The operands of a document are those of a concrete category. A program of such operands has a
document, made instruction by instruction (`ofProgram_eq`), and an accepting sink stores all of it
(`generate_accepting`).
-/

namespace AsmXml

open Text

/-- An operand as an argument: the name of its category, and its text without the mark of its
type. -/
def Operand.argument (o : Operand) : Argument :=
  ⟨o.category.name, unmark o.category.literalMark o.text⟩

/-- An instruction as an entry of a document. -/
def Instruction.entry (i : Instruction) : Entry :=
  ⟨i.order, upper i.opcode, i.operands.map Operand.argument⟩

/-- Every operand of the instructions has a concrete category. -/
def Renderable (program : List Instruction) : Prop :=
  ∀ i ∈ program, ∀ o ∈ i.operands, o.category.isConcrete = .ok true

theorem value_of_concrete {o : Operand} (h : o.category.isConcrete = .ok true) :
    o.value = .ok o.argument.value := by
  obtain ⟨text, category⟩ := o
  cases category with
  | unknown k => cases h
  | _ => rfl

theorem argumentsFrom_eq (order : Int) {operands : List Operand}
    (h : ∀ o ∈ operands, o.category.isConcrete = .ok true) (position : Nat) :
    argumentsFrom order position operands = .ok (operands.map Operand.argument) := by
  induction operands generalizing position with
  | nil => rfl
  | cons o operands ih =>
    have ho := h o List.mem_cons_self
    rw [argumentsFrom, ho, value_of_concrete ho,
      ih (fun o' hm => h o' (List.mem_cons_of_mem _ hm)) (position + 1)]
    rfl

theorem ofInstruction_eq {i : Instruction}
    (h : ∀ o ∈ i.operands, o.category.isConcrete = .ok true) :
    Entry.ofInstruction i = .ok i.entry := by
  unfold Entry.ofInstruction
  rw [argumentsFrom_eq i.order h]
  rfl

theorem ofProgram_eq {program : List Instruction} (h : Renderable program) :
    Document.ofProgram program = .ok ⟨program.map Instruction.entry⟩ := by
  have hm : program.mapM Entry.ofInstruction = .ok (program.map Instruction.entry) := by
    induction program with
    | nil => rfl
    | cons i program ih =>
      rw [List.mapM_cons, ofInstruction_eq (h i List.mem_cons_self),
        ih fun i' hm => h i' (List.mem_cons_of_mem _ hm)]
      rfl
  unfold Document.ofProgram
  rw [hm]
  rfl

section

variable {σ : Type} (write : Writer σ) (destination : σ) {program : List Instruction}

/-- The whole document is written at once. -/
theorem generateTo_of_ok {document : Document} (h : Document.ofProgram program = .ok document) :
    generateTo write program destination =
      ((write document.render destination).1, .ok (write document.render destination).2) := by
  unfold generateTo
  rw [h]

/-- Nothing is written if an operand is unrenderable. -/
theorem generateTo_of_refused {u : Unrenderable}
    (h : Document.ofProgram program = .error (.refused u)) :
    generateTo write program destination = (destination, .ok (some u.toFailure)) := by
  unfold generateTo
  rw [h]

/-- Nothing is written if building the document runs into a defect. -/
theorem generateTo_of_defect {d : Defect} (h : Document.ofProgram program = .error (.defect d)) :
    generateTo write program destination = (destination, .error d) := by
  unfold generateTo
  rw [h]

end

theorem generate_of_renderable {program : List Instruction} (h : Renderable program)
    (sink : Sink) :
    generate sink program =
      .ok (sink.deliver (⟨program.map Instruction.entry⟩ : Document).render) := by
  unfold generate
  rw [generateTo_of_ok _ _ (ofProgram_eq h)]
  rfl

theorem generate_accepting {program : List Instruction} (h : Renderable program) :
    generate .accepting program =
      .ok ⟨(⟨program.map Instruction.entry⟩ : Document).render, none⟩ := by
  rw [generate_of_renderable h]
  simp only [Sink.deliver, Sink.write, if_true]

end AsmXml
