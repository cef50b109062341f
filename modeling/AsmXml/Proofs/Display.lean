import AsmXml.Instruction
import AsmXml.Proofs.Category
import AsmXml.Proofs.InstructionSet
import AsmXml.Proofs.Text.Quotation

/-! # Instructions as messages show them

An instruction is shown as its order, its opcode and its operands, each part up to a mark that it
cannot hold: a number has no colon, an opcode no comma, the name of a category no blank, and a quoted
text says itself where it ends. So each part can be cut off in its turn (`SelfDelimiting`), and what is
shown of an instruction determines it (`display_eq_iff`), however much the text of an operand looks
like a part of the form.
-/

namespace AsmXml

open Text

/-! ## Operands -/

theorem Operand.display_append (o : Operand) (s : Bytes) :
    o.display ++ s = utf8 "\x7b" ++
      (o.category.name ++ [blankByte] ++ (quote o.text ++ (utf8 "\x7d" ++ s))) := by
  unfold display
  simp only [List.append_assoc]
  rfl

theorem Operand.selfDelimiting_display : SelfDelimiting (fun _ => True) Operand.display := by
  intro o o' _ _ s t he
  rw [display_append, display_append] at he
  obtain ⟨hname, hquoted⟩ := selfDelimiting_until blankByte o.category.blankByte_not_mem_name
    o'.category.blankByte_not_mem_name (List.append_cancel_left he)
  obtain ⟨htext, hend⟩ := selfDelimiting_quote trivial trivial hquoted
  have hcategory := Category.name_injective hname
  refine ⟨?_, List.append_cancel_left hend⟩
  cases o
  cases o'
  rw [Operand.mk.injEq]
  exact ⟨htext, hcategory⟩

theorem intercalate_cons_eq (sep x : Bytes) (xs : List Bytes) :
    sep.intercalate (x :: xs) = x ++ xs.flatMap (sep ++ ·) := by
  induction xs generalizing x with
  | nil => simp
  | cons y ys ih =>
    rw [List.intercalate_cons_cons, ih y, List.flatMap_cons, List.append_assoc, List.append_assoc]

/-- Operands are shown one after the other up to the bracket, which begins none. -/
theorem selfDelimiting_operands :
    SelfDelimiting (fun _ => True) fun operands : List Operand =>
      (utf8 ", ").intercalate (operands.map Operand.display) ++ utf8 ")" := by
  have hpiece : SelfDelimiting (fun _ => True) fun o : Operand => utf8 ", " ++ o.display := by
    intro o o' _ _ s t he
    simp only [List.append_assoc] at he
    exact Operand.selfDelimiting_display trivial trivial (List.append_cancel_left he)
  have htail : SelfDelimiting (fun operands : List Operand => ∀ o ∈ operands, True) fun operands =>
      operands.flatMap (fun o => utf8 ", " ++ o.display) ++ utf8 ")" := by
    refine hpiece.flatMap fun o _ s t he => ?_
    cases (List.cons.inj he).1
  have hopen (o : Operand) (s t : Bytes) : o.display ++ s ≠ utf8 ")" ++ t := by
    intro he
    cases (List.cons.inj he).1
  intro xs ys _ _ s t he
  cases xs with
  | nil =>
    cases ys with
    | nil => exact ⟨rfl, List.append_cancel_left he⟩
    | cons y ys =>
      simp only [List.map_cons, intercalate_cons_eq, List.append_assoc] at he
      exact absurd he.symm (hopen y _ _)
  | cons x xs =>
    cases ys with
    | nil =>
      simp only [List.map_cons, intercalate_cons_eq, List.append_assoc] at he
      exact absurd he (hopen x _ _)
    | cons y ys =>
      simp only [List.map_cons, intercalate_cons_eq, List.flatMap_map, List.append_assoc] at he
      obtain ⟨rfl, hrest⟩ := Operand.selfDelimiting_display trivial trivial he
      rw [← List.append_assoc, ← List.append_assoc] at hrest
      obtain ⟨rfl, rfl⟩ := htail (fun _ _ => trivial) (fun _ _ => trivial) hrest
      exact ⟨rfl, rfl⟩

/-! ## Instructions -/

def colonByte : UInt8 := 0x3a

def commaByte : UInt8 := 0x2c

theorem Instruction.display_append (i : Instruction) (s : Bytes) :
    i.display ++ s = decimal i.order ++ [colonByte] ++ (utf8 " (" ++
      (i.opcode ++ [commaByte] ++ (utf8 " " ++
        ((utf8 ", ").intercalate (i.operands.map Operand.display) ++ utf8 ")" ++ s)))) := by
  unfold display
  simp only [List.append_assoc]
  rfl

theorem colonByte_not_mem_decimal (n : Int) : colonByte ∉ decimal n := by
  intro h
  exact absurd (mem_decimal h) (by decide)

theorem commaByte_not_mem_opcode {opcode : Bytes} (h : opcode ∈ opcodes) :
    commaByte ∉ opcode := by
  rw [opcodes, List.mem_mergeSort] at h
  obtain ⟨s, hs, rfl⟩ := List.mem_map.1 h
  intro hm
  have hb := opcode_bytes s hs commaByte hm
  have hc : commaByte.toNat = 0x2c := rfl
  omega

theorem Instruction.selfDelimiting_display :
    SelfDelimiting (fun i : Instruction => i.opcode ∈ opcodes) Instruction.display := by
  intro i j hi hj s t he
  rw [display_append, display_append] at he
  obtain ⟨horder, hrest⟩ := selfDelimiting_until colonByte (colonByte_not_mem_decimal i.order)
    (colonByte_not_mem_decimal j.order) he
  obtain ⟨hopcode, hlist⟩ := selfDelimiting_until commaByte (commaByte_not_mem_opcode hi)
    (commaByte_not_mem_opcode hj) (List.append_cancel_left hrest)
  obtain ⟨hoperands, hend⟩ := selfDelimiting_operands trivial trivial
    (List.append_cancel_left hlist)
  refine ⟨?_, hend⟩
  cases i
  cases j
  rw [Instruction.mk.injEq]
  exact ⟨decimal_injective horder, hopcode, hoperands⟩

/-- **What is shown of an instruction determines it.** Two instructions with opcodes of the table are
shown alike only if they have the same order, the same opcode and the same operands, whatever bytes
the texts of the operands hold and whatever their categories are. -/
theorem display_eq_iff {i j : Instruction} (hi : i.opcode ∈ opcodes) (hj : j.opcode ∈ opcodes) :
    i.display = j.display ↔ i = j := by
  constructor
  · exact Instruction.selfDelimiting_display.eq_of_eq hi hj
  · rintro rfl
    rfl

/-- An operand whose text reads like the end of one operand and the beginning of another. -/
def imitation : Instruction :=
  ⟨1, utf8 "JUMP", [⟨utf8 "a\"\x7d, \x7blabel \"b", .label⟩]⟩

/-- The operands that it imitates. -/
def imitated : Instruction :=
  ⟨1, utf8 "JUMP", [⟨utf8 "a", .label⟩, ⟨utf8 "b", .label⟩]⟩

theorem imitation_display_ne :
    imitation.opcode ∈ opcodes ∧ imitated.opcode ∈ opcodes ∧
      imitation.display ≠ imitated.display := by
  have hjump : utf8 "JUMP" ∈ opcodes := by
    rw [opcodes, List.mem_mergeSort]
    exact List.mem_map.2 ⟨⟨utf8 "JUMP", [.label]⟩, by simp [instructionSet], rfl⟩
  refine ⟨hjump, hjump, mt (display_eq_iff hjump hjump).1 fun h => ?_⟩
  cases congrArg (·.operands.length) h

end AsmXml
