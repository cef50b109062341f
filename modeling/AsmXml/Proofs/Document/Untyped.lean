import AsmXml.Proofs.Document.Generation
import AsmXml.Proofs.Grammar

/-! # Operands without a type

A program has a document unless one of its operands has no type. Building the document stops at the
first such operand, counted through the instructions and from left to right within each
(`ofProgram_of_firstUntyped`), and then no destination is touched; otherwise the whole document is
handed over in one write (`generation_outcome`).
-/

namespace AsmXml

open Text

/-- The category of no operand in a document. -/
inductive Category.Untyped : Category → Prop
  | invalid : Untyped .invalid
  | symb : Untyped .symb
  | unknown (code : Int) : Untyped (.unknown code)

/-- The operand is the first one without a type: it stands at `position` in the instruction `i`, and
every operand before it in the program has a type. -/
inductive FirstUntyped : List Instruction → Instruction → Nat → Operand → Prop
  | intro {before after : List Instruction} {i : Instruction} {front back : List Operand}
      {o : Operand} (hb : ∀ j ∈ before, ∀ p ∈ j.operands, ¬ p.category.Untyped)
      (hi : i.operands = front ++ o :: back) (hf : ∀ p ∈ front, ¬ p.category.Untyped)
      (ho : o.category.Untyped) :
      FirstUntyped (before ++ i :: after) i (front.length + 1) o

/-- Generation hands the text over in one write, whatever the destination is, and ends as that write
ends. -/
def WritesOnce (program : List Instruction) (text : Bytes) : Prop :=
  ∀ (σ : Type) (write : Writer σ) (destination : σ),
    generateTo write program destination =
      ((write text destination).1, .ok (write text destination).2)

/-- Generation comes to this end without a write, whatever the destination is. -/
def WritesNothing (program : List Instruction) (outcome : Except Defect (Option Failure)) : Prop :=
  ∀ (σ : Type) (write : Writer σ) (destination : σ),
    generateTo write program destination = (destination, outcome)

theorem Category.isConcrete_iff {c : Category} : c.isConcrete = .ok true ↔ ¬ c.Untyped := by
  constructor
  · rintro h (_ | _ | _) <;> cases h
  · intro h
    cases c with
    | invalid => exact absurd .invalid h
    | symb => exact absurd .symb h
    | unknown code => exact absurd (.unknown code) h
    | _ => rfl

theorem renderable_iff {program : List Instruction} :
    Renderable program ↔ ∀ i ∈ program, ∀ o ∈ i.operands, ¬ o.category.Untyped := by
  unfold Renderable
  simp only [Category.isConcrete_iff]

theorem typed_or_firstUntyped (program : List Instruction) :
    Renderable program ∨ ∃ i position o, FirstUntyped program i position o := by
  by_cases h : ∃ i ∈ program, ∃ o ∈ i.operands, o.category.Untyped
  · obtain ⟨before, i, after, rfl, hi, hb⟩ := exists_first h
    obtain ⟨front, o, back, he, ho, hf⟩ := exists_first hi
    exact Or.inr ⟨i, _, o, .intro (fun j hj p hp hu => hb j hj ⟨p, hp, hu⟩) he hf ho⟩
  · exact Or.inl (renderable_iff.2 fun i hi o ho hu => h ⟨i, hi, o, ho, hu⟩)

/-! ## Where building stops -/

/-- Why building a document stops at an operand without a type. -/
def Operand.halt (order : Int) (position : Nat) (o : Operand) : Halt Unrenderable :=
  match o.category with
  | .unknown code => .defect (.unhandledCategory code)
  | _ => .refused ⟨order, position, o⟩

theorem argumentsFrom_of_untyped {o : Operand} (h : o.category.Untyped) (order : Int)
    (position : Nat) (back : List Operand) :
    argumentsFrom order position (o :: back) = .error (o.halt order position) := by
  obtain ⟨text, category⟩ := o
  cases h <;> rfl

/-- The operands in front of the first one without a type take up positions and nothing else. -/
theorem argumentsFrom_append {front : List Operand} (hf : ∀ p ∈ front, ¬ p.category.Untyped)
    {o : Operand} (ho : o.category.Untyped) (order : Int) (position : Nat) (back : List Operand) :
    argumentsFrom order position (front ++ o :: back) =
      .error (o.halt order (position + front.length)) := by
  induction front generalizing position with
  | nil => exact argumentsFrom_of_untyped ho order position back
  | cons p front ih =>
    obtain ⟨hp, hfront⟩ := List.forall_mem_cons.1 hf
    have hc := Category.isConcrete_iff.2 hp
    rw [List.cons_append, argumentsFrom, hc, value_of_concrete hc, ih hfront, List.length_cons,
      Nat.add_assoc, Nat.add_comm 1]
    rfl

theorem ofInstruction_of_untyped {i : Instruction} {front back : List Operand} {o : Operand}
    (hi : i.operands = front ++ o :: back) (hf : ∀ p ∈ front, ¬ p.category.Untyped)
    (ho : o.category.Untyped) :
    Entry.ofInstruction i = .error (o.halt i.order (front.length + 1)) := by
  unfold Entry.ofInstruction
  rw [hi, argumentsFrom_append hf ho, Nat.add_comm]
  rfl

/-- Building the document of a program stops at the first operand without a type, whatever comes
before and behind it. -/
theorem ofProgram_of_firstUntyped {program : List Instruction} {i : Instruction} {position : Nat}
    {o : Operand} (h : FirstUntyped program i position o) :
    Document.ofProgram program = .error (o.halt i.order position) := by
  cases h with
  | @intro before after _ front back _ hb hi hf ho =>
    have hm : (before ++ i :: after).mapM Entry.ofInstruction =
        .error (o.halt i.order (front.length + 1)) := by
      induction before with
      | nil =>
        rw [List.nil_append, List.mapM_cons, ofInstruction_of_untyped hi hf ho]
        rfl
      | cons j before ih =>
        obtain ⟨hj, hbefore⟩ := List.forall_mem_cons.1 hb
        have hc := ofInstruction_eq fun p hp => Category.isConcrete_iff.2 (hj p hp)
        rw [List.cons_append, List.mapM_cons, hc, ih hbefore]
        rfl
    unfold Document.ofProgram
    rw [hm]
    rfl

/-! ## What reaches a destination -/

theorem writesOnce_of_renderable {program : List Instruction} (h : Renderable program) :
    WritesOnce program (⟨program.map Instruction.entry⟩ : Document).render :=
  fun _ write destination => generateTo_of_ok write destination (ofProgram_eq h)

/-- Exactly the programs whose operands have a type arrive as a document. -/
theorem generate_eq_ok_iff {program : List Instruction} {document : Bytes} :
    generate .accepting program = .ok ⟨document, none⟩ ↔
      Renderable program ∧ document = (⟨program.map Instruction.entry⟩ : Document).render := by
  constructor
  · intro hg
    rcases typed_or_firstUntyped program with hr | ⟨i, position, o, h⟩
    · rw [generate_accepting hr] at hg
      cases hg
      exact ⟨hr, rfl⟩
    · have hp := ofProgram_of_firstUntyped h
      unfold generate at hg
      cases hh : o.halt i.order position with
      | refused u =>
        rw [hh] at hp
        rw [generateTo_of_refused _ _ hp] at hg
        cases hg
      | defect d =>
        rw [hh] at hp
        rw [generateTo_of_defect _ _ hp] at hg
        cases hg
  · rintro ⟨hr, rfl⟩
    exact generate_accepting hr

section

variable {program : List Instruction} {i : Instruction} {position : Nat} {o : Operand}

theorem writesNothing_of_signatureCategory (h : FirstUntyped program i position o)
    (hc : o.category = .invalid ∨ o.category = .symb) :
    WritesNothing program (.ok (some
      (.unrenderable ⟨i.order, position, o.text⟩ (.noTypeName o.category)))) := by
  have hh : o.halt i.order position = .refused ⟨i.order, position, o⟩ := by
    unfold Operand.halt
    rcases hc with hc | hc <;> rw [hc]
  have hp := ofProgram_of_firstUntyped h
  rw [hh] at hp
  exact fun _ write destination => generateTo_of_refused write destination hp

theorem writesNothing_of_unknown (h : FirstUntyped program i position o) {code : Int}
    (hc : o.category = .unknown code) :
    WritesNothing program (.error (.unhandledCategory code)) := by
  have hh : o.halt i.order position = .defect (.unhandledCategory code) := by
    unfold Operand.halt
    rw [hc]
  have hp := ofProgram_of_firstUntyped h
  rw [hh] at hp
  exact fun _ write destination => generateTo_of_defect write destination hp

end

/-- **Generation is one write of the whole document, or none.** If every operand has a type, the
document of the whole program is handed over at once. Otherwise the first operand without a type
decides: a category of signatures is refused with the place and the text of the operand, an unknown
category is a defect, and no destination is touched. -/
theorem generation_outcome (program : List Instruction) :
    ((∀ i ∈ program, ∀ o ∈ i.operands, ¬ o.category.Untyped) ∨
      ∃ i position o, FirstUntyped program i position o) ∧
    ((∀ i ∈ program, ∀ o ∈ i.operands, ¬ o.category.Untyped) →
      WritesOnce program (⟨program.map Instruction.entry⟩ : Document).render) ∧
    ∀ i position o, FirstUntyped program i position o →
      (o.category = .invalid ∨ o.category = .symb → WritesNothing program (.ok (some
        (.unrenderable ⟨i.order, position, o.text⟩ (.noTypeName o.category))))) ∧
      ∀ code, o.category = .unknown code →
        WritesNothing program (.error (.unhandledCategory code)) ∧
        utf8 "lexer: unhandled category" <+: (Defect.unhandledCategory code).message := by
  rw [← renderable_iff]
  refine ⟨typed_or_firstUntyped program, writesOnce_of_renderable, fun i position o h =>
    ⟨writesNothing_of_signatureCategory h, fun code hc =>
      ⟨writesNothing_of_unknown h hc, ?_⟩⟩⟩
  exact ⟨utf8 " " ++ unknownName code, by rw [← List.append_assoc]; rfl⟩

/-- A destination that keeps every text it is handed. -/
def keeping : Writer (List Bytes) :=
  fun text texts => (texts ++ [text], none)

/-- An instruction with a second operand of our choice. -/
def moving (o : Operand) : Instruction :=
  ⟨-2, utf8 "move", [⟨utf8 "GF@x", .var⟩, o]⟩

/-- The document of this instruction with the number one. -/
def movingDocument : Bytes :=
  [utf8 "<?xml version=\"1.0\" encoding=\"UTF-8\"?>",
    utf8 "<program language=\"IPPcode24\">",
    utf8 "  <instruction order=\"-2\" opcode=\"MOVE\">",
    utf8 "    <arg1 type=\"var\">GF@x</arg1>",
    utf8 "    <arg2 type=\"int\">1</arg2>",
    utf8 "  </instruction>",
    utf8 "</program>"].flatMap (· ++ utf8 "\n")

theorem firstUntyped_moving {o : Operand} (ho : o.category.Untyped) :
    FirstUntyped [⟨7, utf8 "break", []⟩, moving o, ⟨7, utf8 "break", []⟩] (moving o) 2 o := by
  have hf : ∀ p ∈ [(⟨utf8 "GF@x", .var⟩ : Operand)], ¬ p.category.Untyped := by
    rw [List.forall_mem_singleton]
    exact nofun
  exact @FirstUntyped.intro [⟨7, utf8 "break", []⟩] [⟨7, utf8 "break", []⟩] (moving o)
    [⟨utf8 "GF@x", .var⟩] [] o (by simp) rfl hf ho

/-- With a literal the document is handed over whole; with a category that no literal has, nothing
is, not even what was fine in front of it. -/
theorem generation_outcome_moving :
    generateTo keeping [moving ⟨utf8 "int@1", .int⟩] [] = ([movingDocument], .ok none) ∧
      generateTo keeping
          [⟨7, utf8 "break", []⟩, moving ⟨utf8 "x", .symb⟩, ⟨7, utf8 "break", []⟩] [] =
        ([], .ok (some (.unrenderable ⟨-2, 2, utf8 "x"⟩ (.noTypeName .symb)))) ∧
      generateTo keeping
          [⟨7, utf8 "break", []⟩, moving ⟨utf8 "x", .unknown 42⟩, ⟨7, utf8 "break", []⟩] [] =
        ([], .error (.unhandledCategory 42)) := by
  obtain ⟨-, hwrite, -⟩ := generation_outcome [moving ⟨utf8 "int@1", .int⟩]
  have htyped : ∀ i ∈ [moving ⟨utf8 "int@1", .int⟩], ∀ o ∈ i.operands, ¬ o.category.Untyped := by
    simp only [List.mem_singleton, forall_eq, moving, List.forall_mem_cons]
    exact ⟨nofun, nofun⟩
  have hbytes : ((⟨[moving ⟨utf8 "int@1", .int⟩].map Instruction.entry⟩ : Document).render ==
      movingDocument) = true := by decide
  refine ⟨?_, ?_, ?_⟩
  · rw [hwrite htyped _ keeping [], eq_of_beq hbytes]
    rfl
  · have h := firstUntyped_moving (o := ⟨utf8 "x", .symb⟩) .symb
    exact ((generation_outcome _).2.2 _ _ _ h).1 (Or.inr rfl) _ keeping []
  · have h := firstUntyped_moving (o := ⟨utf8 "x", .unknown 42⟩) (.unknown 42)
    exact (((generation_outcome _).2.2 _ _ _ h).2 42 rfl).1 _ keeping []

end AsmXml
