import AsmXml.Proofs.FirstFault
import AsmXml.Proofs.Source
import AsmXml.Proofs.Text.Printed

/-! # Rejected sources

A source is rejected for its header or for one of the lines behind the header
(`parse_refused_cases`), and the line that a rejection shows is a line of the source. The wording of
a rejection is printed text whatever the source holds (`printed_refused`): all that a message takes
from a source stands there in quotes, an opcode apart, and that is one of the table.
-/

namespace AsmXml

open Text

/-! ## Wordings -/

theorem Category.printed_name (c : Category) : Printed c.name := by
  cases c with
  | unknown code => exact printed_unknownName code
  | _ => exact printed_of_ascii rfl

theorem ErrorKind.printed_name (k : ErrorKind) : Printed k.name := by
  cases k with
  | unknown code => exact printed_unknownName code
  | _ => exact printed_of_ascii rfl

theorem Malformed.printed_message (m : Malformed) : Printed m.message := by
  cases m <;> exact printed_of_ascii rfl

theorem printed_opcode {s : Signature} (hs : s ∈ instructionSet) : Printed s.opcode := by
  refine printed_of_ascii (List.all_eq_true.2 fun b hb => ?_)
  have := opcode_bytes s hs b hb
  simp only [Bool.and_eq_true, decide_eq_true_eq]
  omega

/-- The message of a fault is printed: whatever it shows of the source is quoted, an opcode of the
instruction set apart. -/
theorem Fault.printed_message {f : Fault}
    (h : ∀ opcode expected got, f = .argumentCount opcode expected got → Printed opcode) :
    Printed f.message := by
  have plain {s : String} (hs : isPlainAscii (utf8 s) = true) : Printed (utf8 s) :=
    printed_of_ascii hs
  cases f with
  | emptyInput => exact plain rfl
  | badHeader line => exact (plain rfl).append (printed_quote line)
  | ambiguousLine count => exact ((plain rfl).append (printed_decimal count)).append (plain rfl)
  | unknownOpcode token => exact (plain rfl).append (printed_quote token)
  | argumentCount opcode expected got =>
    exact (((((plain rfl).append (h opcode expected got rfl)).append (plain rfl)).append
      (printed_decimal expected)).append (plain rfl)).append (printed_decimal got)
  | malformed complaint token =>
    exact (complaint.printed_message.append (plain rfl)).append (printed_quote token)
  | argumentType token expected found =>
    exact (((((plain rfl).append (printed_quote token)).append (plain rfl)).append
      expected.printed_name).append (plain rfl)).append found.printed_name

theorem Complaint.First.printed {fields : List Bytes} {c : Complaint} (h : First fields c) :
    Printed c.fault.message := by
  refine Fault.printed_message fun opcode expected got hf => ?_
  -- only the stage that counts operands speaks of an opcode of the table
  rcases h.cases with hc | hc | hc | hc | hc
  · cases hc; cases hf
  · cases hc; cases hf
  · cases hc with
    | intro hl _ =>
      cases hf
      exact printed_opcode (lookup?_eq_some_iff.1 hl).1
  · cases hc; cases hf
  · cases hc; cases hf

/-! ## Places -/

/-- A source is rejected for its header, or for the first line behind the header that something is
wrong with. -/
theorem parse_refused_cases {source : Bytes} {r : Rejection}
    (h : parse (prepare (rawLines source)) = .error (.refused r)) :
    (r.order = 0 ∧ r.line = [] ∧ (r.fault = .emptyInput ∨ ∃ line, r.fault = .badHeader line)) ∨
      ∃ before after c, sourceLines source = header :: (before ++ r.line :: after) ∧
        r.order = before.length + 1 ∧ Complaint.First (fields r.line) c ∧ r.fault = c.fault := by
  cases hl : sourceLines source with
  | nil =>
    rw [parse_of_blank (firstLine_prepare_nil hl)] at h
    cases h
    exact Or.inl ⟨rfl, rfl, Or.inl rfl⟩
  | cons first rest =>
    have hf := firstLine_prepare hl
    by_cases hh : first = header
    · subst hh
      rcases parse_cases hf with ⟨statements, -, hp⟩ | ⟨before, line, after, _, c, hb, -, hc, hp⟩
      · rw [hp] at h
        cases h
      · rw [hp] at h
        cases h
        rw [bodyLines_prepare hl] at hb
        exact Or.inr ⟨before, after, c, by rw [hb], rfl, hc, rfl⟩
    · have hne : first ≠ [] := (mem_sourceLines (hl ▸ List.mem_cons_self)).2.1
      rw [parse_of_badHeader (by rwa [hf]) (by rwa [hf])] at h
      cases h
      exact Or.inl ⟨rfl, rfl, Or.inr ⟨_, rfl⟩⟩

theorem isInfix_of_mem_sourceLines {source line : Bytes} (h : line ∈ sourceLines source) :
    line <:+: source := by
  obtain ⟨-, piece, hp, rfl⟩ := mem_contents h
  exact (content_isInfix piece).trans (mem_splitOn hp).1

theorem line_isInfix {source : Bytes} {r : Rejection}
    (h : parse (prepare (rawLines source)) = .error (.refused r)) : r.line <:+: source := by
  rcases parse_refused_cases h with ⟨-, hl, -⟩ | ⟨before, after, c, hl, -, -, -⟩
  · rw [hl]
    exact List.nil_infix
  · exact isInfix_of_mem_sourceLines (by simp [hl])

/-- The wording of a rejection is printed text, whatever the source holds. -/
theorem printed_refused {source : Bytes} {r : Rejection}
    (h : parse (prepare (rawLines source)) = .error (.refused r)) : Printed r.fault.message := by
  rcases parse_refused_cases h with ⟨-, -, hf | ⟨line, hf⟩⟩ | ⟨_, _, c, -, -, hc, hf⟩
  · rw [hf]
    exact Fault.printed_message nofun
  · rw [hf]
    exact Fault.printed_message nofun
  · rw [hf]
    exact hc.printed

end AsmXml
