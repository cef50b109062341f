import AsmXml.Failure
import AsmXml.Proofs.Reading

/-! # The first fault of a source

`Verdict` says what is wrong with a source, or that nothing is: the header decides first, then the
first line to which a fault applies, and on that line the first stage that applies. Parsing gives
exactly this verdict (`parse_iff_verdict`), with the order and the text of the line.
-/

namespace AsmXml

open Text

/-! ## Clean lines -/

/-- No fault of a line applies to the fields. -/
def Clean (fields : List Bytes) : Prop :=
  ∀ stage ∈ Complaint.stages, ∀ c, ¬ stage fields c

theorem clean_of_spells {fields : List Bytes} {st : Statement} (h : Spells fields st) :
    Clean fields := by
  intro stage hm c hc
  obtain ⟨c', hf⟩ := Complaint.exists_first_complaint ⟨stage, hm, c, hc⟩
  cases h with
  | @intro name s operands hs ho hn =>
    have hok : (⟨[], name :: operands.map Operand.text⟩ : Line).check = .ok ⟨s.opcode, operands⟩ :=
      Line.check_of_spells (.intro hs ho hn)
    rw [Line.check_of_first hf] at hok
    cases hok

theorem not_clean_of_first {fields : List Bytes} {c : Complaint}
    (h : Complaint.First fields c) : ¬ Clean fields := by
  obtain ⟨before, stage, after, hs, hc, -⟩ := h
  exact fun hn => hn stage (by simp [hs]) c hc

theorem clean_of_mem {lines : List Bytes} {statements : List Statement}
    (h : SpellAll lines statements) : ∀ line ∈ lines, Clean (fields line) := by
  induction h with
  | nil => simp
  | cons hst _ ih => exact List.forall_mem_cons.2 ⟨clean_of_spells hst, ih⟩

/-- The first complaint about a line is determined by the line. -/
theorem Complaint.First.unique {fields : List Bytes} (hne : fields ≠ []) {c d : Complaint}
    (hc : First fields c) (hd : First fields d) : c = d := by
  obtain ⟨first, tokens, rfl⟩ := List.exists_cons_of_ne_nil hne
  have hr : (⟨[], first :: tokens⟩ : Line).check = .error (.refused c.fault) :=
    Line.check_of_first hc
  rw [Line.check_of_first hd] at hr
  have he : c.fault = d.fault := by simpa using hr.symm
  obtain ⟨hck, hct⟩ := hc.kind_token
  obtain ⟨hdk, hdt⟩ := hd.kind_token
  obtain ⟨ck, ct, cf⟩ := c
  obtain ⟨dk, dt, df⟩ := d
  simp only at he hck hct hdk hdt
  subst he
  rw [← hck, ← hct, ← hdk, ← hdt]

/-- A list has one first element of a kind. -/
theorem first_unique {α : Type} {p : α → Prop} {before before' after after' : List α} {x x' : α}
    (h : before ++ x :: after = before' ++ x' :: after') (hb : ∀ y ∈ before, p y) (hx : ¬ p x)
    (hb' : ∀ y ∈ before', p y) (hx' : ¬ p x') : before = before' ∧ x = x' := by
  induction before generalizing before' with
  | nil =>
    cases before' with
    | nil => exact ⟨rfl, (List.cons.inj h).1⟩
    | cons y before' =>
      obtain ⟨rfl, -⟩ := List.cons.inj h
      exact absurd (hb' _ List.mem_cons_self) hx
  | cons y before ih =>
    cases before' with
    | nil =>
      obtain ⟨rfl, -⟩ := List.cons.inj h
      exact absurd (hb _ List.mem_cons_self) hx'
    | cons y' before' =>
      obtain ⟨rfl, ht⟩ := List.cons.inj h
      obtain ⟨rfl, rfl⟩ := ih ht (fun z hz => hb z (List.mem_cons_of_mem _ hz))
        fun z hz => hb' z (List.mem_cons_of_mem _ hz)
      exact ⟨rfl, rfl⟩

/-! ## Verdicts -/

/-- What is wrong with a source: the place and the kind of the error, and its cause; nothing if the
source is a program. -/
inductive Verdict (source : Bytes) : Option (Site × Fault) → Prop
  | empty (h : firstLine source = []) :
      Verdict source (some (⟨.header, 0, [], []⟩, .emptyInput))
  | badHeader (hne : firstLine source ≠ []) (h : firstLine source ≠ header) :
      Verdict source (some (⟨.header, 0, [], []⟩, .badHeader (firstLine source)))
  | fault {before after : List Bytes} {line : Bytes} {c : Complaint}
      (hh : firstLine source = header) (hl : bodyLines source = before ++ line :: after)
      (hb : ∀ t ∈ before, Clean (fields t)) (hc : Complaint.First (fields line) c) :
      Verdict source (some (⟨c.kind, (before.length + 1 : Nat), line, c.token⟩, c.fault))
  | accepted (hh : firstLine source = header) (hb : ∀ t ∈ bodyLines source, Clean (fields t)) :
      Verdict source none

/-- Parsing refuses the source with this error. -/
def Rejects (source : Bytes) (site : Site) (cause : Fault) : Prop :=
  ∃ r, parse source = .error (.refused r) ∧ r.toFailure = .rejected site (.fault cause)

theorem header_ne_nil : header ≠ [] := by
  decide

theorem fields_ne_nil_of_mem {lines : List Bytes} {line : Bytes}
    (h : line ∈ instructionLines lines) : fields line ≠ [] := by
  obtain ⟨hm, hne⟩ := List.mem_filter.1 h
  obtain ⟨text, -, rfl⟩ := List.mem_map.1 hm
  have ht : trim text ≠ [] := by simpa using hne
  rw [← trim_trim] at ht
  exact mt trim_eq_nil_iff.2 ht

/-- A source has one verdict. The header is judged first; after it, two verdicts about lines can
only be about the same line, since what comes before the first faulty line is free of faults. -/
theorem Verdict.unique {source : Bytes} {v w : Option (Site × Fault)} (hv : Verdict source v)
    (hw : Verdict source w) : v = w := by
  have hh := header_ne_nil
  cases hv with
  | empty h =>
    cases hw with
    | empty => rfl
    | badHeader hne => exact absurd h hne
    | fault hw => exact absurd (hw.symm.trans h) hh
    | accepted hw => exact absurd (hw.symm.trans h) hh
  | badHeader hne h =>
    cases hw with
    | empty hw => exact absurd hw hne
    | badHeader => rfl
    | fault hw => exact absurd hw h
    | accepted hw => exact absurd hw h
  | @fault before after line c hs hl hb hc =>
    cases hw with
    | empty hw => exact absurd (hs.symm.trans hw) hh
    | badHeader _ hw => exact absurd hs hw
    | fault _ hl' hb' hc' =>
      obtain ⟨rfl, rfl⟩ := first_unique (p := fun t => Clean (fields t)) (hl.symm.trans hl') hb
        (not_clean_of_first hc) hb' (not_clean_of_first hc')
      have hm : line ∈ bodyLines source := by simp [hl]
      cases hc.unique (fields_ne_nil_of_mem hm) hc'
      rfl
    | accepted _ hb' => exact absurd (hb' line (by simp [hl])) (not_clean_of_first hc)
  | accepted hs hb =>
    cases hw with
    | empty hw => exact absurd (hs.symm.trans hw) hh
    | badHeader _ hw => exact absurd hs hw
    | @fault before after line c _ hl _ hc =>
      exact absurd (hb line (by simp [hl])) (not_clean_of_first hc)
    | accepted => rfl

/-- Parsing gives a program or an error, and the verdict is the same. -/
theorem parse_verdict (source : Bytes) :
    (Verdict source none ∧ ∃ program, parse source = .ok program) ∨
      ∃ site cause, Verdict source (some (site, cause)) ∧ Rejects source site cause := by
  by_cases he : firstLine source = []
  · exact Or.inr ⟨_, _, .empty he, _, parse_of_blank he, rfl⟩
  by_cases hh : firstLine source = header
  · rcases parse_cases hh with ⟨statements, hs, hr⟩ |
      ⟨before, line, after, statements, c, hl, hs, hc, hr⟩
    · exact Or.inl ⟨.accepted hh (clean_of_mem hs), _, hr⟩
    · refine Or.inr ⟨_, _, .fault hh hl (clean_of_mem hs) hc, _, hr, ?_⟩
      obtain ⟨hk, ht⟩ := hc.kind_token
      unfold Rejection.toFailure
      simp only [hk, ht]
  · exact Or.inr ⟨_, _, .badHeader he hh, _, parse_of_badHeader he hh, rfl⟩

theorem Rejects.unique {source : Bytes} {site site' : Site} {cause cause' : Fault}
    (h : Rejects source site cause) (h' : Rejects source site' cause') :
    site = site' ∧ cause = cause' := by
  obtain ⟨r, hr, hf⟩ := h
  obtain ⟨r', hr', hf'⟩ := h'
  rw [hr] at hr'
  cases hr'
  rw [hf] at hf'
  simpa using hf'

/-- **Parsing finds the first fault of a source.** It gives a program exactly if nothing is wrong
with the source, and otherwise the error that the verdict names, located by order, line and
token. -/
theorem parse_iff_verdict (source : Bytes) :
    ((∃ program, parse source = .ok program) ∨ ∃ site cause, Rejects source site cause) ∧
      ((∃ program, parse source = .ok program) ↔ Verdict source none) ∧
      ∀ site cause, Rejects source site cause ↔ Verdict source (some (site, cause)) := by
  have hno {program : List Instruction} (hp : parse source = .ok program) (site : Site)
      (cause : Fault) : ¬ Rejects source site cause := by
    rintro ⟨r, hr, -⟩
    rw [hp] at hr
    cases hr
  rcases parse_verdict source with ⟨hv, program, hp⟩ | ⟨site, cause, hv, hr⟩
  · refine ⟨Or.inl ⟨program, hp⟩, ⟨fun _ => hv, fun _ => ⟨program, hp⟩⟩, fun site cause => ?_⟩
    refine ⟨fun h => absurd h (hno hp site cause), fun h => ?_⟩
    cases hv.unique h
  · refine ⟨Or.inr ⟨site, cause, hr⟩, ⟨?_, fun h => ?_⟩,
      fun site' cause' => ⟨fun h => ?_, fun h => ?_⟩⟩
    · rintro ⟨program, hp⟩
      exact absurd hr (hno hp site cause)
    · cases hv.unique h
    · obtain ⟨rfl, rfl⟩ := hr.unique h
      exact hv
    · cases hv.unique h
      exact hr

end AsmXml
