import AsmXml.Proofs.Endings
import AsmXml.Proofs.Rejections

/-! # What a report says

Without colour, the report of a rejected source is made of whole lines (`HasLines`): a heading, the
wording of the fault with the number of the instruction, and the line at fault as it stands in the
source once comments and blank lines are gone (`Shown`). The first two are printed text and the last
is a line of the source, so nothing that a source holds adds a line to its report or takes one away
(`run_reports`).
-/

namespace AsmXml

open Text

/-- The text consists of the lines, each of them ended by a line feed. -/
def HasLines (text : Bytes) (lines : List Bytes) : Prop :=
  text = lines.flatMap (· ++ [lineFeed]) ∧ ∀ line ∈ lines, lineFeed ∉ line

/-- The kinds of errors that an instruction can have, with their exit codes and headings. -/
def instructionErrors : List (ErrorKind × Nat × Bytes) :=
  [(.opcode, 22, utf8 "=== opcode error ==="), (.malformed, 23, utf8 "=== syntax error ===")]

/-- What is shown of an error with this exit code, line by line. An error of the header is shown by
its cause alone; any other also by the number of its instruction and its line, which is the line of
that number behind the header. -/
inductive Shown (source : Bytes) (site : Site) (cause : Fault) : Nat → List Bytes → Prop
  | header (hk : site.kind = .header) (ho : site.order = 0) :
      Shown source site cause 21 [utf8 "=== header error ===", cause.message]
  | line {code : Nat} {heading : Bytes} {rest : List Bytes} {k : Nat}
      (hk : (site.kind, code, heading) ∈ instructionErrors)
      (hs : sourceLines source = AsmXml.header :: rest) (hl : rest[k]? = some site.line)
      (ho : site.order = k + 1) :
      Shown source site cause code
        [heading, cause.message ++ utf8 " at instruction " ++ decimal site.order, site.line]

/-! ## Plain reports -/

theorem paint_false (style : Style) (text : Bytes) : style.paint false text = text := rfl

theorem highlight_false (text token : Bytes) : highlight false text token = text := rfl

namespace Site

variable {site : Site} (cause : Bytes)

theorem report_of_header (h : site.order = 0) :
    site.report false cause =
      [utf8 "=== " ++ site.kind.name ++ utf8 " ===", cause].flatMap (· ++ [lineFeed]) := by
  have hd : site.diagnostic false cause = cause := by
    unfold diagnostic
    rw [if_pos h, paint_false]
  have hn : utf8 "\n" = [lineFeed] := rfl
  unfold report
  rw [hd, paint_false, paint_false, hn]
  simp only [List.flatMap_cons, List.flatMap_nil, List.append_nil, List.append_assoc]

/-- The report about a line is three lines: the kind of the error, the cause with its place, and the
line as it stands in the source. -/
theorem report_of_line (h : site.order ≠ 0) :
    site.report false cause =
      [utf8 "=== " ++ site.kind.name ++ utf8 " ===",
        cause ++ utf8 " at instruction " ++ decimal site.order,
        site.line].flatMap (· ++ [lineFeed]) := by
  have hl : (if site.token.isEmpty then paintCode false site.line
      else highlight false site.line site.token) = site.line := by
    rw [highlight_false, paintCode, paint_false, ite_self]
  have hd : site.diagnostic false cause =
      cause ++ utf8 " at " ++ (utf8 "instruction " ++ decimal site.order) ++ utf8 "\n" ++
        site.line := by
    unfold diagnostic
    rw [if_neg h, hl, paint_false, paint_false]
  have ha : utf8 " at instruction " = utf8 " at " ++ utf8 "instruction " := rfl
  have hn : utf8 "\n" = [lineFeed] := rfl
  unfold report
  rw [hd, ha, hn, paint_false, paint_false]
  simp only [List.flatMap_cons, List.flatMap_nil, List.append_nil, List.append_assoc]

end Site

/-! ## The lines of a report -/

namespace Shown

variable {source : Bytes} {site : Site} {cause : Fault} {code : Nat} {lines : List Bytes}

theorem report (h : Shown source site cause code lines) :
    site.report false cause.message = lines.flatMap (· ++ [lineFeed]) := by
  cases h with
  | header hk ho =>
    rw [Site.report_of_header _ ho, hk]
    rfl
  | line hk _ _ ho =>
    rw [Site.report_of_line _ (by omega)]
    simp only [instructionErrors, List.mem_cons, Prod.mk.injEq, List.not_mem_nil, or_false] at hk
    rcases hk with ⟨hk, -, rfl⟩ | ⟨hk, -, rfl⟩ <;> rw [hk] <;> rfl

theorem printed (h : Shown source site cause code lines) (hm : Printed cause.message) :
    ∀ line ∈ lines.take 2, Printed line := by
  cases h with
  | header hk ho =>
    intro line hl
    simp only [List.take_succ_cons, List.take_zero, List.mem_cons, List.not_mem_nil,
      or_false] at hl
    rcases hl with rfl | rfl
    · exact printed_of_ascii rfl
    · exact hm
  | line hk _ _ _ =>
    intro line hl
    simp only [instructionErrors, List.take_succ_cons, List.take_zero, List.mem_cons,
      List.not_mem_nil, or_false, Prod.mk.injEq] at hl hk
    rcases hl with rfl | rfl
    · rcases hk with ⟨-, -, rfl⟩ | ⟨-, -, rfl⟩ <;> exact printed_of_ascii rfl
    · exact (hm.append (printed_of_ascii rfl)).append (printed_decimal _)

/-- Printed text cannot break a line of a report, and a line of the source cannot either. -/
theorem hasLines (h : Shown source site cause code lines) (hm : Printed cause.message) :
    HasLines (site.report false cause.message) lines := by
  refine ⟨h.report, fun line hl => ?_⟩
  have hp := h.printed hm
  cases h with
  | header => exact (hp line hl).not_mem (by decide)
  | line _ hs hk _ =>
    rw [← List.take_append_drop 2 [_, _, _]] at hl
    rcases List.mem_append.1 hl with hl | hl
    · exact (hp line hl).not_mem (by decide)
    · have hm : site.line ∈ sourceLines source := by
        rw [hs]
        exact List.mem_cons_of_mem _ (List.mem_of_getElem? hk)
      rw [List.mem_singleton.1 hl]
      exact (mem_sourceLines hm).2.2

end Shown

/-! ## Rejected runs -/

theorem Complaint.First.mem_instructionErrors {fields : List Bytes} {c : Complaint}
    (h : First fields c) :
    (c.fault.kind, c.fault.kind.exitCode, utf8 "=== " ++ c.fault.kind.name ++ utf8 " ===") ∈
      instructionErrors := by
  have hopcode : (ErrorKind.opcode, 22, utf8 "=== opcode error ===") ∈ instructionErrors :=
    List.mem_cons_self
  have hmalformed : (ErrorKind.malformed, 23, utf8 "=== syntax error ===") ∈ instructionErrors :=
    List.mem_cons_of_mem _ List.mem_cons_self
  rcases h.cases with hc | hc | hc | hc | hc <;> cases hc
  · exact hmalformed
  · exact hopcode
  all_goals exact hmalformed

theorem shown_of_refused {source : Bytes} {r : Rejection}
    (h : parse (prepare (rawLines source)) = .error (.refused r)) :
    ∃ lines, Shown source ⟨r.fault.kind, r.order, r.line, r.fault.token⟩ r.fault
      r.toFailure.exitCode lines := by
  have hcode : r.toFailure.exitCode = r.fault.kind.exitCode := rfl
  rcases parse_refused_cases h with ⟨ho, -, hf⟩ | ⟨before, after, c, hl, ho, hc, hf⟩
  · have hk : r.fault.kind = .header := by
      rcases hf with hf | ⟨line, hf⟩ <;> rw [hf] <;> rfl
    rw [hcode, hk]
    exact ⟨_, .header rfl (by rw [ho]; rfl)⟩
  · have hk := hc.mem_instructionErrors
    have hline : (before ++ r.line :: after)[before.length]? = some r.line := by simp
    rw [← hf] at hk
    exact ⟨_, .line hk hl hline (by simp [ho])⟩

/-- The whole message of a rejection is printed text: the line that it quotes is quoted. -/
theorem printed_toFailure {r : Rejection} (h : Printed r.fault.message) :
    Printed r.toFailure.message := by
  have hplain {s : String} (hs : isPlainAscii (utf8 s) = true) : Printed (utf8 s) :=
    printed_of_ascii hs
  unfold Rejection.toFailure Failure.message
  split
  · exact h
  · exact (((((hplain rfl).append (printed_decimal _)).append (hplain rfl)).append h).append
      (hplain rfl)).append (printed_quote _)

/-- A document that was built is written or not, and neither is a rejection. -/
theorem exitCode_deliver (sink : Sink) (text : Bytes) :
    exitCodeOf ((sink.deliver text).failure.map .ofWrite) ∈ [0, 99] := by
  cases sink with
  | accepting =>
    rw [deliver_accepting]
    exact List.mem_cons_self
  | failing reason => exact List.mem_cons_of_mem _ List.mem_cons_self
  | halving =>
    simp only [Sink.deliver, Sink.write]
    split
    · exact List.mem_cons_self
    · exact List.mem_cons_of_mem _ List.mem_cons_self

/-- The exit codes of rejections belong to rejections only. -/
theorem Translator.run_rejected {colour : Bool} {t t' : Translator} {run : Run}
    (h : t.run colour = .ok (t', run)) (hc : run.exitCode ∈ [21, 22, 23]) :
    ∃ r, parse (prepare (rawLines t.input.pending)) = .error (.refused r) ∧
      run.failure = some r.toFailure ∧
      t' = { t with input := t.input.spent }.reported colour r.toFailure := by
  rcases t.input.cases with ⟨reason, hi⟩ | ⟨hi, ⟨r, hp⟩ | ⟨program, document, hp, -, hg⟩⟩
  · rw [t.run_of_unread colour hi] at h
    cases h
    have hu : exitCodeOf (some (.ofRead reason)) = 11 := rfl
    simp [Run.exitCode, hu] at hc
  · rw [t.run_of_refused colour hi hp] at h
    cases h
    exact ⟨r, hp, rfl, rfl⟩
  · rw [t.run_of_parsed colour hi hp hg] at h
    cases h
    have hd := exitCode_deliver t.sink document
    simp only [Run.exitCode] at hc
    simp only [List.mem_cons, List.not_mem_nil, or_false] at hc hd
    omega

/-- **Reports cannot be forged.** A run without colour that rejects its source adds a report to the
diagnostics that consists of a heading, the wording of the fault and, behind the header, the line at
fault, whatever bytes the source holds. -/
theorem run_reports {t t' : Translator} {run : Run} (hr : t.reporting = true)
    (h : t.run false = .ok (t', run)) (hc : run.exitCode ∈ [21, 22, 23]) :
    ∃ site cause lines report, run.failure = some (.rejected site (.fault cause)) ∧
      Shown t.input.pending site cause run.exitCode lines ∧
      t'.diagnostics = t.diagnostics ++ report ∧ HasLines report lines ∧
      (∀ line ∈ lines.take 2, Printed line) ∧
      Printed (Failure.rejected site (.fault cause)).message := by
  obtain ⟨r, hp, hf, rfl⟩ := t.run_rejected h hc
  have hm := printed_refused hp
  obtain ⟨lines, hs⟩ := shown_of_refused hp
  have hcode : run.exitCode = r.toFailure.exitCode := by
    rw [Run.exitCode, hf]
    rfl
  refine ⟨_, r.fault, lines, _, hf, hcode ▸ hs, ?_, hs.hasLines hm, hs.printed hm,
    printed_toFailure hm⟩
  unfold Translator.reported
  rw [if_pos hr]
  rfl

/-- A translator on a source whose one instruction line begins with an order to clear the screen
and a byte that no character has. -/
def screenClearing : Translator :=
  .ofInput ⟨utf8 ".IPPcode24\n\n\x1b[2J" ++ [0xff] ++ utf8 " === # end", none⟩ .accepting true

theorem screenClearing_run_reports :
    ∃ t' run, screenClearing.run false = .ok (t', run) ∧ run.exitCode = 22 ∧
      ∃ site cause lines report, run.failure = some (.rejected site (.fault cause)) ∧
        Shown screenClearing.input.pending site cause 22 lines ∧ t'.diagnostics = report ∧
        HasLines report lines ∧ Printed (Failure.rejected site (.fault cause)).message := by
  obtain ⟨t', run, h⟩ := screenClearing.exists_run false
  have hcode : run.exitCode = 22 := by
    have hm : (screenClearing.run false).map (·.2.exitCode) = .ok 22 := rfl
    rw [h] at hm
    exact Except.ok.inj hm
  obtain ⟨site, cause, lines, report, hf, hs, hd, hl, -, hp⟩ :=
    run_reports rfl h (hcode ▸ by simp)
  exact ⟨t', run, h, hcode, site, cause, lines, report, hf, hcode ▸ hs, hd, hl, hp⟩

end AsmXml
