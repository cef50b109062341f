import AsmXml.Proofs.Acceptance
import AsmXml.Proofs.FirstFault

/-! # How a run ends

A run ends in one of four ways (`Ends`), and its exit code tells which (`run_ends_once`). It makes
one write of a whole document or none, and what arrives of that write is up to the sink. Only
rejections are reported. That a document cannot be built is none of the four ways, and a defect is
none either: every source that parses has a document (`generate_spelled`).
-/

namespace AsmXml

open Text

/-- The source is a program, and this is its document. -/
def Translates (source document : Bytes) : Prop :=
  ∃ statements, IsProgram (sourceLines source) statements ∧
    document = (translation statements).render

/-- The ways in which a run can end: the input could not be read to its end, the source is no
program, the document arrived, or it did not arrive whole. -/
inductive Ending where
  | unread
  | rejected
  | written
  | unwritten
  deriving DecidableEq, Repr

/-- How a run of `t` ends: the way, what it leaves of the translator, the failure and the exit
code. A rejected source is reported once, if reports are wanted; of a document that is written, the
output receives all, nothing or the first half, as the sink takes it. -/
inductive Ends (colour : Bool) (t : Translator) :
    Ending → Translator → Option Failure → Nat → Prop
  | unread {reason : Bytes} (hi : t.input.failure = some reason) :
      Ends colour t .unread { t with input := t.input.spent } (some (.ofRead reason)) 11
  | rejected {site : Site} {cause : Fault} {code : Nat} (hi : t.input.failure = none)
      (hr : Rejects (prepare (rawLines t.input.pending)) site cause)
      (hc : (site.kind, code) ∈ [(ErrorKind.header, 21), (.opcode, 22), (.malformed, 23)]) :
      Ends colour t .rejected
        { t with
          input := t.input.spent
          diagnostics := t.diagnostics ++
            if t.reporting then site.report colour cause.message else [] }
        (some (.rejected site (.fault cause))) code
  | written {document : Bytes} (hi : t.input.failure = none)
      (hd : Translates t.input.pending document) (hs : t.sink = .accepting) :
      Ends colour t .written { t with input := t.input.spent, output := t.output ++ document }
        none 0
  | failed {document reason : Bytes} (hi : t.input.failure = none)
      (hd : Translates t.input.pending document) (hs : t.sink = .failing reason) :
      Ends colour t .unwritten { t with input := t.input.spent }
        (some (.ofWrite (.plain reason))) 99
  | halved {document : Bytes} (hi : t.input.failure = none)
      (hd : Translates t.input.pending document) (hs : t.sink = .halving) :
      Ends colour t .unwritten
        { t with
          input := t.input.spent
          output := t.output ++ document.take (document.length / 2) }
        (some (.ofWrite .shortWrite)) 99

/-! ## What a sink keeps -/

theorem render_ne_nil (d : Document) : d.render ≠ [] := by
  unfold Document.render declaration
  simp [utf8]

theorem deliver_accepting (text : Bytes) : Sink.accepting.deliver text = ⟨text, none⟩ := by
  simp only [Sink.deliver, Sink.write, if_true]

theorem deliver_halving {text : Bytes} (h : text ≠ []) :
    Sink.halving.deliver text = ⟨text.take (text.length / 2), some .shortWrite⟩ := by
  have hp : 0 < text.length := List.length_pos_iff.2 h
  have hl : (text.take (text.length / 2)).length ≠ text.length := by
    rw [List.length_take]
    omega
  simp only [Sink.deliver, Sink.write, if_neg hl]

/-! ## Runs -/

theorem generate_of_parse {source : Bytes} {program : List Instruction}
    (h : parse (prepare (rawLines source)) = .ok program) :
    ∃ document, Translates source document ∧
      generate .accepting program = .ok ⟨document, none⟩ := by
  rcases parse_prepare_cases source with ⟨statements, hs, hp⟩ | ⟨rejection, hp⟩
  · rw [h] at hp
    cases hp
    obtain ⟨rest, hl, hspell⟩ := hs
    exact ⟨_, ⟨statements, ⟨rest, hl, hspell⟩, rfl⟩, generate_spelled hspell⟩
  · rw [h] at hp
    cases hp

/-- An input cannot be read to its end, or its source is refused, or the source has a document. -/
theorem Input.cases (input : Input) :
    (∃ reason, input.failure = some reason) ∨ input.failure = none ∧
      ((∃ r, parse (prepare (rawLines input.pending)) = .error (.refused r)) ∨
        ∃ program document, parse (prepare (rawLines input.pending)) = .ok program ∧
          Translates input.pending document ∧
          generate .accepting program = .ok ⟨document, none⟩) := by
  cases hi : input.failure with
  | some reason => exact Or.inl ⟨reason, rfl⟩
  | none =>
    rcases parse_prepare_cases input.pending with ⟨statements, -, hp⟩ | hr
    · obtain ⟨document, hd, hg⟩ := generate_of_parse hp
      exact Or.inr ⟨rfl, Or.inr ⟨_, document, hp, hd, hg⟩⟩
    · exact Or.inr ⟨rfl, Or.inl hr⟩

namespace Translator

variable (colour : Bool) {t : Translator}

theorem run_of_unread {reason : Bytes} (h : t.input.failure = some reason) :
    t.run colour = .ok ({ t with input := t.input.spent }, ⟨some (.ofRead reason), []⟩) := by
  unfold run Input.outcome
  simp only [h]

theorem run_of_read (h : t.input.failure = none) :
    t.run colour =
      { t with input := t.input.spent }.translateLines colour (rawLines t.input.pending) := by
  unfold run Input.outcome
  simp only [h]

theorem run_of_refused (h : t.input.failure = none) {r : Rejection}
    (hp : parse (prepare (rawLines t.input.pending)) = .error (.refused r)) :
    t.run colour = .ok ({ t with input := t.input.spent }.reported colour r.toFailure,
      ⟨some r.toFailure, [noteRead (rawLines t.input.pending)]⟩) := by
  rw [run_of_read colour h]
  unfold translateLines
  rw [hp]

/-- A document is written in one write, and what becomes of that write is the end of the run. -/
theorem run_of_parsed (h : t.input.failure = none) {program : List Instruction}
    (hp : parse (prepare (rawLines t.input.pending)) = .ok program) {document : Bytes}
    (hg : generate .accepting program = .ok ⟨document, none⟩) :
    t.run colour = .ok
      ({ t with
          input := t.input.spent
          output := t.output ++ (t.sink.deliver document).stored },
        ⟨(t.sink.deliver document).failure.map .ofWrite,
          noteRead (rawLines t.input.pending) :: noteProgram program⟩) := by
  rw [run_of_read colour h]
  unfold translateLines
  rw [hp]
  simp only [hg]
  rfl

variable (t) in
theorem exists_run : ∃ t' run, t.run colour = .ok (t', run) := by
  rcases t.input.cases with ⟨reason, hi⟩ | ⟨hi, ⟨r, hp⟩ | ⟨program, document, hp, -, hg⟩⟩
  · exact ⟨_, _, t.run_of_unread colour hi⟩
  · exact ⟨_, _, t.run_of_refused colour hi hp⟩
  · exact ⟨_, _, t.run_of_parsed colour hi hp hg⟩

end Translator

/-! ## Endings -/

theorem exitCode_of_kind (f : Fault) :
    (f.kind, f.kind.exitCode) ∈ [(ErrorKind.header, 21), (.opcode, 22), (.malformed, 23)] := by
  cases f <;> simp [Fault.kind, ErrorKind.exitCode]

theorem report_toFailure (colour : Bool) (r : Rejection) :
    r.toFailure.report colour =
      Site.report colour ⟨r.fault.kind, r.order, r.line, r.fault.token⟩ r.fault.message := rfl

/-- A source that is refused ends a run with the exit code of its error and with its report, if
reports are wanted. -/
theorem ends_of_refused (colour : Bool) {t : Translator} (h : t.input.failure = none)
    {r : Rejection} (hp : parse (prepare (rawLines t.input.pending)) = .error (.refused r)) :
    Ends colour t .rejected ({ t with input := t.input.spent }.reported colour r.toFailure)
      (some r.toFailure) r.toFailure.exitCode := by
  have ht : { t with input := t.input.spent }.reported colour r.toFailure =
      { t with
        input := t.input.spent
        diagnostics := t.diagnostics ++
          if t.reporting then
            Site.report colour ⟨r.fault.kind, r.order, r.line, r.fault.token⟩ r.fault.message
          else [] } := by
    unfold Translator.reported
    cases hr : t.reporting with
    | true => simp only [if_true, report_toFailure]
    | false => simp only [Bool.false_eq_true, if_false, List.append_nil]
  rw [ht]
  exact .rejected h ⟨r, hp, rfl⟩ (exitCode_of_kind r.fault)

/-- A program ends a run in one of three ways: its document arrives, or half of it, or nothing. -/
theorem ends_of_program (colour : Bool) {t : Translator} (h : t.input.failure = none)
    {document : Bytes} (hd : Translates t.input.pending document) :
    ∃ e, Ends colour t e
      { t with
        input := t.input.spent
        output := t.output ++ (t.sink.deliver document).stored }
      ((t.sink.deliver document).failure.map .ofWrite)
      (exitCodeOf ((t.sink.deliver document).failure.map .ofWrite)) := by
  obtain hs | ⟨reason, hs⟩ | hs :
      t.sink = .accepting ∨ (∃ reason, t.sink = .failing reason) ∨ t.sink = .halving := by
    cases t.sink <;> simp
  · have hk : t.sink.deliver document = ⟨document, none⟩ := by rw [hs, deliver_accepting]
    rw [hk]
    exact ⟨.written, .written h hd hs⟩
  · have hk : t.sink.deliver document = ⟨[], some (.plain reason)⟩ := by rw [hs]; rfl
    rw [hk, List.append_nil]
    exact ⟨.unwritten, .failed h hd hs⟩
  · have hne : document ≠ [] := by
      obtain ⟨statements, -, rfl⟩ := hd
      exact render_ne_nil _
    have hk : t.sink.deliver document = ⟨document.take (document.length / 2), some .shortWrite⟩ := by
      rw [hs, deliver_halving hne]
    rw [hk]
    exact ⟨.unwritten, .halved h hd hs⟩

/-- The exit code tells how a run ended. -/
theorem Ends.ending_eq {colour : Bool} {t t' : Translator} {e : Ending} {f : Option Failure}
    {code : Nat} (h : Ends colour t e t' f code) :
    e = if code = 0 then .written else if code = 11 then .unread
      else if code = 99 then .unwritten else .rejected := by
  cases h with
  | rejected _ _ hc =>
    simp only [List.mem_cons, Prod.mk.injEq, List.not_mem_nil, or_false] at hc
    rcases hc with ⟨-, rfl⟩ | ⟨-, rfl⟩ | ⟨-, rfl⟩ <;> rfl
  | _ => rfl

/-- **A run ends in exactly one of four ways.** It ends with a result whatever the input is and
however it and the output behave, and the result is that of the one ending that applies. -/
theorem run_ends_once (colour : Bool) (t : Translator) :
    ∃ t' r, t.run colour = .ok (t', r) ∧ ∃! e, Ends colour t e t' r.failure r.exitCode := by
  have once {t' : Translator} {r : Run} {e : Ending} (hr : t.run colour = .ok (t', r))
      (he : Ends colour t e t' r.failure r.exitCode) :
      ∃ t' r, t.run colour = .ok (t', r) ∧ ∃! e, Ends colour t e t' r.failure r.exitCode :=
    ⟨t', r, hr, e, he, fun e' he' => he'.ending_eq.trans he.ending_eq.symm⟩
  cases hi : t.input.failure with
  | some reason => exact once (t.run_of_unread colour hi) (.unread hi)
  | none =>
    rcases parse_prepare_cases t.input.pending with ⟨statements, -, hp⟩ | ⟨rejection, hp⟩
    · obtain ⟨document, hd, hg⟩ := generate_of_parse hp
      obtain ⟨e, he⟩ := ends_of_program colour hi hd
      exact once (Translator.run_of_parsed colour hi hp hg) he
    · exact once (Translator.run_of_refused colour hi hp) (ends_of_refused colour hi hp)

end AsmXml
