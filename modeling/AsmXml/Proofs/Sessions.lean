import AsmXml.Proofs.Endings
import AsmXml.Session

/-! # Runs of one session do not mix

A call is one run of the translator as a session asks for it: with the colour, the wish for reports
and the input that are in force at that point. A fresh translator makes of a call a run, a document
and a report, and these are what the call is in the session too, whatever came before
(`Call.run_resumed`). So a session's output is the documents of its calls one after the other, and
its diagnostics are their reports (`Session.Holds.after`).
-/

namespace AsmXml

open Text

/-- A run of the translator: its colour, whether reports are wanted, and what there is to read. -/
structure Call where
  colour : Bool
  reporting : Bool
  input : Input

namespace Call

/-- What a session would ask for before its first request. -/
def first (colour : Bool) : Call :=
  ⟨colour, true, .empty⟩

/-- What a session would ask for after a request. A run leaves nothing of the input to read, and an
input that fails goes on failing. -/
def next (c : Call) : Request → Call
  | .colour enabled => { c with colour := enabled }
  | .reporting enabled => { c with reporting := enabled }
  | .input input => { c with input }
  | .translate => { c with input := ⟨[], c.input.failure⟩ }
  | .paint _ | .newReader .. | .parse _ | .generate .. => c

def after (c : Call) (requests : List Request) : Call :=
  requests.foldl next c

/-- The calls that requests make, one for each request to translate. -/
def made (c : Call) : List Request → List Call
  | [] => []
  | .translate :: rest => c :: (c.next .translate).made rest
  | request :: rest => (c.next request).made rest

/-- An input that was used up stays as it is until there is another. -/
theorem input_after {c : Call} (hc : c.input.pending = []) {requests : List Request}
    (h : ∀ input, .input input ∉ requests) : (c.after requests).input = c.input := by
  induction requests generalizing c with
  | nil => rfl
  | cons request rest ih =>
    have hrest : ∀ input, .input input ∉ rest := fun input hm => h input (List.mem_cons_of_mem _ hm)
    have hn : (c.next request).input = c.input := by
      cases request with
      | input input => exact absurd List.mem_cons_self (h input)
      | translate => simp only [next, ← hc]
      | _ => rfl
    exact (ih (by rwa [hn]) hrest).trans hn

/-! ## Fresh translators -/

/-- The call on a translator that has written nothing yet. -/
def fresh (c : Call) : Except Defect (Translator × Run) :=
  (Translator.ofInput c.input .accepting c.reporting).run c.colour

def exitCode? (c : Call) : Option Nat :=
  c.fresh.toOption.map (·.2.exitCode)

/-- The program is rejected: for its header, an opcode or anything else on a line. -/
def isRejected (c : Call) : Bool :=
  c.exitCode?.any [21, 22, 23].contains

/-- The output of a fresh translator. -/
def document (c : Call) : Bytes :=
  c.fresh.toOption.elim [] (·.1.output)

/-- The diagnostics of a fresh translator. -/
def report (c : Call) : Bytes :=
  c.fresh.toOption.elim [] (·.1.diagnostics)

end Call

/-- The documents of the calls that succeed, in order. -/
def documents (calls : List Call) : Bytes :=
  (calls.filter (·.exitCode? == some 0)).flatMap Call.document

/-- The reports of the calls that are rejected while reports are wanted, in order. -/
def reports (calls : List Call) : Bytes :=
  (calls.filter fun c => c.reporting && c.isRejected).flatMap Call.report

/-! ## What a call comes to -/

namespace Call

/-- How a call can end, with what it adds to output and diagnostics. -/
inductive Yields (c : Call) : Option Failure → Bytes → Bytes → Prop
  | unread {reason : Bytes} (hi : c.input.failure = some reason) :
      Yields c (some (.ofRead reason)) [] []
  | rejected {r : Rejection} (hi : c.input.failure = none)
      (hp : parse (prepare (rawLines c.input.pending)) = .error (.refused r)) :
      Yields c (some r.toFailure) [] (if c.reporting then r.toFailure.report c.colour else [])
  | written {document : Bytes} (hi : c.input.failure = none)
      (hd : Translates c.input.pending document) : Yields c none document []

section

variable {c : Call} {failure : Option Failure} {document report : Bytes}

theorem exitCode_toFailure (r : Rejection) : exitCodeOf (some r.toFailure) ∈ [21, 22, 23] :=
  List.mem_map_of_mem (f := Prod.snd) (exitCode_of_kind r.fault)

theorem exitCode_ofRead (reason : Bytes) : exitCodeOf (some (.ofRead reason)) = 11 := rfl

namespace Yields

theorem translates (h : c.Yields failure document report) (he : exitCodeOf failure = 0) :
    Translates c.input.pending document := by
  cases h with
  | unread => cases he
  | @rejected r =>
    have hr := exitCode_toFailure r
    rw [he] at hr
    simp at hr
  | written _ hd => exact hd

theorem document_eq_nil (h : c.Yields failure document report) (he : exitCodeOf failure ≠ 0) :
    document = [] := by
  cases h with
  | unread => rfl
  | rejected => rfl
  | written => exact absurd rfl he

theorem rejects (h : c.Yields failure document report) (hr : c.reporting = true)
    (he : exitCodeOf failure ∈ [21, 22, 23]) : ∃ site cause,
      Rejects (prepare (rawLines c.input.pending)) site cause ∧
      report = site.report c.colour cause.message := by
  cases h with
  | unread => simp [exitCode_ofRead] at he
  | @rejected r _ hp =>
    refine ⟨_, r.fault, ⟨r, hp, rfl⟩, ?_⟩
    rw [if_pos hr, report_toFailure]
  | written => simp [exitCodeOf] at he

theorem report_eq_nil (h : c.Yields failure document report)
    (hn : ¬ (c.reporting = true ∧ exitCodeOf failure ∈ [21, 22, 23])) : report = [] := by
  cases h with
  | unread => rfl
  | @rejected r => exact if_neg fun hr => hn ⟨hr, exitCode_toFailure r⟩
  | written => rfl

theorem failure_of_empty (h : c.Yields failure document report) (hi : c.input = ⟨[], none⟩) :
    failure = some (.rejected ⟨.header, 0, [], []⟩ (.fault .emptyInput)) := by
  have hp : parse (prepare (rawLines c.input.pending)) = .error (.refused ⟨0, [], .emptyInput⟩) := by
    rw [hi]
    exact parse_of_blank (firstLine_prepare_nil rfl)
  cases h with
  | unread hf => simp [hi] at hf
  | rejected _ hr =>
    rw [hp] at hr
    cases hr
    rfl
  | written _ hd =>
    obtain ⟨statements, ⟨rest, hl, -⟩, -⟩ := hd
    rw [hi, show sourceLines [] = [] from rfl] at hl
    cases hl

theorem failure_of_unread (h : c.Yields failure document report) {reason : Bytes}
    (hi : c.input.failure = some reason) : failure = some (.ofRead reason) := by
  cases h with
  | unread hf =>
    rw [hi] at hf
    cases hf
    rfl
  | rejected hf => simp [hi] at hf
  | written hf => simp [hi] at hf

end Yields

end

variable (c : Call)

/-- The end of a call and what it adds do not depend on what was written before. -/
theorem exists_yields : ∃ run document report, c.Yields run.failure document report ∧
    ∀ output diagnostics,
      Translator.run c.colour ⟨c.input, .accepting, c.reporting, output, diagnostics⟩ =
        .ok (⟨⟨[], c.input.failure⟩, .accepting, c.reporting, output ++ document,
          diagnostics ++ report⟩, run) := by
  rcases c.input.cases with ⟨reason, hi⟩ | ⟨hi, ⟨r, hp⟩ | ⟨program, document, hp, hd, hg⟩⟩
  · refine ⟨⟨_, []⟩, [], [], .unread hi, fun output diagnostics => ?_⟩
    rw [List.append_nil, List.append_nil]
    exact Translator.run_of_unread c.colour hi
  · refine ⟨⟨_, [noteRead (rawLines c.input.pending)]⟩, [], _, .rejected hi hp,
      fun output diagnostics => ?_⟩
    rw [Translator.run_of_refused (t := ⟨c.input, .accepting, c.reporting, output, diagnostics⟩)
      c.colour hi hp, List.append_nil]
    unfold Translator.reported
    cases hr : c.reporting with
    | true => rfl
    | false =>
      simp only [Bool.false_eq_true, if_false, List.append_nil]
      rfl
  · refine ⟨⟨none, noteRead (rawLines c.input.pending) :: noteProgram program⟩, document, [],
      .written hi hd, fun output diagnostics => ?_⟩
    rw [Translator.run_of_parsed (t := ⟨c.input, .accepting, c.reporting, output, diagnostics⟩)
      c.colour hi hp hg, deliver_accepting, List.append_nil]
    rfl

/-- A call comes to the same on a fresh translator and on one that has been used. -/
theorem run_resumed : ∃ t run, c.fresh = .ok (t, run) ∧ c.exitCode? = some run.exitCode ∧
    c.Yields run.failure c.document c.report ∧ ∀ output diagnostics,
      Translator.run c.colour ⟨c.input, .accepting, c.reporting, output, diagnostics⟩ =
        .ok (⟨⟨[], c.input.failure⟩, .accepting, c.reporting, output ++ c.document,
          diagnostics ++ c.report⟩, run) := by
  obtain ⟨run, document, report, hy, hrun⟩ := c.exists_yields
  have hfresh : c.fresh = .ok (⟨⟨[], c.input.failure⟩, .accepting, c.reporting, document, report⟩,
      run) := hrun [] []
  have hd : c.document = document := by simp [Call.document, hfresh, Except.toOption]
  have hr : c.report = report := by simp [Call.report, hfresh, Except.toOption]
  have he : c.exitCode? = some run.exitCode := by simp [exitCode?, hfresh, Except.toOption]
  rw [hd, hr]
  exact ⟨_, run, hfresh, he, hy, hrun⟩

/-- A program is translated to its document and reports nothing. -/
theorem of_isProgram {c : Call} (hi : c.input.failure = none) {statements : List Statement}
    (hs : IsProgram (sourceLines c.input.pending) statements) :
    c.document = (translation statements).render ∧ c.report = [] := by
  obtain ⟨colour, reporting, pending, failure⟩ := c
  cases hi
  obtain ⟨t, run, hf, -, hy, -⟩ := run_resumed ⟨colour, reporting, pending, none⟩
  obtain ⟨t', run', hrun, hn, ho⟩ := run_of_isProgram colour reporting [] [] hs
  have he : (Except.ok (t, run) : Except Defect (Translator × Run)) = .ok (t', run') :=
    hf.symm.trans hrun
  cases he
  constructor
  · simp only [document, hf, Except.toOption, Option.elim_some, ho, List.nil_append]
  · refine hy.report_eq_nil fun hr => ?_
    simp [hn, exitCodeOf] at hr

theorem isRejected_iff {run : Run} (h : c.exitCode? = some run.exitCode) :
    c.isRejected = true ↔ exitCodeOf run.failure ∈ [21, 22, 23] := by
  simp [isRejected, h, Run.exitCode]

end Call

/-- Calls that add nothing may be left out. -/
theorem flatMap_filter_eq {p : Call → Bool} {f : Call → Bytes} (h : ∀ c, p c = false → f c = [])
    (calls : List Call) : (calls.filter p).flatMap f = calls.flatMap f := by
  induction calls with
  | nil => rfl
  | cons c calls ih =>
    cases hc : p c with
    | true => rw [List.filter_cons_of_pos hc, List.flatMap_cons, List.flatMap_cons, ih]
    | false =>
      rw [List.filter_cons_of_neg (by simp [hc]), List.flatMap_cons, h c hc, ih, List.nil_append]

/-- The calls that fail write no document. -/
theorem documents_eq_flatMap (calls : List Call) :
    documents calls = calls.flatMap Call.document := by
  refine flatMap_filter_eq (fun c hc => ?_) calls
  obtain ⟨-, run, -, he, hy, -⟩ := c.run_resumed
  refine hy.document_eq_nil fun hz => ?_
  simp [he, Run.exitCode, hz] at hc

/-- The calls that are not rejected, and those without reports, report nothing. -/
theorem reports_eq_flatMap (calls : List Call) : reports calls = calls.flatMap Call.report := by
  refine flatMap_filter_eq (fun c hc => ?_) calls
  obtain ⟨-, run, -, he, hy, -⟩ := c.run_resumed
  refine hy.report_eq_nil fun hr => ?_
  rw [← c.isRejected_iff he] at hr
  simp [hr] at hc

theorem documents_concat (calls : List Call) (c : Call) :
    documents (calls ++ [c]) = documents calls ++ c.document := by
  rw [documents_eq_flatMap, documents_eq_flatMap, List.flatMap_append, List.flatMap_singleton]

theorem reports_concat (calls : List Call) (c : Call) :
    reports (calls ++ [c]) = reports calls ++ c.report := by
  rw [reports_eq_flatMap, reports_eq_flatMap, List.flatMap_append, List.flatMap_singleton]

/-! ## Sessions -/

namespace Session

/-- The session after requests. -/
def after (s : Session) (requests : List Request) : Session :=
  requests.foldl (fun s request => (s.step request).1) s

theorem getElem?_run (s : Session) (before : List Request) (request : Request)
    (rest : List Request) :
    (s.run (before ++ request :: rest))[before.length]? = some ((s.after before).step request).2 := by
  induction before generalizing s with
  | nil => rfl
  | cons r before ih => exact ih (s.step r).1

/-- The session would ask for `c` next, and its translator has written what the calls so far
wrote. -/
structure Holds (s : Session) (c : Call) (calls : List Call) : Prop where
  colour : s.colour = c.colour
  translator : s.translator =
    ⟨c.input, .accepting, c.reporting, documents calls, reports calls⟩

variable {s : Session} {c : Call} {calls : List Call}

theorem Holds.step_translate (h : s.Holds c calls) : ∃ t run, c.fresh = .ok (t, run) ∧
    c.Yields run.failure c.document c.report ∧
    (s.step .translate).2 = .translated c.colour run (documents (calls ++ [c]))
      (reports (calls ++ [c])) ∧
    (s.step .translate).1.Holds (c.next .translate) (calls ++ [c]) := by
  obtain ⟨t, run, hf, -, hy, hrun⟩ := c.run_resumed
  have hr := hrun (documents calls) (reports calls)
  rw [← documents_concat, ← reports_concat, ← h.translator, ← h.colour] at hr
  have hs : s.step .translate = ({ s with translator := ⟨⟨[], c.input.failure⟩, .accepting,
      c.reporting, documents (calls ++ [c]), reports (calls ++ [c])⟩ },
      .translated s.colour run (documents (calls ++ [c])) (reports (calls ++ [c]))) := by
    rw [step]
    simp only [hr]
  rw [hs]
  exact ⟨t, run, hf, hy, by rw [h.colour], ⟨h.colour, rfl⟩⟩

/-- The other requests write nothing. -/
theorem Holds.step_of_ne (h : s.Holds c calls) {request : Request} (hr : request ≠ .translate) :
    (s.step request).1.Holds (c.next request) calls := by
  obtain ⟨hc, ht⟩ := h
  cases request with
  | translate => exact absurd rfl hr
  | colour enabled => exact ⟨rfl, ht⟩
  | input input => exact ⟨hc, by simp only [step, Call.next, ht]⟩
  | reporting enabled => exact ⟨hc, by simp only [step, Call.next, ht]⟩
  | paint => exact ⟨hc, ht⟩
  | newReader => exact ⟨hc, ht⟩
  | parse => exact ⟨hc, ht⟩
  | generate => exact ⟨hc, ht⟩

theorem Holds.after (h : s.Holds c calls) (requests : List Request) :
    (s.after requests).Holds (c.after requests) (calls ++ c.made requests) := by
  induction requests generalizing s c calls with
  | nil => simpa [Session.after, Call.after, Call.made] using h
  | cons request rest ih =>
    by_cases hr : request = .translate
    · subst hr
      obtain ⟨-, -, -, -, -, hs⟩ := h.step_translate
      have := ih hs
      rwa [List.append_assoc, List.singleton_append] at this
    · have hm : c.made (request :: rest) = (c.next request).made rest := by
        cases request <;> first | rfl | exact absurd rfl hr
      rw [hm]
      exact ih (h.step_of_ne hr)

theorem holds_start (colour : Bool) : (start colour).Holds (.first colour) [] :=
  ⟨rfl, rfl⟩

end Session

/-- **A session never mixes runs.** Whatever was asked before, a request to translate is answered
with the run of a fresh translator on what is left to read. That is nothing after an earlier run on
the same input, so the input is empty, or it fails again. By then the output is the documents of
exactly the calls with exit code 0, and the diagnostics are the reports of exactly the calls with exit
codes 21 to 23 that were made while reports were wanted, each with the colour of its call. -/
theorem session_keeps_runs_apart (colour : Bool) (before rest : List Request) :
    let now := (Call.first colour).after before
    let calls := (Call.first colour).made before ++ [now]
    ∃ t run, now.fresh = .ok (t, run) ∧
      ((Session.start colour).run (before ++ .translate :: rest))[before.length]? =
        some (.translated now.colour run (documents calls) (reports calls)) ∧
      (∀ earlier since, before = earlier ++ .translate :: since →
        (∀ input, .input input ∉ since) →
        now.input = ⟨[], ((Call.first colour).after earlier).input.failure⟩) ∧
      (now.input = ⟨[], none⟩ → run.exitCode = 21 ∧
        run.failure = some (.rejected ⟨.header, 0, [], []⟩ (.fault .emptyInput))) ∧
      (∀ reason, now.input.failure = some reason → run.exitCode = 11 ∧
        run.failure = some (.ofRead reason)) ∧
      ∀ call ∈ calls,
        (call.exitCode? = some 0 → Translates call.input.pending call.document) ∧
        (call.reporting = true → call.isRejected = true → ∃ site cause,
          Rejects (prepare (rawLines call.input.pending)) site cause ∧
          call.report = site.report call.colour cause.message) := by
  intro now calls
  have hs : ((Session.start colour).after before).Holds now ((Call.first colour).made before) :=
    (Session.holds_start colour).after before
  obtain ⟨t, run, hf, hy, ha, -⟩ := hs.step_translate
  refine ⟨t, run, hf, by rw [Session.getElem?_run, ha], fun earlier since hb hn => ?_,
    fun hi => ?_, fun reason hi => ?_, fun call _ => ?_⟩
  · have hnow : now = (((Call.first colour).after earlier).next .translate).after since := by
      simp only [now, hb, Call.after, List.foldl_append, List.foldl_cons]
    rw [hnow, Call.input_after rfl hn]
    rfl
  · have hfail := hy.failure_of_empty hi
    exact ⟨by rw [Run.exitCode, hfail]; rfl, hfail⟩
  · have hfail := hy.failure_of_unread hi
    exact ⟨by rw [Run.exitCode, hfail]; rfl, hfail⟩
  · obtain ⟨-, run, -, he, hy, -⟩ := call.run_resumed
    refine ⟨fun hz => hy.translates ?_, fun hr hj => hy.rejects hr ((call.isRejected_iff he).1 hj)⟩
    rw [he] at hz
    exact Option.some.inj hz

/-- A program that does nothing but break. -/
def singleBreak : Bytes :=
  utf8 ".IPPcode24\nBREAK\n"

/-- Its document. -/
def singleBreakDocument : Bytes :=
  [utf8 "<?xml version=\"1.0\" encoding=\"UTF-8\"?>",
    utf8 "<program language=\"IPPcode24\">",
    utf8 "  <instruction order=\"1\" opcode=\"BREAK\"></instruction>",
    utf8 "</program>"].flatMap (· ++ utf8 "\n")

theorem isProgram_singleBreak : IsProgram (sourceLines singleBreak) [⟨utf8 "BREAK", []⟩] := by
  have hl : sourceLines singleBreak = [header, utf8 "BREAK"] := by decide
  have hf : fields (utf8 "BREAK") = [utf8 "BREAK"] := by decide
  have hs : lookup? (utf8 "BREAK") = some ⟨utf8 "BREAK", []⟩ := by decide
  refine ⟨_, hl, .cons ?_ .nil⟩
  rw [hf]
  exact .intro hs .nil (by simp)

/-- The first run reads the source to its end and writes its document. So the second finds an empty
input; it adds its report to the diagnostics and leaves the output as it is. -/
theorem session_translates_twice :
    ∃ run,
      ((Session.start false).run [.input ⟨singleBreak, none⟩, .translate, .translate])[2]? =
        some (.translated false run singleBreakDocument
          (utf8 "=== header error ===\nempty input\n")) ∧
      run.exitCode = 21 ∧
      run.failure = some (.rejected ⟨.header, 0, [], []⟩ (.fault .emptyInput)) := by
  obtain ⟨t, run, -, ha, hleft, he, -, -⟩ := session_keeps_runs_apart false
    [.input ⟨singleBreak, none⟩, .translate] []
  refine ⟨run, ?_, he (hleft [.input ⟨singleBreak, none⟩] [] rfl nofun)⟩
  obtain ⟨hdocument, hreport⟩ :=
    Call.of_isProgram (c := ⟨false, true, ⟨singleBreak, none⟩⟩) rfl isProgram_singleBreak
  have hbytes : ((translation [⟨utf8 "BREAK", []⟩]).render == singleBreakDocument) = true := by
    decide
  have hempty : (⟨false, true, ⟨[], none⟩⟩ : Call).document = [] ∧
      (⟨false, true, ⟨[], none⟩⟩ : Call).report = utf8 "=== header error ===\nempty input\n" := by
    decide
  have houtput : documents [⟨false, true, ⟨singleBreak, none⟩⟩, ⟨false, true, ⟨[], none⟩⟩] =
      singleBreakDocument := by
    rw [documents_eq_flatMap, List.flatMap_cons, List.flatMap_singleton, hdocument, hempty.1,
      List.append_nil, eq_of_beq hbytes]
  have hdiagnostics : reports [⟨false, true, ⟨singleBreak, none⟩⟩, ⟨false, true, ⟨[], none⟩⟩] =
      utf8 "=== header error ===\nempty input\n" := by
    rw [reports_eq_flatMap, List.flatMap_cons, List.flatMap_singleton, hreport, hempty.2,
      List.nil_append]
  rw [← houtput, ← hdiagnostics]
  exact ha

end AsmXml
