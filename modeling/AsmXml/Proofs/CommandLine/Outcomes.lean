import AsmXml.CommandLine.Execute
import AsmXml.Proofs.CommandLine.Arguments
import AsmXml.Proofs.Endings

/-! # What a command line comes to

The arguments alone ask for exactly one of three things: to translate, to show the help text, or to
be told what is wrong with them (`Asks`). Only the first reads the input, and then the program shows
what the translator does; the other two leave the input as it was (`execute_outcome`).
-/

namespace AsmXml.CommandLine

open Text

/-- What the arguments ask for. They ask to translate if they are flags, possibly with a separator
at the end, and the last value set is not true; and for help if that value is true, whatever is
positional. The first wrong argument is refused, and so is the first positional one without help. -/
inductive Asks (arguments : List Bytes) : Action → Prop
  | translate {flags : List Bytes} {values : List (Option Bool)}
      (hf : List.Forall₂ Flag flags values)
      (ha : arguments = flags ∨ arguments = flags ++ [utf8 "--"])
      (hl : lastSetting values ≠ some true) : Asks arguments .translate
  | help {values : List (Option Bool)} {positional : List Bytes}
      (hr : Reads arguments values positional) (hl : lastSetting values = some true) :
      Asks arguments .help
  | wrong {misuse : Misuse} (h : FirstWrong arguments misuse) : Asks arguments (.refuse misuse)
  | positional {values : List (Option Bool)} {name : Bytes} {others : List Bytes}
      (hr : Reads arguments values (name :: others)) (hl : lastSetting values ≠ some true) :
      Asks arguments (.refuse (.unknownCommand name))

/-- The whole help text. -/
def helpText : Bytes :=
  about ++ utf8 "\n\n" ++ usage

/-- What the program shows for an action. A translation shows what the translator does on the same
streams; the other actions do not touch the input. -/
inductive Outcome (colour : Bool) (t : Translator) : Action → Result → Prop
  | translate {t' : Translator} {run : Run} (hr : t.run colour = .ok (t', run)) :
      Outcome colour t .translate
        ⟨run.exitCode, t'.output, t'.diagnostics, t'.input,
          run.log ++ (run.failure.map noteFailure).toList⟩
  | help {stdout stderr : Bytes} (hs : t.sink = .accepting → stdout = helpText ∧ stderr = []) :
      Outcome colour t .help ⟨0, stdout, stderr, t.input, []⟩
  | refuse (misuse : Misuse) :
      Outcome colour t (.refuse misuse)
        ⟨2, [], utf8 "Error: " ++ misuse.message ++ utf8 "\n" ++ usage, t.input, []⟩

/-! ## Actions -/

theorem getD_eq_false {setting : Option Bool} (h : setting ≠ some true) :
    setting.getD false = false := by
  cases setting with
  | none => rfl
  | some value => simpa using h

theorem Asks.action_eq {arguments : List Bytes} {a : Action} (h : Asks arguments a) :
    action arguments = a := by
  unfold action
  cases h with
  | translate hf ha hl =>
    rw [scan_of_reads (reads_nil_iff.2 ⟨_, hf, ha⟩), getD_eq_false hl]
  | help hr hl =>
    rw [scan_of_reads hr, hl]
    rfl
  | wrong h => rw [scan_of_firstWrong h]
  | positional hr hl => rw [scan_of_reads hr, getD_eq_false hl]

theorem exists_asks (arguments : List Bytes) : ∃ a, Asks arguments a := by
  rcases reads_or_firstWrong arguments with ⟨values, positional, hr⟩ | ⟨misuse, hw⟩
  · by_cases hl : lastSetting values = some true
    · exact ⟨.help, .help hr hl⟩
    · cases positional with
      | nil =>
        obtain ⟨flags, hf, ha⟩ := reads_nil_iff.1 hr
        exact ⟨.translate, .translate hf ha hl⟩
      | cons name others => exact ⟨_, .positional hr hl⟩
  · exact ⟨_, .wrong hw⟩

/-! ## Runs -/

theorem writeAll_accepting (pieces : List Bytes) :
    Sink.accepting.writeAll pieces = (pieces.flatten, none) := by
  induction pieces with
  | nil => rfl
  | cons piece rest ih =>
    unfold Sink.writeAll
    rw [ih]
    rfl

theorem execute_of_action (colour : Bool) {arguments : List Bytes} {a : Action}
    (h : action arguments = a) (t : Translator) :
    ∃ result, execute colour arguments t = .ok result ∧ Outcome colour t a result := by
  unfold execute
  rw [h]
  cases a with
  | translate =>
    obtain ⟨t', run, hr⟩ := t.exists_run colour
    refine ⟨_, ?_, .translate hr⟩
    simp only [hr]
    rfl
  | help =>
    refine ⟨⟨0, (t.sink.writeAll helpPieces).1,
      (t.sink.writeAll helpPieces).2.elim [] (· ++ utf8 "\n"), t.input, []⟩, rfl,
      .help fun hs => ?_⟩
    have hw : t.sink.writeAll helpPieces = (helpText, none) := by
      rw [hs, writeAll_accepting]
      simp [helpPieces, helpText]
    rw [hw]
    exact ⟨rfl, rfl⟩
  | refuse misuse => exact ⟨_, rfl, .refuse misuse⟩

/-- **A command line has one of three outcomes, and its arguments decide which.** They ask for
exactly one action, whatever the streams are, and the program shows the outcome of that action. -/
theorem execute_outcome (colour : Bool) (arguments : List Bytes) (t : Translator) :
    (∃! a, Asks arguments a) ∧
    ∃ a result, Asks arguments a ∧ execute colour arguments t = .ok result ∧
      Outcome colour t a result := by
  obtain ⟨a, ha⟩ := exists_asks arguments
  obtain ⟨result, he, ho⟩ := execute_of_action colour ha.action_eq t
  exact ⟨⟨a, ha, fun b hb => hb.action_eq.symm.trans ha.action_eq⟩, a, result, ha, he, ho⟩

/-! ## Options of a test runner -/

/-- An argument that sets the flag for help begins with two hyphens, or with the letter for help
behind one. -/
theorem HelpArgument.second {argument : Bytes} {value : Bool} (h : HelpArgument argument value) :
    argument[1]? = some hyphen ∨ argument[1]? = some helpLetter := by
  cases h with
  | long => exact Or.inl rfl
  | longValue => exact Or.inl rfl
  | letters => exact Or.inr rfl
  | lettersValue => exact Or.inr rfl

/-- Arguments that set the flag for help are not all that a translation can be asked for with: the
option of a test runner is none of them, and it is passed over. -/
theorem execute_runner_option :
    (¬ ∃ flags values, List.Forall₂ HelpArgument flags values ∧
      ([utf8 "-test.v"] = flags ∨ [utf8 "-test.v"] = flags ++ [utf8 "--"])) ∧
    ∃ log, execute false [utf8 "-test.v"]
        (.ofInput ⟨utf8 ".IPPcode24\n", none⟩ .accepting true) =
      .ok ⟨0, (⟨[]⟩ : Document).render, [], ⟨[], none⟩, log⟩ := by
  refine ⟨?_, _, rfl⟩
  rintro ⟨flags, values, hf, ha | ha⟩
  · subst ha
    cases hf with
    | cons h _ => exact absurd h.second (by decide)
  · have hm : utf8 "--" ∈ [utf8 "-test.v"] := by simp [ha]
    exact absurd hm (by decide)

end AsmXml.CommandLine
