import AsmXml.Proofs.Endings
import AsmXml.Proofs.Rejections

/-! # Colour decorates and does nothing else

`deleteSequences` deletes the escape sequences of a text: it drops each one that it meets and keeps
every byte at which none begins (`deleteSequences_append`, `deleteSequences_cons`). A coloured text
decorates a plain one if deletion gives the plain one back whatever follows (`Decorates`), which is a
congruence for all that reports are made of, highlighting included. So two runs that differ in colour
only end alike, and the report of the coloured one decorates that of the other
(`run_true_decorates_run_false`).
-/

namespace AsmXml

open Text

/-- The byte that begins every escape sequence. -/
def escapeByte : UInt8 := 0x1b

/-- An escape sequence: the escape byte, a bracket, digits and an `m`. -/
def IsSequence (text : Bytes) : Prop :=
  ∃ digits, Numeral (utf8 "0123456789") digits ∧ text = utf8 "\x1b[" ++ digits ++ utf8 "m"

/-- What stands behind the sequence that a text begins with. -/
def afterSequence? (text : Bytes) : Option Bytes :=
  (after? (utf8 "\x1b[") text).bind fun rest =>
    if isNumeral 10 (rest.takeWhile (isDigitOf 10)) then
      after? (utf8 "m") (rest.dropWhile (isDigitOf 10))
    else none

/-- The text behind the first `skip` bytes without its escape sequences. -/
def deleteAfter : Nat → Bytes → Bytes
  | _, [] => []
  | skip + 1, _ :: rest => deleteAfter skip rest
  | 0, b :: rest =>
    match afterSequence? (b :: rest) with
    | some behind => deleteAfter (rest.length - behind.length) rest
    | none => b :: deleteAfter 0 rest

/-- A text without its escape sequences. -/
def deleteSequences (text : Bytes) : Bytes :=
  deleteAfter 0 text

/-! ## Deleting sequences -/

/-- A sequence is cut off the front of a text exactly if there is one, and exactly that is. -/
theorem afterSequence?_eq_some_iff {text behind : Bytes} :
    afterSequence? text = some behind ↔ ∃ q, IsSequence q ∧ text = q ++ behind := by
  unfold afterSequence?
  rw [Option.bind_eq_some_iff]
  constructor
  · rintro ⟨rest, hr, h⟩
    split at h
    · next hn =>
      refine ⟨_, ⟨_, (isNumeral_iff isDigitOf_ten).1 hn, rfl⟩, ?_⟩
      have hsplit := rest.takeWhile_append_dropWhile (p := isDigitOf 10)
      rw [after?_eq_some_iff.1 hr, List.append_assoc, List.append_assoc, ← after?_eq_some_iff.1 h,
        hsplit]
    · cases h
  · rintro ⟨_, ⟨digits, hd, rfl⟩, rfl⟩
    have hdigit : ∀ d ∈ digits, isDigitOf 10 d = true := fun d hm => (isDigitOf_ten d).2 (hd.2 d hm)
    have hm : utf8 "m" = [0x6d] := rfl
    have hend : isDigitOf 10 0x6d = false := rfl
    refine ⟨digits ++ utf8 "m" ++ behind, by simp, ?_⟩
    rw [List.append_assoc, List.takeWhile_append_of_pos hdigit, List.dropWhile_append_of_pos hdigit,
      hm, List.singleton_append, List.takeWhile_cons_of_neg (by simp [hend]),
      List.dropWhile_cons_of_neg (by simp [hend]), List.append_nil,
      if_pos ((isNumeral_iff isDigitOf_ten).2 hd), after?_eq_some_iff]
    rfl

theorem deleteAfter_eq (skip : Nat) (text : Bytes) :
    deleteAfter skip text = deleteSequences (text.drop skip) := by
  induction text generalizing skip with
  | nil => cases skip <;> rfl
  | cons b rest ih =>
    cases skip with
    | zero => rfl
    | succ skip => exact ih skip

theorem IsSequence.exists_eq_cons {q : Bytes} (h : IsSequence q) : ∃ tail, q = escapeByte :: tail := by
  obtain ⟨digits, -, rfl⟩ := h
  exact ⟨_, rfl⟩

/-- A sequence in front is deleted. -/
theorem deleteSequences_append {q : Bytes} (h : IsSequence q) (rest : Bytes) :
    deleteSequences (q ++ rest) = deleteSequences rest := by
  obtain ⟨tail, rfl⟩ := h.exists_eq_cons
  have hs : afterSequence? (escapeByte :: (tail ++ rest)) = some rest :=
    afterSequence?_eq_some_iff.2 ⟨_, h, rfl⟩
  rw [List.cons_append, deleteSequences, deleteAfter, hs]
  simp only [deleteAfter_eq, List.length_append, Nat.add_sub_cancel, List.drop_left]

/-- A byte at which no sequence begins is kept. -/
theorem deleteSequences_cons {b : UInt8} {rest : Bytes}
    (h : ∀ q, IsSequence q → ¬ q <+: b :: rest) :
    deleteSequences (b :: rest) = b :: deleteSequences rest := by
  have hs : afterSequence? (b :: rest) = none := by
    apply Option.eq_none_iff_forall_ne_some.2
    intro behind hb
    obtain ⟨q, hq, he⟩ := afterSequence?_eq_some_iff.1 hb
    exact h q hq ⟨behind, he.symm⟩
  rw [deleteSequences, deleteAfter, hs]
  rfl

theorem deleteSequences_append_of_not_mem {text : Bytes} (h : escapeByte ∉ text) (rest : Bytes) :
    deleteSequences (text ++ rest) = text ++ deleteSequences rest := by
  induction text with
  | nil => rfl
  | cons b text ih =>
    obtain ⟨hb, ht⟩ : escapeByte ≠ b ∧ escapeByte ∉ text := by simpa using h
    rw [List.cons_append, deleteSequences_cons, ih ht, List.cons_append]
    intro q hq hp
    obtain ⟨tail, rfl⟩ := hq.exists_eq_cons
    exact hb (List.cons_prefix_cons.1 hp).1

/-! ## Decorated texts -/

/-- Deletion gives the plain text for the coloured one, whatever follows. -/
def Decorates (coloured plain : Bytes) : Prop :=
  ∀ rest, deleteSequences (coloured ++ rest) = plain ++ deleteSequences rest

theorem Decorates.deleteSequences_eq {coloured plain : Bytes} (h : Decorates coloured plain) :
    deleteSequences coloured = plain := by
  have := h []
  rwa [List.append_nil, show deleteSequences [] = [] from rfl, List.append_nil] at this

theorem decorates_self {text : Bytes} (h : escapeByte ∉ text) : Decorates text text :=
  deleteSequences_append_of_not_mem h

theorem Decorates.append {coloured coloured' plain plain' : Bytes} (h : Decorates coloured plain)
    (h' : Decorates coloured' plain') : Decorates (coloured ++ coloured') (plain ++ plain') := by
  intro rest
  rw [List.append_assoc, h, h', List.append_assoc]

theorem isSequence_escapeSequence {code : String} (h : isNumeral 10 (utf8 code) = true) :
    IsSequence (escapeSequence code) :=
  ⟨utf8 code, (isNumeral_iff isDigitOf_ten).1 h, rfl⟩

theorem Style.isSequence (style : Style) : IsSequence style.sequence := by
  cases style <;> exact isSequence_escapeSequence rfl

theorem isSequence_reset : IsSequence resetSequence :=
  isSequence_escapeSequence rfl

theorem Style.decorates_paint (style : Style) {coloured plain : Bytes}
    (h : Decorates coloured plain) :
    Decorates (style.paint true coloured) (style.paint false plain) := by
  intro rest
  have ht : style.paint true coloured = style.sequence ++ coloured ++ resetSequence := rfl
  have hf : style.paint false plain = plain := rfl
  rw [ht, hf, List.append_assoc, List.append_assoc, deleteSequences_append style.isSequence, h,
    deleteSequences_append isSequence_reset]

/-- Whatever the token is, and however often it occurs, the marks come off again. -/
theorem decorates_highlight {text : Bytes} (h : escapeByte ∉ text) (token : Bytes) :
    Decorates (highlight true text token) (highlight false text token) := by
  have hseg : Decorates ((Style.yellow.paint true token).intercalate (segments token text)) text := by
    fun_induction segments token text with
    | case1 => simpa using decorates_self h
    | case2 => simpa using decorates_self h
    | case3 text _ before behind cut ih =>
      rw [List.intercalate_cons_of_ne_nil (segments_ne_nil token behind)]
      rw [← append_of_cutAt? cut] at h ⊢
      simp only [List.mem_append, not_or] at h
      obtain ⟨⟨hb, ht⟩, hr⟩ := h
      have hpaint := Style.yellow.decorates_paint (decorates_self ht)
      exact ((decorates_self hb).append hpaint).append (ih hr)
  have hf : highlight false text token = text := rfl
  rw [hf, highlight]
  split
  · exact hseg
  · exact decorates_self h

/-! ## Reports -/

namespace Site

variable {site : Site} {cause : Bytes}

theorem decorates_diagnostic (hl : escapeByte ∉ site.line) (hc : escapeByte ∉ cause) :
    Decorates (site.diagnostic true cause) (site.diagnostic false cause) := by
  have hcause := Style.red.decorates_paint (decorates_self hc)
  have hnumber : escapeByte ∉ utf8 "instruction " ++ decimal site.order :=
    Printed.not_mem ((printed_of_ascii rfl).append (printed_decimal site.order)) (by decide)
  unfold diagnostic
  split
  · exact hcause
  · refine (((hcause.append (decorates_self (by decide))).append
      (Style.yellow.decorates_paint (decorates_self hnumber))).append
        (decorates_self (by decide))).append ?_
    split
    · exact Style.gray.decorates_paint (decorates_self hl)
    · exact decorates_highlight hl site.token

theorem decorates_report (hl : escapeByte ∉ site.line) (hc : escapeByte ∉ cause) :
    Decorates (site.report true cause) (site.report false cause) := by
  have hkind : escapeByte ∉ utf8 "=== " ++ site.kind.name ++ utf8 " ===" :=
    Printed.not_mem (((printed_of_ascii rfl).append site.kind.printed_name).append
      (printed_of_ascii rfl)) (by decide)
  have hheading := Style.bold.decorates_paint
    (Style.brightRed.decorates_paint (decorates_self hkind))
  exact ((hheading.append (decorates_self (by decide))).append
    (decorates_diagnostic hl hc)).append (decorates_self (by decide))

end Site

theorem decorates_refused {source : Bytes} (hs : escapeByte ∉ source) {r : Rejection}
    (h : parse (prepare (rawLines source)) = .error (.refused r)) :
    Decorates (r.toFailure.report true) (r.toFailure.report false) := by
  rw [report_toFailure, report_toFailure]
  apply Site.decorates_report
  · exact fun hm => hs ((line_isInfix h).subset hm)
  · exact (printed_refused h).not_mem (by decide)

/-! ## Runs -/

/-- **Colour is only decoration.** With colour and without it, a run comes to the same end: the same
failure, log and exit code, and translators that differ in their diagnostics at most. If the source
has no escape byte, then what the coloured run adds to the diagnostics is, without its escape
sequences, what the other one adds. -/
theorem run_true_decorates_run_false (t : Translator) :
    ∃ coloured plain run, t.run true = .ok (coloured, run) ∧ t.run false = .ok (plain, run) ∧
      coloured = { plain with diagnostics := coloured.diagnostics } ∧
      (escapeByte ∉ t.input.pending → ∃ report,
        coloured.diagnostics = t.diagnostics ++ report ∧
        plain.diagnostics = t.diagnostics ++ deleteSequences report) := by
  have nothing (diagnostics : Bytes) : ∃ report, diagnostics = diagnostics ++ report ∧
      diagnostics = diagnostics ++ deleteSequences report :=
    ⟨[], (List.append_nil _).symm, (List.append_nil _).symm⟩
  rcases t.input.cases with ⟨reason, hi⟩ | ⟨hi, ⟨r, hp⟩ | ⟨program, document, hp, -, hg⟩⟩
  · exact ⟨_, _, _, t.run_of_unread true hi, t.run_of_unread false hi, rfl,
      fun _ => nothing t.diagnostics⟩
  · refine ⟨_, _, _, t.run_of_refused true hi hp, t.run_of_refused false hi hp, ?_, fun hs => ?_⟩
    · unfold Translator.reported
      split <;> rfl
    · unfold Translator.reported
      split
      · refine ⟨r.toFailure.report true, rfl, ?_⟩
        rw [(decorates_refused hs hp).deleteSequences_eq]
      · exact nothing t.diagnostics
  · exact ⟨_, _, _, t.run_of_parsed true hi hp hg, t.run_of_parsed false hi hp hg, rfl,
      fun _ => nothing t.diagnostics⟩

/-- The token to blame, `[0m`, looks like the end of an escape sequence. -/
theorem decorated_label :
    escapeByte ∉ utf8 ".IPPcode24\nLABEL [0m" ∧
      ∃ coloured plain run,
        (Translator.ofInput ⟨utf8 ".IPPcode24\nLABEL [0m", none⟩ .accepting true).run true =
          .ok (coloured, run) ∧
        (Translator.ofInput ⟨utf8 ".IPPcode24\nLABEL [0m", none⟩ .accepting true).run false =
          .ok (plain, run) ∧
        plain.diagnostics = deleteSequences coloured.diagnostics := by
  have hs : escapeByte ∉ utf8 ".IPPcode24\nLABEL [0m" := by decide
  obtain ⟨coloured, plain, run, hc, hp, -, hd⟩ := run_true_decorates_run_false
    (Translator.ofInput ⟨utf8 ".IPPcode24\nLABEL [0m", none⟩ .accepting true)
  obtain ⟨report, hr, hr'⟩ := hd hs
  refine ⟨hs, coloured, plain, run, hc, hp, ?_⟩
  rw [hr, hr']
  rfl

end AsmXml
