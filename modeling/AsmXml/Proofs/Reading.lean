import AsmXml.Proofs.LineCheck
import AsmXml.Proofs.Text.Blank
import AsmXml.Reader

/-! # Reading lines

One reading goes through the instruction lines, the trimmed lines that are not blank, and numbers
the statements that they spell until a line has a complaint (`readLines_cases`). Everything about
readings of a whole source follows from this one statement.
-/

namespace AsmXml

open Text

/-- The lines that are instructions or meant to be: trimmed, and without those that are blank. -/
def instructionLines (lines : List Bytes) : List Bytes :=
  (lines.map trim).filter (!·.isEmpty)

/-- Statements as the instructions that come after `order` others. -/
def numberedFrom (order : Nat) (statements : List Statement) : List Instruction :=
  statements.mapIdx fun i st => st.numbered (order + i + 1)

/-- The lines spell the statements, one after the other. -/
def SpellAll (lines : List Bytes) (statements : List Statement) : Prop :=
  List.Forall₂ (fun line st => Spells (fields line) st) lines statements

theorem numberedFrom_cons (order : Nat) (st : Statement) (rest : List Statement) :
    numberedFrom order (st :: rest) =
      st.numbered (order + 1) :: numberedFrom (order + 1) rest := by
  unfold numberedFrom
  rw [List.mapIdx_cons]
  simp only [Nat.add_zero, Nat.add_right_comm order, Nat.add_assoc, Nat.add_comm 1]

theorem instructionLines_cons_blank {text : Bytes} (h : trim text = []) (lines : List Bytes) :
    instructionLines (text :: lines) = instructionLines lines := by
  simp [instructionLines, h]

theorem instructionLines_cons {text : Bytes} (h : trim text ≠ []) (lines : List Bytes) :
    instructionLines (text :: lines) = trim text :: instructionLines lines := by
  simp [instructionLines, h]

theorem readLines_blank {text : Bytes} (h : trim text = []) (order : Nat) (lines : List Bytes) :
    readLines order (text :: lines) = readLines order lines := by
  rw [readLines, h]
  rfl

/-- A line that is not blank has a first field. -/
theorem exists_fields_eq_cons {text : Bytes} (h : trim text ≠ []) :
    ∃ first tokens, fields (trim text) = first :: tokens := by
  rw [fields_trim]
  exact List.exists_cons_of_ne_nil (mt trim_eq_nil_iff.2 h)

theorem isEmpty_fields_ofText {text : Bytes} (h : trim text ≠ []) :
    (Line.ofText (trim text)).fields.isEmpty = false := by
  obtain ⟨first, tokens, hf⟩ := exists_fields_eq_cons h
  simp [Line.ofText, hf]

theorem readLines_of_ok {text : Bytes} (h : trim text ≠ []) {st : Statement}
    (hc : (Line.ofText (trim text)).check = .ok st) (order : Nat) (lines : List Bytes) :
    readLines order (text :: lines) =
      { readLines (order + 1) lines with
        accepted := st.numbered (order + 1) :: (readLines (order + 1) lines).accepted } := by
  rw [readLines]
  simp only [isEmpty_fields_ofText h, hc, Bool.false_eq_true, if_false]

theorem readLines_of_error {text : Bytes} (h : trim text ≠ []) {halt : Halt Fault}
    (hc : (Line.ofText (trim text)).check = .error halt) (order : Nat) (lines : List Bytes) :
    readLines order (text :: lines) =
      ⟨order + 1, [], some (halt.located (order + 1) (trim text))⟩ := by
  have ht : (Line.ofText (trim text)).text = trim text := rfl
  rw [readLines]
  simp only [isEmpty_fields_ofText h, hc, ht, Bool.false_eq_true, if_false]

theorem readLines_spells {text : Bytes} (h : trim text ≠ []) {st : Statement}
    (hst : Spells (fields (trim text)) st) (order : Nat) (lines : List Bytes) :
    readLines order (text :: lines) =
      { readLines (order + 1) lines with
        accepted := st.numbered (order + 1) :: (readLines (order + 1) lines).accepted } := by
  obtain ⟨first, tokens, hf⟩ := exists_fields_eq_cons h
  rw [hf] at hst
  apply readLines_of_ok h
  unfold Line.ofText
  rw [hf]
  exact Line.check_of_spells hst

theorem readLines_complaint {text : Bytes} (h : trim text ≠ []) {c : Complaint}
    (hc : Complaint.First (fields (trim text)) c) (order : Nat) (lines : List Bytes) :
    readLines order (text :: lines) =
      ⟨order + 1, [], some (.refused ⟨order + 1, trim text, c.fault⟩)⟩ := by
  obtain ⟨first, tokens, hf⟩ := exists_fields_eq_cons h
  rw [hf] at hc
  have he : (Line.ofText (trim text)).check = .error (.refused c.fault) := by
    unfold Line.ofText
    rw [hf]
    exact Line.check_of_first hc
  exact readLines_of_error h he order lines

/-- A reading sees the instruction lines and nothing else. -/
theorem readLines_instructionLines (order : Nat) (lines : List Bytes) :
    readLines order (instructionLines lines) = readLines order lines := by
  induction lines generalizing order with
  | nil => rfl
  | cons text lines ih =>
    by_cases hb : trim text = []
    · rw [instructionLines_cons_blank hb, readLines_blank hb, ih]
    · rw [instructionLines_cons hb, readLines, readLines, trim_trim]
      simp only [ih]

/-- A reading numbers the statements that the instruction lines spell. -/
theorem readLines_of_spellAll {lines : List Bytes} {statements : List Statement}
    (h : SpellAll (instructionLines lines) statements) (order : Nat) :
    readLines order lines = ⟨order + statements.length, numberedFrom order statements, none⟩ := by
  induction lines generalizing order statements with
  | nil =>
    cases h
    rfl
  | cons text lines ih =>
    by_cases hb : trim text = []
    · rw [instructionLines_cons_blank hb] at h
      rw [readLines_blank hb, ih h]
    · rw [instructionLines_cons hb] at h
      cases h with
      | @cons _ st _ statements hst hs =>
        rw [readLines_spells hb hst, ih hs, numberedFrom_cons, List.length_cons]
        simp only [Progress.mk.injEq, and_true]
        omega

/-- A reading numbers the statements of all instruction lines, or stops at the first line with a
complaint, whose order it has counted already. -/
theorem readLines_cases (order : Nat) (lines : List Bytes) :
    (∃ statements, SpellAll (instructionLines lines) statements ∧
      readLines order lines =
        ⟨order + statements.length, numberedFrom order statements, none⟩) ∨
    ∃ before line after statements c, instructionLines lines = before ++ line :: after ∧
      SpellAll before statements ∧ Complaint.First (fields line) c ∧
      readLines order lines = ⟨order + before.length + 1, numberedFrom order statements,
        some (.refused ⟨order + before.length + 1, line, c.fault⟩)⟩ := by
  induction lines generalizing order with
  | nil => exact Or.inl ⟨[], .nil, rfl⟩
  | cons text lines ih =>
    by_cases hb : trim text = []
    · rw [instructionLines_cons_blank hb, readLines_blank hb]
      exact ih order
    rw [instructionLines_cons hb]
    obtain ⟨first, tokens, hf⟩ := exists_fields_eq_cons hb
    have hj := spells_or_first_complaint first tokens
    rw [← hf] at hj
    rcases hj with ⟨st, hst⟩ | ⟨c, hc⟩
    · rw [readLines_spells hb hst]
      rcases ih (order + 1) with ⟨statements, hs, hr⟩ |
        ⟨before, line, after, statements, c, hl, hs, hc, hr⟩
      · refine Or.inl ⟨st :: statements, .cons hst hs, ?_⟩
        rw [hr, numberedFrom_cons, List.length_cons]
        simp only [Progress.mk.injEq, and_true]
        omega
      · refine Or.inr
          ⟨trim text :: before, line, after, st :: statements, c, ?_, .cons hst hs, hc, ?_⟩
        · rw [hl, List.cons_append]
        · rw [hr, numberedFrom_cons, List.length_cons]
          have he : order + 1 + before.length + 1 = order + (before.length + 1) + 1 := by omega
          simp only [he]
    · refine Or.inr ⟨[], trim text, instructionLines lines, [], c, rfl, .nil, hc, ?_⟩
      rw [readLines_complaint hb hc]
      rfl

/-! ## Whole sources -/

/-- The first line of a source, trimmed. -/
def firstLine (source : Bytes) : Bytes :=
  trim ((source.splitOn lineFeed).headD [])

/-- The instruction lines behind the first line of a source. -/
def bodyLines (source : Bytes) : List Bytes :=
  instructionLines (source.splitOn lineFeed).tail

theorem exists_splitOn_eq_cons (source : Bytes) :
    ∃ first rest, source.splitOn lineFeed = first :: rest :=
  List.exists_cons_of_ne_nil (List.splitOn_ne_nil lineFeed source)

theorem checkHeader_eq (source : Bytes) :
    checkHeader source =
      if firstLine source = [] then .error .emptyInput
      else if firstLine source = header then .ok (source.splitOn lineFeed).tail
      else .error (.badHeader (firstLine source)) := by
  unfold checkHeader firstLine
  simp only [List.isEmpty_iff, beq_iff_eq]

theorem checkHeader_of_header {source : Bytes} (h : firstLine source = header) :
    checkHeader source = .ok (source.splitOn lineFeed).tail := by
  rw [checkHeader_eq, h]
  rfl

theorem parse_of_header {source : Bytes} (h : firstLine source = header) :
    parse source =
      match (readLines 0 (source.splitOn lineFeed).tail).stop with
      | none => .ok (readLines 0 (source.splitOn lineFeed).tail).accepted
      | some halt => .error halt := by
  unfold parse Reader.parse
  have hs : (Reader.ofSource source).source = source := rfl
  rw [hs, checkHeader_of_header h]
  rfl

theorem parse_of_checkHeader {source : Bytes} {fault : Fault}
    (h : checkHeader source = .error fault) : parse source = .error (.refused ⟨0, [], fault⟩) := by
  unfold parse Reader.parse
  have hs : (Reader.ofSource source).source = source := rfl
  rw [hs, h]

theorem parse_of_blank {source : Bytes} (h : firstLine source = []) :
    parse source = .error (.refused ⟨0, [], .emptyInput⟩) :=
  parse_of_checkHeader (by rw [checkHeader_eq, if_pos h])

theorem parse_of_badHeader {source : Bytes} (hne : firstLine source ≠ [])
    (h : firstLine source ≠ header) :
    parse source = .error (.refused ⟨0, [], .badHeader (firstLine source)⟩) :=
  parse_of_checkHeader (by rw [checkHeader_eq, if_neg hne, if_neg h])

/-- A source with a wrong first line is refused for that line, whatever else it holds. -/
theorem parse_of_ne_header {source : Bytes} (h : firstLine source ≠ header) :
    ∃ halt, ∀ source', firstLine source' = firstLine source → parse source' = .error halt := by
  by_cases hb : firstLine source = []
  · exact ⟨_, fun source' he => parse_of_blank (he.trans hb)⟩
  · refine ⟨.refused ⟨0, [], .badHeader (firstLine source)⟩, fun source' he => ?_⟩
    rw [← he] at h hb ⊢
    exact parse_of_badHeader hb h

/-- Parsing sees the first line and the instruction lines of a source and nothing else. -/
theorem parse_congr {source source' : Bytes} (hf : firstLine source = firstLine source')
    (hb : bodyLines source = bodyLines source') : parse source = parse source' := by
  by_cases hh : firstLine source' = header
  · rw [parse_of_header (hf.trans hh), parse_of_header hh,
      ← readLines_instructionLines 0 (source.splitOn lineFeed).tail,
      ← readLines_instructionLines 0 (source'.splitOn lineFeed).tail]
    unfold bodyLines at hb
    rw [hb]
  · obtain ⟨halt, h⟩ := parse_of_ne_header hh
    rw [h _ hf, h _ rfl]

theorem parse_of_spellAll {source : Bytes} {statements : List Statement}
    (hh : firstLine source = header) (h : SpellAll (bodyLines source) statements) :
    parse source = .ok (numberedFrom 0 statements) := by
  rw [parse_of_header hh, readLines_of_spellAll h]

theorem parse_cases {source : Bytes} (h : firstLine source = header) :
    (∃ statements, SpellAll (bodyLines source) statements ∧
      parse source = .ok (numberedFrom 0 statements)) ∨
    ∃ before line after statements c, bodyLines source = before ++ line :: after ∧
      SpellAll before statements ∧ Complaint.First (fields line) c ∧
      parse source = .error (.refused ⟨before.length + 1, line, c.fault⟩) := by
  rw [parse_of_header h]
  rcases readLines_cases 0 (source.splitOn lineFeed).tail with ⟨statements, hs, hr⟩ |
    ⟨before, line, after, statements, c, hl, hs, hc, hr⟩
  · exact Or.inl ⟨statements, hs, by rw [hr]⟩
  · exact Or.inr ⟨before, line, after, statements, c, hl, hs, hc, by rw [hr, Nat.zero_add]⟩

end AsmXml
