import AsmXml.Proofs.Reading

/-! # Reading a source again

A reader keeps its count and its instructions from one reading to the next, also after a reading
that failed. What one reading does to an arbitrary reader (`Reader.parse_of_spellAll`,
`Reader.parse_of_first`) says where any number of them leave a new one (`reread_eq`): the count moves
on by the lines that were looked at, the instructions by those that were accepted, and after failures
the two differ. What all this comes to is `readings_repeat`.
-/

namespace AsmXml

open Text

/-- The reader after it has read its source a number of times. -/
def Reader.reread (r : Reader) : Nat → Reader
  | 0 => r
  | k + 1 => (r.reread k).parse.1

/-- The instructions held after a number of readings, each of which adds the statements and moves
the count on by `stride`. -/
def held (stride : Nat) (statements : List Statement) (readings : Nat) : List Instruction :=
  (List.range readings).flatMap fun k => numberedFrom (k * stride) statements

/-! ## One reading -/

/-- Reading stops at the first faulty line and keeps the instructions in front of it. -/
theorem readLines_of_first {lines before after : List Bytes} {line : Bytes}
    (hl : instructionLines lines = before ++ line :: after) {statements : List Statement}
    (hs : SpellAll before statements) {c : Complaint} (hc : Complaint.First (fields line) c)
    (order : Nat) :
    readLines order lines = ⟨order + (before.length + 1), numberedFrom order statements,
      some (.refused ⟨order + (before.length + 1), line, c.fault⟩)⟩ := by
  induction lines generalizing order before statements with
  | nil => simp [instructionLines] at hl
  | cons text lines ih =>
    by_cases hb : trim text = []
    · rw [instructionLines_cons_blank hb] at hl
      rw [readLines_blank hb, ih hl hs]
    rw [instructionLines_cons hb] at hl
    cases hs with
    | nil =>
      obtain ⟨rfl, -⟩ := List.cons.inj hl
      exact readLines_complaint hb hc order lines
    | @cons _ st before statements hst hs =>
      obtain ⟨rfl, hrest⟩ := List.cons.inj hl
      have he : order + 1 + (before.length + 1) = order + (before.length + 1 + 1) := by omega
      rw [readLines_spells hb hst, ih hrest hs, numberedFrom_cons, List.length_cons, he]

section

variable {source : Bytes} (order : Nat) (program : List Instruction)

theorem Reader.parse_of_spellAll (h : firstLine source = header) {statements : List Statement}
    (hs : SpellAll (bodyLines source) statements) :
    (⟨source, order, program⟩ : Reader).parse =
      (⟨source, order + statements.length, program ++ numberedFrom order statements⟩,
        .ok (program ++ numberedFrom order statements)) := by
  unfold Reader.parse
  simp only [checkHeader_of_header h, readLines_of_spellAll hs]

theorem Reader.parse_of_first (h : firstLine source = header) {before after : List Bytes}
    {line : Bytes} (hl : bodyLines source = before ++ line :: after) {statements : List Statement}
    (hs : SpellAll before statements) {c : Complaint} (hc : Complaint.First (fields line) c) :
    (⟨source, order, program⟩ : Reader).parse =
      (⟨source, order + (before.length + 1), program ++ numberedFrom order statements⟩,
        .error (.refused ⟨order + (before.length + 1), line, c.fault⟩)) := by
  unfold Reader.parse
  simp only [checkHeader_of_header h, readLines_of_first hl hs hc]

end

/-! ## Any number of readings -/

theorem held_succ (stride : Nat) (statements : List Statement) (k : Nat) :
    held stride statements (k + 1) =
      held stride statements k ++ numberedFrom (k * stride) statements := by
  unfold held
  rw [List.range_succ, List.flatMap_append, List.flatMap_singleton]

theorem length_numberedFrom (order : Nat) (statements : List Statement) :
    (numberedFrom order statements).length = statements.length := by
  simp [numberedFrom]

theorem length_held (stride : Nat) (statements : List Statement) (k : Nat) :
    (held stride statements k).length = k * statements.length := by
  induction k with
  | zero => simp [held]
  | succ k ih => rw [held_succ, List.length_append, ih, length_numberedFrom, Nat.succ_mul]

/-- An instruction that is held comes from the statement at the same place of one reading, and has
the order that this reading gave it. -/
theorem getElem?_held (stride : Nat) (statements : List Statement) (k i : Nat) :
    (held stride statements k)[i]? =
      if i < k * statements.length then
        statements[i % statements.length]?.map
          (·.numbered (i / statements.length * stride + i % statements.length + 1))
      else none := by
  induction k with
  | zero => simp [held]
  | succ k ih =>
    rw [held_succ, List.getElem?_append, length_held, ih, Nat.succ_mul]
    by_cases hi : i < k * statements.length
    · have hi' : i < k * statements.length + statements.length := by omega
      rw [if_pos hi, if_pos hi, if_pos hi']
    rw [if_neg hi]
    by_cases hi' : i < k * statements.length + statements.length
    · -- the last reading: its first instruction is at `k * statements.length`
      have hd : i / statements.length = k :=
        Nat.div_eq_of_lt_le (by omega) (by rwa [Nat.succ_mul])
      have hm : i % statements.length = i - k * statements.length := by
        rw [Nat.mod_eq_sub_div_mul, hd]
      rw [if_pos hi', hd, hm, numberedFrom, List.getElem?_mapIdx]
    · rw [if_neg hi', List.getElem?_eq_none]
      rw [length_numberedFrom]
      omega

/-- Where readings that all move the count by `stride` and add the same statements leave a reader. -/
theorem reread_eq {source : Bytes} {stride : Nat} {statements : List Statement}
    (h : ∀ order program, (⟨source, order, program⟩ : Reader).parse.1 =
      ⟨source, order + stride, program ++ numberedFrom order statements⟩) (k : Nat) :
    (Reader.ofSource source).reread k = ⟨source, k * stride, held stride statements k⟩ := by
  induction k with
  | zero => simp [Reader.reread, Reader.ofSource, held]
  | succ k ih => rw [Reader.reread, ih, h, held_succ, Nat.succ_mul]

/-- The reading that follows on `k` others. -/
def Reader.reading (source : Bytes) (k : Nat) :
    Reader × Except (Halt Rejection) (List Instruction) :=
  ((Reader.ofSource source).reread k).parse

theorem reading_of_checkHeader {source : Bytes} {fault : Fault}
    (h : checkHeader source = .error fault) (k : Nat) :
    Reader.reading source k = (Reader.ofSource source, .error (.refused ⟨0, [], fault⟩)) := by
  have hp : (Reader.ofSource source).parse =
      (Reader.ofSource source, .error (.refused ⟨0, [], fault⟩)) := by
    have hs : (Reader.ofSource source).source = source := rfl
    unfold Reader.parse
    rw [hs, h]
  have hr : (Reader.ofSource source).reread k = Reader.ofSource source := by
    induction k with
    | zero => rfl
    | succ k ih => rw [Reader.reread, ih, hp]
  unfold Reader.reading
  rw [hr, hp]

theorem reading_of_spellAll {source : Bytes} (h : firstLine source = header)
    {statements : List Statement} (hs : SpellAll (bodyLines source) statements) (k : Nat) :
    Reader.reading source k =
      (⟨source, (k + 1) * statements.length, held statements.length statements (k + 1)⟩,
        .ok (held statements.length statements (k + 1))) := by
  have hp order program := Reader.parse_of_spellAll order program h hs
  unfold Reader.reading
  rw [reread_eq fun order program => congrArg Prod.fst (hp order program), hp, held_succ,
    Nat.succ_mul]

theorem reading_of_first {source : Bytes} (h : firstLine source = header)
    {before after : List Bytes} {line : Bytes} (hl : bodyLines source = before ++ line :: after)
    {statements : List Statement} (hs : SpellAll before statements) {c : Complaint}
    (hc : Complaint.First (fields line) c) (k : Nat) :
    Reader.reading source k =
      (⟨source, (k + 1) * (before.length + 1), held (before.length + 1) statements (k + 1)⟩,
        .error (.refused ⟨(k + 1) * (before.length + 1), line, c.fault⟩)) := by
  have hp order program := Reader.parse_of_first order program h hl hs hc
  unfold Reader.reading
  rw [reread_eq fun order program => congrArg Prod.fst (hp order program), hp, held_succ,
    Nat.succ_mul]

/-- Every source falls under one of three cases, for all its readings at once. -/
theorem reading_cases (source : Bytes) :
    (∃ fault, checkHeader source = .error fault ∧ fault.kind = .header) ∨
    firstLine source = header ∧
      ((∃ statements, SpellAll (bodyLines source) statements) ∨
      ∃ before line after statements c, bodyLines source = before ++ line :: after ∧
        SpellAll before statements ∧ Complaint.First (fields line) c) := by
  have hc := checkHeader_eq source
  split at hc
  · exact Or.inl ⟨_, hc, rfl⟩
  split at hc
  · next hh =>
    refine Or.inr ⟨hh, ?_⟩
    rcases readLines_cases 0 (source.splitOn lineFeed).tail with ⟨statements, hs, -⟩ |
      ⟨before, line, after, statements, c, hl, hs, hc, -⟩
    · exact Or.inl ⟨statements, hs⟩
    · exact Or.inr ⟨before, line, after, statements, c, hl, hs, hc⟩
  · exact Or.inl ⟨_, hc, rfl⟩

/-! ## The law -/

/-- What reading a source again and again gives. The readings are counted from zero. -/
inductive Repeats (source : Bytes)
    (readings : Nat → Reader × Except (Halt Rejection) (List Instruction)) : Prop
  /-- The header is wrong: nothing is read, ever. -/
  | header {fault : Fault} (hc : checkHeader source = .error fault) (hk : fault.kind = .header)
      (hr : ∀ k, readings k = (Reader.ofSource source, .error (.refused ⟨0, [], fault⟩)))
  /-- All lines spell statements: each reading adds all of them. -/
  | program {statements : List Statement} (hh : firstLine source = header)
      (hs : SpellAll (bodyLines source) statements)
      (hr : ∀ k, ∃ program, (readings k).2 = .ok program ∧
        program.length = (k + 1) * statements.length ∧
        ∀ i < program.length,
          program[i]? = statements[i % statements.length]?.map (·.numbered (i + 1)))
  /-- A line has a complaint: each reading adds the statements before it and counts the line. -/
  | fault {before after : List Bytes} {line : Bytes} {statements : List Statement} {c : Complaint}
      (hh : firstLine source = header) (hl : bodyLines source = before ++ line :: after)
      (hs : SpellAll before statements) (hc : Complaint.First (fields line) c)
      (hr : ∀ k,
        (readings k).2 = .error (.refused ⟨(k + 1) * (before.length + 1), line, c.fault⟩) ∧
        (readings k).1.program.length = (k + 1) * before.length)

/-- **Readings of one source follow one law.** What decides between success and failure is the
source alone; a reading that succeeds numbers all that is held from one on, and one that fails gives
the same fault of the same line, with an order that counts the line once for each reading. -/
theorem readings_repeat (source : Bytes) :
    Repeats source (Reader.reading source) ∧
      ∀ k, (Reader.reading source k).2.isOk = (Reader.reading source 0).2.isOk := by
  rcases reading_cases source with ⟨fault, hc, hk⟩ |
    ⟨hh, ⟨statements, hs⟩ | ⟨before, line, after, statements, c, hl, hs, hc⟩⟩
  · have hr := reading_of_checkHeader hc
    exact ⟨.header hc hk hr, fun k => by rw [hr, hr]⟩
  · have hr := reading_of_spellAll hh hs
    refine ⟨.program hh hs fun k => ⟨_, congrArg Prod.snd (hr k), length_held _ _ _, ?_⟩,
      fun k => by rw [hr, hr]; rfl⟩
    intro i hi
    rw [length_held] at hi
    rw [getElem?_held, if_pos hi, Nat.div_add_mod']
  · have hr := reading_of_first hh hl hs hc
    refine ⟨.fault hh hl hs hc fun k => ⟨congrArg Prod.snd (hr k), ?_⟩,
      fun k => by rw [hr, hr]; rfl⟩
    rw [hr, length_held, hs.length_eq]

end AsmXml
