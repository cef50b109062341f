import AsmXml.Proofs.Reading

/-! # Sources put together line by line

What a line does to a reading depends on the line alone (`readLines_cons_cases`). So lines that are
read one after the other are read like the first ones and, unless these stopped the reading, like
the others (`readLines_append`), and where the count of instructions begins shows in the orders and
nowhere else (`readLines_moved`). Parsing a source that goes on behind a line feed therefore is
parsing the source, and parsing what follows as a program of its own (`parse_append`). What this
comes to for whole programs and their lines is `parse_is_linewise`.
-/

namespace AsmXml

open Text

/-! ## Moving orders on -/

/-- The instruction as it is behind `n` others. -/
def Instruction.moved (n : Nat) (i : Instruction) : Instruction :=
  { i with order := i.order + n }

/-- The rejection as it is behind `n` instructions. -/
def Rejection.moved (n : Nat) (r : Rejection) : Rejection :=
  { r with order := r.order + n }

/-- What stopped a reading, as it is behind `n` instructions; a defect has no place. -/
def Halt.moved (n : Nat) : Halt Rejection → Halt Rejection
  | .refused r => .refused (r.moved n)
  | .defect d => .defect d

def Progress.moved (n : Nat) (p : Progress) : Progress :=
  ⟨p.order + n, p.accepted.map (·.moved n), p.stop.map (·.moved n)⟩

theorem Statement.moved_numbered (st : Statement) (order n : Nat) :
    (st.numbered order).moved n = st.numbered (order + n) := by
  simp [Statement.numbered, Instruction.moved]

theorem Halt.moved_located (halt : Halt Fault) (order n : Nat) (line : Bytes) :
    (halt.located order line).moved n = halt.located (order + n) line := by
  cases halt <;> rfl

/-! ## Readings -/

/-- All that a line can do to a reading: nothing, give a statement, or stop it. -/
theorem readLines_cons_cases (text : Bytes) :
    (∀ order lines, readLines order (text :: lines) = readLines order lines) ∨
    (∃ st : Statement, ∀ order lines, readLines order (text :: lines) =
      { readLines (order + 1) lines with
        accepted := st.numbered (order + 1) :: (readLines (order + 1) lines).accepted }) ∨
    ∃ halt : Halt Fault, ∀ order lines, readLines order (text :: lines) =
      ⟨order + 1, [], some (halt.located (order + 1) (trim text))⟩ := by
  by_cases hb : trim text = []
  · exact Or.inl (readLines_blank hb)
  cases hc : (Line.ofText (trim text)).check with
  | ok st => exact Or.inr (Or.inl ⟨st, readLines_of_ok hb hc⟩)
  | error halt => exact Or.inr (Or.inr ⟨halt, readLines_of_error hb hc⟩)

/-- Where the count begins shows in the orders only. -/
theorem readLines_moved (order n : Nat) (lines : List Bytes) :
    readLines (order + n) lines = (readLines order lines).moved n := by
  induction lines generalizing order with
  | nil => rfl
  | cons text lines ih =>
    rcases readLines_cons_cases text with h | ⟨st, h⟩ | ⟨halt, h⟩
    · rw [h, h, ih]
    · rw [h, h, Nat.add_right_comm, ih]
      simp only [Progress.moved, List.map_cons, st.moved_numbered]
    · rw [h, h, Nat.add_right_comm]
      simp only [Progress.moved, List.map_nil, Option.map_some, halt.moved_located]

/-- The reading went on with more lines, unless it had stopped. -/
def Progress.resumed (p : Progress) (more : List Bytes) : Progress :=
  match p.stop with
  | some _ => p
  | none =>
    { readLines p.order more with accepted := p.accepted ++ (readLines p.order more).accepted }

theorem Progress.resumed_cons (p : Progress) (i : Instruction) (more : List Bytes) :
    ({ p with accepted := i :: p.accepted } : Progress).resumed more =
      { p.resumed more with accepted := i :: (p.resumed more).accepted } := by
  obtain ⟨order, accepted, stop⟩ := p
  cases stop <;> rfl

/-- Lines behind others are read when these are through. -/
theorem readLines_append (order : Nat) (lines more : List Bytes) :
    readLines order (lines ++ more) = (readLines order lines).resumed more := by
  induction lines generalizing order with
  | nil => rfl
  | cons text lines ih =>
    rw [List.cons_append]
    rcases readLines_cons_cases text with h | ⟨st, h⟩ | ⟨halt, h⟩
    · rw [h, h, ih]
    · rw [h, h, ih, Progress.resumed_cons]
    · rw [h, h]
      rfl

/-- A reading that is through has counted what it accepted. -/
theorem order_of_stop_eq_none (order : Nat) (lines : List Bytes)
    (h : (readLines order lines).stop = none) :
    (readLines order lines).order = order + (readLines order lines).accepted.length := by
  rcases readLines_cases order lines with ⟨statements, -, hr⟩ | ⟨_, _, _, _, _, _, _, _, hr⟩
  · simp only [hr, numberedFrom, List.length_mapIdx]
  · rw [hr] at h
    cases h

/-! ## Sources -/

/-- What a reading comes to. -/
def Progress.outcome (p : Progress) : Except (Halt Rejection) (List Instruction) :=
  match p.stop with
  | none => .ok p.accepted
  | some halt => .error halt

/-- The outcome of a source in front of which `program` was read: its instructions follow, or its
fault is counted from there. -/
def continued (program : List Instruction) :
    Except (Halt Rejection) (List Instruction) → Except (Halt Rejection) (List Instruction)
  | .ok more => .ok (program ++ more.map (·.moved program.length))
  | .error halt => .error (halt.moved program.length)

theorem parse_eq_outcome {source : Bytes} (h : firstLine source = header) :
    parse source = (readLines 0 (source.splitOn lineFeed).tail).outcome :=
  parse_of_header h

/-- Reading on behind lines that were read gives what the two readings give one after the other: a
failure of the first stays, and the second counts its instructions from where the first ended. -/
theorem outcome_resumed (lines more : List Bytes) :
    ((readLines 0 lines).resumed more).outcome =
      (readLines 0 lines).outcome.bind fun program =>
        continued program (readLines 0 more).outcome := by
  have ho := order_of_stop_eq_none 0 lines
  generalize readLines 0 lines = p at ho
  obtain ⟨order, accepted, stop⟩ := p
  cases stop with
  | some halt => rfl
  | none =>
    -- nothing stopped the reading, so the rest is counted on from all that was accepted
    have he : order = 0 + accepted.length := ho rfl
    subst he
    simp only [Progress.resumed, readLines_moved, Progress.moved]
    cases hs : (readLines 0 more).stop with
    | none => simp only [Progress.outcome, hs, Option.map_none, Except.bind, continued]
    | some halt => simp only [Progress.outcome, hs, Option.map_some, Except.bind, continued]

theorem firstLine_append (s t : Bytes) : firstLine (s ++ lineFeed :: t) = firstLine s := by
  obtain ⟨first, rest, hs⟩ := exists_splitOn_eq_cons s
  unfold firstLine
  rw [List.splitOn_append_cons_self, hs]
  rfl

theorem tail_splitOn_append (s t : Bytes) :
    ((s ++ lineFeed :: t).splitOn lineFeed).tail =
      (s.splitOn lineFeed).tail ++ t.splitOn lineFeed := by
  obtain ⟨first, rest, hs⟩ := exists_splitOn_eq_cons s
  rw [List.splitOn_append_cons_self, hs]
  rfl

theorem firstLine_header : firstLine header = header := by
  decide

/-- Parsing goes on behind a line feed as if the rest were a program of its own. -/
theorem parse_append (s t : Bytes) :
    parse (s ++ lineFeed :: t) =
      (parse s).bind fun program => continued program (parse (header ++ lineFeed :: t)) := by
  have hf := firstLine_append s t
  by_cases hh : firstLine s = header
  · have hh' : firstLine (header ++ lineFeed :: t) = header := by
      rw [firstLine_append, firstLine_header]
    have ht : ((header ++ lineFeed :: t).splitOn lineFeed).tail = t.splitOn lineFeed := by
      rw [tail_splitOn_append]
      rfl
    rw [parse_eq_outcome (hf.trans hh), parse_eq_outcome hh, parse_eq_outcome hh', ht,
      tail_splitOn_append, readLines_append, outcome_resumed]
  · obtain ⟨halt, h⟩ := parse_of_ne_header hh
    rw [h _ rfl, h _ hf]
    rfl

/-! ## Lines -/

/-- The instructions with their places as orders. -/
def inOrder (program : List Instruction) : List Instruction :=
  program.mapIdx fun i instruction => { instruction with order := i + 1 }

theorem inOrder_append (front back : List Instruction) :
    inOrder (front ++ back) = inOrder front ++ (inOrder back).map (·.moved front.length) := by
  unfold inOrder
  rw [List.mapIdx_append]
  congr 1
  apply List.ext_getElem (by simp)
  intro k hk hk'
  simp only [List.getElem_mapIdx, List.getElem_map, Instruction.moved, Int.natCast_add]
  rw [Int.add_right_comm]

theorem inOrder_map_moved (program : List Instruction) (n : Nat) :
    inOrder (program.map (·.moved n)) = inOrder program := by
  unfold inOrder
  apply List.ext_getElem (by simp)
  intro k hk hk'
  simp only [List.getElem_mapIdx, List.getElem_map, Instruction.moved]

/-- A program that was parsed is numbered by places. -/
theorem inOrder_of_parse {source : Bytes} {program : List Instruction}
    (h : parse source = .ok program) : inOrder program = program := by
  by_cases hh : firstLine source = header
  · rcases parse_cases hh with ⟨statements, -, hp⟩ | ⟨_, _, _, _, _, _, _, _, hp⟩
    · rw [hp] at h
      cases h
      apply List.ext_getElem (by simp [inOrder])
      intro k hk hk'
      simp [inOrder, numberedFrom, Statement.numbered]
    · rw [hp] at h
      cases h
  · obtain ⟨halt, hp⟩ := parse_of_ne_header hh
    rw [hp source rfl] at h
    cases h

/-- A source that is refused is refused for the same reason whatever lines follow. -/
theorem parse_lines_of_error {s : Bytes} {halt : Halt Rejection} (h : parse s = .error halt)
    (lines : List Bytes) : parse (s ++ lines.flatMap (lineFeed :: ·)) = .error halt := by
  induction lines generalizing s with
  | nil => rwa [List.flatMap_nil, List.append_nil]
  | cons line lines ih =>
    rw [List.flatMap_cons, ← List.append_assoc]
    apply ih
    rw [parse_append, h]
    rfl

/-- Lines behind a program go on with it exactly if each of them is a program by itself, and then
they add the instructions of each. -/
theorem parse_lines_iff {s : Bytes} {front : List Instruction} (h : parse s = .ok front)
    (lines : List Bytes) (program : List Instruction) :
    parse (s ++ lines.flatMap (lineFeed :: ·)) = .ok program ↔
      ∃ parts, List.Forall₂ (fun line part => parse (header ++ lineFeed :: line) = .ok part)
          lines parts ∧
        program = inOrder (front ++ parts.flatten) := by
  induction lines generalizing s front with
  | nil =>
    have hi : inOrder (front ++ [].flatten) = front := by
      rw [List.flatten_nil, List.append_nil, inOrder_of_parse h]
    rw [List.flatMap_nil, List.append_nil, h, Except.ok.injEq]
    constructor
    · rintro rfl
      exact ⟨[], .nil, hi.symm⟩
    · rintro ⟨_, hparts, rfl⟩
      cases hparts
      exact hi.symm
  | cons line lines ih =>
    have hs := parse_append s line
    rw [h] at hs
    rw [List.flatMap_cons, ← List.append_assoc]
    cases hl : parse (header ++ lineFeed :: line) with
    | error halt =>
      rw [hl] at hs
      rw [parse_lines_of_error hs]
      constructor
      · intro he
        cases he
      · rintro ⟨_, hparts, -⟩
        cases hparts with
        | cons hpart => cases hl.symm.trans hpart
    | ok part =>
      rw [hl] at hs
      have hm (parts : List (List Instruction)) :
          inOrder (front ++ part.map (·.moved front.length) ++ parts.flatten) =
            inOrder (front ++ (part :: parts).flatten) := by
        rw [List.flatten_cons, ← List.append_assoc]
        simp only [inOrder_append, inOrder_map_moved, List.length_append, List.length_map]
      rw [ih hs]
      constructor
      · rintro ⟨parts, hparts, rfl⟩
        exact ⟨part :: parts, .cons hl hparts, hm parts⟩
      · rintro ⟨_, hparts, rfl⟩
        cases hparts with
        | cons hpart hparts =>
          cases hl.symm.trans hpart
          exact ⟨_, hparts, (hm _).symm⟩

/-- **Parsing goes line by line.** A source that is refused is refused for the same reason with
more lines behind it. A program goes on with what follows: with the instructions that the rest has
as a program of its own, or with its fault, and orders are counted on. So what stands in front of a
line feed in a program is a program, whose instructions come first; and lines behind a program go on
with it exactly if each of them is a program by itself, with the instructions that it has by
itself. -/
theorem parse_is_linewise (s t : Bytes) :
    (∀ halt, parse s = .error halt → parse (s ++ lineFeed :: t) = .error halt) ∧
    (∀ program, parse s = .ok program →
      (∀ more, parse (header ++ lineFeed :: t) = .ok more →
        parse (s ++ lineFeed :: t) = .ok (program ++ more.map (·.moved program.length))) ∧
      (∀ halt, parse (header ++ lineFeed :: t) = .error halt →
        parse (s ++ lineFeed :: t) = .error (halt.moved program.length)) ∧
      ∀ lines whole, parse (s ++ lines.flatMap (lineFeed :: ·)) = .ok whole ↔
        ∃ parts, List.Forall₂ (fun line part => parse (header ++ lineFeed :: line) = .ok part)
          lines parts ∧ whole = inOrder (program ++ parts.flatten)) ∧
    ∀ whole, parse (s ++ lineFeed :: t) = .ok whole →
      ∃ program, parse s = .ok program ∧ program <+: whole := by
  have ha := parse_append s t
  refine ⟨fun halt h => ?_,
    fun program h => ⟨fun more hm => ?_, fun halt hm => ?_, parse_lines_iff h⟩, fun whole h => ?_⟩
  · rw [ha, h]
    rfl
  · rw [ha, h, hm]
    rfl
  · rw [ha, h, hm]
    rfl
  · rw [ha] at h
    cases hs : parse s with
    | error halt =>
      rw [hs] at h
      cases h
    | ok program =>
      refine ⟨program, rfl, ?_⟩
      rw [hs] at h
      cases hm : parse (header ++ lineFeed :: t) with
      | error halt =>
        rw [hm] at h
        cases h
      | ok more =>
        rw [hm] at h
        cases h
        exact List.prefix_append ..

/-- A program of one instruction, with a blank line in it. -/
def breakSource : Bytes :=
  utf8 ".IPPcode24\n\r\n break"

theorem parse_is_linewise_break :
    let good : Bytes := utf8 "break\n"
    let bad : Bytes := utf8 "\n end"
    let refusal : Halt Rejection := .refused ⟨2, utf8 "end", .unknownOpcode (utf8 "end")⟩
    parse (breakSource ++ lineFeed :: good) =
        .ok [⟨1, utf8 "BREAK", []⟩, ⟨2, utf8 "BREAK", []⟩] ∧
      parse (breakSource ++ lineFeed :: bad) = .error refusal ∧
      parse (breakSource ++ lineFeed :: bad ++ lineFeed :: good) = .error refusal ∧
      ∃ program, parse breakSource = .ok program ∧
        program <+: [⟨1, utf8 "BREAK", []⟩, ⟨2, utf8 "BREAK", []⟩] := by
  intro good bad refusal
  have hs : parse breakSource = .ok [⟨1, utf8 "BREAK", []⟩] := rfl
  have hg : parse (header ++ lineFeed :: good) = .ok [⟨1, utf8 "BREAK", []⟩] := rfl
  have hb : parse (header ++ lineFeed :: bad) =
      .error (.refused ⟨1, utf8 "end", .unknownOpcode (utf8 "end")⟩) := rfl
  have hgood := ((parse_is_linewise breakSource good).2.1 _ hs).1 _ hg
  have hbad := ((parse_is_linewise breakSource bad).2.1 _ hs).2.1 _ hb
  exact ⟨hgood, hbad, (parse_is_linewise _ good).1 _ hbad,
    (parse_is_linewise breakSource good).2.2 _ hgood⟩

end AsmXml
