import AsmXml.Proofs.Source
import Mathlib.Logic.Relation

/-! # Rows

The rows of a source are the fields of its lines, without comments and without the lines that have
no field (`rows`). They are what a source says apart from its layout: editing the layout changes no
row (`rows_of_relaid`).
-/

namespace AsmXml

open Text

/-- The fields of a line in front of its comment. -/
def row (line : Bytes) : List Bytes :=
  fields (line.takeWhile (· != numberSign))

/-- The rows of a source, one for each piece between line feeds that has a field. -/
def rows (source : Bytes) : List (List Bytes) :=
  ((source.splitOn lineFeed).map row).filter (!·.isEmpty)

/-! ## Rows and lines -/

theorem fields_content (line : Bytes) : fields (content line) = row line :=
  fields_trim _

theorem content_eq_nil_iff {line : Bytes} : content line = [] ↔ row line = [] :=
  trim_eq_nil_iff

theorem map_fields_contents (lines : List Bytes) :
    (contents lines).map fields = (lines.map row).filter (!·.isEmpty) := by
  unfold contents
  induction lines with
  | nil => rfl
  | cons line lines ih =>
    rw [List.map_cons, List.map_cons]
    by_cases h : row line = []
    · rw [List.filter_cons_of_neg (by simp [content_eq_nil_iff, h]),
        List.filter_cons_of_neg (by simp [h]), ih]
    · rw [List.filter_cons_of_pos (by simp [content_eq_nil_iff, h]),
        List.filter_cons_of_pos (by simp [h]), List.map_cons, fields_content, ih]

theorem rows_eq (source : Bytes) : rows source = (sourceLines source).map fields :=
  (map_fields_contents _).symm

/-! ## One line -/

/-- Nothing but blanks, on one line. -/
structure Blanks (text : Bytes) : Prop where
  blank : ∀ g ∈ decode text, g.isBlank = true
  lineFeed_not_mem : lineFeed ∉ text

theorem numberSign_not_mem_of_blank {text : Bytes} (h : ∀ g ∈ decode text, g.isBlank = true) :
    numberSign ∉ text := by
  intro hm
  have hb := h _ (mem_decode_of_mem (by decide) hm)
  exact absurd hb (by decide)

theorem Blanks.numberSign_not_mem {text : Bytes} (h : Blanks text) : numberSign ∉ text :=
  numberSign_not_mem_of_blank h.blank

theorem row_of_comment {line : Bytes} (h : numberSign ∈ line) (rest : Bytes) :
    row (line ++ rest) = row line := by
  unfold row
  rw [List.takeWhile_append, if_neg]
  intro hl
  rw [← (List.takeWhile_prefix _).eq_of_length hl] at h
  simpa using List.mem_takeWhile_imp h

theorem takeWhile_of_no_comment {line : Bytes} (h : numberSign ∉ line) (rest : Bytes) :
    (line ++ rest).takeWhile (· != numberSign) = line ++ rest.takeWhile (· != numberSign) := by
  apply List.takeWhile_append_of_pos
  intro b hb
  simpa using fun he : b = numberSign => h (he ▸ hb)

theorem row_of_no_comment {line : Bytes} (h : numberSign ∉ line) : row line = fields line := by
  have ht := takeWhile_of_no_comment h []
  rw [List.append_nil, List.takeWhile_nil, List.append_nil] at ht
  unfold row
  rw [ht]

theorem row_comment (line text : Bytes) : row (line ++ numberSign :: text) = row line := by
  by_cases h : numberSign ∈ line
  · exact row_of_comment h _
  · rw [row_of_no_comment h]
    unfold row
    rw [takeWhile_of_no_comment h, List.takeWhile_cons_of_neg (by simp), List.append_nil]

/-- Blanks separate the fields before them from those behind them, unless they stand in a
comment. -/
theorem row_append_blanks {blanks : Bytes} (h : Blanks blanks) (hne : blanks ≠ [])
    (front back : Bytes) :
    row (front ++ (blanks ++ back)) =
      if numberSign ∈ front then row front else row front ++ row back := by
  split
  · next hc => exact row_of_comment hc _
  · next hc =>
    rw [row_of_no_comment hc]
    unfold row
    rw [takeWhile_of_no_comment hc, takeWhile_of_no_comment h.numberSign_not_mem,
      fields_append_blanks h.blank hne]

theorem row_nil : row [] = [] := rfl

theorem row_blanks_append {blanks : Bytes} (h : Blanks blanks) (line : Bytes) :
    row (blanks ++ line) = row line := by
  by_cases hne : blanks = []
  · rw [hne, List.nil_append]
  · have hr := row_append_blanks h hne [] line
    rwa [if_neg (List.not_mem_nil), row_nil, List.nil_append, List.nil_append] at hr

theorem row_append_blanks_end {blanks : Bytes} (h : Blanks blanks) (line : Bytes) :
    row (line ++ blanks) = row line := by
  by_cases hne : blanks = []
  · rw [hne, List.append_nil]
  · have hr := row_append_blanks h hne line []
    rwa [row_nil, List.append_nil, List.append_nil, ite_self] at hr

/-! ## Lines of a source -/

theorem rows_append_lineFeed (xs ys : Bytes) :
    rows (xs ++ lineFeed :: ys) = rows xs ++ rows ys := by
  unfold rows
  rw [List.splitOn_append_cons_self, List.map_append, List.filter_append]

theorem rows_of_line {line line' : Bytes} (h : lineFeed ∉ line) (h' : lineFeed ∉ line')
    (hr : row line = row line') : rows line = rows line' := by
  unfold rows
  rw [List.splitOn_eq_singleton h, List.splitOn_eq_singleton h', List.map_singleton,
    List.map_singleton, hr]

/-- The text ends where a line begins. -/
def BeginsLine (front : Bytes) : Prop :=
  front = [] ∨ ∃ before, front = before ++ [lineFeed]

/-- The text begins where a line ends. -/
def EndsLine (back : Bytes) : Prop :=
  back = [] ∨ ∃ after, back = lineFeed :: after

theorem BeginsLine.exists_rows {front : Bytes} (h : BeginsLine front) :
    ∃ before, ∀ rest, rows (front ++ rest) = before ++ rows rest := by
  rcases h with rfl | ⟨before, rfl⟩
  · exact ⟨[], fun rest => rfl⟩
  · refine ⟨rows before, fun rest => ?_⟩
    rw [List.append_assoc, List.singleton_append, rows_append_lineFeed]

theorem EndsLine.exists_rows {back : Bytes} (h : EndsLine back) :
    ∃ after, ∀ front, rows (front ++ back) = rows front ++ after := by
  rcases h with rfl | ⟨after, rfl⟩
  · exact ⟨[], fun front => by rw [List.append_nil, List.append_nil]⟩
  · exact ⟨rows after, fun front => rows_append_lineFeed front after⟩

/-- A text is lines that are complete and the beginning of one more line. -/
theorem exists_last_line (front : Bytes) : ∃ before line, lineFeed ∉ line ∧
    ∀ rest, rows (front ++ rest) = before ++ rows (line ++ rest) := by
  induction hn : front.length using Nat.strongRecOn generalizing front with
  | ind n ih =>
    by_cases hm : lineFeed ∈ front
    · obtain ⟨xs, ys, rfl⟩ := List.append_of_mem hm
      have hlt : ys.length < n := by
        rw [← hn, List.length_append, List.length_cons]
        omega
      obtain ⟨before, line, hl, hr⟩ := ih ys.length hlt ys rfl
      refine ⟨rows xs ++ before, line, hl, fun rest => ?_⟩
      rw [List.append_assoc, List.cons_append, rows_append_lineFeed, hr, List.append_assoc]
    · exact ⟨[], front, hm, fun rest => rfl⟩

/-- A text is the rest of a line and lines behind it. -/
theorem exists_first_line (back : Bytes) : ∃ line after, lineFeed ∉ line ∧
    ∀ front, rows (front ++ back) = rows (front ++ line) ++ after := by
  induction hn : back.length using Nat.strongRecOn generalizing back with
  | ind n ih =>
    by_cases hm : lineFeed ∈ back
    · obtain ⟨xs, ys, rfl⟩ := List.append_of_mem hm
      have hlt : xs.length < n := by
        rw [← hn, List.length_append, List.length_cons]
        omega
      obtain ⟨line, after, hl, hr⟩ := ih xs.length hlt xs rfl
      refine ⟨line, after ++ rows ys, hl, fun front => ?_⟩
      rw [← List.append_assoc, rows_append_lineFeed, hr, List.append_assoc]
    · exact ⟨back, [], hm, fun front => (List.append_nil _).symm⟩

/-! ## Editing the layout -/

/-- One edit of the layout: a comment, a blank line above or below another, a carriage return before
a line feed or blanks at either end of a line are put into a source, or blanks take the place of
other blanks. -/
inductive Relaid : Bytes → Bytes → Prop
  | comment {front text back : Bytes} (ht : lineFeed ∉ text) (hb : EndsLine back) :
      Relaid (front ++ back) (front ++ (numberSign :: text ++ back))
  | lineAbove {front blanks back : Bytes} (hs : Blanks blanks) (hf : BeginsLine front) :
      Relaid (front ++ back) (front ++ (blanks ++ lineFeed :: back))
  | lineBelow {front blanks back : Bytes} (hs : Blanks blanks) (hb : EndsLine back) :
      Relaid (front ++ back) (front ++ lineFeed :: (blanks ++ back))
  | carriageReturn {front back : Bytes} :
      Relaid (front ++ lineFeed :: back) (front ++ 0x0d :: lineFeed :: back)
  | leading {front blanks back : Bytes} (hs : Blanks blanks) (hf : BeginsLine front) :
      Relaid (front ++ back) (front ++ (blanks ++ back))
  | trailing {front blanks back : Bytes} (hs : Blanks blanks) (hb : EndsLine back) :
      Relaid (front ++ back) (front ++ (blanks ++ back))
  | inner {front blanks blanks' back : Bytes} (hs : Blanks blanks) (hs' : Blanks blanks')
      (hne : blanks ≠ []) (hne' : blanks' ≠ []) :
      Relaid (front ++ (blanks ++ back)) (front ++ (blanks' ++ back))

theorem rows_blanks {blanks : Bytes} (h : Blanks blanks) : rows blanks = [] := by
  have hr := row_append_blanks_end h []
  rw [List.nil_append] at hr
  exact rows_of_line h.lineFeed_not_mem List.not_mem_nil hr

/-- What says nothing at the end of a line says nothing at the end of a text. -/
theorem rows_append_eq {more : Bytes} (hm : lineFeed ∉ more)
    (h : ∀ line, row (line ++ more) = row line) (front : Bytes) :
    rows (front ++ more) = rows front := by
  obtain ⟨before, line, hl, hr⟩ := exists_last_line front
  have hf := hr []
  rw [List.append_nil, List.append_nil] at hf
  rw [hr, hf, rows_of_line (by simp [hl, hm]) hl (h line)]

/-- What says nothing at the beginning of a line says nothing at the beginning of a text. -/
theorem rows_prepend_eq {more : Bytes} (hm : lineFeed ∉ more)
    (h : ∀ line, row (more ++ line) = row line) (back : Bytes) :
    rows (more ++ back) = rows back := by
  obtain ⟨line, after, hl, hr⟩ := exists_first_line back
  have hb := hr []
  rw [List.nil_append, List.nil_append] at hb
  rw [hr, hb, rows_of_line (by simp [hl, hm]) hl (h line)]

theorem rows_trailing {more : Bytes} (hm : lineFeed ∉ more)
    (h : ∀ line, row (line ++ more) = row line) (front : Bytes) {back : Bytes}
    (hb : EndsLine back) : rows (front ++ (more ++ back)) = rows (front ++ back) := by
  obtain ⟨after, hr⟩ := hb.exists_rows
  rw [← List.append_assoc, hr, hr, rows_append_eq hm h]

theorem rows_inner {blanks blanks' : Bytes} (hs : Blanks blanks) (hs' : Blanks blanks')
    (hne : blanks ≠ []) (hne' : blanks' ≠ []) (front back : Bytes) :
    rows (front ++ (blanks ++ back)) = rows (front ++ (blanks' ++ back)) := by
  obtain ⟨before, first, hf, hfront⟩ := exists_last_line front
  obtain ⟨last, after, hl, hback⟩ := exists_first_line back
  have hline : rows (first ++ blanks ++ last) = rows (first ++ blanks' ++ last) := by
    apply rows_of_line
    · simp [hf, hl, hs.lineFeed_not_mem]
    · simp [hf, hl, hs'.lineFeed_not_mem]
    · rw [List.append_assoc, List.append_assoc, row_append_blanks hs hne,
        row_append_blanks hs' hne']
  rw [hfront, hfront, ← List.append_assoc, ← List.append_assoc, hback, hback, hline]

theorem Relaid.rows_eq {source source' : Bytes} (h : Relaid source source') :
    rows source = rows source' := by
  cases h with
  | @comment front text back ht hb =>
    have hm : lineFeed ∉ numberSign :: text := by
      rw [List.mem_cons, not_or]
      exact ⟨by decide, ht⟩
    exact (rows_trailing hm (row_comment · text) front hb).symm
  | @lineAbove front blanks back hs hf =>
    obtain ⟨before, hr⟩ := hf.exists_rows
    rw [hr, hr, rows_append_lineFeed, rows_blanks hs, List.nil_append]
  | @lineBelow front blanks back hs hb =>
    obtain ⟨after, hr⟩ := hb.exists_rows
    rw [rows_append_lineFeed, hr, hr, rows_blanks hs, List.nil_append]
  | @carriageReturn front back =>
    have hs : Blanks [0x0d] := ⟨by decide, by decide⟩
    exact (rows_trailing hs.lineFeed_not_mem (row_append_blanks_end hs) front
      (Or.inr ⟨back, rfl⟩)).symm
  | @leading front blanks back hs hf =>
    obtain ⟨before, hr⟩ := hf.exists_rows
    rw [hr, hr, rows_prepend_eq hs.lineFeed_not_mem (row_blanks_append hs)]
  | @trailing front blanks back hs hb =>
    exact (rows_trailing hs.lineFeed_not_mem (row_append_blanks_end hs) front hb).symm
  | @inner front blanks blanks' back hs hs' hne hne' => exact rows_inner hs hs' hne hne' front back

/-- Sources that edits of the layout lead to from one another, to and fro, have the same rows. -/
theorem rows_of_relaid {source source' : Bytes} (h : Relation.EqvGen Relaid source source') :
    rows source = rows source' := by
  induction h with
  | rel _ _ h => exact h.rows_eq
  | refl => rfl
  | symm _ _ _ ih => exact ih.symm
  | trans _ _ _ _ _ ih ih' => exact ih.trans ih'

end AsmXml
