import AsmXml.Proofs.Reading
import Mathlib.Data.List.TakeWhile

/-! # From input to lines

The lines of a source are what is left of its pieces between line feeds once comments and blanks
are gone (`sourceLines`). Reading an input as raw lines and preparing them keeps exactly these
(`contents_rawLines`), and parsing the prepared source finds them again: the first is its header
line and the others are its instruction lines (`firstLine_prepare`, `bodyLines_prepare`).
-/

namespace AsmXml

open Text

/-- The lines of a source: each piece between line feeds without its comment and the blanks around
the rest, unless nothing is left of it. -/
def sourceLines (source : Bytes) : List Bytes :=
  contents (source.splitOn lineFeed)

/-! ## Raw lines -/

theorem rawLines_append_lineFeed {piece : Bytes} (h : lineFeed ∉ piece) (rest : Bytes) :
    rawLines (piece ++ lineFeed :: rest) = (piece ++ [lineFeed]) :: rawLines rest := by
  induction piece with
  | nil => rfl
  | cons b piece ih =>
    obtain ⟨hb, hp⟩ : lineFeed ≠ b ∧ lineFeed ∉ piece := by simpa using h
    have hne : (b == lineFeed) = false := by simpa using Ne.symm hb
    rw [List.cons_append, rawLines, ih hp, hne]
    rfl

theorem rawLines_of_not_mem {piece : Bytes} (hne : piece ≠ []) (h : lineFeed ∉ piece) :
    rawLines piece = [piece] := by
  induction piece with
  | nil => exact absurd rfl hne
  | cons b piece ih =>
    obtain ⟨hb, hp⟩ : lineFeed ≠ b ∧ lineFeed ∉ piece := by simpa using h
    have hbne : (b == lineFeed) = false := by simpa using Ne.symm hb
    rw [rawLines, hbne]
    cases piece with
    | nil => rfl
    | cons b' piece => rw [ih (by simp) hp]; rfl

theorem content_append_lineFeed (piece : Bytes) :
    content (piece ++ [lineFeed]) = content piece := by
  unfold content
  rw [List.takeWhile_append]
  split
  · next h =>
    have hp : piece.takeWhile (· != numberSign) = piece :=
      (List.takeWhile_prefix _).eq_of_length h
    have hl : [lineFeed].takeWhile (· != numberSign) = [lineFeed] := rfl
    rw [hl, hp]
    exact trim_append_blank piece (by decide) (by decide)
  · rfl

theorem content_of_not_mem {line : Bytes} (h : numberSign ∉ line) : content line = trim line := by
  have ht : line.takeWhile (· != numberSign) = line := by
    rw [List.takeWhile_eq_self_iff]
    intro b hb
    simpa using fun he : b = numberSign => h (he ▸ hb)
  unfold content
  rw [ht]

theorem contents_cons (line : Bytes) (lines : List Bytes) :
    contents (line :: lines) = contents [line] ++ contents lines := by
  unfold contents
  rw [← List.filter_append, ← List.map_append, List.singleton_append]

theorem contents_lineFeed (piece : Bytes) : contents [piece ++ [lineFeed]] = contents [piece] := by
  unfold contents
  rw [List.map_singleton, content_append_lineFeed, List.map_singleton]

/-- Lines that are joined and cut again have the contents that they had. -/
theorem contents_rawLines_intercalate {pieces : List Bytes} (h : ∀ p ∈ pieces, lineFeed ∉ p) :
    contents (rawLines ([lineFeed].intercalate pieces)) = contents pieces := by
  induction pieces with
  | nil => rfl
  | cons p pieces ih =>
    obtain ⟨hp, hps⟩ := List.forall_mem_cons.1 h
    cases pieces with
    | nil =>
      rw [List.intercalate_singleton]
      by_cases hne : p = []
      · rw [hne]
        rfl
      · rw [rawLines_of_not_mem hne hp]
    | cons q pieces =>
      rw [List.intercalate_cons_cons, List.append_assoc, List.singleton_append,
        rawLines_append_lineFeed hp, contents_cons, ih hps, contents_lineFeed, ← contents_cons]

/-- Reading an input as raw lines keeps the lines of the source. -/
theorem contents_rawLines (source : Bytes) : contents (rawLines source) = sourceLines source := by
  have h : contents (rawLines ([lineFeed].intercalate (source.splitOn lineFeed))) =
      sourceLines source := contents_rawLines_intercalate fun p hp => (mem_splitOn hp).2
  rwa [List.intercalate_splitOn] at h

/-! ## Prepared sources -/

theorem content_isInfix (line : Bytes) : content line <:+: line :=
  (trim_isInfix _).trans (List.takeWhile_prefix _).isInfix

theorem trim_content (line : Bytes) : trim (content line) = content line :=
  trim_trim _

theorem numberSign_not_mem_content (line : Bytes) : numberSign ∉ content line := by
  intro hm
  have ht := List.mem_takeWhile_imp ((trim_isInfix _).subset hm)
  simp at ht

theorem mem_contents {lines : List Bytes} {line : Bytes} (h : line ∈ contents lines) :
    line ≠ [] ∧ ∃ raw ∈ lines, content raw = line := by
  obtain ⟨hm, hne⟩ := List.mem_filter.1 h
  exact ⟨by simpa using hne, List.mem_map.1 hm⟩

/-- A line of a source is trimmed, not empty, and on one line. -/
theorem mem_sourceLines {source line : Bytes} (h : line ∈ sourceLines source) :
    trim line = line ∧ line ≠ [] ∧ lineFeed ∉ line := by
  obtain ⟨hne, piece, hp, rfl⟩ := mem_contents h
  exact ⟨trim_content piece, hne, fun hl => (mem_splitOn hp).2 ((content_isInfix piece).subset hl)⟩

theorem numberSign_not_mem {source line : Bytes} (h : line ∈ sourceLines source) :
    numberSign ∉ line := by
  obtain ⟨-, piece, -, rfl⟩ := mem_contents h
  exact numberSign_not_mem_content piece

theorem splitOn_prepare {source : Bytes} (h : sourceLines source ≠ []) :
    (prepare (rawLines source)).splitOn lineFeed = sourceLines source := by
  unfold prepare
  rw [contents_rawLines]
  exact List.splitOn_intercalate lineFeed (fun l hl => (mem_sourceLines hl).2.2) h

theorem firstLine_prepare_nil {source : Bytes} (h : sourceLines source = []) :
    firstLine (prepare (rawLines source)) = [] := by
  unfold prepare
  rw [contents_rawLines, h]
  rfl

theorem firstLine_prepare {source first : Bytes} {rest : List Bytes}
    (h : sourceLines source = first :: rest) : firstLine (prepare (rawLines source)) = first := by
  unfold firstLine
  rw [splitOn_prepare (by simp [h]), h]
  exact (mem_sourceLines (h ▸ List.mem_cons_self)).1

theorem instructionLines_of_trimmed {lines : List Bytes} (h : ∀ l ∈ lines, trim l = l ∧ l ≠ []) :
    instructionLines lines = lines := by
  induction lines with
  | nil => rfl
  | cons l lines ih =>
    obtain ⟨⟨ht, hne⟩, hl⟩ := List.forall_mem_cons.1 h
    rw [instructionLines_cons (by rwa [ht]), ht, ih hl]

theorem bodyLines_prepare {source first : Bytes} {rest : List Bytes}
    (h : sourceLines source = first :: rest) : bodyLines (prepare (rawLines source)) = rest := by
  unfold bodyLines
  rw [splitOn_prepare (by simp [h]), h, List.tail_cons]
  apply instructionLines_of_trimmed
  intro l hl
  obtain ⟨ht, hne, -⟩ := mem_sourceLines (h ▸ List.mem_cons_of_mem first hl)
  exact ⟨ht, hne⟩

end AsmXml
