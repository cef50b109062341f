import AsmXml.Fault
import AsmXml.Text.Blank

/-! # Source text

A source is read as raw lines, each with its line feed. Preparing it cuts comments and surrounding
blanks, drops the lines that are left empty and joins the rest by single line feeds. A prepared
source begins with the header line.
-/

namespace AsmXml

open Text

/-- The line feed, which ends a line. -/
def lineFeed : UInt8 := 0x0a

/-- The number sign, which begins a comment. -/
def numberSign : UInt8 := 0x23

/-- The first line of every program. -/
def header : Bytes := utf8 ".IPPcode24"

/-- The raw lines of an input: the pieces that end with a line feed, and an unfinished last one. -/
def rawLines : Bytes → List Bytes
  | [] => []
  | b :: rest =>
    if b == lineFeed then [b] :: rawLines rest
    else match rawLines rest with
      | [] => [[b]]
      | line :: lines => (b :: line) :: lines

/-- Reading raw lines loses no byte. -/
theorem flatten_rawLines (bs : Bytes) : (rawLines bs).flatten = bs := by
  induction bs with
  | nil => rfl
  | cons b rest ih =>
    rw [rawLines]
    split
    · rw [List.flatten_cons, ih, List.singleton_append]
    · cases lines : rawLines rest with
      | nil =>
        rw [lines] at ih
        rw [← ih]
        rfl
      | cons line more =>
        rw [lines, List.flatten_cons] at ih
        rw [List.flatten_cons, List.cons_append, ih]

/-- No raw line is empty. -/
theorem ne_nil_of_mem_rawLines {bs line : Bytes} (h : line ∈ rawLines bs) : line ≠ [] := by
  induction bs generalizing line with
  | nil => cases h
  | cons b rest ih =>
    rw [rawLines] at h
    split at h
    · rcases List.mem_cons.1 h with rfl | h
      · simp
      · exact ih h
    · cases lines : rawLines rest with
      | nil => simp_all
      | cons first more =>
        rw [lines] at h ih
        rcases List.mem_cons.1 h with rfl | h
        · simp
        · exact ih (List.mem_cons_of_mem _ h)

/-- A line without its comment and without the blanks around what is left. -/
def content (line : Bytes) : Bytes :=
  trim (line.takeWhile (· != numberSign))

/-- The contents of the lines that have one. -/
def contents (lines : List Bytes) : List Bytes :=
  (lines.map content).filter (!·.isEmpty)

/-- The prepared source of raw lines. -/
def prepare (lines : List Bytes) : Bytes :=
  [lineFeed].intercalate (contents lines)

/-- The lines after the header, as they stand in the source. -/
def checkHeader (source : Bytes) : Except Fault (List Bytes) :=
  let lines := source.splitOn lineFeed
  let first := trim (lines.headD [])
  if first.isEmpty then .error .emptyInput
  else if first == header then .ok lines.tail
  else .error (.badHeader first)

end AsmXml
