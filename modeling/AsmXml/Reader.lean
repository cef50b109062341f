import AsmXml.Line
import AsmXml.Source

/-! # Reading programs

A reader turns a prepared source into a program, and stops at the first fault. It keeps its count
of instructions and the instructions themselves from one reading to the next, those of the lines
before a fault included.
-/

namespace AsmXml

open Text

/-- The fault that stopped a reading, and where it is. -/
structure Rejection where
  /-- The order of the instruction at fault; zero for the header. -/
  order : Nat
  /-- The line at fault; empty for the header. -/
  line : Bytes
  fault : Fault
  deriving DecidableEq, Repr

/-- How far a reading came. -/
structure Progress where
  /-- The order of the last instruction that was attempted. -/
  order : Nat
  /-- The instructions of the lines before the fault. -/
  accepted : List Instruction
  /-- What stopped the reading, if it did not reach the end. -/
  stop : Option (Halt Rejection)
  deriving DecidableEq, Repr

/-- A fault of a line with its place in the program. -/
def Halt.located (order : Nat) (line : Bytes) : Halt Fault → Halt Rejection
  | .refused fault => .refused ⟨order, line, fault⟩
  | .defect d => .defect d

/-- Reads lines one after the other, where `order` instructions came before. A blank line is none
and takes no order. -/
def readLines (order : Nat) : List Bytes → Progress
  | [] => ⟨order, [], none⟩
  | text :: rest =>
    let line := Line.ofText (trim text)
    if line.fields.isEmpty then readLines order rest
    else match line.check with
      | .error halt => ⟨order + 1, [], some (halt.located (order + 1) line.text)⟩
      | .ok statement =>
        let progress := readLines (order + 1) rest
        { progress with accepted := statement.numbered (order + 1) :: progress.accepted }

/-- A source and what has been read from it so far. -/
structure Reader where
  source : Bytes
  order : Nat
  program : List Instruction
  deriving DecidableEq, Repr

namespace Reader

/-- A reader that has read nothing yet. -/
def ofSource (source : Bytes) : Reader :=
  ⟨source, 0, []⟩

/-- Reads the source once more. The result is the whole program held by the reader, or what stopped
this reading. -/
def parse (r : Reader) : Reader × Except (Halt Rejection) (List Instruction) :=
  match checkHeader r.source with
  | .error fault => (r, .error (.refused ⟨0, [], fault⟩))
  | .ok lines =>
    let progress := readLines r.order lines
    let program := r.program ++ progress.accepted
    ({ r with order := progress.order, program },
      match progress.stop with
      | none => .ok program
      | some halt => .error halt)

end Reader

/-- The program of a prepared source, or what is wrong with it. -/
def parse (source : Bytes) : Except (Halt Rejection) (List Instruction) :=
  (Reader.ofSource source).parse.2

end AsmXml
