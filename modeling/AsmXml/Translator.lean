import AsmXml.Diagnostic
import AsmXml.Document.Render
import AsmXml.Log

/-! # Translating

A translator reads a whole source from its input, writes the document of the program to its output
and reports a rejected program to its diagnostics. It can be used again and again: what was read is
used up, and output and diagnostics grow.
-/

namespace AsmXml

open Text

/-- A stream of bytes to read. -/
structure Input where
  /-- The bytes that are still to be read. -/
  pending : Bytes
  /-- The reason for which reading fails instead of reaching the end. -/
  failure : Option Bytes
  deriving DecidableEq, Repr

namespace Input

/-- An input with nothing to read. -/
def empty : Input := ⟨[], none⟩

/-- What reading to the end gives: all bytes, or the reason of a failure. -/
def outcome (i : Input) : Except Bytes Bytes :=
  match i.failure with
  | some reason => .error reason
  | none => .ok i.pending

/-- The input after it was read: nothing is left, and a failing input fails again. -/
def spent (i : Input) : Input :=
  { i with pending := [] }

end Input

/-- The streams of a translator, and what they have received. -/
structure Translator where
  input : Input
  sink : Sink
  /-- Reports are wanted. -/
  reporting : Bool
  output : Bytes
  diagnostics : Bytes
  deriving DecidableEq, Repr

/-- A translator on an input, which has written nothing yet. -/
def Translator.ofInput (input : Input) (sink : Sink) (reporting : Bool) : Translator :=
  ⟨input, sink, reporting, [], []⟩

/-- What came of one run, apart from what was written. -/
structure Run where
  failure : Option Failure
  log : List Log.Record

/-- The exit code of a run. -/
def Run.exitCode (r : Run) : Nat :=
  exitCodeOf r.failure

/-! ## What a run notes -/

/-- The input was read. -/
def noteRead (lines : List Bytes) : Log.Record :=
  ⟨.debug, "Read source", [("lines", .number lines.length)]⟩

/-- The program was parsed; each of its instructions follows. -/
def noteProgram (program : List Instruction) : List Log.Record :=
  ⟨.debug, "Parsed program", [("instructions", .number program.length)]⟩ ::
    program.map fun i => ⟨.debug, "Instruction", [("instr", .text i.display)]⟩

/-! ## A run -/

/-- The failure to read the input. -/
def Failure.ofRead (reason : Bytes) : Failure :=
  .wrapped (Failure.unreadable.message ++ utf8 ": " ++ reason) [.unreadable, .plain reason]

/-- The failure to build the document. -/
def Failure.ofGeneration (cause : Failure) : Failure :=
  .wrapped (utf8 "xml generation failed: " ++ cause.message) [cause]

/-- The failure to write the output. -/
def Failure.ofWrite (cause : Failure) : Failure :=
  .wrapped (utf8 "write output: " ++ cause.message) [cause]

namespace Translator

/-- The translator after it reported a failure, if reports are wanted. -/
def reported (colour : Bool) (failure : Failure) (t : Translator) : Translator :=
  if t.reporting then { t with diagnostics := t.diagnostics ++ failure.report colour } else t

/-- Writes a document to the output. -/
def deliver (document : Bytes) (t : Translator) : Translator × Option Failure :=
  let delivery := t.sink.deliver document
  ({ t with output := t.output ++ delivery.stored }, delivery.failure.map Failure.ofWrite)

/-- Translates a source that was read as raw lines. -/
def translateLines (colour : Bool) (lines : List Bytes) (t : Translator) :
    Except Defect (Translator × Run) :=
  match parse (prepare lines) with
  | .error (.defect d) => .error d
  | .error (.refused rejection) =>
    let failure := rejection.toFailure
    .ok (t.reported colour failure, ⟨some failure, [noteRead lines]⟩)
  | .ok program => do
    let log := noteRead lines :: noteProgram program
    let document ← generate .accepting program
    match document.failure with
    | some cause => return (t, ⟨some (.ofGeneration cause), log⟩)
    | none =>
      let (t, failure) := t.deliver document.stored
      return (t, ⟨failure, log⟩)

/-- Reads the input to its end and translates it. -/
def run (colour : Bool) (t : Translator) : Except Defect (Translator × Run) :=
  let spent := { t with input := t.input.spent }
  match t.input.outcome with
  | .error reason => .ok (spent, ⟨some (.ofRead reason), []⟩)
  | .ok source => spent.translateLines colour (rawLines source)

end Translator

end AsmXml
