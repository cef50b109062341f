import AsmXml.Translator

/-! # Sessions

A session keeps one translator, any number of readers and the colour switch, and answers requests
one after the other. What one request leaves behind is all that a later one can see of it.
-/

namespace AsmXml

open Text

/-- A text to be decorated, and how. -/
inductive Painting where
  | styled (style : Style) (text : Bytes)
  | code (text : Bytes)
  /-- Bright red within bold, as the headings of reports are. -/
  | heading (text : Bytes)
  | highlighted (text token : Bytes)
  /-- Behind a sequence that is no style of ours. -/
  | custom (start text : Bytes)
  deriving DecidableEq, Repr

/-- The decorated text. -/
def Painting.apply (colour : Bool) : Painting → Bytes
  | .styled style text => style.paint colour text
  | .code text => paintCode colour text
  | .heading text => Style.bold.paint colour (Style.brightRed.paint colour text)
  | .highlighted text token => highlight colour text token
  | .custom start text => colourWith colour start text

/-- A reader and the program of its last reading; empty if it failed. -/
structure Desk where
  reader : Reader
  program : List Instruction
  deriving DecidableEq, Repr

/-- A desk for a source that was not read yet. -/
def Desk.ofSource (source : Bytes) : Desk :=
  ⟨.ofSource source, []⟩

/-- What a session is asked to do. -/
inductive Request where
  /-- Switch colour. -/
  | colour (enabled : Bool)
  | paint (painting : Painting)
  /-- Begin with a new source under a name, and forget what was there. -/
  | newReader (id : String) (source : Bytes)
  | parse (id : String)
  | generate (id : String) (sink : Sink)
  /-- Give the translator another input. -/
  | input (input : Input)
  /-- Switch reports. -/
  | reporting (enabled : Bool)
  | translate
  deriving DecidableEq, Repr

/-- What a request is answered with. -/
inductive Answer where
  | done
  | switched (enabled : Bool)
  | painted (text : Bytes)
  /-- The program, or what stopped the reading, with the colour for showing it. -/
  | parsed (colour : Bool) (result : Except (Halt Rejection) (List Instruction))
  | generated (delivery : Except Defect Delivery)
  /-- A run, with the colour for showing it and all output and diagnostics so far. -/
  | translated (colour : Bool) (run : Run) (output diagnostics : Bytes)
  | broken (d : Defect)

/-- What a session holds. -/
structure Session where
  colour : Bool
  translator : Translator
  desks : List (String × Desk)

namespace Session

/-- A session before its first request. -/
def start (colour : Bool) : Session :=
  ⟨colour, .ofInput .empty .accepting true, []⟩

/-- The desk under a name. -/
def desk (s : Session) (id : String) : Desk :=
  (s.desks.lookup id).getD (.ofSource [])

/-- The session with a desk under a name. -/
def setDesk (s : Session) (id : String) (desk : Desk) : Session :=
  { s with desks := (id, desk) :: s.desks.filter (·.1 != id) }

/-- Answers one request. -/
def step (s : Session) : Request → Session × Answer
  | .colour enabled => ({ s with colour := enabled }, .switched enabled)
  | .paint painting => (s, .painted (painting.apply s.colour))
  | .newReader id source => (s.setDesk id (.ofSource source), .done)
  | .parse id =>
    let (reader, result) := (s.desk id).reader.parse
    (s.setDesk id ⟨reader, result.toOption.getD []⟩, .parsed s.colour result)
  | .generate id sink => (s, .generated (AsmXml.generate sink (s.desk id).program))
  | .input input => ({ s with translator := { s.translator with input } }, .done)
  | .reporting enabled =>
    ({ s with translator := { s.translator with reporting := enabled } }, .done)
  | .translate =>
    match s.translator.run s.colour with
    | .error d => (s, .broken d)
    | .ok (translator, run) =>
      ({ s with translator },
        .translated s.colour run translator.output translator.diagnostics)

/-- Answers requests one after the other. -/
def run (s : Session) : List Request → List Answer
  | [] => []
  | request :: rest =>
    let (next, answer) := s.step request
    answer :: next.run rest

end Session

end AsmXml
