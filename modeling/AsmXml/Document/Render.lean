import AsmXml.Document
import AsmXml.Document.Escape

/-! # Documents as XML

One element a line, children indented by two spaces, and every element with a closing tag. An
element without children is closed on its own line.
-/

namespace AsmXml

open Text

/-- The declaration in front of every document. -/
def declaration : Bytes :=
  utf8 "<?xml version=\"1.0\" encoding=\"UTF-8\"?>\n"

/-- The name of the language, an attribute of the root element. -/
def language : Bytes := utf8 "IPPcode24"

/-- An attribute with the space in front of it. -/
def attr (name value : Bytes) : Bytes :=
  utf8 " " ++ name ++ utf8 "=\"" ++ value ++ utf8 "\""

/-- A line of its own for each child, then a line for what comes after; nothing if there are no
children. -/
def block (inner outer : Bytes) (children : List Bytes) : Bytes :=
  if children.isEmpty then []
  else children.flatMap (fun child => utf8 "\n" ++ inner ++ child) ++ utf8 "\n" ++ outer

/-- The element of an argument at a position. -/
def Argument.render (position : Nat) (a : Argument) : Bytes :=
  let name := utf8 "arg" ++ decimal position
  utf8 "<" ++ name ++ attr (utf8 "type") (escape a.type) ++ utf8 ">" ++ escape a.value ++
    utf8 "</" ++ name ++ utf8 ">"

/-- The elements of arguments from a position on. -/
def renderArguments (position : Nat) : List Argument → List Bytes
  | [] => []
  | a :: rest => a.render position :: renderArguments (position + 1) rest

/-- The element of an instruction. -/
def Entry.render (e : Entry) : Bytes :=
  utf8 "<instruction" ++ attr (utf8 "order") (decimal e.order) ++
    attr (utf8 "opcode") (escape e.opcode) ++ utf8 ">" ++
    block (utf8 "    ") (utf8 "  ") (renderArguments 1 e.arguments) ++ utf8 "</instruction>"

/-- The text of a document. -/
def Document.render (d : Document) : Bytes :=
  declaration ++ utf8 "<program" ++ attr (utf8 "language") language ++ utf8 ">" ++
    block (utf8 "  ") [] (d.entries.map Entry.render) ++ utf8 "</program>\n"

/-- What came of writing a document: the bytes that were stored, and the failure if the document
did not arrive whole. -/
structure Delivery where
  stored : Bytes
  failure : Option Failure

/-- Writes a text to a sink in one write. Storing less than the whole text is a failure. -/
def Sink.deliver (sink : Sink) (text : Bytes) : Delivery :=
  match sink.write text with
  | .error reason => ⟨[], some (.plain reason)⟩
  | .ok stored =>
    ⟨stored, if stored.length = text.length then none else some .shortWrite⟩

/-- How a destination takes a text: what it is like afterwards, and the failure if the text did not
arrive whole. -/
abbrev Writer (σ : Type) := Bytes → σ → σ × Option Failure

/-- A sink stores what it takes of a text behind what it has stored before. -/
def Sink.writer (sink : Sink) : Writer Bytes := fun text stored =>
  let delivery := sink.deliver text
  (stored ++ delivery.stored, delivery.failure)

/-- Writes the document of a program to a destination, and tells what came of it. Nothing is written
unless the whole document could be built. -/
def generateTo {σ : Type} (write : Writer σ) (program : List Instruction) (destination : σ) :
    σ × Except Defect (Option Failure) :=
  match Document.ofProgram program with
  | .ok document =>
    let (destination, failure) := write document.render destination
    (destination, .ok failure)
  | .error (.refused u) => (destination, .ok (some u.toFailure))
  | .error (.defect d) => (destination, .error d)

/-- Writes the document of a program to a sink that has stored nothing yet. -/
def generate (sink : Sink) (program : List Instruction) : Except Defect Delivery :=
  let (stored, outcome) := generateTo sink.writer program []
  outcome.map (⟨stored, ·⟩)

end AsmXml
