import AsmXml.Document.Render
import AsmXml.Proofs.Document.References
import AsmXml.Proofs.Text.Decimal

/-! # Reading documents

A reader for the documents that are written: the declaration, a root element, under it instruction
elements, and under each of them argument elements. The bytes of a document are cut into pieces, a
tag with the text in front of it each (`pieces?`), and the pieces are taken one after the other by a
machine that knows which elements are open (`Opened.step`). `readDocument?` gives the elements, or
nothing if the bytes are no such document.

The reader shares no code with the writer, and it does not rely on indentation: between elements any
layout will do.
-/

namespace AsmXml

open Text

structure ArgumentElement where
  name : Bytes
  type : Bytes
  value : Bytes
  deriving DecidableEq, Repr

structure InstructionElement where
  order : Int
  opcode : Bytes
  arguments : List ArgumentElement
  deriving DecidableEq, Repr

/-! ## Pieces -/

def lessThan : UInt8 := 0x3c

def greaterThan : UInt8 := 0x3e

def quotationMark : UInt8 := 0x22

/-- A tag, without its angle brackets, and the text in front of it. -/
structure Piece where
  text : Bytes
  tag : Bytes
  deriving DecidableEq, Repr

def Piece.ofBytes? (bs : Bytes) : Option Piece :=
  match bs.splitOn lessThan with
  | [text, tag] => some ⟨text, tag⟩
  | _ => none

/-- The pieces of a document, and what stands behind the last tag. -/
def pieces? (document : Bytes) : Option (List Piece × Bytes) :=
  let parts := document.splitOn greaterThan
  (parts.dropLast.mapM Piece.ofBytes?).map (·, parts.getLastD [])

/-! ## Tags -/

inductive Tag where
  | declaration
  | program
  | instruction (order : Int) (opcode : Bytes)
  | argument (name type : Bytes)
  | closing (name : Bytes)
  deriving DecidableEq, Repr

/-- The tag of an argument, from what stands in front of its value and the value. -/
def Tag.ofArgument? (front type : Bytes) : Option Tag :=
  match front.splitOn 0x20 with
  | [name, key] =>
    if (utf8 "arg").isPrefixOf name ∧ key = utf8 "type=" then
      (unescape type).map (.argument name)
    else none
  | _ => none

/-- Reads a tag. Quotes cut it into what is no value and, at every second place, a value. -/
def Tag.read? (tag : Bytes) : Option Tag :=
  match tag.splitOn quotationMark with
  | [name] => (after? (utf8 "/") name).map .closing
  | [front, value, []] =>
    if front = utf8 "program language=" then
      if value = language then some .program else none
    else Tag.ofArgument? front value
  | [front, first, middle, second, back] =>
    if [front, middle, back] = [utf8 "instruction order=", utf8 " opcode=", []] then do
      let order ← readDecimal? first
      let opcode ← unescape second
      return .instruction order opcode
    else if [front, first, middle, second, back] =
        [utf8 "?xml version=", utf8 "1.0", utf8 " encoding=", utf8 "UTF-8", utf8 "?"] then
      some .declaration
    else none
  | _ => none

/-! ## Open elements -/

/-- How much of a document was read: the instructions that are complete, and the elements that are
open. -/
inductive Opened where
  | nothing
  | declared
  | program (read : List InstructionElement)
  | instruction (read : List InstructionElement) (current : InstructionElement)
  | argument (read : List InstructionElement) (current : InstructionElement) (name type : Bytes)
  | closed (read : List InstructionElement)
  deriving DecidableEq, Repr

/-- The text only separates elements. -/
def isLayout (text : Bytes) : Bool :=
  text.all fun b => b = 0x20 ∨ b = 0x0a

/-- Takes a tag between elements. -/
def Opened.enter : Opened → Tag → Option Opened
  | .nothing, .declaration => some .declared
  | .declared, .program => some (.program [])
  | .program read, .instruction order opcode => some (.instruction read ⟨order, opcode, []⟩)
  | .instruction read current, .argument name type => some (.argument read current name type)
  | .instruction read current, .closing name =>
    if name = utf8 "instruction" then some (.program (read ++ [current])) else none
  | .program read, .closing name => if name = utf8 "program" then some (.closed read) else none
  | _, _ => none

/-- Takes one piece. Inside an argument, the text is its value up to the closing tag of the same
name; elsewhere it is layout. -/
def Opened.step (opened : Opened) (piece : Piece) : Option Opened :=
  (Tag.read? piece.tag).bind fun tag =>
    match opened with
    | .argument read current name type =>
      if tag = .closing name then
        (unescape piece.text).map fun value => .instruction read
          { current with arguments := current.arguments ++ [⟨name, type, value⟩] }
      else none
    | _ => if isLayout piece.text then opened.enter tag else none

def readDocument? (document : Bytes) : Option (List InstructionElement) :=
  (pieces? document).bind fun (pieces, rest) =>
    (pieces.foldlM Opened.step .nothing).bind fun
      | .closed read => if isLayout rest then some read else none
      | _ => none

end AsmXml
