import AsmXml.Proofs.Document.Elements
import Mathlib.Data.List.Basic

/-! # Documents are read back

A document is written as pieces, a tag with the text in front of it each (`render_eq_written`). No
text and no value in them has an angle bracket, so that the reader cuts the document into the same
pieces (`pieces?_written`), and none has a quote, so that it reads every tag (`read?_instruction`,
`read?_argument`). One argument takes the machine from an open instruction to the same instruction
with the argument in it; by induction the reader gives back all that the document holds
(`readDocument?_render`).
-/

namespace AsmXml

open Text

/-! ## Pieces -/

def Piece.written (p : Piece) : Bytes :=
  p.text ++ utf8 "<" ++ p.tag ++ utf8 ">"

def written (pieces : List Piece) : Bytes :=
  pieces.flatMap Piece.written

/-- No byte of the text is an angle bracket. -/
def Plain (text : Bytes) : Prop :=
  lessThan ∉ text ∧ greaterThan ∉ text

instance (text : Bytes) : Decidable (Plain text) :=
  inferInstanceAs (Decidable (lessThan ∉ text ∧ greaterThan ∉ text))

theorem plain_append {xs ys : Bytes} : Plain (xs ++ ys) ↔ Plain xs ∧ Plain ys := by
  unfold Plain
  simp only [List.mem_append, not_or]
  exact and_and_and_comm

theorem Piece.ofBytes?_eq {text tag : Bytes} (hx : Plain text) (ht : Plain tag) :
    Piece.ofBytes? (text ++ utf8 "<" ++ tag) = some ⟨text, tag⟩ := by
  have hl : text ++ utf8 "<" ++ tag = text ++ lessThan :: tag :=
    List.append_assoc text [lessThan] tag
  unfold Piece.ofBytes?
  rw [hl, List.splitOn_append_cons_self_of_not_mem hx.1, List.splitOn_eq_singleton ht.1]

theorem splitOn_written {pieces : List Piece} (h : ∀ p ∈ pieces, Plain p.text ∧ Plain p.tag)
    {rest : Bytes} (hr : Plain rest) :
    (written pieces ++ rest).splitOn greaterThan =
      pieces.map (fun p => p.text ++ utf8 "<" ++ p.tag) ++ [rest] := by
  induction pieces with
  | nil => exact List.splitOn_eq_singleton hr.2
  | cons p pieces ih =>
    obtain ⟨⟨hx, ht⟩, hp⟩ := List.forall_mem_cons.1 h
    have hl : greaterThan ∉ utf8 "<" := by decide
    have hg : greaterThan ∉ p.text ++ utf8 "<" ++ p.tag := by simp [hx.2, hl, ht.2]
    have hw : written (p :: pieces) ++ rest =
        (p.text ++ utf8 "<" ++ p.tag) ++ greaterThan :: (written pieces ++ rest) := by
      simp only [written, List.flatMap_cons, Piece.written, List.append_assoc]
      rfl
    rw [hw, List.splitOn_append_cons_self_of_not_mem hg, ih hp, List.map_cons, List.cons_append]

/-- Pieces without angle brackets are found again. -/
theorem pieces?_written {pieces : List Piece} (h : ∀ p ∈ pieces, Plain p.text ∧ Plain p.tag)
    {rest : Bytes} (hr : Plain rest) : pieces? (written pieces ++ rest) = some (pieces, rest) := by
  have hm : (pieces.map fun p => p.text ++ utf8 "<" ++ p.tag).mapM Piece.ofBytes? =
      some pieces := by
    induction pieces with
    | nil => rfl
    | cons p pieces ih =>
      obtain ⟨⟨hx, ht⟩, hp⟩ := List.forall_mem_cons.1 h
      rw [List.map_cons, List.mapM_cons, Piece.ofBytes?_eq hx ht, ih hp]
      rfl
  unfold pieces?
  simp only [splitOn_written h hr, List.dropLast_concat, List.getLastD_concat, hm]
  rfl

/-! ## The pieces of a document -/

def argumentName (position : Nat) : Bytes :=
  utf8 "arg" ++ decimal position

def Argument.pieces (position : Nat) (a : Argument) : List Piece :=
  [⟨utf8 "\n    ", argumentName position ++ attr (utf8 "type") (escape a.type)⟩,
    ⟨escape a.value, utf8 "/" ++ argumentName position⟩]

def argumentPieces (position : Nat) : List Argument → List Piece
  | [] => []
  | a :: rest => a.pieces position ++ argumentPieces (position + 1) rest

def Entry.pieces (e : Entry) : List Piece :=
  ⟨utf8 "\n  ", utf8 "instruction" ++ attr (utf8 "order") (decimal e.order) ++
      attr (utf8 "opcode") (escape e.opcode)⟩ ::
    (argumentPieces 1 e.arguments ++
      [⟨if e.arguments.isEmpty then [] else utf8 "\n  ", utf8 "/instruction"⟩])

def Document.pieces (d : Document) : List Piece :=
  [⟨[], utf8 "?xml version=\"1.0\" encoding=\"UTF-8\"?"⟩,
    ⟨utf8 "\n", utf8 "program" ++ attr (utf8 "language") language⟩] ++
    (d.entries.flatMap Entry.pieces ++
      [⟨if d.entries.isEmpty then [] else utf8 "\n", utf8 "/program"⟩])

theorem written_append (ps qs : List Piece) : written (ps ++ qs) = written ps ++ written qs :=
  List.flatMap_append

theorem block_eq (inner outer : Bytes) (children : List Bytes) :
    block inner outer children =
      children.flatMap (fun child => utf8 "\n" ++ inner ++ child) ++
        if children.isEmpty then [] else utf8 "\n" ++ outer := by
  unfold block
  cases children with
  | nil => rfl
  | cons child rest =>
    simp only [List.isEmpty_cons, Bool.false_eq_true, if_false, List.append_assoc]

theorem written_argument (position : Nat) (a : Argument) :
    written (a.pieces position) = utf8 "\n" ++ utf8 "    " ++ a.render position := by
  have hl : utf8 "\n    " = utf8 "\n" ++ utf8 "    " := rfl
  have hc : utf8 "</" = utf8 "<" ++ utf8 "/" := rfl
  simp only [written, Argument.pieces, Piece.written, Argument.render, argumentName,
    List.flatMap_cons, List.flatMap_nil, List.append_assoc, List.append_nil, hl, hc]

theorem written_arguments (position : Nat) (arguments : List Argument) :
    written (argumentPieces position arguments) =
      (renderArguments position arguments).flatMap
        (fun child => utf8 "\n" ++ utf8 "    " ++ child) := by
  induction arguments generalizing position with
  | nil => rfl
  | cons a arguments ih =>
    rw [argumentPieces, written_append, written_argument, ih, renderArguments, List.flatMap_cons]

theorem isEmpty_renderArguments (position : Nat) (arguments : List Argument) :
    (renderArguments position arguments).isEmpty = arguments.isEmpty := by
  cases arguments with
  | nil => rfl
  | cons a arguments => rfl

theorem written_entry (e : Entry) :
    written e.pieces = utf8 "\n" ++ utf8 "  " ++ e.render := by
  have hl : utf8 "\n  " = utf8 "\n" ++ utf8 "  " := rfl
  have ho : utf8 "<instruction" = utf8 "<" ++ utf8 "instruction" := rfl
  have hc : utf8 "</instruction>" = utf8 "<" ++ (utf8 "/instruction" ++ utf8 ">") := rfl
  have hw (p : Piece) (ps : List Piece) : written (p :: ps) = p.written ++ written ps := rfl
  rw [Entry.pieces, hw, written_append, written_arguments, Entry.render, block_eq,
    isEmpty_renderArguments]
  simp only [written, Piece.written, List.flatMap_cons, List.flatMap_nil, List.append_assoc,
    List.append_nil, hl, ho, hc]

theorem written_entries (entries : List Entry) :
    written (entries.flatMap Entry.pieces) =
      (entries.map Entry.render).flatMap (fun child => utf8 "\n" ++ utf8 "  " ++ child) := by
  induction entries with
  | nil => rfl
  | cons e entries ih =>
    rw [List.flatMap_cons, written_append, written_entry, ih, List.map_cons, List.flatMap_cons]

/-- A document is the text of its pieces and a line feed. -/
theorem render_eq_written (d : Document) : d.render = written d.pieces ++ utf8 "\n" := by
  have hd : declaration = utf8 "<" ++ (utf8 "?xml version=\"1.0\" encoding=\"UTF-8\"?" ++
      (utf8 ">" ++ utf8 "\n")) := rfl
  have ho : utf8 "<program" = utf8 "<" ++ utf8 "program" := rfl
  have hc : utf8 "</program>\n" = utf8 "<" ++ (utf8 "/program" ++ (utf8 ">" ++ utf8 "\n")) := rfl
  rw [Document.pieces, written_append, written_append, written_entries, Document.render, block_eq,
    List.isEmpty_map]
  simp only [written, Piece.written, List.flatMap_cons, List.flatMap_nil, List.append_assoc,
    List.append_nil, List.nil_append, hd, ho, hc]

/-! ## No brackets in pieces -/

theorem plain_escape (text : Bytes) : Plain (escape text) :=
  ⟨not_mem_escape (by decide) text, not_mem_escape (by decide) text⟩

theorem plain_decimal (n : Int) : Plain (decimal n) := by
  refine ⟨fun h => ?_, fun h => ?_⟩
  · exact absurd (mem_decimal h) (by decide)
  · exact absurd (mem_decimal h) (by decide)

theorem plain_attr {name value : Bytes} (hn : Plain name) (hv : Plain value) :
    Plain (attr name value) := by
  unfold attr
  simp only [plain_append]
  exact ⟨⟨⟨⟨by decide, hn⟩, by decide⟩, hv⟩, by decide⟩

theorem plain_argumentName (position : Nat) : Plain (argumentName position) :=
  plain_append.2 ⟨by decide, plain_decimal position⟩

theorem plain_argumentPieces (position : Nat) (arguments : List Argument) :
    ∀ p ∈ argumentPieces position arguments, Plain p.text ∧ Plain p.tag := by
  have hl : Plain (utf8 "\n    ") := by decide
  induction arguments generalizing position with
  | nil => simp [argumentPieces]
  | cons a arguments ih =>
    intro p hp
    rcases List.mem_append.1 hp with hp | hp
    · have hn := plain_argumentName position
      have ht := plain_attr (by decide : Plain (utf8 "type")) (plain_escape a.type)
      simp only [Argument.pieces, List.mem_cons, List.not_mem_nil, or_false] at hp
      rcases hp with rfl | rfl
      · exact ⟨hl, plain_append.2 ⟨hn, ht⟩⟩
      · exact ⟨plain_escape a.value, plain_append.2 ⟨by decide, hn⟩⟩
    · exact ih (position + 1) p hp

theorem plain_entryPieces (e : Entry) : ∀ p ∈ e.pieces, Plain p.text ∧ Plain p.tag := by
  have hl : Plain (utf8 "\n  ") := by decide
  have hc : Plain (utf8 "/instruction") := by decide
  intro p hp
  simp only [Entry.pieces, List.mem_cons, List.mem_append, List.not_mem_nil, or_false] at hp
  rcases hp with rfl | hp | rfl
  · refine ⟨hl, plain_append.2 ⟨plain_append.2 ⟨by decide, ?_⟩, ?_⟩⟩
    · exact plain_attr (by decide) (plain_decimal e.order)
    · exact plain_attr (by decide) (plain_escape e.opcode)
  · exact plain_argumentPieces 1 e.arguments p hp
  · refine ⟨?_, hc⟩
    split
    · decide
    · exact hl

theorem plain_pieces (d : Document) : ∀ p ∈ d.pieces, Plain p.text ∧ Plain p.tag := by
  have hl : Plain (utf8 "\n") := by decide
  have hc : Plain (utf8 "/program") := by decide
  intro p hp
  simp only [Document.pieces, List.mem_cons, List.mem_append, List.not_mem_nil, or_false] at hp
  rcases hp with (rfl | rfl) | hp | rfl
  · decide
  · decide
  · obtain ⟨e, -, he⟩ := List.mem_flatMap.1 hp
    exact plain_entryPieces e p he
  · refine ⟨?_, hc⟩
    split
    · decide
    · exact hl

theorem pieces?_render (d : Document) : pieces? d.render = some (d.pieces, utf8 "\n") := by
  rw [render_eq_written]
  exact pieces?_written (plain_pieces d) (by decide)

/-! ## Brackets are those of tags -/

theorem Piece.count_written {p : Piece} (hx : Plain p.text) (ht : Plain p.tag) {b : UInt8}
    (hb : b = lessThan ∨ b = greaterThan) : p.written.count b = 1 := by
  have hbx : p.text.count b = 0 := by
    rcases hb with rfl | rfl
    · exact List.count_eq_zero.2 hx.1
    · exact List.count_eq_zero.2 hx.2
  have hbt : p.tag.count b = 0 := by
    rcases hb with rfl | rfl
    · exact List.count_eq_zero.2 ht.1
    · exact List.count_eq_zero.2 ht.2
  have hone : (utf8 "<").count b + (utf8 ">").count b = 1 := by
    rcases hb with rfl | rfl <;> decide
  unfold Piece.written
  simp only [List.count_append, hbx, hbt]
  omega

theorem count_written {pieces : List Piece} (h : ∀ p ∈ pieces, Plain p.text ∧ Plain p.tag)
    {b : UInt8} (hb : b = lessThan ∨ b = greaterThan) :
    (written pieces).count b = pieces.length := by
  induction pieces with
  | nil => rfl
  | cons p pieces ih =>
    obtain ⟨⟨hx, ht⟩, hp⟩ := List.forall_mem_cons.1 h
    have hw : written (p :: pieces) = p.written ++ written pieces := rfl
    rw [hw, List.count_append, Piece.count_written hx ht hb, ih hp, List.length_cons, Nat.add_comm]

theorem length_argumentPieces (position : Nat) (arguments : List Argument) :
    (argumentPieces position arguments).length = 2 * arguments.length := by
  induction arguments generalizing position with
  | nil => rfl
  | cons a arguments ih =>
    rw [argumentPieces, List.length_append, ih, List.length_cons]
    have ha : (a.pieces position).length = 2 := rfl
    omega

theorem length_entryPieces (entries : List Entry) :
    (entries.flatMap Entry.pieces).length =
      2 * entries.length + 2 * (entries.flatMap Entry.arguments).length := by
  induction entries with
  | nil => rfl
  | cons e entries ih =>
    have he : e.pieces.length = 2 * e.arguments.length + 2 := by
      simp only [Entry.pieces, List.length_cons, List.length_append, length_argumentPieces,
        List.length_nil]
    simp only [List.flatMap_cons, List.length_append, ih, he, List.length_cons]
    omega

theorem length_pieces (d : Document) :
    d.pieces.length =
      3 + 2 * d.entries.length + 2 * (d.entries.flatMap Entry.arguments).length := by
  simp only [Document.pieces, List.length_append, List.length_cons, List.length_nil,
    length_entryPieces]
  omega

/-- A document has no angle brackets but those of its tags. -/
theorem count_render (d : Document) {b : UInt8} (hb : b = lessThan ∨ b = greaterThan) :
    d.render.count b =
      3 + 2 * d.entries.length + 2 * (d.entries.flatMap Entry.arguments).length := by
  have hn : (utf8 "\n").count b = 0 := by
    rcases hb with rfl | rfl <;> decide
  rw [render_eq_written, List.count_append, count_written (plain_pieces d) hb, hn, Nat.add_zero,
    length_pieces]

/-! ## Tags -/

theorem splitOn_quoted {front value : Bytes} (hf : quotationMark ∉ front)
    (hv : quotationMark ∉ value) (rest : Bytes) :
    (front ++ utf8 "\"" ++ value ++ utf8 "\"" ++ rest).splitOn quotationMark =
      front :: value :: rest.splitOn quotationMark := by
  have hs : front ++ utf8 "\"" ++ value ++ utf8 "\"" ++ rest =
      front ++ quotationMark :: (value ++ quotationMark :: rest) := by
    simp only [List.append_assoc]
    rfl
  rw [hs, List.splitOn_append_cons_self_of_not_mem hf,
    List.splitOn_append_cons_self_of_not_mem hv]

theorem quotationMark_not_mem_escape (text : Bytes) : quotationMark ∉ escape text :=
  not_mem_escape (by decide) text

theorem not_mem_decimal {b : UInt8} (hb : b ∉ utf8 "-0123456789") (n : Int) : b ∉ decimal n :=
  fun h => hb (mem_decimal h)

theorem not_mem_argumentName {b : UInt8} (ha : b ∉ utf8 "arg") (hb : b ∉ utf8 "-0123456789")
    (position : Nat) : b ∉ argumentName position := by
  unfold argumentName
  simp [ha, not_mem_decimal hb]

theorem read?_closing {name : Bytes} (h : quotationMark ∉ name) :
    Tag.read? (utf8 "/" ++ name) = some (.closing name) := by
  have hs : quotationMark ∉ utf8 "/" := by decide
  unfold Tag.read?
  rw [List.splitOn_eq_singleton (by simp [hs, h])]
  simp only [after?_append, Option.map_some]

theorem read?_instruction (order : Int) (opcode : Bytes) :
    Tag.read? (utf8 "instruction" ++ attr (utf8 "order") (decimal order) ++
      attr (utf8 "opcode") (escape opcode)) = some (.instruction order (sanitize opcode)) := by
  have hs : utf8 "instruction" ++ attr (utf8 "order") (decimal order) ++
      attr (utf8 "opcode") (escape opcode) =
        utf8 "instruction order=" ++ utf8 "\"" ++ decimal order ++ utf8 "\"" ++
          (utf8 " opcode=" ++ utf8 "\"" ++ escape opcode ++ utf8 "\"" ++ []) := by
    simp only [attr, List.append_assoc, List.append_nil]
    rfl
  have hq : quotationMark ∉ decimal order := not_mem_decimal (by decide) order
  unfold Tag.read?
  rw [hs, splitOn_quoted (by decide) hq,
    splitOn_quoted (by decide) (quotationMark_not_mem_escape opcode), List.splitOn_nil]
  simp only [if_true, readDecimal?_decimal, unescape_escape]
  rfl

theorem read?_argument (position : Nat) (type : Bytes) :
    Tag.read? (argumentName position ++ attr (utf8 "type") (escape type)) =
      some (.argument (argumentName position) (sanitize type)) := by
  have hs : argumentName position ++ attr (utf8 "type") (escape type) =
      (argumentName position ++ 0x20 :: utf8 "type=") ++ utf8 "\"" ++ escape type ++
        utf8 "\"" ++ [] := by
    simp only [attr, List.append_assoc, List.append_nil]
    rfl
  have hq : quotationMark ∉ argumentName position ++ 0x20 :: utf8 "type=" := by
    have ht : quotationMark ∉ 0x20 :: utf8 "type=" := by decide
    have hn := not_mem_argumentName (b := quotationMark) (by decide) (by decide)
    rw [List.mem_append, not_or]
    exact ⟨hn position, ht⟩
  have hb : 0x20 ∉ argumentName position :=
    not_mem_argumentName (by decide) (by decide) position
  -- the names of the two elements with one attribute differ in their first letter
  have hne : argumentName position ++ 0x20 :: utf8 "type=" ≠ utf8 "program language=" := by
    intro h
    cases (List.cons.inj h).1
  have hp : (utf8 "arg").isPrefixOf (argumentName position) = true := rfl
  unfold Tag.read?
  rw [hs, splitOn_quoted hq (quotationMark_not_mem_escape type), List.splitOn_nil]
  simp only [if_neg hne]
  unfold Tag.ofArgument?
  rw [List.splitOn_append_cons_self_of_not_mem hb, List.splitOn_eq_singleton (by decide)]
  simp only [hp, true_and, if_true, unescape_escape, Option.map_some]

/-! ## Elements -/

def Argument.element (position : Nat) (a : Argument) : ArgumentElement :=
  ⟨argumentName position, sanitize a.type, sanitize a.value⟩

def elementsFrom (position : Nat) (arguments : List Argument) : List ArgumentElement :=
  arguments.mapIdx fun k a => a.element (position + k)

def Entry.element (e : Entry) : InstructionElement :=
  ⟨e.order, sanitize e.opcode, elementsFrom 1 e.arguments⟩

theorem elementsFrom_cons (position : Nat) (a : Argument) (rest : List Argument) :
    elementsFrom position (a :: rest) =
      a.element position :: elementsFrom (position + 1) rest := by
  unfold elementsFrom
  rw [List.mapIdx_cons]
  simp only [Nat.add_zero, Nat.add_assoc, Nat.add_comm 1]

/-- Between elements, a tag behind layout is taken as it is. -/
theorem step_of_layout (opened : Opened) {text bs : Bytes} {tag : Tag}
    (ho : ∀ read current name type, opened ≠ .argument read current name type)
    (ht : isLayout text = true) (hr : Tag.read? bs = some tag) :
    opened.step ⟨text, bs⟩ = opened.enter tag := by
  unfold Opened.step
  rw [hr, Option.bind_some]
  cases opened with
  | argument read current name type => exact absurd rfl (ho read current name type)
  | _ => exact if_pos ht

theorem step_argument_closing (read : List InstructionElement) (current : InstructionElement)
    {name : Bytes} (type value : Bytes) (hn : quotationMark ∉ name) :
    (Opened.argument read current name type).step ⟨escape value, utf8 "/" ++ name⟩ =
      some (.instruction read { current with
        arguments := current.arguments ++ [⟨name, type, sanitize value⟩] }) := by
  unfold Opened.step
  rw [read?_closing hn, Option.bind_some]
  simp only [if_true, unescape_escape, Option.map_some]

/-- The pieces of an argument put it into the open instruction. -/
theorem run_argument (read : List InstructionElement) (current : InstructionElement)
    (position : Nat) (a : Argument) :
    (a.pieces position).foldlM Opened.step (.instruction read current) =
      some (.instruction read { current with
        arguments := current.arguments ++ [a.element position] }) := by
  have hn : quotationMark ∉ argumentName position :=
    not_mem_argumentName (by decide) (by decide) position
  have ho := step_of_layout (.instruction read current) (by simp)
    (by decide : isLayout (utf8 "\n    ") = true) (read?_argument position a.type)
  have hc := step_argument_closing read current (sanitize a.type) a.value hn
  rw [Argument.pieces, List.foldlM_cons, ho]
  simp only [Opened.enter, Option.bind_eq_bind, Option.bind_some, List.foldlM_cons, hc]
  rfl

theorem run_arguments (read : List InstructionElement) (current : InstructionElement)
    (position : Nat) (arguments : List Argument) :
    (argumentPieces position arguments).foldlM Opened.step (.instruction read current) =
      some (.instruction read { current with
        arguments := current.arguments ++ elementsFrom position arguments }) := by
  induction arguments generalizing current position with
  | nil =>
    have he : elementsFrom position [] = [] := rfl
    rw [he, List.append_nil]
    rfl
  | cons a arguments ih =>
    rw [argumentPieces, List.foldlM_append, run_argument, Option.bind_eq_bind, Option.bind_some,
      ih, elementsFrom_cons]
    simp only [List.append_assoc, List.singleton_append]

/-- The pieces of an entry put its instruction into the open root element. -/
theorem run_entry (read : List InstructionElement) (e : Entry) :
    e.pieces.foldlM Opened.step (.program read) = some (.program (read ++ [e.element])) := by
  have hl : isLayout (utf8 "\n  ") = true := by decide
  have hb : isLayout (if e.arguments.isEmpty then [] else utf8 "\n  ") = true := by
    split
    · rfl
    · exact hl
  have ho := step_of_layout (.program read) (by simp) hl
    (read?_instruction e.order e.opcode)
  have hc := step_of_layout (.instruction read e.element) (by simp) hb
    (read?_closing (by decide : quotationMark ∉ utf8 "instruction"))
  have ht : utf8 "/" ++ utf8 "instruction" = utf8 "/instruction" := rfl
  rw [ht] at hc
  rw [Entry.pieces, List.foldlM_cons, ho]
  simp only [Opened.enter, Option.bind_eq_bind, Option.bind_some, List.foldlM_append,
    run_arguments, List.nil_append, List.foldlM_cons]
  rw [← Entry.element, hc]
  rfl

theorem run_entries (read : List InstructionElement) (entries : List Entry) :
    (entries.flatMap Entry.pieces).foldlM Opened.step (.program read) =
      some (.program (read ++ entries.map Entry.element)) := by
  induction entries generalizing read with
  | nil =>
    rw [List.map_nil, List.append_nil]
    rfl
  | cons e entries ih =>
    rw [List.flatMap_cons, List.foldlM_append, run_entry, Option.bind_eq_bind, Option.bind_some, ih,
      List.map_cons, List.append_assoc, List.singleton_append]

/-- Reading the pieces of a document from its first to its last leaves its elements. -/
theorem run_pieces (d : Document) :
    d.pieces.foldlM Opened.step .nothing = some (.closed (d.entries.map Entry.element)) := by
  have hl : isLayout (utf8 "\n") = true := by decide
  have hb : isLayout (if d.entries.isEmpty then [] else utf8 "\n") = true := by
    split
    · rfl
    · exact hl
  have hx : Tag.read? (utf8 "?xml version=\"1.0\" encoding=\"UTF-8\"?") = some .declaration := by
    decide
  have hp : Tag.read? (utf8 "program" ++ attr (utf8 "language") language) = some .program := by
    decide
  -- the first two pieces open the root element, the last one closes it
  have h1 := step_of_layout .nothing (by simp) (rfl : isLayout [] = true) hx
  have h2 := step_of_layout .declared (by simp) hl hp
  have h3 := step_of_layout (.program (d.entries.map Entry.element)) (by simp) hb
    (read?_closing (by decide : quotationMark ∉ utf8 "program"))
  have ht : utf8 "/" ++ utf8 "program" = utf8 "/program" := rfl
  rw [ht] at h3
  rw [Document.pieces, List.foldlM_append, List.foldlM_cons, h1]
  simp only [Opened.enter, Option.bind_eq_bind, Option.bind_some, List.foldlM_append,
    List.foldlM_cons, h2, List.foldlM_nil, Option.pure_def, run_entries, List.nil_append, h3]
  rfl

/-- The reader gives back what a document holds. -/
theorem readDocument?_render (d : Document) :
    readDocument? d.render = some (d.entries.map Entry.element) := by
  have hl : isLayout (utf8 "\n") = true := by decide
  unfold readDocument?
  rw [pieces?_render, Option.bind_some]
  simp only [run_pieces, Option.bind_some, hl, if_true]

end AsmXml
