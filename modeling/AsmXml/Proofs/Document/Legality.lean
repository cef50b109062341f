import AsmXml.Proofs.Document.ReadBack
import AsmXml.Proofs.Document.Tokens
import AsmXml.Proofs.Document.Untyped

/-! # Documents are legal text in a fixed layout

Every part of a document is legal (`Legal`): UTF-8 of characters that a document can hold, without
tabulators and carriage returns, in which an ampersand always begins one of the eight references.
Legal texts can be put together, so that a whole document is legal, whatever bytes its program holds
(`legal_render`). No text of the program brings a line feed along, and the lines of a document are
counted by the operands of its instructions alone (`count_lineFeed_render`).
-/

namespace AsmXml

open Text

def tabulator : UInt8 := 0x09

def carriageReturn : UInt8 := 0x0d

/-- Every ampersand of the text begins a reference. -/
def Referenced (text : Bytes) : Prop :=
  ∀ front back, text = front ++ ampersand :: back → ∃ r ∈ references, r.1 <+: ampersand :: back

/-- Text as it stands in documents. -/
structure Legal (text : Bytes) : Prop where
  xmlText : XmlText text
  referenced : Referenced text
  no_layout : ∀ b ∈ [tabulator, carriageReturn], b ∉ text

/-! ## Putting texts together -/

theorem referenced_of_not_mem {text : Bytes} (h : ampersand ∉ text) : Referenced text := by
  rintro front back rfl
  exact absurd (by simp) h

theorem Referenced.append {xs ys : Bytes} (hx : Referenced xs) (hy : Referenced ys) :
    Referenced (xs ++ ys) := by
  intro front back h
  rcases List.append_eq_append_iff.1 h with ⟨rest, rfl, hr⟩ | ⟨rest, rfl, hr⟩
  · exact hy rest back hr
  · cases rest with
    | nil => exact hy [] back hr.symm
    | cons b rest =>
      -- the ampersand stands in the first text, and its reference goes on to the right
      obtain ⟨rfl, rfl⟩ := List.cons.inj hr
      obtain ⟨r, hm, hp⟩ := hx front rest rfl
      exact ⟨r, hm, hp.trans (List.prefix_append (ampersand :: rest) ys)⟩

theorem Legal.append {xs ys : Bytes} (hx : Legal xs) (hy : Legal ys) : Legal (xs ++ ys) where
  xmlText := hx.xmlText.append hy.xmlText
  referenced := hx.referenced.append hy.referenced
  no_layout b hb hm := (List.mem_append.1 hm).elim (hx.no_layout b hb) (hy.no_layout b hb)

theorem legal_nil : Legal [] where
  xmlText := madeOf_nil
  referenced := referenced_of_not_mem (by simp)
  no_layout := by simp

theorem legal_flatMap {α : Type} {f : α → Bytes} {xs : List α} (h : ∀ x ∈ xs, Legal (f x)) :
    Legal (xs.flatMap f) :=
  flatMap_of_append legal_nil Legal.append h

/-! ## Text of tags -/

/-- The byte is a line feed, or printable in ASCII and no ampersand. -/
def isTagByte (b : UInt8) : Bool :=
  b == lineFeed || 0x20 ≤ b.toNat && b.toNat < 0x7f && b != ampersand

theorem legal_tagByte {b : UInt8} (h : isTagByte b = true) : Legal [b] := by
  simp only [isTagByte, Bool.or_eq_true, Bool.and_eq_true, beq_iff_eq, decide_eq_true_eq,
    bne_iff_ne] at h
  rcases h with rfl | ⟨⟨hl, hu⟩, ha⟩
  · exact ⟨@madeOf_utf8 _ "\n" rfl, referenced_of_not_mem (by decide),
      by simp [tabulator, carriageReturn, lineFeed]⟩
  · have hp : isPlainAscii [b] = true :=
      isPlainAscii_iff.2 (List.forall_mem_singleton.2 ⟨hl, by omega⟩)
    refine ⟨xmlText_of_ascii hp, referenced_of_not_mem fun hm => ?_, fun c hc hm => ?_⟩
    · exact ha (List.mem_singleton.1 hm).symm
    · have hlow : ∀ c ∈ [tabulator, carriageReturn], c.toNat < 0x20 := by
        simp [tabulator, carriageReturn]
      have := hlow c hc
      rw [List.mem_singleton.1 hm] at this
      omega

theorem legal_of_all {text : Bytes} (h : text.all isTagByte = true) : Legal text := by
  have hl : Legal (text.flatMap fun b => [b]) :=
    legal_flatMap fun b hb => legal_tagByte (List.all_eq_true.1 h b hb)
  rwa [List.flatMap_singleton'] at hl

theorem legal_decimal (n : Int) : Legal (decimal n) := by
  have hd : (utf8 "-0123456789").all isTagByte = true := rfl
  exact legal_of_all (List.all_eq_true.2 fun b hb => List.all_eq_true.1 hd b (mem_decimal hb))

/-! ## Escaped texts -/

theorem mem_layoutBytes : ∀ b ∈ [tabulator, carriageReturn], b ∈ markup ++ layoutBytes := by
  have hbytes : layoutBytes = [tabulator, lineFeed, carriageReturn] := rfl
  simp [hbytes]

/-- A reference is legal: its only ampersand is its first byte. -/
theorem legal_reference {r : Bytes × Char} (h : r ∈ references) : Legal r.1 := by
  have htable : references.all
      (fun r => r.1.head? == some ampersand && r.1.tail.all isTagByte) = true := by decide
  have hr := List.all_eq_true.1 htable r h
  simp only [Bool.and_eq_true, beq_iff_eq] at hr
  obtain ⟨tail, he⟩ := List.head?_eq_some_iff.1 hr.1
  rw [he, List.tail_cons] at hr
  have hx : XmlText (ampersand :: tail) :=
    (@madeOf_utf8 _ "&" rfl).append (legal_of_all hr.2).xmlText
  refine ⟨he ▸ hx, ?_, fun b hb => (reference?_of_mem b (mem_layoutBytes b hb)).2.2 r h⟩
  rw [he]
  rintro (_ | ⟨b, front⟩) back hb
  · exact ⟨r, h, (he.trans hb) ▸ List.prefix_rfl⟩
  · -- no reference has a second ampersand
    obtain ⟨-, rfl⟩ := List.cons.inj hb
    exact absurd (List.all_eq_true.1 hr.2 ampersand (by simp)) (by decide)

theorem legal_escapeGlyph (g : Glyph) : Legal (escapeGlyph g) := by
  rcases escapeGlyph_cases g with h | ⟨hn, he⟩
  · exact legal_reference h
  · rw [he]
    refine ⟨madeOf_char (isXmlChar_sanitized g), referenced_of_not_mem ?_, fun b hb => ?_⟩
    · exact not_mem_of_reference?_eq_none (by decide) (by decide) hn
    · obtain ⟨hlt, hr, -⟩ := reference?_of_mem b (mem_layoutBytes b hb)
      exact not_mem_of_reference?_eq_none hlt hr hn

theorem legal_escape (text : Bytes) : Legal (escape text) :=
  legal_flatMap fun g _ => legal_escapeGlyph g

/-! ## Elements -/

theorem legal_attr {name value : Bytes} (hn : Legal name) (hv : Legal value) :
    Legal (attr name value) :=
  ((((legal_of_all rfl).append hn).append (legal_of_all rfl)).append hv).append (legal_of_all rfl)

theorem legal_block {inner outer : Bytes} (hi : Legal inner) (ho : Legal outer)
    {children : List Bytes} (hc : ∀ c ∈ children, Legal c) :
    Legal (block inner outer children) := by
  have hbreak : Legal (utf8 "\n") := legal_of_all rfl
  unfold block
  split
  · exact legal_nil
  · exact ((legal_flatMap fun c hm => (hbreak.append hi).append (hc c hm)).append hbreak).append ho

theorem legal_argument (position : Nat) (a : Argument) : Legal (a.render position) := by
  have hname : Legal (utf8 "arg" ++ decimal position) :=
    (legal_of_all rfl).append (legal_decimal position)
  have htype := legal_attr (legal_of_all (rfl : (utf8 "type").all isTagByte = true))
    (legal_escape a.type)
  exact (((((((legal_of_all rfl).append hname).append htype).append (legal_of_all rfl)).append
    (legal_escape a.value)).append (legal_of_all rfl)).append hname).append (legal_of_all rfl)

theorem legal_arguments (position : Nat) (arguments : List Argument) :
    ∀ element ∈ renderArguments position arguments, Legal element := by
  induction arguments generalizing position with
  | nil => exact nofun
  | cons a arguments ih =>
    exact List.forall_mem_cons.2 ⟨legal_argument position a, ih (position + 1)⟩

theorem legal_entry (e : Entry) : Legal e.render := by
  have hopcode := legal_attr (legal_of_all (rfl : (utf8 "opcode").all isTagByte = true))
    (legal_escape e.opcode)
  have horder := legal_attr (legal_of_all (rfl : (utf8 "order").all isTagByte = true))
    (legal_decimal e.order)
  have harguments : Legal (block (utf8 "    ") (utf8 "  ") (renderArguments 1 e.arguments)) :=
    legal_block (legal_of_all rfl) (legal_of_all rfl) (legal_arguments 1 e.arguments)
  exact (((((legal_of_all rfl).append horder).append hopcode).append (legal_of_all rfl)).append
    harguments).append (legal_of_all rfl)

/-- A document is legal, whatever bytes its program holds. -/
theorem legal_render (d : Document) : Legal d.render := by
  have hentries : Legal (block (utf8 "  ") [] (d.entries.map Entry.render)) :=
    legal_block (legal_of_all rfl) legal_nil (List.forall_mem_map.2 fun e _ => legal_entry e)
  exact (((((legal_of_all rfl).append (legal_of_all rfl)).append (legal_of_all rfl)).append
    (legal_of_all rfl)).append hentries).append (legal_of_all rfl)

/-! ## Lines -/

/-- The lines of an element with this many children: a line for each of them between the lines of
its two tags, or one line if there are none. -/
def elementLines (children : Nat) : Nat :=
  if children = 0 then 1 else 2 + children

/-- The lines of a document whose instructions have these numbers of operands. -/
def documentLines (shape : List Nat) : Nat :=
  if shape.isEmpty then 2
  else 3 + shape.foldr (fun operands lines => elementLines operands + lines) 0

theorem count_decimal (n : Int) : (decimal n).count lineFeed = 0 :=
  List.count_eq_zero.2 (not_mem_decimal (by decide) n)

theorem count_escape (text : Bytes) : (escape text).count lineFeed = 0 :=
  List.count_eq_zero.2 (layout_not_mem_escape (by decide) text)

theorem count_attr {name value : Bytes} (hn : name.count lineFeed = 0)
    (hv : value.count lineFeed = 0) : (attr name value).count lineFeed = 0 := by
  have hspace : (utf8 " ").count lineFeed = 0 := rfl
  have hopen : (utf8 "=\"").count lineFeed = 0 := rfl
  have hclose : (utf8 "\"").count lineFeed = 0 := rfl
  unfold attr
  simp only [List.count_append, hn, hv, hspace, hopen, hclose]

/-- A block has a line for each child, the lines that the children go on for, and one more. -/
theorem count_block {inner outer : Bytes} (hi : inner.count lineFeed = 0)
    (ho : outer.count lineFeed = 0) (children : List Bytes) :
    (block inner outer children).count lineFeed =
      if children.isEmpty then 0
      else children.foldr (fun child lines => child.count lineFeed + 1 + lines) 0 + 1 := by
  have hbreak : (utf8 "\n").count lineFeed = 1 := rfl
  have hflat : (children.flatMap fun child => utf8 "\n" ++ inner ++ child).count lineFeed =
      children.foldr (fun child lines => child.count lineFeed + 1 + lines) 0 := by
    induction children with
    | nil => rfl
    | cons child children ih =>
      rw [List.flatMap_cons, List.count_append, ih, List.foldr_cons, List.count_append,
        List.count_append, hbreak, hi]
      omega
  unfold block
  split
  · rfl
  · rw [List.count_append, List.count_append, hflat, hbreak, ho]

theorem count_argument (position : Nat) (a : Argument) :
    (a.render position).count lineFeed = 0 := by
  have hname : (utf8 "arg").count lineFeed = 0 := rfl
  have htype := count_attr (rfl : (utf8 "type").count lineFeed = 0) (count_escape a.type)
  have hopen : (utf8 "<").count lineFeed = 0 := rfl
  have hclose : (utf8 ">").count lineFeed = 0 := rfl
  have hend : (utf8 "</").count lineFeed = 0 := rfl
  unfold Argument.render
  simp only [List.count_append, hname, htype, hopen, hclose, hend, count_decimal, count_escape]

theorem foldr_arguments (position : Nat) (arguments : List Argument) :
    (renderArguments position arguments).foldr
      (fun child lines => child.count lineFeed + 1 + lines) 0 = arguments.length := by
  induction arguments generalizing position with
  | nil => rfl
  | cons a arguments ih =>
    rw [renderArguments, List.foldr_cons, ih, count_argument, List.length_cons]
    omega

/-- The element of an instruction begins on a line and ends on one, with a line for each operand
between them. -/
theorem count_entry (e : Entry) :
    e.render.count lineFeed + 1 = elementLines e.arguments.length := by
  have horder := count_attr (rfl : (utf8 "order").count lineFeed = 0) (count_decimal e.order)
  have hopcode := count_attr (rfl : (utf8 "opcode").count lineFeed = 0) (count_escape e.opcode)
  have hblock := count_block (rfl : (utf8 "    ").count lineFeed = 0)
    (rfl : (utf8 "  ").count lineFeed = 0) (renderArguments 1 e.arguments)
  have hopen : (utf8 "<instruction").count lineFeed = 0 := rfl
  have hclose : (utf8 ">").count lineFeed = 0 := rfl
  have hend : (utf8 "</instruction>").count lineFeed = 0 := rfl
  rw [foldr_arguments, isEmpty_renderArguments] at hblock
  unfold Entry.render elementLines
  simp only [List.count_append, horder, hopcode, hblock, hopen, hclose, hend,
    List.isEmpty_iff_length_eq_zero]
  split <;> omega

theorem foldr_entries (entries : List Entry) :
    (entries.map Entry.render).foldr (fun child lines => child.count lineFeed + 1 + lines) 0 =
      (entries.map fun e => e.arguments.length).foldr
        (fun operands lines => elementLines operands + lines) 0 := by
  induction entries with
  | nil => rfl
  | cons e entries ih =>
    rw [List.map_cons, List.foldr_cons, ih, count_entry, List.map_cons, List.foldr_cons]

/-- The lines of a document are counted by the operands of its instructions. -/
theorem count_lineFeed_render (d : Document) :
    d.render.count lineFeed = documentLines (d.entries.map fun e => e.arguments.length) := by
  have hlanguage := count_attr (rfl : (utf8 "language").count lineFeed = 0)
    (rfl : language.count lineFeed = 0)
  have hblock := count_block (rfl : (utf8 "  ").count lineFeed = 0) List.count_nil
    (d.entries.map Entry.render)
  have hdeclaration : declaration.count lineFeed = 1 := rfl
  have hopen : (utf8 "<program").count lineFeed = 0 := rfl
  have hclose : (utf8 ">").count lineFeed = 0 := rfl
  have hend : (utf8 "</program>\n").count lineFeed = 1 := rfl
  rw [foldr_entries, List.isEmpty_map] at hblock
  unfold Document.render documentLines
  simp only [List.count_append, hlanguage, hblock, hdeclaration, hopen, hclose, hend,
    List.isEmpty_map]
  split <;> omega

/-! ## Generated documents -/

/-- **Every document is legal text in a layout that only the numbers of operands decide.** Whatever
bytes the opcodes and operands of a program hold, its document is UTF-8 of characters that a
document can hold, every ampersand in it begins a reference, there is no tabulator and no carriage
return, and the number of line feeds is that of the shape of the program. -/
theorem generated_document_legal {program : List Instruction} {document : Bytes}
    (h : generate .accepting program = .ok ⟨document, none⟩) :
    (∃ cs, chars? document = some cs ∧ ∀ c ∈ cs, isXmlChar c = true) ∧
      (∀ front back, document = front ++ ampersand :: back →
        ∃ r ∈ references, r.1 <+: ampersand :: back) ∧
      tabulator ∉ document ∧ carriageReturn ∉ document ∧
      document.count lineFeed = documentLines (program.map fun i => i.operands.length) := by
  obtain ⟨-, rfl⟩ := generate_eq_ok_iff.1 h
  have hl := legal_render ⟨program.map Instruction.entry⟩
  obtain ⟨cs, hcs, hxml⟩ := hl.xmlText
  refine ⟨⟨cs, by rw [hcs, chars?_chars], hxml⟩, hl.referenced, hl.no_layout _ (by simp),
    hl.no_layout _ (by simp), ?_⟩
  rw [count_lineFeed_render, List.map_map]
  congr 1
  exact List.map_congr_left fun i _ => List.length_map _

/-- An opcode and an operand that try to break lines, with bytes that no document can hold. -/
def unruly : List Instruction :=
  [⟨1, utf8 "break\r\n", []⟩,
    ⟨2, utf8 "write", [⟨utf8 "string@\t&\n</arg1>\n" ++ [0x00, 0xff], .string⟩]⟩]

theorem generated_document_legal_unruly :
    ∃ document, generate .accepting unruly = .ok ⟨document, none⟩ ∧ tabulator ∉ document ∧
      carriageReturn ∉ document ∧ document.count lineFeed = 7 := by
  have hr : Renderable unruly := by
    simp [Renderable, unruly, Category.isConcrete]
  obtain ⟨-, -, htab, hreturn, hlines⟩ := generated_document_legal (generate_accepting hr)
  exact ⟨_, generate_accepting hr, htab, hreturn, hlines⟩

end AsmXml
