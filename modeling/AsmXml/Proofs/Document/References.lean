import AsmXml.Document.Escape
import AsmXml.Proofs.Text.CharacterClass

/-! # Text of documents, read back

What a document holds for a text is the text with every stray byte and every character that has no
place in a document replaced (`sanitize`). `unescape` undoes the eight references, and reads from an
escaped text exactly what the document holds for it (`unescape_escape`). An escaped text has none of
the bytes that end a text or a value, and none that lays out a text (`not_mem_escape_of_mem`).
-/

namespace AsmXml

open Text

/-- The text that a document holds for a text. -/
def sanitize (text : Bytes) : Bytes :=
  encode ((decode text).map fun g => .char g.sanitized)

/-- A text of characters that a document can hold. -/
def XmlText (text : Bytes) : Prop :=
  MadeOf isXmlChar text

def ampersand : UInt8 := 0x26

def references : List (Bytes × Char) :=
  [(utf8 "&#34;", Char.ofNat 0x22), (utf8 "&#39;", Char.ofNat 0x27),
    (utf8 "&amp;", Char.ofNat 0x26), (utf8 "&lt;", Char.ofNat 0x3c),
    (utf8 "&gt;", Char.ofNat 0x3e), (utf8 "&#x9;", Char.ofNat 0x09),
    (utf8 "&#xA;", Char.ofNat 0x0a), (utf8 "&#xD;", Char.ofNat 0x0d)]

/-- The text behind the first `skip` bytes with its references undone, if all of them are known. -/
def unescapeAfter : Nat → Bytes → Option Bytes
  | _, [] => some []
  | skip + 1, _ :: rest => unescapeAfter skip rest
  | 0, b :: rest =>
    if b = ampersand then
      match references.find? (·.1.isPrefixOf (b :: rest)) with
      | some (r, c) => (unescapeAfter (r.length - 1) rest).map ((Glyph.char c).bytes ++ ·)
      | none => none
    else (unescapeAfter 0 rest).map (b :: ·)

/-- The text with its references undone, if all of them are known. -/
def unescape (text : Bytes) : Option Bytes :=
  unescapeAfter 0 text

/-! ## Undoing references -/

theorem unescape_append_of_not_mem {text : Bytes} (h : ampersand ∉ text) (rest : Bytes) :
    unescape (text ++ rest) = (unescape rest).map (text ++ ·) := by
  induction text with
  | nil => simp
  | cons b text ih =>
    obtain ⟨hb, ht⟩ : ampersand ≠ b ∧ ampersand ∉ text := by simpa using h
    have hs : unescape (b :: text ++ rest) = (unescape (text ++ rest)).map (b :: ·) := by
      rw [List.cons_append, unescape, unescapeAfter, if_neg (Ne.symm hb)]
      rfl
    rw [hs, ih ht, Option.map_map]
    rfl

theorem unescape_reference_append {r : Bytes} {c : Char} (h : (r, c) ∈ references)
    (rest : Bytes) :
    unescape (r ++ rest) = (unescape rest).map ((Glyph.char c).bytes ++ ·) := by
  simp only [references, List.mem_cons, Prod.mk.injEq, List.not_mem_nil, or_false] at h
  rcases h with ⟨rfl, rfl⟩ | ⟨rfl, rfl⟩ | ⟨rfl, rfl⟩ | ⟨rfl, rfl⟩ | ⟨rfl, rfl⟩ | ⟨rfl, rfl⟩ |
    ⟨rfl, rfl⟩ | ⟨rfl, rfl⟩
  all_goals rfl

theorem mem_references_of_reference? {c : Char} {r : Bytes} (h : reference? c = some r) :
    (r, c) ∈ references := by
  have hc : c = Char.ofNat c.toNat := (Char.ofNat_toNat c).symm
  unfold reference? at h
  split at h
  all_goals cases h
  all_goals
    next hn =>
    rw [hn] at hc
    subst hc
    simp [references]

/-- A byte that has a reference stands for no character without one. -/
theorem not_mem_of_reference?_eq_none {b : UInt8} (hb : b.toNat < 0x80)
    (hr : reference? (Char.ofNat b.toNat) ≠ none) {c : Char} (hn : reference? c = none) :
    b ∉ (Glyph.char c).bytes := by
  intro hm
  have hc := toNat_eq_of_mem_utf8EncodeChar hb hm
  rw [← hc, Char.ofNat_toNat] at hr
  exact hr hn

theorem escapeGlyph_cases (g : Glyph) :
    (escapeGlyph g, g.sanitized) ∈ references ∨
      reference? g.sanitized = none ∧ escapeGlyph g = (Glyph.char g.sanitized).bytes := by
  cases h : reference? g.sanitized with
  | some r =>
    have he : escapeGlyph g = r := by simp [escapeGlyph, h]
    rw [he]
    exact Or.inl (mem_references_of_reference? h)
  | none => exact Or.inr ⟨rfl, by simp [escapeGlyph, h]⟩

theorem unescape_escapeGlyph_append (g : Glyph) (rest : Bytes) :
    unescape (escapeGlyph g ++ rest) =
      (unescape rest).map ((Glyph.char g.sanitized).bytes ++ ·) := by
  rcases escapeGlyph_cases g with h | ⟨hn, he⟩
  · exact unescape_reference_append h rest
  · rw [he]
    exact unescape_append_of_not_mem (not_mem_of_reference?_eq_none (by decide) (by decide) hn) rest

/-- Undoing the references of an escaped text gives what the document holds for the text. -/
theorem unescape_escape (text : Bytes) : unescape (escape text) = some (sanitize text) := by
  unfold escape sanitize
  induction decode text with
  | nil => rfl
  | cons g gs ih =>
    rw [List.flatMap_cons, unescape_escapeGlyph_append, ih, Option.map_some, List.map_cons,
      encode_cons]

/-! ## Escaped text among markup -/

/-- The bytes that end a text or a value in a document. -/
def markup : Bytes := utf8 "<>\""

/-- The bytes that lay out a text: tabulator, line feed and carriage return. -/
def layoutBytes : Bytes := utf8 "\t\n\r"

/-- Markup and layout are written as references, which are made of other bytes. -/
theorem reference?_of_mem : ∀ b ∈ markup ++ layoutBytes, b.toNat < 0x80 ∧
    reference? (Char.ofNat b.toNat) ≠ none ∧ ∀ r ∈ references, b ∉ r.1 := by
  decide +kernel

theorem not_mem_escape_of_mem {b : UInt8} (hb : b ∈ markup ++ layoutBytes) (text : Bytes) :
    b ∉ escape text := by
  obtain ⟨hlt, hr, hnot⟩ := reference?_of_mem b hb
  intro h
  obtain ⟨g, -, hg⟩ := List.mem_flatMap.1 h
  rcases escapeGlyph_cases g with hm | ⟨hn, he⟩
  · exact hnot _ hm hg
  · rw [he] at hg
    exact not_mem_of_reference?_eq_none hlt hr hn hg

/-- No escaped text ends the text or the value it stands in. -/
theorem not_mem_escape {b : UInt8} (hb : b ∈ markup) (text : Bytes) : b ∉ escape text :=
  not_mem_escape_of_mem (List.mem_append_left _ hb) text

/-- No escaped text begins a line of its own. -/
theorem layout_not_mem_escape {b : UInt8} (hb : b ∈ layoutBytes) (text : Bytes) :
    b ∉ escape text :=
  not_mem_escape_of_mem (List.mem_append_right _ hb) text

/-! ## What a document holds -/

theorem decode_sanitize (text : Bytes) :
    decode (sanitize text) = (decode text).map fun g => .char g.sanitized := by
  have h := decode_chars ((decode text).map Glyph.sanitized)
  rwa [← encode_chars, List.map_map] at h

theorem isXmlChar_sanitized (g : Glyph) : isXmlChar g.sanitized = true := by
  have hr : isXmlChar replacement = true := by decide
  cases g with
  | char c =>
    rw [Glyph.sanitized]
    split
    · assumption
    · exact hr
  | stray b => exact hr

theorem sanitized_of_isXmlChar {c : Char} (h : isXmlChar c = true) :
    (Glyph.char c).sanitized = c := by
  rw [Glyph.sanitized, if_pos h]

/-- A document holds a text as it is if it can. -/
theorem sanitize_of_xmlText {text : Bytes} (h : XmlText text) : sanitize text = text := by
  obtain ⟨cs, rfl, hc⟩ := h
  unfold sanitize
  rw [decode_chars, List.map_map, ← encode_chars]
  exact congrArg encode (List.map_congr_left fun c hm =>
    congrArg Glyph.char (sanitized_of_isXmlChar (hc c hm)))

end AsmXml
