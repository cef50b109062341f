import AsmXml.Proofs.Acceptance
import AsmXml.Proofs.Document.Tokens

/-! # Spellings of opcodes

A token names an opcode if it has as many characters and each of them is a variant of the character
in its place: the character itself, its small form, or one of two letters outside ASCII whose upper
case is an `I` or an `S` (`Variant`, `lookup?_eq_some_iff_spelling`). It is the same opcode wherever
the token is looked up, be it as written or in upper case, and documents show it as the instruction
set has it (`opcode_matching`).
-/

namespace AsmXml

open Text

/-! ## Characters -/

/-- A digit or a capital letter of ASCII, as opcodes consist of. -/
def IsOpcodeChar (n : Char) : Prop :=
  0x30 ≤ n.toNat ∧ n.toNat ≤ 0x39 ∨ 0x41 ≤ n.toNat ∧ n.toNat ≤ 0x5a

/-- The character `c` may stand for `n` in an opcode: it is the same, its small form in ASCII, a
dotless i for an `I`, or a long s for an `S`. -/
def Variant (n c : Char) : Prop :=
  c = n ∨ c = n.toLower ∨ n = 'I' ∧ c = Char.ofNat 0x131 ∨ n = 'S' ∧ c = Char.ofNat 0x17f

theorem toNat_toLower (n : Char) :
    n.toLower.toNat =
      if 0x41 ≤ n.toNat ∧ n.toNat ≤ 0x5a then n.toNat + 0x20 else n.toNat := by
  have hA : 'A'.val.toNat = 0x41 := rfl
  have hZ : 'Z'.val.toNat = 0x5a := rfl
  have hd : ('a'.val - 'A'.val).toNat = 0x20 := rfl
  have hv : n.val.toNat = n.toNat := rfl
  unfold Char.toLower
  simp only [ge_iff_le, UInt32.le_iff_toNat_le, hA, hZ, hv]
  split
  · have ht : (n.val + ('a'.val - 'A'.val)).toNat = n.toNat + 0x20 := by
      rw [UInt32.toNat_add, hd, hv]
      omega
    exact ht
  · rfl

/-- The variants of a character of an opcode are the characters with this upper case. -/
theorem upperChar_eq_iff {n c : Char} (hn : IsOpcodeChar n) : upperChar c = n ↔ Variant n c := by
  unfold IsOpcodeChar at hn
  have hl := toNat_toLower n
  have hI : 'I'.toNat = 0x49 := rfl
  have hS : 'S'.toNat = 0x53 := rfl
  constructor
  · rintro rfl
    rcases upperChar_cases c with ⟨hu, -⟩ | ⟨hlo, hhi, hu⟩ | ⟨hc, hu⟩ | ⟨hc, hu⟩ | ⟨-, hu, -⟩
    · exact Or.inl hu.symm
    · refine Or.inr (Or.inl (Char.toNat_inj.1 ?_))
      rw [hl, if_pos (by omega), hu]
    · refine Or.inr (Or.inr (Or.inl ⟨Char.toNat_inj.1 (hu.trans hI.symm), ?_⟩))
      rw [← hc, Char.ofNat_toNat]
    · refine Or.inr (Or.inr (Or.inr ⟨Char.toNat_inj.1 (hu.trans hS.symm), ?_⟩))
      rw [← hc, Char.ofNat_toNat]
    · omega
  · rintro (rfl | rfl | ⟨rfl, rfl⟩ | ⟨rfl, rfl⟩)
    · exact upperChar_of_lt (by omega)
    · by_cases hd : 0x41 ≤ n.toNat ∧ n.toNat ≤ 0x5a
      · rw [if_pos hd] at hl
        apply Char.toNat_inj.1
        rcases upperChar_cases n.toLower with h | h | h | h | h
        all_goals omega
      · rw [if_neg hd] at hl
        rw [Char.toNat_inj.1 hl]
        exact upperChar_of_lt (by omega)
    · decide
    · decide

/-! ## Texts -/

/-- Glyphs have the characters of an opcode as upper case exactly if they are variants of them, one
by one. -/
theorem map_upper_eq_iff {name : List Char} (hn : ∀ n ∈ name, IsOpcodeChar n) {gs : List Glyph} :
    gs.map Glyph.upper = name.map .char ↔
      ∃ cs : List Char, gs = cs.map .char ∧ List.Forall₂ Variant name cs := by
  induction name generalizing gs with
  | nil => simp
  | cons n name ih =>
    obtain ⟨hc, hname⟩ := List.forall_mem_cons.1 hn
    constructor
    · intro h
      obtain ⟨g, gs', rfl, hg, hgs⟩ := List.map_eq_cons_iff.1 h
      obtain ⟨cs, rfl, hcs⟩ := (ih hname).1 hgs
      cases g with
      | stray b =>
        -- the replacement character is in no opcode
        have hr : replacement = n := by simpa [Glyph.upper] using hg
        have hv : replacement.toNat = 0xfffd := rfl
        rw [← hr] at hc
        unfold IsOpcodeChar at hc
        omega
      | char c =>
        have hu : upperChar c = n := by simpa [Glyph.upper] using hg
        exact ⟨c :: cs, rfl, .cons ((upperChar_eq_iff hc).1 hu) hcs⟩
    · rintro ⟨_, rfl, _ | ⟨hv, hcs⟩⟩
      rw [List.map_cons, List.map_cons, List.map_cons, (ih hname).2 ⟨_, rfl, hcs⟩, Glyph.upper,
        (upperChar_eq_iff hc).2 hv]

/-- The text has as many characters as the opcode, each a variant of the one in its place. -/
def Spelling (opcode t : Bytes) : Prop :=
  ∃ name cs, chars? opcode = some name ∧ chars? t = some cs ∧ List.Forall₂ Variant name cs

theorem exists_opcode_chars {s : Signature} (hs : s ∈ instructionSet) :
    ∃ name : List Char, decode s.opcode = name.map .char ∧ ∀ n ∈ name, IsOpcodeChar n := by
  have hd := decode_ascii fun b hb => Nat.lt_trans (opcode_lt hs b hb) (by decide)
  refine ⟨s.opcode.map fun b => Char.ofNat b.toNat, by rw [hd, List.map_map]; rfl, ?_⟩
  refine List.forall_mem_map.2 fun b hb => ?_
  have hr := opcode_bytes s hs b hb
  unfold IsOpcodeChar
  rwa [toNat_byteChar]

/-- A text is in upper case an opcode exactly if it is a spelling of it. -/
theorem upper_eq_opcode_iff {s : Signature} (hs : s ∈ instructionSet) {t : Bytes} :
    upper t = s.opcode ↔ Spelling s.opcode t := by
  obtain ⟨name, hname, hn⟩ := exists_opcode_chars hs
  have hu : upper t = s.opcode ↔ (decode t).map Glyph.upper = name.map .char := by
    rw [← hname, ← decode_upper]
    refine ⟨congrArg decode, fun h => ?_⟩
    rw [← encode_decode (upper t), h, encode_decode]
  rw [hu, map_upper_eq_iff hn]
  unfold Spelling
  simp only [chars?_eq_some_iff]
  constructor
  · rintro ⟨cs, hcs, hv⟩
    exact ⟨name, cs, hname, hcs, hv⟩
  · rintro ⟨name', cs, hname', hcs, hv⟩
    have he : name = name' :=
      List.map_injective_iff.2 (fun _ _ => Glyph.char.inj) (hname.symm.trans hname')
    exact ⟨cs, hcs, he ▸ hv⟩

theorem lookup?_eq_some_iff_spelling {t : Bytes} {s : Signature} :
    lookup? t = some s ↔ s ∈ instructionSet ∧ Spelling s.opcode t := by
  rw [lookup?_eq_some_iff]
  exact and_congr_right fun hs => upper_eq_opcode_iff hs

/-! ## Opcodes in documents -/

theorem escapeGlyph_of_isOpcodeChar {n : Char} (hn : IsOpcodeChar n) :
    escapeGlyph (.char n) = (Glyph.char n).bytes := by
  unfold IsOpcodeChar at hn
  have hs : (Glyph.char n).sanitized = n := sanitized_of_isXmlChar (isXmlChar_of_range (by omega))
  have hr : reference? n = none := by
    unfold reference?
    split
    all_goals first | rfl | omega
  simp only [escapeGlyph, hs, hr, Option.getD_none]

theorem escape_opcode {s : Signature} (hs : s ∈ instructionSet) : escape s.opcode = s.opcode := by
  obtain ⟨name, hname, hn⟩ := exists_opcode_chars hs
  have he : escape s.opcode = encode (decode s.opcode) := by
    unfold escape encode
    rw [hname]
    refine List.flatMap_congr fun g hg => ?_
    obtain ⟨n, hm, rfl⟩ := List.mem_map.1 hg
    exact escapeGlyph_of_isOpcodeChar (hn n hm)
  rw [he, encode_decode]

/-- The statement of a line is written under the opcode of the signature that its first field
finds. -/
theorem exists_entry_opcode {line : Line} {t : Bytes} (ht : line.fields.head? = some t)
    {st : Statement} (h : line.check = .ok st) {s : Signature} (hs : lookup? t = some s)
    (order : Nat) :
    ∃ e, Entry.ofInstruction (st.numbered order) = .ok e ∧ e.opcode = s.opcode ∧
      escape e.opcode = s.opcode := by
  obtain ⟨text, fields⟩ := line
  cases fields with
  | nil => cases ht
  | cons first tokens =>
    cases ht
    have hst := Line.check_eq_ok_iff.1 h
    have ho : st.opcode = s.opcode := by
      cases hst with
      | intro hs' _ _ =>
        cases hs.symm.trans hs'
        rfl
    have he : (st.numbered order).entry.opcode = s.opcode := hst.upper_opcode.trans ho
    refine ⟨(st.numbered order).entry, ofInstruction_eq hst.isConcrete, he, ?_⟩
    rw [he, escape_opcode (lookup?_eq_some_iff.1 hs).1]

/-- **A token names one opcode or none, wherever it is looked up.** A line looks up its first field
in upper case, the guard against further opcodes looks up fields as they are written, and both find
the same. A token finds a signature exactly if it is a spelling of its opcode, and it is a spelling
of one opcode at most. The document shows the opcode of the signature as the instruction set has
it. -/
theorem opcode_matching (t : Bytes) :
    lookup? (upper t) = lookup? t ∧
    (∀ line : Line, line.fields.head? = some t → lookup? line.opcode = lookup? t) ∧
    (isOpcode t = true ↔ ∃ s ∈ instructionSet, Spelling s.opcode t) ∧
    (∀ s, lookup? t = some s ↔ s ∈ instructionSet ∧ Spelling s.opcode t) ∧
    (∀ s ∈ instructionSet, ∀ s' ∈ instructionSet,
      Spelling s.opcode t → Spelling s'.opcode t → s = s') ∧
    ∀ s, lookup? t = some s → upper s.opcode = s.opcode ∧
      ∀ line : Line, line.fields.head? = some t → ∀ st, line.check = .ok st → ∀ order : Nat,
        ∃ e, Entry.ofInstruction (st.numbered order) = .ok e ∧ e.opcode = s.opcode ∧
          escape e.opcode = s.opcode := by
  refine ⟨lookup?_upper t, ?_, ?_, fun s => lookup?_eq_some_iff_spelling, ?_, fun s hs => ⟨?_, ?_⟩⟩
  · rintro ⟨text, fields⟩ hf
    cases fields with
    | nil => cases hf
    | cons first tokens =>
      cases hf
      exact Line.lookup?_opcode_eq
  · unfold isOpcode
    simp only [Option.isSome_iff_exists, lookup?_eq_some_iff_spelling]
  · intro s hs s' hs' h h'
    have hl : lookup? t = some s := lookup?_eq_some_iff_spelling.2 ⟨hs, h⟩
    rw [lookup?_eq_some_iff_spelling.2 ⟨hs', h'⟩] at hl
    exact (Option.some.inj hl).symm
  · exact upper_opcode (lookup?_eq_some_iff.1 hs).1
  · exact fun line hf st h order => exists_entry_opcode hf h hs order

/-- An opcode in small letters, with a long s and a dotless i among them. -/
def oddSpelling : Bytes :=
  utf8 "\u017ftr\u01312int"

/-- A line that begins with it. -/
def oddLine : Line :=
  .ofText (oddSpelling ++ utf8 " GF@x string@a int@0")

theorem opcode_matching_oddSpelling :
    lookup? oddSpelling = some ⟨utf8 "STRI2INT", [.var, .symb, .symb]⟩ ∧
      Spelling (utf8 "STRI2INT") oddSpelling ∧ lookup? oddLine.opcode = lookup? oddSpelling ∧
      ∃ st e, oddLine.check = .ok st ∧ Entry.ofInstruction (st.numbered 1) = .ok e ∧
        e.opcode = utf8 "STRI2INT" := by
  have hl : lookup? oddSpelling = some ⟨utf8 "STRI2INT", [.var, .symb, .symb]⟩ := by decide
  have hf : oddLine.fields.head? = some oddSpelling := by decide
  have hc : oddLine.check = .ok ⟨utf8 "STRI2INT", [⟨utf8 "GF@x", .var⟩, ⟨utf8 "string@a", .string⟩,
      ⟨utf8 "int@0", .int⟩]⟩ := rfl
  obtain ⟨-, hline, -, hspelling, -, hentry⟩ := opcode_matching oddSpelling
  obtain ⟨e, he, ho, -⟩ := (hentry _ hl).2 oddLine hf _ hc 1
  exact ⟨hl, ((hspelling _).1 hl).2, hline oddLine hf, _, e, hc, he, ho⟩

end AsmXml
