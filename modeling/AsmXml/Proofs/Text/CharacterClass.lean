import AsmXml.Proofs.Text.Decoding

/-! # Texts of one class of characters

White space, printed text and the text of documents are each UTF-8 of characters of one class, and
`MadeOf` says so for any class. Texts of a class can be put together (`MadeOf.append`,
`madeOf_flatMap`) and taken apart (`MadeOf.right`), and plain ASCII belongs to every class that has
its characters (`madeOf_of_isPlainAscii`).
-/

namespace AsmXml.Text

/-- The text is UTF-8 throughout, of characters that satisfy `p`. -/
def MadeOf (p : Char → Bool) (text : Bytes) : Prop :=
  ∃ cs : List Char, text = cs.flatMap String.utf8EncodeChar ∧ ∀ c ∈ cs, p c = true

/-- What holds of the empty text and is kept by appending holds of texts that are put together from
such pieces. -/
theorem flatMap_of_append {P : Bytes → Prop} (hnil : P [])
    (happend : ∀ {xs ys}, P xs → P ys → P (xs ++ ys)) {α : Type} {f : α → Bytes} {pieces : List α}
    (h : ∀ x ∈ pieces, P (f x)) : P (pieces.flatMap f) := by
  induction pieces with
  | nil => exact hnil
  | cons x pieces ih =>
    obtain ⟨hx, hpieces⟩ := List.forall_mem_cons.1 h
    rw [List.flatMap_cons]
    exact happend hx (ih hpieces)

variable {p : Char → Bool}

theorem madeOf_nil : MadeOf p [] :=
  ⟨[], rfl, by simp⟩

theorem madeOf_char {c : Char} (h : p c = true) : MadeOf p (String.utf8EncodeChar c) :=
  ⟨[c], by simp, by simpa using h⟩

theorem madeOf_utf8 {s : String} (h : s.toList.all p = true) : MadeOf p (utf8 s) :=
  ⟨s.toList, rfl, List.all_eq_true.1 h⟩

theorem MadeOf.append {xs ys : Bytes} (hx : MadeOf p xs) (hy : MadeOf p ys) :
    MadeOf p (xs ++ ys) := by
  obtain ⟨cs, rfl, hc⟩ := hx
  obtain ⟨ds, rfl, hd⟩ := hy
  exact ⟨cs ++ ds, List.flatMap_append.symm, List.forall_mem_append.2 ⟨hc, hd⟩⟩

theorem madeOf_flatMap {α : Type} {f : α → Bytes} {pieces : List α}
    (h : ∀ x ∈ pieces, MadeOf p (f x)) : MadeOf p (pieces.flatMap f) :=
  flatMap_of_append madeOf_nil MadeOf.append h

theorem madeOf_iff {text : Bytes} :
    MadeOf p text ↔ ∃ cs : List Char, decode text = cs.map .char ∧ ∀ c ∈ cs, p c = true := by
  constructor
  · rintro ⟨cs, rfl, hc⟩
    exact ⟨cs, decode_chars cs, hc⟩
  · rintro ⟨cs, hd, hc⟩
    refine ⟨cs, ?_, hc⟩
    rw [← encode_chars, ← hd, encode_decode]

/-- What stands behind characters in a text of a class is a text of the class. -/
theorem MadeOf.right {s : String} {text : Bytes} (h : MadeOf p (utf8 s ++ text)) :
    MadeOf p text := by
  obtain ⟨cs, hd, hc⟩ := madeOf_iff.1 h
  rw [decode_utf8_append] at hd
  obtain ⟨front, back, rfl, -, hb⟩ := List.map_eq_append_iff.1 hd.symm
  exact madeOf_iff.2 ⟨back, hb.symm, fun c hm => hc c (List.mem_append_right front hm)⟩

/-- An ASCII byte in a text of a class is a character of the class. -/
theorem MadeOf.of_mem {text : Bytes} (h : MadeOf p text) {b : UInt8} (hb : b.toNat < 0x80)
    (hm : b ∈ text) : p (Char.ofNat b.toNat) = true := by
  obtain ⟨cs, hd, hc⟩ := madeOf_iff.1 h
  have hg := mem_decode_of_mem hb hm
  rw [hd] at hg
  obtain ⟨c, hcs, he⟩ := List.mem_map.1 hg
  rw [← Glyph.char.inj he]
  exact hc c hcs

/-! ## Plain ASCII -/

/-- The text is ASCII without control characters. -/
def isPlainAscii (text : Bytes) : Bool :=
  text.all fun b => 0x20 ≤ b.toNat && b.toNat ≤ 0x7e

theorem isPlainAscii_iff {text : Bytes} :
    isPlainAscii text = true ↔ ∀ b ∈ text, 0x20 ≤ b.toNat ∧ b.toNat ≤ 0x7e := by
  simp [isPlainAscii]

theorem isPlainAscii_append {xs ys : Bytes} (hx : isPlainAscii xs = true)
    (hy : isPlainAscii ys = true) : isPlainAscii (xs ++ ys) = true := by
  unfold isPlainAscii at hx hy ⊢
  rw [List.all_append, hx, hy]
  rfl

/-- Plain ASCII belongs to every class that has its characters. -/
theorem madeOf_of_isPlainAscii
    (hp : ∀ {c : Char}, 0x20 ≤ c.toNat → c.toNat ≤ 0x7e → p c = true) {text : Bytes}
    (h : isPlainAscii text = true) : MadeOf p text := by
  have hbytes : MadeOf p (text.flatMap fun b => [b]) := by
    refine madeOf_flatMap fun b hb => ?_
    obtain ⟨hl, hu⟩ := isPlainAscii_iff.1 h b hb
    have hn := toNat_byteChar b
    rw [← utf8EncodeChar_ofNat (by omega : b.toNat < 0x80)]
    exact madeOf_char (hp (by omega) (by omega))
  rwa [List.flatMap_singleton'] at hbytes

end AsmXml.Text
