import AsmXml.Proofs.Text.CharacterClass
import AsmXml.Text.Blank
import Mathlib.Data.List.TakeWhile

/-! # Trimming and fields

A text is what trimming leaves of it, with blanks in front and behind (`exists_blank_around`), so
trimming twice is trimming once and changes no field. The texts that it leaves as they are, are those
with no white space at either end (`trimmed_iff`). Fields are the words between blanks: they are
not empty, hold no blank, and a blank separates the fields before it from those behind it
(`fields_append_blank`), as does any run of blanks (`fields_append_blanks`).
-/

namespace AsmXml.Text

/-! ## Stripping a list -/

section Strip

variable {α : Type} {p : α → Bool}

theorem strip_append_left {front : List α} (h : ∀ x ∈ front, p x = true) (xs : List α) :
    strip p (front ++ xs) = strip p xs := by
  unfold strip
  rw [List.dropWhile_append_of_pos h]

theorem strip_eq_nil {xs : List α} (h : ∀ x ∈ xs, p x = true) : strip p xs = [] := by
  unfold strip
  rw [List.dropWhile_eq_nil_iff.2 h]
  rfl

theorem strip_append_right (xs : List α) {back : List α} (h : ∀ x ∈ back, p x = true) :
    strip p (xs ++ back) = strip p xs := by
  by_cases hx : ∀ x ∈ xs, p x = true
  · rw [strip_append_left hx, strip_eq_nil h, strip_eq_nil hx]
  · have hd : (xs ++ back).dropWhile p = xs.dropWhile p ++ back := by
      rw [List.dropWhile_append, if_neg]
      intro he
      exact hx (List.dropWhile_eq_nil_iff.1 (List.isEmpty_iff.1 he))
    have hr : ∀ x ∈ back.reverse, p x = true := fun x hb => h x (List.mem_reverse.1 hb)
    unfold strip
    rw [hd, List.reverse_append, List.dropWhile_append_of_pos hr]

/-- What `strip` takes away stands at the two ends and satisfies `p`. -/
theorem exists_strip (p : α → Bool) (xs : List α) : ∃ front back,
    xs = front ++ strip p xs ++ back ∧ (∀ x ∈ front, p x = true) ∧ ∀ x ∈ back, p x = true := by
  refine ⟨xs.takeWhile p, ((xs.dropWhile p).reverse.takeWhile p).reverse, ?_, ?_, ?_⟩
  · have hm : (xs.dropWhile p) = strip p xs ++ ((xs.dropWhile p).reverse.takeWhile p).reverse := by
      unfold strip
      rw [← List.reverse_append, List.takeWhile_append_dropWhile, List.reverse_reverse]
    rw [List.append_assoc, ← hm, List.takeWhile_append_dropWhile]
  · intro x hx
    exact List.all_eq_true.1 List.all_takeWhile x hx
  · intro x hx
    exact List.all_eq_true.1 List.all_takeWhile x (List.mem_reverse.1 hx)

theorem strip_isInfix (p : α → Bool) (xs : List α) : strip p xs <:+: xs := by
  obtain ⟨front, back, h, -, -⟩ := exists_strip p xs
  exact ⟨front, back, h.symm⟩

theorem strip_strip (p : α → Bool) (xs : List α) : strip p (strip p xs) = strip p xs := by
  obtain ⟨front, back, h, hf, hb⟩ := exists_strip p xs
  have hs : strip p xs = strip p (front ++ strip p xs ++ back) := congrArg (strip p) h
  rw [strip_append_right _ hb, strip_append_left hf] at hs
  exact hs.symm

theorem strip_eq_nil_iff {xs : List α} : strip p xs = [] ↔ ∀ x ∈ xs, p x = true := by
  refine ⟨fun h => ?_, strip_eq_nil⟩
  obtain ⟨front, back, hx, hf, hb⟩ := exists_strip p xs
  rw [h, List.append_nil] at hx
  intro x hm
  rw [hx] at hm
  rcases List.mem_append.1 hm with hm | hm
  · exact hf x hm
  · exact hb x hm

/-- The pieces of a split are free of separators and stand in the list as they are; the first stands
at its front. -/
theorem splitOnP_pieces (p : α → Bool) (xs : List α) : ∃ first more,
    xs.splitOnP p = first :: more ∧ first <+: xs ∧ (∀ w ∈ more, w <:+: xs) ∧
      ∀ w ∈ first :: more, ∀ x ∈ w, p x = false := by
  induction xs with
  | nil => exact ⟨[], [], rfl, List.prefix_rfl, by simp, by simp⟩
  | cons x xs ih =>
    obtain ⟨first, more, he, hp, hi, hn⟩ := ih
    rw [List.splitOnP_cons_eq_if_modifyHead, he]
    split
    · refine ⟨[], first :: more, rfl, List.nil_prefix, ?_, ?_⟩
      · intro w hw
        rcases List.mem_cons.1 hw with rfl | hw
        · exact hp.isInfix.trans (List.suffix_cons x xs).isInfix
        · exact (hi w hw).trans (List.suffix_cons x xs).isInfix
      · intro w hw
        rcases List.mem_cons.1 hw with rfl | hw
        · simp
        · exact hn w hw
    · next hx =>
      refine ⟨x :: first, more, rfl, List.cons_prefix_cons.2 ⟨rfl, hp⟩, ?_, ?_⟩
      · intro w hw
        exact (hi w hw).trans (List.suffix_cons x xs).isInfix
      · intro w hw
        rcases List.mem_cons.1 hw with rfl | hw
        · intro y hy
          rcases List.mem_cons.1 hy with rfl | hy
          · simpa using hx
          · exact hn first List.mem_cons_self y hy
        · exact hn w (List.mem_cons_of_mem _ hw)

theorem mem_splitOnP {xs w : List α} (h : w ∈ xs.splitOnP p) :
    w <:+: xs ∧ ∀ x ∈ w, p x = false := by
  obtain ⟨first, more, he, hp, hi, hn⟩ := splitOnP_pieces p xs
  rw [he] at h
  refine ⟨?_, hn w h⟩
  rcases List.mem_cons.1 h with rfl | h
  · exact hp.isInfix
  · exact hi w h

end Strip

theorem mem_splitOn {α : Type} [BEq α] [LawfulBEq α] {a : α} {xs w : List α}
    (h : w ∈ xs.splitOn a) : w <:+: xs ∧ a ∉ w := by
  rw [List.splitOn_eq_splitOnP] at h
  obtain ⟨hi, hn⟩ := mem_splitOnP h
  refine ⟨hi, fun ha => ?_⟩
  have := hn a ha
  simp at this

/-! ## Words -/

theorem words_append_blank {g : Glyph} (hg : g.isBlank = true) (xs ys : List Glyph) :
    words (xs ++ g :: ys) = words xs ++ words ys := by
  unfold words
  rw [List.splitOnP_append_cons xs ys hg, List.filter_append]

theorem words_cons_blank {g : Glyph} (hg : g.isBlank = true) (gs : List Glyph) :
    words (g :: gs) = words gs :=
  words_append_blank hg [] gs

theorem words_append_left {front : List Glyph} (h : ∀ g ∈ front, g.isBlank = true)
    (gs : List Glyph) : words (front ++ gs) = words gs := by
  induction front with
  | nil => rfl
  | cons g front ih =>
    rw [List.cons_append, words_cons_blank (h g List.mem_cons_self)]
    exact ih fun g' hg' => h g' (List.mem_cons_of_mem _ hg')

theorem words_eq_nil {gs : List Glyph} (h : ∀ g ∈ gs, g.isBlank = true) : words gs = [] := by
  have := words_append_left h []
  rwa [List.append_nil] at this

theorem words_append_right (gs : List Glyph) {back : List Glyph}
    (h : ∀ g ∈ back, g.isBlank = true) : words (gs ++ back) = words gs := by
  cases back with
  | nil => rw [List.append_nil]
  | cons g back =>
    rw [words_append_blank (h g List.mem_cons_self),
      words_eq_nil fun g' hg' => h g' (List.mem_cons_of_mem _ hg'), List.append_nil]

theorem words_of_not_blank {gs : List Glyph} (hne : gs ≠ []) (h : ∀ g ∈ gs, g.isBlank = false) :
    words gs = [gs] := by
  unfold words
  rw [List.splitOnP_eq_singleton h]
  simp [hne]

theorem mem_words {gs w : List Glyph} (h : w ∈ words gs) :
    w ≠ [] ∧ w <:+: gs ∧ ∀ g ∈ w, g.isBlank = false := by
  obtain ⟨hw, hne⟩ := List.mem_filter.1 h
  exact ⟨by simpa using hne, mem_splitOnP hw⟩

theorem words_cons_ne_nil {g : Glyph} (hg : g.isBlank = false) (gs : List Glyph) :
    words (g :: gs) ≠ [] := by
  obtain ⟨first, more, he, -, -, -⟩ := splitOnP_pieces Glyph.isBlank gs
  unfold words
  rw [List.splitOnP_cons_eq_if_modifyHead, he, hg]
  simp

theorem words_eq_nil_iff {gs : List Glyph} : words gs = [] ↔ ∀ g ∈ gs, g.isBlank = true := by
  refine ⟨fun h => ?_, words_eq_nil⟩
  induction gs with
  | nil => simp
  | cons g gs ih =>
    cases hg : g.isBlank with
    | false => exact absurd h (words_cons_ne_nil hg gs)
    | true =>
      rw [words_cons_blank hg] at h
      exact List.forall_mem_cons.2 ⟨hg, ih h⟩

/-! ## Trimmed texts -/

theorem glyph_bytes_ne_nil (g : Glyph) : g.bytes ≠ [] := by
  cases g with
  | char c => exact String.utf8EncodeChar_ne_nil
  | stray b => simp [Glyph.bytes]

theorem encode_eq_nil_iff {gs : List Glyph} : encode gs = [] ↔ gs = [] := by
  cases gs with
  | nil => simp
  | cons g gs => simp [glyph_bytes_ne_nil]

theorem encode_isInfix {gs hs : List Glyph} (h : gs <:+: hs) : encode gs <:+: encode hs := by
  obtain ⟨front, back, rfl⟩ := h
  exact ⟨encode front, encode back, by simp⟩

theorem decode_trim (bs : Bytes) : decode (trim bs) = strip Glyph.isBlank (decode bs) :=
  (canonical_decode bs).of_isInfix (strip_isInfix _ _)

theorem trim_trim (bs : Bytes) : trim (trim bs) = trim bs := by
  have h : trim (trim bs) = encode (strip Glyph.isBlank (decode (trim bs))) := rfl
  rw [h, decode_trim, strip_strip]
  rfl

theorem trim_isInfix (bs : Bytes) : trim bs <:+: bs := by
  have h := encode_isInfix (strip_isInfix Glyph.isBlank (decode bs))
  rwa [encode_decode] at h

theorem trim_append_blank (bs : Bytes) {b : UInt8} (hb : b.toNat < 0x80)
    (hs : isBlank (Char.ofNat b.toNat) = true) : trim (bs ++ [b]) = trim bs := by
  unfold trim
  rw [decode_append_ascii bs hb, decode_nil, strip_append_right]
  intro g hg
  rw [List.mem_singleton.1 hg]
  exact hs

/-! ## Fields -/

theorem fields_trim (bs : Bytes) : fields (trim bs) = fields bs := by
  obtain ⟨front, back, h, hf, hb⟩ := exists_strip Glyph.isBlank (decode bs)
  have hw : words (decode bs) = words (strip Glyph.isBlank (decode bs)) := by
    rw [congrArg words h, words_append_right _ hb, words_append_left hf]
  unfold fields
  rw [decode_trim, hw]

/-- A text is blank when nothing is left of it, which is when it has no field. -/
theorem trim_eq_nil_iff {bs : Bytes} : trim bs = [] ↔ fields bs = [] := by
  unfold trim fields
  rw [encode_eq_nil_iff, strip_eq_nil_iff, List.map_eq_nil_iff, words_eq_nil_iff]

theorem mem_fields {bs f : Bytes} (h : f ∈ fields bs) :
    f ≠ [] ∧ f <:+: bs ∧ ∀ g ∈ decode f, g.isBlank = false := by
  obtain ⟨w, hw, rfl⟩ := List.mem_map.1 h
  obtain ⟨hne, hi, hn⟩ := mem_words hw
  have hc : decode (encode w) = w := (canonical_decode bs).of_isInfix hi
  have he := encode_isInfix hi
  rw [encode_decode] at he
  rw [hc]
  exact ⟨mt encode_eq_nil_iff.1 hne, he, hn⟩

theorem fields_append_blank (xs : Bytes) {b : UInt8} (hb : b.toNat < 0x80)
    (hs : isBlank (Char.ofNat b.toNat) = true) (ys : Bytes) :
    fields (xs ++ b :: ys) = fields xs ++ fields ys := by
  have hg : (Glyph.char (Char.ofNat b.toNat)).isBlank = true := hs
  unfold fields
  rw [decode_append_ascii xs hb, words_append_blank hg, List.map_append]

theorem decode_ne_nil {bs : Bytes} (h : bs ≠ []) : decode bs ≠ [] := by
  intro hd
  have he := encode_decode bs
  rw [hd] at he
  exact h he.symm

theorem fields_of_not_blank {bs : Bytes} (hne : bs ≠ [])
    (h : ∀ g ∈ decode bs, g.isBlank = false) : fields bs = [bs] := by
  unfold fields
  rw [words_of_not_blank (decode_ne_nil hne) h, List.map_singleton, encode_decode]

/-! ## Texts of one field -/

theorem strip_length_le {α : Type} (p : α → Bool) (xs : List α) :
    (strip p xs).length ≤ xs.length :=
  (strip_isInfix p xs).length_le

/-- Stripped glyphs that are one word are that word. -/
theorem eq_of_words_eq_singleton {gs w : List Glyph} (hs : strip Glyph.isBlank gs = gs)
    (h : words gs = [w]) : gs = w := by
  by_cases hb : ∀ g ∈ gs, g.isBlank = false
  · have hne : gs ≠ [] := by
      rintro rfl
      cases h
    rw [words_of_not_blank hne hb] at h
    exact (List.cons.inj h).1
  · obtain ⟨g, hm, hg⟩ : ∃ g ∈ gs, g.isBlank = true := by simpa using hb
    obtain ⟨xs, ys, rfl⟩ := List.append_of_mem hm
    rw [words_append_blank hg] at h
    -- a blank inside has a word on either side of it
    have hx : words xs ≠ [] := by
      intro he
      have hall : ∀ x ∈ xs ++ [g], x.isBlank = true := by
        rw [List.forall_mem_append, List.forall_mem_singleton]
        exact ⟨words_eq_nil_iff.1 he, hg⟩
      rw [← List.singleton_append, ← List.append_assoc, strip_append_left hall] at hs
      have := congrArg List.length hs
      have := strip_length_le Glyph.isBlank ys
      simp only [List.length_append, List.length_singleton] at *
      omega
    have hy : words ys ≠ [] := by
      intro he
      have hall : ∀ y ∈ g :: ys, y.isBlank = true :=
        List.forall_mem_cons.2 ⟨hg, words_eq_nil_iff.1 he⟩
      rw [strip_append_right xs hall] at hs
      have := congrArg List.length hs
      have := strip_length_le Glyph.isBlank xs
      simp only [List.length_append, List.length_cons] at *
      omega
    have hl := congrArg List.length h
    have := List.length_pos_iff.2 hx
    have := List.length_pos_iff.2 hy
    simp only [List.length_append, List.length_singleton] at hl
    omega

theorem eq_of_fields_eq_singleton {bs f : Bytes} (ht : trim bs = bs) (h : fields bs = [f]) :
    bs = f := by
  obtain ⟨w, hw, rfl⟩ := List.map_eq_singleton_iff.1 h
  have hs : strip Glyph.isBlank (decode bs) = decode bs := by rw [← decode_trim, ht]
  rw [← eq_of_words_eq_singleton hs hw, encode_decode]

/-! ## Runs of blanks -/

/-- Blanks are characters, so nothing around them can be read together with them. -/
theorem decode_append_blanks {blanks : Bytes} (h : ∀ g ∈ decode blanks, g.isBlank = true)
    (hne : blanks ≠ []) (xs ys : Bytes) :
    decode (xs ++ (blanks ++ ys)) = decode xs ++ (decode blanks ++ decode ys) := by
  obtain ⟨cs, hcs, -⟩ := exists_chars (fun _ => rfl) h
  have hb : blanks = cs.flatMap String.utf8EncodeChar := by
    rw [← encode_chars, ← hcs, encode_decode]
  rw [decode_append, hb, decode_chars_append, decode_chars]
  rintro b rest he
  cases cs with
  | nil => exact absurd hb hne
  | cons c cs =>
    have hp : String.utf8EncodeChar c <+: blanks ++ ys := by
      rw [hb, List.flatMap_cons, List.append_assoc]
      exact List.prefix_append _ _
    obtain ⟨b', rest', he', hr⟩ := head_of_utf8EncodeChar_prefix hp
    rw [he'] at he
    cases he
    simp only [isTail, Bool.and_eq_false_iff, decide_eq_false_iff_not]
    omega

theorem fields_append_blanks {blanks : Bytes} (h : ∀ g ∈ decode blanks, g.isBlank = true)
    (hne : blanks ≠ []) (xs ys : Bytes) :
    fields (xs ++ (blanks ++ ys)) = fields xs ++ fields ys := by
  obtain ⟨g, gs, hg⟩ := List.exists_cons_of_ne_nil (decode_ne_nil hne)
  unfold fields
  rw [decode_append_blanks h hne, ← List.map_append]
  rw [hg] at h ⊢
  obtain ⟨hblank, hgs⟩ := List.forall_mem_cons.1 h
  rw [List.cons_append, words_append_blank hblank, words_append_left hgs]

/-! ## White space around a text -/

/-- Nothing but white space characters. -/
def WhiteSpace (text : Bytes) : Prop :=
  MadeOf isBlank text

/-- The text neither begins nor ends with a white space character. -/
def Trimmed (text : Bytes) : Prop :=
  ∀ c, isBlank c = true →
    ¬ String.utf8EncodeChar c <+: text ∧ ¬ String.utf8EncodeChar c <:+ text

theorem whiteSpace_encode {gs : List Glyph} (h : ∀ g ∈ gs, g.isBlank = true) :
    WhiteSpace (encode gs) := by
  obtain ⟨cs, rfl, hcs⟩ := exists_chars (fun _ => rfl) h
  exact ⟨cs, encode_chars cs, hcs⟩

theorem WhiteSpace.isBlank {text : Bytes} (h : WhiteSpace text) :
    ∀ g ∈ decode text, g.isBlank = true := by
  obtain ⟨cs, rfl, hcs⟩ := h
  rw [decode_chars]
  exact List.forall_mem_map.2 hcs

/-- A text is what trimming leaves of it, with blanks in front and behind. -/
theorem exists_blank_around (bs : Bytes) :
    ∃ front back, bs = front ++ trim bs ++ back ∧ WhiteSpace front ∧ WhiteSpace back := by
  obtain ⟨front, back, h, hf, hb⟩ := exists_strip Glyph.isBlank (decode bs)
  refine ⟨encode front, encode back, ?_, whiteSpace_encode hf, whiteSpace_encode hb⟩
  have he := congrArg encode h
  rwa [encode_decode, encode_append, encode_append] at he

theorem trim_whiteSpace_append {blanks : Bytes} (h : WhiteSpace blanks) (bs : Bytes) :
    trim (blanks ++ bs) = trim bs := by
  have hb := h.isBlank
  obtain ⟨cs, rfl, -⟩ := h
  rw [decode_chars] at hb
  unfold trim
  rw [decode_chars_append, strip_append_left hb]

theorem trim_append_whiteSpace (bs : Bytes) {blanks : Bytes} (h : WhiteSpace blanks) :
    trim (bs ++ blanks) = trim bs := by
  by_cases hne : blanks = []
  · rw [hne, List.append_nil]
  · have hd := decode_append_blanks h.isBlank hne bs []
    rw [List.append_nil, decode_nil, List.append_nil] at hd
    unfold trim
    rw [hd, strip_append_right _ h.isBlank]

theorem trim_length_le (bs : Bytes) : (trim bs).length ≤ bs.length :=
  (trim_isInfix bs).length_le

/-- Trimming leaves a text as it is exactly if there is nothing to trim. -/
theorem trimmed_iff {bs : Bytes} : Trimmed bs ↔ trim bs = bs := by
  constructor
  · intro h
    obtain ⟨front, back, he, ⟨cs, rfl, hcs⟩, ⟨ds, rfl, hds⟩⟩ := exists_blank_around bs
    have hfront : cs = [] := by
      cases cs with
      | nil => rfl
      | cons c cs =>
        refine absurd ?_ (h c (hcs c List.mem_cons_self)).1
        rw [he, List.flatMap_cons, List.append_assoc, List.append_assoc]
        exact List.prefix_append ..
    have hback : ds = [] := by
      rcases List.eq_nil_or_concat ds with rfl | ⟨ds, d, rfl⟩
      · rfl
      · refine absurd ?_ (h d (hds d (by simp))).2
        rw [he, List.concat_eq_append, List.flatMap_append, List.flatMap_singleton,
          ← List.append_assoc]
        exact List.suffix_append ..
    rw [hfront, hback] at he
    simpa using he.symm
  · -- a blank at an end would be trimmed away
    intro h c hc
    have hpos : 0 < (String.utf8EncodeChar c).length :=
      List.length_pos_iff.2 String.utf8EncodeChar_ne_nil
    constructor
    · rintro ⟨rest, rfl⟩
      have hl := trim_length_le rest
      rw [← trim_whiteSpace_append (madeOf_char hc), h, List.length_append] at hl
      omega
    · rintro ⟨rest, rfl⟩
      have hl := trim_length_le rest
      rw [← trim_append_whiteSpace rest (madeOf_char hc), h, List.length_append] at hl
      omega

end AsmXml.Text
