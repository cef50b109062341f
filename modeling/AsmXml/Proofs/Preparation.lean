import AsmXml.Proofs.Rows

/-! # Prepared sources

A line says what stands between the white space at its two ends once its comment is gone (`Says`),
and preparing lines keeps what they say, one after the other (`splitOn_prepare_lines`). A prepared
source has nothing left that preparing could take away, so preparing it again changes nothing
(`prepare_splitOn_prepare`); all this is `prepare_normal_form`. Parsing takes away blank lines and
the white space around lines by itself, so on a source without comments it sees what it would see
of the prepared source (`parse_prepare_splitOn`).
-/

namespace AsmXml

open Text

/-! ## Raw lines -/

/-- A line feed can only end a raw line. -/
theorem lineFeed_not_mem_dropLast {bs line : Bytes} (h : line ∈ rawLines bs) :
    lineFeed ∉ line.dropLast := by
  induction bs generalizing line with
  | nil => cases h
  | cons b rest ih =>
    rw [rawLines] at h
    split at h
    · rcases List.mem_cons.1 h with rfl | h
      · simp
      · exact ih h
    · next hb =>
      cases hl : rawLines rest with
      | nil =>
        rw [hl] at h
        rw [List.mem_singleton.1 h]
        simp
      | cons first more =>
        have hne : first ≠ [] := ne_nil_of_mem_rawLines (hl ▸ List.mem_cons_self)
        rw [hl] at h ih
        rcases List.mem_cons.1 h with rfl | h
        · rw [List.dropLast_cons_of_ne_nil hne]
          have hb' : lineFeed ≠ b := fun he => hb (by simp [he])
          simpa [hb'] using ih List.mem_cons_self
        · exact ih (List.mem_cons_of_mem _ h)

/-- Every raw line but the last is ended by a line feed. -/
theorem getLast?_of_mem_dropLast {bs line : Bytes} (h : line ∈ (rawLines bs).dropLast) :
    line.getLast? = some lineFeed := by
  induction bs generalizing line with
  | nil => cases h
  | cons b rest ih =>
    rw [rawLines] at h
    split at h
    · next hb =>
      cases hl : rawLines rest with
      | nil =>
        rw [hl] at h
        cases h
      | cons first more =>
        rw [hl] at h ih
        rcases List.mem_cons.1 h with rfl | h
        · rw [beq_iff_eq.1 hb]
          rfl
        · exact ih h
    · cases hl : rawLines rest with
      | nil =>
        rw [hl] at h
        cases h
      | cons first more =>
        rw [hl] at h ih
        cases more with
        | nil => cases h
        | cons second more =>
          rcases List.mem_cons.1 h with rfl | h
          · have hf := ih List.mem_cons_self
            rw [List.getLast?_cons, hf]
            rfl
          · exact ih (List.mem_cons_of_mem _ h)

/-! ## What a line says -/

/-- A comment from its number sign on, or none. -/
def IsComment (text : Bytes) : Prop :=
  text = [] ∨ ∃ rest, text = numberSign :: rest

/-- The line says this: it stands in the line with white space around it and nothing else but a
comment behind. -/
inductive Says : Bytes → Bytes → Prop
  | intro {before said after comment : Bytes} (hb : WhiteSpace before) (ha : WhiteSpace after)
      (hs : Trimmed said) (hn : numberSign ∉ before ++ said ++ after) (hc : IsComment comment) :
      Says (before ++ said ++ after ++ comment) said

theorem isComment_dropWhile (line : Bytes) : IsComment (line.dropWhile (· != numberSign)) := by
  cases hd : line.dropWhile (· != numberSign) with
  | nil => exact Or.inl rfl
  | cons b rest =>
    have hb := List.head?_dropWhile_not (· != numberSign) line
    rw [hd] at hb
    have he : b = numberSign := by simpa using hb
    exact Or.inr ⟨rest, by rw [he]⟩

theorem IsComment.takeWhile_eq_nil {text : Bytes} (h : IsComment text) :
    text.takeWhile (· != numberSign) = [] := by
  rcases h with rfl | ⟨rest, rfl⟩
  · rfl
  · exact List.takeWhile_cons_of_neg (by simp)

theorem says_content (line : Bytes) : Says line (content line) := by
  obtain ⟨before, after, he, hb, ha⟩ :=
    exists_blank_around (line.takeWhile (· != numberSign))
  have hl : line = before ++ content line ++ after ++ line.dropWhile (· != numberSign) := by
    unfold content
    rw [← he, List.takeWhile_append_dropWhile]
  have hn : numberSign ∉ before ++ content line ++ after := by
    unfold content
    rw [← he]
    intro hm
    simpa using List.mem_takeWhile_imp hm
  have hs : Says (before ++ content line ++ after ++ line.dropWhile (· != numberSign))
      (content line) :=
    .intro hb ha (trimmed_iff.2 (trim_content line)) hn (isComment_dropWhile line)
  rwa [← hl] at hs

/-- A line says its content and nothing else. -/
theorem says_iff {line said : Bytes} : Says line said ↔ content line = said := by
  constructor
  · rintro ⟨hb, ha, hs, hn, hc⟩
    unfold content
    rw [takeWhile_of_no_comment hn, hc.takeWhile_eq_nil, List.append_nil,
      trim_append_whiteSpace _ ha, trim_whiteSpace_append hb, trimmed_iff.1 hs]
  · rintro rfl
    exact says_content line

theorem forall₂_says_iff {lines said : List Bytes} :
    List.Forall₂ Says lines said ↔ said = lines.map content := by
  have he : Says = fun line said => content line = said :=
    funext₂ fun _ _ => propext says_iff
  rw [he, ← List.forall₂_map_left_iff (f := content), List.forall₂_eq_eq_eq]
  exact eq_comm

/-- A line says nothing exactly if it is blank but for a comment. -/
theorem says_nil_iff {line : Bytes} :
    Says line [] ↔ ∃ blanks comment, WhiteSpace blanks ∧ IsComment comment ∧
      line = blanks ++ comment := by
  constructor
  · intro h
    generalize hs : ([] : Bytes) = said at h
    cases h with
    | @intro before said after comment hb ha ht hn hc =>
      rw [← hs, List.append_nil]
      exact ⟨before ++ after, comment, hb.append ha, hc, rfl⟩
  · rintro ⟨blanks, comment, hb, hc, rfl⟩
    have hn : numberSign ∉ blanks ++ [] ++ [] := by
      simpa using numberSign_not_mem_of_blank hb.isBlank
    have h := Says.intro hb madeOf_nil (trimmed_iff.2 rfl) hn hc
    simpa using h

/-! ## Normal form -/

theorem lineFeed_not_mem_content {line : Bytes} (h : lineFeed ∉ line.dropLast) :
    lineFeed ∉ content line := by
  rcases List.eq_nil_or_concat line with rfl | ⟨body, b, rfl⟩
  · exact fun hm => absurd ((content_isInfix []).subset hm) List.not_mem_nil
  rw [List.concat_eq_append] at h ⊢
  rw [List.dropLast_concat] at h
  by_cases hb : b = lineFeed
  · rw [hb, content_append_lineFeed]
    exact fun hm => h ((content_isInfix body).subset hm)
  · intro hm
    rcases List.mem_append.1 ((content_isInfix _).subset hm) with hm | hm
    · exact h hm
    · exact hb (List.mem_singleton.1 hm).symm

theorem contents_eq_nil_iff {lines : List Bytes} :
    contents lines = [] ↔ ∀ line ∈ lines, content line = [] := by
  simp [contents, List.filter_eq_nil_iff]

theorem prepare_eq_nil_iff {lines : List Bytes} : prepare lines = [] ↔ contents lines = [] := by
  unfold prepare
  refine ⟨fun h => ?_, fun h => by rw [h]; rfl⟩
  cases hl : contents lines with
  | nil => rfl
  | cons line rest =>
    have hne : line ≠ [] := (mem_contents (hl ▸ List.mem_cons_self)).1
    rw [hl] at h
    cases rest with
    | nil => exact absurd (by simpa using h) hne
    | cons line' rest => simp [List.intercalate_cons_cons] at h

/-- Preparing lines keeps what they say, one after the other. -/
theorem splitOn_prepare_lines {lines : List Bytes} (h : ∀ line ∈ lines, lineFeed ∉ line.dropLast)
    (hne : prepare lines ≠ []) : (prepare lines).splitOn lineFeed = contents lines := by
  apply List.splitOn_intercalate lineFeed
  · intro line hl
    obtain ⟨-, raw, hr, rfl⟩ := mem_contents hl
    exact lineFeed_not_mem_content (h raw hr)
  · exact mt prepare_eq_nil_iff.2 hne

/-- The contents of lines are their own contents. -/
theorem contents_contents (lines : List Bytes) : contents (contents lines) = contents lines := by
  have hm : (contents lines).map content = contents lines := by
    conv => rhs; rw [← List.map_id (contents lines)]
    apply List.map_congr_left
    intro line hl
    obtain ⟨-, raw, -, rfl⟩ := mem_contents hl
    rw [content_of_not_mem (numberSign_not_mem_content raw), trim_content, id]
  have he : contents (contents lines) = ((contents lines).map content).filter (!·.isEmpty) := rfl
  rw [he, hm, List.filter_eq_self]
  intro line hl
  simpa using (mem_contents hl).1

theorem prepare_splitOn_prepare {lines : List Bytes}
    (h : ∀ line ∈ lines, lineFeed ∉ line.dropLast) :
    prepare ((prepare lines).splitOn lineFeed) = prepare lines := by
  by_cases hne : prepare lines = []
  · rw [hne]
    rfl
  · rw [splitOn_prepare_lines h hne]
    unfold prepare
    rw [contents_contents]

/-- **Preparing reaches a normal form and is stable there.** An input is read as raw lines, none of
them empty, which a line feed ends and does not occur in; nothing of it is lost. Every list of such
lines says one list of texts, and the lines of the prepared source are these texts without the empty
ones: they hold no comment and no white space at their ends. Nothing is left exactly if all lines are
blank but for comments, and preparing the prepared source again changes nothing. -/
theorem prepare_normal_form :
    (∀ input, (rawLines input).flatten = input ∧
      (∀ piece ∈ rawLines input, piece ≠ [] ∧ lineFeed ∉ piece.dropLast) ∧
      ∀ piece ∈ (rawLines input).dropLast, piece.getLast? = some lineFeed) ∧
    ∀ lines : List Bytes, (∀ line ∈ lines, lineFeed ∉ line.dropLast) →
      (∃! said, List.Forall₂ Says lines said) ∧
      (prepare lines ≠ [] →
        (∀ said, List.Forall₂ Says lines said →
          (prepare lines).splitOn lineFeed = said.filter (!·.isEmpty)) ∧
        ∀ line ∈ (prepare lines).splitOn lineFeed,
          line ≠ [] ∧ numberSign ∉ line ∧ lineFeed ∉ line ∧ Trimmed line) ∧
      (prepare lines = [] ↔ ∀ line ∈ lines, ∃ blanks comment,
        WhiteSpace blanks ∧ IsComment comment ∧ line = blanks ++ comment) ∧
      prepare ((prepare lines).splitOn lineFeed) = prepare lines := by
  refine ⟨fun input => ⟨flatten_rawLines input, fun piece hp => ?_, fun piece hp => ?_⟩,
    fun lines h => ⟨⟨lines.map content, ?_, fun said hs => ?_⟩, fun hne => ⟨fun said hs => ?_, ?_⟩,
      ?_, prepare_splitOn_prepare h⟩⟩
  · exact ⟨ne_nil_of_mem_rawLines hp, lineFeed_not_mem_dropLast hp⟩
  · exact getLast?_of_mem_dropLast hp
  · exact forall₂_says_iff.2 rfl
  · exact forall₂_says_iff.1 hs
  · rw [splitOn_prepare_lines h hne, forall₂_says_iff.1 hs]
    rfl
  · intro line hl
    have hlf := (mem_splitOn hl).2
    rw [splitOn_prepare_lines h hne] at hl
    obtain ⟨hnil, raw, -, rfl⟩ := mem_contents hl
    exact ⟨hnil, numberSign_not_mem_content raw, hlf, trimmed_iff.2 (trim_content raw)⟩
  · rw [prepare_eq_nil_iff, contents_eq_nil_iff]
    refine forall₂_congr fun line _ => ?_
    rw [← says_iff, says_nil_iff]

/-- Raw lines with comments, a blank line, and a byte that is a blank in other encodings. -/
def untidyLines : List Bytes :=
  [utf8 "# go\n", utf8 "\u3000.IPPcode24\r\n", utf8 "\t\n", 0x85 :: utf8 "\u00a0#\n"]

theorem prepare_normal_form_untidy :
    (∀ line ∈ untidyLines, lineFeed ∉ line.dropLast) ∧ prepare untidyLines ≠ [] ∧
      (prepare untidyLines).splitOn lineFeed = [header, [0x85]] ∧
      (∀ line ∈ (prepare untidyLines).splitOn lineFeed,
        line ≠ [] ∧ numberSign ∉ line ∧ lineFeed ∉ line ∧ Trimmed line) ∧
      prepare ((prepare untidyLines).splitOn lineFeed) = prepare untidyLines := by
  have hl : ∀ line ∈ untidyLines, lineFeed ∉ line.dropLast := by decide
  have hne : prepare untidyLines ≠ [] := by decide
  have hs : List.Forall₂ Says untidyLines (untidyLines.map content) := forall₂_says_iff.2 rfl
  obtain ⟨-, hnormal, -, hstable⟩ := prepare_normal_form.2 untidyLines hl
  have hsplit := (hnormal hne).1 _ hs
  have hsaid : (untidyLines.map content).filter (!·.isEmpty) = [header, [0x85]] := by decide
  exact ⟨hl, hne, hsplit.trans hsaid, (hnormal hne).2, hstable⟩

/-! ## Parsing without preparing -/

theorem prepare_splitOn (source : Bytes) :
    prepare (source.splitOn lineFeed) = prepare (rawLines source) := by
  unfold prepare
  rw [contents_rawLines]
  rfl

/-- Without comments, the lines of a source are its pieces, trimmed, without those that are
blank. -/
theorem sourceLines_of_not_mem {source : Bytes} (h : numberSign ∉ source) :
    sourceLines source = instructionLines (source.splitOn lineFeed) := by
  unfold sourceLines contents instructionLines
  congr 1
  apply List.map_congr_left
  intro piece hp
  exact content_of_not_mem fun hm => h ((mem_splitOn hp).1.subset hm)

theorem instructionLines_splitOn {source : Bytes} (h : firstLine source ≠ []) :
    instructionLines (source.splitOn lineFeed) = firstLine source :: bodyLines source := by
  obtain ⟨first, rest, hs⟩ := exists_splitOn_eq_cons source
  unfold firstLine at h ⊢
  unfold bodyLines
  rw [hs] at h ⊢
  exact instructionLines_cons h rest

/-- **Parsing cleans lines as preparing does.** A source without comments whose first line is not
blank is parsed as it is parsed when it is prepared first: as the same program, or with the same
fault of the same line. -/
theorem parse_prepare_splitOn {source : Bytes} (hc : numberSign ∉ source)
    (hf : firstLine source ≠ []) : parse (prepare (source.splitOn lineFeed)) = parse source := by
  have hl : sourceLines source = firstLine source :: bodyLines source := by
    rw [sourceLines_of_not_mem hc, instructionLines_splitOn hf]
  rw [prepare_splitOn]
  exact parse_congr (firstLine_prepare hl) (bodyLines_prepare hl)

/-- A source with blank lines and white space, in which the second instruction is at fault. -/
def untidySource : Bytes :=
  utf8 "\t.IPPcode24\r\n\u2003\n break\n\n\u00a0end\u0085\n"

theorem parse_prepare_splitOn_untidy :
    numberSign ∉ untidySource ∧ firstLine untidySource ≠ [] ∧
      parse (prepare (untidySource.splitOn lineFeed)) = parse untidySource ∧
      parse untidySource =
        .error (.refused ⟨2, utf8 "end", .unknownOpcode (utf8 "end")⟩) :=
  have hc : numberSign ∉ untidySource := by decide
  have hf : firstLine untidySource ≠ [] := by decide
  ⟨hc, hf, parse_prepare_splitOn hc hf, rfl⟩

end AsmXml
