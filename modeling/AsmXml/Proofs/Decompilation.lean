import AsmXml.Proofs.Acceptance
import AsmXml.Proofs.Document.ReadBack
import AsmXml.Proofs.Document.Tokens

/-! # Documents as sources

`decompile` writes a document as a source again: the header, and a line for each instruction with
its opcode and its arguments, where literals get the marks of their types back. The source that it
writes for the document of an accepted source is accepted, and its document is the same
(`decompile_run`). It need not be the source that was translated, since a document holds neither
layout nor comments nor the case of opcodes, nor characters that it had to replace.
-/

namespace AsmXml

open Text

/-- The mark in front of the values of a type. -/
def markOfType (type : Bytes) : Bytes :=
  if type = utf8 "int" then utf8 "int@"
  else if type = utf8 "bool" then utf8 "bool@"
  else if type = utf8 "string" then utf8 "string@"
  else if type = utf8 "nil" then utf8 "nil@"
  else []

def ArgumentElement.token (a : ArgumentElement) : Bytes :=
  markOfType a.type ++ a.value

/-- A line of fields, with a space between them. -/
def joined (fields : List Bytes) : Bytes :=
  (utf8 " ").intercalate fields

def InstructionElement.line (e : InstructionElement) : Bytes :=
  joined (e.opcode :: e.arguments.map ArgumentElement.token)

/-- The source that a document is written back as. -/
def decompile (document : Bytes) : Option Bytes :=
  (readDocument? document).map fun elements =>
    [lineFeed].intercalate (header :: elements.map InstructionElement.line)

/-! ## Lines of tokens -/

/-- Tokens that are written with a blank between them are read back as fields. -/
theorem fields_joined {tokens : List Bytes} (h : ∀ t ∈ tokens, IsToken t) :
    fields (joined tokens) = tokens := by
  unfold joined
  induction tokens with
  | nil => rfl
  | cons t tokens ih =>
    obtain ⟨ht, hts⟩ := List.forall_mem_cons.1 h
    have hf : fields t = [t] := fields_of_not_blank ht.ne_nil ht.not_blank
    cases tokens with
    | nil => rw [List.intercalate_singleton, hf]
    | cons t' tokens =>
      have hs : t ++ utf8 " " ++ (utf8 " ").intercalate (t' :: tokens) =
          t ++ 0x20 :: (utf8 " ").intercalate (t' :: tokens) := by
        rw [List.append_assoc]
        rfl
      rw [List.intercalate_cons_cons, hs, fields_append_blank t (by decide) (by decide), hf, ih hts,
        List.singleton_append]

theorem not_mem_joined {b : UInt8} (hb : b ∉ utf8 " ") {tokens : List Bytes}
    (h : ∀ t ∈ tokens, b ∉ t) : b ∉ joined tokens := by
  unfold joined
  induction tokens with
  | nil => simp
  | cons t tokens ih =>
    obtain ⟨ht, hts⟩ := List.forall_mem_cons.1 h
    cases tokens with
    | nil => rwa [List.intercalate_singleton]
    | cons t' tokens =>
      rw [List.intercalate_cons_cons]
      simp only [List.mem_append, not_or]
      exact ⟨⟨ht, hb⟩, ih hts⟩

/-- A source that is written as lines of tokens has these lines. -/
theorem sourceLines_intercalate {lines : List (List Bytes)} (hne : ∀ l ∈ lines, l ≠ [])
    (h : ∀ l ∈ lines, ∀ t ∈ l, IsToken t) :
    sourceLines ([lineFeed].intercalate (header :: lines.map joined)) =
      header :: lines.map (trim <| joined ·) := by
  have hlf : ∀ l ∈ header :: lines.map joined, lineFeed ∉ l := by
    refine List.forall_mem_cons.2 ⟨by decide, List.forall_mem_map.2 fun l hl => ?_⟩
    exact not_mem_joined (by decide) fun t ht => (h l hl t ht).lineFeed_not_mem
  have hc : (lines.map joined).map content = lines.map (trim <| joined ·) := by
    rw [List.map_map]
    refine List.map_congr_left fun l hl => content_of_not_mem ?_
    exact not_mem_joined (by decide) fun t ht => (h l hl t ht).not_comment
  have hh : content header = header := by decide
  unfold sourceLines contents
  rw [List.splitOn_intercalate lineFeed hlf (by simp), List.map_cons, hc, hh, List.filter_eq_self]
  refine List.forall_mem_cons.2 ⟨by decide, List.forall_mem_map.2 fun l hl => ?_⟩
  have hf : trim (joined l) ≠ [] := by
    intro ht
    rw [trim_eq_nil_iff, fields_joined (h l hl)] at ht
    exact hne l hl ht
  simpa using hf

/-! ## What a document holds of a statement -/

def Operand.held (o : Operand) : Operand :=
  ⟨sanitize o.text, o.category⟩

def Statement.held (st : Statement) : Statement :=
  ⟨st.opcode, st.operands.map Operand.held⟩

/-- The fields of a line that spells the statement. -/
def Statement.tokens (st : Statement) : List Bytes :=
  st.opcode :: st.operands.map Operand.text

/-- What a document holds of a statement is a statement. -/
theorem Spells.held {fields : List Bytes} {st : Statement} (h : Spells fields st) :
    Spells st.held.tokens st.held := by
  have hlex := h.lexeme
  cases h with
  | @intro name s operands hs ho hn =>
    refine .intro (lookup?_opcode (lookup?_eq_some_iff.1 hs).1) ?_ ?_
    · exact List.forall₂_map_right_iff.2 (ho.imp fun p o hf => ⟨hf.1, hf.2.sanitize⟩)
    · exact List.forall_mem_map.2 fun o hm => lookup?_sanitize (hlex o hm) (hn o hm)

theorem Spells.isToken {line : Bytes} (hl : numberSign ∉ line) {st : Statement}
    (h : Spells (fields line) st) : ∀ t ∈ st.held.tokens, IsToken t := by
  generalize hf : fields line = fs at h
  cases h with
  | @intro name s operands hs ho hn =>
    have ht : ∀ o ∈ operands, IsToken o.text := by
      intro o hm
      apply isToken_of_mem_fields hl
      rw [hf]
      exact List.mem_cons_of_mem _ (List.mem_map_of_mem hm)
    refine List.forall_mem_cons.2 ⟨isToken_opcode (lookup?_eq_some_iff.1 hs).1, ?_⟩
    exact List.forall_mem_map.2 (List.forall_mem_map.2 fun o hm => (ht o hm).sanitize)

theorem Spells.sanitize_opcode {fields : List Bytes} {st : Statement} (h : Spells fields st) :
    sanitize st.opcode = st.opcode := by
  cases h with
  | intro hs ho hn => exact AsmXml.sanitize_opcode (lookup?_eq_some_iff.1 hs).1

/-! ## Elements as lines -/

theorem Lexeme.markOfType {c : Category} {text : Bytes} (h : Lexeme c text) :
    AsmXml.markOfType (AsmXml.sanitize c.name) = c.literalMark := by
  cases h <;> decide

theorem map_token_elementsFrom (position : Nat) (arguments : List Argument) :
    (elementsFrom position arguments).map ArgumentElement.token =
      arguments.map fun a => markOfType (sanitize a.type) ++ sanitize a.value := by
  induction arguments generalizing position with
  | nil => rfl
  | cons a arguments ih =>
    rw [elementsFrom_cons, List.map_cons, ih, List.map_cons]
    rfl

/-- The line of a statement is written back with what the document holds of it. -/
theorem line_element {fields : List Bytes} {st : Statement} (h : Spells fields st) (order : Int) :
    (Entry.element ⟨order, st.opcode, st.operands.map Operand.argument⟩).line =
      joined st.held.tokens := by
  have ht : (elementsFrom 1 (st.operands.map Operand.argument)).map ArgumentElement.token =
      st.held.operands.map Operand.text := by
    rw [map_token_elementsFrom, List.map_map, Statement.held, List.map_map]
    apply List.map_congr_left
    intro o hm
    have hlex := h.lexeme o hm
    exact (congrArg (· ++ _) hlex.markOfType).trans hlex.sanitize_eq.symm
  unfold InstructionElement.line Entry.element
  rw [ht, h.sanitize_opcode]
  rfl

theorem decompile_translation {lines : List Bytes} {statements : List Statement}
    (h : SpellAll lines statements) :
    decompile (translation statements).render =
      some ([lineFeed].intercalate
        (header :: (statements.map (·.held.tokens)).map joined)) := by
  have hl : ((translation statements).entries.map Entry.element).map InstructionElement.line =
      (statements.map (·.held.tokens)).map joined := by
    have hline := h.forall_mem fun _ _ _ => line_element
    apply List.ext_getElem (by simp [translation])
    intro k hk hk'
    simp only [translation, List.getElem_map, List.getElem_mapIdx]
    exact hline _ (List.getElem_mem _) _
  unfold decompile
  rw [readDocument?_render, Option.map_some, hl]

/-! ## One document for both -/

theorem argument_held {o : Operand} (h : Lexeme o.category o.text) :
    o.held.argument = ⟨o.argument.type, sanitize o.argument.value⟩ := by
  unfold Operand.held Operand.argument
  simp only [Argument.mk.injEq, true_and]
  rw [h.sanitize_eq, unmark_append]

theorem renderArguments_held {operands : List Operand}
    (h : ∀ o ∈ operands, Lexeme o.category o.text) (position : Nat) :
    renderArguments position ((operands.map Operand.held).map Operand.argument) =
      renderArguments position (operands.map Operand.argument) := by
  induction operands generalizing position with
  | nil => rfl
  | cons o operands ih =>
    obtain ⟨ho, hos⟩ := List.forall_mem_cons.1 h
    have ha : o.held.argument.render position = o.argument.render position := by
      rw [argument_held ho]
      unfold Argument.render
      rw [escape_sanitize]
    simp only [List.map_cons, renderArguments, ha, ih hos]

theorem render_translation_held {lines : List Bytes} {statements : List Statement}
    (h : SpellAll lines statements) :
    (translation (statements.map Statement.held)).render = (translation statements).render := by
  have he : (translation (statements.map Statement.held)).entries.map Entry.render =
      (translation statements).entries.map Entry.render := by
    have hlex := h.forall_mem fun _ _ _ => Spells.lexeme
    apply List.ext_getElem (by simp [translation])
    intro k hk hk'
    simp only [translation, List.getElem_map, List.getElem_mapIdx, Entry.render, Statement.held]
    rw [renderArguments_held (hlex _ (List.getElem_mem _))]
  unfold Document.render
  rw [he]

/-- The source that is written back is a program of what the document holds. -/
theorem isProgram_decompiled {source : Bytes} {statements : List Statement}
    (h : IsProgram (sourceLines source) statements) :
    IsProgram (sourceLines ([lineFeed].intercalate
      (header :: (statements.map (·.held.tokens)).map joined)))
      (statements.map Statement.held) := by
  obtain ⟨rest, hl, hs⟩ := h
  have hcomment : ∀ line ∈ rest, numberSign ∉ line := fun line hm =>
    numberSign_not_mem (hl ▸ List.mem_cons_of_mem header hm)
  -- the tokens were fields of lines that had lost their comments
  have htoken := hs.forall_mem fun line hm _ => Spells.isToken (hcomment line hm)
  refine ⟨_, sourceLines_intercalate ?_ ?_, ?_⟩
  · exact List.forall_mem_map.2 fun st _ => List.cons_ne_nil _ _
  · exact List.forall_mem_map.2 htoken
  · unfold SpellAll
    rw [List.map_map, List.forall₂_map_left_iff, List.forall₂_map_right_iff, List.forall₂_same]
    intro st hm
    have hheld := hs.forall_mem (fun _ _ _ => Spells.held) st hm
    simp only [Function.comp, fields_trim, fields_joined (htoken st hm)]
    exact hheld

/-- **Documents are fixed.** The document of an accepted source is written back as a source that is
accepted as well, and that has the same document, byte for byte. -/
theorem decompile_run {colour reporting : Bool} {source : Bytes} {t : Translator} {r : Run}
    (h : (Translator.ofInput ⟨source, none⟩ .accepting reporting).run colour = .ok (t, r))
    (hf : r.failure = none) :
    ∃ source', decompile t.output = some source' ∧ ∃ t' r',
      (Translator.ofInput ⟨source', none⟩ .accepting reporting).run colour = .ok (t', r') ∧
        r'.failure = none ∧ t'.output = t.output := by
  unfold Translator.ofInput at h ⊢
  by_cases hp : ∃ statements, IsProgram (sourceLines source) statements
  · obtain ⟨statements, hp⟩ := hp
    obtain ⟨t₁, r₁, h₁, -, ho⟩ := run_of_isProgram colour reporting [] [] hp
    rw [h] at h₁
    cases h₁
    obtain ⟨t', r', h', hf', ho'⟩ :=
      run_of_isProgram colour reporting [] [] (isProgram_decompiled hp)
    obtain ⟨rest, -, hs⟩ := hp
    rw [List.nil_append] at ho ho'
    refine ⟨_, ?_, t', r', h', hf', ?_⟩
    · rw [ho, decompile_translation hs]
    · rw [ho', ho, render_translation_held hs]
  · obtain ⟨t₁, r₁, h₁, hn, -⟩ := run_of_not_isProgram colour reporting [] [] hp
    rw [h] at h₁
    cases h₁
    exact absurd hf hn

/-- A source with a comment, markup, a stray byte and a character that no document can hold. -/
def straySource : Bytes :=
  utf8 ".IPPcode24 # header\nwrite string@a<" ++ [0xff, 0x01]

theorem decompile_run_stray :
    ∃ t r, (Translator.ofInput ⟨straySource, none⟩ .accepting true).run false = .ok (t, r) ∧
      r.failure = none ∧ ∃ source', decompile t.output = some source' ∧ ∃ t' r',
        (Translator.ofInput ⟨source', none⟩ .accepting true).run false = .ok (t', r') ∧
          r'.failure = none ∧ t'.output = t.output := by
  have hok : ((Translator.ofInput ⟨straySource, none⟩ .accepting true).run false).toOption.any
      (·.2.failure.isNone) = true := by
    decide +kernel
  cases hr : (Translator.ofInput ⟨straySource, none⟩ .accepting true).run false with
  | error d =>
    rw [hr] at hok
    cases hok
  | ok result =>
    obtain ⟨t, r⟩ := result
    rw [hr] at hok
    have hf : r.failure = none := by simpa [Except.toOption] using hok
    exact ⟨t, r, rfl, hf, decompile_run hr hf⟩

end AsmXml
