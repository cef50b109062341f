import AsmXml.Proofs.LineCheck

/-! # One opcode a line

A line that names a second opcode is refused, even if its signature finds no fault in it. A token
that names an opcode has no mark and is no type word, so of the well-formed tokens only labels can
name one (`Lexeme.lookup?_eq_none`), and no other token fits a signature. The rule therefore takes
nothing from the lines whose opcode expects no label, and from the others it takes the labels that
are opcodes (`second_opcode_refuses_labels_only`).
-/

namespace AsmXml

open Text

/-! ## Tokens that name opcodes -/

theorem lookup?_eq_none_of_mark {mark : Bytes} (hm : mark ∈ marks) (body : Bytes) :
    lookup? (mark ++ body) = none := by
  have hat : 0x40 ∈ mark ++ body := List.mem_append_left body (at_mem_marks mark hm)
  exact lookup?_eq_none_of_mem (mem_decode_of_mem (by decide) hat) (by decide)

theorem lookup?_typeWord : ∀ word ∈ typeWords, lookup? word = none := by
  decide

/-- Of the well-formed tokens, only labels can name an opcode. -/
theorem Lexeme.lookup?_eq_none {c : Category} {token : Bytes} (h : Lexeme c token)
    (hc : c ≠ .label) : lookup? token = none := by
  cases h with
  | var hf hn => exact lookup?_eq_none_of_mark (List.mem_append_left _ hf) _
  | int hb => exact lookup?_eq_none_of_mark (by simp [marks]) _
  | bool hb => exact lookup?_eq_none_of_mark (by simp [marks]) _
  | string body => exact lookup?_eq_none_of_mark (by simp [marks]) _
  | nil => exact @lookup?_eq_none_of_mark (utf8 "nil@") (by simp [marks]) (utf8 "nil")
  | label hn ht => exact absurd rfl hc
  | type ht => exact lookup?_typeWord _ ht

theorem recognize_eq_label_iff {c : Category} {token : Bytes} (h : Lexeme c token) :
    recognize token = (⟨token, .label⟩, none) ↔ c = .label := by
  rw [recognize_of_ok h.classify]
  simp

/-- The operands of a statement name no opcode exactly if its labels do not. -/
theorem Forms.no_opcode_iff {first : Bytes} {tokens : List Bytes} {st : Statement}
    (h : Forms (first :: tokens) st) :
    (∀ o ∈ st.operands, lookup? o.text = none) ↔
      ∀ t ∈ tokens, recognize t = (⟨t, .label⟩, none) → isOpcode t = false := by
  have hlex := h.lexeme
  cases h with
  | intro hs ho =>
    simp only [List.forall_mem_map, isOpcode_eq_false_iff]
    refine forall₂_congr fun o hm => ⟨fun hn _ => hn, fun hn => ?_⟩
    by_cases hc : o.category = .label
    · exact hn ((recognize_eq_label_iff (hlex o hm)).2 hc)
    · exact (hlex o hm).lookup?_eq_none hc

/-! ## Signatures with labels -/

/-- The opcodes whose first operand is a label. -/
def labelOpcodes : List Bytes :=
  [utf8 "CALL", utf8 "LABEL", utf8 "JUMP", utf8 "JUMPIFEQ", utf8 "JUMPIFNEQ"]

theorem labelOpcodes_params : ∀ s ∈ instructionSet,
    (s.opcode ∈ labelOpcodes → s.params.head? = some .label) ∧
      (.label ∈ s.params → s.opcode ∈ labelOpcodes) := by
  decide

theorem Category.eq_label_of_admits {p : Category} (h : p.Admits .label) : p = .label := by
  cases p <;> simp_all [Category.Admits]

/-- A statement with a label as an operand has a signature that expects one. -/
theorem label_mem_params {params : List Category} {operands : List Operand}
    (h : List.Forall₂ Operand.Fits params operands) {o : Operand} (hm : o ∈ operands)
    (hc : o.category = .label) : .label ∈ params := by
  obtain ⟨p, hp, ha, -⟩ := exists_fits h hm
  rw [hc] at ha
  rwa [← Category.eq_label_of_admits ha]

/-! ## Lines -/

namespace Line

theorem check_of_nil (text : Bytes) :
    (⟨text, []⟩ : Line).check = (⟨text, []⟩ : Line).validate := by
  unfold check opcodeCount
  rw [if_neg (by simp)]

theorem check_eq_ok_iff_validate {line : Line} {st : Statement} :
    line.check = .ok st ↔ line.validate = .ok st ∧
      ∀ t ∈ line.operands, recognize t = (⟨t, .label⟩, none) → isOpcode t = false := by
  obtain ⟨text, fields⟩ := line
  cases fields with
  | nil =>
    rw [check_of_nil]
    exact ⟨fun h => ⟨h, nofun⟩, And.left⟩
  | cons first tokens =>
    rw [check_eq_ok_iff, validate_eq_ok_iff, spells_iff_forms]
    exact and_congr_right fun h => h.no_opcode_iff

/-- A line that the signature accepts and that has no place for a label is accepted. -/
theorem check_of_validate {line : Line} {s : Signature} {st : Statement}
    (hs : lookup? line.opcode = some s) (hn : .label ∉ s.params) (h : line.validate = .ok st) :
    line.check = .ok st := by
  refine check_eq_ok_iff_validate.2 ⟨h, ?_⟩
  obtain ⟨text, fields⟩ := line
  cases fields with
  | nil => exact nofun
  | cons first tokens =>
    have hf := validate_eq_ok_iff.1 h
    have hlex := hf.lexeme
    rw [lookup?_opcode_eq] at hs
    cases hf with
    | intro hs' ho =>
      cases hs.symm.trans hs'
      -- a label among the operands would have a place in the signature
      intro t ht hr
      obtain ⟨o, hm, rfl⟩ := List.mem_map.1 ht
      exact absurd (label_mem_params ho hm ((recognize_eq_label_iff (hlex o hm)).1 hr)) hn

/-- A line with an opcode in front and another among its operands is refused as ambiguous. -/
theorem check_of_second_opcode {line : Line} {s : Signature} (hs : lookup? line.opcode = some s)
    {token : Bytes} (ht : token ∈ line.operands) (hop : isOpcode token = true) :
    ∃ n, 1 < n ∧ line.check = .error (.refused (.ambiguousLine n)) := by
  obtain ⟨text, fields⟩ := line
  cases fields with
  | nil => cases ht
  | cons first tokens =>
    rw [lookup?_opcode_eq] at hs
    have hlt : 1 < (first :: tokens).countP isOpcode := by
      by_contra hle
      have hn := (countP_isOpcode_le_one hs).1 hle token ht
      rw [isOpcode_eq_false_iff.2 hn] at hop
      cases hop
    exact ⟨_, hlt, check_of_ambiguous hlt⟩

end Line

theorem isOpcode_of_upper_eq {token : Bytes} {s : Signature} (hs : s ∈ instructionSet)
    (h : upper token = upper s.opcode) : isOpcode token = true := by
  rw [upper_opcode hs] at h
  unfold isOpcode
  rw [lookup?_eq_some_iff.2 ⟨hs, h⟩]
  rfl

/-- **A second opcode costs a line its acceptance only as a label.** A line is accepted exactly if
its signature accepts it and none of its labels is an opcode, and the statement is the same. So the
rule refuses nothing that a signature without labels accepts, and it refuses every line of an opcode
with a label where the label is an opcode in any case. -/
theorem second_opcode_refuses_labels_only (line : Line) :
    (∀ st, line.check = .ok st ↔ line.validate = .ok st ∧
      ∀ t ∈ line.operands, recognize t = (⟨t, .label⟩, none) → isOpcode t = false) ∧
    (∀ s, lookup? line.opcode = some s → .label ∉ s.params →
      ∀ st, line.validate = .ok st → line.check = .ok st) ∧
    (∀ s ∈ instructionSet, .label ∈ s.params ↔ s.opcode ∈ labelOpcodes) ∧
    ∀ s, lookup? line.opcode = some s → s.opcode ∈ labelOpcodes →
      s.params.head? = some .label ∧
      ∀ label, line.operands.head? = some label →
        (∃ s' ∈ instructionSet, upper label = upper s'.opcode) →
        ∃ n, 1 < n ∧ line.check = .error (.refused (.ambiguousLine n)) := by
  refine ⟨fun st => Line.check_eq_ok_iff_validate,
    fun s hs hn st h => Line.check_of_validate hs hn h, fun s hs => ?_,
    fun s hs hl => ⟨(labelOpcodes_params s (lookup?_eq_some_iff.1 hs).1).1 hl, ?_⟩⟩
  · obtain ⟨hhead, hmem⟩ := labelOpcodes_params s hs
    exact ⟨hmem, fun hl => List.mem_of_head? (hhead hl)⟩
  · rintro label hlabel ⟨s', hs', hu⟩
    exact Line.check_of_second_opcode hs (List.mem_of_head? hlabel) (isOpcode_of_upper_eq hs' hu)

/-- A jump to a label that is an opcode but for its case, with a long s for one of its letters. -/
def ambiguousJump : Line :=
  .ofText (utf8 "jump pu\u017fhs")

/-- A line whose opcode expects no label. -/
def plainMove : Line :=
  .ofText (utf8 "move GF@x nil@nil")

theorem second_opcode_refuses_labels_only_jump :
    (∃ st, ambiguousJump.validate = .ok st) ∧
      (∃ n, 1 < n ∧ ambiguousJump.check = .error (.refused (.ambiguousLine n))) ∧
      plainMove.check = .ok ⟨utf8 "MOVE", [⟨utf8 "GF@x", .var⟩, ⟨utf8 "nil@nil", .nil⟩]⟩ := by
  have hj : lookup? ambiguousJump.opcode = some ⟨utf8 "JUMP", [.label]⟩ := by decide
  have hl : ambiguousJump.operands.head? = some (utf8 "pu\u017fhs") := by decide
  have hp : ⟨utf8 "PUSHS", [.symb]⟩ ∈ instructionSet := by decide
  have hu : upper (utf8 "pu\u017fhs") = upper (utf8 "PUSHS") := by decide
  have hm : lookup? plainMove.opcode = some ⟨utf8 "MOVE", [.var, .symb]⟩ := by decide
  have hv : plainMove.validate =
      .ok ⟨utf8 "MOVE", [⟨utf8 "GF@x", .var⟩, ⟨utf8 "nil@nil", .nil⟩]⟩ := rfl
  obtain ⟨-, -, -, hjump⟩ := second_opcode_refuses_labels_only ambiguousJump
  obtain ⟨-, hmove, -, -⟩ := second_opcode_refuses_labels_only plainMove
  exact ⟨⟨_, rfl⟩, (hjump _ hj (by decide)).2 _ hl ⟨_, hp, hu⟩, hmove _ hm (by decide) _ hv⟩

end AsmXml
