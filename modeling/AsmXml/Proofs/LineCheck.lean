import AsmXml.Proofs.Grammar

/-! # Checking a line decides the grammar

`Line.check` gives the statement that the fields of a line spell (`check_eq_ok_iff`), and the cause
of the first complaint about them otherwise (`check_eq_error_iff`). It meets no defect, because it
asks a signature only for parameters that it has and only for categories that are known. The part of
it that asks a signature, `Line.validate`, gives what the fields form (`validate_eq_ok_iff`).
-/

namespace AsmXml

open Text

/-! ## Recognizing operands -/

theorem Lexeme.known {c : Category} {token : Bytes} (h : Lexeme c token) :
    c ≠ .invalid ∧ ∀ k, c ≠ .unknown k := by
  cases h <;> simp

theorem Lexeme.classify {c : Category} {token : Bytes} (h : Lexeme c token) :
    AsmXml.classify token = .ok c :=
  (classify_eq_ok_iff h.known.1).2 h

theorem recognize_of_ok {token : Bytes} {c : Category} (h : classify token = .ok c) :
    recognize token = (⟨token, c⟩, none) := by
  unfold recognize
  rw [h]

theorem recognizeAll_cons_ok {token : Bytes} {c : Category} (h : classify token = .ok c)
    (rest : List Bytes) :
    recognizeAll (token :: rest) = (recognizeAll rest).map (⟨token, c⟩ :: ·) := by
  unfold recognizeAll
  rw [List.mapM_cons, recognize_of_ok h]
  rfl

theorem recognizeAll_cons_error {token : Bytes} {m : Malformed} (h : classify token = .error m)
    (rest : List Bytes) : recognizeAll (token :: rest) = .error (.malformed m token) := by
  unfold recognizeAll recognize
  rw [List.mapM_cons, h]
  rfl

theorem recognizeAll_of_ok {tokens : List Bytes} (h : ∀ t ∈ tokens, ∃ c, classify t = .ok c) :
    recognizeAll tokens = .ok (tokens.map fun t => (recognize t).1) := by
  induction tokens with
  | nil => rfl
  | cons token rest ih =>
    obtain ⟨c, hc⟩ := h token List.mem_cons_self
    rw [recognizeAll_cons_ok hc, ih fun t ht => h t (List.mem_cons_of_mem _ ht), List.map_cons,
      recognize_of_ok hc]
    rfl

theorem recognizeAll_of_error {before : List Bytes} {token : Bytes} {m : Malformed}
    (hb : ∀ t ∈ before, ∃ c, classify t = .ok c) (h : classify token = .error m)
    (after : List Bytes) :
    recognizeAll (before ++ token :: after) = .error (.malformed m token) := by
  induction before with
  | nil => exact recognizeAll_cons_error h after
  | cons t before ih =>
    obtain ⟨c, hc⟩ := hb t List.mem_cons_self
    rw [List.cons_append, recognizeAll_cons_ok hc,
      ih fun t' ht => hb t' (List.mem_cons_of_mem _ ht)]
    rfl

theorem exists_classify_ok {token : Bytes} (h : ∀ m, ¬ Misshapen m token) :
    ∃ c, classify token = .ok c := by
  cases hc : classify token with
  | ok c => exact ⟨c, rfl⟩
  | error m => exact absurd (classify_eq_error_iff.1 hc) (h m)

theorem classify_of_shows {token : Bytes} {c : Category} (hm : ∀ m, ¬ Misshapen m token)
    (h : Complaint.Shows token c) : classify token = .ok c := by
  rcases h with h | ⟨rfl, hn⟩
  · exact h.classify
  · obtain ⟨found, hf⟩ := exists_classify_ok hm
    by_cases hi : found = .invalid
    · rw [hf, hi]
    · exact absurd ((classify_eq_ok_iff hi).1 hf) (hn found)

theorem Complaint.Shows.known {token : Bytes} {c : Category} (h : Shows token c) :
    ∀ k, c ≠ .unknown k := by
  rcases h with h | ⟨rfl, -⟩
  · exact h.known.2
  · simp

/-! ## Comparing with a signature -/

theorem params_known : ∀ s ∈ instructionSet, ∀ p ∈ s.params,
    p ∈ [Category.var, .symb, .label, .type] := by
  decide

theorem accepts_eq {expected got : Category}
    (he : expected ∈ [Category.var, .symb, .label, .type]) (hg : ∀ k, got ≠ .unknown k) :
    expected.accepts got = .ok (decide (expected.Admits got)) := by
  simp only [List.mem_cons, List.not_mem_nil, or_false] at he
  cases got with
  | unknown k => exact absurd rfl (hg k)
  | _ => rcases he with rfl | rfl | rfl | rfl <;> rfl

theorem param_of_getElem? {s : Signature} {i : Nat} {p : Category} (h : s.params[i]? = some p) :
    s.param i = .ok p := by
  have hi : (i : Int) = .ofNat i := rfl
  rw [hi, Signature.param]
  simp only [h]

theorem checkFrom_cons {s : Signature} (hs : s ∈ instructionSet) {i : Nat} {p : Category}
    (hp : s.params[i]? = some p) {o : Operand} (hk : ∀ k, o.category ≠ .unknown k)
    (rest : List Operand) : s.checkFrom i (o :: rest) =
      if p.Admits o.category then s.checkFrom (i + 1) rest
      else .error (.refused (.argumentType o.text p o.category)) := by
  have hm := params_known s hs p (List.mem_of_getElem? hp)
  rw [Signature.checkFrom, param_of_getElem? hp]
  simp only [Except.mapError, bind, Except.bind, accepts_eq hm hk, decide_eq_true_eq]

/-- Operands that fit their parameters are passed over. -/
theorem checkFrom_append {s : Signature} (hs : s ∈ instructionSet) {params : List Category}
    {before : List Operand} (hb : List.Forall₂ Operand.Fits params before)
    (front more : List Category) (hp : s.params = front ++ params ++ more) (rest : List Operand) :
    s.checkFrom front.length (before ++ rest) = s.checkFrom (front ++ params).length rest := by
  induction hb generalizing front with
  | nil => rw [List.append_nil, List.nil_append]
  | @cons p o params before hf _ ih =>
    have hi : s.params[front.length]? = some p := by simp [hp]
    rw [List.cons_append, checkFrom_cons hs hi hf.2.known.2, if_pos hf.1]
    have := ih (front ++ [p]) (by simp [hp])
    simpa using this

theorem checkFrom_fits {s : Signature} (hs : s ∈ instructionSet) {operands : List Operand}
    (ho : List.Forall₂ Operand.Fits s.params operands) : s.checkFrom 0 operands = .ok () := by
  have h := checkFrom_append hs ho [] [] (by simp) []
  rw [List.append_nil] at h
  exact h

theorem checkFrom_mismatch {s : Signature} (hs : s ∈ instructionSet)
    {params more : List Category} {expected : Category} (hp : s.params = params ++ expected :: more)
    {before : List Operand} (hb : List.Forall₂ Operand.Fits params before) {o : Operand}
    (hk : ∀ k, o.category ≠ .unknown k) (hn : ¬ expected.Admits o.category) (after : List Operand) :
    s.checkFrom 0 (before ++ o :: after) =
      .error (.refused (.argumentType o.text expected o.category)) := by
  have h := checkFrom_append hs hb [] (expected :: more) (by simp [hp]) (o :: after)
  have hi : s.params[params.length]? = some expected := by simp [hp]
  rw [List.nil_append, checkFrom_cons hs hi hk, if_neg hn] at h
  exact h

/-! ## A line with an opcode in front -/

namespace Line

variable {text first : Bytes} {tokens : List Bytes}

theorem check_of_ambiguous (h : 1 < (first :: tokens).countP isOpcode) :
    (⟨text, first :: tokens⟩ : Line).check =
      .error (.refused (.ambiguousLine ((first :: tokens).countP isOpcode))) := by
  unfold check opcodeCount
  rw [if_pos h]

/-- Without a second opcode, a line is judged by its signature alone. -/
theorem check_eq_validate (h : ¬ 1 < (first :: tokens).countP isOpcode) :
    (⟨text, first :: tokens⟩ : Line).check = (⟨text, first :: tokens⟩ : Line).validate := by
  unfold check opcodeCount
  rw [if_neg h]

theorem lookup?_opcode_eq : lookup? (⟨text, first :: tokens⟩ : Line).opcode = lookup? first :=
  lookup?_upper first

/-- The signature of a line is the one that its first field names. -/
theorem validate_eq :
    (⟨text, first :: tokens⟩ : Line).validate =
      match lookup? first with
      | none => .error (.refused (.unknownOpcode first))
      | some s =>
        if tokens.length = s.arity then do
          let operands ← (recognizeAll tokens).mapError .refused
          s.checkFrom 0 operands
          return ⟨s.opcode, operands⟩
        else .error (.refused (.argumentCount s.opcode s.arity tokens.length)) := by
  unfold validate
  rw [lookup?_opcode_eq]
  rfl

theorem validate_of_recognized {s : Signature} (hs : lookup? first = some s)
    (hl : tokens.length = s.arity) {operands : List Operand}
    (hr : recognizeAll tokens = .ok operands) :
    (⟨text, first :: tokens⟩ : Line).validate =
      (s.checkFrom 0 operands).map fun _ => ⟨s.opcode, operands⟩ := by
  rw [validate_eq, hs]
  simp only [if_pos hl, hr, Except.mapError, bind, Except.bind]
  cases s.checkFrom 0 operands <;> rfl

/-- A line that forms a statement passes, whatever the guard against further opcodes would say. -/
theorem validate_of_forms {st : Statement} (h : Forms (first :: tokens) st) :
    (⟨text, first :: tokens⟩ : Line).validate = .ok st := by
  cases h with
  | @intro _ s operands hs ho =>
    have hc : ∀ o ∈ operands, classify o.text = .ok o.category := by
      intro o hm
      obtain ⟨p, -, hf⟩ := exists_fits ho hm
      exact hf.2.classify
    have hr : recognizeAll (operands.map Operand.text) = .ok operands := by
      rw [recognizeAll_of_ok, List.map_map]
      · congr 1
        conv => rhs; rw [← List.map_id operands]
        apply List.map_congr_left
        intro o hm
        rw [Function.comp_apply, recognize_of_ok (hc o hm)]
        rfl
      · intro t ht
        obtain ⟨o, hm, rfl⟩ := List.mem_map.1 ht
        exact ⟨o.category, hc o hm⟩
    have hl : (operands.map Operand.text).length = s.arity := by
      rw [List.length_map, Signature.arity, ho.length_eq]
    rw [validate_of_recognized hs hl hr, checkFrom_fits (lookup?_eq_some_iff.1 hs).1 ho]
    rfl

/-- What a line spells is its statement. -/
theorem check_of_spells {st : Statement} (h : Spells (first :: tokens) st) :
    (⟨text, first :: tokens⟩ : Line).check = .ok st := by
  have hone : ¬ 1 < (first :: tokens).countP isOpcode := by
    cases h with
    | intro hs ho hn =>
      rw [countP_isOpcode_le_one hs]
      intro t ht
      obtain ⟨o, hm, rfl⟩ := List.mem_map.1 ht
      exact hn o hm
  rw [check_eq_validate hone, validate_of_forms (spells_iff_forms.1 h).1]

theorem validate_of_malformed {c : Complaint} {s : Signature} (hs : lookup? first = some s)
    (hl : tokens.length = s.arity) (h : Complaint.MalformedOperand (first :: tokens) c) :
    (⟨text, first :: tokens⟩ : Line).validate = .error (.refused c.fault) := by
  cases h with
  | @intro _ token before after m hb hm =>
    have hr := recognizeAll_of_error (fun t ht => exists_classify_ok (hb t ht))
      (classify_eq_error_iff.2 hm) after
    rw [validate_eq, hs]
    simp only [if_pos hl]
    rw [hr]
    rfl

/-- Once the tokens are as many as the signature asks for and none is misshapen, the first operand
of a wrong category is the fault. -/
theorem validate_of_wrongType {c : Complaint}
    (hl : ∀ s, lookup? first = some s → tokens.length = s.arity)
    (hw : ∀ t ∈ tokens, ∀ m, ¬ Misshapen m t) (h : Complaint.WrongType (first :: tokens) c) :
    (⟨text, first :: tokens⟩ : Line).validate = .error (.refused c.fault) := by
  cases h with
  | @intro _ token before after s params more expected found hs hp hb hf hn =>
    have hc : recognize token = (⟨token, found⟩, none) :=
      recognize_of_ok (classify_of_shows (hw token (by simp)) hf)
    have hr := recognizeAll_of_ok fun t ht => exists_classify_ok (hw t ht)
    rw [List.map_append, List.map_cons, hc] at hr
    have hfit : List.Forall₂ Operand.Fits params (before.map fun t => (recognize t).1) := by
      rw [List.forall₂_map_right_iff]
      refine hb.imp fun p t ⟨c, ha, hlex⟩ => ?_
      rw [recognize_of_ok hlex.classify]
      exact ⟨ha, hlex⟩
    rw [validate_of_recognized hs (hl s hs) hr,
      checkFrom_mismatch (lookup?_eq_some_iff.1 hs).1 hp hfit hf.known hn]
    rfl

/-- The first fault that a signature finds is what it refuses the line for. -/
theorem validate_of_firstOf {c : Complaint}
    (h : Complaint.FirstOf Complaint.signatureStages (first :: tokens) c) :
    (⟨text, first :: tokens⟩ : Line).validate = .error (.refused c.fault) := by
  rcases h.cons_cases with h1 | ⟨h1, h⟩
  · cases h1 with
    | intro hs => rw [validate_eq, hs]
  cases hs : lookup? first with
  | none => exact absurd (.intro hs) (h1 _)
  | some s =>
    rcases h.cons_cases with h2 | ⟨h2, h⟩
    · cases h2 with
      | intro hs' hne =>
        cases hs.symm.trans hs'
        rw [validate_eq, hs]
        simp only [if_neg hne]
    have hl : tokens.length = s.arity :=
      Decidable.byContradiction fun hne => h2 _ (.intro hs hne)
    rcases h.cons_cases with h3 | ⟨h3, h⟩
    · exact validate_of_malformed hs hl h3
    have hw : ∀ t ∈ tokens, ∀ m, ¬ Misshapen m t := by
      intro t ht m hm
      obtain ⟨before, token, after, rfl, ⟨m', hm'⟩, hb⟩ :=
        exists_first (p := fun t => ∃ m, Misshapen m t) ⟨t, ht, m, hm⟩
      exact h3 _ (.intro (fun t' ht' m' hm' => hb t' ht' ⟨m', hm'⟩) hm')
    rcases h.cons_cases with h4 | ⟨-, h⟩
    · refine validate_of_wrongType (fun s' hs' => ?_) hw h4
      cases hs.symm.trans hs'
      exact hl
    · exact absurd h Complaint.not_firstOf_nil

/-- The first complaint about a line is what the line is refused for. -/
theorem check_of_first {c : Complaint} (h : Complaint.First (first :: tokens) c) :
    (⟨text, first :: tokens⟩ : Line).check = .error (.refused c.fault) := by
  rcases h.cons_cases with h1 | ⟨h1, h⟩
  · cases h1 with
    | intro hlt => exact check_of_ambiguous hlt
  · have hone : ¬ 1 < (first :: tokens).countP isOpcode := fun hlt => h1 _ (.intro hlt)
    rw [check_eq_validate hone]
    exact validate_of_firstOf h

/-- A line is refused with exactly its first complaint. -/
theorem check_eq_error_iff {f : Fault} :
    (⟨text, first :: tokens⟩ : Line).check = .error (.refused f) ↔
      ∃ c, Complaint.First (first :: tokens) c ∧ c.fault = f := by
  constructor
  · intro h
    rcases spells_or_first_complaint first tokens with ⟨st, hst⟩ | ⟨c, hc⟩
    · rw [check_of_spells hst] at h
      cases h
    · rw [check_of_first hc] at h
      cases h
      exact ⟨c, hc, rfl⟩
  · rintro ⟨c, hc, rfl⟩
    exact check_of_first hc

/-- A line is accepted as exactly the statement that it spells. -/
theorem check_eq_ok_iff {st : Statement} :
    (⟨text, first :: tokens⟩ : Line).check = .ok st ↔ Spells (first :: tokens) st := by
  constructor
  · intro h
    rcases spells_or_first_complaint first tokens with ⟨st', hst⟩ | ⟨c, hc⟩
    · rw [check_of_spells hst] at h
      cases h
      exact hst
    · rw [check_of_first hc] at h
      cases h
  · exact check_of_spells

/-- The signature accepts a line as exactly the statement that it forms. -/
theorem validate_eq_ok_iff {st : Statement} :
    (⟨text, first :: tokens⟩ : Line).validate = .ok st ↔ Forms (first :: tokens) st := by
  refine ⟨fun h => ?_, validate_of_forms⟩
  rcases forms_or_firstOf first tokens with ⟨st', hst⟩ | ⟨c, hc⟩
  · rw [validate_of_forms hst] at h
    cases h
    exact hst
  · rw [validate_of_firstOf hc] at h
    cases h

theorem check_ne_defect {d : Defect} :
    (⟨text, first :: tokens⟩ : Line).check ≠ .error (.defect d) := by
  intro h
  rcases spells_or_first_complaint first tokens with ⟨st, hst⟩ | ⟨c, hc⟩
  · rw [check_of_spells hst] at h
    cases h
  · rw [check_of_first hc] at h
    cases h

end Line

/-- Every stage names the kind of its faults and the token to blame. -/
theorem Complaint.First.kind_token {fields : List Bytes} {c : Complaint} (h : First fields c) :
    c.fault.kind = c.kind ∧ c.fault.token = c.token := by
  rcases h.cases with hc | hc | hc | hc | hc <;> cases hc <;> exact ⟨rfl, rfl⟩

end AsmXml
