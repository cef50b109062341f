import AsmXml.Proofs.Endings
import AsmXml.Proofs.Rows
import AsmXml.Proofs.Text.AsciiCase

/-!
# Layout and the case of opcodes do not matter

Two runs side by side. Their sources have the same rows, except that the first fields of the rows
behind the header may be related by some `R` that looking up opcodes does not see (`Unseen`). Line
by line the two are judged alike (`check_alike`), so the readings come equally far
(`readLines_alike`) and the runs end alike (`run_alike`): with one output and one exit code, and
with one error up to the text of its line and up to `R` in its token. Equality is such an `R`, and
so is the same spelling up to the case of ASCII letters.

The text of a line is not among what agrees, since errors quote it as it is laid out. The header is
the one line that is compared as a text; it has a single field, which a trimmed line is equal to if
it has no other (`eq_header_iff`).
-/

namespace AsmXml

open Text

/-! ## What agrees -/

/-- What is wrong with a program, without the particulars. -/
inductive FaultName where
  | emptyInput
  | badHeader
  | ambiguousLine
  | unknownOpcode
  | argumentCount
  | malformed (complaint : Malformed)
  | argumentType
  deriving DecidableEq, Repr

def Fault.name : Fault → FaultName
  | .emptyInput => .emptyInput
  | .badHeader _ => .badHeader
  | .ambiguousLine _ => .ambiguousLine
  | .unknownOpcode _ => .unknownOpcode
  | .argumentCount .. => .argumentCount
  | .malformed complaint _ => .malformed complaint
  | .argumentType .. => .argumentType

/-- Two failures of the same kind, order and fault, with related tokens to blame. Failures to write
are the same altogether. -/
inductive Failure.Alike (R : Bytes → Bytes → Prop) : Failure → Failure → Prop
  | rejected {site site' : Site} {cause cause' : Fault} (hk : site'.kind = site.kind)
      (ho : site'.order = site.order) (ht : R site.token site'.token)
      (hn : cause'.name = cause.name) :
      Failure.Alike R (.rejected site (.fault cause)) (.rejected site' (.fault cause'))
  | unwritten (cause : Failure) : Failure.Alike R (.ofWrite cause) (.ofWrite cause)

/-- The translator with a source that can be read. -/
def Translator.on (t : Translator) (source : Bytes) : Translator :=
  { t with input := ⟨source, none⟩ }

/-- Runs on two sources have the same output and exit code, and fail alike if they fail. -/
def RunAlike (R : Bytes → Bytes → Prop) (colour : Bool) (t : Translator)
    (source source' : Bytes) : Prop :=
  ∃ u r u' r', (t.on source).run colour = .ok (u, r) ∧ (t.on source').run colour = .ok (u', r') ∧
    u'.output = u.output ∧ r'.exitCode = r.exitCode ∧
    Option.Rel (Failure.Alike R) r.failure r'.failure

/-- Rows with related first fields and the same fields behind them. -/
inductive RowAlike (R : Bytes → Bytes → Prop) : List Bytes → List Bytes → Prop
  | intro {first first' : Bytes} (h : R first first') (tokens : List Bytes) :
      RowAlike R (first :: tokens) (first' :: tokens)

/-- The same first row, and rows behind it with related first fields. -/
inductive RowsAlike (R : Bytes → Bytes → Prop) : List (List Bytes) → List (List Bytes) → Prop
  | nil : RowsAlike R [] []
  | cons (first : List Bytes) {rest rest' : List (List Bytes)}
      (h : List.Forall₂ (RowAlike R) rest rest') : RowsAlike R (first :: rest) (first :: rest')

/-- Looking up opcodes does not see the relation. -/
structure Unseen (R : Bytes → Bytes → Prop) : Prop where
  refl : ∀ x, R x x
  lookup : ∀ x y, R x y → lookup? y = lookup? x

theorem unseen_eq : Unseen Eq where
  refl _ := rfl
  lookup _ _ h := by rw [h]

theorem unseen_sameLetters : Unseen SameLetters where
  refl := SameLetters.refl
  lookup x y h := by
    unfold lookup?
    rw [upper_eq_of_sameLetters h]

section

variable {R : Bytes → Bytes → Prop}

/-! ## Lines -/

def Fault.Alike (R : Bytes → Bytes → Prop) (f f' : Fault) : Prop :=
  f'.name = f.name ∧ R f.token f'.token

/-- The same result, or related reasons for having none. -/
inductive Agree {α ε : Type} (S : ε → ε → Prop) :
    Except (Halt ε) α → Except (Halt ε) α → Prop
  | ok (a : α) : Agree S (.ok a) (.ok a)
  | refused {e e' : ε} (h : S e e') : Agree S (.error (.refused e)) (.error (.refused e'))

theorem agree_self {α ε : Type} {S : ε → ε → Prop} (hS : ∀ e, S e e) {x : Except (Halt ε) α}
    (hd : ∀ d, x ≠ .error (.defect d)) : Agree S x x := by
  cases x with
  | ok a => exact .ok a
  | error halt =>
    cases halt with
    | refused e => exact .refused (hS e)
    | defect d => exact absurd rfl (hd d)

/-- Rows that differ only in how the first field is written are checked alike. -/
theorem check_alike (hR : Unseen R) (text text' : Bytes) {row row' : List Bytes}
    (h : RowAlike R row row') :
    Agree (Fault.Alike R) (⟨text, row⟩ : Line).check (⟨text', row'⟩ : Line).check := by
  cases h with
  | @intro first first' hf tokens =>
    have hl := hR.lookup _ _ hf
    have hop : isOpcode first' = isOpcode first := by
      unfold isOpcode
      rw [hl]
    have hcount : (first' :: tokens).countP isOpcode = (first :: tokens).countP isOpcode := by
      rw [List.countP_cons, List.countP_cons, hop]
    by_cases hone : 1 < (first :: tokens).countP isOpcode
    · rw [Line.check_of_ambiguous hone, Line.check_of_ambiguous (by rwa [hcount]), hcount]
      exact .refused ⟨rfl, hR.refl _⟩
    cases hs : lookup? first with
    | none =>
      rw [Line.check_eq_validate hone, Line.check_eq_validate (by rwa [hcount]), Line.validate_eq,
        Line.validate_eq, hl, hs]
      exact .refused ⟨rfl, hf⟩
    | some s =>
      -- from here on neither the text nor the first field is looked at
      have he : (⟨text', first' :: tokens⟩ : Line).check =
          (⟨text, first :: tokens⟩ : Line).check := by
        rw [Line.check_eq_validate hone, Line.check_eq_validate (by rwa [hcount]), Line.validate_eq,
          Line.validate_eq, hl, hs]
      rw [he]
      exact agree_self (fun f => ⟨rfl, hR.refl _⟩) fun d => Line.check_ne_defect

/-! ## Readings -/

def Rejection.Alike (R : Bytes → Bytes → Prop) (r r' : Rejection) : Prop :=
  r'.order = r.order ∧ r.fault.Alike R r'.fault

/-- Readings that came equally far, and were stopped for related reasons if they were. -/
inductive Progress.Alike (R : Bytes → Bytes → Prop) : Progress → Progress → Prop
  | finished (order : Nat) (accepted : List Instruction) :
      Progress.Alike R ⟨order, accepted, none⟩ ⟨order, accepted, none⟩
  | stopped (order : Nat) (accepted : List Instruction) {r r' : Rejection} (h : r.Alike R r') :
      Progress.Alike R ⟨order, accepted, some (.refused r)⟩ ⟨order, accepted, some (.refused r')⟩

theorem Progress.Alike.cons {p p' : Progress} (h : p.Alike R p') (i : Instruction) :
    Progress.Alike R { p with accepted := i :: p.accepted }
      { p' with accepted := i :: p'.accepted } := by
  cases h with
  | finished order accepted => exact .finished order (i :: accepted)
  | stopped order accepted h => exact .stopped order (i :: accepted) h

theorem RowAlike.ne_nil {row row' : List Bytes} (h : RowAlike R row row') :
    row ≠ [] ∧ row' ≠ [] := by
  cases h
  exact ⟨List.cons_ne_nil _ _, List.cons_ne_nil _ _⟩

theorem check_trim_alike (hR : Unseen R) {text text' : Bytes}
    (h : RowAlike R (fields text) (fields text')) :
    Agree (Fault.Alike R) (Line.ofText (trim text)).check (Line.ofText (trim text')).check := by
  rw [← fields_trim text, ← fields_trim text'] at h
  exact check_alike hR (trim text) (trim text') h

/-- Lines of such rows are read alike, up to the first that is refused and including it. -/
theorem readLines_alike (hR : Unseen R) {lines lines' : List Bytes}
    (h : List.Forall₂ (fun l l' => RowAlike R (fields l) (fields l')) lines lines')
    (order : Nat) : (readLines order lines).Alike R (readLines order lines') := by
  induction h generalizing order with
  | nil => exact .finished order []
  | @cons l l' lines lines' hrow _ ih =>
    have hne : trim l ≠ [] := mt trim_eq_nil_iff.1 hrow.ne_nil.1
    have hne' : trim l' ≠ [] := mt trim_eq_nil_iff.1 hrow.ne_nil.2
    have hcheck := check_trim_alike hR hrow
    generalize hx : (Line.ofText (trim l)).check = x at hcheck
    generalize hx' : (Line.ofText (trim l')).check = x' at hcheck
    cases hcheck with
    | ok st =>
      rw [readLines_of_ok hne hx, readLines_of_ok hne' hx']
      exact (ih (order + 1)).cons (st.numbered (order + 1))
    | refused hf =>
      rw [readLines_of_error hne hx, readLines_of_error hne' hx']
      exact .stopped (order + 1) [] ⟨rfl, hf⟩

/-! ## Sources -/

theorem eq_header_iff {line : Bytes} (h : trim line = line) :
    line = header ↔ fields line = [header] := by
  constructor
  · rintro rfl
    decide
  · exact eq_of_fields_eq_singleton h

theorem parse_prepare_of_header {source : Bytes} {lines : List Bytes}
    (h : sourceLines source = header :: lines) :
    parse (prepare (rawLines source)) =
      match (readLines 0 lines).stop with
      | none => .ok (readLines 0 lines).accepted
      | some halt => .error halt := by
  rw [parse_of_header (firstLine_prepare h), splitOn_prepare (by simp [h]), h]
  rfl

theorem parse_prepare_of_ne_header {source first : Bytes} {lines : List Bytes}
    (h : sourceLines source = first :: lines) (hne : first ≠ header) :
    parse (prepare (rawLines source)) = .error (.refused ⟨0, [], .badHeader first⟩) := by
  have hf := firstLine_prepare h
  have hb : first ≠ [] := (mem_sourceLines (h ▸ List.mem_cons_self)).2.1
  have hp := parse_of_badHeader (by rwa [hf] : firstLine (prepare (rawLines source)) ≠ [])
    (by rwa [hf])
  rwa [hf] at hp

/-- The lines of sources with related rows: none at all, or a first line with the same fields and
related lines behind it. -/
theorem RowsAlike.lines {source source' : Bytes} (h : RowsAlike R (rows source) (rows source')) :
    sourceLines source = [] ∧ sourceLines source' = [] ∨
    ∃ first first' lines lines', sourceLines source = first :: lines ∧
      sourceLines source' = first' :: lines' ∧ fields first = fields first' ∧
      List.Forall₂ (fun l l' => RowAlike R (fields l) (fields l')) lines lines' := by
  rw [rows_eq, rows_eq] at h
  generalize hx : (sourceLines source).map fields = x at h
  generalize hx' : (sourceLines source').map fields = x' at h
  cases h with
  | nil => exact Or.inl ⟨List.map_eq_nil_iff.1 hx, List.map_eq_nil_iff.1 hx'⟩
  | cons _ hrest =>
    obtain ⟨first, lines, hl, hf, rfl⟩ := List.map_eq_cons_iff.1 hx
    obtain ⟨first', lines', hl', hf', rfl⟩ := List.map_eq_cons_iff.1 hx'
    rw [List.forall₂_map_left_iff, List.forall₂_map_right_iff] at hrest
    exact Or.inr ⟨first, first', lines, lines', hl, hl', hf.trans hf'.symm, hrest⟩

/-- Sources of such rows are parsed alike: to the same program, or they are refused in the same
place by faults of the same name. -/
theorem parse_alike (hR : Unseen R) {source source' : Bytes}
    (h : RowsAlike R (rows source) (rows source')) :
    Agree (Rejection.Alike R) (parse (prepare (rawLines source)))
      (parse (prepare (rawLines source'))) := by
  rcases h.lines with ⟨hl, hl'⟩ | ⟨first, first', lines, lines', hl, hl', hf, hrows⟩
  · rw [parse_of_blank (firstLine_prepare_nil hl), parse_of_blank (firstLine_prepare_nil hl')]
    exact .refused ⟨rfl, rfl, hR.refl []⟩
  have ht := (mem_sourceLines (hl ▸ List.mem_cons_self)).1
  have ht' := (mem_sourceLines (hl' ▸ List.mem_cons_self)).1
  have hiff : first = header ↔ first' = header := by
    rw [eq_header_iff ht, eq_header_iff ht', hf]
  by_cases hh : first = header
  · have hh' := hiff.1 hh
    subst hh hh'
    have hread := readLines_alike hR hrows 0
    rw [parse_prepare_of_header hl, parse_prepare_of_header hl']
    generalize readLines 0 lines = p at hread
    generalize readLines 0 lines' = p' at hread
    cases hread with
    | finished order accepted => exact .ok accepted
    | stopped order accepted h => exact .refused h
  · rw [parse_prepare_of_ne_header hl hh, parse_prepare_of_ne_header hl' (mt hiff.2 hh)]
    exact .refused ⟨rfl, rfl, hR.refl []⟩

/-! ## Runs -/

def FaultName.kind : FaultName → ErrorKind
  | .emptyInput | .badHeader => .header
  | .unknownOpcode => .opcode
  | .ambiguousLine | .argumentCount | .malformed _ | .argumentType => .malformed

theorem Fault.kind_name (f : Fault) : f.name.kind = f.kind := by
  cases f <;> rfl

theorem Fault.Alike.kind_eq {f f' : Fault} (h : f.Alike R f') : f'.kind = f.kind := by
  rw [← kind_name, h.1, kind_name]

theorem Rejection.Alike.toFailure {r r' : Rejection} (h : r.Alike R r') :
    r.toFailure.Alike R r'.toFailure :=
  .rejected h.2.kind_eq (congrArg Nat.cast h.1) h.2.2 h.2.1

theorem Rejection.Alike.exitCode_eq {r r' : Rejection} (h : r.Alike R r') :
    r'.toFailure.exitCode = r.toFailure.exitCode :=
  congrArg ErrorKind.exitCode h.2.kind_eq

theorem rel_ofWrite (f : Option Failure) :
    Option.Rel (Failure.Alike R) (f.map .ofWrite) (f.map .ofWrite) := by
  cases f with
  | none => exact .none
  | some cause => exact .some (.unwritten cause)

theorem output_reported (colour : Bool) (f : Failure) (t : Translator) :
    (t.reported colour f).output = t.output := by
  unfold Translator.reported
  split <;> rfl

/-- Runs on such sources end alike, with the same output and the same exit code. -/
theorem run_alike (hR : Unseen R) (colour : Bool) (t : Translator) {source source' : Bytes}
    (h : RowsAlike R (rows source) (rows source')) : RunAlike R colour t source source' := by
  have hparse := parse_alike hR h
  generalize hp : parse (prepare (rawLines source)) = x at hparse
  generalize hp' : parse (prepare (rawLines source')) = x' at hparse
  cases hparse with
  | ok program =>
    obtain ⟨document, -, hg⟩ := generate_of_parse hp
    have hrun := Translator.run_of_parsed (t := t.on source) colour rfl hp hg
    have hrun' := Translator.run_of_parsed (t := t.on source') colour rfl hp' hg
    exact ⟨_, _, _, _, hrun, hrun', rfl, rfl, rel_ofWrite _⟩
  | @refused r r' hr =>
    have hrun := Translator.run_of_refused (t := t.on source) colour rfl hp
    have hrun' := Translator.run_of_refused (t := t.on source') colour rfl hp'
    refine ⟨_, _, _, _, hrun, hrun', ?_, hr.exitCode_eq, .some hr.toFailure⟩
    rw [output_reported, output_reported]
    rfl

end

theorem rowsAlike_of_eq {source source' : Bytes} (h : rows source = rows source') :
    RowsAlike Eq (rows source) (rows source') := by
  have hne : ∀ row ∈ rows source', row ≠ [] := by
    intro row hm
    simpa using (List.mem_filter.1 hm).2
  rw [h]
  cases hr : rows source' with
  | nil => exact .nil
  | cons first rest =>
    rw [hr] at hne
    refine .cons first (List.forall₂_same.2 fun row hm => ?_)
    obtain ⟨head, tokens, rfl⟩ := List.exists_cons_of_ne_nil (hne row (List.mem_cons_of_mem _ hm))
    exact .intro rfl tokens

/-- **Layout and the case of opcodes do not matter.** Sources with the same rows are translated
alike. So are sources whose rows behind the header differ in the case of ASCII letters in their
opcodes, where the token to blame may differ in case as well. In particular, no edit of the layout
changes what a source is translated to. -/
theorem layout_and_case_are_unseen (colour : Bool) (t : Translator) (source source' : Bytes) :
    (rows source = rows source' → RunAlike Eq colour t source source') ∧
    (RowsAlike SameLetters (rows source) (rows source') →
      RunAlike SameLetters colour t source source') ∧
    (Relation.EqvGen Relaid source source' →
      rows source = rows source' ∧ RunAlike Eq colour t source source') := by
  have hsame (h : rows source = rows source') : RunAlike Eq colour t source source' :=
    run_alike unseen_eq colour t (rowsAlike_of_eq h)
  refine ⟨hsame, run_alike unseen_sameLetters colour t, fun h => ?_⟩
  have hrows := rows_of_relaid h
  exact ⟨hrows, hsame hrows⟩

/-- A source with one jump, whose opcode is written in the given way. -/
def jumpSource (opcode : String) : Bytes :=
  utf8 ".IPPcode24\n" ++ utf8 opcode ++ utf8 " end"

theorem layout_and_case_are_unseen_jump :
    let t := Translator.ofInput .empty .accepting true
    (rows (utf8 ".IPPcode24 # go\r\n\n  jump\tend") = rows (jumpSource "jump") ∧
      RunAlike Eq true t (utf8 ".IPPcode24 # go\r\n\n  jump\tend") (jumpSource "jump")) ∧
    (RowsAlike SameLetters (rows (jumpSource "jmp")) (rows (jumpSource "Jmp")) ∧
      RunAlike SameLetters true t (jumpSource "jmp") (jumpSource "Jmp")) ∧
    (Relation.EqvGen Relaid (jumpSource "jump") (jumpSource "jump" ++ utf8 "# go") ∧
      RunAlike Eq true t (jumpSource "jump") (jumpSource "jump" ++ utf8 "# go")) := by
  intro t
  have hrows : rows (utf8 ".IPPcode24 # go\r\n\n  jump\tend") = rows (jumpSource "jump") := by
    decide
  have hcase : RowsAlike SameLetters (rows (jumpSource "jmp")) (rows (jumpSource "Jmp")) := by
    have hl : rows (jumpSource "jmp") = [[header], [utf8 "jmp", utf8 "end"]] := by decide
    have hr : rows (jumpSource "Jmp") = [[header], [utf8 "Jmp", utf8 "end"]] := by decide
    have hs : SameLetters (utf8 "jmp") (utf8 "Jmp") := rfl
    rw [hl, hr]
    exact .cons _ (.cons (.intro hs _) .nil)
  have hedit : Relation.EqvGen Relaid (jumpSource "jump") (jumpSource "jump" ++ utf8 "# go") :=
    .rel _ _ (@Relaid.comment (jumpSource "jump") (utf8 " go") [] (by decide) (Or.inl rfl))
  exact ⟨⟨hrows, (layout_and_case_are_unseen true t _ _).1 hrows⟩,
    ⟨hcase, (layout_and_case_are_unseen true t _ _).2.1 hcase⟩,
    hedit, ((layout_and_case_are_unseen true t _ _).2.2 hedit).2⟩

end AsmXml
