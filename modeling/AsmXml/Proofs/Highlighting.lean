import AsmXml.Diagnostic
import AsmXml.Proofs.Reading

/-! # What highlighting marks

A token divides a text at its occurrences from left to right: each cut is at the first occurrence in
what is left of the text, and the last segment holds the token no more (`Divides`). A text has one
such division, and it is the one that highlighting computes (`divides_iff`). The token that a reading
blames is a field of the line that it shows, so the line is cut at least once and the token stands out
in the report (`highlighting_marks_occurrences`).
-/

namespace AsmXml

open Text

/-- The segments of a text between the leftmost occurrences of a token that do not overlap. Before
the first occurrence there is no other, and the same holds of what stands behind it. -/
inductive Divides (token : Bytes) : Bytes → List Bytes → Prop
  | last {text : Bytes} (h : ¬ token <:+: text) : Divides token text [text]
  | cut {text before behind : Bytes} {segments : List Bytes}
      (ht : text = before ++ token ++ behind)
      (hf : ∀ earlier rest, text = earlier ++ token ++ rest → before.length ≤ earlier.length)
      (hs : Divides token behind segments) : Divides token text (before :: segments)

/-- A token in yellow. -/
def marked (token : Bytes) : Bytes :=
  utf8 "\x1b[33m" ++ token ++ utf8 "\x1b[0m"

/-! ## Cutting at the first occurrence -/

/-- A text is cut at the first occurrence of the token: none begins earlier. -/
theorem length_le_of_cutAt? {token text before behind : Bytes}
    (h : cutAt? token text = some (before, behind)) {earlier rest : Bytes}
    (he : text = earlier ++ token ++ rest) : before.length ≤ earlier.length := by
  induction text generalizing before earlier with
  | nil =>
    have hl := congrArg List.length (append_of_cutAt? h)
    simp only [List.length_append, List.length_nil] at hl
    omega
  | cons b text ih =>
    rw [cutAt?] at h
    split at h
    · cases h
      exact Nat.zero_le _
    · next hp =>
      obtain ⟨⟨front, back⟩, hc, hb⟩ := Option.map_eq_some_iff.1 h
      cases hb
      cases earlier with
      | nil =>
        -- an occurrence at the very front would have been the cut
        refine absurd (List.isPrefixOf_iff_prefix.2 ?_) hp
        rw [he]
        exact List.prefix_append token rest
      | cons _ earlier =>
        have htail := (List.cons.inj he).2
        exact Nat.succ_le_succ (ih hc htail)

theorem cutAt?_eq_none_iff {token text : Bytes} :
    cutAt? token text = none ↔ ¬ token <:+: text := by
  induction text with
  | nil => simp [cutAt?, List.isEmpty_iff]
  | cons b text ih =>
    rw [cutAt?, List.infix_cons_iff, not_or, ← ih, ← List.isPrefixOf_iff_prefix]
    split
    · next hp => simp [hp]
    · next hp => simp [hp]

/-! ## The division of a text -/

namespace Divides

variable {token text : Bytes} {segs other : List Bytes}

theorem ne_nil (h : Divides token text segs) : segs ≠ [] := by
  cases h <;> exact List.cons_ne_nil _ _

/-- A text is divided in one way. -/
theorem unique (h : Divides token text segs) (h' : Divides token text other) : segs = other := by
  induction h generalizing other with
  | last hn =>
    cases h' with
    | last => rfl
    | cut ht => exact absurd ⟨_, _, ht.symm⟩ hn
  | cut ht hf _ ih =>
    cases h' with
    | last hn => exact absurd ⟨_, _, ht.symm⟩ hn
    | cut ht' hf' hs' =>
      -- neither cut is before the other
      have hl := Nat.le_antisymm (hf _ _ ht') (hf' _ _ ht)
      rw [ht, List.append_assoc, List.append_assoc] at ht'
      obtain ⟨rfl, hrest⟩ := List.append_inj ht' hl
      obtain rfl := List.append_cancel_left hrest
      rw [ih hs']

/-- A text that holds the token is cut. -/
theorem two_le_length (h : Divides token text segs) (hi : token <:+: text) : 2 ≤ segs.length := by
  cases h with
  | last hn => exact absurd hi hn
  | cut _ _ hs =>
    have hp := List.length_pos_iff.2 hs.ne_nil
    rw [List.length_cons]
    omega

end Divides

section

variable {token : Bytes} (ht : token ≠ [])

include ht

theorem divides_segments (text : Bytes) : Divides token text (segments token text) := by
  fun_induction segments token text with
  | case1 text he => exact absurd (List.isEmpty_iff.1 he) ht
  | case2 text _ hc => exact .last (cutAt?_eq_none_iff.1 hc)
  | case3 text _ before behind hc ih =>
    exact .cut (append_of_cutAt? hc).symm (fun _ _ he => length_le_of_cutAt? hc he) ih

/-- The segments that highlighting computes are the division of the text. -/
theorem divides_iff {text : Bytes} {segs : List Bytes} :
    Divides token text segs ↔ segs = segments token text := by
  constructor
  · intro h
    exact h.unique (divides_segments ht text)
  · rintro rfl
    exact divides_segments ht text

theorem highlight_true (text : Bytes) :
    highlight true text token = (marked token).intercalate (segments token text) := by
  unfold highlight
  rw [if_pos (by simpa using ht)]
  rfl

end

theorem highlight_of_plain {colour : Bool} {token : Bytes} (h : colour = false ∨ token = [])
    (text : Bytes) : highlight colour text token = text := by
  unfold highlight
  rcases h with rfl | rfl
  · rfl
  · rw [List.isEmpty_nil, Bool.not_true, Bool.and_false]
    rfl

/-! ## The token to blame -/

/-- A complaint that blames a token blames a field of the line. -/
theorem Complaint.First.token_mem {fields : List Bytes} {c : Complaint} (h : First fields c)
    (ht : c.fault.token ≠ []) : c.fault.token ∈ fields := by
  rcases h.cases with hc | hc | hc | hc | hc
  · cases hc
    exact absurd rfl ht
  · cases hc
    exact List.mem_cons_self
  · cases hc
    exact absurd rfl ht
  · cases hc
    exact List.mem_cons_of_mem _ (List.mem_append_right _ List.mem_cons_self)
  · cases hc
    exact List.mem_cons_of_mem _ (List.mem_append_right _ List.mem_cons_self)

/-- The header has no token to blame. -/
theorem token_of_checkHeader {source : Bytes} {fault : Fault}
    (h : checkHeader source = .error fault) : fault.token = [] := by
  rw [checkHeader_eq] at h
  split at h
  · cases h
    rfl
  · split at h
    · cases h
    · cases h
      rfl

/-- A reading that blames a token stopped at an instruction, and the token is a field of the line of
that instruction, whatever the reader has read before. -/
theorem Reader.token_mem_fields {reader : Reader} {r : Rejection}
    (h : reader.parse.2 = .error (.refused r)) (ht : r.fault.token ≠ []) :
    r.order ≠ 0 ∧ r.fault.token ∈ fields r.line := by
  unfold Reader.parse at h
  cases hh : checkHeader reader.source with
  | error fault =>
    rw [hh] at h
    cases h
    exact absurd (token_of_checkHeader hh) ht
  | ok lines =>
    rw [hh] at h
    rcases readLines_cases reader.order lines with ⟨statements, -, hr⟩ |
      ⟨before, line, after, statements, c, -, -, hc, hr⟩
    · simp only [hr] at h
      cases h
    · simp only [hr] at h
      cases h
      exact ⟨Nat.succ_ne_zero _, hc.token_mem ht⟩

theorem Site.diagnostic_of_token {site : Site} (ho : site.order ≠ 0) (ht : site.token ≠ [])
    (cause : Bytes) :
    site.diagnostic true cause =
      utf8 "\x1b[31m" ++ cause ++ utf8 "\x1b[0m at " ++
        marked (utf8 "instruction " ++ decimal site.order) ++ utf8 "\n" ++
        (marked site.token).intercalate (segments site.token site.line) := by
  have hred : Style.red.paint true cause ++ utf8 " at " =
      utf8 "\x1b[31m" ++ cause ++ utf8 "\x1b[0m at " := by
    rw [Style.paint, colourWith, if_pos rfl, List.append_assoc]
    rfl
  unfold diagnostic
  rw [if_neg ho, if_neg (by simpa using ht), highlight_true ht, hred]
  rfl

/-- **Highlighting marks the leftmost occurrences that do not overlap, and nothing else.** A text has
one division by a token, which puts the text together again, and highlighting writes the same
segments with the marked token between them. Without colour or without a token it leaves the text
alone. A reading that blames a token blames one that its line holds, so that the report marks it. -/
theorem highlighting_marks_occurrences :
    (∀ text token, token ≠ [] → (∃! segs, Divides token text segs) ∧
      ∀ segs, Divides token text segs → text = token.intercalate segs ∧
        highlight true text token = (marked token).intercalate segs) ∧
    (∀ colour text token, colour = false ∨ token = [] → highlight colour text token = text) ∧
    ∀ (reader : Reader) (r : Rejection) (site : Site) (cause : Failure),
      reader.parse.2 = .error (.refused r) → r.toFailure = .rejected site cause →
      site.token ≠ [] → ∃ segs, Divides site.token site.line segs ∧ 2 ≤ segs.length ∧
        site.diagnostic true cause.message =
          utf8 "\x1b[31m" ++ cause.message ++ utf8 "\x1b[0m at " ++
            marked (utf8 "instruction " ++ decimal site.order) ++ utf8 "\n" ++
            (marked site.token).intercalate segs := by
  refine ⟨fun text token ht => ⟨⟨_, divides_segments ht text, ?_⟩, ?_⟩,
    fun colour text token h => highlight_of_plain h text, ?_⟩
  · intro other h
    exact (divides_iff ht).1 h
  · intro segs h
    rw [(divides_iff ht).1 h, intercalate_segments]
    exact ⟨rfl, highlight_true ht text⟩
  · intro reader r site cause hr hf ht
    cases hf
    obtain ⟨ho, hm⟩ := reader.token_mem_fields hr ht
    have hd := divides_segments ht r.line
    refine ⟨_, hd, hd.two_le_length (mem_fields hm).2.1, ?_⟩
    apply Site.diagnostic_of_token _ ht
    simpa using ho

/-- The last field of the line holds the token twice, but the second occurrence overlaps the first. -/
theorem highlighting_marks_overlapping :
    utf8 "aba" ≠ [] ∧
      highlight true (utf8 "ababa") (utf8 "aba") = utf8 "\x1b[33maba\x1b[0mba" ∧
      highlight false (utf8 "ababa") (utf8 "aba") = utf8 "ababa" ∧
      ∃ r, (Reader.ofSource (utf8 ".IPPcode24\naba ababa")).parse.2 = .error (.refused r) ∧
        r.fault.token = utf8 "aba" ∧
        ∃ segs, Divides (utf8 "aba") r.line segs ∧ 2 ≤ segs.length := by
  obtain ⟨hon, hoff, hblame⟩ := highlighting_marks_occurrences
  have ht : utf8 "aba" ≠ [] := List.cons_ne_nil _ _
  have hd : Divides (utf8 "aba") (utf8 "ababa") [[], utf8 "ba"] :=
    .cut rfl (fun _ _ _ => Nat.zero_le _) (.last (cutAt?_eq_none_iff.1 rfl))
  have hr : (Reader.ofSource (utf8 ".IPPcode24\naba ababa")).parse.2 =
      .error (.refused ⟨1, utf8 "aba ababa", .unknownOpcode (utf8 "aba")⟩) := rfl
  obtain ⟨segs, hs, hl, -⟩ := hblame _ _ _ _ hr rfl ht
  exact ⟨ht, ((hon _ _ ht).2 _ hd).2, hoff false _ _ (Or.inl rfl), _, hr, rfl, segs, hs, hl⟩

end AsmXml
