import AsmXml.Failure

/-! # Exit codes of failures

The nodes of a failure are the failure itself and then the nodes of its causes from left to right
(`Failure.nodes`). A search of the tree is a search of that list (`Failure.findSome?_eq`), so what the
exit code looks for can be said of the list: its first rejection, and without one whether it holds
unreadable input (`ExitsWith`). A failure that wraps one other and is no rejection adds a node that
nothing looks for, and so it has the exit code of its cause (`exit_codes_see_through_wrapping`).
-/

namespace AsmXml

open Text

namespace Failure

/-- The failures that a failure arose from, from left to right. -/
def causes : Failure → List Failure
  | .rejected _ cause | .unrenderable _ cause | .usage cause => [cause]
  | .wrapped _ causes => causes
  | .plain _ | .fault _ | .noTypeName _ | .unreadable | .shortWrite => []

theorem sizeOf_lt_of_mem_causes {f g : Failure} (h : g ∈ f.causes) : sizeOf g < sizeOf f := by
  cases f with
  | rejected | unrenderable | usage =>
    rw [List.mem_singleton.1 h]
    simp only [rejected.sizeOf_spec, unrenderable.sizeOf_spec, usage.sizeOf_spec]
    omega
  | wrapped message causes =>
    have hlt := List.sizeOf_lt_of_mem (show g ∈ causes from h)
    rw [wrapped.sizeOf_spec]
    omega
  | plain | fault | noTypeName | unreadable | shortWrite => cases h

/-- A failure and all that it arose from: each node comes before its causes, and causes come from
left to right. -/
def nodes (f : Failure) : List Failure :=
  f :: f.causes.attach.flatMap fun ⟨g, _⟩ => g.nodes
termination_by sizeOf f
decreasing_by exact sizeOf_lt_of_mem_causes ‹_›

theorem nodes_eq (f : Failure) : f.nodes = f :: f.causes.flatMap nodes := by
  rw [nodes, List.flatMap_subtype fun _ _ => rfl, List.unattach_attach]

/-- The node rejects a program. -/
def IsRejection (f : Failure) : Prop :=
  ∃ site cause, f = .rejected site cause

/-! ## Searching the nodes -/

section

variable {α : Type} (p : Failure → Option α)

theorem findSome?_of_causes (f : Failure) :
    f.findSome? p = (p f).or (findSomeAmong? p f.causes) := by
  cases f <;> simp [findSome?, findSomeAmong?, causes]

/-- The first find in a tree is the first find among its nodes. -/
theorem findSome?_eq (f : Failure) : f.findSome? p = f.nodes.findSome? p := by
  fun_induction nodes f with
  | case1 f ih =>
    -- the induction over the tree knows the causes one by one, the search meets them as a list
    have among (fs : List Failure) (hfs : ∀ g ∈ fs, g ∈ f.causes) :
        findSomeAmong? p fs = (fs.flatMap nodes).findSome? p := by
      induction fs with
      | nil => rfl
      | cons g fs ihfs =>
        obtain ⟨hg, hrest⟩ := List.forall_mem_cons.1 hfs
        rw [findSomeAmong?, ih g hg, ihfs hrest, List.flatMap_cons, List.findSome?_append]
    rw [← nodes, nodes_eq, findSome?_of_causes, among f.causes fun g hg => hg, List.findSome?_cons]
    cases p f <;> rfl

end

theorem asRejection?_eq_some_iff {f cause : Failure} {site : Site} :
    f.asRejection? = some (site, cause) ↔ f = .rejected site cause := by
  cases f <;> simp [asRejection?]

theorem asRejection?_eq_none_iff {f : Failure} : f.asRejection? = none ↔ ¬ f.IsRejection := by
  cases f <;> simp [asRejection?, IsRejection]

theorem rejection?_eq_some_iff {f cause : Failure} {site : Site} :
    f.rejection? = some (site, cause) ↔ ∃ before after,
      f.nodes = before ++ .rejected site cause :: after ∧ ∀ g ∈ before, ¬ g.IsRejection := by
  rw [rejection?, findSome?_eq, List.findSome?_eq_some_iff]
  simp only [asRejection?_eq_some_iff, asRejection?_eq_none_iff]
  constructor
  · rintro ⟨before, _, after, hn, rfl, hb⟩
    exact ⟨before, after, hn, hb⟩
  · rintro ⟨before, after, hn, hb⟩
    exact ⟨before, _, after, hn, rfl, hb⟩

theorem rejection?_eq_none_iff {f : Failure} :
    f.rejection? = none ↔ ∀ g ∈ f.nodes, ¬ g.IsRejection := by
  rw [rejection?, findSome?_eq, List.findSome?_eq_none_iff]
  simp only [asRejection?_eq_none_iff]

theorem mentions_isUnreadable_iff {f : Failure} :
    f.mentions isUnreadable = true ↔ .unreadable ∈ f.nodes := by
  have hnode (g : Failure) : g.isUnreadable = true ↔ g = .unreadable := by
    cases g <;> simp [isUnreadable]
  rw [mentions, findSome?_eq, List.findSome?_isSome_iff]
  simp [hnode]

end Failure

/-! ## What the nodes ask for -/

open Failure

/-- The exit code that the nodes of a failure ask for: that of the kind of the first rejection, and
without a rejection that of unreadable input if there is any. -/
inductive ExitsWith (f : Failure) : Nat → Prop
  | rejected {before after : List Failure} {site : Site} {cause : Failure}
      (hn : f.nodes = before ++ .rejected site cause :: after)
      (hb : ∀ g ∈ before, ¬ g.IsRejection) : ExitsWith f site.kind.exitCode
  | unreadable (hr : ∀ g ∈ f.nodes, ¬ g.IsRejection) (hu : .unreadable ∈ f.nodes) :
      ExitsWith f 11
  | other (hr : ∀ g ∈ f.nodes, ¬ g.IsRejection) (hu : .unreadable ∉ f.nodes) : ExitsWith f 99

/-- `g` wraps `f` any number of times, each time `f` alone and not as a rejection. -/
inductive Wraps (f : Failure) : Failure → Prop
  | refl : Wraps f f
  | wrap {g h : Failure} (hg : Wraps f g) (hc : h.causes = [g]) (hr : ¬ h.IsRejection) : Wraps f h

theorem exitsWith_exitCode (f : Failure) : ExitsWith f f.exitCode := by
  unfold exitCode
  cases hr : f.rejection? with
  | some found =>
    obtain ⟨before, after, hn, hb⟩ := rejection?_eq_some_iff.1 hr
    exact .rejected hn hb
  | none =>
    have hno := rejection?_eq_none_iff.1 hr
    by_cases hu : f.mentions isUnreadable = true
    · simp only [hu, if_true]
      exact .unreadable hno (mentions_isUnreadable_iff.1 hu)
    · simp only [hu, Bool.false_eq_true, if_false]
      exact .other hno (mt mentions_isUnreadable_iff.2 hu)

theorem ExitsWith.exitCode_eq {f : Failure} {code : Nat} (h : ExitsWith f code) :
    f.exitCode = code := by
  unfold exitCode
  cases h with
  | rejected hn hb => rw [rejection?_eq_some_iff.2 ⟨_, _, hn, hb⟩]
  | unreadable hr hu =>
    rw [rejection?_eq_none_iff.2 hr]
    exact if_pos (mentions_isUnreadable_iff.2 hu)
  | other hr hu =>
    rw [rejection?_eq_none_iff.2 hr]
    exact if_neg (mt mentions_isUnreadable_iff.1 hu)

theorem ExitsWith.ne_zero {f : Failure} {code : Nat} (h : ExitsWith f code) : code ≠ 0 := by
  cases h with
  | @rejected _ _ site => cases site.kind <;> simp [ErrorKind.exitCode]
  | unreadable | other => simp

/-- Wrapping once adds a node in front, and nothing looks for it. -/
theorem ExitsWith.wrap {f g : Failure} {code : Nat} (h : ExitsWith f code) (hc : g.causes = [f])
    (hr : ¬ g.IsRejection) : ExitsWith g code := by
  have hn : g.nodes = g :: f.nodes := by rw [nodes_eq, hc, List.flatMap_singleton]
  have hrej (hf : ∀ x ∈ f.nodes, ¬ x.IsRejection) : ∀ x ∈ g.nodes, ¬ x.IsRejection := by
    rw [hn]
    exact List.forall_mem_cons.2 ⟨hr, hf⟩
  have hunread : .unreadable ∈ g.nodes ↔ .unreadable ∈ f.nodes := by
    have hg : Failure.unreadable ≠ g := by
      rintro rfl
      cases hc
    rw [hn, List.mem_cons, or_iff_right hg]
  cases h with
  | @rejected before after site cause hf hb =>
    have he : g.nodes = g :: before ++ .rejected site cause :: after := by
      rw [hn, hf, List.cons_append]
    exact .rejected he (List.forall_mem_cons.2 ⟨hr, hb⟩)
  | unreadable hf hu => exact .unreadable (hrej hf) (hunread.2 hu)
  | other hf hu => exact .other (hrej hf) (mt hunread.1 hu)

/-- **Exit codes see through wrapping.** The exit code of a failure is that of the kind of the first
rejection among its nodes, or 11 if there is none and the input could not be read, or 99. No failure
has the exit code of success, and wrapping a failure in anything but a rejection changes nothing. -/
theorem exit_codes_see_through_wrapping :
    (∀ f code, exitCodeOf (some f) = code ↔ ExitsWith f code) ∧
    (∀ failure, exitCodeOf failure = 0 ↔ failure = none) ∧
    ∀ f g, Wraps f g → exitCodeOf (some g) = exitCodeOf (some f) := by
  refine ⟨fun f code => ?_, fun failure => ?_, fun f g h => ?_⟩
  · constructor
    · rintro rfl
      exact exitsWith_exitCode f
    · exact ExitsWith.exitCode_eq
  · cases failure with
    | none => exact iff_of_true rfl rfl
    | some f => exact iff_of_false (exitsWith_exitCode f).ne_zero (Option.some_ne_none f)
  · induction h with
    | refl => rfl
    | @wrap g h _ hc hr ih =>
      rw [← ih]
      exact ((exitsWith_exitCode g).wrap hc hr).exitCode_eq

/-- A failure to read beside a rejection, which stands behind it and still decides. -/
def unreadAndRejected : Failure :=
  .wrapped (utf8 "no program") [.unreadable, .rejected ⟨.opcode, 1, [], []⟩ (.plain [])]

theorem exit_code_of_unreadAndRejected :
    Wraps unreadAndRejected (.usage (.unrenderable ⟨1, 1, []⟩ unreadAndRejected)) ∧
      exitCodeOf (some (.usage (.unrenderable ⟨1, 1, []⟩ unreadAndRejected))) = 22 := by
  have hw : Wraps unreadAndRejected (.usage (.unrenderable ⟨1, 1, []⟩ unreadAndRejected)) :=
    .wrap (.wrap .refl rfl (by rintro ⟨_, _, ⟨⟩⟩)) rfl (by rintro ⟨_, _, ⟨⟩⟩)
  exact ⟨hw, exit_codes_see_through_wrapping.2.2 _ _ hw⟩

end AsmXml
