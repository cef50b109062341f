import AsmXml.CommandLine
import Mathlib.Data.List.Forall2
import Mathlib.Data.List.TakeWhile

/-! # The grammar of arguments

What an argument can be, stated on its bytes without the scanner: positional, the separator, a flag
(`Flag`), or wrong in one of five ways (`Wrong`). Every argument is one of these (`argument_cases`),
and each has one step of the scanner (`scan_of_flag`, `scan_of_positional`, `scan_of_wrong`). A whole
scan follows by induction: it gives the last value that the flags set and the positional arguments
(`scan_of_reads`), or the complaint about the first wrong argument (`scan_of_firstWrong`).
-/

namespace AsmXml.CommandLine

open Text

/-! ## Arguments -/

/-- The word is a spelling of the truth value. -/
inductive Means : Bytes → Bool → Prop
  | yes {word : Bytes} (h : word ∈ trueWords) : Means word true
  | no {word : Bytes} (h : word ∈ falseWords) : Means word false

/-- The letter for help, `n` times. -/
def helpLetters (n : Nat) : Bytes :=
  List.replicate n helpLetter

/-- The argument sets the flag for help to the value. -/
inductive HelpArgument : Bytes → Bool → Prop
  | long : HelpArgument (utf8 "--help") true
  | longValue {word : Bytes} {value : Bool} (h : Means word value) :
      HelpArgument (utf8 "--help=" ++ word) value
  | letters (n : Nat) : HelpArgument (utf8 "-" ++ helpLetters (n + 1)) true
  | lettersValue (n : Nat) {word : Bytes} {value : Bool} (h : Means word value) :
      HelpArgument (utf8 "-" ++ (helpLetters (n + 1) ++ (utf8 "=" ++ word))) value

/-- The argument is a flag, and this is the value that it sets, if any. Behind letters for help, or
alone, may stand an option of a test runner, which sets nothing itself. -/
inductive Flag : Bytes → Option Bool → Prop
  | help {argument : Bytes} {value : Bool} (h : HelpArgument argument value) :
      Flag argument (some value)
  | runner (n : Nat) (rest : Bytes) :
      Flag (utf8 "-" ++ (helpLetters n ++ (runnerMark ++ rest)))
        (if n = 0 then none else some true)

/-- The argument is no flag: it is a single hyphen or begins with none. -/
def Positional (argument : Bytes) : Prop :=
  argument = utf8 "-" ∨ ¬ utf8 "-" <+: argument

/-- The argument is wrong, and this is the complaint about it. -/
inductive Wrong : Bytes → Misuse → Prop
  | badFlag {first : UInt8} {rest : Bytes} (h : first = hyphen ∨ first = equalsSign) :
      Wrong (utf8 "--" ++ first :: rest) (.badFlag (utf8 "--" ++ first :: rest))
  | unknownFlag {name rest : Bytes} (hne : name ≠ []) (hh : name.head? ≠ some hyphen)
      (he : equalsSign ∉ name) (hn : name ≠ utf8 "help")
      (hr : rest = [] ∨ ∃ value, rest = equalsSign :: value) :
      Wrong (utf8 "--" ++ (name ++ rest)) (.unknownFlag name)
  | longValue {word : Bytes} (h : ∀ value, ¬ Means word value) :
      Wrong (utf8 "--help=" ++ word) (.badValue word)
  | lettersValue (n : Nat) {word : Bytes} (hne : word ≠ []) (h : ∀ value, ¬ Means word value) :
      Wrong (utf8 "-" ++ (helpLetters (n + 1) ++ (utf8 "=" ++ word))) (.badValue word)
  | unknownLetter (n : Nat) {letter : UInt8} {rest : Bytes} (hl : letter ≠ helpLetter)
      (hh : n = 0 → letter ≠ hyphen) (hr : ¬ runnerMark <+: letter :: rest)
      (hv : 0 < n → letter = equalsSign → rest = []) :
      Wrong (utf8 "-" ++ (helpLetters n ++ letter :: rest))
        (.unknownLetter letter (letter :: rest))

/-! ## Truth values -/

theorem truth?_eq_some_iff {word : Bytes} {value : Bool} :
    truth? word = some value ↔ Means word value := by
  have hd : ∀ w ∈ falseWords, w ∉ trueWords := by decide
  unfold truth?
  simp only [List.contains_iff_mem]
  constructor
  · intro h
    split at h
    · next ht =>
      cases h
      exact .yes ht
    · split at h
      · next hf =>
        cases h
        exact .no hf
      · cases h
  · rintro (ht | hf)
    · rw [if_pos ht]
    · rw [if_neg (hd word hf), if_pos hf]

theorem setHelp_of_means {word : Bytes} {value : Bool} (h : Means word value) :
    setHelp word = .ok value := by
  unfold setHelp
  rw [truth?_eq_some_iff.2 h]

theorem setHelp_of_not_means {word : Bytes} (h : ∀ value, ¬ Means word value) :
    setHelp word = .error (.badValue word) := by
  have hn : truth? word = none :=
    Option.eq_none_iff_forall_ne_some.2 fun value hv => h value (truth?_eq_some_iff.1 hv)
  unfold setHelp
  rw [hn]

theorem Means.ne_nil {word : Bytes} {value : Bool} (h : Means word value) : word ≠ [] := by
  have hn : [] ∉ trueWords ++ falseWords := by decide
  rintro rfl
  cases h with
  | yes h => exact hn (List.mem_append_left _ h)
  | no h => exact hn (List.mem_append_right _ h)

/-! ## Forms -/

theorem form_of_positional {argument : Bytes} (h : Positional argument) :
    form argument = .positional := by
  rcases argument with - | ⟨first, - | ⟨second, more⟩⟩
  · rfl
  · rfl
  · rcases h with h | h
    · cases h
    · have hne : first ≠ hyphen := by
        rintro rfl
        exact h (List.prefix_append [hyphen] (second :: more))
      simp [form, hne]

theorem form_long {body : Bytes} (h : body ≠ []) : form (utf8 "--" ++ body) = .long body := by
  cases body with
  | nil => exact absurd rfl h
  | cons b body => rfl

theorem form_letters {body : Bytes} (hne : body ≠ []) (hh : body.head? ≠ some hyphen) :
    form (utf8 "-" ++ body) = .letters body := by
  cases body with
  | nil => exact absurd rfl hne
  | cons letter rest =>
    have hl : letter ≠ hyphen := by simpa using hh
    have he : utf8 "-" ++ letter :: rest = hyphen :: letter :: rest := rfl
    rw [he]
    simp [form, hl]

/-! ## Flags by their name -/

theorem longFlag_value (word : Bytes) : longFlag (utf8 "help=" ++ word) = setHelp word := rfl

theorem longFlag_unknown {name rest : Bytes} (hne : name ≠ []) (hh : name.head? ≠ some hyphen)
    (he : equalsSign ∉ name) (hn : name ≠ utf8 "help")
    (hr : rest = [] ∨ ∃ value, rest = equalsSign :: value) :
    longFlag (name ++ rest) = .error (.unknownFlag name) := by
  have hall : ∀ b ∈ name, (b != equalsSign) = true := by
    intro b hb
    have hbe : b ≠ equalsSign := fun h => he (h ▸ hb)
    simpa using hbe
  have htake : (name ++ rest).takeWhile (· != equalsSign) = name := by
    rw [List.takeWhile_append_of_pos hall]
    rcases hr with rfl | ⟨value, rfl⟩ <;> simp
  obtain ⟨b, name, rfl⟩ := List.exists_cons_of_ne_nil hne
  have hb : b ≠ hyphen ∧ b ≠ equalsSign := ⟨by simpa using hh, by simpa using hall b⟩
  unfold longFlag
  rw [htake]
  simp [hb, hn]

theorem longFlag_bad {first : UInt8} {rest : Bytes} (h : first = hyphen ∨ first = equalsSign) :
    longFlag (first :: rest) = .error (.badFlag (utf8 "--" ++ first :: rest)) := by
  rcases h with rfl | rfl <;> rfl

/-! ## Flags by their letters -/

/-- A letter for help sets the flag, unless a value stands behind it. -/
theorem letterFlags_help (help : Bool) {rest : Bytes}
    (h : ∀ value, rest = equalsSign :: value → value = []) :
    letterFlags help (helpLetter :: rest) = letterFlags true rest := by
  have hp : runnerMark.isPrefixOf (helpLetter :: rest) = false := rfl
  cases rest with
  | nil => rfl
  | cons next value =>
    rw [letterFlags]
    have hv : ¬ (next = equalsSign ∧ value ≠ []) := by
      rintro ⟨rfl, hne⟩
      exact hne (h value rfl)
    simp only [hp, bne_self_eq_false, Bool.false_eq_true, if_false, Bool.and_eq_true, beq_iff_eq,
      Bool.not_eq_true', List.isEmpty_eq_false_iff, if_neg hv]

theorem letterFlags_helpLetters (help : Bool) (n : Nat) {tail : Bytes}
    (h : 0 < n → ∀ value, tail = equalsSign :: value → value = []) :
    letterFlags help (helpLetters n ++ tail) =
      letterFlags (if n = 0 then help else true) tail := by
  induction n generalizing help with
  | zero => rfl
  | succ n ih =>
    have hs : helpLetters (n + 1) ++ tail = helpLetter :: (helpLetters n ++ tail) := rfl
    rw [hs, letterFlags_help, ih true fun _ => h (Nat.succ_pos n)]
    · simp
    · intro value he
      cases n with
      | zero => exact h Nat.one_pos value he
      | succ n => cases he

theorem letterFlags_value (help : Bool) (n : Nat) {value : Bytes} (h : value ≠ []) :
    letterFlags help (helpLetters (n + 1) ++ (utf8 "=" ++ value)) = setHelp value := by
  induction n generalizing help with
  | zero =>
    have hs : helpLetters 1 ++ (utf8 "=" ++ value) = helpLetter :: equalsSign :: value := rfl
    have hp : runnerMark.isPrefixOf (helpLetter :: equalsSign :: value) = false := rfl
    rw [hs, letterFlags]
    simp [hp, h]
  | succ n ih =>
    have hs : helpLetters (n + 2) ++ (utf8 "=" ++ value) =
        helpLetter :: (helpLetters (n + 1) ++ (utf8 "=" ++ value)) := rfl
    rw [hs, letterFlags_help, ih true]
    intro rest he
    cases he

theorem letterFlags_runner (help : Bool) (rest : Bytes) :
    letterFlags help (runnerMark ++ rest) = .ok help := rfl

theorem letterFlags_unknown (help : Bool) {letter : UInt8} {rest : Bytes}
    (hl : letter ≠ helpLetter) (hr : ¬ runnerMark <+: letter :: rest) :
    letterFlags help (letter :: rest) = .error (.unknownLetter letter (letter :: rest)) := by
  have hp : runnerMark.isPrefixOf (letter :: rest) = false := by
    rw [← Bool.not_eq_true, List.isPrefixOf_iff_prefix]
    exact hr
  rw [letterFlags.eq_def]
  simp [hp, hl]

theorem head?_helpLetters (n : Nat) (tail : Bytes) :
    (helpLetters (n + 1) ++ tail).head? ≠ some hyphen := by
  have hs : (helpLetters (n + 1) ++ tail).head? = some helpLetter := rfl
  rw [hs]
  decide

theorem runnerMark_head (tail : Bytes) : (runnerMark ++ tail).head? ≠ some hyphen := by
  have hs : (runnerMark ++ tail).head? = some 0x74 := rfl
  rw [hs]
  decide

/-! ## Every argument is of one kind -/

theorem exists_helpLetters (body : Bytes) :
    ∃ n tail, body = helpLetters n ++ tail ∧ tail.head? ≠ some helpLetter := by
  induction body with
  | nil => exact ⟨0, [], rfl, by simp⟩
  | cons b body ih =>
    by_cases hb : b = helpLetter
    · obtain ⟨n, tail, rfl, ht⟩ := ih
      exact ⟨n + 1, tail, by rw [hb]; rfl, ht⟩
    · exact ⟨0, b :: body, rfl, by simpa using hb⟩

/-- What stands behind one hyphen is a flag or wrong. The letters of the help are read off first,
and what comes behind them decides. -/
theorem letters_cases {body : Bytes} (hne : body ≠ []) (hh : body.head? ≠ some hyphen) :
    (∃ value, Flag (utf8 "-" ++ body) value) ∨ ∃ misuse, Wrong (utf8 "-" ++ body) misuse := by
  obtain ⟨n, tail, rfl, ht⟩ := exists_helpLetters body
  cases tail with
  | nil =>
    cases n with
    | zero => exact absurd rfl hne
    | succ n =>
      rw [List.append_nil]
      exact Or.inl ⟨_, .help (.letters n)⟩
  | cons letter rest =>
    by_cases hr : runnerMark <+: letter :: rest
    · obtain ⟨more, hm⟩ := hr
      rw [← hm]
      exact Or.inl ⟨_, .runner n more⟩
    by_cases hv : 0 < n ∧ letter = equalsSign ∧ rest ≠ []
    · obtain ⟨hn, rfl, hrest⟩ := hv
      obtain ⟨n, rfl⟩ := Nat.exists_eq_add_one.2 hn
      by_cases hm : ∃ value, Means rest value
      · obtain ⟨value, hm⟩ := hm
        exact Or.inl ⟨_, .help (.lettersValue n hm)⟩
      · exact Or.inr ⟨_, .lettersValue n hrest fun value h => hm ⟨value, h⟩⟩
    · refine Or.inr ⟨_, .unknownLetter n (by simpa using ht) ?_ hr fun hn hl => ?_⟩
      · rintro rfl
        simpa [helpLetters] using hh
      · by_cases hrest : rest = []
        · exact hrest
        · exact absurd ⟨hn, hl, hrest⟩ hv

/-- What stands behind two hyphens is a flag or wrong. The name goes up to the first equals sign,
and a value can only be good or bad for the name of the help. -/
theorem long_cases {body : Bytes} (hne : body ≠ []) :
    (∃ value, Flag (utf8 "--" ++ body) value) ∨ ∃ misuse, Wrong (utf8 "--" ++ body) misuse := by
  obtain ⟨b, more, rfl⟩ := List.exists_cons_of_ne_nil hne
  by_cases hb : b = hyphen ∨ b = equalsSign
  · exact Or.inr ⟨_, .badFlag hb⟩
  rw [not_or] at hb
  -- the name goes up to the first equals sign
  have hsplit := List.takeWhile_append_dropWhile (p := (· != equalsSign)) (l := b :: more)
  generalize hname : (b :: more).takeWhile (· != equalsSign) = name at hsplit
  generalize hrest : (b :: more).dropWhile (· != equalsSign) = rest at hsplit
  rw [← hsplit]
  have hfirst : name = b :: more.takeWhile (· != equalsSign) := by
    rw [← hname, List.takeWhile_cons_of_pos (by simpa using hb.2)]
  have hnot : equalsSign ∉ name := by
    intro hm
    rw [← hname] at hm
    simpa using List.mem_takeWhile_imp hm
  have hr : rest = [] ∨ ∃ value, rest = equalsSign :: value := by
    cases rest with
    | nil => exact Or.inl rfl
    | cons r value =>
      have hd := List.head_dropWhile_not (· != equalsSign) (l := b :: more) (by simp [hrest])
      simp only [hrest, List.head_cons, bne_eq_false_iff_eq] at hd
      exact Or.inr ⟨value, by rw [hd]⟩
  by_cases hn : name = utf8 "help"
  · rw [hn]
    rcases hr with rfl | ⟨value, rfl⟩
    · exact Or.inl ⟨_, .help .long⟩
    · by_cases hm : ∃ v, Means value v
      · obtain ⟨v, hm⟩ := hm
        exact Or.inl ⟨_, .help (.longValue hm)⟩
      · exact Or.inr ⟨_, .longValue fun v h => hm ⟨v, h⟩⟩
  · refine Or.inr ⟨_, .unknownFlag ?_ ?_ hnot hn hr⟩
    · simp [hfirst]
    · simpa [hfirst] using hb.1

/-- Every argument is of one of the forms of the grammar. -/
theorem argument_cases (argument : Bytes) :
    Positional argument ∨ argument = utf8 "--" ∨ (∃ value, Flag argument value) ∨
      ∃ misuse, Wrong argument misuse := by
  by_cases hp : Positional argument
  · exact Or.inl hp
  obtain ⟨hne, hpre⟩ := not_or.1 hp
  obtain ⟨body, rfl⟩ := not_not.1 hpre
  refine Or.inr ?_
  cases body with
  | nil => exact absurd rfl hne
  | cons first more =>
    by_cases hf : first = hyphen
    · rw [hf]
      cases more with
      | nil => exact Or.inl rfl
      | cons b rest => exact Or.inr (long_cases (List.cons_ne_nil b rest))
    · exact Or.inr (letters_cases (List.cons_ne_nil first more) (by simpa using hf))

/-! ## Steps of the scanner -/

theorem scan_of_positional {argument : Bytes} (h : Positional argument) (help : Bool)
    (rest : List Bytes) :
    scan help (argument :: rest) = (scan help rest).map (Choices.behind argument) := by
  rw [scan, form_of_positional h]

theorem scan_separator (help : Bool) (rest : List Bytes) :
    scan help (utf8 "--" :: rest) = .ok ⟨help, rest⟩ := rfl

theorem scan_long {body : Bytes} (h : body ≠ []) (help : Bool) (rest : List Bytes) :
    scan help ((utf8 "--" ++ body) :: rest) = (longFlag body >>= fun help => scan help rest) := by
  rw [scan, form_long h]

theorem scan_letters {body : Bytes} (hne : body ≠ []) (hh : body.head? ≠ some hyphen)
    (help : Bool) (rest : List Bytes) :
    scan help ((utf8 "-" ++ body) :: rest) =
      (letterFlags help body >>= fun help => scan help rest) := by
  rw [scan, form_letters hne hh]

/-- A flag sets its value, or leaves the value before it. -/
theorem scan_of_flag {argument : Bytes} {value : Option Bool} (h : Flag argument value)
    (help : Bool) (rest : List Bytes) :
    scan help (argument :: rest) = scan (value.getD help) rest := by
  cases h with
  | help h =>
    cases h with
    | long => rfl
    | @longValue word value h =>
      have hs : utf8 "--help=" ++ word = utf8 "--" ++ (utf8 "help=" ++ word) := rfl
      rw [hs, scan_long (by simp [utf8]), longFlag_value, setHelp_of_means h]
      rfl
    | letters n =>
      have hl := @letterFlags_helpLetters help (n + 1) [] (by simp)
      have hh := head?_helpLetters n []
      rw [List.append_nil] at hl hh
      rw [scan_letters (by simp [helpLetters]) hh, hl]
      rfl
    | lettersValue n h =>
      rw [scan_letters (by simp [helpLetters]) (head?_helpLetters n _),
        letterFlags_value help n h.ne_nil, setHelp_of_means h]
      rfl
  | runner n tail =>
    have hh : (helpLetters n ++ (runnerMark ++ tail)).head? ≠ some hyphen := by
      cases n with
      | zero => exact runnerMark_head tail
      | succ n => exact head?_helpLetters n (runnerMark ++ tail)
    rw [scan_letters (by simp [runnerMark, utf8]) hh,
      letterFlags_helpLetters help n (by intro _ value he; cases he), letterFlags_runner]
    cases n <;> rfl

theorem scan_of_wrong {argument : Bytes} {misuse : Misuse} (h : Wrong argument misuse)
    (help : Bool) (rest : List Bytes) : scan help (argument :: rest) = .error misuse := by
  cases h with
  | badFlag h =>
    rw [scan_long (List.cons_ne_nil _ _), longFlag_bad h]
    rfl
  | unknownFlag hne hh he hn hr =>
    rw [scan_long (by simp [hne]), longFlag_unknown hne hh he hn hr]
    rfl
  | @longValue word h =>
    have hs : utf8 "--help=" ++ word = utf8 "--" ++ (utf8 "help=" ++ word) := rfl
    rw [hs, scan_long (by simp [utf8]), longFlag_value, setHelp_of_not_means h]
    rfl
  | lettersValue n hne h =>
    rw [scan_letters (by simp [helpLetters]) (head?_helpLetters n _),
      letterFlags_value help n hne, setHelp_of_not_means h]
    rfl
  | @unknownLetter n letter tail hl hh hr hv =>
    have hhead : (helpLetters n ++ letter :: tail).head? ≠ some hyphen := by
      cases n with
      | zero => simpa [helpLetters] using hh rfl
      | succ n => exact head?_helpLetters n (letter :: tail)
    rw [scan_letters (by simp) hhead, letterFlags_helpLetters help n, letterFlags_unknown _ hl hr]
    · rfl
    · rintro hpos value he
      obtain ⟨rfl, rfl⟩ := List.cons.inj he
      exact hv hpos rfl

/-! ## Whole scans -/

/-- The arguments are read without a complaint: the flags set these values in order, and these
arguments are positional. Everything behind the separator is positional. -/
inductive Reads : List Bytes → List (Option Bool) → List Bytes → Prop
  | nil : Reads [] [] []
  | separator (rest : List Bytes) : Reads (utf8 "--" :: rest) [] rest
  | flag {argument : Bytes} {value : Option Bool} {rest : List Bytes}
      {values : List (Option Bool)} {positional : List Bytes} (h : Flag argument value)
      (hr : Reads rest values positional) :
      Reads (argument :: rest) (value :: values) positional
  | positional {argument : Bytes} {rest : List Bytes} {values : List (Option Bool)}
      {positional : List Bytes} (h : Positional argument) (hr : Reads rest values positional) :
      Reads (argument :: rest) values (argument :: positional)

/-- The last value that was set, if any was. -/
def lastSetting (values : List (Option Bool)) : Option Bool :=
  (values.filterMap id).getLast?

/-- The first argument that is no flag, not positional and not the separator is wrong in this
way. -/
inductive FirstWrong : List Bytes → Misuse → Prop
  | intro {before : List Bytes} {argument : Bytes} {misuse : Misuse}
      (hb : ∀ b ∈ before, Positional b ∨ ∃ value, Flag b value) (h : Wrong argument misuse)
      (after : List Bytes) : FirstWrong (before ++ argument :: after) misuse

theorem lastSetting_cons (value : Option Bool) (values : List (Option Bool)) (help : Bool) :
    (lastSetting (value :: values)).getD help = (lastSetting values).getD (value.getD help) := by
  unfold lastSetting
  cases value with
  | none => rfl
  | some b => simp [List.getLast?_cons]

theorem scan_of_reads {arguments positional : List Bytes} {values : List (Option Bool)}
    (h : Reads arguments values positional) (help : Bool) :
    scan help arguments = .ok ⟨(lastSetting values).getD help, positional⟩ := by
  induction h generalizing help with
  | nil => rfl
  | separator rest => exact scan_separator help rest
  | flag h _ ih => rw [scan_of_flag h, ih, lastSetting_cons]
  | positional h _ ih =>
    rw [scan_of_positional h, ih]
    rfl

theorem scan_of_firstWrong {arguments : List Bytes} {misuse : Misuse}
    (h : FirstWrong arguments misuse) (help : Bool) : scan help arguments = .error misuse := by
  obtain @⟨before, argument, _, hb, hw, after⟩ := h
  induction before generalizing help with
  | nil => exact scan_of_wrong hw help after
  | cons b before ih =>
    obtain ⟨hfirst, hrest⟩ := List.forall_mem_cons.1 hb
    rw [List.cons_append]
    rcases hfirst with hp | ⟨value, hf⟩
    · rw [scan_of_positional hp, ih help hrest]
      rfl
    · rw [scan_of_flag hf, ih _ hrest]

theorem FirstWrong.cons {argument : Bytes} {arguments : List Bytes} {misuse : Misuse}
    (h : FirstWrong arguments misuse) (ha : Positional argument ∨ ∃ value, Flag argument value) :
    FirstWrong (argument :: arguments) misuse := by
  obtain ⟨hb, hw, after⟩ := h
  exact .intro (List.forall_mem_cons.2 ⟨ha, hb⟩) hw after

/-- Arguments are read, or there is a first wrong one. -/
theorem reads_or_firstWrong (arguments : List Bytes) :
    (∃ values positional, Reads arguments values positional) ∨
      ∃ misuse, FirstWrong arguments misuse := by
  induction arguments with
  | nil => exact Or.inl ⟨[], [], .nil⟩
  | cons argument rest ih =>
    rcases argument_cases argument with hp | rfl | ⟨value, hf⟩ | ⟨misuse, hw⟩
    · rcases ih with ⟨values, positional, hr⟩ | ⟨misuse, hw⟩
      · exact Or.inl ⟨values, argument :: positional, .positional hp hr⟩
      · exact Or.inr ⟨misuse, hw.cons (Or.inl hp)⟩
    · exact Or.inl ⟨[], rest, .separator rest⟩
    · rcases ih with ⟨values, positional, hr⟩ | ⟨misuse, hw⟩
      · exact Or.inl ⟨value :: values, positional, .flag hf hr⟩
      · exact Or.inr ⟨misuse, hw.cons (Or.inr ⟨value, hf⟩)⟩
    · exact Or.inr ⟨misuse, .intro (List.forall_mem_nil _) hw rest⟩

/-- Without positional arguments there are only flags, and possibly a separator at the end. -/
theorem reads_nil_iff {arguments : List Bytes} {values : List (Option Bool)} :
    Reads arguments values [] ↔ ∃ flags, List.Forall₂ Flag flags values ∧
      (arguments = flags ∨ arguments = flags ++ [utf8 "--"]) := by
  constructor
  · intro h
    generalize hp : ([] : List Bytes) = positional at h
    induction h with
    | nil => exact ⟨[], .nil, Or.inl rfl⟩
    | separator rest =>
      subst hp
      exact ⟨[], .nil, Or.inr rfl⟩
    | @flag argument value _ _ _ hf _ ih =>
      obtain ⟨flags, hall, ha⟩ := ih hp
      refine ⟨argument :: flags, .cons hf hall, ?_⟩
      rcases ha with rfl | rfl
      · exact Or.inl rfl
      · exact Or.inr rfl
    | positional => cases hp
  · rintro ⟨flags, hall, ha⟩
    induction hall generalizing arguments with
    | nil =>
      rcases ha with rfl | rfl
      · exact .nil
      · exact .separator []
    | cons hf _ ih =>
      rcases ha with rfl | rfl
      · exact .flag hf (ih (Or.inl rfl))
      · exact .flag hf (ih (Or.inr rfl))

end AsmXml.CommandLine
