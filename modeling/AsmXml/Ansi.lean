import AsmXml.Text.Utf8

/-! # Colours of terminal text

Colour is a switch: switched off, every function here gives its text back unchanged. Switched on,
a text stands between the sequence of its style and the sequence that ends all styles.
-/

namespace AsmXml

open Text

/-- The styles that messages use. -/
inductive Style where
  | bold
  | red
  | yellow
  | gray
  | brightRed
  deriving DecidableEq, Repr

/-- The escape sequence with this number. -/
def escapeSequence (code : String) : Bytes :=
  utf8 "\x1b[" ++ utf8 code ++ utf8 "m"

/-- The sequence that begins a style. -/
def Style.sequence : Style → Bytes
  | .bold => escapeSequence "1"
  | .red => escapeSequence "31"
  | .yellow => escapeSequence "33"
  | .gray => escapeSequence "90"
  | .brightRed => escapeSequence "91"

/-- The sequence that ends all styles. -/
def resetSequence : Bytes := escapeSequence "0"

/-- A text behind a given sequence. -/
def colourWith (colour : Bool) (start text : Bytes) : Bytes :=
  if colour then start ++ text ++ resetSequence else text

/-- A text in a style. -/
def Style.paint (style : Style) (colour : Bool) (text : Bytes) : Bytes :=
  colourWith colour style.sequence text

/-- A line of a program as code. -/
def paintCode (colour : Bool) (text : Bytes) : Bytes :=
  Style.gray.paint colour text

/-! ## Highlighting -/

/-- What stands before and after the first occurrence of a token. -/
def cutAt? (token : Bytes) : Bytes → Option (Bytes × Bytes)
  | [] => if token.isEmpty then some ([], []) else none
  | b :: rest =>
    if token.isPrefixOf (b :: rest) then some ([], (b :: rest).drop token.length)
    else (cutAt? token rest).map fun (before, behind) => (b :: before, behind)

/-- Cutting at a token loses nothing but the token. -/
theorem append_of_cutAt? {token text before behind : Bytes}
    (h : cutAt? token text = some (before, behind)) : before ++ token ++ behind = text := by
  induction text generalizing before with
  | nil =>
    simp only [cutAt?] at h
    split at h
    · simp_all
    · cases h
  | cons b rest ih =>
    simp only [cutAt?] at h
    split at h
    · next starts =>
      obtain ⟨tail, same⟩ := List.isPrefixOf_iff_prefix.1 starts
      cases h
      rw [← same, List.drop_left, List.nil_append]
    · obtain ⟨⟨left, right⟩, cut, same⟩ := Option.map_eq_some_iff.1 h
      cases same
      rw [List.cons_append, List.cons_append, ih cut]

/-- What stands behind the first occurrence of a token is shorter than the text. -/
theorem length_lt_of_cutAt? {token text before behind : Bytes}
    (h : cutAt? token text = some (before, behind)) (nonempty : token ≠ []) :
    behind.length < text.length := by
  have total := congrArg List.length (append_of_cutAt? h)
  have := List.length_pos_iff.2 nonempty
  simp only [List.length_append] at total
  omega

/-- The segments of a text between the occurrences of a token that are leftmost and do not
overlap. An empty token divides nothing. -/
def segments (token text : Bytes) : List Bytes :=
  if token.isEmpty then [text]
  else match _cut : cutAt? token text with
    | none => [text]
    | some (before, behind) => before :: segments token behind
termination_by text.length
decreasing_by exact length_lt_of_cutAt? _cut (by simp_all)

theorem segments_ne_nil (token text : Bytes) : segments token text ≠ [] := by
  rw [segments]
  split
  · simp
  · split <;> simp

/-- The segments of a text with the token between them are the text. -/
theorem intercalate_segments (token text : Bytes) :
    token.intercalate (segments token text) = text := by
  fun_induction segments token text with
  | case1 => simp
  | case2 => simp
  | case3 text _ before behind cut ih =>
    rw [List.intercalate_cons_of_ne_nil (segments_ne_nil token behind), ih, append_of_cutAt? cut]

/-- Marks every occurrence of a token within a text. -/
def highlight (colour : Bool) (text token : Bytes) : Bytes :=
  if colour && !token.isEmpty then
    (Style.yellow.paint colour token).intercalate (segments token text)
  else text

end AsmXml
