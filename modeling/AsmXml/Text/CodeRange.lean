/-! # Runs of code points

Character classes are given as tables of runs; a character is in the class when some run of the
table contains its code point.
-/

namespace AsmXml.Text

/-- The code points from `first` to `last`, both included. -/
structure CodeRange where
  first : Nat
  last : Nat
  deriving DecidableEq, Repr

/-- The code point lies in the run. -/
def CodeRange.contains (r : CodeRange) (n : Nat) : Bool :=
  r.first ≤ n && n ≤ r.last

end AsmXml.Text
