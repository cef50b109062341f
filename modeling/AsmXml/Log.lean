import AsmXml.Text.Utf8

/-! # Log records

What a run notes about itself, apart from its output and its reports.
-/

namespace AsmXml.Log

/-- The importance of a record, from the least to the greatest. -/
inductive Level where
  | debug
  | info
  | warn
  | error
  deriving DecidableEq, Repr

namespace Level

/-- The place of a level in the order of importance. -/
def rank : Level → Nat
  | .debug => 0
  | .info => 1
  | .warn => 2
  | .error => 3

/-- The name of a level. -/
def name : Level → String
  | .debug => "debug"
  | .info => "info"
  | .warn => "warn"
  | .error => "error"

/-- The level with this name. -/
def ofName? (name : String) : Option Level :=
  [Level.debug, .info, .warn, .error].find? (·.name == name)

end Level

/-- The value of a detail. -/
inductive Value where
  | number (n : Int)
  | text (bs : Bytes)
  deriving DecidableEq, Repr

/-- One record, with details under their names. -/
structure Record where
  level : Level
  message : String
  details : List (String × Value)
  deriving DecidableEq, Repr

/-- The tag that all records carry. -/
def tag : String := "PARSE"

/-- The least level that is shown. -/
def threshold (debug : Bool) : Level :=
  if debug then .debug else .warn

/-- The records that are shown, in order. -/
def visible (debug : Bool) (records : List Record) : List Record :=
  records.filter fun r => (threshold debug).rank ≤ r.level.rank

end AsmXml.Log
