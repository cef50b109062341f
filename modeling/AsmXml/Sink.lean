import AsmXml.Text.Utf8

/-! # Sinks

A sink is where output goes, and how it takes what is written to it.
-/

namespace AsmXml

/-- How a destination takes bytes. -/
inductive Sink where
  /-- Stores everything. -/
  | accepting
  /-- Stores nothing and reports this reason. -/
  | failing (reason : Bytes)
  /-- Stores the first half of every write, rounded down, and reports no error. -/
  | halving
  deriving DecidableEq, Repr

namespace Sink

/-- What one write stores, or the reason for which it fails. -/
def write : Sink → Bytes → Except Bytes Bytes
  | .accepting, bs => .ok bs
  | .failing reason, _ => .error reason
  | .halving, bs => .ok (bs.take (bs.length / 2))

/-- Writes pieces one after the other up to the first write that fails: all that is stored, and
the reason for the failure. -/
def writeAll (sink : Sink) : List Bytes → Bytes × Option Bytes
  | [] => ([], none)
  | piece :: rest =>
    match sink.write piece with
    | .error reason => ([], some reason)
    | .ok stored =>
      let (others, failure) := sink.writeAll rest
      (stored ++ others, failure)

end Sink

end AsmXml
