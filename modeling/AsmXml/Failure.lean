import AsmXml.Reader
import AsmXml.Sink

/-! # Failures

The failure of a run is a tree: leaves are causes, and inner nodes say where a cause arose or in
what it resulted. The exit code of a run is a function of that tree alone.
-/

namespace AsmXml

open Text

/-- Where in a program an error was found, and of which kind it is. -/
structure Site where
  kind : ErrorKind
  /-- The order of the instruction; zero for an error of the header. -/
  order : Int
  line : Bytes
  /-- The token to blame; empty if there is no single one. -/
  token : Bytes
  deriving DecidableEq, Repr

/-- An operand of an instruction by its place. -/
structure Place where
  order : Int
  /-- The position among the operands; the first has position one. -/
  position : Int
  operand : Bytes
  deriving DecidableEq, Repr

/-- Why a run failed. -/
inductive Failure where
  /-- A cause known by its text only. -/
  | plain (message : Bytes)
  /-- A fault of the program. -/
  | fault (cause : Fault)
  /-- A category that no operand of a document can have. -/
  | noTypeName (category : Category)
  /-- The input could not be read. -/
  | unreadable
  /-- A write stored less than it was given. -/
  | shortWrite
  /-- The program was rejected. -/
  | rejected (site : Site) (cause : Failure)
  /-- An operand cannot be part of a document. -/
  | unrenderable (place : Place) (cause : Failure)
  /-- The command line was wrong. -/
  | usage (cause : Failure)
  /-- Something failed because of other failures. -/
  | wrapped (message : Bytes) (causes : List Failure)
  deriving Repr

/-- The failure that a rejection amounts to. -/
def Rejection.toFailure (r : Rejection) : Failure :=
  .rejected ⟨r.fault.kind, r.order, r.line, r.fault.token⟩ (.fault r.fault)

namespace Failure

/-- The text of a failure. -/
def message : Failure → Bytes
  | .plain message => message
  | .fault cause => cause.message
  | .noTypeName category => utf8 "no type attribute for category " ++ category.name
  | .unreadable => utf8 "cannot read input"
  | .shortWrite => utf8 "short write"
  | .rejected site cause =>
    if site.order = 0 then cause.message
    else utf8 "instruction " ++ decimal site.order ++ utf8 ": " ++ cause.message ++ utf8 " in " ++
      quote site.line
  | .unrenderable place cause =>
    utf8 "instruction " ++ decimal place.order ++ utf8 " arg" ++ decimal place.position ++
      utf8 " " ++ quote place.operand ++ utf8 ": " ++ cause.message
  | .usage cause => cause.message
  | .wrapped message _ => message

/-! ## Searching the tree -/

mutual

/-- The first node that `p` finds something in: a node comes before its causes, and causes come
from left to right. -/
def findSome? {α : Type} (p : Failure → Option α) : Failure → Option α
  | .rejected site cause => (p (.rejected site cause)).or (cause.findSome? p)
  | .unrenderable place cause => (p (.unrenderable place cause)).or (cause.findSome? p)
  | .usage cause => (p (.usage cause)).or (cause.findSome? p)
  | .wrapped message causes => (p (.wrapped message causes)).or (findSomeAmong? p causes)
  | .plain message => p (.plain message)
  | .fault cause => p (.fault cause)
  | .noTypeName category => p (.noTypeName category)
  | .unreadable => p .unreadable
  | .shortWrite => p .shortWrite

/-- The first find among several failures. -/
def findSomeAmong? {α : Type} (p : Failure → Option α) : List Failure → Option α
  | [] => none
  | f :: fs => (f.findSome? p).or (findSomeAmong? p fs)

end

/-- The site of a rejection and its cause, if the node is one. -/
def asRejection? : Failure → Option (Site × Failure)
  | .rejected site cause => some (site, cause)
  | _ => none

/-- The place of an operand, if the node says that it is unrenderable. -/
def asUnrenderable? : Failure → Option Place
  | .unrenderable place _ => some place
  | _ => none

/-- The node says that the input could not be read. -/
def isUnreadable : Failure → Bool
  | .unreadable => true
  | _ => false

/-- The first rejection in the tree. -/
def rejection? (f : Failure) : Option (Site × Failure) :=
  f.findSome? asRejection?

/-- Some node of the tree satisfies `p`. -/
def mentions (p : Failure → Bool) (f : Failure) : Bool :=
  (f.findSome? fun node => if p node then some () else none).isSome

/-! ## Exit codes -/

/-- The exit code of a run that failed: a rejection decides by its kind, wherever it stands;
without one, unreadable input has a code of its own. -/
def exitCode (f : Failure) : Nat :=
  match f.rejection? with
  | some (site, _) => site.kind.exitCode
  | none => if f.mentions isUnreadable then 11 else 99

end Failure

/-- The exit code of a run that failed with `failure`, if it did. -/
def exitCodeOf (failure : Option Failure) : Nat :=
  match failure with
  | none => 0
  | some f => f.exitCode

end AsmXml
