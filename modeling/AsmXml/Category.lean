import AsmXml.Defect

/-! # Categories of operands

A category says what an operand is: a variable, a literal of one of four types, a label or the
name of a type. `symb` stands in signatures only, for any value; `invalid` is the category of a
token of no known form.
-/

namespace AsmXml

open Text

/-- What an operand is, or what a signature expects at a position. -/
inductive Category where
  /-- A token of no known form. -/
  | invalid
  /-- A variable in one of the three frames. -/
  | var
  | int
  | bool
  | string
  | nil
  /-- A label, or the target of a jump. -/
  | label
  /-- The name of a type. -/
  | type
  /-- Any value: a variable or a literal. -/
  | symb
  /-- A code that denotes no category. -/
  | unknown (code : Int)
  deriving DecidableEq, Repr

namespace Category

/-- The category with this code. -/
def ofCode (code : Int) : Category :=
  match code with
  | 0 => .invalid
  | 1 => .var
  | 2 => .int
  | 3 => .bool
  | 4 => .string
  | 5 => .nil
  | 6 => .label
  | 7 => .type
  | 8 => .symb
  | _ => .unknown code

/-- The name of a category in documents and messages. -/
def name : Category → Bytes
  | .invalid => utf8 "invalid"
  | .var => utf8 "var"
  | .int => utf8 "int"
  | .bool => utf8 "bool"
  | .string => utf8 "string"
  | .nil => utf8 "nil"
  | .label => utf8 "label"
  | .type => utf8 "type"
  | .symb => utf8 "symb"
  | .unknown code => unknownName code

/-- The mark in front of a literal, which is no part of its value. A variable has none, because
its frame is part of its name. -/
def mark : Category → Except Defect Bytes
  | .int => .ok (utf8 "int@")
  | .bool => .ok (utf8 "bool@")
  | .string => .ok (utf8 "string@")
  | .nil => .ok (utf8 "nil@")
  | .invalid | .var | .label | .type | .symb => .ok []
  | .unknown code => .error (.unhandledCategory code)

/-- An operand of this category can stand where any value is expected. -/
def isValue : Category → Except Defect Bool
  | .var | .int | .bool | .string | .nil => .ok true
  | .invalid | .label | .type | .symb => .ok false
  | .unknown code => .error (.unhandledCategory code)

/-- An operand of a well-formed program can have this category. -/
def isConcrete : Category → Except Defect Bool
  | .var | .int | .bool | .string | .nil | .label | .type => .ok true
  | .invalid | .symb => .ok false
  | .unknown code => .error (.unhandledCategory code)

/-- An operand of category `got` may stand where `expected` is expected. -/
def accepts (expected got : Category) : Except Defect Bool :=
  match expected with
  | .symb => got.isValue
  | .var | .int | .bool | .string | .nil | .label | .type => .ok (got == expected)
  | .invalid => .ok false
  | .unknown code => .error (.unhandledCategory code)

end Category

end AsmXml
