import JsonSchema.Number.Binary64

/-!
# JSON values

Documents, schemas and instances are JSON values. Objects keep the order of their members, because texts
and reports follow it, and whole numbers are kept apart from the floating-point ones.

## What is here

* `Json` — a value.
* `Json.find?` — the value of a key among the members of an object.
* `Json.kind` — the name of the kind of a value, with one name for both sorts of number.
* `Json.DistinctKeys` — no object inside the value repeats a key; what the reader produces has it.
-/

set_option autoImplicit false

namespace JsonSchema

/-- A JSON value. An `integer` was written without point and exponent and fits into 64 bits; any other
number is `real`. -/
inductive Json where
  | null
  | bool (value : Bool)
  | integer (value : Int)
  | real (value : Binary64)
  | string (value : String)
  | array (elements : List Json)
  | object (members : List (String × Json))
deriving Repr, BEq, Inhabited

/-- The members of an object, in order. -/
abbrev Members := List (String × Json)

namespace Json

/-- The value of a key. -/
def find? (members : Members) (key : String) : Option Json :=
  members.lookup key

/-- The value of a key that is present and not `null`. -/
def findSome? (members : Members) (key : String) : Option Json :=
  match find? members key with
  | some .null => none
  | found => found

/-- Whether a key is present. -/
def hasKey (members : Members) (key : String) : Bool :=
  members.any (·.1 == key)

/-- Gives a key its value: in place if the key is present, at the end if not. -/
def insert (members : Members) (key : String) (value : Json) : Members :=
  if hasKey members key then
    members.map fun m => if m.1 == key then (key, value) else m
  else members ++ [(key, value)]

/-- The name of the kind of a value, as messages about schemas give it. -/
def kind : Json → String
  | .null => "null"
  | .bool _ => "boolean"
  | .integer _ => "number"
  | .real _ => "number"
  | .string _ => "string"
  | .array _ => "array"
  | .object _ => "object"

/-- The number of a numeric value, rounded to a floating-point one. -/
def number? : Json → Option Binary64
  | .integer n => Binary64.ofInt? n
  | .real x => some x
  | _ => none

/-! ## Distinct keys -/

mutual

/-- No object inside the value repeats a key. -/
def DistinctKeys : Json → Prop
  | .array elements => DistinctKeys.elements elements
  | .object members => (members.map (·.1)).Nodup ∧ DistinctKeys.members members
  | _ => True

/-- `DistinctKeys` of every element. -/
def DistinctKeys.elements : List Json → Prop
  | [] => True
  | e :: es => DistinctKeys e ∧ DistinctKeys.elements es

/-- `DistinctKeys` of every member's value. -/
def DistinctKeys.members : List (String × Json) → Prop
  | [] => True
  | (_, v) :: ms => DistinctKeys v ∧ DistinctKeys.members ms

end

end Json

end JsonSchema
