import JsonSchema.ErrorSet
import JsonSchema.Instance
import JsonSchema.Location
import JsonSchema.Run

/-!
# Subschemas

Where a keyword holds a schema, its rule holds a handle of some type `S`: a node of the schema text when the
text itself is applied, or a link to a plan when the schema has been compiled. The rules are the same for both.

## What is here

* `Subschema` — a place of the schema text where a schema belongs.
* `Checker` — applies a handle to an instance, one step further down the path.
* `Limit` — a number in a schema, with the text that messages show.
-/

set_option autoImplicit false

namespace JsonSchema

/-- A place where a schema belongs: the schema itself, or a string that refers to one. -/
inductive Subschema where
  | schema (node : Json)
  | reference (uri : String)
deriving Repr, BEq, Inhabited

/-- Applies a schema: the handle, the instance, the path to where the keyword stands, the step from there to
the instance, and what is recorded so far. -/
abbrev Checker (S : Type) := S → Instance → String → Segment → ErrorSet → Run ErrorSet

/-- A number that a keyword sets as a limit, and its text. -/
structure Limit where
  value : Binary64
  text : String
deriving DecidableEq, Repr

namespace Limit

/-- The limit a keyword sets; anything but a number sets none. -/
def read? (value : Option Json) : Option Limit :=
  value.bind fun j => j.number?.map fun value => { value, text := j.text }

/-- Whether a count falls short of the limit. -/
def above (l : Limit) (count : Nat) : Bool := (Binary64.ofNat count).lt l.value

/-- Whether a count goes beyond the limit. -/
def below (l : Limit) (count : Nat) : Bool := l.value.lt (Binary64.ofNat count)

end Limit

/-- The strings of a list of values. -/
def stringsOf (values : List Json) : List String :=
  values.filterMap fun
    | .string s => some s
    | _ => none

end JsonSchema
