/-!
# Locations inside an instance

Reports name the place of a value by a path such as `items[2].name`.

## What is here

* `Segment` — one step of a path: to a property, to an element, or none.
* `extendPath` — a path with one more step.
-/

set_option autoImplicit false

namespace JsonSchema

/-- One step of a path. Keywords that apply a schema to the same value take the step `here`. -/
inductive Segment where
  | here
  | key (name : String)
  | index (position : Nat)
deriving DecidableEq, Repr

/-- The step on its own. -/
def Segment.text : Segment → String
  | .here => ""
  | .key name => name
  | .index position => String.ofList (Nat.toDigits 10 position)

/-- A path with one more step: positions in brackets, names behind a dot except at the start. An empty name
leaves the path as it is. -/
def extendPath (path : String) : Segment → String
  | .here => path
  | .index position => path ++ "[" ++ (Segment.index position).text ++ "]"
  | .key name => if name.isEmpty then path else if path.isEmpty then name else path ++ "." ++ name

end JsonSchema
