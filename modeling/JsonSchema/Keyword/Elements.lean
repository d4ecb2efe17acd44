import JsonSchema.Keyword.Additional

/-!
# Keywords for arrays

## What is here

* `Items` — no schema for elements, one for all of them, or one for each position.
* `ElementRules` — the keywords for arrays.
* `hasDuplicates` — whether two elements have the same compact text.
* `ElementRules.checkElement` — **the second chance**: an element that fails the schema for all elements is held
  against `additionalItems` from the same state, and the attempt that records less is kept.
* `ElementRules.checkPositions` — elements against the schemas of their positions.
-/

set_option autoImplicit false

namespace JsonSchema

/-- The schemas for the elements of an array. -/
inductive Items (S : Type) where
  | unspecified
  | every (s : S)
  | positions (schemas : List S)

/-- What the keywords for arrays say. -/
structure ElementRules (S : Type) where
  minItems : Option Limit
  maxItems : Option Limit
  uniqueItems : Bool
  items : Items S
  additional : Additional S

/-- Whether an element of the list has the text of an earlier one, or one that is seen already. -/
def repeats (seen : List (List Char)) : List Json → Bool
  | [] => false
  | j :: js => seen.contains j.chars || repeats (j.chars :: seen) js

/-- Whether two elements have the same compact text. -/
def hasDuplicates (elements : List Json) : Bool := repeats [] elements

namespace Items

/-- The schemas that `items` holds. -/
def parse : Option Json → Items Subschema
  | some (.object members) => .every (.schema (.object members))
  | some (.array schemas) => .positions (schemas.map .schema)
  | _ => .unspecified

/-- Replaces the handles. -/
def traverse {S T : Type} {m : Type → Type} [Monad m] (f : S → m T) : Items S → m (Items T)
  | .unspecified => pure .unspecified
  | .every s => return .every (← f s)
  | .positions schemas => return .positions (← schemas.mapM f)

end Items

namespace ElementRules

/-- The keywords of a schema object. -/
def parse (members : Members) : ElementRules Subschema where
  minItems := Limit.read? (Json.find? members "minItems")
  maxItems := Limit.read? (Json.find? members "maxItems")
  uniqueItems :=
    match Json.find? members "uniqueItems" with
    | some (.bool b) => b
    | _ => false
  items := Items.parse (Json.find? members "items")
  additional := Additional.parse (Json.find? members "additionalItems")

/-- Replaces the handles. -/
def traverse {S T : Type} {m : Type → Type} [Monad m] (f : S → m T) (r : ElementRules S) :
    m (ElementRules T) := do
  let items ← r.items.traverse f
  let additional ← r.additional.traverse f
  return { minItems := r.minItems, maxItems := r.maxItems, uniqueItems := r.uniqueItems, items, additional }

variable {S : Type}

/-- Records an array that has too few or too many elements, or the same one twice. -/
def checkCount (r : ElementRules S) (elements : List Json) (path : String) (s : ErrorSet) : ErrorSet :=
  let count := elements.length
  let s := match r.minItems with
    | some min =>
      if min.above count then s.add path ("There must be a minimum of " ++ min.text ++ " in the array") else s
    | none => s
  let s := match r.maxItems with
    | some max =>
      if max.below count then s.add path ("There must be a maximum of " ++ max.text ++ " in the array") else s
    | none => s
  if r.uniqueItems && hasDuplicates elements then
    s.add path "There are no duplicates allowed in the array"
  else s

/-- Holds an element against the schema for all elements, and if that records something, against
`additionalItems` instead. Of two attempts that record equally much the first is kept. -/
def checkElement (apply : Checker S) (additional : Additional S) (schema : S) (path : String)
    (position : Nat) (element : Json) (s : ErrorSet) : Run ErrorSet := do
  let first ← apply schema (.present element) path (.index position) s
  if first.size == s.size then return first
  match additional with
  | .unspecified | .deny => return first
  | .allow => return s
  | .schema other =>
    let second ← apply other (.present element) path (.index position) s
    return if second.size < first.size then second else first

/-- Holds each element, from a position on, against the schema for all elements. -/
def checkEvery (apply : Checker S) (additional : Additional S) (schema : S) (path : String) :
    Nat → List Json → ErrorSet → Run ErrorSet
  | _, [], s => pure s
  | position, e :: es, s => do
    let s ← checkElement apply additional schema path position e s
    checkEvery apply additional schema path (position + 1) es s

/-- Holds an element for whose position there is no schema against `additionalItems`. -/
def checkSurplus (apply : Checker S) (additional : Additional S) (path : String) (segment : Segment)
    (position : Nat) (element : Json) (s : ErrorSet) : Run ErrorSet :=
  match additional with
  | .schema other => apply other (.present element) path (.index position) s
  | .deny =>
    pure (s.add path ("The item " ++ segment.text ++ "[" ++ (Segment.index position).text ++
      "] is not defined and the definition does not allow additional items"))
  | .allow | .unspecified => pure s

/-- Holds elements against the schemas of their positions. Positions without an element are absent
instances. -/
def checkPositions (apply : Checker S) (additional : Additional S) (path : String) (segment : Segment) :
    Nat → List S → List Json → ErrorSet → Run ErrorSet
  | _, [], [], s => pure s
  | position, x :: xs, e :: es, s => do
    let s ← apply x (.present e) path (.index position) s
    checkPositions apply additional path segment (position + 1) xs es s
  | position, [], e :: es, s => do
    let s ← checkSurplus apply additional path segment position e s
    checkPositions apply additional path segment (position + 1) [] es s
  | position, x :: xs, [], s => do
    let s ← apply x .absent path (.index position) s
    checkPositions apply additional path segment (position + 1) xs [] s

/-- Holds an array against all keywords. Of an empty array no position is missing. -/
def check (apply : Checker S) (r : ElementRules S) (elements : List Json) (path : String)
    (segment : Segment) (s : ErrorSet) : Run ErrorSet :=
  let s := r.checkCount elements path s
  match r.items with
  | .unspecified => pure s
  | .every schema => checkEvery apply r.additional schema path 0 elements s
  | .positions schemas =>
    if elements.isEmpty then pure s
    else checkPositions apply r.additional path segment 0 schemas elements s

end ElementRules

end JsonSchema
