import JsonSchema.Format
import JsonSchema.Keyword.Combinators
import JsonSchema.Keyword.Conditions
import JsonSchema.Keyword.Elements
import JsonSchema.Keyword.Properties
import JsonSchema.Keyword.Scalar

/-!
# The keywords of a schema object

## What is here

* `Keywords` — everything a schema object without `$ref` says, over handles of a type `S` for its subschemas.
* `Keywords.parse` — the keywords that a schema object holds. Values of the wrong kind say nothing, or what the
  keyword's own module lays down.
* `Keywords.traverse` — the same keywords over other handles, made in the order of reading.
* `Keywords.check` — **holding an instance against all keywords**: the conditions for every kind, the combinators,
  the keywords for the kind at hand, and the enumeration.
-/

set_option autoImplicit false

namespace JsonSchema

/-- What a schema object says. -/
structure Keywords (S : Type) where
  conditions : Conditions S
  combinators : Combinators S
  properties : Option (PropertyRules S)
  elements : ElementRules S
  text : TextRules
  number : NumberRules
  format : Option String
  enumeration : Option Enumeration

namespace Keywords

/-- The name under `format`. -/
def formatOf (members : Members) : Option String :=
  match Json.find? members "format" with
  | some (.string name) => some name
  | _ => none

/-- The keywords of a schema object. -/
def parse (members : Members) : Keywords Subschema :=
  let conditions := Conditions.parse members
  { conditions
    combinators := Combinators.parse members
    properties := PropertyRules.parse? members
    elements := ElementRules.parse members
    text := TextRules.parse members
    number := NumberRules.parse members
    format := formatOf members
    enumeration := Enumeration.parse? members conditions.required.asks }

/-- Replaces the handles, in the order in which the keywords are read. -/
def traverse {S T : Type} {m : Type → Type} [Monad m] (f : S → m T) (k : Keywords S) : m (Keywords T) := do
  let conditions ← k.conditions.traverse f
  let combinators ← k.combinators.traverse f
  let properties ← Conditions.traverseOption (PropertyRules.traverse f) k.properties
  let elements ← k.elements.traverse f
  return { conditions, combinators, properties, elements, text := k.text, number := k.number,
           format := k.format, enumeration := k.enumeration }

variable {S : Type}

/-- Records a string or a number that is not of the format. -/
def checkFormat (formats : Formats) (k : Keywords S) (j : Json) (path : String) (s : ErrorSet) : ErrorSet :=
  match k.format.bind (formats.complaint? · j) with
  | some message => s.add path message
  | none => s

/-- Holds a string against its keywords and, where numeric strings count as numbers, against those for
numbers. -/
def checkText (mode : Mode) (formats : Formats) (k : Keywords S) (text path : String) (s : ErrorSet) :
    Run ErrorSet := do
  let s := k.text.checkLength text path s
  let s ← k.text.checkPattern text path s
  let s := k.checkFormat formats (.string text) path s
  match mode, readFinite? text with
  | .coerce, some x => return k.number.check x (String.ofList (Text.trim text.toList)) path s
  | _, _ => return s

/-- Holds a number against its keywords. -/
def checkNumber (formats : Formats) (k : Keywords S) (j : Json) (path : String) (s : ErrorSet) : ErrorSet :=
  let s := match j.number? with
    | some x => k.number.check x j.text path s
    | none => s
  k.checkFormat formats j path s

/-- Holds an instance against the keywords for its kind. -/
def checkKind (mode : Mode) (formats : Formats) (apply : Checker S) (k : Keywords S) (i : Instance)
    (path : String) (segment : Segment) (s : ErrorSet) : Run ErrorSet :=
  match i with
  | .present (.array elements) => k.elements.check apply elements path segment s
  | .present (.object members) =>
    match k.properties with
    | some rules => rules.check apply members path s
    | none => pure s
  | .present (.string text) => k.checkText mode formats text path s
  | .present (.integer n) => pure (k.checkNumber formats (.integer n) path s)
  | .present (.real x) => pure (k.checkNumber formats (.real x) path s)
  | _ => pure s

/-- Holds an instance against all keywords. -/
def check (mode : Mode) (formats : Formats) (apply : Checker S) (k : Keywords S) (i : Instance)
    (path : String) (segment : Segment) (s : ErrorSet) : Run ErrorSet := do
  let s ← k.conditions.check mode apply i path s
  let s ← k.combinators.check apply i path s
  let s ← k.checkKind mode formats apply i path segment s
  match k.enumeration with
  | some e => return e.check i path s
  | none => return s

end Keywords

end JsonSchema
