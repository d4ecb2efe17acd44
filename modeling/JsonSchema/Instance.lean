import JsonSchema.Json.Text
import JsonSchema.Number.Decimal

/-!
# Instances

What a schema is held against: a JSON value, or nothing where an object lacks a property. An absent value is
not the value `null`.

## What is here

* `Instance` — a value or its absence, and `Instance.kind`, the name of its kind in messages.
* `Json.sameAs` — the equality that `enum` asks for: members in any order, whole numbers never equal to
  floating-point ones.
* `Mode` — whether numeric strings also count as numbers.
* `TypeName` — the names that the keyword `type` knows, and `TypeName.accepts`.
-/

set_option autoImplicit false

namespace JsonSchema

/-- A value under validation, or its absence. -/
inductive Instance where
  | absent
  | present (value : Json)
deriving Repr, BEq, Inhabited

namespace Instance

/-- The name of the kind of an instance. -/
def kind : Instance → String
  | .absent => "undefined"
  | .present (.integer _) => "integer"
  | .present (.real _) => "number"
  | .present j => j.kind

/-- Whether there is no value. -/
def isAbsent : Instance → Bool
  | .absent => true
  | .present _ => false

/-- The instance a look-up found. -/
def ofOption : Option Json → Instance
  | none => .absent
  | some j => .present j

/-- The value of a property; what is not there, and a property of anything but an object, is absent. -/
def property (i : Instance) (key : String) : Instance :=
  match i with
  | .present (.object members) => ofOption (Json.find? members key)
  | _ => .absent

/-- Whether the instance is an object with the property. -/
def hasProperty (i : Instance) (key : String) : Bool :=
  match i with
  | .present (.object members) => Json.hasKey members key
  | _ => false

end Instance

/-! ## Equality of values -/

namespace Json

mutual

/-- Equality by kind and value. Arrays agree position by position, objects by key in any order. -/
def sameAs : Json → Json → Bool
  | .null, .null => true
  | .bool a, .bool b => a == b
  | .integer a, .integer b => a == b
  | .real x, .real y => x.numEq y
  | .string a, .string b => a == b
  | .array as, .array bs => sameElements as bs
  | .object as, .object bs => as.length == bs.length && sameMembers as bs
  | _, _ => false

/-- Equality of sequences, position by position. -/
def sameElements : List Json → List Json → Bool
  | [], [] => true
  | a :: as, b :: bs => sameAs a b && sameElements as bs
  | _, _ => false

/-- Whether every member has an equal one under the same key. -/
def sameMembers : List (String × Json) → Members → Bool
  | [], _ => true
  | (key, a) :: as, bs =>
    (match find? bs key with
      | some b => sameAs a b
      | none => false) && sameMembers as bs

end

end Json

/-- `enum` never finds an absent value. -/
def Instance.sameAs (i : Instance) (candidate : Json) : Bool :=
  match i with
  | .absent => false
  | .present j => j.sameAs candidate

/-! ## Kinds asked for by name -/

/-- How strictly the kind of an instance is taken. -/
inductive Mode where
  /-- Kinds are taken as decoded. -/
  | strict
  /-- A string that spells a finite number also counts as that number. -/
  | coerce
deriving DecidableEq, Repr, Inhabited

/-- A name that the keyword `type` knows. -/
inductive TypeName where
  | integer
  | number
  | boolean
  | object
  | array
  | string
  | null
  | any
deriving DecidableEq, Repr

namespace TypeName

/-- The name as schemas write it. -/
def text : TypeName → String
  | .integer => "integer"
  | .number => "number"
  | .boolean => "boolean"
  | .object => "object"
  | .array => "array"
  | .string => "string"
  | .null => "null"
  | .any => "any"

/-- All names. -/
def all : List TypeName :=
  [.integer, .number, .boolean, .object, .array, .string, .null, .any]

/-- The name that a text spells. -/
def ofText? (s : String) : Option TypeName :=
  all.find? (·.text == s)

/-- Whether an instance is of the named type. -/
def accepts (t : TypeName) (mode : Mode) (i : Instance) : Bool :=
  match t, i with
  | .any, _ => true
  | .integer, .present (.integer _) => true
  | .number, .present (.integer _) => true
  | .number, .present (.real _) => true
  | .integer, .present (.string s) =>
    mode == .coerce && ((readFinite? s).map Binary64.isWhole).getD false
  | .number, .present (.string s) => mode == .coerce && (readFinite? s).isSome
  | .boolean, .present (.bool _) => true
  | .object, .present (.object _) => true
  | .array, .present (.array _) => true
  | .string, .present (.string _) => true
  | .null, .present .null => true
  | _, _ => false

end TypeName

end JsonSchema
