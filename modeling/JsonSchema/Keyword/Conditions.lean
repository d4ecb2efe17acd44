import JsonSchema.Keyword.TypeRule

/-!
# Keywords for every kind of instance

## What is here

* `Required` — the two readings of `required`: a flag of the property itself, or the names of properties.
* `Dependency` — what the presence of a property asks for.
* `Conditions` — the keywords that hold for instances of every kind, apart from the combinators.
* `Conditions.check` — **extended schemas, presence, type, the two negations, numbers of properties and
  dependencies**, in this order. A negation forgets what its schema recorded.
-/

set_option autoImplicit false

namespace JsonSchema

/-- What `required` asks for. -/
inductive Required where
  | unspecified
  | flag (present : Bool)
  | names (names : List String)
deriving DecidableEq

namespace Required

/-- The reading of the keyword: a list names properties, anything else is a flag. -/
def parse : Option Json → Required
  | none | some .null => .unspecified
  | some (.array values) => .names (stringsOf values)
  | some (.bool b) => .flag b
  | some _ => .flag true

/-- Whether the keyword asks for anything. -/
def asks : Required → Bool
  | .unspecified => false
  | .flag b => b
  | .names wanted => !wanted.isEmpty

/-- Records the named properties that an object lacks, or that the instance itself is absent. -/
def check (r : Required) (i : Instance) (path : String) (s : ErrorSet) : ErrorSet :=
  match r, i with
  | .names wanted, .present (.object members) =>
    wanted.foldl (fun s name =>
      if Json.hasKey members name then s else s.add path ("the property " ++ name ++ " is required")) s
  | .flag true, .absent => s.add path "is missing and it is required"
  | _, _ => s

end Required

/-- What the presence of a property asks for. -/
inductive Dependency (S : Type) where
  | properties (names : List String)
  | schema (s : S)
  | ignored

namespace Dependency

/-- The reading of an entry of `dependencies`. -/
def parse : Json → Dependency Subschema
  | .string name => .properties [name]
  | .array values => .properties (stringsOf values)
  | .object members => .schema (.schema (.object members))
  | _ => .ignored

/-- Replaces the handle. -/
def traverse {S T : Type} {m : Type → Type} [Monad m] (f : S → m T) : Dependency S → m (Dependency T)
  | .properties wanted => pure (.properties wanted)
  | .schema s => return .schema (← f s)
  | .ignored => pure .ignored

/-- Holds an object that has the property `key` against what this asks for. -/
def check {S : Type} (apply : Checker S) (members : Members) (path key : String) (d : Dependency S)
    (s : ErrorSet) : Run ErrorSet :=
  match d with
  | .properties wanted =>
    pure (wanted.foldl (fun s name =>
      if Json.hasKey members name then s
      else s.add path (key ++ " depends on " ++ name ++ " and " ++ name ++ " is missing")) s)
  | .schema x => apply x (.present (.object members)) path .here s
  | .ignored => pure s

end Dependency

/-- The keywords that hold for every kind of instance, apart from the combinators. -/
structure Conditions (S : Type) where
  extended : List S
  required : Required
  type : Option (TypeRule S)
  disallow : Option (TypeRule S)
  not : Option S
  minProperties : Option Limit
  maxProperties : Option Limit
  dependencies : List (String × Dependency S)

namespace Conditions

/-- A schema or a string that refers to one. -/
def extension : Json → Subschema
  | .string uri => .reference uri
  | j => .schema j

/-- The schemas that `extends` names. -/
def extensions : Option Json → List Subschema
  | none | some .null => []
  | some (.array entries) => entries.map extension
  | some j => [extension j]

/-- The entries of `dependencies`. -/
def dependenciesOf : Option Json → List (String × Dependency Subschema)
  | some (.object entries) => entries.map fun (key, j) => (key, Dependency.parse j)
  | _ => []

/-- The keywords of a schema object. A `null` under `type` is an answer of its own; under the other keywords
it is none. -/
def parse (members : Members) : Conditions Subschema where
  extended := extensions (Json.find? members "extends")
  required := Required.parse (Json.find? members "required")
  type := (Json.find? members "type").map TypeRule.parse
  disallow := (Json.findSome? members "disallow").map TypeRule.parse
  not := (Json.findSome? members "not").map .schema
  minProperties := Limit.read? (Json.find? members "minProperties")
  maxProperties := Limit.read? (Json.find? members "maxProperties")
  dependencies := dependenciesOf (Json.find? members "dependencies")

/-- Replaces an optional handle. -/
def traverseOption {A B : Type} {m : Type → Type} [Monad m] (f : A → m B) : Option A → m (Option B)
  | none => pure none
  | some a => return some (← f a)

/-- Replaces the handles, in the order in which the keywords are read. -/
def traverse {S T : Type} {m : Type → Type} [Monad m] (f : S → m T) (c : Conditions S) :
    m (Conditions T) := do
  let extended ← c.extended.mapM f
  let type ← traverseOption (TypeRule.traverse f) c.type
  let disallow ← traverseOption (TypeRule.traverse f) c.disallow
  let not ← traverseOption f c.not
  let dependencies ← c.dependencies.mapM fun (key, d) => return (key, ← d.traverse f)
  return { extended, required := c.required, type, disallow, not,
           minProperties := c.minProperties, maxProperties := c.maxProperties, dependencies }

variable {S : Type}

/-- Records a message if an attempt recorded nothing, and gives up what it recorded otherwise. -/
def negate (path message : String) (s attempt : ErrorSet) : ErrorSet :=
  if attempt.size == s.size then s.add path message else s

/-- Holds an instance against `type`. An absent instance has no type. -/
def checkType (mode : Mode) (apply : Checker S) (c : Conditions S) (i : Instance) (path : String)
    (s : ErrorSet) : Run ErrorSet :=
  match c.type with
  | some rule => if i.isAbsent then pure s else rule.check mode apply i path s
  | none => pure s

/-- Holds an instance against `disallow`. -/
def checkDisallow (mode : Mode) (apply : Checker S) (c : Conditions S) (i : Instance) (path : String)
    (s : ErrorSet) : Run ErrorSet :=
  match c.disallow with
  | some rule => return negate path "disallowed value was matched" s (← rule.check mode apply i path s)
  | none => pure s

/-- Holds an instance against `not`. -/
def checkNot (apply : Checker S) (c : Conditions S) (i : Instance) (path : String) (s : ErrorSet) :
    Run ErrorSet :=
  match c.not with
  | some x => return negate path "matched a schema which it should not" s (← apply x i path .here s)
  | none => pure s

/-- Records an object that has too few or too many properties. -/
def checkSize (c : Conditions S) (members : Members) (path : String) (s : ErrorSet) : ErrorSet :=
  let count := members.length
  let s := match c.minProperties with
    | some min =>
      if min.above count then s.add path ("must contain a minimum of " ++ min.text ++ " properties") else s
    | none => s
  match c.maxProperties with
  | some max =>
    if max.below count then s.add path ("must contain no more than " ++ max.text ++ " properties") else s
  | none => s

/-- Holds an object against the dependencies of the properties it has. -/
def checkDependencies (apply : Checker S) (c : Conditions S) (members : Members) (path : String)
    (s : ErrorSet) : Run ErrorSet :=
  c.dependencies.foldlM (fun s (key, d) =>
    if Json.hasKey members key then d.check apply members path key s else pure s) s

/-- Holds an instance against all these keywords. -/
def check (mode : Mode) (apply : Checker S) (c : Conditions S) (i : Instance) (path : String)
    (s : ErrorSet) : Run ErrorSet := do
  let s ← c.extended.foldlM (fun s x => apply x i path .here s) s
  let s := c.required.check i path s
  let s ← c.checkType mode apply i path s
  let s ← c.checkDisallow mode apply i path s
  let s ← c.checkNot apply i path s
  match i with
  | .present (.object members) =>
    let s := c.checkSize members path s
    c.checkDependencies apply members path s
  | _ => return s

end Conditions

end JsonSchema
