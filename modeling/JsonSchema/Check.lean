import JsonSchema.Keywords
import JsonSchema.Options
import JsonSchema.Scope

/-!
# Checking an instance against a schema

The schema is applied as it is read: every node is parsed when it is reached, and references are resolved when
they are met.

## What is here

* `interpret` — **holding an instance against a schema node in its scope**. Schemas may refer to each other in
  circles, so the levels that are still allowed are counted down; the level below the last one is a fault.
* `check` — an instance against a schema, from the empty set.
* `checkInline` — an instance that carries its schema.
* `validate` — an instance that has to be clean.
* `Validator` — a set of violations that grows with every check.
-/

set_option autoImplicit false

namespace JsonSchema

/-- Holds an instance against a place of the schema text. The first number is how many levels may still be
entered. -/
def interpret (o : Options) : Nat → Scope → Subschema → Instance → String → Segment → ErrorSet → Run ErrorSet
  | 0, _, _, _, path, _, _ => .fail (.depthExceeded path o.maxDepth)
  | depth + 1, scope, .reference uri, i, path, segment, s => do
    let target ← scope.resolve o.library uri
    interpret o depth target.scope (.schema target.node) i path segment s
  | depth + 1, scope, .schema (.object members), i, path, segment, s => do
    let scope ← Run.ofExcept (scope.enter members)
    match Json.find? members "$ref" with
    | some (.string uri) =>
      let target ← scope.resolve o.library uri
      interpret o depth target.scope (.schema target.node) i path segment s
    | _ =>
      let apply : Checker Subschema := fun x i parent segment s =>
        interpret o depth scope x i (extendPath parent segment) segment s
      (Keywords.parse members).check o.mode o.formats apply i path segment s
  | _ + 1, _, .schema .null, _, _, _, s | _ + 1, _, .schema (.bool true), _, _, _, s => pure s
  | _ + 1, _, .schema j, _, path, _, _ => .fail (.notAnObject path j.kind)

/-- Holds an instance against a schema, and adds to what is recorded already. -/
def evaluate (o : Options) (schema : Json) (i : Instance) (s : ErrorSet) : Run ErrorSet :=
  interpret o o.maxDepth { root := schema, base := o.baseUri } (.schema schema) i "" .here s

/-- Holds a value against a schema. -/
def check (o : Options) (schema value : Json) : Run ErrorSet :=
  evaluate o schema (.present value) ∅

/-- Holds a value against the schema that it carries. -/
def checkInline (o : Options) (value : Json) : Run ErrorSet :=
  match (Instance.present value).property inlineSchemaKey with
  | .present schema => check o schema value
  | .absent => .fail .missingSchema

/-! ## Outcomes as failures -/

/-- Why a value is not acceptable. -/
inductive CheckError where
  | fault (f : Fault)
  | invalid (errors : ErrorSet)

namespace CheckError

/-- The report of the failure. -/
def message : CheckError → String
  | .fault f => f.message
  | .invalid errors =>
    "validation failed with " ++ String.ofList (Nat.toDigits 10 errors.size) ++ " error(s)"

/-- The exit code of a command that ends with this failure. -/
def exitCode : CheckError → Nat
  | .fault _ => 2
  | .invalid _ => 1

end CheckError

/-- Accepts a value without violations. -/
def validate (o : Options) (schema value : Json) : Except CheckError Unit :=
  match (check o schema value).outcome with
  | .error f => .error (.fault f)
  | .ok errors => if errors.isEmpty then .ok () else .error (.invalid errors)

/-! ## Validators -/

/-- A set of violations that grows with every check. -/
structure Validator where
  options : Options
  errors : ErrorSet

namespace Validator

/-- Nothing recorded. -/
def start (options : Options) : Validator := ⟨options, ∅⟩

/-- The same options, nothing recorded. -/
def reset (v : Validator) : Validator := { v with errors := ∅ }

/-- Holds a value against a schema and keeps the violations; a fault changes nothing. The answer is whether
nothing was added. -/
def check (v : Validator) (schema value : Json) : Run Bool × Validator :=
  let run := evaluate v.options schema (.present value) v.errors
  match run.outcome with
  | .ok errors => (⟨.ok (errors.size == v.errors.size), run.requests⟩, { v with errors })
  | .error f => (⟨.error f, run.requests⟩, v)

end Validator

end JsonSchema
