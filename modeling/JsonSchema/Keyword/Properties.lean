import JsonSchema.Keyword.Additional
import JsonSchema.Regex.Pattern

/-!
# Keywords for objects

## What is here

* `PropertyRule`, `PatternRule` — an entry of `properties`, and one of `patternProperties`.
* `PropertyRules` — the keywords for objects.
* `PropertyRules.covers` — whether a member is mentioned: declared, or matched by a pattern that can be read.
* `PropertyRules.check` — **patterns first, then declared properties, then the members in their order**.
-/

set_option autoImplicit false

namespace JsonSchema

/-- The property under which an instance carries its own schema. No schema forbids it. -/
def inlineSchemaKey : String := "$schema"

/-- An entry of `properties`. A `null` there is a schema but declares nothing. -/
structure PropertyRule (S : Type) where
  name : String
  schema : S
  declared : Bool
  requires : Option String

/-- An entry of `patternProperties`. -/
structure PatternRule (S : Type) where
  pattern : String
  schema : S

/-- What the keywords for objects say. -/
structure PropertyRules (S : Type) where
  patterns : List (PatternRule S)
  properties : List (PropertyRule S)
  additional : Additional S

namespace PropertyRule

/-- An entry of `properties`; `requires` is read where the entry is an object. -/
def parse (entry : String × Json) : PropertyRule Subschema where
  name := entry.1
  schema := .schema entry.2
  declared :=
    match entry.2 with
    | .null => false
    | _ => true
  requires :=
    match entry.2 with
    | .object members =>
      match Json.find? members "requires" with
      | some (.string name) => some name
      | _ => none
    | _ => none

/-- Replaces the handle. -/
def traverse {S T : Type} {m : Type → Type} [Monad m] (f : S → m T) (r : PropertyRule S) :
    m (PropertyRule T) :=
  return { name := r.name, schema := ← f r.schema, declared := r.declared, requires := r.requires }

end PropertyRule

/-- Replaces the handle. -/
def PatternRule.traverse {S T : Type} {m : Type → Type} [Monad m] (f : S → m T) (r : PatternRule S) :
    m (PatternRule T) :=
  return { pattern := r.pattern, schema := ← f r.schema }

/-- Whether a pattern can be read and is found in a key. -/
def PatternRule.appliesTo {S : Type} (p : PatternRule S) (key : String) : Bool :=
  match Pattern.read? p.pattern with
  | .ok regex => regex.isIn key
  | .error _ => false

namespace PropertyRules

/-- The members of a value that is an object. -/
def entries : Option Json → Members
  | some (.object members) => members
  | _ => []

/-- The keywords of a schema object. Without `properties` and `patternProperties` they say nothing, also not
about additional properties. -/
def parse? (members : Members) : Option (PropertyRules Subschema) :=
  let declared := Json.findSome? members "properties"
  let patterns := Json.findSome? members "patternProperties"
  if declared.isNone && patterns.isNone then none
  else some
    { patterns := (entries patterns).map fun (pattern, j) => { pattern, schema := .schema j }
      properties := (entries declared).map PropertyRule.parse
      additional := Additional.parse (Json.find? members "additionalProperties") }

/-- Replaces the handles. -/
def traverse {S T : Type} {m : Type → Type} [Monad m] (f : S → m T) (r : PropertyRules S) :
    m (PropertyRules T) := do
  let patterns ← r.patterns.mapM (PatternRule.traverse f)
  let properties ← r.properties.mapM (PropertyRule.traverse f)
  let additional ← r.additional.traverse f
  return { patterns, properties, additional }

variable {S : Type}

/-- The entry that declares a property. -/
def definition? (r : PropertyRules S) (key : String) : Option (PropertyRule S) :=
  r.properties.find? fun p => p.declared && p.name == key

/-- Whether a member is mentioned: declared, or matched by a pattern. -/
def covers (r : PropertyRules S) (key : String) : Bool :=
  (r.definition? key).isSome || r.patterns.any (·.appliesTo key)

/-- Holds the members whose key matches a pattern against its schema. A pattern that cannot be read is
recorded and matches nothing. -/
def checkPattern (apply : Checker S) (members : Members) (path : String) (s : ErrorSet)
    (p : PatternRule S) : Run ErrorSet :=
  match Pattern.read? p.pattern with
  | .error _ => pure (s.add path ("The pattern \"" ++ p.pattern ++ "\" is invalid"))
  | .ok regex =>
    members.foldlM (fun s (key, value) =>
      if regex.isIn key then apply p.schema (.present value) path (.key key) s else pure s) s

/-- Holds a property, which may be absent, against its entry. -/
def checkProperty (apply : Checker S) (members : Members) (path : String) (s : ErrorSet)
    (p : PropertyRule S) : Run ErrorSet :=
  apply p.schema (Instance.ofOption (Json.find? members p.name)) path (.key p.name) s

/-- Treats a member that is not mentioned as `additionalProperties` says. -/
def checkUncovered (apply : Checker S) (r : PropertyRules S) (path key : String) (value : Json)
    (s : ErrorSet) : Run ErrorSet :=
  match r.additional with
  | .deny =>
    pure (if key == inlineSchemaKey then s
      else s.add (extendPath path (.key key))
        ("The property " ++ key ++ " is not defined and the definition does not allow additional properties"))
  | .schema other => apply other (.present value) path (.key key) s
  | .allow | .unspecified => pure s

/-- Records a member that needs another one which is not there. -/
def checkRequires (r : PropertyRules S) (members : Members) (path key : String) (s : ErrorSet) : ErrorSet :=
  match (r.definition? key).bind (·.requires) with
  | some other =>
    if Json.hasKey members other then s
    else s.add path ("the presence of the property " ++ key ++ " requires that " ++ other ++ " also be present")
  | none => s

/-- Treats a member by itself: whether it is mentioned, and what it needs. -/
def checkMember (apply : Checker S) (r : PropertyRules S) (members : Members) (path : String)
    (s : ErrorSet) (member : String × Json) : Run ErrorSet := do
  let s ← if r.covers member.1 then pure s else r.checkUncovered apply path member.1 member.2 s
  return r.checkRequires members path member.1 s

/-- What a member is by itself comes first, and what it needs second. -/
theorem checkMember_eq (apply : Checker S) (r : PropertyRules S) (members : Members) (path : String)
    (s : ErrorSet) (member : String × Json) :
    r.checkMember apply members path s member =
      (if r.covers member.1 then pure s else r.checkUncovered apply path member.1 member.2 s) >>= fun s =>
        pure (r.checkRequires members path member.1 s) := by
  rw [checkMember]
  split <;> rfl

/-- Holds an object against all keywords. -/
def check (apply : Checker S) (r : PropertyRules S) (members : Members) (path : String) (s : ErrorSet) :
    Run ErrorSet := do
  let s ← r.patterns.foldlM (checkPattern apply members path) s
  let s ← r.properties.foldlM (checkProperty apply members path) s
  members.foldlM (r.checkMember apply members path) s

end PropertyRules

end JsonSchema
