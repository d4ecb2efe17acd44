import JsonSchema.Json.Text
import JsonSchema.Keyword.Subschema
import JsonSchema.Scope

/-!
# Keys of plans

Schemas with the same meaning share one plan. What a schema means is settled by its text, and by its scope if
there is a reference or an `id` somewhere in it.

## What is here

* `Json.dependsOnScope` — whether the scope matters.
* `keyText` — the text that settles the meaning of a place where a schema belongs.
* `planKey` — the key of its plan, a digest of that text. The digest is a parameter; all that matters is that it
  tells texts apart.
-/

set_option autoImplicit false

namespace JsonSchema

namespace Json

mutual

/-- Whether some object in a value has a key that makes or resolves references. -/
def dependsOnScope : Json → Bool
  | .object members =>
    hasKey members "$ref" || hasKey members "extends" || hasKey members "id" ||
      membersDependOnScope members
  | .array elements => elementsDependOnScope elements
  | _ => false

/-- `dependsOnScope` of some element. -/
def elementsDependOnScope : List Json → Bool
  | [] => false
  | e :: es => dependsOnScope e || elementsDependOnScope es

/-- `dependsOnScope` of some member's value. -/
def membersDependOnScope : List (String × Json) → Bool
  | [] => false
  | (_, v) :: ms => dependsOnScope v || membersDependOnScope ms

end

end Json

/-- The part of a key's text that tells scopes apart. -/
def scopeText (digest : String → String) (scope : Scope) : String :=
  "\x00base:" ++ (scope.base.map Url.text).getD "" ++ "\x00root:" ++ digest scope.root.text

/-- The text that settles the meaning of a place where a schema belongs. -/
def keyText (digest : String → String) (scope : Scope) : Subschema → String
  | .schema node => if node.dependsOnScope then node.text ++ scopeText digest scope else node.text
  | .reference uri => "extends\x00" ++ uri ++ scopeText digest scope

/-- The key of the plan for a place where a schema belongs. -/
def planKey (digest : String → String) (scope : Scope) (x : Subschema) : String :=
  digest (keyText digest scope x)

end JsonSchema
