/-!
# Faults

A fault means that the schema itself cannot be applied; it ends a check. What is wrong with the instance is
a `Violation` instead.

## What is here

* `Fault` — the causes, and `Fault.message`, the report of each.
-/

set_option autoImplicit false

namespace JsonSchema

/-- Why a check cannot go on. -/
inductive Fault where
  /-- A value of this kind stood where a schema belongs. -/
  | notAnObject (path kind : String)
  /-- The keyword `type` asks for a name it does not know. -/
  | unknownType (path name : String)
  /-- The keyword `pattern` holds no regular expression. -/
  | invalidPattern (path pattern reason : String)
  /-- A reference leads nowhere. -/
  | unresolvable (uri reason : String)
  /-- A reference or an `id` is not a URI. -/
  | invalidUri (uri reason : String)
  /-- Schemas nest deeper than the limit. -/
  | depthExceeded (path : String) (limit : Nat)
  /-- An instance that should carry its schema does not. -/
  | missingSchema
  /-- A plan that others refer to has been given up. -/
  | incompletePlan (key : String)
deriving DecidableEq, Repr, Inhabited

/-- The report of a fault. -/
def Fault.message : Fault → String
  | .notAnObject path kind => "given schema must be an object in \"" ++ path ++ "\" but is a " ++ kind
  | .unknownType path name => name ++ " is an invalid type at \"" ++ path ++ "\""
  | .invalidPattern path pattern reason =>
    "invalid regex pattern \"" ++ pattern ++ "\" at \"" ++ path ++ "\": " ++ reason
  | .unresolvable uri reason => "cannot resolve reference \"" ++ uri ++ "\": " ++ reason
  | .invalidUri uri reason => "malformed reference URI \"" ++ uri ++ "\": " ++ reason
  | .depthExceeded path limit =>
    "maximum schema depth of " ++ String.ofList (Nat.toDigits 10 limit) ++ " exceeded at \"" ++ path ++ "\""
  | .missingSchema => "no schema found to verify against"
  | .incompletePlan key => "plan " ++ key ++ " was used before compilation finished"

end JsonSchema
