import JsonSchema.Keyword.Subschema

/-!
# What is not mentioned

`additionalProperties` and `additionalItems` say what becomes of members and elements that no other keyword
speaks of.

## What is here

* `Additional` — the four things such a keyword can say.
* `Additional.traverse` — the same with other handles.
-/

set_option autoImplicit false

namespace JsonSchema

/-- What becomes of what is not mentioned. -/
inductive Additional (S : Type) where
  | unspecified
  | allow
  | deny
  | schema (s : S)

namespace Additional

/-- What the keyword says. -/
def parse : Option Json → Additional Subschema
  | none | some .null => .unspecified
  | some (.bool true) => .allow
  | some (.bool false) => .deny
  | some j => .schema (.schema j)

/-- Replaces the handle. -/
def traverse {S T : Type} {m : Type → Type} [Monad m] (f : S → m T) : Additional S → m (Additional T)
  | .unspecified => pure .unspecified
  | .allow => pure .allow
  | .deny => pure .deny
  | .schema s => return .schema (← f s)

end Additional

end JsonSchema
