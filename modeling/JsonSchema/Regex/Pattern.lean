import JsonSchema.Regex.Reader

/-!
# Patterns

## What is here

* `Pattern` — a regular expression that has been read from a text.
* `Pattern.read?` — reading, or the report of what is wrong.
* `Pattern.isIn` — whether the pattern is found somewhere in a text.
-/

set_option autoImplicit false

namespace JsonSchema

/-- A regular expression that has been read. -/
structure Pattern where
  regex : Regex Leaf

namespace Pattern

/-- The pattern that a text spells, or what is wrong with it. -/
def read? (text : String) : Except String Pattern :=
  match Regex.read text with
  | .ok regex => .ok ⟨regex⟩
  | .error e => .error e.message

/-- Whether the pattern is found somewhere in a text. -/
def isIn (p : Pattern) (text : String) : Bool := p.regex.isIn text

end Pattern

end JsonSchema
