import JsonSchema.Instance

/-!
# Formats

`format` names a shape of strings or numbers. A registry says what the names mean; a name it does not know
accepts everything.

## What is here

* `FormatRule` — the complaint about a value, if there is one.
* `Formats` — rules by name; `Formats.register` adds or replaces one.
* `Formats.complaint?` — what is wrong with a value under a name.
-/

set_option autoImplicit false

namespace JsonSchema

/-- The complaint about a value, if there is one. -/
abbrev FormatRule := Json → Option String

/-- Rules by name. -/
structure Formats where
  rules : List (String × FormatRule)

namespace Formats

/-- No rules: every format accepts everything. -/
def empty : Formats := ⟨[]⟩

instance : Inhabited Formats := ⟨empty⟩

/-- Adds a rule; it takes precedence over an earlier one of the same name. -/
def register (f : Formats) (name : String) (rule : FormatRule) : Formats := ⟨(name, rule) :: f.rules⟩

/-- Whether a name has a rule. -/
def contains (f : Formats) (name : String) : Bool := f.rules.any (·.1 == name)

/-- What is wrong with a value under a name. -/
def complaint? (f : Formats) (name : String) (j : Json) : Option String :=
  (f.rules.lookup name).bind fun rule => rule j

end Formats

end JsonSchema
