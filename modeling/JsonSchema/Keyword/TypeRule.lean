import JsonSchema.Keyword.Subschema

/-!
# Types

`type` and `disallow` hold a name, a schema, or a list of alternatives, which may be lists again.

## What is here

* `TypeRule` — what such a keyword asks for, `TypeRule.parse`.
* `TypeRule.check` — **holding an instance against it**. The alternatives of a list are tried on their own; the
  first that finds nothing wrong settles the matter, and if none does, what the last one found is recorded.
-/

set_option autoImplicit false

namespace JsonSchema

/-- What `type` or `disallow` asks for. -/
inductive TypeRule (S : Type) where
  | any
  | named (name : TypeName)
  | schema (s : S)
  | union (candidates : List (TypeRule S))
  | unknown (name : String)

namespace TypeRule

mutual

/-- What the value of the keyword asks for. Values that mean "no" ask for nothing, and any other value that is
no name, list or schema is taken for an unknown name. -/
def parse : Json → TypeRule Subschema
  | .null => .any
  | .bool false => .any
  | .string name =>
    if name.isEmpty then .any
    else match TypeName.ofText? name with
      | some t => .named t
      | none => .unknown name
  | .array candidates => .union (parseAll candidates)
  | .object members => .schema (.schema (.object members))
  | .integer n => if n == 0 then .any else .unknown (Json.text (.integer n))
  | .real x => if x.isZero then .any else .unknown (Json.text (.real x))
  | .bool true => .unknown (Json.text (.bool true))

/-- What each alternative asks for. -/
def parseAll : List Json → List (TypeRule Subschema)
  | [] => []
  | j :: js => parse j :: parseAll js

end

mutual

/-- Replaces the handles. -/
def traverse {S T : Type} {m : Type → Type} [Monad m] (f : S → m T) : TypeRule S → m (TypeRule T)
  | .any => pure .any
  | .named name => pure (.named name)
  | .schema s => return .schema (← f s)
  | .union candidates => return .union (← traverseAll f candidates)
  | .unknown name => pure (.unknown name)

/-- Replaces the handles of all alternatives, in order. -/
def traverseAll {S T : Type} {m : Type → Type} [Monad m] (f : S → m T) :
    List (TypeRule S) → m (List (TypeRule T))
  | [] => pure []
  | r :: rs => do
    let t ← traverse f r
    let ts ← traverseAll f rs
    return t :: ts

end

/-- The message for a kind that is not asked for. -/
def mismatch (i : Instance) (name : TypeName) : String :=
  i.kind ++ " value found, but a " ++ name.text ++ " is required"

mutual

/-- Holds an instance against what is asked for. -/
def check {S : Type} (mode : Mode) (apply : Checker S) (i : Instance) (path : String) :
    TypeRule S → ErrorSet → Run ErrorSet
  | .any, s => pure s
  | .named name, s => pure (if name.accepts mode i then s else s.add path (mismatch i name))
  | .schema x, s => apply x i path .here s
  | .unknown name, _ => .fail (.unknownType path name)
  | .union candidates, s => do
    if candidates.isEmpty then return s
    match ← firstClean mode apply i path candidates ∅ with
    | none => return s
    | some last => return s.extend last

/-- Tries alternatives on their own until one finds nothing wrong. What the last one found is the answer if
there is no such; `last` is what the one before has found. -/
def firstClean {S : Type} (mode : Mode) (apply : Checker S) (i : Instance) (path : String) :
    List (TypeRule S) → ErrorSet → Run (Option ErrorSet)
  | [], last => pure (some last)
  | r :: rs, _ => do
    let found ← check mode apply i path r ∅
    if found.isEmpty then return none
    firstClean mode apply i path rs found

end

end TypeRule

end JsonSchema
