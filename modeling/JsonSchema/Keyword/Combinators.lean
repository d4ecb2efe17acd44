import JsonSchema.Keyword.Subschema

/-!
# Combinators

`allOf`, `anyOf` and `oneOf` hold an instance against several schemas. A branch is judged by whether it records
something.

## What is here

* `Combinators` — the three lists.
* `checkAllOf` — all branches in a row; what they record is kept, with a summary if there is anything.
* `checkAnyOf` — branches each from the same state up to the first that records nothing; the last one's records
  are kept if there is no such.
* `checkOneOf` — branches each on its own; unless exactly one records nothing, what all of them found is kept.
-/

set_option autoImplicit false

namespace JsonSchema

/-- The schemas that the combinators list. -/
structure Combinators (S : Type) where
  allOf : Option (List S)
  anyOf : Option (List S)
  oneOf : Option (List S)

namespace Combinators

/-- A list of schemas; a single schema stands for the list of itself. -/
def branches? : Option Json → Option (List Subschema)
  | none | some .null => none
  | some (.array schemas) => some (schemas.map .schema)
  | some j => some [.schema j]

/-- The combinators of a schema object. -/
def parse (members : Members) : Combinators Subschema where
  allOf := branches? (Json.find? members "allOf")
  anyOf := branches? (Json.find? members "anyOf")
  oneOf := branches? (Json.find? members "oneOf")

/-- Replaces the handles of a list. -/
def traverseBranches {S T : Type} {m : Type → Type} [Monad m] (f : S → m T) :
    Option (List S) → m (Option (List T))
  | none => pure none
  | some branches => return some (← branches.mapM f)

/-- Replaces the handles. -/
def traverse {S T : Type} {m : Type → Type} [Monad m] (f : S → m T) (c : Combinators S) :
    m (Combinators T) := do
  let allOf ← traverseBranches f c.allOf
  let anyOf ← traverseBranches f c.anyOf
  let oneOf ← traverseBranches f c.oneOf
  return { allOf, anyOf, oneOf }

variable {S : Type}

/-- Runs the branches in a row and tells whether each recorded nothing. -/
def runAll (apply : Checker S) (i : Instance) (path : String) :
    List S → ErrorSet → Run (Bool × ErrorSet)
  | [], s => pure (true, s)
  | x :: xs, s => do
    let t ← apply x i path .here s
    let (clean, u) ← runAll apply i path xs t
    return (t.size == s.size && clean, u)

/-- Holds an instance against all branches in a row. -/
def checkAllOf (apply : Checker S) (branches : List S) (i : Instance) (path : String) (s : ErrorSet) :
    Run ErrorSet := do
  let (clean, t) ← runAll apply i path branches s
  return if clean then t else t.add path "failed to match all schemas"

/-- Runs branches each from the state `s` until one records nothing. The answer is what the last one leaves
if there is no such; `last` is what the one before has left. -/
def firstClean (apply : Checker S) (i : Instance) (path : String) (s : ErrorSet) :
    List S → ErrorSet → Run (Option ErrorSet)
  | [], last => pure (some last)
  | x :: xs, _ => do
    let t ← apply x i path .here s
    if t.size == s.size then return none
    firstClean apply i path s xs t

/-- Holds an instance against branches until one finds nothing wrong. -/
def checkAnyOf (apply : Checker S) (branches : List S) (i : Instance) (path : String) (s : ErrorSet) :
    Run ErrorSet := do
  match ← firstClean apply i path s branches s with
  | none => return s
  | some last => return last.add path "failed to match at least one schema"

/-- Runs branches each on its own, and gives the number of those that find nothing wrong and what all of them
find. -/
def runEach (apply : Checker S) (i : Instance) (path : String) :
    List S → Nat → ErrorSet → Run (Nat × ErrorSet)
  | [], clean, found => pure (clean, found)
  | x :: xs, clean, found => do
    let t ← apply x i path .here ∅
    runEach apply i path xs (if t.isEmpty then clean + 1 else clean) (found.extend t)

/-- Holds an instance against branches of which exactly one has to find nothing wrong. -/
def checkOneOf (apply : Checker S) (branches : List S) (i : Instance) (path : String) (s : ErrorSet) :
    Run ErrorSet := do
  let (clean, found) ← runEach apply i path branches 0 ∅
  return if clean == 1 then s else (s.extend found).add path "failed to match exactly one schema"

/-- Applies a rule to a list of branches that a schema may lack. -/
def checkOptional (rule : List S → ErrorSet → Run ErrorSet) (branches : Option (List S)) (s : ErrorSet) :
    Run ErrorSet :=
  match branches with
  | some branches => rule branches s
  | none => pure s

/-- Holds an instance against the combinators; an absent one satisfies them all. -/
def check (apply : Checker S) (c : Combinators S) (i : Instance) (path : String) (s : ErrorSet) :
    Run ErrorSet :=
  if i.isAbsent then pure s
  else do
    let s ← checkOptional (checkAllOf apply · i path) c.allOf s
    let s ← checkOptional (checkAnyOf apply · i path) c.anyOf s
    checkOptional (checkOneOf apply · i path) c.oneOf s

end Combinators

end JsonSchema
