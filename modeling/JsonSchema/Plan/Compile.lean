import JsonSchema.Plan.Basic
import JsonSchema.Plan.Key

/-!
# Compiling schemas to plans

## What is here

* `Compilation` — what a compilation has done so far: finished nodes, keys in progress, and requested documents.
* `Compilation.link?` — the link to a key that is known: strong to a finished node, weak to one in progress.
* `compileAt` — **the link to the plan for a place where a schema belongs**, which is compiled unless its key is
  known. Faults of the schema stay in the plan; only nesting too deep ends a compilation.
-/

set_option autoImplicit false

namespace JsonSchema

/-- What a compilation has done so far. -/
structure Compilation where
  fresh : PlanTable
  inProgress : List String
  /-- Whether some document, or a place in it, was not there. -/
  missed : Bool
  requests : List String

namespace Compilation

/-- Nothing done. -/
def start : Compilation := ⟨[], [], false, []⟩

/-- The link to a key that is known. -/
def link? (stored : PlanTable) (c : Compilation) (key : String) : Option Link :=
  if ((stored.lookup key).or (c.fresh.lookup key)).isSome then some (.strong key)
  else if c.inProgress.contains key then some (.weak key)
  else none

/-- Begins with a key. -/
def begin (c : Compilation) (key : String) : Compilation :=
  { c with inProgress := key :: c.inProgress }

/-- Is done with a key. -/
def finish (c : Compilation) (key : String) (node : PlanNode) : Compilation :=
  { c with inProgress := c.inProgress.erase key, fresh := c.fresh ++ [(key, node)] }

/-- Notes what the resolution of a reference has brought about. -/
def note (c : Compilation) (uri : String) (run : Run Target) : Compilation :=
  { c with
    requests := c.requests ++ run.requests
    missed := c.missed ||
      match run.outcome with
      | .error (.unresolvable _ _) => !Scope.isLocal uri
      | _ => false }

end Compilation

/-- A step of a compilation. What has been done stays known if it fails. -/
abbrev Compiling := ExceptT Fault (StateM Compilation)

namespace Compiling

/-- The node for a reference: a link to its target, or the fault that is met. -/
def reference (o : Options) (next : Scope → Subschema → Compiling Link) (scope : Scope) (uri : String) :
    Compiling PlanNode := do
  let run := scope.resolve o.library uri
  modify (·.note uri run)
  match run.outcome with
  | .error f => return .fault f
  | .ok target => return .reference (← next target.scope (.schema target.node))

/-- The node for a schema. -/
def schema (o : Options) (next : Scope → Subschema → Compiling Link) (scope : Scope) :
    Json → Compiling PlanNode
  | .object members =>
    match scope.enter members with
    | .error f => pure (.fault f)
    | .ok scope =>
      match Json.find? members "$ref" with
      | some (.string uri) => reference o next scope uri
      | _ => return .keywords (← (Keywords.parse members).traverse (next scope))
  | .null | .bool true => pure .accept
  | j => pure (.notAnObject j.kind)

/-- The node for a place where a schema belongs. -/
def node (o : Options) (next : Scope → Subschema → Compiling Link) (scope : Scope) :
    Subschema → Compiling PlanNode
  | .schema j => schema o next scope j
  | .reference uri => reference o next scope uri

end Compiling

/-- The link to the plan for a place where a schema belongs. The first number is how many levels may still be
entered. -/
def compileAt (digest : String → String) (o : Options) (stored : PlanTable) (depth : Nat) (scope : Scope)
    (x : Subschema) : Compiling Link := do
  let key := planKey digest scope x
  match (← get).link? stored key with
  | some link => return link
  | none =>
    match depth with
    | 0 => throw (.depthExceeded ("plan " ++ key) o.maxDepth)
    | depth + 1 =>
      modify (·.begin key)
      let node ← Compiling.node o (compileAt digest o stored depth) scope x
      modify (·.finish key node)
      return .strong key
termination_by structural depth

end JsonSchema
