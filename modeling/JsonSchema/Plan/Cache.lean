import JsonSchema.Plan.Compile

/-!
# Caches of plans

## What is here

* `PlanCache` — the plans of all schemas that were compiled with it.
* `CompiledPlan` — a schema that has been compiled, `CompiledPlan.check`.
* `PlanCache.compile` — **compiling a schema with a cache**. If a document was missing, the new plans stay with
  the handle and the cache is left as it was, so the next attempt asks for the document again. If compiling
  fails, nothing is kept at all.
-/

set_option autoImplicit false

namespace JsonSchema

/-- The plans that have been compiled. -/
structure PlanCache where
  table : PlanTable

namespace PlanCache

/-- No plans. -/
def empty : PlanCache := ⟨[]⟩

instance : Inhabited PlanCache := ⟨empty⟩

/-- The number of plans. -/
def size (c : PlanCache) : Nat := c.table.length

end PlanCache

/-- A schema that has been compiled. -/
structure CompiledPlan where
  root : String
  /-- Plans that this handle keeps for itself, because a document was missing. -/
  own : PlanTable
  /-- The plans of the cache, if there were enough documents with the new ones. -/
  cached : PlanTable
  options : Options

namespace CompiledPlan

/-- Whether the cache has taken the plans of the schema. -/
def isShared (p : CompiledPlan) : Bool := p.own.isEmpty

/-- The node of a key. -/
def node? (p : CompiledPlan) (key : String) : Option PlanNode :=
  (p.own.lookup key).or (p.cached.lookup key)

/-- What a link leads to, where `alive` says which plans of the cache are still kept. Strong links keep their
target, and the handle keeps its own plans. -/
def follow? (p : CompiledPlan) (alive : String → Bool) : Link → Option PlanNode
  | .strong key => p.node? key
  | .weak key => if (p.own.lookup key).isSome || alive key then p.node? key else none

/-- Holds a value against the plan, where `alive` says which plans of the cache are still kept. -/
def checkWhile (p : CompiledPlan) (alive : String → Bool) (value : Json) : Except Fault ErrorSet :=
  (runPlan p.options (p.follow? alive) p.options.maxDepth (.strong p.root) (.present value) "" .here ∅).outcome

/-- Holds a value against the plan while the cache is there. -/
def check (p : CompiledPlan) (value : Json) : Except Fault ErrorSet :=
  p.checkWhile (fun _ => true) value

end CompiledPlan

namespace PlanCache

/-- The handle on a schema whose compilation has ended well, and the cache afterwards. -/
def install (c : PlanCache) (o : Options) (root : Link) (done : Compilation) : CompiledPlan × PlanCache :=
  if done.missed then
    ({ root := root.key, own := done.fresh, cached := c.table, options := o }, c)
  else
    let table := c.table ++ done.fresh
    ({ root := root.key, own := [], cached := table, options := o }, ⟨table⟩)

/-- Compiles a schema. -/
def compile (digest : String → String) (c : PlanCache) (o : Options) (schema : Json) :
    Run CompiledPlan × PlanCache :=
  let scope : Scope := { root := schema, base := o.baseUri }
  let (outcome, done) := (compileAt digest o c.table o.maxDepth scope (.schema schema)).run.run .start
  match outcome with
  | .error f => (⟨.error f, done.requests⟩, c)
  | .ok root =>
    let (plan, cache) := c.install o root done
    (⟨.ok plan, done.requests⟩, cache)

end PlanCache

end JsonSchema
