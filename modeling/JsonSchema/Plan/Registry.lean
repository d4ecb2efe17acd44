import JsonSchema.Plan.Cache

/-!
# Handles on caches and plans

Caches and plans are held by handles, which have names here. A plan of a cache is kept as long as a handle on the
cache, a handle on a schema that was compiled into it, or a strong link from a plan that is kept itself.

## What is here

* `Registry` — the caches and the handles.
* `Registry.compile`, `Registry.checkPlan` — compiling and checking by name.
* `CompiledPlan.held` — the keys of the cache to which strong links lead from the plans that a handle keeps for itself.
* `Registry.isKept` — **whether a plan of a cache is still kept**. A weak link to one that is not leads nowhere.
-/

set_option autoImplicit false

namespace JsonSchema

/-! ## What a handle keeps -/

/-- The keys that are reached from pending ones, among those that have not been visited. -/
def reachedKeys (next : String → List String) (unvisited pending : List String) : List String :=
  match _found : pending.find? unvisited.contains with
  | none => []
  | some key => key :: reachedKeys next (unvisited.erase key) (next key ++ pending)
termination_by unvisited.length
decreasing_by
  have hk : key ∈ unvisited := List.contains_iff_mem.mp (List.find?_some _found)
  have := List.length_erase_of_mem hk
  have := List.length_pos_of_mem hk
  omega

/-- The keys to which a strong link leads from the plan with a key. -/
def CompiledPlan.strongKeys (p : CompiledPlan) (key : String) : List String :=
  ((p.node? key).map PlanNode.strongKeys).getD []

/-- The keys of the cache to which strong links lead from the plans that a handle keeps for itself. -/
def CompiledPlan.held (p : CompiledPlan) : List String :=
  let keys := p.own.map (·.1)
  (reachedKeys p.strongKeys (keys ++ p.cached.map (·.1)) keys).filter fun key => !keys.contains key

/-! ## Handles by name -/

/-- A handle on a compiled schema, and the number of the cache it was compiled with. -/
structure PlanHandle where
  cache : Nat
  plan : CompiledPlan

/-- Whether two handles run the same plan. Plans that a handle keeps for itself are the same as no other. -/
def PlanHandle.same (a b : PlanHandle) : Bool :=
  a.cache == b.cache && a.plan.isShared && b.plan.isShared && a.plan.root == b.plan.root

/-- All caches by number, and the handles on caches and plans by name. -/
structure Registry where
  caches : List PlanCache
  handles : List (String × Nat)
  plans : List (String × PlanHandle)

namespace Registry

/-- Nothing. -/
def empty : Registry := ⟨[], [], []⟩

instance : Inhabited Registry := ⟨empty⟩

/-- A list of names without one of them. -/
def without {α : Type} (entries : List (String × α)) (name : String) : List (String × α) :=
  entries.filter (·.1 != name)

/-- Gives a name to a handle on a cache. -/
def bindCache (r : Registry) (name : String) (cache : Nat) : Registry :=
  { r with handles := without r.handles name ++ [(name, cache)] }

/-- Makes an empty cache. -/
def newCache (r : Registry) (name : String) : Registry :=
  bindCache { r with caches := r.caches ++ [.empty] } name r.caches.length

/-- Makes another handle on a cache. -/
def cloneCache (r : Registry) (source name : String) : Option Registry :=
  (r.handles.lookup source).map (r.bindCache name)

/-- Gives up a handle on a cache. -/
def dropCache (r : Registry) (name : String) : Registry := { r with handles := without r.handles name }

/-- Gives up a handle on a plan. -/
def dropPlan (r : Registry) (name : String) : Registry := { r with plans := without r.plans name }

/-- The cache of a handle. -/
def cache? (r : Registry) (name : String) : Option PlanCache :=
  (r.handles.lookup name).bind fun number => r.caches[number]?

/-- Compiles a schema with a cache. The handle that had the name before is given up, whatever the outcome. -/
def compile (digest : String → String) (r : Registry) (cacheName name : String) (o : Options)
    (schema : Json) : Option (Run PlanHandle × Registry) :=
  let r := r.dropPlan name
  (r.handles.lookup cacheName).bind fun number =>
    (r.caches[number]?).map fun cache =>
      let (run, cache) := cache.compile digest o schema
      let r := { r with caches := r.caches.set number cache }
      match run.outcome with
      | .error f => (⟨.error f, run.requests⟩, r)
      | .ok plan =>
        let handle : PlanHandle := ⟨number, plan⟩
        (⟨.ok handle, run.requests⟩, { r with plans := r.plans ++ [(name, handle)] })

/-- Whether something holds a cache as a whole. -/
def holdsCache (r : Registry) (number : Nat) : Bool :=
  r.handles.any (·.2 == number) || r.plans.any fun (_, h) => h.cache == number && h.plan.isShared

/-- Whether a plan of a cache is still kept. -/
def isKept (r : Registry) (number : Nat) (key : String) : Bool :=
  r.holdsCache number || r.plans.any fun (_, h) => h.cache == number && h.plan.held.contains key

/-- Holds a value against a plan. -/
def checkPlan (r : Registry) (name : String) (value : Json) : Option (Except Fault ErrorSet) :=
  (r.plans.lookup name).map fun h => h.plan.checkWhile (r.isKept h.cache) value

/-- The names of the other handles that run the same plan. -/
def samePlans (r : Registry) (name : String) (handle : PlanHandle) : List String :=
  (r.plans.filter fun (other, h) => other != name && handle.same h).map (·.1)

end Registry

end JsonSchema
