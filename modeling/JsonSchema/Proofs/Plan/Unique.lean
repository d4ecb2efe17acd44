import JsonSchema.Plan.Registry
import JsonSchema.Proofs.Plan.Lifetime
import JsonSchema.Proofs.Plan.Retrieval

/-!
# One plan per key

A cache makes a plan for a key once. It takes new plans at the end of its table and never looks back: what it holds
stays where it is, and a schema that it has taken is found in it by every later call.

## What is here

* `nodup_known_progress` — no key is known twice in the course of a compilation.
* `PlanTable.place` — where in a table the plan with a key stands. As tables grow at their end only, this is what makes
  it the very plan.
* `PlanCache.FetchesAll` — a call that meets no reference to what is not there; `PlanCache.fetchesAll_iff_isShared`,
  **these are the calls whose handles run plans of the cache**.
* `PlanCache.one_plan_per_key` — **a cache holds one plan per key, for ever**.
* `Registry.exists_calls_after` — **handles on a cache share its calls**, so what holds after calls holds by any handle.
-/

set_option autoImplicit false

namespace JsonSchema

open Compilation Compiling

variable {digest : String → String} {o : Options} {stored : PlanTable} {c d : Compilation}

/-! ## Keys in the course of a compilation -/

/-- A key in progress becomes that of a finished node. -/
theorem known_finish_perm {key : String} (n : PlanNode) (h : key ∈ d.inProgress) :
    List.Perm ((d.finish key n).known stored) (d.known stored) := by
  have hkeys : (d.finish key n).known stored =
      stored.map (·.1) ++ d.fresh.map (·.1) ++ (key :: d.inProgress.erase key) := by
    simp [known, finish]
  rw [hkeys]
  exact (List.perm_cons_erase h).symm.append_left _

/-- No key is known twice, and in the end the same keys are in progress as before. -/
theorem nodup_known_progress (o : Options) (stored : PlanTable) :
    Progress o stored fun c d => (c.known stored).Nodup → (d.known stored).Nodup ∧ d.inProgress = c.inProgress where
  refl := fun _ h => ⟨h, rfl⟩
  trans := by
    intro c d e hcd hde hc
    obtain ⟨hd, hcd⟩ := hcd hc
    obtain ⟨he, hde⟩ := hde hd
    exact ⟨he, hde.trans hcd⟩
  note := fun _ _ _ h => ⟨h, rfl⟩
  make := by
    intro c d key n hnew hleads _ hc
    have hperm : List.Perm ((c.begin key).known stored) (key :: c.known stored) := List.perm_middle
    have hbegin : ((c.begin key).known stored).Nodup :=
      hperm.nodup_iff.mpr (List.nodup_cons.mpr ⟨not_mem_known_of_unknown hnew, hc⟩)
    obtain ⟨hd, hprogress⟩ := hleads hbegin
    have hkey : key ∈ d.inProgress := by
      rw [hprogress]
      exact List.mem_cons_self
    refine ⟨(known_finish_perm n hkey).nodup_iff.mpr hd, ?_⟩
    show d.inProgress.erase key = c.inProgress
    rw [hprogress]
    exact List.erase_cons_head key c.inProgress

/-- A node is made for each place that has not been known. -/
theorem fresh_ne_nil_of_unknown {depth : Nat} {scope : Scope} {x : Subschema} {link : Link}
    (hnew : c.link? stored (planKey digest scope x) = none)
    (hrun : result (compileAt digest o stored depth scope x) c = (.ok link, d)) : d.fresh ≠ [] := by
  obtain ⟨_, n, e, -, -, rfl⟩ := result_node_of_unknown hnew hrun
  exact List.append_ne_nil_of_right_ne_nil _ (List.cons_ne_nil _ _)

/-! ## Places of plans -/

namespace PlanTable

/-- Where in a table the plan with a key stands. -/
def place (table : PlanTable) (key : String) : Nat := (table.map (·.1)).idxOf key

variable {table table' : PlanTable} {key : String}

theorem place_eq_of_prefix (h : table <+: table') (hkey : key ∈ table.map (·.1)) : place table' key = place table key := by
  obtain ⟨more, rfl⟩ := h
  rw [place, List.map_append, List.idxOf_append_of_mem hkey, place]

theorem place_inj {key' : String} (hkey : key ∈ table.map (·.1)) : place table key = place table key' ↔ key = key' :=
  List.idxOf_inj hkey

/-- Where no key stands twice, a plan stands at the place of its key only. -/
theorem place_eq_of_getElem? (h : (table.map (·.1)).Nodup) {i : Nat} {n : PlanNode} (hi : table[i]? = some (key, n)) :
    place table key = i := by
  have hkey : (table.map (·.1))[i]? = some key := by
    rw [List.getElem?_map, hi]
    rfl
  obtain ⟨hlt, rfl⟩ := List.getElem?_eq_some_iff.mp hkey
  exact h.idxOf_getElem i hlt

end PlanTable

namespace CompiledPlan

/-- Where in the table of the cache the plan of a handle stands. -/
def place (p : CompiledPlan) : Nat := PlanTable.place p.cached p.root

/-- A handle that runs a plan of a cache. -/
structure RunsFrom (p : CompiledPlan) (c : PlanCache) : Prop where
  shared : p.isShared = true
  cached : p.cached <+: c.table
  root : p.root ∈ p.cached.map (·.1)

variable {p q : CompiledPlan} {c : PlanCache}

theorem RunsFrom.place_eq (h : p.RunsFrom c) : p.place = PlanTable.place c.table p.root :=
  (PlanTable.place_eq_of_prefix h.cached h.root).symm

theorem RunsFrom.mem_keys (h : p.RunsFrom c) : p.root ∈ c.table.map (·.1) :=
  (h.cached.map _).subset h.root

/-- Handles run the same plan of a cache if they have the same root. -/
theorem RunsFrom.place_eq_iff (hp : p.RunsFrom c) (hq : q.RunsFrom c) : p.place = q.place ↔ p.root = q.root := by
  rw [hp.place_eq, hq.place_eq]
  exact PlanTable.place_inj hp.mem_keys

theorem RunsFrom.same_iff (hp : p.RunsFrom c) (hq : q.RunsFrom c) (number : Nat) :
    PlanHandle.same ⟨number, p⟩ ⟨number, q⟩ = true ↔ p.root = q.root := by
  simp [PlanHandle.same, hp.shared, hq.shared]

end CompiledPlan

/-! ## Caches -/

namespace PlanCache

variable {c d : PlanCache} {schema : Json} {root : Link} {done : Compilation} {p : CompiledPlan}

/-- Compiling a schema meets no reference that needs what is not there. -/
def FetchesAll (digest : String → String) (c : PlanCache) (o : Options) (schema : Json) : Prop :=
  ∀ scope uri, c.Meets digest o schema scope uri → ¬ scope.Lacks o.library uri

/-- A call gives a handle, and meets no reference that needs what is not there. -/
structure Compiles (digest : String → String) (c : PlanCache) (o : Options) (schema : Json) (p : CompiledPlan) :
    Prop where
  outcome : (c.compile digest o schema).1.outcome = .ok p
  fetches : c.FetchesAll digest o schema

theorem fetchesAll_iff (h : compilation digest c o schema = (.ok root, done)) :
    c.FetchesAll digest o schema ↔ done.missed = false := by
  rw [← Bool.not_eq_true, missed_iff_meets rfl h]
  simp only [FetchesAll, not_exists, not_and]
  rfl

/-- **The handles that run plans of the cache are those of calls that fetch everything.** -/
theorem fetchesAll_iff_isShared (h : (c.compile digest o schema).1.outcome = .ok p) :
    c.FetchesAll digest o schema ↔ p.isShared = true := by
  obtain ⟨root, done, hrun, rfl⟩ := exists_of_compile_ok h
  rw [fetchesAll_iff hrun, install]
  cases hmissed : done.missed with
  | false => exact iff_of_true rfl rfl
  | true =>
    refine iff_of_false (by simp) ?_
    rw [if_pos rfl, CompiledPlan.isShared, List.isEmpty_iff]
    -- a known schema is found at once, and then nothing has been missed
    cases hknown : Compilation.start.link? c.table (planKey digest { root := schema, base := o.baseUri } (.schema schema)) with
    | none => exact fresh_ne_nil_of_unknown hknown hrun
    | some link =>
      rw [compilation, result_compileAt_of_known hknown] at hrun
      cases hrun
      cases hmissed

/-- The plan of a call that fetches everything has been taken. -/
theorem Compiles.runsFrom (h : c.Compiles digest o schema p) : p.RunsFrom (c.compile digest o schema).2 := by
  have hshared := (fetchesAll_iff_isShared h.outcome).mp h.fetches
  obtain ⟨root, done, hrun, rfl⟩ := exists_of_compile_ok h.outcome
  obtain ⟨-, hknown, hroot⟩ := compilation_spec steady_true trivial hrun
  have hmissed := (fetchesAll_iff hrun).mp h.fetches
  refine { shared := hshared, cached := ?_, root := ?_ }
  · rw [compile_of_ok hrun, install, hmissed]
    exact List.prefix_rfl
  · rw [install, hmissed]
    exact hknown ▸ hroot.known

theorem root_eq_of_compile (h : (c.compile digest o schema).1.outcome = .ok p) :
    p.root = planKey digest { root := schema, base := o.baseUri } (.schema schema) := by
  obtain ⟨root, done, hrun, rfl⟩ := exists_of_compile_ok h
  obtain ⟨-, -, hroot⟩ := compilation_spec steady_true trivial hrun
  rw [install_root]
  exact hroot.key

/-! ### What calls keep to -/

theorem table_prefix_compile (digest : String → String) (c : PlanCache) (o : Options) (schema : Json) :
    c.table <+: (c.compile digest o schema).2.table := by
  rcases compile_table digest c o schema with heq | ⟨root, done, -, -, htable⟩
  · rw [heq]
  · rw [htable]
    exact List.prefix_append _ _

theorem table_prefix_after (c : PlanCache) (calls : List (Options × Json)) : c.table <+: (c.after digest calls).table :=
  after_induction (I := fun d => c.table <+: d.table)
    (fun d o schema h => h.trans (table_prefix_compile digest d o schema)) List.prefix_rfl calls

/-- The nodes of a compilation have new keys. -/
theorem nodup_keys_of_compilation (h : (c.table.map (·.1)).Nodup)
    (hrun : compilation digest c o schema = (.ok root, done)) : ((c.table ++ done.fresh).map (·.1)).Nodup := by
  obtain ⟨-, hknown, -⟩ := compilation_spec steady_true trivial hrun
  have hstart : (Compilation.start.known c.table).Nodup := by
    simpa [known, start] using h
  rw [← hknown]
  exact (compileAt_progress (nodup_known_progress o c.table) o.maxDepth hrun hstart).1

/-- No key stands twice in a cache. -/
theorem nodup_keys_of_compile (h : (c.table.map (·.1)).Nodup) :
    ((c.compile digest o schema).2.table.map (·.1)).Nodup := by
  rcases compile_table digest c o schema with heq | ⟨root, done, hrun, -, htable⟩
  · rw [heq]
    exact h
  · rw [htable]
    exact nodup_keys_of_compilation h hrun

theorem nodup_keys_after (h : (c.table.map (·.1)).Nodup) (calls : List (Options × Json)) :
    ((c.after digest calls).table.map (·.1)).Nodup :=
  after_induction (I := fun d => (d.table.map (·.1)).Nodup) (fun _ _ _ => nodup_keys_of_compile) h calls

/-- A handle on a plan of a cache stays one, whatever is compiled. -/
theorem runsFrom_after (h : p.RunsFrom c) (calls : List (Options × Json)) : p.RunsFrom (c.after digest calls) :=
  { h with cached := h.cached.trans (table_prefix_after c calls) }

/-- A schema whose plan is there is not compiled again, and no level is needed to find it. -/
theorem compile_of_mem_keys
    (h : planKey digest { root := schema, base := o.baseUri } (.schema schema) ∈ c.table.map (·.1)) :
    c.compile digest o schema =
      (⟨.ok { root := planKey digest { root := schema, base := o.baseUri } (.schema schema), own := []
              cached := c.table, options := o }, []⟩, c) := by
  have hlink : Compilation.start.link? c.table (planKey digest { root := schema, base := o.baseUri } (.schema schema)) =
      some (.strong (planKey digest { root := schema, base := o.baseUri } (.schema schema))) := by
    rw [link?, if_pos]
    rw [Option.isSome_or, mem_keys_iff.mp h, Bool.true_or]
  have hrun := compile_of_ok (result_compileAt_of_known hlink : compilation digest c o schema = _)
  rw [hrun]
  simp [install, start, Link.key]

/-- **One plan per key, for ever.** After all calls: a plan of the cache stays what it is and where it is, and no other
one comes to have its key. A handle from a call that fetched everything and one from a later such call run the same plan
exactly if they have the same key. And each later call with the schema and the base of the first one, whatever its other
options are, gives a handle on the same plan, requests no document and leaves the cache as it was. -/
theorem one_plan_per_key (digest : String → String) (calls later : List (Options × Json)) :
    let c := PlanCache.empty.after digest calls
    (∀ (i : Nat) key n, c.table[i]? = some (key, n) →
      (c.after digest later).table[i]? = some (key, n) ∧
        ∀ (j : Nat) n', (c.after digest later).table[j]? = some (key, n') → j = i) ∧
    ∀ o schema p, c.Compiles digest o schema p →
      let d := c.after digest ((o, schema) :: later)
      (∀ o' schema' q, d.Compiles digest o' schema' q →
        (p.place = q.place ↔ p.root = q.root) ∧
          ∀ number, PlanHandle.same ⟨number, p⟩ ⟨number, q⟩ = true ↔ p.root = q.root) ∧
      ∀ o', o'.baseUri = o.baseUri →
        ∃ q, d.compile digest o' schema = (⟨.ok q, []⟩, d) ∧ q.options = o' ∧ p.place = q.place ∧
          ∀ number, PlanHandle.same ⟨number, p⟩ ⟨number, q⟩ = true := by
  intro c
  have hc : (c.table.map (·.1)).Nodup := nodup_keys_after (c := .empty) List.nodup_nil calls
  refine ⟨fun i key n hi => ?_, fun o schema p hp => ?_⟩
  · have hnodup : ((c.after digest later).table.map (·.1)).Nodup := nodup_keys_after hc later
    have hi' : (c.after digest later).table[i]? = some (key, n) := by
      obtain ⟨more, hmore⟩ := table_prefix_after c later
      rw [← hmore, List.getElem?_append_left (List.getElem?_eq_some_iff.mp hi).1, hi]
    refine ⟨hi', fun j n' hj => ?_⟩
    rw [← PlanTable.place_eq_of_getElem? hnodup hj, PlanTable.place_eq_of_getElem? hnodup hi']
  · intro d
    have hrunsp : p.RunsFrom d := runsFrom_after hp.runsFrom later
    refine ⟨fun o' schema' q hq => ?_, fun o' hbase => ?_⟩
    · -- the handles are compared in the cache as the later call leaves it
      have hrunsp' : p.RunsFrom (d.compile digest o' schema').2 := runsFrom_after hrunsp [(o', schema')]
      exact ⟨hrunsp'.place_eq_iff hq.runsFrom, hrunsp'.same_iff hq.runsFrom⟩
    · have hroot := root_eq_of_compile hp.outcome
      have hkey : planKey digest { root := schema, base := o'.baseUri } (.schema schema) ∈ d.table.map (·.1) := by
        rw [hbase, ← hroot]
        exact hrunsp.mem_keys
      have hq : CompiledPlan.RunsFrom { root := p.root, own := [], cached := d.table, options := o' } d :=
        { shared := rfl, cached := List.prefix_rfl, root := hrunsp.mem_keys }
      refine ⟨{ root := p.root, own := [], cached := d.table, options := o' }, ?_, rfl, ?_, fun number => ?_⟩
      · rw [compile_of_mem_keys hkey, hbase, ← hroot]
      · exact (hrunsp.place_eq_iff hq).mpr rfl
      · exact (hrunsp.same_iff hq number).mpr rfl

/-- A schema is compiled between two others, and again when no level is left. -/
theorem one_plan_per_key_string :
    let o := Options.withFormats .empty
    let c := PlanCache.empty.after id [(o, .object [("type", .string "null")])]
    let schema : Json := .object [("type", .string "string")]
    let d := c.after id [(o, schema), (o, .object [("type", .string "integer")])]
    d.size = 3 ∧ ∃ p q, c.Compiles id o schema p ∧ p.place = 1 ∧
      d.compile id { o with maxDepth := 0 } schema = (⟨.ok q, []⟩, d) ∧ p.place = q.place := by
  intro o c schema d
  refine ⟨by decide +kernel, ?_⟩
  have hmissed : (compilation id c o schema).2.missed = false := by decide +kernel
  have hplace : (c.compile id o schema).1.outcome.toOption.map CompiledPlan.place = some 1 := by decide +kernel
  rcases hrun : compilation id c o schema with ⟨_ | root, done⟩
  · rw [compile_of_error hrun] at hplace
    cases hplace
  · rw [compile_of_ok hrun] at hplace
    rw [hrun] at hmissed
    have hp : c.Compiles id o schema (c.install o root done).1 :=
      { outcome := by rw [compile_of_ok hrun], fetches := (fetchesAll_iff hrun).mpr hmissed }
    obtain ⟨q, hq, -, hsame, -⟩ := ((one_plan_per_key id [(o, .object [("type", .string "null")])]
      [(o, .object [("type", .string "integer")])]).2 o schema _ hp).2 { o with maxDepth := 0 } rfl
    exact ⟨_, q, hp, Option.some.inj hplace, hq, hsame⟩

end PlanCache

/-! ## Handles on the same cache -/

namespace Registry

variable {r : Registry}

/-- An operation leaves the caches as they are, makes an empty one, or compiles with one of them. -/
theorem caches_perform (digest : String → String) (r : Registry) (op : Operation) :
    (r.perform digest op).caches = r.caches ∨
    (r.perform digest op).caches = r.caches ++ [.empty] ∨
    ∃ (number : Nat) (c : PlanCache) (o : Options) (schema : Json), r.caches[number]? = some c ∧
      (r.perform digest op).caches = r.caches.set number (c.compile digest o schema).2 := by
  cases op with
  | newCache name => exact .inr (.inl rfl)
  | cloneCache source name =>
    refine .inl ?_
    rw [perform, cloneCache]
    cases r.handles.lookup source <;> rfl
  | dropCache name => exact .inl rfl
  | dropPlan name => exact .inl rfl
  | compile cache name o schema =>
    rw [perform, Registry.compile]
    cases hnumber : (r.dropPlan name).handles.lookup cache with
    | none => exact .inl rfl
    | some number =>
      cases hc : (r.dropPlan name).caches[number]? with
      | none => exact .inl (by simp [hc])
      | some c =>
        refine .inr (.inr ⟨number, c, o, schema, hc, ?_⟩)
        simp only [Option.bind_some, hc, Option.map_some, Option.getD_some]
        split <;> rfl

/-- Each cache is what the calls with it have made of an empty one. -/
def OfCalls (digest : String → String) (r : Registry) : Prop :=
  ∀ c ∈ r.caches, ∃ calls, c = PlanCache.empty.after digest calls

theorem OfCalls.perform (hr : r.OfCalls digest) (op : Operation) : (r.perform digest op).OfCalls digest := by
  intro c hc
  rcases caches_perform digest r op with heq | heq | ⟨number, d, o, schema, hd, heq⟩ <;> rw [heq] at hc
  · exact hr c hc
  · rcases List.mem_append.mp hc with hc | hc
    · exact hr c hc
    · exact ⟨[], List.mem_singleton.mp hc⟩
  · rcases List.mem_or_eq_of_mem_set hc with hc | rfl
    · exact hr c hc
    · obtain ⟨calls, rfl⟩ := hr d (List.mem_of_getElem? hd)
      exact ⟨calls ++ [(o, schema)], by rw [PlanCache.after_append]; rfl⟩

/-- Up to further calls, what has been a cache is left as it was. -/
theorem exists_calls_perform (op : Operation) {number : Nat} {c : PlanCache} (hc : r.caches[number]? = some c) :
    ∃ calls, (r.perform digest op).caches[number]? = some (c.after digest calls) := by
  obtain ⟨hlt, -⟩ := List.getElem?_eq_some_iff.mp hc
  rcases caches_perform digest r op with heq | heq | ⟨other, d, o, schema, hd, heq⟩
  · exact ⟨[], heq ▸ hc⟩
  · exact ⟨[], by rw [heq, List.getElem?_append_left hlt, hc]; rfl⟩
  · rw [heq]
    by_cases hother : other = number
    · subst hother
      cases hd.symm.trans hc
      exact ⟨[(o, schema)], by rw [List.getElem?_set_self hlt]; rfl⟩
    · exact ⟨[], by rw [List.getElem?_set_ne hother, hc]; rfl⟩

/-- **Handles on a cache share its calls.** Whatever is done with caches, their clones and plans, each cache is what the
calls with it have made of an empty one, and all that may happen to it later is further calls. -/
theorem exists_calls_after (digest : String → String) (history later : List Operation) {number : Nat} {c : PlanCache}
    (hc : (after digest history).caches[number]? = some c) :
    (∃ calls, c = PlanCache.empty.after digest calls) ∧
      ∃ calls, (after digest (history ++ later)).caches[number]? = some (c.after digest calls) := by
  constructor
  · have hempty : Registry.empty.OfCalls digest := fun c hc => absurd hc List.not_mem_nil
    exact perform_induction (fun r op hr => hr.perform op) hempty history c (List.mem_of_getElem? hc)
  · rw [after, List.foldl_append]
    refine perform_induction (I := fun r => ∃ calls, r.caches[number]? = some (c.after digest calls)) ?_ ⟨[], hc⟩ later
    rintro r op ⟨calls, hcalls⟩
    obtain ⟨more, hmore⟩ := exists_calls_perform op hcalls
    exact ⟨calls ++ more, by rw [PlanCache.after_append]; exact hmore⟩

end Registry

end JsonSchema
