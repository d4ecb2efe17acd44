import JsonSchema.Plan.Registry
import JsonSchema.Proofs.Plan.Cache

/-!
# What a handle leads to and what it keeps

From the root of a plan, links lead to its nodes. Those that a handle keeps by itself, when the cache is gone, are
fewer: the nodes that are its own, and those that strong links lead to from there.

## What is here

* `PlanNode.Settled` — a node all of whose links have known keys. `PlanTable.Settled` — a table of such nodes;
  `PlanCache.settled_of_compile`, compiling gives no others.
* `CompiledPlan.Reaches` — the links that may be followed from the root; `CompiledPlan.Settled.exists_node?`, **each of
  them has a finished target**.
* `CompiledPlan.Keeps` — the keys whose nodes a handle keeps by itself; `CompiledPlan.Settled.mem_held_iff`, they are
  **what the search for them finds**.
-/

set_option autoImplicit false

namespace JsonSchema

open Compilation Compiling

variable {P : Scope → Prop} {digest : String → String} {o : Options} {library : Library} {keys : List String}

/-! ## Faults of schemas -/

/-- A fault that does not come from a plan that has been given up. -/
def Fault.IsOrdinary (f : Fault) : Prop := ∀ key, f ≠ .incompletePlan key

theorem Fault.isOrdinary_invalidUri (uri reason : String) : (Fault.invalidUri uri reason).IsOrdinary :=
  fun _ heq => nomatch heq

namespace Scope

theorem isOrdinary_of_resolve {scope : Scope} {uri : String} {f : Fault}
    (h : (scope.resolve library uri).outcome = .error f) : f.IsOrdinary := by
  obtain ⟨reason, rfl | rfl⟩ := exists_of_resolve_error h
  · simp [Fault.IsOrdinary]
  · exact Fault.isOrdinary_invalidUri uri reason

end Scope

theorem isOrdinary_of_content {scope : Scope} {x : Subschema} {f : Fault} (h : content scope x = .fault f) :
    f.IsOrdinary := by
  obtain ⟨id, reason, rfl⟩ := exists_invalidUri_of_content h
  exact Fault.isOrdinary_invalidUri id reason

/-! ## Settled nodes -/

/-- A node whose links have known keys, and all of them where handles stand in keywords. -/
structure PlanNode.Settled (keys : List String) (n : PlanNode) : Prop where
  links : ∀ link ∈ n.links, link.key ∈ keys
  faults : ∀ f, n = .fault f → f.IsOrdinary
  keywords : ∀ k, n = .keywords k → k.All (· ∈ k.handles)

theorem PlanNode.Settled.mono {more : List String} (hmore : keys ⊆ more) {n : PlanNode} (h : n.Settled keys) :
    n.Settled more :=
  { h with links := fun link hlink => hmore (h.links link hlink) }

/-- What has been made for a place is settled. -/
theorem MadeFor.settled {key : String} {n : PlanNode} (h : MadeFor P digest keys library key n) : n.Settled keys where
  links := fun _ hlink => h.mem_keys_of_mem_links hlink
  faults := by
    obtain ⟨scope, x, -, -, hrealizes⟩ := h
    rintro f rfl
    generalize hc : content scope x = c at hrealizes
    cases hrealizes with
    | fault => exact isOrdinary_of_content hc
    | unresolved hresolve => exact Scope.isOrdinary_of_resolve hresolve
  keywords := by
    obtain ⟨scope, x, -, -, hrealizes⟩ := h
    rintro k rfl
    generalize content scope x = c at hrealizes
    cases hrealizes with
    | keywords hk => exact Keywords.all_mem_handles hk

/-- A table of settled nodes whose links stay in it. -/
def PlanTable.Settled (table : PlanTable) : Prop := ∀ m ∈ table, m.2.Settled (table.map (·.1))

theorem PlanTable.Settled.congr {table table' : PlanTable} (h : PlanTable.Settled table)
    (hmem : ∀ m, m ∈ table' ↔ m ∈ table) : PlanTable.Settled table' := by
  intro m hm
  refine (h m ((hmem m).mp hm)).mono ?_
  exact List.map_subset _ fun m hm => (hmem m).mpr hm

/-- A table stays settled when the nodes of a compilation join it. -/
theorem PlanTable.Settled.append {stored : PlanTable} {done : Compilation} (h : PlanTable.Settled stored)
    (hdone : done.Sound P digest o stored) (hknown : done.known stored = (stored ++ done.fresh).map (·.1)) :
    PlanTable.Settled (stored ++ done.fresh) := by
  intro m hm
  rcases List.mem_append.mp hm with hstored | hfresh
  · refine (h m hstored).mono ?_
    simp
  · rw [← hknown]
    exact (hdone.made m.1 m.2 hfresh o.library fun _ _ => rfl).settled

/-- A handle whose nodes are settled, with the root among them. -/
structure CompiledPlan.Settled (p : CompiledPlan) : Prop where
  root : p.root ∈ p.nodes.map (·.1)
  nodes : PlanTable.Settled p.nodes

namespace PlanCache

variable {c : PlanCache} {schema : Json}

/-- Compiling leaves the cache settled. -/
theorem settled_of_compile (hc : PlanTable.Settled c.table) : PlanTable.Settled (c.compile digest o schema).2.table := by
  rcases compile_table digest c o schema with heq | ⟨root, done, hrun, -, htable⟩
  · rw [heq]
    exact hc
  · obtain ⟨hdone, hknown, -⟩ := compilation_spec steady_true trivial hrun
    rw [htable]
    exact hc.append hdone hknown

/-- Compiling gives a settled handle. -/
theorem settled_plan_of_compile (hc : PlanTable.Settled c.table) {plan : CompiledPlan}
    (h : (c.compile digest o schema).1.outcome = .ok plan) : plan.Settled := by
  obtain ⟨root, done, hrun, rfl⟩ := exists_of_compile_ok h
  obtain ⟨hdone, hknown, hroot⟩ := compilation_spec steady_true trivial hrun
  have hall : PlanTable.Settled (c.table ++ done.fresh) := hc.append hdone hknown
  refine { root := ?_, nodes := hall.congr (mem_nodes_install c root done) }
  rw [install_root]
  obtain ⟨m, hm, hkey⟩ := List.mem_map.mp (hknown ▸ hroot.known)
  exact List.mem_map.mpr ⟨m, (mem_nodes_install c root done m).mpr hm, hkey⟩

end PlanCache

/-! ## What a handle leads to -/

namespace CompiledPlan

variable {p : CompiledPlan}

/-- The links that may be followed from the root of a plan. -/
inductive Reaches (p : CompiledPlan) : Link → Prop where
  | root : Reaches p (.strong p.root)
  | next {link next : Link} {n : PlanNode} (h : Reaches p link) (hn : p.node? link.key = some n)
    (hnext : next ∈ n.links) : Reaches p next

/-- Under each known key there is a settled node. -/
theorem Settled.exists_of_mem_keys (hp : p.Settled) {key : String} (h : key ∈ p.nodes.map (·.1)) :
    ∃ n, p.node? key = some n ∧ n.Settled (p.nodes.map (·.1)) := by
  obtain ⟨n, hn, hmem⟩ := exists_lookup_of_mem_keys h
  exact ⟨n, p.node?_eq key ▸ hn, hp.nodes _ hmem⟩

theorem Settled.settled_of_node? (hp : p.Settled) {key : String} {n : PlanNode} (h : p.node? key = some n) :
    n.Settled (p.nodes.map (·.1)) := by
  rw [p.node?_eq] at h
  exact hp.nodes (key, n) (mem_of_lookup h)

theorem Settled.mem_keys_of_reaches (hp : p.Settled) {link : Link} (h : p.Reaches link) :
    link.key ∈ p.nodes.map (·.1) := by
  induction h with
  | root => exact hp.root
  | next _ hn hnext _ => exact (hp.settled_of_node? hn).links _ hnext

/-- **Each link that may be followed has a finished target.** -/
theorem Settled.exists_node? (hp : p.Settled) {link : Link} (h : p.Reaches link) :
    ∃ n, p.node? link.key = some n ∧ n.Settled (p.nodes.map (·.1)) :=
  hp.exists_of_mem_keys (hp.mem_keys_of_reaches h)

/-! ## What a handle keeps -/

/-- The keys of the nodes that a handle keeps by itself: its own, and those that strong links lead to from there. -/
inductive Keeps (p : CompiledPlan) : String → Prop where
  | own {key : String} (h : key ∈ p.own.map (·.1)) : Keeps p key
  | strong {key next : String} {n : PlanNode} (h : Keeps p key) (hn : p.node? key = some n)
    (hnext : .strong next ∈ n.links) : Keeps p next

end CompiledPlan

/-- What is pending and has not been visited is reached. -/
theorem mem_reachedKeys_of_mem {next : String → List String} {unvisited pending : List String} :
    (∀ key ∈ pending, key ∈ unvisited → key ∈ reachedKeys next unvisited pending) ∧
      ∀ key ∈ reachedKeys next unvisited pending, ∀ key' ∈ next key, key' ∈ unvisited →
        key' ∈ reachedKeys next unvisited pending := by
  fun_induction reachedKeys next unvisited pending with
  | case1 unvisited pending hnone =>
    refine ⟨fun key hpending hunvisited => ?_, fun key hkey => absurd hkey (by simp)⟩
    exact absurd (List.contains_iff_mem.mpr hunvisited) (List.find?_eq_none.mp hnone key hpending)
  | case2 unvisited pending found hfound ih =>
    -- the key that has been found is in front; all others have not been visited yet
    have hrest {key : String} (hpending : key ∈ next found ++ pending) (hunvisited : key ∈ unvisited) :
        key ∈ found :: reachedKeys next (unvisited.erase found) (next found ++ pending) := by
      by_cases heq : key = found
      · rw [heq]
        exact List.mem_cons_self
      · exact List.mem_cons_of_mem _ (ih.1 key hpending ((List.mem_erase_of_ne heq).mpr hunvisited))
    refine ⟨fun key hpending hunvisited => hrest (List.mem_append_right _ hpending) hunvisited, ?_⟩
    intro key hkey key' hnext hunvisited
    rcases List.mem_cons.mp hkey with rfl | hkey
    · exact hrest (List.mem_append_left _ hnext) hunvisited
    · by_cases heq : key' = found
      · rw [heq]
        exact List.mem_cons_self
      · exact List.mem_cons_of_mem _ (ih.2 key hkey key' hnext ((List.mem_erase_of_ne heq).mpr hunvisited))

/-- What holds of all that is pending, and is passed on, holds of what is reached. -/
theorem forall_mem_reachedKeys {next : String → List String} {Q : String → Prop}
    (hnext : ∀ key, Q key → ∀ key' ∈ next key, Q key') {unvisited pending : List String}
    (hpending : ∀ key ∈ pending, Q key) : ∀ key ∈ reachedKeys next unvisited pending, Q key := by
  fun_induction reachedKeys next unvisited pending with
  | case1 unvisited pending hnone => simp
  | case2 unvisited pending found hfound ih =>
    have hQ : Q found := hpending found (List.mem_of_find?_eq_some hfound)
    intro key hkey
    rcases List.mem_cons.mp hkey with rfl | hkey
    · exact hQ
    · refine ih (fun key hkey => ?_) key hkey
      rcases List.mem_append.mp hkey with hkey | hkey
      · exact hnext found hQ key hkey
      · exact hpending key hkey

theorem PlanNode.mem_strongKeys {n : PlanNode} {key : String} : key ∈ n.strongKeys ↔ .strong key ∈ n.links := by
  unfold PlanNode.strongKeys
  rw [List.mem_filterMap]
  constructor
  · rintro ⟨link, hlink, heq⟩
    cases link with
    | strong key' => rwa [← Option.some.inj heq]
    | weak key' => exact nomatch heq
  · intro h
    exact ⟨_, h, rfl⟩

namespace CompiledPlan

variable {p : CompiledPlan}

theorem mem_strongKeys {key key' : String} :
    key' ∈ p.strongKeys key ↔ ∃ n, p.node? key = some n ∧ .strong key' ∈ n.links := by
  unfold strongKeys
  cases p.node? key with
  | none => simp
  | some n => simp [PlanNode.mem_strongKeys]

theorem Settled.mem_keys_of_keeps (hp : p.Settled) {key : String} (h : p.Keeps key) : key ∈ p.nodes.map (·.1) := by
  induction h with
  | own h =>
    rw [CompiledPlan.nodes, List.map_append]
    exact List.mem_append_left _ h
  | strong _ hn hnext _ => exact (hp.settled_of_node? hn).links _ hnext

theorem Settled.mem_reachedKeys_iff (hp : p.Settled) {key : String} :
    key ∈ reachedKeys p.strongKeys (p.nodes.map (·.1)) (p.own.map (·.1)) ↔ p.Keeps key := by
  constructor
  · refine forall_mem_reachedKeys (fun key hkey key' hnext => ?_) (fun key => .own) key
    obtain ⟨n, hn, hlink⟩ := mem_strongKeys.mp hnext
    exact .strong hkey hn hlink
  · intro h
    induction h with
    | own h => exact mem_reachedKeys_of_mem.1 _ h (hp.mem_keys_of_keeps (.own h))
    | @strong key next n h hn hnext ih =>
      exact mem_reachedKeys_of_mem.2 key ih next (mem_strongKeys.mpr ⟨n, hn, hnext⟩)
        (hp.mem_keys_of_keeps (.strong h hn hnext))

/-- **The search finds the keys of the cache that a handle keeps.** -/
theorem Settled.mem_held_iff (hp : p.Settled) {key : String} :
    key ∈ p.held ↔ p.Keeps key ∧ key ∉ p.own.map (·.1) := by
  have hkeys : p.own.map (·.1) ++ p.cached.map (·.1) = p.nodes.map (·.1) := by
    rw [CompiledPlan.nodes, List.map_append]
  simp only [held, hkeys, List.mem_filter, Bool.not_eq_true', List.contains_eq_mem, decide_eq_false_iff_not,
    hp.mem_reachedKeys_iff]

end CompiledPlan

end JsonSchema
