import JsonSchema.Proofs.Plan.Unique
import Mathlib.Logic.Relation

/-!
# The graph of plans

A compilation links to nodes that are finished and to nodes that are not. A link to a finished node is strong, and a
node is finished after all nodes to which its strong links lead. Hence strong links never form a circle, although
schemas may: each circle is closed by a weak link.

## What is here

* `PlanTable.Layered` — the strong links of each node lead to nodes before it. `PlanTable.Layered.acyclic` — **no circle
  of strong links is in such a table**.
* `PlanTable.IsGraph` — what is asked of a table: finished targets, one node for a key, and no circle.
* `Compilation.Grounded` — a link is weak, or its target is finished. `Compiling.compileAt_grounded` — **compiling a
  place gives such a link, and keeps the table layered**.
* `PlanCache.plan_graph` — **each plan of a cache or of a handle is finished with all that it leads to**, stays what it is,
  and is on no circle of strong links.
-/

set_option autoImplicit false

namespace JsonSchema

open Compilation Compiling

/-! ## Tables without circles -/

namespace PlanTable

variable {table table' : PlanTable} {key next : String} {n : PlanNode}

/-- A strong link leads from a key to another one. -/
def StrongLink (table : PlanTable) (key next : String) : Prop :=
  ∃ n, table.lookup key = some n ∧ .strong next ∈ n.links

/-- Strong links form no circle. -/
def Acyclic (table : PlanTable) : Prop := ∀ key, ¬ Relation.TransGen table.StrongLink key key

/-- The strong links of each node lead to nodes before it. -/
def Layered (table : PlanTable) : Prop :=
  ∀ before m behind, table = before ++ m :: behind → ∀ next, .strong next ∈ m.2.links → next ∈ before.map (·.1)

theorem Layered.nil : Layered [] := by
  intro before m behind h
  exact absurd h (by simp)

/-- A node may come last if its strong links lead to nodes that are there. -/
theorem Layered.concat (h : Layered table) (hn : ∀ next, .strong next ∈ n.links → next ∈ table.map (·.1)) :
    Layered (table ++ [(key, n)]) := by
  intro before m behind heq next hnext
  -- the node in question is the new one, or it stood in the table before
  rcases List.eq_nil_or_concat behind with rfl | ⟨behind, last, rfl⟩
  · obtain ⟨rfl, hm⟩ := List.append_inj' heq rfl
    rw [← List.singleton_inj.mp hm] at hnext
    exact hn next hnext
  · rw [List.concat_eq_append, ← List.cons_append, ← List.append_assoc] at heq
    exact h before m behind (List.append_inj' heq rfl).1 next hnext

/-- Strong links lead to places further in front. -/
theorem Layered.place_lt (h : Layered table) (hlink : table.StrongLink key next) : place table next < place table key := by
  obtain ⟨n, hn, hnext⟩ := hlink
  obtain ⟨before, behind, rfl, hfirst⟩ := List.lookup_eq_some_iff.mp hn
  have hmem : next ∈ before.map (·.1) := h before (key, n) behind rfl next hnext
  have hkey : key ∉ before.map (·.1) := by
    intro hkey
    obtain ⟨m, hm, rfl⟩ := List.mem_map.mp hkey
    simpa using hfirst m hm
  rw [place, place, List.map_append, List.idxOf_append_of_mem hmem, List.idxOf_append_of_notMem hkey]
  exact (List.idxOf_lt_length_of_mem hmem).trans_le (Nat.le_add_right _ _)

/-- **No circle of strong links is in a layered table.** -/
theorem Layered.acyclic (h : Layered table) : Acyclic table := by
  intro key hcircle
  have hlt {key key' : String} (hpath : Relation.TransGen table.StrongLink key key') :
      place table key' < place table key := by
    induction hpath with
    | single hlink => exact h.place_lt hlink
    | tail _ hlink ih => exact (h.place_lt hlink).trans ih
  exact lt_irrefl _ (hlt hcircle)

/-- Where no key stands twice, the node of a key is the one that stands with it. -/
theorem lookup_eq_some_iff (h : (table.map (·.1)).Nodup) : table.lookup key = some n ↔ (key, n) ∈ table := by
  refine ⟨mem_of_lookup, fun hmem => ?_⟩
  obtain ⟨n', hn', hmem'⟩ := exists_lookup_of_mem_keys (List.mem_map_of_mem hmem)
  cases List.inj_on_of_nodup_map h hmem hmem' rfl
  exact hn'

theorem lookup_congr (h : (table.map (·.1)).Nodup) (h' : (table'.map (·.1)).Nodup)
    (hmem : ∀ m, m ∈ table ↔ m ∈ table') (key : String) : table.lookup key = table'.lookup key := by
  ext n
  rw [lookup_eq_some_iff h, lookup_eq_some_iff h', hmem]

/-- Each link leads to a node, no key is that of two nodes, and strong links form no circle. -/
structure IsGraph (table : PlanTable) : Prop where
  nodup : (table.map (·.1)).Nodup
  finished : ∀ m ∈ table, ∀ link ∈ m.2.links, ∃ n, table.lookup link.key = some n
  acyclic : Acyclic table

/-- A layered table of settled nodes is a graph, if no key stands twice. -/
theorem IsGraph.of_layered (hnodup : (table.map (·.1)).Nodup) (hsettled : PlanTable.Settled table) (hlayered : Layered table) :
    IsGraph table where
  nodup := hnodup
  finished := by
    intro m hm link hlink
    obtain ⟨n, hn, -⟩ := exists_lookup_of_mem_keys ((hsettled m hm).links link hlink)
    exact ⟨n, hn⟩
  acyclic := hlayered.acyclic

/-- The order of the nodes does not matter. -/
theorem IsGraph.of_perm (h : IsGraph table) (hperm : List.Perm table table') : IsGraph table' := by
  have hnodup : (table'.map (·.1)).Nodup := (hperm.map _).nodup_iff.mp h.nodup
  have hlookup (key : String) : table'.lookup key = table.lookup key :=
    lookup_congr hnodup h.nodup (fun _ => hperm.symm.mem_iff) key
  have hlink : StrongLink table' = StrongLink table := by
    unfold StrongLink
    simp only [hlookup]
  refine ⟨hnodup, fun m hm link hlink => ?_, ?_⟩
  · rw [hlookup]
    exact h.finished m (hperm.mem_iff.mpr hm) link hlink
  · rw [Acyclic, hlink]
    exact h.acyclic

/-- A table that grows at its end keeps its nodes. -/
theorem lookup_of_prefix (h : table <+: table') (hn : table.lookup key = some n) : table'.lookup key = some n := by
  obtain ⟨more, rfl⟩ := h
  rw [List.lookup_append, hn, Option.some_or]

end PlanTable

/-! ## In the course of a compilation -/

variable {digest : String → String} {o : Options} {stored : PlanTable} {c d : Compilation}

namespace Compilation

/-- The keys of nodes that are finished. -/
def finished (stored : PlanTable) (c : Compilation) : List String := (stored ++ c.fresh).map (·.1)

/-- A link is weak, or its target is finished. -/
def Grounded (stored : PlanTable) (c : Compilation) (link : Link) : Prop :=
  ∀ key, link = .strong key → key ∈ c.finished stored

theorem Grounded.mono (h : c.finished stored ⊆ d.finished stored) {link : Link} (hlink : c.Grounded stored link) :
    d.Grounded stored link :=
  fun key hkey => h (hlink key hkey)

/-- The link to a known key is strong only if the node is finished. -/
theorem grounded_of_link? {key : String} {link : Link} (h : c.link? stored key = some link) : c.Grounded stored link := by
  rintro key' rfl
  unfold link? at h
  split at h
  · rename_i hsome
    cases h
    rw [finished, mem_keys_iff, List.lookup_append]
    exact hsome
  · split at h <;> cases h

end Compilation

namespace Compiling

/-- Compiling leads, if it does not fail, from a state with a layered table to another one, where the same nodes are
finished, and others. -/
def layering (stored : PlanTable) : Guarantee Compiling Compilation where
  Later := fun c d => c.finished stored ⊆ d.finished stored
  trans := List.Subset.trans
  Yields := fun c p Q =>
    (stored ++ c.fresh).Layered → ∀ a d, result p c = (.ok a, d) →
      (stored ++ d.fresh).Layered ∧ c.finished stored ⊆ d.finished stored ∧ Q d a
  pure := by
    intro α c a Q hQ hc a' d hrun
    obtain ⟨ha, rfl⟩ := Prod.mk.inj hrun
    cases ha
    exact ⟨hc, List.Subset.refl _, hQ⟩
  bind := by
    intro α β c p f Q Q' hp hf hc b e hrun
    obtain ⟨a, d, hmiddle, hend⟩ := result_bind_eq_ok hrun
    obtain ⟨hd, hcd, hQ⟩ := hp hc a d hmiddle
    obtain ⟨he, hde, hQ'⟩ := hf d a hcd hQ hd b e hend
    exact ⟨he, List.Subset.trans hcd hde, hQ'⟩

/-- What stands at a place becomes a node with grounded links, if compiling places gives grounded links. -/
theorem contentNode_grounded {next : Scope → Subschema → Compiling Link}
    (hnext : ∀ scope x c, (layering stored).Yields c (next scope x) fun d link => d.Grounded stored link)
    (scope : Scope) (x : Subschema) (c : Compilation) :
    (layering stored).Yields c (contentNode o next (content scope x)) fun d n =>
      ∀ link ∈ n.links, d.Grounded stored link := by
  intro hc n e hrun
  cases hx : content scope x with
  | reference inner uri =>
    rw [hx] at hrun
    rcases result_reference hrun with ⟨f, -, rfl, rfl⟩ | ⟨target, link, -, hlink, rfl⟩
    · exact ⟨hc, List.Subset.refl _, fun link hlink => absurd hlink List.not_mem_nil⟩
    · obtain ⟨he, hlater, hgrounded⟩ := hnext _ _ (c.note uri _) hc link e hlink
      exact ⟨he, hlater, List.forall_mem_singleton.mpr hgrounded⟩
  | keywords inner k =>
    rw [hx] at hrun
    obtain ⟨-, hk⟩ := keywords_of_content steady_true trivial hx
    obtain ⟨l, hl, rfl⟩ := result_keywords hrun
    have hkeeps : (layering stored).Keeps fun d (_ : Subschema) link => d.Grounded stored link :=
      fun _ _ _ _ hlater hlink => hlink.mono hlater
    obtain ⟨he, hlater, hrel⟩ := Keywords.traverse_yields _ hkeeps (fun d _ y _ => hnext inner y d) hk c hc l e hl
    refine ⟨he, hlater, fun link hlink => ?_⟩
    obtain ⟨_, hgrounded⟩ := Keywords.exists_of_mem_handles hrel hlink
    exact hgrounded
  | _ =>
    rw [hx] at hrun
    obtain ⟨hn, rfl⟩ := Prod.mk.inj hrun
    cases hn
    exact ⟨hc, List.Subset.refl _, fun link hlink => absurd hlink List.not_mem_nil⟩

/-- **Compiling a place gives a grounded link and keeps the table layered**: the node of the place is finished after all
nodes to which its strong links lead. -/
theorem compileAt_grounded (depth : Nat) (scope : Scope) (x : Subschema) (c : Compilation) :
    (layering stored).Yields c (compileAt digest o stored depth scope x) fun d link => d.Grounded stored link := by
  induction depth using Nat.strong_induction_on generalizing scope x c with
  | _ depth ih =>
    intro hc link e hrun
    cases hknown : c.link? stored (planKey digest scope x) with
    | some found =>
      rw [result_compileAt_of_known hknown] at hrun
      obtain ⟨hlink, rfl⟩ := Prod.mk.inj hrun
      cases hlink
      exact ⟨hc, List.Subset.refl _, grounded_of_link? hknown⟩
    | none =>
      obtain ⟨depth', n, d, rfl, hnode, rfl, rfl⟩ := result_compileAt_of_unknown hknown hrun
      rw [node_eq] at hnode
      obtain ⟨hd, hlater, hlinks⟩ :=
        contentNode_grounded (ih depth' (Nat.lt_succ_self depth')) scope x (c.begin (planKey digest scope x)) hc n d hnode
      -- the new node comes last, behind all that was finished while its key was in progress
      have hfresh : stored ++ (d.finish (planKey digest scope x) n).fresh =
          stored ++ d.fresh ++ [(planKey digest scope x, n)] := (List.append_assoc _ _ _).symm
      have hfinished : (d.finish (planKey digest scope x) n).finished stored =
          d.finished stored ++ [planKey digest scope x] := by
        rw [finished, hfresh, List.map_append]
        rfl
      refine ⟨?_, ?_, ?_⟩
      · rw [hfresh]
        exact hd.concat fun next hnext => hlinks _ hnext next rfl
      · rw [hfinished]
        exact List.Subset.trans hlater (List.subset_append_left _ _)
      · rintro key hkey
        cases hkey
        rw [hfinished]
        exact List.mem_append_right _ (List.mem_singleton_self _)

end Compiling

/-! ## Caches and handles -/

namespace PlanCache

variable {c : PlanCache} {schema : Json} {root : Link} {done : Compilation} {p : CompiledPlan}

/-- The nodes of a cache stay layered when those of a compilation join them. -/
theorem layered_of_compilation (hc : c.table.Layered) (h : compilation digest c o schema = (.ok root, done)) :
    (c.table ++ done.fresh).Layered := by
  have hstart : (c.table ++ Compilation.start.fresh).Layered := by
    rw [start, List.append_nil]
    exact hc
  exact (compileAt_grounded o.maxDepth _ _ .start hstart root done h).1

theorem layered_after (hc : c.table.Layered) (calls : List (Options × Json)) : (c.after digest calls).table.Layered := by
  refine after_induction (I := fun d => d.table.Layered) (fun c o schema hc => ?_) hc calls
  rcases compile_table digest c o schema with heq | ⟨root, done, hrun, -, htable⟩
  · rw [heq]
    exact hc
  · rw [htable]
    exact layered_of_compilation hc hrun

/-- The nodes of a handle form a graph. -/
theorem isGraph_of_compile (hnodup : (c.table.map (·.1)).Nodup) (hsettled : PlanTable.Settled c.table)
    (hlayered : c.table.Layered) (h : (c.compile digest o schema).1.outcome = .ok p) : p.nodes.IsGraph := by
  obtain ⟨root, done, hrun, rfl⟩ := exists_of_compile_ok h
  obtain ⟨hdone, hknown, -⟩ := compilation_spec steady_true trivial hrun
  have hall : PlanTable.IsGraph (c.table ++ done.fresh) :=
    .of_layered (nodup_keys_of_compilation hnodup hrun) (hsettled.append hdone hknown) (layered_of_compilation hlayered hrun)
  exact hall.of_perm (nodes_install_perm c root done).symm

/-- A handle has the plans of the cache as the call leaves it. -/
theorem cached_eq_of_compile (h : (c.compile digest o schema).1.outcome = .ok p) :
    p.cached = (c.compile digest o schema).2.table := by
  obtain ⟨root, done, hrun, rfl⟩ := exists_of_compile_ok h
  rw [compile_of_ok hrun, install]
  cases done.missed <;> rfl

/-- **Each plan is finished with all that it leads to.** After all calls, each link of a plan of the cache leads to the
one plan of the cache with its key, which is finished and stays what it is, and strong links form no circle. The same
holds of the plans that a handle has: those of the cache as the call leaves it, and its own, which there are only if the
call met a reference to what is not there. -/
theorem plan_graph (digest : String → String) (calls : List (Options × Json)) :
    let c := PlanCache.empty.after digest calls
    c.table.IsGraph ∧
    (∀ key ∈ c.table.map (·.1), ∀ k, c.Leads key k →
      ∃ n, c.table.lookup k = some n ∧ ∀ later, (c.after digest later).table.lookup k = some n) ∧
    ∀ o schema p, (c.compile digest o schema).1.outcome = .ok p →
      let d := (c.compile digest o schema).2
      p.nodes.IsGraph ∧ p.nodes = p.own ++ d.table ∧ (c.FetchesAll digest o schema → p.own = []) ∧
      ∀ link, p.Reaches link → ∃ n, p.follow? (fun _ => true) link = some n ∧
        (p.own.lookup link.key = some n ∨ ∀ later, (d.after digest later).table.lookup link.key = some n) := by
  intro c
  have hnodup : (c.table.map (·.1)).Nodup := nodup_keys_after (c := .empty) List.nodup_nil calls
  have hlayered : c.table.Layered := layered_after (c := .empty) PlanTable.Layered.nil calls
  have hc : c.Sound := after_induction (fun c o schema hc => hc.compile o schema) Sound.empty calls
  refine ⟨.of_layered hnodup hc.settled hlayered, fun key hkey k hleads => ?_, fun o schema p hp => ?_⟩
  · obtain ⟨n, hn, -⟩ := hc.exists_lookup (hc.mem_keys_of_leads hkey hleads)
    exact ⟨n, hn, fun later => PlanTable.lookup_of_prefix (table_prefix_after c later) hn⟩
  · have hcached := cached_eq_of_compile hp
    refine ⟨isGraph_of_compile hnodup hc.settled hlayered hp, ?_, fun hfetches => ?_, fun link hlink => ?_⟩
    · rw [CompiledPlan.nodes, hcached]
    · exact List.isEmpty_iff.mp ((fetchesAll_iff_isShared hp).mp hfetches)
    · obtain ⟨n, hn, -⟩ := (settled_plan_of_compile hc.settled hp).exists_node? hlink
      refine ⟨n, (p.follow?_eq_node? link).trans hn, ?_⟩
      -- a node that is not the handle's own was in the cache when the call ended
      rcases Option.or_eq_some_iff.mp hn with hown | ⟨-, hstored⟩
      · exact .inl hown
      · rw [hcached] at hstored
        exact .inr fun later => PlanTable.lookup_of_prefix (table_prefix_after _ later) hstored

/-- A document is missing, so the handle keeps three plans for itself: of the schema, of the reference back to it, and of
the one that fails. A strong link leads from there to the plan of the cache. -/
theorem plan_graph_private :
    let o := Options.withFormats .empty
    let c := PlanCache.empty.after id [(o, .object [])]
    let back : Json := .object [("$ref", .string "#")]
    let missing : Json := .object [("$ref", .string "app:/e")]
    let schema : Json := .object [("not", .object []), ("items", .array [back, missing])]
    ∃ p, (c.compile id o schema).1.outcome = .ok p ∧ p.own.length = 3 ∧ p.held = ["\x7b\x7d"] ∧ p.nodes.IsGraph ∧
      ∀ link, p.Reaches link → (p.follow? (fun _ => true) link).isSome = true := by
  intro o c back missing schema
  have hfacts : (c.compile id o schema).1.outcome.toOption.map (fun p => (p.own.length, p.held)) = some (3, ["\x7b\x7d"]) := by
    decide +kernel
  cases hp : (c.compile id o schema).1.outcome with
  | error f =>
    rw [hp] at hfacts
    cases hfacts
  | ok p =>
    rw [hp] at hfacts
    obtain ⟨hown, hheld⟩ := Prod.mk.inj (Option.some.inj hfacts)
    obtain ⟨hgraph, -, -, hreaches⟩ := (plan_graph id [(o, .object [])]).2.2 o schema p hp
    refine ⟨p, rfl, hown, hheld, hgraph, fun link hlink => ?_⟩
    obtain ⟨n, hn, -⟩ := hreaches link hlink
    rw [hn]
    rfl

end PlanCache

end JsonSchema
