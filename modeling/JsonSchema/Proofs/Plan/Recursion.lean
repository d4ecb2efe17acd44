import JsonSchema.Proofs.Plan.Arrivals
import Mathlib.Data.Set.Card

/-!
# Recursive schemas

References may lead back to where a compilation has come from, so nothing in the text of a schema grows smaller on the
way. What bounds the levels is that all keys in progress are different: there are never more of them than keys that can
be reached at all.

## What is here

* `inProgress_progress` — a step leaves in progress what was in progress before it.
* `levels_of_mem_arrivals` — **at each arrival, as many levels have been entered as keys are in progress**, all different.
* `compileAt_ok` — with a level for each key that can be reached, compiling a place does not fail.
* `PlanCache.compile_recursive` — **a schema compiles if there are levels enough for the keys that can be reached from
  it**, and no key is begun twice.
-/

set_option autoImplicit false

namespace JsonSchema

open Compilation Compiling

variable {digest : String → String} {o : Options} {stored : PlanTable} {depth : Nat} {scope : Scope} {x : Subschema}
  {c d e : Compilation}

/-! ## Keys in progress -/

/-- A step leaves in progress what was in progress before it. -/
theorem inProgress_progress (o : Options) (stored : PlanTable) :
    Progress o stored fun c d => d.inProgress = c.inProgress where
  refl := fun _ => rfl
  trans := fun hcd hde => hde.trans hcd
  note := fun _ _ _ => rfl
  make := by
    intro c d key n _ hleads _
    show d.inProgress.erase key = c.inProgress
    rw [hleads]
    exact List.erase_cons_head key c.inProgress

theorem inProgress_inOrder {xs : List Subschema}
    (h : result (inOrder (compileAt digest o stored depth scope) xs) c = (.ok (), d)) : d.inProgress = c.inProgress :=
  inOrder_leads (L := fun c d => d.inProgress = c.inProgress) (fun _ => rfl) (fun hcd hde => hde.trans hcd)
    (fun _ _ _ _ hrun => compileAt_progress (inProgress_progress o stored) depth hrun) h

theorem not_mem_inProgress_of_unknown {key : String} (h : c.link? stored key = none) : key ∉ c.inProgress :=
  fun hkey => not_mem_known_of_unknown h (List.mem_append_right _ hkey)

/-- At an arrival, as many levels have been entered as keys are in progress, and these are all different. -/
structure Arrival.Levels (n : Nat) (a : Arrival) : Prop where
  left : a.left + a.state.inProgress.length = n
  nodup : a.state.inProgress.Nodup

/-- From one arrival to the next, one level is entered and one key is put in progress. -/
theorem Calls.levels {a b : Arrival} (h : Calls digest o stored a b) {n : Nat} (ha : a.Levels n) : b.Levels n := by
  have hbegin {depth : Nat} {key : String} {c d : Compilation} (hnew : c.link? stored key = none)
      (hd : d.inProgress = (c.begin key).inProgress) {s t : Scope} {y z : Subschema}
      (hc : Arrival.Levels n ⟨depth + 1, s, y, c⟩) : Arrival.Levels n ⟨depth, t, z, d⟩ := by
    constructor
    · have hleft : depth + 1 + c.inProgress.length = n := hc.left
      simp only [hd, begin, List.length_cons]
      omega
    · show d.inProgress.Nodup
      rw [hd]
      exact List.nodup_cons.mpr ⟨not_mem_inProgress_of_unknown hnew, hc.nodup⟩
  cases h with
  | target hnew =>
    refine hbegin hnew ?_ ha
    rfl
  | keyword hnew _ _ hbefore => exact hbegin hnew (inProgress_inOrder hbefore) ha

/-- **At each arrival, as many levels have been entered as keys are in progress.** -/
theorem levels_of_mem_arrivals (hc : c.inProgress.Nodup) {a : Arrival}
    (h : a ∈ arrivals digest o stored depth scope x c) : a.Levels (depth + c.inProgress.length) :=
  forall_mem_arrivals (fun _ _ hab ha => hab.levels ha) ⟨rfl, hc⟩ a h

/-! ## Compiling does not fail -/

/-- A place that has not been known compiles if what stands there does. -/
theorem result_compileAt_of_node {n : PlanNode} (hnew : c.link? stored (planKey digest scope x) = none)
    (h : result (contentNode o (compileAt digest o stored depth) (content scope x)) (c.begin (planKey digest scope x)) =
      (.ok n, e)) :
    result (compileAt digest o stored (depth + 1) scope x) c =
      (.ok (.strong (planKey digest scope x)), e.finish (planKey digest scope x) n) := by
  rw [← node_eq] at h
  rw [compileAt]
  simp only [result_bind, result_get, hnew, result_modify, h, result_pure]

/-- Going through a list fails only if some step does. -/
theorem inOrder_ok {S T : Type} {f : S → Compiling T} {I : Compilation → Prop} {xs : List S}
    (hf : ∀ x ∈ xs, ∀ c, I c → ∃ y d, result (f x) c = (.ok y, d) ∧ I d) (hc : I c) :
    ∃ d, result (inOrder f xs) c = (.ok (), d) := by
  induction xs generalizing c with
  | nil => exact ⟨c, rfl⟩
  | cons x xs ih =>
    obtain ⟨y, d, hx, hd⟩ := hf x List.mem_cons_self c hc
    obtain ⟨e, hxs⟩ := ih (fun x hx => hf x (List.mem_cons_of_mem _ hx)) hd
    refine ⟨e, ?_⟩
    rw [inOrder, result_bind, hx]
    exact hxs

/-- Replacing the handles of keywords fails only if going through them does. -/
theorem traverse_ok {S T : Type} {f : S → Compiling T} {k : Keywords S}
    (h : result (inOrder f k.handles) c = (.ok (), d)) : ∃ l, result (k.traverse f) c = (.ok l, d) := by
  rw [← Keywords.traverse_eq_inOrder] at h
  obtain ⟨l, e, hl, hend⟩ := result_bind_eq_ok h
  obtain ⟨-, rfl⟩ := Prod.mk.inj hend
  exact ⟨l, hl⟩

variable {next : Scope → Subschema → Compiling Link}

/-- What stands at a place compiles if all that it needs does. Nothing but the keys in progress is asked of the states
in which this comes up. -/
theorem contentNode_ok
    (hnext : ∀ t z d, Needs o.library scope x t z → d.inProgress = c.inProgress →
      ∃ link e, result (next t z) d = (.ok link, e) ∧ e.inProgress = d.inProgress) :
    ∃ n e, result (contentNode o next (content scope x)) c = (.ok n, e) := by
  cases hx : content scope x with
  | reference inner uri =>
    rw [contentNode, reference, result_bind, result_modify]
    dsimp only
    cases htarget : (inner.resolve o.library uri).outcome with
    | error f => exact ⟨_, _, rfl⟩
    | ok target =>
      obtain ⟨link, e, hlink, -⟩ := hnext _ _ (c.note uri (inner.resolve o.library uri)) (.target hx htarget) rfl
      refine ⟨.reference link, e, ?_⟩
      dsimp only
      rw [result_bind, hlink]
      rfl
  | keywords inner k =>
    have hhandle (y : Subschema) (hy : y ∈ k.handles) (d : Compilation) (hd : d.inProgress = c.inProgress) :
        ∃ link e, result (next inner y) d = (.ok link, e) ∧ e.inProgress = c.inProgress := by
      obtain ⟨link, e, hlink, he⟩ := hnext inner y d (.keyword hx hy) hd
      exact ⟨link, e, hlink, he.trans hd⟩
    obtain ⟨d, hd⟩ := inOrder_ok (I := fun d => d.inProgress = c.inProgress) hhandle rfl
    obtain ⟨l, hl⟩ := traverse_ok hd
    refine ⟨.keywords l, d, ?_⟩
    rw [contentNode, result_bind, hl]
    rfl
  | _ => exact ⟨_, _, rfl⟩

/-- A key that can be reached is new only if not all of them are in progress. -/
theorem length_inProgress_lt {keys : Finset String} {key : String} (hkey : key ∈ keys) (hnew : key ∉ c.inProgress)
    (hnodup : c.inProgress.Nodup) (hprogress : ∀ k ∈ c.inProgress, k ∈ keys) : c.inProgress.length < keys.card := by
  have hsubset : (key :: c.inProgress).toFinset ⊆ keys := by
    intro k hk
    rcases List.mem_cons.mp (List.mem_toFinset.mp hk) with rfl | hk
    · exact hkey
    · exact hprogress k hk
  calc c.inProgress.length
    _ < (key :: c.inProgress).length := Nat.lt_succ_self _
    _ = (key :: c.inProgress).toFinset.card := (List.toFinset_card_of_nodup (List.nodup_cons.mpr ⟨hnew, hnodup⟩)).symm
    _ ≤ keys.card := Finset.card_le_card hsubset

/-- With a level for each key that can be reached, compiling a place does not fail. -/
theorem compileAt_ok {keys : Finset String} (hkeys : reachableKeys digest o.library scope x ⊆ keys)
    (hnodup : c.inProgress.Nodup) (hprogress : ∀ key ∈ c.inProgress, key ∈ keys)
    (hdepth : keys.card ≤ depth + c.inProgress.length) :
    ∃ link e, result (compileAt digest o stored depth scope x) c = (.ok link, e) := by
  induction depth generalizing scope x c with
  | zero =>
    cases hnew : c.link? stored (planKey digest scope x) with
    | some link => exact ⟨link, c, result_compileAt_of_known hnew⟩
    | none =>
      -- all keys are in progress, so none of them can be new
      have hroom := length_inProgress_lt (hkeys Reachable.here.mem_reachableKeys) (not_mem_inProgress_of_unknown hnew)
        hnodup hprogress
      omega
  | succ depth ih =>
    cases hnew : c.link? stored (planKey digest scope x) with
    | some link => exact ⟨link, c, result_compileAt_of_known hnew⟩
    | none =>
      have hkey : planKey digest scope x ∈ keys := hkeys Reachable.here.mem_reachableKeys
      have hnext (t : Scope) (z : Subschema) (d : Compilation) (hz : Needs o.library scope x t z)
          (hd : d.inProgress = planKey digest scope x :: c.inProgress) :
          ∃ link e, result (compileAt digest o stored depth t z) d = (.ok link, e) ∧ e.inProgress = d.inProgress := by
        obtain ⟨link, e, hlink⟩ := ih (c := d) (hz.reachableKeys_subset.trans hkeys)
          (by rw [hd]; exact List.nodup_cons.mpr ⟨not_mem_inProgress_of_unknown hnew, hnodup⟩)
          (by rw [hd]; exact List.forall_mem_cons.mpr ⟨hkey, hprogress⟩)
          (by rw [hd, List.length_cons]; omega)
        exact ⟨link, e, hlink, compileAt_progress (inProgress_progress o stored) depth hlink⟩
      obtain ⟨n, e, hnode⟩ := contentNode_ok (c := c.begin (planKey digest scope x)) hnext
      exact ⟨_, _, result_compileAt_of_node hnew hnode⟩

/-! ## No key is begun twice -/

/-- A key that is new beside a table is new without it. -/
theorem link?_nil_of_unknown {key : String} (h : c.link? stored key = none) : c.link? [] key = none := by
  by_contra hlink
  obtain ⟨link, hlink⟩ := Option.ne_none_iff_exists'.mp hlink
  have hknown : key ∈ c.known stored := by
    have hkey : key ∈ c.known [] := (link?_eq_some hlink).2
    rw [known, List.append_assoc]
    exact List.mem_append_right _ hkey
  exact not_mem_known_of_unknown h hknown

/-- What compilations from scratch keep to, they keep to beside a table. -/
theorem Progress.of_nil {L : Compilation → Compilation → Prop} (h : Progress o [] L) : Progress o stored L where
  refl := h.refl
  trans := h.trans
  note := h.note
  make := fun hnew => h.make (link?_nil_of_unknown hnew)

/-- A key with which the compilation begins is not stored. -/
theorem not_stored_of_mem_begun {as : List Arrival} {key : String} (h : key ∈ begun digest stored as) :
    key ∉ stored.map (·.1) := by
  obtain ⟨a, -, hbegins, rfl⟩ := exists_of_mem_begun h
  rw [Arrival.begins, Bool.and_eq_true, Option.isNone_iff_eq_none] at hbegins
  exact fun hstored => not_mem_known_of_unknown hbegins.1 (List.mem_append_left _ (List.mem_append_left _ hstored))

/-- **No key is begun twice.** -/
theorem nodup_begun {link : Link} (h : result (compileAt digest o stored depth scope x) .start = (.ok link, e)) :
    (begun digest stored (arrivals digest o stored depth scope x .start)).Nodup := by
  have hperm : List.Perm e.freshKeys (begun digest stored (arrivals digest o stored depth scope x .start)) :=
    (fresh_perm_begun h).perm
  have hknown : (e.known []).Nodup :=
    (compileAt_progress (nodup_known_progress o []).of_nil depth h List.nodup_nil).1
  rw [known, List.map_nil, List.nil_append] at hknown
  exact hperm.nodup_iff.mp hknown.of_append_left

/-! ## Compiling a schema -/

/-- The keys of the places that can be reached from a schema. -/
def schemaKeys (digest : String → String) (library : Library) (base : Option Url) (schema : Json) : Set String :=
  reachableKeys digest library { root := schema, base } (.schema schema)

namespace PlanCache

/-- The arrivals in compiling a schema with the cache. -/
def arrivals (digest : String → String) (c : PlanCache) (o : Options) (schema : Json) : List Arrival :=
  JsonSchema.arrivals digest o c.table o.maxDepth { root := schema, base := o.baseUri } (.schema schema) .start

variable {c : PlanCache} {schema : Json} {root : Link} {done : Compilation}

/-- The nodes of a handle are those of the cache, and one for each key that was begun. -/
theorem nodes_perm_begun (h : compilation digest c o schema = (.ok root, done)) :
    List.Perm ((c.install o root done).1.nodes.map (·.1))
      (c.table.map (·.1) ++ begun digest c.table (c.arrivals digest o schema)) := by
  have hfresh : List.Perm done.freshKeys (begun digest c.table (c.arrivals digest o schema)) := (fresh_perm_begun h).perm
  have hnodes : List.Perm ((c.install o root done).1.nodes.map (·.1)) (c.table.map (·.1) ++ done.freshKeys) := by
    rw [freshKeys, ← List.map_append]
    exact (nodes_install_perm c root done).map _
  exact hnodes.trans (hfresh.append_left _)

/-- **Recursive schemas compile.** If finitely many keys can be reached from a schema, and there is a level for each of
them, compiling it does not fail, whatever the cache holds. On the way no key is begun twice, and none that is stored:
the handle has one node for each of them, beside those of the cache. At each arrival, as many levels have been entered
as keys are in progress, and these are all different. -/
theorem compile_recursive (digest : String → String) (c : PlanCache) (o : Options) (schema : Json)
    (hfinite : (schemaKeys digest o.library o.baseUri schema).Finite)
    (hdepth : (schemaKeys digest o.library o.baseUri schema).ncard ≤ o.maxDepth) :
    let run := c.arrivals digest o schema
    (∃ plan, (c.compile digest o schema).1.outcome = .ok plan ∧
      List.Perm (plan.nodes.map (·.1)) (c.table.map (·.1) ++ begun digest c.table run)) ∧
    (begun digest c.table run).Nodup ∧ (∀ key ∈ begun digest c.table run, key ∉ c.table.map (·.1)) ∧
    ∀ a ∈ run, a.left + a.state.inProgress.length = o.maxDepth ∧ a.state.inProgress.Nodup := by
  intro run
  have hcard : hfinite.toFinset.card ≤ o.maxDepth + start.inProgress.length := by
    rwa [← Set.ncard_eq_toFinset_card _ hfinite]
  obtain ⟨root, done, hrun⟩ : ∃ root done, compilation digest c o schema = (.ok root, done) :=
    compileAt_ok hfinite.coe_toFinset.ge List.nodup_nil (by simp [start]) hcard
  refine ⟨⟨(c.install o root done).1, ?_, nodes_perm_begun hrun⟩, nodup_begun hrun, fun key => not_stored_of_mem_begun,
    fun a ha => ?_⟩
  · rw [compile_of_ok hrun]
  · obtain ⟨hleft, hnodup⟩ := levels_of_mem_arrivals List.nodup_nil ha
    exact ⟨hleft, hnodup⟩

/-- A list: each node may have a next one, which is a list again. -/
def chain : Json := .object [("properties", .object [("next", .object [("$ref", .string "#")])])]

/-- From there two places can be reached, the whole and the reference back to it. -/
theorem reachable_chain {library : Library} {s : Scope} {y : Subschema}
    (h : Reachable library { root := chain, base := none } (.schema chain) s y) :
    s = { root := chain, base := none } ∧ (y = .schema chain ∨ y = .schema (.object [("$ref", .string "#")])) := by
  induction h with
  | here => exact ⟨rfl, .inl rfl⟩
  | next _ hz ih =>
    obtain ⟨rfl, rfl | rfl⟩ := ih
    · cases hz with
      | keyword hx hy =>
        cases hx
        exact ⟨rfl, .inr (List.mem_singleton.mp hy)⟩
      | target hx _ => exact nomatch hx
    · cases hz with
      | keyword hx _ => exact nomatch hx
      | target hx htarget =>
        cases hx
        cases htarget
        exact ⟨rfl, .inl rfl⟩

/-- Two levels are enough for it. -/
theorem compile_recursive_chain :
    let first := Options.withFormats .empty
    let o : Options := { first with maxDepth := 2 }
    let keys := schemaKeys id o.library o.baseUri chain
    keys.Finite ∧ keys.ncard ≤ o.maxDepth ∧
      (∃ plan, (PlanCache.empty.compile id o chain).1.outcome = .ok plan) ∧
      (begun id [] (PlanCache.empty.arrivals id o chain)).length = 2 ∧
      ∀ a ∈ PlanCache.empty.arrivals id o chain, a.left + a.state.inProgress.length = o.maxDepth := by
  intro first o keys
  have hsubset : keys ⊆ {planKey id { root := chain, base := none } (.schema chain),
      planKey id { root := chain, base := none } (.schema (.object [("$ref", .string "#")]))} := by
    rintro key ⟨s, y, hreach, rfl⟩
    obtain ⟨rfl, rfl | rfl⟩ := reachable_chain hreach
    · exact Set.mem_insert _ _
    · exact Set.mem_insert_of_mem _ rfl
  have hfinite : keys.Finite := (Set.toFinite _).subset hsubset
  have hcard : keys.ncard ≤ 2 := (Set.ncard_le_ncard hsubset).trans (Set.ncard_insert_le _ _ |>.trans (by simp))
  obtain ⟨⟨plan, hplan, -⟩, -, -, hlevels⟩ := compile_recursive id .empty o chain hfinite hcard
  exact ⟨hfinite, hcard, ⟨plan, hplan⟩, by decide +kernel, fun a ha => (hlevels a ha).1⟩

end PlanCache

end JsonSchema
