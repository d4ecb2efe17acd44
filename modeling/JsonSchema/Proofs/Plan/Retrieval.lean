import JsonSchema.Proofs.Plan.Kept
import JsonSchema.Proofs.Plan.Steps

/-!
# Failed retrievals are not kept

A reference may need a document that is not there today and is there tomorrow. A compilation that meets such a
reference, however deep, leaves the cache as it was, so no plan of the cache ever reports that failure.

## What is here

* `Meets` — the references that compiling a place comes to, in the order in which it goes through the schema and past
  what is known already.
* `missed_iff_meets` — **a compilation notes a failure exactly if it meets a reference that needs what is not there**.
* `PlanCache.after` — a cache after calls, each with options of its own. `PlanCache.Leads` — the keys to which links
  lead.
* `PlanCache.failed_retrieval_not_kept` — **such a call leaves the cache as it was, and no plan reached from a plan of
  the cache reports the failure**.
-/

set_option autoImplicit false

namespace JsonSchema

open Compilation Compiling

variable {digest : String → String} {o : Options} {stored : PlanTable} {c e : Compilation}

/-! ## The references that are met -/

/-- Compiling a place in a state comes to a reference, in the scope that is read last. Places with a known key are
passed over. -/
inductive Meets (digest : String → String) (o : Options) (stored : PlanTable) :
    Nat → Scope → Subschema → Compilation → Scope → String → Prop where
  | here {depth scope x c inner uri} (hnew : c.link? stored (planKey digest scope x) = none)
    (hx : content scope x = .reference inner uri) : Meets digest o stored (depth + 1) scope x c inner uri
  | target {depth scope x c inner uri target s u} (hnew : c.link? stored (planKey digest scope x) = none)
    (hx : content scope x = .reference inner uri) (htarget : (inner.resolve o.library uri).outcome = .ok target)
    (h : Meets digest o stored depth target.scope (.schema target.node)
      ((c.begin (planKey digest scope x)).note uri (inner.resolve o.library uri)) s u) :
    Meets digest o stored (depth + 1) scope x c s u
  | keyword {depth scope x c inner k before y behind d s u} (hnew : c.link? stored (planKey digest scope x) = none)
    (hx : content scope x = .keywords inner k) (hk : k.handles = before ++ y :: behind)
    (hbefore : result (inOrder (compileAt digest o stored depth inner) before) (c.begin (planKey digest scope x)) =
      (.ok (), d))
    (h : Meets digest o stored depth inner y d s u) : Meets digest o stored (depth + 1) scope x c s u

/-- What is made of a place that has not been known. -/
theorem result_node_of_unknown {depth : Nat} {scope : Scope} {x : Subschema} {link : Link}
    (hnew : c.link? stored (planKey digest scope x) = none)
    (hrun : result (compileAt digest o stored depth scope x) c = (.ok link, e)) :
    ∃ depth' n d, depth = depth' + 1 ∧
      result (contentNode o (compileAt digest o stored depth') (content scope x)) (c.begin (planKey digest scope x)) =
        (.ok n, d) ∧
      e = d.finish (planKey digest scope x) n := by
  obtain ⟨depth', n, d, hdepth, hnode, -, he⟩ := result_compileAt_of_unknown hnew hrun
  rw [node_eq] at hnode
  exact ⟨depth', n, d, hdepth, hnode, he⟩

/-- A failure on the way is noted. -/
theorem Meets.missed {depth : Nat} {scope s : Scope} {x : Subschema} {u : String} {link : Link}
    (h : Meets digest o stored depth scope x c s u) (hlacks : s.Lacks o.library u)
    (hrun : result (compileAt digest o stored depth scope x) c = (.ok link, e)) : e.missed = true := by
  have hkeeps := missed_progress o stored
  induction h generalizing link e with
  | @here depth scope x c inner uri hnew hx =>
    obtain ⟨_, n, d, hdepth, hnode, rfl⟩ := result_node_of_unknown hnew hrun
    cases hdepth
    show d.missed = true
    rw [hx] at hnode
    have hnoted : ((c.begin (planKey digest scope x)).note uri (inner.resolve o.library uri)).missed = true :=
      (missed_note _).mpr (Or.inr hlacks)
    rcases result_reference hnode with ⟨f, -, -, rfl⟩ | ⟨target, link, -, hlink, -⟩
    · exact hnoted
    · exact compileAt_progress hkeeps depth hlink hnoted
  | @target depth scope x c inner uri target s u hnew hx htarget h ih =>
    obtain ⟨_, n, d, hdepth, hnode, rfl⟩ := result_node_of_unknown hnew hrun
    cases hdepth
    show d.missed = true
    rw [hx] at hnode
    rcases result_reference hnode with ⟨f, hfailed, -⟩ | ⟨target', link, htarget', hlink, -⟩
    · cases hfailed.symm.trans htarget
    · cases htarget'.symm.trans htarget
      exact ih hlacks hlink
  | @keyword depth scope x c inner k before y behind d s u hnew hx hk hbefore h ih =>
    obtain ⟨_, n, e, hdepth, hnode, rfl⟩ := result_node_of_unknown hnew hrun
    cases hdepth
    show e.missed = true
    rw [hx] at hnode
    obtain ⟨l, hl, -⟩ := result_keywords hnode
    have horder := result_inOrder hl
    rw [hk] at horder
    obtain ⟨d', hbefore', hrest⟩ := result_inOrder_append horder
    cases hbefore'.symm.trans hbefore
    obtain ⟨link, d'', hlink, hbehind⟩ := result_inOrder_cons hrest
    have hmissed : d''.missed = true := ih hlacks hlink
    exact inOrder_leads (L := fun c d => c.missed = true → d.missed = true) hkeeps.refl hkeeps.trans
      (fun y c link d => compileAt_progress hkeeps depth) hbehind hmissed

/-- Where a failure is noted while going through a list, there is a first element at which it is. -/
theorem exists_of_missed_inOrder {S T : Type} {f : S → Compiling T} {xs : List S} (hc : c.missed = false)
    (hrun : result (inOrder f xs) c = (.ok (), e)) (he : e.missed = true) :
    ∃ before y behind d z d', xs = before ++ y :: behind ∧ result (inOrder f before) c = (.ok (), d) ∧
      result (f y) d = (.ok z, d') ∧ d.missed = false ∧ d'.missed = true := by
  induction xs generalizing c with
  | nil =>
    obtain ⟨-, rfl⟩ := Prod.mk.inj hrun
    rw [hc] at he
    cases he
  | cons x xs ih =>
    obtain ⟨z, d, hx, hxs⟩ := result_inOrder_cons hrun
    cases hd : d.missed with
    | true => exact ⟨[], x, xs, c, z, d, rfl, rfl, hx, hc, hd⟩
    | false =>
      obtain ⟨before, y, behind, v, w, v', rfl, hbefore, hy, hv, hv'⟩ := ih hd hxs
      refine ⟨x :: before, y, behind, v, w, v', rfl, ?_, hy, hv, hv'⟩
      rw [inOrder, result_bind, hx]
      exact hbefore

/-- What is noted has been met. -/
theorem exists_meets_of_missed {depth : Nat} {scope : Scope} {x : Subschema} {link : Link} (hc : c.missed = false)
    (hrun : result (compileAt digest o stored depth scope x) c = (.ok link, e)) (he : e.missed = true) :
    ∃ s u, Meets digest o stored depth scope x c s u ∧ s.Lacks o.library u := by
  induction depth using Nat.strong_induction_on generalizing scope x c link e with
  | _ depth ih =>
    cases hknown : c.link? stored (planKey digest scope x) with
    | some found =>
      rw [result_compileAt_of_known hknown] at hrun
      obtain ⟨-, rfl⟩ := Prod.mk.inj hrun
      rw [hc] at he
      cases he
    | none =>
      obtain ⟨depth', n, d, rfl, hnode, rfl⟩ := result_node_of_unknown hknown hrun
      have ih {c e scope x link} := @ih depth' (Nat.lt_succ_self depth') c e scope x link
      have hbegin : (c.begin (planKey digest scope x)).missed = false := hc
      have hd : d.missed = true := he
      cases hx : content scope x with
      | reference inner uri =>
        rw [hx] at hnode
        by_cases hlacks : inner.Lacks o.library uri
        · exact ⟨inner, uri, .here hknown hx, hlacks⟩
        · have hnoted : ((c.begin (planKey digest scope x)).note uri (inner.resolve o.library uri)).missed = false := by
            rw [← Bool.not_eq_true, missed_note, not_or]
            exact ⟨by simp [hbegin], hlacks⟩
          rcases result_reference hnode with ⟨f, -, -, rfl⟩ | ⟨target, link, htarget, hlink, -⟩
          · rw [hnoted] at hd
            cases hd
          · obtain ⟨s, u, hmeets, hs⟩ := ih hnoted hlink hd
            exact ⟨s, u, .target hknown hx htarget hmeets, hs⟩
      | keywords inner k =>
        rw [hx] at hnode
        obtain ⟨l, hl, -⟩ := result_keywords hnode
        obtain ⟨before, y, behind, v, w, v', hk, hbefore, hy, hv, hv'⟩ :=
          exists_of_missed_inOrder hbegin (result_inOrder hl) hd
        obtain ⟨s, u, hmeets, hs⟩ := ih hv hy hv'
        exact ⟨s, u, .keyword hknown hx hk hbefore hmeets, hs⟩
      | _ =>
        rw [hx] at hnode
        obtain ⟨-, rfl⟩ := Prod.mk.inj hnode
        rw [hbegin] at hd
        cases hd

/-- **A compilation notes a failure exactly if it meets a reference that needs what is not there.** -/
theorem missed_iff_meets {depth : Nat} {scope : Scope} {x : Subschema} {link : Link} (hc : c.missed = false)
    (hrun : result (compileAt digest o stored depth scope x) c = (.ok link, e)) :
    e.missed = true ↔ ∃ s u, Meets digest o stored depth scope x c s u ∧ s.Lacks o.library u :=
  ⟨exists_meets_of_missed hc hrun, fun ⟨_, _, hmeets, hlacks⟩ => hmeets.missed hlacks hrun⟩

/-! ## The nodes that are made -/

/-- As long as no failure is noted, no node reports one. -/
def Compilation.Supplied (c : Compilation) : Prop := c.missed = false → ∀ m ∈ c.fresh, ¬ m.2.Unsupplied

theorem supplied_progress (o : Options) (stored : PlanTable) :
    Progress o stored fun c d => c.Supplied → d.Supplied where
  refl := fun _ h => h
  trans := fun hcd hde h => hde (hcd h)
  note := by
    intro c scope uri h hmissed
    refine h ?_
    rw [← Bool.not_eq_true] at hmissed ⊢
    exact fun hc => hmissed ((missed_note c).mpr (Or.inl hc))
  make := by
    intro c d key n _ hleads hnoted h hmissed m hm
    rcases List.mem_append.mp hm with hm | hm
    · exact hleads h hmissed m hm
    · rw [List.mem_singleton.mp hm]
      intro hn
      have hd : d.missed = false := hmissed
      rw [hnoted hn] at hd
      cases hd

/-! ## Caches -/

namespace PlanCache

variable {schema : Json}

/-- Compiling a schema with the cache comes to a reference. -/
def Meets (digest : String → String) (c : PlanCache) (o : Options) (schema : Json) : Scope → String → Prop :=
  JsonSchema.Meets digest o c.table o.maxDepth { root := schema, base := o.baseUri } (.schema schema) .start

/-- A cache after calls, each with options of its own. Handles on the same cache share it, so calls by any of them
count. -/
def after (digest : String → String) (c : PlanCache) (calls : List (Options × Json)) : PlanCache :=
  calls.foldl (fun c call => (c.compile digest call.1 call.2).2) c

theorem after_append (c : PlanCache) (calls later : List (Options × Json)) :
    c.after digest (calls ++ later) = (c.after digest calls).after digest later :=
  List.foldl_append

/-- What compiling keeps to holds after all calls. -/
theorem after_induction {I : PlanCache → Prop} (hcompile : ∀ c o schema, I c → I (c.compile digest o schema).2)
    {c : PlanCache} (hc : I c) (calls : List (Options × Json)) : I (c.after digest calls) := by
  induction calls generalizing c with
  | nil => exact hc
  | cons call calls ih => exact ih (hcompile c call.1 call.2 hc)

/-- The keys to which links lead from a key. -/
inductive Leads (c : PlanCache) (key : String) : String → Prop where
  | here : Leads c key key
  | next {k : String} {n : PlanNode} {link : Link} (h : Leads c key k) (hn : c.table.lookup k = some n)
    (hlink : link ∈ n.links) : Leads c key link.key

/-- A table that is closed under links, and where no node reports a failed retrieval. -/
structure Sound (c : PlanCache) : Prop where
  settled : PlanTable.Settled c.table
  supplied : ∀ m ∈ c.table, ¬ m.2.Unsupplied

theorem Sound.empty : Sound .empty where
  settled := fun _ hm => absurd hm List.not_mem_nil
  supplied := fun _ hm => absurd hm List.not_mem_nil

theorem Sound.compile {c : PlanCache} (hc : c.Sound) (o : Options) (schema : Json) :
    (c.compile digest o schema).2.Sound := by
  refine ⟨settled_of_compile hc.settled, ?_⟩
  rcases compile_table digest c o schema with heq | ⟨root, done, hrun, hmissed, htable⟩
  · rw [heq]
    exact hc.supplied
  · have hstart : Compilation.start.Supplied := fun _ _ hm => absurd hm List.not_mem_nil
    have hdone : done.Supplied := compileAt_progress (supplied_progress o c.table) o.maxDepth hrun hstart
    rw [htable]
    intro m hm
    rcases List.mem_append.mp hm with hm | hm
    · exact hc.supplied m hm
    · exact hdone hmissed m hm

theorem Sound.exists_lookup {c : PlanCache} (hc : c.Sound) {key : String} (hkey : key ∈ c.table.map (·.1)) :
    ∃ n, c.table.lookup key = some n ∧ ¬ n.Unsupplied ∧ ∀ link ∈ n.links, link.key ∈ c.table.map (·.1) := by
  obtain ⟨n, hn, hmem⟩ := exists_lookup_of_mem_keys hkey
  exact ⟨n, hn, hc.supplied _ hmem, (hc.settled _ hmem).links⟩

theorem Sound.mem_keys_of_leads {c : PlanCache} (hc : c.Sound) {key k : String} (hkey : key ∈ c.table.map (·.1))
    (h : c.Leads key k) : k ∈ c.table.map (·.1) := by
  induction h with
  | here => exact hkey
  | next _ hn hlink ih =>
    obtain ⟨n, hn', -, hlinks⟩ := hc.exists_lookup ih
    cases hn'.symm.trans hn
    exact hlinks _ hlink

/-- The cache is left as it was by a call that meets a reference which needs what is not there. -/
theorem compile_eq_of_meets {c : PlanCache} {scope : Scope} {uri : String} (h : c.Meets digest o schema scope uri)
    (hlacks : scope.Lacks o.library uri) : (c.compile digest o schema).2 = c := by
  rcases compile_table digest c o schema with heq | ⟨root, done, hrun, hmissed, -⟩
  · exact heq
  · rw [h.missed hlacks hrun] at hmissed
    cases hmissed

/-- **Failed retrievals are not kept.** After all calls, with whatever documents were there at the time: a call that
meets a reference which needs a document, or a place in it, that is not there leaves the cache as it was; and links
from the plans of the cache lead to no plan that reports such a failure. -/
theorem failed_retrieval_not_kept (digest : String → String) (calls : List (Options × Json)) :
    let c := PlanCache.empty.after digest calls
    (∀ o schema scope uri, c.Meets digest o schema scope uri → scope.Lacks o.library uri →
      (c.compile digest o schema).2 = c) ∧
    ∀ key ∈ c.table.map (·.1), ∀ k, c.Leads key k →
      ∃ n, c.table.lookup k = some n ∧ ∀ uri reason, n = .fault (.unresolvable uri reason) → Scope.isLocal uri = true := by
  intro c
  refine ⟨fun o schema scope uri => compile_eq_of_meets, fun key hkey k hleads => ?_⟩
  have hc : c.Sound := after_induction (fun c o schema hc => hc.compile o schema) Sound.empty calls
  obtain ⟨n, hn, hsupplied, -⟩ := hc.exists_lookup (hc.mem_keys_of_leads hkey hleads)
  refine ⟨n, hn, fun uri reason hfault => ?_⟩
  rw [← Bool.not_eq_false]
  exact fun hlocal => hsupplied ⟨uri, reason, hfault, hlocal⟩

/-- No document is there, so a schema that refers to one leaves the cache with the plan that it has. -/
theorem failed_retrieval_not_kept_string :
    let o := Options.withFormats .empty
    let c := PlanCache.empty.after id [(o, .object [("type", .string "string")])]
    c.size = 1 ∧ (c.compile id o (.object [("$ref", .string "app:/d")])).2 = c := by
  intro o c
  refine ⟨by decide +kernel, ?_⟩
  refine (failed_retrieval_not_kept id [(o, .object [("type", .string "string")])]).1 o _
    { root := .object [("$ref", .string "app:/d")], base := none } "app:/d" (.here (by decide +kernel) rfl) ⟨by decide, ?_⟩
  exact ⟨_, rfl, fun document h => nomatch h⟩

end PlanCache

end JsonSchema
