import JsonSchema.Proofs.Plan.Unique

/-!
# The course of a compilation

A compilation comes to one place after the other: to the target of a reference, or to the schemas in a schema object,
from left to right. If the key of a place is new, the compilation begins with it and goes on from there; if not, it
takes the link and turns back.

## What is here

* `Needs`, `Reachable` — the places that a place leads to, whatever has been compiled before, and `reachableKeys`.
* `Arrival`, `arrivals` — the places to which a compilation comes, in order, each with the state in which it gets there.
  `begun` — the keys with which it begins.
* `Calls` — from one arrival to one that follows from it. `forall_mem_arrivals` — **what each such step keeps to holds of
  all arrivals**.
* `fresh_perm_begun` — **the keys of new nodes are the keys with which the compilation began**.
-/

set_option autoImplicit false

namespace JsonSchema

open Compilation Compiling

/-! ## Places that are needed -/

/-- A place needs others: the schemas in its keywords, or the target of its reference, each in the scope it is reached
in. -/
inductive Needs (library : Library) : Scope → Subschema → Scope → Subschema → Prop where
  | keyword {scope x inner k y} (hx : content scope x = .keywords inner k) (hy : y ∈ k.handles) :
    Needs library scope x inner y
  | target {scope x inner uri target} (hx : content scope x = .reference inner uri)
    (h : (inner.resolve library uri).outcome = .ok target) : Needs library scope x target.scope (.schema target.node)

/-- The places that can be reached from a place. -/
inductive Reachable (library : Library) (scope : Scope) (x : Subschema) : Scope → Subschema → Prop where
  | here : Reachable library scope x scope x
  | next {s y t z} (h : Reachable library scope x s y) (hz : Needs library s y t z) : Reachable library scope x t z

/-- Their keys. -/
def reachableKeys (digest : String → String) (library : Library) (scope : Scope) (x : Subschema) : Set String :=
  {key | ∃ s y, Reachable library scope x s y ∧ planKey digest s y = key}

section

variable {digest : String → String} {library : Library} {scope s t : Scope} {x y z : Subschema}

theorem Reachable.trans (h : Reachable library scope x s y) (hz : Reachable library s y t z) :
    Reachable library scope x t z := by
  induction hz with
  | here => exact h
  | next _ hz ih => exact .next ih hz

theorem Needs.reachable (h : Needs library s y t z) : Reachable library s y t z := .next .here h

theorem Reachable.mem_reachableKeys (h : Reachable library scope x s y) :
    planKey digest s y ∈ reachableKeys digest library scope x := ⟨s, y, h, rfl⟩

/-- What a needed place needs is needed before. -/
theorem Needs.reachableKeys_subset (h : Needs library s y t z) :
    reachableKeys digest library t z ⊆ reachableKeys digest library s y := by
  rintro key ⟨u, w, hw, rfl⟩
  exact (h.reachable.trans hw).mem_reachableKeys

/-- What is kept to by entering schemas and following references holds of the scopes of all places. -/
theorem Needs.steady {P : Scope → Prop} (hP : Steady P) (h : Needs library s y t z) (hs : P s) : P t := by
  cases h with
  | keyword hx _ => exact (keywords_of_content hP hs hx).1
  | target hx htarget => exact hP.resolve (reference_of_content hP hs hx).1 htarget

theorem Reachable.steady {P : Scope → Prop} (hP : Steady P) (h : Reachable library scope x s y) (hscope : P scope) :
    P s := by
  induction h with
  | here => exact hscope
  | next _ hz ih => exact hz.steady hP ih

end

/-! ## Arrivals -/

/-- A compilation comes to a place: the levels that may still be entered, the place, and what has been done so far. -/
structure Arrival where
  left : Nat
  scope : Scope
  place : Subschema
  state : Compilation

/-- The key of the place. -/
def Arrival.key (digest : String → String) (a : Arrival) : String := planKey digest a.scope a.place

/-- Whether the compilation begins with the place: its key is new, and another level may be entered. -/
def Arrival.begins (digest : String → String) (stored : PlanTable) (a : Arrival) : Bool :=
  (a.state.link? stored (a.key digest)).isNone && a.left != 0

/-- The keys with which a compilation begins, in order. -/
def begun (digest : String → String) (stored : PlanTable) (as : List Arrival) : List String :=
  (as.filter (·.begins digest stored)).map (·.key digest)

/-- The arrivals in going through a list, which ends where a step fails. -/
def arrivalsInOrder {S T : Type} (f : S → Compiling T) (arrivals : S → Compilation → List Arrival) :
    List S → Compilation → List Arrival
  | [], _ => []
  | x :: xs, c =>
    arrivals x c ++
      match result (f x) c with
      | (.ok _, d) => arrivalsInOrder f arrivals xs d
      | (.error _, _) => []

/-- The arrivals in compiling what stands at a place. -/
def contentArrivals (o : Options) (next : Scope → Subschema → Compiling Link)
    (arrivals : Scope → Subschema → Compilation → List Arrival) : Content → Compilation → List Arrival
  | .reference scope uri, c =>
    match (scope.resolve o.library uri).outcome with
    | .ok target => arrivals target.scope (.schema target.node) (c.note uri (scope.resolve o.library uri))
    | .error _ => []
  | .keywords scope k, c => arrivalsInOrder (next scope) (arrivals scope) k.handles c
  | _, _ => []

/-- All arrivals in compiling a place, itself first. -/
def arrivals (digest : String → String) (o : Options) (stored : PlanTable) :
    Nat → Scope → Subschema → Compilation → List Arrival
  | 0, scope, x, c => [⟨0, scope, x, c⟩]
  | depth + 1, scope, x, c =>
    ⟨depth + 1, scope, x, c⟩ ::
      match c.link? stored (planKey digest scope x) with
      | some _ => []
      | none =>
        contentArrivals o (compileAt digest o stored depth) (arrivals digest o stored depth) (content scope x)
          (c.begin (planKey digest scope x))

variable {digest : String → String} {o : Options} {stored : PlanTable} {depth : Nat} {scope : Scope} {x : Subschema}
  {c d e : Compilation}

theorem arrivals_of_known {link : Link} (h : c.link? stored (planKey digest scope x) = some link) :
    arrivals digest o stored depth scope x c = [⟨depth, scope, x, c⟩] := by
  cases depth with
  | zero => rw [arrivals]
  | succ depth => rw [arrivals, h]

theorem arrivals_of_unknown (h : c.link? stored (planKey digest scope x) = none) :
    arrivals digest o stored (depth + 1) scope x c = ⟨depth + 1, scope, x, c⟩ ::
      contentArrivals o (compileAt digest o stored depth) (arrivals digest o stored depth) (content scope x)
        (c.begin (planKey digest scope x)) := by
  rw [arrivals, h]

/-! ## From one arrival to the next -/

/-- An arrival at a new place brings about others: at the target of its reference, or at the schemas of its keywords,
after those before it have been compiled. -/
inductive Calls (digest : String → String) (o : Options) (stored : PlanTable) : Arrival → Arrival → Prop where
  | target {depth scope x c inner uri target} (hnew : c.link? stored (planKey digest scope x) = none)
    (hx : content scope x = .reference inner uri) (h : (inner.resolve o.library uri).outcome = .ok target) :
    Calls digest o stored ⟨depth + 1, scope, x, c⟩ ⟨depth, target.scope, .schema target.node,
      (c.begin (planKey digest scope x)).note uri (inner.resolve o.library uri)⟩
  | keyword {depth scope x c inner k before y behind d} (hnew : c.link? stored (planKey digest scope x) = none)
    (hx : content scope x = .keywords inner k) (hk : k.handles = before ++ y :: behind)
    (h : result (inOrder (compileAt digest o stored depth inner) before) (c.begin (planKey digest scope x)) =
      (.ok (), d)) :
    Calls digest o stored ⟨depth + 1, scope, x, c⟩ ⟨depth, inner, y, d⟩

/-- In going through a list, arrivals come from an element, after those before it have been gone through. -/
theorem exists_of_mem_arrivalsInOrder {S T : Type} {f : S → Compiling T} {g : S → Compilation → List Arrival}
    {xs : List S} {a : Arrival} (h : a ∈ arrivalsInOrder f g xs c) :
    ∃ before y behind d, xs = before ++ y :: behind ∧ result (inOrder f before) c = (.ok (), d) ∧ a ∈ g y d := by
  induction xs generalizing c with
  | nil => exact absurd h List.not_mem_nil
  | cons x xs ih =>
    rw [arrivalsInOrder] at h
    rcases List.mem_append.mp h with h | h
    · exact ⟨[], x, xs, c, rfl, rfl, h⟩
    · split at h
      · rename_i z d hx
        obtain ⟨before, y, behind, e, rfl, hbefore, ha⟩ := ih h
        refine ⟨x :: before, y, behind, e, rfl, ?_, ha⟩
        rw [inOrder, result_bind, hx]
        exact hbefore
      · exact absurd h List.not_mem_nil

/-- **What each step from one arrival to the next keeps to holds of all arrivals.** -/
theorem forall_mem_arrivals {I : Arrival → Prop} (hI : ∀ a b, Calls digest o stored a b → I a → I b)
    (h : I ⟨depth, scope, x, c⟩) : ∀ a ∈ arrivals digest o stored depth scope x c, I a := by
  induction depth generalizing scope x c with
  | zero =>
    intro a ha
    rw [arrivals, List.mem_singleton] at ha
    rwa [ha]
  | succ depth ih =>
    cases hnew : c.link? stored (planKey digest scope x) with
    | some link =>
      intro a ha
      rw [arrivals_of_known hnew, List.mem_singleton] at ha
      rwa [ha]
    | none =>
      intro a ha
      rw [arrivals_of_unknown hnew] at ha
      rcases List.mem_cons.mp ha with rfl | ha
      · exact h
      · cases hx : content scope x with
        | reference inner uri =>
          rw [hx, contentArrivals] at ha
          split at ha
          · rename_i target htarget
            exact ih (hI _ _ (.target hnew hx htarget) h) a ha
          · exact absurd ha List.not_mem_nil
        | keywords inner k =>
          rw [hx, contentArrivals] at ha
          obtain ⟨before, y, behind, d, hk, hbefore, ha⟩ := exists_of_mem_arrivalsInOrder ha
          exact ih (hI _ _ (.keyword hnew hx hk hbefore) h) a ha
        | _ =>
          rw [hx] at ha
          exact absurd ha List.not_mem_nil

/-- A place that is come to is needed by the one before. -/
theorem Calls.needs {a b : Arrival} (h : Calls digest o stored a b) :
    Needs o.library a.scope a.place b.scope b.place := by
  cases h with
  | target _ hx htarget => exact .target hx htarget
  | keyword _ hx hk _ => exact .keyword hx (by simp [hk])

/-- All places that a compilation comes to can be reached. -/
theorem reachable_of_mem_arrivals {a : Arrival} (h : a ∈ arrivals digest o stored depth scope x c) :
    Reachable o.library scope x a.scope a.place :=
  forall_mem_arrivals (I := fun a => Reachable o.library scope x a.scope a.place) (fun _ _ hab ha => .next ha hab.needs)
    .here a h

theorem begun_cons (a : Arrival) (as : List Arrival) :
    begun digest stored (a :: as) =
      if a.begins digest stored then a.key digest :: begun digest stored as else begun digest stored as := by
  rw [begun, List.filter_cons]
  split <;> rfl

theorem begun_append (as bs : List Arrival) :
    begun digest stored (as ++ bs) = begun digest stored as ++ begun digest stored bs := by
  rw [begun, List.filter_append, List.map_append, begun, begun]

theorem exists_of_mem_begun {as : List Arrival} {key : String} (h : key ∈ begun digest stored as) :
    ∃ a ∈ as, a.begins digest stored = true ∧ a.key digest = key := by
  obtain ⟨a, ha, rfl⟩ := List.mem_map.mp h
  exact ⟨a, List.mem_of_mem_filter ha, List.of_mem_filter ha, rfl⟩

/-! ## The new nodes -/

/-- The keys of new nodes, as far as a compilation has come. -/
def Compilation.freshKeys (c : Compilation) : List String := c.fresh.map (·.1)

/-- Between two states, nodes are added for the keys with which a compilation begins. -/
structure Adds (digest : String → String) (stored : PlanTable) (as : List Arrival) (c d : Compilation) : Prop where
  perm : List.Perm d.freshKeys (c.freshKeys ++ begun digest stored as)

theorem Adds.refl (c : Compilation) : Adds digest stored [] c c where
  perm := by rw [begun, List.filter_nil, List.map_nil, List.append_nil]

theorem Adds.trans {as bs : List Arrival} (hcd : Adds digest stored as c d) (hde : Adds digest stored bs d e) :
    Adds digest stored (as ++ bs) c e where
  perm := by
    rw [begun_append, ← List.append_assoc]
    exact hde.perm.trans (hcd.perm.append_right _)

theorem Adds.skip {a : Arrival} (ha : a.begins digest stored = false) : Adds digest stored [a] c c where
  perm := by
    rw [begun_cons, ha]
    exact (Adds.refl c).perm

/-- The node for a place is finished after all others that follow from the arrival there. -/
theorem Adds.finish {a : Arrival} {as : List Arrival} (ha : a.begins digest stored = true)
    (h : Adds digest stored as (c.begin (a.key digest)) d) (n : PlanNode) :
    Adds digest stored (a :: as) c (d.finish (a.key digest) n) where
  perm := by
    rw [begun_cons, if_pos ha]
    calc (d.finish (a.key digest) n).freshKeys
      _ = d.freshKeys ++ [a.key digest] := by simp [freshKeys, Compilation.finish]
      List.Perm _ (c.freshKeys ++ begun digest stored as ++ [a.key digest]) := h.perm.append_right _
      _ = c.freshKeys ++ (begun digest stored as ++ [a.key digest]) := List.append_assoc _ _ _
      List.Perm _ (c.freshKeys ++ a.key digest :: begun digest stored as) :=
        (List.perm_append_singleton _ _).append_left _

theorem inOrder_adds {S T : Type} {f : S → Compiling T} {g : S → Compilation → List Arrival}
    (hf : ∀ x c y d, result (f x) c = (.ok y, d) → Adds digest stored (g x c) c d) {xs : List S}
    (h : result (inOrder f xs) c = (.ok (), e)) : Adds digest stored (arrivalsInOrder f g xs c) c e := by
  induction xs generalizing c with
  | nil =>
    obtain ⟨-, rfl⟩ := Prod.mk.inj h
    exact .refl c
  | cons x xs ih =>
    obtain ⟨y, d, hx, hxs⟩ := result_inOrder_cons h
    rw [arrivalsInOrder, hx]
    exact (hf x c y d hx).trans (ih hxs)

theorem contentNode_adds {next : Scope → Subschema → Compiling Link}
    {arrivals : Scope → Subschema → Compilation → List Arrival}
    (hnext : ∀ scope x c link d, result (next scope x) c = (.ok link, d) → Adds digest stored (arrivals scope x c) c d)
    {content : Content} {n : PlanNode} (h : result (contentNode o next content) c = (.ok n, e)) :
    Adds digest stored (contentArrivals o next arrivals content c) c e := by
  cases content with
  | reference inner uri =>
    rw [contentArrivals]
    rcases result_reference h with ⟨f, hfailed, -, rfl⟩ | ⟨target, link, htarget, hlink, -⟩
    · simp only [hfailed]
      exact ⟨(Adds.refl c).perm⟩
    · simp only [htarget]
      exact ⟨(hnext _ _ _ _ _ hlink).perm⟩
  | keywords inner k =>
    obtain ⟨l, hl, -⟩ := result_keywords h
    exact inOrder_adds (hnext inner) (result_inOrder hl)
  | _ =>
    obtain ⟨-, rfl⟩ := Prod.mk.inj h
    exact .refl c

/-- **The keys of new nodes are the keys with which the compilation began.** -/
theorem fresh_perm_begun {link : Link} (h : result (compileAt digest o stored depth scope x) c = (.ok link, e)) :
    Adds digest stored (arrivals digest o stored depth scope x c) c e := by
  induction depth using Nat.strong_induction_on generalizing scope x c link e with
  | _ depth ih =>
    cases hnew : c.link? stored (planKey digest scope x) with
    | some found =>
      rw [result_compileAt_of_known hnew] at h
      obtain ⟨-, rfl⟩ := Prod.mk.inj h
      rw [arrivals_of_known hnew]
      have hturns : Arrival.begins digest stored ⟨depth, scope, x, c⟩ = false := by
        simp [Arrival.begins, Arrival.key, hnew]
      exact .skip hturns
    | none =>
      obtain ⟨depth', n, d, rfl, hnode, rfl⟩ := result_node_of_unknown hnew h
      have hnext (scope x c link d) (hlink : result (compileAt digest o stored depth' scope x) c = (.ok link, d)) :
          Adds digest stored (arrivals digest o stored depth' scope x c) c d := ih depth' (Nat.lt_succ_self depth') hlink
      have hbelow := contentNode_adds hnext hnode
      rw [arrivals_of_unknown hnew]
      have hbegins : Arrival.begins digest stored ⟨depth' + 1, scope, x, c⟩ = true := by
        simp [Arrival.begins, Arrival.key, hnew]
      exact hbelow.finish hbegins n

end JsonSchema
