import JsonSchema.Digest.Sha256
import JsonSchema.Proofs.Evaluator
import JsonSchema.Proofs.Plan.Kept

/-!
# When a plan is complete

Handles on caches and on plans come and go. A weak link keeps nothing, so its target may be given up while a plan that
leads there is still in use; the check that comes there ends with a fault of its own.

A handle that keeps plans for itself does not hold the cache. It may link to a node of the cache, though, that has a
weak link in turn, to a node that only the cache keeps. The plan is complete as long as somebody keeps such targets.

## What is here

* `Registry.Operation`, `Registry.after` — what may be done with caches and handles, and what it leads to.
* `Registry.Sound` — the invariant, `Registry.sound_after`.
* `runPlan_ends` — a plan all of whose links can be followed ends with the faults of its schema alone.
* `Registry.complete_iff` — **when all weak links have a target that is kept, and no check is incomplete**.
-/

set_option autoImplicit false

namespace JsonSchema

/-! ## Plans that can be followed -/

/-- The remit of checks that end with the faults of a schema alone. -/
def Remit.ordinary : Remit where
  records _ := True
  faults f := f.IsOrdinary

/-- What names a path comes from the schema. -/
theorem Remit.ordinary_permits (path : String) : ordinary.Permits path where
  message _ := trivial
  fault := by
    rintro f hf key rfl
    exact nomatch hf

/-- A plan all of whose links can be followed ends with the faults of its schema alone. -/
theorem runPlan_ends {o : Options} {find : Link → Option PlanNode} {R : Link → Prop} {keys : List String}
    (hR : ∀ link, R link → ∃ n, find link = some n ∧ n.Settled keys ∧ ∀ next ∈ n.links, R next) (depth : Nat)
    {link : Link} (hlink : R link) (i : Instance) (path : String) (segment : Segment) (s : ErrorSet) :
    Remit.ordinary.Ends (runPlan o find depth link i path segment s) (Remit.ordinary.Grows s) := by
  have hfollow {link : Link} {n : PlanNode} (hlink : R link) (hn : find link = some n) :
      n.Settled keys ∧ ∀ next ∈ n.links, R next := by
    obtain ⟨n', hn', h⟩ := hR link hlink
    rwa [Option.some.inj (hn.symm.trans hn')]
  have hkeeps : (SchemaGraph.plan find).Keeps Remit.ordinary fun link _ _ => R link := by
    refine { refer := fun hlink hn => ?_, hand := ?_, permits := fun _ => Remit.ordinary_permits _,
             denied := fun _ _ _ _ _ => trivial }
    · exact (hfollow hlink hn).2 _ List.mem_cons_self
    · rintro link k _ path i next j step hlink ⟨hn, rfl⟩ hnext
      obtain ⟨hsettled, hlinks⟩ := hfollow hlink hn
      exact hlinks next ((hsettled.keywords k rfl).hands hnext)
  refine runPlan_grows hkeeps (fun hlink hnone => ?_) (fun hlink hf => ?_) o depth link segment s hlink
  · obtain ⟨n, hn, -⟩ := hR _ hlink
    exact nomatch hnone.symm.trans hn
  · exact (hfollow hlink hf).1.faults _ rfl

namespace Registry

/-! ## Histories -/

/-- What may be done with caches and handles. -/
inductive Operation where
  | newCache (name : String)
  | cloneCache (source name : String)
  | dropCache (name : String)
  | compile (cache name : String) (o : Options) (schema : Json)
  | dropPlan (name : String)

variable (digest : String → String)

/-- The registry after an operation. With a cache that is not there, nothing is done. -/
def perform (r : Registry) : Operation → Registry
  | .newCache name => r.newCache name
  | .cloneCache source name => (r.cloneCache source name).getD r
  | .dropCache name => r.dropCache name
  | .compile cache name o schema => ((r.compile digest cache name o schema).map (·.2)).getD r
  | .dropPlan name => r.dropPlan name

/-- The registry after a history of operations. -/
def after (history : List Operation) : Registry := history.foldl (perform digest) .empty

/-! ## The invariant -/

/-- The nodes of all caches and of all handles are settled. -/
structure Sound (r : Registry) : Prop where
  caches : ∀ c ∈ r.caches, PlanTable.Settled c.table
  plans : ∀ m ∈ r.plans, m.2.plan.Settled

variable {digest} {r : Registry}

theorem Sound.bindCache (hr : r.Sound) (name : String) (number : Nat) : (r.bindCache name number).Sound :=
  ⟨hr.caches, hr.plans⟩

theorem Sound.dropPlan (hr : r.Sound) (name : String) : (r.dropPlan name).Sound where
  caches := hr.caches
  plans := fun m hm => hr.plans m (List.mem_of_mem_filter hm)

theorem Sound.newCache (hr : r.Sound) (name : String) : (r.newCache name).Sound := by
  refine { caches := fun c hc => ?_, plans := hr.plans }
  rcases List.mem_append.mp hc with hc | hc
  · exact hr.caches c hc
  · rw [List.mem_singleton.mp hc]
    intro m hm
    exact absurd hm (by simp [PlanCache.empty])

theorem Sound.compile (hr : r.Sound) {cache name : String} {o : Options} {schema : Json}
    {answer : Run PlanHandle × Registry} (h : r.compile digest cache name o schema = some answer) :
    answer.2.Sound := by
  unfold Registry.compile at h
  obtain ⟨number, -, h⟩ := Option.bind_eq_some_iff.mp h
  obtain ⟨c, hc, rfl⟩ := Option.map_eq_some_iff.mp h
  have hstored : PlanTable.Settled c.table := hr.caches c (List.mem_of_getElem? hc)
  have hcaches : ∀ d ∈ r.caches.set number (c.compile digest o schema).2, PlanTable.Settled d.table := by
    intro d hd
    rcases List.mem_or_eq_of_mem_set hd with hd | rfl
    · exact hr.caches d hd
    · exact PlanCache.settled_of_compile hstored
  have hdropped := hr.dropPlan name
  dsimp only
  split
  · exact ⟨hcaches, hdropped.plans⟩
  · rename_i plan hplan
    refine ⟨hcaches, fun m hm => ?_⟩
    rcases List.mem_append.mp hm with hm | hm
    · exact hdropped.plans m hm
    · rw [List.mem_singleton.mp hm]
      exact PlanCache.settled_plan_of_compile hstored hplan

/-- Each operation keeps to the invariant. -/
theorem Sound.perform (hr : r.Sound) (op : Operation) : (r.perform digest op).Sound := by
  cases op with
  | newCache name => exact hr.newCache name
  | cloneCache source name =>
    simp only [Registry.perform, cloneCache]
    cases r.handles.lookup source with
    | none => exact hr
    | some number => exact hr.bindCache name number
  | dropCache name => exact ⟨hr.caches, hr.plans⟩
  | compile cache name o schema =>
    rw [Registry.perform]
    cases h : r.compile digest cache name o schema with
    | none => exact hr
    | some answer => exact hr.compile h
  | dropPlan name => exact hr.dropPlan name

/-- What each operation keeps to holds after all operations. -/
theorem perform_induction {I : Registry → Prop} (hperform : ∀ r op, I r → I (r.perform digest op)) (hr : I r)
    (history : List Operation) : I (history.foldl (perform digest) r) := by
  induction history generalizing r with
  | nil => exact hr
  | cons op history ih => exact ih (hperform r op hr)

/-- Each history does. -/
theorem sound_after (digest : String → String) (history : List Operation) : (after digest history).Sound := by
  have hempty : Registry.empty.Sound := ⟨fun c hc => absurd hc (by simp [empty]), fun m hm => absurd hm (by simp [empty])⟩
  exact perform_induction (fun r op hr => hr.perform op) hempty history

/-! ## What is kept -/

/-- Somebody keeps the node of a cache: the cache is held as a whole, or some handle keeps the node with its own. -/
def Keeps (r : Registry) (number : Nat) (key : String) : Prop :=
  r.holdsCache number = true ∨
    ∃ m ∈ r.plans, m.2.cache = number ∧ m.2.plan.Keeps key ∧ key ∉ m.2.plan.own.map (·.1)

theorem isKept_iff (hr : r.Sound) {number : Nat} {key : String} : r.isKept number key = true ↔ r.Keeps number key := by
  simp only [isKept, Keeps, Bool.or_eq_true, List.any_eq_true, Bool.and_eq_true, beq_iff_eq, List.contains_iff_mem]
  refine or_congr_right ⟨?_, ?_⟩
  · rintro ⟨m, hm, hcache, hheld⟩
    exact ⟨m, hm, hcache, (hr.plans m hm).mem_held_iff.mp hheld⟩
  · rintro ⟨m, hm, hcache, hkeeps⟩
    exact ⟨m, hm, hcache, (hr.plans m hm).mem_held_iff.mpr hkeeps⟩

end Registry

namespace CompiledPlan

variable {p : CompiledPlan} {alive : String → Bool}

/-- The target of a weak link is there as long as the handle or somebody else keeps it. -/
theorem Settled.exists_follow?_weak_iff (hp : p.Settled) {key : String} (h : p.Reaches (.weak key)) :
    (∃ n, p.follow? alive (.weak key) = some n) ↔ key ∈ p.own.map (·.1) ∨ alive key = true := by
  obtain ⟨n, hn⟩ : ∃ n, p.node? key = some n := (hp.exists_node? h).imp fun _ => And.left
  rw [mem_keys_iff]
  simp only [follow?, hn, Bool.or_eq_true]
  by_cases hkept : (p.own.lookup key).isSome = true ∨ alive key = true
  · rw [if_pos hkept]
    exact ⟨fun _ => hkept, fun _ => ⟨n, rfl⟩⟩
  · rw [if_neg hkept]
    refine ⟨?_, fun h => absurd h hkept⟩
    rintro ⟨n, hnone⟩
    cases hnone

/-- A check on a plan whose weak links all have a target is complete. -/
theorem Settled.checkWhile_ne_incompletePlan (hp : p.Settled)
    (h : ∀ key, p.Reaches (.weak key) → ∃ n, p.follow? alive (.weak key) = some n) (value : Json) (key : String) :
    p.checkWhile alive value ≠ .error (.incompletePlan key) := by
  have hfollow (link : Link) (hlink : p.Reaches link) :
      ∃ n, p.follow? alive link = some n ∧ n.Settled (p.nodes.map (·.1)) ∧ ∀ next ∈ n.links, p.Reaches next := by
    obtain ⟨n, hn, hsettled⟩ := hp.exists_node? hlink
    refine ⟨n, ?_, hsettled, fun next hnext => .next hlink hn hnext⟩
    cases link with
    | strong key => exact hn
    | weak key =>
      have hkept := (hp.exists_follow?_weak_iff hlink).mp (h key hlink)
      rw [mem_keys_iff] at hkept
      rw [follow?, if_pos (Bool.or_eq_true _ _ ▸ hkept)]
      exact hn
  intro heq
  have hends := runPlan_ends (o := p.options) hfollow p.options.maxDepth .root (.present value) "" .here ∅
  exact hends.fault heq key rfl

end CompiledPlan

namespace Registry

/-! ## Complete plans -/

/-- Whether a check has ended for want of a target. -/
def isIncomplete (outcome : Option (Except Fault ErrorSet)) : Bool :=
  match outcome with
  | some (.error (.incompletePlan _)) => true
  | _ => false

theorem exists_of_isIncomplete {outcome : Option (Except Fault ErrorSet)} (h : isIncomplete outcome = true) :
    ∃ key, outcome = some (.error (.incompletePlan key)) := by
  unfold isIncomplete at h
  split at h
  · exact ⟨_, rfl⟩
  · exact nomatch h

/-- The second schema refers into the document of the first one, to a place with a weak link to the whole document. It
also refers to a document that is missing, so its plans stay with the handle. Then cache and first plan are given up. -/
def strandedHistory : List Operation :=
  let document : Json := .object [("properties", .object [("a", .object [("$ref", .string "#")])])]
  let first := Options.withFormats .empty
  let o : Options := { first with library := (Memory.empty.insert "app:/d" document).library }
  let schema : Json := .object [
    ("properties", .object [("x", .object [("$ref", .string "app:/d#/properties/a")])]),
    ("items", .object [("$ref", .string "app:/e")])]
  [.newCache "c", .compile "c" "p" o (.object [("$ref", .string "app:/d")]), .compile "c" "q" o schema, .dropPlan "p",
    .dropCache "c"]

theorem exists_incompletePlan_strandedHistory :
    ∃ key, (after id strandedHistory).checkPlan "q" (.object [("x", .object [])]) = some (.error (.incompletePlan key)) :=
  exists_of_isIncomplete (by decide +kernel)

/-- **After every history, a plan is complete exactly if somebody keeps the targets of all weak links that may be
followed**, and then no check ends for want of a target. -/
theorem complete_iff (digest : String → String) (history : List Operation) {name : String} {h : PlanHandle}
    (hh : (name, h) ∈ (after digest history).plans) :
    ((∀ value key, h.plan.checkWhile ((after digest history).isKept h.cache) value ≠ .error (.incompletePlan key)) ∧
        ∀ key, h.plan.Reaches (.weak key) →
          ∃ n, h.plan.follow? ((after digest history).isKept h.cache) (.weak key) = some n) ↔
      ∀ key, h.plan.Reaches (.weak key) →
        key ∈ h.plan.own.map (·.1) ∨ (after digest history).Keeps h.cache key := by
  have hr := sound_after digest history
  have hp : h.plan.Settled := hr.plans (name, h) hh
  constructor
  · rintro ⟨-, hfollow⟩ key hkey
    rw [← isKept_iff hr]
    exact (hp.exists_follow?_weak_iff hkey).mp (hfollow key hkey)
  · intro hkept
    have hfollow : ∀ key, h.plan.Reaches (.weak key) →
        ∃ n, h.plan.follow? ((after digest history).isKept h.cache) (.weak key) = some n := by
      intro key hkey
      rw [hp.exists_follow?_weak_iff hkey, isKept_iff hr]
      exact hkept key hkey
    exact ⟨hp.checkWhile_ne_incompletePlan hfollow, hfollow⟩

/-- A recursive schema whose cache has been given up: its handle leads to a weak link and keeps the target. Nobody keeps the
target of a weak link to which the second handle of `strandedHistory` leads. -/
theorem complete_iff_weak_link :
    let schema : Json := .object [("properties", .object [("a", .object [("$ref", .string "#")])])]
    let history : List Operation := [.newCache "c", .compile "c" "p" (.withFormats .empty) schema, .dropCache "c"]
    (∃ h, ("p", h) ∈ (after id history).plans ∧ (∃ key, h.plan.Reaches (.weak key)) ∧
      ∀ value key, h.plan.checkWhile ((after id history).isKept h.cache) value ≠ .error (.incompletePlan key)) ∧
    ∃ h, ("q", h) ∈ (after id strandedHistory).plans ∧ ∃ key, h.plan.Reaches (.weak key) ∧
      key ∉ h.plan.own.map (·.1) ∧ ¬ (after id strandedHistory).Keeps h.cache key := by
  intro schema history
  constructor
  · let scope : Scope := { root := schema, base := none }
    let a := planKey id scope (.schema (.object [("$ref", .string "#")]))
    have hfacts : ((after id history).plans.lookup "p").map (fun h => ((after id history).holdsCache h.cache,
        (h.plan.node? h.plan.root).map PlanNode.links, (h.plan.node? a).map PlanNode.links)) =
          some (true, some [.strong a], some [.weak (planKey id scope (.schema schema))]) := by decide +kernel
    obtain ⟨h, hlookup, hfacts⟩ := Option.map_eq_some_iff.mp hfacts
    simp only [Prod.mk.injEq, Option.map_eq_some_iff] at hfacts
    obtain ⟨hholds, ⟨root, hroot, hlinks⟩, n, hn, hback⟩ := hfacts
    have hstrong : h.plan.Reaches (.strong a) := .next .root hroot (by simp [hlinks])
    have hweak : h.plan.Reaches (.weak (planKey id scope (.schema schema))) := .next hstrong hn (by simp [hback])
    have hh := mem_of_lookup hlookup
    exact ⟨h, hh, ⟨_, hweak⟩, ((complete_iff id history hh).mpr fun _ _ => .inr (.inl hholds)).1⟩
  · obtain ⟨key, hkey⟩ := exists_incompletePlan_strandedHistory
    obtain ⟨h, hlookup, hcheck⟩ := Option.map_eq_some_iff.mp hkey
    have hh := mem_of_lookup hlookup
    have hnot : ¬ ∀ key, h.plan.Reaches (.weak key) →
        key ∈ h.plan.own.map (·.1) ∨ (after id strandedHistory).Keeps h.cache key :=
      fun hkept => ((complete_iff id strandedHistory hh).mpr hkept).1 _ key hcheck
    simp only [not_forall, not_or] at hnot
    obtain ⟨key, hreaches, hnot⟩ := hnot
    exact ⟨h, hh, key, hreaches, hnot⟩

/-- Not all checks are complete, even if each text is its own digest. -/
theorem not_forall_check_ne_incompletePlan :
    ¬ ∀ digest, Function.Injective digest → ∀ history name value key,
      (after digest history).checkPlan name value ≠ some (.error (.incompletePlan key)) := by
  intro h
  obtain ⟨key, hkey⟩ := exists_incompletePlan_strandedHistory
  exact h id Function.injective_id strandedHistory "q" _ key hkey

end Registry

end JsonSchema
