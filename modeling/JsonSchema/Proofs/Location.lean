import JsonSchema.Proofs.Evaluator
import JsonSchema.Proofs.Plan.Failure
import JsonSchema.Proofs.Reference.Place
import Mathlib.Data.List.Induction

/-!
# The places that reports name

Paths are written on the way down: each rule that turns to a member or an element adds one step, whether there is such a
member or element or not. Where there is none, the instance is absent and no rule goes on. So a path names what steps
lead to, or a place one step away from an object or an array where nothing is.

Every string is such a place of an object, since the object may lack any key. What is reported is more: there is a node
of the schema that is held against the instance to which the path leads, or that denies the member to which it leads. So
a key that is lacking is one that the schema declares.

## What is here

* `Json.Leads` — steps from a value to an instance in it, or to one that is absent. `Json.leads_iff_walk?` — without
  repeated keys, those to a value are the steps that can be walked.
* `Json.Writes` — such steps are written as a path. `Json.IsLocation` — a path that any are written as. `Json.Locates` —
  an outcome that names no others.
* `SchemaGraph.Held` — the nodes that are held against instances, and the paths to these. `SchemaGraph.Reports` — where
  they report. `SchemaGraph.Traces` — an outcome whose paths all go back to such nodes.
* `Remit.located` — the remit of checks that name such paths only.
* `PlanTable.Pathless` — a table none of whose nodes reports a path. `PlanCache.pathless_plan_of_compile` — **compiling
  makes no others**.
* `reported_paths_are_locations` — **each path in a report is a location in the value**.
-/

set_option autoImplicit false

namespace JsonSchema

open Pointer (Step)
open Remit

/-! ## Locations -/

namespace Pointer

/-- A step as paths write it. -/
def Step.segment : Step → Segment
  | .key name => .key name
  | .index position => .index position

/-- The path that steps are written as. -/
def render (steps : List Step) : String := steps.foldl (fun path step => extendPath path step.segment) ""

theorem render_concat (steps : List Step) (step : Step) :
    render (steps ++ [step]) = extendPath (render steps) step.segment := by
  rw [render, List.foldl_append]
  rfl

end Pointer

namespace Json

variable {value v : Json} {steps : List Step} {step : Step}

/-- Steps lead from a value to an instance in it. The last one may be a key that an object lacks, or a position at or
behind the end of an array. What is there is absent, and no steps lead on. -/
inductive Leads (value : Json) : List Step → Instance → Prop where
  | here : Leads value [] (.present value)
  | member {steps members name v} (h : Leads value steps (.present (.object members))) (hv : (name, v) ∈ members) :
    Leads value (steps ++ [.key name]) (.present v)
  | element {steps elements n e} (h : Leads value steps (.present (.array elements))) (he : elements[n]? = some e) :
    Leads value (steps ++ [.index n]) (.present e)
  | noMember {steps members name} (h : Leads value steps (.present (.object members))) (hno : find? members name = none) :
    Leads value (steps ++ [.key name]) .absent
  | noElement {steps elements n} (h : Leads value steps (.present (.array elements))) (hno : elements.length ≤ n) :
    Leads value (steps ++ [.index n]) .absent

theorem walk?_concat (value : Json) (steps : List Step) (step : Step) :
    value.walk? (steps ++ [step]) = (value.walk? steps).bind (·.follow? step) := by
  rw [walk?_append_eq_bind]
  exact congrArg _ (funext fun next => Option.bind_fun_some _)

/-- A step that can be followed leads on. -/
theorem Leads.follow? {j : Json} (h : value.Leads steps (.present j)) (hv : j.follow? step = some v) :
    value.Leads (steps ++ [step]) (.present v) := by
  cases j with
  | object members =>
    cases step with
    | key name => exact .member h (mem_of_find? hv)
    | index n => exact nomatch hv
  | array elements =>
    cases step with
    | key name => exact nomatch hv
    | index n => exact .element h hv
  | _ => exact nomatch hv

/-- Without repeated keys, the steps to a value are those that can be walked. -/
theorem leads_iff_walk? (hd : value.DistinctKeys) : value.Leads steps (.present v) ↔ value.walk? steps = some v := by
  constructor
  · intro h
    generalize hi : Instance.present v = i at h
    induction h generalizing v with
    | here =>
      cases hi
      rfl
    | member _ hv ih =>
      cases hi
      have hmembers := ih rfl
      rw [walk?_concat, hmembers]
      exact find?_of_mem (hd.walk? hmembers).1 hv
    | element _ he ih =>
      cases hi
      rw [walk?_concat, ih rfl]
      exact he
    | noMember _ _ _ => exact nomatch hi
    | noElement _ _ _ => exact nomatch hi
  · intro h
    induction steps using List.reverseRecOn generalizing v with
    | nil =>
      cases h
      exact .here
    | append_singleton steps step ih =>
      rw [walk?_concat, Option.bind_eq_some_iff] at h
      obtain ⟨next, hnext, hv⟩ := h
      exact (ih hnext).follow? hv

/-- A path is written as steps that lead to an instance. -/
def Writes (value : Json) (path : String) (i : Instance) : Prop :=
  ∃ steps, path = Pointer.render steps ∧ value.Leads steps i

/-- A path leads to a value inside a value, or one step away from an object or an array to where nothing is. -/
def IsLocation (value : Json) (path : String) : Prop := ∃ i, value.Writes path i

/-- All paths that an outcome names are locations. -/
def Locates (value : Json) : Except Fault ErrorSet → Prop
  | .ok errors => ∀ v ∈ errors.records, value.IsLocation v.path
  | .error f => ∀ path, f.path? = some path → value.IsLocation path

end Json

/-! ## Nodes that are held against instances -/

theorem Instance.ofOption_eq_absent_iff {o : Option Json} : Instance.ofOption o = .absent ↔ o = none := by
  cases o <;> simp [ofOption]

namespace Json

variable {value : Json} {path : String} {members : Members} {elements : List Json}

theorem Writes.property (h : value.Writes path (.present (.object members))) (name : String) :
    value.Writes (extendPath path (.key name)) (Instance.ofOption (find? members name)) := by
  obtain ⟨steps, rfl, h⟩ := h
  refine ⟨steps ++ [Step.key name], by rw [Pointer.render_concat, Step.segment], ?_⟩
  cases hv : find? members name with
  | none => exact .noMember h hv
  | some v => exact .member h (mem_of_find? hv)

theorem Writes.member {name : String} {v : Json} (h : value.Writes path (.present (.object members)))
    (hv : (name, v) ∈ members) : value.Writes (extendPath path (.key name)) (.present v) := by
  obtain ⟨steps, rfl, h⟩ := h
  exact ⟨steps ++ [Step.key name], by rw [Pointer.render_concat, Step.segment], .member h hv⟩

theorem Writes.position (h : value.Writes path (.present (.array elements))) (n : Nat) :
    value.Writes (extendPath path (.index n)) (Instance.ofOption elements[n]?) := by
  obtain ⟨steps, rfl, h⟩ := h
  refine ⟨steps ++ [Step.index n], by rw [Pointer.render_concat, Step.segment], ?_⟩
  cases he : elements[n]? with
  | none => exact .noElement h (List.getElem?_eq_none_iff.mp he)
  | some e => exact .element h he

theorem Writes.element {n : Nat} {e : Json} (h : value.Writes path (.present (.array elements)))
    (he : elements[n]? = some e) : value.Writes (extendPath path (.index n)) (.present e) := by
  have hposition := h.position n
  rwa [he] at hposition

/-- What keywords hand on is where the path leads that they add a step to. -/
theorem Writes.hand {S : Type} {k : Keywords S} {i j : Instance} {x : S} {step : Segment} (h : value.Writes path i)
    (hx : k.Hands i x j step) : value.Writes (extendPath path step) j := by
  cases hx with
  | shares hx =>
    cases hx with
    | pattern _ _ hm _ => exact h.member hm
    | property _ _ => exact h.property _
    | additionalProperty _ _ hm _ => exact h.member hm
    | item _ he => exact h.element he
    | position _ _ => exact h.position _
    | additionalItem _ he => exact h.element he
    | _ => exact h
  | _ => exact h

end Json

namespace SchemaGraph

variable {N S : Type}

/-- Nodes that are held against an instance when the first one is held against a value, with the paths to the
instances. -/
inductive Held (g : SchemaGraph N S) (first : N) (value : Json) : N → String → Instance → Prop where
  | first : Held g first value first "" (.present value)
  | refer {n m path i} (h : Held g first value n path i) (hm : g.refers n m) : Held g first value m path i
  | hand {n k node path i x j step} (h : Held g first value n path i) (hk : g.holds n k node)
    (hx : k.Hands i x j step) : Held g first value (node x) (extendPath path step) j

/-- The paths at which such nodes report, and what is there: the instance that the node is held against, or a member
that it denies. -/
inductive Reports (g : SchemaGraph N S) (first : N) (value : Json) : String → Instance → Prop where
  | here {n path i} (h : g.Held first value n path i) : Reports g first value path i
  | denied {n k node path members name v} (h : g.Held first value n path (.present (.object members)))
    (hk : g.holds n k node) (hm : (name, v) ∈ members) (hd : k.Denies name) :
    Reports g first value (extendPath path (.key name)) (.present v)

/-- All paths that an outcome names go back to nodes: where a violation is recorded, a node reports on what the path
leads to, and a fault names the path to the instance that a node is held against. -/
def Traces (g : SchemaGraph N S) (first : N) (value : Json) : Except Fault ErrorSet → Prop
  | .ok errors => ∀ v ∈ errors.records, ∃ i, g.Reports first value v.path i ∧ value.Writes v.path i
  | .error f => ∀ path, f.path? = some path → ∃ n i, g.Held first value n path i ∧ value.Writes path i

variable {g : SchemaGraph N S} {first n : N} {value : Json} {path : String} {i : Instance}

/-- The path of an instance leads to it. -/
theorem Held.writes (h : g.Held first value n path i) : value.Writes path i := by
  induction h with
  | first => exact ⟨[], rfl, .here⟩
  | refer _ _ ih => exact ih
  | hand _ _ hx ih => exact ih.hand hx

theorem Reports.writes (h : g.Reports first value path i) : value.Writes path i := by
  cases h with
  | here h => exact h.writes
  | denied h _ hm _ => exact h.writes.member hm

/-- **What is held against nothing is a property that keywords declare or a position that they have a schema for**, of an
object or an array without it. -/
theorem Held.asked (h : g.Held first value n path .absent) :
    ∃ m k node path' i step, g.Held first value m path' i ∧ g.holds m k node ∧ k.AsksFor i step ∧
      path = extendPath path' step := by
  generalize hi : Instance.absent = i at h
  induction h with
  | first => exact nomatch hi
  | refer _ _ ih => exact ih hi
  | hand h hk hx ih =>
    cases hx with
    | shares hx =>
      cases hx with
      | extended _ => exact ih hi
      | disallow _ => exact ih hi
      | not _ => exact ih hi
      | property hr hp => exact ⟨_, _, _, _, _, _, h, hk, .property hr hp (Instance.ofOption_eq_absent_iff.mp hi.symm), rfl⟩
      | position hitems hx =>
        have hno := List.getElem?_eq_none_iff.mp (Instance.ofOption_eq_absent_iff.mp hi.symm)
        exact ⟨_, _, _, _, _, _, h, hk, .position hitems (List.getElem?_eq_some_iff.mp hx).1 hno, rfl⟩
      | _ => exact nomatch hi
    | disallow _ _ => exact ih hi
    | _ => exact nomatch hi

theorem Traces.locates {x : Except Fault ErrorSet} (h : g.Traces first value x) : value.Locates x := by
  cases x with
  | error f =>
    intro path hpath
    obtain ⟨-, i, -, hi⟩ := h path hpath
    exact ⟨i, hi⟩
  | ok errors =>
    intro v hv
    obtain ⟨i, -, hi⟩ := h v hv
    exact ⟨i, hi⟩

end SchemaGraph

/-! ## The remit of locations -/

namespace Remit

variable {N S : Type}

/-- Checks that name paths only at which nodes report that are held against instances. -/
def located (g : SchemaGraph N S) (first : N) (value : Json) : Remit where
  records v := ∃ i, g.Reports first value v.path i
  faults f := ∀ path, f.path? = some path → ∃ n i, g.Held first value n path i

variable {g : SchemaGraph N S} {first : N} {value : Json}

theorem keeps_located : g.Keeps (located g first value) (g.Held first value) where
  refer := .refer
  hand := .hand
  permits h :=
    { message := fun _ => ⟨_, .here h⟩
      fault := by
        intro f hf path hpath
        cases hf.symm.trans hpath
        exact ⟨_, _, h⟩ }
  denied h hk hm hd _ := ⟨_, .denied h hk hm hd⟩

/-- A fault that names no path may end any check. -/
theorem faults_located_of_pathless {f : Fault} (hf : f.path? = none) : (located g first value).faults f :=
  fun _ hpath => nomatch hf.symm.trans hpath

/-- Checks that name such paths only have outcomes that do. -/
theorem Ends.traces {x : Run ErrorSet} (h : (located g first value).Ends x ((located g first value).Grows ∅)) :
    g.Traces first value x.outcome := by
  cases hx : x.outcome with
  | error f =>
    intro path hpath
    obtain ⟨n, i, hheld⟩ := h.fault hx path hpath
    exact ⟨n, i, hheld, hheld.writes⟩
  | ok t =>
    intro v hv
    obtain ⟨i, hreports⟩ := ((h.ok hx).allowed v hv).resolve_left List.not_mem_nil
    exact ⟨i, hreports, hreports.writes⟩

end Remit

/-- What is reported when a schema is applied as it is read goes back to nodes of its text. -/
theorem check_traces (o : Options) (schema value : Json) :
    (SchemaGraph.text o.library).Traces ({ root := schema, base := o.baseUri }, .schema schema) value
      (check o schema value).outcome :=
  (interpret_grows keeps_located faults_located_of_pathless o.maxDepth _ _ .here ∅ .first).traces

/-! ## Compiled faults -/

/-- No node of a table reports a path. -/
def PlanTable.Pathless (table : PlanTable) : Prop := ∀ key f, (key, .fault f) ∈ table → f.path? = none

section

variable {P : Scope → Prop} {digest : String → String} {o : Options} {library : Library} {stored : PlanTable}

/-- What has been made for a place reports why it cannot be read. -/
theorem MadeFor.path?_of_fault {keys : List String} {key : String} {f : Fault}
    (h : MadeFor P digest keys library key (.fault f)) : f.path? = none := by
  obtain ⟨scope, x, -, -, hrealizes⟩ := h
  generalize hc : content scope x = c at hrealizes
  cases hrealizes with
  | fault => exact path?_of_content hc
  | unresolved hresolve => exact Scope.path?_of_resolve hresolve

theorem PlanTable.Pathless.append {done : Compilation} (h : PlanTable.Pathless stored)
    (hdone : done.Sound P digest o stored) : PlanTable.Pathless (stored ++ done.fresh) := by
  intro key f hmem
  rcases List.mem_append.mp hmem with hstored | hfresh
  · exact h key f hstored
  · exact (hdone.made key _ hfresh o.library fun _ _ => rfl).path?_of_fault

namespace PlanCache

variable {c : PlanCache} {schema : Json}

theorem pathless_of_compile (hc : PlanTable.Pathless c.table) :
    PlanTable.Pathless (c.compile digest o schema).2.table := by
  rcases compile_table digest c o schema with heq | ⟨root, done, hrun, -, htable⟩
  · rw [heq]
    exact hc
  · obtain ⟨hdone, -, -⟩ := compilation_spec steady_true trivial hrun
    rw [htable]
    exact hc.append hdone

/-- Compiling makes no nodes that report a path. -/
theorem pathless_plan_of_compile (hc : PlanTable.Pathless c.table) {plan : CompiledPlan}
    (h : (c.compile digest o schema).1.outcome = .ok plan) : PlanTable.Pathless plan.nodes := by
  obtain ⟨root, done, hrun, rfl⟩ := exists_of_compile_ok h
  obtain ⟨hdone, -, -⟩ := compilation_spec steady_true trivial hrun
  intro key f hmem
  exact hc.append hdone key f ((mem_nodes_install c root done _).mp hmem)

end PlanCache

end

namespace CompiledPlan

variable {p : CompiledPlan} {alive : String → Bool}

/-- Links lead to nodes of the handle. -/
theorem mem_nodes_of_follow? {link : Link} {n : PlanNode} (h : p.follow? alive link = some n) :
    (link.key, n) ∈ p.nodes := by
  have hn : p.node? link.key = some n := by
    cases link with
    | strong key => exact h
    | weak key =>
      rw [follow?] at h
      split at h
      · exact h
      · cases h
  rw [p.node?_eq] at hn
  exact mem_of_lookup hn

/-- What is reported when a plan is run goes back to its nodes, if none of these reports a path by itself. -/
theorem checkWhile_traces (hp : PlanTable.Pathless p.nodes) (alive : String → Bool) (value : Json) :
    (SchemaGraph.plan (p.follow? alive)).Traces (.strong p.root) value (p.checkWhile alive value) :=
  (runPlan_grows keeps_located (fun _ _ => faults_located_of_pathless rfl)
    (fun _ hf => faults_located_of_pathless (hp _ _ (mem_nodes_of_follow? hf))) p.options p.options.maxDepth
    (.strong p.root) .here ∅ .first).traces

end CompiledPlan

/-! ## Reports -/

/-- **Each path in a report is a location in the value**, whether the schema is applied as it is read or has been
compiled: steps lead there from the value, or they lead to an object or an array and the last one to where it has nothing.
And each goes back to a node of the schema that is held against the instance to which these steps lead, or that denies the
member to which they lead. It does not matter with what the cache has been used before, and which plans are still kept.
While a schema is compiled, nothing but the depth of a plan can be reported. -/
theorem reported_paths_are_locations (value : Json) :
    (∀ o schema, value.Locates (check o schema value).outcome ∧
        (SchemaGraph.text o.library).Traces ({ root := schema, base := o.baseUri }, .schema schema) value
          (check o schema value).outcome) ∧
      ∀ digest calls o schema, match ((PlanCache.empty.after digest calls).compile digest o schema).1.outcome with
        | .ok plan => ∀ alive, value.Locates (plan.checkWhile alive value) ∧
            (SchemaGraph.plan (plan.follow? alive)).Traces (.strong plan.root) value (plan.checkWhile alive value)
        | .error f => ∃ key, f = .depthExceeded ("plan " ++ key) o.maxDepth := by
  refine ⟨fun o schema => ?_, fun digest calls o schema => ?_⟩
  · have htraces := check_traces o schema value
    exact ⟨htraces.locates, htraces⟩
  · have hcache : PlanTable.Pathless (PlanCache.empty.after digest calls).table :=
      PlanCache.after_induction (I := fun c => PlanTable.Pathless c.table)
        (fun _ _ _ hc => PlanCache.pathless_of_compile hc) (fun _ _ hmem => absurd hmem List.not_mem_nil) calls
    rcases PlanCache.compile_ok_or_isTooDeep digest (PlanCache.empty.after digest calls) o schema with
      ⟨plan, -, hplan, -⟩ | ⟨⟨f, hf, hdeep⟩, -⟩
    · rw [hplan]
      intro alive
      have htraces := plan.checkWhile_traces (PlanCache.pathless_plan_of_compile hcache hplan) alive value
      exact ⟨htraces.locates, htraces⟩
    · rw [hf]
      exact hdeep

/-- A key that an object in an array lacks. -/
example :
    let schema : Json :=
      .object [("items", .object [("properties", .object [("name", .object [("required", .bool true)])])])]
    (check (.withFormats .empty) schema (.array [.object []])).outcome.toOption.map (·.records) =
      some [⟨"[0].name", "is missing and it is required"⟩] := by
  decide +kernel

end JsonSchema
