import JsonSchema.Proofs.Keyword.Remit
import JsonSchema.Proofs.Plan.Content

/-!
# The two evaluators

An instance is held against subschemas as their text is read, or along the links of a plan. What is said of keywords
whatever their subschemas do is said of both at once.

## What is here

* `Evaluator` — the two ways, and `Evaluator.apply`, what each makes of a subschema.
* `SchemaGraph` — the nodes of a schema: `SchemaGraph.text`, those of its texts, and `SchemaGraph.plan`, those of a plan.
  `SchemaGraph.Keeps` — a remit allows what nodes report that are held against instances.
* `interpret_grows`, `runPlan_grows` — **both evaluators keep to such a remit**.
-/

set_option autoImplicit false

namespace JsonSchema

open Remit

/-- The ways of holding an instance against subschemas: as the text is read in a scope, or along the links of a plan. -/
inductive Evaluator where
  | text (scope : Scope)
  | plan (find : Link → Option PlanNode)

namespace Evaluator

/-- What stands for a subschema. -/
def Handle : Evaluator → Type
  | text _ => Subschema
  | plan _ => Link

/-- Applies a subschema, with a number of levels that may still be entered. -/
def apply (o : Options) (depth : Nat) : (e : Evaluator) → Checker e.Handle
  | text scope => interpretBelow o depth scope
  | plan find => fun link i parent segment s => runPlan o find depth link i (extendPath parent segment) segment s

end Evaluator

/-! ## Nodes -/

/-- The nodes of a schema: which of them refer to others, and which hold keywords, with the nodes that the handles in
these stand for. -/
structure SchemaGraph (N S : Type) where
  refers : N → N → Prop
  holds : N → Keywords S → (S → N) → Prop

namespace SchemaGraph

/-- The places of the schema texts, each read in a scope. -/
def text (library : Library) : SchemaGraph (Scope × Subschema) Subschema where
  refers n m := ∃ inner uri target, content n.1 n.2 = .reference inner uri ∧
    (inner.resolve library uri).outcome = .ok target ∧ m = (target.scope, .schema target.node)
  holds n k node := ∃ inner, content n.1 n.2 = .keywords inner k ∧ node = (inner, ·)

/-- The nodes of a plan by the links to them. -/
def plan (find : Link → Option PlanNode) : SchemaGraph Link Link where
  refers link target := find link = some (.reference target)
  holds link k node := find link = some (.keywords k) ∧ node = id

variable {N S : Type}

/-- Nodes are held against instances at paths, and with them all to which they hand these on. The remit allows them to
report at the path of the instance, and at those of members that they deny. -/
structure Keeps (g : SchemaGraph N S) (b : Remit) (held : N → String → Instance → Prop) : Prop where
  refer : ∀ {n m path i}, held n path i → g.refers n m → held m path i
  hand : ∀ {n k node path i x j step}, held n path i → g.holds n k node → k.Hands i x j step →
    held (node x) (extendPath path step) j
  permits : ∀ {n path i}, held n path i → b.Permits path
  denied : ∀ {n k node path members m}, held n path (.present (.object members)) → g.holds n k node → m ∈ members →
    k.Denies m.1 → ∀ message, b.records ⟨extendPath path (.key m.1), message⟩

variable {g : SchemaGraph N S}

/-- Without restrictions, any nodes may be held against anything. -/
theorem keeps_free (g : SchemaGraph N S) : g.Keeps free fun _ _ _ => True where
  refer _ _ := trivial
  hand _ _ _ := trivial
  permits _ := free_permits _
  denied _ _ _ _ _ := trivial

theorem Keeps.permitsFor {b : Remit} {held : N → String → Instance → Prop} {n : N} {k : Keywords S} {node : S → N}
    {path : String} {i : Instance} (hb : g.Keeps b held) (h : held n path i) (hk : g.holds n k node) :
    k.PermitsFor b i path where
  here := hb.permits h
  denied := by
    rintro members m rfl
    exact hb.denied h hk

end SchemaGraph

/-! ## Remits of evaluators -/

/-- A reference that cannot be followed names no path. -/
theorem Scope.path?_of_resolve {library : Library} {scope : Scope} {uri : String} {f : Fault}
    (h : (scope.resolve library uri).outcome = .error f) : f.path? = none := by
  obtain ⟨reason, rfl | rfl⟩ := exists_of_resolve_error h <;> rfl

/-- A schema object that cannot be entered names no path. -/
theorem path?_of_content {scope : Scope} {x : Subschema} {f : Fault} (h : content scope x = .fault f) : f.path? = none := by
  obtain ⟨id, reason, rfl⟩ := exists_invalidUri_of_content h
  rfl

variable {b : Remit} {i : Instance} {path : String}

/-- **Interpretation keeps to a remit** that allows what its nodes report, and all faults that name no path. -/
theorem interpret_grows {o : Options} {held : Scope × Subschema → String → Instance → Prop}
    (hb : (SchemaGraph.text o.library).Keeps b held) (hpathless : ∀ {f : Fault}, f.path? = none → b.faults f) (depth : Nat)
    (scope : Scope) (x : Subschema) (segment : Segment) (s : ErrorSet) (hp : held (scope, x) path i) :
    b.Ends (interpret o depth scope x i path segment s) (b.Grows s) := by
  induction depth generalizing scope x i path segment s with
  | zero =>
    rw [interpret]
    exact (hb.permits hp).fault rfl
  | succ depth ih =>
    rw [interpret_content]
    cases hc : content scope x with
    | accept => exact Ends.pure (Grows.refl s)
    | notAnObject kind => exact (hb.permits hp).fault rfl
    | fault f => exact hpathless (path?_of_content hc)
    | reference inner uri =>
      have htarget : b.Ends (inner.resolve o.library uri) fun target => held (target.scope, .schema target.node) path i := by
        unfold Ends
        split
        · exact hb.refer hp ⟨inner, uri, _, hc, ‹_›, rfl⟩
        · exact hpathless (Scope.path?_of_resolve ‹_›)
      exact Ends.bind htarget fun target htarget => ih target.scope _ segment s htarget
    | keywords inner k =>
      have hk : (SchemaGraph.text o.library).holds (scope, x) k (inner, ·) := ⟨inner, hc, rfl⟩
      refine Keywords.check_grows (hb.permitsFor hp hk) (fun y j step hy s => ?_) s
      exact ih inner y step s (hb.hand hp hk hy)

/-- **A plan keeps to a remit** that allows what its nodes report, the faults in them, and that of a link that leads
nowhere. -/
theorem runPlan_grows {find : Link → Option PlanNode} {held : Link → String → Instance → Prop}
    (hb : (SchemaGraph.plan find).Keeps b held)
    (hlost : ∀ {link path i}, held link path i → find link = none → b.faults (.incompletePlan link.key))
    (hfault : ∀ {link path i f}, held link path i → find link = some (.fault f) → b.faults f) (o : Options) (depth : Nat)
    (link : Link) (segment : Segment) (s : ErrorSet) (hp : held link path i) :
    b.Ends (runPlan o find depth link i path segment s) (b.Grows s) := by
  induction depth generalizing link i path segment s with
  | zero =>
    rw [runPlan]
    cases hn : find link with
    | none => exact hlost hp hn
    | some n => exact (hb.permits hp).fault rfl
  | succ depth ih =>
    rw [runPlan]
    cases hn : find link with
    | none => exact hlost hp hn
    | some n =>
      cases n with
      | accept => exact Ends.pure (Grows.refl s)
      | notAnObject kind => exact (hb.permits hp).fault rfl
      | fault f => exact hfault hp hn
      | reference target => exact ih target segment s (hb.refer hp hn)
      | keywords k =>
        have hk : (SchemaGraph.plan find).holds link k id := ⟨hn, rfl⟩
        refine Keywords.check_grows (hb.permitsFor hp hk) (fun next j step hnext s => ?_) s
        exact ih next step s (hb.hand hp hk hnext)

/-- Whatever subschemas are applied to, they only append. -/
theorem Evaluator.apply_keepsTo (o : Options) (depth : Nat) (e : Evaluator) : (e.apply o depth).KeepsTo free := by
  cases e with
  | text scope =>
    exact fun x _ _ segment s =>
      interpret_grows (SchemaGraph.keeps_free _) (fun _ => trivial) depth scope x segment s trivial
  | plan find =>
    exact fun link _ _ segment s =>
      runPlan_grows (SchemaGraph.keeps_free _) (fun _ _ => trivial) (fun _ _ => trivial) o depth link segment s trivial

end JsonSchema
