import JsonSchema.Plan.Basic
import JsonSchema.Proofs.Evaluator
import JsonSchema.Proofs.Ledger.Keywords
import JsonSchema.Proofs.Validator

/-!
# Evaluation in place

Holding an instance against a schema, as its text is read or when it has been compiled, can write to one ledger from
beginning to end. Many attempts are given up on the way, at any depth, and each is cut off by nothing but a number of
records. That this is safe is one invariant: whatever runs between a checkpoint and a cut leaves the records of the
checkpoint in front, none of them twice, and the index in step.

## What is here

* `interpretInPlace`, `runPlanInPlace` — the two ways of holding an instance against a schema, in place.
* `interpretInPlace_follows`, `runPlanInPlace_follows` — **they come to the same end as the evaluators that take a set
  and give one**.
* `OnlyAppends` — how an effect in place may end. `evaluation_only_appends` — **evaluation in place only appends, all its
  cuts bring back the ledger of their checkpoint, and no count of a checkpoint is larger than a later one**.
-/

set_option autoImplicit false

namespace JsonSchema

open InPlace Remit

/-! ## Evaluators -/

/-- Holds an instance against a place of the schema text. The first number is how many levels may still be entered. -/
def interpretInPlace (o : Options) : Nat → Scope → Subschema → Instance → String → Segment → InPlace Unit
  | 0, _, _, _, path, _ => throw (.fault (.depthExceeded path o.maxDepth))
  | depth + 1, scope, .reference uri, i, path, segment => do
    let target ← ofOutcome (scope.resolve o.library uri).outcome
    interpretInPlace o depth target.scope (.schema target.node) i path segment
  | depth + 1, scope, .schema (.object members), i, path, segment => do
    let scope ← ofOutcome (scope.enter members)
    match Json.find? members "$ref" with
    | some (.string uri) =>
      let target ← ofOutcome (scope.resolve o.library uri).outcome
      interpretInPlace o depth target.scope (.schema target.node) i path segment
    | _ =>
      let p : CheckerInPlace Subschema := fun x i parent segment =>
        interpretInPlace o depth scope x i (extendPath parent segment) segment
      (Keywords.parse members).checkInPlace o.mode o.formats p i path segment
  | _ + 1, _, .schema .null, _, _, _ | _ + 1, _, .schema (.bool true), _, _, _ => pure ()
  | _ + 1, _, .schema j, _, path, _ => throw (.fault (.notAnObject path j.kind))

/-- Holds an instance against a plan. -/
def runPlanInPlace (o : Options) (find : Link → Option PlanNode) (depth : Nat) (link : Link) (i : Instance)
    (path : String) (segment : Segment) : InPlace Unit :=
  match find link with
  | none => throw (.fault (.incompletePlan link.key))
  | some node =>
    match depth with
    | 0 => throw (.fault (.depthExceeded path o.maxDepth))
    | depth + 1 =>
      match node with
      | .accept => pure ()
      | .notAnObject kind => throw (.fault (.notAnObject path kind))
      | .fault f => throw (.fault f)
      | .reference target => runPlanInPlace o find depth target i path segment
      | .keywords k =>
        let p : CheckerInPlace Link := fun x i parent segment =>
          runPlanInPlace o find depth x i (extendPath parent segment) segment
        k.checkInPlace o.mode o.formats p i path segment
termination_by structural depth

/-! ### They follow the evaluators on sets -/

variable {o : Options} {find : Link → Option PlanNode}

/-- **Interpretation in place follows interpretation.** -/
theorem interpretInPlace_follows (depth : Nat) (scope : Scope) (x : Subschema) (i : Instance) (path : String)
    (segment : Segment) :
    Follows (interpretInPlace o depth scope x i path segment) (interpret o depth scope x i path segment) := by
  induction depth generalizing scope x i path segment with
  | zero => exact Follows.fail _
  | succ depth ih =>
    intro s
    rcases x with node | uri
    · cases node with
      | object members =>
        refine Tracks.ofOutcome_bind (z := Run.ofExcept (scope.enter members)) fun inside _ => ?_
        have hchecker := CheckerInPlace.For.mk (fun x i parent segment => ih inside x i (extendPath parent segment) _)
          (interpret_keepsTo o depth inside)
        rcases Json.find? members "$ref" with _ | ref
        · exact Keywords.checkInPlace_follows hchecker _ s
        · cases ref with
          | string uri => exact Tracks.ofOutcome_bind fun target _ => ih target.scope _ i path segment s
          | _ => exact Keywords.checkInPlace_follows hchecker _ s
      | null => exact Tracks.pure rfl
      | bool b =>
        cases b with
        | true => exact Tracks.pure rfl
        | false => exact Tracks.fail _
      | _ => exact Tracks.fail _
    · exact Tracks.ofOutcome_bind fun target _ => ih target.scope _ i path segment s

/-- A plan only appends, whatever its links lead to. -/
theorem runPlan_appends (depth : Nat) (link : Link) (i : Instance) (path : String) (segment : Segment) :
    Appends (runPlan o find depth link i path segment) :=
  fun s => runPlan_grows (SchemaGraph.keeps_free _) (fun _ _ => trivial) (fun _ _ => trivial) o depth link segment s trivial

/-- **Running a plan in place follows running it.** -/
theorem runPlanInPlace_follows (depth : Nat) (link : Link) (i : Instance) (path : String) (segment : Segment) :
    Follows (runPlanInPlace o find depth link i path segment) (runPlan o find depth link i path segment) := by
  induction depth generalizing link i path segment with
  | zero =>
    intro s
    rw [runPlanInPlace, runPlan]
    cases find link <;> exact Tracks.fail _
  | succ depth ih =>
    intro s
    rw [runPlanInPlace, runPlan]
    cases find link with
    | none => exact Tracks.fail _
    | some node =>
      cases node with
      | accept => exact Tracks.pure rfl
      | notAnObject kind => exact Tracks.fail _
      | fault f => exact Tracks.fail _
      | reference target => exact ih target i path segment s
      | keywords k =>
        exact Keywords.checkInPlace_follows
          { follows := fun x i path segment => ih x i _ segment
            keeps := fun x i path segment => runPlan_appends depth x i _ segment } k s

/-! ## Appending -/

/-- How an effect may end that only appends to a ledger: the records that were there stand in front, none stands twice,
and the index holds the records; or with a fault. No assertion on a cut is broken. -/
inductive OnlyAppends (l : Ledger) : Except Halt (Unit × Ledger) → Prop where
  | ok {l' : Ledger} (records : l.records <+: l'.records) (sound : l'.Sound) : OnlyAppends l (.ok ((), l'))
  | fault (f : Fault) : OnlyAppends l (.error (.fault f))

theorem Follows.onlyAppends {p : InPlace Unit} {f : ErrorSet → Run ErrorSet} (h : Follows p f) (hf : Appends f)
    {l : Ledger} (hl : l.Sound) : OnlyAppends l (p.run l) := by
  obtain ⟨s, rfl⟩ := hl.exists_eq
  rw [h s]
  cases hx : (f s).outcome with
  | error e => exact .fault e
  | ok t => exact .ok ((hf s).ok hx).appends t.sound_ledger

/-- **Evaluation in place only appends**, whether a schema is applied as it is read or has been compiled. Whatever a sound
ledger holds at the beginning: all that is cut off, swapped or written again on the way brings back the ledger of its
checkpoint, no count of a checkpoint is larger than a later one, and in the end the records that were there stand in
front, none stands twice, and the index holds the records. The end is that of the evaluators on sets. -/
theorem evaluation_only_appends {l : Ledger} (hl : l.Sound) (o : Options) (depth : Nat) (i : Instance) (path : String)
    (segment : Segment) :
    (∀ scope x, OnlyAppends l ((interpretInPlace o depth scope x i path segment).run l) ∧
        Follows (interpretInPlace o depth scope x i path segment) (interpret o depth scope x i path segment)) ∧
      ∀ find link, OnlyAppends l ((runPlanInPlace o find depth link i path segment).run l) ∧
        Follows (runPlanInPlace o find depth link i path segment) (runPlan o find depth link i path segment) := by
  refine ⟨fun scope x => ⟨?_, interpretInPlace_follows depth scope x i path segment⟩, fun find link =>
    ⟨?_, runPlanInPlace_follows depth link i path segment⟩⟩
  · exact (interpretInPlace_follows depth scope x i path segment).onlyAppends
      (fun s => (interpret_decides o depth scope x i path segment).grows s) hl
  · exact (runPlanInPlace_follows depth link i path segment).onlyAppends (runPlan_appends depth link i path segment) hl

/-- Neither of the schemas for elements is satisfied, and the second attempt finds no less than the first one. So the
record of the first is written again, behind the one that was there. -/
theorem evaluation_only_appends_retry :
    let l := (ErrorSet.ofList [⟨"", "earlier"⟩]).ledger
    let x : Subschema := .schema (.object [("items", .object [("type", .string "string")]),
      ("additionalItems", .object [("type", .string "boolean")])])
    let run := (interpretInPlace (.withFormats .empty) 3 { root := .null, base := none } x
      (.present (.array [.integer 1])) "" .here).run l
    OnlyAppends l run ∧ run.toOption.map (·.2.records) =
      some [⟨"", "earlier"⟩, ⟨"[0]", "integer value found, but a string is required"⟩] := by
  intro l x run
  exact ⟨((evaluation_only_appends (ErrorSet.sound_ledger _) _ 3 _ "" .here).1 _ x).1, by decide +kernel⟩

end JsonSchema
