import JsonSchema.Check
import JsonSchema.Proofs.Keyword.Verdict

/-!
# A check records nothing exactly where the schema is satisfied

## What is here

* `satisfies` — the condition that a place of the schema text states in its scope, read without collecting
  violations. `accepts` — the condition that a schema states.
* `interpret_decides` — every place of the schema text decides its condition, by induction on the levels.
* `check_eq_empty_iff_accepts` — **a check that ends well leaves the empty set exactly where the schema accepts**.
-/

set_option autoImplicit false

namespace JsonSchema

/-! ## The condition of a schema -/

/-- Whether an instance satisfies a place of the schema text. The first number is how many levels may still be
entered. -/
def satisfies (o : Options) : Nat → Scope → Subschema → Instance → String → Verdict
  | 0, _, _, _, path => .error (.depthExceeded path o.maxDepth)
  | depth + 1, scope, .reference uri, i, path => do
    let target ← (scope.resolve o.library uri).outcome
    satisfies o depth target.scope (.schema target.node) i path
  | depth + 1, scope, .schema (.object members), i, path => do
    let scope ← scope.enter members
    match Json.find? members "$ref" with
    | some (.string uri) =>
      let target ← (scope.resolve o.library uri).outcome
      satisfies o depth target.scope (.schema target.node) i path
    | _ =>
      let judge : Judge Subschema := fun x i parent segment =>
        satisfies o depth scope x i (extendPath parent segment)
      (Keywords.parse members).holds o.mode o.formats judge i path
  | _ + 1, _, .schema .null, _, _ | _ + 1, _, .schema (.bool true), _, _ => pure true
  | _ + 1, _, .schema j, _, path => .error (.notAnObject path j.kind)

/-- Whether an instance satisfies a schema. -/
def accepts (o : Options) (schema : Json) (i : Instance) : Verdict :=
  satisfies o o.maxDepth { root := schema, base := o.baseUri } (.schema schema) i ""

/-! ## Agreement -/

/-- A rule that depends on the outcome of a run without records. -/
theorem Decides.bind {α : Type} (x : Run α) {f : α → ErrorSet → Run ErrorSet} {v : α → Verdict}
    (h : ∀ a, Decides (f a) (v a)) : Decides (fun s => x >>= fun a => f a s) (x.outcome >>= v) := by
  cases hx : x.outcome with
  | error e =>
    refine ⟨fun s => ?_, fun t ht => ?_⟩
    · rw [Remit.Ends, Run.outcome_bind_error hx]
      trivial
    · rw [Run.outcome_bind_error hx] at ht
      cases ht
  | ok a =>
    refine ⟨fun s => ?_, fun t ht => ?_⟩
    · rw [Remit.Ends, Run.outcome_bind_ok hx]
      exact (h a).grows s
    · rw [Run.outcome_bind_ok hx] at ht
      exact (h a).verdict t ht

/-- Every place of the schema text decides its condition. -/
theorem interpret_decides (o : Options) (depth : Nat) (scope : Scope) (x : Subschema) (i : Instance)
    (path : String) (segment : Segment) :
    Decides (interpret o depth scope x i path segment) (satisfies o depth scope x i path) := by
  induction depth generalizing scope x i path segment with
  | zero => exact Decides.fault _
  | succ depth ih =>
    have hreference (scope : Scope) (uri : String) :
        Decides (fun s => scope.resolve o.library uri >>= fun target =>
            interpret o depth target.scope (.schema target.node) i path segment s)
          ((scope.resolve o.library uri).outcome >>= fun target =>
            satisfies o depth target.scope (.schema target.node) i path) :=
      Decides.bind _ fun target => ih target.scope _ i path segment
    rcases x with node | uri
    · cases node with
      | object members =>
        refine Decides.bind (Run.ofExcept (scope.enter members)) fun scope => ?_
        have hkeywords := Keywords.check_decides o.mode o.formats i path segment
          (fun x i path segment => ih scope x i (extendPath path segment) segment) (Keywords.parse members)
        rcases Json.find? members "$ref" with _ | ref
        · exact hkeywords
        · cases ref with
          | string uri => exact hreference scope uri
          | _ => exact hkeywords
      | null => exact Decides.skip
      | bool b =>
        cases b with
        | true => exact Decides.skip
        | false => exact Decides.fault _
      | integer n => exact Decides.fault _
      | real x => exact Decides.fault _
      | string text => exact Decides.fault _
      | array elements => exact Decides.fault _
    · exact hreference scope uri

/-- **A check that ends well leaves the empty set exactly where the schema accepts the value**, and then this is
settled without a fault. -/
theorem check_eq_empty_iff_accepts {o : Options} {schema value : Json} {errors : ErrorSet}
    (h : (check o schema value).outcome = .ok errors) :
    ∃ b, accepts o schema (.present value) = .ok b ∧ (errors = ∅ ↔ b = true) := by
  have hdecides := interpret_decides o o.maxDepth { root := schema, base := o.baseUri } (.schema schema)
    (.present value) "" .here
  exact ⟨errors.isEmpty, hdecides.verdict errors h, ErrorSet.isEmpty_iff.symm⟩

/-- `null` is neither a string nor anything but `null`, so no branch accepts it. -/
theorem check_eq_empty_iff_accepts_null :
    let schema : Json := .object [("oneOf", .array [.object [("type", .string "string")],
      .object [("not", .object [("type", .string "null")])]])]
    let errors := ErrorSet.ofList [⟨"", "null value found, but a string is required"⟩,
      ⟨"", "matched a schema which it should not"⟩, ⟨"", "failed to match exactly one schema"⟩]
    (check (.withFormats .empty) schema .null).outcome = .ok errors ∧
      ∃ b, accepts (.withFormats .empty) schema (.present .null) = .ok b ∧ (errors = ∅ ↔ b = true) :=
  have h : (check (.withFormats .empty) _ .null).outcome = .ok _ := by rfl
  ⟨h, check_eq_empty_iff_accepts h⟩

end JsonSchema
