import JsonSchema.Proofs.Keyword.Frame
import JsonSchema.Proofs.Verdict
import Mathlib.Data.List.Induction

/-!
# What a validator holds

A validator starts each check from what it holds. Checks find the same then as on their own, unless an attempt that a
keyword judges by what it records finds a violation that is held already: the attempt seems to find less than it does.

## What is here

* `Undisturbed` — nothing that the check of a place of the schema text judges records what is held.
  `interpret_frames` — **an undisturbed check does the same behind what is held**.
* `Validator.Call`, `Validator.after` — histories of checks and resets. `Validator.found` — what their checks find on
  their own.
* `Validator.errors_after` — **a validator holds what its checks find on their own, and answers accordingly**, if each
  of them is undisturbed. `Validator.not_forall_errors_after` — it does not otherwise.
-/

set_option autoImplicit false

namespace JsonSchema

open Run (Mirrors)

/-! ## Checks behind what is held -/

/-- No attempt that the check of a place judges by what it records finds a violation of `s`. The first number is how
many levels may still be entered. -/
def Undisturbed (o : Options) (s : ErrorSet) : Nat → Scope → Subschema → Instance → String → Prop
  | 0, _, _, _, _ => True
  | depth + 1, scope, .reference uri, i, path =>
    ∀ target, (scope.resolve o.library uri).outcome = .ok target →
      Undisturbed o s depth target.scope (.schema target.node) i path
  | depth + 1, scope, .schema (.object members), i, path =>
    ∀ inside, scope.enter members = .ok inside →
      match Json.find? members "$ref" with
      | some (.string uri) =>
        ∀ target, (inside.resolve o.library uri).outcome = .ok target →
          Undisturbed o s depth target.scope (.schema target.node) i path
      | _ =>
        let apply : Checker Subschema := fun x i parent segment t =>
          interpret o depth inside x i (extendPath parent segment) segment t
        (∀ x j step, (Keywords.parse members).Shares i x j step →
          Undisturbed o s depth inside x j (extendPath path step)) ∧
        ∀ f, (Keywords.parse members).Judges o.mode apply path i f → Apart s f
  | _ + 1, _, .schema _, _, _ => True

variable {o : Options} {s : ErrorSet}

theorem interpret_keepsTo (o : Options) (depth : Nat) (scope : Scope) :
    Checker.KeepsTo (fun x i parent segment s => interpret o depth scope x i (extendPath parent segment) segment s)
      Remit.free :=
  fun x i path segment => (interpret_decides o depth scope x i (extendPath path segment) segment).grows

/-- **An undisturbed check does the same behind what is held.** -/
theorem interpret_frames {depth : Nat} {scope : Scope} {x : Subschema} {i : Instance} {path : String}
    (segment : Segment) (h : Undisturbed o s depth scope x i path) :
    Frames s (interpret o depth scope x i path segment) := by
  induction depth generalizing scope x i path segment with
  | zero => exact Frames.fail s _
  | succ depth ih =>
    intro t
    rcases x with node | uri
    · cases node with
      | object members =>
        refine Mirrors.bind_same fun inside hinside => ?_
        have h := h inside hinside
        split
        · rename_i uri href
          rw [href] at h
          exact Mirrors.bind_same fun target htarget => ih segment (h target htarget) t
        · rename_i href
          split at h
          · rename_i uri huri
            exact absurd huri (href uri)
          · exact Keywords.check_frames (interpret_keepsTo o depth inside)
              (fun x j step hx => ih step (h.1 x j step hx)) h.2 t
      | null => exact Mirrors.pure s.extend t
      | bool b =>
        cases b with
        | true => exact Mirrors.pure s.extend t
        | false => exact Mirrors.fail s.extend _
      | integer n => exact Mirrors.fail s.extend _
      | real x => exact Mirrors.fail s.extend _
      | string text => exact Mirrors.fail s.extend _
      | array elements => exact Mirrors.fail s.extend _
    · exact Mirrors.bind_same fun target htarget => ih segment (h target htarget) t

/-- Where nothing is held, nothing is disturbed. -/
theorem undisturbed_empty (o : Options) (depth : Nat) (scope : Scope) (x : Subschema) (i : Instance) (path : String) :
    Undisturbed o ∅ depth scope x i path := by
  induction depth generalizing scope x i path with
  | zero => trivial
  | succ depth ih =>
    rcases x with node | uri
    · cases node with
      | object members =>
        intro inside _
        split
        · exact fun target _ => ih target.scope _ i path
        · exact ⟨fun x j step _ => ih inside x j _, fun f _ t u _ v _ => Or.inr List.not_mem_nil⟩
      | _ => trivial
    · exact fun target _ => ih target.scope _ i path

/-- No attempt that a check judges by what it records finds a violation of `s`. -/
def CheckUndisturbed (o : Options) (s : ErrorSet) (schema value : Json) : Prop :=
  Undisturbed o s o.maxDepth { root := schema, base := o.baseUri } (.schema schema) (.present value) ""

theorem evaluate_mirrors {schema value : Json} (h : CheckUndisturbed o s schema value) :
    Mirrors s.extend (evaluate o schema (.present value) s) (check o schema value) :=
  interpret_frames .here h ∅

/-! ## Histories -/

namespace Validator

/-- A call on a validator. -/
inductive Call where
  | check (schema value : Json)
  | reset

/-- The validator after a call. -/
def perform (v : Validator) : Call → Validator
  | .check schema value => (v.check schema value).2
  | .reset => v.reset

/-- A new validator after a history of calls. -/
def after (o : Options) (calls : List Call) : Validator := calls.foldl perform (start o)

/-- Adds what a check finds on its own, unless it ends with a fault; a reset forgets everything. -/
def find (o : Options) (vs : List Violation) : Call → List Violation
  | .check schema value =>
    match (JsonSchema.check o schema value).outcome with
    | .ok errors => vs ++ errors.records
    | .error _ => vs
  | .reset => []

/-- What the checks of a history since the last reset find on their own. -/
def found (o : Options) (calls : List Call) : List Violation := calls.foldl (find o) []

/-- No check of the history judges an attempt that finds what a check before it has found on its own. -/
def Independent (o : Options) (calls : List Call) : Prop :=
  ∀ before schema value behind, calls = before ++ .check schema value :: behind →
    CheckUndisturbed o (ErrorSet.ofList (found o before)) schema value

variable {calls before behind : List Call} {v : Validator} {schema value : Json}

theorem Independent.left (h : Independent o (before ++ behind)) : Independent o before :=
  fun first schema value last hsplit => h first schema value (last ++ behind) (by rw [hsplit, List.append_assoc]; rfl)

theorem after_concat (o : Options) (calls : List Call) (call : Call) :
    after o (calls ++ [call]) = (after o calls).perform call :=
  List.foldl_append

theorem found_concat (o : Options) (calls : List Call) (call : Call) :
    found o (calls ++ [call]) = find o (found o calls) call :=
  List.foldl_append

theorem options_check (v : Validator) (schema value : Json) : (v.check schema value).2.options = v.options := by
  unfold check
  dsimp only
  split <;> rfl

theorem options_after (o : Options) (calls : List Call) : (after o calls).options = o := by
  induction calls using List.reverseRecOn with
  | nil => rfl
  | append_singleton calls call ih =>
    rw [after_concat]
    cases call with
    | check schema value => exact (options_check _ schema value).trans ih
    | reset => exact ih

/-- A check that ends well adds what it finds on its own, and says whether all of it was held. -/
theorem check_of_ok {errors : ErrorSet} (h : CheckUndisturbed v.options v.errors schema value)
    (hcheck : (JsonSchema.check v.options schema value).outcome = .ok errors) :
    (v.check schema value).1.outcome = .ok (errors.records.all (· ∈ v.errors)) ∧
      (v.check schema value).2.errors = v.errors.extend errors := by
  have hrun := (evaluate_mirrors h).ok hcheck
  unfold check
  simp only [hrun]
  refine ⟨congrArg Except.ok ?_, trivial⟩
  rw [Bool.eq_iff_iff, ErrorSet.size_beq_iff (v.errors.prefix_extend errors), List.all_eq_true]
  refine ⟨fun heq w hw => ?_, fun hall => ErrorSet.extendList_of_subset fun w hw => ?_⟩
  · rw [decide_eq_true_eq, ErrorSet.mem_iff, ← heq]
    exact ErrorSet.mem_records_extend.mpr (Or.inr hw)
  · exact ErrorSet.mem_iff.mp (of_decide_eq_true (hall w hw))

/-- A check that ends with a fault changes nothing. -/
theorem check_of_error {f : Fault} (h : CheckUndisturbed v.options v.errors schema value)
    (hcheck : (JsonSchema.check v.options schema value).outcome = .error f) :
    (v.check schema value).1.outcome = .error f ∧ (v.check schema value).2 = v := by
  have hrun := (evaluate_mirrors h).error hcheck
  unfold check
  simp only [hrun]
  exact ⟨trivial, trivial⟩

theorem errors_after_of_independent (h : Independent o calls) :
    (after o calls).errors = ErrorSet.ofList (found o calls) := by
  induction calls using List.reverseRecOn with
  | nil => rfl
  | append_singleton calls call ih =>
    have ih := ih h.left
    rw [after_concat, found_concat]
    cases call with
    | reset => rfl
    | check schema value =>
      have hundisturbed : CheckUndisturbed (after o calls).options (after o calls).errors schema value := by
        rw [options_after, ih]
        exact h calls schema value [] rfl
      rw [perform, find]
      cases hcheck : (JsonSchema.check o schema value).outcome with
      | ok errors =>
        rw [(check_of_ok hundisturbed (by rw [options_after, hcheck])).2, ih]
        exact (ErrorSet.extendList_append ∅ _ _).symm
      | error f =>
        rw [(check_of_error hundisturbed (by rw [options_after, hcheck])).2, ih]

/-- **A validator holds what its checks since the last reset find on their own**, if no check judges an attempt that
finds what is held already. A check then answers whether all that it finds on its own was held, or ends with the fault
with which it ends on its own, and with a fault it changes nothing. -/
theorem errors_after (h : Independent o calls) :
    (after o calls).errors = ErrorSet.ofList (found o calls) ∧
      ∀ before schema value behind, calls = before ++ .check schema value :: behind →
        let v := after o before
        (v.check schema value).1.outcome = (JsonSchema.check o schema value).outcome.map
            (fun errors => errors.records.all (· ∈ v.errors)) ∧
          ∀ f, (v.check schema value).1.outcome = .error f → (v.check schema value).2 = v := by
  refine ⟨errors_after_of_independent h, fun before schema value behind hsplit => ?_⟩
  have hundisturbed : CheckUndisturbed (after o before).options (after o before).errors schema value := by
    have hbefore : Independent o before := by
      rw [hsplit] at h
      exact h.left
    rw [options_after, errors_after_of_independent hbefore]
    exact h before schema value behind hsplit
  dsimp only
  cases hcheck : (JsonSchema.check o schema value).outcome with
  | ok errors =>
    have hanswer := (check_of_ok hundisturbed (by rw [options_after, hcheck])).1
    exact ⟨hanswer, fun f hf => by cases hanswer.symm.trans hf⟩
  | error f =>
    obtain ⟨hanswer, hsame⟩ := check_of_error hundisturbed (by rw [options_after, hcheck])
    exact ⟨hanswer, fun _ _ => hsame⟩

/-- That no Boolean was found does not disturb the attempt at a string, which finds that there is none. -/
theorem errors_after_unlike :
    let boolean : Json := .object [("type", .string "boolean")]
    let noString : Json := .object [("not", .object [("type", .string "string")])]
    (after (.withFormats .empty) [.check boolean (.integer 1), .check noString (.integer 1)]).errors =
      ErrorSet.ofList [⟨"", "integer value found, but a boolean is required"⟩] := by
  dsimp only
  refine (errors_after fun before schema value behind hsplit => ?_).1.trans (by rfl)
  rcases before with _ | ⟨first, _ | ⟨second, before⟩⟩
  · cases hsplit
    exact undisturbed_empty ..
  · cases hsplit
    intro inside hinside
    cases hinside
    refine ⟨fun x j step hx => ?_, fun f hf => ?_⟩
    · cases hx
      case not h =>
        cases h
        intro inside hinside
        cases hinside
        refine ⟨fun x j step hx => ?_, fun f hf => by cases hf <;> contradiction⟩
        cases hx
        case type h => cases h
        all_goals contradiction
      all_goals contradiction
    · cases hf
      case not h =>
        cases h
        intro t u hu v hv
        cases hu
        rcases ErrorSet.mem_records_add.mp hv with hv | rfl
        · exact Or.inl hv
        · exact Or.inr (by decide)
      all_goals contradiction
  · simp at hsplit

/-- A string is asked for twice. The second time this is one of two alternatives, and the attempt at it finds nothing
that is not held: it seems to succeed, although the value is neither a string nor a Boolean. -/
theorem not_forall_errors_after :
    ¬ ∀ (o : Options) (calls : List Call), (after o calls).errors = ErrorSet.ofList (found o calls) := by
  intro h
  let string : Json := .object [("type", .string "string")]
  let either : Json := .object [("anyOf", .array [string, .object [("type", .string "boolean")]])]
  have hsize := congrArg ErrorSet.size (h (.withFormats .empty) [.check string (.integer 1), .check either (.integer 1)])
  have : (1 : Nat) = 3 := hsize
  omega

end Validator

end JsonSchema
