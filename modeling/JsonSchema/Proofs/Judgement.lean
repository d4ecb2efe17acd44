import JsonSchema.Proofs.Plan.Content
import JsonSchema.Proofs.Validator

/-!
# How branches are judged

`disallow`, `not`, `allOf` and `anyOf` judge an attempt by whether the set of violations grows. What an attempt finds on
its own is put behind what is held, but not what is held already. So an attempt is taken for clean if all that it finds
is held, even if it finds something.

## What is here

* `Judgement` — what decides whether an attempt counts as clean: `Judgement.own`, that it finds nothing, and
  `Judgement.held`, that all it finds is held. `Judgement.held_eq_own_iff` — when the two agree.
* `Conditions.negateBy`, `Combinators.allOfBy`, `anyOfBy` — the rules with attempts that start from nothing and are
  judged in a given way.
* `interpret_behind_held` — **an undisturbed check does the same behind what is held, and what keywords try there is
  judged by whether all of it is held**. `not_forall_interpret_behind_held` — without the proviso, it need not do the
  same.
-/

set_option autoImplicit false

namespace JsonSchema

open Run (Mirrors)

/-! ## Judgements -/

/-- Decides of what is held, and of what an attempt finds on its own, whether the attempt counts as clean. -/
abbrev Judgement := ErrorSet → ErrorSet → Bool

namespace Judgement

/-- Nothing is found. -/
def own : Judgement := fun _ u => u.isEmpty

/-- All that is found is held. -/
def held : Judgement := fun s u => u.records.all (· ∈ s)

variable {s u : ErrorSet}

theorem held_iff : held s u = true ↔ ∀ v ∈ u.records, v ∈ s.records := by
  simp only [held, List.all_eq_true, decide_eq_true_eq, ErrorSet.mem_iff]

theorem own_iff : own s u = true ↔ u = ∅ := ErrorSet.isEmpty_iff

/-- The judgements agree unless something is found, and all of it is held. -/
theorem held_eq_own_iff : held s u = own s u ↔ u = ∅ ∨ ∃ v ∈ u.records, v ∉ s.records := by
  rw [Bool.eq_iff_iff, own_iff, held_iff]
  constructor
  · intro h
    by_cases hall : ∀ v ∈ u.records, v ∈ s.records
    · exact .inl (h.mp hall)
    · push Not at hall
      exact .inr hall
  · rintro (rfl | ⟨v, hv, hnew⟩)
    · exact iff_of_true (fun _ h => absurd h List.not_mem_nil) rfl
    · exact iff_of_false (fun hall => hnew (hall v hv)) (ErrorSet.ne_empty_of_mem hv)

/-- Whether the set grows tells whether all of it was held. -/
theorem size_beq (s u : ErrorSet) : ((s.extend u).size == s.size) = held s u := by
  rw [Bool.eq_iff_iff, ErrorSet.size_beq_iff (s.prefix_extend u), held_iff]
  refine ⟨fun heq v hv => ?_, ErrorSet.extendList_of_subset⟩
  rw [← heq]
  exact ErrorSet.mem_records_extend.mpr (Or.inr hv)

end Judgement

/-! ## Rules with attempts that start from nothing -/

variable {S : Type}

namespace Conditions

/-- Records a message if an attempt counts as clean. -/
def negateBy (judge : Judgement) (path message : String) (s : ErrorSet) (attempt : Run ErrorSet) : Run ErrorSet := do
  let u ← attempt
  return if judge s u then s.add path message else s

/-- Holds an instance against `disallow`. -/
def disallowBy (judge : Judgement) (mode : Mode) (apply : Checker S) (c : Conditions S) (i : Instance) (path : String)
    (s : ErrorSet) : Run ErrorSet :=
  match c.disallow with
  | some rule => negateBy judge path "disallowed value was matched" s (rule.check mode apply i path ∅)
  | none => pure s

/-- Holds an instance against `not`. -/
def notBy (judge : Judgement) (apply : Checker S) (c : Conditions S) (i : Instance) (path : String) (s : ErrorSet) :
    Run ErrorSet :=
  match c.not with
  | some x => negateBy judge path "matched a schema which it should not" s (apply x i path .here ∅)
  | none => pure s

end Conditions

namespace Combinators

/-- Runs the branches in a row and tells whether each counts as clean. -/
def runAllBy (judge : Judgement) (apply : Checker S) (i : Instance) (path : String) :
    List S → ErrorSet → Run (Bool × ErrorSet)
  | [], s => pure (true, s)
  | x :: xs, s => do
    let u ← apply x i path .here ∅
    let (clean, t) ← runAllBy judge apply i path xs (s.extend u)
    return (judge s u && clean, t)

/-- Holds an instance against all branches in a row. -/
def allOfBy (judge : Judgement) (apply : Checker S) (branches : List S) (i : Instance) (path : String) (s : ErrorSet) :
    Run ErrorSet := do
  let (clean, t) ← runAllBy judge apply i path branches s
  return if clean then t else t.add path "failed to match all schemas"

/-- Runs branches until one counts as clean. If there is no such, what the last one finds is put behind `s`. -/
def firstCleanBy (judge : Judgement) (apply : Checker S) (i : Instance) (path : String) (s : ErrorSet) :
    List S → ErrorSet → Run (Option ErrorSet)
  | [], last => pure (some last)
  | x :: xs, _ => do
    let u ← apply x i path .here ∅
    if judge s u then return none
    firstCleanBy judge apply i path s xs (s.extend u)

/-- Holds an instance against branches until one counts as clean. -/
def anyOfBy (judge : Judgement) (apply : Checker S) (branches : List S) (i : Instance) (path : String) (s : ErrorSet) :
    Run ErrorSet := do
  match ← firstCleanBy judge apply i path s branches s with
  | none => return s
  | some last => return last.add path "failed to match at least one schema"

end Combinators

/-! ## Attempts behind what is held -/

section Behind

variable {f : ErrorSet → Run ErrorSet} {apply : Checker S} {mode : Mode} {i : Instance} {path : String} {s : ErrorSet}
  {xs : List S}

/-- What an attempt finds on its own is put behind what is held. -/
theorem Frames.from_empty (h : Frames s f) : Mirrors s.extend (f s) (f ∅) := h ∅

/-- Branches that run in a row do the same behind what is held, each behind what those before it have recorded. -/
def FramesInRow (apply : Checker S) (i : Instance) (path : String) : ErrorSet → List S → Prop
  | _, [] => True
  | s, x :: xs =>
    Frames s (apply x i path .here) ∧
      ∀ u, (apply x i path .here ∅).outcome = .ok u → FramesInRow apply i path (s.extend u) xs

theorem Conditions.negate_eq_held {message : String} (h : Frames s f) :
    (return negate path message s (← f s) : Run ErrorSet).outcome =
      (negateBy Judgement.held path message s (f ∅)).outcome := by
  cases hown : (f ∅).outcome with
  | error e => rw [negateBy, Run.outcome_bind_error hown, Run.outcome_bind_error (h.from_empty.error hown)]
  | ok u =>
    rw [negateBy, Run.outcome_bind_ok hown, Run.outcome_bind_ok (h.from_empty.ok hown), negate, Judgement.size_beq]

namespace Combinators

theorem runAll_eq_held (h : FramesInRow apply i path s xs) :
    (runAll apply i path xs s).outcome = (runAllBy Judgement.held apply i path xs s).outcome := by
  induction xs generalizing s with
  | nil => rfl
  | cons x xs ih =>
    rw [runAll, runAllBy]
    cases hown : (apply x i path .here ∅).outcome with
    | error e => rw [Run.outcome_bind_error hown, Run.outcome_bind_error (h.1.from_empty.error hown)]
    | ok u =>
      rw [Run.outcome_bind_ok hown, Run.outcome_bind_ok (h.1.from_empty.ok hown), Judgement.size_beq,
        Run.outcome_bind, Run.outcome_bind, ih (h.2 u hown)]

theorem checkAllOf_eq_held (h : FramesInRow apply i path s xs) :
    (checkAllOf apply xs i path s).outcome = (allOfBy Judgement.held apply xs i path s).outcome := by
  rw [checkAllOf, allOfBy, Run.outcome_bind, Run.outcome_bind, runAll_eq_held h]

theorem firstClean_eq_held (h : ∀ x ∈ xs, Frames s (apply x i path .here)) (last : ErrorSet) :
    (firstClean apply i path s xs last).outcome = (firstCleanBy Judgement.held apply i path s xs last).outcome := by
  induction xs generalizing last with
  | nil => rfl
  | cons x xs ih =>
    have hx := (h x List.mem_cons_self).from_empty
    rw [firstClean, firstCleanBy]
    cases hown : (apply x i path .here ∅).outcome with
    | error e => rw [Run.outcome_bind_error hown, Run.outcome_bind_error (hx.error hown)]
    | ok u =>
      rw [Run.outcome_bind_ok hown, Run.outcome_bind_ok (hx.ok hown), Judgement.size_beq]
      split
      · rfl
      · exact ih (fun y hy => h y (List.mem_cons_of_mem x hy)) _

theorem checkAnyOf_eq_held (h : ∀ x ∈ xs, Frames s (apply x i path .here)) :
    (checkAnyOf apply xs i path s).outcome = (anyOfBy Judgement.held apply xs i path s).outcome := by
  rewrite [checkAnyOf, anyOfBy, Run.outcome_bind, Run.outcome_bind, firstClean_eq_held h]
  rfl

end Combinators

end Behind

/-! ## Schemas -/

variable {o : Options} {s : ErrorSet} {depth : Nat} {scope : Scope} {i : Instance} {path : String}

/-- Branches that run in a row are undisturbed, each behind what those before it have recorded. -/
def UndisturbedInRow (o : Options) (depth : Nat) (scope : Scope) (i : Instance) (path : String) :
    ErrorSet → List Subschema → Prop
  | _, [] => True
  | s, x :: xs =>
    Undisturbed o s depth scope x i path ∧
      ∀ u, (interpretBelow o depth scope x i path .here ∅).outcome = .ok u →
        UndisturbedInRow o depth scope i path (s.extend u) xs

/-- All that keywords try and judge is undisturbed behind what is held, as far as the inside of each attempt goes. -/
structure TriesUndisturbed (o : Options) (s : ErrorSet) (depth : Nat) (scope : Scope) (k : Keywords Subschema)
    (i : Instance) (path : String) : Prop where
  disallow : ∀ x, k.conditions.disallow = some (.schema x) → Undisturbed o s depth scope x i path
  not : ∀ x, k.conditions.not = some x → Undisturbed o s depth scope x i path
  allOf : ∀ xs, k.combinators.allOf = some xs → UndisturbedInRow o depth scope i path s xs
  anyOf : ∀ xs, k.combinators.anyOf = some xs → ∀ x ∈ xs, Undisturbed o s depth scope x i path

theorem framesInRow_of_undisturbed {xs : List Subschema} (h : UndisturbedInRow o depth scope i path s xs) :
    FramesInRow (interpretBelow o depth scope) i path s xs := by
  induction xs generalizing s with
  | nil => trivial
  | cons x xs ih => exact ⟨interpret_frames .here h.1, fun u hu => ih (h.2 u hu)⟩

/-- **An undisturbed check does the same behind what is held.** What it finds on its own is put behind it, and faults are
the same. **What keywords try there is judged by whether all that it finds on its own is held**: `disallow` and `not`
record their message, `anyOf` does without one, and `allOf` does, exactly if that is so of the attempt, of one of the
branches, and of all of them. So a judgement is that of nothing being held unless something is found and all of it is
held. -/
theorem interpret_behind_held {x : Subschema} {k : Keywords Subschema} (segment : Segment)
    (hx : Undisturbed o s depth scope x i path) (hk : TriesUndisturbed o s depth scope k i path) :
    let apply := interpretBelow o depth scope
    (interpret o depth scope x i path segment s).outcome =
        (interpret o depth scope x i path segment ∅).outcome.map s.extend ∧
      (k.conditions.checkDisallow o.mode apply i path s).outcome =
        (k.conditions.disallowBy Judgement.held o.mode apply i path s).outcome ∧
      (k.conditions.checkNot apply i path s).outcome = (k.conditions.notBy Judgement.held apply i path s).outcome ∧
      (∀ xs, k.combinators.allOf = some xs → (Combinators.checkAllOf apply xs i path s).outcome =
        (Combinators.allOfBy Judgement.held apply xs i path s).outcome) ∧
      (∀ xs, k.combinators.anyOf = some xs → (Combinators.checkAnyOf apply xs i path s).outcome =
        (Combinators.anyOfBy Judgement.held apply xs i path s).outcome) ∧
      ∀ u, Judgement.held s u = Judgement.own s u ↔ u = ∅ ∨ ∃ v ∈ u.records, v ∉ s.records := by
  intro apply
  have hframes (x : Subschema) (h : Undisturbed o s depth scope x i path) : Frames s (apply x i path .here) :=
    interpret_frames .here h
  refine ⟨(interpret_frames segment hx).from_empty, ?_, ?_, fun xs hxs => ?_, fun xs hxs => ?_, fun u =>
    Judgement.held_eq_own_iff⟩
  · unfold Conditions.checkDisallow Conditions.disallowBy
    cases hdisallow : k.conditions.disallow with
    | none => rfl
    | some rule =>
      exact Conditions.negate_eq_held (rule.check_frames fun y hy => hframes y (hk.disallow y (hy ▸ hdisallow)))
  · unfold Conditions.checkNot Conditions.notBy
    cases hnot : k.conditions.not with
    | none => rfl
    | some y => exact Conditions.negate_eq_held (hframes y (hk.not y hnot))
  · exact Combinators.checkAllOf_eq_held (framesInRow_of_undisturbed (hk.allOf xs hxs))
  · exact Combinators.checkAnyOf_eq_held fun y hy => hframes y (hk.anyOf xs hxs y hy)

/-- A string is asked for where it is held that there is none. As the only alternative this finds nothing new, so it is
taken for clean. -/
theorem interpret_behind_held_string :
    let o := Options.withFormats .empty
    let scope : Scope := { root := .null, base := none }
    let x : Subschema := .schema (.object [("type", .string "string")])
    let s := (∅ : ErrorSet).add "" "integer value found, but a string is required"
    (interpret o 1 scope x (.present (.integer 1)) "" .here s).outcome = .ok s ∧
      (Combinators.checkAnyOf (interpretBelow o 1 scope) [x] (.present (.integer 1)) "" s).outcome = .ok s := by
  intro o scope x s
  let k := Keywords.parse [("anyOf", .array [.object [("type", .string "string")]])]
  have hx : Undisturbed o s 1 scope x (.present (.integer 1)) "" := by
    intro inside hinside
    cases hinside
    refine ⟨fun _ _ _ _ => trivial, fun f hf => by cases hf <;> contradiction⟩
  have hk : TriesUndisturbed o s 1 scope k (.present (.integer 1)) "" :=
    { disallow := fun _ h => nomatch h
      not := fun _ h => nomatch h
      allOf := fun _ h => nomatch h
      anyOf := by
        intro xs hxs y hy
        cases hxs
        rw [List.mem_singleton.mp hy]
        exact hx }
  obtain ⟨hcheck, -, -, -, hanyOf, -⟩ := interpret_behind_held .here hx hk
  exact ⟨hcheck.trans (by rfl), (hanyOf [x] rfl).trans (by rfl)⟩

/-- The value is neither a string nor a Boolean. Behind the record that it is no string, the first alternative finds
nothing that is not held, and nothing is recorded, neither for the second one nor for both. -/
theorem not_forall_interpret_behind_held :
    ¬ ∀ (o : Options) (depth : Nat) (scope : Scope) (x : Subschema) (i : Instance) (path : String) (segment : Segment)
      (s t u : ErrorSet), (interpret o depth scope x i path segment s).outcome = .ok t →
        (interpret o depth scope x i path segment ∅).outcome = .ok u → t = s.extend u := by
  intro h
  let either : Json := .object [("anyOf", .array [.object [("type", .string "string")],
    .object [("type", .string "boolean")]])]
  let s := (∅ : ErrorSet).add "" "integer value found, but a string is required"
  have hextend := h (.withFormats .empty) 100 { root := either, base := none } (.schema either) (.present (.integer 1)) ""
    .here s _ _ rfl rfl
  have hsize : (1 : Nat) = 3 := congrArg ErrorSet.size hextend
  omega

end JsonSchema
