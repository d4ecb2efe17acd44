import JsonSchema.Proofs.Keyword.Retention
import JsonSchema.Proofs.Ledger.Evaluation

/-!
# What evaluation keeps of its attempts

The rules about attempts hold of any way of holding an instance against subschemas that only appends. Evaluation has two
ways, and each has its form in place: there a branch is given up by cutting the ledger back, alternatives that must not
see what has been recorded run on a ledger of their own, and a first attempt is written again behind the cut if the
second is no better. What is left in the end is what the rules say about sets.

## What is here

* `Evaluator.applyInPlace` — holding an instance against subschemas in place. `Evaluator.applyInPlace_for` — it comes to
  the same end.
* `retention_of_combinators` — **what `allOf`, `anyOf` and `oneOf` leave**.
* `retention_of_type_lists` — **what a list of types leaves**.
* `retention_of_elements` — **what is left of elements that have a second chance**.
-/

set_option autoImplicit false

namespace JsonSchema

/-- Applies a subschema in place. -/
def Evaluator.applyInPlace (o : Options) (depth : Nat) : (e : Evaluator) → CheckerInPlace e.Handle
  | .text scope => fun x i parent segment => interpretInPlace o depth scope x i (extendPath parent segment) segment
  | .plan find => fun link i parent segment => runPlanInPlace o find depth link i (extendPath parent segment) segment

/-- In place, subschemas come to the same end, and they only append. -/
theorem Evaluator.applyInPlace_for (o : Options) (depth : Nat) (e : Evaluator) :
    (e.applyInPlace o depth).For (e.apply o depth) where
  follows := by
    cases e with
    | text scope => exact fun x i path segment => interpretInPlace_follows depth scope x i _ segment
    | plan find => exact fun link i path segment => runPlanInPlace_follows depth link i _ segment
  keeps := e.apply_keepsTo o depth

variable (e : Evaluator) (o : Options) (depth : Nat)

/-! ## Combinators -/

/-- **What `allOf`, `anyOf` and `oneOf` leave** of the records of their branches, whichever way these are evaluated and
whatever is recorded already. In place they come to the same end. `anyOf` tries nothing behind the first branch that is
not refused; and a fault is the end of all keywords that the combinators stand among. -/
theorem retention_of_combinators (k : Keywords e.Handle) (j : Json) (path : String) :
    let apply := e.apply o depth
    let run := apply.attempts (.present j) path .here
    Follows (k.combinators.checkInPlace (e.applyInPlace o depth) (.present j) path)
        (k.combinators.check apply (.present j) path) ∧
      (∀ s r, (k.combinators.check apply (.present j) path s).outcome = r ↔ k.combinators.Leaves run path s r) ∧
      (∀ s x, ¬ Refused (run · s) s x → ∀ before behind behind',
        Combinators.checkAnyOf apply (before ++ x :: behind) (.present j) path s =
          Combinators.checkAnyOf apply (before ++ x :: behind') (.present j) path s) ∧
      ∀ segment s t f, (k.conditions.check o.mode apply (.present j) path s).outcome = .ok t →
        k.combinators.Leaves run path t (.error f) →
        (k.check o.mode o.formats apply (.present j) path segment s).outcome = .error f := by
  intro apply run
  have hfor := e.applyInPlace_for o depth
  refine ⟨Combinators.checkInPlace_follows hfor _, fun s r => Combinators.check_eq_iff hfor.keeps,
    fun s x hx before behind behind' => Combinators.checkAnyOf_behind hfor.keeps hx before behind behind', ?_⟩
  intro segment s t f hconditions hleaves
  have hfault : (k.combinators.check apply (.present j) path t).outcome = .error f :=
    (Combinators.check_eq_iff hfor.keeps).mpr hleaves
  rw [Keywords.check, Run.outcome_bind_ok hconditions, Run.outcome_bind_error hfault]

/-- The first branch finds what is recorded already, which is kept once. -/
theorem retention_of_combinators_oneOf :
    let e := Evaluator.text { root := .null, base := none }
    let o := Options.withFormats .empty
    let k : Keywords Subschema := Keywords.parse
      [("oneOf", .array [.object [("type", .string "string")], .object [("type", .string "boolean")]])]
    let string : Violation := ⟨"", "integer value found, but a string is required"⟩
    k.combinators.Leaves ((e.apply o 2).attempts (.present (.integer 4)) "" .here) "" (.ofList [string])
      (.ok (.ofList [string, ⟨"", "integer value found, but a boolean is required"⟩,
        ⟨"", "failed to match exactly one schema"⟩])) := by
  intro e o k string
  exact ((retention_of_combinators e o 2 k (.integer 4) "").2.1 _ _).mp (by decide +kernel)

/-! ## Types -/

/-- **What a list of types leaves**, whichever way embedded schemas are evaluated and whatever is recorded already. In place
it comes to the same end. Unknown names are faults, but nothing is tried behind the first alternative that is not refused. -/
theorem retention_of_type_lists (candidates : List (TypeRule e.Handle)) (i : Instance) (path : String) :
    let apply := e.apply o depth
    let run := TypeRule.attempts o.mode apply i path
    Follows (TypeRule.checkInPlace o.mode (e.applyInPlace o depth) i path (.union candidates))
        (TypeRule.check o.mode apply i path (.union candidates)) ∧
      (∀ s r, (TypeRule.check o.mode apply i path (.union candidates) s).outcome = r ↔
        TypeRule.Union run candidates s r) ∧
      (∀ name, run (.unknown name) = .error (.unknownType path name)) ∧
      (∀ x, run (.schema x) = apply.attempts i path .here x ∅) ∧
      ∀ s r, ¬ Refused run ∅ r → ∀ before behind behind',
        TypeRule.check o.mode apply i path (.union (before ++ r :: behind)) s =
          TypeRule.check o.mode apply i path (.union (before ++ r :: behind')) s := by
  intro apply run
  refine ⟨TypeRule.checkInPlace_follows (e.applyInPlace_for o depth) _, fun s r => TypeRule.check_union_eq_iff,
    fun name => ?_, fun x => ?_, fun s r hr before behind behind' => TypeRule.check_union_behind hr before behind behind'⟩
  · show (TypeRule.check o.mode apply i path (.unknown name) ∅).outcome = _
    rw [TypeRule.check]
    rfl
  · show (TypeRule.check o.mode apply i path (.schema x) ∅).outcome = _
    rw [TypeRule.check]
    rfl

/-- Of two alternatives that are refused, only the last one counts. -/
theorem retention_of_type_lists_last :
    let e := Evaluator.text { root := .null, base := none }
    let o := Options.withFormats .empty
    let candidates : List (TypeRule Subschema) := TypeRule.parseAll
      [.string "string", .object [("type", .string "integer"), ("minimum", .integer 5)]]
    TypeRule.Union (TypeRule.attempts o.mode (e.apply o 2) (.present (.integer 3)) "") candidates
      (.ofList [⟨"", "earlier"⟩]) (.ok (.ofList [⟨"", "earlier"⟩, ⟨"", "must have a minimum value of 5"⟩])) := by
  intro e o candidates
  exact ((retention_of_type_lists e o 2 candidates (.present (.integer 3)) "").2.1 _ _).mp (by decide +kernel)

/-! ## Elements -/

/-- **What is left of elements that have a second chance**, whichever way schemas are evaluated and whatever is recorded
already. In place it comes to the same end. Of the two attempts at an element at most one is kept. -/
theorem retention_of_elements (r : ElementRules e.Handle) (x : e.Handle) (elements : List Json) (path : String) :
    let apply := e.apply o depth
    let run := fun n element => apply.attempts (.present element) path (.index n)
    let step := fun n element => ElementRules.Element (run n element) r.additional x
    (∀ n, Follows (ElementRules.checkEveryInPlace (e.applyInPlace o depth) r.additional x path n elements)
        (ElementRules.checkEvery apply r.additional x path n elements)) ∧
      (∀ n s q, (ElementRules.checkEvery apply r.additional x path n elements s).outcome = q ↔
        ElementRules.Every step n elements s q) ∧
      (∀ segment s q,
        (({ r with items := .every x } : ElementRules e.Handle).check apply elements path segment s).outcome = q ↔
          ElementRules.Every step 0 elements (r.checkCount elements path s) q) ∧
      ∀ n element s t, step n element s (.ok t) →
        t = s ∨ run n element x s = .ok t ∨
          ∃ other, r.additional = .schema other ∧ run n element other s = .ok t := by
  intro apply run step
  have hfor := e.applyInPlace_for o depth
  have hevery (n : Nat) (s : ErrorSet) (q : Except Fault ErrorSet) :
      (ElementRules.checkEvery apply r.additional x path n elements s).outcome = q ↔
        ElementRules.Every step n elements s q := ElementRules.checkEvery_eq_iff hfor.keeps
  exact ⟨fun n => ElementRules.checkEveryInPlace_follows hfor _ x n elements, hevery,
    fun segment s q => hevery 0 (r.checkCount elements path s) q, fun n element s t h => h.one⟩

/-- The second chance helps the second element. For the third one it is no better than the first. -/
theorem retention_of_elements_retry :
    let e := Evaluator.text { root := .null, base := none }
    let o := Options.withFormats .empty
    let r : ElementRules Subschema := ElementRules.parse [("items", .object [("type", .string "string")]),
      ("additionalItems", .object [("type", .string "integer")])]
    let x : Subschema := .schema (.object [("type", .string "string")])
    ElementRules.Every (fun n element => ElementRules.Element ((e.apply o 2).attempts (.present element) "" (.index n))
        r.additional x) 0 [.string "a", .integer 1, .bool true] (.ofList [⟨"", "earlier"⟩])
      (.ok (.ofList [⟨"", "earlier"⟩, ⟨"[2]", "boolean value found, but a string is required"⟩])) := by
  intro e o r x
  exact ((retention_of_elements e o 2 r x [.string "a", .integer 1, .bool true] "").2.1 0 _ _).mp (by decide +kernel)

end JsonSchema
