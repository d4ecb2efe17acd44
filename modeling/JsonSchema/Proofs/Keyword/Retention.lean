import JsonSchema.Proofs.Keyword.Frame

/-!
# What attempts leave behind

Combinators, lists of types and the schema for all elements of an array try subschemas, and keep of what an attempt
records all, nothing, or what the last or the better attempt records. Here these rules are described from outside: by
the set from which each attempt starts, the attempts that are made at all, and which of the sets that they leave is kept.

## What is here

* `Attempts`, `Checker.attempts` — what attempts at subschemas leave: a set, or a fault.
* `Tried` — how alternatives end that are tried in order. `tryEach` — the loop that tries them;
  `tryEach_eq_iff`, it ends so, and `tryEach_behind`, **what stands behind the alternative that settles the matter is
  not tried**.
* `Combinators.AllOf`, `Combinators.AnyOf`, `Combinators.OneOf`, `Combinators.Leaves` — what the combinators leave;
  `Combinators.check_eq_iff`.
* `TypeRule.Union` — what a list of types leaves; `TypeRule.check_union_eq_iff`.
* `ElementRules.Element`, `ElementRules.Every` — what is left of an element that has two chances, and of all elements;
  `ElementRules.checkEvery_eq_iff`.
-/

set_option autoImplicit false

namespace JsonSchema

open Remit ErrorSet

/-! ## Attempts -/

/-- What an attempt at a subschema leaves, from each set: another set, or a fault. -/
abbrev Attempts (S : Type) := S → ErrorSet → Except Fault ErrorSet

/-- What attempts leave at an instance. -/
def Checker.attempts {S : Type} (apply : Checker S) (i : Instance) (path : String) (segment : Segment) : Attempts S :=
  fun x s => (apply x i path segment s).outcome

variable {S : Type} {apply : Checker S} {mode : Mode} {i : Instance} {path : String}

/-- An attempt leaves a set of the same size only if it leaves the same set. -/
theorem Checker.KeepsTo.size_beq (ha : apply.KeepsTo free) {x : S} {segment : Segment} {s t : ErrorSet}
    (h : apply.attempts i path segment x s = .ok t) : (t.size == s.size) = true ↔ t = s :=
  ErrorSet.size_beq_iff ((ha.appends x i path segment s).ok h).appends

/-! ## Alternatives in order -/

section Alternatives

variable {A : Type}

/-- The alternative ends well, and leaves another set than the one it starts from. -/
def Refused (attempt : A → Except Fault ErrorSet) (s : ErrorSet) (a : A) : Prop :=
  ∃ t, attempt a = .ok t ∧ t ≠ s

/-- How alternatives end that are tried in order, each from the set `s`: the first that is not refused settles the
matter, and if all are refused, the answer is what the last one leaves. -/
inductive Tried (attempt : A → Except Fault ErrorSet) (s : ErrorSet) :
    List A → Except Fault (Option ErrorSet) → Prop where
  | accepted {before a behind} (hbefore : ∀ b ∈ before, Refused attempt s b) (ha : attempt a = .ok s) :
    Tried attempt s (before ++ a :: behind) (.ok none)
  | refused {before a t} (hbefore : ∀ b ∈ before, Refused attempt s b) (ha : attempt a = .ok t) (ht : t ≠ s) :
    Tried attempt s (before ++ [a]) (.ok (some t))
  | fault {before a behind f} (hbefore : ∀ b ∈ before, Refused attempt s b) (ha : attempt a = .error f) :
    Tried attempt s (before ++ a :: behind) (.error f)

/-- One more alternative in front that is refused changes nothing. -/
theorem Tried.cons {attempt : A → Except Fault ErrorSet} {s : ErrorSet} {a : A} {as : List A}
    {r : Except Fault (Option ErrorSet)} (ha : Refused attempt s a) (h : Tried attempt s as r) :
    Tried attempt s (a :: as) r := by
  have hcons {before : List A} (hbefore : ∀ b ∈ before, Refused attempt s b) :
      ∀ b ∈ a :: before, Refused attempt s b :=
    List.forall_mem_cons.mpr ⟨ha, hbefore⟩
  cases h with
  | accepted hbefore hb => exact .accepted (hcons hbefore) hb
  | refused hbefore hb ht => exact .refused (hcons hbefore) hb ht
  | fault hbefore hb => exact .fault (hcons hbefore) hb

/-- Where alternatives are tried, there are some. -/
theorem Tried.ne_nil {attempt : A → Except Fault ErrorSet} {s : ErrorSet} {as : List A}
    {r : Except Fault (Option ErrorSet)} (h : Tried attempt s as r) : as ≠ [] := by
  cases h <;> simp

/-- Tries alternatives until one leaves a clean set. The answer is what the last one leaves if there is no such; `last`
is what the one before has left. -/
def tryEach (attempt : A → Run ErrorSet) (clean : ErrorSet → Bool) : List A → ErrorSet → Run (Option ErrorSet)
  | [], last => pure (some last)
  | a :: as, _ => do
    let found ← attempt a
    if clean found then return none
    tryEach attempt clean as found

variable {attempt : A → Run ErrorSet} {clean : ErrorSet → Bool} {before as : List A} {a : A} {s t last : ErrorSet}

/-- Only the set from which all alternatives start counts as clean. -/
def CleanIsSame (attempt : A → Run ErrorSet) (clean : ErrorSet → Bool) (s : ErrorSet) : Prop :=
  ∀ a t, (attempt a).outcome = .ok t → (clean t = true ↔ t = s)

theorem tryEach_of_accepted (hclean : CleanIsSame attempt clean s) (ha : (attempt a).outcome = .ok s) :
    (tryEach attempt clean (a :: as) last).outcome = .ok none := by
  rw [tryEach, Run.outcome_bind_ok ha, if_pos ((hclean a s ha).mpr rfl)]
  rfl

theorem tryEach_of_refused (hclean : CleanIsSame attempt clean s) (ha : (attempt a).outcome = .ok t) (ht : t ≠ s) :
    (tryEach attempt clean (a :: as) last).outcome = (tryEach attempt clean as t).outcome := by
  rw [tryEach, Run.outcome_bind_ok ha, if_neg (mt (hclean a t ha).mp ht)]

theorem tryEach_of_fault {f : Fault} (ha : (attempt a).outcome = .error f) :
    (tryEach attempt clean (a :: as) last).outcome = .error f := by
  rw [tryEach, Run.outcome_bind_error ha]

/-- What is left by alternatives that are refused counts only if none follows. -/
theorem tryEach_append (hclean : CleanIsSame attempt clean s)
    (hbefore : ∀ b ∈ before, Refused (fun b => (attempt b).outcome) s b) (as : List A) (last : ErrorSet) :
    ∃ last', (tryEach attempt clean (before ++ as) last).outcome = (tryEach attempt clean as last').outcome := by
  induction before generalizing last with
  | nil => exact ⟨last, rfl⟩
  | cons b before ih =>
    obtain ⟨⟨t, hb, ht⟩, hbefore⟩ := List.forall_mem_cons.mp hbefore
    rw [List.cons_append, tryEach_of_refused hclean hb ht]
    exact ih hbefore t

/-- The loop ends as the alternatives do that are tried in order. -/
theorem tried_tryEach (hclean : CleanIsSame attempt clean s) (a : A) (as : List A) (last : ErrorSet) :
    Tried (fun b => (attempt b).outcome) s (a :: as) (tryEach attempt clean (a :: as) last).outcome := by
  have hfirst : ∀ b ∈ ([] : List A), Refused (fun b => (attempt b).outcome) s b := by simp
  cases ha : (attempt a).outcome with
  | error f =>
    rw [tryEach_of_fault ha]
    exact .fault hfirst ha
  | ok t =>
    by_cases ht : t = s
    · subst ht
      rw [tryEach_of_accepted hclean ha]
      exact .accepted hfirst ha
    · rw [tryEach_of_refused hclean ha ht]
      cases as with
      | nil => exact .refused hfirst ha ht
      | cons b as => exact (tried_tryEach hclean b as t).cons ⟨t, ha, ht⟩

/-- **The loop ends as the alternatives do that are tried in order**, and in no other way. -/
theorem tryEach_eq_iff (hclean : CleanIsSame attempt clean s) (hne : as ≠ []) (last : ErrorSet)
    {r : Except Fault (Option ErrorSet)} :
    (tryEach attempt clean as last).outcome = r ↔ Tried (fun b => (attempt b).outcome) s as r := by
  constructor
  · rintro rfl
    obtain ⟨a, as, rfl⟩ := List.exists_cons_of_ne_nil hne
    exact tried_tryEach hclean a as last
  · intro h
    cases h with
    | accepted hbefore ha =>
      obtain ⟨last', hlast⟩ := tryEach_append hclean hbefore _ last
      rw [hlast, tryEach_of_accepted hclean ha]
    | refused hbefore ha ht =>
      obtain ⟨last', hlast⟩ := tryEach_append hclean hbefore _ last
      rw [hlast, tryEach_of_refused hclean ha ht]
      rfl
    | fault hbefore ha =>
      obtain ⟨last', hlast⟩ := tryEach_append hclean hbefore _ last
      rw [hlast, tryEach_of_fault ha]

/-- **Behind an alternative that is not refused, nothing is tried**: the run is the same whatever stands there. -/
theorem tryEach_behind (hclean : CleanIsSame attempt clean s) (ha : ¬ Refused (fun b => (attempt b).outcome) s a)
    (before behind behind' : List A) (last : ErrorSet) :
    tryEach attempt clean (before ++ a :: behind) last = tryEach attempt clean (before ++ a :: behind') last := by
  induction before generalizing last with
  | nil =>
    refine Run.bind_congr_of_ok fun t ht => ?_
    have hsame : t = s := Classical.byContradiction fun hne => ha ⟨t, ht, hne⟩
    have hcleaned : clean t = true := (hclean a t ht).mpr hsame
    simp only [hcleaned, if_true]
  | cons b before ih =>
    refine Run.bind_congr_of_ok fun t _ => ?_
    show (if clean t then pure none else tryEach attempt clean (before ++ a :: behind) t) =
      if clean t then pure none else tryEach attempt clean (before ++ a :: behind') t
    rw [ih t]

end Alternatives

/-! ## Combinators -/

namespace Combinators

/-- Some branch leaves another set than the one that those before it have left. -/
inductive SomeEnlarges (run : Attempts S) : List S → ErrorSet → Prop where
  | first {x xs s t} (hx : run x s = .ok t) (ht : t ≠ s) : SomeEnlarges run (x :: xs) s
  | later {x xs s t} (hx : run x s = .ok t) (h : SomeEnlarges run xs t) : SomeEnlarges run (x :: xs) s

/-- What `allOf` leaves: what all branches leave that run one after the other, and a summary if some branch enlarges the
set. -/
inductive AllOf (run : Attempts S) (path : String) (xs : List S) (s : ErrorSet) : Except Fault ErrorSet → Prop where
  | clean {t} (h : xs.foldlM (fun s x => run x s) s = .ok t) (hnone : ¬ SomeEnlarges run xs s) :
    AllOf run path xs s (.ok t)
  | summary {t u} (h : xs.foldlM (fun s x => run x s) s = .ok t) (hsome : SomeEnlarges run xs s)
    (hu : u.records = appendNew t.records [⟨path, "failed to match all schemas"⟩]) : AllOf run path xs s (.ok u)
  | fault {f} (h : xs.foldlM (fun s x => run x s) s = .error f) : AllOf run path xs s (.error f)

/-- What `anyOf` leaves: what was there, if some branch leaves it; or else what the last branch leaves, and a summary. All
branches start from what was there, which an empty list leaves as well. -/
inductive AnyOf (run : Attempts S) (path : String) (xs : List S) (s : ErrorSet) : Except Fault ErrorSet → Prop where
  | matched (h : Tried (run · s) s xs (.ok none)) : AnyOf run path xs s (.ok s)
  | unmatched {t u} (h : Tried (run · s) s xs (.ok (some t)))
    (hu : u.records = appendNew t.records [⟨path, "failed to match at least one schema"⟩]) : AnyOf run path xs s (.ok u)
  | nothing {u} (h : xs = [])
    (hu : u.records = appendNew s.records [⟨path, "failed to match at least one schema"⟩]) : AnyOf run path xs s (.ok u)
  | fault {f} (h : Tried (run · s) s xs (.error f)) : AnyOf run path xs s (.error f)

/-- What `oneOf` leaves: what was there, if exactly one branch finds nothing on its own; or else behind it what all
branches find on their own, in their order, and a summary. -/
inductive OneOf (run : Attempts S) (path : String) (xs : List S) (s : ErrorSet) : Except Fault ErrorSet → Prop where
  | matched {ts} (h : xs.mapM (run · ∅) = .ok ts) (hone : ts.count ∅ = 1) : OneOf run path xs s (.ok s)
  | unmatched {ts u} (h : xs.mapM (run · ∅) = .ok ts) (hone : ts.count ∅ ≠ 1)
    (hu : u.records = appendNew (ts.foldl (fun rs t => appendNew rs t.records) s.records)
      [⟨path, "failed to match exactly one schema"⟩]) : OneOf run path xs s (.ok u)
  | fault {f} (h : xs.mapM (run · ∅) = .error f) : OneOf run path xs s (.error f)

/-- A combinator that a schema may lack leaves what was there if it does. -/
inductive Optionally (R : List S → ErrorSet → Except Fault ErrorSet → Prop) :
    Option (List S) → ErrorSet → Except Fault ErrorSet → Prop where
  | absent {s} : Optionally R none s (.ok s)
  | present {xs s r} (h : R xs s r) : Optionally R (some xs) s r

/-- What the combinators leave: `allOf` comes first, `anyOf` starts from what it leaves, and `oneOf` from what is left
then. A fault of one of them is the end. -/
inductive Leaves (run : Attempts S) (path : String) (c : Combinators S) (s : ErrorSet) : Except Fault ErrorSet → Prop where
  | all {t u r} (hallOf : Optionally (AllOf run path) c.allOf s (.ok t))
    (hanyOf : Optionally (AnyOf run path) c.anyOf t (.ok u)) (honeOf : Optionally (OneOf run path) c.oneOf u r) :
    Leaves run path c s r
  | anyOf {t f} (hallOf : Optionally (AllOf run path) c.allOf s (.ok t))
    (hanyOf : Optionally (AnyOf run path) c.anyOf t (.error f)) : Leaves run path c s (.error f)
  | allOf {f} (hallOf : Optionally (AllOf run path) c.allOf s (.error f)) : Leaves run path c s (.error f)

variable {xs : List S} {s t : ErrorSet} {r : Except Fault ErrorSet}

/-! ### `allOf` -/

/-- A branch in front enlarges the set, or one of those behind it does. -/
theorem someEnlarges_cons {run : Attempts S} {x : S} (hx : run x s = .ok t) :
    SomeEnlarges run (x :: xs) s ↔ t ≠ s ∨ SomeEnlarges run xs t := by
  constructor
  · intro h
    cases h with
    | first hx' ht =>
      cases hx'.symm.trans hx
      exact .inl ht
    | later hx' h =>
      cases hx'.symm.trans hx
      exact .inr h
  · rintro (ht | h)
    · exact .first hx ht
    · exact .later hx h

theorem runAll_fault {f : Fault} (h : xs.foldlM (fun s x => apply.attempts i path .here x s) s = .error f) :
    (runAll apply i path xs s).outcome = .error f := by
  induction xs generalizing s with
  | nil => exact nomatch h
  | cons x xs ih =>
    rw [List.foldlM_cons] at h
    rw [runAll]
    cases hx : apply.attempts i path .here x s with
    | error e =>
      rw [hx] at h
      cases h
      rw [Run.outcome_bind_error hx]
    | ok t =>
      rw [hx] at h
      rw [Run.outcome_bind_ok hx, Run.outcome_bind_error (ih h)]

/-- Branches that run in a row leave what they leave one after the other, and are clean unless some branch enlarges the
set. -/
theorem runAll_ok (ha : apply.KeepsTo free)
    (h : xs.foldlM (fun s x => apply.attempts i path .here x s) s = .ok t) :
    ∃ clean, (runAll apply i path xs s).outcome = .ok (clean, t) ∧
      (clean = true ↔ ¬ SomeEnlarges (apply.attempts i path .here) xs s) := by
  induction xs generalizing s with
  | nil =>
    cases h
    exact ⟨true, rfl, iff_of_true rfl fun h => nomatch h⟩
  | cons x xs ih =>
    rw [List.foldlM_cons] at h
    cases hx : apply.attempts i path .here x s with
    | error e =>
      rw [hx] at h
      cases h
    | ok u =>
      rw [hx] at h
      obtain ⟨clean, hrun, hclean⟩ := ih h
      refine ⟨u.size == s.size && clean, ?_, ?_⟩
      · rw [runAll, Run.outcome_bind_ok hx, Run.outcome_bind_ok hrun]
        rfl
      · rw [someEnlarges_cons hx, Bool.and_eq_true, ha.size_beq hx, hclean, not_or, Classical.not_not]

theorem checkAllOf_eq_iff (ha : apply.KeepsTo free) :
    (checkAllOf apply xs i path s).outcome = r ↔ AllOf (apply.attempts i path .here) path xs s r := by
  have hok {t : ErrorSet} (h : xs.foldlM (fun s x => apply.attempts i path .here x s) s = .ok t) :
      ∃ clean, (checkAllOf apply xs i path s).outcome =
          .ok (if clean = true then t else t.add path "failed to match all schemas") ∧
        (clean = true ↔ ¬ SomeEnlarges (apply.attempts i path .here) xs s) := by
    obtain ⟨clean, hrun, hclean⟩ := runAll_ok ha h
    refine ⟨clean, ?_, hclean⟩
    rw [checkAllOf, Run.outcome_bind_ok hrun]
    rfl
  have herror {f : Fault} (h : xs.foldlM (fun s x => apply.attempts i path .here x s) s = .error f) :
      (checkAllOf apply xs i path s).outcome = .error f := by
    rw [checkAllOf, Run.outcome_bind_error (runAll_fault h)]
  constructor
  · rintro rfl
    cases hrun : xs.foldlM (fun s x => apply.attempts i path .here x s) s with
    | error f =>
      rw [herror hrun]
      exact .fault hrun
    | ok t =>
      obtain ⟨clean, hcheck, hclean⟩ := hok hrun
      rw [hcheck]
      split
      · rename_i hcleaned
        exact .clean hrun (hclean.mp hcleaned)
      · rename_i hcleaned
        exact .summary hrun (Classical.not_not.mp (mt hclean.mpr hcleaned)) (records_add t path _)
  · intro h
    cases h with
    | clean h hnone =>
      obtain ⟨clean, hcheck, hclean⟩ := hok h
      rw [hcheck, if_pos (hclean.mpr hnone)]
    | summary h hsome hu =>
      obtain ⟨clean, hcheck, hclean⟩ := hok h
      rw [hcheck, if_neg fun hcleaned => hclean.mp hcleaned hsome, ← eq_add_iff.mpr hu]
    | fault h => exact herror h

/-! ### `anyOf` -/

theorem firstClean_eq_tryEach (xs : List S) (last : ErrorSet) :
    firstClean apply i path s xs last = tryEach (apply · i path .here s) (·.size == s.size) xs last := by
  induction xs generalizing last with
  | nil => rfl
  | cons x xs ih => exact Run.bind_congr_of_ok fun t _ => by rw [ih]

theorem cleanIsSame (ha : apply.KeepsTo free) (i : Instance) (path : String) (s : ErrorSet) :
    CleanIsSame (apply · i path .here s) (·.size == s.size) s :=
  fun _ _ ht => ha.size_beq ht

theorem checkAnyOf_eq_iff (ha : apply.KeepsTo free) :
    (checkAnyOf apply xs i path s).outcome = r ↔ AnyOf (apply.attempts i path .here) path xs s r := by
  rw [checkAnyOf, firstClean_eq_tryEach]
  by_cases hne : xs = []
  · subst hne
    constructor
    · rintro rfl
      exact .nothing rfl (records_add s path _)
    · intro h
      cases h with
      | nothing _ hu =>
        rw [eq_add_iff.mpr hu]
        rfl
      | matched h => exact absurd rfl h.ne_nil
      | unmatched h _ => exact absurd rfl h.ne_nil
      | fault h => exact absurd rfl h.ne_nil
  · have htried {r : Except Fault (Option ErrorSet)} :
        (tryEach (apply · i path .here s) (·.size == s.size) xs s).outcome = r ↔
          Tried (apply.attempts i path .here · s) s xs r :=
      tryEach_eq_iff (cleanIsSame ha i path s) hne s
    simp only [Run.outcome_bind_eq_iff, htried]
    constructor
    · rintro (⟨_ | t, h, rfl⟩ | ⟨f, h, rfl⟩)
      · exact .matched h
      · exact .unmatched h (records_add t path _)
      · exact .fault h
    · intro h
      cases h with
      | nothing h _ => exact absurd h hne
      | matched h => exact .inl ⟨none, h, rfl⟩
      | unmatched h hu => exact .inl ⟨some _, h, congrArg Except.ok (eq_add_iff.mpr hu).symm⟩
      | fault h => exact .inr ⟨_, h, rfl⟩

/-! ### `oneOf` -/

theorem runEach_eq_mapM (xs : List S) (n : Nat) (found : ErrorSet) :
    (runEach apply i path xs n found).outcome =
      (xs.mapM (apply.attempts i path .here · ∅)).map fun ts => (n + ts.count ∅, ts.foldl ErrorSet.extend found) := by
  induction xs generalizing n found with
  | nil => rfl
  | cons x xs ih =>
    rw [runEach, List.mapM_cons]
    cases hx : apply.attempts i path .here x ∅ with
    | error f =>
      rw [Run.outcome_bind_error hx]
      rfl
    | ok t =>
      rw [Run.outcome_bind_ok hx, ih]
      cases xs.mapM (apply.attempts i path .here · ∅) with
      | error f => rfl
      | ok ts =>
        have hcount : (if t.isEmpty = true then n + 1 else n) + ts.count ∅ = n + (t :: ts).count ∅ := by
          simp only [List.count_cons, beq_iff_eq, ErrorSet.isEmpty_iff]
          split <;> omega
        exact congrArg (fun m => Except.ok (m, ts.foldl ErrorSet.extend (found.extend t))) hcount

/-- Sets put one behind the other from nothing, all of it behind another set. -/
theorem extend_foldl_extend (s t : ErrorSet) (ts : List ErrorSet) :
    s.extend (ts.foldl ErrorSet.extend t) = ts.foldl ErrorSet.extend (s.extend t) := by
  induction ts generalizing t with
  | nil => rfl
  | cons u ts ih => rw [List.foldl_cons, List.foldl_cons, ih, ErrorSet.extend_extend]

theorem records_foldl_extend (s : ErrorSet) (ts : List ErrorSet) :
    (ts.foldl ErrorSet.extend s).records = ts.foldl (fun rs t => appendNew rs t.records) s.records := by
  induction ts generalizing s with
  | nil => rfl
  | cons t ts ih => rw [List.foldl_cons, List.foldl_cons, ih, records_extend]

theorem checkOneOf_eq_mapM (xs : List S) (s : ErrorSet) :
    (checkOneOf apply xs i path s).outcome = (xs.mapM (apply.attempts i path .here · ∅)).map fun ts =>
      if ts.count ∅ = 1 then s else (ts.foldl ErrorSet.extend s).add path "failed to match exactly one schema" := by
  have hrun : (runEach apply i path xs 0 ∅).outcome = _ := runEach_eq_mapM xs 0 ∅
  cases hts : xs.mapM (apply.attempts i path .here · ∅) with
  | error f =>
    rw [hts] at hrun
    rw [checkOneOf, Run.outcome_bind_error hrun]
    rfl
  | ok ts =>
    rw [hts] at hrun
    rw [checkOneOf, Run.outcome_bind_ok hrun]
    show Except.ok (if (0 + ts.count ∅ == 1) = true then s else (s.extend (ts.foldl ErrorSet.extend ∅)).add path _) = _
    simp only [Nat.zero_add, beq_iff_eq, extend_foldl_extend]
    rfl

theorem checkOneOf_eq_iff :
    (checkOneOf apply xs i path s).outcome = r ↔ OneOf (apply.attempts i path .here) path xs s r := by
  rw [checkOneOf_eq_mapM]
  constructor
  · rintro rfl
    cases hts : xs.mapM (apply.attempts i path .here · ∅) with
    | error f => exact .fault hts
    | ok ts =>
      show OneOf _ _ _ _ (.ok (if _ then _ else _))
      split
      · rename_i hone
        exact .matched hts hone
      · rename_i hone
        refine .unmatched hts hone ?_
        rw [records_add, records_foldl_extend]
  · intro h
    cases h with
    | matched hts hone => rw [hts, Except.map, if_pos hone]
    | unmatched hts hone hu =>
      rw [← records_foldl_extend, ← eq_add_iff] at hu
      rw [hts, Except.map, if_neg hone, hu]
    | fault hts => rw [hts, Except.map]

/-! ### All three -/

theorem checkOptional_eq_iff {rule : List S → ErrorSet → Run ErrorSet}
    {R : List S → ErrorSet → Except Fault ErrorSet → Prop} (h : ∀ xs s r, (rule xs s).outcome = r ↔ R xs s r)
    {branches : Option (List S)} :
    (checkOptional rule branches s).outcome = r ↔ Optionally R branches s r := by
  cases branches with
  | none =>
    constructor
    · rintro rfl
      exact .absent
    · intro h
      cases h
      rfl
  | some xs =>
    refine (h xs s r).trans ⟨.present, fun h => ?_⟩
    cases h
    assumption

/-- **The combinators leave what `Leaves` says**, and end in no other way. -/
theorem check_eq_iff (ha : apply.KeepsTo free) {c : Combinators S} {j : Json} :
    (c.check apply (.present j) path s).outcome = r ↔ c.Leaves (apply.attempts (.present j) path .here) path s r := by
  let run := apply.attempts (.present j) path .here
  have hallOf (s : ErrorSet) (r : Except Fault ErrorSet) :
      (checkOptional (checkAllOf apply · (.present j) path) c.allOf s).outcome = r ↔
        Optionally (AllOf run path) c.allOf s r := checkOptional_eq_iff fun _ _ _ => checkAllOf_eq_iff ha
  have hanyOf (s : ErrorSet) (r : Except Fault ErrorSet) :
      (checkOptional (checkAnyOf apply · (.present j) path) c.anyOf s).outcome = r ↔
        Optionally (AnyOf run path) c.anyOf s r := checkOptional_eq_iff fun _ _ _ => checkAnyOf_eq_iff ha
  have honeOf (s : ErrorSet) (r : Except Fault ErrorSet) :
      (checkOptional (checkOneOf apply · (.present j) path) c.oneOf s).outcome = r ↔
        Optionally (OneOf run path) c.oneOf s r := checkOptional_eq_iff fun _ _ _ => checkOneOf_eq_iff
  have hcheck : (c.check apply (.present j) path s).outcome =
      (checkOptional (checkAllOf apply · (.present j) path) c.allOf s >>= fun t =>
        checkOptional (checkAnyOf apply · (.present j) path) c.anyOf t >>= fun u =>
          checkOptional (checkOneOf apply · (.present j) path) c.oneOf u).outcome := rfl
  rw [hcheck]
  simp only [Run.outcome_bind_eq_iff, hallOf, hanyOf, honeOf]
  constructor
  · rintro (⟨t, ht, ⟨u, hu, hr⟩ | ⟨f, hf, rfl⟩⟩ | ⟨f, hf, rfl⟩)
    · exact .all ht hu hr
    · exact .anyOf ht hf
    · exact .allOf hf
  · intro h
    cases h with
    | all ht hu hr => exact .inl ⟨_, ht, .inl ⟨_, hu, hr⟩⟩
    | anyOf ht hf => exact .inl ⟨_, ht, .inr ⟨_, hf, rfl⟩⟩
    | allOf hf => exact .inr ⟨_, hf, rfl⟩

/-- **`anyOf` tries no branch behind one that is not refused.** -/
theorem checkAnyOf_behind (ha : apply.KeepsTo free) {x : S}
    (hx : ¬ Refused (apply.attempts i path .here · s) s x) (before behind behind' : List S) :
    checkAnyOf apply (before ++ x :: behind) i path s = checkAnyOf apply (before ++ x :: behind') i path s := by
  rw [checkAnyOf, checkAnyOf, firstClean_eq_tryEach, firstClean_eq_tryEach,
    tryEach_behind (cleanIsSame ha i path s) hx before behind behind']

end Combinators

/-! ## Lists of types -/

namespace TypeRule

/-- What a list of types leaves: what was there, if the list is empty or some alternative finds nothing on its own; or
else behind it what the last alternative finds on its own, as far as it is new. -/
inductive Union (attempt : TypeRule S → Except Fault ErrorSet) (candidates : List (TypeRule S)) (s : ErrorSet) :
    Except Fault ErrorSet → Prop where
  | nothing (h : candidates = []) : Union attempt candidates s (.ok s)
  | accepted (h : Tried attempt ∅ candidates (.ok none)) : Union attempt candidates s (.ok s)
  | refused {t u} (h : Tried attempt ∅ candidates (.ok (some t))) (hu : u.records = appendNew s.records t.records) :
    Union attempt candidates s (.ok u)
  | fault {f} (h : Tried attempt ∅ candidates (.error f)) : Union attempt candidates s (.error f)

/-- What an alternative finds on its own. -/
def attempts (mode : Mode) (apply : Checker S) (i : Instance) (path : String) : TypeRule S → Except Fault ErrorSet :=
  fun r => (r.check mode apply i path ∅).outcome

theorem firstClean_eq_tryEach (rs : List (TypeRule S)) (last : ErrorSet) :
    firstClean mode apply i path rs last = tryEach (check mode apply i path · ∅) ErrorSet.isEmpty rs last := by
  induction rs generalizing last with
  | nil =>
    rw [firstClean]
    rfl
  | cons r rs ih =>
    rw [firstClean, tryEach]
    exact Run.bind_congr_of_ok fun t _ => by rw [ih]

theorem cleanIsSame (mode : Mode) (apply : Checker S) (i : Instance) (path : String) :
    CleanIsSame (check mode apply i path · ∅) ErrorSet.isEmpty ∅ :=
  fun _ _ _ => ErrorSet.isEmpty_iff

variable {candidates : List (TypeRule S)} {s : ErrorSet} {e : Except Fault ErrorSet}

theorem check_union_nil : check mode apply i path (.union []) s = pure s := by
  rw [check]
  rfl

theorem check_union_cons (r : TypeRule S) (rs : List (TypeRule S)) :
    check mode apply i path (.union (r :: rs)) s =
      tryEach (check mode apply i path · ∅) ErrorSet.isEmpty (r :: rs) ∅ >>= fun found =>
        pure (found.elim s s.extend) := by
  rw [check, ← firstClean_eq_tryEach]
  refine Run.bind_congr_of_ok fun found _ => ?_
  cases found <;> rfl

/-- **A list of types leaves what `Union` says**, and ends in no other way. -/
theorem check_union_eq_iff :
    (check mode apply i path (.union candidates) s).outcome = e ↔ Union (attempts mode apply i path) candidates s e := by
  rcases candidates with _ | ⟨r, rs⟩
  · rw [check_union_nil]
    constructor
    · rintro rfl
      exact .nothing rfl
    · intro h
      cases h with
      | nothing => rfl
      | accepted h => exact absurd rfl h.ne_nil
      | refused h => exact absurd rfl h.ne_nil
      | fault h => exact absurd rfl h.ne_nil
  · rw [check_union_cons]
    have htried {e : Except Fault (Option ErrorSet)} :
        (tryEach (check mode apply i path · ∅) ErrorSet.isEmpty (r :: rs) ∅).outcome = e ↔
          Tried (attempts mode apply i path) ∅ (r :: rs) e :=
      tryEach_eq_iff (cleanIsSame mode apply i path) (List.cons_ne_nil r rs) ∅
    simp only [Run.outcome_bind_eq_iff, htried]
    constructor
    · rintro (⟨_ | t, h, rfl⟩ | ⟨f, h, rfl⟩)
      · exact .accepted h
      · exact .refused h (records_extend s t)
      · exact .fault h
    · intro h
      cases h with
      | nothing h => exact nomatch h
      | accepted h => exact .inl ⟨none, h, rfl⟩
      | refused h hu => exact .inl ⟨some _, h, congrArg Except.ok (eq_extend_iff.mpr hu).symm⟩
      | fault h => exact .inr ⟨_, h, rfl⟩

/-- **A list of types tries no alternative behind one that is not refused.** -/
theorem check_union_behind {r : TypeRule S} (hr : ¬ Refused (attempts mode apply i path) ∅ r)
    (before behind behind' : List (TypeRule S)) :
    check mode apply i path (.union (before ++ r :: behind)) s =
      check mode apply i path (.union (before ++ r :: behind')) s := by
  have hbehind := tryEach_behind (cleanIsSame mode apply i path) hr before behind behind' ∅
  cases before with
  | nil =>
    rw [List.nil_append, List.nil_append] at hbehind ⊢
    rw [check_union_cons, check_union_cons, hbehind]
  | cons q before =>
    rw [List.cons_append, List.cons_append] at hbehind ⊢
    rw [check_union_cons, check_union_cons, hbehind]

end TypeRule

/-! ## Elements with a second chance -/

namespace ElementRules

/-- What is left of an element that is held against the schema for all elements, and may have a second chance. -/
inductive Element (run : Attempts S) (additional : Additional S) (x : S) (s : ErrorSet) :
    Except Fault ErrorSet → Prop where
  /-- The schema is satisfied. -/
  | satisfied (h : run x s = .ok s) : Element run additional x s (.ok s)
  /-- There is no second chance. -/
  | only {first} (h : run x s = .ok first) (ha : additional = .unspecified ∨ additional = .deny) :
    Element run additional x s (.ok first)
  /-- Additional elements may be anything. -/
  | excused {first} (h : run x s = .ok first) (hne : first ≠ s) (ha : additional = .allow) :
    Element run additional x s (.ok s)
  /-- The second attempt, from the same set as the first, leaves fewer records. -/
  | second {first other second} (h : run x s = .ok first) (hne : first ≠ s) (ha : additional = .schema other)
    (hother : run other s = .ok second) (hless : second.size < first.size) : Element run additional x s (.ok second)
  /-- The second attempt does not. -/
  | first {first other second} (h : run x s = .ok first) (hne : first ≠ s) (ha : additional = .schema other)
    (hother : run other s = .ok second) (hless : first.size ≤ second.size) : Element run additional x s (.ok first)
  | fault {f} (h : run x s = .error f) : Element run additional x s (.error f)
  | secondFault {first other f} (h : run x s = .ok first) (hne : first ≠ s) (ha : additional = .schema other)
    (hother : run other s = .error f) : Element run additional x s (.error f)

/-- What is left of elements that are treated in order, each from what those before it have left. -/
inductive Every (step : Nat → Json → ErrorSet → Except Fault ErrorSet → Prop) :
    Nat → List Json → ErrorSet → Except Fault ErrorSet → Prop where
  | nil {position s} : Every step position [] s (.ok s)
  | cons {position e es s t r} (he : step position e s (.ok t)) (h : Every step (position + 1) es t r) :
    Every step position (e :: es) s r
  | fault {position e es s f} (he : step position e s (.error f)) : Every step position (e :: es) s (.error f)

variable {additional : Additional S} {x : S} {s t : ErrorSet} {r : Except Fault ErrorSet}

/-- One attempt alone is kept, or none. -/
theorem Element.one {run : Attempts S} (h : Element run additional x s (.ok t)) :
    t = s ∨ run x s = .ok t ∨ ∃ other, additional = .schema other ∧ run other s = .ok t := by
  cases h with
  | satisfied _ => exact .inl rfl
  | only h _ => exact .inr (.inl h)
  | excused _ _ _ => exact .inl rfl
  | second _ _ ha hother _ => exact .inr (.inr ⟨_, ha, hother⟩)
  | first h _ _ _ _ => exact .inr (.inl h)

/-- An element that satisfies the schema has no need of a second chance. -/
theorem checkElement_of_same {position : Nat} {e : Json}
    (h : apply.attempts (.present e) path (.index position) x s = .ok s) :
    (checkElement apply additional x path position e s).outcome = .ok s := by
  rw [checkElement, Run.outcome_bind_ok h, if_pos (beq_self_eq_true _)]
  rfl

theorem checkElement_of_ne (ha : apply.KeepsTo free) {position : Nat} {e : Json} {first : ErrorSet}
    (h : apply.attempts (.present e) path (.index position) x s = .ok first) (hne : first ≠ s) :
    (checkElement apply additional x path position e s).outcome =
      match additional with
      | .unspecified | .deny => .ok first
      | .allow => .ok s
      | .schema other => (apply.attempts (.present e) path (.index position) other s).map fun second =>
          if second.size < first.size then second else first := by
  rw [checkElement, Run.outcome_bind_ok h, if_neg (mt (ha.size_beq h).mp hne)]
  cases additional with
  | unspecified => rfl
  | deny => rfl
  | allow => rfl
  | schema other =>
    dsimp only
    cases hother : apply.attempts (.present e) path (.index position) other s with
    | error f =>
      rw [Run.outcome_bind_error hother]
      rfl
    | ok second =>
      rw [Run.outcome_bind_ok hother]
      rfl

/-- An element comes to one of the ends. -/
theorem element_checkElement (ha : apply.KeepsTo free) (position : Nat) (e : Json) :
    Element (apply.attempts (.present e) path (.index position)) additional x s
      (checkElement apply additional x path position e s).outcome := by
  cases hx : apply.attempts (.present e) path (.index position) x s with
  | error f =>
    rw [checkElement, Run.outcome_bind_error hx]
    exact .fault hx
  | ok first =>
    by_cases hne : first = s
    · subst hne
      rw [checkElement_of_same hx]
      exact .satisfied hx
    · rw [checkElement_of_ne ha hx hne]
      cases additional with
      | unspecified => exact .only hx (.inl rfl)
      | deny => exact .only hx (.inr rfl)
      | allow => exact .excused hx hne rfl
      | schema other =>
        dsimp only
        cases hother : apply.attempts (.present e) path (.index position) other s with
        | error f => exact .secondFault hx hne rfl hother
        | ok second =>
          rw [Except.map]
          split
          · rename_i hless
            exact .second hx hne rfl hother hless
          · rename_i hless
            exact .first hx hne rfl hother (Nat.le_of_not_lt hless)

/-- And to no other one. -/
theorem Element.outcome_eq (ha : apply.KeepsTo free) {position : Nat} {e : Json}
    (h : Element (apply.attempts (.present e) path (.index position)) additional x s r) :
    (checkElement apply additional x path position e s).outcome = r := by
  cases h with
  | satisfied h => exact checkElement_of_same h
  | @only first h hadditional =>
    by_cases hne : first = s
    · subst hne
      exact checkElement_of_same h
    · rw [checkElement_of_ne ha h hne]
      rcases hadditional with rfl | rfl <;> rfl
  | excused h hne hadditional =>
    subst hadditional
    exact checkElement_of_ne ha h hne
  | second h hne hadditional hother hless =>
    subst hadditional
    rw [checkElement_of_ne ha h hne]
    dsimp only
    rw [hother, Except.map, if_pos hless]
  | first h hne hadditional hother hless =>
    subst hadditional
    rw [checkElement_of_ne ha h hne]
    dsimp only
    rw [hother, Except.map, if_neg (Nat.not_lt.mpr hless)]
  | fault h => rw [checkElement, Run.outcome_bind_error h]
  | secondFault h hne hadditional hother =>
    subst hadditional
    rw [checkElement_of_ne ha h hne]
    dsimp only
    rw [hother, Except.map]

theorem checkElement_eq_iff (ha : apply.KeepsTo free) {position : Nat} {e : Json} :
    (checkElement apply additional x path position e s).outcome = r ↔
      Element (apply.attempts (.present e) path (.index position)) additional x s r :=
  ⟨fun h => h ▸ element_checkElement ha position e, fun h => h.outcome_eq ha⟩

/-- **Elements leave what `Every` says**, and end in no other way. -/
theorem checkEvery_eq_iff (ha : apply.KeepsTo free) {position : Nat} {es : List Json} :
    (checkEvery apply additional x path position es s).outcome = r ↔
      Every (fun n e => Element (apply.attempts (.present e) path (.index n)) additional x) position es s r := by
  induction es generalizing position s r with
  | nil =>
    constructor
    · rintro rfl
      exact .nil
    · intro h
      cases h
      rfl
  | cons e es ih =>
    rw [checkEvery, Run.outcome_bind_eq_iff]
    simp only [checkElement_eq_iff ha, ih]
    constructor
    · rintro (⟨t, he, h⟩ | ⟨f, he, rfl⟩)
      · exact .cons he h
      · exact .fault he
    · intro h
      cases h with
      | cons he h => exact .inl ⟨_, he, h⟩
      | fault he => exact .inr ⟨_, he, rfl⟩

end ElementRules

end JsonSchema
