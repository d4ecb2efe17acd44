import JsonSchema.Proofs.Keyword.Hands

/-!
# What a check may record

Whatever the subschemas of a schema object do, the keywords around them only append to the set of violations,
record at the path of the instance or of a member that they deny, and end with few faults of their own. All of this
is one statement, because all of it is carried through the same keywords.

## What is here

* `Fault.path?` — the path that a fault names.
* `Remit` — which violations may be recorded, and which faults may end a check. `Remit.Permits` — anything may be
  reported at a path. `Remit.free` — the remit without restrictions; keeping to it is appending.
* `Remit.Grows` — a set extends another one by allowed violations. `Remit.Ends` — a run ends well with what a
  condition asks for, or with an allowed fault.
* `Keywords.check_grows` — **keywords keep to a remit if what they hand on does**. The other theorems are its parts,
  one for each module of keywords.
-/

set_option autoImplicit false

namespace JsonSchema

/-- The path that a fault names. -/
def Fault.path? : Fault → Option String
  | .notAnObject path _ | .unknownType path _ | .invalidPattern path _ _ | .depthExceeded path _ => some path
  | .unresolvable _ _ | .invalidUri _ _ | .missingSchema | .incompletePlan _ => none

/-- What a check may record and how it may end. -/
structure Remit where
  /-- The violation may be recorded. -/
  records : Violation → Prop
  /-- The fault may end a check. -/
  faults : Fault → Prop

namespace Remit

/-- The remit without restrictions. -/
def free : Remit where
  records _ := True
  faults _ := True

/-- Anything may be reported at the path. -/
structure Permits (b : Remit) (path : String) : Prop where
  message : ∀ message, b.records ⟨path, message⟩
  fault : ∀ {f : Fault}, f.path? = some path → b.faults f

theorem free_permits (path : String) : free.Permits path :=
  ⟨fun _ => trivial, fun _ => trivial⟩

variable {b : Remit} {α β : Type} {s t u : ErrorSet} {path message : String}

/-! ## Sets that grow -/

/-- The second set has the records of the first one in front, and allowed ones behind them. -/
structure Grows (b : Remit) (s t : ErrorSet) : Prop where
  appends : s.records <+: t.records
  allowed : ∀ v ∈ t.records, v ∈ s.records ∨ b.records v

theorem Grows.refl (s : ErrorSet) : b.Grows s s :=
  ⟨List.prefix_refl _, fun _ => Or.inl⟩

theorem Grows.trans (hst : b.Grows s t) (htu : b.Grows t u) : b.Grows s u :=
  ⟨hst.appends.trans htu.appends, fun v hv => (htu.allowed v hv).elim (hst.allowed v) Or.inr⟩

theorem Grows.add (h : b.records ⟨path, message⟩) (s : ErrorSet) : b.Grows s (s.add path message) := by
  refine ⟨s.prefix_add path message, fun v hv => ?_⟩
  rcases ErrorSet.mem_records_add.mp hv with hv | rfl
  · exact Or.inl hv
  · exact Or.inr h

/-- A message that is recorded on a condition. -/
theorem Grows.addIf (h : b.records ⟨path, message⟩) (s : ErrorSet) (p : Prop) [Decidable p] :
    b.Grows s (if p then s.add path message else s) := by
  split
  · exact Grows.add h s
  · exact Grows.refl s

theorem Grows.addUnless (h : b.records ⟨path, message⟩) (s : ErrorSet) (p : Prop) [Decidable p] :
    b.Grows s (if p then s else s.add path message) := by
  split
  · exact Grows.refl s
  · exact Grows.add h s

theorem Grows.foldl {f : ErrorSet → α → ErrorSet} {xs : List α}
    (h : ∀ x ∈ xs, ∀ s, b.Grows s (f s x)) (s : ErrorSet) : b.Grows s (xs.foldl f s) := by
  induction xs generalizing s with
  | nil => exact Grows.refl s
  | cons x xs ih =>
    exact (h x List.mem_cons_self s).trans (ih (fun y hy => h y (List.mem_cons_of_mem x hy)) (f s x))

/-- What was found from the empty set, all of it allowed, is recorded behind what is there. -/
theorem Grows.extend (h : b.Grows ∅ t) (s : ErrorSet) : b.Grows s (s.extend t) := by
  refine ⟨s.prefix_extend t, fun v hv => ?_⟩
  refine (ErrorSet.mem_records_extend.mp hv).imp id fun hv => ?_
  exact (h.allowed v hv).resolve_left List.not_mem_nil

/-! ## Runs that end as allowed -/

/-- A run ends well with what is asked for, or with an allowed fault. -/
def Ends (b : Remit) (x : Run α) (Q : α → Prop) : Prop :=
  match x.outcome with
  | .ok a => Q a
  | .error f => b.faults f

theorem Ends.ok {x : Run α} {Q : α → Prop} {a : α} (h : b.Ends x Q) (hx : x.outcome = .ok a) : Q a := by
  rwa [Ends, hx] at h

theorem Ends.fault {x : Run α} {Q : α → Prop} {f : Fault} (h : b.Ends x Q) (hx : x.outcome = .error f) :
    b.faults f := by
  rwa [Ends, hx] at h

theorem Ends.imp {x : Run α} {Q Q' : α → Prop} (h : b.Ends x Q) (hQ : ∀ a, Q a → Q' a) : b.Ends x Q' := by
  rw [Ends] at h ⊢
  split
  · rename_i a ha
    rw [ha] at h
    exact hQ a h
  · rename_i f hf
    rwa [hf] at h

theorem Ends.pure {Q : α → Prop} {a : α} (h : Q a) : b.Ends (pure a : Run α) Q :=
  h

theorem Ends.bind {x : Run α} {f : α → Run β} {Q : α → Prop} {Q' : β → Prop} (hx : b.Ends x Q)
    (hf : ∀ a, Q a → b.Ends (f a) Q') : b.Ends (x >>= f) Q' := by
  cases h : x.outcome with
  | error e =>
    rw [Ends, Run.outcome_bind_error h]
    exact hx.fault h
  | ok a =>
    rw [Ends, Run.outcome_bind_ok h]
    exact hf a (hx.ok h)

/-- What may be left behind `t` may be left behind `s`, if `t` may be. -/
theorem Ends.grows_trans {x : Run ErrorSet} (hst : b.Grows s t) (hx : b.Ends x (b.Grows t)) :
    b.Ends x (b.Grows s) :=
  hx.imp fun _ => hst.trans

theorem Ends.foldlM {f : ErrorSet → α → Run ErrorSet} {xs : List α}
    (h : ∀ x ∈ xs, ∀ s, b.Ends (f s x) (b.Grows s)) (s : ErrorSet) :
    b.Ends (xs.foldlM f s) (b.Grows s) := by
  induction xs generalizing s with
  | nil => exact Ends.pure (Grows.refl s)
  | cons x xs ih =>
    rw [List.foldlM_cons]
    refine Ends.bind (h x List.mem_cons_self s) fun t ht => ?_
    exact Ends.grows_trans ht (ih (fun y hy => h y (List.mem_cons_of_mem x hy)) t)

end Remit

/-! ## Subschemas -/

/-- The subschemas of a schema object keep to a remit. -/
def Checker.KeepsTo {S : Type} (apply : Checker S) (b : Remit) : Prop :=
  ∀ x i path segment s, b.Ends (apply x i path segment s) (b.Grows s)

/-- What keywords hand on keeps to a remit, when they are held against an instance at a path. -/
def Checker.KeepsFor {S : Type} (apply : Checker S) (b : Remit) (k : Keywords S) (i : Instance) (path : String) : Prop :=
  ∀ x j step, k.Hands i x j step → ∀ s, b.Ends (apply x j path step s) (b.Grows s)

open Remit

variable {S : Type} {b : Remit} {apply : Checker S} {mode : Mode} {i : Instance} {path message : String}

/-! ## Types -/

namespace TypeRule

mutual

theorem check_grows (hp : b.Permits path) : ∀ (r : TypeRule S),
    (∀ x, r.Names x → ∀ s, b.Ends (apply x i path .here s) (b.Grows s)) →
      ∀ s, b.Ends (r.check mode apply i path s) (b.Grows s)
  | .any, _, s => Ends.pure (Grows.refl s)
  | .named _, _, s => Ends.pure (Grows.addUnless (hp.message _) s _)
  | .schema x, ha, s => ha x .schema s
  | .unknown _, _, _ => hp.fault rfl
  | .union candidates, ha, s => by
    rw [check]
    split
    · exact Ends.pure (Grows.refl s)
    · have hcandidates := firstClean_grows hp candidates (fun r hr x hx => ha x (.union hr hx)) ∅ (Grows.refl ∅)
      refine Ends.bind hcandidates fun found hfound => ?_
      cases found with
      | none => exact Ends.pure (Grows.refl s)
      | some last => exact Ends.pure (Grows.extend (hfound last rfl) s)

theorem firstClean_grows (hp : b.Permits path) : ∀ (rs : List (TypeRule S)),
    (∀ r ∈ rs, ∀ x, r.Names x → ∀ s, b.Ends (apply x i path .here s) (b.Grows s)) →
      ∀ last : ErrorSet, b.Grows ∅ last →
        b.Ends (firstClean mode apply i path rs last) fun found => ∀ t, found = some t → b.Grows ∅ t
  | [], _, last, hl => Ends.pure fun t ht => by
    cases ht
    exact hl
  | r :: rs, ha, last, _ => by
    rw [firstClean]
    refine Ends.bind (check_grows hp r (ha r List.mem_cons_self) ∅) fun found hfound => ?_
    split
    · exact Ends.pure fun t ht => nomatch ht
    · exact firstClean_grows hp rs (fun r' hr' => ha r' (List.mem_cons_of_mem r hr')) found hfound

end

end TypeRule

/-! ## Conditions -/

theorem Required.check_grows (hp : b.Permits path) (r : Required) (i : Instance) (s : ErrorSet) :
    b.Grows s (r.check i path s) := by
  unfold Required.check
  split
  · exact Grows.foldl (fun _ _ s => Grows.addUnless (hp.message _) s _) s
  · exact Grows.add (hp.message _) s
  · exact Grows.refl s

theorem Dependency.check_grows {members : Members} (hp : b.Permits path) (key : String) (d : Dependency S)
    (ha : ∀ x, d = .schema x → ∀ s, b.Ends (apply x (.present (.object members)) path .here s) (b.Grows s))
    (s : ErrorSet) : b.Ends (d.check apply members path key s) (b.Grows s) := by
  unfold Dependency.check
  cases d with
  | properties wanted => exact Ends.pure (Grows.foldl (fun _ _ s => Grows.addUnless (hp.message _) s _) s)
  | schema x => exact ha x rfl s
  | ignored => exact Ends.pure (Grows.refl s)

/-- A limit is held against a count. -/
theorem Limit.check_grows (hp : b.Permits path) (limit : Option Limit) (exceeded : Limit → Bool)
    (message : Limit → String) (s : ErrorSet) :
    b.Grows s (match limit with
      | some l => if exceeded l then s.add path (message l) else s
      | none => s) := by
  cases limit with
  | none => exact Grows.refl s
  | some l => exact Grows.addIf (hp.message _) s _

namespace Conditions

/-- Giving up an attempt appends at most the message. -/
theorem negate_grows {x : Run ErrorSet} {s : ErrorSet} (h : b.records ⟨path, message⟩) (hx : b.Ends x (b.Grows s)) :
    b.Ends (return negate path message s (← x)) (b.Grows s) :=
  Ends.bind hx fun _ _ => Ends.pure (Grows.addIf h s _)

theorem checkSize_grows (hp : b.Permits path) (c : Conditions S) (members : Members) (s : ErrorSet) :
    b.Grows s (c.checkSize members path s) :=
  (Limit.check_grows hp c.minProperties (·.above members.length) _ s).trans
    (Limit.check_grows hp c.maxProperties (·.below members.length) _ _)

theorem check_grows {k : Keywords S} (hp : b.Permits path) (ha : apply.KeepsFor b k i path) (s : ErrorSet) :
    b.Ends (k.conditions.check mode apply i path s) (b.Grows s) := by
  have hextended (s : ErrorSet) :
      b.Ends (k.conditions.extended.foldlM (fun s x => apply x i path .here s) s) (b.Grows s) :=
    Ends.foldlM (fun x hx s => ha x i .here (.shares (.extended hx)) s) s
  have htype (s : ErrorSet) : b.Ends (k.conditions.checkType mode apply i path s) (b.Grows s) := by
    unfold checkType
    cases htype : k.conditions.type with
    | none => exact Ends.pure (Grows.refl s)
    | some rule =>
      cases i with
      | absent => exact Ends.pure (Grows.refl s)
      | present j => exact TypeRule.check_grows hp rule (fun x hx => ha x _ .here (.type htype hx)) s
  have hdisallow (s : ErrorSet) : b.Ends (k.conditions.checkDisallow mode apply i path s) (b.Grows s) := by
    unfold checkDisallow
    cases hdisallow : k.conditions.disallow with
    | none => exact Ends.pure (Grows.refl s)
    | some rule =>
      exact negate_grows (hp.message _) (TypeRule.check_grows hp rule (fun x hx => ha x i .here (.disallow hdisallow hx)) s)
  have hnot (s : ErrorSet) : b.Ends (k.conditions.checkNot apply i path s) (b.Grows s) := by
    unfold checkNot
    cases hnot : k.conditions.not with
    | none => exact Ends.pure (Grows.refl s)
    | some x => exact negate_grows (hp.message _) (ha x i .here (.shares (.not hnot)) s)
  rw [check]
  refine Ends.bind (hextended s) fun t₁ h₁ => Ends.grows_trans h₁ ?_
  refine Ends.grows_trans (Required.check_grows hp k.conditions.required i t₁) ?_
  refine Ends.bind (htype _) fun t₂ h₂ => Ends.grows_trans h₂ ?_
  refine Ends.bind (hdisallow t₂) fun t₃ h₃ => Ends.grows_trans h₃ ?_
  refine Ends.bind (hnot t₃) fun t₄ h₄ => Ends.grows_trans h₄ ?_
  split
  · refine Ends.grows_trans (checkSize_grows hp k.conditions _ t₄) (Ends.foldlM (fun d hd s => ?_) _)
    dsimp only
    split
    · rename_i hkey
      exact Dependency.check_grows hp d.1 d.2 (fun x hx => ha x _ .here (.shares (.dependency (hx ▸ hd) hkey))) s
    · exact Ends.pure (Grows.refl s)
  · exact Ends.pure (Grows.refl t₄)

end Conditions

/-! ## Combinators -/

namespace Combinators

section

variable {xs : List S} (ha : ∀ x ∈ xs, ∀ s, b.Ends (apply x i path .here s) (b.Grows s))

include ha

theorem runAll_grows (s : ErrorSet) : b.Ends (runAll apply i path xs s) fun r => b.Grows s r.2 := by
  induction xs generalizing s with
  | nil => exact Ends.pure (Grows.refl s)
  | cons x xs ih =>
    rw [runAll]
    refine Ends.bind (ha x List.mem_cons_self s) fun t ht => ?_
    exact Ends.bind (ih (fun y hy => ha y (List.mem_cons_of_mem x hy)) t) fun r hr => Ends.pure (ht.trans hr)

theorem checkAllOf_grows (hp : b.Permits path) (s : ErrorSet) : b.Ends (checkAllOf apply xs i path s) (b.Grows s) :=
  Ends.bind (runAll_grows ha s) fun r hr => Ends.pure (hr.trans (Grows.addUnless (hp.message _) r.2 (r.1 = true)))

/-- What is left when every branch found something is what some branch left, or what was there. -/
theorem firstClean_grows (s last : ErrorSet) (hl : b.Grows s last) :
    b.Ends (firstClean apply i path s xs last) fun found => ∀ t, found = some t → b.Grows s t := by
  induction xs generalizing last with
  | nil =>
    refine Ends.pure fun t ht => ?_
    cases ht
    exact hl
  | cons x xs ih =>
    rw [firstClean]
    refine Ends.bind (ha x List.mem_cons_self s) fun t ht => ?_
    split
    · exact Ends.pure fun t ht => nomatch ht
    · exact ih (fun y hy => ha y (List.mem_cons_of_mem x hy)) t ht

theorem checkAnyOf_grows (hp : b.Permits path) (s : ErrorSet) : b.Ends (checkAnyOf apply xs i path s) (b.Grows s) := by
  refine Ends.bind (firstClean_grows ha s s (Grows.refl s)) fun found hfound => ?_
  cases found with
  | none => exact Ends.pure (Grows.refl s)
  | some last => exact Ends.pure ((hfound last rfl).trans (Grows.add (hp.message _) last))

theorem runEach_grows (n : Nat) (found : ErrorSet) (hf : b.Grows ∅ found) :
    b.Ends (runEach apply i path xs n found) fun r => b.Grows ∅ r.2 := by
  induction xs generalizing n found with
  | nil => exact Ends.pure hf
  | cons x xs ih =>
    rw [runEach]
    refine Ends.bind (ha x List.mem_cons_self ∅) fun t ht => ?_
    exact ih (fun y hy => ha y (List.mem_cons_of_mem x hy)) _ _ (hf.trans (ht.extend found))

theorem checkOneOf_grows (hp : b.Permits path) (s : ErrorSet) : b.Ends (checkOneOf apply xs i path s) (b.Grows s) := by
  refine Ends.bind (runEach_grows ha 0 ∅ (Grows.refl ∅)) fun r hr => Ends.pure ?_
  show b.Grows s (if r.1 == 1 then s else (s.extend r.2).add path _)
  split
  · exact Grows.refl s
  · exact (hr.extend s).trans (Grows.add (hp.message _) _)

end

theorem checkOptional_grows {rule : List S → ErrorSet → Run ErrorSet} {branches : Option (List S)}
    (h : ∀ xs, branches = some xs → ∀ s, b.Ends (rule xs s) (b.Grows s)) (s : ErrorSet) :
    b.Ends (checkOptional rule branches s) (b.Grows s) := by
  cases branches with
  | none => exact Ends.pure (Grows.refl s)
  | some xs => exact h xs rfl s

theorem check_grows {k : Keywords S} (hp : b.Permits path) (ha : apply.KeepsFor b k i path) (s : ErrorSet) :
    b.Ends (k.combinators.check apply i path s) (b.Grows s) := by
  cases i with
  | absent => exact Ends.pure (Grows.refl s)
  | present j =>
    have hallOf (s : ErrorSet) :
        b.Ends (checkOptional (checkAllOf apply · (.present j) path) k.combinators.allOf s) (b.Grows s) :=
      checkOptional_grows (fun xs hxs => checkAllOf_grows (fun x hx => ha x _ .here (.shares (.allOf hxs hx))) hp) s
    have hanyOf (s : ErrorSet) :
        b.Ends (checkOptional (checkAnyOf apply · (.present j) path) k.combinators.anyOf s) (b.Grows s) :=
      checkOptional_grows (fun xs hxs => checkAnyOf_grows (fun x hx => ha x _ .here (.shares (.anyOf hxs hx))) hp) s
    have honeOf (s : ErrorSet) :
        b.Ends (checkOptional (checkOneOf apply · (.present j) path) k.combinators.oneOf s) (b.Grows s) :=
      checkOptional_grows (fun xs hxs => checkOneOf_grows (fun x hx => ha x _ .here (.oneOf hxs hx)) hp) s
    refine Ends.bind (hallOf s) fun t ht => Ends.grows_trans ht ?_
    exact Ends.bind (hanyOf t) fun u hu => Ends.grows_trans hu (honeOf u)

end Combinators

/-! ## Arrays -/

namespace ElementRules

theorem checkCount_grows (hp : b.Permits path) (r : ElementRules S) (elements : List Json) (s : ErrorSet) :
    b.Grows s (r.checkCount elements path s) :=
  ((Limit.check_grows hp r.minItems (·.above elements.length) _ s).trans
    (Limit.check_grows hp r.maxItems (·.below elements.length) _ _)).trans (Grows.addIf (hp.message _) _ _)

theorem checkElement_grows {a : Additional S} {x : S} {position : Nat} {e : Json}
    (hx : ∀ s, b.Ends (apply x (.present e) path (.index position) s) (b.Grows s))
    (hother : ∀ other, a = .schema other → ∀ s, b.Ends (apply other (.present e) path (.index position) s) (b.Grows s))
    (s : ErrorSet) : b.Ends (checkElement apply a x path position e s) (b.Grows s) := by
  rw [checkElement]
  refine Ends.bind (hx s) fun first hfirst => ?_
  split
  · exact Ends.pure hfirst
  · cases a with
    | unspecified => exact Ends.pure hfirst
    | deny => exact Ends.pure hfirst
    | allow => exact Ends.pure (Grows.refl s)
    | schema other =>
      refine Ends.bind (hother other rfl s) fun second hsecond => Ends.pure ?_
      split
      · exact hsecond
      · exact hfirst

theorem checkEvery_grows {a : Additional S} {x : S} {es : List Json} {position : Nat}
    (h : ∀ n e, es[n]? = some e → ∀ s, b.Ends (checkElement apply a x path (position + n) e s) (b.Grows s)) (s : ErrorSet) :
    b.Ends (checkEvery apply a x path position es s) (b.Grows s) := by
  induction es generalizing position s with
  | nil => exact Ends.pure (Grows.refl s)
  | cons e es ih =>
    rw [checkEvery]
    refine Ends.bind (h 0 e rfl s) fun t ht => Ends.grows_trans ht (ih (fun n e' he' => ?_) t)
    rw [Nat.add_assoc, Nat.add_comm 1 n]
    exact h (n + 1) e' he'

theorem checkSurplus_grows {a : Additional S} {segment : Segment} {position : Nat} {e : Json} (hp : b.Permits path)
    (h : ∀ x, a = .schema x → ∀ s, b.Ends (apply x (.present e) path (.index position) s) (b.Grows s)) (s : ErrorSet) :
    b.Ends (checkSurplus apply a path segment position e s) (b.Grows s) := by
  cases a with
  | schema x => exact h x rfl s
  | deny => exact Ends.pure (Grows.add (hp.message _) s)
  | allow => exact Ends.pure (Grows.refl s)
  | unspecified => exact Ends.pure (Grows.refl s)

theorem checkPositions_grows {a : Additional S} {segment : Segment} :
    ∀ {position : Nat} {xs : List S} {es : List Json},
      (∀ n x, xs[n]? = some x → ∀ s,
        b.Ends (apply x (Instance.ofOption es[n]?) path (.index (position + n)) s) (b.Grows s)) →
      (∀ n e, es[n]? = some e → ∀ s, b.Ends (checkSurplus apply a path segment (position + n) e s) (b.Grows s)) →
      ∀ s, b.Ends (checkPositions apply a path segment position xs es s) (b.Grows s)
  | _, [], [], _, _, s => by
    rw [checkPositions]
    exact Ends.pure (Grows.refl s)
  | position, x :: xs, [], hx, he, s => by
    rw [checkPositions]
    refine Ends.bind (hx 0 x rfl s) fun t ht => Ends.grows_trans ht (checkPositions_grows (fun n y hy => ?_) (by simp) t)
    rw [Nat.add_assoc, Nat.add_comm 1 n]
    exact hx (n + 1) y hy
  | position, [], e :: es, hx, he, s => by
    rw [checkPositions]
    refine Ends.bind (he 0 e rfl s) fun t ht => Ends.grows_trans ht (checkPositions_grows (by simp) (fun n e' he' => ?_) t)
    rw [Nat.add_assoc, Nat.add_comm 1 n]
    exact he (n + 1) e' he'
  | position, x :: xs, e :: es, hx, he, s => by
    rw [checkPositions]
    refine Ends.bind (hx 0 x rfl s) fun t ht =>
      Ends.grows_trans ht (checkPositions_grows (fun n y hy => ?_) (fun n e' he' => ?_) t)
    · rw [Nat.add_assoc, Nat.add_comm 1 n]
      exact hx (n + 1) y hy
    · rw [Nat.add_assoc, Nat.add_comm 1 n]
      exact he (n + 1) e' he'

theorem check_grows {k : Keywords S} {elements : List Json} {segment : Segment} (hp : b.Permits path)
    (ha : apply.KeepsFor b k (.present (.array elements)) path) (s : ErrorSet) :
    b.Ends (k.elements.check apply elements path segment s) (b.Grows s) := by
  rw [check]
  refine Ends.grows_trans (checkCount_grows hp k.elements elements s) ?_
  cases hitems : k.elements.items with
  | unspecified => exact Ends.pure (Grows.refl _)
  | every x =>
    refine checkEvery_grows (fun n e he => ?_) _
    rw [Nat.zero_add]
    exact checkElement_grows (ha x _ _ (.shares (.item hitems he)))
      fun other ho => ha other _ _ (.shares (.additionalItem ho he))
  | positions xs =>
    dsimp only
    split
    · exact Ends.pure (Grows.refl _)
    · refine checkPositions_grows (fun n x hx => ?_) (fun n e he => checkSurplus_grows hp fun x hx => ?_) _
      · rw [Nat.zero_add]
        exact ha x _ _ (.shares (.position hitems hx))
      · rw [Nat.zero_add]
        exact ha x _ _ (.shares (.additionalItem hx he))

end ElementRules

/-! ## Objects -/

namespace PropertyRules

variable {members : Members}

theorem checkPattern_grows {p : PatternRule S} (hp : b.Permits path)
    (ha : ∀ key value, (key, value) ∈ members → p.appliesTo key = true →
      ∀ s, b.Ends (apply p.schema (.present value) path (.key key) s) (b.Grows s)) (s : ErrorSet) :
    b.Ends (checkPattern apply members path s p) (b.Grows s) := by
  unfold checkPattern
  cases hread : Pattern.read? p.pattern with
  | error _ => exact Ends.pure (Grows.add (hp.message _) s)
  | ok regex =>
    refine Ends.foldlM (fun m hm s => ?_) s
    dsimp only
    split
    · rename_i hin
      refine ha m.1 m.2 hm ?_ s
      rw [PatternRule.appliesTo, hread]
      exact hin
    · exact Ends.pure (Grows.refl s)

theorem checkUncovered_grows {r : PropertyRules S} {key : String} {value : Json}
    (hdeny : r.additional = .deny → key ≠ inlineSchemaKey → ∀ message, b.records ⟨extendPath path (.key key), message⟩)
    (ha : ∀ x, r.additional = .schema x → ∀ s, b.Ends (apply x (.present value) path (.key key) s) (b.Grows s))
    (s : ErrorSet) : b.Ends (checkUncovered apply r path key value s) (b.Grows s) := by
  unfold checkUncovered
  cases hadditional : r.additional with
  | deny =>
    dsimp only
    split
    · exact Ends.pure (Grows.refl s)
    · rename_i hnamed
      exact Ends.pure (Grows.add (hdeny hadditional (by simpa using hnamed) _) s)
  | schema x => exact ha x hadditional s
  | allow => exact Ends.pure (Grows.refl s)
  | unspecified => exact Ends.pure (Grows.refl s)

theorem checkRequires_grows (hp : b.Permits path) (r : PropertyRules S) (key : String) (s : ErrorSet) :
    b.Grows s (r.checkRequires members path key s) := by
  unfold checkRequires
  split
  · exact Grows.addUnless (hp.message _) s _
  · exact Grows.refl s

theorem checkMember_grows {r : PropertyRules S} {m : String × Json} (hp : b.Permits path)
    (hdeny : r.Denies m.1 → ∀ message, b.records ⟨extendPath path (.key m.1), message⟩)
    (ha : ∀ x, r.additional = .schema x → r.covers m.1 = false →
      ∀ s, b.Ends (apply x (.present m.2) path (.key m.1) s) (b.Grows s)) (s : ErrorSet) :
    b.Ends (r.checkMember apply members path s m) (b.Grows s) := by
  have huncovered : b.Ends (if r.covers m.1 then pure s else r.checkUncovered apply path m.1 m.2 s)
      (b.Grows s) := by
    cases hcovers : r.covers m.1 with
    | true => exact Ends.pure (Grows.refl s)
    | false =>
      exact checkUncovered_grows (fun hadditional hnamed => hdeny ⟨hadditional, hcovers, hnamed⟩)
        (fun x hx => ha x hx hcovers) s
  rw [checkMember_eq]
  exact Ends.bind huncovered fun t ht => Ends.pure (ht.trans (checkRequires_grows hp r m.1 t))

theorem check_grows {k : Keywords S} {r : PropertyRules S} (hr : k.properties = some r) (hp : b.Permits path)
    (hdeny : ∀ m ∈ members, k.Denies m.1 → ∀ message, b.records ⟨extendPath path (.key m.1), message⟩)
    (ha : apply.KeepsFor b k (.present (.object members)) path) (s : ErrorSet) :
    b.Ends (r.check apply members path s) (b.Grows s) := by
  have hpatterns (s : ErrorSet) : b.Ends (r.patterns.foldlM (checkPattern apply members path) s) (b.Grows s) :=
    Ends.foldlM (fun p hp' s => checkPattern_grows hp
      (fun key value hm happlies => ha _ _ _ (.shares (.pattern hr hp' hm happlies))) s) s
  have hproperties (s : ErrorSet) : b.Ends (r.properties.foldlM (checkProperty apply members path) s) (b.Grows s) :=
    Ends.foldlM (fun p hp' s => ha _ _ _ (.shares (.property hr hp')) s) s
  have hmembers (s : ErrorSet) : b.Ends (members.foldlM (r.checkMember apply members path) s) (b.Grows s) :=
    Ends.foldlM (fun m hm s => checkMember_grows hp (fun hd => hdeny m hm ⟨r, hr, hd⟩)
      (fun x hx hcovers => ha _ _ _ (.shares (.additionalProperty hr hx hm hcovers))) s) s
  rw [check]
  refine Ends.bind (hpatterns s) fun t ht => Ends.grows_trans ht ?_
  exact Ends.bind (hproperties t) fun u hu => Ends.grows_trans hu (hmembers u)

end PropertyRules

/-! ## Strings, numbers and enumerations -/

theorem TextRules.checkLength_grows (hp : b.Permits path) (r : TextRules) (text : String)
    (s : ErrorSet) : b.Grows s (r.checkLength text path s) :=
  (Limit.check_grows hp r.maxLength (·.below text.length) _ s).trans
    (Limit.check_grows hp r.minLength (·.above text.length) _ _)

theorem TextRules.checkPattern_grows (hp : b.Permits path) (r : TextRules) (text : String)
    (s : ErrorSet) : b.Ends (r.checkPattern text path s) (b.Grows s) := by
  rw [checkPattern]
  split
  · exact Ends.pure (Grows.refl s)
  · split
    · exact hp.fault rfl
    · exact Ends.pure (Grows.addUnless (hp.message _) s _)

theorem NumberRules.check_grows (hp : b.Permits path) (r : NumberRules) (number : Binary64)
    (text : String) (s : ErrorSet) : b.Grows s (r.check number text path s) := by
  have hmin (s : ErrorSet) : b.Grows s (r.checkMinimum number path s) := by
    unfold checkMinimum
    split
    · exact Grows.addIf (hp.message _) s _
    · split
      · exact Grows.add (hp.message _) s
      · exact Grows.addIf (hp.message _) s _
  have hmax (s : ErrorSet) : b.Grows s (r.checkMaximum number path s) := by
    unfold checkMaximum
    split
    · exact Grows.addIf (hp.message _) s _
    · split
      · exact Grows.add (hp.message _) s
      · exact Grows.addIf (hp.message _) s _
  have hdivisor (d : Option Limit) (complaint : String) (s : ErrorSet) :
      b.Grows s (checkDivisor d complaint number text path s) := by
    unfold checkDivisor
    split
    · exact Grows.addUnless (hp.message _) s _
    · exact Grows.refl s
  exact (((hmin s).trans (hmax _)).trans (hdivisor _ _ _)).trans (hdivisor _ _ _)

theorem Enumeration.check_grows (hp : b.Permits path) (e : Enumeration) (s : ErrorSet) :
    b.Grows s (e.check i path s) := by
  rw [check]
  split
  · exact Grows.refl s
  · exact Grows.addUnless (hp.message _) s _

/-! ## All keywords -/

namespace Keywords

variable {formats : Formats} {segment : Segment} {k : Keywords S}

theorem checkFormat_grows (hp : b.Permits path) (k : Keywords S) (j : Json) (s : ErrorSet) :
    b.Grows s (k.checkFormat formats j path s) := by
  rw [checkFormat]
  split
  · exact Grows.add (hp.message _) s
  · exact Grows.refl s

theorem checkText_grows (hp : b.Permits path) (k : Keywords S) (text : String) (s : ErrorSet) :
    b.Ends (k.checkText mode formats text path s) (b.Grows s) := by
  rw [checkText]
  refine Ends.grows_trans (TextRules.checkLength_grows hp k.text text s) ?_
  refine Ends.bind (TextRules.checkPattern_grows hp k.text text _) fun t ht => ?_
  have hformat : b.Grows t (k.checkFormat formats (.string text) path t) := checkFormat_grows hp k _ t
  dsimp only
  refine Ends.grows_trans (ht.trans hformat) ?_
  split
  · exact Ends.pure (NumberRules.check_grows hp k.number _ _ _)
  · exact Ends.pure (Grows.refl _)

theorem checkNumber_grows (hp : b.Permits path) (k : Keywords S) (j : Json) (s : ErrorSet) :
    b.Grows s (k.checkNumber formats j path s) := by
  refine Grows.trans ?_ (checkFormat_grows hp k j _)
  split
  · exact NumberRules.check_grows hp k.number _ _ s
  · exact Grows.refl s

/-- The messages that keywords may record, when they are held against an instance at a path. -/
structure PermitsFor (k : Keywords S) (b : Remit) (i : Instance) (path : String) : Prop where
  here : b.Permits path
  denied : ∀ {members m}, i = .present (.object members) → m ∈ members → k.Denies m.1 →
    ∀ message, b.records ⟨extendPath path (.key m.1), message⟩

theorem checkKind_grows (hp : k.PermitsFor b i path) (ha : apply.KeepsFor b k i path) (s : ErrorSet) :
    b.Ends (k.checkKind mode formats apply i path segment s) (b.Grows s) := by
  unfold checkKind
  split
  · exact ElementRules.check_grows hp.here ha s
  · cases hr : k.properties with
    | none => exact Ends.pure (Grows.refl s)
    | some rules => exact PropertyRules.check_grows hr hp.here (fun m => hp.denied rfl) ha s
  · exact checkText_grows hp.here k _ s
  · exact Ends.pure (checkNumber_grows hp.here k _ s)
  · exact Ends.pure (checkNumber_grows hp.here k _ s)
  · exact Ends.pure (Grows.refl s)

/-- **Keywords keep to a remit if what they hand on does.** -/
theorem check_grows (hp : k.PermitsFor b i path) (ha : apply.KeepsFor b k i path) (s : ErrorSet) :
    b.Ends (k.check mode formats apply i path segment s) (b.Grows s) := by
  rw [check]
  refine Ends.bind (Conditions.check_grows hp.here ha s) fun t₁ h₁ => Ends.grows_trans h₁ ?_
  refine Ends.bind (Combinators.check_grows hp.here ha t₁) fun t₂ h₂ => Ends.grows_trans h₂ ?_
  refine Ends.bind (checkKind_grows hp ha t₂) fun t₃ h₃ => Ends.grows_trans h₃ ?_
  split
  · exact Ends.pure (Enumeration.check_grows hp.here _ t₃)
  · exact Ends.pure (Grows.refl t₃)

end Keywords

end JsonSchema
