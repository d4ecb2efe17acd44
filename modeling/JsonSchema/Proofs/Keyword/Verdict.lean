import JsonSchema.Proofs.Keyword.Reading
import JsonSchema.Proofs.Keyword.Remit

/-!
# Keywords record nothing exactly where their condition holds

Keywords work on one set of violations that they share, and judge branches by how much it grows. A set that has
grown once stays grown, and a rule that starts from the empty set sees no record of anybody else. So it is
enough to know of every rule that it only appends, and what it leaves when it starts from the empty set: that
decides the condition, and both pass from the parts to the whole.

## What is here

* `Marks` — a step that records something exactly where a condition fails. `Decides` — the same for a run, if it
  ends well.
* `Decides.and`, `Decides.foldlM` — one after the other is the conjunction.
* `Keywords.check_decides` — **the check of a schema object decides its condition**, if its subschemas do. The
  other theorems are its parts, one for each group of keywords.
-/

set_option autoImplicit false

namespace JsonSchema

open Remit

/-! ## Steps -/

/-- The step only appends, and appends to the empty set exactly where the condition fails. -/
structure Marks (f : ErrorSet → ErrorSet) (b : Bool) : Prop where
  grows : ∀ s, free.Grows s (f s)
  isEmpty : (f ∅).isEmpty = b

theorem not_isEmpty_of_grows {s t : ErrorSet} (h : free.Grows s t) (hs : s.isEmpty = false) :
    t.isEmpty = false :=
  ErrorSet.isEmpty_eq_false_iff.mpr
    (ErrorSet.ne_empty_of_prefix h.appends (ErrorSet.isEmpty_eq_false_iff.mp hs))

namespace Marks

variable {f g : ErrorSet → ErrorSet} {a b : Bool} {α : Type} {path : String}

theorem id : Marks (fun s => s) true :=
  ⟨Grows.refl, rfl⟩

theorem add (path message : String) : Marks (fun s => s.add path message) false :=
  ⟨fun s => Grows.add trivial s, ErrorSet.isEmpty_add ∅ path message⟩

/-- A message that is recorded unless a condition holds. -/
theorem addUnless (b : Bool) (path message : String) : Marks (fun s => if b then s else s.add path message) b := by
  cases b
  · exact add path message
  · exact id

/-- A message that is recorded if a condition holds. -/
theorem addIf (b : Bool) (path message : String) : Marks (fun s => if b then s.add path message else s) !b := by
  cases b
  · exact id
  · exact add path message

/-- One step after the other is the conjunction. -/
theorem and (hf : Marks f a) (hg : Marks g b) : Marks (fun s => g (f s)) (a && b) := by
  refine ⟨fun s => (hf.grows s).trans (hg.grows _), ?_⟩
  cases a with
  | false => exact not_isEmpty_of_grows (hg.grows _) hf.isEmpty
  | true =>
    have h : f ∅ = ∅ := ErrorSet.isEmpty_iff.mp hf.isEmpty
    rw [h, hg.isEmpty, Bool.true_and]

theorem foldl {f : ErrorSet → α → ErrorSet} {p : α → Bool} (h : ∀ x, Marks (f · x) (p x)) (xs : List α) :
    Marks (fun s => xs.foldl f s) (xs.all p) := by
  induction xs with
  | nil => exact id
  | cons x xs ih => exact (h x).and ih

/-- A limit that is held against a count. -/
theorem limit (limit : Option Limit) (exceeded : Limit → Bool) (path : String) (message : Limit → String) :
    Marks (fun s => match limit with
      | some l => if exceeded l then s.add path (message l) else s
      | none => s) (Limit.kept limit exceeded) := by
  cases limit with
  | none => exact id
  | some l => exact addIf (exceeded l) path (message l)

end Marks

/-! ## Runs -/

/-- The rule only appends, and if it ends well from the empty set, what it leaves there is the verdict. -/
structure Decides (f : ErrorSet → Run ErrorSet) (v : Verdict) : Prop where
  grows : ∀ s, free.Ends (f s) (free.Grows s)
  verdict : ∀ t, (f ∅).outcome = .ok t → v = .ok t.isEmpty

namespace Decides

variable {f g : ErrorSet → Run ErrorSet} {h : ErrorSet → ErrorSet} {v w : Verdict} {b : Bool} {α : Type}

theorem of_marks (hh : Marks h b) : Decides (fun s => pure (h s)) (pure b) := by
  refine ⟨fun s => Ends.pure (hh.grows s), fun t ht => ?_⟩
  cases ht
  exact congrArg Except.ok hh.isEmpty.symm

theorem skip : Decides (fun s => pure s) (pure true) :=
  of_marks Marks.id

theorem refuse (path message : String) : Decides (fun s => pure (s.add path message)) (pure false) :=
  of_marks (Marks.add path message)

theorem fault (e : Fault) : Decides (fun _ => .fail e) (.error e) :=
  ⟨fun _ => trivial, fun _ ht => nomatch ht⟩

/-- One rule after the other is the conjunction. -/
theorem and (hf : Decides f v) (hg : Decides g w) : Decides (fun s => f s >>= g) (v <&&> w) := by
  refine ⟨fun s => Ends.bind (hf.grows s) fun t ht => Ends.grows_trans ht (hg.grows t), fun u hu => ?_⟩
  cases ht : (f ∅).outcome with
  | error e =>
    rw [Run.outcome_bind_error ht] at hu
    exact nomatch hu
  | ok t =>
    rw [Run.outcome_bind_ok ht] at hu
    rw [hf.verdict t ht]
    cases htb : t.isEmpty with
    | true =>
      rw [ErrorSet.isEmpty_iff.mp htb] at hu
      exact hg.verdict u hu
    | false => exact congrArg Except.ok (not_isEmpty_of_grows ((hg.grows t).ok hu) htb).symm

/-- A rule after a step is the conjunction. -/
theorem after (hh : Marks h b) (hg : Decides g w) : Decides (fun s => g (h s)) (pure b <&&> w) :=
  (of_marks hh).and hg

theorem foldlM {f : ErrorSet → α → Run ErrorSet} {p : α → Verdict} (h : ∀ x, Decides (f · x) (p x))
    (xs : List α) : Decides (fun s => xs.foldlM f s) (xs.allM p) := by
  induction xs with
  | nil => exact skip
  | cons x xs ih =>
    have hall : (x :: xs).allM p = (p x <&&> xs.allM p) := by
      rw [List.allM_cons]
      refine bind_congr fun holds => ?_
      cases holds <;> rfl
    rw [hall]
    exact (h x).and ih

end Decides

/-! ## Subschemas -/

/-- A verdict on each subschema says what its check decides. -/
def Checker.DecidedBy {S : Type} (apply : Checker S) (judge : Judge S) : Prop :=
  ∀ x i path segment, Decides (apply x i path segment) (judge x i path segment)

variable {S : Type} {apply : Checker S} {judge : Judge S}

theorem Checker.DecidedBy.keepsTo (ha : apply.DecidedBy judge) : apply.KeepsTo free :=
  fun x i path segment => (ha x i path segment).grows

variable (mode : Mode) (formats : Formats) (i : Instance) (path : String) (segment : Segment)

/-! ## Types -/

namespace TypeRule

mutual

theorem check_decides (ha : apply.DecidedBy judge) :
    ∀ r : TypeRule S, Decides (r.check mode apply i path) (r.holds mode judge i path)
  | .any => Decides.skip
  | .named name => Decides.of_marks (Marks.addUnless (name.accepts mode i) path (mismatch i name))
  | .schema x => ha x i path .here
  | .unknown name => Decides.fault (.unknownType path name)
  | .union candidates => by
    refine ⟨check_grows (free_permits path) (.union candidates) fun x _ => ha.keepsTo x i path .here, fun t ht => ?_⟩
    rw [check] at ht
    rw [holds]
    cases candidates with
    | nil =>
      cases ht
      rfl
    | cons r rs =>
      obtain ⟨found, hfound, ht⟩ := Run.outcome_bind_eq_ok.mp ht
      obtain ⟨hv, hlast⟩ := firstClean_verdict ha (r :: rs) ∅ found hfound
      refine hv.trans ?_
      cases found with
      | none =>
        cases ht
        rfl
      | some last =>
        cases ht
        exact congrArg Except.ok (ErrorSet.isEmpty_extend ∅ (hlast last rfl (Or.inl (List.cons_ne_nil r rs)))).symm

/-- If no alternative finds nothing, what is left is what some alternative found, unless there are none. -/
theorem firstClean_verdict (ha : apply.DecidedBy judge) :
    ∀ (rs : List (TypeRule S)) (last : ErrorSet) (found : Option ErrorSet),
      (firstClean mode apply i path rs last).outcome = .ok found →
        someHolds mode judge i path rs = .ok found.isNone ∧
          ∀ t, found = some t → rs ≠ [] ∨ last.isEmpty = false → t.isEmpty = false
  | [], last, found, h => by
    cases h
    refine ⟨rfl, fun t ht hlast => ?_⟩
    cases ht
    exact hlast.resolve_left (fun h => h rfl)
  | r :: rs, last, found, h => by
    rw [firstClean] at h
    obtain ⟨t, ht, h⟩ := Run.outcome_bind_eq_ok.mp h
    have hr := (check_decides ha r).verdict t ht
    rw [someHolds, hr]
    cases hempty : t.isEmpty with
    | true =>
      rw [hempty] at h
      cases h
      exact ⟨rfl, fun _ h => nomatch h⟩
    | false =>
      rw [hempty] at h
      obtain ⟨hv, hlast⟩ := firstClean_verdict ha rs t found h
      exact ⟨hv, fun u hu _ => hlast u hu (Or.inr hempty)⟩

end

end TypeRule

/-! ## Conditions for every kind -/

theorem Required.check_marks (r : Required) : Marks (r.check i path) (r.holds i) := by
  cases r with
  | unspecified => exact Marks.id
  | flag b =>
    cases b with
    | false => exact Marks.id
    | true =>
      cases i with
      | absent => exact Marks.add path _
      | present j => exact Marks.id
  | names wanted =>
    rcases i with _ | j
    · exact Marks.id
    · cases j with
      | object members => exact Marks.foldl (fun name => Marks.addUnless (Json.hasKey members name) path _) wanted
      | _ => exact Marks.id

theorem Dependency.check_decides (ha : apply.DecidedBy judge) (members : Members) (key : String)
    (d : Dependency S) : Decides (d.check apply members path key) (d.holds judge members path) := by
  cases d with
  | properties wanted =>
    exact Decides.of_marks
      (Marks.foldl (fun name => Marks.addUnless (Json.hasKey members name) path _) wanted)
  | schema x => exact ha x _ path .here
  | ignored => exact Decides.skip

namespace Conditions

/-- Giving up an attempt and recording a message exactly where it found nothing is the negation. -/
theorem negate_decides {f : ErrorSet → Run ErrorSet} {v : Verdict} (hf : Decides f v) (message : String) :
    Decides (fun s => return negate path message s (← f s)) (notM v) := by
  refine ⟨fun s => negate_grows trivial (hf.grows s), fun u hu => ?_⟩
  obtain ⟨t, ht, hu⟩ := Run.outcome_bind_eq_ok.mp hu
  cases hu
  rw [hf.verdict t ht, negate, ErrorSet.size_beq_empty]
  cases t.isEmpty with
  | false => rfl
  | true => exact congrArg Except.ok (ErrorSet.isEmpty_add ∅ path message).symm

theorem checkSize_marks (c : Conditions S) (members : Members) :
    Marks (c.checkSize members path) (c.sizeHolds members) :=
  (Marks.limit c.minProperties (·.above members.length) path _).and
    (Marks.limit c.maxProperties (·.below members.length) path _)

theorem checkDependencies_decides (ha : apply.DecidedBy judge) (c : Conditions S) (members : Members) :
    Decides (c.checkDependencies apply members path) (c.dependenciesHold judge members path) := by
  refine Decides.foldlM (fun d => ?_) c.dependencies
  dsimp only
  split
  · exact Dependency.check_decides path ha members d.1 d.2
  · exact Decides.skip

theorem checkObject_decides (ha : apply.DecidedBy judge) (c : Conditions S) :
    Decides (fun s => match i with
      | .present (.object members) => c.checkDependencies apply members path (c.checkSize members path s)
      | _ => pure s) (c.objectHolds judge i path) := by
  rcases i with _ | j
  · exact Decides.skip
  · cases j with
    | object members => exact (checkDependencies_decides path ha c members).after (checkSize_marks path c members)
    | _ => exact Decides.skip

theorem check_decides (ha : apply.DecidedBy judge) (c : Conditions S) :
    Decides (c.check mode apply i path) (c.holds mode judge i path) := by
  have hextended := Decides.foldlM (fun x => ha x i path .here) c.extended
  have htype : Decides (c.checkType mode apply i path) (c.typeHolds mode judge i path) := by
    unfold checkType typeHolds
    cases c.type with
    | none => exact Decides.skip
    | some rule =>
      dsimp only
      cases i.isAbsent with
      | true => exact Decides.skip
      | false => exact TypeRule.check_decides mode i path ha rule
  have hdisallow : Decides (c.checkDisallow mode apply i path) (c.disallowHolds mode judge i path) := by
    unfold checkDisallow disallowHolds
    cases c.disallow with
    | none => exact Decides.skip
    | some rule => exact negate_decides path (TypeRule.check_decides mode i path ha rule) _
  have hnot : Decides (c.checkNot apply i path) (c.notHolds judge i path) := by
    unfold checkNot notHolds
    cases c.not with
    | none => exact Decides.skip
    | some x => exact negate_decides path (ha x i path .here) _
  exact hextended.and ((htype.and (hdisallow.and (hnot.and (checkObject_decides i path ha c)))).after
    (Required.check_marks i path c.required))

end Conditions

/-! ## Combinators -/

namespace Combinators

/-- Running branches in a row is a fold, and it is clean if nothing is recorded. -/
theorem runAll_outcome (ha : apply.DecidedBy judge) (xs : List S) (s t : ErrorSet) (clean : Bool)
    (h : (runAll apply i path xs s).outcome = .ok (clean, t)) :
    (xs.foldlM (fun s x => apply x i path .here s) s).outcome = .ok t ∧ (clean = true ↔ t = s) := by
  induction xs generalizing s clean with
  | nil =>
    cases h
    exact ⟨rfl, fun _ => rfl, fun _ => rfl⟩
  | cons x xs ih =>
    obtain ⟨u, hu, h⟩ := Run.outcome_bind_eq_ok.mp h
    obtain ⟨⟨rest, w⟩, hw, h⟩ := Run.outcome_bind_eq_ok.mp h
    cases h
    obtain ⟨hfold, hrest⟩ := ih u rest hw
    have hsu : free.Grows s u := ((ha x i path .here).grows s).ok hu
    have hut : free.Grows u t := ((Decides.foldlM (fun x => ha x i path .here) xs).grows u).ok hfold
    refine ⟨?_, ?_⟩
    · rw [List.foldlM_cons, Run.outcome_bind_ok hu, hfold]
    · rw [Bool.and_eq_true, ErrorSet.size_beq_iff hsu.appends, hrest]
      refine ⟨fun ⟨hus, htu⟩ => htu.trans hus, fun hts => ?_⟩
      subst hts
      have hsize : u = t := ErrorSet.ext_records (hut.appends.eq_of_length_le hsu.appends.length_le)
      exact ⟨hsize, hsize.symm⟩

theorem checkAllOf_decides (ha : apply.DecidedBy judge) (xs : List S) :
    Decides (checkAllOf apply xs i path) (xs.allM (judge · i path .here)) := by
  refine ⟨checkAllOf_grows (fun x _ => ha.keepsTo x i path .here) (free_permits path), fun u hu => ?_⟩
  obtain ⟨⟨clean, t⟩, ht, hu⟩ := Run.outcome_bind_eq_ok.mp hu
  obtain ⟨hfold, hclean⟩ := runAll_outcome i path ha xs ∅ t clean ht
  rw [(Decides.foldlM (fun x => ha x i path .here) xs).verdict t hfold]
  cases hu
  cases clean with
  | true => rfl
  | false =>
    have hne : t ≠ ∅ := fun h => nomatch hclean.mpr h
    rw [ErrorSet.isEmpty_eq_false_iff.mpr hne]
    exact congrArg Except.ok (ErrorSet.isEmpty_add t path _).symm

theorem firstClean_verdict (ha : apply.DecidedBy judge) (xs : List S) (last : ErrorSet)
    (found : Option ErrorSet) (h : (firstClean apply i path ∅ xs last).outcome = .ok found) :
    xs.anyM (judge · i path .here) = .ok found.isNone := by
  induction xs generalizing last with
  | nil =>
    cases h
    rfl
  | cons x xs ih =>
    obtain ⟨t, ht, h⟩ := Run.outcome_bind_eq_ok.mp h
    rw [ErrorSet.size_beq_empty] at h
    rw [List.anyM_cons, (ha x i path .here).verdict t ht]
    cases hempty : t.isEmpty with
    | true =>
      rw [hempty] at h
      cases h
      rfl
    | false =>
      rw [hempty] at h
      exact ih t h

theorem checkAnyOf_decides (ha : apply.DecidedBy judge) (xs : List S) :
    Decides (checkAnyOf apply xs i path) (xs.anyM (judge · i path .here)) := by
  refine ⟨checkAnyOf_grows (fun x _ => ha.keepsTo x i path .here) (free_permits path), fun u hu => ?_⟩
  obtain ⟨found, hfound, hu⟩ := Run.outcome_bind_eq_ok.mp hu
  rw [firstClean_verdict i path ha xs ∅ found hfound]
  cases found with
  | none =>
    cases hu
    rfl
  | some last =>
    cases hu
    exact congrArg Except.ok (ErrorSet.isEmpty_add last path _).symm

theorem runEach_outcome (ha : apply.DecidedBy judge) (xs : List S) (n m : Nat) (found t : ErrorSet)
    (h : (runEach apply i path xs n found).outcome = .ok (m, t)) :
    ∃ k, countHolding judge i path xs = .ok k ∧ m = n + k := by
  induction xs generalizing n found with
  | nil =>
    cases h
    exact ⟨0, rfl, rfl⟩
  | cons x xs ih =>
    obtain ⟨u, hu, h⟩ := Run.outcome_bind_eq_ok.mp h
    obtain ⟨k, hk, hm⟩ := ih _ _ h
    refine ⟨if u.isEmpty then k + 1 else k, ?_, ?_⟩
    · rw [countHolding, (ha x i path .here).verdict u hu, hk]
      rfl
    · rw [hm]
      split <;> omega

theorem checkOneOf_decides (ha : apply.DecidedBy judge) (xs : List S) :
    Decides (checkOneOf apply xs i path) (oneHolds judge i path xs) := by
  refine ⟨checkOneOf_grows (fun x _ => ha.keepsTo x i path .here) (free_permits path), fun u hu => ?_⟩
  obtain ⟨⟨m, t⟩, ht, hu⟩ := Run.outcome_bind_eq_ok.mp hu
  obtain ⟨k, hk, hm⟩ := runEach_outcome i path ha xs 0 m ∅ t ht
  rw [Nat.zero_add] at hm
  subst hm
  rw [oneHolds, hk]
  cases hu
  refine congrArg Except.ok ?_
  show (m == 1) = (if m == 1 then ∅ else ((∅ : ErrorSet).extend t).add path _).isEmpty
  cases m == 1 with
  | true => rfl
  | false => exact (ErrorSet.isEmpty_add _ path _).symm

theorem checkOptional_decides {rule : List S → ErrorSet → Run ErrorSet} {holds : List S → Verdict}
    (h : ∀ xs, Decides (rule xs) (holds xs)) (branches : Option (List S)) :
    Decides (checkOptional rule branches) (optionalHolds holds branches) := by
  cases branches with
  | none => exact Decides.skip
  | some xs => exact h xs

theorem check_decides (ha : apply.DecidedBy judge) (c : Combinators S) :
    Decides (c.check apply i path) (c.holds judge i path) := by
  unfold check holds
  cases i.isAbsent with
  | true => exact Decides.skip
  | false =>
    exact (checkOptional_decides (checkAllOf_decides i path ha) c.allOf).and
      ((checkOptional_decides (checkAnyOf_decides i path ha) c.anyOf).and
        (checkOptional_decides (checkOneOf_decides i path ha) c.oneOf))

end Combinators

/-! ## Arrays -/

namespace ElementRules

theorem checkCount_marks (r : ElementRules S) (elements : List Json) :
    Marks (r.checkCount elements path) (r.countHolds elements) :=
  ((Marks.limit r.minItems (·.above elements.length) path _).and
    (Marks.limit r.maxItems (·.below elements.length) path _)).and
      (Marks.addIf (r.uniqueItems && hasDuplicates elements) path _)

/-- The second attempt counts where the first one found something, and wins if it found nothing. -/
theorem checkElement_decides (ha : apply.DecidedBy judge) (a : Additional S) (x : S) (position : Nat)
    (element : Json) : Decides (checkElement apply a x path position element)
      (judge x (.present element) path (.index position) <||> excused judge a path position element) := by
  refine ⟨checkElement_grows (ha.keepsTo x _ path _) fun other _ => ha.keepsTo other _ path _, fun u hu => ?_⟩
  obtain ⟨first, hfirst, hu⟩ := Run.outcome_bind_eq_ok.mp hu
  rw [(ha x _ path _).verdict first hfirst]
  rw [ErrorSet.size_beq_empty] at hu
  cases hempty : first.isEmpty with
  | true =>
    rw [hempty] at hu
    cases hu
    exact congrArg Except.ok hempty.symm
  | false =>
    rw [hempty] at hu
    cases a with
    | unspecified =>
      cases hu
      exact congrArg Except.ok hempty.symm
    | deny =>
      cases hu
      exact congrArg Except.ok hempty.symm
    | allow =>
      cases hu
      rfl
    | schema other =>
      obtain ⟨second, hsecond, hu⟩ := Run.outcome_bind_eq_ok.mp hu
      cases hu
      refine ((ha other _ path _).verdict second hsecond).trans (congrArg Except.ok ?_)
      split
      · rfl
      · rename_i hsize
        rw [hempty, ← Bool.not_eq_true]
        exact fun hempty' => hsize (ErrorSet.size_lt_of_isEmpty hempty' hempty)

theorem checkEvery_decides (ha : apply.DecidedBy judge) (a : Additional S) (x : S) (es : List Json)
    (position : Nat) : Decides (checkEvery apply a x path position es)
      (everyHolds judge a x path position es) := by
  induction es generalizing position with
  | nil => exact Decides.skip
  | cons e es ih => exact (checkElement_decides path ha a x position e).and (ih (position + 1))

theorem checkSurplus_decides (ha : apply.DecidedBy judge) (a : Additional S) (position : Nat)
    (element : Json) : Decides (checkSurplus apply a path segment position element)
      (surplusHolds judge a path position element) := by
  cases a with
  | schema other => exact ha other _ path _
  | deny => exact Decides.refuse path _
  | allow => exact Decides.skip
  | unspecified => exact Decides.skip

theorem checkPositions_decides (ha : apply.DecidedBy judge) (a : Additional S) :
    ∀ (position : Nat) (xs : List S) (es : List Json),
      Decides (checkPositions apply a path segment position xs es) (positionsHold judge a path position xs es)
  | position, [], [] => by
    have h : checkPositions apply a path segment position [] [] = fun s => pure s :=
      funext fun s => by rw [checkPositions]
    rw [h, positionsHold]
    exact Decides.skip
  | position, x :: xs, e :: es => by
    have h : checkPositions apply a path segment position (x :: xs) (e :: es) = fun s =>
        apply x (.present e) path (.index position) s >>=
          checkPositions apply a path segment (position + 1) xs es :=
      funext fun s => by rw [checkPositions]
    rw [h, positionsHold]
    exact (ha x _ path _).and (checkPositions_decides ha a (position + 1) xs es)
  | position, [], e :: es => by
    have h : checkPositions apply a path segment position [] (e :: es) = fun s =>
        checkSurplus apply a path segment position e s >>=
          checkPositions apply a path segment (position + 1) [] es :=
      funext fun s => by rw [checkPositions]
    rw [h, positionsHold]
    exact (checkSurplus_decides path segment ha a position e).and
      (checkPositions_decides ha a (position + 1) [] es)
  | position, x :: xs, [] => by
    have h : checkPositions apply a path segment position (x :: xs) [] = fun s =>
        apply x .absent path (.index position) s >>=
          checkPositions apply a path segment (position + 1) xs [] :=
      funext fun s => by rw [checkPositions]
    rw [h, positionsHold]
    exact (ha x _ path _).and (checkPositions_decides ha a (position + 1) xs [])

theorem check_decides (ha : apply.DecidedBy judge) (r : ElementRules S) (elements : List Json) :
    Decides (r.check apply elements path segment) (r.holds judge elements path) := by
  have hcount := checkCount_marks path r elements
  unfold check holds itemsHold
  cases r.items with
  | unspecified => exact Decides.skip.after hcount
  | every schema => exact (checkEvery_decides path ha r.additional schema elements 0).after hcount
  | positions schemas =>
    dsimp only
    cases elements.isEmpty with
    | true => exact Decides.skip.after hcount
    | false => exact (checkPositions_decides path segment ha r.additional 0 schemas elements).after hcount

end ElementRules

/-! ## Objects -/

namespace PropertyRules

theorem checkPattern_decides (ha : apply.DecidedBy judge) (members : Members) (p : PatternRule S) :
    Decides (checkPattern apply members path · p) (patternHolds judge members path p) := by
  unfold checkPattern patternHolds
  cases Pattern.read? p.pattern with
  | error _ => exact Decides.refuse path _
  | ok regex =>
    refine Decides.foldlM (fun m => ?_) members
    dsimp only
    split
    · exact ha p.schema _ path _
    · exact Decides.skip

theorem checkUncovered_decides (ha : apply.DecidedBy judge) (r : PropertyRules S) (key : String)
    (value : Json) : Decides (r.checkUncovered apply path key value) (r.uncoveredHolds judge path key value) := by
  unfold checkUncovered uncoveredHolds
  cases r.additional with
  | deny => exact Decides.of_marks (Marks.addUnless (key == inlineSchemaKey) _ _)
  | schema other => exact ha other _ path _
  | allow => exact Decides.skip
  | unspecified => exact Decides.skip

theorem checkRequires_marks (r : PropertyRules S) (members : Members) (key : String) :
    Marks (r.checkRequires members path key) (r.requiresHolds members key) := by
  unfold checkRequires requiresHolds
  cases (r.definition? key).bind (·.requires) with
  | none => exact Marks.id
  | some other => exact Marks.addUnless (Json.hasKey members other) path _

theorem checkMember_decides (ha : apply.DecidedBy judge) (r : PropertyRules S) (members : Members)
    (m : String × Json) :
    Decides (r.checkMember apply members path · m) (r.memberHolds judge members path m) := by
  have hrequires := Decides.of_marks (checkRequires_marks path r members m.1)
  unfold checkMember memberHolds
  cases r.covers m.1 with
  | true => exact Decides.skip.and hrequires
  | false => exact (checkUncovered_decides path ha r m.1 m.2).and hrequires

theorem checkProperty_decides (ha : apply.DecidedBy judge) (members : Members) (p : PropertyRule S) :
    Decides (checkProperty apply members path · p)
      (judge p.schema (Instance.ofOption (Json.find? members p.name)) path (.key p.name)) :=
  ha p.schema _ path _

theorem check_decides (ha : apply.DecidedBy judge) (r : PropertyRules S) (members : Members) :
    Decides (r.check apply members path) (r.holds judge members path) :=
  (Decides.foldlM (checkPattern_decides path ha members) r.patterns).and
    ((Decides.foldlM (checkProperty_decides path ha members) r.properties).and
      (Decides.foldlM (checkMember_decides path ha r members) members))

end PropertyRules

/-! ## Strings, numbers and enumerations -/

theorem TextRules.checkLength_marks (r : TextRules) (text : String) :
    Marks (r.checkLength text path) (r.lengthHolds text) :=
  (Marks.limit r.maxLength (·.below text.length) path _).and
    (Marks.limit r.minLength (·.above text.length) path _)

theorem TextRules.checkPattern_decides (r : TextRules) (text : String) :
    Decides (r.checkPattern text path) (r.patternHolds text path) := by
  unfold checkPattern patternHolds
  cases r.pattern with
  | none => exact Decides.skip
  | some p =>
    dsimp only
    cases Pattern.read? p with
    | error reason => exact Decides.fault _
    | ok regex => exact Decides.of_marks (Marks.addUnless (regex.isIn text) path _)

namespace NumberRules

theorem checkMinimum_marks (r : NumberRules) (number : Binary64) :
    Marks (r.checkMinimum number path) (r.minimumHolds number) := by
  unfold checkMinimum minimumHolds
  cases r.minimum with
  | none =>
    cases r.exclusiveMinimum with
    | none => exact Marks.id
    | some _ => exact Marks.add path _
  | some min =>
    dsimp only
    cases r.exclusiveMinimum == some true && number.numEq min.value with
    | true => exact Marks.add path _
    | false => exact Marks.addIf (number.lt min.value) path _

theorem checkMaximum_marks (r : NumberRules) (number : Binary64) :
    Marks (r.checkMaximum number path) (r.maximumHolds number) := by
  unfold checkMaximum maximumHolds
  cases r.maximum with
  | none =>
    cases r.exclusiveMaximum with
    | none => exact Marks.id
    | some _ => exact Marks.add path _
  | some max =>
    dsimp only
    cases r.exclusiveMaximum == some true && number.numEq max.value with
    | true => exact Marks.add path _
    | false => exact Marks.addIf (max.value.lt number) path _

theorem checkDivisor_marks (divisor : Option Limit) (complaint : String) (number : Binary64) (text : String) :
    Marks (checkDivisor divisor complaint number text path) (divisorHolds divisor number text) := by
  cases divisor with
  | none => exact Marks.id
  | some d => exact Marks.addUnless (isMultiple number text d) path _

theorem check_marks (r : NumberRules) (number : Binary64) (text : String) :
    Marks (r.check number text path) (r.holds number text) :=
  (((checkMinimum_marks path r number).and (checkMaximum_marks path r number)).and
    (checkDivisor_marks path r.divisibleBy _ number text)).and
      (checkDivisor_marks path r.multipleOf _ number text)

end NumberRules

theorem Enumeration.check_marks (e : Enumeration) : Marks (e.check i path) (e.holds i) := by
  unfold check holds
  cases i.isAbsent && !e.checkAbsent with
  | true => exact Marks.id
  | false => exact Marks.addUnless (e.candidates.any i.sameAs) path _

/-! ## All keywords -/

namespace Keywords

theorem checkFormat_marks (k : Keywords S) (j : Json) :
    Marks (k.checkFormat formats j path) (k.formatHolds formats j) := by
  unfold checkFormat formatHolds
  cases k.format.bind (formats.complaint? · j) with
  | none => exact Marks.id
  | some message => exact Marks.add path message

theorem checkText_decides (k : Keywords S) (text : String) :
    Decides (k.checkText mode formats text path) (k.textHolds mode formats text path) := by
  have hbefore {f : ErrorSet → Run ErrorSet} {v : Verdict} (hnumeral : Decides f v) :=
    ((k.text.checkPattern_decides path text).and
      (hnumeral.after (checkFormat_marks formats path k (.string text)))).after (k.text.checkLength_marks path text)
  unfold checkText textHolds numeralHolds
  cases mode with
  | strict => exact hbefore Decides.skip
  | coerce =>
    cases readFinite? text with
    | none => exact hbefore Decides.skip
    | some x => exact hbefore (Decides.of_marks (NumberRules.check_marks path k.number x _))

theorem checkNumber_marks (k : Keywords S) (j : Json) :
    Marks (k.checkNumber formats j path) (k.numberHolds formats j) := by
  have hformat := checkFormat_marks formats path k j
  unfold checkNumber numberHolds
  cases j.number? with
  | none => exact Marks.id.and hformat
  | some x => exact (NumberRules.check_marks path k.number x j.text).and hformat

theorem checkKind_decides (ha : apply.DecidedBy judge) (k : Keywords S) :
    Decides (k.checkKind mode formats apply i path segment) (k.kindHolds mode formats judge i path) := by
  rcases i with _ | j
  · exact Decides.skip
  · cases j with
    | array elements => exact ElementRules.check_decides path segment ha k.elements elements
    | object members =>
      unfold checkKind kindHolds
      dsimp only
      cases k.properties with
      | none => exact Decides.skip
      | some rules => exact PropertyRules.check_decides path ha rules members
    | string text => exact checkText_decides mode formats path k text
    | integer n => exact Decides.of_marks (checkNumber_marks formats path k (.integer n))
    | real x => exact Decides.of_marks (checkNumber_marks formats path k (.real x))
    | null => exact Decides.skip
    | bool _ => exact Decides.skip

theorem checkEnumeration_decides (k : Keywords S) :
    Decides (fun s => match k.enumeration with
      | some e => return e.check i path s
      | none => return s) (pure (k.enumerationHolds i)) := by
  unfold enumerationHolds
  cases k.enumeration with
  | none => exact Decides.skip
  | some e => exact Decides.of_marks (Enumeration.check_marks i path e)

/-- **The check of a schema object decides its condition**, if its subschemas do. -/
theorem check_decides (ha : apply.DecidedBy judge) (k : Keywords S) :
    Decides (k.check mode formats apply i path segment) (k.holds mode formats judge i path) :=
  (Conditions.check_decides mode i path ha k.conditions).and
    ((Combinators.check_decides i path ha k.combinators).and
      ((checkKind_decides mode formats i path segment ha k).and (checkEnumeration_decides i path k)))

end Keywords

end JsonSchema
