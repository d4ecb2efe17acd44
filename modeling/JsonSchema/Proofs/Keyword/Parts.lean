import JsonSchema.Keywords
import JsonSchema.Proofs.Reference.Place

/-!
# What keywords look at

A schema object hands its instance to some of its subschemas, and the elements or the values of members of the instance to
the others. What a subschema would make of anything else has no influence. The mode is of as little influence, unless the
instance is a string that spells a number.

## What is here

* `Instance.Part` — the instances to which keywords apply their subschemas.
* `Instance.SpellsNone` — the instance is no string that spells a number.
* `Keywords.check_eq_of_parts` — **keywords check an instance alike, in either mode, if their subschemas check its parts
  alike**. The theorems before it are its parts, one for each group of keywords.
-/

set_option autoImplicit false

namespace JsonSchema

namespace Instance

/-- An instance to which keywords apply a subschema when they are held against another one. -/
inductive Part : Instance → Instance → Prop where
  | self (i : Instance) : Part i i
  | absent (i : Instance) : Part i .absent
  | element {elements : List Json} {e : Json} (h : e ∈ elements) : Part (.present (.array elements)) (.present e)
  | member {members : Members} {m : String × Json} (h : m ∈ members) :
    Part (.present (.object members)) (.present m.2)

theorem Part.property (members : Members) (name : String) :
    Part (.present (.object members)) (ofOption (Json.find? members name)) := by
  cases hv : Json.find? members name with
  | none => exact .absent _
  | some v => exact .member (m := (name, v)) (Json.mem_of_find? hv)

/-- The instance is no string that spells a finite number. -/
def SpellsNone (i : Instance) : Prop := ∀ text, i = .present (.string text) → readFinite? text = none

end Instance

variable {S : Type} {f g : Checker S} {mode mode' : Mode} {i : Instance} {path : String}

/-- In both modes an instance that spells no number is of the same types. -/
theorem TypeName.accepts_congr (hi : i.SpellsNone) (name : TypeName) : name.accepts mode i = name.accepts mode' i := by
  unfold accepts
  split
  -- the two cases in which a string is asked to be a number
  case h_5 | h_6 => simp [hi _ rfl]
  all_goals rfl

theorem foldlM_congr_of_mem {α σ : Type} {p q : σ → α → Run σ} {xs : List α} (h : ∀ x ∈ xs, ∀ s, p s x = q s x) (s : σ) :
    xs.foldlM p s = xs.foldlM q s := by
  induction xs generalizing s with
  | nil => rfl
  | cons x xs ih =>
    rw [List.foldlM_cons, List.foldlM_cons, h x List.mem_cons_self s]
    exact bind_congr fun t => ih (fun y hy => h y (List.mem_cons_of_mem x hy)) t

/-! ## The instance itself -/

namespace TypeRule

mutual

theorem check_congr (hi : i.SpellsNone) (h : ∀ x s, f x i path .here s = g x i path .here s) :
    ∀ (r : TypeRule S) (s : ErrorSet), r.check mode f i path s = r.check mode' g i path s
  | .any, _ | .unknown _, _ => rfl
  | .named name, s => by rw [check, check, name.accepts_congr hi]
  | .schema x, s => h x s
  | .union candidates, s => by rw [check, check, firstClean_congr hi h candidates ∅]

theorem firstClean_congr (hi : i.SpellsNone) (h : ∀ x s, f x i path .here s = g x i path .here s) :
    ∀ (rs : List (TypeRule S)) (last : ErrorSet),
      firstClean mode f i path rs last = firstClean mode' g i path rs last
  | [], _ => rfl
  | r :: rs, _ => by simp only [firstClean, check_congr hi h r ∅, firstClean_congr hi h rs]

end

end TypeRule

section Here

variable (h : ∀ x s, f x i path .here s = g x i path .here s)

include h

namespace Combinators

theorem runAll_congr (xs : List S) (s : ErrorSet) : runAll f i path xs s = runAll g i path xs s := by
  induction xs generalizing s with
  | nil => rfl
  | cons x xs ih => simp only [runAll, h, ih]

theorem firstClean_congr (s : ErrorSet) (xs : List S) (last : ErrorSet) :
    firstClean f i path s xs last = firstClean g i path s xs last := by
  induction xs generalizing last with
  | nil => rfl
  | cons x xs ih => simp only [firstClean, h, ih]

theorem runEach_congr (xs : List S) (n : Nat) (found : ErrorSet) :
    runEach f i path xs n found = runEach g i path xs n found := by
  induction xs generalizing n found with
  | nil => rfl
  | cons x xs ih => simp only [runEach, h, ih]

theorem check_congr (c : Combinators S) (s : ErrorSet) : c.check f i path s = c.check g i path s := by
  have hall (xs : List S) : checkAllOf f xs i path = checkAllOf g xs i path := by
    funext s
    rw [checkAllOf, checkAllOf, runAll_congr h]
  have hany (xs : List S) : checkAnyOf f xs i path = checkAnyOf g xs i path := by
    funext s
    rw [checkAnyOf, checkAnyOf, firstClean_congr h]
  have hone (xs : List S) : checkOneOf f xs i path = checkOneOf g xs i path := by
    funext s
    rw [checkOneOf, checkOneOf, runEach_congr h]
  simp only [check, hall, hany, hone]

end Combinators

namespace Conditions

theorem check_congr (hi : i.SpellsNone) (c : Conditions S) (s : ErrorSet) :
    c.check mode f i path s = c.check mode' g i path s := by
  have hrule (r : TypeRule S) (s : ErrorSet) : r.check mode f i path s = r.check mode' g i path s :=
    TypeRule.check_congr hi h r s
  have htype (s : ErrorSet) : c.checkType mode f i path s = c.checkType mode' g i path s := by
    simp only [checkType, hrule]
  have hdisallow (s : ErrorSet) : c.checkDisallow mode f i path s = c.checkDisallow mode' g i path s := by
    simp only [checkDisallow, hrule]
  have hnot (s : ErrorSet) : c.checkNot f i path s = c.checkNot g i path s := by
    simp only [checkNot, h]
  unfold check
  simp only [h, htype, hdisallow, hnot]
  split
  · simp only [checkDependencies, Dependency.check, h]
  · rfl

end Conditions

end Here

/-! ## Elements -/

namespace ElementRules

theorem checkElement_congr {e : Json} (h : ∀ x segment s, f x (.present e) path segment s = g x (.present e) path segment s)
    (a : Additional S) (x : S) (position : Nat) (s : ErrorSet) :
    checkElement f a x path position e s = checkElement g a x path position e s := by
  simp only [checkElement, h]

theorem checkEvery_congr {es : List Json}
    (h : ∀ e ∈ es, ∀ x segment s, f x (.present e) path segment s = g x (.present e) path segment s) (a : Additional S)
    (x : S) (position : Nat) (s : ErrorSet) : checkEvery f a x path position es s = checkEvery g a x path position es s := by
  induction es generalizing position s with
  | nil => rfl
  | cons e es ih =>
    rw [checkEvery, checkEvery, checkElement_congr (h e List.mem_cons_self)]
    exact bind_congr fun t => ih (fun e' he' => h e' (List.mem_cons_of_mem e he')) _ t

theorem checkSurplus_congr {e : Json} (h : ∀ x segment s, f x (.present e) path segment s = g x (.present e) path segment s)
    (a : Additional S) (segment : Segment) (position : Nat) (s : ErrorSet) :
    checkSurplus f a path segment position e s = checkSurplus g a path segment position e s := by
  simp only [checkSurplus, h]

theorem checkPositions_congr (habsent : ∀ x segment s, f x .absent path segment s = g x .absent path segment s)
    (a : Additional S) (segment : Segment) : ∀ (position : Nat) (xs : List S) (es : List Json) (s : ErrorSet),
      (∀ e ∈ es, ∀ x segment s, f x (.present e) path segment s = g x (.present e) path segment s) →
      checkPositions f a path segment position xs es s = checkPositions g a path segment position xs es s
  | _, [], [], s, _ => by rw [checkPositions, checkPositions]
  | position, x :: xs, e :: es, s, h => by
    rw [checkPositions, checkPositions, h e List.mem_cons_self]
    refine bind_congr fun t => checkPositions_congr habsent a segment _ xs es t fun e' he' => ?_
    exact h e' (List.mem_cons_of_mem e he')
  | position, [], e :: es, s, h => by
    rw [checkPositions, checkPositions, checkSurplus_congr (h e List.mem_cons_self)]
    refine bind_congr fun t => checkPositions_congr habsent a segment _ [] es t fun e' he' => ?_
    exact h e' (List.mem_cons_of_mem e he')
  | position, x :: xs, [], s, h => by
    rw [checkPositions, checkPositions, habsent]
    exact bind_congr fun t => checkPositions_congr habsent a segment _ xs [] t h

theorem check_congr {elements : List Json} (habsent : ∀ x segment s, f x .absent path segment s = g x .absent path segment s)
    (h : ∀ e ∈ elements, ∀ x segment s, f x (.present e) path segment s = g x (.present e) path segment s)
    (r : ElementRules S) (segment : Segment) (s : ErrorSet) :
    r.check f elements path segment s = r.check g elements path segment s := by
  unfold check
  cases r.items with
  | unspecified => rfl
  | every x => exact checkEvery_congr h r.additional x 0 _
  | positions xs => simp only [checkPositions_congr habsent r.additional segment 0 xs elements _ h]

end ElementRules

/-! ## Members -/

namespace PropertyRules

theorem check_congr {members : Members}
    (h : ∀ j, Instance.Part (.present (.object members)) j → ∀ x segment s, f x j path segment s = g x j path segment s)
    (r : PropertyRules S) (s : ErrorSet) : r.check f members path s = r.check g members path s := by
  have hmember (m : String × Json) (hm : m ∈ members) (x : S) (segment : Segment) (s : ErrorSet) :
      f x (.present m.2) path segment s = g x (.present m.2) path segment s := h _ (.member hm) x segment s
  have hpattern (s : ErrorSet) (p : PatternRule S) : checkPattern f members path s p = checkPattern g members path s p := by
    unfold checkPattern
    split
    · rfl
    · exact foldlM_congr_of_mem (fun m hm s => by simp only [hmember m hm]) s
  have hproperty (s : ErrorSet) (p : PropertyRule S) :
      checkProperty f members path s p = checkProperty g members path s p :=
    h _ (.property members p.name) p.schema _ s
  have hmembers (s : ErrorSet) : members.foldlM (r.checkMember f members path) s =
      members.foldlM (r.checkMember g members path) s :=
    foldlM_congr_of_mem (fun m hm s => by simp only [checkMember, checkUncovered, hmember m hm]) s
  rw [check, check, foldlM_congr_of_mem fun p _ s => hpattern s p]
  refine bind_congr fun t => ?_
  rw [foldlM_congr_of_mem fun p _ s => hproperty s p]
  exact bind_congr hmembers

end PropertyRules

/-! ## All keywords -/

namespace Keywords

variable {formats : Formats}

theorem checkText_congr {text : String} (htext : readFinite? text = none) (k : Keywords S) (s : ErrorSet) :
    k.checkText mode formats text path s = k.checkText mode' formats text path s := by
  simp only [checkText, htext]

/-- **Keywords check an instance alike, in either mode, if their subschemas check its parts alike.** -/
theorem check_eq_of_parts (hi : i.SpellsNone)
    (h : ∀ j, i.Part j → ∀ x segment s, f x j path segment s = g x j path segment s) (k : Keywords S) (segment : Segment)
    (s : ErrorSet) : k.check mode formats f i path segment s = k.check mode' formats g i path segment s := by
  have hself (x : S) (s : ErrorSet) : f x i path .here s = g x i path .here s := h i (.self i) x .here s
  have hconditions (s : ErrorSet) : k.conditions.check mode f i path s = k.conditions.check mode' g i path s :=
    Conditions.check_congr hself hi k.conditions s
  have hkind (s : ErrorSet) :
      k.checkKind mode formats f i path segment s = k.checkKind mode' formats g i path segment s := by
    unfold checkKind
    split
    · exact ElementRules.check_congr (h _ (.absent _)) (fun e he => h _ (.element he)) k.elements segment s
    · split
      · exact PropertyRules.check_congr h _ s
      · rfl
    · exact checkText_congr (hi _ rfl) k s
    · rfl
    · rfl
    · rfl
  simp only [check, hconditions, Combinators.check_congr hself, hkind]

end Keywords

end JsonSchema
