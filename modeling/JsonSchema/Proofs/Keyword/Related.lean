import JsonSchema.Keywords
import JsonSchema.Proofs.ErrorSet
import Mathlib.Data.List.Forall2

/-!
# Keywords over related handles

The rules of keywords do not look into the handles of subschemas. So two schema objects that say the same, over
handles that stand for each other, are checked alike. What "alike" means is any relation between runs that steps taken
one after the other keep: that one of two evaluations may give up where the other does not is an example.

## What is here

* `RunRelation` — what it may mean that two runs are alike.
* `Tolerance` — the faults with which either side may give up. `Tolerance.Agree` — two runs end in the same way,
  or one of them gives up.
* `Keywords.Rel` — two schema objects say the same over related handles. `Keywords.All` — all handles of a schema
  object have a property.
* `Keywords.check_related` — **related keywords are checked alike if related handles are**. The other theorems are
  its parts, one for each group of keywords. `Keywords.check_agree` — the case of a tolerance.
-/

set_option autoImplicit false

namespace JsonSchema

/-! ## Runs that are alike -/

/-- A relation between runs that steps taken one after the other keep. -/
structure RunRelation where
  Agree : {α : Type} → Run α → Run α → Prop
  refl : ∀ {α : Type} (x : Run α), Agree x x
  bind : ∀ {α β : Type} {x y : Run α} {f g : α → Run β}, Agree x y → (∀ v, Agree (f v) (g v)) →
    Agree (x >>= f) (y >>= g)

namespace RunRelation

variable {a : RunRelation} {α β S T : Type} {x y : Run α}

theorem Agree.refl (x : Run α) : a.Agree x x :=
  a.refl x

theorem Agree.bind {f g : α → Run β} (h : a.Agree x y) (hfg : ∀ v, a.Agree (f v) (g v)) :
    a.Agree (x >>= f) (y >>= g) :=
  a.bind h hfg

/-- The same continuation after runs that agree. -/
theorem Agree.bind_same (h : a.Agree x y) (f : α → Run β) : a.Agree (x >>= f) (y >>= f) :=
  h.bind fun _ => Agree.refl _

theorem Agree.foldlM {R : S → T → Prop} {f : β → S → Run β} {g : β → T → Run β}
    (h : ∀ x y, R x y → ∀ b, a.Agree (f b x) (g b y)) {xs : List S} {ys : List T}
    (hxs : List.Forall₂ R xs ys) (b : β) : a.Agree (xs.foldlM f b) (ys.foldlM g b) := by
  induction hxs generalizing b with
  | nil => exact Agree.refl _
  | cons hxy _ ih =>
    rw [List.foldlM_cons, List.foldlM_cons]
    exact (h _ _ hxy b).bind ih

/-- Related handles are checked alike. -/
def Checkers (a : RunRelation) (R : S → T → Prop) (f : Checker S) (g : Checker T) : Prop :=
  ∀ x y, R x y → ∀ i path segment s, a.Agree (f x i path segment s) (g y i path segment s)

end RunRelation

/-! ### Runs that may give up -/

/-- The faults with which the first and the second of two runs may give up. -/
structure Tolerance where
  left : Fault → Prop
  right : Fault → Prop

namespace Tolerance

/-- Neither side may give up. -/
def strict : Tolerance := ⟨fun _ => False, fun _ => False⟩

variable (a : Tolerance) {α β S T : Type}

/-- Two runs end in the same way, or one of them gives up. -/
def Agree (x y : Run α) : Prop :=
  x.outcome = y.outcome ∨ (∃ f, x.outcome = .error f ∧ a.left f) ∨ ∃ f, y.outcome = .error f ∧ a.right f

variable {a} {x y : Run α}

theorem Agree.refl (x : Run α) : a.Agree x x :=
  Or.inl rfl

/-- Only outcomes matter. -/
theorem Agree.congr {x' y' : Run α} (h : a.Agree x' y') (hx : x.outcome = x'.outcome) (hy : y.outcome = y'.outcome) :
    a.Agree x y := by
  rw [Agree, hx, hy]
  exact h

theorem Agree.strict_outcome (h : strict.Agree x y) : x.outcome = y.outcome := by
  rcases h with h | ⟨f, -, h⟩ | ⟨f, -, h⟩
  · exact h
  · exact h.elim
  · exact h.elim

theorem Agree.bind {f g : α → Run β} (h : a.Agree x y) (hfg : ∀ v, a.Agree (f v) (g v)) :
    a.Agree (x >>= f) (y >>= g) := by
  rcases h with h | ⟨e, he, hl⟩ | ⟨e, he, hr⟩
  · cases hy : y.outcome with
    | error e =>
      rw [Agree, Run.outcome_bind_error (h.trans hy), Run.outcome_bind_error hy]
      exact Or.inl rfl
    | ok v =>
      rw [Agree, Run.outcome_bind_ok (h.trans hy), Run.outcome_bind_ok hy]
      exact hfg v
  · exact Or.inr (Or.inl ⟨e, Run.outcome_bind_error he, hl⟩)
  · exact Or.inr (Or.inr ⟨e, Run.outcome_bind_error he, hr⟩)

/-- Ending in the same way, unless one side gives up, is a way of being alike. -/
def relation (a : Tolerance) : RunRelation := ⟨a.Agree, Agree.refl, Agree.bind⟩

/-- Related handles are checked alike. -/
def Checkers (a : Tolerance) (R : S → T → Prop) (f : Checker S) (g : Checker T) : Prop :=
  ∀ x y, R x y → ∀ i path segment s, a.Agree (f x i path segment s) (g y i path segment s)

end Tolerance

open RunRelation

variable {S T : Type} {R : S → T → Prop} {a : RunRelation} {f : Checker S} {g : Checker T}

/-! ## The same keywords over related handles -/

mutual

/-- The same alternatives over related handles. -/
inductive TypeRule.Rel (R : S → T → Prop) : TypeRule S → TypeRule T → Prop where
  | any : TypeRule.Rel R .any .any
  | named (name : TypeName) : TypeRule.Rel R (.named name) (.named name)
  | schema {x y} (h : R x y) : TypeRule.Rel R (.schema x) (.schema y)
  | union {xs ys} (h : TypeRule.RelAll R xs ys) : TypeRule.Rel R (.union xs) (.union ys)
  | unknown (name : String) : TypeRule.Rel R (.unknown name) (.unknown name)

/-- The same lists of alternatives over related handles. -/
inductive TypeRule.RelAll (R : S → T → Prop) : List (TypeRule S) → List (TypeRule T) → Prop where
  | nil : TypeRule.RelAll R [] []
  | cons {x y xs ys} (h : TypeRule.Rel R x y) (hs : TypeRule.RelAll R xs ys) :
    TypeRule.RelAll R (x :: xs) (y :: ys)

end

/-- The same dependency over related handles. -/
inductive Dependency.Rel (R : S → T → Prop) : Dependency S → Dependency T → Prop where
  | properties (names : List String) : Dependency.Rel R (.properties names) (.properties names)
  | schema {x y} (h : R x y) : Dependency.Rel R (.schema x) (.schema y)
  | ignored : Dependency.Rel R .ignored .ignored

/-- The same treatment of what is not mentioned. -/
inductive Additional.Rel (R : S → T → Prop) : Additional S → Additional T → Prop where
  | unspecified : Additional.Rel R .unspecified .unspecified
  | allow : Additional.Rel R .allow .allow
  | deny : Additional.Rel R .deny .deny
  | schema {x y} (h : R x y) : Additional.Rel R (.schema x) (.schema y)

/-- The same schemas for elements. -/
inductive Items.Rel (R : S → T → Prop) : Items S → Items T → Prop where
  | unspecified : Items.Rel R .unspecified .unspecified
  | every {x y} (h : R x y) : Items.Rel R (.every x) (.every y)
  | positions {xs ys} (h : List.Forall₂ R xs ys) : Items.Rel R (.positions xs) (.positions ys)

/-- The same conditions over related handles. -/
structure Conditions.Rel (R : S → T → Prop) (k : Conditions S) (l : Conditions T) : Prop where
  extended : List.Forall₂ R k.extended l.extended
  required : k.required = l.required
  type : Option.Rel (TypeRule.Rel R) k.type l.type
  disallow : Option.Rel (TypeRule.Rel R) k.disallow l.disallow
  not : Option.Rel R k.not l.not
  minProperties : k.minProperties = l.minProperties
  maxProperties : k.maxProperties = l.maxProperties
  dependencies : List.Forall₂ (fun x y => x.1 = y.1 ∧ Dependency.Rel R x.2 y.2) k.dependencies l.dependencies

/-- The same combinators over related handles. -/
structure Combinators.Rel (R : S → T → Prop) (k : Combinators S) (l : Combinators T) : Prop where
  allOf : Option.Rel (List.Forall₂ R) k.allOf l.allOf
  anyOf : Option.Rel (List.Forall₂ R) k.anyOf l.anyOf
  oneOf : Option.Rel (List.Forall₂ R) k.oneOf l.oneOf

/-- The same keywords for arrays over related handles. -/
structure ElementRules.Rel (R : S → T → Prop) (k : ElementRules S) (l : ElementRules T) : Prop where
  minItems : k.minItems = l.minItems
  maxItems : k.maxItems = l.maxItems
  uniqueItems : k.uniqueItems = l.uniqueItems
  items : Items.Rel R k.items l.items
  additional : Additional.Rel R k.additional l.additional

/-- The same entry of `properties` over related handles. -/
structure PropertyRule.Rel (R : S → T → Prop) (k : PropertyRule S) (l : PropertyRule T) : Prop where
  name : k.name = l.name
  schema : R k.schema l.schema
  declared : k.declared = l.declared
  requires : k.requires = l.requires

/-- The same entry of `patternProperties` over related handles. -/
structure PatternRule.Rel (R : S → T → Prop) (k : PatternRule S) (l : PatternRule T) : Prop where
  pattern : k.pattern = l.pattern
  schema : R k.schema l.schema

/-- The same keywords for objects over related handles. -/
structure PropertyRules.Rel (R : S → T → Prop) (k : PropertyRules S) (l : PropertyRules T) : Prop where
  patterns : List.Forall₂ (PatternRule.Rel R) k.patterns l.patterns
  properties : List.Forall₂ (PropertyRule.Rel R) k.properties l.properties
  additional : Additional.Rel R k.additional l.additional

/-- The same keywords over related handles. -/
structure Keywords.Rel (R : S → T → Prop) (k : Keywords S) (l : Keywords T) : Prop where
  conditions : Conditions.Rel R k.conditions l.conditions
  combinators : Combinators.Rel R k.combinators l.combinators
  properties : Option.Rel (PropertyRules.Rel R) k.properties l.properties
  elements : ElementRules.Rel R k.elements l.elements
  text : k.text = l.text
  number : k.number = l.number
  format : k.format = l.format
  enumeration : k.enumeration = l.enumeration

/-- All handles in keywords have a property. -/
def Keywords.All (P : S → Prop) (k : Keywords S) : Prop :=
  Keywords.Rel (fun x y => x = y ∧ P x) k k

/-! ## Types -/

variable (mode : Mode) (formats : Formats) (i : Instance) (path : String) (segment : Segment)

namespace TypeRule

mutual

theorem check_agree (h : a.Checkers R f g) :
    ∀ {k : TypeRule S} {l : TypeRule T}, Rel R k l → ∀ s,
      a.Agree (k.check mode f i path s) (l.check mode g i path s)
  | _, _, .any, _ => Agree.refl _
  | _, _, .named _, _ => Agree.refl _
  | _, _, .schema hxy, s => h _ _ hxy i path .here s
  | _, _, .unknown _, _ => Agree.refl _
  | _, _, .union hs, s => by
    rw [check, check]
    cases hs with
    | nil => exact Agree.refl _
    | cons hxy hs => exact (firstClean_agree h (.cons hxy hs) ∅).bind_same _

theorem firstClean_agree (h : a.Checkers R f g) :
    ∀ {ks : List (TypeRule S)} {ls : List (TypeRule T)}, RelAll R ks ls → ∀ last,
      a.Agree (firstClean mode f i path ks last) (firstClean mode g i path ls last)
  | _, _, .nil, _ => Agree.refl _
  | _, _, .cons hxy hs, last => by
    rw [firstClean, firstClean]
    refine (check_agree h hxy ∅).bind fun found => ?_
    split
    · exact Agree.refl _
    · exact firstClean_agree h hs found

end

end TypeRule

/-! ## Conditions for every kind -/

theorem Dependency.check_agree (h : a.Checkers R f g) (members : Members) (key : String)
    {k : Dependency S} {l : Dependency T} (hkl : Rel R k l) (s : ErrorSet) :
    a.Agree (k.check f members path key s) (l.check g members path key s) := by
  cases hkl with
  | properties names => exact Agree.refl _
  | schema hxy => exact h _ _ hxy _ path .here s
  | ignored => exact Agree.refl _

namespace Conditions

theorem check_agree (h : a.Checkers R f g) {k : Conditions S} {l : Conditions T} (hkl : Rel R k l)
    (s : ErrorSet) : a.Agree (k.check mode f i path s) (l.check mode g i path s) := by
  obtain ⟨ke, kr, kt, kd, kn, kmin, kmax, kdeps⟩ := k
  obtain ⟨le, lr, lt, ld, ln, lmin, lmax, ldeps⟩ := l
  obtain ⟨hextended, rfl, htype, hdisallow, hnot, rfl, rfl, hdependencies⟩ := hkl
  rw [check, check]
  refine (Agree.foldlM (fun x y hxy s => h x y hxy i path .here s) hextended s).bind fun t => ?_
  refine Agree.bind ?_ fun t => Agree.bind ?_ fun t => Agree.bind ?_ fun t => ?_
  · unfold checkType
    cases htype with
    | none => exact Agree.refl _
    | some hr =>
      dsimp only
      split
      · exact Agree.refl _
      · exact TypeRule.check_agree mode i path h hr _
  · unfold checkDisallow
    cases hdisallow with
    | none => exact Agree.refl _
    | some hr => exact (TypeRule.check_agree mode i path h hr t).bind_same _
  · unfold checkNot
    cases hnot with
    | none => exact Agree.refl _
    | some hxy => exact (h _ _ hxy i path .here t).bind_same _
  · split
    · refine Agree.foldlM (fun x y hxy s => ?_) hdependencies _
      dsimp only
      rw [hxy.1]
      split
      · exact Dependency.check_agree path h _ _ hxy.2 s
      · exact Agree.refl _
    · exact Agree.refl _

end Conditions

/-! ## Combinators -/

namespace Combinators

variable {xs : List S} {ys : List T}

theorem runAll_agree (h : a.Checkers R f g) (hxs : List.Forall₂ R xs ys) (s : ErrorSet) :
    a.Agree (runAll f i path xs s) (runAll g i path ys s) := by
  induction hxs generalizing s with
  | nil => exact Agree.refl _
  | cons hxy _ ih => exact (h _ _ hxy i path .here s).bind fun t => (ih t).bind_same _

theorem firstClean_agree (h : a.Checkers R f g) (hxs : List.Forall₂ R xs ys) (s last : ErrorSet) :
    a.Agree (firstClean f i path s xs last) (firstClean g i path s ys last) := by
  induction hxs generalizing last with
  | nil => exact Agree.refl _
  | cons hxy _ ih =>
    rw [firstClean, firstClean]
    refine (h _ _ hxy i path .here s).bind fun t => ?_
    split
    · exact Agree.refl _
    · exact ih t

theorem runEach_agree (h : a.Checkers R f g) (hxs : List.Forall₂ R xs ys) (n : Nat) (found : ErrorSet) :
    a.Agree (runEach f i path xs n found) (runEach g i path ys n found) := by
  induction hxs generalizing n found with
  | nil => exact Agree.refl _
  | cons hxy _ ih => exact (h _ _ hxy i path .here ∅).bind fun t => ih _ _

theorem checkOptional_agree {rule : List S → ErrorSet → Run ErrorSet} {rule' : List T → ErrorSet → Run ErrorSet}
    (h : ∀ xs ys, List.Forall₂ R xs ys → ∀ s, a.Agree (rule xs s) (rule' ys s)) {k : Option (List S)}
    {l : Option (List T)} (hkl : Option.Rel (List.Forall₂ R) k l) (s : ErrorSet) :
    a.Agree (checkOptional rule k s) (checkOptional rule' l s) := by
  cases hkl with
  | none => exact Agree.refl _
  | some hxs => exact h _ _ hxs s

theorem check_agree (h : a.Checkers R f g) {k : Combinators S} {l : Combinators T} (hkl : Rel R k l)
    (s : ErrorSet) : a.Agree (k.check f i path s) (l.check g i path s) := by
  rw [check, check]
  split
  · exact Agree.refl _
  · refine (checkOptional_agree (fun xs ys hxs s => ?_) hkl.allOf s).bind fun t => ?_
    · exact (runAll_agree i path h hxs s).bind_same _
    refine (checkOptional_agree (fun xs ys hxs s => ?_) hkl.anyOf t).bind fun t => ?_
    · exact (firstClean_agree i path h hxs s s).bind_same _
    exact checkOptional_agree (fun xs ys hxs s => (runEach_agree i path h hxs 0 ∅).bind_same _) hkl.oneOf t

end Combinators

/-! ## Arrays -/

namespace ElementRules

variable {b : Additional S} {c : Additional T}

theorem checkElement_agree (h : a.Checkers R f g) (hbc : Additional.Rel R b c) {x : S} {y : T} (hxy : R x y)
    (position : Nat) (element : Json) (s : ErrorSet) :
    a.Agree (checkElement f b x path position element s) (checkElement g c y path position element s) := by
  rw [checkElement, checkElement]
  refine (h _ _ hxy _ path _ s).bind fun first => ?_
  split
  · exact Agree.refl _
  · cases hbc with
    | schema hxy => exact (h _ _ hxy _ path _ s).bind_same _
    | _ => exact Agree.refl _

theorem checkEvery_agree (h : a.Checkers R f g) (hbc : Additional.Rel R b c) {x : S} {y : T} (hxy : R x y)
    (es : List Json) (position : Nat) (s : ErrorSet) :
    a.Agree (checkEvery f b x path position es s) (checkEvery g c y path position es s) := by
  induction es generalizing position s with
  | nil => exact Agree.refl _
  | cons e es ih => exact (checkElement_agree path h hbc hxy position e s).bind fun t => ih _ t

theorem checkSurplus_agree (h : a.Checkers R f g) (hbc : Additional.Rel R b c) (position : Nat)
    (element : Json) (s : ErrorSet) :
    a.Agree (checkSurplus f b path segment position element s) (checkSurplus g c path segment position element s) := by
  cases hbc with
  | schema hxy => exact h _ _ hxy _ path _ s
  | _ => exact Agree.refl _

theorem checkPositions_agree (h : a.Checkers R f g) (hbc : Additional.Rel R b c) {xs : List S} {ys : List T}
    (hxs : List.Forall₂ R xs ys) (es : List Json) (position : Nat) (s : ErrorSet) :
    a.Agree (checkPositions f b path segment position xs es s)
      (checkPositions g c path segment position ys es s) := by
  induction hxs generalizing es position s with
  | nil =>
    induction es generalizing position s with
    | nil =>
      rw [checkPositions, checkPositions]
      exact Agree.refl _
    | cons e es ih =>
      rw [checkPositions, checkPositions]
      exact (checkSurplus_agree path segment h hbc position e s).bind fun t => ih _ t
  | cons hxy _ ih =>
    cases es with
    | nil =>
      rw [checkPositions, checkPositions]
      exact (h _ _ hxy _ path _ s).bind fun t => ih _ _ t
    | cons e es =>
      rw [checkPositions, checkPositions]
      exact (h _ _ hxy _ path _ s).bind fun t => ih es _ t

theorem check_agree (h : a.Checkers R f g) {k : ElementRules S} {l : ElementRules T} (hkl : Rel R k l)
    (elements : List Json) (s : ErrorSet) :
    a.Agree (k.check f elements path segment s) (l.check g elements path segment s) := by
  obtain ⟨kmin, kmax, kunique, ki, ka⟩ := k
  obtain ⟨lmin, lmax, lunique, li, la⟩ := l
  obtain ⟨rfl, rfl, rfl, hitems, hadditional⟩ := hkl
  rw [check, check]
  cases hitems with
  | unspecified => exact Agree.refl _
  | every hxy => exact checkEvery_agree path h hadditional hxy elements 0 _
  | positions hxs =>
    dsimp only
    split
    · exact Agree.refl _
    · exact checkPositions_agree path segment h hadditional hxs elements 0 _

end ElementRules

/-! ## Objects -/

namespace PropertyRules

variable {k : PropertyRules S} {l : PropertyRules T}

theorem find?_rel (p : PropertyRule S → Bool) (q : PropertyRule T → Bool)
    (hpq : ∀ {x y}, PropertyRule.Rel R x y → p x = q y) {xs : List (PropertyRule S)}
    {ys : List (PropertyRule T)} (hxs : List.Forall₂ (PropertyRule.Rel R) xs ys) :
    Option.Rel (PropertyRule.Rel R) (xs.find? p) (ys.find? q) := by
  induction hxs with
  | nil => exact Option.Rel.none
  | cons hxy _ ih =>
    rw [List.find?_cons, List.find?_cons, hpq hxy]
    split
    · exact Option.Rel.some hxy
    · exact ih

theorem definition?_rel (hkl : Rel R k l) (key : String) :
    Option.Rel (PropertyRule.Rel R) (k.definition? key) (l.definition? key) :=
  find?_rel _ _ (fun hxy => by rw [hxy.declared, hxy.name]) hkl.properties

theorem any_appliesTo_eq {xs : List (PatternRule S)} {ys : List (PatternRule T)}
    (hxs : List.Forall₂ (PatternRule.Rel R) xs ys) (key : String) :
    xs.any (·.appliesTo key) = ys.any (·.appliesTo key) := by
  induction hxs with
  | nil => rfl
  | cons hxy _ ih =>
    rw [List.any_cons, List.any_cons, PatternRule.appliesTo, PatternRule.appliesTo, hxy.pattern, ih]

theorem isSome_eq_of_rel {A B : Type} {Q : A → B → Prop} {x : Option A} {y : Option B} (h : Option.Rel Q x y) :
    x.isSome = y.isSome := by
  cases h <;> rfl

theorem requires_eq_of_rel {x : Option (PropertyRule S)} {y : Option (PropertyRule T)}
    (h : Option.Rel (PropertyRule.Rel R) x y) : x.bind (·.requires) = y.bind (·.requires) := by
  cases h with
  | none => rfl
  | some hxy => exact hxy.requires

theorem covers_eq (hkl : Rel R k l) (key : String) : k.covers key = l.covers key := by
  rw [covers, covers, any_appliesTo_eq hkl.patterns, isSome_eq_of_rel (definition?_rel hkl key)]

theorem checkRequires_eq (hkl : Rel R k l) (members : Members) (key : String) (s : ErrorSet) :
    k.checkRequires members path key s = l.checkRequires members path key s := by
  rw [checkRequires, checkRequires, requires_eq_of_rel (definition?_rel hkl key)]

theorem checkPattern_agree (h : a.Checkers R f g) (members : Members) {p : PatternRule S} {q : PatternRule T}
    (hpq : PatternRule.Rel R p q) (s : ErrorSet) :
    a.Agree (checkPattern f members path s p) (checkPattern g members path s q) := by
  rw [checkPattern, checkPattern, hpq.pattern]
  split
  · exact Agree.refl _
  · refine Agree.foldlM (R := Eq) (fun m _ hm s => ?_) (List.forall₂_refl members) s
    subst hm
    dsimp only
    split
    · exact h _ _ hpq.schema _ path _ s
    · exact Agree.refl _

theorem checkUncovered_agree (h : a.Checkers R f g) (hkl : Rel R k l) (key : String) (value : Json)
    (s : ErrorSet) : a.Agree (k.checkUncovered f path key value s) (l.checkUncovered g path key value s) := by
  obtain ⟨_, _, ka⟩ := k
  obtain ⟨_, _, la⟩ := l
  obtain ⟨_, _, hadditional⟩ := hkl
  unfold checkUncovered
  cases hadditional with
  | schema hxy => exact h _ _ hxy _ path _ s
  | _ => exact Agree.refl _

theorem checkMember_agree (h : a.Checkers R f g) (hkl : Rel R k l) (members : Members) (m : String × Json)
    (s : ErrorSet) : a.Agree (k.checkMember f members path s m) (l.checkMember g members path s m) := by
  have hcovered : a.Agree (if k.covers m.1 then pure s else k.checkUncovered f path m.1 m.2 s)
      (if l.covers m.1 then pure s else l.checkUncovered g path m.1 m.2 s) := by
    rw [covers_eq hkl]
    split
    · exact Agree.refl _
    · exact checkUncovered_agree path h hkl m.1 m.2 s
  rw [checkMember_eq, checkMember_eq]
  refine hcovered.bind fun t => ?_
  rw [checkRequires_eq path hkl]
  exact Agree.refl _

theorem check_agree (h : a.Checkers R f g) (hkl : Rel R k l) (members : Members) (s : ErrorSet) :
    a.Agree (k.check f members path s) (l.check g members path s) := by
  have hpattern (p : PatternRule S) (q : PatternRule T) (hpq : PatternRule.Rel R p q) (s : ErrorSet) :
      a.Agree (checkPattern f members path s p) (checkPattern g members path s q) :=
    checkPattern_agree path h members hpq s
  have hpatterns (s : ErrorSet) : a.Agree (k.patterns.foldlM (checkPattern f members path) s)
      (l.patterns.foldlM (checkPattern g members path) s) :=
    Agree.foldlM hpattern hkl.patterns s
  rw [check, check]
  refine Agree.bind (hpatterns s) fun t => Agree.bind ?_ fun u => ?_
  · refine Agree.foldlM (fun p q hpq s => ?_) hkl.properties t
    rw [checkProperty, checkProperty, hpq.name]
    exact h _ _ hpq.schema _ path _ s
  · refine Agree.foldlM (R := Eq) (fun m _ hm s => ?_) (List.forall₂_refl members) u
    subst hm
    exact checkMember_agree path h hkl members m s

end PropertyRules

/-! ## All keywords -/

namespace Keywords

variable {k : Keywords S} {l : Keywords T}

theorem checkKind_agree (h : a.Checkers R f g) (hkl : Rel R k l) (s : ErrorSet) :
    a.Agree (k.checkKind mode formats f i path segment s) (l.checkKind mode formats g i path segment s) := by
  obtain ⟨_, _, kp, ke, _, _, _, _⟩ := k
  obtain ⟨_, _, lp, le, _, _, _, _⟩ := l
  obtain ⟨_, _, hproperties, helements, rfl, rfl, rfl, rfl⟩ := hkl
  unfold checkKind
  split
  · exact ElementRules.check_agree path segment h helements _ s
  · cases hproperties with
    | none => exact Agree.refl _
    | some hr => exact PropertyRules.check_agree path h hr _ s
  · exact Agree.refl _
  · exact Agree.refl _
  · exact Agree.refl _
  · exact Agree.refl _

/-- **Related keywords are checked alike if related handles are.** -/
theorem check_related (h : a.Checkers R f g) (hkl : Rel R k l) (s : ErrorSet) :
    a.Agree (k.check mode formats f i path segment s) (l.check mode formats g i path segment s) := by
  rw [check, check, hkl.enumeration]
  refine (Conditions.check_agree mode i path h hkl.conditions s).bind fun t => ?_
  refine (Combinators.check_agree i path h hkl.combinators t).bind fun t => ?_
  exact (checkKind_agree mode formats i path segment h hkl t).bind_same _

/-- Related keywords end in the same way if related handles do, unless one side gives up. -/
theorem check_agree {a : Tolerance} (h : a.Checkers R f g) (hkl : Rel R k l) (s : ErrorSet) :
    a.Agree (k.check mode formats f i path segment s) (l.check mode formats g i path segment s) :=
  check_related mode formats i path segment (a := a.relation) h hkl s

end Keywords

end JsonSchema
