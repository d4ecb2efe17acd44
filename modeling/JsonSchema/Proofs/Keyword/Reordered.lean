import JsonSchema.Proofs.Json.Reordered
import JsonSchema.Proofs.Keyword.Reading
import JsonSchema.Proofs.Keyword.Related

/-!
# Keywords do not look at the order of members

What the keywords of a schema object ask for is a condition. It is read up to the first part that settles it, so on
objects whose members stand in different orders different parts may be read, and faults may be met on one side only.
But where both sides are settled, they are settled alike: a member that fails on one side has its like on the other.
Only `uniqueItems` looks at texts, and so at order.

## What is here

* `Concur` — two outcomes that are the same if there are two. `Concur.and`, `Concur.allM`, `Concur.allM_of_mem` —
  how conditions concur whose parts do.
* `Judge.Concur` — related handles are judged alike on instances that differ in the order of members.
* `Keywords.holds_concur` — **the condition of keywords without `uniqueItems` does not depend on the order of members**,
  if those of its handles do not. The other theorems are its parts, one for each group of keywords.
-/

set_option autoImplicit false

namespace JsonSchema

/-! ## Outcomes that concur -/

section Concur

variable {α β : Type}

/-- If both outcomes are values, they are the same. -/
def Concur (x y : Except Fault α) : Prop := ∀ a b, x = .ok a → y = .ok b → a = b

variable {x y : Except Fault α}

theorem Concur.of_eq (h : x = y) : Concur x y := by
  rintro a b rfl hb
  exact Except.ok.inj (h ▸ hb)

theorem Concur.refl (x : Except Fault α) : Concur x x := .of_eq rfl

theorem Concur.bind {f g : α → Except Fault β} (h : Concur x y) (hfg : ∀ a, Concur (f a) (g a)) :
    Concur (x >>= f) (y >>= g) := by
  intro b c hb hc
  cases x with
  | error e => cases hb
  | ok a =>
    cases y with
    | error e => cases hc
    | ok a' =>
      cases h a a' rfl rfl
      exact hfg a b c hb hc

theorem Concur.bind_same {f g : α → Except Fault β} (hfg : ∀ a, x = .ok a → Concur (f a) (g a)) :
    Concur (x >>= f) (x >>= g) := by
  cases x with
  | error e => exact .refl _
  | ok a => exact hfg a rfl

variable {v v' w w' : Verdict}

theorem Concur.and (h : Concur v w) (h' : Concur v' w') : Concur (v <&&> v') (w <&&> w') :=
  h.bind fun b => by
    cases b with
    | true => exact h'
    | false => exact .refl _

theorem Concur.or (h : Concur v w) (h' : Concur v' w') : Concur (v <||> v') (w <||> w') :=
  h.bind fun b => by
    cases b with
    | true => exact .refl _
    | false => exact h'

theorem Concur.not (h : Concur v w) : Concur (notM v) (notM w) := by
  rw [notM, notM, map_eq_pure_bind, map_eq_pure_bind]
  exact h.bind fun _ => .refl _

end Concur

/-! ### Lists -/

section Lists

variable {A B : Type} {p : A → Verdict} {q : B → Verdict} {xs : List A} {ys : List B}

theorem holds_of_allM (h : xs.allM p = .ok true) : ∀ x ∈ xs, p x = .ok true := by
  induction xs with
  | nil => exact fun x hx => absurd hx List.not_mem_nil
  | cons x xs ih =>
    rw [List.allM_cons] at h
    cases hx : p x with
    | error e =>
      rw [hx] at h
      cases h
    | ok b =>
      rw [hx] at h
      cases b with
      | false => cases h
      | true => exact List.forall_mem_cons.mpr ⟨hx, ih h⟩

theorem exists_of_allM (h : xs.allM p = .ok false) : ∃ x ∈ xs, p x = .ok false := by
  induction xs with
  | nil => cases h
  | cons x xs ih =>
    rw [List.allM_cons] at h
    cases hx : p x with
    | error e =>
      rw [hx] at h
      cases h
    | ok b =>
      rw [hx] at h
      cases b with
      | false => exact ⟨x, List.mem_cons_self, hx⟩
      | true =>
        obtain ⟨z, hz, hfails⟩ := ih h
        exact ⟨z, List.mem_cons_of_mem x hz, hfails⟩

/-- What fails for one of the elements on one side fails for one on the other side, wherever it stands. -/
theorem Concur.allM_of_mem (forth : ∀ x ∈ xs, ∃ y ∈ ys, Concur (p x) (q y))
    (back : ∀ y ∈ ys, ∃ x ∈ xs, Concur (p x) (q y)) : Concur (xs.allM p) (ys.allM q) := by
  intro a b ha hb
  -- Neither side says where it has found the failure, so its partner may not have been read on the other side.
  cases a with
  | true =>
    cases b with
    | true => rfl
    | false =>
      obtain ⟨y, hy, hfails⟩ := exists_of_allM hb
      obtain ⟨x, hx, hxy⟩ := back y hy
      exact hxy _ _ (holds_of_allM ha x hx) hfails
  | false =>
    cases b with
    | false => rfl
    | true =>
      obtain ⟨x, hx, hfails⟩ := exists_of_allM ha
      obtain ⟨y, hy, hxy⟩ := forth x hx
      exact hxy _ _ hfails (holds_of_allM hb y hy)

variable {R : A → B → Prop}

theorem Concur.allM (h : ∀ x y, R x y → Concur (p x) (q y)) (hxs : List.Forall₂ R xs ys) :
    Concur (xs.allM p) (ys.allM q) :=
  have hconcur := hxs.imp h
  .allM_of_mem (forall₂_exists_right hconcur) (forall₂_exists_right hconcur.flip)

theorem Concur.anyM (h : ∀ x y, R x y → Concur (p x) (q y)) (hxs : List.Forall₂ R xs ys) :
    Concur (xs.anyM p) (ys.anyM q) := by
  induction hxs with
  | nil => exact .refl _
  | cons hxy _ ih =>
    rw [List.anyM_cons, List.anyM_cons]
    refine (h _ _ hxy).bind fun b => ?_
    cases b with
    | true => exact .refl _
    | false => exact ih

end Lists

/-! ## Judges -/

variable {S T : Type} {R : S → T → Prop} {judge : Judge S} {judge' : Judge T} {mode : Mode} {formats : Formats}
  {i j : Instance} {path : String}

/-- Related handles are judged alike on instances that differ in the order of members. -/
def Judge.Concur (R : S → T → Prop) (judge : Judge S) (judge' : Judge T) : Prop :=
  ∀ x y, R x y → ∀ i j, i.Reordered j → ∀ path segment,
    JsonSchema.Concur (judge x i path segment) (judge' y j path segment)

/-! ## Types -/

namespace TypeRule

mutual

theorem holds_concur (h : Judge.Concur R judge judge') (hi : i.Reordered j) : ∀ {k : TypeRule S} {l : TypeRule T},
    Rel R k l → Concur (k.holds mode judge i path) (l.holds mode judge' j path)
  | _, _, .any => .refl _
  | _, _, .named name => .of_eq (congrArg pure (hi.accepts_eq name mode))
  | _, _, .schema hxy => h _ _ hxy i j hi path .here
  | _, _, .unknown _ => .refl _
  | _, _, .union hs => by
    rw [holds, holds]
    cases hs with
    | nil => exact .refl _
    | cons hxy hs => exact someHolds_concur h hi (.cons hxy hs)

theorem someHolds_concur (h : Judge.Concur R judge judge') (hi : i.Reordered j) :
    ∀ {ks : List (TypeRule S)} {ls : List (TypeRule T)}, RelAll R ks ls →
      Concur (someHolds mode judge i path ks) (someHolds mode judge' j path ls)
  | _, _, .nil => .refl _
  | _, _, .cons hxy hs => by
    rw [someHolds, someHolds]
    exact (holds_concur h hi hxy).or (someHolds_concur h hi hs)

end

end TypeRule

/-! ## Conditions for every kind -/

theorem Required.holds_eq (r : Required) (hi : i.Reordered j) : r.holds i = r.holds j := by
  cases hi with
  | absent => rfl
  | present hd h =>
    cases r with
    | unspecified => rfl
    | flag b => cases b <;> rfl
    | names wanted =>
      cases h with
      | object h hperm => exact List.all_congr rfl fun name => (Members.Reordered.of_object hd h hperm).hasKey_eq name
      | _ => rfl

theorem Dependency.holds_concur (h : Judge.Concur R judge judge') {ms ns : Members} (hms : Members.Reordered ms ns)
    (hi : Instance.Reordered (.present (.object ms)) (.present (.object ns))) {k : Dependency S} {l : Dependency T}
    (hkl : Rel R k l) : Concur (k.holds judge ms path) (l.holds judge' ns path) := by
  cases hkl with
  | properties names => exact .of_eq (congrArg pure (List.all_congr rfl fun name => hms.hasKey_eq name))
  | schema hxy => exact h _ _ hxy _ _ hi path .here
  | ignored => exact .refl _

namespace Conditions

variable {k : Conditions S} {l : Conditions T}

theorem objectHolds_concur (h : Judge.Concur R judge judge') (hkl : Rel R k l) (hi : i.Reordered j) :
    Concur (k.objectHolds judge i path) (l.objectHolds judge' j path) := by
  cases hi with
  | absent => exact .refl _
  | present hd hjk =>
    cases hjk with
    | object hms hperm =>
      have hmembers := Members.Reordered.of_object hd hms hperm
      refine Concur.and (.of_eq (congrArg pure ?_)) (Concur.allM ?_ hkl.dependencies)
      · rw [sizeHolds, sizeHolds, hkl.minProperties, hkl.maxProperties, hmembers.length_eq]
      · rintro ⟨key, d⟩ ⟨_, d'⟩ ⟨rfl, hdd⟩
        dsimp only
        rw [hmembers.hasKey_eq key]
        split
        · exact Dependency.holds_concur h hmembers (.present hd (.object hms hperm)) hdd
        · exact .refl _
    | _ => exact .refl _

theorem holds_concur (h : Judge.Concur R judge judge') (hkl : Rel R k l) (hi : i.Reordered j) :
    Concur (k.holds mode judge i path) (l.holds mode judge' j path) := by
  have hobject : Concur (k.objectHolds judge i path) (l.objectHolds judge' j path) := objectHolds_concur h hkl hi
  obtain ⟨ke, kr, kt, kd, kn, kmin, kmax, kdeps⟩ := k
  obtain ⟨le, lr, lt, ld, ln, lmin, lmax, ldeps⟩ := l
  obtain ⟨hextended, rfl, htype, hdisallow, hnot, rfl, rfl, hdependencies⟩ := hkl
  refine Concur.and ?_ (Concur.and ?_ (Concur.and ?_ (Concur.and ?_ (Concur.and ?_ hobject))))
  · exact Concur.allM (fun x y hxy => h x y hxy i j hi path .here) hextended
  · exact .of_eq (congrArg pure (Required.holds_eq kr hi))
  · unfold typeHolds
    cases htype with
    | none => exact .refl _
    | some hr =>
      dsimp only
      rw [hi.isAbsent_eq]
      split
      · exact .refl _
      · exact TypeRule.holds_concur h hi hr
  · unfold disallowHolds
    cases hdisallow with
    | none => exact .refl _
    | some hr => exact (TypeRule.holds_concur h hi hr).not
  · unfold notHolds
    cases hnot with
    | none => exact .refl _
    | some hxy => exact (h _ _ hxy i j hi path .here).not

end Conditions

/-! ## Combinators -/

namespace Combinators

theorem countHolding_concur (h : Judge.Concur R judge judge') (hi : i.Reordered j) {xs : List S} {ys : List T}
    (hxs : List.Forall₂ R xs ys) : Concur (countHolding judge i path xs) (countHolding judge' j path ys) := by
  induction hxs with
  | nil => exact .refl _
  | cons hxy _ ih => exact (h _ _ hxy i j hi path .here).bind fun holds => ih.bind fun n => .refl _

theorem oneHolds_concur (h : Judge.Concur R judge judge') (hi : i.Reordered j) {xs : List S} {ys : List T}
    (hxs : List.Forall₂ R xs ys) : Concur (oneHolds judge i path xs) (oneHolds judge' j path ys) :=
  (countHolding_concur h hi hxs).bind fun _ => .refl _

theorem optionalHolds_concur {rule : List S → Verdict} {rule' : List T → Verdict}
    (h : ∀ xs ys, List.Forall₂ R xs ys → Concur (rule xs) (rule' ys)) {k : Option (List S)} {l : Option (List T)}
    (hkl : Option.Rel (List.Forall₂ R) k l) : Concur (optionalHolds rule k) (optionalHolds rule' l) := by
  cases hkl with
  | none => exact .refl _
  | some hxs => exact h _ _ hxs

theorem holds_concur (h : Judge.Concur R judge judge') {k : Combinators S} {l : Combinators T} (hkl : Rel R k l)
    (hi : i.Reordered j) : Concur (k.holds judge i path) (l.holds judge' j path) := by
  have hbranch (x : S) (y : T) (hxy : R x y) : Concur (judge x i path .here) (judge' y j path .here) :=
    h x y hxy i j hi path .here
  unfold holds
  rw [hi.isAbsent_eq]
  split
  · exact .refl _
  · refine Concur.and ?_ (Concur.and ?_ ?_)
    · exact optionalHolds_concur (fun xs ys hxs => Concur.allM hbranch hxs) hkl.allOf
    · exact optionalHolds_concur (fun xs ys hxs => Concur.anyM hbranch hxs) hkl.anyOf
    · exact optionalHolds_concur (fun xs ys hxs => oneHolds_concur h hi hxs) hkl.oneOf

end Combinators

/-! ## Arrays -/

namespace ElementRules

variable {k : ElementRules S} {l : ElementRules T} {b : Additional S} {c : Additional T} {e f : Json}
  {es fs : List Json}

theorem excused_concur (h : Judge.Concur R judge judge') (hbc : Additional.Rel R b c)
    (he : Instance.Reordered (.present e) (.present f)) (position : Nat) :
    Concur (excused judge b path position e) (excused judge' c path position f) := by
  cases hbc with
  | schema hxy => exact h _ _ hxy _ _ he path _
  | _ => exact .refl _

theorem everyHolds_concur (h : Judge.Concur R judge judge') (hbc : Additional.Rel R b c) {x : S} {y : T} (hxy : R x y)
    (hes : List.Forall₂ (fun e f => Instance.Reordered (.present e) (.present f)) es fs) (position : Nat) :
    Concur (everyHolds judge b x path position es) (everyHolds judge' c y path position fs) := by
  induction hes generalizing position with
  | nil => exact .refl _
  | cons he _ ih => exact ((h _ _ hxy _ _ he path _).or (excused_concur h hbc he position)).and (ih (position + 1))

theorem surplusHolds_concur (h : Judge.Concur R judge judge') (hbc : Additional.Rel R b c)
    (he : Instance.Reordered (.present e) (.present f)) (position : Nat) :
    Concur (surplusHolds judge b path position e) (surplusHolds judge' c path position f) := by
  cases hbc with
  | schema hxy => exact h _ _ hxy _ _ he path _
  | _ => exact .refl _

theorem positionsHold_concur (h : Judge.Concur R judge judge') (hbc : Additional.Rel R b c) {xs : List S} {ys : List T}
    (hxs : List.Forall₂ R xs ys)
    (hes : List.Forall₂ (fun e f => Instance.Reordered (.present e) (.present f)) es fs) (position : Nat) :
    Concur (positionsHold judge b path position xs es) (positionsHold judge' c path position ys fs) := by
  induction hxs generalizing es fs position with
  | nil =>
    induction hes generalizing position with
    | nil =>
      rw [positionsHold, positionsHold]
      exact .refl _
    | cons he _ ih =>
      rw [positionsHold, positionsHold]
      exact (surplusHolds_concur h hbc he position).and (ih (position + 1))
  | cons hxy _ ih =>
    cases hes with
    | nil =>
      rw [positionsHold, positionsHold]
      exact (h _ _ hxy _ _ .absent path _).and (ih .nil (position + 1))
    | cons he hes =>
      rw [positionsHold, positionsHold]
      exact (h _ _ hxy _ _ he path _).and (ih hes (position + 1))

theorem countHolds_eq (hkl : Rel R k l) (hunique : k.uniqueItems = false) (hlength : es.length = fs.length) :
    k.countHolds es = l.countHolds fs := by
  rw [countHolds, countHolds, ← hkl.uniqueItems, hunique, hkl.minItems, hkl.maxItems, hlength, Bool.false_and,
    Bool.false_and]

theorem holds_concur (h : Judge.Concur R judge judge') (hkl : Rel R k l) (hunique : k.uniqueItems = false)
    (hes : List.Forall₂ (fun e f => Instance.Reordered (.present e) (.present f)) es fs) :
    Concur (k.holds judge es path) (l.holds judge' fs path) := by
  refine Concur.and (.of_eq (congrArg pure (countHolds_eq hkl hunique hes.length_eq))) ?_
  obtain ⟨_, _, _, ki, ka⟩ := k
  obtain ⟨_, _, _, li, la⟩ := l
  obtain ⟨_, _, _, hitems, hadditional⟩ := hkl
  unfold itemsHold
  cases hitems with
  | unspecified => exact .refl _
  | every hxy => exact everyHolds_concur h hadditional hxy hes 0
  | positions hxs =>
    have hempty : es.isEmpty = fs.isEmpty := by cases hes <;> rfl
    dsimp only
    rw [hempty]
    split
    · exact .refl _
    · exact positionsHold_concur h hadditional hxs hes 0

end ElementRules

/-! ## Objects -/

/-- Members to which the same applies under the same keys. -/
theorem Members.Reordered.allM_concur {ms ns : Members} (hms : Members.Reordered ms ns) {p q : String × Json → Verdict}
    (h : ∀ key v w, Instance.Reordered (.present v) (.present w) → Concur (p (key, v)) (q (key, w))) :
    Concur (ms.allM p) (ns.allM q) := by
  refine .allM_of_mem (fun m hm => ?_) (fun n hn => ?_)
  · obtain ⟨⟨key, w⟩, hn, rfl, hvw⟩ := hms.forth m hm
    exact ⟨_, hn, h m.1 m.2 w hvw⟩
  · obtain ⟨⟨key, v⟩, hm, rfl, hvw⟩ := hms.back n hn
    exact ⟨_, hm, h n.1 v n.2 hvw⟩

namespace PropertyRules

variable {k : PropertyRules S} {l : PropertyRules T} {ms ns : Members} {v w : Json}

theorem patternHolds_concur (h : Judge.Concur R judge judge') (hms : Members.Reordered ms ns) {p : PatternRule S}
    {q : PatternRule T} (hpq : PatternRule.Rel R p q) :
    Concur (patternHolds judge ms path p) (patternHolds judge' ns path q) := by
  unfold patternHolds
  rw [hpq.pattern]
  split
  · exact .refl _
  · refine hms.allM_concur fun key v w hvw => ?_
    dsimp only
    split
    · exact h _ _ hpq.schema _ _ hvw path (.key key)
    · exact .refl _

theorem uncoveredHolds_concur (h : Judge.Concur R judge judge') (hkl : Rel R k l)
    (hvw : Instance.Reordered (.present v) (.present w)) (key : String) :
    Concur (k.uncoveredHolds judge path key v) (l.uncoveredHolds judge' path key w) := by
  obtain ⟨_, _, ka⟩ := k
  obtain ⟨_, _, la⟩ := l
  obtain ⟨_, _, hadditional⟩ := hkl
  unfold uncoveredHolds
  cases hadditional with
  | schema hxy => exact h _ _ hxy _ _ hvw path _
  | _ => exact .refl _

theorem requiresHolds_eq (hkl : Rel R k l) (hms : Members.Reordered ms ns) (key : String) :
    k.requiresHolds ms key = l.requiresHolds ns key := by
  rw [requiresHolds, requiresHolds, requires_eq_of_rel (definition?_rel hkl key)]
  split
  · exact hms.hasKey_eq _
  · rfl

theorem memberHolds_concur (h : Judge.Concur R judge judge') (hkl : Rel R k l) (hms : Members.Reordered ms ns)
    (hvw : Instance.Reordered (.present v) (.present w)) (key : String) :
    Concur (k.memberHolds judge ms path (key, v)) (l.memberHolds judge' ns path (key, w)) := by
  refine Concur.and ?_ (.of_eq (congrArg pure (requiresHolds_eq hkl hms key)))
  dsimp only
  rw [covers_eq hkl]
  split
  · exact .refl _
  · exact uncoveredHolds_concur h hkl hvw key

theorem holds_concur (h : Judge.Concur R judge judge') (hkl : Rel R k l) (hms : Members.Reordered ms ns) :
    Concur (k.holds judge ms path) (l.holds judge' ns path) := by
  refine Concur.and ?_ (Concur.and ?_ ?_)
  · exact Concur.allM (fun p q hpq => patternHolds_concur h hms hpq) hkl.patterns
  · refine Concur.allM (fun p q hpq => ?_) hkl.properties
    rw [hpq.name]
    exact h _ _ hpq.schema _ _ (hms.find? q.name) path _
  · exact hms.allM_concur fun key v w hvw => memberHolds_concur h hkl hms hvw key

end PropertyRules

/-! ## All keywords -/

namespace Keywords

variable {k : Keywords S} {l : Keywords T}

theorem kindHolds_concur (h : Judge.Concur R judge judge') (hkl : Rel R k l) (hunique : k.elements.uniqueItems = false)
    (hi : i.Reordered j) : Concur (k.kindHolds mode formats judge i path) (l.kindHolds mode formats judge' j path) := by
  obtain ⟨_, _, kp, ke, _, _, _, _⟩ := k
  obtain ⟨_, _, lp, le, _, _, _, _⟩ := l
  obtain ⟨_, _, hproperties, helements, rfl, rfl, rfl, rfl⟩ := hkl
  cases hi with
  | absent => exact .refl _
  | present hd hjk =>
    cases hjk with
    | array hes => exact ElementRules.holds_concur h helements hunique (hes.related hd)
    | object hms hperm =>
      cases hproperties with
      | none => exact .refl _
      | some hr => exact PropertyRules.holds_concur h hr (.of_object hd hms hperm)
    | _ => exact .refl _

theorem enumerationHolds_eq (hkl : Rel R k l) (hi : i.Reordered j) : k.enumerationHolds i = l.enumerationHolds j := by
  rw [enumerationHolds, enumerationHolds, hkl.enumeration]
  split
  · rw [Enumeration.holds, Enumeration.holds, hi.isAbsent_eq, List.any_congr rfl hi.sameAs_eq]
  · rfl

/-- **The condition of keywords without `uniqueItems` does not depend on the order of members**, if those of its
handles do not. -/
theorem holds_concur (mode : Mode) (formats : Formats) (path : String) (h : Judge.Concur R judge judge')
    (hkl : Rel R k l) (hunique : k.elements.uniqueItems = false) (hi : i.Reordered j) :
    Concur (k.holds mode formats judge i path) (l.holds mode formats judge' j path) := by
  refine Concur.and ?_ (Concur.and ?_ (Concur.and ?_ ?_))
  · exact Conditions.holds_concur h hkl.conditions hi
  · exact Combinators.holds_concur h hkl.combinators hi
  · exact kindHolds_concur h hkl hunique hi
  · exact .of_eq (congrArg pure (enumerationHolds_eq hkl hi))

end Keywords

end JsonSchema
