import JsonSchema.Plan.Basic
import JsonSchema.Proofs.Keyword.Related

/-!
# Going through the handles of keywords

Replacing the handles of a schema object is an effect that goes from one state to a later one. What each replacement
brings about holds for all handles at the end, if later states keep to it.

## What is here

* `Keywords.Rel.mono`, `Keywords.Rel.left` — a wider relation, and what it says of one side.
* `Guarantee` — what a monad says of the states between which an effect leads.
* `Keywords.traverse_yields` — **each handle and its replacement are related at the end**. The theorems before it
  are its parts.
* `Keywords.all_mem_handles`, `Keywords.exists_of_mem_handles` — the handles that are listed are the handles that
  there are.
-/

set_option autoImplicit false

namespace JsonSchema

/-! ## Wider relations -/

section Wider

variable {S T : Type} {R R' : S → T → Prop} {Q : S → S → Prop}

theorem optionRel_mono {A B : Type} {P P' : A → B → Prop} (h : ∀ x y, P x y → P' x y) {x : Option A} {y : Option B}
    (hxy : Option.Rel P x y) : Option.Rel P' x y := by
  cases hxy with
  | none => exact .none
  | some hxy => exact .some (h _ _ hxy)

theorem optionRel_left {A B : Type} {P : A → B → Prop} {P' : A → A → Prop} (h : ∀ x y, P x y → P' x x)
    {x : Option A} {y : Option B} (hxy : Option.Rel P x y) : Option.Rel P' x x := by
  cases hxy with
  | none => exact .none
  | some hxy => exact .some (h _ _ hxy)

theorem forall₂_left {A B : Type} {P : A → B → Prop} {P' : A → A → Prop} (h : ∀ x y, P x y → P' x x)
    {xs : List A} {ys : List B} (hxs : List.Forall₂ P xs ys) : List.Forall₂ P' xs xs := by
  induction hxs with
  | nil => exact .nil
  | cons hxy _ ih => exact .cons (h _ _ hxy) ih

mutual

theorem TypeRule.Rel.mono (h : ∀ x y, R x y → R' x y) :
    ∀ {k : TypeRule S} {l : TypeRule T}, TypeRule.Rel R k l → TypeRule.Rel R' k l
  | _, _, .any => .any
  | _, _, .named name => .named name
  | _, _, .schema hxy => .schema (h _ _ hxy)
  | _, _, .union hs => .union (hs.mono h)
  | _, _, .unknown name => .unknown name

theorem TypeRule.RelAll.mono (h : ∀ x y, R x y → R' x y) :
    ∀ {ks : List (TypeRule S)} {ls : List (TypeRule T)}, TypeRule.RelAll R ks ls → TypeRule.RelAll R' ks ls
  | _, _, .nil => .nil
  | _, _, .cons hxy hs => .cons (hxy.mono h) (hs.mono h)

end

mutual

theorem TypeRule.Rel.left (h : ∀ x y, R x y → Q x x) :
    ∀ {k : TypeRule S} {l : TypeRule T}, TypeRule.Rel R k l → TypeRule.Rel Q k k
  | _, _, .any => .any
  | _, _, .named name => .named name
  | _, _, .schema hxy => .schema (h _ _ hxy)
  | _, _, .union hs => .union (hs.left h)
  | _, _, .unknown name => .unknown name

theorem TypeRule.RelAll.left (h : ∀ x y, R x y → Q x x) :
    ∀ {ks : List (TypeRule S)} {ls : List (TypeRule T)}, TypeRule.RelAll R ks ls → TypeRule.RelAll Q ks ks
  | _, _, .nil => .nil
  | _, _, .cons hxy hs => .cons (hxy.left h) (hs.left h)

end

theorem Dependency.Rel.mono (h : ∀ x y, R x y → R' x y) {k : Dependency S} {l : Dependency T}
    (hkl : Dependency.Rel R k l) : Dependency.Rel R' k l := by
  cases hkl with
  | properties names => exact .properties names
  | schema hxy => exact .schema (h _ _ hxy)
  | ignored => exact .ignored

theorem Dependency.Rel.left (h : ∀ x y, R x y → Q x x) {k : Dependency S} {l : Dependency T}
    (hkl : Dependency.Rel R k l) : Dependency.Rel Q k k := by
  cases hkl with
  | properties names => exact .properties names
  | schema hxy => exact .schema (h _ _ hxy)
  | ignored => exact .ignored

theorem Additional.Rel.mono (h : ∀ x y, R x y → R' x y) {k : Additional S} {l : Additional T}
    (hkl : Additional.Rel R k l) : Additional.Rel R' k l := by
  cases hkl with
  | unspecified => exact .unspecified
  | allow => exact .allow
  | deny => exact .deny
  | schema hxy => exact .schema (h _ _ hxy)

theorem Additional.Rel.left (h : ∀ x y, R x y → Q x x) {k : Additional S} {l : Additional T}
    (hkl : Additional.Rel R k l) : Additional.Rel Q k k := by
  cases hkl with
  | unspecified => exact .unspecified
  | allow => exact .allow
  | deny => exact .deny
  | schema hxy => exact .schema (h _ _ hxy)

theorem Items.Rel.mono (h : ∀ x y, R x y → R' x y) {k : Items S} {l : Items T} (hkl : Items.Rel R k l) :
    Items.Rel R' k l := by
  cases hkl with
  | unspecified => exact .unspecified
  | every hxy => exact .every (h _ _ hxy)
  | positions hxs => exact .positions (hxs.imp h)

theorem Items.Rel.left (h : ∀ x y, R x y → Q x x) {k : Items S} {l : Items T} (hkl : Items.Rel R k l) :
    Items.Rel Q k k := by
  cases hkl with
  | unspecified => exact .unspecified
  | every hxy => exact .every (h _ _ hxy)
  | positions hxs => exact .positions (forall₂_left h hxs)

theorem Conditions.Rel.mono (h : ∀ x y, R x y → R' x y) {k : Conditions S} {l : Conditions T}
    (hkl : Conditions.Rel R k l) : Conditions.Rel R' k l :=
  { hkl with
    extended := hkl.extended.imp h
    type := optionRel_mono (fun _ _ hxy => hxy.mono h) hkl.type
    disallow := optionRel_mono (fun _ _ hxy => hxy.mono h) hkl.disallow
    not := optionRel_mono h hkl.not
    dependencies := hkl.dependencies.imp fun _ _ hxy => ⟨hxy.1, hxy.2.mono h⟩ }

theorem Conditions.Rel.left (h : ∀ x y, R x y → Q x x) {k : Conditions S} {l : Conditions T}
    (hkl : Conditions.Rel R k l) : Conditions.Rel Q k k where
  extended := forall₂_left h hkl.extended
  required := rfl
  type := optionRel_left (fun _ _ hxy => hxy.left h) hkl.type
  disallow := optionRel_left (fun _ _ hxy => hxy.left h) hkl.disallow
  not := optionRel_left h hkl.not
  minProperties := rfl
  maxProperties := rfl
  dependencies := forall₂_left (fun _ _ hxy => ⟨rfl, hxy.2.left h⟩) hkl.dependencies

theorem Combinators.Rel.mono (h : ∀ x y, R x y → R' x y) {k : Combinators S} {l : Combinators T}
    (hkl : Combinators.Rel R k l) : Combinators.Rel R' k l where
  allOf := optionRel_mono (fun _ _ hxs => hxs.imp h) hkl.allOf
  anyOf := optionRel_mono (fun _ _ hxs => hxs.imp h) hkl.anyOf
  oneOf := optionRel_mono (fun _ _ hxs => hxs.imp h) hkl.oneOf

theorem Combinators.Rel.left (h : ∀ x y, R x y → Q x x) {k : Combinators S} {l : Combinators T}
    (hkl : Combinators.Rel R k l) : Combinators.Rel Q k k where
  allOf := optionRel_left (fun _ _ hxs => forall₂_left h hxs) hkl.allOf
  anyOf := optionRel_left (fun _ _ hxs => forall₂_left h hxs) hkl.anyOf
  oneOf := optionRel_left (fun _ _ hxs => forall₂_left h hxs) hkl.oneOf

theorem ElementRules.Rel.mono (h : ∀ x y, R x y → R' x y) {k : ElementRules S} {l : ElementRules T}
    (hkl : ElementRules.Rel R k l) : ElementRules.Rel R' k l :=
  { hkl with items := hkl.items.mono h, additional := hkl.additional.mono h }

theorem ElementRules.Rel.left (h : ∀ x y, R x y → Q x x) {k : ElementRules S} {l : ElementRules T}
    (hkl : ElementRules.Rel R k l) : ElementRules.Rel Q k k where
  minItems := rfl
  maxItems := rfl
  uniqueItems := rfl
  items := hkl.items.left h
  additional := hkl.additional.left h

theorem PropertyRules.Rel.mono (h : ∀ x y, R x y → R' x y) {k : PropertyRules S} {l : PropertyRules T}
    (hkl : PropertyRules.Rel R k l) : PropertyRules.Rel R' k l where
  patterns := hkl.patterns.imp fun _ _ hxy => { hxy with schema := h _ _ hxy.schema }
  properties := hkl.properties.imp fun _ _ hxy => { hxy with schema := h _ _ hxy.schema }
  additional := hkl.additional.mono h

theorem PropertyRules.Rel.left (h : ∀ x y, R x y → Q x x) {k : PropertyRules S} {l : PropertyRules T}
    (hkl : PropertyRules.Rel R k l) : PropertyRules.Rel Q k k where
  patterns := forall₂_left (fun _ _ hxy => ⟨rfl, h _ _ hxy.schema⟩) hkl.patterns
  properties := forall₂_left (fun _ _ hxy => ⟨rfl, h _ _ hxy.schema, rfl, rfl⟩) hkl.properties
  additional := hkl.additional.left h

theorem Keywords.Rel.mono (h : ∀ x y, R x y → R' x y) {k : Keywords S} {l : Keywords T} (hkl : Keywords.Rel R k l) :
    Keywords.Rel R' k l :=
  { hkl with
    conditions := hkl.conditions.mono h
    combinators := hkl.combinators.mono h
    properties := optionRel_mono (fun _ _ hxy => hxy.mono h) hkl.properties
    elements := hkl.elements.mono h }

theorem Keywords.Rel.left (h : ∀ x y, R x y → Q x x) {k : Keywords S} {l : Keywords T} (hkl : Keywords.Rel R k l) :
    Keywords.Rel Q k k where
  conditions := hkl.conditions.left h
  combinators := hkl.combinators.left h
  properties := optionRel_left (fun _ _ hxy => hxy.left h) hkl.properties
  elements := hkl.elements.left h
  text := rfl
  number := rfl
  format := rfl
  enumeration := rfl

end Wider

/-! ## Effects between states -/

/-- What a monad says of the states between which an effect leads: `Yields w p Q` says that from `w` it leads, if
anywhere, to a later state at which `Q` holds of the outcome. -/
structure Guarantee (m : Type → Type) [Monad m] (W : Type) where
  Later : W → W → Prop
  trans : ∀ {u v w}, Later u v → Later v w → Later u w
  Yields : ∀ {α : Type}, W → m α → (W → α → Prop) → Prop
  pure : ∀ {α : Type} {w : W} {a : α} {Q : W → α → Prop}, Q w a → Yields w (Pure.pure a) Q
  bind : ∀ {α β : Type} {w : W} {p : m α} {f : α → m β} {Q : W → α → Prop} {Q' : W → β → Prop},
    Yields w p Q → (∀ v a, Later w v → Q v a → Yields v (f a) Q') → Yields w (p >>= f) Q'

namespace Guarantee

variable {m : Type → Type} [Monad m] {W : Type} (g : Guarantee m W)

/-- A relation that later states keep to. -/
def Keeps {T U : Type} (Q : W → T → U → Prop) : Prop :=
  ∀ ⦃v w x y⦄, g.Later v w → Q v x y → Q w x y

variable {S T U : Type} {R : S → T → Prop} {Q : W → T → U → Prop} {f : T → m U}

theorem keeps_option (h : g.Keeps Q) : g.Keeps fun w => Option.Rel (Q w) :=
  fun _ _ _ _ hvw => optionRel_mono fun _ _ => h hvw

theorem keeps_list (h : g.Keeps Q) : g.Keeps fun w => List.Forall₂ (Q w) :=
  fun _ _ _ _ hvw hxs => hxs.imp fun _ _ => h hvw

theorem traverseOption_yields (hf : ∀ w x y, R x y → g.Yields w (f y) fun w' => Q w' y) {x : Option S} {y : Option T}
    (hxy : Option.Rel R x y) (w : W) :
    g.Yields w (Conditions.traverseOption f y) fun w' => Option.Rel (Q w') y := by
  cases hxy with
  | none => exact g.pure .none
  | some hxy => exact g.bind (hf w _ _ hxy) fun _ _ _ h => g.pure (.some h)

variable [LawfulMonad m]

theorem mapM_yields (hQ : g.Keeps Q) (hf : ∀ w x y, R x y → g.Yields w (f y) fun w' => Q w' y) {xs : List S}
    {ys : List T} (hxs : List.Forall₂ R xs ys) (w : W) :
    g.Yields w (ys.mapM f) fun w' => List.Forall₂ (Q w') ys := by
  induction hxs generalizing w with
  | nil =>
    rw [List.mapM_nil]
    exact g.pure .nil
  | cons hxy _ ih =>
    rw [List.mapM_cons]
    refine g.bind (hf w _ _ hxy) fun u _ _ hy => ?_
    exact g.bind (ih u) fun v _ huv hys => g.pure (.cons (hQ huv hy) hys)

end Guarantee

section Traversal

variable {m : Type → Type} [Monad m] {W : Type} (g : Guarantee m W) {S T U : Type} {R : S → T → Prop}
  {Q : W → T → U → Prop} {f : T → m U}

mutual

theorem TypeRule.traverse_yields (hQ : g.Keeps Q) (hf : ∀ w x y, R x y → g.Yields w (f y) fun w' => Q w' y) :
    ∀ {k : TypeRule S} {l : TypeRule T}, TypeRule.Rel R k l → ∀ w,
      g.Yields w (l.traverse f) fun w' => TypeRule.Rel (Q w') l
  | _, _, .any, _ => g.pure .any
  | _, _, .named name, _ => g.pure (.named name)
  | _, _, .schema hxy, w => g.bind (hf w _ _ hxy) fun _ _ _ h => g.pure (.schema h)
  | _, _, .union hs, w => g.bind (TypeRule.traverseAll_yields hQ hf hs w) fun _ _ _ h => g.pure (.union h)
  | _, _, .unknown name, _ => g.pure (.unknown name)

theorem TypeRule.traverseAll_yields (hQ : g.Keeps Q) (hf : ∀ w x y, R x y → g.Yields w (f y) fun w' => Q w' y) :
    ∀ {ks : List (TypeRule S)} {ls : List (TypeRule T)}, TypeRule.RelAll R ks ls → ∀ w,
      g.Yields w (TypeRule.traverseAll f ls) fun w' => TypeRule.RelAll (Q w') ls
  | _, _, .nil, _ => g.pure .nil
  | _, _, .cons hxy hs, w =>
    g.bind (TypeRule.traverse_yields hQ hf hxy w) fun u _ _ hy =>
      g.bind (TypeRule.traverseAll_yields hQ hf hs u) fun _ _ huv hys =>
        g.pure (.cons (hy.mono fun _ _ => hQ huv) hys)

end

variable (hQ : g.Keeps Q) (hf : ∀ w x y, R x y → g.Yields w (f y) fun w' => Q w' y)

include hf

theorem Dependency.traverse_yields {k : Dependency S} {l : Dependency T} (hkl : Dependency.Rel R k l) (w : W) :
    g.Yields w (l.traverse f) fun w' => Dependency.Rel (Q w') l := by
  cases hkl with
  | properties names => exact g.pure (.properties names)
  | schema hxy => exact g.bind (hf w _ _ hxy) fun _ _ _ h => g.pure (.schema h)
  | ignored => exact g.pure .ignored

theorem Additional.traverse_yields {k : Additional S} {l : Additional T} (hkl : Additional.Rel R k l) (w : W) :
    g.Yields w (l.traverse f) fun w' => Additional.Rel (Q w') l := by
  cases hkl with
  | unspecified => exact g.pure .unspecified
  | allow => exact g.pure .allow
  | deny => exact g.pure .deny
  | schema hxy => exact g.bind (hf w _ _ hxy) fun _ _ _ h => g.pure (.schema h)

theorem PropertyRule.traverse_yields {k : PropertyRule S} {l : PropertyRule T} (hkl : PropertyRule.Rel R k l) (w : W) :
    g.Yields w (l.traverse f) fun w' => PropertyRule.Rel (Q w') l :=
  g.bind (hf w _ _ hkl.schema) fun _ _ _ h => g.pure ⟨rfl, h, rfl, rfl⟩

theorem PatternRule.traverse_yields {k : PatternRule S} {l : PatternRule T} (hkl : PatternRule.Rel R k l) (w : W) :
    g.Yields w (l.traverse f) fun w' => PatternRule.Rel (Q w') l :=
  g.bind (hf w _ _ hkl.schema) fun _ _ _ h => g.pure ⟨rfl, h⟩

variable [LawfulMonad m]

include hQ

theorem Items.traverse_yields {k : Items S} {l : Items T} (hkl : Items.Rel R k l) (w : W) :
    g.Yields w (l.traverse f) fun w' => Items.Rel (Q w') l := by
  cases hkl with
  | unspecified => exact g.pure .unspecified
  | every hxy => exact g.bind (hf w _ _ hxy) fun _ _ _ h => g.pure (.every h)
  | positions hxs => exact g.bind (g.mapM_yields hQ hf hxs w) fun _ _ _ h => g.pure (.positions h)

theorem Conditions.traverse_yields {k : Conditions S} {l : Conditions T} (hkl : Conditions.Rel R k l) (w : W) :
    g.Yields w (l.traverse f) fun w' => Conditions.Rel (Q w') l := by
  have htype (w : W) (x : TypeRule S) (y : TypeRule T) (hxy : TypeRule.Rel R x y) :
      g.Yields w (y.traverse f) fun w' => TypeRule.Rel (Q w') y := TypeRule.traverse_yields g hQ hf hxy w
  have hkeepsType : g.Keeps fun w => TypeRule.Rel (Q w) := fun _ _ _ _ h hxy => hxy.mono fun _ _ => hQ h
  have hdependency (w : W) (x : String × Dependency S) (y : String × Dependency T)
      (hxy : x.1 = y.1 ∧ Dependency.Rel R x.2 y.2) :
      g.Yields w (do return (y.1, ← y.2.traverse f)) fun w' z => y.1 = z.1 ∧ Dependency.Rel (Q w') y.2 z.2 :=
    g.bind (Dependency.traverse_yields g hf hxy.2 w) fun _ _ _ h => g.pure ⟨rfl, h⟩
  have hkeepsDependency : g.Keeps fun w (x : String × Dependency T) (y : String × Dependency U) =>
      x.1 = y.1 ∧ Dependency.Rel (Q w) x.2 y.2 := fun _ _ _ _ h hxy => ⟨hxy.1, hxy.2.mono fun _ _ => hQ h⟩
  refine g.bind (g.mapM_yields hQ hf hkl.extended w) fun w₁ _ _ hextended => ?_
  refine g.bind (g.traverseOption_yields htype hkl.type w₁) fun w₂ _ h₂ htype' => ?_
  refine g.bind (g.traverseOption_yields htype hkl.disallow w₂) fun w₃ _ h₃ hdisallow => ?_
  refine g.bind (g.traverseOption_yields hf hkl.not w₃) fun w₄ _ h₄ hnot => ?_
  refine g.bind (g.mapM_yields hkeepsDependency hdependency hkl.dependencies w₄) fun w₅ _ h₅ hdependencies => ?_
  have h₃₅ := g.trans h₄ h₅
  have h₂₅ := g.trans h₃ h₃₅
  exact g.pure
    { extended := g.keeps_list hQ (g.trans h₂ h₂₅) hextended
      required := rfl
      type := g.keeps_option hkeepsType h₂₅ htype'
      disallow := g.keeps_option hkeepsType h₃₅ hdisallow
      not := g.keeps_option hQ h₅ hnot
      minProperties := rfl
      maxProperties := rfl
      dependencies := hdependencies }

theorem Combinators.traverse_yields {k : Combinators S} {l : Combinators T} (hkl : Combinators.Rel R k l) (w : W) :
    g.Yields w (l.traverse f) fun w' => Combinators.Rel (Q w') l := by
  have hbranches {xs : Option (List S)} {ys : Option (List T)} (hxs : Option.Rel (List.Forall₂ R) xs ys) (w : W) :
      g.Yields w (Combinators.traverseBranches f ys) fun w' => Option.Rel (List.Forall₂ (Q w')) ys := by
    cases hxs with
    | none => exact g.pure .none
    | some hxs => exact g.bind (g.mapM_yields hQ hf hxs w) fun _ _ _ h => g.pure (.some h)
  have hkeeps : g.Keeps fun w => Option.Rel (List.Forall₂ (Q w)) := g.keeps_option (g.keeps_list hQ)
  refine g.bind (hbranches hkl.allOf w) fun w₁ _ _ hallOf => ?_
  refine g.bind (hbranches hkl.anyOf w₁) fun w₂ _ h₂ hanyOf => ?_
  refine g.bind (hbranches hkl.oneOf w₂) fun w₃ _ h₃ honeOf => ?_
  exact g.pure ⟨hkeeps (g.trans h₂ h₃) hallOf, hkeeps h₃ hanyOf, honeOf⟩

theorem ElementRules.traverse_yields {k : ElementRules S} {l : ElementRules T} (hkl : ElementRules.Rel R k l)
    (w : W) : g.Yields w (l.traverse f) fun w' => ElementRules.Rel (Q w') l := by
  refine g.bind (Items.traverse_yields g hQ hf hkl.items w) fun w₁ _ _ hitems => ?_
  refine g.bind (Additional.traverse_yields g hf hkl.additional w₁) fun w₂ _ h₂ hadditional => ?_
  exact g.pure ⟨rfl, rfl, rfl, hitems.mono fun _ _ => hQ h₂, hadditional⟩

theorem PropertyRules.traverse_yields {k : PropertyRules S} {l : PropertyRules T} (hkl : PropertyRules.Rel R k l)
    (w : W) : g.Yields w (l.traverse f) fun w' => PropertyRules.Rel (Q w') l := by
  have hpattern (w : W) (x : PatternRule S) (y : PatternRule T) (hxy : PatternRule.Rel R x y) :
      g.Yields w (y.traverse f) fun w' => PatternRule.Rel (Q w') y := PatternRule.traverse_yields g hf hxy w
  have hkeepsPattern : g.Keeps fun w => PatternRule.Rel (Q w) :=
    fun _ _ _ _ h hxy => { hxy with schema := hQ h hxy.schema }
  have hproperty (w : W) (x : PropertyRule S) (y : PropertyRule T) (hxy : PropertyRule.Rel R x y) :
      g.Yields w (y.traverse f) fun w' => PropertyRule.Rel (Q w') y := PropertyRule.traverse_yields g hf hxy w
  have hkeepsProperty : g.Keeps fun w => PropertyRule.Rel (Q w) :=
    fun _ _ _ _ h hxy => { hxy with schema := hQ h hxy.schema }
  refine g.bind (g.mapM_yields hkeepsPattern hpattern hkl.patterns w) fun w₁ _ _ hpatterns => ?_
  refine g.bind (g.mapM_yields hkeepsProperty hproperty hkl.properties w₁) fun w₂ _ h₂ hproperties => ?_
  refine g.bind (Additional.traverse_yields g hf hkl.additional w₂) fun w₃ _ h₃ hadditional => ?_
  exact g.pure ⟨g.keeps_list hkeepsPattern (g.trans h₂ h₃) hpatterns, g.keeps_list hkeepsProperty h₃ hproperties,
    hadditional⟩

/-- **Each handle and its replacement are related at the end.** -/
theorem Keywords.traverse_yields {k : Keywords S} {l : Keywords T} (hkl : Keywords.Rel R k l) (w : W) :
    g.Yields w (l.traverse f) fun w' => Keywords.Rel (Q w') l := by
  have hproperties (w : W) (x : PropertyRules S) (y : PropertyRules T) (hxy : PropertyRules.Rel R x y) :
      g.Yields w (y.traverse f) fun w' => PropertyRules.Rel (Q w') y := PropertyRules.traverse_yields g hQ hf hxy w
  have hkeeps : g.Keeps fun w => PropertyRules.Rel (Q w) := fun _ _ _ _ h hxy => hxy.mono fun _ _ => hQ h
  refine g.bind (Conditions.traverse_yields g hQ hf hkl.conditions w) fun w₁ _ _ hconditions => ?_
  refine g.bind (Combinators.traverse_yields g hQ hf hkl.combinators w₁) fun w₂ _ h₂ hcombinators => ?_
  refine g.bind (g.traverseOption_yields hproperties hkl.properties w₂) fun w₃ _ h₃ hrules => ?_
  refine g.bind (ElementRules.traverse_yields g hQ hf hkl.elements w₃) fun w₄ _ h₄ helements => ?_
  have h₂₄ := g.trans h₃ h₄
  exact g.pure
    { conditions := hconditions.mono fun _ _ => hQ (g.trans h₂ h₂₄)
      combinators := hcombinators.mono fun _ _ => hQ h₂₄
      properties := g.keeps_option hkeeps h₄ hrules
      elements := helements
      text := rfl
      number := rfl
      format := rfl
      enumeration := rfl }

end Traversal

/-! ## The list of handles -/

namespace Keywords

/-- Listing handles: what is listed stays listed, and only handles with a property are. -/
def listing {S : Type} (P : S → Prop) : Guarantee (StateM (List S)) (List S) where
  Later := fun v w => v ⊆ w
  trans := fun huv hvw => List.Subset.trans huv hvw
  Yields := fun w p Q =>
    (∀ x ∈ w, P x) → (∀ x ∈ (p.run w).2, P x) ∧ w ⊆ (p.run w).2 ∧ Q (p.run w).2 (p.run w).1
  pure := fun hQ hw => ⟨hw, List.Subset.refl _, hQ⟩
  bind := by
    intro α β w p f Q Q' hp hf hw
    obtain ⟨hmiddle, hsub, hQ⟩ := hp hw
    obtain ⟨hend, hsub', hQ'⟩ := hf _ _ hsub hQ hmiddle
    exact ⟨hend, List.Subset.trans hsub hsub', hQ'⟩

variable {S T : Type} {R : S → T → Prop} {k : Keywords S} {l : Keywords T}

theorem handles_yields (hkl : Rel R k l) {P : T → Prop} (hP : ∀ x y, R x y → P y) :
    (∀ y ∈ l.handles, P y) ∧ l.All (· ∈ l.handles) := by
  have hkeeps : (listing P).Keeps fun w (y : T) (_ : PUnit) => y ∈ w := fun _ _ _ _ hvw hy => hvw hy
  have hlist (w : List T) (x : S) (y : T) (hxy : R x y) :
      (listing P).Yields w (modify (· ++ [y]) : StateM (List T) PUnit) fun w' _ => y ∈ w' := by
    intro hw
    have hrun : ((modify (· ++ [y]) : StateM (List T) PUnit).run w).2 = w ++ [y] := rfl
    rw [hrun]
    refine ⟨fun z hz => ?_, List.subset_append_left _ _, by simp⟩
    rcases List.mem_append.mp hz with hz | hz
    · exact hw z hz
    · rw [List.mem_singleton.mp hz]
      exact hP x y hxy
  obtain ⟨hhandles, -, hrel⟩ := traverse_yields (listing P) hkeeps hlist hkl [] (by simp)
  exact ⟨hhandles, hrel.left fun _ _ hy => ⟨rfl, hy⟩⟩

/-- All handles are listed. -/
theorem all_mem_handles (hkl : Rel R k l) : l.All (· ∈ l.handles) :=
  (handles_yields hkl (P := fun _ => True) fun _ _ _ => trivial).2

/-- No others are: what is related to keywords lists only what is related to their handles. -/
theorem exists_of_mem_handles (hkl : Rel R k l) {y : T} (hy : y ∈ l.handles) : ∃ x, R x y :=
  (handles_yields hkl (P := fun y => ∃ x, R x y) fun x _ hxy => ⟨x, hxy⟩).1 y hy

end Keywords

end JsonSchema
