import JsonSchema.Plan.Basic

/-!
# The order in which handles are replaced

Replacing the handles of a schema object is the same effect as going through the list of its handles from left to
right. So what happens while a schema object is compiled can be told by how far in the list it has come.

## What is here

* `inOrder` — an effect on each element of a list, from left to right.
* `listed` — the handles of each group of keywords.
* `Keywords.traverse_eq_inOrder` — **replacing the handles goes through them in the order of the list**. The theorems
  before it are its parts, one for each group of keywords.
-/

set_option autoImplicit false

namespace JsonSchema

section

variable {S T U : Type} {m : Type → Type} [Monad m]

/-- An effect on each element of a list, from left to right. -/
def inOrder (f : S → m T) : List S → m Unit
  | [] => pure ()
  | x :: xs => do
    let _ ← f x
    inOrder f xs

/-! ## The lists of handles -/

mutual

/-- The handles of what is asked for. -/
def TypeRule.listed : TypeRule S → List S
  | .schema x => [x]
  | .union candidates => TypeRule.allListed candidates
  | .any | .named _ | .unknown _ => []

/-- The handles of all alternatives. -/
def TypeRule.allListed : List (TypeRule S) → List S
  | [] => []
  | r :: rs => r.listed ++ allListed rs

end

/-- The handle of a dependency, if it is a schema. -/
def Dependency.listed : Dependency S → List S
  | .schema x => [x]
  | .properties _ | .ignored => []

/-- The handle of what is not mentioned, if it is a schema. -/
def Additional.listed : Additional S → List S
  | .schema x => [x]
  | .unspecified | .allow | .deny => []

/-- The handles for elements. -/
def Items.listed : Items S → List S
  | .unspecified => []
  | .every x => [x]
  | .positions schemas => schemas

/-- The handles for every kind of instance. -/
def Conditions.listed (c : Conditions S) : List S :=
  c.extended ++ c.type.elim [] TypeRule.listed ++ c.disallow.elim [] TypeRule.listed ++ c.not.toList ++
    c.dependencies.flatMap fun d => d.2.listed

/-- The handles of the combinators. -/
def Combinators.listed (c : Combinators S) : List S :=
  c.allOf.getD [] ++ c.anyOf.getD [] ++ c.oneOf.getD []

/-- The handles for arrays. -/
def ElementRules.listed (r : ElementRules S) : List S := r.items.listed ++ r.additional.listed

/-- The handles for objects. -/
def PropertyRules.listed (r : PropertyRules S) : List S :=
  r.patterns.map (·.schema) ++ r.properties.map (·.schema) ++ r.additional.listed

/-- The handles of a schema object. -/
def Keywords.listed (k : Keywords S) : List S :=
  k.conditions.listed ++ k.combinators.listed ++ k.properties.elim [] PropertyRules.listed ++ k.elements.listed

/-! ## Going through the lists -/

variable [LawfulMonad m] (f : S → m T) (next : m U)

theorem inOrder_append (xs ys : List S) :
    inOrder f (xs ++ ys) = (do inOrder f xs; inOrder f ys) := by
  induction xs with
  | nil => simp [inOrder]
  | cons x xs ih => simp [inOrder, ih]

/-- Each element of a list is one with handles of its own. -/
theorem mapM_bind_inOrder {A B : Type} (g : A → m B) (list : A → List S)
    (h : ∀ x, ∀ next : m U, (do let _ ← g x; next) = (do inOrder f (list x); next)) (xs : List A) :
    (do let _ ← xs.mapM g; next) = (do inOrder f (xs.flatMap list); next) := by
  induction xs with
  | nil => simp [inOrder]
  | cons x xs ih => simp [inOrder_append, h, ih]

theorem mapM_inOrder (xs : List S) : (do let _ ← xs.mapM f; next) = (do inOrder f xs; next) := by
  have h := mapM_bind_inOrder f next f (fun x => [x]) (fun x next => by simp [inOrder]) xs
  rwa [List.flatMap_singleton'] at h

/-- What may be absent has no handles then. -/
theorem traverseOption_inOrder {A B : Type} (g : A → m B) (list : A → List S)
    (h : ∀ x, (do let _ ← g x; next) = (do inOrder f (list x); next)) (x : Option A) :
    (do let _ ← Conditions.traverseOption g x; next) = (do inOrder f (x.elim [] list); next) := by
  cases x with
  | none => simp [Conditions.traverseOption, inOrder]
  | some x => simp [Conditions.traverseOption, h]

theorem traverseBranches_inOrder (branches : Option (List S)) :
    (do let _ ← Combinators.traverseBranches f branches; next) = (do inOrder f (branches.getD []); next) := by
  cases branches with
  | none => simp [Combinators.traverseBranches, inOrder]
  | some xs => simp [Combinators.traverseBranches, mapM_inOrder]

mutual

theorem TypeRule.traverse_inOrder : ∀ (r : TypeRule S) (next : m U),
    (do let _ ← r.traverse f; next) = (do inOrder f r.listed; next)
  | .any, _ | .named _, _ | .unknown _, _ | .schema _, _ => by simp [traverse, listed, inOrder]
  | .union candidates, next => by simp [traverse, listed, TypeRule.traverseAll_inOrder candidates]

theorem TypeRule.traverseAll_inOrder : ∀ (rs : List (TypeRule S)) (next : m U),
    (do let _ ← TypeRule.traverseAll f rs; next) = (do inOrder f (TypeRule.allListed rs); next)
  | [], _ => by simp [TypeRule.traverseAll, TypeRule.allListed, inOrder]
  | r :: rs, next => by
    simp [TypeRule.traverseAll, TypeRule.allListed, inOrder_append, TypeRule.traverse_inOrder r,
      TypeRule.traverseAll_inOrder rs]

end

theorem Dependency.traverse_inOrder (d : Dependency S) :
    (do let _ ← d.traverse f; next) = (do inOrder f d.listed; next) := by
  cases d <;> simp [traverse, listed, inOrder]

theorem Additional.traverse_inOrder (a : Additional S) :
    (do let _ ← a.traverse f; next) = (do inOrder f a.listed; next) := by
  cases a <;> simp [traverse, listed, inOrder]

theorem Items.traverse_inOrder (i : Items S) :
    (do let _ ← i.traverse f; next) = (do inOrder f i.listed; next) := by
  cases i <;> simp [traverse, listed, inOrder, mapM_inOrder]

theorem Conditions.traverse_inOrder (c : Conditions S) :
    (do let _ ← c.traverse f; next) = (do inOrder f c.listed; next) := by
  have htype (r : Option (TypeRule S)) (next : m U) :
      (do let _ ← traverseOption (TypeRule.traverse f) r; next) =
        (do inOrder f (r.elim [] TypeRule.listed); next) :=
    traverseOption_inOrder f next _ _ (fun r => TypeRule.traverse_inOrder f r next) r
  have hnot (next : m U) : (do let _ ← traverseOption f c.not; next) = (do inOrder f c.not.toList; next) := by
    cases c.not <;> simp [traverseOption, inOrder]
  have hdependencies (next : m U) := mapM_bind_inOrder f next
    (fun d : String × Dependency S => do return (d.1, ← d.2.traverse f)) (fun d => d.2.listed)
    (fun d next => by simp [Dependency.traverse_inOrder]) c.dependencies
  simp only [traverse, listed, bind_assoc, pure_bind, inOrder_append, mapM_inOrder f _ c.extended, htype, hnot,
    hdependencies]

theorem Combinators.traverse_inOrder (c : Combinators S) :
    (do let _ ← c.traverse f; next) = (do inOrder f c.listed; next) := by
  simp [traverse, listed, inOrder_append, traverseBranches_inOrder]

theorem ElementRules.traverse_inOrder (r : ElementRules S) :
    (do let _ ← r.traverse f; next) = (do inOrder f r.listed; next) := by
  simp [traverse, listed, inOrder_append, Items.traverse_inOrder, Additional.traverse_inOrder]

theorem PropertyRules.traverse_inOrder (r : PropertyRules S) :
    (do let _ ← r.traverse f; next) = (do inOrder f r.listed; next) := by
  have hpatterns (next : m U) := mapM_bind_inOrder f next (PatternRule.traverse f) (fun p => [p.schema])
    (fun p next => by simp [PatternRule.traverse, inOrder]) r.patterns
  have hproperties (next : m U) := mapM_bind_inOrder f next (PropertyRule.traverse f) (fun p => [p.schema])
    (fun p next => by simp [PropertyRule.traverse, inOrder]) r.properties
  simp [traverse, listed, inOrder_append, hpatterns, hproperties, Additional.traverse_inOrder, List.map_eq_flatMap]

theorem Keywords.traverse_inOrder (k : Keywords S) :
    (do let _ ← k.traverse f; next) = (do inOrder f k.listed; next) := by
  have hproperties (next : m U) := traverseOption_inOrder f next (PropertyRules.traverse f) PropertyRules.listed
    (fun r => PropertyRules.traverse_inOrder f next r) k.properties
  simp [traverse, listed, inOrder_append, Conditions.traverse_inOrder, Combinators.traverse_inOrder,
    hproperties, ElementRules.traverse_inOrder]

end

/-! ## The order of the list -/

namespace Keywords

variable {S T : Type}

theorem inOrder_append_singleton (xs w : List S) :
    ((inOrder (fun x => modify (· ++ [x])) xs : StateM (List S) Unit).run w).2 = w ++ xs := by
  induction xs generalizing w with
  | nil => exact (List.append_nil w).symm
  | cons x xs ih =>
    refine (ih (w ++ [x])).trans ?_
    rw [List.append_assoc, List.singleton_append]

theorem handles_eq_listed (k : Keywords S) : k.handles = k.listed := by
  have h := traverse_inOrder (m := StateM (List S)) (fun x => modify (· ++ [x])) (pure ()) k
  exact (congrArg (fun p : StateM (List S) Unit => (p.run []).2) h).trans (inOrder_append_singleton k.listed [])

/-- **Replacing the handles goes through them in the order of the list.** -/
theorem traverse_eq_inOrder {m : Type → Type} [Monad m] [LawfulMonad m] (f : S → m T) (k : Keywords S) :
    (do let _ ← k.traverse f; pure ()) = inOrder f k.handles := by
  rw [traverse_inOrder, handles_eq_listed, bind_pure_unit]

end Keywords

end JsonSchema
