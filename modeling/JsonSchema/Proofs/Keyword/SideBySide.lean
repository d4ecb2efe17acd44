import JsonSchema.Keywords

/-!
# Replacing handles side by side

Two ways of replacing the handles of a schema object may run in different monads and yet do the same step by step. What
such steps keep to, one beside the other, is kept to by going through the whole schema object.

## What is here

* `Pairing` — a relation between effects of two monads that sequences of effects keep to.
* `Keywords.traverse_paired` — **replacing the handles is paired if replacing each of them is**. The theorems before it
  are its parts, one for each group of keywords.
-/

set_option autoImplicit false

namespace JsonSchema

/-- A relation between the effects of two monads. It holds of effects in a row if it holds of each of them, whatever
the same outcome of both is. -/
structure Pairing (m n : Type → Type) [Monad m] [Monad n] where
  Rel : ∀ {α : Type}, m α → n α → Prop
  pure : ∀ {α : Type} (a : α), Rel (Pure.pure a) (Pure.pure a)
  bind : ∀ {α β : Type} {p : m α} {q : n α} {f : α → m β} {g : α → n β},
    Rel p q → (∀ a, Rel (f a) (g a)) → Rel (p >>= f) (q >>= g)

section

variable {m n : Type → Type} [Monad m] [Monad n] (r : Pairing m n) {S T : Type} {f : S → m T} {g : S → n T}

namespace Pairing

theorem traverseOption {A B : Type} {f : A → m B} {g : A → n B} (h : ∀ x, r.Rel (f x) (g x)) (x : Option A) :
    r.Rel (Conditions.traverseOption f x) (Conditions.traverseOption g x) := by
  cases x with
  | none => exact r.pure _
  | some x => exact r.bind (h x) fun _ => r.pure _

theorem mapM [LawfulMonad m] [LawfulMonad n] {A B : Type} {f : A → m B} {g : A → n B} (h : ∀ x, r.Rel (f x) (g x))
    (xs : List A) : r.Rel (xs.mapM f) (xs.mapM g) := by
  induction xs with
  | nil =>
    rw [List.mapM_nil, List.mapM_nil]
    exact r.pure _
  | cons x xs ih =>
    rw [List.mapM_cons, List.mapM_cons]
    exact r.bind (h x) fun _ => r.bind ih fun _ => r.pure _

end Pairing

mutual

theorem TypeRule.traverse_paired (h : ∀ x, r.Rel (f x) (g x)) : ∀ k : TypeRule S, r.Rel (k.traverse f) (k.traverse g)
  | .any | .named _ | .unknown _ => r.pure _
  | .schema x => r.bind (h x) fun _ => r.pure _
  | .union ks => r.bind (TypeRule.traverseAll_paired h ks) fun _ => r.pure _

theorem TypeRule.traverseAll_paired (h : ∀ x, r.Rel (f x) (g x)) :
    ∀ ks : List (TypeRule S), r.Rel (traverseAll f ks) (traverseAll g ks)
  | [] => r.pure _
  | k :: ks =>
    r.bind (TypeRule.traverse_paired h k) fun _ => r.bind (TypeRule.traverseAll_paired h ks) fun _ => r.pure _

end

variable (h : ∀ x, r.Rel (f x) (g x))

include h

theorem Dependency.traverse_paired (k : Dependency S) : r.Rel (k.traverse f) (k.traverse g) := by
  cases k with
  | properties names => exact r.pure _
  | schema x => exact r.bind (h x) fun _ => r.pure _
  | ignored => exact r.pure _

theorem Additional.traverse_paired (k : Additional S) : r.Rel (k.traverse f) (k.traverse g) := by
  cases k with
  | unspecified => exact r.pure _
  | allow => exact r.pure _
  | deny => exact r.pure _
  | schema x => exact r.bind (h x) fun _ => r.pure _

variable [LawfulMonad m] [LawfulMonad n]

theorem Items.traverse_paired (k : Items S) : r.Rel (k.traverse f) (k.traverse g) := by
  cases k with
  | unspecified => exact r.pure _
  | every x => exact r.bind (h x) fun _ => r.pure _
  | positions xs => exact r.bind (r.mapM h xs) fun _ => r.pure _

theorem Conditions.traverse_paired (k : Conditions S) : r.Rel (k.traverse f) (k.traverse g) := by
  have htype (x : TypeRule S) : r.Rel (x.traverse f) (x.traverse g) := TypeRule.traverse_paired r h x
  have hdependency (x : String × Dependency S) :
      r.Rel (do return (x.1, ← x.2.traverse f)) (do return (x.1, ← x.2.traverse g)) :=
    r.bind (Dependency.traverse_paired r h x.2) fun _ => r.pure _
  refine r.bind (r.mapM h k.extended) fun _ => ?_
  refine r.bind (r.traverseOption htype k.type) fun _ => ?_
  refine r.bind (r.traverseOption htype k.disallow) fun _ => ?_
  refine r.bind (r.traverseOption h k.not) fun _ => ?_
  exact r.bind (r.mapM hdependency k.dependencies) fun _ => r.pure _

theorem Combinators.traverse_paired (k : Combinators S) : r.Rel (k.traverse f) (k.traverse g) := by
  have hbranches (xs : Option (List S)) : r.Rel (traverseBranches f xs) (traverseBranches g xs) := by
    cases xs with
    | none => exact r.pure _
    | some xs => exact r.bind (r.mapM h xs) fun _ => r.pure _
  refine r.bind (hbranches k.allOf) fun _ => r.bind (hbranches k.anyOf) fun _ => ?_
  exact r.bind (hbranches k.oneOf) fun _ => r.pure _

theorem ElementRules.traverse_paired (k : ElementRules S) : r.Rel (k.traverse f) (k.traverse g) :=
  r.bind (Items.traverse_paired r h k.items) fun _ =>
    r.bind (Additional.traverse_paired r h k.additional) fun _ => r.pure _

theorem PropertyRules.traverse_paired (k : PropertyRules S) : r.Rel (k.traverse f) (k.traverse g) := by
  have hpattern (p : PatternRule S) : r.Rel (p.traverse f) (p.traverse g) :=
    r.bind (h p.schema) fun _ => r.pure _
  have hproperty (p : PropertyRule S) : r.Rel (p.traverse f) (p.traverse g) :=
    r.bind (h p.schema) fun _ => r.pure _
  refine r.bind (r.mapM hpattern k.patterns) fun _ => r.bind (r.mapM hproperty k.properties) fun _ => ?_
  exact r.bind (Additional.traverse_paired r h k.additional) fun _ => r.pure _

/-- **Replacing the handles of a schema object is paired if replacing each of them is.** -/
theorem Keywords.traverse_paired (k : Keywords S) : r.Rel (k.traverse f) (k.traverse g) := by
  have hproperties (x : PropertyRules S) : r.Rel (x.traverse f) (x.traverse g) := PropertyRules.traverse_paired r h x
  refine r.bind (Conditions.traverse_paired r h k.conditions) fun _ => ?_
  refine r.bind (Combinators.traverse_paired r h k.combinators) fun _ => ?_
  refine r.bind (r.traverseOption hproperties k.properties) fun _ => ?_
  exact r.bind (ElementRules.traverse_paired r h k.elements) fun _ => r.pure _

end

end JsonSchema
