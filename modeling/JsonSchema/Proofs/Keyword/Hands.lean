import JsonSchema.Proofs.Keyword.Related

/-!
# What keywords hand on

A schema object hands its instance to some of its subschemas, and members and elements of the instance to the others.
Which subschema is held against what can be read off the keywords and the instance, whatever the subschemas do.

## What is here

* `Keywords.Shares` — the handles that keywords hold against an instance, starting from what is recorded so far.
* `Keywords.Hands` — these, and the handles that start from nothing. `Keywords.All.hands` — what all handles have, those
  have that are held against something.
* `Keywords.AsksFor` — what an instance lacks against which they hold something. `Keywords.Denies` — the keys of members
  that are not allowed to be there.
-/

set_option autoImplicit false

namespace JsonSchema

variable {S : Type}

/-- A type asks for a subschema, itself or in one of its alternatives. -/
inductive TypeRule.Names (x : S) : TypeRule S → Prop where
  | schema : Names x (.schema x)
  | union {candidates : List (TypeRule S)} {r : TypeRule S} (hr : r ∈ candidates) (h : Names x r) :
    Names x (.union candidates)

/-- The keywords hold the handle against an instance, by the step from their own instance, and start from what is
recorded so far. Alternatives of `type` and branches of `oneOf` are not among these: they start from nothing. -/
inductive Keywords.Shares {S : Type} (k : Keywords S) : Instance → S → Instance → Segment → Prop where
  | extended {i x} (h : x ∈ k.conditions.extended) : Shares k i x i .here
  | type {j x} (h : k.conditions.type = some (.schema x)) : Shares k (.present j) x (.present j) .here
  | disallow {i x} (h : k.conditions.disallow = some (.schema x)) : Shares k i x i .here
  | not {i x} (h : k.conditions.not = some x) : Shares k i x i .here
  | dependency {members : Members} {key x} (h : (key, .schema x) ∈ k.conditions.dependencies)
    (hkey : Json.hasKey members key = true) :
    Shares k (.present (.object members)) x (.present (.object members)) .here
  | allOf {j xs x} (h : k.combinators.allOf = some xs) (hx : x ∈ xs) : Shares k (.present j) x (.present j) .here
  | anyOf {j xs x} (h : k.combinators.anyOf = some xs) (hx : x ∈ xs) : Shares k (.present j) x (.present j) .here
  | pattern {members : Members} {rules p key value} (h : k.properties = some rules) (hp : p ∈ rules.patterns)
    (hm : (key, value) ∈ members) (happlies : p.appliesTo key = true) :
    Shares k (.present (.object members)) p.schema (.present value) (.key key)
  | property {members : Members} {rules p} (h : k.properties = some rules) (hp : p ∈ rules.properties) :
    Shares k (.present (.object members)) p.schema (Instance.ofOption (Json.find? members p.name)) (.key p.name)
  | additionalProperty {members : Members} {rules x key value} (h : k.properties = some rules)
    (hx : rules.additional = .schema x) (hm : (key, value) ∈ members) (hcovers : rules.covers key = false) :
    Shares k (.present (.object members)) x (.present value) (.key key)
  | item {elements : List Json} {x n e} (h : k.elements.items = .every x) (he : elements[n]? = some e) :
    Shares k (.present (.array elements)) x (.present e) (.index n)
  | position {elements : List Json} {xs n x} (h : k.elements.items = .positions xs) (hx : xs[n]? = some x) :
    Shares k (.present (.array elements)) x (Instance.ofOption elements[n]?) (.index n)
  | additionalItem {elements : List Json} {x n e} (h : k.elements.additional = .schema x)
    (he : elements[n]? = some e) : Shares k (.present (.array elements)) x (.present e) (.index n)

/-- The keywords hold the handle against an instance, by the step from their own instance. -/
inductive Keywords.Hands {S : Type} (k : Keywords S) : Instance → S → Instance → Segment → Prop where
  | shares {i x j step} (h : k.Shares i x j step) : Hands k i x j step
  | type {j rule x} (h : k.conditions.type = some rule) (hx : rule.Names x) : Hands k (.present j) x (.present j) .here
  | disallow {i rule x} (h : k.conditions.disallow = some rule) (hx : rule.Names x) : Hands k i x i .here
  | oneOf {j xs x} (h : k.combinators.oneOf = some xs) (hx : x ∈ xs) : Hands k (.present j) x (.present j) .here

/-- The keywords hold something against what the instance lacks: a property that they declare, or an element at a position
for which they have a schema. -/
inductive Keywords.AsksFor (k : Keywords S) : Instance → Segment → Prop where
  | property {members rules p} (h : k.properties = some rules) (hp : p ∈ rules.properties)
    (hno : Json.find? members p.name = none) : AsksFor k (.present (.object members)) (.key p.name)
  | position {elements xs n} (h : k.elements.items = .positions xs) (hn : n < xs.length) (hno : elements.length ≤ n) :
    AsksFor k (.present (.array elements)) (.index n)

/-- The keywords record a member with this key as one that is not defined. -/
structure PropertyRules.Denies (r : PropertyRules S) (key : String) : Prop where
  deny : r.additional = .deny
  uncovered : r.covers key = false
  named : key ≠ inlineSchemaKey

/-- The keywords record a member with this key as one that is not defined. -/
def Keywords.Denies (k : Keywords S) (key : String) : Prop := ∃ rules, k.properties = some rules ∧ rules.Denies key

/-! ## Handles that are held against something -/

variable {P : S → Prop} {R : S → S → Prop} {x : S}

theorem TypeRule.RelAll.of_mem {r : TypeRule S} : ∀ {rs : List (TypeRule S)}, RelAll R rs rs → r ∈ rs → Rel R r r
  | _ :: _, .cons h hs, hr => by
    rcases List.mem_cons.mp hr with rfl | hr
    · exact h
    · exact hs.of_mem hr

theorem TypeRule.Names.related {r : TypeRule S} (hx : r.Names x) (h : TypeRule.Rel R r r) : R x x := by
  induction hx with
  | schema =>
    cases h with
    | schema h => exact h
  | union hr _ ih =>
    cases h with
    | union hs => exact ih (hs.of_mem hr)

theorem optionRel_of_eq_some {A : Type} {Q : A → A → Prop} {o : Option A} {v : A} (h : Option.Rel Q o o) (ho : o = some v) :
    Q v v := by
  subst ho
  cases h with
  | some h => exact h

theorem Additional.Rel.of_eq_schema {a : Additional S} (h : Additional.Rel R a a) (ha : a = .schema x) : R x x := by
  subst ha
  cases h with
  | schema h => exact h

namespace Keywords

variable {k : Keywords S} {i j : Instance} {step : Segment}

/-- What keywords hand something to is one of their handles. -/
theorem Hands.related (h : k.Hands i x j step) (hk : Keywords.Rel R k k) : R x x := by
  have hbranch {xs : List S} {o : Option (List S)} (ho : Option.Rel (List.Forall₂ R) o o) (h : o = some xs)
      (hx : x ∈ xs) : R x x :=
    List.forall₂_same.mp (optionRel_of_eq_some ho h) x hx
  cases h with
  | shares h =>
    cases h with
    | extended h => exact List.forall₂_same.mp hk.conditions.extended x h
    | type h => exact TypeRule.Names.schema.related (optionRel_of_eq_some hk.conditions.type h)
    | disallow h => exact TypeRule.Names.schema.related (optionRel_of_eq_some hk.conditions.disallow h)
    | not h => exact optionRel_of_eq_some hk.conditions.not h
    | dependency h _ =>
      have hd := (List.forall₂_same.mp hk.conditions.dependencies _ h).2
      cases hd with
      | schema h => exact h
    | allOf h hx => exact hbranch hk.combinators.allOf h hx
    | anyOf h hx => exact hbranch hk.combinators.anyOf h hx
    | pattern h hp _ _ => exact (List.forall₂_same.mp (optionRel_of_eq_some hk.properties h).patterns _ hp).schema
    | property h hp => exact (List.forall₂_same.mp (optionRel_of_eq_some hk.properties h).properties _ hp).schema
    | additionalProperty h hx _ _ => exact (optionRel_of_eq_some hk.properties h).additional.of_eq_schema hx
    | item h _ =>
      have hitems := hk.elements.items
      rw [h] at hitems
      cases hitems with
      | every h => exact h
    | position h hx =>
      have hitems := hk.elements.items
      rw [h] at hitems
      cases hitems with
      | positions hxs => exact List.forall₂_same.mp hxs x (List.mem_of_getElem? hx)
    | additionalItem h _ => exact hk.elements.additional.of_eq_schema h
  | type h hx => exact hx.related (optionRel_of_eq_some hk.conditions.type h)
  | disallow h hx => exact hx.related (optionRel_of_eq_some hk.conditions.disallow h)
  | oneOf h hx => exact hbranch hk.combinators.oneOf h hx

theorem All.hands (hk : k.All P) (h : k.Hands i x j step) : P x :=
  (h.related hk).2

end Keywords

end JsonSchema
