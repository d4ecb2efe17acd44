import JsonSchema.Proofs.Keyword.Places

/-!
# Schemas with a gap

A schema with a gap is what stands around one of the schemas in it, layer by layer. Whatever is put into the gap, the
layers read alike.

## What is here

* `Gap` — what a keyword holds, with a gap where a schema belongs. `Layer` — a schema object with a gap; `fill`, what
  layers come to when a schema is put into the innermost one.
* `Layer.keywordPlace` — the gap is at a place of a keyword.
* `Layer.alike` — **a layer around two related schema objects is alike apart from them**, as long as an entry of
  `properties` requires the same.
-/

set_option autoImplicit false

namespace JsonSchema

open Pointer (Step)

/-! ## Gaps -/

/-- A value inside lists: what stands in front of it and behind it in each list, from the outermost one on. -/
def nest : List (List Json × List Json) → Json → Json
  | [], j => j
  | (before, behind) :: around, j => .array (before ++ nest around j :: behind)

/-- What a keyword holds, with a gap where a schema belongs. -/
inductive Gap where
  /-- The schema itself, or lists around it. -/
  | listed (around : List (List Json × List Json))
  /-- Schemas by name. -/
  | named (before : Members) (name : String) (behind : Members)

namespace Gap

/-- The value that the keyword holds when a schema is put into the gap. -/
def fill : Gap → Json → Json
  | .listed around, j => nest around j
  | .named before name behind, j => .object (before ++ (name, j) :: behind)

/-- The keywords that hold such values. -/
def keywords : Gap → List String
  | .listed _ => schemaKeywords
  | .named .. => namedKeywords

end Gap

/-- A schema object with a gap where one of its keywords expects a schema. -/
structure Layer where
  before : Members
  key : String
  gap : Gap
  behind : Members
  expects : key ∈ gap.keywords
  first : Json.find? before key = none

/-- The members of the schema object when a schema is put into the gap. -/
def Layer.members (layer : Layer) (j : Json) : Members := layer.before ++ (layer.key, layer.gap.fill j) :: layer.behind

/-- A schema at the bottom of layers, from the outermost one on. -/
def fill : List Layer → Json → Json
  | [], j => j
  | layer :: layers, j => .object (layer.members (fill layers j))

/-! ## What stands in a layer -/

theorem not_mem_schemaKeywords_of_named : ∀ key ∈ namedKeywords, key ∉ schemaKeywords := by decide

namespace Layer

variable (layer : Layer) (j k : Json)

theorem key_mem : layer.key ∈ schemaKeywords ++ namedKeywords := by
  have hexpects := layer.expects
  cases hgap : layer.gap with
  | listed around =>
    rw [hgap] at hexpects
    exact List.mem_append_left _ hexpects
  | named before name behind =>
    rw [hgap] at hexpects
    exact List.mem_append_right _ hexpects

theorem find?_key : Json.find? (layer.members j) layer.key = some (layer.gap.fill j) := by
  have hbefore : layer.before.lookup layer.key = none := layer.first
  rw [Json.find?, members, List.lookup_append, hbefore, Option.none_or, List.lookup_cons_self]

theorem find?_of_ne {key : String} (h : key ≠ layer.key) :
    Json.find? (layer.members j) key = Json.find? (layer.members k) key := by
  have hkey : (key == layer.key) = false := beq_eq_false_iff_ne.mpr h
  simp only [Json.find?, members, List.lookup_append, List.lookup_cons, hkey]

theorem exists_listedPlace_nest (around : List (List Json × List Json)) :
    ∃ steps, ListedPlace (nest around j) steps j := by
  induction around with
  | nil => exact ⟨[], .here j⟩
  | cons lists around ih =>
    obtain ⟨steps, h⟩ := ih
    obtain ⟨n, hn⟩ := h.of_mem (List.mem_append_right lists.1 List.mem_cons_self)
    exact ⟨_, hn⟩

/-- The gap is at a place of a keyword. -/
theorem keywordPlace : ∃ steps, KeywordPlace (layer.members j) steps (.schema j) := by
  have hv := layer.find?_key j
  have hexpects := layer.expects
  cases hgap : layer.gap with
  | listed around =>
    rw [hgap] at hv hexpects
    obtain ⟨steps, h⟩ := exists_listedPlace_nest j around
    exact ⟨_, .listed hexpects hv h⟩
  | named before name behind =>
    rw [hgap] at hv hexpects
    exact ⟨_, .named hexpects hv (List.mem_append_right before List.mem_cons_self)⟩

end Layer

/-! ## Layers around related schemas -/

variable {R : Subschema → Subschema → Prop} {Q : Json → Json → Prop} {k l : Members}

/-- Lists that differ in one element are alike if that one is. -/
theorem ListedAll.replace {before behind : List Json} {v w : Json} (h : ∀ u ∈ before ++ v :: behind, ∀ steps j, ListedPlace u steps j → Q j j)
    (hv : Listed Q v w) : ListedAll Q (before ++ v :: behind) (before ++ w :: behind) := by
  induction before with
  | nil => exact .cons hv (ListedAll.refl behind fun u hu => h u (List.mem_cons_of_mem v hu))
  | cons u before ih =>
    exact .cons (Listed.refl u (h u List.mem_cons_self)) (ih fun u hu => h u (List.mem_cons_of_mem _ hu))

/-- Lists around related schema objects are alike. -/
theorem Listed.nest (hkl : Q (.object k) (.object l)) (hlists : ∀ js ks, Q (.array js) (.array ks))
    {around : List (List Json × List Json)}
    (h : ∀ steps j, ListedPlace (nest around (.object k)) steps j → Q j j) :
    Listed Q (nest around (.object k)) (nest around (.object l)) := by
  induction around with
  | nil => exact .object hkl
  | cons lists around ih =>
    have hin (u : Json) (hu : u ∈ lists.1 ++ JsonSchema.nest around (.object k) :: lists.2) (steps : List Step) (j : Json)
        (hj : ListedPlace u steps j) : Q j j := by
      obtain ⟨n, hn⟩ := hj.of_mem hu
      exact h _ j hn
    exact .array (hlists _ _) (ListedAll.replace hin (ih (hin _ (List.mem_append_right _ List.mem_cons_self))))

/-- Schemas by name that differ in one entry are alike if that one is. -/
theorem Entries.replace {E : String × Json → String × Json → Prop} {before behind : Members} {a b : String × Json}
    (h : Entries E (some (.object (before ++ a :: behind))) (some (.object (before ++ a :: behind)))) (hab : E a b) :
    Entries E (some (.object (before ++ a :: behind))) (some (.object (before ++ b :: behind))) := by
  have hself : ∀ entry ∈ before ++ a :: behind, E entry entry := by
    cases h with
    | other h => exact absurd rfl (h _)
    | entries h => exact List.forall₂_same.mp h
  refine .entries (List.rel_append ?_ (.cons hab ?_))
  · exact List.forall₂_same.mpr fun entry hentry => hself entry (List.mem_append_left _ hentry)
  · exact List.forall₂_same.mpr fun entry hentry => hself entry (List.mem_append_right _ (List.mem_cons_of_mem a hentry))

namespace Layer

variable {layer : Layer}

/-- **A layer around two related schema objects is alike apart from them.** -/
theorem alike (hkl : R (.schema (.object k)) (.schema (.object l)))
    (hlists : ∀ js ks, R (.schema (.array js)) (.schema (.array ks)))
    (hrequires : layer.key = "properties" →
      ∀ name, (PropertyRule.parse (name, .object k)).requires = (PropertyRule.parse (name, .object l)).requires)
    (h : ∀ steps x, KeywordPlace (layer.members (.object k)) steps x → R x x) :
    Members.Alike R (layer.members (.object k)) (layer.members (.object l)) := by
  have hself : Members.Alike R (layer.members (.object k)) (layer.members (.object k)) := .refl h
  have hsame (key : String) (hkey : key ≠ layer.key) := layer.find?_of_ne (.object k) (.object l) hkey
  have hk := layer.find?_key (.object k)
  have hl := layer.find?_key (.object l)
  have hexpects := layer.expects
  cases hgap : layer.gap with
  | listed around =>
    rw [hgap] at hk hl hexpects
    have hnamed : layer.key ∉ namedKeywords := fun hkey => not_mem_schemaKeywords_of_named _ hkey hexpects
    refine hself.change hsame (List.mem_cons_of_mem _ (List.mem_append_left _ hexpects)) (fun hkey => ?_) (fun _ => ?_)
      (fun hkey => absurd (hkey ▸ by decide) hnamed) (fun hkey => absurd (hkey ▸ by decide) hnamed)
      (fun hkey => absurd (hkey ▸ by decide) hnamed)
    · rw [hk, hl]
      exact .some (Listed.nest hkl hlists fun _ _ hj => extension_self h (hkey ▸ hk) hj)
    · rw [hk, hl]
      exact .some (Listed.nest hkl hlists fun steps j hj => h _ _ (.listed hexpects hk hj))
  | named before name behind =>
    rw [hgap] at hk hl hexpects
    have hlisted : layer.key ∉ schemaKeywords := not_mem_schemaKeywords_of_named _ hexpects
    refine hself.change hsame (List.mem_cons_of_mem _ (List.mem_append_right _ hexpects))
      (fun hkey => absurd (hkey ▸ by decide) hlisted) (fun hkey => absurd hkey hlisted) (fun hkey => ?_)
      (fun hkey => ?_) (fun hkey => ?_)
    · have hproperties := hself.properties
      rw [← hkey, hk] at hproperties
      rw [hk, hl]
      exact hproperties.replace { name := rfl, schema := hkl, declared := rfl, requires := hrequires hkey name }
    · have hpatterns := hself.patternProperties
      rw [← hkey, hk] at hpatterns
      rw [hk, hl]
      exact hpatterns.replace ⟨rfl, hkl⟩
    · have hdependencies := hself.dependencies
      rw [← hkey, hk] at hdependencies
      rw [hk, hl]
      exact hdependencies.replace ⟨rfl, .schema hkl⟩

end Layer

end JsonSchema
