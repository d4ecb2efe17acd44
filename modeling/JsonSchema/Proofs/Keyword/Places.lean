import JsonSchema.Proofs.Keyword.Related
import JsonSchema.Json.Pointer

/-!
# Where the subschemas of a schema object stand

Reading a schema object does not look into the schemas that it holds, with one exception: an entry of `properties` is
asked what it requires. So two schema objects that differ in a schema only say the same, over handles that differ there.

## What is here

* `KeywordPlace` — the steps from a schema object to a place where one of its keywords expects a schema.
* `Listed`, `Entries` — what keywords may hold, alike apart from schemas. `Members.Alike` — schema objects that hold the
  like. `Keywords.parse_rel` — **they say the same over related handles**.
* `Keywords.parse_all` — **the handles of a schema object are the schemas at the places of its keywords**.
-/

set_option autoImplicit false

namespace JsonSchema

open Pointer (Step)

/-- The keywords that hold a schema or a list of schemas. -/
def schemaKeywords : List String :=
  ["extends", "type", "disallow", "not", "allOf", "anyOf", "oneOf", "items", "additionalItems",
    "additionalProperties"]

/-- The keywords that hold schemas by name. -/
def namedKeywords : List String :=
  ["properties", "patternProperties", "dependencies", "definitions"]

/-- The steps from a value to a schema that is the value itself or stands in it as in a list, which may hold
lists again. -/
inductive ListedPlace : Json → List Step → Json → Prop where
  | here (j : Json) : ListedPlace j [] j
  | element {elements n e steps j} (hn : elements[n]? = some e) (h : ListedPlace e steps j) :
    ListedPlace (.array elements) (.index n :: steps) j

/-- The steps from a schema object to a place where one of its keywords expects a schema, and what stands
there. -/
inductive KeywordPlace (members : Members) : List Step → Subschema → Prop where
  | listed {key v steps j} (hkey : key ∈ schemaKeywords) (hv : Json.find? members key = some v)
    (h : ListedPlace v steps j) : KeywordPlace members (.key key :: steps) (.schema j)
  | named {key entries name j} (hkey : key ∈ namedKeywords) (hv : Json.find? members key = some (.object entries))
    (h : (name, j) ∈ entries) : KeywordPlace members [.key key, .key name] (.schema j)
  | extension {v steps uri} (hv : Json.find? members "extends" = some v)
    (h : ListedPlace v steps (.string uri)) : KeywordPlace members (.key "extends" :: steps) (.reference uri)

variable {members k l : Members} {P : Subschema → Prop} {R : Subschema → Subschema → Prop} {Q : Json → Json → Prop}

/-! ## Values that are alike apart from schemas -/

mutual

/-- Two values under a keyword that holds a schema or a list of schemas: objects are schemas, and in lists stand schemas
or lists again. What else stands there is the same. -/
inductive Listed (Q : Json → Json → Prop) : Json → Json → Prop where
  | plain {j : Json} (h : Q j j) (hlist : ∀ elements, j ≠ .array elements) : Listed Q j j
  | object {k l : Members} (h : Q (.object k) (.object l)) : Listed Q (.object k) (.object l)
  | array {js ks : List Json} (h : Q (.array js) (.array ks)) (hs : ListedAll Q js ks) : Listed Q (.array js) (.array ks)

/-- Two lists of such values. -/
inductive ListedAll (Q : Json → Json → Prop) : List Json → List Json → Prop where
  | nil : ListedAll Q [] []
  | cons {j k js ks} (h : Listed Q j k) (hs : ListedAll Q js ks) : ListedAll Q (j :: js) (k :: ks)

end

/-- Two values under a keyword that holds schemas by name. What is no object holds none. -/
inductive Entries (E : String × Json → String × Json → Prop) : Option Json → Option Json → Prop where
  | other {v : Option Json} (h : ∀ entries, v ≠ some (.object entries)) : Entries E v v
  | entries {k l : Members} (h : List.Forall₂ E k l) : Entries E (some (.object k)) (some (.object l))

theorem Listed.related {v w : Json} (h : Listed Q v w) : Q v w := by
  cases h with
  | plain h _ => exact h
  | object h => exact h
  | array h _ => exact h

theorem ListedAll.related : ∀ {vs ws : List Json}, ListedAll Q vs ws → List.Forall₂ Q vs ws
  | _, _, .nil => .nil
  | _, _, .cons h hs => .cons h.related hs.related

/-- The schemas in an element of a list are schemas in the list. -/
theorem ListedPlace.of_mem {elements : List Json} {e j : Json} {steps : List Step} (he : e ∈ elements)
    (h : ListedPlace e steps j) : ∃ n, ListedPlace (.array elements) (.index n :: steps) j := by
  obtain ⟨n, hn⟩ := List.getElem?_of_mem he
  exact ⟨n, .element hn h⟩

mutual

/-- A value is like itself if the schemas in it are. -/
theorem Listed.refl : ∀ v : Json, (∀ steps j, ListedPlace v steps j → Q j j) → Listed Q v v
  | .array elements, h => .array (h [] _ (.here _)) (ListedAll.refl elements fun e he steps j hj => by
      obtain ⟨n, hn⟩ := hj.of_mem he
      exact h _ j hn)
  | .null, h | .bool _, h | .integer _, h | .real _, h | .string _, h | .object _, h =>
    .plain (h [] _ (.here _)) (fun _ heq => nomatch heq)

theorem ListedAll.refl : ∀ vs : List Json, (∀ v ∈ vs, ∀ steps j, ListedPlace v steps j → Q j j) → ListedAll Q vs vs
  | [], _ => .nil
  | v :: vs, h => .cons (Listed.refl v (h v List.mem_cons_self)) (ListedAll.refl vs fun w hw => h w (List.mem_cons_of_mem v hw))

end

/-- Entries are like themselves if each of them is. -/
theorem Entries.refl {E : String × Json → String × Json → Prop} {v : Option Json}
    (h : ∀ entries, v = some (.object entries) → ∀ entry ∈ entries, E entry entry) : Entries E v v := by
  by_cases hobject : ∃ entries, v = some (.object entries)
  · obtain ⟨entries, rfl⟩ := hobject
    exact .entries (List.forall₂_same.mpr (h entries rfl))
  · exact .other fun entries heq => hobject ⟨entries, heq⟩

/-- Schemas that are related as handles. -/
def Schemas (R : Subschema → Subschema → Prop) (j k : Json) : Prop := R (.schema j) (.schema k)

/-- Entries of `extends` that are related as handles. -/
def Extensions (R : Subschema → Subschema → Prop) (j k : Json) : Prop :=
  R (Conditions.extension j) (Conditions.extension k)

/-- Two schema objects that are alike apart from the schemas they hold. What they require themselves does not count. -/
structure Members.Alike (R : Subschema → Subschema → Prop) (k l : Members) : Prop where
  extended : Option.Rel (Listed (Extensions R)) (Json.find? k "extends") (Json.find? l "extends")
  listed : ∀ key ∈ schemaKeywords, Option.Rel (Listed (Schemas R)) (Json.find? k key) (Json.find? l key)
  properties : Entries (fun a b => PropertyRule.Rel R (PropertyRule.parse a) (PropertyRule.parse b))
    (Json.find? k "properties") (Json.find? l "properties")
  patternProperties : Entries (fun a b => a.1 = b.1 ∧ Schemas R a.2 b.2)
    (Json.find? k "patternProperties") (Json.find? l "patternProperties")
  dependencies : Entries (fun a b => a.1 = b.1 ∧ Dependency.Rel R (Dependency.parse a.2) (Dependency.parse b.2))
    (Json.find? k "dependencies") (Json.find? l "dependencies")
  other : ∀ key, key ∉ "requires" :: schemaKeywords ++ namedKeywords → Json.find? k key = Json.find? l key

/-! ## The groups of keywords -/

mutual

theorem TypeRule.parse_rel : ∀ {v w : Json}, Listed (Schemas R) v w → TypeRule.Rel R (TypeRule.parse v) (TypeRule.parse w)
  | _, _, .object h => .schema h
  | _, _, .array _ hs => .union (TypeRule.parseAll_rel hs)
  | .null, _, .plain _ _ => .any
  | .bool false, _, .plain _ _ => .any
  | .bool true, _, .plain _ _ => .unknown _
  | .integer n, _, .plain _ _ => by
    rw [TypeRule.parse]
    split
    · exact .any
    · exact .unknown _
  | .real x, _, .plain _ _ => by
    rw [TypeRule.parse]
    split
    · exact .any
    · exact .unknown _
  | .string name, _, .plain _ _ => by
    rw [TypeRule.parse]
    split
    · exact .any
    · split
      · exact .named _
      · exact .unknown _
  | .object _, _, .plain h _ => .schema h
  | .array elements, _, .plain _ hlist => absurd rfl (hlist elements)

theorem TypeRule.parseAll_rel : ∀ {vs ws : List Json}, ListedAll (Schemas R) vs ws →
    TypeRule.RelAll R (TypeRule.parseAll vs) (TypeRule.parseAll ws)
  | _, _, .nil => .nil
  | _, _, .cons h hs => .cons (TypeRule.parse_rel h) (TypeRule.parseAll_rel hs)

end

/-- The same reading of what schema objects may lack. -/
theorem optionRel_map {A B C D : Type} {Q : A → B → Prop} {Q' : C → D → Prop} {f : A → C} {g : B → D}
    (hfg : ∀ {v w}, Q v w → Q' (f v) (g w)) {x : Option A} {y : Option B} (h : Option.Rel Q x y) :
    Option.Rel Q' (x.map f) (y.map g) := by
  cases h with
  | none => exact .none
  | some h => exact .some (hfg h)

theorem Json.findSome?_rel {key : String}
    (h : Option.Rel (Listed Q) (Json.find? k key) (Json.find? l key)) :
    Option.Rel (Listed Q) (Json.findSome? k key) (Json.findSome? l key) := by
  unfold Json.findSome?
  generalize Json.find? k key = v at h
  generalize Json.find? l key = w at h
  cases h with
  | none => exact .none
  | some h =>
    cases h with
    | plain h hlist =>
      rename_i j
      cases j with
      | null => exact .none
      | _ => exact .some (.plain h hlist)
    | object h => exact .some (.object h)
    | array h hs => exact .some (.array h hs)

theorem Additional.parse_rel {v w : Option Json} (h : Option.Rel (Listed (Schemas R)) v w) :
    Additional.Rel R (Additional.parse v) (Additional.parse w) := by
  cases h with
  | none => exact .unspecified
  | some h =>
    cases h with
    | plain h _ =>
      rename_i j _
      cases j with
      | null => exact .unspecified
      | bool b =>
        cases b
        · exact .deny
        · exact .allow
      | _ => exact .schema h
    | object h => exact .schema h
    | array h _ => exact .schema h

theorem Items.parse_rel {v w : Option Json} (h : Option.Rel (Listed (Schemas R)) v w) :
    Items.Rel R (Items.parse v) (Items.parse w) := by
  cases h with
  | none => exact .unspecified
  | some h =>
    cases h with
    | plain h hlist =>
      rename_i j
      cases j with
      | object members => exact .every h
      | array elements => exact absurd rfl (hlist elements)
      | _ => exact .unspecified
    | object h => exact .every h
    | array _ hs => exact .positions (List.forall₂_map_left_iff.mpr (List.forall₂_map_right_iff.mpr hs.related))

theorem Combinators.branches_rel {v w : Option Json} (h : Option.Rel (Listed (Schemas R)) v w) :
    Option.Rel (List.Forall₂ R) (Combinators.branches? v) (Combinators.branches? w) := by
  cases h with
  | none => exact .none
  | some h =>
    cases h with
    | plain h hlist =>
      rename_i j
      cases j with
      | null => exact .none
      | array elements => exact absurd rfl (hlist elements)
      | _ => exact .some (.cons h .nil)
    | object h => exact .some (.cons h .nil)
    | array _ hs => exact .some (List.forall₂_map_left_iff.mpr (List.forall₂_map_right_iff.mpr hs.related))

theorem Conditions.extensions_rel {v w : Option Json} (h : Option.Rel (Listed (Extensions R)) v w) :
    List.Forall₂ R (Conditions.extensions v) (Conditions.extensions w) := by
  cases h with
  | none => exact .nil
  | some h =>
    cases h with
    | plain h hlist =>
      rename_i j
      cases j with
      | null => exact .nil
      | array elements => exact absurd rfl (hlist elements)
      | _ => exact .cons h .nil
    | object h => exact .cons h .nil
    | array _ hs => exact List.forall₂_map_left_iff.mpr (List.forall₂_map_right_iff.mpr hs.related)

namespace Members.Alike

variable (h : Members.Alike R k l)

include h

theorem conditions : Conditions.Rel R (Conditions.parse k) (Conditions.parse l) where
  extended := Conditions.extensions_rel h.extended
  required := congrArg Required.parse (h.other "required" (by decide))
  type := optionRel_map (f := TypeRule.parse) (g := TypeRule.parse) TypeRule.parse_rel (h.listed "type" (by decide))
  disallow := optionRel_map (f := TypeRule.parse) (g := TypeRule.parse) TypeRule.parse_rel
    (Json.findSome?_rel (h.listed "disallow" (by decide)))
  not := optionRel_map (f := Subschema.schema) (g := Subschema.schema) Listed.related (Json.findSome?_rel (h.listed "not" (by decide)))
  minProperties := congrArg Limit.read? (h.other "minProperties" (by decide))
  maxProperties := congrArg Limit.read? (h.other "maxProperties" (by decide))
  dependencies := by
    have hentries := h.dependencies
    unfold Conditions.parse Conditions.dependenciesOf
    generalize Json.find? k "dependencies" = v at hentries ⊢
    generalize Json.find? l "dependencies" = w at hentries ⊢
    cases hentries with
    | other hv =>
      split
      · rename_i entries
        exact absurd rfl (hv entries)
      · exact .nil
    | entries hE => exact List.forall₂_map_left_iff.mpr (List.forall₂_map_right_iff.mpr hE)

theorem combinators : Combinators.Rel R (Combinators.parse k) (Combinators.parse l) where
  allOf := Combinators.branches_rel (h.listed "allOf" (by decide))
  anyOf := Combinators.branches_rel (h.listed "anyOf" (by decide))
  oneOf := Combinators.branches_rel (h.listed "oneOf" (by decide))

theorem elements : ElementRules.Rel R (ElementRules.parse k) (ElementRules.parse l) where
  minItems := congrArg Limit.read? (h.other "minItems" (by decide))
  maxItems := congrArg Limit.read? (h.other "maxItems" (by decide))
  uniqueItems := by
    unfold ElementRules.parse
    rw [h.other "uniqueItems" (by decide)]
  items := Items.parse_rel (h.listed "items" (by decide))
  additional := Additional.parse_rel (h.listed "additionalItems" (by decide))

omit h in
/-- What is no `null` is there on both sides, and its entries are alike. -/
theorem entries {E : String × Json → String × Json → Prop} {key : String}
    (h : Entries E (Json.find? k key) (Json.find? l key)) :
    (Json.findSome? k key).isNone = (Json.findSome? l key).isNone ∧
      List.Forall₂ E (PropertyRules.entries (Json.findSome? k key)) (PropertyRules.entries (Json.findSome? l key)) := by
  unfold Json.findSome?
  generalize Json.find? k key = v at h ⊢
  generalize Json.find? l key = w at h ⊢
  cases h with
  | other hv =>
    refine ⟨rfl, ?_⟩
    unfold PropertyRules.entries
    split
    · rename_i entries hentries
      split at hentries
      · cases hentries
      · exact absurd hentries (hv entries)
    · exact .nil
  | entries hE => exact ⟨rfl, hE⟩

theorem propertyRules : Option.Rel (PropertyRules.Rel R) (PropertyRules.parse? k) (PropertyRules.parse? l) := by
  obtain ⟨hproperties, hdeclared⟩ := entries h.properties
  obtain ⟨hpatternProperties, hpatterns⟩ := entries h.patternProperties
  unfold PropertyRules.parse?
  dsimp only
  rw [hproperties, hpatternProperties]
  split
  · exact .none
  · refine .some { patterns := ?_, properties := ?_, additional := Additional.parse_rel (h.listed _ (by decide)) }
    · refine List.forall₂_map_left_iff.mpr (List.forall₂_map_right_iff.mpr (hpatterns.imp fun a b hab => ?_))
      exact { pattern := hab.1, schema := hab.2 }
    · exact List.forall₂_map_left_iff.mpr (List.forall₂_map_right_iff.mpr hdeclared)

theorem textRules : TextRules.parse k = TextRules.parse l := by
  unfold TextRules.parse
  rw [h.other "maxLength" (by decide), h.other "minLength" (by decide), h.other "pattern" (by decide)]

theorem numberRules : NumberRules.parse k = NumberRules.parse l := by
  unfold NumberRules.parse
  rw [h.other "minimum" (by decide), h.other "exclusiveMinimum" (by decide), h.other "maximum" (by decide),
    h.other "exclusiveMaximum" (by decide), h.other "divisibleBy" (by decide), h.other "multipleOf" (by decide)]

end Members.Alike

/-- **Schema objects that are alike apart from schemas say the same over related handles.** -/
theorem Keywords.parse_rel (h : Members.Alike R k l) : Keywords.Rel R (Keywords.parse k) (Keywords.parse l) where
  conditions := h.conditions
  combinators := h.combinators
  properties := h.propertyRules
  elements := h.elements
  text := h.textRules
  number := h.numberRules
  format := by
    unfold parse formatOf
    rw [h.other "format" (by decide)]
  enumeration := by
    have hrequired : (Conditions.parse k).required = (Conditions.parse l).required := h.conditions.required
    unfold parse
    dsimp only
    rw [hrequired]
    unfold Enumeration.parse? Json.findSome?
    rw [h.other "enum" (by decide)]

/-! ## One schema object -/

/-- An entry that depends on a schema says the same as itself if the schema does. -/
theorem Dependency.parse_self {v : Json} (h : Schemas R v v) : Dependency.Rel R (Dependency.parse v) (Dependency.parse v) := by
  unfold Dependency.parse
  split
  · exact .properties _
  · exact .properties _
  · exact .schema h
  · exact .ignored

/-- An entry of `extends` is related to itself, whether it is a schema or refers to one. -/
theorem extension_self (h : ∀ steps x, KeywordPlace members steps x → R x x) {v j : Json} {steps : List Step}
    (hv : Json.find? members "extends" = some v) (hj : ListedPlace v steps j) : Extensions R j j := by
  unfold Extensions Conditions.extension
  split
  · exact h _ _ (.extension hv hj)
  · exact h _ _ (.listed (by decide) hv hj)

/-- A schema object is like itself if the schemas at the places of its keywords are. -/
theorem Members.Alike.refl (h : ∀ steps x, KeywordPlace members steps x → R x x) : Members.Alike R members members where
  extended := by
    cases hv : Json.find? members "extends" with
    | none => exact .none
    | some v => exact .some (Listed.refl v fun _ _ hj => extension_self h hv hj)
  listed := by
    intro key hkey
    cases hv : Json.find? members key with
    | none => exact .none
    | some v => exact .some (Listed.refl v fun steps j hj => h _ _ (.listed hkey hv hj))
  properties := Entries.refl fun entries hv entry hentry =>
    { name := rfl, schema := h _ _ (.named (by decide) hv hentry), declared := rfl, requires := rfl }
  patternProperties := Entries.refl fun entries hv entry hentry => ⟨rfl, h _ _ (.named (by decide) hv hentry)⟩
  dependencies := Entries.refl fun entries hv entry hentry =>
    ⟨rfl, Dependency.parse_self (h _ _ (.named (by decide) hv hentry))⟩
  other := fun _ _ => rfl

/-- Schema objects that differ under one key are alike if they are so there. -/
theorem Members.Alike.change {changed : String} (h : Members.Alike R k k)
    (hsame : ∀ key ≠ changed, Json.find? k key = Json.find? l key)
    (hchanged : changed ∈ "requires" :: schemaKeywords ++ namedKeywords)
    (hextended : changed = "extends" →
      Option.Rel (Listed (Extensions R)) (Json.find? k changed) (Json.find? l changed))
    (hlisted : changed ∈ schemaKeywords →
      Option.Rel (Listed (Schemas R)) (Json.find? k changed) (Json.find? l changed))
    (hproperties : changed = "properties" →
      Entries (fun a b => PropertyRule.Rel R (PropertyRule.parse a) (PropertyRule.parse b))
        (Json.find? k changed) (Json.find? l changed))
    (hpatterns : changed = "patternProperties" →
      Entries (fun a b => a.1 = b.1 ∧ Schemas R a.2 b.2) (Json.find? k changed) (Json.find? l changed))
    (hdependencies : changed = "dependencies" →
      Entries (fun a b => a.1 = b.1 ∧ Dependency.Rel R (Dependency.parse a.2) (Dependency.parse b.2))
        (Json.find? k changed) (Json.find? l changed)) : Members.Alike R k l where
  extended := by
    by_cases hkey : "extends" = changed
    · exact hkey ▸ hextended hkey.symm
    · exact hsame _ hkey ▸ h.extended
  listed := by
    intro key hmem
    by_cases hkey : key = changed
    · exact hkey ▸ hlisted (hkey ▸ hmem)
    · exact hsame _ hkey ▸ h.listed key hmem
  properties := by
    by_cases hkey : "properties" = changed
    · exact hkey ▸ hproperties hkey.symm
    · exact hsame _ hkey ▸ h.properties
  patternProperties := by
    by_cases hkey : "patternProperties" = changed
    · exact hkey ▸ hpatterns hkey.symm
    · exact hsame _ hkey ▸ h.patternProperties
  dependencies := by
    by_cases hkey : "dependencies" = changed
    · exact hkey ▸ hdependencies hkey.symm
    · exact hsame _ hkey ▸ h.dependencies
  other := fun key hkey => hsame key fun heq => hkey (heq ▸ hchanged)

/-- **The handles of a schema object are the schemas at the places of its keywords.** -/
theorem Keywords.parse_all (h : ∀ steps x, KeywordPlace members steps x → P x) :
    (Keywords.parse members).All P :=
  Keywords.parse_rel (Members.Alike.refl fun steps x hx => ⟨rfl, h steps x hx⟩)

end JsonSchema
