import JsonSchema.Proofs.Reference.Place

/-!
# Schemas that differ in the order of entries

A schema object is asked for its keywords by name, so it does not matter in which order they stand. It does matter in
which order properties, patterns and dependencies are named, and the values of an enumeration are shown as they stand.

## What is here

* `Json.Rearranged` — schemas that differ in nothing but the order of the entries of schema objects, at any depth.
  `Json.ValueRearranged` — what stands under a keyword then.
* `Json.find?_rearranged` — **under each name stands the like**.
* `Members.Alike.of_rearranged` — **the schema objects are alike apart from the schemas they hold**, which differ in
  nothing else themselves.
-/

set_option autoImplicit false

namespace JsonSchema

open Pointer (Step)

/-! ## Schemas -/

mutual

/-- Schemas that differ in nothing but the order of the entries of schema objects, at any depth. In a list they stand at
the same positions. -/
inductive Json.Rearranged : Json → Json → Prop where
  | same (j : Json) : Json.Rearranged j j
  | list {js ks : List Json} (h : Json.EachRearranged js ks) : Json.Rearranged (.array js) (.array ks)
  | object {k l m : Members} (h : Json.EntriesRearranged k l) (hperm : l.Perm m) :
    Json.Rearranged (.object k) (.object m)

/-- Lists of such schemas. -/
inductive Json.EachRearranged : List Json → List Json → Prop where
  | nil : Json.EachRearranged [] []
  | cons {j k : Json} {js ks : List Json} (h : Json.Rearranged j k) (hs : Json.EachRearranged js ks) :
    Json.EachRearranged (j :: js) (k :: ks)

/-- What stands under a keyword: schemas may be rearranged themselves, in the order in which they are listed or named.
All else is the same. -/
inductive Json.ValueRearranged : String → Json → Json → Prop where
  | same (key : String) (v : Json) : Json.ValueRearranged key v v
  | listed {key : String} {v w : Json} (hkey : key ∈ schemaKeywords) (h : Json.Rearranged v w) :
    Json.ValueRearranged key v w
  | named {key : String} {es fs : Members} (hkey : key ∈ namedKeywords) (h : Json.NamedRearranged es fs) :
    Json.ValueRearranged key (.object es) (.object fs)

/-- Schemas under the same names in the same order. -/
inductive Json.NamedRearranged : Members → Members → Prop where
  | nil : Json.NamedRearranged [] []
  | cons {name : String} {v w : Json} {es fs : Members} (h : Json.Rearranged v w) (hs : Json.NamedRearranged es fs) :
    Json.NamedRearranged ((name, v) :: es) ((name, w) :: fs)

/-- The entries of a schema object, before they are brought into another order. -/
inductive Json.EntriesRearranged : Members → Members → Prop where
  | nil : Json.EntriesRearranged [] []
  | cons {key : String} {v w : Json} {k l : Members} (h : Json.ValueRearranged key v w)
    (hs : Json.EntriesRearranged k l) : Json.EntriesRearranged ((key, v) :: k) ((key, w) :: l)

end

namespace Json

variable {k l m : Members} {key : String} {v w : Json}

theorem EntriesRearranged.refl : ∀ k : Members, EntriesRearranged k k
  | [] => .nil
  | (key, v) :: k => .cons (.same key v) (EntriesRearranged.refl k)

theorem EntriesRearranged.keys_eq : ∀ {k l : Members}, EntriesRearranged k l → k.map (·.1) = l.map (·.1)
  | _, _, .nil => rfl
  | _, _, .cons _ hs => congrArg (_ :: ·) hs.keys_eq

/-- What may be a schema is rearranged. -/
theorem ValueRearranged.rearranged (h : ValueRearranged key v w) (hkey : key ∈ schemaKeywords) : v.Rearranged w := by
  cases h with
  | same => exact .same v
  | listed _ h => exact h
  | named hnamed _ => exact absurd hkey ((by decide : ∀ key ∈ namedKeywords, key ∉ schemaKeywords) key hnamed)

/-- Strings are the same. -/
theorem EachRearranged.stringsOf_eq : ∀ {vs ws : List Json}, EachRearranged vs ws → stringsOf vs = stringsOf ws
  | _, _, .nil => rfl
  | _, _, .cons (.same _) hs => by
    rw [stringsOf, stringsOf, List.filterMap_cons, List.filterMap_cons, ← stringsOf, ← stringsOf, hs.stringsOf_eq]
  | _, _, .cons (.list _) hs => hs.stringsOf_eq
  | _, _, .cons (.object _ _) hs => hs.stringsOf_eq

/-! ### Under each name -/

theorem EntriesRearranged.find? (h : EntriesRearranged k l) (key : String) :
    Option.Rel (ValueRearranged key) (Json.find? k key) (Json.find? l key) := by
  induction k generalizing l with
  | nil =>
    cases h
    exact .none
  | cons entry k ih =>
    cases h with
    | @cons name v w _ _ h hs =>
      rw [Json.find?, Json.find?, List.lookup_cons, List.lookup_cons]
      by_cases hname : key = name
      · subst hname
        simpa using h
      · simp only [beq_eq_false_iff_ne.mpr hname]
        exact ih hs

/-- The order of members does not matter for look-up. -/
theorem find?_perm (hnd : (l.map (·.1)).Nodup) (h : l.Perm m) (key : String) : find? l key = find? m key := by
  have hnd' : (m.map (·.1)).Nodup := (h.map _).nodup hnd
  cases hv : find? l key with
  | some v => exact (find?_of_mem hnd' (h.mem_iff.mp (mem_of_find? hv))).symm
  | none =>
    cases hw : find? m key with
    | none => rfl
    | some w =>
      rw [find?_of_mem hnd (h.mem_iff.mpr (mem_of_find? hw))] at hv
      cases hv

/-- **Under each name of a rearranged schema object stands the like.** -/
theorem find?_rearranged (hnd : (k.map (·.1)).Nodup) (h : EntriesRearranged k l) (hperm : l.Perm m) (key : String) :
    Option.Rel (ValueRearranged key) (find? k key) (find? m key) := by
  rw [← find?_perm (h.keys_eq ▸ hnd) hperm]
  exact h.find? key

/-- What is no schema is the same. -/
theorem find?_eq_of_rearranged (hnd : (k.map (·.1)).Nodup) (h : EntriesRearranged k l) (hperm : l.Perm m)
    (hkey : key ∉ schemaKeywords ++ namedKeywords) : find? k key = find? m key := by
  have hfound := find?_rearranged hnd h hperm key
  rw [List.mem_append, not_or] at hkey
  generalize find? k key = found at hfound ⊢
  generalize find? m key = found' at hfound ⊢
  cases hfound with
  | none => rfl
  | some h =>
    cases h with
    | same => rfl
    | listed hlisted _ => exact absurd hlisted hkey.1
    | named hnamed _ => exact absurd hnamed hkey.2

end Json

/-! ## Alike apart from schemas -/

namespace Json

variable {Q : Json → Json → Prop}

mutual

/-- A value that is or lists schemas is alike if the schemas in it are related to what they may become. -/
theorem Rearranged.alike : ∀ {v w : Json}, v.Rearranged w →
    (∀ steps j, ListedPlace v steps j → ∀ j', j.Rearranged j' → Q j j') → Listed Q v w
  | _, _, .same v, h => Listed.refl v fun steps j hj => h steps j hj j (.same j)
  | _, _, .list hs, h => .array (h [] _ (.here _) _ (.list hs)) (hs.alike fun e he steps j hj => by
      obtain ⟨n, hn⟩ := hj.of_mem he
      exact h _ j hn)
  | _, _, .object hs hperm, h => .object (h [] _ (.here _) _ (.object hs hperm))

theorem EachRearranged.alike : ∀ {vs ws : List Json}, EachRearranged vs ws →
    (∀ v ∈ vs, ∀ steps j, ListedPlace v steps j → ∀ j', j.Rearranged j' → Q j j') → ListedAll Q vs ws
  | _, _, .nil, _ => .nil
  | _, _, .cons hv hs, h =>
    .cons (hv.alike (h _ List.mem_cons_self)) (hs.alike fun w hw => h w (List.mem_cons_of_mem _ hw))

end

theorem NamedRearranged.alike {E : String × Json → String × Json → Prop} : ∀ {es fs : Members}, NamedRearranged es fs →
    (∀ name j, (name, j) ∈ es → ∀ j', j.Rearranged j' → E (name, j) (name, j')) → List.Forall₂ E es fs
  | _, _, .nil, _ => .nil
  | _, _, .cons hv hs, h =>
    .cons (h _ _ List.mem_cons_self _ hv) (hs.alike fun name j hj => h name j (List.mem_cons_of_mem _ hj))

/-- Schemas under a keyword that holds one or a list of them are alike if each is related to what it may become. -/
theorem listed_of_rearranged {key : String} {v w : Option Json} (hkey : key ∈ schemaKeywords)
    (h : Option.Rel (ValueRearranged key) v w)
    (hQ : ∀ value, v = some value → ∀ steps j, ListedPlace value steps j → ∀ j', j.Rearranged j' → Q j j') :
    Option.Rel (Listed Q) v w := by
  cases h with
  | none => exact .none
  | some h => exact .some ((h.rearranged hkey).alike (hQ _ rfl))

/-- Schemas by name are alike if each is related to what it may become. -/
theorem entries_of_rearranged {E : String × Json → String × Json → Prop} {key : String} {v w : Option Json}
    (hkey : key ∈ namedKeywords) (h : Option.Rel (ValueRearranged key) v w)
    (hE : ∀ es, v = some (.object es) → ∀ name j, (name, j) ∈ es → ∀ j', j.Rearranged j' → E (name, j) (name, j')) :
    Entries E v w := by
  cases h with
  | none => exact .other nofun
  | some h =>
    cases h with
    | same v =>
      exact Entries.refl fun es hes entry hentry => hE es hes entry.1 entry.2 hentry entry.2 (.same _)
    | listed hlisted _ => exact absurd hlisted ((by decide : ∀ key ∈ namedKeywords, key ∉ schemaKeywords) _ hkey)
    | named _ hs => exact .entries (hs.alike (hE _ rfl))

end Json

variable {R : Subschema → Subschema → Prop} {k l m : Members} {j j' : Json}

/-- An entry of `extends` that is no string stays one. -/
theorem Conditions.extension_rearranged (h : j.Rearranged j') (hstring : ∀ uri, j ≠ .string uri) (hR : Schemas R j j') :
    Extensions R j j' := by
  unfold Extensions Conditions.extension
  cases h with
  | same =>
    split
    · exact absurd rfl (hstring _)
    · exact hR
  | list => exact hR
  | object => exact hR

/-- An entry of `properties` says the same, and what it requires is under a name of its own. -/
theorem PropertyRule.parse_rearranged (h : j.Rearranged j') (hd : j.DistinctKeys) (hR : Schemas R j j') (name : String) :
    PropertyRule.Rel R (PropertyRule.parse (name, j)) (PropertyRule.parse (name, j')) where
  name := rfl
  schema := hR
  declared := by cases h <;> rfl
  requires := by
    cases h with
    | same => rfl
    | list => rfl
    | object hs hperm =>
      unfold PropertyRule.parse
      dsimp only
      rw [Json.find?_eq_of_rearranged hd.1 hs hperm (by decide)]

/-- A dependency says the same. -/
theorem Dependency.parse_rearranged (h : j.Rearranged j') (hR : Schemas R j j') :
    Dependency.Rel R (Dependency.parse j) (Dependency.parse j') := by
  cases h with
  | same => exact Dependency.parse_self hR
  | list hs =>
    rw [Dependency.parse, Dependency.parse, hs.stringsOf_eq]
    exact .properties _
  | object => exact .schema hR

/-- **Rearranged schema objects are alike apart from the schemas they hold**, if no string stands for one of these and
each is related to what it may become. -/
theorem Members.Alike.of_rearranged (hd : (Json.object k).DistinctKeys) (h : Json.EntriesRearranged k l)
    (hperm : l.Perm m)
    (hR : ∀ steps x, KeywordPlace k steps x → ∃ j, x = .schema j ∧ ∀ j', j.Rearranged j' → Schemas R j j') :
    Members.Alike R k m := by
  have hfound (key : String) := Json.find?_rearranged hd.1 h hperm key
  have hplace {steps : List Step} {j : Json} (hj : KeywordPlace k steps (.schema j)) (j' : Json) (hjj' : j.Rearranged j') :
      Schemas R j j' := by
    obtain ⟨i, hi, hrelated⟩ := hR steps _ hj
    cases hi
    exact hrelated j' hjj'
  have hnamed {key : String} (hkey : key ∈ namedKeywords) {es : Members} (hes : Json.find? k key = some (.object es))
      {name : String} {j j' : Json} (hj : (name, j) ∈ es) (hjj' : j.Rearranged j') : Schemas R j j' :=
    hplace (.named hkey hes hj) j' hjj'
  refine { extended := ?_, listed := fun key hkey => ?_, properties := ?_, patternProperties := ?_,
           dependencies := ?_, other := fun key hkey => ?_ }
  · refine Json.listed_of_rearranged (by decide) (hfound _) fun v hv steps j hj j' hjj' => ?_
    refine Conditions.extension_rearranged hjj' ?_ (hplace (.listed (by decide) hv hj) j' hjj')
    rintro uri rfl
    obtain ⟨i, hi, -⟩ := hR _ _ (.extension hv hj)
    cases hi
  · exact Json.listed_of_rearranged hkey (hfound key) fun v hv steps j hj j' hjj' => hplace (.listed hkey hv hj) j' hjj'
  · refine Json.entries_of_rearranged (by decide) (hfound _) fun es hes name j hj j' hjj' => ?_
    have hes' : (Json.object es).DistinctKeys := .of_mem_members hd.2 (Json.mem_of_find? hes)
    exact PropertyRule.parse_rearranged hjj' (.of_mem_members hes'.2 hj) (hnamed (by decide) hes hj hjj') name
  · exact Json.entries_of_rearranged (by decide) (hfound _) fun es hes name j hj j' hjj' =>
      ⟨rfl, hnamed (by decide) hes hj hjj'⟩
  · exact Json.entries_of_rearranged (by decide) (hfound _) fun es hes name j hj j' hjj' =>
      ⟨rfl, Dependency.parse_rearranged hjj' (hnamed (by decide) hes hj hjj')⟩
  · refine Json.find?_eq_of_rearranged hd.1 h hperm fun hmem => hkey ?_
    rw [List.cons_append]
    exact List.mem_cons_of_mem _ hmem

end JsonSchema
