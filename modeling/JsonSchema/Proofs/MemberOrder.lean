import JsonSchema.Proofs.Json.Contains
import JsonSchema.Proofs.Keyword.Reordered
import JsonSchema.Proofs.Requests
import JsonSchema.Proofs.Verdict

/-!
# The order of members and the verdict

The members of an object are checked in their order, so what is recorded may come in another order, or be something
else, where the members stand in another order. Whether anything is recorded at all does not change, because the empty
set is left exactly where a condition holds, and conditions do not look at the order of members.

## What is here

* `Json.WithoutUniqueItems` — no object in a value says `uniqueItems: true`.
* `satisfies_concur` — the condition of a place does not depend on the order of members, by induction on the levels.
* `check_eq_empty_iff_of_reordered` — **two checks that end well, of values that differ in nothing but the order of
  members, both leave the empty set or neither does**.
-/

set_option autoImplicit false

namespace JsonSchema

/-! ## Schemas that do not ask for unique elements -/

/-- No object in the value says `uniqueItems: true`. -/
def Json.WithoutUniqueItems (j : Json) : Prop :=
  ∀ members, j.Contains (.object members) → ("uniqueItems", .bool true) ∉ members

namespace Json.WithoutUniqueItems

variable {j k : Json} {members : Members} {elements : List Json}

theorem of_contains (h : j.WithoutUniqueItems) (hk : j.Contains k) : k.WithoutUniqueItems :=
  fun members hmembers => h members (hk.trans hmembers)

theorem object_iff : (Json.object members).WithoutUniqueItems ↔
    ("uniqueItems", .bool true) ∉ members ∧ ∀ m ∈ members, m.2.WithoutUniqueItems := by
  refine ⟨fun h => ⟨h members (.here _), fun m hm => h.of_contains (.member hm (.here _))⟩, ?_⟩
  rintro ⟨hmembers, hvalues⟩ inner hinner
  cases hinner with
  | here => exact hmembers
  | member hv h => exact hvalues _ hv inner h

theorem array_iff : (Json.array elements).WithoutUniqueItems ↔ ∀ e ∈ elements, e.WithoutUniqueItems := by
  refine ⟨fun h e he => h.of_contains (.element he (.here _)), fun h inner hinner => ?_⟩
  cases hinner with
  | element he hinner => exact h _ he inner hinner

theorem of_scalar (hobject : ∀ members, j ≠ .object members) (harray : ∀ elements, j ≠ .array elements) :
    j.WithoutUniqueItems := by
  intro inner hinner
  cases hinner with
  | here => exact absurd rfl (hobject inner)
  | element => exact absurd rfl (harray _)
  | member => exact absurd rfl (hobject _)

/-- So its keywords do not ask for unique elements. -/
theorem uniqueItems_parse (h : (Json.object members).WithoutUniqueItems) :
    (Keywords.parse members).elements.uniqueItems = false := by
  have hnone : Json.find? members "uniqueItems" ≠ some (.bool true) :=
    fun hfound => h members (.here _) (mem_of_find? hfound)
  unfold Keywords.parse ElementRules.parse
  dsimp only
  split
  · rename_i b hfound
    cases b with
    | false => rfl
    | true => exact absurd hfound hnone
  · rfl

end Json.WithoutUniqueItems

/-! ## The condition of a schema -/

section Condition

variable {o : Options} {i j : Instance}

/-- **The condition of a place does not depend on the order of members**, if no document says `uniqueItems: true`. -/
theorem satisfies_concur
    (hlibrary : ∀ location document, o.library location = .ok document → document.WithoutUniqueItems)
    (depth : Nat) {scope : Scope} {x : Subschema} (hroot : scope.root.WithoutUniqueItems)
    (hx : x.value.WithoutUniqueItems) (hi : i.Reordered j) (path : String) :
    Concur (satisfies o depth scope x i path) (satisfies o depth scope x j path) := by
  -- What is carried down is that the document of the scope and the place itself do not say `uniqueItems: true`.
  induction depth generalizing scope x i j path with
  | zero => exact .refl _
  | succ depth ih =>
    have hreference (scope : Scope) (hroot : scope.root.WithoutUniqueItems) (uri : String) :
        Concur ((scope.resolve o.library uri).outcome >>= fun target =>
            satisfies o depth target.scope (.schema target.node) i path)
          ((scope.resolve o.library uri).outcome >>= fun target =>
            satisfies o depth target.scope (.schema target.node) j path) := by
      refine .bind_same fun target htarget => ?_
      obtain ⟨hnode, hdocument⟩ := Scope.resolve_contains htarget
      have htargetRoot : target.scope.root.WithoutUniqueItems := by
        rcases hdocument with hsame | ⟨location, hlocation⟩
        · exact hsame ▸ hroot
        · exact hlibrary location _ hlocation
      exact ih (x := .schema target.node) htargetRoot (htargetRoot.of_contains hnode) hi path
    rcases x with node | uri
    · cases node with
      | object members =>
        refine .bind_same fun inner hinner => ?_
        have hinnerRoot : inner.root.WithoutUniqueItems := Scope.root_enter hinner ▸ hroot
        have hjudges : Judge.Concur (fun x y => x = y ∧ x.value.WithoutUniqueItems)
            (fun x i parent segment => satisfies o depth inner x i (extendPath parent segment))
            (fun x i parent segment => satisfies o depth inner x i (extendPath parent segment)) := by
          rintro x _ ⟨rfl, hx⟩ i j hi parent segment
          exact ih hinnerRoot hx hi (extendPath parent segment)
        have hkeywords := Keywords.holds_concur o.mode o.formats path hjudges
          (Keywords.parse_all fun _ _ hplace => hx.of_contains hplace.contains) hx.uniqueItems_parse hi
        rcases Json.find? members "$ref" with _ | ref
        · exact hkeywords
        · cases ref with
          | string uri => exact hreference inner hinnerRoot uri
          | _ => exact hkeywords
      | null => exact .refl _
      | bool b => cases b <;> exact .refl _
      | _ => exact .refl _
    · exact hreference scope hroot uri

end Condition

/-! ## Checks -/

variable {o : Options} {schema value value' : Json} {errors errors' : ErrorSet}

/-- **Two checks that end well, of values that differ in nothing but the order of members, both leave the empty set or
neither does**, if neither the schema nor a document that one of them fetches says `uniqueItems: true`. -/
theorem check_eq_empty_iff_of_reordered (hschema : schema.WithoutUniqueItems)
    (hdocuments : ∀ location ∈ (check o schema value).requests ++ (check o schema value').requests,
      ∀ document, o.library location = .ok document → document.WithoutUniqueItems)
    (hd : value.DistinctKeys) (hvalue : value.Reordered value') (h : (check o schema value).outcome = .ok errors)
    (h' : (check o schema value').outcome = .ok errors') : errors = ∅ ↔ errors' = ∅ := by
  -- Both checks do the same with a library that has the documents they fetch and no other ones.
  let fetched := o.library.only ((check o schema value).requests ++ (check o schema value').requests)
  have hlibrary (location : String) (document : Json) (hfetched : fetched location = .ok document) :
      document.WithoutUniqueItems :=
    have ⟨hmem, hdocument⟩ := Library.of_only hfetched
    hdocuments location hmem document hdocument
  have hleft : check { o with library := fetched } schema value = check o schema value :=
    check_only (List.subset_append_left _ _)
  have hright : check { o with library := fetched } schema value' = check o schema value' :=
    check_only (List.subset_append_right _ _)
  obtain ⟨b, hb, hempty⟩ := check_eq_empty_iff_accepts (hleft ▸ h)
  obtain ⟨b', hb', hempty'⟩ := check_eq_empty_iff_accepts (hright ▸ h')
  have hconcur : b = b' :=
    satisfies_concur (x := .schema schema) hlibrary _ hschema hschema (.present hd hvalue) "" b b' hb hb'
  rw [hempty, hempty', hconcur]

/-- Two of three members are none of the values that a fetched document lists. They are recorded in the order in which
they stand. -/
theorem check_eq_empty_iff_of_reordered_fetched :
    let o : Options := { Options.withFormats .empty with
      library := fun location => if location = "app:/d" then
          .ok (.object [("enum", .array [.object [("x", .integer 1), ("y", .null)]])])
        else .error (.unknownLocation location) }
    let schema : Json := .object [("properties", .object []),
      ("additionalProperties", .object [("$ref", .string "app:/d")])]
    let value : Json := .object [("a", .object [("x", .integer 1), ("y", .null)]), ("b", .null), ("c", .null)]
    let value' : Json := .object [("a", .object [("y", .null), ("x", .integer 1)]), ("c", .null), ("b", .null)]
    let message := "does not have a value in the enumeration [\x7b\"x\":1,\"y\":null\x7d]"
    let errors := ErrorSet.ofList [⟨"b", message⟩, ⟨"c", message⟩]
    let errors' := ErrorSet.ofList [⟨"c", message⟩, ⟨"b", message⟩]
    (check o schema value).outcome = .ok errors ∧ (check o schema value').outcome = .ok errors' ∧
      (errors = ∅ ↔ errors' = ∅) := by
  intro o schema value value' message errors errors'
  have h : (check o schema value).outcome = .ok errors := by decide +kernel
  have h' : (check o schema value').outcome = .ok errors' := by decide +kernel
  refine ⟨h, h', check_eq_empty_iff_of_reordered ?_ (fun location _ document hdocument => ?_) ?_ ?_ h h'⟩
  · simp [schema, Json.WithoutUniqueItems.object_iff, Json.WithoutUniqueItems.of_scalar]
  · dsimp only [o] at hdocument
    split at hdocument
    · cases hdocument
      simp [Json.WithoutUniqueItems.object_iff, Json.WithoutUniqueItems.array_iff, Json.WithoutUniqueItems.of_scalar]
    · cases hdocument
  · simp [value, Json.DistinctKeys, Json.DistinctKeys.members]
  · exact .object (.cons (.object (.cons (.integer 1) (.cons .null .nil)) (.swap _ _ _))
      (.cons .null (.cons .null .nil))) (.cons _ (.swap _ _ _))

end JsonSchema
