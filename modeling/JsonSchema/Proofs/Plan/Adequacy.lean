import JsonSchema.Check
import JsonSchema.Proofs.Plan.Compile

/-!
# Equal keys, equal meaning

The text behind a key leaves out the scope wherever nothing in the schema refers to anything. Two places with the same
key may thus stand in different documents. It does not matter: an evaluation that starts there never looks at the scope.

## What is here

* `Json.Part` — the values that stand in a value, at any depth. `Json.dependsOnScope_iff` — **the scope matters for a
  schema if some object in it has a key that makes or resolves references**.
* `interpret_rescope` — where the scope does not matter, evaluation is the same in all scopes.
* `planKey_adequate` — **places with the same key have the same text, the same scope as far as it matters, and the same
  outcome**.
-/

set_option autoImplicit false

namespace JsonSchema

/-! ## The parts of a value -/

namespace Json

/-- The values that stand in a value, at any depth, and the value itself. -/
inductive Part (j : Json) : Json → Prop where
  | whole : Part j j
  | element {elements e} (h : Part j (.array elements)) (he : e ∈ elements) : Part j e
  | member {members key v} (h : Part j (.object members)) (hv : (key, v) ∈ members) : Part j v

/-- The keys that make or resolve references. -/
def scopeKeys : List String := ["$ref", "extends", "id"]

/-- No object in the value has a key that makes or resolves references. -/
def Unscoped (j : Json) : Prop :=
  ∀ members, Part j (.object members) → ∀ key ∈ scopeKeys, key ∉ members.map (·.1)

variable {j k l : Json}

theorem Part.trans (h : Part j k) (hl : Part k l) : Part j l := by
  induction hl with
  | whole => exact h
  | element _ he ih => exact .element ih he
  | member _ hv ih => exact .member ih hv

/-- Such a key in an object makes the scope matter, and so does a member for which it matters. -/
theorem dependsOnScope_object {members : Members} :
    (Json.object members).dependsOnScope = true ↔
      (∃ key ∈ scopeKeys, key ∈ members.map (·.1)) ∨ membersDependOnScope members = true := by
  simp only [dependsOnScope, scopeKeys, mem_keys_iff_hasKey, Bool.or_eq_true, List.exists_mem_cons_iff,
    List.not_mem_nil, false_and, exists_false, or_false, or_assoc]

mutual

theorem exists_part_of_dependsOnScope : ∀ {j : Json}, j.dependsOnScope = true →
    ∃ members, Part j (.object members) ∧ ∃ key ∈ scopeKeys, key ∈ members.map (·.1)
  | .null, h | .bool _, h | .integer _, h | .real _, h | .string _, h => by
    simp [dependsOnScope] at h
  | .object members, h => by
    rcases dependsOnScope_object.mp h with hkey | hmembers
    · exact ⟨members, .whole, hkey⟩
    · obtain ⟨key, v, hv, inner, hpart, hkeys⟩ := exists_part_of_membersDependOnScope hmembers
      exact ⟨inner, (Part.member .whole hv).trans hpart, hkeys⟩
  | .array elements, h => by
    obtain ⟨e, he, inner, hpart, hkeys⟩ := exists_part_of_elementsDependOnScope h
    exact ⟨inner, (Part.element .whole he).trans hpart, hkeys⟩

theorem exists_part_of_elementsDependOnScope : ∀ {elements : List Json}, elementsDependOnScope elements = true →
    ∃ e ∈ elements, ∃ members, Part e (.object members) ∧ ∃ key ∈ scopeKeys, key ∈ members.map (·.1)
  | e :: es, h => by
    rw [elementsDependOnScope, Bool.or_eq_true] at h
    rcases h with h | h
    · exact ⟨e, List.mem_cons_self, exists_part_of_dependsOnScope h⟩
    · obtain ⟨e', he', hpart⟩ := exists_part_of_elementsDependOnScope h
      exact ⟨e', List.mem_cons_of_mem e he', hpart⟩

theorem exists_part_of_membersDependOnScope : ∀ {ms : Members}, membersDependOnScope ms = true →
    ∃ key v, (key, v) ∈ ms ∧ ∃ members, Part v (.object members) ∧ ∃ key ∈ scopeKeys, key ∈ members.map (·.1)
  | (key, v) :: ms, h => by
    rw [membersDependOnScope, Bool.or_eq_true] at h
    rcases h with h | h
    · exact ⟨key, v, List.mem_cons_self, exists_part_of_dependsOnScope h⟩
    · obtain ⟨key', v', hv', hpart⟩ := exists_part_of_membersDependOnScope h
      exact ⟨key', v', List.mem_cons_of_mem _ hv', hpart⟩

end

/-- Where the scope does not matter for a value, it does not for its parts. -/
theorem Part.not_dependsOnScope (h : Part j k) (hj : j.dependsOnScope = false) : k.dependsOnScope = false := by
  induction h with
  | whole => exact hj
  | element _ he ih => exact not_elementsDependOnScope ih he
  | member _ hv ih => exact not_membersDependOnScope (not_dependsOnScope_members ih).2.2.2 hv

/-- **The scope matters for a value if some object in it has a key that makes or resolves references.** -/
theorem dependsOnScope_iff :
    j.dependsOnScope = true ↔ ∃ members, Part j (.object members) ∧ ∃ key ∈ scopeKeys, key ∈ members.map (·.1) := by
  refine ⟨exists_part_of_dependsOnScope, fun ⟨members, hpart, hkeys⟩ => ?_⟩
  by_contra hj
  have hmembers := hpart.not_dependsOnScope (Bool.eq_false_of_not_eq_true hj)
  rw [dependsOnScope_object.mpr (.inl hkeys)] at hmembers
  exact nomatch hmembers

theorem unscoped_iff : j.Unscoped ↔ j.dependsOnScope = false := by
  rw [← Bool.not_eq_true, dependsOnScope_iff, Unscoped]
  simp only [not_exists, not_and]

end Json

/-! ## Evaluation where the scope does not matter -/

/-- Where nothing depends on the scope, evaluation is the same in all scopes. -/
theorem interpret_rescope {x : Subschema} (hx : x.dependsOnScope = false) (o : Options) (depth : Nat) (s t : Scope)
    (i : Instance) (path : String) (segment : Segment) (e : ErrorSet) :
    (interpret o depth s x i path segment e).outcome = (interpret o depth t x i path segment e).outcome := by
  induction depth generalizing x i path segment e with
  | zero => rw [interpret, interpret]
  | succ depth ih =>
    rw [interpret_content, interpret_content]
    cases x with
    | reference uri => cases hx
    | schema j =>
      cases j with
      | object members =>
        rw [content_eq_of_not_dependsOnScope hx, content_eq_of_not_dependsOnScope hx]
        -- the same keywords are checked on both sides, with handles for which the scope does not matter either
        have hbelow : (Keywords.parse members).All fun y => y.dependsOnScope = false :=
          Keywords.parse_all fun _ _ hplace => hplace.not_dependsOnScope hx
        refine (Keywords.check_agree o.mode o.formats i path segment ?_ hbelow e).strict_outcome
        rintro y _ ⟨rfl, hy⟩ i parent segment e
        exact Or.inl (ih hy i (extendPath parent segment) segment e)
      | null => rfl
      | bool b => cases b <;> rfl
      | _ => rfl

variable {digest : String → String}

/-- **Keys are adequate.** Schemas with the same key have the same text, and unless nothing in it makes or resolves
references, they have the same base and the text of their documents is the same. No schema has the key of a reference.
References with the same key are the same, with the same base and document text. And what has the same key has the same
outcome for every instance. Bases are as reading gives them (`Url.read?_isNormal`), which schemas and references keep to
(`Scope.IsNormal.enter`, `Scope.IsNormal.resolve`). -/
theorem planKey_adequate (hd : TellsApart digest) {s t : Scope} (hs : s.IsNormal) (ht : t.IsNormal) :
    (∀ j k, planKey digest s (.schema j) = planKey digest t (.schema k) →
      j.text = k.text ∧ (j.Unscoped ∨ (s.base = t.base ∧ s.root.text = t.root.text))) ∧
    (∀ j uri, planKey digest s (.schema j) ≠ planKey digest t (.reference uri)) ∧
    (∀ u v, planKey digest s (.reference u) = planKey digest t (.reference v) →
      u = v ∧ s.base = t.base ∧ s.root.text = t.root.text) ∧
    ∀ x y, planKey digest s x = planKey digest t y →
      ∀ (o : Options) (depth : Nat) (i : Instance) (path : String) (segment : Segment) (e : ErrorSet),
        (interpret o depth s x i path segment e).outcome = (interpret o depth t y i path segment e).outcome := by
  refine ⟨fun j k hkey => ?_, fun j uri hkey => ?_, fun u v hkey => ?_, fun x y hkey o depth i path segment e => ?_⟩
  · obtain ⟨heq, hsame⟩ := eq_of_planKey hd hs ht hkey
    cases heq
    refine ⟨rfl, ?_⟩
    cases hj : j.dependsOnScope with
    | false => exact .inl (Json.unscoped_iff.mpr hj)
    | true => exact .inr (by rw [hsame hj]; exact ⟨rfl, rfl⟩)
  · exact nomatch (eq_of_planKey hd hs ht hkey).1
  · obtain ⟨heq, hsame⟩ := eq_of_planKey hd hs ht hkey
    cases heq
    rw [hsame rfl]
    exact ⟨rfl, rfl, rfl⟩
  · obtain ⟨rfl, hsame⟩ := eq_of_planKey hd hs ht hkey
    cases hx : x.dependsOnScope with
    | false => exact interpret_rescope hx o depth s t i path segment e
    | true => rw [hsame hx]

/-- A schema and a reference that stand in two documents: the schema has one key and one outcome, the reference has two
keys. -/
theorem planKey_adequate_string :
    let schema : Json := .object [("type", .string "string")]
    let s : Scope := { root := .object [("items", schema)], base := none }
    let t : Scope := { root := .object [("not", schema)], base := none }
    let digest := digestAmong [schema.text, s.root.text, t.root.text, keyText Sha256.hex s (.reference "#"),
      keyText Sha256.hex t (.reference "#")]
    planKey digest s (.schema schema) = planKey digest t (.schema schema) ∧
      planKey digest s (.reference "#") ≠ planKey digest t (.reference "#") ∧
      ∀ (o : Options) (depth : Nat) (i : Instance) (path : String) (segment : Segment) (e : ErrorSet),
        (interpret o depth s (.schema schema) i path segment e).outcome =
          (interpret o depth t (.schema schema) i path segment e).outcome := by
  intro schema s t digest
  have hd : TellsApart digest := tellsApart_digestAmong (by decide +kernel)
  have hs : s.IsNormal := fun b hb => nomatch hb
  have ht : t.IsNormal := fun b hb => nomatch hb
  have hkey : planKey digest s (.schema schema) = planKey digest t (.schema schema) :=
    planKey_eq_of_not_dependsOnScope (by decide) s t
  obtain ⟨-, -, hreferences, houtcomes⟩ := planKey_adequate hd hs ht
  have hroots : s.root.text ≠ t.root.text := by decide +kernel
  exact ⟨hkey, fun hsame => hroots (hreferences "#" "#" hsame).2.2, houtcomes _ _ hkey⟩

end JsonSchema
