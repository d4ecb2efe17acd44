import JsonSchema.Proofs.Keyword.Rearranged
import JsonSchema.Proofs.Plan.Unique
import JsonSchema.Proofs.Reference.Inlining

/-!
# The order of entries and the outcome

Schemas without references that differ in the order of the entries of schema objects are checked alike, violation by
violation, and so are their plans. References are left out because they may name an entry by its position in a list, and
fetch documents of their own. The keys of the plans do differ, since they are made from the texts of the schemas.

## What is here

* `ReferenceFree` — a schema to which no references belong.
* `Rearrangement` — a place in such a schema, and what may stand there in one that differs in the order of entries.
  `Rearrangement.content_alike` — it says the same.
* `interpret_rearranged` — **so it is interpreted alike**, by induction on the levels.
* `outcome_of_rearranged` — **the same holds for whole schemas and for their plans**, whose keys are the same only if the
  schemas are.
-/

set_option autoImplicit false

namespace JsonSchema

open Pointer (Step)

/-! ## Places -/

/-- No references belong to a schema. -/
def ReferenceFree (schema : Json) : Prop := ∀ x uri, Within schema x → ¬x.Refers uri

variable {schema schema' : Json} {x y : Subschema}

/-- No references belong to a schema that does not depend on its scope. -/
theorem referenceFree_of_not_dependsOnScope (h : schema.dependsOnScope = false) : ReferenceFree schema := by
  have hrefers {x : Subschema} {uri : String} (hx : x.dependsOnScope = false) : ¬x.Refers uri := by
    intro hrefers
    rcases x with j | text
    · cases j with
      | object members =>
        have hnone := (not_dependsOnScope_members hx).1
        rw [show Json.find? members "$ref" = some (.string uri) from hrefers] at hnone
        cases hnone
      | _ => exact hrefers
    · cases hx
  have hwithin {x : Subschema} (hx : Within schema x) : x.dependsOnScope = false := by
    induction hx with
    | root => exact h
    | keyword _ hplace ih => exact KeywordPlace.not_dependsOnScope ih hplace
    | target _ huri _ ih => exact absurd huri (hrefers ih)
  exact fun x uri hx => hrefers (hwithin hx)

/-- A place in a schema, and what may stand there in one that differs in the order of entries. -/
inductive Rearrangement (schema : Json) : Subschema → Subschema → Prop where
  | schema {j j' : Json} (hj : Within schema (.schema j)) (hd : j.DistinctKeys) (h : j.Rearranged j') :
    Rearrangement schema (.schema j) (.schema j')

namespace Rearrangement

/-- The places of keywords hold schemas that may be rearranged in turn. -/
theorem of_place (hfree : ReferenceFree schema) {k : Members} (hk : Within schema (.schema (.object k)))
    (hd : (Json.object k).DistinctKeys) {steps : List Step} (hx : KeywordPlace k steps x) :
    ∃ j, x = .schema j ∧ ∀ j', j.Rearranged j' → Schemas (Rearrangement schema) j j' := by
  have hwithin := hk.keyword hx
  cases x with
  | reference uri => exact absurd rfl (hfree _ uri hwithin)
  | schema j => exact ⟨j, rfl, fun j' h => .schema hwithin (hd.walk? (hx.walk? hd)) h⟩

/-- **What stands at the place says the same.** -/
theorem content_alike (hfree : ReferenceFree schema) (schema' : Json) (h : Rearrangement schema x y) (base : Option Url) :
    Content.Alike (Rearrangement schema) schema schema' (content { root := schema, base } x)
      (content { root := schema', base } y) := by
  obtain @⟨j, j', hj, hd, h⟩ := h
  -- no reference is resolved, so the documents of the two scopes are not looked into
  have hobject {k l m : Members} (hk : Within schema (.schema (.object k))) (hd : (Json.object k).DistinctKeys)
      (hs : Json.EntriesRearranged k l) (hperm : l.Perm m) :
      Content.Alike (Rearrangement schema) schema schema' (content { root := schema, base } (.schema (.object k)))
        (content { root := schema', base } (.schema (.object m))) :=
    JsonSchema.content_alike (.of_rearranged hd hs hperm fun _ _ => of_place hfree hk hd)
      (fun uri huri => absurd huri (hfree _ uri hk)) base
  cases h with
  | object hs hperm => exact hobject hj hd hs hperm
  | list => exact .notAnObject _
  | same =>
    cases j with
    | object k => exact hobject hj hd (.refl k) (.refl k)
    | null => exact .accept
    | bool b =>
      cases b
      · exact .notAnObject _
      · exact .accept
    | _ => exact .notAnObject _

end Rearrangement

/-! ## Interpretation -/

/-- **What differs in the order of entries is interpreted alike.** -/
theorem interpret_rearranged (hfree : ReferenceFree schema) (schema' : Json) (o : Options) (depth : Nat)
    (h : Rearrangement schema x y) (base : Option Url) (i : Instance) (path : String) (segment : Segment) (s : ErrorSet) :
    Tolerance.strict.Agree (interpret o depth { root := schema, base } x i path segment s)
      (interpret o depth { root := schema', base } y i path segment s) := by
  induction depth generalizing x y base i path segment s with
  | zero => exact .inl rfl
  | succ depth ih =>
    rw [interpret_content, interpret_content]
    exact interpretContent_agree (h.content_alike hfree schema' base) (fun x y hxy => ih hxy) i path segment s

/-! ## Plans -/

/-- A handle whose cache is made for the library checks every value as interpretation does. -/
theorem PlanCache.check_eq_of_made {digest : String → String} (hd : TellsApart digest) {o : Options} {c : PlanCache}
    (hmade : PlanTable.Made Scope.IsNormal digest o.library c.table)
    (hbase : ∀ base, o.baseUri = some base → base.IsNormal) {plan : CompiledPlan}
    (hplan : (c.compile digest o schema).1.outcome = .ok plan) (value : Json) :
    plan.check value = (JsonSchema.check o schema value).outcome := by
  have hkey := root_eq_of_compile hplan
  obtain ⟨root, done, hrun, rfl⟩ := exists_of_compile_ok hplan
  obtain ⟨hdone, hknown, hroot⟩ := compilation_spec steady_isNormal hbase hrun
  have hmem := mem_nodes_install (o := o) c root done
  have hnodes := (hmade.append hdone hknown fun _ _ => rfl).congr hmem
  have hstart : StandsFor Scope.IsNormal digest ((c.install o root done).1.nodes.map (·.1))
      { root := schema, base := o.baseUri } (.schema schema) (.strong (c.install o root done).1.root) := by
    refine { steady := hbase, key := hkey, known := ?_ }
    show (c.install o root done).1.root ∈ _
    rw [install_root, (nodes_install_perm c root done |>.map _).mem_iff, ← hknown]
    exact hroot.known
  rw [CompiledPlan.check, CompiledPlan.checkWhile, install_options]
  exact runPlan_eq_interpret (fun _ _ _ hlink => hnodes.exists_follow? hd hlink) o.maxDepth hstart (.present value) "" .here ∅

/-- **The outcome does not depend on the order of entries.** Schemas without references that differ in nothing else give
the same violations in the same order, or the same fault, for every instance. So do their plans, from whatever caches. The
keys of the plans are the same only if the schemas are. -/
theorem outcome_of_rearranged (hschema : schema.DistinctKeys) (hfree : ReferenceFree schema)
    (h : schema.Rearranged schema') (o : Options) :
    (∀ i s, (evaluate o schema i s).outcome = (evaluate o schema' i s).outcome) ∧
    ∀ digest, TellsApart digest → (∀ base, o.baseUri = some base → base.IsNormal) →
      ∀ supplied supplied' c c', PlanCache.Reached digest supplied c → PlanCache.Supplies o.library supplied →
        PlanCache.Reached digest supplied' c' → PlanCache.Supplies o.library supplied' →
        ∀ plan plan', (c.compile digest o schema).1.outcome = .ok plan → (c'.compile digest o schema').1.outcome = .ok plan' →
          (∀ value, plan.check value = plan'.check value) ∧ (plan.root = plan'.root ↔ schema = schema') := by
  have hsame (i : Instance) (s : ErrorSet) : (evaluate o schema i s).outcome = (evaluate o schema' i s).outcome :=
    (interpret_rearranged hfree schema' o o.maxDepth (.schema .root hschema h) o.baseUri i "" .here s).strict_outcome
  refine ⟨hsame, ?_⟩
  intro digest hd hbase supplied supplied' c c' hc hsupplied hc' hsupplied' plan plan' hplan hplan'
  constructor
  · intro value
    rw [PlanCache.check_eq_of_made hd (hc.made o.library hsupplied) hbase hplan,
      PlanCache.check_eq_of_made hd (hc'.made o.library hsupplied') hbase hplan']
    exact hsame (.present value) ∅
  · rw [PlanCache.root_eq_of_compile hplan, PlanCache.root_eq_of_compile hplan']
    constructor
    · -- a key spells out the text of the schema
      intro hkey
      have hscope (schema : Json) : Scope.IsNormal { root := schema, base := o.baseUri } := hbase
      cases (eq_of_planKey hd (hscope schema) (hscope schema') hkey).1
      rfl
    · rintro rfl
      rfl

/-- The entries of a schema object and of one inside it are swapped. -/
theorem outcome_of_rearranged_string :
    let inner : Members := [("type", .string "null"), ("enum", .array [])]
    let inner' : Members := [("enum", .array []), ("type", .string "null")]
    let schema : Json := .object [("items", .object inner), ("minItems", .integer 2)]
    let schema' : Json := .object [("minItems", .integer 2), ("items", .object inner')]
    let digest := digestAmong [schema.text, schema'.text, (Json.object inner).text, (Json.object inner').text]
    let o := Options.withFormats .empty
    ∃ plan plan', (PlanCache.empty.compile digest o schema).1.outcome = .ok plan ∧
      (PlanCache.empty.compile digest o schema').1.outcome = .ok plan' ∧
      (∀ value, (JsonSchema.check o schema value).outcome = (JsonSchema.check o schema' value).outcome ∧
        plan.check value = plan'.check value) ∧ plan.root ≠ plan'.root := by
  intro inner inner' schema schema' digest o
  have hschema : schema.DistinctKeys := by
    simp [schema, inner, Json.DistinctKeys, Json.DistinctKeys.members, Json.DistinctKeys.elements]
  have hfree : ReferenceFree schema := referenceFree_of_not_dependsOnScope (by decide +kernel)
  have hinner : (Json.object inner).Rearranged (.object inner') := .object (.refl inner) (.swap _ _ _)
  have hrearranged : schema.Rearranged schema' :=
    .object (.cons (.listed (by decide) hinner) (.cons (.same _ _) .nil)) (.swap _ _ _)
  obtain ⟨hcheck, hplans⟩ := outcome_of_rearranged hschema hfree hrearranged o
  have hdigest : TellsApart digest := tellsApart_digestAmong (by decide +kernel)
  have hbase : ∀ base, o.baseUri = some base → base.IsNormal := by
    intro base h
    cases h
  obtain ⟨plan, hplan⟩ : ∃ plan, (PlanCache.empty.compile digest o schema).1.outcome = .ok plan :=
    Run.exists_outcome_eq_ok (by decide +kernel)
  obtain ⟨plan', hplan'⟩ : ∃ plan', (PlanCache.empty.compile digest o schema').1.outcome = .ok plan' :=
    Run.exists_outcome_eq_ok (by decide +kernel)
  obtain ⟨hsame, hroot⟩ := hplans digest hdigest hbase _ _ .empty .empty .empty (fun _ _ => False.elim) .empty
    (fun _ _ => False.elim) plan plan' hplan hplan'
  refine ⟨plan, plan', hplan, hplan', fun value => ⟨hcheck (.present value) ∅, hsame value⟩, ?_⟩
  rw [ne_eq, hroot]
  simp [schema, schema']

end JsonSchema
