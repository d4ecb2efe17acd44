import JsonSchema.Proofs.Reference.Base

/-!
# Values inside other values

A check only comes to schemas that stand in the documents it meets, so what is said of all values in a document is said
of all schemas there.

## What is here

* `Json.Contains` — a value has another one in it, at any depth.
* `KeywordPlace.contains` — **the schemas of keywords stand inside the schema object**.
* `Scope.resolve_contains` — **what a reference leads to stands inside the document of the scope or one of the library**.
-/

set_option autoImplicit false

namespace JsonSchema

open Pointer (Step)

/-- A value is another one, or has it in it at any depth. -/
inductive Json.Contains : Json → Json → Prop where
  | here (j : Json) : Json.Contains j j
  | element {elements : List Json} {e k : Json} (he : e ∈ elements) (h : Json.Contains e k) :
    Json.Contains (.array elements) k
  | member {members : Members} {name : String} {v k : Json} (hv : (name, v) ∈ members) (h : Json.Contains v k) :
    Json.Contains (.object members) k

namespace Json

variable {j k l : Json}

theorem Contains.trans (h : j.Contains k) (hk : k.Contains l) : j.Contains l := by
  induction h with
  | here j => exact hk
  | element he _ ih => exact .element he (ih hk)
  | member hv _ ih => exact .member hv (ih hk)

theorem contains_of_follow? {step : Step} (h : j.follow? step = some k) : j.Contains k := by
  cases j with
  | object members =>
    cases step with
    | key name => exact .member (mem_of_find? h) (.here k)
    | index n => exact nomatch h
  | array elements =>
    cases step with
    | key name => exact nomatch h
    | index n => exact .element (List.mem_of_getElem? h) (.here k)
  | _ => exact nomatch h

theorem contains_of_walk? {steps : List Step} (h : j.walk? steps = some k) : j.Contains k := by
  induction steps generalizing j with
  | nil =>
    cases h
    exact .here k
  | cons step steps ih =>
    rw [walk?, Option.bind_eq_some_iff] at h
    obtain ⟨next, hnext, h⟩ := h
    exact (contains_of_follow? hnext).trans (ih h)

theorem contains_of_navigate? {fragment : String} (h : j.navigate? fragment = some k) : j.Contains k :=
  contains_of_walk? (walk?_stepsTo h)

end Json

/-- The schemas of keywords stand inside the schema object. -/
theorem KeywordPlace.contains {members : Members} {steps : List Step} {x : Subschema} (h : KeywordPlace members steps x) :
    (Json.object members).Contains x.value := by
  cases h with
  | listed _ hv h => exact .member (Json.mem_of_find? hv) (Json.contains_of_walk? h.walk?)
  | named _ hv h => exact .member (Json.mem_of_find? hv) (.member h (.here _))
  | extension hv h => exact .member (Json.mem_of_find? hv) (Json.contains_of_walk? h.walk?)

namespace Scope

variable {library : Library} {scope inner : Scope} {members : Members}

theorem root_enter (h : scope.enter members = .ok inner) : inner.root = scope.root := by
  rw [enter_eq] at h
  cases hj : joinIds scope.base (idsOf members) with
  | error f =>
    rw [hj] at h
    cases h
  | ok base =>
    rw [hj] at h
    cases h
    rfl

/-- What a reference leads to stands inside the document of the scope or one of the library. -/
theorem resolve_contains {uri : String} {target : Target} (h : (scope.resolve library uri).outcome = .ok target) :
    target.scope.root.Contains target.node ∧
      (target.scope.root = scope.root ∨ ∃ location, library location = .ok target.scope.root) := by
  unfold resolve at h
  split at h
  · obtain ⟨hscope, hnode⟩ := Visit.resolveLocal_ok h
    rw [hscope]
    exact ⟨Json.contains_of_navigate? hnode, .inl rfl⟩
  · split at h
    · exact nomatch h
    · rename_i r _
      obtain ⟨hdocument, -, hnode⟩ := Visit.follow_ok h
      exact ⟨Json.contains_of_navigate? hnode, .inr ⟨r.location, hdocument⟩⟩

end Scope

end JsonSchema
