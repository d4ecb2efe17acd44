import JsonSchema.Proofs.Keyword.Places

/-!
# Places in documents

A place is the sequence of steps that leads to it from the root of its document.

## What is here

* `Json.stepsTo` — the place that a fragment names. `Json.walk?_stepsTo` — **the node of a fragment stands there**.
* `Json.DistinctKeys.walk?` — what stands in a document without repeated keys has none.
* `KeywordPlace.walk?` — without repeated keys, the schema of a keyword stands at its place.
-/

set_option autoImplicit false

namespace JsonSchema

open Pointer (Step)

namespace Json

variable {j k : Json} {steps more : List Step} {fragment : String}

/-! ## The place of a fragment -/

/-- The steps that tokens stand for, on the way from a node. -/
def stepsAlong (j : Json) : List (List Char) → List Step
  | [] => []
  | token :: tokens =>
    let name := Pointer.unescape token
    match j with
    | .object _ => .key (String.ofList name) :: ((j.child? token).map (·.stepsAlong tokens)).getD []
    | .array _ => .index ((Pointer.index? name).getD 0) :: ((j.child? token).map (·.stepsAlong tokens)).getD []
    | _ => []

/-- The place that a fragment names. -/
def stepsTo (document : Json) (fragment : String) : List Step :=
  match fragment.toList.dropWhile (· == '#') with
  | [] => []
  | ['/'] => []
  | '/' :: tokens => document.stepsAlong (Text.splitOn '/' tokens)
  | _ => []

theorem walk?_stepsAlong {tokens : List (List Char)} (h : j.descend? tokens = some k) :
    j.walk? (j.stepsAlong tokens) = some k := by
  induction tokens generalizing j with
  | nil =>
    cases h
    rfl
  | cons token tokens ih =>
    rw [descend?, Option.bind_eq_some_iff] at h
    obtain ⟨next, hnext, h⟩ := h
    have hrest := ih h
    cases j with
    | object members =>
      have hfollow : find? members (String.ofList (Pointer.unescape token)) = some next := hnext
      rw [stepsAlong, hnext]
      dsimp only [walk?, follow?, Option.map_some, Option.getD_some]
      rw [hfollow]
      exact hrest
    | array elements =>
      have hchild : (Pointer.index? (Pointer.unescape token)).bind (fun n => elements[n]?) = some next := hnext
      rw [Option.bind_eq_some_iff] at hchild
      obtain ⟨n, hn, hget⟩ := hchild
      rw [stepsAlong, hnext]
      dsimp only [walk?, follow?, Option.map_some, Option.getD_some]
      rw [hn]
      dsimp only [Option.getD_some]
      rw [hget]
      exact hrest
    | _ => exact nomatch hnext

/-- The node that a fragment names stands at the place that it names. -/
theorem walk?_stepsTo {document node : Json} (h : document.navigate? fragment = some node) :
    document.walk? (document.stepsTo fragment) = some node := by
  unfold navigate? at h
  unfold stepsTo
  generalize fragment.toList.dropWhile (· == '#') = cs at h ⊢
  rcases cs with _ | ⟨c, cs⟩
  · exact h
  · by_cases hc : c = '/'
    · subst hc
      rcases cs with _ | ⟨d, cs⟩
      · exact h
      · exact walk?_stepsAlong h
    · simp [hc] at h

/-! ## Walking -/

theorem walk?_append_eq_bind (j : Json) (steps more : List Step) :
    j.walk? (steps ++ more) = (j.walk? steps).bind (·.walk? more) := by
  induction steps generalizing j with
  | nil => rfl
  | cons step steps ih =>
    rw [List.cons_append, walk?, walk?, Option.bind_assoc]
    exact congrArg _ (funext fun next => ih next)

theorem walk?_append (h : j.walk? steps = some k) : j.walk? (steps ++ more) = k.walk? more := by
  rw [walk?_append_eq_bind, h, Option.bind_some]

/-! ## Distinct keys -/

theorem mem_keys_iff_hasKey {members : Members} {key : String} :
    key ∈ members.map (·.1) ↔ hasKey members key = true := by
  simp [hasKey]

theorem find?_of_mem {members : Members} {name : String} {v : Json} (hnd : (members.map (·.1)).Nodup)
    (h : (name, v) ∈ members) : find? members name = some v := by
  induction members with
  | nil => exact absurd h List.not_mem_nil
  | cons m members ih =>
    rw [List.map_cons, List.nodup_cons] at hnd
    rw [find?, List.lookup_cons]
    rcases List.mem_cons.mp h with rfl | h
    · rw [beq_self_eq_true]
    · have hne : name ≠ m.1 := fun heq => hnd.1 (heq ▸ List.mem_map_of_mem h)
      rw [beq_eq_false_iff_ne.mpr hne]
      exact ih hnd.2 h

theorem mem_of_find? {members : Members} {name : String} {v : Json} (h : find? members name = some v) :
    (name, v) ∈ members := by
  obtain ⟨before, behind, rfl, -⟩ := List.lookup_eq_some_iff.mp h
  simp

theorem DistinctKeys.of_mem_elements {elements : List Json} {e : Json} (h : DistinctKeys.elements elements)
    (he : e ∈ elements) : e.DistinctKeys := by
  induction elements with
  | nil => exact absurd he List.not_mem_nil
  | cons e' elements ih =>
    rcases List.mem_cons.mp he with rfl | he
    · exact h.1
    · exact ih h.2 he

theorem DistinctKeys.of_mem_members {members : Members} {name : String} {v : Json}
    (h : DistinctKeys.members members) (hv : (name, v) ∈ members) : v.DistinctKeys := by
  induction members with
  | nil => exact absurd hv List.not_mem_nil
  | cons m members ih =>
    rcases List.mem_cons.mp hv with rfl | hv
    · exact h.1
    · exact ih h.2 hv

theorem DistinctKeys.follow? {step : Step} (h : j.DistinctKeys) (hk : j.follow? step = some k) :
    k.DistinctKeys := by
  cases j with
  | object members =>
    cases step with
    | key name => exact DistinctKeys.of_mem_members h.2 (mem_of_find? hk)
    | index n => exact nomatch hk
  | array elements =>
    cases step with
    | key name => exact nomatch hk
    | index n => exact DistinctKeys.of_mem_elements h (List.mem_of_getElem? hk)
  | _ => exact nomatch hk

theorem DistinctKeys.walk? (h : j.DistinctKeys) (hk : j.walk? steps = some k) : k.DistinctKeys := by
  induction steps generalizing j with
  | nil =>
    cases hk
    exact h
  | cons step steps ih =>
    rw [Json.walk?, Option.bind_eq_some_iff] at hk
    obtain ⟨next, hnext, hk⟩ := hk
    exact ih (h.follow? hnext) hk

end Json

/-! ## The places of keywords -/

/-- The value of a handle: the schema, or the text of the reference. -/
def Subschema.value : Subschema → Json
  | .schema j => j
  | .reference uri => .string uri

variable {members : Members} {steps : List Step}

theorem ListedPlace.walk? {v j : Json} (h : ListedPlace v steps j) : v.walk? steps = some j := by
  induction h with
  | here j => rfl
  | element hn _ ih =>
    rw [Json.walk?, Json.follow?, hn]
    exact ih

/-- Without repeated keys, the schema of a keyword stands at its place. -/
theorem KeywordPlace.walk? {x : Subschema} (hd : (Json.object members).DistinctKeys)
    (h : KeywordPlace members steps x) : (Json.object members).walk? steps = some x.value := by
  cases h with
  | listed _ hv h =>
    rw [Json.walk?, Json.follow?, hv]
    exact h.walk?
  | extension hv h =>
    rw [Json.walk?, Json.follow?, hv]
    exact h.walk?
  | @named key entries name j _ hv h =>
    have hentries : (Json.object entries).DistinctKeys := 
      hd.follow? (show (Json.object members).follow? (.key key) = some (.object entries) from hv)
    have hj : Json.find? entries name = some j := Json.find?_of_mem hentries.1 h
    rw [Json.walk?, Json.follow?, hv]
    dsimp only [Option.bind_some]
    rw [Json.walk?, Json.follow?, hj]
    rfl

end JsonSchema
