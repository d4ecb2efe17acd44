import JsonSchema.Proofs.Plan.Content

/-!
# A check depends on the documents that it requests

## What is here

* `Run.underRequests` — two runs are the same if two libraries have the same documents for what the first one requests.
* `check_congr_library` — **a check does the same with every library that has the documents it requests**.
* `Library.only` — a library of certain documents only. `check_only` — a check does the same with nothing but the
  documents it requests.
-/

set_option autoImplicit false

namespace JsonSchema

/-! ## Libraries that have what is requested -/

/-- Runs that are the same if a second library has what the first run has requested from the first one. -/
def Run.underRequests (library library' : Library) : RunRelation where
  Agree x y := (∀ location ∈ x.requests, library' location = library location) → y = x
  refl _ _ := rfl
  bind := by
    rintro α β ⟨outcome, requests⟩ y f g hxy hfg h
    cases outcome with
    | error e => rw [hxy h]; rfl
    | ok a =>
      rw [hxy fun location hlocation => h location (List.mem_append_left _ hlocation)]
      simp only [bind]
      rw [hfg a fun location hlocation => h location (List.mem_append_right _ hlocation)]

theorem interpret_underRequests (o : Options) (library' : Library) (depth : Nat) (scope : Scope) (x : Subschema)
    (i : Instance) (path : String) (segment : Segment) (s : ErrorSet) :
    (Run.underRequests o.library library').Agree (interpret o depth scope x i path segment s)
      (interpret { o with library := library' } depth scope x i path segment s) := by
  induction depth generalizing scope x i path segment s with
  | zero => exact .refl _
  | succ depth ih =>
    rw [interpret_content, interpret_content]
    cases hc : content scope x with
    | accept => exact .refl _
    | notAnObject kind => exact .refl _
    | fault f => exact .refl _
    -- This is the only place where a document is requested.
    | reference inner uri =>
      exact RunRelation.Agree.bind (Scope.resolve_congr inner uri) fun target => ih target.scope _ i path segment s
    | keywords inner k =>
      obtain ⟨members, -, -, rfl⟩ := content_eq_keywords hc
      have hcheckers : (Run.underRequests o.library library').Checkers (fun x y => x = y ∧ True)
          (interpretBelow o depth inner) (interpretBelow { o with library := library' } depth inner) := by
        rintro x _ ⟨rfl, -⟩ i parent segment s
        exact ih inner x i (extendPath parent segment) segment s
      have hself : (Keywords.parse members).All fun _ => True := Keywords.parse_all fun _ _ _ => trivial
      exact Keywords.check_related o.mode o.formats i path segment hcheckers hself s

/-- **A check does the same with every library that has the documents it requests.** -/
theorem check_congr_library {o : Options} {library' : Library} {schema value : Json}
    (h : ∀ location ∈ (check o schema value).requests, library' location = o.library location) :
    check { o with library := library' } schema value = check o schema value :=
  interpret_underRequests o library' o.maxDepth _ _ _ "" .here ∅ h

/-! ## Nothing but what is requested -/

/-- The library that has nothing but the documents at certain locations. -/
def Library.only (library : Library) (locations : List String) : Library := fun location =>
  if location ∈ locations then library location else .error (.unknownLocation location)

variable {library : Library} {locations : List String} {location : String} {document : Json}

theorem Library.of_only (h : library.only locations location = .ok document) :
    location ∈ locations ∧ library location = .ok document := by
  unfold only at h
  split at h
  · rename_i hmem
    exact ⟨hmem, h⟩
  · cases h

/-- A check does the same with nothing but the documents it requests. -/
theorem check_only {o : Options} {schema value : Json} (h : (check o schema value).requests ⊆ locations) :
    check { o with library := o.library.only locations } schema value = check o schema value :=
  check_congr_library fun _ hlocation => if_pos (h hlocation)

end JsonSchema
