import JsonSchema.Check
import JsonSchema.Plan.Compile
import JsonSchema.Proofs.Keyword.Places
import JsonSchema.Proofs.Keyword.Traversal
import JsonSchema.Proofs.Plan.Key

/-!
# What stands at a place

Whether a schema is applied as it is read or compiled first, each step begins with a look at what stands at a place of
the schema text: nothing to check, keywords, a reference, or a fault. The two ways differ in what they do with it.

## What is here

* `Content` and `content` — what stands at a place, read in a scope.
* `interpret_content`, `Compiling.node_eq` — both ways go by the content alone.
* `Realizes` — a node of a plan does what a content says, where links stand for places.
* `runPlan_eq_interpret` — **a plan whose nodes realize the contents they stand for checks as interpretation does**.
-/

set_option autoImplicit false

namespace JsonSchema

/-- What stands at a place where a schema belongs. -/
inductive Content where
  | accept
  | notAnObject (kind : String)
  | fault (f : Fault)
  /-- A reference, and the scope it is read in. -/
  | reference (scope : Scope) (uri : String)
  /-- Keywords, and the scope of the schemas in them. -/
  | keywords (scope : Scope) (k : Keywords Subschema)

/-- What stands in a schema object, seen from inside. -/
def memberContent (scope : Scope) (members : Members) : Content :=
  match Json.find? members "$ref" with
  | some (.string uri) => .reference scope uri
  | _ => .keywords scope (Keywords.parse members)

/-- What stands at a place, read in a scope. -/
def content (scope : Scope) : Subschema → Content
  | .reference uri => .reference scope uri
  | .schema (.object members) =>
    match scope.enter members with
    | .error f => .fault f
    | .ok inner => memberContent inner members
  | .schema .null | .schema (.bool true) => .accept
  | .schema j => .notAnObject j.kind

/-- References stand where the schema text has a reference itself, or a schema object with one. -/
theorem content_eq_reference {scope inner : Scope} {x : Subschema} {uri : String}
    (h : content scope x = .reference inner uri) :
    (x = .reference uri ∧ inner = scope) ∨
      ∃ members, x = .schema (.object members) ∧ scope.enter members = .ok inner ∧
        Json.find? members "$ref" = some (.string uri) := by
  unfold content at h
  split at h
  · cases h
    exact Or.inl ⟨rfl, rfl⟩
  · rename_i members
    split at h
    · exact nomatch h
    · rename_i entered henter
      unfold memberContent at h
      split at h
      · rename_i href
        cases h
        exact Or.inr ⟨members, rfl, henter, href⟩
      · exact nomatch h
  · exact nomatch h
  · exact nomatch h
  · exact nomatch h

/-- Keywords stand where the schema text has a schema object. -/
theorem content_eq_keywords {scope inner : Scope} {x : Subschema} {k : Keywords Subschema}
    (h : content scope x = .keywords inner k) :
    ∃ members, x = .schema (.object members) ∧ scope.enter members = .ok inner ∧ k = Keywords.parse members := by
  unfold content at h
  split at h
  · exact nomatch h
  · rename_i members
    split at h
    · exact nomatch h
    · rename_i entered henter
      unfold memberContent at h
      split at h
      · exact nomatch h
      · cases h
        exact ⟨members, rfl, henter, rfl⟩
  · exact nomatch h
  · exact nomatch h
  · exact nomatch h

/-! ## Faults that are met in reading -/

namespace Scope

variable {base : Option Url} {scope : Scope} {uri : String} {f : Fault}

theorem exists_invalidUri_of_absolute? (h : absolute? base uri = .error f) : ∃ reason, f = .invalidUri uri reason := by
  unfold absolute? at h
  split at h <;> cases h
  exact ⟨_, rfl⟩

theorem exists_invalidUri_of_enter {members : Members} (h : scope.enter members = .error f) :
    ∃ id reason, f = .invalidUri id reason := by
  unfold enter at h
  split at h
  · rename_i id _
    split at h
    · cases h
    · cases habsolute : absolute? scope.base id with
      | error e =>
        rw [habsolute] at h
        cases h
        exact ⟨id, exists_invalidUri_of_absolute? habsolute⟩
      | ok url =>
        rw [habsolute] at h
        cases url <;> cases h
  · cases h

theorem exists_invalidUri_of_split (h : split base uri = .error f) : ∃ reason, f = .invalidUri uri reason := by
  unfold split at h
  cases habsolute : absolute? base uri with
  | error e =>
    rw [habsolute] at h
    cases h
    exact exists_invalidUri_of_absolute? habsolute
  | ok url =>
    rw [habsolute] at h
    cases url <;> cases h

/-- A reference that cannot be followed leads nowhere, or is no URI. -/
theorem exists_of_resolve_error {library : Library} (h : (scope.resolve library uri).outcome = .error f) :
    ∃ reason, f = .unresolvable uri reason ∨ f = .invalidUri uri reason := by
  unfold resolve at h
  split at h
  · rw [Run.outcome_ofExcept, resolveLocal] at h
    split at h <;> cases h
    exact ⟨_, Or.inl rfl⟩
  · split at h
    · rename_i hsplit
      cases h
      obtain ⟨reason, rfl⟩ := exists_invalidUri_of_split hsplit
      exact ⟨reason, Or.inr rfl⟩
    · rw [Run.outcome_requesting, Reference.follow] at h
      split at h
      · cases h
        exact ⟨_, Or.inl rfl⟩
      · split at h <;> cases h
        exact ⟨_, Or.inl rfl⟩

end Scope

/-- Reading a place fails for its id only. -/
theorem exists_invalidUri_of_content {scope : Scope} {x : Subschema} {f : Fault} (h : content scope x = .fault f) :
    ∃ id reason, f = .invalidUri id reason := by
  unfold content at h
  split at h
  · cases h
  · split at h
    · rename_i henter
      cases h
      exact Scope.exists_invalidUri_of_enter henter
    · unfold memberContent at h
      split at h <;> cases h
  · cases h
  · cases h
  · cases h

/-! ## Interpretation -/

section Interpretation

variable (o : Options) (depth : Nat) (i : Instance) (path : String) (segment : Segment) (s : ErrorSet)

/-- Applies a place below another one, with one level less. -/
def interpretBelow (scope : Scope) : Checker Subschema := fun x i parent segment s =>
  interpret o depth scope x i (extendPath parent segment) segment s

/-- What interpretation makes of a content. -/
def interpretContent : Content → Run ErrorSet
  | .accept => pure s
  | .notAnObject kind => .fail (.notAnObject path kind)
  | .fault f => .fail f
  | .reference scope uri => do
    let target ← scope.resolve o.library uri
    interpret o depth target.scope (.schema target.node) i path segment s
  | .keywords scope k => k.check o.mode o.formats (interpretBelow o depth scope) i path segment s

theorem interpret_memberContent (scope : Scope) (members : Members) :
    (match Json.find? members "$ref" with
      | some (.string uri) => do
        let target ← scope.resolve o.library uri
        interpret o depth target.scope (.schema target.node) i path segment s
      | _ => (Keywords.parse members).check o.mode o.formats (interpretBelow o depth scope) i path segment s) =
    interpretContent o depth i path segment s (memberContent scope members) := by
  unfold memberContent
  rcases Json.find? members "$ref" with _ | ref
  · rfl
  · cases ref <;> rfl

/-- Interpretation goes by the content of a place. -/
theorem interpret_content (scope : Scope) (x : Subschema) :
    interpret o (depth + 1) scope x i path segment s =
      interpretContent o depth i path segment s (content scope x) := by
  rcases x with j | uri
  · cases j with
    | object members =>
      rw [interpret, content]
      cases hin : scope.enter members with
      | error f => rfl
      | ok inner => exact interpret_memberContent o depth i path segment s inner members
    | null => rfl
    | bool b => cases b <;> rfl
    | _ => rfl
  · rw [interpret, content, interpretContent]

end Interpretation

/-! ## Compilation -/

namespace Compiling

variable (o : Options) (next : Scope → Subschema → Compiling Link)

/-- What compilation makes of a content. -/
def contentNode : Content → Compiling PlanNode
  | .accept => pure .accept
  | .notAnObject kind => pure (.notAnObject kind)
  | .fault f => pure (.fault f)
  | .reference scope uri => reference o next scope uri
  | .keywords scope k => do return .keywords (← k.traverse (next scope))

/-- Compilation goes by the content of a place. -/
theorem node_eq (scope : Scope) (x : Subschema) : node o next scope x = contentNode o next (content scope x) := by
  rcases x with j | uri
  · cases j with
    | object members =>
      rw [node, schema, content]
      cases scope.enter members with
      | error f => rfl
      | ok inner =>
        unfold memberContent
        rcases Json.find? members "$ref" with _ | ref
        · rfl
        · cases ref <;> rfl
    | null => rfl
    | bool b => cases b <;> rfl
    | _ => rfl
  · rfl

end Compiling

/-! ## Nodes that realize contents -/

/-- A node does what a content says with the documents of a library, where `R` says which links stand for which
places. -/
inductive Realizes (R : Scope → Subschema → Link → Prop) (library : Library) : PlanNode → Content → Prop where
  | accept : Realizes R library .accept .accept
  | notAnObject (kind : String) : Realizes R library (.notAnObject kind) (.notAnObject kind)
  | fault (f : Fault) : Realizes R library (.fault f) (.fault f)
  | unresolved {scope uri f} (h : (scope.resolve library uri).outcome = .error f) :
    Realizes R library (.fault f) (.reference scope uri)
  | reference {scope uri target link} (h : (scope.resolve library uri).outcome = .ok target)
    (hlink : R target.scope (.schema target.node) link) : Realizes R library (.reference link) (.reference scope uri)
  | keywords {scope k l} (h : Keywords.Rel (R scope) k l) : Realizes R library (.keywords l) (.keywords scope k)

variable {R R' : Scope → Subschema → Link → Prop} {library library' : Library}

theorem Realizes.mono (hR : ∀ scope x link, R scope x link → R' scope x link) {n : PlanNode} {c : Content}
    (h : Realizes R library n c) : Realizes R' library n c := by
  cases h with
  | accept => exact .accept
  | notAnObject kind => exact .notAnObject kind
  | fault f => exact .fault f
  | unresolved h => exact .unresolved h
  | reference h hlink => exact .reference h (hR _ _ _ hlink)
  | keywords h => exact .keywords (h.mono fun _ _ => hR _ _ _)

/-- The links of a node stand for places. -/
theorem Realizes.exists_of_mem_links {n : PlanNode} {c : Content} (h : Realizes R library n c) {link : Link}
    (hlink : link ∈ n.links) : ∃ scope x, R scope x link := by
  cases h with
  | reference h hR =>
    rw [PlanNode.links, List.mem_singleton] at hlink
    exact ⟨_, _, hlink ▸ hR⟩
  | @keywords scope k l h =>
    obtain ⟨x, hx⟩ := Keywords.exists_of_mem_handles h hlink
    exact ⟨scope, x, hx⟩
  | _ => exact absurd hlink (by simp [PlanNode.links])

/-- The documents that a resolution asks for are all of the library that it depends on. -/
theorem Scope.resolve_congr (scope : Scope) (uri : String)
    (h : ∀ location ∈ (scope.resolve library uri).requests, library' location = library location) :
    scope.resolve library' uri = scope.resolve library uri := by
  unfold Scope.resolve at h ⊢
  split
  · rfl
  · rename_i hremote
    rw [if_neg hremote] at h
    cases hsplit : split scope.base uri with
    | error f => rfl
    | ok r =>
      rw [hsplit] at h
      have hsame : library' r.location = library r.location := h _ (by simp [Run.requesting])
      simp only [Reference.follow, hsame]

/-- **A plan whose nodes realize the contents they stand for checks as interpretation does.** -/
theorem runPlan_eq_interpret {o : Options} {find : Link → Option PlanNode}
    (hfind : ∀ scope x link, R scope x link → ∃ n, find link = some n ∧ Realizes R o.library n (content scope x))
    (depth : Nat) {scope : Scope} {x : Subschema} {link : Link} (hlink : R scope x link) (i : Instance) (path : String)
    (segment : Segment) (s : ErrorSet) :
    (runPlan o find depth link i path segment s).outcome = (interpret o depth scope x i path segment s).outcome := by
  induction depth generalizing scope x link i path segment s with
  | zero =>
    obtain ⟨n, hn, -⟩ := hfind scope x link hlink
    rw [runPlan, hn, interpret]
  | succ depth ih =>
    obtain ⟨n, hn, hrealizes⟩ := hfind scope x link hlink
    rw [runPlan, hn, interpret_content]
    generalize content scope x = c at hrealizes
    cases hrealizes with
    | accept => rfl
    | notAnObject kind => rfl
    | fault f => rfl
    | unresolved h =>
      rw [interpretContent, Run.outcome_bind_error h]
      rfl
    | reference h hR =>
      rw [interpretContent, Run.outcome_bind_ok h]
      exact ih hR i path segment s
    | @keywords inner k l h =>
      have hcheckers : Tolerance.strict.Checkers (R inner) (interpretBelow o depth inner)
          (fun link i parent segment s => runPlan o find depth link i (extendPath parent segment) segment s) :=
        fun x link hR i parent segment s => Or.inl (ih hR i (extendPath parent segment) segment s).symm
      exact (Keywords.check_agree o.mode o.formats i path segment hcheckers h s).strict_outcome.symm

end JsonSchema
