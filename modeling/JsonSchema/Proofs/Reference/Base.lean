import JsonSchema.Check
import JsonSchema.Proofs.Reference.Place

/-!
# The base of relative references

An `id` moves the base for the schema object that it stands in and for what is below it. So the base inside a
schema node should be settled by where the node stands: the ids of the schema objects around it, joined from the
root of its document inwards. Evaluation does not look at what stands around a node. It carries along a base that
it has met on its way, and where the way is not the one from the root, the two can differ.

## What is here

* `joinIds` — ids joined one after the other; `Scope.enter_eq`, entering a schema object joins its own.
* `Visit` — a place that evaluation has come to, with the ids it has entered on the way. `Visit.Leads` — where it
  goes from there. `interpret_congr` — **it goes nowhere else**.
* `Visit.inside`, `Visit.lexical` — the scope inside a node, as evaluation has it and as the place of the node
  settles it.
* `Visit.inside_eq_lexical_iff` — **they are the same if and only if the ids entered on the way and the ids around
  the node come to the same base**.
* `Visit.inside_eq_lexical_of_below` — a way of keywords alone is the way from the root.
-/

set_option autoImplicit false

namespace JsonSchema

open Pointer (Step)

/-! ## Joining ids -/

/-- The id of a schema object, if it has one that counts. -/
def idsOf (members : Members) : List String :=
  match Json.find? members "id" with
  | some (.string id) => if id.isEmpty then [] else [id]
  | _ => []

/-- The base after ids have been joined one after the other. A relative id without a base changes nothing. -/
def joinIds : Option Url → List String → Except Fault (Option Url)
  | base, [] => .ok base
  | base, id :: ids => do
    match ← Scope.absolute? base id with
    | some url => joinIds (some url) ids
    | none => joinIds base ids

theorem joinIds_append (base : Option Url) (ids more : List String) :
    joinIds base (ids ++ more) = joinIds base ids >>= fun base => joinIds base more := by
  induction ids generalizing base with
  | nil => rfl
  | cons id ids ih =>
    rw [List.cons_append, joinIds, joinIds]
    cases Scope.absolute? base id with
    | error f => rfl
    | ok url =>
      cases url with
      | none => exact ih base
      | some url => exact ih (some url)

/-- Entering a schema object joins its id. -/
theorem Scope.enter_eq (scope : Scope) (members : Members) :
    scope.enter members = (joinIds scope.base (idsOf members)).map fun base => { scope with base } := by
  unfold enter idsOf
  rcases Json.find? members "id" with _ | v
  · rfl
  · cases v with
    | string id =>
      dsimp only
      split
      · rfl
      · rw [joinIds]
        cases absolute? scope.base id with
        | error f => rfl
        | ok url => cases url <;> rfl
    | _ => rfl

/-! ## The ids around a place -/

/-- What a value in a document is taken for: a schema or a list of schemas, schemas by name, or neither. -/
inductive Role where
  | schema
  | named
  | other
deriving DecidableEq

namespace Role

/-- What stands one step below. -/
def next : Role → Step → Role
  | .schema, .key key =>
    if key ∈ schemaKeywords then .schema else if key ∈ namedKeywords then .named else .other
  | .schema, .index _ => .schema
  | .named, .key _ => .schema
  | _, _ => .other

/-- What stands at the end of a sequence of steps. -/
def after (role : Role) (steps : List Step) : Role := steps.foldl next role

/-- The ids of a value, if it is a schema object. -/
def ids : Role → Json → List String
  | .schema, .object members => idsOf members
  | _, _ => []

/-- The ids of the schema objects that are passed on the way to a place, from the outside inwards. -/
def idsAbove (role : Role) (j : Json) : List Step → List String
  | [] => []
  | step :: steps => role.ids j ++ ((j.follow? step).map fun k => (role.next step).idsAbove k steps).getD []

theorem idsAbove_append {role : Role} {j k : Json} {steps more : List Step} (h : j.walk? steps = some k) :
    role.idsAbove j (steps ++ more) = role.idsAbove j steps ++ (role.after steps).idsAbove k more := by
  induction steps generalizing role j with
  | nil =>
    cases h
    rfl
  | cons step steps ih =>
    rw [Json.walk?, Option.bind_eq_some_iff] at h
    obtain ⟨next, hnext, h⟩ := h
    rw [List.cons_append, idsAbove, idsAbove, hnext, List.append_assoc]
    exact congrArg _ (ih h)

theorem after_append (role : Role) (steps more : List Step) :
    role.after (steps ++ more) = (role.after steps).after more :=
  List.foldl_append

/-- Lists of schemas, and lists in them, have no id. -/
theorem listed {v j : Json} {steps : List Step} (h : ListedPlace v steps j) :
    Role.schema.idsAbove v steps = [] ∧ Role.schema.after steps = .schema := by
  induction h with
  | here j => exact ⟨rfl, rfl⟩
  | element hn _ ih =>
    rw [idsAbove, Json.follow?, hn]
    exact ih

/-- Between a schema object and the schemas of its keywords there are no ids but its own. -/
theorem keywordPlace {members : Members} {steps : List Step} {x : Subschema}
    (h : KeywordPlace members steps x) :
    Role.schema.idsAbove (.object members) steps = idsOf members ∧ Role.schema.after steps = .schema := by
  cases h with
  | listed hkey hv h =>
    have hnext : Role.schema.next (.key _) = .schema := if_pos hkey
    rw [idsAbove, Json.follow?, hv, hnext, after, List.foldl_cons, hnext]
    dsimp only [Option.map_some, Option.getD_some]
    rw [(listed h).1]
    exact ⟨List.append_nil _, (listed h).2⟩
  | extension hv h =>
    rw [idsAbove, Json.follow?, hv]
    dsimp only [Option.map_some, Option.getD_some]
    exact ⟨(congrArg _ (listed h).1).trans (List.append_nil _), (listed h).2⟩
  | @named key entries name j hkey hv _ =>
    have hdisjoint : ∀ key ∈ namedKeywords, key ∉ schemaKeywords := by decide
    have hnext : Role.schema.next (.key key) = .named := (if_neg (hdisjoint key hkey)).trans (if_pos hkey)
    rw [idsAbove, Json.follow?, hv, after, List.foldl_cons, hnext]
    dsimp only [Option.map_some, Option.getD_some]
    rw [idsAbove]
    refine ⟨?_, rfl⟩
    cases (Json.object entries).follow? (.key name) <;> exact List.append_nil _

end Role

/-! ## The way of an evaluation -/

/-- A place that evaluation has come to. -/
structure Visit where
  /-- The scope with which it has come. -/
  scope : Scope
  handle : Subschema
  /-- The base of the document. -/
  home : Option Url
  /-- The steps from the root of the document. -/
  place : List Step
  /-- The ids of the schema objects that have been entered since the document was. -/
  entered : List String

namespace Visit

/-- The beginning of a check. -/
def start (o : Options) (schema : Json) : Visit :=
  { scope := { root := schema, base := o.baseUri }, handle := .schema schema, home := o.baseUri, place := [],
    entered := [] }

/-- The id of the node itself. -/
def ids (v : Visit) : List String := Role.schema.ids v.handle.value

/-- The scope in which evaluation resolves the references of the node. -/
def inside (v : Visit) : Except Fault Scope :=
  match v.handle with
  | .schema (.object members) => v.scope.enter members
  | _ => .ok v.scope

/-- The ids of the schema objects around the node, from the outside inwards. -/
def enclosing (v : Visit) : List String := Role.schema.idsAbove v.scope.root v.place

/-- The scope that the place of the node settles: the ids around it and its own are joined onto the base of the
document. -/
def lexical (v : Visit) : Except Fault Scope :=
  (joinIds v.home (v.enclosing ++ v.ids)).map fun base => { v.scope with base }

/-- The text of the reference that the node is. -/
def Refers (v : Visit) (uri : String) : Prop :=
  match v.handle with
  | .reference text => text = uri
  | .schema (.object members) => Json.find? members "$ref" = some (.string uri)
  | _ => False

/-- The step from a schema object to a schema of one of its keywords. -/
inductive Descends (v : Visit) : Visit → Prop where
  | keyword {members inner steps x} (hv : v.handle = .schema (.object members)) (hin : v.inside = .ok inner)
    (hno : ∀ uri, ¬ v.Refers uri) (hx : KeywordPlace members steps x) :
    Descends v { scope := inner, handle := x, home := v.home, place := v.place ++ steps,
                 entered := v.entered ++ v.ids }

/-- Where evaluation goes from a place: to the schemas of keywords, to a node that a reference names in the same
document, or to one in a document that is fetched. -/
inductive Leads (library : Library) (v : Visit) : Visit → Prop where
  | descend {w} (h : v.Descends w) : Leads library v w
  | stay {uri inner target} (hv : v.Refers uri) (hin : v.inside = .ok inner) (hlocal : Scope.isLocal uri = true)
    (ht : inner.resolveLocal uri = .ok target) :
    Leads library v { scope := target.scope, handle := .schema target.node, home := v.home,
                      place := inner.root.stepsTo uri, entered := v.entered ++ v.ids }
  | fetch {uri inner r target} (hv : v.Refers uri) (hin : v.inside = .ok inner)
    (hremote : Scope.isLocal uri = false) (hr : Scope.split inner.base uri = .ok r)
    (ht : Scope.Reference.follow library uri r = .ok target) :
    Leads library v { scope := target.scope, handle := .schema target.node, home := r.base,
                      place := target.scope.root.stepsTo r.fragment, entered := [] }

/-- The places that evaluation comes to from a place. -/
inductive Reaches (library : Library) (v : Visit) : Visit → Prop where
  | refl : Reaches library v v
  | step {u w} (h : Reaches library v u) (hw : u.Leads library w) : Reaches library v w

/-- The places to which keywords alone lead from a place. -/
inductive Below (v : Visit) : Visit → Prop where
  | refl : Below v v
  | step {u w} (h : Below v u) (hw : u.Descends w) : Below v w

/-- Whether a visit is to the root of a document. -/
structure AtRoot (v : Visit) : Prop where
  handle : v.handle = .schema v.scope.root
  place : v.place = []
  entered : v.entered = []

variable {library : Library} {o : Options} {schema : Json} {u v w : Visit}

/-! ## The base that evaluation carries along -/

theorem inside_eq (v : Visit) :
    v.inside = (joinIds v.scope.base v.ids).map fun base => { v.scope with base } := by
  obtain ⟨scope, handle, home, place, entered⟩ := v
  rcases handle with j | uri
  · cases j with
    | object members => exact scope.enter_eq members
    | _ => rfl
  · rfl

theorem inside_ok {inner : Scope} (h : v.inside = .ok inner) :
    joinIds v.scope.base v.ids = .ok inner.base ∧ inner.root = v.scope.root := by
  rw [inside_eq] at h
  cases hj : joinIds v.scope.base v.ids with
  | error f =>
    rw [hj] at h
    exact nomatch h
  | ok base =>
    rw [hj] at h
    cases h
    exact ⟨rfl, rfl⟩

theorem resolveLocal_ok {inner : Scope} {uri : String} {target : Target}
    (h : inner.resolveLocal uri = .ok target) :
    target.scope = inner ∧ inner.root.navigate? uri = some target.node := by
  unfold Scope.resolveLocal at h
  split at h
  · rename_i node hnode
    cases h
    exact ⟨rfl, hnode⟩
  · exact nomatch h

theorem follow_ok {r : Reference} {uri : String} {target : Target} (h : Scope.Reference.follow library uri r = .ok target) :
    library r.location = .ok target.scope.root ∧ target.scope.base = r.base ∧
      target.scope.root.navigate? r.fragment = some target.node := by
  unfold Scope.Reference.follow at h
  split at h
  · exact nomatch h
  · rename_i document hdocument
    split at h
    · rename_i node hnode
      cases h
      exact ⟨hdocument, rfl, hnode⟩
    · exact nomatch h

/-- The base that evaluation carries along is what the ids entered so far make of the base of the document. -/
theorem joinIds_entered (h : Reaches library (start o schema) v) :
    joinIds v.home v.entered = .ok v.scope.base := by
  induction h with
  | refl => rfl
  | step _ hw ih =>
    cases hw with
    | descend h =>
      obtain ⟨-, hin, -, -⟩ := h
      rw [joinIds_append, ih]
      exact (inside_ok hin).1
    | stay _ hin _ ht =>
      rw [joinIds_append, ih, (resolveLocal_ok ht).1]
      exact (inside_ok hin).1
    | fetch _ _ _ _ ht =>
      rw [(follow_ok ht).2.1]
      rfl

/-- **The scope inside a node is the one that its place settles if and only if the ids that were entered on the
way and the ids around the node come to the same base.** -/
theorem inside_eq_lexical_iff (h : Reaches library (start o schema) v) :
    v.inside = v.lexical ↔
      joinIds v.home (v.entered ++ v.ids) = joinIds v.home (v.enclosing ++ v.ids) := by
  have hinside : v.inside = (joinIds v.home (v.entered ++ v.ids)).map fun base => { v.scope with base } := by
    rw [inside_eq, joinIds_append, joinIds_entered h]
    rfl
  rw [hinside, lexical]
  refine ⟨fun heq => ?_, fun heq => by rw [heq]⟩
  generalize joinIds v.home (v.entered ++ v.ids) = x at heq ⊢
  generalize joinIds v.home (v.enclosing ++ v.ids) = y at heq ⊢
  cases x <;> cases y <;> cases heq <;> rfl

/-! ## A way that strays -/

/-- A schema in which a reference leads out of the subtree of an `id`. -/
def detour : Json :=
  .object [("id", .string "app:/a/"),
    ("properties", .object [("p", .object [("id", .string "app:/b/"), ("$ref", .string "#/definitions/d")])]),
    ("definitions", .object [("d", .object [("$ref", .string "t.json")])])]

/-- The node that is the reference, as evaluation comes to it. -/
def detourReferrer : Visit where
  scope := { root := detour, base := some ⟨"app".toList, none, "/a/".toList, none, none⟩ }
  handle := .schema (.object [("id", .string "app:/b/"), ("$ref", .string "#/definitions/d")])
  home := none
  place := [.key "properties", .key "p"]
  entered := ["app:/a/"]

/-- The node behind the reference, as evaluation comes to it. -/
def detourEnd : Visit where
  scope := { root := detour, base := some ⟨"app".toList, none, "/b/".toList, none, none⟩ }
  handle := .schema (.object [("$ref", .string "t.json")])
  home := none
  place := [.key "definitions", .key "d"]
  entered := ["app:/a/", "app:/b/"]

theorem reaches_detourEnd (library : Library) :
    Reaches library (start (.withFormats .empty) detour) detourEnd := by
  have hreferrer : (start (.withFormats .empty) detour).Descends detourReferrer :=
    .keyword rfl rfl (fun uri h => nomatch h) (.named (by decide) rfl List.mem_cons_self)
  have hrefers : detourReferrer.Refers "#/definitions/d" := rfl
  have hinside : detourReferrer.inside = .ok detourEnd.scope := rfl
  have hend : detourReferrer.Leads library detourEnd := .stay hrefers hinside rfl rfl
  exact .step (.step .refl (.descend hreferrer)) hend

/-- The base inside a node is not always the one that its place settles: behind the reference in `detour` it is
that of the `id` beside the reference. -/
theorem not_forall_inside_eq_lexical :
    ¬ ∀ (o : Options) (schema : Json) (v : Visit), Reaches o.library (start o schema) v → v.inside = v.lexical := by
  intro h
  have hlexical : detourEnd.lexical = .ok detourReferrer.scope := rfl
  have hinside : detourEnd.inside = .ok detourEnd.scope := rfl
  have heq := h (.withFormats .empty) detour detourEnd (reaches_detourEnd _)
  rw [hlexical, hinside] at heq
  have hbase : detourEnd.scope.base = detourReferrer.scope.base := congrArg Scope.base (Except.ok.inj heq)
  exact absurd hbase (by decide)

theorem inside_eq_lexical_iff_detourEnd :
    Reaches (Options.withFormats .empty).library (start (.withFormats .empty) detour) detourEnd ∧
      (detourEnd.inside = detourEnd.lexical ↔
        joinIds none ["app:/a/", "app:/b/"] = joinIds none ["app:/a/"]) :=
  ⟨reaches_detourEnd _, inside_eq_lexical_iff (reaches_detourEnd (Options.withFormats .empty).library)⟩

/-! ## Places -/

theorem Descends.walk? (hd : v.scope.root.DistinctKeys) (hv : v.scope.root.walk? v.place = some v.handle.value)
    (hw : v.Descends w) : w.scope.root = v.scope.root ∧ w.scope.root.walk? w.place = some w.handle.value := by
  obtain ⟨hhandle, hin, -, hx⟩ := hw
  have hroot := (inside_ok hin).2
  rw [hhandle] at hv
  refine ⟨hroot, ?_⟩
  rw [hroot, Json.walk?_append hv]
  exact hx.walk? (hd.walk? hv)

/-- If no document repeats a key in an object, what evaluation takes for a schema stands at its place. -/
theorem Reaches.walk? (hschema : schema.DistinctKeys)
    (hlibrary : ∀ location document, library location = .ok document → document.DistinctKeys)
    (h : Reaches library (start o schema) v) :
    v.scope.root.DistinctKeys ∧ v.scope.root.walk? v.place = some v.handle.value := by
  induction h with
  | refl => exact ⟨hschema, rfl⟩
  | step _ hw ih =>
    obtain ⟨hd, hv⟩ := ih
    cases hw with
    | descend h =>
      obtain ⟨hroot, hwalk⟩ := h.walk? hd hv
      exact ⟨hroot ▸ hd, hwalk⟩
    | stay _ hin _ ht =>
      obtain ⟨hscope, hnode⟩ := resolveLocal_ok ht
      rw [hscope]
      exact ⟨(inside_ok hin).2 ▸ hd, Json.walk?_stepsTo hnode⟩
    | fetch _ _ _ _ ht =>
      obtain ⟨hdocument, -, hnode⟩ := follow_ok ht
      exact ⟨hlibrary _ _ hdocument, Json.walk?_stepsTo hnode⟩

theorem Reaches.trans_below (hu : Reaches library v u) (h : Below u w) : Reaches library v w := by
  induction h with
  | refl => exact hu
  | step _ hw ih => exact .step ih (.descend hw)

/-- On a way of keywords from the root of a document, the ids entered are the ids around the place. -/
theorem Below.entered_eq (hu : u.AtRoot) (hd : u.scope.root.DistinctKeys) (h : Below u v) :
    v.scope.root = u.scope.root ∧ v.scope.root.walk? v.place = some v.handle.value ∧
      Role.schema.after v.place = .schema ∧ v.entered = v.enclosing := by
  induction h with
  | refl =>
    rw [enclosing, hu.place, hu.handle, hu.entered]
    exact ⟨rfl, rfl, rfl, rfl⟩
  | step _ hw ih =>
    obtain ⟨hroot, hv, hrole, hentered⟩ := ih
    obtain ⟨hsame, hwalk⟩ := hw.walk? (hroot ▸ hd) hv
    refine ⟨hsame.trans hroot, hwalk, ?_⟩
    obtain ⟨hhandle, hin, -, hx⟩ := hw
    obtain ⟨hids, hafter⟩ := Role.keywordPlace hx
    rw [hhandle] at hv
    refine ⟨by rw [Role.after_append, hrole, hafter], ?_⟩
    rw [enclosing, (inside_ok hin).2, Role.idsAbove_append hv, hrole]
    dsimp only [Subschema.value]
    rw [hids, hentered, ids, hhandle]
    rfl

/-- **Where keywords alone lead from the root of a document, the scope inside a node is the one that its place
settles.** -/
theorem inside_eq_lexical_of_below (hreach : Reaches library (start o schema) u) (hu : u.AtRoot)
    (hd : u.scope.root.DistinctKeys) (h : Below u v) : v.inside = v.lexical := by
  rw [inside_eq_lexical_iff (hreach.trans_below h), (h.entered_eq hu hd).2.2.2]

/-! ## Evaluation keeps to the way -/

theorem leads_of_resolve {uri : String} {inner : Scope} {target : Target} (hv : v.Refers uri)
    (hin : v.inside = .ok inner) (ht : (inner.resolve library uri).outcome = .ok target) :
    ∃ w, v.Leads library w ∧ w.scope = target.scope ∧ w.handle = .schema target.node := by
  unfold Scope.resolve at ht
  split at ht
  · rename_i hlocal
    exact ⟨_, .stay hv hin hlocal ht, rfl, rfl⟩
  · rename_i hremote
    split at ht
    · exact nomatch ht
    · rename_i r hr
      exact ⟨_, .fetch hv hin (Bool.not_eq_true _ ▸ hremote) hr ht, rfl, rfl⟩

variable {depth depth' : Nat}

/-- Two numbers of levels give the same outcomes wherever a place leads. -/
def AgreeBelow (o : Options) (depth depth' : Nat) (v : Visit) : Prop :=
  ∀ w, v.Leads o.library w → ∀ i path segment s,
    (interpret o depth w.scope w.handle i path segment s).outcome =
      (interpret o depth' w.scope w.handle i path segment s).outcome

theorem AgreeBelow.reference (h : v.AgreeBelow o depth depth') {uri : String} {inner : Scope}
    (hv : v.Refers uri) (hin : v.inside = .ok inner) (i : Instance) (path : String) (segment : Segment)
    (s : ErrorSet) :
    (inner.resolve o.library uri >>= fun target =>
        interpret o depth target.scope (.schema target.node) i path segment s).outcome =
      (inner.resolve o.library uri >>= fun target =>
        interpret o depth' target.scope (.schema target.node) i path segment s).outcome := by
  cases ht : (inner.resolve o.library uri).outcome with
  | error f => rw [Run.outcome_bind_error ht, Run.outcome_bind_error ht]
  | ok target =>
    obtain ⟨w, hw, hscope, hhandle⟩ := leads_of_resolve hv hin ht
    rw [Run.outcome_bind_ok ht, Run.outcome_bind_ok ht, ← hscope, ← hhandle]
    exact h w hw i path segment s

theorem AgreeBelow.keywords (h : v.AgreeBelow o depth depth') {members : Members} {inner : Scope}
    (hv : v.handle = .schema (.object members)) (hin : v.inside = .ok inner) (hno : ∀ uri, ¬ v.Refers uri)
    (i : Instance) (path : String) (segment : Segment) (s : ErrorSet) :
    ((Keywords.parse members).check o.mode o.formats (fun x i parent segment s =>
        interpret o depth inner x i (extendPath parent segment) segment s) i path segment s).outcome =
      ((Keywords.parse members).check o.mode o.formats (fun x i parent segment s =>
        interpret o depth' inner x i (extendPath parent segment) segment s) i path segment s).outcome := by
  have hplaces : (Keywords.parse members).All fun x => ∃ steps, KeywordPlace members steps x :=
    Keywords.parse_all fun steps x hx => ⟨steps, hx⟩
  refine (Keywords.check_agree o.mode o.formats i path segment ?_ hplaces s).strict_outcome
  rintro x _ ⟨rfl, steps, hx⟩ i path segment s
  exact Or.inl (h _ (.descend (.keyword hv hin hno hx)) i (extendPath path segment) segment s)

/-- Evaluation at a place depends on the levels below through the places to which it leads, and on nothing else
there. -/
theorem interpret_congr (h : v.AgreeBelow o depth depth') (i : Instance) (path : String) (segment : Segment)
    (s : ErrorSet) :
    (interpret o (depth + 1) v.scope v.handle i path segment s).outcome =
      (interpret o (depth' + 1) v.scope v.handle i path segment s).outcome := by
  rcases hhandle : v.handle with j | uri
  · cases j with
    | object members =>
      have hinside : v.inside = v.scope.enter members := by rw [inside, hhandle]
      rw [interpret, interpret]
      cases hin : v.scope.enter members with
      | error f => rw [Run.outcome_bind_error rfl, Run.outcome_bind_error rfl]
      | ok inner =>
        rw [Run.outcome_bind_ok rfl, Run.outcome_bind_ok rfl]
        have hkeywords (hno : ∀ uri, Json.find? members "$ref" ≠ some (.string uri)) :=
          h.keywords hhandle (hinside.trans hin) (fun uri hv => by
            rw [Refers, hhandle] at hv
            exact hno uri hv) i path segment s
        rcases href : Json.find? members "$ref" with _ | ref
        · exact hkeywords fun uri hv => nomatch href.symm.trans hv
        · cases ref with
          | string uri =>
            have hrefers : v.Refers uri := by
              rw [Refers, hhandle]
              exact href
            exact h.reference hrefers (hinside.trans hin) i path segment s
          | _ => exact hkeywords fun uri hv => nomatch href.symm.trans hv
    | null => rfl
    | bool b => cases b <;> rfl
    | _ => rfl
  · rw [interpret, interpret]
    have hrefers : v.Refers uri := by rw [Refers, hhandle]
    exact h.reference hrefers (by rw [inside, hhandle]) i path segment s

end Visit

end JsonSchema
