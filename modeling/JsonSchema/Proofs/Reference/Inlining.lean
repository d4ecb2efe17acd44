import JsonSchema.Proofs.Keyword.Gap
import JsonSchema.Proofs.Plan.Content
import JsonSchema.Proofs.Reference.Base

/-!
# Inlining definitions

A reference to a definition stands for it, so putting a copy of the definition in its place should change nothing. It
does not, as long as no check goes too deep, apart from one place: what an entry of `properties` requires is read from
the entry itself, not from what it refers to. There, the copy must not require anything.

## What is here

* `Within` — the schemas and references that belong to a schema. `RefersToDefinitions` — all references of a schema
  name its definitions.
* `Inlining` — a reference to a definition in such a schema. `Copied` — what may be put in its place.
* `Inlining.Stands` — what stands in the schema with the reference and in the one with the copy.
  `Inlining.interpret_agree` — **both are interpreted alike, unless one goes too deep**.
* `Inlining.check_inlined` — **a reference may be replaced by a copy of its definition**, unless the copy comes to say what an
  entry of `properties` requires. `Inlining.not_forall_check_inlined` — there it may not.
-/

set_option autoImplicit false

namespace JsonSchema

open Pointer (Step)

variable {R : Subschema → Subschema → Prop} {k l definition copy : Members} {document document' : Json} {x y : Subschema}
  {layers below : List Layer} {name : String}

/-! ## References to definitions -/

/-- A place holds a reference. -/
def Subschema.Refers : Subschema → String → Prop
  | .reference text, uri => text = uri
  | .schema (.object members), uri => Json.find? members "$ref" = some (.string uri)
  | _, _ => False

/-- The schemas and references that belong to a schema: itself, what stands at places of keywords in one of them, and
what a reference among them names. -/
inductive Within (document : Json) : Subschema → Prop where
  | root : Within document (.schema document)
  | keyword {members steps x} (h : Within document (.schema (.object members))) (hx : KeywordPlace members steps x) :
    Within document x
  | target {x uri node} (h : Within document x) (hx : x.Refers uri) (hnode : document.navigate? uri = some node) :
    Within document (.schema node)

/-- The schema at the bottom of layers belongs to the whole. -/
theorem within_fill (layers below : List Layer) {j : Json} (h : Within document (.schema (fill (layers ++ below) j))) :
    Within document (.schema (fill below j)) := by
  induction layers with
  | nil => exact h
  | cons layer layers ih =>
    obtain ⟨steps, hplace⟩ := layer.keywordPlace (fill (layers ++ below) j)
    exact ih (.keyword h hplace)

/-- The reference to a definition, whose name is spelled as in pointers. -/
def definitionUri (name : String) : String := "#/definitions/" ++ name

/-- All references that belong to a schema name definitions of the schema. -/
def RefersToDefinitions (document : Json) : Prop :=
  ∀ x uri, Within document x → x.Refers uri → ∃ name, uri = definitionUri name ∧ '/' ∉ name.toList

theorem isLocal_definitionUri (name : String) : Scope.isLocal (definitionUri name) = true := by
  simp [Scope.isLocal, definitionUri]

/-- What such a reference names depends on the definitions only. -/
theorem navigate?_definitionUri (hname : '/' ∉ name.toList) (members : Members) :
    (Json.object members).navigate? (definitionUri name) =
      (Json.find? members "definitions").bind (·.child? name.toList) := by
  have htokens : Text.splitOn '/' ("definitions".toList ++ '/' :: name.toList) = ["definitions".toList, name.toList] := by
    rw [Text.splitOn_append_separator (by decide), Text.splitOn_of_notMem hname]
  have huri : (definitionUri name).toList = '#' :: '/' :: ("definitions".toList ++ '/' :: name.toList) := by
    simp [definitionUri]
  have hdrop : ('#' :: '/' :: ("definitions".toList ++ '/' :: name.toList)).dropWhile (· == '#') =
      '/' :: ("definitions".toList ++ '/' :: name.toList) := rfl
  rw [Json.navigate?, huri, hdrop]
  show (Json.object members).descend? (Text.splitOn '/' ("definitions".toList ++ '/' :: name.toList)) = _
  rw [htokens, Json.descend?]
  show (Json.find? members "definitions").bind _ = _
  refine congrArg _ (funext fun definitions => ?_)
  rw [Json.descend?]
  cases definitions.child? name.toList <;> rfl

/-! ## Contents in two documents -/

/-- A reference that stays in the document names the same in two of them, and this is related to itself. -/
structure NamesSame (R : Subschema → Subschema → Prop) (document document' : Json) (uri : String) : Prop where
  stays : Scope.isLocal uri = true
  same : document'.navigate? uri = document.navigate? uri
  related : ∀ node, document.navigate? uri = some node → R (.schema node) (.schema node)

/-- What stands at two places says the same, in scopes that differ in their document only. -/
inductive Content.Alike (R : Subschema → Subschema → Prop) (document document' : Json) : Content → Content → Prop where
  | accept : Alike R document document' .accept .accept
  | notAnObject (kind : String) : Alike R document document' (.notAnObject kind) (.notAnObject kind)
  | fault (f : Fault) : Alike R document document' (.fault f) (.fault f)
  | reference {base uri} (h : NamesSame R document document' uri) :
    Alike R document document' (.reference { root := document, base } uri) (.reference { root := document', base } uri)
  | keywords {base k l} (h : Keywords.Rel R k l) :
    Alike R document document' (.keywords { root := document, base } k) (.keywords { root := document', base } l)

/-- Schema objects that are alike say the same. -/
theorem content_alike (h : Members.Alike R k l)
    (href : ∀ uri, Json.find? k "$ref" = some (.string uri) → NamesSame R document document' uri) (base : Option Url) :
    Content.Alike R document document' (content { root := document, base } (.schema (.object k)))
      (content { root := document', base } (.schema (.object l))) := by
  have hids : idsOf k = idsOf l := by
    unfold idsOf
    rw [h.other "id" (by decide)]
  rw [content, content, Scope.enter_eq, Scope.enter_eq, hids]
  cases joinIds base (idsOf l) with
  | error f => exact .fault f
  | ok base =>
    show Content.Alike R document document' (memberContent _ k) (memberContent _ l)
    unfold memberContent
    rw [← h.other "$ref" (by decide)]
    split
    · rename_i uri huri
      exact .reference (href uri huri)
    · exact .keywords (Keywords.parse_rel h)

/-- Contents that say the same are interpreted alike if related places are. -/
theorem interpretContent_agree {a : Tolerance} {o : Options} {depth depth' : Nat} {c d : Content}
    (h : Content.Alike R document document' c d)
    (hbelow : ∀ x y, R x y → ∀ base i path segment s,
      a.Agree (interpret o depth { root := document, base } x i path segment s)
        (interpret o depth' { root := document', base } y i path segment s))
    (i : Instance) (path : String) (segment : Segment) (s : ErrorSet) :
    a.Agree (interpretContent o depth i path segment s c) (interpretContent o depth' i path segment s d) := by
  cases h with
  | accept => exact .refl _
  | notAnObject kind => exact .refl _
  | fault f => exact .refl _
  | @reference base uri h =>
    rw [interpretContent, interpretContent, Scope.resolve, Scope.resolve, if_pos h.stays, if_pos h.stays,
      Scope.resolveLocal, Scope.resolveLocal, h.same]
    cases hnode : document.navigate? uri with
    | none => exact .refl _
    | some node =>
      refine (hbelow _ _ (h.related node hnode) base i path segment s).congr ?_ ?_
      · exact Run.outcome_bind_ok (Run.outcome_ofExcept _)
      · exact Run.outcome_bind_ok (Run.outcome_ofExcept _)
  | keywords h =>
    refine Keywords.check_agree o.mode o.formats i path segment (fun x y hxy i parent segment s => ?_) h s
    exact hbelow x y hxy _ i (extendPath parent segment) segment s

/-! ## A reference and what is put in its place -/

/-- The schema that refers to a definition. -/
def definitionReference (name : String) : Members := [("$ref", .string (definitionUri name))]

/-- A schema all of whose references name its definitions, and one of them, outside of the definitions: what stands
around it, the name, and what it refers to. -/
structure Inlining where
  layers : List Layer
  name : String
  definition : Members
  defined : (fill layers (.object (definitionReference name))).navigate? (definitionUri name) = some (.object definition)
  outside : ∀ layer, layers.head? = some layer → layer.key ≠ "definitions"
  references : RefersToDefinitions (fill layers (.object (definitionReference name)))

/-- A copy says what the definition says, apart from what it requires as an entry of `properties`. If it becomes such an
entry, it requires nothing. -/
structure Copied (layers : List Layer) (definition copy : Members) : Prop where
  same : ∀ key ≠ "requires", Json.find? definition key = Json.find? copy key
  requires : ∀ layer, layers.getLast? = some layer → layer.key = "properties" →
    ∀ other, Json.find? copy "requires" ≠ some (.string other)

/-- What an entry of `properties` requires is read under one key. -/
theorem PropertyRule.requires_congr (h : Json.find? k "requires" = Json.find? l "requires") (name : String) :
    (PropertyRule.parse (name, .object k)).requires = (PropertyRule.parse (name, .object l)).requires := by
  unfold PropertyRule.parse
  dsimp only
  rw [h]

theorem PropertyRule.requires_eq_none (h : ∀ other, Json.find? k "requires" ≠ some (.string other)) (name : String) :
    (PropertyRule.parse (name, .object k)).requires = none := by
  unfold PropertyRule.parse
  dsimp only
  split
  · rename_i other hother
    exact absurd hother (h other)
  · rfl

theorem Copied.tail {layer : Layer} (h : Copied (layer :: layers) definition copy) :
    Copied layers definition copy :=
  { h with requires := fun last hlast => h.requires last (by rw [List.getLast?_cons, hlast]; rfl) }

namespace Inlining

variable (t : Inlining)

/-- The schema. -/
def schema : Json := fill t.layers (.object (definitionReference t.name))

/-- The schema with something else in the place of the reference. -/
def put (copy : Members) : Json := fill t.layers (.object copy)

/-- What stands in the schema, and in the one with the copy. -/
inductive Stands (copy : Members) : Subschema → Subschema → Prop where
  | same {z : Subschema} (h : Within t.schema z) : Stands copy z z
  | around {layers : List Layer} (h : Within t.schema (.schema (fill layers (.object (definitionReference t.name)))))
    (hcopy : Copied layers t.definition copy) :
    Stands copy (.schema (fill layers (.object (definitionReference t.name)))) (.schema (fill layers (.object copy)))
  | copied (h : Within t.schema (.schema (.object t.definition))) :
    Stands copy (.schema (.object t.definition)) (.schema (.object copy))
  /-- No schema is a list. -/
  | lists (js ks : List Json) : Stands copy (.schema (.array js)) (.schema (.array ks))

theorem within_reference : Within t.schema (.schema (.object (definitionReference t.name))) := by
  refine within_fill t.layers [] ?_
  rw [List.append_nil]
  exact .root

/-- The schema has the same definitions whatever is put into it. -/
theorem navigate?_put (copy : Members) (hname : '/' ∉ name.toList) :
    (t.put copy).navigate? (definitionUri name) = t.schema.navigate? (definitionUri name) := by
  have hdefined := t.defined
  obtain ⟨spelled, hspelled, hfree⟩ := t.references _ _ t.within_reference rfl
  have houtside := t.outside
  unfold put schema
  cases hlayers : t.layers with
  | nil =>
    -- a schema that is nothing but a reference has no definitions
    rw [hlayers, hspelled, fill, navigate?_definitionUri hfree] at hdefined
    cases hdefined
  | cons layer layers =>
    rw [hlayers] at houtside
    rw [fill, fill, navigate?_definitionUri hname, navigate?_definitionUri hname,
      layer.find?_of_ne _ _ (houtside layer rfl).symm]

variable {t}

/-! ## What stands in both says the same -/

/-- References name the same definitions in both. -/
theorem namesSame (hx : Within t.schema x) {uri : String} (hrefers : x.Refers uri) :
    NamesSame (t.Stands copy) t.schema (t.put copy) uri := by
  obtain ⟨other, rfl, hother⟩ := t.references x uri hx hrefers
  exact { stays := isLocal_definitionUri other, same := t.navigate?_put copy hother,
          related := fun node hnode => .same (.target hx hrefers hnode) }

/-- Schema objects that are alike say the same. -/
theorem content_of_alike (hk : Within t.schema (.schema (.object k))) (h : Members.Alike (t.Stands copy) k l)
    (base : Option Url) :
    Content.Alike (t.Stands copy) t.schema (t.put copy) (content { root := t.schema, base } (.schema (.object k)))
      (content { root := t.put copy, base } (.schema (.object l))) :=
  content_alike h (fun _ huri => namesSame hk huri) base

theorem alike_self (hk : Within t.schema (.schema (.object k))) : Members.Alike (t.Stands copy) k k :=
  .refl fun _ _ hz => .same (.keyword hk hz)

/-- What is left as it was says the same. -/
theorem content_same (hx : Within t.schema x) (base : Option Url) :
    Content.Alike (t.Stands copy) t.schema (t.put copy) (content { root := t.schema, base } x)
      (content { root := t.put copy, base } x) := by
  cases x with
  | reference uri => exact .reference (namesSame hx rfl)
  | schema j =>
    cases j with
    | object members => exact content_of_alike hx (alike_self hx) base
    | null => exact .accept
    | bool b =>
      cases b
      · exact .notAnObject _
      · exact .accept
    | _ => exact .notAnObject _

/-- The copy is like the definition where it is asked what it says itself. -/
theorem alike_copied (hcopy : Copied layers t.definition copy) (h : Within t.schema (.schema (.object t.definition))) :
    Members.Alike (t.Stands copy) t.definition copy :=
  (alike_self h).change hcopy.same List.mem_cons_self (fun hkey => absurd hkey (by decide))
    (fun hkey => absurd hkey (by decide)) (fun hkey => absurd hkey (by decide)) (fun hkey => absurd hkey (by decide))
    (fun hkey => absurd hkey (by decide))

/-- Layers around the reference and the copy are alike. -/
theorem alike_around {layer : Layer} (hcopy : Copied (layer :: layers) t.definition copy)
    (h : Within t.schema (.schema (fill (layer :: layers) (.object (definitionReference t.name))))) :
    Members.Alike (t.Stands copy) (layer.members (fill layers (.object (definitionReference t.name))))
      (layer.members (fill layers (.object copy))) := by
  have hbelow : t.Stands copy (.schema (fill layers (.object (definitionReference t.name))))
      (.schema (fill layers (.object copy))) := .around (within_fill [layer] layers h) hcopy.tail
  have hplaces (steps : List Step) (z : Subschema)
      (hz : KeywordPlace (layer.members (fill layers (.object (definitionReference t.name)))) steps z) :
      t.Stands copy z z := .same (.keyword h hz)
  cases layers with
  | nil =>
    refine Layer.alike hbelow .lists (fun hkey name => ?_) hplaces
    rw [PropertyRule.requires_eq_none (hcopy.requires layer rfl hkey)]
    rfl
  | cons next layers =>
    refine Layer.alike hbelow .lists (fun _ => PropertyRule.requires_congr ?_) hplaces
    have hkeyword : "requires" ∉ schemaKeywords ++ namedKeywords := by decide
    exact next.find?_of_ne _ _ fun hkey => hkeyword (hkey ▸ next.key_mem)

/-! ## The outcomes -/

end Inlining

/-- A check that has gone too deep. -/
def Fault.IsDepth (f : Fault) : Prop := ∃ path limit, f = .depthExceeded path limit

/-- Either side may go too deep. -/
def Tolerance.depth : Tolerance := ⟨Fault.IsDepth, Fault.IsDepth⟩

namespace Inlining

variable {t : Inlining}

/-- **What stands in the schema and in the one with the copy is interpreted alike, unless one goes too deep.** The levels
that are left differ once a reference has been followed on one side only. -/
theorem interpret_agree (hcopy : Copied t.layers t.definition copy) (o : Options) (depth depth' : Nat)
    (hxy : t.Stands copy x y) (base : Option Url) (i : Instance) (path : String) (segment : Segment) (s : ErrorSet) :
    Tolerance.depth.Agree (interpret o depth { root := t.schema, base } x i path segment s)
      (interpret o depth' { root := t.put copy, base } y i path segment s) := by
  induction depth generalizing depth' x y base i path segment s with
  | zero => exact Or.inr (Or.inl ⟨_, rfl, path, _, rfl⟩)
  | succ depth ih =>
    cases depth' with
    | zero => exact Or.inr (Or.inr ⟨_, rfl, path, _, rfl⟩)
    | succ depth' =>
      have hagree (hc : Content.Alike (t.Stands copy) t.schema (t.put copy) (content { root := t.schema, base } x)
          (content { root := t.put copy, base } y)) :
          Tolerance.depth.Agree (interpret o (depth + 1) { root := t.schema, base } x i path segment s)
            (interpret o (depth' + 1) { root := t.put copy, base } y i path segment s) := by
        rw [interpret_content, interpret_content]
        exact interpretContent_agree hc (fun _ _ hxy => ih depth' hxy) i path segment s
      cases hxy with
      | same hx => exact hagree (content_same hx base)
      | copied hx => exact hagree (content_of_alike hx (alike_copied hcopy hx) base)
      | lists js ks => exact hagree (.notAnObject _)
      | @around layers hx hlayers =>
        cases layers with
        | cons layer layers => exact hagree (content_of_alike hx (alike_around hlayers hx) base)
        | nil =>
          -- the reference leads to the definition, with one level less
          have hdefinition : Within t.schema (.schema (.object t.definition)) := .target t.within_reference rfl t.defined
          refine (ih (depth' + 1) (.copied hdefinition) base i path segment s).congr ?_ rfl
          have hcontent : content { root := t.schema, base } (.schema (fill [] (.object (definitionReference t.name)))) =
              .reference { root := t.schema, base } (definitionUri t.name) := rfl
          have hdefined : t.schema.navigate? (definitionUri t.name) = some (.object t.definition) := t.defined
          rw [interpret_content, hcontent, interpretContent, Scope.resolve, if_pos (isLocal_definitionUri _),
            Scope.resolveLocal, hdefined]
          exact Run.outcome_bind_ok (Run.outcome_ofExcept _)

/-- **A reference may be replaced by a copy of its definition.** The outcome of a check stays the same, unless one of
the two goes too deep. -/
theorem check_inlined (t : Inlining) (hcopy : Copied t.layers t.definition copy) (o : Options) (value : Json)
    (hreference : ∀ path limit, (check o t.schema value).outcome ≠ .error (.depthExceeded path limit))
    (hcopied : ∀ path limit, (check o (t.put copy) value).outcome ≠ .error (.depthExceeded path limit)) :
    (check o t.schema value).outcome = (check o (t.put copy) value).outcome := by
  have hwhole : t.Stands copy (.schema t.schema) (.schema (t.put copy)) := .around .root hcopy
  rcases interpret_agree hcopy o o.maxDepth o.maxDepth hwhole o.baseUri (.present value) "" .here ∅ with
    heq | ⟨f, hf, path, limit, rfl⟩ | ⟨f, hf, path, limit, rfl⟩
  · exact heq
  · exact absurd hf (hreference path limit)
  · exact absurd hf (hcopied path limit)

/-! ## An entry of `properties` -/

/-- A schema with one property, whose schema is a definition, around the reference to it. -/
def propertyLayer (definition : Members) : Layer where
  before := []
  key := "properties"
  gap := .named [] "a" []
  behind := [("definitions", .object [("d", .object definition)])]
  expects := by decide
  first := rfl

/-- The schemas in it are the reference and the definition. -/
theorem keywordPlace_propertyLayer {steps : List Step}
    (h : KeywordPlace ((propertyLayer definition).members (.object (definitionReference "d"))) steps x) :
    x = .schema (.object (definitionReference "d")) ∨ x = .schema (.object definition) := by
  have hkeys : ∀ m ∈ (propertyLayer definition).members (.object (definitionReference "d")), m.1 ∉ schemaKeywords := by
    simp [propertyLayer, Layer.members, schemaKeywords]
  cases h with
  | listed hkey hv => exact absurd hkey (hkeys _ (Json.mem_of_find? hv))
  | extension hv =>
    have hkey : "extends" ∈ schemaKeywords := by decide
    exact absurd hkey (hkeys _ (Json.mem_of_find? hv))
  | @named key entries name j hkey hv hentry =>
    have hmem := Json.mem_of_find? hv
    simp only [Layer.members, propertyLayer, Gap.fill, List.nil_append, List.mem_cons, List.not_mem_nil, or_false,
      Prod.mk.injEq, Json.object.injEq] at hmem
    rcases hmem with ⟨-, rfl⟩ | ⟨-, rfl⟩
    · rw [List.mem_singleton, Prod.mk.injEq] at hentry
      exact Or.inl (congrArg _ hentry.2)
    · rw [List.mem_singleton, Prod.mk.injEq] at hentry
      exact Or.inr (congrArg _ hentry.2)

theorem not_keywordPlace {members : Members} {steps : List Step} (h : ∀ m ∈ members, m.1 ∉ schemaKeywords ++ namedKeywords) :
    ¬ KeywordPlace members steps x := by
  intro hplace
  cases hplace with
  | listed hkey hv => exact h _ (Json.mem_of_find? hv) (List.mem_append_left _ hkey)
  | named hkey hv => exact h _ (Json.mem_of_find? hv) (List.mem_append_right _ hkey)
  | extension hv =>
    have hkey : "extends" ∈ schemaKeywords ++ namedKeywords := by decide
    exact h _ (Json.mem_of_find? hv) hkey

/-- Nothing else belongs to it if the definition holds no schemas. -/
theorem within_propertyLayer (hdefinition : ∀ m ∈ definition, m.1 ∉ "$ref" :: (schemaKeywords ++ namedKeywords))
    (h : Within (fill [propertyLayer definition] (.object (definitionReference "d"))) x) :
    x = .schema (fill [propertyLayer definition] (.object (definitionReference "d"))) ∨
      x = .schema (.object (definitionReference "d")) ∨ x = .schema (.object definition) := by
  induction h with
  | root => exact Or.inl rfl
  | keyword _ hx ih =>
    rcases ih with heq | heq | heq
    · cases heq
      exact Or.inr (keywordPlace_propertyLayer hx)
    · cases heq
      exact absurd hx (not_keywordPlace (by decide))
    · cases heq
      exact absurd hx (not_keywordPlace fun m hm hkey => hdefinition m hm (List.mem_cons_of_mem _ hkey))
  | target _ hx hnode ih =>
    rcases ih with rfl | rfl | rfl
    · cases hx
    · cases hx
      cases hnode
      exact Or.inr (Or.inr rfl)
    · exact absurd List.mem_cons_self (hdefinition _ (Json.mem_of_find? hx))

/-- A property whose schema is a definition that holds no schemas. -/
def onProperty (definition : Members)
    (hdefinition : ∀ m ∈ definition, m.1 ∉ "$ref" :: (schemaKeywords ++ namedKeywords)) : Inlining where
  layers := [propertyLayer definition]
  name := "d"
  definition := definition
  defined := rfl
  outside := by
    rintro layer hlayer
    cases hlayer
    exact show "properties" ≠ "definitions" by decide
  references := by
    intro x uri hx hrefers
    rcases within_propertyLayer hdefinition hx with rfl | rfl | rfl
    · cases hrefers
    · cases hrefers
      exact ⟨"d", rfl, by decide⟩
    · exact absurd List.mem_cons_self (hdefinition _ (Json.mem_of_find? hrefers))

/-- A definition of a string of limited length is inlined. -/
theorem check_inlined_maxLength :
    let t := onProperty [("maxLength", .integer 2)] (by decide)
    let o := Options.withFormats .empty
    let value : Json := .object [("a", .string "xyz")]
    (check o t.schema value).outcome.toOption.map ErrorSet.size = some 1 ∧
      (check o t.schema value).outcome = (check o (t.put t.definition) value).outcome := by
  intro t o value
  have hcopy : Copied t.layers t.definition t.definition :=
    { same := fun _ _ => rfl, requires := fun _ _ _ _ h => nomatch h }
  have hreference : (check o t.schema value).outcome.toOption.map ErrorSet.size = some 1 := by decide +kernel
  have hcopied : (check o (t.put t.definition) value).outcome.toOption.map ErrorSet.size = some 1 := by decide +kernel
  refine ⟨hreference, check_inlined t hcopy o value (fun path limit h => ?_) (fun path limit h => ?_)⟩
  · rw [h] at hreference
    cases hreference
  · rw [h] at hcopied
    cases hcopied

/-- The copy may not always be the definition itself, also if nothing in this depends on the scope: what an entry of
`properties` requires is not looked for behind its reference. -/
theorem not_forall_check_inlined :
    ¬ ∀ (t : Inlining), (Json.object t.definition).dependsOnScope = false → ∀ (o : Options) (value : Json),
      (∀ path limit, (check o t.schema value).outcome ≠ .error (.depthExceeded path limit)) →
      (∀ path limit, (check o (t.put t.definition) value).outcome ≠ .error (.depthExceeded path limit)) →
      (check o t.schema value).outcome = (check o (t.put t.definition) value).outcome := by
  intro h
  let t := onProperty [("requires", .string "b")] (by decide)
  let o := Options.withFormats .empty
  let value : Json := .object [("a", .integer 1)]
  have hreference : (check o t.schema value).outcome.toOption.map ErrorSet.size = some 0 := by decide +kernel
  have hcopied : (check o (t.put t.definition) value).outcome.toOption.map ErrorSet.size = some 1 := by decide +kernel
  have heq := h t (by decide) o value
    (fun path limit hf => by rw [hf] at hreference; cases hreference)
    (fun path limit hf => by rw [hf] at hcopied; cases hcopied)
  rw [heq, hcopied] at hreference
  cases hreference

end Inlining

end JsonSchema
