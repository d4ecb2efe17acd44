import JsonSchema.Plan.Cache
import JsonSchema.Proofs.Plan.Content
import JsonSchema.Proofs.Reference.Place

/-!
# Compiling gives nodes that realize what was read

A compilation goes from one state to a later one: it knows more keys and has asked for more documents. Each node it
finishes does what stands at the place it was made for, whatever the documents are that it did not ask for. So the
node serves for every place with its key, then and later.

## What is here

* `content_eq_of_not_dependsOnScope`, `Realizes.rescope` — where nothing depends on the scope, any scope will do.
* `StandsFor` — a link has the key of a place, and the key is known. `MadeFor` — a node does what stands at a place.
  `MadeFor.serves` — **it does what stands at each place with the same key**.
* `Compilation.Sound` — the invariant; `Compiling.sound`, what is said of the states between which a compilation leads.
* `compileAt_yields` — **compiling a place keeps to the invariant and gives a link that stands for it**.
-/

set_option autoImplicit false

namespace JsonSchema

/-! ## Places that do not depend on the scope -/

section Independence

variable {members : Members}

theorem not_membersDependOnScope {key : String} {v : Json} (h : Json.membersDependOnScope members = false)
    (hmem : (key, v) ∈ members) : v.dependsOnScope = false := by
  induction members with
  | nil => exact absurd hmem (by simp)
  | cons m ms ih =>
    obtain ⟨name, value⟩ := m
    simp only [Json.membersDependOnScope, Bool.or_eq_false_iff] at h
    rcases List.mem_cons.mp hmem with heq | hmem
    · rw [(Prod.mk.inj heq).2]
      exact h.1
    · exact ih h.2 hmem

theorem not_elementsDependOnScope {elements : List Json} {v : Json} (h : Json.elementsDependOnScope elements = false)
    (hmem : v ∈ elements) : v.dependsOnScope = false := by
  induction elements with
  | nil => exact absurd hmem (by simp)
  | cons e es ih =>
    simp only [Json.elementsDependOnScope, Bool.or_eq_false_iff] at h
    rcases List.mem_cons.mp hmem with rfl | hmem
    · exact h.1
    · exact ih h.2 hmem

theorem ListedPlace.not_dependsOnScope {v j : Json} {steps : List Pointer.Step} (hplace : ListedPlace v steps j)
    (h : v.dependsOnScope = false) : j.dependsOnScope = false := by
  induction hplace with
  | here j => exact h
  | element hn _ ih =>
    rw [Json.dependsOnScope] at h
    exact ih (not_elementsDependOnScope h (List.mem_of_getElem? hn))

theorem find?_eq_none_of_hasKey {key : String} (h : Json.hasKey members key = false) :
    Json.find? members key = none := by
  cases hv : Json.find? members key with
  | none => rfl
  | some v =>
    have hany : Json.hasKey members key = true :=
      List.any_eq_true.mpr ⟨(key, v), Json.mem_of_find? hv, beq_self_eq_true key⟩
    rw [h] at hany
    exact nomatch hany

variable (h : (Json.object members).dependsOnScope = false)

include h

theorem not_dependsOnScope_members :
    Json.find? members "$ref" = none ∧ Json.find? members "extends" = none ∧ Json.find? members "id" = none ∧
      Json.membersDependOnScope members = false := by
  rw [Json.dependsOnScope] at h
  simp only [Bool.or_eq_false_iff] at h
  exact ⟨find?_eq_none_of_hasKey h.1.1.1, find?_eq_none_of_hasKey h.1.1.2, find?_eq_none_of_hasKey h.1.2, h.2⟩

/-- Below a schema that does not depend on its scope nothing does. -/
theorem KeywordPlace.not_dependsOnScope {steps : List Pointer.Step} {x : Subschema}
    (hplace : KeywordPlace members steps x) : x.dependsOnScope = false := by
  obtain ⟨-, hextends, -, hmembers⟩ := not_dependsOnScope_members h
  have hvalue {key : String} {v : Json} (hv : Json.find? members key = some v) : v.dependsOnScope = false :=
    not_membersDependOnScope hmembers (Json.mem_of_find? hv)
  cases hplace with
  | listed hkey hv hlisted => exact hlisted.not_dependsOnScope (hvalue hv)
  | named hkey hv hentry =>
    have hentries := hvalue hv
    rw [Json.dependsOnScope] at hentries
    simp only [Bool.or_eq_false_iff] at hentries
    exact not_membersDependOnScope hentries.2 hentry
  | extension hv hlisted =>
    rw [hextends] at hv
    exact nomatch hv

theorem content_eq_of_not_dependsOnScope (scope : Scope) :
    content scope (.schema (.object members)) = .keywords scope (Keywords.parse members) := by
  obtain ⟨href, -, hid, -⟩ := not_dependsOnScope_members h
  have henter : scope.enter members = .ok scope := by
    unfold Scope.enter
    rw [hid]
  rw [content, henter]
  simp only [memberContent, href]

end Independence

/-! ## What links and nodes stand for -/

/-- A property of scopes that entering schemas and following references keeps to. -/
structure Steady (P : Scope → Prop) : Prop where
  enter : ∀ {scope inner members}, P scope → scope.enter members = .ok inner → P inner
  resolve : ∀ {scope : Scope} {library uri target}, P scope → (scope.resolve library uri).outcome = .ok target →
    P target.scope

theorem steady_isNormal : Steady Scope.IsNormal where
  enter := Scope.IsNormal.enter
  resolve := Scope.IsNormal.resolve

theorem steady_true : Steady fun _ => True where
  enter := fun _ _ => trivial
  resolve := fun _ _ => trivial

variable {P : Scope → Prop} {digest : String → String} {library : Library} {keys : List String}

/-- A link stands for a place: it has the key of the place, and the key is known. -/
structure StandsFor (P : Scope → Prop) (digest : String → String) (keys : List String) (scope : Scope) (x : Subschema)
    (link : Link) : Prop where
  steady : P scope
  key : link.key = planKey digest scope x
  known : link.key ∈ keys

/-- Places in a schema depend on the scope only if the schema does. -/
def Inherits (x y : Subschema) : Prop := x.dependsOnScope = false → y.dependsOnScope = false

/-- A link stands for a place in a schema, which depends on the scope only if the schema does. -/
def StandsForIn (P : Scope → Prop) (digest : String → String) (keys : List String) (x : Subschema) (scope : Scope)
    (y : Subschema) (link : Link) : Prop :=
  Inherits x y ∧ StandsFor P digest keys scope y link

/-- A node has been made for a place with the key: it does what stands there. -/
def MadeFor (P : Scope → Prop) (digest : String → String) (keys : List String) (library : Library) (key : String)
    (n : PlanNode) : Prop :=
  ∃ scope x, P scope ∧ planKey digest scope x = key ∧
    Realizes (StandsForIn P digest keys x) library n (content scope x)

theorem StandsFor.mono {more : List String} (hmore : keys ⊆ more) {scope : Scope} {x : Subschema} {link : Link}
    (h : StandsFor P digest keys scope x link) : StandsFor P digest more scope x link :=
  { h with known := hmore h.known }

theorem MadeFor.mono {more : List String} (hmore : keys ⊆ more) {key : String} {n : PlanNode}
    (h : MadeFor P digest keys library key n) : MadeFor P digest more library key n := by
  obtain ⟨scope, x, hscope, hkey, hrealizes⟩ := h
  exact ⟨scope, x, hscope, hkey, hrealizes.mono fun _ _ _ hlink => ⟨hlink.1, hlink.2.mono hmore⟩⟩

/-- The links of a node that has been made lead to known keys. -/
theorem MadeFor.mem_keys_of_mem_links {key : String} {n : PlanNode} (h : MadeFor P digest keys library key n)
    {link : Link} (hlink : link ∈ n.links) : link.key ∈ keys := by
  obtain ⟨scope, x, -, -, hrealizes⟩ := h
  obtain ⟨_, _, -, hstands⟩ := hrealizes.exists_of_mem_links hlink
  exact hstands.known

/-- The key of a place where nothing depends on the scope is the same in all scopes. -/
theorem planKey_eq_of_not_dependsOnScope {x : Subschema} (h : x.dependsOnScope = false) (s t : Scope) :
    planKey digest s x = planKey digest t x := by
  cases x with
  | schema j =>
    have hj : j.dependsOnScope = false := h
    rw [planKey, planKey, keyText, keyText, hj]
    rfl
  | reference uri => cases h

/-- Where nothing depends on the scope, what has been made in one scope serves in all. -/
theorem Realizes.rescope {x : Subschema} (hx : x.dependsOnScope = false) {s t : Scope} (ht : P t)
    {n : PlanNode} (h : Realizes (StandsForIn P digest keys x) library n (content s x)) :
    Realizes (StandsFor P digest keys) library n (content t x) := by
  cases x with
  | reference uri => exact nomatch hx
  | schema j =>
    cases j with
    | object members =>
      rw [content_eq_of_not_dependsOnScope hx] at h ⊢
      cases h with
      | keywords h =>
        refine .keywords (h.mono fun y link hlink => ?_)
        have hkey : planKey digest s y = planKey digest t y := planKey_eq_of_not_dependsOnScope (hlink.1 hx) s t
        exact { steady := ht, key := hlink.2.key.trans hkey, known := hlink.2.known }
    | null =>
      cases h
      exact .accept
    | bool b =>
      cases b <;> cases h
      · exact .notAnObject _
      · exact .accept
    | _ =>
      cases h
      exact .notAnObject _

/-- A node that has been made for one place with a key serves for all of them. -/
theorem MadeFor.serves (hd : TellsApart digest) {key : String} {n : PlanNode}
    (h : MadeFor Scope.IsNormal digest keys library key n) {scope : Scope} {x : Subschema} (hscope : scope.IsNormal)
    (hkey : planKey digest scope x = key) :
    Realizes (StandsFor Scope.IsNormal digest keys) library n (content scope x) := by
  obtain ⟨made, y, hmade, hmadeKey, hrealizes⟩ := h
  obtain ⟨rfl, hsame⟩ := eq_of_planKey hd hscope hmade (hkey.trans hmadeKey.symm)
  cases hx : x.dependsOnScope with
  | false => exact hrealizes.rescope hx hscope
  | true =>
    rw [hsame hx]
    exact hrealizes.mono fun _ _ _ hlink => hlink.2

/-! ## The invariant of a compilation -/

namespace Compilation

/-- The keys that are known: of stored nodes, of finished ones, and those in progress. -/
def known (stored : PlanTable) (c : Compilation) : List String :=
  stored.map (·.1) ++ c.fresh.map (·.1) ++ c.inProgress

/-- The documents that have been asked for are supplied alike. -/
def SameDocuments (c : Compilation) (library library' : Library) : Prop :=
  ∀ location ∈ c.requests, library' location = library location

/-- Each finished node has been made for a place with its key, and does what stands there with any library that supplies
the documents that have been asked for; and they were all there, unless one was missed. -/
structure Sound (P : Scope → Prop) (digest : String → String) (o : Options) (stored : PlanTable) (c : Compilation) : Prop where
  made : ∀ key n, (key, n) ∈ c.fresh → ∀ library, c.SameDocuments o.library library →
    MadeFor P digest (c.known stored) library key n
  supplied : c.missed = false → ∀ location ∈ c.requests, ∃ document, o.library location = .ok document

/-- A later state: more is known, more documents have been asked for, and the same is in progress. -/
structure Later (stored : PlanTable) (c d : Compilation) : Prop where
  known : c.known stored ⊆ d.known stored
  requests : c.requests ⊆ d.requests
  inProgress : d.inProgress = c.inProgress

variable {o : Options} {stored : PlanTable} {c d e : Compilation}

theorem SameDocuments.of_subset {library library' : Library} (h : d.SameDocuments library library')
    (hsub : c.requests ⊆ d.requests) : c.SameDocuments library library' :=
  fun location hlocation => h location (hsub hlocation)

theorem Later.refl (c : Compilation) : Later stored c c := ⟨List.Subset.refl _, List.Subset.refl _, rfl⟩

theorem Later.trans (hcd : Later stored c d) (hde : Later stored d e) : Later stored c e :=
  ⟨List.Subset.trans hcd.known hde.known, List.Subset.trans hcd.requests hde.requests,
    hde.inProgress.trans hcd.inProgress⟩

theorem Sound.start : Sound P digest o stored .start where
  made := by
    intro key n h
    exact absurd h (by simp [Compilation.start])
  supplied := by
    intro _ location h
    exact absurd h (by simp [Compilation.start])

/-! ### The steps -/

theorem known_subset_begin (key : String) : c.known stored ⊆ (c.begin key).known stored := by
  intro k hk
  simp only [known, begin, List.mem_append, List.mem_cons] at hk ⊢
  rcases hk with hk | hk
  · exact Or.inl hk
  · exact Or.inr (Or.inr hk)

theorem Sound.begin (h : Sound P digest o stored c) (key : String) : Sound P digest o stored (c.begin key) where
  made := fun k n hk library hlibrary => (h.made k n hk library hlibrary).mono (known_subset_begin key)
  supplied := h.supplied

theorem known_subset_finish (key : String) (n : PlanNode) : c.known stored ⊆ (c.finish key n).known stored := by
  intro k hk
  simp only [known, finish, List.mem_append, List.map_append, List.map_cons, List.map_nil, List.mem_singleton]
    at hk ⊢
  rcases hk with (hk | hk) | hk
  · exact Or.inl (Or.inl hk)
  · exact Or.inl (Or.inr (Or.inl hk))
  · by_cases heq : k = key
    · exact Or.inl (Or.inr (Or.inr heq))
    · exact Or.inr ((List.mem_erase_of_ne heq).mpr hk)

theorem mem_known_finish (key : String) (n : PlanNode) : key ∈ (c.finish key n).known stored := by
  simp [known, finish]

theorem Sound.finish (h : Sound P digest o stored c) {key : String} {n : PlanNode}
    (hn : ∀ library, c.SameDocuments o.library library → MadeFor P digest (c.known stored) library key n) :
    Sound P digest o stored (c.finish key n) where
  made := by
    intro k m hk library hlibrary
    have hsub : c.known stored ⊆ (c.finish key n).known stored := known_subset_finish key n
    rcases List.mem_append.mp hk with hk | hk
    · exact (h.made k m hk library hlibrary).mono hsub
    · obtain ⟨rfl, rfl⟩ := Prod.mk.inj (List.mem_singleton.mp hk)
      exact (hn library hlibrary).mono hsub
  supplied := h.supplied

/-- What has been begun and finished is as it was before, apart from the new node. -/
theorem Later.finish {key : String} {n : PlanNode} (h : Later stored (c.begin key) d) :
    Later stored c (d.finish key n) where
  known := List.Subset.trans (known_subset_begin key) (List.Subset.trans h.known (known_subset_finish key n))
  requests := h.requests
  inProgress := by
    show d.inProgress.erase key = c.inProgress
    rw [h.inProgress]
    exact List.erase_cons_head key c.inProgress

/-- A resolution that fails for want of a document is noted. -/
theorem Sound.note (h : Sound P digest o stored c) (scope : Scope) (uri : String) :
    Sound P digest o stored (c.note uri (scope.resolve o.library uri)) where
  made := by
    intro key n hn library hlibrary
    exact h.made key n hn library (hlibrary.of_subset (List.subset_append_left _ _))
  supplied := by
    intro hmissed location hlocation
    simp only [Compilation.note, Bool.or_eq_false_iff] at hmissed
    rcases List.mem_append.mp hlocation with hlocation | hlocation
    · exact h.supplied hmissed.1 location hlocation
    · have hfailed := hmissed.2
      unfold Scope.resolve at hlocation hfailed
      by_cases hlocal : Scope.isLocal uri = true
      · rw [if_pos hlocal] at hlocation
        exact absurd hlocation (by simp [Run.ofExcept])
      · rw [if_neg hlocal] at hlocation hfailed
        cases hsplit : Scope.split scope.base uri with
        | error f =>
          rw [hsplit] at hlocation
          exact absurd hlocation (by simp [Run.fail])
        | ok r =>
          rw [hsplit] at hlocation hfailed
          have heq : location = r.location := by simpa [Run.requesting] using hlocation
          rw [heq]
          cases hanswer : o.library r.location with
          | ok document => exact ⟨document, rfl⟩
          | error e =>
            simp only [Run.outcome_requesting, Scope.Reference.follow, hanswer] at hfailed
            simp [hlocal] at hfailed

theorem Later.note (uri : String) (run : Run Target) : Later stored c (c.note uri run) :=
  ⟨List.Subset.refl _, List.subset_append_left _ _, rfl⟩

end Compilation

/-! ## Compiling -/

namespace Compiling

open Compilation

variable {α β : Type}

/-- What a step of a compilation gives from a state. -/
def result (p : Compiling α) (c : Compilation) : Except Fault α × Compilation := p.run.run c

theorem result_pure (a : α) (c : Compilation) : result (pure a) c = (.ok a, c) := rfl

theorem result_get (c : Compilation) : result (get : Compiling Compilation) c = (.ok c, c) := rfl

theorem result_modify (f : Compilation → Compilation) (c : Compilation) :
    result (modify f : Compiling PUnit) c = (.ok PUnit.unit, f c) := rfl

theorem result_bind (p : Compiling α) (f : α → Compiling β) (c : Compilation) :
    result (p >>= f) c = match result p c with
      | (.ok a, d) => result (f a) d
      | (.error e, d) => (.error e, d) := by
  unfold result ExceptT.run StateT.run
  simp only [bind, ExceptT.bind, ExceptT.mk, StateT.bind, ExceptT.bindCont]
  rcases p c with ⟨_ | a, d⟩ <;> rfl

theorem result_bind_eq_ok {p : Compiling α} {f : α → Compiling β} {c e : Compilation} {b : β}
    (h : result (p >>= f) c = (.ok b, e)) : ∃ a d, result p c = (.ok a, d) ∧ result (f a) d = (.ok b, e) := by
  rw [result_bind] at h
  rcases hp : result p c with ⟨_ | a, d⟩
  · rw [hp] at h
    exact nomatch (Prod.mk.inj h).1
  · rw [hp] at h
    exact ⟨a, d, rfl, h⟩

/-- Compiling leads, if it does not fail, from a sound state to a later sound one. -/
def sound (P : Scope → Prop) (digest : String → String) (o : Options) (stored : PlanTable) : Guarantee Compiling Compilation where
  Later := Later stored
  trans := Later.trans
  Yields := fun c p Q =>
    c.Sound P digest o stored → ∀ a d, result p c = (.ok a, d) → d.Sound P digest o stored ∧ Later stored c d ∧ Q d a
  pure := by
    intro α c a Q hQ hc a' d hrun
    obtain ⟨ha, rfl⟩ := Prod.mk.inj hrun
    cases ha
    exact ⟨hc, Later.refl c, hQ⟩
  bind := by
    intro α β c p f Q Q' hp hf hc b e hrun
    obtain ⟨a, d, hmiddle, hend⟩ := result_bind_eq_ok hrun
    obtain ⟨hd, hcd, hQ⟩ := hp hc a d hmiddle
    obtain ⟨he, hde, hQ'⟩ := hf d a hcd hQ hd b e hend
    exact ⟨he, hcd.trans hde, hQ'⟩

variable {o : Options} {stored : PlanTable} {next : Scope → Subschema → Compiling Link}

/-- Whether a way to compile places gives links that stand for them. -/
def MakesLinks (P : Scope → Prop) (digest : String → String) (o : Options) (stored : PlanTable)
    (next : Scope → Subschema → Compiling Link) : Prop :=
  ∀ scope x, P scope → ∀ c, (sound P digest o stored).Yields c (next scope x) fun d link =>
    StandsFor P digest (d.known stored) scope x link

/-- A node does what a content says, with any library that supplies the documents that have been asked for. -/
def Does (P : Scope → Prop) (digest : String → String) (o : Options) (stored : PlanTable) (x : Subschema) (content : Content)
    (c : Compilation) (n : PlanNode) : Prop :=
  ∀ library, c.SameDocuments o.library library → Realizes (StandsForIn P digest (c.known stored) x) library n content

theorem reference_yields (hP : Steady P) (hnext : MakesLinks P digest o stored next) {scope : Scope} (hscope : P scope)
    {uri : String} {x : Subschema} (hx : x.dependsOnScope = true) (c : Compilation) :
    (sound P digest o stored).Yields c (reference o next scope uri) (Does P digest o stored x (.reference scope uri)) := by
  intro hc n e hrun
  have hnoted := hc.note scope uri
  have hlater : Later stored c (c.note uri (scope.resolve o.library uri)) := Later.note uri _
  -- what has been resolved is resolved alike with any library that agrees on what was asked for
  have hsame {d : Compilation} (hd : Later stored (c.note uri (scope.resolve o.library uri)) d) {library : Library}
      (hlibrary : d.SameDocuments o.library library) :
      scope.resolve library uri = scope.resolve o.library uri :=
    scope.resolve_congr uri fun location hlocation =>
      hlibrary location (hd.requests (List.mem_append_right _ hlocation))
  unfold reference at hrun
  dsimp only at hrun
  obtain ⟨u, d, hmodify, hrun⟩ := result_bind_eq_ok hrun
  obtain ⟨-, rfl⟩ := Prod.mk.inj ((result_modify _ c).symm.trans hmodify)
  split at hrun
  · rename_i f hfailed
    obtain ⟨hn, rfl⟩ := Prod.mk.inj hrun
    cases hn
    refine ⟨hnoted, hlater, fun library hlibrary => .unresolved ?_⟩
    rw [hsame (Later.refl _) hlibrary]
    exact hfailed
  · rename_i target htarget
    obtain ⟨link, d, hlink, hrun⟩ := result_bind_eq_ok hrun
    obtain ⟨hn, rfl⟩ := Prod.mk.inj hrun
    cases hn
    obtain ⟨hd, hcd, hstands⟩ := hnext _ _ (hP.resolve hscope htarget) _ hnoted link d hlink
    refine ⟨hd, hlater.trans hcd, fun library hlibrary => .reference ?_ ⟨?_, hstands⟩⟩
    · rw [hsame hcd hlibrary]
      exact htarget
    · intro hindependent
      rw [hx] at hindependent
      exact nomatch hindependent

theorem keywords_yields (hnext : MakesLinks P digest o stored next) {scope : Scope} (hscope : P scope)
    {k : Keywords Subschema} {x : Subschema} (hk : k.All (Inherits x)) (c : Compilation) :
    (sound P digest o stored).Yields c (do return .keywords (← k.traverse (next scope)))
      (Does P digest o stored x (.keywords scope k)) := by
  have hkeeps : (sound P digest o stored).Keeps fun d y link => StandsForIn P digest (d.known stored) x scope y link :=
    fun _ _ _ _ hlater hlink => ⟨hlink.1, hlink.2.mono hlater.known⟩
  have hlink (d : Compilation) (y z : Subschema) (hyz : y = z ∧ Inherits x y) :
      (sound P digest o stored).Yields d (next scope z) fun e link => StandsForIn P digest (e.known stored) x scope z link := by
    intro hd link e hrun
    obtain ⟨he, hde, hstands⟩ := hnext scope z hscope d hd link e hrun
    exact ⟨he, hde, hyz.1 ▸ hyz.2, hstands⟩
  refine (sound P digest o stored).bind (Keywords.traverse_yields _ hkeeps hlink hk c) fun d l _ hl => ?_
  exact (sound P digest o stored).pure fun library _ => .keywords hl

/-- A reference is read in a scope with the property, and depends on it. -/
theorem reference_of_content (hP : Steady P) {scope inner : Scope} (hscope : P scope) {x : Subschema} {uri : String}
    (h : content scope x = .reference inner uri) : P inner ∧ x.dependsOnScope = true := by
  rcases content_eq_reference h with ⟨rfl, rfl⟩ | ⟨members, rfl, henter, href⟩
  · exact ⟨hscope, rfl⟩
  · refine ⟨hP.enter hscope henter, ?_⟩
    cases hmembers : (Subschema.schema (.object members)).dependsOnScope with
    | true => rfl
    | false =>
      rw [(not_dependsOnScope_members hmembers).1] at href
      exact nomatch href

/-- Keywords are read in a scope with the property, and no schema in them depends on it if the whole does not. -/
theorem keywords_of_content (hP : Steady P) {scope inner : Scope} (hscope : P scope) {x : Subschema} {k : Keywords Subschema}
    (h : content scope x = .keywords inner k) : P inner ∧ k.All (Inherits x) := by
  obtain ⟨members, rfl, henter, rfl⟩ := content_eq_keywords h
  exact ⟨hP.enter hscope henter, Keywords.parse_all fun _ _ hplace hmembers => hplace.not_dependsOnScope hmembers⟩

/-- Compiling what stands at a place gives a node that does it. -/
theorem node_yields (hP : Steady P) (hnext : MakesLinks P digest o stored next) {scope : Scope} (hscope : P scope)
    (x : Subschema) (c : Compilation) :
    (sound P digest o stored).Yields c (node o next scope x) (Does P digest o stored x (content scope x)) := by
  rw [node_eq]
  cases hcontent : content scope x with
  | accept => exact (sound P digest o stored).pure fun library _ => .accept
  | notAnObject kind => exact (sound P digest o stored).pure fun library _ => .notAnObject kind
  | fault f => exact (sound P digest o stored).pure fun library _ => .fault f
  | reference inner uri =>
    obtain ⟨hinner, hx⟩ := reference_of_content hP hscope hcontent
    exact reference_yields hP hnext hinner hx c
  | keywords inner k =>
    obtain ⟨hinner, hk⟩ := keywords_of_content hP hscope hcontent
    exact keywords_yields hnext hinner hk c

end Compiling

open Compilation Compiling

variable {o : Options} {stored : PlanTable}

/-- The keys of a table are those under which there is a node. -/
theorem mem_keys_iff {t : PlanTable} {key : String} : key ∈ t.map (·.1) ↔ (t.lookup key).isSome = true := by
  simp only [List.lookup_isSome_iff, List.mem_map, beq_iff_eq]
  exact ⟨fun ⟨m, hm, heq⟩ => ⟨m, hm, heq.symm⟩, fun ⟨m, hm, heq⟩ => ⟨m, hm, heq.symm⟩⟩

/-- The link to a known key has that key. -/
theorem Compilation.link?_eq_some {c : Compilation} {key : String} {link : Link} (h : c.link? stored key = some link) :
    link.key = key ∧ key ∈ c.known stored := by
  unfold Compilation.link? at h
  split at h
  · rename_i hsome
    cases h
    refine ⟨rfl, ?_⟩
    rw [Option.isSome_or, Bool.or_eq_true] at hsome
    rcases hsome with hstored | hfresh
    · exact List.mem_append_left _ (List.mem_append_left _ (mem_keys_iff.mpr hstored))
    · exact List.mem_append_left _ (List.mem_append_right _ (mem_keys_iff.mpr hfresh))
  · split at h
    · rename_i hprogress
      cases h
      exact ⟨rfl, List.mem_append_right _ (List.contains_iff_mem.mp hprogress)⟩
    · exact nomatch h

/-- Compiling a place whose key is known gives the link to it. -/
theorem result_compileAt_of_known {depth : Nat} {scope : Scope} {x : Subschema} {c : Compilation} {link : Link}
    (h : c.link? stored (planKey digest scope x) = some link) :
    result (compileAt digest o stored depth scope x) c = (.ok link, c) := by
  cases depth <;>
  · rw [compileAt]
    simp only [result_bind, result_get, h, result_pure]

/-- Compiling any other place makes a node, as long as there are levels left. -/
theorem result_compileAt_of_unknown {depth : Nat} {scope : Scope} {x : Subschema} {c e : Compilation} {link : Link}
    (h : c.link? stored (planKey digest scope x) = none)
    (hrun : result (compileAt digest o stored depth scope x) c = (.ok link, e)) :
    ∃ depth' n d, depth = depth' + 1 ∧
      result (Compiling.node o (compileAt digest o stored depth') scope x) (c.begin (planKey digest scope x)) =
        (.ok n, d) ∧
      link = .strong (planKey digest scope x) ∧ e = d.finish (planKey digest scope x) n := by
  cases depth with
  | zero =>
    rw [compileAt] at hrun
    simp only [result_bind, result_get, h] at hrun
    exact nomatch (Prod.mk.inj hrun).1
  | succ depth =>
    rw [compileAt] at hrun
    simp only [result_bind, result_get, h, result_modify] at hrun
    rcases hnode : result (Compiling.node o (compileAt digest o stored depth) scope x)
      (c.begin (planKey digest scope x)) with ⟨_ | n, d⟩
    · rw [hnode] at hrun
      exact nomatch (Prod.mk.inj hrun).1
    · rw [hnode] at hrun
      obtain ⟨hlink, rfl⟩ := Prod.mk.inj hrun
      cases hlink
      exact ⟨depth, n, d, rfl, hnode, rfl, rfl⟩

/-- **Compiling a place keeps to the invariant and gives a link that stands for it.** -/
theorem compileAt_yields (hP : Steady P) (depth : Nat) :
    MakesLinks P digest o stored (compileAt digest o stored depth) := by
  induction depth using Nat.strong_induction_on with
  | _ depth ih =>
    intro scope x hscope c hc link e hrun
    cases hknown : c.link? stored (planKey digest scope x) with
    | some found =>
      rw [result_compileAt_of_known hknown] at hrun
      obtain ⟨hlink, rfl⟩ := Prod.mk.inj hrun
      cases hlink
      obtain ⟨hkey, hmem⟩ := Compilation.link?_eq_some hknown
      exact ⟨hc, Later.refl _, ⟨hscope, hkey, hkey ▸ hmem⟩⟩
    | none =>
      obtain ⟨depth', n, d, rfl, hnode, rfl, rfl⟩ := result_compileAt_of_unknown hknown hrun
      have hnext : MakesLinks P digest o stored (compileAt digest o stored depth') := ih depth' (Nat.lt_succ_self _)
      obtain ⟨hsound, hlater, hdoes⟩ := node_yields hP hnext hscope x _ (hc.begin _) n d hnode
      refine ⟨hsound.finish fun library hlibrary => ?_, hlater.finish, ⟨hscope, rfl, mem_known_finish _ _⟩⟩
      exact ⟨scope, x, hscope, rfl, hdoes library hlibrary⟩

end JsonSchema
