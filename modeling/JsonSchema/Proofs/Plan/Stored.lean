import JsonSchema.Proofs.Plan.Recursion

/-!
# What a cache holds

A cache takes the plans of a schema as a whole: the plan of the schema, those of all places that can be reached from
there, and no others. It passes over what it holds already, so it matters that whatever can be reached from a plan that
is held is held as well.

## What is here

* `Keywords.parse_congr`, `needs_reference_iff` — a schema object does not lead to its definitions, and one with a
  reference leads nowhere else.
* `PlanTable.Made.reachableKeys_subset` — **a table that holds a place holds all that can be reached from it**.
* `PlanCache.mem_keys_compile_iff` — compiling a schema adds the keys that can be reached from it.
* `PlanCache.store_contents` — **what a cache holds after all calls**, and that it is the same in any order.
-/

set_option autoImplicit false

namespace JsonSchema

open Compilation Compiling

variable {digest : String → String} {library : Library} {s t : Scope} {x y z : Subschema} {members : Members}

/-! ## Where a schema object leads -/

/-- What schema objects say does not depend on their definitions. -/
theorem Keywords.parse_congr {k l : Members} (h : ∀ key ≠ "definitions", Json.find? k key = Json.find? l key) :
    Keywords.parse k = Keywords.parse l := by
  have hsome (key : String) (hkey : key ≠ "definitions") : Json.findSome? k key = Json.findSome? l key := by
    rw [Json.findSome?, Json.findSome?, h key hkey]
  have hconditions : Conditions.parse k = Conditions.parse l := by
    simp (disch := decide) only [Conditions.parse, h, hsome]
  have hcombinators : Combinators.parse k = Combinators.parse l := by
    simp (disch := decide) only [Combinators.parse, h]
  have hproperties : PropertyRules.parse? k = PropertyRules.parse? l := by
    simp (disch := decide) only [PropertyRules.parse?, h, hsome]
  have helements : ElementRules.parse k = ElementRules.parse l := by
    simp (disch := decide) only [ElementRules.parse, h]
  have htext : TextRules.parse k = TextRules.parse l := by
    simp (disch := decide) only [TextRules.parse, h]
  have hnumber : NumberRules.parse k = NumberRules.parse l := by
    simp (disch := decide) only [NumberRules.parse, h]
  have hformat : formatOf k = formatOf l := by rw [formatOf, formatOf, h "format" (by decide)]
  have henumeration (asks : Bool) : Enumeration.parse? k asks = Enumeration.parse? l asks := by
    simp (disch := decide) only [Enumeration.parse?, hsome]
  simp only [Keywords.parse, hconditions, hcombinators, hproperties, helements, htext, hnumber, hformat, henumeration]

/-- A schema object with a reference needs the target of the reference and nothing else. -/
theorem needs_reference_iff {uri : String} (href : Json.find? members "$ref" = some (.string uri)) :
    Needs library s (.schema (.object members)) t z ↔
      ∃ inner target, s.enter members = .ok inner ∧ (inner.resolve library uri).outcome = .ok target ∧
        t = target.scope ∧ z = .schema target.node := by
  have hcontent {inner : Scope} (henter : s.enter members = .ok inner) :
      content s (.schema (.object members)) = .reference inner uri := by
    rw [content, henter]
    simp only [memberContent, href]
  constructor
  · intro h
    cases henter : s.enter members with
    | error f =>
      have hfault : content s (.schema (.object members)) = .fault f := by rw [content, henter]
      cases h with
      | keyword hx _ => cases hfault.symm.trans hx
      | target hx _ => cases hfault.symm.trans hx
    | ok inner =>
      cases h with
      | keyword hx _ => cases (hcontent henter).symm.trans hx
      | target hx htarget =>
        cases (hcontent henter).symm.trans hx
        exact ⟨_, _, rfl, htarget, rfl, rfl⟩
  · rintro ⟨inner, target, henter, htarget, rfl, rfl⟩
    exact .target (hcontent henter) htarget

/-- What a schema object needs does not depend on its definitions. -/
theorem needs_congr {k l : Members} (h : ∀ key ≠ "definitions", Json.find? k key = Json.find? l key) :
    Needs library s (.schema (.object k)) t z ↔ Needs library s (.schema (.object l)) t z := by
  have hcontent : content s (.schema (.object k)) = content s (.schema (.object l)) := by
    have henter : s.enter k = s.enter l := by rw [Scope.enter, Scope.enter, h "id" (by decide)]
    rw [content, content, henter]
    split
    · rfl
    · rw [memberContent, memberContent, h "$ref" (by decide), Keywords.parse_congr h]
  constructor
  · intro hz
    cases hz with
    | keyword hx hy => exact .keyword (hcontent ▸ hx) hy
    | target hx htarget => exact .target (hcontent ▸ hx) htarget
  · intro hz
    cases hz with
    | keyword hx hy => exact .keyword (hcontent ▸ hx) hy
    | target hx htarget => exact .target (hcontent ▸ hx) htarget

/-! ## Tables are closed -/

/-- Each handle of keywords is related to some handle of keywords that say the same. -/
theorem Keywords.exists_rel_of_mem_handles {S T : Type} {R : S → T → Prop} {k : Keywords S} {l : Keywords T}
    (h : Keywords.Rel R k l) {x : S} (hx : x ∈ k.handles) : ∃ y, R x y := by
  have hself : Keywords.Rel (fun x x' => x = x' ∧ ∃ y, R x y) k k := h.left fun x y hxy => ⟨rfl, y, hxy⟩
  obtain ⟨x', rfl, hy⟩ := Keywords.exists_of_mem_handles hself hx
  exact hy

namespace PlanTable.Made

variable {table : PlanTable}

/-- A table that holds a place holds what it needs. -/
theorem mem_keys_of_needs (hd : TellsApart digest) (h : PlanTable.Made Scope.IsNormal digest library table)
    (hs : s.IsNormal) (hy : planKey digest s y ∈ table.map (·.1)) (hz : Needs library s y t z) :
    planKey digest t z ∈ table.map (·.1) := by
  obtain ⟨n, -, hn⟩ := exists_lookup_of_mem_keys hy
  -- the node was made for some place with the key, and does what stands at this one too
  have hrealizes := (h _ n hn).serves hd hs rfl
  cases hz with
  | keyword hx hz =>
    rw [hx] at hrealizes
    cases hrealizes with
    | keywords hrel =>
      obtain ⟨link, hlink⟩ := Keywords.exists_rel_of_mem_handles hrel hz
      exact hlink.key ▸ hlink.known
  | target hx htarget =>
    rw [hx] at hrealizes
    cases hrealizes with
    | unresolved hfailed => exact nomatch hfailed.symm.trans htarget
    | reference htarget' hlink =>
      cases htarget'.symm.trans htarget
      exact hlink.key ▸ hlink.known

/-- **A table that holds a place holds all that can be reached from it.** -/
theorem reachableKeys_subset (hd : TellsApart digest) (h : PlanTable.Made Scope.IsNormal digest library table)
    (hs : s.IsNormal) (hx : planKey digest s x ∈ table.map (·.1)) {key : String}
    (hkey : key ∈ reachableKeys digest library s x) : key ∈ table.map (·.1) := by
  obtain ⟨t, y, hreach, rfl⟩ := hkey
  induction hreach with
  | here => exact hx
  | next hreach hz ih => exact h.mem_keys_of_needs hd (hreach.steady steady_isNormal hs) ih hz

end PlanTable.Made

/-! ## Caches -/

/-- The options have the documents of a library, and a base as reading gives it. -/
structure Options.Uses (o : Options) (library : Library) : Prop where
  library : o.library = library
  base : ∀ base, o.baseUri = some base → base.IsNormal

namespace PlanCache

variable {c : PlanCache} {o : Options} {schema : Json} {p : CompiledPlan} {key : String}

/-- With the documents of a library, compiling keeps a table made for it. -/
theorem made_compile (ho : o.Uses library) (hc : PlanTable.Made Scope.IsNormal digest library c.table) :
    PlanTable.Made Scope.IsNormal digest library (c.compile digest o schema).2.table := by
  rcases compile_table digest c o schema with heq | ⟨root, done, hrun, -, htable⟩
  · rw [heq]
    exact hc
  · obtain ⟨hdone, hknown, -⟩ := compilation_spec steady_isNormal ho.base hrun
    rw [htable]
    refine hc.append hdone hknown fun location _ => ?_
    rw [ho.library]

/-- New keys are those of places that can be reached from the schema. -/
theorem mem_schemaKeys_of_mem_compile (hkey : key ∈ (c.compile digest o schema).2.table.map (·.1))
    (hnew : key ∉ c.table.map (·.1)) : key ∈ schemaKeys digest o.library o.baseUri schema := by
  rcases compile_table digest c o schema with heq | ⟨root, done, hrun, -, htable⟩
  · exact absurd (heq ▸ hkey) hnew
  · have hfresh : key ∈ done.freshKeys := by
      rw [htable, List.map_append] at hkey
      exact (List.mem_append.mp hkey).resolve_left hnew
    obtain ⟨a, ha, -, rfl⟩ := exists_of_mem_begun ((fresh_perm_begun hrun).perm.subset hfresh)
    exact (reachable_of_mem_arrivals ha).mem_reachableKeys

/-- **Compiling a schema adds the keys that can be reached from it**, and no others. -/
theorem mem_keys_compile_iff (hd : TellsApart digest) (ho : o.Uses library)
    (hc : PlanTable.Made Scope.IsNormal digest library c.table) (h : c.Compiles digest o schema p) :
    key ∈ (c.compile digest o schema).2.table.map (·.1) ↔
      key ∈ c.table.map (·.1) ∨ key ∈ schemaKeys digest library o.baseUri schema := by
  constructor
  · intro hkey
    by_cases hold : key ∈ c.table.map (·.1)
    · exact .inl hold
    · exact .inr (ho.library ▸ mem_schemaKeys_of_mem_compile hkey hold)
  · rintro (hkey | hkey)
    · exact ((table_prefix_compile digest c o schema).map _).subset hkey
    · have hroot : planKey digest { root := schema, base := o.baseUri } (.schema schema) ∈
          (c.compile digest o schema).2.table.map (·.1) := root_eq_of_compile h.outcome ▸ h.runsFrom.mem_keys
      have hnormal : Scope.IsNormal { root := schema, base := o.baseUri } := ho.base
      exact (made_compile ho hc).reachableKeys_subset hd hnormal hroot hkey

/-- Each of several calls in turn gives a handle and fetches everything. -/
def EachCompiles (digest : String → String) (c : PlanCache) : List (Options × Json) → Prop
  | [] => True
  | (o, schema) :: calls =>
    (∃ p, c.Compiles digest o schema p) ∧ EachCompiles digest (c.compile digest o schema).2 calls

/-- What a call is about: the schema and its base. -/
def source (call : Options × Json) : Json × Option Url := (call.2, call.1.baseUri)

theorem made_after {calls : List (Options × Json)} (hcalls : ∀ call ∈ calls, call.1.Uses library)
    (hc : PlanTable.Made Scope.IsNormal digest library c.table) :
    PlanTable.Made Scope.IsNormal digest library (c.after digest calls).table := by
  induction calls generalizing c with
  | nil => exact hc
  | cons call calls ih =>
    exact ih (fun call h => hcalls call (List.mem_cons_of_mem _ h)) (made_compile (hcalls call List.mem_cons_self) hc)

/-- What calls have added, if each of them gave a handle and fetched everything. -/
theorem mem_keys_after_iff (hd : TellsApart digest) {calls : List (Options × Json)}
    (hcalls : ∀ call ∈ calls, call.1.Uses library) (hc : PlanTable.Made Scope.IsNormal digest library c.table)
    (h : c.EachCompiles digest calls) :
    key ∈ (c.after digest calls).table.map (·.1) ↔
      key ∈ c.table.map (·.1) ∨ ∃ call ∈ calls.map source, key ∈ schemaKeys digest library call.2 call.1 := by
  induction calls generalizing c with
  | nil => simp [after]
  | cons call calls ih =>
    obtain ⟨⟨p, hp⟩, hrest⟩ := h
    have hcall := hcalls call List.mem_cons_self
    have hadded : key ∈ (c.compile digest call.1 call.2).2.table.map (·.1) ↔
        key ∈ c.table.map (·.1) ∨ key ∈ schemaKeys digest library call.1.baseUri call.2 :=
      mem_keys_compile_iff hd hcall hc hp
    have hmore := ih (fun call h => hcalls call (List.mem_cons_of_mem _ h)) (made_compile hcall hc) hrest
    rw [List.map_cons, List.exists_mem_cons_iff, ← or_assoc]
    exact hmore.trans (or_congr_left hadded)

theorem made_empty : PlanTable.Made Scope.IsNormal digest library PlanCache.empty.table :=
  fun _ _ hmem => absurd hmem List.not_mem_nil

/-- **What a cache holds.** All calls have the documents of one library. After any of them, a call that gives a handle
and fetches everything adds the keys of the places that can be reached from its schema, and no others; a schema object
with a reference leads to the target only, and none leads to its definitions. So if each of several calls gives a
handle and fetches everything, it does not matter in which order they are made: with the same schemas and bases, the
cache holds the same keys. -/
theorem store_contents (hd : TellsApart digest) (library : Library) :
    (∀ calls : List (Options × Json), (∀ call ∈ calls, call.1.Uses library) →
      ∀ o schema p, o.Uses library → (PlanCache.empty.after digest calls).Compiles digest o schema p →
        ∀ key, key ∈ ((PlanCache.empty.after digest calls).compile digest o schema).2.table.map (·.1) ↔
          key ∈ (PlanCache.empty.after digest calls).table.map (·.1) ∨ key ∈ schemaKeys digest library o.baseUri schema) ∧
    (∀ s members uri t z, Json.find? members "$ref" = some (.string uri) →
      Needs library s (.schema (.object members)) t z →
        ∃ inner target, s.enter members = .ok inner ∧ (inner.resolve library uri).outcome = .ok target ∧
          t = target.scope ∧ z = .schema target.node) ∧
    (∀ s k l t z, (∀ key ≠ "definitions", Json.find? k key = Json.find? l key) →
      (Needs library s (.schema (.object k)) t z ↔ Needs library s (.schema (.object l)) t z)) ∧
    ∀ calls calls' : List (Options × Json), (∀ call ∈ calls, call.1.Uses library) →
      (∀ call ∈ calls', call.1.Uses library) → List.Perm (calls.map source) (calls'.map source) →
      PlanCache.empty.EachCompiles digest calls → PlanCache.empty.EachCompiles digest calls' →
        ∀ key, key ∈ (PlanCache.empty.after digest calls).table.map (·.1) ↔
          key ∈ (PlanCache.empty.after digest calls').table.map (·.1) := by
  refine ⟨fun calls hcalls o schema p ho hp key => ?_, fun s members uri t z href hz => ?_, fun s k l t z h => ?_,
    fun calls calls' hcalls hcalls' hperm h h' key => ?_⟩
  · exact mem_keys_compile_iff hd ho (made_after hcalls made_empty) hp
  · exact (needs_reference_iff href).mp hz
  · exact needs_congr h
  · rw [mem_keys_after_iff hd hcalls made_empty h, mem_keys_after_iff hd hcalls' made_empty h']
    simp only [hperm.mem_iff]

/-- A call compiles if its compilation ends well and misses nothing. -/
theorem exists_compiles
    (h : ((compilation digest c o schema).1.isOk && !(compilation digest c o schema).2.missed) = true) :
    ∃ p, c.Compiles digest o schema p := by
  rw [Bool.and_eq_true, Bool.not_eq_true'] at h
  obtain ⟨hok, hmissed⟩ := h
  rcases hrun : compilation digest c o schema with ⟨_ | root, done⟩
  · rw [hrun] at hok
    exact nomatch hok
  · rw [hrun] at hmissed
    exact ⟨_, { outcome := by rw [compile_of_ok hrun], fetches := (fetchesAll_iff hrun).mpr hmissed }⟩

/-- A recursive schema, and one that holds another schema, in either order. -/
theorem store_contents_items :
    let referring : Json := .object [("not", .object [("$ref", .string "#")])]
    let holding : Json := .object [("items", .object [])]
    let o := Options.withFormats .empty
    let s : Scope := { root := referring, base := o.baseUri }
    let digested := [referring.text, keyText Sha256.hex s (.schema referring),
      keyText Sha256.hex s (.schema (.object [("$ref", .string "#")])), holding.text, Json.text (.object [])]
    let digest := digestAmong digested
    let c := PlanCache.empty.after digest [(o, referring), (o, holding)]
    let c' := PlanCache.empty.after digest [(o, holding), (o, referring)]
    c.size = 4 ∧ ∀ key, key ∈ c.table.map (·.1) ↔ key ∈ c'.table.map (·.1) := by
  intro referring holding o s digested digest c c'
  have hhex : digested.map Sha256.hex =
      ["6954f4702aa96caeedc246e6c9ce70098c86ea75a5c893d1c20f27daa7ae910e",
        "891501f13de769795b46996bb61ee0cb442ee7f7918955bd09c822670330da21",
        "18e49e732d3420f6e4aaaca428a4e16985f000e03b0c17e1edb2e582ce23988d",
        "2b0fb0a6b3e353c69158d61221c2200e4199d0d60dd0b9d99702a22eaa917a78",
        "44136fa355b3678a1146ad16f7e8649e94fb4fc21fe77e8310c060f61caaff8a"] := by decide +kernel
  have hd : TellsApart digest := tellsApart_digestAmong (by rw [hhex]; decide)
  have hdigest : digest = _ := digestAmong_eq_lookup hhex
  have ho : o.Uses o.library := ⟨rfl, fun _ h => nomatch h⟩
  have hcalls : ∀ call ∈ [(o, referring), (o, holding)], call.1.Uses o.library := by simp [ho]
  have hcalls' : ∀ call ∈ [(o, holding), (o, referring)], call.1.Uses o.library := by simp [ho]
  have h : PlanCache.empty.EachCompiles digest [(o, referring), (o, holding)] := by
    rw [hdigest]
    exact ⟨exists_compiles (by decide +kernel), exists_compiles (by decide +kernel), trivial⟩
  have h' : PlanCache.empty.EachCompiles digest [(o, holding), (o, referring)] := by
    rw [hdigest]
    exact ⟨exists_compiles (by decide +kernel), exists_compiles (by decide +kernel), trivial⟩
  obtain ⟨-, -, -, horder⟩ := store_contents hd o.library
  have hc : c = PlanCache.empty.after digest [(o, referring), (o, holding)] := rfl
  have hc' : c' = PlanCache.empty.after digest [(o, holding), (o, referring)] := rfl
  rw [hc, hc']
  refine ⟨?_, horder _ _ hcalls hcalls' (List.Perm.swap _ _ _) h h'⟩
  rw [hdigest]
  decide +kernel

end PlanCache

end JsonSchema
