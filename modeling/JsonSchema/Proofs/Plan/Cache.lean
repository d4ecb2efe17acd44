import JsonSchema.Proofs.Plan.Compile

/-!
# Checking with a cache is interpretation

A cache serves many compilations, with other options and other documents at hand each time. Its nodes stay right as
long as a document that has been handed over once is handed over again unchanged: a node depends on nothing else that
may change, and the nodes of a compilation that missed a document are not kept in the cache.

## What is here

* `CompiledPlan.nodes` — all the nodes of a handle, `PlanCache.nodes_install_perm` — where they come from.
* `PlanTable.Made` — a table all of whose nodes do what stands at the places they were made for.
* `PlanCache.Reached` — the caches that compiling leads to, and the documents that were handed over on the way.
  `PlanCache.Reached.made` — **they are made for all libraries that hand these over again**.
* `PlanCache.check_eq_of_compile` — **a compiled schema checks every value as interpretation does**.
-/

set_option autoImplicit false

namespace JsonSchema

open Compilation Compiling

variable {P : Scope → Prop} {digest : String → String} {o : Options} {library : Library}

/-! ## The nodes of a handle -/

/-- All the nodes of a handle. -/
def CompiledPlan.nodes (p : CompiledPlan) : PlanTable := p.own ++ p.cached

theorem CompiledPlan.node?_eq (p : CompiledPlan) (key : String) : p.node? key = p.nodes.lookup key :=
  List.lookup_append.symm

/-- While all plans are kept, a link leads to the node with its key. -/
theorem CompiledPlan.follow?_eq_node? (p : CompiledPlan) (link : Link) :
    p.follow? (fun _ => true) link = p.node? link.key := by
  cases link with
  | strong key => rfl
  | weak key => simp [follow?, Link.key]

/-- What is found under a key stands there with the key. -/
theorem mem_of_lookup {α : Type} {entries : List (String × α)} {key : String} {v : α}
    (h : entries.lookup key = some v) : (key, v) ∈ entries := by
  obtain ⟨before, behind, rfl, -⟩ := List.lookup_eq_some_iff.mp h
  simp

/-- Under each key of a table there is a node. -/
theorem exists_lookup_of_mem_keys {table : PlanTable} {key : String} (h : key ∈ table.map (·.1)) :
    ∃ n, table.lookup key = some n ∧ (key, n) ∈ table := by
  obtain ⟨n, hn⟩ := Option.isSome_iff_exists.mp (mem_keys_iff.mp h)
  exact ⟨n, hn, mem_of_lookup hn⟩

namespace PlanCache

/-- The nodes of a new handle are those of the cache and those of the compilation. -/
theorem nodes_install_perm (c : PlanCache) (root : Link) (done : Compilation) :
    List.Perm (c.install o root done).1.nodes (c.table ++ done.fresh) := by
  unfold install CompiledPlan.nodes
  split
  · exact List.perm_append_comm
  · exact List.Perm.refl _

theorem mem_nodes_install (c : PlanCache) (root : Link) (done : Compilation) (m : String × PlanNode) :
    m ∈ (c.install o root done).1.nodes ↔ m ∈ c.table ++ done.fresh :=
  (nodes_install_perm c root done).mem_iff

theorem install_root (c : PlanCache) (root : Link) (done : Compilation) :
    (c.install o root done).1.root = root.key := by
  unfold install
  split <;> rfl

theorem install_options (c : PlanCache) (root : Link) (done : Compilation) :
    (c.install o root done).1.options = o := by
  unfold install
  split <;> rfl

/-- The compilation of a whole schema. -/
def compilation (digest : String → String) (c : PlanCache) (o : Options) (schema : Json) :
    Except Fault Link × Compilation :=
  result (compileAt digest o c.table o.maxDepth { root := schema, base := o.baseUri } (.schema schema)) .start

variable {c : PlanCache} {schema : Json} {root : Link} {done : Compilation}

theorem compile_of_ok (h : compilation digest c o schema = (.ok root, done)) :
    c.compile digest o schema = (⟨.ok (c.install o root done).1, done.requests⟩, (c.install o root done).2) := by
  unfold compilation result at h
  simp only [compile, h]

theorem compile_of_error {f : Fault} (h : compilation digest c o schema = (.error f, done)) :
    c.compile digest o schema = (⟨.error f, done.requests⟩, c) := by
  unfold compilation result at h
  simp only [compile, h]

/-- A handle comes from a compilation that has ended well. -/
theorem exists_of_compile_ok {plan : CompiledPlan} (h : (c.compile digest o schema).1.outcome = .ok plan) :
    ∃ root done, compilation digest c o schema = (.ok root, done) ∧ plan = (c.install o root done).1 := by
  rcases hrun : compilation digest c o schema with ⟨_ | root, done⟩
  · rw [compile_of_error hrun] at h
    exact nomatch h
  · rw [compile_of_ok hrun] at h
    exact ⟨root, done, rfl, (Except.ok.inj h).symm⟩

/-- A cache stays as it was, or takes the nodes of a compilation that has ended well and missed nothing. -/
theorem compile_table (digest : String → String) (c : PlanCache) (o : Options) (schema : Json) :
    (c.compile digest o schema).2 = c ∨ ∃ root done, compilation digest c o schema = (.ok root, done) ∧
      done.missed = false ∧ (c.compile digest o schema).2.table = c.table ++ done.fresh := by
  rcases hrun : compilation digest c o schema with ⟨_ | root, done⟩
  · rw [compile_of_error hrun]
    exact Or.inl rfl
  · rw [compile_of_ok hrun, install]
    cases hmissed : done.missed with
    | true => exact Or.inl rfl
    | false => exact Or.inr ⟨root, done, rfl, hmissed, rfl⟩

/-- A compilation that has ended well. -/
theorem compilation_spec (hP : Steady P) (hscope : P { root := schema, base := o.baseUri })
    (h : compilation digest c o schema = (.ok root, done)) :
    done.Sound P digest o c.table ∧ done.known c.table = (c.table ++ done.fresh).map (·.1) ∧
      StandsFor P digest (done.known c.table) { root := schema, base := o.baseUri } (.schema schema) root := by
  obtain ⟨hsound, hlater, hstands⟩ := compileAt_yields hP o.maxDepth _ _ hscope .start Sound.start root done h
  refine ⟨hsound, ?_, hstands⟩
  have hprogress : done.inProgress = [] := hlater.inProgress
  simp [known, hprogress]

end PlanCache

/-! ## Tables made for a library -/

/-- Each node of a table does what stands at the places it was made for. -/
def PlanTable.Made (P : Scope → Prop) (digest : String → String) (library : Library) (table : PlanTable) : Prop :=
  ∀ key n, (key, n) ∈ table → MadeFor P digest (table.map (·.1)) library key n

theorem PlanTable.Made.append {stored : PlanTable} {done : Compilation} (h : PlanTable.Made P digest library stored)
    (hdone : done.Sound P digest o stored) (hknown : done.known stored = (stored ++ done.fresh).map (·.1))
    (hlibrary : done.SameDocuments o.library library) : PlanTable.Made P digest library (stored ++ done.fresh) := by
  intro key n hmem
  rcases List.mem_append.mp hmem with hstored | hfresh
  · refine (h key n hstored).mono ?_
    simp
  · rw [← hknown]
    exact hdone.made key n hfresh library hlibrary

theorem PlanTable.Made.congr {table table' : PlanTable} (h : PlanTable.Made P digest library table)
    (hmem : ∀ m, m ∈ table' ↔ m ∈ table) : PlanTable.Made P digest library table' := by
  intro key n hn
  refine (h key n ((hmem _).mp hn)).mono ?_
  exact List.map_subset _ fun m hm => (hmem m).mpr hm

/-- Each link that stands for a place leads to a node that does what stands there. -/
theorem PlanTable.Made.exists_follow? {p : CompiledPlan} (hd : TellsApart digest)
    (h : PlanTable.Made Scope.IsNormal digest library p.nodes) {scope : Scope} {x : Subschema} {link : Link}
    (hlink : StandsFor Scope.IsNormal digest (p.nodes.map (·.1)) scope x link) :
    ∃ n, p.follow? (fun _ => true) link = some n ∧
      Realizes (StandsFor Scope.IsNormal digest (p.nodes.map (·.1))) library n (content scope x) := by
  obtain ⟨n, hn, hmem⟩ := exists_lookup_of_mem_keys hlink.known
  refine ⟨n, ?_, (h _ n hmem).serves hd hlink.steady hlink.key.symm⟩
  rw [p.follow?_eq_node?, p.node?_eq]
  exact hn

namespace PlanCache

/-! ## Histories -/

/-- The documents of a relation are in a library. -/
def Supplies (library : Library) (supplied : String → Json → Prop) : Prop :=
  ∀ location document, supplied location document → library location = .ok document

/-- The documents that a compilation asks for and gets. -/
def Handed (digest : String → String) (c : PlanCache) (o : Options) (schema : Json) (location : String)
    (document : Json) : Prop :=
  location ∈ (c.compile digest o schema).1.requests ∧ o.library location = .ok document

/-- The caches that compiling leads to, and the documents that were handed over on the way. Each compilation may have
options of its own, with a base as reading gives it (`Url.read?_isNormal`), and may fail; its library hands over again
what was handed over before. -/
inductive Reached (digest : String → String) : (String → Json → Prop) → PlanCache → Prop where
  | empty : Reached digest (fun _ _ => False) .empty
  | compile {supplied : String → Json → Prop} {c : PlanCache} (h : Reached digest supplied c) (o : Options)
    (schema : Json) (hbase : ∀ base, o.baseUri = some base → base.IsNormal) (hsame : Supplies o.library supplied) :
    Reached digest (fun location document => supplied location document ∨ Handed digest c o schema location document)
      (c.compile digest o schema).2

variable {supplied : String → Json → Prop} {c : PlanCache} {schema : Json} {root : Link} {done : Compilation}

/-- A library that hands over again what a compilation got has the documents that it asked for. -/
theorem sameDocuments_of_supplies (hrun : compilation digest c o schema = (.ok root, done))
    (hdone : done.Sound P digest o c.table) (hmissed : done.missed = false)
    (h : Supplies library (Handed digest c o schema)) : done.SameDocuments o.library library := by
  intro location hlocation
  obtain ⟨document, hdocument⟩ := hdone.supplied hmissed location hlocation
  rw [hdocument]
  refine h location document ⟨?_, hdocument⟩
  rw [compile_of_ok hrun]
  exact hlocation

/-- **The nodes of a cache do what stands at the places they were made for**, with all libraries that hand over again
what was handed over on the way. -/
theorem Reached.made (hc : Reached digest supplied c) :
    ∀ library, Supplies library supplied → PlanTable.Made Scope.IsNormal digest library c.table := by
  induction hc with
  | empty =>
    intro library _ key n hmem
    exact absurd hmem (by simp [PlanCache.empty])
  | @compile supplied c _ o schema hbase _ ih =>
    intro library hlibrary
    have hstored : PlanTable.Made Scope.IsNormal digest library c.table :=
      ih library fun location document h => hlibrary location document (Or.inl h)
    rcases compile_table digest c o schema with heq | ⟨root, done, hrun, hmissed, htable⟩
    · rw [heq]
      exact hstored
    · obtain ⟨hdone, hknown, -⟩ := compilation_spec steady_isNormal hbase hrun
      rw [htable]
      refine hstored.append hdone hknown (sameDocuments_of_supplies hrun hdone hmissed ?_)
      exact fun location document h => hlibrary location document (Or.inr h)

/-- **A compiled schema checks every value as interpretation does**, whatever has been compiled with the cache before:
the same violations in the same order, or the same fault. -/
theorem check_eq_of_compile (hd : TellsApart digest) (hc : Reached digest supplied c)
    (hbase : ∀ base, o.baseUri = some base → base.IsNormal) (hsame : Supplies o.library supplied) {plan : CompiledPlan}
    (hplan : (c.compile digest o schema).1.outcome = .ok plan) (value : Json) :
    plan.check value = (JsonSchema.check o schema value).outcome := by
  rcases hrun : compilation digest c o schema with ⟨_ | root, done⟩
  · rw [compile_of_error hrun] at hplan
    exact nomatch hplan
  · rw [compile_of_ok hrun] at hplan
    obtain rfl : (c.install o root done).1 = plan := Except.ok.inj hplan
    obtain ⟨hdone, hknown, hroot⟩ := compilation_spec steady_isNormal hbase hrun
    have hnodes : ∀ m, m ∈ (c.install o root done).1.nodes ↔ m ∈ c.table ++ done.fresh := mem_nodes_install c root done
    have hmade : PlanTable.Made Scope.IsNormal digest o.library (c.install o root done).1.nodes :=
      ((hc.made o.library hsame).append hdone hknown fun _ _ => rfl).congr hnodes
    -- the handle begins with a strong link to the root, whatever link the compilation gave
    have hstart : StandsFor Scope.IsNormal digest ((c.install o root done).1.nodes.map (·.1))
        { root := schema, base := o.baseUri } (.schema schema) (.strong (c.install o root done).1.root) := by
      rw [install_root]
      refine { steady := hroot.steady, key := hroot.key, known := ?_ }
      obtain ⟨m, hm, hkey⟩ := List.mem_map.mp (hknown ▸ hroot.known)
      exact List.mem_map.mpr ⟨m, (hnodes m).mpr hm, hkey⟩
    have hrunPlan := runPlan_eq_interpret (o := o) (fun _ _ _ hlink => hmade.exists_follow? hd hlink) o.maxDepth hstart
      (.present value) "" .here ∅
    rw [CompiledPlan.check, CompiledPlan.checkWhile, install_options]
    exact hrunPlan

/-- A schema that the cache has met before, under another limit. -/
theorem check_eq_of_compile_string :
    let schema : Json := .object [("type", .string "string")]
    let digest := digestAmong [schema.text]
    let first := Options.withFormats .empty
    let o : Options := { first with maxDepth := 7 }
    let c := (PlanCache.empty.compile digest first schema).2
    ∃ plan, (c.compile digest o schema).1.outcome = .ok plan ∧
      plan.check .null = (JsonSchema.check o schema .null).outcome := by
  intro schema digest first o c
  have hbase : ∀ base, (none : Option Url) = some base → base.IsNormal := by
    intro base h
    exact nomatch h
  have hreached : Reached digest (fun l d => False ∨ Handed digest .empty first schema l d) c :=
    .compile .empty first schema hbase fun _ _ h => h.elim
  -- the options have the library of the first compilation
  have hsame : Supplies o.library fun l d => False ∨ Handed digest .empty first schema l d := by
    intro location document h
    exact (h.resolve_left id).2
  have hd : TellsApart digest := tellsApart_digestAmong (by simp)
  obtain ⟨plan, hplan⟩ : ∃ plan, (c.compile digest o schema).1.outcome = .ok plan :=
    Run.exists_outcome_eq_ok (by decide +kernel)
  exact ⟨plan, hplan, check_eq_of_compile hd hreached hbase hsame hplan .null⟩

end PlanCache

end JsonSchema
