import JsonSchema.Proofs.Keyword.SideBySide
import JsonSchema.Proofs.Plan.Retrieval

/-!
# Compilations that fail

A plan that is being compiled has a cell, to which links may lead before the plan is there. A cell takes one node, and a
compilation that would put a second one into it has to be given up, as has one whose plan for the whole schema is still
in progress at the end. Neither comes about: whatever is wrong with a schema stays in its plan, and only nesting too deep
ends a compilation. Then nothing has happened to the cache.

## What is here

* `Building` — compiling with cells, `Building.compileAt`, `PlanCache.compileWithCells`.
* `EndsAlike`, `Building.alike` — with cells and without them, steps end in the same way, and cells that were there
  before are left alone. `Building.compileAt_alike` — **so does compiling a place**.
* `PlanCache.succeeding`, `PlanCache.answers` — the calls of a history that succeed, and what all calls answer.
* `PlanCache.compile_fails_only_on_depth` — **compiling gives a handle, or nesting is too deep; then the cache is as it
  was, and the call can be struck from any history**.
-/

set_option autoImplicit false

namespace JsonSchema

open Compilation Compiling

/-! ## Cells -/

/-- The cells that have been made, each with the node that it has taken. -/
abbrev Cells := List (Option PlanNode)

/-- A step of a compilation that puts its nodes into cells. -/
abbrev Building := StateT Cells Compiling

namespace Building

/-- Makes a cell. The answer is its number. -/
def newCell : Building Nat := fun cells => pure (cells.length, cells ++ [none])

/-- Puts a node into a cell that is empty. The answer is whether it was. -/
def fill (cell : Nat) (n : PlanNode) : Building Bool := fun cells =>
  match cells[cell]? with
  | some none => pure (true, cells.set cell (some n))
  | _ => pure (false, cells)

/-- Makes a cell, and fills it as soon as there is a node for it. If it is not empty then, this is a failure. -/
def inCell (e : Fault) (p : Building PlanNode) : Building PlanNode := do
  let cell ← newCell
  let n ← p
  if ← fill cell n then return n else throw e

/-- What compilation with cells makes of a content. -/
def contentNode (o : Options) (next : Scope → Subschema → Building Link) : Content → Building PlanNode
  | .accept => pure .accept
  | .notAnObject kind => pure (.notAnObject kind)
  | .fault f => pure (.fault f)
  | .reference scope uri => do
    let run := scope.resolve o.library uri
    StateT.lift (modify (·.note uri run))
    match run.outcome with
    | .error f => return .fault f
    | .ok target => return .reference (← next target.scope (.schema target.node))
  | .keywords scope k => return .keywords (← k.traverse (next scope))

/-- The link to the plan for a place, for which a cell is made unless its key is known. -/
def compileAt (digest : String → String) (o : Options) (stored : PlanTable) (depth : Nat) (scope : Scope)
    (x : Subschema) : Building Link := do
  let key := planKey digest scope x
  match (← StateT.lift get).link? stored key with
  | some link => return link
  | none =>
    match depth with
    | 0 => throw (.depthExceeded ("plan " ++ key) o.maxDepth)
    | depth + 1 =>
      let n ← inCell (.incompletePlan key) do
        StateT.lift (modify (·.begin key))
        contentNode o (compileAt digest o stored depth) (content scope x)
      StateT.lift (modify (·.finish key n))
      return .strong key
termination_by structural depth

/-! ### With cells and without them -/

/-- A fault which says that nesting is too deep. -/
def IsTooDeep (o : Options) (f : Fault) : Prop := ∃ key, f = .depthExceeded ("plan " ++ key) o.maxDepth

/-- Without cells and with them, an effect comes to the same end, and leaves the cells alone that were there before. If
it fails, nesting is too deep. -/
inductive EndsAlike {α : Type} (o : Options) (cells : Cells) :
    Except Fault α × Compilation → Except Fault (α × Cells) × Compilation → Prop where
  | ok {a : α} {d : Compilation} {later : Cells} (h : cells <+: later) : EndsAlike o cells (.ok a, d) (.ok (a, later), d)
  | fail {f : Fault} {d : Compilation} (h : IsTooDeep o f) : EndsAlike o cells (.error f, d) (.error f, d)

variable {α β : Type} {o : Options}

theorem EndsAlike.after {cells cells' : Cells} {x : Except Fault α × Compilation}
    {y : Except Fault (α × Cells) × Compilation} (h : EndsAlike o cells' x y) (hcells : cells <+: cells') :
    EndsAlike o cells x y := by
  cases h with
  | ok h => exact .ok (hcells.trans h)
  | fail h => exact .fail h

theorem EndsAlike.isTooDeep {cells : Cells} {f : Fault} {d : Compilation} {y : Except Fault (α × Cells) × Compilation}
    (h : EndsAlike o cells (.error f, d) y) : IsTooDeep o f := by
  cases h with
  | fail hf => exact hf

/-- The same effect with cells and without them. -/
def Alike (o : Options) (p : Building α) (q : Compiling α) : Prop :=
  ∀ cells c, EndsAlike o cells (result q c) (result (p.run cells) c)

theorem alike_pure (a : α) : Alike o (pure a) (pure a) := fun _ _ => .ok (List.prefix_refl _)

theorem alike_get : Alike o (StateT.lift get) (get : Compiling Compilation) := fun _ _ => .ok (List.prefix_refl _)

theorem alike_modify (f : Compilation → Compilation) : Alike o (StateT.lift (modify f)) (modify f : Compiling PUnit) :=
  fun _ _ => .ok (List.prefix_refl _)

theorem alike_bind {p : Building α} {q : Compiling α} {f : α → Building β} {g : α → Compiling β} (h : Alike o p q)
    (hfg : ∀ a, Alike o (f a) (g a)) : Alike o (p >>= f) (q >>= g) := by
  intro cells c
  rw [StateT.run_bind, result_bind, result_bind]
  generalize hq : result q c = x
  generalize hp : result (p.run cells) c = y
  have hxy : EndsAlike o cells x y := hq ▸ hp ▸ h cells c
  cases hxy with
  | fail hf => exact .fail hf
  | @ok a d later hlater => exact (hfg a later d).after hlater

/-- Effects in a row are the same with cells and without them if each of them is. -/
def alike (o : Options) : Pairing Building Compiling where
  Rel := Alike o
  pure := alike_pure
  bind := alike_bind

theorem contentNode_alike {next : Scope → Subschema → Building Link} {next' : Scope → Subschema → Compiling Link}
    (h : ∀ scope x, Alike o (next scope x) (next' scope x)) (content : Content) :
    Alike o (contentNode o next content) (Compiling.contentNode o next' content) := by
  cases content with
  | reference scope uri =>
    refine alike_bind (alike_modify _) fun _ => ?_
    cases (scope.resolve o.library uri).outcome with
    | error f => exact alike_pure _
    | ok target => exact alike_bind (h _ _) fun _ => alike_pure _
  | keywords scope k => exact alike_bind (Keywords.traverse_paired (alike o) (h scope) k) fun _ => alike_pure _
  | accept => exact alike_pure _
  | notAnObject kind => exact alike_pure _
  | fault f => exact alike_pure _

/-- An empty cell that is left alone can be filled. -/
theorem fill_of_prefix {cells later : Cells} (h : cells ++ [none] <+: later) (n : PlanNode) :
    ∃ filled, (fill cells.length n).run later = pure (true, filled) ∧ cells <+: filled := by
  obtain ⟨more, rfl⟩ := h
  refine ⟨(cells ++ [none] ++ more).set cells.length (some n), ?_, ?_⟩
  · simp [fill, StateT.run]
  · simp

/-- A cell that is filled as soon as there is a node for it is still empty then, because all cells that are filled in
between are newer. -/
theorem alike_inCell {p : Building PlanNode} {q : Compiling PlanNode} (h : Alike o p q) (e : Fault) :
    Alike o (inCell e p) q := by
  intro cells c
  have hcell : (inCell e p).run cells =
      (do let n ← p; if ← fill cells.length n then return n else throw e).run (cells ++ [none]) := rfl
  rw [hcell, StateT.run_bind, result_bind]
  generalize hq : result q c = x
  generalize hp : result (p.run (cells ++ [none])) c = y
  have hxy : EndsAlike o (cells ++ [none]) x y := hq ▸ hp ▸ h (cells ++ [none]) c
  cases hxy with
  | fail hf => exact .fail hf
  | @ok n d later hlater =>
    obtain ⟨filled, hfill, hfilled⟩ := fill_of_prefix hlater n
    dsimp only
    rw [StateT.run_bind, hfill, pure_bind]
    exact .ok hfilled

/-- **Compiling a place is the same with cells and without them.** -/
theorem compileAt_alike (digest : String → String) (o : Options) (stored : PlanTable) (depth : Nat) (scope : Scope)
    (x : Subschema) :
    Alike o (compileAt digest o stored depth scope x) (JsonSchema.compileAt digest o stored depth scope x) := by
  induction depth generalizing scope x with
  | zero =>
    rw [compileAt, JsonSchema.compileAt]
    refine alike_bind alike_get fun c => ?_
    cases c.link? stored (planKey digest scope x) with
    | some link => exact alike_pure link
    | none => exact fun _ _ => .fail ⟨_, rfl⟩
  | succ depth ih =>
    rw [compileAt, JsonSchema.compileAt]
    refine alike_bind alike_get fun c => ?_
    cases c.link? stored (planKey digest scope x) with
    | some link => exact alike_pure link
    | none =>
      have hnode := alike_bind (alike_modify (·.begin (planKey digest scope x))) fun _ =>
        contentNode_alike ih (content scope x)
      dsimp only
      conv_rhs => rw [node_eq, ← bind_assoc]
      refine alike_bind (alike_inCell hnode _) fun n => ?_
      exact alike_bind (alike_modify _) fun _ => alike_pure _

end Building

/-! ## Compiling a schema -/

namespace PlanCache

variable {digest : String → String} {o : Options} {c : PlanCache} {schema : Json} {root : Link} {done : Compilation}

/-- Compiles a schema, where each plan has a cell. -/
def compileWithCells (digest : String → String) (c : PlanCache) (o : Options) (schema : Json) :
    Run CompiledPlan × PlanCache :=
  let scope : Scope := { root := schema, base := o.baseUri }
  match result ((Building.compileAt digest o c.table o.maxDepth scope (.schema schema)).run []) .start with
  | (.error f, done) => (⟨.error f, done.requests⟩, c)
  | (.ok (.weak key, _), done) => (⟨.error (.incompletePlan key), done.requests⟩, c)
  | (.ok (.strong key, _), done) =>
    let (plan, cache) := c.install o (.strong key) done
    (⟨.ok plan, done.requests⟩, cache)

/-- The end of the compilation of a whole schema, with cells and without them. -/
theorem compilation_alike (digest : String → String) (c : PlanCache) (o : Options) (schema : Json) :
    Building.EndsAlike o [] (compilation digest c o schema)
      (result ((Building.compileAt digest o c.table o.maxDepth { root := schema, base := o.baseUri }
        (.schema schema)).run []) .start) :=
  Building.compileAt_alike digest o c.table o.maxDepth _ _ [] .start

/-- When the whole schema is done, no key is in progress, so that its link is strong. -/
theorem root_eq_strong (h : compilation digest c o schema = (.ok root, done)) : ∃ key, root = .strong key := by
  cases hknown : Compilation.start.link? c.table (planKey digest { root := schema, base := o.baseUri } (.schema schema)) with
  | some link =>
    rw [compilation, result_compileAt_of_known hknown] at h
    cases h
    unfold link? at hknown
    split at hknown
    · cases hknown
      exact ⟨_, rfl⟩
    · simp [start] at hknown
  | none =>
    obtain ⟨_, _, _, -, -, hroot, -⟩ := result_compileAt_of_unknown hknown h
    exact ⟨_, hroot⟩

/-- Compiling a schema is the same with cells and without them. -/
theorem compileWithCells_eq (digest : String → String) (c : PlanCache) (o : Options) (schema : Json) :
    c.compileWithCells digest o schema = c.compile digest o schema := by
  have h := compilation_alike digest c o schema
  unfold compileWithCells
  dsimp only
  generalize result ((Building.compileAt digest o c.table o.maxDepth { root := schema, base := o.baseUri }
    (.schema schema)).run []) .start = y at h ⊢
  generalize hx : compilation digest c o schema = x at h
  cases h with
  | @ok root done cells =>
    obtain ⟨key, rfl⟩ := root_eq_strong hx
    exact (compile_of_ok hx).symm
  | fail => exact (compile_of_error hx).symm

/-- Compiling a schema gives a handle whose plan is finished, or nesting is too deep, and then the cache is as it was. -/
theorem compile_ok_or_isTooDeep (digest : String → String) (c : PlanCache) (o : Options) (schema : Json) :
    (∃ plan n, (c.compile digest o schema).1.outcome = .ok plan ∧ plan.node? plan.root = some n) ∨
      ((∃ f, (c.compile digest o schema).1.outcome = .error f ∧ Building.IsTooDeep o f) ∧
        (c.compile digest o schema).2 = c) := by
  rcases hrun : compilation digest c o schema with ⟨f | root, done⟩
  · have halike := compilation_alike digest c o schema
    rw [hrun] at halike
    rw [compile_of_error hrun]
    exact .inr ⟨⟨f, rfl, halike.isTooDeep⟩, rfl⟩
  · obtain ⟨-, hknown, hroot⟩ := compilation_spec steady_true trivial hrun
    have hkey : root.key ∈ (c.install o root done).1.nodes.map (·.1) :=
      ((nodes_install_perm c root done).map _).mem_iff.mpr (hknown ▸ hroot.known)
    obtain ⟨n, hn, -⟩ := exists_lookup_of_mem_keys hkey
    rw [compile_of_ok hrun]
    refine .inl ⟨_, n, rfl, ?_⟩
    rw [install_root, CompiledPlan.node?_eq]
    exact hn

/-! ### Histories -/

/-- What calls answer, one after the other. -/
def answers (digest : String → String) (c : PlanCache) : List (Options × Json) → List (Run CompiledPlan)
  | [] => []
  | call :: calls =>
    (c.compile digest call.1 call.2).1 :: answers digest (c.compile digest call.1 call.2).2 calls

/-- The calls that succeed, each in the cache as those before have left it. -/
def succeeding (digest : String → String) (c : PlanCache) : List (Options × Json) → List (Options × Json)
  | [] => []
  | call :: calls =>
    if (c.compile digest call.1 call.2).1.outcome.isOk then
      call :: succeeding digest (c.compile digest call.1 call.2).2 calls
    else succeeding digest (c.compile digest call.1 call.2).2 calls

/-- The calls that fail can be struck from a history: the cache comes to hold the same plans, and the other calls answer
what they answered. -/
theorem after_succeeding (digest : String → String) (c : PlanCache) (calls : List (Options × Json)) :
    c.after digest (c.succeeding digest calls) = c.after digest calls ∧
      c.answers digest (c.succeeding digest calls) = (c.answers digest calls).filter (·.outcome.isOk) := by
  induction calls generalizing c with
  | nil => exact ⟨rfl, rfl⟩
  | cons call calls ih =>
    obtain ⟨hafter, hanswers⟩ := ih (c.compile digest call.1 call.2).2
    rcases compile_ok_or_isTooDeep digest c call.1 call.2 with ⟨plan, n, hok, -⟩ | ⟨⟨f, herror, -⟩, hcache⟩
    · have hisOk : (c.compile digest call.1 call.2).1.outcome.isOk = true := by
        rw [hok]
        rfl
      rw [succeeding, if_pos hisOk, answers, answers, List.filter_cons, if_pos hisOk, hanswers]
      exact ⟨hafter, rfl⟩
    · have hisOk : ¬ (c.compile digest call.1 call.2).1.outcome.isOk = true := by
        rw [herror]
        exact Bool.false_ne_true
      have hnext : c.after digest (call :: calls) = c.after digest calls := congrArg (·.after digest calls) hcache
      rw [hcache] at hafter hanswers
      rw [succeeding, if_neg hisOk, answers, List.filter_cons, if_neg hisOk, hcache, hnext]
      exact ⟨hafter, hanswers⟩

/-- **Compiling fails only on depth, and then nothing has happened.** For all caches, options and schemas: neither of the
failures that have to do with cells comes about, so that compiling with cells is the same as without them. The outcome is
a handle whose plan is there, or nesting is too deep. In the second case the cache is as it was; so the calls that fail
can be struck from any history, and what the other ones answer stays the same. -/
theorem compile_fails_only_on_depth (digest : String → String) (c : PlanCache) (o : Options) (schema : Json) :
    c.compileWithCells digest o schema = c.compile digest o schema ∧
      ((∃ plan n, (c.compile digest o schema).1.outcome = .ok plan ∧ plan.node? plan.root = some n) ∨
        ((∃ key, (c.compile digest o schema).1.outcome = .error (.depthExceeded ("plan " ++ key) o.maxDepth)) ∧
          (c.compile digest o schema).2 = c)) ∧
      ∀ calls, c.after digest (c.succeeding digest calls) = c.after digest calls ∧
        c.answers digest (c.succeeding digest calls) = (c.answers digest calls).filter (·.outcome.isOk) := by
  refine ⟨compileWithCells_eq digest c o schema, ?_, after_succeeding digest c⟩
  rcases compile_ok_or_isTooDeep digest c o schema with hok | ⟨⟨f, herror, key, rfl⟩, hcache⟩
  · exact .inl hok
  · exact .inr ⟨⟨key, herror⟩, hcache⟩

/-- Three levels are one too many for a limit of two, and the two that are in progress then are given up. -/
example :
    let first := Options.withFormats .empty
    let o : Options := { first with maxDepth := 2 }
    let schema : Json := .object [("items", .object [("items", .object [("items", .object [])])])]
    let (run, c) := PlanCache.empty.compile id o schema
    run.outcome.isOk = false ∧ c.size = 0 := by
  decide +kernel

end PlanCache

end JsonSchema
