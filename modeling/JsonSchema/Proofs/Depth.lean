import JsonSchema.Proofs.Plan.Failure

/-!
# Raising the depth limit

Schemas may refer to each other in circles, so checking and compiling count their levels down and give up below the last
one. The limit decides nothing else: no keyword sees how many levels are left, and giving up is a fault, which no keyword
takes for an answer about the instance. So with a higher limit, all that has come to an end ends in the same way.

## What is here

* `Options.withDepth` — options with another limit.
* `Run.unlessTooDeep` — the second of two runs is the first one, unless that goes too deep. `interpret_deeper` — **so it
  is with interpretation if more levels may be entered**.
* `Compiling.endsWell` — where the first of two effects ends well, the second one does the same. `compileAt_deeper` — **so
  it is with the compilation of a place**.
* `outcome_of_deeper` — **checks that have not gone too deep and compilations that have ended well stay what they are**.
-/

set_option autoImplicit false

namespace JsonSchema

open Compiling

/-- The options with another limit. -/
def Options.withDepth (o : Options) (limit : Nat) : Options := { o with maxDepth := limit }

theorem Options.library_withDepth (o : Options) (limit : Nat) : (o.withDepth limit).library = o.library := rfl

variable {o : Options} {limit depth depth' : Nat}

/-! ## Interpretation -/

/-- The second run is the first one, with the same requests, unless the first one goes too deep. -/
def Run.unlessTooDeep : RunRelation where
  Agree x y := y = x ∨ ∃ path limit, x.outcome = .error (.depthExceeded path limit)
  refl _ := .inl rfl
  bind := by
    rintro α β x y f g (rfl | ⟨path, limit, hdeep⟩) hfg
    · by_cases hdeep : ∃ a path limit, y.outcome = .ok a ∧ (f a).outcome = .error (.depthExceeded path limit)
      · obtain ⟨a, path, limit, ha, hdeep⟩ := hdeep
        exact .inr ⟨path, limit, (Run.outcome_bind_ok ha).trans hdeep⟩
      · refine .inl (Run.bind_congr_of_ok fun a ha => (hfg a).resolve_right ?_)
        exact fun ⟨path, limit, hf⟩ => hdeep ⟨a, path, limit, ha, hf⟩
    · exact .inr ⟨path, limit, Run.outcome_bind_error hdeep⟩

/-- **Interpretation is the same if more levels may be entered**, unless it went too deep. -/
theorem interpret_deeper (hdepth : depth ≤ depth') (scope : Scope) (x : Subschema) (i : Instance) (path : String)
    (segment : Segment) (s : ErrorSet) :
    Run.unlessTooDeep.Agree (interpret o depth scope x i path segment s)
      (interpret (o.withDepth limit) depth' scope x i path segment s) := by
  induction depth generalizing depth' scope x i path segment s with
  | zero => exact .inr ⟨path, o.maxDepth, rfl⟩
  | succ depth ih =>
    obtain ⟨depth', rfl⟩ : ∃ below, depth' = below + 1 := Nat.exists_eq_add_of_le' (Nat.le_of_add_left_le hdepth)
    have hbelow : depth ≤ depth' := Nat.le_of_succ_le_succ hdepth
    rw [interpret_content, interpret_content]
    cases hc : content scope x with
    | accept => exact .refl _
    | notAnObject kind => exact .refl _
    | fault f => exact .refl _
    | reference inner uri =>
      exact RunRelation.Agree.bind (.refl (inner.resolve o.library uri)) fun target =>
        ih hbelow target.scope _ i path segment s
    | keywords inner k =>
      obtain ⟨members, -, -, rfl⟩ := content_eq_keywords hc
      have hcheckers : Run.unlessTooDeep.Checkers (fun x y => x = y ∧ True) (interpretBelow o depth inner)
          (interpretBelow (o.withDepth limit) depth' inner) := by
        rintro x _ ⟨rfl, -⟩ i parent segment s
        exact ih hbelow inner x i (extendPath parent segment) segment s
      have hself : (Keywords.parse members).All fun _ => True := Keywords.parse_all fun _ _ _ => trivial
      exact Keywords.check_related o.mode o.formats i path segment hcheckers hself s

/-! ## Compilation -/

namespace Compiling

/-- Where the first effect ends well, the second one comes to the same value and the same state. -/
def endsWell : Pairing Compiling Compiling where
  Rel p q := ∀ c a d, result p c = (.ok a, d) → result q c = (.ok a, d)
  pure _ _ _ _ h := h
  bind := by
    intro α β p q f g hpq hfg c b e h
    obtain ⟨a, d, hp, hf⟩ := result_bind_eq_ok h
    rw [result_bind, hpq c a d hp]
    exact hfg a d b e hf

theorem contentNode_endsWell {next next' : Scope → Subschema → Compiling Link}
    (h : ∀ scope x, endsWell.Rel (next scope x) (next' scope x)) (content : Content) :
    endsWell.Rel (contentNode o next content) (contentNode (o.withDepth limit) next' content) := by
  cases content with
  | reference scope uri =>
    refine endsWell.bind (fun _ _ _ hsame => hsame) fun _ => ?_
    rw [Options.library_withDepth]
    cases (scope.resolve o.library uri).outcome with
    | error f => exact endsWell.pure _
    | ok target => exact endsWell.bind (h _ _) fun _ => endsWell.pure _
  | keywords scope k => exact endsWell.bind (Keywords.traverse_paired endsWell (h scope) k) fun _ => endsWell.pure _
  | accept => exact endsWell.pure _
  | notAnObject kind => exact endsWell.pure _
  | fault f => exact endsWell.pure _

end Compiling

/-- **The compilation of a place is the same if more levels may be entered**, wherever it ended well. -/
theorem compileAt_deeper (digest : String → String) (stored : PlanTable) (hdepth : depth ≤ depth') (scope : Scope)
    (x : Subschema) :
    endsWell.Rel (compileAt digest o stored depth scope x)
      (compileAt digest (o.withDepth limit) stored depth' scope x) := by
  induction depth generalizing depth' scope x with
  | zero =>
    intro c link d h
    cases hknown : c.link? stored (planKey digest scope x) with
    | some found =>
      rw [result_compileAt_of_known hknown] at h ⊢
      exact h
    | none =>
      obtain ⟨_, _, _, hlevels, -⟩ := result_compileAt_of_unknown hknown h
      exact nomatch hlevels
  | succ depth ih =>
    obtain ⟨depth', rfl⟩ : ∃ below, depth' = below + 1 := Nat.exists_eq_add_of_le' (Nat.le_of_add_left_le hdepth)
    rw [compileAt, compileAt]
    refine endsWell.bind (fun _ _ _ hsame => hsame) fun c => ?_
    cases c.link? stored (planKey digest scope x) with
    | some link => exact endsWell.pure link
    | none =>
      refine endsWell.bind (fun _ _ _ hsame => hsame) fun _ => endsWell.bind ?_ fun n => ?_
      · rw [node_eq, node_eq]
        exact contentNode_endsWell (fun scope x => ih (Nat.le_of_succ_le_succ hdepth) scope x) (content scope x)
      · exact endsWell.bind (fun _ _ _ hsame => hsame) fun _ => endsWell.pure _

/-! ## Whole schemas -/

/-- **A higher limit changes nothing that has come to an end.** A check that has not gone too deep gives the same
violations or the same fault, and makes the same requests. A compilation that has ended well, from whatever plans the
cache held, gives the same plan under the new options, makes the same requests and leaves the cache with the same plans. -/
theorem outcome_of_deeper (o : Options) {limit : Nat} (hlimit : o.maxDepth ≤ limit) :
    (∀ schema value, (∀ path n, (check o schema value).outcome ≠ .error (.depthExceeded path n)) →
      check (o.withDepth limit) schema value = check o schema value) ∧
    ∀ digest (c : PlanCache) schema plan, (c.compile digest o schema).1.outcome = .ok plan →
      c.compile digest (o.withDepth limit) schema =
        (⟨.ok { plan with options := o.withDepth limit }, (c.compile digest o schema).1.requests⟩,
          (c.compile digest o schema).2) := by
  refine ⟨fun schema value hshallow => ?_, fun digest c schema plan hplan => ?_⟩
  · refine (interpret_deeper hlimit _ _ (.present value) "" .here ∅).resolve_right ?_
    exact fun ⟨path, n, hdeep⟩ => hshallow path n hdeep
  · obtain ⟨root, done, hrun, rfl⟩ := PlanCache.exists_of_compile_ok hplan
    have hdeeper : PlanCache.compilation digest c (o.withDepth limit) schema = (.ok root, done) :=
      compileAt_deeper digest c.table hlimit _ _ .start root done hrun
    rw [PlanCache.compile_of_ok hdeeper, PlanCache.compile_of_ok hrun, PlanCache.install, PlanCache.install]
    split <;> rfl

/-- A schema that refers to itself needs five levels for an object in an object. There are four more for both. -/
theorem outcome_of_deeper_circle :
    let o := (Options.withFormats .empty).withDepth 5
    let schema : Json := .object [("type", .string "object"), ("properties", .object [("a", .object [("$ref", .string "#")])])]
    let value : Json := .object [("a", .object [])]
    check (o.withDepth 9) schema value = check o schema value ∧
      ∃ plan, (PlanCache.empty.compile id o schema).1.outcome = .ok plan ∧
        (PlanCache.empty.compile id (o.withDepth 9) schema).1.outcome = .ok { plan with options := o.withDepth 9 } ∧
        (PlanCache.empty.compile id (o.withDepth 9) schema).2 = (PlanCache.empty.compile id o schema).2 := by
  intro o schema value
  obtain ⟨hcheck, hcompile⟩ := outcome_of_deeper o (show o.maxDepth ≤ 9 by decide)
  have hchecked : (check o schema value).outcome = .ok ∅ := by decide +kernel
  obtain ⟨plan, hplan⟩ : ∃ plan, (PlanCache.empty.compile id o schema).1.outcome = .ok plan :=
    Run.exists_outcome_eq_ok (by decide +kernel)
  refine ⟨hcheck schema value fun path n hdeep => ?_, plan, hplan, ?_⟩
  · rw [hchecked] at hdeep
    cases hdeep
  · rw [hcompile id .empty schema plan hplan]
    exact ⟨rfl, rfl⟩

end JsonSchema
