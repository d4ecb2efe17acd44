import JsonSchema.Proofs.Keyword.Order
import JsonSchema.Proofs.Plan.Compile

/-!
# The steps of a compilation

Compiling a place changes the state of a compilation in three ways only: the resolution of a reference is noted, a key
is begun, and it is finished with its node. What these keep to is kept to by the compilation of every place, however
deep it goes.

## What is here

* `PlanNode.Unsupplied` — a node that reports a failed retrieval.
* `Compiling.inOrder_leads` — what each step keeps to is kept to by going through a list.
* `Progress` — a relation between states that the three changes keep to. `compileAt_progress` — **compiling a place
  keeps to it**.
* `not_mem_known_of_unknown` — a key is begun only if it is not known.
-/

set_option autoImplicit false

namespace JsonSchema

open Compilation Compiling

/-! ## Faults of references -/

namespace Scope

variable {library : Library} {base : Option Url} {scope : Scope} {uri : String} {f : Fault}

/-- The reference needs a document that is not there, or a place that is not in it. -/
def Lacks (library : Library) (scope : Scope) (uri : String) : Prop :=
  isLocal uri = false ∧
    ∃ r, split scope.base uri = .ok r ∧ ∀ document, library r.location = .ok document → document.navigate? r.fragment = none

/-- Exactly these references cannot be resolved, apart from those that stay in the document. -/
theorem lacks_iff :
    scope.Lacks library uri ↔
      isLocal uri = false ∧ ∃ u reason, (scope.resolve library uri).outcome = .error (.unresolvable u reason) := by
  unfold Lacks resolve
  refine and_congr_right fun hlocal => ?_
  rw [hlocal, if_neg Bool.false_ne_true]
  cases hsplit : split scope.base uri with
  | error f =>
    obtain ⟨reason, rfl⟩ := exists_invalidUri_of_split hsplit
    simp
  | ok r =>
    simp only [Run.outcome_requesting, Reference.follow, Except.ok.injEq, exists_eq_left']
    cases library r.location with
    | error e => simp
    | ok document => cases hnode : document.navigate? r.fragment <;> simp [hnode]

/-- A resolution that fails names the reference. -/
theorem eq_of_resolve_unresolvable {u reason : String}
    (h : (scope.resolve library uri).outcome = .error (.unresolvable u reason)) : u = uri := by
  obtain ⟨_, h | h⟩ := exists_of_resolve_error h
  · cases h
    rfl
  · cases h

end Scope

/-- The node reports that a reference out of its document could not be supplied. -/
def PlanNode.Unsupplied (n : PlanNode) : Prop :=
  ∃ uri reason, n = .fault (.unresolvable uri reason) ∧ Scope.isLocal uri = false

/-! ## Making nodes -/

variable {digest : String → String} {o : Options} {stored : PlanTable} {c d e : Compilation}

namespace Compiling

variable {next : Scope → Subschema → Compiling Link} {scope : Scope} {n : PlanNode}

/-- A reference is noted, and then its target is compiled, if there is one. -/
theorem result_reference {uri : String} (h : result (reference o next scope uri) c = (.ok n, e)) :
    (∃ f, (scope.resolve o.library uri).outcome = .error f ∧ n = .fault f ∧
      e = c.note uri (scope.resolve o.library uri)) ∨
    ∃ target link, (scope.resolve o.library uri).outcome = .ok target ∧
      result (next target.scope (.schema target.node)) (c.note uri (scope.resolve o.library uri)) = (.ok link, e) ∧
      n = .reference link := by
  unfold reference at h
  dsimp only at h
  rw [result_bind, result_modify] at h
  dsimp only at h
  split at h
  · rename_i f hfailed
    obtain ⟨hn, rfl⟩ := Prod.mk.inj h
    cases hn
    exact Or.inl ⟨f, hfailed, rfl, rfl⟩
  · rename_i target htarget
    obtain ⟨link, d, hlink, h⟩ := result_bind_eq_ok h
    obtain ⟨hn, rfl⟩ := Prod.mk.inj h
    cases hn
    exact Or.inr ⟨target, link, htarget, hlink, rfl⟩

theorem result_keywords {k : Keywords Subschema}
    (h : result (contentNode o next (.keywords scope k)) c = (.ok n, e)) :
    ∃ l, result (k.traverse (next scope)) c = (.ok l, e) ∧ n = .keywords l := by
  obtain ⟨l, d, hl, h⟩ := result_bind_eq_ok h
  obtain ⟨hn, rfl⟩ := Prod.mk.inj h
  cases hn
  exact ⟨l, hl, rfl⟩

end Compiling

/-! ## Going through handles -/

namespace Compiling

variable {S T : Type} {f : S → Compiling T}

theorem result_inOrder {k : Keywords S} {l : Keywords T} (h : result (k.traverse f) c = (.ok l, e)) :
    result (inOrder f k.handles) c = (.ok (), e) := by
  rw [← Keywords.traverse_eq_inOrder, result_bind, h]
  rfl

theorem result_inOrder_cons {x : S} {xs : List S} (h : result (inOrder f (x :: xs)) c = (.ok (), e)) :
    ∃ y d, result (f x) c = (.ok y, d) ∧ result (inOrder f xs) d = (.ok (), e) :=
  result_bind_eq_ok h

theorem result_inOrder_append {xs ys : List S} (h : result (inOrder f (xs ++ ys)) c = (.ok (), e)) :
    ∃ d, result (inOrder f xs) c = (.ok (), d) ∧ result (inOrder f ys) d = (.ok (), e) := by
  rw [inOrder_append] at h
  obtain ⟨_, d, hxs, hys⟩ := result_bind_eq_ok h
  exact ⟨d, hxs, hys⟩

/-- What each step keeps to is kept to by going through a list. -/
theorem inOrder_leads {L : Compilation → Compilation → Prop} (hrefl : ∀ c, L c c)
    (htrans : ∀ {c d e}, L c d → L d e → L c e) (hf : ∀ x c y d, result (f x) c = (.ok y, d) → L c d) {xs : List S}
    (h : result (inOrder f xs) c = (.ok (), e)) : L c e := by
  induction xs generalizing c with
  | nil =>
    obtain ⟨-, rfl⟩ := Prod.mk.inj h
    exact hrefl c
  | cons x xs ih =>
    obtain ⟨y, d, hx, hxs⟩ := result_inOrder_cons h
    exact htrans (hf x c y d hx) (ih hxs)

end Compiling

/-! ## What all steps keep to -/

/-- A relation between states that the changes of a compilation keep to. A node that reports a failed retrieval is made
only where this has been noted. -/
structure Progress (o : Options) (stored : PlanTable) (L : Compilation → Compilation → Prop) : Prop where
  refl : ∀ c, L c c
  trans : ∀ {c d e}, L c d → L d e → L c e
  note : ∀ (c : Compilation) (scope : Scope) (uri : String), L c (c.note uri (scope.resolve o.library uri))
  make : ∀ {c d key n}, c.link? stored key = none → L (c.begin key) d → (n.Unsupplied → d.missed = true) →
    L c (d.finish key n)

variable {L : Compilation → Compilation → Prop}

/-- What is noted of a reference that needs what is not there. -/
theorem missed_note {scope : Scope} {uri : String} (c : Compilation) :
    (c.note uri (scope.resolve o.library uri)).missed = true ↔ c.missed = true ∨ scope.Lacks o.library uri := by
  rw [Scope.lacks_iff, note]
  dsimp only
  rw [Bool.or_eq_true]
  refine or_congr_right ?_
  split
  · rename_i u reason hfailed
    simp [hfailed]
  · rename_i hother
    simp only [Bool.false_eq_true, false_iff, not_and, not_exists]
    exact fun _ u reason h => hother u reason h

theorem reference_progress (h : Progress o stored L) {next : Scope → Subschema → Compiling Link}
    (hnext : ∀ scope x c link d, result (next scope x) c = (.ok link, d) → L c d) {scope : Scope} {uri : String}
    {n : PlanNode} (hrun : result (reference o next scope uri) c = (.ok n, e)) :
    L c e ∧ (n.Unsupplied → e.missed = true) := by
  rcases result_reference hrun with ⟨f, hfailed, rfl, rfl⟩ | ⟨target, link, -, hlink, rfl⟩
  · refine ⟨h.note c scope uri, ?_⟩
    rintro ⟨u, reason, hf, hlocal⟩
    cases hf
    rw [Scope.eq_of_resolve_unresolvable hfailed] at hlocal
    exact (missed_note c).mpr (Or.inr (Scope.lacks_iff.mpr ⟨hlocal, u, reason, hfailed⟩))
  · refine ⟨h.trans (h.note c scope uri) (hnext _ _ _ _ _ hlink), ?_⟩
    rintro ⟨u, reason, hf, -⟩
    cases hf

theorem node_progress (h : Progress o stored L) {next : Scope → Subschema → Compiling Link}
    (hnext : ∀ scope x c link d, result (next scope x) c = (.ok link, d) → L c d) {scope : Scope} {x : Subschema}
    {n : PlanNode} (hrun : result (node o next scope x) c = (.ok n, e)) :
    L c e ∧ (n.Unsupplied → e.missed = true) := by
  rw [node_eq] at hrun
  cases hcontent : content scope x with
  | reference inner uri =>
    rw [hcontent] at hrun
    exact reference_progress h hnext hrun
  | keywords inner k =>
    rw [hcontent] at hrun
    obtain ⟨l, hl, rfl⟩ := result_keywords hrun
    refine ⟨inOrder_leads h.refl h.trans (hnext inner) (result_inOrder hl), ?_⟩
    rintro ⟨u, reason, hf, -⟩
    cases hf
  | fault f =>
    rw [hcontent] at hrun
    obtain ⟨hn, rfl⟩ := Prod.mk.inj hrun
    cases hn
    refine ⟨h.refl c, ?_⟩
    rintro ⟨u, reason, hf, -⟩
    obtain ⟨id, why, rfl⟩ := exists_invalidUri_of_content hcontent
    cases hf
  | accept =>
    rw [hcontent] at hrun
    obtain ⟨hn, rfl⟩ := Prod.mk.inj hrun
    cases hn
    exact ⟨h.refl c, fun ⟨_, _, hf, _⟩ => by cases hf⟩
  | notAnObject kind =>
    rw [hcontent] at hrun
    obtain ⟨hn, rfl⟩ := Prod.mk.inj hrun
    cases hn
    exact ⟨h.refl c, fun ⟨_, _, hf, _⟩ => by cases hf⟩

/-- **Compiling a place keeps to what all its steps keep to.** -/
theorem compileAt_progress (h : Progress o stored L) (depth : Nat) {scope : Scope} {x : Subschema} {link : Link}
    (hrun : result (compileAt digest o stored depth scope x) c = (.ok link, e)) : L c e := by
  induction depth using Nat.strong_induction_on generalizing scope x c link e with
  | _ depth ih =>
    cases hknown : c.link? stored (planKey digest scope x) with
    | some found =>
      rw [result_compileAt_of_known hknown] at hrun
      obtain ⟨-, rfl⟩ := Prod.mk.inj hrun
      exact h.refl c
    | none =>
      obtain ⟨depth', n, d, rfl, hnode, -, rfl⟩ := result_compileAt_of_unknown hknown hrun
      have hnext (scope x c link d) (hlink : result (compileAt digest o stored depth' scope x) c = (.ok link, d)) :
          L c d := ih depth' (Nat.lt_succ_self depth') hlink
      obtain ⟨hleads, hnoted⟩ := node_progress h hnext hnode
      exact h.make hknown hleads hnoted

/-- What is missing stays missing. -/
theorem missed_progress (o : Options) (stored : PlanTable) :
    Progress o stored fun c d => c.missed = true → d.missed = true where
  refl := fun _ h => h
  trans := fun hcd hde h => hde (hcd h)
  note := fun c _ _ h => (missed_note c).mpr (Or.inl h)
  make := fun _ hleads _ h => hleads h

/-- A key that is not known is neither stored nor finished nor in progress. -/
theorem not_mem_known_of_unknown {key : String} (h : c.link? stored key = none) : key ∉ c.known stored := by
  intro hmem
  unfold Compilation.link? at h
  simp only [known, List.mem_append, mem_keys_iff, or_assoc] at hmem
  split at h
  · cases h
  · rename_i hsome
    rw [Option.isSome_or, Bool.or_eq_true, not_or] at hsome
    split at h
    · cases h
    · rename_i hprogress
      rw [List.contains_iff_mem] at hprogress
      rcases hmem with hmem | hmem | hmem
      · exact hsome.1 hmem
      · exact hsome.2 hmem
      · exact hprogress hmem

end JsonSchema
