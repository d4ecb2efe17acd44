import Mathlib.Logic.Relation
import JsonSchema.Proofs.Plan.Content

/-!
# Absent instances

A property that an object lacks, and a position that an array does not reach, are held against their schemas as absent
instances. Most keywords have nothing to say about these. What is left are the ones that ask for presence: a flag under
`required`, the two negations, and an enumeration, which speaks of absent instances where `required` asks for something
at all, also if it only names properties.

## What is here

* `Gains` — a set holds what another one held, and what a condition says. `Gains.foldlM` — so does the end of a loop.
* `Forwards` and `LeadsTo` — the places that an instance is passed on to as it is, by references and extended schemas.
* `Undemanding` — a schema object that neither negates nor flags itself as required.
* `EnumeratesBesideNames` — a schema object with an enumeration beside a list of required names.
* `interpret_absent` — **where all places that are reached are undemanding, an absent instance is reported by the
  enumerations beside lists of required names, by each of them, and by nothing else**; the same for properties that are
  absent and positions that are not reached. `not_forall_interpret_absent_eq` — such an enumeration does report.
-/

set_option autoImplicit false

namespace JsonSchema

open Relation (ReflTransGen)

/-! ## Sets that gain -/

/-- A set holds what another one held in front, and what a condition says. -/
structure Gains (P : Violation → Prop) (s u : ErrorSet) : Prop where
  behind : s.records <+: u.records
  mem_iff : ∀ v, v ∈ u.records ↔ v ∈ s.records ∨ P v

namespace Gains

variable {P Q : Violation → Prop} {s t u : ErrorSet}

theorem refl (s : ErrorSet) (h : ∀ v, ¬P v) : Gains P s s :=
  ⟨List.prefix_refl _, fun v => ⟨Or.inl, fun hv => hv.resolve_right (h v)⟩⟩

theorem add (s : ErrorSet) (path message : String) :
    Gains (fun v => v = ⟨path, message⟩) s (s.add path message) :=
  ⟨s.prefix_add path message, fun _ => ErrorSet.mem_records_add⟩

theorem trans (h : Gains P s t) (h' : Gains Q t u) : Gains (fun v => P v ∨ Q v) s u :=
  ⟨h.behind.trans h'.behind, fun v => by rw [h'.mem_iff, h.mem_iff, or_assoc]⟩

theorem congr (h : Gains P s u) (hPQ : ∀ v, P v ↔ Q v) : Gains Q s u :=
  ⟨h.behind, fun v => by rw [h.mem_iff, hPQ]⟩

/-- A set that gains nothing stays as it is. -/
theorem eq (h : Gains P s u) (hP : ∀ v, ¬P v) : u = s := by
  obtain ⟨new, hnew⟩ := h.behind
  have hnodup := u.nodup
  rw [← hnew, List.nodup_append] at hnodup
  have hnil : new = [] := by
    refine List.eq_nil_iff_forall_not_mem.mpr fun v hv => ?_
    have hold : v ∈ s.records :=
      ((h.mem_iff v).mp (hnew ▸ List.mem_append_right _ hv)).resolve_right (hP v)
    exact hnodup.2.2 v hold v hv rfl
  rw [hnil, List.append_nil] at hnew
  exact ErrorSet.ext_records hnew.symm

/-- A loop gains what its steps gain. -/
theorem foldlM {α : Type} {P : α → Violation → Prop} {step : ErrorSet → α → Run ErrorSet} {xs : List α}
    (h : ∀ x ∈ xs, ∀ s t, (step s x).outcome = .ok t → Gains (P x) s t)
    (hu : (xs.foldlM step s).outcome = .ok u) : Gains (fun v => ∃ x ∈ xs, P x v) s u := by
  induction xs generalizing s with
  | nil =>
    cases hu
    exact refl _ (by simp)
  | cons x xs ih =>
    rw [List.foldlM_cons] at hu
    obtain ⟨t, ht, hrest⟩ := Run.outcome_bind_eq_ok.mp hu
    have hfirst := h x List.mem_cons_self s t ht
    have hlater := ih (fun y hy => h y (List.mem_cons_of_mem x hy)) hrest
    exact (hfirst.trans hlater).congr fun v => by simp

end Gains

/-! ## Places that an instance is passed on to -/

/-- One place passes the instance on to another one as it is: a reference to its target, or a schema object to a schema
that it extends. -/
inductive Forwards (library : Library) : Scope × Subschema → Scope × Subschema → Prop
  | target {scope inner : Scope} {x : Subschema} {uri : String} {target : Target}
    (hc : content scope x = .reference inner uri) (ht : (inner.resolve library uri).outcome = .ok target) :
    Forwards library (scope, x) (target.scope, .schema target.node)
  | extended {scope inner : Scope} {x z : Subschema} {k : Keywords Subschema}
    (hc : content scope x = .keywords inner k) (hz : z ∈ k.conditions.extended) : Forwards library (scope, x) (inner, z)

/-- An instance comes from one place to another one as it is. -/
def LeadsTo (library : Library) : Scope × Subschema → Scope × Subschema → Prop := ReflTransGen (Forwards library)

/-! ## Schema objects that ask for no presence -/

/-- A value of `required` that asks for the instance itself: anything but a list, `null` and `false`. -/
def AsksForItself : Option Json → Prop
  | none | some .null | some (.array _) | some (.bool false) => False
  | some _ => True

/-- A schema object that neither negates nor flags itself as required. -/
structure Undemanding (members : Members) : Prop where
  noNot : Json.findSome? members "not" = none
  noDisallow : Json.findSome? members "disallow" = none
  noFlag : ¬AsksForItself (Json.find? members "required")

/-- A schema object, and no reference, with an enumeration of the given text beside a list of required names. -/
structure EnumeratesBesideNames (members : Members) (text : String) : Prop where
  noReference : ∀ uri, Json.find? members "$ref" ≠ some (.string uri)
  names : ∃ values name, Json.find? members "required" = some (.array values) ∧ Json.string name ∈ values
  enumeration : ∃ j, Json.findSome? members "enum" = some j ∧ text = j.text

variable {library : Library}

/-- All schema objects that an instance comes to from a place are undemanding. -/
def AllUndemanding (library : Library) (place : Scope × Subschema) : Prop :=
  ∀ scope members, LeadsTo library place (scope, .schema (.object members)) → Undemanding members

/-- A violation that an enumeration beside a list of required names causes, where an instance comes to it from a
place. -/
def ReportedAbsent (library : Library) (path : String) (place : Scope × Subschema) (v : Violation) : Prop :=
  ∃ scope members text, LeadsTo library place (scope, .schema (.object members)) ∧
    EnumeratesBesideNames members text ∧ v = ⟨path, "does not have a value in the enumeration " ++ text⟩

theorem AllUndemanding.of_forwards {place next : Scope × Subschema} (h : AllUndemanding library place)
    (hforwards : Forwards library place next) : AllUndemanding library next :=
  fun scope members hleads => h scope members (ReflTransGen.head hforwards hleads)

/-- What is reported from a place is reported by its own enumeration, or from where the instance is passed on to. -/
theorem reportedAbsent_iff {path : String} {place : Scope × Subschema} {v : Violation} :
    ReportedAbsent library path place v ↔
      (∃ members text, place.2 = .schema (.object members) ∧ EnumeratesBesideNames members text ∧
        v = ⟨path, "does not have a value in the enumeration " ++ text⟩) ∨
      ∃ next, Forwards library place next ∧ ReportedAbsent library path next v := by
  constructor
  · rintro ⟨scope, members, text, hleads, henum, hv⟩
    rcases ReflTransGen.cases_head hleads with rfl | ⟨next, hforwards, hrest⟩
    · exact .inl ⟨members, text, rfl, henum, hv⟩
    · exact .inr ⟨next, hforwards, scope, members, text, hrest, henum, hv⟩
  · rintro (⟨members, text, hplace, henum, hv⟩ | ⟨next, hforwards, scope, members, text, hrest, henum, hv⟩)
    · exact ⟨place.1, members, text, hplace ▸ ReflTransGen.refl, henum, hv⟩
    · exact ⟨scope, members, text, ReflTransGen.head hforwards hrest, henum, hv⟩

/-! ## Keywords and absent instances -/

theorem Required.parse_eq_flag_iff {value : Option Json} : Required.parse value = .flag true ↔ AsksForItself value := by
  cases value with
  | none => simp [Required.parse, AsksForItself]
  | some j =>
    cases j with
    | bool b => cases b <;> simp [Required.parse, AsksForItself]
    | _ => simp [Required.parse, AsksForItself]

theorem Required.check_absent {r : Required} (h : r ≠ .flag true) (path : String) (s : ErrorSet) :
    r.check .absent path s = s := by
  unfold check
  split
  · contradiction
  · exact absurd rfl h
  · rfl

/-- Where `required` does not ask for the instance itself, it asks for something if it names something. -/
theorem Required.asks_parse_iff {value : Option Json} (h : ¬AsksForItself value) :
    (Required.parse value).asks = true ↔ ∃ values name, value = some (.array values) ∧ Json.string name ∈ values := by
  cases value with
  | none => simp [Required.parse, asks]
  | some j =>
    cases j with
    | array values =>
      have hnames : stringsOf values ≠ [] ↔ ∃ name, Json.string name ∈ values := by
        constructor
        · intro hne
          obtain ⟨name, hname⟩ := List.exists_mem_of_ne_nil _ hne
          obtain ⟨j, hj, hread⟩ := List.mem_filterMap.mp hname
          cases j <;> cases hread
          exact ⟨name, hj⟩
        · rintro ⟨name, hname⟩
          exact List.ne_nil_of_mem (List.mem_filterMap.mpr ⟨_, hname, rfl⟩)
      simpa [Required.parse, asks] using hnames
    | bool b => cases b <;> simp_all [Required.parse, asks, AsksForItself]
    | null => simp [Required.parse, asks]
    | _ => exact absurd trivial h

/-- An absent instance is no value of an enumeration. -/
theorem Enumeration.check_absent (e : Enumeration) (path : String) (s : ErrorSet) :
    e.check .absent path s =
      if e.checkAbsent then s.add path ("does not have a value in the enumeration " ++ e.text) else s := by
  have hnone : e.candidates.any Instance.absent.sameAs = false := by simp [Instance.sameAs]
  rw [check, hnone]
  cases e.checkAbsent <;> rfl

/-- Of the keywords of an undemanding schema object, extended schemas and the enumeration see an absent instance. -/
theorem Keywords.check_absent {members : Members} (h : Undemanding members) (mode : Mode) (formats : Formats)
    (apply : Checker Subschema) (path : String) (segment : Segment) (s : ErrorSet) :
    (parse members).check mode formats apply .absent path segment s =
      (parse members).conditions.extended.foldlM (fun s z => apply z .absent path .here s) s >>= fun s =>
        pure (match (parse members).enumeration with
          | some e => e.check .absent path s
          | none => s) := by
  have hrequired (s : ErrorSet) : (parse members).conditions.required.check .absent path s = s :=
    Required.check_absent (fun hflag => h.noFlag (Required.parse_eq_flag_iff.mp hflag)) path s
  have hdisallow : (parse members).conditions.disallow = none := by
    show (Json.findSome? members "disallow").map TypeRule.parse = none
    rw [h.noDisallow]
    rfl
  have hnot : (parse members).conditions.not = none := by
    show (Json.findSome? members "not").map Subschema.schema = none
    rw [h.noNot]
    rfl
  have htype (s : ErrorSet) :
      (parse members).conditions.checkType mode apply .absent path s = pure s := by
    unfold Conditions.checkType
    split <;> rfl
  have hconditions : (parse members).conditions.check mode apply .absent path s =
      (parse members).conditions.extended.foldlM (fun s z => apply z .absent path .here s) s := by
    rw [Conditions.check]
    simp only [hrequired, htype, Conditions.checkDisallow, hdisallow, Conditions.checkNot, hnot, bind_pure]
  have hcombinators (s : ErrorSet) : (parse members).combinators.check apply .absent path s = pure s := rfl
  have hkind (s : ErrorSet) : (parse members).checkKind mode formats apply .absent path segment s = pure s := rfl
  rw [check, hconditions]
  refine bind_congr fun t => ?_
  rw [hcombinators, pure_bind, hkind, pure_bind]
  cases (parse members).enumeration <;> rfl

/-- The enumeration of an undemanding schema object reports an absent instance beside required names. -/
theorem Keywords.enumeration_gains {members : Members} (h : Undemanding members)
    (hreference : ∀ uri, Json.find? members "$ref" ≠ some (.string uri)) (path : String) (s : ErrorSet) :
    Gains (fun v => ∃ text, EnumeratesBesideNames members text ∧
        v = ⟨path, "does not have a value in the enumeration " ++ text⟩) s
      (match (parse members).enumeration with
        | some e => e.check .absent path s
        | none => s) := by
  have henumeration : (parse members).enumeration =
      Enumeration.parse? members (Required.parse (Json.find? members "required")).asks := rfl
  rw [henumeration, Enumeration.parse?]
  cases hfound : Json.findSome? members "enum" with
  | none =>
    refine Gains.refl s ?_
    rintro v ⟨text, henum, -⟩
    obtain ⟨j, hj, -⟩ := henum.enumeration
    rw [hfound] at hj
    cases hj
  | some j =>
    simp only [Option.map_some, Enumeration.check_absent]
    by_cases hasks : (Required.parse (Json.find? members "required")).asks = true
    · rw [if_pos hasks]
      refine (Gains.add s path _).congr fun v => ⟨fun hv => ?_, ?_⟩
      · exact ⟨j.text, ⟨hreference, (Required.asks_parse_iff h.noFlag).mp hasks, j, hfound, rfl⟩, hv⟩
      · rintro ⟨text, henum, hv⟩
        obtain ⟨j', hj', rfl⟩ := henum.enumeration
        rw [hfound] at hj'
        cases hj'
        exact hv
    · rw [if_neg hasks]
      refine Gains.refl s ?_
      rintro v ⟨text, henum, -⟩
      exact hasks ((Required.asks_parse_iff h.noFlag).mpr henum.names)

/-! ## Interpretation -/

/-- Keywords are read from a schema object that is no reference. -/
theorem ne_reference_of_content {scope inner : Scope} {members : Members} {k : Keywords Subschema}
    (h : content scope (.schema (.object members)) = .keywords inner k) (uri : String) :
    Json.find? members "$ref" ≠ some (.string uri) := by
  intro href
  rw [content] at h
  split at h
  · cases h
  · rw [memberContent, href] at h
    cases h

/-- Where there is nothing to check, there is nothing to report. -/
theorem not_reportedAbsent_of_accept {path : String} {scope : Scope} {x : Subschema} {v : Violation}
    (hc : content scope x = .accept) : ¬ReportedAbsent library path (scope, x) v := by
  rw [reportedAbsent_iff]
  rintro (⟨members, text, hplace, -⟩ | ⟨next, hforwards, -⟩)
  · dsimp only at hplace
    rw [hplace, content] at hc
    split at hc
    · cases hc
    · unfold memberContent at hc
      split at hc <;> cases hc
  · cases hforwards with
    | target hc' ht => cases hc.symm.trans hc'
    | extended hc' hz => cases hc.symm.trans hc'

/-- A reference passes the instance on to its target. -/
theorem forwards_iff_of_reference {scope inner : Scope} {x : Subschema} {uri : String} {target : Target}
    (hc : content scope x = .reference inner uri) (ht : (inner.resolve library uri).outcome = .ok target)
    {next : Scope × Subschema} : Forwards library (scope, x) next ↔ next = (target.scope, .schema target.node) := by
  constructor
  · intro h
    cases h with
    | target hc' ht' =>
      cases hc.symm.trans hc'
      cases ht.symm.trans ht'
      rfl
    | extended hc' hz => cases hc.symm.trans hc'
  · rintro rfl
    exact .target hc ht

/-- A schema object passes the instance on to the schemas that it extends. -/
theorem forwards_iff_of_keywords {scope inner : Scope} {x : Subschema} {k : Keywords Subschema}
    (hc : content scope x = .keywords inner k) {next : Scope × Subschema} :
    Forwards library (scope, x) next ↔ ∃ z ∈ k.conditions.extended, next = (inner, z) := by
  constructor
  · intro h
    cases h with
    | target hc' ht => cases hc.symm.trans hc'
    | extended hc' hz =>
      cases hc.symm.trans hc'
      exact ⟨_, hz, rfl⟩
  · rintro ⟨z, hz, rfl⟩
    exact .extended hc hz

/-- All is undemanding from a schema object that is so itself, if it is from all schemas that it extends. -/
theorem AllUndemanding.of_keywords {scope inner : Scope} {members : Members} {k : Keywords Subschema}
    (hc : content scope (.schema (.object members)) = .keywords inner k) (h : Undemanding members)
    (hextended : ∀ z ∈ k.conditions.extended, AllUndemanding library (inner, z)) :
    AllUndemanding library (scope, .schema (.object members)) := by
  intro last members' hleads
  rcases ReflTransGen.cases_head hleads with heq | ⟨next, hnext, hrest⟩
  · cases heq
    exact h
  · obtain ⟨z, hz, rfl⟩ := (forwards_iff_of_keywords hc).mp hnext
    exact hextended z hz last members' hrest

/-- A reference reports what its target does: an enumeration beside it is not read. -/
theorem reportedAbsent_iff_of_reference {path : String} {scope inner : Scope} {x : Subschema} {uri : String} {target : Target}
    {v : Violation} (hc : content scope x = .reference inner uri) (ht : (inner.resolve library uri).outcome = .ok target) :
    ReportedAbsent library path (scope, x) v ↔
      ReportedAbsent library path (target.scope, .schema target.node) v := by
  have hforwards {next : Scope × Subschema} : Forwards library (scope, x) next ↔ next = (target.scope, .schema target.node) :=
    forwards_iff_of_reference hc ht
  rw [reportedAbsent_iff]
  constructor
  · rintro (⟨members, text, hplace, henum, -⟩ | ⟨next, hnext, hv⟩)
    · rcases content_eq_reference hc with ⟨rfl, -⟩ | ⟨members', rfl, -, href⟩ <;> cases hplace
      exact absurd href (henum.noReference uri)
    · exact hforwards.mp hnext ▸ hv
  · exact fun hv => .inr ⟨_, hforwards.mpr rfl, hv⟩

/-- A schema object reports what the schemas that it extends do, and what its own enumeration does. -/
theorem reportedAbsent_iff_of_keywords {path : String} {scope inner : Scope} {members : Members} {k : Keywords Subschema}
    {v : Violation} (hc : content scope (.schema (.object members)) = .keywords inner k) :
    ReportedAbsent library path (scope, .schema (.object members)) v ↔
      (∃ z ∈ k.conditions.extended, ReportedAbsent library path (inner, z) v) ∨
        ∃ text, EnumeratesBesideNames members text ∧ v = ⟨path, "does not have a value in the enumeration " ++ text⟩ := by
  rw [reportedAbsent_iff, or_comm]
  refine or_congr ⟨?_, ?_⟩ ⟨?_, ?_⟩
  · rintro ⟨next, hnext, hv⟩
    obtain ⟨z, hz, rfl⟩ := (forwards_iff_of_keywords hc).mp hnext
    exact ⟨z, hz, hv⟩
  · rintro ⟨z, hz, hv⟩
    exact ⟨(inner, z), (forwards_iff_of_keywords hc).mpr ⟨z, hz, rfl⟩, hv⟩
  · rintro ⟨members', text, hplace, henum, hv⟩
    cases hplace
    exact ⟨text, henum, hv⟩
  · rintro ⟨text, henum, hv⟩
    exact ⟨members, text, rfl, henum, hv⟩

/-- **What an absent instance is reported for**, where the places it comes to are undemanding. The induction is on the
levels that may be entered: a finished evaluation has been to all places that it reaches. -/
theorem interpret_absent_gains (o : Options) (depth : Nat) {scope : Scope} {x : Subschema}
    (h : AllUndemanding o.library (scope, x)) (path : String) (segment : Segment) {s u : ErrorSet}
    (hu : (interpret o depth scope x .absent path segment s).outcome = .ok u) :
    Gains (ReportedAbsent o.library path (scope, x)) s u := by
  induction depth generalizing scope x segment s u with
  | zero => exact nomatch hu
  | succ depth ih =>
    rw [interpret_content] at hu
    cases hc : content scope x with
    | accept =>
      rw [hc] at hu
      cases hu
      exact Gains.refl _ fun v => not_reportedAbsent_of_accept hc
    | notAnObject kind =>
      rw [hc] at hu
      exact nomatch hu
    | fault f =>
      rw [hc] at hu
      exact nomatch hu
    | reference inner uri =>
      rw [hc] at hu
      obtain ⟨target, ht, hrest⟩ := Run.outcome_bind_eq_ok.mp hu
      have hnext : Forwards o.library (scope, x) (target.scope, .schema target.node) := .target hc ht
      exact (ih (h.of_forwards hnext) segment hrest).congr fun v => (reportedAbsent_iff_of_reference hc ht).symm
    | keywords inner k =>
      rw [hc] at hu
      obtain ⟨members, rfl, henter, rfl⟩ := content_eq_keywords hc
      have hund : Undemanding members := h scope members ReflTransGen.refl
      rw [interpretContent, Keywords.check_absent hund] at hu
      obtain ⟨t, ht, hrest⟩ := Run.outcome_bind_eq_ok.mp hu
      have hextended : Gains (fun v => ∃ z ∈ (Keywords.parse members).conditions.extended,
          ReportedAbsent o.library path (inner, z) v) s t :=
        Gains.foldlM (fun z hz s t hz' => ih (h.of_forwards (.extended hc hz)) .here hz') ht
      cases hrest
      have hown := Keywords.enumeration_gains hund (ne_reference_of_content hc) path t
      -- what the extended schemas report comes first, but the order is not told
      exact (hextended.trans hown).congr fun v => (reportedAbsent_iff_of_keywords hc).symm

/-! ## Absent properties and positions -/

/-- No place that an instance comes to from a place has an enumeration beside a list of required names. -/
def NoneEnumerates (library : Library) (place : Scope × Subschema) : Prop :=
  ∀ scope members text, LeadsTo library place (scope, .schema (.object members)) → ¬EnumeratesBesideNames members text

theorem NoneEnumerates.not_reported {place : Scope × Subschema} (h : NoneEnumerates library place) (path : String)
    (v : Violation) : ¬ReportedAbsent library path place v :=
  fun ⟨scope, members, text, hleads, henum, _⟩ => h scope members text hleads henum

/-- Positions that an array does not reach are reported as their schemas say, each at its own path. -/
theorem checkPositions_absent_gains (o : Options) (depth : Nat) {scope : Scope} (additional : Additional Subschema)
    (path : String) (segment : Segment) {xs : List Subschema} (h : ∀ x ∈ xs, AllUndemanding o.library (scope, x))
    {position : Nat} {s u : ErrorSet}
    (hu : (ElementRules.checkPositions (interpretBelow o depth scope) additional path segment position xs [] s).outcome =
      .ok u) :
    Gains (fun v => ∃ n x, xs[n]? = some x ∧
      ReportedAbsent o.library (extendPath path (.index (position + n))) (scope, x) v) s u := by
  induction xs generalizing position s with
  | nil =>
    rw [ElementRules.checkPositions] at hu
    cases hu
    exact Gains.refl _ (by simp)
  | cons x xs ih =>
    rw [ElementRules.checkPositions] at hu
    obtain ⟨t, ht, hrest⟩ := Run.outcome_bind_eq_ok.mp hu
    have hfirst := interpret_absent_gains o depth (h x List.mem_cons_self) _ _ ht
    have hlater := ih (fun y hy => h y (List.mem_cons_of_mem x hy)) hrest
    refine (hfirst.trans hlater).congr fun v => ⟨?_, ?_⟩
    · rintro (hv | ⟨n, y, hy, hv⟩)
      · exact ⟨0, x, rfl, hv⟩
      · rw [Nat.add_assoc, Nat.add_comm 1 n] at hv
        exact ⟨n + 1, y, hy, hv⟩
    · rintro ⟨n, y, hy, hv⟩
      cases n with
      | zero =>
        cases hy
        exact .inl hv
      | succ n =>
        rw [Nat.add_comm n 1, ← Nat.add_assoc] at hv
        exact .inr ⟨n, y, hy, hv⟩

/-- **Absent instances of undemanding schemas** are reported by the enumerations beside lists of required names that
they come to, by each of them, and by nothing else: where an absent instance is held against a place, where an object
lacks a property, and where an array does not reach positions. Without such enumerations nothing is added. The same
holds along the links of a plan whose nodes realize the places they stand for. -/
theorem interpret_absent (o : Options) (depth : Nat) (scope : Scope) (path : String) (s u : ErrorSet) :
    (∀ x segment, AllUndemanding o.library (scope, x) →
      (interpret o depth scope x .absent path segment s).outcome = .ok u →
        Gains (ReportedAbsent o.library path (scope, x)) s u ∧ (NoneEnumerates o.library (scope, x) → u = s)) ∧
    (∀ (p : PropertyRule Subschema) members, AllUndemanding o.library (scope, p.schema) →
      Json.find? members p.name = none →
      (PropertyRules.checkProperty (interpretBelow o depth scope) members path s p).outcome = .ok u →
        Gains (ReportedAbsent o.library (extendPath path (.key p.name)) (scope, p.schema)) s u ∧
          (NoneEnumerates o.library (scope, p.schema) → u = s)) ∧
    (∀ additional segment position (xs : List Subschema), (∀ x ∈ xs, AllUndemanding o.library (scope, x)) →
      (ElementRules.checkPositions (interpretBelow o depth scope) additional path segment position xs [] s).outcome =
          .ok u →
        Gains (fun v => ∃ n x, xs[n]? = some x ∧
            ReportedAbsent o.library (extendPath path (.index (position + n))) (scope, x) v) s u ∧
          ((∀ x ∈ xs, NoneEnumerates o.library (scope, x)) → u = s)) ∧
    ∀ (R : Scope → Subschema → Link → Prop) (find : Link → Option PlanNode),
      (∀ t x link, R t x link → ∃ n, find link = some n ∧ Realizes R o.library n (content t x)) →
      ∀ x link segment, R scope x link → AllUndemanding o.library (scope, x) →
        (runPlan o find depth link .absent path segment s).outcome = .ok u →
          Gains (ReportedAbsent o.library path (scope, x)) s u ∧ (NoneEnumerates o.library (scope, x) → u = s) := by
  have hplace (x : Subschema) (segment : Segment) (h : AllUndemanding o.library (scope, x))
      (hu : (interpret o depth scope x .absent path segment s).outcome = .ok u) :
      Gains (ReportedAbsent o.library path (scope, x)) s u ∧ (NoneEnumerates o.library (scope, x) → u = s) :=
    have hgains := interpret_absent_gains o depth h path segment hu
    ⟨hgains, fun hnone => hgains.eq (hnone.not_reported path)⟩
  refine ⟨hplace, fun p members h hlacks hu => ?_, fun additional segment position xs h hu => ?_,
    fun R find hfind x link segment hlink h hu => ?_⟩
  · rw [PropertyRules.checkProperty, hlacks] at hu
    have hgains := interpret_absent_gains o depth h _ _ hu
    exact ⟨hgains, fun hnone => hgains.eq (hnone.not_reported _)⟩
  · have hgains := checkPositions_absent_gains o depth additional path segment h hu
    refine ⟨hgains, fun hnone => hgains.eq ?_⟩
    rintro v ⟨n, x, hx, hv⟩
    exact (hnone x (List.mem_of_getElem? hx)).not_reported _ v hv
  · rw [runPlan_eq_interpret hfind depth hlink] at hu
    exact hplace x segment h hu

/-- A schema object with an enumeration beside a list of required names. -/
def namesBeside : Members := [("enum", .array [.integer 1]), ("required", .array [.string "b"])]

/-- A schema object without requirements of its own that extends the former. -/
def extendsNamesBeside : Members := [("type", .string "string"), ("extends", .object namesBeside)]

theorem allUndemanding_namesBeside (scope : Scope) : AllUndemanding library (scope, .schema (.object namesBeside)) :=
  .of_keywords rfl ⟨rfl, rfl, id⟩ fun _ hz => absurd hz List.not_mem_nil

theorem allUndemanding_extendsNamesBeside (scope : Scope) :
    AllUndemanding library (scope, .schema (.object extendsNamesBeside)) := by
  refine .of_keywords rfl ⟨rfl, rfl, id⟩ fun z hz => ?_
  obtain rfl : z = .schema (.object namesBeside) := List.mem_singleton.mp hz
  exact allUndemanding_namesBeside scope

/-- An empty object lacks the property `a`, whose schema has no requirements, but extends one with an enumeration beside
a list of required names. -/
theorem interpret_absent_extended :
    let o := Options.withFormats .empty
    let scope : Scope := { root := .object [], base := none }
    let p : PropertyRule Subschema := PropertyRule.parse ("a", .object extendsNamesBeside)
    let u := (∅ : ErrorSet).add "a" "does not have a value in the enumeration [1]"
    (PropertyRules.checkProperty (interpretBelow o 5 scope) [] "" ∅ p).outcome = .ok u ∧
      Gains (ReportedAbsent o.library "a" (scope, p.schema)) ∅ u := by
  intro o scope p u
  have hu : (PropertyRules.checkProperty (interpretBelow o 5 scope) [] "" ∅ p).outcome = .ok u := by decide +kernel
  have hgains := ((interpret_absent o 5 scope "" ∅ u).2.1 p [] (allUndemanding_extendsNamesBeside scope) rfl hu).1
  have hpath : extendPath "" (.key p.name) = "a" := by decide +kernel
  rw [hpath] at hgains
  exact ⟨hu, hgains⟩

/-- An absent instance may be reported, although nothing that it comes to negates or is flagged as required: an
enumeration beside a list of required names does so. -/
theorem not_forall_interpret_absent_eq :
    ¬∀ (o : Options) (depth : Nat) (scope : Scope) (x : Subschema) (path : String) (segment : Segment) (s u : ErrorSet),
      AllUndemanding o.library (scope, x) → (interpret o depth scope x .absent path segment s).outcome = .ok u → u = s := by
  intro h
  let scope : Scope := { root := .object [], base := none }
  have hreport : (interpret (.withFormats .empty) 5 scope (.schema (.object namesBeside)) .absent "a" .here ∅).outcome =
      .ok ((∅ : ErrorSet).add "a" "does not have a value in the enumeration [1]") := by decide +kernel
  exact ErrorSet.add_ne_empty _ _ _ (h _ _ _ _ _ _ _ _ (allUndemanding_namesBeside scope) hreport)

end JsonSchema
