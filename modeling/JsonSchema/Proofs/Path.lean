import JsonSchema.Proofs.Location
import JsonSchema.Proofs.Number.Grammar
import JsonSchema.Proofs.Text

/-!
# Paths tell locations apart

A path does not escape the names in it, and leaves out empty ones. Where names are not empty and have neither dots nor
opening brackets in them, it can still be read in one way only: a name goes up to the next dot or bracket, and a position
up to the closing bracket. So violations at different locations are different records, as long as the names of absent
members, which a value does not have and only a schema tells, are such names too.

## What is here

* `Pointer.Step.IsPlain` — a position, or a name that a path shows as it is. `Pointer.render_inj` — **plain steps are
  written in different ways**.
* `Segment.step?` — the step of a segment. `foldl_extendPath` — segments that stay where they are leave no trace in a path.
* `ErrorSet.records_ofList` — a set has the violations of a list at their first occurrences.
* `Json.IsTold` — a location whose steps are plain if nothing is there.
* `paths_tell_apart` — **violations at different locations stay apart**. `not_forall_paths_tell_apart` — but not where the
  name of an absent member looks like a path.
-/

set_option autoImplicit false

namespace JsonSchema

open Pointer (Step)

/-! ## Reading a path -/

/-- What goes up to a stop can be told from what follows. -/
theorem Text.append_stop_inj {p : Char → Bool} {a b s t : List Char} (ha : ∀ c ∈ a, p c = true)
    (hb : ∀ c ∈ b, p c = true) (hs : ∀ c ∈ s.head?, p c = false) (ht : ∀ c ∈ t.head?, p c = false)
    (h : a ++ s = b ++ t) : a = b ∧ s = t := by
  have htake := congrArg (List.takeWhile p) h
  have hdrop := congrArg (List.dropWhile p) h
  rw [takeWhile_append_stop ha hs, takeWhile_append_stop hb ht] at htake
  rw [dropWhile_append_stop ha hs, dropWhile_append_stop hb ht] at hdrop
  exact ⟨htake, hdrop⟩

/-- Whether a name goes on with a character: it would end at a dot or an opening bracket. -/
def goesOn (c : Char) : Bool := c != '.' && c != '['

/-- A name that paths show as it is: not empty, and without dots and opening brackets. -/
def IsPlainName (name : String) : Prop := name ≠ "" ∧ ∀ c ∈ name.toList, goesOn c = true

instance (name : String) : Decidable (IsPlainName name) :=
  decidable_of_iff (name ≠ "" ∧ name.toList.all goesOn = true) (and_congr_right' List.all_eq_true)

namespace Pointer

/-- A position, or a plain name. -/
def Step.IsPlain : Step → Prop
  | .key name => IsPlainName name
  | .index _ => True

instance (step : Step) : Decidable step.IsPlain :=
  match step with
  | .key name => inferInstanceAs (Decidable (IsPlainName name))
  | .index _ => inferInstanceAs (Decidable True)

/-- A step at the start of a path. -/
def Step.atStart : Step → List Char
  | .key name => name.toList
  | .index position => '[' :: (Nat.toDigits 10 position ++ [']'])

/-- A step further on. -/
def Step.furtherOn : Step → List Char
  | .key name => '.' :: name.toList
  | .index position => '[' :: (Nat.toDigits 10 position ++ [']'])

variable {step step' : Step} {steps steps' : List Step} {path : String}

theorem extendPath_start (step : Step) : (extendPath "" step.segment).toList = step.atStart := by
  cases step with
  | key name => by_cases hname : name.isEmpty <;> simp_all [Step.segment, Step.atStart, extendPath]
  | index position => simp [Step.segment, Step.atStart, extendPath, Segment.text]

theorem extendPath_further (hpath : path ≠ "") (hstep : step.IsPlain) :
    (extendPath path step.segment).toList = path.toList ++ step.furtherOn := by
  cases step with
  | key name =>
    have hname : name ≠ "" := hstep.1
    simp [Step.segment, Step.furtherOn, extendPath, hname, hpath]
  | index position => simp [Step.segment, Step.furtherOn, extendPath, Segment.text]

theorem atStart_ne_nil (hstep : step.IsPlain) : step.atStart ≠ [] := by
  cases step with
  | key name => exact mt String.toList_eq_nil_iff.mp hstep.1
  | index position => exact List.cons_ne_nil _ _

/-- From a path that is not empty each step goes further on. -/
theorem foldl_extendPath_further (hpath : path ≠ "") (hsteps : ∀ step ∈ steps, step.IsPlain) :
    (steps.foldl (fun path step => extendPath path step.segment) path).toList =
      path.toList ++ steps.flatMap Step.furtherOn := by
  induction steps generalizing path with
  | nil => simp
  | cons step steps ih =>
    obtain ⟨hstep, hrest⟩ := List.forall_mem_cons.mp hsteps
    have hnext := extendPath_further hpath hstep
    have hne : extendPath path step.segment ≠ "" := by
      rw [ne_eq, ← String.toList_eq_nil_iff, hnext, List.append_eq_nil_iff, String.toList_eq_nil_iff]
      exact fun h => hpath h.1
    rw [List.foldl_cons, ih hne hrest, hnext, List.flatMap_cons, List.append_assoc]

/-- The first step stands at the start of the path, and the others go further on. -/
theorem toList_render (hsteps : ∀ step ∈ steps, step.IsPlain) : (render steps).toList =
    match steps with
    | [] => []
    | step :: steps => step.atStart ++ steps.flatMap Step.furtherOn := by
  cases steps with
  | nil => rfl
  | cons step steps =>
    obtain ⟨hstep, hrest⟩ := List.forall_mem_cons.mp hsteps
    have hne : extendPath "" step.segment ≠ "" := by
      rw [ne_eq, ← String.toList_eq_nil_iff, extendPath_start]
      exact atStart_ne_nil hstep
    rw [render, List.foldl_cons, foldl_extendPath_further hne hrest, extendPath_start]

/-! ### One way of reading -/

/-- A dot or a bracket ends a name. -/
theorem head?_furtherOn (steps : List Step) : ∀ c ∈ (steps.flatMap Step.furtherOn).head?, goesOn c = false := by
  rcases steps with _ | ⟨_ | _, steps⟩ <;> simp [Step.furtherOn, goesOn]

/-- A position goes up to its closing bracket. -/
theorem index_append_inj {m n : Nat} {s t : List Char}
    (h : Nat.toDigits 10 m ++ [']'] ++ s = Nat.toDigits 10 n ++ [']'] ++ t) : m = n ∧ s = t := by
  rw [List.append_assoc, List.append_assoc] at h
  have hstop (u : List Char) : ∀ c ∈ ([']'] ++ u).head?, c.isDigit = false := by simp
  obtain ⟨hdigits, hrest⟩ :=
    Text.append_stop_inj isDigit_of_mem_toDigits isDigit_of_mem_toDigits (hstop s) (hstop t) h
  have hvalue := congrArg digitsValue hdigits
  rw [digitsValue_toDigits, digitsValue_toDigits] at hvalue
  exact ⟨hvalue, (List.cons.inj hrest).2⟩

/-- A name goes up to the next dot or bracket. -/
theorem name_append_inj {name name' : String} (hname : IsPlainName name) (hname' : IsPlainName name')
    (h : name.toList ++ steps.flatMap Step.furtherOn = name'.toList ++ steps'.flatMap Step.furtherOn) :
    name = name' ∧ steps.flatMap Step.furtherOn = steps'.flatMap Step.furtherOn := by
  obtain ⟨heq, hrest⟩ := Text.append_stop_inj hname.2 hname'.2 (head?_furtherOn steps) (head?_furtherOn steps') h
  exact ⟨String.toList_injective heq, hrest⟩

/-- What goes further on can be read in one way. -/
theorem flatMap_furtherOn_inj (hsteps : ∀ step ∈ steps, step.IsPlain) (hsteps' : ∀ step ∈ steps', step.IsPlain)
    (h : steps.flatMap Step.furtherOn = steps'.flatMap Step.furtherOn) : steps = steps' := by
  induction steps generalizing steps' with
  | nil =>
    rcases steps' with _ | ⟨_ | _, steps'⟩
    · rfl
    · cases h
    · cases h
  | cons step steps ih =>
    obtain ⟨hstep, hrest⟩ := List.forall_mem_cons.mp hsteps
    rcases steps' with _ | ⟨step', steps'⟩
    · cases step <;> cases h
    obtain ⟨hstep', hrest'⟩ := List.forall_mem_cons.mp hsteps'
    rw [List.flatMap_cons, List.flatMap_cons] at h
    cases step with
    | key name =>
      cases step' with
      | key name' =>
        obtain ⟨rfl, hbehind⟩ := name_append_inj hstep hstep' (List.cons.inj h).2
        rw [ih hrest hrest' hbehind]
      | index n => exact absurd (List.cons.inj h).1 (by decide)
    | index m =>
      cases step' with
      | key name' => exact absurd (List.cons.inj h).1 (by decide)
      | index n =>
        obtain ⟨rfl, hbehind⟩ := index_append_inj (List.cons.inj h).2
        rw [ih hrest hrest' hbehind]

/-- A name does not start with a bracket. -/
theorem name_append_ne {name : String} (hname : IsPlainName name) {s t : List Char} : name.toList ++ s ≠ '[' :: t := by
  obtain ⟨c, cs, hcs⟩ := List.exists_cons_of_ne_nil (mt String.toList_eq_nil_iff.mp hname.1)
  have hc : goesOn c = true := hname.2 c (hcs ▸ List.mem_cons_self)
  rw [hcs]
  rintro h
  rw [(List.cons.inj h).1] at hc
  exact absurd hc (by decide)

/-- Plain steps are written in different ways. -/
theorem render_inj (hsteps : ∀ step ∈ steps, step.IsPlain) (hsteps' : ∀ step ∈ steps', step.IsPlain)
    (h : render steps = render steps') : steps = steps' := by
  have htext := congrArg String.toList h
  rw [toList_render hsteps, toList_render hsteps'] at htext
  rcases steps with _ | ⟨step, steps⟩
  · rcases steps' with _ | ⟨step', steps'⟩
    · rfl
    · exact absurd (List.append_eq_nil_iff.mp htext.symm).1 (atStart_ne_nil (hsteps' step' List.mem_cons_self))
  rcases steps' with _ | ⟨step', steps'⟩
  · exact absurd (List.append_eq_nil_iff.mp htext).1 (atStart_ne_nil (hsteps step List.mem_cons_self))
  obtain ⟨hstep, hrest⟩ := List.forall_mem_cons.mp hsteps
  obtain ⟨hstep', hrest'⟩ := List.forall_mem_cons.mp hsteps'
  dsimp only at htext
  cases step with
  | key name =>
    cases step' with
    | key name' =>
      obtain ⟨rfl, hbehind⟩ := name_append_inj hstep hstep' htext
      rw [flatMap_furtherOn_inj hrest hrest' hbehind]
    | index n => exact absurd htext (name_append_ne hstep)
  | index m =>
    cases step' with
    | key name' => exact absurd htext.symm (name_append_ne hstep')
    | index n =>
      obtain ⟨rfl, hbehind⟩ := index_append_inj (List.cons.inj htext).2
      rw [flatMap_furtherOn_inj hrest hrest' hbehind]

end Pointer

/-! ## Segments -/

namespace Segment

/-- The step of a segment, if it is one. -/
def step? : Segment → Option Step
  | .here => none
  | .key name => some (.key name)
  | .index position => some (.index position)

/-- A segment without a step, or with a plain one. -/
def IsPlain (segment : Segment) : Prop := ∀ step ∈ segment.step?, step.IsPlain

instance (segment : Segment) : Decidable segment.IsPlain :=
  match segment with
  | .here => .isTrue (by simp [IsPlain, step?])
  | .key name => decidable_of_iff (IsPlainName name) (by simp [IsPlain, step?, Step.IsPlain])
  | .index _ => .isTrue (by simp [IsPlain, step?, Step.IsPlain])

end Segment

/-- Segments that stay where they are leave no trace in a path. -/
theorem foldl_extendPath (segments : List Segment) :
    segments.foldl extendPath "" = Pointer.render (segments.filterMap Segment.step?) := by
  rw [Pointer.render, List.foldl_filterMap]
  refine congrFun (congrFun (congrArg List.foldl ?_) _) _
  funext path segment
  cases segment <;> rfl

theorem isPlain_of_mem_steps {segments : List Segment} (h : ∀ segment ∈ segments, segment.IsPlain) :
    ∀ step ∈ segments.filterMap Segment.step?, step.IsPlain := by
  intro step hstep
  obtain ⟨segment, hsegment, heq⟩ := List.mem_filterMap.mp hstep
  exact h segment hsegment step heq

/-! ## Findings -/

/-- A location and what is wrong there. -/
abbrev Finding := List Step × String

/-- What is recorded of a finding. -/
def Finding.violation (f : Finding) : Violation := ⟨Pointer.render f.1, f.2⟩

section

variable {α β : Type} [BEq α] [LawfulBEq α] [BEq β] [LawfulBEq β]

theorem eraseDups_concat (xs : List α) (x : α) :
    (xs ++ [x]).eraseDups = if x ∈ xs then xs.eraseDups else xs.eraseDups ++ [x] := by
  have hone : [x].eraseDups = [x] := rfl
  rw [List.eraseDups_append]
  by_cases hx : x ∈ xs
  · simp [hx, List.removeAll]
  · simp [hx, List.removeAll, hone]

/-- What is told apart is repeated where the originals are. -/
theorem eraseDups_map_of_inj {f : α → β} {xs : List α} (h : ∀ x ∈ xs, ∀ y ∈ xs, f x = f y → x = y) :
    (xs.map f).eraseDups = xs.eraseDups.map f := by
  induction xs using List.reverseRecOn with
  | nil => rfl
  | append_singleton xs x ih =>
    have hmem : f x ∈ xs.map f ↔ x ∈ xs := by
      refine ⟨fun hx => ?_, List.mem_map_of_mem⟩
      obtain ⟨y, hy, heq⟩ := List.mem_map.mp hx
      exact h y (by simp [hy]) x (by simp) heq ▸ hy
    rw [List.map_append, List.map_singleton, eraseDups_concat, eraseDups_concat, if_congr hmem rfl rfl,
      ih fun y hy z hz => h y (by simp [hy]) z (by simp [hz])]
    split
    · rfl
    · rw [List.map_append, List.map_singleton]

end

/-- A set has the violations of a list at their first occurrences. -/
theorem ErrorSet.records_ofList (vs : List Violation) : (ofList vs).records = vs.eraseDups := by
  induction vs using List.reverseRecOn with
  | nil => rfl
  | append_singleton vs v ih =>
    have hpush : ofList (vs ++ [v]) = (ofList vs).push v := extendList_append ∅ vs [v]
    rw [hpush, records_push, ih, eraseDups_concat]
    exact if_congr List.mem_eraseDups rfl rfl

/-! ## The names in a value -/

namespace Json

mutual

/-- The names in a value, at any depth. -/
def names : Json → List String
  | .array elements => elementNames elements
  | .object members => memberNames members
  | .null | .bool _ | .integer _ | .real _ | .string _ => []

/-- The names in all elements. -/
def elementNames : List Json → List String
  | [] => []
  | e :: es => names e ++ elementNames es

/-- The names of all members, and those in their values. -/
def memberNames : List (String × Json) → List String
  | [] => []
  | (name, v) :: ms => name :: (names v ++ memberNames ms)

end

/-- A value all of whose names are plain. -/
def HasPlainNames (value : Json) : Prop := ∀ name ∈ value.names, IsPlainName name

instance (value : Json) : Decidable value.HasPlainNames :=
  decidable_of_iff (value.names.all fun name => decide (IsPlainName name)) (by simp [HasPlainNames])

variable {value v : Json} {elements : List Json} {members : Members} {steps : List Step} {i : Instance}

theorem HasPlainNames.of_element (h : (array elements).HasPlainNames) (he : v ∈ elements) : v.HasPlainNames := by
  intro name hname
  refine h name ?_
  show name ∈ elementNames elements
  clear h
  induction elements with
  | nil => exact absurd he List.not_mem_nil
  | cons e elements ih =>
    rw [elementNames, List.mem_append]
    rcases List.mem_cons.mp he with rfl | he
    · exact .inl hname
    · exact .inr (ih he)

theorem HasPlainNames.of_member {name : String} (h : (object members).HasPlainNames) (hv : (name, v) ∈ members) :
    IsPlainName name ∧ v.HasPlainNames := by
  have hmem : ∀ other, other = name ∨ other ∈ v.names → other ∈ memberNames members := by
    clear h
    intro other hother
    induction members with
    | nil => exact absurd hv List.not_mem_nil
    | cons m members ih =>
      rw [memberNames, List.mem_cons, List.mem_append]
      rcases List.mem_cons.mp hv with rfl | hv
      · exact hother.imp id .inl
      · exact .inr (.inr (ih hv))
  exact ⟨h name (hmem name (.inl rfl)), fun other hother => h other (hmem other (.inr hother))⟩

/-- The steps to a value in a value with plain names are plain. -/
theorem Leads.isPlain (hvalue : value.HasPlainNames) (h : value.Leads steps (.present v)) :
    (∀ step ∈ steps, step.IsPlain) ∧ v.HasPlainNames := by
  generalize hi : Instance.present v = i at h
  induction h generalizing v with
  | here =>
    cases hi
    exact ⟨by simp, hvalue⟩
  | member _ hv ih =>
    cases hi
    obtain ⟨hsteps, hmembers⟩ := ih rfl
    obtain ⟨hname, hv⟩ := hmembers.of_member hv
    exact ⟨by simpa using fun step => Or.rec (hsteps step) fun heq => heq ▸ hname, hv⟩
  | element _ he ih =>
    cases hi
    obtain ⟨hsteps, helements⟩ := ih rfl
    refine ⟨?_, helements.of_element (List.mem_of_getElem? he)⟩
    simpa using fun step => Or.rec (hsteps step) fun heq => heq ▸ trivial
  | noMember | noElement => cases hi

/-- Steps lead to a location, and are plain if nothing is there. -/
def IsTold (value : Json) (steps : List Step) : Prop :=
  ∃ i, value.Leads steps i ∧ (i = .absent → ∀ step ∈ steps, step.IsPlain)

theorem IsTold.isPlain (hvalue : value.HasPlainNames) (h : value.IsTold steps) : ∀ step ∈ steps, step.IsPlain := by
  obtain ⟨i, hleads, habsent⟩ := h
  cases i with
  | absent => exact habsent rfl
  | present v => exact (hleads.isPlain hvalue).1

end Json

/-- **Paths tell locations apart.** Segments with plain names lead to the same path exactly if their steps are the same.
So in a value whose names are plain, violations at different locations are never taken for one record, as long as the
members that the value lacks have plain names too: of findings in any order, the set has each at its first occurrence.
And the path of a record in a report belongs to a location, and to no more than one of these. -/
theorem paths_tell_apart :
    (∀ segments segments' : List Segment, (∀ segment ∈ segments, segment.IsPlain) →
      (∀ segment ∈ segments', segment.IsPlain) →
        (segments.foldl extendPath "" = segments'.foldl extendPath "" ↔
          segments.filterMap Segment.step? = segments'.filterMap Segment.step?)) ∧
      ∀ value : Json, value.HasPlainNames →
        (∀ findings : List Finding, (∀ f ∈ findings, value.IsTold f.1) →
          (ErrorSet.ofList (findings.map Finding.violation)).records = findings.eraseDups.map Finding.violation) ∧
        ∀ (o : Options) (schema : Json) (errors : ErrorSet), (check o schema value).outcome = .ok errors →
          ∀ v ∈ errors.records, value.IsLocation v.path ∧ ∀ steps steps', value.IsTold steps → value.IsTold steps' →
            v.path = Pointer.render steps → v.path = Pointer.render steps' → steps = steps' := by
  refine ⟨fun segments segments' h h' => ?_, fun value hvalue => ⟨fun findings hfindings => ?_, ?_⟩⟩
  · rw [foldl_extendPath, foldl_extendPath]
    exact ⟨Pointer.render_inj (isPlain_of_mem_steps h) (isPlain_of_mem_steps h'), congrArg Pointer.render⟩
  · have hapart : ∀ f ∈ findings, ∀ g ∈ findings, f.violation = g.violation → f = g := by
      intro f hf g hg heq
      obtain ⟨hpath, hmessage⟩ := Violation.mk.inj heq
      have hf := (hfindings f hf).isPlain hvalue
      have hg := (hfindings g hg).isPlain hvalue
      exact Prod.ext (Pointer.render_inj hf hg hpath) hmessage
    rw [ErrorSet.records_ofList, eraseDups_map_of_inj hapart]
  · intro o schema errors hcheck v hv
    have hlocates := (check_traces o schema value).locates
    rw [hcheck] at hlocates
    refine ⟨hlocates v hv, fun steps steps' h h' hpath hpath' => ?_⟩
    exact Pointer.render_inj (h.isPlain hvalue) (h'.isPlain hvalue) (hpath.symm.trans hpath')

/-- A key made of digits in an object in an array, and one that the object lacks. -/
theorem paths_tell_apart_digits :
    let value : Json := .object [("a", .array [.object [("0", .bool true)]])]
    let inside : List Step := [.key "a", .index 0, .key "0"]
    let beside : List Step := [.key "a", .index 0, .key "1"]
    let schema : Json := .object [("properties", .object [("a", .object [("items",
      .object [("properties", .object [("0", .object [("type", .string "string")])])])])])]
    value.HasPlainNames ∧ value.IsTold inside ∧ value.IsTold beside ∧
      [Segment.key "a", .here, .index 0, .key "0"].foldl extendPath "" =
        [Segment.here, .key "a", .index 0, .key "0"].foldl extendPath "" ∧
      (ErrorSet.ofList ([(inside, "m"), (beside, "m"), (inside, "m")].map Finding.violation)).records =
        [⟨"a[0].0", "m"⟩, ⟨"a[0].1", "m"⟩] ∧
      ∃ errors, (check (.withFormats .empty) schema value).outcome = .ok errors ∧
        ⟨"a[0].0", "boolean value found, but a string is required"⟩ ∈ errors.records ∧
        ∀ steps, value.IsTold steps → "a[0].0" = Pointer.render steps → steps = inside := by
  intro value inside beside schema
  have hvalue : value.HasPlainNames := by decide
  have hdistinct : value.DistinctKeys := by simp [value, Json.DistinctKeys, Json.DistinctKeys.elements, Json.DistinctKeys.members]
  have hlast : value.Leads [.key "a", .index 0] (.present (.object [("0", .bool true)])) :=
    (Json.leads_iff_walk? hdistinct).mpr rfl
  have hinside : value.IsTold inside := ⟨_, (Json.leads_iff_walk? hdistinct).mpr rfl, fun h => nomatch h⟩
  have hbeside : value.IsTold beside := ⟨.absent, hlast.noMember rfl, fun _ => by decide⟩
  obtain ⟨hsegments, hlocations⟩ := paths_tell_apart
  obtain ⟨hfindings, hreports⟩ := hlocations value hvalue
  have hrecords : (check (.withFormats .empty) schema value).outcome.toOption.map (·.records) =
      some [⟨"a[0].0", "boolean value found, but a string is required"⟩] := by decide +kernel
  cases hcheck : (check (.withFormats .empty) schema value).outcome with
  | error f =>
    rw [hcheck] at hrecords
    cases hrecords
  | ok errors =>
    rw [hcheck] at hrecords
    have hmem : ⟨"a[0].0", "boolean value found, but a string is required"⟩ ∈ errors.records :=
      (Option.some.inj hrecords : errors.records = _) ▸ List.mem_singleton_self _
    refine ⟨hvalue, hinside, hbeside, (hsegments _ _ (by decide) (by decide)).mpr rfl, ?_, errors, rfl, hmem, ?_⟩
    · rw [hfindings _ (by simp [hinside, hbeside])]
      decide
    · intro steps hsteps hpath
      exact (hreports _ schema errors hcheck _ hmem).2 steps inside hsteps hinside hpath (by decide)

/-- **Violations at different locations may be taken for one record**, where the name of an absent member looks like a path:
two members are missing, each is reported if the other one is not asked for, and of both one is reported. -/
theorem not_forall_paths_tell_apart :
    (¬ ∀ value : Json, value.HasPlainNames → ∀ findings : List Finding, (∀ f ∈ findings, ∃ i, value.Leads f.1 i) →
      (ErrorSet.ofList (findings.map Finding.violation)).records = findings.eraseDups.map Finding.violation) ∧
    let value : Json := .object [("a", .object [])]
    let missing : Json := .object [("required", .bool true)]
    let inner : String × Json := ("a", .object [("properties", .object [("b", missing)])])
    let outer : String × Json := ("a.b", missing)
    let records (properties : Members) : Option (List Violation) :=
      (check (.withFormats .empty) (.object [("properties", .object properties)]) value).outcome.toOption.map (·.records)
    value.HasPlainNames ∧ records [inner] = some [⟨"a.b", "is missing and it is required"⟩] ∧
      records [outer] = some [⟨"a.b", "is missing and it is required"⟩] ∧
      records [inner, outer] = some [⟨"a.b", "is missing and it is required"⟩] := by
  refine ⟨fun h => ?_, by decide, by decide +kernel, by decide +kernel, by decide +kernel⟩
  let value : Json := .object [("a", .object [])]
  have hinner : value.Leads [.key "a"] (.present (.object [])) := Json.Leads.here.member List.mem_cons_self
  have hmerged := h value (by decide) [([.key "a", .key "b"], "m"), ([.key "a.b"], "m")] (by
    rintro f hf
    simp only [List.mem_cons, List.not_mem_nil, or_false] at hf
    rcases hf with rfl | rfl
    · exact ⟨.absent, hinner.noMember rfl⟩
    · exact ⟨.absent, Json.Leads.here.noMember rfl⟩)
  revert hmerged
  decide

end JsonSchema
