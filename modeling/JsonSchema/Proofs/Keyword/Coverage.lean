import Mathlib.Data.List.Nodup
import JsonSchema.Proofs.ErrorSet
import JsonSchema.Proofs.Keyword.Places
import JsonSchema.Proofs.Reference.Place

/-!
# Which members of an object are held against what

The keywords for objects go through patterns, declared properties and members, one after the other. Whatever the
subschemas do, this comes to a list of steps that is known beforehand: which value goes to which subschema, and what is
recorded in between. So it can be read off the list that no member is left out and none is treated twice.

## What is here

* `ObjectStep` — a value that is handed to a subschema, or something that is recorded. `ObjectStep.perform` — taking
  the step. `Performed` — taking steps one after the other.
* `PropertyRules.steps` — the steps for an object. `PropertyRules.check_eq_steps` — **the check is these steps**.
* `Mentioned` — a key that is declared by an entry that is not `null`, or matched by a pattern that can be read.
* `Coverage` — what is in a list of steps, in terms of the schema object and the members. `checkKind_coverage` —
  **holding an object against a schema object with `properties` or `patternProperties` takes such steps**, over any
  handles.
-/

set_option autoImplicit false

namespace JsonSchema

/-! ## Steps -/

/-- A step of holding an object against the keywords for objects. -/
inductive ObjectStep (S : Type) where
  /-- A pattern that cannot be read is recorded. -/
  | invalid (p : PatternRule S)
  /-- A member whose key matches a pattern is held against its schema. -/
  | matched (p : PatternRule S) (member : String × Json)
  /-- A property, which may be absent, is held against its entry. -/
  | property (p : PropertyRule S) (i : Instance)
  /-- A member that is not mentioned is recorded. -/
  | undefined (key : String)
  /-- A member that is not mentioned is held against the schema for these. -/
  | additional (x : S) (member : String × Json)
  /-- A member is recorded that needs another one. -/
  | lacking (key other : String)

namespace ObjectStep

variable {S : Type}

/-- Takes a step. -/
def perform (apply : Checker S) (path : String) (s : ErrorSet) : ObjectStep S → Run ErrorSet
  | .invalid p => pure (s.add path ("The pattern \"" ++ p.pattern ++ "\" is invalid"))
  | .matched p (key, value) => apply p.schema (.present value) path (.key key) s
  | .property p i => apply p.schema i path (.key p.name) s
  | .undefined key =>
    pure (s.add (extendPath path (.key key))
      ("The property " ++ key ++ " is not defined and the definition does not allow additional properties"))
  | .additional x (key, value) => apply x (.present value) path (.key key) s
  | .lacking key other =>
    pure (s.add path ("the presence of the property " ++ key ++ " requires that " ++ other ++ " also be present"))

/-- The pattern that is recorded, if the step is such. -/
def invalid? : ObjectStep S → Option (PatternRule S)
  | .invalid p => some p
  | _ => none

/-- The pattern and the member that matches it, if the step is such. -/
def matched? : ObjectStep S → Option (PatternRule S × (String × Json))
  | .matched p m => some (p, m)
  | _ => none

/-- The entry and what is held against it, if the step is such. -/
def property? : ObjectStep S → Option (PropertyRule S × Instance)
  | .property p i => some (p, i)
  | _ => none

/-- The key that is recorded as not defined, if the step is such. -/
def undefined? : ObjectStep S → Option String
  | .undefined key => some key
  | _ => none

/-- The schema for what is not mentioned and the member that is held against it, if the step is such. -/
def additional? : ObjectStep S → Option (S × (String × Json))
  | .additional x m => some (x, m)
  | _ => none

end ObjectStep

open ObjectStep

/-- Steps that are taken one after the other, from a set to a set. -/
inductive Performed {S : Type} (apply : Checker S) (path : String) : List (ObjectStep S) → ErrorSet → ErrorSet → Prop
  | nil (s : ErrorSet) : Performed apply path [] s s
  | cons {step steps s t u} (h : (step.perform apply path s).outcome = .ok t) (hs : Performed apply path steps t u) :
    Performed apply path (step :: steps) s u

section Performing

variable {S : Type} {apply : Checker S} {path : String} {steps : List (ObjectStep S)} {s u : ErrorSet}

/-- A loop over steps ends well if and only if they are all taken. -/
theorem performed_iff : (steps.foldlM (perform apply path) s).outcome = .ok u ↔ Performed apply path steps s u := by
  induction steps generalizing s with
  | nil =>
    constructor
    · rintro ⟨⟩
      exact .nil _
    · rintro ⟨⟩
      rfl
  | cons step steps ih =>
    rw [List.foldlM_cons, Run.outcome_bind_eq_ok]
    constructor
    · rintro ⟨t, hstep, hrest⟩
      exact .cons hstep (ih.mp hrest)
    · rintro (_ | ⟨hstep, hrest⟩)
      exact ⟨_, hstep, ih.mpr hrest⟩

/-- Steps that end well can be taken one after the other. -/
theorem exists_performed (h : ∀ step ∈ steps, ∀ s, ∃ t, (step.perform apply path s).outcome = .ok t) (s : ErrorSet) :
    ∃ u, Performed apply path steps s u := by
  induction steps generalizing s with
  | nil => exact ⟨s, .nil s⟩
  | cons step steps ih =>
    obtain ⟨t, hstep⟩ := h step List.mem_cons_self s
    obtain ⟨u, hrest⟩ := ih (fun later hlater => h later (List.mem_cons_of_mem step hlater)) t
    exact ⟨u, .cons hstep hrest⟩

end Performing

/-! ## The steps of a check -/

namespace PropertyRules

variable {S : Type} (apply : Checker S) (r : PropertyRules S) (members : Members) (path : String) (s : ErrorSet)

/-- The steps for a pattern. -/
def patternSteps (p : PatternRule S) : List (ObjectStep S) :=
  match Pattern.read? p.pattern with
  | .error _ => [.invalid p]
  | .ok regex => (members.filter fun m => regex.isIn m.1).map (.matched p)

/-- The step for a declared property. -/
def propertyStep (p : PropertyRule S) : ObjectStep S := .property p (Instance.ofOption (Json.find? members p.name))

/-- The steps for a member that is not mentioned. -/
def uncoveredSteps (m : String × Json) : List (ObjectStep S) :=
  match r.additional with
  | .deny => if m.1 == inlineSchemaKey then [] else [.undefined m.1]
  | .schema other => [.additional other m]
  | .allow | .unspecified => []

/-- The steps for what a member needs. -/
def requiresSteps (key : String) : List (ObjectStep S) :=
  match (r.definition? key).bind (·.requires) with
  | some other => if Json.hasKey members other then [] else [.lacking key other]
  | none => []

/-- The steps for a member by itself. -/
def memberSteps (m : String × Json) : List (ObjectStep S) :=
  (if r.covers m.1 then [] else r.uncoveredSteps m) ++ r.requiresSteps members m.1

/-- The steps of holding an object against all keywords. -/
def steps : List (ObjectStep S) :=
  r.patterns.flatMap (patternSteps members) ++ r.properties.map (propertyStep members) ++
    members.flatMap (r.memberSteps members)

theorem checkPattern_eq_steps (p : PatternRule S) :
    checkPattern apply members path s p = (patternSteps members p).foldlM (perform apply path) s := by
  rw [checkPattern, patternSteps]
  cases Pattern.read? p.pattern with
  | error reason => exact (bind_pure _).symm
  | ok regex =>
    dsimp only
    rw [List.foldlM_map, List.foldlM_filter]
    rfl

theorem checkUncovered_eq_steps (m : String × Json) :
    r.checkUncovered apply path m.1 m.2 s = (r.uncoveredSteps m).foldlM (perform apply path) s := by
  rw [checkUncovered, uncoveredSteps]
  cases r.additional with
  | deny =>
    dsimp only
    split
    · rfl
    · exact (bind_pure _).symm
  | schema other => exact (bind_pure _).symm
  | allow => rfl
  | unspecified => rfl

theorem checkRequires_eq_steps (key : String) :
    pure (r.checkRequires members path key s) = (r.requiresSteps members key).foldlM (perform apply path) s := by
  rw [checkRequires, requiresSteps]
  cases (r.definition? key).bind (·.requires) with
  | none => rfl
  | some other =>
    dsimp only
    split
    · rfl
    · exact (bind_pure _).symm

theorem checkMember_eq_steps (m : String × Json) :
    r.checkMember apply members path s m = (r.memberSteps members m).foldlM (perform apply path) s := by
  have hcovered : (if r.covers m.1 then pure s else r.checkUncovered apply path m.1 m.2 s) =
      (if r.covers m.1 then [] else r.uncoveredSteps m).foldlM (perform apply path) s := by
    split
    · rfl
    · exact r.checkUncovered_eq_steps apply path s m
  rw [checkMember_eq, memberSteps, List.foldlM_append, hcovered]
  exact bind_congr fun t => r.checkRequires_eq_steps apply members path t m.1

/-- A loop whose turns are loops over lists is a loop over the lists in a row. -/
theorem foldlM_flatMap_of_eq {α β σ : Type} {f : σ → α → Run σ} {g : σ → β → Run σ} {list : α → List β}
    (h : ∀ s x, f s x = (list x).foldlM g s) (xs : List α) (s : σ) :
    xs.foldlM f s = (xs.flatMap list).foldlM g s := by
  induction xs generalizing s with
  | nil => rfl
  | cons x xs ih =>
    rw [List.flatMap_cons, List.foldlM_append, List.foldlM_cons, h]
    exact bind_congr fun t => ih t

/-- **Holding an object against all keywords is taking its steps.** -/
theorem check_eq_steps : r.check apply members path s = (r.steps members).foldlM (perform apply path) s := by
  have hpatterns (s : ErrorSet) := foldlM_flatMap_of_eq (checkPattern_eq_steps apply members path) r.patterns s
  have hmembers (s : ErrorSet) := foldlM_flatMap_of_eq (r.checkMember_eq_steps apply members path) members s
  have hproperties (s : ErrorSet) : r.properties.foldlM (checkProperty apply members path) s =
      (r.properties.map (propertyStep members)).foldlM (perform apply path) s := by
    rw [List.foldlM_map]
    rfl
  rw [check, steps, List.foldlM_append, List.foldlM_append, bind_assoc, hpatterns]
  refine bind_congr fun t => ?_
  rw [hproperties]
  exact bind_congr hmembers

end PropertyRules

/-! ## What is in the list -/

/-- Whether a pattern can be read and is found in a key. -/
def matchesKey (pattern key : String) : Bool :=
  match Pattern.read? pattern with
  | .ok regex => regex.isIn key
  | .error _ => false

/-- Whether a pattern can be read. -/
def isReadable (pattern : String) : Bool := (Pattern.read? pattern).isOk

/-- A choice for each element of a list is made for those that are filtered. -/
theorem flatMap_ite {α β : Type} (c : α → Bool) (g : α → β) (xs : List α) :
    (xs.flatMap fun x => if c x then [g x] else []) = (xs.filter c).map g := by
  induction xs with
  | nil => rfl
  | cons x xs ih =>
    rw [List.flatMap_cons, ih]
    cases h : c x <;> simp [h]

namespace PropertyRules

variable {S : Type} (r : PropertyRules S) (members : Members)

theorem filterMap_patternSteps {β : Type} (f : ObjectStep S → Option β) (p : PatternRule S) :
    (patternSteps members p).filterMap f =
      if isReadable p.pattern then (members.filter fun m => p.appliesTo m.1).filterMap fun m => f (.matched p m)
      else (f (.invalid p)).toList := by
  unfold patternSteps isReadable PatternRule.appliesTo
  cases Pattern.read? p.pattern with
  | error reason => cases hf : f (.invalid p) <;> simp [Except.isOk, Except.toBool, hf]
  | ok regex => simp [Except.isOk, Except.toBool, List.filterMap_map]

/-- Steps of one kind, from each of the three loops. -/
theorem filterMap_steps {β : Type} (f : ObjectStep S → Option β) :
    (r.steps members).filterMap f =
      (r.patterns.flatMap fun p => (patternSteps members p).filterMap f) ++
        (r.properties.filterMap fun p => f (propertyStep members p)) ++
          members.flatMap fun m => (r.memberSteps members m).filterMap f := by
  simp [steps, List.filterMap_append, List.filterMap_flatMap, List.filterMap_map]

/-- Steps of one kind among those for a member, if it is not the kind for what a member needs. -/
theorem filterMap_memberSteps {β : Type} {f : ObjectStep S → Option β}
    (hf : ∀ key other, f (.lacking key other) = none) (m : String × Json) :
    (r.memberSteps members m).filterMap f =
      if r.covers m.1 then []
      else match r.additional with
        | .deny => if m.1 == inlineSchemaKey then [] else (f (.undefined m.1)).toList
        | .schema other => (f (.additional other m)).toList
        | .allow | .unspecified => [] := by
  have hrequires : (r.requiresSteps members m.1).filterMap f = [] := by
    unfold requiresSteps
    split
    · split <;> simp [hf]
    · rfl
  have hone (step : ObjectStep S) : [step].filterMap f = (f step).toList := by
    cases h : f step <;> simp [h]
  rw [memberSteps, List.filterMap_append, hrequires, List.append_nil, uncoveredSteps]
  split
  · rfl
  · cases r.additional with
    | deny =>
      dsimp only
      split
      · rfl
      · exact hone _
    | schema other => exact hone _
    | allow => rfl
    | unspecified => rfl

/-- Each entry of `properties` is held once against what is under its name. -/
theorem steps_property? : (r.steps members).filterMap property? =
    r.properties.map fun p => (p, Instance.ofOption (Json.find? members p.name)) := by
  have hpatterns : (r.patterns.flatMap fun p => (patternSteps members p).filterMap property?) = [] := by
    refine List.flatMap_eq_nil_iff.mpr fun p _ => ?_
    rw [filterMap_patternSteps]
    split <;> simp [property?]
  have hmembers : (members.flatMap fun m => (r.memberSteps members m).filterMap property?) = [] := by
    refine List.flatMap_eq_nil_iff.mpr fun m _ => ?_
    rw [filterMap_memberSteps _ _ fun _ _ => rfl]
    cases r.additional <;> simp [property?]
  rw [filterMap_steps, hpatterns, hmembers, List.nil_append, List.append_nil]
  simp [propertyStep, property?]

/-- Each member is held once against each pattern that matches it. -/
theorem steps_matched? : (r.steps members).filterMap matched? =
    r.patterns.flatMap fun p => (members.filter fun m => p.appliesTo m.1).map fun m => (p, m) := by
  have hpattern (p : PatternRule S) : (patternSteps members p).filterMap matched? =
      (members.filter fun m => p.appliesTo m.1).map fun m => (p, m) := by
    rw [filterMap_patternSteps]
    split
    · simp [matched?]
    · -- the record of such a pattern is no match, and it applies to no key either
      rename_i hunreadable
      have hnone (key : String) : p.appliesTo key = false := by
        unfold isReadable at hunreadable
        unfold PatternRule.appliesTo
        cases hread : Pattern.read? p.pattern with
        | error reason => rfl
        | ok regex => exact absurd (by rw [hread]; rfl) hunreadable
      simp [matched?, hnone]
  have hmembers : (members.flatMap fun m => (r.memberSteps members m).filterMap matched?) = [] := by
    refine List.flatMap_eq_nil_iff.mpr fun m _ => ?_
    rw [filterMap_memberSteps _ _ fun _ _ => rfl]
    cases r.additional <;> simp [matched?]
  rw [filterMap_steps, hmembers, List.append_nil]
  simp [propertyStep, matched?, hpattern]

theorem invalid?_of_mem_memberSteps {m : String × Json} {step : ObjectStep S} (h : step ∈ r.memberSteps members m) :
    step.invalid? = none := by
  have hnone : (r.memberSteps members m).filterMap invalid? = [] := by
    rw [filterMap_memberSteps _ _ fun _ _ => rfl]
    cases r.additional <;> simp [invalid?]
  exact List.filterMap_eq_nil_iff.mp hnone step h

/-- Each pattern that cannot be read is recorded once. -/
theorem steps_invalid? : (r.steps members).filterMap invalid? = r.patterns.filter fun p => !isReadable p.pattern := by
  have hpattern (p : PatternRule S) :
      (patternSteps members p).filterMap invalid? = if !isReadable p.pattern then [p] else [] := by
    rw [filterMap_patternSteps]
    cases isReadable p.pattern <;> simp [invalid?]
  have hpatterns : (r.patterns.flatMap fun p => (patternSteps members p).filterMap invalid?) =
      r.patterns.filter fun p => !isReadable p.pattern := by
    induction r.patterns with
    | nil => rfl
    | cons p ps ih =>
      rw [List.flatMap_cons, hpattern, ih, List.filter_cons]
      cases isReadable p.pattern <;> rfl
  have hmembers : (members.flatMap fun m => (r.memberSteps members m).filterMap invalid?) = [] :=
    List.flatMap_eq_nil_iff.mpr fun m _ =>
      List.filterMap_eq_nil_iff.mpr fun step hstep => r.invalid?_of_mem_memberSteps members hstep
  rw [filterMap_steps, hmembers, List.append_nil, hpatterns]
  simp [propertyStep, invalid?]

/-- What patterns and properties have no part in comes from the members alone. -/
theorem filterMap_steps_of_members {β : Type} {f : ObjectStep S → Option β} (hinvalid : ∀ p, f (.invalid p) = none)
    (hmatched : ∀ p m, f (.matched p m) = none) (hproperty : ∀ p i, f (.property p i) = none) :
    (r.steps members).filterMap f = members.flatMap fun m => (r.memberSteps members m).filterMap f := by
  have hpatterns : (r.patterns.flatMap fun p => (patternSteps members p).filterMap f) = [] := by
    refine List.flatMap_eq_nil_iff.mpr fun p _ => ?_
    rw [filterMap_patternSteps]
    split <;> simp [hmatched, hinvalid]
  rw [filterMap_steps, hpatterns, List.nil_append]
  simp [propertyStep, hproperty]

/-- The members that are recorded as not defined. -/
theorem steps_undefined? : (r.steps members).filterMap undefined? =
    match r.additional with
    | .deny => (members.map (·.1)).filter fun key => !r.covers key && key != inlineSchemaKey
    | _ => [] := by
  rw [filterMap_steps_of_members _ _ (fun _ => rfl) (fun _ _ => rfl) fun _ _ => rfl]
  have hmember (m : String × Json) := r.filterMap_memberSteps members (f := undefined?) (fun _ _ => rfl) m
  rw [funext hmember]
  cases r.additional with
  | deny =>
    have hone (m : String × Json) :
        (if r.covers m.1 then [] else if m.1 == inlineSchemaKey then [] else (undefined? (.undefined m.1 : ObjectStep S)).toList) =
          if !r.covers m.1 && m.1 != inlineSchemaKey then [m.1] else [] := by
      cases r.covers m.1 <;> cases h : m.1 == inlineSchemaKey <;> simp [undefined?, bne, h]
    rw [funext hone, flatMap_ite, List.filter_map]
    rfl
  | _ => simp [undefined?]

/-- The members that are held against the schema for what is not mentioned. -/
theorem steps_additional? : (r.steps members).filterMap additional? =
    match r.additional with
    | .schema other => (members.filter fun m => !r.covers m.1).map fun m => (other, m)
    | _ => [] := by
  rw [filterMap_steps_of_members _ _ (fun _ => rfl) (fun _ _ => rfl) fun _ _ => rfl]
  have hmember (m : String × Json) := r.filterMap_memberSteps members (f := additional?) (fun _ _ => rfl) m
  rw [funext hmember]
  cases r.additional with
  | schema other =>
    have hone (m : String × Json) :
        (if r.covers m.1 then [] else (additional? (.additional other m)).toList) =
          if !r.covers m.1 then [(other, m)] else [] := by
      cases r.covers m.1 <;> rfl
    rw [funext hone, flatMap_ite]
  | deny => simp [additional?]
  | allow => simp
  | unspecified => simp

end PropertyRules

/-! ## Without patterns that cannot be read -/

namespace PropertyRules

variable {S : Type} (r : PropertyRules S) (members : Members)

/-- The keywords without the patterns that cannot be read. -/
def readable : PropertyRules S := { r with patterns := r.patterns.filter fun p => isReadable p.pattern }

theorem appliesTo_eq_matchesKey (p : PatternRule S) (key : String) : p.appliesTo key = matchesKey p.pattern key := rfl

theorem isReadable_of_matchesKey {pattern key : String} (h : matchesKey pattern key = true) : isReadable pattern = true := by
  unfold matchesKey at h
  unfold isReadable
  cases hread : Pattern.read? pattern with
  | error reason =>
    rw [hread] at h
    exact nomatch h
  | ok regex => rfl

/-- A pattern that cannot be read covers no key. -/
theorem covers_readable (key : String) : r.readable.covers key = r.covers key := by
  have hpatterns : r.readable.patterns.any (·.appliesTo key) = r.patterns.any (·.appliesTo key) := by
    rw [readable, List.any_filter]
    refine List.any_congr rfl fun p => ?_
    rw [appliesTo_eq_matchesKey]
    cases hmatches : matchesKey p.pattern key with
    | false => rw [Bool.and_false]
    | true => rw [isReadable_of_matchesKey hmatches, Bool.and_true]
  rw [covers, covers, hpatterns]
  rfl

/-- The steps that record no pattern are the steps without the patterns that cannot be read. -/
theorem steps_readable : r.readable.steps members = (r.steps members).filter (·.invalid?.isNone) := by
  have hpattern (p : PatternRule S) : (patternSteps members p).filter (·.invalid?.isNone) =
      if isReadable p.pattern then patternSteps members p else [] := by
    unfold patternSteps isReadable
    cases Pattern.read? p.pattern with
    | error reason => rfl
    | ok regex =>
      refine List.filter_eq_self.mpr fun step hstep => ?_
      obtain ⟨m, -, rfl⟩ := List.mem_map.mp hstep
      rfl
  have hpatterns : (r.patterns.flatMap (patternSteps members)).filter (·.invalid?.isNone) =
      r.readable.patterns.flatMap (patternSteps members) := by
    rw [readable]
    induction r.patterns with
    | nil => rfl
    | cons p ps ih =>
      rw [List.flatMap_cons, List.filter_append, ih, hpattern, List.filter_cons]
      cases isReadable p.pattern <;> rfl
  have hproperties : (r.properties.map (propertyStep members)).filter (·.invalid?.isNone) =
      r.properties.map (propertyStep members) := by
    refine List.filter_eq_self.mpr fun step hstep => ?_
    obtain ⟨p, -, rfl⟩ := List.mem_map.mp hstep
    rfl
  have hmembers : (members.flatMap (r.memberSteps members)).filter (·.invalid?.isNone) =
      members.flatMap (r.memberSteps members) := by
    refine List.filter_eq_self.mpr fun step hstep => ?_
    obtain ⟨m, -, hm⟩ := List.mem_flatMap.mp hstep
    rw [r.invalid?_of_mem_memberSteps members hm]
    rfl
  have hsame : r.readable.memberSteps members = r.memberSteps members := by
    funext m
    rw [memberSteps, memberSteps, covers_readable]
    rfl
  rw [steps, steps, List.filter_append, List.filter_append, hpatterns, hproperties, hmembers, hsame]
  rfl

end PropertyRules

/-! ## In terms of the schema object -/

/-- The entries that declare properties. -/
def declaredEntries (k : Members) : Members := PropertyRules.entries (Json.findSome? k "properties")

/-- The entries for patterns. -/
def patternEntries (k : Members) : Members := PropertyRules.entries (Json.findSome? k "patternProperties")

/-- A key that is declared by an entry that is not `null`, or matched by a pattern that can be read. -/
def Mentioned (k : Members) (key : String) : Prop :=
  (∃ entry ∈ declaredEntries k, entry.1 = key ∧ entry.2 ≠ .null) ∨
    ∃ entry ∈ patternEntries k, ∃ regex, Pattern.read? entry.1 = .ok regex ∧ regex.isIn key = true

/-- The entries for patterns that can be read, each with the members that match it. -/
def matchingMembers (k members : Members) : List ((String × Json) × (String × Json)) :=
  (patternEntries k).flatMap fun entry => (members.filter fun m => matchesKey entry.1 m.1).map fun m => (entry, m)

/-- What is in the steps of holding an object against a schema object over handles that `R` relates to the schemas. -/
structure Coverage {T : Type} (R : Subschema → T → Prop) (k members : Members) (r : PropertyRules T)
    (steps : List (ObjectStep T)) : Prop where
  /-- The value under each declared name, or nothing, is held once against the entry. -/
  properties : List.Forall₂
    (fun entry call => call.1.name = entry.1 ∧ R (.schema entry.2) call.1.schema ∧
      call.2 = Instance.ofOption (Json.find? members entry.1))
    (declaredEntries k) (steps.filterMap property?)
  properties_nodup : ((declaredEntries k).map (·.1)).Nodup
  /-- Each member is held once against the schema of each pattern that can be read and matches its key. -/
  matched : List.Forall₂
    (fun pair call => call.1.pattern = pair.1.1 ∧ R (.schema pair.1.2) call.1.schema ∧ call.2 = pair.2)
    (matchingMembers k members) (steps.filterMap matched?)
  matched_nodup : ((matchingMembers k members).map fun pair => (pair.1.1, pair.2.1)).Nodup
  /-- The keywords cover what is mentioned. -/
  covers_iff : ∀ key, r.covers key = true ↔ Mentioned k key
  /-- The handle for what is not mentioned is the one of `additionalProperties`. -/
  additional : Additional.Rel R (Additional.parse (Json.find? k "additionalProperties")) r.additional
  /-- Each member that is not covered is held once against it, in the order of members. -/
  handed : steps.filterMap additional? =
    match r.additional with
    | .schema other => (members.filter fun m => !r.covers m.1).map fun m => (other, m)
    | _ => []
  /-- Each member that is not covered is recorded once if there must be none, in the order of members; only the one that
  may hold a schema is not. -/
  undefined : steps.filterMap undefined? =
    match r.additional with
    | .deny => (members.map (·.1)).filter fun key => !r.covers key && key != inlineSchemaKey
    | _ => []
  /-- Each pattern that cannot be read is recorded once. -/
  invalid : (steps.filterMap invalid?).map (·.pattern) =
    ((patternEntries k).map (·.1)).filter fun pattern => !isReadable pattern
  /-- Apart from these records, the steps are the ones without the patterns that cannot be read. -/
  readable : ∀ (apply : Checker T) path s,
    r.readable.check apply members path s = (steps.filter (·.invalid?.isNone)).foldlM (perform apply path) s

section Schema

variable {T : Type} {R : Subschema → T → Prop} {k members : Members} {r : PropertyRules T}

/-- Of two lists in step, one has an element of some kind if the other has. -/
theorem forall₂_exists_iff {α β : Type} {P : α → β → Prop} {A : α → Prop} {B : β → Prop} {xs : List α} {ys : List β}
    (h : List.Forall₂ P xs ys) (hAB : ∀ x y, P x y → (A x ↔ B y)) : (∃ x ∈ xs, A x) ↔ ∃ y ∈ ys, B y := by
  induction h with
  | nil => simp
  | cons hxy _ ih => simp [ih, hAB _ _ hxy]

theorem matchesKey_iff {pattern key : String} :
    matchesKey pattern key = true ↔ ∃ regex, Pattern.read? pattern = .ok regex ∧ regex.isIn key = true := by
  unfold matchesKey
  cases Pattern.read? pattern <;> simp

/-- The entries of a keyword have distinct names. -/
theorem nodup_entries (hk : (Json.object k).DistinctKeys) (key : String) :
    ((PropertyRules.entries (Json.findSome? k key)).map (·.1)).Nodup := by
  unfold PropertyRules.entries
  split
  · rename_i entries hentries
    have hfound : Json.find? k key = some (.object entries) := by
      unfold Json.findSome? at hentries
      split at hentries
      · cases hentries
      · exact hentries
    exact (Json.DistinctKeys.of_mem_members hk.2 (Json.mem_of_find? hfound)).1
  · exact List.nodup_nil

variable (hdeclared : List.Forall₂ (fun entry p => PropertyRule.Rel R (PropertyRule.parse entry) p) (declaredEntries k) r.properties)
  (hpatterns : List.Forall₂ (fun entry p => p.pattern = entry.1 ∧ R (.schema entry.2) p.schema) (patternEntries k) r.patterns)

include hdeclared hpatterns in
theorem covers_iff_mentioned (key : String) : r.covers key = true ↔ Mentioned k key := by
  have hdefined : (r.definition? key).isSome = true ↔ ∃ p ∈ r.properties, p.declared = true ∧ p.name = key := by
    simp [PropertyRules.definition?]
  have hmatched : r.patterns.any (·.appliesTo key) = true ↔ ∃ p ∈ r.patterns, matchesKey p.pattern key = true :=
    List.any_eq_true
  rw [PropertyRules.covers, Bool.or_eq_true, hdefined, hmatched, Mentioned]
  refine or_congr (forall₂_exists_iff hdeclared fun entry p hp => ?_).symm
    (forall₂_exists_iff hpatterns fun entry p hp => ?_).symm
  · obtain ⟨name, j⟩ := entry
    have hnull : p.declared = true ↔ j ≠ .null := by
      rw [← hp.declared]
      cases j <;> simp [PropertyRule.parse]
    rw [hnull, ← hp.name, and_comm]
    rfl
  · rw [hp.1, matchesKey_iff]

include hpatterns in
theorem matched_inStep : List.Forall₂
    (fun pair call => call.1.pattern = pair.1.1 ∧ R (.schema pair.1.2) call.1.schema ∧ call.2 = pair.2)
    (matchingMembers k members)
    (r.patterns.flatMap fun p => (members.filter fun m => p.appliesTo m.1).map fun m => (p, m)) := by
  refine List.rel_flatMap hpatterns fun entry p hp => ?_
  have hsame : (fun m : String × Json => p.appliesTo m.1) = fun m => matchesKey entry.1 m.1 := by
    funext m
    rw [PropertyRules.appliesTo_eq_matchesKey, hp.1]
  rw [hsame, List.forall₂_map_left_iff, List.forall₂_map_right_iff]
  exact List.forall₂_same.mpr fun m _ => ⟨hp.1, hp.2, rfl⟩

omit hdeclared hpatterns in
theorem nodup_matchingMembers (hk : (Json.object k).DistinctKeys) (hm : (Json.object members).DistinctKeys) :
    ((matchingMembers k members).map fun pair => (pair.1.1, pair.2.1)).Nodup := by
  have hproduct : (((patternEntries k).map (·.1)).product (members.map (·.1))).Nodup :=
    List.Nodup.product (nodup_entries hk "patternProperties") hm.1
  -- they are some of the pairs of a pattern and a key
  refine hproduct.sublist ?_
  unfold matchingMembers List.product
  induction patternEntries k with
  | nil => exact List.Sublist.refl _
  | cons entry entries ih =>
    rw [List.flatMap_cons, List.map_append, List.map_cons, List.flatMap_cons, List.map_map, List.map_map]
    exact List.Sublist.append (List.filter_sublist.map _) ih

include hdeclared hpatterns in
/-- The steps of related keywords for objects are a coverage. -/
theorem coverage_steps (hadditional : Additional.Rel R (Additional.parse (Json.find? k "additionalProperties")) r.additional)
    (hk : (Json.object k).DistinctKeys) (hm : (Json.object members).DistinctKeys) :
    Coverage R k members r (r.steps members) where
  properties := by
    rw [r.steps_property? members, List.forall₂_map_right_iff]
    refine hdeclared.imp fun entry p hp => ?_
    have hname : p.name = entry.1 := hp.name.symm
    exact ⟨hname, hp.schema, by rw [hname]⟩
  properties_nodup := nodup_entries hk "properties"
  matched := r.steps_matched? members ▸ matched_inStep hpatterns
  matched_nodup := nodup_matchingMembers hk hm
  covers_iff := covers_iff_mentioned hdeclared hpatterns
  additional := hadditional
  handed := r.steps_additional? members
  undefined := r.steps_undefined? members
  invalid := by
    have hnames : (patternEntries k).map (·.1) = r.patterns.map (·.pattern) := by
      rw [← List.forall₂_eq_eq_eq, List.forall₂_map_left_iff, List.forall₂_map_right_iff]
      exact hpatterns.imp fun _ _ h => h.1.symm
    rw [r.steps_invalid? members, hnames, List.filter_map]
    rfl
  readable apply path s := by rw [PropertyRules.check_eq_steps, PropertyRules.steps_readable]

end Schema

/-- **Holding an object against a schema object that speaks of members takes the steps of its coverage**: it ends well
if and only if they are all taken, and it does end well if they do, whatever the handles. -/
theorem checkKind_coverage {T : Type} {R : Subschema → T → Prop} {k members : Members} {l : Keywords T}
    (hk : (Json.object k).DistinctKeys) (hm : (Json.object members).DistinctKeys)
    (hspeaks : Json.findSome? k "properties" ≠ none ∨ Json.findSome? k "patternProperties" ≠ none)
    (hl : Keywords.Rel R (Keywords.parse k) l) :
    ∃ r steps, l.properties = some r ∧ Coverage R k members r steps ∧
      ∀ mode formats apply path segment s,
        (∀ u, (l.checkKind mode formats apply (.present (.object members)) path segment s).outcome = .ok u ↔
          Performed apply path steps s u) ∧
        ((∀ step ∈ steps, ∀ s, ∃ t, (step.perform apply path s).outcome = .ok t) →
          ∃ u, (l.checkKind mode formats apply (.present (.object members)) path segment s).outcome = .ok u) := by
  -- the keywords for objects are read only if one of the two is there
  have hparsed : (Keywords.parse k).properties = some
      { patterns := (patternEntries k).map fun entry => { pattern := entry.1, schema := .schema entry.2 }
        properties := (declaredEntries k).map PropertyRule.parse
        additional := Additional.parse (Json.find? k "additionalProperties") } := by
    show PropertyRules.parse? k = _
    rw [PropertyRules.parse?, if_neg]
    · rfl
    · rw [Bool.and_eq_true, Option.isNone_iff_eq_none, Option.isNone_iff_eq_none]
      rintro ⟨hproperties, hpatternProperties⟩
      exact hspeaks.elim (· hproperties) (· hpatternProperties)
  have hrules := hl.properties
  rw [hparsed] at hrules
  cases hr : l.properties with
  | none =>
    rw [hr] at hrules
    cases hrules
  | some r =>
    rw [hr, Option.rel_some_some] at hrules
    have hdeclared := List.forall₂_map_left_iff.mp hrules.properties
    have hpatterns := (List.forall₂_map_left_iff.mp hrules.patterns).imp fun _ _ h => And.intro h.pattern.symm h.schema
    refine ⟨r, r.steps members, rfl, coverage_steps hdeclared hpatterns hrules.additional hk hm, ?_⟩
    intro mode formats apply path segment s
    have hcheck : l.checkKind mode formats apply (.present (.object members)) path segment s =
        (r.steps members).foldlM (perform apply path) s := by
      rw [Keywords.checkKind, hr]
      exact r.check_eq_steps apply members path s
    rw [hcheck]
    refine ⟨fun u => performed_iff, fun hends => ?_⟩
    obtain ⟨u, hu⟩ := exists_performed hends s
    exact ⟨u, performed_iff.mpr hu⟩

/-- A member whose entry is `null` is not defined, one that matches a pattern is, and one that may hold a schema is not
recorded. A pattern that cannot be read covers nothing. -/
theorem checkKind_coverage_denied :
    let k : Members :=
      [("properties", .object [("a", .object []), ("n", .null)]),
        ("patternProperties", .object [("(", .object []), ("^x", .object [])]), ("additionalProperties", .bool false)]
    let members : Members := [("n", .integer 1), ("xy", .integer 2), ("$schema", .integer 3)]
    ∃ r steps, (Keywords.parse k).properties = some r ∧ Coverage Eq k members r steps ∧
      steps.filterMap undefined? = ["n"] ∧ (steps.filterMap invalid?).map (·.pattern) = ["("] := by
  intro k members
  have hk : (Json.object k).DistinctKeys := by simp [k, Json.DistinctKeys, Json.DistinctKeys.members]
  have hm : (Json.object members).DistinctKeys := by simp [members, Json.DistinctKeys, Json.DistinctKeys.members]
  have hsame : Keywords.Rel Eq (Keywords.parse k) (Keywords.parse k) :=
    Keywords.parse_rel (Members.Alike.refl fun _ _ _ => rfl)
  obtain ⟨r, steps, hr, hcoverage, -⟩ := checkKind_coverage hk hm (.inl nofun) hsame
  refine ⟨r, steps, hr, hcoverage, ?_, ?_⟩
  · rw [hcoverage.undefined]
    cases hr
    decide +kernel
  · rw [hcoverage.invalid]
    decide +kernel

end JsonSchema
