import JsonSchema.Proofs.Keyword.Frame
import JsonSchema.Proofs.Ledger.Basic

/-!
# Keywords that write in place

Each rule for keywords has a form in which it writes to the one ledger that all rules share. Attempts that are given up
are cut off again, those that must not see what is recorded already run on an empty ledger, and the second attempt for an
element is weighed against the records that are cut off for the first one. This comes to the same as the rules that take
a set and give one, as long as subschemas only append.

## What is here

* `CheckerInPlace`, and `CheckerInPlace.For` — handles are applied in place as a checker applies them.
* For each rule its form in place, named after it, and the theorem that it follows the rule.
* `Keywords.checkInPlace`, `Keywords.checkInPlace_follows` — **keywords in place follow keywords**.
-/

set_option autoImplicit false

namespace JsonSchema

open InPlace Remit

/-- Applies a handle in place. -/
abbrev CheckerInPlace (S : Type) := S → Instance → String → Segment → InPlace Unit

/-- Handles are applied in place as a checker applies them, which only appends. -/
structure CheckerInPlace.For {S : Type} (p : CheckerInPlace S) (apply : Checker S) : Prop where
  follows : ∀ x i path segment, Follows (p x i path segment) (apply x i path segment)
  keeps : apply.KeepsTo free

variable {S : Type} {p : CheckerInPlace S} {apply : Checker S} {mode : Mode} {formats : Formats} {i : Instance}
  {path : String} {segment : Segment}

theorem CheckerInPlace.For.appends (h : p.For apply) (x : S) (i : Instance) (path : String) (segment : Segment) :
    Appends (apply x i path segment) :=
  h.keeps.appends x i path segment

/-! ## Types -/

namespace TypeRule

mutual

/-- Holds an instance against what is asked for. -/
def checkInPlace (mode : Mode) (p : CheckerInPlace S) (i : Instance) (path : String) : TypeRule S → InPlace Unit
  | .any => pure ()
  | .named name => if name.accepts mode i then pure () else record [⟨path, mismatch i name⟩]
  | .schema x => p x i path .here
  | .unknown name => throw (.fault (.unknownType path name))
  | .union candidates => do
    let saved ← isolate
    let found ← if candidates.isEmpty then pure none else firstCleanInPlace mode p i path candidates .empty
    set saved
    match found with
    | none => pure ()
    | some last => record last.records

/-- Tries alternatives, each on an empty ledger, until one finds nothing wrong. -/
def firstCleanInPlace (mode : Mode) (p : CheckerInPlace S) (i : Instance) (path : String) :
    List (TypeRule S) → Ledger → InPlace (Option Ledger)
  | [], last => pure (some last)
  | r :: rs, _ => do
    checkInPlace mode p i path r
    let found ← isolate
    if found.records.isEmpty then return none
    firstCleanInPlace mode p i path rs found

end

mutual

theorem checkInPlace_follows (h : p.For apply) :
    ∀ r : TypeRule S, Follows (r.checkInPlace mode p i path) (r.check mode apply i path)
  | .any => Follows.skip
  | .named name => by
    intro s
    rw [checkInPlace, check]
    split
    · exact Follows.skip s
    · exact Follows.add path _ s
  | .schema x => h.follows x i path .here
  | .unknown name => Follows.fail _
  | .union candidates => by
    intro s
    rw [checkInPlace, check]
    refine Tracks.after (run_isolate s) ?_
    split
    · exact Tracks.pure rfl
    · refine (firstCleanInPlace_tracks h candidates ∅).bind fun found _ => ?_
      refine Tracks.after (p := set s.ledger) rfl ?_
      cases found with
      | none => exact Tracks.pure rfl
      | some last => exact run_record s last.records

theorem firstCleanInPlace_tracks (h : p.For apply) : ∀ (rs : List (TypeRule S)) (last : ErrorSet),
    Tracks (firstCleanInPlace mode p i path rs last.ledger) ∅ (firstClean mode apply i path rs last)
      fun found => (found.map ErrorSet.ledger, ∅)
  | [], last => Tracks.pure rfl
  | r :: rs, last => by
    rw [firstCleanInPlace, firstClean]
    refine (checkInPlace_follows h r ∅).bind fun found _ => ?_
    refine Tracks.after (run_isolate found) ?_
    show Tracks (if found.isEmpty then _ else _) ∅ (if found.isEmpty then _ else _) _
    split
    · exact Tracks.pure rfl
    · exact firstCleanInPlace_tracks h rs found

end

end TypeRule

/-! ## Conditions for every kind -/

/-- Holds an object that has the property `key` against what its presence asks for. -/
def Dependency.checkInPlace (p : CheckerInPlace S) (members : Members) (path key : String) : Dependency S → InPlace Unit
  | .properties wanted => wanted.forM fun name =>
    if Json.hasKey members name then pure ()
    else record [⟨path, key ++ " depends on " ++ name ++ " and " ++ name ++ " is missing"⟩]
  | .schema x => p x (.present (.object members)) path .here
  | .ignored => pure ()

theorem Dependency.checkInPlace_follows (h : p.For apply) (members : Members) (key : String) (d : Dependency S) :
    Follows (d.checkInPlace p members path key) (d.check apply members path key) := by
  cases d with
  | properties wanted => exact Follows.foldl fun name => Follows.addUnless _ path _
  | schema x => exact h.follows x _ path .here
  | ignored => exact Follows.skip

namespace Conditions

/-- Records a message if an attempt writes nothing, and cuts off what it has written otherwise. -/
def negateInPlace (path message : String) (attempt : InPlace Unit) : InPlace Unit := do
  let before ← get
  attempt
  if (← get).count == before.count then record [⟨path, message⟩] else cutBack before

/-- Holds an instance against `type`. -/
def checkTypeInPlace (mode : Mode) (p : CheckerInPlace S) (c : Conditions S) (i : Instance) (path : String) :
    InPlace Unit :=
  match c.type with
  | some rule => if i.isAbsent then pure () else rule.checkInPlace mode p i path
  | none => pure ()

/-- Holds an instance against `disallow`. -/
def checkDisallowInPlace (mode : Mode) (p : CheckerInPlace S) (c : Conditions S) (i : Instance) (path : String) :
    InPlace Unit :=
  match c.disallow with
  | some rule => negateInPlace path "disallowed value was matched" (rule.checkInPlace mode p i path)
  | none => pure ()

/-- Holds an instance against `not`. -/
def checkNotInPlace (p : CheckerInPlace S) (c : Conditions S) (i : Instance) (path : String) : InPlace Unit :=
  match c.not with
  | some x => negateInPlace path "matched a schema which it should not" (p x i path .here)
  | none => pure ()

/-- Holds an instance against all these keywords. -/
def checkInPlace (mode : Mode) (p : CheckerInPlace S) (c : Conditions S) (i : Instance) (path : String) :
    InPlace Unit := do
  c.extended.forM fun x => p x i path .here
  found (c.required.check i path)
  c.checkTypeInPlace mode p i path
  c.checkDisallowInPlace mode p i path
  c.checkNotInPlace p i path
  match i with
  | .present (.object members) => do
    found (c.checkSize members path)
    c.dependencies.forM fun d =>
      if Json.hasKey members d.1 then d.2.checkInPlace p members path d.1 else pure ()
  | _ => pure ()

theorem negateInPlace_follows {attempt : InPlace Unit} {f : ErrorSet → Run ErrorSet} {message : String}
    (h : Follows attempt f) (hf : Appends f) :
    Follows (negateInPlace path message attempt) fun s => return negate path message s (← f s) := by
  intro s
  refine Tracks.after (p := get) rfl ?_
  refine (h s).bind fun t ht => ?_
  -- The attempt has only appended, so an equal count means an equal set, and cutting brings back the one before.
  have hprefix : s.records <+: t.records := ((hf s).ok ht).appends
  show Tracks (if t.size == s.size then record [⟨path, message⟩] else cutBack s.ledger) t
    (pure (if t.size == s.size then s.add path message else s)) _
  split
  · rename_i hsize
    rw [(ErrorSet.size_beq_iff hprefix).mp hsize]
    exact Follows.add path message s
  · exact run_cutBack hprefix

theorem checkTypeInPlace_follows (h : p.For apply) (c : Conditions S) :
    Follows (c.checkTypeInPlace mode p i path) (c.checkType mode apply i path) := by
  unfold checkTypeInPlace checkType
  cases c.type with
  | none => exact Follows.skip
  | some rule => exact Follows.ite Follows.skip (rule.checkInPlace_follows h)

theorem checkDisallowInPlace_follows (h : p.For apply) (c : Conditions S) :
    Follows (c.checkDisallowInPlace mode p i path) (c.checkDisallow mode apply i path) := by
  unfold checkDisallowInPlace checkDisallow
  cases c.disallow with
  | none => exact Follows.skip
  | some rule => exact negateInPlace_follows (rule.checkInPlace_follows h) (rule.check_appends h.keeps i path)

theorem checkNotInPlace_follows (h : p.For apply) (c : Conditions S) :
    Follows (c.checkNotInPlace p i path) (c.checkNot apply i path) := by
  unfold checkNotInPlace checkNot
  cases c.not with
  | none => exact Follows.skip
  | some x => exact negateInPlace_follows (h.follows x i path .here) (h.appends x i path .here)

theorem checkInPlace_follows (h : p.For apply) (c : Conditions S) :
    Follows (c.checkInPlace mode p i path) (c.check mode apply i path) := by
  intro s
  unfold checkInPlace check
  refine (Follows.forM (fun x _ => h.follows x i path .here) s).bind fun t _ => ?_
  refine Tracks.after (run_found (Required.check_extend c.required) t) ?_
  refine (checkTypeInPlace_follows h c _).bind fun t _ => ?_
  refine (checkDisallowInPlace_follows h c t).bind fun t _ => ?_
  refine (checkNotInPlace_follows h c t).bind fun t _ => ?_
  rcases i with _ | j
  · exact Tracks.pure rfl
  · cases j with
    | object members =>
      refine Tracks.after (run_found (checkSize_extend c members) t) ?_
      refine Follows.forM (fun d _ => ?_) _
      exact Follows.ite (Dependency.checkInPlace_follows h members d.1 d.2) Follows.skip
    | _ => exact Tracks.pure rfl

end Conditions

/-! ## Combinators -/

namespace Combinators

/-- Runs the branches in a row and tells whether each wrote nothing. -/
def runAllInPlace (p : CheckerInPlace S) (i : Instance) (path : String) : List S → InPlace Bool
  | [] => pure true
  | x :: xs => do
    let before ← get
    p x i path .here
    let after ← get
    let clean ← runAllInPlace p i path xs
    return after.count == before.count && clean

/-- Holds an instance against all branches in a row. -/
def checkAllOfInPlace (p : CheckerInPlace S) (i : Instance) (path : String) (branches : List S) : InPlace Unit := do
  let clean ← runAllInPlace p i path branches
  if clean then pure () else record [⟨path, "failed to match all schemas"⟩]

/-- Runs branches until one writes nothing, and tells whether there is one. What the branch before has written is cut
off first. -/
def firstCleanInPlace (p : CheckerInPlace S) (i : Instance) (path : String) (before : Ledger) : List S → InPlace Bool
  | [] => pure false
  | x :: xs => do
    cutBack before
    p x i path .here
    if (← get).count == before.count then return true
    firstCleanInPlace p i path before xs

/-- Holds an instance against branches until one finds nothing wrong. -/
def checkAnyOfInPlace (p : CheckerInPlace S) (i : Instance) (path : String) (branches : List S) : InPlace Unit := do
  let before ← get
  let matched ← firstCleanInPlace p i path before branches
  if matched then cutBack before else record [⟨path, "failed to match at least one schema"⟩]

/-- Runs branches, each on an empty ledger, and gives the number of those that find nothing wrong and what all of them
find. -/
def runEachInPlace (p : CheckerInPlace S) (i : Instance) (path : String) : List S → Nat → Ledger → InPlace (Nat × Ledger)
  | [], clean, collected => pure (clean, collected)
  | x :: xs, clean, collected => do
    p x i path .here
    let attempt ← isolate
    runEachInPlace p i path xs (if attempt.records.isEmpty then clean + 1 else clean) (collected.write attempt.records)

/-- Holds an instance against branches of which exactly one has to find nothing wrong. -/
def checkOneOfInPlace (p : CheckerInPlace S) (i : Instance) (path : String) (branches : List S) : InPlace Unit := do
  let saved ← isolate
  let (clean, collected) ← runEachInPlace p i path branches 0 .empty
  set saved
  if clean == 1 then pure ()
  else do
    record collected.records
    record [⟨path, "failed to match exactly one schema"⟩]

/-- Applies a rule to a list of branches that a schema may lack. -/
def checkOptionalInPlace (rule : List S → InPlace Unit) : Option (List S) → InPlace Unit
  | some branches => rule branches
  | none => pure ()

/-- Holds an instance against the combinators; an absent one satisfies them all. -/
def checkInPlace (p : CheckerInPlace S) (c : Combinators S) (i : Instance) (path : String) : InPlace Unit :=
  if i.isAbsent then pure ()
  else do
    checkOptionalInPlace (checkAllOfInPlace p i path) c.allOf
    checkOptionalInPlace (checkAnyOfInPlace p i path) c.anyOf
    checkOptionalInPlace (checkOneOfInPlace p i path) c.oneOf

theorem runAllInPlace_tracks (h : p.For apply) (xs : List S) (s : ErrorSet) :
    Tracks (runAllInPlace p i path xs) s (runAll apply i path xs s) id := by
  induction xs generalizing s with
  | nil => exact Tracks.pure rfl
  | cons x xs ih =>
    refine Tracks.after (p := get) rfl ?_
    refine (h.follows x i path .here s).bind fun t _ => ?_
    refine Tracks.after (p := get) rfl ?_
    exact (ih t).bind fun r _ => Tracks.pure rfl

theorem checkAllOfInPlace_follows (h : p.For apply) (xs : List S) :
    Follows (checkAllOfInPlace p i path xs) (checkAllOf apply xs i path) :=
  fun s => (runAllInPlace_tracks h xs s).bind fun r _ => Follows.addUnless (r.1 = true) path _ r.2

/-- When a branch writes nothing, the ledger is that of the checkpoint again; otherwise it is what the last one leaves. -/
theorem firstCleanInPlace_tracks (h : p.For apply) (s : ErrorSet) (xs : List S) (last : ErrorSet)
    (hlast : s.records <+: last.records) :
    Tracks (firstCleanInPlace p i path s.ledger xs) last (firstClean apply i path s xs last)
      fun found => (found.isNone, found.getD s) := by
  induction xs generalizing last with
  | nil => exact Tracks.pure rfl
  | cons x xs ih =>
    refine Tracks.after (run_cutBack hlast) ?_
    refine (h.follows x i path .here s).bind fun t ht => ?_
    have hprefix : s.records <+: t.records := ((h.appends x i path .here s).ok ht).appends
    refine Tracks.after (p := get) rfl ?_
    show Tracks (if t.size == s.size then pure true else _) t (if t.size == s.size then pure none else _) _
    split
    · rename_i hsize
      rw [(ErrorSet.size_beq_iff hprefix).mp hsize]
      exact Tracks.pure rfl
    · exact ih t hprefix

theorem checkAnyOfInPlace_follows (h : p.For apply) (xs : List S) :
    Follows (checkAnyOfInPlace p i path xs) (checkAnyOf apply xs i path) := by
  intro s
  refine Tracks.after (p := get) rfl ?_
  refine (firstCleanInPlace_tracks h s xs s (List.prefix_refl _)).bind fun found _ => ?_
  cases found with
  | none => exact run_cutBack (List.prefix_refl s.records)
  | some last => exact Follows.add path _ last

theorem runEachInPlace_tracks (h : p.For apply) (xs : List S) (clean : Nat) (collected : ErrorSet) :
    Tracks (runEachInPlace p i path xs clean collected.ledger) ∅ (runEach apply i path xs clean collected)
      fun r => ((r.1, r.2.ledger), ∅) := by
  induction xs generalizing clean collected with
  | nil => exact Tracks.pure rfl
  | cons x xs ih =>
    refine (h.follows x i path .here ∅).bind fun t _ => ?_
    refine Tracks.after (run_isolate t) ?_
    rw [← ErrorSet.ledger_extend]
    exact ih _ _

theorem checkOneOfInPlace_follows (h : p.For apply) (xs : List S) :
    Follows (checkOneOfInPlace p i path xs) (checkOneOf apply xs i path) := by
  intro s
  refine Tracks.after (run_isolate s) ?_
  refine (runEachInPlace_tracks h xs 0 ∅).bind fun r _ => ?_
  refine Tracks.after (p := set s.ledger) rfl ?_
  show Tracks (if r.1 == 1 then pure () else _) s
    (pure (if r.1 == 1 then s else (s.extend r.2).add path "failed to match exactly one schema")) _
  split
  · exact Tracks.pure rfl
  · refine Tracks.after (run_record s r.2.records) ?_
    exact Follows.add path _ (s.extend r.2)

theorem checkOptionalInPlace_follows {rule : List S → InPlace Unit} {rule' : List S → ErrorSet → Run ErrorSet}
    (h : ∀ xs, Follows (rule xs) (rule' xs)) (branches : Option (List S)) :
    Follows (checkOptionalInPlace rule branches) (checkOptional rule' branches) := by
  cases branches with
  | none => exact Follows.skip
  | some xs => exact h xs

theorem checkInPlace_follows (h : p.For apply) (c : Combinators S) :
    Follows (c.checkInPlace p i path) (c.check apply i path) := by
  unfold checkInPlace check
  refine Follows.ite Follows.skip fun s => ?_
  refine (checkOptionalInPlace_follows (checkAllOfInPlace_follows h) c.allOf s).bind fun t _ => ?_
  refine (checkOptionalInPlace_follows (checkAnyOfInPlace_follows h) c.anyOf t).bind fun t _ => ?_
  exact checkOptionalInPlace_follows (checkOneOfInPlace_follows h) c.oneOf t

end Combinators

/-! ## Arrays -/

namespace ElementRules

/-- Holds an element against the schema for all elements, and if that writes something, against `additionalItems`
instead. The records that are cut off for this are written again unless the second attempt writes fewer. -/
def checkElementInPlace (p : CheckerInPlace S) (additional : Additional S) (schema : S) (path : String)
    (position : Nat) (element : Json) : InPlace Unit := do
  let before ← get
  p schema (.present element) path (.index position)
  if (← get).count == before.count then return ()
  match additional with
  | .unspecified | .deny => return ()
  | .allow => retryInPlace before (pure ())
  | .schema other => retryInPlace before (p other (.present element) path (.index position))
where
  /-- Weighs a second attempt against what has been written since the checkpoint. -/
  retryInPlace (before : Ledger) (second : InPlace Unit) : InPlace Unit := do
    let first ← splitOff before
    second
    if first.length ≤ (← growth before) then
      cutBack before
      record first

/-- Holds each element, from a position on, against the schema for all elements. -/
def checkEveryInPlace (p : CheckerInPlace S) (additional : Additional S) (schema : S) (path : String) :
    Nat → List Json → InPlace Unit
  | _, [] => pure ()
  | position, e :: es => do
    checkElementInPlace p additional schema path position e
    checkEveryInPlace p additional schema path (position + 1) es

/-- Holds an element for whose position there is no schema against `additionalItems`. -/
def checkSurplusInPlace (p : CheckerInPlace S) (additional : Additional S) (path : String) (segment : Segment)
    (position : Nat) (element : Json) : InPlace Unit :=
  match additional with
  | .schema other => p other (.present element) path (.index position)
  | .deny => record [⟨path, "The item " ++ segment.text ++ "[" ++ (Segment.index position).text ++
      "] is not defined and the definition does not allow additional items"⟩]
  | .allow | .unspecified => pure ()

/-- Holds elements against the schemas of their positions. -/
def checkPositionsInPlace (p : CheckerInPlace S) (additional : Additional S) (path : String) (segment : Segment) :
    Nat → List S → List Json → InPlace Unit
  | _, [], [] => pure ()
  | position, x :: xs, e :: es => do
    p x (.present e) path (.index position)
    checkPositionsInPlace p additional path segment (position + 1) xs es
  | position, [], e :: es => do
    checkSurplusInPlace p additional path segment position e
    checkPositionsInPlace p additional path segment (position + 1) [] es
  | position, x :: xs, [] => do
    p x .absent path (.index position)
    checkPositionsInPlace p additional path segment (position + 1) xs []

/-- Holds an array against all keywords. -/
def checkInPlace (p : CheckerInPlace S) (r : ElementRules S) (elements : List Json) (path : String)
    (segment : Segment) : InPlace Unit := do
  found (r.checkCount elements path)
  match r.items with
  | .unspecified => pure ()
  | .every schema => checkEveryInPlace p r.additional schema path 0 elements
  | .positions schemas =>
    if elements.isEmpty then pure ()
    else checkPositionsInPlace p r.additional path segment 0 schemas elements

/-- The first attempt is kept unless the second one finds less. -/
theorem retryInPlace_tracks {second : InPlace Unit} {f : ErrorSet → Run ErrorSet} (h : Follows second f) (hf : Appends f)
    {s first : ErrorSet} (hfirst : s.records <+: first.records) :
    Tracks (checkElementInPlace.retryInPlace s.ledger second) first
      (do let t ← f s; return if t.size < first.size then t else first) ((), ·) := by
  refine Tracks.after (run_splitOff hfirst) ?_
  refine (h s).bind fun t ht => ?_
  have hsecond : s.records <+: t.records := ((hf s).ok ht).appends
  refine Tracks.after (run_growth hsecond) ?_
  have hfirstSize : s.size ≤ first.size := hfirst.length_le
  have hsecondSize : s.size ≤ t.size := hsecond.length_le
  -- Both attempts start from the checkpoint, so to compare what they add is to compare what they leave.
  dsimp only
  rw [ErrorSet.length_drop_ledger]
  by_cases hless : t.size < first.size
  · rw [if_neg (by omega), if_pos hless]
    exact Tracks.pure rfl
  · rw [if_pos (by omega), if_neg hless]
    refine Tracks.after (run_cutBack hsecond) ?_
    exact congrArg (fun l => Except.ok ((), l)) (ErrorSet.write_drop hfirst)

theorem checkElementInPlace_follows (h : p.For apply) (a : Additional S) (x : S) (position : Nat) (e : Json) :
    Follows (checkElementInPlace p a x path position e) (checkElement apply a x path position e) := by
  intro s
  refine Tracks.after (p := get) rfl ?_
  refine (h.follows x _ path _ s).bind fun first hfirst => ?_
  have hprefix : s.records <+: first.records := ((h.appends x _ path _ s).ok hfirst).appends
  refine Tracks.after (p := get) rfl ?_
  show Tracks (if first.size == s.size then pure () else _) first (if first.size == s.size then pure first else _) _
  split
  · exact Tracks.pure rfl
  · rename_i hsize
    cases a with
    | unspecified => exact Tracks.pure rfl
    | deny => exact Tracks.pure rfl
    | allow =>
      have hless : s.size < first.size := by
        have hle : s.size ≤ first.size := hprefix.length_le
        rw [beq_iff_eq] at hsize
        omega
      have hretry := retryInPlace_tracks Follows.skip (fun t => Ends.pure (Grows.refl t)) hprefix
      rw [pure_bind, if_pos hless] at hretry
      exact hretry
    | schema other => exact retryInPlace_tracks (h.follows other _ path _) (h.appends other _ path _) hprefix

theorem checkEveryInPlace_follows (h : p.For apply) (a : Additional S) (x : S) (position : Nat) (es : List Json) :
    Follows (checkEveryInPlace p a x path position es) (checkEvery apply a x path position es) := by
  induction es generalizing position with
  | nil => exact Follows.skip
  | cons e es ih =>
    exact fun s => (checkElementInPlace_follows h a x position e s).bind fun t _ => ih (position + 1) t

theorem checkSurplusInPlace_follows (h : p.For apply) (a : Additional S) (position : Nat) (e : Json) :
    Follows (checkSurplusInPlace p a path segment position e) (checkSurplus apply a path segment position e) := by
  cases a with
  | schema other => exact h.follows other _ path _
  | deny => exact Follows.add path _
  | allow => exact Follows.skip
  | unspecified => exact Follows.skip

theorem checkPositionsInPlace_follows (h : p.For apply) (a : Additional S) :
    ∀ (position : Nat) (xs : List S) (es : List Json),
      Follows (checkPositionsInPlace p a path segment position xs es) (checkPositions apply a path segment position xs es)
  | position, [], [], s => by
    rw [checkPositionsInPlace, checkPositions]
    exact Tracks.pure rfl
  | position, x :: xs, e :: es, s => by
    rw [checkPositionsInPlace, checkPositions]
    exact (h.follows x _ path _ s).bind fun t _ => checkPositionsInPlace_follows h a (position + 1) xs es t
  | position, [], e :: es, s => by
    rw [checkPositionsInPlace, checkPositions]
    exact (checkSurplusInPlace_follows h a position e s).bind fun t _ =>
      checkPositionsInPlace_follows h a (position + 1) [] es t
  | position, x :: xs, [], s => by
    rw [checkPositionsInPlace, checkPositions]
    exact (h.follows x _ path _ s).bind fun t _ => checkPositionsInPlace_follows h a (position + 1) xs [] t

theorem checkInPlace_follows (h : p.For apply) (r : ElementRules S) (elements : List Json) :
    Follows (r.checkInPlace p elements path segment) (r.check apply elements path segment) := by
  intro s
  unfold checkInPlace check
  refine Tracks.after (run_found (checkCount_extend r elements) s) ?_
  cases r.items with
  | unspecified => exact Tracks.pure rfl
  | every x => exact checkEveryInPlace_follows h r.additional x 0 elements _
  | positions xs =>
    exact Follows.ite Follows.skip (checkPositionsInPlace_follows h r.additional 0 xs elements) _

end ElementRules

/-! ## Objects -/

namespace PropertyRules

/-- Holds the members whose key matches a pattern against its schema. -/
def checkPatternInPlace (p : CheckerInPlace S) (members : Members) (path : String) (r : PatternRule S) : InPlace Unit :=
  match Pattern.read? r.pattern with
  | .error _ => record [⟨path, "The pattern \"" ++ r.pattern ++ "\" is invalid"⟩]
  | .ok regex => members.forM fun m =>
    if regex.isIn m.1 then p r.schema (.present m.2) path (.key m.1) else pure ()

/-- Holds a property, which may be absent, against its entry. -/
def checkPropertyInPlace (p : CheckerInPlace S) (members : Members) (path : String) (r : PropertyRule S) :
    InPlace Unit :=
  p r.schema (Instance.ofOption (Json.find? members r.name)) path (.key r.name)

/-- Treats a member that is not mentioned as `additionalProperties` says. -/
def checkUncoveredInPlace (p : CheckerInPlace S) (r : PropertyRules S) (path key : String) (value : Json) :
    InPlace Unit :=
  match r.additional with
  | .deny =>
    if key == inlineSchemaKey then pure ()
    else record [⟨extendPath path (.key key),
      "The property " ++ key ++ " is not defined and the definition does not allow additional properties"⟩]
  | .schema other => p other (.present value) path (.key key)
  | .allow | .unspecified => pure ()

/-- Treats a member by itself: whether it is mentioned, and what it needs. -/
def checkMemberInPlace (p : CheckerInPlace S) (r : PropertyRules S) (members : Members) (path : String)
    (m : String × Json) : InPlace Unit :=
  let uncovered := if r.covers m.1 then pure () else r.checkUncoveredInPlace p path m.1 m.2
  do uncovered; found (r.checkRequires members path m.1)

/-- Holds an object against all keywords. -/
def checkInPlace (p : CheckerInPlace S) (r : PropertyRules S) (members : Members) (path : String) : InPlace Unit := do
  r.patterns.forM (checkPatternInPlace p members path)
  r.properties.forM (checkPropertyInPlace p members path)
  members.forM (r.checkMemberInPlace p members path)

variable {members : Members}

theorem checkPatternInPlace_follows (h : p.For apply) (r : PatternRule S) :
    Follows (checkPatternInPlace p members path r) (checkPattern apply members path · r) := by
  unfold checkPatternInPlace checkPattern
  cases Pattern.read? r.pattern with
  | error _ => exact Follows.add path _
  | ok regex => exact Follows.forM fun m _ => Follows.ite (h.follows r.schema _ path _) Follows.skip

theorem checkUncoveredInPlace_follows (h : p.For apply) (r : PropertyRules S) (key : String) (value : Json) :
    Follows (r.checkUncoveredInPlace p path key value) (r.checkUncovered apply path key value) := by
  unfold checkUncoveredInPlace checkUncovered
  cases r.additional with
  | deny => exact Follows.addUnless (key == inlineSchemaKey) _ _
  | schema other => exact h.follows other _ path _
  | allow => exact Follows.skip
  | unspecified => exact Follows.skip

theorem checkMemberInPlace_follows (h : p.For apply) (r : PropertyRules S) (m : String × Json) :
    Follows (r.checkMemberInPlace p members path m) (r.checkMember apply members path · m) := by
  intro s
  dsimp only
  rw [checkMember_eq]
  have huncovered : Follows (if r.covers m.1 then pure () else r.checkUncoveredInPlace p path m.1 m.2)
      fun s => if r.covers m.1 then pure s else r.checkUncovered apply path m.1 m.2 s :=
    Follows.ite Follows.skip (checkUncoveredInPlace_follows h r m.1 m.2)
  refine (huncovered s).bind fun t _ => ?_
  exact run_found (checkRequires_extend r members m.1) t

theorem checkInPlace_follows (h : p.For apply) (r : PropertyRules S) :
    Follows (r.checkInPlace p members path) (r.check apply members path) := by
  intro s
  refine (Follows.forM (fun x _ => checkPatternInPlace_follows h x) s).bind fun t _ => ?_
  refine (Follows.forM (fun x _ => h.follows x.schema _ path _) t).bind fun t _ => ?_
  exact Follows.forM (fun m _ => checkMemberInPlace_follows h r m) t

end PropertyRules

/-! ## All keywords -/

/-- Records a text in which the pattern is not found. -/
def TextRules.checkPatternInPlace (r : TextRules) (text path : String) : InPlace Unit :=
  match r.pattern with
  | none => pure ()
  | some pattern =>
    match Pattern.read? pattern with
    | .error reason => throw (.fault (.invalidPattern path pattern reason))
    | .ok regex =>
      if regex.isIn text then pure () else record [⟨path, "does not match the regex pattern " ++ pattern⟩]

theorem TextRules.checkPatternInPlace_follows (r : TextRules) (text : String) :
    Follows (r.checkPatternInPlace text path) (r.checkPattern text path) := by
  unfold checkPatternInPlace checkPattern
  cases r.pattern with
  | none => exact Follows.skip
  | some pattern =>
    dsimp only
    cases Pattern.read? pattern with
    | error reason => exact Follows.fail _
    | ok regex => exact Follows.addUnless _ path _

namespace Keywords

/-- Holds a string against its keywords and, where numeric strings count as numbers, against those for numbers. -/
def checkTextInPlace (mode : Mode) (formats : Formats) (k : Keywords S) (text path : String) : InPlace Unit := do
  found (k.text.checkLength text path)
  k.text.checkPatternInPlace text path
  found (k.checkFormat formats (.string text) path)
  match mode, readFinite? text with
  | .coerce, some x => found (k.number.check x (String.ofList (Text.trim text.toList)) path)
  | _, _ => pure ()

/-- Holds an instance against the keywords for its kind. -/
def checkKindInPlace (mode : Mode) (formats : Formats) (p : CheckerInPlace S) (k : Keywords S) (i : Instance)
    (path : String) (segment : Segment) : InPlace Unit :=
  match i with
  | .present (.array elements) => k.elements.checkInPlace p elements path segment
  | .present (.object members) =>
    match k.properties with
    | some rules => rules.checkInPlace p members path
    | none => pure ()
  | .present (.string text) => k.checkTextInPlace mode formats text path
  | .present (.integer n) => found (k.checkNumber formats (.integer n) path)
  | .present (.real x) => found (k.checkNumber formats (.real x) path)
  | _ => pure ()

/-- Holds an instance against all keywords. -/
def checkInPlace (mode : Mode) (formats : Formats) (p : CheckerInPlace S) (k : Keywords S) (i : Instance)
    (path : String) (segment : Segment) : InPlace Unit := do
  k.conditions.checkInPlace mode p i path
  k.combinators.checkInPlace p i path
  k.checkKindInPlace mode formats p i path segment
  match k.enumeration with
  | some e => found (e.check i path)
  | none => pure ()

theorem checkTextInPlace_follows (k : Keywords S) (text : String) :
    Follows (k.checkTextInPlace mode formats text path) (k.checkText mode formats text path) := by
  intro s
  unfold checkTextInPlace checkText
  refine Tracks.after (run_found (TextRules.checkLength_extend k.text text) s) ?_
  refine (TextRules.checkPatternInPlace_follows k.text text _).bind fun t _ => ?_
  refine Tracks.after (run_found (checkFormat_extend k (.string text)) t) ?_
  cases mode with
  | strict => exact Tracks.pure rfl
  | coerce =>
    cases readFinite? text with
    | none => exact Tracks.pure rfl
    | some x => exact run_found (NumberRules.check_extend k.number x _) _

theorem checkKindInPlace_follows (h : p.For apply) (k : Keywords S) :
    Follows (k.checkKindInPlace mode formats p i path segment) (k.checkKind mode formats apply i path segment) := by
  rcases i with _ | j
  · exact Follows.skip
  · cases j with
    | array elements => exact ElementRules.checkInPlace_follows h k.elements elements
    | object members =>
      unfold checkKindInPlace checkKind
      cases k.properties with
      | none => exact Follows.skip
      | some rules => exact PropertyRules.checkInPlace_follows h rules
    | string text => exact checkTextInPlace_follows k text
    | integer n => exact Follows.found (checkNumber_extend k (.integer n))
    | real x => exact Follows.found (checkNumber_extend k (.real x))
    | null => exact Follows.skip
    | bool _ => exact Follows.skip

/-- **Keywords in place follow keywords.** -/
theorem checkInPlace_follows (h : p.For apply) (k : Keywords S) :
    Follows (k.checkInPlace mode formats p i path segment) (k.check mode formats apply i path segment) := by
  intro s
  refine (Conditions.checkInPlace_follows h k.conditions s).bind fun t _ => ?_
  refine (Combinators.checkInPlace_follows h k.combinators t).bind fun t _ => ?_
  refine (checkKindInPlace_follows h k t).bind fun t _ => ?_
  cases k.enumeration with
  | none => exact Tracks.pure rfl
  | some e => exact run_found (Enumeration.check_extend e) t

end Keywords

end JsonSchema
