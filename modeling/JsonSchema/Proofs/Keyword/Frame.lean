import JsonSchema.Proofs.Keyword.Remit

/-!
# Keywords behind earlier records

A check may start from a set that holds what earlier checks recorded. Nearly everything that keywords do is the same
then, with the earlier records in front. The exceptions are the attempts that are judged by how much the set grows: a
violation that is held already makes the set grow less. So what has to be known of each such attempt is that it
records nothing that is held.

## What is here

* `Run.Mirrors` — a run ends as another one does, up to a change of its value.
* `Frames` — **a rule does the same behind earlier records**. `Apart` — it records none of them.
* `Keywords.Judges` — the attempts that keywords judge by what these record.
* `Keywords.check_frames` — **keywords do the same behind earlier records, if their subschemas do and what they judge
  records none of them**. The theorems before it are its parts, one for each group of keywords.
-/

set_option autoImplicit false

namespace JsonSchema

open Remit

/-! ## Runs that end alike -/

/-- A run ends as another one does, up to a change of its value. -/
def Run.Mirrors {α β : Type} (g : α → β) (x : Run β) (y : Run α) : Prop :=
  x.outcome = y.outcome.map g

namespace Run.Mirrors

variable {α β γ δ : Type} {g : α → β} {k : γ → δ} {x : Run β} {y : Run α}

theorem pure (g : α → β) (a : α) : Mirrors g (Pure.pure (g a)) (Pure.pure a) :=
  rfl

theorem fail (g : α → β) (f : Fault) : Mirrors g (Run.fail f) (Run.fail f) :=
  rfl

theorem ok {a : α} (h : Mirrors g x y) (hy : y.outcome = .ok a) : x.outcome = .ok (g a) := by
  rw [h, hy]
  rfl

theorem error {f : Fault} (h : Mirrors g x y) (hy : y.outcome = .error f) : x.outcome = .error f := by
  rw [h, hy]
  rfl

theorem bind {p : β → Run δ} {q : α → Run γ} (h : Mirrors g x y)
    (hfg : ∀ a, y.outcome = .ok a → Mirrors k (p (g a)) (q a)) : Mirrors k (x >>= p) (y >>= q) := by
  cases hy : y.outcome with
  | error e =>
    rw [Mirrors, outcome_bind_error hy, outcome_bind_error (h.error hy)]
    rfl
  | ok a =>
    rw [Mirrors, outcome_bind_ok hy, outcome_bind_ok (h.ok hy)]
    exact hfg a hy

/-- After the same run. -/
theorem bind_same {z : Run α} {p : α → Run δ} {q : α → Run γ}
    (hfg : ∀ a, z.outcome = .ok a → Mirrors k (p a) (q a)) : Mirrors k (z >>= p) (z >>= q) := by
  have hz : Mirrors id z z := by
    rw [Mirrors]
    cases z.outcome <;> rfl
  exact hz.bind hfg

end Run.Mirrors

open Run (Mirrors)

/-! ## Rules behind earlier records -/

variable {s t u : ErrorSet} {f g : ErrorSet → Run ErrorSet} {α : Type}

/-- Behind the records of `s`, the rule ends as it does without them, with these in front. -/
def Frames (s : ErrorSet) (f : ErrorSet → Run ErrorSet) : Prop :=
  ∀ t, Mirrors s.extend (f (s.extend t)) (f t)

/-- Whatever the rule starts from, it records nothing that `s` holds. -/
def Apart (s : ErrorSet) (f : ErrorSet → Run ErrorSet) : Prop :=
  ∀ t u, (f t).outcome = .ok u → ∀ v ∈ u.records, v ∈ t.records ∨ v ∉ s.records

/-- The rule only appends. -/
def Appends (f : ErrorSet → Run ErrorSet) : Prop :=
  ∀ t, free.Ends (f t) (free.Grows t)

theorem Frames.skip (s : ErrorSet) : Frames s fun t => pure t :=
  fun t => Mirrors.pure s.extend t

theorem Frames.fail (s : ErrorSet) (e : Fault) : Frames s fun _ => .fail e :=
  fun _ => Mirrors.fail s.extend e

theorem Frames.add (s : ErrorSet) (path message : String) : Frames s fun t => pure (t.add path message) := by
  intro t
  have h := Mirrors.pure s.extend (t.add path message)
  rwa [ErrorSet.extend_add] at h

theorem Frames.foldlM {f : ErrorSet → α → Run ErrorSet} {xs : List α} (h : ∀ x ∈ xs, Frames s (f · x))
    (t : ErrorSet) : Mirrors s.extend (xs.foldlM f (s.extend t)) (xs.foldlM f t) := by
  induction xs generalizing t with
  | nil => exact Mirrors.pure s.extend t
  | cons x xs ih =>
    rw [List.foldlM_cons, List.foldlM_cons]
    exact (h x List.mem_cons_self t).bind fun u _ => ih (fun y hy => h y (List.mem_cons_of_mem x hy)) u

/-- A set that grows by new records grows equally much behind `s`. -/
theorem Apart.size_extend (h : Apart s f) (hf : Appends f) (hu : (f t).outcome = .ok u) :
    (s.extend u).size + t.size = (s.extend t).size + u.size :=
  ErrorSet.size_extend ((hf t).ok hu).appends (h t u hu)

/-- Whether an attempt records anything is seen behind `s` as well. -/
theorem Apart.size_beq (h : Apart s f) (hf : Appends f) (hu : (f t).outcome = .ok u) :
    ((s.extend u).size == (s.extend t).size) = (u.size == t.size) := by
  have hsize := h.size_extend hf hu
  rw [Bool.eq_iff_iff, beq_iff_eq, beq_iff_eq]
  omega

/-! ## What keywords try -/

/-- The keywords judge the attempt by what it records. -/
inductive Keywords.Judges {S : Type} (mode : Mode) (apply : Checker S) (k : Keywords S) (path : String) :
    Instance → (ErrorSet → Run ErrorSet) → Prop where
  | disallow {i rule} (h : k.conditions.disallow = some rule) :
    Judges mode apply k path i (rule.check mode apply i path)
  | not {i x} (h : k.conditions.not = some x) : Judges mode apply k path i (apply x i path .here)
  | allOf {j xs x} (h : k.combinators.allOf = some xs) (hx : x ∈ xs) :
    Judges mode apply k path (.present j) (apply x (.present j) path .here)
  | anyOf {j xs x} (h : k.combinators.anyOf = some xs) (hx : x ∈ xs) :
    Judges mode apply k path (.present j) (apply x (.present j) path .here)
  | item {elements : List Json} {x other n e} (h : k.elements.items = .every x)
    (hother : k.elements.additional = .schema other) (he : elements[n]? = some e) :
    Judges mode apply k path (.present (.array elements)) (apply x (.present e) path (.index n))
  | retry {elements : List Json} {x other n e} (h : k.elements.items = .every x)
    (hother : k.elements.additional = .schema other) (he : elements[n]? = some e) :
    Judges mode apply k path (.present (.array elements)) (apply other (.present e) path (.index n))

variable {S : Type} {apply : Checker S} {mode : Mode} {formats : Formats} {i : Instance} {path : String}

theorem Checker.KeepsTo.appends (ha : apply.KeepsTo free) (x : S) (i : Instance) (path : String)
    (segment : Segment) : Appends (apply x i path segment) :=
  ha x i path segment

/-! ## Types -/

/-- Alternatives start from nothing, so nothing is asked of them. -/
theorem TypeRule.check_frames (r : TypeRule S) (h : ∀ x, r = .schema x → Frames s (apply x i path .here)) :
    Frames s (r.check mode apply i path) := by
  intro t
  cases r with
  | any => exact Mirrors.pure s.extend t
  | named name =>
    rw [check, check]
    split
    · exact Mirrors.pure s.extend t
    · exact Frames.add s path _ t
  | schema x => exact h x rfl t
  | unknown name => exact Mirrors.fail s.extend _
  | union candidates =>
    rw [check, check]
    split
    · exact Mirrors.pure s.extend t
    · refine Mirrors.bind_same fun found _ => ?_
      cases found with
      | none => exact Mirrors.pure s.extend t
      | some last =>
        dsimp only
        rw [← ErrorSet.extend_extend]
        exact Mirrors.pure s.extend _

theorem TypeRule.check_appends (ha : apply.KeepsTo free) (r : TypeRule S) (i : Instance) (path : String) :
    Appends (r.check mode apply i path) :=
  TypeRule.check_grows (free_permits path) r fun x _ => ha x i path .here

/-! ## Conditions for every kind -/

theorem Required.check_extend (r : Required) (s t : ErrorSet) :
    r.check i path (s.extend t) = s.extend (r.check i path t) := by
  unfold Required.check
  split
  · refine List.foldl_hom s.extend fun t name => ?_
    split
    · rfl
    · exact (ErrorSet.extend_add s t path _).symm
  · exact (ErrorSet.extend_add s t path _).symm
  · rfl

theorem Dependency.check_frames (members : Members) (key : String) (d : Dependency S)
    (h : ∀ x, d = .schema x → Frames s (apply x (.present (.object members)) path .here)) :
    Frames s (d.check apply members path key) := by
  intro t
  cases d with
  | properties wanted =>
    refine congrArg Except.ok (List.foldl_hom s.extend fun t name => ?_)
    split
    · rfl
    · exact (ErrorSet.extend_add s t path _).symm
  | schema x => exact h x rfl t
  | ignored => exact Mirrors.pure s.extend t

namespace Conditions

theorem negate_frames {message : String} (hf : Appends f) (h : Frames s f) (hj : Apart s f) :
    Frames s fun t => return negate path message t (← f t) := by
  intro t
  refine (h t).bind fun u hu => ?_
  unfold negate
  rw [hj.size_beq hf hu]
  split
  · exact Frames.add s path message t
  · exact Mirrors.pure s.extend t

theorem checkSize_extend (c : Conditions S) (members : Members) (s t : ErrorSet) :
    c.checkSize members path (s.extend t) = s.extend (c.checkSize members path t) := by
  unfold checkSize
  cases c.minProperties <;> cases c.maxProperties <;> simp only [apply_ite s.extend, ErrorSet.extend_add]

theorem check_frames {k : Keywords S} (ha : apply.KeepsTo free)
    (h : ∀ x j segment, k.Shares i x j segment → Frames s (apply x j path segment))
    (hj : ∀ f, k.Judges mode apply path i f → Apart s f) :
    Frames s (k.conditions.check mode apply i path) := by
  intro t
  rw [check, check]
  refine Mirrors.bind (Frames.foldlM (fun x hx => h x i .here (.extended hx)) t) fun t _ => ?_
  rw [Required.check_extend]
  refine Mirrors.bind (g := s.extend) ?_ fun t _ => ?_
  · unfold checkType
    cases htype : k.conditions.type with
    | none => exact Mirrors.pure s.extend _
    | some rule =>
      cases i with
      | absent => exact Mirrors.pure s.extend _
      | present j => exact rule.check_frames (fun x hx => h x _ .here (.type (hx ▸ htype))) _
  refine Mirrors.bind (g := s.extend) ?_ fun t _ => ?_
  · unfold checkDisallow
    cases hdisallow : k.conditions.disallow with
    | none => exact Mirrors.pure s.extend _
    | some rule =>
      have hrule : Frames s (rule.check mode apply i path) :=
        rule.check_frames fun x hx => h x i .here (.disallow (hx ▸ hdisallow))
      exact negate_frames (rule.check_appends ha i path) hrule (hj _ (.disallow hdisallow)) t
  refine Mirrors.bind (g := s.extend) ?_ fun t _ => ?_
  · unfold checkNot
    cases hnot : k.conditions.not with
    | none => exact Mirrors.pure s.extend _
    | some x => exact negate_frames (ha.appends x i path .here) (h x i .here (.not hnot)) (hj _ (.not hnot)) t
  split
  · dsimp only
    rw [checkSize_extend]
    refine Frames.foldlM (fun d hd => ?_) _
    dsimp only
    split
    · rename_i hkey
      exact Dependency.check_frames _ d.1 d.2 fun x hx => h x _ .here (.dependency (hx ▸ hd) hkey)
    · exact Frames.skip s
  · exact Mirrors.pure s.extend t

end Conditions

/-! ## Combinators -/

namespace Combinators

variable {xs : List S}

theorem runAll_mirrors (ha : apply.KeepsTo free) (h : ∀ x ∈ xs, Frames s (apply x i path .here))
    (hj : ∀ x ∈ xs, Apart s (apply x i path .here)) (t : ErrorSet) :
    Mirrors (Prod.map id s.extend) (runAll apply i path xs (s.extend t)) (runAll apply i path xs t) := by
  induction xs generalizing t with
  | nil => exact Mirrors.pure (Prod.map id s.extend) (true, t)
  | cons x xs ih =>
    rw [runAll, runAll]
    refine (h x List.mem_cons_self t).bind fun u hu => ?_
    have hrest := ih (fun y hy => h y (List.mem_cons_of_mem x hy)) (fun y hy => hj y (List.mem_cons_of_mem x hy)) u
    refine hrest.bind ?_
    rintro ⟨clean, w⟩ -
    rw [(hj x List.mem_cons_self).size_beq (ha.appends x i path .here) hu]
    exact Mirrors.pure (Prod.map id s.extend) (u.size == t.size && clean, w)

theorem checkAllOf_frames (ha : apply.KeepsTo free) (h : ∀ x ∈ xs, Frames s (apply x i path .here))
    (hj : ∀ x ∈ xs, Apart s (apply x i path .here)) : Frames s (checkAllOf apply xs i path) := by
  intro t
  refine (runAll_mirrors ha h hj t).bind fun r _ => ?_
  show Mirrors s.extend (pure (if r.1 then s.extend r.2 else (s.extend r.2).add path _))
    (pure (if r.1 then r.2 else r.2.add path _))
  split
  · exact Mirrors.pure s.extend r.2
  · exact Frames.add s path _ r.2

theorem firstClean_mirrors (ha : apply.KeepsTo free) (h : ∀ x ∈ xs, Frames s (apply x i path .here))
    (hj : ∀ x ∈ xs, Apart s (apply x i path .here)) (t last : ErrorSet) :
    Mirrors (Option.map s.extend) (firstClean apply i path (s.extend t) xs (s.extend last))
      (firstClean apply i path t xs last) := by
  induction xs generalizing last with
  | nil => exact Mirrors.pure (Option.map s.extend) (some last)
  | cons x xs ih =>
    rw [firstClean, firstClean]
    refine (h x List.mem_cons_self t).bind fun u hu => ?_
    rw [(hj x List.mem_cons_self).size_beq (ha.appends x i path .here) hu]
    split
    · exact Mirrors.pure (Option.map s.extend) none
    · exact ih (fun y hy => h y (List.mem_cons_of_mem x hy)) (fun y hy => hj y (List.mem_cons_of_mem x hy)) u

theorem checkAnyOf_frames (ha : apply.KeepsTo free) (h : ∀ x ∈ xs, Frames s (apply x i path .here))
    (hj : ∀ x ∈ xs, Apart s (apply x i path .here)) : Frames s (checkAnyOf apply xs i path) := by
  intro t
  refine (firstClean_mirrors ha h hj t t).bind fun found _ => ?_
  cases found with
  | none => exact Mirrors.pure s.extend t
  | some last => exact Frames.add s path _ last

/-- Branches of which exactly one has to find nothing wrong start from nothing, so nothing is asked of them. -/
theorem checkOneOf_frames (xs : List S) : Frames s (checkOneOf apply xs i path) := by
  intro t
  refine Mirrors.bind_same fun r _ => ?_
  show Mirrors s.extend (pure (if r.1 == 1 then s.extend t else ((s.extend t).extend r.2).add path _))
    (pure (if r.1 == 1 then t else (t.extend r.2).add path _))
  split
  · exact Mirrors.pure s.extend t
  · rw [← ErrorSet.extend_extend]
    exact Frames.add s path _ _

theorem checkOptional_frames {rule : List S → ErrorSet → Run ErrorSet} {branches : Option (List S)}
    (h : ∀ xs, branches = some xs → Frames s (rule xs)) : Frames s (checkOptional rule branches) := by
  cases branches with
  | none => exact Frames.skip s
  | some xs => exact h xs rfl

theorem check_frames {k : Keywords S} (ha : apply.KeepsTo free)
    (h : ∀ x j segment, k.Shares i x j segment → Frames s (apply x j path segment))
    (hj : ∀ f, k.Judges mode apply path i f → Apart s f) : Frames s (k.combinators.check apply i path) := by
  intro t
  cases i with
  | absent => exact Mirrors.pure s.extend t
  | present j =>
    have hallOf : Frames s (checkOptional (checkAllOf apply · (.present j) path) k.combinators.allOf) :=
      checkOptional_frames fun xs hxs => checkAllOf_frames ha (fun x hx => h x _ .here (.allOf hxs hx))
        fun x hx => hj _ (.allOf hxs hx)
    have hanyOf : Frames s (checkOptional (checkAnyOf apply · (.present j) path) k.combinators.anyOf) :=
      checkOptional_frames fun xs hxs => checkAnyOf_frames ha (fun x hx => h x _ .here (.anyOf hxs hx))
        fun x hx => hj _ (.anyOf hxs hx)
    refine (hallOf t).bind fun t _ => (hanyOf t).bind fun t _ => ?_
    exact checkOptional_frames (fun xs _ => checkOneOf_frames xs) t

end Combinators

/-! ## Arrays -/

namespace ElementRules

theorem checkCount_extend (r : ElementRules S) (elements : List Json) (s t : ErrorSet) :
    r.checkCount elements path (s.extend t) = s.extend (r.checkCount elements path t) := by
  unfold checkCount
  cases r.minItems <;> cases r.maxItems <;> simp only [apply_ite s.extend, ErrorSet.extend_add]

/-- An attempt that is given up unless it records nothing leaves what was there. -/
theorem ite_size_beq (h : t.records <+: u.records) : (if u.size == t.size then u else t) = t := by
  split
  · rename_i hsize
    exact (ErrorSet.size_beq_iff h).mp hsize
  · rfl

/-- The second attempt is compared with the first one, so both are judged where there is one. -/
theorem checkElement_frames {a : Additional S} {x : S} {position : Nat} {e : Json} (ha : apply.KeepsTo free)
    (hx : Frames s (apply x (.present e) path (.index position)))
    (hother : ∀ other, a = .schema other → Frames s (apply other (.present e) path (.index position)))
    (hj : ∀ other, a = .schema other → Apart s (apply x (.present e) path (.index position)) ∧
      Apart s (apply other (.present e) path (.index position))) :
    Frames s (checkElement apply a x path position e) := by
  intro t
  have happends (x : S) : Appends (apply x (.present e) path (.index position)) := ha.appends x _ path _
  refine (hx t).bind fun first hfirst => ?_
  have hgrows : t.records <+: first.records := ((happends x t).ok hfirst).appends
  cases a with
  | unspecified =>
    dsimp only
    rw [ite_self, ite_self]
    exact Mirrors.pure s.extend first
  | deny =>
    dsimp only
    rw [ite_self, ite_self]
    exact Mirrors.pure s.extend first
  | allow =>
    have hbehind := ((happends x (s.extend t)).ok ((hx t).ok hfirst)).appends
    have hleft := ite_size_beq hbehind
    have hright := ite_size_beq hgrows
    show Mirrors s.extend (if (s.extend first).size == (s.extend t).size then pure (s.extend first) else pure (s.extend t))
      (if first.size == t.size then pure first else pure t)
    rw [← apply_ite pure, ← apply_ite pure, hleft, hright]
    exact Mirrors.pure s.extend t
  | schema other =>
    obtain ⟨hjx, hjother⟩ := hj other rfl
    have hfirstSize := hjx.size_extend (happends x) hfirst
    rw [hjx.size_beq (happends x) hfirst]
    split
    · exact Mirrors.pure s.extend first
    · refine (hother other rfl t).bind fun second hsecond => ?_
      have hsecondSize := hjother.size_extend (happends other) hsecond
      have hless : (s.extend second).size < (s.extend first).size ↔ second.size < first.size := by omega
      simp only [hless]
      split
      · exact Mirrors.pure s.extend second
      · exact Mirrors.pure s.extend first

theorem checkEvery_frames {a : Additional S} {x : S} {es : List Json} {position : Nat}
    (h : ∀ n e, es[n]? = some e → Frames s (checkElement apply a x path (position + n) e)) :
    Frames s (checkEvery apply a x path position es) := by
  induction es generalizing position with
  | nil => exact Frames.skip s
  | cons e es ih =>
    intro t
    refine (h 0 e rfl t).bind fun u _ => ih (fun n e' he' => ?_) u
    rw [Nat.add_assoc, Nat.add_comm 1 n]
    exact h (n + 1) e' he'

theorem checkSurplus_frames {a : Additional S} {segment : Segment} {position : Nat} {e : Json}
    (h : ∀ x, a = .schema x → Frames s (apply x (.present e) path (.index position))) :
    Frames s (checkSurplus apply a path segment position e) := by
  cases a with
  | schema x => exact h x rfl
  | deny => exact Frames.add s path _
  | allow => exact Frames.skip s
  | unspecified => exact Frames.skip s

theorem checkPositions_frames {a : Additional S} {segment : Segment} :
    ∀ {position : Nat} {xs : List S} {es : List Json},
      (∀ n x, xs[n]? = some x → Frames s (apply x (Instance.ofOption es[n]?) path (.index (position + n)))) →
      (∀ n e, es[n]? = some e → Frames s (checkSurplus apply a path segment (position + n) e)) →
      Frames s (checkPositions apply a path segment position xs es)
  | position, [], [], _, _, t => by
    rw [checkPositions, checkPositions]
    exact Mirrors.pure s.extend t
  | position, x :: xs, [], hx, he, t => by
    rw [checkPositions, checkPositions]
    refine (hx 0 x rfl t).bind fun u _ => checkPositions_frames (fun n y hy => ?_) (by simp) u
    rw [Nat.add_assoc, Nat.add_comm 1 n]
    exact hx (n + 1) y hy
  | position, [], e :: es, hx, he, t => by
    rw [checkPositions, checkPositions]
    refine (he 0 e rfl t).bind fun u _ => checkPositions_frames (by simp) (fun n e' he' => ?_) u
    rw [Nat.add_assoc, Nat.add_comm 1 n]
    exact he (n + 1) e' he'
  | position, x :: xs, e :: es, hx, he, t => by
    rw [checkPositions, checkPositions]
    refine (hx 0 x rfl t).bind fun u _ => checkPositions_frames (fun n y hy => ?_) (fun n e' he' => ?_) u
    · rw [Nat.add_assoc, Nat.add_comm 1 n]
      exact hx (n + 1) y hy
    · rw [Nat.add_assoc, Nat.add_comm 1 n]
      exact he (n + 1) e' he'

theorem check_frames {k : Keywords S} {elements : List Json} {segment : Segment} (ha : apply.KeepsTo free)
    (h : ∀ x j step, k.Shares (.present (.array elements)) x j step → Frames s (apply x j path step))
    (hj : ∀ f, k.Judges mode apply path (.present (.array elements)) f → Apart s f) :
    Frames s (k.elements.check apply elements path segment) := by
  intro t
  unfold check
  rw [checkCount_extend]
  cases hitems : k.elements.items with
  | unspecified => exact Mirrors.pure s.extend _
  | every x =>
    refine checkEvery_frames (fun n e he => ?_) _
    rw [Nat.zero_add]
    refine checkElement_frames ha (h x _ _ (.item hitems he)) (fun other ho => ?_) fun other ho => ?_
    · exact h other _ _ (.additionalItem ho he)
    · exact ⟨hj _ (.item hitems ho he), hj _ (.retry hitems ho he)⟩
  | positions xs =>
    dsimp only
    split
    · exact Mirrors.pure s.extend _
    · refine checkPositions_frames (fun n x hx => ?_) (fun n e he => checkSurplus_frames fun x hx => ?_) _
      · rw [Nat.zero_add]
        exact h x _ _ (.position hitems hx)
      · rw [Nat.zero_add]
        exact h x _ _ (.additionalItem hx he)

end ElementRules

/-! ## Objects -/

namespace PropertyRules

variable {members : Members}

theorem checkPattern_frames {p : PatternRule S}
    (h : ∀ key value, (key, value) ∈ members → p.appliesTo key = true →
      Frames s (apply p.schema (.present value) path (.key key))) :
    Frames s (checkPattern apply members path · p) := by
  intro t
  unfold checkPattern
  cases hread : Pattern.read? p.pattern with
  | error _ => exact Frames.add s path _ t
  | ok regex =>
    refine Frames.foldlM (fun m hm => ?_) t
    dsimp only
    split
    · rename_i hin
      refine h m.1 m.2 hm ?_
      rw [PatternRule.appliesTo, hread]
      exact hin
    · exact Frames.skip s

theorem checkUncovered_frames {r : PropertyRules S} {key : String} {value : Json}
    (h : ∀ x, r.additional = .schema x → Frames s (apply x (.present value) path (.key key))) :
    Frames s (r.checkUncovered apply path key value) := by
  intro t
  unfold checkUncovered
  cases hadditional : r.additional with
  | deny =>
    dsimp only
    split
    · exact Mirrors.pure s.extend t
    · exact Frames.add s _ _ t
  | schema x => exact h x hadditional t
  | allow => exact Mirrors.pure s.extend t
  | unspecified => exact Mirrors.pure s.extend t

theorem checkRequires_extend (r : PropertyRules S) (members : Members) (key : String) (s t : ErrorSet) :
    r.checkRequires members path key (s.extend t) = s.extend (r.checkRequires members path key t) := by
  unfold checkRequires
  cases (r.definition? key).bind (·.requires) with
  | none => rfl
  | some other =>
    dsimp only
    split
    · rfl
    · exact (ErrorSet.extend_add s t path _).symm

theorem checkMember_frames {r : PropertyRules S} {m : String × Json}
    (h : ∀ x, r.additional = .schema x → r.covers m.1 = false →
      Frames s (apply x (.present m.2) path (.key m.1))) :
    Frames s (r.checkMember apply members path · m) := by
  intro t
  dsimp only
  rw [checkMember_eq, checkMember_eq]
  refine Mirrors.bind (g := s.extend) ?_ fun u _ => ?_
  · cases hcovers : r.covers m.1 with
    | true => exact Mirrors.pure s.extend t
    | false => exact checkUncovered_frames (fun x hx => h x hx hcovers) t
  · rw [checkRequires_extend]
    exact Mirrors.pure s.extend _

theorem check_frames {k : Keywords S} {r : PropertyRules S} (hr : k.properties = some r)
    (h : ∀ x j step, k.Shares (.present (.object members)) x j step → Frames s (apply x j path step)) :
    Frames s (r.check apply members path) := by
  intro t
  unfold check
  refine Mirrors.bind (Frames.foldlM (fun p hp => checkPattern_frames fun key value hm happlies => ?_) t) fun t _ => ?_
  · exact h _ _ _ (.pattern hr hp hm happlies)
  refine Mirrors.bind (Frames.foldlM (fun p hp => h _ _ _ (.property hr hp)) t) fun t _ => ?_
  exact Frames.foldlM (fun m hm => checkMember_frames fun x hx hcovers =>
    h _ _ _ (.additionalProperty hr hx hm hcovers)) t

end PropertyRules

/-! ## Strings, numbers and enumerations -/

theorem TextRules.checkLength_extend (r : TextRules) (text : String) (s t : ErrorSet) :
    r.checkLength text path (s.extend t) = s.extend (r.checkLength text path t) := by
  unfold checkLength
  cases r.maxLength <;> cases r.minLength <;> simp only [apply_ite s.extend, ErrorSet.extend_add]

theorem TextRules.checkPattern_frames (r : TextRules) (text : String) (s : ErrorSet) :
    Frames s (r.checkPattern text path) := by
  intro t
  unfold checkPattern
  cases r.pattern with
  | none => exact Mirrors.pure s.extend t
  | some p =>
    dsimp only
    cases Pattern.read? p with
    | error reason => exact Mirrors.fail s.extend _
    | ok regex =>
      dsimp only
      split
      · exact Mirrors.pure s.extend t
      · exact Frames.add s path _ t

theorem NumberRules.check_extend (r : NumberRules) (number : Binary64) (text : String) (s t : ErrorSet) :
    r.check number text path (s.extend t) = s.extend (r.check number text path t) := by
  have hminimum (t : ErrorSet) : r.checkMinimum number path (s.extend t) = s.extend (r.checkMinimum number path t) := by
    unfold checkMinimum
    cases r.minimum <;> simp only [apply_ite s.extend, ErrorSet.extend_add]
  have hmaximum (t : ErrorSet) : r.checkMaximum number path (s.extend t) = s.extend (r.checkMaximum number path t) := by
    unfold checkMaximum
    cases r.maximum <;> simp only [apply_ite s.extend, ErrorSet.extend_add]
  have hdivisor (d : Option Limit) (complaint : String) (t : ErrorSet) :
      checkDivisor d complaint number text path (s.extend t) =
        s.extend (checkDivisor d complaint number text path t) := by
    unfold checkDivisor
    cases d <;> simp only [apply_ite s.extend, ErrorSet.extend_add]
  unfold check
  dsimp only
  rw [hminimum, hmaximum, hdivisor, hdivisor]

theorem Enumeration.check_extend (e : Enumeration) (s t : ErrorSet) :
    e.check i path (s.extend t) = s.extend (e.check i path t) := by
  unfold check
  simp only [apply_ite s.extend, ErrorSet.extend_add]

/-! ## All keywords -/

namespace Keywords

variable {segment : Segment}

theorem checkFormat_extend (k : Keywords S) (j : Json) (s t : ErrorSet) :
    k.checkFormat formats j path (s.extend t) = s.extend (k.checkFormat formats j path t) := by
  unfold checkFormat
  cases k.format.bind (formats.complaint? · j) with
  | none => rfl
  | some message => exact (ErrorSet.extend_add s t path message).symm

theorem checkText_frames (k : Keywords S) (text : String) (s : ErrorSet) :
    Frames s (k.checkText mode formats text path) := by
  intro t
  unfold checkText
  rw [TextRules.checkLength_extend]
  refine (TextRules.checkPattern_frames k.text text s _).bind fun t _ => ?_
  dsimp only
  rw [checkFormat_extend]
  split
  · rw [NumberRules.check_extend]
    exact Mirrors.pure s.extend _
  · exact Mirrors.pure s.extend _

theorem checkNumber_extend (k : Keywords S) (j : Json) (s t : ErrorSet) :
    k.checkNumber formats j path (s.extend t) = s.extend (k.checkNumber formats j path t) := by
  unfold checkNumber
  cases j.number? with
  | none => exact checkFormat_extend k j s t
  | some x =>
    dsimp only
    rw [NumberRules.check_extend, checkFormat_extend]

theorem checkKind_frames {k : Keywords S} (ha : apply.KeepsTo free)
    (h : ∀ x j step, k.Shares i x j step → Frames s (apply x j path step))
    (hj : ∀ f, k.Judges mode apply path i f → Apart s f) :
    Frames s (k.checkKind mode formats apply i path segment) := by
  rcases i with _ | j
  · exact Frames.skip s
  · cases j with
    | array elements => exact ElementRules.check_frames ha h hj
    | object members =>
      cases hrules : k.properties with
      | none =>
        intro t
        unfold checkKind
        rw [hrules]
        exact Mirrors.pure s.extend t
      | some rules =>
        intro t
        unfold checkKind
        rw [hrules]
        exact PropertyRules.check_frames hrules h t
    | string text => exact checkText_frames k text s
    | integer n =>
      intro t
      exact congrArg Except.ok (checkNumber_extend k (.integer n) s t)
    | real x =>
      intro t
      exact congrArg Except.ok (checkNumber_extend k (.real x) s t)
    | null => exact Frames.skip s
    | bool _ => exact Frames.skip s

/-- **Keywords do the same behind earlier records**, if the handles that start from what is recorded do and the
attempts that are judged record nothing that is held. -/
theorem check_frames {k : Keywords S} (ha : apply.KeepsTo free)
    (h : ∀ x j step, k.Shares i x j step → Frames s (apply x j path step))
    (hj : ∀ f, k.Judges mode apply path i f → Apart s f) :
    Frames s (k.check mode formats apply i path segment) := by
  intro t
  unfold check
  refine (Conditions.check_frames ha h hj t).bind fun t _ => ?_
  refine (Combinators.check_frames ha h hj t).bind fun t _ => ?_
  refine (checkKind_frames ha h hj t).bind fun t _ => ?_
  cases k.enumeration with
  | none => exact Mirrors.pure s.extend t
  | some e =>
    dsimp only
    rw [Enumeration.check_extend]
    exact Mirrors.pure s.extend _

end Keywords

end JsonSchema
