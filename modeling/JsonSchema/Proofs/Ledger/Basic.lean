import JsonSchema.Proofs.ErrorSet
import Mathlib.Data.List.Basic

/-!
# Ledgers that are written in place

A set of violations can be kept in one place to which all rules write: a list of records, and beside it an index that
tells whether a record is among them. Attempts are given up by cutting the list back to the length it had at a
checkpoint, and their records are taken from the index. Nothing but the way in which a ledger is written keeps its list
without repetitions and its index in step with it.

## What is here

* `Ledger`, `Ledger.push`, `Ledger.write`, `Ledger.cut` — the list, the index, and what is done to them.
  `Ledger.Sound` — no record stands twice, and the index holds the records.
* `ErrorSet.ledger` — the ledger of a set. `Ledger.Sound.exists_eq` — **sound ledgers are those of sets**.
  `ErrorSet.cut_ledger` — **what has only been appended to is cut back to what it was**.
* `InPlace` — effects on a ledger, which end with a fault or where an assertion on a cut is broken.
* `Tracks` — an effect in place comes to the same end as a run. `Follows` — it does so from every set.
-/

set_option autoImplicit false

namespace JsonSchema

/-- Records in order, and an index of them. -/
structure Ledger where
  records : List Violation
  index : Std.ExtTreeSet Violation
deriving DecidableEq

namespace Ledger

/-- Nothing written. -/
def empty : Ledger := ⟨[], ∅⟩

/-- The number of records. -/
def count (l : Ledger) : Nat := l.records.length

/-- Writes a record, unless it is in the index. -/
def push (l : Ledger) (v : Violation) : Ledger :=
  if v ∈ l.index then l else ⟨l.records ++ [v], l.index.insert v⟩

/-- Writes records one after the other. -/
def write (l : Ledger) (vs : List Violation) : Ledger := vs.foldl push l

/-- Cuts off all but the first `n` records, and takes them from the index. -/
def cut (l : Ledger) (n : Nat) : Ledger :=
  ⟨l.records.take n, (l.records.drop n).foldl (fun index v => index.erase v) l.index⟩

/-- No record stands twice, and the index holds the records. -/
structure Sound (l : Ledger) : Prop where
  nodup : l.records.Nodup
  mem_index : ∀ v, v ∈ l.index ↔ v ∈ l.records

end Ledger

/-! ## Ledgers of sets -/

namespace ErrorSet

/-- The ledger of a set. -/
def ledger (s : ErrorSet) : Ledger := ⟨s.records, s.index⟩

variable {s t : ErrorSet}

theorem sound_ledger (s : ErrorSet) : s.ledger.Sound := ⟨s.nodup, s.mem_index⟩

theorem ledger_push (s : ErrorSet) (v : Violation) : (s.push v).ledger = s.ledger.push v := by
  unfold push Ledger.push
  by_cases h : v ∈ s
  · rw [dif_pos h, if_pos]
    exact h
  · rw [dif_neg h, if_neg]
    · rfl
    · exact h

theorem ledger_extendList (s : ErrorSet) (vs : List Violation) : (s.extendList vs).ledger = s.ledger.write vs := by
  induction vs generalizing s with
  | nil => rfl
  | cons v vs ih =>
    have hcons : (s.extendList (v :: vs)).ledger = ((s.push v).extendList vs).ledger := rfl
    rw [hcons, ih, ledger_push]
    rfl

theorem ledger_extend (s t : ErrorSet) : (s.extend t).ledger = s.ledger.write t.ledger.records :=
  ledger_extendList s t.records

/-- What has only been appended to is cut back to what it was. -/
theorem cut_ledger (h : s.records <+: t.records) : t.ledger.cut s.ledger.count = s.ledger := by
  have hrollback : t.rollback s.size = s := ext_records (List.prefix_iff_eq_take.mp h).symm
  exact congrArg ledger hrollback

/-- Behind a checkpoint, the records that have been appended are written again. -/
theorem write_drop (h : s.records <+: t.records) : s.ledger.write (t.ledger.records.drop s.ledger.count) = t.ledger := by
  obtain ⟨vs, hvs⟩ := h
  have ht := t.nodup
  rw [← hvs, List.nodup_append] at ht
  have hdrop : t.records.drop s.records.length = vs := by
    rw [← hvs, List.drop_left]
  have hextend : s.extendList vs = t := by
    refine ext_records ?_
    rw [records_extendList ht.2.1 fun v hv hs => ht.2.2 v hs v hv rfl, hvs]
  show s.ledger.write (t.records.drop s.records.length) = t.ledger
  rw [hdrop, ← ledger_extendList, hextend]

theorem length_drop_ledger (t s : ErrorSet) : (t.ledger.records.drop s.ledger.count).length = t.size - s.size :=
  List.length_drop

end ErrorSet

/-- Sound ledgers are those of sets. -/
theorem Ledger.Sound.exists_eq {l : Ledger} (h : l.Sound) : ∃ s : ErrorSet, s.ledger = l :=
  ⟨⟨l.records, l.index, h.nodup, h.mem_index⟩, rfl⟩

/-! ## Effects in place -/

/-- Why an effect on a ledger ends early. -/
inductive Halt where
  | fault (f : Fault)
  /-- A cut did not bring back the ledger of its checkpoint, or more was counted at a checkpoint than later. -/
  | broken
deriving DecidableEq

/-- An effect on the ledger to which all rules write. -/
abbrev InPlace := StateT Ledger (Except Halt)

namespace InPlace

variable {α β : Type}

/-- Ends as an outcome. -/
def ofOutcome : Except Fault α → InPlace α
  | .ok a => pure a
  | .error f => throw (.fault f)

/-- Writes records. -/
def record (vs : List Violation) : InPlace Unit := modify (·.write vs)

/-- Writes what a rule finds that only records. -/
def found (g : ErrorSet → ErrorSet) : InPlace Unit := record (g ∅).records

/-- Takes the ledger away, and leaves an empty one. -/
def isolate : InPlace Ledger := do
  let l ← get
  set Ledger.empty
  return l

/-- Cuts back to the number of records that there were at a checkpoint. It is asserted that this brings back the ledger
of the checkpoint. -/
def cutBack (checkpoint : Ledger) : InPlace Unit := do
  let l := (← get).cut checkpoint.count
  if l = checkpoint then set l else throw .broken

/-- Cuts back to a checkpoint, and gives the records that are cut off. -/
def splitOff (checkpoint : Ledger) : InPlace (List Violation) := do
  let tail := (← get).records.drop checkpoint.count
  cutBack checkpoint
  return tail

/-- How many records have been written since a checkpoint. It is asserted that there are not fewer than at the
checkpoint. -/
def growth (checkpoint : Ledger) : InPlace Nat := do
  let l ← get
  if checkpoint.count ≤ l.count then return l.count - checkpoint.count else throw .broken

end InPlace

open InPlace

/-! ### Runs that are tracked -/

section

variable {α β γ δ : Type}

/-- From the ledger of a set, an effect in place comes to the same end as a run: with the value and the ledger of the set
that belong to its value, or with its fault. -/
def Tracks (p : InPlace β) (s : ErrorSet) (x : Run α) (view : α → β × ErrorSet) : Prop :=
  p.run s.ledger =
    match x.outcome with
    | .ok a => .ok ((view a).1, (view a).2.ledger)
    | .error f => .error (.fault f)

variable {p : InPlace β} {q : β → InPlace δ} {s : ErrorSet} {x : Run α} {f : α → Run γ} {view : α → β × ErrorSet}
  {view' : γ → δ × ErrorSet}

theorem Tracks.pure {a : α} {b : β} (h : view a = (b, s)) : Tracks (Pure.pure b) s (Pure.pure a) view := by
  show Except.ok (b, s.ledger) = Except.ok ((view a).1, (view a).2.ledger)
  rw [h]

theorem Tracks.fail (e : Fault) : Tracks (throw (.fault e)) s (Run.fail e) view := rfl

theorem Tracks.bind (h : Tracks p s x view)
    (hf : ∀ a, x.outcome = .ok a → Tracks (q (view a).1) (view a).2 (f a) view') :
    Tracks (p >>= q) s (x >>= f) view' := by
  rw [Tracks, StateT.run_bind, h]
  cases hx : x.outcome with
  | error e =>
    rw [Run.outcome_bind_error hx]
    rfl
  | ok a =>
    rw [Run.outcome_bind_ok hx]
    exact hf a hx

/-- The same outcome decides how both go on. -/
theorem Tracks.ofOutcome_bind {z : Run α} {q : α → InPlace δ} (h : ∀ a, z.outcome = .ok a → Tracks (q a) s (f a) view') :
    Tracks (ofOutcome z.outcome >>= q) s (z >>= f) view' := by
  cases hz : z.outcome with
  | error e =>
    rw [Tracks, Run.outcome_bind_error hz]
    rfl
  | ok a =>
    rw [Tracks, Run.outcome_bind_ok hz]
    exact h a hz

/-- What is done to the ledger first. -/
theorem Tracks.after {t : ErrorSet} {p : InPlace δ} {q : δ → InPlace β} {b : δ}
    (hp : p.run s.ledger = .ok (b, t.ledger)) (h : Tracks (q b) t x view) : Tracks (p >>= q) s x view := by
  rw [Tracks, StateT.run_bind, hp]
  exact h

/-- From the ledger of every set, an effect in place comes to the same end as a rule. -/
def Follows (p : InPlace Unit) (f : ErrorSet → Run ErrorSet) : Prop :=
  ∀ s, Tracks p s (f s) ((), ·)

theorem Follows.skip : Follows (pure ()) pure := fun _ => .pure rfl

theorem Follows.fail (e : Fault) : Follows (throw (.fault e)) fun _ => .fail e := fun _ => .fail e

theorem run_record (s : ErrorSet) (vs : List Violation) :
    (record vs).run s.ledger = .ok ((), (s.extendList vs).ledger) := by
  rw [ErrorSet.ledger_extendList]
  rfl

/-- A rule that only records, whatever has been recorded before. -/
theorem run_found {g : ErrorSet → ErrorSet} (h : ∀ s t : ErrorSet, g (s.extend t) = s.extend (g t)) (s : ErrorSet) :
    (found g).run s.ledger = .ok ((), (g s).ledger) := by
  have hs : g s = s.extend (g ∅) := h s ∅
  rw [hs]
  exact run_record s _

theorem Follows.found {g : ErrorSet → ErrorSet} (h : ∀ s t : ErrorSet, g (s.extend t) = s.extend (g t)) :
    Follows (InPlace.found g) fun s => Pure.pure (g s) :=
  fun s => run_found h s

theorem Follows.add (path message : String) :
    Follows (InPlace.record [⟨path, message⟩]) fun s => Pure.pure (s.add path message) :=
  fun s => run_record s [⟨path, message⟩]

theorem Follows.bind {p q : InPlace Unit} {f g : ErrorSet → Run ErrorSet} (hp : Follows p f) (hq : Follows q g) :
    Follows (do p; q) fun s => f s >>= g :=
  fun s => (hp s).bind fun t _ => hq t

theorem Follows.forM {p : α → InPlace Unit} {f : ErrorSet → α → Run ErrorSet} {xs : List α}
    (h : ∀ x ∈ xs, Follows (p x) (f · x)) : Follows (xs.forM p) fun s => xs.foldlM f s := by
  induction xs with
  | nil => exact Follows.skip
  | cons x xs ih =>
    intro s
    dsimp only
    rw [List.forM_eq_forM, List.forM_cons, List.foldlM_cons]
    exact (h x List.mem_cons_self s).bind fun t _ => ih (fun y hy => h y (List.mem_cons_of_mem x hy)) t

theorem Follows.foldl {p : α → InPlace Unit} {f : ErrorSet → α → ErrorSet} {xs : List α}
    (h : ∀ x, Follows (p x) fun s => Pure.pure (f s x)) : Follows (xs.forM p) fun s => Pure.pure (xs.foldl f s) := by
  intro s
  have hfold : (Pure.pure (xs.foldl f s) : Run ErrorSet) = xs.foldlM (fun s x => Pure.pure (f s x)) s := by
    rw [List.foldlM_pure]
  dsimp only
  rw [hfold]
  exact Follows.forM (fun x _ => h x) s

/-- The same condition decides on both sides. -/
theorem Follows.ite {p q : InPlace Unit} {f g : ErrorSet → Run ErrorSet} {c : Prop} [Decidable c] (hp : Follows p f)
    (hq : Follows q g) : Follows (if c then p else q) fun s => if c then f s else g s := by
  intro s
  dsimp only
  split
  · exact hp s
  · exact hq s

/-- A message is recorded unless a condition holds. -/
theorem Follows.addUnless (c : Prop) [Decidable c] (path message : String) :
    Follows (if c then Pure.pure () else InPlace.record [⟨path, message⟩])
      fun s => Pure.pure (if c then s else s.add path message) := by
  intro s
  dsimp only
  split
  · exact Follows.skip s
  · exact Follows.add path message s

/-! ### Checkpoints -/

theorem run_isolate (s : ErrorSet) : isolate.run s.ledger = .ok (s.ledger, (∅ : ErrorSet).ledger) := rfl

variable {t : ErrorSet}

/-- What has only been appended to can be cut back. -/
theorem run_cutBack (h : s.records <+: t.records) : (cutBack s.ledger).run t.ledger = .ok ((), s.ledger) := by
  have hrun : (cutBack s.ledger).run t.ledger =
      (if t.ledger.cut s.ledger.count = s.ledger then set (t.ledger.cut s.ledger.count) else throw .broken :
        InPlace Unit).run t.ledger := rfl
  rw [hrun, if_pos (ErrorSet.cut_ledger h), ErrorSet.cut_ledger h]
  rfl

theorem run_splitOff (h : s.records <+: t.records) :
    (splitOff s.ledger).run t.ledger = .ok (t.ledger.records.drop s.ledger.count, s.ledger) := by
  have hrun : (splitOff s.ledger).run t.ledger =
      (do cutBack s.ledger; return t.ledger.records.drop s.ledger.count : InPlace _).run t.ledger := rfl
  rw [hrun, StateT.run_bind, run_cutBack h]
  rfl

theorem run_growth (h : s.records <+: t.records) :
    (growth s.ledger).run t.ledger = .ok (t.size - s.size, t.ledger) := by
  have hrun : (growth s.ledger).run t.ledger =
      (if s.ledger.count ≤ t.ledger.count then return t.ledger.count - s.ledger.count else throw .broken :
        InPlace Nat).run t.ledger := rfl
  have hcount : s.ledger.count ≤ t.ledger.count := h.length_le
  rw [hrun, if_pos hcount]
  rfl

end

end JsonSchema
