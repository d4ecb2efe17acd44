import JsonSchema.Proofs.Ledger.Basic

/-!
# Histories of a ledger

The list and the index of a ledger hold the same violations twice, in two forms, and every operation has to change both.
If one of them left a record in the index that is cut off the list, that violation could never be recorded again. No
history of operations comes to that, whatever the operations and wherever the list is cut.

## What is here

* `Ledger.Operation`, `Ledger.perform`, `Ledger.Answer` — what is done to a ledger, and what it answers.
* `Ledger.after`, `Ledger.transcript` — a history of operations, and all that can be seen of it.
* `ErrorSet.perform`, `ErrorSet.ledger_perform` — a set does the same, in its own operations.
* `Ledger.Sound.perform`, `Ledger.sound_after` — **list and index stay in step**, in one operation and in all of them.
* `Ledger.Sound.cut_after` — **cutting back to a checkpoint gives back the ledger of the checkpoint**, if nothing but
  appending has been done since.
* `Ledger.history_in_step` — what may be relied on after any history.
-/

set_option autoImplicit false

namespace JsonSchema

namespace Ledger

/-! ## Operations -/

/-- What is done to a ledger. The checkpoints are any numbers, and so are the ledgers from which it is extended any. -/
inductive Operation where
  | push (v : Violation)
  | add (path message : String)
  | extend (other : Ledger)
  | reset
  | rollback (checkpoint : Nat)
  | splitOff (checkpoint : Nat)

/-- What a ledger answers: nothing, whether a record is new, or the records that are cut off. -/
inductive Answer where
  | done
  | recorded (isNew : Bool)
  | removed (vs : List Violation)
deriving DecidableEq

/-- Whether nothing is written. -/
def isEmpty (l : Ledger) : Bool := l.records.isEmpty

/-- Ledgers count as equal if their records are. -/
def same (l m : Ledger) : Bool := l.records == m.records

/-- One operation. -/
def perform (l : Ledger) : Operation → Answer × Ledger
  | .push v => (.recorded (decide (v ∉ l.index)), l.push v)
  | .add path message => (.done, l.push ⟨path, message⟩)
  | .extend other => (.done, l.write other.records)
  | .reset => (.done, empty)
  | .rollback checkpoint => (.done, l.cut checkpoint)
  | .splitOff checkpoint => (.removed (l.records.drop checkpoint), l.cut checkpoint)

/-- The ledger after a history of operations. -/
def after (l : Ledger) (ops : List Operation) : Ledger := ops.foldl (fun l op => (l.perform op).2) l

/-- All that can be seen of a history: the answers, and the records behind each of them. -/
def transcript (l : Ledger) : List Operation → List (Answer × List Violation)
  | [] => []
  | op :: ops => ((l.perform op).1, (l.perform op).2.records) :: transcript (l.perform op).2 ops

/-- The operations that only append. -/
def Operation.Appends : Operation → Prop
  | .push _ | .add _ _ | .extend _ => True
  | .reset | .rollback _ | .splitOff _ => False

theorem after_append (l : Ledger) (ops more : List Operation) : l.after (ops ++ more) = (l.after ops).after more :=
  List.foldl_append

end Ledger

open Ledger (Operation Answer)

/-! ## Sets -/

namespace ErrorSet

/-- One operation on a set. -/
def perform (s : ErrorSet) : Operation → Answer × ErrorSet
  | .push v => (.recorded (decide (v ∉ s)), s.push v)
  | .add path message => (.done, s.add path message)
  | .extend other => (.done, s.extendList other.records)
  | .reset => (.done, ∅)
  | .rollback checkpoint => (.done, s.rollback checkpoint)
  | .splitOff checkpoint => (.removed (s.splitOff checkpoint).2, (s.splitOff checkpoint).1)

/-- The set after a history of operations. -/
def after (s : ErrorSet) (ops : List Operation) : ErrorSet := ops.foldl (fun s op => (s.perform op).2) s

variable {s : ErrorSet} {op : Operation} {ops : List Operation}

/-- A set answers what its ledger answers, and has its ledger afterwards. -/
theorem ledger_perform (s : ErrorSet) (op : Operation) :
    s.ledger.perform op = ((s.perform op).1, (s.perform op).2.ledger) := by
  cases op with
  | push v => exact congrArg (Prod.mk _) (s.ledger_push v).symm
  | add path message => exact congrArg (Prod.mk _) (s.ledger_push _).symm
  | extend other => exact congrArg (Prod.mk _) (s.ledger_extendList other.records).symm
  | reset | rollback | splitOff => rfl

theorem ledger_after (s : ErrorSet) (ops : List Operation) : (s.after ops).ledger = s.ledger.after ops := by
  induction ops generalizing s with
  | nil => rfl
  | cons op ops ih =>
    have hnext : (s.perform op).2.ledger = (s.ledger.perform op).2 := by rw [ledger_perform]
    exact (ih (s.perform op).2).trans (congrArg (Ledger.after · ops) hnext)

theorem prefix_perform (h : op.Appends) : s.records <+: (s.perform op).2.records := by
  cases op with
  | push v => exact prefix_push s v
  | add path message => exact prefix_add s path message
  | extend other => exact prefix_extendList s other.records
  | reset | rollback | splitOff => exact h.elim

theorem prefix_after (h : ∀ op ∈ ops, op.Appends) : s.records <+: (s.after ops).records := by
  induction ops generalizing s with
  | nil => exact List.prefix_refl _
  | cons op ops ih =>
    obtain ⟨hop, hops⟩ := List.forall_mem_cons.mp h
    exact (prefix_perform hop).trans (ih hops)

end ErrorSet

/-! ## Ledgers stay sound -/

namespace Ledger

variable {l m : Ledger} {op : Operation} {ops : List Operation} {v : Violation}

/-- No operation puts list and index out of step. -/
theorem Sound.perform (h : l.Sound) (op : Operation) : (l.perform op).2.Sound := by
  obtain ⟨s, rfl⟩ := h.exists_eq
  rw [ErrorSet.ledger_perform]
  exact ErrorSet.sound_ledger _

/-- No history does. -/
theorem Sound.after (h : l.Sound) (ops : List Operation) : (l.after ops).Sound := by
  induction ops generalizing l with
  | nil => exact h
  | cons op ops ih => exact ih (h.perform op)

theorem sound_after (ops : List Operation) : (empty.after ops).Sound :=
  Sound.after (ErrorSet.sound_ledger ∅) ops

/-- What has only been appended to is cut back to what it was. -/
theorem Sound.cut_after (h : l.Sound) (hops : ∀ op ∈ ops, op.Appends) : (l.after ops).cut l.count = l := by
  obtain ⟨s, rfl⟩ := h.exists_eq
  rw [← ErrorSet.ledger_after]
  exact ErrorSet.cut_ledger (ErrorSet.prefix_after hops)

/-- The index of a sound ledger is determined by its records. -/
theorem Sound.ext (hl : l.Sound) (hm : m.Sound) (h : l.records = m.records) : l = m := by
  obtain ⟨s, rfl⟩ := hl.exists_eq
  obtain ⟨t, rfl⟩ := hm.exists_eq
  exact congrArg ErrorSet.ledger (ErrorSet.ext_records h)

/-- The index of a sound ledger has as many violations as there are records. -/
theorem Sound.size_index (h : l.Sound) : l.index.size = l.records.length := by
  have hdistinct : l.index.toList.Nodup := by
    refine List.Pairwise.imp (fun {v w} hne => ?_) Std.ExtTreeSet.distinct_toList
    rintro rfl
    exact hne Std.ReflCmp.compare_self
  have hperm : l.index.toList.Perm l.records := by
    refine (List.perm_ext_iff_of_nodup hdistinct h.nodup).mpr fun v => ?_
    rw [Std.ExtTreeSet.mem_toList, h.mem_index]
  rw [← Std.ExtTreeSet.length_toList, hperm.length_eq]

/-- A record is written at the end if it is new. -/
theorem Sound.perform_push (h : l.Sound) (v : Violation) : l.perform (.push v) =
    if v ∈ l.records then (.recorded false, l) else (.recorded true, ⟨l.records ++ [v], l.index.insert v⟩) := by
  rw [Ledger.perform, push]
  by_cases hv : v ∈ l.records
  · have hindex := (h.mem_index v).mpr hv
    rw [if_pos hv, if_pos hindex, decide_eq_false (not_not_intro hindex)]
  · have hindex := mt (h.mem_index v).mp hv
    rw [if_neg hv, if_neg hindex, decide_eq_true hindex]

/-- **List and index of a ledger are in step after any history of operations.** No record stands twice, and the index holds
the records, as the sets do that are written in this way. A record is new if it does not stand in the list, and then it is
appended. The number of records is that of the violations in the index, and ledgers that count as equal are. If nothing but
appending is done after a checkpoint, cutting back to it gives a ledger of which nothing else can be seen from then on than
of the one at the checkpoint. -/
theorem history_in_step (history : List Operation) :
    let l := empty.after history
    (l.records.Nodup ∧ ∀ v, v ∈ l.index ↔ v ∈ l.records) ∧ ((∅ : ErrorSet).after history).ledger = l ∧
      (∀ v, l.perform (.push v) =
        if v ∈ l.records then (.recorded false, l) else (.recorded true, ⟨l.records ++ [v], l.index.insert v⟩)) ∧
      (l.count = l.records.length ∧ l.index.size = l.records.length ∧ (l.isEmpty = true ↔ l.records = [])) ∧
      (∀ other, (l.same (empty.after other) = true ↔ l.records = (empty.after other).records) ∧
        (l.same (empty.after other) = true → l = empty.after other)) ∧
      ∀ appended, (∀ op ∈ appended, op.Appends) →
        let back := l.after (appended ++ [.rollback l.count])
        back = l ∧ ∀ later, back.transcript later = l.transcript later := by
  intro l
  have hl : l.Sound := sound_after history
  refine ⟨⟨hl.nodup, hl.mem_index⟩, ErrorSet.ledger_after ∅ history, hl.perform_push,
    ⟨rfl, hl.size_index, List.isEmpty_iff⟩, fun other => ⟨beq_iff_eq, fun h => ?_⟩, fun appended happended => ?_⟩
  · exact hl.ext (sound_after other) (beq_iff_eq.mp h)
  · have hback : l.after (appended ++ [.rollback l.count]) = l := by
      rw [after_append]
      exact hl.cut_after happended
    exact ⟨hback, fun later => by rw [hback]⟩

/-- A record that is cut off beyond a checkpoint, and recorded again. -/
theorem history_in_step_again :
    let l := empty.after [.push ⟨"a", "m"⟩, .push ⟨"b", "m"⟩, .rollback 1, .splitOff 7]
    let appended : List Operation := [.add "b" "m", .push ⟨"a", "m"⟩, .extend ⟨[⟨"c", "m"⟩, ⟨"b", "m"⟩], ∅⟩]
    (∀ op ∈ appended, op.Appends) ∧ (l.after appended).records = [⟨"a", "m"⟩, ⟨"b", "m"⟩, ⟨"c", "m"⟩] ∧
      l.after (appended ++ [.rollback l.count]) = l ∧
      (l.after (appended ++ [.rollback l.count])).transcript [.push ⟨"b", "m"⟩, .push ⟨"a", "m"⟩] =
        [(.recorded true, [⟨"a", "m"⟩, ⟨"b", "m"⟩]), (.recorded false, [⟨"a", "m"⟩, ⟨"b", "m"⟩])] := by
  intro l appended
  have happended : ∀ op ∈ appended, op.Appends := by simp [appended, Operation.Appends]
  obtain ⟨-, -, -, -, -, hcheckpoint⟩ :=
    history_in_step [.push ⟨"a", "m"⟩, .push ⟨"b", "m"⟩, .rollback 1, .splitOff 7]
  obtain ⟨hback, hlater⟩ := hcheckpoint appended happended
  refine ⟨happended, by decide +kernel, hback, ?_⟩
  rw [hlater]
  decide +kernel

end Ledger

end JsonSchema
