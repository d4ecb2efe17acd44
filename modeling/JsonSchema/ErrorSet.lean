import Std.Data.ExtTreeSet

/-!
# Violations and sets of them

A check collects what it finds wrong in an ordered set without repetitions: the order is that of the first
occurrences.

## What is here

* `Violation` — a path and a message.
* `ErrorSet` — the records in order, and an index that answers whether a record is among them. Both are kept
  in step by the type, and sets with the same records are equal (`ErrorSet.ext_records`).
* `push`, `add`, `extend` — recording; a record that is present already changes nothing.
* `rollback`, `splitOff` — giving up what was recorded since a checkpoint, a number of records.
-/

set_option autoImplicit false

namespace JsonSchema

/-- What is wrong, and where. -/
structure Violation where
  path : String
  message : String
deriving DecidableEq, Repr, Inhabited

namespace Violation

/-- The violation on one line. -/
def text (v : Violation) : String := v.path ++ ": " ++ v.message

/-- By path, then by message. -/
instance : Ord Violation := ⟨compareLex (compareOn path) (compareOn message)⟩

instance : Std.TransOrd Violation :=
  inferInstanceAs (Std.TransCmp (compareLex (compareOn path) (compareOn message)))

instance : Std.LawfulEqOrd Violation where
  eq_of_compare {a b} h := by
    obtain ⟨p, m⟩ := a
    obtain ⟨q, n⟩ := b
    have h : (compare p q).then (compare m n) = .eq := h
    rw [Ordering.then_eq_eq] at h
    rw [Std.LawfulEqOrd.eq_of_compare h.1, Std.LawfulEqOrd.eq_of_compare h.2]

end Violation

/-- An ordered set of violations. -/
structure ErrorSet where
  records : List Violation
  index : Std.ExtTreeSet Violation
  nodup : records.Nodup
  mem_index : ∀ v, v ∈ index ↔ v ∈ records

namespace ErrorSet

/-- The index is determined by the records, so sets with the same records are equal. -/
theorem ext_records {s t : ErrorSet} (h : s.records = t.records) : s = t := by
  obtain ⟨r, i, hr, hi⟩ := s
  obtain ⟨r', i', hr', hi'⟩ := t
  simp only at h
  subst h
  have : i = i' := Std.ExtTreeSet.ext_mem fun v => (hi v).trans (hi' v).symm
  subst this
  rfl

instance : DecidableEq ErrorSet := fun s t =>
  decidable_of_iff (s.records = t.records) ⟨ext_records, fun h => h ▸ rfl⟩

instance : Membership Violation ErrorSet := ⟨fun s v => v ∈ s.index⟩

theorem mem_iff {s : ErrorSet} {v : Violation} : v ∈ s ↔ v ∈ s.records := s.mem_index v

instance (v : Violation) (s : ErrorSet) : Decidable (v ∈ s) := inferInstanceAs (Decidable (v ∈ s.index))

/-- The set without records. -/
def empty : ErrorSet := ⟨[], ∅, by simp, by simp⟩

instance : EmptyCollection ErrorSet := ⟨empty⟩

instance : Inhabited ErrorSet := ⟨∅⟩

@[simp] theorem records_empty : (∅ : ErrorSet).records = [] := rfl

/-- The number of records. -/
def size (s : ErrorSet) : Nat := s.records.length

/-- Whether nothing is recorded. -/
def isEmpty (s : ErrorSet) : Bool := s.records.isEmpty

/-! ## Recording -/

/-- Appends a record that is not present yet. -/
def append (s : ErrorSet) (v : Violation) (h : v ∉ s) : ErrorSet where
  records := s.records ++ [v]
  index := s.index.insert v
  nodup := by
    have hv : v ∉ s.records := fun hm => h (s.mem_iff.2 hm)
    rw [List.nodup_append]
    exact ⟨s.nodup, by simp, fun a ha b hb hab => hv (by simp_all)⟩
  mem_index w := by
    rw [Std.ExtTreeSet.mem_insert, s.mem_index, List.mem_append, List.mem_singleton,
      Std.LawfulEqCmp.compare_eq_iff_eq, eq_comm (a := v), or_comm]

/-- Records a violation, unless it is recorded already. -/
def push (s : ErrorSet) (v : Violation) : ErrorSet :=
  if h : v ∈ s then s else s.append v h

/-- Records a message at a path. -/
def add (s : ErrorSet) (path message : String) : ErrorSet := s.push ⟨path, message⟩

/-- Records violations one after the other. -/
def extendList (s : ErrorSet) (vs : List Violation) : ErrorSet := vs.foldl push s

/-- Records what another set holds, in its order. -/
def extend (s t : ErrorSet) : ErrorSet := s.extendList t.records

/-- The set of a list, in the order of first occurrences. -/
def ofList (vs : List Violation) : ErrorSet := extendList ∅ vs

theorem records_push (s : ErrorSet) (v : Violation) :
    (s.push v).records = if v ∈ s.records then s.records else s.records ++ [v] := by
  unfold push
  by_cases h : v ∈ s
  · rw [dif_pos h, if_pos (mem_iff.1 h)]
  · rw [dif_neg h, if_neg fun hm => h (mem_iff.2 hm), append]

/-! ## Giving up records -/

/-- The set of the first `n` records. -/
def rollback (s : ErrorSet) (n : Nat) : ErrorSet where
  records := s.records.take n
  index := (s.records.drop n).foldl (fun index v => index.erase v) s.index
  nodup := s.nodup.sublist (List.take_sublist n _)
  mem_index v := by
    have erased : ∀ (gone : List Violation) (index : Std.ExtTreeSet Violation),
        v ∈ gone.foldl (fun index v => index.erase v) index ↔ v ∈ index ∧ v ∉ gone := by
      intro gone
      induction gone with
      | nil => simp
      | cons w gone ih =>
        intro index
        rw [List.foldl_cons, ih, Std.ExtTreeSet.mem_erase, List.mem_cons, ne_eq,
          Std.LawfulEqCmp.compare_eq_iff_eq, not_or, eq_comm (a := w)]
        constructor
        · rintro ⟨⟨h₁, h₂⟩, h₃⟩; exact ⟨h₂, h₁, h₃⟩
        · rintro ⟨h₁, h₂, h₃⟩; exact ⟨⟨h₂, h₁⟩, h₃⟩
    rw [erased, s.mem_index]
    have hsplit := List.take_append_drop n s.records
    have hnd := s.nodup
    rw [← hsplit, List.nodup_append] at hnd
    constructor
    · rintro ⟨hm, hd⟩
      rw [← hsplit, List.mem_append] at hm
      exact hm.resolve_right hd
    · intro hm
      exact ⟨List.mem_of_mem_take hm, fun hd => hnd.2.2 v hm v hd rfl⟩

/-- The set of the first `n` records, and the records behind them. -/
def splitOff (s : ErrorSet) (n : Nat) : ErrorSet × List Violation :=
  (s.rollback n, s.records.drop n)

end ErrorSet

end JsonSchema
