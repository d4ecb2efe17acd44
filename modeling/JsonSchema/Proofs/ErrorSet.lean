import JsonSchema.ErrorSet
import JsonSchema.Run

/-!
# Laws of error sets

What recording does to the records of a set, and the two monads that sets travel through.

## What is here

* `ErrorSet.prefix_push`, `prefix_add`, `prefix_extend` — recording only appends.
* `ErrorSet.mem_records_push`, `mem_records_extend` — what is recorded afterwards.
* `ErrorSet.size_eq_iff` — **a longer set that has the size of the shorter one is the shorter one**, which is
  why keywords may judge a branch by counting.
* `ErrorSet.appendNew`, `eq_add_iff`, `eq_extend_iff` — adding and extending in terms of the records.
* `ErrorSet.extend_extend`, `extend_add` — recording behind what another set holds. `ErrorSet.size_extend` — how
  much a set grows does not depend on what stands in front, if none of it is recorded again.
* `Run.outcome_bind_eq_iff` — how a run ends that goes on from another one.
-/

set_option autoImplicit false

namespace JsonSchema

namespace ErrorSet

variable {s t : ErrorSet} {v w : Violation} {path message : String}

/-! ## Recording appends -/

theorem prefix_push (s : ErrorSet) (v : Violation) : s.records <+: (s.push v).records := by
  rw [records_push]
  split
  · exact List.prefix_refl _
  · exact List.prefix_append _ _

theorem prefix_add (s : ErrorSet) (path message : String) :
    s.records <+: (s.add path message).records :=
  prefix_push s _

theorem prefix_extendList (s : ErrorSet) (vs : List Violation) :
    s.records <+: (s.extendList vs).records := by
  induction vs generalizing s with
  | nil => exact List.prefix_refl _
  | cons v vs ih => exact (prefix_push s v).trans (ih (s.push v))

theorem prefix_extend (s t : ErrorSet) : s.records <+: (s.extend t).records :=
  prefix_extendList s t.records

/-! ## What is recorded -/

theorem mem_records_push : w ∈ (s.push v).records ↔ w ∈ s.records ∨ w = v := by
  rw [records_push]
  split
  · rename_i hv
    exact ⟨Or.inl, fun h => h.elim id fun hw => hw ▸ hv⟩
  · rw [List.mem_append, List.mem_singleton]

theorem mem_records_add :
    w ∈ (s.add path message).records ↔ w ∈ s.records ∨ w = ⟨path, message⟩ :=
  mem_records_push

theorem mem_records_extendList {vs : List Violation} :
    w ∈ (s.extendList vs).records ↔ w ∈ s.records ∨ w ∈ vs := by
  induction vs generalizing s with
  | nil => simp [extendList]
  | cons v vs ih =>
    have h : s.extendList (v :: vs) = (s.push v).extendList vs := rfl
    rw [h, ih, mem_records_push, List.mem_cons, or_assoc]

theorem mem_records_extend : w ∈ (s.extend t).records ↔ w ∈ s.records ∨ w ∈ t.records :=
  mem_records_extendList

/-! ## Empty sets -/

theorem eq_empty_iff : s = ∅ ↔ s.records = [] :=
  ⟨fun h => h ▸ rfl, fun h => ext_records h⟩

theorem isEmpty_iff : s.isEmpty = true ↔ s = ∅ := by
  rw [isEmpty, List.isEmpty_iff, eq_empty_iff]

theorem ne_empty_of_mem (h : v ∈ s.records) : s ≠ ∅ := by
  rintro rfl
  exact absurd h (List.not_mem_nil)

theorem add_ne_empty (s : ErrorSet) (path message : String) : s.add path message ≠ ∅ :=
  ne_empty_of_mem (mem_records_add.mpr (Or.inr rfl))

theorem isEmpty_eq_false_iff : s.isEmpty = false ↔ s ≠ ∅ := by
  rw [← Bool.not_eq_true, not_congr isEmpty_iff]

theorem isEmpty_add (s : ErrorSet) (path message : String) : (s.add path message).isEmpty = false :=
  isEmpty_eq_false_iff.mpr (s.add_ne_empty path message)

theorem isEmpty_extend (s : ErrorSet) (h : t.isEmpty = false) : (s.extend t).isEmpty = false := by
  rw [isEmpty_eq_false_iff] at h ⊢
  obtain ⟨v, hv⟩ := List.exists_mem_of_ne_nil _ (mt eq_empty_iff.mpr h)
  exact ne_empty_of_mem (mem_records_extend.mpr (Or.inr hv))

theorem ne_empty_of_prefix (h : s.records <+: t.records) (hs : s ≠ ∅) : t ≠ ∅ := by
  rintro rfl
  exact hs (eq_empty_iff.mpr (List.prefix_nil.mp h))

/-! ## Counting -/

/-- A set that extends another one and has its size is that set. -/
theorem size_eq_iff (h : s.records <+: t.records) : t.size = s.size ↔ t = s :=
  ⟨fun hsize => ext_records (h.eq_of_length hsize.symm).symm, fun heq => heq ▸ rfl⟩

theorem size_beq_iff (h : s.records <+: t.records) : (t.size == s.size) = true ↔ t = s := by
  rw [beq_iff_eq, size_eq_iff h]

theorem size_beq_empty (s : ErrorSet) : (s.size == (∅ : ErrorSet).size) = s.isEmpty := by
  obtain ⟨records, _⟩ := s
  cases records <;> rfl

theorem size_lt_of_isEmpty (hs : s.isEmpty = true) (ht : t.isEmpty = false) : s.size < t.size := by
  rw [isEmpty_iff.mp hs]
  exact List.length_pos_iff.mpr (mt eq_empty_iff.mpr (isEmpty_eq_false_iff.mp ht))

/-! ## Records in front -/

theorem push_of_mem (h : v ∈ s.records) : s.push v = s := by
  apply ext_records
  rw [records_push, if_pos h]

theorem records_push_of_not_mem (h : v ∉ s.records) : (s.push v).records = s.records ++ [v] := by
  rw [records_push, if_neg h]

theorem extendList_append (s : ErrorSet) (vs ws : List Violation) :
    s.extendList (vs ++ ws) = (s.extendList vs).extendList ws :=
  List.foldl_append

theorem extendList_of_subset {vs : List Violation} (h : ∀ v ∈ vs, v ∈ s.records) : s.extendList vs = s := by
  induction vs with
  | nil => rfl
  | cons v vs ih =>
    have hcons : s.extendList (v :: vs) = (s.push v).extendList vs := rfl
    rw [hcons, push_of_mem (h v List.mem_cons_self)]
    exact ih fun w hw => h w (List.mem_cons_of_mem v hw)

/-- Records behind others, as far as they are new. -/
def appendNew (rs vs : List Violation) : List Violation := rs ++ vs.filter fun v => decide (v ∉ rs)

/-- Records that are recorded one after the other are appended in their order, as far as they are new. -/
theorem records_extendList_of_nodup {vs : List Violation} (hvs : vs.Nodup) :
    (s.extendList vs).records = appendNew s.records vs := by
  induction vs generalizing s with
  | nil => exact (List.append_nil _).symm
  | cons v vs ih =>
    have hcons : s.extendList (v :: vs) = (s.push v).extendList vs := rfl
    rw [List.nodup_cons] at hvs
    rw [hcons, ih hvs.2, appendNew, appendNew]
    by_cases hv : v ∈ s.records
    · rw [push_of_mem hv, List.filter_cons_of_neg (by simp [hv])]
    · -- the record that is pushed is none of those behind it
      have hrest : vs.filter (fun w => decide (w ∉ (s.push v).records)) =
          vs.filter fun w => decide (w ∉ s.records) := by
        refine List.filter_congr fun w hw => ?_
        have hne : w ≠ v := fun heq => hvs.1 (heq ▸ hw)
        simp [mem_records_push, hne]
      rw [hrest, records_push_of_not_mem hv, List.filter_cons_of_pos (by simp [hv]), List.append_assoc,
        List.singleton_append]

/-- Records that are new are appended as they are. -/
theorem records_extendList {vs : List Violation} (hvs : vs.Nodup) (h : ∀ v ∈ vs, v ∉ s.records) :
    (s.extendList vs).records = s.records ++ vs := by
  rw [records_extendList_of_nodup hvs, appendNew, List.filter_eq_self.mpr (by simpa using h)]

theorem records_extend (s t : ErrorSet) : (s.extend t).records = appendNew s.records t.records :=
  records_extendList_of_nodup t.nodup

theorem eq_extend_iff {u : ErrorSet} : u = s.extend t ↔ u.records = appendNew s.records t.records :=
  ⟨fun h => h ▸ records_extend s t, fun h => ext_records (h.trans (records_extend s t).symm)⟩

theorem records_add (s : ErrorSet) (path message : String) :
    (s.add path message).records = appendNew s.records [⟨path, message⟩] :=
  records_extendList_of_nodup (List.pairwise_singleton _ _)

theorem eq_add_iff {u : ErrorSet} : u = s.add path message ↔ u.records = appendNew s.records [⟨path, message⟩] :=
  ⟨fun h => h ▸ records_add s path message, fun h => ext_records (h.trans (records_add s path message).symm)⟩

theorem extend_push (s t : ErrorSet) (v : Violation) : s.extend (t.push v) = (s.extend t).push v := by
  by_cases h : v ∈ t.records
  · rw [push_of_mem h, push_of_mem (mem_records_extend.mpr (Or.inr h))]
  · rw [extend, extend, records_push_of_not_mem h, extendList_append]
    rfl

theorem extend_add (s t : ErrorSet) (path message : String) :
    s.extend (t.add path message) = (s.extend t).add path message :=
  extend_push s t _

theorem extend_extendList (s t : ErrorSet) (vs : List Violation) :
    s.extend (t.extendList vs) = (s.extend t).extendList vs := by
  induction vs generalizing t with
  | nil => rfl
  | cons v vs ih =>
    have hcons (s : ErrorSet) : s.extendList (v :: vs) = (s.push v).extendList vs := rfl
    rw [hcons, hcons, ih, extend_push]

theorem extend_extend (s t u : ErrorSet) : s.extend (t.extend u) = (s.extend t).extend u :=
  extend_extendList s t u.records

/-- What stands in front does not change by how much a set grows, if it holds nothing of what is new. -/
theorem size_extend {u : ErrorSet} (h : t.records <+: u.records)
    (hnew : ∀ v ∈ u.records, v ∈ t.records ∨ v ∉ s.records) :
    (s.extend u).size + t.size = (s.extend t).size + u.size := by
  obtain ⟨ws, hws⟩ := h
  have hu := u.nodup
  rw [← hws, List.nodup_append] at hu
  have hfresh : ∀ w ∈ ws, w ∉ (s.extend t).records := by
    intro w hw hmem
    have hwt : w ∉ t.records := fun ht => hu.2.2 w ht w hw rfl
    rcases mem_records_extend.mp hmem with hs | ht
    · exact ((hnew w (hws ▸ List.mem_append_right _ hw)).resolve_left hwt) hs
    · exact hwt ht
  have hrecords : (s.extend u).records = (s.extend t).records ++ ws := by
    rw [← records_extendList hu.2.1 hfresh, extend, ← hws, extendList_append, extend]
  rw [size, size, size, size, hrecords, ← hws, List.length_append, List.length_append]
  omega

end ErrorSet

namespace Run

variable {α β : Type}

theorem outcome_bind_ok {x : Run α} {f : α → Run β} {a : α} (h : x.outcome = .ok a) :
    (x >>= f).outcome = (f a).outcome := by
  rw [outcome_bind, h]
  rfl

theorem outcome_bind_error {x : Run α} {f : α → Run β} {e : Fault} (h : x.outcome = .error e) :
    (x >>= f).outcome = .error e := by
  rw [outcome_bind, h]
  rfl

/-- What goes on from a value that is not reached does not count. -/
theorem bind_congr_of_ok {x : Run α} {f g : α → Run β} (h : ∀ a, x.outcome = .ok a → f a = g a) :
    x >>= f = x >>= g := by
  obtain ⟨outcome, requests⟩ := x
  cases outcome with
  | error e => rfl
  | ok a =>
    show (⟨(f a).outcome, requests ++ (f a).requests⟩ : Run β) = ⟨(g a).outcome, requests ++ (g a).requests⟩
    rw [h a rfl]

theorem outcome_bind_eq_ok {x : Run α} {f : α → Run β} {b : β} :
    (x >>= f).outcome = .ok b ↔ ∃ a, x.outcome = .ok a ∧ (f a).outcome = .ok b := by
  cases hx : x.outcome with
  | error e =>
    rw [outcome_bind_error hx]
    exact ⟨fun h => (nomatch h), fun ⟨_, h, _⟩ => (nomatch h)⟩
  | ok a =>
    rw [outcome_bind_ok hx]
    exact ⟨fun h => ⟨a, rfl, h⟩, fun ⟨_, ha, h⟩ => Except.ok.inj ha ▸ h⟩

/-- A run that ends well comes to a value. -/
theorem exists_outcome_eq_ok {x : Run α} (h : x.outcome.isOk = true) : ∃ a, x.outcome = .ok a := by
  cases hx : x.outcome with
  | error e =>
    rw [hx] at h
    exact nomatch h
  | ok a => exact ⟨a, rfl⟩

/-- A run goes on from a value, or ends with the fault of its first part. -/
theorem outcome_bind_eq_iff {x : Run α} {f : α → Run β} {r : Except Fault β} :
    (x >>= f).outcome = r ↔
      (∃ a, x.outcome = .ok a ∧ (f a).outcome = r) ∨ ∃ e, x.outcome = .error e ∧ r = .error e := by
  cases hx : x.outcome with
  | error e =>
    rw [outcome_bind_error hx]
    simp [eq_comm]
  | ok a =>
    rw [outcome_bind_ok hx]
    simp

end Run

end JsonSchema
