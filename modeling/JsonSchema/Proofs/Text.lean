import JsonSchema.Text.Blank
import JsonSchema.Text.Split
import JsonSchema.Text.Utf8

/-!
# Texts in pieces

A text is taken apart at a separator, up to the first character without a property, or without the blanks at its ends.

## What is here

* `Text.takeWhile_append_stop`, `Text.dropWhile_append_stop` — what is taken from the start of a text, and what is left.
* `Text.mem_of_mem_splitWhere`, `Text.exists_mem_splitWhere` — the pieces of a text have its characters but those at which
  it is split.
* `Text.joinWith_splitOn` — **the pieces of a text make that text**; `Text.mem_joinWith` — the characters of joined pieces.
* `Text.trim_of_no_blank` — a text without blanks stays as it is without those at its ends.
-/

set_option autoImplicit false

namespace JsonSchema.Text

/-! ## The start of a text -/

/-- The start of a text goes up to the first character without a property. -/
theorem takeWhile_append_stop {p : Char → Bool} {ds t : List Char} (hds : ∀ c ∈ ds, p c = true)
    (ht : ∀ c ∈ t.head?, p c = false) : (ds ++ t).takeWhile p = ds := by
  rw [List.takeWhile_append_of_pos hds]
  cases t with
  | nil => simp
  | cons c t => simp [ht c rfl]

/-- What is behind it is left. -/
theorem dropWhile_append_stop {p : Char → Bool} {ds t : List Char} (hds : ∀ c ∈ ds, p c = true)
    (ht : ∀ c ∈ t.head?, p c = false) : (ds ++ t).dropWhile p = t := by
  rw [List.dropWhile_append_of_pos hds]
  cases t with
  | nil => rfl
  | cons c t => simp [ht c rfl]

/-! ## Pieces -/

/-- No piece contains a character at which the text is split, nor one that the text does not contain. -/
theorem mem_of_mem_splitWhere {p : Char → Bool} {cs piece : List Char} {c : Char} (hpiece : piece ∈ splitWhere p cs)
    (hc : c ∈ piece) : c ∈ cs ∧ p c = false := by
  induction cs generalizing piece with
  | nil =>
    simp only [splitWhere, List.mem_singleton] at hpiece
    rw [hpiece] at hc
    exact absurd hc (by simp)
  | cons d cs ih =>
    unfold splitWhere at hpiece
    split at hpiece
    · rcases List.mem_cons.mp hpiece with rfl | hpiece
      · exact absurd hc (by simp)
      · exact ⟨List.mem_cons_of_mem _ (ih hpiece hc).1, (ih hpiece hc).2⟩
    · rename_i hd
      cases hsplit : splitWhere p cs with
      | nil => exact absurd hsplit (splitWhere_ne_nil p cs)
      | cons first pieces =>
        rw [hsplit] at hpiece ih
        rcases List.mem_cons.mp hpiece with rfl | hpiece
        · rcases List.mem_cons.mp hc with rfl | hc
          · exact ⟨List.mem_cons_self, by simpa using hd⟩
          · obtain ⟨hmem, hnot⟩ := ih List.mem_cons_self hc
            exact ⟨List.mem_cons_of_mem _ hmem, hnot⟩
        · obtain ⟨hmem, hnot⟩ := ih (List.mem_cons_of_mem _ hpiece) hc
          exact ⟨List.mem_cons_of_mem _ hmem, hnot⟩

/-- A character is the separator or stands in one of the pieces. -/
theorem exists_mem_splitWhere {p : Char → Bool} {c : Char} {cs : List Char} (h : c ∈ cs) :
    p c = true ∨ ∃ piece ∈ splitWhere p cs, c ∈ piece := by
  induction cs with
  | nil => exact absurd h List.not_mem_nil
  | cons d cs ih =>
    unfold splitWhere
    split
    · rename_i hd
      rcases List.mem_cons.mp h with rfl | h
      · exact .inl hd
      · obtain hc | ⟨piece, hpiece, hmem⟩ := ih h
        · exact .inl hc
        · exact .inr ⟨piece, List.mem_cons_of_mem _ hpiece, hmem⟩
    · cases hsplit : splitWhere p cs with
      | nil => exact absurd hsplit (splitWhere_ne_nil p cs)
      | cons first pieces =>
        rw [hsplit] at ih
        rcases List.mem_cons.mp h with rfl | h
        · exact .inr ⟨c :: first, List.mem_cons_self, List.mem_cons_self⟩
        obtain hc | ⟨piece, hpiece, hmem⟩ := ih h
        · exact .inl hc
        · rcases List.mem_cons.mp hpiece with rfl | hpiece
          · exact .inr ⟨d :: piece, List.mem_cons_self, List.mem_cons_of_mem d hmem⟩
          · exact .inr ⟨piece, List.mem_cons_of_mem _ hpiece, hmem⟩

/-! ## Joined pieces -/

section

variable {separator : Char}

theorem joinWith_cons {piece : List Char} {pieces : List (List Char)} (h : pieces ≠ []) :
    joinWith separator (piece :: pieces) = piece ++ separator :: joinWith separator pieces := by
  cases pieces with
  | nil => exact absurd rfl h
  | cons next pieces => rfl

/-- The pieces of a text make that text. -/
theorem joinWith_splitOn (cs : List Char) : joinWith separator (splitOn separator cs) = cs := by
  induction cs with
  | nil => rfl
  | cons c cs ih =>
    obtain ⟨piece, pieces, hsplit⟩ := List.exists_cons_of_ne_nil (splitWhere_ne_nil (· == separator) cs)
    rw [splitOn, hsplit] at ih
    rw [splitOn, splitWhere, hsplit]
    split
    · rename_i hc
      rw [joinWith_cons (List.cons_ne_nil _ _), ih, beq_iff_eq.mp hc]
      rfl
    · cases pieces with
      | nil => exact congrArg (c :: ·) ih
      | cons next pieces => exact congrArg (c :: ·) ih

/-- The characters of joined pieces are theirs and the separator. -/
theorem mem_joinWith {pieces : List (List Char)} {c : Char} (h : c ∈ joinWith separator pieces) :
    c = separator ∨ ∃ piece ∈ pieces, c ∈ piece := by
  induction pieces with
  | nil => cases h
  | cons piece pieces ih =>
    by_cases hne : pieces = []
    · subst hne
      exact .inr ⟨piece, List.mem_cons_self, h⟩
    · rw [joinWith_cons hne, List.mem_append, List.mem_cons] at h
      rcases h with hpiece | hseparator | hrest
      · exact .inr ⟨piece, List.mem_cons_self, hpiece⟩
      · exact .inl hseparator
      · exact (ih hrest).imp id fun ⟨p, hp, hc⟩ => ⟨p, List.mem_cons_of_mem _ hp, hc⟩

theorem mem_joinWith_of_mem {pieces : List (List Char)} {piece : List Char} {c : Char} (hpiece : piece ∈ pieces)
    (hc : c ∈ piece) : c ∈ joinWith separator pieces := by
  induction pieces with
  | nil => cases hpiece
  | cons first pieces ih =>
    by_cases hne : pieces = []
    · subst hne
      exact List.mem_singleton.mp hpiece ▸ hc
    · rw [joinWith_cons hne, List.mem_append, List.mem_cons]
      rcases List.mem_cons.mp hpiece with rfl | hrest
      · exact .inl hc
      · exact .inr (.inr (ih hrest))

/-- Joined pieces end like the last one of them if that is not empty. -/
theorem exists_getLast?_joinWith {pieces : List (List Char)} (hne : pieces ≠ []) (h : ∀ piece ∈ pieces, piece ≠ []) :
    ∃ piece ∈ pieces, (joinWith separator pieces).getLast? = piece.getLast? := by
  induction pieces with
  | nil => exact absurd rfl hne
  | cons piece pieces ih =>
    by_cases hlast : pieces = []
    · subst hlast
      exact ⟨piece, List.mem_cons_self, rfl⟩
    · obtain ⟨last, hmem, heq⟩ := ih hlast fun p hp => h p (List.mem_cons_of_mem _ hp)
      have hsome : last.getLast? = some (last.getLast (h last (List.mem_cons_of_mem _ hmem))) :=
        List.getLast?_eq_some_getLast _
      refine ⟨last, List.mem_cons_of_mem _ hmem, ?_⟩
      rw [joinWith_cons hlast, List.getLast?_append, List.getLast?_cons, heq, hsome]
      rfl

end

/-! ## Bytes and blanks -/

/-- Only the empty text has no bytes. -/
theorem utf8_length_pos_iff {cs : List Char} : 1 ≤ (utf8 cs).length ↔ cs ≠ [] := by
  cases cs with
  | nil => simp [utf8]
  | cons c cs =>
    have hne : String.utf8EncodeChar c ≠ [] := String.utf8EncodeChar_ne_nil
    have hpos := List.length_pos_iff.mpr hne
    rw [utf8, List.flatMap_cons, List.length_append]
    exact ⟨fun _ => List.cons_ne_nil _ _, fun _ => by omega⟩

theorem length_trim_le (cs : List Char) : (trim cs).length ≤ cs.length := by
  have hstart := (List.dropWhile_sublist (l := cs) isBlank).length_le
  have hend := (List.dropWhile_sublist (l := (trimStart cs).reverse) isBlank).length_le
  rw [List.length_reverse] at hend
  rw [trim, trimEnd, List.length_reverse]
  exact Nat.le_trans hend hstart

/-- A text without blanks has none at its ends. -/
theorem trim_of_no_blank {cs : List Char} (h : ∀ c ∈ cs, isBlank c = false) : trim cs = cs := by
  have hkept {ds : List Char} (hds : ∀ c ∈ ds, isBlank c = false) : ds.dropWhile isBlank = ds := by
    cases ds with
    | nil => rfl
    | cons d ds => exact List.dropWhile_cons_of_neg (by simp [hds d (by simp)])
  rw [trim, trimStart, trimEnd, hkept h, hkept (by simpa using h), List.reverse_reverse]

end JsonSchema.Text
