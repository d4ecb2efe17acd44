/-!
# Splitting texts

## What is here

* `Text.splitOn` — the pieces of a text between the occurrences of a separator; there is always at least
  one piece.
* `Text.joinWith` — pieces put together with a separator between them.
* `Text.splitOn_joinWith` — pieces without the separator are recovered from the text they make.
-/

set_option autoImplicit false

namespace JsonSchema.Text

/-- The pieces between the characters that satisfy `p`. -/
def splitWhere (p : Char → Bool) : List Char → List (List Char)
  | [] => [[]]
  | c :: cs =>
    if p c then [] :: splitWhere p cs
    else match splitWhere p cs with
      | [] => [[c]]
      | piece :: pieces => (c :: piece) :: pieces

/-- The pieces between the occurrences of a separator. -/
def splitOn (separator : Char) (cs : List Char) : List (List Char) :=
  splitWhere (· == separator) cs

/-- The pieces one after the other, with the separator between them. -/
def joinWith (separator : Char) : List (List Char) → List Char
  | [] => []
  | [piece] => piece
  | piece :: pieces => piece ++ separator :: joinWith separator pieces

theorem splitWhere_ne_nil (p : Char → Bool) (cs : List Char) : splitWhere p cs ≠ [] := by
  cases cs with
  | nil => simp [splitWhere]
  | cons c cs =>
    unfold splitWhere
    split
    · simp
    · split <;> simp

theorem splitOn_append_separator {separator : Char} {piece rest : List Char}
    (h : separator ∉ piece) :
    splitOn separator (piece ++ separator :: rest) = piece :: splitOn separator rest := by
  induction piece with
  | nil => simp [splitOn, splitWhere]
  | cons c cs ih =>
    have hc : (c == separator) = false := by
      simp only [List.mem_cons, not_or] at h
      exact beq_eq_false_iff_ne.2 (Ne.symm h.1)
    have := ih (fun hm => h (List.mem_cons_of_mem _ hm))
    simp only [splitOn, List.cons_append, splitWhere, hc, Bool.false_eq_true, if_false] at this ⊢
    rw [this]

theorem splitOn_of_notMem {separator : Char} {piece : List Char} (h : separator ∉ piece) :
    splitOn separator piece = [piece] := by
  induction piece with
  | nil => simp [splitOn, splitWhere]
  | cons c cs ih =>
    have hc : (c == separator) = false := by
      simp only [List.mem_cons, not_or] at h
      exact beq_eq_false_iff_ne.2 (Ne.symm h.1)
    have := ih (fun hm => h (List.mem_cons_of_mem _ hm))
    simp only [splitOn, splitWhere, hc, Bool.false_eq_true, if_false] at this ⊢
    rw [this]

/-- Pieces that do not contain the separator are recovered from the text they make. -/
theorem splitOn_joinWith {separator : Char} :
    ∀ {pieces : List (List Char)}, pieces ≠ [] → (∀ piece ∈ pieces, separator ∉ piece) →
      splitOn separator (joinWith separator pieces) = pieces
  | [], h, _ => absurd rfl h
  | [piece], _, h => splitOn_of_notMem (h piece (by simp))
  | piece :: next :: pieces, _, h => by
    rw [joinWith, splitOn_append_separator (h piece (by simp)),
      splitOn_joinWith (by simp) fun p hp => h p (List.mem_cons_of_mem _ hp)]
    simp

end JsonSchema.Text
