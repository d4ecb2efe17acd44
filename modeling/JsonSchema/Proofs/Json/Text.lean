import JsonSchema.Proofs.Number.Layout
import JsonSchema.Url.Percent

/-!
# The compact text determines the value

Values are told apart by their texts: this is what lets a text, or a digest of it, stand for the value.

## What is here

* `Stops` — what may follow a number without being taken for a part of it.
* `Json.quoted_append_inj`, `Json.integer_append_inj`, `Json.real_append_inj` — strings and numbers show where they end.
* `Json.chars_append_inj` — **a value is determined by a text that starts with it**, and so is what follows.
* `Json.text_injective`, `Json.space_le_of_mem_chars` — texts as keys: no two values have the same, and none
  contains a control character.
-/

set_option autoImplicit false

namespace JsonSchema

/-! ## Where numbers end -/

/-- Whether a text does not go on with a character that a number may have. -/
def Stops (cs : List Char) : Prop := ∀ c ∈ cs.head?, ¬ Spelling.IsNumeric c

theorem Stops.nil : Stops [] := by simp [Stops]

theorem Stops.cons {c : Char} {cs : List Char} (h : ¬ Spelling.IsNumeric c) : Stops (c :: cs) := by
  intro d hd
  simp only [List.head?_cons, Option.mem_def, Option.some.injEq] at hd
  exact hd ▸ h

namespace Spelling

theorem takeWhile_chars_append (s : Spelling) {r : List Char} (hr : Stops r) :
    (s.chars ++ r).takeWhile (fun c => decide (IsNumeric c)) = s.chars := by
  rw [List.takeWhile_append_of_pos fun c hc => decide_eq_true (isNumeric_of_mem_chars hc)]
  cases r with
  | nil => simp
  | cons c r => simp [hr c rfl]

/-- A spelling shows where it ends. -/
theorem append_inj {s t : Spelling} {r r' : List Char} (hr : Stops r) (hr' : Stops r')
    (h : s.chars ++ r = t.chars ++ r') : s.chars = t.chars ∧ r = r' := by
  have hchars : s.chars = t.chars := by
    rw [← s.takeWhile_chars_append hr, h, t.takeWhile_chars_append hr']
  rw [hchars] at h
  exact ⟨hchars, List.append_cancel_left h⟩

end Spelling

namespace Json

/-! ## Strings -/

/-- The character that stands escaped at the start of a text, and what follows it. -/
def unescape? : List Char → Option (Char × List Char)
  | '\\' :: 'u' :: _ :: _ :: h :: l :: cs =>
    some (Char.ofNat (16 * (Percent.hexValue? h).getD 0 + (Percent.hexValue? l).getD 0), cs)
  | '\\' :: 'b' :: cs => some ('\x08', cs)
  | '\\' :: 'f' :: cs => some ('\x0c', cs)
  | '\\' :: 'n' :: cs => some ('\n', cs)
  | '\\' :: 'r' :: cs => some ('\r', cs)
  | '\\' :: 't' :: cs => some ('\t', cs)
  | '\\' :: c :: cs => some (c, cs)
  | c :: cs => some (c, cs)
  | [] => none

theorem hexValue?_hexDigit : ∀ n < 32,
    16 * (Percent.hexValue? (hexDigit (n / 16))).getD 0 + (Percent.hexValue? (hexDigit n)).getD 0 = n := by
  decide

/-- An escaped character is recovered. -/
theorem unescape?_escape (c : Char) (cs : List Char) : unescape? (escape c ++ cs) = some (c, cs) := by
  unfold escape
  split
  · rfl
  · rfl
  · rfl
  · rfl
  · rfl
  · rfl
  · rfl
  · rename_i hbackslash _ _ _ _ _
    split
    · rename_i hcontrol
      simp only [List.cons_append, List.nil_append, unescape?]
      rw [hexValue?_hexDigit c.toNat hcontrol, Char.ofNat_toNat]
    · have hne : c ≠ '\\' := fun heq => hbackslash heq
      simp [unescape?, hne]

/-- An escaped character is not taken for the end of the string. -/
theorem head?_escape (c : Char) (cs : List Char) : ∃ d ds, escape c ++ cs = d :: ds ∧ d ≠ '"' := by
  unfold escape
  split
  · exact ⟨_, _, rfl, by decide⟩
  · exact ⟨_, _, rfl, by decide⟩
  · exact ⟨_, _, rfl, by decide⟩
  · exact ⟨_, _, rfl, by decide⟩
  · exact ⟨_, _, rfl, by decide⟩
  · exact ⟨_, _, rfl, by decide⟩
  · exact ⟨_, _, rfl, by decide⟩
  · rename_i hquote _ _ _ _ _ _
    split
    · exact ⟨_, _, rfl, by decide⟩
    · exact ⟨c, cs, rfl, hquote⟩

theorem flatMap_escape_append_inj {as bs r r' : List Char}
    (h : as.flatMap escape ++ '"' :: r = bs.flatMap escape ++ '"' :: r') : as = bs ∧ r = r' := by
  induction as generalizing bs with
  | nil =>
    cases bs with
    | nil => exact ⟨rfl, by simpa using h⟩
    | cons b bs =>
      obtain ⟨d, ds, heq, hne⟩ := head?_escape b (bs.flatMap escape ++ '"' :: r')
      rw [List.flatMap_cons, List.append_assoc, heq] at h
      exact absurd (List.cons.inj h).1.symm hne
  | cons a as ih =>
    cases bs with
    | nil =>
      obtain ⟨d, ds, heq, hne⟩ := head?_escape a (as.flatMap escape ++ '"' :: r)
      rw [List.flatMap_cons, List.append_assoc, heq] at h
      exact absurd (List.cons.inj h).1 hne
    | cons b bs =>
      have hread := congrArg unescape? h
      simp only [List.flatMap_cons, List.append_assoc, unescape?_escape, Option.some.injEq, Prod.mk.injEq] at hread
      obtain ⟨rfl, htail⟩ := hread
      obtain ⟨rfl, hrest⟩ := ih htail
      exact ⟨rfl, hrest⟩

/-- A quoted string shows where it ends. -/
theorem quoted_append_inj {a b : String} {r r' : List Char} (h : quoted a ++ r = quoted b ++ r') :
    a = b ∧ r = r' := by
  simp only [quoted, List.cons_append, List.append_assoc, List.nil_append, List.cons.injEq, true_and] at h
  obtain ⟨hlist, hrest⟩ := flatMap_escape_append_inj h
  exact ⟨String.toList_injective hlist, hrest⟩

/-! ## Numbers -/

theorem integer_append_inj {m n : Int} {r r' : List Char} (hr : Stops r) (hr' : Stops r')
    (h : integerChars m ++ r = integerChars n ++ r') : m = n ∧ r = r' := by
  obtain ⟨s, hs, -, hsvalue⟩ := exists_spelling_integer m
  obtain ⟨t, ht, -, htvalue⟩ := exists_spelling_integer n
  rw [← hs, ← ht] at h
  obtain ⟨hchars, hrest⟩ := Spelling.append_inj hr hr' h
  have hread : some s.decimal = some t.decimal := by rw [← s.read?_chars, hchars, t.read?_chars]
  simp only [hsvalue, htvalue, Option.some.injEq, Decimal.mk.injEq, decide_eq_decide, and_true] at hread
  exact ⟨by omega, hrest⟩

theorem real_append_inj {x y : Binary64} {r r' : List Char} (hr : Stops r) (hr' : Stops r')
    (h : layout.text x ++ r = layout.text y ++ r') : x = y ∧ r = r' := by
  obtain ⟨s, hs, -, hsneg, hsvalue⟩ := exists_spelling_real x
  obtain ⟨t, ht, -, htneg, htvalue⟩ := exists_spelling_real y
  rw [← hs, ← ht] at h
  obtain ⟨hchars, hrest⟩ := Spelling.append_inj hr hr' h
  have hread : some s.decimal = some t.decimal := by rw [← s.read?_chars, hchars, t.read?_chars]
  have hdecimal : s.decimal = t.decimal := Option.some.inj hread
  have hsign : s.negative = t.negative := congrArg Decimal.negative hdecimal
  refine ⟨Binary64.eq_of_decimal ?_ ?_, hrest⟩
  · rw [← hsneg, hsign, htneg]
  · rw [← hsvalue, hdecimal, htvalue]

/-- A whole number has neither point nor exponent, a floating-point number has one of them. -/
theorem integer_append_ne_real {n : Int} {x : Binary64} {r r' : List Char} (hr : Stops r) (hr' : Stops r') :
    integerChars n ++ r ≠ layout.text x ++ r' := by
  intro h
  obtain ⟨s, hs, hsreal, -⟩ := exists_spelling_integer n
  obtain ⟨t, ht, htreal, -⟩ := exists_spelling_real x
  rw [← hs, ← ht] at h
  have hchars := (Spelling.append_inj hr hr' h).1
  have hmarked := t.isReal_iff.mp htreal
  rw [← hchars, ← s.isReal_iff, hsreal] at hmarked
  exact absurd hmarked (by decide)

/-! ## The first character -/

/-- The kind of the values whose text starts with a character; there need not be any. -/
def kindOfHead (c : Char) : String :=
  if c == 'n' then "null"
  else if c == 't' || c == 'f' then "boolean"
  else if c == '"' then "string"
  else if c == '[' then "array"
  else if c == '\x7b' then "object"
  else if Spelling.IsNumeric c then "number"
  else ""

theorem kindOfHead_of_isNumeric {c : Char} (h : Spelling.IsNumeric c) : kindOfHead c = "number" := by
  unfold kindOfHead
  have hne (d : Char) (hd : ¬ Spelling.IsNumeric d) : (c == d) = false := by
    apply beq_eq_false_iff_ne.mpr
    rintro rfl
    exact hd h
  simp only [hne 'n' (by decide), hne 't' (by decide), hne 'f' (by decide), hne '"' (by decide),
    hne '[' (by decide), hne '\x7b' (by decide), Bool.or_false, Bool.false_eq_true, if_false, if_pos h]

/-- Every number has a spelling. -/
theorem exists_spelling {v : Json} (h : v.kind = "number") : ∃ s : Spelling, s.chars = chars v := by
  cases v with
  | integer n =>
    obtain ⟨s, hs, -⟩ := exists_spelling_integer n
    exact ⟨s, hs⟩
  | real x =>
    obtain ⟨s, hs, -⟩ := exists_spelling_real x
    exact ⟨s, hs⟩
  | _ => simp [kind] at h

theorem exists_head_spelling (s : Spelling) : ∃ c cs, s.chars = c :: cs ∧ kindOfHead c = "number" := by
  obtain ⟨c, cs, hcs⟩ := List.exists_cons_of_ne_nil s.chars_ne_nil
  have hmem : c ∈ s.chars := by simp [hcs]
  exact ⟨c, cs, hcs, kindOfHead_of_isNumeric (Spelling.isNumeric_of_mem_chars hmem)⟩

/-- The first character of a text shows the kind of the value. -/
theorem exists_head_chars (v : Json) : ∃ c cs, chars v = c :: cs ∧ kindOfHead c = v.kind := by
  cases v with
  | null => exact ⟨_, _, rfl, by decide⟩
  | bool b => cases b <;> exact ⟨_, _, rfl, by decide⟩
  | integer n =>
    obtain ⟨s, hs⟩ := exists_spelling (v := .integer n) rfl
    obtain ⟨c, cs, hcs, hkind⟩ := exists_head_spelling s
    exact ⟨c, cs, by rw [← hs, hcs], hkind⟩
  | real x =>
    obtain ⟨s, hs⟩ := exists_spelling (v := .real x) rfl
    obtain ⟨c, cs, hcs, hkind⟩ := exists_head_spelling s
    exact ⟨c, cs, by rw [← hs, hcs], hkind⟩
  | string s => exact ⟨'"', _, rfl, rfl⟩
  | array es => cases es <;> exact ⟨'[', _, rfl, rfl⟩
  | object ms => rcases ms with _ | ⟨⟨k, v⟩, ms⟩ <;> exact ⟨'\x7b', _, rfl, rfl⟩

theorem kind_eq_of_append {v w : Json} {r r' : List Char} (h : chars v ++ r = chars w ++ r') : v.kind = w.kind := by
  obtain ⟨c, cs, hv, hvkind⟩ := exists_head_chars v
  obtain ⟨d, ds, hw, hwkind⟩ := exists_head_chars w
  rw [hv, hw] at h
  rw [← hvkind, ← hwkind, (List.cons.inj h).1]

/-- No value starts like the end of an array or object. -/
theorem append_ne_cons {v : Json} {c : Char} {r r' : List Char} (hc : kindOfHead c = "") :
    chars v ++ r ≠ c :: r' := by
  intro h
  obtain ⟨d, ds, hv, hkind⟩ := exists_head_chars v
  rw [hv] at h
  rw [(List.cons.inj h).1, hc] at hkind
  cases v <;> simp [kind] at hkind

/-! ## Values -/

theorem stops_elementChars (es : List Json) (r : List Char) : Stops (elementChars es ++ r) := by
  cases es <;> exact Stops.cons (by decide)

theorem stops_memberChars (ms : List (String × Json)) (r : List Char) : Stops (memberChars ms ++ r) := by
  rcases ms with _ | ⟨⟨k, v⟩, ms⟩ <;> exact Stops.cons (by decide)

mutual

/-- A value is determined by a text that starts with its text, and so is what follows. Only behind a number
something could be taken for a part of it. -/
theorem chars_append_inj (v w : Json) {r r' : List Char} (hr : Stops r) (hr' : Stops r')
    (h : chars v ++ r = chars w ++ r') : v = w ∧ r = r' := by
  have hkind := kind_eq_of_append h
  match v with
  | .null =>
    cases w <;> simp only [kind, String.reduceEq] at hkind
    exact ⟨rfl, List.append_cancel_left h⟩
  | .bool b =>
    cases w <;> simp only [kind, String.reduceEq] at hkind
    rename_i b'
    cases b <;> cases b' <;> simp [chars] at h ⊢
    · exact h
    · exact h
  | .integer n =>
    cases w <;> simp only [kind, String.reduceEq] at hkind
    · obtain ⟨rfl, hrest⟩ := integer_append_inj hr hr' h
      exact ⟨rfl, hrest⟩
    · exact (integer_append_ne_real hr hr' h).elim
  | .real x =>
    cases w <;> simp only [kind, String.reduceEq] at hkind
    · exact (integer_append_ne_real hr' hr h.symm).elim
    · obtain ⟨rfl, hrest⟩ := real_append_inj hr hr' h
      exact ⟨rfl, hrest⟩
  | .string s =>
    cases w <;> simp only [kind, String.reduceEq] at hkind
    obtain ⟨rfl, hrest⟩ := quoted_append_inj h
    exact ⟨rfl, hrest⟩
  | .array es =>
    cases w <;> simp only [kind, String.reduceEq] at hkind
    rename_i es'
    match es, es' with
    | [], [] => exact ⟨rfl, List.append_cancel_left h⟩
    | [], e :: es' =>
      simp only [chars, List.cons_append, List.append_assoc, List.nil_append, List.cons.injEq, true_and] at h
      exact (append_ne_cons (by decide) h.symm).elim
    | e :: es, [] =>
      simp only [chars, List.cons_append, List.append_assoc, List.nil_append, List.cons.injEq, true_and] at h
      exact (append_ne_cons (by decide) h).elim
    | e :: es, e' :: es' =>
      simp only [chars, List.cons_append, List.append_assoc, List.cons.injEq, true_and] at h
      obtain ⟨rfl, htail⟩ := chars_append_inj e e' (stops_elementChars es r) (stops_elementChars es' r') h
      obtain ⟨rfl, hrest⟩ := elementChars_append_inj es es' htail
      exact ⟨rfl, hrest⟩
  | .object ms =>
    cases w <;> simp only [kind, String.reduceEq] at hkind
    rename_i ms'
    match ms, ms' with
    | [], [] => exact ⟨rfl, List.append_cancel_left h⟩
    | [], (k, v) :: ms' => simp [chars, quoted] at h
    | (k, v) :: ms, [] => simp [chars, quoted] at h
    | (k, v) :: ms, (k', v') :: ms' =>
      simp only [chars, List.cons_append, List.append_assoc, List.cons.injEq, true_and] at h
      obtain ⟨rfl, hvalue⟩ := quoted_append_inj h
      obtain ⟨rfl, htail⟩ := chars_append_inj v v' (stops_memberChars ms r) (stops_memberChars ms' r')
        (List.cons.inj hvalue).2
      obtain ⟨rfl, hrest⟩ := memberChars_append_inj ms ms' htail
      exact ⟨rfl, hrest⟩

theorem elementChars_append_inj (es es' : List Json) {r r' : List Char}
    (h : elementChars es ++ r = elementChars es' ++ r') : es = es' ∧ r = r' := by
  match es, es' with
  | [], [] => exact ⟨rfl, List.append_cancel_left h⟩
  | [], e :: es' => simp [elementChars] at h
  | e :: es, [] => simp [elementChars] at h
  | e :: es, e' :: es' =>
    simp only [elementChars, List.cons_append, List.append_assoc, List.cons.injEq, true_and] at h
    obtain ⟨rfl, htail⟩ := chars_append_inj e e' (stops_elementChars es r) (stops_elementChars es' r') h
    obtain ⟨rfl, hrest⟩ := elementChars_append_inj es es' htail
    exact ⟨rfl, hrest⟩

theorem memberChars_append_inj (ms ms' : List (String × Json)) {r r' : List Char}
    (h : memberChars ms ++ r = memberChars ms' ++ r') : ms = ms' ∧ r = r' := by
  match ms, ms' with
  | [], [] => exact ⟨rfl, List.append_cancel_left h⟩
  | [], (k, v) :: ms' => simp [memberChars] at h
  | (k, v) :: ms, [] => simp [memberChars] at h
  | (k, v) :: ms, (k', v') :: ms' =>
    simp only [memberChars, List.cons_append, List.append_assoc, List.cons.injEq, true_and] at h
    obtain ⟨rfl, hvalue⟩ := quoted_append_inj h
    obtain ⟨rfl, htail⟩ := chars_append_inj v v' (stops_memberChars ms r) (stops_memberChars ms' r')
      (List.cons.inj hvalue).2
    obtain ⟨rfl, hrest⟩ := memberChars_append_inj ms ms' htail
    exact ⟨rfl, hrest⟩

end

/-- No two values have the same text. -/
theorem text_injective : Function.Injective text := by
  intro v w h
  have hchars : chars v ++ [] = chars w ++ [] := by
    rw [List.append_nil, List.append_nil]
    exact String.ofList_injective h
  exact (chars_append_inj v w Stops.nil Stops.nil hchars).1

/-! ## Control characters -/

theorem space_le_of_isNumeric {c : Char} (h : Spelling.IsNumeric c) : 32 ≤ c.toNat := by
  rcases h with hdigit | hmark
  · simp only [Char.isDigit, Bool.and_eq_true, decide_eq_true_eq, ge_iff_le, UInt32.le_iff_toNat_le] at hdigit
    have hlow : 48 ≤ c.toNat := hdigit.1
    omega
  · simp only [List.mem_cons, List.not_mem_nil, or_false] at hmark
    rcases hmark with rfl | rfl | rfl | rfl <;> decide

theorem space_le_of_mem_escape {c d : Char} (h : d ∈ escape c) : 32 ≤ d.toNat := by
  have hhex (n : Nat) : 32 ≤ (hexDigit n).toNat := by
    have hsmall : ∀ m < 16, 32 ≤ (Nat.digitChar m).toNat := by decide
    exact hsmall (n % 16) (Nat.mod_lt n (by decide))
  unfold escape at h
  split at h
  case h_8 =>
    split at h
    · simp only [List.mem_cons, List.not_mem_nil, or_false] at h
      rcases h with rfl | rfl | rfl | rfl | rfl | rfl
      · decide
      · decide
      · decide
      · decide
      · exact hhex _
      · exact hhex _
    · rename_i hplain
      rw [List.mem_singleton.mp h]
      omega
  all_goals
    simp only [List.mem_cons, List.not_mem_nil, or_false] at h
    rcases h with rfl | rfl <;> decide

theorem space_le_of_mem_quoted {s : String} {c : Char} (h : c ∈ quoted s) : 32 ≤ c.toNat := by
  simp only [quoted, List.mem_cons, List.mem_append, List.mem_flatMap, List.not_mem_nil, or_false] at h
  rcases h with rfl | ⟨d, -, hd⟩ | rfl
  · decide
  · exact space_le_of_mem_escape hd
  · decide

theorem space_le_of_all {cs : List Char} (hall : cs.all (32 ≤ ·.toNat) = true) {c : Char} (h : c ∈ cs) :
    32 ≤ c.toNat :=
  of_decide_eq_true (List.all_eq_true.mp hall c h)

mutual

/-- The text of a value contains no control character. -/
theorem space_le_of_mem_chars (v : Json) {c : Char} (h : c ∈ chars v) : 32 ≤ c.toNat := by
  match v with
  | .null => exact space_le_of_all (by decide) h
  | .bool b => cases b <;> exact space_le_of_all (by decide) h
  | .integer n =>
    obtain ⟨s, hs⟩ := exists_spelling (v := .integer n) rfl
    rw [← hs] at h
    exact space_le_of_isNumeric (Spelling.isNumeric_of_mem_chars h)
  | .real x =>
    obtain ⟨s, hs⟩ := exists_spelling (v := .real x) rfl
    rw [← hs] at h
    exact space_le_of_isNumeric (Spelling.isNumeric_of_mem_chars h)
  | .string s => exact space_le_of_mem_quoted h
  | .array [] => exact space_le_of_all (by decide) h
  | .array (e :: es) =>
    simp only [chars, List.mem_cons, List.mem_append] at h
    rcases h with rfl | h | h
    · decide
    · exact space_le_of_mem_chars e h
    · exact space_le_of_mem_elementChars es h
  | .object [] => exact space_le_of_all (by decide) h
  | .object ((k, v) :: ms) =>
    simp only [chars, List.mem_cons, List.mem_append] at h
    rcases h with rfl | h | rfl | h | h
    · decide
    · exact space_le_of_mem_quoted h
    · decide
    · exact space_le_of_mem_chars v h
    · exact space_le_of_mem_memberChars ms h

theorem space_le_of_mem_elementChars (es : List Json) {c : Char} (h : c ∈ elementChars es) : 32 ≤ c.toNat := by
  match es with
  | [] => exact space_le_of_all (by decide) h
  | e :: es =>
    simp only [elementChars, List.mem_cons, List.mem_append] at h
    rcases h with rfl | h | h
    · decide
    · exact space_le_of_mem_chars e h
    · exact space_le_of_mem_elementChars es h

theorem space_le_of_mem_memberChars (ms : List (String × Json)) {c : Char} (h : c ∈ memberChars ms) :
    32 ≤ c.toNat := by
  match ms with
  | [] => exact space_le_of_all (by decide) h
  | (k, v) :: ms =>
    simp only [memberChars, List.mem_cons, List.mem_append] at h
    rcases h with rfl | h | rfl | h | h
    · decide
    · exact space_le_of_mem_quoted h
    · decide
    · exact space_le_of_mem_chars v h
    · exact space_le_of_mem_memberChars ms h

end

end Json

end JsonSchema
