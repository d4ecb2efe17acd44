import JsonSchema.Proofs.Keyword.Precision
import JsonSchema.Proofs.Number.Extent
import JsonSchema.Proofs.Number.Layout

/-!
# The scale of a written number

The remainder of a division is rounded at the decimal places that are told from the texts of both numbers. That is only
right if no more places are needed: scaled by that power of ten, a number has to be whole. It is, as long as fewer than
fifteen places are told. And no smaller power of ten will do, unless the digits end with a zero.

## What is here

* `Decimal.Form.value`, `Decimal.Form.signedDigits` — the number that is written, and its digits as a whole number.
  `Decimal.Form.isInt_scaled`, `Decimal.Form.shown_le_of_isInt_scaled` — **the number is whole from the scale on that its
  text shows**.
* `Decimal.Form.ScalesTo` — what decimal places have to mean.
* `Json.form_of_number` — the text of a number is one of the forms, with a small exponent and not too many places.
* `decimalPlaces_scale` — **what the decimal places of written numbers mean**.
-/

set_option autoImplicit false

namespace JsonSchema

open Decimal

namespace Decimal.Form

variable {n : Form} {k : ℤ}

/-! ## Scaled numbers -/

/-- The number that is written. -/
def value (n : Form) : ℚ := if n.sign.negates then -n.decimal.value else n.decimal.value

/-- The digits of a number, with its sign, as a whole number. -/
def signedDigits (n : Form) : ℤ := if n.sign.negates then -(n.decimal.digits : ℤ) else n.decimal.digits

/-- The last digit in front of the exponent. -/
def lastDigit? (n : Form) : Option Char := (n.whole ++ n.fraction.getD []).getLast?

theorem value_mul_zpow (n : Form) (k : ℤ) : n.value * 10 ^ k = n.signedDigits * 10 ^ (k - n.shown) := by
  have hmagnitude : n.decimal.value * 10 ^ k = n.decimal.digits * 10 ^ (k - n.shown) := by
    rw [Decimal.value, mul_assoc, ← zpow_add₀ (by norm_num)]
    congr 2
    rw [shown]
    show Exponent.value n.exponent - (n.places : ℤ) + k = _
    omega
  rw [value, signedDigits]
  split
  · rw [neg_mul, hmagnitude]
    push_cast
    ring
  · rw [hmagnitude, Int.cast_natCast]

/-- From the scale on that its text shows, a number is whole. -/
theorem isInt_scaled (h : n.shown ≤ k) : ∃ m : ℤ, n.value * 10 ^ k = m := by
  obtain ⟨i, hi⟩ := Int.le.dest h
  refine ⟨n.signedDigits * 10 ^ i, ?_⟩
  rw [value_mul_zpow, ← hi, add_sub_cancel_left, zpow_natCast]
  push_cast
  rfl

/-- Digits that do not end with a zero are no multiple of ten. -/
theorem not_ten_dvd_signedDigits (h : n.lastDigit? ≠ some '0') : ¬ (10 : ℤ) ∣ n.signedDigits := by
  have hdigits : ∀ c ∈ n.whole ++ n.fraction.getD [], c.isDigit = true := fun c hc =>
    (List.mem_append.mp hc).elim (n.whole_digits c) (n.fraction_digits c)
  have hne : n.whole ++ n.fraction.getD [] ≠ [] := by simpa [imp_iff_not_or] using n.some_digit
  have hvalue : n.decimal.digits = digitsValue (n.whole ++ n.fraction.getD []) := rfl
  have hdvd : (10 : ℤ) ∣ n.signedDigits ↔ 10 ∣ digitsValue (n.whole ++ n.fraction.getD []) := by
    rw [signedDigits, ← hvalue]
    split
    · rw [Int.dvd_neg]
      omega
    · omega
  rw [hdvd]
  rw [lastDigit?] at h
  generalize n.whole ++ n.fraction.getD [] = cs at h hdigits hne
  obtain ⟨front, c, rfl⟩ := List.eq_nil_or_concat cs |>.resolve_left hne
  rw [List.concat_eq_append] at h hdigits ⊢
  have hzero : c ≠ '0' := by simpa using h
  have hrange := isDigit_range (hdigits c (by simp))
  have hcode : c.toNat ≠ 48 := fun heq => hzero (Char.toNat_inj.mp heq)
  rw [digitsValue_append_singleton]
  omega

/-- No smaller scale makes a number whole whose digits do not end with a zero. -/
theorem shown_le_of_isInt_scaled (hlast : n.lastDigit? ≠ some '0') (h : ∃ m : ℤ, n.value * 10 ^ k = m) : n.shown ≤ k := by
  obtain ⟨m, hm⟩ := h
  by_contra hlt
  obtain ⟨i, hi⟩ := Int.le.dest (Int.add_one_le_of_lt (not_le.mp hlt))
  have hscale : (10 : ℚ) ^ (k - n.shown) * 10 ^ (i + 1) = 1 := by
    rw [← zpow_natCast, ← zpow_add₀ (by norm_num)]
    have hzero : k - n.shown + ((i + 1 : ℕ) : ℤ) = 0 := by
      push_cast
      omega
    rw [hzero, zpow_zero]
  have hdigits : (n.signedDigits : ℚ) = (m * 10 ^ (i + 1) : ℤ) := by
    push_cast
    rw [← hm, value_mul_zpow, mul_assoc, hscale, mul_one]
  refine not_ten_dvd_signedDigits hlast ⟨m * 10 ^ i, ?_⟩
  rw [Int.cast_inj.mp hdigits, pow_succ]
  ring

/-! ## Decimal places -/

/-- Scaled by a number of decimal places, a written number is whole, if there are fewer than fifteen; and if there are any,
it is not with fewer, unless its digits end with a zero. -/
structure ScalesTo (n : Form) (p : Nat) : Prop where
  whole : p < 15 → ∃ m : ℤ, n.value * 10 ^ p = m
  least : 0 < p → n.lastDigit? ≠ some '0' → ∀ k : ℤ, k < p → ¬ ∃ m : ℤ, n.value * 10 ^ k = m

/-- The decimal places that are used are those that a number shows, if it shows any and there is no need to cut them. -/
theorem scalesTo_usedPlaces (n : Form) : n.ScalesTo (usedPlaces n.shown) where
  whole h := by
    have hshown : n.shown ≤ (usedPlaces n.shown : ℤ) := by
      unfold usedPlaces at h ⊢
      omega
    obtain ⟨m, hm⟩ := isInt_scaled hshown
    exact ⟨m, by rwa [zpow_natCast] at hm⟩
  least hpos hlast k hk hint := by
    have hshown := shown_le_of_isInt_scaled hlast hint
    unfold usedPlaces at hpos hk
    omega

/-- With a small exponent and not too many places nothing goes beyond 64 bits. -/
theorem decimalPlaces_eq_usedPlaces {text : String} (h : n.chars = Text.trim text.toList)
    (hexponent : (Exponent.value n.exponent).natAbs ≤ 400) (hplaces : n.places < 2 ^ 63 - 400) :
    decimalPlaces text = usedPlaces n.shown := by
  have hmachine : IsMachine (Exponent.value n.exponent) := by
    unfold IsMachine
    omega
  have hshown : n.shown < 2 ^ 63 := by
    unfold shown
    omega
  rw [decimalPlaces_of_trim h]
  exact (usedPlaces_eq_iff (by omega)).mpr (.inl ⟨hmachine, hshown⟩)

/-- Forms with the same text mean the same. -/
theorem decimal_eq_of_chars {m : Form} (h : m.chars = n.chars) : m.decimal = n.decimal :=
  Option.some.inj (by rw [← read?_chars m, ← read?_chars n, h])

end Decimal.Form

/-! ## The texts of numbers -/

/-- A floating-point number is written with a small exponent and not too many places. -/
theorem Json.exists_form_real (x : Binary64) : ∃ n : Form, n.chars = Json.layout.text x ∧
    (Exponent.value n.exponent).natAbs ≤ 400 ∧ n.places < 2 ^ 63 - 400 := by
  have hform (s : Spelling) : Exponent.value s.form.exponent = s.exponent.getD 0 ∧ s.form.places = s.fraction.length :=
    have hdecimal := s.form_decimal
    ⟨congrArg Decimal.exponent hdecimal, congrArg Decimal.places hdecimal⟩
  cases hzero : x.isZero with
  | true =>
    obtain ⟨s, hchars, -, -, -, hexponent, hplaces⟩ := exists_spelling_zero hzero
    refine ⟨s.form, s.form_chars.trans hchars, ?_, ?_⟩
    · rw [(hform s).1, hexponent]
      decide
    · rw [(hform s).2, hplaces]
      decide
  | false =>
    obtain ⟨s, hchars, -, -, -, hexponent, hplaces⟩ := exists_spelling_nonzero hzero
    have hpoint := Binary64.shortest_point_bounds hzero
    have hlength := Binary64.shortest_length_le hzero
    refine ⟨s.form, s.form_chars.trans hchars, ?_, ?_⟩
    · rw [(hform s).1]
      omega
    · rw [(hform s).2]
      omega

/-- The text of a number is one of the forms, with a small exponent and not too many places. -/
theorem Json.form_of_number {j : Json} {x : Binary64} (h : j.number? = some x) :
    (∃ n : Form, n.chars = j.text.toList) ∧ ∀ n : Form, n.chars = j.text.toList →
      (Exponent.value n.exponent).natAbs ≤ 400 ∧ n.places < 2 ^ 63 - 400 := by
  have hsome : ∃ n : Form, n.chars = j.text.toList ∧ (Exponent.value n.exponent).natAbs ≤ 400 ∧
      n.places < 2 ^ 63 - 400 := by
    rw [Json.text, String.toList_ofList]
    cases j with
    | integer i =>
      obtain ⟨s, hchars, -, hdecimal⟩ := exists_spelling_integer i
      have hsame := s.form_decimal.trans hdecimal
      have hexponent : Exponent.value s.form.exponent = 0 := congrArg Decimal.exponent hsame
      have hplaces : s.form.places = 0 := congrArg Decimal.places hsame
      exact ⟨s.form, s.form_chars.trans hchars, by rw [hexponent]; decide, by rw [hplaces]; decide⟩
    | real x => exact exists_form_real x
    | _ => exact nomatch h
  obtain ⟨m, hm, hexponent, hplaces⟩ := hsome
  refine ⟨⟨m, hm⟩, fun n hn => ?_⟩
  have hsame := Form.decimal_eq_of_chars (hn.trans hm.symm)
  have hexponent' : Exponent.value n.exponent = Exponent.value m.exponent := congrArg Decimal.exponent hsame
  have hplaces' : n.places = m.places := congrArg Decimal.places hsame
  rw [hexponent', hplaces']
  exact ⟨hexponent, hplaces⟩

/-- **What the decimal places of written numbers mean.** A number with an exponent of at most 400 is whole when it is scaled by
the decimal places that are told from its text, if these are fewer than fifteen. By fewer it is not, unless its digits end
with a zero. All numbers of instances and all limits of schemas are written so. -/
theorem decimalPlaces_scale :
    (∀ (text : String) (n : Form), n.chars = Text.trim text.toList → (Exponent.value n.exponent).natAbs ≤ 400 →
      n.places < 2 ^ 63 - 400 → n.ScalesTo (decimalPlaces text)) ∧
      (∀ (j : Json) (x : Binary64), j.number? = some x → (∃ n : Form, n.chars = j.text.toList) ∧
        ∀ n : Form, n.chars = j.text.toList → n.ScalesTo (decimalPlaces j.text)) ∧
      ∀ (j : Option Json) (limit : Limit), Limit.read? j = some limit → (∃ n : Form, n.chars = limit.text.toList) ∧
        ∀ n : Form, n.chars = limit.text.toList → n.ScalesTo (decimalPlaces limit.text) := by
  have htext (text : String) (n : Form) (h : n.chars = Text.trim text.toList)
      (hexponent : (Exponent.value n.exponent).natAbs ≤ 400) (hplaces : n.places < 2 ^ 63 - 400) :
      n.ScalesTo (decimalPlaces text) := by
    rw [Form.decimalPlaces_eq_usedPlaces h hexponent hplaces]
    exact n.scalesTo_usedPlaces
  have hnumber (j : Json) (x : Binary64) (h : j.number? = some x) : (∃ n : Form, n.chars = j.text.toList) ∧
      ∀ n : Form, n.chars = j.text.toList → n.ScalesTo (decimalPlaces j.text) := by
    obtain ⟨hsome, hall⟩ := Json.form_of_number h
    refine ⟨hsome, fun n hn => ?_⟩
    have htrim : n.chars = Text.trim j.text.toList := by
      rw [← hn, Text.trim_of_no_blank fun c hc => Form.isBlank_of_mem_chars hc]
    exact htext j.text n htrim (hall n hn).1 (hall n hn).2
  refine ⟨htext, hnumber, fun j limit h => ?_⟩
  obtain ⟨j, rfl, hlimit⟩ := Option.bind_eq_some_iff.mp h
  obtain ⟨x, hx, rfl⟩ := Option.map_eq_some_iff.mp hlimit
  exact hnumber j x hx

/-- Digits of a fraction and those that the exponent adds, of a text, of an instance and of a limit. -/
theorem decimalPlaces_scale_scientific :
    (∃ n : Form, n.chars = "1.25e-3".toList ∧ (∃ m : ℤ, n.value * 10 ^ 5 = m) ∧
      ∀ k : ℤ, k < 5 → ¬ ∃ m : ℤ, n.value * 10 ^ k = m) ∧
      (∃ (x : Binary64) (n : Form), readFinite? "0.125" = some x ∧ n.chars = (Json.real x).text.toList ∧
        ∃ m : ℤ, n.value * 10 ^ 3 = m) ∧
      ∃ (x : Binary64) (limit : Limit) (n : Form), readFinite? "2.5e-7" = some x ∧
        Limit.read? (some (.real x)) = some limit ∧ n.chars = limit.text.toList ∧ ∃ m : ℤ, n.value * 10 ^ 8 = m := by
  obtain ⟨htexts, hnumbers, hlimits⟩ := decimalPlaces_scale
  refine ⟨?_, ?_, ?_⟩
  · let n : Form := ⟨.unwritten, ['1'], some ['2', '5'],
      some ⟨'e', .minus, ['3'], .inl rfl, by decide, List.all_eq_true.mp rfl⟩, List.all_eq_true.mp rfl,
      List.all_eq_true.mp rfl, .inl (by decide)⟩
    have hplaces : decimalPlaces "1.25e-3" = 5 := by decide +kernel
    have hscale : n.ScalesTo 5 := hplaces ▸ htexts "1.25e-3" n (by decide) (by decide) (by decide)
    exact ⟨n, by decide, hscale.whole (by decide), hscale.least (by decide) (by decide)⟩
  · have hread : (readFinite? "0.125").map (fun x => decimalPlaces (Json.real x).text) = some 3 := by decide +kernel
    obtain ⟨x, hx, hplaces⟩ := Option.map_eq_some_iff.mp hread
    obtain ⟨⟨n, hn⟩, hall⟩ := hnumbers (.real x) x rfl
    exact ⟨x, n, hx, hn, (hplaces ▸ hall n hn).whole (by decide)⟩
  · have hread : (readFinite? "2.5e-7").map (fun x => decimalPlaces (Json.real x).text) = some 8 := by decide +kernel
    obtain ⟨x, hx, hplaces⟩ := Option.map_eq_some_iff.mp hread
    obtain ⟨⟨n, hn⟩, hall⟩ := hlimits (some (.real x)) ⟨x, (Json.real x).text⟩ rfl
    exact ⟨x, _, n, hx, rfl, hn, (hplaces ▸ hall n hn).whole (by decide)⟩

end JsonSchema
