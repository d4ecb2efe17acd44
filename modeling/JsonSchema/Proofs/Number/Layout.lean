import JsonSchema.Json.Text
import JsonSchema.Proofs.Number.Grammar
import JsonSchema.Proofs.Number.Shortest

/-!
# Written numbers are read back

A number is written as digits, with a point and an exponent if there is a need for them. Reading what is written
gives the decimal that was meant, so the text of a number determines the number.

## What is here

* `Spelling` — a written number taken apart; `Spelling.chars` is the text and `Spelling.decimal` its meaning.
* `Spelling.read?_chars` — **the text of a spelling is read as its meaning**.
* `Json.Spells` — a spelling of digits with the point at some place; `Json.exists_spells_positional` and
  `Json.exists_spells_scientific`, written out and with an exponent.
* `Json.exists_spelling_integer`, `Json.exists_spelling_real` — the spellings of the two sorts of number.
-/

set_option autoImplicit false

namespace JsonSchema

/-- The magnitude of a decimal. -/
def Decimal.value (d : Decimal) : ℚ := d.digits * 10 ^ (d.exponent - d.places)

/-! ## Digits -/

/-- Zeros at the end multiply by a power of ten. -/
theorem digitsValue_append_zeros (cs : List Char) (n : Nat) :
    digitsValue (cs ++ List.replicate n '0') = 10 ^ n * digitsValue cs := by
  simp only [digitsValue_eq_ofDigitChars, Nat.ofDigitChars_append, Nat.ofDigitChars_replicate_zero]

/-- Zeros in front change nothing. -/
theorem digitsValue_zeros_append (n : Nat) (cs : List Char) :
    digitsValue (List.replicate n '0' ++ cs) = digitsValue cs := by
  simp only [digitsValue_eq_ofDigitChars, Nat.ofDigitChars_append, Nat.ofDigitChars_replicate_zero, Nat.mul_zero]

theorem isDigit_of_mem_zeros {n : Nat} {c : Char} (h : c ∈ List.replicate n '0') : c.isDigit = true := by
  rw [(List.mem_replicate.mp h).2]
  decide

/-! ## Spellings -/

/-- A number as it is written: digits before the point, digits behind it, and an exponent. -/
structure Spelling where
  negative : Bool
  whole : List Char
  fraction : List Char
  exponent : Option Int
  whole_ne : whole ≠ []
  whole_digits : ∀ c ∈ whole, c.isDigit = true
  fraction_digits : ∀ c ∈ fraction, c.isDigit = true

namespace Spelling

/-- The sign, which only negative numbers have. -/
def signChars (negative : Bool) : List Char := if negative then ['-'] else []

/-- The digits behind the point, with the point. -/
def fractionChars (fraction : List Char) : List Char := if fraction.isEmpty then [] else '.' :: fraction

/-- The exponent with its mark and its sign. -/
def exponentChars : Option Int → List Char
  | none => []
  | some e => 'e' :: (if e < 0 then '-' else '+') :: Nat.toDigits 10 e.natAbs

/-- The text of a spelling. -/
def chars (s : Spelling) : List Char :=
  signChars s.negative ++ (s.whole ++ (fractionChars s.fraction ++ exponentChars s.exponent))

/-- The decimal that a spelling means. -/
def decimal (s : Spelling) : Decimal :=
  { negative := s.negative
    digits := digitsValue (s.whole ++ s.fraction)
    places := s.fraction.length
    exponent := s.exponent.getD 0 }

/-- Whether there is a point or an exponent. -/
def isReal (s : Spelling) : Bool := !s.fraction.isEmpty || s.exponent.isSome

/-- The exponent of a spelling, taken apart. -/
def formExponent (e : Int) : Decimal.Exponent where
  mark := 'e'
  sign := if e < 0 then .minus else .plus
  digits := Nat.toDigits 10 e.natAbs
  mark_eq := .inl rfl
  digits_ne := Nat.toDigits_ne_nil
  all_digits := isDigit_of_mem_toDigits

theorem formExponent_value (e : Int) : Decimal.Exponent.value (some (formExponent e)) = e := by
  rw [Decimal.Exponent.value, formExponent, digitsValue_toDigits]
  by_cases he : e < 0
  · rw [if_pos he]
    exact (Int.eq_neg_natAbs_of_nonpos he.le).symm
  · rw [if_neg he]
    exact Int.natAbs_of_nonneg (not_lt.mp he)

/-- The digits behind the point, which is left out if there are none. -/
def formFraction (fraction : List Char) : Option (List Char) := if fraction.isEmpty then none else some fraction

theorem formFraction_getD (fraction : List Char) : (formFraction fraction).getD [] = fraction := by
  cases fraction <;> rfl

theorem pointChars_formFraction (fraction : List Char) :
    Decimal.Form.pointChars (formFraction fraction) = fractionChars fraction := by
  cases fraction <;> rfl

/-- A spelling is one of the forms that are read. -/
def form (s : Spelling) : Decimal.Form where
  sign := if s.negative then .minus else .unwritten
  whole := s.whole
  fraction := formFraction s.fraction
  exponent := s.exponent.map formExponent
  whole_digits := s.whole_digits
  fraction_digits := by simpa only [formFraction_getD] using s.fraction_digits
  some_digit := .inl s.whole_ne

theorem form_chars (s : Spelling) : s.form.chars = s.chars := by
  have hsign : s.form.sign.chars = signChars s.negative := by
    unfold form signChars
    cases s.negative <;> rfl
  have hfraction : Decimal.Form.pointChars s.form.fraction = fractionChars s.fraction :=
    pointChars_formFraction s.fraction
  have hexponent : Decimal.Exponent.chars s.form.exponent = exponentChars s.exponent := by
    unfold form
    cases s.exponent with
    | none => rfl
    | some e => by_cases he : e < 0 <;> simp [Decimal.Exponent.chars, Decimal.Exponent.numberChars, formExponent,
        Decimal.Sign.chars, exponentChars, he]
  rw [Decimal.Form.chars, hsign, hfraction, hexponent]
  rfl

theorem form_decimal (s : Spelling) : s.form.decimal = s.decimal := by
  have hsign : s.form.sign.negates = s.negative := by
    unfold form
    cases s.negative <;> rfl
  have hfraction : s.form.fraction.getD [] = s.fraction := formFraction_getD s.fraction
  have hexponent : Decimal.Exponent.value s.form.exponent = s.exponent.getD 0 := by
    unfold form
    cases s.exponent with
    | none => rfl
    | some e => exact formExponent_value e
  rw [Decimal.Form.decimal, Decimal.Form.places, hsign, hfraction, hexponent]
  rfl

/-- The text of a spelling is read as its meaning. -/
theorem read?_chars (s : Spelling) : Decimal.read? s.chars = some s.decimal := by
  rw [← form_chars, Decimal.read?_chars, form_decimal]

/-- A character that numbers are written with. -/
def IsNumeric (c : Char) : Prop := c.isDigit = true ∨ c ∈ ['-', '+', '.', 'e']

instance (c : Char) : Decidable (IsNumeric c) := inferInstanceAs (Decidable (_ ∨ _))

theorem isNumeric_of_mem_chars {s : Spelling} {c : Char} (h : c ∈ s.chars) : IsNumeric c := by
  unfold chars at h
  rcases List.mem_append.mp h with hsign | h
  · cases hneg : s.negative <;> simp [signChars, hneg] at hsign
    simp [hsign, IsNumeric]
  rcases List.mem_append.mp h with hwhole | h
  · exact Or.inl (s.whole_digits c hwhole)
  rcases List.mem_append.mp h with hfraction | hexponent
  · unfold fractionChars at hfraction
    split at hfraction
    · simp at hfraction
    · rcases List.mem_cons.mp hfraction with rfl | hdigit
      · simp [IsNumeric]
      · exact Or.inl (s.fraction_digits c hdigit)
  · cases he : s.exponent with
    | none => simp [he, exponentChars] at hexponent
    | some e =>
      simp only [he, exponentChars, List.mem_cons] at hexponent
      rcases hexponent with rfl | hsign | hdigit
      · simp [IsNumeric]
      · split at hsign <;> simp [hsign, IsNumeric]
      · exact Or.inl (isDigit_of_mem_toDigits c hdigit)

/-- A point or an exponent is seen in the text. -/
theorem isReal_iff (s : Spelling) : s.isReal = true ↔ '.' ∈ s.chars ∨ 'e' ∈ s.chars := by
  constructor
  · intro h
    unfold isReal at h
    by_cases hfraction : s.fraction = []
    · rw [hfraction] at h
      obtain ⟨e, he⟩ := Option.isSome_iff_exists.mp (by simpa using h)
      right
      simp [chars, he, exponentChars]
    · left
      simp [chars, fractionChars, hfraction]
  · intro h
    by_contra hplain
    simp only [isReal, Bool.or_eq_true, not_or, Bool.not_eq_true, Bool.not_eq_false', List.isEmpty_iff,
      Option.isSome_eq_false_iff, Option.isNone_iff_eq_none] at hplain
    obtain ⟨hfraction, hexponent⟩ := hplain
    have hmark : ∀ c ∈ s.chars, c = '-' ∨ c.isDigit = true := by
      intro c hc
      simp only [chars, hfraction, hexponent, fractionChars, exponentChars, List.isEmpty_nil, if_true,
        List.append_nil, List.mem_append] at hc
      rcases hc with hsign | hwhole
      · cases hneg : s.negative <;> simp [signChars, hneg] at hsign
        exact Or.inl hsign
      · exact Or.inr (s.whole_digits c hwhole)
    rcases h with h | h
    · exact absurd (hmark _ h) (by decide)
    · exact absurd (hmark _ h) (by decide)

theorem chars_ne_nil (s : Spelling) : s.chars ≠ [] := by
  simp [chars, s.whole_ne]

end Spelling

/-! ## The spellings of numbers -/

namespace Json

/-- A whole number is spelled without point and exponent. -/
theorem exists_spelling_integer (n : Int) :
    ∃ s : Spelling, s.chars = integerChars n ∧ s.isReal = false ∧ s.decimal = ⟨n < 0, n.natAbs, 0, 0⟩ := by
  refine ⟨⟨n < 0, Nat.toDigits 10 n.natAbs, [], none, Nat.toDigits_ne_nil, isDigit_of_mem_toDigits, by simp⟩,
    ?_, rfl, ?_⟩
  · by_cases hn : n < 0 <;>
      simp [Spelling.chars, Spelling.signChars, Spelling.fractionChars, Spelling.exponentChars, integerChars, hn]
  · simp [Spelling.decimal, digitsValue_toDigits]

/-- A text with a point or an exponent, spelled from digits with the point at some place, and how long its fraction is. -/
structure Spells (negative : Bool) (digits : List Char) (point : Int) (text : List Char) (s : Spelling) : Prop where
  sign : s.negative = negative
  real : s.isReal = true
  value : s.decimal.value = digitsValue digits * 10 ^ (point - digits.length)
  chars : s.chars = Spelling.signChars negative ++ text
  places : s.fraction.length ≤ point.natAbs + digits.length + 1

section

variable {ds : List Char} (negative : Bool) (point : Int) (hdigits : ∀ c ∈ ds, c.isDigit = true) (hne : ds ≠ [])

include hdigits hne

/-- Zeros stand before the digits. -/
theorem exists_spells_before (hpoint : point ≤ 0) :
    ∃ s, Spells negative ds point (layout.positional ds point) s ∧ s.exponent = none := by
  have hfraction : ∀ c ∈ List.replicate point.natAbs '0' ++ ds, c.isDigit = true := fun c hc =>
    (List.mem_append.mp hc).elim isDigit_of_mem_zeros (hdigits c)
  refine ⟨⟨negative, ['0'], List.replicate point.natAbs '0' ++ ds, none, by simp, by simp, hfraction⟩,
    { sign := rfl, real := ?_, value := ?_, chars := ?_, places := ?_ }, rfl⟩
  · simp [Spelling.isReal, hne]
  · have hzeros : ['0'] ++ (List.replicate point.natAbs '0' ++ ds) = List.replicate (point.natAbs + 1) '0' ++ ds := by
      simp [List.replicate_succ]
    simp only [Spelling.decimal, Decimal.value, hzeros, digitsValue_zeros_append, Option.getD_none, List.length_append,
      List.length_replicate]
    congr 2
    rw [Nat.cast_add]
    omega
  · simp [Spelling.chars, Spelling.fractionChars, Spelling.exponentChars, Layout.positional, hne, hpoint]
  · rw [List.length_append, List.length_replicate]
    omega

/-- Zeros stand behind the digits. -/
theorem exists_spells_behind (hpoint : ¬ point ≤ 0) (hlong : ds.length ≤ point.natAbs) :
    ∃ s, Spells negative ds point (layout.positional ds point) s ∧ s.exponent = none := by
  have hwhole : ∀ c ∈ ds ++ List.replicate (point.natAbs - ds.length) '0', c.isDigit = true := fun c hc =>
    (List.mem_append.mp hc).elim (hdigits c) isDigit_of_mem_zeros
  refine ⟨⟨negative, ds ++ List.replicate (point.natAbs - ds.length) '0', ['0'], none, by simp [hne], hwhole, by simp⟩,
    { sign := rfl, real := rfl, value := ?_, chars := ?_, places := Nat.le_add_left _ _ }, rfl⟩
  · have hzeros : ds ++ List.replicate (point.natAbs - ds.length) '0' ++ ['0'] =
        ds ++ List.replicate (point.natAbs - ds.length + 1) '0' := by
      simp [List.replicate_succ']
    have hexponent : point - (ds.length : ℤ) = ((point.natAbs - ds.length : Nat) : ℤ) := by omega
    have htenth : (10 : ℚ) ^ (0 - ((1 : Nat) : ℤ)) = 10⁻¹ := by norm_num
    simp only [Spelling.decimal, Decimal.value, hzeros, digitsValue_append_zeros, Option.getD_none, List.length_singleton]
    rw [hexponent, htenth, zpow_natCast, pow_succ]
    push_cast
    ring
  · simp [Spelling.chars, Spelling.fractionChars, Spelling.exponentChars, Layout.positional, hpoint, hlong, layout]

/-- The point stands between digits. -/
theorem exists_spells_between (hpoint : ¬ point ≤ 0) (hlong : ¬ ds.length ≤ point.natAbs) :
    ∃ s, Spells negative ds point (layout.positional ds point) s ∧ s.exponent = none := by
  have hwhole : ds.take point.natAbs ≠ [] := by
    simp only [ne_eq, List.take_eq_nil_iff, not_or]
    exact ⟨by omega, hne⟩
  have hfraction : ds.drop point.natAbs ≠ [] := by
    simp only [ne_eq, List.drop_eq_nil_iff]
    exact hlong
  refine ⟨⟨negative, ds.take point.natAbs, ds.drop point.natAbs, none, hwhole,
      fun c hc => hdigits c (List.mem_of_mem_take hc), fun c hc => hdigits c (List.mem_of_mem_drop hc)⟩,
    { sign := rfl, real := ?_, value := ?_, chars := ?_, places := ?_ }, rfl⟩
  · simp [Spelling.isReal, hfraction]
  · simp only [Spelling.decimal, Decimal.value, List.take_append_drop, Option.getD_none, List.length_drop]
    congr 2
    omega
  · simp [Spelling.chars, Spelling.fractionChars, Spelling.exponentChars, Layout.positional, hpoint, hlong, hfraction]
  · rw [List.length_drop]
    omega

/-- Digits written out. -/
theorem exists_spells_positional :
    ∃ s, Spells negative ds point (layout.positional ds point) s ∧ s.exponent = none := by
  by_cases hpoint : point ≤ 0
  · exact exists_spells_before negative point hdigits hne hpoint
  · by_cases hlong : ds.length ≤ point.natAbs
    · exact exists_spells_behind negative point hdigits hne hpoint hlong
    · exact exists_spells_between negative point hdigits hne hpoint hlong

/-- Digits with an exponent. -/
theorem exists_spells_scientific :
    ∃ s, Spells negative ds point (layout.scientific ds point) s ∧ s.exponent = some (point - 1) := by
  have hpos : 0 < ds.length := List.length_pos_iff.mpr hne
  refine ⟨⟨negative, ds.take 1, ds.drop 1, some (point - 1), by simp [hne],
      fun c hc => hdigits c (List.mem_of_mem_take hc), fun c hc => hdigits c (List.mem_of_mem_drop hc)⟩,
    { sign := rfl, real := ?_, value := ?_, chars := ?_, places := ?_ }, rfl⟩
  · simp [Spelling.isReal]
  · simp only [Spelling.decimal, Decimal.value, List.take_append_drop, Option.getD_some, List.length_drop]
    congr 2
    omega
  · by_cases he : point - 1 < 0 <;>
      simp [Spelling.chars, Spelling.fractionChars, Spelling.exponentChars, Layout.scientific, layout, he]
  · rw [List.length_drop]
    omega

end

/-- A number other than zero is spelled by its shortest digits. It has no exponent, or it has the one that the point asks for,
and its fraction is as long as the digits and the zeros up to the point make it. -/
theorem exists_spelling_nonzero {x : Binary64} (h : x.isZero = false) :
    ∃ s : Spelling, s.chars = layout.text x ∧ s.isReal = true ∧ s.negative = x.negative ∧
      s.decimal.value = x.shortest.value ∧ (s.exponent.getD 0 = 0 ∨ s.exponent.getD 0 = x.shortest.point - 1) ∧
      s.fraction.length ≤ x.shortest.point.natAbs + (Nat.toDigits 10 x.shortest.digits).length + 1 := by
  have hzero : ¬ x.isZero = true := by simp [h]
  have hdigits := @isDigit_of_mem_toDigits x.shortest.digits
  have hne : Nat.toDigits 10 x.shortest.digits ≠ [] := Nat.toDigits_ne_nil
  have hvalue : (digitsValue (Nat.toDigits 10 x.shortest.digits) : ℚ) = x.shortest.digits := by
    rw [digitsValue_toDigits]
  unfold Layout.text Digits.value
  rw [if_neg hzero]
  by_cases hplain : (layout.leastPoint ≤ x.shortest.point && x.shortest.point ≤ layout.greatestPoint) = true
  · obtain ⟨s, hs, hexponent⟩ := exists_spells_positional x.negative x.shortest.point hdigits hne
    exact ⟨s, by simpa [hplain, Spelling.signChars] using hs.chars, hs.real, hs.sign, hvalue ▸ hs.value,
      .inl (by rw [hexponent, Option.getD_none]), hs.places⟩
  · obtain ⟨s, hs, hexponent⟩ := exists_spells_scientific x.negative x.shortest.point hdigits hne
    exact ⟨s, by simpa [hplain, Spelling.signChars] using hs.chars, hs.real, hs.sign, hvalue ▸ hs.value,
      .inr (by rw [hexponent, Option.getD_some]), hs.places⟩

/-- Zero is spelled with a point. -/
theorem exists_spelling_zero {x : Binary64} (h : x.isZero = true) :
    ∃ s : Spelling, s.chars = layout.text x ∧ s.isReal = true ∧ s.negative = x.negative ∧ s.decimal.value = 0 ∧
      s.exponent = none ∧ s.fraction.length = 1 := by
  refine ⟨⟨x.negative, ['0'], ['0'], none, by simp, by simp, by simp⟩, ?_, rfl, rfl, ?_, rfl, rfl⟩
  · cases hneg : x.negative <;> simp [Spelling.chars, Spelling.signChars, Spelling.fractionChars, Spelling.exponentChars,
      Layout.text, h, hneg, layout]
  · simp [Spelling.decimal, Decimal.value, digitsValue]

/-- A floating-point number is spelled with a point or an exponent, and what is spelled is its decimal. -/
theorem exists_spelling_real (x : Binary64) :
    ∃ s : Spelling, s.chars = layout.text x ∧ s.isReal = true ∧ s.negative = x.negative ∧
      s.decimal.value = x.decimal := by
  unfold Binary64.decimal
  cases hzero : x.isZero with
  | true =>
    obtain ⟨s, hchars, hreal, hneg, hvalue, -⟩ := exists_spelling_zero hzero
    exact ⟨s, hchars, hreal, hneg, hvalue⟩
  | false =>
    obtain ⟨s, hchars, hreal, hneg, hvalue, -⟩ := exists_spelling_nonzero hzero
    exact ⟨s, hchars, hreal, hneg, hvalue⟩

end Json

end JsonSchema
