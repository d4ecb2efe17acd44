import JsonSchema.Proofs.Number.Shortest

/-!
# How far written numbers reach

The shortest decimal of a number lies near the number, so its point stands where the number is large or small, and it has
no more digits than fit between there and the unit that they are counted in. Both bounds are generous.

## What is here

* `Digits.pow_le_value`, `Digits.value_lt_pow` — the point tells the size of a decimal.
* `Binary64.two_pow_le_lower`, `Binary64.upper_le_two_pow` — the range of the intervals of numbers.
* `Binary64.shortest_point_bounds`, `Binary64.shortest_length_le` — **where the point of the shortest decimal stands, and how
  many digits it has**.
-/

set_option autoImplicit false

namespace JsonSchema

/-! ## Digits and their number -/

theorem pow_length_toDigits_le {n : Nat} (h : 0 < n) : 10 ^ ((Nat.toDigits 10 n).length - 1) ≤ n := by
  by_contra hlt
  have hpos : 0 < (Nat.toDigits 10 n).length := Nat.length_toDigits_pos
  by_cases hone : (Nat.toDigits 10 n).length = 1
  · rw [hone] at hlt
    exact hlt h
  · have hle := (Nat.length_toDigits_le_iff (by decide) (by omega)).mpr (not_le.mp hlt)
    omega

namespace Digits

variable {d : Digits}

/-- The digits are less than one with the point in front of them. -/
theorem value_lt_pow (d : Digits) : d.value < 10 ^ d.point := by
  have hdigits : (d.digits : ℚ) < 10 ^ (Nat.toDigits 10 d.digits).length := by
    exact_mod_cast (Nat.length_toDigits_le_iff (by decide) Nat.length_toDigits_pos).mp (le_refl _)
  have hunit : (0 : ℚ) < 10 ^ (d.point - (Nat.toDigits 10 d.digits).length) := by positivity
  calc d.value < 10 ^ (Nat.toDigits 10 d.digits).length * 10 ^ (d.point - (Nat.toDigits 10 d.digits).length) :=
        mul_lt_mul_of_pos_right hdigits hunit
    _ = 10 ^ d.point := by
        rw [← zpow_natCast, ← zpow_add₀ (by norm_num)]
        congr 1
        omega

/-- They are no less than a tenth, since they do not start with a zero. -/
theorem pow_le_value (h : 0 < d.digits) : 10 ^ (d.point - 1) ≤ d.value := by
  have hdigits : (10 : ℚ) ^ ((Nat.toDigits 10 d.digits).length - 1) ≤ d.digits := by
    exact_mod_cast pow_length_toDigits_le h
  have hunit : (0 : ℚ) ≤ 10 ^ (d.point - (Nat.toDigits 10 d.digits).length) := by positivity
  have hpos : 0 < (Nat.toDigits 10 d.digits).length := Nat.length_toDigits_pos
  calc (10 : ℚ) ^ (d.point - 1)
      = 10 ^ ((Nat.toDigits 10 d.digits).length - 1) * 10 ^ (d.point - (Nat.toDigits 10 d.digits).length) := by
        rw [← zpow_natCast, ← zpow_add₀ (by norm_num)]
        congr 1
        omega
    _ ≤ d.value := mul_le_mul_of_nonneg_right hdigits hunit

end Digits

namespace Binary64

variable {x : Binary64}

/-! ## The range of numbers -/

theorem two_pow_le_lower (h : x.isZero = false) : (2 : ℚ) ^ (-1075 : ℤ) ≤ x.lower := by
  have hone : (1 : ℚ) ≤ x.significand := by exact_mod_cast one_le_significand h
  have hreach : (x.reach : ℚ) ≤ 2 := by exact_mod_cast x.reach_le_two
  have hmin : -1074 ≤ x.exponent := x.normal.2.1
  have hunit : (2 : ℚ) ^ (-1076 : ℤ) ≤ 2 ^ (x.exponent - 2) := zpow_le_zpow_right₀ (by norm_num) (by omega)
  calc (2 : ℚ) ^ (-1075 : ℤ) = 2 * 2 ^ (-1076 : ℤ) := by rw [← zpow_one_add₀ (by norm_num)]; rfl
    _ ≤ 2 * 2 ^ (x.exponent - 2) := by linarith
    _ ≤ x.lower := mul_le_mul_of_nonneg_right (by linarith) (by positivity)

theorem upper_le_two_pow (x : Binary64) : x.upper ≤ 2 ^ (1024 : ℤ) := by
  have hshort : (x.significand : ℚ) + 1 ≤ 2 ^ 53 := by exact_mod_cast x.normal.1
  have hmax : x.exponent ≤ 971 := x.normal.2.2.1
  have hunit : (2 : ℚ) ^ (x.exponent - 2) ≤ 2 ^ (969 : ℤ) := zpow_le_zpow_right₀ (by norm_num) (by omega)
  calc x.upper ≤ 2 ^ 55 * 2 ^ (x.exponent - 2) := mul_le_mul_of_nonneg_right (by linarith) (by positivity)
    _ ≤ 2 ^ 55 * 2 ^ (969 : ℤ) := mul_le_mul_of_nonneg_left hunit (by norm_num)
    _ = 2 ^ (1024 : ℤ) := by rw [← zpow_natCast, ← zpow_add₀ (by norm_num)]; rfl

/-! ## The shortest decimal -/

theorem shortest_digits_pos (h : x.isZero = false) : 0 < x.shortest.digits := by
  refine Nat.pos_of_ne_zero fun hzero => ?_
  have hvalue : x.shortest.value = 0 := by simp [Digits.value, hzero]
  have hlow := (catches_shortest h).lower_le
  rw [hvalue] at hlow
  exact absurd (lower_pos h) (not_lt.mpr hlow)

theorem two_pow_lt_ten_pow : (2 : ℚ) ^ (1075 : ℤ) < 10 ^ (400 : ℤ) := by
  rw [zpow_ofNat, zpow_ofNat]
  calc (2 : ℚ) ^ 1075 = (2 ^ 43) ^ 25 := pow_mul 2 43 25
    _ < (10 ^ 16) ^ 25 := pow_lt_pow_left₀ (by norm_num) (by norm_num) (by decide)
    _ = 10 ^ 400 := (pow_mul 10 16 25).symm

/-- Where the point of the shortest decimal stands. -/
theorem shortest_point_bounds (h : x.isZero = false) : -400 ≤ x.shortest.point - 1 ∧ x.shortest.point - 1 ≤ 400 := by
  have hcatches := catches_shortest h
  constructor
  · by_contra hlt
    have hpow : (10 : ℚ) ^ x.shortest.point ≤ 10 ^ (-400 : ℤ) := zpow_le_zpow_right₀ (by norm_num) (by omega)
    have hsmall : (10 : ℚ) ^ (-400 : ℤ) < 2 ^ (-1075 : ℤ) := by
      rw [zpow_neg, zpow_neg]
      exact inv_strictAnti₀ (by positivity) two_pow_lt_ten_pow
    have hvalue := (two_pow_le_lower h).trans hcatches.lower_le
    exact absurd (hsmall.trans_le hvalue) (not_lt.mpr (x.shortest.value_lt_pow.le.trans hpow))
  · by_contra hlt
    have hpow : (10 : ℚ) ^ (400 : ℤ) ≤ 10 ^ (x.shortest.point - 1) := zpow_le_zpow_right₀ (by norm_num) (by omega)
    have hgreat : (2 : ℚ) ^ (1024 : ℤ) ≤ 2 ^ (1075 : ℤ) := zpow_le_zpow_right₀ (by norm_num) (by decide)
    have hvalue := Digits.pow_le_value (shortest_digits_pos h)
    exact absurd (hpow.trans (hvalue.trans (hcatches.le_upper.trans (x.upper_le_two_pow.trans hgreat))))
      (not_le.mpr two_pow_lt_ten_pow)

theorem le_stripZeros (fuel d : Nat) (k : Int) : k ≤ (stripZeros fuel d k).2 := by
  induction fuel generalizing d k with
  | zero => exact le_refl k
  | succ fuel ih =>
    unfold stripZeros
    split
    · have hnext := ih (d / 10) (k + 1)
      omega
    · exact le_refl k

theorem withDigits?_unit {r : Rounding} {p : Int} {n d : Nat} {k : Int} (h : r.withDigits? p n = some (d, k)) :
    k = p - n := by
  unfold Rounding.withDigits? at h
  dsimp only at h
  split at h
  · exact (Prod.mk.inj (Option.some.inj h)).2.symm
  · exact (Prod.mk.inj (Option.some.inj h)).2.symm
  · cases h
  · split at h
    · exact (Prod.mk.inj (Option.some.inj h)).2.symm
    · exact (Prod.mk.inj (Option.some.inj h)).2.symm

/-- The estimate of the point is not corrected downwards. -/
theorem le_rounding_point (r : Rounding) :
    ((r.value.log2 : Int) - (r.denominator.log2 : Int) - 1) * 30103 / 100000 - 1 ≤ r.point := by
  unfold Rounding.point
  dsimp only
  cases hfound : List.find? _ _ with
  | none => simp
  | some p =>
    obtain ⟨i, -, rfl⟩ := List.mem_map.mp (List.mem_of_find?_eq_some hfound)
    simp

theorem log2_denominator_le (x : Binary64) : x.rounding.denominator.log2 ≤ 1076 := by
  have hmin : -1074 ≤ x.exponent := x.normal.2.1
  unfold rounding
  dsimp only
  split
  · rw [Nat.log2_two_pow]
    omega
  · decide

/-- The unit that the digits of the shortest decimal are counted in. -/
theorem shortest_unit_ge (x : Binary64) :
    -1074 ≤ x.shortest.point - (Nat.toDigits 10 x.shortest.digits).length := by
  unfold shortest
  dsimp only
  rw [add_sub_cancel_right]
  refine le_trans ?_ (le_stripZeros _ _ _)
  cases hsome : (List.range 17).findSome? fun i => x.rounding.withDigits? x.rounding.point (i + 1) with
  | none =>
    have hmin : -1074 ≤ x.exponent := x.normal.2.1
    rw [Option.getD_none, allDigits]
    split
    · exact hmin
    · exact (by decide : (-1074 : Int) ≤ 0)
  | some found =>
    obtain ⟨d, k⟩ := found
    obtain ⟨i, hi, hfound⟩ := List.exists_of_findSome?_eq_some hsome
    have hdigits : i < 17 := List.mem_range.mp hi
    have hunit : k = x.rounding.point - ((i + 1 : Nat) : Int) := withDigits?_unit hfound
    have hpoint := le_rounding_point x.rounding
    have hlog := x.log2_denominator_le
    rw [Option.getD_some]
    omega

/-- How many digits the shortest decimal has. -/
theorem shortest_length_le (h : x.isZero = false) : (Nat.toDigits 10 x.shortest.digits).length ≤ 1475 := by
  have hpoint := (shortest_point_bounds h).2
  have hunit := x.shortest_unit_ge
  omega

end Binary64

end JsonSchema
