import JsonSchema.Number.Shortest
import Mathlib.Algebra.Order.Field.Power
import Mathlib.Algebra.Order.Ring.Rat
import Mathlib.Tactic.FieldSimp
import Mathlib.Tactic.Linarith
import Mathlib.Tactic.Positivity
import Mathlib.Tactic.Ring

/-!
# The shortest decimal tells numbers apart

Every finite number has an interval of the line to itself, and its shortest decimal lies in it. So two numbers
with the same shortest decimal are the same number.

## What is here

* `Binary64.Catches` — whether a fraction lies in the interval of a number; closed when the significand is even.
* `Binary64.rounding_holds_iff` — the test on numerators and denominators is `Catches`.
* `Binary64.catches_shortest` — **the shortest decimal of a number lies in its interval**.
* `Binary64.eq_of_catches` — **no two intervals meet**.
-/

set_option autoImplicit false

namespace JsonSchema

/-- The fraction that digits stand for. -/
def Digits.value (d : Digits) : ℚ := d.digits * 10 ^ (d.point - (Nat.toDigits 10 d.digits).length)

namespace Binary64

/-! ## Intervals -/

/-- Four times the distance from a number to the end of its interval below, in units of its last place. -/
def reach (x : Binary64) : Nat := if x.significand == 2 ^ (52 : Nat) && x.exponent > minExponent then 1 else 2

/-- The end of the interval below. -/
def lower (x : Binary64) : ℚ := (4 * (x.significand : ℚ) - x.reach) * 2 ^ (x.exponent - 2)

/-- The end of the interval above. -/
def upper (x : Binary64) : ℚ := (4 * (x.significand : ℚ) + 2) * 2 ^ (x.exponent - 2)

/-- Whether a fraction lies in the interval of a number. The ends belong to the number with the even
significand. -/
def Catches (x : Binary64) (q : ℚ) : Prop :=
  if x.significand % 2 = 0 then x.lower ≤ q ∧ q ≤ x.upper else x.lower < q ∧ q < x.upper

theorem reach_pos (x : Binary64) : 0 < x.reach := by
  unfold reach
  split <;> decide

theorem reach_le_two (x : Binary64) : x.reach ≤ 2 := by
  unfold reach
  split <;> decide

theorem Catches.lower_le {x : Binary64} {q : ℚ} (h : x.Catches q) : x.lower ≤ q := by
  unfold Catches at h
  split at h
  · exact h.1
  · exact h.1.le

theorem Catches.le_upper {x : Binary64} {q : ℚ} (h : x.Catches q) : q ≤ x.upper := by
  unfold Catches at h
  split at h
  · exact h.2
  · exact h.2.le

theorem Catches.lower_lt {x : Binary64} {q : ℚ} (h : x.Catches q) (hodd : x.significand % 2 = 1) :
    x.lower < q := by
  unfold Catches at h
  rw [if_neg (by omega)] at h
  exact h.1

theorem Catches.lt_upper {x : Binary64} {q : ℚ} (h : x.Catches q) (hodd : x.significand % 2 = 1) :
    q < x.upper := by
  unfold Catches at h
  rw [if_neg (by omega)] at h
  exact h.2

theorem catches_of_lt {x : Binary64} {q : ℚ} (hlow : x.lower < q) (hhigh : q < x.upper) : x.Catches q := by
  unfold Catches
  split
  · exact ⟨hlow.le, hhigh.le⟩
  · exact ⟨hlow, hhigh⟩

theorem one_le_significand {x : Binary64} (h : x.isZero = false) : 1 ≤ x.significand := by
  have hne : x.significand ≠ 0 := by simpa [isZero] using h
  omega

theorem lower_pos {x : Binary64} (h : x.isZero = false) : 0 < x.lower := by
  have hone : (1 : ℚ) ≤ x.significand := by exact_mod_cast one_le_significand h
  have hreach : (x.reach : ℚ) ≤ 2 := by exact_mod_cast x.reach_le_two
  have hunit : (0 : ℚ) < 2 ^ (x.exponent - 2) := by positivity
  unfold lower
  exact mul_pos (by linarith) hunit

/-! ## No two intervals meet -/

/-- A number with a greater exponent has a long significand, and its interval begins above the longest
significand of the smaller exponent. -/
theorem lt_reach_of_lt {x y : Binary64} (h : x.exponent < y.exponent) :
    (2 ^ 54 - 1 : ℚ) ≤ 4 * (y.significand : ℚ) - y.reach := by
  obtain ⟨-, hmin, -, hlong⟩ := y.normal
  have hxmin := x.normal.2.1
  have hlong : 2 ^ 52 ≤ y.significand := hlong.resolve_right (by omega)
  rcases Nat.eq_or_lt_of_le hlong with heq | hlt
  · have hreach : y.reach = 1 := by
      unfold reach
      rw [if_pos (by simp [← heq]; omega)]
    rw [hreach, ← heq]
    norm_num
  · have hsucc : (2 ^ 52 + 1 : ℚ) ≤ y.significand := by exact_mod_cast hlt
    have hreach : (y.reach : ℚ) ≤ 2 := by exact_mod_cast y.reach_le_two
    linarith

theorem not_catches_of_exponent_lt {x y : Binary64} {q : ℚ} (hxy : x.exponent < y.exponent)
    (hx : x.Catches q) (hy : y.Catches q) : False := by
  have hunit : (0 : ℚ) < 2 ^ (x.exponent - 2) := by positivity
  have hstep : (2 : ℚ) * 2 ^ (x.exponent - 2) ≤ 2 ^ (y.exponent - 2) := by
    rw [← zpow_one_add₀ (by norm_num)]
    exact zpow_le_zpow_right₀ (by norm_num) (by omega)
  have hbegin : (2 ^ 55 - 2 : ℚ) * 2 ^ (x.exponent - 2) ≤ y.lower := by
    have hlong := lt_reach_of_lt hxy
    unfold lower
    calc (2 ^ 55 - 2 : ℚ) * 2 ^ (x.exponent - 2)
        = (2 ^ 54 - 1) * (2 * 2 ^ (x.exponent - 2)) := by ring
      _ ≤ (2 ^ 54 - 1) * 2 ^ (y.exponent - 2) := by
        exact mul_le_mul_of_nonneg_left hstep (by norm_num)
      _ ≤ (4 * (y.significand : ℚ) - y.reach) * 2 ^ (y.exponent - 2) := by
        exact mul_le_mul_of_nonneg_right hlong (by positivity)
  have hshort : x.significand < 2 ^ 53 := x.normal.1
  -- the two intervals touch at most in one point, which an odd significand leaves out
  rcases Nat.eq_or_lt_of_le (Nat.le_pred_of_lt hshort) with heq | hlt
  · have hend : x.upper = (2 ^ 55 - 2) * 2 ^ (x.exponent - 2) := by
      unfold upper
      rw [heq]
      norm_num
    have hlt := hx.lt_upper (by rw [heq]; decide)
    have hle := hy.lower_le
    linarith
  · have hsig : (x.significand : ℚ) ≤ 2 ^ 53 - 2 := by
      have hle : x.significand + 2 ≤ 2 ^ 53 := by
        simp only [Nat.pred_eq_sub_one] at hlt
        omega
      have hcast : (x.significand : ℚ) + 2 ≤ 2 ^ 53 := by exact_mod_cast hle
      linarith
    have hend : x.upper < (2 ^ 55 - 2) * 2 ^ (x.exponent - 2) := by
      unfold upper
      exact mul_lt_mul_of_pos_right (by linarith) hunit
    have hle := hy.lower_le
    have hge := hx.le_upper
    linarith

theorem not_catches_of_significand_lt {x y : Binary64} {q : ℚ} (hexp : x.exponent = y.exponent)
    (hsig : x.significand < y.significand) (hx : x.Catches q) (hy : y.Catches q) : False := by
  have hunit : (0 : ℚ) < 2 ^ (x.exponent - 2) := by positivity
  have hreach : (y.reach : ℚ) ≤ 2 := by exact_mod_cast y.reach_le_two
  have hsucc : (x.significand : ℚ) + 1 ≤ y.significand := by exact_mod_cast hsig
  have hmeet : x.upper ≤ y.lower := by
    unfold upper lower
    rw [← hexp]
    exact mul_le_mul_of_nonneg_right (by linarith) hunit.le
  by_cases hodd : x.significand % 2 = 1
  · have hlt := hx.lt_upper hodd
    have hle := hy.lower_le
    linarith
  · by_cases hnext : y.significand = x.significand + 1
    · have hlt := hy.lower_lt (by omega)
      have hle := hx.le_upper
      linarith
    · have hfar : (x.significand : ℚ) + 2 ≤ y.significand := by
        have hle : x.significand + 2 ≤ y.significand := by omega
        exact_mod_cast hle
      have hlt : x.upper < y.lower := by
        unfold upper lower
        rw [← hexp]
        exact mul_lt_mul_of_pos_right (by linarith) hunit
      have hle := hy.lower_le
      have hge := hx.le_upper
      linarith

/-- No two intervals meet: numbers that catch one fraction differ in their sign at most. -/
theorem eq_of_catches {x y : Binary64} {q : ℚ} (hx : x.Catches q) (hy : y.Catches q) :
    x.significand = y.significand ∧ x.exponent = y.exponent := by
  rcases lt_trichotomy x.exponent y.exponent with hlt | heq | hgt
  · exact (not_catches_of_exponent_lt hlt hx hy).elim
  · rcases Nat.lt_trichotomy x.significand y.significand with hlt | hsig | hgt
    · exact (not_catches_of_significand_lt heq hlt hx hy).elim
    · exact ⟨hsig, heq⟩
    · exact (not_catches_of_significand_lt heq.symm hgt hy hx).elim
  · exact (not_catches_of_exponent_lt hgt hy hx).elim

/-! ## The test on the grid -/

namespace Rounding

theorem onGrid_spec (r : Rounding) (d : Nat) (k : Int) :
    0 < (r.onGrid d k).2 ∧
      ((r.onGrid d k).1 : ℚ) = d * 10 ^ k * r.denominator * (r.onGrid d k).2 := by
  unfold onGrid
  by_cases hk : k < 0
  · have hcancel : (10 : ℚ) ^ k * 10 ^ k.natAbs = 1 := by
      rw [← zpow_natCast, ← zpow_add₀ (by norm_num), show k + (k.natAbs : ℤ) = 0 by omega, zpow_zero]
    rw [if_pos hk]
    refine ⟨by positivity, ?_⟩
    push_cast
    calc (d : ℚ) * r.denominator = d * r.denominator * (10 ^ k * 10 ^ k.natAbs) := by rw [hcancel, mul_one]
      _ = d * 10 ^ k * r.denominator * 10 ^ k.natAbs := by ring
  · have hpower : (10 : ℚ) ^ k = 10 ^ k.natAbs := by
      rw [← zpow_natCast, show (k.natAbs : ℤ) = k by omega]
    rw [if_neg hk, hpower]
    refine ⟨Nat.one_pos, ?_⟩
    push_cast
    ring

/-- Comparing numerators on the grid compares the fractions. -/
theorem le_onGrid_iff (r : Rounding) (hden : 0 < r.denominator) (n d : Nat) (k : Int) :
    n * (r.onGrid d k).2 ≤ (r.onGrid d k).1 ↔ (n : ℚ) / r.denominator ≤ d * 10 ^ k := by
  obtain ⟨hpos, heq⟩ := r.onGrid_spec d k
  have hfactor : (0 : ℚ) < (r.onGrid d k).2 := by exact_mod_cast hpos
  have hden : (0 : ℚ) < r.denominator := by exact_mod_cast hden
  rw [div_le_iff₀ hden, ← mul_le_mul_iff_left₀ hfactor, ← heq]
  exact_mod_cast Iff.rfl

theorem onGrid_le_iff (r : Rounding) (hden : 0 < r.denominator) (n d : Nat) (k : Int) :
    (r.onGrid d k).1 ≤ n * (r.onGrid d k).2 ↔ (d : ℚ) * 10 ^ k ≤ n / r.denominator := by
  obtain ⟨hpos, heq⟩ := r.onGrid_spec d k
  have hfactor : (0 : ℚ) < (r.onGrid d k).2 := by exact_mod_cast hpos
  have hden : (0 : ℚ) < r.denominator := by exact_mod_cast hden
  rw [le_div_iff₀ hden, ← mul_le_mul_iff_left₀ hfactor, ← heq]
  exact_mod_cast Iff.rfl

end Rounding

/-- The unit of the last place, taken apart into the factors of numerators and denominators. -/
theorem rounding_scale (x : Binary64) (n : Nat) :
    ((n * (if x.exponent - 2 < 0 then 1 else 2 ^ (x.exponent - 2).natAbs) : Nat) : ℚ) / x.rounding.denominator =
      n * 2 ^ (x.exponent - 2) := by
  unfold rounding
  dsimp only
  by_cases he : x.exponent - 2 < 0
  · rw [if_pos he, if_pos he]
    have hinv : (2 : ℚ) ^ (x.exponent - 2) = (2 ^ (x.exponent - 2).natAbs)⁻¹ := by
      rw [← zpow_natCast, ← zpow_neg, show -((x.exponent - 2).natAbs : ℤ) = x.exponent - 2 by omega]
    rw [hinv]
    push_cast
    rw [mul_one, div_eq_mul_inv]
  · rw [if_neg he, if_neg he]
    have hpower : (2 : ℚ) ^ (x.exponent - 2) = 2 ^ (x.exponent - 2).natAbs := by
      rw [← zpow_natCast, show ((x.exponent - 2).natAbs : ℤ) = x.exponent - 2 by omega]
    rw [hpower]
    push_cast
    rw [div_one]

theorem rounding_denominator_pos (x : Binary64) : 0 < x.rounding.denominator := by
  unfold rounding
  dsimp only
  split
  · positivity
  · decide

theorem rounding_low {x : Binary64} (h : x.isZero = false) :
    (x.rounding.low : ℚ) / x.rounding.denominator = x.lower := by
  have hone := one_le_significand h
  have hreach := x.reach_le_two
  have hcast : ((4 * x.significand - x.reach : Nat) : ℚ) = 4 * (x.significand : ℚ) - x.reach := by
    rw [Nat.cast_sub (by omega)]
    push_cast
    ring
  rw [lower, ← hcast, ← rounding_scale]
  rfl

theorem rounding_high (x : Binary64) : (x.rounding.high : ℚ) / x.rounding.denominator = x.upper := by
  have hcast : ((4 * x.significand + 2 : Nat) : ℚ) = 4 * (x.significand : ℚ) + 2 := by push_cast; ring
  rw [upper, ← hcast, ← rounding_scale]
  rfl

/-- The test on numerators and denominators says whether a decimal lies in the interval. -/
theorem rounding_holds_iff {x : Binary64} (h : x.isZero = false) (d : Nat) (k : Int) :
    x.rounding.holds d k = true ↔ x.Catches (d * 10 ^ k) := by
  have hden := x.rounding_denominator_pos
  have hclosed : x.rounding.closed = (x.significand % 2 == 0) := rfl
  have hlow := x.rounding.le_onGrid_iff hden x.rounding.low d k
  have hhigh := x.rounding.onGrid_le_iff hden x.rounding.high d k
  have hlow' := x.rounding.onGrid_le_iff hden x.rounding.low d k
  have hhigh' := x.rounding.le_onGrid_iff hden x.rounding.high d k
  rw [rounding_low h] at hlow hlow'
  rw [rounding_high] at hhigh hhigh'
  unfold Rounding.holds Catches
  by_cases heven : x.significand % 2 = 0
  · rw [if_pos heven]
    simp only [hclosed, heven, beq_self_eq_true, if_true, Bool.and_eq_true, decide_eq_true_eq]
    rw [hlow, hhigh]
  · rw [if_neg heven]
    simp only [hclosed, beq_eq_false_iff_ne.mpr heven, Bool.false_eq_true, if_false, Bool.and_eq_true,
      decide_eq_true_eq]
    rw [← Nat.not_le, ← Nat.not_le, hlow', hhigh', not_le, not_le]

/-! ## The shortest decimal -/

theorem withDigits?_holds {r : Rounding} {p : Int} {n d : Nat} {k : Int}
    (h : r.withDigits? p n = some (d, k)) : r.holds d k = true := by
  unfold Rounding.withDigits? at h
  dsimp only at h
  split at h
  · obtain ⟨rfl, rfl⟩ := Prod.mk.inj (Option.some.inj h)
    assumption
  · obtain ⟨rfl, rfl⟩ := Prod.mk.inj (Option.some.inj h)
    assumption
  · simp at h
  · split at h
    · obtain ⟨rfl, rfl⟩ := Prod.mk.inj (Option.some.inj h)
      assumption
    · obtain ⟨rfl, rfl⟩ := Prod.mk.inj (Option.some.inj h)
      assumption

/-- All digits of a number stand for the number itself. -/
theorem allDigits_value (x : Binary64) :
    (x.allDigits.1 : ℚ) * 10 ^ x.allDigits.2 = x.significand * 2 ^ x.exponent := by
  unfold allDigits
  by_cases he : x.exponent < 0
  · have hcancel : (5 : ℚ) ^ x.exponent.natAbs * 5 ^ x.exponent = 1 := by
      rw [← zpow_natCast, ← zpow_add₀ (by norm_num), show (x.exponent.natAbs : ℤ) + x.exponent = 0 by omega,
        zpow_zero]
    rw [if_pos he, show (10 : ℚ) = 5 * 2 by norm_num, mul_zpow]
    push_cast
    calc (x.significand : ℚ) * 5 ^ x.exponent.natAbs * (5 ^ x.exponent * 2 ^ x.exponent)
        = x.significand * (5 ^ x.exponent.natAbs * 5 ^ x.exponent) * 2 ^ x.exponent := by ring
      _ = x.significand * 2 ^ x.exponent := by rw [hcancel, mul_one]
  · rw [if_neg he]
    push_cast
    rw [mul_one, ← zpow_natCast, show (x.exponent.natAbs : ℤ) = x.exponent by omega]

theorem catches_allDigits (x : Binary64) : x.Catches (x.allDigits.1 * 10 ^ x.allDigits.2) := by
  have hunit : (0 : ℚ) < 2 ^ (x.exponent - 2) := by positivity
  have hreach : (0 : ℚ) < x.reach := by exact_mod_cast x.reach_pos
  have hvalue : (x.significand : ℚ) * 2 ^ x.exponent = 4 * x.significand * 2 ^ (x.exponent - 2) := by
    rw [show x.exponent = 2 + (x.exponent - 2) by omega, zpow_add₀ (by norm_num)]
    norm_num
    ring
  rw [allDigits_value, hvalue]
  apply catches_of_lt
  · unfold lower
    exact mul_lt_mul_of_pos_right (by linarith) hunit
  · unfold upper
    exact mul_lt_mul_of_pos_right (by linarith) hunit

/-- Dropping zeros at the end keeps the value. -/
theorem stripZeros_value (fuel d : Nat) (k : Int) :
    ((stripZeros fuel d k).1 : ℚ) * 10 ^ (stripZeros fuel d k).2 = d * 10 ^ k := by
  induction fuel generalizing d k with
  | zero => rfl
  | succ fuel ih =>
    unfold stripZeros
    split
    · rename_i hzero
      have hmod : d % 10 = 0 := by
        simp only [Bool.and_eq_true, beq_iff_eq] at hzero
        exact hzero.2
      have hten : (d : ℚ) = 10 * (d / 10 : Nat) := by
        have hnat : d = 10 * (d / 10) := by omega
        exact_mod_cast hnat
      rw [ih, hten, zpow_add_one₀ (by norm_num)]
      ring
    · rfl

/-- The shortest decimal of a number lies in its interval. -/
theorem catches_shortest {x : Binary64} (h : x.isZero = false) : x.Catches x.shortest.value := by
  unfold shortest Digits.value
  dsimp only
  rw [add_sub_cancel_right, stripZeros_value]
  cases hsome : (List.range 17).findSome? fun i => x.rounding.withDigits? x.rounding.point (i + 1) with
  | none => exact x.catches_allDigits
  | some found =>
    obtain ⟨d, k⟩ := found
    obtain ⟨i, -, hi⟩ := List.exists_of_findSome?_eq_some hsome
    exact (rounding_holds_iff h d k).mp (withDigits?_holds hi)

/-- The decimal that is written for a number. -/
def decimal (x : Binary64) : ℚ := if x.isZero then 0 else x.shortest.value

/-- Numbers with the same sign and the same decimal are the same. -/
theorem eq_of_decimal {x y : Binary64} (hsign : x.negative = y.negative) (h : x.decimal = y.decimal) : x = y := by
  have hparts : x.significand = y.significand ∧ x.exponent = y.exponent := by
    unfold decimal at h
    cases hx : x.isZero <;> cases hy : y.isZero <;> simp only [hx, hy, if_true, Bool.false_eq_true, if_false] at h
    · have hcatch := catches_shortest hy
      rw [← h] at hcatch
      exact eq_of_catches (catches_shortest hx) hcatch
    · have hpos := lower_pos hx
      have hle := (catches_shortest hx).lower_le
      rw [h] at hle
      linarith
    · have hpos := lower_pos hy
      have hle := (catches_shortest hy).lower_le
      rw [← h] at hle
      linarith
    · simp only [isZero, beq_iff_eq] at hx hy
      have hxexp := x.normal.2.2.2.resolve_left (by omega)
      have hyexp := y.normal.2.2.2.resolve_left (by omega)
      exact ⟨hx.trans hy.symm, hxexp.trans hyexp.symm⟩
  obtain ⟨_, _, _, _⟩ := x
  obtain ⟨_, _, _, _⟩ := y
  simp only at hsign hparts
  simp only [hsign, hparts.1, hparts.2]

end Binary64

end JsonSchema
