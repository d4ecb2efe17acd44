import Mathlib.Algebra.Order.Ring.Int
import JsonSchema.Proofs.Json.Equality

/-!
# Whole numbers as floating-point numbers

A floating-point number has 53 significant bits, so a whole number with more of them is rounded when it is taken as one.
The rounding can be said without floating-point numbers: it goes to the nearest multiple of a power of two.

## What is here

* `Binary64.roundQuotient_mono` — a greater quotient is not rounded to a smaller number.
* `nearestMagnitude`, `nearestWhole` — the nearest whole number with 53 significant bits, ties to even. It is the number
  itself up to `2 ^ 53`, and greater for no smaller number: `nearestWhole_of_small`, `nearestWhole_mono`.
* `Binary64.exists_ofInt?` — **a whole number is taken as its nearest one**.
* `Binary64.lt_iff` — the comparison of floating-point numbers as one of whole numbers.
-/

set_option autoImplicit false

namespace JsonSchema

namespace Binary64

/-! ## Rounded quotients -/

/-- A greater quotient is not rounded to a smaller number. -/
theorem roundQuotient_mono {a b : Nat} (d : Nat) (h : a ≤ b) : roundQuotient a d ≤ roundQuotient b d := by
  have hquotient : a / d ≤ b / d := Nat.div_le_div_right h
  rcases Nat.lt_or_eq_of_le hquotient with hlt | heq
  · unfold roundQuotient
    dsimp only
    split <;> split <;> omega
  · -- with the same whole part the greater remainder decides
    have hrest : a % d ≤ b % d := by
      have ha := Nat.div_add_mod a d
      have hb := Nat.div_add_mod b d
      rw [heq] at ha
      omega
    unfold roundQuotient
    dsimp only
    rw [heq]
    simp only [Bool.or_eq_true, Bool.and_eq_true, decide_eq_true_eq, beq_iff_eq]
    split <;> split <;> omega

/-- A whole quotient is not rounded. -/
theorem roundQuotient_mul (m : Nat) {d : Nat} (hd : 0 < d) : roundQuotient (m * d) d = m := by
  have hne : (0 == d) = false := beq_eq_false_iff_ne.mpr (by omega)
  simp [roundQuotient, Nat.mul_div_cancel _ hd, hne]

end Binary64

/-! ## The nearest whole number with 53 significant bits -/

open Binary64

/-- The value of the last of the 53 bits. -/
def lastPlace (n : Nat) : Nat := 2 ^ (n.log2 - 52)

/-- The nearest multiple of the last place, a tie to the even one. -/
def nearestMagnitude (n : Nat) : Nat := roundQuotient n (lastPlace n) * lastPlace n

/-- The nearest whole number with 53 significant bits, a tie to the even one. -/
def nearestWhole (n : Int) : Int :=
  if n < 0 then -(nearestMagnitude n.natAbs : Int) else nearestMagnitude n.natAbs

theorem lastPlace_pos (n : Nat) : 0 < lastPlace n := Nat.two_pow_pos _

/-- What is a multiple of the last place stays as it is. -/
theorem nearestMagnitude_of_dvd {n : Nat} (h : lastPlace n ∣ n) : nearestMagnitude n = n := by
  have hrounded := roundQuotient_mul (n / lastPlace n) (lastPlace_pos n)
  rw [Nat.div_mul_cancel h] at hrounded
  rw [nearestMagnitude, hrounded, Nat.div_mul_cancel h]

theorem nearestMagnitude_of_small {n : Nat} (h : n ≤ 2 ^ 53) : nearestMagnitude n = n := by
  apply nearestMagnitude_of_dvd
  rcases Nat.lt_or_eq_of_le h with hlt | rfl
  · have hlog : n.log2 - 52 = 0 := by
      rcases Nat.eq_zero_or_pos n with rfl | hpos
      · decide
      · have := (Nat.log2_lt (by omega)).mpr hlt
        omega
    simp [lastPlace, hlog]
  · decide

/-- The rounded number stays in the binade of the number, or is the first one behind it. -/
theorem le_nearestMagnitude {n : Nat} (h : n ≠ 0) : 2 ^ n.log2 ≤ nearestMagnitude n := by
  have hlow := Nat.log2_self_le h
  by_cases hlog : n.log2 ≤ 52
  · have hsmall : n ≤ 2 ^ 53 := by
      have := (Nat.log2_lt h).mp (show n.log2 < 53 by omega)
      omega
    rw [nearestMagnitude_of_small hsmall]
    exact hlow
  · have hsplit : 2 ^ n.log2 = 2 ^ 52 * lastPlace n := by
      rw [lastPlace, ← Nat.pow_add, show 52 + (n.log2 - 52) = n.log2 by omega]
    rw [hsplit] at hlow ⊢
    exact Nat.mul_le_mul_right _ (le_roundQuotient (lastPlace_pos n) (by rwa [Nat.mul_comm]))

theorem nearestMagnitude_le (n : Nat) : nearestMagnitude n ≤ 2 ^ (n.log2 + 1) := by
  have hhigh := @Nat.lt_log2_self n
  by_cases hlog : n.log2 ≤ 52
  · have hsmall : n ≤ 2 ^ 53 := by
      have := Nat.pow_le_pow_right (show 0 < 2 by decide) (show n.log2 + 1 ≤ 53 by omega)
      omega
    rw [nearestMagnitude_of_small hsmall]
    exact hhigh.le
  · have hsplit : 2 ^ (n.log2 + 1) = 2 ^ 53 * lastPlace n := by
      rw [lastPlace, ← Nat.pow_add, show 53 + (n.log2 - 52) = n.log2 + 1 by omega]
    rw [hsplit] at hhigh ⊢
    exact Nat.mul_le_mul_right _ (roundQuotient_le (by rwa [Nat.mul_comm]))

theorem nearestMagnitude_mono {a b : Nat} (h : a ≤ b) : nearestMagnitude a ≤ nearestMagnitude b := by
  rcases Nat.eq_zero_or_pos a with rfl | ha
  · rw [nearestMagnitude_of_small (by decide)]
    exact Nat.zero_le _
  · have hlog : a.log2 ≤ b.log2 := (Nat.le_log2 (by omega)).mpr ((Nat.log2_self_le (by omega)).trans h)
    rcases Nat.lt_or_eq_of_le hlog with hlt | heq
    · calc nearestMagnitude a
          ≤ 2 ^ (a.log2 + 1) := nearestMagnitude_le a
        _ ≤ 2 ^ b.log2 := Nat.pow_le_pow_right (by decide) hlt
        _ ≤ nearestMagnitude b := le_nearestMagnitude (by omega)
    · have hplace : lastPlace a = lastPlace b := by rw [lastPlace, lastPlace, heq]
      rw [nearestMagnitude, nearestMagnitude, hplace]
      exact Nat.mul_le_mul_right _ (roundQuotient_mono _ h)

/-- Up to `2 ^ 53` nothing is rounded. -/
theorem nearestWhole_of_small {n : Int} (h : n.natAbs ≤ 2 ^ 53) : nearestWhole n = n := by
  rw [nearestWhole, nearestMagnitude_of_small h]
  split <;> omega

/-- A greater number is not rounded to a smaller one. -/
theorem nearestWhole_mono {m n : Int} (h : m ≤ n) : nearestWhole m ≤ nearestWhole n := by
  unfold nearestWhole
  split <;> split
  · have := nearestMagnitude_mono (show n.natAbs ≤ m.natAbs by omega)
    omega
  · omega
  · omega
  · have := nearestMagnitude_mono (show m.natAbs ≤ n.natAbs by omega)
    omega

/-! ## Whole numbers taken as floating-point numbers -/

namespace Binary64

/-- The exponent that a whole number is rounded with. -/
theorem binade_whole {n : Nat} (h : n ≠ 0) : binade n 1 = (n.log2 : Int) - 52 := by
  have hlow := Nat.log2_self_le h
  have hlong : ¬ (unscale n 1 ((n.log2 : Int) - 52)).1 < (unscale n 1 ((n.log2 : Int) - 52)).2 * 2 ^ 52 := by
    unfold unscale
    split
    · have hsum : 2 ^ n.log2 * 2 ^ ((n.log2 : Int) - 52).natAbs = 2 ^ 52 := by
        rw [← Nat.pow_add, show n.log2 + ((n.log2 : Int) - 52).natAbs = 52 by omega]
      have hscaled := Nat.mul_le_mul_right (2 ^ ((n.log2 : Int) - 52).natAbs) hlow
      omega
    · have hsum : 2 ^ ((n.log2 : Int) - 52).natAbs * 2 ^ 52 = 2 ^ n.log2 := by
        rw [← Nat.pow_add, show ((n.log2 : Int) - 52).natAbs + 52 = n.log2 by omega]
      rw [Nat.one_mul, hsum]
      omega
  unfold binade
  rw [show Nat.log2 1 = 0 from rfl, Nat.cast_zero, sub_zero]
  exact if_neg hlong

/-- A significand that is made one bit shorter stands for the same number. -/
theorem carry_mul_pow {m : Nat} {e f : Int} (he : f ≤ e) :
    (carry m e).1 * 2 ^ ((carry m e).2 - f).toNat = m * 2 ^ (e - f).toNat := by
  unfold carry
  split
  · rename_i hm
    rw [beq_iff_eq.mp hm, show (e + 1 - f).toNat = (e - f).toNat + 1 by omega, Nat.pow_succ]
    ring
  · rfl

/-- The rounded quotient of a whole number by the last place of its binade, which may lie behind the point. -/
theorem roundQuotient_unscale {n : Nat} {f : Int} (hf : f ≤ -52) :
    roundQuotient (unscale n 1 ((n.log2 : Int) - 52)).1 (unscale n 1 ((n.log2 : Int) - 52)).2 *
      2 ^ ((n.log2 : Int) - 52 - f).toNat = nearestMagnitude n * 2 ^ (-f).toNat := by
  unfold unscale
  split
  · rename_i hneg
    have hsmall : n ≤ 2 ^ 53 := by
      have := @Nat.lt_log2_self n
      have := Nat.pow_le_pow_right (show 0 < 2 by decide) (show n.log2 + 1 ≤ 53 by omega)
      omega
    have hwhole := roundQuotient_mul (n * 2 ^ ((n.log2 : Int) - 52).natAbs) Nat.one_pos
    rw [Nat.mul_one] at hwhole
    rw [nearestMagnitude_of_small hsmall]
    dsimp only
    rw [hwhole, Nat.mul_assoc, ← Nat.pow_add]
    congr 2
    omega
  · have hplace : 2 ^ ((n.log2 : Int) - 52).natAbs = lastPlace n := by
      rw [lastPlace]
      congr 1
      omega
    have hshift : 2 ^ ((n.log2 : Int) - 52 - f).toNat = lastPlace n * 2 ^ (-f).toNat := by
      rw [lastPlace, ← Nat.pow_add]
      congr 1
      omega
    dsimp only
    rw [Nat.one_mul, hplace, hshift, nearestMagnitude, Nat.mul_assoc]

theorem rounded_eq (num den : Nat) : rounded num den =
    carry (roundQuotient (unscale num den (roundingExponent num den)).1 (unscale num den (roundingExponent num den)).2)
      (roundingExponent num den) := rfl

theorem carry_le (m : Nat) (e : Int) : (carry m e).2 ≤ e + 1 := by
  unfold carry
  split <;> dsimp only <;> omega

/-- A whole number is rounded to its nearest one; both are taken as multiples of a small unit. -/
theorem rounded_whole {n : Nat} (h : n ≠ 0) {f : Int} (hf : f ≤ -52) :
    (rounded n 1).1 * 2 ^ ((rounded n 1).2 - f).toNat = nearestMagnitude n * 2 ^ (-f).toNat ∧
      (rounded n 1).2 ≤ (n.log2 : Int) - 51 := by
  have hexponent : roundingExponent n 1 = (n.log2 : Int) - 52 := by
    rw [roundingExponent, binade_whole h, minExponent]
    omega
  have hcarry := carry_le (roundQuotient (unscale n 1 ((n.log2 : Int) - 52)).1 (unscale n 1 ((n.log2 : Int) - 52)).2)
    ((n.log2 : Int) - 52)
  rw [rounded_eq, hexponent]
  exact ⟨by rw [carry_mul_pow (by omega), roundQuotient_unscale hf], by omega⟩

theorem exists_ofParts? (negative : Bool) {parts : Nat × Int} (h : parts.2 ≤ maxExponent → IsNormal parts.1 parts.2)
    (hmax : parts.2 ≤ maxExponent) : ∃ x, ofParts? negative parts h = some x ∧ x.negative = negative ∧
      x.significand = parts.1 ∧ x.exponent = parts.2 :=
  ⟨_, dif_pos hmax, rfl, rfl, rfl⟩

/-- A natural number of at most 65 bits is taken as its nearest one. -/
theorem exists_ofRatio?_whole (negative : Bool) {n : Nat} (hn : n < 2 ^ 65) {f : Int} (hf : f ≤ -52) :
    ∃ x, ofRatio? negative n 1 = some x ∧ x.negative = negative ∧
      x.significand * 2 ^ (x.exponent - f).toNat = nearestMagnitude n * 2 ^ (-f).toNat := by
  by_cases h : n = 0
  · subst h
    have hzero : ofRatio? negative 0 1 = some (zero negative) := dif_neg (by simp)
    have hsignificand : (zero negative).significand = 0 := rfl
    refine ⟨zero negative, hzero, rfl, ?_⟩
    rw [nearestMagnitude_of_small (Nat.zero_le _), hsignificand, Nat.zero_mul, Nat.zero_mul]
  · obtain ⟨hvalue, hle⟩ := rounded_whole h hf
    have hlog := (Nat.log2_lt h).mpr hn
    have hmax : (rounded n 1).2 ≤ maxExponent := by
      unfold maxExponent
      omega
    obtain ⟨x, hx, hsign, hsignificand, hexponent⟩ :=
      exists_ofParts? negative (rounded_normal h Nat.one_ne_zero) hmax
    refine ⟨x, ?_, hsign, ?_⟩
    · rw [ofRatio?, dif_pos ⟨h, Nat.one_ne_zero⟩, hx]
    · rw [hsignificand, hexponent, hvalue]

/-- The comparison of numbers as one of multiples of the least number. -/
theorem lt_iff {x y : Binary64} : x.lt y = true ↔ x.units < y.units := by
  have hmin : minExponent ≤ min x.exponent y.exponent := le_min x.normal.2.1 y.normal.2.1
  have hpow : (0 : Int) < 2 ^ (min x.exponent y.exponent - minExponent).toNat := pow_pos (by decide) _
  rw [lt, decide_eq_true_eq, units, units, ← scaledTo_mul_pow hmin (min_le_left _ _),
    ← scaledTo_mul_pow hmin (min_le_right _ _), mul_lt_mul_iff_left₀ hpow]

/-- A whole number is taken as its nearest one. -/
theorem exists_ofInt? {n : Int} (hn : n.natAbs < 2 ^ 65) :
    ∃ x, ofInt? n = some x ∧ x.units = nearestWhole n * 2 ^ (-minExponent).toNat := by
  obtain ⟨x, hx, hsign, hvalue⟩ := exists_ofRatio?_whole (n < 0) hn (show minExponent ≤ -52 by decide)
  have hvalue : (x.significand : Int) * 2 ^ (x.exponent - minExponent).toNat =
      nearestMagnitude n.natAbs * 2 ^ (-minExponent).toNat := by exact_mod_cast hvalue
  refine ⟨x, hx, ?_⟩
  rw [units, scaledTo, signed, hsign, nearestWhole]
  by_cases hneg : n < 0
  · simp only [hneg, decide_true, if_true, neg_mul, hvalue]
  · simp only [hneg, decide_false, Bool.false_eq_true, if_false, hvalue]

/-- Whole numbers compare as floating-point numbers like their nearest ones. -/
theorem ofInt?_compare {m n : Int} {x y : Binary64} (hm : m.natAbs < 2 ^ 65) (hn : n.natAbs < 2 ^ 65)
    (hx : ofInt? m = some x) (hy : ofInt? n = some y) :
    (x.lt y = true ↔ nearestWhole m < nearestWhole n) ∧ (x.numEq y = true ↔ nearestWhole m = nearestWhole n) := by
  obtain ⟨x', hx', hxunits⟩ := exists_ofInt? hm
  obtain ⟨y', hy', hyunits⟩ := exists_ofInt? hn
  obtain rfl : x' = x := Option.some.inj (hx'.symm.trans hx)
  obtain rfl : y' = y := Option.some.inj (hy'.symm.trans hy)
  have hpow : (0 : Int) < 2 ^ (-minExponent).toNat := pow_pos (by decide) _
  rw [lt_iff, numEq_iff, hxunits, hyunits, mul_lt_mul_iff_left₀ hpow, mul_left_inj' hpow.ne']
  exact ⟨Iff.rfl, Iff.rfl⟩

end Binary64

end JsonSchema
