import JsonSchema.Number.Power

/-!
# Binary floating-point numbers of 64 bits

Finite floating-point numbers as exact dyadic fractions, with the operations on them carried out in
exact integer arithmetic and rounded once, to nearest with ties to even.

## What is here

* `Binary64` — a sign, a significand and a binary exponent in normal form; the number is
  `± significand · 2 ^ exponent`.
* `Binary64.rounded` — the significand and exponent nearest to a fraction, `Binary64.rounded_normal`.
* `Binary64.ofRatio?` — **the rounding**: the number nearest to a fraction, or nothing when the fraction
  lies beyond the largest finite number.
* `Binary64.ofInt?`, `mul?`, `div?`, `sub?` — one exact operation followed by one rounding.
* `Binary64.rem?` — the remainder of the division that rounds towards zero; it is exact.
* `Binary64.lt`, `Binary64.numEq` — comparison of the numbers meant, so `-0.0` and `0.0` are equal.
-/

set_option autoImplicit false

namespace JsonSchema

namespace Binary64

/-- The least exponent of a normal form. -/
def minExponent : Int := -1074

/-- The greatest exponent of a normal form. -/
def maxExponent : Int := 971

/-- The normal form: the significand has at most 53 bits, and exactly 53 of them above the least exponent. So
every finite number has one significand and exponent. -/
def IsNormal (significand : Nat) (exponent : Int) : Prop :=
  significand < 2 ^ 53 ∧ minExponent ≤ exponent ∧ exponent ≤ maxExponent ∧
    (2 ^ 52 ≤ significand ∨ exponent = minExponent)

instance (significand : Nat) (exponent : Int) : Decidable (IsNormal significand exponent) :=
  inferInstanceAs (Decidable (_ ∧ _))

end Binary64

/-- The finite number `± significand · 2 ^ exponent`. -/
structure Binary64 where
  negative : Bool
  significand : Nat
  exponent : Int
  normal : Binary64.IsNormal significand exponent
deriving DecidableEq, Repr

namespace Binary64

/-- Zero, with either sign. -/
def zero (negative : Bool) : Binary64 := ⟨negative, 0, minExponent, by decide⟩

instance : Inhabited Binary64 := ⟨zero false⟩

/-- Both zeros are zero. -/
def isZero (x : Binary64) : Bool := x.significand == 0

/-! ## Rounding -/

/-- The quotient rounded to the nearest whole number, a tie to the even one. -/
def roundQuotient (num den : Nat) : Nat :=
  let q := num / den
  let r := num % den
  if 2 * r > den || (2 * r == den && q % 2 == 1) then q + 1 else q

/-- The fraction `num / den` divided by `2 ^ e`, as a fraction again. -/
def unscale (num den : Nat) (e : Int) : Nat × Nat :=
  if e < 0 then (num * 2 ^ e.natAbs, den) else (num, den * 2 ^ e.natAbs)

/-- The exponent of the binade that holds `num / den`: the quotient by its power of two has 53 bits. The
logarithms leave two candidates, of which the greater is right unless the quotient falls short. -/
def binade (num den : Nat) : Int :=
  let e : Int := (num.log2 : Int) - (den.log2 : Int) - 52
  let (n, d) := unscale num den e
  if n < d * 2 ^ 52 then e - 1 else e

/-- A significand that rounding has made one bit too long, halved. -/
def carry (m : Nat) (e : Int) : Nat × Int := if m == 2 ^ 53 then (2 ^ 52, e + 1) else (m, e)

/-- The exponent with which a quotient is rounded. -/
def roundingExponent (num den : Nat) : Int := max (binade num den) minExponent

/-- The significand and the exponent nearest to `num / den`, ties to even. -/
def rounded (num den : Nat) : Nat × Int :=
  let scaled := unscale num den (roundingExponent num den)
  carry (roundQuotient scaled.1 scaled.2) (roundingExponent num den)

/-! ### Rounding gives normal forms -/

theorem le_roundQuotient {k num den : Nat} (hden : 0 < den) (h : den * k ≤ num) : k ≤ roundQuotient num den := by
  have hq : k ≤ num / den := (Nat.le_div_iff_mul_le hden).mpr (by rw [Nat.mul_comm]; exact h)
  unfold roundQuotient
  dsimp only
  split <;> omega

theorem roundQuotient_le {k num den : Nat} (h : num < den * k) : roundQuotient num den ≤ k := by
  have hq : num / den < k := Nat.div_lt_of_lt_mul h
  unfold roundQuotient
  dsimp only
  split <;> omega

theorem unscale_pos {num den : Nat} (e : Int) (hden : 0 < den) : 0 < (unscale num den e).2 := by
  unfold unscale
  split
  · exact hden
  · exact Nat.mul_pos hden (Nat.two_pow_pos _)

/-- A greater exponent leaves a smaller quotient. -/
theorem unscale_lt_of_le {num den k : Nat} {e f : Int} (hef : e ≤ f)
    (h : (unscale num den e).1 < (unscale num den e).2 * k) :
    (unscale num den f).1 < (unscale num den f).2 * k := by
  unfold unscale at h ⊢
  by_cases hf : f < 0
  · have he : e < 0 := by omega
    rw [if_pos he] at h
    rw [if_pos hf]
    have hpow : 2 ^ f.natAbs ≤ 2 ^ e.natAbs := Nat.pow_le_pow_right (by decide) (by omega)
    exact Nat.lt_of_le_of_lt (Nat.mul_le_mul_left num hpow) h
  · rw [if_neg hf]
    by_cases he : e < 0
    · rw [if_pos he] at h
      have hnum : num ≤ num * 2 ^ e.natAbs := Nat.le_mul_of_pos_right num (Nat.two_pow_pos _)
      have hden : den ≤ den * 2 ^ f.natAbs := Nat.le_mul_of_pos_right den (Nat.two_pow_pos _)
      exact Nat.lt_of_le_of_lt hnum (Nat.lt_of_lt_of_le h (Nat.mul_le_mul_right k hden))
    · rw [if_neg he] at h
      have hpow : 2 ^ e.natAbs ≤ 2 ^ f.natAbs := Nat.pow_le_pow_right (by decide) (by omega)
      exact Nat.lt_of_lt_of_le h (Nat.mul_le_mul_right k (Nat.mul_le_mul_left den hpow))

/-- The next lower exponent doubles the quotient. -/
theorem unscale_pred {num den k l : Nat} {e : Int} (hlow : (unscale num den e).2 * k ≤ (unscale num den e).1)
    (hhigh : (unscale num den e).1 < (unscale num den e).2 * l) :
    (unscale num den (e - 1)).2 * (2 * k) ≤ (unscale num den (e - 1)).1 ∧
      (unscale num den (e - 1)).1 < (unscale num den (e - 1)).2 * (2 * l) := by
  have hdouble (a b : Nat) : a * (2 * b) = 2 * (a * b) := Nat.mul_left_comm a 2 b
  rw [hdouble, hdouble]
  by_cases he : 0 < e
  · have hsucc : e.natAbs = (e - 1).natAbs + 1 := by omega
    have hden : den * 2 ^ e.natAbs = 2 * (den * 2 ^ (e - 1).natAbs) := by
      rw [hsucc, Nat.pow_succ, Nat.mul_comm _ 2, hdouble]
    simp only [unscale, if_neg (show ¬ e < 0 by omega), if_neg (show ¬ e - 1 < 0 by omega), hden,
      Nat.mul_assoc] at hlow hhigh ⊢
    exact ⟨hlow, hhigh⟩
  · have hnum : num * 2 ^ (e - 1).natAbs = 2 * (num * 2 ^ e.natAbs) := by
      rw [show (e - 1).natAbs = e.natAbs + 1 by omega, Nat.pow_succ, Nat.mul_comm _ 2, hdouble]
    have hsame : unscale num den e = (num * 2 ^ e.natAbs, den) := by
      by_cases hneg : e < 0
      · exact if_pos hneg
      · have hzero : e = 0 := by omega
        subst hzero
        simp [unscale]
    simp only [hsame] at hlow hhigh
    simp only [unscale, if_pos (show e - 1 < 0 by omega), hnum]
    omega

/-- With the exponent of its binade a quotient has 53 bits. -/
theorem binade_spec {num den : Nat} (hnum : num ≠ 0) (hden : den ≠ 0) :
    (unscale num den (binade num den)).2 * 2 ^ 52 ≤ (unscale num den (binade num den)).1 ∧
      (unscale num den (binade num den)).1 < (unscale num den (binade num den)).2 * 2 ^ 53 := by
  have hnumLow := Nat.log2_self_le hnum
  have hnumHigh := @Nat.lt_log2_self num
  have hdenLow := Nat.log2_self_le hden
  have hdenHigh := @Nat.lt_log2_self den
  generalize ha : num.log2 = a at hnumLow hnumHigh
  generalize hb : den.log2 = b at hdenLow hdenHigh
  -- before the correction the quotient lies within a factor of two
  have hcandidate : (unscale num den ((a : Int) - b - 52)).2 * 2 ^ 51 ≤ (unscale num den ((a : Int) - b - 52)).1 ∧
      (unscale num den ((a : Int) - b - 52)).1 < (unscale num den ((a : Int) - b - 52)).2 * 2 ^ 53 := by
    generalize he : (a : Int) - b - 52 = e
    unfold unscale
    by_cases hneg : e < 0
    · rw [if_pos hneg]
      have hk : a + e.natAbs = b + 52 := by omega
      have hlow : 2 ^ (b + 1) * 2 ^ 51 ≤ num * 2 ^ e.natAbs := by
        rw [← Nat.pow_add, show b + 1 + 51 = a + e.natAbs by omega, Nat.pow_add]
        exact Nat.mul_le_mul_right _ hnumLow
      have hhigh : num * 2 ^ e.natAbs < 2 ^ b * 2 ^ 53 := by
        rw [← Nat.pow_add, show b + 53 = a + 1 + e.natAbs by omega, Nat.pow_add 2 (a + 1)]
        exact Nat.mul_lt_mul_of_pos_right hnumHigh (Nat.two_pow_pos _)
      exact ⟨Nat.le_trans (Nat.mul_le_mul_right _ (Nat.le_of_lt hdenHigh)) hlow,
        Nat.lt_of_lt_of_le hhigh (Nat.mul_le_mul_right _ hdenLow)⟩
    · rw [if_neg hneg]
      have hk : a = b + 52 + e.natAbs := by omega
      have hlow : 2 ^ (b + 1) * 2 ^ e.natAbs * 2 ^ 51 ≤ num := by
        rw [← Nat.pow_add, ← Nat.pow_add, show b + 1 + e.natAbs + 51 = a by omega]
        exact hnumLow
      have hhigh : num < 2 ^ b * 2 ^ e.natAbs * 2 ^ 53 := by
        rw [← Nat.pow_add, ← Nat.pow_add, show b + e.natAbs + 53 = a + 1 by omega]
        exact hnumHigh
      exact ⟨Nat.le_trans (Nat.mul_le_mul_right _ (Nat.mul_le_mul_right _ (Nat.le_of_lt hdenHigh))) hlow,
        Nat.lt_of_lt_of_le hhigh (Nat.mul_le_mul_right _ (Nat.mul_le_mul_right _ hdenLow))⟩
  unfold binade
  rw [ha, hb]
  dsimp only
  split
  · rename_i hshort
    exact unscale_pred hcandidate.1 hshort
  · rename_i hlong
    exact ⟨Nat.le_of_not_lt hlong, hcandidate.2⟩

theorem carry_normal {m : Nat} {e : Int} (hm : m ≤ 2 ^ 53) (he : minExponent ≤ e)
    (hbits : 2 ^ 52 ≤ m ∨ e = minExponent) (hmax : (carry m e).2 ≤ maxExponent) :
    IsNormal (carry m e).1 (carry m e).2 := by
  unfold carry at hmax ⊢
  by_cases hcarry : m = 2 ^ 53
  · simp only [hcarry, beq_self_eq_true, if_true] at hmax ⊢
    exact ⟨by omega, by omega, hmax, Or.inl (by omega)⟩
  · simp only [beq_iff_eq, hcarry, if_false] at hmax ⊢
    exact ⟨by omega, he, hmax, hbits⟩

/-- Rounding gives normal forms, unless the exponent is too great. -/
theorem rounded_normal {num den : Nat} (hnum : num ≠ 0) (hden : den ≠ 0)
    (hmax : (rounded num den).2 ≤ maxExponent) : IsNormal (rounded num den).1 (rounded num den).2 := by
  obtain ⟨hlow, hhigh⟩ := binade_spec hnum hden
  have hle : binade num den ≤ roundingExponent num den := by
    unfold roundingExponent
    omega
  have hmin : minExponent ≤ roundingExponent num den := by
    unfold roundingExponent
    omega
  refine carry_normal (roundQuotient_le (unscale_lt_of_le hle hhigh)) hmin ?_ hmax
  by_cases he : minExponent ≤ binade num den
  · left
    have hsame : roundingExponent num den = binade num den := by
      unfold roundingExponent
      omega
    rw [hsame]
    exact le_roundQuotient (unscale_pos _ (Nat.pos_of_ne_zero hden)) hlow
  · right
    unfold roundingExponent
    omega

/-- The number of a significand and an exponent, unless the exponent is too great. -/
def ofParts? (negative : Bool) (parts : Nat × Int)
    (h : parts.2 ≤ maxExponent → IsNormal parts.1 parts.2) : Option Binary64 :=
  if hmax : parts.2 ≤ maxExponent then some ⟨negative, parts.1, parts.2, h hmax⟩ else none

/-- The number nearest to `± num / den`, ties to even; nothing when it is not finite. A fraction without a value
counts as zero. -/
def ofRatio? (negative : Bool) (num den : Nat) : Option Binary64 :=
  if h : num ≠ 0 ∧ den ≠ 0 then ofParts? negative (rounded num den) (rounded_normal h.1 h.2)
  else some (zero negative)

/-- The number nearest to `± n · 2 ^ e`. -/
def ofScaled? (negative : Bool) (n : Nat) (e : Int) : Option Binary64 :=
  if e < 0 then ofRatio? negative n (2 ^ e.natAbs) else ofRatio? negative (n * 2 ^ e.natAbs) 1

/-- The number nearest to a whole number. -/
def ofInt? (i : Int) : Option Binary64 := ofRatio? (i < 0) i.natAbs 1

/-- The number nearest to a natural number below the finite range's end; larger ones become zero, and no
count or machine integer is that large. -/
def ofNat (n : Nat) : Binary64 := (ofRatio? false n 1).getD (zero false)

/-! ## Exact views -/

/-- The significand with its sign. -/
def signed (x : Binary64) : Int := if x.negative then -(x.significand : Int) else x.significand

/-- The whole number `x / 2 ^ e`, for an `e` not above the exponent of `x`. -/
def scaledTo (x : Binary64) (e : Int) : Int := x.signed * 2 ^ (x.exponent - e).toNat

/-- The magnitude of `scaledTo`. -/
def magnitudeTo (x : Binary64) (e : Int) : Nat := x.significand * 2 ^ (x.exponent - e).toNat

/-- Comparison of the numbers meant. -/
def lt (x y : Binary64) : Bool :=
  let e := min x.exponent y.exponent
  x.scaledTo e < y.scaledTo e

/-- Equality of the numbers meant: the two zeros are equal. -/
def numEq (x y : Binary64) : Bool :=
  let e := min x.exponent y.exponent
  x.scaledTo e == y.scaledTo e

/-- The number without its sign. -/
def abs (x : Binary64) : Binary64 := { x with negative := false }

/-- The number with the other sign. -/
def neg (x : Binary64) : Binary64 := { x with negative := !x.negative }

/-- A number without fractional part. -/
def isWhole (x : Binary64) : Bool :=
  0 ≤ x.exponent || x.significand % 2 ^ x.exponent.natAbs == 0

/-! ## Arithmetic -/

/-- The product, rounded once. -/
def mul? (x y : Binary64) : Option Binary64 :=
  ofScaled? (x.negative != y.negative) (x.significand * y.significand) (x.exponent + y.exponent)

/-- The quotient by a non-zero number, rounded once. -/
def div? (x y : Binary64) : Option Binary64 :=
  let e := x.exponent - y.exponent
  let negative := x.negative != y.negative
  if e < 0 then ofRatio? negative x.significand (y.significand * 2 ^ e.natAbs)
  else ofRatio? negative (x.significand * 2 ^ e.natAbs) y.significand

/-- The difference, rounded once; a zero difference is positive. -/
def sub? (x y : Binary64) : Option Binary64 :=
  let e := min x.exponent y.exponent
  let d := x.scaledTo e - y.scaledTo e
  ofScaled? (d < 0) d.natAbs e

/-- What is left of `x` after taking away whole multiples of `y`, with the sign of `x`; nothing when `y`
is zero. The remainder is a multiple of the smaller unit and below both operands, so it is exact. -/
def rem? (x y : Binary64) : Option Binary64 :=
  if y.isZero then none
  else
    let e := min x.exponent y.exponent
    ofScaled? x.negative (x.magnitudeTo e % y.magnitudeTo e) e

end Binary64

end JsonSchema
