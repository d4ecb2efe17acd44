import JsonSchema.Number.Binary64

/-!
# The shortest decimal of a binary number

A binary number is written with the fewest decimal digits that read back as the same number, and among
those with the digits nearest to it.

## What is here

* `Digits` — a whole number of decimal digits and the place of the decimal point before them.
* `Binary64.Rounding` — the fractions that round to a given number: an interval around it, closed when
  the significand is even.
* `Binary64.shortest` — **the digits**: on the grids of 1, 2, … 17 digits in turn, the neighbours of the
  number that still lie in its interval.
-/

set_option autoImplicit false

namespace JsonSchema

/-- The number `0.d₁d₂… · 10 ^ point`, where `d₁d₂…` are the decimal digits of `digits`. -/
structure Digits where
  digits : Nat
  point : Int
deriving DecidableEq, Repr

namespace Binary64

/-! ## The interval of a number -/

/-- A positive number together with the fractions that round to it, over one denominator. -/
structure Rounding where
  low : Nat
  value : Nat
  high : Nat
  denominator : Nat
  closed : Bool
deriving Repr

/-- The interval reaches half-way to the neighbours; below a power of two the neighbour is twice as
near. -/
def rounding (x : Binary64) : Rounding :=
  let m := 4 * x.significand
  let below := if x.significand == 2 ^ 52 && x.exponent > minExponent then 1 else 2
  let e := x.exponent - 2
  let unit := if e < 0 then 1 else 2 ^ e.natAbs
  let denominator := if e < 0 then 2 ^ e.natAbs else 1
  { low := (m - below) * unit, value := m * unit, high := (m + 2) * unit, denominator
    closed := x.significand % 2 == 0 }

namespace Rounding

/-- The numerator of `d · 10 ^ k` beside the numerators of the interval, and the factor that those are to
be multiplied by. -/
def onGrid (r : Rounding) (d : Nat) (k : Int) : Nat × Nat :=
  if k < 0 then (d * r.denominator, 10 ^ k.natAbs) else (d * 10 ^ k.natAbs * r.denominator, 1)

/-- Whether `d · 10 ^ k` rounds to the number. -/
def holds (r : Rounding) (d : Nat) (k : Int) : Bool :=
  let (n, f) := r.onGrid d k
  if r.closed then r.low * f ≤ n && n ≤ r.high * f else r.low * f < n && n < r.high * f

/-- How far `d · 10 ^ k` is from the number, in units that depend on `k` alone. -/
def distance (r : Rounding) (d : Nat) (k : Int) : Nat :=
  let (n, f) := r.onGrid d k
  let v := r.value * f
  if n ≤ v then v - n else n - v

/-- The greatest `d` with `d · 10 ^ k` not above the number. -/
def floorOnGrid (r : Rounding) (k : Int) : Nat :=
  if k < 0 then r.value * 10 ^ k.natAbs / r.denominator else r.value / (r.denominator * 10 ^ k.natAbs)

/-- The least `p` for which the number is below `10 ^ p`: an estimate from the binary logarithm, which is
at most three too small. -/
def point (r : Rounding) : Int :=
  let estimate : Int := ((r.value.log2 : Int) - (r.denominator.log2 : Int) - 1) * 30103 / 100000 - 1
  let below (p : Int) : Bool :=
    if p < 0 then r.value * 10 ^ p.natAbs < r.denominator else r.value < r.denominator * 10 ^ p.natAbs
  ((List.range 4).map fun (i : Nat) => estimate + i).find? below |>.getD (estimate + 4)

/-- The decimal of at most `n` digits nearest to the number, if one rounds to it; a tie goes to the even
last digit. -/
def withDigits? (r : Rounding) (p : Int) (n : Nat) : Option (Nat × Int) :=
  let k := p - n
  let d := r.floorOnGrid k
  match r.holds d k, r.holds (d + 1) k with
  | true, false => some (d, k)
  | false, true => some (d + 1, k)
  | false, false => none
  | true, true =>
    let below := r.distance d k
    let above := r.distance (d + 1) k
    if below < above || (below == above && d % 2 == 0) then some (d, k) else some (d + 1, k)

end Rounding

/-! ## The digits -/

/-- Drops the zeros at the end of a digit string, raising the exponent for each; `fuel` bounds their
number. -/
def stripZeros : Nat → Nat → Int → Nat × Int
  | 0, d, k => (d, k)
  | fuel + 1, d, k => if d != 0 && d % 10 == 0 then stripZeros fuel (d / 10) (k + 1) else (d, k)

/-- All digits of a number, as a whole number and a power of ten. -/
def allDigits (x : Binary64) : Nat × Int :=
  if x.exponent < 0 then (x.significand * 5 ^ x.exponent.natAbs, x.exponent)
  else (x.significand * 2 ^ x.exponent.natAbs, 0)

/-- The shortest digits that read back as the non-zero number `x`. Seventeen digits do; if they did not, all
digits would. -/
def shortest (x : Binary64) : Digits :=
  let r := x.rounding
  let p := r.point
  let (d, k) := ((List.range 17).findSome? fun i => r.withDigits? p (i + 1)).getD x.allDigits
  let (d, k) := stripZeros 18 d k
  { digits := d, point := k + (Nat.toDigits 10 d).length }

end Binary64

end JsonSchema
