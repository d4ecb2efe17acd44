import JsonSchema.Json.Basic
import JsonSchema.Number.Decimal

/-!
# JSON numerals

The value of a number in a JSON text. Without point and exponent it is a whole number, as long as 64 bits
hold it. Otherwise it is the floating-point number that arises from as many leading digits as fit into
64 bits, scaled by a power of ten; each of the at most three steps is rounded.

## What is here

* `Numeral.read?` — **the value of a numeral**, or nothing if it is malformed or not finite.
-/

set_option autoImplicit false

namespace JsonSchema.Numeral

/-- The largest number of 64 bits without sign. -/
def maxWord : Nat := 2 ^ 64 - 1

/-- Digits read as a number up to the last one that 64 bits hold, and the digits left over. -/
def leading (n : Nat) : List Char → Nat × List Char
  | [] => (n, [])
  | c :: cs =>
    let next := 10 * n + (c.toNat - 48)
    if next ≤ maxWord then leading next cs else (n, c :: cs)

/-- A power of ten as a floating-point number; the exponents of interest are at most 308. -/
def powerOfTen (n : Nat) : Binary64 :=
  (Binary64.ofRatio? false (10 ^ n) 1).getD (Binary64.zero false)

/-- The number `significand · 10 ^ exponent` in rounded steps. Below the smallest power of ten the table
holds, a first step divides by that power; what would need a third step is zero. -/
def scale? (significand : Nat) (exponent : Int) : Option Binary64 :=
  let x := Binary64.ofNat significand
  if x.isZero then some x
  else if exponent > 308 then none
  else if 0 ≤ exponent then x.mul? (powerOfTen exponent.natAbs)
  else if -308 ≤ exponent then x.div? (powerOfTen exponent.natAbs)
  else if -616 ≤ exponent then
    (x.div? (powerOfTen 308)).bind fun y => y.div? (powerOfTen (exponent + 308).natAbs)
  else some (Binary64.zero false)

/-- The whole part: a single zero, or digits that do not start with one. -/
def isWholePart : List Char → Bool
  | [] => false
  | ['0'] => true
  | '0' :: _ => false
  | _ => true

/-- The exponent behind its mark, clipped to a range in which no further exponent changes the value. -/
def exponent? (cs : List Char) : Option Int :=
  let (negative, ds) := Decimal.takeSign cs
  if ds.isEmpty || !ds.all Char.isDigit then none
  else
    let e := min (digitsValue ds) (2 ^ 31 - 1)
    some (if negative then -(e : Int) else e)

/-- A numeral with a point or an exponent. Digits of the fraction are taken as long as they fit, also
behind digits of the whole part that did not. -/
def real? (negative : Bool) (whole fraction : List Char) (exponent : Int) : Option Json :=
  let (n, dropped) := leading 0 whole
  let (n, lost) := leading n fraction
  let scaled := exponent + dropped.length - (fraction.length - lost.length : Nat)
  (scale? n scaled).map fun x => .real (if negative then x.neg else x)

/-- A numeral without point and exponent. -/
def whole? (negative : Bool) (digits : List Char) : Option Json :=
  let (n, dropped) := leading 0 digits
  if !dropped.isEmpty then (scale? n dropped.length).map fun x => .real (if negative then x.neg else x)
  else if !negative then some (.integer n)
  else if n == 0 || 2 ^ 63 < n then some (.real (Binary64.ofNat n).neg)
  else some (.integer (-(n : Int)))

/-- The value of a numeral. -/
def read? (cs : List Char) : Option Json :=
  let (negative, cs) := match cs with
    | '-' :: cs => (true, cs)
    | cs => (false, cs)
  let whole := cs.takeWhile Char.isDigit
  let rest := cs.dropWhile Char.isDigit
  if !isWholePart whole then none
  else match rest with
    | [] => whole? negative whole
    | '.' :: rest =>
      let fraction := rest.takeWhile Char.isDigit
      match rest.dropWhile Char.isDigit with
      | [] => if fraction.isEmpty then none else real? negative whole fraction 0
      | c :: rest =>
        if fraction.isEmpty || !(c == 'e' || c == 'E') then none
        else (exponent? rest).bind (real? negative whole fraction)
    | c :: rest => if c == 'e' || c == 'E' then (exponent? rest).bind (real? negative whole []) else none

end JsonSchema.Numeral
