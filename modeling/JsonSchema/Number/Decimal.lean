import JsonSchema.Number.Binary64
import JsonSchema.Text.Blank

/-!
# Decimal numbers in free text

The decimal numbers people write: a sign, digits with an optional point on either side of which they may
be missing, and an optional exponent. The value is rounded once, from the exact decimal.

## What is here

* `Decimal` — a sign, a whole number of digits, how many of them stand behind the point, and an exponent.
* `Decimal.read?` — the grammar: `±digits`, `±digits.digits?`, `±.digits`, each with `e±digits`.
* `Decimal.leadingPart` — what counts of an exponent.
* `Decimal.toBinary64?` — the nearest floating-point number, if it is finite.
* `readFinite?` — **the reading of numeric text**: blanks at the ends are skipped.
-/

set_option autoImplicit false

namespace JsonSchema

/-- The number `± digits · 10 ^ (exponent - places)`. -/
structure Decimal where
  negative : Bool
  digits : Nat
  places : Nat
  exponent : Int
deriving DecidableEq, Repr

/-- The whole number that decimal digits spell. -/
def digitsValue (cs : List Char) : Nat :=
  cs.foldl (fun n c => 10 * n + (c.toNat - 48)) 0

namespace Decimal

/-! ## Reading -/

/-- A leading sign, and the rest. -/
def takeSign : List Char → Bool × List Char
  | '-' :: cs => (true, cs)
  | '+' :: cs => (false, cs)
  | cs => (false, cs)

/-- The exponent part: nothing, or the mark `e`, an optional sign, and digits up to the end. -/
def exponent? : List Char → Option Int
  | [] => some 0
  | c :: cs =>
    if c == 'e' || c == 'E' then
      let (negative, ds) := takeSign cs
      if !ds.isEmpty && ds.all Char.isDigit then
        some (if negative then -(digitsValue ds : Int) else digitsValue ds)
      else none
    else none

/-- A whole text as a decimal number: at least one digit before or behind the point. -/
def read? (cs : List Char) : Option Decimal :=
  let (negative, cs) := takeSign cs
  let whole := cs.takeWhile Char.isDigit
  let rest := cs.dropWhile Char.isDigit
  let (fraction, rest) := match rest with
    | '.' :: rest => (rest.takeWhile Char.isDigit, rest.dropWhile Char.isDigit)
    | rest => ([], rest)
  if whole.isEmpty && fraction.isEmpty then none
  else (exponent? rest).map fun e =>
    { negative, digits := digitsValue (whole ++ fraction), places := fraction.length, exponent := e }

/-! ## Value -/

/-- Digits that are taken in until the number they spell reaches `2 ^ 16`. -/
def leadingDigits (cs : List Char) : Nat :=
  cs.foldl (fun n c => if n < 2 ^ 16 then 10 * n + (c.toNat - 48) else n) 0

/-- The part of an exponent that counts. A number for which the rest matters has about as many digits itself. -/
def leadingPart (e : Int) : Int :=
  let n : Int := leadingDigits (Nat.toDigits 10 e.natAbs)
  if e < 0 then -n else n

/-- The nearest floating-point number. Numbers from `10 ^ 310` on are not finite and those below
`10 ^ -330` are zero, which keeps the powers of ten small. -/
def toBinary64? (d : Decimal) : Option Binary64 :=
  if d.digits == 0 then some (Binary64.zero d.negative)
  else
    let exponent := leadingPart d.exponent - d.places
    let size := exponent + (Nat.toDigits 10 d.digits).length
    if size > 310 then none
    else if size < -330 then some (Binary64.zero d.negative)
    else if exponent < 0 then Binary64.ofRatio? d.negative d.digits (10 ^ exponent.natAbs)
    else Binary64.ofRatio? d.negative (d.digits * 10 ^ exponent.natAbs) 1

end Decimal

/-- The finite number a text spells, blanks at its ends aside. -/
def readFinite? (text : String) : Option Binary64 :=
  (Decimal.read? (Text.trim text.toList)).bind Decimal.toBinary64?

end JsonSchema
