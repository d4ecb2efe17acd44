import JsonSchema.Number.Shortest

/-!
# The layout of a decimal number

How the digits of a number are set on the line: where positional notation ends, and what an exponent
looks like. The choices are one record, so that a format that writes numbers states its own.

## What is here

* `Layout` — the choices of a format.
* `Layout.text` — a floating-point number under those choices.
-/

set_option autoImplicit false

namespace JsonSchema

/-- The choices a format makes when it writes a floating-point number. -/
structure Layout where
  /-- The least place of the decimal point, counted from the first digit, that is written out. -/
  leastPoint : Int
  /-- The greatest place of the decimal point that is written out. -/
  greatestPoint : Int
  /-- What follows a whole number that is written out. -/
  wholeSuffix : List Char
  /-- What introduces an exponent that is not negative. -/
  upward : List Char
  /-- What introduces a negative exponent. -/
  downward : List Char
deriving Repr

namespace Layout

/-- The digits written out, with zeros on the side where the point lies outside them. -/
def positional (l : Layout) (digits : List Char) (point : Int) : List Char :=
  if point ≤ 0 then
    '0' :: '.' :: (List.replicate point.natAbs '0' ++ digits)
  else if digits.length ≤ point.natAbs then
    digits ++ List.replicate (point.natAbs - digits.length) '0' ++ l.wholeSuffix
  else
    digits.take point.natAbs ++ '.' :: digits.drop point.natAbs

/-- One digit before the point, the others behind it, and an exponent. -/
def scientific (l : Layout) (digits : List Char) (point : Int) : List Char :=
  let fraction := digits.drop 1
  let exponent := point - 1
  digits.take 1 ++ (if fraction.isEmpty then [] else '.' :: fraction) ++
    (if exponent < 0 then l.downward else l.upward) ++ Nat.toDigits 10 exponent.natAbs

/-- The text of a number: its shortest digits, written out or with an exponent. -/
def text (l : Layout) (x : Binary64) : List Char :=
  let sign := if x.negative then ['-'] else []
  if x.isZero then sign ++ '0' :: l.wholeSuffix
  else
    let d := x.shortest
    let digits := Nat.toDigits 10 d.digits
    sign ++ (if l.leastPoint ≤ d.point && d.point ≤ l.greatestPoint then l.positional digits d.point
      else l.scientific digits d.point)

end Layout

end JsonSchema
