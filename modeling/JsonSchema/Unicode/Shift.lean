import JsonSchema.Unicode.Runs

/-!
# Shifted runs

Case pairs and other variants of characters mostly come in rows: equally spaced code points whose images are
equally spaced too.

## What is here

* `Shift` — a row and its images, `Shift.image?` and `Shift.preimage?`.
* `Shift.ofText` — reading a table of rows.
-/

set_option autoImplicit false

namespace JsonSchema

/-- Equally spaced code points with as many images at the same distance. -/
structure Shift where
  first : Nat
  count : Nat
  step : Nat
  image : Nat

namespace Shift

/-- The image of a code point of the row. -/
def image? (s : Shift) (n : Nat) : Option Nat :=
  if s.first ≤ n && n < s.first + s.count * s.step && (n - s.first) % s.step == 0 then
    some (s.image + (n - s.first))
  else none

/-- The code point of the row with a given image. -/
def preimage? (s : Shift) (n : Nat) : Option Nat :=
  if s.image ≤ n && n < s.image + s.count * s.step && (n - s.image) % s.step == 0 then
    some (s.first + (n - s.image))
  else none

/-- The rows of a table, each written as the gap to the row before, how many members it has and the image of
the first one. -/
def ofNumbers (step start : Nat) : List Nat → List Shift
  | gap :: count :: image :: rest =>
    ⟨start + gap, count, step, image⟩ :: ofNumbers step (start + gap + count) rest
  | _ => []

/-- Reads a table of rows with the same step. -/
def ofText (step : Nat) (table : String) : List Shift :=
  ofNumbers step 0 (Runs.numbers table)

end Shift

end JsonSchema
