import JsonSchema.Number.Decimal
import JsonSchema.Text.Split

/-!
# Sets of characters as runs

A property of characters is a set of code points, given by the runs of consecutive members. The tables write a
run as two numbers: how many code points lie between it and the run before, and how many it has.

## What is here

* `Runs` — the first and last members of the runs, `Runs.contains`.
* `Runs.normal` — the same set by ascending runs that do not touch; `Runs.complement`, `Runs.intersection`.
* `Runs.numbers`, `Runs.ofText` — reading a table.
-/

set_option autoImplicit false

namespace JsonSchema

/-- The first and the last member of each run of consecutive members. -/
abbrev Runs := List (Nat × Nat)

namespace Runs

/-- Whether a code point is a member. -/
def containsValue (r : Runs) (n : Nat) : Bool :=
  r.any fun (first, last) => first ≤ n && n ≤ last

/-- Whether a character is a member. -/
def contains (r : Runs) (c : Char) : Bool := r.containsValue c.toNat

/-! ## Sets by ascending runs -/

/-- Adds a run that does not start before the others, which are in reverse. -/
def joinRun : Runs → Nat × Nat → Runs
  | (first, last) :: rest, (first', last') =>
    if first' ≤ last + 1 then (first, max last last') :: rest
    else (first', last') :: (first, last) :: rest
  | [], run => [run]

/-- The same set by ascending runs that do not touch. -/
def normal (r : Runs) : Runs :=
  ((r.mergeSort fun x y => x.1 ≤ y.1).foldl joinRun []).reverse

/-- The greatest code point. -/
def greatest : Nat := 0x10FFFF

/-- The runs between ascending runs, from a code point on. -/
def gaps (start : Nat) : Runs → Runs
  | [] => if start ≤ greatest then [(start, greatest)] else []
  | (first, last) :: rest => (if start < first then [(start, first - 1)] else []) ++ gaps (last + 1) rest

/-- All other code points. -/
def complement (r : Runs) : Runs := gaps 0 r.normal

/-- The code points of two sets. -/
def intersection (r s : Runs) : Runs := complement (r.complement ++ s.complement)

/-! ## Tables -/

/-- The runs of a table, where `start` is the code point after the run before. -/
def ofNumbers (start : Nat) : List Nat → Runs
  | gap :: count :: rest =>
    (start + gap, start + gap + count - 1) :: ofNumbers (start + gap + count) rest
  | _ => []

/-- The numbers of a table. -/
def numbers (table : String) : List Nat :=
  ((Text.splitWhere Text.isBlank table.toList).filter (!·.isEmpty)).map digitsValue

/-- Reads a table. -/
def ofText (table : String) : Runs := ofNumbers 0 (numbers table)

end Runs

end JsonSchema
