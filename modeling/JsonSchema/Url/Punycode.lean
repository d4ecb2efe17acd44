/-!
# Punycode

Labels of host names beyond ASCII, written with letters, digits and hyphens: the ASCII characters first,
then the others in ascending order, each by its distance from the one before in a variable-length number.

## What is here

* `Punycode.encode` — the code points of a label as ASCII.
* `Punycode.decode?` — the code points that an encoded label stands for.
-/

set_option autoImplicit false

namespace JsonSchema.Punycode

/-- Divides a distance until it is small, counting the steps by 36. -/
def settle (delta k : Nat) : Nat × Nat :=
  if delta > 455 then settle (delta / 35) (k + 36) else (delta, k)
termination_by delta
decreasing_by exact Nat.div_lt_self (by omega) (by omega)

/-- The bias that fits the last distance; the first one is damped more. -/
def adapt (delta count : Nat) (first : Bool) : Nat :=
  let delta := if first then delta / 700 else delta / 2
  let delta := delta + delta / count
  let (delta, k) := settle delta 0
  k + 36 * delta / (delta + 38)

/-- The number of values the digit at a place has before a further digit follows. -/
def threshold (bias k : Nat) : Nat :=
  if k ≤ bias then 1 else if k ≥ bias + 26 then 26 else k - bias

theorem threshold_bounds (bias k : Nat) : 1 ≤ threshold bias k ∧ threshold bias k ≤ 26 := by
  unfold threshold
  split
  · omega
  · split <;> omega

/-- The character of a digit: the letters are the digits up to 25. -/
def digitChar (d : Nat) : Char :=
  if d < 26 then Char.ofNat (97 + d) else Char.ofNat (22 + d)

/-- The digit of a character. -/
def digitValue? (c : Char) : Option Nat :=
  if 'a' ≤ c && c ≤ 'z' then some (c.toNat - 97)
  else if 'A' ≤ c && c ≤ 'Z' then some (c.toNat - 65)
  else if '0' ≤ c && c ≤ '9' then some (c.toNat - 22)
  else none

/-! ## Encoding -/

/-- A distance as a variable-length number. -/
def encodeNumber (bias k q : Nat) : List Char :=
  let t := threshold bias k
  if q < t then [digitChar q]
  else digitChar (t + (q - t) % (36 - t)) :: encodeNumber bias (k + 36) ((q - t) / (36 - t))
termination_by q
decreasing_by
  have := threshold_bounds bias k
  exact Nat.lt_of_le_of_lt (Nat.div_le_self _ _) (by omega)

/-- The state between two code points: the output in reverse, the distance, the bias and how many code
points are written. -/
structure Encoding where
  reversed : List Char
  delta : Nat
  bias : Nat
  handled : Nat

/-- One code point of the label while the code point `m` is being written. -/
def encodeAt (m basic : Nat) (s : Encoding) (n : Nat) : Encoding :=
  if n < m then { s with delta := s.delta + 1 }
  else if n == m then
    { reversed := (encodeNumber s.bias 36 s.delta).reverse ++ s.reversed
      delta := 0
      bias := adapt s.delta (s.handled + 1) (s.handled == basic)
      handled := s.handled + 1 }
  else s

/-- Writes the code points of a list of values, in order, into the label. -/
def encodeValues (label : List Nat) (basic : Nat) : List Nat → Nat → Encoding → Encoding
  | [], _, s => s
  | m :: ms, next, s =>
    let s := label.foldl (encodeAt m basic) { s with delta := s.delta + (m - next) * (s.handled + 1) }
    encodeValues label basic ms (m + 1) { s with delta := s.delta + 1 }

/-- The label in ASCII. -/
def encode (label : List Nat) : List Char :=
  let basic := label.filter (· < 128)
  let values := ((label.filter (128 ≤ ·)).mergeSort).eraseReps
  let start : List Char := basic.map Char.ofNat ++ (if basic.isEmpty then [] else ['-'])
  start ++ (encodeValues label basic.length values 128 ⟨[], 0, 72, basic.length⟩).reversed.reverse

/-! ## Decoding -/

/-- The distance at the start of the digits, and the digits behind it. -/
def decodeNumber? (bias k weight sum : Nat) : (cs : List Char) →
    Option (Nat × { rest : List Char // rest.length < cs.length })
  | [] => none
  | c :: cs =>
    (digitValue? c).bind fun d =>
      let t := threshold bias k
      let sum := sum + d * weight
      if d < t then some (sum, ⟨cs, by simp⟩)
      else (decodeNumber? bias (k + 36) (weight * (36 - t)) sum cs).map fun (sum, rest) =>
        (sum, ⟨rest.1, Nat.lt_succ_of_lt rest.2⟩)

/-- The label under way: its code points, the last one inserted, the place behind it and the bias. -/
structure Decoding where
  label : List Nat
  value : Nat
  place : Nat
  bias : Nat

/-- Inserts the code point at a distance from the last one. -/
def Decoding.insert? (s : Decoding) (delta : Nat) : Option Decoding :=
  let size := s.label.length + 1
  let value := s.value + (s.place + delta) / size
  let place := (s.place + delta) % size
  if value > 0x10FFFF || (0xD800 ≤ value && value ≤ 0xDFFF) then none
  else some
    { label := s.label.take place ++ value :: s.label.drop place
      value
      place := place + 1
      bias := adapt delta size (s.place == 0) }

/-- Inserts the code points that the digits stand for. -/
def decodeDigits? (s : Decoding) (cs : List Char) : Option (List Nat) :=
  if cs.isEmpty then some s.label
  else match decodeNumber? s.bias 36 1 0 cs with
    | none => none
    | some (delta, rest) => (s.insert? delta).bind fun s => decodeDigits? s rest.1
termination_by cs.length
decreasing_by exact rest.2

/-- The code points of a label. What stands before the last hyphen are its ASCII characters. -/
def decode? (cs : List Char) : Option (List Nat) :=
  let basic := ((cs.reverse.dropWhile (· != '-')).drop 1).reverse
  let digits := if basic.isEmpty then cs else (cs.reverse.takeWhile (· != '-')).reverse
  decodeDigits? ⟨basic.map Char.toNat, 128, 0, 72⟩ digits

end JsonSchema.Punycode
