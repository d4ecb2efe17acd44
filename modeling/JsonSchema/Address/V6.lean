import JsonSchema.Address.V4

/-!
# Addresses of 128 bits

## What is here

* `Ipv6.read?` — the eight groups of an address: hexadecimal numbers between colons, where two colons stand
  for the zeros that are missing and the last two groups may be a dotted address of 32 bits.
* `Ipv6.text` — the address with its longest run of zeros left out.
-/

set_option autoImplicit false

namespace JsonSchema.Ipv6

/-- A group: one to four hexadecimal digits. -/
def group? (cs : List Char) : Option Nat :=
  if cs.isEmpty || cs.length > 4 then none
  else (cs.mapM (Ipv4.digit? 16)).map fun ds => ds.foldl (fun n d => 16 * n + d) 0

/-- The groups of the pieces between colons; the last piece may be a dotted address. -/
def groups? (dotted : Bool) : List (List Char) → Option (List Nat)
  | [] => some []
  | [piece] =>
    match group? piece with
    | some g => some [g]
    | none =>
      if dotted then (Ipv4.strict? piece).bind fun
        | [a, b, c, d] => some [256 * a + b, 256 * c + d]
        | _ => none
      else none
  | piece :: pieces => (group? piece).bind fun g => (groups? dotted pieces).map (g :: ·)

/-- The groups on one side of the two colons, where nothing stands for no group. -/
def side? (dotted : Bool) (cs : List Char) : Option (List Nat) :=
  if cs.isEmpty then some [] else groups? dotted (Text.splitOn ':' cs)

/-- What stands before and behind the first two adjacent colons. -/
def splitGap? : List Char → Option (List Char × List Char)
  | ':' :: ':' :: cs => some ([], cs)
  | c :: cs => (splitGap? cs).map fun (head, tail) => (c :: head, tail)
  | [] => none

/-- The eight groups of an address. -/
def read? (cs : List Char) : Option (List Nat) :=
  match splitGap? cs with
  | none => (side? true cs).bind fun groups => if groups.length == 8 then some groups else none
  | some (head, tail) =>
    (side? false head).bind fun hs => (side? true tail).bind fun ts =>
      if hs.length + ts.length ≤ 7 then some (hs ++ List.replicate (8 - hs.length - ts.length) 0 ++ ts)
      else none

/-! ## Writing -/

/-- The zeros that start at a place. -/
def zeroRun (groups : List Nat) (start : Nat) : Nat :=
  ((groups.drop start).takeWhile (· == 0)).length

/-- The first of the longest runs of zeros: its start and length. -/
def longestRun (groups : List Nat) : Nat × Nat :=
  (List.range groups.length).foldl
    (fun best i => if zeroRun groups i > best.2 then (i, zeroRun groups i) else best) (0, 0)

/-- The groups in hexadecimal, with the longest run of at least two zeros left out. -/
def text (groups : List Nat) : List Char :=
  let written (gs : List Nat) : List Char := Text.joinWith ':' (gs.map fun g => Nat.toDigits 16 g)
  let (start, length) := longestRun groups
  if length < 2 then written groups
  else written (groups.take start) ++ [':', ':'] ++ written (groups.drop (start + length))

end JsonSchema.Ipv6
