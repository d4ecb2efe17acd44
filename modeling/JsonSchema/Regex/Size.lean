import JsonSchema.Regex.Basic

/-!
# The size of an expression

An expression may be so large that nobody should want to run it: a repetition stands for as many copies of its
body as it counts. What an expression takes is measured by the automaton that reads the bytes of a text from
the end to the start, one state after the other.

## What is here

* `Utf8.sequences` — the characters between two others as sequences of ranges of bytes.
* `CharSet.weight`, `Regex.weight` — the bytes of memory that the automaton takes.
* `Regex.isTooLarge` — **whether that is more than ten mebibytes**.
-/

set_option autoImplicit false

namespace JsonSchema

namespace Utf8

/-- The numbers between two others as sequences of ranges of digits in base 64, where `n` digits follow the first
one. -/
def digitRanges : Nat → Nat → Nat → List (List (Nat × Nat))
  | 0, first, last => [[(first, last)]]
  | n + 1, first, last =>
    let unit := 64 ^ (n + 1)
    let a := first / unit
    let b := last / unit
    if a == b then (digitRanges n (first % unit) (last % unit)).map ((a, a) :: ·)
    else
      let wholeStart := first % unit == 0
      let wholeEnd := last % unit == unit - 1
      let start := if wholeStart then [] else (digitRanges n (first % unit) (unit - 1)).map ((a, a) :: ·)
      let finish := if wholeEnd then [] else (digitRanges n 0 (last % unit)).map ((b, b) :: ·)
      let a := if wholeStart then a else a + 1
      let b := if wholeEnd then b else b - 1
      start ++ (if a ≤ b then [(a, b) :: List.replicate (n + 1) (0, 63)] else []) ++ finish

/-- The first and the last code point that take one byte more than a number, and the least first byte of their
encoding. Surrogates have none. -/
def blocks : List (Nat × Nat × Nat × Nat) :=
  [(0, 0x7F, 0, 0), (0x80, 0x7FF, 1, 0xC0), (0x800, 0xD7FF, 2, 0xE0), (0xE000, 0xFFFF, 2, 0xE0),
   (0x10000, 0x10FFFF, 3, 0xF0)]

/-- The sequences of ranges of bytes for the code points of a run. -/
def sequences (first last : Nat) : List (List (Nat × Nat)) :=
  blocks.flatMap fun (least, greatest, n, lead) =>
    let first := max first least
    let last := min last greatest
    if first ≤ last then digitRanges n (first + lead * 64 ^ n) (last + lead * 64 ^ n) else []

end Utf8

/-! ## Sets of characters -/

/-- What a state takes. -/
def stateWeight : Nat := 32

/-- What a way out of a state takes that reads nothing. -/
def exitWeight : Nat := 4

/-- What a range of bytes takes where a state has several. -/
def rangeWeight : Nat := 8

/-- How many elements two lists have in common at the start. -/
def commonStart : List (Nat × Nat) → List (Nat × Nat) → Nat
  | x :: xs, y :: ys => if x == y then commonStart xs ys + 1 else 0
  | _, _ => 0

/-- The states for sequences of ranges: a sequence shares those for the start it has in common with the one
before. -/
def chainStates (before : List (Nat × Nat)) : List (List (Nat × Nat)) → Nat
  | [] => 0
  | s :: rest => (s.length - commonStart before s) + chainStates s rest

/-- What a set of characters takes: a single one a state for each of its bytes, ranges of ASCII two states, and
all others two states and one way for each sequence. -/
def CharSet.weight (s : CharSet) : Nat :=
  let r := s.toRuns
  let paths := r.flatMap fun (first, last) => Utf8.sequences first last
  match r with
  | [] => stateWeight
  | [(first, last)] =>
    if first == last then stateWeight * (paths.headD []).length
    else if last < 128 then 2 * stateWeight
    else stateWeight * (2 + chainStates [] paths) + exitWeight * paths.length
  | _ =>
    if r.all (·.2 < 128) then 2 * stateWeight + rangeWeight * r.length
    else stateWeight * (2 + chainStates [] paths) + exitWeight * paths.length

/-- What a leaf takes. -/
def Leaf.weight : Leaf → Nat
  | chars s => s.weight
  | look _ => stateWeight

namespace Regex

mutual

/-- Whether an expression passes no character whatever the text is. -/
def isIdle : Regex Leaf → Bool
  | leaf (.chars _) => false
  | leaf (.look _) => true
  | sequence parts => areIdle parts
  | choice alternatives => areIdle alternatives
  | repetition body _ most => isIdle body || most == some 0

/-- Whether all expressions pass no character. -/
def areIdle : List (Regex Leaf) → Bool
  | [] => true
  | r :: rs => isIdle r && areIdle rs

end

/-- What a repetition takes whose body takes `w`: the copies that are asked for, and a state of choice before each
one that may be left out. -/
def repetitionWeight (w least : Nat) : Option Nat → Nat
  | none => max least 1 * w + stateWeight + 2 * exitWeight
  | some most =>
    if most ≤ least then max stateWeight (least * w)
    else least * w + (most - least) * (w + stateWeight + 2 * exitWeight) + stateWeight

mutual

/-- What an expression takes. Repeating what passes no character makes at most one copy. -/
def weight (leafWeight : Leaf → Nat) : Regex Leaf → Nat
  | leaf a => leafWeight a
  | sequence parts => max stateWeight (weightOfAll leafWeight parts)
  | choice alternatives =>
    2 * stateWeight + exitWeight * alternatives.length + weightOfAll leafWeight alternatives
  | repetition body least most =>
    if isIdle body then repetitionWeight (weight leafWeight body) (min least 1) (some (min (most.getD 1) 1))
    else repetitionWeight (weight leafWeight body) least most

/-- What expressions take together. -/
def weightOfAll (leafWeight : Leaf → Nat) : List (Regex Leaf) → Nat
  | [] => 0
  | r :: rs => weight leafWeight r + weightOfAll leafWeight rs

end

/-- The most that an expression may take. -/
def maxWeight : Nat := 10 * 2 ^ 20

/-- What the largest sets of characters take at most. -/
def maxLeafWeight : Nat := 2 ^ 16

/-- Whether an expression takes more than it may. Most are so small that their sets need not be measured. -/
def isTooLarge (r : Regex Leaf) : Bool :=
  r.weight (fun _ => maxLeafWeight) > maxWeight && r.weight Leaf.weight > maxWeight

end Regex

end JsonSchema
