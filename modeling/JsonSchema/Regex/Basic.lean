import JsonSchema.Number.Power
import JsonSchema.Regex.CharSet

/-!
# Regular expressions

An expression is searched for in a text. What counts is whether it occurs, not where, so a matcher needs to know
only the set of places that an occurrence can reach. A set of places is a natural number here: place `p` is a
member if bit `p` is set.

## What is here

* `Regex` — expressions over leaves of some type.
* `Leaf` — a character of a set, or a condition (`Look`) on a place of the text.
* `Regex.ends` — **the places where occurrences end that start at given places**.
* `Regex.isIn` — whether an expression occurs in a text.
-/

set_option autoImplicit false

namespace JsonSchema

/-- A condition on the characters before and behind a place. -/
inductive Look where
  | textStart
  | textEnd
  /-- Behind a line feed; or, with line ends of two characters, also behind a carriage return. -/
  | lineStart (pairs : Bool)
  | lineEnd (pairs : Bool)
  | wordBoundary (unicode : Bool)
  | notWordBoundary (unicode : Bool)
  | wordStart (unicode : Bool)
  | wordEnd (unicode : Bool)
  | wordStartHalf (unicode : Bool)
  | wordEndHalf (unicode : Bool)

namespace Look

/-- Whether a character that may be missing belongs to a word. -/
def inWord (unicode : Bool) (c : Option Char) : Bool :=
  (c.map (CharSet.word unicode).has).getD false

/-- Whether the condition holds between two characters, which are missing at the ends of the text. -/
def holds (before after : Option Char) : Look → Bool
  | textStart => before.isNone
  | textEnd => after.isNone
  | lineStart false => before.isNone || before == some '\n'
  | lineEnd false => after.isNone || after == some '\n'
  | lineStart true => before.isNone || before == some '\n' || (before == some '\r' && after != some '\n')
  | lineEnd true => after.isNone || after == some '\r' || (after == some '\n' && before != some '\r')
  | wordBoundary u => inWord u before != inWord u after
  | notWordBoundary u => inWord u before == inWord u after
  | wordStart u => !inWord u before && inWord u after
  | wordEnd u => inWord u before && !inWord u after
  | wordStartHalf u => !inWord u before
  | wordEndHalf u => !inWord u after

end Look

/-- The smallest expressions. -/
inductive Leaf where
  | chars (s : CharSet)
  | look (l : Look)

/-- A regular expression. -/
inductive Regex (α : Type) where
  | leaf (a : α)
  | sequence (parts : List (Regex α))
  | choice (alternatives : List (Regex α))
  /-- As many occurrences as a least number, and at most a greatest number if there is one. -/
  | repetition (body : Regex α) (least : Nat) (most : Option Nat)

/-- The places of a text at which a leaf applies, and whether it passes a character. -/
structure Mask where
  places : Nat
  passes : Bool

namespace Leaf

/-- The set of the places below a number that satisfy a condition. -/
def placesBelow (p : Nat → Bool) : Nat → Nat
  | 0 => 0
  | n + 1 => placesBelow p n ||| (if p n then 1 <<< n else 0)

/-- Where a leaf applies in a text. -/
def mask (text : Array Char) : Leaf → Mask
  | chars s => ⟨placesBelow (fun p => (text[p]?.map s.has).getD false) text.size, true⟩
  | look l =>
    ⟨placesBelow (fun p => l.holds (if p == 0 then none else text[p - 1]?) text[p]?) (text.size + 1), false⟩

end Leaf

/-- The places reached by passing a mask. -/
def Mask.ends (m : Mask) (starts : Nat) : Nat :=
  if m.passes then (starts &&& m.places) <<< 1 else starts &&& m.places

namespace Regex

mutual

/-- The same expression over other leaves. -/
def map {α β : Type} (f : α → β) : Regex α → Regex β
  | leaf a => leaf (f a)
  | sequence parts => sequence (mapAll f parts)
  | choice alternatives => choice (mapAll f alternatives)
  | repetition body least most => repetition (map f body) least most

/-- `map` of each expression. -/
def mapAll {α β : Type} (f : α → β) : List (Regex α) → List (Regex β)
  | [] => []
  | r :: rs => map f r :: mapAll f rs

end

/-- Applies a step some number of times. -/
def times (step : Nat → Nat) : Nat → Nat → Nat
  | 0, places => places
  | n + 1, places => times step n (step places)

/-- The places that are reached by at most some number of steps. -/
def within (step : Nat → Nat) : Nat → Nat → Nat
  | 0, places => places
  | n + 1, places =>
    let more := places ||| step places
    if more == places then places else within step n more

mutual

/-- The places where occurrences end that start at given places. A repetition that goes on for more steps than
there are places passes some place without progress, so further steps do not matter then. -/
def ends (enough : Nat) : Regex Mask → Nat → Nat
  | leaf m, starts => m.ends starts
  | sequence parts, starts => endsOfAll enough parts starts
  | choice alternatives, starts => endsOfAny enough alternatives starts
  | repetition body least most, starts =>
    let reached := times (ends enough body) (min least enough) starts
    within (ends enough body) (min ((most.map (· - least)).getD enough) enough) reached

/-- The places where occurrences of expressions one after the other end. -/
def endsOfAll (enough : Nat) : List (Regex Mask) → Nat → Nat
  | [], starts => starts
  | r :: rs, starts => endsOfAll enough rs (ends enough r starts)

/-- The places where occurrences of one of some expressions end. -/
def endsOfAny (enough : Nat) : List (Regex Mask) → Nat → Nat
  | [], _ => 0
  | r :: rs, starts => ends enough r starts ||| endsOfAny enough rs starts

end

/-- Whether an expression occurs in a text. -/
def isIn (r : Regex Leaf) (text : String) : Bool :=
  let cs := text.toList.toArray
  let places := cs.size + 1
  (r.map (Leaf.mask cs)).ends places (2 ^ places - 1) != 0

end Regex

end JsonSchema
