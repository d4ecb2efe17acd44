import JsonSchema.Regex.Brackets
import JsonSchema.Regex.Size

/-!
# Reading patterns

## What is here

* `Piece` — an expression with how deep it is and whether it can be repeated.
* `PatternReader.State` — the groups that are open, and what the innermost one holds so far.
* `PatternReader.step` — reading one sign of the pattern.
* `Regex.read` — **the expression that a pattern spells**.
-/

set_option autoImplicit false

namespace JsonSchema

/-- An expression that has been read, and how deep it is. Flags count as a piece, but cannot be repeated. -/
structure Piece where
  regex : Regex Leaf
  depth : Nat
  repeatable : Bool

namespace Piece

/-- A piece without parts. -/
def leaf (l : Leaf) : Piece := ⟨.leaf l, 0, true⟩

/-- The set of characters that a primitive stands for, or the condition. -/
def ofPrimitive (f : Flags) : Primitive → Piece
  | .literal c => leaf (.chars (f.close (.single c)))
  | .set s => leaf (.chars s)
  | .look l => leaf (.look l)

/-- The greatest depth. -/
def deepest (ps : List Piece) : Nat := ps.foldl (fun d p => max d p.depth) 0

/-- Pieces one after the other. A single piece stays as it is. -/
def sequence : List Piece → Piece
  | [] => ⟨.sequence [], 0, true⟩
  | [p] => p
  | ps => ⟨.sequence (ps.map regex), deepest ps + 1, true⟩

/-- One of some pieces. A single piece stays as it is. -/
def choice : List Piece → Piece
  | [p] => p
  | ps => ⟨.choice (ps.map regex), deepest ps + 1, true⟩

/-- A piece in brackets. -/
def group (p : Piece) : Piece := ⟨p.regex, p.depth + 1, true⟩

/-- A repeated piece. -/
def repetition (p : Piece) (least : Nat) (most : Option Nat) : Piece :=
  ⟨.repetition p.regex least most, p.depth + 1, true⟩

end Piece

namespace PatternReader

/-- What waits for the end of a group: the alternatives and the pieces before it, the last ones first, and the
flags that hold behind it. -/
structure Frame where
  alternatives : List Piece
  pieces : List Piece
  flags : Flags

/-- The state of a reader. -/
structure State where
  frames : List Frame
  alternatives : List Piece
  pieces : List Piece
  flags : Flags
  names : List (List Char)

/-- The state at the start of a pattern. -/
def State.start : State := ⟨[], [], [], .start, []⟩

namespace State

/-- Adds a piece. -/
def add (s : State) (p : Piece) : State := { s with pieces := p :: s.pieces }

/-- Begins with the next alternative. -/
def nextAlternative (s : State) : State :=
  { s with alternatives := .sequence s.pieces.reverse :: s.alternatives, pieces := [] }

/-- All that the innermost group holds. -/
def whole (s : State) : Piece := .choice s.nextAlternative.alternatives.reverse

/-- Opens a group. -/
def openGroup (s : State) (flags : Flags) : State :=
  { frames := ⟨s.alternatives, s.pieces, s.flags⟩ :: s.frames
    alternatives := [], pieces := [], flags, names := s.names }

/-- Closes the innermost group. -/
def closeGroup (s : State) : Except PatternError State :=
  match s.frames with
  | [] => .error .groupNotOpened
  | frame :: frames =>
    .ok { frames
          alternatives := frame.alternatives
          pieces := s.whole.group :: frame.pieces
          flags := frame.flags
          names := s.names }

/-- Replaces the last piece by its repetition. -/
def repeatLast (s : State) (least : Nat) (most : Option Nat) : Except PatternError State :=
  match s.pieces with
  | p :: ps =>
    if p.repeatable then .ok { s with pieces := p.repetition least most :: ps }
    else .error .repetitionOfNothing
  | [] => .error .repetitionOfNothing

end State

/-! ## Groups -/

/-- Whether a name of a group can start with a character. -/
def isNameStart (c : Char) : Bool := c == '_' || Property.alphabetic.contains c

/-- Whether a name of a group can go on with a character. -/
def isNamePart (c : Char) : Bool :=
  c == '_' || c == '.' || c == '[' || c == ']' || Property.alphabetic.contains c ||
    Property.numeric.contains c

/-- A named group: its name must be new. -/
def namedGroup (s : State) (cs : List Char) : Except PatternError (Rest State) :=
  let name := cs.takeWhile (· != '>')
  if !(name.take 1).all isNameStart || !(name.drop 1).all isNamePart then .error .groupNameCharacter
  else match cs.dropWhile (· != '>') with
    | [] => .error .groupNameEnds
    | _ :: rest =>
      if name.isEmpty then .error .groupNameEmpty
      else if s.names.contains name then .error .groupNameRepeated
      else .ok ({ s with names := name :: s.names }.openGroup s.flags, rest)

/-- Flags, for the rest of the group or for a group of their own. -/
def flagGroup (s : State) (cs : List Char) : Except PatternError (Rest State) :=
  if cs.isEmpty then .error .groupOpen
  else do
    match ← s.flags.read cs with
    | (flags, ')' :: rest) =>
      if cs.head? == some ')' then throw .repetitionOfNothing
      return ({ s with flags }.add ⟨.sequence [], 0, false⟩, rest)
    | (flags, rest) => return (s.openGroup flags, rest.drop 1)

/-- What follows an opening bracket. -/
def group (s : State) (cs : List Char) : Except PatternError (Rest State) :=
  match s.flags.skip cs with
  | '?' :: '=' :: _ => .error .lookAround
  | '?' :: '!' :: _ => .error .lookAround
  | '?' :: '<' :: '=' :: _ => .error .lookAround
  | '?' :: '<' :: '!' :: _ => .error .lookAround
  | '?' :: 'P' :: '<' :: cs => namedGroup s cs
  | '?' :: '<' :: cs => namedGroup s cs
  | '?' :: cs => flagGroup s cs
  | cs => .ok (s.openGroup s.flags, cs)

/-! ## Repetitions -/

/-- A decimal number of 32 bits, with blanks around it. -/
def decimal (f : Flags) (cs : List Char) : Except PatternError (Nat × List Char) :=
  let (ds, rest) := f.collect Char.isDigit (Text.trimStart cs)
  let n := digitsValue ds
  if ds.isEmpty then .error .decimalEmpty
  else if n < 2 ^ 32 then .ok (n, f.skip (Text.trimStart rest))
  else .error .decimalTooLarge

/-- What follows a repetition that is complete: a mark for the shortest occurrence makes no difference. -/
def afterRepetition : List Char → List Char
  | '?' :: cs => cs
  | cs => cs

/-- The end of a repetition in braces. -/
def counted (s : State) (least : Nat) (most : Option Nat) (cs : List Char) :
    Except PatternError (Rest State) :=
  match cs with
  | '\x7d' :: cs =>
    if (most.map (decide <| · < least)).getD false then .error .repetitionRange
    else do return (← s.repeatLast least most, afterRepetition (s.flags.skip cs))
  | _ => .error .repetitionOpen

/-- What follows an opening brace: one number, a number and a comma, or two numbers. -/
def braces (s : State) (cs : List Char) : Except PatternError (Rest State) := do
  let _ ← s.repeatLast 0 none
  let (least, cs) ← decimal s.flags (s.flags.skip cs)
  match cs with
  | ',' :: cs =>
    match s.flags.skip cs with
    | '\x7d' :: cs => counted s least none ('\x7d' :: cs)
    | cs =>
      let (most, cs) ← decimal s.flags cs
      counted s least (some most) cs
  | cs => counted s least (some least) cs

/-- A repetition with a sign of its own. -/
def signed (s : State) (least : Nat) (most : Option Nat) (cs : List Char) :
    Except PatternError (Rest State) := do
  return (← s.repeatLast least most, afterRepetition cs)

/-! ## The whole pattern -/

/-- Reads one sign and what belongs to it. -/
def step (s : State) (c : Char) (cs : List Char) : Except PatternError (Rest State) :=
  match c with
  | '(' => group s cs
  | ')' => do return (← s.closeGroup, cs)
  | '|' => .ok (s.nextAlternative, cs)
  | '[' => do
    let (p, rest) ← Brackets.read s.flags cs
    return (s.add ⟨.leaf (.chars p.set), p.depth, true⟩, rest)
  | '?' => signed s 0 (some 1) cs
  | '*' => signed s 0 none cs
  | '+' => signed s 1 none cs
  | '\x7b' => braces s cs
  | '\\' => do
    let (p, rest) ← Escape.read s.flags cs
    return (s.add (.ofPrimitive s.flags p), rest)
  | '.' => do return (s.add (.leaf (.chars (← s.flags.dot))), cs)
  | '^' => .ok (s.add (.leaf (.look s.flags.beginning)), cs)
  | '$' => .ok (s.add (.leaf (.look s.flags.ending)), cs)
  | c => .ok (s.add (.ofPrimitive s.flags (.literal c)), cs)

/-- Reads signs up to the end. The number bounds how many there are. -/
def readFrom : Nat → State → List Char → Except PatternError State
  | 0, s, _ => .ok s
  | n + 1, s, cs =>
    match s.flags.skip cs with
    | [] => .ok s
    | c :: cs => do
      let (s, rest) ← step s c cs
      readFrom n s rest

/-- How deep a pattern may be. -/
def maxDepth : Nat := 250

end PatternReader

/-- The expression that a pattern spells. -/
def Regex.read (pattern : String) : Except PatternError (Regex Leaf) := do
  let s ← PatternReader.readFrom (pattern.length + 1) .start pattern.toList
  if !s.frames.isEmpty then throw .groupOpen
  let whole := s.whole
  if whole.depth > PatternReader.maxDepth then throw (.tooDeep PatternReader.maxDepth)
  if whole.regex.isTooLarge then throw (.tooLarge Regex.maxWeight)
  return whole.regex

end JsonSchema
