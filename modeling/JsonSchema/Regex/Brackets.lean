import JsonSchema.Regex.Escape

/-!
# Bracket expressions

A bracket expression lists characters, ranges and classes. It may hold other bracket expressions, and operators
between sets, which all bind alike and to the left.

## What is here

* `Brackets.State` — the expressions that are open, and what the innermost one has listed so far.
* `Brackets.step` — reading one part.
* `Brackets.read` — **a whole bracket expression**, with the depth of its parts.
-/

set_option autoImplicit false

namespace JsonSchema.Brackets

/-- A part of a bracket expression, and how deep it is. -/
structure Part where
  set : CharSet
  depth : Nat

/-- An operator between two sets. -/
inductive Operator where
  | intersection
  | difference
  | symmetricDifference

/-- What waits until something else has been read. -/
inductive Frame where
  /-- A bracket expression, with the parts that stand before it, the last one first. -/
  | bracket (negated : Bool) (before : List Part)
  /-- An operator and its left side. -/
  | operator (op : Operator) (left : Part)

/-- The state of a reader: what waits, and the parts since then, the last one first. -/
structure State where
  frames : List Frame
  parts : List Part

/-- All parts together. A single part does not make the expression deeper. -/
def together : List Part → Part
  | [] => ⟨.nothing, 0⟩
  | [p] => p
  | ps => ⟨ps.foldl (fun s p => .union p.set s) .nothing, ps.foldl (fun d p => max d p.depth) 0 + 1⟩

/-- Applies an operator. -/
def Operator.apply (f : Flags) (op : Operator) (left right : Part) : Part :=
  let a := f.close left.set
  let b := f.close right.set
  let set := match op with
    | .intersection => .intersection a b
    | .difference => .difference a b
    | .symmetricDifference => .symmetricDifference a b
  ⟨set, max left.depth right.depth + 1⟩

/-- Applies the operator that waits for its right side. -/
def finishOperator (f : Flags) (frames : List Frame) (right : Part) : Part × List Frame :=
  match frames with
  | .operator op left :: frames => (op.apply f left right, frames)
  | frames => (right, frames)

/-! ## Parts -/

/-- The hyphens at the beginning, which stand for themselves. -/
def leadingHyphens (f : Flags) : Nat → List Part → List Char → List Part × List Char
  | n + 1, parts, '-' :: cs => leadingHyphens f n (⟨.single '-', 0⟩ :: parts) (f.skip cs)
  | _, parts, cs => (parts, cs)

/-- What follows the opening bracket: a sign for the complement, hyphens, or a closing bracket that stands for
itself. -/
def opening (f : Flags) (frames : List Frame) (before : List Part) (cs : List Char) :
    Except PatternError (Rest State) := do
  let cs := f.skip cs
  let (negated, cs) := match cs with
    | '^' :: cs => (true, f.skip cs)
    | cs => (false, cs)
  let (parts, cs) := leadingHyphens f cs.length [] cs
  let (parts, cs) : List Part × List Char := match parts, cs with
    | [], ']' :: cs => ([⟨.single ']', 0⟩], f.skip cs)
    | parts, cs => (parts, cs)
  if cs.isEmpty then throw .classOpen
  return ({ frames := .bracket negated before :: frames, parts }, cs)

/-- A named class behind its opening bracket, if there is one. -/
def named? (cs : List Char) : Option (Bool × CharSet × List Char) :=
  match cs with
  | ':' :: cs =>
    let (negated, cs) := match cs with
      | '^' :: cs => (true, cs)
      | cs => (false, cs)
    match cs.dropWhile (· != ':') with
    | ':' :: ']' :: rest =>
      (CharSet.named? (String.ofList (cs.takeWhile (· != ':')))).map fun s => (negated, s, rest)
    | _ => none
  | _ => none

/-- A character or an escape. Without Unicode a character beyond ASCII is none. -/
def item (f : Flags) (cs : List Char) : Except PatternError (Rest Primitive) := do
  let (p, rest) ← match cs with
    | [] => throw .classOpen
    | '\\' :: cs => Escape.read f cs
    | c :: cs => pure (.literal c, cs)
  match p with
  | .literal c => if !f.unicode && 128 ≤ c.toNat then throw .unicodeDisabled
  | _ => pure ()
  return (p, rest)

/-- The set of a character or an escape. -/
def setOf : Primitive → Except PatternError CharSet
  | .literal c => .ok (.single c)
  | .set s => .ok s
  | .look _ => .error .classEscape

/-- The character at the end of a range. -/
def rangeEnd : Primitive → Except PatternError Char
  | .literal c => .ok c
  | _ => .error .classRangeEnd

/-- The first character behind a hyphen that counts; a sign for a comment is passed once. -/
def behindHyphen? (f : Flags) (cs : List Char) : Option Char :=
  if !f.spaced then cs.head?
  else match Text.trimStart cs with
    | '#' :: cs => (Text.trimStart cs).head?
    | cs => cs.head?

/-- A character, an escape or a range. A hyphen before a closing bracket or another hyphen makes no range. -/
def range (f : Flags) (cs : List Char) : Except PatternError (Rest Part) := do
  let (first, rest) ← item f cs
  match f.skip rest with
  | [] => throw .classOpen
  | c :: rest =>
    let next := behindHyphen? f rest
    if c != '-' || next == some ']' || next == some '-' then return (⟨← setOf first, 0⟩, c :: rest)
    else
      let (last, rest) ← item f (f.skip rest)
      let a ← rangeEnd first
      let b ← rangeEnd last
      if b < a then throw .classRange
      return (⟨.between a b, 0⟩, rest)

/-! ## The whole expression -/

/-- The expression that is closed by a bracket, and what waits then. -/
def closing (f : Flags) (s : State) : Except PatternError (Part × List Frame × List Part) :=
  let (whole, frames) := finishOperator f s.frames (together s.parts)
  match frames with
  | .bracket negated before :: frames => do
    let set ← f.negateIf negated (f.close whole.set)
    return (⟨set, whole.depth + 1⟩, frames, before)
  | frames => .ok (whole, frames, [])

/-- Puts an operator behind what has been read since the opening bracket. -/
def operate (f : Flags) (s : State) (op : Operator) : State :=
  let (left, frames) := finishOperator f s.frames (together s.parts)
  { frames := .operator op left :: frames, parts := [] }

/-- Reads one part. The answer is a new state, or the whole expression. -/
def step (f : Flags) (s : State) (cs : List Char) : Except PatternError (Rest (State ⊕ Part)) :=
  match f.skip cs with
  | [] => .error .classOpen
  | '[' :: cs =>
    match named? cs with
    | some (negated, set, rest) => do
      let set ← f.negateIf negated (f.close set)
      return (.inl { s with parts := ⟨set, 0⟩ :: s.parts }, rest)
    | none => do
      let (s, rest) ← opening f s.frames s.parts cs
      return (.inl s, rest)
  | ']' :: cs => do
    let (whole, frames, before) ← closing f s
    if frames.isEmpty then return (.inr whole, cs)
    else return (.inl { frames, parts := whole :: before }, cs)
  | '&' :: '&' :: cs => .ok (.inl (operate f s .intersection), cs)
  | '-' :: '-' :: cs => .ok (.inl (operate f s .difference), cs)
  | '~' :: '~' :: cs => .ok (.inl (operate f s .symmetricDifference), cs)
  | cs => do
    let (part, rest) ← range f cs
    return (.inl { s with parts := part :: s.parts }, rest)

/-- Reads parts up to the end of the whole expression. The number bounds how many there are. -/
def readFrom (f : Flags) : Nat → State → List Char → Except PatternError (Rest Part)
  | 0, _, _ => .error .classOpen
  | n + 1, s, cs => do
    match ← step f s cs with
    | (.inl s, rest) => readFrom f n s rest
    | (.inr whole, rest) => return (whole, rest)

/-- Reads what follows the opening bracket. -/
def read (f : Flags) (cs : List Char) : Except PatternError (Rest Part) := do
  let (s, rest) ← opening f [] [] cs
  readFrom f (rest.length + 1) s rest

end JsonSchema.Brackets
