import JsonSchema.Number.Decimal
import JsonSchema.Regex.Flags
import JsonSchema.Regex.PropertyName

/-!
# Escapes in patterns

## What is here

* `Primitive` — what a single sign of a pattern, or an escape, stands for.
* `Escape.read` — **what follows a backslash**.
-/

set_option autoImplicit false

namespace JsonSchema

/-- What a sign or an escape stands for. -/
inductive Primitive where
  | literal (c : Char)
  | set (s : CharSet)
  | look (l : Look)

namespace Escape

/-! ## Characters by number -/

/-- The value of a hexadecimal digit. -/
def hexValue (c : Char) : Nat :=
  if c.isDigit then c.toNat - 48 else c.toLower.toNat - 87

/-- Whether a character is a hexadecimal digit. -/
def isHex (c : Char) : Bool :=
  c.isDigit || ('a' ≤ c && c ≤ 'f') || ('A' ≤ c && c ≤ 'F')

/-- The character that hexadecimal digits stand for. -/
def ofHex (ds : List Char) : Except PatternError Char :=
  let n := ds.foldl (fun n d => 16 * n + hexValue d) 0
  if n.isValidChar then .ok (Char.ofNat n) else .error .hexNoCharacter

/-- A number of hexadecimal digits, with ignored characters behind each. -/
def hexDigits (f : Flags) : Nat → List Char → Except PatternError (Rest (List Char))
  | 0, cs => .ok ([], cs)
  | _ + 1, [] => .error .escapeEnds
  | n + 1, c :: cs =>
    if isHex c then do
      let (ds, rest) ← hexDigits f n (f.skip cs)
      return (c :: ds, rest)
    else .error .hexDigit

/-- A character by its number: as many digits as there have to be, or any number of them in braces. A byte beyond
ASCII is no character unless numbers stand for code points. -/
def byNumber (f : Flags) (size : Nat) (cs : List Char) : Except PatternError (Rest Char) :=
  match f.skip cs with
  | [] => .error .escapeEnds
  | '\x7b' :: cs =>
    let (ds, rest) := f.collect (· != '\x7d') (f.skip cs)
    if !ds.all isHex then .error .hexDigit
    else match rest with
      | [] => .error .escapeEnds
      | _ :: rest => if ds.isEmpty then .error .hexEmpty else return (← ofHex ds, f.skip rest)
  | cs => do
    let (ds, rest) ← hexDigits f size cs
    let c ← ofHex ds
    if size == 2 && !f.unicode && 128 ≤ c.toNat then .error .notUtf8
    else return (c, rest)

/-! ## Sets -/

/-- A set or its complement as a primitive. -/
def setOrComplement (f : Flags) (negated : Bool) (s : CharSet) : Except PatternError Primitive :=
  return .set (← f.negateIf negated s)

/-- A set named by a property: a letter, or a name in braces. -/
def property (f : Flags) (negated : Bool) (cs : List Char) : Except PatternError (Rest Primitive) := do
  let (name, rest) ← match f.skip cs with
    | [] => throw .escapeEnds
    | '\x7b' :: cs =>
      let (name, rest) := f.collect (· != '\x7d') (f.skip cs)
      match rest with
      | [] => throw .escapeEnds
      | _ :: rest => pure (name, rest)
    | '\\' :: _ => throw .propertyForm
    | c :: cs => pure ([c], f.skip cs)
  if !f.unicode then throw .unicodeDisabled
  let (s, other) ← CharSet.ofProperty name
  return (← setOrComplement f (negated != other) (f.close s), rest)

/-! ## Boundaries of words -/

/-- Whether the name of a boundary may have a character. -/
def isBoundaryPart (c : Char) : Bool := c.isAlpha || c == '-'

/-- What follows the letter for a boundary of a word: a special one in braces, or nothing that belongs to it.
Braces around anything but a name are a repetition. -/
def boundary (f : Flags) (cs : List Char) : Except PatternError (Rest Look) :=
  match cs with
  | '\x7b' :: inner =>
    match f.skip inner with
    | [] => .error .boundaryOpen
    | c :: inner =>
      if !isBoundaryPart c then .ok (.wordBoundary f.unicode, cs)
      else
        let (name, rest) := f.collect isBoundaryPart (c :: inner)
        match rest with
        | '\x7d' :: rest =>
          match String.ofList name with
          | "start" => .ok (.wordStart f.unicode, rest)
          | "end" => .ok (.wordEnd f.unicode, rest)
          | "start-half" => .ok (.wordStartHalf f.unicode, rest)
          | "end-half" => .ok (.wordEndHalf f.unicode, rest)
          | _ => .error .boundaryUnknown
        | _ => .error .boundaryOpen
  | _ => .ok (.wordBoundary f.unicode, cs)

/-! ## All escapes -/

/-- The control character that a letter stands for. -/
def control? : Char → Option Char
  | 'a' => some '\x07'
  | 'f' => some '\x0C'
  | 't' => some '\t'
  | 'n' => some '\n'
  | 'r' => some '\r'
  | 'v' => some '\x0B'
  | _ => none

/-- Whether a character may be escaped to stand for itself. -/
def standsForItself (c : Char) : Bool :=
  c.toNat < 128 && !c.isAlphanum && c != '<' && c != '>'

/-- What a letter or a sign behind a backslash stands for, apart from what takes more than one character. -/
def short (f : Flags) (c : Char) : Except PatternError Primitive :=
  match c with
  | 'd' => setOrComplement f false (.digits f.unicode)
  | 'D' => setOrComplement f true (.digits f.unicode)
  | 's' => setOrComplement f false (.blanks f.unicode)
  | 'S' => setOrComplement f true (.blanks f.unicode)
  | 'w' => setOrComplement f false (.word f.unicode)
  | 'W' => setOrComplement f true (.word f.unicode)
  | 'A' => .ok (.look .textStart)
  | 'z' => .ok (.look .textEnd)
  | 'B' => .ok (.look (.notWordBoundary f.unicode))
  | '<' => .ok (.look (.wordStart f.unicode))
  | '>' => .ok (.look (.wordEnd f.unicode))
  | c =>
    if c.isDigit then .error .backreference
    else match control? c with
      | some d => .ok (.literal d)
      | none => if standsForItself c then .ok (.literal c) else .error .escapeUnknown

/-- What follows a backslash. -/
def read (f : Flags) (cs : List Char) : Except PatternError (Rest Primitive) :=
  match cs with
  | [] => .error .escapeEnds
  | 'x' :: cs => (byNumber f 2 cs).map fun (c, rest) => (.literal c, rest)
  | 'u' :: cs => (byNumber f 4 cs).map fun (c, rest) => (.literal c, rest)
  | 'U' :: cs => (byNumber f 8 cs).map fun (c, rest) => (.literal c, rest)
  | 'p' :: cs => property f false cs
  | 'P' :: cs => property f true cs
  | 'b' :: cs => (boundary f cs).map fun (l, rest) => (.look l, rest)
  | c :: cs => (short f c).map fun p => (p, cs)

end Escape

end JsonSchema
