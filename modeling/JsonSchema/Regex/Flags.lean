import JsonSchema.Regex.Basic
import JsonSchema.Regex.Error

/-!
# Flags of a pattern

Flags hold from where they are set to the end of the group. They decide what the signs of a pattern stand for, and
whether blanks and comments between the signs count.

## What is here

* `Flags` — the flags, and what they make of a character, a full stop, and the two anchors.
* `Flags.skip` — what is left of a pattern when ignored characters have been passed.
* `Flags.read` — a list of flags, up to the colon or the bracket behind it.
-/

set_option autoImplicit false

namespace JsonSchema

/-- The flags of a pattern. -/
structure Flags where
  caseless : Bool
  multiline : Bool
  dotAll : Bool
  /-- Lines may end with two characters. -/
  pairs : Bool
  unicode : Bool
  /-- Blanks and comments do not count. -/
  spaced : Bool
deriving DecidableEq

/-- What has been read, and the rest of the pattern. -/
abbrev Rest (α : Type) := α × List Char

namespace Flags

/-- The flags at the start of a pattern. -/
def start : Flags := ⟨false, false, false, false, true, false⟩

/-! ## What signs stand for -/

/-- A set with the characters that count as equal. -/
def close (f : Flags) (s : CharSet) : CharSet :=
  if !f.caseless then s else if f.unicode then .folded s else .foldedAscii s

/-- A set or its complement. Without Unicode a complement has members that are no characters. -/
def negateIf (f : Flags) (negated : Bool) (s : CharSet) : Except PatternError CharSet :=
  if !negated then .ok s else if f.unicode then .ok (.complement s) else .error .notUtf8

/-- The set that a full stop stands for. -/
def dot (f : Flags) : Except PatternError CharSet :=
  if !f.unicode then .error .notUtf8
  else if f.dotAll then .ok (.complement .nothing)
  else if f.pairs then .ok (.complement (.union (.single '\n') (.single '\r')))
  else .ok (.complement (.single '\n'))

/-- The condition that the sign for a beginning stands for. -/
def beginning (f : Flags) : Look := if f.multiline then .lineStart f.pairs else .textStart

/-- The condition that the sign for an end stands for. -/
def ending (f : Flags) : Look := if f.multiline then .lineEnd f.pairs else .textEnd

/-! ## Ignored characters -/

/-- What is left behind blanks and comments; a comment goes up to the end of its line. -/
def skipComments : Bool → List Char → List Char
  | _, [] => []
  | true, c :: cs => skipComments (c != '\n') cs
  | false, c :: cs =>
    if Text.isBlank c then skipComments false cs
    else if c == '#' then skipComments true cs
    else c :: cs

/-- What is left behind ignored characters. -/
def skip (f : Flags) (cs : List Char) : List Char := if f.spaced then skipComments false cs else cs

/-- The next characters with a property, and the rest. Ignored characters behind each of them are passed. The
number bounds how many there are. -/
def collectUpTo (f : Flags) (p : Char → Bool) : Nat → List Char → List Char × List Char
  | n + 1, c :: cs =>
    if p c then
      let (found, rest) := collectUpTo f p n (f.skip cs)
      (c :: found, rest)
    else ([], c :: cs)
  | _, cs => ([], cs)

/-- The next characters with a property, and the rest. -/
def collect (f : Flags) (p : Char → Bool) (cs : List Char) : List Char × List Char :=
  f.collectUpTo p cs.length cs

/-! ## Reading flags -/

/-- Sets or clears the flag of a letter. That repetitions prefer the shortest occurrence makes no difference to
whether there is one. -/
def set? (f : Flags) (c : Char) (value : Bool) : Option Flags :=
  match c with
  | 'i' => some { f with caseless := value }
  | 'm' => some { f with multiline := value }
  | 's' => some { f with dotAll := value }
  | 'R' => some { f with pairs := value }
  | 'u' => some { f with unicode := value }
  | 'x' => some { f with spaced := value }
  | 'U' => some f
  | _ => none

/-- Reads flags up to a colon or a closing bracket, which is left. Behind a hyphen flags are cleared. The list
holds the letters that have been seen. -/
def readFrom (f : Flags) (value : Bool) (seen : List Char) : List Char → Except PatternError (Rest Flags)
  | [] => .error .flagEnds
  | c :: cs =>
    if c == ':' || c == ')' then
      if seen.head? == some '-' then .error .flagNegationDangling else .ok (f, c :: cs)
    else if c == '-' then
      if value then readFrom f false ('-' :: seen) cs else .error .flagNegationRepeated
    else match f.set? c value with
      | none => .error .flagUnknown
      | some f => if seen.contains c then .error .flagRepeated else readFrom f value (c :: seen) cs

/-- Reads a list of flags, which may be empty. -/
def read (f : Flags) (cs : List Char) : Except PatternError (Rest Flags) := f.readFrom true [] cs

end Flags

end JsonSchema
