import JsonSchema.Unicode.Folding
import JsonSchema.Unicode.Property

/-!
# Sets of characters

## What is here

* `CharSet` — the sets that a pattern can describe, built from runs by the operations of a bracket expression.
* `CharSet.has` — **membership**; `CharSet.toRuns` — the members as ascending runs.
* `CharSet.digits`, `CharSet.blanks`, `CharSet.word` — the classes with a letter of their own.
-/

set_option autoImplicit false

namespace JsonSchema

/-- A set of characters. -/
inductive CharSet where
  | runs (r : Runs)
  | complement (s : CharSet)
  | union (s t : CharSet)
  | intersection (s t : CharSet)
  | difference (s t : CharSet)
  | symmetricDifference (s t : CharSet)
  /-- All characters that fold like a member. -/
  | folded (s : CharSet)
  /-- The letters of the alphabet count in either case. -/
  | foldedAscii (s : CharSet)

namespace CharSet

/-- A letter of the alphabet in the other case, and any other character as it is. -/
def otherCase (c : Char) : Char := if c.isUpper then c.toLower else c.toUpper

/-- Whether a character is a member. -/
def has : CharSet → Char → Bool
  | runs r, c => r.contains c
  | complement s, c => !s.has c
  | union s t, c => s.has c || t.has c
  | intersection s t, c => s.has c && t.has c
  | difference s t, c => s.has c && !t.has c
  | symmetricDifference s t, c => s.has c != t.has c
  | folded s, c => (Folding.orbit c).any s.has
  | foldedAscii s, c => s.has c || s.has (otherCase c)

/-- The members as ascending runs. -/
def toRuns : CharSet → Runs
  | runs r => r.normal
  | complement s => s.toRuns.complement
  | union s t => Runs.normal (s.toRuns ++ t.toRuns)
  | intersection s t => s.toRuns.intersection t.toRuns
  | difference s t => s.toRuns.intersection t.toRuns.complement
  | symmetricDifference s t =>
    Runs.normal (s.toRuns.intersection t.toRuns.complement ++ t.toRuns.intersection s.toRuns.complement)
  | folded s =>
    let r := s.toRuns
    Runs.normal (r ++ (Folding.cased.filter fun n =>
      (Folding.orbit (Char.ofNat n)).any r.contains).map fun n => (n, n))
  | foldedAscii s =>
    let r := s.toRuns
    Runs.normal (r ++ ((List.range 128).filter fun n =>
      r.contains (otherCase (Char.ofNat n))).map fun n => (n, n))

/-- No characters. -/
def nothing : CharSet := runs []

/-- The characters between two, both included. -/
def between (first last : Char) : CharSet := runs [(first.toNat, last.toNat)]

/-- A single character. -/
def single (c : Char) : CharSet := between c c

/-- All characters of the ASCII range from a list. -/
def ofAscii (ranges : List (Char × Char)) : CharSet :=
  runs (ranges.map fun (a, b) => (a.toNat, b.toNat))

/-! ## Classes -/

/-- The digits: of all scripts, or the ten of ASCII. -/
def digits (unicode : Bool) : CharSet :=
  if unicode then runs Category.ndRuns else ofAscii [('0', '9')]

/-- The blanks: of all scripts, or those of ASCII. -/
def blanks (unicode : Bool) : CharSet :=
  if unicode then
    runs [(0x9, 0xD), (0x20, 0x20), (0x85, 0x85), (0xA0, 0xA0), (0x1680, 0x1680), (0x2000, 0x200A),
      (0x2028, 0x2029), (0x202F, 0x202F), (0x205F, 0x205F), (0x3000, 0x3000)]
  else ofAscii [('\t', '\r'), (' ', ' ')]

/-- The characters of words: of all scripts, or those of ASCII. -/
def word (unicode : Bool) : CharSet :=
  if unicode then runs Property.word else ofAscii [('0', '9'), ('A', 'Z'), ('_', '_'), ('a', 'z')]

/-- The classes of ASCII characters that have a name in bracket expressions. -/
def named? (name : String) : Option CharSet :=
  (List.lookup name
    [("alnum", [('0', '9'), ('A', 'Z'), ('a', 'z')]),
     ("alpha", [('A', 'Z'), ('a', 'z')]),
     ("ascii", [('\x00', '\x7F')]),
     ("blank", [('\t', '\t'), (' ', ' ')]),
     ("cntrl", [('\x00', '\x1F'), ('\x7F', '\x7F')]),
     ("digit", [('0', '9')]),
     ("graph", [('!', '~')]),
     ("lower", [('a', 'z')]),
     ("print", [(' ', '~')]),
     ("punct", [('!', '/'), (':', '@'), ('[', '\x60'), ('\x7b', '~')]),
     ("space", [('\t', '\r'), (' ', ' ')]),
     ("upper", [('A', 'Z')]),
     ("word", [('0', '9'), ('A', 'Z'), ('_', '_'), ('a', 'z')]),
     ("xdigit", [('0', '9'), ('A', 'F'), ('a', 'f')])]).map ofAscii

end CharSet

end JsonSchema
