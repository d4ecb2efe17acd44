import JsonSchema.Text.Split
import JsonSchema.Unicode.Category
import JsonSchema.Url.Domain.Direction
import JsonSchema.Url.Domain.Joining
import JsonSchema.Url.Domain.Mapping
import JsonSchema.Url.Punycode

/-!
# Names of hosts

The name of a host is a row of labels with dots between them. It is written in ASCII: a label with other
characters is encoded behind a mark of its own. Names that stand for the same characters are written alike.

## What is here

* `Domain.normalize?` — a text of what its characters stand for, in composed form.
* `Domain.readLabel?` — the characters of a label, decoded if it is encoded.
* `Domain.toAscii?` — **the name in ASCII**, if all its labels are well formed.
-/

set_option autoImplicit false

namespace JsonSchema.Domain

/-- What an encoded label starts with. -/
def mark : List Char := ['x', 'n', '-', '-']

/-- Whether a character is in ASCII. -/
def isAscii (c : Char) : Bool := c.toNat < 128

/-- The composed form of a text. -/
def compose (cs : List Char) : List Char :=
  if cs.all isAscii then cs else (Composition.compose (cs.map Char.toNat)).map Char.ofNat

/-- What the characters of a text stand for, in composed form. -/
def normalize? (cs : List Char) : Option (List Char) :=
  (cs.mapM image?).map fun images => compose images.flatten

/-- Whether a text stands for itself, so that normalising keeps it. -/
def isNormal (cs : List Char) : Bool :=
  cs.all isPlain && compose cs == cs

/-- The characters that an encoded label stands for. Only a label that needs it may be encoded, and what it
stands for is normal. -/
def decodeLabel? (cs : List Char) : Option (List Char) :=
  if !cs.all isAscii || cs.isEmpty || cs.getLast? == some '-' then none
  else ((Punycode.decode? cs).map (·.map Char.ofNat)).filter isNormal

/-- Whether a label can be told apart from what surrounds it: it does not start with a mark on a letter, and its
joiners are in place. -/
def isLabel (cs : List Char) : Bool :=
  !(cs.head?.any fun c => Category.mnRuns.contains c || Category.mcRuns.contains c || Category.meRuns.contains c) &&
    Joining.isLabel cs

/-- The characters of a label. -/
def readLabel? (cs : List Char) : Option (List Char) :=
  (if cs.take 4 == mark then decodeLabel? (cs.drop 4) else some cs).filter isLabel

/-- A label in ASCII. -/
def encodeLabel (cs : List Char) : List Char :=
  if cs.all isAscii then cs else mark ++ Punycode.encode (cs.map Char.toNat)

/-- A name in ASCII. As soon as one label has letters written from right to left, each has to be written in one
direction. -/
def toAscii? (cs : List Char) : Option (List Char) := do
  let name ← normalize? cs
  let labels ← (Text.splitOn '.' name).mapM readLabel?
  if labels.any Direction.isMixed && !labels.all Direction.isLabel then none
  else some (Text.joinWith '.' (labels.map encodeLabel))

end JsonSchema.Domain
