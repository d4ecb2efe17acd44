import JsonSchema.Text.Split
import JsonSchema.Text.Utf8

/-!
# Host names and mail addresses

Letters are compared without regard to case, and by the folding of all of Unicode: the long s and the Kelvin sign
fold to letters of the alphabet, so they count as letters here.

## What is here

* `HostName.isLabel` — one to 63 letters, digits and hyphens, without a hyphen at either end.
* `HostName.isHostName` — **labels with dots between them**, at most 253 bytes, with an optional dot at the end.
* `HostName.isMailAddress` — a local part and labels.
-/

set_option autoImplicit false

namespace JsonSchema.HostName

/-- A letter of the alphabet, in either case, or a character that folds to one. -/
def isLetter (c : Char) : Bool :=
  ('a' ≤ c && c ≤ 'z') || ('A' ≤ c && c ≤ 'Z') || c == '\u017F' || c == '\u212A'

/-- A letter or a digit. -/
def isAlphanumeric (c : Char) : Bool := isLetter c || c.isDigit

/-- Whether a text is a label. -/
def isLabel (cs : List Char) : Bool :=
  1 ≤ cs.length && cs.length ≤ 63 && cs.all (fun c => isAlphanumeric c || c == '-') &&
    (cs.head?.map isAlphanumeric).getD false && (cs.getLast?.map isAlphanumeric).getD false

/-- A text without the dot at its end. -/
def withoutDot (cs : List Char) : List Char :=
  if cs.getLast? == some '.' then cs.dropLast else cs

/-- Whether a text is a host name. -/
def isHostName (text : String) : Bool :=
  let name := withoutDot text.toList
  !name.isEmpty && (Text.utf8 name).length ≤ 253 && (Text.splitOn '.' name).all isLabel

/-- Whether a character may stand in the local part of a mail address. -/
def isLocal (c : Char) : Bool :=
  isAlphanumeric c || ".!#$%&'*+/=?^_\x60\x7b|\x7d~-".toList.contains c

/-- Whether a text is a mail address. -/
def isMailAddress (text : String) : Bool :=
  let cs := text.toList
  let user := cs.takeWhile (· != '@')
  match cs.dropWhile (· != '@') with
  | [] => false
  | _ :: host => !user.isEmpty && user.all isLocal && (Text.splitOn '.' host).all isLabel

end JsonSchema.HostName
