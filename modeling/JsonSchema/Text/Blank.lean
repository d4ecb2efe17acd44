/-!
# Blank characters

The characters a reader of numbers and style sheets may skip: the code points with the Unicode
property `White_Space`.

## What is here

* `Text.isBlank` — membership in that property, as a finite list of ranges.
* `Text.trimStart`, `Text.trimEnd`, `Text.trim` — a text without the blanks at its ends.
-/

set_option autoImplicit false

namespace JsonSchema.Text

/-- A character with the Unicode property `White_Space`. -/
def isBlank (c : Char) : Bool :=
  let n := c.toNat
  (0x9 ≤ n && n ≤ 0xD) || n == 0x20 || n == 0x85 || n == 0xA0 || n == 0x1680 ||
    (0x2000 ≤ n && n ≤ 0x200A) || n == 0x2028 || n == 0x2029 || n == 0x202F || n == 0x205F ||
    n == 0x3000

/-- The text without the blanks it starts with. -/
def trimStart (cs : List Char) : List Char :=
  cs.dropWhile isBlank

/-- The text without the blanks it ends with. -/
def trimEnd (cs : List Char) : List Char :=
  (cs.reverse.dropWhile isBlank).reverse

/-- The text without the blanks at either end. -/
def trim (cs : List Char) : List Char :=
  trimEnd (trimStart cs)

end JsonSchema.Text
