import JsonSchema.Text.Split
import JsonSchema.Unicode.Category

/-!
# Phone numbers

## What is here

* `Phone.isPhone` — three, three and four digits with blanks between them. The first three may stand in brackets,
  and a plus sign may stand before them. The digits may be those of any script.
-/

set_option autoImplicit false

namespace JsonSchema.Phone

/-- Whether a text consists of a number of digits. -/
def isDigits (count : Nat) (cs : List Char) : Bool :=
  cs.length == count && cs.all Category.ndRuns.contains

/-- Whether a text is an area code. -/
def isArea (cs : List Char) : Bool :=
  isDigits 3 cs ||
    match cs with
    | '(' :: rest => rest.getLast? == some ')' && isDigits 3 rest.dropLast
    | _ => false

/-- Whether a text is a phone number. -/
def isPhone (text : String) : Bool :=
  let cs := match text.toList with
    | '+' :: rest => rest
    | rest => rest
  match Text.splitOn ' ' cs with
  | [area, exchange, line] => isArea area && isDigits 3 exchange && isDigits 4 line
  | _ => false

end JsonSchema.Phone
