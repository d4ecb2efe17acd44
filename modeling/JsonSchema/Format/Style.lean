import JsonSchema.Address.V4
import JsonSchema.Text.Blank
import JsonSchema.Text.Split

/-!
# Colours and styles

## What is here

* `Style.isColor` — a name of a colour, or three or six hexadecimal digits behind a hash sign.
* `Style.isStyle` — declarations with semicolons between them.
-/

set_option autoImplicit false

namespace JsonSchema.Style

/-- The colours that have a name. -/
def colorNames : List String :=
  ["maroon", "red", "orange", "yellow", "olive", "green", "purple", "fuchsia", "lime", "teal", "aqua", "blue",
   "navy", "black", "gray", "silver", "white"]

/-- Whether a text names a colour. -/
def isColor (text : String) : Bool :=
  colorNames.contains (String.ofList (text.toList.map Char.toLower)) ||
    match text.toList with
    | '#' :: ds => (ds.length == 3 || ds.length == 6) && ds.all fun d => (Ipv4.digit? 16 d).isSome
    | _ => false

/-- Whether a name of a property can start with a character. -/
def isNameStart (c : Char) : Bool := c.isAlpha || c == '_'

/-- Whether a name of a property can go on with a character. -/
def isNamePart (c : Char) : Bool := c.isAlphanum || c == '_' || c == '-'

/-- Whether a text without semicolons is a declaration: a name, a colon and a value, which may be blank. A hyphen
may stand before the name. -/
def isDeclaration (cs : List Char) : Bool :=
  let cs := match Text.trimStart cs with
    | '-' :: rest => rest
    | rest => rest
  match cs with
  | [] => false
  | c :: rest =>
    isNameStart c &&
      match Text.trimStart (rest.dropWhile isNamePart) with
      | ':' :: value => !value.isEmpty
      | _ => false

/-- Whether a text consists of declarations. Blank ones do not count. -/
def isStyle (text : String) : Bool :=
  (Text.splitOn ';' text.toList).all fun d => d.all Text.isBlank || isDeclaration d

end JsonSchema.Style
