import JsonSchema.Json.Basic
import JsonSchema.Number.Layout

/-!
# The compact text of a value

A value on one line without spaces. Messages quote it, `uniqueItems` compares by it, and the key of a
plan is a digest of it.

## What is here

* `Json.layout` — how floating-point numbers are written: positionally from `1e-5` up to below `1e16`,
  always with a point, and with a signed exponent elsewhere.
* `Json.escape` — a character inside a string: quotes, backslashes and control characters are escaped,
  everything else stands for itself.
* `Json.chars`, `Json.text` — the compact text.
-/

set_option autoImplicit false

namespace JsonSchema.Json

/-- Floating-point numbers are written out from `1e-5` up to below `1e16`, with a point in any case. -/
def layout : Layout where
  leastPoint := -4
  greatestPoint := 16
  wholeSuffix := ['.', '0']
  upward := ['e', '+']
  downward := ['e', '-']

/-- A whole number in decimal. -/
def integerChars (n : Int) : List Char :=
  (if n < 0 then ['-'] else []) ++ Nat.toDigits 10 n.natAbs

/-- A hexadecimal digit in lower case. -/
def hexDigit (n : Nat) : Char :=
  Nat.digitChar (n % 16)

/-- A character as it stands inside a string. -/
def escape (c : Char) : List Char :=
  match c with
  | '"' => ['\\', '"']
  | '\\' => ['\\', '\\']
  | '\x08' => ['\\', 'b']
  | '\x0c' => ['\\', 'f']
  | '\n' => ['\\', 'n']
  | '\r' => ['\\', 'r']
  | '\t' => ['\\', 't']
  | c => if c.toNat < 32 then ['\\', 'u', '0', '0', hexDigit (c.toNat / 16), hexDigit c.toNat] else [c]

/-- A string in quotes. -/
def quoted (s : String) : List Char :=
  '"' :: (s.toList.flatMap escape ++ ['"'])

mutual

/-- The characters of the compact text. -/
def chars : Json → List Char
  | .null => ['n', 'u', 'l', 'l']
  | .bool true => ['t', 'r', 'u', 'e']
  | .bool false => ['f', 'a', 'l', 's', 'e']
  | .integer n => integerChars n
  | .real x => layout.text x
  | .string s => quoted s
  | .array [] => ['[', ']']
  | .array (e :: es) => '[' :: (chars e ++ elementChars es)
  | .object [] => ['{', '}']
  | .object ((k, v) :: ms) => '{' :: (quoted k ++ ':' :: (chars v ++ memberChars ms))

/-- The further elements of an array, each behind a comma, and its end. -/
def elementChars : List Json → List Char
  | [] => [']']
  | e :: es => ',' :: (chars e ++ elementChars es)

/-- The further members of an object, each behind a comma, and its end. -/
def memberChars : List (String × Json) → List Char
  | [] => ['}']
  | (k, v) :: ms => ',' :: (quoted k ++ ':' :: (chars v ++ memberChars ms))

end

/-- The compact text of a value. -/
def text (j : Json) : String :=
  String.ofList (chars j)

end JsonSchema.Json
