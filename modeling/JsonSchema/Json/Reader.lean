import JsonSchema.Json.Numeral

/-!
# Reading JSON texts

A pushdown machine that is fed one character at a time: a lexer state for the token under way, and a stack
of the arrays and objects that are still open. Each character is looked at once, so reading ends by
recursion on the text.

## What is here

* `Lexing` — what is known of the token under way.
* `Frame` — an open array or object.
* `Reader` — the state of the machine, `Reader.step` its transition.
* `Json.read?` — **the value of a text**, or nothing if the text is not JSON or nests deeper than 127.
-/

set_option autoImplicit false

namespace JsonSchema

/-- What is known of the token under way; characters are kept in reverse. -/
inductive Lexing where
  | between
  | text (before : List Char)
  | escape (before : List Char) (high : Option Nat)
  | unicode (before : List Char) (high : Option Nat) (count value : Nat)
  | lowSurrogate (before : List Char) (high : Nat)
  | numeral (before : List Char)
  | word (before : List Char)

/-- An array or object whose end has not come; what it holds so far is kept in reverse. -/
inductive Frame where
  | array (before : List Json)
  | object (before : Members)
  | entry (before : Members) (key : String)

/-- What may come next, outside a token. -/
inductive Expecting where
  | value
  | valueOrEnd
  | key
  | keyOrEnd
  | colon
  | comma
  | nothing
deriving DecidableEq

/-- The state of the machine. -/
structure Reader where
  lexing : Lexing
  stack : List Frame
  expecting : Expecting
  result : Option Json

namespace Reader

/-- Before the first character. -/
def start : Reader := ⟨.between, [], .value, none⟩

/-- The deepest nesting of arrays and objects. -/
def maxNesting : Nat := 127

/-! ## Values -/

/-- Gives a finished value to the innermost open container. -/
def deliver (r : Reader) (j : Json) : Reader :=
  match r.stack with
  | [] => { r with lexing := .between, expecting := .nothing, result := some j }
  | .array before :: stack =>
    { r with lexing := .between, stack := .array (j :: before) :: stack, expecting := .comma }
  | .entry before key :: stack =>
    { r with lexing := .between, stack := .object ((key, j) :: before) :: stack, expecting := .comma }
  | .object _ :: _ => { r with lexing := .between }

/-- Whether a value may come next. -/
def expectsValue (r : Reader) : Bool :=
  r.expecting == .value || r.expecting == .valueOrEnd

/-- A finished string is a value or the key of a member. -/
def deliverText (r : Reader) (s : String) : Option Reader :=
  match r.expecting, r.stack with
  | .key, .object before :: stack | .keyOrEnd, .object before :: stack =>
    some { r with lexing := .between, stack := .entry before s :: stack, expecting := .colon }
  | _, _ => if r.expectsValue then some (r.deliver (.string s)) else none

/-- The word that a literal is written as. -/
def literal? (word : List Char) : Option Json :=
  if word == ['n', 'u', 'l', 'l'] then some .null
  else if word == ['t', 'r', 'u', 'e'] then some (.bool true)
  else if word == ['f', 'a', 'l', 's', 'e'] then some (.bool false)
  else none

/-- Ends a numeral or a word, which nothing but the next character can end. -/
def finishToken (r : Reader) : Option Reader :=
  match r.lexing with
  | .numeral before => (Numeral.read? before.reverse).map r.deliver
  | .word before => (literal? before.reverse).map r.deliver
  | .between => some r
  | _ => none

/-! ## Characters between tokens -/

/-- Opens a container, unless too many are open. -/
def openFrame (r : Reader) (frame : Frame) (next : Expecting) : Option Reader :=
  if r.expectsValue && r.stack.length < maxNesting then
    some { r with stack := frame :: r.stack, expecting := next }
  else none

/-- Members in the order of their first mention, each with its last value. -/
def membersOf (reversed : Members) : Members :=
  reversed.foldr (fun m members => Json.insert members m.1 m.2) []

/-- Ends the innermost container by the given bracket. -/
def closeFrame (r : Reader) (bracket : Char) : Option Reader :=
  match bracket, r.stack, r.expecting with
  | ']', .array before :: stack, .valueOrEnd | ']', .array before :: stack, .comma =>
    some ({ r with stack }.deliver (.array before.reverse))
  | '}', .object before :: stack, .keyOrEnd | '}', .object before :: stack, .comma =>
    some ({ r with stack }.deliver (.object (membersOf before)))
  | _, _, _ => none

/-- What follows a comma in the innermost container. -/
def afterComma (r : Reader) : Option Reader :=
  match r.expecting, r.stack with
  | .comma, .array _ :: _ => some { r with expecting := .value }
  | .comma, .object _ :: _ => some { r with expecting := .key }
  | _, _ => none

/-- A character that starts or is a token of its own. -/
def startToken (r : Reader) (c : Char) : Option Reader :=
  if c == ' ' || c == '\n' || c == '\r' || c == '\t' then some r
  else if c == '"' then
    if r.expecting == .comma || r.expecting == .colon || r.expecting == .nothing then none
    else some { r with lexing := .text [] }
  else if c == '[' then r.openFrame (.array []) .valueOrEnd
  else if c == '{' then r.openFrame (.object []) .keyOrEnd
  else if c == ']' || c == '}' then r.closeFrame c
  else if c == ',' then r.afterComma
  else if c == ':' then
    if r.expecting == .colon then some { r with expecting := .value } else none
  else if !r.expectsValue then none
  else if c == '-' || c.isDigit then some { r with lexing := .numeral [c] }
  else if c.isLower then some { r with lexing := .word [c] }
  else none

/-! ## Characters inside strings -/

/-- The value of a hexadecimal digit. -/
def hexValue? (c : Char) : Option Nat :=
  if c.isDigit then some (c.toNat - 48)
  else if 'a' ≤ c && c ≤ 'f' then some (c.toNat - 87)
  else if 'A' ≤ c && c ≤ 'F' then some (c.toNat - 55)
  else none

/-- The character an escape letter stands for. -/
def escaped? (c : Char) : Option Char :=
  match c with
  | '"' => some '"'
  | '\\' => some '\\'
  | '/' => some '/'
  | 'b' => some '\x08'
  | 'f' => some '\x0c'
  | 'n' => some '\n'
  | 'r' => some '\r'
  | 't' => some '\t'
  | _ => none

/-- A finished `\u` escape: a code unit alone, the first half of a pair, or its second half. -/
def finishUnicode (before : List Char) (high : Option Nat) (unit : Nat) : Option Lexing :=
  match high with
  | some h =>
    if 0xDC00 ≤ unit && unit ≤ 0xDFFF then
      some (.text (Char.ofNat (0x10000 + (h - 0xD800) * 0x400 + (unit - 0xDC00)) :: before))
    else none
  | none =>
    if 0xD800 ≤ unit && unit ≤ 0xDBFF then some (.lowSurrogate before unit)
    else if 0xDC00 ≤ unit && unit ≤ 0xDFFF then none
    else some (.text (Char.ofNat unit :: before))

/-! ## The machine -/

/-- One character. -/
def step (r : Reader) (c : Char) : Option Reader :=
  match r.lexing with
  | .between => r.startToken c
  | .text before =>
    if c == '"' then r.deliverText (String.ofList before.reverse)
    else if c == '\\' then some { r with lexing := .escape before none }
    else if c.toNat < 32 then none
    else some { r with lexing := .text (c :: before) }
  | .escape before high =>
    if c == 'u' then some { r with lexing := .unicode before high 0 0 }
    else if high.isSome then none
    else (escaped? c).map fun e => { r with lexing := .text (e :: before) }
  | .unicode before high count value =>
    (hexValue? c).bind fun d =>
      let value := 16 * value + d
      if count == 3 then (finishUnicode before high value).map fun l => { r with lexing := l }
      else some { r with lexing := .unicode before high (count + 1) value }
  | .lowSurrogate before high =>
    if c == '\\' then some { r with lexing := .escape before (some high) } else none
  | .numeral before =>
    if c.isDigit || c == '+' || c == '-' || c == '.' || c == 'e' || c == 'E' then
      some { r with lexing := .numeral (c :: before) }
    else r.finishToken.bind fun r => r.startToken c
  | .word before =>
    if c.isLower then some { r with lexing := .word (c :: before) }
    else r.finishToken.bind fun r => r.startToken c

/-- The value read, if nothing is left open. -/
def finish (r : Reader) : Option Json :=
  r.finishToken.bind fun r => if r.stack.isEmpty then r.result else none

end Reader

/-- The value of a JSON text. -/
def Json.read? (text : String) : Option Json :=
  (text.toList.foldlM Reader.step Reader.start).bind Reader.finish

end JsonSchema
