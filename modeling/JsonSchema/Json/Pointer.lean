import JsonSchema.Json.Basic
import JsonSchema.Number.Decimal
import JsonSchema.Text.Split

/-!
# Pointers into documents

A fragment names a node of a document by the keys and indices that lead to it. In a token `~1` stands for
`/` and `~0` for `~`, because `/` separates the tokens.

## What is here

* `Pointer.Step` — a key or an index; `Json.follow?` takes one, `Json.walk?` a sequence of them.
* `Pointer.escape`, `Pointer.unescape` — a token as written, and what it stands for.
* `Json.navigate?` — **the node a fragment names**.
-/

set_option autoImplicit false

namespace JsonSchema

namespace Pointer

/-- One step from a node to a node directly below it. -/
inductive Step where
  | key (name : String)
  | index (position : Nat)
deriving DecidableEq, Repr

/-- A token as it stands in a pointer. -/
def escape : List Char → List Char
  | [] => []
  | '~' :: cs => '~' :: '0' :: escape cs
  | '/' :: cs => '~' :: '1' :: escape cs
  | c :: cs => c :: escape cs

/-- What a token of a pointer stands for; a tilde before any other character stands for itself. -/
def unescape : List Char → List Char
  | '~' :: '0' :: cs => '~' :: unescape cs
  | '~' :: '1' :: cs => '/' :: unescape cs
  | c :: cs => c :: unescape cs
  | [] => []

/-- Reading a token gives back what was written. -/
theorem unescape_escape (cs : List Char) : unescape (escape cs) = cs := by
  induction cs with
  | nil => rfl
  | cons c cs ih =>
    by_cases ht : c = '~'
    · subst ht; simp [escape, unescape, ih]
    · by_cases hs : c = '/'
      · subst hs; simp [escape, unescape, ih]
      · rw [escape.eq_4 _ _ ht hs, unescape.eq_3 _ _ (by simp_all) (by simp_all), ih]

/-- A position in an array, in decimal without a superfluous zero. -/
def index? (token : List Char) : Option Nat :=
  match token with
  | [] => none
  | ['0'] => some 0
  | '0' :: _ => none
  | cs => if cs.all Char.isDigit then some (digitsValue cs) else none

/-- The token of a step. -/
def Step.token : Step → List Char
  | .key name => escape name.toList
  | .index position => Nat.toDigits 10 position

end Pointer

namespace Json

/-- The node one step below. -/
def follow? (j : Json) (step : Pointer.Step) : Option Json :=
  match j, step with
  | .object members, .key name => find? members name
  | .array elements, .index position => elements[position]?
  | _, _ => none

/-- The node at the end of a sequence of steps. -/
def walk? (j : Json) : List Pointer.Step → Option Json
  | [] => some j
  | step :: steps => (j.follow? step).bind fun next => next.walk? steps

/-- The node one token below: a key of an object or a position in an array. -/
def child? (j : Json) (token : List Char) : Option Json :=
  match j with
  | .object members => find? members (String.ofList (Pointer.unescape token))
  | .array elements => (Pointer.index? (Pointer.unescape token)).bind fun position => elements[position]?
  | _ => none

/-- The node at the end of a sequence of tokens. -/
def descend? (j : Json) : List (List Char) → Option Json
  | [] => some j
  | token :: tokens => (j.child? token).bind fun next => next.descend? tokens

/-- The node a fragment names. Hash signs in front do not count, and neither does a lone slash: both name
the whole document. Anything else has to start with a slash. -/
def navigate? (document : Json) (fragment : String) : Option Json :=
  match fragment.toList.dropWhile (· == '#') with
  | [] => some document
  | ['/'] => some document
  | '/' :: tokens => document.descend? (Text.splitOn '/' tokens)
  | _ => none

end Json

end JsonSchema
