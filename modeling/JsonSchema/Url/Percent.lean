import JsonSchema.Text.Utf8

/-!
# Percent encoding

Each part of a URL has a set of characters that are written as percent signs and hexadecimal bytes.
Characters outside ASCII always are.

## What is here

* `Percent.Set` — the characters of a part that are to be encoded, and the sets of the parts.
* `Percent.encode` — a text with the characters of a set encoded.
* `Percent.decode` — the bytes of a text whose encoded bytes are put back.
-/

set_option autoImplicit false

namespace JsonSchema.Percent

/-- Which ASCII characters a part of a URL encodes. -/
abbrev Set := Char → Bool

namespace Set

/-- Control characters, in every part. -/
def controls : Set := fun c => c.toNat < 32 || c.toNat == 127

/-- The characters of a list besides those of a set. -/
def adding (s : Set) (more : List Char) : Set := fun c => s c || more.contains c

def fragment : Set := controls.adding [' ', '"', '<', '>', '`']

def path : Set := fragment.adding ['#', '?', '{', '}']

/-- A single name of a file path, in which slashes and percent signs mean themselves. -/
def pathSegment : Set := path.adding ['/', '%', '\\']

def userinfo : Set := path.adding ['/', ':', ';', '=', '@', '[', '\\', ']', '^', '|']

def query : Set := controls.adding [' ', '"', '#', '<', '>']

/-- The query of a URL whose scheme is special. -/
def specialQuery : Set := query.adding ['\'']

end Set

/-- A byte behind a percent sign. -/
def byte (b : UInt8) : List Char :=
  let digit (n : Nat) : Char := (Nat.digitChar n).toUpper
  ['%', digit (b.toNat / 16), digit (b.toNat % 16)]

/-- A text with the characters of a set, and all outside ASCII, encoded. -/
def encode (s : Set) (cs : List Char) : List Char :=
  cs.flatMap fun c => if c.toNat > 127 || s c then (String.utf8EncodeChar c).flatMap byte else [c]

/-- The value of a hexadecimal digit. -/
def hexValue? (c : Char) : Option Nat :=
  if '0' ≤ c && c ≤ '9' then some (c.toNat - 48)
  else if 'a' ≤ c && c ≤ 'f' then some (c.toNat - 87)
  else if 'A' ≤ c && c ≤ 'F' then some (c.toNat - 55)
  else none

/-- The bytes of a text. A percent sign without two hexadecimal digits stands for itself. -/
def decode : List Char → List UInt8
  | [] => []
  | '%' :: h :: l :: cs =>
    match hexValue? h, hexValue? l with
    | some x, some y => UInt8.ofNat (16 * x + y) :: decode cs
    | _, _ => 0x25 :: decode (h :: l :: cs)
  | c :: cs => String.utf8EncodeChar c ++ decode cs

end JsonSchema.Percent
