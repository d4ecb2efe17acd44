import JsonSchema.Number.Decimal
import JsonSchema.Text.Split

/-!
# Addresses of 32 bits

## What is here

* `Ipv4.strict?` — the dotted form: four decimal numbers up to 255 without superfluous zeros.
* `Ipv4.lenient?` — the form in a URL: up to four numbers in decimal, octal or hexadecimal notation, the last
  of which fills the remaining bytes.
* `Ipv4.text` — the dotted form of a number of 32 bits.
-/

set_option autoImplicit false

namespace JsonSchema.Ipv4

/-- A number up to 255 without superfluous zeros. -/
def octet? (cs : List Char) : Option Nat :=
  match cs with
  | [] => none
  | c :: rest =>
    if !cs.all Char.isDigit || cs.length > 3 || (c == '0' && !rest.isEmpty) then none
    else if digitsValue cs ≤ 255 then some (digitsValue cs)
    else none

/-- The four numbers of the dotted form. -/
def strict? (cs : List Char) : Option (List Nat) :=
  let pieces := Text.splitOn '.' cs
  if pieces.length == 4 then pieces.mapM octet? else none

/-- The dotted form. -/
def text (address : Nat) : List Char :=
  Text.joinWith '.' ([address / 2 ^ 24, address / 2 ^ 16 % 256, address / 2 ^ 8 % 256, address % 256].map
    fun n => Nat.toDigits 10 n)

/-! ## The lenient form -/

/-- The value of a digit in a base up to sixteen. -/
def digit? (base : Nat) (c : Char) : Option Nat :=
  let value :=
    if c.isDigit then c.toNat - 48
    else if 'a' ≤ c && c ≤ 'f' then c.toNat - 87
    else if 'A' ≤ c && c ≤ 'F' then c.toNat - 55
    else base
  if value < base then some value else none

/-- A number with the notation of its base: `0x` for sixteen, `0` for eight. A bare mark is zero. -/
def number? (cs : List Char) : Option Nat :=
  let ofBase (base : Nat) (ds : List Char) : Option Nat :=
    (ds.mapM (digit? base)).map fun values => values.foldl (fun n d => base * n + d) 0
  match cs with
  | [] => none
  | '0' :: 'x' :: ds => ofBase 16 ds
  | '0' :: 'X' :: ds => ofBase 16 ds
  | '0' :: d :: ds => ofBase 8 (d :: ds)
  | ds => ofBase 10 ds

/-- Whether the last name of a host is a number, so that the host has to be an address. One trailing dot
does not count. -/
def endsInNumber (host : List Char) : Bool :=
  let last := match (Text.splitOn '.' host).reverse with
    | [] :: piece :: _ => piece
    | [[]] => []
    | piece :: _ => piece
    | [] => []
  (!last.isEmpty && last.all Char.isDigit) || (number? last).isSome

/-- The number of 32 bits that a host spells. -/
def lenient? (host : List Char) : Option Nat :=
  let pieces := Text.splitOn '.' host
  let pieces := if pieces.getLast? == some [] then pieces.dropLast else pieces
  if pieces.length > 4 then none
  else (pieces.mapM number?).bind fun numbers =>
    match numbers.reverse with
    | [] => none
    | last :: firsts =>
      let free := 4 - firsts.length
      if last < 2 ^ (8 * free) && firsts.all (· ≤ 255) then
        some (firsts.reverse.foldl (fun n b => 256 * n + b) 0 * 2 ^ (8 * free) + last)
      else none

end JsonSchema.Ipv4
