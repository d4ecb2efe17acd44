import JsonSchema.Number.Power

/-!
# UTF-8

## What is here

* `Text.utf8` — the bytes of a text.
* `Text.ofUtf8` — the text of a sequence of bytes, with U+FFFD for what is not UTF-8.
-/

set_option autoImplicit false

namespace JsonSchema.Text

/-- The bytes of a text. -/
def utf8 (cs : List Char) : List UInt8 :=
  cs.flatMap String.utf8EncodeChar

/-- What stands for bytes that are not UTF-8. -/
def replacement : Char := '\uFFFD'

/-- Whether a byte continues a character. -/
def isContinuation (b : UInt8) : Bool := b &&& 0xC0 == 0x80

/-- Whether a byte may follow a leading byte: overlong forms, surrogates and code points beyond the last
one are excluded by their second byte. -/
def mayFollow (lead second : UInt8) : Bool :=
  if lead == 0xE0 then 0xA0 ≤ second && second ≤ 0xBF
  else if lead == 0xED then 0x80 ≤ second && second ≤ 0x9F
  else if lead == 0xF0 then 0x90 ≤ second && second ≤ 0xBF
  else if lead == 0xF4 then 0x80 ≤ second && second ≤ 0x8F
  else isContinuation second

/-- How many bytes the character has that starts with the byte; zero if none starts with it. -/
def sequenceLength (lead : UInt8) : Nat :=
  if lead < 0x80 then 1
  else if lead < 0xC2 then 0
  else if lead < 0xE0 then 2
  else if lead < 0xF0 then 3
  else if lead < 0xF5 then 4
  else 0

/-- The code point under way: its value so far, the bytes still to come, and the leading byte as long as
nothing has followed it. -/
structure Partial where
  value : Nat
  missing : Nat
  lead : Option UInt8

/-- The text of a sequence of bytes. The longest start of a character that nothing completes is replaced as
a whole. -/
def decode : Option Partial → List UInt8 → List Char
  | none, [] => []
  | some _, [] => [replacement]
  | none, b :: bs => begin b (decode none bs) (fun p => decode (some p) bs)
  | some p, b :: bs =>
    let fits := match p.lead with
      | some lead => mayFollow lead b
      | none => isContinuation b
    if fits then
      let value := p.value * 64 + (b &&& 0x3F).toNat
      if p.missing ≤ 1 then Char.ofNat value :: decode none bs
      else decode (some ⟨value, p.missing - 1, none⟩) bs
    else replacement :: begin b (decode none bs) (fun p => decode (some p) bs)
where
  /-- A byte where a character is to start. -/
  begin (b : UInt8) (rest : List Char) (more : Partial → List Char) : List Char :=
    match sequenceLength b with
    | 0 => replacement :: rest
    | 1 => Char.ofNat b.toNat :: rest
    | n + 1 => more ⟨b.toNat % 2 ^ (6 - n), n, some b⟩

/-- The text of a sequence of bytes. -/
def ofUtf8 (bytes : List UInt8) : List Char :=
  decode none bytes

end JsonSchema.Text
