import JsonSchema.Keyword.Subschema
import JsonSchema.Regex.Pattern

/-!
# Keywords for strings, numbers and enumerations

## What is here

* `TextRules` — lengths in characters, and a pattern that is searched for anywhere in the text.
* `NumberRules` — bounds, which may be exclusive, and divisors.
* `decimalPlaces`, `isMultiple` — the remainder of a division counts as zero if it vanishes in the decimal places
  in which the two numbers are written, or is tiny.
* `Enumeration` — a list of values, one of which the instance has to be.
-/

set_option autoImplicit false

namespace JsonSchema

/-! ## Strings -/

/-- What the keywords for strings say. -/
structure TextRules where
  maxLength : Option Limit
  minLength : Option Limit
  pattern : Option String
deriving DecidableEq

namespace TextRules

/-- The keywords of a schema object. -/
def parse (members : Members) : TextRules where
  maxLength := Limit.read? (Json.find? members "maxLength")
  minLength := Limit.read? (Json.find? members "minLength")
  pattern :=
    match Json.find? members "pattern" with
    | some (.string p) => some p
    | _ => none

/-- Records a text that is too long or too short. -/
def checkLength (r : TextRules) (text path : String) (s : ErrorSet) : ErrorSet :=
  let s := match r.maxLength with
    | some max =>
      if max.below text.length then s.add path ("must be at most " ++ max.text ++ " characters long") else s
    | none => s
  match r.minLength with
  | some min =>
    if min.above text.length then s.add path ("must be at least " ++ min.text ++ " characters long") else s
  | none => s

/-- Records a text in which the pattern is not found. A pattern that is none is a fault. -/
def checkPattern (r : TextRules) (text path : String) (s : ErrorSet) : Run ErrorSet :=
  match r.pattern with
  | none => pure s
  | some p =>
    match Pattern.read? p with
    | .error reason => .fail (.invalidPattern path p reason)
    | .ok regex =>
      pure (if regex.isIn text then s else s.add path ("does not match the regex pattern " ++ p))

end TextRules

/-! ## Numbers -/

/-- What the keywords for numbers say. -/
structure NumberRules where
  minimum : Option Limit
  exclusiveMinimum : Option Bool
  maximum : Option Limit
  exclusiveMaximum : Option Bool
  divisibleBy : Option Limit
  multipleOf : Option Limit
deriving DecidableEq

/-- What a keyword that should be a Boolean says; anything else but `null` means yes. -/
def flag? : Option Json → Option Bool
  | none | some .null => none
  | some (.bool b) => some b
  | some _ => some true

/-- A whole number of 64 bits with an optional sign. -/
def machineInteger? (cs : List Char) : Option Int :=
  let (negative, ds) := Decimal.takeSign cs
  if ds.isEmpty || !ds.all Char.isDigit then none
  else
    let n : Int := if negative then -(digitsValue ds : Int) else digitsValue ds
    if -2 ^ 63 ≤ n && n < 2 ^ 63 then some n else none

/-- The decimal places that a numeral shows, at most fifteen: the digits of its fraction less its exponent. An
exponent beyond 64 bits is not taken into account, and the difference is one of machine integers. -/
def decimalPlaces (text : String) : Nat :=
  let cs := (Text.trim text.toList).map Char.toLower
  let mantissa := cs.takeWhile (· != 'e')
  let exponent := (machineInteger? ((cs.dropWhile (· != 'e')).drop 1)).getD 0
  let fraction := (mantissa.dropWhile (· != '.')).drop 1
  (max 0 (min 15 (((fraction.length : Int) - exponent).bmod (2 ^ 64)))).toNat

/-- The number nearest to `1e-10`. -/
def tolerance : Binary64 := ⟨false, 7737125245533627, -86, by decide⟩

theorem tolerance_eq : Binary64.ofRatio? false 1 (10 ^ 10) = some tolerance := by decide

/-- Whether a remainder vanishes when it is rounded to a number of decimal places, a half away from zero. -/
def vanishes (remainder : Binary64) (places : Nat) : Bool :=
  match remainder.mul? (Binary64.ofNat (10 ^ places)) with
  | some scaled => scaled.abs.lt ⟨false, 2 ^ 52, -53, by decide⟩
  | none => false

/-- Whether a number counts as a multiple of another one. -/
def isMultiple (number : Binary64) (text : String) (divisor : Limit) : Bool :=
  match number.rem? divisor.value with
  | none => false
  | some remainder =>
    let gap := remainder.abs.sub? divisor.value.abs
    remainder.abs.lt tolerance || (gap.map fun g => g.abs.lt tolerance).getD false ||
      vanishes remainder (max (decimalPlaces text) (decimalPlaces divisor.text))

namespace NumberRules

/-- The keywords of a schema object. -/
def parse (members : Members) : NumberRules where
  minimum := Limit.read? (Json.find? members "minimum")
  exclusiveMinimum := flag? (Json.find? members "exclusiveMinimum")
  maximum := Limit.read? (Json.find? members "maximum")
  exclusiveMaximum := flag? (Json.find? members "exclusiveMaximum")
  divisibleBy := Limit.read? (Json.find? members "divisibleBy")
  multipleOf := Limit.read? (Json.find? members "multipleOf")

/-- Records a number below its minimum, or on it if that is excluded. -/
def checkMinimum (r : NumberRules) (number : Binary64) (path : String) (s : ErrorSet) : ErrorSet :=
  match r.minimum with
  | none =>
    if r.exclusiveMinimum.isSome then
      s.add path "use of exclusiveMinimum requires presence of minimum"
    else s
  | some min =>
    if r.exclusiveMinimum == some true && number.numEq min.value then
      s.add path ("must have a minimum value greater than boundary value of " ++ min.text)
    else if number.lt min.value then s.add path ("must have a minimum value of " ++ min.text)
    else s

/-- Records a number above its maximum, or on it if that is excluded. -/
def checkMaximum (r : NumberRules) (number : Binary64) (path : String) (s : ErrorSet) : ErrorSet :=
  match r.maximum with
  | none =>
    if r.exclusiveMaximum.isSome then
      s.add path "use of exclusiveMaximum requires presence of maximum"
    else s
  | some max =>
    if r.exclusiveMaximum == some true && number.numEq max.value then
      s.add path ("must have a maximum value less than boundary value of " ++ max.text)
    else if max.value.lt number then s.add path ("must have a maximum value of " ++ max.text)
    else s

/-- Records a number that is no multiple of a divisor. -/
def checkDivisor (divisor : Option Limit) (complaint : String) (number : Binary64) (text path : String)
    (s : ErrorSet) : ErrorSet :=
  match divisor with
  | some d => if isMultiple number text d then s else s.add path (complaint ++ d.text)
  | none => s

/-- Holds a number against all keywords; its text shows the decimal places it is written in. -/
def check (r : NumberRules) (number : Binary64) (text path : String) (s : ErrorSet) : ErrorSet :=
  let s := r.checkMinimum number path s
  let s := r.checkMaximum number path s
  let s := checkDivisor r.divisibleBy "is not divisible by " number text path s
  checkDivisor r.multipleOf "must be a multiple of " number text path s

end NumberRules

/-! ## Enumerations -/

/-- A list of values. An absent instance is held against it only where presence is required. -/
structure Enumeration where
  candidates : List Json
  text : String
  checkAbsent : Bool

namespace Enumeration

/-- The enumeration of a schema object; a value that is no list stands for itself. -/
def parse? (members : Members) (required : Bool) : Option Enumeration :=
  (Json.findSome? members "enum").map fun j =>
    { candidates := match j with
        | .array values => values
        | single => [single]
      text := j.text
      checkAbsent := required }

/-- Records an instance that is none of the values. -/
def check (e : Enumeration) (i : Instance) (path : String) (s : ErrorSet) : ErrorSet :=
  if i.isAbsent && !e.checkAbsent then s
  else if e.candidates.any i.sameAs then s
  else s.add path ("does not have a value in the enumeration " ++ e.text)

end Enumeration

end JsonSchema
