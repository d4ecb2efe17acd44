import JsonSchema.Number.Decimal

/-!
# Dates and times

## What is here

* `isDate`, `isClockTime` — which numbers make a date of the Gregorian calendar, and which a time of day.
* `isDateText`, `isTimeText` — the two formats with loose fields: a number may have fewer digits than usual, and
  blanks before it. A year with a sign may have any number of digits.
* `isTimestampText` — **a date, a time and an offset from universal time**, with fields of a fixed width.
-/

set_option autoImplicit false

namespace JsonSchema.Calendar

/-! ## Dates and times as numbers -/

/-- Whether a year has a 29th of February. -/
def isLeapYear (year : Int) : Bool :=
  year % 4 == 0 && (year % 100 != 0 || year % 400 == 0)

/-- The number of days of a month. -/
def daysIn (year : Int) (month : Nat) : Nat :=
  if month == 2 then if isLeapYear year then 29 else 28
  else if month == 4 || month == 6 || month == 9 || month == 11 then 30
  else 31

/-- Whether there is such a date. Years are limited to what a count of days in 32 bits leaves room for. -/
def isDate (year : Int) (month day : Nat) : Bool :=
  -262143 ≤ year && year ≤ 262142 && 1 ≤ month && month ≤ 12 && 1 ≤ day && day ≤ daysIn year month

/-- Whether there is such a time. Second 60 is a leap second, which any minute may have. -/
def isClockTime (hour minute second : Nat) : Bool :=
  hour ≤ 23 && minute ≤ 59 && second ≤ 60

/-! ## Fields -/

/-- A number of some digits, as many as there are up to a limit, and the rest. -/
def digits? (least most : Nat) (cs : List Char) : Option (Nat × List Char) :=
  let ds := (cs.take most).takeWhile Char.isDigit
  if ds.length < least then none else some (digitsValue ds, cs.drop ds.length)

/-- What follows a given character. -/
def after? (c : Char) : List Char → Option (List Char)
  | [] => none
  | d :: cs => if d == c then some cs else none

/-- A number of one or two digits behind blanks. -/
def looseField? (cs : List Char) : Option (Nat × List Char) :=
  digits? 1 2 (Text.trimStart cs)

/-- A year behind blanks: up to four digits, or a sign and any number of them. -/
def looseYear? (cs : List Char) : Option (Int × List Char) :=
  match Text.trimStart cs with
  | '-' :: cs => (digits? 1 cs.length cs).map fun (n, cs) => (-(n : Int), cs)
  | '+' :: cs => (digits? 1 cs.length cs).map fun (n, cs) => ((n : Int), cs)
  | cs => (digits? 1 4 cs).map fun (n, cs) => ((n : Int), cs)

/-! ## The formats -/

/-- Whether a text is a year, a month and a day with hyphens between them. -/
def isDateText (text : String) : Bool :=
  (do
    let (year, cs) ← looseYear? text.toList
    let (month, cs) ← looseField? (← after? '-' cs)
    let (day, cs) ← looseField? (← after? '-' cs)
    return cs.isEmpty && isDate year month day).getD false

/-- Whether a text is an hour, a minute and a second with colons between them. -/
def isTimeText (text : String) : Bool :=
  (do
    let (hour, cs) ← looseField? text.toList
    let (minute, cs) ← looseField? (← after? ':' cs)
    let (second, cs) ← looseField? (← after? ':' cs)
    return cs.isEmpty && isClockTime hour minute second).getD false

/-- What follows the fraction of a second, if there is one. -/
def afterFraction? : List Char → Option (List Char)
  | '.' :: cs => (digits? 1 cs.length cs).map (·.2)
  | cs => some cs

/-- Whether a text is an offset from universal time: `Z`, or a sign, an hour and a minute. The sign may be the
mathematical minus sign. -/
def isOffset : List Char → Bool
  | ['Z'] => true
  | ['z'] => true
  | sign :: cs =>
    (sign == '+' || sign == '-' || sign == '\u2212') &&
      (do
        let (hour, cs) ← digits? 2 2 cs
        let (minute, cs) ← digits? 2 2 (← after? ':' cs)
        return cs.isEmpty && hour ≤ 23 && minute ≤ 59).getD false
  | [] => false

/-- Whether a character may stand between date and time. -/
def isDateEnd (c : Char) : Bool := c == 'T' || c == 't' || c == ' '

/-- Whether a text is a date, a time with an optional fraction of a second, and an offset. -/
def isTimestampText (text : String) : Bool :=
  (do
    let (year, cs) ← digits? 4 4 text.toList
    let (month, cs) ← digits? 2 2 (← after? '-' cs)
    let (day, cs) ← digits? 2 2 (← after? '-' cs)
    let (hour, cs) ← digits? 2 2 (← if (cs.head?.map isDateEnd).getD false then some cs.tail else none)
    let (minute, cs) ← digits? 2 2 (← after? ':' cs)
    let (second, cs) ← digits? 2 2 (← after? ':' cs)
    let cs ← afterFraction? cs
    return isDate year month day && isClockTime hour minute second && isOffset cs).getD false

end JsonSchema.Calendar
