import Mathlib.Algebra.Order.Ring.Nat
import Mathlib.Data.List.Induction
import Mathlib.Data.List.TakeWhile
import JsonSchema.Number.Decimal
import JsonSchema.Proofs.Text

/-!
# The grammar of decimal numbers

The texts that are read as decimal numbers, taken apart: a sign, digits, a point with digits behind it, and an exponent.
All of it but one digit may be missing.

## What is here

* `Decimal.Form` — a decimal number as people may write it; `Form.chars` is the text and `Form.decimal` its meaning.
* `Decimal.read?_iff` — **the texts that are read as decimal numbers are the texts of forms**, with their meaning.
-/

set_option autoImplicit false

namespace JsonSchema

/-! ## Digits -/

theorem isDigit_range {c : Char} (h : c.isDigit = true) : 48 ≤ c.toNat ∧ c.toNat ≤ 57 := Char.isDigit_iff_toNat.mp h

theorem isDigit_ne {c d : Char} (hc : c.isDigit = true) (hd : d.isDigit = false) : c ≠ d := by
  rintro rfl
  rw [hc] at hd
  cases hd

theorem digitsValue_eq_ofDigitChars (cs : List Char) : digitsValue cs = Nat.ofDigitChars 10 cs 0 := rfl

theorem digitsValue_toDigits (n : Nat) : digitsValue (Nat.toDigits 10 n) = n :=
  Nat.ofDigitChars_ten_toDigits

theorem isDigit_of_mem_toDigits {n : Nat} : ∀ c ∈ Nat.toDigits 10 n, c.isDigit = true := fun _ hc =>
  Nat.isDigit_of_mem_toDigits (by decide) (by decide) hc

theorem digitsValue_append_singleton (cs : List Char) (c : Char) :
    digitsValue (cs ++ [c]) = 10 * digitsValue cs + (c.toNat - 48) := by
  simp [digitsValue]

/-- As many digits as there are bound what they spell. -/
theorem digitsValue_lt {cs : List Char} (h : ∀ c ∈ cs, c.isDigit = true) : digitsValue cs < 10 ^ cs.length := by
  induction cs using List.reverseRecOn with
  | nil => decide
  | append_singleton cs c ih =>
    have hrange := isDigit_range (h c (by simp))
    have hfront := ih fun d hd => h d (by simp [hd])
    rw [digitsValue_append_singleton, List.length_append, List.length_singleton, pow_succ]
    omega

namespace Decimal

/-! ## Signs -/

/-- A sign as it is written, if it is. -/
inductive Sign where
  | unwritten
  | plus
  | minus
deriving DecidableEq

namespace Sign

/-- The text of a sign. -/
def chars : Sign → List Char
  | unwritten => []
  | plus => ['+']
  | minus => ['-']

/-- Whether the sign makes a number negative. -/
def negates (s : Sign) : Bool := s == minus

end Sign

/-- Every text starts with a sign, which may be unwritten. -/
theorem exists_takeSign (cs : List Char) :
    ∃ s : Sign, s.chars ++ (takeSign cs).2 = cs ∧ s.negates = (takeSign cs).1 := by
  unfold takeSign
  split
  · exact ⟨.minus, rfl, rfl⟩
  · exact ⟨.plus, rfl, rfl⟩
  · exact ⟨.unwritten, rfl, rfl⟩

/-- A sign is taken off a text that does not go on with another one. -/
theorem takeSign_chars (s : Sign) {cs : List Char} (h : ∀ c ∈ cs.head?, c ≠ '-' ∧ c ≠ '+') :
    takeSign (s.chars ++ cs) = (s.negates, cs) := by
  cases s with
  | plus => rfl
  | minus => rfl
  | unwritten =>
    cases cs with
    | nil => rfl
    | cons c cs =>
      obtain ⟨hminus, hplus⟩ := h c rfl
      simp [Sign.chars, Sign.negates, takeSign, hminus, hplus]

/-- Digits do not start with a sign. -/
theorem takeSign_digits (s : Sign) {ds : List Char} (hds : ∀ c ∈ ds, c.isDigit = true) :
    takeSign (s.chars ++ ds) = (s.negates, ds) :=
  takeSign_chars s fun c hc =>
    have hdigit := hds c (List.mem_of_mem_head? hc)
    ⟨isDigit_ne hdigit (by decide), isDigit_ne hdigit (by decide)⟩

/-! ## Exponents -/

/-- An exponent as it is written: a mark, a sign and digits. -/
structure Exponent where
  mark : Char
  sign : Sign
  digits : List Char
  mark_eq : mark = 'e' ∨ mark = 'E'
  digits_ne : digits ≠ []
  all_digits : ∀ c ∈ digits, c.isDigit = true

namespace Exponent

/-- The text behind the mark. -/
def numberChars (e : Exponent) : List Char := e.sign.chars ++ e.digits

/-- The text of an exponent that may be missing. -/
def chars : Option Exponent → List Char
  | none => []
  | some e => e.mark :: e.numberChars

/-- What the exponent means; a missing one means zero. -/
def value : Option Exponent → Int
  | none => 0
  | some e => if e.sign.negates then -(digitsValue e.digits : Int) else digitsValue e.digits

theorem head?_chars (e : Option Exponent) : ∀ c ∈ (chars e).head?, c = 'e' ∨ c = 'E' := by
  cases e with
  | none => simp [chars]
  | some e =>
    rintro c hc
    obtain rfl : e.mark = c := by simpa [chars] using hc
    exact e.mark_eq

end Exponent

theorem exponent?_chars (e : Option Exponent) : exponent? (Exponent.chars e) = some (Exponent.value e) := by
  cases e with
  | none => rfl
  | some e =>
    have hmark : (e.mark == 'e' || e.mark == 'E') = true := by simpa using e.mark_eq
    have hdigits : (!e.digits.isEmpty && e.digits.all Char.isDigit) = true := by
      simpa [e.digits_ne] using e.all_digits
    rw [Exponent.chars, exponent?, if_pos hmark, Exponent.numberChars, takeSign_digits e.sign e.all_digits]
    exact if_pos hdigits

/-- Exponents are read from the texts of exponents only. -/
theorem exists_exponent {cs : List Char} {v : Int} (h : exponent? cs = some v) :
    ∃ e, Exponent.chars e = cs ∧ Exponent.value e = v := by
  cases cs with
  | nil =>
    cases h
    exact ⟨none, rfl, rfl⟩
  | cons c cs =>
    obtain ⟨s, hcs, hs⟩ := exists_takeSign cs
    rw [exponent?] at h
    split at h
    · rename_i hmark
      dsimp only at h
      split at h
      · rename_i hdigits
        simp only [Bool.and_eq_true, Bool.not_eq_true', List.isEmpty_eq_false_iff, List.all_eq_true] at hdigits
        let e : Exponent :=
          { mark := c, sign := s, digits := (takeSign cs).2, mark_eq := by simpa using hmark, digits_ne := hdigits.1,
            all_digits := hdigits.2 }
        refine ⟨some e, congrArg (c :: ·) hcs, ?_⟩
        rw [← hs] at h
        exact Option.some.inj h
      · cases h
    · cases h

/-! ## Numbers -/

/-- A decimal number as people may write it: a sign, digits, a point with digits behind it, an exponent. There is at least
one digit on either side of the point. -/
structure Form where
  sign : Sign
  whole : List Char
  fraction : Option (List Char)
  exponent : Option Exponent
  whole_digits : ∀ c ∈ whole, c.isDigit = true
  fraction_digits : ∀ c ∈ fraction.getD [], c.isDigit = true
  some_digit : whole ≠ [] ∨ fraction.getD [] ≠ []

namespace Form

/-- The point, with the digits behind it. -/
def pointChars : Option (List Char) → List Char
  | none => []
  | some ds => '.' :: ds

/-- The text of a number. -/
def chars (n : Form) : List Char :=
  n.sign.chars ++ (n.whole ++ (pointChars n.fraction ++ Exponent.chars n.exponent))

/-- The number of digits behind the point. -/
def places (n : Form) : Nat := (n.fraction.getD []).length

/-- The decimal that the text means. -/
def decimal (n : Form) : Decimal :=
  { negative := n.sign.negates
    digits := digitsValue (n.whole ++ n.fraction.getD [])
    places := n.places
    exponent := Exponent.value n.exponent }

/-- What stands in front of the point and the exponent. -/
theorem head?_behind_sign (n : Form) :
    ∀ c ∈ (n.whole ++ (pointChars n.fraction ++ Exponent.chars n.exponent)).head?, c ≠ '-' ∧ c ≠ '+' := by
  intro c hc
  cases hwhole : n.whole with
  | cons d ds =>
    obtain rfl : d = c := by simpa [hwhole] using hc
    have hdigit := n.whole_digits d (by simp [hwhole])
    exact ⟨isDigit_ne hdigit (by decide), isDigit_ne hdigit (by decide)⟩
  | nil =>
    cases hfraction : n.fraction with
    | some ds =>
      obtain rfl : '.' = c := by simpa [hwhole, hfraction, pointChars] using hc
      decide
    | none => exact absurd n.some_digit (by simp [hwhole, hfraction])

/-- A point or an exponent ends the digits in front of it. -/
theorem head?_pointChars (n : Form) :
    ∀ c ∈ (pointChars n.fraction ++ Exponent.chars n.exponent).head?, c.isDigit = false := by
  intro c hc
  cases hfraction : n.fraction with
  | some ds =>
    obtain rfl : '.' = c := by simpa [hfraction, pointChars] using hc
    decide
  | none =>
    rcases Exponent.head?_chars n.exponent c (by simpa [hfraction, pointChars] using hc) with rfl | rfl <;> decide

theorem head?_exponent (n : Form) : ∀ c ∈ (Exponent.chars n.exponent).head?, c.isDigit = false := by
  intro c hc
  rcases Exponent.head?_chars n.exponent c hc with rfl | rfl <;> decide

end Form

/-- The digits behind a point that may be missing, and the rest. -/
def takeFraction : List Char → List Char × List Char
  | '.' :: rest => (rest.takeWhile Char.isDigit, rest.dropWhile Char.isDigit)
  | rest => ([], rest)

/-- The steps of reading a number. -/
theorem read?_eq (cs : List Char) : read? cs =
    let (negative, rest) := takeSign cs
    let whole := rest.takeWhile Char.isDigit
    let (fraction, rest) := takeFraction (rest.dropWhile Char.isDigit)
    if whole.isEmpty && fraction.isEmpty then none
    else (exponent? rest).map fun e =>
      { negative, digits := digitsValue (whole ++ fraction), places := fraction.length, exponent := e } := rfl

theorem takeFraction_chars (n : Form) :
    takeFraction (Form.pointChars n.fraction ++ Exponent.chars n.exponent) =
      (n.fraction.getD [], Exponent.chars n.exponent) := by
  cases hfraction : n.fraction with
  | some ds =>
    have hds : ∀ c ∈ ds, c.isDigit = true := by simpa [hfraction] using n.fraction_digits
    simp only [Form.pointChars, List.cons_append, takeFraction, Option.getD_some]
    rw [Text.takeWhile_append_stop hds n.head?_exponent, Text.dropWhile_append_stop hds n.head?_exponent]
  | none =>
    cases he : n.exponent with
    | none => rfl
    | some e =>
      have hmark : e.mark ≠ '.' := by rcases e.mark_eq with h | h <;> rw [h] <;> decide
      simp [Form.pointChars, Exponent.chars, takeFraction, hmark]

/-- The text of a form is read as its meaning. -/
theorem read?_chars (n : Form) : read? n.chars = some n.decimal := by
  have hdigit : (n.whole.isEmpty && (n.fraction.getD []).isEmpty) = false := by
    rw [Bool.and_eq_false_iff]
    simpa using n.some_digit
  rw [read?_eq, Form.chars, takeSign_chars n.sign n.head?_behind_sign]
  dsimp only
  rw [Text.takeWhile_append_stop n.whole_digits n.head?_pointChars,
    Text.dropWhile_append_stop n.whole_digits n.head?_pointChars, takeFraction_chars]
  dsimp only
  rw [hdigit, exponent?_chars]
  rfl

/-- Whatever stands behind the digits in front starts with a point or not. -/
theorem exists_takeFraction (cs : List Char) : ∃ fraction, Form.pointChars fraction ++ (takeFraction cs).2 = cs ∧
    fraction.getD [] = (takeFraction cs).1 ∧ ∀ c ∈ fraction.getD [], c.isDigit = true := by
  unfold takeFraction
  split
  · rename_i rest
    exact ⟨some (rest.takeWhile Char.isDigit), congrArg ('.' :: ·) List.takeWhile_append_dropWhile, rfl,
      fun c hc => List.mem_takeWhile_imp hc⟩
  · exact ⟨none, rfl, rfl, by simp⟩

/-- **The texts that are read as decimal numbers are the texts of forms.** -/
theorem read?_iff {cs : List Char} {d : Decimal} : read? cs = some d ↔ ∃ n : Form, n.chars = cs ∧ n.decimal = d := by
  constructor
  · intro h
    obtain ⟨s, hcs, hs⟩ := exists_takeSign cs
    obtain ⟨fraction, hrest, hfraction, hdigits⟩ :=
      exists_takeFraction ((takeSign cs).2.dropWhile Char.isDigit)
    rw [read?_eq] at h
    dsimp only at h
    rw [← hfraction, ← hs] at h
    split at h
    · cases h
    · rename_i hsome
      obtain ⟨v, hv, rfl⟩ := Option.map_eq_some_iff.mp h
      obtain ⟨e, he, rfl⟩ := exists_exponent hv
      refine ⟨⟨s, (takeSign cs).2.takeWhile Char.isDigit, fraction, e, fun c hc => List.mem_takeWhile_imp hc, hdigits,
        ?_⟩, ?_, rfl⟩
      · simpa [imp_iff_not_or] using hsome
      · rw [Form.chars, he, hrest, List.takeWhile_append_dropWhile, hcs]
  · rintro ⟨n, rfl, rfl⟩
    exact read?_chars n

end Decimal

end JsonSchema
