import Mathlib.Data.Nat.Digits.Defs
import JsonSchema.Keyword.Scalar
import JsonSchema.Proofs.Number.Grammar
import JsonSchema.Proofs.Text

/-!
# Decimal places

A number that stands in a text shows as many decimal places as its fraction has digits, less its exponent. They are told
from the text, with an exponent of 64 bits, and the text may have an exponent beyond that: what counts as a number at
all is told with a part of the exponent only.

## What is here

* `Decimal.Form.shown` — the decimal places of a number, without a limit; at most fifteen of them are used, and at
  least none: `usedPlaces`.
* `decimalPlaces_of_trim` — what is told from a text, in 64 bits.
* `PlacesTold`, `decimalPlaces_of_readFinite?` — **when that is right** for a text that counts as a number: exactly as long
  as nothing goes beyond 64 bits, a few cases aside in which it comes to the same. For numbers other than zero in texts
  of ordinary length it always is. `not_forall_decimalPlaces_exact` — but not for all texts.
-/

set_option autoImplicit false

namespace JsonSchema

open Decimal

/-! ## Digits -/

theorem toLower_of_isDigit {c : Char} (h : c.isDigit = true) : c.toLower = c := by
  have hrange := isDigit_range h
  have hnot : ¬(c.val ≥ 'A'.val ∧ c.val ≤ 'Z'.val) := by
    rintro ⟨hlow, -⟩
    have : 65 ≤ c.toNat := hlow
    omega
  exact dif_neg hnot

/-! ## What counts of an exponent -/

namespace Decimal

/-- Digits are all taken in if what is taken in stays small. -/
theorem leadingDigits_of_lt {cs : List Char} (h : leadingDigits cs < 2 ^ 16) : leadingDigits cs = digitsValue cs := by
  induction cs using List.reverseRecOn with
  | nil => rfl
  | append_singleton cs c ih =>
    have hstep : leadingDigits (cs ++ [c]) =
        if leadingDigits cs < 2 ^ 16 then 10 * leadingDigits cs + (c.toNat - 48) else leadingDigits cs := by
      rw [leadingDigits, List.foldl_append]
      rfl
    rw [hstep] at h ⊢
    split at h
    · rename_i hfront
      rw [if_pos hfront, ih hfront, digitsValue_append_singleton]
    · contradiction

/-- An exponent counts as it is if what counts of it is small. -/
theorem leadingPart_of_lt {e : Int} (h : (leadingPart e).natAbs < 2 ^ 16) : leadingPart e = e := by
  have hsmall : leadingDigits (Nat.toDigits 10 e.natAbs) < 2 ^ 16 := by
    unfold leadingPart at h
    dsimp only at h
    split at h <;> omega
  have hall := leadingDigits_of_lt hsmall
  rw [digitsValue_toDigits] at hall
  unfold leadingPart
  dsimp only
  rw [hall]
  split <;> omega

/-- The size of a number other than zero: where its first digit stands, in powers of ten. -/
theorem size_of_toBinary64? {d : Decimal} {x : Binary64} (h : d.toBinary64? = some x) (hx : x.isZero = false) :
    d.digits ≠ 0 ∧ -330 ≤ leadingPart d.exponent - d.places + (Nat.toDigits 10 d.digits).length ∧
      leadingPart d.exponent - d.places + (Nat.toDigits 10 d.digits).length ≤ 310 := by
  have hzero : (Binary64.zero d.negative).isZero = true := rfl
  unfold toBinary64? at h
  dsimp only at h
  split at h
  · cases h
    rw [hzero] at hx
    cases hx
  · rename_i hdigits
    split at h
    · cases h
    · split at h
      · cases h
        rw [hzero] at hx
        cases hx
      · exact ⟨by simpa using hdigits, by omega, by omega⟩

end Decimal

/-! ## The parts of a number in its text -/

/-- A whole number of 64 bits with a sign. -/
def IsMachine (n : Int) : Prop := -2 ^ 63 ≤ n ∧ n < 2 ^ 63

instance (n : Int) : Decidable (IsMachine n) := inferInstanceAs (Decidable (_ ∧ _))

namespace Decimal

namespace Exponent

/-- The text of an exponent with a small letter for its mark. -/
def lowerChars : Option Exponent → List Char
  | none => []
  | some e => 'e' :: e.numberChars

theorem head?_lowerChars (e : Option Exponent) : ∀ c ∈ (lowerChars e).head?, (c != 'e') = false := by
  cases e <;> simp [lowerChars]

/-- The number behind the mark is read if 64 bits hold it. -/
theorem machineInteger?_numberChars (e : Exponent) :
    machineInteger? e.numberChars = if IsMachine (value (some e)) then some (value (some e)) else none := by
  have hdigits : (e.digits.isEmpty || !e.digits.all Char.isDigit) = false := by
    simpa [e.digits_ne] using e.all_digits
  have hfits : (decide (-2 ^ 63 ≤ value (some e)) && decide (value (some e) < 2 ^ 63)) = true ↔ IsMachine (value (some e)) := by
    rw [Bool.and_eq_true, decide_eq_true_eq, decide_eq_true_eq, IsMachine]
  rw [machineInteger?, numberChars, takeSign_digits e.sign e.all_digits]
  dsimp only
  rw [hdigits, if_neg Bool.false_ne_true]
  exact if_congr hfits rfl rfl

end Exponent

namespace Form

/-- The text of a number up to its exponent. -/
def mantissaChars (n : Form) : List Char := n.sign.chars ++ (n.whole ++ pointChars n.fraction)

theorem chars_eq (n : Form) : n.chars = n.mantissaChars ++ Exponent.chars n.exponent := by
  simp [chars, mantissaChars]

/-- The characters of a number up to its exponent. -/
theorem mem_mantissaChars {n : Form} {c : Char} (h : c ∈ n.mantissaChars) : c.isDigit = true ∨ c ∈ ['-', '+', '.'] := by
  simp only [mantissaChars, List.mem_append] at h
  rcases h with hsign | hwhole | hpoint
  · cases hs : n.sign <;> simp_all [Sign.chars]
  · exact .inl (n.whole_digits c hwhole)
  · have hdigits := n.fraction_digits
    cases hf : n.fraction with
    | none => simp [hf, pointChars] at hpoint
    | some ds =>
      rw [hf] at hdigits
      rcases List.mem_cons.mp (hf ▸ hpoint) with rfl | hc
      · simp
      · exact .inl (hdigits c hc)

/-- The characters of a number. -/
theorem mem_chars {n : Form} {c : Char} (h : c ∈ n.chars) : c.isDigit = true ∨ c ∈ ['-', '+', '.', 'e', 'E'] := by
  rw [chars_eq, List.mem_append] at h
  rcases h with hmantissa | hexponent
  · rcases mem_mantissaChars hmantissa with hdigit | hmark
    · exact .inl hdigit
    · exact .inr (List.mem_append_left ['e', 'E'] hmark)
  · cases he : n.exponent with
    | none => simp [he, Exponent.chars] at hexponent
    | some e =>
      rw [he, Exponent.chars, Exponent.numberChars, List.mem_cons, List.mem_append] at hexponent
      rcases hexponent with rfl | hsign | hdigit
      · rcases e.mark_eq with h | h <;> simp [h]
      · cases hs : e.sign <;> simp_all [Sign.chars]
      · exact .inl (e.all_digits c hdigit)

theorem isBlank_of_mem_chars {n : Form} {c : Char} (h : c ∈ n.chars) : Text.isBlank c = false := by
  rcases mem_chars h with hdigit | hmark
  · have hrange := isDigit_range hdigit
    simp only [Text.isBlank, Bool.or_eq_false_iff, Bool.and_eq_false_iff, decide_eq_false_iff_not, beq_eq_false_iff_ne]
    omega
  · simp only [List.mem_cons, List.not_mem_nil, or_false] at hmark
    rcases hmark with rfl | rfl | rfl | rfl | rfl <;> rfl

/-- In small letters only the mark of the exponent may be another one. -/
theorem map_toLower_chars (n : Form) : n.chars.map Char.toLower = n.mantissaChars ++ Exponent.lowerChars n.exponent := by
  have hdigits {ds : List Char} (h : ∀ c ∈ ds, c.isDigit = true) : ds.map Char.toLower = ds :=
    List.map_congr_left (fun c hc => toLower_of_isDigit (h c hc)) |>.trans (List.map_id ds)
  have hsign (s : Sign) : s.chars.map Char.toLower = s.chars := by cases s <;> rfl
  have hpoint : (pointChars n.fraction).map Char.toLower = pointChars n.fraction := by
    cases hf : n.fraction with
    | none => rfl
    | some ds => exact congrArg ('.' :: ·) (hdigits (by simpa [hf] using n.fraction_digits))
  have hexponent : (Exponent.chars n.exponent).map Char.toLower = Exponent.lowerChars n.exponent := by
    cases n.exponent with
    | none => rfl
    | some e =>
      have hmark : e.mark.toLower = 'e' := by rcases e.mark_eq with h | h <;> rw [h] <;> rfl
      simp [Exponent.chars, Exponent.lowerChars, Exponent.numberChars, hmark, hsign, hdigits e.all_digits]
  simp [chars_eq, mantissaChars, hsign, hdigits n.whole_digits, hpoint, hexponent]

/-- The mark of the exponent ends what stands before it. -/
theorem ne_mark_of_mem {n : Form} : ∀ c ∈ n.mantissaChars, (c != 'e') = true := by
  intro c hc
  rw [bne_iff_ne]
  rcases mem_mantissaChars hc with hdigit | hmark
  · exact isDigit_ne hdigit (by decide)
  · rintro rfl
    revert hmark
    decide

/-- The point ends what stands before it. -/
theorem drop_point (n : Form) : (n.mantissaChars.dropWhile (· != '.')).drop 1 = n.fraction.getD [] := by
  have hfront : ∀ c ∈ n.sign.chars ++ n.whole, (c != '.') = true := by
    intro c hc
    rw [bne_iff_ne]
    rcases List.mem_append.mp hc with hsign | hwhole
    · cases hs : n.sign <;> simp_all [Sign.chars]
    · exact isDigit_ne (n.whole_digits c hwhole) (by decide)
  have hpoint : ∀ c ∈ (pointChars n.fraction).head?, (c != '.') = false := by
    cases n.fraction <;> simp [pointChars]
  rw [mantissaChars, ← List.append_assoc, Text.dropWhile_append_stop hfront hpoint]
  cases n.fraction <;> rfl

/-- The digits are a part of the text. -/
theorem length_digits_le (n : Form) : n.whole.length + n.places ≤ n.chars.length := by
  have hpoint : n.places ≤ (pointChars n.fraction).length := by
    unfold places
    cases n.fraction <;> simp [pointChars]
  rw [chars, List.length_append, List.length_append, List.length_append]
  omega

/-- The exponent as far as it is taken into account. -/
def taken (n : Form) : Int := if IsMachine (Exponent.value n.exponent) then Exponent.value n.exponent else 0

/-- What stands behind the mark is read as the exponent, as far as it is taken into account. -/
theorem machineInteger?_behind_mark (n : Form) :
    (machineInteger? ((Exponent.lowerChars n.exponent).drop 1)).getD 0 = n.taken := by
  unfold taken
  cases n.exponent with
  | none => rfl
  | some e =>
    rw [Exponent.lowerChars, List.drop_one, List.tail_cons, Exponent.machineInteger?_numberChars]
    split <;> rfl

end Form

end Decimal

/-! ## Decimal places -/

/-- At most fifteen decimal places are used, and no less than none. -/
def usedPlaces (places : Int) : Nat := (max 0 (min 15 places)).toNat

/-- What is told from a text: the difference is one of 64 bits, and starts again below when it leaves them. -/
theorem decimalPlaces_of_trim {text : String} {n : Decimal.Form} (h : n.chars = Text.trim text.toList) :
    decimalPlaces text = usedPlaces ((n.places - n.taken).bmod (2 ^ 64)) := by
  unfold decimalPlaces
  dsimp only
  rw [← h, n.map_toLower_chars, Text.takeWhile_append_stop Form.ne_mark_of_mem (Exponent.head?_lowerChars _),
    Text.dropWhile_append_stop Form.ne_mark_of_mem (Exponent.head?_lowerChars _), n.drop_point, n.machineInteger?_behind_mark]
  rfl

/-- The decimal places that a number shows, without a limit. -/
def Decimal.Form.shown (n : Decimal.Form) : Int := n.places - Exponent.value n.exponent

/-- A difference that 64 bits hold is what is computed. -/
theorem bmod_of_isMachine {m : Int} (h : IsMachine m) : m.bmod (2 ^ 64) = m := by
  unfold IsMachine at h
  exact Int.bmod_eq_of_le (by omega) (by omega)

/-- A difference just above 64 bits becomes negative, so that no places are used. -/
theorem usedPlaces_bmod_above {m : Int} (hlow : 2 ^ 63 ≤ m) (hhigh : m < 2 ^ 64) : usedPlaces (m.bmod (2 ^ 64)) = 0 := by
  have hrest : m % (2 ^ 64 : Nat) = m := Int.emod_eq_of_lt (by omega) (by omega)
  have hwrapped : m.bmod (2 ^ 64) = m - 2 ^ 64 := by
    rw [Int.bmod, hrest, if_neg (by omega)]
    rfl
  rw [hwrapped, usedPlaces]
  omega

/-- What is told from a text that spells the number `x`, when it is taken apart as `n`. -/
structure PlacesTold (text : String) (x : Binary64) (n : Decimal.Form) : Prop where
  /-- The exponent is read with 64 bits, or not at all; so is the difference computed. -/
  computed : decimalPlaces text = usedPlaces ((n.places - n.taken).bmod (2 ^ 64))
  /-- The difference leaves the 64 bits with a very negative exponent, but one that is taken into account. -/
  overflows_iff : n.places < 2 ^ 63 →
    (¬ IsMachine (n.places - n.taken) ↔ IsMachine (Exponent.value n.exponent) ∧ 2 ^ 63 ≤ n.shown)
  /-- It is right as long as both stay in them. It may also be by chance: a great exponent is left out where there is no
  fraction, or a very negative one where the fraction has fifteen digits. -/
  exact_iff : n.places < 2 ^ 63 → (decimalPlaces text = usedPlaces n.shown ↔
    (IsMachine (Exponent.value n.exponent) ∧ n.shown < 2 ^ 63) ∨ (2 ^ 63 ≤ Exponent.value n.exponent ∧ n.places = 0) ∨
      (Exponent.value n.exponent < -2 ^ 63 ∧ 15 ≤ n.places))
  /-- It is right for numbers other than zero in texts of ordinary length, whatever their exponent. -/
  ordinary : x.isZero = false → text.length ≤ 65000 →
    IsMachine (n.places - n.taken) ∧ decimalPlaces text = usedPlaces n.shown
  /-- Blanks at the ends of a text make no difference. -/
  trimmed : decimalPlaces (String.ofList (Text.trim text.toList)) = decimalPlaces text

section

variable {text : String} {x : Binary64} {n : Decimal.Form}

theorem not_isMachine_difference_iff (hplaces : n.places < 2 ^ 63) :
    ¬ IsMachine (n.places - n.taken) ↔ IsMachine (Exponent.value n.exponent) ∧ 2 ^ 63 ≤ n.shown := by
  unfold Decimal.Form.taken Decimal.Form.shown
  by_cases htaken : IsMachine (Exponent.value n.exponent)
  · rw [if_pos htaken]
    unfold IsMachine at htaken ⊢
    omega
  · rw [if_neg htaken]
    unfold IsMachine at htaken ⊢
    omega

theorem usedPlaces_eq_iff (hplaces : n.places < 2 ^ 63) :
    usedPlaces ((n.places - n.taken).bmod (2 ^ 64)) = usedPlaces n.shown ↔
      (IsMachine (Exponent.value n.exponent) ∧ n.shown < 2 ^ 63) ∨ (2 ^ 63 ≤ Exponent.value n.exponent ∧ n.places = 0) ∨
        (Exponent.value n.exponent < -2 ^ 63 ∧ 15 ≤ n.places) := by
  unfold Decimal.Form.taken Decimal.Form.shown
  by_cases htaken : IsMachine (Exponent.value n.exponent)
  · rw [if_pos htaken]
    rcases lt_or_ge ((n.places : Int) - Exponent.value n.exponent) (2 ^ 63) with hlt | hge
    · have hmachine : IsMachine (n.places - Exponent.value n.exponent) := by
        unfold IsMachine at htaken ⊢
        omega
      rw [bmod_of_isMachine hmachine]
      exact ⟨fun _ => .inl ⟨htaken, hlt⟩, fun _ => rfl⟩
    · unfold IsMachine at htaken ⊢
      rw [usedPlaces_bmod_above hge (by omega), usedPlaces]
      omega
  · have hmachine : IsMachine ((n.places : Int) - 0) := by
      unfold IsMachine
      omega
    rw [if_neg htaken, bmod_of_isMachine hmachine]
    unfold usedPlaces IsMachine at *
    omega

/-- The exponent of a number other than zero is hardly greater than the text is long. -/
theorem natAbs_exponent_lt (hread : Decimal.toBinary64? n.decimal = some x) (hx : x.isZero = false)
    (hlength : n.chars.length ≤ 65000) : (Exponent.value n.exponent).natAbs < 2 ^ 16 := by
  obtain ⟨hdigits, hlow, hhigh⟩ := Decimal.size_of_toBinary64? hread hx
  have hparts := n.length_digits_le
  have hcount : (Nat.toDigits 10 n.decimal.digits).length ≤ n.whole.length + n.places := by
    have hall : ∀ c ∈ n.whole ++ n.fraction.getD [], c.isDigit = true := fun c hc =>
      (List.mem_append.mp hc).elim (n.whole_digits c) (n.fraction_digits c)
    have hlt := digitsValue_lt hall
    rw [List.length_append] at hlt
    refine Nat.toDigits_length 10 _ _ ?_ hlt
    rcases n.some_digit with h | h
    · exact Nat.add_pos_left (List.length_pos_iff.mpr h) _
    · exact Nat.add_pos_right _ (List.length_pos_iff.mpr h)
  have hplaces : n.decimal.places = n.places := rfl
  have hexponent : n.decimal.exponent = Exponent.value n.exponent := rfl
  rw [hplaces, hexponent] at hlow hhigh
  have hsmall : (Decimal.leadingPart (Exponent.value n.exponent)).natAbs < 2 ^ 16 := by omega
  rw [Decimal.leadingPart_of_lt hsmall] at hsmall
  exact hsmall

/-- A number other than zero in a text of ordinary length does not come near the limits of 64 bits. -/
theorem ordinary_of_toBinary64? (hread : Decimal.toBinary64? n.decimal = some x) (hx : x.isZero = false)
    (hlength : n.chars.length ≤ 65000) :
    n.places < 2 ^ 63 ∧ IsMachine (Exponent.value n.exponent) ∧ n.shown < 2 ^ 63 := by
  have hexponent := natAbs_exponent_lt hread hx hlength
  have hparts := n.length_digits_le
  unfold IsMachine Decimal.Form.shown
  omega

/-- Blanks at the ends of a number make no difference. -/
theorem decimalPlaces_trim (h : n.chars = Text.trim text.toList) :
    decimalPlaces (String.ofList (Text.trim text.toList)) = decimalPlaces text := by
  have hblank : Text.trim n.chars = n.chars := Text.trim_of_no_blank fun c hc => Decimal.Form.isBlank_of_mem_chars hc
  have hagain : n.chars = Text.trim (String.ofList (Text.trim text.toList)).toList := by
    rw [String.toList_ofList, ← h, hblank]
  rw [decimalPlaces_of_trim hagain, decimalPlaces_of_trim h]

/-- **What decimal places are told from a text that spells a finite number**, whose parts are always clear. -/
theorem decimalPlaces_of_readFinite? (h : readFinite? text = some x) :
    (∃ n : Decimal.Form, n.chars = Text.trim text.toList) ∧
      ∀ n : Decimal.Form, n.chars = Text.trim text.toList → PlacesTold text x n := by
  obtain ⟨d, hread, hd⟩ := Option.bind_eq_some_iff.mp h
  refine ⟨?_, fun n hn => ?_⟩
  · obtain ⟨n, hn, -⟩ := Decimal.read?_iff.mp hread
    exact ⟨n, hn⟩
  have hcomputed := decimalPlaces_of_trim hn
  obtain rfl : n.decimal = d := Option.some.inj ((hn ▸ Decimal.read?_chars n).symm.trans hread)
  exact {
    computed := hcomputed
    overflows_iff := not_isMachine_difference_iff
    exact_iff := fun hplaces => hcomputed ▸ usedPlaces_eq_iff hplaces
    ordinary := fun hx hlength => by
      have hchars : n.chars.length ≤ 65000 :=
        (hn ▸ Text.length_trim_le text.toList).trans (String.length_toList ▸ hlength)
      obtain ⟨hplaces, hmachine, hshown⟩ := ordinary_of_toBinary64? hd hx hchars
      have hinside : IsMachine (n.places - n.taken) :=
        of_not_not fun hnot => hshown.not_ge ((not_isMachine_difference_iff hplaces).mp hnot).2
      exact ⟨hinside, hcomputed ▸ (usedPlaces_eq_iff hplaces).mpr (.inl ⟨hmachine, hshown⟩)⟩
    trimmed := decimalPlaces_trim hn }

end

/-- Digits of a fraction and those that the exponent adds. -/
theorem decimalPlaces_of_readFinite?_scientific :
    ∃ x, readFinite? " -1.25e-3" = some x ∧ decimalPlaces " -1.25e-3" = 5 := by
  let n : Decimal.Form := ⟨.minus, ['1'], some ['2', '5'],
    some ⟨'e', .minus, ['3'], .inl rfl, by decide, List.all_eq_true.mp rfl⟩, List.all_eq_true.mp rfl,
    List.all_eq_true.mp rfl, .inl (by decide)⟩
  have hread : (readFinite? " -1.25e-3").map Binary64.isZero = some false := by decide +kernel
  obtain ⟨x, hx, hzero⟩ := Option.map_eq_some_iff.mp hread
  have htold := (decimalPlaces_of_readFinite? hx).2 n (by decide)
  exact ⟨x, hx, (htold.ordinary hzero (by decide)).2⟩

/-- **Not every text that spells a finite number stays in the 64 bits, and not from every one the decimal places are told
right**: a zero with the least exponent that is taken into account. -/
theorem not_forall_decimalPlaces_exact :
    (¬ ∀ (text : String) (x : Binary64), readFinite? text = some x →
      ∀ n : Decimal.Form, n.chars = Text.trim text.toList → IsMachine (n.places - n.taken)) ∧
    ¬ ∀ (text : String) (x : Binary64), readFinite? text = some x →
      ∀ n : Decimal.Form, n.chars = Text.trim text.toList → decimalPlaces text = usedPlaces n.shown := by
  let n : Decimal.Form := ⟨.unwritten, ['0'], none,
    some ⟨'e', .minus, "9223372036854775808".toList, .inl rfl, by decide, List.all_eq_true.mp rfl⟩,
    List.all_eq_true.mp rfl, List.all_eq_true.mp rfl, .inl (by decide)⟩
  have hread : readFinite? "0e-9223372036854775808" = some (.zero false) := by decide +kernel
  have htext : n.chars = Text.trim "0e-9223372036854775808".toList := by decide
  refine ⟨fun h => ?_, fun h => ?_⟩
  · have hdifference := h _ _ hread n htext
    revert hdifference
    decide +kernel
  · have hplaces := h _ _ hread n htext
    revert hplaces
    decide +kernel

end JsonSchema
