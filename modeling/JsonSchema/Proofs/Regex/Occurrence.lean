import Mathlib.Data.Nat.Bitwise
import JsonSchema.Regex.Basic

/-!
# The occurrences of an expression

The matcher keeps the set of all places that an occurrence can reach, as the bits of a number, and repeats no expression
more often than there are places. This is what it computes: an occurrence is a way through the expression, place by place.

## What is here

* `Regex.Occurs` — an expression occurs in a text from one place to another one.
* `Steps.condense` — occurrences one after the other, many of which pass nothing, may also be fewer or more.
* `Regex.computes_ends` — **the matcher finds the places where occurrences end, and no others**.
* `Regex.isIn_iff` — whether an expression occurs in a text at all.
-/

set_option autoImplicit false

namespace JsonSchema

/-! ## Occurrences -/

/-- Some number of steps one after the other. -/
def Steps (R : Nat → Nat → Prop) : Nat → Nat → Nat → Prop
  | 0, i, j => i = j
  | n + 1, i, j => ∃ k, R i k ∧ Steps R n k j

/-- A leaf occurs from one place to another one: it passes a character of its set, or stays at a place with its
condition. -/
def Leaf.Occurs (text : Array Char) : Leaf → Nat → Nat → Prop
  | chars s, i, j => (∃ c, text[i]? = some c ∧ s.has c = true) ∧ j = i + 1
  | look l, i, j => i ≤ text.size ∧ l.holds (if i = 0 then none else text[i - 1]?) text[i]? = true ∧ j = i

namespace Regex

mutual

/-- An expression occurs from one place to another one. A greatest number of repetitions that is smaller than the least
one counts as that. -/
def Occurs (text : Array Char) : Regex Leaf → Nat → Nat → Prop
  | leaf a => a.Occurs text
  | sequence parts => OccurAll text parts
  | choice alternatives => OccursAny text alternatives
  | repetition body least most => fun i j =>
    ∃ n, least ≤ n ∧ (∀ m ∈ most, n ≤ max least m) ∧ Steps (Occurs text body) n i j

/-- Expressions occur one after the other. -/
def OccurAll (text : Array Char) : List (Regex Leaf) → Nat → Nat → Prop
  | [] => fun i j => i = j
  | r :: rs => fun i j => ∃ k, Occurs text r i k ∧ OccurAll text rs k j

/-- One of some expressions occurs. -/
def OccursAny (text : Array Char) : List (Regex Leaf) → Nat → Nat → Prop
  | [] => fun _ _ => False
  | r :: rs => fun i j => Occurs text r i j ∨ OccursAny text rs i j

end

end Regex

/-! ## Steps -/

/-- Steps lead forward, and stay in the text. -/
def Forward (size : Nat) (R : Nat → Nat → Prop) : Prop := ∀ i j, i ≤ size → R i j → i ≤ j ∧ j ≤ size

namespace Steps

variable {R : Nat → Nat → Prop} {size m n i j k : Nat}

theorem append (h : Steps R m i k) (h' : Steps R n k j) : Steps R (m + n) i j := by
  induction m generalizing i with
  | zero =>
    obtain rfl : i = k := h
    rwa [Nat.zero_add]
  | succ m ih =>
    obtain ⟨l, hl, hrest⟩ := h
    rw [Nat.succ_add]
    exact ⟨l, hl, ih hrest⟩

theorem exists_of_add (h : Steps R (m + n) i j) : ∃ k, Steps R m i k ∧ Steps R n k j := by
  induction m generalizing i with
  | zero =>
    rw [Nat.zero_add] at h
    exact ⟨i, rfl, h⟩
  | succ m ih =>
    rw [Nat.succ_add] at h
    obtain ⟨l, hl, hrest⟩ := h
    obtain ⟨k, hk, hbehind⟩ := ih hrest
    exact ⟨k, ⟨l, hl, hk⟩, hbehind⟩

theorem forward (hR : Forward size R) (n : Nat) : Forward size (Steps R n) := by
  induction n with
  | zero =>
    rintro i j hi rfl
    exact ⟨le_rfl, hi⟩
  | succ n ih =>
    rintro i j hi ⟨k, hk, hrest⟩
    obtain ⟨hik, hksize⟩ := hR i k hi hk
    obtain ⟨hkj, hjsize⟩ := ih k j hksize hrest
    exact ⟨hik.trans hkj, hjsize⟩

/-- A step that passes nothing may be made as often as one likes. -/
theorem idle (h : R i i) : ∀ n, Steps R n i i
  | 0 => rfl
  | n + 1 => ⟨i, h, idle h n⟩

/-- Without the steps that pass nothing there are no more steps than places that are passed. If there were such steps, any
greater number of steps will do as well. -/
theorem condense (hR : Forward size R) (hi : i ≤ size) (h : Steps R n i j) :
    ∃ p, p ≤ j - i ∧ p ≤ n ∧ Steps R p i j ∧ (p = n ∨ ∀ m, p ≤ m → Steps R m i j) := by
  induction n generalizing i with
  | zero => exact ⟨0, Nat.zero_le _, le_rfl, h, .inl rfl⟩
  | succ n ih =>
    obtain ⟨k, hk, hrest⟩ := h
    obtain ⟨hik, hksize⟩ := hR i k hi hk
    obtain ⟨p, hpassed, hpn, hp, hmore⟩ := ih hksize hrest
    have hkj := (forward hR n k j hksize hrest).1
    rcases hik.eq_or_lt with rfl | hlt
    · refine ⟨p, hpassed, by omega, hp, .inr fun m hm => ?_⟩
      have hsum : m - p + p = m := by omega
      exact hsum ▸ (idle hk (m - p)).append hp
    · refine ⟨p + 1, by omega, by omega, ⟨k, hk, hp⟩, hmore.imp (congrArg (· + 1)) fun hall m hm => ?_⟩
      obtain ⟨m, rfl⟩ := Nat.exists_eq_succ_of_ne_zero (show m ≠ 0 by omega)
      exact ⟨k, hk, hall m (by omega)⟩

/-- So numbers of steps need not be counted further than the text has places. -/
theorem exists_bounded_iff (hR : Forward size R) (hi : i ≤ size) (least : Nat) (most : Option Nat) :
    (∃ n, least ≤ n ∧ (∀ m ∈ most, n ≤ max least m) ∧ Steps R n i j) ↔
      ∃ n, min least (size + 1) ≤ n ∧
        n ≤ min least (size + 1) + min ((most.map (· - least)).getD (size + 1)) (size + 1) ∧ Steps R n i j := by
  constructor
  · rintro ⟨n, hleast, hmost, hn⟩
    obtain ⟨p, hpassed, hpn, -, hmore⟩ := condense hR hi hn
    have hj := (forward hR n i j hi hn).2
    by_cases hsmall : n ≤ min least (size + 1) + min ((most.map (· - least)).getD (size + 1)) (size + 1)
    · exact ⟨n, by omega, hsmall, hn⟩
    · have hmany : size < n ∧ size ≤ min least (size + 1) + min ((most.map (· - least)).getD (size + 1)) (size + 1) := by
        cases most with
        | none =>
          rw [Option.map_none, Option.getD_none] at hsmall ⊢
          omega
        | some m =>
          have := hmost m rfl
          rw [Option.map_some, Option.getD_some] at hsmall ⊢
          omega
      -- so many steps cannot all pass something
      have hall : ∀ m, p ≤ m → Steps R m i j := hmore.resolve_left (by omega)
      exact ⟨_, Nat.le_add_right _ _, le_rfl, hall _ (by omega)⟩
  · rintro ⟨n, hleast, hmost, hn⟩
    obtain ⟨p, hpassed, hpn, -, hmore⟩ := condense hR hi hn
    have hj := (forward hR n i j hi hn).2
    by_cases hlong : least ≤ size + 1
    · refine ⟨n, by omega, fun m hm => ?_, hn⟩
      cases hm
      rw [Option.map_some, Option.getD_some] at hmost
      omega
    · have hall : ∀ m, p ≤ m → Steps R m i j := hmore.resolve_left (by omega)
      exact ⟨least, le_rfl, fun m _ => le_max_left _ _, hall least (by omega)⟩

end Steps

/-! ## Sets of places as numbers -/

/-- A function on sets of places goes from all places of a set to those that a relation leads to. -/
def Computes (size : Nat) (R : Nat → Nat → Prop) (f : Nat → Nat) : Prop :=
  ∀ starts, (∀ i, starts.testBit i = true → i ≤ size) →
    ∀ j, (f starts).testBit j = true ↔ ∃ i, starts.testBit i = true ∧ R i j

theorem Leaf.testBit_placesBelow (p : Nat → Bool) (n i : Nat) :
    (placesBelow p n).testBit i = true ↔ i < n ∧ p i = true := by
  induction n with
  | zero => simp [placesBelow]
  | succ n ih =>
    rw [placesBelow, Nat.testBit_or, Bool.or_eq_true, ih]
    by_cases hp : p n = true
    · rw [if_pos hp, Nat.one_shiftLeft, Nat.testBit_two_pow, decide_eq_true_eq]
      constructor
      · rintro (⟨hi, hpi⟩ | rfl)
        · exact ⟨by omega, hpi⟩
        · exact ⟨n.lt_succ_self, hp⟩
      · rintro ⟨hi, hpi⟩
        exact (Nat.lt_succ_iff_lt_or_eq.mp hi).imp (⟨·, hpi⟩) Eq.symm
    · rw [if_neg hp, Nat.zero_testBit]
      constructor
      · intro h
        have := h.resolve_right Bool.false_ne_true
        exact ⟨by omega, this.2⟩
      · rintro ⟨hi, hpi⟩
        have hne : i ≠ n := by
          rintro rfl
          exact hp hpi
        exact .inl ⟨by omega, hpi⟩

section

variable {size : Nat} {R : Nat → Nat → Prop} {f : Nat → Nat}

/-- What is reached stays in the text. -/
theorem Computes.le_size (hf : Computes size R f) (hR : Forward size R) {starts : Nat}
    (hstarts : ∀ i, starts.testBit i = true → i ≤ size) : ∀ j, (f starts).testBit j = true → j ≤ size := by
  intro j hj
  obtain ⟨i, hi, hij⟩ := (hf starts hstarts j).mp hj
  exact (hR i j (hstarts i hi) hij).2

theorem Computes.times (hf : Computes size R f) (hR : Forward size R) (n : Nat) :
    Computes size (Steps R n) (Regex.times f n) := by
  induction n with
  | zero =>
    intro starts hstarts j
    exact ⟨fun hj => ⟨j, hj, rfl⟩, fun ⟨i, hi, hij⟩ => hij ▸ hi⟩
  | succ n ih =>
    intro starts hstarts j
    rw [Regex.times, ih _ (hf.le_size hR hstarts)]
    constructor
    · rintro ⟨k, hk, hkj⟩
      obtain ⟨i, hi, hik⟩ := (hf starts hstarts k).mp hk
      exact ⟨i, hi, k, hik, hkj⟩
    · rintro ⟨i, hi, k, hik, hkj⟩
      exact ⟨k, (hf starts hstarts k).mpr ⟨i, hi, hik⟩, hkj⟩

/-- A set that no step leaves is left by no number of steps. -/
theorem Steps.mem_of_closed {starts : Nat} (hclosed : ∀ i j, starts.testBit i = true → R i j → starts.testBit j = true)
    {n i j : Nat} (h : Steps R n i j) (hi : starts.testBit i = true) : starts.testBit j = true := by
  induction n generalizing i with
  | zero => exact h ▸ hi
  | succ n ih =>
    obtain ⟨k, hk, hrest⟩ := h
    exact ih hrest (hclosed i k hi hk)

/-- Steps are tried until nothing is added, or there were enough. -/
theorem Computes.within (hf : Computes size R f) (hR : Forward size R) (n : Nat) :
    Computes size (fun i j => ∃ m ≤ n, Steps R m i j) (Regex.within f n) := by
  induction n with
  | zero =>
    intro starts hstarts j
    refine ⟨fun hj => ⟨j, hj, 0, le_rfl, rfl⟩, ?_⟩
    rintro ⟨i, hi, m, hm, hsteps⟩
    obtain rfl : m = 0 := Nat.le_zero.mp hm
    exact (show i = j from hsteps) ▸ hi
  | succ n ih =>
    intro starts hstarts j
    have hmore (k : Nat) : (starts ||| f starts).testBit k = true ↔
        starts.testBit k = true ∨ ∃ i, starts.testBit i = true ∧ R i k := by
      rw [Nat.testBit_or, Bool.or_eq_true, hf starts hstarts k]
    rw [Regex.within]
    dsimp only
    split
    · rename_i hsame
      have hclosed (i k : Nat) (hi : starts.testBit i = true) (hik : R i k) : starts.testBit k = true := by
        have := (hmore k).mpr (.inr ⟨i, hi, hik⟩)
        rwa [beq_iff_eq.mp hsame] at this
      refine ⟨fun hj => ⟨j, hj, 0, Nat.zero_le _, rfl⟩, ?_⟩
      rintro ⟨i, hi, m, -, hsteps⟩
      exact hsteps.mem_of_closed hclosed hi
    · have hmoreSize : ∀ k, (starts ||| f starts).testBit k = true → k ≤ size := fun k hk =>
        ((hmore k).mp hk).elim (hstarts k) fun ⟨i, hi, hik⟩ => (hR i k (hstarts i hi) hik).2
      rw [ih _ hmoreSize]
      constructor
      · rintro ⟨k, hk, m, hm, hsteps⟩
        rcases (hmore k).mp hk with hstart | ⟨i, hi, hik⟩
        · exact ⟨k, hstart, m, by omega, hsteps⟩
        · exact ⟨i, hi, m + 1, by omega, k, hik, hsteps⟩
      · rintro ⟨i, hi, m, hm, hsteps⟩
        cases m with
        | zero => exact ⟨i, (hmore i).mpr (.inl hi), 0, Nat.zero_le _, hsteps⟩
        | succ m =>
          obtain ⟨k, hik, hrest⟩ := hsteps
          exact ⟨k, (hmore k).mpr (.inr ⟨i, hi, hik⟩), m, by omega, hrest⟩

end

/-! ## The matcher -/

namespace Leaf

variable (text : Array Char) (a : Leaf)

theorem occurs_forward : Forward text.size (a.Occurs text) := by
  intro i j hi h
  cases a with
  | chars s =>
    obtain ⟨⟨c, hc, -⟩, rfl⟩ := h
    have := (Array.getElem?_eq_some_iff.mp hc).1
    omega
  | look l =>
    obtain ⟨-, -, rfl⟩ := h
    exact ⟨le_rfl, hi⟩

theorem computes_ends : Computes text.size (a.Occurs text) (a.mask text).ends := by
  intro starts hstarts j
  cases a with
  | chars s =>
    have hplaces (i : Nat) : ((chars s).mask text).places.testBit i = true ↔ ∃ c, text[i]? = some c ∧ s.has c = true := by
      rw [mask, testBit_placesBelow]
      constructor
      · rintro ⟨hi, hhas⟩
        rw [Array.getElem?_eq_getElem hi] at hhas ⊢
        exact ⟨_, rfl, hhas⟩
      · rintro ⟨c, hc, hhas⟩
        rw [hc]
        exact ⟨(Array.getElem?_eq_some_iff.mp hc).1, hhas⟩
    rw [Mask.ends, show ((chars s).mask text).passes = true from rfl, if_pos rfl, Nat.testBit_shiftLeft]
    cases j with
    | zero => simp [Occurs]
    | succ j =>
      rw [Nat.add_sub_cancel, Nat.testBit_and, Bool.and_eq_true, Bool.and_eq_true, hplaces]
      constructor
      · rintro ⟨-, hj, hhas⟩
        exact ⟨j, hj, hhas, rfl⟩
      · rintro ⟨i, hi, hhas, hij⟩
        obtain rfl : j = i := Nat.succ_injective hij
        exact ⟨by simp, hi, hhas⟩
  | look l =>
    rw [Mask.ends, show ((look l).mask text).passes = false from rfl, if_neg Bool.false_ne_true, Nat.testBit_and,
      Bool.and_eq_true, mask, testBit_placesBelow]
    constructor
    · rintro ⟨hj, hlt, hholds⟩
      exact ⟨j, hj, Nat.lt_succ_iff.mp hlt, by simpa using hholds, rfl⟩
    · rintro ⟨i, hi, hsize, hholds, rfl⟩
      exact ⟨hi, Nat.lt_succ_iff.mpr hsize, by simpa using hholds⟩

end Leaf

namespace Regex

section

variable (text : Array Char)

mutual

/-- Occurrences lead forward. -/
theorem occurs_forward : ∀ r : Regex Leaf, Forward text.size (Occurs text r)
  | leaf a => by
    rw [Occurs]
    exact a.occurs_forward text
  | sequence parts => by
    rw [Occurs]
    exact occurAll_forward parts
  | choice alternatives => by
    rw [Occurs]
    exact occursAny_forward alternatives
  | repetition body least most => by
    rw [Occurs]
    rintro i j hi ⟨n, -, -, hn⟩
    exact Steps.forward (occurs_forward body) n i j hi hn

theorem occurAll_forward : ∀ rs : List (Regex Leaf), Forward text.size (OccurAll text rs)
  | [] => by
    rw [OccurAll]
    rintro i j hi rfl
    exact ⟨le_rfl, hi⟩
  | r :: rs => by
    rw [OccurAll]
    rintro i j hi ⟨k, hik, hkj⟩
    obtain ⟨hle, hk⟩ := occurs_forward r i k hi hik
    obtain ⟨hle', hj⟩ := occurAll_forward rs k j hk hkj
    exact ⟨hle.trans hle', hj⟩

theorem occursAny_forward : ∀ rs : List (Regex Leaf), Forward text.size (OccursAny text rs)
  | [] => by
    rw [OccursAny]
    exact fun _ _ _ h => h.elim
  | r :: rs => by
    rw [OccursAny]
    exact fun i j hi h => h.elim (occurs_forward r i j hi) (occursAny_forward rs i j hi)

end

mutual

/-- The matcher finds the places where occurrences end. -/
theorem computes_ends : ∀ r : Regex Leaf,
    Computes text.size (Occurs text r) (ends (text.size + 1) (r.map (Leaf.mask text)))
  | leaf a => by
    rw [Occurs, map]
    exact fun starts => by
      rw [ends]
      exact a.computes_ends text starts
  | sequence parts => by
    rw [Occurs, map]
    exact fun starts => by
      rw [ends]
      exact computes_endsOfAll parts starts
  | choice alternatives => by
    rw [Occurs, map]
    exact fun starts => by
      rw [ends]
      exact computes_endsOfAny alternatives starts
  | repetition body least most => by
    have hbody := computes_ends body
    have hforward := occurs_forward text body
    intro starts hstarts j
    have htimes := hbody.times hforward (min least (text.size + 1))
    rw [Occurs, map, ends]
    dsimp only
    rw [hbody.within hforward _ _ (htimes.le_size (Steps.forward hforward _) hstarts)]
    constructor
    · rintro ⟨k, hk, m, hm, hsteps⟩
      obtain ⟨i, hi, hik⟩ := (htimes starts hstarts k).mp hk
      exact ⟨i, hi, (Steps.exists_bounded_iff hforward (hstarts i hi) least most).mpr
        ⟨_, Nat.le_add_right _ _, Nat.add_le_add_left hm _, hik.append hsteps⟩⟩
    · rintro ⟨i, hi, hrepeated⟩
      obtain ⟨n, hleast, hmost, hsteps⟩ := (Steps.exists_bounded_iff hforward (hstarts i hi) least most).mp hrepeated
      obtain ⟨d, rfl⟩ := Nat.exists_eq_add_of_le hleast
      obtain ⟨k, hik, hkj⟩ := hsteps.exists_of_add
      exact ⟨k, (htimes starts hstarts k).mpr ⟨i, hi, hik⟩, d, by omega, hkj⟩

theorem computes_endsOfAll : ∀ rs : List (Regex Leaf),
    Computes text.size (OccurAll text rs) (endsOfAll (text.size + 1) (mapAll (Leaf.mask text) rs))
  | [] => by
    intro starts hstarts j
    rw [OccurAll, mapAll, endsOfAll]
    exact ⟨fun hj => ⟨j, hj, rfl⟩, fun ⟨i, hi, hij⟩ => hij ▸ hi⟩
  | r :: rs => by
    intro starts hstarts j
    rw [OccurAll, mapAll, endsOfAll,
      computes_endsOfAll rs _ ((computes_ends r).le_size (occurs_forward text r) hstarts)]
    constructor
    · rintro ⟨k, hk, hkj⟩
      obtain ⟨i, hi, hik⟩ := (computes_ends r starts hstarts k).mp hk
      exact ⟨i, hi, k, hik, hkj⟩
    · rintro ⟨i, hi, k, hik, hkj⟩
      exact ⟨k, (computes_ends r starts hstarts k).mpr ⟨i, hi, hik⟩, hkj⟩

theorem computes_endsOfAny : ∀ rs : List (Regex Leaf),
    Computes text.size (OccursAny text rs) (endsOfAny (text.size + 1) (mapAll (Leaf.mask text) rs))
  | [] => by
    intro starts hstarts j
    rw [OccursAny, mapAll, endsOfAny, Nat.zero_testBit]
    exact ⟨fun h => absurd h Bool.false_ne_true, fun ⟨_, _, h⟩ => h.elim⟩
  | r :: rs => by
    intro starts hstarts j
    rw [OccursAny, mapAll, endsOfAny, Nat.testBit_or, Bool.or_eq_true, computes_ends r starts hstarts j,
      computes_endsOfAny rs starts hstarts j]
    constructor
    · rintro (⟨i, hi, hij⟩ | ⟨i, hi, hij⟩)
      · exact ⟨i, hi, .inl hij⟩
      · exact ⟨i, hi, .inr hij⟩
    · rintro ⟨i, hi, hij | hij⟩
      · exact .inl ⟨i, hi, hij⟩
      · exact .inr ⟨i, hi, hij⟩

end

end

/-- **An expression is found in a text exactly if it occurs there from some place to another one.** -/
theorem isIn_iff (r : Regex Leaf) (text : String) :
    r.isIn text = true ↔ ∃ i j, i ≤ text.length ∧ Occurs text.toList.toArray r i j := by
  have hsize : text.toList.toArray.size = text.length := String.length_toList
  have hall (i : Nat) : (2 ^ (text.length + 1) - 1).testBit i = true ↔ i ≤ text.length := by
    rw [Nat.testBit_two_pow_sub_one, decide_eq_true_eq, Nat.lt_succ_iff]
  have hends := computes_ends text.toList.toArray r (2 ^ (text.length + 1) - 1)
    (fun i hi => hsize ▸ (hall i).mp hi)
  rw [hsize] at hends
  rw [isIn, bne_iff_ne, hsize]
  constructor
  · intro hne
    obtain ⟨j, hj⟩ := Nat.exists_testBit_of_ne_zero hne
    obtain ⟨i, hi, hij⟩ := (hends j).mp hj
    exact ⟨i, j, (hall i).mp hi, hij⟩
  · rintro ⟨i, j, hi, hij⟩ hzero
    have hj := (hends j).mpr ⟨i, (hall i).mpr hi, hij⟩
    rw [hzero, Nat.zero_testBit] at hj
    cases hj

end Regex

end JsonSchema
