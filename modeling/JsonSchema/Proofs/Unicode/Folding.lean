import JsonSchema.Regex.CharSet

/-!
# What folds to ASCII

Case folding takes the capital letters of the alphabet to the small ones. It also takes two characters to small letters
that are none of ASCII, the long s and the Kelvin sign; and nothing else is folded to a character of ASCII.

## What is here

* `Folding.fold_of_ascii`, `Folding.fold_ascii` — **what folds to a character of ASCII**, and what does not.
* `CharSet.folded_has` — whether a character folds like a member of a set of ASCII without capital letters, and
  `CharSet.folded_has_eq` — which characters do.
-/

set_option autoImplicit false

namespace JsonSchema

deriving instance DecidableEq for Shift

namespace Folding

/-! ## The rows of the table -/

/-- The row of the capital letters. -/
def capitals : Shift := ⟨65, 26, 1, 97⟩

/-- The rows that start with a character of ASCII. -/
theorem capitals_of_first : ∀ r ∈ runs, r.first < 128 → r = capitals := by decide +kernel

/-- The rows with images that start with a character of ASCII. -/
theorem rows_of_image : ∀ r ∈ runs, r.image < 128 → r = capitals ∨ r = ⟨0x17F, 1, 1, 115⟩ ∨ r = ⟨0x212A, 1, 1, 107⟩ := by
  decide +kernel

/-- All members of the rows are characters. -/
theorem rows_valid : ∀ r ∈ runs, r.first + r.count * r.step ≤ 0xD800 ∨
    (0xE000 ≤ r.first ∧ r.first + r.count * r.step ≤ 0x110000) := by
  decide +kernel

theorem image?_eq_some {r : Shift} {n m : Nat} (h : r.image? n = some m) :
    r.first ≤ n ∧ n < r.first + r.count * r.step ∧ m = r.image + (n - r.first) := by
  unfold Shift.image? at h
  split at h
  · rename_i hrow
    simp only [Bool.and_eq_true, decide_eq_true_eq] at hrow
    exact ⟨hrow.1.1, hrow.1.2, (Option.some.inj h).symm⟩
  · cases h

theorem preimage?_eq_some {r : Shift} {n m : Nat} (h : r.preimage? m = some n) :
    r.first ≤ n ∧ n < r.first + r.count * r.step := by
  unfold Shift.preimage? at h
  split at h
  · rename_i hrow
    simp only [Bool.and_eq_true, decide_eq_true_eq] at hrow
    cases h
    omega
  · cases h

/-! ## Folding to ASCII -/

/-- Of ASCII only the capital letters are folded. -/
theorem fold_of_ascii {n : Nat} (hn : n < 128) : fold n = if 65 ≤ n ∧ n ≤ 90 then n + 32 else n := by
  unfold fold
  split
  · rename_i hcapital
    have himage : capitals.image? n = some (n + 32) := by
      have hrow : (65 ≤ n && n < 65 + 26 * 1 && (n - 65) % 1 == 0) = true := by
        simp only [Bool.and_eq_true, decide_eq_true_eq, beq_iff_eq]
        omega
      rw [capitals, Shift.image?, if_pos hrow, show 97 + (n - 65) = n + 32 by omega]
    obtain ⟨rows, hrows⟩ : ∃ rows, runs = capitals :: rows := ⟨_, rfl⟩
    rw [hrows, List.findSome?_cons, himage]
    rfl
  · rename_i hother
    have hnone : runs.findSome? (·.image? n) = none := by
      refine List.findSome?_eq_none_iff.mpr fun r hr => Option.eq_none_iff_forall_ne_some.mpr fun m himage => ?_
      obtain ⟨hlow, hhigh, -⟩ := image?_eq_some himage
      obtain rfl := capitals_of_first r hr (by omega)
      simp only [capitals] at hlow hhigh
      omega
    rw [hnone, Option.getD_none]

/-- What is folded to ASCII, but is none of it itself. -/
theorem fold_ascii {n : Nat} (hn : 128 ≤ n) (h : fold n < 128) : n = 0x17F ∨ n = 0x212A := by
  unfold fold at h
  cases hfound : runs.findSome? (·.image? n) with
  | none =>
    rw [hfound, Option.getD_none] at h
    omega
  | some m =>
    rw [hfound, Option.getD_some] at h
    obtain ⟨r, hr, himage⟩ := List.exists_of_findSome?_eq_some hfound
    obtain ⟨hlow, hhigh, rfl⟩ := image?_eq_some himage
    rcases rows_of_image r hr (by omega) with rfl | rfl | rfl
    · simp only [capitals] at hlow hhigh
      omega
    · dsimp only at hlow hhigh
      omega
    · dsimp only at hlow hhigh
      omega

theorem toNat_ofNat_of_valid {n : Nat} (h : n.isValidChar) : (Char.ofNat n).toNat = n := by
  rw [Char.ofNat, dif_pos h]
  rfl

/-- What is folded to a character is that character itself, or has a row. -/
theorem mem_orbit {c d : Char} (h : d ∈ orbit c) :
    d = Char.ofNat (fold c.toNat) ∨ ∃ r ∈ runs, r.first ≤ d.toNat ∧ d.toNat < r.first + r.count * r.step := by
  unfold orbit at h
  dsimp only at h
  rw [List.map_cons, List.mem_cons, List.mem_map] at h
  rcases h with rfl | ⟨n, hn, rfl⟩
  · exact .inl rfl
  · obtain ⟨r, hr, hpreimage⟩ := List.mem_filterMap.mp hn
    obtain ⟨hlow, hhigh⟩ := preimage?_eq_some hpreimage
    have hvalid : n.isValidChar := by
      have hrow := rows_valid r hr
      unfold Nat.isValidChar
      omega
    have hnat := toNat_ofNat_of_valid hvalid
    exact .inr ⟨r, hr, by omega, by omega⟩

end Folding

namespace CharSet

open Folding

variable {s : CharSet}

/-- Whether a character folds like a member of a set of ASCII without capital letters is told from what it folds to. -/
theorem folded_has (hs : ∀ d, s.has d = true → d.toNat < 128 ∧ ¬(65 ≤ d.toNat ∧ d.toNat ≤ 90)) (c : Char) :
    (folded s).has c = s.has (Char.ofNat (fold c.toNat)) := by
  rw [has, Bool.eq_iff_iff, List.any_eq_true]
  constructor
  · rintro ⟨d, hd, hmember⟩
    obtain ⟨hascii, hsmall⟩ := hs d hmember
    rcases mem_orbit hd with rfl | ⟨r, hr, hlow, hhigh⟩
    · exact hmember
    · -- a member of a row that is of ASCII is a capital letter
      obtain rfl := capitals_of_first r hr (by omega)
      simp only [capitals] at hlow hhigh
      omega
  · intro hmember
    exact ⟨_, List.mem_cons_self, hmember⟩

/-- The characters that fold like a member of such a set, read off ASCII, the long s and the Kelvin sign. -/
theorem folded_has_eq (hs : ∀ d, s.has d = true → 0 < d.toNat ∧ d.toNat < 128 ∧ ¬(65 ≤ d.toNat ∧ d.toNat ≤ 90))
    {p : Char → Bool}
    (hascii : ∀ n < 128, s.has (Char.ofNat (if 65 ≤ n ∧ n ≤ 90 then n + 32 else n)) = p (Char.ofNat n))
    (hlong : s.has 's' = p '\u017F') (hkelvin : s.has 'k' = p '\u212A')
    (hrest : ∀ c, p c = true → c.toNat < 128 ∨ c = '\u017F' ∨ c = '\u212A') (c : Char) :
    (folded s).has c = p c := by
  rw [folded_has fun d hd => (hs d hd).2]
  rcases Nat.lt_or_ge c.toNat 128 with hlow | hhigh
  · rw [fold_of_ascii hlow, hascii _ hlow, Char.ofNat_toNat]
  · by_cases hspecial : c = '\u017F' ∨ c = '\u212A'
    · rcases hspecial with rfl | rfl
      · exact hlong
      · exact hkelvin
    · have hp : p c = false := by
        rw [Bool.eq_false_iff]
        exact fun h => (hrest c h).elim (by omega) hspecial
      have hfold : ¬ fold c.toNat < 128 := fun h => by
        rcases fold_ascii hhigh h with hn | hn
        · exact hspecial (.inl (Char.toNat_inj.mp hn))
        · exact hspecial (.inr (Char.toNat_inj.mp hn))
      rw [hp, Bool.eq_false_iff]
      intro hmember
      obtain ⟨hpos, hlt, -⟩ := hs _ hmember
      by_cases hvalid : (fold c.toNat).isValidChar
      · rw [toNat_ofNat_of_valid hvalid] at hlt
        exact hfold hlt
      · rw [Char.ofNat, dif_neg hvalid] at hpos
        exact absurd hpos (by decide)

end CharSet

end JsonSchema
