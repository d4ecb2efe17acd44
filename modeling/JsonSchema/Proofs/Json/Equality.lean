import Mathlib.Algebra.Group.Int.Defs
import JsonSchema.Keyword.Elements
import JsonSchema.Proofs.Json.Reordered
import JsonSchema.Proofs.Json.Text

/-!
# The two equalities of values

Enumerations hold two objects to be equal if they have as many members and each member of the first one has an equal one
in the second one. This looks at one direction only, but keys are not repeated, so it is equality up to the order of
members. `uniqueItems` compares texts instead, and a text shows everything: only the very same value counts as a
repetition.

## What is here

* `Json.byParts` — induction on a value: of arrays and objects the parts come first.
* `Binary64.units` — a number as a multiple of the least one. `Binary64.numEq_iff` — **numbers compare equal if they are
  the same multiple**.
* `Json.SameValue` — values of the same shape whose numbers are the same, whatever the order of members; an equivalence.
* `Json.sameAs_object_iff` — one inclusion and a count are enough. `Json.sameAs_iff_sameValue` — **the equality of
  enumerations is `SameValue`**.
* `Json.signed64?`, `Json.unsigned64?` — a whole number as a machine reads it. `Json.sameAs_integer_eq` — whole numbers
  may be compared by both readings.
* `sameAs_is_equality` — **what the equality of enumerations is**.
* `hasDuplicates_iff` — **what `uniqueItems` finds**.
-/

set_option autoImplicit false

namespace JsonSchema

/-! ## Numbers -/

namespace Binary64

variable {x y : Binary64}

/-- The number as a multiple of the least one. -/
def units (x : Binary64) : Int := x.scaledTo minExponent

theorem scaledTo_mul_pow {e f : Int} (hef : e ≤ f) (hf : f ≤ x.exponent) :
    x.scaledTo f * 2 ^ (f - e).toNat = x.scaledTo e := by
  have hsum : (x.exponent - f).toNat + (f - e).toNat = (x.exponent - e).toNat := by omega
  rw [scaledTo, scaledTo, mul_assoc, ← pow_add, hsum]

/-- Numbers compare equal if they are the same multiple of the least one. -/
theorem numEq_iff : x.numEq y = true ↔ x.units = y.units := by
  have hmin : minExponent ≤ min x.exponent y.exponent := le_min x.normal.2.1 y.normal.2.1
  have hpow : (2 : Int) ^ (min x.exponent y.exponent - minExponent).toNat ≠ 0 := pow_ne_zero _ (by decide)
  rw [numEq, beq_iff_eq, units, units, ← scaledTo_mul_pow hmin (min_le_left _ _),
    ← scaledTo_mul_pow hmin (min_le_right _ _), mul_left_inj' hpow]

end Binary64

namespace Json

variable {j k l : Json} {es fs : List Json} {ms ns : Members}

/-! ## Induction on values -/

/-- What holds of a value if it holds of its elements, or of the values of its members, holds of all values. -/
@[elab_as_elim]
theorem byParts {P : Json → Prop} (null : P .null) (bool : ∀ b, P (.bool b)) (integer : ∀ n, P (.integer n))
    (real : ∀ x, P (.real x)) (string : ∀ s, P (.string s)) (array : ∀ es, (∀ e ∈ es, P e) → P (.array es))
    (object : ∀ ms : Members, (∀ m ∈ ms, P m.2) → P (.object ms)) (j : Json) : P j :=
  match j with
  | .null => null
  | .bool b => bool b
  | .integer n => integer n
  | .real x => real x
  | .string s => string s
  | .array es => array es fun e _ => byParts null bool integer real string array object e
  | .object ms => object ms fun m _ => byParts null bool integer real string array object m.2
termination_by sizeOf j
decreasing_by
  · have hlt : sizeOf e < sizeOf es := List.sizeOf_lt_of_mem ‹e ∈ es›
    have harray : sizeOf (Json.array es) = 1 + sizeOf es := Json.array.sizeOf_spec es
    omega
  · have hlt : sizeOf m < sizeOf ms := List.sizeOf_lt_of_mem ‹m ∈ ms›
    have hobject : sizeOf (Json.object ms) = 1 + sizeOf ms := Json.object.sizeOf_spec ms
    have hmember : sizeOf m = 1 + sizeOf m.1 + sizeOf m.2 := Prod.mk.sizeOf_spec m.1 m.2
    omega

/-! ## The same value -/

/-- The same value, whatever the order of members: arrays agree position by position, and objects have the same keys and
under each of them the same value. A whole number is never the same as a floating-point one. -/
inductive SameValue : Json → Json → Prop where
  | null : SameValue .null .null
  | bool (b : Bool) : SameValue (.bool b) (.bool b)
  | integer (n : Int) : SameValue (.integer n) (.integer n)
  | real {x y : Binary64} (h : x.units = y.units) : SameValue (.real x) (.real y)
  | string (s : String) : SameValue (.string s) (.string s)
  | array {es fs : List Json} (hlength : es.length = fs.length)
    (h : ∀ (n : Nat) (e f : Json), es[n]? = some e → fs[n]? = some f → SameValue e f) : SameValue (.array es) (.array fs)
  | object {ms ns : Members} (hkeys : ∀ key, hasKey ms key = hasKey ns key)
    (h : ∀ key v w, find? ms key = some v → find? ns key = some w → SameValue v w) : SameValue (.object ms) (.object ns)

namespace SameValue

theorem refl (j : Json) : j.SameValue j := by
  induction j using byParts with
  | null => exact .null
  | bool b => exact .bool b
  | integer n => exact .integer n
  | real x => exact .real rfl
  | string s => exact .string s
  | array es ih =>
    refine .array rfl fun n e f he hf => ?_
    cases he.symm.trans hf
    exact ih e (List.mem_of_getElem? he)
  | object ms ih =>
    refine .object (fun _ => rfl) fun key v w hv hw => ?_
    cases hv.symm.trans hw
    exact ih (key, v) (mem_of_find? hv)

theorem symm (h : j.SameValue k) : k.SameValue j := by
  induction h with
  | null => exact .null
  | bool b => exact .bool b
  | integer n => exact .integer n
  | real h => exact .real h.symm
  | string s => exact .string s
  | array hlength _ ih => exact .array hlength.symm fun n e f he hf => ih n f e hf he
  | object hkeys _ ih => exact .object (fun key => (hkeys key).symm) fun key v w hv hw => ih key w v hw hv

end SameValue

/-! ## Keys -/

theorem hasKey_iff_find? {key : String} : hasKey ms key = true ↔ ∃ v, find? ms key = some v := by
  cases hv : find? ms key with
  | none =>
    refine iff_of_false (fun hkey => ?_) (by simp)
    obtain ⟨m, hm, rfl⟩ := List.mem_map.mp (mem_keys_iff_hasKey.mpr hkey)
    exact absurd (List.lookup_eq_none_iff.mp hv m hm) (by simp)
  | some v => exact iff_of_true (mem_keys_iff_hasKey.mp (List.mem_map_of_mem (mem_of_find? hv))) ⟨v, rfl⟩

theorem SameValue.trans (h : j.SameValue k) (hk : k.SameValue l) : j.SameValue l := by
  induction h generalizing l with
  | null => exact hk
  | bool b => exact hk
  | integer n => exact hk
  | real h =>
    cases hk with
    | real hk => exact .real (h.trans hk)
  | string s => exact hk
  | @array es fs hlength _ ih =>
    cases hk with
    | array hlength' h' =>
      refine .array (hlength.trans hlength') fun n e g he hg => ?_
      obtain ⟨hn, -⟩ := List.getElem?_eq_some_iff.mp he
      have hf : fs[n]? = some fs[n] := List.getElem?_eq_getElem (hlength ▸ hn)
      exact ih n e _ he hf (h' n _ g hf hg)
  | object hkeys _ ih =>
    cases hk with
    | object hkeys' h' =>
      refine .object (fun key => (hkeys key).trans (hkeys' key)) fun key v w hv hw => ?_
      obtain ⟨u, hu⟩ := hasKey_iff_find?.mp ((hkeys key).symm.trans (hasKey_iff_find?.mpr ⟨v, hv⟩))
      exact ih key v u hv hu (h' key u w hu hw)

/-- If as many distinct keys are all among others, they are the others. -/
theorem hasKey_eq_of_subset (hms : (ms.map (·.1)).Nodup) (hlength : ms.length = ns.length)
    (hsub : ms.map (·.1) ⊆ ns.map (·.1)) (key : String) : hasKey ms key = hasKey ns key := by
  have hperm : (ms.map (·.1)).Perm (ns.map (·.1)) :=
    (List.subperm_of_subset hms hsub).perm_of_length_le (by simp [hlength])
  rw [Bool.eq_iff_iff, ← mem_keys_iff_hasKey, ← mem_keys_iff_hasKey, hperm.mem_iff]

/-- Objects without repeated keys that have the same keys have as many members. -/
theorem length_eq_of_hasKey_eq (hms : (ms.map (·.1)).Nodup) (hns : (ns.map (·.1)).Nodup)
    (h : ∀ key, hasKey ms key = hasKey ns key) : ms.length = ns.length := by
  have hperm : (ms.map (·.1)).Perm (ns.map (·.1)) :=
    (List.perm_ext_iff_of_nodup hms hns).mpr fun key => by rw [mem_keys_iff_hasKey, mem_keys_iff_hasKey, h key]
  simpa using hperm.length_eq

/-! ## Equality of values -/

theorem sameElements_iff : sameElements es fs = true ↔
    es.length = fs.length ∧ ∀ (n : Nat) (e f : Json), es[n]? = some e → fs[n]? = some f → e.sameAs f = true := by
  induction es generalizing fs with
  | nil => cases fs <;> simp [sameElements]
  | cons e es ih =>
    cases fs with
    | nil => simp [sameElements]
    | cons f fs =>
      rw [sameElements_cons, Bool.and_eq_true, ih, List.length_cons, List.length_cons, Nat.add_right_cancel_iff]
      constructor
      · rintro ⟨hef, hlength, h⟩
        refine ⟨hlength, fun n => ?_⟩
        cases n with
        | zero =>
          rintro _ _ ⟨⟩ ⟨⟩
          exact hef
        | succ n => exact h n
      · rintro ⟨hlength, h⟩
        exact ⟨h 0 e f rfl rfl, hlength, fun n => h (n + 1)⟩

/-- **One inclusion and a count are enough**: without repeated keys, objects are equal if they have the same keys and under
each of them equal values. -/
theorem sameAs_object_iff (hms : (ms.map (·.1)).Nodup) (hns : (ns.map (·.1)).Nodup) :
    sameAs (.object ms) (.object ns) = true ↔
      (∀ key, hasKey ms key = hasKey ns key) ∧
        ∀ key v w, find? ms key = some v → find? ns key = some w → v.sameAs w = true := by
  rw [sameAs_object, Bool.and_eq_true, beq_iff_eq, sameMembers_eq_all, List.all_eq_true]
  constructor
  · rintro ⟨hlength, hall⟩
    refine ⟨hasKey_eq_of_subset hms hlength fun key hkey => ?_, fun key v w hv hw => ?_⟩
    · obtain ⟨m, hm, rfl⟩ := List.mem_map.mp hkey
      have hany := hall m hm
      cases hw : find? ns m.1 with
      | none =>
        rw [hw] at hany
        exact nomatch hany
      | some w => exact List.mem_map.mpr ⟨(m.1, w), mem_of_find? hw, rfl⟩
    · have hany := hall (key, v) (mem_of_find? hv)
      rwa [hw] at hany
  · rintro ⟨hkeys, h⟩
    refine ⟨length_eq_of_hasKey_eq hms hns hkeys, fun m hm => ?_⟩
    have hv : find? ms m.1 = some m.2 := find?_of_mem hms hm
    obtain ⟨w, hw⟩ := hasKey_iff_find?.mp ((hkeys m.1).symm.trans (hasKey_iff_find?.mpr ⟨m.2, hv⟩))
    rw [hw]
    exact h m.1 m.2 w hv hw

/-- **The equality of enumerations is `SameValue`**, for values without repeated keys. -/
theorem sameAs_iff_sameValue (hj : j.DistinctKeys) (hk : k.DistinctKeys) : j.sameAs k = true ↔ j.SameValue k := by
  induction j using byParts generalizing k with
  | null =>
    cases k with
    | null => exact iff_of_true rfl .null
    | _ => exact iff_of_false Bool.false_ne_true fun h => nomatch h
  | bool b =>
    cases k with
    | bool c =>
      rw [sameAs, beq_iff_eq]
      exact ⟨fun h => h ▸ .bool b, fun h => by cases h; rfl⟩
    | _ => exact iff_of_false Bool.false_ne_true fun h => nomatch h
  | integer n =>
    cases k with
    | integer m =>
      rw [sameAs, beq_iff_eq]
      exact ⟨fun h => h ▸ .integer n, fun h => by cases h; rfl⟩
    | _ => exact iff_of_false Bool.false_ne_true fun h => nomatch h
  | real x =>
    cases k with
    | real y =>
      rw [sameAs, Binary64.numEq_iff]
      exact ⟨.real, fun h => by cases h; assumption⟩
    | _ => exact iff_of_false Bool.false_ne_true fun h => nomatch h
  | string s =>
    cases k with
    | string t =>
      rw [sameAs, beq_iff_eq]
      exact ⟨fun h => h ▸ .string s, fun h => by cases h; rfl⟩
    | _ => exact iff_of_false Bool.false_ne_true fun h => nomatch h
  | array es ih =>
    cases k with
    | array fs =>
      have hpart (n : Nat) (e f : Json) (he : es[n]? = some e) (hf : fs[n]? = some f) :
          e.sameAs f = true ↔ e.SameValue f :=
        ih e (List.mem_of_getElem? he) (.of_mem_elements hj (List.mem_of_getElem? he))
          (.of_mem_elements hk (List.mem_of_getElem? hf))
      rw [sameAs_array, sameElements_iff]
      constructor
      · rintro ⟨hlength, h⟩
        exact .array hlength fun n e f he hf => (hpart n e f he hf).mp (h n e f he hf)
      · rintro ⟨⟩
        rename_i hlength h
        exact ⟨hlength, fun n e f he hf => (hpart n e f he hf).mpr (h n e f he hf)⟩
    | _ => exact iff_of_false Bool.false_ne_true fun h => nomatch h
  | object ms ih =>
    cases k with
    | object ns =>
      have hpart (key : String) (v w : Json) (hv : find? ms key = some v) (hw : find? ns key = some w) :
          v.sameAs w = true ↔ v.SameValue w :=
        ih (key, v) (mem_of_find? hv) (.of_mem_members hj.2 (mem_of_find? hv)) (.of_mem_members hk.2 (mem_of_find? hw))
      rw [sameAs_object_iff hj.1 hk.1]
      constructor
      · rintro ⟨hkeys, h⟩
        exact .object hkeys fun key v w hv hw => (hpart key v w hv hw).mp (h key v w hv hw)
      · rintro ⟨⟩
        rename_i hkeys h
        exact ⟨hkeys, fun key v w hv hw => (hpart key v w hv hw).mpr (h key v w hv hw)⟩
    | _ => exact iff_of_false Bool.false_ne_true fun h => nomatch h

theorem sameAs_symm (hj : j.DistinctKeys) (hk : k.DistinctKeys) : k.sameAs j = j.sameAs k := by
  rw [Bool.eq_iff_iff, sameAs_iff_sameValue hj hk, sameAs_iff_sameValue hk hj]
  exact ⟨SameValue.symm, SameValue.symm⟩

theorem sameAs_trans (hj : j.DistinctKeys) (hk : k.DistinctKeys) (hl : l.DistinctKeys) (h : j.sameAs k = true)
    (h' : k.sameAs l = true) : j.sameAs l = true :=
  (sameAs_iff_sameValue hj hl).mpr (((sameAs_iff_sameValue hj hk).mp h).trans ((sameAs_iff_sameValue hk hl).mp h'))

/-! ### Reordered members -/

theorem distinctKeys_members_iff : DistinctKeys.members ms ↔ ∀ m ∈ ms, m.2.DistinctKeys := by
  induction ms with
  | nil => simp [DistinctKeys.members]
  | cons m ms ih => rw [DistinctKeys.members, ih, List.forall_mem_cons]

mutual

/-- Values that differ in nothing but the order of members repeat no keys together. -/
theorem Reordered.distinctKeys : ∀ {j k : Json}, j.Reordered k → j.DistinctKeys → k.DistinctKeys
  | _, _, .null, hd | _, _, .bool _, hd | _, _, .integer _, hd | _, _, .real _, hd | _, _, .string _, hd => hd
  | _, _, .array h, hd => h.distinctKeys hd
  | _, _, .object h hperm, hd => by
    have hmembers := distinctKeys_members_iff.mp (h.distinctKeys hd.2)
    exact ⟨(hperm.map _).nodup (h.keys_eq ▸ hd.1),
      distinctKeys_members_iff.mpr fun m hm => hmembers m (hperm.mem_iff.mpr hm)⟩

theorem EachReordered.distinctKeys :
    ∀ {es fs : List Json}, EachReordered es fs → DistinctKeys.elements es → DistinctKeys.elements fs
  | _, _, .nil, hd => hd
  | _, _, .cons h hs, hd => ⟨h.distinctKeys hd.1, hs.distinctKeys hd.2⟩

theorem EachMemberReordered.distinctKeys :
    ∀ {ms ns : Members}, EachMemberReordered ms ns → DistinctKeys.members ms → DistinctKeys.members ns
  | _, _, .nil, hd => hd
  | _, _, .cons h hs, hd => ⟨h.distinctKeys hd.1, hs.distinctKeys hd.2⟩

end

/-- The order of members does not matter on either side. -/
theorem sameAs_of_reordered {j' k' : Json} (hj : j.DistinctKeys) (hk : k.DistinctKeys) (hjj : j.Reordered j')
    (hkk : k.Reordered k') : j'.sameAs k' = j.sameAs k := by
  have hj' : j'.DistinctKeys := hjj.distinctKeys hj
  have hk' : k'.DistinctKeys := hkk.distinctKeys hk
  calc j'.sameAs k' = k'.sameAs j' := sameAs_symm hk' hj'
    _ = k.sameAs j' := (hkk.sameAs_eq j').symm
    _ = j'.sameAs k := sameAs_symm hj' hk
    _ = j.sameAs k := (hjj.sameAs_eq k).symm

/-! ### Whole numbers of a machine -/

/-- A whole number as a signed number of 64 bits, if it is one. -/
def signed64? (n : Int) : Option Int := if -2 ^ 63 ≤ n ∧ n < 2 ^ 63 then some n else none

/-- A whole number as an unsigned number of 64 bits, if it is one. -/
def unsigned64? (n : Int) : Option Int := if 0 ≤ n ∧ n < 2 ^ 64 then some n else none

/-- Whole numbers are equal if both readings agree, as long as one of them has at least one reading. -/
theorem sameAs_integer_eq {m n : Int} (hm : -2 ^ 63 ≤ m ∧ m < 2 ^ 64) :
    sameAs (.integer m) (.integer n) = (signed64? m == signed64? n && unsigned64? m == unsigned64? n) := by
  rw [sameAs, Bool.eq_iff_iff, Bool.and_eq_true, beq_iff_eq, beq_iff_eq, beq_iff_eq]
  refine ⟨fun h => h ▸ ⟨rfl, rfl⟩, fun ⟨hsigned, hunsigned⟩ => ?_⟩
  unfold signed64? at hsigned
  unfold unsigned64? at hunsigned
  -- below `2 ^ 63` the signed readings are defined, from there on the unsigned ones
  by_cases hsmall : m < 2 ^ 63
  · rw [if_pos ⟨hm.1, hsmall⟩] at hsigned
    split at hsigned
    · exact Option.some.inj hsigned
    · cases hsigned
  · rw [if_pos ⟨by omega, hm.2⟩] at hunsigned
    split at hunsigned
    · exact Option.some.inj hunsigned
    · cases hunsigned

end Json

/-! ## The equality of enumerations -/

open Json

/-- **The equality of enumerations is equality up to the order of members**, for values without repeated keys: it holds
between values of the same shape with the same numbers, it is an equivalence, and members may be put in another order on
both sides and at any depth. For whole numbers of 64 bits it comes to comparing their signed and their unsigned
readings. -/
theorem sameAs_is_equality {x y : Json} (hx : x.DistinctKeys) (hy : y.DistinctKeys) :
    ((Instance.present x).sameAs y = true ↔ x.SameValue y) ∧
      (Instance.present x).sameAs x = true ∧
      (Instance.present y).sameAs x = (Instance.present x).sameAs y ∧
      (∀ z : Json, z.DistinctKeys → (Instance.present x).sameAs y = true → (Instance.present y).sameAs z = true →
        (Instance.present x).sameAs z = true) ∧
      (∀ x' y', x.Reordered x' → y.Reordered y' → (Instance.present x').sameAs y' = (Instance.present x).sameAs y) ∧
      ∀ m n : Int, -2 ^ 63 ≤ m ∧ m < 2 ^ 64 →
        (Instance.present (.integer m)).sameAs (.integer n) =
          (signed64? m == signed64? n && unsigned64? m == unsigned64? n) := by
  refine ⟨sameAs_iff_sameValue hx hy, (sameAs_iff_sameValue hx hx).mpr (.refl x), sameAs_symm hx hy, ?_, ?_, ?_⟩
  · exact fun z hz hxy hyz => sameAs_trans hx hy hz hxy hyz
  · exact fun x' y' hxx hyy => sameAs_of_reordered hx hy hxx hyy
  · exact fun m n hm => sameAs_integer_eq hm

/-- Both zeros, the greatest number of 64 bits, and members in different orders at two depths. -/
theorem sameAs_is_equality_zeros :
    let x : Json := .object [("a", .array [.real (.zero false), .object [("b", .null), ("c", .integer (2 ^ 64 - 1))]]),
      ("d", .string "e")]
    let y : Json := .object [("d", .string "e"),
      ("a", .array [.real (.zero true), .object [("c", .integer (2 ^ 64 - 1)), ("b", .null)]])]
    x.DistinctKeys ∧ y.DistinctKeys ∧ x.SameValue y ∧ (Instance.present y).sameAs x = true := by
  intro x y
  have hx : x.DistinctKeys := by simp [x, DistinctKeys, DistinctKeys.members, DistinctKeys.elements]
  have hy : y.DistinctKeys := by simp [y, DistinctKeys, DistinctKeys.members, DistinctKeys.elements]
  have hxy : (Instance.present x).sameAs y = true := by decide
  obtain ⟨hsame, -, hsymm, -⟩ := sameAs_is_equality hx hy
  exact ⟨hx, hy, hsame.mp hxy, hsymm.trans hxy⟩

/-! ## The equality of `uniqueItems` -/

theorem Json.chars_injective : Function.Injective chars :=
  fun _ _ h => text_injective (congrArg String.ofList h)

/-- A text is met again if it was seen before the scan, or stands twice in the list. -/
theorem repeats_iff (seen : List (List Char)) (elements : List Json) :
    repeats seen elements = true ↔ (∃ e ∈ elements, e.chars ∈ seen) ∨ ¬ (elements.map chars).Nodup := by
  induction elements generalizing seen with
  | nil => simp [repeats]
  | cons e elements ih =>
    rw [repeats, Bool.or_eq_true, List.contains_iff_mem, ih, List.map_cons, List.nodup_cons, List.exists_mem_cons_iff,
      not_and_or, not_not]
    have hseen : (∃ f ∈ elements, f.chars ∈ e.chars :: seen) ↔
        e.chars ∈ elements.map chars ∨ ∃ f ∈ elements, f.chars ∈ seen := by
      simp only [List.mem_cons, List.mem_map, and_or_left, exists_or]
    rw [hseen, or_assoc, or_assoc]
    exact or_congr_right or_left_comm

/-- **`uniqueItems` finds exactly the identical elements**: two positions have the very same value, with the members of all
objects in the same order and all numbers in the same form. -/
theorem hasDuplicates_iff (elements : List Json) :
    hasDuplicates elements = true ↔ ∃ (i j : Nat) (v : Json), i ≠ j ∧ elements[i]? = some v ∧ elements[j]? = some v := by
  have hnodup : hasDuplicates elements = true ↔ ¬ elements.Nodup := by
    rw [hasDuplicates, repeats_iff, List.nodup_map_iff Json.chars_injective]
    simp
  rw [hnodup, List.nodup_iff_getElem?_ne_getElem?]
  constructor
  · intro h
    push Not at h
    obtain ⟨i, j, hij, hj, heq⟩ := h
    have hv : elements[j]? = some elements[j] := List.getElem?_eq_getElem hj
    exact ⟨i, j, elements[j], Nat.ne_of_lt hij, heq.trans hv, hv⟩
  · rintro ⟨i, j, v, hij, hi, hj⟩ hall
    have hlt {n : Nat} (hn : elements[n]? = some v) : n < elements.length := (List.getElem?_eq_some_iff.mp hn).1
    rcases Nat.lt_or_gt_of_ne hij with hij | hij
    · exact hall i j hij (hlt hj) (hi.trans hj.symm)
    · exact hall j i hij (hlt hi) (hj.trans hi.symm)

/-- Members in another order, and another form of a number, make another value. -/
example : hasDuplicates [.integer 1, .object [("a", .null), ("b", .null)], .real (.zero false), .real (.zero true),
    .object [("b", .null), ("a", .null)]] = false := by
  decide +kernel

end JsonSchema
