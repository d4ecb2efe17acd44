import JsonSchema.Proofs.Number.Whole
import JsonSchema.Proofs.Plan.Content

/-!
# Bounds of whole numbers

Bounds are compared as floating-point numbers, and so are the whole numbers that are held against them. So a bound sees
a whole number of up to 64 bits only up to rounding: numbers that are rounded to the same one count as equal.

## What is here

* `Beyond` — a number lies beyond a bound: past it, or on it if the bound itself is excluded.
* `beyond_nearestWhole_iff` — **where rounding makes no difference to that**.
* `checkMinimum_integer`, `checkMaximum_integer` — what the two keywords record of a whole number.
* `check_of_boundsOnly` — a check against a schema object that sets nothing but bounds.
* `integer_bounds` — **whole numbers are held against whole bounds after both have been rounded to 53 bits**, and
  `RoundedBounds` says what comes of it. `not_forall_integer_bounds_exact` — they are not held against them as they are.
-/

set_option autoImplicit false

namespace JsonSchema

/-! ## Beyond a bound -/

/-- A number lies past a bound, or on it if the bound is excluded: `Beyond n m` says it of a least number `m`, and
`Beyond m n` of a greatest one. -/
def Beyond (a b : Int) (excluded : Bool) : Prop := a < b ∨ a = b ∧ excluded = true

instance (a b : Int) (excluded : Bool) : Decidable (Beyond a b excluded) := inferInstanceAs (Decidable (_ ∨ _))

/-- A whole number that JSON texts have: it fits into 64 bits, with or without a sign. -/
def IsWord (n : Int) : Prop := -2 ^ 63 ≤ n ∧ n < 2 ^ 64

instance (n : Int) : Decidable (IsWord n) := inferInstanceAs (Decidable (_ ∧ _))

/-- Rounding makes no difference if the numbers are the same, stay different, or if it is right that a number on the
bound is beyond it. -/
theorem beyond_nearestWhole_iff (n m : Int) (excluded : Bool) :
    (Beyond (nearestWhole n) (nearestWhole m) excluded ↔ Beyond n m excluded) ↔
      n = m ∨ nearestWhole n ≠ nearestWhole m ∨ (excluded = true ↔ n < m) := by
  unfold Beyond
  rcases lt_trichotomy n m with hlt | rfl | hgt
  · rcases (nearestWhole_mono hlt.le).lt_or_eq with hnear | hnear
    · simp [hlt, hnear, hnear.ne]
    · simp [hlt, hnear, hlt.ne]
  · simp
  · rcases (nearestWhole_mono hgt.le).lt_or_eq with hnear | hnear
    · simp [hgt.not_gt, hgt.ne', hnear.not_gt, hnear.ne']
    · simp [hgt.not_gt, hgt.ne', hnear]

/-- Records a number that lies beyond a bound, with a message for the bound itself and one for what is past it. -/
def recordBeyond (a b : Int) (excluded : Bool) (onBoundary past path : String) (s : ErrorSet) : ErrorSet :=
  if Beyond a b excluded then s.add path (if a = b then onBoundary else past) else s

/-- The two tests that a bound makes: first whether its boundary is excluded and met, then whether it is passed. -/
theorem recordBeyond_eq {a b : Int} {excluded same passed : Bool} (hsame : same = true ↔ a = b)
    (hpassed : passed = true ↔ a < b) (onBoundary past path : String) (s : ErrorSet) :
    (if excluded && same then s.add path onBoundary else if passed then s.add path past else s) =
      recordBeyond a b excluded onBoundary past path s := by
  unfold recordBeyond Beyond
  rcases lt_trichotomy a b with hlt | rfl | hgt
  · have hne : same = false := by simpa [hlt.ne] using hsame
    simp [hne, hpassed.mpr hlt, hlt, hlt.ne]
  · have hpassed : passed = false := by simpa using hpassed
    cases excluded <;> simp [hsame.mpr rfl, hpassed]
  · have hne : same = false := by simpa [hgt.ne'] using hsame
    have hpassed : passed = false := by simpa [hgt.not_gt] using hpassed
    simp [hne, hpassed, hgt.not_gt, hgt.ne']

/-! ## The keywords for bounds -/

/-- Whether a schema object excludes a boundary: the flag is there, and is not `false`. -/
def excludes (members : Members) (flag : String) : Bool := flag? (Json.find? members flag) == some true

theorem IsWord.natAbs_lt {n : Int} (h : IsWord n) : n.natAbs < 2 ^ 65 := by
  unfold IsWord at h
  omega

/-- The limit that a whole number sets. -/
theorem read?_integer {m : Int} {y : Binary64} (hy : Binary64.ofInt? m = some y) :
    Limit.read? (some (.integer m)) = some ⟨y, (Json.integer m).text⟩ := by
  simp [Limit.read?, Json.number?, hy]

section

variable {members : Members} {n m : Int} {x : Binary64} (hn : IsWord n) (hm : IsWord m)
  (hx : Binary64.ofInt? n = some x)
include hn hm hx

/-- A least number records what is rounded to a smaller number than it, or to the same one if it is excluded. -/
theorem checkMinimum_integer (hmin : Json.find? members "minimum" = some (.integer m)) (path : String) (s : ErrorSet) :
    (NumberRules.parse members).checkMinimum x path s =
      recordBeyond (nearestWhole n) (nearestWhole m) (excludes members "exclusiveMinimum")
        ("must have a minimum value greater than boundary value of " ++ (Json.integer m).text)
        ("must have a minimum value of " ++ (Json.integer m).text) path s := by
  obtain ⟨y, hy, -⟩ := Binary64.exists_ofInt? hm.natAbs_lt
  obtain ⟨hlt, hsame⟩ := Binary64.ofInt?_compare hn.natAbs_lt hm.natAbs_lt hx hy
  rw [NumberRules.checkMinimum, NumberRules.parse]
  dsimp only
  rw [hmin, read?_integer hy]
  exact recordBeyond_eq hsame hlt _ _ path s

/-- A greatest number records what is rounded to a greater number than it, or to the same one if it is excluded. -/
theorem checkMaximum_integer (hmax : Json.find? members "maximum" = some (.integer m)) (path : String) (s : ErrorSet) :
    (NumberRules.parse members).checkMaximum x path s =
      recordBeyond (nearestWhole m) (nearestWhole n) (excludes members "exclusiveMaximum")
        ("must have a maximum value less than boundary value of " ++ (Json.integer m).text)
        ("must have a maximum value of " ++ (Json.integer m).text) path s := by
  obtain ⟨y, hy, -⟩ := Binary64.exists_ofInt? hm.natAbs_lt
  obtain ⟨hlt, -⟩ := Binary64.ofInt?_compare hm.natAbs_lt hn.natAbs_lt hy hx
  obtain ⟨-, hsame⟩ := Binary64.ofInt?_compare hn.natAbs_lt hm.natAbs_lt hx hy
  rw [NumberRules.checkMaximum, NumberRules.parse]
  dsimp only
  rw [hmax, read?_integer hy]
  exact recordBeyond_eq (hsame.trans eq_comm) hlt _ _ path s

end

/-! ## Checks against bounds alone -/

/-- A schema object that sets nothing but bounds. -/
def BoundsOnly (members : Members) : Prop :=
  ∀ m ∈ members, m.1 ∈ ["minimum", "exclusiveMinimum", "maximum", "exclusiveMaximum"]

instance (members : Members) : Decidable (BoundsOnly members) := inferInstanceAs (Decidable (∀ _ ∈ _, _))

theorem BoundsOnly.find? {members : Members} (h : BoundsOnly members) {key : String}
    (hkey : key ∉ ["minimum", "exclusiveMinimum", "maximum", "exclusiveMaximum"]) : Json.find? members key = none := by
  refine List.lookup_eq_none_iff.mpr fun m hm => ?_
  rw [bne_iff_ne]
  rintro rfl
  exact hkey (h m hm)

/-- Of the conditions, a schema object with nothing but bounds sets none. -/
theorem BoundsOnly.conditions_eq {members : Members} (h : BoundsOnly members) :
    Conditions.parse members = ⟨[], .unspecified, none, none, none, none, none, []⟩ := by
  simp [Conditions.parse, Conditions.extensions, Conditions.dependenciesOf, Required.parse, Json.findSome?, Limit.read?,
    h.find?]

/-- It lists no branches either. -/
theorem BoundsOnly.combinators_eq {members : Members} (h : BoundsOnly members) :
    Combinators.parse members = ⟨none, none, none⟩ := by
  simp [Combinators.parse, Combinators.branches?, h.find?]

/-- Of the keywords for numbers, it sets those for bounds. -/
theorem BoundsOnly.number_check {members : Members} (h : BoundsOnly members) (x : Binary64) (text path : String)
    (s : ErrorSet) :
    (NumberRules.parse members).check x text path s =
      (NumberRules.parse members).checkMaximum x path ((NumberRules.parse members).checkMinimum x path s) := by
  have hdivisors : (NumberRules.parse members).divisibleBy = none ∧ (NumberRules.parse members).multipleOf = none := by
    simp [NumberRules.parse, Limit.read?, h.find?]
  simp [NumberRules.check, NumberRules.checkDivisor, hdivisors]

/-- It is read for its keywords, and not for a reference. -/
theorem BoundsOnly.content_eq {members : Members} (h : BoundsOnly members) (scope : Scope) :
    content scope (.schema (.object members)) = .keywords scope (Keywords.parse members) := by
  have henter : scope.enter members = .ok scope := by simp [Scope.enter, h.find?]
  rw [content, henter]
  simp [memberContent, h.find?]

/-- A check of a whole number against bounds alone records what is beyond them, and nothing else. -/
theorem check_of_boundsOnly {members : Members} (h : BoundsOnly members) {o : Options} (ho : 0 < o.maxDepth) {n : Int}
    {x : Binary64} (hx : (Json.integer n).number? = some x) :
    (check o (.object members) (.integer n)).outcome =
      .ok ((NumberRules.parse members).checkMaximum x "" ((NumberRules.parse members).checkMinimum x "" ∅)) := by
  obtain ⟨depth, hdepth⟩ := Nat.exists_eq_succ_of_ne_zero ho.ne'
  have hformat : Keywords.formatOf members = none := by simp [Keywords.formatOf, h.find?]
  have henumeration (required : Bool) : Enumeration.parse? members required = none := by
    simp [Enumeration.parse?, Json.findSome?, h.find?]
  unfold check evaluate
  rw [hdepth, interpret_content, h.content_eq, interpretContent]
  simp [Keywords.check, Keywords.parse, Keywords.checkKind, Keywords.checkNumber, Keywords.checkFormat, hx, hformat,
    henumeration, h.conditions_eq, h.combinators_eq, h.number_check, Conditions.check, Conditions.checkType,
    Conditions.checkDisallow, Conditions.checkNot, Required.check, Combinators.check, Combinators.checkOptional]

/-! ## Whole numbers held against whole bounds -/

/-- What the bounds of a schema object do with a whole number `n` that is taken as the number `x`. -/
structure RoundedBounds (members : Members) (n : Int) (x : Binary64) : Prop where
  /-- The least number is compared after both have been rounded. -/
  minimum : ∀ m, IsWord m → Json.find? members "minimum" = some (.integer m) → ∀ path s,
    (NumberRules.parse members).checkMinimum x path s =
      recordBeyond (nearestWhole n) (nearestWhole m) (excludes members "exclusiveMinimum")
        ("must have a minimum value greater than boundary value of " ++ (Json.integer m).text)
        ("must have a minimum value of " ++ (Json.integer m).text) path s
  /-- So is the greatest number. -/
  maximum : ∀ m, IsWord m → Json.find? members "maximum" = some (.integer m) → ∀ path s,
    (NumberRules.parse members).checkMaximum x path s =
      recordBeyond (nearestWhole m) (nearestWhole n) (excludes members "exclusiveMaximum")
        ("must have a maximum value less than boundary value of " ++ (Json.integer m).text)
        ("must have a maximum value of " ++ (Json.integer m).text) path s
  /-- It comes to the same as for the numbers themselves unless two different ones are rounded to the same number; then
  all depends on whether the boundary is excluded. -/
  minimum_exact : ∀ m excluded, (Beyond (nearestWhole n) (nearestWhole m) excluded ↔ Beyond n m excluded) ↔
    n = m ∨ nearestWhole n ≠ nearestWhole m ∨ (excluded = true ↔ n < m)
  /-- Likewise for the greatest number. -/
  maximum_exact : ∀ m excluded, (Beyond (nearestWhole m) (nearestWhole n) excluded ↔ Beyond m n excluded) ↔
    n = m ∨ nearestWhole n ≠ nearestWhole m ∨ (excluded = true ↔ m < n)
  /-- Numbers of at most 53 bits are not rounded to the same one. -/
  small : ∀ m : Int, n.natAbs ≤ 2 ^ 53 → m.natAbs ≤ 2 ^ 53 → nearestWhole n = n ∧ nearestWhole m = m
  /-- Where a schema object sets nothing but bounds, a check of the number finds what the two of them find. -/
  alone : BoundsOnly members → ∀ o : Options, 0 < o.maxDepth → (check o (.object members) (.integer n)).outcome =
    .ok ((NumberRules.parse members).checkMaximum x "" ((NumberRules.parse members).checkMinimum x "" ∅))

/-- **Whole numbers are held against whole bounds after both have been rounded to 53 bits.** -/
theorem integer_bounds (members : Members) {n : Int} (hn : IsWord n) :
    ∃ x, (Json.integer n).number? = some x ∧ RoundedBounds members n x := by
  obtain ⟨x, hx, -⟩ := Binary64.exists_ofInt? hn.natAbs_lt
  exact ⟨x, hx,
    { minimum := fun _ hm hmin => checkMinimum_integer hn hm hx hmin
      maximum := fun _ hm hmax => checkMaximum_integer hn hm hx hmax
      minimum_exact := fun m excluded => beyond_nearestWhole_iff n m excluded
      maximum_exact := fun m excluded => by
        rw [beyond_nearestWhole_iff, eq_comm, ne_comm]
      small := fun _ hn hm => ⟨nearestWhole_of_small hn, nearestWhole_of_small hm⟩
      alone := fun h o ho => check_of_boundsOnly h ho hx }⟩

/-- The first whole number that is rounded counts as equal to an excluded least number one below it. -/
theorem integer_bounds_of_rounded :
    let members : Members := [("minimum", .integer (2 ^ 53)), ("exclusiveMinimum", .bool true)]
    IsWord (2 ^ 53 + 1) ∧ (check (.withFormats .empty) (.object members) (.integer (2 ^ 53 + 1))).outcome =
      .ok ((∅ : ErrorSet).add "" "must have a minimum value greater than boundary value of 9007199254740992") := by
  intro members
  have hn : IsWord (2 ^ 53 + 1) := by decide
  obtain ⟨x, -, hbounds⟩ := integer_bounds members hn
  refine ⟨hn, ?_⟩
  have hmaximum (s : ErrorSet) : (NumberRules.parse members).checkMaximum x "" s = s := rfl
  have hnear : nearestWhole (2 ^ 53 + 1) = nearestWhole (2 ^ 53) := by decide +kernel
  have htext : (Json.integer (2 ^ 53)).text = "9007199254740992" := by decide +kernel
  have hexcludes : excludes members "exclusiveMinimum" = true := rfl
  rw [hbounds.alone (by decide) _ (by decide), hbounds.minimum _ (by decide) rfl, hmaximum, hnear, htext, hexcludes]
  simp [recordBeyond, Beyond]

/-- **Whole numbers are not held against whole bounds as they are**: different ones may count as the same. -/
theorem not_forall_integer_bounds_exact :
    ¬ ∀ (n m : Int) (excluded : Bool), IsWord n → IsWord m →
      ((check (.withFormats .empty) (.object [("minimum", .integer m), ("exclusiveMinimum", .bool excluded)])
          (.integer n)).outcome ≠ .ok ∅ ↔ n < m ∨ n = m ∧ excluded = true) ∧
      ((check (.withFormats .empty) (.object [("maximum", .integer m), ("exclusiveMaximum", .bool excluded)])
          (.integer n)).outcome ≠ .ok ∅ ↔ m < n ∨ n = m ∧ excluded = true) := by
  intro h
  have hpassed := (h (2 ^ 53 + 1) (2 ^ 53) false (by decide) (by decide)).2.mpr (.inl (by decide))
  exact hpassed (by decide +kernel)

end JsonSchema
