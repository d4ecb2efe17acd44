import JsonSchema.Proofs.Keyword.Parts
import JsonSchema.Proofs.Plan.Content

/-!
# Coercion only matters for numeric strings

Where numeric strings count as numbers, a check asks every string that it meets whether it spells a finite number. A check
only meets what stands in the instance, and absent values. So without numeric strings both modes are the same.

## What is here

* `Json.strings` — the strings in a value, at any depth. Keys are none of them.
* `Instance.NoNumerals` — no string in the instance spells a finite number; the parts of the instance inherit it.
* `interpret_mode` — in both modes an instance without numeric strings is held against a schema alike, **in all that it
  records, in its faults and in the documents it asks for**.
* `check_coerce_eq_strict` — the same for checks.
-/

set_option autoImplicit false

namespace JsonSchema

namespace Json

mutual

/-- The strings in a value, at any depth, from left to right. Keys are none of them. -/
def strings : Json → List String
  | .string text => [text]
  | .array elements => elementStrings elements
  | .object members => memberStrings members
  | .null | .bool _ | .integer _ | .real _ => []

/-- The strings in all elements. -/
def elementStrings : List Json → List String
  | [] => []
  | e :: es => strings e ++ elementStrings es

/-- The strings in the values of all members. -/
def memberStrings : List (String × Json) → List String
  | [] => []
  | (_, v) :: ms => strings v ++ memberStrings ms

end

variable {text : String}

theorem mem_elementStrings {es : List Json} : text ∈ elementStrings es ↔ ∃ e ∈ es, text ∈ e.strings := by
  induction es with
  | nil => simp [elementStrings]
  | cons e es ih => rw [elementStrings, List.mem_append, ih, List.exists_mem_cons_iff]

theorem mem_memberStrings {ms : Members} : text ∈ memberStrings ms ↔ ∃ m ∈ ms, text ∈ m.2.strings := by
  induction ms with
  | nil => simp [memberStrings]
  | cons m ms ih => rw [memberStrings, List.mem_append, ih, List.exists_mem_cons_iff]

end Json

namespace Instance

/-- No string in the instance spells a finite number. -/
def NoNumerals (i : Instance) : Prop := ∀ value, i = .present value → ∀ text ∈ value.strings, readFinite? text = none

variable {i j : Instance}

theorem NoNumerals.spellsNone (h : i.NoNumerals) : i.SpellsNone := by
  rintro text rfl
  exact h _ rfl text (by simp [Json.strings])

/-- The parts of an instance have none of the strings that it has not. -/
theorem NoNumerals.part (h : i.NoNumerals) (hj : i.Part j) : j.NoNumerals := by
  cases hj with
  | self => exact h
  | absent => exact fun _ heq => nomatch heq
  | element he =>
    rintro _ ⟨⟩ text htext
    exact h _ rfl text (Json.mem_elementStrings.mpr ⟨_, he, htext⟩)
  | member hm =>
    rintro _ ⟨⟩ text htext
    exact h _ rfl text (Json.mem_memberStrings.mpr ⟨_, hm, htext⟩)

end Instance

/-- In both modes an instance without numeric strings is held against a schema alike. -/
theorem interpret_mode (o : Options) (mode mode' : Mode) (depth : Nat) (scope : Scope) (x : Subschema) {i : Instance}
    (hi : i.NoNumerals) (path : String) (segment : Segment) (s : ErrorSet) :
    interpret { o with mode } depth scope x i path segment s =
      interpret { o with mode := mode' } depth scope x i path segment s := by
  induction depth generalizing scope x i path segment s with
  | zero => rw [interpret, interpret]
  | succ depth ih =>
    rw [interpret_content, interpret_content]
    cases content scope x with
    | accept => rfl
    | notAnObject kind => rfl
    | fault f => rfl
    | reference inner uri =>
      -- Documents are looked up alike, and the instance stays the same.
      exact bind_congr fun target => ih target.scope (.schema target.node) hi path segment s
    | keywords inner k =>
      refine Keywords.check_eq_of_parts hi.spellsNone (fun j hj x segment s => ?_) k segment s
      exact ih inner x (hi.part hj) (extendPath path segment) segment s

/-- **Coercion touches numeric strings only**: a check of a value in which no string spells a finite number ends in the same
way in both modes, with the same violations in the same order or the same fault, and asks for the same documents. -/
theorem check_coerce_eq_strict (o : Options) (schema value : Json) (h : ∀ text ∈ value.strings, readFinite? text = none) :
    check { o with mode := .coerce } schema value = check { o with mode := .strict } schema value := by
  have hvalue : (Instance.present value).NoNumerals := by
    rintro _ ⟨⟩
    exact h
  exact interpret_mode o .coerce .strict o.maxDepth _ _ hvalue "" .here ∅

/-- Texts that are nearly numbers, a number that is none of the finite ones, and a key that spells one. -/
theorem check_coerce_eq_strict_of_near_numbers :
    let o := Options.withFormats .empty
    let number : Json := .object [("type", .array [.string "number", .array [.string "integer"]]),
      ("minimum", .integer 5)]
    let schema : Json := .object [("properties", .object [("1", .object [("items", number)])]),
      ("additionalProperties", .object [("disallow", .string "integer"), ("maximum", .integer 2)])]
    let value : Json := .object [("1", .array [.string "inf", .string "1e999", .string "0x10", .integer 3]),
      ("x", .object [("7", .string "seven")])]
    (∀ text ∈ value.strings, readFinite? text = none) ∧
      check { o with mode := .coerce } schema value = check { o with mode := .strict } schema value := by
  intro o number schema value
  have h : ∀ text ∈ value.strings, readFinite? text = none := by decide +kernel
  exact ⟨h, check_coerce_eq_strict o schema value h⟩

/-- A string that spells a number is one in one of the modes only. -/
example :
    let o := Options.withFormats .empty
    let schema : Json := .object [("type", .string "number")]
    ((check { o with mode := .coerce } schema (.string " 12 ")).outcome.map ErrorSet.size,
      (check { o with mode := .strict } schema (.string " 12 ")).outcome.map ErrorSet.size) = (.ok 0, .ok 1) := by
  decide +kernel

end JsonSchema
