import JsonSchema.Keywords

/-!
# Keywords as conditions

What the keywords of a schema object mean, apart from what is reported: a condition on the instance, read from
left to right up to the first part that settles it. No violations are collected. The only way not to get an
answer is a fault that is met before the matter is settled.

## What is here

* `Verdict` — whether an instance is acceptable, or the fault that is met. `Judge` — the verdict on handles.
* `holds` — the condition that each group of keywords states.
* `Keywords.holds` — **the condition of a schema object**: the conjunction of all its keywords.
-/

set_option autoImplicit false

namespace JsonSchema

/-- Whether an instance is acceptable, or the fault that is met before this is settled. -/
abbrev Verdict := Except Fault Bool

/-- The verdict on an instance: the handle, the instance, the path to where the keyword stands, and the step
from there to the instance. -/
abbrev Judge (S : Type) := S → Instance → String → Segment → Verdict

variable {S : Type}

/-! ## Types -/

namespace TypeRule

mutual

/-- Whether an instance is what is asked for; one alternative is enough, and no alternatives ask for nothing. -/
def holds (mode : Mode) (judge : Judge S) (i : Instance) (path : String) : TypeRule S → Verdict
  | .any => pure true
  | .named name => pure (name.accepts mode i)
  | .schema x => judge x i path .here
  | .unknown name => .error (.unknownType path name)
  | .union candidates => if candidates.isEmpty then pure true else someHolds mode judge i path candidates

/-- Whether an instance is what one of the alternatives asks for. -/
def someHolds (mode : Mode) (judge : Judge S) (i : Instance) (path : String) : List (TypeRule S) → Verdict
  | [] => pure false
  | r :: rs => holds mode judge i path r <||> someHolds mode judge i path rs

end

end TypeRule

/-! ## Conditions for every kind -/

/-- Whether a limit, if there is one, is kept. -/
def Limit.kept (limit : Option Limit) (exceeded : Limit → Bool) : Bool :=
  match limit with
  | some l => !exceeded l
  | none => true

/-- Whether an object has the named properties, or an instance is there at all. -/
def Required.holds (r : Required) (i : Instance) : Bool :=
  match r, i with
  | .names wanted, .present (.object members) => wanted.all (Json.hasKey members)
  | .flag true, .absent => false
  | _, _ => true

/-- Whether an object has what the presence of a property asks for. -/
def Dependency.holds (judge : Judge S) (members : Members) (path : String) (d : Dependency S) : Verdict :=
  match d with
  | .properties wanted => pure (wanted.all (Json.hasKey members))
  | .schema x => judge x (.present (.object members)) path .here
  | .ignored => pure true

namespace Conditions

/-- Whether an instance is of the type asked for; an absent one is of any type. -/
def typeHolds (mode : Mode) (judge : Judge S) (c : Conditions S) (i : Instance) (path : String) : Verdict :=
  match c.type with
  | some rule => if i.isAbsent then pure true else rule.holds mode judge i path
  | none => pure true

/-- Whether an instance is of no type that is disallowed. -/
def disallowHolds (mode : Mode) (judge : Judge S) (c : Conditions S) (i : Instance) (path : String) : Verdict :=
  match c.disallow with
  | some rule => notM (rule.holds mode judge i path)
  | none => pure true

/-- Whether an instance is not acceptable to the schema under `not`. -/
def notHolds (judge : Judge S) (c : Conditions S) (i : Instance) (path : String) : Verdict :=
  match c.not with
  | some x => notM (judge x i path .here)
  | none => pure true

/-- Whether an object has neither too few nor too many properties. -/
def sizeHolds (c : Conditions S) (members : Members) : Bool :=
  Limit.kept c.minProperties (·.above members.length) && Limit.kept c.maxProperties (·.below members.length)

/-- Whether an object has what its properties depend on. -/
def dependenciesHold (judge : Judge S) (c : Conditions S) (members : Members) (path : String) : Verdict :=
  c.dependencies.allM fun (key, d) => if Json.hasKey members key then d.holds judge members path else pure true

/-- What is asked of objects only. -/
def objectHolds (judge : Judge S) (c : Conditions S) (i : Instance) (path : String) : Verdict :=
  match i with
  | .present (.object members) => pure (c.sizeHolds members) <&&> c.dependenciesHold judge members path
  | _ => pure true

/-- Whether all these keywords are satisfied. -/
def holds (mode : Mode) (judge : Judge S) (c : Conditions S) (i : Instance) (path : String) : Verdict :=
  c.extended.allM (judge · i path .here) <&&> pure (c.required.holds i) <&&> c.typeHolds mode judge i path <&&>
    c.disallowHolds mode judge i path <&&> c.notHolds judge i path <&&> c.objectHolds judge i path

end Conditions

/-! ## Combinators -/

namespace Combinators

/-- How many branches accept an instance. -/
def countHolding (judge : Judge S) (i : Instance) (path : String) : List S → Except Fault Nat
  | [] => pure 0
  | x :: xs => do
    let holds ← judge x i path .here
    let n ← countHolding judge i path xs
    return if holds then n + 1 else n

/-- Whether exactly one branch accepts an instance. -/
def oneHolds (judge : Judge S) (i : Instance) (path : String) (xs : List S) : Verdict := do
  let n ← countHolding judge i path xs
  return n == 1

/-- The condition on branches that a schema may lack. -/
def optionalHolds (rule : List S → Verdict) : Option (List S) → Verdict
  | some branches => rule branches
  | none => pure true

/-- Whether all branches, some branch, and exactly one branch accept an instance. -/
def holds (judge : Judge S) (c : Combinators S) (i : Instance) (path : String) : Verdict :=
  if i.isAbsent then pure true
  else
    optionalHolds (·.allM (judge · i path .here)) c.allOf <&&>
      optionalHolds (·.anyM (judge · i path .here)) c.anyOf <&&>
      optionalHolds (oneHolds judge i path) c.oneOf

end Combinators

/-! ## Arrays -/

namespace ElementRules

/-- Whether an array has neither too few nor too many elements, and none twice where that matters. -/
def countHolds (r : ElementRules S) (elements : List Json) : Bool :=
  Limit.kept r.minItems (·.above elements.length) && Limit.kept r.maxItems (·.below elements.length) &&
    !(r.uniqueItems && hasDuplicates elements)

/-- Whether an element may do without the schema for all elements. -/
def excused (judge : Judge S) (additional : Additional S) (path : String) (position : Nat) (element : Json) :
    Verdict :=
  match additional with
  | .unspecified | .deny => pure false
  | .allow => pure true
  | .schema other => judge other (.present element) path (.index position)

/-- Whether each element, from a position on, satisfies the schema for all elements or is excused. -/
def everyHolds (judge : Judge S) (additional : Additional S) (schema : S) (path : String) :
    Nat → List Json → Verdict
  | _, [] => pure true
  | position, e :: es =>
    (judge schema (.present e) path (.index position) <||> excused judge additional path position e) <&&>
      everyHolds judge additional schema path (position + 1) es

/-- Whether an element for whose position there is no schema is acceptable. -/
def surplusHolds (judge : Judge S) (additional : Additional S) (path : String) (position : Nat)
    (element : Json) : Verdict :=
  match additional with
  | .schema other => judge other (.present element) path (.index position)
  | .deny => pure false
  | .allow | .unspecified => pure true

/-- Whether elements satisfy the schemas of their positions. -/
def positionsHold (judge : Judge S) (additional : Additional S) (path : String) :
    Nat → List S → List Json → Verdict
  | _, [], [] => pure true
  | position, x :: xs, e :: es =>
    judge x (.present e) path (.index position) <&&>
      positionsHold judge additional path (position + 1) xs es
  | position, [], e :: es =>
    surplusHolds judge additional path position e <&&>
      positionsHold judge additional path (position + 1) [] es
  | position, x :: xs, [] =>
    judge x .absent path (.index position) <&&> positionsHold judge additional path (position + 1) xs []

/-- Whether the elements satisfy the schemas for them. -/
def itemsHold (judge : Judge S) (r : ElementRules S) (elements : List Json) (path : String) : Verdict :=
  match r.items with
  | .unspecified => pure true
  | .every schema => everyHolds judge r.additional schema path 0 elements
  | .positions schemas =>
    if elements.isEmpty then pure true else positionsHold judge r.additional path 0 schemas elements

/-- Whether all keywords for arrays are satisfied. -/
def holds (judge : Judge S) (r : ElementRules S) (elements : List Json) (path : String) : Verdict :=
  pure (r.countHolds elements) <&&> r.itemsHold judge elements path

end ElementRules

/-! ## Objects -/

namespace PropertyRules

/-- Whether the members to which a pattern applies satisfy its schema. A pattern that cannot be read is never
satisfied. -/
def patternHolds (judge : Judge S) (members : Members) (path : String) (p : PatternRule S) : Verdict :=
  match Pattern.read? p.pattern with
  | .error _ => pure false
  | .ok regex => members.allM fun (key, value) =>
      if regex.isIn key then judge p.schema (.present value) path (.key key) else pure true

/-- Whether a member that is not mentioned is acceptable. -/
def uncoveredHolds (judge : Judge S) (r : PropertyRules S) (path key : String) (value : Json) : Verdict :=
  match r.additional with
  | .deny => pure (key == inlineSchemaKey)
  | .schema other => judge other (.present value) path (.key key)
  | .allow | .unspecified => pure true

/-- Whether the property that a member needs is there. -/
def requiresHolds (r : PropertyRules S) (members : Members) (key : String) : Bool :=
  match (r.definition? key).bind (·.requires) with
  | some other => Json.hasKey members other
  | none => true

/-- Whether a member is acceptable by itself. -/
def memberHolds (judge : Judge S) (r : PropertyRules S) (members : Members) (path : String)
    (member : String × Json) : Verdict :=
  (if r.covers member.1 then pure true else r.uncoveredHolds judge path member.1 member.2) <&&>
    pure (r.requiresHolds members member.1)

/-- Whether all keywords for objects are satisfied. -/
def holds (judge : Judge S) (r : PropertyRules S) (members : Members) (path : String) : Verdict :=
  r.patterns.allM (patternHolds judge members path) <&&>
    r.properties.allM (fun p =>
      judge p.schema (Instance.ofOption (Json.find? members p.name)) path (.key p.name)) <&&>
    members.allM (r.memberHolds judge members path)

end PropertyRules

/-! ## Strings, numbers and enumerations -/

/-- Whether a text is neither too long nor too short. -/
def TextRules.lengthHolds (r : TextRules) (text : String) : Bool :=
  Limit.kept r.maxLength (·.below text.length) && Limit.kept r.minLength (·.above text.length)

/-- Whether the pattern is found in a text. -/
def TextRules.patternHolds (r : TextRules) (text path : String) : Verdict :=
  match r.pattern with
  | none => pure true
  | some p =>
    match Pattern.read? p with
    | .error reason => .error (.invalidPattern path p reason)
    | .ok regex => pure (regex.isIn text)

namespace NumberRules

/-- Whether a number is not below its minimum. An exclusive flag without a minimum is never satisfied. -/
def minimumHolds (r : NumberRules) (number : Binary64) : Bool :=
  match r.minimum with
  | none => r.exclusiveMinimum.isNone
  | some min => !(r.exclusiveMinimum == some true && number.numEq min.value) && !number.lt min.value

/-- Whether a number is not above its maximum. An exclusive flag without a maximum is never satisfied. -/
def maximumHolds (r : NumberRules) (number : Binary64) : Bool :=
  match r.maximum with
  | none => r.exclusiveMaximum.isNone
  | some max => !(r.exclusiveMaximum == some true && number.numEq max.value) && !max.value.lt number

/-- Whether a number is a multiple of a divisor. -/
def divisorHolds (divisor : Option Limit) (number : Binary64) (text : String) : Bool :=
  match divisor with
  | some d => isMultiple number text d
  | none => true

/-- Whether all keywords for numbers are satisfied. -/
def holds (r : NumberRules) (number : Binary64) (text : String) : Bool :=
  r.minimumHolds number && r.maximumHolds number && divisorHolds r.divisibleBy number text &&
    divisorHolds r.multipleOf number text

end NumberRules

/-- Whether an instance is one of the values. -/
def Enumeration.holds (e : Enumeration) (i : Instance) : Bool :=
  (i.isAbsent && !e.checkAbsent) || e.candidates.any i.sameAs

/-! ## All keywords -/

namespace Keywords

/-- Whether a string or a number is of the format. -/
def formatHolds (formats : Formats) (k : Keywords S) (j : Json) : Bool :=
  (k.format.bind (formats.complaint? · j)).isNone

/-- Whether a string that counts as a number satisfies the keywords for numbers. -/
def numeralHolds (mode : Mode) (k : Keywords S) (text : String) : Bool :=
  match mode, readFinite? text with
  | .coerce, some x => k.number.holds x (String.ofList (Text.trim text.toList))
  | _, _ => true

/-- Whether a string satisfies its keywords. -/
def textHolds (mode : Mode) (formats : Formats) (k : Keywords S) (text path : String) : Verdict :=
  pure (k.text.lengthHolds text) <&&> k.text.patternHolds text path <&&>
    pure (k.formatHolds formats (.string text)) <&&> pure (k.numeralHolds mode text)

/-- Whether a number satisfies its keywords. -/
def numberHolds (formats : Formats) (k : Keywords S) (j : Json) : Bool :=
  (match j.number? with
    | some x => k.number.holds x j.text
    | none => true) && k.formatHolds formats j

/-- Whether an instance satisfies the keywords for its kind. -/
def kindHolds (mode : Mode) (formats : Formats) (judge : Judge S) (k : Keywords S) (i : Instance)
    (path : String) : Verdict :=
  match i with
  | .present (.array elements) => k.elements.holds judge elements path
  | .present (.object members) =>
    match k.properties with
    | some rules => rules.holds judge members path
    | none => pure true
  | .present (.string text) => k.textHolds mode formats text path
  | .present (.integer n) => pure (k.numberHolds formats (.integer n))
  | .present (.real x) => pure (k.numberHolds formats (.real x))
  | _ => pure true

/-- Whether an instance is one of the values enumerated. -/
def enumerationHolds (k : Keywords S) (i : Instance) : Bool :=
  match k.enumeration with
  | some e => e.holds i
  | none => true

/-- Whether all keywords are satisfied. -/
def holds (mode : Mode) (formats : Formats) (judge : Judge S) (k : Keywords S) (i : Instance)
    (path : String) : Verdict :=
  k.conditions.holds mode judge i path <&&> k.combinators.holds judge i path <&&>
    k.kindHolds mode formats judge i path <&&> pure (k.enumerationHolds i)

end Keywords

end JsonSchema
