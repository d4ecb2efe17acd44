import JsonSchema.Regex.CharSet
import JsonSchema.Regex.Error
import JsonSchema.Text.Split
import JsonSchema.Unicode.Script

/-!
# Sets named by a property

Names of properties and values are compared without regard to case, blanks, hyphens and underscores, and to an
`is` in front.

## What is here

* `PropertyName.normalise` — the form of a name in which it is compared.
* `PropertyName.category?` — a general category, or a group of them.
* `CharSet.ofProperty` — **the set that a name stands for**: a property, a category, a script, or a value of one
  of the last two.
-/

set_option autoImplicit false

namespace JsonSchema

namespace PropertyName

/-- The form of a name in which it is compared. An `is` in front of a `c` alone belongs to the name. -/
def normalise (name : List Char) : String :=
  let lower := name.map Char.toLower
  let hasIs := ['i', 's'].isPrefixOf lower
  let kept := (if hasIs then lower.drop 2 else lower).filter fun c =>
    c.toNat < 128 && c != ' ' && c != '_' && c != '-'
  String.ofList (if hasIs && kept == ['c'] then ['i', 's', 'c'] else kept)

/-- The names of single categories. -/
def categoryNames : List (List String × Category) :=
  [(["lu", "uppercaseletter"], .lu), (["ll", "lowercaseletter"], .ll), (["lt", "titlecaseletter"], .lt),
   (["lm", "modifierletter"], .lm), (["lo", "otherletter"], .lo), (["mn", "nonspacingmark"], .mn),
   (["mc", "spacingmark"], .mc), (["me", "enclosingmark"], .me), (["nd", "decimalnumber", "digit"], .nd),
   (["nl", "letternumber"], .nl), (["no", "othernumber"], .no), (["pc", "connectorpunctuation"], .pc),
   (["pd", "dashpunctuation"], .pd), (["ps", "openpunctuation"], .ps), (["pe", "closepunctuation"], .pe),
   (["pi", "initialpunctuation"], .pi), (["pf", "finalpunctuation"], .pf), (["po", "otherpunctuation"], .po),
   (["sm", "mathsymbol"], .sm), (["sc", "currencysymbol"], .sc), (["sk", "modifiersymbol"], .sk),
   (["so", "othersymbol"], .so), (["zs", "spaceseparator"], .zs), (["zl", "lineseparator"], .zl),
   (["zp", "paragraphseparator"], .zp), (["cc", "control", "cntrl"], .cc), (["cf", "format"], .cf),
   (["co", "privateuse"], .co)]

/-- The names of groups of categories. -/
def groupNames : List (List String × List Category) :=
  [(["l", "letter"], [.lu, .ll, .lt, .lm, .lo]), (["lc", "casedletter"], [.lu, .ll, .lt]),
   (["m", "mark", "combiningmark"], [.mn, .mc, .me]), (["n", "number"], [.nd, .nl, .no]),
   (["p", "punctuation", "punct"], [.pc, .pd, .ps, .pe, .pi, .pf, .po]),
   (["s", "symbol"], [.sm, .sc, .sk, .so]), (["z", "separator"], [.zs, .zl, .zp])]

/-- The characters of a list of categories. -/
def ofCategories (cs : List Category) : CharSet := .runs (cs.flatMap Category.runs)

/-- The characters that have been assigned. -/
def assigned : CharSet := ofCategories Category.all

/-- The entry under a name. -/
def lookUp? {α : Type} (table : List (List String × α)) (name : String) : Option α :=
  (table.find? fun e => e.1.contains name).map (·.2)

/-- The set of a category, of a group of them, or of one of the three names that go with them. -/
def category? (name : String) : Option CharSet :=
  match name with
  | "any" => some (.complement .nothing)
  | "assigned" => some assigned
  | "ascii" => some (.between '\x00' '\x7F')
  | "cn" | "unassigned" => some (.complement assigned)
  | "c" | "other" => some (.union (ofCategories [.cc, .cf, .co]) (.complement assigned))
  | _ =>
    ((lookUp? categoryNames name).map fun c => ofCategories [c]) <|>
      (lookUp? groupNames name).map ofCategories

/-- The set of a script. -/
def script? (name : String) : Option CharSet :=
  (lookUp? Script.tables name).map fun table => .runs (Runs.ofText table)

/-- The set of a property that characters have or have not. -/
def binary? (name : String) : Option CharSet :=
  if name == "alphabetic" || name == "alpha" then some (.runs Property.alphabetic)
  else if name == "joincontrol" || name == "joinc" then some (.runs Property.joinControl)
  else (lookUp? Property.binary name).map fun table => .runs (Runs.ofText table)

/-- The set of a name on its own. -/
def plain (name : String) : Except PatternError CharSet :=
  match binary? name <|> category? name <|> script? name with
  | some s => .ok s
  | none => .error .propertyUnknown

/-- The set of a value of a property. -/
def valued (property value : String) : Except PatternError CharSet :=
  let found (s : Option CharSet) : Except PatternError CharSet :=
    match s with
    | some s => .ok s
    | none => .error .propertyValueUnknown
  if property == "generalcategory" || property == "gc" then found (category? value)
  else if property == "script" || property == "sc" then found (script? value)
  else .error .propertyUnknown

/-- A text in two parts, around the first occurrence of a character. -/
def cut? (mark : Char) (cs : List Char) : Option (List Char × List Char) :=
  if cs.contains mark then some (cs.takeWhile (· != mark), (cs.dropWhile (· != mark)).drop 1) else none

/-- A text in two parts, around the first occurrence of the sign for "differs from". -/
def cutNotEqual? : List Char → Option (List Char × List Char)
  | '!' :: '=' :: rest => some ([], rest)
  | c :: rest => (cutNotEqual? rest).map fun (before, behind) => (c :: before, behind)
  | [] => none

end PropertyName

open PropertyName in
/-- The set that a name stands for, and whether the name asks for its complement. -/
def CharSet.ofProperty (name : List Char) : Except PatternError (CharSet × Bool) :=
  match cutNotEqual? name with
  | some (property, value) => return (← valued (normalise property) (normalise value), true)
  | none =>
    match cut? ':' name <|> cut? '=' name with
    | some (property, value) => return (← valued (normalise property) (normalise value), false)
    | none => return (← plain (normalise name), false)

end JsonSchema
