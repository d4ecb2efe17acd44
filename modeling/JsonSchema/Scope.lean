import JsonSchema.Json.Pointer
import JsonSchema.Retrieval.Basic
import JsonSchema.Run
import JsonSchema.Url.Parser

/-!
# Scopes and references

A schema node is read in a scope: the document it stands in, and the URL against which its relative references
are resolved. An `id` moves that URL for the node and what is below it.

## What is here

* `Scope` — document and base; `Scope.enter`, the scope inside a schema object.
* `Reference` — a reference taken apart into the location of a document, a fragment, and the base of that
  document.
* `Scope.resolve` — **the node that a reference leads to, with its scope**. A reference that starts with a hash
  sign stays in the document and in the scope; any other one requests a document.
-/

set_option autoImplicit false

namespace JsonSchema

/-- The document a schema node belongs to, and the base of its relative references. -/
structure Scope where
  root : Json
  base : Option Url

/-- A reference taken apart. -/
structure Reference where
  location : String
  fragment : String
  base : Option Url

/-- A schema node and the scope it is read in. -/
structure Target where
  node : Json
  scope : Scope

namespace Scope

/-- The text of a reference as a URL, as seen from a base; nothing if it is relative and there is no base. -/
def absolute? (base : Option Url) (uri : String) : Except Fault (Option Url) :=
  match Url.read? base uri with
  | .ok url => .ok (some url)
  | .error .relativeWithoutBase => .ok none
  | .error e => .error (.invalidUri uri e.message)

/-- The scope inside a schema object: a non-empty string under `id` becomes the base. A relative `id` without
a base to resolve it against changes nothing. -/
def enter (scope : Scope) (members : Members) : Except Fault Scope :=
  match Json.find? members "id" with
  | some (.string id) =>
    if id.isEmpty then .ok scope
    else do
      match ← absolute? scope.base id with
      | some url => return { scope with base := some url }
      | none => return scope
  | _ => .ok scope

/-- Takes a reference apart. What cannot be made absolute is a location as it is written. -/
def split (base : Option Url) (uri : String) : Except Fault Reference := do
  match ← absolute? base uri with
  | some url =>
    let document := url.withoutFragment
    return { location := document.text
             fragment := String.ofList ('#' :: url.fragment.getD [])
             base := some document }
  | none =>
    let cs := uri.toList
    let fragment := cs.dropWhile (· != '#')
    return { location := String.ofList (cs.takeWhile (· != '#'))
             fragment := if fragment.isEmpty then "#" else String.ofList fragment
             base := none }

/-- Whether a reference stays in the document. -/
def isLocal (uri : String) : Bool :=
  uri.toList.head? == some '#'

/-- The node a reference names in the document of the scope. -/
def resolveLocal (scope : Scope) (uri : String) : Except Fault Target :=
  match scope.root.navigate? uri with
  | some node => .ok { node, scope }
  | none => .error (.unresolvable uri "fragment not found in the current document")

/-- The node a reference names in the document it locates. -/
def Reference.follow (library : Library) (uri : String) (r : Reference) : Except Fault Target :=
  match library r.location with
  | .error e => .error (.unresolvable uri e.message)
  | .ok document =>
    match document.navigate? r.fragment with
    | some node => .ok { node, scope := { root := document, base := r.base } }
    | none =>
      .error (.unresolvable uri ("fragment \"" ++ r.fragment ++ "\" not found in " ++ r.location))

/-- The node that a reference leads to, with its scope. -/
def resolve (library : Library) (scope : Scope) (uri : String) : Run Target :=
  if isLocal uri then .ofExcept (scope.resolveLocal uri)
  else
    match split scope.base uri with
    | .error f => .fail f
    | .ok r => .requesting r.location (Reference.follow library uri r)

end Scope

end JsonSchema
