/-!
# URLs

## What is here

* `Url` — the parts of a URL in their normalised form.
* `Url.text` — the URL on one line.
* `UrlError` — why a text is not a URL, and the reason as messages give it.
-/

set_option autoImplicit false

namespace JsonSchema

/-- A URL in normalised form. The authority is what stands behind two slashes: user, host and port as they are
written. A path without a leading slash and without authority is opaque: nothing can be relative to it. -/
structure Url where
  scheme : List Char
  authority : Option (List Char)
  path : List Char
  query : Option (List Char)
  fragment : Option (List Char)
deriving DecidableEq, Repr

/-- Why a text is not a URL. -/
inductive UrlError where
  | emptyHost
  | invalidDomain
  | invalidPort
  | invalidIpv4
  | invalidIpv6
  | invalidHostCharacter
  | relativeWithoutBase
  | relativeWithOpaqueBase
deriving DecidableEq, Repr

/-- The reason in words. -/
def UrlError.message : UrlError → String
  | .emptyHost => "empty host"
  | .invalidDomain => "invalid international domain name"
  | .invalidPort => "invalid port number"
  | .invalidIpv4 => "invalid IPv4 address"
  | .invalidIpv6 => "invalid IPv6 address"
  | .invalidHostCharacter => "invalid domain character"
  | .relativeWithoutBase => "relative URL without a base"
  | .relativeWithOpaqueBase => "relative URL with a cannot-be-a-base base"

namespace Url

/-- Whether the path is opaque. -/
def isOpaque (u : Url) : Bool :=
  u.authority.isNone && u.path.head? != some '/'

/-- An optional part behind the mark that introduces it. -/
def marked (mark : Char) : Option (List Char) → List Char
  | none => []
  | some cs => mark :: cs

/-- The characters of a URL. A path that starts with two slashes gets a dot in front when there is no
authority, because it would be read as one. -/
def chars (u : Url) : List Char :=
  u.scheme ++ ':' :: ((match u.authority with
      | some a => '/' :: '/' :: a
      | none => if ['/', '/'].isPrefixOf u.path then ['/', '.'] else []) ++
    u.path ++ marked '?' u.query ++ marked '#' u.fragment)

/-- The URL on one line. -/
def text (u : Url) : String :=
  String.ofList u.chars

/-- The URL of the whole document: without the fragment, and without blanks at the end of an opaque path,
which only what follows had kept. -/
def withoutFragment (u : Url) : Url :=
  let path :=
    if u.isOpaque && u.query.isNone then (u.path.reverse.dropWhile (· == ' ')).reverse else u.path
  { u with path, fragment := none }

end Url

end JsonSchema
