import JsonSchema.Url.Host

/-!
# Reading URLs

A text is read as a URL, on its own or relative to a base. The schemes of the web and of files have an
authority in any case and take backslashes for slashes; a file URL may lack a host, and its path may start
with a drive letter.

## What is here

* `Url.Path` — the path under construction: segments are appended, and dots remove or keep the last one.
* `Url.readFile`, `Url.readRelative`, `Url.readAuthority`, `Url.readOther` — the forms behind the scheme.
* `Url.read?` — **the reading**; `Url.parse?` without a base and `Url.join?` with one.
-/

set_option autoImplicit false

namespace JsonSchema.Url

/-- The sorts of scheme: files, the other schemes of the web, and all others. -/
inductive SchemeKind where
  | file
  | web
  | other
deriving DecidableEq

/-- The sort of a scheme. -/
def SchemeKind.of (scheme : List Char) : SchemeKind :=
  match String.ofList scheme with
  | "file" => .file
  | "http" | "https" | "ws" | "wss" | "ftp" => .web
  | _ => .other

/-- Whether backslashes are slashes and the path is never empty. -/
def SchemeKind.isSpecial (k : SchemeKind) : Bool := k != .other

/-- The port that a scheme implies. -/
def defaultPort? (scheme : List Char) : Option Nat :=
  match String.ofList scheme with
  | "http" | "ws" => some 80
  | "https" | "wss" => some 443
  | "ftp" => some 21
  | _ => none

/-- A slash, or what the scheme takes for one. -/
def isSlash (k : SchemeKind) (c : Char) : Bool :=
  c == '/' || (k.isSpecial && c == '\\')

/-- A character that ends a path. -/
def endsPath (c : Char) : Bool := c == '?' || c == '#'

/-! ## Drive letters -/

/-- A letter and a colon. -/
def isDrive : List Char → Bool
  | [a, ':'] => a.isAlpha
  | _ => false

/-- A letter and a colon or a vertical bar. -/
def isLooseDrive : List Char → Bool
  | [a, b] => a.isAlpha && (b == ':' || b == '|')
  | _ => false

/-- Whether a path starts with a segment that is a drive letter. -/
def startsWithDrive : List Char → Bool
  | [a, b] => isLooseDrive [a, b]
  | a :: b :: c :: _ => isLooseDrive [a, b] && (c == '/' || c == '\\' || endsPath c)
  | _ => false

/-! ## Paths -/

/-- A segment that stands for the directory above. -/
def isDoubleDot (segment : List Char) : Bool :=
  let dots := String.ofList (segment.map Char.toLower)
  dots == ".." || dots == "%2e." || dots == ".%2e" || dots == "%2e%2e"

/-- A segment that stands for the directory itself. -/
def isSingleDot (segment : List Char) : Bool :=
  let dots := String.ofList (segment.map Char.toLower)
  dots == "." || dots == "%2e"

namespace Path

/-- The path without its last segment, up to and with the slash before it. Paths are kept in reverse. A drive
letter stays. -/
def shorten (k : SchemeKind) (reversed : List Char) : List Char :=
  let last := (reversed.takeWhile (· != '/')).reverse
  if k == .file && isDrive last then reversed else reversed.dropWhile (· != '/')

/-- The path above, for a path that ends with a slash. -/
def above (k : SchemeKind) (reversed : List Char) : List Char :=
  match reversed with
  | '/' :: rest =>
    let last := (rest.takeWhile (· != '/')).reverse
    if rest.contains '/' && !isLooseDrive last then shorten k rest else reversed
  | _ => reversed

/-- Ends a path with a slash. -/
def slashed (reversed : List Char) : List Char :=
  if reversed.head? == some '/' then reversed else '/' :: reversed

/-- Appends one segment, and the slash behind it if one follows. -/
def append (k : SchemeKind) (reversed segment : List Char) (slash : Bool) : List Char :=
  if isDoubleDot segment then
    let shorter := above k reversed
    if slash then slashed shorter else shorter
  else if isSingleDot segment then slashed reversed
  else
    -- what follows a drive letter is a segment of its own
    let reversed := if k == .file && reversed.length == 3 && isDrive (reversed.reverse.drop 1) then '/' :: reversed
      else reversed
    let segment := if k == .file && reversed == ['/'] && isLooseDrive segment then segment.take 1 ++ [':']
      else segment
    (if slash then ['/'] else []) ++ (segment.reverse ++ reversed)

/-- Appends the segments of a path, each but the last with a slash behind it. -/
def appendAll (k : SchemeKind) (reversed : List Char) : List (List Char) → List Char
  | [] => reversed
  | [segment] => append k reversed (Percent.encode Percent.Set.path segment) false
  | segment :: segments =>
    appendAll k (append k reversed (Percent.encode Percent.Set.path segment) true) segments

/-- The path that arises when a text is read behind a path; a file path has one slash in front. -/
def extend (k : SchemeKind) (start text : List Char) : List Char :=
  let path := (appendAll k start.reverse (Text.splitWhere (isSlash k) text)).reverse
  if k == .file then '/' :: path.dropWhile (· == '/') else path

end Path

/-! ## Query and fragment -/

/-- Takes the query and the fragment from what follows a path. -/
def withTail (u : Url) (rest : List Char) : Url :=
  let set := if (SchemeKind.of u.scheme).isSpecial then Percent.Set.specialQuery else Percent.Set.query
  let fragment? : List Char → Option (List Char)
    | '#' :: cs => some (Percent.encode Percent.Set.fragment cs)
    | _ => none
  match rest with
  | '?' :: cs =>
    { u with
      query := some (Percent.encode set (cs.takeWhile (· != '#')))
      fragment := fragment? (cs.dropWhile (· != '#')) }
  | rest => { u with query := none, fragment := fragment? rest }

/-- Reads the path behind `start`, and query and fragment behind it. -/
def withPath (u : Url) (start rest : List Char) : Url :=
  let path := Path.extend (SchemeKind.of u.scheme) start (rest.takeWhile (!endsPath ·))
  { u with path }.withTail (rest.dropWhile (!endsPath ·))

/-- Another fragment for the same document. -/
def withFragment (u : Url) (fragment : List Char) : Url :=
  { u with fragment := some (Percent.encode Percent.Set.fragment fragment) }

/-! ## Authorities -/

/-- User and password as they are written, with the sign behind them. An empty password has no colon. -/
def userinfo (cs : List Char) : List Char :=
  let user := Percent.encode Percent.Set.userinfo (cs.takeWhile (· != ':'))
  let password := Percent.encode Percent.Set.userinfo ((cs.dropWhile (· != ':')).drop 1)
  let both := user ++ if password.isEmpty then [] else ':' :: password
  if both.isEmpty then [] else both ++ ['@']

/-- What stands before the last sign `@`, if there is one, and behind it. -/
def splitUser (cs : List Char) : Option (List Char) × List Char :=
  if cs.contains '@' then
    (some ((cs.reverse.dropWhile (· != '@')).drop 1).reverse, (cs.reverse.takeWhile (· != '@')).reverse)
  else (none, cs)

/-- The end of a host: the first colon outside brackets. -/
def hostEnd : Bool → List Char → List Char × List Char
  | _, [] => ([], [])
  | inBrackets, c :: cs =>
    if c == ':' && !inBrackets then ([], c :: cs)
    else
      let (host, rest) := hostEnd (if c == '[' then true else if c == ']' then false else inBrackets) cs
      (c :: host, rest)

/-- The port behind a colon: nothing if it is missing or implied by the scheme. Under a scheme without
special meaning a backslash ends it. -/
def port? (scheme cs : List Char) : Except UrlError (Option Nat × List Char) :=
  let digits := cs.takeWhile Char.isDigit
  let rest := cs.dropWhile Char.isDigit
  let port := digitsValue digits
  if port > 65535 then .error .invalidPort
  else if !rest.isEmpty && rest.head? != some '\\' then .error .invalidPort
  else .ok (if digits.isEmpty || defaultPort? scheme == some port then none else some port, rest)

/-- A host with the port that is written behind it, and what follows. -/
def withPort (scheme host rest : List Char) : Except UrlError (List Char × List Char) :=
  match rest with
  | ':' :: rest =>
    if host.isEmpty then .error .emptyHost
    else (port? scheme rest).map fun
      | (some port, rest) => (host ++ ':' :: Nat.toDigits 10 port, rest)
      | (none, rest) => (host, rest)
  | _ => .ok (host, [])

/-- Host and port as they are written. -/
def hostAndPort (k : SchemeKind) (scheme cs : List Char) : Except UrlError (List Char × List Char) :=
  let (host, rest) := hostEnd false cs
  if k == .web && host.isEmpty then .error .emptyHost
  else do
    let read? := if k.isSpecial then Host.read? else Host.readOpaque?
    withPort scheme (← read? host) rest

/-- User, host and port as they are written, and what follows a port. `more` says whether something follows. -/
def authority? (scheme cs : List Char) (more : Bool) : Except UrlError (List Char × List Char) :=
  let (user, host) := splitUser cs
  if user == some [] && host.isEmpty && more then .error .emptyHost
  else do
    let (host, odd) ← hostAndPort (SchemeKind.of scheme) scheme host
    let user := (user.map userinfo).getD []
    if host.isEmpty && !user.isEmpty then .error .emptyHost else .ok (user ++ host, odd)

/-- A URL without a path, and what stands behind its authority. -/
def withRest (u : Url) (rest : List Char) : Url :=
  let k := SchemeKind.of u.scheme
  match rest with
  | [] => if k.isSpecial then u.withPath ['/'] [] else u
  | c :: cs =>
    if isSlash k c then u.withPath ['/'] cs
    else if !k.isSpecial && endsPath c then u.withTail rest
    else u.withPath ['/'] rest

/-- What stands behind two slashes: an authority and a path. -/
def readAuthority (scheme cs : List Char) : Except UrlError Url := do
  let ends (c : Char) : Bool := isSlash (SchemeKind.of scheme) c || endsPath c
  let rest := cs.dropWhile (!ends ·)
  let (authority, odd) ← authority? scheme (cs.takeWhile (!ends ·)) (!rest.isEmpty)
  let u : Url := { scheme, authority := some authority, path := [], query := none, fragment := none }
  return u.withRest (odd ++ rest)

/-! ## The forms behind a scheme -/

/-- What stands behind a scheme without special meaning. -/
def readOther (scheme cs : List Char) : Except UrlError Url :=
  match cs with
  | '/' :: '/' :: cs => readAuthority scheme cs
  | '/' :: cs =>
    .ok ({ scheme, authority := none, path := [], query := none, fragment := none : Url }.withPath ['/'] cs)
  | cs =>
    let path := Percent.encode Percent.Set.controls (cs.takeWhile (!endsPath ·))
    .ok ({ scheme, authority := none, path, query := none, fragment := none : Url }.withTail
      (cs.dropWhile (!endsPath ·)))

/-- What stands behind the scheme of files, or relative to a file. -/
def readFile (base : Option Url) (cs : List Char) : Except UrlError Url := do
  let k := SchemeKind.file
  let scheme := ['f', 'i', 'l', 'e']
  let u : Url := { scheme, authority := some [], path := [], query := none, fragment := none }
  match cs with
  | c :: rest =>
    if isSlash k c then
      match rest with
      | d :: afterSlashes =>
        if isSlash k d then
          let ends (c : Char) : Bool := isSlash k c || endsPath c
          let host := afterSlashes.takeWhile (!ends ·)
          let behind := afterSlashes.dropWhile (!ends ·)
          if isLooseDrive host then return u.withPath ['/'] afterSlashes
          else if host.isEmpty then return u.withPath ['/'] behind
          else
            let host ← Host.read? host
            let host := if String.ofList host == "localhost" then [] else host
            let path := behind.takeWhile (!endsPath ·)
            let hasDrive := startsWithDrive (path.drop 1)
            let authority := some (if hasDrive then [] else host)
            return { u with authority }.withPath ['/'] (if (path.head?.map (isSlash k)).getD false then behind.drop 1 else behind)
        else absoluteInBase u rest
      | [] => absoluteInBase u rest
    else relative u cs
  | [] => relative u cs
where
  /-- A path from the root, under the host or drive of the base. -/
  absoluteInBase (u : Url) (rest : List Char) : Except UrlError Url :=
    match base with
    | some b =>
      if startsWithDrive rest then .ok (u.withPath ['/'] rest)
      else
        let first := (b.path.drop 1).takeWhile (· != '/')
        if isDrive first then .ok (u.withPath ('/' :: first ++ ['/']) rest)
        else .ok ({ u with authority := b.authority }.withPath ['/'] rest)
    | none => .ok (u.withPath ['/'] rest)
  /-- A path, query or fragment relative to the base. -/
  relative (u : Url) (cs : List Char) : Except UrlError Url :=
    match base with
    | none => .ok (u.withPath ['/'] cs)
    | some b =>
      match cs with
      | [] => .ok { b with fragment := none }
      | '?' :: _ => .ok (b.withTail cs)
      | '#' :: fragment => .ok (b.withFragment fragment)
      | cs =>
        if startsWithDrive cs then .ok (u.withPath ['/'] cs)
        else .ok (b.withPath (Path.shorten .file b.path.reverse).reverse cs)

/-- A text relative to a base that is no file. -/
def readRelative (base : Url) (cs : List Char) : Except UrlError Url :=
  let k := SchemeKind.of base.scheme
  let slash (c : Char) : Bool := c == '/' || c == '\\'
  match cs with
  | [] => .ok { base with fragment := none }
  | '?' :: _ => .ok (base.withTail cs)
  | '#' :: fragment => .ok (base.withFragment fragment)
  | c :: rest =>
    if slash c then
      if (rest.head?.map slash).getD false then
        readAuthority base.scheme
          (if ['/', '/'].isPrefixOf cs then cs.drop 2 else cs.dropWhile slash)
      else .ok (base.withPath ['/'] rest)
    else
      let start := (Path.shorten k base.path.reverse).reverse
      .ok (base.withPath (if start.isEmpty then ['/'] else start) cs)

/-! ## The reading -/

/-- The scheme a text starts with, in lower case, and what stands behind its colon. -/
def scheme? (cs : List Char) : Option (List Char × List Char) :=
  let allowed (c : Char) : Bool := c.isAlphanum || c == '+' || c == '-' || c == '.'
  let name := cs.takeWhile allowed
  match name, cs.dropWhile allowed with
  | c :: _, ':' :: rest => if c.isAlpha then some (name.map Char.toLower, rest) else none
  | _, _ => none

/-- The text without blanks and control characters at its ends, and without tabs and line ends. -/
def cleaned (cs : List Char) : List Char :=
  let outer (c : Char) : Bool := c.toNat ≤ 32
  ((cs.dropWhile outer).reverse.dropWhile outer).reverse.filter fun c => c != '\t' && c != '\n' && c != '\r'

/-- A text as a URL, relative to a base if there is one. -/
def read? (base : Option Url) (text : String) : Except UrlError Url :=
  let cs := cleaned text.toList
  match scheme? cs with
  | some (scheme, rest) =>
    match SchemeKind.of scheme with
    | .file => readFile (base.filter fun b => b.scheme == scheme) rest
    | .other => readOther scheme rest
    | .web =>
      let slash (c : Char) : Bool := c == '/' || c == '\\'
      match base with
      | some b =>
        if (rest.takeWhile slash).length < 2 && b.scheme == scheme then readRelative b rest
        else readAuthority scheme (rest.dropWhile slash)
      | none => readAuthority scheme (rest.dropWhile slash)
  | none =>
    match base with
    | none => .error .relativeWithoutBase
    | some b =>
      match cs with
      | '#' :: fragment => .ok (b.withFragment fragment)
      | cs =>
        if b.isOpaque then .error .relativeWithOpaqueBase
        else if SchemeKind.of b.scheme == .file then readFile (some b) cs
        else readRelative b cs

/-- A text as a URL on its own. -/
def parse? (text : String) : Except UrlError Url := read? none text

/-- A text as a URL relative to a base. -/
def join? (base : Url) (text : String) : Except UrlError Url := read? (some base) text

end JsonSchema.Url
