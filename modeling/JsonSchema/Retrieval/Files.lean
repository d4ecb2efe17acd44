import JsonSchema.Json.Reader
import JsonSchema.Retrieval.Basic
import JsonSchema.Url.FilePath

/-!
# Documents in files

What lies at a path is a question for the system, so files are given as a function from paths; a file tree in
memory is one.

## What is here

* `FileState` — what lies at a path.
* `FileTree` — directories and files below the root, and `FileTree.state`, which walks a path through them.
* `Files.loadText`, `Files.load`, `Files.loadSource` — documents from a text, a path, and a path that is no web
  address.
* `Files.library` — **documents by location**: paths and `file:` URLs; every other scheme is unsupported.
-/

set_option autoImplicit false

namespace JsonSchema

/-- What lies at a path. -/
inductive FileState where
  | missing
  | unreadable (reason : String)
  | content (text : String)
deriving DecidableEq

/-- The files of a system. -/
abbrev Files := String → FileState

/-! ## File trees -/

/-- Something with a name in a directory. -/
inductive FileEntry where
  | directory
  | file (text : String)
deriving DecidableEq

/-- Directories and files by the names that lead to them from the root, and the directory to which paths are
relative. -/
structure FileTree where
  entries : List (List (List Char) × FileEntry)
  working : List Char

namespace FileTree

/-- What the names lead to; the root is a directory. -/
def lookUp? (t : FileTree) (names : List (List Char)) : Option FileEntry :=
  if names.isEmpty then some .directory else t.entries.lookup names

/-- Goes on from a place by the pieces of a path. Only directories can be passed through. -/
def walk? (t : FileTree) (place : List (List Char)) : List (List Char) → Option FileEntry
  | [] => t.lookUp? place
  | piece :: pieces =>
    match t.lookUp? place with
    | some .directory =>
      if piece.isEmpty || piece == ['.'] then t.walk? place pieces
      else if piece == ['.', '.'] then t.walk? place.dropLast pieces
      else t.walk? (place ++ [piece]) pieces
    | _ => none

/-- What lies at a path. -/
def state (t : FileTree) : Files := fun path =>
  if path.isEmpty then .missing
  else
    match t.walk? [] (Text.splitOn '/' (FilePath.absolute t.working path.toList)) with
    | none => .missing
    | some .directory => .unreadable "Is a directory (os error 21)"
    | some (.file text) => .content text

end FileTree

/-! ## Documents -/

namespace Files

/-- The document that a text spells. -/
def loadText (text : String) : Except RetrievalError Json :=
  match Json.read? text with
  | some j => .ok j
  | none => .error (.invalidJson "not a JSON text")

/-- The document in a file. -/
def load (files : Files) (path : String) : Except RetrievalError Json :=
  match files path with
  | .missing => .error (.fileNotFound path)
  | .unreadable reason => .error (.unreadable path reason)
  | .content text => loadText text

/-- Whether a source is an address in the web. -/
def isWebAddress (source : String) : Bool :=
  "http://".toList.isPrefixOf source.toList || "https://".toList.isPrefixOf source.toList

/-- The document at a path; the web is out of reach. -/
def loadSource (files : Files) (source : String) : Except RetrievalError Json :=
  if isWebAddress source then .error (.unsupportedScheme source) else load files source

/-- The path that a location stands for: a `file:` URL is decoded, anything else is a path. -/
def pathOf (uri : String) : Except RetrievalError String :=
  if "file:".toList.isPrefixOf uri.toList then
    match Url.parse? uri with
    | .error _ => .error (.unsupportedScheme uri)
    | .ok url =>
      match url.toFilePath? with
      | some path => .ok (String.ofList path)
      | none => .error (.unsupportedScheme uri)
  else .ok uri

/-- Documents by path or `file:` URL. -/
def fileLibrary (files : Files) : Library := fun uri =>
  match pathOf uri with
  | .error e => .error e
  | .ok path => load files path

/-- Documents by location. A single letter before a colon is a drive and no scheme. -/
def library (files : Files) : Library := fun uri =>
  if isWebAddress uri then .error (.unsupportedScheme uri)
  else
    match Url.parse? uri with
    | .ok url =>
      if String.ofList url.scheme != "file" && url.scheme.length != 1 then .error (.unsupportedScheme uri)
      else fileLibrary files uri
    | .error _ => fileLibrary files uri

end Files

end JsonSchema
