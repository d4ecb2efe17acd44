import JsonSchema.Url.Parser

/-!
# URLs of files

## What is here

* `FilePath.names` — the names a path consists of; empty ones and single dots do not count.
* `Url.ofFilePath?`, `Url.toFilePath?` — the URL of an absolute path, and the path of a URL.
* `Url.baseOfFile?` — the URL against which references in a file are resolved.
-/

set_option autoImplicit false

namespace JsonSchema

namespace FilePath

/-- Whether a path starts at the root. -/
def isAbsolute (path : List Char) : Bool :=
  path.head? == some '/'

/-- The names in a path, without those that change nothing. -/
def names (path : List Char) : List (List Char) :=
  (Text.splitOn '/' path).filter fun name => !name.isEmpty && name != ['.']

/-- A path as seen from a directory. -/
def absolute (directory path : List Char) : List Char :=
  if isAbsolute path then path else directory ++ '/' :: path

end FilePath

namespace Url

/-- The URL of an absolute path. -/
def ofFilePath? (path : List Char) : Option Url :=
  if FilePath.isAbsolute path then
    let names := (FilePath.names path).map (Percent.encode Percent.Set.pathSegment)
    some
      { scheme := ['f', 'i', 'l', 'e']
        authority := some []
        path := '/' :: Text.joinWith '/' names
        query := none
        fragment := none }
  else none

/-- The path of a file URL on this machine: names are decoded, and a bare drive letter gets a slash. -/
def toFilePath? (u : Url) : Option (List Char) :=
  let isLocal := match u.authority with
    | none => true
    | some host => host.isEmpty || String.ofList host == "localhost"
  if isLocal && !u.isOpaque then
    let path := (Text.splitOn '/' (u.path.drop 1)).flatMap fun name => '/' :: Text.ofUtf8 (Percent.decode name)
    some (match path.reverse with
      | mark :: letter :: _ :: _ =>
        if letter.isAlpha && (mark == ':' || mark == '|') then path ++ ['/'] else path
      | _ => path)
  else none

/-- The base of a document that is read from a path, given the directory to which paths are relative. -/
def baseOfFile? (directory path : String) : Option Url :=
  ofFilePath? (FilePath.absolute directory.toList path.toList)

end Url

end JsonSchema
