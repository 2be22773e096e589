import ParamExpansion.Text.Quoted
import ParamExpansion.Text.Streams

/-!
# Files

A file system maps lists of names to files and directories. The empty list names the root directory.
A path is a list of names with slashes between them, which starts at the root or at the working
directory. Every step of a path but the last one leads through a directory. The sizes of names and
paths, which are counted in bytes, have limits.
-/

namespace ParamExpansion

/-- What a path can name. -/
inductive FileEntry where
  | file (content : List UInt8)
  | directory
deriving DecidableEq, Repr

/-- Why a file cannot be opened. -/
inductive FileError where
  | notFound
  | isDirectory
  /-- A step of the path leads through a file. -/
  | notDirectory
  /-- The path is too long, or a name in it. -/
  | nameTooLong
  /-- The path holds the character U+0000. -/
  | nullCharacter
deriving DecidableEq, Repr

/-- The text of the error for a path. -/
def FileError.message (path : String) : FileError → String
  | notFound => s!"[Errno 2] No such file or directory: {Text.quote path}"
  | isDirectory => s!"[Errno 21] Is a directory: {Text.quote path}"
  | notDirectory => s!"[Errno 20] Not a directory: {Text.quote path}"
  | nameTooLong => s!"[Errno 36] File name too long: {Text.quote path}"
  | nullCharacter => "embedded null byte"

/-- Files and directories by their names. -/
structure FileSystem where
  entries : List (List String × FileEntry) := []
  /-- Where the paths that do not start with a slash begin. -/
  workingDirectory : List String := []
deriving DecidableEq, Repr

namespace FileSystem

/-- The largest size of a name. -/
def maxNameSize : Nat := 255

/-- The largest size of a path. -/
def maxPathSize : Nat := 4095

/-- What a list of names leads to. -/
def entry? (fs : FileSystem) (names : List String) : Option FileEntry :=
  if names = [] then some .directory else fs.entries.lookup names

/-- Looks the last of some names up in the directory that the others lead to. -/
def lookUp (fs : FileSystem) (names : List String) : Except FileError (Option FileEntry) :=
  if names.getLast?.any (maxNameSize < ·.utf8ByteSize) then .error .nameTooLong
  else .ok (fs.entry? names)

/-- Gives a file its content. -/
def put (fs : FileSystem) (names : List String) (content : List UInt8) : FileSystem :=
  { fs with entries := (names, .file content) :: fs.entries.filter (·.1 != names) }

/-! ## Paths -/

/-- The pieces of a path between its slashes. -/
def pieces : List Char → List (List Char)
  | [] => [[]]
  | c :: cs => if c = '/' then [] :: pieces cs else Text.prependToFirst [c] (pieces cs)

/-- The steps of a path. One dot stays, and two dots lead back. -/
def steps (path : String) : List String :=
  ((pieces path.toList).filter (· ≠ [])).map String.ofList

/-- Whether a path starts at the root directory. -/
def isAbsolute (path : String) : Bool := path.toList.head? = some '/'

/-- Whether a path ends with a slash, and so names no file. -/
def endsWithSlash (path : String) : Bool := path.toList.getLast? = some '/'

/-- The shortest way to write a path. Two slashes at the beginning are kept. -/
def normalPath (path : String) : String :=
  let root :=
    match path.toList.takeWhile (· = '/') with
    | [] => ""
    | ['/', '/'] => "//"
    | _ => "/"
  let written := root ++ "/".intercalate ((steps path).filter (· ≠ "."))
  if written = "" then "." else written

/-- Where a step leads from a directory. -/
def step (here : List String) (name : String) : List String :=
  if name = "." then here else if name = ".." then here.dropLast else here ++ [name]

/-- Where steps lead from a directory. -/
def walk (fs : FileSystem) (here : List String) : List String → Except FileError (List String)
  | [] => .ok here
  | [last] => .ok (step here last)
  | name :: names => do
    match ← fs.lookUp (step here name) with
    | some .directory => walk fs (step here name) names
    | some (.file _) => throw .notDirectory
    | none => throw .notFound

/-- The names that a path leads to. -/
def locate (fs : FileSystem) (path : String) : Except FileError (List String) := do
  if '\x00' ∈ path.toList then throw .nullCharacter
  if maxPathSize < path.utf8ByteSize then throw .nameTooLong
  walk fs (if isAbsolute path then [] else fs.workingDirectory) (steps path)

/-- Whether a path is known to name nothing. Of one that is too long this is not known. -/
def isMissing (fs : FileSystem) (path : String) : Bool :=
  match fs.locate path >>= fs.lookUp with
  | .ok entry => entry.isNone
  | .error .nameTooLong => false
  | .error _ => true

/-! ## Reading and writing -/

/-- The content of a file. -/
def read (fs : FileSystem) (path : String) : Except FileError (List UInt8) := do
  match ← fs.lookUp (← fs.locate path) with
  | some (.file content) => if endsWithSlash path then throw .notDirectory else return content
  | some .directory => throw .isDirectory
  | none => throw .notFound

/-- Changes the content of a file, which is empty at first if there is no such file. -/
def change (fs : FileSystem) (path : String) (f : List UInt8 → List UInt8) :
    Except FileError FileSystem := do
  let names ← fs.locate path
  if endsWithSlash path then throw .isDirectory
  match ← fs.lookUp names with
  | some (.file content) => return fs.put names (f content)
  | some .directory => throw .isDirectory
  | none => return fs.put names (f [])

/-- Makes a file empty. -/
def clear (fs : FileSystem) (path : String) : Except FileError FileSystem :=
  fs.change path fun _ => []

/-- Writes a text behind the content of a file. -/
def append (fs : FileSystem) (path text : String) : Except FileError FileSystem :=
  fs.change path (· ++ text.toUTF8.toList)

end FileSystem

end ParamExpansion
