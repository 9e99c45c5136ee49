import LocalChain.Bytes
import LocalChain.Files.Path

/-!
# Files

A tree of directories and files, which a run reads its settings and artifacts from and writes its
record to. Reading and writing follow a path part by part, and the first part that cannot be followed
says why.
-/

namespace LocalChain

/-- Why a file could not be read or written. -/
inductive FileError where
  | notFound
  | notADirectory
  | isADirectory
  | nameTooLong
  /-- The path holds the character that ends names. -/
  | nulInName
  /-- The content is no text. -/
  | notText
  deriving DecidableEq, Repr

/-- The sentence for people. -/
def FileError.message : FileError → String
  | notFound => "No such file or directory (os error 2)"
  | notADirectory => "Not a directory (os error 20)"
  | isADirectory => "Is a directory (os error 21)"
  | nameTooLong => "File name too long (os error 36)"
  | nulInName => "file name contained an unexpected NUL byte"
  | notText => "stream did not contain valid UTF-8"

/-- What stands at a place of the tree. -/
inductive FileEntry where
  | file (content : Bytes)
  | directory
  deriving DecidableEq

/-- The files, by their place: the names on the way from the root. -/
structure Files where
  entries : List (List String × FileEntry)
  /-- The working directory. -/
  current : List String

namespace Files

/-- What stands at a place. The root is a directory. -/
def entry? (fs : Files) (place : List String) : Option FileEntry :=
  if place.isEmpty then some .directory
  else (fs.entries.find? (·.1 == place)).map (·.2)

/-- Puts something at a place. -/
def put (fs : Files) (place : List String) (e : FileEntry) : Files :=
  { fs with entries := (place, e) :: fs.entries.filter (·.1 != place) }

/-- Makes the directories on the way to a place of which `made` names are there already. -/
def makeDirectories (fs : Files) (made : List String) : List String → Files
  | [] => fs
  | name :: names =>
    let place := made ++ [name]
    let fs := if (fs.entry? place).isSome then fs else fs.put place .directory
    makeDirectories fs place names

/-- A tree that holds an empty working directory and nothing else. -/
def empty : Files :=
  ({ entries := [], current := ["work"] } : Files).makeDirectories [] ["work"]

/-- Adds a directory under the working directory, with those around it. -/
def addDirectory (fs : Files) (path : String) : Files :=
  fs.makeDirectories fs.current (Path.parts path)

/-- Adds a file under the working directory, with the directories around it. -/
def addFile (fs : Files) (path : String) (content : Bytes) : Files :=
  let parts := Path.parts path
  (fs.makeDirectories fs.current parts.dropLast).put (fs.current ++ parts) (.file content)

/-- Bytes in the longest name. -/
def nameLimit : Nat := 255

/-- Bytes that a path stays below. -/
def pathLimit : Nat := 4096

/-- The place that the parts of a path lead to from a place, all but the last part being followed. -/
def follow (fs : Files) (place : List String) : List String → Except FileError (List String)
  | [] => .ok place
  | name :: names =>
    match fs.entry? place with
    | none => .error .notFound
    | some (.file _) => .error .notADirectory
    | some .directory =>
      if name = "" ∨ name = "." then follow fs place names
      else if name = ".." then follow fs place.dropLast names
      else if nameLimit < name.utf8ByteSize then .error .nameTooLong
      else follow fs (place ++ [name]) names

/-- The place that a path names. -/
def locate (fs : Files) (path : String) : Except FileError (List String) :=
  if path.toList.contains '\x00' then .error .nulInName
  else if path = "" then .error .notFound
  else if pathLimit ≤ path.utf8ByteSize then .error .nameTooLong
  else
    fs.follow (if Path.isAbsolute path then [] else fs.current)
      ((Path.split path.toList).map String.ofList)

/-- The bytes of a file. -/
def readBytes (fs : Files) (path : String) : Except FileError Bytes := do
  match fs.entry? (← fs.locate path) with
  | none => .error .notFound
  | some .directory => .error .isADirectory
  | some (.file content) => .ok content

/-- The text of a file. -/
def readText (fs : Files) (path : String) : Except FileError String := do
  match Bytes.toText? (← fs.readBytes path) with
  | none => .error .notText
  | some text => .ok text

/-- A path without the slashes at its end, but for the one that names the root. -/
def dropSlashes (path : String) : String :=
  let cs := (path.toList.reverse.dropWhile (· == '/')).reverse
  if cs.isEmpty then path else String.ofList cs

/-- Writes a file, which need not be there yet; its directory must be. A path that ends in a slash
names a directory, whatever stands there. -/
def write (fs : Files) (path : String) (content : Bytes) : Except FileError Files := do
  let place ← fs.locate (dropSlashes path)
  if fs.entry? place = some .directory ∨ path.toList.getLast? = some '/' then .error .isADirectory
  else .ok (fs.put place (.file content))

end Files
end LocalChain
