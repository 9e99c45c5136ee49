/-!
# Paths

A path is a text whose parts stand between slashes. It starts at the root when it begins with a slash
and at the working directory otherwise.
-/

namespace LocalChain.Path

/-- The path is read from the root. -/
def isAbsolute (path : String) : Bool :=
  path.toList.head? = some '/'

/-- The texts between the slashes of a path. -/
def split : List Char → List (List Char)
  | [] => [[]]
  | c :: cs =>
    if c = '/' then [] :: split cs
    else
      match split cs with
      | [] => [[c]]
      | part :: parts => (c :: part) :: parts

/-- The parts of a path, one that names the place it stands in left out. -/
def parts (path : String) : List String :=
  ((split path.toList).map String.ofList).filter fun p => p ≠ "" ∧ p ≠ "."

/-- The place that `path` names as seen from `base`. -/
def join (base path : String) : String :=
  if isAbsolute path ∨ base = "" then path
  else if base.toList.getLast? = some '/' then base ++ path
  else base ++ "/" ++ path

/-- A name without what follows its last point, unless the point is its first character. -/
def dropExtension (name : List Char) : List Char :=
  let stem := ((name.reverse.dropWhile (· != '.')).drop 1).reverse
  if stem.isEmpty then name else stem

/-- The name at the end of a path without its extension; empty when the path ends in no name. -/
def stem (path : String) : String :=
  match (parts path).getLast? with
  | none => ""
  | some name => if name = ".." then "" else String.ofList (dropExtension name.toList)

end LocalChain.Path
