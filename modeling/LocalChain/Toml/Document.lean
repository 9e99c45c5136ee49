import LocalChain.Toml.Value

/-!
# Documents of TOML

A document is a sequence of lines. A header opens a table or the next table of a list, and every other
line gives a key of the open table a value. The whole document is a table too.
-/

namespace LocalChain.Toml

/-- What has been read of a document. -/
structure Draft where
  root : Members
  /-- The path of the open table. -/
  current : List String

namespace Draft

/-- Gives a key of the open table a value. -/
def assign (d : Draft) (parts : List String) (v : Json) : Option Draft := do
  let (path, key) := splitLast parts
  let root ← Members.within false (Members.add path key v) d.current .headed d.root
  return { d with root }

/-- Opens a table by its header. -/
def openTable (d : Draft) (parts : List String) : Option Draft := do
  let (path, key) := splitLast parts
  return ⟨← d.root.openTable path key, parts⟩

/-- Opens the next table of a list by its header. -/
def openEntry (d : Draft) (parts : List String) : Option Draft := do
  let (path, key) := splitLast parts
  return ⟨← d.root.openEntry path key, parts⟩

end Draft

/-- A line that is neither blank nor a comment, and what follows it. -/
def line? (d : Draft) : List Char → Option (Draft × List Char)
  | '[' :: '[' :: cs => do
    let (parts, rest) ← key? cs
    let rest ← lineEnd? (← expect? ']' (← expect? ']' rest))
    return (← d.openEntry parts, rest)
  | '[' :: cs => do
    let (parts, rest) ← key? cs
    let rest ← lineEnd? (← expect? ']' rest)
    return (← d.openTable parts, rest)
  | cs => do
    let (parts, rest) ← key? cs
    let (v, rest) ← value? (cs.length + 1) 0 (skipSpace (← expect? '=' rest))
    return (← d.assign parts v, ← lineEnd? rest)

/-- The lines of a document; `fuel` bounds their number. -/
def lines? : (fuel : Nat) → Draft → List Char → Option Draft
  | 0, _, _ => none
  | fuel + 1, d, cs =>
    match skipSpace cs with
    | [] => some d
    | cs =>
      match lineEnd? cs with
      | some rest => lines? fuel d rest
      | none => do
        let (d, rest) ← line? d cs
        lines? fuel d rest

/-- The tree of values that a document is. A byte order mark in front of it counts for nothing. -/
def parse (s : String) : Option Json := do
  let cs := match s.toList with
    | '\uFEFF' :: cs => cs
    | cs => cs
  let d ← lines? (cs.length + 1) ⟨[], []⟩ cs
  return .obj (Members.toJson d.root)

end LocalChain.Toml
