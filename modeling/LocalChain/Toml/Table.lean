import LocalChain.Json.Basic

/-!
# Tables of TOML

A table grows while its document is read, and may grow only in the way it began. One opened by a
header, `[a.b]`, implies the tables around it, which may get a header of their own later. One made by a
dotted key, `a.b = 1`, grows by dotted keys and gets no header. A table written as a value is closed.
-/

namespace LocalChain.Toml

/-- How a table came to be. -/
inductive Kind where
  /-- By its own header, or as an entry of a list of tables. -/
  | headed
  /-- By the header of a table inside it. -/
  | implied
  /-- By a dotted key. -/
  | dotted
  deriving DecidableEq

/-- What a key of a table stands for. -/
inductive Item where
  /-- A finished value. -/
  | value (v : Json)
  | table (kind : Kind) (members : List (String × Item))
  /-- A list of tables, each opened by a header of its own. -/
  | tables (entries : List (List (String × Item)))
  deriving Inhabited

/-- The members of a table, in the order of their first mention. -/
abbrev Members := List (String × Item)

namespace Members

/-- What a key stands for. -/
def get? (ms : Members) (key : String) : Option Item :=
  (ms.find? (·.1 == key)).map (·.2)

/-- Sets what a key stands for. -/
def set (ms : Members) (key : String) (item : Item) : Members :=
  if ms.any (·.1 == key) then ms.map fun m => if m.1 == key then (key, item) else m
  else ms ++ [(key, item)]

/-- Changes the table at a path by `f`, which sees how the table came to be. A missing table on the
way is made, as `dotted` when a dotted key leads there. A dotted key leads into no table that has a
header. -/
def within (dotted : Bool) (f : Kind → Members → Option Members) :
    (path : List String) → Kind → Members → Option Members
  | [], kind, ms => f kind ms
  | key :: path, _, ms =>
    match ms.get? key with
    | none => do
      let kind := if dotted then Kind.dotted else Kind.implied
      return ms.set key (.table kind (← within dotted f path kind []))
    | some (.value _) => none
    | some (.tables entries) =>
      match entries.reverse with
      | [] => none
      | last :: before => do
        let last ← within dotted f path .headed last
        return ms.set key (.tables (before.reverse ++ [last]))
    | some (.table kind inner) =>
      if dotted ∧ kind = .headed then none
      else do return ms.set key (.table kind (← within dotted f path kind inner))

/-- Adds a value under a dotted key, whose last part is `key`. It may not be there yet, and the table
it is added to must have been made by dotted keys if one leads there. -/
def add (path : List String) (key : String) (v : Json) (kind : Kind) (ms : Members) :
    Option Members :=
  within true (fun kind inner =>
    if (kind = .dotted ↔ path = []) ∨ (inner.get? key).isSome then none
    else some (inner.set key (.value v))) path kind ms

/-- Opens the table of a header. -/
def openTable (path : List String) (key : String) (root : Members) : Option Members :=
  within false (fun _ ms =>
    match ms.get? key with
    | none => some (ms.set key (.table .headed []))
    | some (.table .implied inner) => some (ms.set key (.table .headed inner))
    | some _ => none) path .headed root

/-- Opens the next table of a list. -/
def openEntry (path : List String) (key : String) (root : Members) : Option Members :=
  within false (fun _ ms =>
    match ms.get? key with
    | none => some (ms.set key (.tables [[]]))
    | some (.tables entries) => some (ms.set key (.tables (entries ++ [[]])))
    | some _ => none) path .headed root

end Members

mutual

/-- The value that an item has in the end. -/
def Item.toJson : Item → Json
  | .value v => v
  | .table _ members => .obj (Members.toJson members)
  | .tables entries => .arr (Item.entriesToJson entries)

/-- The values that members have in the end. -/
def Members.toJson : List (String × Item) → List (String × Json)
  | [] => []
  | (key, item) :: ms => (key, item.toJson) :: Members.toJson ms

/-- The values that entries of a list have in the end. -/
def Item.entriesToJson : List (List (String × Item)) → List Json
  | [] => []
  | members :: rest => .obj (Members.toJson members) :: Item.entriesToJson rest

end

end LocalChain.Toml
