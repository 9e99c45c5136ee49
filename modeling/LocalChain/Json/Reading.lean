import LocalChain.Json.Basic

/-!
# Reading values of known shape

Readers take a value of one kind and refuse all others. A structure is an object, whose unknown members
count for nothing, or an array of the structure's fields in order, of which the last may be absent. The
same member given twice is refused.
-/

namespace LocalChain.Json.Reading

/-- What a notation tolerates. -/
structure Rules where
  /-- An array may hold more items than the section has fields. -/
  surplus : Bool

/-- A text. -/
def text : Json → Option String
  | .str s => some s
  | _ => none

/-- A truth value. -/
def flag : Json → Option Bool
  | .bool b => some b
  | _ => none

/-- An integer from zero up to `bound`, excluded. -/
def natural (bound : Nat) : Json → Option Nat
  | .int (.ofNat n) => if n < bound then some n else none
  | _ => none

/-- A number of 64 bits. -/
def word64 (j : Json) : Option UInt64 :=
  (natural UInt64.size j).map UInt64.ofNat

/-- A number of 32 bits. -/
def word32 (j : Json) : Option UInt32 :=
  (natural UInt32.size j).map UInt32.ofNat

/-- A value that may be null instead. -/
def optional {α : Type} (read : Json → Option α) : Json → Option (Option α)
  | .null => some none
  | j => (read j).map some

/-- Every item of an array. -/
def list {α : Type} (read : Json → Option α) : Json → Option (List α)
  | .arr items => items.mapM read
  | _ => none

/-- The member of an object with a key: none when there is none, no answer when there are two. -/
def member (members : List (String × Json)) (key : String) : Option (Option Json) :=
  match members.filter (·.1 == key) with
  | [] => some none
  | [m] => some (some m.2)
  | _ => none

/-- The values given to the fields of a section, in order. Those of other members have to be whole. -/
def fields (rules : Rules) (keys : List String) : Json → Option (List (Option Json))
  | .obj members => do
    guard (members.all fun (key, j) => keys.contains key || j.isWhole)
    keys.mapM (member members)
  | .arr items =>
    if keys.length < items.length ∧ ¬rules.surplus then none
    else some ((List.range keys.length).map (items[·]?))
  | _ => none

/-- The values given to the fields of a section, by position. -/
abbrev Given := List (Option Json)

/-- The value of field `i`, or its default when none is given. -/
def Given.get {α : Type} (given : Given) (i : Nat) (read : Json → Option α) (default : α) :
    Option α :=
  match given[i]? with
  | some (some j) => read j
  | _ => some default

/-- The value of field `i`, which has no default. -/
def Given.require {α : Type} (given : Given) (i : Nat) (read : Json → Option α) : Option α :=
  match given[i]? with
  | some (some j) => read j
  | _ => none

/-- The rules of JSON: an array with more items than fields is refused. -/
def json : Rules := ⟨false⟩

/-- The rules of TOML: further items are passed over. -/
def toml : Rules := ⟨true⟩

end LocalChain.Json.Reading
