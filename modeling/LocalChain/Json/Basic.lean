/-!
# JSON values

A value keeps the order of an object's members and any that share a key, because a reader may want to
refuse them. Numbers written without point and exponent are integers; the others are kept as text. Two
kinds of values stand for what a reader may pass over but cannot take.
-/

namespace LocalChain

/-- A JSON value. -/
inductive Json where
  | null
  | bool (b : Bool)
  /-- A number without point and exponent, other than minus zero. -/
  | int (n : Int)
  /-- Any other number, as it is written. -/
  | decimal (literal : String)
  | str (s : String)
  /-- A string literal that spells no text, because half of a surrogate pair stands alone in it, or an
  object with such a key. It may stand where nobody reads it. `isPassed` says that whoever finds out is
  past the whole of it by then. -/
  | unpaired (isPassed : Bool)
  | arr (items : List Json)
  /-- The items of an array up to one that cannot be read, when the array ends where its reading stops.
  It stands for nothing except where what comes after some items does not count. -/
  | cut (items : List Json)
  | obj (members : List (String × Json))
  deriving Inhabited, Repr, BEq

namespace Json

/-- The first member of an object with a key. -/
def get? (key : String) : Json → Option Json
  | obj members => (members.find? (·.1 == key)).map (·.2)
  | _ => none

mutual

/-- How many arrays and objects stand around the innermost value, at most. -/
def depth : Json → Nat
  | arr items => depthItems items + 1
  | cut items => depthItems items + 1
  | obj members => depthMembers members + 1
  | _ => 0

/-- The largest depth among items. -/
def depthItems : List Json → Nat
  | [] => 0
  | j :: js => max (depth j) (depthItems js)

/-- The largest depth among members. -/
def depthMembers : List (String × Json) → Nat
  | [] => 0
  | (_, j) :: ms => max (depth j) (depthMembers ms)

end

mutual

/-- No array in the value is cut short. -/
def isWhole : Json → Bool
  | arr items => areWhole items
  | cut _ => false
  | obj members => membersWhole members
  | _ => true

/-- No array in the items is cut short. -/
def areWhole : List Json → Bool
  | [] => true
  | j :: js => isWhole j && areWhole js

/-- No array in the members is cut short. -/
def membersWhole : List (String × Json) → Bool
  | [] => true
  | (_, j) :: ms => isWhole j && membersWhole ms

end

end Json
end LocalChain
