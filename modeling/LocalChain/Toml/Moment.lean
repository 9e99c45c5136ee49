import LocalChain.Json.Parser

/-!
# Dates and times of TOML

A date, a time, or a date with a time and perhaps an offset. No setting is a moment, so only its form
is checked, and it is kept as it is written.
-/

namespace LocalChain.Toml

/-- The number of exactly `size` decimal digits, when it lies between `low` and `high`. -/
def field? (size low high : Nat) (cs : List Char) : Option (Nat × List Char) := do
  let ds := cs.take size
  guard (ds.length = size ∧ ds.all fun c => '0' ≤ c ∧ c ≤ '9')
  let n := Json.Parser.digitsValue ds
  guard (low ≤ n ∧ n ≤ high)
  return (n, cs.drop size)

/-- Passes over a character. -/
def expect? (c : Char) : List Char → Option (List Char)
  | d :: cs => if c = d then some cs else none
  | [] => none

/-- The days of a month. -/
def daysIn (year month : Nat) : Nat :=
  if month = 2 then
    if year % 4 = 0 ∧ (year % 100 ≠ 0 ∨ year % 400 = 0) then 29 else 28
  else if month = 4 ∨ month = 6 ∨ month = 9 ∨ month = 11 then 30
  else 31

/-- Passes over a date. -/
def date? (cs : List Char) : Option (List Char) := do
  let (year, cs) ← field? 4 0 9999 cs
  let (month, cs) ← field? 2 1 12 (← expect? '-' cs)
  let (_, cs) ← field? 2 1 (daysIn year month) (← expect? '-' cs)
  return cs

/-- Passes over a time of the day. -/
def time? (cs : List Char) : Option (List Char) := do
  let (_, cs) ← field? 2 0 23 cs
  let (_, cs) ← field? 2 0 59 (← expect? ':' cs)
  let (_, cs) ← field? 2 0 60 (← expect? ':' cs)
  match cs with
  | '.' :: cs =>
    match Json.Parser.digitRun cs with
    | ([], _) => none
    | (_, rest) => return rest
  | cs => return cs

/-- Passes over an offset from universal time, if there is one. -/
def offset? : List Char → Option (List Char)
  | [] => some []
  | c :: cs =>
    if c = 'Z' ∨ c = 'z' then some cs
    else if c = '+' ∨ c = '-' then do
      let (_, cs) ← field? 2 0 23 cs
      let (_, cs) ← field? 2 0 59 (← expect? ':' cs)
      return cs
    else some (c :: cs)

/-- What follows a date: a time after a blank or the letter between the two, if there is one. -/
def timeAfterDate? : List Char → Option (List Char)
  | [] => some []
  | c :: cs =>
    if c = 'T' ∨ c = 't' ∨ c = ' ' then
      match time? cs with
      | some rest => offset? rest
      | none => if c = ' ' then some (c :: cs) else none
    else some (c :: cs)

/-- The key under which the text of a moment stands in the tree of values. -/
def momentKey : String := "$__toml_private_datetime"

/-- A moment. -/
def moment? (cs : List Char) : Option (Json × List Char) := do
  let rest ← match date? cs with
    | some rest => timeAfterDate? rest
    | none => time? cs
  let text := String.ofList (cs.take (cs.length - rest.length))
  return (.obj [(momentKey, .str text)], rest)

end LocalChain.Toml
