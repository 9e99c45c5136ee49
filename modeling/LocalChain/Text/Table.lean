import LocalChain.Digits
import LocalChain.Text.Basic

/-!
# Tables of characters

What is laid down for single characters and for runs of them, written as text and looked up by halving.

Each word of the text is an entry. It begins with a code point in hexadecimal, or with the first and the
last of a run and a hyphen between them, or with neither when it is for the code point after those of the
entry before. Then may come `>` and the numbers laid down, with points between them. Entries stand in
ascending order.
-/

namespace LocalChain.Text

/-- What is laid down for the code points from `first` to `last`. -/
structure Entry where
  first : Nat
  last : Nat
  target : List Nat := []
  deriving DecidableEq, Inhabited, Repr

/-- Entries in ascending order. -/
structure Table where
  entries : Array Entry

namespace Table

/-- The number that hexadecimal digits in lower case spell. -/
def number (cs : List Char) : Nat :=
  Digits.value 16 (cs.map Digits.ofChar)

/-- The text before and after the first character that `separates` picks. -/
def halves (separates : Char → Bool) (cs : List Char) : List Char × List Char :=
  let front := cs.takeWhile fun c => !separates c
  (front, cs.drop (front.length + 1))

/-- The entry that a word stands for when the code point after those of the entry before is `next`. -/
def entry (next : Nat) (word : List Char) : Entry :=
  let (place, target) := halves (· == '>') word
  let (first, last) := halves (· == '-') place
  { first := if first.isEmpty then next else number first
    last := if first.isEmpty then next else if last.isEmpty then number first else number last
    target := if target.isEmpty then [] else (parts (· == '.') target).map number }

/-- The table that a text holds. -/
def ofText (s : String) : Table :=
  let words := (parts (fun c => c == ' ' || c == '\n') s.toList).filter (!·.isEmpty)
  ⟨(words.foldl (fun (es, next) word =>
    let e := entry next word
    (es.push e, e.last + 1)) (#[], 0)).1⟩

/-- The entry for `n` among those from index `lo` up to `hi`, by halving. -/
def search (t : Table) (n lo hi : Nat) (h : hi ≤ t.entries.size) : Option Entry :=
  if hlt : lo < hi then
    let mid := lo + (hi - lo) / 2
    have : mid < t.entries.size := by omega
    let e := t.entries[mid]
    if n < e.first then search t n lo mid (by omega)
    else if e.last < n then search t n (mid + 1) hi h
    else some e
  else none
termination_by hi - lo

/-- The entry for a character. -/
def find? (t : Table) (c : Char) : Option Entry :=
  t.search c.toNat 0 t.entries.size (Nat.le_refl _)

/-- Something is laid down for a character. -/
def contains (t : Table) (c : Char) : Bool :=
  (t.find? c).isSome

end Table
end LocalChain.Text
