import LocalChain.Bytes

/-!
# Nested lists of byte strings

The form in which transactions are hashed and sent. An item is a byte string or a list of items, and
begins with a header that gives its kind and its length in bytes; a single byte below 0x80 is its own
item. Each item has one form only, and the reader refuses all others.
-/

namespace LocalChain

/-- A byte string or a list of items. -/
inductive Rlp where
  | bytes (content : Bytes)
  | list (items : List Rlp)
  deriving Inhabited

namespace Rlp

/-- The item of a number: its bytes, most significant first, with none in front that is zero. -/
def ofNat (n : Nat) : Rlp :=
  .bytes (Bytes.shortest n)

/-- The header of an item of `length` bytes. A length above 55 is written in bytes of its own, whose
number the first byte gives. -/
def header (offset length : Nat) : Bytes :=
  if length ≤ 55 then [UInt8.ofNat (offset + length)]
  else
    let size := Bytes.shortest length
    UInt8.ofNat (offset + 55 + size.length) :: size

/-- The form of a byte string. -/
def encodeBytes (content : Bytes) : Bytes :=
  match content with
  | [b] => if b < 0x80 then [b] else [0x81, b]
  | content => header 0x80 content.length ++ content

mutual

/-- The form of an item. -/
def encode : Rlp → Bytes
  | bytes content => encodeBytes content
  | list items =>
    let body := encodeAll items
    header 0xc0 body.length ++ body

/-- The forms of items, one after the other. -/
def encodeAll : List Rlp → Bytes
  | [] => []
  | r :: rs => encode r ++ encodeAll rs

end

/-- The first `size` bytes and the others, if there are that many. -/
def splitAt? (size : Nat) (bs : Bytes) : Option (Bytes × Bytes) :=
  if size ≤ bs.length then some (bs.take size, bs.drop size) else none

/-- The content of an item whose header begins with `offset + tag`, and what follows it. -/
def body? (tag : Nat) (bs : Bytes) : Option (Bytes × Bytes) :=
  if tag ≤ 55 then splitAt? tag bs
  else do
    let (size, bs) ← splitAt? (tag - 55) bs
    let length := Bytes.toNat size
    guard (size.head? ≠ some 0 ∧ 55 < length)
    splitAt? length bs

mutual

/-- The item that some bytes begin with, and what follows it. -/
def decode? : (fuel : Nat) → Bytes → Option (Rlp × Bytes)
  | 0, _ => none
  | _ + 1, [] => none
  | fuel + 1, b :: bs =>
    if b < 0x80 then some (.bytes [b], bs)
    else if b < 0xc0 then do
      let (content, rest) ← body? (b.toNat - 0x80) bs
      guard (¬(content.length = 1 ∧ content.all (· < 0x80)))
      return (.bytes content, rest)
    else do
      let (body, rest) ← body? (b.toNat - 0xc0) bs
      return (.list (← decodeAll? fuel body), rest)

/-- The items that some bytes are. -/
def decodeAll? : (fuel : Nat) → Bytes → Option (List Rlp)
  | 0, _ => none
  | fuel + 1, bs =>
    if bs.isEmpty then some []
    else do
      let (r, rest) ← decode? fuel bs
      return r :: (← decodeAll? fuel rest)

end

/-- The item that some bytes are. -/
def decode (bs : Bytes) : Option Rlp := do
  let (r, rest) ← decode? (2 * bs.length + 2) bs
  guard rest.isEmpty
  return r

/-- The number of an item below `2 ^ bits`. -/
def toNat? (bits : Nat) : Rlp → Option Nat
  | bytes content =>
    let n := Bytes.toNat content
    if content.head? = some 0 ∨ Nat.pow 2 bits ≤ n then none else some n
  | list _ => none

end Rlp
end LocalChain
