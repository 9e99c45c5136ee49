import LocalChain.Bytes

/-!
# Hash functions that work block by block

A message is padded to whole blocks (a one bit, zeros, the length in bits) and absorbed block by
block into a state. Authentication codes and key stretching are built on any such function.
-/

namespace LocalChain

/-- `bs` in pieces of `size` bytes, the last of which may be shorter; `fuel` bounds their number. -/
def Bytes.chunksUpTo (size : Nat) : (fuel : Nat) → Bytes → List Bytes
  | 0, _ => []
  | fuel + 1, bs =>
    if bs.isEmpty then [] else bs.take size :: Bytes.chunksUpTo size fuel (bs.drop size)

/-- `bs` in pieces of `size` bytes, the last of which may be shorter. -/
def Bytes.chunks (size : Nat) (bs : Bytes) : List Bytes :=
  Bytes.chunksUpTo size bs.length bs

/-- The bytewise exclusive or, as long as the shorter argument. -/
def Bytes.xor (as bs : Bytes) : Bytes :=
  List.zipWith (· ^^^ ·) as bs

/-- A hash function with state `σ`. -/
structure BlockHash (σ : Type) where
  /-- Bytes in a block. -/
  blockSize : Nat
  /-- Bytes at the end of the last block that hold the message's length in bits. -/
  lengthSize : Nat
  /-- The state before any block. -/
  start : σ
  /-- The state after one more block. -/
  absorb : σ → Bytes → σ
  /-- The digest that a state stands for. -/
  digest : σ → Bytes

namespace BlockHash

variable {σ : Type} (h : BlockHash σ)

/-- What follows a message of `length` bytes in its last block or blocks. -/
def padding (length : Nat) : Bytes :=
  let used := (length + 1 + h.lengthSize) % h.blockSize
  0x80 :: List.replicate ((h.blockSize - used) % h.blockSize) 0 ++
    Bytes.ofNat h.lengthSize (8 * length)

/-- The digest of a message whose first `before` bytes, whole blocks, led to the state `s` and
whose other bytes are `rest`. -/
def resume (s : σ) (before : Nat) (rest : Bytes) : Bytes :=
  let blocks := Bytes.chunks h.blockSize (rest ++ h.padding (before + rest.length))
  h.digest (blocks.foldl h.absorb s)

/-- The digest of `message`. -/
def hash (message : Bytes) : Bytes :=
  h.resume h.start 0 message

/-- A key of the authentication code HMAC, already absorbed into the two states it starts from. -/
structure MacKey (σ : Type) where
  /-- After the key's inner block. -/
  inner : σ
  /-- After the key's outer block. -/
  outer : σ

/-- The states that HMAC under `key` starts from. A key longer than a block is hashed first. -/
def macKey (key : Bytes) : MacKey σ :=
  let short := if key.length > h.blockSize then h.hash key else key
  let block := short ++ List.replicate (h.blockSize - short.length) 0
  { inner := h.absorb h.start (block.map (· ^^^ 0x36))
    outer := h.absorb h.start (block.map (· ^^^ 0x5c)) }

/-- The authentication code HMAC of `message`. -/
def mac (key : MacKey σ) (message : Bytes) : Bytes :=
  h.resume key.outer h.blockSize (h.resume key.inner h.blockSize message)

/-- `rounds` further codes, each of the one before, added up by exclusive or. -/
def stretchFrom (key : MacKey σ) : (rounds : Nat) → (last sum : Bytes) → Bytes
  | 0, _, sum => sum
  | rounds + 1, last, sum =>
    let next := h.mac key last
    stretchFrom key rounds next (Bytes.xor sum next)

/-- The first block of the stretched key PBKDF2 of a password. -/
def stretch (password salt : Bytes) (rounds : Nat) : Bytes :=
  let key := h.macKey password
  let first := h.mac key (salt ++ Bytes.ofNat 4 1)
  h.stretchFrom key (rounds - 1) first first

end BlockHash
end LocalChain
