import LocalChain.Bytes

/-!
# Keccak-256

The sponge function with a state of 25 lanes of 64 bits, a rate of 136 bytes and a digest of 32.
Lane `(x, y)` of a state stands at index `x + 5 * y`. Each step of a round says what every lane
becomes.
-/

namespace LocalChain.Keccak

/-- The 25 lanes. -/
abbrev State := Array UInt64

/-- The constant that each round adds to lane `(0, 0)`. -/
def roundConstants : List UInt64 := [
    0x0000000000000001, 0x0000000000008082, 0x800000000000808a, 0x8000000080008000,
    0x000000000000808b, 0x0000000080000001, 0x8000000080008081, 0x8000000000008009,
    0x000000000000008a, 0x0000000000000088, 0x0000000080008009, 0x000000008000000a,
    0x000000008000808b, 0x800000000000008b, 0x8000000000008089, 0x8000000000008003,
    0x8000000000008002, 0x8000000000000080, 0x000000000000800a, 0x800000008000000a,
    0x8000000080008081, 0x8000000000008080, 0x0000000080000001, 0x8000000080008008]

/-- How far each lane turns in the step between `theta` and `chi`. -/
def turns : Array UInt64 := #[
  0, 1, 62, 28, 27,
  36, 44, 6, 55, 20,
  3, 10, 43, 25, 39,
  41, 45, 15, 21, 8,
  18, 2, 61, 56, 14]

/-- `x` turned left by `n` bits. -/
def rotate (x n : UInt64) : UInt64 :=
  if n = 0 then x else (x <<< n) ||| (x >>> (64 - n))

/-- Lane `i` of a state. -/
def lane (s : State) (i : Nat) : UInt64 :=
  s.getD i 0

/-- Adds to each lane the parities of two neighbouring columns. -/
def theta (s : State) : State :=
  let column : Array UInt64 := Array.ofFn fun x : Fin 5 =>
    lane s x ^^^ lane s (x + 5) ^^^ lane s (x + 10) ^^^ lane s (x + 15) ^^^ lane s (x + 20)
  let sum : Array UInt64 := Array.ofFn fun x : Fin 5 =>
    lane column ((x + 4) % 5) ^^^ rotate (lane column ((x + 1) % 5)) 1
  Array.ofFn fun i : Fin 25 => lane s i ^^^ lane sum (i % 5)

/-- Turns each lane and moves lane `(x, y)` to `(y, 2 * x + 3 * y)`. -/
def rhoPi (s : State) : State :=
  Array.ofFn fun i : Fin 25 =>
    let x := (i % 5 + 3 * (i / 5)) % 5
    let y := i % 5
    rotate (lane s (x + 5 * y)) (lane turns (x + 5 * y))

/-- Mixes each lane with the next two of its row. -/
def chi (s : State) : State :=
  Array.ofFn fun i : Fin 25 =>
    let row := 5 * (i / 5)
    lane s i ^^^ (~~~lane s (row + (i + 1) % 5) &&& lane s (row + (i + 2) % 5))

/-- Adds a round's constant to the first lane. -/
def iota (s : State) (c : UInt64) : State :=
  s.setIfInBounds 0 (lane s 0 ^^^ c)

/-- The permutation: 24 rounds. -/
def permute (s : State) : State :=
  roundConstants.foldl (fun s c => iota (chi (rhoPi (theta s))) c) s

/-- The little-endian words of `bs`. -/
def wordsOf : Bytes → List UInt64
  | a :: b :: c :: d :: e :: f :: g :: h :: rest =>
    (a.toUInt64 ||| (b.toUInt64 <<< 8) ||| (c.toUInt64 <<< 16) ||| (d.toUInt64 <<< 24) |||
      (e.toUInt64 <<< 32) ||| (f.toUInt64 <<< 40) ||| (g.toUInt64 <<< 48) |||
      (h.toUInt64 <<< 56)) :: wordsOf rest
  | _ => []

/-- Bytes absorbed before each permutation. -/
def rate : Nat := 136

/-- What follows a message of `length` bytes in its last block. -/
def padding (length : Nat) : Bytes :=
  match rate - length % rate with
  | 0 | 1 => [0x81]
  | n + 2 => 0x01 :: List.replicate n 0 ++ [0x80]

/-- The state after a block. -/
def absorbBlock (s : State) (block : Bytes) : State :=
  let words := (wordsOf block).toArray
  permute (s.mapIdx fun i x => x ^^^ lane words i)

/-- Absorbs whole blocks; `fuel` bounds their number. -/
def absorb : (fuel : Nat) → State → Bytes → State
  | 0, s, _ => s
  | fuel + 1, s, bs =>
    if bs.isEmpty then s else absorb fuel (absorbBlock s (bs.take rate)) (bs.drop rate)

/-- The 32 bytes of the Keccak-256 digest. -/
def hash (message : Bytes) : Bytes :=
  let bs := message ++ padding message.length
  let s := absorb bs.length (Array.replicate 25 0) bs
  (List.range 4).flatMap fun i => (Bytes.ofNat 8 (lane s i).toNat).reverse

end LocalChain.Keccak
