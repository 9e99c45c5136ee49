import LocalChain.Address
import LocalChain.Ether

/-!
# Arguments of contracts

Values are laid out in words of 32 bytes. A number has its word in the head; a text has there the place
of its tail, which holds its length in bytes and its bytes, filled up with zeros to whole words. The
tails follow the heads in order.

The reader takes what it is told to find from the front of some bytes and passes over the rest. A word
that is too large for what it is read as loses its high bits.
-/

namespace LocalChain.Abi

/-- A value as contracts take and return it. -/
inductive Value where
  | word (w : Word)
  | text (s : String)
  deriving DecidableEq

/-- What a value is. -/
inductive Kind where
  | word
  | text
  deriving DecidableEq

/-- What a value is. -/
def Value.kind : Value → Kind
  | word _ => .word
  | text _ => .text

/-- The 32 bytes of a number. -/
def number (n : Nat) : Bytes :=
  Bytes.ofNat 32 n

/-- The part of a value that stands after all heads. -/
def Value.tail : Value → Bytes
  | word _ => []
  | text s =>
    let bytes := Bytes.ofText s
    number bytes.length ++ Bytes.padRight 32 bytes

/-- The word of a value among the heads; `place` is where its tail begins. -/
def Value.head (place : Nat) : Value → Bytes
  | word w => number w.toNat
  | text _ => number place

/-- The heads of values, of which the first tail begins at `place`. -/
def heads (place : Nat) : List Value → Bytes
  | [] => []
  | v :: vs => v.head place ++ heads (place + v.tail.length) vs

/-- The bytes of values. -/
def encode (vs : List Value) : Bytes :=
  heads (32 * vs.length) vs ++ vs.flatMap Value.tail

/-- The number in the word at a place. -/
def numberAt? (data : Bytes) (place : Nat) : Option Nat :=
  let word := (data.drop place).take 32
  if word.length = 32 then some (Bytes.toNat word) else none

/-- The text whose length stands at a place. -/
def textAt? (data : Bytes) (place : Nat) : Option String := do
  let length ← numberAt? data place
  let bytes := (data.drop (place + 32)).take length
  guard (bytes.length = length)
  Bytes.toText? bytes

/-- The value whose head stands at a place. -/
def valueAt? (data : Bytes) (place : Nat) : Kind → Option Value
  | .word => (numberAt? data place).map fun n => .word (BitVec.ofNat 256 n)
  | .text => do return .text (← textAt? data (← numberAt? data place))

/-- The values whose heads begin at a place. -/
def valuesFrom? (data : Bytes) (place : Nat) : List Kind → Option (List Value)
  | [] => some []
  | k :: ks => do return (← valueAt? data place k) :: (← valuesFrom? data (place + 32) ks)

/-- The values that some bytes begin with. -/
def decode (kinds : List Kind) (data : Bytes) : Option (List Value) :=
  valuesFrom? data 0 kinds

/-- The value of an address. -/
def ofAddress (a : Address) : Value :=
  .word (a.val.setWidth 256)

/-- The address in a word, high bits dropped. -/
def toAddress (w : Word) : Address :=
  ⟨w.setWidth 160⟩

end LocalChain.Abi
