import LocalChain.Account.Words
import LocalChain.Hash.Sha256
import LocalChain.Hash.Sha512

/-!
# Mnemonic phrases

A phrase writes a random number, and a few bits of its digest as a check, in English words of eleven
bits each. The phrase itself, stretched, is the seed that keys are derived from.
-/

namespace LocalChain.Mnemonic

/-- Why a text is no mnemonic phrase. -/
inductive Error where
  /-- A word that is not in the list. -/
  | unknownWord (word : String)
  /-- A number of words that spells no number of bytes in use. -/
  | entropyLength (bytes : Nat)
  /-- The check bits are wrong. -/
  | badPhrase (phrase : String)
  deriving DecidableEq, Repr

/-- The sentence for people. -/
def Error.message : Error → String
  | unknownWord w => "the word `" ++ w ++ "` is invalid"
  | entropyLength n => "the mnemonic's entropy length `" ++ toString n ++ "` is invalid"
  | badPhrase p => "the phrase `" ++ p ++ "` is invalid"

/-- The value of a word. -/
def index? (word : String) : Option Nat :=
  words.findIdx? (· == word)

/-- The values of some words, or the first of them that has none. -/
def indices : List String → Except Error (List Nat)
  | [] => .ok []
  | w :: ws =>
    match index? w with
    | none => .error (.unknownWord w)
    | some i => (indices ws).map (i :: ·)

/-- The lengths of a phrase in words: a multiple of three from twelve to twenty-four. -/
def isPhraseLength (words : Nat) : Bool :=
  words % 3 = 0 && 12 ≤ words && words ≤ 24

/-- The bytes that so many words spell. The check bits, one for every three words, count only where
a phrase may not have that length. -/
def entropyBytes (words : Nat) : Nat :=
  if isPhraseLength words then words / 3 * 4 else (11 * words + 7) / 8

/-- The check bits of a phrase are the first bits of its number's digest. -/
def isChecked (values : List Nat) : Bool :=
  let n := Digits.value 2048 values
  let checkBits := values.length / 3
  let entropy := Bytes.ofNat (entropyBytes values.length) (n >>> checkBits)
  Bytes.toNat (sha256.hash entropy) >>> (256 - checkBits) == n % Nat.pow 2 checkBits

/-- Finds nothing wrong with a phrase whose words stand one blank apart. -/
def check (phrase : String) : Except Error Unit := do
  let values ← indices (phrase.splitOn " ")
  let bytes := entropyBytes values.length
  if bytes ∉ [16, 20, 24, 28, 32] then .error (.entropyLength bytes)
  else if isPhraseLength values.length && isChecked values then .ok ()
  else .error (.badPhrase phrase)

/-- The seed of a phrase. -/
def seed (phrase : String) : Bytes :=
  sha512.stretch (Bytes.ofText phrase) (Bytes.ofText "mnemonic") 2048

end LocalChain.Mnemonic
