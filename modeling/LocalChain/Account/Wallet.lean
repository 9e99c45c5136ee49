import LocalChain.Account.Derivation
import LocalChain.Account.Mnemonic
import LocalChain.Address
import LocalChain.ChainError
import LocalChain.Settings.Basic

/-!
# Wallets

The one account a run signs with, made from the configured private key in hexadecimal text, or without one
from the mnemonic phrase. A wallet shows its address and nothing else.
-/

namespace LocalChain

/-- The address of the account that a key signs for. -/
def PrivateKey.address (k : PrivateKey) : Address :=
  match Secp256k1.multiple k.val with
  | none => .zero
  | some p => .ofPublicKey p.x p.y

/-- A signing account. -/
structure Wallet where
  key : PrivateKey
  /-- The account's address. -/
  address : Address
  address_eq : address = key.address

namespace Wallet

/-- The wallet of a key. -/
def ofKey (key : PrivateKey) : Wallet :=
  ⟨key, key.address, rfl⟩

/-- Why a text is no private key. -/
inductive KeyError where
  /-- The text is not the hexadecimal form of 32 bytes. -/
  | hex (cause : Hex.Error)
  /-- The number is zero, or not below the order of the curve. -/
  | outOfRange
  deriving DecidableEq, Repr

/-- The sentence for people. -/
def KeyError.message : KeyError → String
  | hex cause => cause.message
  | outOfRange => "signature error"

/-- The key that a text spells. Blanks around it and one `0x` in front are dropped before it is read
as hexadecimal text, which may have a mark of its own. -/
def parseKey (text : String) : Except KeyError PrivateKey :=
  let cs := match Text.trim text.toList with
    | '0' :: 'x' :: cs => cs
    | cs => cs
  match Hex.number 32 cs with
  | .error e => .error (.hex e)
  | .ok n =>
    match PrivateKey.ofNat? n with
    | none => .error .outOfRange
    | some key => .ok key

/-- The wallet of a private key in hexadecimal text. -/
def ofKeyText (text : String) : Except ChainError Wallet :=
  match parseKey text with
  | .error e => .error (.wallet ("Invalid private key format: " ++ e.message))
  | .ok key => .ok (ofKey key)

/-- The wallet of the account with an index under a mnemonic phrase. -/
def ofPhrase (phrase : String) (index : UInt32) : Except ChainError Wallet :=
  let phrase := String.ofList (Text.trim phrase.toList)
  match Mnemonic.check phrase with
  | .error e => .error (.wallet ("Invalid mnemonic: " ++ e.message))
  | .ok () =>
    match ExtendedKey.root (Mnemonic.seed phrase) >>= (·.descendant (accountPath index)) with
    | none => .error (.wallet "Invalid mnemonic: no such account")
    | some k => .ok (ofKey k.key)

/-- The form for developers. -/
def debug (w : Wallet) : String :=
  "Wallet \x7b address: " ++ w.address.text ++ " \x7d"

end Wallet
/-- The wallet of the configured account. A private key that is not blank decides, whether or not it is
one; only without it the mnemonic phrase is used. -/
def AccountSettings.wallet (a : AccountSettings) : Except ChainError Wallet :=
  match a.key? with
  | some key => Wallet.ofKeyText key
  | none => Wallet.ofPhrase a.mnemonic a.derivationIndex

end LocalChain
