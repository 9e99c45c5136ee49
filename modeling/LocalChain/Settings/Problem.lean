import LocalChain.Address
import LocalChain.Ether
import LocalChain.Text.Basic
import LocalChain.Text.Forms

/-!
# What can be wrong with settings

A problem names the field it was found in and quotes the text as it was given. Amounts and recipients
are read here, once for those who judge settings and those who use them.
-/

namespace LocalChain

/-- One thing that is wrong with some settings. -/
inductive Problem where
  | invalidUrl (field value : String)
  | invalidAddress (field value : String)
  | invalidAmount (field value : String)
  | notPositive (field : String)
  | empty (field : String)
  /-- Neither a key nor a phrase is given. -/
  | noSigner
  /-- A pair takes two tokens. -/
  | tooFewTokens (count : Nat)
  deriving DecidableEq, Repr

namespace Problem

/-- The sentence for people. -/
def message : Problem → String
  | invalidUrl f v => f ++ ": invalid URL '" ++ v ++ "'"
  | invalidAddress f v => f ++ ": invalid address '" ++ v ++ "'"
  | invalidAmount f v => f ++ ": invalid ether amount '" ++ v ++ "'"
  | notPositive f => f ++ ": must be greater than zero"
  | empty f => f ++ ": must not be empty"
  | noSigner => "account: no mnemonic or private key configured"
  | tooFewTokens n =>
    "deploy.tokens: at least two tokens are needed to add liquidity, got " ++ toString n

/-- The form for developers of a problem with a field and a value. -/
def debugValue (kind field value : String) : String :=
  kind ++ " \x7b field: " ++ Text.quoted field ++ ", value: " ++ Text.quoted value ++ " \x7d"

/-- The form for developers of a problem with a field alone. -/
def debugField (kind field : String) : String :=
  kind ++ " \x7b field: " ++ Text.quoted field ++ " \x7d"

/-- The form for developers. -/
def debug : Problem → String
  | invalidUrl f v => debugValue "InvalidUrl" f v
  | invalidAddress f v => debugValue "InvalidAddress" f v
  | invalidAmount f v => debugValue "InvalidAmount" f v
  | notPositive f => debugField "NotPositive" f
  | empty f => debugField "Empty" f
  | noSigner => "NoSigner"
  | tooFewTokens n => "TooFewTokens(" ++ toString n ++ ")"

end Problem

/-- The recipient that a text names, blanks around it aside. -/
def readRecipient (value : String) : Except Problem Address :=
  let cs := Text.trim value.toList
  if cs.isEmpty then .error (.empty "load.to")
  else
    match Address.parse cs with
    | .error _ => .error (.invalidAddress "load.to" value)
    | .ok a => .ok a

/-- The amount that the text of a field gives, blanks around it aside. There is no answer at all when
the amount's last place falls inside a character. -/
def readAmount (field value : String) : Option (Except Problem Word) :=
  let cs := Text.trim value.toList
  if cs.isEmpty ∨ cs.head? = some '-' then some (.error (.invalidAmount field value))
  else
    match Ether.parse cs with
    | .wei w => some (.ok w)
    | .invalid => some (.error (.invalidAmount field value))
    | .splitCharacter => none

end LocalChain
