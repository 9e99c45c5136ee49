import LocalChain.Account.Wallet
import LocalChain.Proofs.Text.Spelling
import LocalChain.Proofs.Text.Trimming

/-!
# Keys as they are written

A text is a private key when it is the key's number in 64 hexadecimal digits (`KeyText`).  Blanks around
it do not matter, nor does the case of the letters, nor one `0x` in front.  The reader of digits passes
over a mark of its own, so there may be a second one.  Every other text is refused
(`Wallet.parseKey_eq_ok_iff`), and the wallet of a text is that of the number
(`Wallet.ofKeyText_eq_ok_iff`).
-/

namespace LocalChain

/-- The text is the number in 64 hexadecimal digits of either case.  In front of them there may be `0x`
and then one more mark, and around all of it blanks. -/
def KeyText (n : Nat) (text : String) : Prop :=
  n < 16 ^ 64 ∧ ∃ mark ∈ ["", "0x"], ∃ inner ∈ ["", "0x", "0X"], ∃ cs,
    Text.Padded (mark.toList ++ inner.toList ++ cs) text ∧
      cs.map Char.toLower = (Digits.fixed 16 64 n).map Digits.char

theorem PrivateKey.ofNat?_eq_some_iff {n : Nat} {key : PrivateKey} :
    ofNat? n = some key ↔ n = key.val := by
  rw [ofNat?]
  constructor
  · intro h
    split at h
    · cases h
      rfl
    · cases h
  · rintro rfl
    exact dif_pos ⟨key.pos, key.lt_order⟩

/-- Every key has its digits. -/
theorem PrivateKey.val_lt (key : PrivateKey) : key.val < 16 ^ 64 :=
  key.lt_order.trans (by decide)

namespace Wallet

variable {text : String} {cs : List Char} {n : Nat} {key : PrivateKey}

theorem areDigits_fixed_iff : Hex.AreDigits cs (Digits.fixed 16 64 n) ↔
    cs.map Char.toLower = (Digits.fixed 16 64 n).map Digits.char :=
  Hex.areDigits_iff fun _ => Digits.lt_of_mem_fixed (by decide)

/-- What is left of a text to be read as digits: blanks and one `0x` are dropped. -/
theorem parseKey_eq_ok_iff_number : parseKey text = .ok key ↔ ∃ cs,
    (Text.trim text.toList = '0' :: 'x' :: cs ∨
      Text.trim text.toList = cs ∧ ∀ rest, cs ≠ '0' :: 'x' :: rest) ∧
    Hex.number 32 cs = .ok key.val := by
  rw [parseKey]
  generalize Text.trim text.toList = t
  constructor
  · intro h
    split at h
    · cases h
    rename_i n hnumber
    split at h
    · cases h
    rename_i found hfound
    obtain rfl := Except.ok.inj h
    obtain rfl := PrivateKey.ofNat?_eq_some_iff.mp hfound
    split at hnumber
    · exact ⟨_, .inl rfl, hnumber⟩
    · rename_i hmark
      exact ⟨t, .inr ⟨rfl, fun rest => hmark rest⟩, hnumber⟩
  · have hkey : PrivateKey.ofNat? key.val = some key := PrivateKey.ofNat?_eq_some_iff.mpr rfl
    rintro ⟨cs, rfl | ⟨rfl, hmark⟩, hnumber⟩
    · simp only [hnumber, hkey]
    · simp [hnumber, hkey]

/-! ## Marks -/

/-- Digits after marks, without the blanks around them. -/
theorem trim_of_digits {mark inner : String} (hmark : mark ∈ ["", "0x"])
    (hinner : inner ∈ ["", "0x", "0X"])
    (hpadded : Text.Padded (mark.toList ++ inner.toList ++ cs) text)
    (hdigits : Hex.AreDigits cs (Digits.fixed 16 64 n)) :
    Text.trim text.toList = mark.toList ++ (inner.toList ++ cs) := by
  have hown : mark ∈ ["", "0x", "0X"] := List.mem_append_left ["0X"] hmark
  rw [← List.append_assoc]
  refine Text.trim_of_padded hpadded fun c hc => ?_
  rcases List.mem_append.mp hc with hc | hc
  · rcases List.mem_append.mp hc with hc | hc
    · exact Hex.isBlank_of_mem_mark hown c hc
    · exact Hex.isBlank_of_mem_mark hinner c hc
  · exact Hex.isBlank_of_isDigit (hdigits.isDigit c hc)

/-! ## Keys and their texts -/

/-- **A text is read as a key exactly if it is the key's number.** -/
theorem parseKey_eq_ok_iff : parseKey text = .ok key ↔ KeyText key.val text := by
  simp only [parseKey_eq_ok_iff_number, Hex.number_eq_ok_iff, KeyText, and_iff_right key.val_lt]
  constructor
  · rintro ⟨cs, hmark, hdigits⟩
    obtain ⟨inner, hinner, hcs⟩ := Hex.exists_mark cs
    have hpadded := Text.padded_trim text
    rcases hmark with htrim | ⟨htrim, -⟩
    · rw [htrim, hcs] at hpadded
      exact ⟨"0x", by simp, inner, hinner, _, hpadded, hdigits⟩
    · rw [htrim, hcs] at hpadded
      exact ⟨"", by simp, inner, hinner, _, hpadded, hdigits⟩
  · rintro ⟨mark, hmark, inner, hinner, cs, hpadded, hcs⟩
    have hdigits := areDigits_fixed_iff.mpr hcs
    have htrim := trim_of_digits hmark hinner hpadded hdigits
    have hread : (Hex.dropMark (inner.toList ++ cs)).map Char.toLower =
        (Digits.fixed 16 64 key.val).map Digits.char := by rwa [hdigits.dropMark_mark hinner]
    simp only [List.mem_cons, List.not_mem_nil, or_false] at hmark hinner
    rcases hmark with rfl | rfl
    · -- without a mark of its own, a text gives up the mark of its digits if that is the same one
      rcases hinner with rfl | rfl | rfl
      · exact ⟨cs, .inr ⟨htrim, hdigits.ne_mark (by decide)⟩, hread⟩
      · exact ⟨cs, .inl htrim, by rwa [hdigits.dropMark_eq_self]⟩
      · exact ⟨"0X".toList ++ cs, .inr ⟨htrim, by simp⟩, hread⟩
    · exact ⟨inner.toList ++ cs, .inl htrim, hread⟩

/-- The texts of keys are those of the numbers from one up to the order. -/
theorem exists_key_iff : (∃ key : PrivateKey, KeyText key.val text) ↔
    ∃ n, 1 ≤ n ∧ n < Secp256k1.order ∧ KeyText n text := by
  constructor
  · rintro ⟨key, htext⟩
    exact ⟨key.val, key.pos, key.lt_order, htext⟩
  · rintro ⟨n, hpos, hlt, htext⟩
    exact ⟨⟨n, hpos, hlt⟩, htext⟩

/-- **The wallet of a text is that of the number.** -/
theorem ofKeyText_eq_ok_iff {w : Wallet} : ofKeyText text = .ok w ↔
    ∃ key : PrivateKey, KeyText key.val text ∧ w = .ofKey key := by
  simp only [← parseKey_eq_ok_iff]
  rw [ofKeyText]
  cases parseKey text <;> simp [eq_comm]

/-! ## What is no account -/

theorem exists_error_of_ofKeyText {e : ChainError} (h : ofKeyText text = .error e) :
    ∃ m, e = .wallet m := by
  rw [ofKeyText] at h
  cases hkey : parseKey text with
  | ok key =>
    rw [hkey] at h
    cases h
  | error cause =>
    rw [hkey] at h
    exact ⟨_, (Except.error.inj h).symm⟩

theorem exists_error_of_ofPhrase {phrase : String} {index : UInt32} {e : ChainError}
    (h : ofPhrase phrase index = .error e) : ∃ m, e = .wallet m := by
  rw [ofPhrase] at h
  -- the derivation of the key is long, and of no account here
  generalize String.ofList (Text.trim phrase.toList) = words at h
  generalize ExtendedKey.root (Mnemonic.seed words) >>=
    (·.descendant (accountPath index)) = derived at h
  cases hcheck : Mnemonic.check words with
  | error cause =>
    rw [hcheck] at h
    exact ⟨_, (Except.error.inj h).symm⟩
  | ok _ =>
    rw [hcheck] at h
    cases derived with
    | none => exact ⟨_, (Except.error.inj h).symm⟩
    | some k => cases h

end Wallet

/-- An account that is none fails with an error of its own kind. -/
theorem AccountSettings.exists_error_of_wallet {a : AccountSettings} {e : ChainError}
    (h : a.wallet = .error e) : ∃ m, e = .wallet m := by
  rw [wallet] at h
  cases hkey : a.key? with
  | some key =>
    rw [hkey] at h
    exact Wallet.exists_error_of_ofKeyText h
  | none =>
    rw [hkey] at h
    exact Wallet.exists_error_of_ofPhrase h

end LocalChain
