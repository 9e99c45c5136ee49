import LocalChain.Proofs.Account.Choice
import LocalChain.Proofs.Session.Reports
import LocalChain.Proofs.Settings.Recipients

/-!
# Secrets and texts

The secrets of an account are its phrase and its private key.  Settings that differ in nothing but what
their secrets say (`Settings.Alike`) have the same texts: the form of the account for developers, the
problems and the sentence with which the settings are refused, also under any two keys of the environment
(`Settings.Alike.resolve_eq_error_iff`).

What the form for developers does say is known exactly (`AccountSettings.debug_eq_iff`), and so is what is
shown of a wallet: its address (`Wallet.debug_eq_iff`), wherever the wallet came from
(`Connection.announces`).
-/

namespace LocalChain

open Signer (Missing)
open Text (isBlankText)

/-! ## Numbers in front of other text -/

theorem takeWhile_isDigit_toDigits (n : Nat) {rest : List Char}
    (hrest : ∀ c ∈ rest.head?, ¬c.isDigit) :
    (Nat.toDigits 10 n ++ rest).takeWhile Char.isDigit = Nat.toDigits 10 n := by
  have hdigits : ∀ c ∈ Nat.toDigits 10 n, c.isDigit := fun c hc =>
    Nat.isDigit_of_mem_toDigits (by decide) (by decide) hc
  have hnone : rest.takeWhile Char.isDigit = [] := by
    cases rest with
    | nil => rfl
    | cons c rest => exact List.takeWhile_cons_of_neg (hrest c rfl)
  rw [List.takeWhile_append_of_pos hdigits, hnone, List.append_nil]

/-- A number in front of a text is known from the text, and so is what comes after it. -/
theorem toDigits_append_inj {m n : Nat} {rest rest' : List Char}
    (hrest : ∀ c ∈ rest.head?, ¬c.isDigit) (hrest' : ∀ c ∈ rest'.head?, ¬c.isDigit)
    (h : Nat.toDigits 10 m ++ rest = Nat.toDigits 10 n ++ rest') : m = n ∧ rest = rest' := by
  have hread (n : Nat) : Nat.ofDigitChars 10 (Nat.toDigits 10 n) 0 = n :=
    Nat.ofDigitChars_toDigits (by decide) (by decide)
  have hdigits : Nat.toDigits 10 m = Nat.toDigits 10 n := by
    rw [← takeWhile_isDigit_toDigits m hrest, h, takeWhile_isDigit_toDigits n hrest']
  refine ⟨?_, List.append_cancel_left (hdigits ▸ h)⟩
  rw [← hread m, hdigits, hread n]

/-! ## Accounts -/

namespace AccountSettings

variable {a a' : AccountSettings}

/-- What is shown of the key. -/
def shownKey (a : AccountSettings) : String :=
  if a.privateKey.isSome then "Some(\"<redacted>\")" else "None"

theorem toList_debug (a : AccountSettings) :
    a.debug.toList = "AccountConfig \x7b derivation_index: ".toList ++
      (Nat.toDigits 10 a.derivationIndex.toNat ++
        (", private_key: ".toList ++ (a.shownKey.toList ++ ", .. \x7d".toList))) := by
  have hnumber (n : Nat) : (toString n).toList = Nat.toDigits 10 n := String.toList_ofList
  unfold debug shownKey
  cases a.privateKey <;> simp only [String.toList_append, List.append_assoc, hnumber] <;> rfl

theorem shownKey_eq_iff :
    a.shownKey = a'.shownKey ↔ a.privateKey.isSome = a'.privateKey.isSome := by
  unfold shownKey
  cases a.privateKey <;> cases a'.privateKey <;> simp

/-- **The form for developers says which account of the phrase it is and whether there is a key**, and
nothing else. -/
theorem debug_eq_iff : a.debug = a'.debug ↔
    a.derivationIndex = a'.derivationIndex ∧ a.privateKey.isSome = a'.privateKey.isSome := by
  rw [← shownKey_eq_iff, ← String.toList_inj, toList_debug, toList_debug]
  constructor
  · intro h
    have hcomma (cs : List Char) : ∀ c ∈ (", private_key: ".toList ++ cs).head?, ¬c.isDigit := by
      rintro _ ⟨⟩
      decide
    obtain ⟨hindex, hkey⟩ :=
      toDigits_append_inj (hcomma _) (hcomma _) (List.append_cancel_left h)
    exact ⟨UInt32.toNat_inj.mp hindex,
      String.toList_inj.mp (List.append_cancel_right (List.append_cancel_left hkey))⟩
  · rintro ⟨hindex, hkey⟩
    rw [hindex, hkey]

example : ({ derivationIndex := 7, privateKey := some "0xdeadbeef" } : AccountSettings).debug =
    "AccountConfig \x7b derivation_index: 7, private_key: Some(\"<redacted>\"), .. \x7d" := by
  decide +kernel

/-- The accounts differ at most in what their secrets say.  The phrase is blank in both or in neither, and
so is the key, which both have or neither has. -/
structure Alike (a a' : AccountSettings) : Prop where
  mnemonic : isBlankText a.mnemonic ↔ isBlankText a'.mnemonic
  derivationIndex : a.derivationIndex = a'.derivationIndex
  privateKey : Option.Rel (fun key key' => isBlankText key ↔ isBlankText key')
    a.privateKey a'.privateKey

/-- A key is missing in both or in neither. -/
theorem missing_iff_of_rel {key key' : Option String}
    (h : Option.Rel (fun text text' => isBlankText text ↔ isBlankText text') key key') :
    Missing key ↔ Missing key' := by
  cases h with
  | none => exact Iff.rfl
  | some hblank => simp [Missing, hblank]

theorem isSome_eq_of_rel {r : String → String → Prop} {key key' : Option String}
    (h : Option.Rel r key key') : key.isSome = key'.isSome := by
  cases h <;> rfl

theorem Alike.debug_eq (h : Alike a a') : a.debug = a'.debug :=
  debug_eq_iff.mpr ⟨h.derivationIndex, isSome_eq_of_rel h.privateKey⟩

theorem Alike.problems_eq (h : Alike a a') : a.problems = a'.problems := by
  have hkey : a.key?.isNone = a'.key?.isNone := by
    rw [Bool.eq_iff_iff, Option.isNone_iff_eq_none, Option.isNone_iff_eq_none, key?, key?,
      filter_blank_eq_none_iff, filter_blank_eq_none_iff, missing_iff_of_rel h.privateKey]
  rw [problems, problems, hkey, Bool.eq_iff_iff.mpr h.mnemonic]

end AccountSettings

/-! ## Settings -/

namespace Settings

variable {c c' : Settings} {given given' : Option String}

/-- The settings differ at most in what the secrets of their accounts say. -/
structure Alike (c c' : Settings) : Prop where
  rpc : c.rpc = c'.rpc
  account : c.account.Alike c'.account
  load : c.load = c'.load
  deploy : c.deploy = c'.deploy
  observability : c.observability = c'.observability

/-- The sentence with which settings are refused. -/
def refusal (c : Settings) : Option String :=
  c.check.bind fun
    | .ok _ => none
    | .error e => some e.message

theorem Alike.problems_eq (h : c.Alike c') : c.problems = c'.problems := by
  rw [problems, problems, h.rpc, h.account.problems_eq, h.load, h.deploy, h.observability]

theorem Alike.check_eq_error_iff (h : c.Alike c') (e : SettingsError) :
    c.check = some (.error e) ↔ c'.check = some (.error e) := by
  have hsame {c c' : Settings} (h : c.problems = c'.problems) (hcheck : c.check = some (.error e)) :
      c'.check = some (.error e) := by
    obtain ⟨ps, rfl⟩ := invalid_of_check hcheck
    rw [check_eq_invalid_iff] at hcheck ⊢
    rwa [← h]
  exact ⟨hsame h.problems_eq, hsame h.problems_eq.symm⟩

theorem refusal_eq_some_iff {text : String} :
    c.refusal = some text ↔ ∃ e, c.check = some (.error e) ∧ e.message = text := by
  unfold refusal
  rcases c.check with _ | e | _ <;> simp

theorem Alike.refusal_eq (h : c.Alike c') : c.refusal = c'.refusal := by
  refine Option.ext fun text => ?_
  rw [refusal_eq_some_iff, refusal_eq_some_iff]
  exact exists_congr fun e => and_congr_left' (h.check_eq_error_iff e)

theorem Alike.withEnvironment (h : c.Alike c') (hgiven : Missing given ↔ Missing given') :
    (c.withEnvironment given).Alike (c'.withEnvironment given') := by
  rcases Signer.missing_or given with hmissing | ⟨text, rfl, htext⟩
  · rwa [withEnvironment_of_missing hmissing, withEnvironment_of_missing (hgiven.mp hmissing)]
  rcases Signer.missing_or given' with hmissing | ⟨text', rfl, htext'⟩
  · exact (Signer.not_missing rfl htext (hgiven.mpr hmissing)).elim
  rw [Settings.withEnvironment, Settings.withEnvironment, filter_blank_of_not_blank htext,
    filter_blank_of_not_blank htext']
  exact { h with account := { h.account with privateKey := .some (iff_of_false htext htext') } }

theorem Alike.override (h : c.Alike c') (o : Overrides) : (c.override o).Alike (c'.override o) where
  rpc := by simp only [Settings.override, h.rpc]
  account := h.account
  load := by simp only [Settings.override, h.load]
  deploy := by simp only [Settings.override, h.deploy]
  observability := h.observability

/-- **Files that are alike are refused alike**, under any two keys of the environment that are blank in
both cases or in neither. -/
theorem Alike.resolve_eq_error_iff (h : c.Alike c') {files files' : Files} {path path' : String}
    (hread : readFile files path = .ok c) (hread' : readFile files' path' = .ok c')
    (hgiven : Missing given ↔ Missing given') (o : Overrides) (e : SettingsError) :
    resolve files (some path) given o = some (.error e) ↔
      resolve files' (some path') given' o = some (.error e) := by
  simp only [resolve, Option.elim_some, hread, hread']
  exact ((h.withEnvironment hgiven).override o).check_eq_error_iff e

end Settings

/-! ## Wallets -/

/-- **The form of a wallet for developers says its address**, and nothing else. -/
theorem Wallet.debug_eq_iff {w w' : Wallet} : w.debug = w'.debug ↔ w.address = w'.address := by
  have htext : w.address.text = w'.address.text ↔ w.address = w'.address :=
    Address.text_injective.eq_iff
  unfold debug
  rw [← htext]
  generalize w.address.text = text
  generalize w'.address.text = text'
  simp

/-- Loading the account ends with the wallet, wherever it is done, and the event is all that is entered. -/
def Connection.Announces (a : AccountSettings) (w : Wallet) (e : Event) : Prop :=
  ∀ {σ : Type} (s : Session σ), ∃ s',
    (loadWallet a : Talk σ ChainError Wallet).runFrom s = (.ok w, s') ∧
      s'.journal = s.journal ++ [.event e]

theorem Connection.announces {a : AccountSettings} {w : Wallet} (h : a.wallet = .ok w) :
    Announces a w (.walletReady w.address) := by
  intro σ s
  have hrun : (loadWallet a : Talk σ ChainError Wallet).runFrom s =
      (.ok w, { s with entered := .event (.walletReady w.address) :: s.entered }) := by
    rw [loadWallet, h]
    rfl
  exact ⟨_, hrun, (enters_loadWallet a).journal_eq hrun⟩

/-- **Secrets do not reach texts.**  Settings that differ at most in what their phrases and keys say have
the same form of the account for developers and the same problems, and they are refused with the same error
and the same sentence, also when they are read of files and the environment has a key of its own.  The form
of an account for developers says its index and whether there is a key, and nothing else.

The form of a wallet for developers says its address and nothing else.  Loading an account makes one entry
in the journal, the same for any two accounts whose wallets have the same address. -/
theorem secrets_unseen :
    (∀ c c' : Settings, c.Alike c' →
      c.account.debug = c'.account.debug ∧ c.problems = c'.problems ∧
      (∀ e, c.check = some (.error e) ↔ c'.check = some (.error e)) ∧ c.refusal = c'.refusal ∧
      ∀ files files' path path' given given' o e, Settings.readFile files path = .ok c →
        Settings.readFile files' path' = .ok c' → (Missing given ↔ Missing given') →
        (Settings.resolve files (some path) given o = some (.error e) ↔
          Settings.resolve files' (some path') given' o = some (.error e))) ∧
    (∀ a a' : AccountSettings, a.debug = a'.debug ↔
      a.derivationIndex = a'.derivationIndex ∧ a.privateKey.isSome = a'.privateKey.isSome) ∧
    ∀ w w' : Wallet, (w.debug = w'.debug ↔ w.address = w'.address) ∧
      ∀ a a' : AccountSettings, a.wallet = .ok w → a'.wallet = .ok w' → ∃ e e',
        Connection.Announces a w e ∧ Connection.Announces a' w' e' ∧
        e.message = "Wallet initialized" ∧ e'.message = "Wallet initialized" ∧
        (e.fields = e'.fields ↔ w.address = w'.address) ∧ (e = e' ↔ w.address = w'.address) := by
  refine ⟨fun c c' h => ⟨h.account.debug_eq, h.problems_eq, h.check_eq_error_iff, h.refusal_eq, ?_⟩,
    fun a a' => AccountSettings.debug_eq_iff, fun w w' => ⟨Wallet.debug_eq_iff, ?_⟩⟩
  · intro files files' path path' given given' o e hread hread' hgiven
    exact h.resolve_eq_error_iff hread hread' hgiven o e
  · intro a a' hw hw'
    refine ⟨_, _, Connection.announces hw, Connection.announces hw', rfl, rfl, ?_, by simp⟩
    simp [Event.fields, Address.display_injective.eq_iff]

/-- The first key, with a phrase beside it. -/
def firstKey : AccountSettings where
  mnemonic := "legal winner"
  privateKey := some "0x0000000000000000000000000000000000000000000000000000000000000001"

/-- The same key as it may be written too. -/
def respelledKey : AccountSettings where
  privateKey := some " 0X0000000000000000000000000000000000000000000000000000000000000001\n"

/-- Two ways to write a key look the same, and so do their wallets. -/
theorem secrets_unseen_of_respelled :
    ({ account := firstKey } : Settings).Alike { account := respelledKey } ∧
    firstKey ≠ respelledKey ∧ firstKey.debug = respelledKey.debug ∧
    ∃ w e, firstKey.wallet = .ok w ∧ respelledKey.wallet = .ok w ∧
      Connection.Announces firstKey w e ∧ Connection.Announces respelledKey w e := by
  have halike : ({ account := firstKey } : Settings).Alike { account := respelledKey } :=
    ⟨rfl, ⟨by decide +kernel, rfl, .some (by decide +kernel)⟩, rfl, rfl, rfl⟩
  obtain ⟨hsettings, -, hwallets⟩ := secrets_unseen
  let key : PrivateKey := ⟨1, by decide, by decide⟩
  have hwallet (a : AccountSettings) (text : String) (htext : a.key? = some text)
      (hread : Wallet.parseKey text = .ok key) : a.wallet = .ok (.ofKey key) := by
    rw [AccountSettings.wallet, htext]
    simp only [Wallet.ofKeyText, hread]
  have hfirst := hwallet firstKey _ rfl (by decide +kernel)
  have hrespelled := hwallet respelledKey _ rfl (by decide +kernel)
  obtain ⟨e, e', he, he', -, -, -, hsame⟩ := (hwallets _ _).2 _ _ hfirst hrespelled
  obtain rfl := hsame.mpr rfl
  exact ⟨halike, by decide +kernel, (hsettings _ _ halike).1, _, e, hfirst, hrespelled, he, he'⟩

end LocalChain
