import LocalChain.Client.Connection
import LocalChain.Proofs.Session.Broadcasts
import LocalChain.Proofs.Session.Consultations
import LocalChain.Settings.Validation

/-!
# Connecting

A run connects before it does anything else.  It asks nothing without a wallet or with a text that
is no URL, and otherwise asks once which chain the node serves; it has a connection exactly when
the answer names a chain, and the configured one if there is one (`ensures_connect`).  It counts
nothing, and what it learns of the chain is forgotten for later transactions (`forgets_connect`).
-/

namespace LocalChain

/-- The chain that an answer names, if it will do. -/
def RpcSettings.acceptedChain? (r : RpcSettings) (a : Answer) : Option UInt64 :=
  (a.value? Quantity.word64?).filter fun id => r.chainId.all (· = id)

variable {σ ε : Type}

/-- What is known to be had is had. -/
theorem eq_ok_of_toOption {α : Type} {x : Except ε α} {a : α} (h : x.toOption = some a) :
    x = .ok a := by
  cases x with
  | ok b => rw [Option.some_inj.mp h]
  | error e => cases h

/-- The client that settings describe, when they have a wallet and a URL. -/
def Settings.client? (node : Node σ) (s : Settings) : Option (Client σ) :=
  if isNoUrl s.rpc.url then none
  else s.account.wallet.toOption.map fun w => ⟨node, s.rpc, w⟩

theorem Settings.client?_of_no_wallet (node : Node σ) {s : Settings} {e : ChainError}
    (h : s.account.wallet = .error e) : s.client? node = none := by
  rw [client?, h]
  exact ite_self none

namespace Client

theorem ensures_forget :
    (forget : Talk σ ε Unit).Ensures fun g x => ∃ a, x = .ok a ∧ g = {} :=
  fun _ => ⟨{}, ⟨rfl, rfl⟩, _, rfl, rfl⟩

/-- **The chain is asked for once**, and given when it will do. -/
theorem ensures_resolveChainId (c : Client σ) :
    c.resolveChainId.Ensures fun g x =>
      ∃ a, g.asked = [(.chainId, a)] ∧ x.toOption = c.settings.acceptedChain? a := by
  refine (c.ensures_read _ _).bind ?_ ?_
  · rintro g id ⟨a, hasked, hid⟩
    have haccepted : c.settings.acceptedChain? a =
        if c.settings.chainId.all (· = id) then some id else none := by
      rw [RpcSettings.acceptedChain?, ← hid]
      rfl
    have hreport (hall : c.settings.chainId.all (· = id) = true) :
        (do Talk.report (.connected c.settings.url id); pure id : Talk σ ChainError _).Ensures
          fun h x => ∃ a, (g ++ h).asked = [(.chainId, a)] ∧
            x.toOption = c.settings.acceptedChain? a := by
      refine (Talk.ensures_report _).bind_ok ?_
      rintro _ _ rfl
      refine .pure ⟨a, by simp [hasked], ?_⟩
      rw [haccepted, if_pos hall]
      rfl
    -- without an expected chain every chain will do
    cases hexpected : c.settings.chainId with
    | none => exact hreport (by rw [hexpected]; rfl)
    | some expected =>
      by_cases hne : id ≠ expected
      · have hrefused : c.settings.acceptedChain? a = none := by
          rw [haccepted, hexpected]
          exact if_neg (by simpa using Ne.symm hne)
        simp only [if_pos hne]
        exact .throw ⟨a, by simpa using hasked, hrefused.symm⟩
      · simp only [if_neg hne]
        exact hreport (by rw [hexpected]; simpa using (Decidable.of_not_not hne).symm)
  · rintro g e ⟨a, hasked, he⟩
    exact ⟨a, hasked, by rw [RpcSettings.acceptedChain?, ← he]; rfl⟩

end Client

namespace Connection

theorem ensures_loadWallet (a : AccountSettings) :
    (loadWallet a : Talk σ ChainError _).Ensures fun g x => g.asked = [] ∧ x = a.wallet := by
  refine (Talk.ensures_ofExcept a.wallet).bind ?_ ?_
  · rintro _ w ⟨hw, rfl⟩
    refine (Talk.ensures_report _).bind_ok ?_
    rintro _ _ rfl
    exact .pure ⟨rfl, hw⟩
  · rintro _ e ⟨he, rfl⟩
    exact ⟨rfl, he⟩

theorem toOption_create (node : Node σ) (r : RpcSettings) (w : Wallet) :
    (Client.create node r w).toOption =
      if Settings.isNoUrl r.url then none else some ⟨node, r, w⟩ := by
  rw [Client.create, Settings.isNoUrl]
  cases Url.parse r.url <;> rfl

/-- A client is made without a request. -/
theorem ensures_openClient (node : Node σ) (s : Settings) :
    (openClient node s).Ensures fun g x => g.asked = [] ∧ x.toOption = s.client? node := by
  refine (ensures_loadWallet s.account).bind ?_ ?_
  · rintro g w ⟨hasked, hw⟩
    rw [Settings.client?, ← hw]
    refine (Talk.ensures_ofExcept _).bind ?_ ?_
    · rintro _ client ⟨hclient, rfl⟩
      refine Client.ensures_forget.bind_ok ?_
      rintro _ _ rfl
      exact .pure ⟨by simpa using hasked, hclient ▸ toOption_create node s.rpc w⟩
    · rintro _ e ⟨he, rfl⟩
      exact ⟨by simpa using hasked, he ▸ toOption_create node s.rpc w⟩
  · rintro g e ⟨hasked, he⟩
    rw [Settings.client?, ← he]
    exact ⟨hasked, (ite_self none).symm⟩

/-- **Connecting is one request at most**: none without a client, and otherwise the one for the
chain.  There is a connection when the answer will do. -/
theorem ensures_connect (node : Node σ) (s : Settings) :
    (connect node s).Ensures fun g x =>
      match s.client? node with
      | none => g.asked = [] ∧ x.toOption = none
      | some client =>
        ∃ a, g.asked = [(.chainId, a)] ∧
          x.toOption = (client.settings.acceptedChain? a).map fun id => ⟨client, id⟩ := by
  refine (ensures_openClient node s).bind ?_ ?_
  · rintro g client ⟨hasked, hclient⟩
    rw [← hclient]
    refine client.ensures_resolveChainId.bind ?_ ?_
    · rintro h id ⟨a, ha, hid⟩
      refine .pure ⟨a, by simp [hasked, ha], ?_⟩
      rw [← hid]
      rfl
    · rintro h e ⟨a, ha, he⟩
      refine ⟨a, by simp [hasked, ha], ?_⟩
      rw [← he]
      rfl
  · rintro g e ⟨hasked, he⟩
    rw [← he]
    exact ⟨hasked, rfl⟩

/-- Connecting is quiet, and gives a connection with the configured node and account. -/
theorem ensures_connect_client (node : Node σ) {s : Settings} {w : Wallet}
    (hwallet : s.account.wallet = .ok w) :
    (connect node s).Ensures fun g x =>
      g.asked.broadcasts = [] ∧ ∀ c ∈ x.toOption, c.client = ⟨node, s.rpc, w⟩ := by
  refine (ensures_connect node s).mono ?_
  intro g x hx
  by_cases hurl : Settings.isNoUrl s.rpc.url = true
  · rw [Settings.client?, if_pos hurl] at hx
    obtain ⟨hasked, hnone⟩ := hx
    rw [hasked, hnone]
    exact ⟨rfl, fun c hc => nomatch hc⟩
  · rw [Settings.client?, if_neg hurl, hwallet] at hx
    obtain ⟨a, hasked, hc⟩ := hx
    rw [hasked, hc]
    refine ⟨rfl, fun c hmem => ?_⟩
    obtain ⟨id, -, rfl⟩ := Option.map_eq_some_iff.mp hmem
    rfl

end Connection

/-! ## What a new connection knows -/

namespace Talk

variable {α β : Type}

/-- The talk counts nothing, and leaves a session that knows no chain if it ends with a value. -/
def Forgets (t : Talk σ ε α) : Prop :=
  ∀ s, ∃ g, s.GrowsBy g (t.runFrom s).2 ∧ g.entered.counted = [] ∧
    ∀ a, (t.runFrom s).1 = .ok a → (t.runFrom s).2.chainId = none

variable {t : Talk σ ε α} {f : α → Talk σ ε β} {allowed : Request → Prop}

theorem Forgets.throw {e : ε} : (throw e : Talk σ ε α).Forgets :=
  fun s => ⟨{}, .refl s, rfl, by rintro _ ⟨⟩⟩

theorem forgets_forget : (Client.forget : Talk σ ε Unit).Forgets :=
  fun _ => ⟨{}, ⟨rfl, rfl⟩, rfl, fun _ _ => rfl⟩

/-- What only looks before a chain is forgotten does not matter. -/
theorem Consults.bind_forgets (ht : t.Consults allowed) (hf : ∀ a, (f a).Forgets) :
    (t >>= f).Forgets := by
  intro s
  obtain ⟨g, hg⟩ := ht s
  rw [runFrom_bind]
  rcases hrun : t.runFrom s with ⟨e | a, s'⟩
  · rw [hrun] at hg
    exact ⟨g, hg.grows, hg.counted, by rintro _ ⟨⟩⟩
  · rw [hrun] at hg
    obtain ⟨h, hh, hcounted, hknown⟩ := hf a s'
    refine ⟨g ++ h, hg.grows.trans hh, ?_, hknown⟩
    rw [Growth.entered_append, Journal.counted_append, hg.counted, hcounted, List.append_nil]

/-- What only looks afterwards does not bring the chain back. -/
theorem Forgets.bind_consults (ht : t.Forgets) (hf : ∀ a, (f a).Consults allowed) :
    (t >>= f).Forgets := by
  intro s
  obtain ⟨g, hg, hcounted, hknown⟩ := ht s
  rw [runFrom_bind]
  rcases hrun : t.runFrom s with ⟨e | a, s'⟩
  · rw [hrun] at hg
    exact ⟨g, hg, hcounted, by rintro _ ⟨⟩⟩
  · rw [hrun] at hg hknown
    obtain ⟨h, hh⟩ := hf a s'
    refine ⟨g ++ h, hg.trans hh.grows, ?_, fun _ _ => hh.chainId_eq.trans (hknown a rfl)⟩
    rw [Growth.entered_append, Journal.counted_append, hcounted, hh.counted, List.append_nil]

end Talk

theorem Client.consults_resolveChainId (c : Client σ) :
    c.resolveChainId.Consults (· = .chainId) := by
  have hread : (c.read .chainId Quantity.word64?).Consults (· = .chainId) :=
    c.consults_read (by rfl) _
  refine hread.bind fun id => ?_
  have hreport : (do Talk.report (.connected c.settings.url id); pure id :
      Talk σ ChainError _).Consults (· = .chainId) :=
    (Talk.consults_report _).bind fun _ => .pure
  cases c.settings.chainId with
  | none => exact hreport
  | some expected =>
    dsimp only
    split
    · exact .throw
    · exact hreport

namespace Connection

theorem consults_loadWallet (a : AccountSettings) :
    (loadWallet a : Talk σ ChainError _).Consults (· = .chainId) :=
  (Talk.consults_ofExcept _).bind fun _ => (Talk.consults_report _).bind fun _ => .pure

/-- **A new connection knows no chain**: the chain that was asked for is not kept for the
transactions that name none. -/
theorem forgets_connect (node : Node σ) (s : Settings) : (connect node s).Forgets := by
  have hopen : (openClient node s).Forgets := by
    refine (consults_loadWallet s.account).bind_forgets fun w => ?_
    cases Client.create node s.rpc w with
    | error e => exact .throw
    | ok client =>
      have hforget : (do Client.forget; pure client : Talk σ ChainError _).Forgets :=
        Talk.forgets_forget.bind_consults fun _ =>
          (.pure : (pure client : Talk σ ChainError _).Consults (· = .chainId))
      exact hforget
  exact hopen.bind_consults fun client => client.consults_resolveChainId.bind fun id => .pure

end Connection
end LocalChain
