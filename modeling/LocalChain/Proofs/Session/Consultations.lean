import LocalChain.Client.Confirmation
import LocalChain.Client.Sending
import LocalChain.Proofs.Session.Exchanges

/-!
# Consultations

Much of what a talk does only looks: it asks the node requests of a few kinds, reports what it
finds, and leaves the counters and the chain of the session alone.  `Talk.Consults` says so, with
the kinds of requests.  A client consults when it reads, when it completes a transaction (its chain
apart), and when it waits for a confirmation.
-/

namespace LocalChain

theorem Session.GrowsBy.unique {σ : Type} {s s' : Session σ} {g h : Growth} (hg : s.GrowsBy g s')
    (hh : s.GrowsBy h s') : g = h := by
  have hasked := hg.asked.symm.trans hh.asked
  have hentered := hg.entered.symm.trans hh.entered
  exact Growth.ext (List.reverse_inj.mp (List.append_cancel_right hasked))
    (List.reverse_inj.mp (List.append_cancel_right hentered))

@[simp] theorem Journal.counted_append (j k : Journal) :
    counted (j ++ k) = counted j ++ counted k :=
  List.filterMap_append

namespace Talk

variable {σ ε ε' α β : Type}

/-- What happens in one session when a talk only looks. -/
structure Consultation (allowed : Request → Prop) (s s' : Session σ) (g : Growth) : Prop where
  grows : s.GrowsBy g s'
  asked : ∀ e ∈ g.asked, allowed e.1
  counted : g.entered.counted = []
  chainId_eq : s'.chainId = s.chainId

/-- In whatever session it starts, the talk asks requests of some kind only, counts nothing, and
leaves the chain as it is. -/
def Consults (t : Talk σ ε α) (allowed : Request → Prop) : Prop :=
  ∀ s, ∃ g, Consultation allowed s (t.runFrom s).2 g

variable {t : Talk σ ε α} {f : α → Talk σ ε β} {allowed : Request → Prop}

theorem Consultation.refl (s : Session σ) : Consultation allowed s s {} :=
  ⟨.refl s, by simp, rfl, rfl⟩

theorem Consultation.trans {s s' s'' : Session σ} {g h : Growth}
    (hg : Consultation allowed s s' g) (hh : Consultation allowed s' s'' h) :
    Consultation allowed s s'' (g ++ h) where
  grows := hg.grows.trans hh.grows
  asked e he := by
    rcases List.mem_append.mp he with he | he
    · exact hg.asked e he
    · exact hh.asked e he
  counted := by rw [Growth.entered_append, Journal.counted_append, hg.counted, hh.counted]; rfl
  chainId_eq := hh.chainId_eq.trans hg.chainId_eq

/-- What holds of a talk holds of what it asks in a consultation. -/
theorem Consults.and {post : Growth → Except ε α → Prop} (ht : t.Consults allowed)
    (hpost : t.Ensures post) (s : Session σ) :
    ∃ g, Consultation allowed s (t.runFrom s).2 g ∧ post g (t.runFrom s).1 := by
  obtain ⟨g, hg⟩ := ht s
  obtain ⟨h, hh, hx⟩ := hpost s
  rw [hh.unique hg.grows] at hx
  exact ⟨g, hg, hx⟩

theorem Consults.pure {a : α} : (pure a : Talk σ ε α).Consults allowed :=
  fun s => ⟨{}, .refl s⟩

theorem Consults.throw {e : ε} : (throw e : Talk σ ε α).Consults allowed :=
  fun s => ⟨{}, .refl s⟩

theorem Consults.bind (ht : t.Consults allowed) (hf : ∀ a, (f a).Consults allowed) :
    (t >>= f).Consults allowed := by
  intro s
  obtain ⟨g, hg⟩ := ht s
  rw [runFrom_bind]
  rcases hrun : t.runFrom s with ⟨e | a, s'⟩
  · rw [hrun] at hg
    exact ⟨g, hg⟩
  · rw [hrun] at hg
    obtain ⟨h, hh⟩ := hf a s'
    exact ⟨g ++ h, hg.trans hh⟩

theorem Consults.mapError {h : ε → ε'} (ht : t.Consults allowed) :
    (t.mapError h).Consults allowed := by
  intro s
  obtain ⟨g, hg⟩ := ht s
  exact ⟨g, hg⟩

theorem Consults.attempt (ht : t.Consults allowed) :
    (t.attempt : Talk σ ε' _).Consults allowed := by
  intro s
  obtain ⟨g, hg⟩ := ht s
  exact ⟨g, hg⟩

theorem consults_ask (node : Node σ) {r : Request} (hr : allowed r) :
    (ask node r : Talk σ ε Answer).Consults allowed :=
  fun s => ⟨{ asked := [(r, (node.answer s.node r).1)] }, ⟨rfl, rfl⟩, by simpa using hr, rfl, rfl⟩

theorem consults_report (e : Event) : (report e : Talk σ ε Unit).Consults allowed :=
  fun _ => ⟨{ entered := [.event e] }, ⟨rfl, rfl⟩, by simp, rfl, rfl⟩

theorem consults_clockMs : (clockMs : Talk σ ε Nat).Consults allowed :=
  fun s => ⟨{}, .refl s⟩

theorem consults_waitUntil (ms : Nat) : (waitUntil ms : Talk σ ε Unit).Consults allowed :=
  fun _ => ⟨{}, ⟨rfl, rfl⟩, by simp, rfl, rfl⟩

theorem consults_get : (get : Talk σ ε (Session σ)).Consults allowed :=
  fun s => ⟨{}, .refl s⟩

theorem consults_ofExcept (x : Except ε α) : (ofExcept x : Talk σ ε α).Consults allowed := by
  cases x with
  | ok a => exact .pure
  | error e => exact .throw

end Talk

namespace Client

open Talk (Consults)

variable {σ ε α : Type} (c : Client σ) {allowed : Request → Prop} {r : Request}

/-! ## Reads -/

theorem consults_reply (hr : allowed r) (decode : Json → Option α) :
    (c.reply r decode : Talk σ ε _).Consults allowed :=
  (Talk.consults_ask c.node hr).bind fun _ => .pure

theorem consults_settle (r : Request) (reply : Option (Except RequestFailure α)) :
    (c.settle r reply).Consults allowed := by
  match reply with
  | some (.ok a) => exact .pure
  | some (.error failure) => exact (Talk.consults_report _).bind fun _ => .throw
  | none =>
    refine Talk.consults_clockMs.bind fun ms => ?_
    refine (Talk.consults_waitUntil _).bind fun _ => ?_
    exact (Talk.consults_report _).bind fun _ => .throw

/-- **A read is a consultation.** -/
theorem consults_read (hr : allowed r) (decode : Json → Option α) :
    (c.read r decode).Consults allowed :=
  (c.consults_reply hr decode).bind fun reply => c.consults_settle r reply

theorem consults_readBefore (hr : allowed r) (limitMs : Nat) (late : ChainError)
    (decode : Json → Option α) : (c.readBefore limitMs late r decode).Consults allowed := by
  refine (c.consults_reply hr decode).bind fun reply => ?_
  match reply with
  | some reply => exact c.consults_settle r _
  | none =>
    refine Talk.consults_clockMs.bind fun ms => ?_
    split
    · exact (Talk.consults_waitUntil _).bind fun _ => .throw
    · exact c.consults_settle r none

/-! ## What is asked for a transaction -/

theorem consults_need (hr : allowed r) (decode : Json → Option α) :
    (c.need r decode).Consults allowed := by
  refine (c.consults_reply hr decode).bind fun reply => ?_
  match reply with
  | some (.ok a) => exact .pure
  | some (.error failure) => exact .throw
  | none => exact .throw

theorem ensures_need (r : Request) (decode : Json → Option α) :
    (c.need r decode).Ensures fun g x =>
      ∃ a, g.asked = [(r, a)] ∧ x.toOption = a.value? decode := by
  refine (c.ensures_reply r decode).bind_ok ?_
  rintro _ _ ⟨a, rfl, rfl⟩
  cases hread : a.read decode with
  | none => exact .throw ⟨a, rfl, by rw [Answer.value?, hread]; rfl⟩
  | some reply =>
    cases reply with
    | ok value => exact .pure ⟨a, rfl, by rw [Answer.value?, hread]; rfl⟩
    | error failure => exact .throw ⟨a, rfl, by rw [Answer.value?, hread]; rfl⟩

theorem consults_takeNonce (hr : ∀ account, allowed (.transactionCount account true)) :
    c.takeNonce.Consults allowed := by
  refine Talk.consults_get.bind fun s => ?_
  have hnext (n : UInt64) : (do
      modify fun s => { s with nextNonce := some (n + 1) }
      return n : Talk σ (Stop ChainError) UInt64).Consults allowed :=
    fun _ => ⟨{}, ⟨rfl, rfl⟩, by simp, rfl, rfl⟩
  cases s.nextNonce with
  | some n => exact hnext n
  | none => exact (c.consults_need (hr _) _).bind hnext

theorem consults_offer (hhistory : allowed .feeHistory) (hblock : allowed .latestBlock) :
    c.offer.Consults allowed := by
  refine (c.consults_need hhistory _).bind fun history => ?_
  cases history.nextBaseFee? with
  | some fee => exact .pure
  | none => exact (c.consults_need hblock _).bind fun _ => .pure

/-- A broadcast looks at nothing, but it counts nothing either. -/
theorem consults_sendRaw {raw : Bytes} (hr : allowed (.sendRaw raw)) :
    (c.sendRaw raw).Consults allowed := by
  refine (c.consults_reply hr _).bind fun reply => ?_
  match reply with
  | some (.ok hash) => exact .pure
  | some (.error failure) => exact .throw
  | none => exact .pure

/-! ## Waiting for a confirmation -/

theorem consults_look {hash : TxHash} (hreceipt : allowed (.receipt hash))
    (hblock : allowed .blockNumber) (limitMs : Nat) : (c.look hash limitMs).Consults allowed := by
  refine (c.consults_readBefore hreceipt _ _ _).bind fun r => ?_
  cases r with
  | none => exact .pure
  | some r =>
    dsimp only
    split
    · exact .throw
    · split
      · exact .pure
      · exact (c.consults_readBefore hblock _ _ _).bind fun _ => .pure

theorem consults_lookUntil {hash : TxHash} (hreceipt : allowed (.receipt hash))
    (hblock : allowed .blockNumber) (limitMs looks : Nat) :
    (c.lookUntil hash limitMs looks).Consults allowed := by
  induction looks with
  | zero => exact (Talk.consults_waitUntil _).bind fun _ => .throw
  | succ looks ih =>
    refine Talk.consults_clockMs.bind fun ms => ?_
    refine (c.consults_look hreceipt hblock limitMs).bind fun r => ?_
    cases r with
    | some r => exact .pure
    | none =>
      dsimp only
      split
      · exact (Talk.consults_waitUntil _).bind fun _ => ih
      · exact ih

/-- **A wait for a confirmation is a consultation** about the receipt and the last block. -/
theorem consults_confirm {hash : TxHash} (hreceipt : allowed (.receipt hash))
    (hblock : allowed .blockNumber) : (c.confirm hash).Consults allowed := by
  rw [confirm]
  split
  · exact .throw
  · refine Talk.consults_clockMs.bind fun ms => ?_
    exact (c.consults_lookUntil hreceipt hblock _ _).mapError

end Client
end LocalChain
