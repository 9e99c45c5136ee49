import LocalChain.Proofs.Session.Broadcasts

/-!
# The ledger of a transcript

Which broadcasts were confirmed, and by which receipts, can be read off a transcript.  After a
broadcast, and up to the next one, the looks for its receipt are gone through: the first that finds
the receipt of a transaction that succeeded, with enough blocks after it, confirms the broadcast
(`Transcript.confirmation?`).  The ledger has one entry for each broadcast (`Transcript.ledger`).

A wait for a confirmation ends with the receipt that the ledger shows, and with none only if the
ledger shows none (`Client.ensures_confirm_settles`).  So what a program makes of its waits can be
compared with what the node said.
-/

namespace LocalChain

namespace Transcript

/-- The receipt by which a transcript begins that confirms a transaction.  When blocks must follow,
the number of the last block comes next, and there are so many. -/
def confirmedFirst? (required : Nat) (hash : TxHash) : Transcript → Option Receipt
  | (.receipt h, a) :: rest =>
    match a.value? Receipt.ofAnswer? with
    | some (some r) =>
      if h ≠ hash ∨ r.succeeded = false then none
      else if required = 0 then some r
      else
        match rest with
        | (.blockNumber, b) :: _ =>
          (b.value? Quantity.word64?).bind fun last =>
            if required ≤ r.confirmations last then some r else none
        | _ => none
    | _ => none
  | _ => none

/-- The receipt that confirms a transaction, before anything else is broadcast. -/
def confirmation? (required : Nat) (hash : TxHash) : Transcript → Option Receipt
  | [] => none
  | (.sendRaw _, _) :: _ => none
  | e :: rest => (confirmedFirst? required hash (e :: rest)).or (confirmation? required hash rest)

/-- The broadcasts in order, each with the receipt that confirms it, if there is one. -/
def ledger (required : Nat) : Transcript → List (Bytes × Option Receipt)
  | [] => []
  | (.sendRaw raw, answer) :: rest =>
    (raw, (answer.value? TxHash.ofJson?).bind fun hash => confirmation? required hash rest) ::
      ledger required rest
  | _ :: rest => ledger required rest

end Transcript

/-- The request is neither a broadcast nor a look for a receipt. -/
def Request.isPlain : Request → Bool
  | sendRaw _ | receipt _ => false
  | _ => true

/-- No request is a broadcast or a look for a receipt. -/
def Transcript.Plain (h : Transcript) : Prop :=
  ∀ e ∈ h, e.1.isPlain = true

namespace Transcript

variable {required : Nat} {hash : TxHash} {g h k : Transcript} {e : Exchange}

theorem Plain.nil : Plain [] := by
  simp [Plain]

theorem Plain.append (hg : Plain g) (hh : Plain h) : Plain (g ++ h) := by
  intro e he
  rcases List.mem_append.mp he with he | he
  · exact hg e he
  · exact hh e he

theorem Plain.singleton (he : e.1.isPlain = true) : Plain [e] := by
  simpa [Plain] using he

/-! ## The ledger of a longer transcript -/

theorem confirmation?_cons_of_quiet (he : e.1.raw? = none) :
    confirmation? required hash (e :: k) =
      (confirmedFirst? required hash (e :: k)).or (confirmation? required hash k) := by
  obtain ⟨r, a⟩ := e
  cases r with
  | sendRaw => cases he
  | _ => rfl

theorem confirmation?_cons_of_plain (he : e.1.isPlain = true) :
    confirmation? required hash (e :: k) = confirmation? required hash k := by
  obtain ⟨r, a⟩ := e
  cases r with
  | sendRaw | receipt => cases he
  | _ => rfl

theorem ledger_cons_of_quiet (he : e.1.raw? = none) :
    ledger required (e :: k) = ledger required k := by
  obtain ⟨r, a⟩ := e
  cases r with
  | sendRaw => cases he
  | _ => rfl

/-- **What is no broadcast leaves no entry.** -/
theorem ledger_append_of_quiet (hg : g.broadcasts = []) :
    ledger required (g ++ k) = ledger required k := by
  induction g with
  | nil => rfl
  | cons e g ih =>
    rw [broadcasts_cons, List.append_eq_nil_iff] at hg
    obtain ⟨he, hrest⟩ := hg
    rw [List.cons_append, ledger_cons_of_quiet (by simpa using he), ih hrest]

theorem Plain.quiet (hg : Plain g) : g.broadcasts = [] := by
  refine List.filterMap_eq_nil_iff.mpr fun e he => ?_
  have hplain := hg e he
  obtain ⟨r, a⟩ := e
  cases r with
  | sendRaw | receipt => cases hplain
  | _ => rfl

/-- **A broadcast leaves one entry**, with the receipt that the exchanges after it confirm. -/
theorem ledger_broadcast {raw : Bytes} {answer : Answer} (hg : g.broadcasts = []) :
    ledger required (g ++ (.sendRaw raw, answer) :: k) =
      (raw, (answer.value? TxHash.ofJson?).bind fun hash => confirmation? required hash k) ::
        ledger required k := by
  rw [ledger_append_of_quiet hg]
  rfl

/-- Exchanges that confirm one receipt, or nothing, whatever comes after them. -/
structure Settles (required : Nat) (hash : TxHash) (g : Transcript) (receipt : Option Receipt) :
    Prop where
  quiet : g.broadcasts = []
  confirms : ∀ k, confirmation? required hash (g ++ k) =
    receipt.or (confirmation? required hash k)

/-- Exchanges that confirm nothing take nothing from those that follow. -/
theorem Settles.append {receipt : Option Receipt} (hg : Settles required hash g none)
    (hh : Settles required hash h receipt) : Settles required hash (g ++ h) receipt where
  quiet := broadcasts_append_eq_nil hg.quiet hh.quiet
  confirms k := by rw [List.append_assoc, hg.confirms, hh.confirms, Option.none_or]

theorem Plain.settles (hg : Plain g) : Settles required hash g none := by
  refine ⟨hg.quiet, fun k => ?_⟩
  rw [Option.none_or]
  induction g with
  | nil => rfl
  | cons e g ih =>
    obtain ⟨he, hrest⟩ := List.forall_mem_cons.mp hg
    rw [List.cons_append, confirmation?_cons_of_plain he, ih hrest]

theorem Plain.confirmation?_eq_none (hg : Plain g) : confirmation? required hash g = none := by
  have hsettles : Settles required hash g none := hg.settles
  have hnone := hsettles.confirms []
  rwa [List.append_nil] at hnone

theorem Plain.ledger_eq_nil (hg : Plain g) : ledger required g = [] := by
  have hnone : ledger required (g ++ []) = ledger required [] := ledger_append_of_quiet hg.quiet
  rwa [List.append_nil] at hnone

/-- **A settled broadcast leaves its entry**, whatever is asked after it. -/
theorem ledger_settled {raw : Bytes} {answer : Answer} {receipt : Option Receipt}
    (hg : g.broadcasts = []) (hname : answer.value? TxHash.ofJson? = some hash)
    (hh : Settles required hash h receipt) :
    ledger required (g ++ (.sendRaw raw, answer) :: (h ++ k)) =
      (raw, receipt.or (confirmation? required hash k)) :: ledger required k := by
  rw [ledger_broadcast hg, hname, Option.bind_some, hh.confirms, ledger_append_of_quiet hh.quiet]

/-! ## Looks for a receipt -/

/-- A look for the receipt, with what is asked because of it, settles what it confirms. -/
theorem settles_of_confirmedFirst? {a : Answer} {rest : Transcript} {receipt : Option Receipt}
    (hrest : Plain rest)
    (hfirst : ∀ k, confirmedFirst? required hash ((.receipt hash, a) :: (rest ++ k)) = receipt) :
    Settles required hash ((.receipt hash, a) :: rest) receipt := by
  have hsettles : Settles required hash rest none := hrest.settles
  refine ⟨?_, fun k => ?_⟩
  · rw [broadcasts_cons, hsettles.quiet]
    rfl
  · rw [List.cons_append, confirmation?_cons_of_quiet rfl, hfirst, hsettles.confirms,
      Option.none_or]

variable {a : Answer} {r : Receipt}

/-- A look that finds no receipt of a transaction that succeeded confirms nothing. -/
theorem settles_nothing
    (ha : ∀ r, a.value? Receipt.ofAnswer? = some (some r) → r.succeeded = false) :
    Settles required hash [(.receipt hash, a)] none := by
  refine settles_of_confirmedFirst? .nil fun k => ?_
  rw [confirmedFirst?]
  cases hvalue : a.value? Receipt.ofAnswer? with
  | none => rfl
  | some found =>
    cases found with
    | none => rfl
    | some r => exact if_pos (.inr (ha r hvalue))

/-- Without blocks to wait for, the receipt of a transaction that succeeded confirms it. -/
theorem settles_at_once (ha : a.value? Receipt.ofAnswer? = some (some r))
    (hsucceeded : r.succeeded = true) : Settles 0 hash [(.receipt hash, a)] (some r) := by
  refine settles_of_confirmedFirst? .nil fun k => ?_
  simp [confirmedFirst?, ha, hsucceeded]

/-- With blocks to wait for, the number of the last block decides. -/
theorem settles_counted (hrequired : required ≠ 0)
    (ha : a.value? Receipt.ofAnswer? = some (some r)) (hsucceeded : r.succeeded = true)
    (b : Answer) :
    Settles required hash [(.receipt hash, a), (.blockNumber, b)]
      ((b.value? Quantity.word64?).bind fun last =>
        if required ≤ r.confirmations last then some r else none) := by
  refine settles_of_confirmedFirst? (.singleton rfl) fun k => ?_
  simp [confirmedFirst?, ha, hsucceeded, hrequired]

end Transcript

/-! ## Waits and the ledger -/

namespace Client

open Transcript (Settles)

variable {σ : Type} (c : Client σ)

/-- **A look ends with the receipt that it confirms**, and without one if it confirms none. -/
theorem ensures_look_settles (hash : TxHash) (limitMs : Nat) :
    (c.look hash limitMs).Ensures fun g x =>
      Settles c.settings.confirmationBlocks.toNat hash g.asked x.toOption.join := by
  refine (c.ensures_readBefore _ _ _ _).bind ?_ ?_
  · rintro g found ⟨a, hasked, ha⟩
    replace ha : a.value? Receipt.ofAnswer? = some found := ha.symm
    cases found with
    | none =>
      refine .pure ?_
      rw [Growth.append_empty, hasked]
      exact Transcript.settles_nothing (by simp [ha])
    | some r =>
      dsimp only
      split
      · rename_i hfailed
        refine .throw ?_
        rw [Growth.append_empty, hasked]
        exact Transcript.settles_nothing (by simpa [ha] using hfailed)
      · rename_i hsucceeded
        replace hsucceeded : r.succeeded = true := by simpa using hsucceeded
        split
        · rename_i hrequired
          refine .pure ?_
          rw [Growth.append_empty, hasked, hrequired]
          exact Transcript.settles_at_once ha hsucceeded
        · rename_i hrequired
          have hcounted (b : Answer) : Transcript.Settles _ hash _ _ :=
            Transcript.settles_counted hrequired ha hsucceeded b
          refine (c.ensures_readBefore _ _ _ _).bind ?_ ?_
          · rintro h last ⟨b, hasked', hb⟩
            refine .pure ?_
            rw [Growth.append_empty, Growth.asked_append, hasked, hasked']
            have hsettles := hcounted b
            rwa [← hb] at hsettles
          · rintro h e ⟨b, hasked', hb⟩
            rw [Growth.asked_append, hasked, hasked']
            have hsettles := hcounted b
            rwa [← hb] at hsettles
  · rintro g e ⟨a, hasked, ha⟩
    rw [hasked]
    exact Transcript.settles_nothing (by rw [← ha]; rintro r ⟨⟩)

theorem ensures_lookUntil_settles (hash : TxHash) (limitMs looks : Nat) :
    (c.lookUntil hash limitMs looks).Ensures fun g x =>
      Settles c.settings.confirmationBlocks.toNat hash g.asked x.toOption := by
  induction looks with
  | zero =>
    refine (Talk.ensures_waitUntil _).bind_ok ?_
    rintro _ _ rfl
    exact .throw Transcript.Plain.nil.settles
  | succ looks ih =>
    refine Talk.ensures_clockMs.bind_ok ?_
    rintro _ ms rfl
    refine (c.ensures_look_settles hash limitMs).bind ?_ fun g e hg => hg
    rintro g (_ | r) hg
    · -- a look that confirms nothing is followed by the others
      have hagain : (c.lookUntil hash limitMs looks).Ensures fun h x =>
          Settles c.settings.confirmationBlocks.toNat hash (g ++ h).asked x.toOption :=
        ih.mono fun h x hh => hg.append hh
      dsimp only
      split
      · refine (Talk.ensures_waitUntil _).bind_ok ?_
        rintro _ _ rfl
        exact hagain
      · exact hagain
    · exact .pure (by rw [Growth.append_empty]; exact hg)

/-- **A wait for a confirmation ends with the receipt that the ledger shows**, and without one only
if the ledger shows none. -/
theorem ensures_confirm_settles (hash : TxHash) :
    (c.confirm hash).Ensures fun g x =>
      Settles c.settings.confirmationBlocks.toNat hash g.asked x.toOption := by
  rw [confirm]
  split
  · exact .throw Transcript.Plain.nil.settles
  · refine Talk.ensures_clockMs.bind_ok ?_
    rintro _ ms rfl
    exact Talk.Ensures.mapError_toOption
      (fun g => Settles c.settings.confirmationBlocks.toNat hash g.asked)
      (c.ensures_lookUntil_settles hash _ _)

end Client
end LocalChain
