import LocalChain.Client.Basic
import LocalChain.Proofs.Text.Spelling

/-!
# What a node writes is read

Numbers, bytes, digests and receipts have one form in which a node writes them, and each is read back as
what it was (`Quantity.word64?_toJson`, `Quantity.bytes?_ofBytes`, `TxHash.ofJson?_text`,
`Receipt.ofJson?_toJson`).  A receipt is never null, so the answer null can only mean that there is none
(`Receipt.ofAnswer?_eq_some_none_iff`).
-/

namespace LocalChain

namespace Quantity

/-! ## Numbers -/

theorem mapM_digit?_char {ds : List Nat} (hds : ∀ d ∈ ds, d < 16) :
    (ds.map Digits.char).mapM Hex.digit? = some ds := by
  induction ds with
  | nil => rfl
  | cons d ds ih =>
    obtain ⟨hd, hds⟩ := List.forall_mem_cons.mp hds
    rw [List.map_cons, List.mapM_cons, Hex.digit?_char hd, ih hds]
    rfl

theorem ofDigits?_char {ds : List Nat} (hds : ∀ d ∈ ds, d < 16) :
    ofDigits? 16 (ds.map Digits.char) = some (Digits.value 16 ds) := by
  have hall : ds.all (· < 16) = true := List.all_eq_true.mpr fun d hd => decide_eq_true (hds d hd)
  rw [ofDigits?, mapM_digit?_char hds]
  simp only [Option.bind_eq_bind, Option.bind_some, hall, guard_true, Option.pure_def]

/-- The digits of a number as it is written. -/
theorem exists_digits (n : Nat) : ∃ ds, text n = String.ofList ('0' :: 'x' :: ds.map Digits.char) ∧
    (∀ d ∈ ds, d < 16) ∧ Digits.value 16 ds = n := by
  refine ⟨_, rfl, ?_⟩
  split
  · rename_i hzero
    subst hzero
    simp [Digits.value]
  · exact ⟨fun d hd => Digits.lt_of_mem_above (by decide) (by simp) hd,
      Digits.value_shortest (by decide) n⟩

/-- **A number that fits is read as it is written.** -/
theorem ofJson?_toJson {bits n : Nat} (hn : n < 2 ^ bits) : ofJson? bits (toJson n) = some n := by
  obtain ⟨ds, htext, hds, rfl⟩ := exists_digits n
  simp [ofJson?, toJson, htext, ofDigits?_char hds, hn]

theorem word64?_toJson (w : UInt64) : word64? (toJson w.toNat) = some w := by
  rw [word64?, ofJson?_toJson w.toNat_lt, Option.map_some, UInt64.ofNat_toNat]

/-! ## Bytes -/

theorem bytes?_ofBytes (bs : Bytes) : bytes? (ofBytes bs) = some bs := by
  have hdigits : Hex.AreDigits (Hex.encode bs) (bs.flatMap Hex.halves) := by
    rw [Hex.encode_eq_map, Hex.AreDigits, List.forall₂_map_left_iff, List.forall₂_same]
    exact fun d hd => Hex.digit?_char (Hex.lt_of_mem_halves hd)
  have hspells : Hex.Spells (Hex.dropMark ('0' :: 'x' :: Hex.encode bs)) bs :=
    Hex.spells_iff.mpr hdigits
  rw [ofBytes, bytes?, Hex.text, String.toList_ofList, Hex.decode_eq_ok_iff.mpr hspells]

end Quantity

/-! ## Digests and addresses -/

theorem TxHash.ofJson?_text (h : TxHash) : ofJson? (.str h.text) = some h := by
  rw [ofJson?, h.parse_text]

theorem Address.ofJson?_text (a : Address) : ofJson? (.str a.text) = some a := by
  rw [ofJson?, a.parse_text]

/-! ## Receipts -/

namespace Receipt

/-- A member that is a text, or null when there is nothing, is read as what there is. -/
theorem optional?_of_get? {α : Type} {read : Json → Option α} {text : α → String} {key : String}
    {j : Json} {a : Option α} (hread : ∀ a, read (.str (text a)) = some a)
    (hget : j.get? key = some (a.elim .null fun a => .str (text a))) :
    optional? read key j = some a := by
  rw [optional?, hget]
  cases a with
  | none => rfl
  | some a =>
    show (read (.str (text a))).map some = _
    rw [hread, Option.map_some]

/-- **A receipt is read as it is written.** -/
theorem ofJson?_toJson (r : Receipt) : ofJson? r.toJson = some r := by
  have hstatus : r.toJson.get? "status" = some (Quantity.toJson r.succeeded.toNat) := rfl
  have hflag : Quantity.ofJson? 64 (Quantity.toJson r.succeeded.toNat) =
      some r.succeeded.toNat :=
    Quantity.ofJson?_toJson (r.succeeded.toNat_le.trans_lt (by norm_num))
  have hblock : optional? Quantity.word64? "blockNumber" r.toJson = some r.block :=
    optional?_of_get? Quantity.word64?_toJson rfl
  have hcontract : optional? Address.ofJson? "contractAddress" r.toJson = some r.contract :=
    optional?_of_get? Address.ofJson?_text rfl
  have hgas : r.toJson.get? "gasUsed" = some (Quantity.toJson r.gasUsed.toNat) := rfl
  have hhash : r.toJson.get? "transactionHash" = some (.str r.hash.text) := rfl
  simp [ofJson?, hstatus, hflag, hblock, hcontract, hgas, hhash, Quantity.word64?_toJson,
    TxHash.ofJson?_text]

theorem ofAnswer?_eq_some_none_iff {j : Json} : ofAnswer? j = some none ↔ j = .null := by
  cases j <;> simp [ofAnswer?]

/-- So is the answer that tells of it. -/
theorem ofAnswer?_write (r : Option Receipt) : ofAnswer? (r.elim .null toJson) = some r := by
  cases r with
  | none => rfl
  | some r => rw [Option.elim, show ofAnswer? r.toJson = (ofJson? r.toJson).map some from rfl,
      ofJson?_toJson, Option.map_some]

end Receipt
end LocalChain
