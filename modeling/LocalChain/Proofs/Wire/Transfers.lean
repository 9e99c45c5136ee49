import LocalChain.Client.Connection
import LocalChain.Proofs.Wire.Canonical
import LocalChain.Proofs.Wire.Transactions

/-!
# Transfers as they are sent

A transfer is signed as a transaction that has the fields of the transfer, the price of gas and the
chain of the connection, and nothing else (`Connection.signTransfer_eq`).  The bytes are a list of
nine items in the one form that such a list has, and what is read from them is that transaction
(`signTransfer_readable`).  So the bytes tell every field: no two transfers share them.

The signature is the key's own.  All that is used of it is that both of its numbers are below the
order of the curve, which its type says.
-/

namespace LocalChain

variable {σ : Type}

/-- The transaction of a transfer, at one price of gas and for one chain: without input. -/
def Transfer.transaction (t : Transfer) (chainId : UInt64) (price : Price) : Transaction where
  nonce := t.nonce
  gasLimit := t.gasLimit
  destination := .call t.recipient
  value := t.value
  input := []
  fee := .legacy (some chainId) price

/-- The transaction tells the transfer, its price and its chain. -/
theorem Transfer.transaction_inj {t t' : Transfer} {chainId chainId' : UInt64}
    {price price' : Price}
    (h : t.transaction chainId price = t'.transaction chainId' price') :
    chainId = chainId' ∧ price = price' ∧ t = t' := by
  obtain ⟨recipient, value, gasLimit, nonce⟩ := t
  obtain ⟨recipient', value', gasLimit', nonce'⟩ := t'
  simp only [transaction, Transaction.mk.injEq, Destination.call.injEq, Fee.legacy.injEq,
    Option.some.injEq] at h
  obtain ⟨hnonce, hgas, hrecipient, hvalue, -, hchain, hprice⟩ := h
  exact ⟨hchain, hprice, by rw [hnonce, hgas, hrecipient, hvalue]⟩

/-- A transfer can always be signed, and its transaction has nothing that the transfer does not
say. -/
theorem Connection.signTransfer_eq (c : Connection σ) (price : Price) (t : Transfer) :
    c.signTransfer price t = .ok ((t.transaction c.chainId price).sign c.client.wallet.key) := by
  simp [Connection.signTransfer, TxRequest.sign, TxRequest.prepare, TxRequest.build?,
    TxRequest.fee?, TxRequest.transfer, Connection.account, Except.map, Transfer.transaction]

/-- **A signed transfer carries what was asked for.**  It can always be signed.  Its bytes are the
only ones that are read as the list of its nine items, and nothing may follow them.  A node reads
from them the nonce, the price, the limit, the recipient, the value, no input and the chain, which
the number of the signature tells without leaving its 128 bits.  Whatever else is signed to the
same bytes is the same transfer, at the same price and for the same chain. -/
theorem Connection.signTransfer_readable (c : Connection σ) (price : Price) (t : Transfer) :
    ∃ (raw : Bytes) (g : Signature),
      let v := 35 + 2 * c.chainId.toNat + g.odd.toNat
      let items : List Rlp :=
        [.ofNat t.nonce.toNat, .ofNat price.toNat, .ofNat t.gasLimit.toNat,
          .bytes t.recipient.bytes, .ofNat t.value.toNat, .bytes [], .ofNat v, .ofNat g.r,
          .ofNat g.s]
      c.signTransfer price t = .ok raw ∧
      v < 2 ^ 128 ∧
      (∀ bs, Rlp.decode bs = some (.list items) ↔ bs = raw) ∧
      (∀ extra, extra ≠ [] → Rlp.decode (raw ++ extra) = none) ∧
      Transaction.decode raw = some
        { transaction :=
            { nonce := t.nonce, gasLimit := t.gasLimit, destination := .call t.recipient
              value := t.value, input := [], fee := .legacy (some c.chainId) price }
          odd := g.odd, r := g.r, s := g.s } ∧
      ∀ (c' : Connection σ) (price' : Price) (t' : Transfer),
        c'.signTransfer price' t' = .ok raw →
          c'.chainId = c.chainId ∧ price' = price ∧ t' = t := by
  let transaction := t.transaction c.chainId price
  let g := c.client.wallet.key.sign (Keccak.hash transaction.signingForm)
  have hsigned : c.signTransfer price t = .ok (transaction.signedForm g) :=
    c.signTransfer_eq price t
  have hlength : (transaction.signedForm g).length < 2 ^ 64 :=
    transaction.length_signedForm_lt g (Nat.two_pow_pos 32)
  refine ⟨transaction.signedForm g, g, hsigned, transaction.parityNumber_lt g.odd, ?_, ?_, ?_, ?_⟩
  · -- with one price of gas the form is that of the list of items, and nothing else
    intro bs
    constructor
    · intro hread
      exact Rlp.eq_encode_of_decode hread
    · rintro rfl
      exact Rlp.decode_encode hlength
  · intro extra hextra
    exact Rlp.decode_encode_append hlength hextra
  · exact transaction.decode_signedForm g hlength
  · intro c' price' t' hsame
    rw [c'.signTransfer_eq] at hsame
    have hbytes := Except.ok.inj hsame
    have htransaction : t'.transaction c'.chainId price' = transaction := by
      refine (Transaction.eq_of_sign_eq ?_ (hbytes.symm : transaction.sign _ = _)).symm
      exact hlength
    exact Transfer.transaction_inj htransaction

end LocalChain
