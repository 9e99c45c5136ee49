import LocalChain.Proofs.Wire.Items
import LocalChain.Transaction.Decoding

/-!
# Transactions read back

A node reads from the bytes of a signed transaction the transaction that was signed, and with it the
chain that it is for (`Transaction.decode_sign`).
-/

namespace LocalChain

namespace Address

theorem ofBytes_bytes (a : Address) : ofBytes a.bytes = a := by
  have hlt : a.val.toNat < 256 ^ 20 := by
    rw [show (256 : Nat) ^ 20 = 2 ^ 160 by decide]
    exact a.val.isLt
  rw [ofBytes, bytes, Bytes.toNat_ofNat hlt, BitVec.ofNat_toNat, BitVec.setWidth_eq]

theorem length_bytes (a : Address) : a.bytes.length = 20 :=
  Bytes.length_ofNat _ _

end Address

namespace Transaction

/-! ## Fields -/

theorem word64?_ofNat (n : UInt64) : word64? (.ofNat n.toNat) = some n := by
  rw [word64?, Rlp.toNat?_ofNat n.toNat_lt, Option.map_some, UInt64.ofNat_toNat]

theorem price?_ofNat (p : Price) : price? (.ofNat p.toNat) = some p := by
  rw [price?, Rlp.toNat?_ofNat p.isLt, Option.map_some, BitVec.ofNat_toNat, BitVec.setWidth_eq]

theorem destination?_bytes (d : Destination) : destination? (.bytes d.bytes) = some d := by
  cases d with
  | create => rfl
  | call a =>
    have hbytes : a.bytes.length = 20 := a.length_bytes
    rw [Destination.bytes]
    cases hcons : a.bytes with
    | nil =>
      rw [hcons] at hbytes
      cases hbytes
    | cons b bs =>
      rw [destination?, ← hcons, if_pos hbytes, Address.ofBytes_bytes]
      exact nofun

/-- The number of a signature at one gas price tells the chain and the parity. -/
theorem legacyParity?_parityNumber (t : Transaction) {chainId : Option UInt64} {gasPrice : Price}
    (hfee : t.fee = .legacy chainId gasPrice) (odd : Bool) :
    legacyParity? (t.parityNumber odd) = some (chainId, odd) := by
  rw [parityNumber, hfee]
  cases chainId with
  | none => cases odd <;> rfl
  | some id =>
    have hid : id.toNat < UInt64.size := id.toNat_lt
    have hodd : odd.toNat < 2 := Bool.toNat_lt odd
    dsimp only
    have hplain : ¬(35 + 2 * id.toNat + odd.toNat = 27 ∨ 35 + 2 * id.toNat + odd.toNat = 28) := by
      omega
    have hhalf : (35 + 2 * id.toNat + odd.toNat - 35) / 2 = id.toNat := by omega
    have hrest : (35 + 2 * id.toNat + odd.toNat - 35) % 2 = odd.toNat := by omega
    rw [legacyParity?, if_neg hplain, hhalf, hrest, if_pos ⟨by omega, hid⟩, UInt64.ofNat_toNat]
    cases odd <;> rfl

theorem parityNumber_lt (t : Transaction) (odd : Bool) : t.parityNumber odd < 2 ^ 128 := by
  have hodd : odd.toNat < 2 := Bool.toNat_lt odd
  rw [parityNumber]
  split
  · omega
  · rename_i id _ _
    have hid := id.toNat_lt
    omega
  · omega

/-! ## Transactions -/

variable (t : Transaction) (g : Signature)

/-- The items that are sent: the fields and the signature. -/
def signedItems : List Rlp :=
  t.fields ++ [.ofNat (t.parityNumber g.odd), .ofNat g.r, .ofNat g.s]

theorem r_lt : g.r < 2 ^ 256 :=
  Nat.lt_trans g.r_lt (by decide)

theorem s_lt : g.s < 2 ^ 256 :=
  Nat.lt_trans g.s_lt (by decide)

theorem value?_ofNat : Rlp.toNat? 256 (.ofNat t.value.toNat) = some t.value.toNat :=
  Rlp.toNat?_ofNat t.value.isLt

theorem ofLegacyItems_signedItems {chainId : Option UInt64} {gasPrice : Price}
    (hfee : t.fee = .legacy chainId gasPrice) :
    ofLegacyItems (t.signedItems g) = some ⟨t, g.odd, g.r, g.s⟩ := by
  have hparity := Rlp.toNat?_ofNat (t.parityNumber_lt g.odd)
  rw [signedItems, fields, hfee]
  simp only [payload, List.cons_append, List.nil_append, ofLegacyItems, hparity,
    t.legacyParity?_parityNumber hfee, word64?_ofNat, price?_ofNat, destination?_bytes, content?,
    t.value?_ofNat, Rlp.toNat?_ofNat (r_lt g), Rlp.toNat?_ofNat (s_lt g), Option.bind_eq_bind,
    Option.bind_some, BitVec.ofNat_toNat, BitVec.setWidth_eq, ← hfee]
  rfl

theorem ofCappedItems_signedItems {chainId : UInt64} {maxFee maxPriorityFee : Price}
    (hfee : t.fee = .capped chainId maxFee maxPriorityFee) :
    ofCappedItems (t.signedItems g) = some ⟨t, g.odd, g.r, g.s⟩ := by
  have hparity : t.parityNumber g.odd = g.odd.toNat := by rw [parityNumber, hfee]
  have hbit : g.odd.toNat < 2 ^ 1 := Bool.toNat_lt g.odd
  have hodd : decide (g.odd.toNat = 1) = g.odd := by cases g.odd <;> rfl
  rw [signedItems, fields, hparity, hfee]
  simp only [payload, List.cons_append, List.nil_append, ofCappedItems, word64?_ofNat,
    price?_ofNat, destination?_bytes, content?, t.value?_ofNat,
    Rlp.toNat?_ofNat hbit, Rlp.toNat?_ofNat (r_lt g),
    Rlp.toNat?_ofNat (s_lt g), Option.bind_eq_bind, Option.bind_some, BitVec.ofNat_toNat,
    BitVec.setWidth_eq, hodd, ← hfee]
  rfl

/-- The form of a list begins with no mark of capped fees. -/
theorem encode_list_eq_cons {items : List Rlp} (hlength : (Rlp.list items).encode.length < 2 ^ 64) :
    ∃ b bs, (Rlp.list items).encode = b :: bs ∧ b ≠ cappedMark := by
  rw [Rlp.encode, List.length_append] at hlength
  have hbody : (Rlp.encodeAll items).length < 2 ^ 64 := by omega
  obtain ⟨b, size, tag, hheader, hb, -, -⟩ := Rlp.header_spec 0xc0 (by decide) hbody []
  refine ⟨b, _, by rw [Rlp.encode, hheader, List.cons_append], ?_⟩
  rintro rfl
  have hmark : cappedMark.toNat = 2 := rfl
  omega

/-- **The bytes that are sent are read as what was signed**, if there are not too many for a
header. -/
theorem decode_signedForm (hlength : (t.signedForm g).length < 2 ^ 64) :
    decode (t.signedForm g) = some ⟨t, g.odd, g.r, g.s⟩ := by
  have hform : t.signedForm g = t.envelope (t.signedItems g) := rfl
  rw [hform, envelope] at hlength ⊢
  cases hfee : t.fee with
  | legacy chainId gasPrice =>
    rw [hfee] at hlength
    obtain ⟨b, bs, hbs, hb⟩ := encode_list_eq_cons hlength
    have hread := Rlp.decode_encode hlength
    dsimp only
    rw [hbs] at hread ⊢
    rw [decode, if_neg hb, hread]
    exact t.ofLegacyItems_signedItems g hfee
  | capped chainId maxFee maxPriorityFee =>
    rw [hfee] at hlength
    dsimp only
    rw [decode, if_pos rfl, Rlp.decode_encode (Nat.lt_of_succ_lt hlength)]
    exact t.ofCappedItems_signedItems g hfee

/-! ## Lengths -/

/-- A number of `k` bytes takes no more than nine besides. -/
theorem length_encode_number {n k : Nat} (hn : n < 2 ^ (8 * k)) (hk : k < 2 ^ 64) :
    (Rlp.encode (.ofNat n)).length ≤ k + 9 :=
  Rlp.length_encode_ofNat_le (by rwa [show (256 : Nat) = 2 ^ 8 by decide, ← Nat.pow_mul]) hk

/-- What is not input fits in some hundred bytes. -/
theorem length_signedItems_le (hinput : t.input.length < 2 ^ 32) :
    (Rlp.encodeAll (t.signedItems g)).length ≤ t.input.length + 400 := by
  have hdestination : (Rlp.encode (.bytes t.destination.bytes)).length ≤ 29 := by
    have hbytes : t.destination.bytes.length ≤ 20 := by
      cases t.destination with
      | create => exact Nat.zero_le _
      | call a => exact Nat.le_of_eq a.length_bytes
    have hencode := Rlp.length_encodeBytes_le t.destination.bytes (by omega)
    rw [Rlp.encode]
    omega
  have hvalue : (Rlp.encode (.ofNat t.value.toNat)).length ≤ 41 :=
    length_encode_number (k := 32) t.value.isLt (by decide)
  have hcontent : (Rlp.encode (.bytes t.input)).length ≤ t.input.length + 9 := by
    rw [Rlp.encode]
    exact Rlp.length_encodeBytes_le _ (by omega)
  have hr : (Rlp.encode (.ofNat g.r)).length ≤ 41 :=
    length_encode_number (k := 32) (r_lt g) (by decide)
  have hs : (Rlp.encode (.ofNat g.s)).length ≤ 41 :=
    length_encode_number (k := 32) (s_lt g) (by decide)
  have hparity : (Rlp.encode (.ofNat (t.parityNumber g.odd))).length ≤ 25 :=
    length_encode_number (k := 16) (t.parityNumber_lt g.odd) (by decide)
  have hword (n : UInt64) : (Rlp.encode (.ofNat n.toNat)).length ≤ 17 :=
    length_encode_number (k := 8) n.toNat_lt (by decide)
  have hprice (p : Price) : (Rlp.encode (.ofNat p.toNat)).length ≤ 25 :=
    length_encode_number (k := 16) p.isLt (by decide)
  have hempty : (Rlp.encode (.list [])).length = 1 := rfl
  have hnonce := hword t.nonce
  have hgas := hword t.gasLimit
  rw [signedItems, fields]
  cases t.fee with
  | legacy chainId gasPrice =>
    have hgasPrice := hprice gasPrice
    simp only [payload, List.cons_append, List.nil_append, Rlp.encodeAll, List.length_append,
      List.length_nil]
    omega
  | capped chainId maxFee maxPriorityFee =>
    have hchain := hword chainId
    have hmax := hprice maxFee
    have hpriority := hprice maxPriorityFee
    simp only [payload, List.cons_append, List.nil_append, Rlp.encodeAll, List.length_append,
      List.length_nil]
    omega

theorem length_signedForm_lt (hinput : t.input.length < 2 ^ 32) :
    (t.signedForm g).length < 2 ^ 64 := by
  have hitems := t.length_signedItems_le g hinput
  have hheader : (Rlp.header 0xc0 (Rlp.encodeAll (t.signedItems g)).length).length ≤ 9 :=
    Rlp.length_header_le 0xc0 (by omega)
  have hlist : (Rlp.list (t.signedItems g)).encode.length ≤ t.input.length + 409 := by
    rw [Rlp.encode, List.length_append]
    omega
  have hform : t.signedForm g = t.envelope (t.signedItems g) := rfl
  rw [hform, envelope]
  split
  · omega
  · rw [List.length_cons]
    omega

/-- The same bytes are never sent for two transactions. -/
theorem eq_of_sign_eq {t t' : Transaction} {key key' : PrivateKey}
    (hlength : (t.sign key).length < 2 ^ 64) (h : t.sign key = t'.sign key') : t = t' := by
  have hlength' : (t'.sign key').length < 2 ^ 64 := h ▸ hlength
  have hread : decode (t.sign key) = some _ := decode_signedForm t _ hlength
  have hread' : decode (t'.sign key') = some _ := decode_signedForm t' _ hlength'
  rw [h, hread'] at hread
  exact (congrArg Signed.transaction (Option.some_inj.mp hread)).symm

/-- **A node reads the transaction that was signed**, when its input is not too long. -/
theorem decode_sign (key : PrivateKey) (hinput : t.input.length < 2 ^ 32) :
    (decode (t.sign key)).map (·.transaction) = some t := by
  rw [sign, decode_signedForm t _ (t.length_signedForm_lt _ hinput)]
  rfl

end Transaction
end LocalChain
