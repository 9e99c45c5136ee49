import LocalChain.Proofs.Wire.Numbers
import LocalChain.Rlp

/-!
# Items read back

An item that is written in fewer than `2 ^ 64` bytes is read from these bytes again, with what
follows it untouched (`Rlp.decode?_encode`).  The bound is that of the header, which has eight bytes
for a length at most.
-/

namespace LocalChain
namespace Rlp

/-! ## Headers -/

theorem splitAt?_append {size : Nat} {bs cs : Bytes} (h : bs.length = size) :
    splitAt? size (bs ++ cs) = some (bs, cs) := by
  rw [splitAt?, if_pos (by simp [h])]
  simp [← h]

/-- **A header tells the bytes that it is for**: its first byte is the offset and a tag, and with
the tag the content is split off from what follows it. -/
theorem header_spec (offset : Nat) (hoffset : offset + 63 ≤ 255) {content : Bytes}
    (hlength : content.length < 2 ^ 64) (rest : Bytes) :
    ∃ (b : UInt8) (size : Bytes) (tag : Nat),
      header offset content.length = b :: size ∧ b.toNat = offset + tag ∧ tag ≤ 63 ∧
        body? tag (size ++ (content ++ rest)) = some (content, rest) := by
  rw [header]
  split
  · rename_i hshort
    refine ⟨_, [], content.length, rfl, ?_, by omega, ?_⟩
    · exact UInt8.toNat_ofNat_of_lt' (by show offset + content.length < 256; omega)
    · rw [List.nil_append, body?, if_pos hshort, splitAt?_append rfl]
  · rename_i hlong
    -- the length has one byte at least and eight at most
    obtain ⟨b, bs, hbs, -⟩ := Bytes.shortest_eq_cons (n := content.length) (by omega)
    have hsize : (Bytes.shortest content.length).length ≤ 8 :=
      Bytes.length_shortest_le (by rwa [show (256 : Nat) ^ 8 = 2 ^ 64 by decide])
    have hpos : 0 < (Bytes.shortest content.length).length := by
      rw [hbs]
      exact Nat.succ_pos _
    refine ⟨_, _, 55 + (Bytes.shortest content.length).length, rfl, ?_, by omega, ?_⟩
    · rw [← Nat.add_assoc]
      exact UInt8.toNat_ofNat_of_lt' (by show offset + 55 + _ < 256; omega)
    · have htag : ¬55 + (Bytes.shortest content.length).length ≤ 55 := by omega
      have hguard : (Bytes.shortest content.length).head? ≠ some 0 ∧ 55 < content.length :=
        ⟨Bytes.head?_shortest _, by omega⟩
      rw [body?, if_neg htag, Nat.add_sub_cancel_left, splitAt?_append rfl]
      simp [hguard, splitAt?_append]

/-! ## Byte strings -/

theorem encodeBytes_of_length_ne {content : Bytes} (h : content.length ≠ 1) :
    encodeBytes content = header 0x80 content.length ++ content := by
  match content with
  | [] => rfl
  | [b] => exact absurd rfl h
  | _ :: _ :: _ => rfl

theorem length_le_encodeBytes (content : Bytes) :
    content.length ≤ (encodeBytes content).length := by
  by_cases h : content.length = 1
  · obtain ⟨b, rfl⟩ := List.length_eq_one_iff.mp h
    rw [encodeBytes]
    split <;> simp
  · rw [encodeBytes_of_length_ne h, List.length_append]
    omega

theorem header_ne_nil (offset length : Nat) : header offset length ≠ [] := by
  rw [header]
  split <;> exact List.cons_ne_nil _ _

theorem encodeBytes_ne_nil (content : Bytes) : encodeBytes content ≠ [] := by
  by_cases h : content.length = 1
  · obtain ⟨b, rfl⟩ := List.length_eq_one_iff.mp h
    rw [encodeBytes]
    split <;> exact List.cons_ne_nil _ _
  · rw [encodeBytes_of_length_ne h]
    exact List.append_ne_nil_of_left_ne_nil (header_ne_nil _ _) _

theorem decode?_encodeBytes {content : Bytes} (hlength : content.length < 2 ^ 64) (fuel : Nat)
    (rest : Bytes) :
    decode? (fuel + 1) (encodeBytes content ++ rest) = some (.bytes content, rest) := by
  by_cases hone : content.length = 1
  · obtain ⟨b, rfl⟩ := List.length_eq_one_iff.mp hone
    rw [encodeBytes]
    split
    · rename_i hsmall
      rw [List.singleton_append, decode?, if_pos hsmall]
    · rename_i hlarge
      have hguard : 0x80 ≤ b := UInt8.not_lt.mp hlarge
      rw [List.cons_append, decode?]
      simp [body?, splitAt?, hguard]
  · obtain ⟨b, size, tag, hheader, hb, htag, hbody⟩ :=
      header_spec 0x80 (by decide) hlength rest
    have hmark : ¬b < 0x80 := by
      rw [UInt8.lt_iff_toNat_lt, hb]
      show ¬128 + tag < 128
      omega
    have hstring : b < 0xc0 := by
      rw [UInt8.lt_iff_toNat_lt, hb]
      show 128 + tag < 192
      omega
    rw [encodeBytes_of_length_ne hone, hheader, List.cons_append, List.cons_append,
      List.append_assoc, decode?, if_neg hmark, if_pos hstring, hb, Nat.add_sub_cancel_left, hbody]
    simp [hone]

/-! ## Items -/

mutual

/-- The fuel that the reader needs for an item. -/
def depth : Rlp → Nat
  | bytes _ => 1
  | list items => depthAll items + 1

/-- The fuel that the reader needs for items. -/
def depthAll : List Rlp → Nat
  | [] => 1
  | r :: rs => max (depth r) (depthAll rs) + 1

end

theorem encode_ne_nil (r : Rlp) : encode r ≠ [] := by
  cases r with
  | bytes content => exact encodeBytes_ne_nil content
  | list items =>
    rw [encode]
    exact List.append_ne_nil_of_left_ne_nil (header_ne_nil _ _) _

mutual

/-- An item needs no more fuel than twice its bytes. -/
theorem depth_le : (r : Rlp) → depth r ≤ 2 * (encode r).length
  | bytes content => by
    have hpos := List.length_pos_iff.mpr (encode_ne_nil (bytes content))
    rw [depth]
    omega
  | list items => by
    have hall := depthAll_le items
    have hpos := List.length_pos_iff.mpr (header_ne_nil 0xc0 (encodeAll items).length)
    rw [depth, encode, List.length_append]
    omega

/-- Items need no more fuel than twice their bytes and one. -/
theorem depthAll_le : (rs : List Rlp) → depthAll rs ≤ 2 * (encodeAll rs).length + 1
  | [] => Nat.le_refl _
  | r :: rs => by
    have hfirst := depth_le r
    have hall := depthAll_le rs
    have hpos := List.length_pos_iff.mpr (encode_ne_nil r)
    rw [depthAll, encodeAll, List.length_append]
    omega

end

mutual

/-- **An item is read from its bytes**, whatever follows them. -/
theorem decode?_encode : (r : Rlp) → ∀ (fuel : Nat) (rest : Bytes), depth r ≤ fuel →
    (encode r).length < 2 ^ 64 → decode? fuel (encode r ++ rest) = some (r, rest)
  | bytes content, fuel, rest, hfuel, hlength => by
    obtain ⟨fuel, rfl⟩ : ∃ n, fuel = n + 1 := ⟨fuel - 1, by rw [depth] at hfuel; omega⟩
    exact decode?_encodeBytes
      (Nat.lt_of_le_of_lt (length_le_encodeBytes content) hlength) fuel rest
  | list items, fuel, rest, hfuel, hlength => by
    rw [depth] at hfuel
    obtain ⟨fuel, rfl⟩ : ∃ n, fuel = n + 1 := ⟨fuel - 1, by omega⟩
    rw [encode, List.length_append] at hlength
    have hbody : (encodeAll items).length < 2 ^ 64 := by omega
    have hitems := decodeAll?_encodeAll items fuel (by omega) hbody
    obtain ⟨b, size, tag, hheader, hb, htag, hsplit⟩ :=
      header_spec 0xc0 (by decide) hbody rest
    have hmark : ¬b < 0x80 := by
      rw [UInt8.lt_iff_toNat_lt, hb]
      show ¬192 + tag < 128
      omega
    have hlist : ¬b < 0xc0 := by
      rw [UInt8.lt_iff_toNat_lt, hb]
      show ¬192 + tag < 192
      omega
    rw [encode, hheader, List.cons_append, List.cons_append, List.append_assoc, decode?,
      if_neg hmark, if_neg hlist, hb, Nat.add_sub_cancel_left, hsplit]
    simp [hitems]

/-- Items are read from their bytes. -/
theorem decodeAll?_encodeAll : (rs : List Rlp) → ∀ fuel : Nat, depthAll rs ≤ fuel →
    (encodeAll rs).length < 2 ^ 64 → decodeAll? fuel (encodeAll rs) = some rs
  | [], fuel, hfuel, _ => by
    obtain ⟨fuel, rfl⟩ : ∃ n, fuel = n + 1 := ⟨fuel - 1, by rw [depthAll] at hfuel; omega⟩
    rfl
  | r :: rs, fuel, hfuel, hlength => by
    rw [depthAll] at hfuel
    obtain ⟨fuel, rfl⟩ : ∃ n, fuel = n + 1 := ⟨fuel - 1, by omega⟩
    rw [encodeAll, List.length_append] at hlength
    have hfirst := decode?_encode r fuel (encodeAll rs) (by omega) (by omega)
    have hothers := decodeAll?_encodeAll rs fuel (by omega) (by omega)
    have hne : (encode r ++ encodeAll rs).isEmpty = false := by
      rw [List.isEmpty_eq_false_iff]
      exact List.append_ne_nil_of_left_ne_nil (encode_ne_nil r) _
    rw [encodeAll, decodeAll?, hne]
    simp [hfirst, hothers]

end

/-- **What is written is read**, if it is shorter than the longest that a header tells. -/
theorem decode_encode {r : Rlp} (hlength : (encode r).length < 2 ^ 64) :
    decode (encode r) = some r := by
  have hread := decode?_encode r (2 * (encode r).length + 2) []
    (Nat.le_trans (depth_le r) (Nat.le_add_right _ _)) hlength
  rw [List.append_nil] at hread
  rw [decode, hread]
  rfl

/-! ## Lengths -/

theorem length_header_le (offset : Nat) {length : Nat} (hlength : length < 2 ^ 64) :
    (header offset length).length ≤ 9 := by
  rw [header]
  split
  · exact Nat.le_of_ble_eq_true rfl
  · have hsize : (Bytes.shortest length).length ≤ 8 :=
      Bytes.length_shortest_le (by rwa [show (256 : Nat) ^ 8 = 2 ^ 64 by decide])
    rw [List.length_cons]
    omega

theorem length_encodeBytes_le (content : Bytes) (hlength : content.length < 2 ^ 64) :
    (encodeBytes content).length ≤ content.length + 9 := by
  by_cases h : content.length = 1
  · obtain ⟨b, rfl⟩ := List.length_eq_one_iff.mp h
    rw [encodeBytes]
    split <;> simp
  · have hheader := length_header_le 0x80 hlength
    rw [encodeBytes_of_length_ne h, List.length_append]
    omega

theorem length_encode_ofNat_le {n k : Nat} (hn : n < 256 ^ k) (hk : k < 2 ^ 64) :
    (encode (ofNat n)).length ≤ k + 9 := by
  have hsize := Bytes.length_shortest_le hn
  have hencode := length_encodeBytes_le (Bytes.shortest n) (by omega)
  rw [ofNat, encode]
  omega

/-! ## Numbers -/

/-- A number is read from its item, when it is in the range. -/
theorem toNat?_ofNat {bits n : Nat} (hn : n < 2 ^ bits) : toNat? bits (ofNat n) = some n := by
  have hrange : ¬((Bytes.shortest n).head? = some 0 ∨ Nat.pow 2 bits ≤ n) := by
    rintro (hzero | hlarge)
    · exact Bytes.head?_shortest n hzero
    · exact absurd hn (Nat.not_lt.mpr hlarge)
  rw [ofNat, toNat?, Bytes.toNat_shortest, if_neg hrange]

end Rlp
end LocalChain
