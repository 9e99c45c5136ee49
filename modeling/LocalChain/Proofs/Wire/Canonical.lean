import LocalChain.Proofs.Wire.Items
import Mathlib.Data.Option.Basic

/-!
# Items have one form

The reader accepts nothing but what the writer writes: the bytes that an item is read from are that
item's own form (`Rlp.eq_encode_of_decode`).  Long lengths have no zero in front, short ones are
written short, and a small byte stands for itself; whatever else spells the same item is refused.
Nor may anything follow the item (`Rlp.decode_encode_append`).
-/

namespace LocalChain
namespace Rlp

/-! ## Headers -/

theorem eq_append_of_splitAt? {size : Nat} {bs content rest : Bytes}
    (h : splitAt? size bs = some (content, rest)) :
    bs = content ++ rest ∧ content.length = size := by
  rw [splitAt?] at h
  split at h
  · rename_i hle
    obtain ⟨rfl, rfl⟩ := Prod.mk.inj (Option.some_inj.mp h)
    exact ⟨(List.take_append_drop size bs).symm, List.length_take_of_le hle⟩
  · cases h

/-- **A header that is accepted is the one that is written** for the bytes that it is for. -/
theorem eq_header_of_body? {offset tag : Nat} {b : UInt8} {bs content rest : Bytes}
    (hb : b.toNat = offset + tag) (h : body? tag bs = some (content, rest)) :
    b :: bs = header offset content.length ++ content ++ rest := by
  rw [body?] at h
  split at h
  · rename_i hshort
    obtain ⟨rfl, hlength⟩ := eq_append_of_splitAt? h
    rw [header, hlength, if_pos hshort, ← hb, UInt8.ofNat_toNat]
    rfl
  · obtain ⟨⟨size, others⟩, hsize, hcontent⟩ := Option.bind_eq_some_iff.mp h
    obtain ⟨⟨⟩, hguard, hcontent⟩ := Option.bind_eq_some_iff.mp hcontent
    obtain ⟨hhead, hlong⟩ := (Option.guard_eq_some' ()).mp hguard
    obtain ⟨rfl, hcount⟩ := eq_append_of_splitAt? hsize
    obtain ⟨rfl, hlength⟩ := eq_append_of_splitAt? hcontent
    -- the bytes of the length have no zero in front, so they are the shortest
    have hmark : UInt8.ofNat (offset + 55 + size.length) = b := by
      rw [show offset + 55 + size.length = b.toNat by omega, UInt8.ofNat_toNat]
    rw [header, hlength, if_neg (by omega), Bytes.shortest_toNat hhead]
    simp only [hmark, List.cons_append, List.append_assoc]

/-! ## Items -/

theorem encodeBytes_of_not_small {content : Bytes}
    (h : ¬(content.length = 1 ∧ content.all (· < 0x80))) :
    encodeBytes content = header 0x80 content.length ++ content := by
  by_cases hone : content.length = 1
  · obtain ⟨b, rfl⟩ := List.length_eq_one_iff.mp hone
    have hb : ¬b < 0x80 := fun hb => h ⟨rfl, by simpa using hb⟩
    rw [encodeBytes, if_neg hb]
    rfl
  · exact encodeBytes_of_length_ne hone

mutual

/-- **An item that is read is written as the bytes that it was read from.** -/
theorem eq_encode_of_decode? : (fuel : Nat) → ∀ {bs : Bytes} {r : Rlp} {rest : Bytes},
    decode? fuel bs = some (r, rest) → bs = encode r ++ rest
  | 0, _, _, _, h => by cases h
  | _ + 1, [], _, _, h => by cases h
  | fuel + 1, b :: bs, r, rest, h => by
    rw [decode?] at h
    split at h
    · rename_i hsmall
      obtain ⟨rfl, rfl⟩ := Prod.mk.inj (Option.some_inj.mp h)
      rw [encode, encodeBytes, if_pos hsmall]
      rfl
    · rename_i hmark
      have hmark : 0x80 ≤ b.toNat := by simpa [UInt8.lt_iff_toNat_lt] using hmark
      split at h
      · obtain ⟨⟨content, others⟩, hbody, h⟩ := Option.bind_eq_some_iff.mp h
        obtain ⟨⟨⟩, hguard, h⟩ := Option.bind_eq_some_iff.mp h
        obtain ⟨rfl, rfl⟩ := Prod.mk.inj (Option.some_inj.mp h)
        rw [encode, encodeBytes_of_not_small ((Option.guard_eq_some' ()).mp hguard)]
        exact eq_header_of_body? (by omega) hbody
      · rename_i hlist
        have hlist : 0xc0 ≤ b.toNat := by simpa [UInt8.lt_iff_toNat_lt] using hlist
        obtain ⟨⟨body, others⟩, hbody, h⟩ := Option.bind_eq_some_iff.mp h
        obtain ⟨items, hitems, h⟩ := Option.bind_eq_some_iff.mp h
        obtain ⟨rfl, rfl⟩ := Prod.mk.inj (Option.some_inj.mp h)
        have hencode : body = encodeAll items := eq_encodeAll_of_decodeAll? fuel hitems
        rw [encode, ← hencode]
        exact eq_header_of_body? (by omega) hbody

/-- Items that are read are written as the bytes that they were read from. -/
theorem eq_encodeAll_of_decodeAll? : (fuel : Nat) → ∀ {bs : Bytes} {rs : List Rlp},
    decodeAll? fuel bs = some rs → bs = encodeAll rs
  | 0, _, _, h => by cases h
  | fuel + 1, bs, rs, h => by
    rw [decodeAll?] at h
    split at h
    · rename_i hempty
      rw [← Option.some_inj.mp h, List.isEmpty_iff.mp hempty]
      rfl
    · obtain ⟨⟨r, others⟩, hfirst, h⟩ := Option.bind_eq_some_iff.mp h
      obtain ⟨rs', hothers, h⟩ := Option.bind_eq_some_iff.mp h
      rw [← Option.some_inj.mp h, encodeAll, ← eq_encodeAll_of_decodeAll? fuel hothers]
      exact eq_encode_of_decode? fuel hfirst

end

/-- **Each item has one form**: what is read as an item is that item as it is written. -/
theorem eq_encode_of_decode {bs : Bytes} {r : Rlp} (h : decode bs = some r) : bs = encode r := by
  obtain ⟨⟨r', rest⟩, hread, h⟩ := Option.bind_eq_some_iff.mp h
  obtain ⟨⟨⟩, hguard, h⟩ := Option.bind_eq_some_iff.mp h
  have hrest : rest = [] := List.isEmpty_iff.mp ((Option.guard_eq_some' ()).mp hguard)
  rw [eq_encode_of_decode? _ hread, ← Option.some_inj.mp h, hrest, List.append_nil]

/-- Nothing may follow an item. -/
theorem decode_encode_append {r : Rlp} (hlength : (encode r).length < 2 ^ 64) {extra : Bytes}
    (hextra : extra ≠ []) : decode (encode r ++ extra) = none := by
  have hfuel : depth r ≤ 2 * (encode r ++ extra).length + 2 := by
    have := depth_le r
    rw [List.length_append]
    omega
  rw [decode, decode?_encode r _ extra hfuel hlength]
  simp [hextra]
end Rlp
end LocalChain
