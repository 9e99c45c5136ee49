import LocalChain.Abi.Basic
import LocalChain.Proofs.Wire.Numbers

/-!
# Values read back

What the reader looks for stands at a place of the data (`StandsAt`): the heads one after the other,
and the tails one after the other, the first of them where the first head that has a tail says.  A
head and its tail tell the value (`valueAt?_of_standsAt`), and both move on together when the next
value is read.  So values are read from their own bytes, if these are few enough for their places to
be written in words (`decode_encode`).

The bytes are whole words (`dvd_length_encode`), and what fills a text up to a whole word is zeros
(`exists_padRight_eq`).
-/

namespace LocalChain

namespace Digits

variable {base : Nat}

/-- Zero has zeros for digits. -/
theorem fixed_zero (width : Nat) : fixed base width 0 = List.replicate width 0 := by
  induction width with
  | zero => rfl
  | succ width ih => rw [fixed, Nat.zero_div, Nat.zero_mod, ih, List.replicate_succ']

/-- Digits that a number does not need are zeros. -/
theorem fixed_add {width n : Nat} (hn : n < base ^ width) (more : Nat) :
    fixed base (more + width) n = List.replicate more 0 ++ fixed base width n := by
  induction width generalizing n with
  | zero =>
    obtain rfl : n = 0 := by simpa using hn
    rw [Nat.add_zero, fixed_zero, fixed, List.append_nil]
  | succ width ih =>
    have hdiv : n / base < base ^ width :=
      Nat.div_lt_of_lt_mul (by rwa [Nat.pow_succ, mul_comm] at hn)
    rw [← Nat.add_assoc, fixed, ih hdiv, fixed, List.append_assoc]

end Digits

namespace Bytes

/-- Bytes that a number does not need are zeros. -/
theorem ofNat_add {width n : Nat} (hn : n < 256 ^ width) (more : Nat) :
    ofNat (more + width) n = List.replicate more 0 ++ ofNat width n := by
  rw [ofNat, Digits.fixed_add hn, List.map_append, List.map_replicate]
  rfl

theorem length_ofText (s : String) : (ofText s).length = s.utf8ByteSize :=
  Array.length_toList

/-- **What is filled up is filled with zeros**, fewer than a block of them, to whole blocks. -/
theorem exists_padRight_eq {size : Nat} (hsize : 0 < size) (bs : Bytes) :
    ∃ k < size, padRight size bs = bs ++ List.replicate k 0 ∧ size ∣ bs.length + k := by
  refine ⟨_, Nat.mod_lt _ hsize, rfl, ?_⟩
  have hmod : bs.length % size < size := Nat.mod_lt _ hsize
  rw [Nat.dvd_iff_mod_eq_zero, Nat.add_mod, Nat.mod_mod]
  by_cases hzero : bs.length % size = 0
  · simp [hzero]
  · rw [Nat.mod_eq_of_lt (a := size - bs.length % size) (by omega),
      Nat.add_sub_cancel' hmod.le, Nat.mod_self]

end Bytes

namespace Abi

/-! ## Parts of data -/

/-- Some bytes stand at a place of the data. -/
def StandsAt (data : Bytes) (place : Nat) (part : Bytes) : Prop :=
  part <+: data.drop place

namespace StandsAt

variable {data part more : Bytes} {place : Nat}

theorem front (h : StandsAt data place (part ++ more)) : StandsAt data place part :=
  (List.prefix_append part more).trans h

theorem back (h : StandsAt data place (part ++ more)) :
    StandsAt data (place + part.length) more := by
  obtain ⟨rest, hrest⟩ := h
  refine ⟨rest, ?_⟩
  rw [← List.drop_drop, ← hrest, List.append_assoc, List.drop_left]

theorem take_eq (h : StandsAt data place part) : (data.drop place).take part.length = part := by
  obtain ⟨rest, hrest⟩ := h
  rw [← hrest, List.take_left]

/-- What is there ends within the data. -/
theorem le_length (h : StandsAt data place part) (hpos : 0 < part.length) :
    place + part.length ≤ data.length := by
  have hle := h.length_le
  rw [List.length_drop] at hle
  omega

end StandsAt

/-! ## Single values -/

variable {data : Bytes} {place : Nat}

@[simp] theorem length_number (n : Nat) : (number n).length = 32 :=
  Bytes.length_ofNat 32 n

theorem numberAt?_of_standsAt {n : Nat} (h : StandsAt data place (number n)) (hn : n < 2 ^ 256) :
    numberAt? data place = some n := by
  have hword : (data.drop place).take 32 = number n := by
    rw [← h.take_eq, length_number]
  have hvalue : Bytes.toNat (number n) = n :=
    Bytes.toNat_ofNat (by rwa [show (256 : Nat) ^ 32 = 2 ^ 256 by decide])
  simp only [numberAt?, hword, length_number, if_true, hvalue]

/-- A text is read from its tail. -/
theorem textAt?_of_standsAt {s : String} (h : StandsAt data place (Value.text s).tail)
    (hlength : data.length < 2 ^ 256) : textAt? data place = some s := by
  rw [Value.tail] at h
  have hbytes : StandsAt data (place + 32) (Bytes.ofText s) := by
    have hpadded := h.back
    rw [length_number] at hpadded
    exact hpadded.front
  have hcount : (Bytes.ofText s).length < 2 ^ 256 := by
    have hle := hbytes.length_le
    rw [List.length_drop] at hle
    omega
  simp only [textAt?, numberAt?_of_standsAt h.front hcount, Option.bind_eq_bind, Option.bind_some,
    hbytes.take_eq, guard, if_true, Option.pure_def, Bytes.toText?_ofText]

theorem length_tail_pos (s : String) : 0 < (Value.text s).tail.length := by
  rw [Value.tail, List.length_append, length_number]
  omega

/-- **A head and its tail tell the value.** -/
theorem valueAt?_of_standsAt {v : Value} {tailPlace : Nat}
    (hhead : StandsAt data place (v.head tailPlace)) (htail : StandsAt data tailPlace v.tail)
    (hlength : data.length < 2 ^ 256) : valueAt? data place v.kind = some v := by
  cases v with
  | word w =>
    rw [Value.kind, valueAt?, numberAt?_of_standsAt hhead w.isLt, Option.map_some,
      BitVec.ofNat_toNat, BitVec.setWidth_eq]
  | text s =>
    have hplace := htail.le_length (length_tail_pos s)
    have htext := textAt?_of_standsAt htail hlength
    rw [Value.kind, valueAt?, numberAt?_of_standsAt hhead (by omega)]
    simp [htext]

/-! ## Values one after the other -/

@[simp] theorem length_head (v : Value) (tailPlace : Nat) : (v.head tailPlace).length = 32 := by
  cases v with
  | word w => exact length_number _
  | text s => exact length_number _

theorem length_heads (tailPlace : Nat) (vs : List Value) :
    (heads tailPlace vs).length = 32 * vs.length := by
  induction vs generalizing tailPlace with
  | nil => rfl
  | cons v vs ih =>
    rw [heads, List.length_append, length_head, ih, List.length_cons]
    omega

/-- Values are read from heads and tails that stand where they belong. -/
theorem valuesFrom?_of_standsAt {vs : List Value} {tailPlace : Nat}
    (hheads : StandsAt data place (heads tailPlace vs))
    (htails : StandsAt data tailPlace (vs.flatMap Value.tail)) (hlength : data.length < 2 ^ 256) :
    valuesFrom? data place (vs.map Value.kind) = some vs := by
  -- one value takes its head and its tail away; the others stand behind these
  induction vs generalizing place tailPlace with
  | nil => rfl
  | cons v vs ih =>
    rw [heads] at hheads
    rw [List.flatMap_cons] at htails
    have hfirst := valueAt?_of_standsAt hheads.front htails.front hlength
    have hrest := hheads.back
    rw [length_head] at hrest
    rw [List.map_cons, valuesFrom?, hfirst]
    simp [ih hrest htails.back]

/-- **Values are read from their own bytes**, if a word can count these. -/
theorem decode_encode {vs : List Value} (hlength : (encode vs).length < 2 ^ 256) :
    decode (vs.map Value.kind) (encode vs) = some vs := by
  have hheads : StandsAt (encode vs) 0 (heads (32 * vs.length) vs) := List.prefix_append _ _
  have htails : StandsAt (encode vs) (32 * vs.length) (vs.flatMap Value.tail) := by
    have hall : StandsAt (encode vs) 0 (encode vs) := List.prefix_rfl
    have hback := hall.back
    rwa [length_heads, Nat.zero_add] at hback
  exact valuesFrom?_of_standsAt hheads htails hlength

/-- The same bytes are never written for two lists of values of the same kinds. -/
theorem encode_inj {vs ws : List Value} (hkinds : vs.map Value.kind = ws.map Value.kind)
    (hlength : (encode vs).length < 2 ^ 256) (h : encode vs = encode ws) : vs = ws := by
  have hvs := decode_encode hlength
  rw [h, hkinds, decode_encode (h ▸ hlength)] at hvs
  exact (Option.some_inj.mp hvs).symm

/-! ## Whole words -/

theorem dvd_length_tail (v : Value) : 32 ∣ v.tail.length := by
  cases v with
  | word w => exact Nat.dvd_zero 32
  | text s =>
    obtain ⟨k, -, hpad, hdvd⟩ := Bytes.exists_padRight_eq (show 0 < 32 by decide) (Bytes.ofText s)
    rw [Value.tail, List.length_append, length_number, hpad, List.length_append,
      List.length_replicate]
    exact Nat.dvd_add (Nat.dvd_refl 32) hdvd

/-- **The bytes of values are whole words.** -/
theorem dvd_length_encode (vs : List Value) : 32 ∣ (encode vs).length := by
  have htails : 32 ∣ (vs.flatMap Value.tail).length := by
    induction vs with
    | nil => exact Nat.dvd_zero 32
    | cons v vs ih =>
      rw [List.flatMap_cons, List.length_append]
      exact Nat.dvd_add (dvd_length_tail v) ih
  rw [encode, List.length_append, length_heads]
  exact Nat.dvd_add (Nat.dvd_mul_right 32 _) htails

/-! ## Addresses -/

theorem toAddress_ofAddress (a : Address) : toAddress (a.val.setWidth 256) = a := by
  rw [toAddress, BitVec.setWidth_setWidth_of_le _ (by decide), BitVec.setWidth_eq]

theorem ofAddress_inj {a b : Address} (h : ofAddress a = ofAddress b) : a = b := by
  rw [← toAddress_ofAddress a, ← toAddress_ofAddress b, Value.word.inj h]

/-- An address fills its word up with twelve zeros in front. -/
theorem number_ofAddress (a : Address) :
    number (a.val.setWidth 256).toNat = List.replicate 12 0 ++ a.bytes := by
  have hlt : a.val.toNat < 256 ^ 20 := by
    rw [show (256 : Nat) ^ 20 = 2 ^ 160 by decide]
    exact a.val.isLt
  rw [BitVec.toNat_setWidth_of_le (by decide)]
  exact Bytes.ofNat_add hlt 12

end Abi
end LocalChain
