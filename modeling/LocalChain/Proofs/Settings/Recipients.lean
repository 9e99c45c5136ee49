import LocalChain.Proofs.Issuance.Log
import LocalChain.Proofs.Text.Spelling
import LocalChain.Proofs.Text.Trimming

/-!
# Texts of recipients

A text names a recipient when it is forty hexadecimal digits after one mark at most, blanks around it
aside (`RecipientText`).  The recipient is the address whose bytes the digits spell
(`readRecipient_eq_ok_iff`), whatever the case of the letters.  The checksum of an address is nothing but a
choice of case (`Address.toLower_checksum`), so the text that a journal shows names the address too.
-/

namespace LocalChain

open Text (isBlankText trim)

variable {c : Char} {cs digits : List Char} {s : String} {a : Address}

/-! ## Digits -/

namespace Hex

/-- A hexadecimal digit, letters in either case. -/
def IsDigit (c : Char) : Prop :=
  ('0' ≤ c ∧ c ≤ '9') ∨ ('a' ≤ c ∧ c ≤ 'f') ∨ ('A' ≤ c ∧ c ≤ 'F')

instance : DecidablePred IsDigit := fun _ =>
  inferInstanceAs (Decidable (_ ∨ _ ∨ _))

theorem isSome_digit?_iff : (digit? c).isSome ↔ IsDigit c := by
  rw [digit?, IsDigit]
  split_ifs <;> simp [*]

theorem exists_areDigits (hcs : ∀ c ∈ cs, IsDigit c) : ∃ ds, AreDigits cs ds := by
  induction cs with
  | nil => exact ⟨[], .nil⟩
  | cons c cs ih =>
    obtain ⟨hc, hcs⟩ := List.forall_mem_cons.mp hcs
    obtain ⟨d, hd⟩ := Option.isSome_iff_exists.mp (isSome_digit?_iff.mpr hc)
    obtain ⟨ds, hds⟩ := ih hcs
    exact ⟨d :: ds, .cons hd hds⟩

end Hex

/-! ## Addresses -/

namespace Address

theorem encode_bytes (a : Address) : Hex.encode a.bytes = a.digits :=
  Hex.encode_ofNat 20 _

/-- **A text is read as the address whose bytes it spells after its mark.** -/
theorem parse_eq_ok_iff : parse cs = .ok a ↔ Hex.Spells (Hex.dropMark cs) a.bytes := by
  rw [parse, except_map_eq_ok_iff, Hex.Spells, encode_bytes]
  simp only [Hex.number_eq_ok_iff]
  constructor
  · rintro ⟨n, ⟨hn, hdigits⟩, rfl⟩
    have hval : (BitVec.ofNat 160 n).toNat = n := Nat.mod_eq_of_lt hn
    rw [hdigits, digits, hval]
  · intro hspells
    exact ⟨a.val.toNat, ⟨a.val.isLt, hspells⟩, by rw [BitVec.ofNat_toNat, BitVec.setWidth_eq]⟩

/-- Any forty digits spell an address. -/
theorem exists_spelled (hlength : digits.length = 40) (hdigits : ∀ c ∈ digits, Hex.IsDigit c) :
    ∃ a : Address, Hex.Spells digits a.bytes := by
  obtain ⟨ds, hds⟩ := Hex.exists_areDigits hdigits
  have hcount : ds.length = 2 * 20 := hds.length_eq.symm.trans hlength
  have hfixed : Digits.fixed 16 (2 * 20) (Digits.value 16 ds) = ds := by
    rw [← hcount, Digits.fixed_value hds.lt]
  have hvalue : Digits.value 16 ds < 16 ^ (2 * 20) := by
    rw [← hcount]
    exact Digits.value_lt hds.lt
  have hnumber : Hex.number 20 digits = .ok (Digits.value 16 ds) := by
    rw [Hex.number_eq_ok_iff, hds.dropMark_eq_self, hfixed]
    exact ⟨hvalue, (Hex.areDigits_iff hds.lt).mp hds⟩
  have hparse : parse digits = .ok ⟨BitVec.ofNat 160 (Digits.value 16 ds)⟩ := by
    rw [parse, hnumber]
    rfl
  rw [parse_eq_ok_iff, hds.dropMark_eq_self] at hparse
  exact ⟨_, hparse⟩

/-! ## Checksums -/

theorem toLower_checksumDigit {d : Nat} (hd : d < 16) (nibble : Nat) :
    (checksumDigit (Digits.char d) nibble).toLower = Digits.char d := by
  have hall : ∀ d ∈ List.range 16, (Digits.char d).toUpper.toLower = Digits.char d ∧
      (Digits.char d).toLower = Digits.char d := by decide
  obtain ⟨hupper, hlower⟩ := hall d (List.mem_range.mpr hd)
  rw [checksumDigit]
  split
  · exact hupper
  · exact hlower

/-- **A checksum changes the case of letters and nothing else**, whatever the digest is. -/
theorem toLower_checksum {ds nibbles : List Nat} (hds : ∀ d ∈ ds, d < 16)
    (hnibbles : ds.length ≤ nibbles.length) :
    (List.zipWith checksumDigit (ds.map Digits.char) nibbles).map Char.toLower =
      ds.map Digits.char := by
  induction ds generalizing nibbles with
  | nil => rfl
  | cons d ds ih =>
    cases nibbles with
    | nil => simp at hnibbles
    | cons nibble nibbles =>
      obtain ⟨hd, hds⟩ := List.forall_mem_cons.mp hds
      rw [List.map_cons, List.zipWith_cons_cons, List.map_cons, toLower_checksumDigit hd,
        ih hds (Nat.le_of_succ_le_succ hnibbles)]

/-- Both texts of an address are its digits after a mark. -/
theorem exists_spelled_of_shown {text : String} (htext : text ∈ [a.text, a.display]) :
    ∃ digits, text.toList = '0' :: 'x' :: digits ∧ Hex.Spells digits a.bytes := by
  simp only [List.mem_cons, List.not_mem_nil, or_false] at htext
  rcases htext with rfl | rfl
  · have hspells := parse_eq_ok_iff.mp a.parse_text
    rw [Address.text, String.toList_ofList, Hex.dropMark] at hspells
    exact ⟨a.digits, by rw [Address.text, String.toList_ofList], hspells⟩
  · refine ⟨_, by rw [display, String.toList_ofList], ?_⟩
    rw [Hex.Spells, encode_bytes]
    exact toLower_checksum (fun _ => Digits.lt_of_mem_fixed (by decide)) (by simp)

end Address

/-! ## Texts -/

/-- Forty digits in any case, after one mark at most, with nothing but blanks around them. -/
structure RecipientText (digits : List Char) (s : String) : Prop where
  length : digits.length = 40
  isDigit : ∀ c ∈ digits, Hex.IsDigit c
  padded : ∃ mark ∈ ["", "0x", "0X"], Text.Padded (mark.toList ++ digits) s

/-- Digits that spell an address make a text of it. -/
theorem Hex.Spells.recipientText (hspells : Hex.Spells digits a.bytes)
    (hpadded : ∃ mark ∈ ["", "0x", "0X"], Text.Padded (mark.toList ++ digits) s) :
    RecipientText digits s where
  length := by rw [hspells.length, Address.bytes, Bytes.length_ofNat]
  isDigit c hc := Hex.isSome_digit?_iff.mp (hspells.isDigit c hc)
  padded := hpadded

/-- What is left of the text when blanks and mark are taken away. -/
theorem RecipientText.dropMark_trim (h : RecipientText digits s) :
    Hex.dropMark (trim s.toList) = digits := by
  obtain ⟨mark, hmark, hpadded⟩ := h.padded
  obtain ⟨ds, hds⟩ := Hex.exists_areDigits h.isDigit
  have htrim : trim s.toList = mark.toList ++ digits := by
    refine Text.trim_of_padded hpadded fun c hc => ?_
    rcases List.mem_append.mp hc with hc | hc
    · exact Hex.isBlank_of_mem_mark hmark c hc
    · exact Hex.isBlank_of_isDigit (hds.isDigit c hc)
  rw [htrim, hds.dropMark_mark hmark]

theorem RecipientText.not_blank (h : RecipientText digits s) : ¬isBlankText s := by
  intro hblank
  have hdigits := h.dropMark_trim
  rw [Text.trim_eq_nil_iff.mpr hblank] at hdigits
  have hlength := h.length
  rw [← hdigits] at hlength
  cases hlength

theorem readRecipient_of_blank (hs : isBlankText s) :
    readRecipient s = .error (.empty "load.to") := by
  rw [readRecipient, Text.trim_eq_nil_iff.mpr hs]
  rfl

theorem readRecipient_of_not_blank (hs : ¬isBlankText s) : readRecipient s =
    (Address.parse (trim s.toList)).mapError fun _ => .invalidAddress "load.to" s := by
  have hne : ¬(trim s.toList).isEmpty := by rwa [List.isEmpty_iff, Text.trim_eq_nil_iff]
  simp only [readRecipient, if_neg hne]
  cases Address.parse (trim s.toList) <;> rfl

/-- **A recipient is read of a text exactly if the text has digits that spell it.** -/
theorem readRecipient_eq_ok_iff : readRecipient s = .ok a ↔
    ∃ digits, RecipientText digits s ∧ Hex.Spells digits a.bytes := by
  by_cases hs : isBlankText s
  · rw [readRecipient_of_blank hs]
    refine iff_of_false nofun ?_
    rintro ⟨digits, hdigits, -⟩
    exact hdigits.not_blank hs
  have hparse : readRecipient s = .ok a ↔ Address.parse (trim s.toList) = .ok a := by
    rw [readRecipient_of_not_blank hs]
    cases Address.parse (trim s.toList) <;> simp [Except.mapError]
  rw [hparse, Address.parse_eq_ok_iff]
  constructor
  · intro hspells
    obtain ⟨mark, hmark, htrim⟩ := Hex.exists_mark (trim s.toList)
    have hpadded := Text.padded_trim s
    rw [htrim] at hpadded
    exact ⟨_, hspells.recipientText ⟨mark, hmark, hpadded⟩, hspells⟩
  · rintro ⟨digits, hdigits, hspells⟩
    rwa [hdigits.dropMark_trim]

/-- A text without digits is a problem, and is quoted as it was given. -/
theorem readRecipient_of_no_digits (hs : ¬isBlankText s) (hno : ∀ digits, ¬RecipientText digits s) :
    readRecipient s = .error (.invalidAddress "load.to" s) := by
  rw [readRecipient_of_not_blank hs]
  cases hparse : Address.parse (trim s.toList) with
  | error cause => rfl
  | ok a =>
    have hread : readRecipient s = .ok a := by rw [readRecipient_of_not_blank hs, hparse]; rfl
    obtain ⟨digits, hdigits, -⟩ := readRecipient_eq_ok_iff.mp hread
    exact (hno digits hdigits).elim

theorem RecipientText.readRecipient_eq_ok_iff (h : RecipientText digits s) :
    readRecipient s = .ok a ↔ Hex.Spells digits a.bytes := by
  rw [LocalChain.readRecipient_eq_ok_iff]
  constructor
  · rintro ⟨digits', h', hspells⟩
    rwa [← h.dropMark_trim, h'.dropMark_trim]
  · intro hspells
    exact ⟨digits, h, hspells⟩

theorem RecipientText.exists_ok (h : RecipientText digits s) :
    ∃ a, readRecipient s = .ok a ∧ Hex.Spells digits a.bytes := by
  obtain ⟨a, hspells⟩ := Address.exists_spelled h.length h.isDigit
  exact ⟨a, h.readRecipient_eq_ok_iff.mpr hspells, hspells⟩

/-- **Digits name the same address exactly if they agree up to case.** -/
theorem RecipientText.readRecipient_eq_iff {others : List Char} {t : String}
    (h : RecipientText digits s) (ht : RecipientText others t) :
    readRecipient s = readRecipient t ↔ digits.map Char.toLower = others.map Char.toLower := by
  obtain ⟨a, hs, hspells⟩ := h.exists_ok
  rw [hs, eq_comm, ht.readRecipient_eq_ok_iff, Hex.Spells, ← hspells, eq_comm]

/-- **The texts that are shown of an address name it.** -/
theorem readRecipient_of_shown {text : String} (htext : text ∈ [a.text, a.display]) :
    readRecipient text = .ok a := by
  obtain ⟨digits, hdigits, hspells⟩ := Address.exists_spelled_of_shown htext
  have hpadded := Text.padded_self text
  rw [hdigits] at hpadded
  exact readRecipient_eq_ok_iff.mpr
    ⟨digits, hspells.recipientText ⟨"0x", by simp, hpadded⟩, hspells⟩

/-- So a text that is shown is shown of one address. -/
theorem Address.display_injective : Function.Injective display := by
  intro a b h
  have hread (a : Address) : readRecipient a.display = .ok a :=
    readRecipient_of_shown (List.mem_of_mem_tail List.mem_cons_self)
  have ha := hread a
  rw [h, hread b] at ha
  exact (Except.ok.inj ha).symm

/-! ## Plans -/

namespace IssuancePlan

variable {l : LoadSettings} {plan : IssuancePlan}

/-- A plan is for the recipient of the text. -/
theorem readRecipient_of_ofSettings (h : ofSettings l = some (.ok plan)) :
    readRecipient l.recipient = .ok plan.recipient := by
  rw [ofSettings] at h
  split at h
  · cases h
  split at h
  · cases h
  cases hto : readRecipient l.recipient with
  | error p =>
    rw [hto] at h
    cases h
  | ok recipient =>
    rw [hto] at h
    obtain ⟨amount, -, hplan⟩ := Option.map_eq_some_iff.mp h
    obtain ⟨value, -, rfl⟩ := except_map_eq_ok_iff.mp hplan
    rfl

/-- Of the text of the recipient only the recipient matters. -/
theorem ofSettings_congr {text : String} (h : readRecipient text = readRecipient l.recipient) :
    ofSettings { l with recipient := text } = ofSettings l := by
  simp only [ofSettings, h]

end IssuancePlan

namespace Issuance

variable {σ : Type} {sink : Sink σ} {base : UInt64} {session : σ}

/-- A run first reports what it is going to send, and to whom. -/
theorem head?_events_run (plan : IssuancePlan)
    (h : (sink.baseNonce session).1.value = .ok base) (listening : Bool) :
    (journal listening (run sink plan session).fullHistory).events.head? =
      some (.sending plan.count plan.intervalMs base plan.recipient) := by
  rw [run_of_ok sink plan h, Ended.fullHistory_after]
  rfl

end Issuance

/-- **What comes of the text of a recipient.**  A blank text is empty.  Forty hexadecimal digits in any
case, after at most one `0x` or `0X` and with nothing but blanks around them, are the address whose twenty
bytes they spell.  Any other text is no address and is quoted as it was given.

So the lower-case text of an address and its text with a checksum are both read as the address, and two
texts with digits are the same address exactly if their digits agree up to case.

The recipient of a plan is what is read of its text.  It is shown with its checksum in the first event of
every run that learns its first nonce, and the text shown there gives the same plan again. -/
theorem recipient_texts :
    (∀ s, isBlankText s → readRecipient s = .error (.empty "load.to")) ∧
    (∀ s digits, RecipientText digits s →
      ∃ a, readRecipient s = .ok a ∧ Hex.Spells digits a.bytes) ∧
    (∀ s, ¬isBlankText s → (∀ digits, ¬RecipientText digits s) →
      readRecipient s = .error (.invalidAddress "load.to" s)) ∧
    (∀ a : Address, ∀ text ∈ [a.text, a.display], readRecipient text = .ok a) ∧
    (∀ s t digits others, RecipientText digits s → RecipientText others t →
      (readRecipient s = readRecipient t ↔ digits.map Char.toLower = others.map Char.toLower)) ∧
    ∀ l plan, IssuancePlan.ofSettings l = some (.ok plan) →
      readRecipient l.recipient = .ok plan.recipient ∧
      ∀ {σ : Type} (sink : Sink σ) (session : σ) (base : UInt64) (listening : Bool),
        (sink.baseNonce session).1.value = .ok base → ∃ e text,
          (Issuance.journal listening (Issuance.run sink plan session).fullHistory).events.head? =
            some e ∧ ("to", text) ∈ e.fields ∧ text = plan.recipient.display ∧
          IssuancePlan.ofSettings { l with recipient := text } = some (.ok plan) := by
  refine ⟨fun s => readRecipient_of_blank, fun s digits h => h.exists_ok,
    fun s => readRecipient_of_no_digits, fun a text => readRecipient_of_shown,
    fun s t digits others h ht => h.readRecipient_eq_iff ht, fun l plan hplan => ?_⟩
  have hread := IssuancePlan.readRecipient_of_ofSettings hplan
  refine ⟨hread, fun sink session base listening hbase => ?_⟩
  have hshown : readRecipient plan.recipient.display = readRecipient l.recipient := by
    rw [hread, readRecipient_of_shown (List.mem_of_mem_tail List.mem_cons_self)]
  exact ⟨_, _, Issuance.head?_events_run plan hbase listening, by simp [Event.fields], rfl,
    (IssuancePlan.ofSettings_congr hshown).trans hplan⟩

/-- A checksum that is wrong, or none at all, makes no difference. -/
example : readRecipient "\t0XF39FD6E51AAD88F6F4CE6AB8827279CFFFB92266 " =
      .ok ⟨0xf39fd6e51aad88f6f4ce6ab8827279cfffb92266⟩ ∧
    readRecipient "0x0xf39fd6e51aad88f6f4ce6ab8827279cfffb92266" =
      .error (.invalidAddress "load.to" "0x0xf39fd6e51aad88f6f4ce6ab8827279cfffb92266") := by
  decide +kernel

end LocalChain
