import LocalChain.Contract.Call
import LocalChain.Proofs.Abi.Values

/-!
# What contracts are told and tell

A contract reads its arguments behind its code, a function its own behind the selector, and the
caller what comes back.  Each of them has nothing but bytes, and finds in these the very values that
were written, whatever they are (`data_readable`): nothing is cut off, nothing changes its place,
and what fills up a word is zeros.  Different values are therefore different bytes.

Words are read from words without more (`words?_encode`).  Where texts are among the values, the
place of the second depends on the length of the first (`tokenArguments_eq`), and both have to be
counted in a word.  That takes texts of fewer than `2 ^ 255` bytes, which no memory exceeds.
-/

namespace LocalChain

namespace Abi

/-- Bytes are filled up with zeros, fewer than a word of them, to whole words. -/
def Filled (bs filled : Bytes) : Prop :=
  ∃ k < 32, filled = bs ++ List.replicate k 0 ∧ 32 ∣ filled.length

theorem filled_padRight (bs : Bytes) : Filled bs (Bytes.padRight 32 bs) := by
  obtain ⟨k, hk, hpad, hdvd⟩ := Bytes.exists_padRight_eq (show 0 < 32 by decide) bs
  refine ⟨k, hk, hpad, ?_⟩
  rwa [hpad, List.length_append, List.length_replicate]

theorem Filled.length_lt {bs filled : Bytes} (h : Filled bs filled) :
    filled.length < bs.length + 32 := by
  obtain ⟨k, hk, rfl, -⟩ := h
  rw [List.length_append, List.length_replicate]
  omega

/-- Words have no tails. -/
theorem length_encode_words {vs : List Value} {count : Nat}
    (hwords : vs.map Value.kind = List.replicate count .word) :
    (encode vs).length = 32 * count := by
  have hlength : vs.length = count := by
    simpa using congrArg List.length hwords
  have htails : vs.flatMap Value.tail = [] := by
    refine List.flatMap_eq_nil_iff.mpr fun v hv => ?_
    have hkind : v.kind = .word := List.eq_of_mem_replicate (hwords ▸ List.mem_map_of_mem hv)
    cases v with
    | word w => rfl
    | text s => cases hkind
  rw [encode, htails, List.append_nil, length_heads, hlength]

end Abi

namespace Contract

open Abi (number)

/-! ## The readers of arguments -/

/-- The account in what a factory is created with. -/
def factoryOf? (data : Bytes) : Option Address := do
  match ← words? 1 data with
  | [feeToSetter] => some (Abi.toAddress feeToSetter)
  | _ => none

/-- The factory and the contract of wrapped ether in what a router is created with. -/
def routerOf? (data : Bytes) : Option (Address × Address) := do
  match ← words? 2 data with
  | [factory, weth] => some (Abi.toAddress factory, Abi.toAddress weth)
  | _ => none

/-- The name, the symbol, the first supply and its owner in what a token is created with. -/
def tokenOf? (data : Bytes) : Option (String × String × Word × Address) := do
  match ← Abi.decode [.text, .text, .word, .word] data with
  | [.text name, .text symbol, .word supply, .word owner] =>
    some (name, symbol, supply, Abi.toAddress owner)
  | _ => none

/-! ## Words -/

/-- **Words are read from their own bytes**, as many as a word counts. -/
theorem words?_encode (ws : List Word) (hcount : 32 * ws.length < 2 ^ 256) :
    words? ws.length (Abi.encode (ws.map .word)) = some ws := by
  have hkinds : (ws.map Abi.Value.word).map Abi.Value.kind = List.replicate ws.length .word := by
    rw [List.map_map]
    exact List.map_const'
  have hread := Abi.decode_encode (by rwa [Abi.length_encode_words hkinds])
  rw [hkinds] at hread
  have hall : (ws.mapM fun w => some w) = some ws := by
    simpa using List.mapM_pure (m := Option) (l := ws) (f := id)
  rw [words?, hread]
  simpa [List.mapM_map, Function.comp_def] using hall

theorem factoryOf?_factoryArguments (feeToSetter : Address) :
    factoryOf? (factoryArguments feeToSetter) = some feeToSetter := by
  have hwords : words? 1 (factoryArguments feeToSetter) = some [feeToSetter.val.setWidth 256] :=
    words?_encode [_] (by simp)
  simp [factoryOf?, hwords, Abi.toAddress_ofAddress]

theorem routerOf?_routerArguments (factory weth : Address) :
    routerOf? (routerArguments factory weth) = some (factory, weth) := by
  have hwords : words? 2 (routerArguments factory weth)
      = some [factory.val.setWidth 256, weth.val.setWidth 256] :=
    words?_encode [_, _] (by simp)
  simp [routerOf?, hwords, Abi.toAddress_ofAddress]

theorem factoryArguments_eq (feeToSetter : Address) :
    factoryArguments feeToSetter = List.replicate 12 0 ++ feeToSetter.bytes := by
  simp only [factoryArguments, Abi.encode, Abi.heads, Abi.ofAddress, Abi.Value.head,
    Abi.Value.tail, Abi.number_ofAddress, List.flatMap_cons, List.flatMap_nil, List.append_nil]

theorem routerArguments_eq (factory weth : Address) :
    routerArguments factory weth
      = (List.replicate 12 0 ++ factory.bytes) ++ (List.replicate 12 0 ++ weth.bytes) := by
  simp only [routerArguments, Abi.encode, Abi.heads, Abi.ofAddress, Abi.Value.head,
    Abi.Value.tail, Abi.number_ofAddress, List.flatMap_cons, List.flatMap_nil, List.append_nil]

/-! ## A token -/

/-- What a token is created with, word for word: the first text begins behind the four heads, and
the second behind the first. -/
theorem tokenArguments_eq (name symbol : String) (supply : Word) (owner : Address) :
    ∃ nameFilled symbolFilled, Abi.Filled (Bytes.ofText name) nameFilled ∧
      Abi.Filled (Bytes.ofText symbol) symbolFilled ∧
      tokenArguments name symbol supply owner
        = number 128 ++ number (160 + nameFilled.length) ++ number supply.toNat
          ++ (List.replicate 12 0 ++ owner.bytes)
          ++ (number name.utf8ByteSize ++ nameFilled)
          ++ (number symbol.utf8ByteSize ++ symbolFilled) := by
  refine ⟨_, _, Abi.filled_padRight _, Abi.filled_padRight _, ?_⟩
  simp only [tokenArguments, Abi.encode, Abi.heads, Abi.ofAddress, Abi.Value.head, Abi.Value.tail,
    Abi.number_ofAddress, Bytes.length_ofText, List.flatMap_cons, List.flatMap_nil,
    List.append_nil, List.append_assoc, List.length_append, Abi.length_number,
    List.length_cons, List.length_nil]
  rw [← Nat.add_assoc]

theorem length_tokenArguments_lt {name symbol : String} (supply : Word) (owner : Address)
    (hsize : name.utf8ByteSize + symbol.utf8ByteSize < 2 ^ 255) :
    (tokenArguments name symbol supply owner).length < 2 ^ 256 := by
  obtain ⟨nameFilled, symbolFilled, hname, hsymbol, heq⟩ :=
    tokenArguments_eq name symbol supply owner
  have hnameLt := hname.length_lt
  have hsymbolLt := hsymbol.length_lt
  rw [Bytes.length_ofText] at hnameLt hsymbolLt
  rw [heq]
  simp only [List.length_append, List.length_replicate, Abi.length_number, Address.bytes,
    Bytes.length_ofNat]
  omega

theorem tokenOf?_tokenArguments {name symbol : String} (supply : Word) (owner : Address)
    (hsize : name.utf8ByteSize + symbol.utf8ByteSize < 2 ^ 255) :
    tokenOf? (tokenArguments name symbol supply owner) = some (name, symbol, supply, owner) := by
  have hread : Abi.decode [.text, .text, .word, .word] (tokenArguments name symbol supply owner)
      = some [.text name, .text symbol, .word supply, Abi.ofAddress owner] :=
    Abi.decode_encode (length_tokenArguments_lt supply owner hsize)
  simp [tokenOf?, hread, Abi.ofAddress, Abi.toAddress_ofAddress]

theorem tokenArguments_inj {name symbol name' symbol' : String} {supply supply' : Word}
    {owner owner' : Address} (hsize : name.utf8ByteSize + symbol.utf8ByteSize < 2 ^ 255)
    (h : tokenArguments name symbol supply owner = tokenArguments name' symbol' supply' owner') :
    name = name' ∧ symbol = symbol' ∧ supply = supply' ∧ owner = owner' := by
  have hvalues := Abi.encode_inj (by rfl) (length_tokenArguments_lt supply owner hsize) h
  simp only [List.cons.injEq, Abi.Value.text.injEq, Abi.Value.word.injEq, and_true] at hvalues
  obtain ⟨hname, hsymbol, hsupply, howner⟩ := hvalues
  exact ⟨hname, hsymbol, hsupply, Abi.ofAddress_inj howner⟩

/-! ## Calls -/

namespace Call

theorem length_selector (m : Method) : m.selector.length = 4 := by
  cases m <;> rfl

theorem selector_inj {m n : Method} (h : m.selector = n.selector) : m = n := by
  cases m <;> cases n <;> first | rfl | exact absurd h (by decide)

/-- Arguments of functions are words. -/
theorem kind_arguments (c : Call) :
    c.arguments.map Abi.Value.kind = List.replicate c.method.arity .word := by
  cases c <;> rfl

theorem ofArguments_arguments (c : Call) : ofArguments c.method c.arguments = some c := by
  cases c with
  | approve spender amount =>
    have hread : ofArguments .approve (Call.approve spender amount).arguments
        = some (.approve (Abi.toAddress (spender.val.setWidth 256)) amount) := rfl
    rw [method, hread, Abi.toAddress_ofAddress]
  | getPair tokenA tokenB =>
    have hread : ofArguments .getPair (Call.getPair tokenA tokenB).arguments
        = some (.getPair (Abi.toAddress (tokenA.val.setWidth 256))
            (Abi.toAddress (tokenB.val.setWidth 256))) := rfl
    rw [method, hread, Abi.toAddress_ofAddress, Abi.toAddress_ofAddress]
  | getReserves => rfl
  | addLiquidity t =>
    have hread : ofArguments .addLiquidity (Call.addLiquidity t).arguments
        = some (.addLiquidity { t with
            tokenA := Abi.toAddress (t.tokenA.val.setWidth 256)
            tokenB := Abi.toAddress (t.tokenB.val.setWidth 256)
            recipient := Abi.toAddress (t.recipient.val.setWidth 256) }) := rfl
    rw [method, hread, Abi.toAddress_ofAddress, Abi.toAddress_ofAddress, Abi.toAddress_ofAddress]

/-- **The data of a call are read as this call**, and as no other function's. -/
theorem decode_input_eq_some {c d : Call} {m : Method} :
    decode m c.input = some d ↔ m = c.method ∧ d = c := by
  have hselector : c.input.take 4 = c.method.selector := by
    rw [input, ← length_selector c.method, List.take_left]
  have hrest : c.input.drop 4 = Abi.encode c.arguments := by
    rw [input, ← length_selector c.method, List.drop_left]
  by_cases hm : m = c.method
  · have hlength : (Abi.encode c.arguments).length < 2 ^ 256 := by
      rw [Abi.length_encode_words c.kind_arguments]
      cases c.method <;> decide
    have hread := Abi.decode_encode hlength
    rw [c.kind_arguments] at hread
    have hdecode : decode c.method c.input = some c := by
      rw [decode, hselector, hrest, hread]
      simp [ofArguments_arguments]
    rw [hm, hdecode, Option.some_inj]
    exact ⟨fun h => ⟨rfl, h.symm⟩, fun h => h.2.symm⟩
  · have hother : ¬c.method.selector = m.selector := fun h => hm (selector_inj h).symm
    have hdecode : decode m c.input = none := by
      simp only [decode, hselector, guard, if_neg hother, Option.bind_eq_bind]
      rfl
    rw [hdecode]
    exact ⟨fun h => absurd h (by simp), fun h => absurd h.1 hm⟩

theorem input_injective : Function.Injective input := by
  intro c d h
  have hread : decode c.method d.input = some c := h ▸ decode_input_eq_some.mpr ⟨rfl, rfl⟩
  exact (decode_input_eq_some.mp hread).2

end Call

/-! ## What comes back -/

theorem reserves?_encode (r : Reserves) : reserves? r.encode = some r := by
  have hwords : words? 3 r.encode = some [r.reserve0.setWidth 256, r.reserve1.setWidth 256,
      BitVec.ofNat 256 r.timestamp.toNat] :=
    words?_encode [_, _, _] (by simp)
  have htime : UInt32.ofNat (BitVec.ofNat 256 r.timestamp.toNat).toNat = r.timestamp := by
    rw [BitVec.toNat_ofNat, Nat.mod_eq_of_lt (r.timestamp.toNat_lt.trans (by decide)),
      UInt32.ofNat_toNat]
  simp only [reserves?, hwords, Option.bind_eq_bind, Option.bind_some, htime,
    BitVec.setWidth_setWidth_of_le _ (show 112 ≤ 256 by decide), BitVec.setWidth_eq]

/-! ## All data -/

/-- **What contracts are told is what they read.**  A token is created with its name, symbol, supply
and owner in whole words, with zeros where a word is not full, and finds them there; no others are
written in the same way.  So do a factory and a router with their accounts.  The data of a call
are this call, for the function called and for no other, and different calls have different data.
Reserves come back as they are, in their order. -/
theorem data_readable (name symbol : String) (supply : Word) (owner : Address)
    (hsize : name.utf8ByteSize + symbol.utf8ByteSize < 2 ^ 255) :
    (tokenOf? (tokenArguments name symbol supply owner) = some (name, symbol, supply, owner) ∧
      32 ∣ (tokenArguments name symbol supply owner).length ∧
      (∃ nameFilled symbolFilled, Abi.Filled (Bytes.ofText name) nameFilled ∧
        Abi.Filled (Bytes.ofText symbol) symbolFilled ∧
        tokenArguments name symbol supply owner
          = number 128 ++ number (160 + nameFilled.length) ++ number supply.toNat
            ++ (List.replicate 12 0 ++ owner.bytes)
            ++ (number name.utf8ByteSize ++ nameFilled)
            ++ (number symbol.utf8ByteSize ++ symbolFilled)) ∧
      ∀ name' symbol' supply' owner',
        tokenArguments name symbol supply owner = tokenArguments name' symbol' supply' owner' →
        name = name' ∧ symbol = symbol' ∧ supply = supply' ∧ owner = owner') ∧
    (∀ feeToSetter, factoryOf? (factoryArguments feeToSetter) = some feeToSetter ∧
      32 ∣ (factoryArguments feeToSetter).length ∧
      factoryArguments feeToSetter = List.replicate 12 0 ++ feeToSetter.bytes) ∧
    (∀ factory weth, routerOf? (routerArguments factory weth) = some (factory, weth) ∧
      32 ∣ (routerArguments factory weth).length ∧
      routerArguments factory weth
        = (List.replicate 12 0 ++ factory.bytes) ++ (List.replicate 12 0 ++ weth.bytes)) ∧
    (∀ feeToSetter feeToSetter', factoryArguments feeToSetter = factoryArguments feeToSetter' →
      feeToSetter = feeToSetter') ∧
    (∀ factory weth factory' weth',
      routerArguments factory weth = routerArguments factory' weth' →
      factory = factory' ∧ weth = weth') ∧
    (∀ (c d : Call) (m : Method), Call.decode m c.input = some d ↔ m = c.method ∧ d = c) ∧
    Function.Injective Call.input ∧
    ∀ r : Reserves, reserves? r.encode = some r := by
  refine ⟨⟨tokenOf?_tokenArguments supply owner hsize, Abi.dvd_length_encode _,
      tokenArguments_eq name symbol supply owner, fun _ _ _ _ => tokenArguments_inj hsize⟩,
    fun feeToSetter => ⟨factoryOf?_factoryArguments feeToSetter, Abi.dvd_length_encode _,
      factoryArguments_eq feeToSetter⟩,
    fun factory weth => ⟨routerOf?_routerArguments factory weth, Abi.dvd_length_encode _,
      routerArguments_eq factory weth⟩,
    fun a b h => ?_, fun factory weth factory' weth' h => ?_,
    fun _ _ _ => Call.decode_input_eq_some, Call.input_injective, reserves?_encode⟩
  · have hread := factoryOf?_factoryArguments a
    rw [h, factoryOf?_factoryArguments] at hread
    exact (Option.some_inj.mp hread).symm
  · have hread := routerOf?_routerArguments factory weth
    rw [h, routerOf?_routerArguments] at hread
    have hpair := Prod.mk.inj (Option.some_inj.mp hread)
    exact ⟨hpair.1.symm, hpair.2.symm⟩

/-- A name with letters of several bytes, and a symbol of none: seven words. -/
theorem data_of_empty_symbol :
    "Dévnet".utf8ByteSize + "".utf8ByteSize < 2 ^ 255 ∧
    (tokenArguments "Dévnet" "" 1000 ⟨7⟩).length = 224 ∧
    tokenOf? (tokenArguments "Dévnet" "" 1000 ⟨7⟩) = some ("Dévnet", "", 1000, ⟨7⟩) :=
  ⟨by decide, by decide +kernel, (data_readable "Dévnet" "" 1000 ⟨7⟩ (by decide)).1.1⟩

end Contract
end LocalChain
