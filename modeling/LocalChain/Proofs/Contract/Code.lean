import LocalChain.Proofs.Contract.Layouts
import LocalChain.Proofs.Json.Documents
import LocalChain.Proofs.Text.Spelling
import LocalChain.Proofs.Text.Trimming

/-!
# The code that is loaded

The text of code is taken without the blanks around it and without one `0x` in front (`bare`).  There
has to be something left, and no open place of a library in it; then it is decoded, by a reader that
passes over a mark of its own.  So there is code in an artifact and all of its text is read, unless the
text has two marks in front (`loaded_iff`).

Code that is spelled with one mark or none is loaded from every layout (`loaded_of_spelled`).
-/

namespace LocalChain

theorem except_mapError_eq_ok_iff {ε ε' α : Type} {f : ε → ε'} {x : Except ε α} {a : α} :
    x.mapError f = .ok a ↔ x = .ok a := by
  cases x with
  | error e => exact iff_of_false nofun nofun
  | ok b =>
    constructor
    · rintro ⟨⟩
      rfl
    · rintro ⟨⟩
      rfl

theorem Json.isWhole_of_parse {s : String} {j : Json} (h : Json.parse s = some j) : j.isWhole :=
  (Option.filter_eq_some_iff.mp h).2

namespace Artifact

open Json.Reading

/-- The text of code without the blanks around it and without one `0x` in front. -/
def bare (code : String) : List Char :=
  match Text.trim code.toList with
  | '0' :: 'x' :: cs => cs
  | cs => cs

variable {fallback s code : String} {a : Artifact} {bs : Bytes} {cs : List Char}

/-! ## Marks and open places -/

theorem not_mem_of_spells (h : Hex.Spells (Hex.dropMark cs) bs) : '_' ∉ cs := by
  intro hmem
  have hrest : '_' ∈ Hex.dropMark cs := by
    rcases Hex.dropMark_cases cs with hcs | ⟨x, rfl | rfl, hcs⟩
    · rwa [hcs]
    all_goals
      rw [hcs] at hmem
      simpa using hmem
  exact absurd (h.isDigit '_' hrest) (by decide)

theorem hasPlaceholder_eq_false (h : '_' ∉ cs) : hasPlaceholder cs = false := by
  induction cs with
  | nil => rfl
  | cons c cs ih =>
    obtain ⟨hc, hcs⟩ : '_' ≠ c ∧ '_' ∉ cs := by simpa using h
    rw [hasPlaceholder]
    · exact ih hcs
    · rintro _ rfl
      exact (hc rfl).elim

/-- All of a text is read, and there are bytes in it, unless it has a mark. -/
theorem spells_self_iff (hcs : cs ≠ []) (h : Hex.Spells (Hex.dropMark cs) bs) :
    Hex.Spells cs bs ∧ bs ≠ [] ↔ Hex.dropMark cs = cs := by
  constructor
  · rintro ⟨hself, -⟩
    have hlength : cs.length = (Hex.dropMark cs).length := hself.length.trans h.length.symm
    rcases Hex.dropMark_cases cs with hmark | ⟨x, -, hmark⟩
    · exact hmark
    · have hlonger : cs.length = (Hex.dropMark cs).length + 2 := congrArg List.length hmark
      omega
  · intro hmark
    rw [hmark] at h
    refine ⟨h, ?_⟩
    rintro rfl
    exact hcs (List.length_eq_zero_iff.mp h.length)

/-- There are no bytes in a text if it is a mark and nothing else. -/
theorem eq_nil_iff (hcs : cs ≠ []) (h : Hex.Spells (Hex.dropMark cs) bs) :
    bs = [] ↔ cs = ['0', 'x'] ∨ cs = ['0', 'X'] := by
  constructor
  · rintro rfl
    have hrest : Hex.dropMark cs = [] := List.length_eq_zero_iff.mp h.length
    rcases Hex.dropMark_cases cs with hmark | ⟨x, hx, hmark⟩
    · exact (hcs (hmark.symm.trans hrest)).elim
    · rw [hrest] at hmark
      rcases hx with rfl | rfl
      · exact .inl hmark
      · exact .inr hmark
  · intro hmark
    have hlength : 0 = 2 * bs.length := by
      rcases hmark with rfl | rfl <;> exact h.length
    exact List.length_eq_zero_iff.mp (by omega)

/-! ## What is loaded -/

/-- **What is read of the text of code**: there is something to read, and the bytes are those that it
spells after one more mark, if it has one. -/
theorem readCode_eq_ok_iff :
    readCode code = .ok bs ↔ bare code ≠ [] ∧ Hex.Spells (Hex.dropMark (bare code)) bs := by
  have hread : readCode code =
      if (bare code).isEmpty then .error .emptyBytecode
      else if hasPlaceholder (bare code) then .error .unlinked
      else (Hex.decode (bare code)).mapError .badHex := rfl
  rw [hread, ← Hex.decode_eq_ok_iff]
  split
  · rename_i hempty
    simp [List.isEmpty_iff.mp hempty]
  rename_i hne
  rw [and_iff_right (mt List.isEmpty_iff.mpr hne)]
  split
  · rename_i hplace
    refine iff_of_false nofun fun hdecode => ?_
    have hdigits := not_mem_of_spells (Hex.decode_eq_ok_iff.mp hdecode)
    rw [hasPlaceholder_eq_false hdigits] at hplace
    cases hplace
  · exact except_mapError_eq_ok_iff

theorem map_readCode_eq_ok_iff {name : String} :
    (readCode code).map (Artifact.mk name) = .ok a ↔
      a.name = name ∧ readCode code = .ok a.bytecode := by
  rw [except_map_eq_ok_iff]
  constructor
  · rintro ⟨bytecode, hcode, rfl⟩
    exact ⟨rfl, hcode⟩
  · rintro ⟨rfl, hcode⟩
    exact ⟨a.bytecode, hcode, rfl⟩

/-- A text is loaded if a value that it is gives code that can be read. -/
theorem ofJson_eq_ok_iff : ofJson fallback s = .ok a ↔
    ∃ j name top inner code, Json.parse s = some j ∧ Outlined name top inner j ∧
      (top <|> inner.join) = some code ∧ a.name = name.getD fallback ∧
      readCode code = .ok a.bytecode := by
  have hload : ofJson fallback s = .ok a ↔ ∃ name code,
      Json.parse s >>= outline = some (name, some code) ∧ a.name = name.getD fallback ∧
        readCode code = .ok a.bytecode := by
    rw [ofJson]
    split
    · rename_i hnone
      simp [hnone]
    · rename_i name hnone
      simp [hnone]
    · rename_i name code hsome
      simp [hsome, map_readCode_eq_ok_iff]
  rw [hload]
  constructor
  · rintro ⟨name, code, hs, hname, hcode⟩
    obtain ⟨j, hj, houtline⟩ := Option.bind_eq_some_iff.mp hs
    obtain ⟨top, inner, hout, hchoice⟩ := (outline_iff (Json.isWhole_of_parse hj)).mp houtline
    exact ⟨j, name, top, inner, code, hj, hout, hchoice.symm, hname, hcode⟩
  · rintro ⟨j, name, top, inner, code, hj, hout, hchoice, hname, hcode⟩
    have houtline := (outline_iff (Json.isWhole_of_parse hj)).mpr ⟨top, inner, hout, hchoice.symm⟩
    exact ⟨name, code, Option.bind_eq_some_iff.mpr ⟨j, hj, houtline⟩, hname, hcode⟩

/-- The text of a file that an artifact comes from. -/
theorem ofFile_eq_ok_iff {files : Files} {path : String} : ofFile files path = .ok a ↔
    ∃ s, files.readText path = .ok s ∧ ofJson (Path.stem path) s = .ok a := by
  rw [ofFile]
  cases files.readText path with
  | error e => simp
  | ok s => simp [except_mapError_eq_ok_iff]

/-- Every artifact of a deployment is that of a file. -/
theorem exists_file_of_ofFiles {files : Files} {d : DeploySettings} {set : ArtifactSet}
    (h : ArtifactSet.ofFiles files d = .ok set) :
    ∀ a ∈ [set.weth, set.factory, set.router, set.token], ∃ path, ofFile files path = .ok a := by
  have hstep {path : String} {rest : Artifact → Except DeployError ArtifactSet}
      (h : (ofFile files path >>= rest) = .ok set) :
      ∃ a, ofFile files path = .ok a ∧ rest a = .ok set := by
    cases ha : ofFile files path with
    | error e => rw [ha] at h; cases h
    | ok a => rw [ha] at h; exact ⟨a, rfl, h⟩
  obtain ⟨weth, hweth, h⟩ := hstep h
  obtain ⟨factory, hfactory, h⟩ := hstep h
  obtain ⟨router, hrouter, h⟩ := hstep h
  obtain ⟨token, htoken, h⟩ := hstep h
  cases h
  simp only [List.forall_mem_cons, List.not_mem_nil, false_imp_iff, implies_true, and_true]
  exact ⟨⟨_, hweth⟩, ⟨_, hfactory⟩, ⟨_, hrouter⟩, ⟨_, htoken⟩⟩

/-- **What is loaded.**  The code is the first that is written in one of the ways; there is something of
it left without the mark, and the bytes are all that it spells, where one more mark does not count.

A second mark is all that can be wrong with it.  No place of a library is open in what is loaded; the
text is read in full and has bytes in it if there is no second mark, and there are none if a second mark
is all there is.  The artifacts of a deployment are loaded from files in this way. -/
theorem loaded_iff (fallback s : String) :
    (∀ a, ofJson fallback s = .ok a ↔ ∃ j name top inner code, Json.parse s = some j ∧
      Outlined name top inner j ∧ (top <|> inner.join) = some code ∧
      a.name = name.getD fallback ∧ bare code ≠ [] ∧
      Hex.Spells (Hex.dropMark (bare code)) a.bytecode) ∧
    (∀ code bs, bare code ≠ [] → Hex.Spells (Hex.dropMark (bare code)) bs →
      '_' ∉ bare code ∧
      (Hex.Spells (bare code) bs ∧ bs ≠ [] ↔ Hex.dropMark (bare code) = bare code) ∧
      (bs = [] ↔ bare code = ['0', 'x'] ∨ bare code = ['0', 'X'])) ∧
    ∀ files d set, ArtifactSet.ofFiles files d = .ok set →
      ∀ a ∈ [set.weth, set.factory, set.router, set.token], ∃ path text,
        files.readText path = .ok text ∧ ofJson (Path.stem path) text = .ok a := by
  refine ⟨fun a => ?_, fun code bs hne hspells => ?_, fun files d set hset a ha => ?_⟩
  · rw [ofJson_eq_ok_iff]
    simp only [readCode_eq_ok_iff]
  · exact ⟨not_mem_of_spells hspells, spells_self_iff hne hspells, eq_nil_iff hne hspells⟩
  · obtain ⟨path, hpath⟩ := exists_file_of_ofFiles hset a ha
    exact ⟨path, ofFile_eq_ok_iff.mp hpath⟩

/-- Two marks and nothing else are loaded as no code at all, and what comes after two marks as code. -/
theorem loads_second_mark :
    ofJson "Fallback" "\x7b\"bytecode\": \"0x0x\"\x7d" = .ok ⟨"Fallback", []⟩ ∧
    ofJson "Fallback" "\x7b\"bytecode\": \"0X\"\x7d" = .ok ⟨"Fallback", []⟩ ∧
    ofJson "Fallback" "\x7b\"bytecode\": \"0x0x60\"\x7d" = .ok ⟨"Fallback", [0x60]⟩ ∧
    ¬Hex.Spells (bare "0x0x60") [0x60] := by
  decide +kernel

/-! ## Code in every layout -/

theorem dropMark_of_spells (h : Hex.Spells cs bs) : Hex.dropMark cs = cs :=
  (Hex.spells_iff.mp h).dropMark_eq_self

/-- What a text of digits with one mark or none, and blanks around it, is taken as. -/
theorem bare_of_padded {mark : List Char} (hmark : mark = [] ∨ mark = ['0', 'x'])
    (hcode : Text.Padded (mark ++ cs) code) (h : Hex.Spells cs bs) : bare code = cs := by
  have hblank : ∀ c ∈ mark ++ cs, Text.isBlank c = false := by
    intro c hc
    rcases List.mem_append.mp hc with hc | hc
    · rcases hmark with rfl | rfl
      · cases hc
      · obtain rfl | rfl : c = '0' ∨ c = 'x' := by simpa using hc
        · rfl
        · rfl
    · exact Hex.isBlank_of_isDigit (h.isDigit c hc)
  rw [bare, Text.trim_of_padded hcode hblank]
  rcases hmark with rfl | rfl
  · rw [List.nil_append]
    split
    · exact absurd (h.isDigit 'x' (by simp)) (by decide)
    · rfl
  · rfl

/-- **Every layout loads the same code.**  An object in which no key occurs twice gives the code of an
artifact as a text or as the member of an object, at the top or in the section; the code at the top
decides if there is any.  What it is loaded as depends on the bytes that the text spells, and neither on
the place nor on the case of the digits, the mark or the blanks; and the name is the fallback if there
is none. -/
theorem loaded_of_spelled {members : List (String × Json)} {name top : Option String}
    {inner : Option (Option String)} {mark digits : List Char}
    (hparse : Json.parse s = some (.obj members)) (hkeys : (members.map Prod.fst).Nodup)
    (hname : Offers Form.text members "contractName" name)
    (htop : Offers (CodeForm 1) members "bytecode" top)
    (hinner : Offers SectionForm members "evm" inner) (hcode : (top <|> inner.join) = some code)
    (hmark : mark = [] ∨ mark = ['0', 'x']) (hpadded : Text.Padded (mark ++ digits) code)
    (hspells : Hex.Spells digits bs) (hbs : bs ≠ []) :
    ofJson fallback s = .ok ⟨name.getD fallback, bs⟩ := by
  have hbare : bare code = digits := bare_of_padded hmark hpadded hspells
  have hdigits : digits ≠ [] := by
    rintro rfl
    have hlength : 0 = 2 * bs.length := hspells.length
    exact hbs (List.length_eq_zero_iff.mp (by omega))
  have hread : readCode code = .ok bs := by
    rw [readCode_eq_ok_iff, hbare, dropMark_of_spells hspells]
    exact ⟨hdigits, hspells⟩
  have hout : Outlined name top inner (.obj members) :=
    .object (fun key _ => List.nodup_iff_count_le_one.mp hkeys key) hname htop hinner
  exact ofJson_eq_ok_iff.mpr ⟨_, _, _, _, _, hparse, hout, hcode, rfl, hread⟩

/-- The code in a section, next to much else. -/
def sectioned : List (String × Json) :=
  [("abi", .arr [.null]), ("contractName", .str "Pair"), ("bytecode", .null),
    ("evm", .obj [("gas", .int 7), ("bytecode", .obj
      [("links", .obj []), ("object", .str " 0x60aBCd\n")])])]

theorem loaded_of_sectioned :
    ofJson "Fallback" (String.ofList ((Json.obj sectioned).pretty 0)) =
      .ok ⟨"Pair", [0x60, 0xab, 0xcd]⟩ := by
  have hparse : Json.parse (String.ofList ((Json.obj sectioned).pretty 0)) =
      some (.obj sectioned) := Json.parse_pretty rfl
  have hcode : CodeForm 2 " 0x60aBCd\n"
      (.obj [("links", .obj []), ("object", .str " 0x60aBCd\n")]) :=
    .object (by decide) (by simp) (by decide) (by decide)
  have hinner : SectionForm (some " 0x60aBCd\n") (.obj [("gas", .int 7), ("bytecode", .obj
      [("links", .obj []), ("object", .str " 0x60aBCd\n")])]) :=
    .object (by decide) (.given (by simp) hcode)
  have hpadded : Text.Padded (['0', 'x'] ++ "60aBCd".toList) " 0x60aBCd\n" :=
    ⟨[' '], ['\n'], by decide, List.forall_mem_singleton.mpr rfl, List.forall_mem_singleton.mpr rfl⟩
  have hspells : Hex.Spells "60aBCd".toList [0x60, 0xab, 0xcd] := by decide
  exact loaded_of_spelled hparse (by decide) (.given (by simp [sectioned]) rfl)
    (.null (by simp [sectioned])) (.given (by simp [sectioned]) hinner) rfl (.inr rfl) hpadded
    hspells (by decide)

/-- A number without a double and half of a surrogate pair keep an object from being read, at the top
and in the section, though nobody asks for them and the code is there. -/
theorem not_loaded_of_bystander :
    (((Json.parse "\x7b\"bytecode\": \x7b\"object\": \"60\", \"x\": 1e999\x7d\x7d").bind
      (Json.get? "bytecode")).bind (Json.get? "object")).bind text = some "60" ∧
    ofJson "X" "\x7b\"bytecode\": \x7b\"object\": \"60\", \"x\": 1e999\x7d\x7d" =
      .error .notAnArtifact ∧
    ofJson "X" "\x7b\"bytecode\": \x7b\"object\": \"60\", \"x\": \"\\ud800\"\x7d\x7d" =
      .error .notAnArtifact ∧
    ofJson "X" "\x7b\"evm\": \x7b\"bytecode\": \x7b\"object\": \"60\", \"x\": 1e999\x7d\x7d\x7d" =
      .error .notAnArtifact := by
  decide +kernel

end Artifact
end LocalChain
