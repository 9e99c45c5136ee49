import LocalChain.Deployment.Record
import LocalChain.Proofs.Files.Contents
import LocalChain.Proofs.Json.Documents
import LocalChain.Proofs.Json.Kinds
import LocalChain.Proofs.Settings.Sections
import LocalChain.Proofs.Text.Hexadecimal

/-!
# The record of a deployment is read back

A record is kept as text, so that other programs find the contracts again.  Nothing is lost by that:
the text is JSON, and what is read from it is the record (`text_readable`), whatever characters the
names of the tokens are made of.

Records that others wrote may differ in their form, for an address has more than one and a pair that
is not there may be said to be null.  Reading and writing such a text brings it to the one form that
is written here, and a second time changes nothing.
-/

namespace LocalChain

open Json.Reading

namespace DeploymentRecord

/-- The keys of a record. -/
def keys : List String :=
  ["chain_id", "deployer", "weth", "factory", "router", "tokens", "pair"]

/-- A text that holds a record, in the form that the record is written in. -/
def rewritten? (s : String) : Option String :=
  (parse s).map text

/-! ## The value of a record -/

theorem address?_text (a : Address) : address? (.str a.text) = some a := by
  rw [address?, Address.parse_text]

theorem token?_toJson (t : DeployedToken) : token? t.toJson = some t := by
  simp [token?, DeployedToken.toJson, fields, member, Given.require, Json.Reading.text,
    address?_text]

theorem tokens_toJson (tokens : List DeployedToken) :
    list token? (.arr (tokens.map DeployedToken.toJson)) = some tokens := by
  refine list_iff.mpr ⟨_, rfl, List.forall₂_map_left_iff.mpr ?_⟩
  exact List.forall₂_same.mpr fun t _ => token?_toJson t

/-- **The value of a record is read as the record.** -/
theorem ofJson_toJson (r : DeploymentRecord) : ofJson r.toJson = some r := by
  obtain ⟨chainId, deployer, weth, factory, router, tokens, pair⟩ := r
  have hchain : word64 (.int chainId.toNat) = some chainId := word64_iff.mpr rfl
  have htokens := tokens_toJson tokens
  cases pair with
  | none =>
    simp [ofJson, toJson, fields, member, Given.require, Given.get, address?_text, hchain, htokens]
  | some a =>
    have hpair : Json.Reading.optional address? (.str a.text) = some (some a) :=
      (optional_some_iff rfl).mpr (address?_text a)
    simp [ofJson, toJson, fields, member, Given.require, Given.get, address?_text, hchain, htokens,
      hpair]

theorem arePlain_tokens (tokens : List DeployedToken) :
    Json.arePlain (tokens.map DeployedToken.toJson) := by
  induction tokens with
  | nil => rfl
  | cons t tokens ih => simpa [Json.arePlain, Json.isPlain, Json.membersPlain, DeployedToken.toJson]

theorem isPlain_toJson (r : DeploymentRecord) : r.toJson.isPlain := by
  have htokens := arePlain_tokens r.tokens
  cases hpair : r.pair <;>
    simp [toJson, hpair, Json.isPlain, Json.membersPlain, htokens]

/-! ## Its text -/

theorem parse_text (r : DeploymentRecord) : parse r.text = some r := by
  rw [parse, text, Json.parseLoose_pretty r.isPlain_toJson]
  exact ofJson_toJson r

/-- Writing what was read brings a text to its last form at once. -/
theorem rewritten?_idempotent (s : String) : rewritten? s >>= rewritten? = rewritten? s := by
  cases hparse : parse s with
  | none => simp [rewritten?, hparse]
  | some r => simp [rewritten?, hparse, parse_text]

/-- There is no pair where nothing is given for one, or null is. -/
theorem pair_eq_none_iff {j : Json} {r : DeploymentRecord} (h : ofJson j = some r) :
    r.pair = none ↔ entry keys "pair" j = none ∨ entry keys "pair" j = some .null := by
  simp only [ofJson, Option.bind_eq_bind, Option.bind_eq_some_iff, Option.pure_def,
    Option.some.injEq] at h
  obtain ⟨given, hfields, _, -, _, -, _, -, _, -, _, -, _, -, pair, hpair, rfl⟩ := h
  have hfield : Json.Reading.Field keys j "pair" (Json.Reading.optional address?) none pair :=
    field_of_get hfields (by decide) 6 rfl hpair
  rw [Json.Reading.Field, Json.Reading.Part] at hfield
  split at hfield
  · rename_i hentry
    simpa [hentry] using hfield
  · rename_i value hentry
    rw [hentry]
    constructor
    · rintro rfl
      exact .inr (congrArg some (optional_none_iff.mp hfield))
    · rintro (hnone | hnull)
      · cases hnone
      · obtain rfl := Option.some.inj hnull
        exact (Option.some.inj hfield).symm

/-- What a file holds after a record was written to it. -/
theorem readText_of_write {r : DeploymentRecord} {files files' : Files} {path : String}
    (h : r.write files path = .ok files') : files'.readText path = .ok r.text := by
  rw [write] at h
  cases hwrite : files.write path (Bytes.ofText r.text) with
  | error e =>
    rw [hwrite] at h
    cases h
  | ok written =>
    rw [hwrite] at h
    obtain rfl := Except.ok.inj h
    exact Files.readText_of_write hwrite

/-- **What is written of a deployment can be read again.**  The text of a record is JSON for an object
that is read as this very record, with a pair among its members exactly if the record has one, and it
is what the file holds that the record was written to.  A text from elsewhere that is read as some
record takes this form when it is written again, and keeps it; it has no pair exactly if it gives
none, or null. -/
theorem text_readable :
    (∀ r : DeploymentRecord, ∃ members,
      Json.parse r.text = some (.obj members) ∧ ofJson (.obj members) = some r ∧
      parse r.text = some r ∧ ("pair" ∈ members.map Prod.fst ↔ r.pair.isSome) ∧
      ∀ files path files', r.write files path = .ok files' →
        files'.readText path = .ok r.text) ∧
    (∀ s, rewritten? s >>= rewritten? = rewritten? s) ∧
    ∀ s j r, Json.parseLoose s = some j → ofJson j = some r →
      rewritten? s = some r.text ∧
      (r.pair = none ↔ entry keys "pair" j = none ∨ entry keys "pair" j = some .null) := by
  refine ⟨fun r => ⟨_, Json.parse_pretty r.isPlain_toJson, ofJson_toJson r, parse_text r, ?_, ?_⟩,
    rewritten?_idempotent, fun s j r hj hr => ⟨?_, pair_eq_none_iff hr⟩⟩
  · cases hpair : r.pair <;> simp
  · intro files path files' h
    exact readText_of_write h
  · have hparse : parse s = some r := by
      rw [parse, hj]
      exact hr
    rw [rewritten?, hparse, Option.map_some]

end DeploymentRecord
end LocalChain
