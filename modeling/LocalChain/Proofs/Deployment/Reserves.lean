import LocalChain.Proofs.Deployment.Liquidity
import LocalChain.Proofs.Ether.Printing
import LocalChain.Proofs.Session.Reports
import LocalChain.Proofs.Settings.Amounts

/-!
# What is reported of a pair

A pair that is found is reported in one event, with what it holds of its tokens as amounts of ether
(`Deployment.enters_checkPair`).  Settings take these texts as the amounts that they are
(`readAmount_format`), so nothing about the reserves is lost in the journal (`reserves_readable`).
-/

namespace LocalChain

/-- **The text of an amount is an amount in any field.** -/
theorem readAmount_format (field : String) (w : Word) :
    readAmount field (Ether.format w) = some (.ok w) := by
  have hfits : w.toNat < 2 ^ 256 := w.isLt
  rw [readAmount_of_denotes (Text.padded_self _) (Ether.written_format w).denotes,
    Ether.floor_scaled_wei, if_pos hfits, BitVec.ofNat_toNat, BitVec.setWidth_eq]

/-- **A pair that is found is reported**, and nothing else is. -/
theorem Deployment.enters_checkPair {σ : Type} (d : Deployment σ)
    (factory tokenA tokenB : Address) : (d.checkPair factory tokenA tokenB).Enters
      fun state => [.event (.pairReserves state.pair state.reserve0 state.reserve1)] := by
  refine (d.deployer.enters_read _ _ _).silent_bind fun pair => ?_
  split
  · exact .throw
  · refine (d.deployer.enters_read _ _ _).silent_bind fun reserves => ?_
    exact .report_pure rfl

/-- **Reserves are read back from their texts.**  Every amount of 256 bits is written as its whole part in
ether, a point and eighteen digits.  This text is taken as exactly that amount in every field, so different
amounts have different texts.

A look for a pair succeeds exactly if the factory names one and it returns what it holds.  Then there is
one entry in the journal, whose two texts are taken as the two reserves. -/
theorem reserves_readable :
    (∀ w, Ether.Written w (Ether.format w).toList ∧
      ∀ field, readAmount field (Ether.format w) = some (.ok w)) ∧
    Function.Injective Ether.format ∧
    ∀ {σ : Type} (d : Deployment σ) (r : DeploymentRecord) (a b : Address) (s : Session σ)
      (state : PairState),
      ((∃ s', (d.checkPair r.factory a b).runFrom s = (.ok state, s')) ↔
        ∃ h, d.Found r a b s.node state h) ∧
      ∀ s', (d.checkPair r.factory a b).runFrom s = (.ok state, s') →
        ∃ e text0 text1, s'.journal = s.journal ++ [.event e] ∧ e.message = "Pair reserves" ∧
          e.fields = [("pair", state.pair.display), ("reserve0", text0), ("reserve1", text1)] ∧
          ∀ field, readAmount field text0 = some (.ok state.reserve0) ∧
            readAmount field text1 = some (.ok state.reserve1) := by
  refine ⟨fun w => ⟨Ether.written_format w, fun field => readAmount_format field w⟩,
    Ether.format_injective, fun d r a b s state => ⟨⟨?_, ?_⟩, fun s' hrun => ?_⟩⟩
  · rintro ⟨s', hrun⟩
    obtain ⟨h, -, hfound⟩ := d.found_of_checkPair r hrun
    exact ⟨h, hfound⟩
  · rintro ⟨h, hfound⟩
    exact d.exists_checkPair_of_found r hfound
  · have hjournal := (d.enters_checkPair r.factory a b).journal_eq hrun
    exact ⟨_, _, _, hjournal, rfl, rfl, fun field =>
      ⟨readAmount_format field state.reserve0, readAmount_format field state.reserve1⟩⟩

/-- All places are written, also of the largest amount. -/
example : Ether.format (BitVec.allOnes 256) =
    "115792089237316195423570985008687907853269984665640564039457.584007913129639935" := by
  decide +kernel

end LocalChain
