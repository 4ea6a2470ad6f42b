import PumpLaunchTrader.Model.State.Curve
import PumpLaunchTrader.Lib.Extremes

/-! # Convergence of bonding-curve updates

`BondingCurveState` is a latest-wins register, versioned by (slot, write version) in
lexicographic order. -/

namespace PumpLaunchTrader.BondingCurveState

/-- An account snapshot together with the slot it was delivered with. -/
abbrev SlotUpdate := BondingCurveUpdateEvent × ℕ

/-- The version an update carries; a missing write version counts as 0. -/
def version (u : SlotUpdate) : ℕ ×ₗ ℕ :=
  toLex (u.2, u.1.accountWriteVersion.getD 0)

/-- The version of the snapshot a curve holds. -/
def stamp (curve : BondingCurveState) : ℕ ×ₗ ℕ :=
  toLex (curve.updateSlot, curve.updateWriteVersion)

/-- Fold `apply_update` over updates in delivery order. -/
def applyUpdates (curve : BondingCurveState) (us : List SlotUpdate) : BondingCurveState :=
  us.foldl (fun curve u => (curve.applyUpdate u.1 u.2).1) curve

/-- The curve as a latest-wins register. -/
def register : LatestWins BondingCurveState SlotUpdate (ℕ ×ₗ ℕ) where
  stamp := stamp
  version := version
  write u curve := curve.acceptUpdate u.1 u.2
  stamp_write _ _ := rfl

theorem isStale_iff_version_lt (curve : BondingCurveState) (u : SlotUpdate) :
    curve.isStale u.2 (u.1.accountWriteVersion.getD 0) = true ↔ version u < curve.stamp := by
  simp [isStale, version, stamp, Prod.Lex.toLex_lt_toLex]

theorem applyUpdate_eq_step (curve : BondingCurveState) (u : SlotUpdate) :
    (curve.applyUpdate u.1 u.2).1 = register.step curve u := by
  have hstale := curve.isStale_iff_version_lt u
  unfold applyUpdate LatestWins.step
  by_cases h : version u < curve.stamp
  · rw [if_pos (hstale.mpr h)]
    exact (if_pos h).symm
  · rw [if_neg (mt hstale.mp h)]
    exact (if_neg h).symm

theorem applyUpdates_eq_run (curve : BondingCurveState) (us : List SlotUpdate) :
    curve.applyUpdates us = register.run curve us := by
  unfold applyUpdates LatestWins.run
  congr
  funext curve u
  exact curve.applyUpdate_eq_step u

/-- Every field but the launch price. -/
def exceptLaunchPrice (curve : BondingCurveState) : BondingCurveState :=
  { curve with launchPrice := none }

/-- The fields that `apply_update` leaves to its callers. -/
def callerFields (curve : BondingCurveState) :
    Option OffsetDateTime × Decimal × QuoteAssetType :=
  (curve.lastUpdatedAt, curve.accountUpdateConfidence, curve.quoteAssetType)

theorem callerFields_acceptUpdate (u : SlotUpdate) (curve : BondingCurveState) :
    (curve.acceptUpdate u.1 u.2).callerFields = curve.callerFields := rfl

/-- An accepted update rewrites every field it owns from the event alone. -/
theorem exceptLaunchPrice_acceptUpdate (u : SlotUpdate) (curve other : BondingCurveState)
    (h : curve.callerFields = other.callerFields) :
    (curve.acceptUpdate u.1 u.2).exceptLaunchPrice =
      (other.acceptUpdate u.1 u.2).exceptLaunchPrice := by
  simp only [callerFields, Prod.mk.injEq] at h
  obtain ⟨hat, hconfidence, hquote⟩ := h
  simp [exceptLaunchPrice, acceptUpdate, hat, hconfidence, hquote]

theorem stamp_default_le (v : ℕ ×ₗ ℕ) : stamp {} ≤ v := by
  obtain ⟨slot, writeVersion⟩ := v
  have h : toLex (0, 0) ≤ toLex (slot, writeVersion) := by
    rw [Prod.Lex.toLex_le_toLex]
    rcases Nat.eq_zero_or_pos slot with h | h
    · exact Or.inr ⟨h.symm, Nat.zero_le _⟩
    · exact Or.inl h
  exact h

/-- The version of the held snapshot never decreases along a run. -/
theorem stamp_le_applyUpdates (curve : BondingCurveState) (us : List SlotUpdate) :
    curve.stamp ≤ (curve.applyUpdates us).stamp := by
  rw [applyUpdates_eq_run]
  exact register.stamp_le_run curve us

/-- Updates with distinct versions converge: in any delivery order the default state ends
as the one the greatest version writes, up to the launch price. Along any run the version
of the held snapshot never decreases. -/
theorem applyUpdates_converge :
    (∀ us vs : List SlotUpdate, us.Pairwise (fun u w => version u ≠ version w) → us.Perm vs →
      (applyUpdates {} us).exceptLaunchPrice = (applyUpdates {} vs).exceptLaunchPrice ∧
        ∀ m ∈ us, (∀ u ∈ us, version u ≤ version m) →
          (applyUpdates {} us).exceptLaunchPrice =
            (applyUpdate {} m.1 m.2).1.exceptLaunchPrice) ∧
      ∀ (curve : BondingCurveState) (us next : List SlotUpdate),
        (curve.applyUpdates us).stamp ≤ (curve.applyUpdates (us ++ next)).stamp := by
  refine ⟨?_, ?_⟩
  · intro us vs hdistinct hperm
    refine ⟨?_, ?_⟩
    · rw [applyUpdates_eq_run, applyUpdates_eq_run]
      exact register.view_run_perm callerFields_acceptUpdate exceptLaunchPrice_acceptUpdate
        hperm hdistinct fun u _ => stamp_default_le (version u)
    · intro m hm hgreatest
      have hstep : (applyUpdate {} m.1 m.2).1 = acceptUpdate {} m.1 m.2 := by
        rw [applyUpdate_eq_step]
        exact register.step_of_le (stamp_default_le (version m))
      rw [applyUpdates_eq_run, hstep]
      exact register.view_run_greatest callerFields_acceptUpdate
        exceptLaunchPrice_acceptUpdate hdistinct hm hgreatest (stamp_default_le (version m))
  · intro curve us next
    have hsplit : curve.applyUpdates (us ++ next) = (curve.applyUpdates us).applyUpdates next :=
      List.foldl_append
    rw [hsplit]
    exact (curve.applyUpdates us).stamp_le_applyUpdates next

/-- A snapshot in slot 10 with the given write version. -/
def sampleUpdate (price : Decimal) (writeVersion : ℕ) : SlotUpdate :=
  ({ mint := ⟨"mint"⟩
     virtualQuoteReserves := 30000000000
     virtualTokenReserves := 1073000000000000
     realQuoteReserves := 0
     realTokenReserves := 793100000000000
     price := price
     accountWriteVersion := some writeVersion }, 10)

/-- Two snapshots of one slot, delivered in either order. -/
theorem applyUpdates_converge_sample :
    (applyUpdates {} [sampleUpdate 1 7, sampleUpdate 2 6]).exceptLaunchPrice =
      (applyUpdates {} [sampleUpdate 2 6, sampleUpdate 1 7]).exceptLaunchPrice :=
  (applyUpdates_converge.1 [sampleUpdate 1 7, sampleUpdate 2 6]
    [sampleUpdate 2 6, sampleUpdate 1 7] (by decide) (by decide)).1

end PumpLaunchTrader.BondingCurveState
