import PumpLaunchTrader.Holder.CostBasisFrame

/-! # How a balance update loses a cost basis

For every wallet, the ones that an update touches included: a wallet keeps its cost basis if
the deltas leave its balance positive and it has a positive token account behind the update. -/

namespace PumpLaunchTrader.HolderState

/-- What the owner deltas of an update add to the balance of a wallet. -/
def ownerDelta (s : HolderState) (update : HolderBalanceUpdateEvent) (wallet : PubkeyValue) :
    Decimal :=
  (if wallet = update.ownerWallet then max update.newBalance 0 else 0) -
    (if s.previousOwner update.tokenAccount = some wallet then
      s.previousBalance update.tokenAccount else 0)

/-- The balance of a wallet is left alone by the owner deltas, or stays positive. -/
def StaysPositive (s : HolderState) (update : HolderBalanceUpdateEvent)
    (wallet : PubkeyValue) : Prop :=
  s.ownerDelta update wallet = 0 ∨ 0 < s.balanceOf wallet + s.ownerDelta update wallet

instance (s : HolderState) (update : HolderBalanceUpdateEvent) (wallet : PubkeyValue) :
    Decidable (s.StaysPositive update wallet) :=
  inferInstanceAs (Decidable (_ ∨ _))

/-- The wallet has a positive token account behind the update. -/
def OwnsBehind (s : HolderState) (update : HolderBalanceUpdateEvent) (wallet : PubkeyValue) :
    Prop :=
  wallet = update.ownerWallet ∧ 0 < update.newBalance ∨
    ∃ k account, k ≠ update.tokenAccount.text ∧ s.tokenAccounts.lookup k = some account ∧
      0 < account.rawBalance ∧ account.owner = wallet

/-- The update is a duplicate or leaves the wallet in the owner map all the way. -/
def KeepsBasis (s : HolderState) (update : HolderBalanceUpdateEvent) (event : NormalizedEvent)
    (wallet : PubkeyValue) : Prop :=
  holderUpdateDedupeKey update event ∈ s.appliedHolderUpdateKeys ∨
    s.StaysPositive update wallet ∧ s.OwnsBehind update wallet

/-! ## Owner deltas -/

theorem costBasisOf_congr {s t : HolderState} {wallet : PubkeyValue}
    (h : t.ownerBalances.lookup wallet.text = s.ownerBalances.lookup wallet.text) :
    t.costBasisOf wallet = s.costBasisOf wallet := by
  rw [costBasisOf, h, costBasisOf]

theorem costBasisOf_applyOwnerDelta_ne (s : HolderState) {owner wallet : PubkeyValue}
    (h : wallet ≠ owner) (delta : Decimal) (decimals : UInt8) (observedAt : OffsetDateTime) :
    (s.applyOwnerDelta owner delta decimals observedAt).costBasisOf wallet =
      s.costBasisOf wallet := by
  obtain ⟨m, heq, hframe⟩ := s.applyOwnerDelta_eq owner delta decimals observedAt
  rw [heq]
  exact costBasisOf_congr (hframe _ (mt PubkeyValue.text_inj.mp h))

/-- A delta keeps the cost basis of its owner if it is nothing or leaves the balance
positive. -/
theorem costBasisOf_applyOwnerDelta (s : HolderState) (owner : PubkeyValue) (delta : Decimal)
    (decimals : UInt8) (observedAt : OffsetDateTime) :
    (s.applyOwnerDelta owner delta decimals observedAt).costBasisOf owner =
      if delta = 0 ∨ 0 < s.balanceOf owner + delta then s.costBasisOf owner else {} := by
  have hentry : ((s.ownerBalances.lookup owner.text).getD {}).costBasis = s.costBasisOf owner ∧
      ((s.ownerBalances.lookup owner.text).getD {}).balance = s.balanceOf owner := by
    rw [costBasisOf, balanceOf]
    cases s.ownerBalances.lookup owner.text with
    | none => exact ⟨rfl, rfl⟩
    | some holder => exact ⟨rfl, rfl⟩
  unfold applyOwnerDelta
  by_cases hkept : delta = 0 ∧ owner.text ∈ s.ownerBalances
  · rw [if_pos hkept, if_pos (.inl hkept.1)]
  · rw [if_neg hkept]
    simp only [hentry.2]
    by_cases hgone : s.balanceOf owner + delta ≤ 0
    · have habsent : delta = 0 → s.costBasisOf owner = {} := by
        intro hdelta
        have hnone : s.ownerBalances.lookup owner.text = none :=
          AList.lookup_eq_none.mpr fun hmem => hkept ⟨hdelta, hmem⟩
        rw [costBasisOf, hnone]
        rfl
      simp only [if_pos hgone, costBasisOf, AList.lookup_erase]
      split
      · rename_i hcase
        rcases hcase with hdelta | hpos
        · exact (habsent hdelta).symm
        · exact absurd hpos (not_lt.mpr hgone)
      · rfl
    · rw [if_neg hgone, if_pos (Or.inr (not_le.mp hgone)), costBasisOf, AList.lookup_insert]
      exact hentry.1

theorem balanceOf_applyOwnerDelta_ne (s : HolderState) {owner wallet : PubkeyValue}
    (h : wallet ≠ owner) (delta : Decimal) (decimals : UInt8) (observedAt : OffsetDateTime) :
    (s.applyOwnerDelta owner delta decimals observedAt).balanceOf wallet = s.balanceOf wallet := by
  obtain ⟨m, heq, hframe⟩ := s.applyOwnerDelta_eq owner delta decimals observedAt
  rw [heq, balanceOf, hframe _ (mt PubkeyValue.text_inj.mp h), balanceOf]

theorem ite_staysPositive {s : HolderState} {update : HolderBalanceUpdateEvent}
    {wallet : PubkeyValue} (delta : Decimal) (h : s.ownerDelta update wallet = delta)
    (x y : CostBasisPosition) :
    (if s.StaysPositive update wallet then x else y) =
      if delta = 0 ∨ 0 < s.balanceOf wallet + delta then x else y := by
  subst h
  rfl

/-- The owner that an update names, whoever held the account before. -/
theorem costBasisOf_applyOwnerDeltas_self (s : HolderState) (update : HolderBalanceUpdateEvent)
    (decimals : UInt8) (observedAt : OffsetDateTime) :
    (s.applyOwnerDeltas update decimals observedAt).costBasisOf update.ownerWallet =
      if s.StaysPositive update update.ownerWallet then s.costBasisOf update.ownerWallet
      else {} := by
  simp only [applyOwnerDeltas]
  cases hprevious : s.previousOwner update.tokenAccount with
  | none =>
    rw [ite_staysPositive (max update.newBalance 0) (by simp [ownerDelta, hprevious])]
    exact s.costBasisOf_applyOwnerDelta _ _ _ _
  | some owner =>
    by_cases howner : owner = update.ownerWallet
    · rw [ite_staysPositive (max update.newBalance 0 - s.previousBalance update.tokenAccount)
        (by simp [ownerDelta, hprevious, howner])]
      simp only [ne_eq, howner, not_true_eq_false, if_false]
      exact s.costBasisOf_applyOwnerDelta _ _ _ _
    · rw [ite_staysPositive (max update.newBalance 0) (by simp [ownerDelta, hprevious, howner])]
      simp only [ne_eq, howner, not_false_eq_true, if_true]
      rw [costBasisOf_applyOwnerDelta, balanceOf_applyOwnerDelta_ne _ (Ne.symm howner),
        costBasisOf_applyOwnerDelta_ne _ (Ne.symm howner)]
      rfl

/-- The other owners, of whom the one before gives up what the account held. -/
theorem costBasisOf_applyOwnerDeltas_ne (s : HolderState) (update : HolderBalanceUpdateEvent)
    (decimals : UInt8) (observedAt : OffsetDateTime) {wallet : PubkeyValue}
    (hwallet : wallet ≠ update.ownerWallet) :
    (s.applyOwnerDeltas update decimals observedAt).costBasisOf wallet =
      if s.StaysPositive update wallet then s.costBasisOf wallet else {} := by
  simp only [applyOwnerDeltas]
  cases hprevious : s.previousOwner update.tokenAccount with
  | none =>
    rw [ite_staysPositive 0 (by simp [ownerDelta, hprevious, hwallet])]
    simp only [true_or, if_true]
    exact s.costBasisOf_applyOwnerDelta_ne hwallet _ _ _
  | some owner =>
    by_cases howner : owner = update.ownerWallet
    · have hne : wallet ≠ owner := howner ▸ hwallet
      rw [ite_staysPositive 0 (by simp [ownerDelta, hprevious, hwallet, Ne.symm hne])]
      simp only [ne_eq, howner, not_true_eq_false, if_false, true_or, if_true]
      exact s.costBasisOf_applyOwnerDelta_ne hwallet _ _ _
    · simp only [ne_eq, howner, not_false_eq_true, if_true]
      rw [costBasisOf_applyOwnerDelta_ne _ hwallet]
      by_cases hgiven : owner = wallet
      · subst hgiven
        rw [ite_staysPositive (-s.previousBalance update.tokenAccount)
          (by simp [ownerDelta, hprevious, hwallet]),
          costBasisOf_applyOwnerDelta]
        rfl
      · rw [ite_staysPositive 0 (by simp [ownerDelta, hprevious, hwallet, hgiven]),
          costBasisOf_applyOwnerDelta_ne _ (Ne.symm hgiven)]
        simp [costBasisOf]

/-- The deltas of an update keep the cost basis of every wallet whose balance stays positive,
and forget the others. -/
theorem costBasisOf_applyOwnerDeltas (s : HolderState) (update : HolderBalanceUpdateEvent)
    (decimals : UInt8) (observedAt : OffsetDateTime) (wallet : PubkeyValue) :
    (s.applyOwnerDeltas update decimals observedAt).costBasisOf wallet =
      if s.StaysPositive update wallet then s.costBasisOf wallet else {} := by
  by_cases hwallet : wallet = update.ownerWallet
  · rw [hwallet]
    exact s.costBasisOf_applyOwnerDeltas_self update decimals observedAt
  · exact s.costBasisOf_applyOwnerDeltas_ne update decimals observedAt hwallet

/-! ## The update -/

theorem ownsAccount_recordUpdate_iff (s : HolderState) (update : HolderBalanceUpdateEvent)
    (event : NormalizedEvent) (decimals : UInt8) (wallet : PubkeyValue) :
    (s.recordUpdate update event decimals).ownsAccount wallet ↔ s.OwnsBehind update wallet := by
  simp only [ownsAccount, OwnsBehind, (s.recordUpdate_accounts update event decimals).1,
    lookup_storeTokenAccount]
  constructor
  · rintro ⟨k, account, hlookup, hpos, rfl⟩
    by_cases hk : k = update.tokenAccount.text
    · rw [if_pos hk] at hlookup
      obtain ⟨-, howner, hraw⟩ := storedAccount_some hlookup
      rw [hraw, lt_max_iff] at hpos
      exact .inl ⟨howner, hpos.resolve_right (lt_irrefl _)⟩
    · rw [if_neg hk] at hlookup
      exact .inr ⟨k, account, hk, hlookup, hpos, rfl⟩
  · rintro (⟨rfl, hpos⟩ | ⟨k, account, hk, hlookup, hpos, rfl⟩)
    · have hmax : ¬ max update.newBalance 0 ≤ 0 := not_le.mpr (lt_max_of_lt_left hpos)
      cases hstored : storedAccount update event decimals with
      | none => simp [storedAccount, hmax] at hstored
      | some account =>
        obtain ⟨hraw, howner, -⟩ := storedAccount_some hstored
        exact ⟨update.tokenAccount.text, account, if_pos rfl, hraw, howner⟩
    · exact ⟨k, account, by rw [if_neg hk, hlookup], hpos, rfl⟩

theorem costBasisOf_recordUpdate (s : HolderState) (update : HolderBalanceUpdateEvent)
    (event : NormalizedEvent) (decimals : UInt8) (wallet : PubkeyValue) :
    (s.recordUpdate update event decimals).costBasisOf wallet =
      if s.StaysPositive update wallet then s.costBasisOf wallet else {} :=
  costBasisOf_applyOwnerDeltas
    { s with
      appliedHolderUpdateKeys :=
        insert (holderUpdateDedupeKey update event) s.appliedHolderUpdateKeys }
    update decimals event.info.receivedAtWallTime wallet

theorem costBasisOf_applyBalanceUpdate_of_keeps {s : HolderState}
    {update : HolderBalanceUpdateEvent} {event : NormalizedEvent} {wallet : PubkeyValue}
    (h : s.KeepsBasis update event wallet) (decimals : UInt8) :
    (s.applyBalanceUpdate update event decimals).costBasisOf wallet = s.costBasisOf wallet := by
  by_cases hseen : holderUpdateDedupeKey update event ∈ s.appliedHolderUpdateKeys
  · rw [applyBalanceUpdate_of_seen _ _ _ _ hseen]
    rfl
  · obtain ⟨hpositive, howns⟩ : s.countSeen.StaysPositive update wallet ∧
        s.countSeen.OwnsBehind update wallet := h.resolve_left hseen
    rw [applyBalanceUpdate_of_fresh _ _ _ _ hseen,
      costBasisOf_rebuild_of_owns ((ownsAccount_recordUpdate_iff _ _ _ _ _).mpr howns),
      costBasisOf_recordUpdate, if_pos hpositive]
    rfl

theorem costBasisOf_applyBalanceUpdate_of_not_keeps {s : HolderState}
    {update : HolderBalanceUpdateEvent} {event : NormalizedEvent} {wallet : PubkeyValue}
    (h : ¬ s.KeepsBasis update event wallet) (decimals : UInt8) :
    (s.applyBalanceUpdate update event decimals).costBasisOf wallet = {} := by
  obtain ⟨hseen, hlost⟩ := not_or.mp h
  rw [applyBalanceUpdate_of_fresh _ _ _ _ hseen]
  by_cases howns : s.countSeen.OwnsBehind update wallet
  · rw [costBasisOf_rebuild_of_owns ((ownsAccount_recordUpdate_iff _ _ _ _ _).mpr howns),
      costBasisOf_recordUpdate]
    exact if_neg fun hpositive => hlost ⟨hpositive, howns⟩
  · exact costBasisOf_rebuild_of_not_owns (mt (ownsAccount_recordUpdate_iff _ _ _ _ _).mp howns)
      _ _

end PumpLaunchTrader.HolderState
