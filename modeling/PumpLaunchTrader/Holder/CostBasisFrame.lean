import PumpLaunchTrader.Holder.Ledger

/-! # Cost basis under balance updates

The rebuild starts from the token accounts, so it keeps the cost basis of the wallets
that own one and forgets the others. -/

namespace PumpLaunchTrader.HolderState

/-- The cost basis recorded for a wallet; an absent wallet has the default one. -/
def costBasisOf (s : HolderState) (wallet : PubkeyValue) : CostBasisPosition :=
  ((s.ownerBalances.lookup wallet.text).map HolderBalance.costBasis).getD {}

/-- The wallet owns a token account with a positive balance. -/
def ownsAccount (s : HolderState) (wallet : PubkeyValue) : Prop :=
  ∃ k account, s.tokenAccounts.lookup k = some account ∧ 0 < account.rawBalance ∧
    account.owner = wallet

theorem carriedHolder_costBasis (s : HolderState) (wallet : PubkeyValue) :
    (s.carriedHolder wallet).costBasis = s.costBasisOf wallet := by
  unfold carriedHolder costBasisOf
  cases s.ownerBalances.lookup wallet.text with
  | none => rfl
  | some old => rfl

theorem ownsAccount_iff (s : HolderState) (wallet : PubkeyValue) :
    s.ownsAccount wallet ↔ ∃ account ∈ s.positiveAccounts, account.owner.text = wallet.text := by
  unfold ownsAccount positiveAccounts
  constructor
  · rintro ⟨k, account, hlookup, hpos, rfl⟩
    refine ⟨account, ?_, rfl⟩
    rw [List.mem_filter, KeyedMap.mem_values_iff]
    exact ⟨⟨k, hlookup⟩, by simpa using hpos⟩
  · rintro ⟨account, hmem, howner⟩
    rw [List.mem_filter, KeyedMap.mem_values_iff] at hmem
    obtain ⟨⟨k, hlookup⟩, hpos⟩ := hmem
    exact ⟨k, account, hlookup, by simpa using hpos, PubkeyValue.text_inj.mp howner⟩

/-! ## The rebuild -/

theorem groupedAccounts_costBasis (s : HolderState) (observedAt : OffsetDateTime)
    (decimals : UInt8) {wallet : PubkeyValue} {holder : HolderBalance}
    (h : (s.groupedAccounts observedAt decimals).lookup wallet.text = some holder) :
    holder.costBasis = s.costBasisOf wallet := by
  apply KeyedMap.trait_lookup_foldl_upsert _ _ _ HolderBalance.costBasis _ _ h
  · intro _ _
    rfl
  · intro account _ howner
    rw [carriedHolder_costBasis, PubkeyValue.text_inj.mp howner]

/-- The second pass copies the old cost basis or keeps the one the first pass copied. -/
theorem withOldEntry_costBasis {s : HolderState} {wallet : PubkeyValue}
    {newHolder : HolderBalance} (h : newHolder.costBasis = s.costBasisOf wallet) :
    (s.withOldEntry wallet.text newHolder).costBasis = s.costBasisOf wallet := by
  unfold withOldEntry
  cases hold : s.ownerBalances.lookup wallet.text with
  | none => exact h
  | some old =>
      have hcarried : s.costBasisOf wallet = old.costBasis := by
        rw [costBasisOf, hold]
        rfl
      rw [hcarried] at h ⊢
      simp only [carryOver, h, ite_self]

/-- A wallet that owns a positive token account keeps its cost basis. -/
theorem costBasisOf_rebuild_of_owns {s : HolderState} {wallet : PubkeyValue}
    (h : s.ownsAccount wallet) (observedAt : OffsetDateTime) (decimals : UInt8) :
    (s.rebuildOwnerBalancesFromTokenAccounts observedAt decimals).costBasisOf wallet =
      s.costBasisOf wallet := by
  have hsome : ((s.groupedAccounts observedAt decimals).lookup wallet.text).isSome = true :=
    (KeyedMap.isSome_lookup_foldl_upsert _ _ _ _ _).mpr ((s.ownsAccount_iff wallet).mp h)
  obtain ⟨holder, hholder⟩ := Option.isSome_iff_exists.mp hsome
  have hbasis := s.groupedAccounts_costBasis observedAt decimals hholder
  have hlookup : (s.rebuildOwnerBalancesFromTokenAccounts observedAt
      decimals).ownerBalances.lookup wallet.text =
        some (refreshHolderBehaviour (s.withOldEntry wallet.text holder)) := by
    have hmap := KeyedMap.lookup_mapValues (s.groupedAccounts observedAt decimals)
      (fun owner newHolder => refreshHolderBehaviour (s.withOldEntry owner newHolder)) wallet.text
    rw [hholder] at hmap
    exact hmap
  rw [costBasisOf, hlookup, Option.map_some, Option.getD_some, refreshHolderBehaviour_costBasis,
    withOldEntry_costBasis hbasis]

/-- A wallet without a positive token account is dropped from the owner map. -/
theorem costBasisOf_rebuild_of_not_owns {s : HolderState} {wallet : PubkeyValue}
    (h : ¬ s.ownsAccount wallet) (observedAt : OffsetDateTime) (decimals : UInt8) :
    (s.rebuildOwnerBalancesFromTokenAccounts observedAt decimals).costBasisOf wallet = {} := by
  have hnone : (s.rebuiltOwnerBalances observedAt decimals).lookup wallet.text = none := by
    rw [← Option.not_isSome_iff_eq_none, isSome_lookup_rebuilt, ← ownsAccount_iff]
    exact h
  have hlookup : (s.rebuildOwnerBalancesFromTokenAccounts observedAt
      decimals).ownerBalances.lookup wallet.text = none := hnone
  rw [costBasisOf, hlookup]
  rfl

/-! ## Balance updates -/

/-- An update moves the account of its previous owner to its new owner; which other
wallets own a positive account stays the same. -/
theorem ownsAccount_recordUpdate {s : HolderState} {update : HolderBalanceUpdateEvent}
    {wallet : PubkeyValue} (h : ¬ s.touches update wallet) (event : NormalizedEvent)
    (decimals : UInt8) :
    (s.recordUpdate update event decimals).ownsAccount wallet ↔ s.ownsAccount wallet := by
  rw [touches, not_or] at h
  unfold ownsAccount
  rw [(s.recordUpdate_accounts update event decimals).1]
  constructor
  · rintro ⟨k, account, hlookup, hpos, rfl⟩
    rw [lookup_storeTokenAccount] at hlookup
    by_cases hk : k = update.tokenAccount.text
    · rw [if_pos hk] at hlookup
      exact absurd (storedAccount_some hlookup).2.1 h.1
    · rw [if_neg hk] at hlookup
      exact ⟨k, account, hlookup, hpos, rfl⟩
  · rintro ⟨k, account, hlookup, hpos, rfl⟩
    have hk : k ≠ update.tokenAccount.text := by
      rintro rfl
      apply h.2
      rw [previousOwner, hlookup]
      rfl
    refine ⟨k, account, ?_, hpos, rfl⟩
    rw [lookup_storeTokenAccount, if_neg hk]
    exact hlookup

/-- For a wallet that is neither the previous nor the new owner of the account, a balance
update keeps the cost basis exactly when the update is a duplicate, the wallet owns a
positive token account, or there is no cost basis to lose. -/
theorem costBasisOf_applyBalanceUpdate_iff (s : HolderState)
    (update : HolderBalanceUpdateEvent) (event : NormalizedEvent) (decimals : UInt8)
    (wallet : PubkeyValue) (hwallet : ¬ s.touches update wallet) :
    (s.applyBalanceUpdate update event decimals).costBasisOf wallet = s.costBasisOf wallet ↔
      holderUpdateDedupeKey update event ∈ s.appliedHolderUpdateKeys ∨
        s.ownsAccount wallet ∨ s.costBasisOf wallet = {} := by
  by_cases hseen : holderUpdateDedupeKey update event ∈ s.appliedHolderUpdateKeys
  · rw [applyBalanceUpdate_of_seen _ _ _ _ hseen]
    exact ⟨fun _ => Or.inl hseen, fun _ => rfl⟩
  · have hbasis : (s.countSeen.recordUpdate update event decimals).costBasisOf wallet =
        s.costBasisOf wallet := by
      rw [costBasisOf, recordUpdate_lookup_ownerBalances s.countSeen update event decimals hwallet]
      rfl
    have howns := s.countSeen.ownsAccount_recordUpdate hwallet event decimals
    rw [applyBalanceUpdate_of_fresh _ _ _ _ hseen]
    by_cases h : s.ownsAccount wallet
    · rw [costBasisOf_rebuild_of_owns (howns.mpr h), hbasis]
      exact ⟨fun _ => Or.inr (Or.inl h), fun _ => rfl⟩
    · rw [costBasisOf_rebuild_of_not_owns (mt howns.mp h)]
      constructor
      · intro heq
        exact Or.inr (Or.inr heq.symm)
      · rintro (hdup | hown | hdefault)
        · exact absurd hdup hseen
        · exact absurd hown h
        · exact hdefault.symm

/-! ## A wallet known only from trades -/

/-- A balance of another wallet's account. -/
def otherHolderUpdate : HolderBalanceUpdateEvent :=
  { mint := ⟨"mint"⟩
    ownerWallet := ⟨"holder"⟩
    tokenAccount := ⟨"holder-account"⟩
    newBalance := 5 }

def otherHolderEvent : NormalizedEvent :=
  { info :=
      { eventId := ⟨"update"⟩
        source := .geyserProcessed
        canonicality := .processed
        slot := 11
        accountWriteVersion := some 1 }
    payload := .holderBalanceUpdate otherHolderUpdate }

/-- The ledger after a buy of a wallet whose token account has not been seen. -/
def afterTraderBuy : HolderState :=
  runOps {} [.tradeCostBasis ⟨"trader"⟩ true 1 10 0 (1 / 10)]

theorem costBasisOf_applyBalanceUpdate_trader :
    (afterTraderBuy.applyBalanceUpdate otherHolderUpdate otherHolderEvent 6).costBasisOf
        ⟨"trader"⟩ = afterTraderBuy.costBasisOf ⟨"trader"⟩ ↔
      holderUpdateDedupeKey otherHolderUpdate otherHolderEvent ∈
          afterTraderBuy.appliedHolderUpdateKeys ∨
        afterTraderBuy.ownsAccount ⟨"trader"⟩ ∨ afterTraderBuy.costBasisOf ⟨"trader"⟩ = {} :=
  costBasisOf_applyBalanceUpdate_iff afterTraderBuy otherHolderUpdate otherHolderEvent 6
    ⟨"trader"⟩ (by unfold touches; decide)

/-- The buy of the trader is forgotten when the account of another holder is updated. -/
theorem costBasisOf_applyBalanceUpdate_forgets :
    ¬ ∀ (ops : List HolderOp) (update : HolderBalanceUpdateEvent) (event : NormalizedEvent)
        (decimals : UInt8) (wallet : PubkeyValue), ¬ (runOps {} ops).touches update wallet →
        ((runOps {} ops).applyBalanceUpdate update event decimals).costBasisOf wallet =
          (runOps {} ops).costBasisOf wallet := by
  intro h
  have hframe := h [.tradeCostBasis ⟨"trader"⟩ true 1 10 0 (1 / 10)] otherHolderUpdate
    otherHolderEvent 6 ⟨"trader"⟩ (by unfold touches; decide)
  revert hframe
  decide +kernel

end PumpLaunchTrader.HolderState
