import PumpLaunchTrader.Model.State.Holder

/-! # What a balance update changes

One description for each stage of `apply_balance_update`: the fields it writes, and the
entries of the owner map it leaves alone. -/

namespace PumpLaunchTrader

/-- The balance update that an event carries. -/
def NormalizedEvent.holderUpdate (event : NormalizedEvent) : Option HolderBalanceUpdateEvent :=
  match event.payload with
  | .holderBalanceUpdate update => some update
  | _ => none

namespace HolderState

/-! ## Owner deltas -/

/-- A delta writes the owner map only, and there at most the entry of its owner. -/
theorem applyOwnerDelta_eq (s : HolderState) (owner : PubkeyValue) (deltaRaw : Decimal)
    (decimals : UInt8) (observedAt : OffsetDateTime) :
    ∃ m : KeyedMap String HolderBalance,
      s.applyOwnerDelta owner deltaRaw decimals observedAt = { s with ownerBalances := m } ∧
        ∀ k, k ≠ owner.text → m.lookup k = s.ownerBalances.lookup k := by
  unfold applyOwnerDelta
  split
  · exact ⟨s.ownerBalances, rfl, fun _ _ => rfl⟩
  · refine ⟨_, rfl, ?_⟩
    intro k hk
    split
    · exact AList.lookup_erase_ne hk
    · exact AList.lookup_insert_ne hk

/-- The owners whose entries an update may rewrite directly. -/
def touches (s : HolderState) (update : HolderBalanceUpdateEvent) (wallet : PubkeyValue) :
    Prop :=
  wallet = update.ownerWallet ∨ s.previousOwner update.tokenAccount = some wallet

/-- The deltas of an update write counters and the owner map, and there at most the
entries of the previous and the new owner. -/
theorem applyOwnerDeltas_eq (s : HolderState) (update : HolderBalanceUpdateEvent)
    (decimals : UInt8) (observedAt : OffsetDateTime) :
    ∃ (c : HolderUpdateCounters) (m : KeyedMap String HolderBalance),
      s.applyOwnerDeltas update decimals observedAt =
          { s with counters := c, ownerBalances := m } ∧
        ∀ w : PubkeyValue, ¬ s.touches update w →
          m.lookup w.text = s.ownerBalances.lookup w.text := by
  unfold applyOwnerDeltas touches
  cases hprevious : s.previousOwner update.tokenAccount with
  | none =>
      obtain ⟨m, hm, hframe⟩ := s.applyOwnerDelta_eq update.ownerWallet
        (max update.newBalance 0) decimals observedAt
      refine ⟨s.counters, m, hm, ?_⟩
      intro w hw
      rw [not_or] at hw
      exact hframe w.text (mt PubkeyValue.text_inj.mp hw.1)
  | some owner =>
      by_cases howner : owner = update.ownerWallet
      · obtain ⟨m, hm, hframe⟩ := s.applyOwnerDelta_eq owner
          (max update.newBalance 0 - s.previousBalance update.tokenAccount) decimals observedAt
        refine ⟨s.counters, m, ?_, ?_⟩
        · simpa [howner] using hm
        · intro w hw
          rw [not_or] at hw
          exact hframe w.text (mt PubkeyValue.text_inj.mp (howner ▸ hw.1))
      · let counted : HolderState := { s with counters :=
          { s.counters with holderOwnerChanges := s.counters.holderOwnerChanges + 1 } }
        obtain ⟨m₁, hm₁, hframe₁⟩ := counted.applyOwnerDelta_eq owner
          (-s.previousBalance update.tokenAccount) decimals observedAt
        obtain ⟨m₂, hm₂, hframe₂⟩ := HolderState.applyOwnerDelta_eq
          { counted with ownerBalances := m₁ } update.ownerWallet (max update.newBalance 0)
          decimals observedAt
        refine ⟨counted.counters, m₂, ?_, ?_⟩
        · simp only [howner, ne_eq, not_false_eq_true, if_true]
          rw [hm₁, hm₂]
        · intro w hw
          rw [not_or] at hw
          rw [hframe₂ w.text (mt PubkeyValue.text_inj.mp hw.1)]
          refine hframe₁ w.text (mt PubkeyValue.text_inj.mp ?_)
          intro heq
          exact hw.2 (congrArg some heq.symm)

/-- The deltas of an update count no duplicate. -/
theorem applyOwnerDeltas_deduped (s : HolderState) (update : HolderBalanceUpdateEvent)
    (decimals : UInt8) (observedAt : OffsetDateTime) :
    (s.applyOwnerDeltas update decimals observedAt).counters.holderUpdatesDeduped =
      s.counters.holderUpdatesDeduped := by
  have hdelta : ∀ (s : HolderState) (owner : PubkeyValue) (delta : Decimal),
      (s.applyOwnerDelta owner delta decimals observedAt).counters = s.counters := by
    intro s owner delta
    obtain ⟨m, hm, -⟩ := s.applyOwnerDelta_eq owner delta decimals observedAt
    rw [hm]
  unfold applyOwnerDeltas
  cases s.previousOwner update.tokenAccount with
  | none => simp only [hdelta]
  | some owner =>
      by_cases howner : owner = update.ownerWallet
      · simp only [howner, ne_eq, not_true_eq_false, if_false, hdelta]
      · simp only [howner, ne_eq, not_false_eq_true, if_true, hdelta]

/-! ## The stages together -/

section RecordUpdate

variable (s : HolderState) (update : HolderBalanceUpdateEvent) (event : NormalizedEvent)
  (decimals : UInt8)

/-- An update stores its token account and its key; before the rebuild, only the entries of the
previous and the new owner can differ. -/
theorem recordUpdate_eq :
    ∃ (c : HolderUpdateCounters) (m : KeyedMap String HolderBalance)
      (lastUpdatedAt : Option OffsetDateTime),
      s.recordUpdate update event decimals =
          { s.storeTokenAccount update event decimals with
            counters := c
            ownerBalances := m
            appliedHolderUpdateKeys :=
              insert (holderUpdateDedupeKey update event) s.appliedHolderUpdateKeys
            lastUpdatedAt := lastUpdatedAt } ∧
        ∀ w : PubkeyValue, ¬ s.touches update w →
          m.lookup w.text = s.ownerBalances.lookup w.text := by
  obtain ⟨c, m, heq, hframe⟩ := HolderState.applyOwnerDeltas_eq
    { s with
      appliedHolderUpdateKeys :=
        insert (holderUpdateDedupeKey update event) s.appliedHolderUpdateKeys }
    update decimals event.info.receivedAtWallTime
  unfold recordUpdate
  simp only [heq]
  exact ⟨_, _, _, rfl, hframe⟩

/-- The token-account maps after an update. -/
theorem recordUpdate_accounts :
    (s.recordUpdate update event decimals).tokenAccounts =
        (s.storeTokenAccount update event decimals).tokenAccounts ∧
      (s.recordUpdate update event decimals).tokenAccountBalances =
        (s.storeTokenAccount update event decimals).tokenAccountBalances ∧
      (s.recordUpdate update event decimals).tokenAccountToOwner =
        (s.storeTokenAccount update event decimals).tokenAccountToOwner := by
  obtain ⟨c, m, lastUpdatedAt, heq, -⟩ := s.recordUpdate_eq update event decimals
  rw [heq]
  exact ⟨rfl, rfl, rfl⟩

theorem recordUpdate_keys :
    (s.recordUpdate update event decimals).appliedHolderUpdateKeys =
      insert (holderUpdateDedupeKey update event) s.appliedHolderUpdateKeys := by
  obtain ⟨c, m, lastUpdatedAt, heq, -⟩ := s.recordUpdate_eq update event decimals
  rw [heq]

theorem recordUpdate_deduped :
    (s.recordUpdate update event decimals).counters.holderUpdatesDeduped =
      s.counters.holderUpdatesDeduped := by
  unfold recordUpdate
  exact applyOwnerDeltas_deduped _ update decimals event.info.receivedAtWallTime

/-- Before the rebuild, only the entries of the previous and the new owner can differ. -/
theorem recordUpdate_lookup_ownerBalances {w : PubkeyValue} (h : ¬ s.touches update w) :
    (s.recordUpdate update event decimals).ownerBalances.lookup w.text =
      s.ownerBalances.lookup w.text := by
  obtain ⟨c, m, lastUpdatedAt, heq, hframe⟩ := s.recordUpdate_eq update event decimals
  rw [heq]
  exact hframe w h

theorem applyBalanceUpdate_of_seen
    (h : holderUpdateDedupeKey update event ∈ s.appliedHolderUpdateKeys) :
    s.applyBalanceUpdate update event decimals = s.countSeen.countDeduped :=
  if_pos h

theorem applyBalanceUpdate_of_fresh
    (h : holderUpdateDedupeKey update event ∉ s.appliedHolderUpdateKeys) :
    s.applyBalanceUpdate update event decimals =
      (s.countSeen.recordUpdate update event decimals).rebuildOwnerBalancesFromTokenAccounts
        event.info.receivedAtWallTime decimals :=
  if_neg h

end RecordUpdate

/-! ## Stored token accounts -/

section StoreTokenAccount

variable (s : HolderState) (update : HolderBalanceUpdateEvent) (event : NormalizedEvent)
  (decimals : UInt8)

/-- The account that an update stores under its key, if its balance is positive. -/
def storedAccount : Option TokenAccountState :=
  if max update.newBalance 0 ≤ 0 then none
  else some
    { mint := update.mint
      tokenAccount := update.tokenAccount
      owner := update.ownerWallet
      rawBalance := max update.newBalance 0
      uiBalance := rawTokensToUi (max update.newBalance 0) decimals
      decimals := decimals
      lastSlot := event.info.slot
      lastSequence := event.info.accountWriteVersion.orElse fun _ =>
        event.info.transactionIndex
      source := event.info.source }

theorem lookup_storeTokenAccount (k : String) :
    (s.storeTokenAccount update event decimals).tokenAccounts.lookup k =
      if k = update.tokenAccount.text then storedAccount update event decimals
      else s.tokenAccounts.lookup k :=
  KeyedMap.lookup_insert_unless s.tokenAccounts _ k _ _

theorem lookup_storeTokenAccount_balances (k : String) :
    (s.storeTokenAccount update event decimals).tokenAccountBalances.lookup k =
      if k = update.tokenAccount.text then
        (storedAccount update event decimals).map TokenAccountState.rawBalance
      else s.tokenAccountBalances.lookup k := by
  have h := KeyedMap.lookup_insert_unless s.tokenAccountBalances update.tokenAccount.text k
    (max update.newBalance 0) (max update.newBalance 0 ≤ 0)
  rw [storedAccount, apply_ite (Option.map TokenAccountState.rawBalance)]
  exact h

theorem lookup_storeTokenAccount_owner (k : String) :
    (s.storeTokenAccount update event decimals).tokenAccountToOwner.lookup k =
      if k = update.tokenAccount.text then some update.ownerWallet
      else s.tokenAccountToOwner.lookup k := by
  unfold storeTokenAccount
  by_cases hk : k = update.tokenAccount.text
  · subst hk
    simp
  · simp only [hk, if_false]
    exact AList.lookup_insert_ne hk

/-- A stored account is positive and belongs to the new owner. -/
theorem storedAccount_some {update : HolderBalanceUpdateEvent} {event : NormalizedEvent}
    {decimals : UInt8} {account : TokenAccountState}
    (h : storedAccount update event decimals = some account) :
    0 < account.rawBalance ∧ account.owner = update.ownerWallet ∧
      account.rawBalance = max update.newBalance 0 := by
  unfold storedAccount at h
  split at h
  · cases h
  · rename_i hpos
    cases h
    exact ⟨not_le.mp hpos, rfl, rfl⟩

end StoreTokenAccount

end HolderState

end PumpLaunchTrader
