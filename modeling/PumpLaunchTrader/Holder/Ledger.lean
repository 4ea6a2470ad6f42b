import PumpLaunchTrader.Holder.Distribution

/-! # The holder ledger invariant

Balance updates and trades keep the token-account maps, the owner balances and the
ranking consistent with each other, in any order and number. -/

namespace PumpLaunchTrader

/-- A call on the holder ledger. -/
inductive HolderOp where
  | balanceUpdate (update : HolderBalanceUpdateEvent) (event : NormalizedEvent)
      (tokenDecimals : UInt8)
  | tradeCostBasis (owner : PubkeyValue) (isBuy : Bool) (quote tokens : Decimal)
      (observedAt : OffsetDateTime) (latestPrice : Decimal)

namespace HolderState

def applyOp (s : HolderState) : HolderOp → HolderState
  | .balanceUpdate update event tokenDecimals => s.applyBalanceUpdate update event tokenDecimals
  | .tradeCostBasis owner isBuy quote tokens observedAt latestPrice =>
    s.applyTradeCostBasis owner isBuy quote tokens observedAt latestPrice

/-- Run a sequence of calls. -/
def runOps (s : HolderState) (ops : List HolderOp) : HolderState :=
  ops.foldl applyOp s

/-! ## The invariant -/

/-- The three token-account maps agree, and stored balances are positive. -/
structure AccountsAgree (s : HolderState) : Prop where
  sameKeys : ∀ k, k ∈ s.tokenAccounts ↔ k ∈ s.tokenAccountBalances
  positive : ∀ k account, s.tokenAccounts.lookup k = some account → 0 < account.rawBalance
  balance : ∀ k account, s.tokenAccounts.lookup k = some account →
    s.tokenAccountBalances.lookup k = some account.rawBalance
  owner : ∀ k account, s.tokenAccounts.lookup k = some account →
    s.tokenAccountToOwner.lookup k = some account.owner

/-- The holder ledger invariant. -/
structure LedgerInvariant (s : HolderState) : Prop where
  accounts : s.AccountsAgree
  ownerBalance : ∀ owner, s.balanceOf owner = position s.tokenAccounts.values owner
  holderCount : s.nonzeroHolderCount = (ownersOf s.tokenAccounts.values).card
  topSorted : s.topHolders.Pairwise fun left right => right.balance ≤ left.balance
  topLength : s.topHolders.length = min 20 s.nonzeroHolderCount
  topDistinct : (s.topHolders.map HolderDistributionSnapshot.owner).Nodup
  topPct : (s.topHolders.map HolderDistributionSnapshot.pctSupplyProxy).sum ≤ 1

theorem ledgerInvariant_default : LedgerInvariant {} where
  accounts :=
    { sameKeys := fun _ => Iff.rfl
      positive := fun _ _ h => by cases h
      balance := fun _ _ h => by cases h
      owner := fun _ _ h => by cases h }
  ownerBalance _ := rfl
  holderCount := rfl
  topSorted := List.Pairwise.nil
  topLength := rfl
  topDistinct := List.nodup_nil
  topPct := zero_le_one

/-! ## Steps -/

/-- Storing an account keeps the token-account maps in agreement. -/
theorem accountsAgree_storeTokenAccount {s : HolderState} (h : s.AccountsAgree)
    (update : HolderBalanceUpdateEvent) (event : NormalizedEvent) (decimals : UInt8) :
    (s.storeTokenAccount update event decimals).AccountsAgree where
  sameKeys k := by
    rw [← AList.lookup_isSome, ← AList.lookup_isSome, lookup_storeTokenAccount,
      lookup_storeTokenAccount_balances]
    by_cases hk : k = update.tokenAccount.text
    · simp [hk]
    · simpa [hk, AList.lookup_isSome] using h.sameKeys k
  positive k account hlookup := by
    rw [lookup_storeTokenAccount] at hlookup
    by_cases hk : k = update.tokenAccount.text
    · rw [if_pos hk] at hlookup
      exact (storedAccount_some hlookup).1
    · rw [if_neg hk] at hlookup
      exact h.positive k account hlookup
  balance k account hlookup := by
    rw [lookup_storeTokenAccount] at hlookup
    rw [lookup_storeTokenAccount_balances]
    by_cases hk : k = update.tokenAccount.text
    · rw [if_pos hk] at hlookup
      rw [if_pos hk, hlookup]
      rfl
    · rw [if_neg hk] at hlookup
      rw [if_neg hk]
      exact h.balance k account hlookup
  owner k account hlookup := by
    rw [lookup_storeTokenAccount] at hlookup
    rw [lookup_storeTokenAccount_owner]
    by_cases hk : k = update.tokenAccount.text
    · rw [if_pos hk] at hlookup
      rw [if_pos hk, (storedAccount_some hlookup).2.1]
    · rw [if_neg hk] at hlookup
      rw [if_neg hk]
      exact h.owner k account hlookup

theorem AccountsAgree.of_eq {s t : HolderState} (h : s.AccountsAgree)
    (haccounts : t.tokenAccounts = s.tokenAccounts)
    (hbalances : t.tokenAccountBalances = s.tokenAccountBalances)
    (howners : t.tokenAccountToOwner = s.tokenAccountToOwner) : t.AccountsAgree where
  sameKeys := by
    rw [haccounts, hbalances]
    exact h.sameKeys
  positive := by
    rw [haccounts]
    exact h.positive
  balance := by
    rw [haccounts, hbalances]
    exact h.balance
  owner := by
    rw [haccounts, howners]
    exact h.owner

theorem AccountsAgree.positiveAccounts_eq {s : HolderState} (h : s.AccountsAgree) :
    s.positiveAccounts = s.tokenAccounts.values := by
  unfold positiveAccounts
  rw [List.filter_eq_self]
  intro account hmem
  obtain ⟨k, hk⟩ := (KeyedMap.mem_values_iff _ _).mp hmem
  simpa using h.positive k account hk

/-- The rebuild establishes the invariant from the token accounts alone. -/
theorem ledgerInvariant_rebuild {s : HolderState} (h : s.AccountsAgree)
    (observedAt : OffsetDateTime) (decimals : UInt8) :
    (s.rebuildOwnerBalancesFromTokenAccounts observedAt decimals).LedgerInvariant := by
  have hpositive := h.positiveAccounts_eq
  have hvalues : ∀ holder ∈ (s.rebuiltOwnerBalances observedAt decimals).values,
      0 < holder.balance :=
    fun _ hmem => s.rebuilt_values_pos observedAt decimals hmem
  refine ⟨h.of_eq rfl rfl rfl, ?_, ?_, topHolders_sorted _ _ _, topHolders_length _ _ _,
    topHolders_nodup _ _ _, topHolders_pct_le_one _ _ _ fun holder hmem =>
      (hvalues holder hmem).le⟩
  · intro owner
    rw [balanceOf_rebuild, hpositive]
    rfl
  · have hcount : (s.rebuildOwnerBalancesFromTokenAccounts observedAt
        decimals).nonzeroHolderCount =
          (s.rebuiltOwnerBalances observedAt decimals).keys.length := by
      have hall : (s.rebuiltOwnerBalances observedAt decimals).values.countP
          (fun holder => 0 < holder.balance) =
            (s.rebuiltOwnerBalances observedAt decimals).values.length := by
        rw [List.countP_eq_length]
        intro holder hmem
        simpa using hvalues holder hmem
      calc
        (s.rebuildOwnerBalancesFromTokenAccounts observedAt decimals).nonzeroHolderCount =
            (s.rebuiltOwnerBalances observedAt decimals).values.length := hall
        _ = (s.rebuiltOwnerBalances observedAt decimals).keys.length := by
            simp [KeyedMap.values, AList.keys, List.keys]
    rw [hcount, keys_rebuilt_length, hpositive]
    rfl

theorem ledgerInvariant_applyBalanceUpdate {s : HolderState} (h : s.LedgerInvariant)
    (update : HolderBalanceUpdateEvent) (event : NormalizedEvent) (decimals : UInt8) :
    (s.applyBalanceUpdate update event decimals).LedgerInvariant := by
  by_cases hseen : holderUpdateDedupeKey update event ∈ s.appliedHolderUpdateKeys
  · rw [applyBalanceUpdate_of_seen _ _ _ _ hseen]
    exact ⟨h.accounts.of_eq rfl rfl rfl, h.ownerBalance, h.holderCount, h.topSorted,
      h.topLength, h.topDistinct, h.topPct⟩
  · rw [applyBalanceUpdate_of_fresh _ _ _ _ hseen]
    obtain ⟨haccounts, hbalances, howners⟩ :=
      s.countSeen.recordUpdate_accounts update event decimals
    have hcounted : s.countSeen.AccountsAgree := h.accounts.of_eq rfl rfl rfl
    have hstored := accountsAgree_storeTokenAccount hcounted update event decimals
    exact ledgerInvariant_rebuild (hstored.of_eq haccounts hbalances howners) _ _

/-- A trade moves no balance. -/
theorem balanceOf_applyTradeCostBasis (s : HolderState) (wallet : PubkeyValue) (isBuy : Bool)
    (quote tokens : Decimal) (observedAt : OffsetDateTime) (latestPrice : Decimal)
    (owner : PubkeyValue) :
    (s.applyTradeCostBasis wallet isBuy quote tokens observedAt latestPrice).balanceOf owner =
      s.balanceOf owner := by
  unfold balanceOf applyTradeCostBasis
  by_cases h : owner.text = wallet.text
  · rw [h, KeyedMap.lookup_upsert_self]
    cases s.ownerBalances.lookup wallet.text with
    | none => rfl
    | some holder => rfl
  · rw [KeyedMap.lookup_upsert_ne _ h]

theorem ledgerInvariant_applyTradeCostBasis {s : HolderState} (h : s.LedgerInvariant)
    (wallet : PubkeyValue) (isBuy : Bool) (quote tokens : Decimal)
    (observedAt : OffsetDateTime) (latestPrice : Decimal) :
    (s.applyTradeCostBasis wallet isBuy quote tokens observedAt latestPrice).LedgerInvariant := by
  refine ⟨h.accounts.of_eq rfl rfl rfl, ?_, h.holderCount, h.topSorted, h.topLength,
    h.topDistinct, h.topPct⟩
  intro owner
  rw [balanceOf_applyTradeCostBasis]
  exact h.ownerBalance owner

theorem ledgerInvariant_applyOp {s : HolderState} (h : s.LedgerInvariant) (op : HolderOp) :
    (s.applyOp op).LedgerInvariant := by
  cases op with
  | balanceUpdate update event decimals =>
      exact ledgerInvariant_applyBalanceUpdate h update event decimals
  | tradeCostBasis owner isBuy quote tokens observedAt latestPrice =>
      exact ledgerInvariant_applyTradeCostBasis h owner isBuy quote tokens observedAt latestPrice

theorem ledgerInvariant_foldl {s : HolderState} (h : s.LedgerInvariant) (ops : List HolderOp) :
    (s.runOps ops).LedgerInvariant := by
  induction ops generalizing s with
  | nil => exact h
  | cons op ops ih => exact ih (ledgerInvariant_applyOp h op)

/-! ## Runs -/

/-- Every sequence of balance updates and trades from the default ledger keeps the
ledger invariant. -/
theorem runOps_ledgerInvariant (ops : List HolderOp) : (runOps {} ops).LedgerInvariant :=
  ledgerInvariant_foldl ledgerInvariant_default ops

end HolderState

end PumpLaunchTrader
