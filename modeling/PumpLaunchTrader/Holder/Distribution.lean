import PumpLaunchTrader.Holder.Update
import Mathlib.Algebra.BigOperators.Ring.List

/-! # The holder distribution

What the rebuild makes of the token accounts, and what the ranking makes of the owner
balances. -/

namespace PumpLaunchTrader.HolderState

/-- The balance recorded for an owner; an absent owner has none. -/
def balanceOf (s : HolderState) (owner : PubkeyValue) : Decimal :=
  (s.ownerBalances.lookup owner.text).elim 0 HolderBalance.balance

/-- The total of the accounts of an owner. -/
def position (accounts : List TokenAccountState) (owner : PubkeyValue) : Decimal :=
  ((accounts.filter fun account => account.owner = owner).map
    TokenAccountState.rawBalance).sum

/-- The distinct owners of a list of accounts. -/
def ownersOf (accounts : List TokenAccountState) : Finset PubkeyValue :=
  (accounts.map TokenAccountState.owner).toFinset

/-! ## The rebuilt owner map -/

section Rebuild

variable (s : HolderState) (observedAt : OffsetDateTime) (decimals : UInt8)

@[simp] theorem refreshHolderBehaviour_balance (holder : HolderBalance) :
    (refreshHolderBehaviour holder).balance = holder.balance := rfl

@[simp] theorem refreshHolderBehaviour_costBasis (holder : HolderBalance) :
    (refreshHolderBehaviour holder).costBasis = holder.costBasis := rfl

@[simp] theorem withOldEntry_balance (owner : String) (newHolder : HolderBalance) :
    (s.withOldEntry owner newHolder).balance = newHolder.balance := by
  unfold withOldEntry
  split <;> rfl

theorem carriedHolder_balance (owner : PubkeyValue) : (s.carriedHolder owner).balance = 0 := by
  unfold carriedHolder
  split <;> rfl

/-- The rebuild changes no balance after the grouping. -/
theorem rebuilt_balance (k : String) :
    ((s.rebuiltOwnerBalances observedAt decimals).lookup k).elim 0 HolderBalance.balance =
      ((s.groupedAccounts observedAt decimals).lookup k).elim 0 HolderBalance.balance := by
  unfold rebuiltOwnerBalances
  rw [KeyedMap.lookup_mapValues]
  cases (s.groupedAccounts observedAt decimals).lookup k with
  | none => rfl
  | some holder => simp

theorem groupedAccounts_balance (owner : PubkeyValue) :
    ((s.groupedAccounts observedAt decimals).lookup owner.text).elim 0 HolderBalance.balance =
      position s.positiveAccounts owner := by
  have hgroup := KeyedMap.elim_lookup_foldl_upsert
    (fun account : TokenAccountState => account.owner.text)
    (fun account => s.carriedHolder account.owner) (addAccount observedAt decimals)
    HolderBalance.balance TokenAccountState.rawBalance
    (fun account => s.carriedHolder_balance account.owner) (fun _ _ => rfl)
    s.positiveAccounts owner.text
  simp only [PubkeyValue.text_inj] at hgroup
  exact hgroup

/-- The rebuild gives every owner the total of its positive accounts. -/
theorem balanceOf_rebuild (owner : PubkeyValue) :
    (s.rebuildOwnerBalancesFromTokenAccounts observedAt decimals).balanceOf owner =
      position s.positiveAccounts owner := by
  have hrebuilt := s.rebuilt_balance observedAt decimals owner.text
  rw [groupedAccounts_balance] at hrebuilt
  exact hrebuilt

theorem isSome_lookup_rebuilt (k : String) :
    ((s.rebuiltOwnerBalances observedAt decimals).lookup k).isSome = true ↔
      ∃ account ∈ s.positiveAccounts, account.owner.text = k := by
  unfold rebuiltOwnerBalances
  rw [KeyedMap.lookup_mapValues, Option.isSome_map]
  exact KeyedMap.isSome_lookup_foldl_upsert _ _ _ _ _

theorem positiveAccounts_pos {account : TokenAccountState} (h : account ∈ s.positiveAccounts) :
    0 < account.rawBalance := by
  simpa using (List.mem_filter.mp h).2

theorem rebuilt_balance_pos {k : String} {holder : HolderBalance}
    (h : (s.rebuiltOwnerBalances observedAt decimals).lookup k = some holder) :
    0 < holder.balance := by
  have hsum := s.balanceOf_rebuild observedAt decimals ⟨k⟩
  have hlookup : (s.rebuildOwnerBalancesFromTokenAccounts observedAt decimals).balanceOf ⟨k⟩ =
      holder.balance := congrArg (Option.elim · 0 HolderBalance.balance) h
  rw [hlookup] at hsum
  rw [hsum]
  obtain ⟨account, hmem, howner⟩ :=
    (s.isSome_lookup_rebuilt observedAt decimals k).mp (by rw [h]; rfl)
  apply List.sum_pos
  · intro x hx
    obtain ⟨other, hother, rfl⟩ := List.mem_map.mp hx
    exact s.positiveAccounts_pos (List.mem_filter.mp hother).1
  · have hin : account ∈ s.positiveAccounts.filter fun a => a.owner = (⟨k⟩ : PubkeyValue) := by
      rw [List.mem_filter]
      refine ⟨hmem, ?_⟩
      rw [decide_eq_true_iff]
      exact PubkeyValue.text_inj.mp howner
    intro hempty
    rw [List.map_eq_nil_iff] at hempty
    rw [hempty] at hin
    cases hin

theorem rebuilt_values_pos {holder : HolderBalance}
    (h : holder ∈ (s.rebuiltOwnerBalances observedAt decimals).values) : 0 < holder.balance := by
  obtain ⟨k, hk⟩ := (KeyedMap.mem_values_iff _ _).mp h
  exact s.rebuilt_balance_pos observedAt decimals hk

/-- The rebuilt map has one key for each owner of a positive account. -/
theorem keys_rebuilt_length :
    (s.rebuiltOwnerBalances observedAt decimals).keys.length =
      (ownersOf s.positiveAccounts).card := by
  have hkeys : (s.rebuiltOwnerBalances observedAt decimals).keys.toFinset =
      (ownersOf s.positiveAccounts).image PubkeyValue.text := by
    ext k
    rw [List.mem_toFinset, KeyedMap.mem_keys_iff, ← Option.isSome_iff_exists,
      isSome_lookup_rebuilt]
    simp [ownersOf]
  rw [← List.toFinset_card_of_nodup (AList.keys_nodup _), hkeys,
    Finset.card_image_of_injective]
  intro a b hab
  exact PubkeyValue.text_inj.mp hab

end Rebuild

/-! ## The ranking -/

section Ranking

variable [IterationOrder] (s : HolderState) (observedAt : OffsetDateTime) (previous : ℕ)

theorem rankedBalances_perm :
    s.rankedBalances.Perm ((s.ownerBalances.entries.filter fun e => 0 < e.2.balance).map
      fun e => ((⟨e.1⟩ : PubkeyValue), e.2.balance)) :=
  (List.perm_insertionSort _ _).trans (((IterationOrder.perm s).filter _).map _)

theorem rankedBalances_sorted : s.rankedBalances.Pairwise fun left right => right.2 ≤ left.2 := by
  have : Std.Total fun left right : PubkeyValue × Decimal => right.2 ≤ left.2 :=
    ⟨fun left right => le_total right.2 left.2⟩
  have : IsTrans (PubkeyValue × Decimal) fun left right => right.2 ≤ left.2 :=
    ⟨fun _ _ _ hab hbc => hbc.trans hab⟩
  exact List.pairwise_insertionSort _ _

theorem rankedBalances_length :
    s.rankedBalances.length = s.ownerBalances.values.countP fun holder => 0 < holder.balance := by
  rw [s.rankedBalances_perm.length_eq, List.length_map, ← List.countP_eq_length_filter]
  simp [KeyedMap.values, List.countP_map, Function.comp_def]

theorem rankedBalances_nodup : (s.rankedBalances.map Prod.fst).Nodup := by
  have hkeys : (s.ownerBalances.entries.map Sigma.fst).Nodup := s.ownerBalances.nodupKeys
  rw [(s.rankedBalances_perm.map Prod.fst).nodup_iff, List.map_map]
  have hsub : ((s.ownerBalances.entries.filter fun e => 0 < e.2.balance).map Sigma.fst).Nodup :=
    hkeys.sublist (List.filter_sublist.map _)
  have hinj : Function.Injective PubkeyValue.mk := fun a b h => by cases h; rfl
  simpa [Function.comp_def] using hsub.map hinj

theorem rankedBalances_pos {x : PubkeyValue × Decimal} (h : x ∈ s.rankedBalances) : 0 < x.2 := by
  rw [s.rankedBalances_perm.mem_iff, List.mem_map] at h
  obtain ⟨e, he, rfl⟩ := h
  simpa using (List.mem_filter.mp he).2

/-- The ranked balances add up to at most the total. -/
theorem rankedBalances_sum_le (hnonneg : ∀ holder ∈ s.ownerBalances.values, 0 ≤ holder.balance) :
    (s.rankedBalances.map Prod.snd).sum ≤
      (s.ownerBalances.values.map HolderBalance.balance).sum := by
  rw [(s.rankedBalances_perm.map Prod.snd).sum_eq, KeyedMap.values, List.map_map, List.map_map]
  apply List.Sublist.sum_le_sum (List.filter_sublist.map _)
  intro b hb
  obtain ⟨e, he, rfl⟩ := List.mem_map.mp hb
  exact hnonneg e.2 (List.mem_map.mpr ⟨e, he, rfl⟩)

theorem topHolders_sorted :
    (s.recomputeDistributionWithPrevious observedAt previous).topHolders.Pairwise
      fun left right => right.balance ≤ left.balance := by
  have h := s.rankedBalances_sorted.sublist (List.take_sublist 20 _)
  exact List.Pairwise.map _ (fun _ _ hab => hab) h

theorem topHolders_length :
    (s.recomputeDistributionWithPrevious observedAt previous).topHolders.length =
      min 20 (s.recomputeDistributionWithPrevious observedAt previous).nonzeroHolderCount := by
  have h := s.rankedBalances_length
  simp only [recomputeDistributionWithPrevious, List.length_map, List.length_take, h]

theorem topHolders_nodup :
    ((s.recomputeDistributionWithPrevious observedAt previous).topHolders.map
      HolderDistributionSnapshot.owner).Nodup := by
  have h : ((s.rankedBalances.take 20).map Prod.fst).Nodup :=
    s.rankedBalances_nodup.sublist ((List.take_sublist 20 _).map _)
  simpa [recomputeDistributionWithPrevious, Function.comp_def] using h

/-- The supply shares of the top holders sum to at most 1. -/
theorem topHolders_pct_le_one
    (hnonneg : ∀ holder ∈ s.ownerBalances.values, 0 ≤ holder.balance) :
    ((s.recomputeDistributionWithPrevious observedAt previous).topHolders.map
      HolderDistributionSnapshot.pctSupplyProxy).sum ≤ 1 := by
  let total := (s.ownerBalances.values.map HolderBalance.balance).sum
  have htop : ((s.rankedBalances.take 20).map Prod.snd).sum ≤ total := by
    calc
      ((s.rankedBalances.take 20).map Prod.snd).sum ≤ (s.rankedBalances.map Prod.snd).sum := by
        apply List.Sublist.sum_le_sum ((List.take_sublist 20 _).map _)
        intro b hb
        obtain ⟨x, hx, rfl⟩ := List.mem_map.mp hb
        exact (s.rankedBalances_pos hx).le
      _ ≤ total := s.rankedBalances_sum_le hnonneg
  have hpct : ((s.recomputeDistributionWithPrevious observedAt previous).topHolders.map
      HolderDistributionSnapshot.pctSupplyProxy) =
        (s.rankedBalances.take 20).map fun x => if 0 < total then x.2 / total else 0 := by
    simp [recomputeDistributionWithPrevious, Function.comp_def, total]
  rw [hpct]
  by_cases htotal : 0 < total
  · have hdiv : ((s.rankedBalances.take 20).map fun x => if 0 < total then x.2 / total else 0) =
        ((s.rankedBalances.take 20).map Prod.snd).map fun b => b * total⁻¹ := by
      simp [htotal, div_eq_mul_inv, Function.comp_def]
    rw [hdiv, List.sum_map_mul_right, List.map_id', ← div_eq_mul_inv]
    exact (div_le_one htotal).mpr htop
  · simp [htotal]

end Ranking

end PumpLaunchTrader.HolderState
