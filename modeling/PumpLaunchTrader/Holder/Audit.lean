import PumpLaunchTrader.Engine.Holders

/-! # The audit of the holder ledger

The audit recomputes the supply and the shares of a ledger and lists what is wrong. In every
state that events lead to, what it finds is told by the token accounts alone: its checks for
negative balances, for lost owners and for shares of the observed supply never fire. -/

namespace PumpLaunchTrader

namespace HolderState

/-- The supply that the token accounts hold. -/
def accountSupply (s : HolderState) : Decimal :=
  (s.tokenAccounts.values.map TokenAccountState.rawBalance).sum

theorem sum_countedBalances_le (s : HolderState) (excludedOwners : Finset String) :
    ((s.countedBalances excludedOwners).map fun b => max b 0).sum ≤ s.observedHolderSupply := by
  unfold countedBalances observedHolderSupply KeyedMap.values
  rw [List.map_map, List.map_map]
  apply List.Sublist.sum_le_sum (List.filter_sublist.map _)
  intro b hb
  obtain ⟨e, -, rfl⟩ := List.mem_map.mp hb
  exact le_max_right _ _

/-! ## Balances of owners -/

section ledger

variable {s : HolderState} (h : s.LedgerInvariant)

include h

theorem LedgerInvariant.account_pos {account : TokenAccountState}
    (hmem : account ∈ s.tokenAccounts.values) : 0 < account.rawBalance := by
  obtain ⟨k, hk⟩ := (KeyedMap.mem_values_iff _ _).mp hmem
  exact h.accounts.positive k account hk

theorem LedgerInvariant.balance_eq {k : String} {holder : HolderBalance}
    (hlookup : s.ownerBalances.lookup k = some holder) :
    holder.balance = position s.tokenAccounts.values ⟨k⟩ := by
  have hbalance := h.ownerBalance ⟨k⟩
  unfold balanceOf at hbalance
  rw [hlookup] at hbalance
  exact hbalance

theorem LedgerInvariant.position_nonneg (owner : PubkeyValue) :
    0 ≤ position s.tokenAccounts.values owner := by
  apply List.sum_nonneg
  intro b hb
  obtain ⟨account, haccount, rfl⟩ := List.mem_map.mp hb
  exact (h.account_pos (List.mem_filter.mp haccount).1).le

theorem LedgerInvariant.balance_nonneg {e : Sigma fun _ : String => HolderBalance}
    (he : e ∈ s.ownerBalances.entries) : 0 ≤ e.2.balance := by
  rw [h.balance_eq ((KeyedMap.mem_entries_iff _ e.1 e.2).mp he)]
  exact h.position_nonneg _

/-- The owner of an account has an entry. -/
theorem LedgerInvariant.owner_mem {account : TokenAccountState}
    (hmem : account ∈ s.tokenAccounts.values) : account.owner.text ∈ s.ownerBalances.keys := by
  have hpos : 0 < position s.tokenAccounts.values account.owner := by
    have hsub : account.rawBalance ∈ ((s.tokenAccounts.values.filter fun other =>
        other.owner = account.owner).map TokenAccountState.rawBalance) :=
      List.mem_map.mpr ⟨account, List.mem_filter.mpr ⟨hmem, by simp⟩, rfl⟩
    refine (h.account_pos hmem).trans_le (List.single_le_sum (fun b hb => ?_) _ hsub)
    obtain ⟨other, hother, rfl⟩ := List.mem_map.mp hb
    exact (h.account_pos (List.mem_filter.mp hother).1).le
  rw [← h.ownerBalance] at hpos
  by_contra hnot
  have hnone : s.ownerBalances.lookup account.owner.text = none := AList.lookup_eq_none.mpr hnot
  simp [balanceOf, hnone] at hpos

/-- The observed supply is the one of the token accounts. -/
theorem LedgerInvariant.observedHolderSupply_eq : s.observedHolderSupply = s.accountSupply := by
  have hbalances : s.ownerBalances.values.map (fun holder => max holder.balance 0) =
      s.ownerBalances.keys.map fun k => ((s.tokenAccounts.values.filter fun account =>
        account.owner.text = k).map TokenAccountState.rawBalance).sum := by
    rw [KeyedMap.values, AList.keys, List.keys, List.map_map, List.map_map]
    apply List.map_congr_left
    intro e he
    have hsame : ∀ account : TokenAccountState,
        account.owner = ⟨e.1⟩ ↔ account.owner.text = e.1 := fun account =>
      ⟨fun heq => by rw [heq], fun heq => by rw [← heq]⟩
    rw [Function.comp_apply, max_eq_left (h.balance_nonneg he),
      h.balance_eq ((KeyedMap.mem_entries_iff _ e.1 e.2).mp he)]
    simp only [Function.comp_apply, position, hsame]
  unfold observedHolderSupply accountSupply
  rw [hbalances]
  exact KeyedMap.sum_groups (fun account : TokenAccountState => account.owner.text)
    TokenAccountState.rawBalance s.ownerBalances.keys_nodup fun account hmem => h.owner_mem hmem

theorem LedgerInvariant.mem_countedBalances {excludedOwners : Finset String} {b : Decimal} :
    b ∈ s.countedBalances excludedOwners ↔ 0 < b ∧
      ∃ owner : PubkeyValue, owner.text ∉ excludedOwners ∧
        position s.tokenAccounts.values owner = b := by
  unfold countedBalances
  rw [List.mem_map]
  constructor
  · rintro ⟨e, he, rfl⟩
    obtain ⟨hentry, hcounted⟩ := List.mem_filter.mp he
    have hcounted : 0 < e.2.balance ∧ e.1 ∉ excludedOwners := by simpa using hcounted
    exact ⟨hcounted.1, ⟨e.1⟩, hcounted.2,
      (h.balance_eq ((KeyedMap.mem_entries_iff _ e.1 e.2).mp hentry)).symm⟩
  · rintro ⟨hpos, owner, hnot, rfl⟩
    have hbalance := h.ownerBalance owner
    unfold balanceOf at hbalance
    cases hlookup : s.ownerBalances.lookup owner.text with
    | none =>
        rw [hlookup, Option.elim_none] at hbalance
        exact absurd hbalance hpos.ne
    | some holder =>
        rw [hlookup, Option.elim_some] at hbalance
        refine ⟨⟨owner.text, holder⟩, List.mem_filter.mpr
          ⟨(KeyedMap.mem_entries_iff _ _ _).mpr hlookup, ?_⟩, hbalance⟩
        simpa [hbalance] using ⟨hpos, hnot⟩

theorem LedgerInvariant.tokenAccountBalance_pos {e : Sigma fun _ : String => Decimal}
    (he : e ∈ s.tokenAccountBalances.entries) : 0 < e.2 := by
  have hlookup := (KeyedMap.mem_entries_iff _ e.1 e.2).mp he
  have hmem : e.1 ∈ s.tokenAccounts := by
    rw [h.accounts.sameKeys, ← AList.lookup_isSome, hlookup]
    rfl
  obtain ⟨account, haccount⟩ := Option.isSome_iff_exists.mp (AList.lookup_isSome.mpr hmem)
  rw [h.accounts.balance _ _ haccount, Option.some.injEq] at hlookup
  rw [← hlookup]
  exact h.accounts.positive _ _ haccount

/-- No account has lost its owner. -/
theorem LedgerInvariant.missingOwnerMappingCount_eq : s.missingOwnerMappingCount = 0 := by
  unfold missingOwnerMappingCount
  rw [List.countP_eq_zero]
  intro k hk
  have hmem : k ∈ s.tokenAccounts := by
    rw [h.accounts.sameKeys]
    exact hk
  obtain ⟨account, haccount⟩ := Option.isSome_iff_exists.mp (AList.lookup_isSome.mpr hmem)
  have howner : k ∈ s.tokenAccountToOwner := by
    rw [← AList.lookup_isSome, h.accounts.owner _ _ haccount]
    rfl
  simpa using howner

end ledger

/-! ## Shares -/

/-- The largest of some numbers exceeds a bound when one of them does. -/
theorem lt_sum_take_one_iff {balances : List Decimal} {bound : Decimal} (hbound : 0 ≤ bound) :
    bound < ((balances.insertionSort fun left right => right ≤ left).take 1).sum ↔
      ∃ b ∈ balances, bound < b := by
  have hperm := List.perm_insertionSort (fun left right : Decimal => right ≤ left) balances
  have : Std.Total fun left right : Decimal => right ≤ left :=
    ⟨fun left right => le_total right left⟩
  have : IsTrans Decimal fun left right => right ≤ left := ⟨fun _ _ _ hab hbc => hbc.trans hab⟩
  have hsorted := List.pairwise_insertionSort (fun left right : Decimal => right ≤ left) balances
  simp only [← hperm.mem_iff]
  cases hcase : balances.insertionSort fun left right => right ≤ left with
  | nil => simpa using hbound
  | cons largest rest =>
      rw [hcase] at hsorted
      simp only [List.take_succ_cons, List.take_zero, List.sum_singleton]
      constructor
      · exact fun hlt => ⟨largest, List.mem_cons_self, hlt⟩
      · rintro ⟨b, hb, hlt⟩
        rcases List.mem_cons.mp hb with rfl | hrest
        · exact hlt
        · exact hlt.trans_le (List.rel_of_pairwise_cons hsorted hrest)

/-- The shares of the top holders are not negative. -/
def SharesNonneg (s : HolderState) : Prop :=
  ∀ holder ∈ s.topHolders, 0 ≤ holder.pctSupplyProxy

theorem sharesNonneg_recompute (s : HolderState) (observedAt : OffsetDateTime) (previous : ℕ) :
    (s.recomputeDistributionWithPrevious observedAt previous).SharesNonneg := by
  intro holder hmem
  obtain ⟨x, hx, rfl⟩ := List.mem_map.mp hmem
  have hpos := s.rankedBalances_pos (List.mem_of_mem_take hx)
  simp only
  split
  · next htotal => exact div_nonneg hpos.le htotal.le
  · exact le_rfl

theorem sharesNonneg_applyOp {s : HolderState} (h : s.SharesNonneg) (op : HolderOp) :
    (s.applyOp op).SharesNonneg := by
  cases op with
  | balanceUpdate update event decimals =>
      simp only [applyOp]
      by_cases hseen : holderUpdateDedupeKey update event ∈ s.appliedHolderUpdateKeys
      · rw [applyBalanceUpdate_of_seen _ _ _ _ hseen]
        exact h
      · rw [applyBalanceUpdate_of_fresh _ _ _ _ hseen]
        exact sharesNonneg_recompute _ _ _
  | tradeCostBasis owner isBuy quote tokens observedAt latestPrice => exact h

theorem topHolderPct_one_le {s : HolderState} (h : s.LedgerInvariant) (hshares : s.SharesNonneg) :
    s.topHolderPct 1 ≤ 1 := by
  refine le_trans ?_ h.topPct
  unfold topHolderPct
  apply List.Sublist.sum_le_sum ((List.take_sublist 1 _).map _)
  intro b hb
  obtain ⟨holder, hmem, rfl⟩ := List.mem_map.mp hb
  exact hshares holder hmem

/-! ## What the audit finds -/

theorem holderInvariantViolations_eq_nil_iff {s : HolderState} (h : s.LedgerInvariant)
    (hshares : s.SharesNonneg) (totalSupplyRaw : Decimal) (excludedOwners : Finset String) :
    s.holderInvariantViolations totalSupplyRaw excludedOwners = [] ↔
      s.accountSupply ≤ totalSupplyRaw + 1 / 10 ^ 6 ∧
        (0 < totalSupplyRaw → ∀ owner : PubkeyValue, owner.text ∉ excludedOwners →
          position s.tokenAccounts.values owner ≤ (1 + 1 / 10 ^ 6) * totalSupplyRaw) := by
  have hcounted := s.sum_countedBalances_le excludedOwners
  have hnegative : (s.ownerBalances.entries.filter fun e => e.2.balance < 0) = [] :=
    List.filter_eq_nil_iff.mpr fun e he => by simpa using h.balance_nonneg he
  have haccounts : (s.tokenAccountBalances.entries.filter fun e => e.2 < 0) = [] :=
    List.filter_eq_nil_iff.mpr fun e he => by simpa using (h.tokenAccountBalance_pos he).le
  have htop : ¬ 1 + 1 / 10 ^ 6 < s.topHolderPct 1 :=
    not_lt.mpr ((topHolderPct_one_le h hshares).trans (by norm_num))
  have hshare : 1 + 1 / 10 ^ 6 < s.topHolderPctWithDenominator 1 totalSupplyRaw excludedOwners ↔
      0 < totalSupplyRaw ∧ ∃ owner : PubkeyValue, owner.text ∉ excludedOwners ∧
        (1 + 1 / 10 ^ 6) * totalSupplyRaw < position s.tokenAccounts.values owner := by
    unfold topHolderPctWithDenominator
    by_cases htotal : totalSupplyRaw ≤ 0
    · rw [if_pos htotal]
      simp [not_lt.mpr htotal]
      norm_num
    · have hpos := not_le.mp htotal
      have hbound : 0 ≤ (1 + 1 / 10 ^ 6) * totalSupplyRaw := by positivity
      rw [if_neg htotal, lt_div_iff₀ hpos, lt_sum_take_one_iff hbound]
      simp only [h.mem_countedBalances]
      constructor
      · rintro ⟨b, ⟨-, owner, hnot, rfl⟩, hlt⟩
        exact ⟨hpos, owner, hnot, hlt⟩
      · rintro ⟨-, owner, hnot, hlt⟩
        exact ⟨_, ⟨hbound.trans_lt hlt, owner, hnot, rfl⟩, hlt⟩
  simp only [holderInvariantViolations, hnegative, haccounts, if_neg htop, List.map_nil,
    List.append_nil, List.append_eq_nil_iff, ite_eq_right_iff, List.cons_ne_nil, imp_false,
    not_lt, hshare, h.observedHolderSupply_eq] at hcounted ⊢
  constructor
  · rintro ⟨⟨hsupply, -⟩, hshares⟩
    refine ⟨hsupply, fun hpos owner hnot => ?_⟩
    by_contra hlt
    exact hshares ⟨hpos, owner, hnot, not_le.mp hlt⟩
  · rintro ⟨hsupply, hshares⟩
    refine ⟨⟨hsupply, hcounted.trans hsupply⟩, ?_⟩
    rintro ⟨hpos, owner, hnot, hlt⟩
    exact absurd (hshares hpos owner hnot) (not_le.mpr hlt)

end HolderState

namespace StateEngine

theorem sharesNonneg_applyEvents {s : StateEngine} (events : List NormalizedEvent) (k : String)
    (h : (s.holderOf k).SharesNonneg) : ((s.applyEvents events).holderOf k).SharesNonneg := by
  induction events generalizing s with
  | nil => exact h
  | cons event events ih =>
      apply ih
      rcases s.holderOf_applyEvent event k with hsame | ⟨op, hop⟩
      · rw [hsame]
        exact h
      · rw [hop]
        exact HolderState.sharesNonneg_applyOp h op

/-- After any events no token account of a mint lacks its owner, and the audit of the holders
finds nothing exactly when the token accounts hold at most the supply, up to the tolerance,
and so does every owner that is not excluded. -/
theorem holder_audit_reachable (ttl : TtlConfig) (events : List NormalizedEvent) (k : String)
    (totalSupplyRaw : Decimal) (excludedOwners : Finset String) :
    (((new ttl).applyEvents events).holderOf k).missingOwnerMappingCount = 0 ∧
      ((((new ttl).applyEvents events).holderOf k).holderInvariantViolations totalSupplyRaw
          excludedOwners = [] ↔
        (((new ttl).applyEvents events).holderOf k).accountSupply ≤
            totalSupplyRaw + 1 / 10 ^ 6 ∧
          (0 < totalSupplyRaw → ∀ owner : PubkeyValue, owner.text ∉ excludedOwners →
            HolderState.position
                (((new ttl).applyEvents events).holderOf k).tokenAccounts.values owner ≤
              (1 + 1 / 10 ^ 6) * totalSupplyRaw)) := by
  have h := ledgerInvariant_reachable ttl events k
  have hshares : (((new ttl).applyEvents events).holderOf k).SharesNonneg :=
    sharesNonneg_applyEvents events k fun holder hmem => by cases hmem
  exact ⟨h.missingOwnerMappingCount_eq,
    HolderState.holderInvariantViolations_eq_nil_iff h hshares totalSupplyRaw excludedOwners⟩

end StateEngine

end PumpLaunchTrader
