import PumpLaunchTrader.Engine.Holders
import Mathlib.Data.Prod.Lex

/-! # Delivery order of holder updates

`apply_balance_update` deduplicates but does not compare versions: what a token account
ends with is written by the last update that was applied, not by the newest one. -/

namespace PumpLaunchTrader

/-- A holder update with the metadata it is delivered with. -/
structure AccountDelivery where
  info : EventMeta
  update : HolderBalanceUpdateEvent

namespace AccountDelivery

def toEvent (d : AccountDelivery) : NormalizedEvent :=
  { info := d.info, payload := .holderBalanceUpdate d.update }

/-- The version of the account snapshot. -/
def version (d : AccountDelivery) : ℕ ×ₗ ℕ :=
  toLex (d.info.slot, d.info.accountWriteVersion.getD 0)

def dedupeKey (d : AccountDelivery) : String :=
  holderUpdateDedupeKey d.update d.toEvent

/-- The deliveries that reach the ledger: neither reverted nor a duplicate. -/
def applied (seen : Finset String) : List AccountDelivery → List AccountDelivery
  | [] => []
  | d :: ds =>
    if d.info.canonicality = .reverted ∨ d.dedupeKey ∈ seen then applied seen ds
    else d :: applied (insert d.dedupeKey seen) ds

/-- Owner and raw balance of the account after an update, when it holds anything. -/
def entry (d : AccountDelivery) : Option (PubkeyValue × Decimal) :=
  if d.update.newBalance ≤ 0 then none else some (d.update.ownerWallet, d.update.newBalance)

/-- The entry left by the last of the deliveries; `before` when there is none. -/
def lastEntry (before : Option (PubkeyValue × Decimal)) (ds : List AccountDelivery) :
    Option (PubkeyValue × Decimal) :=
  ds.foldl (fun _ d => d.entry) before

end AccountDelivery

/-- What an account entry contributes to the balance of an owner. -/
def entryShare (entry : Option (PubkeyValue × Decimal)) (owner : PubkeyValue) : Decimal :=
  match entry with
  | some (holder, balance) => if holder = owner then balance else 0
  | none => 0

namespace HolderState

/-- Owner and raw balance recorded for a token account. -/
def accountEntry (s : HolderState) (account : PubkeyValue) : Option (PubkeyValue × Decimal) :=
  (s.tokenAccounts.lookup account.text).map fun stored => (stored.owner, stored.rawBalance)

/-- No token account but `account` is recorded. -/
def OnlyAccount (s : HolderState) (account : PubkeyValue) : Prop :=
  ∀ k, k ≠ account.text → s.tokenAccounts.lookup k = none

theorem storedAccount_entry (d : AccountDelivery) (decimals : UInt8) :
    (storedAccount d.update d.toEvent decimals).map
      (fun stored => (stored.owner, stored.rawBalance)) = d.entry := by
  unfold storedAccount AccountDelivery.entry
  by_cases h : d.update.newBalance ≤ 0
  · simp [h]
  · have hpos : 0 ≤ d.update.newBalance := (not_le.mp h).le
    simp [h, hpos]

theorem tokenAccounts_applyBalanceUpdate {s : HolderState} {update : HolderBalanceUpdateEvent}
    {event : NormalizedEvent} (decimals : UInt8)
    (h : holderUpdateDedupeKey update event ∉ s.appliedHolderUpdateKeys) (k : String) :
    (s.applyBalanceUpdate update event decimals).tokenAccounts.lookup k =
      if k = update.tokenAccount.text then storedAccount update event decimals
      else s.tokenAccounts.lookup k := by
  have haccounts := (s.countSeen.recordUpdate_accounts update event decimals).1
  have hrebuilt : (s.applyBalanceUpdate update event decimals).tokenAccounts =
      (s.countSeen.recordUpdate update event decimals).tokenAccounts := by
    rw [applyBalanceUpdate_of_fresh _ _ _ _ h]
    rfl
  rw [hrebuilt, haccounts, lookup_storeTokenAccount]
  rfl

/-- An applied update alone decides the entry of its account. -/
theorem accountEntry_applyBalanceUpdate {s : HolderState} {d : AccountDelivery}
    (decimals : UInt8) (h : d.dedupeKey ∉ s.appliedHolderUpdateKeys) :
    (s.applyBalanceUpdate d.update d.toEvent decimals).accountEntry d.update.tokenAccount =
      d.entry := by
  rw [accountEntry, tokenAccounts_applyBalanceUpdate decimals h, if_pos rfl, storedAccount_entry]

theorem onlyAccount_applyBalanceUpdate {s : HolderState} {d : AccountDelivery}
    (decimals : UInt8) (honly : s.OnlyAccount d.update.tokenAccount)
    (h : d.dedupeKey ∉ s.appliedHolderUpdateKeys) :
    (s.applyBalanceUpdate d.update d.toEvent decimals).OnlyAccount d.update.tokenAccount := by
  intro k hk
  rw [tokenAccounts_applyBalanceUpdate decimals h, if_neg hk]
  exact honly k hk

/-- With a single account, the owner balances are read off its entry. -/
theorem balanceOf_of_onlyAccount {s : HolderState} {account : PubkeyValue}
    (hledger : s.LedgerInvariant) (honly : s.OnlyAccount account) (owner : PubkeyValue) :
    s.balanceOf owner = entryShare (s.accountEntry account) owner := by
  rw [hledger.ownerBalance, KeyedMap.values_of_forall_ne honly]
  unfold position accountEntry entryShare
  cases s.tokenAccounts.lookup account.text with
  | none => rfl
  | some stored =>
      by_cases h : stored.owner = owner
      · simp [h]
      · simp [h]

end HolderState

namespace StateEngine

/-! ## Runs of deliveries -/

/-- Hand the deliveries to the engine, in order. -/
def deliver (s : StateEngine) (ds : List AccountDelivery) : StateEngine :=
  s.applyEvents (ds.map AccountDelivery.toEvent)

theorem holderOf_deliver_step (s : StateEngine) (d : AccountDelivery)
    (hreverted : d.info.canonicality ≠ .reverted) :
    ∃ decimals, (s.applyEvent d.toEvent).1.holderOf d.update.mint.text =
      (s.holderOf d.update.mint.text).applyBalanceUpdate d.update d.toEvent decimals :=
  holderOf_applyEvent_holderUpdate rfl hreverted

/-- After deliveries for one account, its entry is the one of the last applied delivery,
and no other account is recorded. -/
theorem accountEntry_deliver {mint account : PubkeyValue} {ds : List AccountDelivery}
    (htarget : ∀ d ∈ ds, d.update.mint = mint ∧ d.update.tokenAccount = account)
    {s : StateEngine} (honly : (s.holderOf mint.text).OnlyAccount account) :
    ((s.deliver ds).holderOf mint.text).OnlyAccount account ∧
      ((s.deliver ds).holderOf mint.text).accountEntry account =
        AccountDelivery.lastEntry ((s.holderOf mint.text).accountEntry account)
          (AccountDelivery.applied (s.holderOf mint.text).appliedHolderUpdateKeys ds) := by
  induction ds generalizing s with
  | nil => exact ⟨honly, rfl⟩
  | cons d ds ih =>
      obtain ⟨rfl, rfl⟩ := htarget d (by simp)
      have hrest := fun e he => htarget e (List.mem_cons_of_mem d he)
      have hcons : s.deliver (d :: ds) = (s.applyEvent d.toEvent).1.deliver ds := rfl
      rw [hcons]
      by_cases hreverted : d.info.canonicality = .reverted
      · have hsame : (s.applyEvent d.toEvent).1.holderOf d.update.mint.text =
            s.holderOf d.update.mint.text := by
          unfold holderOf
          rw [tokens_applyEvent_of_reverted hreverted]
        have hstep := @ih hrest (s.applyEvent d.toEvent).1 (by rw [hsame]; exact honly)
        rw [hsame] at hstep
        simpa [AccountDelivery.applied, hreverted] using hstep
      · obtain ⟨decimals, hledger⟩ := s.holderOf_deliver_step d hreverted
        by_cases hseen : d.dedupeKey ∈ (s.holderOf d.update.mint.text).appliedHolderUpdateKeys
        · have hdeduped : (s.applyEvent d.toEvent).1.holderOf d.update.mint.text =
              (s.holderOf d.update.mint.text).countSeen.countDeduped := by
            rw [hledger]
            exact HolderState.applyBalanceUpdate_of_seen _ _ _ _ hseen
          have hstep := @ih hrest (s.applyEvent d.toEvent).1 (by rw [hdeduped]; exact honly)
          rw [hdeduped] at hstep
          simp only [AccountDelivery.applied, hseen, or_true, if_true]
          exact hstep
        · have hentry := HolderState.accountEntry_applyBalanceUpdate decimals hseen
          have honly' := HolderState.onlyAccount_applyBalanceUpdate decimals honly hseen
          have hkeys := HolderState.keys_applyBalanceUpdate decimals hseen
          rw [← hledger] at hentry honly' hkeys
          have hstep := @ih hrest (s.applyEvent d.toEvent).1 honly'
          rw [hentry, hkeys] at hstep
          simp only [AccountDelivery.applied, hreverted, hseen, or_self, if_false]
          exact hstep

/-- The account entry and the owner balances are those of the delivery `d`. -/
def ShowsDelivery (s : StateEngine) (d : AccountDelivery) : Prop :=
  (s.holderOf d.update.mint.text).accountEntry d.update.tokenAccount = d.entry ∧
    ∀ owner, (s.holderOf d.update.mint.text).balanceOf owner = entryShare d.entry owner

/-- Snapshots of one token account of a mint, with write versions and distinct versions. -/
structure AccountSnapshots (mint account : PubkeyValue) (ds : List AccountDelivery) : Prop where
  target : ∀ d ∈ ds, d.update.mint = mint ∧ d.update.tokenAccount = account
  versioned : ∀ d ∈ ds, d.info.accountWriteVersion.isSome
  distinct : ds.Pairwise fun d e => d.version ≠ e.version

/-- The delivery with the greatest version. -/
structure IsNewest (newest : AccountDelivery) (ds : List AccountDelivery) : Prop where
  mem : newest ∈ ds
  greatest : ∀ d ∈ ds, d.version ≤ newest.version

/-- Snapshots of one account leave the state of the newest one exactly when the last
applied delivery writes the same owner and balance. -/
theorem showsDelivery_newest_iff (ttl : TtlConfig) (mint account : PubkeyValue)
    (ds : List AccountDelivery) (newest : AccountDelivery)
    (hsnapshots : AccountSnapshots mint account ds) (hnewest : IsNewest newest ds) :
    ((new ttl).deliver ds).ShowsDelivery newest ↔
      AccountDelivery.lastEntry none (AccountDelivery.applied ∅ ds) = newest.entry := by
  obtain ⟨rfl, rfl⟩ := hsnapshots.target newest hnewest.mem
  have hfresh : ((new ttl).holderOf newest.update.mint.text).OnlyAccount
      newest.update.tokenAccount := fun _ _ => rfl
  obtain ⟨honly, hentry⟩ := accountEntry_deliver hsnapshots.target hfresh
  have hledger : (((new ttl).deliver ds).holderOf newest.update.mint.text).LedgerInvariant :=
    ledgerInvariant_reachable ttl _ _
  have hlast : (((new ttl).deliver ds).holderOf newest.update.mint.text).accountEntry
      newest.update.tokenAccount =
        AccountDelivery.lastEntry none (AccountDelivery.applied ∅ ds) := hentry
  constructor
  · rintro ⟨hshown, -⟩
    rw [← hlast]
    exact hshown
  · intro hagree
    rw [← hlast] at hagree
    refine ⟨hagree, ?_⟩
    intro owner
    rw [HolderState.balanceOf_of_onlyAccount hledger honly, hagree]

/-! ## A stale snapshot delivered late -/

/-- A snapshot of one account in the given slot. -/
def snapshotDelivery (slot : ℕ) (balance : Decimal) : AccountDelivery :=
  { info :=
      { eventId := ⟨"snapshot"⟩
        source := .geyserProcessed
        canonicality := .processed
        slot := slot
        accountWriteVersion := some slot }
    update :=
      { mint := ⟨"mint"⟩
        ownerWallet := ⟨"holder"⟩
        tokenAccount := ⟨"holder-account"⟩
        newBalance := balance } }

/-- The snapshot of slot 11, then the one of slot 10. -/
def lateDeliveries : List AccountDelivery := [snapshotDelivery 11 5, snapshotDelivery 10 9]

theorem accountSnapshots_lateDeliveries :
    AccountSnapshots ⟨"mint"⟩ ⟨"holder-account"⟩ lateDeliveries where
  target := by simp [lateDeliveries, snapshotDelivery]
  versioned := by simp [lateDeliveries, snapshotDelivery]
  distinct := by decide +kernel

theorem isNewest_lateDeliveries : IsNewest (snapshotDelivery 11 5) lateDeliveries where
  mem := by simp [lateDeliveries]
  greatest := by decide +kernel

theorem showsDelivery_newest_late :
    ((new sampleTtl).deliver lateDeliveries).ShowsDelivery (snapshotDelivery 11 5) ↔
      AccountDelivery.lastEntry none (AccountDelivery.applied ∅ lateDeliveries) =
        (snapshotDelivery 11 5).entry :=
  showsDelivery_newest_iff sampleTtl ⟨"mint"⟩ ⟨"holder-account"⟩ lateDeliveries
    (snapshotDelivery 11 5) accountSnapshots_lateDeliveries isNewest_lateDeliveries

/-- The snapshot of slot 10, delivered after the one of slot 11, replaces it. -/
theorem showsDelivery_newest_replaced :
    ¬ ∀ (ttl : TtlConfig) (mint account : PubkeyValue) (ds : List AccountDelivery)
        (newest : AccountDelivery), AccountSnapshots mint account ds → IsNewest newest ds →
        ((new ttl).deliver ds).ShowsDelivery newest := by
  intro h
  obtain ⟨hentry, -⟩ := h sampleTtl ⟨"mint"⟩ ⟨"holder-account"⟩ lateDeliveries
    (snapshotDelivery 11 5) accountSnapshots_lateDeliveries isNewest_lateDeliveries
  revert hentry
  decide +kernel

end StateEngine

end PumpLaunchTrader
