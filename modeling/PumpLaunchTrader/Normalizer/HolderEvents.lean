import PumpLaunchTrader.Model.Normalizer
import PumpLaunchTrader.Holder.Update
import PumpLaunchTrader.Lib.Digits

/-! # Balance events of a transaction

The events of `holder_balance_events` are the difference of the two balance lists, one for
each mint and token account. The ledger keeps one entry for each token account, so events of
different accounts do not meet in it: neither in its maps nor in its duplicate keys. -/

namespace PumpLaunchTrader

namespace TransactionUpdate

/-! ## The balance lists -/

/-- The mint and the token account of a balance. -/
def balanceKey (self : TransactionUpdate) (balance : TransactionTokenBalance) :
    String × String :=
  (balance.mint, accountKeyAt self.accountKeys balance.accountIndex)

/-- The balance of a mint and a token account in a list. -/
def entryAt (self : TransactionUpdate) (balances : List TransactionTokenBalance)
    (key : String × String) : Option TransactionTokenBalance :=
  balances.find? fun balance => self.balanceKey balance = key

/-- The mints and token accounts of both lists. -/
def balanceKeys (self : TransactionUpdate) : List (String × String) :=
  (self.preTokenBalances ++ self.postTokenBalances).map self.balanceKey

/-- At most one balance for each mint and account index in either list, and different account
keys at different indexes. -/
structure DistinctBalances (update : TransactionUpdate) : Prop where
  pre : (update.preTokenBalances.map fun balance => (balance.mint, balance.accountIndex)).Nodup
  post : (update.postTokenBalances.map fun balance => (balance.mint, balance.accountIndex)).Nodup
  accounts : ∀ b ∈ update.preTokenBalances ++ update.postTokenBalances,
    ∀ b' ∈ update.preTokenBalances ++ update.postTokenBalances,
      accountKeyAt update.accountKeys b.accountIndex =
        accountKeyAt update.accountKeys b'.accountIndex → b.accountIndex = b'.accountIndex

theorem nodup_balanceKey {self : TransactionUpdate} {balances : List TransactionTokenBalance}
    (hnodup : (balances.map fun balance => (balance.mint, balance.accountIndex)).Nodup)
    (haccounts : ∀ b ∈ balances, ∀ b' ∈ balances,
      accountKeyAt self.accountKeys b.accountIndex =
        accountKeyAt self.accountKeys b'.accountIndex → b.accountIndex = b'.accountIndex) :
    (balances.map self.balanceKey).Nodup := by
  refine List.Nodup.map_on ?_ hnodup.of_map
  intro b hb b' hb' heq
  obtain ⟨hmint, hkey⟩ := Prod.ext_iff.mp heq
  have hindex := haccounts b hb b' hb' hkey
  exact List.inj_on_of_nodup_map hnodup hb hb' (Prod.ext hmint hindex)

theorem DistinctBalances.pre_keys {self : TransactionUpdate} (h : self.DistinctBalances) :
    (self.preTokenBalances.map self.balanceKey).Nodup :=
  nodup_balanceKey h.pre fun b hb b' hb' =>
    h.accounts b (List.mem_append_left _ hb) b' (List.mem_append_left _ hb')

theorem DistinctBalances.post_keys {self : TransactionUpdate} (h : self.DistinctBalances) :
    (self.postTokenBalances.map self.balanceKey).Nodup :=
  nodup_balanceKey h.post fun b hb b' hb' =>
    h.accounts b (List.mem_append_right _ hb) b' (List.mem_append_right _ hb')

theorem entryAt_of_mem {self : TransactionUpdate} {balances : List TransactionTokenBalance}
    (hnodup : (balances.map self.balanceKey).Nodup) {balance : TransactionTokenBalance}
    (h : balance ∈ balances) : self.entryAt balances (self.balanceKey balance) = some balance := by
  cases hentry : self.entryAt balances (self.balanceKey balance) with
  | none => exact absurd (by simp) (List.find?_eq_none.mp hentry balance h)
  | some found =>
      have hkey : self.balanceKey found = self.balanceKey balance := by
        simpa using List.find?_some hentry
      rw [List.inj_on_of_nodup_map hnodup (List.mem_of_find?_eq_some hentry) h hkey]

theorem entryAt_eq_none_iff {self : TransactionUpdate} {balances : List TransactionTokenBalance}
    {key : String × String} :
    self.entryAt balances key = none ↔ key ∉ balances.map self.balanceKey := by
  simp [entryAt, List.find?_eq_none]

theorem balanceKey_of_entryAt {self : TransactionUpdate}
    {balances : List TransactionTokenBalance} {key : String × String}
    {balance : TransactionTokenBalance} (h : self.entryAt balances key = some balance) :
    self.balanceKey balance = key := by
  simpa using List.find?_some h

/-! ## The events -/

/-- What the map of earlier balances keeps of a balance. -/
def previousBalance (self : TransactionUpdate) (balance : TransactionTokenBalance) :
    PreTokenBalance :=
  { owner := balance.owner
    tokenAccount := accountKeyAt self.accountKeys balance.accountIndex
    amountRaw := balance.tokenAmount
    accountIndex := balance.accountIndex
    decimals := balance.decimals }

theorem lookup_preTokenBalanceMap {self : TransactionUpdate} (h : self.DistinctBalances)
    (key : String × String) :
    self.preTokenBalanceMap.lookup key =
      (self.entryAt self.preTokenBalances key).map self.previousBalance := by
  have hlookup := KeyedMap.lookup_foldl_insert self.balanceKey self.previousBalance h.pre_keys
    ∅ key
  rw [AList.lookup_empty, Option.or_none] at hlookup
  exact hlookup

/-- Balances of distinct keys are matched with the map as it was at first. -/
theorem postBalanceEvents_eq (self : TransactionUpdate) (info : EventMeta)
    {balances : List TransactionTokenBalance}
    (hnodup : (balances.map self.balanceKey).Nodup)
    (pre : KeyedMap (String × String) PreTokenBalance) :
    self.postBalanceEvents info balances pre =
      (balances.map fun balance =>
          self.postBalanceEvent info balance (pre.lookup (self.balanceKey balance)),
        (balances.map self.balanceKey).foldl (fun m key => m.erase key) pre) := by
  induction balances generalizing pre with
  | nil => rfl
  | cons balance balances ih =>
      rw [List.map_cons, List.nodup_cons] at hnodup
      obtain ⟨hfresh, hrest⟩ := hnodup
      have htail : ∀ b ∈ balances,
          (pre.erase (self.balanceKey balance)).lookup (self.balanceKey b) =
            pre.lookup (self.balanceKey b) := by
        intro b hb
        refine AList.lookup_erase_ne fun heq => hfresh ?_
        exact List.mem_map.mpr ⟨b, hb, heq⟩
      have hstep : self.postBalanceEvents info (balance :: balances) pre =
          (self.postBalanceEvent info balance (pre.lookup (self.balanceKey balance)) ::
              (self.postBalanceEvents info balances
                (pre.erase (self.balanceKey balance))).1,
            (self.postBalanceEvents info balances
              (pre.erase (self.balanceKey balance))).2) := rfl
      rw [hstep, ih hrest]
      refine Prod.ext ?_ rfl
      refine congrArg (List.cons _) (List.map_congr_left fun b hb => ?_)
      rw [htail b hb]

/-- The earlier balances that no later one has matched. -/
def closedBalances (self : TransactionUpdate) : KeyedMap (String × String) PreTokenBalance :=
  (self.postTokenBalances.map self.balanceKey).foldl (fun m key => m.erase key)
    self.preTokenBalanceMap

theorem holderBalanceEvents_eq {self : TransactionUpdate} (h : self.DistinctBalances)
    (info : EventMeta) :
    self.holderBalanceEvents info =
      (self.postTokenBalances.map fun balance => self.postBalanceEvent info balance
        ((self.entryAt self.preTokenBalances (self.balanceKey balance)).map
          self.previousBalance)) ++
      self.closedBalances.entries.map fun e => self.closedBalanceEvent info e.1.1 e.2 := by
  unfold holderBalanceEvents
  rw [self.postBalanceEvents_eq info h.post_keys]
  refine congrArg₂ (· ++ ·) (List.map_congr_left fun balance _ => ?_) rfl
  rw [lookup_preTokenBalanceMap h]

theorem mem_closedBalances {self : TransactionUpdate} (h : self.DistinctBalances)
    (key : String × String) (previous : PreTokenBalance) :
    (⟨key, previous⟩ : Sigma fun _ => PreTokenBalance) ∈ self.closedBalances.entries ↔
      self.entryAt self.postTokenBalances key = none ∧
        ∃ balance, self.entryAt self.preTokenBalances key = some balance ∧
          self.previousBalance balance = previous := by
  rw [KeyedMap.mem_entries_iff, closedBalances, KeyedMap.lookup_foldl_erase,
    entryAt_eq_none_iff]
  by_cases hkey : key ∈ self.postTokenBalances.map self.balanceKey
  · simp [hkey]
  · rw [if_neg hkey, lookup_preTokenBalanceMap h, Option.map_eq_some_iff]
    exact (and_iff_right hkey).symm

end TransactionUpdate

/-- The mint and the token account of a balance update. -/
def HolderBalanceUpdateEvent.balanceKey (update : HolderBalanceUpdateEvent) : String × String :=
  (update.mint.text, update.tokenAccount.text)

/-- The mint and the token account of an event that carries a balance update. -/
def NormalizedEvent.balanceKey (event : NormalizedEvent) : Option (String × String) :=
  event.holderUpdate.map HolderBalanceUpdateEvent.balanceKey

namespace TransactionUpdate

/-- The amount of an entry, zero when there is none. -/
def amountOf (entry : Option TransactionTokenBalance) : Decimal :=
  (entry.map TransactionTokenBalance.tokenAmount).getD 0

/-- A balance update is the difference of the two lists at its mint and token account, and
its owner that of the later balance. -/
structure IsDifference (transaction : TransactionUpdate) (update : HolderBalanceUpdateEvent) :
    Prop where
  old : update.oldBalance =
    (transaction.entryAt transaction.preTokenBalances update.balanceKey).map
      TransactionTokenBalance.tokenAmount
  new : update.newBalance =
    amountOf (transaction.entryAt transaction.postTokenBalances update.balanceKey)
  delta : update.oldBalance.getD 0 + update.delta = update.newBalance
  owner : ∀ balance ∈ transaction.entryAt transaction.postTokenBalances update.balanceKey,
    ∀ owner ∈ balance.owner, update.ownerWallet.text = owner

section Events

variable {self : TransactionUpdate} (h : self.DistinctBalances) (info : EventMeta)
include h

theorem postBalanceEvent_isDifference {balance : TransactionTokenBalance}
    (hmem : balance ∈ self.postTokenBalances) :
    ∃ update, (self.postBalanceEvent info balance
        ((self.entryAt self.preTokenBalances (self.balanceKey balance)).map
          self.previousBalance)).payload = .holderBalanceUpdate update ∧
      update.balanceKey = self.balanceKey balance ∧ self.IsDifference update := by
  have hentry := entryAt_of_mem h.post_keys hmem
  refine ⟨_, rfl, rfl, ?old, ?new, ?delta, ?owner⟩
  case old =>
    simp only [Option.map_map]
    rfl
  case new => exact (congrArg amountOf hentry).symm
  case delta => exact add_sub_cancel _ _
  case owner =>
    intro other hother owner howner
    have hsame : some balance = some other := hentry.symm.trans hother
    cases hsame
    rw [Option.mem_def] at howner
    simp only [howner, Option.some_or, Option.getD_some]

theorem closedBalanceEvent_isDifference {key : String × String} {previous : PreTokenBalance}
    (hmem : (⟨key, previous⟩ : Sigma fun _ => PreTokenBalance) ∈ self.closedBalances.entries) :
    ∃ update, (self.closedBalanceEvent info key.1 previous).payload =
        .holderBalanceUpdate update ∧
      update.balanceKey = key ∧ self.IsDifference update := by
  obtain ⟨hnone, balance, hentry, rfl⟩ := (mem_closedBalances h key previous).mp hmem
  obtain rfl := balanceKey_of_entryAt hentry
  refine ⟨_, rfl, rfl, ?old, ?new, ?delta, ?owner⟩
  case old => exact (congrArg (Option.map TransactionTokenBalance.tokenAmount) hentry).symm
  case new => exact (congrArg amountOf hnone).symm
  case delta => exact add_neg_cancel _
  case owner =>
    intro other hother
    exact absurd (hnone.symm.trans hother) (by simp)

theorem holderBalanceEvents_isDifference {event : NormalizedEvent}
    (hmem : event ∈ self.holderBalanceEvents info) :
    ∃ update, event.payload = .holderBalanceUpdate update ∧ self.IsDifference update := by
  rw [holderBalanceEvents_eq h] at hmem
  rcases List.mem_append.mp hmem with hmem | hmem
  · obtain ⟨balance, hbalance, rfl⟩ := List.mem_map.mp hmem
    obtain ⟨update, hpayload, -, hdifference⟩ := postBalanceEvent_isDifference h info hbalance
    exact ⟨update, hpayload, hdifference⟩
  · obtain ⟨⟨key, previous⟩, hentry, rfl⟩ := List.mem_map.mp hmem
    obtain ⟨update, hpayload, -, hdifference⟩ := closedBalanceEvent_isDifference h info hentry
    exact ⟨update, hpayload, hdifference⟩

/-- The keys of the events: those of the later list, then those of the closed balances. -/
theorem map_balanceKey_holderBalanceEvents :
    (self.holderBalanceEvents info).map NormalizedEvent.balanceKey =
      (self.postTokenBalances.map self.balanceKey ++ self.closedBalances.keys).map some := by
  rw [holderBalanceEvents_eq h, List.map_append, List.map_append]
  refine congrArg₂ (· ++ ·) ?_ ?_
  · rw [List.map_map, List.map_map]
    rfl
  · rw [List.map_map, AList.keys, List.keys, List.map_map]
    refine List.map_congr_left fun e he => ?_
    obtain ⟨update, hpayload, hkey, -⟩ := closedBalanceEvent_isDifference h info he
    simp only [Function.comp_apply, NormalizedEvent.balanceKey, NormalizedEvent.holderUpdate,
      hpayload, Option.map_some, hkey]

theorem nodup_balanceKey_holderBalanceEvents :
    ((self.holderBalanceEvents info).map NormalizedEvent.balanceKey).Nodup := by
  rw [map_balanceKey_holderBalanceEvents h]
  refine List.Nodup.map (Option.some_injective _) ?_
  refine List.nodup_append.mpr ⟨h.post_keys, self.closedBalances.nodupKeys, ?_⟩
  rintro key hpost _ hclosed rfl
  obtain ⟨e, he, rfl⟩ := List.mem_map.mp hclosed
  exact entryAt_eq_none_iff.mp ((mem_closedBalances h e.1 e.2).mp he).1 hpost

theorem mem_balanceKey_holderBalanceEvents (key : String × String) :
    some key ∈ (self.holderBalanceEvents info).map NormalizedEvent.balanceKey ↔
      key ∈ self.balanceKeys := by
  rw [map_balanceKey_holderBalanceEvents h, List.mem_map_of_injective (Option.some_injective _),
    List.mem_append, balanceKeys, List.map_append, List.mem_append]
  constructor
  · rintro (hpost | hclosed)
    · exact Or.inr hpost
    · obtain ⟨e, he, rfl⟩ := List.mem_map.mp hclosed
      obtain ⟨-, balance, hentry, -⟩ := (mem_closedBalances h e.1 e.2).mp he
      by_contra hnone
      rw [entryAt_eq_none_iff.mpr fun hpre => hnone (Or.inl hpre)] at hentry
      cases hentry
  · intro hkey
    by_cases hpost : key ∈ self.postTokenBalances.map self.balanceKey
    · exact Or.inl hpost
    · right
      obtain ⟨balance, hbalance, rfl⟩ := List.mem_map.mp (hkey.resolve_right hpost)
      refine List.mem_map.mpr ⟨⟨_, self.previousBalance balance⟩, ?_, rfl⟩
      exact (mem_closedBalances h _ _).mpr
        ⟨entryAt_eq_none_iff.mpr hpost, balance, entryAt_of_mem h.pre_keys hbalance, rfl⟩

end Events

end TransactionUpdate

/-! ## The ledger -/

namespace HolderState

/-- What the ledger holds of a token account. -/
def accountView (state : HolderState) (tokenAccount : String) :
    Option TokenAccountState × Option Decimal × Option PubkeyValue :=
  (state.tokenAccounts.lookup tokenAccount, state.tokenAccountBalances.lookup tokenAccount,
    state.tokenAccountToOwner.lookup tokenAccount)

/-- The ledger of a mint agrees with an entry of a balance list: an account with a positive
amount is held with this amount by this owner, and any other is not held. -/
structure AgreesAt (state : HolderState) (tokenAccount : String)
    (entry : Option TransactionTokenBalance) : Prop where
  account : (state.tokenAccounts.lookup tokenAccount).map TokenAccountState.rawBalance =
    if 0 < TransactionUpdate.amountOf entry then some (TransactionUpdate.amountOf entry) else none
  balance : state.tokenAccountBalances.lookup tokenAccount =
    if 0 < TransactionUpdate.amountOf entry then some (TransactionUpdate.amountOf entry) else none
  owner : ∀ account ∈ state.tokenAccounts.lookup tokenAccount, ∀ balance ∈ entry,
    ∀ owner ∈ balance.owner, account.owner.text = owner

/-- Apply an event that carries a balance update of a mint. -/
def applyHolderEvent (tokenDecimals : HolderBalanceUpdateEvent → UInt8) (mint : String)
    (state : HolderState) (event : NormalizedEvent) : HolderState :=
  match event.holderUpdate with
  | some update =>
    if update.mint.text = mint then state.applyBalanceUpdate update event (tokenDecimals update)
    else state
  | none => state

/-- The events of a mint have duplicate keys that the ledger has not met. -/
def FreshFor (mint : String) (state : HolderState) (events : List NormalizedEvent) : Prop :=
  ∀ event ∈ events, ∀ update ∈ event.holderUpdate, update.mint.text = mint →
    holderUpdateDedupeKey update event ∉ state.appliedHolderUpdateKeys

/-! ### One event -/

/-- Events of one mint with the same duplicate key are of one token account: the account ends
at the second separator of the key. -/
theorem tokenAccount_eq_of_dedupeKey {update update' : HolderBalanceUpdateEvent}
    {event event' : NormalizedEvent} (hmint : update.mint.text = update'.mint.text)
    (h : '|' ∉ update.tokenAccount.text.toList) (h' : '|' ∉ update'.tokenAccount.text.toList)
    (heq : holderUpdateDedupeKey update event = holderUpdateDedupeKey update' event') :
    update.tokenAccount.text = update'.tokenAccount.text := by
  have hchars := congrArg String.toList heq
  have hbar : ("|" : String).toList = ['|'] := rfl
  simp only [holderUpdateDedupeKey, String.intercalate_cons_cons, String.toList_append, hmint,
    hbar, List.append_assoc, List.append_cancel_left_eq, List.singleton_append,
    List.cons.injEq, true_and] at hchars
  exact String.toList_injective (Labels.cons_append_inj h h' hchars).1

section Fresh

variable {state : HolderState} {update : HolderBalanceUpdateEvent} {event : NormalizedEvent}
  {decimals : UInt8}
  (h : holderUpdateDedupeKey update event ∉ state.appliedHolderUpdateKeys)
include h

theorem accountView_applyBalanceUpdate (tokenAccount : String) :
    (state.applyBalanceUpdate update event decimals).accountView tokenAccount =
      if tokenAccount = update.tokenAccount.text then
        (storedAccount update event decimals,
          (storedAccount update event decimals).map TokenAccountState.rawBalance,
          some update.ownerWallet)
      else state.accountView tokenAccount := by
  rw [state.applyBalanceUpdate_of_fresh update event decimals h]
  obtain ⟨haccounts, hbalances, howners⟩ :=
    state.countSeen.recordUpdate_accounts update event decimals
  have hview : ∀ s : HolderState, (s.rebuildOwnerBalancesFromTokenAccounts
      event.info.receivedAtWallTime decimals).accountView tokenAccount =
        s.accountView tokenAccount := fun _ => rfl
  rw [hview]
  unfold accountView
  rw [haccounts, hbalances, howners, lookup_storeTokenAccount, lookup_storeTokenAccount_balances,
    lookup_storeTokenAccount_owner]
  by_cases hkey : tokenAccount = update.tokenAccount.text
  · simp only [hkey, if_true]
  · simp only [hkey, if_false]
    rfl

theorem appliedHolderUpdateKeys_applyBalanceUpdate :
    (state.applyBalanceUpdate update event decimals).appliedHolderUpdateKeys =
      insert (holderUpdateDedupeKey update event) state.appliedHolderUpdateKeys := by
  rw [state.applyBalanceUpdate_of_fresh update event decimals h]
  exact state.countSeen.recordUpdate_keys update event decimals

theorem holderUpdatesDeduped_applyBalanceUpdate :
    (state.applyBalanceUpdate update event decimals).counters.holderUpdatesDeduped =
      state.counters.holderUpdatesDeduped := by
  rw [state.applyBalanceUpdate_of_fresh update event decimals h]
  exact state.countSeen.recordUpdate_deduped update event decimals

end Fresh

/-! ### All events -/

/-- The ledger after events of distinct accounts: each account of an event is stored, all
others are kept, and no event counts as a duplicate. -/
structure LedgerAfter (tokenDecimals : HolderBalanceUpdateEvent → UInt8) (mint : String)
    (before : HolderState) (events : List NormalizedEvent) (after : HolderState) : Prop where
  stored : ∀ event ∈ events, ∀ update ∈ event.holderUpdate, update.mint.text = mint →
    after.accountView update.tokenAccount.text =
      (storedAccount update event (tokenDecimals update),
        (storedAccount update event (tokenDecimals update)).map TokenAccountState.rawBalance,
        some update.ownerWallet)
  kept : ∀ tokenAccount, some (mint, tokenAccount) ∉ events.map NormalizedEvent.balanceKey →
    after.accountView tokenAccount = before.accountView tokenAccount
  deduped : after.counters.holderUpdatesDeduped = before.counters.holderUpdatesDeduped

theorem balanceKey_of_holderUpdate {event : NormalizedEvent} {update : HolderBalanceUpdateEvent}
    {mint : String} (hupdate : event.holderUpdate = some update) (hmint : update.mint.text = mint) :
    event.balanceKey = some (mint, update.tokenAccount.text) := by
  simp only [NormalizedEvent.balanceKey, hupdate, Option.map_some,
    HolderBalanceUpdateEvent.balanceKey, hmint]

/-- An update of another account than the later events have leaves these fresh. -/
theorem FreshFor.applyBalanceUpdate {mint : String} {state : HolderState}
    {event : NormalizedEvent} {events : List NormalizedEvent} {update : HolderBalanceUpdateEvent}
    (hfresh : state.FreshFor mint events) (hupdate : event.holderUpdate = some update)
    (hmint : update.mint.text = mint) (htext : '|' ∉ update.tokenAccount.text.toList)
    (htexts : ∀ event ∈ events, ∀ update ∈ event.holderUpdate,
      '|' ∉ update.tokenAccount.text.toList)
    (hnew : event.balanceKey ∉ events.map NormalizedEvent.balanceKey)
    (hunmet : holderUpdateDedupeKey update event ∉ state.appliedHolderUpdateKeys)
    (decimals : UInt8) :
    (state.applyBalanceUpdate update event decimals).FreshFor mint events := by
  intro event' hevent' update' hupdate' hmint'
  rw [appliedHolderUpdateKeys_applyBalanceUpdate hunmet, Finset.mem_insert, not_or]
  refine ⟨fun heq => ?_, hfresh event' hevent' update' hupdate' hmint'⟩
  have haccount := tokenAccount_eq_of_dedupeKey (hmint'.trans hmint.symm)
    (htexts event' hevent' update' hupdate') htext heq
  apply hnew
  apply List.mem_map.mpr
  refine ⟨event', hevent', ?_⟩
  rw [balanceKey_of_holderUpdate hupdate hmint, balanceKey_of_holderUpdate hupdate' hmint',
    haccount]

theorem ledgerAfter_foldl (tokenDecimals : HolderBalanceUpdateEvent → UInt8) (mint : String)
    {events : List NormalizedEvent} (hnodup : (events.map NormalizedEvent.balanceKey).Nodup)
    (htext : ∀ event ∈ events, ∀ update ∈ event.holderUpdate,
      '|' ∉ update.tokenAccount.text.toList)
    (state : HolderState) (hfresh : state.FreshFor mint events) :
    LedgerAfter tokenDecimals mint state events
      (events.foldl (applyHolderEvent tokenDecimals mint) state) := by
  induction events generalizing state with
  | nil => exact ⟨by simp, fun _ _ => rfl, rfl⟩
  | cons event events ih =>
      rw [List.map_cons, List.nodup_cons] at hnodup
      obtain ⟨hnew, hnodup⟩ := hnodup
      obtain ⟨htexthead, htext⟩ := List.forall_mem_cons.mp htext
      obtain ⟨hfreshhead, hfreshtail⟩ := List.forall_mem_cons.mp hfresh
      rw [List.foldl_cons]
      by_cases hconcerns : ∃ update ∈ event.holderUpdate, update.mint.text = mint
      · obtain ⟨update, hupdate, hmint⟩ := hconcerns
        rw [Option.mem_def] at hupdate
        have hstep : applyHolderEvent tokenDecimals mint state event =
            state.applyBalanceUpdate update event (tokenDecimals update) := by
          simp only [applyHolderEvent, hupdate, hmint, if_true]
        have hkey := balanceKey_of_holderUpdate hupdate hmint
        have hunmet := hfreshhead update hupdate hmint
        have hafter := FreshFor.applyBalanceUpdate hfreshtail hupdate hmint
          (htexthead update hupdate) htext hnew hunmet (tokenDecimals update)
        obtain ⟨hstored, hkept, hdeduped⟩ := ih hnodup htext _ hafter
        rw [hstep]
        refine ⟨?stored, ?kept, ?deduped⟩
        case stored =>
          refine List.forall_mem_cons.mpr ⟨?_, hstored⟩
          intro update' hupdate' _
          obtain rfl : update = update' := by
            rw [Option.mem_def, hupdate] at hupdate'
            exact Option.some.inj hupdate'
          rw [hkept _ (hkey ▸ hnew), accountView_applyBalanceUpdate hunmet, if_pos rfl]
        case kept =>
          intro tokenAccount hother
          rw [List.map_cons, List.mem_cons, not_or, hkey] at hother
          rw [hkept _ hother.2, accountView_applyBalanceUpdate hunmet, if_neg]
          rintro rfl
          exact hother.1 rfl
        case deduped => rw [hdeduped, holderUpdatesDeduped_applyBalanceUpdate hunmet]
      · -- the event carries no update of this mint
        have hstep : applyHolderEvent tokenDecimals mint state event = state := by
          unfold applyHolderEvent
          cases hupdate : event.holderUpdate with
          | none => rfl
          | some update => exact if_neg fun hmint => hconcerns ⟨update, hupdate, hmint⟩
        obtain ⟨hstored, hkept, hdeduped⟩ := ih hnodup htext state hfreshtail
        rw [hstep]
        refine ⟨List.forall_mem_cons.mpr ⟨?_, hstored⟩, ?_, hdeduped⟩
        · exact fun update hupdate hmint => absurd ⟨update, hupdate, hmint⟩ hconcerns
        · intro tokenAccount hother
          rw [List.map_cons, List.mem_cons, not_or] at hother
          exact hkept _ hother.2

/-- An account that is stored from a difference agrees with the later balance list. -/
theorem agreesAt_of_stored {transaction : TransactionUpdate} {update : HolderBalanceUpdateEvent}
    (hdifference : transaction.IsDifference update) {event : NormalizedEvent} {decimals : UInt8}
    {after : HolderState}
    (hstored : after.accountView update.tokenAccount.text =
      (storedAccount update event decimals,
        (storedAccount update event decimals).map TokenAccountState.rawBalance,
        some update.ownerWallet)) :
    after.AgreesAt update.tokenAccount.text
      (transaction.entryAt transaction.postTokenBalances update.balanceKey) := by
  obtain ⟨haccount, hrest⟩ := Prod.ext_iff.mp hstored
  obtain ⟨hbalance, -⟩ := Prod.ext_iff.mp hrest
  have hraw : (storedAccount update event decimals).map TokenAccountState.rawBalance =
      if 0 < TransactionUpdate.amountOf
          (transaction.entryAt transaction.postTokenBalances update.balanceKey) then
        some (TransactionUpdate.amountOf
          (transaction.entryAt transaction.postTokenBalances update.balanceKey))
      else none := by
    rw [← hdifference.new, storedAccount]
    by_cases hpos : 0 < update.newBalance
    · rw [if_pos hpos, if_neg (by rw [max_eq_left hpos.le]; exact not_le.mpr hpos),
        max_eq_left hpos.le]
      rfl
    · rw [if_neg hpos, if_pos (max_le (not_lt.mp hpos) le_rfl)]
      rfl
  refine ⟨?account, ?balance, ?owner⟩
  case account => exact (congrArg _ haccount).trans hraw
  case balance => exact hbalance.trans hraw
  case owner =>
    intro account hmem balance hentry owner howner
    have hsome : storedAccount update event decimals = some account := haccount.symm.trans hmem
    rw [(storedAccount_some hsome).2.1]
    exact hdifference.owner balance hentry owner howner

end HolderState

/-! ## Both together -/

namespace TransactionUpdate

theorem mem_balanceKeys_of_event {self : TransactionUpdate} (h : self.DistinctBalances)
    {info : EventMeta} {event : NormalizedEvent} (hevent : event ∈ self.holderBalanceEvents info)
    {update : HolderBalanceUpdateEvent} (hupdate : event.holderUpdate = some update) :
    update.balanceKey ∈ self.balanceKeys := by
  refine (mem_balanceKey_holderBalanceEvents h info _).mp (List.mem_map.mpr ⟨event, hevent, ?_⟩)
  rw [NormalizedEvent.balanceKey, hupdate, Option.map_some]

/-- The events are the difference of the balance lists, one for each mint and token account.
Applied in any order to a ledger that has met none of them, those of a mint make it agree with
the later list, leave all other accounts and are no duplicates of each other. -/
theorem holderBalanceEvents_exact (self : TransactionUpdate) (h : self.DistinctBalances)
    (htext : ∀ balance ∈ self.preTokenBalances ++ self.postTokenBalances,
      '|' ∉ (accountKeyAt self.accountKeys balance.accountIndex).toList) (info : EventMeta) :
    ((∀ event ∈ self.holderBalanceEvents info,
        ∃ update, event.payload = .holderBalanceUpdate update ∧ self.IsDifference update) ∧
      ((self.holderBalanceEvents info).map NormalizedEvent.balanceKey).Nodup ∧
      ∀ key, some key ∈ (self.holderBalanceEvents info).map NormalizedEvent.balanceKey ↔
        key ∈ self.balanceKeys) ∧
    ∀ (tokenDecimals : HolderBalanceUpdateEvent → UInt8) (mint : String) (state : HolderState)
      (events : List NormalizedEvent), events.Perm (self.holderBalanceEvents info) →
      state.FreshFor mint events →
      let after := events.foldl (HolderState.applyHolderEvent tokenDecimals mint) state
      (∀ tokenAccount, (mint, tokenAccount) ∈ self.balanceKeys →
        after.AgreesAt tokenAccount (self.entryAt self.postTokenBalances (mint, tokenAccount))) ∧
      (∀ tokenAccount, (mint, tokenAccount) ∉ self.balanceKeys →
        after.accountView tokenAccount = state.accountView tokenAccount) ∧
      after.counters.holderUpdatesDeduped = state.counters.holderUpdatesDeduped := by
  have hdifference : ∀ event ∈ self.holderBalanceEvents info,
      ∃ update, event.payload = .holderBalanceUpdate update ∧ self.IsDifference update :=
    fun _ => holderBalanceEvents_isDifference h info
  have hnodup := nodup_balanceKey_holderBalanceEvents h info
  have hmem := mem_balanceKey_holderBalanceEvents h info
  refine ⟨⟨hdifference, hnodup, hmem⟩, ?_⟩
  intro tokenDecimals mint state events hperm hfresh after
  have hkeys := hperm.map NormalizedEvent.balanceKey
  have hbars : ∀ event ∈ events, ∀ update ∈ event.holderUpdate,
      '|' ∉ update.tokenAccount.text.toList := by
    intro event hevent update hupdate
    have hkey := mem_balanceKeys_of_event h (hperm.mem_iff.mp hevent) hupdate
    obtain ⟨balance, hbalance, heq⟩ := List.mem_map.mp hkey
    have haccount : accountKeyAt self.accountKeys balance.accountIndex =
        update.tokenAccount.text := congrArg Prod.snd heq
    exact haccount ▸ htext balance hbalance
  obtain ⟨hstored, hkept, hdeduped⟩ := HolderState.ledgerAfter_foldl tokenDecimals mint
    (hkeys.nodup_iff.mpr hnodup) hbars state hfresh
  refine ⟨?agrees, ?kept, hdeduped⟩
  case agrees =>
    intro tokenAccount hkey
    obtain ⟨event, hevent, heq⟩ := List.mem_map.mp ((hmem _).mpr hkey)
    obtain ⟨update, hpayload, hupdate⟩ := hdifference event hevent
    have hholder : event.holderUpdate = some update := by
      rw [NormalizedEvent.holderUpdate, hpayload]
    rw [NormalizedEvent.balanceKey, hholder, Option.map_some, Option.some_inj] at heq
    obtain ⟨hmint, haccount⟩ := Prod.ext_iff.mp heq
    rw [← heq]
    obtain rfl : update.tokenAccount.text = tokenAccount := haccount
    exact HolderState.agreesAt_of_stored hupdate
      (hstored event (hperm.mem_iff.mpr hevent) update hholder hmint)
  case kept =>
    intro tokenAccount hkey
    exact hkept tokenAccount fun hevent => hkey ((hmem _).mp (hkeys.mem_iff.mp hevent))

/-- A balance of some tokens of an account. -/
def tokensOf (accountIndex : ℕ) (amount : String) : TransactionTokenBalance :=
  { accountIndex := accountIndex
    mint := "mint"
    owner := some "owner"
    programId := none
    amount := amount
    decimals := 6 }

/-- A balance of five tokens. -/
def fiveTokens : TransactionTokenBalance := tokensOf 0 "5"

/-- A transaction that opens a token account with five tokens. -/
def openingTransaction : TransactionUpdate :=
  { slot := 1
    signature := "opening"
    transactionIndex := none
    succeeded := true
    accountKeys := ["account"]
    postTokenBalances := [fiveTokens] }

/-- A transaction that closes the account again. -/
def closingTransaction : TransactionUpdate :=
  { slot := 2
    signature := "closing"
    transactionIndex := none
    succeeded := true
    accountKeys := ["account"]
    preTokenBalances := [fiveTokens] }

/-- The meta data of the events of a transaction. -/
def processedMeta (transaction : TransactionUpdate) : EventMeta :=
  { eventId := ⟨transaction.signature⟩
    source := .geyserProcessed
    canonicality := .processed
    slot := transaction.slot
    signature := some transaction.signature }

/-- The ledger after the balance events of some transactions. -/
def ledgerAfter (transactions : List TransactionUpdate) : HolderState :=
  (transactions.flatMap fun transaction =>
    transaction.holderBalanceEvents (processedMeta transaction)).foldl
      (HolderState.applyHolderEvent (fun _ => 6) "mint") {}

theorem openingTransaction_distinct : openingTransaction.DistinctBalances where
  pre := by decide
  post := by decide
  accounts := by decide

/-- A transaction that closes that account, changes a second one and opens a third. -/
def swappingTransaction : TransactionUpdate :=
  { slot := 2
    signature := "swapping"
    transactionIndex := none
    succeeded := true
    accountKeys := ["account", "second", "third"]
    preTokenBalances := [fiveTokens, tokensOf 1 "7"]
    postTokenBalances := [tokensOf 1 "9", tokensOf 2 "3"] }

/-- The events of that transaction, the last one first. -/
def swappingEvents : List NormalizedEvent :=
  (swappingTransaction.holderBalanceEvents (processedMeta swappingTransaction)).reverse

instance (mint : String) (state : HolderState) (events : List NormalizedEvent) :
    Decidable (state.FreshFor mint events) :=
  inferInstanceAs (Decidable (∀ event ∈ events, ∀ update ∈ event.holderUpdate,
    update.mint.text = mint → holderUpdateDedupeKey update event ∉ state.appliedHolderUpdateKeys))

theorem holderBalanceEvents_exact_swapping :
    (swappingEvents.map NormalizedEvent.balanceKey).length = 3 ∧
      ∀ tokenAccount ∈ ["account", "second", "third"],
        (swappingEvents.foldl (HolderState.applyHolderEvent (fun _ => 6) "mint")
          (ledgerAfter [openingTransaction])).AgreesAt tokenAccount
            (swappingTransaction.entryAt swappingTransaction.postTokenBalances
              ("mint", tokenAccount)) := by
  have hdistinct : swappingTransaction.DistinctBalances :=
    ⟨by decide, by decide, by decide⟩
  have hafter := (holderBalanceEvents_exact swappingTransaction hdistinct (by decide)
    (processedMeta swappingTransaction)).2 (fun _ => 6) "mint" (ledgerAfter [openingTransaction])
    swappingEvents (List.reverse_perm _) (by decide +kernel)
  refine ⟨by decide +kernel, fun tokenAccount haccount => hafter.1 tokenAccount ?_⟩
  revert tokenAccount
  decide +kernel

/-- After the account was opened and closed, its opening is delivered again: the ledger agrees
with the balances before it and drops its event. -/
theorem redelivered_opening_dropped : ¬ ∀ (self : TransactionUpdate) (info : EventMeta)
    (mint : String) (state : HolderState), self.DistinctBalances →
    (∀ tokenAccount, (mint, tokenAccount) ∈ self.balanceKeys →
      state.AgreesAt tokenAccount (self.entryAt self.preTokenBalances (mint, tokenAccount))) →
    ∀ tokenAccount, (mint, tokenAccount) ∈ self.balanceKeys →
      ((self.holderBalanceEvents info).foldl (HolderState.applyHolderEvent (fun _ => 6) mint)
        state).AgreesAt tokenAccount
          (self.entryAt self.postTokenBalances (mint, tokenAccount)) := by
  intro h
  have hkeys : openingTransaction.balanceKeys = [("mint", "account")] := by decide
  have hagrees : (ledgerAfter [openingTransaction, closingTransaction]).AgreesAt "account"
      (openingTransaction.entryAt openingTransaction.preTokenBalances ("mint", "account")) :=
    ⟨by decide +kernel, by decide +kernel, by intro _ _ _ hentry; cases hentry⟩
  have hopened := h openingTransaction (processedMeta openingTransaction) "mint"
    (ledgerAfter [openingTransaction, closingTransaction]) openingTransaction_distinct
    (by
      intro tokenAccount hkey
      rw [hkeys, List.mem_singleton] at hkey
      obtain rfl : tokenAccount = "account" := congrArg Prod.snd hkey
      exact hagrees)
    "account" (by rw [hkeys]; exact List.mem_singleton_self _)
  exact absurd hopened.balance (by decide +kernel)

end TransactionUpdate

end PumpLaunchTrader
