import PumpLaunchTrader.Engine.Holders
import PumpLaunchTrader.Holder.CostBasisLoss
import PumpLaunchTrader.Lib.Extremes
import PumpLaunchTrader.Lib.Runs

/-! # The market state that trades move

Counts, prices, cost bases, the creator's holdings and the wallets' totals, with the values
of a new entry where there is none. Creations and trades leave counts behind that nothing
takes back; a holder update moves the creator's holdings and may lose cost bases. -/

namespace PumpLaunchTrader

namespace StateEngine

/-! ## Readings of one token -/

/-- A field of the token of a mint; a mint without a token reads as a new one. -/
def readToken {α : Type} (field : TokenState → α) (default : α) (s : StateEngine) (k : String) :
    α :=
  ((s.tokens.lookup k).map field).getD default

section Readings

variable {α : Type} (field : TokenState → α) (default : α)
  (hcore : ∀ token : TokenState, field token.core = field token)
  (hnew : ∀ mint source, field (TokenState.new mint source) = default)

include hnew in
theorem readToken_getD (s : StateEngine) (k : String) (mint : PubkeyValue)
    (source : EventSource) :
    field ((s.tokens.lookup k).getD (TokenState.new mint source)) =
      readToken field default s k := by
  unfold readToken
  cases s.tokens.lookup k with
  | none => exact hnew mint source
  | some token => rfl

include hcore in
theorem readToken_applyEvent_of_core {s : StateEngine} {event : NormalizedEvent} {k : String}
    (h : ((s.applyEvent event).1.tokens.lookup k).map TokenState.core =
      (s.tokens.lookup k).map TokenState.core) :
    readToken field default (s.applyEvent event).1 k = readToken field default s k :=
  congrArg (·.getD default) (TokenState.field_of_core hcore h)

include hcore hnew in
/-- An event with a handler moves a field of the token of its mint as the handler does. -/
theorem readToken_applyEvent_of_handler {s : StateEngine} {event : NormalizedEvent}
    {f : TokenState → TokenState} (hhandler : s.handler event = some f) {mint : PubkeyValue}
    (hmint : event.mint = some mint) (hreverted : event.info.canonicality ≠ .reverted)
    (k : String) :
    (k = mint.text → ∃ token, field token = readToken field default s k ∧
        readToken field default (s.applyEvent event).1 k = field (f token)) ∧
      (k ≠ mint.text →
        readToken field default (s.applyEvent event).1 k = readToken field default s k) := by
  have hat := core_applyEvent_of_mint hhandler hmint hreverted k
  constructor
  · intro hk
    rw [if_pos hk] at hat
    refine ⟨_, readToken_getD field default hnew s k mint event.info.source, ?_⟩
    have hfield : ((s.applyEvent event).1.tokens.lookup k).map field = some _ :=
      TokenState.field_of_core (b := some _) hcore hat
    rw [readToken, hfield]
    rfl
  · intro hk
    rw [if_neg hk] at hat
    exact readToken_applyEvent_of_core field default hcore hat

end Readings

/-! ## Trades -/

/-- The trade statistics and the price of a mint. -/
def trades : StateEngine → String → TokenTradeStats × Decimal :=
  readToken (fun token => (token.tradeStats, token.latestPrice)) ({}, 0)

/-- The number of trades of a mint. -/
def tradeCount : StateEngine → String → ℕ :=
  readToken (fun token => token.tradeStats.buyCount + token.tradeStats.sellCount) 0

/-- The event is a trade of the mint that the engine counts. -/
def countsTrade (event : NormalizedEvent) (k : String) : Bool :=
  event.info.canonicality ≠ .reverted &&
    match event.payload with
    | .pumpBuy payload => payload.mint.text = k
    | .pumpSell payload => !event.info.isTentative && payload.mint.text = k
    | _ => false

theorem count_recordTrade (stats : TokenTradeStats) (observation : TradeObservation) :
    (stats.recordTrade observation).buyCount + (stats.recordTrade observation).sellCount =
      stats.buyCount + stats.sellCount + 1 := by
  simp only [TokenTradeStats.recordTrade, TokenTradeStats.recordPrice]
  cases observation.side with
  | buy => simp only; omega
  | sell => simp only; omega

theorem tradeCount_handler {s : StateEngine} {event : NormalizedEvent}
    {f : TokenState → TokenState} (h : s.handler event = some f)
    (hreverted : event.info.canonicality ≠ .reverted) {mint : PubkeyValue}
    (hmint : event.mint = some mint) (token : TokenState) :
    (f token).tradeStats.buyCount + (f token).tradeStats.sellCount =
      token.tradeStats.buyCount + token.tradeStats.sellCount +
        if countsTrade event mint.text then 1 else 0 := by
  have hsignature := tradeStats_recordSignature token event
  have hquiet : countsTrade event mint.text = false → (f token).tradeStats = token.tradeStats →
      (f token).tradeStats.buyCount + (f token).tradeStats.sellCount =
        token.tradeStats.buyCount + token.tradeStats.sellCount +
          if countsTrade event mint.text then 1 else 0 := by
    intro hcount hstats
    simp [hcount, hstats]
  cases handles_of_handler h with
  | tokenCreated hpayload =>
      apply hquiet
      · simp [countsTrade, hpayload]
      · exact tradeStats_recordSignature _ event
  | @pumpBuy payload hpayload =>
      have hown : payload.mint = mint := by simpa [NormalizedEvent.mint, hpayload] using hmint
      have hcounts : countsTrade event mint.text = true := by
        simp [countsTrade, hpayload, hreverted, hown]
      rw [hcounts, if_pos rfl, ← hsignature]
      exact count_recordTrade _ _
  | @pumpSell payload hpayload htentative =>
      have hown : payload.mint = mint := by simpa [NormalizedEvent.mint, hpayload] using hmint
      have hcounts : countsTrade event mint.text = true := by
        simp [countsTrade, hpayload, hreverted, htentative, hown]
      rw [hcounts, if_pos rfl, ← hsignature]
      exact count_recordTrade _ _
  | bondingCurveUpdate hpayload =>
      apply hquiet
      · simp [countsTrade, hpayload]
      · simp only [TokenState.applyCurveUpdate]
        split <;> rfl
  | holderBalanceUpdate hpayload | tentativeSellIntentDetected hpayload
  | tentativeMaliciousSellWarning hpayload | shredEmergencyExitArmed hpayload
  | shredEmergencyExitTriggered hpayload | shredSellIntentResolved hpayload =>
      apply hquiet
      · simp [countsTrade, hpayload]
      · rfl

theorem countsTrade_of_no_handler {s : StateEngine} {event : NormalizedEvent}
    (h : s.handler event = none) (k : String) : countsTrade event k = false := by
  unfold handler at h
  unfold countsTrade
  cases hpayload : event.payload with
  | pumpBuy payload => simp [hpayload] at h
  | pumpSell payload =>
      have htentative : event.info.isTentative = true := by
        by_contra hnot
        simp [hpayload, hnot] at h
      simp [htentative]
  | _ => simp

theorem countsTrade_of_ne {event : NormalizedEvent} {mint : PubkeyValue}
    (hmint : event.mint = some mint) {k : String} (hk : k ≠ mint.text) :
    countsTrade event k = false := by
  unfold NormalizedEvent.mint at hmint
  unfold countsTrade
  cases hpayload : event.payload with
  | pumpBuy payload | pumpSell payload =>
      rw [hpayload] at hmint
      simp only [Option.some.injEq] at hmint
      simp [hmint, Ne.symm hk]
  | _ => simp

/-- Every event adds the trades that it counts. -/
theorem tradeCount_applyEvent (s : StateEngine) (event : NormalizedEvent) (k : String) :
    tradeCount (s.applyEvent event).1 k =
      tradeCount s k + if countsTrade event k then 1 else 0 := by
  by_cases hreverted : event.info.canonicality = .reverted
  · have hcounts : countsTrade event k = false := by simp [countsTrade, hreverted]
    simp only [hcounts, Bool.false_eq_true, if_false, Nat.add_zero, tradeCount, readToken,
      tokens_applyEvent_of_reverted hreverted]
  · cases hhandler : s.handler event with
    | none =>
        rw [countsTrade_of_no_handler hhandler]
        exact readToken_applyEvent_of_core _ _ (fun _ => rfl)
          (core_applyEvent_of_no_handler hhandler hreverted k)
    | some f =>
        obtain ⟨mint, hmint, -⟩ := tokens_applyPayload_of_handler hhandler
        obtain ⟨hat, hother⟩ := readToken_applyEvent_of_handler
          (fun token => token.tradeStats.buyCount + token.tradeStats.sellCount) 0
          (fun _ => rfl) (fun _ _ => rfl) hhandler hmint hreverted k
        by_cases hk : k = mint.text
        · obtain ⟨token, htoken, hafter⟩ := hat hk
          rw [tradeCount, hafter, tradeCount_handler hhandler hreverted hmint, htoken, hk]
        · rw [countsTrade_of_ne hmint hk]
          exact hother hk

/-! ## Wallets -/

/-- What a wallet bought, sold and launched. -/
def walletStats (s : StateEngine) (w : String) :
    KeyedMap String Decimal × KeyedMap String Decimal × ℕ :=
  ((s.wallets.lookup w).map fun wallet =>
    (wallet.tokensBought, wallet.tokensSold, wallet.creatorLaunches)).getD (∅, ∅, 0)

theorem walletStats_congr {s t : StateEngine} (h : t.wallets = s.wallets) (w : String) :
    walletStats t w = walletStats s w := by
  rw [walletStats, h, walletStats]

theorem walletStats_touchWallet_ne (s : StateEngine) {wallet w : String} (h : w ≠ wallet)
    (timestamp : OffsetDateTime) (f : WalletSummary → WalletSummary) :
    walletStats (s.touchWallet wallet timestamp f) w = walletStats s w := by
  simp only [walletStats, touchWallet, KeyedMap.lookup_upsert_ne _ h]

theorem walletStats_touchWallet (s : StateEngine) (wallet : String) (timestamp : OffsetDateTime)
    (f : WalletSummary → WalletSummary) :
    ∃ entry : WalletSummary,
      (entry.tokensBought, entry.tokensSold, entry.creatorLaunches) = walletStats s wallet ∧
      walletStats (s.touchWallet wallet timestamp f) wallet =
        ((f entry).tokensBought, (f entry).tokensSold, (f entry).creatorLaunches) := by
  simp only [walletStats, touchWallet, KeyedMap.lookup_upsert_self]
  refine ⟨_, ?_, rfl⟩
  cases s.wallets.lookup wallet with
  | none => rfl
  | some entry => rfl

@[simp] theorem walletStats_touchWallet_id (s : StateEngine) (wallet w : String)
    (timestamp : OffsetDateTime) :
    walletStats (s.touchWallet wallet timestamp id) w = walletStats s w := by
  by_cases h : w = wallet
  · subst h
    obtain ⟨entry, hbefore, hafter⟩ := s.walletStats_touchWallet w timestamp id
    exact hafter.trans hbefore
  · exact s.walletStats_touchWallet_ne h timestamp id

theorem walletStats_refreshDerived (s : StateEngine) (event : NormalizedEvent) (w : String) :
    walletStats (s.refreshDerivedIndicesForEvent event) w = walletStats s w := by
  unfold refreshDerivedIndicesForEvent
  cases s.clusterAffectedWallets event with
  | none =>
      cases event.mint with
      | none => rfl
      | some mint => rfl
  | some affected =>
      simp only [refreshClustersForWallets]
      split
      · rfl
      · simp only [walletStats, KeyedMap.lookup_mapValues, Option.map_map]
        congr 2
        funext wallet
        simp only [Function.comp_apply]
        split <;> rfl

theorem walletStats_recomputeTransitions (s : StateEngine) (event : NormalizedEvent)
    (w : String) : walletStats (s.recomputeTransitions event).1 w = walletStats s w := by
  unfold recomputeTransitions
  split
  · rfl
  · split <;> rfl

theorem walletStats_applyEvent (s : StateEngine) {event : NormalizedEvent}
    (h : event.info.canonicality ≠ .reverted) (w : String) :
    walletStats (s.applyEvent event).1 w = walletStats (s.applyPayload event) w := by
  unfold applyEvent
  rw [if_neg h, walletStats_recomputeTransitions, walletStats_refreshDerived]

theorem walletStats_applyEvent_of_reverted (s : StateEngine) {event : NormalizedEvent}
    (h : event.info.canonicality = .reverted) (w : String) :
    walletStats (s.applyEvent event).1 w = walletStats s w := by
  apply walletStats_congr
  unfold applyEvent forgetSignature
  rw [if_pos h]
  split <;> rfl

@[simp] theorem walletStats_withToken (s : StateEngine) (mint : PubkeyValue)
    (source : EventSource) (f : TokenState → TokenState) (w : String) :
    walletStats (s.withToken mint source f) w = walletStats s w := rfl

@[simp] theorem walletStats_recordSignature (s : StateEngine) (mint : PubkeyValue)
    (event : NormalizedEvent) (w : String) :
    walletStats (s.recordSignature mint event) w = walletStats s w := by
  apply walletStats_congr
  unfold recordSignature
  split
  · split <;> rfl
  · rfl

theorem walletStats_applyTokenCreated (s : StateEngine) (payload : TokenCreatedEvent)
    (event : NormalizedEvent) (w : String) :
    walletStats (s.applyTokenCreated payload event) w =
      walletStats ((s.withToken payload.mint event.info.source fun token =>
          token.applyTokenCreated payload event s.ttl).recordSignature payload.mint event
        |>.touchWallet payload.creatorWallet.text event.info.receivedAtWallTime
          fun wallet => { wallet with creatorLaunches := wallet.creatorLaunches + 1 }) w := by
  unfold applyTokenCreated
  split <;> rfl

/-- Events that are no creation and no trade leave the wallets' totals alone. -/
theorem walletStats_applyPayload_of_not_pump (s : StateEngine) {event : NormalizedEvent}
    (h : event.isPumpEvent = false) (w : String) :
    walletStats (s.applyPayload event) w = walletStats s w := by
  unfold NormalizedEvent.isPumpEvent at h
  unfold applyPayload
  cases hpayload : event.payload with
  | tokenCreated payload | pumpBuy payload | pumpSell payload => simp [hpayload] at h
  | holderBalanceUpdate payload =>
      simp only [applyHolderUpdate, walletStats_touchWallet_id, walletStats_withToken]
  | walletFunding payload =>
      simp only [applyFunding, walletStats_touchWallet_id]
      rfl
  | observedTransaction payload =>
      apply walletStats_congr
      simp only [applyObservedTransaction]
      split <;> rfl
  | tokenTerminal payload =>
      apply walletStats_congr
      simp only [applyTerminal]
      split <;> rfl
  | bondingCurveUpdate payload | tentativeSellIntentDetected payload
  | tentativeMaliciousSellWarning payload | shredEmergencyExitArmed payload
  | shredEmergencyExitTriggered payload | shredSellIntentResolved payload
  | tradeDecision payload | simulatedFill payload | liveFill payload | dataGap payload => rfl

/-- The event is a creation by the wallet that the engine counts. -/
def countsLaunch (event : NormalizedEvent) (w : String) : Bool :=
  event.info.canonicality ≠ .reverted &&
    match event.payload with
    | .tokenCreated payload => payload.creatorWallet.text = w
    | _ => false

theorem launches_touchWallet (s : StateEngine) (wallet w : String) (timestamp : OffsetDateTime)
    {f : WalletSummary → WalletSummary}
    (hf : ∀ entry, (f entry).creatorLaunches = entry.creatorLaunches) :
    (walletStats (s.touchWallet wallet timestamp f) w).2.2 = (walletStats s w).2.2 := by
  by_cases h : w = wallet
  · subst h
    obtain ⟨entry, hbefore, hafter⟩ := s.walletStats_touchWallet w timestamp f
    rw [hafter, ← hbefore]
    exact hf entry
  · rw [s.walletStats_touchWallet_ne h]

/-- Every event adds the launches that it counts. -/
theorem launches_applyEvent (s : StateEngine) (event : NormalizedEvent) (w : String) :
    (walletStats (s.applyEvent event).1 w).2.2 =
      (walletStats s w).2.2 + if countsLaunch event w then 1 else 0 := by
  by_cases hreverted : event.info.canonicality = .reverted
  · simp [s.walletStats_applyEvent_of_reverted hreverted, countsLaunch, hreverted]
  · rw [s.walletStats_applyEvent hreverted]
    cases hpayload : event.payload with
    | tokenCreated payload =>
        simp only [applyPayload, hpayload, walletStats_applyTokenCreated]
        by_cases hw : w = payload.creatorWallet.text
        · subst hw
          obtain ⟨entry, hbefore, hafter⟩ := walletStats_touchWallet _
            payload.creatorWallet.text event.info.receivedAtWallTime
            fun wallet => { wallet with creatorLaunches := wallet.creatorLaunches + 1 }
          rw [hafter]
          simp only [walletStats_recordSignature, walletStats_withToken] at hbefore
          simp [← hbefore, countsLaunch, hpayload, hreverted]
        · rw [walletStats_touchWallet_ne _ hw]
          simp [countsLaunch, hpayload, Ne.symm hw]
    | pumpBuy payload =>
        simp only [applyPayload, hpayload, applyBuy]
        rw [launches_touchWallet]
        · simp [countsLaunch, hpayload]
        · exact fun _ => rfl
    | pumpSell payload =>
        simp only [applyPayload, hpayload]
        split
        · simp [countsLaunch, hpayload]
        · simp only [applySell]
          rw [launches_touchWallet]
          · simp [countsLaunch, hpayload]
          · exact fun _ => rfl
    | _ =>
        rw [walletStats_applyPayload_of_not_pump]
        · simp [countsLaunch, hpayload]
        · simp [NormalizedEvent.isPumpEvent, hpayload]

/-! ## Observations -/

/-- The event observes a transaction, a balance or a funding. -/
def isObservation (event : NormalizedEvent) : Bool :=
  match event.payload with
  | .holderBalanceUpdate _ | .walletFunding _ | .observedTransaction _ => true
  | _ => false

section Observation

variable {event : NormalizedEvent} (h : isObservation event = true)
  (hreverted : event.info.canonicality ≠ .reverted)

include h

theorem observation_cases (s : StateEngine) :
    (∃ update, event.payload = .holderBalanceUpdate update) ∨
      (∀ update, event.payload ≠ .holderBalanceUpdate update) ∧ s.handler event = none := by
  unfold isObservation at h
  unfold handler
  cases hpayload : event.payload with
  | holderBalanceUpdate update => exact .inl ⟨update, rfl⟩
  | walletFunding payload => exact .inr ⟨by simp, rfl⟩
  | observedTransaction payload => exact .inr ⟨by simp, rfl⟩
  | _ => simp [hpayload] at h

include hreverted

theorem walletStats_applyEvent_observation (s : StateEngine) (w : String) :
    walletStats (s.applyEvent event).1 w = walletStats s w := by
  rw [s.walletStats_applyEvent hreverted, s.walletStats_applyPayload_of_not_pump]
  unfold isObservation at h
  unfold NormalizedEvent.isPumpEvent
  cases hpayload : event.payload with
  | tokenCreated payload | pumpBuy payload | pumpSell payload => simp [hpayload] at h
  | _ => rfl

theorem trades_applyEvent_observation (s : StateEngine) (k : String) :
    trades (s.applyEvent event).1 k = trades s k := by
  rcases observation_cases h s with ⟨update, hpayload⟩ | ⟨-, hhandler⟩
  · have hhandler : s.handler event = some fun token => token.applyHolderUpdate update event := by
      simp [handler, hpayload]
    have hmint : event.mint = some update.mint := by simp [NormalizedEvent.mint, hpayload]
    obtain ⟨hat, hother⟩ := readToken_applyEvent_of_handler
      (fun token => (token.tradeStats, token.latestPrice)) ({}, 0) (fun _ => rfl)
      (fun _ _ => rfl) hhandler hmint hreverted k
    by_cases hk : k = update.mint.text
    · obtain ⟨token, htoken, hafter⟩ := hat hk
      exact hafter.trans htoken
    · exact hother hk
  · exact readToken_applyEvent_of_core _ _ (fun _ => rfl)
      (core_applyEvent_of_no_handler hhandler hreverted k)

end Observation

/-! ## Holdings of creators -/

/-- The creator of a mint, what it holds and the most that it held. -/
def creatorHoldings : StateEngine → String → Option PubkeyValue × Decimal × Decimal :=
  readToken (fun token => (token.creator, token.developerState.creatorNetTokens,
    token.developerState.creatorInitialHolding)) (none, 0, 0)

/-- The balance of an owner that an event observes. -/
def observedBalance (k : String) (owner : PubkeyValue) (event : NormalizedEvent) :
    Option Decimal :=
  match event.payload with
  | .holderBalanceUpdate update =>
    if update.mint.text = k ∧ update.ownerWallet = owner then some update.newBalance else none
  | _ => none

/-- An observation of the creator's balance sets what the creator holds. -/
def observeHoldings (k : String) (holdings : Option PubkeyValue × Decimal × Decimal)
    (event : NormalizedEvent) : Option PubkeyValue × Decimal × Decimal :=
  match holdings.1.bind (observedBalance k · event) with
  | some balance => (holdings.1, balance, max holdings.2.2 balance)
  | none => holdings

theorem creatorHoldings_applyEvent_observation {event : NormalizedEvent}
    (h : isObservation event = true) (hreverted : event.info.canonicality ≠ .reverted)
    (s : StateEngine) (k : String) :
    creatorHoldings (s.applyEvent event).1 k = observeHoldings k (creatorHoldings s k) event := by
  rcases observation_cases h s with ⟨update, hpayload⟩ | ⟨hnone, hhandler⟩
  · have hhandler : s.handler event = some fun token => token.applyHolderUpdate update event := by
      simp [handler, hpayload]
    have hmint : event.mint = some update.mint := by simp [NormalizedEvent.mint, hpayload]
    obtain ⟨hat, hother⟩ := readToken_applyEvent_of_handler
      (fun token => (token.creator, token.developerState.creatorNetTokens,
        token.developerState.creatorInitialHolding)) (none, 0, 0) (fun _ => rfl)
      (fun _ _ => rfl) hhandler hmint hreverted k
    by_cases hk : k = update.mint.text
    · obtain ⟨token, htoken, hafter⟩ := hat hk
      rw [creatorHoldings, hafter, ← htoken]
      unfold observeHoldings observedBalance
      simp only [hpayload, hk]
      cases hcreator : token.creator with
      | none => simp [TokenState.applyHolderUpdate, TokenState.holderUpdateDeveloper, hcreator,
          TokenState.recalcDeveloperRank, TokenState.updateMemoryBytes]
      | some creator =>
          by_cases howner : update.ownerWallet = creator
          · simp [TokenState.applyHolderUpdate, TokenState.holderUpdateDeveloper, hcreator,
              TokenState.recalcDeveloperRank, TokenState.updateMemoryBytes, howner]
          · simp [TokenState.applyHolderUpdate, TokenState.holderUpdateDeveloper, hcreator,
              TokenState.recalcDeveloperRank, TokenState.updateMemoryBytes, howner,
              Ne.symm howner]
    · have hunobserved : (creatorHoldings s k).1.bind (observedBalance k · event) = none := by
        cases (creatorHoldings s k).1 with
        | none => rfl
        | some creator => simp [observedBalance, hpayload, Ne.symm hk]
      rw [observeHoldings, hunobserved]
      exact hother hk
  · have hunobserved : (creatorHoldings s k).1.bind (observedBalance k · event) = none := by
      cases (creatorHoldings s k).1 with
      | none => rfl
      | some creator =>
          unfold observedBalance
          cases hpayload : event.payload with
          | holderBalanceUpdate update => exact absurd hpayload (hnone update)
          | _ => rfl
    rw [observeHoldings, hunobserved]
    exact readToken_applyEvent_of_core _ _ (fun _ => rfl)
      (core_applyEvent_of_no_handler hhandler hreverted k)

theorem foldl_observeHoldings_none (k : String) (held most : Decimal)
    (events : List NormalizedEvent) :
    events.foldl (observeHoldings k) (none, held, most) = (none, held, most) := by
  induction events with
  | nil => rfl
  | cons event events ih => exact ih

/-- Observations leave the last balance behind, and the largest one. -/
theorem foldl_observeHoldings (k : String) (creator : PubkeyValue) (held most : Decimal)
    (events : List NormalizedEvent) :
    events.foldl (observeHoldings k) (some creator, held, most) =
      (some creator, (events.filterMap (observedBalance k creator)).getLastD held,
        (events.filterMap (observedBalance k creator)).foldl max most) := by
  induction events generalizing held most with
  | nil => rfl
  | cons event events ih =>
      rw [List.foldl_cons, List.filterMap_cons]
      cases hbalance : observedBalance k creator event with
      | none =>
          simp only [observeHoldings, Option.bind_some, hbalance]
          exact ih held most
      | some balance =>
          simp only [observeHoldings, Option.bind_some, hbalance]
          rw [ih, List.getLastD_cons, List.foldl_cons]

theorem foldl_max_eq_left_iff (most : Decimal) (balances : List Decimal) :
    balances.foldl max most = most ↔ ∀ balance ∈ balances, balance ≤ most := by
  obtain ⟨hle, -⟩ := Extremes.foldl_max_le_iff.mp (le_refl (balances.foldl max most))
  constructor
  · exact fun h => (Extremes.foldl_max_le_iff.mp h.le).2
  · exact fun h => le_antisymm (Extremes.foldl_max_le_iff.mpr ⟨le_rfl, h⟩) hle

/-- The balances that the events observe of every creator end with what the creator holds
already, and none exceeds the most that it held. -/
def KeepsHoldings (s : StateEngine) (events : List NormalizedEvent) : Prop :=
  ∀ k creator held most, creatorHoldings s k = (some creator, held, most) →
    (events.filterMap (observedBalance k creator)).getLastD held = held ∧
      ∀ balance ∈ events.filterMap (observedBalance k creator), balance ≤ most

/-! ## Cost bases -/

/-- No balance update that the event stands for loses a cost basis. -/
def KeepsCostBases (s : StateEngine) (event : NormalizedEvent) : Prop :=
  ∀ update, event.payload = .holderBalanceUpdate update → ∀ wallet : PubkeyValue,
    (s.holderOf update.mint.text).costBasisOf wallet = {} ∨
      (s.holderOf update.mint.text).KeepsBasis update event wallet

/-- The cost basis of a wallet in the token of a mint. -/
def costBasis (s : StateEngine) (k : String) (wallet : PubkeyValue) : CostBasisPosition :=
  (s.holderOf k).costBasisOf wallet

section CostBases

variable {event : NormalizedEvent} (h : isObservation event = true)
  (hreverted : event.info.canonicality ≠ .reverted) (s : StateEngine)

include h hreverted

/-- An observation keeps a cost basis or loses it, and loses some exactly when one of its
balance updates does. -/
theorem costBasis_applyEvent_observation :
    (∀ k wallet, (s.applyEvent event).1.costBasis k wallet = s.costBasis k wallet ∨
      (s.applyEvent event).1.costBasis k wallet = {}) ∧
    ((∀ k wallet, (s.applyEvent event).1.costBasis k wallet = s.costBasis k wallet) ↔
      KeepsCostBases s event) := by
  rcases observation_cases h s with ⟨update, hpayload⟩ | ⟨hnone, hhandler⟩
  · have hother (k) (wallet : PubkeyValue) (hk : k ≠ update.mint.text) :
        (s.applyEvent event).1.costBasis k wallet = s.costBasis k wallet := by
      have hhandler : s.handler event = some fun token => token.applyHolderUpdate update event := by
        simp [handler, hpayload]
      have hmint : event.mint = some update.mint := by simp [NormalizedEvent.mint, hpayload]
      have hat := core_applyEvent_of_mint hhandler hmint hreverted k
      rw [if_neg hk] at hat
      unfold costBasis holderOf
      rw [TokenState.field_of_core (fun _ => rfl) hat]
    obtain ⟨decimals, hledger⟩ := holderOf_applyEvent_holderUpdate hpayload hreverted
    have hown (wallet : PubkeyValue) :
        (s.applyEvent event).1.costBasis update.mint.text wallet =
          ((s.holderOf update.mint.text).applyBalanceUpdate update event decimals).costBasisOf
            wallet := by
      rw [costBasis, hledger]
    constructor
    · intro k wallet
      by_cases hk : k = update.mint.text
      · subst hk
        rw [hown]
        by_cases hkeeps : (s.holderOf update.mint.text).KeepsBasis update event wallet
        · exact .inl (HolderState.costBasisOf_applyBalanceUpdate_of_keeps hkeeps decimals)
        · exact .inr (HolderState.costBasisOf_applyBalanceUpdate_of_not_keeps hkeeps decimals)
      · exact .inl (hother k wallet hk)
    · constructor
      · intro hsame update' hpayload' wallet
        obtain rfl : update = update' := by simpa [hpayload] using hpayload'
        by_cases hkeeps : (s.holderOf update.mint.text).KeepsBasis update event wallet
        · exact .inr hkeeps
        · have hlost := HolderState.costBasisOf_applyBalanceUpdate_of_not_keeps hkeeps decimals
          rw [← hown, hsame] at hlost
          exact .inl hlost
      · intro hkeeps k wallet
        by_cases hk : k = update.mint.text
        · subst hk
          rw [hown]
          by_cases hkept : (s.holderOf update.mint.text).KeepsBasis update event wallet
          · exact HolderState.costBasisOf_applyBalanceUpdate_of_keeps hkept decimals
          · rw [HolderState.costBasisOf_applyBalanceUpdate_of_not_keeps hkept]
            exact ((hkeeps update hpayload wallet).resolve_right hkept).symm
        · exact hother k wallet hk
  · have hsame (k) (wallet : PubkeyValue) :
        (s.applyEvent event).1.costBasis k wallet = s.costBasis k wallet := by
      unfold costBasis holderOf
      rw [TokenState.field_of_core (fun _ => rfl)
        (core_applyEvent_of_no_handler hhandler hreverted k)]
    exact ⟨fun k wallet => .inl (hsame k wallet), iff_of_true hsame fun update hpayload =>
      absurd hpayload (hnone update)⟩

end CostBases

/-! ## Runs of observations -/

/-- Both engines agree on trades, prices, cost bases, creators and the totals of wallets. -/
structure SameMarket (s t : StateEngine) : Prop where
  trades : ∀ k, t.trades k = s.trades k
  costBases : ∀ k wallet, t.costBasis k wallet = s.costBasis k wallet
  creators : ∀ k, t.creatorHoldings k = s.creatorHoldings k
  wallets : ∀ w, t.walletStats w = s.walletStats w

section Runs

variable {events : List NormalizedEvent}
  (h : ∀ event ∈ events, isObservation event = true ∧ event.info.canonicality ≠ .reverted)

include h

theorem applyEvents_observations (s : StateEngine) :
    (∀ k, trades (s.applyEvents events) k = trades s k) ∧
      (∀ w, walletStats (s.applyEvents events) w = walletStats s w) ∧
      ∀ k, creatorHoldings (s.applyEvents events) k =
        events.foldl (observeHoldings k) (creatorHoldings s k) := by
  induction events generalizing s with
  | nil => exact ⟨fun _ => rfl, fun _ => rfl, fun _ => rfl⟩
  | cons event events ih =>
      obtain ⟨⟨hfirst, hreverted⟩, hrest⟩ := List.forall_mem_cons.mp h
      obtain ⟨htrades, hwallets, hcreators⟩ := ih hrest (s.applyEvent event).1
      rw [applyEvents_cons]
      refine ⟨fun k => ?_, fun w => ?_, fun k => ?_⟩
      · rw [htrades, trades_applyEvent_observation hfirst hreverted]
      · rw [hwallets, walletStats_applyEvent_observation hfirst hreverted]
      · rw [hcreators, creatorHoldings_applyEvent_observation hfirst hreverted, List.foldl_cons]

/-- A lost cost basis stays lost. -/
theorem costBasis_applyEvents_of_lost {s : StateEngine} {k : String} {wallet : PubkeyValue}
    (hlost : s.costBasis k wallet = {}) : (s.applyEvents events).costBasis k wallet = {} := by
  induction events generalizing s with
  | nil => exact hlost
  | cons event events ih =>
      obtain ⟨⟨hfirst, hreverted⟩, hrest⟩ := List.forall_mem_cons.mp h
      apply ih hrest
      rcases (costBasis_applyEvent_observation hfirst hreverted s).1 k wallet with hsame | hnow
      · exact hsame.trans hlost
      · exact hnow

theorem costBases_applyEvents_iff (s : StateEngine) :
    (∀ k wallet, (s.applyEvents events).costBasis k wallet = s.costBasis k wallet) ↔
      Runs.Along (fun s event => (s.applyEvent event).1) KeepsCostBases s events := by
  induction events generalizing s with
  | nil => exact iff_of_true (fun _ _ => rfl) trivial
  | cons event events ih =>
      obtain ⟨⟨hfirst, hreverted⟩, hrest⟩ := List.forall_mem_cons.mp h
      obtain ⟨hcases, hkeeps⟩ := costBasis_applyEvent_observation hfirst hreverted s
      rw [Runs.Along, ← hkeeps, ← ih hrest, applyEvents_cons]
      constructor
      · intro hsame
        have hstep (k wallet) :
            (s.applyEvent event).1.costBasis k wallet = s.costBasis k wallet := by
          rcases hcases k wallet with hkept | hlost
          · exact hkept
          · rw [hlost, ← hsame k wallet]
            exact (costBasis_applyEvents_of_lost hrest hlost).symm
        exact ⟨hstep, fun k wallet => (hsame k wallet).trans (hstep k wallet).symm⟩
      · rintro ⟨hstep, hlater⟩ k wallet
        exact (hlater k wallet).trans (hstep k wallet)

theorem keepsHoldings_iff (s : StateEngine) :
    (∀ k, creatorHoldings (s.applyEvents events) k = creatorHoldings s k) ↔
      KeepsHoldings s events := by
  have hrun := (applyEvents_observations h s).2.2
  constructor
  · intro hsame k creator held most hholdings
    have hfold := (hrun k).symm.trans (hsame k)
    rw [hholdings, foldl_observeHoldings] at hfold
    simp only [Prod.mk.injEq, true_and] at hfold
    exact ⟨hfold.1, (foldl_max_eq_left_iff _ _).mp hfold.2⟩
  · intro hkeeps k
    rw [hrun k]
    cases hholdings : creatorHoldings s k with
    | mk creator amounts =>
        cases creator with
        | none => exact foldl_observeHoldings_none k _ _ events
        | some creator =>
            obtain ⟨hlast, hmost⟩ := hkeeps k creator _ _ hholdings
            rw [foldl_observeHoldings, hlast, (foldl_max_eq_left_iff _ _).mpr hmost]

/-- Observations leave the market alone exactly when the balances say what the creators hold
already and lose no cost basis. -/
theorem sameMarket_observations_iff (s : StateEngine) :
    SameMarket s (s.applyEvents events) ↔
      KeepsHoldings s events ∧
        Runs.Along (fun s event => (s.applyEvent event).1) KeepsCostBases s events := by
  obtain ⟨htrades, hwallets, -⟩ := applyEvents_observations h s
  rw [← keepsHoldings_iff h, ← costBases_applyEvents_iff h]
  constructor
  · exact fun hsame => ⟨hsame.creators, hsame.costBases⟩
  · rintro ⟨hcreators, hcosts⟩
    exact ⟨htrades, hcosts, hcreators, hwallets⟩

end Runs

theorem tradeCount_eq (s : StateEngine) (k : String) :
    tradeCount s k = (trades s k).1.buyCount + (trades s k).1.sellCount := by
  unfold tradeCount trades readToken
  cases s.tokens.lookup k with
  | none => rfl
  | some token => rfl

/-- A run that counts a trade or a launch moves the market. -/
theorem not_sameMarket_of_counts {s : StateEngine} {events : List NormalizedEvent}
    {event : NormalizedEvent} (hevent : event ∈ events)
    (hcounts : (∃ k, countsTrade event k = true) ∨ ∃ w, countsLaunch event w = true) :
    ¬ SameMarket s (s.applyEvents events) := by
  intro hsame
  have hpositive (counts : NormalizedEvent → Bool) (hcounts : counts event = true) :
      1 ≤ (events.map fun event => if counts event then 1 else 0).sum :=
    List.single_le_sum (fun _ _ => Nat.zero_le _) 1
      (List.mem_map.mpr ⟨event, hevent, if_pos hcounts⟩)
  rcases hcounts with ⟨k, hcounts⟩ | ⟨w, hcounts⟩
  · have hrun := Runs.reading_foldl (fun s event => (s.applyEvent event).1)
      (tradeCount · k) (fun event => if countsTrade event k then 1 else 0)
      (fun s event => s.tradeCount_applyEvent event k) s events
    have hcount : tradeCount (s.applyEvents events) k = tradeCount s k := by
      rw [tradeCount_eq, tradeCount_eq, hsame.trades k]
    have hone := hpositive (countsTrade · k) hcounts
    rw [applyEvents] at hcount
    omega
  · have hrun := Runs.reading_foldl (fun s event => (s.applyEvent event).1)
      (fun s => (walletStats s w).2.2) (fun event => if countsLaunch event w then 1 else 0)
      (fun s event => s.launches_applyEvent event w) s events
    have hcount : (walletStats (s.applyEvents events) w).2.2 = (walletStats s w).2.2 := by
      rw [hsame.wallets w]
    have hone := hpositive (countsLaunch · w) hcounts
    rw [applyEvents] at hcount
    omega

end StateEngine

end PumpLaunchTrader
