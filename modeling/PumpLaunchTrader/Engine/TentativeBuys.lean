import PumpLaunchTrader.Engine.Step
import PumpLaunchTrader.Holder.CostBasisFrame

/-! # Tentative buys in the canonical state

A tentative buy is recorded like a canonical one and again when it is confirmed; a revert
undoes neither. Reverted copies by themselves leave no trace. -/

namespace PumpLaunchTrader

namespace NormalizedEvent

def isPumpBuy (event : NormalizedEvent) : Bool :=
  match event.payload with
  | .pumpBuy _ => true
  | _ => false

def isTentativeBuy (event : NormalizedEvent) : Bool :=
  event.isPumpBuy && event.info.isTentative

/-- A tentative or reverted copy of a buy. -/
def isUnsettledBuy (event : NormalizedEvent) : Bool :=
  event.isPumpBuy && (event.info.isTentative || event.info.canonicality = .reverted)

/-- A buy of `k` that `apply_event` records. -/
def countsAsBuyOf (k : String) (event : NormalizedEvent) : Bool :=
  event.isPumpBuy && event.info.canonicality ≠ .reverted &&
    event.mint.map PubkeyValue.text = some k

end NormalizedEvent

/-- Every tentative buy has a signature and is later confirmed by a canonical buy with the
same signature and payload, or reverted. -/
def Settled : List NormalizedEvent → Prop
  | [] => True
  | event :: events =>
    (event.isTentativeBuy = true → ∃ signature, event.signature = some signature ∧
      ∃ later ∈ events, later.signature = some signature ∧ later.isPumpBuy = true ∧
        (later.payload = event.payload ∧ later.info.isTentative = false ∧
            later.info.canonicality ≠ .reverted ∨ later.info.canonicality = .reverted)) ∧
      Settled events

/-- The events without the tentative and reverted copies of buys. -/
def withoutUnsettledBuys (events : List NormalizedEvent) : List NormalizedEvent :=
  events.filter fun event => !event.isUnsettledBuy

/-- What the trades of one mint leave in the state. -/
structure TradeTrace where
  buyCount : ℕ
  sellCount : ℕ
  uniqueBuyers : Finset String
  uniqueSellers : Finset String
  buyVolumeQuote : Decimal
  sellVolumeQuote : Decimal
  priceHistory : List (OffsetDateTime × Decimal)
  costBasis : PubkeyValue → CostBasisPosition
  creatorNetTokens : Decimal
  creatorInitialHolding : Decimal
  tokensBought : String → Decimal

namespace StateEngine

/-- The trade statistics of a mint; an unknown mint has the default ones. -/
def tradeStatsOf (s : StateEngine) (k : String) : TokenTradeStats :=
  ((s.tokens.lookup k).map TokenState.tradeStats).getD {}

def tradeTrace (s : StateEngine) (k : String) : TradeTrace :=
  let stats := s.tradeStatsOf k
  let developer := ((s.tokens.lookup k).map TokenState.developerState).getD {}
  let ledger := ((s.tokens.lookup k).map TokenState.holderState).getD {}
  { buyCount := stats.buyCount
    sellCount := stats.sellCount
    uniqueBuyers := stats.uniqueBuyers
    uniqueSellers := stats.uniqueSellers
    buyVolumeQuote := stats.buyVolumeQuote
    sellVolumeQuote := stats.sellVolumeQuote
    priceHistory := stats.priceHistory
    costBasis := ledger.costBasisOf
    creatorNetTokens := developer.creatorNetTokens
    creatorInitialHolding := developer.creatorInitialHolding
    tokensBought := fun wallet =>
      ((s.wallets.lookup wallet).bind fun summary => summary.tokensBought.lookup k).getD 0 }

/-! ## Counting buys -/

/-- A handler counts a buy exactly for a buy event. -/
theorem buyCount_handler {s : StateEngine} {event : NormalizedEvent}
    {f : TokenState → TokenState} (h : s.handler event = some f) (token : TokenState) :
    (f token).tradeStats.buyCount =
      token.tradeStats.buyCount + if event.isPumpBuy then 1 else 0 := by
  unfold NormalizedEvent.isPumpBuy
  cases handles_of_handler h with
  | tokenCreated hpayload =>
      simp [hpayload, TokenState.applyTokenCreated, TokenState.updateMemoryBytes,
        TokenState.renewExpiry]
  | pumpBuy hpayload =>
      simp [hpayload, TokenState.applyBuy, TokenState.applyTrade, TokenState.updateMemoryBytes,
        TokenState.renewExpiry, TokenTradeStats.recordTrade, TokenTradeStats.recordPrice,
        buyObservation]
  | pumpSell hpayload _ =>
      simp [hpayload, TokenState.applySell, TokenState.applyTrade, TokenState.updateMemoryBytes,
        TokenState.renewExpiry, TokenTradeStats.recordTrade, TokenTradeStats.recordPrice,
        sellObservation]
  | bondingCurveUpdate hpayload =>
      rw [hpayload]
      simp only [TokenState.applyCurveUpdate]
      split <;> rfl
  | holderBalanceUpdate hpayload | tentativeSellIntentDetected hpayload
  | tentativeMaliciousSellWarning hpayload | shredEmergencyExitArmed hpayload
  | shredEmergencyExitTriggered hpayload | shredSellIntentResolved hpayload =>
      rw [hpayload]
      rfl

/-- One event adds a buy to a mint exactly when it counts as one. -/
theorem buyCount_applyEvent (s : StateEngine) (event : NormalizedEvent) (k : String) :
    ((s.applyEvent event).1.tradeStatsOf k).buyCount =
      (s.tradeStatsOf k).buyCount + if event.countsAsBuyOf k then 1 else 0 := by
  unfold tradeStatsOf NormalizedEvent.countsAsBuyOf
  by_cases hreverted : event.info.canonicality = .reverted
  · rw [tokens_applyEvent_of_reverted hreverted]
    simp [hreverted]
  · cases hhandler : s.handler event with
    | none =>
        have hbuy : event.isPumpBuy = false := by
          unfold handler at hhandler
          unfold NormalizedEvent.isPumpBuy
          cases hpayload : event.payload with
          | pumpBuy payload =>
              rw [hpayload] at hhandler
              cases hhandler
          | _ => rfl
        rw [TokenState.field_of_core (fun _ => rfl)
          (core_applyEvent_of_no_handler hhandler hreverted k)]
        simp [hbuy]
    | some f =>
        obtain ⟨mint, hmint, hcore⟩ := core_applyEvent_of_handler hhandler hreverted
        have hat := hcore k
        by_cases hk : k = mint.text
        · rw [if_pos hk] at hat
          have hstats : ((s.applyEvent event).1.tokens.lookup k).map TokenState.tradeStats =
              some _ := TokenState.field_of_core (b := some _) (fun _ => rfl) hat
          rw [hstats, Option.getD_some, buyCount_handler hhandler]
          have hbase : ((s.tokens.lookup k).getD
              (TokenState.new mint event.info.source)).tradeStats =
                ((s.tokens.lookup k).map TokenState.tradeStats).getD {} := by
            cases s.tokens.lookup k with
            | none => rfl
            | some token => rfl
          rw [hbase]
          simp [hreverted, hmint, hk]
        · rw [if_neg hk] at hat
          have hk' : ¬ mint.text = k := fun he => hk he.symm
          rw [TokenState.field_of_core (fun _ => rfl) hat]
          simp [hmint, hk']

theorem buyCount_applyEvents (s : StateEngine) (events : List NormalizedEvent) (k : String) :
    ((s.applyEvents events).tradeStatsOf k).buyCount =
      (s.tradeStatsOf k).buyCount + events.countP (NormalizedEvent.countsAsBuyOf k) := by
  induction events generalizing s with
  | nil => rfl
  | cons event events ih =>
      have hstep := s.buyCount_applyEvent event k
      have hrest := ih (s.applyEvent event).1
      rw [applyEvents_cons, hrest, hstep, List.countP_cons]
      omega

/-- Removing a tentative buy removes a buy from the count of its mint. -/
theorem buyCount_withoutUnsettledBuys_lt {events : List NormalizedEvent}
    {event : NormalizedEvent} (hmem : event ∈ events) (h : event.isTentativeBuy = true) :
    ∃ k, (withoutUnsettledBuys events).countP (NormalizedEvent.countsAsBuyOf k) <
      events.countP (NormalizedEvent.countsAsBuyOf k) := by
  have hbuy : event.isPumpBuy = true ∧ event.info.isTentative = true := by
    simpa [NormalizedEvent.isTentativeBuy] using h
  have hunsettled : event.isUnsettledBuy = true := by
    simp [NormalizedEvent.isUnsettledBuy, hbuy]
  have hmint : ∃ mint, event.mint = some mint := by
    have hpump := hbuy.1
    unfold NormalizedEvent.isPumpBuy at hpump
    unfold NormalizedEvent.mint
    cases hpayload : event.payload with
    | pumpBuy payload => exact ⟨payload.mint, rfl⟩
    | _ =>
        rw [hpayload] at hpump
        cases hpump
  obtain ⟨mint, hmint⟩ := hmint
  have hcounts : event.countsAsBuyOf mint.text = true := by
    have htentative : event.info.canonicality = .tentative := by
      simpa [EventMeta.isTentative] using hbuy.2
    simp [NormalizedEvent.countsAsBuyOf, hbuy.1, hmint, htentative]
  refine ⟨mint.text, ?_⟩
  obtain ⟨before, after, rfl⟩ := List.append_of_mem hmem
  have hkept : ∀ l : List NormalizedEvent,
      (l.filter fun event => !event.isUnsettledBuy).countP
          (NormalizedEvent.countsAsBuyOf mint.text) ≤
        l.countP (NormalizedEvent.countsAsBuyOf mint.text) := fun l => List.filter_sublist.countP_le
  have hbefore := hkept before
  have hafter := hkept after
  simp only [withoutUnsettledBuys, List.filter_append, List.filter_cons, hunsettled,
    Bool.not_true, Bool.false_eq_true, if_false, List.countP_append, List.countP_cons, hcounts,
    if_true]
  omega

/-! ## Runs without tentative buys -/

/-- Two engines that differ in their map of tentative signatures at most. -/
def SameUpToSignatures (s t : StateEngine) : Prop :=
  ∃ signatures, t = { s with tentativeSignatures := signatures }

theorem recordSignature_with (s : StateEngine) (signatures : KeyedMap String String)
    (mint : PubkeyValue) (event : NormalizedEvent) :
    SameUpToSignatures (s.recordSignature mint event)
      (recordSignature { s with tentativeSignatures := signatures } mint event) := by
  unfold recordSignature
  cases event.signature with
  | none => exact ⟨signatures, rfl⟩
  | some signature =>
      by_cases htentative : event.info.isTentative = true
      · simp only [htentative, if_true]
        exact ⟨_, rfl⟩
      · simp only [htentative]
        exact ⟨_, rfl⟩

/-- No payload handler reads the tentative signatures. -/
theorem applyPayload_with (s : StateEngine) (signatures : KeyedMap String String)
    (event : NormalizedEvent) :
    SameUpToSignatures (s.applyPayload event)
      (applyPayload { s with tentativeSignatures := signatures } event) := by
  unfold applyPayload
  cases hpayload : event.payload with
  | tokenCreated payload =>
      have htoken : withToken { s with tentativeSignatures := signatures } payload.mint
          event.info.source (fun token => token.applyTokenCreated payload event s.ttl) =
            { s.withToken payload.mint event.info.source
                (fun token => token.applyTokenCreated payload event s.ttl) with
              tentativeSignatures := signatures } := rfl
      obtain ⟨filed, hfiled⟩ := recordSignature_with (s.withToken payload.mint
        event.info.source fun token => token.applyTokenCreated payload event s.ttl) signatures
        payload.mint event
      refine ⟨filed, ?_⟩
      simp only [applyTokenCreated]
      rw [htoken, hfiled]
      split <;> rfl
  | pumpBuy payload =>
      obtain ⟨filed, hfiled⟩ := recordSignature_with (s.withToken payload.mint
        event.info.source fun token => token.applyBuy payload event
          (s.buyObservation payload event) s.ttl) signatures payload.mint event
      refine ⟨filed, ?_⟩
      simp only [applyBuy]
      exact congrArg (fun engine : StateEngine => engine.touchWallet payload.buyer.text
        event.info.receivedAtWallTime fun wallet =>
          { wallet with
            tokensBought :=
              wallet.tokensBought.upsert payload.mint.text 0 (· + payload.tokenOut) }) hfiled
  | pumpSell payload =>
      by_cases htentative : event.info.isTentative = true
      · simp only [htentative, if_true]
        exact ⟨signatures, rfl⟩
      · obtain ⟨filed, hfiled⟩ := recordSignature_with (s.withToken payload.mint
          event.info.source fun token => token.applySell payload event
            (s.sellObservation payload event) s.ttl) signatures payload.mint event
        refine ⟨filed, ?_⟩
        simp only [htentative, applySell]
        exact congrArg (fun engine : StateEngine => engine.touchWallet payload.seller.text
          event.info.receivedAtWallTime fun wallet =>
            { wallet with
              tokensSold :=
                wallet.tokensSold.upsert payload.mint.text 0 (· + payload.tokenIn) }) hfiled
  | observedTransaction payload =>
      refine ⟨signatures, ?_⟩
      simp only [applyObservedTransaction]
      split <;> rfl
  | tokenTerminal payload =>
      refine ⟨signatures, ?_⟩
      simp only [applyTerminal]
      split <;> rfl
  | bondingCurveUpdate payload | holderBalanceUpdate payload | walletFunding payload
  | tentativeSellIntentDetected payload | tentativeMaliciousSellWarning payload
  | shredEmergencyExitArmed payload | shredEmergencyExitTriggered payload
  | shredSellIntentResolved payload | dataGap payload | tradeDecision payload
  | simulatedFill payload | liveFill payload => exact ⟨signatures, rfl⟩

theorem refreshDerived_with (s : StateEngine) (signatures : KeyedMap String String)
    (event : NormalizedEvent) :
    SameUpToSignatures (s.refreshDerivedIndicesForEvent event)
      (refreshDerivedIndicesForEvent { s with tentativeSignatures := signatures } event) := by
  unfold refreshDerivedIndicesForEvent
  have haffected : clusterAffectedWallets { s with tentativeSignatures := signatures } event =
      s.clusterAffectedWallets event := rfl
  rw [haffected]
  refine ⟨signatures, ?_⟩
  cases s.clusterAffectedWallets event with
  | some affected =>
      simp only [refreshClustersForWallets]
      split <;> rfl
  | none =>
      cases event.mint with
      | none => rfl
      | some mint => rfl

theorem recomputeTransitions_with (s : StateEngine) (signatures : KeyedMap String String)
    (event : NormalizedEvent) :
    SameUpToSignatures (s.recomputeTransitions event).1
      (recomputeTransitions { s with tentativeSignatures := signatures } event).1 := by
  unfold recomputeTransitions
  cases event.mint with
  | none => exact ⟨signatures, rfl⟩
  | some mint =>
      cases hlookup : s.tokens.lookup mint.text with
      | none => exact ⟨signatures, by simp [hlookup]⟩
      | some token => exact ⟨signatures, by simp [hlookup]⟩

/-- Events keep engines equal up to the tentative signatures. -/
theorem SameUpToSignatures.applyEvent {s t : StateEngine} (h : SameUpToSignatures s t)
    (event : NormalizedEvent) :
    SameUpToSignatures (s.applyEvent event).1 (t.applyEvent event).1 := by
  obtain ⟨signatures, rfl⟩ := h
  unfold StateEngine.applyEvent
  by_cases hreverted : event.info.canonicality = .reverted
  · simp only [hreverted, if_true, forgetSignature]
    cases event.signature with
    | none => exact ⟨signatures, rfl⟩
    | some signature => exact ⟨_, rfl⟩
  · simp only [hreverted, if_false]
    obtain ⟨handled, hhandled⟩ := applyPayload_with s signatures event
    obtain ⟨refreshed, hrefreshed⟩ := refreshDerived_with (s.applyPayload event) handled event
    rw [hhandled, hrefreshed]
    exact recomputeTransitions_with _ refreshed event

/-- A reverted event changes the tentative signatures at most. -/
theorem SameUpToSignatures.applyEvent_reverted {s t : StateEngine}
    (h : SameUpToSignatures s t) {event : NormalizedEvent}
    (hreverted : event.info.canonicality = .reverted) :
    SameUpToSignatures (s.applyEvent event).1 t := by
  obtain ⟨signatures, rfl⟩ := h
  unfold StateEngine.applyEvent forgetSignature
  simp only [hreverted, if_true]
  split <;> exact ⟨signatures, rfl⟩

theorem SameUpToSignatures.applyEvents {events : List NormalizedEvent}
    (hnone : ∀ event ∈ events, event.isTentativeBuy = false) {s t : StateEngine}
    (h : SameUpToSignatures s t) :
    SameUpToSignatures (s.applyEvents events) (t.applyEvents (withoutUnsettledBuys events)) := by
  induction events generalizing s t with
  | nil => exact h
  | cons event events ih =>
      have hrest := fun e he => hnone e (List.mem_cons_of_mem event he)
      have hevent := hnone event (by simp)
      by_cases hunsettled : event.isUnsettledBuy = true
      · have hreverted : event.info.canonicality = .reverted := by
          simp only [NormalizedEvent.isTentativeBuy, NormalizedEvent.isUnsettledBuy,
            Bool.and_eq_true, Bool.or_eq_true, Bool.and_eq_false_iff, decide_eq_true_eq]
            at hevent hunsettled
          rcases hevent with hpump | htentative
          · rw [hunsettled.1] at hpump
            cases hpump
          · rcases hunsettled.2 with h | h
            · rw [htentative] at h
              cases h
            · exact h
        have hdropped : withoutUnsettledBuys (event :: events) = withoutUnsettledBuys events := by
          simp [withoutUnsettledBuys, hunsettled]
        rw [hdropped]
        exact ih hrest (h.applyEvent_reverted hreverted)
      · have hkept : withoutUnsettledBuys (event :: events) =
            event :: withoutUnsettledBuys events := by
          simp [withoutUnsettledBuys, hunsettled]
        rw [hkept]
        exact ih hrest (h.applyEvent event)

/-- A run and its run without the tentative and reverted copies of buys leave the same
trades exactly when the run has no tentative buy. -/
theorem tradeTrace_withoutUnsettledBuys_iff (ttl : TtlConfig) (events : List NormalizedEvent) :
    (∀ k, ((new ttl).applyEvents events).tradeTrace k =
        ((new ttl).applyEvents (withoutUnsettledBuys events)).tradeTrace k) ↔
      ∀ event ∈ events, event.isTentativeBuy = false := by
  constructor
  · intro hsame event hmem
    by_contra htentative
    rw [Bool.not_eq_false] at htentative
    obtain ⟨k, hlt⟩ := buyCount_withoutUnsettledBuys_lt hmem htentative
    have hcount := congrArg TradeTrace.buyCount (hsame k)
    have hall := (new ttl).buyCount_applyEvents events k
    have hkept := (new ttl).buyCount_applyEvents (withoutUnsettledBuys events) k
    simp only [tradeTrace] at hcount
    omega
  · intro hnone k
    have hstart : SameUpToSignatures (new ttl) (new ttl) := ⟨∅, rfl⟩
    obtain ⟨signatures, hsame⟩ := hstart.applyEvents hnone
    rw [hsame]
    rfl

/-! ## A confirmed tentative buy -/

/-- A buy of one mint, under one signature. -/
def sampleBuy (source : EventSource) (canonicality : Canonicality) (slot : ℕ) :
    NormalizedEvent :=
  { info :=
      { eventId := ⟨"buy"⟩
        source := source
        canonicality := canonicality
        slot := slot
        signature := some "signature" }
    payload := .pumpBuy
      { mint := ⟨"mint"⟩
        buyer := ⟨"buyer"⟩
        quoteIn := 1000000000
        tokenOut := 5000000
        effectivePrice := 1 / 5 } }

/-- A tentative buy and its canonical confirmation are counted twice. -/
theorem tradeTrace_confirmed_twice :
    ¬ ∀ (ttl : TtlConfig) (events : List NormalizedEvent), Settled events →
        ∀ k, ((new ttl).applyEvents events).tradeTrace k =
          ((new ttl).applyEvents (withoutUnsettledBuys events)).tradeTrace k := by
  intro h
  have hsettled : Settled [sampleBuy .shredTentative .tentative 7,
      sampleBuy .geyserProcessed .processed 7] := by
    refine ⟨fun _ => ⟨"signature", rfl, _, List.mem_singleton_self _, rfl, rfl,
      Or.inl ⟨rfl, rfl, by decide⟩⟩, ?_, trivial⟩
    intro htentative
    cases htentative
  have hcount := congrArg TradeTrace.buyCount (h sampleTtl _ hsettled "mint")
  revert hcount
  decide +kernel

end StateEngine

end PumpLaunchTrader
