import PumpLaunchTrader.Engine.Clusters
import PumpLaunchTrader.Engine.GapMarks
import PumpLaunchTrader.Lib.Extremes
import PumpLaunchTrader.Model.Features

/-! # Price extremes

Trades record their prices and move the extremes. Curve updates move the latest price alone,
a recorded price of zero reads as no price, and a creation reserves the launch price. -/

namespace PumpLaunchTrader

/-! ## One token -/

namespace TokenState

/-- The prices of a token as a tracker: the launch price is the opening value. -/
def priceTracker (token : TokenState) : Extremes.Tracker Decimal where
  latest := token.latestPrice
  high := token.tradeStats.allTimeHigh
  low := token.tradeStats.allTimeLow
  opening := token.reserveState.launchPrice

@[simp] theorem priceTracker_recordSignature (token : TokenState) (event : NormalizedEvent) :
    (token.recordSignature event).priceTracker = token.priceTracker :=
  field_recordSignature (fun _ _ _ _ => rfl) token event

theorem priceTracker_applyTokenCreated (token : TokenState) (payload : TokenCreatedEvent)
    (event : NormalizedEvent) (ttl : TtlConfig) :
    (token.applyTokenCreated payload event ttl).priceTracker =
      token.priceTracker.move .reserve :=
  (priceTracker_recordSignature _ event).trans rfl

theorem priceTracker_recordTrade (stats : TokenTradeStats) (observation : TradeObservation) :
    (stats.recordTrade observation).allTimeHigh = (stats.recordPrice observation).allTimeHigh ∧
      (stats.recordTrade observation).allTimeLow = (stats.recordPrice observation).allTimeLow := by
  unfold TokenTradeStats.recordTrade
  split <;> exact ⟨rfl, rfl⟩

/-- A trade records its price. -/
theorem priceTracker_applyTrade (token : TokenState) (owner : PubkeyValue)
    (event : NormalizedEvent) (observation : TradeObservation) :
    ((token.recordSignature event).applyTrade owner observation).priceTracker =
      token.priceTracker.move (.record observation.price) := by
  have hstats : (token.recordSignature event).tradeStats = token.tradeStats :=
    field_recordSignature (fun _ _ _ _ => rfl) token event
  have hreserve : (token.recordSignature event).reserveState = token.reserveState :=
    field_recordSignature (fun _ _ _ _ => rfl) token event
  obtain ⟨hhigh, hlow⟩ := priceTracker_recordTrade token.tradeStats observation
  unfold priceTracker applyTrade
  simp only [hstats, hreserve, hhigh, hlow, TokenTradeStats.recordPrice, Extremes.Tracker.move]

theorem priceTracker_applyBuy (token : TokenState) (payload : PumpBuyEvent)
    (event : NormalizedEvent) (observation : TradeObservation) (ttl : TtlConfig) :
    (token.applyBuy payload event observation ttl).priceTracker =
      token.priceTracker.move (.record observation.price) := by
  refine Eq.trans ?_ (priceTracker_applyTrade token payload.buyer event
    { observation with isCreator := payload.isCreator ∨
        token.creator = some payload.buyer })
  simp [applyBuy, applyTrade, renewExpiry, updateMemoryBytes, priceTracker]

theorem priceTracker_applySell (token : TokenState) (payload : PumpSellEvent)
    (event : NormalizedEvent) (observation : TradeObservation) (ttl : TtlConfig) :
    (token.applySell payload event observation ttl).priceTracker =
      token.priceTracker.move (.record observation.price) := by
  refine Eq.trans ?_ (priceTracker_applyTrade token payload.seller event
    { observation with isCreator := payload.isCreator ∨
        token.creator = some payload.seller })
  simp [applySell, applyTrade, renewExpiry, updateMemoryBytes, priceTracker]

theorem priceTracker_applyCurveUpdate (token : TokenState) (payload : BondingCurveUpdateEvent)
    (event : NormalizedEvent) :
    (token.applyCurveUpdate payload event).priceTracker =
      if token.reserveState.isStale event.info.slot (payload.accountWriteVersion.getD 0) then
        token.priceTracker
      else token.priceTracker.move (.quote payload.price
        (token.reserveState.acceptUpdate payload event.info.slot).latestPrice) := by
  simp only [applyCurveUpdate, BondingCurveState.applyUpdate]
  split
  · rfl
  · rfl

end TokenState

/-! ## One event -/

namespace StateEngine

/-- The prices of the token of a mint, unset while there is none. -/
def priceTracker (s : StateEngine) (mint : String) : Extremes.Tracker Decimal :=
  ((s.tokens.lookup mint).map TokenState.priceTracker).getD
    { latest := 0, high := 0, low := 0, opening := none }

/-- The curve of the token of a mint. -/
def curveState (s : StateEngine) (mint : String) : BondingCurveState :=
  ((s.tokens.lookup mint).map TokenState.reserveState).getD {}

/-- What an event does to the prices of the token of a mint. -/
def priceMove (s : StateEngine) (event : NormalizedEvent) (mint : String) :
    Extremes.Move Decimal :=
  if event.info.canonicality = .reverted then .idle
  else
    match event.payload with
    | .tokenCreated payload => if payload.mint.text = mint then .reserve else .idle
    | .pumpBuy payload =>
      if payload.mint.text = mint then .record (s.buyObservation payload event).price else .idle
    | .pumpSell payload =>
      if payload.mint.text = mint ∧ event.info.isTentative = false then
        .record (s.sellObservation payload event).price
      else .idle
    | .bondingCurveUpdate payload =>
      if payload.mint.text = mint ∧ (s.curveState mint).isStale event.info.slot
          (payload.accountWriteVersion.getD 0) = false then
        .quote payload.price ((s.curveState mint).acceptUpdate payload event.info.slot).latestPrice
      else .idle
    | _ => .idle

theorem priceMove_of_no_handler {s : StateEngine} {event : NormalizedEvent}
    (h : s.handler event = none) (k : String) : s.priceMove event k = .idle := by
  unfold handler at h
  unfold priceMove
  cases hpayload : event.payload with
  | tokenCreated payload | pumpBuy payload | bondingCurveUpdate payload =>
      rw [hpayload] at h
      cases h
  | pumpSell payload =>
      rw [hpayload] at h
      by_cases htentative : event.info.isTentative = true
      · simp [htentative]
      · simp [htentative] at h
  | _ => simp

theorem priceMove_of_ne (s : StateEngine) {event : NormalizedEvent} {mint : PubkeyValue}
    (hmint : event.mint = some mint) {k : String} (hk : k ≠ mint.text) :
    s.priceMove event k = .idle := by
  unfold NormalizedEvent.mint at hmint
  unfold priceMove
  cases hpayload : event.payload with
  | tokenCreated payload | pumpBuy payload | pumpSell payload | bondingCurveUpdate payload =>
      rw [hpayload] at hmint
      cases hmint
      simp [hk.symm]
  | _ => simp

/-- A handler moves the prices of its token. -/
theorem priceTracker_handler {s : StateEngine} {event : NormalizedEvent}
    {f : TokenState → TokenState} (h : s.handler event = some f) {mint : PubkeyValue}
    (hmint : event.mint = some mint) (hreverted : event.info.canonicality ≠ .reverted)
    {token : TokenState} (htoken : token.reserveState = s.curveState mint.text) :
    (f token).priceTracker = token.priceTracker.move (s.priceMove event mint.text) := by
  unfold NormalizedEvent.mint at hmint
  unfold priceMove
  rw [if_neg hreverted]
  cases handles_of_handler h with
  | tokenCreated hpayload =>
      rw [hpayload] at hmint ⊢
      cases hmint
      simp only [if_true]
      exact TokenState.priceTracker_applyTokenCreated token _ event s.ttl
  | pumpBuy hpayload =>
      rw [hpayload] at hmint ⊢
      cases hmint
      simp only [if_true]
      exact TokenState.priceTracker_applyBuy token _ event _ s.ttl
  | pumpSell hpayload htentative =>
      rw [hpayload] at hmint ⊢
      cases hmint
      simp only [htentative, and_self, if_true]
      exact TokenState.priceTracker_applySell token _ event _ s.ttl
  | bondingCurveUpdate hpayload =>
      rw [hpayload] at hmint ⊢
      cases hmint
      rw [TokenState.priceTracker_applyCurveUpdate, htoken]
      simp only [true_and]
      split
      next hstale => simp [hstale, Extremes.Tracker.move]
      next hstale => simp [hstale]
  | holderBalanceUpdate hpayload | tentativeSellIntentDetected hpayload
  | tentativeMaliciousSellWarning hpayload | shredEmergencyExitArmed hpayload
  | shredEmergencyExitTriggered hpayload | shredSellIntentResolved hpayload =>
      rw [hpayload]
      rfl

theorem priceTracker_applyEvent (s : StateEngine) (event : NormalizedEvent) (k : String) :
    (s.applyEvent event).1.priceTracker k =
      (s.priceTracker k).move (s.priceMove event k) := by
  by_cases hreverted : event.info.canonicality = .reverted
  · unfold priceTracker priceMove
    rw [tokens_applyEvent_of_reverted hreverted, if_pos hreverted]
    rfl
  have hfield : ∀ token : TokenState, token.core.priceTracker = token.priceTracker := fun _ => rfl
  unfold priceTracker
  cases hhandler : s.handler event with
  | none =>
      rw [TokenState.field_of_core hfield (core_applyEvent_of_no_handler hhandler hreverted k),
        priceMove_of_no_handler hhandler]
      rfl
  | some f =>
      obtain ⟨mint, hmint, hcore⟩ := core_applyEvent_of_handler hhandler hreverted
      have hk := hcore k
      by_cases hown : k = mint.text
      · rw [if_pos hown] at hk
        subst hown
        rw [TokenState.field_of_core (b := some _) hfield hk, Option.map_some, Option.getD_some,
          priceTracker_handler hhandler hmint hreverted]
        · cases s.tokens.lookup mint.text <;> rfl
        · unfold curveState
          cases s.tokens.lookup mint.text <;> rfl
      · rw [if_neg hown] at hk
        rw [TokenState.field_of_core hfield hk, priceMove_of_ne s hmint hown]
        rfl

end StateEngine

/-! ## Runs -/

/-- The prices of a token against those recorded and applied for it so far. -/
structure PricesSound (token : TokenState) (log : Extremes.Log Decimal) : Prop where
  bounded : log.recorded ≠ [] →
    token.tradeStats.allTimeLow ≤ token.latestPrice ∧
      token.latestPrice ≤ token.tradeStats.allTimeHigh
  high : log.recorded ≠ [] →
    IsGreatest {price | price ∈ log.recorded} token.tradeStats.allTimeHigh
  low : log.recorded ≠ [] →
    IsLeast {price | price ∈ log.recorded} token.tradeStats.allTimeLow
  drawdown : log.recorded ≠ [] → ∀ drawdown,
    Features.drawdownFromAthPct token = some drawdown → 0 ≤ drawdown ∧ drawdown ≤ 1
  launch : ∀ price, log.first = some price → token.reserveState.launchPrice = some price

/-- An engine, with the prices of trades recorded for each mint and the reserve price of the
first curve update applied to it. -/
structure PricedRun where
  engine : StateEngine
  logs : String → Extremes.Log Decimal := fun _ => {}

namespace PricedRun

def step (run : PricedRun) (event : NormalizedEvent) : PricedRun where
  engine := (run.engine.applyEvent event).1
  logs := fun mint => (run.logs mint).move (run.engine.priceMove event mint)

/-- The event records no negative price. -/
def NonnegPrices (run : PricedRun) (event : NormalizedEvent) : Prop :=
  ∀ mint, (run.engine.priceMove event mint).Nonneg

/-- The condition on an event: no price is recorded above a low of zero, no curve update prices
a traded token outside its extremes, and the first curve update of a token finds no other
launch price. -/
def KeepsPrices (run : PricedRun) (event : NormalizedEvent) : Prop :=
  ∀ mint, (run.engine.priceMove event mint).Keeps (run.engine.priceTracker mint) (run.logs mint)

/-- What holds of every run: logs start when the prices of their tokens do. -/
structure Started (run : PricedRun) : Prop where
  started : ∀ mint, Extremes.Started (run.engine.priceTracker mint) (run.logs mint)
  absent : ∀ mint, run.engine.tokens.lookup mint = none → run.logs mint = {}

theorem Started.step {run : PricedRun} (h : run.Started) {event : NormalizedEvent}
    (hprices : run.NonnegPrices event) : (run.step event).Started where
  started mint := by
    unfold PricedRun.step
    rw [StateEngine.priceTracker_applyEvent]
    exact (h.started mint).move (hprices mint)
  absent mint hafter := by
    simp only [PricedRun.step] at hafter ⊢
    have hbefore : run.engine.tokens.lookup mint = none := by
      by_contra hsome
      have hisSome := StateEngine.isSome_lookup_applyEvent
        (Option.ne_none_iff_isSome.mp hsome) event
      rw [hafter] at hisSome
      cases hisSome
    rw [h.absent mint hbefore]
    -- a token that is still missing was not the one of the event
    have hidle : run.engine.priceMove event mint = .idle := by
      by_cases hreverted : event.info.canonicality = .reverted
      · exact if_pos hreverted
      cases hhandler : run.engine.handler event with
      | none => exact StateEngine.priceMove_of_no_handler hhandler mint
      | some f =>
          obtain ⟨own, hown, hcore⟩ := StateEngine.core_applyEvent_of_handler hhandler hreverted
          refine StateEngine.priceMove_of_ne _ hown ?_
          rintro rfl
          have hk := hcore own.text
          rw [hafter, if_pos rfl] at hk
          cases hk
    rw [hidle]
    rfl

/-- Under these the prices of all tokens are sound exactly when their trackers are faithful. -/
theorem pricesSound_iff {run : PricedRun} (h : run.Started) :
    (∀ mint token, run.engine.tokens.lookup mint = some token →
        PricesSound token (run.logs mint)) ↔
      ∀ mint, Extremes.Faithful (run.engine.priceTracker mint) (run.logs mint) := by
  constructor
  · intro hsound mint
    cases hlookup : run.engine.tokens.lookup mint with
    | none =>
        rw [h.absent mint hlookup]
        refine ⟨fun hne => absurd rfl hne, fun hne => absurd rfl hne, fun hne => absurd rfl hne, ?_⟩
        intro price hprice
        cases hprice
    | some token =>
        have htoken := hsound mint token hlookup
        unfold StateEngine.priceTracker
        rw [hlookup]
        exact ⟨htoken.bounded, htoken.high, htoken.low, htoken.launch⟩
  · intro hfaithful mint token hlookup
    have hmint := hfaithful mint
    have hstarted := h.started mint
    unfold StateEngine.priceTracker at hmint
    rw [hlookup] at hmint
    refine ⟨hmint.bounded, hmint.high, hmint.low, ?_, hmint.opening⟩
    intro hne drawdown hdrawdown
    obtain ⟨hlow, hhigh⟩ := hmint.bounded hne
    have hnonneg : 0 ≤ token.tradeStats.allTimeLow := hstarted.nonneg _ (hmint.low hne).1
    unfold Features.drawdownFromAthPct at hdrawdown
    split at hdrawdown
    next hpositive =>
      cases hdrawdown
      have hlatest : 0 ≤ token.latestPrice := hnonneg.trans hlow
      constructor
      · exact div_nonneg (sub_nonneg.mpr hhigh) hpositive.le
      · rw [div_le_one hpositive]
        exact sub_le_self _ hlatest
    next => cases hdrawdown

/-- In a run without negative prices the prices of all tokens are sound in every state exactly
when every event meets the condition. -/
theorem prices_sound_run_iff (ttl : TtlConfig) (events : List NormalizedEvent)
    (hprices : Runs.Along step NonnegPrices { engine := .new ttl } events) :
    (∀ before after, events = before ++ after →
      let run := before.foldl step { engine := .new ttl }
      ∀ mint token, run.engine.tokens.lookup mint = some token →
        PricesSound token (run.logs mint)) ↔
      Runs.Along step KeepsPrices { engine := .new ttl } events := by
  have hstep : ∀ (run : PricedRun) (event : NormalizedEvent), run.Started →
      (∀ mint token, run.engine.tokens.lookup mint = some token →
        PricesSound token (run.logs mint)) → run.NonnegPrices event →
      ((∀ mint token, (run.step event).engine.tokens.lookup mint = some token →
        PricesSound token ((run.step event).logs mint)) ↔ run.KeepsPrices event) := by
    intro run event hstarted hsound hevent
    rw [pricesSound_iff hstarted] at hsound
    rw [pricesSound_iff (hstarted.step hevent)]
    refine forall_congr' fun mint => ?_
    unfold step
    rw [StateEngine.priceTracker_applyEvent]
    exact (hsound mint).move_iff (hstarted.started mint) (hevent mint)
  have hnew : PricedRun.Started { engine := .new ttl } :=
    ⟨fun mint => ⟨fun _ => ⟨rfl, rfl⟩, by simp⟩, fun _ _ => rfl⟩
  refine Runs.forall_reached_iff_along_of_kept (fun run event h hevent => h.step hevent) hstep
    hnew ?_ hprices
  intro mint token hlookup
  cases hlookup

/-! ### A curve update above the high -/

theorem nonnegPrices_of_mint {run : PricedRun} {event : NormalizedEvent} {mint : PubkeyValue}
    (hmint : event.mint = some mint) (h : (run.engine.priceMove event mint.text).Nonneg) :
    run.NonnegPrices event := by
  intro other
  by_cases hother : other = mint.text
  · subst hother
    exact h
  · rw [StateEngine.priceMove_of_ne _ hmint hother]
    trivial

theorem keepsPrices_of_mint {run : PricedRun} {event : NormalizedEvent} {mint : PubkeyValue}
    (hmint : event.mint = some mint)
    (h : (run.engine.priceMove event mint.text).Keeps (run.engine.priceTracker mint.text)
      (run.logs mint.text)) : run.KeepsPrices event := by
  intro other
  by_cases hother : other = mint.text
  · subst hother
    exact h
  · rw [StateEngine.priceMove_of_ne _ hmint hother]
    trivial

/-- A later buy by the payer, at three times the price. -/
def laterBuy : NormalizedEvent :=
  { info := { StateEngine.payerBuy.info with eventId := ⟨"later-buy"⟩ }
    payload := .pumpBuy
      { mint := ⟨"mint"⟩
        buyer := ⟨"payer"⟩
        quoteIn := 3
        tokenOut := 100
        effectivePrice := 3 / 100 } }

/-- A curve update of the launch. -/
def launchCurveUpdate (price : Decimal) : NormalizedEvent :=
  { info :=
      { eventId := ⟨"curve"⟩
        source := .geyserProcessed
        canonicality := .processed
        slot := 3 }
    payload := .bondingCurveUpdate
      { mint := ⟨"mint"⟩
        virtualQuoteReserves := 5000000000
        virtualTokenReserves := 1000000
        realQuoteReserves := 0
        realTokenReserves := 0
        price := price } }

/-- Two buys, and a curve update between their prices. -/
def pricedEvents : List NormalizedEvent :=
  [StateEngine.payerBuy, laterBuy, launchCurveUpdate (1 / 50000)]

/-- A curve update between the prices of two buys leaves the prices of the token sound. -/
theorem prices_sound_run_iff_between :
    ∃ token, (pricedEvents.foldl step
        { engine := .new StateEngine.sampleTtl }).engine.tokens.lookup "mint" = some token ∧
      (token.tradeStats.allTimeLow, token.latestPrice, token.tradeStats.allTimeHigh) =
        (1 / 100000, 1 / 50000, 3 / 100000) ∧
      PricesSound token ((pricedEvents.foldl step
        { engine := .new StateEngine.sampleTtl }).logs "mint") := by
  have hprices : ((pricedEvents.foldl step
      { engine := .new StateEngine.sampleTtl }).engine.tokens.lookup "mint").map (fun token =>
        (token.tradeStats.allTimeLow, token.latestPrice, token.tradeStats.allTimeHigh)) =
          some (1 / 100000, 1 / 50000, 3 / 100000) := by
    decide +kernel
  obtain ⟨token, hlookup, htoken⟩ := Option.map_eq_some_iff.mp hprices
  refine ⟨token, hlookup, htoken, (prices_sound_run_iff StateEngine.sampleTtl pricedEvents
    ?_).mpr ?_ pricedEvents [] rfl "mint" token hlookup⟩
  · exact ⟨nonnegPrices_of_mint rfl (by decide +kernel),
      nonnegPrices_of_mint rfl (by decide +kernel),
      nonnegPrices_of_mint rfl (by decide +kernel), trivial⟩
  · exact ⟨keepsPrices_of_mint rfl (by decide +kernel),
      keepsPrices_of_mint rfl (by decide +kernel),
      keepsPrices_of_mint rfl (by decide +kernel), trivial⟩

/-- The latest price is the one of the curve update, above every price that was recorded. -/
theorem curve_price_above_high :
    ¬ ∀ (ttl : TtlConfig) (events : List NormalizedEvent),
      Runs.Along step NonnegPrices { engine := .new ttl } events →
        let run := events.foldl step { engine := .new ttl }
        ∀ mint token, run.engine.tokens.lookup mint = some token →
          PricesSound token (run.logs mint) := by
  intro h
  have hsound := h StateEngine.sampleTtl [StateEngine.payerBuy, launchCurveUpdate 5]
    ⟨nonnegPrices_of_mint rfl (by decide +kernel),
      nonnegPrices_of_mint rfl (by decide +kernel), trivial⟩
  have hprices : ((([StateEngine.payerBuy, launchCurveUpdate 5].foldl step
      { engine := .new StateEngine.sampleTtl }).engine.tokens.lookup "mint").map fun token =>
        (token.latestPrice, token.tradeStats.allTimeHigh)) = some (5, 1 / 100000) := by
    decide +kernel
  obtain ⟨token, hlookup, htoken⟩ := Option.map_eq_some_iff.mp hprices
  obtain ⟨hlatest, hhigh⟩ := Prod.mk.inj htoken
  have hbounded := ((hsound "mint" token hlookup).bounded (by decide +kernel)).2
  rw [hlatest, hhigh] at hbounded
  revert hbounded
  decide +kernel

end PricedRun

end PumpLaunchTrader
