import PumpLaunchTrader.Engine.PriceExtremes
import PumpLaunchTrader.Executor.PoolFills
import PumpLaunchTrader.Lib.Windows

/-! # Labels of a replay

A replay whose events are in order leaves price histories in the order of time. The labels that
are read off such a history are its extremes and first times, and the result that they call
realistic is below the one without costs. -/

namespace PumpLaunchTrader

/-! ## Price histories -/

namespace StateEngine

/-- The price history of the token of a mint. -/
def priceHistoryOf (s : StateEngine) (k : String) : List (OffsetDateTime × Decimal) :=
  ((s.tokens.lookup k).map fun token => token.tradeStats.priceHistory).getD []

theorem priceHistory_recordTrade (stats : TokenTradeStats) (observation : TradeObservation) :
    (stats.recordTrade observation).priceHistory =
      pushBounded maxPriceHistory stats.priceHistory
        (observation.timestamp, observation.price) := by
  cases hside : observation.side <;>
    simp only [TokenTradeStats.recordTrade, TokenTradeStats.recordPrice, hside]

theorem priceHistory_recordSignature (token : TokenState) (event : NormalizedEvent) :
    (token.recordSignature event).tradeStats.priceHistory = token.tradeStats.priceHistory := by
  have hstats : (token.recordSignature event).tradeStats = token.tradeStats :=
    TokenState.field_recordSignature (fun _ _ _ _ => rfl) token event
  rw [hstats]

/-- A handler records at most one price, at the time of its event. -/
theorem priceHistory_handler {s : StateEngine} {event : NormalizedEvent}
    {f : TokenState → TokenState} (h : s.handler event = some f) (token : TokenState) :
    (f token).tradeStats.priceHistory = token.tradeStats.priceHistory ∨
      ∃ price, (f token).tradeStats.priceHistory =
        pushBounded maxPriceHistory token.tradeStats.priceHistory
          (event.info.receivedAtWallTime, price) := by
  have hstats : (token.recordSignature event).tradeStats = token.tradeStats :=
    TokenState.field_recordSignature (fun _ _ _ _ => rfl) token event
  cases handles_of_handler h with
  | @tokenCreated payload _ =>
      left
      exact (priceHistory_recordSignature _ event).trans rfl
  | @pumpBuy payload _ =>
      right
      refine ⟨(s.buyObservation payload event).price, ?_⟩
      rw [← hstats]
      exact priceHistory_recordTrade _ _
  | @pumpSell payload _ _ =>
      right
      refine ⟨(s.sellObservation payload event).price, ?_⟩
      rw [← hstats]
      exact priceHistory_recordTrade _ _
  | bondingCurveUpdate _ =>
      left
      simp only [TokenState.applyCurveUpdate]
      split <;> rfl
  | holderBalanceUpdate _ | tentativeSellIntentDetected _ | tentativeMaliciousSellWarning _
  | shredEmergencyExitArmed _ | shredEmergencyExitTriggered _ | shredSellIntentResolved _ =>
      left
      rfl

theorem priceHistoryOf_applyEvent (s : StateEngine) (event : NormalizedEvent) (k : String) :
    (s.applyEvent event).1.priceHistoryOf k = s.priceHistoryOf k ∨
      ∃ price, (s.applyEvent event).1.priceHistoryOf k =
        pushBounded maxPriceHistory (s.priceHistoryOf k)
          (event.info.receivedAtWallTime, price) := by
  unfold priceHistoryOf
  by_cases hreverted : event.info.canonicality = .reverted
  · left
    rw [tokens_applyEvent_of_reverted hreverted]
  · cases hhandler : s.handler event with
    | none =>
        left
        rw [TokenState.field_of_core (fun _ => rfl)
          (core_applyEvent_of_no_handler hhandler hreverted k)]
    | some f =>
        obtain ⟨mint, hmint, hcore⟩ := core_applyEvent_of_handler hhandler hreverted
        have hat := hcore k
        by_cases hk : k = mint.text
        · rw [if_pos hk] at hat
          have hhistory : ((s.applyEvent event).1.tokens.lookup k).map
              (fun token => token.tradeStats.priceHistory) = some _ :=
            TokenState.field_of_core (b := some _) (fun _ => rfl) hat
          have hbase : ((s.tokens.lookup k).getD
              (TokenState.new mint event.info.source)).tradeStats.priceHistory =
                ((s.tokens.lookup k).map fun token => token.tradeStats.priceHistory).getD [] := by
            cases s.tokens.lookup k with
            | none => rfl
            | some token => rfl
          rw [hhistory, Option.getD_some, ← hbase]
          exact priceHistory_handler hhandler _
        · left
          rw [if_neg hk] at hat
          rw [TokenState.field_of_core (fun _ => rfl) hat]

/-- Events in the order of time leave price histories in that order. -/
theorem priceHistoryOf_ordered {s : StateEngine} {events : List NormalizedEvent}
    (hevents : events.Pairwise fun a b => a.info.receivedAtWallTime ≤ b.info.receivedAtWallTime)
    {k : String} (hordered : (s.priceHistoryOf k).Pairwise fun a b => a.1 ≤ b.1)
    (hbefore : ∀ entry ∈ s.priceHistoryOf k, ∀ event ∈ events,
      entry.1 ≤ event.info.receivedAtWallTime) :
    ((s.applyEvents events).priceHistoryOf k).Pairwise fun a b => a.1 ≤ b.1 := by
  induction events generalizing s with
  | nil => exact hordered
  | cons event events ih =>
      obtain ⟨hfirst, hrest⟩ := List.pairwise_cons.mp hevents
      apply ih hrest
      · rcases s.priceHistoryOf_applyEvent event k with hsame | ⟨price, hpushed⟩
        · rw [hsame]
          exact hordered
        · rw [hpushed]
          apply List.Pairwise.sublist (List.drop_sublist _ _)
          rw [List.pairwise_append]
          refine ⟨hordered, List.pairwise_singleton _ _, fun entry hentry last hlast => ?_⟩
          rw [List.mem_singleton.mp hlast]
          exact hbefore entry hentry event List.mem_cons_self
      · intro entry hentry later hlater
        rcases s.priceHistoryOf_applyEvent event k with hsame | ⟨price, hpushed⟩
        · rw [hsame] at hentry
          exact hbefore entry hentry later (List.mem_cons_of_mem _ hlater)
        · rw [hpushed] at hentry
          rcases List.mem_append.mp (List.mem_of_mem_drop hentry) with hold | hnew
          · exact hbefore entry hold later (List.mem_cons_of_mem _ hlater)
          · rw [List.mem_singleton.mp hnew]
            exact hfirst later hlater

end StateEngine

/-! ## Replays in order -/

namespace Simulator

/-- The check for lookahead accepts the replays in the order of time. -/
theorem validateNoLookahead_eq_ok_iff (events : List ReplayEvent) :
    validateNoLookahead events = .ok () ↔
      events.Pairwise fun a b => a.observedAt ≤ b.observedAt := by
  have hpairs : validateNoLookahead events = .ok () ↔
      ∀ pair ∈ events.zip events.tail, pair.1.observedAt ≤ pair.2.observedAt := by
    have hindexed : (∀ pair ∈ events.zip events.tail,
        pair.1.observedAt ≤ pair.2.observedAt) ↔
        ∀ window ∈ (events.zip events.tail).zipIdx,
          window.1.1.observedAt ≤ window.1.2.observedAt := by
      conv_lhs => rw [← List.zipIdx_map_fst 0 (events.zip events.tail), List.forall_mem_map]
    rw [hindexed]
    unfold validateNoLookahead
    cases hfind : (events.zip events.tail).zipIdx.find? fun window =>
        window.1.2.observedAt < window.1.1.observedAt with
    | none =>
        refine ⟨fun _ window hmem => ?_, fun _ => rfl⟩
        simpa using List.find?_eq_none.mp hfind window hmem
    | some window =>
        have hlate : window.1.2.observedAt < window.1.1.observedAt := by
          simpa using List.find?_some hfind
        refine ⟨fun h => (nomatch h), fun h => ?_⟩
        exact absurd (h window (List.mem_of_find?_eq_some hfind)) (not_le.mpr hlate)
  have : IsTrans ReplayEvent fun a b => a.observedAt ≤ b.observedAt :=
    ⟨fun _ _ _ hab hbc => hab.trans hbc⟩
  rw [hpairs, ← List.isChain_iff_pairwise]
  clear hpairs
  induction events with
  | nil => simp
  | cons first events ih =>
      cases events with
      | nil => simp
      | cons second rest =>
          rw [List.isChain_cons_cons, List.tail_cons, List.zip_cons_cons, List.forall_mem_cons]
          exact and_congr_right fun _ => ih

end Simulator

/-! ## Extremes and times -/

/-- Extremes and times that follow a history from the launch on, by a score. -/
structure FollowsHistory (history : List (OffsetDateTime × Decimal)) (launch : OffsetDateTime)
    (score : Decimal → Decimal) (extreme : Duration → Decimal) (time : Decimal → Option ℤ) :
    Prop where
  extreme_eq : ∀ window, extreme window = Windows.bestUntil score history (launch + window)
  time_eq : ∀ threshold, time threshold =
    (history.find? fun e => threshold ≤ score e.2).map fun e =>
      Duration.wholeMilliseconds (e.1 - launch)

/-- The largest score of the prices up to a time, zero while there is none. -/
def ExtremeUntil (history : List (OffsetDateTime × Decimal)) (score : Decimal → Decimal)
    (limit : OffsetDateTime) (label : Decimal) : Prop :=
  if ∃ e ∈ history, e.1 ≤ limit then
    IsGreatest {value | ∃ e ∈ history, e.1 ≤ limit ∧ score e.2 = value} label
  else label = 0

/-- The time from the launch to the first price whose score reaches a threshold, if one does. -/
def FirstReached (history : List (OffsetDateTime × Decimal)) (score : Decimal → Decimal)
    (launch : OffsetDateTime) (threshold : Decimal) (label : Option ℤ) : Prop :=
  (label = none ∧ ∀ e ∈ history, score e.2 < threshold) ∨
    ∃ e ∈ history, threshold ≤ score e.2 ∧
      (∀ other ∈ history, threshold ≤ score other.2 → e.1 ≤ other.1) ∧
      label = some (Duration.wholeMilliseconds (e.1 - launch))

section history

variable {history : List (OffsetDateTime × Decimal)} {launch : OffsetDateTime}
  {score : Decimal → Decimal} {extreme : Duration → Decimal} {time : Decimal → Option ℤ}
  (h : FollowsHistory history launch score extreme time)

include h

theorem FollowsHistory.extremeUntil (window : Duration) :
    ExtremeUntil history score (launch + window) (extreme window) := by
  unfold ExtremeUntil
  rw [h.extreme_eq]
  split
  · next hsome => exact Windows.isGreatest_bestUntil hsome
  · next hnone =>
      exact Windows.bestUntil_of_forall_lt fun e he =>
        not_le.mp fun hin => hnone ⟨e, he, hin⟩

variable (hordered : history.Pairwise fun a b => a.1 ≤ b.1)

include hordered

theorem FollowsHistory.firstReached (threshold : Decimal) :
    FirstReached history score launch threshold (time threshold) := by
  unfold FirstReached
  rw [h.time_eq]
  cases hfind : history.find? fun e => threshold ≤ score e.2 with
  | none =>
      left
      exact ⟨rfl, fun e he => by simpa using List.find?_eq_none.mp hfind e he⟩
  | some e =>
      right
      have hreach : threshold ≤ score e.2 := by simpa using List.find?_some hfind
      refine ⟨e, List.mem_of_find?_eq_some hfind, hreach, fun other hother hlate => ?_, rfl⟩
      exact Windows.le_of_find?_eq_some hordered hfind hother (by simpa using hlate)

end history

namespace TokenState

/-- A token that was launched and whose first price is positive. -/
structure Priced (token : TokenState) (launch : OffsetDateTime) (start : Decimal) : Prop where
  launched : token.launchTime = some launch
  first : token.firstPrice = some start
  positive : 0 < start

/-- The score of the price that is picked of a window, against the first one. -/
def pickedExtreme (token : TokenState) (pick : List Decimal → Option Decimal)
    (score : Decimal → Decimal → Decimal) (window : Duration) : Decimal :=
  (token.launchTime.bind fun launch => token.firstPrice.bind fun start =>
    (pick (token.pricesUntil (launch + window))).bind fun price =>
      if 0 < start then some (score start price) else none).getD 0

/-- The time at which a score is first reached. -/
def reachedAt (token : TokenState) (score : Decimal → Decimal → Decimal) (threshold : Decimal) :
    Option ℤ :=
  token.launchTime.bind fun launch => token.firstPrice.bind fun start =>
    (token.tradeStats.priceHistory.find? fun entry =>
      0 < start ∧ threshold ≤ score start entry.2).bind fun entry =>
        some (Duration.wholeMilliseconds (entry.1 - launch))

section picked

variable (token : TokenState) (pick : List Decimal → Option Decimal)
  (score : Decimal → Decimal → Decimal)

theorem followsHistory_of_pick
    (hpick : ∀ start, 0 < start → ∀ prices : List Decimal,
      (prices.map (score start)).max? = (pick prices).map (score start))
    {launch : OffsetDateTime} {start : Decimal} (h : token.Priced launch start) :
    FollowsHistory token.tradeStats.priceHistory launch (score start)
      (token.pickedExtreme pick score) (token.reachedAt score) where
  extreme_eq := by
    intro window
    have hbest := hpick start h.positive (token.pricesUntil (launch + window))
    unfold pickedExtreme
    rw [h.launched, h.first]
    simp only [Windows.bestUntil, pricesUntil, List.map_map, Function.comp_def] at hbest ⊢
    simp only [hbest, h.positive, if_true, Option.bind_some, Option.map_eq_bind,
      Function.comp_def]
  time_eq := by
    intro threshold
    unfold reachedAt
    rw [h.launched, h.first]
    simp only [h.positive, true_and, Option.bind_some, Option.map_eq_bind, Function.comp_def]

/-- Without a launch and a positive first price there is nothing to score. -/
theorem unscored (h : ∀ launch start, ¬ token.Priced launch start) :
    (∀ window, token.pickedExtreme pick score window = 0) ∧
      ∀ threshold, token.reachedAt score threshold = none := by
  unfold pickedExtreme reachedAt
  cases hlaunch : token.launchTime with
  | none => exact ⟨fun _ => rfl, fun _ => rfl⟩
  | some launch =>
      cases hstart : token.firstPrice with
      | none => exact ⟨fun _ => rfl, fun _ => rfl⟩
      | some start =>
          have hpos : ¬ 0 < start := fun hpos => h launch start ⟨hlaunch, hstart, hpos⟩
          refine ⟨fun window => ?_, fun threshold => ?_⟩
          · simp [hpos]
          · simp only [hpos, false_and, decide_false, Option.bind_some]
            rw [List.find?_eq_none.mpr fun _ _ => Bool.false_ne_true, Option.bind_none]

/-- What a token gained at a price. -/
def returnFrom (start price : Decimal) : Decimal := (price - start) / start

/-- What a token lost at a price. -/
def drawdownFrom (start price : Decimal) : Decimal := (start - price) / start

variable {token} {launch : OffsetDateTime} {start : Decimal} (h : token.Priced launch start)

include h

theorem followsHistory_return :
    FollowsHistory token.tradeStats.priceHistory launch (returnFrom start)
      (token.pickedExtreme List.max? returnFrom) (token.reachedAt returnFrom) := by
  refine token.followsHistory_of_pick _ _ (fun start hpos => ?_) h
  refine Windows.max?_map_of_monotone fun a b hab => ?_
  unfold returnFrom
  gcongr

theorem followsHistory_drawdown :
    FollowsHistory token.tradeStats.priceHistory launch (drawdownFrom start)
      (token.pickedExtreme List.min? drawdownFrom) (token.reachedAt drawdownFrom) := by
  refine token.followsHistory_of_pick _ _ (fun start hpos => ?_) h
  refine Windows.max?_map_of_antitone fun a b hab => ?_
  unfold drawdownFrom
  gcongr

end picked

end TokenState

/-! ## Labels -/

/-- Labels that are those of the prices of a token. Those of a token that was not launched or
has no positive first price are blank. -/
structure TokenLabels.OfPrices (token : TokenState) (labels : TokenLabels) : Prop where
  returns : ∀ launch start, token.Priced launch start →
    ∀ label ∈ [(30, labels.maxReturn30s), (60, labels.maxReturn1m), (300, labels.maxReturn5m)],
      ExtremeUntil token.tradeStats.priceHistory (TokenState.returnFrom start)
        (launch + Duration.seconds label.1) label.2
  drawdowns : ∀ launch start, token.Priced launch start →
    ∀ label ∈ [(30, labels.maxDrawdown30s), (60, labels.maxDrawdown1m),
        (300, labels.maxDrawdown5m)],
      ExtremeUntil token.tradeStats.priceHistory (TokenState.drawdownFrom start)
        (launch + Duration.seconds label.1) label.2
  profit : ∀ launch start, token.Priced launch start →
    FirstReached token.tradeStats.priceHistory (TokenState.returnFrom start) launch (20 / 100)
      labels.timeTo20pctProfitMs
  loss : ∀ launch start, token.Priced launch start →
    FirstReached token.tradeStats.priceHistory (TokenState.drawdownFrom start) launch (50 / 100)
      labels.timeTo50pctDrawdownMs
  blank : (∀ launch start, ¬ token.Priced launch start) →
    labels.maxReturn30s = 0 ∧ labels.maxReturn1m = 0 ∧ labels.maxReturn5m = 0 ∧
      labels.maxDrawdown30s = 0 ∧ labels.maxDrawdown1m = 0 ∧ labels.maxDrawdown5m = 0 ∧
      labels.timeTo20pctProfitMs = none ∧ labels.timeTo50pctDrawdownMs = none

namespace Simulator

section ordered

variable (simulator : Simulator) {token : TokenState}
  (hordered : token.tradeStats.priceHistory.Pairwise fun a b => a.1 ≤ b.1)
  (features : FeatureSnapshot) (sizeQuote : Decimal)

include hordered

theorem ofPrices_generateLabels :
    (simulator.generateLabels token features sizeQuote).OfPrices token where
  returns := fun _ _ h => by
    simp only [List.forall_mem_cons]
    exact ⟨(TokenState.followsHistory_return h).extremeUntil _,
      (TokenState.followsHistory_return h).extremeUntil _,
      (TokenState.followsHistory_return h).extremeUntil _, List.forall_mem_nil _⟩
  drawdowns := fun _ _ h => by
    simp only [List.forall_mem_cons]
    exact ⟨(TokenState.followsHistory_drawdown h).extremeUntil _,
      (TokenState.followsHistory_drawdown h).extremeUntil _,
      (TokenState.followsHistory_drawdown h).extremeUntil _, List.forall_mem_nil _⟩
  profit := fun _ _ h => (TokenState.followsHistory_return h).firstReached hordered _
  loss := fun _ _ h => (TokenState.followsHistory_drawdown h).firstReached hordered _
  blank := fun h => by
    obtain ⟨hreturns, hprofit⟩ := token.unscored List.max? TokenState.returnFrom h
    obtain ⟨hdrawdowns, hloss⟩ := token.unscored List.min? TokenState.drawdownFrom h
    exact ⟨hreturns _, hreturns _, hreturns _, hdrawdowns _, hdrawdowns _, hdrawdowns _,
      hprofit _, hloss _⟩

end ordered

/-- After a replay that the check for lookahead accepts, the labels of every token are those of
its prices. -/
theorem labels_of_valid_replay (simulator : Simulator) (ttl : TtlConfig)
    {events : List ReplayEvent} (hvalid : validateNoLookahead events = .ok ())
    (htimes : ∀ e ∈ events, e.observedAt = e.event.info.receivedAtWallTime) {k : String}
    {token : TokenState}
    (htoken : ((StateEngine.new ttl).applyEvents (events.map ReplayEvent.event)).tokens.lookup k =
      some token) (features : FeatureSnapshot) (sizeQuote : Decimal) :
    (simulator.generateLabels token features sizeQuote).OfPrices token := by
  have hevents : (events.map ReplayEvent.event).Pairwise fun a b =>
      a.info.receivedAtWallTime ≤ b.info.receivedAtWallTime := by
    rw [List.pairwise_map]
    refine ((validateNoLookahead_eq_ok_iff events).mp hvalid).imp_of_mem fun ha hb hab => ?_
    rwa [← htimes _ ha, ← htimes _ hb]
  have hordered := StateEngine.priceHistoryOf_ordered (s := .new ttl) (k := k) hevents
    List.Pairwise.nil fun entry hentry => by cases hentry
  unfold StateEngine.priceHistoryOf at hordered
  rw [htoken] at hordered
  exact simulator.ofPrices_generateLabels hordered features sizeQuote

/-- A buy at a price, some seconds after the launch. -/
def sampleBuy (elapsed : ℤ) (price : Decimal) : NormalizedEvent :=
  { info := { StateEngine.payerBuy.info with receivedAtWallTime := Duration.seconds elapsed }
    payload := .pumpBuy
      { mint := ⟨"mint"⟩
        buyer := ⟨"payer"⟩
        quoteIn := 1
        tokenOut := 1 / price
        effectivePrice := price } }

/-- A launch whose price doubles in the first minute and falls to a quarter afterwards. -/
def sampleReplay : List ReplayEvent :=
  [StateEngine.sharedPayerCreation, sampleBuy 1 (1 / 100), sampleBuy 40 (1 / 50),
    sampleBuy 100 (1 / 400)].map fun event =>
      { observedAt := event.info.receivedAtWallTime, event := event }

/-- A snapshot without values. -/
def blankFeatures : FeatureSnapshot where
  mint := ⟨"mint"⟩
  observedAt := 1
  values _ := none
  vectorHash := "hash"

theorem labels_of_valid_replay_buys :
    ∃ token, ((StateEngine.new StateEngine.sampleTtl).applyEvents
        (sampleReplay.map ReplayEvent.event)).tokens.lookup "mint" = some token ∧
      (({} : Simulator).generateLabels token blankFeatures 10).OfPrices token ∧
      (({} : Simulator).generateLabels token blankFeatures 10).maxReturn1m = 1 ∧
      (({} : Simulator).generateLabels token blankFeatures 10).maxDrawdown5m = 3 / 4 := by
  have hlabels : (((StateEngine.new StateEngine.sampleTtl).applyEvents
      (sampleReplay.map ReplayEvent.event)).tokens.lookup "mint").map (fun token =>
        ((({} : Simulator).generateLabels token blankFeatures 10).maxReturn1m,
          (({} : Simulator).generateLabels token blankFeatures 10).maxDrawdown5m)) =
      some (1, 3 / 4) := by
    decide +kernel
  obtain ⟨token, htoken, hvalues⟩ := Option.map_eq_some_iff.mp hlabels
  obtain ⟨hreturn, hdrawdown⟩ := Prod.mk.inj hvalues
  have hvalid : validateNoLookahead sampleReplay = .ok () := rfl
  exact ⟨token, htoken, labels_of_valid_replay {} StateEngine.sampleTtl hvalid
    (by simp [sampleReplay]) htoken blankFeatures 10, hreturn, hdrawdown⟩

/-! ## Realistic results -/

theorem roundTrip_fees_nonneg (simulator : Simulator) {intent : PositionIntent}
    (hpool : intent.InPool) :
    0 ≤ (simulator.simulateRoundTrip intent).1.fees.totalQuote ∧
      0 ≤ (simulator.simulateRoundTrip intent).2.1.fees.totalQuote := by
  have htokens := simulator.boughtTokens_pos intent hpool
  simp only [simulateRoundTrip_eq]
  constructor
  · apply simulator.fees_nonneg
    rw [simulator.notional_buy (simulator.entryOrder intent) rfl]
    exact hpool.size.le
  · apply simulator.fees_nonneg
    rw [simulator.notional_sell (simulator.exitOrder intent (simulator.boughtTokens intent)) rfl
      rfl hpool.exitPrice rfl, simulator.proceeds_sell
      (simulator.exitOrder intent (simulator.boughtTokens intent)) rfl
      ⟨hpool.exitPrice, hpool.depth⟩ rfl htokens rfl]
    exact (PriceImpact.remainder_pos hpool.depth (simulator.slippagePct_nonneg _)
      (mul_pos htokens hpool.exitPrice)).le

/-- What a position would gain without costs. -/
def withoutCosts (intent : PositionIntent) : Decimal :=
  intent.sizeQuote * TokenState.returnFrom intent.entryPrice intent.exitPrice

/-- What a round trip gains before fees. -/
def grossPnl (simulator : Simulator) (intent : PositionIntent) : Decimal :=
  (simulator.simulateRoundTrip intent).2.1.proceeds - intent.sizeQuote

/-- A round trip brings in less than one without costs. -/
theorem grossPnl_lt (simulator : Simulator) {intent : PositionIntent} (hpool : intent.InPool) :
    simulator.grossPnl intent < withoutCosts intent := by
  have htokens := simulator.boughtTokens_pos intent hpool
  have hsold := simulator.proceeds_lt_min
    (simulator.exitOrder intent (simulator.boughtTokens intent)) rfl
    ⟨hpool.exitPrice, hpool.depth⟩ rfl htokens
  have hspent : simulator.boughtTokens intent * intent.entryPrice < intent.sizeQuote := by
    rw [simulator.boughtTokens_mul intent hpool]
    exact PriceImpact.remainder_lt_value hpool.depth
      (simulator.slippagePct_nonneg (simulator.entryOrder intent)) hpool.size
  have hworth : (simulator.simulateOrder
      (simulator.exitOrder intent (simulator.boughtTokens intent))).proceeds <
        intent.sizeQuote / intent.entryPrice * intent.exitPrice := by
    refine (hsold.trans_le (min_le_left _ _)).trans ?_
    exact mul_lt_mul_of_pos_right ((lt_div_iff₀ hpool.entryPrice).mpr hspent) hpool.exitPrice
  have hgain : withoutCosts intent =
      intent.sizeQuote / intent.entryPrice * intent.exitPrice - intent.sizeQuote := by
    have hne := hpool.entryPrice.ne'
    unfold withoutCosts TokenState.returnFrom
    field_simp
  unfold grossPnl
  simp only [simulateRoundTrip_eq]
  rw [hgain]
  exact sub_lt_sub_right hworth _

theorem roundTrip_net_le_grossPnl (simulator : Simulator) {intent : PositionIntent}
    (hpool : intent.InPool) :
    (simulator.simulateRoundTrip intent).2.2 ≤ simulator.grossPnl intent := by
  obtain ⟨hbuy, hsell⟩ := simulator.roundTrip_fees_nonneg hpool
  unfold grossPnl
  simp only [simulateRoundTrip_eq] at hbuy hsell ⊢
  linarith

/-- The depth of a label is positive. -/
theorem liquidityDepth_pos (token : TokenState) : 0 < token.liquidityDepth := by
  unfold TokenState.liquidityDepth
  simp only
  split
  · next h => exact h
  · norm_num

/-- The result that a label calls realistic is below the best return of the history without
costs, and a token that a label calls profitable had a price above its first one. The oracle sees
the first minute only: the realistic result is above it by less than what later prices add. -/
theorem realistic_labels_pessimistic (simulator : Simulator) {token : TokenState}
    (features : FeatureSnapshot) {sizeQuote first best : Decimal} (hsize : 0 < sizeQuote)
    (hfirst : token.firstPrice = some first) (hpos : 0 < first)
    (hbest : token.maxPrice = some best) :
    (simulator.generateLabels token features sizeQuote).strategyRealisticPnl <
        sizeQuote * TokenState.returnFrom first best ∧
      ((simulator.generateLabels token features sizeQuote).profitableAfterFeesFlag ∨
          (simulator.generateLabels token features sizeQuote).profitableAfterSlippageFlag ∨
          (simulator.generateLabels token features sizeQuote).profitableAfterRealisticSizeFlag →
        first < best) ∧
      ∀ launch early, token.launchTime = some launch →
        (token.pricesUntil (launch + Duration.seconds 60)).max? = some early →
        (simulator.generateLabels token features sizeQuote).strategyRealisticPnl -
            (simulator.generateLabels token features sizeQuote).strategyOraclePnl <
          sizeQuote * ((best - early) / first) := by
  have hmem : first ∈ token.tradeStats.priceHistory.map Prod.snd := by
    obtain ⟨entry, hentry, rfl⟩ := Option.map_eq_some_iff.mp hfirst
    exact List.mem_map_of_mem (List.mem_of_head? hentry)
  have hle : first ≤ best := (Windows.max?_eq_some hbest).2 first hmem
  have hreal : simulator.realisticPnl token sizeQuote <
      sizeQuote * TokenState.returnFrom first best := by
    have hpool : (labelIntent token sizeQuote first best).InPool :=
      ⟨hsize, hpos, hpos.trans_le hle, liquidityDepth_pos token⟩
    unfold realisticPnl
    rw [hfirst, hbest]
    exact (simulator.roundTrip_net_le_grossPnl hpool).trans_lt (simulator.grossPnl_lt hpool)
  refine ⟨hreal, fun hprofit => ?_, fun launch early hlaunch hearly => ?_⟩
  · have hgain : 0 < simulator.realisticPnl token sizeQuote := by
      simpa [generateLabels] using hprofit
    by_contra hnot
    have hsame : best = first := le_antisymm (not_lt.mp hnot) hle
    rw [hsame, TokenState.returnFrom, sub_self, zero_div, mul_zero] at hreal
    exact absurd hgain hreal.le.not_gt
  · have hreturn : token.windowExtremeReturn (Duration.seconds 60) =
        some ((early - first) / first) := by
      unfold TokenState.windowExtremeReturn
      rw [hlaunch, hfirst]
      simp only [Option.bind_eq_bind, Option.bind_some, hearly, if_pos hpos]
    have hadded : sizeQuote * ((best - early) / first) =
        sizeQuote * TokenState.returnFrom first best - (early - first) / first * sizeQuote := by
      unfold TokenState.returnFrom
      ring
    simp only [generateLabels, hreturn, Option.getD_some]
    rw [hadded]
    exact sub_lt_sub_right hreal _

/-- A token whose price doubles in the first minute and is half as high again afterwards. -/
def risingToken : TokenState :=
  { TokenState.new ⟨"mint"⟩ .geyserProcessed with
    launchTime := some 0
    tradeStats := { priceHistory := [(0, 1), (1, 2), (Duration.seconds 120, 3)] } }

theorem realistic_labels_pessimistic_rising :
    (({} : Simulator).generateLabels risingToken blankFeatures 10).strategyRealisticPnl -
      (({} : Simulator).generateLabels risingToken blankFeatures 10).strategyOraclePnl < 10 :=
  ((realistic_labels_pessimistic {} blankFeatures (by norm_num)
    (show risingToken.firstPrice = some 1 from rfl) one_pos
    (show risingToken.maxPrice = some 3 by decide +kernel)).2.2 0 2 rfl
    (by decide +kernel)).trans_le (by norm_num)

-- The realistic result takes the price of the third minute, which the oracle does not see.
example : (({} : Simulator).generateLabels risingToken blankFeatures 10).strategyOraclePnl <
    (({} : Simulator).generateLabels risingToken blankFeatures 10).strategyRealisticPnl := by
  decide +kernel

/-! ## Backtests -/

section backtest

variable (simulator : Simulator) (intents : List PositionIntent)

/-- The totals of the loop, with the number of wins. -/
def backtestTotals : BacktestSummary × ℕ := intents.foldl simulator.addPosition ({}, 0)

theorem backtestPositions_eq :
    simulator.backtestPositions intents =
      { (simulator.backtestTotals intents).1 with
        hitRate := ((simulator.backtestTotals intents).2 : Decimal) / intents.length } := by
  have hcount : (simulator.backtestTotals intents).1.tradeCount = intents.length := by
    have h := Runs.reading_foldl simulator.addPosition (fun total => total.1.tradeCount)
      (fun _ => 1) (fun _ _ => rfl) ({}, 0) intents
    simpa [backtestTotals] using h
  have hrate : (simulator.backtestTotals intents).1.hitRate = 0 :=
    Runs.reading_foldl_of_kept simulator.addPosition (fun total => total.1.hitRate)
      (fun _ _ => rfl) ({}, 0) intents
  unfold backtestPositions
  rw [show intents.foldl simulator.addPosition ({}, 0) = simulator.backtestTotals intents from rfl]
  generalize simulator.backtestTotals intents = total at hcount hrate ⊢
  obtain ⟨⟨totalPnl, netPnl, feeDrag, slippageDrag, failedDrag, hitRate, tradeCount⟩, wins⟩ := total
  simp only at hcount hrate ⊢
  subst hcount hrate
  cases intents with
  | nil => simp
  | cons intent rest => rw [if_pos (by simp)]

theorem netPnl_backtestPositions :
    (simulator.backtestPositions intents).netPnl =
      (simulator.backtestPositions intents).totalPnl -
        (simulator.backtestPositions intents).feeDrag := by
  have h := Runs.reading_foldl_of_kept simulator.addPosition
    (fun total => total.1.netPnl - (total.1.totalPnl - total.1.feeDrag))
    (fun total intent => by
      simp only [addPosition, simulateRoundTrip]
      ring) ({}, 0) intents
  rw [backtestPositions_eq]
  simp only [backtestTotals]
  linarith

theorem totalPnl_backtestPositions :
    (simulator.backtestPositions intents).totalPnl = (intents.map simulator.grossPnl).sum := by
  have h := Runs.reading_foldl simulator.addPosition (fun total => total.1.totalPnl)
    simulator.grossPnl (fun _ _ => rfl) ({}, 0) intents
  rw [backtestPositions_eq]
  simp only [backtestTotals, h, zero_add]

theorem tradeCount_backtestPositions :
    (simulator.backtestPositions intents).tradeCount = intents.length := by
  have h := Runs.reading_foldl simulator.addPosition (fun total => total.1.tradeCount)
    (fun _ => 1) (fun _ _ => rfl) ({}, 0) intents
  rw [backtestPositions_eq]
  simpa [backtestTotals] using h

/-- The positions that gain after costs. -/
def Wins (intent : PositionIntent) : Prop := 0 < (simulator.simulateRoundTrip intent).2.2

instance : DecidablePred simulator.Wins := fun intent =>
  inferInstanceAs (Decidable (0 < (simulator.simulateRoundTrip intent).2.2))

theorem wins_backtestTotals :
    (simulator.backtestTotals intents).2 = intents.countP simulator.Wins := by
  have h := Runs.reading_foldl simulator.addPosition Prod.snd
    (fun intent => if simulator.Wins intent then 1 else 0)
    (fun total intent => by
      by_cases hwin : simulator.Wins intent
      · rw [if_pos hwin]
        exact if_pos hwin
      · rw [if_neg hwin, add_zero]
        exact if_neg hwin) ({}, 0) intents
  rw [backtestTotals, h, zero_add]
  clear h
  induction intents with
  | nil => rfl
  | cons intent intents ih =>
      rw [List.map_cons, List.sum_cons, List.countP_cons, ih, add_comm]
      simp only [decide_eq_true_eq]

theorem hitRate_backtestPositions :
    (simulator.backtestPositions intents).hitRate * intents.length =
      (intents.countP simulator.Wins : ℕ) := by
  rw [backtestPositions_eq, ← wins_backtestTotals]
  cases intents with
  | nil => simp [backtestTotals]
  | cons intent rest =>
      have hne : ((intent :: rest).length : Decimal) ≠ 0 :=
        Nat.cast_ne_zero.mpr (Nat.succ_ne_zero _)
      exact div_mul_cancel₀ _ hne

/-- A backtest counts each of its positions once, and those that gain after costs are its hits.
Its net result is the gross one less the fees, and neither is above what the positions would gain
without costs. Only positions whose price rises are hits. -/
theorem backtest_pessimistic :
    (simulator.backtestPositions intents).tradeCount = intents.length ∧
      (simulator.backtestPositions intents).hitRate * intents.length =
        (intents.countP simulator.Wins : ℕ) ∧
      (simulator.backtestPositions intents).netPnl =
        (simulator.backtestPositions intents).totalPnl -
          (simulator.backtestPositions intents).feeDrag ∧
      ((∀ intent ∈ intents, intent.InPool) →
        (simulator.backtestPositions intents).netPnl ≤
            (simulator.backtestPositions intents).totalPnl ∧
          (simulator.backtestPositions intents).totalPnl ≤ (intents.map withoutCosts).sum ∧
          ∀ intent ∈ intents, simulator.Wins intent → intent.entryPrice < intent.exitPrice) := by
  refine ⟨simulator.tradeCount_backtestPositions intents,
    simulator.hitRate_backtestPositions intents, simulator.netPnl_backtestPositions intents,
    fun hpool => ⟨?_, ?_, fun intent hmem hwins => ?_⟩⟩
  · have h := Runs.reading_foldl simulator.addPosition (fun total => total.1.netPnl)
      (fun intent => (simulator.simulateRoundTrip intent).2.2) (fun _ _ => rfl) ({}, 0) intents
    rw [totalPnl_backtestPositions, backtestPositions_eq]
    simp only [backtestTotals, h, zero_add]
    exact List.sum_le_sum fun intent hmem =>
      simulator.roundTrip_net_le_grossPnl (hpool intent hmem)
  · rw [totalPnl_backtestPositions]
    exact List.sum_le_sum fun intent hmem => (simulator.grossPnl_lt (hpool intent hmem)).le
  · by_contra hfell
    have hlost := (simulator.roundTrip_net (hpool intent hmem) (not_lt.mp hfell)).1
    exact absurd hwins hlost.le.not_gt

end backtest

/-- A round trip at the best price of that token, and one at its first. -/
def risingIntents : List PositionIntent :=
  [labelIntent risingToken 10 1 3, labelIntent risingToken 5 1 1]

theorem backtest_pessimistic_rising :
    (({} : Simulator).backtestPositions risingIntents).totalPnl ≤
      (risingIntents.map withoutCosts).sum :=
  ((backtest_pessimistic {} risingIntents).2.2.2 fun intent hmem => by
    simp only [risingIntents, List.mem_cons, List.not_mem_nil, or_false] at hmem
    rcases hmem with rfl | rfl
    · exact ⟨by norm_num [labelIntent], one_pos, by norm_num [labelIntent],
        liquidityDepth_pos risingToken⟩
    · exact ⟨by norm_num [labelIntent], one_pos, one_pos,
        liquidityDepth_pos risingToken⟩).2.1

end Simulator

end PumpLaunchTrader
