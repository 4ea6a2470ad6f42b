import PumpLaunchTrader.Model.Assessment
import PumpLaunchTrader.Model.State.Token

/-! # Order simulation (`sim`) -/

namespace PumpLaunchTrader

structure FeeParameters where
  baseFeeLamportsPerSignature : ℕ := 5000
  computeUnitLimit : ℕ := 300000
  computeUnitPriceMicroLamports : ℕ := 50000
  tipLamports : ℕ := 0
  ataRentLamports : ℕ := 0
  creatorFeeBps : ℕ := 30
  protocolFeeBps : ℕ := 95
  lpFeeBps : ℕ := 0
  buySlippageBps : ℕ := 100
  sellSlippageBps : ℕ := 100
  failedTransactionFeeLamports : ℕ := 5000
  deriving DecidableEq, Repr

structure FeeBreakdown where
  baseFeeQuote : Decimal
  priorityFeeQuote : Decimal
  tipQuote : Decimal
  ataRentQuote : Decimal
  creatorFeeQuote : Decimal
  protocolFeeQuote : Decimal
  lpFeeQuote : Decimal
  failedTransactionFeeQuote : Decimal
  totalQuote : Decimal
  deriving DecidableEq, Repr

structure SimulatedOrderRequest where
  mint : PubkeyValue
  side : ExecutionSide
  intendedTime : OffsetDateTime
  signalTime : OffsetDateTime
  sizeQuote : Decimal
  sizeTokens : Option Decimal
  referencePrice : Decimal
  liquidityQuoteDepth : Decimal
  maxSlippageBps : ℕ
  latency : Duration
  forceFail : Bool

structure SimulatedOrderResult where
  fill : FillEvent
  netQuotePnl : Decimal
  fees : FeeBreakdown
  impactedPrice : Decimal
  failed : Bool

structure PositionIntent where
  mint : PubkeyValue
  entryTime : OffsetDateTime
  exitTime : OffsetDateTime
  sizeQuote : Decimal
  entryPrice : Decimal
  exitPrice : Decimal
  liquidityQuoteDepth : Decimal

def lamportsToQuote (lamports : ℕ) : Decimal := lamports / 1000000000

def clampNonnegative (value : Decimal) : Decimal := max value 0

structure FeeModel where
  params : FeeParameters := {}

namespace FeeModel

/-- `FeeModel::priority_fee_lamports`, rounded up to whole lamports. The product is a `u64`: it
wraps in a release build. -/
def priorityFeeLamports (self : FeeModel) : ℕ :=
  let numerator :=
    self.params.computeUnitLimit * self.params.computeUnitPriceMicroLamports % 2 ^ 64
  (numerator + 999999) / 1000000

/-- `FeeModel::priority_fee_lamports` in a build that checks for overflow: it stops there. -/
def priorityFeeLamportsChecked (self : FeeModel) : Option ℕ :=
  let numerator := self.params.computeUnitLimit * self.params.computeUnitPriceMicroLamports
  if numerator < 2 ^ 64 then some ((numerator + 999999) / 1000000) else none

def feeBreakdown (self : FeeModel) (notionalQuote : Decimal) (includeAta failed : Bool) :
    FeeBreakdown :=
  let base := lamportsToQuote self.params.baseFeeLamportsPerSignature
  let priority := lamportsToQuote self.priorityFeeLamports
  let tip := lamportsToQuote self.params.tipLamports
  let ata := if includeAta then lamportsToQuote self.params.ataRentLamports else 0
  let creatorFee := notionalQuote * self.params.creatorFeeBps / 10000
  let protocolFee := notionalQuote * self.params.protocolFeeBps / 10000
  let lpFee := notionalQuote * self.params.lpFeeBps / 10000
  let failedFee :=
    if failed then lamportsToQuote self.params.failedTransactionFeeLamports else 0
  { baseFeeQuote := base
    priorityFeeQuote := priority
    tipQuote := tip
    ataRentQuote := ata
    creatorFeeQuote := creatorFee
    protocolFeeQuote := protocolFee
    lpFeeQuote := lpFee
    failedTransactionFeeQuote := failedFee
    totalQuote := base + priority + tip + ata + creatorFee + protocolFee + lpFee + failedFee }

end FeeModel

structure Simulator where
  feeModel : FeeModel := {}

namespace Simulator

def simulateOrder (self : Simulator) (request : SimulatedOrderRequest) : SimulatedOrderResult :=
  let referenceNotional :=
    match request.side with
    | .buy => request.sizeQuote
    | .sell => (request.sizeTokens.map (· * request.referencePrice)).getD request.sizeQuote
  let impactPct :=
    if 0 < request.liquidityQuoteDepth then
      clampNonnegative (referenceNotional / request.liquidityQuoteDepth)
    else 1
  let configuredSlippageBps :=
    match request.side with
    | .buy => self.feeModel.params.buySlippageBps
    | .sell => self.feeModel.params.sellSlippageBps
  let slippagePct : Decimal := (min configuredSlippageBps request.maxSlippageBps : ℕ) / 10000
  let impactMultiplier := 1 + impactPct + slippagePct
  let impactedPrice :=
    match request.side with
    | .buy => request.referencePrice * impactMultiplier
    | .sell => request.referencePrice / impactMultiplier
  let notional :=
    match request.side with
    | .buy => request.sizeQuote
    | .sell => (request.sizeTokens.map (· * impactedPrice)).getD request.sizeQuote
  let fees := self.feeModel.feeBreakdown notional false request.forceFail
  let landed := request.signalTime + request.latency
  let filledSize :=
    if request.forceFail ∨ impactedPrice ≤ 0 then 0
    else
      match request.side with
      | .sell => request.sizeTokens.getD (notional / impactedPrice)
      | .buy => request.sizeQuote / impactedPrice
  { fill :=
      { mint := request.mint
        side := request.side
        intendedTime := request.intendedTime
        signalTime := request.signalTime
        sendTime := request.signalTime
        landingTime := some landed
        confirmationTime := some (landed + Duration.milliseconds 400)
        intendedSize := request.sizeTokens.getD request.sizeQuote
        filledSize := filledSize
        fillPrice := impactedPrice
        notional := notional
        fees := fees.totalQuote
        slippage := slippagePct
        priceImpact := impactPct
        failureReason := if request.forceFail then some "forced_failure" else none
        transactionSignature := none
        confirmationSource := some "simulation"
        baseFeeQuote := some fees.baseFeeQuote
        priorityFeeQuote := some fees.priorityFeeQuote
        tipQuote := some fees.tipQuote
        slippageCostQuote := some (slippagePct * notional)
        curveImpactCostQuote := some (impactPct * notional)
        latencyCostQuote := some 0
        failedTxCostQuote := some fees.failedTransactionFeeQuote }
    netQuotePnl := -fees.totalQuote
    fees := fees
    impactedPrice := impactedPrice
    failed := request.forceFail }

/-- A buy at the entry followed by a sale of all that it filled at the exit, with the net
result after fees. -/
def simulateRoundTrip (self : Simulator) (intent : PositionIntent) :
    SimulatedOrderResult × SimulatedOrderResult × Decimal :=
  let buy := self.simulateOrder
    { mint := intent.mint
      side := .buy
      intendedTime := intent.entryTime
      signalTime := intent.entryTime
      sizeQuote := intent.sizeQuote
      referencePrice := intent.entryPrice
      liquidityQuoteDepth := intent.liquidityQuoteDepth
      maxSlippageBps := self.feeModel.params.buySlippageBps
      sizeTokens := none
      latency := Duration.milliseconds 150
      forceFail := false }
  let sell := self.simulateOrder
    { mint := intent.mint
      side := .sell
      intendedTime := intent.exitTime
      signalTime := intent.exitTime
      sizeQuote := buy.fill.filledSize * intent.exitPrice
      sizeTokens := some buy.fill.filledSize
      referencePrice := intent.exitPrice
      liquidityQuoteDepth := intent.liquidityQuoteDepth
      maxSlippageBps := self.feeModel.params.sellSlippageBps
      latency := Duration.milliseconds 150
      forceFail := false }
  let proceeds := sell.fill.filledSize * sell.fill.fillPrice
  (buy, sell, proceeds - intent.sizeQuote - buy.fees.totalQuote - sell.fees.totalQuote)

end Simulator

end PumpLaunchTrader

/-! ## Backtests and labels (`sim`)

A backtest adds up simulated round trips. The labels of a token are read off its price history
after a replay, and a replay is refused when its events are out of order. -/

namespace PumpLaunchTrader

structure BacktestSummary where
  totalPnl : Decimal := 0
  netPnl : Decimal := 0
  feeDrag : Decimal := 0
  slippageDrag : Decimal := 0
  failedTransactionDrag : Decimal := 0
  hitRate : Decimal := 0
  tradeCount : ℕ := 0

structure TokenLabels where
  mint : PubkeyValue
  maxReturn30s : Decimal
  maxReturn1m : Decimal
  maxReturn5m : Decimal
  maxDrawdown30s : Decimal
  maxDrawdown1m : Decimal
  maxDrawdown5m : Decimal
  timeTo20pctProfitMs : Option ℤ
  timeTo50pctDrawdownMs : Option ℤ
  timeToDevSellMs : Option ℤ
  timeToNoBuyGapMs : Option ℤ
  strategyRealisticPnl : Decimal
  strategyOraclePnl : Decimal
  oracleMinusRealisticGap : Decimal
  opportunityDurationMs : ℤ
  opportunityHalfLifeMs : ℤ
  wasScalpable : Bool
  wasRug : Bool
  profitableAfterFeesFlag : Bool
  profitableAfterSlippageFlag : Bool
  profitableAfterRealisticSizeFlag : Bool

inductive SimError where
  | noLookaheadViolation (index : ℕ)
  deriving DecidableEq, Repr

structure ReplayEvent where
  observedAt : OffsetDateTime
  event : NormalizedEvent

/-! ## Prices of a token -/

namespace TokenState

/-- `liquidity_depth`. -/
def liquidityDepth (token : TokenState) : Decimal :=
  let depth := token.reserveState.realQuoteReserves + token.reserveState.virtualQuoteReserves
  if 0 < depth then depth else 100

/-- `first_price`. -/
def firstPrice (token : TokenState) : Option Decimal :=
  token.tradeStats.priceHistory.head?.map Prod.snd

/-- `max_price`. -/
def maxPrice (token : TokenState) : Option Decimal :=
  (token.tradeStats.priceHistory.map Prod.snd).max?

/-- The prices up to a time. -/
def pricesUntil (token : TokenState) (limit : OffsetDateTime) : List Decimal :=
  (token.tradeStats.priceHistory.filter fun entry => entry.1 ≤ limit).map Prod.snd

/-- `window_extreme_return`. -/
def windowExtremeReturn (token : TokenState) (window : Duration) : Option Decimal := do
  let launchTime ← token.launchTime
  let startPrice ← token.firstPrice
  let maxPrice ← (token.pricesUntil (launchTime + window)).max?
  if 0 < startPrice then some ((maxPrice - startPrice) / startPrice) else none

/-- `window_extreme_drawdown`. -/
def windowExtremeDrawdown (token : TokenState) (window : Duration) : Option Decimal := do
  let launchTime ← token.launchTime
  let startPrice ← token.firstPrice
  let minPrice ← (token.pricesUntil (launchTime + window)).min?
  if 0 < startPrice then some ((startPrice - minPrice) / startPrice) else none

/-- `time_to_return`. -/
def timeToReturn (token : TokenState) (threshold : Decimal) : Option ℤ := do
  let launchTime ← token.launchTime
  let launchPrice ← token.firstPrice
  let entry ← token.tradeStats.priceHistory.find? fun entry =>
    0 < launchPrice ∧ threshold ≤ (entry.2 - launchPrice) / launchPrice
  some (Duration.wholeMilliseconds (entry.1 - launchTime))

/-- `time_to_drawdown`. -/
def timeToDrawdown (token : TokenState) (threshold : Decimal) : Option ℤ := do
  let launchTime ← token.launchTime
  let launchPrice ← token.firstPrice
  let entry ← token.tradeStats.priceHistory.find? fun entry =>
    0 < launchPrice ∧ threshold ≤ (launchPrice - entry.2) / launchPrice
  some (Duration.wholeMilliseconds (entry.1 - launchTime))

/-- The time from the launch to the last price. -/
def opportunity (token : TokenState) : Option Duration := do
  let launch ← token.launchTime
  let last ← token.tradeStats.priceHistory.getLast?
  some (last.1 - launch)

end TokenState

namespace Simulator

/-- One round of the loop of `backtest_positions`, with the number of wins. -/
def addPosition (self : Simulator) (total : BacktestSummary × ℕ) (intent : PositionIntent) :
    BacktestSummary × ℕ :=
  let (summary, wins) := total
  let (buy, sell, pnl) := self.simulateRoundTrip intent
  ({ summary with
      totalPnl := summary.totalPnl +
        (sell.fill.filledSize * sell.fill.fillPrice - intent.sizeQuote)
      netPnl := summary.netPnl + pnl
      feeDrag := summary.feeDrag + (buy.fees.totalQuote + sell.fees.totalQuote)
      slippageDrag := summary.slippageDrag +
        (buy.fill.slippage * buy.fill.notional + sell.fill.slippage * sell.fill.notional)
      failedTransactionDrag := summary.failedTransactionDrag +
        (buy.fees.failedTransactionFeeQuote + sell.fees.failedTransactionFeeQuote)
      tradeCount := summary.tradeCount + 1 },
    if 0 < pnl then wins + 1 else wins)

/-- `Simulator::backtest_positions`. -/
def backtestPositions (self : Simulator) (intents : List PositionIntent) : BacktestSummary :=
  let (summary, wins) := intents.foldl self.addPosition ({}, 0)
  if 0 < summary.tradeCount then { summary with hitRate := (wins : Decimal) / summary.tradeCount }
  else summary

/-- The round trip that `generate_labels` simulates: in at the first price, out at the best. -/
def labelIntent (token : TokenState) (sizeQuote entryPrice exitPrice : Decimal) :
    PositionIntent :=
  { mint := token.mint
    entryTime := token.launchTime.getD unixEpoch
    exitTime := (token.tradeStats.priceHistory.getLast?.map Prod.fst).getD unixEpoch
    sizeQuote := sizeQuote
    entryPrice := entryPrice
    exitPrice := exitPrice
    liquidityQuoteDepth := token.liquidityDepth }

/-- The net result of that round trip, zero while there is no price. -/
def realisticPnl (self : Simulator) (token : TokenState) (sizeQuote : Decimal) : Decimal :=
  match token.firstPrice, token.maxPrice with
  | some entryPrice, some exitPrice =>
    (self.simulateRoundTrip (labelIntent token sizeQuote entryPrice exitPrice)).2.2
  | _, _ => 0

/-- `Simulator::generate_labels`. -/
def generateLabels (self : Simulator) (token : TokenState) (features : FeatureSnapshot)
    (sizeQuote : Decimal) : TokenLabels :=
  let maxReturn1m := (token.windowExtremeReturn (Duration.seconds 60)).getD 0
  let oraclePnl := maxReturn1m * sizeQuote
  let realisticPnl := self.realisticPnl token sizeQuote
  { mint := token.mint
    maxReturn30s := (token.windowExtremeReturn (Duration.seconds 30)).getD 0
    maxReturn1m := maxReturn1m
    maxReturn5m := (token.windowExtremeReturn (Duration.seconds 300)).getD 0
    maxDrawdown30s := (token.windowExtremeDrawdown (Duration.seconds 30)).getD 0
    maxDrawdown1m := (token.windowExtremeDrawdown (Duration.seconds 60)).getD 0
    maxDrawdown5m := (token.windowExtremeDrawdown (Duration.seconds 300)).getD 0
    timeTo20pctProfitMs := token.timeToReturn (20 / 100)
    timeTo50pctDrawdownMs := token.timeToDrawdown (50 / 100)
    timeToDevSellMs := token.developerState.creatorFirstSellTime.bind fun sellTime =>
      token.launchTime.map fun launch => Duration.wholeMilliseconds (sellTime - launch)
    timeToNoBuyGapMs := some token.tradeStats.longestNoBuyGapMs
    strategyRealisticPnl := realisticPnl
    strategyOraclePnl := oraclePnl
    oracleMinusRealisticGap := oraclePnl - realisticPnl
    opportunityDurationMs := (token.opportunity.map Duration.wholeMilliseconds).getD 0
    opportunityHalfLifeMs :=
      (token.opportunity.map fun span => Int.tdiv (Duration.wholeMilliseconds span) 2).getD 0
    wasScalpable := 10 / 100 < maxReturn1m
    wasRug := 80 / 100 ≤ (features.decimal "rug_probability_score").getD 0 ∨
      0 < (features.decimal "price_drop_70pct_from_launch_within_5m").getD 0
    profitableAfterFeesFlag := 0 < realisticPnl
    profitableAfterSlippageFlag := 0 < realisticPnl
    profitableAfterRealisticSizeFlag := 0 < realisticPnl }

/-- `Simulator::validate_no_lookahead`. -/
def validateNoLookahead (events : List ReplayEvent) : Except SimError Unit :=
  match (events.zip events.tail).zipIdx.find? fun window =>
    window.1.2.observedAt < window.1.1.observedAt with
  | some window => .error (.noLookaheadViolation (window.2 + 1))
  | none => .ok ()

end Simulator

end PumpLaunchTrader
