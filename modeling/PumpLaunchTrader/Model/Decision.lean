import PumpLaunchTrader.Model.Sim

/-! # Trade decisions (`decision`)

`DecisionEngine::evaluate` and what it calls. Its cascade of blocks is `verdict`; the
branch of an open position and the branch of a possible entry are definitions of their
own. The random decision id is an argument. -/

namespace PumpLaunchTrader

inductive StrategyKind where
  | launchMomentumScalp | holderGrowthContinuation | sellAbsorptionBounce
  | smartCapitalRotation | organicSlowGrind | defensiveNoTrade
  deriving DecidableEq, Repr

/-- The `Debug` name of a strategy. -/
def StrategyKind.name : StrategyKind → String
  | .launchMomentumScalp => "LaunchMomentumScalp"
  | .holderGrowthContinuation => "HolderGrowthContinuation"
  | .sellAbsorptionBounce => "SellAbsorptionBounce"
  | .smartCapitalRotation => "SmartCapitalRotation"
  | .organicSlowGrind => "OrganicSlowGrind"
  | .defensiveNoTrade => "DefensiveNoTrade"

/-- The `Debug` text of an optional warning level. -/
def warningLevelText : Option TentativeSellRiskLevel → String
  | none => "None"
  | some .info => "Some(Info)"
  | some .watch => "Some(Watch)"
  | some .exitArmed => "Some(ExitArmed)"
  | some .emergencyExitRecommended => "Some(EmergencyExitRecommended)"
  | some .emergencyExitRequired => "Some(EmergencyExitRequired)"

/-- The warning levels that arm an exit and block an entry. -/
def TentativeSellRiskLevel.armsExit : TentativeSellRiskLevel → Bool
  | .exitArmed | .emergencyExitRecommended | .emergencyExitRequired => true
  | .info | .watch => false

structure CompositeScore where
  rawScore : Decimal
  regimeAdjustedScore : Decimal
  confidence : Decimal
  missingDataPenalty : Decimal
  topPositiveComponents : List String
  topNegativeComponents : List String
  reasonCodes : List ReasonCode
  recommendedActionInfluence : Decimal
  deriving DecidableEq, Repr

structure ExpectedExecutableEdge where
  expectedPriceMovePct : Decimal
  expectedExitPrice : Decimal
  expectedHoldTimeMs : ℕ
  expectedFeeDragQuote : Decimal
  expectedSlippageDragQuote : Decimal
  expectedLatencyDragQuote : Decimal
  expectedCurveImpactQuote : Decimal
  expectedExitImpactQuote : Decimal
  expectedFailedTxCostQuote : Decimal
  minimumRequiredMovePct : Decimal
  expectedNetEdgeQuote : Decimal
  expectedNetEdgePct : Decimal
  confidence : Decimal
  reasonCodes : List ReasonCode
  deriving DecidableEq, Repr

structure OpenPositionContext where
  strategy : StrategyKind
  entryTime : OffsetDateTime
  entryPrice : Decimal
  sizeQuote : Decimal
  sizeTokens : Decimal
  entryFeesPaid : Decimal
  maxAdverseExcursion : Decimal
  maxFavorableExcursion : Decimal
  expectedEdgeQuote : Decimal
  deriving DecidableEq, Repr

/-- The composite scores by name, in the order of their names. -/
abbrev CompositeScores := List (String × CompositeScore)

structure DecisionOutcome where
  decisionEvent : TradeDecisionEvent
  strategy : StrategyKind
  positionSizeQuote : Decimal
  expectedEdge : ExpectedExecutableEdge
  compositeScores : CompositeScores
  diagnostics : List String
  deriving DecidableEq, Repr

structure DecisionEngine where
  thresholds : StrategyThresholds
  edge : EdgeConfig
  execution : ExecutionConfig
  simulator : Simulator := {}
  killSwitch : Bool := false

/-! ## Arithmetic -/

def clamp01 (value : Decimal) : Decimal := min (max value 0) 1

/-- `weighted_average` of values paired with their weights. -/
def weightedAverage (values : List (Decimal × Decimal)) : Decimal :=
  let (weightedSum, totalWeight) := values.foldl
    (fun (sums : Decimal × Decimal) (entry : Decimal × Decimal) =>
      (sums.1 + entry.1 * entry.2, sums.2 + entry.2)) (0, 0)
  if 0 < totalWeight then weightedSum / totalWeight else 0

def score (rawScore : Decimal) (topPositiveComponents topNegativeComponents : List String)
    (missingPenalty : Decimal) (reasonCodes : List ReasonCode) : CompositeScore :=
  let regimeAdjustedScore := clamp01 (rawScore - missingPenalty / 2)
  { rawScore := clamp01 rawScore
    regimeAdjustedScore := regimeAdjustedScore
    confidence := clamp01 (1 - missingPenalty)
    missingDataPenalty := clamp01 missingPenalty
    topPositiveComponents := topPositiveComponents
    topNegativeComponents := topNegativeComponents
    reasonCodes := reasonCodes
    recommendedActionInfluence := regimeAdjustedScore }

/-- The depth of the curve: real and virtual quote reserves together. -/
def TokenState.reserveDepth (token : TokenState) : Decimal :=
  token.reserveState.realQuoteReserves + token.reserveState.virtualQuoteReserves

/-- The time of the last price, or the epoch. -/
def TokenState.lastPriceTime (token : TokenState) : OffsetDateTime :=
  (token.tradeStats.priceHistory.getLast?.map Prod.fst).getD unixEpoch

/-- The smallest price an order is referenced to. -/
def TokenState.referencePrice (token : TokenState) : Decimal :=
  max token.latestPrice (1 / 1000000000)

/-- `terminal_decision`. -/
def terminalDecision (token : TokenState) : TradeDecision :=
  if token.lifecycle = .inPosition then .emergencyExit else .stopTracking

/-- `terminal_or_emergency`, which is the same function. -/
def terminalOrEmergency (token : TokenState) : TradeDecision :=
  if token.lifecycle = .inPosition then .emergencyExit else .stopTracking

/-- Fake momentum is among the reasons of the assessment or of its score. -/
def RiskAssessment.fakeMomentumFlagged (risk : RiskAssessment) : Bool :=
  .highFakeMomentumRisk ∈ risk.reasonCodes ∨
    .highFakeMomentumRisk ∈ risk.fakeMomentum.reasonCodes

/-- `select_strategy`. -/
def selectStrategy (features : FeatureSnapshot) (risk : RiskAssessment)
    (scores : CompositeScores) : StrategyKind :=
  let adjusted : String → Decimal := fun name =>
    ((scores.lookup name).map CompositeScore.regimeAdjustedScore).getD 0
  let momentum := adjusted "MomentumScore"
  let holderQuality := adjusted "HolderQualityScore"
  let rotation := features.decimalOrZero "smart_capital_rotation_score"
  let absorption := features.decimalOrZero "absorption_success_score"
  let organic := features.decimalOrZero "organic_survival_score"
  let stickiness := features.decimalOrZero "holder_stickiness_score"
  let authenticity := features.decimalOrZero "momentum_authenticity_score"
  let relativeStrength := features.decimalOrZero "token_relative_strength_score"
  let fakeFlagged := risk.fakeMomentumFlagged
  if 70 / 100 ≤ risk.rug.score ∨ 75 / 100 ≤ risk.dataQuality.score then .defensiveNoTrade
  else if 36 / 100 ≤ holderQuality ∧ 22 / 100 ≤ stickiness ∧ 30 / 100 ≤ organic ∧
      45 / 100 ≤ relativeStrength ∧ risk.fakeMomentum.score < 30 / 100 ∧
      fakeFlagged = false then
    .holderGrowthContinuation
  else if 48 / 100 ≤ momentum ∧ 45 / 100 ≤ authenticity ∧
      risk.fakeMomentum.score < 30 / 100 ∧
      fakeFlagged = false then
    .launchMomentumScalp
  else if 22 / 100 ≤ absorption ∧ 15 / 100 ≤ stickiness ∧ risk.bundle.score < 65 / 100 ∧
      risk.topHolder.score < 75 / 100 ∧ risk.fakeMomentum.score < 60 / 100 then
    .sellAbsorptionBounce
  else if 12 / 100 ≤ rotation ∧ 15 / 100 ≤ momentum then .smartCapitalRotation
  else if 30 / 100 ≤ organic ∧ 25 / 100 ≤ holderQuality ∧ risk.bundle.score < 60 / 100 then
    .organicSlowGrind
  else .defensiveNoTrade

/-- The reason codes of a `BTreeMap<ReasonCode, ()>`: each once, in declaration order. -/
def orderedReasonCodes (codes : List ReasonCode) : List ReasonCode :=
  codes.dedup.insertionSort fun left right => left.ctorIdx ≤ right.ctorIdx

namespace DecisionEngine

/-! ## Scores and edge -/

/-- `DecisionEngine::fee_adjusted_edge_score`. -/
def feeAdjustedEdgeScore (self : DecisionEngine) (token : TokenState)
    (features : FeatureSnapshot) (risk : RiskAssessment) : CompositeScore :=
  let sizeQuote := self.execution.maxDailyLossQuote / 20
  let (_, _, net) := self.simulator.simulateRoundTrip
    { mint := token.mint
      entryTime := token.launchTime.getD unixEpoch
      exitTime := token.lastPriceTime
      sizeQuote := sizeQuote
      entryPrice := token.referencePrice
      exitPrice := token.referencePrice * (1 + max (features.decimalOrZero "return_pct_30s") 0)
      liquidityQuoteDepth := if 0 < token.reserveDepth then token.reserveDepth else 100 }
  let normalized := if 0 < sizeQuote then clamp01 ((net / sizeQuote + 1) / 2) else 0
  score normalized ["round-trip after fees"] ["fee drag and impact"] (risk.bundle.score / 3)
    [.feeAdjustedEdgeTooLow]

/-- `DecisionEngine::composite_scores`. -/
def compositeScores (self : DecisionEngine) (token : TokenState) (features : FeatureSnapshot)
    (risk : RiskAssessment) : CompositeScores :=
  let momentum := score
    (weightedAverage
      [(features.decimalOrZero "return_pct_30s", 45 / 100),
        (features.decimalOrZero "organic_flow_score", 35 / 100),
        (features.decimalOrZero "token_relative_strength_score", 20 / 100)])
    ["short-term return", "organic flow"] ["drawdown"] (risk.fakeMomentum.score / 2) []
  let holderQuality := score
    (weightedAverage
      [(features.decimalOrZero "sustained_holder_growth_score", 5 / 10),
        (1 - features.decimalOrZero "concentration_risk_score", 3 / 10),
        (1 - features.decimalOrZero "holder_balance_hhi", 2 / 10)])
    ["holder growth"] ["concentration"] (risk.topHolder.score / 2) []
  let feeAdjustedEdge := self.feeAdjustedEdgeScore token features risk
  let liquidity := score (features.decimalOrZero "quote_asset_specific_depth_score")
    ["curve depth"] [] 0 []
  let latency := score (features.decimalOrZero "latency_adjusted_trade_eligibility")
    ["precomputed latency viability"] [] 0 []
  let relativeStrength := score (features.decimalOrZero "token_relative_strength_score")
    ["cohort rank"] [] 0 []
  let holderStickiness := score (features.decimalOrZero "holder_stickiness_score")
    ["holder stickiness"] ["paper hands"] 0 []
  let absorption := score (features.decimalOrZero "absorption_success_score")
    ["sell absorption"] ["failed absorption"] 0 []
  let capitalRotation := score (features.decimalOrZero "smart_capital_rotation_score")
    ["capital rotation"] ["rotation decay"] 0 []
  let profitOverhang := score (1 - features.decimalOrZero "profit_overhang_score")
    ["low profit overhang"] ["profit pressure"] (risk.topHolder.score / 3)
    [.profitOverhangTooHigh]
  let momentumAuthenticity := score (features.decimalOrZero "momentum_authenticity_score")
    ["authentic momentum"] ["fake momentum"] (risk.fakeMomentum.score / 3) []
  let antiRug := score
    (weightedAverage
      [(features.decimalOrZero "organic_survival_score", 7 / 10),
        (1 - risk.rug.score, 3 / 10)])
    ["survival score"] ["rug risk"] (risk.rug.score / 2) []
  let tradeEligibility := score
    (weightedAverage
      [(momentum.regimeAdjustedScore, 20 / 100),
        (holderQuality.regimeAdjustedScore, 20 / 100),
        (feeAdjustedEdge.regimeAdjustedScore, 20 / 100),
        (liquidity.regimeAdjustedScore, 10 / 100),
        (latency.regimeAdjustedScore, 5 / 100),
        (relativeStrength.regimeAdjustedScore, 10 / 100),
        (holderStickiness.regimeAdjustedScore, 10 / 100),
        (absorption.regimeAdjustedScore, 5 / 100),
        (capitalRotation.regimeAdjustedScore, 5 / 100),
        (profitOverhang.regimeAdjustedScore, 5 / 100),
        (momentumAuthenticity.regimeAdjustedScore, 5 / 100),
        (antiRug.regimeAdjustedScore, 5 / 100)])
    ["multi-factor eligibility"] ["risk penalties"]
    (weightedAverage
      [(risk.rug.score, 35 / 100), (risk.bundle.score, 20 / 100),
        (risk.topHolder.score, 15 / 100), (risk.fakeMomentum.score, 15 / 100),
        (risk.dataQuality.score, 15 / 100)])
    [.feeAdjustedEdgeTooLow]
  [("AbsorptionStrengthScore", absorption),
    ("AntiRugSurvivalScore", antiRug),
    ("FeeAdjustedEdgeScore", feeAdjustedEdge),
    ("HolderQualityScore", holderQuality),
    ("HolderStickinessScore", holderStickiness),
    ("LatencyViabilityScore", latency),
    ("LiquidityDepthScore", liquidity),
    ("MomentumAuthenticityScore", momentumAuthenticity),
    ("MomentumScore", momentum),
    ("ProfitOverhangRiskScore", profitOverhang),
    ("RelativeStrengthScore", relativeStrength),
    ("SmartCapitalRotationScore", capitalRotation),
    ("TradeEligibilityScore", tradeEligibility)]

/-- The depth an order is sized against: the reserves, else the traded volume and a floor. -/
def depthProxy (token : TokenState) (floor : Decimal) : Decimal :=
  if 0 < token.reserveDepth then token.reserveDepth
  else token.tradeStats.buyVolumeQuote + token.tradeStats.sellVolumeQuote + floor

/-- `DecisionEngine::position_size_quote`. -/
def positionSizeQuote (self : DecisionEngine) (eligibility : Decimal) (token : TokenState)
    (risk : RiskAssessment) : Decimal :=
  let base := self.execution.maxDailyLossQuote / 10
  let liquidityFactor := clamp01 (depthProxy token 25 / 500)
  let riskFactor := clamp01 (1 - weightedAverage
    [(risk.rug.score, 4 / 10), (risk.bundle.score, 2 / 10), (risk.topHolder.score, 2 / 10),
      (risk.fakeMomentum.score, 2 / 10)])
  min (min (base * eligibility * liquidityFactor * riskFactor)
    (self.execution.maxDailyLossQuote / 2)) (max self.execution.maxPositionSizeQuote 0)

/-- `DecisionEngine::strategy_profile`. -/
def strategyProfile (self : DecisionEngine) : StrategyKind → StrategyProfileConfig
  | .launchMomentumScalp => self.thresholds.launchMomentum
  | .holderGrowthContinuation => self.thresholds.holderGrowth
  | .sellAbsorptionBounce => self.thresholds.absorptionBounce
  | .smartCapitalRotation => self.thresholds.smartRotation
  | .organicSlowGrind | .defensiveNoTrade => self.thresholds.organicSlowGrind

/-- How well the features fit a strategy. -/
def qualitative (features : FeatureSnapshot) (risk : RiskAssessment) : StrategyKind → Decimal
  | .launchMomentumScalp => weightedAverage
      [(max (features.decimalOrZero "return_pct_30s") 0, 25 / 100),
        (features.decimalOrZero "token_relative_strength_score", 20 / 100),
        (features.decimalOrZero "momentum_authenticity_score", 30 / 100),
        (features.decimalOrZero "organic_flow_score", 25 / 100)]
  | .holderGrowthContinuation => weightedAverage
      [(features.decimalOrZero "sustained_holder_growth_score", 30 / 100),
        (features.decimalOrZero "holder_stickiness_score", 30 / 100),
        (features.decimalOrZero "token_relative_strength_score", 20 / 100),
        (features.decimalOrZero "organic_survival_score", 20 / 100)]
  | .sellAbsorptionBounce => weightedAverage
      [(features.decimalOrZero "absorption_success_score", 40 / 100),
        (features.decimalOrZero "momentum_authenticity_score", 25 / 100),
        (features.decimalOrZero "holder_stickiness_score", 20 / 100),
        (features.decimalOrZero "organic_flow_score", 15 / 100)]
  | .smartCapitalRotation => weightedAverage
      [(features.decimalOrZero "smart_capital_rotation_score", 35 / 100),
        (features.decimalOrZero "token_relative_strength_score", 25 / 100),
        (features.decimalOrZero "holder_stickiness_score", 20 / 100),
        (features.decimalOrZero "momentum_authenticity_score", 20 / 100)]
  | .organicSlowGrind => weightedAverage
      [(features.decimalOrZero "organic_survival_score", 35 / 100),
        (features.decimalOrZero "holder_stickiness_score", 25 / 100),
        (features.decimalOrZero "sustained_holder_growth_score", 20 / 100),
        (1 - risk.bundle.score, 20 / 100)]
  | .defensiveNoTrade => 0

/-- `DecisionEngine::expected_executable_edge`. -/
def expectedExecutableEdge (self : DecisionEngine) (token : TokenState)
    (features : FeatureSnapshot) (risk : RiskAssessment) (strategy : StrategyKind) :
    ExpectedExecutableEdge :=
  let profile := self.strategyProfile strategy
  let quality := qualitative features risk strategy
  let riskPenalty := weightedAverage
    [(risk.rug.score, 30 / 100), (risk.bundle.score, 15 / 100),
      (risk.topHolder.score, 15 / 100), (risk.fakeMomentum.score, 20 / 100),
      (features.decimalOrZero "profit_overhang_score", 10 / 100),
      (features.decimalOrZero "fee_war_score", 10 / 100)]
  let confidence := clamp01 (weightedAverage
    [(quality, 60 / 100), (1 - riskPenalty, 20 / 100),
      ((features.decimal "data_quality_score").getD (50 / 100), 20 / 100)])
  let expectedPriceMovePct := clamp01
    (profile.takeProfitPct * clamp01 quality * clamp01 (1 - riskPenalty / 2))
  let expectedExitPrice := token.referencePrice * (1 + expectedPriceMovePct)
  let sizeQuote := max
    (min self.execution.maxPositionSizeQuote (self.execution.maxDailyLossQuote / 10)) (25 / 100)
  let (buy, sell, simulatorNet) := self.simulator.simulateRoundTrip
    { mint := token.mint
      entryTime := token.launchTime.getD unixEpoch
      exitTime := token.lastPriceTime + Duration.milliseconds (asI64 profile.maxHoldMs)
      sizeQuote := sizeQuote
      entryPrice := token.referencePrice
      exitPrice := expectedExitPrice
      liquidityQuoteDepth := depthProxy token 50 }
  let feeDragQuote := buy.fees.totalQuote + sell.fees.totalQuote
  let slippageDragQuote := sizeQuote * (buy.fill.slippage + sell.fill.slippage)
  let curveImpactQuote := sizeQuote * (buy.fill.priceImpact + sell.fill.priceImpact)
  let latencyDragQuote := sizeQuote *
    (1 - (features.decimal "latency_adjusted_trade_eligibility").getD (50 / 100)) * (10 / 100) *
      self.edge.latencySafetyMarginMultiplier
  let expectedFailedTxCostQuote := buy.fees.failedTransactionFeeQuote * weightedAverage
    [(features.decimalOrZero "fee_war_score", 60 / 100), (risk.dataQuality.score, 40 / 100)]
  let incrementalCostBuffer := (feeDragQuote + slippageDragQuote + curveImpactQuote) *
    max (self.edge.feeSafetyMarginMultiplier - 1) 0
  let minimumRequiredMovePct :=
    if 0 < sizeQuote then
      (feeDragQuote + slippageDragQuote + curveImpactQuote + latencyDragQuote +
        expectedFailedTxCostQuote) / sizeQuote
    else 1
  let expectedNetEdgeQuote :=
    simulatorNet - incrementalCostBuffer - latencyDragQuote - expectedFailedTxCostQuote
  let expectedNetEdgePct := if 0 < sizeQuote then expectedNetEdgeQuote / sizeQuote else 0
  { expectedPriceMovePct := expectedPriceMovePct
    expectedExitPrice := expectedExitPrice
    expectedHoldTimeMs := profile.maxHoldMs
    expectedFeeDragQuote := feeDragQuote
    expectedSlippageDragQuote := slippageDragQuote
    expectedLatencyDragQuote := latencyDragQuote
    expectedCurveImpactQuote := curveImpactQuote
    expectedExitImpactQuote := curveImpactQuote / 2
    expectedFailedTxCostQuote := expectedFailedTxCostQuote
    minimumRequiredMovePct := minimumRequiredMovePct
    expectedNetEdgeQuote := expectedNetEdgeQuote
    expectedNetEdgePct := expectedNetEdgePct
    confidence := confidence
    reasonCodes :=
      (if expectedNetEdgeQuote ≤ self.edge.minExpectedNetEdgeQuote then
        [.feeAdjustedEdgeTooLow] else []) ++
      (if expectedNetEdgePct ≤ self.edge.minExpectedNetEdgePct then
        [.feeAdjustedEdgeTooLow] else []) ++
      (if 60 / 100 ≤ features.decimalOrZero "fee_war_score" then
        [.feeWarTooExpensive] else []) }

/-! ## The cascade -/

/-- `DecisionEngine::exit_signal_for_strategy`. -/
def exitSignalForStrategy (self : DecisionEngine) (strategy : StrategyKind)
    (features : FeatureSnapshot) (risk : RiskAssessment) : Bool :=
  match strategy with
  | .launchMomentumScalp =>
    features.decimalOrZero "momentum_authenticity_score" < 15 / 100 ∨
      features.decimalOrZero "return_pct_30s" < 0
  | .holderGrowthContinuation =>
    features.decimalOrZero "holder_stickiness_score" < self.thresholds.minHolderStickinessScore ∨
      self.thresholds.maxProfitOverhangScore < features.decimalOrZero "profit_overhang_score" ∨
      55 / 100 < risk.topHolder.score
  | .sellAbsorptionBounce =>
    features.decimalOrZero "absorption_success_score" < 12 / 100 ∨
      55 / 100 < risk.fakeMomentum.score
  | .smartCapitalRotation =>
    features.decimalOrZero "smart_capital_rotation_score" < 10 / 100 ∨
      features.decimalOrZero "token_relative_strength_score" < 15 / 100
  | .organicSlowGrind =>
    features.decimalOrZero "organic_survival_score" < 25 / 100 ∨ 60 / 100 < risk.bundle.score
  | .defensiveNoTrade => true

/-- A branch of the cascade: the decision, its reason codes and its diagnostics. -/
structure Verdict where
  decision : TradeDecision
  reasonCodes : List ReasonCode := []
  diagnostics : List String := []

/-- The data gap block. -/
def dataGapStopped (risk : RiskAssessment) : Bool :=
  risk.dataQuality.recommendedLifecycleAction = .dataGapStop ∨ risk.discardPolicy = .dataGapStop

/-- The risk block: a score at its maximum or above. -/
def riskBlocked (self : DecisionEngine) (risk : RiskAssessment) : Bool :=
  self.thresholds.maxRugRisk ≤ risk.rug.score ∨
    self.thresholds.maxBundleRisk ≤ risk.bundle.score ∨
    self.thresholds.maxFakeMomentumRisk ≤ risk.fakeMomentum.score

/-- The data quality block. -/
def qualityBlocked (self : DecisionEngine) (features : FeatureSnapshot) : Bool :=
  features.decimalOrZero "data_quality_score" < self.thresholds.minDataQualityScore

/-- `min_fee_adjusted_edge_bps` as a fraction. -/
def minFeeAdjustedEdge (self : DecisionEngine) : Decimal :=
  self.thresholds.minFeeAdjustedEdgeBps / 10000

/-- The branch of an open position that no block has caught. -/
def evaluateOpenPosition (self : DecisionEngine) (token : TokenState)
    (features : FeatureSnapshot) (risk : RiskAssessment) (strategy : StrategyKind)
    (position : OpenPositionContext) (observedAt : OffsetDateTime) : Verdict :=
  let currentPnl :=
    position.sizeTokens * token.latestPrice - position.sizeQuote - position.entryFeesPaid
  let currentReturnPct :=
    if 0 < position.sizeQuote then currentPnl / position.sizeQuote else 0
  let profile := self.strategyProfile strategy
  let effectiveMaxHoldMs :=
    if token.shredDefense.shredExitArmedFlag then profile.maxHoldMs / 2 else profile.maxHoldMs
  let heldMs := (Duration.wholeMilliseconds (observedAt - position.entryTime)).toNat
  let trailingFloor :=
    if 0 < position.sizeQuote then
      position.maxFavorableExcursion / position.sizeQuote - profile.trailingStopPct
    else -profile.trailingStopPct
  if token.shredDefense.shredEmergencyExitTriggeredFlag then
    { decision := .emergencyExit
      reasonCodes := [.shredEmergencyExit]
      diagnostics := ["exit_by=shred_emergency_exit"] }
  else if token.shredDefense.shredExitArmedFlag then
    { decision := .hold
      reasonCodes := [.shredExitArmed]
      diagnostics :=
        ["armed_by=shred_exit_armed", "effective_max_hold_ms=" ++ toString effectiveMaxHoldMs] }
  else if 75 / 100 ≤ risk.rug.score ∨ 75 / 100 ≤ risk.fakeMomentum.score ∨
      80 / 100 ≤ risk.bundle.score then
    { decision := .emergencyExit
      diagnostics := ["exit_by=emergency_risk"] }
  else if profile.takeProfitPct ≤ currentReturnPct then
    { decision := .exit
      diagnostics := ["exit_by=take_profit value=" ++ currentReturnPct.display ++
        " threshold=" ++ profile.takeProfitPct.display] }
  else if currentReturnPct ≤ -profile.stopLossPct then
    { decision := .exit
      diagnostics := ["exit_by=stop_loss value=" ++ currentReturnPct.display ++
        " threshold=-" ++ profile.stopLossPct.display] }
  else if 0 < position.maxFavorableExcursion ∧ currentReturnPct ≤ trailingFloor then
    { decision := .exit
      diagnostics := ["exit_by=trailing_stop value=" ++ currentReturnPct.display ++
        " threshold=" ++ trailingFloor.display] }
  else if effectiveMaxHoldMs ≤ heldMs then
    { decision := .exit
      diagnostics := ["exit_by=max_hold held_ms=" ++ toString heldMs ++
        " threshold=" ++ toString effectiveMaxHoldMs] }
  else if self.exitSignalForStrategy strategy features risk then
    { decision := .exit
      diagnostics := ["exit_by=strategy_decay strategy=" ++ strategy.name] }
  else { decision := .hold }

/-- The lifecycles whose tokens are no longer tracked when they have no position. -/
def trackingEnded : TokenLifecycle → Bool
  | .exitPending | .completed | .softDiscarded | .hardDiscarded | .rugArchive | .migrated
  | .dataGap => true
  | _ => false

/-- The branch of a token without a position that no block has caught. -/
def evaluateEntry (self : DecisionEngine) (token : TokenState) (features : FeatureSnapshot)
    (risk : RiskAssessment) (strategy : StrategyKind) (tradeEligibility : Decimal)
    (expectedEdge : ExpectedExecutableEdge) : Verdict :=
  let holderStickiness := features.decimalOrZero "holder_stickiness_score"
  let authenticity := features.decimalOrZero "momentum_authenticity_score"
  let profitOverhang := features.decimalOrZero "profit_overhang_score"
  let breadthReady : Bool :=
    3 ≤ token.tradeStats.uniqueBuyers.card ∨ 3 ≤ token.holderState.nonzeroHolderCount
  let bundleEntryLimit := max (self.thresholds.maxBundleRisk - 10 / 100) (30 / 100)
  let bundleConcentrated : Bool := .bundleConcentration ∈ risk.bundle.reasonCodes ∨
    .highBundleRisk ∈ risk.bundle.reasonCodes
  let fakeMomentumFlagged := risk.fakeMomentumFlagged
  let confidence := token.shredDefense.preconfirmationExitConfidence
  let shredLowConfidence : Bool := confidence < 55 / 100
  let shredEntryBlock :=
    (token.shredDefense.lastWarningLevel.map TentativeSellRiskLevel.armsExit).getD false
  let enterThreshold := self.thresholds.minTradeEligibilityScore
  let watchThreshold := max (enterThreshold / 2) (15 / 100)
  let edgeReady : Bool :=
    self.edge.minExpectedNetEdgeQuote < expectedEdge.expectedNetEdgeQuote ∧
      self.edge.minExpectedNetEdgePct < expectedEdge.expectedNetEdgePct ∧
      self.edge.minEdgeConfidence ≤ expectedEdge.confidence
  let enter : Bool := enterThreshold ≤ tradeEligibility ∧ breadthReady ∧
    risk.bundle.score < bundleEntryLimit ∧ ¬ bundleConcentrated ∧ ¬ fakeMomentumFlagged ∧
    (¬ shredEntryBlock ∨ shredLowConfidence) ∧
    self.thresholds.minHolderStickinessScore ≤ holderStickiness ∧
    self.thresholds.minMomentumAuthenticityScore ≤ authenticity ∧
    profitOverhang ≤ self.thresholds.maxProfitOverhangScore ∧ edgeReady
  let decision : TradeDecision :=
    if strategy ≠ .defensiveNoTrade ∧ enter then
      if self.execution.paperEnabled then .enterPaper else .watchDeep
    else if strategy = .defensiveNoTrade then .watchLight
    else if watchThreshold ≤ tradeEligibility ∧ self.edge.allowWatchWithoutTrade then .watchDeep
    else .watchLight
  let blockedByIntent : Bool := shredEntryBlock ∧ ¬ shredLowConfidence
  { decision := decision
    reasonCodes :=
      if blockedByIntent then
        .earlyIntentSellWarning ::
          (if token.shredDefense.activeSellerClassification.isSome then [.shredExitArmed]
          else [])
      else []
    diagnostics :=
      (if blockedByIntent then
        ["blocked_by=early_intent warning_level=" ++
          warningLevelText token.shredDefense.lastWarningLevel ++
          " confidence=" ++ confidence.display]
      else []) ++
      [String.intercalate " "
        ["eligibility=" ++ tradeEligibility.display,
          "enter_threshold=" ++ enterThreshold.display,
          "watch_threshold=" ++ watchThreshold.display,
          "breadth_ready=" ++ toString breadthReady,
          "bundle_score=" ++ risk.bundle.score.display,
          "bundle_entry_limit=" ++ bundleEntryLimit.display,
          "bundle_concentrated=" ++ toString bundleConcentrated,
          "fake_momentum_flagged=" ++ toString fakeMomentumFlagged,
          "holder_stickiness=" ++ holderStickiness.display,
          "min_holder_stickiness=" ++ self.thresholds.minHolderStickinessScore.display,
          "authenticity=" ++ authenticity.display,
          "min_authenticity=" ++ self.thresholds.minMomentumAuthenticityScore.display,
          "profit_overhang=" ++ profitOverhang.display,
          "max_profit_overhang=" ++ self.thresholds.maxProfitOverhangScore.display,
          "expected_edge_quote=" ++ expectedEdge.expectedNetEdgeQuote.display,
          "min_edge_quote=" ++ self.edge.minExpectedNetEdgeQuote.display,
          "expected_edge_pct=" ++ expectedEdge.expectedNetEdgePct.display,
          "min_edge_pct=" ++ self.edge.minExpectedNetEdgePct.display,
          "edge_confidence=" ++ expectedEdge.confidence.display,
          "min_edge_confidence=" ++ self.edge.minEdgeConfidence.display]] }

/-- The cascade of `DecisionEngine::evaluate`: the first block that applies decides. -/
def verdict (self : DecisionEngine) (token : TokenState) (features : FeatureSnapshot)
    (risk : RiskAssessment) (position : Option OpenPositionContext) (strategy : StrategyKind)
    (tradeEligibility feeEdge : Decimal) (expectedEdge : ExpectedExecutableEdge)
    (observedAt : OffsetDateTime) : Verdict :=
  if self.killSwitch then
    { decision := terminalDecision token
      reasonCodes := [.killSwitchActive]
      diagnostics := ["blocked_by=kill_switch"] }
  else if dataGapStopped risk then
    { decision := terminalOrEmergency token
      reasonCodes := [.dataGapActive]
      diagnostics := ["blocked_by=data_gap"] }
  else if self.riskBlocked risk then
    { decision := terminalOrEmergency token
      reasonCodes :=
        (if self.thresholds.maxRugRisk ≤ risk.rug.score then [.highRugRisk] else []) ++
        (if self.thresholds.maxBundleRisk ≤ risk.bundle.score then [.highBundleRisk] else []) ++
        (if self.thresholds.maxFakeMomentumRisk ≤ risk.fakeMomentum.score then
          [.highFakeMomentumRisk] else [])
      diagnostics := ["blocked_by=risk rug=" ++ risk.rug.score.display ++
        " bundle=" ++ risk.bundle.score.display ++ " fake=" ++ risk.fakeMomentum.score.display ++
        " thresholds=" ++ self.thresholds.maxRugRisk.display ++ "/" ++
        self.thresholds.maxBundleRisk.display ++ "/" ++
        self.thresholds.maxFakeMomentumRisk.display] }
  else if self.qualityBlocked features then
    { decision := .watchLight
      reasonCodes := [.dataGapActive]
      diagnostics := ["blocked_by=data_quality value=" ++
        (features.decimalOrZero "data_quality_score").display ++
        " threshold=" ++ self.thresholds.minDataQualityScore.display] }
  else if feeEdge < self.minFeeAdjustedEdge then
    { decision := if position.isSome then .exit else .watchDeep
      reasonCodes := [.feeAdjustedEdgeTooLow]
      diagnostics := ["blocked_by=fee_edge value=" ++ feeEdge.display ++
        " threshold=" ++ self.minFeeAdjustedEdge.display] }
  else
    match position with
    | some position =>
      self.evaluateOpenPosition token features risk strategy position observedAt
    | none =>
      if trackingEnded token.lifecycle then { decision := .stopTracking }
      else self.evaluateEntry token features risk strategy tradeEligibility expectedEdge

/-- `DecisionEngine::evaluate`. -/
def evaluate (self : DecisionEngine) (token : TokenState) (features : FeatureSnapshot)
    (risk : RiskAssessment) (position : Option OpenPositionContext)
    (configHash strategyVersion : String) (observedAt : OffsetDateTime) (decisionId : String) :
    DecisionOutcome :=
  let compositeScores := self.compositeScores token features risk
  let tradeEligibility := ((compositeScores.lookup "TradeEligibilityScore").map
    CompositeScore.regimeAdjustedScore).getD 0
  let feeEdge := ((compositeScores.lookup "FeeAdjustedEdgeScore").map
    CompositeScore.rawScore).getD 0
  let strategy :=
    match position with
    | some position => position.strategy
    | none => selectStrategy features risk compositeScores
  let expectedEdge := self.expectedExecutableEdge token features risk strategy
  let verdict := self.verdict token features risk position strategy tradeEligibility feeEdge
    expectedEdge observedAt
  { decisionEvent :=
      { decisionId := decisionId
        mint := token.mint
        decision := verdict.decision
        strategy := strategy.name
        featureSnapshotHash := features.vectorHash
        scoreVector := compositeScores.map (fun entry => (entry.1, entry.2.rawScore)) ++
          [("expected_net_edge_pct", expectedEdge.expectedNetEdgePct),
            ("expected_net_edge_quote", expectedEdge.expectedNetEdgeQuote)]
        riskVector :=
          [("bundle", risk.bundle.score), ("data_quality", risk.dataQuality.score),
            ("dev", risk.dev.score), ("fake_momentum", risk.fakeMomentum.score),
            ("rug", risk.rug.score), ("top_holder", risk.topHolder.score)]
        expectedNetEdgeQuote := expectedEdge.expectedNetEdgeQuote
        expectedNetEdgePct := expectedEdge.expectedNetEdgePct
        expectedEdgeConfidence := expectedEdge.confidence
        reasonCodes := orderedReasonCodes (verdict.reasonCodes ++
          (if verdict.decision = .enterPaper then [.enterPaper] else []) ++
          (if verdict.decision.isExit then [.exitPaper] else []) ++
          (if self.execution.liveEnabled then [] else [.liveDisabled]) ++ risk.reasonCodes)
        configHash := configHash
        strategyVersion := strategyVersion
        dataQualityScore := features.decimalOrZero "data_quality_score"
        noLookaheadTimestamp := observedAt }
    strategy := strategy
    positionSizeQuote := self.positionSizeQuote tradeEligibility token risk
    expectedEdge := expectedEdge
    compositeScores := compositeScores
    diagnostics := verdict.diagnostics }

end DecisionEngine

end PumpLaunchTrader
