import PumpLaunchTrader.Lib.Digits
import PumpLaunchTrader.Model.Decision

/-! # Risk engine (`risk`)

Six scores are weighted averages of features; the discard policy is a cascade over them. The
decision engine reads a part of the assessment. -/

namespace PumpLaunchTrader.Risk

/-! ## Data -/

inductive RiskSeverity where
  | low | medium | high | critical
  deriving DecidableEq, Repr

structure RiskScore extends PumpLaunchTrader.RiskScore where
  name : String
  confidence : Decimal
  severity : RiskSeverity
  positiveEvidence : List String := []
  negativeEvidence : List String := []
  missingDataPenalty : Decimal
  deriving DecidableEq, Repr

structure RiskAssessment where
  mint : String
  observedAt : OffsetDateTime
  rug : RiskScore
  bundle : RiskScore
  dev : RiskScore
  topHolder : RiskScore
  fakeMomentum : RiskScore
  dataQuality : RiskScore
  discardPolicy : DiscardPolicyDecision
  overallScore : Decimal
  overallConfidence : Decimal
  reasonCodes : List ReasonCode
  deriving DecidableEq, Repr

/-- The part of an assessment that the decision engine reads. -/
def RiskAssessment.forDecision (self : RiskAssessment) : PumpLaunchTrader.RiskAssessment :=
  { mint := self.mint
    observedAt := self.observedAt
    rug := self.rug.toRiskScore
    bundle := self.bundle.toRiskScore
    dev := self.dev.toRiskScore
    topHolder := self.topHolder.toRiskScore
    fakeMomentum := self.fakeMomentum.toRiskScore
    dataQuality := self.dataQuality.toRiskScore
    discardPolicy := self.discardPolicy
    reasonCodes := self.reasonCodes }

structure CompactRiskSummary where
  mint : String
  discardPolicy : DiscardPolicyDecision
  overallScore : Decimal
  reasonCodes : List ReasonCode
  deriving DecidableEq, Repr

structure RiskEngine where
  hardDiscardRugThreshold : Decimal := 85 / 100
  softDiscardBundleThreshold : Decimal := 75 / 100
  topHolderThreshold : Decimal := 75 / 100
  fakeMomentumThreshold : Decimal := 70 / 100
  minDataQuality : Decimal := 50 / 100
  deriving DecidableEq, Repr

/-! ## Helpers -/

def decimal (features : FeatureSnapshot) (featureId : String) : Decimal :=
  features.decimalOrZero featureId

def boolDecimal (features : FeatureSnapshot) (featureId : String) : Decimal :=
  features.decimalOrZero featureId

def severity (score : Decimal) : RiskSeverity :=
  if 85 / 100 ≤ score then .critical
  else if 65 / 100 ≤ score then .high
  else if 35 / 100 ≤ score then .medium
  else .low

def missingPenalty (features : FeatureSnapshot) (featureIds : List String) : Decimal :=
  let missing := featureIds.countP fun featureId =>
    (features.value featureId).all fun value => value.status ≠ .available
  if featureIds = [] then 0 else (missing : ℕ) / (featureIds.length : Decimal)

def normalizeCount (value : Decimal) (cap : ℕ) : Decimal :=
  clamp01 (value / (max cap 1 : ℕ))

/-- `dedup_reasons`. -/
def dedupReasons (reasons : List ReasonCode) : List ReasonCode := orderedReasonCodes reasons

/-- The text of `{:.4}`, which cuts off the digits after the fourth. -/
def fourDigits (value : Decimal) : String :=
  let scaled := (|value| * 10 ^ 4).floor.toNat
  (if value < 0 then "-" else "") ++ toString (scaled / 10 ^ 4) ++ "." ++
    Labels.zeroPadded 4 (scaled % 10 ^ 4)

namespace RiskEngine

/-! ## Scores -/

/-- `RiskEngine::rug_risk`. -/
def rugRisk (features : FeatureSnapshot) : RiskScore :=
  let devSoldFlag := boolDecimal features "dev_sold_flag"
  let devSoldPct := decimal features "dev_sold_pct"
  let launchCollapse := boolDecimal features "price_drop_70pct_from_launch_within_5m"
  let athCollapse := clamp01 ((decimal features "drawdown_from_ath_pct" - 70 / 100) / (30 / 100))
  let noBuys := boolDecimal features "no_buys_for_x_seconds"
  let holderStalled := boolDecimal features "holder_growth_stalled"
  let sellDominance := boolDecimal features "sells_dominate_after_launch"
  let concentration := decimal features "concentration_risk_score"
  let dataQualityPenalty := 1 - decimal features "data_quality_score"
  let shredWarningLevel := decimal features "shred_sell_warning_level"
  let shredExitTriggered := boolDecimal features "shred_emergency_exit_triggered_flag"
  let maliciousSellIntent := decimal features "malicious_sell_intent_score"
  let devSold : Bool := 0 < devSoldPct ∨ 0 < devSoldFlag
  let collapsed : Bool := 0 < launchCollapse ∨ 5 / 10 ≤ athCollapse
  let buysGone : Bool := 0 < noBuys
  let sellPressure : Bool := 3 ≤ shredWarningLevel ∨ 0 < shredExitTriggered
  let score := clamp01 (weightedAverage
    [(decimal features "rug_probability_score", 35 / 100),
      (max devSoldPct devSoldFlag, 20 / 100),
      (max launchCollapse athCollapse, 20 / 100),
      (holderStalled, 8 / 100),
      (sellDominance, 7 / 100),
      (concentration, 5 / 100),
      (dataQualityPenalty, 5 / 100),
      (maliciousSellIntent, 8 / 100),
      (max shredExitTriggered (shredWarningLevel / 4), 10 / 100)])
  { name := "rug"
    score := score
    confidence := max (decimal features "rug_confidence") (5 / 10)
    severity := severity score
    reasonCodes := dedupReasons
      ((if devSold then [.devSoldEarly] else []) ++
        (if collapsed then [.priceCollapse70] else []) ++
        (if buysGone then [.noBuyGap] else []) ++
        (if sellPressure then [.shredSellImpactHigh] else []) ++
        (if 7 / 10 ≤ score then [.highRugRisk] else []))
    positiveEvidence := if devSold then [] else ["developer has not sold"]
    negativeEvidence :=
      (if devSold then ["developer sold " ++ fourDigits devSoldPct] else []) ++
      (if collapsed then ["price dropped more than 70% from launch inside first 5m"] else []) ++
      (if buysGone then ["buy flow disappeared after launch"] else []) ++
      (if sellPressure then ["preconfirmation malicious sell pressure is elevated"] else [])
    missingDataPenalty := missingPenalty features ["rug_probability_score", "dev_sold_pct"]
    recommendedLifecycleAction :=
      if collapsed ∨ 9 / 10 ≤ score then .hardDiscard
      else if 75 / 100 ≤ score then .rugArchive
      else if 60 / 100 ≤ score then .softDiscard
      else .keepWatching }

/-- `RiskEngine::bundle_risk`. -/
def bundleRisk (features : FeatureSnapshot) : RiskScore :=
  let sameSlot := decimal features "same_slot_multi_buy_count"
  let identical := decimal features "first_n_buys_identical_amount_count"
  let sameFunder := decimal features "first_n_buys_same_funder_count"
  let bundleTop := decimal features "bundle_wallets_top_holder_pct"
  let shredBundle := decimal features "tentative_sell_from_bundle_count"
  let shredWarning := decimal features "shred_sell_warning_level"
  let score := clamp01 (weightedAverage
    [(decimal features "bundle_risk_score", 50 / 100),
      (normalizeCount sameSlot 8, 15 / 100),
      (normalizeCount identical 8, 15 / 100),
      (normalizeCount sameFunder 8, 10 / 100),
      (bundleTop, 10 / 100),
      (normalizeCount shredBundle 4, 15 / 100),
      (shredWarning / 4, 10 / 100)])
  { name := "bundle"
    score := score
    confidence := max (decimal features "bundle_confidence") (5 / 10)
    severity := severity score
    reasonCodes := dedupReasons
      ((if 0 < sameFunder then [.bundleConcentration] else []) ++
        (if 0 < shredBundle then [.shredBundleExitWarning] else []) ++
        (if 40 / 100 ≤ score then [.highBundleRisk] else []))
    negativeEvidence :=
      (if 0 < sameFunder then ["first buyers share funding sources"] else []) ++
      (if 0 < shredBundle then ["bundle cluster showed tentative exit pressure"] else [])
    missingDataPenalty := missingPenalty features ["bundle_risk_score"]
    recommendedLifecycleAction :=
      if 85 / 100 ≤ score then .hardDiscard
      else if 70 / 100 ≤ score then .softDiscard
      else .keepWatching }

/-- `RiskEngine::dev_risk`. -/
def devRisk (token : TokenState) (features : FeatureSnapshot) : RiskScore :=
  let soldFlag := boolDecimal features "dev_sold_flag"
  let sellPct := decimal features "dev_sold_pct"
  let creatorTop1 := boolDecimal features "creator_is_top1_holder"
  let retainedSupply := decimal features "creator_retained_supply_pct"
  let launchesLastHour := decimal features "creator_launches_last_1h"
  let reusedPayer := boolDecimal features "creator_reuses_same_payer"
  let spamWave := boolDecimal features "creator_launching_spam_wave_flag"
  let clusterPressure : Decimal :=
    if token.developerState.relatedClusterId.isSome then 1 / 10 else 0
  let tentativeDevSells := decimal features "tentative_sell_from_dev_count"
  let shredWarning := decimal features "shred_sell_warning_level"
  let sold : Bool := 0 < sellPct ∨ 0 < soldFlag
  let score := clamp01 (weightedAverage
    [(max sellPct soldFlag, 40 / 100),
      (creatorTop1, 15 / 100),
      (retainedSupply, 15 / 100),
      (normalizeCount launchesLastHour 5, 10 / 100),
      (reusedPayer, 10 / 100),
      (spamWave, 10 / 100),
      (clusterPressure, 10 / 100),
      (normalizeCount tentativeDevSells 3, 20 / 100),
      (shredWarning / 4, 10 / 100)])
  { name := "dev"
    score := score
    confidence := 75 / 100
    severity := severity score
    reasonCodes := dedupReasons
      ((if sold then [.devSoldEarly] else []) ++
        (if 0 < tentativeDevSells then [.shredDevSellWarning] else []))
    positiveEvidence :=
      if sellPct = 0 ∧ soldFlag = 0 then ["creator patience remains intact"] else []
    negativeEvidence :=
      (if sold then ["creator is distributing tokens"] else []) ++
      (if 0 < tentativeDevSells then
        ["creator sell intent appeared before canonical confirmation"] else [])
    missingDataPenalty := missingPenalty features ["dev_sold_pct"]
    recommendedLifecycleAction := if 75 / 100 ≤ score then .softDiscard else .keepWatching }

/-- `RiskEngine::top_holder_risk`. -/
def topHolderRisk (features : FeatureSnapshot) : RiskScore :=
  let top1 := decimal features "top1_holder_pct"
  let top5 := decimal features "top5_holder_pct"
  let oneWallet := boolDecimal features "one_wallet_controls_market_flag"
  let concentration := decimal features "concentration_risk_score"
  let profitOverhang := decimal features "profit_overhang_score"
  let freeRollDump := decimal features "free_roll_dump_risk_score"
  let sameFunder := decimal features "top_holders_same_funder_pct"
  let sameFingerprint := decimal features "top_holders_same_client_fingerprint_pct"
  let activeSelling := boolDecimal features "price_up_top_holders_selling"
  let tentativeTopHolderSells := decimal features "tentative_sell_from_top_holder_count"
  let dumping : Bool := 0 < oneWallet ∨ 0 < activeSelling ∨ 55 / 100 ≤ top1
  let score := clamp01 (weightedAverage
    [(concentration, 30 / 100),
      (profitOverhang, 20 / 100),
      (freeRollDump, 15 / 100),
      (sameFunder, 10 / 100),
      (sameFingerprint, 10 / 100),
      (activeSelling, 10 / 100),
      (top1, 5 / 100),
      (normalizeCount tentativeTopHolderSells 4, 15 / 100)])
  { name := "top_holder"
    score := score
    confidence := 8 / 10
    severity := severity score
    reasonCodes := dedupReasons
      ((if dumping then [.topHolderDump] else []) ++
        (if 0 < tentativeTopHolderSells then [.shredTopHolderSellWarning] else []) ++
        (if 7 / 10 ≤ score then [.highTopHolderRisk] else []))
    positiveEvidence :=
      if score < 35 / 100 then ["top holders are not showing coordinated exit pressure"] else []
    negativeEvidence :=
      ["top1 " ++ fourDigits top1 ++ " top5 " ++ fourDigits top5,
        "profit_overhang " ++ fourDigits profitOverhang]
    missingDataPenalty := missingPenalty features
      ["top1_holder_pct", "profit_overhang_score", "free_roll_dump_risk_score"]
    recommendedLifecycleAction := if 8 / 10 ≤ score then .softDiscard else .keepWatching }

/-- `RiskEngine::fake_momentum_risk`. -/
def fakeMomentumRisk (features : FeatureSnapshot) : RiskScore :=
  let verticalWithoutGrowth := boolDecimal features "vertical_move_without_holder_growth"
  let verticalWithoutBuyers := boolDecimal features "vertical_move_without_unique_buyers"
  let noRetailBreadth := boolDecimal features "price_up_no_retail_breadth"
  let lowAuthenticity := 1 - decimal features "momentum_authenticity_score"
  let topHolderSelling := boolDecimal features "price_up_top_holders_selling"
  let bundleSelling := boolDecimal features "price_up_bundle_selling"
  let devSelling := boolDecimal features "price_up_dev_selling"
  let devSoldFlag := boolDecimal features "dev_sold_flag"
  let fewLargeBuys := boolDecimal features "price_up_only_one_or_two_large_buys"
  let concentratedBuys := boolDecimal features "price_up_buy_size_concentration_high"
  let exitTrap := decimal features "exit_liquidity_trap_score"
  let top1 := decimal features "top1_holder_pct"
  let absorption := decimal features "absorption_success_score"
  let stickiness := decimal features "holder_stickiness_score"
  let shredWarning := decimal features "shred_sell_warning_level"
  let rugOverlap := decimal features "rug_probability_score" / 2
  let concentrationExtreme := clamp01 ((top1 - 65 / 100) / (35 / 100))
  let flagged : Bool := 0 < verticalWithoutGrowth ∨ 0 < verticalWithoutBuyers ∨
    0 < noRetailBreadth ∨ 0 < topHolderSelling ∨ 0 < bundleSelling ∨ 0 < devSelling ∨
    0 < concentratedBuys ∨ (0 < concentrationExtreme ∧ 0 < devSoldFlag)
  let score := clamp01
    (weightedAverage
      [(verticalWithoutGrowth, 18 / 100),
        (verticalWithoutBuyers, 15 / 100),
        (noRetailBreadth, 15 / 100),
        (topHolderSelling, 15 / 100),
        (bundleSelling, 10 / 100),
        (devSelling, 10 / 100),
        (fewLargeBuys, 7 / 100),
        (concentratedBuys, 5 / 100),
        (exitTrap, 8 / 100),
        (concentrationExtreme, 7 / 100),
        (devSoldFlag, 5 / 100),
        (lowAuthenticity, 7 / 100),
        (rugOverlap, 5 / 100),
        (shredWarning / 4, 6 / 100)] -
      weightedAverage [(absorption, 20 / 100), (stickiness, 12 / 100)])
  { name := "fake_momentum"
    score := score
    confidence := 7 / 10
    severity := severity score
    reasonCodes := dedupReasons (if flagged then [.highFakeMomentumRisk] else [])
    positiveEvidence :=
      if score < 3 / 10 then ["price strength is confirmed by breadth or absorption"] else []
    negativeEvidence := ["price action lacks enough supporting breadth or authenticity"]
    missingDataPenalty := missingPenalty features
      ["vertical_move_without_holder_growth", "momentum_authenticity_score"]
    recommendedLifecycleAction := if 8 / 10 ≤ score then .softDiscard else .keepWatching }

/-- The largest of the gap flags. -/
def explicitGap (features : FeatureSnapshot) : Decimal :=
  let disagreement := boolDecimal features "source_disagreement_flag"
  let shredStale := boolDecimal features "shred_signal_stale_flag"
  max (max (max (max (boolDecimal features "account_update_gap_flag")
    (boolDecimal features "transaction_stream_gap_flag"))
    (boolDecimal features "slot_status_gap_flag")) disagreement) shredStale

/-- `RiskEngine::data_quality_risk`. -/
def dataQualityRisk (self : RiskEngine) (features : FeatureSnapshot) : RiskScore :=
  let quality := decimal features "data_quality_score"
  let criticalMissing := normalizeCount (decimal features "critical_feature_missing_count") 5
  let disagreement := boolDecimal features "source_disagreement_flag"
  let tradeAllowed := boolDecimal features "trade_allowed_data_quality_flag"
  let shredStale := boolDecimal features "shred_signal_stale_flag"
  let explicitGap := explicitGap features
  let gapActive : Bool := tradeAllowed = 0 ∧ 0 < explicitGap
  let score := clamp01 (weightedAverage
    [(1 - quality, 60 / 100),
      (criticalMissing, 25 / 100),
      (disagreement, 15 / 100),
      (shredStale, 10 / 100)])
  { name := "data_quality"
    score := score
    confidence := 9 / 10
    severity := severity score
    reasonCodes := dedupReasons (if gapActive then [.dataGapActive] else [])
    positiveEvidence :=
      if 0 < tradeAllowed then ["data quality is good enough for decision support"] else []
    negativeEvidence :=
      if gapActive then ["critical feature completeness or source confidence too low"]
      else if tradeAllowed = 0 then
        ["feature completeness is still building; keep watching but do not force a terminal " ++
          "data-gap state yet"]
      else []
    missingDataPenalty := missingPenalty features
      ["data_quality_score", "critical_feature_missing_count"]
    recommendedLifecycleAction :=
      if 0 < explicitGap ∧ (quality < self.minDataQuality ∨ tradeAllowed = 0) then .dataGapStop
      else .keepWatching }

/-! ## Assessment -/

/-- `RiskEngine::discard_policy`. -/
def discardPolicy (self : RiskEngine)
    (rug bundle dev topHolder fakeMomentum dataQuality : RiskScore) : DiscardPolicyDecision :=
  if dataQuality.recommendedLifecycleAction = .dataGapStop then .dataGapStop
  else if self.hardDiscardRugThreshold ≤ rug.score ∨ .priceCollapse70 ∈ rug.reasonCodes then
    if 6 / 10 ≤ dev.score then .rugArchive else .hardDiscard
  else if .devSoldEarly ∈ dev.reasonCodes ∧
      (30 / 100 ≤ topHolder.score ∨ 40 / 100 ≤ fakeMomentum.score ∨ 25 / 100 ≤ rug.score) then
    .softDiscard
  else if self.softDiscardBundleThreshold ≤ bundle.score ∨
      self.topHolderThreshold ≤ topHolder.score ∨
      self.fakeMomentumThreshold ≤ fakeMomentum.score then
    .softDiscard
  else if 60 / 100 ≤ rug.score ∨ 65 / 100 ≤ dev.score then .researchSample
  else .keep

/-- The reason that a policy adds to those of the scores. -/
def policyReasons : DiscardPolicyDecision → List ReasonCode
  | .softDiscard => [.softDiscarded]
  | .hardDiscard => [.hardDiscarded]
  | .dataGapStop => [.dataGapActive]
  | .rugArchive | .keep | .researchSample => []

/-- `RiskEngine::evaluate`. -/
def evaluate (self : RiskEngine) (token : TokenState) (features : FeatureSnapshot)
    (observedAt : OffsetDateTime) : RiskAssessment :=
  let rug := rugRisk features
  let bundle := bundleRisk features
  let dev := devRisk token features
  let topHolder := topHolderRisk features
  let fakeMomentum := fakeMomentumRisk features
  let dataQuality := self.dataQualityRisk features
  let discardPolicy := self.discardPolicy rug bundle dev topHolder fakeMomentum dataQuality
  { mint := token.mint.text
    observedAt := observedAt
    rug := rug
    bundle := bundle
    dev := dev
    topHolder := topHolder
    fakeMomentum := fakeMomentum
    dataQuality := dataQuality
    discardPolicy := discardPolicy
    overallScore := clamp01 (weightedAverage
      [(rug.score, 30 / 100), (bundle.score, 15 / 100), (dev.score, 15 / 100),
        (topHolder.score, 15 / 100), (fakeMomentum.score, 15 / 100),
        (dataQuality.score, 10 / 100)])
    overallConfidence := weightedAverage
      [(rug.confidence, 30 / 100), (bundle.confidence, 15 / 100), (dev.confidence, 15 / 100),
        (topHolder.confidence, 15 / 100), (fakeMomentum.confidence, 15 / 100),
        (dataQuality.confidence, 10 / 100)]
    reasonCodes := orderedReasonCodes
      (rug.reasonCodes ++ bundle.reasonCodes ++ dev.reasonCodes ++ topHolder.reasonCodes ++
        fakeMomentum.reasonCodes ++ dataQuality.reasonCodes ++ policyReasons discardPolicy) }

def compactSummary (assessment : RiskAssessment) : CompactRiskSummary :=
  { mint := assessment.mint
    discardPolicy := assessment.discardPolicy
    overallScore := assessment.overallScore
    reasonCodes := assessment.reasonCodes }

end RiskEngine

end PumpLaunchTrader.Risk
