import PumpLaunchTrader.Model.Math

/-! # Configuration (`common::config`)

The sections read by the modelled components. -/

namespace PumpLaunchTrader

/-- A `u64` read as an `i64`. -/
def asI64 (n : ℕ) : ℤ := Int.bmod n (2 ^ 64)

structure TtlConfig where
  discoveredSecs : ℕ
  activeLightSecs : ℕ
  activeDeepSecs : ℕ
  discardedSummarySecs : ℕ
  researchSampleSecs : ℕ
  deriving DecidableEq, Repr

structure StrategyProfileConfig where
  takeProfitPct : Decimal := 0
  trailingStopPct : Decimal := 0
  stopLossPct : Decimal := 0
  maxHoldMs : ℕ := 0
  deriving DecidableEq, Repr

structure StrategyThresholds where
  minFeeAdjustedEdgeBps : ℕ
  minDataQualityScore : Decimal
  maxBundleRisk : Decimal
  maxRugRisk : Decimal
  maxFakeMomentumRisk : Decimal
  minTradeEligibilityScore : Decimal := 0
  minHolderStickinessScore : Decimal := 0
  minMomentumAuthenticityScore : Decimal := 0
  maxProfitOverhangScore : Decimal := 0
  launchMomentum : StrategyProfileConfig := {}
  holderGrowth : StrategyProfileConfig := {}
  absorptionBounce : StrategyProfileConfig := {}
  smartRotation : StrategyProfileConfig := {}
  organicSlowGrind : StrategyProfileConfig := {}
  deriving DecidableEq, Repr

structure EdgeConfig where
  minExpectedNetEdgeQuote : Decimal := 0
  minExpectedNetEdgePct : Decimal := 0
  minEdgeConfidence : Decimal := 0
  feeSafetyMarginMultiplier : Decimal := 0
  latencySafetyMarginMultiplier : Decimal := 0
  allowWatchWithoutTrade : Bool := true
  deriving DecidableEq, Repr

structure ExecutionConfig where
  liveEnabled : Bool
  paperEnabled : Bool
  maxDailyLossQuote : Decimal
  maxPositionSizeQuote : Decimal := 0
  deriving DecidableEq, Repr

structure EarlyIntentConfig where
  enabled : Bool := true
  deduplicateSources : Bool := true
  dedupAmountTolerancePct : Decimal := 0
  dedupSlotTolerance : ℕ := 0
  deriving DecidableEq, Repr

structure ShredExitCalibrationConfig where
  enabled : Bool := true
  paperOnly : Bool := true
  minSamplesBeforeAdapt : ℕ := 0
  maxThresholdAdjustmentPerHour : Decimal := 0
  falsePositiveRateLimit : Decimal := 0
  missedSellRateLimit : Decimal := 0
  persistCalibration : Bool := true
  deriving DecidableEq, Repr

structure ShredExitConfig where
  paperEnabled : Bool := true
  minDecodeConfidenceWarn : Decimal := 0
  minDecodeConfidenceArm : Decimal := 0
  minDecodeConfidencePaperExit : Decimal := 0
  warnImpactPct : Decimal := 0
  armImpactPct : Decimal := 0
  paperExitImpactPct : Decimal := 0
  minExpectedSavedLossQuote : Decimal := 0
  minEmergencyExitNetBenefitQuote : Decimal := 0
  minLatencyEdgeRatio : Decimal := 0
  allowArmWhenNetBenefitNegative : Bool := true
  allowEmergencyWhenNetBenefitNegative : Bool := false
  absorptionDowngradeEnabled : Bool := true
  absorptionDowngradeThreshold : Decimal := 0
  devSellExitThresholdPct : Decimal := 0
  topHolderExitThresholdPct : Decimal := 0
  bundleClusterExitThresholdPct : Decimal := 0
  sameSlotMultiSellEscalation : Bool := true
  tentativeReconciliationTtlMs : ℕ := 0
  allowPaperExitOnTentative : Bool := true
  calibration : ShredExitCalibrationConfig := {}
  deriving DecidableEq, Repr

end PumpLaunchTrader
