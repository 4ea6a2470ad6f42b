import PumpLaunchTrader.Model.Decision

/-! # When an open position is sold

The cascade of `evaluate` decides by its first block that applies. Each block is read
off once; for a triggered emergency exit they give exactly when the position is sold. -/

namespace PumpLaunchTrader

namespace DecisionEngine

/-- The kill switch, a data gap stop or a risk maximum: the blocks that decide by the
lifecycle of the token. -/
def hardBlocked (engine : DecisionEngine) (risk : RiskAssessment) : Bool :=
  engine.killSwitch || dataGapStopped risk || engine.riskBlocked risk

/-! ## The blocks -/

section Blocks

variable (engine : DecisionEngine) (token : TokenState) (features : FeatureSnapshot)
  (risk : RiskAssessment) (position : Option OpenPositionContext) (strategy : StrategyKind)
  (tradeEligibility feeEdge : Decimal) (expectedEdge : ExpectedExecutableEdge)
  (observedAt : OffsetDateTime)

theorem decision_verdict_of_hardBlocked (h : engine.hardBlocked risk = true) :
    (engine.verdict token features risk position strategy tradeEligibility feeEdge expectedEdge
      observedAt).decision = terminalDecision token := by
  simp only [hardBlocked, Bool.or_eq_true] at h
  unfold verdict
  by_cases hkill : engine.killSwitch = true
  · simp only [hkill, if_true]
  · by_cases hgap : dataGapStopped risk = true
    · simp only [hkill, hgap, if_true]
      rfl
    · have hrisk : engine.riskBlocked risk = true := by
        rcases h with (h | h) | h
        · exact absurd h hkill
        · exact absurd h hgap
        · exact h
      simp only [hkill, hgap, hrisk, if_true]
      rfl

theorem decision_verdict_of_qualityBlocked (h : engine.hardBlocked risk = false)
    (hquality : engine.qualityBlocked features = true) :
    (engine.verdict token features risk position strategy tradeEligibility feeEdge expectedEdge
      observedAt).decision = .watchLight := by
  simp only [hardBlocked, Bool.or_eq_false_iff] at h
  obtain ⟨⟨hkill, hgap⟩, hrisk⟩ := h
  simp only [verdict, hkill, hgap, hrisk, hquality, if_true]
  rfl

/-- Past the blocks, too small an edge sells an open position. -/
theorem decision_verdict_of_feeEdge (held : OpenPositionContext)
    (h : engine.hardBlocked risk = false) (hquality : engine.qualityBlocked features = false)
    (hfee : feeEdge < engine.minFeeAdjustedEdge) :
    (engine.verdict token features risk (some held) strategy tradeEligibility feeEdge
      expectedEdge observedAt).decision = .exit := by
  simp only [hardBlocked, Bool.or_eq_false_iff] at h
  obtain ⟨⟨hkill, hgap⟩, hrisk⟩ := h
  simp only [verdict, hkill, hgap, hrisk, hquality, hfee, if_true]
  rfl

theorem verdict_of_open (held : OpenPositionContext) (h : engine.hardBlocked risk = false)
    (hquality : engine.qualityBlocked features = false)
    (hfee : ¬ feeEdge < engine.minFeeAdjustedEdge) :
    engine.verdict token features risk (some held) strategy tradeEligibility feeEdge
        expectedEdge observedAt =
      engine.evaluateOpenPosition token features risk strategy held observedAt := by
  simp only [hardBlocked, Bool.or_eq_false_iff] at h
  obtain ⟨⟨hkill, hgap⟩, hrisk⟩ := h
  simp only [verdict, hkill, hgap, hrisk, hquality, hfee, if_false]
  rfl

theorem evaluateOpenPosition_triggered (held : OpenPositionContext)
    (h : token.shredDefense.shredEmergencyExitTriggeredFlag = true) :
    (engine.evaluateOpenPosition token features risk strategy held observedAt).decision =
      .emergencyExit := by
  simp only [evaluateOpenPosition, h, if_true]

/-- The cascade on a triggered emergency exit, block by block. -/
theorem decision_verdict_triggered (held : OpenPositionContext)
    (h : token.shredDefense.shredEmergencyExitTriggeredFlag = true) :
    (engine.verdict token features risk (some held) strategy tradeEligibility feeEdge
        expectedEdge observedAt).decision =
      if engine.hardBlocked risk then terminalDecision token
      else if engine.qualityBlocked features then .watchLight
      else if feeEdge < engine.minFeeAdjustedEdge then .exit
      else .emergencyExit := by
  cases hhard : engine.hardBlocked risk with
  | true =>
      rw [if_pos rfl]
      exact engine.decision_verdict_of_hardBlocked _ _ _ _ _ _ _ _ _ hhard
  | false =>
      cases hquality : engine.qualityBlocked features with
      | true =>
          rw [if_neg Bool.false_ne_true, if_pos rfl]
          exact engine.decision_verdict_of_qualityBlocked _ _ _ _ _ _ _ _ _ hhard hquality
      | false =>
          rw [if_neg Bool.false_ne_true, if_neg Bool.false_ne_true]
          by_cases hfee : feeEdge < engine.minFeeAdjustedEdge
          · rw [if_pos hfee]
            exact engine.decision_verdict_of_feeEdge _ _ _ _ _ _ _ _ _ hhard hquality hfee
          · rw [if_neg hfee, engine.verdict_of_open _ _ _ _ _ _ _ _ _ hhard hquality hfee]
            exact engine.evaluateOpenPosition_triggered _ _ _ _ _ _ h

end Blocks

theorem isExit_terminalDecision (token : TokenState) :
    (terminalDecision token).isExit = true ↔ token.lifecycle = .inPosition := by
  unfold terminalDecision
  by_cases h : token.lifecycle = .inPosition
  · simp [h, TradeDecision.isExit]
  · simp [h, TradeDecision.isExit]

/-- Every decision of `evaluate` is one of the cascade. -/
theorem decision_evaluate (engine : DecisionEngine) (token : TokenState)
    (features : FeatureSnapshot) (risk : RiskAssessment)
    (position : Option OpenPositionContext) (configHash strategyVersion : String)
    (observedAt : OffsetDateTime) (decisionId : String) :
    ∃ strategy tradeEligibility feeEdge expectedEdge,
      (engine.evaluate token features risk position configHash strategyVersion observedAt
        decisionId).decisionEvent.decision =
      (engine.verdict token features risk position strategy tradeEligibility feeEdge
        expectedEdge observedAt).decision :=
  ⟨_, _, _, _, rfl⟩

/-- Under a hard block the lifecycle of the token decides, not its position. -/
theorem decision_evaluate_of_hardBlocked (engine : DecisionEngine) (token : TokenState)
    (features : FeatureSnapshot) {risk : RiskAssessment} (h : engine.hardBlocked risk = true)
    (position : Option OpenPositionContext) (configHash strategyVersion : String)
    (observedAt : OffsetDateTime) (decisionId : String) :
    (engine.evaluate token features risk position configHash strategyVersion observedAt
      decisionId).decisionEvent.decision = terminalDecision token := by
  obtain ⟨strategy, tradeEligibility, feeEdge, expectedEdge, hdecision⟩ :=
    engine.decision_evaluate token features risk position configHash strategyVersion observedAt
      decisionId
  rw [hdecision]
  exact engine.decision_verdict_of_hardBlocked _ _ _ _ _ _ _ _ _ h

/-! ## Concrete inputs -/

def sampleThresholds : StrategyThresholds :=
  { minFeeAdjustedEdgeBps := 100
    minDataQualityScore := 1 / 2
    maxBundleRisk := 3 / 4
    maxRugRisk := 17 / 20
    maxFakeMomentumRisk := 7 / 10 }

def sampleEngine : DecisionEngine :=
  { thresholds := sampleThresholds
    edge := {}
    execution :=
      { liveEnabled := false
        paperEnabled := true
        maxDailyLossQuote := 20
        maxPositionSizeQuote := 1 } }

/-- A snapshot whose only available feature is the data quality score. -/
def qualityFeatures (mint : PubkeyValue) (quality : Decimal) : FeatureSnapshot :=
  { mint := mint
    observedAt := unixEpoch
    values := fun featureId =>
      if featureId = "data_quality_score" then
        some { featureId := featureId, status := .available, value := some (.numeric quality) }
      else none
    vectorHash := "" }

/-- A snapshot whose data quality is below the minimum of `sampleThresholds`. -/
def poorFeatures : FeatureSnapshot := qualityFeatures ⟨"mint"⟩ (2 / 5)

/-- An assessment without any risk. -/
def calmRisk (mint : String) : RiskAssessment :=
  { mint := mint
    observedAt := unixEpoch
    rug := { score := 0 }
    bundle := { score := 0 }
    dev := { score := 0 }
    topHolder := { score := 0 }
    fakeMomentum := { score := 0 }
    dataQuality := { score := 0 }
    discardPolicy := .keep
    reasonCodes := [] }

def samplePosition : OpenPositionContext :=
  { strategy := .organicSlowGrind
    entryTime := unixEpoch
    entryPrice := 1
    sizeQuote := 1
    sizeTokens := 1
    entryFeesPaid := 0
    maxAdverseExcursion := 0
    maxFavorableExcursion := 0
    expectedEdgeQuote := 0 }

/-- An active token with a triggered emergency exit. -/
def triggeredToken : TokenState :=
  { TokenState.new ⟨"mint"⟩ .geyserProcessed with
    lifecycle := .activeDeep
    shredDefense := { shredEmergencyExitTriggeredFlag := true } }

/-! ## Triggered exits -/

/-- A triggered emergency exit sells the open position exactly when no hard block applies
and the data quality passes, or a hard block applies to a token in the `InPosition`
lifecycle. -/
theorem triggered_exit_iff (engine : DecisionEngine) (token : TokenState)
    (features : FeatureSnapshot) (risk : RiskAssessment) (held : OpenPositionContext)
    (configHash strategyVersion : String) (observedAt : OffsetDateTime) (decisionId : String)
    (h : token.shredDefense.shredEmergencyExitTriggeredFlag = true) :
    (engine.evaluate token features risk (some held) configHash strategyVersion observedAt
        decisionId).decisionEvent.decision.isExit = true ↔
      (engine.hardBlocked risk = true ∧ token.lifecycle = .inPosition) ∨
        (engine.hardBlocked risk = false ∧ engine.qualityBlocked features = false) := by
  obtain ⟨strategy, tradeEligibility, feeEdge, expectedEdge, hdecision⟩ :=
    engine.decision_evaluate token features risk (some held) configHash strategyVersion
      observedAt decisionId
  rw [hdecision, engine.decision_verdict_triggered _ _ _ _ _ _ _ _ _ h]
  cases hhard : engine.hardBlocked risk with
  | true =>
      rw [if_pos rfl, isExit_terminalDecision]
      simp
  | false =>
      cases hquality : engine.qualityBlocked features with
      | true => simp [TradeDecision.isExit]
      | false =>
          by_cases hfee : feeEdge < engine.minFeeAdjustedEdge
          · simp [hfee, TradeDecision.isExit]
          · simp [hfee, TradeDecision.isExit]

theorem triggered_exit_iff_sample :
    (sampleEngine.evaluate triggeredToken poorFeatures (calmRisk "mint")
        (some samplePosition) "" "" unixEpoch "").decisionEvent.decision.isExit = true ↔
      (sampleEngine.hardBlocked (calmRisk "mint") = true ∧
          triggeredToken.lifecycle = .inPosition) ∨
        (sampleEngine.hardBlocked (calmRisk "mint") = false ∧
          sampleEngine.qualityBlocked poorFeatures = false) :=
  triggered_exit_iff sampleEngine triggeredToken poorFeatures (calmRisk "mint")
    samplePosition "" "" unixEpoch "" rfl

/-- With a data quality below its minimum a triggered exit is only watched. -/
theorem triggered_exit_ignored : ¬ ∀ (engine : DecisionEngine) (token : TokenState)
    (features : FeatureSnapshot) (risk : RiskAssessment) (held : OpenPositionContext)
    (configHash strategyVersion : String) (observedAt : OffsetDateTime) (decisionId : String),
    token.shredDefense.shredEmergencyExitTriggeredFlag = true →
      (engine.evaluate token features risk (some held) configHash strategyVersion observedAt
        decisionId).decisionEvent.decision.isExit = true := by
  intro h
  have hexit := h sampleEngine triggeredToken poorFeatures (calmRisk "mint")
    samplePosition "" "" unixEpoch "" rfl
  have hwatch : (sampleEngine.evaluate triggeredToken poorFeatures
      (calmRisk "mint") (some samplePosition) "" "" unixEpoch "").decisionEvent.decision =
        .watchLight := by
    decide +kernel
  rw [hwatch] at hexit
  exact absurd hexit (by decide)

end DecisionEngine

end PumpLaunchTrader
