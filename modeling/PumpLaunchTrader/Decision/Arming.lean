import PumpLaunchTrader.Decision.Exits

/-! # Armed exits

Arming halves the longest holding time in `evaluate`, but the branch of an armed token
holds before any exit is considered. What an unarmed token would be sold on is therefore
exactly what arming delays. -/

namespace PumpLaunchTrader

/-- A token with its exit armed or not, and all else the same. -/
def TokenState.withExitArmed (token : TokenState) (armed : Bool) : TokenState :=
  { token with shredDefense := { token.shredDefense with shredExitArmedFlag := armed } }

namespace OpenPositionContext

/-- The return of the position at the latest price, as a fraction of its size. -/
def returnPct (held : OpenPositionContext) (token : TokenState) : Decimal :=
  if 0 < held.sizeQuote then
    (held.sizeTokens * token.latestPrice - held.sizeQuote - held.entryFeesPaid) / held.sizeQuote
  else 0

/-- The return below which the trailing stop sells. -/
def trailingFloor (held : OpenPositionContext) (profile : StrategyProfileConfig) : Decimal :=
  if 0 < held.sizeQuote then
    held.maxFavorableExcursion / held.sizeQuote - profile.trailingStopPct
  else -profile.trailingStopPct

/-- How long the position is held, in milliseconds. -/
def heldMs (held : OpenPositionContext) (observedAt : OffsetDateTime) : ℕ :=
  (Duration.wholeMilliseconds (observedAt - held.entryTime)).toNat

end OpenPositionContext

namespace DecisionEngine

/-- Some exit of the cascade applies to the open position of an unarmed token. -/
def exitDue (engine : DecisionEngine) (token : TokenState) (features : FeatureSnapshot)
    (risk : RiskAssessment) (held : OpenPositionContext) (observedAt : OffsetDateTime) : Prop :=
  let profile := engine.strategyProfile held.strategy
  (75 / 100 ≤ risk.rug.score ∨ 75 / 100 ≤ risk.fakeMomentum.score ∨
      80 / 100 ≤ risk.bundle.score) ∨
    profile.takeProfitPct ≤ held.returnPct token ∨
    held.returnPct token ≤ -profile.stopLossPct ∨
    (0 < held.maxFavorableExcursion ∧ held.returnPct token ≤ held.trailingFloor profile) ∨
    profile.maxHoldMs ≤ held.heldMs observedAt ∨
    engine.exitSignalForStrategy held.strategy features risk = true

/-- Half of the longest holding time has passed. -/
def halfHoldPassed (engine : DecisionEngine) (held : OpenPositionContext)
    (observedAt : OffsetDateTime) : Prop :=
  (engine.strategyProfile held.strategy).maxHoldMs / 2 < held.heldMs observedAt

/-- The score of the edge after fees that `evaluate` compares with its minimum. -/
def feeEdge (engine : DecisionEngine) (token : TokenState) (features : FeatureSnapshot)
    (risk : RiskAssessment) : Decimal :=
  (engine.feeAdjustedEdgeScore token features risk).rawScore

/-! ## The branch of an open position -/

section OpenPosition

variable (engine : DecisionEngine) (token : TokenState) (features : FeatureSnapshot)
  (risk : RiskAssessment) (held : OpenPositionContext) (observedAt : OffsetDateTime)

theorem isExit_evaluateOpenPosition_unarmed
    (htriggered : token.shredDefense.shredEmergencyExitTriggeredFlag = false)
    (harmed : token.shredDefense.shredExitArmedFlag = false) :
    (engine.evaluateOpenPosition token features risk held.strategy held
        observedAt).decision.isExit = true ↔
      engine.exitDue token features risk held observedAt := by
  simp only [evaluateOpenPosition, htriggered, harmed, Bool.false_eq_true, if_false]
  simp only [exitDue, OpenPositionContext.returnPct, OpenPositionContext.trailingFloor,
    OpenPositionContext.heldMs]
  -- the returns are conditionals themselves: only those of the cascade are split
  generalize (if 0 < held.sizeQuote then
    (held.sizeTokens * token.latestPrice - held.sizeQuote - held.entryFeesPaid) / held.sizeQuote
    else 0) = returnPct
  generalize (if 0 < held.sizeQuote then held.maxFavorableExcursion / held.sizeQuote -
    (engine.strategyProfile held.strategy).trailingStopPct
    else -(engine.strategyProfile held.strategy).trailingStopPct) = trailingFloor
  split
  · next hrisk => exact iff_of_true rfl (Or.inl hrisk)
  · next hrisk =>
      rw [or_iff_right hrisk]
      split
      · next hprofit => exact iff_of_true rfl (Or.inl hprofit)
      · next hprofit =>
          rw [or_iff_right hprofit]
          split
          · next hloss => exact iff_of_true rfl (Or.inl hloss)
          · next hloss =>
              rw [or_iff_right hloss]
              split
              · next htrailing => exact iff_of_true rfl (Or.inl htrailing)
              · next htrailing =>
                  rw [or_iff_right htrailing]
                  split
                  · next hhold => exact iff_of_true rfl (Or.inl hhold)
                  · next hhold =>
                      rw [or_iff_right hhold]
                      split
                      · next hdecay => exact iff_of_true rfl hdecay
                      · next hdecay => exact iff_of_false (by decide) hdecay

/-- An armed token holds, whatever its price, its risk and the time. -/
theorem evaluateOpenPosition_armed
    (htriggered : token.shredDefense.shredEmergencyExitTriggeredFlag = false)
    (harmed : token.shredDefense.shredExitArmedFlag = true) :
    (engine.evaluateOpenPosition token features risk held.strategy held observedAt).decision =
      .hold := by
  simp only [evaluateOpenPosition, htriggered, harmed, Bool.false_eq_true, if_false, if_true]

end OpenPosition

/-! ## The whole cascade -/

section Cascade

variable (engine : DecisionEngine) (token : TokenState) (features : FeatureSnapshot)
  (risk : RiskAssessment) (held : OpenPositionContext) (configHash strategyVersion : String)
  (observedAt : OffsetDateTime) (decisionId : String)

/-- An open position is judged by its own strategy and the edge after fees. -/
theorem decision_evaluate_open :
    ∃ tradeEligibility expectedEdge,
      (engine.evaluate token features risk (some held) configHash strategyVersion observedAt
        decisionId).decisionEvent.decision =
      (engine.verdict token features risk (some held) held.strategy tradeEligibility
        (engine.feeEdge token features risk) expectedEdge observedAt).decision :=
  ⟨_, _, rfl⟩

/-- When an open position is sold, block by block. -/
theorem isExit_evaluate_open :
    (engine.evaluate token features risk (some held) configHash strategyVersion observedAt
        decisionId).decisionEvent.decision.isExit = true ↔
      if engine.hardBlocked risk then token.lifecycle = .inPosition
      else if engine.qualityBlocked features then False
      else engine.feeEdge token features risk < engine.minFeeAdjustedEdge ∨
        (engine.evaluateOpenPosition token features risk held.strategy held
          observedAt).decision.isExit = true := by
  obtain ⟨tradeEligibility, expectedEdge, hdecision⟩ :=
    engine.decision_evaluate_open token features risk held configHash strategyVersion
      observedAt decisionId
  rw [hdecision]
  cases hhard : engine.hardBlocked risk with
  | true =>
      rw [engine.decision_verdict_of_hardBlocked _ _ _ _ _ _ _ _ _ hhard, if_pos rfl]
      exact isExit_terminalDecision token
  | false =>
      rw [if_neg Bool.false_ne_true]
      cases hquality : engine.qualityBlocked features with
      | true =>
          rw [engine.decision_verdict_of_qualityBlocked _ _ _ _ _ _ _ _ _ hhard hquality,
            if_pos rfl]
          exact iff_of_false (by decide) not_false
      | false =>
          rw [if_neg Bool.false_ne_true]
          by_cases hfee : engine.feeEdge token features risk < engine.minFeeAdjustedEdge
          · rw [engine.decision_verdict_of_feeEdge _ _ _ _ _ _ _ _ _ hhard hquality hfee]
            exact iff_of_true rfl (Or.inl hfee)
          · rw [engine.verdict_of_open _ _ _ _ _ _ _ _ _ hhard hquality hfee,
              or_iff_right hfee]

end Cascade

/-! ## Arming and the time of the exit -/

/-- Arming delays no exit of this position, and an armed position is sold once half of its
longest holding time has passed. -/
def ArmingSound (engine : DecisionEngine) (token : TokenState) (features : FeatureSnapshot)
    (risk : RiskAssessment) (held : OpenPositionContext) (configHash strategyVersion : String)
    (observedAt : OffsetDateTime) (decisionId : String) : Prop :=
  let sold := fun armed : Bool =>
    (engine.evaluate (token.withExitArmed armed) features risk (some held) configHash
      strategyVersion observedAt decisionId).decisionEvent.decision.isExit = true
  (sold false → sold true) ∧ (engine.halfHoldPassed held observedAt → sold true)

/-- Arming is sound exactly when the armed branch is not reached, or is reached before half
of the longest holding time on a position that no exit applies to. The blocks above that
branch sell alike in both cases, so under them only the time counts. -/
theorem armingSound_iff (engine : DecisionEngine) (token : TokenState)
    (features : FeatureSnapshot) (risk : RiskAssessment) (held : OpenPositionContext)
    (configHash strategyVersion : String) (observedAt : OffsetDateTime) (decisionId : String) :
    ArmingSound engine token features risk held configHash strategyVersion observedAt
        decisionId ↔
      if engine.hardBlocked risk then
        token.lifecycle = .inPosition ∨ ¬ engine.halfHoldPassed held observedAt
      else if engine.qualityBlocked features then ¬ engine.halfHoldPassed held observedAt
      else engine.feeEdge token features risk < engine.minFeeAdjustedEdge ∨
        token.shredDefense.shredEmergencyExitTriggeredFlag = true ∨
        (¬ engine.exitDue token features risk held observedAt ∧
          ¬ engine.halfHoldPassed held observedAt) := by
  have hlifecycle : ∀ armed, (token.withExitArmed armed).lifecycle = token.lifecycle :=
    fun _ => rfl
  have hedge : ∀ armed, engine.feeEdge (token.withExitArmed armed) features risk =
      engine.feeEdge token features risk := fun _ => rfl
  simp only [ArmingSound, isExit_evaluate_open, hlifecycle, hedge]
  cases engine.hardBlocked risk with
  | true => simp only [if_true]; tauto
  | false =>
      cases engine.qualityBlocked features with
      | true => simp only [Bool.false_eq_true, if_false, if_true]; tauto
      | false =>
          simp only [Bool.false_eq_true, if_false]
          cases htriggered : token.shredDefense.shredEmergencyExitTriggeredFlag with
          | true =>
              have hsold : ∀ armed, (engine.evaluateOpenPosition (token.withExitArmed armed)
                  features risk held.strategy held observedAt).decision.isExit = true := by
                intro armed
                rw [engine.evaluateOpenPosition_triggered (token.withExitArmed armed) _ _ _ _ _
                  htriggered]
                rfl
              simp only [hsold]
              tauto
          | false =>
              have hunarmed := engine.isExit_evaluateOpenPosition_unarmed
                (token.withExitArmed false) features risk held observedAt htriggered rfl
              have harmed := engine.evaluateOpenPosition_armed
                (token.withExitArmed true) features risk held observedAt htriggered rfl
              have hdue : engine.exitDue (token.withExitArmed false) features risk held
                  observedAt ↔ engine.exitDue token features risk held observedAt := Iff.rfl
              have hheld : ¬ TradeDecision.hold.isExit = true := by decide
              rw [harmed, hunarmed, hdue]
              tauto

/-- At twice its entry price the position of an unarmed token is sold, that of an armed
one is held. -/
theorem armed_position_held : ¬ ∀ (engine : DecisionEngine) (token : TokenState)
    (features : FeatureSnapshot) (risk : RiskAssessment) (held : OpenPositionContext)
    (configHash strategyVersion : String) (observedAt : OffsetDateTime) (decisionId : String),
    ArmingSound engine token features risk held configHash strategyVersion observedAt
      decisionId := by
  intro h
  obtain ⟨hkept, _⟩ := h
    { sampleEngine with
      thresholds := { sampleThresholds with
        organicSlowGrind :=
          { takeProfitPct := 1 / 2, stopLossPct := 1 / 2, maxHoldMs := 60000 } } }
    { TokenState.new ⟨"mint"⟩ .geyserProcessed with
      lifecycle := .inPosition
      latestPrice := 2 }
    (qualityFeatures ⟨"mint"⟩ 1) (calmRisk "mint") samplePosition "" "" unixEpoch ""
  exact absurd (hkept (by decide +kernel)) (by decide +kernel)

end DecisionEngine

end PumpLaunchTrader
