import PumpLaunchTrader.Decision.Exits
import Mathlib.Tactic.Positivity

/-! # Position sizes

`position_size_quote` multiplies a base by the eligibility and by two factors in `[0, 1]`,
and caps the product twice. Its monotonicity is that of the product; a negative eligibility
turns it around in the two factors. -/

namespace PumpLaunchTrader

/-! ## Clamps and averages -/

theorem clamp01_nonneg (value : Decimal) : 0 ≤ clamp01 value := by
  unfold clamp01
  exact le_min (le_max_right _ _) zero_le_one

theorem clamp01_mono {a b : Decimal} (h : a ≤ b) : clamp01 a ≤ clamp01 b := by
  unfold clamp01
  exact min_le_min_right 1 (max_le_max_right 0 h)

/-- The weighted average of the four scores that an order is sized by. -/
def RiskAssessment.sizingScore (risk : RiskAssessment) : Decimal :=
  weightedAverage
    [(risk.rug.score, 4 / 10), (risk.bundle.score, 2 / 10), (risk.topHolder.score, 2 / 10),
      (risk.fakeMomentum.score, 2 / 10)]

/-- The weights of the four scores sum to one. -/
theorem RiskAssessment.sizingScore_eq (risk : RiskAssessment) :
    risk.sizingScore = risk.rug.score * (4 / 10) + risk.bundle.score * (2 / 10) +
      risk.topHolder.score * (2 / 10) + risk.fakeMomentum.score * (2 / 10) := by
  have hweights : (4 / 10 + 2 / 10 + 2 / 10 + 2 / 10 : Decimal) = 1 := by norm_num
  simp only [sizingScore, weightedAverage, List.foldl_cons, List.foldl_nil, zero_add, hweights,
    zero_lt_one, if_true, div_one]

/-- An assessment is at most another one in each of the four scores. -/
structure RiskAssessment.SizingAtMost (risk risk' : RiskAssessment) : Prop where
  rug : risk.rug.score ≤ risk'.rug.score
  bundle : risk.bundle.score ≤ risk'.bundle.score
  topHolder : risk.topHolder.score ≤ risk'.topHolder.score
  fakeMomentum : risk.fakeMomentum.score ≤ risk'.fakeMomentum.score

theorem RiskAssessment.SizingAtMost.sizingScore_le {risk risk' : RiskAssessment}
    (h : risk.SizingAtMost risk') : risk.sizingScore ≤ risk'.sizingScore := by
  rw [risk.sizingScore_eq, risk'.sizingScore_eq]
  linarith [h.rug, h.bundle, h.topHolder, h.fakeMomentum]

namespace DecisionEngine

/-! ## The two factors -/

def liquidityFactor (token : TokenState) : Decimal := clamp01 (depthProxy token 25 / 500)

def riskFactor (risk : RiskAssessment) : Decimal := clamp01 (1 - risk.sizingScore)

theorem liquidityFactor_mono {token token' : TokenState} (hdepth : 0 < token.reserveDepth)
    (h : token.reserveDepth ≤ token'.reserveDepth) :
    liquidityFactor token ≤ liquidityFactor token' := by
  unfold liquidityFactor depthProxy
  rw [if_pos hdepth, if_pos (hdepth.trans_le h)]
  exact clamp01_mono (by linarith)

theorem riskFactor_anti {risk risk' : RiskAssessment} (h : risk.SizingAtMost risk') :
    riskFactor risk' ≤ riskFactor risk :=
  clamp01_mono (by linarith [h.sizingScore_le])

/-! ## The capped product -/

section Size

variable (engine : DecisionEngine)

/-- The size of an order before its caps. -/
def uncappedSize (eligibility : Decimal) (token : TokenState) (risk : RiskAssessment) :
    Decimal :=
  engine.execution.maxDailyLossQuote / 10 * eligibility * liquidityFactor token * riskFactor risk

/-- The smaller of the two caps. -/
def sizeCap : Decimal :=
  min (engine.execution.maxDailyLossQuote / 2) (max engine.execution.maxPositionSizeQuote 0)

theorem positionSizeQuote_eq (eligibility : Decimal) (token : TokenState)
    (risk : RiskAssessment) :
    engine.positionSizeQuote eligibility token risk =
      min (engine.uncappedSize eligibility token risk) engine.sizeCap :=
  min_assoc _ _ _

theorem positionSizeQuote_le_sizeCap (eligibility : Decimal) (token : TokenState)
    (risk : RiskAssessment) :
    engine.positionSizeQuote eligibility token risk ≤ engine.sizeCap := by
  rw [engine.positionSizeQuote_eq]
  exact min_le_right _ _

theorem positionSizeQuote_le_of_uncappedSize {eligibility eligibility' : Decimal}
    {token token' : TokenState} {risk risk' : RiskAssessment}
    (h : engine.uncappedSize eligibility token risk ≤
      engine.uncappedSize eligibility' token' risk') :
    engine.positionSizeQuote eligibility token risk ≤
      engine.positionSizeQuote eligibility' token' risk' := by
  rw [engine.positionSizeQuote_eq, engine.positionSizeQuote_eq]
  exact min_le_min_right _ h

variable {engine} (hloss : 0 ≤ engine.execution.maxDailyLossQuote)
include hloss

theorem sizeCap_nonneg : 0 ≤ engine.sizeCap :=
  le_min (by linarith) (le_max_right _ _)

/-- A product of non-negative factors grows with each of them. -/
theorem uncappedSize_mono {eligibility eligibility' : Decimal} {token token' : TokenState}
    {risk risk' : RiskAssessment} (heligibility : 0 ≤ eligibility)
    (h : eligibility ≤ eligibility') (htoken : liquidityFactor token ≤ liquidityFactor token')
    (hrisk : riskFactor risk ≤ riskFactor risk') :
    engine.uncappedSize eligibility token risk ≤
      engine.uncappedSize eligibility' token' risk' := by
  have hbase : 0 ≤ engine.execution.maxDailyLossQuote / 10 := by linarith
  have hliquidity : 0 ≤ liquidityFactor token := clamp01_nonneg _
  have hfactor : 0 ≤ riskFactor risk := clamp01_nonneg _
  have heligibility' : 0 ≤ eligibility' := heligibility.trans h
  have hliquidity' : 0 ≤ liquidityFactor token' := clamp01_nonneg _
  unfold uncappedSize
  gcongr

/-- In the eligibility the product is monotone whatever its sign. -/
theorem uncappedSize_mono_eligibility {eligibility eligibility' : Decimal}
    (h : eligibility ≤ eligibility') (token : TokenState) (risk : RiskAssessment) :
    engine.uncappedSize eligibility token risk ≤ engine.uncappedSize eligibility' token risk := by
  have hbase : 0 ≤ engine.execution.maxDailyLossQuote / 10 := by linarith
  have hliquidity : 0 ≤ liquidityFactor token := clamp01_nonneg _
  have hfactor : 0 ≤ riskFactor risk := clamp01_nonneg _
  unfold uncappedSize
  gcongr

theorem positionSizeQuote_nonneg {eligibility : Decimal} (heligibility : 0 ≤ eligibility)
    (token : TokenState) (risk : RiskAssessment) :
    0 ≤ engine.positionSizeQuote eligibility token risk := by
  rw [engine.positionSizeQuote_eq]
  refine le_min ?_ (sizeCap_nonneg hloss)
  have hzero : engine.uncappedSize 0 token risk = 0 := by
    simp only [uncappedSize, mul_zero, zero_mul]
  rw [← hzero]
  exact uncappedSize_mono_eligibility hloss heligibility token risk

end Size

/-! ## Bounds and monotonicity -/

/-- With an eligibility in `[0, 1]` a size is non-negative and within both caps. It never
falls with the eligibility, and for a non-negative one never grows with a score and never
falls with a positive depth. -/
theorem positionSizeQuote_sound (engine : DecisionEngine)
    (hloss : 0 ≤ engine.execution.maxDailyLossQuote) (eligibility : Decimal)
    (token : TokenState) (risk : RiskAssessment) :
    (0 ≤ eligibility → eligibility ≤ 1 →
      0 ≤ engine.positionSizeQuote eligibility token risk ∧
        engine.positionSizeQuote eligibility token risk ≤
          min (engine.execution.maxDailyLossQuote / 2)
            (max engine.execution.maxPositionSizeQuote 0)) ∧
      (∀ eligibility', eligibility ≤ eligibility' →
        engine.positionSizeQuote eligibility token risk ≤
          engine.positionSizeQuote eligibility' token risk) ∧
      (0 ≤ eligibility → ∀ risk', risk.SizingAtMost risk' →
        engine.positionSizeQuote eligibility token risk' ≤
          engine.positionSizeQuote eligibility token risk) ∧
      (0 ≤ eligibility → ∀ token', 0 < token.reserveDepth →
        token.reserveDepth ≤ token'.reserveDepth →
        engine.positionSizeQuote eligibility token risk ≤
          engine.positionSizeQuote eligibility token' risk) := by
  refine ⟨?bounds, ?eligibility, ?scores, ?depth⟩
  case bounds =>
    intro hnonneg _
    exact ⟨positionSizeQuote_nonneg hloss hnonneg token risk,
      engine.positionSizeQuote_le_sizeCap eligibility token risk⟩
  case eligibility =>
    intro eligibility' h
    exact engine.positionSizeQuote_le_of_uncappedSize
      (uncappedSize_mono_eligibility hloss h token risk)
  case scores =>
    intro hnonneg risk' h
    exact engine.positionSizeQuote_le_of_uncappedSize
      (uncappedSize_mono hloss hnonneg le_rfl le_rfl (riskFactor_anti h))
  case depth =>
    intro hnonneg token' hdepth h
    exact engine.positionSizeQuote_le_of_uncappedSize
      (uncappedSize_mono hloss hnonneg le_rfl (liquidityFactor_mono hdepth h) le_rfl)

theorem positionSizeQuote_sound_sample :
    0 ≤ sampleEngine.positionSizeQuote 1 triggeredToken (calmRisk "mint") ∧
      sampleEngine.positionSizeQuote 1 triggeredToken (calmRisk "mint") ≤ 1 := by
  have hcap : min (sampleEngine.execution.maxDailyLossQuote / 2)
      (max sampleEngine.execution.maxPositionSizeQuote 0) = 1 := by decide +kernel
  have h := (positionSizeQuote_sound sampleEngine (by decide +kernel) 1 triggeredToken
    (calmRisk "mint")).1 zero_le_one le_rfl
  rwa [hcap] at h

/-- With the eligibility `-1` a higher rug score raises the size. -/
theorem negative_size_grows_with_risk : ¬ ∀ engine : DecisionEngine,
    0 ≤ engine.execution.maxDailyLossQuote → ∀ (eligibility : Decimal) (token : TokenState)
    (risk risk' : RiskAssessment), risk.SizingAtMost risk' →
      engine.positionSizeQuote eligibility token risk' ≤
        engine.positionSizeQuote eligibility token risk := by
  intro h
  have hgrows : ¬ sampleEngine.positionSizeQuote (-1) triggeredToken
      { calmRisk "mint" with rug := { score := 1 } } ≤
        sampleEngine.positionSizeQuote (-1) triggeredToken (calmRisk "mint") := by
    decide +kernel
  exact hgrows (h sampleEngine (by decide +kernel) (-1) triggeredToken _ _
    ⟨by decide +kernel, le_rfl, le_rfl, le_rfl⟩)

/-- The sizes of `evaluate` are within the caps: its eligibility is a clamped score. -/
theorem evaluate_positionSizeQuote_mem (engine : DecisionEngine)
    (hloss : 0 ≤ engine.execution.maxDailyLossQuote) (token : TokenState)
    (features : FeatureSnapshot) (risk : RiskAssessment)
    (position : Option OpenPositionContext) (configHash strategyVersion : String)
    (observedAt : OffsetDateTime) (decisionId : String) :
    0 ≤ (engine.evaluate token features risk position configHash strategyVersion observedAt
        decisionId).positionSizeQuote ∧
      (engine.evaluate token features risk position configHash strategyVersion observedAt
        decisionId).positionSizeQuote ≤ engine.sizeCap :=
  ⟨positionSizeQuote_nonneg hloss (clamp01_nonneg _) token risk,
    engine.positionSizeQuote_le_sizeCap _ token risk⟩

end DecisionEngine

end PumpLaunchTrader
