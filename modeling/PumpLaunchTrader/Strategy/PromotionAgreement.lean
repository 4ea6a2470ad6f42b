import PumpLaunchTrader.Model.PromotionPriority
import Mathlib.Algebra.Order.Ring.Rat

/-! # The collector and the pipeline score promotions alike

Both compute the same bins of a row, and from the bins the same shapes and reasons. The
pipeline is told by its avoider what the collector finds out on its own. -/

namespace PumpLaunchTrader.StrategyPipeline.PromotionPriority

open Phase107k (promotionPriorityV1ShadowFromAsof shadowPartsFromAsof deadLaunchAvoid)

/-! ## Reason codes -/

theorem mem_cleanReasonCodes_foldl (codes seen : List String) (code : String) :
    code ∈ codes.foldl (fun seen code =>
        if code ∈ promotionPriorityV1ReasonCodes ∧ code ∉ seen then seen ++ [code] else seen)
        seen ↔
      code ∈ seen ∨ (code ∈ codes ∧ code ∈ promotionPriorityV1ReasonCodes) := by
  induction codes generalizing seen with
  | nil => simp
  | cons first codes ih =>
      rw [List.foldl_cons, ih]
      split_ifs with hfirst
      · grind
      · grind

/-- Cleaning keeps the known codes. -/
theorem mem_cleanReasonCodes (codes : List String) (code : String) :
    code ∈ cleanReasonCodes codes ↔ code ∈ codes ∧ code ∈ promotionPriorityV1ReasonCodes := by
  simpa [cleanReasonCodes] using mem_cleanReasonCodes_foldl codes [] code

/-- Nothing is lost where all codes are known. -/
theorem toFinset_cleanReasonCodes {codes : List String}
    (h : ∀ code ∈ codes, code ∈ promotionPriorityV1ReasonCodes) :
    (cleanReasonCodes codes).toFinset = codes.toFinset := by
  ext code
  rw [List.mem_toFinset, List.mem_toFinset, mem_cleanReasonCodes]
  exact ⟨fun hcode => hcode.1, fun hcode => ⟨hcode, h code hcode⟩⟩

theorem mem_ite_empty {p : Prop} [Decidable p] (code : String) (codes : Finset String) :
    code ∈ (if p then codes else ∅) ↔ p ∧ code ∈ codes := by
  split_ifs with hp
  · simp [hp]
  · simp [hp]

namespace Evidence

theorem promoteReasons_known (evidence : Evidence) :
    ∀ code ∈ evidence.promoteReasons, code ∈ promotionPriorityV1ReasonCodes := by
  unfold promoteReasons
  split_ifs with hthroughput hrisk
  all_goals simp [promotionPriorityV1ReasonCodes]

theorem rejectReasons_known (evidence : Evidence) :
    ∀ code ∈ evidence.rejectReasons, code ∈ promotionPriorityV1ReasonCodes := by
  simp [rejectReasons, promotionPriorityV1ReasonCodes, or_imp, forall_and]

theorem keepReasons_known (evidence : Evidence) :
    ∀ code ∈ evidence.keepReasons, code ∈ promotionPriorityV1ReasonCodes := by
  simp [keepReasons, promotionPriorityV1ReasonCodes, or_imp, forall_and]

end Evidence

/-! ## Bins -/

theorem descriptiveBin_eq (value : Option ℚ) (low high : ℚ) :
    descriptiveBin value low high = Phase107k.bin value low high := by
  cases value with
  | none => rfl
  | some value => rfl

theorem sellPressureBin_eq (row : AsofRow) :
    sellPressureBin row = Phase107k.sellPressureBin row := by
  have hsells : ∀ sells : Option ℚ,
      (sells.any fun sells => sells ≠ 0 && 0 < sells) = decide (0 < sells.getD 0) := by
    intro sells
    cases sells with
    | none => simp
    | some sells =>
        have hpos : 0 < sells → sells ≠ 0 := fun h => h.ne'
        simpa using hpos
  unfold sellPressureBin Phase107k.sellPressureBin
  simp only [hsells, decide_eq_true_eq]
  rfl

/-- The columns that state what is otherwise computed. -/
def precomputedColumns : List String :=
  ["trade_burst_bin", "buy_followthrough_bin", "sell_pressure_bin", "volume_bin",
    "holder_concentration_risk_bin", "dev_creator_holding_risk_bin", "curve_progress_bin",
    "positive_outcome_label", "final_outcome"]

theorem statedOr_of_absent {row : AsofRow}
    (h : ∀ column ∈ precomputedColumns, row.texts.lookup column = none) {column : String}
    (hcolumn : column ∈ precomputedColumns) (computed : String) :
    statedOr row column computed = computed := by
  rw [statedOr, h column hcolumn]

/-- The pipeline knows of a row what the collector knows. -/
structure Evidence.Agrees (evidence : Evidence) (parts : Phase107k.ShadowParts) : Prop where
  trade : evidence.bins.tradeBurstBin = parts.tradeBin
  buy : evidence.bins.buyFollowthroughBin = parts.buyBin
  sell : evidence.bins.sellPressureBin = parts.sellBin
  volume : evidence.bins.volumeBin = parts.volumeBin
  holder : evidence.bins.holderConcentrationRiskBin = parts.holderBin
  dev : evidence.bins.devCreatorHoldingRiskBin = parts.devBin
  curve : evidence.bins.curveProgressBin = parts.curveBin
  liquidityExit : evidence.liquidityExit = parts.liquidityExit
  holderCollapse : evidence.holderCollapse = parts.holderCollapse
  highThroughput : evidence.highThroughput = parts.highThroughput
  avoid : evidence.avoid = parts.deadLaunchAvoid

theorem evidenceOf_agrees {row : AsofRow} {avoiderDecision : String}
    (habsent : ∀ column ∈ precomputedColumns, row.texts.lookup column = none)
    (havoid : avoiderDecision = "avoid" ↔ deadLaunchAvoid row = true) :
    (evidenceOf row avoiderDecision "").Agrees (shadowPartsFromAsof row) := by
  have hstated : ∀ column ∈ precomputedColumns, ∀ computed,
      statedOr row column computed = computed :=
    fun column hcolumn computed => statedOr_of_absent habsent hcolumn computed
  constructor
  case trade => exact (hstated _ (by decide) _).trans (descriptiveBin_eq _ _ _)
  case buy => exact (hstated _ (by decide) _).trans (descriptiveBin_eq _ _ _)
  case sell => exact (hstated _ (by decide) _).trans (sellPressureBin_eq row)
  case volume => exact (hstated _ (by decide) _).trans (descriptiveBin_eq _ _ _)
  case holder => exact (hstated _ (by decide) _).trans (descriptiveBin_eq _ _ _)
  case dev => exact (hstated _ (by decide) _).trans (descriptiveBin_eq _ _ _)
  case curve => exact (hstated _ (by decide) _).trans (descriptiveBin_eq _ _ _)
  case liquidityExit => exact Bool.or_false _
  case holderCollapse => exact Bool.or_false _
  case highThroughput => rfl
  case avoid =>
      show decide (avoiderDecision = "avoid") = deadLaunchAvoid row
      rw [Bool.eq_iff_iff, decide_eq_true_iff]
      exact havoid

namespace Evidence.Agrees

variable {evidence : Evidence} {parts : Phase107k.ShadowParts}

theorem buyOk (h : evidence.Agrees parts) : evidence.buyOk = parts.buyOk := by
  simp [Evidence.buyOk, Phase107k.ShadowParts.buyOk, h.buy]

theorem sellOk (h : evidence.Agrees parts) : evidence.sellOk = parts.sellOk := by
  simp [Evidence.sellOk, Phase107k.ShadowParts.sellOk, h.sell]

theorem decentCurve (h : evidence.Agrees parts) : evidence.decentCurve = parts.decentCurve := by
  simp [Evidence.decentCurve, Phase107k.ShadowParts.decentCurve, h.curve]

theorem strongVolume (h : evidence.Agrees parts) :
    evidence.strongVolume = parts.strongVolume := by
  simp [Evidence.strongVolume, Phase107k.ShadowParts.strongVolume, h.volume]

theorem decentVolume (h : evidence.Agrees parts) :
    evidence.decentVolume = parts.decentVolume := by
  simp [Evidence.decentVolume, Phase107k.ShadowParts.decentVolume, h.volume]

theorem strongShape (h : evidence.Agrees parts) : evidence.strongShape = parts.strongShape := by
  simp [Evidence.strongShape, Phase107k.ShadowParts.strongShape, Evidence.strongCurve,
    Phase107k.ShadowParts.strongCurve, h.curve, h.strongVolume, h.buyOk, h.sellOk,
    h.liquidityExit, h.holderCollapse]

theorem secondaryShape (h : evidence.Agrees parts) :
    evidence.secondaryShape = parts.secondaryShape := by
  simp [Evidence.secondaryShape, Phase107k.ShadowParts.secondaryShape, h.decentCurve,
    h.strongVolume, h.buyOk, h.sellOk, h.trade, h.liquidityExit, h.holderCollapse]

theorem hardDead (h : evidence.Agrees parts) : evidence.hardDead = parts.hardDead := by
  simp [Evidence.hardDead, Phase107k.ShadowParts.hardDead, h.liquidityExit, h.holderCollapse,
    h.sell, h.avoid, h.buy, h.volume, h.curve]

theorem promoteReasons (h : evidence.Agrees parts) :
    (cleanReasonCodes evidence.promoteReasons).toFinset = parts.promoteReasons := by
  rw [toFinset_cleanReasonCodes evidence.promoteReasons_known]
  ext code
  simp only [Evidence.promoteReasons, Phase107k.ShadowParts.promoteReasons, h.highThroughput,
    h.holder, h.dev, List.cons_append, List.nil_append, List.append_assoc, List.toFinset_cons,
    List.mem_toFinset, List.mem_append, List.mem_cons, List.not_mem_nil, List.mem_ite_nil_right,
    Finset.mem_insert, Finset.union_assoc, Finset.mem_union, Finset.mem_singleton, mem_ite_empty,
    not_or, or_false, or_assoc, Bool.not_or, Bool.and_eq_true, Bool.not_eq_eq_eq_not,
    Bool.not_true, decide_eq_false_iff_not]

theorem rejectReasons (h : evidence.Agrees parts) :
    (cleanReasonCodes evidence.rejectReasons).toFinset = parts.rejectReasons := by
  rw [toFinset_cleanReasonCodes evidence.rejectReasons_known]
  ext code
  simp [Evidence.rejectReasons, Phase107k.ShadowParts.rejectReasons, mem_ite_empty,
    h.liquidityExit, h.sell, h.holder, h.dev, h.buyOk, h.decentVolume]

theorem keepReasons (h : evidence.Agrees parts) :
    (cleanReasonCodes evidence.keepReasons).toFinset = parts.keepReasons := by
  rw [toFinset_cleanReasonCodes evidence.keepReasons_known]
  ext code
  simp [Evidence.keepReasons, Phase107k.ShadowParts.keepReasons, mem_ite_empty, h.avoid,
    h.decentCurve, h.decentVolume, h.buyOk]

end Evidence.Agrees

/-! ## Scores -/

/-- Two scores with the same decision, confidence and set of reasons. -/
structure PromotionPriorityV1Score.Agrees (score : PromotionPriorityV1Score)
    (shadow : Phase107k.Shadow) : Prop where
  decision : score.decision = shadow.decision
  confidenceBin : score.confidenceBin = shadow.confidenceBin
  reasonCodes : score.reasonCodes.toFinset = shadow.reasonCodes

/-- Where the row is covered, the scores come from what both know of it. -/
theorem Evidence.Agrees.score {evidence : Evidence} {parts : Phase107k.ShadowParts}
    (h : evidence.Agrees parts) (hcensored : parts.terminalInconclusive = false)
    (hquality : parts.dataQualityExclusion = false) (hreached : parts.horizonReached = true) :
    evidence.score.Agrees (Phase107k.shadowFromParts parts) := by
  unfold Evidence.score Phase107k.shadowFromParts
  rw [h.strongShape, h.secondaryShape, h.hardDead, hcensored, hquality, hreached]
  simp only [Bool.false_eq_true, Bool.not_true, if_false]
  split_ifs with hshape hstrong hdead
  · exact ⟨rfl, rfl, h.promoteReasons⟩
  · exact ⟨rfl, rfl, h.promoteReasons⟩
  · exact ⟨rfl, rfl, h.rejectReasons⟩
  · exact ⟨rfl, rfl, h.keepReasons⟩

/-- On every row without precomputed columns the pipeline scores as the collector does, where
its avoider says "avoid" exactly for the launches that the collector finds dead. -/
theorem scores_agree (row : AsofRow) (avoiderDecision : String)
    (habsent : ∀ column ∈ precomputedColumns, row.texts.lookup column = none)
    (havoid : avoiderDecision = "avoid" ↔ deadLaunchAvoid row = true) :
    (scorePromotionPriorityV1 row avoiderDecision "").Agrees
      (promotionPriorityV1ShadowFromAsof row) := by
  have hcensored : terminalCensored row = (shadowPartsFromAsof row).terminalInconclusive := by
    simp [terminalCensored, habsent "final_outcome" (by decide), shadowPartsFromAsof,
      Phase107k.rowTruthy, boolish]
  have hquality : (dataQuality row || invalidQuality row) =
      (shadowPartsFromAsof row).dataQualityExclusion := by
    simp [dataQuality, invalidQuality, habsent "positive_outcome_label" (by decide),
      shadowPartsFromAsof, Phase107k.rowTruthy, boolish, Bool.or_assoc]
  have hreached : boolish row "horizon_reached" = (shadowPartsFromAsof row).horizonReached := rfl
  unfold scorePromotionPriorityV1 promotionPriorityV1ShadowFromAsof
  rw [hcensored, hquality, hreached]
  cases hc : (shadowPartsFromAsof row).terminalInconclusive with
  | true =>
      rw [Phase107k.shadowFromParts, hc]
      exact ⟨rfl, rfl, rfl⟩
  | false =>
      cases hq : (shadowPartsFromAsof row).dataQualityExclusion with
      | true =>
          rw [Phase107k.shadowFromParts, hc, hq]
          exact ⟨rfl, rfl, rfl⟩
      | false =>
          cases hr : (shadowPartsFromAsof row).horizonReached with
          | false =>
              rw [Phase107k.shadowFromParts, hc, hq, hr]
              exact ⟨rfl, rfl, rfl⟩
          | true => exact (evidenceOf_agrees habsent havoid).score hc hq hr

/-- A covered row that both promote, on the first of its two shapes. -/
def strongRow : AsofRow where
  flags := AList.insert "horizon_reached" true ∅
  numbers :=
    AList.insert "curve_progress_proxy_asof" 62 (AList.insert "volume_delta_asof" 5000000000
      (AList.insert "buy_count_delta_asof" 4 (AList.insert "sell_count_delta_asof" 1 ∅)))
  texts := ∅

theorem scores_agree_on_strongRow :
    (scorePromotionPriorityV1 strongRow "" "").Agrees
      (promotionPriorityV1ShadowFromAsof strongRow) ∧
    (promotionPriorityV1ShadowFromAsof strongRow).decision =
      "promote_to_rich_tracking_research_only" :=
  ⟨scores_agree strongRow "" (by decide) (by decide +kernel), by decide +kernel⟩

end PumpLaunchTrader.StrategyPipeline.PromotionPriority
