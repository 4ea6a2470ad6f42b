import PumpLaunchTrader.Lib.KeyedMap
import Mathlib.Data.Finset.Insert
import Mathlib.Data.Finset.Lattice.Basic
import Mathlib.Data.Rat.Defs

/-! # Promotion priority (`main.rs` and `strategy_pipeline/promotion_priority.py`)

The collector scores an as-of row when it writes it, and the pipeline scores the row again.
Decisions, bins and reasons are the texts that both of them write. -/

namespace PumpLaunchTrader

/-- The columns of an as-of row, by what their values are. -/
structure AsofRow where
  flags : KeyedMap String Bool
  numbers : KeyedMap String ℚ
  texts : KeyedMap String String

/-! ## The collector's score -/

namespace Phase107k

/-- `phase107k_row_truthy` of a flag. -/
def rowTruthy (asof : AsofRow) (key : String) : Bool := (asof.flags.lookup key).getD false

/-- `phase107k_json_f64` of a number. -/
def jsonF64 (asof : AsofRow) (key : String) : Option ℚ := asof.numbers.lookup key

def bin (value : Option ℚ) (low high : ℚ) : String :=
  match value with
  | none => "MISSING"
  | some item => if high ≤ item then "HIGH" else if low ≤ item then "MEDIUM" else "LOW"

def sellPressureBin (asof : AsofRow) : String :=
  let buys := (jsonF64 asof "buy_count_delta_asof").getD 0
  let sells := jsonF64 asof "sell_count_delta_asof"
  let net := jsonF64 asof "net_buy_sell_delta_asof"
  if sells.isNone && net.isNone then "MISSING"
  else if (net.any fun item => item < 0) || (sells.any fun item => buys + 2 ≤ item) then "HIGH"
  else if 0 < sells.getD 0 then "MEDIUM"
  else "LOW"

/-- The arguments of `phase107k_shadow_from_parts`. -/
structure ShadowParts where
  horizonReached : Bool
  dataQualityExclusion : Bool
  terminalInconclusive : Bool
  liquidityExit : Bool
  holderCollapse : Bool
  highThroughput : Bool
  tradeBin : String
  buyBin : String
  sellBin : String
  volumeBin : String
  holderBin : String
  devBin : String
  curveBin : String
  deadLaunchAvoid : Bool

/-- The shadow fields of a row; the reason codes are written in order, joined by bars. -/
structure Shadow where
  decision : String
  reasonCodes : Finset String
  confidenceBin : String
  wouldPromote : Bool
  wouldReject : Bool
  wouldKeepCheapFollowup : Bool
  shadowOnly : Bool

def shadow (decision : String) (reasonCodes : Finset String) (confidenceBin : String) : Shadow where
  decision := decision
  reasonCodes := reasonCodes
  confidenceBin := confidenceBin
  wouldPromote := decision = "promote_to_rich_tracking_research_only"
  wouldReject := decision = "reject"
  wouldKeepCheapFollowup := decision = "keep_cheap_followup"
  shadowOnly := true

namespace ShadowParts

variable (parts : ShadowParts)

def buyOk : Bool := parts.buyBin = "HIGH" || parts.buyBin = "MEDIUM"

def sellOk : Bool := parts.sellBin = "LOW" || parts.sellBin = "MEDIUM"

def strongCurve : Bool := parts.curveBin = "HIGH"

def decentCurve : Bool := parts.curveBin = "HIGH" || parts.curveBin = "MEDIUM"

def strongVolume : Bool := parts.volumeBin = "HIGH"

def decentVolume : Bool := parts.volumeBin = "HIGH" || parts.volumeBin = "MEDIUM"

def hardDead : Bool :=
  parts.liquidityExit || parts.holderCollapse || parts.sellBin = "HIGH" ||
    (parts.deadLaunchAvoid &&
      (parts.buyBin = "LOW" || parts.volumeBin = "LOW" ||
        (parts.curveBin = "LOW" || parts.curveBin = "MISSING")))

def strongShape : Bool :=
  parts.strongCurve && parts.strongVolume && parts.buyOk && parts.sellOk &&
    !parts.liquidityExit && !parts.holderCollapse

def secondaryShape : Bool :=
  parts.decentCurve && parts.strongVolume && parts.buyOk && parts.sellOk &&
    (parts.tradeBin = "HIGH" || parts.tradeBin = "MEDIUM") &&
    !parts.liquidityExit && !parts.holderCollapse

def promoteReasons : Finset String :=
  {"sufficient_horizon_coverage", "early_curve_progress", "early_volume_followthrough",
    "early_buy_sell_followthrough", "low_adverse_sell_pressure", "vault_curve_progress"} ∪
    (if parts.highThroughput then {"clean_high_throughput_watch"} else ∅) ∪
    (if !(parts.holderBin = "HIGH" || parts.holderBin = "MISSING") &&
        !(parts.devBin = "HIGH" || parts.devBin = "MISSING") then
      {"absence_of_holder_dev_risk"} else ∅) ∪
    (if parts.holderBin = "HIGH" then {"holder_concentration_risk"} else ∅) ∪
    (if parts.devBin = "HIGH" then {"dev_or_creator_holding_risk"} else ∅)

def rejectReasons : Finset String :=
  {"dead_launch_avoider_reject"} ∪
    (if parts.liquidityExit then {"liquidity_exit_proxy"} else ∅) ∪
    (if parts.sellBin = "HIGH" then {"adverse_sell_pressure"} else ∅) ∪
    (if parts.holderBin = "HIGH" then {"holder_concentration_risk"} else ∅) ∪
    (if parts.devBin = "HIGH" then {"dev_or_creator_holding_risk"} else ∅) ∪
    (if !parts.buyOk || !parts.decentVolume then {"insufficient_followup"} else ∅)

def keepReasons : Finset String :=
  {"insufficient_followup"} ∪
    (if parts.deadLaunchAvoid then {"dead_launch_avoider_reject"} else ∅) ∪
    (if parts.decentCurve then {"early_curve_progress"} else ∅) ∪
    (if parts.decentVolume then {"early_volume_followthrough"} else ∅) ∪
    (if parts.buyOk then {"early_buy_sell_followthrough"} else ∅)

end ShadowParts

def shadowFromParts (parts : ShadowParts) : Shadow :=
  if parts.terminalInconclusive then
    shadow "censored" {"terminal_inconclusive_censored"} "CENSORED"
  else if parts.dataQualityExclusion then
    shadow "audit_only" {"data_quality_excluded"} "UNSAFE"
  else if !parts.horizonReached then
    shadow "insufficient_data" {"insufficient_followup"} "MISSING"
  else if parts.strongShape || parts.secondaryShape then
    shadow "promote_to_rich_tracking_research_only" parts.promoteReasons
      (if parts.strongShape then "HIGH" else "MEDIUM")
  else if parts.hardDead then shadow "reject" parts.rejectReasons "UNSAFE"
  else shadow "keep_cheap_followup" parts.keepReasons "LOW"

def tradeBin (asof : AsofRow) : String := bin (jsonF64 asof "trade_burst_score_asof") 0.1 0.5

def buyBin (asof : AsofRow) : String := bin (jsonF64 asof "buy_count_delta_asof") 1 3

def volumeBin (asof : AsofRow) : String :=
  bin (jsonF64 asof "volume_delta_asof") 500000000 5000000000

def holderBin (asof : AsofRow) : String :=
  bin (jsonF64 asof "top_holder_concentration_asof") 0.5 0.8

def devBin (asof : AsofRow) : String :=
  bin (jsonF64 asof "dev_or_creator_holding_proxy_asof") 0.02 0.10

def curveBin (asof : AsofRow) : String := bin (jsonF64 asof "curve_progress_proxy_asof") 20 50

def deadLaunchAvoid (asof : AsofRow) : Bool :=
  rowTruthy asof "liquidity_exit_proxy_asof" || rowTruthy asof "holder_collapse_proxy_asof" ||
    sellPressureBin asof = "HIGH" || (buyBin asof = "LOW" && volumeBin asof = "LOW")

def shadowPartsFromAsof (asof : AsofRow) : ShadowParts where
  horizonReached := rowTruthy asof "horizon_reached"
  dataQualityExclusion :=
    rowTruthy asof "data_quality_exclusion" || rowTruthy asof "provider_gap_exposed" ||
      rowTruthy asof "relay_gap_exposed" || rowTruthy asof "sequence_gap_exposed" ||
      rowTruthy asof "hash_mismatch_exposed" || rowTruthy asof "receiver_backpressure_exposed"
  terminalInconclusive := rowTruthy asof "terminal_inconclusive_before_horizon"
  liquidityExit := rowTruthy asof "liquidity_exit_proxy_asof"
  holderCollapse := rowTruthy asof "holder_collapse_proxy_asof"
  highThroughput := rowTruthy asof "high_throughput_before_horizon"
  tradeBin := tradeBin asof
  buyBin := buyBin asof
  sellBin := sellPressureBin asof
  volumeBin := volumeBin asof
  holderBin := holderBin asof
  devBin := devBin asof
  curveBin := curveBin asof
  deadLaunchAvoid := deadLaunchAvoid asof

def promotionPriorityV1ShadowFromAsof (asof : AsofRow) : Shadow :=
  shadowFromParts (shadowPartsFromAsof asof)

end Phase107k

/-! ## The pipeline's score -/

namespace StrategyPipeline.PromotionPriority

def promotionPriorityV1ReasonCodes : List String :=
  ["early_curve_progress", "early_buy_sell_followthrough", "early_volume_followthrough",
    "early_holder_growth", "low_adverse_sell_pressure", "vault_curve_progress",
    "clean_high_throughput_watch", "absence_of_holder_dev_risk", "sufficient_horizon_coverage",
    "dead_launch_avoider_reject", "holder_concentration_risk", "dev_or_creator_holding_risk",
    "liquidity_exit_proxy", "adverse_sell_pressure", "insufficient_followup",
    "data_quality_excluded", "terminal_inconclusive_censored"]

/-- `num(row.get(field))` of a number. -/
def num (row : AsofRow) (field : String) : Option ℚ := row.numbers.lookup field

/-- `boolish(row.get(field))` of a flag. -/
def boolish (row : AsofRow) (field : String) : Bool := (row.flags.lookup field).getD false

def descriptiveBin (value : Option ℚ) (low high : ℚ) : String :=
  match value with
  | none => "MISSING"
  | some value => if high ≤ value then "HIGH" else if low ≤ value then "MEDIUM" else "LOW"

def sellPressureBin (row : AsofRow) : String :=
  let buys := (num row "buy_count_delta_asof").getD 0
  let sells := num row "sell_count_delta_asof"
  let net := num row "net_buy_sell_delta_asof"
  if sells.isNone && net.isNone then "MISSING"
  else if (net.any fun net => net < 0) || (sells.any fun sells => buys + 2 ≤ sells) then "HIGH"
  else if sells.any fun sells => sells ≠ 0 && 0 < sells then "MEDIUM"
  else "LOW"

/-- A bin that the row states, unless it is empty, or else the one that is computed. -/
def statedOr (row : AsofRow) (column computed : String) : String :=
  match row.texts.lookup column with
  | some stated => if stated = "" then computed else stated
  | none => computed

structure FeatureBins where
  tradeBurstBin : String
  buyFollowthroughBin : String
  sellPressureBin : String
  volumeBin : String
  holderConcentrationRiskBin : String
  devCreatorHoldingRiskBin : String
  curveProgressBin : String

def featureBins (row : AsofRow) : FeatureBins where
  tradeBurstBin := statedOr row "trade_burst_bin"
    (descriptiveBin (num row "trade_burst_score_asof") 0.1 0.5)
  buyFollowthroughBin := statedOr row "buy_followthrough_bin"
    (descriptiveBin (num row "buy_count_delta_asof") 1 3)
  sellPressureBin := statedOr row "sell_pressure_bin" (sellPressureBin row)
  volumeBin := statedOr row "volume_bin"
    (descriptiveBin (num row "volume_delta_asof") 500000000 5000000000)
  holderConcentrationRiskBin := statedOr row "holder_concentration_risk_bin"
    (descriptiveBin (num row "top_holder_concentration_asof") 0.5 0.8)
  devCreatorHoldingRiskBin := statedOr row "dev_creator_holding_risk_bin"
    (descriptiveBin (num row "dev_or_creator_holding_proxy_asof") 0.02 0.10)
  curveProgressBin := statedOr row "curve_progress_bin"
    (descriptiveBin (num row "curve_progress_proxy_asof") 20 50)

/-- Known codes, each at its first place. -/
def cleanReasonCodes (reasonCodes : List String) : List String :=
  reasonCodes.foldl
    (fun seen code =>
      if code ∈ promotionPriorityV1ReasonCodes ∧ code ∉ seen then seen ++ [code] else seen)
    []

structure PromotionPriorityV1Score where
  decision : String
  reasonCodes : List String
  confidenceBin : String
  shadowOnly : Bool := true
  tradeAction : String := "none"
  candidateEligible : Bool := false
  replayEligible : Bool := false
  countabilityAffects : Bool := false

/-- `needle in text`. -/
def isIn (needle text : String) : Bool := needle.toList <:+: text.toList

/-- What is known of a row once its coverage is judged. -/
structure Evidence where
  bins : FeatureBins
  liquidityExit : Bool
  holderCollapse : Bool
  highThroughput : Bool
  avoid : Bool

namespace Evidence

variable (evidence : Evidence)

def buyOk : Bool := evidence.bins.buyFollowthroughBin ∈ ["HIGH", "MEDIUM"]

def sellOk : Bool := evidence.bins.sellPressureBin ∈ ["LOW", "MEDIUM"]

def strongCurve : Bool := evidence.bins.curveProgressBin = "HIGH"

def decentCurve : Bool := evidence.bins.curveProgressBin ∈ ["HIGH", "MEDIUM"]

def strongVolume : Bool := evidence.bins.volumeBin = "HIGH"

def decentVolume : Bool := evidence.bins.volumeBin ∈ ["HIGH", "MEDIUM"]

def hardDead : Bool :=
  evidence.liquidityExit || evidence.holderCollapse || evidence.bins.sellPressureBin = "HIGH" ||
    (evidence.avoid &&
      (evidence.bins.buyFollowthroughBin = "LOW" || evidence.bins.volumeBin = "LOW" ||
        evidence.bins.curveProgressBin ∈ ["LOW", "MISSING"]))

def strongShape : Bool :=
  evidence.strongCurve && evidence.strongVolume && evidence.buyOk && evidence.sellOk &&
    !evidence.liquidityExit && !evidence.holderCollapse

def secondaryShape : Bool :=
  evidence.decentCurve && evidence.strongVolume && evidence.buyOk && evidence.sellOk &&
    evidence.bins.tradeBurstBin ∈ ["HIGH", "MEDIUM"] && !evidence.liquidityExit &&
    !evidence.holderCollapse

def promoteReasons : List String :=
  ["sufficient_horizon_coverage", "early_curve_progress", "early_volume_followthrough",
    "early_buy_sell_followthrough", "low_adverse_sell_pressure", "vault_curve_progress"] ++
    (if evidence.highThroughput then ["clean_high_throughput_watch"] else []) ++
    (if evidence.bins.holderConcentrationRiskBin ∉ ["HIGH", "MISSING"] ∧
        evidence.bins.devCreatorHoldingRiskBin ∉ ["HIGH", "MISSING"] then
      ["absence_of_holder_dev_risk"] else []) ++
    (if evidence.bins.holderConcentrationRiskBin = "HIGH" then
      ["holder_concentration_risk"] else []) ++
    (if evidence.bins.devCreatorHoldingRiskBin = "HIGH" then
      ["dev_or_creator_holding_risk"] else [])

def rejectReasons : List String :=
  ["dead_launch_avoider_reject"] ++
    (if evidence.liquidityExit then ["liquidity_exit_proxy"] else []) ++
    (if evidence.bins.sellPressureBin = "HIGH" then ["adverse_sell_pressure"] else []) ++
    (if evidence.bins.holderConcentrationRiskBin = "HIGH" then
      ["holder_concentration_risk"] else []) ++
    (if evidence.bins.devCreatorHoldingRiskBin = "HIGH" then
      ["dev_or_creator_holding_risk"] else []) ++
    (if !evidence.buyOk || !evidence.decentVolume then ["insufficient_followup"] else [])

def keepReasons : List String :=
  ["insufficient_followup"] ++
    (if evidence.avoid then ["dead_launch_avoider_reject"] else []) ++
    (if evidence.decentCurve then ["early_curve_progress"] else []) ++
    (if evidence.decentVolume then ["early_volume_followthrough"] else []) ++
    (if evidence.buyOk then ["early_buy_sell_followthrough"] else [])

def score : PromotionPriorityV1Score :=
  if evidence.strongShape || evidence.secondaryShape then
    { decision := "promote_to_rich_tracking_research_only"
      reasonCodes := cleanReasonCodes evidence.promoteReasons
      confidenceBin := if evidence.strongShape then "HIGH" else "MEDIUM" }
  else if evidence.hardDead then
    { decision := "reject"
      reasonCodes := cleanReasonCodes evidence.rejectReasons
      confidenceBin := "UNSAFE" }
  else
    { decision := "keep_cheap_followup"
      reasonCodes := cleanReasonCodes evidence.keepReasons
      confidenceBin := "LOW" }

end Evidence

def dataQuality (row : AsofRow) : Bool :=
  ["data_quality_exclusion", "provider_gap_exposed", "relay_gap_exposed",
    "sequence_gap_exposed", "hash_mismatch_exposed", "receiver_backpressure_exposed"].any
    (boolish row)

def terminalCensored (row : AsofRow) : Bool :=
  boolish row "terminal_inconclusive_before_horizon" ||
    row.texts.lookup "final_outcome" = some "terminal_inconclusive"

def invalidQuality (row : AsofRow) : Bool :=
  row.texts.lookup "positive_outcome_label" = some "invalid_quality"

def evidenceOf (row : AsofRow) (avoiderDecision avoiderReasonCodes : String) : Evidence where
  bins := featureBins row
  liquidityExit :=
    boolish row "liquidity_exit_proxy_asof" || isIn "liquidity_exit_proxy" avoiderReasonCodes
  holderCollapse :=
    boolish row "holder_collapse_proxy_asof" || isIn "holder_collapse_proxy" avoiderReasonCodes
  highThroughput := boolish row "high_throughput_before_horizon"
  avoid := avoiderDecision = "avoid"

def scorePromotionPriorityV1 (row : AsofRow) (avoiderDecision avoiderReasonCodes : String) :
    PromotionPriorityV1Score :=
  if terminalCensored row then
    { decision := "censored"
      reasonCodes := ["terminal_inconclusive_censored"]
      confidenceBin := "CENSORED" }
  else if dataQuality row || invalidQuality row then
    { decision := "audit_only"
      reasonCodes := ["data_quality_excluded"]
      confidenceBin := "UNSAFE" }
  else if !boolish row "horizon_reached" then
    { decision := "insufficient_data"
      reasonCodes := ["insufficient_followup"]
      confidenceBin := "MISSING" }
  else (evidenceOf row avoiderDecision avoiderReasonCodes).score

end StrategyPipeline.PromotionPriority

end PumpLaunchTrader
