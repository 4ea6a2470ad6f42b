import PumpLaunchTrader.Model.Schemas

/-! # The early-burst review, version 0 (`strategy_pipeline/dual_strategy_tracks.py`)

An as-of row is joined with the tables of labels, outcomes, promotions and exits, passes the
dead-launch prefilter and then a cascade of fixed bins. -/

namespace PumpLaunchTrader.StrategyPipeline.DualStrategyTracks

/-- Mint, slice and segment. -/
abbrev MintKey := String × String × String

/-- A mint's key with a horizon. -/
abbrev HorizonKey := MintKey × String

def keyFor (row : Row) : MintKey := (row.text "mint", row.text "slice_id", row.text "segment_id")

def horizonKey (row : Row) : HorizonKey := (keyFor row, row.text "horizon_seconds")

structure Context where
  labels : KeyedMap MintKey Row
  positivesByHorizon : KeyedMap HorizonKey Row
  positivesByKey : KeyedMap MintKey (List Row)
  v1ByHorizon : KeyedMap HorizonKey Row
  exitByHorizon : KeyedMap HorizonKey Row

/-! ## Numbers and bins -/

def num (row : Row) (field : String) : Option Float :=
  if row.text field = "" then none else Python.float (row.text field)

/-- `int(float(text))` or 0 where the text is no number; infinity raises. -/
def intish (text : String) : Option ℤ :=
  match Python.float text with
  | none => some 0
  | some value => if value.isInf then none else some ((Python.truncate value).getD 0)

/-- `value or other`. -/
def orElse (value other : Option Float) : Option Float :=
  match value with
  | none => other
  | some number => if number == 0 then other else some number

def orZero (value : Option Float) : Float := (orElse value none).getD 0

inductive Bin where
  | missing | low | medium | high | unsafeBin
  deriving DecidableEq, Repr

def binPositive (value : Option Float) (medium high : Float) : Bin :=
  match value with
  | none => .missing
  | some value =>
      if high ≤ value then .high
      else if medium ≤ value then .medium
      else if 0 < value then .low
      else .missing

def riskBin (value : Option Float) (medium high : Float) (unsafeFrom : Option Float) : Bin :=
  match value with
  | none => .missing
  | some value =>
      if unsafeFrom.any fun bound => bound ≤ value then .unsafeBin
      else if high ≤ value then .high
      else if medium ≤ value then .medium
      else .low

def Bin.isRisk (bin : Bin) : Bool := bin = .high ∨ bin = .unsafeBin

def boolText (value : Bool) : String := if value then "true" else "false"

/-! ## Context of a row -/

structure LabelContext where
  bestPositiveLabel : String
  highPositive : Bool
  finalOutcome : String
  cleanNegativeLabel : Bool
  censoredLabel : Bool
  candidateCheckpointSeen : Bool
  replayEligible : Bool

/-- The loop over the outcomes of a mint stops at a high positive one. -/
def bestPositive (rows : List Row) : String :=
  if rows.any fun item => item.text "positive_outcome_label" = "high_positive" then "high_positive"
  else if rows.any fun item => item.text "positive_outcome_label" = "positive" then "positive"
  else ""

def labelContext (row : Row) (ctx : Context) : LabelContext :=
  let label := (ctx.labels.lookup (keyFor row)).getD ∅
  let positive := (ctx.positivesByHorizon.lookup (horizonKey row)).getD ∅
  let best := bestPositive ((ctx.positivesByKey.lookup (keyFor row)).getD [])
  let bestLabel := if best = "" then positive.text "positive_outcome_label" else best
  { bestPositiveLabel := bestLabel
    highPositive := bestLabel = "high_positive" ∨
      positive.lookup "positive_outcome_strength_bin" = some "HIGH"
    finalOutcome := (label.lookup "final_outcome").getD (positive.text "final_outcome")
    cleanNegativeLabel := boolish (label.lookup "clean_negative_label") ||
      positive.lookup "positive_outcome_label" = some "dead_negative"
    censoredLabel := boolish (label.lookup "censored_label") ||
      boolish (positive.lookup "censored_label")
    candidateCheckpointSeen := boolish (label.lookup "candidate_checkpoint_seen") ||
      boolish (positive.lookup "candidate_checkpoint_seen")
    replayEligible := boolish (label.lookup "replay_eligible") ||
      boolish (positive.lookup "replay_eligible") }

/-- A row of the promotion table counts when it has a column; else the as-of row's own. -/
def v1WouldPromote (row : Row) (ctx : Context) : Bool :=
  let v1 := (ctx.v1ByHorizon.lookup (horizonKey row)).getD ∅
  if v1.entries.isEmpty then boolish (row.lookup "promotion_priority_v1_would_promote")
  else boolish (v1.lookup "promotion_priority_v1_would_promote")

def exitObserved (row : Row) (ctx : Context) : Bool :=
  let positive := (ctx.positivesByHorizon.lookup (horizonKey row)).getD ∅
  let exit := (ctx.exitByHorizon.lookup (horizonKey row)).getD ∅
  boolish (positive.lookup "forward_window_observed") ||
    boolish (exit.lookup "forward_window_observed")

/-! ## The prefilter -/

def dataQualityBlocked (row : Row) : Bool :=
  ["data_quality_exclusion", "provider_gap_exposed", "relay_gap_exposed", "sequence_gap_exposed",
    "hash_mismatch_exposed", "receiver_backpressure_exposed"].any fun field =>
      boolish (row.lookup field)

inductive Prefilter where
  | auditOnly | censored | reject | continueObservation
  deriving DecidableEq, Repr

def deadLaunchPrefilter (row : Row) : Prefilter × List String :=
  if dataQualityBlocked row then (.auditOnly, ["data_quality_excluded"])
  else if boolish (row.lookup "terminal_inconclusive_before_horizon") then
    (.censored, ["terminal_inconclusive_censored"])
  else if boolish (row.lookup "degraded_audit_only_before_horizon") then
    (.auditOnly, ["degraded_audit_only"])
  else if boolish (row.lookup "rejected_before_horizon") then
    (.reject, ["dead_launch_avoider_reject", "rejected_before_horizon"])
  else if boolish (row.lookup "holder_collapse_proxy_asof") then
    (.reject, ["dead_launch_avoider_reject", "holder_collapse_risk"])
  else if boolish (row.lookup "liquidity_exit_proxy_asof") then
    (.reject, ["dead_launch_avoider_reject", "liquidity_exit_proxy"])
  else (.continueObservation, ["no_obvious_dead_launch_risk_by_fixed_bins"])

/-! ## The score -/

inductive Decision where
  | insufficientData | censored | auditOnly | reject | earlyBurstCandidateReview
  deriving DecidableEq, Repr

structure EarlyBurstRow where
  mint : String
  sliceId : String
  segmentId : String
  relaySessionId : String
  horizonSeconds : String
  decision : Decision
  reasonCodes : String
  topBlocker : String
  curveProgressBin : Bin
  buySellFollowthroughBin : Bin
  volumeFollowthroughBin : Bin
  holderGrowthBin : Bin
  sellPressureBin : Bin
  holderDevRiskBin : Bin
  liquidityRiskBin : Bin
  v1PromotedOrWouldPromote : String
  deadLaunchAvoiderPrefilter : Prefilter
  exitWindowObservedOrMeasurable : String
  positiveOutcomeLabel : String
  highPositive : String
  finalOutcome : String
  cleanNegativeLabel : String
  censoredLabel : String
  candidateCheckpointSeen : String
  replayEligible : String
  tradeAction : String
  reviewGateOnly : String

def curveProgressBin (row : Row) : Bin := binPositive (num row "curve_progress_proxy_asof") 20 50

def buySellBin (row : Row) : Bin := binPositive (num row "net_buy_sell_delta_asof") 2 5

def volumeBin (row : Row) : Bin := binPositive (num row "volume_delta_asof") 1 1000000000

def holderGrowthBin (row : Row) : Bin :=
  binPositive (orElse (num row "new_holder_count_delta_asof")
    (num row "unique_holder_accounts_seen_asof")) 2 6

def sellPressureBin (row : Row) : Bin := riskBin (num row "sell_count_delta_asof") 2 5 (some 8)

def holderDevRiskBin (row : Row) : Bin :=
  riskBin (orElse (some (Python.max (orZero (num row "top_holder_concentration_asof"))
    (orZero (num row "dev_or_creator_holding_proxy_asof")))) none) 0.55 0.75 (some 0.9)

def liquidityDrawdown (row : Row) : Float :=
  match num row "liquidity_delta_asof" with
  | some delta => if delta < 0 then delta.abs else 0
  | none => 0

def liquidityRiskBin (row : Row) : Bin :=
  if boolish (row.lookup "liquidity_exit_proxy_asof") then .unsafeBin
  else riskBin (some (liquidityDrawdown row)) 1 10 none

/-- The cascade: the decision and the reasons it adds to those of the prefilter. -/
def earlyDecision (row : Row) (ctx : Context) (horizon : ℤ) : Decision × List String :=
  match (deadLaunchPrefilter row).1 with
  | .censored => (.censored, [])
  | .auditOnly => (.auditOnly, [])
  | .reject => (.reject, [])
  | .continueObservation =>
      if !boolish (row.lookup "horizon_reached") ∨ horizon < 5 then
        (.insufficientData, ["insufficient_followup"])
      else if !v1WouldPromote row ctx then (.reject, ["v1_not_promoted_or_would_promote_absent"])
      else if curveProgressBin row = .missing ∨ curveProgressBin row = .low then
        (.reject, ["early_curve_progress_weak_or_missing"])
      else if buySellBin row = .missing then
        (.reject, ["early_buy_sell_followthrough_weak_or_missing"])
      else if volumeBin row = .missing then (.reject, ["early_volume_followthrough_missing"])
      else if (sellPressureBin row).isRisk then (.reject, ["adverse_sell_pressure"])
      else if (holderDevRiskBin row).isRisk then (.reject, ["holder_or_dev_concentration_risk"])
      else if (liquidityRiskBin row).isRisk then (.reject, ["liquidity_exit_proxy"])
      else if !exitObserved row ctx then
        (.insufficientData, ["exit_window_not_observed_or_measurable"])
      else (.earlyBurstCandidateReview,
        ["v1_promoted_or_would_promote", "early_curve_progress", "early_buy_sell_followthrough",
          "early_volume_followthrough", "exit_window_observed"] ++
        if buySellBin row = .low then ["early_buy_sell_followthrough_low_but_present"] else [])

/-- All reasons of a row, those of the prefilter first. -/
def earlyReasons (row : Row) (ctx : Context) (horizon : ℤ) : List String :=
  (deadLaunchPrefilter row).2 ++ (earlyDecision row ctx horizon).2 ++
    if (earlyDecision row ctx horizon).1 ≠ .earlyBurstCandidateReview then
      ["review_only_no_replay_eligibility_created"]
    else []

def scoreEarlyBurstInOut (row : Row) (ctx : Context) : Option EarlyBurstRow := do
  let horizon ← intish (row.text "horizon_seconds")
  let label := labelContext row ctx
  let reasons := earlyReasons row ctx horizon
  some
    { mint := row.text "mint"
      sliceId := row.text "slice_id"
      segmentId := row.text "segment_id"
      relaySessionId := row.text "relay_session_id"
      horizonSeconds := row.text "horizon_seconds"
      decision := (earlyDecision row ctx horizon).1
      reasonCodes := "|".intercalate reasons.eraseDups
      topBlocker := (reasons.find? fun reason =>
        reason ≠ "no_obvious_dead_launch_risk_by_fixed_bins").getD ""
      curveProgressBin := curveProgressBin row
      buySellFollowthroughBin := buySellBin row
      volumeFollowthroughBin := volumeBin row
      holderGrowthBin := holderGrowthBin row
      sellPressureBin := sellPressureBin row
      holderDevRiskBin := holderDevRiskBin row
      liquidityRiskBin := liquidityRiskBin row
      v1PromotedOrWouldPromote := boolText (v1WouldPromote row ctx)
      deadLaunchAvoiderPrefilter := (deadLaunchPrefilter row).1
      exitWindowObservedOrMeasurable := boolText (exitObserved row ctx)
      positiveOutcomeLabel := label.bestPositiveLabel
      highPositive := boolText label.highPositive
      finalOutcome := label.finalOutcome
      cleanNegativeLabel := boolText label.cleanNegativeLabel
      censoredLabel := boolText label.censoredLabel
      candidateCheckpointSeen := boolText label.candidateCheckpointSeen
      replayEligible := boolText label.replayEligible
      tradeAction := "none"
      reviewGateOnly := "true" }

end PumpLaunchTrader.StrategyPipeline.DualStrategyTracks
