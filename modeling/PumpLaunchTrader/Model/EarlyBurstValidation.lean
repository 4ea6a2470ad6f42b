import PumpLaunchTrader.Model.Schemas

/-! # Validation rows (`strategy_pipeline/early_burst_validation.py`)

An outcome row is validated against the as-of rows of its mint: where the favourable and the
adverse proxies peak, and whether there was a window to leave. -/

namespace PumpLaunchTrader.StrategyPipeline.EarlyBurstValidation

def num : Option String → Float
  | none => 0
  | some text => if Python.strip text = "" then 0 else (Python.float text).getD 0

/-- `num(row.get(field)) if row else 0.0`. -/
def numOf (row : Option Row) (field : String) : Float :=
  (row.map fun row => num (row.lookup field)).getD 0

def descriptiveBin (value high medium : Float) (isMissing : Bool) : String :=
  if isMissing then "MISSING"
  else if high ≤ value then "HIGH"
  else if medium ≤ value then "MEDIUM"
  else "LOW"

/-! ## Proxies -/

def favorableProxy (row : Row) (start : Option Row) : Float :=
  if row.entries.isEmpty then 0
  else
    let baseCurve := numOf start "curve_progress_proxy_asof"
    let own := num (row.lookup "curve_progress_proxy_asof")
    let curve := Python.max (own - baseCurve) own
    [Python.min (Python.max (num (row.lookup "net_buy_sell_delta_asof")) 0 * 5) 50,
      if 0 < num (row.lookup "volume_delta_asof") then 25 else 0,
      if 3 ≤ num (row.lookup "new_holder_count_delta_asof") then 25 else 0].foldl Python.max curve

def adverseProxy (row : Row) (start : Option Row) : Float :=
  if row.entries.isEmpty then 0
  else
    let baseLiq := numOf start "liquidity_delta_asof"
    let baseReserve := numOf start "reserve_delta_asof"
    [(Python.min (num (row.lookup "reserve_delta_asof") - baseReserve) 0).abs,
      Python.max (num (row.lookup "top_holder_concentration_asof") - 0.85) 0 * 100,
      if boolish (row.lookup "degraded_audit_only_before_horizon") then 100 else 0,
      Python.max (num (row.lookup "sell_count_delta_asof") -
        num (row.lookup "buy_count_delta_asof")) 0 * 5].foldl Python.max
      (Python.min (num (row.lookup "liquidity_delta_asof") - baseLiq) 0).abs

/-- The row of a horizon, where it is there and the horizon was reached. -/
def reachedRow (byHorizon : KeyedMap ℤ Row) (horizon : ℤ) : Option Row :=
  (byHorizon.lookup horizon).filter fun row => boolish (row.lookup "horizon_reached")

/-- One pass of the loop over the horizons: the best horizon so far and its value. -/
def scanHorizon (byHorizon : KeyedMap ℤ Row) (decisionHorizon : ℤ)
    (proxy : Row → Option Row → Float) (best : Option ℤ × Float) (horizon : ℤ) :
    Option ℤ × Float :=
  if horizon < decisionHorizon then best
  else match reachedRow byHorizon horizon with
    | none => best
    | some row =>
        let value := proxy row (byHorizon.lookup decisionHorizon)
        if best.2 < value then (some horizon, value) else best

def peak (byHorizon : KeyedMap ℤ Row) (decisionHorizon : ℤ) (proxy : Row → Option Row → Float) :
    Option ℤ × Float :=
  horizons.foldl (scanHorizon byHorizon decisionHorizon proxy) (none, -1)

def timeToPeakMs (byHorizon : KeyedMap ℤ Row) (decisionHorizon : ℤ)
    (proxy : Row → Option Row → Float) : String × Float :=
  match peak byHorizon decisionHorizon proxy with
  | (none, _) => ("", 0)
  | (some best, value) => (toString (max 0 (best - decisionHorizon) * 1000), Python.max value 0)

def endRow (byHorizon : KeyedMap ℤ Row) (decisionHorizon : ℤ) : Option Row :=
  ((horizons.filter fun horizon => decisionHorizon ≤ horizon).filterMap
    (reachedRow byHorizon)).getLast?.or (byHorizon.lookup decisionHorizon)

/-! ## `build_validation_row` -/

def validationClass (row : Row) : String :=
  let label := row.lookup "positive_outcome_label"
  if label = some "high_positive" ∧ row.lookup "final_outcome" = some "early_rejected_dead" then
    "HIGH_POSITIVE_THEN_DEAD"
  else if label = some "positive" ∧ row.lookup "final_outcome" = some "early_rejected_dead" then
    "EARLY_BURST_THEN_DEAD"
  else if label = some "censored" ∨ boolish (row.lookup "censored_label") then
    "CENSORED_OR_INCOMPLETE"
  else if label = some "dead_negative" then "ORDINARY_CLEAN_DEAD"
  else if boolish (row.lookup "data_quality_exclusion") then "DATA_QUALITY_UNSAFE"
  else "NEEDS_MANUAL_REVIEW"

structure ValidationRow where
  mint : String
  sliceId : String
  segmentId : String
  relaySessionId : String
  decisionHorizonSeconds : ℤ
  forwardWindowSeconds : String
  horizonReached : String
  forwardWindowObserved : String
  dataQualityExclusion : String
  earlyBurstSetupDecision : String
  earlyBurstReasonCodes : String
  finalOutcome : String
  rejectionReason : String
  terminalInconclusiveReason : String
  positiveOutcomeLabel : String
  positiveOutcomeStrengthBin : String
  earlyBurstClass : String
  maxFavorableProxy : Float
  maxAdverseProxy : Float
  timeToMaxFavorableMs : String
  timeToMaxAdverseMs : String
  timeToRejectionMs : String
  timeToTerminalMs : String
  couldExitBeforeDeathProxy : Bool
  exitWindowObserved : Bool
  exitWindowQuality : String
  holderRiskBeforeBurst : String
  holderRiskAfterBurst : String
  vaultCurveProgressBeforeBurst : String
  vaultCurveProgressAfterBurst : String
  sellPressureBeforeBurst : String
  sellPressureAfterBurst : String
  candidateCheckpointSeen : String
  replayEligible : String
  backtestAllowed : Bool
  replayAllowed : Bool
  tradeAllowed : Bool

/-- `int(row.get("decision_horizon_seconds", "0") or 0)`, unless it raises. -/
def decisionHorizonSeconds (row : Row) : Option ℤ :=
  if row.text "decision_horizon_seconds" = "" then some 0
  else Python.int (row.text "decision_horizon_seconds")

/-- `int(float(text))`, unless it raises. -/
def wholeFloat (text : String) : Option ℤ := (Python.float text).bind Python.truncate

/-- Whether the favourable peak comes before the rejection, unless a time is not a number. -/
def exitObserved (row labelRow : Row) (timeToFavorable : String) : Option Bool :=
  let observed := timeToFavorable ≠ "" && boolish (row.lookup "forward_window_observed")
  if observed && labelRow.text "time_to_rejection_ms" ≠ "" then do
    let favorable ← wholeFloat timeToFavorable
    let rejection ← wholeFloat (labelRow.text "time_to_rejection_ms")
    some (favorable < rejection)
  else some observed

def holderRisk (row : Option Row) : String :=
  descriptiveBin (Python.max (numOf row "top_holder_concentration_asof")
    (numOf row "dev_or_creator_holding_proxy_asof").abs) 0.85 0.65 row.isNone

def curveProgress (row : Option Row) : String :=
  descriptiveBin (numOf row "curve_progress_proxy_asof") 75 35 row.isNone

def sellPressure (row : Option Row) : String :=
  descriptiveBin (numOf row "sell_count_delta_asof") 5 1 row.isNone

def buildValidationRow (row labelRow : Row) (byHorizon : KeyedMap ℤ Row) (score review : Row) :
    Option ValidationRow := do
  let decisionHorizon ← decisionHorizonSeconds row
  let start := byHorizon.lookup decisionHorizon
  let stop := endRow byHorizon decisionHorizon
  let (timeToFavorable, favorableValue) := timeToPeakMs byHorizon decisionHorizon favorableProxy
  let (timeToAdverse, adverseValue) := timeToPeakMs byHorizon decisionHorizon adverseProxy
  let favorable := Python.max favorableValue (num (row.lookup "max_favorable_proxy"))
  let adverse := Python.max adverseValue (num (row.lookup "max_adverse_proxy"))
  let observed ← exitObserved row labelRow timeToFavorable
  let label := row.lookup "positive_outcome_label"
  let isWinner : Bool := label = some "positive" ∨ label = some "high_positive"
  let couldExit := isWinner && observed && 0 < favorable && adverse ≤ favorable
  some
    { mint := row.text "mint"
      sliceId := row.text "slice_id"
      segmentId := row.text "segment_id"
      relaySessionId := row.text "relay_session_id"
      decisionHorizonSeconds := decisionHorizon
      forwardWindowSeconds := row.text "forward_window_seconds"
      horizonReached := row.text "horizon_reached"
      forwardWindowObserved := row.text "forward_window_observed"
      dataQualityExclusion := row.text "data_quality_exclusion"
      earlyBurstSetupDecision := score.text "decision"
      earlyBurstReasonCodes := score.text "reason_codes"
      finalOutcome := row.text "final_outcome"
      rejectionReason := row.text "rejection_reason"
      terminalInconclusiveReason := row.text "terminal_inconclusive_reason"
      positiveOutcomeLabel := row.text "positive_outcome_label"
      positiveOutcomeStrengthBin := row.text "positive_outcome_strength_bin"
      earlyBurstClass :=
        if isWinner then (review.lookup "early_burst_research_class").getD (validationClass row)
        else validationClass row
      maxFavorableProxy := favorable
      maxAdverseProxy := adverse
      timeToMaxFavorableMs := timeToFavorable
      timeToMaxAdverseMs := timeToAdverse
      timeToRejectionMs := labelRow.text "time_to_rejection_ms"
      timeToTerminalMs := labelRow.text "time_to_terminal_ms"
      couldExitBeforeDeathProxy := couldExit
      exitWindowObserved := observed
      exitWindowQuality :=
        if boolish (row.lookup "censored_label") ∨ label = some "censored" then "CENSORED"
        else if !observed then "MISSING"
        else if couldExit ∧ label = some "high_positive" then "HIGH"
        else if couldExit then "MEDIUM"
        else "UNSAFE"
      holderRiskBeforeBurst := holderRisk start
      holderRiskAfterBurst := holderRisk stop
      vaultCurveProgressBeforeBurst := curveProgress start
      vaultCurveProgressAfterBurst := curveProgress stop
      sellPressureBeforeBurst := sellPressure start
      sellPressureAfterBurst := sellPressure stop
      candidateCheckpointSeen := (row.lookup "candidate_checkpoint_seen").getD "false"
      replayEligible := (row.lookup "replay_eligible").getD "false"
      backtestAllowed := false
      replayAllowed := false
      tradeAllowed := false }

end PumpLaunchTrader.StrategyPipeline.EarlyBurstValidation
