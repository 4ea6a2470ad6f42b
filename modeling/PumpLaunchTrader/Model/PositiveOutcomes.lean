import PumpLaunchTrader.Model.Schemas

/-! # Outcome labels (`strategy_pipeline/positive_outcomes.py`)

A label row is joined with the as-of rows of its mint, one for each horizon, and gets one
outcome for each decision horizon. -/

namespace PumpLaunchTrader.StrategyPipeline.PositiveOutcomes

def num (row : Option Row) (field : String) : Option Float :=
  row.bind fun row => if row.text field = "" then none else Python.float (row.text field)

def flag (row : Option Row) (field : String) : Bool :=
  row.any fun row => boolish (row.lookup field)

/-- `value or 0`. -/
def orZero : Option Float → Float
  | none => 0
  | some value => if value == 0 then 0 else value

/-- `max` of a list that is not empty. -/
def maximum (first : Float) (rest : List Float) : Float := rest.foldl Python.max first

/-! ## `strength_from_proxies` -/

inductive Strength where
  | high | positive | nearPositive | low
  deriving DecidableEq, Repr

/-- What `label_for` measures between the decision and the end of the window. -/
structure Proxies where
  curveEnd : Option Float
  curveMax : Option Float
  volumeForward : Float
  buySellForward : Float
  holderGrowth : Float
  liquidityForward : Float
  reserveForward : Float

namespace Proxies

variable (proxies : Proxies)

def maxFavorable : Float :=
  maximum (orZero proxies.curveMax)
    [orZero proxies.curveEnd,
      Python.min (Python.max proxies.buySellForward 0 * 5) 50,
      if 0 < proxies.volumeForward then 25 else 0,
      if 3 ≤ proxies.holderGrowth then 25 else 0,
      if 0 < proxies.liquidityForward ∧ 0 < proxies.reserveForward then 20 else 0]

def isHigh : Bool :=
  (proxies.curveEnd.any fun value => 75 ≤ value) ||
    (proxies.curveMax.any fun value => 80 ≤ value) ||
    (10 ≤ proxies.buySellForward && 0 < proxies.volumeForward && 5 ≤ proxies.holderGrowth) ||
    (0 < proxies.liquidityForward && 0 < proxies.reserveForward &&
      proxies.curveEnd.any fun value => 50 ≤ value)

def isPositive : Bool :=
  proxies.isHigh ||
    (proxies.curveEnd.any fun value => 35 ≤ value) ||
    (proxies.curveMax.any fun value => 45 ≤ value) ||
    (3 ≤ proxies.buySellForward && 0 < proxies.volumeForward) ||
    (0 < proxies.liquidityForward && 0 < proxies.reserveForward && 0 < proxies.buySellForward) ||
    (3 ≤ proxies.holderGrowth && 0 < proxies.buySellForward)

def isNear : Bool :=
  !proxies.isPositive &&
    ((proxies.curveEnd.any fun value => 28 ≤ value) ||
      2 ≤ proxies.buySellForward ||
      (0 < proxies.volumeForward && 0 < proxies.holderGrowth))

def strength : Strength :=
  if proxies.isHigh then .high
  else if proxies.isPositive then .positive
  else if proxies.isNear then .nearPositive
  else .low

def reasons : List String :=
  (proxies.curveEnd.toList.map fun value => "curve_progress_end_" ++ Python.fixedTwo value) ++
    (proxies.curveMax.toList.map fun value => "curve_progress_max_" ++ Python.fixedTwo value) ++
    (if proxies.buySellForward == 0 then []
      else ["buy_sell_forward_" ++ Python.fixedTwo proxies.buySellForward]) ++
    (if proxies.volumeForward == 0 then [] else ["volume_forward_positive"]) ++
    (if proxies.holderGrowth == 0 then []
      else ["holder_growth_forward_" ++ Python.fixedTwo proxies.holderGrowth]) ++
    (if 0 < proxies.liquidityForward ∧ 0 < proxies.reserveForward then
      ["liquidity_and_reserve_forward_positive"] else []) ++
    [match proxies.strength with
      | .high => "fixed_bin_high_positive"
      | .positive => "fixed_bin_positive"
      | .nearPositive => "fixed_bin_near_positive"
      | .low => "fixed_bin_weak_or_flat"]

end Proxies

def strengthFromProxies (proxies : Proxies) : Strength × List String × Float :=
  (proxies.strength, proxies.reasons, proxies.maxFavorable)

/-! ## `label_for` -/

inductive Outcome where
  | invalidQuality | censored | unknownInsufficientData | highPositive | positive | deadNegative
  | weakOrFlat
  deriving DecidableEq, Repr

structure OutcomeRow where
  mint : String
  sliceId : String
  segmentId : String
  relaySessionId : String
  decisionHorizonSeconds : ℤ
  forwardWindowSeconds : ℤ
  horizonReached : Bool
  forwardWindowObserved : Bool
  dataQualityExclusion : Bool
  finalOutcome : String
  rejectionReason : String
  terminalInconclusiveReason : String
  censoredLabel : Bool
  cleanNegativeLabel : Bool
  cleanPositiveCandidateLabel : Bool
  candidateCheckpointSeen : Bool
  replayEligible : Bool
  positiveOutcomeLabel : Outcome
  positiveOutcomeStrengthBin : Strength
  positiveOutcomeBasis : String
  positiveOutcomeReasonCodes : String
  curveProgressProxyStart : Option Float
  curveProgressProxyEnd : Option Float
  curveProgressProxyMax : Option Float
  liquidityDeltaForward : Float
  reserveDeltaForward : Float
  volumeDeltaForward : Float
  buySellDeltaForward : Float
  holderGrowthForward : Float
  holderConcentrationRiskForward : Float
  maxAdverseProxy : Float
  maxFavorableProxy : Float
  outcomeKnownAtEndOnly : Bool
  allowedForAlphaFeatures : Bool

def qualityFields : List String :=
  ["data_quality_exclusion", "provider_gap_exposed", "relay_gap_exposed", "sequence_gap_exposed",
    "hash_mismatch_exposed", "receiver_backpressure_exposed"]

def qualityExclusion (label : Row) (start stop : Option Row) : Bool :=
  [some label, start, stop].any fun row => qualityFields.any fun field => flag row field

def isCensored (label : Row) : Bool :=
  boolish (label.lookup "censored_label") || label.text "final_outcome" = "terminal_inconclusive"

/-- What a field gains between two rows. -/
def forward (start stop : Option Row) (field : String) : Float :=
  orZero (num stop field) - orZero (num start field)

/-- `future_rows[-1] if future_rows else start`. -/
def endRow (start : Option Row) (futureRows : List Row) : Option Row := futureRows.getLast?.or start

def proxiesOf (start : Option Row) (futureRows : List Row) : Proxies :=
  let stop := endRow start futureRows
  let curveValues := futureRows.filterMap fun row => num (some row) "curve_progress_proxy_asof"
  let curveEnd := curveValues.getLast?.or (num stop "curve_progress_proxy_asof")
  { curveEnd
    curveMax := match curveValues with
      | [] => curveEnd
      | first :: rest => some (maximum first rest)
    volumeForward := forward start stop "volume_delta_asof"
    buySellForward := forward start stop "net_buy_sell_delta_asof"
    holderGrowth := forward start stop "unique_holder_accounts_seen_asof"
    liquidityForward := forward start stop "liquidity_delta_asof"
    reserveForward := forward start stop "reserve_delta_asof" }

/-- The outcome and the reason that goes with it. -/
def outcomeFor (label : Row) (quality forwardObserved : Bool) (strength : Strength) :
    Outcome × String :=
  let finalOutcome := label.text "final_outcome"
  let cleanNegative := boolish (label.lookup "clean_negative_label")
  if quality then (.invalidQuality, "quality_exclusion_or_gap_exposed")
  else if isCensored label then (.censored, "terminal_or_countability_censored")
  else if !forwardObserved && !cleanNegative then
    (.unknownInsufficientData, "forward_window_not_observed")
  else if strength = .high then (.highPositive, "stream_proxy_high_positive")
  else if strength = .positive then (.positive, "stream_proxy_positive")
  else if cleanNegative ∨ "rejected".toList <:+: finalOutcome.toList ∨ finalOutcome = "dead" then
    (.deadNegative, "final_rejected_or_dead")
  else (.weakOrFlat, "no_fixed_positive_proxy")

/-- `int(row.get("horizon_seconds", "0") or 0)`, unless it raises. -/
def horizonSeconds (row : Row) : Option ℤ :=
  if row.text "horizon_seconds" = "" then some 0 else Python.int (row.text "horizon_seconds")

def maxAdverse (start stop : Option Row) : Float :=
  maximum (Python.min (forward start stop "liquidity_delta_asof") 0).abs
    [(Python.min (forward start stop "reserve_delta_asof") 0).abs,
      Python.max (orZero (num stop "top_holder_concentration_asof") - 0.85) 0 * 100,
      if flag stop "degraded_audit_only_before_horizon" then 100 else 0]

/-- The outcome of a label row for a decision horizon, unless a horizon of the future rows is
not a number. -/
def labelFor (label : Row) (start : Option Row) (futureRows : List Row) (decisionHorizon : ℤ) :
    Option OutcomeRow := do
  let stop := endRow start futureRows
  let reached := flag start "horizon_reached"
  let forwardObserved := !futureRows.isEmpty && reached
  let quality := qualityExclusion label start stop
  let proxies := proxiesOf start futureRows
  let (strength, strengthReasons, maxFavorable) := strengthFromProxies proxies
  let (outcome, reason) := outcomeFor label quality forwardObserved strength
  let observedHorizons ← futureRows.mapM horizonSeconds
  let endHorizon := observedHorizons.max?.getD decisionHorizon
  let named (field : String) : String :=
    (label.lookup field).getD ((start.map fun row => row.text field).getD "")
  some
    { mint := named "mint"
      sliceId := named "slice_id"
      segmentId := named "segment_id"
      relaySessionId := named "relay_session_id"
      decisionHorizonSeconds := decisionHorizon
      forwardWindowSeconds := max 0 (endHorizon - decisionHorizon)
      horizonReached := reached
      forwardWindowObserved := forwardObserved
      dataQualityExclusion := quality
      finalOutcome := label.text "final_outcome"
      rejectionReason := label.text "rejection_reason"
      terminalInconclusiveReason := label.text "terminal_inconclusive_reason"
      censoredLabel := isCensored label
      cleanNegativeLabel := boolish (label.lookup "clean_negative_label")
      cleanPositiveCandidateLabel := boolish (label.lookup "clean_positive_label")
      candidateCheckpointSeen := boolish (label.lookup "candidate_checkpoint_seen")
      replayEligible := boolish (label.lookup "replay_eligible")
      positiveOutcomeLabel := outcome
      positiveOutcomeStrengthBin := strength
      positiveOutcomeBasis := "stream_authoritative_proxy_bins"
      positiveOutcomeReasonCodes := "|".intercalate (strengthReasons ++ [reason])
      curveProgressProxyStart := num start "curve_progress_proxy_asof"
      curveProgressProxyEnd := proxies.curveEnd
      curveProgressProxyMax := proxies.curveMax
      liquidityDeltaForward := proxies.liquidityForward
      reserveDeltaForward := proxies.reserveForward
      volumeDeltaForward := proxies.volumeForward
      buySellDeltaForward := proxies.buySellForward
      holderGrowthForward := proxies.holderGrowth
      holderConcentrationRiskForward := orZero (num stop "top_holder_concentration_asof")
      maxAdverseProxy := maxAdverse start stop
      maxFavorableProxy := maxFavorable
      outcomeKnownAtEndOnly := true
      allowedForAlphaFeatures := false }

/-! ## `build_positive_outcome_labels` -/

/-- The row of a horizon, where it is there and the horizon was reached. -/
def reachedRow (byHorizon : KeyedMap ℤ Row) (horizon : ℤ) : Option Row :=
  (byHorizon.lookup horizon).filter fun row => flag (some row) "horizon_reached"

def futureRows (byHorizon : KeyedMap ℤ Row) (decisionHorizon : ℤ) : List Row :=
  (horizons.filter fun horizon => decisionHorizon ≤ horizon).filterMap (reachedRow byHorizon)

/-- The outcome that the loop over the horizons writes. -/
def outcomeRow (label : Row) (byHorizon : KeyedMap ℤ Row) (decisionHorizon : ℤ) :
    Option OutcomeRow :=
  labelFor label (byHorizon.lookup decisionHorizon) (futureRows byHorizon decisionHorizon)
    decisionHorizon

end PumpLaunchTrader.StrategyPipeline.PositiveOutcomes
