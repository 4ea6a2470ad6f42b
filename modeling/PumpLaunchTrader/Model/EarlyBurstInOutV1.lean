import PumpLaunchTrader.Model.DualStrategyTracks

/-! # The early-burst review, version 1 (`strategy_pipeline/early_burst_in_out_v1.py`)

A row that version 0 has scored is scored again, with the outcome row and the exit row of its
horizon. -/

namespace PumpLaunchTrader.StrategyPipeline.EarlyBurstInOutV1

open DualStrategyTracks

structure EarlyBurstV1Row where
  mint : String
  sliceId : String
  segmentId : String
  relaySessionId : String
  horizonSeconds : String
  decision : Decision
  reasonCodes : String
  topBlocker : String
  v1PromotedOrWouldPromote : String
  deadLaunchAvoiderDecision : Prefilter
  exitWindowGuardDecision : String
  exitWindowObservedOrMeasurable : String
  curveProgressBin : Bin
  buySellFollowthroughBin : Bin
  volumeFollowthroughBin : Bin
  holderGrowthBin : Bin
  sellPressureBin : Bin
  holderDevRiskBin : Bin
  liquidityRiskBin : Bin
  positiveOutcomeLabel : String
  highPositive : String
  maxFavorableProxy : String
  maxAdverseProxy : String
  finalOutcome : String
  cleanNegativeLabel : String
  censoredLabel : String
  candidateCheckpointSeen : String
  replayEligible : String
  backtestEligible : String
  paperTradingEligible : String
  liveTradingEligible : String
  walletAction : String
  tradeAction : String
  reviewGateOnly : String

def Bin.isPresent (bin : Bin) : Bool := bin = .low ∨ bin = .medium ∨ bin = .high

def evidencePresent (row : EarlyBurstRow) : List String :=
  (if Bin.isPresent row.curveProgressBin then ["early_curve_progress"] else []) ++
    (if Bin.isPresent row.buySellFollowthroughBin then ["early_buy_sell_followthrough"] else []) ++
    (if Bin.isPresent row.volumeFollowthroughBin then ["early_volume_followthrough"] else [])

def exitObserved (row : EarlyBurstRow) (positiveRow exitRow : Row) : Bool :=
  boolish (some row.exitWindowObservedOrMeasurable) ||
    boolish (positiveRow.lookup "forward_window_observed") ||
    boolish (exitRow.lookup "forward_window_observed")

/-- The cascade: the decision and its reasons. -/
def v1Decision (row : EarlyBurstRow) (positiveRow exitRow : Row) : Decision × List String :=
  if boolish (some row.censoredLabel) ∨ row.finalOutcome = "terminal_inconclusive" then
    (.censored, ["terminal_inconclusive_censored"])
  else if row.decision = .auditOnly ∨ row.topBlocker = "data_quality_excluded" ∨
      row.topBlocker = "degraded_audit_only" then
    (.auditOnly, [if "gap".toList <:+: row.reasonCodes.toList then
      "provider_or_relay_gap_exposed" else "missing_asof_features"])
  else if boolish (some row.candidateCheckpointSeen) then
    (.auditOnly, ["candidate_checkpoint_audit_only", "replay_not_allowed"])
  else if row.deadLaunchAvoiderPrefilter = .reject then (.reject, ["dead_launch_avoider_reject"])
  else if !boolish (some row.v1PromotedOrWouldPromote) then
    (.reject, ["v1_not_promoted_or_would_promote_absent"])
  else if !exitObserved row positiveRow exitRow then (.insufficientData, ["missing_horizon"])
  else if (evidencePresent row).isEmpty then (.reject, ["missing_asof_features"])
  else (.earlyBurstCandidateReview, ["v1_promoted_or_would_promote"] ++ evidencePresent row ++
    ["research_only_not_signal", "replay_not_allowed"])

/-- The reasons that go with any decision. -/
def riskReasons (row : EarlyBurstRow) (decision : Decision) : List String :=
  (if row.sellPressureBin.isRisk then ["adverse_sell_pressure_before_exit"] else []) ++
    (if row.holderDevRiskBin.isRisk then
      ["holder_concentration_risk", "dev_or_creator_holding_risk"] else []) ++
    (if row.liquidityRiskBin.isRisk then ["liquidity_exit_proxy"] else []) ++
    (if (row.curveProgressBin = .missing ∨ row.curveProgressBin = .low) ∧
        decision ≠ .earlyBurstCandidateReview then ["curve_progress_stall"] else []) ++
    (if decision ≠ .earlyBurstCandidateReview then ["replay_not_allowed"] else [])

/-- `first.get(field) or second.get(field, "")`. -/
def eitherText (first second : Row) (field : String) : String :=
  if first.text field = "" then second.text field else first.text field

def scoreEarlyBurstInOutV1 (row : EarlyBurstRow) (positiveRow exitRow : Row) : EarlyBurstV1Row :=
  let observed := exitObserved row positiveRow exitRow
  let decision := (v1Decision row positiveRow exitRow).1
  let reasons := (v1Decision row positiveRow exitRow).2 ++ riskReasons row decision
  { mint := row.mint
    sliceId := row.sliceId
    segmentId := row.segmentId
    relaySessionId := row.relaySessionId
    horizonSeconds := row.horizonSeconds
    decision
    reasonCodes := "|".intercalate reasons.eraseDups
    topBlocker := (reasons.find? fun reason => reason ≠ "research_only_not_signal").getD ""
    v1PromotedOrWouldPromote := boolText (boolish (some row.v1PromotedOrWouldPromote))
    deadLaunchAvoiderDecision := row.deadLaunchAvoiderPrefilter
    exitWindowGuardDecision :=
      if exitRow.text "decision" = "" then
        if observed then "observable" else "missing_horizon"
      else exitRow.text "decision"
    exitWindowObservedOrMeasurable := boolText observed
    curveProgressBin := row.curveProgressBin
    buySellFollowthroughBin := row.buySellFollowthroughBin
    volumeFollowthroughBin := row.volumeFollowthroughBin
    holderGrowthBin := row.holderGrowthBin
    sellPressureBin := row.sellPressureBin
    holderDevRiskBin := row.holderDevRiskBin
    liquidityRiskBin := row.liquidityRiskBin
    positiveOutcomeLabel := row.positiveOutcomeLabel
    highPositive := row.highPositive
    maxFavorableProxy := eitherText positiveRow exitRow "max_favorable_proxy"
    maxAdverseProxy := eitherText positiveRow exitRow "max_adverse_proxy"
    finalOutcome := row.finalOutcome
    cleanNegativeLabel := row.cleanNegativeLabel
    censoredLabel := row.censoredLabel
    candidateCheckpointSeen := row.candidateCheckpointSeen
    replayEligible := boolText false
    backtestEligible := "false"
    paperTradingEligible := "false"
    liveTradingEligible := "false"
    walletAction := "none"
    tradeAction := "none"
    reviewGateOnly := "true" }

end PumpLaunchTrader.StrategyPipeline.EarlyBurstInOutV1
