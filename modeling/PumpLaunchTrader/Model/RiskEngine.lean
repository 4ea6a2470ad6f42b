import PumpLaunchTrader.Model.Math
import Mathlib.Data.List.Infix

/-! # Diagnostic risk (`features::risk_engine`)

A snapshot of a token is turned into eleven rows of evidence. The scores of the snapshot are
averages over the rows that are available. -/

namespace PumpLaunchTrader.RiskEngine

inductive RiskSource where
  | stream | boundedRpc | metadataHttp | providerApi | rawShred | deshred
  deriving DecidableEq, Repr

inductive RiskTimeRole where
  | preEntryFeature | decisionTimeFeature | postEventLabel | enrichmentLateFeature
  deriving DecidableEq, Repr

def RiskTimeRole.preEntrySafe : RiskTimeRole → Bool
  | .preEntryFeature | .decisionTimeFeature => true
  | .postEventLabel | .enrichmentLateFeature => false

inductive DiagnosticRiskClassification where
  | lowRiskObserved | elevatedStreamRisk | elevatedEnrichmentRisk | bundleLikeStreamSignal
  | providerConfirmedBundle | fundingClusterSuspected | inconclusiveMissingEnrichment
  | providerConfirmationRequired | unsupported
  deriving DecidableEq, Repr

def clamp01 (value : Decimal) : Decimal := min (max value 0) 1

def average (values : List Decimal) : Decimal :=
  if values = [] then 0 else values.sum / values.length

/-! ## Evidence -/

structure RiskEvidence where
  riskId : String
  riskFamily : String
  source : RiskSource
  timeRole : RiskTimeRole
  score : Option Decimal
  confidence : Decimal
  unavailableReason : Option String
  evidence : List String
  deriving DecidableEq

namespace RiskEvidence

def available (riskId riskFamily : String) (source : RiskSource) (timeRole : RiskTimeRole)
    (score confidence : Decimal) (evidence : List String) : RiskEvidence where
  riskId := riskId
  riskFamily := riskFamily
  source := source
  timeRole := timeRole
  score := some (clamp01 score)
  confidence := clamp01 confidence
  unavailableReason := none
  evidence := evidence

def unavailable (riskId riskFamily : String) (source : RiskSource) (timeRole : RiskTimeRole)
    (reason : String) : RiskEvidence where
  riskId := riskId
  riskFamily := riskFamily
  source := source
  timeRole := timeRole
  score := none
  confidence := 0
  unavailableReason := some reason
  evidence := []

end RiskEvidence

structure RiskSnapshotInput where
  mint : String := ""
  topHolderPct : Option Decimal := none
  devHoldingPct : Option Decimal := none
  paperhand90PctCount : Option Decimal := none
  holderChurnRate : Option Decimal := none
  buyCount : Option Decimal := none
  uniqueBuyers : Option Decimal := none
  sameSlotTxCount : Option Decimal := none
  sameInstructionShapeCount : Option Decimal := none
  sameAccountListHashCount : Option Decimal := none
  sameSignerClusterCount : Option Decimal := none
  priorityFeeClusterCount : Option Decimal := none
  fakeMomentumStreamProxy : Option Bool := none
  sellAbsorptionStreamProxy : Option Bool := none
  metadataUriPresent : Option Bool := none
  metadataFetchSuccess : Option Bool := none
  socialCount : Option Decimal := none
  oneHopFunderCandidateCount : Option Decimal := none
  rpcSupplyMatchesCurveSupply : Option Bool := none
  rpcSupplyMismatchRatio : Option Decimal := none
  supplyDenominatorSource : Option String := none
  dataGapActive : Option Bool := none
  streamGapActive : Option Bool := none
  postMigrationSupported : Option Bool := none

structure RiskSnapshotOutput where
  mint : String
  riskScoreTotal : Decimal
  riskScoreStreamOnly : Decimal
  riskScoreEnrichment : Decimal
  riskClassification : DiagnosticRiskClassification
  denominatorSourceForMarketCap : String
  denominatorSourceForHolderPct : String
  rpcSupplyDiagnosticOnly : Bool
  supplySemanticsStatus : String
  supplyMismatchRatio : Option Decimal
  supplyDenominatorPolicyVersion : String
  riskEvidenceCount : ℕ
  riskConfidence : Decimal
  unavailableRiskFamilies : List String
  blockingDataQualityReasons : List String
  preEntrySafeFeatures : List String
  postEventOnlyLabels : List String
  evidence : List RiskEvidence

structure DiagnosticRiskEngine where
  highConcentrationPct : Decimal := 80 / 100
  highSameSlotCount : Decimal := 2
  lowUniqueBuyerRatio : Decimal := 50 / 100

/-! ## The rows -/

namespace DiagnosticRiskEngine

variable (self : DiagnosticRiskEngine) (input : RiskSnapshotInput)

def holderConcentration : RiskEvidence :=
  match input.topHolderPct with
  | some top =>
      .available "holder_concentration_risk" "holder_concentration_risk" .stream
        .decisionTimeFeature (top / self.highConcentrationPct) 1
        ["top_holder_pct=" ++ Decimal.display top]
  | none =>
      .unavailable "holder_concentration_risk" "holder_concentration_risk" .stream
        .decisionTimeFeature "missing_stream_holder_snapshot"

def devExit : RiskEvidence :=
  match input.devHoldingPct with
  | some value =>
      .available "dev_exit_risk" "dev_exit_risk" .stream .decisionTimeFeature
        (if value ≤ 1 / 100 then 25 / 100 else 5 / 100) 1
        ["dev_holding_pct=" ++ Decimal.display value]
  | none =>
      .unavailable "dev_exit_risk" "dev_exit_risk" .stream .decisionTimeFeature
        "missing_stream_dev_holder_state"

def holderChurn : RiskEvidence :=
  match input.holderChurnRate with
  | some churn =>
      .available "holder_churn_risk" "holder_churn_risk" .stream .decisionTimeFeature churn
        (8 / 10) ["holder_churn_rate=" ++ Decimal.display churn]
  | none =>
      match input.paperhand90PctCount with
      | some count =>
          .available "paperhand_90pct_risk" "paperhand_90pct_risk" .stream .decisionTimeFeature
            (count / 10) (7 / 10) ["paperhand_90pct_count=" ++ Decimal.display count]
      | none =>
          .unavailable "holder_churn_risk" "holder_churn_risk" .stream .decisionTimeFeature
            "holder_churn_not_in_canary_artifact"

def bundleLike : RiskEvidence :=
  let sameSlot := input.sameSlotTxCount.getD 0
  let sameShape := input.sameInstructionShapeCount.getD 0
  let accountCluster := input.sameAccountListHashCount.getD 0
  let signerCluster := input.sameSignerClusterCount.getD 0
  let priorityCluster := input.priorityFeeClusterCount.getD 0
  let score := sameSlot / self.highSameSlotCount + sameShape / 3 + accountCluster / 3 +
    signerCluster / 3 + priorityCluster / 3
  .available "same_slot_bundle_like_risk" "bundle_like_risk" .stream .decisionTimeFeature
    (score / 5) (8 / 10)
    ["same_slot_tx_count=" ++ Decimal.display sameSlot, "provider_confirmed_bundle=false"]

def fakeMomentum : RiskEvidence :=
  let missing : RiskEvidence :=
    .unavailable "fake_momentum_risk" "fake_momentum_risk" .stream .decisionTimeFeature
      "requires_unique_buyer_and_holder_context"
  match input.fakeMomentumStreamProxy, input.buyCount, input.uniqueBuyers with
  | some flag, _, _ =>
      .available "fake_momentum_risk" "fake_momentum_risk" .stream .decisionTimeFeature
        (if flag then 70 / 100 else 5 / 100) (8 / 10)
        ["fake_momentum_stream_proxy=" ++ toString flag]
  | none, some buys, some unique =>
      if 0 < buys then
        let uniqueRatio := unique / buys
        .available "fake_momentum_risk" "fake_momentum_risk" .stream .decisionTimeFeature
          (clamp01 ((self.lowUniqueBuyerRatio - uniqueRatio) / self.lowUniqueBuyerRatio))
          (7 / 10)
          ["buy_count=" ++ Decimal.display buys, "unique_buyers=" ++ Decimal.display unique]
      else missing
  | none, _, _ => missing

def sellAbsorption : RiskEvidence :=
  match input.sellAbsorptionStreamProxy with
  | some flag =>
      .available "sell_absorption_failure_risk" "sell_absorption_failure_risk" .stream
        .decisionTimeFeature (if flag then 15 / 100 else 55 / 100) (7 / 10)
        ["sell_absorption_stream_proxy=" ++ toString flag]
  | none =>
      .unavailable "sell_absorption_failure_risk" "sell_absorption_failure_risk" .stream
        .decisionTimeFeature "missing_sell_absorption_context"

/-- The row is one of the stream where the stream already says that there is no link. -/
def metadataSocial : RiskEvidence :=
  match input.metadataUriPresent, input.metadataFetchSuccess with
  | some false, _ =>
      .available "metadata_social_absence_risk" "metadata_social_risk" .stream
        .decisionTimeFeature (50 / 100) (7 / 10) ["metadata_uri_present=false"]
  | _, some success =>
      let socialCount := input.socialCount.getD 0
      .available "metadata_social_absence_risk" "metadata_social_risk" .metadataHttp
        .enrichmentLateFeature (if success ∧ 0 < socialCount then 5 / 100 else 35 / 100) (7 / 10)
        ["metadata_fetch_success=" ++ toString success,
          "social_count=" ++ Decimal.display socialCount]
  | _, none =>
      .unavailable "metadata_social_absence_risk" "metadata_social_risk" .metadataHttp
        .enrichmentLateFeature "metadata_http_not_run"

def funding : RiskEvidence :=
  match input.oneHopFunderCandidateCount with
  | some count =>
      .available "common_funder_risk" "funding_common_funder_risk" .boundedRpc
        .enrichmentLateFeature (count / 3) (45 / 100)
        ["one_hop_funder_candidate_count=" ++ Decimal.display count,
          "bounded_one_hop_only=true"]
  | none =>
      .unavailable "common_funder_risk" "funding_common_funder_risk" .boundedRpc
        .enrichmentLateFeature "bounded_funding_graph_not_run"

def supplySemantics : RiskEvidence :=
  let canonical := "canonical_denominator=" ++
    input.supplyDenominatorSource.getD "curve_economic_supply"
  match input.rpcSupplyMatchesCurveSupply with
  | some true =>
      .available "supply_semantics_risk" "supply_semantics_risk" .boundedRpc
        .enrichmentLateFeature (5 / 100) (8 / 10)
        ["rpc_supply_matches_curve_supply=true", canonical]
  | some false =>
      .available "supply_semantics_risk" "supply_semantics_risk" .boundedRpc
        .enrichmentLateFeature (input.rpcSupplyMismatchRatio.getD 1) (9 / 10)
        ["rpc_supply_matches_curve_supply=false",
          "rpc_mint_supply_not_canonical_for_pumpfun_denominator", canonical]
  | none =>
      .unavailable "supply_semantics_risk" "supply_semantics_risk" .boundedRpc
        .enrichmentLateFeature "rpc_supply_semantics_not_checked"

def dataQuality : RiskEvidence :=
  let active := input.dataGapActive.getD false || input.streamGapActive.getD false
  .available "data_quality_risk" "data_quality_risk" .stream .decisionTimeFeature
    (if active then 1 else 0) 1 ["data_or_stream_gap_active=" ++ toString active]

def postMigration : RiskEvidence :=
  match input.postMigrationSupported with
  | some true =>
      .available "post_migration_unknown_risk" "post_migration_unknown_risk" .stream
        .decisionTimeFeature 0 (6 / 10) ["post_migration_supported=true"]
  | some false =>
      .available "post_migration_unknown_risk" "post_migration_unknown_risk" .stream
        .decisionTimeFeature (30 / 100) (5 / 10) ["post_migration_supported=false"]
  | none =>
      .unavailable "post_migration_unknown_risk" "post_migration_unknown_risk" .stream
        .decisionTimeFeature "migration_not_observed_or_not_applicable"

/-! ## The snapshot -/

/-- The rows in the order they are pushed. -/
def rows : List RiskEvidence :=
  [self.holderConcentration input, devExit input, holderChurn input, self.bundleLike input,
    self.fakeMomentum input, sellAbsorption input, metadataSocial input, funding input,
    supplySemantics input, dataQuality input, postMigration input]

def evaluate : RiskSnapshotOutput :=
  let evidence := self.rows input
  let available := evidence.filter (·.score.isSome)
  let streamScores := (available.filter (·.source = .stream)).filterMap (·.score)
  let enrichmentScores := (available.filter fun row =>
    row.source = .boundedRpc ∨ row.source = .metadataHttp).filterMap (·.score)
  let allScores := available.filterMap (·.score)
  let riskScoreStreamOnly := average streamScores
  let hasProviderConfirmedBundle := evidence.any fun row =>
    row.riskId = "provider_confirmation_required" ∧
      row.evidence.any (· = "provider_confirmed_bundle")
  let hasBundleLike := evidence.any fun row =>
    "bundle_like".toList <:+: row.riskId.toList ∧ 35 / 100 < row.score.getD 0
  let hasEnrichmentRisk := enrichmentScores.any (35 / 100 < ·)
  { mint := input.mint
    riskScoreTotal := average allScores
    riskScoreStreamOnly := riskScoreStreamOnly
    riskScoreEnrichment := average enrichmentScores
    riskClassification :=
      if hasProviderConfirmedBundle then .providerConfirmedBundle
      else if hasBundleLike then .bundleLikeStreamSignal
      else if hasEnrichmentRisk then .elevatedEnrichmentRisk
      else if 35 / 100 < riskScoreStreamOnly then .elevatedStreamRisk
      else if allScores = [] then .inconclusiveMissingEnrichment
      else .lowRiskObserved
    denominatorSourceForMarketCap := "curve_economic_supply_or_protocol_constant"
    denominatorSourceForHolderPct := input.supplyDenominatorSource.getD "curve_economic_supply"
    rpcSupplyDiagnosticOnly := true
    supplySemanticsStatus :=
      match input.rpcSupplyMatchesCurveSupply with
      | some true => "rpc_mint_supply_matches_curve_economic_supply"
      | some false => "rpc_mint_supply_diagnostic_only_mismatch"
      | none => "rpc_supply_semantics_not_checked"
    supplyMismatchRatio := input.rpcSupplyMismatchRatio
    supplyDenominatorPolicyVersion := "phase102.supply_denominator.v1"
    riskEvidenceCount := available.length
    riskConfidence := average (available.map (·.confidence))
    unavailableRiskFamilies := (evidence.filter (·.score.isNone)).map (·.riskFamily)
    blockingDataQualityReasons := (evidence.filterMap (·.unavailableReason)).filter fun reason =>
      "data_gap".toList <:+: reason.toList ∨ "stream_gap".toList <:+: reason.toList
    preEntrySafeFeatures := (evidence.filter (·.timeRole.preEntrySafe)).map (·.riskId)
    postEventOnlyLabels := (evidence.filter (·.timeRole = .postEventLabel)).map (·.riskId)
    evidence := evidence }

end DiagnosticRiskEngine

end PumpLaunchTrader.RiskEngine
