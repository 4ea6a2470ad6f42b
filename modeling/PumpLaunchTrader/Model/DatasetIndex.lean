import PumpLaunchTrader.Lib.Json
import PumpLaunchTrader.Lib.Registry
import PumpLaunchTrader.Model.Math

/-! # The dataset index (`cli`)

The index of the runs that several machines keep in one bucket. A machine downloads it, merges
the entries of its own runs into it and uploads the result. The fields of an entry that the
merge does not name are those of the entry that comes in; they are kept together as `rest`. -/

namespace PumpLaunchTrader

/-! ## Which value is kept -/

def preferNonemptyString (incoming existing : String) : String :=
  Registry.prefer "" existing incoming

/-- `prefer_some_string`, and `or` on the other optional fields. -/
def preferSome {α : Type} (incoming existing : Option α) : Option α := incoming.or existing

/-- `prefer_nonzero_u64` and `prefer_nonzero_usize`. -/
def preferNonzero (incoming existing : ℕ) : ℕ := Registry.prefer 0 existing incoming

def preferNonzeroDecimal (incoming existing : Decimal) : Decimal :=
  Registry.prefer 0 existing incoming

/-- Blank texts are dropped. -/
def unionStringLists (incoming existing : List String) : List String :=
  Registry.union (fun value => trimText value ≠ "") existing incoming

def finalizationStatusRank (value : String) : ℕ :=
  if value = "completed" then 5
  else if value = "uploading_manifest" then 4
  else if value = "building_manifest" then 3
  else if value = "manifest_initialized" then 2
  else if value = "segment_finalized" then 1
  else 0

def strongerFinalizationStatus (incoming existing : String) : String :=
  Registry.stronger finalizationStatusRank "" existing incoming

def runStatusRank (value : String) : ℕ :=
  if value = "completed_verified" then 7
  else if value = "completed_with_warnings" then 6
  else if value = "completed_object_verified_manifest_drift" then 5
  else if value = "completed_partial_upload" then 4
  else if value = "completed_partial_unverified" then 3
  else if value = "failed_recoverable" then 2
  else if value = "failed_unrecoverable" then 1
  else 0

def strongerRunStatus (incoming existing : String) : String :=
  Registry.stronger runStatusRank "" existing incoming

/-- The first one is the default. -/
inductive BacktestReadinessLevel where
  | notReady
  | smokeOnly
  | basicFeatureDistributionReady
  | singleRunBacktestReady
  | multiRunBacktestReady
  | walkForwardCandidate
  | productionCandidateNever
  deriving DecidableEq, Repr, Inhabited

def preferNondefaultReadinessLevel (incoming existing : BacktestReadinessLevel) :
    BacktestReadinessLevel :=
  Registry.prefer default existing incoming

/-! ## Entries -/

/-- How far the run and its upload got. -/
structure ManifestEvidence where
  runStatus : String := ""
  finalizationStatus : String := ""
  localManifestPath : String := ""
  remoteManifestKey : String := ""
  r2FullVerificationStatus : String := ""
  r2ObjectVerificationStatus : String := ""
  r2FullConsistencyStatus : String := ""

structure EdgeEvidence where
  edgeMode : Bool := false
  edgeSegmentsCount : ℕ := 0
  edgeSegmentsVerified : ℕ := 0
  edgeSegmentsRemoteBytes : ℕ := 0
  edgeSegmentsLocalBytes : ℕ := 0
  normalizedEventsSegmentsCount : ℕ := 0
  normalizedEventsSegmentsVerified : ℕ := 0
  sourceEventsSegmentsCount : ℕ := 0
  sourceEventsSegmentsVerified : ℕ := 0
  edgeEventsSegmentsCount : ℕ := 0
  edgeTransactionsSegmentsCount : ℕ := 0
  edgeAccountsSegmentsCount : ℕ := 0
  edgeSlotsSegmentsCount : ℕ := 0
  edgeDataGapsSegmentsCount : ℕ := 0
  edgeSourceReady : Bool := false
  edgeSourceComplete : Bool := false
  edgeDatasetComplete : Bool := false

structure ResearchEvidence where
  researchOutputsAvailable : Bool := false
  researchWorkerProcessed : Bool := false
  researchLatestDerivedRunId : Option String := none
  researchOutputsRemotePrefix : Option String := none
  featureOutputsRemoteKey : Option String := none
  backtestOutputsRemoteKey : Option String := none
  calibrationOutputsRemoteKey : Option String := none
  decisionOutputsRemoteKey : Option String := none
  fillOutputsRemoteKey : Option String := none
  researchManifestRemoteKey : Option String := none
  researchR2Verified : Bool := false
  researchR2VerifiedCount : ℕ := 0
  researchR2FailedCount : ℕ := 0
  researchDerivedReady : Bool := false
  researchDerivedReadinessLevel : BacktestReadinessLevel := default
  researchReplayConfidence : Decimal := 0

structure MathEvidence where
  mathVersion : Option String := none
  holderMathVersion : Option String := none
  mathCorrectnessStatus : Option String := none
  holderParityStatus : Option String := none
  topHolderParityStatus : Option String := none
  devHoldingParityStatus : Option String := none
  holderInvariantStatus : Option String := none
  holderParityPassed : ℕ := 0
  holderParityFailed : ℕ := 0
  holderParityUnavailable : ℕ := 0
  topHolderParityPassed : ℕ := 0
  topHolderParityFailed : ℕ := 0
  topHolderParityUnavailable : ℕ := 0
  devHoldingParityPassed : ℕ := 0
  devHoldingParityFailed : ℕ := 0
  executablePnlTotal : Option Decimal := none
  rawPnlTotal : Option Decimal := none
  artifactExcludedPnlTotal : Option Decimal := none
  thresholdTuningAllowed : Bool := false
  metricParityV2 : Option Json.Value := none
  readinessV2 : Option Json.Value := none
  labelGeneratorVersion : Option String := none
  canonicalLabelStatus : Option String := none
  priceCoverageStatus : Option String := none
  marketCapCoverageStatus : Option String := none
  curveProgressCoverageStatus : Option String := none
  mfeMaeLabelStatus : Option String := none
  diagnosticBacktestPackStatus : Option String := none
  diagnosticBacktestingAllowed : Bool := false
  canonicalPricePathVersion : Option String := none
  curveCoverageStatus : Option String := none
  labelCoverageStatus : Option String := none
  diagnosticBacktestInterpretationStatus : Option String := none
  diagnosticBacktestPhase : Option String := none
  diagnosticBacktestStatus : Option String := none
  hypothesisShortlistAvailable : Bool := false

/-- The warnings under which a run is replayed. -/
structure ReplayWarnings where
  fallbackUsed : Bool := false
  fallbackReason : Option String := none
  fallbackSource : Option String := none
  segmentWarningCount : ℕ := 0
  normalizedEventsMissing : Bool := false
  invalidSegmentCount : ℕ := 0
  invalidSegments : List String := []
  unresolvedSegmentWarnings : List String := []
  fallbackReplayAffected : Bool := false
  normalizedReplayWarning : Bool := false
  normalizedReplayAffected : Bool := false
  normalizedInvalidSegmentCount : ℕ := 0
  sourceFallbackWarning : Bool := false
  sourceFallbackAffected : Bool := false

structure DatasetIndexRunEntry (ρ : Type) extends ManifestEvidence, EdgeEvidence,
    ResearchEvidence, MathEvidence, ReplayWarnings where
  runId : String
  rest : ρ

/-! ## Merging -/

def ManifestEvidence.merge (existing incoming : ManifestEvidence) : ManifestEvidence where
  runStatus := strongerRunStatus incoming.runStatus existing.runStatus
  finalizationStatus :=
    strongerFinalizationStatus incoming.finalizationStatus existing.finalizationStatus
  localManifestPath := preferNonemptyString incoming.localManifestPath existing.localManifestPath
  remoteManifestKey := preferNonemptyString incoming.remoteManifestKey existing.remoteManifestKey
  r2FullVerificationStatus :=
    preferNonemptyString incoming.r2FullVerificationStatus existing.r2FullVerificationStatus
  r2ObjectVerificationStatus :=
    preferNonemptyString incoming.r2ObjectVerificationStatus existing.r2ObjectVerificationStatus
  r2FullConsistencyStatus :=
    preferNonemptyString incoming.r2FullConsistencyStatus existing.r2FullConsistencyStatus

def EdgeEvidence.merge (existing incoming : EdgeEvidence) : EdgeEvidence where
  edgeMode := incoming.edgeMode || existing.edgeMode
  edgeSegmentsCount := preferNonzero incoming.edgeSegmentsCount existing.edgeSegmentsCount
  edgeSegmentsVerified := preferNonzero incoming.edgeSegmentsVerified existing.edgeSegmentsVerified
  edgeSegmentsRemoteBytes :=
    preferNonzero incoming.edgeSegmentsRemoteBytes existing.edgeSegmentsRemoteBytes
  edgeSegmentsLocalBytes :=
    preferNonzero incoming.edgeSegmentsLocalBytes existing.edgeSegmentsLocalBytes
  normalizedEventsSegmentsCount :=
    preferNonzero incoming.normalizedEventsSegmentsCount existing.normalizedEventsSegmentsCount
  normalizedEventsSegmentsVerified :=
    preferNonzero incoming.normalizedEventsSegmentsVerified
      existing.normalizedEventsSegmentsVerified
  sourceEventsSegmentsCount :=
    preferNonzero incoming.sourceEventsSegmentsCount existing.sourceEventsSegmentsCount
  sourceEventsSegmentsVerified :=
    preferNonzero incoming.sourceEventsSegmentsVerified existing.sourceEventsSegmentsVerified
  edgeEventsSegmentsCount :=
    preferNonzero incoming.edgeEventsSegmentsCount existing.edgeEventsSegmentsCount
  edgeTransactionsSegmentsCount :=
    preferNonzero incoming.edgeTransactionsSegmentsCount existing.edgeTransactionsSegmentsCount
  edgeAccountsSegmentsCount :=
    preferNonzero incoming.edgeAccountsSegmentsCount existing.edgeAccountsSegmentsCount
  edgeSlotsSegmentsCount :=
    preferNonzero incoming.edgeSlotsSegmentsCount existing.edgeSlotsSegmentsCount
  edgeDataGapsSegmentsCount :=
    preferNonzero incoming.edgeDataGapsSegmentsCount existing.edgeDataGapsSegmentsCount
  edgeSourceReady := incoming.edgeSourceReady || existing.edgeSourceReady
  edgeSourceComplete := incoming.edgeSourceComplete || existing.edgeSourceComplete
  edgeDatasetComplete := incoming.edgeDatasetComplete || existing.edgeDatasetComplete

/-- `incoming_has_research_semantics`. -/
def ResearchEvidence.hasResearchSemantics (self : ResearchEvidence) : Bool :=
  self.researchWorkerProcessed || self.researchOutputsAvailable ||
    self.researchLatestDerivedRunId.isSome

def ResearchEvidence.merge (existing incoming : ResearchEvidence) : ResearchEvidence where
  researchOutputsAvailable := incoming.researchOutputsAvailable || existing.researchOutputsAvailable
  researchWorkerProcessed := incoming.researchWorkerProcessed || existing.researchWorkerProcessed
  researchLatestDerivedRunId :=
    preferSome incoming.researchLatestDerivedRunId existing.researchLatestDerivedRunId
  researchOutputsRemotePrefix :=
    preferSome incoming.researchOutputsRemotePrefix existing.researchOutputsRemotePrefix
  featureOutputsRemoteKey :=
    preferSome incoming.featureOutputsRemoteKey existing.featureOutputsRemoteKey
  backtestOutputsRemoteKey :=
    preferSome incoming.backtestOutputsRemoteKey existing.backtestOutputsRemoteKey
  calibrationOutputsRemoteKey :=
    preferSome incoming.calibrationOutputsRemoteKey existing.calibrationOutputsRemoteKey
  decisionOutputsRemoteKey :=
    preferSome incoming.decisionOutputsRemoteKey existing.decisionOutputsRemoteKey
  fillOutputsRemoteKey := preferSome incoming.fillOutputsRemoteKey existing.fillOutputsRemoteKey
  researchManifestRemoteKey :=
    preferSome incoming.researchManifestRemoteKey existing.researchManifestRemoteKey
  researchR2Verified := incoming.researchR2Verified || existing.researchR2Verified
  researchR2VerifiedCount :=
    preferNonzero incoming.researchR2VerifiedCount existing.researchR2VerifiedCount
  researchR2FailedCount :=
    preferNonzero incoming.researchR2FailedCount existing.researchR2FailedCount
  researchDerivedReady := incoming.researchDerivedReady || existing.researchDerivedReady
  researchDerivedReadinessLevel :=
    preferNondefaultReadinessLevel incoming.researchDerivedReadinessLevel
      existing.researchDerivedReadinessLevel
  researchReplayConfidence :=
    preferNonzeroDecimal incoming.researchReplayConfidence existing.researchReplayConfidence

/-- `incoming_has_math_semantics`. -/
def MathEvidence.hasMathSemantics (self : MathEvidence) : Bool :=
  self.mathCorrectnessStatus.isSome || self.holderMathVersion.isSome ||
    self.holderParityStatus.isSome || self.topHolderParityStatus.isSome ||
    self.devHoldingParityStatus.isSome || self.executablePnlTotal.isSome ||
    self.metricParityV2.isSome || self.readinessV2.isSome ||
    self.labelGeneratorVersion.isSome || self.canonicalLabelStatus.isSome ||
    self.canonicalPricePathVersion.isSome || self.curveCoverageStatus.isSome ||
    self.labelCoverageStatus.isSome || self.diagnosticBacktestInterpretationStatus.isSome ||
    self.diagnosticBacktestPhase.isSome || self.diagnosticBacktestStatus.isSome ||
    self.hypothesisShortlistAvailable

/-- A count of an entry with math semantics stands, also where it is zero. -/
def mathCount (hasMath : Bool) (incoming existing : ℕ) : ℕ :=
  if hasMath then incoming else preferNonzero incoming existing

def MathEvidence.merge (existing incoming : MathEvidence) : MathEvidence where
  mathVersion := preferSome incoming.mathVersion existing.mathVersion
  holderMathVersion := preferSome incoming.holderMathVersion existing.holderMathVersion
  mathCorrectnessStatus := preferSome incoming.mathCorrectnessStatus existing.mathCorrectnessStatus
  holderParityStatus := preferSome incoming.holderParityStatus existing.holderParityStatus
  topHolderParityStatus := preferSome incoming.topHolderParityStatus existing.topHolderParityStatus
  devHoldingParityStatus :=
    preferSome incoming.devHoldingParityStatus existing.devHoldingParityStatus
  holderInvariantStatus := preferSome incoming.holderInvariantStatus existing.holderInvariantStatus
  holderParityPassed :=
    mathCount incoming.hasMathSemantics incoming.holderParityPassed existing.holderParityPassed
  holderParityFailed :=
    mathCount incoming.hasMathSemantics incoming.holderParityFailed existing.holderParityFailed
  holderParityUnavailable :=
    mathCount incoming.hasMathSemantics incoming.holderParityUnavailable
      existing.holderParityUnavailable
  topHolderParityPassed :=
    mathCount incoming.hasMathSemantics incoming.topHolderParityPassed
      existing.topHolderParityPassed
  topHolderParityFailed :=
    mathCount incoming.hasMathSemantics incoming.topHolderParityFailed
      existing.topHolderParityFailed
  topHolderParityUnavailable :=
    mathCount incoming.hasMathSemantics incoming.topHolderParityUnavailable
      existing.topHolderParityUnavailable
  devHoldingParityPassed :=
    mathCount incoming.hasMathSemantics incoming.devHoldingParityPassed
      existing.devHoldingParityPassed
  devHoldingParityFailed :=
    mathCount incoming.hasMathSemantics incoming.devHoldingParityFailed
      existing.devHoldingParityFailed
  executablePnlTotal := preferSome incoming.executablePnlTotal existing.executablePnlTotal
  rawPnlTotal := preferSome incoming.rawPnlTotal existing.rawPnlTotal
  artifactExcludedPnlTotal :=
    preferSome incoming.artifactExcludedPnlTotal existing.artifactExcludedPnlTotal
  thresholdTuningAllowed :=
    incoming.thresholdTuningAllowed &&
      (existing.thresholdTuningAllowed || incoming.hasMathSemantics)
  metricParityV2 := preferSome incoming.metricParityV2 existing.metricParityV2
  readinessV2 := preferSome incoming.readinessV2 existing.readinessV2
  labelGeneratorVersion := preferSome incoming.labelGeneratorVersion existing.labelGeneratorVersion
  canonicalLabelStatus := preferSome incoming.canonicalLabelStatus existing.canonicalLabelStatus
  priceCoverageStatus := preferSome incoming.priceCoverageStatus existing.priceCoverageStatus
  marketCapCoverageStatus :=
    preferSome incoming.marketCapCoverageStatus existing.marketCapCoverageStatus
  curveProgressCoverageStatus :=
    preferSome incoming.curveProgressCoverageStatus existing.curveProgressCoverageStatus
  mfeMaeLabelStatus := preferSome incoming.mfeMaeLabelStatus existing.mfeMaeLabelStatus
  diagnosticBacktestPackStatus :=
    preferSome incoming.diagnosticBacktestPackStatus existing.diagnosticBacktestPackStatus
  diagnosticBacktestingAllowed :=
    incoming.diagnosticBacktestingAllowed || existing.diagnosticBacktestingAllowed
  canonicalPricePathVersion :=
    preferSome incoming.canonicalPricePathVersion existing.canonicalPricePathVersion
  curveCoverageStatus := preferSome incoming.curveCoverageStatus existing.curveCoverageStatus
  labelCoverageStatus := preferSome incoming.labelCoverageStatus existing.labelCoverageStatus
  diagnosticBacktestInterpretationStatus :=
    preferSome incoming.diagnosticBacktestInterpretationStatus
      existing.diagnosticBacktestInterpretationStatus
  diagnosticBacktestPhase :=
    preferSome incoming.diagnosticBacktestPhase existing.diagnosticBacktestPhase
  diagnosticBacktestStatus :=
    preferSome incoming.diagnosticBacktestStatus existing.diagnosticBacktestStatus
  hypothesisShortlistAvailable :=
    incoming.hypothesisShortlistAvailable || existing.hypothesisShortlistAvailable

/-- The fallback flags of an entry with research semantics stand. -/
def ReplayWarnings.merge (existing incoming : ReplayWarnings) (hasResearch : Bool) :
    ReplayWarnings where
  fallbackUsed := incoming.fallbackUsed || existing.fallbackUsed
  fallbackReason := preferSome incoming.fallbackReason existing.fallbackReason
  fallbackSource := preferSome incoming.fallbackSource existing.fallbackSource
  segmentWarningCount := preferNonzero incoming.segmentWarningCount existing.segmentWarningCount
  normalizedEventsMissing := incoming.normalizedEventsMissing || existing.normalizedEventsMissing
  invalidSegmentCount := max incoming.invalidSegmentCount existing.invalidSegmentCount
  invalidSegments := unionStringLists incoming.invalidSegments existing.invalidSegments
  unresolvedSegmentWarnings :=
    unionStringLists incoming.unresolvedSegmentWarnings existing.unresolvedSegmentWarnings
  fallbackReplayAffected :=
    incoming.fallbackReplayAffected || (!hasResearch && existing.fallbackReplayAffected)
  normalizedReplayWarning := incoming.normalizedReplayWarning || existing.normalizedReplayWarning
  normalizedReplayAffected := incoming.normalizedReplayAffected || existing.normalizedReplayAffected
  normalizedInvalidSegmentCount :=
    max incoming.normalizedInvalidSegmentCount existing.normalizedInvalidSegmentCount
  sourceFallbackWarning :=
    incoming.sourceFallbackWarning || (!hasResearch && existing.sourceFallbackWarning)
  sourceFallbackAffected :=
    incoming.sourceFallbackAffected || (!hasResearch && existing.sourceFallbackAffected)

variable {ρ : Type}

/-- `merge_dataset_index_entry`. -/
def mergeDatasetIndexEntry (existing incoming : DatasetIndexRunEntry ρ) :
    DatasetIndexRunEntry ρ where
  toManifestEvidence := existing.toManifestEvidence.merge incoming.toManifestEvidence
  toEdgeEvidence := existing.toEdgeEvidence.merge incoming.toEdgeEvidence
  toResearchEvidence := existing.toResearchEvidence.merge incoming.toResearchEvidence
  toMathEvidence := existing.toMathEvidence.merge incoming.toMathEvidence
  toReplayWarnings :=
    existing.toReplayWarnings.merge incoming.toReplayWarnings
      incoming.toResearchEvidence.hasResearchSemantics
  runId := incoming.runId
  rest := incoming.rest

/-! ## The index -/

/-- `DatasetIndexCalibrationSection` and `DatasetIndexProviderCompatSection`. -/
structure DatasetIndexSection where
  latestHash : Option String := none
  remoteKey : Option String := none
  deriving DecidableEq, Repr

structure DatasetIndex (ρ : Type) where
  schemaVersion : ℕ
  generatedAt : OffsetDateTime
  runs : List (DatasetIndexRunEntry ρ)
  calibration : DatasetIndexSection := {}
  providerCompat : DatasetIndexSection := {}

/-- `upsert_dataset_index_entry`, at the time `now`. -/
def upsertDatasetIndexEntry (now : OffsetDateTime) (index : DatasetIndex ρ)
    (entry : DatasetIndexRunEntry ρ) : DatasetIndex ρ :=
  { index with
    runs := Registry.upsert DatasetIndexRunEntry.runId mergeDatasetIndexEntry index.runs entry
    generatedAt := now }

/-! ## Uploads -/

/-- The indices that `upload_dataset_index_r2_internal` works on. -/
structure IndexUpload (ρ : Type) where
  localIndex : DatasetIndex ρ
  authoritativeIndex : DatasetIndex ρ
  mergeAuthoritative : Bool

/-- What is uploaded: with `merge_authoritative` the local entries are merged into the
authoritative index. -/
def IndexUpload.mergedIndex (now : OffsetDateTime) (self : IndexUpload ρ) : DatasetIndex ρ :=
  if self.mergeAuthoritative then
    { self.localIndex.runs.foldl (upsertDatasetIndexEntry now) self.authoritativeIndex with
      calibration := self.localIndex.calibration
      providerCompat := self.localIndex.providerCompat
      generatedAt := now }
  else self.authoritativeIndex

/-- The index in the bucket, and the uploads that machines have begun. -/
structure IndexBucket (Machine ρ : Type) where
  remote : Option (DatasetIndex ρ) := none
  begun : Machine → Option (IndexUpload ρ) := fun _ => none

/-- A machine begins an upload, with the download of the index where it merges, and puts the
result into the bucket; or it ends before that, as a dry run does. -/
inductive IndexStep (Machine ρ : Type) where
  | begin (machine : Machine) (localIndex : DatasetIndex ρ) (mergeAuthoritative : Bool)
      (downloadFails : Bool)
  | put (machine : Machine) (now : OffsetDateTime)
  | abandon (machine : Machine)

namespace IndexBucket

variable {Machine : Type} [DecidableEq Machine]

/-- The authoritative index of an upload. Without a download it is the local one. -/
def authoritativeFor (self : IndexBucket Machine ρ) (localIndex : DatasetIndex ρ)
    (mergeAuthoritative downloadFails : Bool) : DatasetIndex ρ :=
  if mergeAuthoritative ∧ !downloadFails then self.remote.getD localIndex else localIndex

def step (self : IndexBucket Machine ρ) : IndexStep Machine ρ → IndexBucket Machine ρ
  | .begin machine localIndex mergeAuthoritative downloadFails =>
    { self with
      begun := Function.update self.begun machine (some
        { localIndex := localIndex
          authoritativeIndex := self.authoritativeFor localIndex mergeAuthoritative downloadFails
          mergeAuthoritative := mergeAuthoritative }) }
  | .put machine now =>
    match self.begun machine with
    | none => self
    | some upload =>
      { remote := some (upload.mergedIndex now)
        begun := Function.update self.begun machine none }
  | .abandon machine => { self with begun := Function.update self.begun machine none }

end IndexBucket

end PumpLaunchTrader
