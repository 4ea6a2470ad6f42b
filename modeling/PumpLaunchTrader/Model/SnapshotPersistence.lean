import PumpLaunchTrader.Model.Assessment
import PumpLaunchTrader.Model.Segments

/-! # Persisting feature snapshots (`runtime`)

The last part of `handle_event`: whether the feature snapshot of an event is persisted. Under
pressure on the disk or on the uploads, snapshots of tokens that are only watched are thinned
out. Counters are natural numbers. -/

namespace PumpLaunchTrader

/-! ## Pressure -/

/-- `FeaturePressureConfig`, the fields that are read. -/
structure FeaturePressureConfig where
  enabled : Bool := true
  minSnapshotIntervalMsDiskWarning : ℕ := 5000
  minSnapshotIntervalMsUploadBacklog : ℕ := 10000
  alwaysSnapshotOnTrade : Bool := true
  alwaysSnapshotOnDecision : Bool := true
  alwaysSnapshotOnEnterExit : Bool := true
  skipLowValueWatchSnapshotsUnderPressure : Bool := true
  deriving DecidableEq, Repr

/-- `LiveRunSegmentManager` with the fields that say how much it is under pressure. -/
structure RunSegments where
  store : SegmentStore
  diskWarningActive : Bool := false
  maxPendingSegmentsPause : ℕ := 0
  maxPendingSegmentsStop : ℕ := 0
  pauseCollectionIfPendingSegmentsExceed : ℕ := 0
  pauseFeatureSnapshotWritesOnBacklog : Bool := false
  forceCloseAndUploadOnBacklog : Bool := false

namespace RunSegments

/-- At least a positive number of segments waits for its upload. -/
def backlogReaches (self : RunSegments) (threshold : ℕ) : Bool :=
  0 < threshold ∧ threshold ≤ self.store.pendingSegmentCount

/-- `backlog_warning_threshold_reached`. -/
def backlogWarningThresholdReached (self : RunSegments) : Bool :=
  self.backlogReaches self.store.manager.maxPendingSegmentsWarning

/-- `backlog_exceeds_pause_threshold`. -/
def backlogExceedsPauseThreshold (self : RunSegments) : Bool :=
  self.backlogReaches self.pauseCollectionIfPendingSegmentsExceed

/-- `backlog_exceeds_stop_threshold`. -/
def backlogExceedsStopThreshold (self : RunSegments) : Bool :=
  self.backlogReaches self.maxPendingSegmentsStop

/-- `should_pause_feature_snapshot_writes`. -/
def shouldPauseFeatureSnapshotWrites (self : RunSegments) : Bool :=
  self.store.manager.localBudgetPressureActive ∨
    (self.pauseFeatureSnapshotWritesOnBacklog ∧ self.backlogReaches self.maxPendingSegmentsPause)

/-- `should_force_close_and_upload_on_backlog`. -/
def shouldForceCloseAndUploadOnBacklog (self : RunSegments) : Bool :=
  self.forceCloseAndUploadOnBacklog ∧
    self.backlogReaches self.store.manager.maxPendingSegmentsWarning

end RunSegments

/-- `Supervisor::feature_snapshot_pressure_interval_ms`. Without a segment manager there is no
pressure. -/
def FeaturePressureConfig.featureSnapshotPressureIntervalMs (self : FeaturePressureConfig) :
    Option RunSegments → Option ℕ
  | none => none
  | some segments =>
    if !self.enabled then none
    else if segments.shouldPauseFeatureSnapshotWrites then
      some (max self.minSnapshotIntervalMsUploadBacklog 1)
    else if segments.diskWarningActive ∨ segments.backlogWarningThresholdReached then
      some (max self.minSnapshotIntervalMsDiskWarning 1)
    else none

/-! ## Snapshots on offer -/

/-- The stored record of a snapshot, with the run that tagged it. -/
structure FeatureRecord where
  runId : Option String
  record : FeatureSnapshot

/-- A snapshot that `handle_event` may persist, with what it looks at. -/
structure SnapshotOffer where
  mint : String
  event : NormalizedEvent
  decision : TradeDecision
  fillEmitted : Bool
  featureRecord : FeatureRecord
  /-- The run that is replayed, else the run of the environment. -/
  sourceRunId : String
  segments : Option RunSegments := none
  writeFails : Bool := false

/-- `now` is the time at which the event was received. -/
def SnapshotOffer.now (self : SnapshotOffer) : OffsetDateTime :=
  self.event.info.receivedAtWallTime

/-- `Supervisor::feature_snapshot_identity`. -/
def SnapshotOffer.featureSnapshotIdentity (self : SnapshotOffer) : String :=
  self.sourceRunId ++ "|" ++ self.featureRecord.runId.getD "" ++ "|" ++
    self.featureRecord.record.mint.text ++ "|" ++
    toString self.featureRecord.record.observedAt ++ "|" ++ self.featureRecord.record.vectorHash

def EventPayload.isDataGap : EventPayload → Bool
  | .dataGap _ => true
  | _ => false

/-- The decisions on a token that is only watched. -/
def TradeDecision.watches (self : TradeDecision) : Bool :=
  self = .watchLight ∨ self = .watchDeep

/-- The decisions that move a position. -/
def TradeDecision.entersOrExits (self : TradeDecision) : Bool :=
  self ∈ [.enterPaper, .enterLive, .exit, .emergencyExit, .scaleOut]

/-! ## The writer -/

/-- What became of a snapshot on offer. -/
inductive SnapshotOutcome where
  | written | duplicate | failed | skipped
  deriving DecidableEq, Repr

/-- The part of the supervisor that persisting snapshots reads and writes, and what was
written. -/
structure SnapshotWriter where
  config : FeaturePressureConfig
  lastFeatureSnapshotAtByMint : KeyedMap String OffsetDateTime := ∅
  emittedFeatureSnapshotIdentities : Finset String := ∅
  skippedFeatureSnapshotCount : ℕ := 0
  written : List FeatureRecord := []

/-- What reaches the writer: a snapshot on offer, or the reset before the next run. -/
inductive SnapshotInput where
  | offer (offer : SnapshotOffer)
  | reset

namespace SnapshotWriter

/-- The milliseconds since the last snapshot of the mint. -/
def elapsedMs (last now : OffsetDateTime) : ℕ := (Duration.wholeMilliseconds (now - last)).toNat

/-- `Supervisor::should_persist_feature_snapshot_for_event`. -/
def shouldPersistFeatureSnapshotForEvent (self : SnapshotWriter) (offer : SnapshotOffer) :
    Bool × SnapshotWriter :=
  let config := self.config
  match config.featureSnapshotPressureIntervalMs offer.segments with
  | none => (true, self)
  | some intervalMs =>
    let alwaysSnapshot : Bool := offer.event.payload.isDataGap ∨
      (offer.fillEmitted ∧ config.alwaysSnapshotOnTrade) ∨
      (config.alwaysSnapshotOnEnterExit ∧ offer.decision.entersOrExits) ∨
      (config.alwaysSnapshotOnDecision ∧ !offer.decision.watches)
    if alwaysSnapshot then (true, self)
    else if !config.skipLowValueWatchSnapshotsUnderPressure ∨ !offer.decision.watches then
      (true, self)
    else
      match self.lastFeatureSnapshotAtByMint.lookup offer.mint with
      | none => (true, self)
      | some last =>
        if elapsedMs last offer.now < intervalMs then
          (false, { self with
            skippedFeatureSnapshotCount := self.skippedFeatureSnapshotCount + 1 })
        else (true, self)

/-- The time of the latest snapshot of the mint is noted. -/
def noteSnapshot (self : SnapshotWriter) (offer : SnapshotOffer) : SnapshotWriter :=
  { self with
    lastFeatureSnapshotAtByMint :=
      self.lastFeatureSnapshotAtByMint.insert offer.mint offer.now }

/-- The last part of `handle_event`. A write that fails ends it early. -/
def persistFeatureSnapshot (self : SnapshotWriter) (offer : SnapshotOffer) :
    SnapshotOutcome × SnapshotWriter :=
  let checked := self.shouldPersistFeatureSnapshotForEvent offer
  if checked.1 then
    let identity := offer.featureSnapshotIdentity
    if identity ∈ checked.2.emittedFeatureSnapshotIdentities then
      (.duplicate, checked.2.noteSnapshot offer)
    else
      let inserted := { checked.2 with
        emittedFeatureSnapshotIdentities :=
          insert identity checked.2.emittedFeatureSnapshotIdentities }
      if offer.writeFails then (.failed, inserted)
      else
        (.written, { inserted with
          written := inserted.written ++ [offer.featureRecord] }.noteSnapshot offer)
  else (.skipped, checked.2)

/-- The part of `reset_for_next_run` on the writer. The times of the last snapshots and the
count of skipped ones stay. -/
def resetForNextRun (self : SnapshotWriter) : SnapshotWriter :=
  { self with emittedFeatureSnapshotIdentities := ∅ }

def step (self : SnapshotWriter) : SnapshotInput → SnapshotWriter
  | .offer offer => (self.persistFeatureSnapshot offer).2
  | .reset => self.resetForNextRun

end SnapshotWriter

end PumpLaunchTrader
