import PumpLaunchTrader.Model.ShredExit
import PumpLaunchTrader.Model.State.Engine

/-! # Persisted calibration (`runtime::shred_exit`)

The manager of tentative sells keeps an observation of every resolution. Persisting adds
them to the buckets of the calibration that was loaded, and what was written becomes the
calibration that counts as loaded. -/

namespace PumpLaunchTrader

def schemaVersion : ℕ := 2

/-- `u64::saturating_add(1)`. -/
def saturatingSucc (n : ℕ) : ℕ := min (n + 1) TokenState.u64Max

structure ShredExitCalibrationBucket where
  sampleCount : ℕ := 0
  confirmedExecutedCount : ℕ := 0
  confirmedFailedCount : ℕ := 0
  accountEffectConfirmedCount : ℕ := 0
  notSeenCount : ℕ := 0
  reorgCount : ℕ := 0
  decodeMismatchCount : ℕ := 0
  falsePositiveCount : ℕ := 0
  truePositiveCount : ℕ := 0
  emergencyExitCount : ℕ := 0
  falseExitCount : ℕ := 0
  missedExitCount : ℕ := 0
  savedLossTotal : Decimal := 0
  savedLossMean : Decimal := 0
  opportunityCostTotal : Decimal := 0
  opportunityCostMean : Decimal := 0
  falsePositiveRate : Decimal := 0
  truePositiveRate : Decimal := 0
  precision : Decimal := 0
  «recall» : Decimal := 0
  averageEarlyToGeyserProcessedMs : Decimal := 0
  averageEarlyToAccountEffectMs : Decimal := 0
  averageExitLatencyMs : Decimal := 0
  thresholdAdjustment : Decimal := 0
  lastUpdatedAt : Option OffsetDateTime := none
  schemaVersion : ℕ := 0
  deriving DecidableEq, Repr

/-- `average_decimal`. -/
def calibrationAverage (current : Decimal) (sampleCount : ℕ) : Option ℤ → Decimal
  | none => current
  | some next =>
    if sampleCount ≤ 1 then next
    else (current * (sampleCount - 1 : ℕ) + next) / sampleCount

namespace ShredExitCalibrationBucket

/-- The counters that the outcome of an observation adds to. -/
def countOutcome (self : ShredExitCalibrationBucket) :
    TentativeSellResolutionOutcome → ShredExitCalibrationBucket
  | .confirmedExecuted | .rootedExecuted =>
    { self with
      confirmedExecutedCount := saturatingSucc self.confirmedExecutedCount
      truePositiveCount := saturatingSucc self.truePositiveCount }
  | .confirmedFailed =>
    { self with confirmedFailedCount := saturatingSucc self.confirmedFailedCount }
  | .accountEffectsObserved =>
    { self with
      accountEffectConfirmedCount := saturatingSucc self.accountEffectConfirmedCount
      truePositiveCount := saturatingSucc self.truePositiveCount }
  | .notSeenWithinTtl =>
    { self with
      notSeenCount := saturatingSucc self.notSeenCount
      missedExitCount := saturatingSucc self.missedExitCount }
  | .reorged => { self with reorgCount := saturatingSucc self.reorgCount }
  | .decodeMismatch =>
    { self with decodeMismatchCount := saturatingSucc self.decodeMismatchCount }

/-- The counters of exits and false positives. -/
def countExit (self : ShredExitCalibrationBucket) (observation : CalibrationObservation) :
    ShredExitCalibrationBucket :=
  { self with
    emergencyExitCount :=
      if observation.emergencyExit then saturatingSucc self.emergencyExitCount
      else self.emergencyExitCount
    falsePositiveCount :=
      if observation.falsePositive then saturatingSucc self.falsePositiveCount
      else self.falsePositiveCount
    falseExitCount :=
      if observation.falsePositive ∧ observation.emergencyExit then
        saturatingSucc self.falseExitCount
      else self.falseExitCount }

/-- The means, rates and averages after an observation has been counted. -/
def recomputeRates (self : ShredExitCalibrationBucket) (observation : CalibrationObservation) :
    ShredExitCalibrationBucket :=
  let sample : Decimal := self.sampleCount
  let perSample : Decimal → Decimal := fun total => if 0 < sample then total / sample else 0
  { self with
    savedLossMean := perSample self.savedLossTotal
    opportunityCostMean := perSample self.opportunityCostTotal
    falsePositiveRate := perSample self.falsePositiveCount
    truePositiveRate := perSample self.truePositiveCount
    precision :=
      if 0 < self.emergencyExitCount then
        (self.truePositiveCount : Decimal) / self.emergencyExitCount
      else 0
    «recall» := perSample self.truePositiveCount
    averageEarlyToGeyserProcessedMs := calibrationAverage self.averageEarlyToGeyserProcessedMs
      self.sampleCount observation.earlyToGeyserProcessedMs
    averageEarlyToAccountEffectMs := calibrationAverage self.averageEarlyToAccountEffectMs
      self.sampleCount observation.earlyToAccountEffectMs
    averageExitLatencyMs := calibrationAverage self.averageExitLatencyMs self.sampleCount
      observation.exitLatencyMs }

/-- One iteration of `apply_observations_to_persisted`, on the bucket of its observation. -/
def applyObservation (now : OffsetDateTime) (observation : CalibrationObservation)
    (self : ShredExitCalibrationBucket) : ShredExitCalibrationBucket :=
  let counted := ({ self with
    schemaVersion := PumpLaunchTrader.schemaVersion
    sampleCount := saturatingSucc self.sampleCount
    lastUpdatedAt := some now }.countExit observation).countOutcome observation.outcome
  { counted with
    savedLossTotal := counted.savedLossTotal + observation.savedLossQuote
    opportunityCostTotal := counted.opportunityCostTotal + observation.opportunityCostQuote }
    |>.recomputeRates observation

end ShredExitCalibrationBucket

/-- `PersistedShredExitCalibration` with the fields that only persisting uses. -/
structure PersistedCalibration extends PersistedShredExitCalibration where
  schemaVersion : ℕ := PumpLaunchTrader.schemaVersion
  thresholdAdjustment : Decimal := 0
  buckets : KeyedMap String ShredExitCalibrationBucket := ∅
  lastUpdatedAt : Option OffsetDateTime := none

/-- `apply_observations_to_persisted`. The clock is read once. -/
def PersistedCalibration.applyObservations (self : PersistedCalibration) (now : OffsetDateTime)
    (observations : List CalibrationObservation) (config : ShredExitConfig) :
    PersistedCalibration :=
  { self with
    buckets := observations.foldl
      (fun (buckets : KeyedMap String ShredExitCalibrationBucket) observation =>
        buckets.upsert observation.key {} (.applyObservation now observation)) self.buckets
    thresholdAdjustment := self.currentPaperExitImpactPct - config.paperExitImpactPct }

/-- A manager with the calibration it loaded or last wrote. -/
structure CalibratedManager extends TentativeSellManager where
  loadedPersisted : PersistedCalibration

namespace CalibratedManager

/-- `TentativeSellManager::new`, with the stored calibration when it could be loaded. -/
def new (earlyIntent : EarlyIntentConfig) (shredExit : ShredExitConfig)
    (stored : Option PersistedCalibration) : CalibratedManager :=
  { TentativeSellManager.new earlyIntent shredExit
      (stored.map PersistedCalibration.toPersistedShredExitCalibration) with
    loadedPersisted := stored.getD
      { currentPaperExitImpactPct := shredExit.paperExitImpactPct
        currentPaperConfidenceThreshold := shredExit.minDecodeConfidencePaperExit } }

/-- `TentativeSellManager::persisted_calibration`. -/
def persistedCalibration (self : CalibratedManager) (now : OffsetDateTime) :
    PersistedCalibration :=
  let loaded := self.loadedPersisted
  let persisted := { loaded with
    schemaVersion := PumpLaunchTrader.schemaVersion
    currentPaperExitImpactPct :=
      if loaded.currentPaperExitImpactPct ≤ 0 then self.calibration.currentPaperExitImpactPct
      else loaded.currentPaperExitImpactPct
    currentPaperConfidenceThreshold :=
      if loaded.currentPaperConfidenceThreshold ≤ 0 then
        self.calibration.currentPaperConfidenceThreshold
      else loaded.currentPaperConfidenceThreshold }
  { persisted.applyObservations now self.observations self.shredExit with
    lastUpdatedAt := some now }

/-- Whether `persist_calibration` writes at all. -/
def persists (self : CalibratedManager) : Bool :=
  self.shredExit.calibration.enabled && self.shredExit.calibration.persistCalibration

/-- `TentativeSellManager::persist_calibration` on a disk that takes the file, with the
calibration it writes. The observations stay. -/
def persistCalibration (self : CalibratedManager) (now : OffsetDateTime) :
    CalibratedManager × Option PersistedCalibration :=
  if self.persists then
    let persisted := self.persistedCalibration now
    ({ self with loadedPersisted := persisted }, some persisted)
  else (self, none)

end CalibratedManager

end PumpLaunchTrader
