import PumpLaunchTrader.Model.Segments
import PumpLaunchTrader.Model.Summary

/-! # Pruning uploaded runs (`cli`)

The local files of a run may be removed when its upload is verified. One command does so for all
runs, another one for a single run. Files are kept with their sizes. The reports on what was
pruned are left out, and so are the totals of more than 64 bits. -/

namespace PumpLaunchTrader

/-! ## Manifests -/

/-- What pruning reads of an `ArtifactManifestEntry`. -/
structure ArtifactManifestEntry where
  artifactType : String
  localPath : String
  deriving DecidableEq, Repr

/-- What pruning reads of an `ArtifactManifest`, with its summaries. -/
structure ArtifactManifest where
  runId : String
  artifacts : List ArtifactManifestEntry
  attemptedCount : ℕ := 0
  verifiedCount : ℕ := 0
  failedCount : ℕ := 0
  totalSegments : ℕ := 0
  pendingSegments : ℕ := 0
  failedSegments : ℕ := 0
  r2FullVerificationStatus : String := ""
  manifestConsistencyChecked : Bool := false
  manifestConsistencyPassed : Bool := false
  uploadedAt : Option OffsetDateTime := none

/-- `manifest_verified`. -/
def manifestVerified (manifest : ArtifactManifest) : Bool :=
  let baseVerified : Bool := 0 < manifest.attemptedCount ∧
    manifest.attemptedCount = manifest.verifiedCount ∧ manifest.failedCount = 0
  if manifest.totalSegments = 0 ∧ (trimText manifest.r2FullVerificationStatus).isEmpty then
    baseVerified
  else
    baseVerified && manifest.pendingSegments = 0 && manifest.failedSegments = 0 &&
      (!manifest.manifestConsistencyChecked || manifest.manifestConsistencyPassed) &&
      manifest.r2FullVerificationStatus = "verified"

/-- The configuration `r2.retention`, with `prune_local_only_after_verified_upload`. -/
structure RetentionConfig where
  deleteLocalRawEventsAfterUpload : Bool := false
  deleteLocalExportsAfterUpload : Bool := false
  deleteLocalReportsAfterUpload : Bool := false
  keepLastNLocalRuns : ℕ := 10
  pruneLocalOnlyAfterVerifiedUpload : Bool := true
  deriving DecidableEq, Repr

structure PruneFlags where
  deleteExports : Bool := false
  deleteReports : Bool := false
  deleteRawEvents : Bool := false
  keepManifest : Bool := true
  keepRpcLedger : Bool := true
  keepCalibration : Bool := true
  deriving DecidableEq, Repr

/-- `Path::extension`. -/
def pathExtension (path : String) : Option String :=
  let name := (pathFileName path).toList
  let stem := (name.reverse.dropWhile (· ≠ '.')).drop 1
  if stem.isEmpty ∨ name = ['.', '.'] then none
  else some (String.ofList (name.rtakeWhile (· ≠ '.')))

/-- `artifact_delete_allowed`. -/
def artifactDeleteAllowed (config : RetentionConfig) (flags : PruneFlags)
    (artifact : ArtifactManifestEntry) : Bool :=
  if textStartsWith (pathFileName artifact.localPath) "dataset_" then
    flags.deleteRawEvents || config.deleteLocalRawEventsAfterUpload
  else if pathExtension artifact.localPath = some "csv" then
    flags.deleteExports || config.deleteLocalExportsAfterUpload
  else flags.deleteReports || config.deleteLocalReportsAfterUpload

/-- `artifact_preserved_by_policy`. -/
def artifactPreservedByPolicy (flags : PruneFlags) (artifact : ArtifactManifestEntry) : Bool :=
  let fileName := pathFileName artifact.localPath
  textStartsWith fileName "r2_upload_summary." ||
    (flags.keepRpcLedger && (fileName = "rpc_ledger.json" || fileName = "rpc_ledger.csv")) ||
    (flags.keepCalibration && artifact.artifactType = "calibration")

/-! ## Runs -/

/-- The order of runs by their creation, then their ids. -/
def compareCreated (left right : StoredRunMetadata) : Ordering :=
  (compare left.createdAtWallTime right.createdAtWallTime).then
    (compare left.runId right.runId)

/-- `run_metadata_sorted`, the first created run first. -/
def runMetadataSorted (store : RunStore) : List StoredRunMetadata :=
  store.listRuns.insertionSort fun left right => (compareCreated left right).isLE

/-- A verified upload that is younger than the hours. -/
def youngerThan (now : OffsetDateTime) (minAgeHours : Option ℕ)
    (uploadedAt : Option OffsetDateTime) : Bool :=
  match minAgeHours, uploadedAt with
  | some hours, some uploaded => now - uploaded < Duration.seconds (3600 * asI64 hours)
  | _, _ => false

/-! ## Removing files -/

/-- What the commands meet: the clock at each manifest and the files that cannot be removed. -/
structure PruneIo where
  now : String → OffsetDateTime
  removeFails : String → Bool := fun _ => false

/-- The artifacts of a run that were looked at. -/
structure RunPrune where
  files : KeyedMap String ℕ
  deletedPaths : List String := []
  skippedPaths : List String := []
  deletableBytes : ℕ := 0
  failed : Bool := false

namespace RunPrune

def skip (self : RunPrune) (note : String) : RunPrune :=
  { self with skippedPaths := self.skippedPaths ++ [note] }

/-- A file is removed, if it is there and this is no dry run. -/
def remove (io : PruneIo) (dryRun : Bool) (self : RunPrune) (path : String) : RunPrune :=
  if dryRun then self.skip ("dry-run:" ++ path)
  else if path ∈ self.files then
    if io.removeFails path then { self with failed := true }
    else { self with
      files := self.files.erase path
      deletedPaths := self.deletedPaths ++ [path] }
  else self

end RunPrune

/-! ## All runs -/

structure VerifiedPruneOptions extends PruneFlags where
  dryRun : Bool := true
  keepLastN : ℕ := 0
  minAgeHours : Option ℕ := none
  maxDeleteMb : Option ℕ := none
  forcePruneVerified : Bool := false
  activeRunId : Option String := none

/-- The bytes that may be removed. -/
def VerifiedPruneOptions.maxDeleteBytes (self : VerifiedPruneOptions) : Option ℕ :=
  self.maxDeleteMb.map (· * (1024 * 1024))

structure VerifiedPruneRunCandidate where
  runId : String
  manifestPath : String
  deletedPaths : List String
  skippedPaths : List String
  deletableBytes : ℕ
  deriving DecidableEq, Repr

structure VerifiedPruneSummary where
  verifiedRunCount : ℕ := 0
  unverifiedRunCount : ℕ := 0
  candidateRunCount : ℕ := 0
  skippedRuns : List String := []
  deletedBytes : ℕ := 0
  deletedPaths : List String := []
  candidates : List VerifiedPruneRunCandidate := []

/-- The manifests that were looked at. A failure ends the command. -/
structure BatchPrune where
  files : KeyedMap String ℕ
  summary : VerifiedPruneSummary := {}
  cumulativeCandidateBytes : ℕ := 0
  failed : Bool := false

section Batch

variable (config : RetentionConfig) (options : VerifiedPruneOptions) (io : PruneIo)

/-- An artifact of a run, when `spent` bytes were counted for the runs before. -/
def RunPrune.pruneArtifact (spent : ℕ) (self : RunPrune) (artifact : ArtifactManifestEntry) :
    RunPrune :=
  if self.failed then self
  else if !artifactDeleteAllowed config options.toPruneFlags artifact ||
      artifactPreservedByPolicy options.toPruneFlags artifact then
    self.skip artifact.localPath
  else
    let sizeBytes := (self.files.lookup artifact.localPath).getD 0
    if options.maxDeleteBytes.any (· < spent + self.deletableBytes + sizeBytes) then
      self.skip ("max-delete-mb:" ++ artifact.localPath)
    else
      { self with deletableBytes := self.deletableBytes + sizeBytes }.remove io options.dryRun
        artifact.localPath

/-- Why a run is not pruned. -/
def pruneSkipReason (newestRunIds : List String) (now : OffsetDateTime)
    (manifest : ArtifactManifest) : Option String :=
  if !manifestVerified manifest then some "unverified"
  else if options.activeRunId = some manifest.runId then some "active_run"
  else if manifest.runId ∈ newestRunIds then some "keep_last_n"
  else if youngerThan now options.minAgeHours manifest.uploadedAt then
    some "younger_than_min_age"
  else none

/-- The counts of a manifest. -/
def VerifiedPruneSummary.countManifest (self : VerifiedPruneSummary)
    (manifest : ArtifactManifest) : VerifiedPruneSummary :=
  if manifestVerified manifest then { self with verifiedRunCount := self.verifiedRunCount + 1 }
  else { self with unverifiedRunCount := self.unverifiedRunCount + 1 }

/-- A manifest of the loop. One that cannot be loaded fails the command. -/
def BatchPrune.pruneManifest (newestRunIds : List String) (self : BatchPrune)
    (entry : String × Option ArtifactManifest) : BatchPrune :=
  if self.failed then self
  else
    match entry.2 with
    | none => { self with failed := true }
    | some manifest =>
      let counted := self.summary.countManifest manifest
      match pruneSkipReason options newestRunIds (io.now entry.1) manifest with
      | some reason =>
        { self with
          summary := { counted with
            skippedRuns := counted.skippedRuns ++ [manifest.runId ++ ":" ++ reason] } }
      | none =>
        let run := manifest.artifacts.foldl
          (RunPrune.pruneArtifact config options io self.cumulativeCandidateBytes)
          { files := self.files }
        if run.failed then { self with files := run.files, failed := true }
        else if run.deletableBytes = 0 then
          { self with
            files := run.files
            summary := { counted with
              skippedRuns :=
                counted.skippedRuns ++ [manifest.runId ++ ":no_deletable_artifacts"] } }
        else
          { self with
            files := run.files
            cumulativeCandidateBytes := self.cumulativeCandidateBytes + run.deletableBytes
            summary := { counted with
              candidateRunCount := counted.candidateRunCount + 1
              deletedBytes :=
                if options.dryRun then counted.deletedBytes
                else counted.deletedBytes + run.deletableBytes
              deletedPaths := counted.deletedPaths ++ run.deletedPaths
              candidates := counted.candidates ++
                [{ runId := manifest.runId
                   manifestPath := entry.1
                   deletedPaths := run.deletedPaths
                   skippedPaths := run.skippedPaths ++
                     if options.keepManifest then [entry.1] else []
                   deletableBytes := run.deletableBytes }] } }

/-- The runs that were created last. -/
def newestRunIds (store : RunStore) (n : ℕ) : List String :=
  ((runMetadataSorted store).reverse.take n).map fun record => record.runId

/-- `build_verified_prune_summary`, over the manifests in the order of their paths. -/
def buildVerifiedPruneSummary (store : RunStore) (files : KeyedMap String ℕ)
    (manifests : List (String × Option ArtifactManifest)) : BatchPrune :=
  if !options.dryRun ∧ !options.forcePruneVerified then { files := files, failed := true }
  else
    manifests.foldl
      (BatchPrune.pruneManifest config options io (newestRunIds store options.keepLastN))
      { files := files }

end Batch

/-! ## A single run -/

inductive AutopilotPhase where
  | idle | starting | validatingConfig | validatingStreamOnly | inspectingProvider
  | smokingGeyser | smokingDeshred | choosingCollectionMode | collecting | analyzingCollection
  | checkingBacktestReadiness | runningResearchCycle | exporting | finalizingSegments
  | buildingManifest | uploadingManifest | drainingSegments | writingSegmentManifest
  | writingArtifactManifest | verifyingR2Upload | refreshingDatasetIndex | terminalizingRun
  | clearingCurrentRun | completedCycle | partialCycle | failedCycle | needsRecovery
  | rotatingStorage | sleeping | paused | stopping | stopped | failed
  deriving DecidableEq, Repr

structure AutopilotPersistedState where
  currentState : AutopilotPhase := .idle
  currentRunId : Option String := none
  deriving DecidableEq, Repr

/-- The autopilot works on the run. -/
def AutopilotPersistedState.worksOn (self : AutopilotPersistedState) (runId : String) : Bool :=
  self.currentRunId = some runId ∧
    self.currentState ∉
      [AutopilotPhase.stopped, AutopilotPhase.idle, AutopilotPhase.paused, AutopilotPhase.failed]

structure PruneLocalOptions extends PruneFlags where
  dryRun : Bool := true
  forcePruneUnverified : Bool := false
  minAgeHours : Option ℕ := none
  forcePruneVerified : Bool := false

/-- How `prune_local_after_r2_command` ends. A dry run reports the refusal, else it is an
error. -/
inductive PruneLocalOutcome where
  | refused (reason : String)
  | rejected (reason : String)
  | removeFailed
  | pruned (deletedPaths skippedPaths : List String)
  deriving DecidableEq, Repr

section Single

variable (config : RetentionConfig) (options : PruneLocalOptions) (io : PruneIo)

/-- The runs that `keep_last_n_local_runs` preserves: the first ones of `run_metadata_sorted`. -/
def preservedRunIds (store : RunStore) : List String :=
  ((runMetadataSorted store).take config.keepLastNLocalRuns).map fun record => record.runId

/-- Why the run is not pruned. -/
def pruneRefusal (store : RunStore) (autopilot : AutopilotPersistedState) (runId : String)
    (manifest : ArtifactManifest) : Option String :=
  if autopilot.worksOn runId then some "refusing to prune the active autopilot run"
  else if runId ∈ preservedRunIds config store ∧ !options.forcePruneVerified then
    some ("refusing to prune " ++ runId ++ ": it is within keep_last_n_local_runs")
  else if config.pruneLocalOnlyAfterVerifiedUpload ∧ !options.forcePruneUnverified ∧
      !manifestVerified manifest then
    some ("refusing to prune local data for " ++ runId ++ ": upload is not fully verified")
  else if youngerThan (io.now runId) options.minAgeHours manifest.uploadedAt then
    some ("refusing to prune " ++ runId ++ ": verified upload is newer than min_age_hours")
  else none

/-- The files that this command preserves; the manifest itself is one of them. -/
def preservesLocally (artifact : ArtifactManifestEntry) : Bool :=
  (options.keepManifest && pathFileName artifact.localPath = "artifact_manifest.json") ||
    artifactPreservedByPolicy options.toPruneFlags artifact

def RunPrune.pruneLocalArtifact (self : RunPrune) (artifact : ArtifactManifestEntry) :
    RunPrune :=
  if self.failed then self
  else if !artifactDeleteAllowed config options.toPruneFlags artifact ||
      preservesLocally options artifact then
    self.skip artifact.localPath
  else self.remove io options.dryRun artifact.localPath

/-- `prune_local_after_r2_command`, with the manifest of the run. -/
def pruneLocalAfterR2 (store : RunStore) (autopilot : AutopilotPersistedState)
    (files : KeyedMap String ℕ) (runId : String) (manifest : ArtifactManifest) :
    KeyedMap String ℕ × PruneLocalOutcome :=
  match pruneRefusal config options io store autopilot runId manifest with
  | some reason => (files, if options.dryRun then .refused reason else .rejected reason)
  | none =>
    let run := manifest.artifacts.foldl (RunPrune.pruneLocalArtifact config options io)
      { files := files }
    if run.failed then (run.files, .removeFailed)
    else (run.files, .pruned run.deletedPaths run.skippedPaths)

end Single

end PumpLaunchTrader
