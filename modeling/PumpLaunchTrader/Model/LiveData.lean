import PumpLaunchTrader.Model.Live
import PumpLaunchTrader.Model.SnapshotPersistence

/-! # Collecting live data (`runtime`)

`run_live_data_paper`: the checks before a run, the loop that takes the events of the sources
and looks after the disk, and what is recorded of the run. What `select!` picks is an input, as
are the readings of the clock and of the free space. An error ends the run, and what the failed
step had done by then is left out. Storage itself does not fail here, but the segments and the
metrics server may. -/

namespace PumpLaunchTrader

/-! ## Readiness -/

structure DeshredCapability where
  canEnable : Bool := true
  endpointConfigured : Bool
  authConfigured : Bool
  reasonIfUnsupported : Option String := none
  deriving DecidableEq, Repr

/-- What `live_data_readiness` reads of the sources. -/
structure SourcesConfig where
  geyserEnabled : Bool
  geyserRequired : Bool
  shredEnabled : Bool
  shredRequired : Bool
  shredServiceRuns : Bool
  allowGeyserOnlyFallback : Bool
  deshredEnabled : Bool
  deshredRequired : Bool
  deshred : DeshredCapability
  deriving DecidableEq, Repr

namespace SourcesConfig

def runtimeBlocked (reason : String) : String := "runtime blocked: " ++ reason

/-- The first reason for which `live_data_readiness` fails. -/
def blocker (self : SourcesConfig) : Option String :=
  if self.geyserRequired ∧ !self.geyserEnabled then
    some (runtimeBlocked "geyser is required but disabled")
  else if self.shredRequired ∧ (!self.shredEnabled ∨ !self.shredServiceRuns) then
    some (runtimeBlocked "shred is required but unavailable")
  else if self.deshredEnabled ∧ self.deshredRequired ∧ !self.deshred.canEnable then
    some (runtimeBlocked
      (self.deshred.reasonIfUnsupported.getD "deshred is required but unsupported"))
  else if self.deshredEnabled ∧ self.deshredRequired ∧ !self.deshred.endpointConfigured then
    some (runtimeBlocked "deshred is required but endpoint is unavailable")
  else if self.deshredEnabled ∧ self.deshredRequired ∧ !self.deshred.authConfigured then
    some (runtimeBlocked "deshred is required but auth metadata is unavailable")
  else if self.shredEnabled ∧ !self.shredServiceRuns ∧ !self.allowGeyserOnlyFallback then
    some "production shred decoder not enabled"
  else none

/-- `live_data_readiness`: the reason codes that it adds to the safety. -/
def liveDataReadiness (self : SourcesConfig) : Except String (List ReasonCode) :=
  match self.blocker with
  | some error => .error error
  | none =>
    .ok ((if self.shredEnabled ∧ !self.shredServiceRuns then [.shredUnavailable] else []) ++
      if self.deshredEnabled ∧ !self.deshred.canEnable then [.earlyIntentSourceUnavailable]
      else [])

end SourcesConfig

/-! ## Looking after the disk -/

structure DiskLimits where
  warningFreeMb : ℕ
  criticalFreeMb : ℕ
  emergencyFreeMb : ℕ
  deriving DecidableEq, Repr

/-- `autopilot.disk`, the limits of `storage.low_disk_mode` and the thresholds of the uploads as
the configuration has them. -/
structure DiskConfig where
  limits : DiskLimits
  lowDiskLimits : DiskLimits
  lowDiskMode : Bool := false
  closeSegmentsOnWarning : Bool := true
  stopCollectionOnCritical : Bool := true
  pauseBeforeOsError : Bool := true
  maxPendingSegmentsWarning : ℕ := 0
  maxPendingSegmentsPause : ℕ := 0
  maxPendingSegmentsStop : ℕ := 0
  deriving DecidableEq, Repr

/-- The limits that apply. -/
def DiskConfig.active (self : DiskConfig) : DiskLimits :=
  if self.lowDiskMode then self.lowDiskLimits else self.limits

/-- The audit events of a live run, but for those of its events. -/
inductive RuntimeAuditKind where
  | runtimeStarted | runtimeStopped | storageWarning | storageLimitReached
  deriving DecidableEq, Repr

/-- What an audit event meets: its line for the segments, when they are kept, and the append. -/
structure AuditIo where
  line : Bytes := []
  recordedAt : OffsetDateTime := unixEpoch
  io : AppendIo := {}

/-- One `close_all_open_segments` with one `process_background_uploads`. -/
structure CleanupIo where
  close : String → CloseIo
  reports : ReportFaults := {}
  upload : PassIo

/-- What a tick of the disk check meets: the answers of the disk and of the bucket, and the
free space where it is read. -/
structure TickIo where
  now : OffsetDateTime
  ageClose : String → CloseIo
  ageReports : ReportFaults := {}
  upload : PassIo
  budget : BudgetIo := {}
  footprintNotes : List String := []
  warning : CleanupIo
  warningAudit : AuditIo := {}
  limitAudit : AuditIo := {}
  /-- The report on data gaps that a first warning appends, `unix_now` and the append. -/
  gapsReport : Bytes := []
  gapsReportAt : OffsetDateTime := now
  gapsReportIo : AppendIo := {}
  critical : CleanupIo
  backlog : CleanupIo
  stop : CleanupIo
  actionReports : ReportFaults := {}
  freeMb : ℕ
  freeMbAfterUpload : ℕ
  freeMbAfterBudget : ℕ
  freeMbAfterWarning : ℕ
  freeMbAfterCritical : ℕ
  freeMbAfterBacklog : ℕ

def noteOf (name : String) (value : ℕ) : String := name ++ "=" ++ toString value

namespace RunSegments

/-- `record_disk_action`. -/
def recordDiskAction (self : RunSegments) (io : TickIo) (level action : String)
    (freeMb prunedBytes : ℕ) (notes : List String) : RunSegments :=
  let record : DiskActionRecord :=
    { recordedAt := io.now
      level := level
      action := action
      freeMb := freeMb
      pendingSegments := self.store.pendingSegmentCount
      prunedBytes := prunedBytes
      notes := notes }
  let actions := self.store.manager.diskActions ++ [record]
  let recorded := { self.store with
    manager := { self.store.manager with diskActions := actions.drop (actions.length - 50) } }
  { self with store := (recorded.writeAllReports io.actionReports).1 }

/-- `set_disk_warning_active`. -/
def setDiskWarningActive (self : RunSegments) (io : TickIo) (active : Bool) : RunSegments :=
  { self with
    diskWarningActive := active
    store := (self.store.writeAllReports io.actionReports).1 }

/-- The line of an audit event is appended, which may fail. -/
def appendAudit (fmt : SegmentFormats) (self : RunSegments) (audit : AuditIo) :
    RunSegments × Option Unit :=
  let (store, appended) := self.store.appendLine fmt audit.io "runtime_audit" audit.line
    (some audit.recordedAt)
  ({ self with store := store }, appended)

/-- Close what is open and upload what is closed, with the number of closed segments. -/
def cleanUp (fmt : SegmentFormats) (self : RunSegments) (io : CleanupIo) :
    Option (RunSegments × ℕ × SegmentStore.SegmentProcessSummary) :=
  let closing := self.store.closeAllOpenSegments fmt io.close io.reports
  let pass := closing.1.processBackgroundUploads fmt io.upload
  match closing.2, pass.result with
  | some closed, some summary => some ({ self with store := pass.store }, closed, summary)
  | _, _ => none

/-- The notes of a cleanup. -/
def cleanupNotes (closed : ℕ) (summary : SegmentStore.SegmentProcessSummary) : List String :=
  [noteOf "closed_segments" closed, noteOf "uploaded_segments" summary.uploadedCount,
    noteOf "verified_segments" summary.verifiedCount]

end RunSegments

/-- What a tick of the disk check works on. The audit events are those in the store. -/
structure DiskCheck where
  freeMb : ℕ
  segments : Option RunSegments
  storageHealthy : Bool
  storageWarningReported : Bool
  completionNotes : List String
  audits : List RuntimeAuditKind

namespace DiskCheck

/-- A completion note is taken once. -/
def note (self : DiskCheck) (text : String) : DiskCheck :=
  if text ∈ self.completionNotes then self
  else { self with completionNotes := self.completionNotes ++ [text] }

/-- The segments are closed by age and uploaded, and the budget is enforced. -/
def collect (fmt : SegmentFormats) (self : DiskCheck) (io : TickIo) : Option DiskCheck :=
  match self.segments with
  | none => some { self with freeMb := io.freeMb }
  | some segments =>
    let aged := segments.store.closeSegmentsDueToAge fmt io.ageClose io.ageReports io.now
    let pass := aged.1.processBackgroundUploads fmt io.upload
    match aged.2, pass.result with
    | some _, some background =>
      let passed := { segments with store := pass.store }
      let moved : Bool := 0 < background.uploadedCount ∨ 0 < background.prunedBytes
      let uploaded :=
        if moved then
          passed.recordDiskAction io "info" "background_segment_upload" io.freeMb
            background.prunedBytes
            [noteOf "uploaded_segments" background.uploadedCount,
              noteOf "verified_segments" background.verifiedCount,
              noteOf "pending_segments" background.pendingCount]
        else passed
      let freeMb := if moved then io.freeMbAfterUpload else io.freeMb
      match uploaded.store.enforceLocalFootprintBudget io.budget with
      | (_, none) => none
      | (store, some ()) =>
        let overBudget : Bool := store.manager.lowDiskModeEnabled ∧ io.budget.footprintOver
        let enforced := { uploaded with store := store }
        some { self with
          segments := some
            (if overBudget then
              enforced.recordDiskAction io "warning" "local_footprint_budget_cleanup" freeMb
                (store.manager.verifiedSegmentBytesPrunedTotal +
                  store.manager.verifiedExportBytesPrunedTotal) io.footprintNotes
            else enforced)
          freeMb := if overBudget then io.freeMbAfterBudget else freeMb }
    | _, _ => none

/-- An audit event of the disk check. It is stored, and an error of the segments is ignored. -/
def audit (fmt : SegmentFormats) (self : DiskCheck) (kind : RuntimeAuditKind) (io : AuditIo) :
    DiskCheck :=
  { self with
    segments := self.segments.map fun segments => (segments.appendAudit fmt io).1
    audits := self.audits ++ [kind] }

/-- The first warning of an episode is audited, with `capture_runtime_report_segments`. -/
def report (fmt : SegmentFormats) (self : DiskCheck) (io : TickIo) : DiskCheck :=
  if self.storageWarningReported then self
  else
    let audited := self.audit fmt .storageWarning io.warningAudit
    { audited with
      segments := audited.segments.map fun segments =>
        { segments with
          store := (segments.store.appendLine fmt io.gapsReportIo "data_gaps" io.gapsReport
            (some io.gapsReportAt)).1 }
      storageWarningReported := true }

/-- Little space is left: close, upload and prune; or enough is left again. -/
def warn (fmt : SegmentFormats) (config : DiskConfig) (self : DiskCheck) (io : TickIo) :
    Option DiskCheck :=
  if self.freeMb < config.active.warningFreeMb ∧ config.closeSegmentsOnWarning then
    match self.segments with
    | none => some (self.report fmt io)
    | some segments =>
      ((segments.setDiskWarningActive io true).cleanUp fmt io.warning).map
        fun (cleaned, closed, summary) =>
          { self with
            segments := some (cleaned.recordDiskAction io "warning"
              "close_upload_prune_on_warning" self.freeMb summary.prunedBytes
              (RunSegments.cleanupNotes closed summary ++
                [noteOf "pruned_segment_bytes" summary.prunedBytes]))
            freeMb := io.freeMbAfterWarning }.report fmt io
  else if config.active.warningFreeMb ≤ self.freeMb then
    some { self with
      segments := self.segments.map (·.setDiskWarningActive io false)
      storageWarningReported := false }
  else some self

/-- The note and the audit of a stop for want of space. -/
def noteLimit (fmt : SegmentFormats) (config : DiskConfig) (self : DiskCheck) (io : TickIo) :
    DiskCheck :=
  self.note ("storage_limit_reached=" ++ noteOf "free_mb" self.freeMb ++ " " ++
      noteOf "critical_mb" config.active.criticalFreeMb ++ " " ++
      noteOf "emergency_mb" config.active.emergencyFreeMb)
    |>.audit fmt .storageLimitReached io.limitAudit

/-- The emergency floor is reached. -/
def inEmergency (config : DiskConfig) (self : DiskCheck) : Bool :=
  config.pauseBeforeOsError ∧ self.freeMb < config.active.emergencyFreeMb

/-- The stop in an emergency. The open segments are preserved. -/
def stopInEmergency (fmt : SegmentFormats) (config : DiskConfig) (self : DiskCheck)
    (io : TickIo) : DiskCheck :=
  noteLimit fmt config { self with
    segments := self.segments.map fun segments =>
      segments.recordDiskAction io "emergency" "preserve_open_segments_and_stop" self.freeMb 0
        ["emergency disk floor reached; preserving open segments"] } io

def isCritical (config : DiskConfig) (self : DiskCheck) : Bool :=
  config.stopCollectionOnCritical ∧ self.freeMb < config.active.criticalFreeMb

/-- A cleanup that may help when space is critical. -/
def relieve (fmt : SegmentFormats) (config : DiskConfig) (self : DiskCheck) (io : TickIo) :
    Option DiskCheck :=
  match self.segments with
  | none => some self
  | some segments =>
    if self.isCritical config then
      (segments.cleanUp fmt io.critical).map fun (cleaned, closed, summary) =>
        { self with
          segments := some (cleaned.recordDiskAction io "critical"
            "critical_cleanup_before_stop" self.freeMb summary.prunedBytes
            (RunSegments.cleanupNotes closed summary ++
              [noteOf "pending_segments" summary.pendingCount]))
          freeMb := io.freeMbAfterCritical }
    else some self

/-- The cleanup of a backlog. -/
def relieveBacklog (fmt : SegmentFormats) (config : DiskConfig) (self : DiskCheck)
    (io : TickIo) : Option DiskCheck :=
  match self.segments with
  | none => some self
  | some segments =>
    if segments.shouldForceCloseAndUploadOnBacklog then
      (segments.cleanUp fmt io.backlog).map fun (cleaned, closed, summary) =>
        let note := "segment_upload_backlog_warning=" ++
          noteOf "pending_segments" cleaned.store.pendingSegmentCount ++ " " ++
          noteOf "threshold" config.maxPendingSegmentsWarning
        { self with
          segments := some (cleaned.recordDiskAction io "warning"
            "segment_upload_backlog_warning_cleanup" self.freeMb summary.prunedBytes
            (note :: RunSegments.cleanupNotes closed summary ++
              [noteOf "pending_segments" summary.pendingCount]))
          freeMb := io.freeMbAfterBacklog }
    else some self

/-- A backlog that is worth a note. Collecting goes on. -/
def notePause (config : DiskConfig) (self : DiskCheck) (io : TickIo) : DiskCheck :=
  match self.segments with
  | none => self
  | some segments =>
    if segments.backlogExceedsPauseThreshold then
      let note := "segment_upload_backlog_pause_active=" ++
        noteOf "pending_segments" segments.store.pendingSegmentCount ++ " " ++
        noteOf "threshold" config.maxPendingSegmentsPause
      { self.note note with
        segments := some (segments.recordDiskAction io "warning"
          "segment_upload_backlog_pause_active" self.freeMb 0 [note]) }
    else self

/-- The backlog is too long to go on. -/
def backlogStops (self : DiskCheck) : Bool :=
  self.segments.any RunSegments.backlogExceedsStopThreshold

/-- The stop for a backlog, with a last cleanup. -/
def stopForBacklog (fmt : SegmentFormats) (config : DiskConfig) (self : DiskCheck)
    (io : TickIo) : Option DiskCheck :=
  match self.segments with
  | none => some self
  | some segments =>
    let note := "segment_upload_backlog_high=" ++
      noteOf "pending_segments" segments.store.pendingSegmentCount ++ " " ++
      noteOf "threshold" config.maxPendingSegmentsStop
    (segments.cleanUp fmt io.stop).map fun (cleaned, closed, summary) =>
      { self.note note with
        segments := some (cleaned.recordDiskAction io "warning" "segment_upload_backlog_pause"
          self.freeMb summary.prunedBytes
          (note :: RunSegments.cleanupNotes closed summary ++
            [noteOf "pending_segments" summary.pendingCount])) }

/-- What follows the warning: the stops for want of space or for a backlog. -/
def guard (fmt : SegmentFormats) (config : DiskConfig) (self : DiskCheck) (io : TickIo) :
    Option (Bool × DiskCheck) :=
  if self.inEmergency config then some (true, self.stopInEmergency fmt config io)
  else
    (self.relieve fmt config io).bind fun relieved =>
      if relieved.isCritical config then some (true, relieved.noteLimit fmt config io)
      else
        (relieved.relieveBacklog fmt config io).bind fun unloaded =>
          let noted := unloaded.notePause config io
          if noted.backlogStops then (noted.stopForBacklog fmt config io).map (Prod.mk true)
          else some (false, noted)

/-- A tick of the disk check: whether it stops the run. Without a result it fails. -/
def tick (fmt : SegmentFormats) (config : DiskConfig) (self : DiskCheck) (io : TickIo) :
    Option (Bool × DiskCheck) :=
  (self.collect fmt io).bind fun collected =>
    ({ collected with
      storageHealthy := config.active.criticalFreeMb ≤ collected.freeMb }.warn fmt config io).bind
        fun warned => warned.guard fmt config io

end DiskCheck

/-! ## Events -/

namespace LiveSupervisor

/-- The events on the buses. -/
def queued (self : LiveSupervisor) : ℕ := self.canonicalBus.len + self.tentativeBus.len

/-- `drain_pipeline`. Handling an event queues none. -/
def drainPipeline (self : LiveSupervisor) (ambient : ℕ → Ambient) : LiveSupervisor :=
  (List.range self.queued).foldl (fun s i => s.drain (ambient i)) self

/-- An event of a source is published. -/
def publish (self : LiveSupervisor) (ambient : Ambient) (event : NormalizedEvent)
    (tentative : Bool) : LiveSupervisor :=
  if tentative then self.publishTentative event else self.publishCanonical ambient event

end LiveSupervisor

/-- A line that handling an event appends to the segments. -/
structure SegmentAppend where
  artifactType : String
  bytes : Bytes := []
  eventTime : Option OffsetDateTime := none
  io : AppendIo := {}

/-- Lines are appended in order, up to the first error. -/
def RunSegments.appendLines (fmt : SegmentFormats) :
    List SegmentAppend → RunSegments → Option RunSegments
  | [], self => some self
  | line :: rest, self =>
    match self.store.appendLine fmt line.io line.artifactType line.bytes line.eventTime with
    | (_, none) => none
    | (store, some ()) => appendLines fmt rest { self with store := store }

/-! ## The loop -/

/-- `LiveRunOptions`, the limits of a run. The deadline is a reading of the clock. -/
structure LiveRunOptions where
  maxEvents : Option ℕ := none
  maxDecisions : Option ℕ := none
  deadline : Option ℕ := none
  geyserOnly : Bool := false
  noShred : Bool := false
  deriving DecidableEq, Repr

/-- How the loop is left: at its end, where the sources may have to be aborted, or with an
error. -/
inductive LoopExit where
  | finished (abortLiveSources : Bool)
  | failed
  deriving DecidableEq, Repr

/-- What `select!` picks. The sources close their channels. -/
inductive LoopArm where
  | healthTick
  | diskTick (io : TickIo)
  | canonical (event : Option NormalizedEvent)
  | tentative (event : Option NormalizedEvent)

structure LoopInput where
  arm : LoopArm
  /-- What publishing an event and handling the queued ones read from outside. -/
  published : Ambient
  handled : ℕ → Ambient
  appends : List SegmentAppend := []
  /-- The clock behind the arm. -/
  now : ℕ

structure LiveLoop where
  live : LiveSupervisor
  segments : Option RunSegments := none
  inlineMockEvents : List (NormalizedEvent × Bool) := []
  processed : ℕ := 0
  canonicalClosed : Bool := false
  tentativeClosed : Bool := false
  storageHealthy : Bool := true
  storageWarningReported : Bool := false
  completionNotes : List String := []
  audits : List RuntimeAuditKind := []
  exit : Option LoopExit := none

namespace LiveLoop

/-- The limits at the head of the loop. -/
def head (options : LiveRunOptions) (self : LiveLoop) : Option LoopExit :=
  if options.maxEvents.any (· ≤ self.processed) then some (.finished true)
  else if options.maxDecisions.any (· ≤ self.live.decisions.length) then some (.finished true)
  else if self.canonicalClosed ∧ self.tentativeClosed then some (.finished false)
  else none

/-- An event is published and the pipeline drained. -/
def takeEvent (fmt : SegmentFormats) (self : LiveLoop) (input : LoopInput)
    (event : NormalizedEvent) (tentative : Bool) : LiveLoop :=
  let taken := { self with
    live := (self.live.publish input.published event tentative).drainPipeline input.handled
    processed := self.processed + 1 }
  match self.segments with
  | none => taken
  | some segments =>
    match segments.appendLines fmt input.appends with
    | none => { self with exit := some .failed }
    | some segments => { taken with segments := some segments }

/-- The state of the loop that the disk check works on. -/
def diskCheck (self : LiveLoop) : DiskCheck where
  freeMb := 0
  segments := self.segments
  storageHealthy := self.storageHealthy
  storageWarningReported := self.storageWarningReported
  completionNotes := self.completionNotes
  audits := self.audits

/-- The loop with what the disk check leaves. -/
def checked (self : LiveLoop) (check : DiskCheck) : LiveLoop :=
  { self with
    segments := check.segments
    storageHealthy := check.storageHealthy
    storageWarningReported := check.storageWarningReported
    completionNotes := check.completionNotes
    audits := check.audits }

/-- A tick of the disk check. -/
def diskTick (fmt : SegmentFormats) (config : DiskConfig) (self : LiveLoop) (io : TickIo) :
    LiveLoop :=
  match self.diskCheck.tick fmt config io with
  | none => { self with exit := some .failed }
  | some (true, check) => { self.checked check with exit := some (.finished true) }
  | some (false, check) => self.checked check

/-- The arm that `select!` picks, none where it is not ready. -/
def select (fmt : SegmentFormats) (config : DiskConfig) (self : LiveLoop)
    (input : LoopInput) : Option LiveLoop :=
  match input.arm with
  | .healthTick => some self
  | .diskTick io => some (self.diskTick fmt config io)
  | .canonical event =>
    if self.canonicalClosed then none
    else
      match event with
      | some event => some (self.takeEvent fmt input event false)
      | none => some { self with canonicalClosed := true }
  | .tentative event =>
    if self.tentativeClosed then none
    else
      match event with
      | some event => some (self.takeEvent fmt input event true)
      | none => some { self with tentativeClosed := true }

/-- The deadline behind an arm that did not leave the loop. -/
def checkDeadline (options : LiveRunOptions) (self : LiveLoop) (now : ℕ) : LiveLoop :=
  if self.exit = none ∧ options.deadline.any (· ≤ now) then
    { self with exit := some (.finished true) }
  else self

/-- One iteration. Events of a mock come first. An arm that is not ready is not picked. -/
def iterate (fmt : SegmentFormats) (config : DiskConfig) (options : LiveRunOptions)
    (self : LiveLoop) (input : LoopInput) : LiveLoop :=
  if self.exit.isSome then self
  else
    match self.head options with
    | some exit => { self with exit := some exit }
    | none =>
      match self.inlineMockEvents with
      | (event, tentative) :: rest =>
        { self with inlineMockEvents := rest }.takeEvent fmt input event tentative
      | [] =>
        match self.select fmt config input with
        | none => self
        | some next => next.checkDeadline options input.now

def run (fmt : SegmentFormats) (config : DiskConfig) (options : LiveRunOptions)
    (self : LiveLoop) (inputs : List LoopInput) : LiveLoop :=
  inputs.foldl (iterate fmt config options) self

end LiveLoop

/-! ## The run -/

/-- How the task of a source ends. -/
inductive TaskEnd where
  | returned | failed | cancelled | panicked
  deriving DecidableEq, Repr

/-- A task that fails the run. An aborted run expects its tasks to be cancelled. -/
def TaskEnd.failsRun (aborted : Bool) : TaskEnd → Bool
  | .returned => false
  | .failed | .panicked => true
  | .cancelled => !aborted

/-- How `run_live_data_paper` returns, or whether it still runs. -/
inductive RunResult where
  | running | completed | failed
  deriving DecidableEq, Repr

/-- A live run, with the status records and the audit events that it left. -/
structure LiveDataRun where
  loop : LiveLoop
  statuses : List RunStatus
  audits : List RuntimeAuditKind
  result : RunResult

/-- What a live run meets outside its loop. -/
structure LiveDataEnv where
  sources : SourcesConfig
  /-- `LiveRunSegmentManager::from_loaded`. -/
  segmentsStart : Bool := true
  startAudit : AuditIo := {}
  /-- The metrics server binds its address, where it is enabled. -/
  metricsServerStarts : Bool := true
  /-- The sources of a run that is not a mock can be set up. -/
  sourcesStart : Bool := true
  inputs : List LoopInput
  /-- The lines that the last drain appends to the segments. -/
  drainAppends : List SegmentAppend := []
  drained : ℕ → Ambient
  taskEnds : List TaskEnd
  /-- The lines that `finalize_run` appends, and whether it can write the calibration. -/
  finalAppends : List SegmentAppend := []
  calibrationPersists : Bool := true
  finalized : Ambient
  unixNow : OffsetDateTime
  /-- `capture_runtime_report_segments`. -/
  gapsReport : SegmentAppend := { artifactType := "data_gaps" }
  stopAudit : AuditIo := {}
  cleanup : CleanupIo

namespace LiveLoop

/-- Lines are appended to the segments, where they are kept. -/
def appendLines (fmt : SegmentFormats) (self : LiveLoop) (lines : List SegmentAppend) :
    Option LiveLoop :=
  match self.segments with
  | none => some self
  | some segments =>
    (segments.appendLines fmt lines).map fun segments => { self with segments := some segments }

/-- The segments behind an audit event, and whether it could be appended to them. -/
def appendAudit (fmt : SegmentFormats) (self : LiveLoop) (audit : AuditIo) :
    LiveLoop × Option Unit :=
  match self.segments with
  | none => (self, some ())
  | some segments =>
    let (segments, appended) := segments.appendAudit fmt audit
    ({ self with segments := some segments }, appended)

/-- The segments are closed and uploaded at the end of a run. -/
def closeSegments (fmt : SegmentFormats) (self : LiveLoop) (io : CleanupIo) : Option LiveLoop :=
  match self.segments with
  | none => some self
  | some segments =>
    (segments.cleanUp fmt io).map fun (cleaned, _, _) => { self with segments := some cleaned }

end LiveLoop

namespace LiveDataRun

/-- A run that an error ends before it has a status. -/
def unrecorded (loop : LiveLoop) (audits : List RuntimeAuditKind) : LiveDataRun where
  loop := loop
  statuses := []
  audits := audits
  result := .failed

/-- A run that an error ends that its record does not know of. -/
def abandon (loop : LiveLoop) : LiveDataRun where
  loop := loop
  statuses := [.running]
  audits := .runtimeStarted :: loop.audits
  result := .failed

/-- A run that fails outside its loop. An error of the last audit event is ignored. -/
def fail (fmt : SegmentFormats) (loop : LiveLoop) (env : LiveDataEnv) : LiveDataRun where
  loop := (loop.appendAudit fmt env.stopAudit).1
  statuses := [.running, .failed]
  audits := .runtimeStarted :: loop.audits ++ [.runtimeStopped]
  result := .failed

/-- What follows the status of a completed run: the report on data gaps, the audit event of the
stop, and the last uploads. -/
def conclude (fmt : SegmentFormats) (loop : LiveLoop) (env : LiveDataEnv) : LiveDataRun :=
  let recorded : LiveDataRun :=
    { loop := loop
      statuses := [.running, .completed]
      audits := .runtimeStarted :: loop.audits
      result := .failed }
  match loop.appendLines fmt [env.gapsReport] with
  | none => recorded
  | some reported =>
    let stopped : LiveDataRun := { recorded with
      loop := (reported.appendAudit fmt env.stopAudit).1
      audits := recorded.audits ++ [.runtimeStopped] }
    match (reported.appendAudit fmt env.stopAudit).2 with
    | none => stopped
    | some () =>
      match stopped.loop.closeSegments fmt env.cleanup with
      | none => stopped
      | some closed => { stopped with loop := closed, result := .completed }

/-- The queues are drained once more. -/
def drain (loop : LiveLoop) (env : LiveDataEnv) : LiveLoop :=
  { loop with live := loop.live.drainPipeline env.drained }

/-- The end of a run whose loop was left. -/
def finish (fmt : SegmentFormats) (loop : LiveLoop) (aborted : Bool) (env : LiveDataEnv) :
    LiveDataRun :=
  match loop.appendLines fmt env.drainAppends with
  | none => abandon loop
  | some appended =>
    if env.taskEnds.any (TaskEnd.failsRun aborted) then fail fmt (drain appended env) env
    else
      match (drain appended env).appendLines fmt env.finalAppends with
      | none => abandon (drain appended env)
      | some finalized =>
        if !env.calibrationPersists then abandon (drain appended env)
        else
          conclude fmt { finalized with
            live := finalized.live.finalizeRun env.finalized env.unixNow } env

/-- What follows the loop. A run that an error in its loop ended returns at once. -/
def leave (fmt : SegmentFormats) (loop : LiveLoop) (env : LiveDataEnv) : LiveDataRun :=
  match loop.exit with
  | none =>
    { loop := loop
      statuses := [.running]
      audits := .runtimeStarted :: loop.audits
      result := .running }
  | some .failed => abandon loop
  | some (.finished aborted) => finish fmt loop aborted env

/-- The reason codes of the safety are replaced. -/
def withReasonCodes (start : LiveLoop) (codes : List ReasonCode) : LiveLoop :=
  { start with
    live := { start.live with safety := { start.live.safety with reasonCodes := codes } } }

/-- Without shreds their absence is no reason. -/
def startingCodes (options : LiveRunOptions) (codes : List ReasonCode) : List ReasonCode :=
  if options.geyserOnly ∨ options.noShred then
    codes.filter fun reason => reason ≠ .shredUnavailable
  else codes

/-- What follows the first status of a run: the checks, the metrics server, the sources and the
loop. -/
def collect (fmt : SegmentFormats) (config : DiskConfig) (options : LiveRunOptions)
    (start : LiveLoop) (env : LiveDataEnv) : LiveDataRun :=
  match env.sources.liveDataReadiness with
  | .error _ => fail fmt start env
  | .ok reasons =>
    let codes := start.live.safety.reasonCodes ++ reasons
    if !start.live.safety.paperAllowed ∧ !start.live.resolved.edgeCollectorMode then
      fail fmt (withReasonCodes start codes) env
    else
      let starting := withReasonCodes start (startingCodes options codes)
      if !env.metricsServerStarts then abandon starting
      else if !env.sourcesStart then fail fmt starting env
      else leave fmt (starting.run fmt config options env.inputs) env

/-- `run_live_data_paper`. The loop starts with the mock events and the channels that the
sources need. -/
def runLiveDataPaper (fmt : SegmentFormats) (config : DiskConfig) (options : LiveRunOptions)
    (start : LiveLoop) (env : LiveDataEnv) : LiveDataRun :=
  if !env.segmentsStart then unrecorded start []
  else
    match start.appendAudit fmt env.startAudit with
    | (started, none) => unrecorded started [.runtimeStarted]
    | (started, some ()) => collect fmt config options started env

end LiveDataRun

end PumpLaunchTrader
