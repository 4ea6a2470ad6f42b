import PumpLaunchTrader.Model.Supervisor

/-! # Health, summaries and metadata of runs (`runtime`, `storage`)

A supervisor reports counters of its run. A replay of several scenarios runs a child
supervisor for each of them, merges the summaries of the children into its own health and
refreshes that health once more before it reports. -/

namespace PumpLaunchTrader

/-- The counters of `RuntimeHealth` and the sources it lists. -/
structure RuntimeHealth where
  eventsProcessed : ℕ := 0
  canonicalEventsDropped : ℕ := 0
  earlyIntentSourcesActive : List String := []
  deshredEventsReceived : ℕ := 0
  deshredTransactionsDecoded : ℕ := 0
  deshredTentativeSellsTotal : ℕ := 0
  deshredMaliciousWarningsTotal : ℕ := 0
  deshredEmergencyExitsArmedTotal : ℕ := 0
  deshredEmergencyExitsTriggeredTotal : ℕ := 0
  deshredConfirmedExecutedTotal : ℕ := 0
  deshredFalsePositiveTotal : ℕ := 0
  deshredSavedLossQuoteTotal : Decimal := 0
  deshredOpportunityCostQuoteTotal : Decimal := 0
  rawShredTentativeSellsTotal : ℕ := 0
  mockEarlyIntentTentativeSellsTotal : ℕ := 0
  fixtureEarlyIntentTentativeSellsTotal : ℕ := 0
  replayEarlyIntentTentativeSellsTotal : ℕ := 0
  sourceDedupCount : ℕ := 0
  earlyIntentDedupPairs : KeyedMap String ℕ := ∅
  paperPnl : Decimal := 0
  realizedPnl : Decimal := 0
  feeDrag : Decimal := 0
  slippageDrag : Decimal := 0
  latencyDrag : Decimal := 0
  shredTentativeSellsTotal : ℕ := 0
  shredMaliciousSellWarningsTotal : ℕ := 0
  shredEmergencyExitsArmedTotal : ℕ := 0
  shredEmergencyExitsTriggeredTotal : ℕ := 0
  shredConfirmedExecutedTotal : ℕ := 0
  shredConfirmedFailedTotal : ℕ := 0
  shredNotSeenWithinTtlTotal : ℕ := 0
  shredReorgedTotal : ℕ := 0
  shredDecodeMismatchTotal : ℕ := 0
  shredAccountEffectConfirmedTotal : ℕ := 0
  shredSellFalsePositiveTotal : ℕ := 0
  shredSavedLossQuoteTotal : Decimal := 0
  shredOpportunityCostQuoteTotal : Decimal := 0

namespace RuntimeHealth

/-- What `handle_event` counts of an event. -/
def noteEvent (self : RuntimeHealth) (event : NormalizedEvent) : RuntimeHealth :=
  let deshred : Bool := event.info.source = .deshredTentative
  let observed : Bool :=
    match event.payload with
    | .observedTransaction _ => true
    | _ => false
  { self with
    eventsProcessed := self.eventsProcessed + 1
    deshredEventsReceived :=
      if deshred then self.deshredEventsReceived + 1 else self.deshredEventsReceived
    deshredTransactionsDecoded :=
      if deshred && observed then self.deshredTransactionsDecoded + 1
      else self.deshredTransactionsDecoded }

/-- The counters that `reset_for_next_run` clears. The totals of `shred_*` are not among
them. -/
def reset (self : RuntimeHealth) : RuntimeHealth :=
  { self with
    paperPnl := 0
    realizedPnl := 0
    feeDrag := 0
    slippageDrag := 0
    latencyDrag := 0
    eventsProcessed := 0
    canonicalEventsDropped := 0
    earlyIntentSourcesActive := []
    deshredEventsReceived := 0
    deshredTransactionsDecoded := 0
    deshredTentativeSellsTotal := 0
    deshredMaliciousWarningsTotal := 0
    deshredEmergencyExitsArmedTotal := 0
    deshredEmergencyExitsTriggeredTotal := 0
    deshredConfirmedExecutedTotal := 0
    deshredFalsePositiveTotal := 0
    deshredSavedLossQuoteTotal := 0
    deshredOpportunityCostQuoteTotal := 0
    rawShredTentativeSellsTotal := 0
    mockEarlyIntentTentativeSellsTotal := 0
    fixtureEarlyIntentTentativeSellsTotal := 0
    replayEarlyIntentTentativeSellsTotal := 0
    sourceDedupCount := 0
    earlyIntentDedupPairs := ∅ }

/-- Add the counts of dedup pairs, entry by entry. -/
def addDedupPairs (pairs added : KeyedMap String ℕ) : KeyedMap String ℕ :=
  added.entries.foldl (fun (merged : KeyedMap String ℕ) e => merged.upsert e.1 0 (· + e.2)) pairs

/-- The additions of `merge_summary`. The three drags are not among them. -/
def merge (self child : RuntimeHealth) : RuntimeHealth :=
  { self with
    eventsProcessed := self.eventsProcessed + child.eventsProcessed
    canonicalEventsDropped := self.canonicalEventsDropped + child.canonicalEventsDropped
    paperPnl := self.paperPnl + child.paperPnl
    deshredEventsReceived := self.deshredEventsReceived + child.deshredEventsReceived
    deshredTransactionsDecoded :=
      self.deshredTransactionsDecoded + child.deshredTransactionsDecoded
    deshredTentativeSellsTotal :=
      self.deshredTentativeSellsTotal + child.deshredTentativeSellsTotal
    deshredMaliciousWarningsTotal :=
      self.deshredMaliciousWarningsTotal + child.deshredMaliciousWarningsTotal
    deshredEmergencyExitsArmedTotal :=
      self.deshredEmergencyExitsArmedTotal + child.deshredEmergencyExitsArmedTotal
    deshredEmergencyExitsTriggeredTotal :=
      self.deshredEmergencyExitsTriggeredTotal + child.deshredEmergencyExitsTriggeredTotal
    deshredConfirmedExecutedTotal :=
      self.deshredConfirmedExecutedTotal + child.deshredConfirmedExecutedTotal
    deshredFalsePositiveTotal :=
      self.deshredFalsePositiveTotal + child.deshredFalsePositiveTotal
    deshredSavedLossQuoteTotal :=
      self.deshredSavedLossQuoteTotal + child.deshredSavedLossQuoteTotal
    deshredOpportunityCostQuoteTotal :=
      self.deshredOpportunityCostQuoteTotal + child.deshredOpportunityCostQuoteTotal
    rawShredTentativeSellsTotal :=
      self.rawShredTentativeSellsTotal + child.rawShredTentativeSellsTotal
    mockEarlyIntentTentativeSellsTotal :=
      self.mockEarlyIntentTentativeSellsTotal + child.mockEarlyIntentTentativeSellsTotal
    fixtureEarlyIntentTentativeSellsTotal :=
      self.fixtureEarlyIntentTentativeSellsTotal + child.fixtureEarlyIntentTentativeSellsTotal
    replayEarlyIntentTentativeSellsTotal :=
      self.replayEarlyIntentTentativeSellsTotal + child.replayEarlyIntentTentativeSellsTotal
    sourceDedupCount := self.sourceDedupCount + child.sourceDedupCount
    earlyIntentDedupPairs :=
      addDedupPairs self.earlyIntentDedupPairs child.earlyIntentDedupPairs
    shredTentativeSellsTotal := self.shredTentativeSellsTotal + child.shredTentativeSellsTotal
    shredMaliciousSellWarningsTotal :=
      self.shredMaliciousSellWarningsTotal + child.shredMaliciousSellWarningsTotal
    shredEmergencyExitsArmedTotal :=
      self.shredEmergencyExitsArmedTotal + child.shredEmergencyExitsArmedTotal
    shredEmergencyExitsTriggeredTotal :=
      self.shredEmergencyExitsTriggeredTotal + child.shredEmergencyExitsTriggeredTotal
    shredConfirmedExecutedTotal :=
      self.shredConfirmedExecutedTotal + child.shredConfirmedExecutedTotal
    shredConfirmedFailedTotal :=
      self.shredConfirmedFailedTotal + child.shredConfirmedFailedTotal
    shredNotSeenWithinTtlTotal :=
      self.shredNotSeenWithinTtlTotal + child.shredNotSeenWithinTtlTotal
    shredReorgedTotal := self.shredReorgedTotal + child.shredReorgedTotal
    shredDecodeMismatchTotal := self.shredDecodeMismatchTotal + child.shredDecodeMismatchTotal
    shredAccountEffectConfirmedTotal :=
      self.shredAccountEffectConfirmedTotal + child.shredAccountEffectConfirmedTotal
    shredSellFalsePositiveTotal :=
      self.shredSellFalsePositiveTotal + child.shredSellFalsePositiveTotal
    shredSavedLossQuoteTotal := self.shredSavedLossQuoteTotal + child.shredSavedLossQuoteTotal
    shredOpportunityCostQuoteTotal :=
      self.shredOpportunityCostQuoteTotal + child.shredOpportunityCostQuoteTotal
    earlyIntentSourcesActive := child.earlyIntentSourcesActive.foldl
      (fun sources source => if source ∈ sources then sources else sources ++ [source])
      self.earlyIntentSourcesActive }

/-- The part of `refresh_health` that reads the ledger. -/
def refreshLedger (self : RuntimeHealth) (ledger : PaperLedger) : RuntimeHealth :=
  { self with
    paperPnl := ledger.closedPnl
    realizedPnl := ledger.closedPnl
    feeDrag := ledger.feeDrag
    slippageDrag := ledger.slippageDrag
    latencyDrag := ledger.latencyDrag }

/-- The metrics of a source, those of no sell when it has none. -/
def sourceMetrics (manager : TentativeSellManager) (source : String) : ShredExitMetricsSummary :=
  (manager.sourceMetrics.lookup source).getD {}

/-- The part of `refresh_health` that reads the metrics of each source. -/
def refreshSources (self : RuntimeHealth) (manager : TentativeSellManager) : RuntimeHealth :=
  let deshred := sourceMetrics manager "deshredpreexecution"
  { self with
    deshredTentativeSellsTotal := deshred.tentativeSellTotal
    deshredMaliciousWarningsTotal := deshred.maliciousSellWarningTotal
    deshredEmergencyExitsArmedTotal := deshred.emergencyExitsArmedTotal
    deshredEmergencyExitsTriggeredTotal := deshred.emergencyExitsTriggeredTotal
    deshredConfirmedExecutedTotal := deshred.confirmedExecutedTotal
    deshredFalsePositiveTotal := deshred.falsePositiveExitTotal
    deshredSavedLossQuoteTotal := deshred.savedLossQuoteTotal
    deshredOpportunityCostQuoteTotal := deshred.opportunityCostQuoteTotal
    rawShredTentativeSellsTotal := (sourceMetrics manager "rawshred").tentativeSellTotal
    mockEarlyIntentTentativeSellsTotal :=
      (sourceMetrics manager "mockearlyintent").tentativeSellTotal
    fixtureEarlyIntentTentativeSellsTotal :=
      (sourceMetrics manager "fixturetentative").tentativeSellTotal
    replayEarlyIntentTentativeSellsTotal :=
      (sourceMetrics manager "replaytentative").tentativeSellTotal
    earlyIntentDedupPairs := manager.dedupPairs
    sourceDedupCount := manager.dedupPairs.values.sum
    earlyIntentSourcesActive := (manager.sourceMetrics.entries.filter fun e =>
      0 < e.2.tentativeSellTotal).map Sigma.fst }

/-- The part of `refresh_health` that an aggregate skips. -/
def refreshShred (self : RuntimeHealth) (metrics : ShredExitMetricsSummary) : RuntimeHealth :=
  { self with
    shredTentativeSellsTotal := metrics.tentativeSellTotal
    shredMaliciousSellWarningsTotal := metrics.maliciousSellWarningTotal
    shredEmergencyExitsArmedTotal := metrics.emergencyExitsArmedTotal
    shredEmergencyExitsTriggeredTotal := metrics.emergencyExitsTriggeredTotal
    shredConfirmedExecutedTotal := metrics.confirmedExecutedTotal
    shredConfirmedFailedTotal := metrics.confirmedFailedTotal
    shredNotSeenWithinTtlTotal := metrics.notSeenWithinTtlTotal
    shredReorgedTotal := metrics.reorgedTotal
    shredDecodeMismatchTotal := metrics.decodeMismatchTotal
    shredAccountEffectConfirmedTotal := metrics.accountEffectConfirmedTotal
    shredSellFalsePositiveTotal := metrics.falsePositiveExitTotal
    shredSavedLossQuoteTotal := metrics.savedLossQuoteTotal
    shredOpportunityCostQuoteTotal := metrics.opportunityCostQuoteTotal }

end RuntimeHealth

/-- `PaperExecutor::merge_ledger`. -/
def PaperExecutor.mergeLedger (self : PaperExecutor) (fills : List FillEvent)
    (closedPnl : Decimal) : PaperExecutor :=
  { self with
    ledger := { self.ledger with
      fills := self.ledger.fills ++ fills
      closedPnl := self.ledger.closedPnl + closedPnl } }

/-- What `merge_summary` reads of a `RuntimeSummary`. -/
structure RuntimeSummary where
  health : RuntimeHealth
  fills : List FillEvent
  snapshot : StateSnapshot

/-- A supervisor with the health it reports. -/
structure MonitoredSupervisor extends Supervisor where
  health : RuntimeHealth := {}
  aggregatedSnapshot : Option StateSnapshot := none

namespace MonitoredSupervisor

/-- `Supervisor::reset_for_next_run`, which is also `reset_aggregate`. -/
def resetForNextRun (self : MonitoredSupervisor) : MonitoredSupervisor :=
  { self with
    stateEngine := StateEngine.new self.resolved.ttl
    paperExecutor := {}
    tentativeSellManager := TentativeSellManager.new self.resolved.earlyIntent
      self.resolved.shredExit self.resolved.storedCalibration
    decisionOutcomes := []
    activeDataGaps := []
    aggregatedSnapshot := none
    health := self.health.reset }

/-- `Supervisor::refresh_health`. -/
def refreshHealth (self : MonitoredSupervisor) : MonitoredSupervisor :=
  let health := (self.health.refreshLedger self.paperExecutor.ledger).refreshSources
    self.tentativeSellManager
  { self with
    health :=
      if self.aggregatedSnapshot.isSome then health
      else health.refreshShred self.tentativeSellManager.metrics }

/-- `Supervisor::summary`. -/
def summary (self : MonitoredSupervisor) : RuntimeSummary :=
  { health := self.health
    fills := self.paperExecutor.ledger.fills
    snapshot := self.aggregatedSnapshot.getD self.stateEngine.snapshot }

/-- `Supervisor::merge_summary`. -/
def mergeSummary (self : MonitoredSupervisor) (summary : RuntimeSummary) : MonitoredSupervisor :=
  { self with
    paperExecutor := self.paperExecutor.mergeLedger summary.fills summary.health.paperPnl
    aggregatedSnapshot := some (mergeSnapshots self.aggregatedSnapshot summary.snapshot)
    health := self.health.merge summary.health }

/-- The loop of `run_from_store_selection` over the children of its scenario groups, each in
the state in which its scenario leaves it, with the final refresh. -/
def replayChildren (self : MonitoredSupervisor) (children : List MonitoredSupervisor) :
    MonitoredSupervisor :=
  (children.foldl (fun parent child => parent.mergeSummary child.refreshHealth.summary)
    self.resetForNextRun).refreshHealth

/-- The child of one scenario when its events have been replayed. -/
def scenarioChild (self : MonitoredSupervisor) (sourceRunId : String) (ambient : ℕ → Ambient)
    (unixNow : OffsetDateTime) (scenarioId : Option String) (events : List NormalizedEvent) :
    MonitoredSupervisor :=
  { self.replayScenario sourceRunId ambient unixNow scenarioId events with
    health := events.foldl RuntimeHealth.noteEvent {} }

end MonitoredSupervisor

/-! ## Runs and their metadata (`storage`)

Metadata records are appended when a run starts, ends or closes a scenario. Runs are listed
with one record each, whose counters are derived from the logs. -/

/-! ### Kinds of runs -/

inductive RunKind where
  | standardFixtureSuite | shredExitFixtureSuite | fixtureScenario | paperReplay
  | mockedLivePaper | mockedLivePaperEarlyIntent | mockedLivePaperDeshred | realLivePaper
  | realLivePaperDeshred | backtest | shredExitBacktest | deshredSmoke
  | multisourceEarlyIntentSuite | report | exportRun | replayEquivalence | calibrationUpdate
  | unknown
  deriving DecidableEq, Repr

inductive RunRole where
  | sourceRun | derivedRun | analysisRun | reportRun | exportRun | unknown
  deriving DecidableEq, Repr

namespace RunKind

def role : RunKind → RunRole
  | .standardFixtureSuite | .shredExitFixtureSuite | .fixtureScenario | .mockedLivePaper
  | .mockedLivePaperEarlyIntent | .mockedLivePaperDeshred | .realLivePaper
  | .realLivePaperDeshred | .multisourceEarlyIntentSuite => .sourceRun
  | .paperReplay | .backtest | .shredExitBacktest => .derivedRun
  | .replayEquivalence | .calibrationUpdate | .deshredSmoke => .analysisRun
  | .report => .reportRun
  | .exportRun => .exportRun
  | .unknown => .unknown

def isSourceRun (self : RunKind) : Bool := self.role = .sourceRun

end RunKind

/-- `str::starts_with`. -/
def textStartsWith (text stem : String) : Bool :=
  stem.toList.isPrefixOf text.toList

/-- `str::strip_prefix`. -/
def stripStem (text stem : String) : Option String :=
  if textStartsWith text stem then some (String.ofList (text.toList.drop stem.length)) else none

/-- `infer_run_kind`. -/
def inferRunKind (runId mode : String) (notes : List String)
    (containsTentativeSellEvents : Bool) : RunKind :=
  let noted : String → Bool := fun part => notes.any fun note => textContains note part
  let fixtureMode : Bool := lowercase mode = "fixture"
  if textStartsWith runId "fixture-suite-" then .standardFixtureSuite
  else if textStartsWith runId "shred-exit-suite-" then .shredExitFixtureSuite
  else if textStartsWith runId "fixture-" then .fixtureScenario
  else if textStartsWith runId "paper-replay-" then .paperReplay
  else if textStartsWith runId "live-paper-" then
    if noted "mode=mock_geyser" then
      if noted "mock_deshred=true" then .mockedLivePaperDeshred
      else if containsTentativeSellEvents ∨ noted "mock_early_intent=true" then
        .mockedLivePaperEarlyIntent
      else .mockedLivePaper
    else if noted "with_deshred=true" ∨ noted "mode=real_geyser+deshred" then
      .realLivePaperDeshred
    else .realLivePaper
  else if textStartsWith runId "backtest-shred-exit-" then .shredExitBacktest
  else if textStartsWith runId "backtest-" then .backtest
  else if textStartsWith runId "deshred-smoke-" then .deshredSmoke
  else if textStartsWith runId "multisource-early-intent-suite-" then
    .multisourceEarlyIntentSuite
  else if textStartsWith runId "report-" then .report
  else if textStartsWith runId "replay-equivalence-" then .replayEquivalence
  else if textStartsWith runId "export-" then .exportRun
  else if textStartsWith runId "calibration-update-" then .calibrationUpdate
  else if fixtureMode ∧ textContains runId "shred-exit" then .shredExitFixtureSuite
  else if fixtureMode ∧ textContains runId "fixture-suite" then .standardFixtureSuite
  else .unknown

/-- `infer_run_role`. -/
def inferRunRole (runKind : RunKind) (runId : String) : RunRole :=
  if runKind = .unknown ∧ textStartsWith runId "inspect-token-" then .analysisRun
  else if runKind = .unknown ∧ textStartsWith runId "report-" then .reportRun
  else if runKind = .unknown ∧ textStartsWith runId "export-" then .exportRun
  else runKind.role

/-! ### Statistics of the logs -/

/-- `DerivedRunEventStats`. -/
structure DerivedRunEventStats where
  eventCount : ℕ := 0
  containsTentativeSellEvents : Bool := false
  containsShredExitDefenseEvents : Bool := false
  tentativeSellCount : ℕ := 0
  emergencyExitCount : ℕ := 0
  savedLossTotal : Decimal := 0
  opportunityCostTotal : Decimal := 0
  falsePositiveCount : ℕ := 0
  decodeMismatchCount : ℕ := 0
  reorgCount : ℕ := 0
  notSeenCount : ℕ := 0
  deriving DecidableEq, Repr

namespace DerivedRunEventStats

def countOutcome (self : DerivedRunEventStats) :
    TentativeSellResolutionOutcome → DerivedRunEventStats
  | .notSeenWithinTtl => { self with notSeenCount := saturatingAdd self.notSeenCount 1 }
  | .decodeMismatch => { self with decodeMismatchCount := saturatingAdd self.decodeMismatchCount 1 }
  | .reorged => { self with reorgCount := saturatingAdd self.reorgCount 1 }
  | _ => self

/-- The part of `derive_run_event_stats` for an event. -/
def countEvent (self : DerivedRunEventStats) (event : NormalizedEvent) : DerivedRunEventStats :=
  let counted := { self with eventCount := saturatingAdd self.eventCount 1 }
  match event.payload with
  | .tentativeSellIntentDetected _ =>
    { counted with
      containsTentativeSellEvents := true
      containsShredExitDefenseEvents := true
      tentativeSellCount := saturatingAdd counted.tentativeSellCount 1 }
  | .tentativeMaliciousSellWarning _ | .shredEmergencyExitArmed _ =>
    { counted with containsShredExitDefenseEvents := true }
  | .shredEmergencyExitTriggered _ =>
    { counted with
      containsShredExitDefenseEvents := true
      emergencyExitCount := saturatingAdd counted.emergencyExitCount 1 }
  | .shredSellIntentResolved resolved =>
    { counted with
      containsShredExitDefenseEvents := true
      savedLossTotal := counted.savedLossTotal + max resolved.actualLossSavedIfExited 0
      falsePositiveCount :=
        if resolved.falsePositiveFlag then saturatingAdd counted.falsePositiveCount 1
        else counted.falsePositiveCount }.countOutcome resolved.outcome
  | _ => counted

/-- The part of `derive_run_event_stats` for a fill. -/
def countFill (self : DerivedRunEventStats) (fill : FillEvent) : DerivedRunEventStats :=
  let emergency : Bool :=
    fill.exitSource = some "ShredEmergencyExit" ∨ fill.exitSource = some "DeshredEmergencyExit"
  { self with
    containsShredExitDefenseEvents := self.containsShredExitDefenseEvents || emergency
    emergencyExitCount :=
      if emergency then saturatingAdd self.emergencyExitCount 1 else self.emergencyExitCount
    opportunityCostTotal :=
      self.opportunityCostTotal + fill.opportunityCostIfFalsePositive.getD 0 }

end DerivedRunEventStats

/-- A record of the log of fills. -/
structure StoredFill where
  runId : Option String
  record : FillEvent
  deriving DecidableEq, Repr

/-- An event counts for its run. -/
def countStoredEvent (stats : KeyedMap String DerivedRunEventStats) (record : StoredRecord) :
    KeyedMap String DerivedRunEventStats :=
  match record.runId with
  | none => stats
  | some runId => stats.upsert runId {} fun entry => entry.countEvent record.record

/-- A fill counts for its run. -/
def countStoredFill (stats : KeyedMap String DerivedRunEventStats) (record : StoredFill) :
    KeyedMap String DerivedRunEventStats :=
  match record.runId with
  | none => stats
  | some runId => stats.upsert runId {} fun entry => entry.countFill record.record

/-- `derive_run_event_stats`. -/
def deriveRunEventStats (events : List StoredRecord) (fills : List StoredFill) :
    KeyedMap String DerivedRunEventStats :=
  fills.foldl countStoredFill (events.foldl countStoredEvent ∅)

/-! ### Metadata -/

/-- The metadata of a run as it is stored: the fields that listing the runs reads or writes. -/
structure StoredRunMetadata extends RunMetadata where
  scenarioId : Option String := none
  parentRunId : Option String := none
  sourceRunId : Option String := none
  mode : String
  runKind : RunKind := .unknown
  runRole : RunRole := .unknown
  stats : DerivedRunEventStats := {}
  notes : List String := []
  deriving DecidableEq, Repr

namespace StoredRunMetadata

/-- `should_prefer_run_metadata`. -/
def preferredTo (candidate existing : StoredRunMetadata) : Bool :=
  let candidateRoot := candidate.scenarioId.isNone
  if candidateRoot ≠ existing.scenarioId.isNone then candidateRoot
  else existing.wallClock < candidate.wallClock ∨
    (candidate.wallClock = existing.wallClock ∧ existing.runId < candidate.runId)

/-- The record that `list_runs` makes of the one kept for a run. -/
def refined (self : StoredRunMetadata) (derived : Option DerivedRunEventStats) :
    StoredRunMetadata :=
  let stats := derived.getD self.stats
  let runKind := inferRunKind self.runId self.mode self.notes stats.containsTentativeSellEvents
  { self with
    scenarioId := none
    stats := stats
    runKind := runKind
    runRole := inferRunRole runKind self.runId
    sourceRunId :=
      self.sourceRunId <|> self.parentRunId <|>
        self.notes.findSome? (stripStem · "source_run_id=") <|>
        if runKind.isSourceRun then some self.runId else none }

end StoredRunMetadata

/-- A record replaces the one that is kept for its run when it is preferred to it. -/
def foldMetadata (folded : KeyedMap String StoredRunMetadata) (record : StoredRunMetadata) :
    KeyedMap String StoredRunMetadata :=
  match folded.lookup record.runId with
  | some existing =>
    if record.preferredTo existing then folded.insert record.runId record else folded
  | none => folded.insert record.runId record

/-- `latest_metadata_per_run`. -/
def latestMetadataPerRun (records : List StoredRunMetadata) :
    KeyedMap String StoredRunMetadata :=
  records.foldl foldMetadata ∅

/-- The logs that the metadata of the runs is listed from. -/
structure RunStore where
  metadata : List StoredRunMetadata := []
  events : List StoredRecord := []
  fills : List StoredFill := []

namespace RunStore

/-- The order of runs by their clocks, then their ids. -/
def compareRuns (left right : StoredRunMetadata) : Ordering :=
  (compare left.wallClock right.wallClock).then (compare left.runId right.runId)

/-- `StorageEngine::list_runs`, the latest run first. -/
def listRuns (self : RunStore) : List StoredRunMetadata :=
  let eventStats := deriveRunEventStats self.events self.fills
  let runs := (latestMetadataPerRun self.metadata).values.map fun record =>
    record.refined (eventStats.lookup record.runId)
  runs.insertionSort fun left right => (compareRuns right left).isLE

/-- The runs that pass the filters of `latest_run_metadata_filtered`. -/
def filteredRuns (self : RunStore) (kind : Option RunKind)
    (requireSourceEvents requireShredExit : Bool) : List StoredRunMetadata :=
  self.listRuns.filter fun record =>
    (kind.all fun kind => record.runKind = kind) ∧
      (requireSourceEvents = false ∨ 0 < record.stats.eventCount) ∧
      (requireShredExit = false ∨ record.stats.containsShredExitDefenseEvents)

/-- The latest of the completed runs, if there are any, else of those that are not running,
else of all. -/
def pickLatest (filtered : List StoredRunMetadata) : Option StoredRunMetadata :=
  match maxBy compareRuns (filtered.filter fun record => record.status = .completed) with
  | some record => some record
  | none =>
    match maxBy compareRuns (filtered.filter fun record => record.status ≠ .running) with
    | some record => some record
    | none => maxBy compareRuns filtered

/-- `StorageEngine::latest_run_metadata_filtered`. -/
def latestRunMetadataFiltered (self : RunStore) (kind : Option RunKind)
    (requireSourceEvents requireShredExit : Bool) : Option StoredRunMetadata :=
  pickLatest (self.filteredRuns kind requireSourceEvents requireShredExit)

/-- `StorageEngine::latest_completed_run_id_for`. -/
def latestCompletedRunIdFor (self : RunStore) (runIds : List String) : Option String :=
  if runIds = [] then none
  else
    (maxBy compareRuns (self.listRuns.filter fun record =>
      record.status = .completed ∧ record.runId ∈ runIds)).map fun record => record.runId

end RunStore

end PumpLaunchTrader
