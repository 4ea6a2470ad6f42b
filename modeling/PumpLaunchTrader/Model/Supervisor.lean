import PumpLaunchTrader.Model.Executor
import PumpLaunchTrader.Model.ShredExit
import PumpLaunchTrader.Model.State.Engine
import PumpLaunchTrader.Model.Storage

/-! # The supervisor (`runtime`)

`Pipeline` is the part of the supervisor that handling an event reads and writes: a step
returns the next pipeline and the events that it persists, in order. `Supervisor` adds the
log. The feature and the risk engine are functions of their arguments; fresh ids, clock
readings and the records of other datasets are read from an `Ambient`. -/

namespace PumpLaunchTrader

variable [IterationOrder] [PendingOrder]

/-! ## Data gaps and safety -/

inductive DataGapScope where
  | global | source | slotRange | token | run | scenario
  deriving DecidableEq, Repr

structure ScopedDataGap where
  scope : DataGapScope
  source : EventSource
  startSlot : ℕ
  endSlot : Option ℕ
  severity : GapSeverity
  active : Bool
  tradeBlocking : Bool
  affectedToken : Option String
  runId : String
  scenarioId : Option String
  reasonCodes : List ReasonCode
  recoveryAction : String
  deriving DecidableEq, Repr

structure RuntimeSafety where
  tradeAllowed : Bool
  paperAllowed : Bool
  liveAllowed : Bool
  dataQualityAllowed : Bool := true
  reasonCodes : List ReasonCode := []
  deriving DecidableEq, Repr

/-- `str::contains`. -/
def textContains (text part : String) : Bool :=
  part.toList <:+: text.toList

/-- `scoped_gaps_from_event`. -/
def scopedGapsFromEvent (payload : DataGapEvent) (runId : String) (scenarioId : Option String) :
    List ScopedDataGap :=
  let isRecovery : Bool := payload.tradeAllowed ∨ textContains payload.recoveryAction "recover" ∨
    textContains payload.recoveryAction "resume"
  let gap : DataGapScope → Option String → ScopedDataGap := fun scope affectedToken =>
    { scope := scope
      source := payload.source
      startSlot := payload.startSlot
      endSlot := payload.endSlot
      severity := payload.severity
      active := !isRecovery
      tradeBlocking := !payload.tradeAllowed
      affectedToken := affectedToken
      runId := runId
      scenarioId := scenarioId
      reasonCodes := [.dataGapActive]
      recoveryAction := payload.recoveryAction }
  if payload.affectedTokens ≠ [] then
    payload.affectedTokens.map fun mint => gap .token (some mint.text)
  else
    [gap
      (if textContains payload.recoveryAction "enter_data_gap_mode" then .global
        else if scenarioId.isSome then .scenario
        else .source)
      none]

namespace ScopedDataGap

/-- An active gap that blocks trading beyond a single token. -/
def blocksGlobally (self : ScopedDataGap) : Bool :=
  self.active ∧ self.tradeBlocking ∧ self.scope ≠ .token

/-- An active gap that blocks trading of one token. -/
def blocksToken (self : ScopedDataGap) (mint : String) : Bool :=
  self.active ∧ self.tradeBlocking ∧ self.scope = .token ∧ self.affectedToken = some mint

/-- A recovery closes the gaps of the same scope, source, token and scenario. -/
def closes (self existing : ScopedDataGap) : Bool :=
  existing.scope = self.scope ∧ existing.source = self.source ∧
    existing.affectedToken = self.affectedToken ∧ existing.scenarioId = self.scenarioId

end ScopedDataGap

/-! ## Pipeline -/

/-- The configuration that the supervisor reads. -/
structure RuntimeResolvedConfig where
  configHash : String
  strategyVersion : String
  runId : String
  edgeCollectorMode : Bool := false
  liveEnabled : Bool := false
  paperEnabled : Bool := true
  ttl : TtlConfig
  strategy : StrategyThresholds
  edge : EdgeConfig
  execution : ExecutionConfig
  earlyIntent : EarlyIntentConfig
  shredExit : ShredExitConfig
  /-- The calibration file, when it can be read. -/
  storedCalibration : Option PersistedShredExitCalibration := none
  featureEngine : TokenState → StateEngine → OffsetDateTime → FeatureSnapshot
  riskEngine : TokenState → FeatureSnapshot → OffsetDateTime → RiskAssessment

structure Pipeline where
  resolved : RuntimeResolvedConfig
  stateEngine : StateEngine
  decisionEngine : DecisionEngine
  paperExecutor : PaperExecutor := {}
  tentativeSellManager : TentativeSellManager
  safety : RuntimeSafety
  activeDataGaps : List ScopedDataGap := []
  decisionOutcomes : List DecisionOutcome := []
  sourceRunId : Option String := none
  currentScenarioId : Option String := none

/-- What handling an event reads from outside the supervisor. -/
structure Ambient where
  /-- `EventId::new_v7`. -/
  freshEventId : ℕ → EventId
  /-- `monotonic_now_ns`. -/
  monotonicNowNs : ℕ
  /-- The records of other datasets tagged before each event record. -/
  otherRecords : ℕ → ℕ

/-- `force_fail_for_token`. -/
def forceFailForToken (token : TokenState) : Bool :=
  token.symbol.toList.map Char.toLower = ['f', 'l']

/-- The `Debug` name of a decision. -/
def TradeDecision.name : TradeDecision → String
  | .ignore => "Ignore"
  | .watchLight => "WatchLight"
  | .watchDeep => "WatchDeep"
  | .enterPaper => "EnterPaper"
  | .enterLive => "EnterLive"
  | .hold => "Hold"
  | .scaleOut => "ScaleOut"
  | .exit => "Exit"
  | .emergencyExit => "EmergencyExit"
  | .stopTracking => "StopTracking"

/-- The variant of the terminal event that a discard policy calls for. -/
def riskTerminalVariant : DiscardPolicyDecision → Option TokenTerminalVariant
  | .softDiscard => some .softDiscarded
  | .hardDiscard => some .hardDiscarded
  | .rugArchive => some .rugged
  | .dataGapStop => some .dataGap
  | .keep | .researchSample => none

namespace DecisionOutcome

def withDecision (self : DecisionOutcome) (decision : TradeDecision)
    (reasonCodes : List ReasonCode) : DecisionOutcome :=
  { self with
    decisionEvent := { self.decisionEvent with
      decision := decision
      reasonCodes := self.decisionEvent.reasonCodes ++ reasonCodes } }

/-- A tentative event enters no position. -/
def withTentativeLimit (self : DecisionOutcome) (tentative : Bool) : DecisionOutcome :=
  if tentative ∧ (self.decisionEvent.decision = .enterPaper ∨
      self.decisionEvent.decision = .enterLive) then
    self.withDecision .watchDeep [.tentativeOnly]
  else self

/-- The diagnostics of a triggered exit. -/
def triggeredDiagnostics (token : TokenState) : List String :=
  let defense := token.shredDefense
  let activeTracking := defense.pendingTentativeSells.values.head?
  let line : String → Option String → List String := fun stem value =>
    (value.map fun text => stem ++ text).toList
  line "trigger_event_id=" defense.activeTriggeredExitEventId ++
  line "malicious_sell_seller=" defense.activeDangerousSeller ++
  line "malicious_sell_classification="
    (defense.activeSellerClassification.map fun c => lowercase c.name) ++
  ["expected_exit_price=" ++ Decimal.display
      ((activeTracking.map TentativeSellTracking.warningPrice).getD token.latestPrice),
    "estimated_saved_loss_quote=" ++ Decimal.display defense.shredSavedLossEstimate,
    "realized_loss_saved_quote=" ++ Decimal.display defense.shredSavedLossRealized,
    "opportunity_cost_if_false_positive=" ++ Decimal.display defense.shredExitOpportunityCost] ++
  line "early_intent_to_geyser_processed_latency_ms="
    (defense.shredToGeyserProcessedMs.map toString) ++
  line "early_intent_to_account_effect_latency_ms="
    (defense.shredToAccountEffectConfirmationMs.map toString) ++
  line "early_intent_to_rooted_latency_ms="
    (defense.shredToRootedConfirmationMs.map toString) ++
  line "malicious_sell_signature=" (activeTracking.bind TentativeSellTracking.signature) ++
  ["exit_by=shred_emergency_exit"]

/-- `Supervisor::apply_shred_defense_annotations`. -/
def withShredDefenseAnnotations (self : DecisionOutcome) (token : TokenState) :
    DecisionOutcome :=
  let defense := token.shredDefense
  let signalCodes : List ReasonCode :=
    if defense.shredEmergencyExitTriggeredFlag then [.shredEmergencyExit]
    else if defense.shredExitArmedFlag then [.shredExitArmed]
    else if defense.lastWarningLevel.isSome then [.earlyIntentSellWarning]
    else []
  let staleCodes : List ReasonCode :=
    if defense.shredSignalStaleFlag then [.shredSignalStale] else []
  { self.withDecision self.decisionEvent.decision (signalCodes ++ staleCodes) with
    diagnostics := self.diagnostics ++
      (if defense.shredEmergencyExitTriggeredFlag then triggeredDiagnostics token else []) }

end DecisionOutcome

namespace Pipeline

/-! ### Safety -/

/-- `Supervisor::recompute_safety`. -/
def recomputeSafety (self : Pipeline) : Pipeline :=
  let globalBlock := self.activeDataGaps.any ScopedDataGap.blocksGlobally
  let kept := self.safety.reasonCodes.filter fun reason => reason ≠ .dataGapActive
  { self with
    safety := { self.safety with
      tradeAllowed := !self.resolved.liveEnabled && !globalBlock
      dataQualityAllowed := !globalBlock
      reasonCodes := if globalBlock then kept ++ [.dataGapActive] else kept } }

/-- The open gaps after a gap starts or recovers. -/
def recordGap (gaps : List ScopedDataGap) (gap : ScopedDataGap) : List ScopedDataGap :=
  if gap.active then gaps ++ [gap]
  else gaps.filter fun existing => !gap.closes existing

/-- `Supervisor::update_data_gap_state`. -/
def updateDataGapState (self : Pipeline) (payload : DataGapEvent) : Pipeline :=
  let gaps := scopedGapsFromEvent payload self.resolved.runId self.currentScenarioId
  { self with
    activeDataGaps := gaps.foldl recordGap self.activeDataGaps }
    |>.recomputeSafety

/-- `Supervisor::token_trade_allowed`. -/
def tokenTradeAllowed (self : Pipeline) (mint : String) : Bool × List ReasonCode :=
  if self.activeDataGaps.any ScopedDataGap.blocksGlobally then (false, [.dataGapActive])
  else if self.activeDataGaps.any (·.blocksToken mint) then (false, [.dataGapActive])
  else (self.safety.tradeAllowed, self.safety.reasonCodes)

/-- `Supervisor::apply_runtime_safety_for_token`. -/
def applyRuntimeSafetyForToken (self : Pipeline) (token : TokenState)
    (outcome : DecisionOutcome) : DecisionOutcome :=
  let (tradeAllowed, reasons) := self.tokenTradeAllowed token.mint.text
  if tradeAllowed then outcome
  else
    outcome.withDecision
      (if token.lifecycle = .inPosition then .emergencyExit else .stopTracking) reasons

/-! ### Handling an event -/

/-- The application of an event to the state and, for a data gap, to the safety. -/
def applyEvent (self : Pipeline) (event : NormalizedEvent) : Pipeline :=
  let applied := { self with stateEngine := (self.stateEngine.applyEvent event).1 }
  match event.payload with
  | .dataGap payload => applied.updateDataGapState payload
  | _ => applied

/-- `Supervisor::apply_derived_runtime_event` on events in order. -/
def applyDerived (self : Pipeline) (events : List NormalizedEvent) : Pipeline :=
  events.foldl applyEvent self

/-- The tentative sells that an event detects or resolves. -/
def sellSignals (self : Pipeline) (event : NormalizedEvent) (tentative : Bool)
    (mint : PubkeyValue) (token : TokenState) (features : FeatureSnapshot)
    (risk : RiskAssessment) : TentativeSellManager × List NormalizedEvent :=
  if tentative then
    match event.payload with
    | .pumpSell _ =>
      self.tentativeSellManager.detectTentativeSell event token features risk
        (self.paperExecutor.positionContext mint.text)
    | _ => (self.tentativeSellManager, [])
  else self.tentativeSellManager.reconcile event (self.stateEngine.token mint)

/-- The expiry of pending tentative sells. -/
def expireSells (self : Pipeline) (ambient : Ambient) (now : OffsetDateTime) :
    TentativeSellManager × List NormalizedEvent :=
  if self.tentativeSellManager.hasPending then
    self.tentativeSellManager.expire (fun i => ambient.freshEventId (i + 1)) now
      self.stateEngine.tokens
  else (self.tentativeSellManager, [])

/-- The terminal event of `apply_risk_terminal`. -/
def riskTerminalEvent (ambient : Ambient) (mint : PubkeyValue) (variant : TokenTerminalVariant)
    (risk : RiskAssessment) (observedAt : OffsetDateTime) : NormalizedEvent :=
  { info :=
      { eventId := ambient.freshEventId 0
        source := .replay
        canonicality := .processed
        slot := 0
        observedAtMonotonicNs := ambient.monotonicNowNs
        receivedAtWallTime := observedAt }
    payload := .tokenTerminal
      { mint := mint
        variant := variant
        reasonCodes := risk.reasonCodes } }

/-- `Supervisor::deterministic_decision_id`. -/
def deterministicDecisionId (self : Pipeline) (event : NormalizedEvent)
    (decision : TradeDecisionEvent) : String :=
  (EventId.fromSeed ("decision:" ++ self.sourceRunId.getD self.resolved.runId ++ ":" ++
    self.currentScenarioId.getD "_all" ++ ":" ++ event.info.eventId.uuid ++ ":" ++
    decision.decision.name ++ ":" ++ decision.strategy ++ ":" ++
    decision.featureSnapshotHash ++ ":" ++ toString decision.noLookaheadTimestamp)).uuid

/-- The decision on a token, with its annotations, safety and id. -/
def decide (self : Pipeline) (event : NormalizedEvent) (tentative : Bool) (mint : PubkeyValue)
    (token : TokenState) (features : FeatureSnapshot) (risk : RiskAssessment) :
    DecisionOutcome :=
  let outcome := self.decisionEngine.evaluate token features risk
    (self.paperExecutor.positionContext mint.text) self.resolved.configHash
    self.resolved.strategyVersion event.info.receivedAtWallTime ""
  let outcome := (outcome.withTentativeLimit tentative).withShredDefenseAnnotations token
  let outcome := self.applyRuntimeSafetyForToken token outcome
  { outcome with
    decisionEvent := { outcome.decisionEvent with
      decisionId := self.deterministicDecisionId event outcome.decisionEvent } }

/-- Decide on a token, record the decision and hand it to the paper executor. -/
def decideAndExecute (self : Pipeline) (event : NormalizedEvent) (tentative : Bool)
    (mint : PubkeyValue) (token : TokenState) (features : FeatureSnapshot)
    (risk : RiskAssessment) : Pipeline :=
  let outcome := self.decide event tentative mint token features risk
  { self with
    decisionOutcomes := self.decisionOutcomes ++ [outcome]
    paperExecutor :=
      if self.safety.paperAllowed then
        (self.paperExecutor.handleDecision outcome token event.info.receivedAtWallTime
          (forceFailForToken token)).1
      else self.paperExecutor }

/-- The last part of `handle_event`: the risk terminal of a canonical event, then the
decision. -/
def concludeEvent (self : Pipeline) (ambient : Ambient) (event : NormalizedEvent)
    (tentative : Bool) (mint : PubkeyValue) (token : TokenState) (features : FeatureSnapshot)
    (risk : RiskAssessment) : Pipeline × List NormalizedEvent :=
  match if tentative then none else riskTerminalVariant risk.discardPolicy with
  | none => (self.decideAndExecute event tentative mint token features risk, [])
  | some variant =>
    let terminal := riskTerminalEvent ambient mint variant risk event.info.receivedAtWallTime
    let moved := self.applyEvent terminal
    match moved.stateEngine.token mint with
    | none => (moved, [terminal])
    | some token =>
      (moved.decideAndExecute event tentative mint token features risk, [terminal])

/-- The tentative sells that an event detects or resolves and those that expire, applied to
the state. -/
def settleSells (self : Pipeline) (ambient : Ambient) (event : NormalizedEvent)
    (tentative : Bool) (mint : PubkeyValue) (token : TokenState) (features : FeatureSnapshot)
    (risk : RiskAssessment) : Pipeline × List NormalizedEvent :=
  let signals := self.sellSignals event tentative mint token features risk
  let signalled := { self with tentativeSellManager := signals.1 }.applyDerived signals.2
  let expiry := signalled.expireSells ambient event.info.receivedAtWallTime
  ({ signalled with tentativeSellManager := expiry.1 }.applyDerived expiry.2,
    signals.2 ++ expiry.2)

/-- The middle part of `handle_event`, on the token of the event: an assessment, the
tentative sells, and a second assessment when any of them was settled. -/
def assessEvent (self : Pipeline) (ambient : Ambient) (event : NormalizedEvent)
    (tentative : Bool) (mint : PubkeyValue) (token : TokenState) :
    Pipeline × List NormalizedEvent :=
  let now := event.info.receivedAtWallTime
  let features := self.resolved.featureEngine token self.stateEngine now
  let risk := self.resolved.riskEngine token features now
  let (settled, derived) := self.settleSells ambient event tentative mint token features risk
  if derived.isEmpty then
    settled.concludeEvent ambient event tentative mint token features risk
  else
    match settled.stateEngine.token mint with
    | none => (settled, derived)
    | some token =>
      let features := settled.resolved.featureEngine token settled.stateEngine now
      let risk := settled.resolved.riskEngine token features now
      let (concluded, terminal) :=
        settled.concludeEvent ambient event tentative mint token features risk
      (concluded, derived ++ terminal)

/-- `Supervisor::handle_event`: the next pipeline, and the events that it applied to the
state, in order. -/
def handleEvent (self : Pipeline) (ambient : Ambient) (event : NormalizedEvent)
    (tentative : Bool) : Pipeline × List NormalizedEvent :=
  let applied := self.applyEvent event
  if self.resolved.edgeCollectorMode then (applied, [event])
  else
    match event.mint with
    | none => (applied, [event])
    | some mint =>
      match applied.stateEngine.token mint with
      | none => (applied, [event])
      | some token =>
        let (assessed, generated) := applied.assessEvent ambient event tentative mint token
        (assessed, event :: generated)

/-- The time of the last price of any token, else the clock. -/
def latestObserved (self : Pipeline) (unixNow : OffsetDateTime) : OffsetDateTime :=
  let times := self.stateEngine.tokens.values.filterMap fun token =>
    token.tradeStats.priceHistory.getLast?.map Prod.fst
  times.max?.getD unixNow

/-- The time at which `finalize_run` lets pending sells expire. -/
def expireAt (self : Pipeline) (unixNow : OffsetDateTime) : OffsetDateTime :=
  self.latestObserved unixNow +
    Duration.milliseconds (asI64 self.resolved.shredExit.tentativeReconciliationTtlMs)

/-- The tentative sells that expire when a run ends. -/
def finalExpiry (self : Pipeline) (ambient : Ambient) (unixNow : OffsetDateTime) :
    TentativeSellManager × List NormalizedEvent :=
  self.tentativeSellManager.expire (fun i => ambient.freshEventId (i + 1))
    (self.expireAt unixNow) self.stateEngine.tokens

/-- The first part of `finalize_run`. -/
def finalize (self : Pipeline) (ambient : Ambient) (unixNow : OffsetDateTime) :
    Pipeline × List NormalizedEvent :=
  let expiry := self.finalExpiry ambient unixNow
  ({ self with tentativeSellManager := expiry.1 }.applyDerived expiry.2, expiry.2)

end Pipeline

/-! ## Supervisor -/

structure Supervisor extends Pipeline where
  storage : StorageEngine := {}
  persistNormalizedEvents : Bool := true
  recordSequence : ℕ := 0

namespace Supervisor

/-- `Supervisor::new`, on a store. -/
def new (resolved : RuntimeResolvedConfig) (storage : StorageEngine) : Supervisor :=
  { resolved := resolved
    stateEngine := StateEngine.new resolved.ttl
    decisionEngine :=
      { thresholds := resolved.strategy
        edge := resolved.edge
        execution := resolved.execution }
    tentativeSellManager := TentativeSellManager.new resolved.earlyIntent resolved.shredExit
      resolved.storedCalibration
    safety :=
      { tradeAllowed := !resolved.edgeCollectorMode && !resolved.liveEnabled
        paperAllowed := !resolved.edgeCollectorMode && resolved.paperEnabled
        liveAllowed := !resolved.edgeCollectorMode && resolved.liveEnabled }
    storage := storage
    persistNormalizedEvents := !resolved.edgeCollectorMode }

/-- Tag an event record and append it to the log, after the records of other datasets that
share the sequence. -/
def appendRecord (self : Supervisor) (otherRecords : ℕ) (event : NormalizedEvent) : Supervisor :=
  let sequence := self.recordSequence + otherRecords + 1
  { self with
    recordSequence := sequence
    storage := self.storage.appendNormalizedEvent
      { runId := some self.resolved.runId
        scenarioId := self.currentScenarioId
        runtimeSequenceNumber := some sequence
        noLookaheadTimestamp := some event.info.receivedAtWallTime
        record := event } }

/-- Whether the events that are handled go to the normalized event log. -/
def persists (self : Supervisor) : Bool :=
  self.persistNormalizedEvents && !self.resolved.edgeCollectorMode

/-- Persist the events of a step. -/
def persist (self : Supervisor) (ambient : Ambient) (events : List NormalizedEvent) :
    Supervisor :=
  if self.persists then
    events.zipIdx.foldl (fun s e => s.appendRecord (ambient.otherRecords e.2) e.1) self
  else self

/-- Publish an event to its bus and drain the pipeline. -/
def process (self : Supervisor) (ambient : Ambient) (event : NormalizedEvent) : Supervisor :=
  let (next, handled) := self.toPipeline.handleEvent ambient event
    (event.info.canonicality = .tentative)
  { self with toPipeline := next }.persist ambient handled

/-- Handle a sequence of events one at a time. -/
def processAll (self : Supervisor) (inputs : List (Ambient × NormalizedEvent)) : Supervisor :=
  inputs.foldl (fun s input => s.process input.1 input.2) self

/-- `Supervisor::finalize_run`. -/
def finalizeRun (self : Supervisor) (ambient : Ambient) (unixNow : OffsetDateTime) :
    Supervisor :=
  let (next, expired) := self.toPipeline.finalize ambient unixNow
  { self with toPipeline := next }.persist ambient expired

def decisions (self : Supervisor) : List TradeDecisionEvent :=
  self.decisionOutcomes.map DecisionOutcome.decisionEvent

end Supervisor

/-! ## Replay from the store -/

structure StateSnapshot where
  tokens : KeyedMap String TokenState := ∅
  wallets : KeyedMap String WalletSummary := ∅
  fundingGraph : FundingGraph
  clusterIndex : ClusterIndex
  discardedSummaries : KeyedMap String CompactTokenSummary := ∅

/-- `StateEngine::snapshot`. -/
def StateEngine.snapshot (self : StateEngine) : StateSnapshot :=
  { tokens := self.tokens
    wallets := self.wallets
    fundingGraph := self.fundingGraph
    clusterIndex := self.clusterIndex
    discardedSummaries := self.discardedSummaries }

/-- `merge_snapshots`: the entries of the right snapshot win. -/
def mergeSnapshots (left : Option StateSnapshot) (right : StateSnapshot) : StateSnapshot :=
  let merged := left.getD
    { fundingGraph := right.fundingGraph
      clusterIndex := right.clusterIndex }
  { tokens := right.tokens ∪ merged.tokens
    wallets := right.wallets ∪ merged.wallets
    fundingGraph := right.fundingGraph
    clusterIndex := right.clusterIndex
    discardedSummaries := right.discardedSummaries ∪ merged.discardedSummaries }

/-- `group_records_by_scenario`: the groups in the order of their scenarios. -/
def groupRecordsByScenario (records : List StoredRecord) :
    List (Option String × List NormalizedEvent) :=
  let scenarios := (records.map StoredRecord.scenarioId).dedup.insertionSort
    fun left right => (compare left right).isLE
  scenarios.map fun scenario =>
    (scenario, (records.filter fun record => record.scenarioId = scenario).map
      StoredRecord.record)

/-- What a replay hands to its children and what it reports. -/
structure ReplayRun where
  groups : List (Option String × List NormalizedEvent)
  children : List Supervisor
  decisions : List TradeDecisionEvent
  snapshot : StateSnapshot

/-- The events that a replay handles, in order. -/
def ReplayRun.handled (self : ReplayRun) : List NormalizedEvent :=
  self.groups.flatMap Prod.snd

namespace Supervisor

/-- The child that replays the events of one scenario. -/
def replayScenario (self : Supervisor) (sourceRunId : String) (ambient : ℕ → Ambient)
    (unixNow : OffsetDateTime) (scenarioId : Option String) (events : List NormalizedEvent) :
    Supervisor :=
  let child := { Supervisor.new self.resolved self.storage with
    persistNormalizedEvents := false
    sourceRunId := some sourceRunId
    currentScenarioId := scenarioId }
  (child.processAll (events.zipIdx.map fun e => (ambient e.2, e.1))).finalizeRun
    (ambient events.length) unixNow

/-- `Supervisor::run_from_store_selection`. -/
def runFromStoreSelection (self : Supervisor) (sourceRunId scenarioId : Option String)
    (ambient : Option String → ℕ → Ambient) (unixNow : OffsetDateTime) : ReplayRun :=
  match sourceRunId.orElse fun _ => self.storage.latestNormalizedEventRunId with
  | none =>
    { groups := []
      children := []
      decisions := self.decisions
      snapshot := self.stateEngine.snapshot }
  | some runId =>
    let groups := groupRecordsByScenario
      (self.storage.deterministicReplayForRunAndScenario (some runId) scenarioId)
    let children := groups.map fun group =>
      self.replayScenario runId (ambient group.1) unixNow group.1 group.2
    { groups := groups
      children := children
      decisions := children.flatMap decisions
      snapshot := (children.foldl
        (fun merged child => some (mergeSnapshots merged child.stateEngine.snapshot))
        none).getD (StateEngine.new self.resolved.ttl).snapshot }

/-- `Supervisor::run_from_store`. -/
def runFromStore (self : Supervisor) (ambient : Option String → ℕ → Ambient)
    (unixNow : OffsetDateTime) : ReplayRun :=
  self.runFromStoreSelection self.storage.latestNormalizedEventRunId none ambient unixNow

end Supervisor

end PumpLaunchTrader
