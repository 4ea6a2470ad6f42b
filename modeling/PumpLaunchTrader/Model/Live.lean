import PumpLaunchTrader.Model.Supervisor

/-! # Live runs (`event-bus`, `runtime`)

A live run publishes the events of its streams to two bounded buses and drains them. The
records of normalized events go to the log and to the segments of the run, which of them
depends on the code path. -/

namespace PumpLaunchTrader

/-! ## Event bus -/

inductive Priority where
  | high | normal | low
  deriving DecidableEq, Repr

/-- The bus owns the receivers of its channels, so that they are never closed. -/
inductive EventBusError where
  | full
  deriving DecidableEq, Repr

structure EventBus (α : Type) where
  capacityPerPriority : ℕ
  high : List α := []
  normal : List α := []
  low : List α := []

namespace EventBus

variable {α : Type}

/-- `EventBus::bounded`. -/
def bounded (capacityPerPriority : ℕ) : EventBus α :=
  { capacityPerPriority := capacityPerPriority }

/-- `EventBus::len`. -/
def len (self : EventBus α) : ℕ :=
  self.high.length + self.normal.length + self.low.length

/-- `mpsc::Sender::try_send` on a bounded channel. -/
def trySend (capacity : ℕ) (queue : List α) (message : α) : Except EventBusError (List α) :=
  if queue.length < capacity then .ok (queue ++ [message]) else .error .full

/-- `EventPublisher::try_publish`. -/
def tryPublish (self : EventBus α) (priority : Priority) (message : α) :
    Except EventBusError (EventBus α) :=
  match priority with
  | .high =>
    (trySend self.capacityPerPriority self.high message).map fun queue =>
      { self with high := queue }
  | .normal =>
    (trySend self.capacityPerPriority self.normal message).map fun queue =>
      { self with normal := queue }
  | .low =>
    (trySend self.capacityPerPriority self.low message).map fun queue =>
      { self with low := queue }

/-- `EventBus::recv`, none where it would wait. -/
def recv (self : EventBus α) : Option (α × EventBus α) :=
  match self.high, self.normal, self.low with
  | item :: high, _, _ => some (item, { self with high := high })
  | [], item :: normal, _ => some (item, { self with normal := normal })
  | [], [], item :: low => some (item, { self with low := low })
  | [], [], [] => none

end EventBus

/-! ## Segments -/

/-- The records of the event artifacts of a run, over all of their segments. -/
structure LiveRunSegmentManager where
  normalizedEvents : List StoredRecord := []
  sourceEvents : List StoredRecord := []

/-- The two calls of `append_json_record` on a normalized event record. -/
def LiveRunSegmentManager.appendNormalizedEvent (self : LiveRunSegmentManager)
    (record : StoredRecord) : LiveRunSegmentManager :=
  { normalizedEvents := self.normalizedEvents ++ [record]
    sourceEvents := self.sourceEvents ++ [record] }

/-! ## Supervisor of a live run -/

structure LiveSupervisor extends Supervisor where
  canonicalBus : EventBus NormalizedEvent
  tentativeBus : EventBus NormalizedEvent
  segmentManager : Option LiveRunSegmentManager := none

/-- The places that persist normalized events: `handle_event`,
`apply_derived_runtime_event`, `apply_risk_terminal` and `publish_canonical`. -/
inductive PersistPath where
  | handled | derived | riskTerminal | queueOverflow
  deriving DecidableEq, Repr

/-- The place that persists an event that handling another one generates: the terminals are
those of the risk engine. -/
def NormalizedEvent.generatedPath (event : NormalizedEvent) : PersistPath :=
  match event.payload with
  | .tokenTerminal _ => .riskTerminal
  | _ => .derived

/-- `synthetic_gap_event`. -/
def syntheticGapEvent (ambient : Ambient) (slot : ℕ) (source : EventSource) : NormalizedEvent :=
  { info :=
      { eventId := ambient.freshEventId 0
        source := source
        canonicality := .processed
        slot := slot }
    payload := .dataGap
      { gapType := .transactionStreamGap
        source := source
        startSlot := slot
        endSlot := some slot
        affectedTokens := []
        severity := .high
        tradeAllowed := false
        recoveryAction := "enter_data_gap_mode" } }

namespace LiveSupervisor

/-- `Supervisor::new`, with the capacities of its buses. -/
def new (resolved : RuntimeResolvedConfig) (storage : StorageEngine)
    (queueCapacityCanonical queueCapacityTentative : ℕ) : LiveSupervisor :=
  { Supervisor.new resolved storage with
    canonicalBus := .bounded queueCapacityCanonical
    tentativeBus := .bounded queueCapacityTentative }

/-- The start of `run_live_data_paper`, with the segments of the run. -/
def startLiveRun (self : LiveSupervisor) (segmentManager : Option LiveRunSegmentManager) :
    LiveSupervisor :=
  { self with
    segmentManager := segmentManager
    sourceRunId := none
    currentScenarioId := none
    persistNormalizedEvents := true }

/-! ### Persistence -/

/-- Whether a path appends its records to the normalized event log. -/
def appendsToLog (self : LiveSupervisor) : PersistPath → Bool
  | .handled => self.persists
  | .derived | .riskTerminal | .queueOverflow => self.persistNormalizedEvents

/-- Whether a path appends its records to the segments. The edge collector appends what it
handles to them alone. -/
def appendsToSegments (self : LiveSupervisor) : PersistPath → Bool
  | .handled => self.resolved.edgeCollectorMode || self.persistNormalizedEvents
  | .derived => self.persistNormalizedEvents
  | .riskTerminal | .queueOverflow => false

/-- `tag_record` on an event record, after the records of other datasets that share the
sequence. -/
def tagRecord (self : LiveSupervisor) (otherRecords : ℕ) (event : NormalizedEvent) :
    StoredRecord :=
  { runId := some self.resolved.runId
    scenarioId := self.currentScenarioId
    runtimeSequenceNumber := some (self.recordSequence + otherRecords + 1)
    noLookaheadTimestamp := some event.info.receivedAtWallTime
    record := event }

/-- Tag the record of an event and append it where its path does. -/
def persistOn (self : LiveSupervisor) (path : PersistPath) (otherRecords : ℕ)
    (event : NormalizedEvent) : LiveSupervisor :=
  if self.appendsToLog path || self.appendsToSegments path then
    let record := self.tagRecord otherRecords event
    { self with
      recordSequence := self.recordSequence + otherRecords + 1
      storage :=
        if self.appendsToLog path then self.storage.appendNormalizedEvent record
        else self.storage
      segmentManager :=
        if self.appendsToSegments path then
          self.segmentManager.map (·.appendNormalizedEvent record)
        else self.segmentManager }
  else self

/-- Persist events in order, each on its path. -/
def persistAll (self : LiveSupervisor) (ambient : Ambient)
    (events : List (PersistPath × NormalizedEvent)) : LiveSupervisor :=
  events.zipIdx.foldl
    (fun s e => s.persistOn e.1.1 (ambient.otherRecords e.2) e.1.2) self

/-- The paths of the events of a handled event: it comes first, then what it generates. -/
def handledPaths : List NormalizedEvent → List (PersistPath × NormalizedEvent)
  | [] => []
  | event :: generated =>
    (.handled, event) :: generated.map fun entry => (entry.generatedPath, entry)

/-! ### Queues -/

/-- `Supervisor::publish_canonical`. -/
def publishCanonical (self : LiveSupervisor) (ambient : Ambient) (event : NormalizedEvent) :
    LiveSupervisor :=
  match self.canonicalBus.tryPublish .high event with
  | .ok bus => { self with canonicalBus := bus }
  | .error .full =>
    let gap := syntheticGapEvent ambient event.info.slot .geyserProcessed
    { self with toPipeline := self.toPipeline.applyEvent gap }.persistAll ambient
      [(.queueOverflow, gap)]

/-- `Supervisor::publish_tentative`. -/
def publishTentative (self : LiveSupervisor) (event : NormalizedEvent) : LiveSupervisor :=
  match self.tentativeBus.tryPublish .low event with
  | .ok bus => { self with tentativeBus := bus }
  | .error .full => self

/-- `Supervisor::handle_event`. -/
def handleEvent (self : LiveSupervisor) (ambient : Ambient) (event : NormalizedEvent)
    (tentative : Bool) : LiveSupervisor :=
  let (next, handled) := self.toPipeline.handleEvent ambient event tentative
  { self with toPipeline := next }.persistAll ambient (handledPaths handled)

/-- What `drain_pipeline` receives next: an event, whether it is tentative, and the supervisor
without it. Canonical events come first. -/
def receive (self : LiveSupervisor) : Option (NormalizedEvent × Bool × LiveSupervisor) :=
  match self.canonicalBus.recv with
  | some (event, bus) => some (event, false, { self with canonicalBus := bus })
  | none =>
    self.tentativeBus.recv.map fun received =>
      (received.1, true, { self with tentativeBus := received.2 })

/-- One iteration of `drain_pipeline`. -/
def drain (self : LiveSupervisor) (ambient : Ambient) : LiveSupervisor :=
  match self.receive with
  | some (event, tentative, rest) => rest.handleEvent ambient event tentative
  | none => self

/-- `Supervisor::finalize_run`. -/
def finalizeRun (self : LiveSupervisor) (ambient : Ambient) (unixNow : OffsetDateTime) :
    LiveSupervisor :=
  let (next, expired) := self.toPipeline.finalize ambient unixNow
  { self with toPipeline := next }.persistAll ambient
    (expired.map fun entry => (.derived, entry))

end LiveSupervisor

/-- What a live run does, one step at a time. -/
inductive LiveStep where
  | publishCanonical (event : NormalizedEvent)
  | publishTentative (event : NormalizedEvent)
  | drain
  | finalizeRun (unixNow : OffsetDateTime)

namespace LiveSupervisor

def step (self : LiveSupervisor) (input : Ambient × LiveStep) : LiveSupervisor :=
  match input.2 with
  | .publishCanonical event => self.publishCanonical input.1 event
  | .publishTentative event => self.publishTentative event
  | .drain => self.drain input.1
  | .finalizeRun unixNow => self.finalizeRun input.1 unixNow

/-- The steps of a run, in any order of publications and drains. -/
def run (self : LiveSupervisor) (inputs : List (Ambient × LiveStep)) : LiveSupervisor :=
  inputs.foldl step self

end LiveSupervisor

end PumpLaunchTrader
