import PumpLaunchTrader.Model.Router
import PumpLaunchTrader.Model.SourceStream

/-! # The material-hunter stream (`run_material_hunter_stream_with_connector`)

For each connection a reader, a router and some workers pass updates on through queues; a
full queue loses the update. The main loop takes the events of the present connection, asks
its consumer, and connects again after errors. The tasks of earlier connections go on beside
it. The run is a step relation: every access of the main loop to the clock, to the shared
statistics or to a callback is a step of its own, with steps of the tasks between any two. -/

namespace PumpLaunchTrader

/-! ## Status classes -/

/-- A `tonic::Status` with its message. -/
structure HunterStatus extends Status where
  message : String
  deriving DecidableEq, Repr

/-- `str::to_ascii_lowercase`, as characters. -/
def asciiLowercase (text : String) : List Char := text.toList.map Char.toLower

structure StatusClass where
  name : String
  retryable : Bool
  dataLoss : Bool
  deriving DecidableEq, Repr

/-- The classes that a status names itself, and whether they are worth another try. -/
def namedStatusClasses : List (String × Bool) :=
  [("provider_reconnect_exhausted", false), ("provider_stream_closed_before_deadline", false),
    ("provider_progress_stalled", false), ("pump_progress_stalled", false),
    ("provider_connect_failed", true), ("provider_lagged_data_loss", false)]

/-- `material_hunter_status_class`. -/
def statusClass (status : HunterStatus) : StatusClass :=
  let texts := [asciiLowercase status.text, asciiLowercase status.message]
  let names (needle : String) : Bool := texts.any fun text => needle.toList <:+: text
  match namedStatusClasses.find? fun named => names named.1 with
  | some (name, retryable) => { name, retryable, dataLoss := true }
  | none =>
    if names "lagged" ∨ names "unrecoverable data loss" ∨
        texts.any fun text =>
          "corruption".toList <:+: text ∧ "data loss".toList <:+: text then
      { name := "provider_lagged_data_loss", retryable := false, dataLoss := true }
    else
      match status.code with
      | .unauthenticated | .permissionDenied =>
        { name := "auth_rejected", retryable := false, dataLoss := false }
      | .unimplemented => { name := "unsupported", retryable := false, dataLoss := false }
      | .unavailable | .unknown | .deadlineExceeded | .cancelled | .resourceExhausted =>
        { name := "transient_stream_error", retryable := true, dataLoss := false }
      | _ => { name := "stream_error", retryable := false, dataLoss := false }

/-! ## Configuration -/

structure HunterConfig where
  endpointUsable : Bool := true
  durationSeconds : ℕ
  gapTolerantSegments : Bool
  geyser : GeyserConfig
  routerQueueCapacity : ℕ
  router : RouterConfig
  partitionBatchSize : ℕ
  workerLagBlockerMs : ℕ
  idls : List LoadedIdl

namespace HunterConfig

/-- The deadline in milliseconds after the start. -/
def deadline (config : HunterConfig) : ℕ := max config.durationSeconds 1 * 1000

def maxAttempts (config : HunterConfig) : ℕ := max (config.geyser.maxReconnectAttempts.getD 10) 1

def queueCapacity (config : HunterConfig) : ℕ :=
  max (max config.routerQueueCapacity config.geyser.maxInflightMessages) 128

def batchSize (config : HunterConfig) : ℕ :=
  min (max config.partitionBatchSize 1) config.router.partitionQueueCapacity

end HunterConfig

/-! ## Tasks of a connection -/

/-- `MaterialHunterReaderMessage`. -/
inductive ReaderMessage where
  | update (update : SubscribeUpdate)
  | streamError (status : HunterStatus)
  | streamClosed
  deriving DecidableEq, Repr

/-- `MaterialHunterWorkerOutput`. -/
inductive WorkerOutput where
  | event (event : NormalizedEvent)
  | streamError (status : HunterStatus)
  | streamClosed
  deriving DecidableEq, Repr

/-- A worker with its queue, how often that was full, and the batch at hand. -/
structure PartitionWorker where
  queue : List PartitionUpdate := []
  queueFullCount : ℕ := 0
  batch : List PartitionUpdate := []
  service : GeyserIngestService × GeyserEventNormalizer

/-- `MaterialHunterReaderStats`, the fields that the main loop acts on or that count
discarded updates. -/
structure ReaderStats where
  updateCount : ℕ := 0
  transactionUpdates : ℕ := 0
  accountUpdates : ℕ := 0
  slotUpdates : ℕ := 0
  queueFullCount : ℕ := 0
  routerQueueFullCount : ℕ := 0
  clientBackpressureDetected : Bool := false
  deriving DecidableEq, Repr

namespace ReaderStats

/-- `record_update_kind`, with the count of all updates. -/
def recordUpdateKind (self : ReaderStats) (update : SubscribeUpdate) : ReaderStats :=
  let counted := { self with updateCount := self.updateCount + 1 }
  match update.updateOneof with
  | some (.transaction _) | some (.transactionStatus _) =>
    { counted with transactionUpdates := self.transactionUpdates + 1 }
  | some (.account _) => { counted with accountUpdates := self.accountUpdates + 1 }
  | some (.slot _) => { counted with slotUpdates := self.slotUpdates + 1 }
  | _ => counted

/-- The router queue was full. -/
def recordQueueFull (self : ReaderStats) : ReaderStats :=
  { self with
    queueFullCount := self.queueFullCount + 1
    routerQueueFullCount := self.routerQueueFullCount + 1
    clientBackpressureDetected := true }

def recordBackpressure (self : ReaderStats) : ReaderStats :=
  { self with clientBackpressureDetected := true }

end ReaderStats

structure HunterConnection where
  reading : Bool := true
  routerQueue : List ReaderMessage := []
  routing : Bool := true
  router : RouterState := {}
  workers : List PartitionWorker
  outputs : List WorkerOutput := []
  stats : ReaderStats := {}

/-- What a task does next: the reader has an item of the stream, the router takes a message,
a worker takes a batch or decodes an item that has waited for `lag` milliseconds. -/
inductive TaskAction where
  | read (item : Option (Except HunterStatus SubscribeUpdate))
  | route (now : ℕ)
  | takeBatch (partition : ℕ)
  | decode (partition : ℕ) (lag : ℕ) (stamp : Stamp)

namespace HunterConnection

/-- The tasks of a fresh connection. -/
def spawn (config : HunterConfig) : HunterConnection where
  workers := List.replicate config.router.workerPartitions
    { service := (GeyserIngestService.new config.geyser, { idls := config.idls }) }

/-- The reader on an update: `try_send` into the router queue. -/
def readUpdate (self : HunterConnection) (config : HunterConfig) (update : SubscribeUpdate) :
    HunterConnection :=
  let self := { self with stats := self.stats.recordUpdateKind update }
  if !updateNeedsWorker update then self
  else if !self.routing then { self with reading := false }
  else if self.routerQueue.length < config.queueCapacity then
    { self with routerQueue := self.routerQueue ++ [.update update] }
  else { self with reading := false, stats := self.stats.recordQueueFull }

/-- The reader at the end of the stream: `send`, which waits for room. -/
def readEnd (self : HunterConnection) (config : HunterConfig) (message : ReaderMessage) :
    HunterConnection :=
  if !self.routing then { self with reading := false }
  else if self.routerQueue.length < config.queueCapacity then
    { self with reading := false, routerQueue := self.routerQueue ++ [message] }
  else self

/-- The partition that an update will go to. -/
def partitionOf (self : HunterConnection) (config : HunterConfig) (update : SubscribeUpdate) : ℕ :=
  let observed := (self.router.observe update).2
  (partitionForUpdateWithAccountMap update config.router.workerPartitions
    observed.tokenAccountToMint observed.accountPartitionPins).1.partition

/-- The router on an update. A full queue, like a partition that does not exist, ends it. -/
def routeUpdate (self : HunterConnection) (config : HunterConfig) (now : ℕ)
    (update : SubscribeUpdate) : HunterConnection :=
  let queue := self.workers[self.partitionOf config update]?.map (·.queue.length)
  let routed := self.router.route config.router
    { now
      depth := queue.getD 0
      room := queue.any (· < config.router.partitionQueueCapacity) } update
  let self := { self with router := routed.2 }
  match routed.1 with
  | .skipped _ => self
  | .sent partition item =>
    { self with
      workers := self.workers.modify partition fun worker =>
        { worker with queue := worker.queue ++ [item] } }
  | .queueFull partition =>
    { self with
      routing := false
      workers := self.workers.modify partition fun worker =>
        { worker with queueFullCount := worker.queueFullCount + 1 }
      stats := self.stats.recordBackpressure }

/-- The router takes a message. Without a sender it ends. -/
def routeNext (self : HunterConnection) (config : HunterConfig) (now : ℕ) : HunterConnection :=
  match self.routing, self.routerQueue with
  | false, _ => self
  | true, [] => { self with routing := self.reading }
  | true, .update update :: rest => { self with routerQueue := rest }.routeUpdate config now update
  | true, .streamError status :: rest =>
    { self with
      routing := false
      routerQueue := rest
      outputs := self.outputs ++ [.streamError status] }
  | true, .streamClosed :: rest =>
    { self with
      routing := false
      routerQueue := rest
      outputs := self.outputs ++ [.streamClosed] }

/-- A worker without a batch takes what its queue holds, up to the size of a batch. -/
def takeBatch (self : HunterConnection) (config : HunterConfig) (partition : ℕ) :
    HunterConnection :=
  { self with
    workers := self.workers.modify partition fun worker =>
      if worker.batch = [] then
        { worker with
          queue := worker.queue.drop config.batchSize
          batch := fairSchedulePartitionBatch (worker.queue.take config.batchSize) }
      else worker }

/-- A worker decodes the next item of its batch. -/
def decodeNext (self : HunterConnection) (config : HunterConfig) (partition lag : ℕ)
    (stamp : Stamp) : HunterConnection :=
  match self.workers[partition]?.map fun worker => (worker.service, worker.batch) with
  | some (service, item :: rest) =>
    let processed := processGeyserUpdate service item.update stamp
    { self with
      workers := self.workers.modify partition fun worker =>
        { worker with batch := rest, service := processed.1 }
      outputs := self.outputs ++ processed.2.map .event
      stats :=
        if max config.workerLagBlockerMs 1 ≤ lag then self.stats.recordBackpressure
        else self.stats }
  | _ => self

/-- One step of a task. -/
def act (self : HunterConnection) (config : HunterConfig) : TaskAction → HunterConnection
  | .read item =>
    if !self.reading then self
    else
      match item with
      | some (.ok update) => self.readUpdate config update
      | some (.error status) => self.readEnd config (.streamError status)
      | none => self.readEnd config .streamClosed
  | .route now => self.routeNext config now
  | .takeBatch partition => self.takeBatch config partition
  | .decode partition lag stamp => self.decodeNext config partition lag stamp

/-- All senders of the outputs are gone. -/
def drained (self : HunterConnection) : Bool :=
  !self.routing && self.workers.all fun worker => worker.queue.isEmpty && worker.batch.isEmpty

/-- The updates that full queues discarded. -/
def discarded (self : HunterConnection) : ℕ :=
  self.stats.routerQueueFullCount + (self.workers.map (·.queueFullCount)).sum

end HunterConnection

/-! ## The summary -/

/-- `MaterialHunterStreamSummary`, the fields that the main loop reads or writes and the
counts of the queues. -/
structure HunterSummary where
  providerStatus : String := "not_attempted"
  providerBlockerClass : Option String := none
  providerDataLossSeen : Bool := false
  providerLaggedCount : ℕ := 0
  reconnectAttempts : ℕ := 0
  streamCompletedNormally : Bool := false
  providerProgressStalledSeconds : ℕ := 0
  pumpProgressStalledSeconds : ℕ := 0
  connected : Bool := false
  durationSeconds : ℕ
  transactionUpdates : ℕ := 0
  accountUpdates : ℕ := 0
  slotUpdates : ℕ := 0
  normalizedEvents : ℕ := 0
  pumpCreateDecoded : ℕ := 0
  grpcReaderUpdateCount : ℕ := 0
  internalQueueFullCount : ℕ := 0
  routerQueueFullCount : ℕ := 0
  partitionQueueFullCountTotal : ℕ := 0
  clientBackpressureDetected : Bool := false
  errors : List String := []
  deriving DecidableEq, Repr

namespace HunterSummary

/-- `apply_reader_stats_to_summary`. -/
def applyReaderStats (self : HunterSummary) (connection : HunterConnection) : HunterSummary :=
  { self with
    grpcReaderUpdateCount := connection.stats.updateCount
    transactionUpdates := connection.stats.transactionUpdates
    accountUpdates := connection.stats.accountUpdates
    slotUpdates := connection.stats.slotUpdates
    internalQueueFullCount := connection.stats.queueFullCount
    clientBackpressureDetected := connection.stats.clientBackpressureDetected
    routerQueueFullCount := connection.stats.routerQueueFullCount
    partitionQueueFullCountTotal := (connection.workers.map (·.queueFullCount)).sum }

/-- A status that is also the blocker. -/
def block (self : HunterSummary) (status : String) : HunterSummary :=
  { self with providerStatus := status, providerBlockerClass := some status }

/-- The final status at the deadline. -/
def finalStatus (self : HunterSummary) : String :=
  if self.transactionUpdates + self.accountUpdates + self.slotUpdates = 0 then
    "connected_zero_updates"
  else if self.pumpCreateDecoded = 0 then "no_launch_detected"
  else "completed"

/-- The statuses that the deadline takes for a normal completion. -/
def isNormalStatus (status : String) : Bool :=
  status = "connected_zero_updates" ∨ status = "no_launch_detected" ∨ status = "completed" ∨
    status = "stopped_by_hunter"

/-- The summary at the deadline. -/
def finish (self : HunterSummary) : HunterSummary :=
  { self with
    providerStatus := self.finalStatus
    streamCompletedNormally :=
      self.providerBlockerClass.isNone && !self.providerDataLossSeen &&
        isNormalStatus self.finalStatus }

end HunterSummary

/-! ## The main loop -/

/-- `MaterialHunterStreamAction`, the answer of a callback. -/
inductive HunterAction where
  | goOn
  | continueWithStateHint (hint : StateHint)
  | stop
  deriving DecidableEq, Repr

/-- What follows a progress report whose answer is not looked at: the choice whether to
connect again behind a gap, the next connect attempt, or the return of the summary, at the
deadline or before it. -/
inductive AfterReport where
  | gap | retry | leave | finish
  deriving DecidableEq, Repr

/-- Where the main loop stands. A phase is named by what the loop does next. -/
inductive HunterPhase where
  | starting | streaming | connecting | subscribed | polling | guarding | receiving
  | eventProgress (event : NormalizedEvent)
  | eventAction (event : NormalizedEvent)
  | eventGuard | closedProgress | idleGuard | idleProgress
  | reporting (next : AfterReport)
  | gapChoice | ending | returned | failed
  deriving DecidableEq, Repr

/-- What a connect attempt gives. -/
inductive ConnectResult where
  | connected
  | status (status : HunterStatus)
  | other (text : String)
  deriving DecidableEq, Repr

/-- What the run takes from its environment. `callback none` is a callback that fails. -/
inductive HunterInput where
  | elapse (ms : ℕ)
  | task (connection : ℕ) (action : TaskAction)
  | proceed
  | connect (result : ConnectResult)
  | callback (answer : Option HunterAction)
  | receive
  | timeout

/-- The state of a run, the present connection first among its connections. -/
structure HunterRun where
  phase : HunterPhase
  summary : HunterSummary
  now : ℕ := 0
  reconnectAttempts : ℕ := 0
  lastProviderProgressAt : ℕ := 0
  lastPumpProgressAt : ℕ := 0
  lastProgressTick : ℕ := 0
  connections : List HunterConnection := []

namespace HunterRun

variable (config : HunterConfig)

def start : HunterRun where
  phase := if config.endpointUsable then .starting else .failed
  summary := { durationSeconds := max config.durationSeconds 1 }

/-- The consumer stops the run. -/
def stop (self : HunterRun) : HunterRun :=
  { self with
    phase := .returned
    summary := { self.summary with
      providerStatus := "stopped_by_hunter"
      streamCompletedNormally := true } }

/-- A callback whose answer may stop the run. -/
def onCallback (self : HunterRun) (answer : Option HunterAction)
    (next : HunterAction → HunterRun) : HunterRun :=
  match answer with
  | none => { self with phase := .failed }
  | some .stop => self.stop
  | some action => next action

/-- The statistics of the present connection, as they are now. -/
def readStats (self : HunterRun) : HunterRun :=
  match self.connections with
  | [] => self
  | connection :: _ => { self with summary := self.summary.applyReaderStats connection }

def backpressure (self : HunterRun) : Bool :=
  self.connections.head?.any fun connection => connection.stats.clientBackpressureDetected

/-- One more reconnect attempt. Below the limit the blocker is dropped. -/
def reconnect (self : HunterRun) (retry : HunterRun → HunterRun) : HunterRun :=
  let attempts := self.reconnectAttempts + 1
  let counted := { self with
    reconnectAttempts := attempts
    summary := { self.summary with reconnectAttempts := self.summary.reconnectAttempts + 1 } }
  if attempts < config.maxAttempts then
    retry { counted with summary := { counted.summary with providerBlockerClass := none } }
  else
    { counted with
      phase := .reporting .leave
      summary := counted.summary.block "provider_reconnect_exhausted" }

/-- A status from the connect attempt or from the stream. -/
def onStatus (self : HunterRun) (status : HunterStatus) : HunterRun :=
  let kind := statusClass status
  let blocked := { self with
    summary :=
      { self.summary.block kind.name with errors := self.summary.errors ++ [status.text] } }
  if kind.dataLoss then
    { blocked with
      phase := .reporting .gap
      summary := { blocked.summary with
        providerDataLossSeen := true
        providerLaggedCount := self.summary.providerLaggedCount + 1 } }
  else if kind.retryable then
    blocked.reconnect config fun next => { next with phase := .reporting .retry }
  else { blocked with phase := .reporting .leave }

/-- The result of `connect_and_subscribe`. -/
def onConnect (self : HunterRun) : ConnectResult → HunterRun
  | .connected =>
    { self with
      phase := .subscribed
      summary := { self.summary with
        providerStatus := if 0 < self.reconnectAttempts then "reconnected" else "connected"
        connected := true } }
  | .status status => self.onStatus config status
  | .other text =>
    { self with
      phase := .reporting .leave
      summary := { self.summary.block "connection_failed" with
        errors := self.summary.errors ++ [text] } }

/-- The tasks of a new connection start. -/
def spawn (self : HunterRun) : HunterRun :=
  { self with
    phase := .polling
    lastProgressTick := self.now
    connections := .spawn config :: self.connections }

/-- A look at the statistics that ends the connection when a task was overrun. -/
def guard (self : HunterRun) (clear : HunterRun → HunterRun) : HunterRun :=
  let self := self.readStats
  if self.backpressure then
    { self with
      phase := .reporting .gap
      summary := { self.summary.block "client_backpressure_detected" with
        streamCompletedNormally := false } }
  else clear self

/-- The main loop takes an output of the present connection. A queue without senders reads
as a closed stream. -/
def onReceive (self : HunterRun) : HunterRun :=
  match self.connections with
  | [] => self
  | connection :: others =>
    match connection.outputs with
    | [] =>
      if connection.drained then { self.readStats with phase := .closedProgress } else self
    | output :: rest =>
      let self := { self with connections := { connection with outputs := rest } :: others }
      match output with
      | .streamError status => self.onStatus config status
      | .streamClosed => { self.readStats with phase := .closedProgress }
      | .event event =>
        let read := self.readStats
        { read with
          phase := .eventProgress event
          reconnectAttempts := 0
          lastProviderProgressAt := self.now
          summary := { read.summary with providerProgressStalledSeconds := 0 } }

/-- The event is a creation that did not fail. -/
def isLiveCreation (event : NormalizedEvent) : Bool :=
  match event.payload with
  | .tokenCreated payload => payload.status ≠ .failed
  | _ => false

/-- The event is counted before the consumer gets it. -/
def countEvent (self : HunterRun) (event : NormalizedEvent) : HunterRun :=
  let counted := { self with
    phase := .eventAction event
    lastProgressTick := self.now
    summary := { self.summary with normalizedEvents := self.summary.normalizedEvents + 1 } }
  if isLiveCreation event then
    { counted with
      lastPumpProgressAt := self.now
      summary := { counted.summary with
        pumpCreateDecoded := self.summary.pumpCreateDecoded + 1
        pumpProgressStalledSeconds := 0 } }
  else counted

/-- `apply_material_hunter_state_hint` on the present connection. -/
def applyHint (self : HunterRun) (action : HunterAction) : HunterRun :=
  match action, self.connections with
  | .continueWithStateHint hint, connection :: others =>
    { self with
      phase := .eventGuard
      connections := { connection with
        router := { connection.router with
          relevance := connection.router.relevance.applyHint hint } } :: others }
  | _, _ => { self with phase := .eventGuard }

/-- The look at the statistics behind an event. It ends the run. -/
def guardEvent (self : HunterRun) : HunterRun :=
  if self.backpressure then
    let blocked := { self with
      phase := .reporting .leave
      summary := { self.summary.block "client_backpressure_detected" with
        streamCompletedNormally := false } }
    blocked.readStats
  else { self with phase := .polling }

/-- `progress_stalled_seconds` of the provider and of Pump. -/
def noteStalled (self : HunterRun) : HunterRun :=
  { self with
    summary := { self.summary with
      providerProgressStalledSeconds := (self.now - self.lastProviderProgressAt) / 1000
      pumpProgressStalledSeconds := (self.now - self.lastPumpProgressAt) / 1000 } }

/-- A stream that closed, before the deadline or at it. -/
def onClosed (self : HunterRun) : HunterRun :=
  if self.now < config.deadline then
    { self with
      phase := .reporting .gap
      summary := { self.summary.block "provider_stream_closed_before_deadline" with
        streamCompletedNormally := false } }.noteStalled
  else { self with phase := .ending }

/-- Nothing came for a while. Every 30 seconds the consumer is asked. -/
def onIdle (self : HunterRun) : HunterRun :=
  if 30000 ≤ self.now - self.lastProgressTick then
    { self.noteStalled with phase := .idleProgress }
  else { self with phase := .polling }

/-- Behind a gap: connect again, or return. -/
def chooseGap (self : HunterRun) : HunterRun :=
  if config.gapTolerantSegments ∧ self.now < config.deadline then
    self.reconnect config fun next =>
      { next with
        phase := .streaming
        summary := { next.summary with providerStatus := "reconnecting_after_gap" } }
  else { self with phase := .returned }

/-- Behind a report. -/
def afterReport (self : HunterRun) : AfterReport → HunterRun
  | .gap => { self with phase := .gapChoice }
  | .retry => { self with phase := .streaming }
  | .leave | .finish => { self with phase := .returned }

/-- One step of the main loop; what does not fit its phase has no effect. -/
def advance (self : HunterRun) (input : HunterInput) : HunterRun :=
  match self.phase, input with
  | .starting, .callback answer =>
    self.onCallback answer fun _ => { self with phase := .streaming }
  | .streaming, .proceed =>
    { self with phase := if self.now < config.deadline then .connecting else .ending }
  | .connecting, .connect result => self.onConnect config result
  | .subscribed, .callback answer => self.onCallback answer fun _ => self.spawn config
  | .polling, .proceed =>
    { self with phase := if self.now < config.deadline then .guarding else .ending }
  | .guarding, .proceed => self.guard fun next => { next with phase := .receiving }
  | .receiving, .receive => self.onReceive config
  | .receiving, .timeout => { self with phase := .idleGuard }
  | .eventProgress event, .callback answer => self.onCallback answer fun _ => self.countEvent event
  | .eventAction _, .callback answer => self.onCallback answer self.applyHint
  | .eventGuard, .proceed => self.guardEvent
  | .closedProgress, .callback answer => self.onCallback answer fun _ => self.onClosed config
  | .idleGuard, .proceed => self.guard onIdle
  | .idleProgress, .callback answer =>
    self.onCallback answer fun _ => { self with phase := .polling, lastProgressTick := self.now }
  | .reporting next, .callback answer =>
    match answer with
    | none => { self with phase := .failed }
    | some _ => self.afterReport next
  | .gapChoice, .proceed => self.chooseGap config
  | .ending, .proceed =>
    { self.noteStalled with
      phase := .reporting .finish
      summary := self.noteStalled.summary.finish }
  | _, _ => self

/-- One step of a run. Nothing happens behind its return. -/
def step (self : HunterRun) (input : HunterInput) : HunterRun :=
  if self.phase = .returned ∨ self.phase = .failed then self
  else
    match input with
    | .elapse ms => { self with now := self.now + ms }
    | .task connection action =>
      { self with connections := self.connections.modify connection (·.act config action) }
    | input => self.advance config input

/-- The updates that full queues discarded during the run. -/
def discarded (self : HunterRun) : ℕ := (self.connections.map (·.discarded)).sum

end HunterRun

end PumpLaunchTrader
