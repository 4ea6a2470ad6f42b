import PumpLaunchTrader.Model.Normalizer

/-! # Source streams (`runtime::live_source`)

`run_geyser_source_with_connector` and `run_deshred_source_with_connector`: a loop that
connects, reads the stream until it ends or fails, and connects again. A script lists what
the connector answers and what each stream yields; the loop waits where the script ends.
The receiver of the events may go away: `accepts n` says whether it takes the event that
comes after `n` others. -/

namespace PumpLaunchTrader

/-- `tonic::Code`. -/
inductive StatusCode where
  | ok | cancelled | unknown | invalidArgument | deadlineExceeded | notFound
  | alreadyExists | permissionDenied | resourceExhausted | failedPrecondition | aborted
  | outOfRange | unimplemented | internal | unavailable | dataLoss | unauthenticated
  deriving DecidableEq, Repr

/-- `tonic::Status`, by its code and the text it displays. -/
structure Status where
  code : StatusCode
  text : String
  deriving DecidableEq, Repr

/-- The error of a connect attempt. Some of them carry a `tonic::Status`. -/
structure ConnectError where
  code : Option StatusCode
  text : String
  deriving DecidableEq, Repr

/-- What a stream yields, with what the step takes from its environment. -/
inductive StreamItem (U : Type) where
  | update (update : U) (stamp : Stamp)
  | failed (status : Status) (stamp : Stamp)
  deriving DecidableEq, Repr

/-- What one connect attempt leads to. A stream that does not end stays open behind its
items. -/
inductive Connection (U : Type) where
  | refused (error : ConnectError)
  | opened (stamp : Stamp) (items : List (StreamItem U)) (ends : Bool)
  deriving DecidableEq, Repr

/-- How the function returns. `waiting`: it has not returned where the script ends. -/
inductive SourceOutcome where
  | streamEnded | receiverClosed | unsupported | waiting
  | error (message : String)
  deriving DecidableEq, Repr

/-- An event with where it comes from: an update of the stream or the loop itself. -/
inductive SentEvent where
  | fromUpdate (event : NormalizedEvent)
  | fromLoop (event : NormalizedEvent)
  deriving DecidableEq, Repr

namespace SentEvent

def event : SentEvent → NormalizedEvent
  | fromUpdate e => e
  | fromLoop e => e

def isFromLoop : SentEvent → Bool
  | fromLoop _ => true
  | fromUpdate _ => false

def isFromUpdate : SentEvent → Bool
  | fromUpdate _ => true
  | fromLoop _ => false

end SentEvent

/-- `source_gap_event_for_source`. -/
def sourceGapEventForSource (source : EventSource) (slot : ℕ) (recovered : Bool)
    (action : String) (stamp : Stamp) : NormalizedEvent where
  info := {
    eventId := stamp.gapEventId
    source
    canonicality := .processed
    slot
    receivedAtWallTime := stamp.now
    observedAtMonotonicNs := stamp.observedNs }
  payload := .dataGap {
    gapType := .reconnectGap
    source
    startSlot := slot
    endSlot := some slot
    affectedTokens := []
    severity := if recovered then .low else .high
    tradeAllowed := recovered
    recoveryAction := action }

/-- What tells the two sources apart: how an update becomes events, what is noted at a
disconnect, the gap events, and the errors that end the function. -/
structure StreamSource (σ U : Type) where
  process : σ → U → Stamp → σ × List NormalizedEvent
  noteDisconnect : σ → σ
  maxAttempts : ℕ
  source : EventSource
  gapSlot : σ → ℕ
  gapAction : String
  recoverAction : String
  onRefused : ConnectError → Option SourceOutcome
  onStatus : Status → Option SourceOutcome
  closedText : ℕ → Status → String

structure LoopState (σ : Type) where
  service : σ
  attempts : ℕ := 0
  emittedDisconnectGap : Bool := false
  sent : List SentEvent := []

/-- Why the read loop was left. -/
inductive ReadEnd where
  | ended | disconnected
  | returned (outcome : SourceOutcome)
  deriving DecidableEq, Repr

namespace LoopState

variable {σ : Type}

/-- `sender.send(event).await`: whether the receiver took the event. -/
def send (self : LoopState σ) (accepts : ℕ → Bool) (e : SentEvent) : Bool × LoopState σ :=
  if accepts self.sent.length then (true, { self with sent := self.sent ++ [e] })
  else (false, self)

/-- Send events in order, up to the first that is not taken. -/
def sendAll (accepts : ℕ → Bool) : List SentEvent → LoopState σ → Bool × LoopState σ
  | [], self => (true, self)
  | e :: rest, self =>
    match self.send accepts e with
    | (true, next) => sendAll accepts rest next
    | (false, next) => (false, next)

end LoopState

namespace StreamSource

variable {σ U : Type}

/-- The gap event of the loop in its present state. -/
def gapEvent (self : StreamSource σ U) (state : LoopState σ) (recovered : Bool)
    (stamp : Stamp) : SentEvent :=
  .fromLoop (sourceGapEventForSource self.source (self.gapSlot state.service) recovered
    (if recovered then self.recoverAction else self.gapAction) stamp)

/-- The read loop over the items of one stream. -/
def read (self : StreamSource σ U) (accepts : ℕ → Bool) (ends : Bool) :
    List (StreamItem U) → LoopState σ → ReadEnd × LoopState σ
  | [], state => (if ends then .ended else .returned .waiting, state)
  | .update update stamp :: items, state =>
    let processed := self.process state.service update stamp
    match LoopState.sendAll accepts (processed.2.map .fromUpdate)
        { state with service := processed.1 } with
    | (true, next) => self.read accepts ends items next
    | (false, next) => (.returned .receiverClosed, next)
  | .failed status stamp :: _, state =>
    match self.onStatus status with
    | some outcome => (.returned outcome, state)
    | none =>
      let noted := { state with service := self.noteDisconnect state.service }
      match noted.send accepts (self.gapEvent noted false stamp) with
      | (false, next) => (.returned .receiverClosed, next)
      | (true, next) =>
        let attempts := saturatingAdd next.attempts 1
        let marked := { next with emittedDisconnectGap := true, attempts }
        if self.maxAttempts ≤ attempts then
          (.returned (.error (self.closedText attempts status)), marked)
        else (.disconnected, marked)

/-- A connect that succeeds: the recovery of an open gap, and the attempts start anew. -/
def resume (self : StreamSource σ U) (accepts : ℕ → Bool) (stamp : Stamp)
    (state : LoopState σ) : Bool × LoopState σ :=
  if state.emittedDisconnectGap then
    match state.send accepts (self.gapEvent state true stamp) with
    | (true, next) => (true, { next with emittedDisconnectGap := false, attempts := 0 })
    | (false, next) => (false, next)
  else (true, { state with attempts := 0 })

/-- The outer loop. -/
def run (self : StreamSource σ U) (accepts : ℕ → Bool) :
    List (Connection U) → LoopState σ → SourceOutcome × LoopState σ
  | [], state => (.waiting, state)
  | .refused error :: script, state =>
    match self.onRefused error with
    | some outcome => (outcome, state)
    | none =>
      let attempts := saturatingAdd state.attempts 1
      if self.maxAttempts ≤ attempts then (.error error.text, { state with attempts })
      else self.run accepts script { state with attempts }
  | .opened stamp items ends :: script, state =>
    match self.resume accepts stamp state with
    | (false, next) => (.receiverClosed, next)
    | (true, next) =>
      match self.read accepts ends items next with
      | (.returned outcome, last) => (outcome, last)
      | (_, last) =>
        if last.emittedDisconnectGap then self.run accepts script last
        else (.streamEnded, last)

end StreamSource

/-! ## The Geyser source -/

/-- An update of the Geyser stream: ingest, then the normalizer. -/
def processGeyserUpdate (service : GeyserIngestService × GeyserEventNormalizer)
    (update : SubscribeUpdate) (stamp : Stamp) :
    (GeyserIngestService × GeyserEventNormalizer) × List NormalizedEvent :=
  let ingested := service.1.processSubscribeUpdate update stamp
  let normalized := service.2.normalizeOutputs ingested.2
  ((ingested.1, normalized.1), normalized.2)

def geyserSource (config : GeyserConfig) :
    StreamSource (GeyserIngestService × GeyserEventNormalizer) SubscribeUpdate where
  process := processGeyserUpdate
  noteDisconnect service := (service.1.noteDisconnect, service.2)
  maxAttempts := max (config.maxReconnectAttempts.getD 10) 1
  source := .geyserProcessed
  gapSlot service := service.1.health.lastSlotSeen.getD 0
  gapAction := "reconnect_stream_gap"
  recoverAction := "recover_stream_resumed"
  onRefused _ := none
  onStatus _ := none
  closedText attempts status :=
    "geyser stream closed after " ++ toString attempts ++ " reconnect attempts: " ++ status.text

/-- `run_geyser_source_with_connector`. The endpoint is what `resolved_geyser_endpoint`
makes of the configuration and the environment. -/
def runGeyserSourceWithConnector (config : GeyserConfig) (endpoint : Except String String)
    (normalizer : GeyserEventNormalizer) (accepts : ℕ → Bool)
    (script : List (Connection SubscribeUpdate)) : SourceOutcome × List SentEvent :=
  match endpoint with
  | .error message => (.error message, [])
  | .ok _ =>
    let ran := (geyserSource config).run accepts script
      { service := (GeyserIngestService.new config, normalizer) }
    (ran.1, ran.2.sent)

/-! ## The deshred source -/

structure SubscribeUpdateDeshredTransactionInfo where
  signature : List UInt8
  transaction : Option Transaction
  loadedWritableAddresses : List (List UInt8) := []
  loadedReadonlyAddresses : List (List UInt8) := []
  completedDataSetStartingShredIndex : ℕ := 0
  completedDataSetEndingShredIndexExclusive : ℕ := 0
  deriving DecidableEq, Repr

structure SubscribeUpdateDeshredTransaction where
  transaction : Option SubscribeUpdateDeshredTransactionInfo
  slot : ℕ
  deriving DecidableEq, Repr

inductive DeshredUpdateOneof where
  | deshredTransaction (update : SubscribeUpdateDeshredTransaction)
  | ping | pong
  deriving DecidableEq, Repr

structure SubscribeUpdateDeshred where
  updateOneof : Option DeshredUpdateOneof
  createdAt : Option OffsetDateTime := none
  deriving DecidableEq, Repr

/-- The fields of `DeshredConfig` that the loop reads. -/
structure DeshredConfig where
  required : Bool := false
  failIfUnsupported : Bool := false
  maxReconnectAttempts : ℕ := 10
  deriving DecidableEq, Repr

/-- `transaction_update_from_deshred_proto`. -/
def transactionUpdateFromDeshredProto (update : SubscribeUpdateDeshredTransaction) :
    Option TransactionUpdate := do
  let info ← update.transaction
  let tx ← info.transaction
  let message ← tx.message
  let accountKeys :=
    resolvedAccountKeys message info.loadedWritableAddresses info.loadedReadonlyAddresses
  some {
    slot := update.slot
    signature := bytesToSignature info.signature
    transactionIndex := none
    succeeded := true
    accountKeys
    instructions := message.instructions.map (instructionFromProto accountKeys)
    loadedWritableAddresses := info.loadedWritableAddresses.map bytesToPubkey
    loadedReadonlyAddresses := info.loadedReadonlyAddresses.map bytesToPubkey }

/-- `meta_for_deshred_tx`. -/
def metaForDeshredTx (update : SubscribeUpdateDeshred)
    (txUpdate : SubscribeUpdateDeshredTransaction) (tx : TransactionUpdate) (stamp : Stamp) :
    EventMeta :=
  let first := (txUpdate.transaction.map (·.completedDataSetStartingShredIndex)).getD 0
  let last := (txUpdate.transaction.map (·.completedDataSetEndingShredIndexExclusive)).getD 0
  { eventId := stamp.eventId
    source := .deshredTentative
    canonicality := .tentative
    slot := tx.slot
    signature := some tx.signature
    transactionIndex := tx.transactionIndex
    receivedAtWallTime := update.createdAt.getD stamp.now
    observedAtMonotonicNs := stamp.observedNs
    decodeConfidence := 9 / 10
    rawReference := some {
      sourceId := "deshred"
      cursor := some (toString first ++ ":" ++ toString last)
      offset := txUpdate.transaction.map (·.completedDataSetStartingShredIndex) } }

/-- `normalized_events_from_deshred_update`. -/
def normalizedEventsFromDeshredUpdate (normalizer : GeyserEventNormalizer)
    (update : SubscribeUpdateDeshred) (stamp : Stamp) :
    GeyserEventNormalizer × List NormalizedEvent :=
  match update.updateOneof with
  | some (.deshredTransaction txUpdate) =>
    match transactionUpdateFromDeshredProto txUpdate with
    | some tx => normalizer.normalizeTransaction (metaForDeshredTx update txUpdate tx stamp) tx
    | none => (normalizer, [])
  | _ => (normalizer, [])

namespace DeshredConfig

def failsUnsupported (self : DeshredConfig) : Bool := self.required || self.failIfUnsupported

end DeshredConfig

def deshredSource (config : DeshredConfig) :
    StreamSource GeyserEventNormalizer SubscribeUpdateDeshred where
  process := normalizedEventsFromDeshredUpdate
  noteDisconnect := id
  maxAttempts := max config.maxReconnectAttempts 1
  source := .deshredTentative
  gapSlot _ := 0
  gapAction := "reconnect_deshred_stream_gap"
  recoverAction := "recover_deshred_stream_resumed"
  onRefused error :=
    if error.code = some .unimplemented ∧ ¬ config.failsUnsupported then some .unsupported
    else none
  onStatus status :=
    if status.code ≠ .unimplemented then none
    else if config.failsUnsupported then
      some (.error "provider returned unimplemented for SubscribeDeshred")
    else some .unsupported
  closedText attempts status :=
    "deshred stream closed after " ++ toString attempts ++ " reconnect attempts: " ++ status.text

/-- `run_deshred_source_with_connector`. -/
def runDeshredSourceWithConnector (config : DeshredConfig)
    (normalizer : GeyserEventNormalizer) (accepts : ℕ → Bool)
    (script : List (Connection SubscribeUpdateDeshred)) : SourceOutcome × List SentEvent :=
  let ran := (deshredSource config).run accepts script { service := normalizer }
  (ran.1, ran.2.sent)

end PumpLaunchTrader
