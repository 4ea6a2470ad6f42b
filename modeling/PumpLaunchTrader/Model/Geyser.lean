import PumpLaunchTrader.Model.Event
import PumpLaunchTrader.Lib.KeyedMap
import PumpLaunchTrader.Lib.Encoding

/-! # Geyser ingest (`ingest-geyser`)

The provider's updates, the canonical updates that they are turned into, and the ingest
service that drops duplicates and notices gaps between slots. What a step takes from its
environment (event ids, the clock) comes with it as a `Stamp`. -/

namespace PumpLaunchTrader

/-- The fields of `GeyserConfig` that the ingest service and the stream loops read. -/
structure GeyserConfig where
  maxReconnectAttempts : Option ℕ := some 10
  maxInflightMessages : ℕ := 8192
  slotGapTolerance : ℕ := 1
  deriving DecidableEq, Repr

/-- What one processed update takes from its environment. -/
structure Stamp where
  eventId : EventId
  gapEventId : EventId
  now : OffsetDateTime
  observedNs : ℕ
  deriving DecidableEq, Repr

/-! ## Canonical updates -/

inductive SlotCommitment where
  | processed | confirmed | rooted
  deriving DecidableEq, Repr

structure SlotUpdate where
  slot : ℕ
  parent : Option ℕ
  status : SlotCommitment
  deriving DecidableEq, Repr

structure TransactionInstruction where
  programId : String
  accounts : List String
  dataHex : String
  deriving DecidableEq, Repr

structure TransactionInstructionGroup where
  index : ℕ
  instructions : List TransactionInstruction
  deriving DecidableEq, Repr

structure TransactionTokenBalance where
  accountIndex : ℕ
  mint : String
  owner : Option String
  programId : Option String
  amount : String
  decimals : ℕ
  deriving DecidableEq, Repr

structure TransactionUpdate where
  slot : ℕ
  signature : String
  transactionIndex : Option ℕ
  succeeded : Bool
  errorCode : Option String := none
  accountKeys : List String := []
  instructions : List TransactionInstruction := []
  innerInstructions : List TransactionInstructionGroup := []
  preBalances : List ℕ := []
  postBalances : List ℕ := []
  preTokenBalances : List TransactionTokenBalance := []
  postTokenBalances : List TransactionTokenBalance := []
  loadedWritableAddresses : List String := []
  loadedReadonlyAddresses : List String := []
  computeUnitsConsumed : Option ℕ := none
  feeLamports : ℕ := 0
  deriving DecidableEq, Repr

structure AccountUpdate where
  slot : ℕ
  pubkey : String
  owner : String
  lamports : ℕ
  executable : Bool
  writeVersion : ℕ
  dataBase64 : String
  transactionSignature : Option String
  deriving DecidableEq, Repr

structure BlockUpdate where
  slot : ℕ
  transactionCount : Option ℕ
  blockTime : Option OffsetDateTime
  deriving DecidableEq, Repr

inductive GeyserMessage where
  | slot (update : SlotUpdate)
  | transaction (update : TransactionUpdate)
  | account (update : AccountUpdate)
  | block (update : BlockUpdate)
  deriving DecidableEq, Repr

structure GeyserEnvelope where
  receivedAt : OffsetDateTime
  observedAtMonotonicNs : ℕ
  sourceLatencyMs : Option ℕ
  message : GeyserMessage
  deriving DecidableEq, Repr

inductive IngestOutput where
  | slot (info : EventMeta) (update : SlotUpdate)
  | transaction (info : EventMeta) (update : TransactionUpdate)
  | account (info : EventMeta) (update : AccountUpdate)
  | block (info : EventMeta) (update : BlockUpdate)
  | dataGap (info : EventMeta) (update : DataGapEvent)
  deriving DecidableEq, Repr

/-! ## Provider updates -/

structure CompiledInstruction where
  programIdIndex : ℕ
  accounts : List UInt8
  data : List UInt8
  deriving DecidableEq, Repr

structure Message where
  accountKeys : List (List UInt8)
  instructions : List CompiledInstruction
  deriving DecidableEq, Repr

structure Transaction where
  signatures : List (List UInt8) := []
  message : Option Message
  deriving DecidableEq, Repr

structure InnerInstructions where
  index : ℕ
  instructions : List CompiledInstruction
  deriving DecidableEq, Repr

structure UiTokenAmount where
  amount : String
  decimals : ℕ
  deriving DecidableEq, Repr

structure TokenBalance where
  accountIndex : ℕ
  mint : String
  uiTokenAmount : Option UiTokenAmount := none
  owner : String := ""
  programId : String := ""
  deriving DecidableEq, Repr

structure TransactionStatusMeta where
  err : Option (List UInt8) := none
  fee : ℕ := 0
  preBalances : List ℕ := []
  postBalances : List ℕ := []
  innerInstructions : List InnerInstructions := []
  preTokenBalances : List TokenBalance := []
  postTokenBalances : List TokenBalance := []
  loadedWritableAddresses : List (List UInt8) := []
  loadedReadonlyAddresses : List (List UInt8) := []
  computeUnitsConsumed : Option ℕ := none
  deriving DecidableEq, Repr

structure SubscribeUpdateTransactionInfo where
  signature : List UInt8
  transaction : Option Transaction
  status : Option TransactionStatusMeta
  index : ℕ
  deriving DecidableEq, Repr

structure SubscribeUpdateTransaction where
  transaction : Option SubscribeUpdateTransactionInfo
  slot : ℕ
  deriving DecidableEq, Repr

structure SubscribeUpdateAccountInfo where
  pubkey : List UInt8
  lamports : ℕ := 0
  owner : List UInt8 := []
  executable : Bool := false
  data : List UInt8 := []
  writeVersion : ℕ
  txnSignature : Option (List UInt8) := none
  deriving DecidableEq, Repr

structure SubscribeUpdateAccount where
  account : Option SubscribeUpdateAccountInfo
  slot : ℕ
  deriving DecidableEq, Repr

structure SubscribeUpdateSlot where
  slot : ℕ
  parent : Option ℕ
  status : SlotCommitment
  deriving DecidableEq, Repr

structure SubscribeUpdateTransactionStatus where
  slot : ℕ
  signature : List UInt8
  index : ℕ
  err : Option (List UInt8)
  deriving DecidableEq, Repr

inductive UpdateOneof where
  | slot (update : SubscribeUpdateSlot)
  | transaction (update : SubscribeUpdateTransaction)
  | account (update : SubscribeUpdateAccount)
  | block (update : BlockUpdate)
  | blockMeta (update : BlockUpdate)
  | transactionStatus (update : SubscribeUpdateTransactionStatus)
  | entry (slot : ℕ)
  | ping | pong
  deriving DecidableEq, Repr

/-- `SubscribeUpdate`, with `created_at` as `timestamp_to_offset` reads it. -/
structure SubscribeUpdate where
  updateOneof : Option UpdateOneof
  createdAt : Option OffsetDateTime := none
  deriving DecidableEq, Repr

/-! ## Conversion -/

/-- `bytes_to_pubkey`. -/
def bytesToPubkey (bytes : List UInt8) : String := Encoding.base58Encode bytes

/-- `bytes_to_signature`. -/
def bytesToSignature (bytes : List UInt8) : String := Encoding.base58Encode bytes

/-- `PubkeyValue::from_str`. -/
def PubkeyValue.parse (text : String) : Option PubkeyValue :=
  match Encoding.base58Decode text with
  | some bytes => if bytes.length = 32 then some ⟨text⟩ else none
  | none => none

/-- The debug text of a transaction error. -/
def transactionErrorText (err : List UInt8) : String :=
  "TransactionError \x7b err: [" ++
    ", ".intercalate (err.map fun b => toString b.toNat) ++ "] \x7d"

/-- `instruction_from_proto`. -/
def instructionFromProto (accountKeys : List String) (instruction : CompiledInstruction) :
    TransactionInstruction where
  programId := (accountKeys[instruction.programIdIndex]?).getD "unknown_program"
  accounts := instruction.accounts.map fun index =>
    (accountKeys[index.toNat]?).getD ("unknown_account_" ++ toString index.toNat)
  dataHex := Sha256.hex instruction.data

/-- `token_balance_from_proto`. -/
def tokenBalanceFromProto (balance : TokenBalance) : TransactionTokenBalance where
  accountIndex := balance.accountIndex
  mint := balance.mint
  owner := if balance.owner = "" then none else some balance.owner
  programId := if balance.programId = "" then none else some balance.programId
  amount := (balance.uiTokenAmount.map (·.amount)).getD ""
  decimals := (balance.uiTokenAmount.map (·.decimals)).getD 0

/-- The keys of the message followed by the loaded addresses. -/
def resolvedAccountKeys (message : Message) (writable readonly : List (List UInt8)) :
    List String :=
  message.accountKeys.map bytesToPubkey ++ writable.map bytesToPubkey ++
    readonly.map bytesToPubkey

/-- `transaction_update_from_proto`. -/
def transactionUpdateFromProto (update : SubscribeUpdateTransaction) :
    Option TransactionUpdate := do
  let info ← update.transaction
  let tx ← info.transaction
  let message ← tx.message
  let status := info.status.getD {}
  let accountKeys :=
    resolvedAccountKeys message status.loadedWritableAddresses status.loadedReadonlyAddresses
  some {
    slot := update.slot
    signature := bytesToSignature info.signature
    transactionIndex := some (info.index % 2 ^ 32)
    succeeded := status.err.isNone
    errorCode := status.err.map transactionErrorText
    accountKeys
    instructions := message.instructions.map (instructionFromProto accountKeys)
    innerInstructions := status.innerInstructions.map fun group =>
      { index := group.index
        instructions := group.instructions.map (instructionFromProto accountKeys) }
    preBalances := status.preBalances
    postBalances := status.postBalances
    preTokenBalances := status.preTokenBalances.map tokenBalanceFromProto
    postTokenBalances := status.postTokenBalances.map tokenBalanceFromProto
    loadedWritableAddresses := status.loadedWritableAddresses.map bytesToPubkey
    loadedReadonlyAddresses := status.loadedReadonlyAddresses.map bytesToPubkey
    computeUnitsConsumed := status.computeUnitsConsumed
    feeLamports := status.fee }

/-- `transaction_status_update_from_proto`. -/
def transactionStatusUpdateFromProto (update : SubscribeUpdateTransactionStatus) :
    TransactionUpdate where
  slot := update.slot
  signature := bytesToSignature update.signature
  transactionIndex := some (update.index % 2 ^ 32)
  succeeded := update.err.isNone
  errorCode := update.err.map transactionErrorText

/-- `account_update_from_proto`. -/
def accountUpdateFromProto (update : SubscribeUpdateAccount) : Option AccountUpdate :=
  update.account.map fun account =>
    { slot := update.slot
      pubkey := bytesToPubkey account.pubkey
      owner := bytesToPubkey account.owner
      lamports := account.lamports
      executable := account.executable
      writeVersion := account.writeVersion
      dataBase64 := Encoding.base64Encode account.data
      transactionSignature := account.txnSignature.map bytesToSignature }

/-- The message of an update. Pings, pongs and entries carry none. -/
def UpdateOneof.message : UpdateOneof → Option GeyserMessage
  | slot u => some (.slot { slot := u.slot, parent := u.parent, status := u.status })
  | transaction u => (transactionUpdateFromProto u).map .transaction
  | account u => (accountUpdateFromProto u).map .account
  | block u | blockMeta u => some (.block u)
  | transactionStatus u => some (.transaction (transactionStatusUpdateFromProto u))
  | entry _ | ping | pong => none

/-- `envelope_from_subscribe_update`. -/
def envelopeFromSubscribeUpdate (update : SubscribeUpdate) (stamp : Stamp) :
    Option GeyserEnvelope :=
  (update.updateOneof.bind UpdateOneof.message).map fun message =>
    { receivedAt := update.createdAt.getD stamp.now
      observedAtMonotonicNs := stamp.observedNs
      sourceLatencyMs := none
      message }

/-! ## Metadata of the outputs -/

namespace GeyserEnvelope

/-- The metadata that all outputs of an envelope share. -/
def metaWith (envelope : GeyserEnvelope) (eventId : EventId) (source : EventSource)
    (canonicality : Canonicality) (slot : ℕ) : EventMeta where
  eventId := eventId
  source := source
  canonicality := canonicality
  slot := slot
  receivedAtWallTime := envelope.receivedAt
  observedAtMonotonicNs := envelope.observedAtMonotonicNs
  sourceLatencyMs := envelope.sourceLatencyMs

/-- `meta_for_slot`. -/
def metaForSlot (envelope : GeyserEnvelope) (stamp : Stamp) (update : SlotUpdate) :
    EventMeta :=
  match update.status with
  | .processed => envelope.metaWith stamp.eventId .geyserProcessed .processed update.slot
  | .confirmed => envelope.metaWith stamp.eventId .geyserConfirmed .confirmed update.slot
  | .rooted => envelope.metaWith stamp.eventId .geyserRooted .rooted update.slot

/-- `meta_for_tx`. -/
def metaForTx (envelope : GeyserEnvelope) (stamp : Stamp) (update : TransactionUpdate) :
    EventMeta :=
  { envelope.metaWith stamp.eventId .geyserProcessed .processed update.slot with
    signature := some update.signature
    transactionIndex := update.transactionIndex }

/-- `meta_for_account`. -/
def metaForAccount (envelope : GeyserEnvelope) (stamp : Stamp) (update : AccountUpdate) :
    EventMeta :=
  { envelope.metaWith stamp.eventId .geyserProcessed .processed update.slot with
    accountPubkey := PubkeyValue.parse update.pubkey
    accountWriteVersion := some update.writeVersion
    signature := update.transactionSignature }

/-- `meta_for_block`. -/
def metaForBlock (envelope : GeyserEnvelope) (stamp : Stamp) (update : BlockUpdate) :
    EventMeta :=
  envelope.metaWith stamp.eventId .geyserProcessed .processed update.slot

/-- `meta_for_gap`. -/
def metaForGap (envelope : GeyserEnvelope) (stamp : Stamp) (slot : ℕ) : EventMeta :=
  envelope.metaWith stamp.gapEventId .geyserProcessed .unknown slot

end GeyserEnvelope

/-! ## Deduplication -/

inductive DedupKey where
  | transaction (slot : ℕ) (signature : String) (txIndex : ℕ)
  | account (slot : ℕ) (pubkey : String) (writeVersion : ℕ)
  deriving DecidableEq, Repr

/-- `Deduplicator`: the keys seen, and the same keys in a queue, oldest first. -/
structure Deduplicator where
  seen : Finset DedupKey := ∅
  queue : List DedupKey := []
  capacity : ℕ
  deriving DecidableEq

namespace Deduplicator

/-- The loop of `Deduplicator::insert`: the oldest keys are forgotten down to the capacity. -/
def evict (capacity : ℕ) : Finset DedupKey → List DedupKey → Finset DedupKey × List DedupKey
  | seen, [] => (seen, [])
  | seen, evicted :: queue =>
    if capacity < queue.length + 1 then evict capacity (seen.erase evicted) queue
    else (seen, evicted :: queue)

/-- `Deduplicator::insert`: whether the key is new, and the deduplicator with it. -/
def insert (self : Deduplicator) (key : DedupKey) : Bool × Deduplicator :=
  if key ∈ self.seen then (false, self)
  else
    let (seen, queue) := evict self.capacity (self.seen ∪ {key}) (self.queue ++ [key])
    (true, { self with seen, queue })

end Deduplicator

/-! ## The ingest service -/

structure StreamHealth where
  connected : Bool := false
  reconnectCount : ℕ := 0
  lastSlotSeen : Option ℕ := none
  recentGap : Option DataGapEvent := none
  deriving DecidableEq, Repr

structure GeyserIngestService where
  config : GeyserConfig
  health : StreamHealth := {}
  dedup : Deduplicator
  writeVersions : KeyedMap (ℕ × String) ℕ := ∅

namespace GeyserIngestService

/-- `GeyserIngestService::new`. -/
def new (config : GeyserConfig) : GeyserIngestService where
  config := config
  dedup := { capacity := max config.maxInflightMessages 1 }

/-- `note_disconnect`. -/
def noteDisconnect (self : GeyserIngestService) : GeyserIngestService :=
  { self with
    health := { self.health with
      connected := false
      reconnectCount := saturatingAdd self.health.reconnectCount 1 } }

/-- `detect_gap`. -/
def detectGap (self : GeyserIngestService) (slot : ℕ) (parent : Option ℕ) :
    Option DataGapEvent :=
  match self.health.lastSlotSeen with
  | none => none
  | some last =>
    let tolerated := saturatingAdd last self.config.slotGapTolerance
    if saturatingAdd tolerated 1 < slot then
      some {
        gapType := .slotGap
        source := .geyserProcessed
        startSlot := last + 1
        endSlot := some (slot - 1)
        affectedTokens := []
        severity := .high
        tradeAllowed := false
        recoveryAction := "pause trading until gap is reconciled" }
    else
      match parent with
      | none => none
      | some parent =>
        if tolerated < parent then
          some {
            gapType := .reconnectGap
            source := .geyserProcessed
            startSlot := last + 1
            endSlot := some parent
            affectedTokens := []
            severity := .medium
            tradeAllowed := false
            recoveryAction := "reconnect and reconcile slot ancestry" }
        else none

/-- The `Slot` arm of `process_envelope`. -/
def processSlot (self : GeyserIngestService) (envelope : GeyserEnvelope) (stamp : Stamp)
    (update : SlotUpdate) : GeyserIngestService × List IngestOutput :=
  let slotOutput := IngestOutput.slot (envelope.metaForSlot stamp update) update
  match self.detectGap update.slot update.parent with
  | some gap =>
    ({ self with
        health := { self.health with
          recentGap := some gap
          lastSlotSeen := some update.slot } },
      [.dataGap (envelope.metaForGap stamp update.slot) gap, slotOutput])
  | none =>
    ({ self with health := { self.health with lastSlotSeen := some update.slot } },
      [slotOutput])

/-- The `Transaction` arm of `process_envelope`. -/
def processTransaction (self : GeyserIngestService) (envelope : GeyserEnvelope)
    (stamp : Stamp) (update : TransactionUpdate) : GeyserIngestService × List IngestOutput :=
  let key :=
    DedupKey.transaction update.slot update.signature (update.transactionIndex.getD 0)
  match self.dedup.insert key with
  | (true, dedup) =>
    ({ self with dedup }, [.transaction (envelope.metaForTx stamp update) update])
  | (false, dedup) => ({ self with dedup }, [])

/-- No update of the account in this slot had as large a write version. -/
def isNewer (self : GeyserIngestService) (update : AccountUpdate) : Bool :=
  match self.writeVersions.lookup (update.slot, update.pubkey) with
  | some last => last < update.writeVersion
  | none => true

/-- The `Account` arm of `process_envelope`. -/
def processAccount (self : GeyserIngestService) (envelope : GeyserEnvelope) (stamp : Stamp)
    (update : AccountUpdate) : GeyserIngestService × List IngestOutput :=
  if self.isNewer update then
    let self := { self with
      writeVersions := self.writeVersions.insert (update.slot, update.pubkey)
        update.writeVersion }
    match self.dedup.insert (.account update.slot update.pubkey update.writeVersion) with
    | (true, dedup) =>
      ({ self with dedup }, [.account (envelope.metaForAccount stamp update) update])
    | (false, dedup) => ({ self with dedup }, [])
  else (self, [])

/-- `process_envelope`. -/
def processEnvelope (self : GeyserIngestService) (envelope : GeyserEnvelope) (stamp : Stamp) :
    GeyserIngestService × List IngestOutput :=
  let self := { self with health := { self.health with connected := true } }
  match envelope.message with
  | .slot update => self.processSlot envelope stamp update
  | .transaction update => self.processTransaction envelope stamp update
  | .account update => self.processAccount envelope stamp update
  | .block update => (self, [.block (envelope.metaForBlock stamp update) update])

/-- The loop of `run_stream`, over the envelopes that arrive before the stream or the sink
fails, with the outputs that the sink gets. -/
def runStream (self : GeyserIngestService) (envelopes : List (GeyserEnvelope × Stamp)) :
    GeyserIngestService × List IngestOutput :=
  envelopes.foldl (fun acc item =>
    let (service, outputs) := acc.1.processEnvelope item.1 item.2
    (service, acc.2 ++ outputs)) (self, [])

/-- `process_subscribe_update`. -/
def processSubscribeUpdate (self : GeyserIngestService) (update : SubscribeUpdate)
    (stamp : Stamp) : GeyserIngestService × List IngestOutput :=
  match envelopeFromSubscribeUpdate update stamp with
  | some envelope => self.processEnvelope envelope stamp
  | none => (self, [])

end GeyserIngestService

end PumpLaunchTrader
