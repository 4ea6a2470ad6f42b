import PumpLaunchTrader.Model.Geyser
import PumpLaunchTrader.Model.Idl
import PumpLaunchTrader.Lib.RoundRobin

/-! # The material-hunter router (`runtime::live_source`)

One task reads updates in order, decides which of them deserve a worker and puts those into
the queue of a partition. It shares the sets of active and tombstoned mints with the
consumer of the events. A worker takes batches from its queue and reorders each of them so
that every route key gets its turn. -/

namespace PumpLaunchTrader

def pumpProgramId : String := "6EF8rrecthR5Dkzon8Nwu78hRvfCKubJ14M5uBEwF6P"
def splTokenProgramId : String := "TokenkegQfeZyiNwAJbNbGKPFXCWuBvf9Ss623VQ5DA"
def token2022ProgramId : String := "TokenzQdBNbLqP5VEhdkAS6EPq9sJqzQdbqT6qhHV4"

/-- `MaterialUpdateClass`, the classes that the router assigns. -/
inductive MaterialUpdateClass where
  | slotLiveness | pumpTokenCreated | transactionTokenCreated | pumpTradeActiveMint
  | pumpTradeUntrackedMint | pumpTradeUnknownMint | pumpTradeTombstonedMint
  | transactionActiveMint | transactionActiveAccount | transactionMappingHintOnly
  | transactionUntrackedPump | transactionAccountPinnedUnknown | transactionTombstonedMint
  | transactionDuplicateSignature | tokenAccountChangeUntracked | holderOwnerChange
  | malformedOrUnknown | otherUntracked
  deriving DecidableEq, Repr

/-! ## Reading an update -/

namespace SubscribeUpdate

/-- The transaction of a transaction update. -/
def transactionInfo (self : SubscribeUpdate) : Option SubscribeUpdateTransactionInfo :=
  match self.updateOneof with
  | some (.transaction tx) => tx.transaction
  | _ => none

def message (self : SubscribeUpdate) : Option Message :=
  (self.transactionInfo.bind (·.transaction)).bind (·.message)

/-- The token balances after the transaction, then those before it. -/
def tokenBalances (self : SubscribeUpdate) : List TokenBalance :=
  match self.transactionInfo.bind (·.status) with
  | some status => status.postTokenBalances ++ status.preTokenBalances
  | none => []

/-- The mints of the token balances, without blank ones. -/
def tokenBalanceMints (self : SubscribeUpdate) : List String :=
  self.tokenBalances.filterMap fun balance =>
    let mint := trimText balance.mint
    if mint = "" then none else some mint

/-- `material_hunter_transaction_mint_hint`. -/
def mintHint (self : SubscribeUpdate) : Option String := self.tokenBalanceMints.head?

/-- `material_hunter_transaction_account_keys`. -/
def accountKeys (self : SubscribeUpdate) : List (List UInt8) :=
  (self.message.map (·.accountKeys)).getD []

/-- `material_hunter_transaction_account_hint`. -/
def accountHint (self : SubscribeUpdate) : Option String :=
  self.accountKeys.head?.map Encoding.base58Encode

/-- `material_hunter_transaction_signature_hint`. -/
def signatureHint (self : SubscribeUpdate) : Option String := do
  let info ← self.transactionInfo
  if info.signature ≠ [] then some (Encoding.base58Encode info.signature)
  else
    let signature ← (info.transaction.map (·.signatures)).bind List.head?
    if signature = [] then none else some (Encoding.base58Encode signature)

/-- `material_hunter_transaction_has_pump_program`. -/
def hasPumpProgram (self : SubscribeUpdate) : Bool :=
  self.accountKeys.any fun key => Encoding.base58Encode key = pumpProgramId

end SubscribeUpdate

/-- What `material_hunter_pump_discriminator_name` reads off the data. -/
inductive PumpDiscriminator where
  | create | buy | sell | other
  deriving DecidableEq, Repr

/-- `material_hunter_pump_discriminator_name`. -/
def pumpDiscriminatorName (data : List UInt8) : Option PumpDiscriminator :=
  let discriminator := data.take 8
  if data.length < 8 then none
  else if discriminator = anchorDiscriminator "global" "create" then some .create
  else if discriminator = anchorDiscriminator "global" "create_v2" then some .create
  else if discriminator = anchorDiscriminator "global" "buy" ∨
      discriminator = anchorDiscriminator "global" "buy_v2" ∨
      discriminator = anchorDiscriminator "global" "buy_exact_quote_in_v2" then some .buy
  else if discriminator = anchorDiscriminator "global" "sell" ∨
      discriminator = anchorDiscriminator "global" "sell_v2" then some .sell
  else some .other

namespace Message

/-- The instruction runs the Pump program. -/
def runsPump (self : Message) (instruction : CompiledInstruction) : Bool :=
  match self.accountKeys[instruction.programIdIndex]? with
  | some programId => Encoding.base58Encode programId = pumpProgramId
  | none => false

/-- Some instruction of the Pump program has a discriminator of the list. -/
def sawPump (self : Message) (names : List (Option PumpDiscriminator)) : Bool :=
  self.instructions.any fun instruction =>
    self.runsPump instruction && names.contains (pumpDiscriminatorName instruction.data)

/-- An instruction names its program by an index out of range, or is one of the Pump
program with less than eight bytes. -/
def sawMalformed (self : Message) : Bool :=
  (self.instructions.any fun instruction =>
    (self.accountKeys[instruction.programIdIndex]?).isNone) ||
  self.sawPump [none]

end Message

/-- `material_hunter_transaction_has_pump_create`. -/
def SubscribeUpdate.hasPumpCreate (self : SubscribeUpdate) : Bool :=
  match self.message with
  | some message => message.sawPump [some .create]
  | none => false

/-! ## The prefilters -/

inductive PumpPrefilterDecision where
  | deepProcess | skipUntracked | skipTombstoned | skipUnknownMint | skipMalformed | skipOther
  deriving DecidableEq, Repr

structure PumpPrefilter where
  updateClass : MaterialUpdateClass
  decision : PumpPrefilterDecision
  mint : Option String
  account : Option String
  deriving DecidableEq, Repr

/-- `material_hunter_prefilter_pump_instruction`. -/
def prefilterPumpInstruction (update : SubscribeUpdate)
    (activeMints tombstonedMints : Finset String) : Option PumpPrefilter :=
  match update.message with
  | none => none
  | some message =>
    let mint := update.mintHint
    let account := update.accountHint
    if ¬ message.instructions.any message.runsPump then none
    else if message.sawPump [some .create] then
      some { updateClass := .pumpTokenCreated, decision := .deepProcess, mint, account }
    else if message.sawPump [some .buy, some .sell] then
      match mint with
      | none =>
        some { updateClass := .pumpTradeUnknownMint, decision := .skipUnknownMint, mint, account }
      | some value =>
        if value ∈ tombstonedMints then
          some {
            updateClass := .pumpTradeTombstonedMint
            decision := .skipTombstoned
            mint
            account }
        else if value ∈ activeMints then
          some { updateClass := .pumpTradeActiveMint, decision := .deepProcess, mint, account }
        else
          some { updateClass := .pumpTradeUntrackedMint, decision := .skipUntracked, mint, account }
    else if message.sawMalformed then
      some { updateClass := .malformedOrUnknown, decision := .skipMalformed, mint, account }
    else some { updateClass := .otherUntracked, decision := .skipOther, mint, account }

inductive TransactionPrefilterDecision where
  | deepProcess | skipMappingHintOnly | skipUntrackedPump | skipAccountPinnedUnknown
  | skipTombstoned | skipDuplicateSignature | skipMalformedOrUnknown | skipOtherUntracked
  deriving DecidableEq, Repr

structure TransactionPrefilter where
  updateClass : MaterialUpdateClass
  decision : TransactionPrefilterDecision
  mint : Option String
  account : Option String
  signature : Option String
  deriving DecidableEq, Repr

/-- The mints that are known for the account keys of an update. -/
def SubscribeUpdate.mappedMints (self : SubscribeUpdate)
    (tokenAccountToMint : KeyedMap (List UInt8) String) : List String :=
  self.accountKeys.filterMap tokenAccountToMint.lookup

/-- `material_hunter_prefilter_transaction_update`. -/
def prefilterTransactionUpdate (update : SubscribeUpdate)
    (activeMints tombstonedMints : Finset String)
    (tokenAccountToMint : KeyedMap (List UInt8) String)
    (accountPartitionPins : KeyedMap (List UInt8) ℕ) (duplicateSignature : Bool) :
    Option TransactionPrefilter :=
  match update.updateOneof with
  | some (.transaction tx) =>
    let signature := update.signatureHint
    let mint := update.mintHint
    let account := update.accountHint
    let keys := update.accountKeys
    let balanceMints := update.tokenBalanceMints
    let mappedMints := update.mappedMints tokenAccountToMint
    if duplicateSignature then
      some {
        updateClass := .transactionDuplicateSignature
        decision := .skipDuplicateSignature
        mint
        account
        signature }
    else
      match tx.transaction with
      | none =>
        some {
          updateClass := .malformedOrUnknown
          decision := .skipMalformedOrUnknown
          mint := none
          account := none
          signature }
      | some info =>
        if keys = [] ∧ info.status = none then
          some {
            updateClass := .malformedOrUnknown
            decision := .skipMalformedOrUnknown
            mint := none
            account := none
            signature }
        else if update.hasPumpCreate then
          some {
            updateClass := .transactionTokenCreated
            decision := .deepProcess
            mint
            account
            signature }
        else
          match (balanceMints ++ mappedMints).find? (· ∈ activeMints) with
          | some active =>
            let holder := keys.find? fun key => tokenAccountToMint.lookup key = some active
            some {
              updateClass :=
                if active ∈ balanceMints then .transactionActiveMint
                else .transactionActiveAccount
              decision := .deepProcess
              mint := some active
              account := (holder.map Encoding.base58Encode).or account
              signature }
          | none =>
            match (balanceMints ++ mappedMints).find? (· ∈ tombstonedMints) with
            | some tombstoned =>
              some {
                updateClass := .transactionTombstonedMint
                decision := .skipTombstoned
                mint := some tombstoned
                account
                signature }
            | none =>
              if keys.any fun key => key ∈ accountPartitionPins then
                some {
                  updateClass := .transactionAccountPinnedUnknown
                  decision := .skipAccountPinnedUnknown
                  mint
                  account
                  signature }
              else if update.hasPumpProgram then
                some {
                  updateClass := .transactionUntrackedPump
                  decision := .skipUntrackedPump
                  mint
                  account
                  signature }
              else if balanceMints ≠ [] ∨ mappedMints ≠ [] then
                some {
                  updateClass := .transactionMappingHintOnly
                  decision := .skipMappingHintOnly
                  mint
                  account
                  signature }
              else
                some {
                  updateClass := .otherUntracked
                  decision := .skipOtherUntracked
                  mint
                  account
                  signature }
  | _ => none

/-- `material_hunter_update_class_enum`. -/
def updateClassOf (update : SubscribeUpdate) : MaterialUpdateClass :=
  match update.updateOneof with
  | some (.slot _) | some .ping | some .pong => .slotLiveness
  | some (.transaction _) =>
    if update.hasPumpProgram then .pumpTradeUnknownMint
    else if update.tokenBalances ≠ [] then .transactionMappingHintOnly
    else .otherUntracked
  | some (.transactionStatus _) => .otherUntracked
  | some (.account accountUpdate) =>
    match accountUpdate.account with
    | none => .otherUntracked
    | some account =>
      let owner := Encoding.base58Encode account.owner
      if account.data = [] then .otherUntracked
      else if owner = splTokenProgramId ∨ owner = token2022ProgramId then
        .tokenAccountChangeUntracked
      else .holderOwnerChange
  | _ => .malformedOrUnknown

/-- `material_hunter_update_needs_worker`: whether the reader hands the update to the
router. -/
def updateNeedsWorker (update : SubscribeUpdate) : Bool :=
  updateClassOf update ≠ .slotLiveness ∧ updateClassOf update ≠ .otherUntracked

/-! ## Partitions -/

/-- `u64::to_le_bytes`. -/
def slotBytes (slot : ℕ) : List UInt8 :=
  (List.range 8).map fun i => UInt8.ofNat (slot >>> (8 * i))

/-- `material_hunter_partition_hash`. -/
def partitionHash (key : List UInt8) : ℕ :=
  Encoding.littleEndian ((Sha256.digest key).take 8)

/-- `material_hunter_partition_for_key`. -/
def partitionForKey (key : List UInt8) (partitions : ℕ) : ℕ :=
  if partitions ≤ 1 then 0 else partitionHash key % partitions

/-- The key that decides on a partition, whether it is a fallback, and its label. -/
structure PartitionKey where
  key : List UInt8
  fallback : Bool
  label : String
  deriving DecidableEq, Repr

namespace PartitionKey

def ofMint (mint : String) : PartitionKey :=
  { key := mint.toUTF8.toList, fallback := false, label := "mint:" ++ mint }

def ofAccount (pubkey : List UInt8) : PartitionKey :=
  { key := pubkey, fallback := false, label := "account:" ++ Encoding.base58Encode pubkey }

def ofOwner (owner : List UInt8) : PartitionKey :=
  { key := owner, fallback := false, label := "owner:" ++ Encoding.base58Encode owner }

def ofSignature (signature : List UInt8) : PartitionKey where
  key := signature
  fallback := false
  label := "signature:" ++ Encoding.base58Encode signature

def ofSlot (slot : ℕ) : PartitionKey :=
  { key := slotBytes slot, fallback := true, label := "slot:" ++ toString slot }

def unknown : PartitionKey where
  key := "material-hunter-fallback".toUTF8.toList
  fallback := true
  label := "fallback:unknown"

end PartitionKey

/-- The key of a transaction: its first mint, its first account, a signature. -/
def transactionPartitionKey (update : SubscribeUpdate) : Option PartitionKey :=
  match update.transactionInfo with
  | none => none
  | some info =>
    match update.tokenBalances.find? fun balance => trimText balance.mint ≠ "" with
    | some balance => some (.ofMint balance.mint)
    | none =>
      match update.accountKeys.head? with
      | some key => some (.ofAccount key)
      | none =>
        match (info.transaction.map (·.signatures)).bind List.head? with
        | some signature => some (.ofSignature signature)
        | none =>
          if info.signature = [] then none else some (.ofSignature info.signature)

/-- `material_hunter_partition_key`. -/
def partitionKey (update : SubscribeUpdate) : PartitionKey :=
  match update.updateOneof with
  | some (.transaction tx) => (transactionPartitionKey update).getD (.ofSlot tx.slot)
  | some (.transactionStatus status) =>
    if status.signature = [] then .ofSlot status.slot else .ofSignature status.signature
  | some (.account accountUpdate) =>
    match accountUpdate.account with
    | none => .ofSlot accountUpdate.slot
    | some account =>
      if account.pubkey ≠ [] then .ofAccount account.pubkey
      else if account.owner ≠ [] then .ofOwner account.owner
      else .ofSlot accountUpdate.slot
  | some (.block block) | some (.blockMeta block) => .ofSlot block.slot
  | some (.entry slot) => .ofSlot slot
  | _ => .unknown

/-- A partition with the label of the route. -/
structure Route where
  partition : ℕ
  fallback : Bool
  label : String
  deriving DecidableEq, Repr

/-- `material_hunter_partition_for_update`. -/
def partitionForUpdate (update : SubscribeUpdate) (partitions : ℕ) : Route :=
  let key := partitionKey update
  { partition := partitionForKey key.key partitions, fallback := key.fallback, label := key.label }

/-- The public key of an account update, where it has one. -/
def SubscribeUpdate.accountPubkey (self : SubscribeUpdate) : Option (List UInt8) :=
  match self.updateOneof with
  | some (.account accountUpdate) =>
    match accountUpdate.account with
    | some account => if account.pubkey = [] then none else some account.pubkey
    | none => none
  | _ => none

/-- `material_hunter_partition_for_update_with_account_map`. -/
def partitionForUpdateWithAccountMap (update : SubscribeUpdate) (partitions : ℕ)
    (tokenAccountToMint : KeyedMap (List UInt8) String)
    (accountPartitionPins : KeyedMap (List UInt8) ℕ) : Route × KeyedMap (List UInt8) ℕ :=
  match update.accountPubkey with
  | none => (partitionForUpdate update partitions, accountPartitionPins)
  | some pubkey =>
    match accountPartitionPins.lookup pubkey with
    | some partition =>
      ({ partition
         fallback := false
         label := "account_pinned:" ++ Encoding.base58Encode pubkey }, accountPartitionPins)
    | none =>
      let route : Route :=
        match tokenAccountToMint.lookup pubkey with
        | some mint =>
          { partition := partitionForKey (PartitionKey.ofMint mint).key partitions
            fallback := false
            label := "mint:" ++ mint }
        | none => partitionForUpdate update partitions
      (route, accountPartitionPins.insert pubkey route.partition)

/-- `material_hunter_token_account_mint_mappings`. -/
def tokenAccountMintMappings (update : SubscribeUpdate) : List (List UInt8 × String) :=
  update.tokenBalances.filterMap fun balance =>
    if trimText balance.mint = "" then none
    else
      match update.accountKeys[balance.accountIndex]? with
      | some key => if key = [] then none else some (key, balance.mint)
      | none => none

/-- Learn mappings. A mapping that is there stays. -/
def learnMappings (tokenAccountToMint : KeyedMap (List UInt8) String)
    (mappings : List (List UInt8 × String)) : KeyedMap (List UInt8) String :=
  mappings.foldl
    (fun (map : KeyedMap (List UInt8) String) m =>
      if m.1 ∈ map then map else map.insert m.1 m.2)
    tokenAccountToMint

/-! ## Relevance and pressure -/

structure RelevanceState where
  activeMints : Finset String := ∅
  tombstonedMints : Finset String := ∅
  deriving DecidableEq

structure StateHint where
  activeMints : List String := []
  tombstonedMints : List String := []
  inactiveMints : List String := []
  deriving DecidableEq, Repr

namespace RelevanceState

def activate (self : RelevanceState) (mint : String) : RelevanceState where
  activeMints := insert mint self.activeMints
  tombstonedMints := self.tombstonedMints.erase mint

def deactivate (self : RelevanceState) (mint : String) : RelevanceState :=
  { self with activeMints := self.activeMints.erase mint }

def tombstone (self : RelevanceState) (mint : String) : RelevanceState where
  activeMints := self.activeMints.erase mint
  tombstonedMints := insert mint self.tombstonedMints

/-- `apply_material_hunter_state_hint`. -/
def applyHint (self : RelevanceState) (hint : StateHint) : RelevanceState :=
  hint.tombstonedMints.foldl tombstone
    (hint.inactiveMints.foldl deactivate (hint.activeMints.foldl activate self))

end RelevanceState

/-- `MaterialHunterActiveMintPressureConfig`. `softDepth` is the share of a queue capacity
that the floating-point threshold ratio rounds up to. Times are in nanoseconds. -/
structure PressureConfig where
  maxQueuedUpdatesPerMint : ℕ
  maxUpdatesPerSecond : ℕ
  maxDeepUpdatesPerCheckpoint : ℕ
  noisyDegradeEnabled : Bool
  noisyDegradeReason : String
  coalesceWindow : ℕ
  deltaFlushInterval : ℕ
  softDepth : ℕ → ℕ

structure PressureEntry where
  windowStartedAt : Option ℕ := none
  windowUpdateCount : ℕ := 0
  deepUpdatesSinceCheckpoint : ℕ := 0
  coalescedUpdatesSinceFlush : ℕ := 0
  lastDeepProcessAt : Option ℕ := none
  lastDeltaFlushAt : Option ℕ := none
  degraded : Bool := false
  deriving DecidableEq, Repr

abbrev PressureState := KeyedMap String PressureEntry

inductive PressureDecision where
  | deepProcess | coalesce
  | degrade (reason : String) (queuePressure : Bool)
  deriving DecidableEq, Repr

namespace PressureEntry

/-- The entry with its one-second window brought up to date and the update counted. -/
def count (self : PressureEntry) (now : ℕ) : PressureEntry :=
  let started := self.windowStartedAt.getD now
  if 1000000000 ≤ now - started then
    { self with
      windowStartedAt := some now
      windowUpdateCount := 1 }
  else
    { self with
      windowStartedAt := some started
      windowUpdateCount := saturatingAdd self.windowUpdateCount 1 }

/-- The decision on an update of a mint that is not degraded, for its counted entry. -/
def decide (self : PressureEntry) (now depth capacity : ℕ) (config : PressureConfig) :
    PressureDecision × PressureEntry :=
  let perMint : Bool := config.maxQueuedUpdatesPerMint ≤
    saturatingAdd self.windowUpdateCount self.coalescedUpdatesSinceFlush
  let partition : Bool := 0 < capacity ∧ max (config.softDepth capacity) 1 ≤ depth ∧
    max (config.maxUpdatesPerSecond / 4) 1 ≤ self.windowUpdateCount
  let budget : Bool := config.maxUpdatesPerSecond < self.windowUpdateCount ∨
    config.maxDeepUpdatesPerCheckpoint ≤ self.deepUpdatesSinceCheckpoint
  let due (last : Option ℕ) (interval : ℕ) : Bool :=
    match last with
    | some time => interval ≤ now - time
    | none => true
  if config.noisyDegradeEnabled && (perMint || partition || budget) then
    (.degrade
      (if budget then "active_mint_processing_budget_exceeded" else config.noisyDegradeReason)
      (perMint || partition),
      { self with degraded := true })
  else if due self.lastDeltaFlushAt config.deltaFlushInterval ||
      due self.lastDeepProcessAt config.coalesceWindow then
    (.deepProcess,
      { self with
        lastDeepProcessAt := some now
        lastDeltaFlushAt := some now
        deepUpdatesSinceCheckpoint := saturatingAdd self.deepUpdatesSinceCheckpoint 1
        coalescedUpdatesSinceFlush := 0 })
  else
    (.coalesce,
      { self with
        coalescedUpdatesSinceFlush := saturatingAdd self.coalescedUpdatesSinceFlush 1 })

end PressureEntry

/-- `material_hunter_active_mint_pressure_decision`. -/
def pressureDecision (state : PressureState) (mint : String) (now depth capacity : ℕ)
    (config : PressureConfig) : PressureDecision × PressureState :=
  let entry := (state.lookup mint).getD {}
  if entry.degraded then (.coalesce, state.insert mint entry)
  else
    let decided := (entry.count now).decide now depth capacity config
    (decided.1, state.insert mint decided.2)

/-! ## The router -/

/-- `MaterialHunterPartitionUpdate`, the fields that the worker reads. -/
structure PartitionUpdate where
  update : SubscribeUpdate
  sequence : ℕ
  updateClass : MaterialUpdateClass
  routeKeyLabel : String
  deriving DecidableEq, Repr

/-- What the router takes from the configuration. The number of partitions is clamped. -/
structure RouterConfig where
  workerPartitions : ℕ
  clamped : 1 ≤ workerPartitions ∧ workerPartitions ≤ 16
  partitionQueueCapacity : ℕ
  pressure : PressureConfig

theorem RouterConfig.clamped_one : 1 ≤ 1 ∧ 1 ≤ 16 := by decide

/-- `MaterialHunterRelevanceState` with what the router task keeps. `received` counts the
updates that got a route; it numbers them. -/
structure RouterState where
  relevance : RelevanceState := {}
  tokenAccountToMint : KeyedMap (List UInt8) String := ∅
  accountPartitionPins : KeyedMap (List UInt8) ℕ := ∅
  seenSignatures : List String := []
  pressure : PressureState := ∅
  received : ℕ := 0

/-- What an update meets at the router: the clock and the queue of its partition, which may
have no room. -/
structure RouterEnv where
  now : ℕ := 0
  depth : ℕ := 0
  room : Bool := true
  deriving DecidableEq, Repr

/-- The capacity of the set of seen signatures. -/
def signatureCapacity : ℕ := 4096

/-- `material_hunter_signature_seen_or_insert`, with the signatures oldest first. -/
def signatureSeenOrInsert (seen : List String) (signature : String) : Bool × List String :=
  if trimText signature = "" then (false, seen)
  else if signature ∈ seen then (true, seen)
  else
    let seen := seen ++ [signature]
    (false, seen.drop (seen.length - signatureCapacity))

/-- What the prefilter cascade makes of an update. -/
inductive CascadeOutcome where
  | skipped (updateClass : MaterialUpdateClass)
  | passed (updateClass : MaterialUpdateClass) (mint : Option String)
  deriving DecidableEq, Repr

/-- How the router leaves an update: skipped, sent to a partition, or lost to a full queue. -/
inductive RouterOutcome where
  | skipped (updateClass : MaterialUpdateClass)
  | sent (partition : ℕ) (item : PartitionUpdate)
  | queueFull (partition : ℕ)
  deriving DecidableEq, Repr

namespace RouterState

/-- What the router learns before it classifies an update, and whether it saw the
signature before. -/
def observe (self : RouterState) (update : SubscribeUpdate) : Bool × RouterState :=
  let learned := { self with
    tokenAccountToMint :=
      learnMappings self.tokenAccountToMint (tokenAccountMintMappings update) }
  match update.signatureHint with
  | none => (false, learned)
  | some signature =>
    let seen := signatureSeenOrInsert self.seenSignatures signature
    (seen.1, { learned with seenSignatures := seen.2 })

/-- A detected creation activates its first mint. -/
def activateCreated (self : RouterState) (filtered : PumpPrefilter) : RouterState :=
  match filtered.updateClass, filtered.mint with
  | .pumpTokenCreated, some mint =>
    { self with relevance := self.relevance.applyHint { activeMints := [mint] } }
  | _, _ => self

/-- The prefilters on an update, for the sets of mints read before. The mint of the
outcome is the one whose pressure counts. -/
def cascade (self : RouterState) (update : SubscribeUpdate)
    (activeMints tombstonedMints : Finset String) (duplicate : Bool) :
    CascadeOutcome × RouterState :=
  let transaction := prefilterTransactionUpdate update activeMints tombstonedMints
    self.tokenAccountToMint self.accountPartitionPins duplicate
  match prefilterPumpInstruction update activeMints tombstonedMints, duplicate, transaction with
  | _, true, some filtered => (.skipped filtered.updateClass, self)
  | some filtered, _, _ =>
    let next := self.activateCreated filtered
    if filtered.decision = .deepProcess then
      (.passed filtered.updateClass filtered.mint, next)
    else (.skipped filtered.updateClass, next)
  | none, _, some filtered =>
    if filtered.decision = .deepProcess then
      (.passed filtered.updateClass filtered.mint, self)
    else (.skipped filtered.updateClass, self)
  | none, _, none => (.passed (updateClassOf update) update.mintHint, self)

/-- The pressure decision on an update of an active mint, with the hint that a degraded
mint gives. -/
def applyPressure (self : RouterState) (config : RouterConfig) (env : RouterEnv)
    (mint : String) : PressureDecision × RouterState :=
  let decided := pressureDecision self.pressure mint env.now env.depth
    config.partitionQueueCapacity config.pressure
  let next := { self with pressure := decided.2 }
  match decided.1 with
  | .degrade reason queuePressure =>
    (.degrade reason queuePressure,
      { next with
        relevance := self.relevance.applyHint
          { inactiveMints := [mint], tombstonedMints := [mint] } })
  | decision => (decision, next)

/-- The classes of updates whose mint is under pressure control. -/
def hasPressure (updateClass : MaterialUpdateClass) : Bool :=
  updateClass = .pumpTradeActiveMint ∨ updateClass = .transactionActiveMint ∨
    updateClass = .transactionActiveAccount

/-- The pressure decision that an update of the class calls for, if any. -/
def underPressure (self : RouterState) (config : RouterConfig) (env : RouterEnv)
    (updateClass : MaterialUpdateClass) (mint : Option String) :
    Option PressureDecision × RouterState :=
  match hasPressure updateClass, mint with
  | true, some mint =>
    let decided := self.applyPressure config env mint
    (some decided.1, decided.2)
  | _, _ => (none, self)

/-- The part of the router behind the prefilters. -/
def dispatch (self : RouterState) (config : RouterConfig) (env : RouterEnv)
    (update : SubscribeUpdate) (updateClass : MaterialUpdateClass) (mint : Option String) :
    RouterOutcome × RouterState :=
  let routed := partitionForUpdateWithAccountMap update config.workerPartitions
    self.tokenAccountToMint self.accountPartitionPins
  let self := { self with
    accountPartitionPins := routed.2
    received := self.received + 1 }
  let pressed := self.underPressure config env updateClass mint
  match pressed.1 with
  | some .coalesce | some (.degrade _ _) => (.skipped updateClass, pressed.2)
  | _ =>
    if env.room then
      (.sent routed.1.partition {
        update
        sequence := self.received
        updateClass
        routeKeyLabel := routed.1.label }, pressed.2)
    else (.queueFull routed.1.partition, pressed.2)

/-- One update at the router. -/
def route (self : RouterState) (config : RouterConfig) (env : RouterEnv)
    (update : SubscribeUpdate) : RouterOutcome × RouterState :=
  let observed := self.observe update
  match observed.2.cascade update self.relevance.activeMints self.relevance.tombstonedMints
      observed.1 with
  | (.skipped updateClass, next) => (.skipped updateClass, next)
  | (.passed updateClass mint, next) => next.dispatch config env update updateClass mint

end RouterState

/-- What reaches the router's state: an update of the stream, or a hint of the consumer. -/
inductive RouterInput where
  | update (update : SubscribeUpdate) (env : RouterEnv)
  | hint (hint : StateHint)
  deriving DecidableEq, Repr

/-- The router over a list of inputs: the items sent with their partitions, in order. A full
queue ends the router. -/
def routeAll (config : RouterConfig) :
    List RouterInput → RouterState → List (ℕ × PartitionUpdate) × RouterState
  | [], state => ([], state)
  | .hint hint :: inputs, state =>
    routeAll config inputs { state with relevance := state.relevance.applyHint hint }
  | .update update env :: inputs, state =>
    match state.route config env update with
    | (.sent partition item, next) =>
      let rest := routeAll config inputs next
      ((partition, item) :: rest.1, rest.2)
    | (.skipped _, next) => routeAll config inputs next
    | (.queueFull _, next) => ([], next)

/-! ## The partition worker -/

/-- `material_hunter_fair_schedule_partition_batch`, the scheduled items: a map from label to
queue, and rounds that take the front of every queue. -/
def fairSchedulePartitionBatch (batch : List PartitionUpdate) : List PartitionUpdate :=
  if batch.length ≤ 1 then batch else RoundRobin.schedule (·.routeKeyLabel) batch

/-- The items in the order in which a worker hands them to its normalizer, by the batches
that its queue is cut into. -/
def workerOrder (batches : List (List PartitionUpdate)) : List PartitionUpdate :=
  batches.flatMap fairSchedulePartitionBatch

end PumpLaunchTrader
