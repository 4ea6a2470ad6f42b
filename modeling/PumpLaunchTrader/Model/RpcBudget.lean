import PumpLaunchTrader.Lib.KeyedMap
import PumpLaunchTrader.Model.Event

/-! # RPC budget (`rpc-budget`)

Every request is checked against the stream-only policy, the live-mode rules and the credit
limits, in this order. The ledger takes one entry for each request. -/

namespace PumpLaunchTrader

/-! ## Requests -/

inductive RpcReason where
  | coldStart
  | programConfigValidation
  | executionBlockhash
  | executionSend
  | executionStatusFallback
  | emergencyReconciliation
  | devTestFixtures
  | nonProductionVerification
  deriving DecidableEq, Repr

namespace RpcReason

def allowedInLive : RpcReason → Bool
  | .programConfigValidation | .executionBlockhash | .executionSend | .executionStatusFallback
  | .emergencyReconciliation => true
  | _ => false

/-- The `Debug` name of a reason. -/
def name : RpcReason → String
  | .coldStart => "ColdStart"
  | .programConfigValidation => "ProgramConfigValidation"
  | .executionBlockhash => "ExecutionBlockhash"
  | .executionSend => "ExecutionSend"
  | .executionStatusFallback => "ExecutionStatusFallback"
  | .emergencyReconciliation => "EmergencyReconciliation"
  | .devTestFixtures => "DevTestFixtures"
  | .nonProductionVerification => "NonProductionVerification"

end RpcReason

inductive RpcCallCategory where
  | marketData
  | holderScan
  | topHolderScan
  | metadataFetch
  | backfill
  | reconciliation
  | confirmation
  | blockhash
  | transactionSend
  | transactionStatus
  | simulation
  | emergency
  | devTest
  | unknown
  deriving DecidableEq, Repr

/-- The `Debug` name of a category. -/
def RpcCallCategory.name : RpcCallCategory → String
  | .marketData => "MarketData"
  | .holderScan => "HolderScan"
  | .topHolderScan => "TopHolderScan"
  | .metadataFetch => "MetadataFetch"
  | .backfill => "Backfill"
  | .reconciliation => "Reconciliation"
  | .confirmation => "Confirmation"
  | .blockhash => "Blockhash"
  | .transactionSend => "TransactionSend"
  | .transactionStatus => "TransactionStatus"
  | .simulation => "Simulation"
  | .emergency => "Emergency"
  | .devTest => "DevTest"
  | .unknown => "Unknown"

inductive RpcNetworkKind where
  | jsonRpc
  | eRpc
  | httpMetadata
  | httpExternal
  | grpcStream
  | udpShred
  | inboundMetrics
  | unknown
  deriving DecidableEq, Repr

/-- The kinds that carry streams, which cost no credits. -/
def RpcNetworkKind.isStream : RpcNetworkKind → Bool
  | .grpcStream | .udpShred | .inboundMetrics => true
  | _ => false

inductive StreamOnlyPolicy where
  | denyAllRpc
  | allowExecutionOnly
  | allowBlockhashOnly
  | allowEmergencyOnly
  | disabled
  deriving DecidableEq, Repr

/-- The `Debug` name of a policy. -/
def StreamOnlyPolicy.name : StreamOnlyPolicy → String
  | .denyAllRpc => "DenyAllRpc"
  | .allowExecutionOnly => "AllowExecutionOnly"
  | .allowBlockhashOnly => "AllowBlockhashOnly"
  | .allowEmergencyOnly => "AllowEmergencyOnly"
  | .disabled => "Disabled"

structure RpcCallRequest where
  timestamp : OffsetDateTime
  endpoint : String
  method : String
  callerModule : String
  reason : RpcReason
  category : RpcCallCategory
  networkKind : RpcNetworkKind
  relatedToken : Option String := none
  relatedSignature : Option String := none
  estimatedProviderCreditCost : ℕ
  actualProviderCreditCost : Option ℕ := none
  configHash : String
  runId : String
  liveMode : Bool
  deriving DecidableEq, Repr

structure RpcLedgerEntry where
  request : RpcCallRequest
  allowed : Bool
  denied : Bool
  budgetRemaining : ℕ
  denialReason : Option String
  streamOnlyEnabled : Bool
  networkTouched : Bool
  deriving DecidableEq, Repr

inductive RpcBudgetError where
  | dailyBudgetExceeded
  | monthlyBudgetExceeded
  | perMethodBudgetExceeded (method : String)
  | emergencyReserveBreached
  | reasonNotAllowed (reason : RpcReason)
  | unknownBudgetState
  | streamOnlyDenied (category : RpcCallCategory) (reason : String)
  deriving DecidableEq, Repr

/-! ## Configuration -/

/-- The fields of `RpcBudgetConfig` that a check reads. -/
structure RpcBudgetConfig where
  dailyCreditLimit : ℕ
  monthlyCreditLimit : ℕ
  emergencyReserve : ℕ
  denyWhenUnknownLiveState : Bool
  perMethodLimits : KeyedMap String ℕ := ∅

/-- The fields of `StreamOnlyConfig` that a check reads. -/
structure StreamOnlyConfig where
  enabled : Bool := true
  failOnUnbudgetedRpc : Bool := true
  allowTrackingRpc : Bool := false
  allowHolderRpc : Bool := false
  allowTopHolderRpc : Bool := false
  allowMetadataRpc : Bool := false
  allowBackfillRpc : Bool := false
  allowReconciliationRpc : Bool := false
  allowConfirmationRpc : Bool := false
  allowBlockhashRpc : Bool := false
  allowExecutionRpc : Bool := false
  allowSendRpc : Bool := false
  allowEmergencyRpc : Bool := false
  deriving DecidableEq, Repr

namespace StreamOnlyConfig

/-- `RpcBudgetManager::stream_only_policy`. -/
def policy (self : StreamOnlyConfig) : StreamOnlyPolicy :=
  if ¬ self.enabled then .disabled
  else if self.allowExecutionRpc ∨ self.allowSendRpc then .allowExecutionOnly
  else if self.allowBlockhashRpc then .allowBlockhashOnly
  else if self.allowEmergencyRpc then .allowEmergencyOnly
  else .denyAllRpc

/-- Whether the policy lets a category through. -/
def allows (self : StreamOnlyConfig) : RpcCallCategory → Bool
  | .marketData => self.allowTrackingRpc
  | .holderScan => self.allowHolderRpc
  | .topHolderScan => self.allowTopHolderRpc
  | .metadataFetch => self.allowMetadataRpc
  | .backfill => self.allowBackfillRpc
  | .reconciliation => self.allowReconciliationRpc
  | .confirmation | .transactionStatus => self.allowConfirmationRpc
  | .blockhash => self.allowBlockhashRpc
  | .transactionSend | .simulation => self.allowExecutionRpc && self.allowSendRpc
  | .emergency => self.allowEmergencyRpc
  | .devTest => false
  | .unknown => !self.failOnUnbudgetedRpc

/-- The `allow_*` flags. -/
def allowFlags (self : StreamOnlyConfig) : List Bool :=
  [self.allowTrackingRpc, self.allowHolderRpc, self.allowTopHolderRpc, self.allowMetadataRpc,
    self.allowBackfillRpc, self.allowReconciliationRpc, self.allowConfirmationRpc,
    self.allowBlockhashRpc, self.allowExecutionRpc, self.allowSendRpc, self.allowEmergencyRpc]

end StreamOnlyConfig

/-! ## Manager -/

structure RpcBudgetManager where
  config : RpcBudgetConfig
  streamOnly : StreamOnlyConfig
  dailyUsed : ℕ := 0
  monthlyUsed : ℕ := 0
  perMethodUsed : KeyedMap String ℕ := ∅
  ledger : List RpcLedgerEntry := []
  knownBudgetState : Bool := true

namespace RpcBudgetManager

def new (config : RpcBudgetConfig) (streamOnly : StreamOnlyConfig) : RpcBudgetManager :=
  { config := config, streamOnly := streamOnly }

def markBudgetStateUnknown (self : RpcBudgetManager) : RpcBudgetManager :=
  { self with knownBudgetState := false }

/-- `RpcBudgetManager::stream_only_denial_reason`. -/
def streamOnlyDenialReason (self : RpcBudgetManager) (request : RpcCallRequest) :
    Option String :=
  if ¬ self.streamOnly.enabled ∨ request.networkKind.isStream ∨
      self.streamOnly.allows request.category then none
  else
    some ("stream-only policy " ++ self.streamOnly.policy.name ++ " forbids " ++ request.method ++
      " (" ++ request.category.name ++ ")")

/-- `RpcBudgetManager::record_denial`. -/
def recordDenial (self : RpcBudgetManager) (request : RpcCallRequest) (reason : String) :
    RpcBudgetManager :=
  { self with
    ledger := self.ledger ++
      [{ request := request
         allowed := false
         denied := true
         budgetRemaining := self.config.dailyCreditLimit - self.dailyUsed
         denialReason := some reason
         streamOnlyEnabled := self.streamOnly.enabled
         networkTouched := false }] }

/-- The entry of an allowed request. -/
def allowedEntry (self : RpcBudgetManager) (request : RpcCallRequest) (budgetRemaining : ℕ) :
    RpcLedgerEntry :=
  { request := request
    allowed := true
    denied := false
    budgetRemaining := budgetRemaining
    denialReason := none
    streamOnlyEnabled := self.streamOnly.enabled
    networkTouched := false }

/-- `daily_used.saturating_add(estimated_provider_credit_cost)`. -/
def nextDailyUsed (self : RpcBudgetManager) (request : RpcCallRequest) : ℕ :=
  saturatingAdd self.dailyUsed request.estimatedProviderCreditCost

def nextMonthlyUsed (self : RpcBudgetManager) (request : RpcCallRequest) : ℕ :=
  saturatingAdd self.monthlyUsed request.estimatedProviderCreditCost

def nextMethodTotal (self : RpcBudgetManager) (request : RpcCallRequest) : ℕ :=
  saturatingAdd ((self.perMethodUsed.lookup request.method).getD 0)
    request.estimatedProviderCreditCost

/-- The request is charged to the three counters. -/
def charge (self : RpcBudgetManager) (request : RpcCallRequest) : RpcBudgetManager :=
  let remainingAfter := self.config.dailyCreditLimit - self.nextDailyUsed request
  { self with
    dailyUsed := self.nextDailyUsed request
    monthlyUsed := self.nextMonthlyUsed request
    perMethodUsed := self.perMethodUsed.insert request.method (self.nextMethodTotal request)
    ledger := self.ledger ++ [self.allowedEntry request remainingAfter] }

/-- `RpcBudgetManager::check_and_record`. -/
def checkAndRecord (self : RpcBudgetManager) (request : RpcCallRequest) :
    RpcBudgetManager × Except RpcBudgetError RpcLedgerEntry :=
  match self.streamOnlyDenialReason request with
  | some reason =>
    (self.recordDenial request reason, .error (.streamOnlyDenied request.category reason))
  | none =>
    if request.liveMode ∧ self.config.denyWhenUnknownLiveState ∧ ¬ self.knownBudgetState then
      (self.recordDenial request "unknown budget state while live mode is fail-closed",
        .error .unknownBudgetState)
    else if request.liveMode ∧ ¬ request.reason.allowedInLive then
      (self.recordDenial request
          ("reason " ++ request.reason.name ++ " is not allowed in live mode"),
        .error (.reasonNotAllowed request.reason))
    else if request.networkKind.isStream then
      let entry := self.allowedEntry request (self.config.dailyCreditLimit - self.dailyUsed)
      ({ self with ledger := self.ledger ++ [entry] }, .ok entry)
    else if self.config.dailyCreditLimit < self.nextDailyUsed request then
      (self.recordDenial request "daily budget exceeded", .error .dailyBudgetExceeded)
    else if self.config.monthlyCreditLimit < self.nextMonthlyUsed request then
      (self.recordDenial request "monthly budget exceeded", .error .monthlyBudgetExceeded)
    else if (self.config.perMethodLimits.lookup request.method).any
        (· < self.nextMethodTotal request) then
      (self.recordDenial request ("per-method budget exceeded for " ++ request.method),
        .error (.perMethodBudgetExceeded request.method))
    else
      let remainingAfter := self.config.dailyCreditLimit - self.nextDailyUsed request
      if remainingAfter < self.config.emergencyReserve then
        (self.recordDenial request "emergency reserve would be breached",
          .error .emergencyReserveBreached)
      else (self.charge request, .ok (self.allowedEntry request remainingAfter))

end RpcBudgetManager

/-! ## Summary -/

structure RpcBudgetSummary where
  liveEnabled : Bool
  streamOnlyEnabled : Bool
  streamOnlyPolicy : StreamOnlyPolicy
  dailyUsed : ℕ
  dailyLimit : ℕ
  monthlyUsed : ℕ
  monthlyLimit : ℕ
  emergencyReserve : ℕ
  ledgerEntries : ℕ
  allowedEntries : ℕ
  deniedEntries : ℕ
  networkCallsTotal : ℕ
  marketDataRpcCallsAllowed : Bool
  holderRpcCallsAllowed : Bool
  metadataFetchAllowed : Bool
  confirmationRpcAllowed : Bool
  blockhashRpcAllowed : Bool
  rpcHotPathEnabled : Bool
  deriving DecidableEq, Repr

/-- `RpcBudgetManager::summary`. The flags of the execution and the RPC configuration, which
no check reads, are its arguments. -/
def RpcBudgetManager.summary (self : RpcBudgetManager) (liveEnabled hotPathEnabled : Bool) :
    RpcBudgetSummary where
  liveEnabled := liveEnabled
  streamOnlyEnabled := self.streamOnly.enabled
  streamOnlyPolicy := self.streamOnly.policy
  dailyUsed := self.dailyUsed
  dailyLimit := self.config.dailyCreditLimit
  monthlyUsed := self.monthlyUsed
  monthlyLimit := self.config.monthlyCreditLimit
  emergencyReserve := self.config.emergencyReserve
  ledgerEntries := self.ledger.length
  allowedEntries := self.ledger.countP RpcLedgerEntry.allowed
  deniedEntries := self.ledger.countP RpcLedgerEntry.denied
  networkCallsTotal := self.ledger.countP fun entry => entry.allowed && entry.networkTouched
  marketDataRpcCallsAllowed := self.streamOnly.allowTrackingRpc
  holderRpcCallsAllowed := self.streamOnly.allowHolderRpc
  metadataFetchAllowed := self.streamOnly.allowMetadataRpc
  confirmationRpcAllowed := self.streamOnly.allowConfirmationRpc
  blockhashRpcAllowed := self.streamOnly.allowBlockhashRpc
  rpcHotPathEnabled := hotPathEnabled

end PumpLaunchTrader
