import PumpLaunchTrader.Model.Router
import Mathlib.Data.Prod.Lex

/-! # The counters of the router (`runtime::live_source`)

`MaterialHunterReaderStats` as far as the router task counts messages in it: by class and by
lane as it classifies and dispatches them, and by what becomes of those that got a route. -/

namespace PumpLaunchTrader

namespace MaterialUpdateClass

/-- `as_str`. -/
def asStr : MaterialUpdateClass → String
  | slotLiveness => "slot_or_liveness_reader_side"
  | pumpTokenCreated => "pump_token_created"
  | transactionTokenCreated => "transaction_token_created"
  | pumpTradeActiveMint => "pump_trade_active_mint"
  | pumpTradeUntrackedMint => "pump_trade_untracked_mint"
  | pumpTradeUnknownMint => "pump_trade_unknown_mint"
  | pumpTradeTombstonedMint => "pump_trade_tombstoned_mint"
  | transactionActiveMint => "transaction_active_mint"
  | transactionActiveAccount => "transaction_active_account"
  | transactionMappingHintOnly => "transaction_mapping_hint_only"
  | transactionUntrackedPump => "transaction_untracked_pump"
  | transactionAccountPinnedUnknown => "transaction_account_pinned_unknown"
  | transactionTombstonedMint => "transaction_tombstoned_mint"
  | transactionDuplicateSignature => "transaction_duplicate_signature"
  | tokenAccountChangeUntracked => "token_account_update_untracked"
  | holderOwnerChange => "holder_owner_change"
  | malformedOrUnknown => "malformed_or_unknown"
  | otherUntracked => "other_untracked"

def all : List MaterialUpdateClass :=
  [slotLiveness, pumpTokenCreated, transactionTokenCreated, pumpTradeActiveMint,
    pumpTradeUntrackedMint, pumpTradeUnknownMint, pumpTradeTombstonedMint,
    transactionActiveMint, transactionActiveAccount, transactionMappingHintOnly,
    transactionUntrackedPump, transactionAccountPinnedUnknown, transactionTombstonedMint,
    transactionDuplicateSignature, tokenAccountChangeUntracked, holderOwnerChange,
    malformedOrUnknown, otherUntracked]

theorem mem_all (updateClass : MaterialUpdateClass) : updateClass ∈ all := by
  cases updateClass <;> decide

end MaterialUpdateClass

inductive ProcessingLane where
  | criticalLaunch | mapping | vaultDelta | tradeDelta | holderDelta | activeMintGate
  | cheapCounter | deferredFeature | artifactEvent
  deriving DecidableEq, Repr

/-- `as_str`. -/
def ProcessingLane.asStr : ProcessingLane → String
  | criticalLaunch => "critical_launch"
  | mapping => "mapping"
  | vaultDelta => "vault_delta"
  | tradeDelta => "trade_delta"
  | holderDelta => "holder_delta"
  | activeMintGate => "active_mint_gate"
  | cheapCounter => "cheap_counter"
  | deferredFeature => "deferred_feature"
  | artifactEvent => "artifact_event"

/-- `FastClassifiedUpdate`, the fields that are counted. -/
structure FastClassifiedUpdate where
  updateClass : MaterialUpdateClass
  processingLane : ProcessingLane
  mint : Option String
  shouldDeepProcess : Bool
  shouldMarkDirty : Bool
  deriving DecidableEq, Repr

/-- `material_hunter_dispatch_for_class`: the lane, and whether an update of the class is
processed deep and marks features as dirty. -/
def dispatchForClass : MaterialUpdateClass → ProcessingLane × Bool × Bool
  | .pumpTokenCreated | .transactionTokenCreated => (.criticalLaunch, true, true)
  | .transactionMappingHintOnly => (.mapping, false, false)
  | .pumpTradeActiveMint | .transactionActiveMint => (.tradeDelta, true, true)
  | .transactionActiveAccount | .holderOwnerChange => (.holderDelta, true, true)
  | _ => (.cheapCounter, false, false)

/-- `material_hunter_fast_classify`. -/
def fastClassify (updateClass : MaterialUpdateClass) (mint : Option String) :
    FastClassifiedUpdate :=
  let dispatched := dispatchForClass updateClass
  { updateClass
    processingLane := dispatched.1
    mint
    shouldDeepProcess := dispatched.2.1
    shouldMarkDirty := dispatched.2.2 }

/-! ## Counters -/

/-- The key with the smallest count, of several the first. -/
def minCountKey (map : KeyedMap String ℕ) : Option String :=
  ((map.entries.map fun entry => toLex (entry.2, entry.1)).min?).map fun least => (ofLex least).2

/-- `increment_top_count`. -/
def incrementTopCount (map : KeyedMap String ℕ) (key : String) : KeyedMap String ℕ :=
  if trimText key = "" then map
  else
    let next := map.insert key (saturatingAdd ((map.lookup key).getD 0) 1)
    if 256 < next.entries.length then
      match minCountKey next with
      | some removeKey => next.erase removeKey
      | none => next
    else next

structure TopKeySummary where
  key : String
  count : ℕ
  deriving DecidableEq, Repr

/-- `top_key_summaries`: the keys with the largest counts, of equal counts the first keys. -/
def topKeySummaries (map : KeyedMap String ℕ) (limit : ℕ) : List TopKeySummary :=
  let rows := map.entries.map fun entry => ({ key := entry.1, count := entry.2 } : TopKeySummary)
  (rows.mergeSort fun left right =>
    decide (right.count < left.count ∨ left.count = right.count ∧ left.key ≤ right.key)).take limit

structure RouterStats where
  classifiedUpdateCountByClass : KeyedMap String ℕ := ∅
  processingLaneCount : KeyedMap String ℕ := ∅
  deepProcessedCountByClass : KeyedMap String ℕ := ∅
  cheapSkippedCountByClass : KeyedMap String ℕ := ∅
  mappingHintCount : ℕ := 0
  vaultDeltaCount : ℕ := 0
  tradeDeltaCount : ℕ := 0
  holderDeltaCount : ℕ := 0
  deferredFeatureCount : ℕ := 0
  topMintDeferredFeatureCounts : KeyedMap String ℕ := ∅
  topMintLaneCounts : KeyedMap String ℕ := ∅
  transactionSignatureSeenCount : ℕ := 0
  transactionDuplicateSignatureCount : ℕ := 0
  transactionDuplicateSignatureSkippedCount : ℕ := 0
  transactionPrefilterCount : ℕ := 0
  pumpTradeFastPrefilterCount : ℕ := 0
  routerUpdatesReceived : ℕ := 0
  routerUpdatesRouted : ℕ := 0
  routerFallbackCount : ℕ := 0
  activeMintTransactionCoalescedCount : ℕ := 0
  activeMintTransactionDegradedCount : ℕ := 0
  activeMintTransactionSkippedCount : ℕ := 0

/-- What the counters say after the prefilters, with the flags that keep an update from being
recorded and dispatched again, and the mint that the prefilters found. -/
structure PrefilterCounts where
  stats : RouterStats
  classificationRecorded : Bool := false
  moduleDispatched : Bool := false
  mint : Option String

namespace RouterStats

/-- `record_classification`. -/
def recordClassification (self : RouterStats) (classification : FastClassifiedUpdate) :
    RouterStats :=
  { self with
    classifiedUpdateCountByClass :=
      incrementTopCount self.classifiedUpdateCountByClass classification.updateClass.asStr
    processingLaneCount :=
      incrementTopCount self.processingLaneCount classification.processingLane.asStr }

/-- The counter of the lane. -/
def countLane (self : RouterStats) : ProcessingLane → RouterStats
  | .mapping => { self with mappingHintCount := saturatingAdd self.mappingHintCount 1 }
  | .vaultDelta => { self with vaultDeltaCount := saturatingAdd self.vaultDeltaCount 1 }
  | .tradeDelta => { self with tradeDeltaCount := saturatingAdd self.tradeDeltaCount 1 }
  | .holderDelta => { self with holderDeltaCount := saturatingAdd self.holderDeltaCount 1 }
  | .deferredFeature =>
    { self with deferredFeatureCount := saturatingAdd self.deferredFeatureCount 1 }
  | .criticalLaunch | .activeMintGate | .cheapCounter | .artifactEvent => self

/-- An update that marks features as dirty defers them. -/
def countDirty (self : RouterStats) (classification : FastClassifiedUpdate) : RouterStats :=
  if classification.shouldMarkDirty then
    { self with
      deferredFeatureCount := saturatingAdd self.deferredFeatureCount 1
      topMintDeferredFeatureCounts :=
        match classification.mint with
        | some mint => incrementTopCount self.topMintDeferredFeatureCounts mint
        | none => self.topMintDeferredFeatureCounts }
  else self

/-- `record_module_dispatch`. -/
def recordModuleDispatch (self : RouterStats) (classification : FastClassifiedUpdate) :
    RouterStats :=
  let name := classification.updateClass.asStr
  let processed :=
    if classification.shouldDeepProcess then
      { self with
        deepProcessedCountByClass := incrementTopCount self.deepProcessedCountByClass name }
    else
      { self with
        cheapSkippedCountByClass := incrementTopCount self.cheapSkippedCountByClass name }
  let counted := (processed.countLane classification.processingLane).countDirty classification
  { counted with
    topMintLaneCounts :=
      match classification.mint with
      | some mint =>
        incrementTopCount counted.topMintLaneCounts
          (classification.processingLane.asStr ++ ":" ++ mint)
      | none => counted.topMintLaneCounts }

/-- The signature of an update, and whether the router saw it before. -/
def countSignature (self : RouterStats) (signature : Option String) (duplicate : Bool) :
    RouterStats :=
  { self with
    transactionSignatureSeenCount :=
      if signature.isSome then saturatingAdd self.transactionSignatureSeenCount 1
      else self.transactionSignatureSeenCount
    transactionDuplicateSignatureCount :=
      if duplicate then saturatingAdd self.transactionDuplicateSignatureCount 1
      else self.transactionDuplicateSignatureCount }

/-- The counters along `RouterState.cascade`. -/
def countCascade (self : RouterStats) (state : RouterState) (update : SubscribeUpdate)
    (activeMints tombstonedMints : Finset String) (duplicate : Bool) : PrefilterCounts :=
  let transaction := prefilterTransactionUpdate update activeMints tombstonedMints
    state.tokenAccountToMint state.accountPartitionPins duplicate
  match prefilterPumpInstruction update activeMints tombstonedMints, duplicate, transaction with
  | _, true, some filtered =>
    let classification := fastClassify filtered.updateClass filtered.mint
    let counted := { self with
      transactionPrefilterCount := saturatingAdd self.transactionPrefilterCount 1
      transactionDuplicateSignatureSkippedCount :=
        saturatingAdd self.transactionDuplicateSignatureSkippedCount 1 }
    { stats := (counted.recordClassification classification).recordModuleDispatch classification
      mint := filtered.mint }
  | some filtered, _, _ =>
    let classification := fastClassify filtered.updateClass filtered.mint
    let counted := { self with
      pumpTradeFastPrefilterCount := saturatingAdd self.pumpTradeFastPrefilterCount 1 }
    let recorded := counted.recordClassification classification
    if filtered.decision = .deepProcess then
      { stats := recorded
        classificationRecorded := true
        mint := filtered.mint }
    else
      -- The skip records the classification a second time.
      { stats :=
          (recorded.recordClassification classification).recordModuleDispatch classification
        classificationRecorded := true
        mint := filtered.mint }
  | none, _, some filtered =>
    let classification := fastClassify filtered.updateClass filtered.mint
    let counted := { self with
      transactionPrefilterCount := saturatingAdd self.transactionPrefilterCount 1 }
    { stats := (counted.recordClassification classification).recordModuleDispatch classification
      classificationRecorded := true
      moduleDispatched := true
      mint := filtered.mint }
  | none, _, none => { stats := self, mint := update.mintHint }

/-- An update got a route. -/
def countRoute (self : RouterStats) (route : Route) : RouterStats :=
  { self with
    routerUpdatesReceived := saturatingAdd self.routerUpdatesReceived 1
    routerFallbackCount :=
      if route.fallback then saturatingAdd self.routerFallbackCount 1
      else self.routerFallbackCount }

end RouterStats

/-- The mint of a classification: that of the prefilters, or else that of the route. -/
def classifiedMint (mint : Option String) (route : Route) : Option String :=
  match mint with
  | some mint => some mint
  | none =>
    if "mint:".toList <+: route.label.toList then
      some (String.ofList (route.label.toList.drop 5))
    else none

namespace PrefilterCounts

/-- The counters along `RouterState.dispatch`, by the pressure decision and the outcome. -/
def countDispatch (self : PrefilterCounts) (route : Route)
    (updateClass : MaterialUpdateClass) (pressed : Option PressureDecision)
    (outcome : RouterOutcome) : RouterStats :=
  let received := self.stats.countRoute route
  match pressed with
  | some .coalesce =>
    { received with
      activeMintTransactionCoalescedCount :=
        saturatingAdd received.activeMintTransactionCoalescedCount 1
      activeMintTransactionSkippedCount :=
        saturatingAdd received.activeMintTransactionSkippedCount 1 }
  | some (.degrade _ _) =>
    { received with
      activeMintTransactionDegradedCount :=
        saturatingAdd received.activeMintTransactionDegradedCount 1
      activeMintTransactionSkippedCount :=
        saturatingAdd received.activeMintTransactionSkippedCount 1 }
  | _ =>
    let classification := fastClassify updateClass (classifiedMint self.mint route)
    let recorded :=
      if self.classificationRecorded then received
      else received.recordClassification classification
    let dispatched :=
      if self.moduleDispatched then recorded else recorded.recordModuleDispatch classification
    match outcome with
    | .sent _ _ =>
      { dispatched with
        routerUpdatesRouted := saturatingAdd dispatched.routerUpdatesRouted 1 }
    | _ => dispatched

end PrefilterCounts

/-- The counters along `RouterState.route`. -/
def RouterStats.countUpdate (self : RouterStats) (state : RouterState) (config : RouterConfig)
    (env : RouterEnv) (update : SubscribeUpdate) : RouterStats :=
  let observed := state.observe update
  let counted := (self.countSignature update.signatureHint observed.1).countCascade observed.2
    update state.relevance.activeMints state.relevance.tombstonedMints observed.1
  match observed.2.cascade update state.relevance.activeMints state.relevance.tombstonedMints
      observed.1 with
  | (.skipped _, _) => counted.stats
  | (.passed updateClass mint, next) =>
    let routed := partitionForUpdateWithAccountMap update config.workerPartitions
      next.tokenAccountToMint next.accountPartitionPins
    let noted := { next with
      accountPartitionPins := routed.2
      received := next.received + 1 }
    let pressed := noted.underPressure config env updateClass mint
    counted.countDispatch routed.1 updateClass pressed.1
      (next.dispatch config env update updateClass mint).1

/-- The router with its counters and the number of updates that it has handled. -/
structure CountedRouter where
  router : RouterState := {}
  stats : RouterStats := {}
  handled : ℕ := 0

/-- One input of the counted router. -/
def CountedRouter.step (config : RouterConfig) (self : CountedRouter) :
    RouterInput → CountedRouter
  | .hint hint =>
    { self with
      router := { self.router with relevance := self.router.relevance.applyHint hint } }
  | .update update env =>
    { router := (self.router.route config env update).2
      stats := self.stats.countUpdate self.router config env update
      handled := self.handled + 1 }

end PumpLaunchTrader
