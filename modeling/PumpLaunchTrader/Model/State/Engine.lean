import PumpLaunchTrader.Model.State.Token

/-! # State engine (`state::StateEngine`)

Each handler is given twice: what it does to the token of the event, and what it does to
the engine around it. The source's `Result` never carries an error, so `applyEvent` returns
the new engine with the transitions of the event. -/

namespace PumpLaunchTrader

variable [IterationOrder]

def EventMeta.isTentative (info : EventMeta) : Bool := info.canonicality = .tentative

/-! ## Handlers on a token -/

namespace TokenState

/-- A tentative signature is filed as such; any other one becomes canonical. -/
def recordSignature (token : TokenState) (event : NormalizedEvent) : TokenState :=
  match event.signature with
  | some signature =>
    if event.info.isTentative then
      { token with tentativeSignatures := insert signature token.tentativeSignatures }
    else
      { token with
        canonicalSignatures := insert signature token.canonicalSignatures
        tentativeSignatures := token.tentativeSignatures.erase signature
        tentativeOnly := false }
  | none => token

def renewExpiry (token : TokenState) (event : NormalizedEvent) (ttl : TtlConfig) : TokenState :=
  { token with
    expiresAt := some (event.info.receivedAtWallTime + ttlForConfig ttl token.lifecycle) }

def applyTokenCreated (token : TokenState) (payload : TokenCreatedEvent)
    (event : NormalizedEvent) (ttl : TtlConfig) : TokenState :=
  { token with
    tokenProgram := payload.tokenProgram
    quoteMint := some payload.quoteMint
    quoteAssetType := payload.quoteAssetType
    creator := some payload.creatorWallet
    payer := some payload.payer
    bondingCurve := some payload.bondingCurveAccount
    associatedBondingCurve := payload.associatedBondingCurveAccount
    metadata := payload.metadataAccount
    name := payload.name
    symbol := payload.symbol
    uri := payload.uri
    createInstructionVariant := payload.createInstructionVariant
    launchTransactionFingerprint := payload.launchTransactionFingerprint
    launchSameTransactionBuys := payload.sameTransactionBuys
    launchSameSlotBuys := payload.sameSlotBuys
    launchSlot := some (token.launchSlot.getD event.info.slot)
    launchTime := some (token.launchTime.getD event.info.receivedAtWallTime)
    reserveState := { token.reserveState with
      quoteAssetType := payload.quoteAssetType
      launchPrice := some (token.reserveState.launchPrice.getD 0) } }
    |>.renewExpiry event ttl
    |>.recordSignature event
    |>.updateMemoryBytes

/-- The updates that a buy and a sell make alike: price, statistics and cost basis. -/
def applyTrade (token : TokenState) (owner : PubkeyValue) (observation : TradeObservation) :
    TokenState :=
  { token with
    latestPrice := observation.price
    tradeStats := token.tradeStats.recordTrade observation
    holderState := token.holderState.applyTradeCostBasis owner (observation.side = .buy)
      observation.quote observation.tokens observation.timestamp observation.price }

def applyBuy (token : TokenState) (payload : PumpBuyEvent) (event : NormalizedEvent)
    (observation : TradeObservation) (ttl : TtlConfig) : TokenState :=
  let isCreator : Bool := payload.isCreator ∨ token.creator = some payload.buyer
  let token := (token.recordSignature event).applyTrade payload.buyer
    { observation with isCreator := isCreator }
  let developer := token.developerState
  { token with
    developerState :=
      if isCreator then
        { developer with
          creatorInitialHolding :=
            max developer.creatorInitialHolding (developer.creatorNetTokens + payload.tokenOut)
          creatorNetTokens := developer.creatorNetTokens + payload.tokenOut
          creatorNetQuoteFlow := developer.creatorNetQuoteFlow - payload.quoteIn }
      else developer }
    |>.renewExpiry event ttl
    |>.updateMemoryBytes

def applySell (token : TokenState) (payload : PumpSellEvent) (event : NormalizedEvent)
    (observation : TradeObservation) (ttl : TtlConfig) : TokenState :=
  let isCreator : Bool := payload.isCreator ∨ token.creator = some payload.seller
  let token := (token.recordSignature event).applyTrade payload.seller
    { observation with isCreator := isCreator }
  let developer := token.developerState
  { token with
    developerState :=
      if isCreator then
        { developer with
          creatorFirstSellTime :=
            some (developer.creatorFirstSellTime.getD event.info.receivedAtWallTime)
          creatorInitialHolding :=
            max developer.creatorInitialHolding developer.creatorNetTokens
          creatorNetTokens := developer.creatorNetTokens - payload.tokenIn
          creatorNetQuoteFlow := developer.creatorNetQuoteFlow + payload.quoteOut }
      else developer }
    |>.renewExpiry event ttl
    |>.updateMemoryBytes

def applyCurveUpdate (token : TokenState) (payload : BondingCurveUpdateEvent)
    (event : NormalizedEvent) : TokenState :=
  let (reserveState, accepted) := token.reserveState.applyUpdate payload event.info.slot
  if accepted then
    { token with
      reserveState :=
        { reserveState with lastUpdatedAt := some event.info.receivedAtWallTime }
      latestPrice := payload.price }
      |>.updateMemoryBytes
  else token

/-- The developer holdings after a holder update: those of the creator's own account. -/
def holderUpdateDeveloper (token : TokenState) (payload : HolderBalanceUpdateEvent) :
    DeveloperState :=
  let developer := token.developerState
  if token.creator = some payload.ownerWallet then
    { developer with
      creatorNetTokens := payload.newBalance
      creatorInitialHolding := max developer.creatorInitialHolding payload.newBalance }
  else developer

def applyHolderUpdate (token : TokenState) (payload : HolderBalanceUpdateEvent)
    (event : NormalizedEvent) : TokenState :=
  { token with
    holderState := token.holderState.applyBalanceUpdate payload event
      (payload.tokenDecimals.getD token.reserveState.tokenDecimals)
    developerState := token.holderUpdateDeveloper payload }
    |>.recalcDeveloperRank
    |>.updateMemoryBytes

def u64Max : ℕ := 2 ^ 64 - 1

def applyTentativeSellIntent (token : TokenState)
    (payload : TentativeSellIntentDetectedEvent) : TokenState :=
  let tracking : TentativeSellTracking :=
    { eventId := payload.eventId.uuid
      source := payload.source
      signature := payload.signature
      sellerWallet := payload.sellerWallet.text
      sellerClassification := parseSellerClassification payload.walletClassificationSnapshot
      confirmationState := payload.confirmationState
      warningLevel := .info
      confidence := min payload.decodedInstructionConfidence payload.accountDecodeConfidence
      estimatedImpactPct := payload.estimatedPriceImpactPct
      estimatedClusterImpactPct := payload.estimatedClusterHoldingPct
      warningPrice := payload.estimatedPriceBefore
      observedAt := payload.receivedAtWallTime
      expiresAt := some (payload.receivedAtWallTime + Duration.milliseconds 5000)
      matchedCanonicalSignature := payload.matchedCanonicalSignature }
  let defense := token.shredDefense
  let countWindow := min (defense.tentativeSellCountWindow + 1) u64Max
  let confidenceMax := max defense.tentativeSellConfidenceMax payload.decodedInstructionConfidence
  { token with
    shredDefense := { defense with
      pendingTentativeSells := defense.pendingTentativeSells.insert tracking.eventId tracking
      tentativeSellCountWindow := countWindow
      tentativeSellVolumeQuoteWindow :=
        defense.tentativeSellVolumeQuoteWindow + payload.quoteOutEstimate
      tentativeSellImpactMaxPct :=
        max defense.tentativeSellImpactMaxPct payload.estimatedPriceImpactPct
      tentativeSellImpactSumPct :=
        defense.tentativeSellImpactSumPct + payload.estimatedPriceImpactPct
      tentativeSellConfidenceMax := confidenceMax
      tentativeSellConfidenceMean := averageDecimal defense.tentativeSellConfidenceMean
        payload.decodedInstructionConfidence countWindow
      preconfirmationExitConfidence := confidenceMax
      lastConfirmationLevel := some payload.confirmationState } }
    |>.updateMemoryBytes

/-- The per-class counters of a warning. -/
def countWarningClass (defense : ShredDefenseState) :
    DangerousSellerClassification → ShredDefenseState
  | .dev | .devCluster =>
    { defense with tentativeSellFromDevCount := defense.tentativeSellFromDevCount + 1 }
  | .top1Holder | .top3Holder | .top5Holder | .top10Holder =>
    { defense with
      tentativeSellFromTopHolderCount := defense.tentativeSellFromTopHolderCount + 1 }
  | .bundleWallet | .bundleCluster =>
    { defense with tentativeSellFromBundleCount := defense.tentativeSellFromBundleCount + 1 }
  | .whale =>
    { defense with tentativeSellFromWhaleCount := defense.tentativeSellFromWhaleCount + 1 }
  | _ => defense

def applyTentativeSellWarning (token : TokenState)
    (payload : TentativeMaliciousSellWarningEvent) : TokenState :=
  let defense := { token.shredDefense with
    lastWarningLevel := some payload.riskLevel
    lastWarningReasonCodes := payload.reasonCodes
    activeWarningEventId := some payload.triggerEventId.uuid
    activeDangerousSeller := some payload.sellerWallet.text
    activeSellerClassification := some payload.sellerClassification
    maliciousSellIntentScore :=
      clamp01Decimal (payload.estimatedSellImpactPct / 100 + payload.confidence / 2)
    preconfirmationExitConfidence := payload.confidence
    earlyIntentLatencyAdvantageMs := payload.sourceLatencyAdvantageMs
    requiredLatencyAdvantageMs := payload.requiredLatencyAdvantageMs
    latencyEdgeRatio := payload.latencyEdgeRatio
    exitCanLandBeforeEstimatedImpact := payload.exitCanLandBeforeEstimatedImpact
    absorptionHealthScore := payload.absorptionHealthScore
    postSellAbsorptionProbability := payload.postSellAbsorptionProbability
    emergencyExitExpectedSavedLoss := payload.emergencyExitExpectedSavedLoss
    emergencyExitExpectedOpportunityCost := payload.emergencyExitExpectedOpportunityCost
    emergencyExitNetBenefit := payload.emergencyExitNetBenefit
    emergencyExitNetBenefitConfidence := payload.emergencyExitNetBenefitConfidence
    shredSignalStaleFlag := !payload.exitCanLandBeforeEstimatedImpact }
  let defense := countWarningClass defense payload.sellerClassification
  let sameSlot := defense.tentativeSellSameSlotClusterCount
  { token with
    shredDefense := { defense with
      tentativeSellSameSlotClusterCount :=
        if ReasonCode.shredSameSlotSellCluster ∈ payload.reasonCodes then sameSlot + 1
        else sameSlot } }
    |>.updateMemoryBytes

def applyShredExitArmed (token : TokenState) (payload : ShredEmergencyExitArmedEvent) :
    TokenState :=
  { token with
    shredDefense := { token.shredDefense with
      shredExitArmedFlag := true
      activeArmedExitEventId := some payload.triggerEventId.uuid
      activeDangerousSeller := some payload.sellerWallet.text
      activeSellerClassification := some payload.sellerClassification
      lastWarningLevel := some payload.riskLevel } }
    |>.updateMemoryBytes

def applyShredExitTriggered (token : TokenState) (payload : ShredEmergencyExitTriggeredEvent) :
    TokenState :=
  let pending := token.shredDefense.pendingTentativeSells
  { token with
    shredDefense := { token.shredDefense with
      shredEmergencyExitTriggeredFlag := true
      activeTriggeredExitEventId := some payload.triggerEventId.uuid
      activeDangerousSeller := some payload.sellerWallet.text
      activeSellerClassification := some payload.sellerClassification
      shredSavedLossEstimate := payload.estimatedSavedLossVsWaitingForGeyser
      pendingTentativeSells := KeyedMap.adjust pending payload.triggerEventId.uuid fun tracking =>
        { tracking with
          paperExitTriggered := payload.paperAllowed
          warningLevel := .emergencyExitRequired } } }
    |>.updateMemoryBytes

/-- The outcome counters and latencies of a resolution. -/
def countResolution (defense : ShredDefenseState) (payload : ShredSellIntentResolvedEvent) :
    ShredDefenseState :=
  match payload.outcome with
  | .confirmedExecuted =>
    { defense with
      tentativeSellConfirmedTotal := defense.tentativeSellConfirmedTotal + 1
      shredSavedLossRealized :=
        defense.shredSavedLossRealized + payload.actualLossSavedIfExited
      shredToGeyserProcessedMs := payload.reconciliationLatencyMs }
  | .accountEffectsObserved =>
    { defense with
      tentativeSellConfirmedTotal := defense.tentativeSellConfirmedTotal + 1
      shredToAccountEffectConfirmationMs := payload.reconciliationLatencyMs }
  | .confirmedFailed =>
    { defense with tentativeSellFailedTotal := defense.tentativeSellFailedTotal + 1 }
  | .rootedExecuted =>
    { defense with
      tentativeSellConfirmedTotal := defense.tentativeSellConfirmedTotal + 1
      shredToRootedConfirmationMs := payload.reconciliationLatencyMs }
  | .notSeenWithinTtl =>
    { defense with tentativeSellNotSeenTotal := defense.tentativeSellNotSeenTotal + 1 }
  | .reorged => { defense with tentativeSellReorgedTotal := defense.tentativeSellReorgedTotal + 1 }
  | .decodeMismatch =>
    { defense with
      tentativeSellDecodeMismatchTotal := defense.tentativeSellDecodeMismatchTotal + 1 }

/-- The fields that every resolution resets, whichever tentative sell it resolves. -/
def clearActiveSignal (defense : ShredDefenseState) : ShredDefenseState :=
  { defense with
    shredExitArmedFlag := false
    activeArmedExitEventId := none
    activeWarningEventId := none
    activeTriggeredExitEventId := none
    activeDangerousSeller := none
    activeSellerClassification := none
    earlyIntentLatencyAdvantageMs := none
    requiredLatencyAdvantageMs := none
    latencyEdgeRatio := 0
    exitCanLandBeforeEstimatedImpact := false
    absorptionHealthScore := 0
    postSellAbsorptionProbability := 0
    emergencyExitExpectedSavedLoss := 0
    emergencyExitExpectedOpportunityCost := 0
    emergencyExitNetBenefit := 0
    emergencyExitNetBenefitConfidence := 0 }

def applyShredSellResolved (token : TokenState) (payload : ShredSellIntentResolvedEvent) :
    TokenState :=
  let opportunityCost : Decimal :=
    if payload.falsePositiveFlag then |payload.actualLossSavedIfExited| else 0
  let defense := countResolution { token.shredDefense with
    pendingTentativeSells :=
      token.shredDefense.pendingTentativeSells.erase payload.originalTentativeEventId.uuid
    lastConfirmationLevel := some payload.confirmationState
    lastResolutionOutcome := some payload.outcome } payload
  let defense :=
    if payload.falsePositiveFlag then
      { defense with
        tentativeSellFalsePositiveTotal := defense.tentativeSellFalsePositiveTotal + 1
        shredExitOpportunityCost := defense.shredExitOpportunityCost + opportunityCost }
    else defense
  { token with shredDefense := clearActiveSignal defense }
    |>.updateMemoryBytes

def applyTerminal (token : TokenState) (payload : TokenTerminalEvent) (event : NormalizedEvent)
    (ttl : TtlConfig) : TokenState :=
  let target := terminalLifecycle payload.variant
  (transitionToken token target (terminalVariantLabel payload.variant)
    event.info.receivedAtWallTime (ttlForConfig ttl target)).1

def applyDataGap (token : TokenState) (event : NormalizedEvent) (ttl : TtlConfig) : TokenState :=
  (transitionToken
    { token with dataQualityFlags := insert "data_gap" token.dataQualityFlags } .dataGap
    "data_gap" event.info.receivedAtWallTime (ttlForConfig ttl .dataGap)).1

/-- The lifecycle that the activity of a token calls for. -/
def activityTarget (token : TokenState) : TokenLifecycle :=
  let trades := token.tradeStats.buyCount + token.tradeStats.sellCount
  let holders := token.holderState.nonzeroHolderCount
  if token.lifecycle = .dataGap then .dataGap
  else if 4 ≤ trades ∨ 4 ≤ holders ∨ 3 ≤ token.tradeStats.uniqueBuyers.card then .activeDeep
  else if 2 ≤ trades ∨ 2 ≤ holders then .activeLight
  else if 1 ≤ trades then .firstPass
  else .discovered

/-- The lifecycles that activity does not move. -/
def isArchived (lifecycle : TokenLifecycle) : Bool :=
  lifecycle ∈ [.softDiscarded, .hardDiscarded, .rugArchive, .migrated, .completed]

/-- The step of `recompute_transitions` on the token of the event. -/
def recomputeTransition (token : TokenState) (event : NormalizedEvent) (ttl : TtlConfig) :
    TokenState × Option LifecycleTransition :=
  let target := token.activityTarget
  let (moved, transition) :=
    if isArchived token.lifecycle then (token, none)
    else transitionToken token target "activity_threshold" event.info.receivedAtWallTime
      (ttlForConfig ttl target)
  ((moved.renewExpiry event ttl).updateMemoryBytes, transition)

end TokenState

/-! ## Engine -/

structure CompactTokenSummary where
  mint : String
  lifecycle : TokenLifecycle
  latestPrice : Decimal
  holderCount : ℕ
  top1HolderPct : Decimal
  creatorSoldPct : Decimal
  canonicalTradeCount : ℕ
  reasonCodes : List ReasonCode
  deriving DecidableEq

structure StateEngine where
  ttl : TtlConfig
  tokens : KeyedMap String TokenState := ∅
  wallets : KeyedMap String WalletSummary := ∅
  fundingGraph : FundingGraph := {}
  clusterIndex : ClusterIndex := {}
  discardedSummaries : KeyedMap String CompactTokenSummary := ∅
  tentativeSignatures : KeyedMap String String := ∅
  observedTransactions : KeyedMap String ObservedTransactionSummary := ∅

namespace StateEngine

/-- `StateEngine::new`. -/
def new (ttl : TtlConfig) : StateEngine := { ttl := ttl }

/-- `StateEngine::token`. -/
def token (self : StateEngine) (mint : PubkeyValue) : Option TokenState :=
  self.tokens.lookup mint.text

/-- `entry(mint).or_insert_with(TokenState::new)` followed by an update of the entry. -/
def withToken (self : StateEngine) (mint : PubkeyValue) (source : EventSource)
    (f : TokenState → TokenState) : StateEngine :=
  { self with tokens := self.tokens.upsert mint.text (TokenState.new mint source) f }

/-- `StateEngine::touch_wallet`, followed by an update of the entry. -/
def touchWallet (self : StateEngine) (wallet : String) (timestamp : OffsetDateTime)
    (f : WalletSummary → WalletSummary) : StateEngine :=
  { self with
    wallets := self.wallets.upsert wallet { wallet := wallet } fun entry =>
      f { entry with
        firstSeen := some (entry.firstSeen.getD timestamp)
        lastSeen := some timestamp } }

/-- The engine's side of filing a signature: tentative ones are mapped to their mint. -/
def recordSignature (self : StateEngine) (mint : PubkeyValue) (event : NormalizedEvent) :
    StateEngine :=
  match event.signature with
  | some signature =>
    if event.info.isTentative then
      let recorded := ((self.tokens.lookup mint.text).map fun token => token.mint.text)
      { self with
        tentativeSignatures := self.tentativeSignatures.insert signature (recorded.getD mint.text) }
    else { self with tentativeSignatures := self.tentativeSignatures.erase signature }
  | none => self

def applyTokenCreated (self : StateEngine) (payload : TokenCreatedEvent)
    (event : NormalizedEvent) : StateEngine :=
  let engine := self.withToken payload.mint event.info.source fun token =>
    token.applyTokenCreated payload event self.ttl
  let engine := engine.recordSignature payload.mint event
  let engine := engine.touchWallet payload.creatorWallet.text event.info.receivedAtWallTime
    fun wallet => { wallet with creatorLaunches := wallet.creatorLaunches + 1 }
  if payload.creatorWallet.text ≠ payload.payer.text then
    { engine with
      clusterIndex :=
        engine.clusterIndex.recordSamePayer payload.creatorWallet.text payload.payer.text }
  else engine

/-- The decimals known for a mint. -/
def tokenDecimals (self : StateEngine) (mint : PubkeyValue) : UInt8 :=
  ((self.tokens.lookup mint.text).map fun token => token.reserveState.tokenDecimals).getD
    defaultPumpTokenDecimals

/-- The observed shape of the transaction of an event. -/
def txShape (self : StateEngine) (event : NormalizedEvent) :
    Option ObservedTransactionSummary :=
  event.signature.bind fun signature => self.observedTransactions.lookup signature

/-- The observation of a buy, before the creator flag is known. -/
def buyObservation (self : StateEngine) (payload : PumpBuyEvent) (event : NormalizedEvent) :
    TradeObservation :=
  let txShape := self.txShape event
  { timestamp := event.info.receivedAtWallTime
    slot := event.info.slot
    signature := event.signature
    side := .buy
    wallet := payload.buyer.text
    quote := payload.quoteIn
    tokens := payload.tokenOut
    price := (priceSolPerUiToken payload.quoteIn payload.tokenOut
      (self.tokenDecimals payload.mint)).getD payload.effectivePrice
    computeUnitLimit := payload.computeUnitLimit
    computeUnitPrice := payload.computeUnitPrice
    priorityFeeLamports := payload.estimatedPriorityFeeLamports
    baseFeeLamports := payload.estimatedBaseFeeLamports
    accountCount := txShape.map (·.accountCount)
    instructionCount := txShape.map (·.instructionCount)
    programCount := txShape.map (·.programIds.length)
    clientFingerprint :=
      tradeClientFingerprint payload.computeUnitLimit payload.computeUnitPrice txShape
    isCreator := false
    isTopHolderPreSell := false
    isTentative := event.info.isTentative }

def applyBuy (self : StateEngine) (payload : PumpBuyEvent) (event : NormalizedEvent) :
    StateEngine :=
  let observation := self.buyObservation payload event
  self.withToken payload.mint event.info.source (fun token =>
      token.applyBuy payload event observation self.ttl)
    |>.recordSignature payload.mint event
    |>.touchWallet payload.buyer.text event.info.receivedAtWallTime fun wallet =>
      { wallet with
        tokensBought := wallet.tokensBought.upsert payload.mint.text 0 (· + payload.tokenOut) }

/-- The observation of a sell, before the creator flag is known. -/
def sellObservation (self : StateEngine) (payload : PumpSellEvent) (event : NormalizedEvent) :
    TradeObservation :=
  let txShape := self.txShape event
  { timestamp := event.info.receivedAtWallTime
    slot := event.info.slot
    signature := event.signature
    side := .sell
    wallet := payload.seller.text
    quote := payload.quoteOut
    tokens := payload.tokenIn
    price := (priceSolPerUiToken payload.quoteOut payload.tokenIn
      (self.tokenDecimals payload.mint)).getD payload.effectivePrice
    computeUnitLimit := payload.computeUnitLimit
    computeUnitPrice := payload.computeUnitPrice
    priorityFeeLamports := payload.estimatedPriorityFeeLamports
    baseFeeLamports := payload.estimatedBaseFeeLamports
    accountCount := txShape.map (·.accountCount)
    instructionCount := txShape.map (·.instructionCount)
    programCount := txShape.map (·.programIds.length)
    clientFingerprint :=
      tradeClientFingerprint payload.computeUnitLimit payload.computeUnitPrice txShape
    isCreator := false
    isTopHolderPreSell := payload.isTopHolderPreSell
    isTentative := event.info.isTentative }

def applySell (self : StateEngine) (payload : PumpSellEvent) (event : NormalizedEvent) :
    StateEngine :=
  let observation := self.sellObservation payload event
  self.withToken payload.mint event.info.source (fun token =>
      token.applySell payload event observation self.ttl)
    |>.recordSignature payload.mint event
    |>.touchWallet payload.seller.text event.info.receivedAtWallTime fun wallet =>
      { wallet with
        tokensSold := wallet.tokensSold.upsert payload.mint.text 0 (· + payload.tokenIn) }

def applyCurveUpdate (self : StateEngine) (payload : BondingCurveUpdateEvent)
    (event : NormalizedEvent) : StateEngine :=
  self.withToken payload.mint event.info.source fun token => token.applyCurveUpdate payload event

def applyHolderUpdate (self : StateEngine) (payload : HolderBalanceUpdateEvent)
    (event : NormalizedEvent) : StateEngine :=
  self.withToken payload.mint event.info.source (fun token =>
      token.applyHolderUpdate payload event)
    |>.touchWallet payload.ownerWallet.text event.info.receivedAtWallTime id

def applyFunding (self : StateEngine) (payload : WalletFundingEvent) (event : NormalizedEvent) :
    StateEngine :=
  let (graph, related) := self.fundingGraph.apply payload event.info.receivedAtWallTime
  { self with
    fundingGraph := graph
    clusterIndex := related.foldl
      (fun index (pair : String × String) => index.recordSameFunder pair.1 pair.2)
      self.clusterIndex }
    |>.touchWallet payload.wallet.text event.info.receivedAtWallTime id
    |>.touchWallet payload.funder.text event.info.receivedAtWallTime id

def applyObservedTransaction (self : StateEngine) (payload : ObservedTransactionEvent)
    (event : NormalizedEvent) : StateEngine :=
  match event.signature with
  | none => self
  | some signature =>
    let summary : ObservedTransactionSummary :=
      { signature := signature
        slotHint := payload.slotHint
        entryIndex := payload.entryIndex
        txPositionEstimate := payload.txPositionEstimate
        programIds := payload.programIds
        accountCount := payload.accountCount
        instructionCount := payload.instructionCount
        rawPacketHash := payload.rawPacketHash
        firstSeenByShredNs := payload.firstSeenByShredNs
        decodeConfidence := payload.decodeConfidence }
    { self with observedTransactions := self.observedTransactions.insert signature summary }

def applyTentativeSellIntent (self : StateEngine) (payload : TentativeSellIntentDetectedEvent)
    (event : NormalizedEvent) : StateEngine :=
  self.withToken payload.mint event.info.source fun token =>
    token.applyTentativeSellIntent payload

def applyTentativeSellWarning (self : StateEngine)
    (payload : TentativeMaliciousSellWarningEvent) (event : NormalizedEvent) : StateEngine :=
  self.withToken payload.mint event.info.source fun token =>
    token.applyTentativeSellWarning payload

def applyShredExitArmed (self : StateEngine) (payload : ShredEmergencyExitArmedEvent)
    (event : NormalizedEvent) : StateEngine :=
  self.withToken payload.mint event.info.source fun token => token.applyShredExitArmed payload

def applyShredExitTriggered (self : StateEngine) (payload : ShredEmergencyExitTriggeredEvent)
    (event : NormalizedEvent) : StateEngine :=
  self.withToken payload.mint event.info.source fun token =>
    token.applyShredExitTriggered payload

def applyShredSellResolved (self : StateEngine) (payload : ShredSellIntentResolvedEvent)
    (event : NormalizedEvent) : StateEngine :=
  self.withToken payload.mint event.info.source fun token => token.applyShredSellResolved payload

def compactSummary (token : TokenState) (reasonCodes : List ReasonCode) : CompactTokenSummary :=
  { mint := token.mint.text
    lifecycle := token.lifecycle
    latestPrice := token.latestPrice
    holderCount := token.holderState.nonzeroHolderCount
    top1HolderPct := token.holderState.topHolderPct 1
    creatorSoldPct := token.developerState.creatorSellPercentage
    canonicalTradeCount := token.tradeStats.buyCount + token.tradeStats.sellCount
    reasonCodes := reasonCodes }

def applyTerminal (self : StateEngine) (payload : TokenTerminalEvent) (event : NormalizedEvent) :
    StateEngine :=
  match self.tokens.lookup payload.mint.text with
  | none => self
  | some token =>
    let moved := token.applyTerminal payload event self.ttl
    { self with
      tokens := self.tokens.insert payload.mint.text moved
      discardedSummaries := self.discardedSummaries.insert moved.mint.text
        (compactSummary moved payload.reasonCodes) }

def applyDataGap (self : StateEngine) (payload : DataGapEvent) (event : NormalizedEvent) :
    StateEngine :=
  { self with
    tokens := payload.affectedTokens.foldl
      (fun (tokens : KeyedMap String TokenState) mint =>
        tokens.adjust mint.text fun token => token.applyDataGap event self.ttl) self.tokens }

/-- The dispatch of `apply_event` on the payload. -/
def applyPayload (self : StateEngine) (event : NormalizedEvent) : StateEngine :=
  match event.payload with
  | .tokenCreated payload => self.applyTokenCreated payload event
  | .pumpBuy payload => self.applyBuy payload event
  | .pumpSell payload =>
    if event.info.isTentative then self else self.applySell payload event
  | .bondingCurveUpdate payload => self.applyCurveUpdate payload event
  | .holderBalanceUpdate payload => self.applyHolderUpdate payload event
  | .walletFunding payload => self.applyFunding payload event
  | .observedTransaction payload => self.applyObservedTransaction payload event
  | .tentativeSellIntentDetected payload => self.applyTentativeSellIntent payload event
  | .tentativeMaliciousSellWarning payload => self.applyTentativeSellWarning payload event
  | .shredEmergencyExitArmed payload => self.applyShredExitArmed payload event
  | .shredEmergencyExitTriggered payload => self.applyShredExitTriggered payload event
  | .shredSellIntentResolved payload => self.applyShredSellResolved payload event
  | .tokenTerminal payload => self.applyTerminal payload event
  | .dataGap payload => self.applyDataGap payload event
  | .tradeDecision _ | .simulatedFill _ | .liveFill _ => self

/-! ## Derived indices and transitions -/

/-- `event_updates_exit_threat_inputs`. -/
def eventUpdatesExitThreatInputs (event : NormalizedEvent) : Bool :=
  match event.payload with
  | .tokenCreated _ | .pumpBuy _ | .pumpSell _ | .bondingCurveUpdate _
  | .holderBalanceUpdate _ | .tokenTerminal _ | .dataGap _ => true
  | _ => false

/-- `StateEngine::cluster_affected_wallets`. -/
def clusterAffectedWallets (self : StateEngine) (event : NormalizedEvent) :
    Option (Finset String) :=
  match event.payload with
  | .tokenCreated payload =>
    some (({payload.creatorWallet.text, payload.payer.text} : Finset String).biUnion
      self.clusterIndex.relatedWallets)
  | .walletFunding payload =>
    some ((insert payload.wallet.text
      (self.fundingGraph.walletsForFunder payload.funder.text)).biUnion
        self.clusterIndex.relatedWallets)
  | _ => none

/-- `StateEngine::refresh_clusters_for_wallets`. -/
def refreshClustersForWallets (self : StateEngine) (affected : Finset String)
    (observedAt : OffsetDateTime) : StateEngine :=
  if affected = ∅ then self
  else
    { self with
      wallets := self.wallets.mapValues fun key summary =>
        if key ∈ affected then { summary with clusterId := self.clusterIndex.clusterIdFor key }
        else summary
      tokens := self.tokens.mapValues fun _ token =>
        if tokenTouchesAnyWallet token affected then
          refreshExitThreatIndex (refreshTokenClusterDerived token self.clusterIndex)
            self.clusterIndex observedAt
        else token }

/-- `StateEngine::refresh_clusters`, the full recompute. -/
def refreshClusters (self : StateEngine) : StateEngine :=
  { self with
    wallets := self.wallets.mapValues fun _ summary =>
      { summary with clusterId := self.clusterIndex.clusterIdFor summary.wallet }
    tokens := self.tokens.mapValues fun _ token =>
      refreshTokenClusterDerived token self.clusterIndex }

/-- The refresh of the token of an event that changes no cluster. -/
def refreshToken (self : StateEngine) (event : NormalizedEvent) (token : TokenState) :
    TokenState :=
  let token := refreshTokenClusterDerived token self.clusterIndex
  if eventUpdatesExitThreatInputs event then
    refreshExitThreatIndex token self.clusterIndex event.info.receivedAtWallTime
  else token

/-- `StateEngine::refresh_derived_indices_for_event`. -/
def refreshDerivedIndicesForEvent (self : StateEngine) (event : NormalizedEvent) :
    StateEngine :=
  match self.clusterAffectedWallets event with
  | some affected => self.refreshClustersForWallets affected event.info.receivedAtWallTime
  | none =>
    match event.mint with
    | none => self
    | some mint => { self with tokens := self.tokens.adjust mint.text (self.refreshToken event) }

/-- `StateEngine::recompute_transitions`. -/
def recomputeTransitions (self : StateEngine) (event : NormalizedEvent) :
    StateEngine × List LifecycleTransition :=
  match event.mint with
  | none => (self, [])
  | some mint =>
    match self.tokens.lookup mint.text with
    | none => (self, [])
    | some token =>
      let (moved, transition) := token.recomputeTransition event self.ttl
      ({ self with tokens := self.tokens.insert mint.text moved }, transition.toList)

/-- The effect of a reverted event: its signature is no longer tentative. -/
def forgetSignature (self : StateEngine) (event : NormalizedEvent) : StateEngine :=
  match event.signature with
  | some signature =>
    { self with tentativeSignatures := self.tentativeSignatures.erase signature }
  | none => self

/-- `StateEngine::apply_event`. -/
def applyEvent (self : StateEngine) (event : NormalizedEvent) :
    StateEngine × List LifecycleTransition :=
  if event.info.canonicality = .reverted then (self.forgetSignature event, [])
  else
    ((self.applyPayload event).refreshDerivedIndicesForEvent event).recomputeTransitions event

/-- Apply a sequence of events. -/
def applyEvents (self : StateEngine) (events : List NormalizedEvent) : StateEngine :=
  events.foldl (fun engine event => (engine.applyEvent event).1) self

end StateEngine

end PumpLaunchTrader
