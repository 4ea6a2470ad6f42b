import PumpLaunchTrader.Model.Math

/-! # Normalized events (`common::event`, `common::reason`)

The event vocabulary shared by every component. A record keeps the fields that the
modelled functions read or write. -/

namespace PumpLaunchTrader

/-! ## Identifiers -/

/-- `PubkeyValue(String)`: the text of a public key. -/
structure PubkeyValue where
  text : String
  deriving DecidableEq, Repr

theorem PubkeyValue.text_inj {a b : PubkeyValue} : a.text = b.text ↔ a = b := by
  cases a
  cases b
  simp

/-- `EventId(Uuid)`, by the text of its UUID. -/
structure EventId where
  uuid : String
  deriving DecidableEq, Repr

theorem EventId.eq_of_uuid {a b : EventId} (h : a.uuid = b.uuid) : a = b := by
  cases a
  cases b
  exact congrArg EventId.mk h

/-! ## Enumerations -/

inductive EventSource where
  | shredTentative | deshredTentative | geyserProcessed | geyserConfirmed | geyserRooted
  | replay
  deriving DecidableEq, Repr

inductive Canonicality where
  | tentative | processed | confirmed | rooted | reverted | unknown
  deriving DecidableEq, Repr

inductive TokenProgramType where
  | splToken | token2022 | unknown
  deriving DecidableEq, Repr

inductive QuoteAssetType where
  | nativeSol | wrappedSol | stable | other | unknown
  deriving DecidableEq, Repr

inductive TransactionStatus where
  | success | failed | unknown
  deriving DecidableEq, Repr

inductive TokenTerminalVariant where
  | discarded | softDiscarded | hardDiscarded | rugged | dead | migrated | trackingExpired
  | dataGap | manualStop | completed
  deriving DecidableEq, Repr

inductive TradeDecision where
  | ignore | watchLight | watchDeep | enterPaper | enterLive | hold | scaleOut | exit
  | emergencyExit | stopTracking
  deriving DecidableEq, Repr

inductive ExecutionSide where
  | buy | sell
  deriving DecidableEq, Repr

inductive GapSeverity where
  | low | medium | high | critical
  deriving DecidableEq, Repr

inductive DataGapType where
  | slotGap | transactionStreamGap | accountStreamGap | shredGap | reconnectGap
  deriving DecidableEq, Repr

inductive DataQualityFlag where
  | partialShred | geyserGap | shredGap | reorgObserved | missingWriteVersion
  | sourceDisagreement | unsupportedInstruction | staleAccount
  deriving DecidableEq, Repr

inductive EarlyIntentSource where
  | rawShred | deshredPreExecution | fixtureTentative | mockEarlyIntent | replayTentative
  deriving DecidableEq, Repr

inductive TentativeSellConfirmationState where
  | pendingTentative | geyserProcessedTxSeen | accountEffectsObserved | confirmedExecuted
  | confirmedFailed | rootedExecuted | notSeenWithinTtl | reorged | decodeMismatch
  deriving DecidableEq, Repr

inductive TentativeSellRiskLevel where
  | info | watch | exitArmed | emergencyExitRecommended | emergencyExitRequired
  deriving DecidableEq, Repr

inductive DangerousSellerClassification where
  | dev | devCluster | top1Holder | top3Holder | top5Holder | top10Holder | bundleWallet
  | bundleCluster | whale | smartWalletTakingProfit | toxicSniper | sameFunderCluster
  | sameClientFingerprintCluster | highPnlHolder | freeRollingHolder | unknown
  deriving DecidableEq, Repr

inductive TentativeSellResolutionOutcome where
  | confirmedExecuted | accountEffectsObserved | confirmedFailed | rootedExecuted
  | notSeenWithinTtl | reorged | decodeMismatch
  deriving DecidableEq, Repr

inductive ReasonCode where
  | unsupportedIdl | unsupportedInstruction | unsupportedQuoteAsset | dataGap
  | dataGapActive | staleCurve | staleHolderIndex | highBundleRisk | highRugRisk
  | highTopHolderRisk | highFakeMomentumRisk | highFeeDrag | highSlippage | liveDisabled
  | executionDisabled | killSwitchActive | malformedDecode | duplicateEventSuppressed
  | unknownRpcBudgetState | tentativeOnly | tentativeTimedOut | tentativeReverted
  | shredDecoderUnavailable | shredUnavailable | geyserUnavailable
  | canonicalQueueOverflow | tentativeQueueOverflow | priceCollapse70 | devSoldEarly
  | bundleConcentration | topHolderDump | noBuyGap | feeAdjustedEdgeTooLow
  | profitOverhangTooHigh | fundingGraphSuspicious | feeWarTooExpensive | hardDiscarded
  | softDiscarded | enterPaper | exitPaper | shredDevSellWarning
  | shredTopHolderSellWarning | shredBundleExitWarning | shredWhaleDumpWarning
  | shredSellImpactHigh | shredSameSlotSellCluster | shredExitArmed | shredEmergencyExit
  | shredFalsePositive | shredSavedLoss | shredSignalStale | shredLowConfidence
  | deshredPreExecutionSellWarning | earlyIntentSellWarning
  | geyserProcessedSellConfirmed | accountEffectSellConfirmed | rootedSellConfirmed
  | tentativeSellNotSeenWithinTtl | tentativeSellDecodeMismatch | tentativeSellReorged
  | tentativeSellConfirmedFailed | liveShredExitRejected | earlyIntentSourceUnavailable
  deriving DecidableEq, Repr

/-! ## Metadata -/

structure RawEventReference where
  sourceId : String
  cursor : Option String
  offset : Option ℕ
  deriving DecidableEq, Repr

structure EventMeta where
  eventId : EventId
  source : EventSource
  canonicality : Canonicality
  slot : ℕ
  observedAtMonotonicNs : ℕ := 0
  receivedAtWallTime : OffsetDateTime := unixEpoch
  signature : Option String := none
  transactionIndex : Option ℕ := none
  instructionIndex : Option ℕ := none
  accountPubkey : Option PubkeyValue := none
  accountWriteVersion : Option ℕ := none
  sourceLatencyMs : Option ℕ := none
  decodeConfidence : Decimal := 1
  dataQualityFlags : List DataQualityFlag := []
  rawReference : Option RawEventReference := none
  deriving DecidableEq, Repr

/-! ## Payloads -/

structure TokenCreatedEvent where
  mint : PubkeyValue
  tokenProgram : TokenProgramType
  quoteMint : PubkeyValue
  quoteAssetType : QuoteAssetType
  creatorWallet : PubkeyValue
  payer : PubkeyValue
  bondingCurveAccount : PubkeyValue
  associatedBondingCurveAccount : Option PubkeyValue
  metadataAccount : Option PubkeyValue
  name : String
  symbol : String
  uri : String
  createInstructionVariant : String
  sameTransactionBuys : ℕ
  sameSlotBuys : ℕ
  rawAccountList : List PubkeyValue := []
  launchTransactionFingerprint : Option String
  status : TransactionStatus := .unknown
  deriving DecidableEq, Repr

structure PumpBuyEvent where
  mint : PubkeyValue
  buyer : PubkeyValue
  payer : PubkeyValue := buyer
  quoteIn : Decimal
  tokenOut : Decimal
  effectivePrice : Decimal
  maxQuoteCost : Option Decimal := none
  computeUnitLimit : Option ℕ := none
  computeUnitPrice : Option ℕ := none
  estimatedPriorityFeeLamports : Option ℕ := none
  estimatedBaseFeeLamports : Option ℕ := none
  isCreator : Bool := false
  isFirstBuy : Bool := false
  status : TransactionStatus := .unknown
  deriving DecidableEq, Repr

structure PumpSellEvent where
  mint : PubkeyValue
  seller : PubkeyValue
  quoteOut : Decimal
  tokenIn : Decimal
  priceBefore : Option Decimal := none
  priceAfter : Option Decimal := none
  effectivePrice : Decimal
  minQuoteOutput : Option Decimal := none
  computeUnitLimit : Option ℕ := none
  computeUnitPrice : Option ℕ := none
  estimatedPriorityFeeLamports : Option ℕ := none
  estimatedBaseFeeLamports : Option ℕ := none
  isCreator : Bool := false
  isTopHolderPreSell : Bool := false
  status : TransactionStatus := .unknown
  deriving DecidableEq, Repr

structure BondingCurveUpdateEvent where
  mint : PubkeyValue
  virtualQuoteReserves : Decimal
  virtualTokenReserves : Decimal
  realQuoteReserves : Decimal
  realTokenReserves : Decimal
  tokenDecimals : Option UInt8 := none
  tokenTotalSupplyRaw : Option Decimal := none
  tokenTotalSupplyUi : Option Decimal := none
  tokenTotalSupplySource : Option String := none
  tokenTotalSupplyConfidence : Option String := none
  quoteMint : Option PubkeyValue := none
  creator : Option PubkeyValue := none
  reserveFieldSchema : Option String := none
  priceLamportsPerRawToken : Option Decimal := none
  priceSolPerToken : Option Decimal := none
  reservePriceSource : Option String := none
  reservePriceConfidence : Option Decimal := none
  price : Decimal
  marketCapQuote1b : Option Decimal := none
  marketCapQuoteTotalSupply : Option Decimal := none
  marketCapSource : Option String := none
  marketCapConfidence : Option Decimal := none
  marketCapProxy : Option Decimal := none
  curveCompleteFlag : Option Bool := none
  curveProgressPct : Option Decimal := none
  curveProgressSource : Option String := none
  curveProgressConfidence : Option Decimal := none
  curveCompletionPct : Option Decimal := none
  updateReason : String := ""
  causedBySignature : Option String := none
  accountWriteVersion : Option ℕ := none
  deriving DecidableEq, Repr

structure HolderBalanceUpdateEvent where
  mint : PubkeyValue
  ownerWallet : PubkeyValue
  tokenAccount : PubkeyValue
  tokenDecimals : Option UInt8 := none
  oldBalance : Option Decimal := none
  newBalance : Decimal
  delta : Decimal := 0
  causedBySignature : Option String := none
  updateReason : String := ""
  confidence : Decimal := 1
  deriving DecidableEq, Repr

structure WalletFundingEvent where
  wallet : PubkeyValue
  funder : PubkeyValue
  assetLabel : String := "SOL"
  amount : Decimal
  slot : ℕ := 0
  signature : String
  relationToLaunch : Option String := none
  nearLaunchRelation : Bool := false
  fundingGraphEdgeId : String := ""
  deriving DecidableEq, Repr

structure ObservedTransactionEvent where
  signatureHint : Option String
  slotHint : Option ℕ
  entryIndex : Option ℕ
  txPositionEstimate : Option ℕ
  signer : Option String := none
  programIds : List String
  accountCount : ℕ
  instructionCount : ℕ
  accountListHash : Option String := none
  instructionShapeHash : Option String := none
  computeUnitLimit : Option ℕ := none
  computeUnitPrice : Option ℕ := none
  estimatedPriorityFeeLamports : Option ℕ := none
  txFeeLamports : Option ℕ := none
  computeUnitsConsumed : Option ℕ := none
  preSolBalancesLamports : List ℕ := []
  postSolBalancesLamports : List ℕ := []
  failedTransaction : Bool := false
  errorCode : Option String := none
  bundleLikeEvidence : Option String := none
  rawPacketHash : String
  firstSeenByShredNs : ℕ
  decodeConfidence : Decimal
  deriving DecidableEq, Repr

structure TentativeSellIntentDetectedEvent where
  eventId : EventId
  source : EarlyIntentSource
  canonicality : Canonicality
  slot : Option ℕ
  entryIndex : Option ℕ
  shredIndex : Option ℕ
  txPositionEstimate : Option ℕ
  observedAtMonotonicNs : ℕ
  receivedAtWallTime : OffsetDateTime
  signature : Option String
  mint : PubkeyValue
  sellerWallet : PubkeyValue
  payerWallet : Option PubkeyValue
  tokenInEstimate : Decimal
  quoteOutEstimate : Decimal
  minQuoteOutput : Option Decimal
  sellInstructionVariant : String
  decodedInstructionConfidence : Decimal
  accountDecodeConfidence : Decimal
  walletClassificationSnapshot : String
  sellerBalanceBeforeEstimate : Decimal
  sellerHoldingPctEstimate : Decimal
  sellerCostBasisEstimate : Decimal
  sellerUnrealizedPnlEstimate : Decimal
  estimatedPriceBefore : Decimal
  estimatedPriceAfter : Decimal
  estimatedPriceImpactPct : Decimal
  estimatedCurveImpact : Decimal
  estimatedTopHolderRank : Option ℕ
  estimatedClusterId : Option String
  estimatedClusterHoldingPct : Decimal
  reasonCodes : List ReasonCode
  rawPacketHash : Option String
  rawEntryHash : Option String
  rawUpdateHash : Option String
  matchedCanonicalSignature : Option String
  confirmationState : TentativeSellConfirmationState
  deriving DecidableEq, Repr

structure TentativeMaliciousSellWarningEvent where
  mint : PubkeyValue
  sellerWallet : PubkeyValue
  sellerClassification : DangerousSellerClassification
  estimatedSellImpactPct : Decimal
  estimatedClusterSellImpactPct : Decimal
  riskLevel : TentativeSellRiskLevel
  confidence : Decimal
  reasonCodes : List ReasonCode
  sourceLatencyAdvantageMs : Option ℤ
  requiredLatencyAdvantageMs : Option ℤ
  latencyEdgeRatio : Decimal
  exitCanLandBeforeEstimatedImpact : Bool
  absorptionHealthScore : Decimal
  postSellAbsorptionProbability : Decimal
  emergencyExitExpectedSavedLoss : Decimal
  emergencyExitExpectedOpportunityCost : Decimal
  emergencyExitNetBenefit : Decimal
  emergencyExitNetBenefitConfidence : Decimal
  canonicality : Canonicality
  featureSnapshotHash : String
  riskSnapshotHash : String
  triggerEventId : EventId
  deriving DecidableEq, Repr

structure ShredEmergencyExitArmedEvent where
  mint : PubkeyValue
  positionId : String
  triggerEventId : EventId
  sellerWallet : PubkeyValue
  sellerClassification : DangerousSellerClassification
  riskLevel : TentativeSellRiskLevel
  estimatedImpactPct : Decimal
  confidence : Decimal
  plannedExitSize : Decimal
  plannedExitReason : String
  source : EarlyIntentSource
  expiresAt : OffsetDateTime
  cancelConditions : List String
  escalationConditions : List String
  deriving DecidableEq, Repr

structure ShredEmergencyExitTriggeredEvent where
  mint : PubkeyValue
  positionId : String
  triggerEventId : EventId
  decisionId : String
  sellerWallet : PubkeyValue
  sellerClassification : DangerousSellerClassification
  side : ExecutionSide
  exitSize : Decimal
  reasonCodes : List ReasonCode
  source : EarlyIntentSource
  confidence : Decimal
  liveAllowed : Bool
  paperAllowed : Bool
  expectedExitPrice : Decimal
  expectedFeeAdjustedExitValue : Decimal
  estimatedSavedLossVsWaitingForGeyser : Decimal
  deriving DecidableEq, Repr

structure ShredSellIntentResolvedEvent where
  originalTentativeEventId : EventId
  canonicalSignature : Option String
  outcome : TentativeSellResolutionOutcome
  observedCanonicalSlot : Option ℕ
  actualPriceImpactPct : Decimal
  actualQuoteOut : Decimal
  actualTokenIn : Decimal
  actualLossSavedIfExited : Decimal
  falsePositiveFlag : Bool
  missedExitFlag : Bool
  reconciliationLatencyMs : Option ℤ
  source : EarlyIntentSource
  mint : PubkeyValue
  sellerWallet : PubkeyValue
  sellerClassification : DangerousSellerClassification
  confirmationState : TentativeSellConfirmationState
  confirmationMethod : Option String
  deriving DecidableEq, Repr

structure TokenTerminalEvent where
  mint : PubkeyValue
  variant : TokenTerminalVariant
  reasonCodes : List ReasonCode
  deriving DecidableEq, Repr

structure TradeDecisionEvent where
  decisionId : String
  mint : PubkeyValue
  decision : TradeDecision
  strategy : String
  featureSnapshotHash : String
  scoreVector : List (String × Decimal)
  riskVector : List (String × Decimal)
  expectedNetEdgeQuote : Decimal
  expectedNetEdgePct : Decimal
  expectedEdgeConfidence : Decimal
  reasonCodes : List ReasonCode
  configHash : String
  strategyVersion : String
  dataQualityScore : Decimal
  noLookaheadTimestamp : OffsetDateTime
  deriving DecidableEq, Repr

structure FillEvent where
  mint : PubkeyValue
  side : ExecutionSide
  intendedTime : OffsetDateTime
  signalTime : OffsetDateTime
  sendTime : OffsetDateTime
  landingTime : Option OffsetDateTime
  confirmationTime : Option OffsetDateTime
  intendedSize : Decimal
  filledSize : Decimal
  fillPrice : Decimal
  notional : Decimal
  fees : Decimal
  slippage : Decimal
  priceImpact : Decimal
  failureReason : Option String
  transactionSignature : Option String
  confirmationSource : Option String
  entryDecisionId : Option String := none
  exitDecisionId : Option String := none
  strategy : Option String := none
  entryPrice : Option Decimal := none
  exitPrice : Option Decimal := none
  grossPnlQuote : Option Decimal := none
  netPnlQuote : Option Decimal := none
  baseFeeQuote : Option Decimal := none
  priorityFeeQuote : Option Decimal := none
  tipQuote : Option Decimal := none
  slippageCostQuote : Option Decimal := none
  curveImpactCostQuote : Option Decimal := none
  latencyCostQuote : Option Decimal := none
  failedTxCostQuote : Option Decimal := none
  holdTimeMs : Option ℤ := none
  maxAdverseExcursion : Option Decimal := none
  maxFavorableExcursion : Option Decimal := none
  exitReason : Option String := none
  exitClassification : Option String := none
  expectedEdgeQuote : Option Decimal := none
  actualRealizedEdgeQuote : Option Decimal := none
  edgeForecastErrorQuote : Option Decimal := none
  entryRiskScores : List (String × Decimal) := []
  exitRiskScores : List (String × Decimal) := []
  exitSource : Option String := none
  triggerEventId : Option String := none
  maliciousSellSignature : Option String := none
  maliciousSellSeller : Option String := none
  maliciousSellClassification : Option String := none
  estimatedLossSavedQuote : Option Decimal := none
  realizedLossSavedQuote : Option Decimal := none
  falsePositiveExit : Bool := false
  opportunityCostIfFalsePositive : Option Decimal := none
  earlyIntentToGeyserProcessedLatencyMs : Option ℤ := none
  earlyIntentToAccountEffectLatencyMs : Option ℤ := none
  earlyIntentToRootedLatencyMs : Option ℤ := none
  exitLatencyMs : Option ℤ := none
  deriving DecidableEq, Repr

structure DataGapEvent where
  gapType : DataGapType
  source : EventSource
  startSlot : ℕ
  endSlot : Option ℕ
  affectedTokens : List PubkeyValue
  severity : GapSeverity
  tradeAllowed : Bool
  recoveryAction : String
  deriving DecidableEq, Repr

inductive EventPayload where
  | tokenCreated (event : TokenCreatedEvent)
  | pumpBuy (event : PumpBuyEvent)
  | pumpSell (event : PumpSellEvent)
  | bondingCurveUpdate (event : BondingCurveUpdateEvent)
  | holderBalanceUpdate (event : HolderBalanceUpdateEvent)
  | walletFunding (event : WalletFundingEvent)
  | observedTransaction (event : ObservedTransactionEvent)
  | tentativeSellIntentDetected (event : TentativeSellIntentDetectedEvent)
  | tentativeMaliciousSellWarning (event : TentativeMaliciousSellWarningEvent)
  | shredEmergencyExitArmed (event : ShredEmergencyExitArmedEvent)
  | shredEmergencyExitTriggered (event : ShredEmergencyExitTriggeredEvent)
  | shredSellIntentResolved (event : ShredSellIntentResolvedEvent)
  | tokenTerminal (event : TokenTerminalEvent)
  | tradeDecision (event : TradeDecisionEvent)
  | simulatedFill (event : FillEvent)
  | liveFill (event : FillEvent)
  | dataGap (event : DataGapEvent)
  deriving DecidableEq, Repr

structure NormalizedEvent where
  info : EventMeta
  payload : EventPayload
  deriving DecidableEq, Repr

/-- The decisions on which an executor sells: `Exit | EmergencyExit`. -/
def TradeDecision.isExit : TradeDecision → Bool
  | .exit | .emergencyExit => true
  | _ => false

namespace NormalizedEvent

/-- `NormalizedEvent::signature`: the metadata's signature, else the payload's own. -/
def signature (event : NormalizedEvent) : Option String :=
  event.info.signature.orElse fun _ =>
    match event.payload with
    | .observedTransaction e => e.signatureHint
    | .walletFunding e => some e.signature
    | .tentativeSellIntentDetected e => e.signature
    | .shredSellIntentResolved e => e.canonicalSignature
    | _ => none

/-- `NormalizedEvent::mint`. -/
def mint (event : NormalizedEvent) : Option PubkeyValue :=
  match event.payload with
  | .tokenCreated e => some e.mint
  | .pumpBuy e => some e.mint
  | .pumpSell e => some e.mint
  | .bondingCurveUpdate e => some e.mint
  | .holderBalanceUpdate e => some e.mint
  | .tentativeSellIntentDetected e => some e.mint
  | .tentativeMaliciousSellWarning e => some e.mint
  | .shredEmergencyExitArmed e => some e.mint
  | .shredEmergencyExitTriggered e => some e.mint
  | .shredSellIntentResolved e => some e.mint
  | .tokenTerminal e => some e.mint
  | .tradeDecision e => some e.mint
  | .simulatedFill e => some e.mint
  | .liveFill e => some e.mint
  | .walletFunding _ | .observedTransaction _ | .dataGap _ => none

/-- `NormalizedEvent::is_replay_source_event`. -/
def isReplaySourceEvent (event : NormalizedEvent) : Bool :=
  match event.payload with
  | .tokenCreated _ | .pumpBuy _ | .pumpSell _ | .bondingCurveUpdate _
  | .holderBalanceUpdate _ | .walletFunding _ | .observedTransaction _ => true
  | .dataGap _ => event.info.source ≠ .replay
  | _ => false

/-- The event is a creation, a buy or a sell. -/
def isPumpEvent (event : NormalizedEvent) : Bool :=
  match event.payload with
  | .tokenCreated _ | .pumpBuy _ | .pumpSell _ => true
  | _ => false

end NormalizedEvent

end PumpLaunchTrader
