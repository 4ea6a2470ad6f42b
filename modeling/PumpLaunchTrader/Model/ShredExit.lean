import PumpLaunchTrader.Model.Decision

/-! # Tentative sells (`runtime::shred_exit`)

`TentativeSellManager` tracks the tentative sells it has warned about until a canonical
event or their expiry resolves them, and adapts its exit threshold to the outcomes. The
stored calibration is read when the manager is created; its buckets are not modelled. -/

namespace PumpLaunchTrader

/-! ## Identifiers and labels -/

/-- The hyphenated text of a UUID. -/
def uuidText (bytes : List UInt8) : String :=
  let digits := (Sha256.hex bytes).toList
  let group : ℕ → ℕ → String := fun start size => String.ofList ((digits.drop start).take size)
  String.intercalate "-" [group 0 8, group 8 4, group 12 4, group 16 4, group 20 12]

/-- `EventId::from_seed`. -/
def EventId.fromSeed (seed : String) : EventId :=
  ⟨uuidText ((Sha256.digest seed.toUTF8.toList).take 16)⟩

def lowercase (text : String) : String :=
  String.ofList (text.toList.map Char.toLower)

/-- The `Debug` name of an event source. -/
def EventSource.name : EventSource → String
  | .shredTentative => "ShredTentative"
  | .deshredTentative => "DeshredTentative"
  | .geyserProcessed => "GeyserProcessed"
  | .geyserConfirmed => "GeyserConfirmed"
  | .geyserRooted => "GeyserRooted"
  | .replay => "Replay"

/-- The `Debug` name of an early-intent source. -/
def EarlyIntentSource.name : EarlyIntentSource → String
  | .rawShred => "RawShred"
  | .deshredPreExecution => "DeshredPreExecution"
  | .fixtureTentative => "FixtureTentative"
  | .mockEarlyIntent => "MockEarlyIntent"
  | .replayTentative => "ReplayTentative"

/-- The `Debug` name of a seller classification. -/
def DangerousSellerClassification.name : DangerousSellerClassification → String
  | .dev => "Dev"
  | .devCluster => "DevCluster"
  | .top1Holder => "Top1Holder"
  | .top3Holder => "Top3Holder"
  | .top5Holder => "Top5Holder"
  | .top10Holder => "Top10Holder"
  | .bundleWallet => "BundleWallet"
  | .bundleCluster => "BundleCluster"
  | .whale => "Whale"
  | .smartWalletTakingProfit => "SmartWalletTakingProfit"
  | .toxicSniper => "ToxicSniper"
  | .sameFunderCluster => "SameFunderCluster"
  | .sameClientFingerprintCluster => "SameClientFingerprintCluster"
  | .highPnlHolder => "HighPnlHolder"
  | .freeRollingHolder => "FreeRollingHolder"
  | .unknown => "Unknown"

/-- `source_label`. -/
def sourceLabel (source : EarlyIntentSource) : String := lowercase source.name

/-- `payload_kind`. -/
def payloadKind : EventPayload → String
  | .tokenCreated _ => "token_created"
  | .pumpBuy _ => "pump_buy"
  | .pumpSell _ => "pump_sell"
  | .bondingCurveUpdate _ => "bonding_curve_update"
  | .holderBalanceUpdate _ => "holder_balance_update"
  | .walletFunding _ => "wallet_funding"
  | .observedTransaction _ => "observed_transaction"
  | .tokenTerminal _ => "token_terminal"
  | .tradeDecision _ => "trade_decision"
  | .simulatedFill _ => "simulated_fill"
  | .liveFill _ => "live_fill"
  | .dataGap _ => "data_gap"
  | .tentativeSellIntentDetected _ => "tentative_sell_intent_detected"
  | .tentativeMaliciousSellWarning _ => "tentative_malicious_sell_warning"
  | .shredEmergencyExitArmed _ => "shred_emergency_exit_armed"
  | .shredEmergencyExitTriggered _ => "shred_emergency_exit_triggered"
  | .shredSellIntentResolved _ => "shred_sell_intent_resolved"

/-- `clone_with_payload`: the event's metadata under a derived id. -/
def cloneWithPayload (event : NormalizedEvent) (payload : EventPayload) : NormalizedEvent :=
  { info := { event.info with
      eventId := EventId.fromSeed ("derived-event|" ++ event.info.eventId.uuid ++ "|" ++
        payloadKind payload ++ "|" ++ event.info.source.name ++ "|" ++ toString event.info.slot) }
    payload := payload }

/-! ## Manager -/

structure ShredExitMetricsSummary where
  tentativeSellTotal : ℕ := 0
  maliciousSellWarningTotal : ℕ := 0
  emergencyExitsArmedTotal : ℕ := 0
  emergencyExitsTriggeredTotal : ℕ := 0
  confirmedExecutedTotal : ℕ := 0
  confirmedFailedTotal : ℕ := 0
  notSeenWithinTtlTotal : ℕ := 0
  reorgedTotal : ℕ := 0
  decodeMismatchTotal : ℕ := 0
  accountEffectConfirmedTotal : ℕ := 0
  falsePositiveExitTotal : ℕ := 0
  savedLossQuoteTotal : Decimal := 0
  opportunityCostQuoteTotal : Decimal := 0
  /-- Counted per source only. -/
  deduplicatedTotal : ℕ := 0
  deriving DecidableEq, Repr

structure ShredExitCalibrationSummary where
  currentPaperExitImpactPct : Decimal
  currentPaperConfidenceThreshold : Decimal
  falsePositiveRate : Decimal := 0
  missedSellRate : Decimal := 0
  truePositiveRate : Decimal := 0
  adaptations : List String := []
  deriving DecidableEq, Repr

structure PersistedShredExitCalibration where
  currentPaperExitImpactPct : Decimal
  currentPaperConfidenceThreshold : Decimal
  deriving DecidableEq, Repr

structure CalibrationObservation where
  key : String
  source : EarlyIntentSource
  sellerClassification : DangerousSellerClassification
  confirmationMethod : Option String
  confidenceBucket : String
  impactBucket : String
  outcome : TentativeSellResolutionOutcome
  emergencyExit : Bool
  falsePositive : Bool
  savedLossQuote : Decimal
  opportunityCostQuote : Decimal
  earlyToGeyserProcessedMs : Option ℤ
  earlyToAccountEffectMs : Option ℤ
  exitLatencyMs : Option ℤ
  strategy : Option String
  latencyAdvantageMs : Option ℤ
  requiredLatencyAdvantageMs : Option ℤ
  latencyEdgeRatio : Decimal
  netBenefitQuote : Decimal
  absorptionHealthScore : Decimal
  deriving DecidableEq, Repr

structure PendingSellContext where
  intent : TentativeSellIntentDetectedEvent
  warning : TentativeMaliciousSellWarningEvent
  armed : Option ShredEmergencyExitArmedEvent
  triggered : Option ShredEmergencyExitTriggeredEvent
  positionSizeTokens : Decimal
  positionSizeQuote : Decimal
  positionStrategy : Option String
  warningPrice : Decimal
  latencyAdvantageMs : ℤ
  requiredLatencyAdvantageMs : ℤ
  latencyEdgeRatio : Decimal
  netBenefitQuote : Decimal
  absorptionHealthScore : Decimal
  expiresAt : OffsetDateTime
  deriving DecidableEq, Repr

/-- An order in which a map of pending sells is iterated. The times and outcomes that a token
keeps are those of the sell that was resolved last. -/
class PendingOrder where
  arrange : KeyedMap String PendingSellContext →
    List (Sigma fun _ : String => PendingSellContext)
  perm : ∀ pending, (arrange pending).Perm pending.entries

/-- The order in which the sells were tracked, where no order is named. -/
instance trackingOrder : PendingOrder where
  arrange pending := pending.entries
  perm _ := List.Perm.refl _

structure TentativeSellManager where
  earlyIntent : EarlyIntentConfig
  shredExit : ShredExitConfig
  pending : KeyedMap String PendingSellContext := ∅
  metrics : ShredExitMetricsSummary := {}
  sourceMetrics : KeyedMap String ShredExitMetricsSummary := ∅
  calibration : ShredExitCalibrationSummary
  observations : List CalibrationObservation := []
  dedupPairs : KeyedMap String ℕ := ∅

/-! ## Assessing a sell -/

/-- `infer_early_intent_source`. -/
def inferEarlyIntentSource (event : NormalizedEvent) : EarlyIntentSource :=
  match event.info.source with
  | .replay => .replayTentative
  | .deshredTentative => .deshredPreExecution
  | .shredTentative =>
    let sourceId := ((event.info.rawReference.map RawEventReference.sourceId).getD "").toList
    if "mock".toList.isPrefixOf sourceId then .mockEarlyIntent
    else if "fixture".toList.isPrefixOf sourceId then .fixtureTentative
    else .rawShred
  | _ => .fixtureTentative

/-- `apply_partial_penalty`. -/
def applyPartialPenalty (confidence : Decimal) (event : NormalizedEvent) : Decimal :=
  if .partialShred ∈ event.info.dataQualityFlags then max (confidence - 25 / 100) 0
  else confidence

/-- `find_threat_entry`. -/
def findThreatEntry (token : TokenState) (seller : String) : Option ThreatWalletEntry :=
  token.shredDefense.exitThreatIndex.dangerousWallets.find? fun entry => entry.wallet = seller

/-- `top_holder_rank`, counted from 1. -/
def topHolderRank (token : TokenState) (seller : String) : Option ℕ :=
  (token.holderState.topHolders.findIdx? fun holder => holder.owner.text = seller).map (· + 1)

/-- `account_confidence_for_sell`. -/
def accountConfidenceForSell (token : TokenState) (payload : PumpSellEvent)
    (sellerEntry : Option ThreatWalletEntry) (sellerTopRank : Option ℕ) : Decimal :=
  if payload.isCreator ∨ token.creator = some payload.seller then 92 / 100
  else if payload.isTopHolderPreSell ∨ sellerTopRank.isSome then 85 / 100
  else
    match sellerEntry with
    | some entry => if 0 < entry.balance then 85 / 100 else 60 / 100
    | none => if 0 < payload.tokenIn ∧ 0 < payload.quoteOut then 60 / 100 else 55 / 100

/-- `classify_without_index`. -/
def classifyWithoutIndex (token : TokenState) (payload : PumpSellEvent) :
    DangerousSellerClassification :=
  if token.creator = some payload.seller ∨ payload.isCreator then .dev
  else if payload.isTopHolderPreSell then .top3Holder
  else .unknown

/-- `is_catastrophic_classification`. -/
def isCatastrophicClassification : DangerousSellerClassification → Bool
  | .dev | .devCluster | .top1Holder | .top3Holder | .bundleWallet | .bundleCluster
  | .sameFunderCluster => true
  | _ => false

/-- `price_impact_pct`. -/
def priceImpactPct (before after : Decimal) : Decimal :=
  if before ≤ 0 then 0 else |(before - after) / before| * 100

/-- `fallback_impact_pct`. -/
def fallbackImpactPct (token : TokenState) (payload : PumpSellEvent) : Decimal :=
  let depth := max token.reserveDepth 1
  let quote := max payload.quoteOut (payload.tokenIn * token.latestPrice)
  max (min (quote / depth) 1 * 100) 0

/-- The impact at which a class of sellers counts as an exit. -/
def classThreshold (config : ShredExitConfig) : DangerousSellerClassification → Decimal
  | .dev | .devCluster => config.devSellExitThresholdPct
  | .top1Holder | .top3Holder | .top5Holder | .top10Holder => config.topHolderExitThresholdPct
  | .bundleWallet | .bundleCluster => config.bundleClusterExitThresholdPct
  | .whale => config.armImpactPct
  | _ => config.warnImpactPct

/-- `determine_warning_level`. -/
def determineWarningLevel (classification : DangerousSellerClassification)
    (impactPct confidence calibratedPaperExitImpactPct : Decimal) (config : ShredExitConfig) :
    TentativeSellRiskLevel :=
  let threshold := classThreshold config classification
  if confidence < config.minDecodeConfidenceWarn then .info
  else if config.minDecodeConfidencePaperExit ≤ confidence ∧
      max calibratedPaperExitImpactPct threshold ≤ impactPct then .emergencyExitRequired
  else if config.minDecodeConfidenceArm ≤ confidence ∧
      max config.armImpactPct threshold ≤ impactPct then .exitArmed
  else if min config.warnImpactPct threshold ≤ impactPct then .watch
  else .info

/-- `warning_reason_codes`. -/
def warningReasonCodes (classification : DangerousSellerClassification)
    (warningLevel : TentativeSellRiskLevel) (source : EarlyIntentSource)
    (confidence : Decimal) : List ReasonCode :=
  [if source = .deshredPreExecution then .deshredPreExecutionSellWarning
    else .earlyIntentSellWarning] ++
  (match classification with
    | .dev | .devCluster => [.shredDevSellWarning]
    | .top1Holder | .top3Holder | .top5Holder | .top10Holder => [.shredTopHolderSellWarning]
    | .bundleWallet | .bundleCluster => [.shredBundleExitWarning]
    | .whale => [.shredWhaleDumpWarning]
    | _ => []) ++
  (if warningLevel.armsExit then [.shredExitArmed] else []) ++
  (if confidence < 55 / 100 then [.shredLowConfidence] else [])

/-- What `detect_tentative_sell` computes about a sell before it builds any event. -/
structure SellAssessment where
  source : EarlyIntentSource
  sellerEntry : Option ThreatWalletEntry
  sellerTopRank : Option ℕ
  classification : DangerousSellerClassification
  decodeConfidence : Decimal
  accountConfidence : Decimal
  sellerBalance : Decimal
  effectiveImpactPct : Decimal
  clusterImpactPct : Decimal
  latencyAdvantageMs : ℕ
  requiredLatencyMs : ℕ
  latencyEdgeRatio : Decimal
  latencyEdgeSufficient : Bool
  absorptionHealthScore : Decimal
  postSellAbsorptionProbability : Decimal
  estimatedSavedLossQuote : Decimal
  expectedOpportunityCostQuote : Decimal
  netBenefitPositive : Bool
  netBenefitConfidence : Decimal
  warningLevel : TentativeSellRiskLevel
  warningReasons : List ReasonCode

namespace SellAssessment

def confidence (self : SellAssessment) : Decimal :=
  min self.decodeConfidence self.accountConfidence

def netBenefitQuote (self : SellAssessment) : Decimal :=
  self.estimatedSavedLossQuote - self.expectedOpportunityCostQuote

end SellAssessment

def i64Max : ℕ := 2 ^ 63 - 1

/-- A `u64` capped to the range of an `i64`. -/
def cappedI64 (n : ℕ) : ℤ := (min n i64Max : ℕ)

namespace TentativeSellManager

/-- `TentativeSellManager::new`, with the stored calibration when it could be loaded. -/
def new (earlyIntent : EarlyIntentConfig) (shredExit : ShredExitConfig)
    (stored : Option PersistedShredExitCalibration) : TentativeSellManager :=
  let positiveOr : Option Decimal → Decimal → Decimal := fun value fallback =>
    (value.filter (0 < ·)).getD fallback
  { earlyIntent := earlyIntent
    shredExit := shredExit
    calibration :=
      { currentPaperExitImpactPct :=
          positiveOr (stored.map (·.currentPaperExitImpactPct)) shredExit.paperExitImpactPct
        currentPaperConfidenceThreshold :=
          positiveOr (stored.map (·.currentPaperConfidenceThreshold))
            shredExit.minDecodeConfidencePaperExit } }

def countSource (self : TentativeSellManager) (source : EarlyIntentSource)
    (f : ShredExitMetricsSummary → ShredExitMetricsSummary) : TentativeSellManager :=
  { self with sourceMetrics := self.sourceMetrics.upsert (sourceLabel source) {} f }

/-- The pending sells of the same mint in the same slot. -/
def sameSlotExisting (self : TentativeSellManager) (mint : PubkeyValue) (slot : ℕ) :
    List PendingSellContext :=
  self.pending.values.filter fun pending =>
    pending.intent.mint = mint ∧ pending.intent.slot = some slot

/-- The impact of a sell on its own: a share of the seller's full exit, or an estimate from
the depth, and no less than the decoded price move. -/
def estimatedImpactPct (token : TokenState) (payload : PumpSellEvent)
    (sellerEntry : Option ThreatWalletEntry) (sellerBalance : Decimal) : Decimal :=
  let decodedImpactPct :=
    match payload.priceBefore, payload.priceAfter with
    | some before, some after => priceImpactPct before after
    | _, _ => 0
  match sellerEntry with
  | some entry =>
    if 0 < sellerBalance then
      max (entry.estimatedFullExitImpactPct * min (payload.tokenIn / sellerBalance) 1)
        decodedImpactPct
    else max entry.estimatedFullExitImpactPct decodedImpactPct
  | none => max (fallbackImpactPct token payload) decodedImpactPct

/-- The first part of `detect_tentative_sell`. -/
def assessSell (self : TentativeSellManager) (event : NormalizedEvent) (payload : PumpSellEvent)
    (token : TokenState) (features : FeatureSnapshot) (position : Option OpenPositionContext) :
    SellAssessment :=
  let source := inferEarlyIntentSource event
  let sellerEntry := findThreatEntry token payload.seller.text
  let sellerTopRank := topHolderRank token payload.seller.text
  let classification :=
    (sellerEntry.map ThreatWalletEntry.classification).getD (classifyWithoutIndex token payload)
  let decodeConfidence := applyPartialPenalty event.info.decodeConfidence event
  let accountConfidence := accountConfidenceForSell token payload sellerEntry sellerTopRank
  let sellerBalance := (sellerEntry.map ThreatWalletEntry.balance).getD payload.tokenIn
  let sameSlot := self.sameSlotExisting payload.mint event.info.slot
  let effectiveImpactPct := min
    (estimatedImpactPct token payload sellerEntry sellerBalance +
      (sameSlot.map fun pending => pending.intent.estimatedPriceImpactPct).sum) 100
  let clusterImpactPct :=
    (sellerEntry.map fun entry => entry.clusterHoldingPct * 100).getD 0
  let catastrophic := isCatastrophicClassification classification
  let latencyAdvantageMs := event.info.sourceLatencyMs.getD 0
  let requiredLatencyMs :=
    max token.shredDefense.exitThreatIndex.requiredEarlyIntentLeadTimeMs 1
  let latencyEdgeRatio : Decimal := latencyAdvantageMs / requiredLatencyMs
  let latencyEdgeSufficient : Bool := self.shredExit.minLatencyEdgeRatio ≤ latencyEdgeRatio
  let positionSizeQuote := (position.map OpenPositionContext.sizeQuote).getD 0
  let absorptionHealthScore := features.decimalOrZero "absorption_success_score"
  let postSellAbsorptionProbability := clamp01
    (absorptionHealthScore + features.decimalOrZero "holder_stickiness_score" / 3 +
      features.decimalOrZero "holder_growth_rate" / 4)
  let impactSeverityMultiplier := max (min (effectiveImpactPct / 100) 1) 0
  let absorptionPreservationMultiplier :=
    if catastrophic = false ∧ self.shredExit.absorptionDowngradeEnabled then
      min (max (1 - absorptionHealthScore) (10 / 100)) 1
    else 1
  let estimatedSavedLossQuote :=
    if 0 < positionSizeQuote then
      positionSizeQuote * (effectiveImpactPct / 100) * max (min latencyEdgeRatio 1) 0 *
        impactSeverityMultiplier * absorptionPreservationMultiplier
    else 0
  let downgradeForAbsorption : Bool := catastrophic = false ∧
    self.shredExit.absorptionDowngradeEnabled ∧
    self.shredExit.absorptionDowngradeThreshold ≤ absorptionHealthScore
  let absorptionPenaltyQuote :=
    if downgradeForAbsorption then positionSizeQuote * absorptionHealthScore * (20 / 100) else 0
  let expectedOpportunityCostQuote :=
    if 0 < positionSizeQuote then
      positionSizeQuote * (self.calibration.currentPaperExitImpactPct / 100) +
        absorptionPenaltyQuote
    else 0
  let netBenefitPositive : Bool :=
    self.shredExit.minExpectedSavedLossQuote ≤ estimatedSavedLossQuote ∧
      self.shredExit.minEmergencyExitNetBenefitQuote ≤
        estimatedSavedLossQuote - expectedOpportunityCostQuote
  let netBenefitConfidence := clamp01
    (min decodeConfidence accountConfidence * max (min latencyEdgeRatio 1) 0 *
      (1 - postSellAbsorptionProbability / 2))
  let level := determineWarningLevel classification effectiveImpactPct
    (min decodeConfidence accountConfidence) self.calibration.currentPaperExitImpactPct
    self.shredExit
  let downgraded : Bool := downgradeForAbsorption ∨
    (catastrophic = false ∧ latencyEdgeSufficient = false) ∨
    (position.isSome ∧ netBenefitPositive = false)
  let warningLevel :=
    if (level = .emergencyExitRecommended ∨ level = .emergencyExitRequired) ∧ downgraded then
      if self.shredExit.allowArmWhenNetBenefitNegative then .exitArmed else .watch
    else level
  { source := source
    sellerEntry := sellerEntry
    sellerTopRank := sellerTopRank
    classification := classification
    decodeConfidence := decodeConfidence
    accountConfidence := accountConfidence
    sellerBalance := sellerBalance
    effectiveImpactPct := effectiveImpactPct
    clusterImpactPct := clusterImpactPct
    latencyAdvantageMs := latencyAdvantageMs
    requiredLatencyMs := requiredLatencyMs
    latencyEdgeRatio := latencyEdgeRatio
    latencyEdgeSufficient := latencyEdgeSufficient
    absorptionHealthScore := absorptionHealthScore
    postSellAbsorptionProbability := postSellAbsorptionProbability
    estimatedSavedLossQuote := estimatedSavedLossQuote
    expectedOpportunityCostQuote := expectedOpportunityCostQuote
    netBenefitPositive := netBenefitPositive
    netBenefitConfidence := netBenefitConfidence
    warningLevel := warningLevel
    warningReasons :=
      warningReasonCodes classification warningLevel source decodeConfidence ++
      (if self.shredExit.sameSlotMultiSellEscalation ∧ ¬ sameSlot.isEmpty then
        [.shredSameSlotSellCluster] else []) ++
      (if latencyEdgeSufficient then [] else [.shredSignalStale]) }

/-! ## Detection -/

/-- The id under which a tentative sell is tracked. -/
def triggerEventId (event : NormalizedEvent) (payload : PumpSellEvent) : EventId :=
  EventId.fromSeed ("tentative-trigger|" ++ event.info.eventId.uuid ++ "|" ++ payload.mint.text ++
    "|" ++ payload.seller.text ++ "|" ++ toString event.info.slot ++ "|" ++
    toString (event.info.transactionIndex.getD 0))

def intentOf (assessment : SellAssessment) (event : NormalizedEvent) (payload : PumpSellEvent)
    (token : TokenState) : TentativeSellIntentDetectedEvent :=
  let holder := token.holderState.ownerBalances.lookup payload.seller.text
  { eventId := triggerEventId event payload
    source := assessment.source
    canonicality := .tentative
    slot := some event.info.slot
    entryIndex := event.info.transactionIndex
    shredIndex := (event.info.rawReference.bind RawEventReference.offset).map (· % 2 ^ 32)
    txPositionEstimate := event.info.transactionIndex
    observedAtMonotonicNs := event.info.observedAtMonotonicNs
    receivedAtWallTime := event.info.receivedAtWallTime
    signature := event.signature
    mint := payload.mint
    sellerWallet := payload.seller
    payerWallet := none
    tokenInEstimate := payload.tokenIn
    quoteOutEstimate := payload.quoteOut
    minQuoteOutput := payload.minQuoteOutput
    sellInstructionVariant := "sell"
    decodedInstructionConfidence := assessment.decodeConfidence
    accountDecodeConfidence := assessment.accountConfidence
    walletClassificationSnapshot := lowercase assessment.classification.name
    sellerBalanceBeforeEstimate := assessment.sellerBalance
    sellerHoldingPctEstimate :=
      (assessment.sellerEntry.map ThreatWalletEntry.holdingPct).getD 0
    sellerCostBasisEstimate :=
      (holder.map fun h => h.costBasis.estimatedCostBasisQuote).getD 0
    sellerUnrealizedPnlEstimate :=
      (holder.map fun h => h.costBasis.estimatedUnrealizedPnl).getD 0
    estimatedPriceBefore := payload.priceBefore.getD token.latestPrice
    estimatedPriceAfter := payload.priceAfter.getD
      (token.latestPrice * max (1 - assessment.effectiveImpactPct / 100) 0)
    estimatedPriceImpactPct := assessment.effectiveImpactPct
    estimatedCurveImpact := assessment.effectiveImpactPct / 100
    estimatedTopHolderRank := assessment.sellerTopRank
    estimatedClusterId := assessment.sellerEntry.bind ThreatWalletEntry.clusterId
    estimatedClusterHoldingPct := assessment.clusterImpactPct / 100
    reasonCodes := assessment.warningReasons
    rawPacketHash := event.info.rawReference.map RawEventReference.sourceId
    rawEntryHash := event.info.rawReference.bind RawEventReference.cursor
    rawUpdateHash := event.signature.map fun signature => "tentative:" ++ signature
    matchedCanonicalSignature := none
    confirmationState := .pendingTentative }

def warningOf (assessment : SellAssessment) (event : NormalizedEvent) (payload : PumpSellEvent)
    (features : FeatureSnapshot) (risk : RiskAssessment) : TentativeMaliciousSellWarningEvent :=
  { mint := payload.mint
    sellerWallet := payload.seller
    sellerClassification := assessment.classification
    estimatedSellImpactPct := assessment.effectiveImpactPct
    estimatedClusterSellImpactPct := assessment.clusterImpactPct
    riskLevel := assessment.warningLevel
    confidence := assessment.confidence
    reasonCodes := assessment.warningReasons
    sourceLatencyAdvantageMs := some (cappedI64 assessment.latencyAdvantageMs)
    requiredLatencyAdvantageMs := some (cappedI64 assessment.requiredLatencyMs)
    latencyEdgeRatio := assessment.latencyEdgeRatio
    exitCanLandBeforeEstimatedImpact := assessment.latencyEdgeSufficient
    absorptionHealthScore := assessment.absorptionHealthScore
    postSellAbsorptionProbability := assessment.postSellAbsorptionProbability
    emergencyExitExpectedSavedLoss := assessment.estimatedSavedLossQuote
    emergencyExitExpectedOpportunityCost := assessment.expectedOpportunityCostQuote
    emergencyExitNetBenefit := assessment.netBenefitQuote
    emergencyExitNetBenefitConfidence := assessment.netBenefitConfidence
    canonicality := .tentative
    featureSnapshotHash := features.vectorHash
    riskSnapshotHash := "risk:" ++ risk.mint ++ ":" ++ toString risk.observedAt
    triggerEventId := triggerEventId event payload }

/-- `pending_matches_duplicate_source`. -/
def pendingMatchesDuplicateSource (pending : PendingSellContext)
    (intent : TentativeSellIntentDetectedEvent) (amountTolerancePct : Decimal)
    (slotTolerance : ℕ) : Bool :=
  if pending.intent.mint ≠ intent.mint then false
  else
    match pending.intent.signature, intent.signature with
    | some left, some right => left = right
    | _, _ =>
      if pending.intent.rawUpdateHash.isSome ∧
          pending.intent.rawUpdateHash = intent.rawUpdateHash then true
      else if pending.intent.sellerWallet ≠ intent.sellerWallet then false
      else
        let leftSlot := pending.intent.slot.getD 0
        let rightSlot := intent.slot.getD 0
        if slotTolerance < max leftSlot rightSlot - min leftSlot rightSlot then false
        else
          let delta := |pending.intent.tokenInEstimate - intent.tokenInEstimate|
          let baseline := max (max pending.intent.tokenInEstimate intent.tokenInEstimate) 1
          delta ≤ baseline * (amountTolerancePct / 100)

/-- The source of a pending sell that the intent repeats. -/
def duplicatePrimarySource (self : TentativeSellManager)
    (intent : TentativeSellIntentDetectedEvent) : Option EarlyIntentSource :=
  if self.earlyIntent.deduplicateSources then
    (self.pending.values.find? fun pending =>
      pendingMatchesDuplicateSource pending intent self.earlyIntent.dedupAmountTolerancePct
        self.earlyIntent.dedupSlotTolerance).map fun pending => pending.intent.source
  else none

def reconciliationTtl (self : TentativeSellManager) : Duration :=
  Duration.milliseconds (asI64 self.shredExit.tentativeReconciliationTtlMs)

def armedOf (self : TentativeSellManager) (assessment : SellAssessment)
    (event : NormalizedEvent) (payload : PumpSellEvent)
    (position : Option OpenPositionContext) : Option ShredEmergencyExitArmedEvent :=
  (position.filter fun _ => assessment.warningLevel.armsExit).map fun position =>
    { mint := payload.mint
      positionId := payload.mint.text
      triggerEventId := triggerEventId event payload
      sellerWallet := payload.seller
      sellerClassification := assessment.classification
      riskLevel := assessment.warningLevel
      estimatedImpactPct := assessment.effectiveImpactPct
      confidence := assessment.confidence
      plannedExitSize := position.sizeTokens
      plannedExitReason := "tentative_sell_risk"
      source := assessment.source
      expiresAt := event.info.receivedAtWallTime + self.reconciliationTtl
      cancelConditions := ["tentative_resolved_false_positive"]
      escalationConditions := ["canonical_confirmation"] }

/-- The conditions under which a warning triggers a paper exit. -/
def triggersExit (self : TentativeSellManager) (assessment : SellAssessment) : Bool :=
  self.shredExit.paperEnabled ∧ self.shredExit.allowPaperExitOnTentative ∧
    self.calibration.currentPaperConfidenceThreshold ≤ assessment.confidence ∧
    self.calibration.currentPaperExitImpactPct ≤ assessment.effectiveImpactPct ∧
    (assessment.netBenefitPositive ∨ self.shredExit.allowEmergencyWhenNetBenefitNegative) ∧
    (assessment.warningLevel = .emergencyExitRecommended ∨
      assessment.warningLevel = .emergencyExitRequired)

def triggeredOf (self : TentativeSellManager) (assessment : SellAssessment)
    (event : NormalizedEvent) (payload : PumpSellEvent) (token : TokenState)
    (position : Option OpenPositionContext) : Option ShredEmergencyExitTriggeredEvent :=
  (position.filter fun _ => self.triggersExit assessment).map fun position =>
    { mint := payload.mint
      positionId := payload.mint.text
      triggerEventId := triggerEventId event payload
      decisionId := (triggerEventId event payload).uuid
      sellerWallet := payload.seller
      sellerClassification := assessment.classification
      side := .sell
      exitSize := position.sizeTokens
      reasonCodes := assessment.warningReasons
      source := assessment.source
      confidence := assessment.confidence
      liveAllowed := false
      paperAllowed := true
      expectedExitPrice := payload.priceBefore.getD token.latestPrice
      expectedFeeAdjustedExitValue :=
        position.sizeTokens * payload.priceBefore.getD token.latestPrice
      estimatedSavedLossVsWaitingForGeyser := assessment.estimatedSavedLossQuote }

/-- The counters of a warning, for the manager and for its source alike. -/
def countWarning (armed triggered : Bool) (metrics : ShredExitMetricsSummary) :
    ShredExitMetricsSummary :=
  { metrics with
    maliciousSellWarningTotal := metrics.maliciousSellWarningTotal + 1
    emergencyExitsArmedTotal := metrics.emergencyExitsArmedTotal + (if armed then 1 else 0)
    emergencyExitsTriggeredTotal :=
      metrics.emergencyExitsTriggeredTotal + (if triggered then 1 else 0) }

def countTentativeSell (metrics : ShredExitMetricsSummary) : ShredExitMetricsSummary :=
  { metrics with tentativeSellTotal := metrics.tentativeSellTotal + 1 }

/-- Track a sell that repeats no pending one: the events that announce it, and the manager
that waits for its resolution. -/
def trackSell (self : TentativeSellManager) (assessment : SellAssessment)
    (event : NormalizedEvent) (payload : PumpSellEvent) (token : TokenState)
    (features : FeatureSnapshot) (risk : RiskAssessment)
    (position : Option OpenPositionContext) :
    TentativeSellManager × List NormalizedEvent :=
  let intent := intentOf assessment event payload token
  let warning := warningOf assessment event payload features risk
  let armed := self.armedOf assessment event payload position
  let triggered := self.triggeredOf assessment event payload token position
  let context : PendingSellContext :=
    { intent := intent
      warning := warning
      armed := armed
      triggered := triggered
      positionSizeTokens := (position.map OpenPositionContext.sizeTokens).getD 0
      positionSizeQuote := (position.map OpenPositionContext.sizeQuote).getD 0
      positionStrategy := position.map fun position => lowercase position.strategy.name
      warningPrice := payload.priceBefore.getD token.latestPrice
      latencyAdvantageMs := cappedI64 assessment.latencyAdvantageMs
      requiredLatencyAdvantageMs := cappedI64 assessment.requiredLatencyMs
      latencyEdgeRatio := assessment.latencyEdgeRatio
      netBenefitQuote := assessment.netBenefitQuote
      absorptionHealthScore := assessment.absorptionHealthScore
      expiresAt := event.info.receivedAtWallTime + self.reconciliationTtl }
  let self := self.countSource assessment.source (countWarning armed.isSome triggered.isSome)
  ({ self with
      metrics := countWarning armed.isSome triggered.isSome (countTentativeSell self.metrics)
      pending := self.pending.insert intent.eventId.uuid context },
    [cloneWithPayload event (.tentativeSellIntentDetected intent),
      cloneWithPayload event (.tentativeMaliciousSellWarning warning)] ++
    (armed.map fun armed => cloneWithPayload event (.shredEmergencyExitArmed armed)).toList ++
    (triggered.map fun triggered =>
      cloneWithPayload event (.shredEmergencyExitTriggered triggered)).toList)

/-- `TentativeSellManager::detect_tentative_sell`. -/
def detectTentativeSell (self : TentativeSellManager) (event : NormalizedEvent)
    (token : TokenState) (features : FeatureSnapshot) (risk : RiskAssessment)
    (position : Option OpenPositionContext) : TentativeSellManager × List NormalizedEvent :=
  match event.payload with
  | .pumpSell payload =>
    if event.info.canonicality ≠ .tentative ∨ ¬ self.earlyIntent.enabled then (self, [])
    else
      let assessment := self.assessSell event payload token features position
      let intent := intentOf assessment event payload token
      let counted := self.countSource assessment.source countTentativeSell
      match self.duplicatePrimarySource intent with
      | some primary =>
        let counted := counted.countSource assessment.source fun metrics =>
          { metrics with deduplicatedTotal := metrics.deduplicatedTotal + 1 }
        ({ counted with
            dedupPairs := counted.dedupPairs.upsert
              (sourceLabel primary ++ "|" ++ sourceLabel assessment.source) 0 (· + 1) },
          [cloneWithPayload event (.tentativeSellIntentDetected intent)])
      | none => counted.trackSell assessment event payload token features risk position
  | _ => (self, [])

/-! ## Resolution -/

/-- `decimal_bucket`. -/
def decimalBucket (value : Decimal) (lower : Decimal) : List Decimal → String
  | [] => lower.display ++ "+"
  | threshold :: rest =>
    if value < threshold then lower.display ++ "-" ++ threshold.display
    else decimalBucket value threshold rest

/-- `build_calibration_observation`. -/
def buildCalibrationObservation (pending : PendingSellContext)
    (resolved : ShredSellIntentResolvedEvent) : CalibrationObservation :=
  let confidenceBucket := decimalBucket pending.warning.confidence 0
    [55 / 100, 70 / 100, 82 / 100, 95 / 100]
  let impactBucket := decimalBucket pending.intent.estimatedPriceImpactPct 0 [8, 15, 25, 35]
  let latency := resolved.reconciliationLatencyMs.getD 0
  { key := "source=" ++ pending.intent.source.name ++
      "|seller=" ++ pending.warning.sellerClassification.name ++
      "|confidence=" ++ confidenceBucket ++ "|impact=" ++ impactBucket ++
      "|confirmation=" ++ resolved.confirmationMethod.getD "none" ++
      "|strategy=" ++ pending.positionStrategy.getD "none"
    source := pending.intent.source
    sellerClassification := pending.warning.sellerClassification
    confirmationMethod := resolved.confirmationMethod
    confidenceBucket := confidenceBucket
    impactBucket := impactBucket
    outcome := resolved.outcome
    emergencyExit := pending.triggered.isSome
    falsePositive := resolved.falsePositiveFlag
    savedLossQuote := max resolved.actualLossSavedIfExited 0
    opportunityCostQuote := max (-resolved.actualLossSavedIfExited) 0
    earlyToGeyserProcessedMs :=
      if resolved.outcome ∈ [.confirmedExecuted, .confirmedFailed, .rootedExecuted] then
        some latency
      else none
    earlyToAccountEffectMs :=
      if resolved.outcome = .accountEffectsObserved then some latency else none
    exitLatencyMs := pending.triggered.map fun _ => 0
    strategy := pending.positionStrategy
    latencyAdvantageMs := some pending.latencyAdvantageMs
    requiredLatencyAdvantageMs := some pending.requiredLatencyAdvantageMs
    latencyEdgeRatio := pending.latencyEdgeRatio
    netBenefitQuote := pending.netBenefitQuote
    absorptionHealthScore := pending.absorptionHealthScore }

/-- The counter of an outcome, for the manager and for a source alike. -/
def countOutcome (resolved : ShredSellIntentResolvedEvent) (metrics : ShredExitMetricsSummary) :
    ShredExitMetricsSummary :=
  match resolved.outcome with
  | .confirmedExecuted =>
    { metrics with
      confirmedExecutedTotal := metrics.confirmedExecutedTotal + 1
      savedLossQuoteTotal := metrics.savedLossQuoteTotal + resolved.actualLossSavedIfExited }
  | .accountEffectsObserved =>
    { metrics with accountEffectConfirmedTotal := metrics.accountEffectConfirmedTotal + 1 }
  | .confirmedFailed => { metrics with confirmedFailedTotal := metrics.confirmedFailedTotal + 1 }
  | .rootedExecuted =>
    { metrics with confirmedExecutedTotal := metrics.confirmedExecutedTotal + 1 }
  | .notSeenWithinTtl =>
    { metrics with notSeenWithinTtlTotal := metrics.notSeenWithinTtlTotal + 1 }
  | .reorged => { metrics with reorgedTotal := metrics.reorgedTotal + 1 }
  | .decodeMismatch => { metrics with decodeMismatchTotal := metrics.decodeMismatchTotal + 1 }

def countFalsePositive (resolved : ShredSellIntentResolvedEvent)
    (metrics : ShredExitMetricsSummary) : ShredExitMetricsSummary :=
  if resolved.falsePositiveFlag then
    { metrics with falsePositiveExitTotal := metrics.falsePositiveExitTotal + 1 }
  else metrics

/-- The opportunity cost of a loss is booked for the source only. -/
def countSourceOpportunity (resolved : ShredSellIntentResolvedEvent)
    (metrics : ShredExitMetricsSummary) : ShredExitMetricsSummary :=
  if resolved.actualLossSavedIfExited < 0 then
    { metrics with
      opportunityCostQuoteTotal :=
        metrics.opportunityCostQuoteTotal + max (-resolved.actualLossSavedIfExited) 0 }
  else metrics

/-- `TentativeSellManager::recompute_calibration`. -/
def recomputeCalibration (self : TentativeSellManager) : TentativeSellManager :=
  let config := self.shredExit.calibration
  let seen : Decimal := max self.metrics.tentativeSellTotal 1
  let rates := { self.calibration with
    falsePositiveRate := self.metrics.falsePositiveExitTotal / seen
    truePositiveRate := (max self.metrics.confirmedExecutedTotal 1 : ℕ) / seen
    missedSellRate := self.metrics.notSeenWithinTtlTotal / seen }
  let current := rates.currentPaperExitImpactPct
  let raised := min (current + config.maxThresholdAdjustmentPerHour) 95
  let lowered :=
    max (current - config.maxThresholdAdjustmentPerHour) self.shredExit.warnImpactPct
  { self with
    calibration :=
      if config.enabled ∧ config.paperOnly ∧
          config.minSamplesBeforeAdapt ≤ self.metrics.tentativeSellTotal then
        if config.falsePositiveRateLimit < rates.falsePositiveRate then
          { rates with
            currentPaperExitImpactPct := raised
            adaptations := rates.adaptations ++
              ["raised_paper_exit_impact_to=" ++ Decimal.display raised] }
        else if config.missedSellRateLimit < rates.missedSellRate then
          { rates with
            currentPaperExitImpactPct := lowered
            adaptations := rates.adaptations ++
              ["lowered_paper_exit_impact_to=" ++ Decimal.display lowered] }
        else rates
      else rates }

/-- `TentativeSellManager::record_resolution` of a pending sell. -/
def recordResolution (self : TentativeSellManager) (resolved : ShredSellIntentResolvedEvent)
    (pending : PendingSellContext) : TentativeSellManager :=
  let self := self.countSource resolved.source fun metrics =>
    countSourceOpportunity resolved (countFalsePositive resolved (countOutcome resolved metrics))
  { self with
    metrics := countFalsePositive resolved (countOutcome resolved self.metrics)
    observations := self.observations ++ [buildCalibrationObservation pending resolved] }
    |>.recomputeCalibration

/-- The fields that every resolution of a pending sell by an event shares. -/
def resolvedBy (pending : PendingSellContext) (event : NormalizedEvent) :
    ShredSellIntentResolvedEvent :=
  { originalTentativeEventId := pending.intent.eventId
    canonicalSignature := event.signature
    outcome := .reorged
    observedCanonicalSlot := some event.info.slot
    actualPriceImpactPct := 0
    actualQuoteOut := 0
    actualTokenIn := 0
    actualLossSavedIfExited := 0
    falsePositiveFlag := true
    missedExitFlag := false
    reconciliationLatencyMs := some (Duration.wholeMilliseconds
      (event.info.receivedAtWallTime - pending.intent.receivedAtWallTime))
    source := pending.intent.source
    mint := pending.intent.mint
    sellerWallet := pending.intent.sellerWallet
    sellerClassification := pending.warning.sellerClassification
    confirmationState := .reorged
    confirmationMethod := some "reorg" }

/-- Whether the signature of an event can be that of the pending sell. -/
def signatureMatches (event : NormalizedEvent) (pending : PendingSellContext) : Bool :=
  match event.signature, pending.intent.signature with
  | some actual, some expected => actual = expected
  | some _, none => true
  | none, none => true
  | none, some _ => false

/-- The resolution by the canonical sell itself. -/
def executedBy (pending : PendingSellContext) (event : NormalizedEvent) (payload : PumpSellEvent)
    (token : Option TokenState) : ShredSellIntentResolvedEvent :=
  let failed : Bool := payload.status = .failed
  let priceAfter := payload.priceAfter.getD
    ((token.map TokenState.latestPrice).getD pending.warningPrice)
  { resolvedBy pending event with
    outcome := if failed then .confirmedFailed else .confirmedExecuted
    actualPriceImpactPct :=
      priceImpactPct (payload.priceBefore.getD pending.warningPrice) priceAfter
    actualQuoteOut := payload.quoteOut
    actualTokenIn := payload.tokenIn
    actualLossSavedIfExited :=
      if pending.triggered.isSome ∧ priceAfter < pending.warningPrice then
        (pending.warningPrice - priceAfter) * pending.positionSizeTokens
      else 0
    falsePositiveFlag := failed
    confirmationState := if failed then .confirmedFailed else .confirmedExecuted
    confirmationMethod := some "signature" }

/-- The resolution by a sell of the same wallet that is not the pending one. -/
def mismatchedBy (pending : PendingSellContext) (event : NormalizedEvent)
    (payload : PumpSellEvent) : ShredSellIntentResolvedEvent :=
  { resolvedBy pending event with
    outcome := .decodeMismatch
    actualPriceImpactPct := priceImpactPct (payload.priceBefore.getD pending.warningPrice)
      (payload.priceAfter.getD pending.warningPrice)
    actualQuoteOut := payload.quoteOut
    actualTokenIn := payload.tokenIn
    confirmationState := .decodeMismatch
    confirmationMethod := some "fingerprint" }

/-- `reconcile_pending_against_event`. -/
def reconcilePendingAgainstEvent (pending : PendingSellContext) (event : NormalizedEvent)
    (token : Option TokenState) : Option ShredSellIntentResolvedEvent :=
  if event.info.canonicality = .reverted ∧ event.signature = pending.intent.signature then
    some (resolvedBy pending event)
  else
    match event.payload with
    | .pumpSell payload =>
      if payload.mint = pending.intent.mint ∧ payload.seller = pending.intent.sellerWallet then
        if signatureMatches event pending then some (executedBy pending event payload token)
        else some (mismatchedBy pending event payload)
      else none
    | .holderBalanceUpdate payload =>
      if payload.mint = pending.intent.mint ∧
          payload.ownerWallet = pending.intent.sellerWallet ∧ payload.delta < 0 then
        some { resolvedBy pending event with
          canonicalSignature := payload.causedBySignature
          outcome := .accountEffectsObserved
          actualTokenIn := |payload.delta|
          falsePositiveFlag := false
          confirmationState := .accountEffectsObserved
          confirmationMethod := some "account_effect" }
      else none
    | _ => none

/-- One iteration of `reconcile`. -/
def reconcileKey (event : NormalizedEvent) (token : Option TokenState)
    (acc : TentativeSellManager × List NormalizedEvent) (key : String) :
    TentativeSellManager × List NormalizedEvent :=
  match acc.1.pending.lookup key with
  | none => acc
  | some pending =>
    match reconcilePendingAgainstEvent pending event token with
    | none => acc
    | some resolved =>
      (({ acc.1 with pending := acc.1.pending.erase key }).recordResolution resolved pending,
        acc.2 ++ [cloneWithPayload event (.shredSellIntentResolved resolved)])

/-- `TentativeSellManager::reconcile`. -/
def reconcile [PendingOrder] (self : TentativeSellManager) (event : NormalizedEvent)
    (token : Option TokenState) : TentativeSellManager × List NormalizedEvent :=
  match event.mint with
  | none => (self, [])
  | some mint =>
    let keys := ((PendingOrder.arrange self.pending).filter fun e =>
      e.2.intent.mint = mint).map Sigma.fst
    keys.foldl (reconcileKey event token) (self, [])

/-- `TentativeSellManager::has_pending`. -/
def hasPending (self : TentativeSellManager) : Bool :=
  !self.pending.entries.isEmpty

/-- The resolution of a sell that was never seen. -/
def notSeen (pending : PendingSellContext) (opportunity : Decimal) (now : OffsetDateTime) :
    ShredSellIntentResolvedEvent :=
  { originalTentativeEventId := pending.intent.eventId
    canonicalSignature := none
    outcome := .notSeenWithinTtl
    observedCanonicalSlot := none
    actualPriceImpactPct := 0
    actualQuoteOut := 0
    actualTokenIn := 0
    actualLossSavedIfExited := -opportunity
    falsePositiveFlag := true
    missedExitFlag := false
    reconciliationLatencyMs :=
      some (Duration.wholeMilliseconds (now - pending.intent.receivedAtWallTime))
    source := pending.intent.source
    mint := pending.intent.mint
    sellerWallet := pending.intent.sellerWallet
    sellerClassification := pending.warning.sellerClassification
    confirmationState := .notSeenWithinTtl
    confirmationMethod := none }

/-- The gain given up by an exit on a sell that never came. -/
def missedGain (pending : PendingSellContext) (tokens : KeyedMap String TokenState) : Decimal :=
  let latestPrice := ((tokens.lookup pending.intent.mint.text).map
    TokenState.latestPrice).getD pending.warningPrice
  if pending.triggered.isSome ∧ pending.warningPrice < latestPrice then
    (latestPrice - pending.warningPrice) * pending.positionSizeTokens
  else 0

/-- The event of an expiry. Its id derives from a fresh one. -/
def expiryEvent (freshId : EventId) (pending : PendingSellContext)
    (resolved : ShredSellIntentResolvedEvent) (now : OffsetDateTime) : NormalizedEvent :=
  let expired := cloneWithPayload
    { info :=
        { eventId := freshId
          source := .replay
          canonicality := .processed
          slot := pending.intent.slot.getD 0 }
      payload := .tentativeSellIntentDetected pending.intent }
    (.shredSellIntentResolved resolved)
  { expired with info := { expired.info with receivedAtWallTime := now } }

/-- One iteration of `expire`; the fresh ids are taken by position. -/
def expireKey (freshIds : ℕ → EventId) (now : OffsetDateTime)
    (tokens : KeyedMap String TokenState)
    (acc : TentativeSellManager × List NormalizedEvent) (key : String) :
    TentativeSellManager × List NormalizedEvent :=
  match acc.1.pending.lookup key with
  | none => acc
  | some pending =>
    let opportunity := missedGain pending tokens
    let resolved := notSeen pending opportunity now
    let manager := { acc.1 with
      pending := acc.1.pending.erase key
      metrics := { acc.1.metrics with
        opportunityCostQuoteTotal := acc.1.metrics.opportunityCostQuoteTotal + opportunity } }
    (manager.recordResolution resolved pending,
      acc.2 ++ [expiryEvent (freshIds acc.2.length) pending resolved now])

/-- `TentativeSellManager::expire`, on the tokens of a snapshot. What expires is resolved alike
in every order. -/
def expire (self : TentativeSellManager) (freshIds : ℕ → EventId) (now : OffsetDateTime)
    (tokens : KeyedMap String TokenState) : TentativeSellManager × List NormalizedEvent :=
  let keys := (self.pending.entries.filter fun e => e.2.expiresAt ≤ now).map Sigma.fst
  keys.foldl (expireKey freshIds now tokens) (self, [])

end TentativeSellManager

end PumpLaunchTrader
