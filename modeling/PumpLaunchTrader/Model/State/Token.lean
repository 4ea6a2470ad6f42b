import PumpLaunchTrader.Model.Config
import PumpLaunchTrader.Model.State.Cluster
import PumpLaunchTrader.Model.State.Curve
import PumpLaunchTrader.Model.State.Holder

/-! # Token state (`state::TokenState` and its parts) -/

namespace PumpLaunchTrader

def maxPriceHistory : ℕ := 512
def maxTradeHistory : ℕ := 512

inductive TokenLifecycle where
  | discovered | firstPass | activeLight | activeDeep | tradeCandidate | inPosition
  | exitPending | completed | softDiscarded | hardDiscarded | rugArchive | migrated | dataGap
  deriving DecidableEq, Repr

structure LifecycleTransition where
  mint : PubkeyValue
  source : TokenLifecycle
  target : TokenLifecycle
  reason : String
  observedAt : OffsetDateTime
  deriving DecidableEq

structure DeveloperState where
  creatorInitialHolding : Decimal := 0
  creatorNetTokens : Decimal := 0
  creatorNetQuoteFlow : Decimal := 0
  creatorFirstSellTime : Option OffsetDateTime := none
  creatorSellPercentage : Decimal := 0
  creatorCurrentRank : Option ℕ := none
  relatedClusterId : Option String := none
  deriving DecidableEq, Repr

/-! ## Trade statistics -/

inductive TradeSide where
  | buy | sell
  deriving DecidableEq, Repr

structure ObservedTransactionSummary where
  signature : String
  slotHint : Option ℕ
  entryIndex : Option ℕ
  txPositionEstimate : Option ℕ
  programIds : List String
  accountCount : ℕ
  instructionCount : ℕ
  rawPacketHash : String
  firstSeenByShredNs : ℕ
  decodeConfidence : Decimal
  deriving DecidableEq

structure TradeObservation where
  timestamp : OffsetDateTime
  slot : ℕ
  signature : Option String
  side : TradeSide
  wallet : String
  quote : Decimal
  tokens : Decimal
  price : Decimal
  computeUnitLimit : Option ℕ
  computeUnitPrice : Option ℕ
  priorityFeeLamports : Option ℕ
  baseFeeLamports : Option ℕ
  accountCount : Option ℕ
  instructionCount : Option ℕ
  programCount : Option ℕ
  clientFingerprint : Option String
  isCreator : Bool
  isTopHolderPreSell : Bool
  isTentative : Bool
  deriving DecidableEq

/-- `trade_client_fingerprint`. -/
def tradeClientFingerprint (computeUnitLimit computeUnitPrice : Option ℕ)
    (txShape : Option ObservedTransactionSummary) : Option String :=
  if computeUnitLimit.isNone ∧ computeUnitPrice.isNone ∧ txShape.isNone then none
  else
    let count : (ObservedTransactionSummary → ℕ) → String := fun f =>
      toString ((txShape.map f).getD 0)
    some ("cul:" ++ toString (computeUnitLimit.getD 0) ++
      "|cup:" ++ toString (computeUnitPrice.getD 0) ++
      "|acct:" ++ count (·.accountCount) ++
      "|ix:" ++ count (·.instructionCount) ++
      "|pgm:" ++ count (·.programIds.length))

structure TokenTradeStats where
  buyCount : ℕ := 0
  sellCount : ℕ := 0
  uniqueBuyers : Finset String := ∅
  uniqueSellers : Finset String := ∅
  buyVolumeQuote : Decimal := 0
  sellVolumeQuote : Decimal := 0
  latestPrice : Decimal := 0
  allTimeHigh : Decimal := 0
  allTimeLow : Decimal := 0
  lastBuyAt : Option OffsetDateTime := none
  lastSellAt : Option OffsetDateTime := none
  longestNoBuyGapMs : ℤ := 0
  firstLargeSellAt : Option OffsetDateTime := none
  priceHistory : List (OffsetDateTime × Decimal) := []
  tradeHistory : List TradeObservation := []
  deriving DecidableEq

namespace TokenTradeStats

/-- The part of `record_trade` common to both sides. -/
def recordPrice (self : TokenTradeStats) (observation : TradeObservation) : TokenTradeStats :=
  { self with
    latestPrice := observation.price
    allTimeHigh :=
      if self.allTimeHigh < observation.price ∨ self.allTimeHigh = 0 then observation.price
      else self.allTimeHigh
    allTimeLow :=
      if observation.price < self.allTimeLow ∨ self.allTimeLow = 0 then observation.price
      else self.allTimeLow
    priceHistory :=
      pushBounded maxPriceHistory self.priceHistory (observation.timestamp, observation.price)
    tradeHistory := pushBounded maxTradeHistory self.tradeHistory observation }

/-- `TokenTradeStats::record_trade`. -/
def recordTrade (self : TokenTradeStats) (observation : TradeObservation) : TokenTradeStats :=
  let self := self.recordPrice observation
  match observation.side with
  | .buy =>
    { self with
      buyCount := self.buyCount + 1
      uniqueBuyers := insert observation.wallet self.uniqueBuyers
      buyVolumeQuote := self.buyVolumeQuote + observation.quote
      longestNoBuyGapMs :=
        match self.lastBuyAt with
        | some lastBuy =>
          max self.longestNoBuyGapMs (Duration.wholeMilliseconds (observation.timestamp - lastBuy))
        | none => self.longestNoBuyGapMs
      lastBuyAt := some observation.timestamp }
  | .sell =>
    { self with
      sellCount := self.sellCount + 1
      uniqueSellers := insert observation.wallet self.uniqueSellers
      sellVolumeQuote := self.sellVolumeQuote + observation.quote
      lastSellAt := some observation.timestamp
      firstLargeSellAt :=
        if 5 ≤ observation.quote ∧ self.firstLargeSellAt.isNone then some observation.timestamp
        else self.firstLargeSellAt }

end TokenTradeStats

/-! ## Shred defense -/

structure ThreatWalletEntry where
  wallet : String
  classification : DangerousSellerClassification
  balance : Decimal
  holdingPct : Decimal
  estimatedFullExitImpactPct : Decimal
  estimatedPartialExit25Pct : Decimal
  estimatedPartialExit50Pct : Decimal
  estimatedPartialExit100Pct : Decimal
  costBasisQuote : Decimal
  unrealizedPnlQuote : Decimal
  freeRoll : Bool
  lastSellTime : Option OffsetDateTime
  historicalRugAssociation : ℕ
  clusterId : Option String
  clusterHoldingPct : Decimal
  deriving DecidableEq

structure ExitThreatIndex where
  dangerousWallets : List ThreatWalletEntry := []
  warnThresholdImpactPct : Decimal := 8
  armExitThresholdImpactPct : Decimal := 15
  triggerExitThresholdImpactPct : Decimal := 25
  emergencyExitThresholdImpactPct : Decimal := 35
  dangerousSellerPrecomputedImpactScore : Decimal := 0
  exitThreatIndexScore : Decimal := 0
  minimumDangerousSellSizeToTriggerEmergency : Decimal := 0
  currentDistanceToStopPct : Decimal := 0
  currentDistanceToTrailingStopPct : Decimal := 0
  currentDistanceToLaunchFloorPct : Decimal := 0
  currentDistanceToVwapPct : Decimal := 0
  currentDistanceToCostBasisSupportPct : Decimal := 0
  combinedOurExitPlusDangerousSellImpactPct : Decimal := 0
  maxSafeWaitTimeMs : ℕ := 0
  requiredEarlyIntentLeadTimeMs : ℕ := 0
  updatedAt : Option OffsetDateTime := none
  deriving DecidableEq

structure TentativeSellTracking where
  eventId : String := ""
  source : EarlyIntentSource := .fixtureTentative
  signature : Option String := none
  sellerWallet : String := ""
  sellerClassification : DangerousSellerClassification := .unknown
  confirmationState : TentativeSellConfirmationState := .pendingTentative
  warningLevel : TentativeSellRiskLevel := .info
  confidence : Decimal := 0
  estimatedImpactPct : Decimal := 0
  estimatedClusterImpactPct : Decimal := 0
  warningPrice : Decimal := 0
  observedAt : OffsetDateTime := unixEpoch
  expiresAt : Option OffsetDateTime := none
  matchedCanonicalSignature : Option String := none
  falsePositiveFlag : Bool := false
  missedExitFlag : Bool := false
  paperExitTriggered : Bool := false
  savedLossQuote : Decimal := 0
  opportunityCostQuote : Decimal := 0
  confirmationMethod : Option String := none
  reconciliationLatencyMs : Option ℤ := none
  deriving DecidableEq

structure ShredDefenseState where
  exitThreatIndex : ExitThreatIndex := {}
  pendingTentativeSells : KeyedMap String TentativeSellTracking := ∅
  lastWarningLevel : Option TentativeSellRiskLevel := none
  lastWarningReasonCodes : List ReasonCode := []
  activeWarningEventId : Option String := none
  activeArmedExitEventId : Option String := none
  activeTriggeredExitEventId : Option String := none
  activeDangerousSeller : Option String := none
  activeSellerClassification : Option DangerousSellerClassification := none
  tentativeSellCountWindow : ℕ := 0
  tentativeSellVolumeQuoteWindow : Decimal := 0
  tentativeSellFromDevCount : ℕ := 0
  tentativeSellFromTopHolderCount : ℕ := 0
  tentativeSellFromBundleCount : ℕ := 0
  tentativeSellFromWhaleCount : ℕ := 0
  tentativeSellSameSlotClusterCount : ℕ := 0
  tentativeSellImpactMaxPct : Decimal := 0
  tentativeSellImpactSumPct : Decimal := 0
  tentativeSellConfidenceMax : Decimal := 0
  tentativeSellConfidenceMean : Decimal := 0
  shredEmergencyExitTriggeredFlag : Bool := false
  shredExitArmedFlag : Bool := false
  shredSignalStaleFlag : Bool := false
  shredSavedLossEstimate : Decimal := 0
  shredSavedLossRealized : Decimal := 0
  shredExitOpportunityCost : Decimal := 0
  earlyIntentLatencyAdvantageMs : Option ℤ := none
  requiredLatencyAdvantageMs : Option ℤ := none
  latencyEdgeRatio : Decimal := 0
  exitCanLandBeforeEstimatedImpact : Bool := false
  absorptionHealthScore : Decimal := 0
  postSellAbsorptionProbability : Decimal := 0
  emergencyExitExpectedSavedLoss : Decimal := 0
  emergencyExitExpectedOpportunityCost : Decimal := 0
  emergencyExitNetBenefit : Decimal := 0
  emergencyExitNetBenefitConfidence : Decimal := 0
  shredToGeyserProcessedMs : Option ℤ := none
  shredToAccountEffectConfirmationMs : Option ℤ := none
  shredToRootedConfirmationMs : Option ℤ := none
  tentativeSellFalsePositiveTotal : ℕ := 0
  tentativeSellConfirmedTotal : ℕ := 0
  tentativeSellFailedTotal : ℕ := 0
  tentativeSellNotSeenTotal : ℕ := 0
  tentativeSellReorgedTotal : ℕ := 0
  tentativeSellDecodeMismatchTotal : ℕ := 0
  maliciousSellIntentScore : Decimal := 0
  preconfirmationExitConfidence : Decimal := 0
  lastConfirmationLevel : Option TentativeSellConfirmationState := none
  lastResolutionOutcome : Option TentativeSellResolutionOutcome := none

/-! ## Token state -/

structure TokenState where
  mint : PubkeyValue
  tokenProgram : TokenProgramType := .unknown
  quoteMint : Option PubkeyValue := none
  quoteAssetType : QuoteAssetType := .unknown
  creator : Option PubkeyValue := none
  payer : Option PubkeyValue := none
  bondingCurve : Option PubkeyValue := none
  associatedBondingCurve : Option PubkeyValue := none
  metadata : Option PubkeyValue := none
  name : String := ""
  symbol : String := ""
  uri : String := ""
  createInstructionVariant : String := ""
  launchTransactionFingerprint : Option String := none
  launchSameTransactionBuys : ℕ := 0
  launchSameSlotBuys : ℕ := 0
  lifecycle : TokenLifecycle := .discovered
  launchSlot : Option ℕ := none
  launchTime : Option OffsetDateTime := none
  firstSeenSource : EventSource
  latestPrice : Decimal := 0
  reserveState : BondingCurveState := {}
  holderState : HolderState := {}
  developerState : DeveloperState := {}
  tradeStats : TokenTradeStats := {}
  shredDefense : ShredDefenseState := {}
  approximateMemoryBytes : ℕ := 0
  expiresAt : Option OffsetDateTime := none
  tentativeSignatures : Finset String := ∅
  canonicalSignatures : Finset String := ∅
  tentativeOnly : Bool
  dataQualityFlags : Finset String := ∅

namespace TokenState

/-- `TokenState::new`. -/
def new (mint : PubkeyValue) (source : EventSource) : TokenState :=
  { mint := mint
    firstSeenSource := source
    tentativeOnly := source = .shredTentative ∨ source = .deshredTentative }

def updateMemoryBytes (self : TokenState) : TokenState :=
  { self with
    approximateMemoryBytes := 512
      + self.holderState.ownerBalances.entries.length * 192
      + self.holderState.tokenAccountToOwner.entries.length * 96
      + self.tradeStats.tradeHistory.length * 112
      + self.tradeStats.priceHistory.length * 48
      + self.tentativeSignatures.card * 72
      + self.canonicalSignatures.card * 72
      + self.shredDefense.pendingTentativeSells.entries.length * 192
      + self.shredDefense.exitThreatIndex.dangerousWallets.length * 160 }

/-- The 1-based position of the creator among the top holders. -/
def creatorRank (self : TokenState) : Option ℕ :=
  self.creator.bind fun creator =>
    (self.holderState.topHolders.findIdx? fun holder => holder.owner.text = creator.text).map
      (· + 1)

def recalcDeveloperRank (self : TokenState) : TokenState :=
  { self with
    developerState := { self.developerState with creatorCurrentRank := self.creatorRank } }

end TokenState

/-! ## Lifecycle -/

def ttlForConfig (ttl : TtlConfig) (lifecycle : TokenLifecycle) : Duration :=
  Duration.seconds <| asI64 <|
    match lifecycle with
    | .discovered => ttl.discoveredSecs
    | .firstPass | .activeLight => ttl.activeLightSecs
    | .activeDeep | .tradeCandidate | .inPosition | .exitPending => ttl.activeDeepSecs
    | .softDiscarded | .hardDiscarded => ttl.discardedSummarySecs
    | .rugArchive => ttl.researchSampleSecs
    | .completed | .migrated | .dataGap => ttl.discardedSummarySecs

/-- `transition_token`: the token after it, and the transition unless it is there already. -/
def transitionToken (token : TokenState) (target : TokenLifecycle) (reason : String)
    (observedAt : OffsetDateTime) (ttl : Duration) :
    TokenState × Option LifecycleTransition :=
  if token.lifecycle = target then (token, none)
  else
    ({ token with lifecycle := target, expiresAt := some (observedAt + ttl) },
      some
        { mint := token.mint
          source := token.lifecycle
          target := target
          reason := reason
          observedAt := observedAt })

def terminalVariantLabel : TokenTerminalVariant → String
  | .discarded => "discarded"
  | .softDiscarded => "soft_discarded"
  | .hardDiscarded => "hard_discarded"
  | .rugged => "rugged"
  | .dead => "dead"
  | .migrated => "migrated"
  | .trackingExpired => "tracking_expired"
  | .dataGap => "data_gap"
  | .manualStop => "manual_stop"
  | .completed => "completed"

/-- The lifecycle that `apply_terminal` moves a token to. -/
def terminalLifecycle : TokenTerminalVariant → TokenLifecycle
  | .discarded | .softDiscarded => .softDiscarded
  | .hardDiscarded => .hardDiscarded
  | .rugged => .rugArchive
  | .dead => .completed
  | .migrated => .migrated
  | .trackingExpired => .completed
  | .dataGap => .dataGap
  | .manualStop => .completed
  | .completed => .completed

/-! ## Derived indices -/

def clamp01Decimal (value : Decimal) : Decimal := min (max value 0) 1

def averageDecimal (currentAverage next : Decimal) (count : ℕ) : Decimal :=
  if count ≤ 1 then next else (currentAverage * (count - 1 : ℕ) + next) / count

def impactPct (balance totalSupplyProxy liquidityDepth : Decimal) : Decimal :=
  if balance ≤ 0 ∨ totalSupplyProxy ≤ 0 then 0
  else
    let supplyShare := balance / totalSupplyProxy
    let reserveShare := balance * (5 / 10) / max liquidityDepth 1
    clamp01Decimal (supplyShare * 70 + reserveShare * 30) * 100

def parseSellerClassification : String → DangerousSellerClassification
  | "dev" => .dev
  | "dev_cluster" => .devCluster
  | "top1_holder" => .top1Holder
  | "top3_holder" => .top3Holder
  | "top5_holder" => .top5Holder
  | "top10_holder" => .top10Holder
  | "bundle_wallet" => .bundleWallet
  | "bundle_cluster" => .bundleCluster
  | "whale" => .whale
  | "same_funder_cluster" => .sameFunderCluster
  | "same_client_fingerprint_cluster" => .sameClientFingerprintCluster
  | "high_pnl_holder" => .highPnlHolder
  | "free_rolling_holder" => .freeRollingHolder
  | _ => .unknown

def classifyWallet (token : TokenState) (clusterIndex : ClusterIndex) (wallet : String)
    (topHolderIndex : ℕ) (pctSupplyProxy : Decimal) (creatorCluster : Option String) :
    DangerousSellerClassification :=
  let sameFunderCluster := clusterIndex.walletHasSameFunderCluster wallet
  if token.creator.map PubkeyValue.text = some wallet then .dev
  else if creatorCluster.isSome ∧ clusterIndex.clusterIdFor wallet = creatorCluster then
    .devCluster
  else if sameFunderCluster ∧ topHolderIndex ≤ 9 then .bundleCluster
  else if sameFunderCluster then .sameFunderCluster
  else if topHolderIndex = 0 then .top1Holder
  else if topHolderIndex ≤ 2 then .top3Holder
  else if topHolderIndex ≤ 4 then .top5Holder
  else if topHolderIndex ≤ 9 then .top10Holder
  else if 15 / 100 ≤ pctSupplyProxy then .whale
  else .unknown

/-- The threat entry of one top holder; a holder without a balance entry has none. -/
def threatWalletEntry (token : TokenState) (clusterIndex : ClusterIndex) (index : ℕ)
    (holder : HolderDistributionSnapshot) (price totalSupplyProxy liquidityDepth : Decimal) :
    Option ThreatWalletEntry :=
  (token.holderState.ownerBalances.lookup holder.owner.text).map fun balanceState =>
    let balance := max balanceState.balance 0
    let costBasis := max balanceState.costBasis.estimatedCostBasisQuote 0
    let halfSpent : Decimal := balanceState.costBasis.originalQuoteSpent / 2
    { wallet := holder.owner.text
      classification := classifyWallet token clusterIndex holder.owner.text index
        holder.pctSupplyProxy token.developerState.relatedClusterId
      balance := balance
      holdingPct := holder.pctSupplyProxy
      estimatedFullExitImpactPct := impactPct balance totalSupplyProxy liquidityDepth
      estimatedPartialExit25Pct :=
        impactPct (balance * (25 / 100)) totalSupplyProxy liquidityDepth
      estimatedPartialExit50Pct :=
        impactPct (balance * (50 / 100)) totalSupplyProxy liquidityDepth
      estimatedPartialExit100Pct := impactPct balance totalSupplyProxy liquidityDepth
      costBasisQuote := costBasis
      unrealizedPnlQuote := price * balance - costBasis
      freeRoll := halfSpent < balanceState.costBasis.estimatedRealizedPnl
      lastSellTime := (token.tradeStats.tradeHistory.reverse.find? fun trade =>
        trade.wallet = holder.owner.text ∧ trade.side = .sell).map TradeObservation.timestamp
      historicalRugAssociation := 0
      clusterId := clusterIndex.clusterIdFor holder.owner.text
      clusterHoldingPct := holder.pctSupplyProxy }

/-- `refresh_exit_threat_index`. -/
def refreshExitThreatIndex (token : TokenState) (clusterIndex : ClusterIndex)
    (observedAt : OffsetDateTime) : TokenState :=
  let totalSupplyProxy := token.holderState.observedHolderSupply
  let liquidityDepth :=
    max (token.reserveState.realQuoteReserves + token.reserveState.virtualQuoteReserves) 1
  let launchPrice := token.reserveState.launchPrice.getD (max token.latestPrice 1)
  let price := max (max token.latestPrice launchPrice) (1 / 1000000000)
  let entries := (token.holderState.topHolders.take 10).zipIdx.filterMap fun (holder, index) =>
    threatWalletEntry token clusterIndex index holder price totalSupplyProxy liquidityDepth
  let dangerousWallets := (entries.insertionSort fun left right =>
    right.estimatedFullExitImpactPct ≤ left.estimatedFullExitImpactPct).take 16
  let maxImpact :=
    ((dangerousWallets.map ThreatWalletEntry.estimatedFullExitImpactPct).max?).getD 0
  let recent := token.tradeStats.tradeHistory.reverse.take 12
  let latestVwap :=
    if token.tradeStats.tradeHistory.isEmpty then price
    else (recent.map TradeObservation.price).sum / recent.length
  let holders := token.holderState.ownerBalances.values
  let costBasisSupport :=
    if holders.isEmpty then price
    else ((holders.filter fun holder => 0 < holder.costBasis.remainingPositionSize).map
      fun holder => holder.costBasis.estimatedAverageEntryPrice).sum / holders.length
  let index : ExitThreatIndex :=
    { dangerousWallets := dangerousWallets
      warnThresholdImpactPct := 8
      armExitThresholdImpactPct := 15
      triggerExitThresholdImpactPct := 25
      emergencyExitThresholdImpactPct := 35
      dangerousSellerPrecomputedImpactScore := clamp01Decimal (maxImpact / 100)
      exitThreatIndexScore := clamp01Decimal (maxImpact / 100)
      minimumDangerousSellSizeToTriggerEmergency := totalSupplyProxy * (25 / 100)
      currentDistanceToStopPct := max (price - launchPrice) 0 / max price 1
      currentDistanceToTrailingStopPct :=
        max (token.tradeStats.allTimeHigh - price) 0 / max token.tradeStats.allTimeHigh 1
      currentDistanceToLaunchFloorPct := max (price - launchPrice) 0 / max price 1
      currentDistanceToVwapPct := |price - latestVwap| / max price 1
      currentDistanceToCostBasisSupportPct := |price - costBasisSupport| / max price 1
      combinedOurExitPlusDangerousSellImpactPct := maxImpact * (12 / 100)
      maxSafeWaitTimeMs := if 25 ≤ maxImpact then 250 else 750
      requiredEarlyIntentLeadTimeMs := if 25 ≤ maxImpact then 120 else 350
      updatedAt := some observedAt }
  { token with shredDefense := { token.shredDefense with exitThreatIndex := index } }

/-- The share of its largest holding that the creator has sold. -/
def creatorSoldShare (developer : DeveloperState) : Decimal :=
  if 0 < developer.creatorInitialHolding then
    (developer.creatorInitialHolding - max developer.creatorNetTokens 0) /
      developer.creatorInitialHolding
  else 0

/-- `refresh_token_cluster_derived`. -/
def refreshTokenClusterDerived (token : TokenState) (clusterIndex : ClusterIndex) :
    TokenState :=
  { token with
    developerState := { token.developerState with
      relatedClusterId :=
        match token.creator with
        | some creator => clusterIndex.clusterIdFor creator.text
        | none => token.developerState.relatedClusterId
      creatorCurrentRank := token.creatorRank
      creatorSellPercentage := creatorSoldShare token.developerState } }

/-- `token_touches_any_wallet`. -/
def tokenTouchesAnyWallet (token : TokenState) (wallets : Finset String) : Bool :=
  let touches : Option PubkeyValue → Bool := fun wallet =>
    (wallet.map fun w => decide (w.text ∈ wallets)).getD false
  touches token.creator || touches token.payer ||
    ((token.holderState.topHolders.take 10).any fun holder => holder.owner.text ∈ wallets) ||
    token.holderState.ownerBalances.keys.any fun wallet => wallet ∈ wallets

end PumpLaunchTrader
