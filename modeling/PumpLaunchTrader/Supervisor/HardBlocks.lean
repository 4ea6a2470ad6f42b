import PumpLaunchTrader.Decision.Exits
import PumpLaunchTrader.Engine.Lifecycle
import PumpLaunchTrader.Model.Supervisor

/-! # Hard blocks and open positions

A hard block decides by the lifecycle of the token, while the position lives in the
executor. No run moves a token to `InPosition`, so every hard block stops the tracking of
the token and leaves its position open. -/

namespace PumpLaunchTrader

namespace Pipeline

/-- An active gap that blocks trading covers the mint. -/
def gapBlocks (self : Pipeline) (mint : String) : Bool :=
  self.activeDataGaps.any fun gap => gap.blocksGlobally || gap.blocksToken mint

theorem tokenTradeAllowed_of_gapBlocks {p : Pipeline} {mint : String}
    (h : p.gapBlocks mint = true) : (p.tokenTradeAllowed mint).1 = false := by
  unfold gapBlocks at h
  rw [List.any_eq_true] at h
  obtain ⟨gap, hmem, hblocks⟩ := h
  unfold tokenTradeAllowed
  by_cases hglobal : p.activeDataGaps.any ScopedDataGap.blocksGlobally = true
  · rw [if_pos hglobal]
  · have htoken : p.activeDataGaps.any (·.blocksToken mint) = true := by
      rw [List.any_eq_true]
      refine ⟨gap, hmem, ?_⟩
      rcases Bool.or_eq_true_iff.mp hblocks with hgap | hgap
      · exact absurd (List.any_eq_true.mpr ⟨gap, hmem, hgap⟩) hglobal
      · exact hgap
    rw [if_neg hglobal, if_pos htoken]

/-- The runtime safety keeps a decision or replaces it by the one of the lifecycle. -/
theorem decision_applyRuntimeSafetyForToken (p : Pipeline) (token : TokenState)
    (outcome : DecisionOutcome) :
    (p.applyRuntimeSafetyForToken token outcome).decisionEvent.decision =
      if (p.tokenTradeAllowed token.mint.text).1 then outcome.decisionEvent.decision
      else terminalDecision token := by
  unfold applyRuntimeSafetyForToken
  cases hallowed : (p.tokenTradeAllowed token.mint.text).1 with
  | true => simp [hallowed]
  | false => simp [hallowed, DecisionOutcome.withDecision, terminalDecision]

/-- Whatever blocks, the decision is the one of the lifecycle. -/
theorem decision_of_blocked (p : Pipeline) (token : TokenState) (features : FeatureSnapshot)
    (risk : RiskAssessment) (position : Option OpenPositionContext)
    (configHash strategyVersion : String) (observedAt : OffsetDateTime) (decisionId : String)
    (h : p.decisionEngine.hardBlocked risk = true ∨ p.gapBlocks token.mint.text = true) :
    (p.applyRuntimeSafetyForToken token (p.decisionEngine.evaluate token features risk position
      configHash strategyVersion observedAt decisionId)).decisionEvent.decision =
        terminalDecision token := by
  rw [decision_applyRuntimeSafetyForToken]
  rcases h with hhard | hgap
  · rw [DecisionEngine.decision_evaluate_of_hardBlocked _ _ _ hhard, ite_self]
  · rw [tokenTradeAllowed_of_gapBlocks hgap]
    rfl

end Pipeline

theorem terminalDecision_of_untraded {token : TokenState} (h : token.Untraded) :
    terminalDecision token = .stopTracking :=
  if_neg h.lifecycle_ne_inPosition

/-- The executor does nothing when tracking stops. -/
theorem PaperExecutor.handleDecision_stopTracking (executor : PaperExecutor)
    {outcome : DecisionOutcome} (h : outcome.decisionEvent.decision = .stopTracking)
    (token : TokenState) (observedAt : OffsetDateTime) (forceFail : Bool) :
    executor.handleDecision outcome token observedAt forceFail = (executor, none) := by
  unfold handleDecision
  rw [h]

/-! ## Concrete inputs -/

def sampleCreation : NormalizedEvent :=
  { info :=
      { eventId := ⟨"e1"⟩
        source := .geyserProcessed
        canonicality := .processed
        slot := 1 }
    payload := .tokenCreated
      { mint := ⟨"mint"⟩
        tokenProgram := .splToken
        quoteMint := ⟨"quote"⟩
        quoteAssetType := .wrappedSol
        creatorWallet := ⟨"creator"⟩
        payer := ⟨"creator"⟩
        bondingCurveAccount := ⟨"curve"⟩
        associatedBondingCurveAccount := none
        metadataAccount := none
        name := "Alpha"
        symbol := "ALP"
        uri := ""
        createInstructionVariant := "create"
        sameTransactionBuys := 0
        sameSlotBuys := 0
        launchTransactionFingerprint := none } }

/-- The state after the creation of a token. -/
def createdEngine : StateEngine :=
  (StateEngine.new StateEngine.sampleTtl).applyEvents [sampleCreation]

/-- A long position in the created token. -/
def openSample : PaperPosition :=
  { mint := "mint"
    side := .buy
    entryTime := unixEpoch
    entryPrice := 1
    sizeQuote := 1
    sizeTokens := 1
    feesPaid := 0
    currentValue := 1
    strategy := "OrganicSlowGrind"
    entryDecisionId := "entry"
    expectedEdgeQuote := 0
    entryRiskScores := []
    entryReasonCodes := [] }

def sampleConfig : RuntimeResolvedConfig :=
  { configHash := "config"
    strategyVersion := "v1"
    runId := "run"
    ttl := StateEngine.sampleTtl
    strategy := DecisionEngine.sampleThresholds
    edge := {}
    execution := DecisionEngine.sampleEngine.execution
    earlyIntent := {}
    shredExit := {}
    featureEngine := fun token _ _ => DecisionEngine.qualityFeatures token.mint 1
    riskEngine := fun token _ _ => DecisionEngine.calmRisk token.mint.text }

def Supervisor.sampleAmbient : Ambient where
  freshEventId n := ⟨toString n⟩
  monotonicNowNs := 0
  otherRecords _ := 0

/-- The created token with an open position, under an active kill switch. -/
def killedPipeline : Pipeline :=
  { (Supervisor.new sampleConfig {}).toPipeline with
    stateEngine := createdEngine
    decisionEngine := { DecisionEngine.sampleEngine with killSwitch := true }
    paperExecutor := { positions := AList.insert "mint" openSample ∅ } }

/-- The created token. -/
def createdToken : TokenState :=
  (createdEngine.tokens.lookup "mint").get (by decide +kernel)

theorem lookup_createdEngine : createdEngine.tokens.lookup "mint" = some createdToken :=
  (Option.some_get _).symm

/-! ## Stranded positions -/

/-- Under a kill switch, a data gap stop, a risk maximum or a gap that blocks the mint, the
open position of a token of any run is not sold: its tracking stops and the executor keeps
the position. -/
theorem blocked_position_stranded (ttl : TtlConfig) (events : List NormalizedEvent)
    (p : Pipeline) (hstate : p.stateEngine = (StateEngine.new ttl).applyEvents events)
    {key : String} {token : TokenState} (htoken : p.stateEngine.tokens.lookup key = some token)
    {position : PaperPosition}
    (hposition : p.paperExecutor.positions.lookup token.mint.text = some position)
    (features : FeatureSnapshot) (risk : RiskAssessment) (configHash strategyVersion : String)
    (observedAt : OffsetDateTime) (decisionId : String) (forceFail : Bool)
    (hblock : p.decisionEngine.hardBlocked risk = true ∨ p.gapBlocks token.mint.text = true) :
    (p.applyRuntimeSafetyForToken token (p.decisionEngine.evaluate token features risk
        (p.paperExecutor.positionContext token.mint.text) configHash strategyVersion observedAt
        decisionId)).decisionEvent.decision.isExit = false ∧
      (p.paperExecutor.handleDecision
        (p.applyRuntimeSafetyForToken token (p.decisionEngine.evaluate token features risk
          (p.paperExecutor.positionContext token.mint.text) configHash strategyVersion observedAt
          decisionId)) token observedAt forceFail).1.positions.lookup token.mint.text =
        some position := by
  rw [hstate] at htoken
  have huntraded : token.Untraded := StateEngine.allUntraded_reachable ttl events key token htoken
  have hdecision := p.decision_of_blocked token features risk
    (p.paperExecutor.positionContext token.mint.text) configHash strategyVersion observedAt
    decisionId hblock
  rw [terminalDecision_of_untraded huntraded] at hdecision
  constructor
  · rw [hdecision]
    rfl
  · rw [PaperExecutor.handleDecision_stopTracking _ hdecision]
    exact hposition

theorem blocked_position_stranded_sample :
    (killedPipeline.applyRuntimeSafetyForToken createdToken
        (killedPipeline.decisionEngine.evaluate createdToken
          (DecisionEngine.qualityFeatures ⟨"mint"⟩ 1) (DecisionEngine.calmRisk "mint")
          (killedPipeline.paperExecutor.positionContext createdToken.mint.text) "config" "v1"
          unixEpoch "")).decisionEvent.decision.isExit = false ∧
      (killedPipeline.paperExecutor.handleDecision
        (killedPipeline.applyRuntimeSafetyForToken createdToken
          (killedPipeline.decisionEngine.evaluate createdToken
            (DecisionEngine.qualityFeatures ⟨"mint"⟩ 1) (DecisionEngine.calmRisk "mint")
            (killedPipeline.paperExecutor.positionContext createdToken.mint.text) "config" "v1"
            unixEpoch "")) createdToken unixEpoch false).1.positions.lookup
          createdToken.mint.text = some openSample :=
  blocked_position_stranded StateEngine.sampleTtl [sampleCreation] killedPipeline rfl
    lookup_createdEngine (by decide +kernel) (DecisionEngine.qualityFeatures ⟨"mint"⟩ 1)
    (DecisionEngine.calmRisk "mint") "config" "v1" unixEpoch "" false
    (Or.inl (by decide +kernel))

/-- A kill switch does not sell the open position of a created token. -/
theorem blocked_position_not_sold : ¬ ∀ (ttl : TtlConfig) (events : List NormalizedEvent)
    (p : Pipeline), p.stateEngine = (StateEngine.new ttl).applyEvents events →
    ∀ (key : String) (token : TokenState), p.stateEngine.tokens.lookup key = some token →
    (p.paperExecutor.positions.lookup token.mint.text).isSome = true →
    ∀ (features : FeatureSnapshot) (risk : RiskAssessment) (configHash strategyVersion : String)
      (observedAt : OffsetDateTime) (decisionId : String),
      p.decisionEngine.hardBlocked risk = true ∨ p.gapBlocks token.mint.text = true →
      (p.applyRuntimeSafetyForToken token (p.decisionEngine.evaluate token features risk
        (p.paperExecutor.positionContext token.mint.text) configHash strategyVersion observedAt
        decisionId)).decisionEvent.decision.isExit = true := by
  intro h
  have hexit := h StateEngine.sampleTtl [sampleCreation] killedPipeline rfl "mint" createdToken
    lookup_createdEngine (by decide +kernel) (DecisionEngine.qualityFeatures ⟨"mint"⟩ 1)
    (DecisionEngine.calmRisk "mint") "config" "v1" unixEpoch ""
    (Or.inl (by decide +kernel))
  have hstop : (killedPipeline.applyRuntimeSafetyForToken createdToken
      (killedPipeline.decisionEngine.evaluate createdToken
        (DecisionEngine.qualityFeatures ⟨"mint"⟩ 1) (DecisionEngine.calmRisk "mint")
        (killedPipeline.paperExecutor.positionContext createdToken.mint.text) "config" "v1"
        unixEpoch "")).decisionEvent.decision = .stopTracking := by
    decide +kernel
  rw [hstop] at hexit
  exact absurd hexit (by decide)

end PumpLaunchTrader
