import PumpLaunchTrader.Model.Decision
import PumpLaunchTrader.Model.RpcBudget

/-! # Paper and live execution (`executor`)

A fill is booked into the ledger whether it succeeded or not. The labels that a fill
takes from the diagnostics of its decision are read back from their text. A live order is sent
when every check lets it through and the RPC budget has a credit for it. -/

namespace PumpLaunchTrader

/-! ## Reading diagnostics -/

/-- The value of a run of decimal digits; an empty run has none. -/
def parseDigits (digits : List Char) : Option ℕ :=
  if digits.isEmpty ∨ digits.any (fun c => !c.isDigit) then none
  else some (digits.foldl (fun n c => n * 10 + (c.toNat - '0'.toNat)) 0)

/-- `str::parse::<i64>`. -/
def parseI64 (text : String) : Option ℤ :=
  let value : Option ℤ :=
    match text.toList with
    | '-' :: digits => (parseDigits digits).map fun n => -(n : ℤ)
    | '+' :: digits => (parseDigits digits).map Int.ofNat
    | digits => (parseDigits digits).map Int.ofNat
  value.filter fun n => -2 ^ 63 ≤ n ∧ n < 2 ^ 63

/-- `str::parse::<bool>`. -/
def parseBool : String → Option Bool
  | "true" => some true
  | "false" => some false
  | _ => none

/-- The unsigned part of a decimal text. At most one point, separators after the first
digit only, a scale of at most 28 and a coefficient of at most 96 bits. -/
def parseDecimalBody : List Char → Bool → Bool → ℕ → ℕ → Option Decimal
  | [], _, seen, data, scale =>
    if seen ∧ data < 2 ^ 96 ∧ scale ≤ Decimal.maxScale then some (data / 10 ^ scale) else none
  | c :: rest, point, seen, data, scale =>
    if c.isDigit then
      parseDecimalBody rest point true (data * 10 + (c.toNat - '0'.toNat))
        (if point then scale + 1 else scale)
    else if c = '.' ∧ ¬ point then parseDecimalBody rest true seen data scale
    else if c = '_' ∧ seen then parseDecimalBody rest point seen data scale
    else none

/-- `Decimal::from_str_exact`. -/
def Decimal.fromStrExact (text : String) : Option Decimal :=
  match text.toList with
  | '-' :: body => (parseDecimalBody body false false 0 0).map fun value => -value
  | '+' :: body => parseDecimalBody body false false 0 0
  | body => parseDecimalBody body false false 0 0

def diagnosticValue (diagnostics : List String) (stem : String) : Option String :=
  diagnostics.findSome? fun value =>
    if stem.toList.isPrefixOf value.toList then
      some (String.ofList (value.toList.drop stem.length))
    else none

def diagnosticDecimal (diagnostics : List String) (stem : String) : Option Decimal :=
  (diagnosticValue diagnostics stem).bind Decimal.fromStrExact

def diagnosticI64 (diagnostics : List String) (stem : String) : Option ℤ :=
  (diagnosticValue diagnostics stem).bind parseI64

def diagnosticBool (diagnostics : List String) (stem : String) : Bool :=
  ((diagnosticValue diagnostics stem).bind parseBool).getD false

/-- Some diagnostic starts with the text. -/
def hasDiagnosticStem (diagnostics : List String) (stem : String) : Bool :=
  diagnostics.any fun value => stem.toList.isPrefixOf value.toList

/-- `exit_source_label`. -/
def exitSourceLabel (diagnostics : List String) : String :=
  if "exit_by=shred_emergency_exit" ∈ diagnostics then "ShredEmergencyExit"
  else if "exit_by=account_effect_confirmed_exit" ∈ diagnostics then
    "AccountEffectConfirmedExit"
  else if "exit_by=geyser_processed_sell_confirmed" ∈ diagnostics then "GeyserProcessedExit"
  else if "exit_by=rooted_sell_confirmed" ∈ diagnostics then "RootedConfirmedExit"
  else if hasDiagnosticStem diagnostics "exit_by=trailing_stop" then "StrategyTrailingStop"
  else if hasDiagnosticStem diagnostics "exit_by=stop_loss" then "StrategyStopLoss"
  else if hasDiagnosticStem diagnostics "exit_by=take_profit" then "StrategyTakeProfit"
  else "StrategyExit"

/-- `parse_strategy`. -/
def parseStrategy : String → StrategyKind
  | "LaunchMomentumScalp" => .launchMomentumScalp
  | "HolderGrowthContinuation" => .holderGrowthContinuation
  | "SellAbsorptionBounce" => .sellAbsorptionBounce
  | "SmartCapitalRotation" => .smartCapitalRotation
  | "OrganicSlowGrind" => .organicSlowGrind
  | _ => .defensiveNoTrade

@[simp] theorem parseStrategy_name (strategy : StrategyKind) :
    parseStrategy strategy.name = strategy := by
  cases strategy <;> rfl

/-- `liquidity_depth`. -/
def liquidityDepth (token : TokenState) : Decimal :=
  if 0 < token.reserveDepth then token.reserveDepth else 100

/-! ## Positions and ledger -/

structure PaperPosition where
  mint : String
  side : ExecutionSide
  entryTime : OffsetDateTime
  entryPrice : Decimal
  sizeQuote : Decimal
  sizeTokens : Decimal
  feesPaid : Decimal
  currentValue : Decimal
  unrealizedPnl : Decimal := 0
  realizedPnl : Decimal := 0
  maxAdverseExcursion : Decimal := 0
  maxFavorableExcursion : Decimal := 0
  strategy : String
  entryDecisionId : String
  expectedEdgeQuote : Decimal
  entryRiskScores : List (String × Decimal)
  entryReasonCodes : List ReasonCode
  exitReasonCodes : List ReasonCode := []
  deriving DecidableEq, Repr

structure PaperLedger where
  fills : List FillEvent := []
  closedPnl : Decimal := 0
  feeDrag : Decimal := 0
  slippageDrag : Decimal := 0
  latencyDrag : Decimal := 0
  deriving DecidableEq, Repr

structure PaperExecutor where
  simulator : Simulator := {}
  positions : KeyedMap String PaperPosition := ∅
  ledger : PaperLedger := {}

namespace PaperExecutor

/-- `PaperExecutor::position_context`. -/
def positionContext (self : PaperExecutor) (mint : String) : Option OpenPositionContext :=
  (self.positions.lookup mint).map fun position =>
    { strategy := parseStrategy position.strategy
      entryTime := position.entryTime
      entryPrice := position.entryPrice
      sizeQuote := position.sizeQuote
      sizeTokens := position.sizeTokens
      entryFeesPaid := position.feesPaid
      maxAdverseExcursion := position.maxAdverseExcursion
      maxFavorableExcursion := position.maxFavorableExcursion
      expectedEdgeQuote := position.expectedEdgeQuote }

/-- The `EnterPaper` branch of `handle_decision`. -/
def enterPosition (self : PaperExecutor) (outcome : DecisionOutcome) (token : TokenState)
    (observedAt : OffsetDateTime) (forceFail : Bool) : PaperExecutor × Option FillEvent :=
  if (self.positions.lookup token.mint.text).isSome ∨ outcome.positionSizeQuote ≤ 0 then
    (self, none)
  else
    let result := self.simulator.simulateOrder
      { mint := token.mint
        side := .buy
        intendedTime := observedAt
        signalTime := observedAt
        sizeQuote := outcome.positionSizeQuote
        sizeTokens := none
        referencePrice := token.referencePrice
        liquidityQuoteDepth := liquidityDepth token
        maxSlippageBps := self.simulator.feeModel.params.buySlippageBps
        latency := Duration.milliseconds 150
        forceFail := forceFail }
    let ledger := { self.ledger with
      feeDrag := self.ledger.feeDrag + result.fees.totalQuote
      slippageDrag :=
        self.ledger.slippageDrag + result.fill.slippage * outcome.positionSizeQuote
      latencyDrag := self.ledger.latencyDrag + result.fill.latencyCostQuote.getD 0 }
    let fill := { result.fill with
      entryDecisionId := some outcome.decisionEvent.decisionId
      strategy := some outcome.decisionEvent.strategy
      entryPrice := some result.fill.fillPrice
      expectedEdgeQuote := some outcome.expectedEdge.expectedNetEdgeQuote
      entryRiskScores := outcome.decisionEvent.riskVector }
    if result.failed then
      let fill := { fill with
        netPnlQuote := some result.netQuotePnl
        grossPnlQuote := some (-result.fees.totalQuote) }
      ({ self with
          ledger := { ledger with
            closedPnl := ledger.closedPnl + result.netQuotePnl
            fills := ledger.fills ++ [fill] } },
        some fill)
    else
      ({ self with
          positions := self.positions.insert token.mint.text
            { mint := token.mint.text
              side := .buy
              entryTime := observedAt
              entryPrice := result.fill.fillPrice
              sizeQuote := outcome.positionSizeQuote
              sizeTokens := result.fill.filledSize
              feesPaid := result.fees.totalQuote
              currentValue := outcome.positionSizeQuote
              strategy := outcome.decisionEvent.strategy
              entryDecisionId := outcome.decisionEvent.decisionId
              expectedEdgeQuote := outcome.expectedEdge.expectedNetEdgeQuote
              entryRiskScores := outcome.decisionEvent.riskVector
              entryReasonCodes := outcome.decisionEvent.reasonCodes }
          ledger := { ledger with fills := ledger.fills ++ [fill] } },
        some fill)

/-- The sale of a whole position at a reference price. -/
def sellOrder (self : PaperExecutor) (position : PaperPosition) (token : TokenState)
    (referencePrice : Decimal) (observedAt : OffsetDateTime) (forceFail : Bool) :
    SimulatedOrderResult :=
  self.simulator.simulateOrder
    { mint := token.mint
      side := .sell
      intendedTime := observedAt
      signalTime := observedAt
      sizeQuote := position.sizeTokens * referencePrice
      sizeTokens := some position.sizeTokens
      referencePrice := max referencePrice (1 / 1000000000)
      liquidityQuoteDepth := liquidityDepth token
      maxSlippageBps := self.simulator.feeModel.params.sellSlippageBps
      latency := Duration.milliseconds 150
      forceFail := forceFail }

/-- The profit of a sale before the fees of the position and of the sale. -/
def grossPnl (position : PaperPosition) (result : SimulatedOrderResult) : Decimal :=
  result.fill.filledSize * result.fill.fillPrice - position.sizeQuote

def realizedPnl (position : PaperPosition) (result : SimulatedOrderResult) : Decimal :=
  grossPnl position result - position.feesPaid - result.fees.totalQuote

/-- The price an exit is referenced to: an emergency exit uses the warning price of the
tentative sell when the diagnostics carry one. -/
def referenceExitPrice (diagnostics : List String) (token : TokenState) : Decimal :=
  if exitSourceLabel diagnostics ∈ ["ShredEmergencyExit", "DeshredEmergencyExit"] then
    ((diagnosticDecimal diagnostics "expected_exit_price=").filter (0 < ·)).getD
      token.latestPrice
  else token.latestPrice

/-- The `Exit` and `EmergencyExit` branch of `handle_decision`. -/
def exitPosition (self : PaperExecutor) (outcome : DecisionOutcome) (token : TokenState)
    (observedAt : OffsetDateTime) (forceFail : Bool) : PaperExecutor × Option FillEvent :=
  match self.positions.lookup token.mint.text with
  | none => (self, none)
  | some position =>
    let diagnostics := outcome.diagnostics
    let result := self.sellOrder position token (referenceExitPrice diagnostics token)
      observedAt forceFail
    let realized := realizedPnl position result
    let fill := { result.fill with
      entryDecisionId := some position.entryDecisionId
      exitDecisionId := some outcome.decisionEvent.decisionId
      strategy := some position.strategy
      entryPrice := some position.entryPrice
      exitPrice := some result.fill.fillPrice
      grossPnlQuote := some (grossPnl position result)
      netPnlQuote := some realized
      holdTimeMs := some (Duration.wholeMilliseconds (observedAt - position.entryTime))
      maxAdverseExcursion := some position.maxAdverseExcursion
      maxFavorableExcursion := some position.maxFavorableExcursion
      exitReason := diagnostics.find? fun value => "exit_by=".toList.isPrefixOf value.toList
      exitClassification :=
        some (if outcome.decisionEvent.decision = .emergencyExit then "emergency" else "normal")
      expectedEdgeQuote := some position.expectedEdgeQuote
      actualRealizedEdgeQuote := some realized
      edgeForecastErrorQuote := some (realized - position.expectedEdgeQuote)
      entryRiskScores := position.entryRiskScores
      exitRiskScores := outcome.decisionEvent.riskVector
      exitSource := some (exitSourceLabel diagnostics)
      triggerEventId := diagnosticValue diagnostics "trigger_event_id="
      maliciousSellSignature := diagnosticValue diagnostics "malicious_sell_signature="
      maliciousSellSeller := diagnosticValue diagnostics "malicious_sell_seller="
      maliciousSellClassification :=
        diagnosticValue diagnostics "malicious_sell_classification="
      estimatedLossSavedQuote := diagnosticDecimal diagnostics "estimated_saved_loss_quote="
      realizedLossSavedQuote := diagnosticDecimal diagnostics "realized_loss_saved_quote="
      falsePositiveExit := diagnosticBool diagnostics "false_positive_exit="
      opportunityCostIfFalsePositive :=
        diagnosticDecimal diagnostics "opportunity_cost_if_false_positive="
      earlyIntentToGeyserProcessedLatencyMs :=
        diagnosticI64 diagnostics "early_intent_to_geyser_processed_latency_ms="
      earlyIntentToAccountEffectLatencyMs :=
        diagnosticI64 diagnostics "early_intent_to_account_effect_latency_ms="
      earlyIntentToRootedLatencyMs :=
        diagnosticI64 diagnostics "early_intent_to_rooted_latency_ms="
      exitLatencyMs := some 150 }
    ({ self with
        positions := self.positions.erase token.mint.text
        ledger := { self.ledger with
          feeDrag := self.ledger.feeDrag + result.fees.totalQuote
          slippageDrag :=
            self.ledger.slippageDrag + result.fill.slippage * position.sizeQuote
          closedPnl := self.ledger.closedPnl + realized
          fills := self.ledger.fills ++ [fill] } },
      some fill)

/-- The mark to market of a held position. -/
def markPosition (position : PaperPosition) (token : TokenState) : PaperPosition :=
  let currentValue := position.sizeTokens * token.latestPrice
  let pnl := currentValue - position.sizeQuote - position.feesPaid
  { position with
    currentValue := currentValue
    unrealizedPnl := pnl
    maxFavorableExcursion := max position.maxFavorableExcursion pnl
    maxAdverseExcursion := min position.maxAdverseExcursion pnl }

/-- `PaperExecutor::handle_decision`. -/
def handleDecision (self : PaperExecutor) (outcome : DecisionOutcome) (token : TokenState)
    (observedAt : OffsetDateTime) (forceFail : Bool) : PaperExecutor × Option FillEvent :=
  match outcome.decisionEvent.decision with
  | .enterPaper => self.enterPosition outcome token observedAt forceFail
  | .exit | .emergencyExit => self.exitPosition outcome token observedAt forceFail
  | .hold =>
    ({ self with
        positions := self.positions.adjust token.mint.text fun position =>
          markPosition position token },
      none)
  | _ => (self, none)

/-- One position of `liquidate_all`. It leaves the positions before its token is looked up. -/
def liquidatePosition (self : PaperExecutor) (tokens : KeyedMap String TokenState)
    (observedAt : OffsetDateTime) (reason mint : String) : PaperExecutor × Option FillEvent :=
  match self.positions.lookup mint with
  | none => (self, none)
  | some position =>
    let self := { self with positions := self.positions.erase mint }
    match tokens.lookup mint with
    | none => (self, none)
    | some token =>
      let result := self.sellOrder position token token.latestPrice observedAt false
      let realized := realizedPnl position result
      let fill := { result.fill with
        confirmationSource := some (result.fill.confirmationSource.getD reason)
        entryDecisionId := some position.entryDecisionId
        strategy := some position.strategy
        entryPrice := some position.entryPrice
        exitPrice := some result.fill.fillPrice
        grossPnlQuote := some (grossPnl position result)
        netPnlQuote := some realized
        holdTimeMs := some (Duration.wholeMilliseconds (observedAt - position.entryTime))
        maxAdverseExcursion := some position.maxAdverseExcursion
        maxFavorableExcursion := some position.maxFavorableExcursion
        exitReason := some reason
        exitClassification := some "scenario_end"
        exitSource := some "ScenarioEnd"
        expectedEdgeQuote := some position.expectedEdgeQuote
        actualRealizedEdgeQuote := some realized
        edgeForecastErrorQuote := some (realized - position.expectedEdgeQuote)
        entryRiskScores := position.entryRiskScores }
      ({ self with
          ledger := { self.ledger with
            feeDrag := self.ledger.feeDrag + result.fees.totalQuote
            slippageDrag :=
              self.ledger.slippageDrag + result.fill.slippage * position.sizeQuote
            latencyDrag := self.ledger.latencyDrag + result.fill.latencyCostQuote.getD 0
            closedPnl := self.ledger.closedPnl + realized
            fills := self.ledger.fills ++ [fill] } },
        some fill)

/-- `PaperExecutor::liquidate_all` on the tokens of a snapshot. -/
def liquidateAll (self : PaperExecutor) (tokens : KeyedMap String TokenState)
    (observedAt : OffsetDateTime) (reason : String) : PaperExecutor × List FillEvent :=
  self.positions.keys.foldl
    (fun acc mint =>
      let (next, fill) := acc.1.liquidatePosition tokens observedAt reason mint
      (next, acc.2 ++ fill.toList))
    (self, [])

end PaperExecutor

/-! ## Live execution -/

inductive LiveExecutionError where
  | liveDisabled
  | killSwitchActive
  | staleSignal
  | notExecutable
  | maxFeeExceeded
  | rpcBudgetDenied (error : RpcBudgetError)
  deriving DecidableEq, Repr

/-- A `Signer` holds a key outside the program. -/
structure Signer where
  publicKey : String
  signMessage : ByteArray → Except LiveExecutionError ByteArray

structure LiveExecutionResult where
  sent : Bool
  dryRun : Bool
  reason : String
  estimatedFeeQuote : Decimal
  deriving DecidableEq, Repr

/-- The fields of `ExecutionConfig` that live execution reads. -/
structure LiveExecutionConfig extends ExecutionConfig where
  maxFeeQuote : Decimal
  deriving DecidableEq, Repr

structure LiveExecutor where
  execution : LiveExecutionConfig
  simulator : Simulator
  signer : Signer
  rpcBudget : RpcBudgetManager
  dryRun : Bool
  killSwitch : Bool

/-- The arguments of `LiveExecutor::submit`. -/
structure LiveOrder where
  decision : DecisionOutcome
  token : TokenState
  configHash : String
  runId : String
  now : OffsetDateTime

namespace LiveExecutor

def new (execution : LiveExecutionConfig) (simulator : Simulator) (signer : Signer)
    (rpcBudget : RpcBudgetManager) (dryRun : Bool) : LiveExecutor :=
  { execution := execution
    simulator := simulator
    signer := signer
    rpcBudget := rpcBudget
    dryRun := dryRun
    killSwitch := false }

def setKillSwitch (self : LiveExecutor) (active : Bool) : LiveExecutor :=
  { self with killSwitch := active }

/-- The fee that an order is estimated at. -/
def estimatedFee (self : LiveExecutor) (order : LiveOrder) : Decimal :=
  (self.simulator.feeModel.feeBreakdown order.decision.positionSizeQuote false false).totalQuote

/-- The request that an order makes of the budget. -/
def sendRequest (order : LiveOrder) : RpcCallRequest :=
  { timestamp := order.now
    endpoint := "configured-rpc"
    method := "sendTransaction"
    callerModule := "executor"
    reason := .executionSend
    category := .transactionSend
    networkKind := .jsonRpc
    relatedToken := some order.token.mint.text
    relatedSignature := none
    estimatedProviderCreditCost := 1
    actualProviderCreditCost := none
    configHash := order.configHash
    runId := order.runId
    liveMode := true }

/-- `LiveExecutor::submit`. The budget is charged in a dry run too. -/
def submit (self : LiveExecutor) (order : LiveOrder) :
    LiveExecutor × Except LiveExecutionError LiveExecutionResult :=
  if ¬ self.execution.liveEnabled then (self, .error .liveDisabled)
  else if self.killSwitch then (self, .error .killSwitchActive)
  else if ¬ (order.decision.decisionEvent.decision = .enterLive ∨
      order.decision.decisionEvent.decision = .enterPaper) then (self, .error .notExecutable)
  else if Duration.seconds 3 < order.now - order.decision.decisionEvent.noLookaheadTimestamp then
    (self, .error .staleSignal)
  else if self.execution.maxFeeQuote < self.estimatedFee order then
    (self, .error .maxFeeExceeded)
  else
    match self.signer.signMessage order.token.mint.text.toUTF8 with
    | .error error => (self, .error error)
    | .ok _ =>
      match self.rpcBudget.checkAndRecord (sendRequest order) with
      | (rpcBudget, .error error) =>
        ({ self with rpcBudget := rpcBudget }, .error (.rpcBudgetDenied error))
      | (rpcBudget, .ok _) =>
        ({ self with rpcBudget := rpcBudget },
          .ok
            { sent := !self.dryRun
              dryRun := self.dryRun
              reason :=
                if self.dryRun then "dry_run_guard" else "submitted_by_" ++ self.signer.publicKey
              estimatedFeeQuote := self.estimatedFee order })

end LiveExecutor

end PumpLaunchTrader
