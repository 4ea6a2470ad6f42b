import PumpLaunchTrader.Model.Executor

/-! # What the paper executor books

An entry is filled or fails, an exit sells the whole position or fails, and a liquidation
sells a position or drops it. Every fill is booked with its fees and its net result. -/

namespace PumpLaunchTrader

/-- What a sale of a position is settled against. Marking to market leaves it alone. -/
structure Stake where
  sizeQuote : Decimal
  sizeTokens : Decimal
  feesPaid : Decimal
  entryDecisionId : String
  deriving DecidableEq

def PaperPosition.stake (self : PaperPosition) : Stake :=
  { sizeQuote := self.sizeQuote
    sizeTokens := self.sizeTokens
    feesPaid := self.feesPaid
    entryDecisionId := self.entryDecisionId }

namespace PaperExecutor

def new (simulator : Simulator) : PaperExecutor := { simulator := simulator }

/-- The stake of the open position in a mint. -/
def stakeOf (self : PaperExecutor) (mint : String) : Option Stake :=
  (self.positions.lookup mint).map PaperPosition.stake

/-- A fill is added to the ledger, with its result and its fees. -/
structure Books (before : PaperExecutor) (fill : FillEvent) (after : PaperExecutor) : Prop where
  fills : after.ledger.fills = before.ledger.fills ++ [fill]
  closedPnl : after.ledger.closedPnl = before.ledger.closedPnl + fill.netPnlQuote.getD 0
  feeDrag : after.ledger.feeDrag = before.ledger.feeDrag + fill.fees

/-- The ledger stays, and so does what every position is settled against. -/
structure Keeps (before after : PaperExecutor) : Prop where
  ledger : after.ledger = before.ledger
  stakes : ∀ mint, after.stakeOf mint = before.stakeOf mint

/-- An entry that fails is booked and opens nothing. -/
structure FailsEntry (before : PaperExecutor) (fill : FillEvent) (after : PaperExecutor) :
    Prop where
  books : Books before fill after
  side : fill.side = .buy
  failed : fill.failureReason.isSome = true
  filledSize : fill.filledSize = 0
  stakes : ∀ mint, after.stakeOf mint = before.stakeOf mint

/-- The fill that a position was opened with. -/
structure Opens (fill : FillEvent) (stake : Stake) : Prop where
  side : fill.side = .buy
  filled : fill.failureReason = none
  notional : fill.notional = stake.sizeQuote
  filledSize : fill.filledSize = stake.sizeTokens
  fees : fill.fees = stake.feesPaid
  entryDecisionId : fill.entryDecisionId = some stake.entryDecisionId

/-- An entry opens a position in a mint that has none. -/
structure OpensPosition (before : PaperExecutor) (fill : FillEvent) (stake : Stake)
    (after : PaperExecutor) : Prop where
  books : Books before fill after
  net : fill.netPnlQuote = none
  opens : Opens fill stake
  size : 0 < stake.sizeTokens
  free : before.stakeOf fill.mint.text = none
  stakes : ∀ mint, after.stakeOf mint =
    if mint = fill.mint.text then some stake else before.stakeOf mint

/-- A sale closes the position under a key. What it nets is its proceeds less what the
position cost and the fees of both ends. -/
structure ClosesPosition (before : PaperExecutor) (key : String) (stake : Stake)
    (fill : FillEvent) (after : PaperExecutor) : Prop where
  books : Books before fill after
  side : fill.side = .sell
  net : fill.netPnlQuote =
    some (fill.filledSize * fill.fillPrice - stake.sizeQuote - stake.feesPaid - fill.fees)
  entryDecisionId : fill.entryDecisionId = some stake.entryDecisionId
  held : before.stakeOf key = some stake
  stakes : ∀ mint, after.stakeOf mint = if mint = key then none else before.stakeOf mint

/-- A position that is removed without a fill. -/
structure DropsPosition (before : PaperExecutor) (key : String) (after : PaperExecutor) :
    Prop where
  ledger : after.ledger = before.ledger
  stakes : ∀ mint, after.stakeOf mint = if mint = key then none else before.stakeOf mint

theorem Keeps.refl (self : PaperExecutor) : Keeps self self :=
  ⟨rfl, fun _ => rfl⟩

/-! ## Simulated orders -/

/-- The factor between the reference price and the price of a fill. -/
theorem impactMultiplier_pos (notional depth : Decimal) (bps : ℕ) :
    (0 : ℚ) < 1 + (if 0 < depth then clampNonnegative (notional / depth) else 1) +
      (bps : ℚ) / 10000 := by
  have himpact : (0 : ℚ) ≤ if 0 < depth then clampNonnegative (notional / depth) else 1 := by
    by_cases h : 0 < depth
    · rw [if_pos h]
      exact le_max_right _ _
    · rw [if_neg h]
      exact zero_le_one
  positivity

/-- An order that is forced to fail fills nothing. -/
theorem filledSize_of_forceFail (simulator : Simulator) {request : SimulatedOrderRequest}
    (h : request.forceFail = true) : (simulator.simulateOrder request).fill.filledSize = 0 := by
  simp only [Simulator.simulateOrder]
  rw [if_pos (Or.inl h)]

/-- A sale at a positive reference price is filled as a whole. -/
theorem filledSize_sell (simulator : Simulator) {request : SimulatedOrderRequest}
    {tokens : Decimal} (hside : request.side = .sell) (htokens : request.sizeTokens = some tokens)
    (hprice : 0 < request.referencePrice) (h : request.forceFail = false) :
    (simulator.simulateOrder request).fill.filledSize = tokens := by
  have hmultiplier := impactMultiplier_pos (tokens * request.referencePrice)
    request.liquidityQuoteDepth
    (min simulator.feeModel.params.sellSlippageBps request.maxSlippageBps)
  have himpacted := not_le.mpr (div_pos hprice hmultiplier)
  simp only [Simulator.simulateOrder, hside, htokens, Option.map_some, Option.getD_some, h]
  rw [if_neg (not_or.mpr ⟨Bool.false_ne_true, himpacted⟩)]

/-- A buy at a positive reference price fills something. -/
theorem filledSize_buy (simulator : Simulator) {request : SimulatedOrderRequest}
    (hside : request.side = .buy) (hprice : 0 < request.referencePrice)
    (hsize : 0 < request.sizeQuote) (h : request.forceFail = false) :
    0 < (simulator.simulateOrder request).fill.filledSize := by
  have hmultiplier := impactMultiplier_pos request.sizeQuote request.liquidityQuoteDepth
    (min simulator.feeModel.params.buySlippageBps request.maxSlippageBps)
  have himpacted := mul_pos hprice hmultiplier
  simp only [Simulator.simulateOrder, hside, h]
  rw [if_neg (not_or.mpr ⟨Bool.false_ne_true, not_le.mpr himpacted⟩)]
  exact div_pos hsize himpacted

/-- The fill of the sale of a position. -/
theorem filledSize_sellOrder (self : PaperExecutor) (position : PaperPosition)
    (token : TokenState) (referencePrice : Decimal) (observedAt : OffsetDateTime)
    (forceFail : Bool) :
    (self.sellOrder position token referencePrice observedAt forceFail).fill.filledSize =
      if forceFail then 0 else position.sizeTokens := by
  cases forceFail with
  | true => exact filledSize_of_forceFail _ rfl
  | false =>
      exact filledSize_sell _ rfl rfl (lt_max_of_lt_right (by norm_num)) rfl

/-! ## Branches of `handle_decision` -/

theorem referencePrice_pos (token : TokenState) : 0 < token.referencePrice := by
  unfold TokenState.referencePrice
  exact lt_max_of_lt_right (by norm_num)

/-- The order of an entry. -/
def buyRequest (self : PaperExecutor) (outcome : DecisionOutcome) (token : TokenState)
    (observedAt : OffsetDateTime) (forceFail : Bool) : SimulatedOrderRequest :=
  { mint := token.mint
    side := .buy
    intendedTime := observedAt
    signalTime := observedAt
    sizeQuote := outcome.positionSizeQuote
    sizeTokens := none
    referencePrice := token.referencePrice
    liquidityQuoteDepth := liquidityDepth token
    maxSlippageBps := self.simulator.feeModel.params.buySlippageBps
    latency := Duration.milliseconds 150
    forceFail := forceFail }

/-- The stake of the position that an entry opens. -/
def boughtStake (self : PaperExecutor) (outcome : DecisionOutcome) (token : TokenState)
    (observedAt : OffsetDateTime) : Stake :=
  let result := self.simulator.simulateOrder
    (self.buyRequest outcome token observedAt false)
  { sizeQuote := outcome.positionSizeQuote
    sizeTokens := result.fill.filledSize
    feesPaid := result.fees.totalQuote
    entryDecisionId := outcome.decisionEvent.decisionId }

theorem boughtStake_size_pos (self : PaperExecutor) {outcome : DecisionOutcome}
    (h : 0 < outcome.positionSizeQuote) (token : TokenState) (observedAt : OffsetDateTime) :
    0 < (self.boughtStake outcome token observedAt).sizeTokens :=
  filledSize_buy self.simulator rfl (referencePrice_pos token) h rfl

/-- An entry is ignored, fails or opens a position. -/
theorem enterPosition_spec (self : PaperExecutor) (outcome : DecisionOutcome)
    (token : TokenState) (observedAt : OffsetDateTime) (forceFail : Bool) :
    let after := (self.enterPosition outcome token observedAt forceFail).1
    after = self ∨ (∃ fill, FailsEntry self fill after) ∨
      ∃ fill stake, OpensPosition self fill stake after := by
  intro after
  by_cases hignored : (self.positions.lookup token.mint.text).isSome ∨
      outcome.positionSizeQuote ≤ 0
  · left
    simp only [after, enterPosition, if_pos hignored]
  right
  obtain ⟨hfree, hsize⟩ := not_or.mp hignored
  rw [Option.not_isSome_iff_eq_none] at hfree
  cases forceFail with
  | true =>
      left
      simp only [after, enterPosition, if_neg hignored]
      have hnothing := filledSize_of_forceFail self.simulator
        (show (self.buyRequest outcome token observedAt true).forceFail = true from rfl)
      exact ⟨_, ⟨rfl, rfl, rfl⟩, rfl, rfl, hnothing, fun _ => rfl⟩
  | false =>
      right
      simp only [after, enterPosition, if_neg hignored]
      refine ⟨_, self.boughtStake outcome token observedAt, ⟨rfl, (add_zero _).symm, rfl⟩, rfl,
        ⟨rfl, rfl, rfl, rfl, rfl, rfl⟩, self.boughtStake_size_pos (not_le.mp hsize) token _, ?_,
        ?_⟩
      · exact congrArg (Option.map PaperPosition.stake) hfree
      · intro mint
        by_cases hmint : mint = token.mint.text
        · subst hmint
          exact (congrArg (Option.map PaperPosition.stake) (AList.lookup_insert _)).trans
            (if_pos rfl).symm
        · exact (congrArg (Option.map PaperPosition.stake) (AList.lookup_insert_ne hmint)).trans
            (if_neg hmint).symm

theorem stakeOf_erase (self : PaperExecutor) (key mint : String) :
    ((self.positions.erase key).lookup mint).map PaperPosition.stake =
      if mint = key then none else self.stakeOf mint := by
  by_cases h : mint = key
  · subst h
    simp
  · rw [if_neg h, AList.lookup_erase_ne h]
    rfl

/-- An exit without a position does nothing. -/
theorem exitPosition_of_none {self : PaperExecutor} {token : TokenState}
    (h : self.positions.lookup token.mint.text = none) (outcome : DecisionOutcome)
    (observedAt : OffsetDateTime) (forceFail : Bool) :
    (self.exitPosition outcome token observedAt forceFail).1 = self := by
  simp only [exitPosition, h]

/-- An exit closes the position, with an empty fill when it is forced to fail. -/
theorem exitPosition_of_some {self : PaperExecutor} {token : TokenState}
    {position : PaperPosition} (h : self.positions.lookup token.mint.text = some position)
    (outcome : DecisionOutcome) (observedAt : OffsetDateTime) (forceFail : Bool) :
    ∃ fill, fill.mint = token.mint ∧
      fill.filledSize = (if forceFail then 0 else position.sizeTokens) ∧
      ClosesPosition self token.mint.text position.stake fill
        (self.exitPosition outcome token observedAt forceFail).1 := by
  simp only [exitPosition, h]
  have hheld : self.stakeOf token.mint.text = some position.stake :=
    congrArg (Option.map PaperPosition.stake) h
  refine ⟨_, ?_, ?_, ⟨rfl, rfl, rfl⟩, rfl, rfl, rfl, hheld, self.stakeOf_erase token.mint.text⟩
  · rfl
  · exact self.filledSize_sellOrder position token _ observedAt forceFail

/-- Holding marks the position to market. -/
theorem stakeOf_adjust (self : PaperExecutor) (token : TokenState) (mint : String) :
    ((self.positions.adjust token.mint.text fun position => markPosition position token).lookup
      mint).map PaperPosition.stake = self.stakeOf mint := by
  rw [KeyedMap.lookup_adjust]
  by_cases h : mint = token.mint.text
  · subst h
    rw [if_pos rfl, Option.map_map]
    rfl
  · rw [if_neg h]
    rfl

/-! ## Positions of `liquidate_all` -/

theorem liquidatePosition_of_none {self : PaperExecutor} {mint : String}
    (h : self.positions.lookup mint = none) (tokens : KeyedMap String TokenState)
    (observedAt : OffsetDateTime) (reason : String) :
    (self.liquidatePosition tokens observedAt reason mint).1 = self := by
  simp only [liquidatePosition, h]

/-- A position without a token is dropped. -/
theorem liquidatePosition_of_missing {self : PaperExecutor} {mint : String}
    {position : PaperPosition} (h : self.positions.lookup mint = some position)
    {tokens : KeyedMap String TokenState} (htoken : tokens.lookup mint = none)
    (observedAt : OffsetDateTime) (reason : String) :
    DropsPosition self mint (self.liquidatePosition tokens observedAt reason mint).1 := by
  simp only [liquidatePosition, h, htoken]
  exact ⟨rfl, self.stakeOf_erase mint⟩

/-- A position with a token is sold as a whole. -/
theorem liquidatePosition_of_some {self : PaperExecutor} {mint : String}
    {position : PaperPosition} (h : self.positions.lookup mint = some position)
    {tokens : KeyedMap String TokenState} {token : TokenState}
    (htoken : tokens.lookup mint = some token) (observedAt : OffsetDateTime) (reason : String) :
    ∃ fill, fill.mint = token.mint ∧ fill.filledSize = position.sizeTokens ∧
      ClosesPosition self mint position.stake fill
        (self.liquidatePosition tokens observedAt reason mint).1 := by
  simp only [liquidatePosition, h, htoken]
  have hheld : self.stakeOf mint = some position.stake :=
    congrArg (Option.map PaperPosition.stake) h
  refine ⟨_, ?_, ?_, ⟨rfl, rfl, rfl⟩, rfl, rfl, rfl, hheld, self.stakeOf_erase mint⟩
  · rfl
  · exact self.filledSize_sellOrder position token token.latestPrice observedAt false

end PaperExecutor

end PumpLaunchTrader
