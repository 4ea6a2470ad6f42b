import PumpLaunchTrader.Executor.Booking
import PumpLaunchTrader.Lib.Means

/-! # Simulated fills and the depth of the pool

The price of a simulated order moves by its share in the depth of the pool. A buy fills fewer
tokens than the depth would buy at the reference price, a sale brings in less than the depth,
and a round trip at a price that does not rise loses more than its fees. -/

namespace PumpLaunchTrader

/-- What an order brings in. -/
def SimulatedOrderResult.proceeds (result : SimulatedOrderResult) : Decimal :=
  result.fill.filledSize * result.fill.fillPrice

/-- The order for another amount of quote. -/
def SimulatedOrderRequest.withQuote (request : SimulatedOrderRequest) (quote : Decimal) :
    SimulatedOrderRequest :=
  { request with sizeQuote := quote }

/-- The order for another number of tokens. -/
def SimulatedOrderRequest.withTokens (request : SimulatedOrderRequest) (tokens : Decimal) :
    SimulatedOrderRequest :=
  { request with sizeTokens := some tokens }

/-- An order against a pool: it has a price and a depth. -/
structure SimulatedOrderRequest.InPool (request : SimulatedOrderRequest) : Prop where
  price : 0 < request.referencePrice
  depth : 0 < request.liquidityQuoteDepth

/-- A position that a round trip opens and closes against a pool. -/
structure PositionIntent.InPool (intent : PositionIntent) : Prop where
  size : 0 < intent.sizeQuote
  entryPrice : 0 < intent.entryPrice
  exitPrice : 0 < intent.exitPrice
  depth : 0 < intent.liquidityQuoteDepth

namespace Simulator

variable (simulator : Simulator) (request : SimulatedOrderRequest)

/-- `slippage_pct`: the configured slippage, up to the cap of the order. -/
def slippagePct : Decimal :=
  (min (match request.side with
    | .buy => simulator.feeModel.params.buySlippageBps
    | .sell => simulator.feeModel.params.sellSlippageBps) request.maxSlippageBps : ℕ) / 10000

theorem slippagePct_nonneg : 0 ≤ simulator.slippagePct request := by
  unfold slippagePct
  positivity

/-- The factor of `simulate_order` is the multiplier of a linear impact. -/
theorem impactMultiplier_eq {value depth : Decimal} (spread : Decimal) (hvalue : 0 < value)
    (hdepth : 0 < depth) :
    1 + (if 0 < depth then clampNonnegative (value / depth) else 1) + spread =
      PriceImpact.multiplier depth spread value := by
  have hshare : 0 ≤ value / depth := (div_pos hvalue hdepth).le
  rw [if_pos hdepth, clampNonnegative, max_eq_left hshare, PriceImpact.multiplier]

/-! ## Buys -/

theorem fillPrice_buy (hside : request.side = .buy) (hpool : request.InPool)
    (hquote : 0 < request.sizeQuote) :
    (simulator.simulateOrder request).fill.fillPrice =
      request.referencePrice * PriceImpact.multiplier request.liquidityQuoteDepth
        (simulator.slippagePct request) request.sizeQuote := by
  rw [← impactMultiplier_eq _ hquote hpool.depth]
  simp only [simulateOrder, slippagePct, hside]

theorem fillPrice_buy_pos (hside : request.side = .buy) (hpool : request.InPool)
    (hquote : 0 < request.sizeQuote) :
    0 < (simulator.simulateOrder request).fill.fillPrice := by
  rw [simulator.fillPrice_buy request hside hpool hquote]
  exact mul_pos hpool.price
    (PriceImpact.multiplier_pos hpool.depth (simulator.slippagePct_nonneg request) hquote)

/-- What a buy fills is what the impact leaves of its quote, at the reference price. -/
theorem filledSize_buy_eq (hside : request.side = .buy) (hpool : request.InPool)
    (hquote : 0 < request.sizeQuote) (hforced : request.forceFail = false) :
    (simulator.simulateOrder request).fill.filledSize =
      PriceImpact.remainder request.liquidityQuoteDepth (simulator.slippagePct request)
        request.sizeQuote / request.referencePrice := by
  have hprice := simulator.fillPrice_buy_pos request hside hpool hquote
  have hfilled : (simulator.simulateOrder request).fill.filledSize =
      request.sizeQuote / (simulator.simulateOrder request).fill.fillPrice := by
    simp only [simulateOrder, hside, hforced] at hprice ⊢
    rw [if_neg (not_or.mpr ⟨Bool.false_ne_true, not_le.mpr hprice⟩)]
  rw [hfilled, simulator.fillPrice_buy request hside hpool hquote, PriceImpact.remainder, div_div,
    mul_comm]

theorem referencePrice_lt_fillPrice (hside : request.side = .buy) (hpool : request.InPool)
    (hquote : 0 < request.sizeQuote) :
    request.referencePrice < (simulator.simulateOrder request).fill.fillPrice := by
  rw [simulator.fillPrice_buy request hside hpool hquote]
  exact lt_mul_of_one_lt_right hpool.price
    (PriceImpact.one_lt_multiplier hpool.depth (simulator.slippagePct_nonneg request) hquote)

/-- A buy fills fewer tokens than the depth would buy at the reference price. -/
theorem filledSize_lt_depth (hside : request.side = .buy) (hpool : request.InPool)
    (hquote : 0 < request.sizeQuote) :
    (simulator.simulateOrder request).fill.filledSize <
      request.liquidityQuoteDepth / request.referencePrice := by
  cases hforced : request.forceFail with
  | true =>
      rw [PaperExecutor.filledSize_of_forceFail simulator hforced]
      exact div_pos hpool.depth hpool.price
  | false =>
      rw [simulator.filledSize_buy_eq request hside hpool hquote hforced]
      exact div_lt_div_of_pos_right (PriceImpact.remainder_lt_depth hpool.depth
        (simulator.slippagePct_nonneg request) hquote) hpool.price

/-- A larger buy fills more, unless it is forced to fail. -/
theorem filledSize_lt_filledSize (hside : request.side = .buy) (hpool : request.InPool)
    (hquote : 0 < request.sizeQuote) (hforced : request.forceFail = false) {larger : Decimal}
    (hlarger : request.sizeQuote < larger) :
    (simulator.simulateOrder request).fill.filledSize <
      (simulator.simulateOrder (request.withQuote larger)).fill.filledSize := by
  have hmore := simulator.filledSize_buy_eq (request.withQuote larger) hside
    ⟨hpool.price, hpool.depth⟩ (hquote.trans hlarger) hforced
  rw [simulator.filledSize_buy_eq request hside hpool hquote hforced, hmore]
  exact div_lt_div_of_pos_right (PriceImpact.remainder_lt_remainder hpool.depth
    (simulator.slippagePct_nonneg request) hquote hlarger) hpool.price

/-! ## Sales -/

/-- What a sale brings in is what the impact leaves of its value at the reference price. -/
theorem proceeds_sell (hside : request.side = .sell) (hpool : request.InPool)
    {tokens : Decimal} (htokens : request.sizeTokens = some tokens) (hpos : 0 < tokens)
    (hforced : request.forceFail = false) :
    (simulator.simulateOrder request).proceeds =
      PriceImpact.remainder request.liquidityQuoteDepth (simulator.slippagePct request)
        (tokens * request.referencePrice) := by
  have hvalue : 0 < tokens * request.referencePrice := mul_pos hpos hpool.price
  have hprice : (simulator.simulateOrder request).fill.fillPrice =
      request.referencePrice / PriceImpact.multiplier request.liquidityQuoteDepth
        (simulator.slippagePct request) (tokens * request.referencePrice) := by
    rw [← impactMultiplier_eq _ hvalue hpool.depth]
    simp only [simulateOrder, slippagePct, hside, htokens, Option.map_some, Option.getD_some]
  rw [SimulatedOrderResult.proceeds,
    PaperExecutor.filledSize_sell simulator hside htokens hpool.price hforced, hprice,
    PriceImpact.remainder, mul_div_assoc]

theorem proceeds_of_forceFail (hforced : request.forceFail = true) :
    (simulator.simulateOrder request).proceeds = 0 := by
  rw [SimulatedOrderResult.proceeds, PaperExecutor.filledSize_of_forceFail simulator hforced,
    zero_mul]

/-- A sale brings in less than its tokens are worth, and less than the depth. -/
theorem proceeds_lt_min (hside : request.side = .sell) (hpool : request.InPool)
    {tokens : Decimal} (htokens : request.sizeTokens = some tokens) (hpos : 0 < tokens) :
    (simulator.simulateOrder request).proceeds <
      min (tokens * request.referencePrice) request.liquidityQuoteDepth := by
  have hvalue : 0 < tokens * request.referencePrice := mul_pos hpos hpool.price
  cases hforced : request.forceFail with
  | true =>
      rw [simulator.proceeds_of_forceFail request hforced]
      exact lt_min hvalue hpool.depth
  | false =>
      rw [simulator.proceeds_sell request hside hpool htokens hpos hforced]
      exact lt_min
        (PriceImpact.remainder_lt_value hpool.depth (simulator.slippagePct_nonneg request) hvalue)
        (PriceImpact.remainder_lt_depth hpool.depth (simulator.slippagePct_nonneg request) hvalue)

/-- A larger sale brings in more, unless it is forced to fail. -/
theorem proceeds_lt_proceeds (hside : request.side = .sell) (hpool : request.InPool)
    {tokens : Decimal} (htokens : request.sizeTokens = some tokens) (hpos : 0 < tokens)
    (hforced : request.forceFail = false) {larger : Decimal} (hlarger : tokens < larger) :
    (simulator.simulateOrder request).proceeds <
      (simulator.simulateOrder (request.withTokens larger)).proceeds := by
  have hmore := simulator.proceeds_sell (request.withTokens larger) hside
    ⟨hpool.price, hpool.depth⟩ rfl (hpos.trans hlarger) hforced
  rw [simulator.proceeds_sell request hside hpool htokens hpos hforced, hmore]
  exact PriceImpact.remainder_lt_remainder hpool.depth (simulator.slippagePct_nonneg request)
    (mul_pos hpos hpool.price) (mul_lt_mul_of_pos_right hlarger hpool.price)

/-! ## Round trips -/

theorem lamportsToQuote_nonneg (lamports : ℕ) : 0 ≤ lamportsToQuote lamports := by
  unfold lamportsToQuote
  positivity

theorem totalQuote_nonneg (fees : FeeModel) {notional : Decimal} (hnotional : 0 ≤ notional)
    (includeAta failed : Bool) : 0 ≤ (fees.feeBreakdown notional includeAta failed).totalQuote := by
  have hbps : ∀ bps : ℕ, 0 ≤ notional * bps / 10000 := fun bps => by positivity
  have hunless : ∀ (charged : Bool) (lamports : ℕ),
      0 ≤ if charged then lamportsToQuote lamports else 0 := fun charged lamports => by
    cases charged with
    | true => exact lamportsToQuote_nonneg lamports
    | false => exact le_rfl
  unfold FeeModel.feeBreakdown
  have hbase := lamportsToQuote_nonneg
  simp only
  have hcharges := add_nonneg (add_nonneg (add_nonneg
    (hbase fees.params.baseFeeLamportsPerSignature) (hbase fees.priorityFeeLamports))
    (hbase fees.params.tipLamports)) (hunless includeAta fees.params.ataRentLamports)
  exact add_nonneg (add_nonneg (add_nonneg (add_nonneg hcharges
    (hbps fees.params.creatorFeeBps)) (hbps fees.params.protocolFeeBps))
    (hbps fees.params.lpFeeBps)) (hunless failed fees.params.failedTransactionFeeLamports)

/-- The buy of a round trip. -/
def entryOrder (intent : PositionIntent) : SimulatedOrderRequest :=
  { mint := intent.mint
    side := .buy
    intendedTime := intent.entryTime
    signalTime := intent.entryTime
    sizeQuote := intent.sizeQuote
    referencePrice := intent.entryPrice
    liquidityQuoteDepth := intent.liquidityQuoteDepth
    maxSlippageBps := simulator.feeModel.params.buySlippageBps
    sizeTokens := none
    latency := Duration.milliseconds 150
    forceFail := false }

/-- The sale of a round trip. -/
def exitOrder (intent : PositionIntent) (tokens : Decimal) : SimulatedOrderRequest :=
  { mint := intent.mint
    side := .sell
    intendedTime := intent.exitTime
    signalTime := intent.exitTime
    sizeQuote := tokens * intent.exitPrice
    sizeTokens := some tokens
    referencePrice := intent.exitPrice
    liquidityQuoteDepth := intent.liquidityQuoteDepth
    maxSlippageBps := simulator.feeModel.params.sellSlippageBps
    latency := Duration.milliseconds 150
    forceFail := false }

/-- The tokens that the buy of a round trip fills. -/
def boughtTokens (intent : PositionIntent) : Decimal :=
  (simulator.simulateOrder (simulator.entryOrder intent)).fill.filledSize

theorem simulateRoundTrip_eq (intent : PositionIntent) :
    simulator.simulateRoundTrip intent =
      let buy := simulator.simulateOrder (simulator.entryOrder intent)
      let sell := simulator.simulateOrder
        (simulator.exitOrder intent (simulator.boughtTokens intent))
      (buy, sell,
        sell.proceeds - intent.sizeQuote - buy.fees.totalQuote - sell.fees.totalQuote) :=
  rfl

theorem boughtTokens_mul (intent : PositionIntent) (hpool : intent.InPool) :
    simulator.boughtTokens intent * intent.entryPrice =
      PriceImpact.remainder intent.liquidityQuoteDepth
        (simulator.slippagePct (simulator.entryOrder intent)) intent.sizeQuote := by
  rw [boughtTokens, simulator.filledSize_buy_eq (simulator.entryOrder intent) rfl
    ⟨hpool.entryPrice, hpool.depth⟩ hpool.size rfl]
  exact div_mul_cancel₀ _ hpool.entryPrice.ne'

theorem boughtTokens_pos (intent : PositionIntent) (hpool : intent.InPool) :
    0 < simulator.boughtTokens intent := by
  have hleft := PriceImpact.remainder_pos hpool.depth
    (simulator.slippagePct_nonneg (simulator.entryOrder intent)) hpool.size
  rw [← simulator.boughtTokens_mul intent hpool] at hleft
  exact (mul_pos_iff_of_pos_right hpool.entryPrice).mp hleft

/-- At a price that does not rise, the tokens are sold for less than the quote they cost: the
impact of the buy takes its part, and the impact of the sale another. -/
theorem roundTrip_proceeds_lt {intent : PositionIntent} (hpool : intent.InPool)
    (hfall : intent.exitPrice ≤ intent.entryPrice) :
    (simulator.simulateOrder
      (simulator.exitOrder intent (simulator.boughtTokens intent))).proceeds <
      intent.sizeQuote := by
  have hpos := simulator.boughtTokens_pos intent hpool
  have hsold := simulator.proceeds_lt_min
    (simulator.exitOrder intent (simulator.boughtTokens intent)) rfl
    ⟨hpool.exitPrice, hpool.depth⟩ rfl hpos
  calc (simulator.simulateOrder
        (simulator.exitOrder intent (simulator.boughtTokens intent))).proceeds
      < simulator.boughtTokens intent * intent.exitPrice := hsold.trans_le (min_le_left _ _)
    _ ≤ simulator.boughtTokens intent * intent.entryPrice :=
        mul_le_mul_of_nonneg_left hfall hpos.le
    _ = PriceImpact.remainder intent.liquidityQuoteDepth
          (simulator.slippagePct (simulator.entryOrder intent)) intent.sizeQuote :=
        simulator.boughtTokens_mul intent hpool
    _ < intent.sizeQuote := PriceImpact.remainder_lt_value hpool.depth
        (simulator.slippagePct_nonneg (simulator.entryOrder intent)) hpool.size

/-- The fees of an order are those of its notional. -/
theorem fees_nonneg
    (hnotional : 0 ≤ (simulator.simulateOrder request).fill.notional) :
    0 ≤ (simulator.simulateOrder request).fees.totalQuote :=
  totalQuote_nonneg simulator.feeModel hnotional false request.forceFail

theorem notional_buy (hside : request.side = .buy) :
    (simulator.simulateOrder request).fill.notional = request.sizeQuote := by
  simp only [simulateOrder, hside]

theorem notional_sell (hside : request.side = .sell) {tokens : Decimal}
    (htokens : request.sizeTokens = some tokens) (hprice : 0 < request.referencePrice)
    (hforced : request.forceFail = false) :
    (simulator.simulateOrder request).fill.notional =
      (simulator.simulateOrder request).proceeds := by
  rw [SimulatedOrderResult.proceeds,
    PaperExecutor.filledSize_sell simulator hside htokens hprice hforced]
  simp only [simulateOrder, hside, htokens, Option.map_some, Option.getD_some]

/-- A round trip at a price that does not rise loses at least the fees of both its orders, and
something beside them. -/
theorem roundTrip_net {intent : PositionIntent} (hpool : intent.InPool)
    (hfall : intent.exitPrice ≤ intent.entryPrice) :
    (simulator.simulateRoundTrip intent).2.2 < 0 ∧
      (simulator.simulateRoundTrip intent).2.2 ≤
        -((simulator.simulateRoundTrip intent).1.fees.totalQuote +
          (simulator.simulateRoundTrip intent).2.1.fees.totalQuote) := by
  have hlost := simulator.roundTrip_proceeds_lt hpool hfall
  have hbuy : 0 ≤ (simulator.simulateOrder (simulator.entryOrder intent)).fees.totalQuote := by
    apply simulator.fees_nonneg
    rw [simulator.notional_buy (simulator.entryOrder intent) rfl]
    exact hpool.size.le
  have hsell : 0 ≤ (simulator.simulateOrder
      (simulator.exitOrder intent (simulator.boughtTokens intent))).fees.totalQuote := by
    apply simulator.fees_nonneg
    have hpos := simulator.boughtTokens_pos intent hpool
    rw [simulator.notional_sell
      (simulator.exitOrder intent (simulator.boughtTokens intent)) rfl rfl
      hpool.exitPrice rfl, simulator.proceeds_sell
      (simulator.exitOrder intent (simulator.boughtTokens intent)) rfl
      ⟨hpool.exitPrice, hpool.depth⟩ rfl hpos rfl]
    exact (PriceImpact.remainder_pos hpool.depth (simulator.slippagePct_nonneg _)
      (mul_pos hpos hpool.exitPrice)).le
  simp only [simulateRoundTrip_eq]
  constructor
  · linarith
  · linarith

end Simulator

/-! ## Fills and the pool -/

/-- Every fill stays within the pool, the larger of two orders fills or brings in more unless
they are forced to fail, and no round trip gains from a price that does not rise. -/
theorem fills_respect_pool (simulator : Simulator) :
    (∀ request : SimulatedOrderRequest, request.side = .buy → request.InPool →
      0 < request.sizeQuote →
      (simulator.simulateOrder request).fill.filledSize <
        request.liquidityQuoteDepth / request.referencePrice ∧
      request.referencePrice < (simulator.simulateOrder request).fill.fillPrice ∧
      (request.forceFail = false → ∀ larger, request.sizeQuote < larger →
        (simulator.simulateOrder request).fill.filledSize <
          (simulator.simulateOrder (request.withQuote larger)).fill.filledSize)) ∧
    (∀ (request : SimulatedOrderRequest) (tokens : Decimal), request.side = .sell →
      request.InPool → request.sizeTokens = some tokens → 0 < tokens →
      (simulator.simulateOrder request).proceeds <
        min (tokens * request.referencePrice) request.liquidityQuoteDepth ∧
      (request.forceFail = false → ∀ larger, tokens < larger →
        (simulator.simulateOrder request).proceeds <
          (simulator.simulateOrder (request.withTokens larger)).proceeds)) ∧
    ∀ intent : PositionIntent, intent.InPool → intent.exitPrice ≤ intent.entryPrice →
      (simulator.simulateRoundTrip intent).2.2 < 0 ∧
      (simulator.simulateRoundTrip intent).2.2 ≤
        -((simulator.simulateRoundTrip intent).1.fees.totalQuote +
          (simulator.simulateRoundTrip intent).2.1.fees.totalQuote) := by
  refine ⟨?_, ?_, ?_⟩
  · intro request hside hpool hquote
    exact ⟨simulator.filledSize_lt_depth request hside hpool hquote,
      simulator.referencePrice_lt_fillPrice request hside hpool hquote,
      fun hforced larger => simulator.filledSize_lt_filledSize request hside hpool hquote hforced⟩
  · intro request tokens hside hpool htokens hpos
    exact ⟨simulator.proceeds_lt_min request hside hpool htokens hpos,
      fun hforced larger => simulator.proceeds_lt_proceeds request hside hpool htokens hpos hforced⟩
  · intro intent hpool hfall
    exact simulator.roundTrip_net hpool hfall

/-- A buy of one unit of quote against a pool of ten. -/
def unitBuy (forceFail : Bool) : SimulatedOrderRequest :=
  { mint := { text := "mint" }
    side := .buy
    intendedTime := unixEpoch
    signalTime := unixEpoch
    sizeQuote := 1
    sizeTokens := none
    referencePrice := 1
    liquidityQuoteDepth := 10
    maxSlippageBps := 100
    latency := Duration.milliseconds 100
    forceFail := forceFail }

theorem unitBuy_inPool (forceFail : Bool) : (unitBuy forceFail).InPool :=
  ⟨one_pos, by norm_num [unitBuy]⟩

/-- A position of one unit that is closed at half its price. -/
def halvedPosition : PositionIntent :=
  { mint := { text := "mint" }
    entryTime := unixEpoch
    exitTime := unixEpoch
    sizeQuote := 1
    entryPrice := 1
    exitPrice := 1 / 2
    liquidityQuoteDepth := 10 }

theorem fills_respect_pool_unitBuy :
    (({} : Simulator).simulateOrder (unitBuy false)).fill.filledSize <
      (({} : Simulator).simulateOrder ((unitBuy false).withQuote 2)).fill.filledSize ∧
    (({} : Simulator).simulateRoundTrip halvedPosition).2.2 < 0 := by
  have hall := fills_respect_pool {}
  refine ⟨(hall.1 (unitBuy false) rfl (unitBuy_inPool false) one_pos).2.2 rfl 2 ?_,
    (hall.2.2 halvedPosition ?_ ?_).1⟩
  · norm_num [unitBuy]
  · constructor <;> norm_num [halvedPosition]
  · norm_num [halvedPosition]

/-- Orders that are forced to fail fill nothing, whatever their size. -/
theorem forced_fills_not_increasing :
    ¬ ∀ (simulator : Simulator) (request : SimulatedOrderRequest), request.side = .buy →
      request.InPool → 0 < request.sizeQuote → ∀ larger, request.sizeQuote < larger →
      (simulator.simulateOrder request).fill.filledSize <
        (simulator.simulateOrder (request.withQuote larger)).fill.filledSize := by
  intro hall
  have hmore := hall {} (unitBuy true) rfl (unitBuy_inPool true) one_pos 2
    (by norm_num [unitBuy])
  rw [@PaperExecutor.filledSize_of_forceFail {} (unitBuy true) rfl,
    @PaperExecutor.filledSize_of_forceFail {} ((unitBuy true).withQuote 2) rfl] at hmore
  exact lt_irrefl 0 hmore

end PumpLaunchTrader
