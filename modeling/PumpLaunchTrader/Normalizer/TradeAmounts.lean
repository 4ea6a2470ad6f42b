import PumpLaunchTrader.Normalizer.Actions

/-! # Amounts of the trades of a transaction

Every trade of a transaction is given the change of its trader's balances over the whole
transaction, so that the amounts of several trades add up to a multiple of it. The fee is taken
off the spending of every buyer and off the gain of no seller, whoever pays it. -/

namespace PumpLaunchTrader

/-- A trade as an event reports it. -/
structure Trade where
  isBuy : Bool
  mint : String
  trader : String
  tokens : Decimal
  quote : Decimal
  deriving DecidableEq, Repr

/-- The trade that an event reports. -/
def NormalizedEvent.trade (event : NormalizedEvent) : Option Trade :=
  match event.payload with
  | .pumpBuy buy => some
      { isBuy := true
        mint := buy.mint.text
        trader := buy.buyer.text
        tokens := buy.tokenOut
        quote := buy.quoteIn }
  | .pumpSell sell => some
      { isBuy := false
        mint := sell.mint.text
        trader := sell.seller.text
        tokens := sell.tokenIn
        quote := sell.quoteOut }
  | _ => none

/-- The trade that an instruction asks for, with the amounts that its arguments declare. -/
def buyInstruction (decoded : DecodedInstruction) (instruction : TransactionInstruction) :
    Option Trade :=
  let accounts := accountMap decoded instruction
  match accountAlias accounts ["mint", "base_mint"], accountAlias accounts ["buyer", "user"] with
  | some mint, some buyer => some
      { isBuy := true
        mint := mint
        trader := buyer
        tokens := (valueDecimalAlias decoded.args
          ["min_token_out", "min_tokens_out", "amount"]).getD 1
        quote := (valueDecimalAlias decoded.args
          ["quote_in", "spendable_quote_in", "max_sol_cost"]).getD 0 }
  | _, _ => none

def sellInstruction (decoded : DecodedInstruction) (instruction : TransactionInstruction) :
    Option Trade :=
  let accounts := accountMap decoded instruction
  match accountAlias accounts ["mint", "base_mint"],
      accountAlias accounts ["seller", "user"] with
  | some mint, some seller => some
      { isBuy := false
        mint := mint
        trader := seller
        tokens := (valueDecimalAlias decoded.args ["token_in", "amount"]).getD 1
        quote := (valueDecimalAlias decoded.args ["min_quote_out", "min_sol_output"]).getD 0 }
  | _, _ => none

/-- The trade that an instruction declares. -/
def declaredTrade (idls : List LoadedIdl) (instruction : TransactionInstruction) :
    Option Trade :=
  (decodeKnownInstruction idls instruction).bind fun decoded =>
    if isCreateName decoded.name then none
    else if isBuyName decoded.name then buyInstruction decoded instruction
    else if isSellName decoded.name then sellInstruction decoded instruction
    else none

namespace TransactionUpdate

/-- The change of a wallet's tokens of a mint over the transaction. -/
def tokenChange (self : TransactionUpdate) (mint wallet : String) : Decimal :=
  totalTokenBalance self.postTokenBalances mint (some wallet) -
    totalTokenBalance self.preTokenBalances mint (some wallet)

/-- The change of a wallet's lamports over the transaction; a wallet that is none of its
accounts has none. -/
def lamportChange (self : TransactionUpdate) (wallet : String) : ℤ :=
  match self.lamportsOf wallet with
  | some (before, after) => after - before
  | none => 0

/-- The fee that a wallet pays: the first account pays it. -/
def feePaidBy (self : TransactionUpdate) (wallet : String) : ℕ :=
  if self.accountKeys.head? = some wallet then self.feeLamports else 0

/-- The tokens that a wallet has received of what it bought, or given of what it sold. -/
def tokensMoved (self : TransactionUpdate) (isBuy : Bool) (mint wallet : String) : Decimal :=
  if isBuy then self.tokenChange mint wallet else -self.tokenChange mint wallet

/-- The trade that is reported for a declared one. -/
def reportedTrade (self : TransactionUpdate) (declared : Trade) : Trade :=
  let moved := self.tokensMoved declared.isBuy declared.mint declared.trader
  { declared with
    tokens := if 0 < moved then moved else declared.tokens
    quote :=
      if declared.isBuy then (self.estimateLamportSpend declared.trader).getD declared.quote
      else
        match self.estimateLamportGain declared.trader with
        | some gain => if 0 < gain then gain else declared.quote
        | none => declared.quote }

end TransactionUpdate

/-! ## The trades of the loop -/

namespace GeyserEventNormalizer

theorem filterMap_trade_flushed (self : GeyserEventNormalizer) (curve mint : String) :
    ((self.flushPendingCurveUpdates curve mint).2).filterMap NormalizedEvent.trade = [] := by
  rw [List.filterMap_eq_nil_iff]
  intro event hevent
  obtain ⟨pending, -, rfl⟩ := List.mem_map.mp hevent
  rfl

section Arms

variable (self : GeyserEventNormalizer) (ctx : TransactionContext) (index : ℕ)
  (instruction : TransactionInstruction) (decoded : DecodedInstruction)

theorem filterMap_trade_create :
    (self.normalizeCreate ctx index instruction decoded).2.filterMap NormalizedEvent.trade =
      [] := by
  unfold normalizeCreate
  dsimp only
  split
  · rfl
  · split
    · rfl
    · exact filterMap_trade_flushed _ _ _

theorem filterMap_trade_buy :
    (self.normalizeBuy ctx index instruction decoded).2.filterMap NormalizedEvent.trade =
      (buyInstruction decoded instruction).toList.map ctx.update.reportedTrade := by
  cases hmint : accountAlias (accountMap decoded instruction) ["mint", "base_mint"] with
  | none =>
      simp only [normalizeBuy, buyInstruction, hmint]
      rfl
  | some mint =>
      cases hbuyer : accountAlias (accountMap decoded instruction) ["buyer", "user"] with
      | none =>
          simp only [normalizeBuy, buyInstruction, hmint, hbuyer]
          rfl
      | some buyer =>
          have hquote : ∀ spend declared : Option Decimal,
              (spend.or declared).getD 0 = spend.getD (declared.getD 0) := by
            intro spend declared
            cases spend with
            | none => rfl
            | some spend => rfl
          simp only [normalizeBuy, buyInstruction, hmint, hbuyer, hquote]
          rfl

theorem filterMap_trade_sell :
    (self.normalizeSell ctx index instruction decoded).2.filterMap NormalizedEvent.trade =
      (sellInstruction decoded instruction).toList.map ctx.update.reportedTrade := by
  cases hmint : accountAlias (accountMap decoded instruction) ["mint", "base_mint"] with
  | none =>
      simp only [normalizeSell, sellInstruction, hmint]
      rfl
  | some mint =>
      cases hseller : accountAlias (accountMap decoded instruction) ["seller", "user"] with
      | none =>
          simp only [normalizeSell, sellInstruction, hmint, hseller]
          rfl
      | some seller =>
          have hmoved : estimateTokenDelta ctx.update.postTokenBalances
              ctx.update.preTokenBalances mint (some seller) =
                -ctx.update.tokenChange mint seller := (neg_sub _ _).symm
          simp only [normalizeSell, sellInstruction, hmint, hseller, hmoved]
          rfl

/-- A pass reports the trade that its instruction declares. -/
theorem filterMap_trade_instruction :
    (self.normalizeInstruction ctx index instruction).2.filterMap NormalizedEvent.trade =
      (declaredTrade self.idls instruction).toList.map ctx.update.reportedTrade := by
  unfold normalizeInstruction declaredTrade
  cases decodeKnownInstruction self.idls instruction with
  | none => rfl
  | some decoded =>
      rw [Option.bind_some]
      by_cases hcreate : isCreateName decoded.name = true
      · simp only [hcreate, if_true]
        exact self.filterMap_trade_create ctx index instruction decoded
      · by_cases hbuy : isBuyName decoded.name = true
        · simp only [hcreate, hbuy, if_true]
          exact self.filterMap_trade_buy ctx index instruction decoded
        · by_cases hsell : isSellName decoded.name = true
          · simp only [hcreate, hbuy, hsell, if_true]
            exact self.filterMap_trade_sell ctx index instruction decoded
          · simp only [hcreate, hbuy, hsell]
            rfl

end Arms

theorem filterMap_trade_instructions (self : GeyserEventNormalizer) (ctx : TransactionContext)
    (index : ℕ) (instructions : List TransactionInstruction) :
    (self.normalizeInstructions ctx index instructions).2.filterMap NormalizedEvent.trade =
      (instructions.filterMap (declaredTrade self.idls)).map ctx.update.reportedTrade := by
  induction instructions generalizing self index with
  | nil => rfl
  | cons instruction rest ih =>
      have hfirst := self.filterMap_trade_instruction ctx index instruction
      have hidls := (self.normalizeInstruction_step ctx index instruction).idls
      simp only [normalizeInstructions, List.filterMap_append, hfirst, ih, hidls,
        List.filterMap_cons]
      cases declaredTrade self.idls instruction with
      | none => rfl
      | some trade => rfl

/-- The trades that a transaction declares. -/
def declaredTrades (self : GeyserEventNormalizer) (update : TransactionUpdate) : List Trade :=
  update.instructions.filterMap (declaredTrade self.idls)

/-- The trades that the events of a transaction report. -/
def reportedTrades (self : GeyserEventNormalizer) (info : EventMeta)
    (update : TransactionUpdate) : List Trade :=
  (self.normalizeTransaction info update).2.filterMap NormalizedEvent.trade

/-- Each declared trade is reported, with amounts of the whole transaction. -/
theorem reportedTrades_eq (self : GeyserEventNormalizer) (info : EventMeta)
    (update : TransactionUpdate) :
    self.reportedTrades info update =
      (self.declaredTrades update).map update.reportedTrade := by
  have hothers : (update.holderBalanceEvents info ++
      (update.fundingEvent info).toList).filterMap NormalizedEvent.trade = [] := by
    rw [List.filterMap_eq_nil_iff]
    intro event hevent
    obtain ⟨-, ⟨_, hpayload⟩ | ⟨_, hpayload⟩⟩ :=
      TransactionUpdate.payload_of_mem_balances hevent
    · simp [NormalizedEvent.trade, hpayload]
    · simp [NormalizedEvent.trade, hpayload]
  have hobserved : (update.observedEvent info).trade = none := rfl
  unfold reportedTrades normalizeTransaction
  rw [List.filterMap_cons, hobserved, List.filterMap_append, hothers, List.append_nil]
  exact self.filterMap_trade_instructions { info, update } 0 update.instructions

end GeyserEventNormalizer

/-! ## Sums of amounts -/

/-- The trades of a wallet. -/
def tradesOf (trades : List Trade) (wallet : String) : List Trade :=
  trades.filter fun trade => trade.trader = wallet

/-- The trades of a wallet in a mint. -/
def tradesIn (trades : List Trade) (mint wallet : String) : List Trade :=
  trades.filter fun trade => trade.mint = mint ∧ trade.trader = wallet

namespace TransactionUpdate

/-- Trades of a wallet in a mint that are all of one side add up to the change of its tokens. -/
def TokensCounted (self : TransactionUpdate) (trades : List Trade) (mint wallet : String) :
    Prop :=
  ∀ isBuy, tradesIn trades mint wallet ≠ [] →
    (∀ trade ∈ tradesIn trades mint wallet, trade.isBuy = isBuy) →
    ((tradesIn trades mint wallet).map Trade.tokens).sum = |self.tokenChange mint wallet|

/-- The buys of a wallet that trades nothing else add up to the lamports it lost apart from
its fee. -/
def SpendCounted (self : TransactionUpdate) (trades : List Trade) (mint wallet : String) :
    Prop :=
  tradesOf trades wallet ≠ [] →
    (∀ trade ∈ tradesOf trades wallet, trade.mint = mint ∧ trade.isBuy = true) →
    ((tradesOf trades wallet).map Trade.quote).sum =
      ((-self.lamportChange wallet - self.feePaidBy wallet : ℤ) : ℚ)

/-- The sells of a wallet that trades nothing else add up to the lamports it gained apart from
its fee. -/
def GainCounted (self : TransactionUpdate) (trades : List Trade) (mint wallet : String) :
    Prop :=
  tradesOf trades wallet ≠ [] →
    (∀ trade ∈ tradesOf trades wallet, trade.mint = mint ∧ trade.isBuy = false) →
    ((tradesOf trades wallet).map Trade.quote).sum =
      ((self.lamportChange wallet + self.feePaidBy wallet : ℤ) : ℚ)

/-! ### When they hold -/

/-- A wallet whose tokens move with its trades has one trade; otherwise the declared amounts
add up to what moved. -/
def TokensCondition (self : TransactionUpdate) (declared : List Trade) (mint wallet : String) :
    Prop :=
  ∀ isBuy, tradesIn declared mint wallet ≠ [] →
    (∀ trade ∈ tradesIn declared mint wallet, trade.isBuy = isBuy) →
    if 0 < self.tokensMoved isBuy mint wallet then (tradesIn declared mint wallet).length = 1
    else ((tradesIn declared mint wallet).map Trade.tokens).sum =
      -self.tokensMoved isBuy mint wallet

/-- The payer of the fee lost nothing but it, or lost more in one buy. Another wallet lost
nothing, or so much that its buys share what exceeds a fee it has not paid. -/
def SpendCondition (self : TransactionUpdate) (declared : List Trade) (mint wallet : String) :
    Prop :=
  tradesOf declared wallet ≠ [] →
    (∀ trade ∈ tradesOf declared wallet, trade.mint = mint ∧ trade.isBuy = true) →
    match self.lamportsOf wallet with
    | none => ((tradesOf declared wallet).map Trade.quote).sum = 0
    | some (before, after) =>
      if self.accountKeys.head? = some wallet then
        before = after + self.feeLamports ∨
          (after + self.feeLamports < before ∧ (tradesOf declared wallet).length = 1)
      else
        before = after ∨ (after + self.feeLamports < before ∧
          (tradesOf declared wallet).length * (before - after - self.feeLamports) =
            before - after)

/-- What the sells after the first one count too often is the fee that the wallet paid; where
it gained nothing, the declared amounts add up to its change and fee. -/
def GainCondition (self : TransactionUpdate) (declared : List Trade) (mint wallet : String) :
    Prop :=
  tradesOf declared wallet ≠ [] →
    (∀ trade ∈ tradesOf declared wallet, trade.mint = mint ∧ trade.isBuy = false) →
    match self.lamportsOf wallet with
    | none => ((tradesOf declared wallet).map Trade.quote).sum = 0
    | some (before, after) =>
      if before < after then
        ((tradesOf declared wallet).length - 1) * (after - before) = self.feePaidBy wallet
      else
        ((tradesOf declared wallet).map Trade.quote).sum =
          ((after : ℤ) - before + self.feePaidBy wallet : ℤ)

/-! ### Both compared -/

theorem sum_map_ite (trades : List Trade) (p : Prop) [Decidable p] (c : Decimal)
    (amount : Trade → Decimal) :
    (trades.map fun trade => if p then c else amount trade).sum =
      if p then trades.length * c else (trades.map amount).sum := by
  by_cases hp : p
  · simp [hp]
  · simp [hp]

section Reported

variable (self : TransactionUpdate) (declared : List Trade) (mint wallet : String)

theorem tradesIn_reported :
    tradesIn (declared.map self.reportedTrade) mint wallet =
      (tradesIn declared mint wallet).map self.reportedTrade := by
  unfold tradesIn
  rw [List.filter_map]
  rfl

theorem tradesOf_reported :
    tradesOf (declared.map self.reportedTrade) wallet =
      (tradesOf declared wallet).map self.reportedTrade := by
  unfold tradesOf
  rw [List.filter_map]
  rfl

theorem tokensCounted_iff :
    self.TokensCounted (declared.map self.reportedTrade) mint wallet ↔
      self.TokensCondition declared mint wallet := by
  unfold TokensCounted TokensCondition
  rw [self.tradesIn_reported]
  refine forall_congr' fun isBuy => ?_
  rw [ne_eq, List.map_eq_nil_iff, List.forall_mem_map]
  refine imp_congr_right fun _ => imp_congr_right fun hside => ?_
  have hsum : ((tradesIn declared mint wallet).map self.reportedTrade).map Trade.tokens =
      (tradesIn declared mint wallet).map fun trade =>
        if 0 < self.tokensMoved isBuy mint wallet then self.tokensMoved isBuy mint wallet
        else trade.tokens := by
    rw [List.map_map]
    refine List.map_congr_left fun trade htrade => ?_
    have hown : trade.mint = mint ∧ trade.trader = wallet := by
      simpa using (List.mem_filter.mp htrade).2
    have hbuy : trade.isBuy = isBuy := hside trade htrade
    simp only [Function.comp_apply, reportedTrade, hown.1, hown.2, hbuy]
  have habs : |self.tokenChange mint wallet| = |self.tokensMoved isBuy mint wallet| := by
    unfold tokensMoved
    cases isBuy with
    | true => rfl
    | false => exact (abs_neg _).symm
  rw [hsum, sum_map_ite, habs]
  by_cases hmoved : 0 < self.tokensMoved isBuy mint wallet
  · rw [if_pos hmoved, if_pos hmoved, abs_of_pos hmoved, mul_eq_right₀ hmoved.ne']
    exact Nat.cast_eq_one
  · rw [if_neg hmoved, if_neg hmoved, abs_of_nonpos (not_lt.mp hmoved)]

end Reported

/-- A wallet that is none of the accounts has no lamports and pays no fee. -/
theorem unchanged_of_lamportsOf_none {self : TransactionUpdate} {wallet : String}
    (h : self.lamportsOf wallet = none) :
    self.lamportChange wallet = 0 ∧ self.feePaidBy wallet = 0 := by
  refine ⟨by rw [lamportChange, h], ?_⟩
  have hnone : wallet ∉ self.accountKeys := by
    rw [lamportsOf, Option.map_eq_none_iff, List.idxOf?_eq_none_iff] at h
    exact h
  rw [feePaidBy, if_neg]
  intro hhead
  exact hnone (List.mem_of_head? hhead)

theorem payer_spend_iff (k before after fee : ℕ) :
    ((k * (before - after - fee) : ℕ) : ℤ) = -((after : ℤ) - before) - fee ↔
      before = after + fee ∨ (after + fee < before ∧ k = 1) := by
  by_cases h : after + fee < before
  · obtain ⟨net, rfl⟩ := Nat.exists_eq_add_of_lt h
    have hnet : after + fee + net + 1 - after - fee = net + 1 := by omega
    have hspend : -((after : ℤ) - (after + fee + net + 1 : ℕ)) - fee = (net + 1 : ℕ) := by
      push_cast
      omega
    rw [hnet, hspend, Nat.cast_inj, Nat.mul_eq_right (by omega)]
    omega
  · have hnet : before - after - fee = 0 := by omega
    rw [hnet, Nat.mul_zero]
    omega

theorem other_spend_iff (k before after fee : ℕ) :
    ((k * (before - after - fee) : ℕ) : ℤ) = -((after : ℤ) - before) - (0 : ℕ) ↔
      before = after ∨ (after + fee < before ∧
        k * (before - after - fee) = before - after) := by
  by_cases h : after + fee < before
  · have hspend : -((after : ℤ) - before) - (0 : ℕ) = (before - after : ℕ) := by omega
    rw [hspend, Nat.cast_inj]
    omega
  · have hnet : before - after - fee = 0 := by omega
    rw [hnet, Nat.mul_zero]
    omega

theorem gain_iff {k before after : ℕ} (fee : ℕ) (hk : 0 < k) (h : before < after) :
    ((k * (after - before) : ℕ) : ℤ) = (after : ℤ) - before + fee ↔
      (k - 1) * (after - before) = fee := by
  obtain ⟨others, rfl⟩ := Nat.exists_eq_add_of_lt hk
  have hgain : (after : ℤ) - before = (after - before : ℕ) := by omega
  have hothers : 0 + others + 1 - 1 = others := by omega
  rw [hgain, hothers, ← Nat.cast_add, Nat.cast_inj, Nat.zero_add, Nat.add_mul, Nat.one_mul]
  omega

section Quote

variable (self : TransactionUpdate) (declared : List Trade) (mint wallet : String)

theorem spendCounted_iff :
    self.SpendCounted (declared.map self.reportedTrade) mint wallet ↔
      self.SpendCondition declared mint wallet := by
  unfold SpendCounted SpendCondition
  rw [self.tradesOf_reported, ne_eq, List.map_eq_nil_iff, List.forall_mem_map]
  refine imp_congr_right fun _ => imp_congr_right fun hbuys => ?_
  have hquotes : ((tradesOf declared wallet).map self.reportedTrade).map Trade.quote =
      (tradesOf declared wallet).map fun trade =>
        (self.estimateLamportSpend wallet).getD trade.quote := by
    rw [List.map_map]
    refine List.map_congr_left fun trade htrade => ?_
    have hown : trade.trader = wallet := by simpa using (List.mem_filter.mp htrade).2
    have hbuy : trade.isBuy = true := (hbuys trade htrade).2
    simp only [Function.comp_apply, reportedTrade, hown, hbuy, if_true]
  rw [hquotes]
  cases hlamports : self.lamportsOf wallet with
  | none =>
      obtain ⟨hchange, hfee⟩ := unchanged_of_lamportsOf_none hlamports
      have hspend : self.estimateLamportSpend wallet = none := by
        rw [estimateLamportSpend, hlamports, Option.map_none]
      simp only [hspend, Option.getD_none, hchange, hfee]
      norm_num
  | some lamports =>
      obtain ⟨before, after⟩ := lamports
      have hspend : self.estimateLamportSpend wallet =
          some ((before - after - self.feeLamports : ℕ) : ℚ) := by
        rw [estimateLamportSpend, hlamports, Option.map_some]
      have hchange : self.lamportChange wallet = (after : ℤ) - before := by
        rw [lamportChange, hlamports]
      simp only [hspend, Option.getD_some, hchange, List.map_const', List.sum_replicate,
        nsmul_eq_mul]
      by_cases hpayer : self.accountKeys.head? = some wallet
      · rw [feePaidBy, if_pos hpayer, if_pos hpayer, ← payer_spend_iff]
        norm_cast
      · rw [feePaidBy, if_neg hpayer, if_neg hpayer, ← other_spend_iff]
        norm_cast

theorem gainCounted_iff :
    self.GainCounted (declared.map self.reportedTrade) mint wallet ↔
      self.GainCondition declared mint wallet := by
  unfold GainCounted GainCondition
  rw [self.tradesOf_reported, ne_eq, List.map_eq_nil_iff, List.forall_mem_map]
  refine imp_congr_right fun hne => imp_congr_right fun hsells => ?_
  have hquotes : ((tradesOf declared wallet).map self.reportedTrade).map Trade.quote =
      (tradesOf declared wallet).map fun trade =>
        match self.estimateLamportGain wallet with
        | some gain => if 0 < gain then gain else trade.quote
        | none => trade.quote := by
    rw [List.map_map]
    refine List.map_congr_left fun trade htrade => ?_
    have hown : trade.trader = wallet := by simpa using (List.mem_filter.mp htrade).2
    have hsell : trade.isBuy = false := (hsells trade htrade).2
    simp only [Function.comp_apply, reportedTrade, hown, hsell, Bool.false_eq_true, if_false]
  rw [hquotes]
  cases hlamports : self.lamportsOf wallet with
  | none =>
      obtain ⟨hchange, hfee⟩ := unchanged_of_lamportsOf_none hlamports
      have hgain : self.estimateLamportGain wallet = none := by
        rw [estimateLamportGain, hlamports, Option.map_none]
      simp only [hgain, hchange, hfee]
      norm_num
  | some lamports =>
      obtain ⟨before, after⟩ := lamports
      have hgain : self.estimateLamportGain wallet = some ((after - before : ℕ) : ℚ) := by
        rw [estimateLamportGain, hlamports, Option.map_some]
      have hchange : self.lamportChange wallet = (after : ℤ) - before := by
        rw [lamportChange, hlamports]
      simp only [hgain, hchange, sum_map_ite]
      by_cases hlt : before < after
      · have hpos : (0 : ℚ) < ((after - before : ℕ) : ℚ) := by
          exact_mod_cast Nat.sub_pos_of_lt hlt
        rw [if_pos hpos, if_pos hlt, ← gain_iff _ (List.length_pos_iff.mpr hne) hlt]
        norm_cast
      · have hzero : ¬ (0 : ℚ) < ((after - before : ℕ) : ℚ) := by
          rw [Nat.sub_eq_zero_of_le (not_lt.mp hlt)]
          exact lt_irrefl _
        rw [if_neg hzero, if_neg hlt]

end Quote

/-- The amounts of the trades of a wallet are counted once, in tokens and in lamports. -/
structure AmountsCounted (transaction : TransactionUpdate) (trades : List Trade)
    (mint wallet : String) : Prop where
  tokens : transaction.TokensCounted trades mint wallet
  spend : transaction.SpendCounted trades mint wallet
  gain : transaction.GainCounted trades mint wallet

end TransactionUpdate

namespace GeyserEventNormalizer

/-- The trades that a transaction's events report are counted once exactly when the declared
trades meet the conditions on their number, the balances and the fee. -/
theorem amountsCounted_iff (self : GeyserEventNormalizer) (info : EventMeta)
    (update : TransactionUpdate) (mint wallet : String) :
    update.AmountsCounted (self.reportedTrades info update) mint wallet ↔
      update.TokensCondition (self.declaredTrades update) mint wallet ∧
        update.SpendCondition (self.declaredTrades update) mint wallet ∧
        update.GainCondition (self.declaredTrades update) mint wallet := by
  rw [self.reportedTrades_eq, ← update.tokensCounted_iff, ← update.spendCounted_iff,
    ← update.gainCounted_iff]
  exact ⟨fun h => ⟨h.tokens, h.spend, h.gain⟩, fun h => ⟨h.1, h.2.1, h.2.2⟩⟩

/-! ### Two buys -/

/-- A description whose only instruction is a buy without arguments. -/
def plainBuyIdl : LoadedIdl where
  instructionMap := (∅ : KeyedMap (List UInt8) LoadedInstruction).insert (List.replicate 8 1)
    { name := "buy", accounts := ["mint", "buyer"], args := [] }
  accountMap := ∅
  depth := 0

/-- A transaction with two buys of five tokens each, for ten lamports each. -/
def twoBuys : TransactionUpdate where
  slot := 1
  signature := "s"
  transactionIndex := none
  succeeded := true
  accountKeys := ["payer", "wallet"]
  instructions := List.replicate 2
    { programId := "pump", accounts := ["mint", "wallet"], dataHex := "0101010101010101" }
  preBalances := [100, 100]
  postBalances := [95, 80]
  postTokenBalances :=
    [{ accountIndex := 1
       mint := "mint"
       owner := some "wallet"
       programId := none
       amount := "10"
       decimals := 6 }]
  feeLamports := 5

def twoBuysMeta : EventMeta where
  eventId := ⟨"e"⟩
  source := .geyserProcessed
  canonicality := .processed
  slot := 1

/-- Two buys of five tokens are reported as twenty tokens. -/
theorem twoBuys_counted_twice : ¬ ∀ (self : GeyserEventNormalizer) (info : EventMeta)
    (update : TransactionUpdate) (mint wallet : String), update.succeeded = true →
    update.AmountsCounted (self.reportedTrades info update) mint wallet := by
  intro h
  have htokens := (h { idls := [plainBuyIdl] } twoBuysMeta twoBuys "mint" "wallet" rfl).tokens
    true (by decide +kernel) (by decide +kernel)
  exact absurd htokens (by decide +kernel)

end GeyserEventNormalizer

end PumpLaunchTrader
