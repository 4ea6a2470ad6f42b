import PumpLaunchTrader.Lib.KeyedMap
import PumpLaunchTrader.Model.Event
import Mathlib.Data.Finset.Sort

/-! # Holder ledger (`state::CostBasisPosition`, `state::HolderState`) -/

namespace PumpLaunchTrader

def maxHolderHistory : ℕ := 256

/-! ## Cost basis -/

structure CostBasisPosition where
  estimatedCostBasisQuote : Decimal := 0
  estimatedAverageEntryPrice : Decimal := 0
  estimatedRealizedPnl : Decimal := 0
  estimatedUnrealizedPnl : Decimal := 0
  remainingPositionSize : Decimal := 0
  originalPositionSize : Decimal := 0
  originalQuoteSpent : Decimal := 0
  positionOpenedAt : Option OffsetDateTime := none
  lastUpdatedAt : Option OffsetDateTime := none
  hasTakenProfit : Bool := false
  hasRoundTripped : Bool := false
  deriving DecidableEq, Repr

namespace CostBasisPosition

def applyBuy (self : CostBasisPosition) (quoteSpent tokenOut : Decimal)
    (timestamp : OffsetDateTime) (latestPrice : Decimal) : CostBasisPosition :=
  let costBasis := self.estimatedCostBasisQuote + quoteSpent
  let remaining := self.remainingPositionSize + tokenOut
  { self with
    positionOpenedAt := some (self.positionOpenedAt.getD timestamp)
    originalQuoteSpent := self.originalQuoteSpent + quoteSpent
    originalPositionSize := self.originalPositionSize + tokenOut
    estimatedCostBasisQuote := costBasis
    remainingPositionSize := remaining
    estimatedAverageEntryPrice :=
      if 0 < remaining then costBasis / remaining else self.estimatedAverageEntryPrice
    estimatedUnrealizedPnl := latestPrice * remaining - costBasis
    lastUpdatedAt := some timestamp }

def applySell (self : CostBasisPosition) (quoteOut tokenIn : Decimal)
    (timestamp : OffsetDateTime) (latestPrice : Decimal) : CostBasisPosition :=
  if self.remainingPositionSize ≤ 0 then
    { self with hasRoundTripped := true, lastUpdatedAt := some timestamp }
  else
    let tokenSold := min tokenIn self.remainingPositionSize
    let averageCost := self.estimatedCostBasisQuote / self.remainingPositionSize
    let costRemoved := averageCost * tokenSold
    let left := self.remainingPositionSize - tokenSold
    let remaining := if left ≤ 0 then 0 else left
    let costBasis := if left ≤ 0 then 0 else self.estimatedCostBasisQuote - costRemoved
    { self with
      remainingPositionSize := remaining
      estimatedCostBasisQuote := costBasis
      estimatedRealizedPnl := self.estimatedRealizedPnl + (quoteOut - costRemoved)
      hasTakenProfit := self.hasTakenProfit || costRemoved < quoteOut
      hasRoundTripped := self.hasRoundTripped || left ≤ 0
      estimatedAverageEntryPrice := if 0 < remaining then costBasis / remaining else 0
      estimatedUnrealizedPnl := latestPrice * remaining - costBasis
      lastUpdatedAt := some timestamp }

end CostBasisPosition

/-! ## Records of the ledger -/

inductive HolderRetentionStatus where
  | active | reducedPosition | sold90Pct | exitedZeroBalance | unknown
  deriving DecidableEq, Repr

structure HolderBalance where
  balance : Decimal := 0
  uiBalanceSum : Decimal := 0
  accountCount : ℕ := 0
  excludedReason : Option String := none
  lastUpdatedAt : Option OffsetDateTime := none
  firstSeenAt : Option OffsetDateTime := none
  lastTradeAt : Option OffsetDateTime := none
  costBasis : CostBasisPosition := {}
  walletSellThroughPct : Decimal := 0
  walletSold90pctFlag : Bool := false
  holderRetentionStatus : HolderRetentionStatus := .unknown
  deriving DecidableEq, Repr

structure TokenAccountState where
  mint : PubkeyValue
  tokenAccount : PubkeyValue
  owner : PubkeyValue
  rawBalance : Decimal
  uiBalance : Decimal
  decimals : UInt8
  lastSlot : ℕ
  lastSequence : Option ℕ
  source : EventSource
  deriving DecidableEq, Repr

structure HolderUpdateCounters where
  holderUpdatesSeen : ℕ := 0
  holderUpdatesApplied : ℕ := 0
  holderUpdatesDeduped : ℕ := 0
  holderOwnerChanges : ℕ := 0
  deriving DecidableEq, Repr

structure HolderDistributionSnapshot where
  owner : PubkeyValue
  balance : Decimal
  pctSupplyProxy : Decimal
  deriving DecidableEq, Repr

structure HolderState where
  tokenAccounts : KeyedMap String TokenAccountState := ∅
  tokenAccountToOwner : KeyedMap String PubkeyValue := ∅
  tokenAccountBalances : KeyedMap String Decimal := ∅
  ownerBalances : KeyedMap String HolderBalance := ∅
  appliedHolderUpdateKeys : Finset String := ∅
  counters : HolderUpdateCounters := {}
  nonzeroHolderCount : ℕ := 0
  topHolders : List HolderDistributionSnapshot := []
  gini : Decimal := 0
  hhi : Decimal := 0
  paperhand90pctWalletCount : ℕ := 0
  exitedHolderCountZeroBalance : ℕ := 0
  netHolderChange : ℤ := 0
  holderChurnRate : Decimal := 0
  holderStickiness : Decimal := 0
  holderCountHistory : List (OffsetDateTime × ℕ) := []
  lastUpdatedAt : Option OffsetDateTime := none

/-- An order in which the owner maps are iterated. A `HashMap` has an order of its own, which
its entries do not determine, so that any order may be the one of a run. -/
class IterationOrder where
  arrange : HolderState → List (Sigma fun _ : String => HolderBalance)
  perm : ∀ state, (arrange state).Perm state.ownerBalances.entries

/-- The order in which the entries were inserted last, where no order is named. -/
instance insertionOrder : IterationOrder where
  arrange state := state.ownerBalances.entries
  perm _ := List.Perm.refl _

/-! ## Distribution measures -/

def computeGini (balances : List Decimal) : Decimal :=
  let sorted := balances.insertionSort (· ≤ ·)
  let n : Decimal := sorted.length
  let total := sorted.sum
  if sorted.isEmpty ∨ total ≤ 0 then 0
  else
    let weightedSum := (sorted.zipIdx.map fun (b, i) => ((i + 1 : ℕ) : Decimal) * b).sum
    2 * weightedSum / (n * total) - (n + 1) / n

def computeHhi (balances : List Decimal) : Decimal :=
  let total := balances.sum
  if total ≤ 0 then 0 else (balances.map fun b => b / total * (b / total)).sum

/-- Push on a bounded queue, dropping the oldest entries beyond `cap`. -/
def pushBounded {α : Type*} (cap : ℕ) (queue : List α) (x : α) : List α :=
  let pushed := queue ++ [x]
  pushed.drop (pushed.length - cap)

/-- `holder_update_dedupe_key`. -/
def holderUpdateDedupeKey (update : HolderBalanceUpdateEvent) (event : NormalizedEvent) :
    String :=
  let shown : Option ℕ → String := fun value => (value.map toString).getD ""
  "|".intercalate
    [update.mint.text, update.tokenAccount.text, update.ownerWallet.text,
      toString event.info.slot, event.info.signature.getD "",
      shown event.info.transactionIndex, shown event.info.accountWriteVersion,
      Decimal.display update.newBalance]

namespace HolderState

/-- `HolderState::refresh_holder_behaviour`. -/
def refreshHolderBehaviour (holder : HolderBalance) : HolderBalance :=
  let original := holder.costBasis.originalPositionSize
  let sellThrough : Decimal :=
    if 0 < original then
      let sold := max (original - holder.costBasis.remainingPositionSize) 0
      Decimal.clamp (sold / original) 0 1
    else 0
  let sold90 : Bool := 90 / 100 ≤ sellThrough
  { holder with
    walletSellThroughPct := sellThrough
    walletSold90pctFlag := sold90
    holderRetentionStatus :=
      if holder.balance ≤ 0 then .exitedZeroBalance
      else if sold90 then .sold90Pct
      else if 0 < sellThrough then .reducedPosition
      else .active }

/-! ## Delta path -/

/-- `HolderState::apply_owner_delta`. -/
def applyOwnerDelta (self : HolderState) (owner : PubkeyValue) (deltaRaw : Decimal)
    (decimals : UInt8) (observedAt : OffsetDateTime) : HolderState :=
  if deltaRaw = 0 ∧ owner.text ∈ self.ownerBalances then self
  else
    let entry := (self.ownerBalances.lookup owner.text).getD {}
    let balance := entry.balance + deltaRaw
    let accounts := self.tokenAccounts.values.countP fun account =>
      account.owner = owner ∧ 0 < account.rawBalance
    let entry : HolderBalance := { entry with
      firstSeenAt := some (entry.firstSeenAt.getD observedAt)
      balance := balance
      uiBalanceSum := rawTokensToUi (max balance 0) decimals
      lastUpdatedAt := some observedAt
      lastTradeAt := some observedAt
      accountCount := if 0 < deltaRaw then accounts + 1 else accounts }
    { self with
      ownerBalances :=
        if balance ≤ 0 then self.ownerBalances.erase owner.text
        else self.ownerBalances.insert owner.text entry }

/-! ## Rebuild path -/

/-- The entry a wallet starts from when its first positive account is met. -/
def carriedHolder (self : HolderState) (owner : PubkeyValue) : HolderBalance :=
  match self.ownerBalances.lookup owner.text with
  | some old =>
    { firstSeenAt := old.firstSeenAt
      lastTradeAt := old.lastTradeAt
      costBasis := old.costBasis
      excludedReason := old.excludedReason }
  | none => {}

/-- Add one positive token account to the entry of its owner. -/
def addAccount (observedAt : OffsetDateTime) (decimals : UInt8) (account : TokenAccountState)
    (entry : HolderBalance) : HolderBalance :=
  { entry with
    firstSeenAt := some (entry.firstSeenAt.getD observedAt)
    balance := entry.balance + account.rawBalance
    uiBalanceSum := entry.uiBalanceSum +
      (if 0 < account.uiBalance then account.uiBalance
        else rawTokensToUi account.rawBalance decimals)
    accountCount := entry.accountCount + 1
    lastUpdatedAt := some observedAt }

/-- What the old entry of a wallet contributes to its rebuilt one. -/
def carryOver (old newHolder : HolderBalance) : HolderBalance :=
  { newHolder with
    firstSeenAt := newHolder.firstSeenAt.orElse fun _ => old.firstSeenAt
    lastTradeAt := newHolder.lastTradeAt.orElse fun _ => old.lastTradeAt
    costBasis :=
      if newHolder.costBasis.originalPositionSize ≤ 0 then old.costBasis
      else newHolder.costBasis
    walletSellThroughPct := old.walletSellThroughPct
    walletSold90pctFlag := old.walletSold90pctFlag
    holderRetentionStatus := old.holderRetentionStatus }

/-- The second pass of the rebuild, over the old entries. -/
def withOldEntry (self : HolderState) (owner : String) (newHolder : HolderBalance) :
    HolderBalance :=
  match self.ownerBalances.lookup owner with
  | some old => carryOver old newHolder
  | none => newHolder

/-- The token accounts that the rebuild adds up. -/
def positiveAccounts (self : HolderState) : List TokenAccountState :=
  self.tokenAccounts.values.filter fun account => 0 < account.rawBalance

/-- The first pass of the rebuild, over the positive token accounts. -/
def groupedAccounts (self : HolderState) (observedAt : OffsetDateTime) (decimals : UInt8) :
    KeyedMap String HolderBalance :=
  self.positiveAccounts.foldl
    (fun (rebuilt : KeyedMap String HolderBalance) account =>
      rebuilt.upsert account.owner.text (self.carriedHolder account.owner)
        (addAccount observedAt decimals account)) ∅

/-- The owner map that the rebuild installs. -/
def rebuiltOwnerBalances (self : HolderState) (observedAt : OffsetDateTime)
    (decimals : UInt8) : KeyedMap String HolderBalance :=
  (self.groupedAccounts observedAt decimals).mapValues fun owner newHolder =>
    refreshHolderBehaviour (self.withOldEntry owner newHolder)

variable [IterationOrder]

/-- The positive owner balances, largest first; ties keep the iteration order. -/
def rankedBalances (self : HolderState) : List (PubkeyValue × Decimal) :=
  (((IterationOrder.arrange self).filter fun e => 0 < e.2.balance).map fun e =>
    ((⟨e.1⟩ : PubkeyValue), e.2.balance)).insertionSort fun left right => right.2 ≤ left.2

/-- `HolderState::recompute_distribution_with_previous`. -/
def recomputeDistributionWithPrevious (self : HolderState) (observedAt : OffsetDateTime)
    (previousHolderCount : ℕ) : HolderState :=
  let nonzero := self.ownerBalances.values.countP fun holder => 0 < holder.balance
  let total := (self.ownerBalances.values.map HolderBalance.balance).sum
  let balances := self.rankedBalances
  let exited := previousHolderCount - nonzero
  let churn : Decimal := if 0 < previousHolderCount then exited / previousHolderCount else 0
  { self with
    nonzeroHolderCount := nonzero
    topHolders := (balances.take 20).map fun (owner, balance) =>
      { owner := owner
        balance := balance
        pctSupplyProxy := if 0 < total then balance / total else 0 }
    gini := computeGini (balances.map Prod.snd)
    hhi := computeHhi (balances.map Prod.snd)
    paperhand90pctWalletCount := self.ownerBalances.values.countP fun holder =>
      holder.walletSold90pctFlag
    exitedHolderCountZeroBalance := exited
    netHolderChange := (nonzero : ℤ) - previousHolderCount
    holderChurnRate := churn
    holderStickiness := Decimal.clamp (1 - churn) 0 1
    holderCountHistory :=
      pushBounded maxHolderHistory self.holderCountHistory (observedAt, nonzero) }

/-- `HolderState::rebuild_owner_balances_from_token_accounts`. -/
def rebuildOwnerBalancesFromTokenAccounts (self : HolderState) (observedAt : OffsetDateTime)
    (decimals : UInt8) : HolderState :=
  { self with ownerBalances := self.rebuiltOwnerBalances observedAt decimals }
    |>.recomputeDistributionWithPrevious observedAt self.nonzeroHolderCount

/-! ## Balance updates -/

/-- The owner recorded for a token account before an update. -/
def previousOwner (self : HolderState) (tokenAccount : PubkeyValue) : Option PubkeyValue :=
  ((self.tokenAccounts.lookup tokenAccount.text).map TokenAccountState.owner).orElse fun _ =>
    self.tokenAccountToOwner.lookup tokenAccount.text

/-- The raw balance recorded for a token account before an update. -/
def previousBalance (self : HolderState) (tokenAccount : PubkeyValue) : Decimal :=
  (((self.tokenAccounts.lookup tokenAccount.text).map TokenAccountState.rawBalance).orElse
    fun _ => self.tokenAccountBalances.lookup tokenAccount.text).getD 0

/-- The owner deltas of an update, by whether the account changes hands. -/
def applyOwnerDeltas (self : HolderState) (update : HolderBalanceUpdateEvent)
    (decimals : UInt8) (observedAt : OffsetDateTime) : HolderState :=
  let newOwner := update.ownerWallet
  let newBalance := max update.newBalance 0
  let oldBalance := self.previousBalance update.tokenAccount
  match self.previousOwner update.tokenAccount with
  | some owner =>
    if owner ≠ newOwner then
      { self with counters :=
          { self.counters with holderOwnerChanges := self.counters.holderOwnerChanges + 1 } }
        |>.applyOwnerDelta owner (-oldBalance) decimals observedAt
        |>.applyOwnerDelta newOwner newBalance decimals observedAt
    else self.applyOwnerDelta owner (newBalance - oldBalance) decimals observedAt
  | none => self.applyOwnerDelta newOwner newBalance decimals observedAt

/-- Record the account of an update; a non-positive balance removes it again, but not its
owner mapping. -/
def storeTokenAccount (self : HolderState) (update : HolderBalanceUpdateEvent)
    (event : NormalizedEvent) (decimals : UInt8) : HolderState :=
  let key := update.tokenAccount.text
  let newBalance := max update.newBalance 0
  let account : TokenAccountState :=
    { mint := update.mint
      tokenAccount := update.tokenAccount
      owner := update.ownerWallet
      rawBalance := newBalance
      uiBalance := rawTokensToUi newBalance decimals
      decimals := decimals
      lastSlot := event.info.slot
      lastSequence := event.info.accountWriteVersion.orElse fun _ =>
        event.info.transactionIndex
      source := event.info.source }
  let balances := self.tokenAccountBalances.insert key newBalance
  let accounts := self.tokenAccounts.insert key account
  { self with
    tokenAccountToOwner := self.tokenAccountToOwner.insert key update.ownerWallet
    tokenAccountBalances := if newBalance ≤ 0 then balances.erase key else balances
    tokenAccounts := if newBalance ≤ 0 then accounts.erase key else accounts }

/-- Count a delivered update. -/
def countSeen (self : HolderState) : HolderState :=
  { self with counters :=
      { self.counters with holderUpdatesSeen := self.counters.holderUpdatesSeen + 1 } }

/-- Count a duplicate. -/
def countDeduped (self : HolderState) : HolderState :=
  { self with counters :=
      { self.counters with holderUpdatesDeduped := self.counters.holderUpdatesDeduped + 1 } }

/-- Count an applied update and stamp the ledger with its time. -/
def countApplied (self : HolderState) (observedAt : OffsetDateTime) : HolderState :=
  { self with
    counters :=
      { self.counters with holderUpdatesApplied := self.counters.holderUpdatesApplied + 1 }
    lastUpdatedAt := some observedAt }

/-- What an update that is no duplicate records before the owner map is rebuilt. -/
def recordUpdate (self : HolderState) (update : HolderBalanceUpdateEvent)
    (event : NormalizedEvent) (tokenDecimals : UInt8) : HolderState :=
  let observedAt := event.info.receivedAtWallTime
  { self with
    appliedHolderUpdateKeys :=
      insert (holderUpdateDedupeKey update event) self.appliedHolderUpdateKeys }
    |>.applyOwnerDeltas update tokenDecimals observedAt
    |>.storeTokenAccount update event tokenDecimals
    |>.countApplied observedAt

/-- `HolderState::apply_balance_update`. -/
def applyBalanceUpdate (self : HolderState) (update : HolderBalanceUpdateEvent)
    (event : NormalizedEvent) (tokenDecimals : UInt8) : HolderState :=
  let self := self.countSeen
  if holderUpdateDedupeKey update event ∈ self.appliedHolderUpdateKeys then self.countDeduped
  else
    (self.recordUpdate update event tokenDecimals).rebuildOwnerBalancesFromTokenAccounts
      event.info.receivedAtWallTime tokenDecimals

/-! ## Trades -/

/-- `HolderState::apply_trade_cost_basis`. -/
def applyTradeCostBasis (self : HolderState) (owner : PubkeyValue) (isBuy : Bool)
    (quote tokens : Decimal) (observedAt : OffsetDateTime) (latestPrice : Decimal) :
    HolderState :=
  { self with ownerBalances := self.ownerBalances.upsert owner.text {} fun entry =>
      refreshHolderBehaviour { entry with
        firstSeenAt := some (entry.firstSeenAt.getD observedAt)
        lastTradeAt := some observedAt
        costBasis :=
          if isBuy then entry.costBasis.applyBuy quote tokens observedAt latestPrice
          else entry.costBasis.applySell quote tokens observedAt latestPrice } }

/-! ## Queries -/

def topHolderPct (self : HolderState) (rank : ℕ) : Decimal :=
  ((self.topHolders.take rank).map HolderDistributionSnapshot.pctSupplyProxy).sum

def observedHolderSupply (self : HolderState) : Decimal :=
  (self.ownerBalances.values.map fun holder => max holder.balance 0).sum

/-- `HolderState::holder_count_excluding`. -/
def holderCountExcluding (self : HolderState) (excludedOwners : Finset String) : ℕ :=
  self.ownerBalances.entries.countP fun e => 0 < e.2.balance ∧ e.1 ∉ excludedOwners

/-- The positive balances of the owners that are not excluded. -/
def countedBalances (self : HolderState) (excludedOwners : Finset String) : List Decimal :=
  (self.ownerBalances.entries.filter fun e => 0 < e.2.balance ∧ e.1 ∉ excludedOwners).map
    fun e => e.2.balance

/-- `HolderState::top_holder_pct_with_denominator`. -/
def topHolderPctWithDenominator (self : HolderState) (rank : ℕ) (denominator : Decimal)
    (excludedOwners : Finset String) : Decimal :=
  if denominator ≤ 0 then 0
  else
    (((self.countedBalances excludedOwners).insertionSort fun left right => right ≤ left).take
      rank).sum / denominator

/-- `HolderState::missing_owner_mapping_count`. -/
def missingOwnerMappingCount (self : HolderState) : ℕ :=
  self.tokenAccountBalances.keys.countP fun account => account ∉ self.tokenAccountToOwner

/-- `HolderState::holder_invariant_violations`. -/
def holderInvariantViolations (self : HolderState) (totalSupplyRaw : Decimal)
    (excludedOwners : Finset String) : List String :=
  let tolerance : Decimal := 1 / 10 ^ 6
  let observed := self.observedHolderSupply
  let excludingCurve := ((self.countedBalances excludedOwners).map fun b => max b 0).sum
  (if totalSupplyRaw + tolerance < observed then
    ["observed_owner_supply_raw_exceeds_total_supply: observed=" ++ observed.display ++
      " total=" ++ totalSupplyRaw.display]
  else []) ++
  (if totalSupplyRaw + tolerance < excludingCurve then
    ["observed_owner_supply_excluding_curve_raw_exceeds_total_supply: observed=" ++
      excludingCurve.display ++ " total=" ++ totalSupplyRaw.display]
  else []) ++
  ((self.ownerBalances.entries.filter fun e => e.2.balance < 0).map fun e =>
    "negative_owner_balance: owner=" ++ e.1 ++ " balance=" ++ e.2.balance.display) ++
  ((self.tokenAccountBalances.entries.filter fun e => e.2 < 0).map fun e =>
    "negative_token_account_balance: token_account=" ++ e.1 ++ " balance=" ++ e.2.display) ++
  (if 1 + tolerance < self.topHolderPct 1 then
    ["top_holder_pct_observed_exceeds_one: value=" ++ (self.topHolderPct 1).display]
  else []) ++
  (if 1 + tolerance < self.topHolderPctWithDenominator 1 totalSupplyRaw excludedOwners then
    ["top_holder_pct_total_supply_exceeds_one"]
  else [])

end HolderState

end PumpLaunchTrader
