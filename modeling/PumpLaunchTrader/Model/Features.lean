import PumpLaunchTrader.Model.Assessment
import PumpLaunchTrader.Model.State.Token

/-! # Features of a token (`features`)

The window functions, the drawdown from the high, the features that rank a token among the
launches of its time, and what a snapshot feeds to its hash. -/

namespace PumpLaunchTrader

namespace Features

def window5s : Duration := Duration.seconds 5
def window15s : Duration := Duration.seconds 15
def window30s : Duration := Duration.seconds 30
def window1m : Duration := Duration.seconds 60

def clamp01 (value : Decimal) : Decimal := min (max value 0) 1

/-- `drawdown_from_ath_pct` of `compute_price_path_features`. -/
def drawdownFromAthPct (token : TokenState) : Option Decimal :=
  if 0 < token.tradeStats.allTimeHigh then
    some ((token.tradeStats.allTimeHigh - token.latestPrice) / token.tradeStats.allTimeHigh)
  else none

/-! ## Windows -/

/-- The first entry of a history at or after the start of the window. -/
def firstSince {α : Type} (history : List (OffsetDateTime × α)) (observedAt : OffsetDateTime)
    (window : Duration) : Option (OffsetDateTime × α) :=
  history.find? fun entry => observedAt - window ≤ entry.1

/-- `window_return`. -/
def windowReturn (token : TokenState) (observedAt : OffsetDateTime) (window : Duration) :
    Option Decimal := do
  let (_, first) ← firstSince token.tradeStats.priceHistory observedAt window
  if first ≤ 0 then none else some ((token.latestPrice - first) / first)

/-- `window_volatility`: the mean of the relative moves from one point to the next. -/
def windowVolatility (token : TokenState) (observedAt : OffsetDateTime) (window : Duration) :
    Option Decimal :=
  let points := token.tradeStats.priceHistory.filter fun entry => observedAt - window ≤ entry.1
  if points.length < 2 then none
  else
    let moves := (points.zip points.tail).filterMap fun pair =>
      if 0 < pair.1.2 then some |(pair.2.2 - pair.1.2) / pair.1.2| else none
    if 0 < moves.length then some (moves.sum / moves.length) else none

/-- `window_velocity`. -/
def windowVelocity (token : TokenState) (observedAt : OffsetDateTime) (window : Duration) :
    Option Decimal := do
  let (time, price) ← firstSince token.tradeStats.priceHistory observedAt window
  let elapsedMs := Duration.wholeMilliseconds (observedAt - time)
  if 0 < elapsedMs then some ((token.latestPrice - price) / elapsedMs) else none

/-- `holder_growth_rate_window`. -/
def holderGrowthRateWindow (token : TokenState) (observedAt : OffsetDateTime)
    (window : Duration) : Option Decimal := do
  let (time, count) ← firstSince token.holderState.holderCountHistory observedAt window
  let elapsed := Duration.wholeSeconds (observedAt - time)
  if 0 < elapsed then some (((token.holderState.nonzeroHolderCount : Decimal) - count) / elapsed)
  else none

/-- `holder_growth_rate`. -/
def holderGrowthRate (token : TokenState) (observedAt : OffsetDateTime) : Option Decimal :=
  holderGrowthRateWindow token observedAt window30s

/-- `holder_count_at_window`. -/
def holderCountAtWindow (token : TokenState) (observedAt : OffsetDateTime) (window : Duration) :
    Option ℕ :=
  (firstSince token.holderState.holderCountHistory observedAt window).map Prod.snd

/-- The trades at or after the start of the window. -/
def tradesSince (token : TokenState) (observedAt : OffsetDateTime) (window : Duration) :
    List TradeObservation :=
  token.tradeStats.tradeHistory.filter fun trade => observedAt - window ≤ trade.timestamp

/-- `window_buy_volume`. -/
def windowBuyVolume (token : TokenState) (observedAt : OffsetDateTime) (window : Duration) :
    Decimal :=
  (((tradesSince token observedAt window).filter fun trade => trade.side = .buy).map
    TradeObservation.quote).sum

/-- `window_net_flow`. -/
def windowNetFlow (token : TokenState) (observedAt : OffsetDateTime) (window : Duration) :
    Decimal :=
  ((tradesSince token observedAt window).map fun trade =>
    match trade.side with
    | .buy => trade.quote
    | .sell => -trade.quote).sum

/-- `unique_buyers_within`. -/
def uniqueBuyersWithin (token : TokenState) (observedAt : OffsetDateTime) (window : Duration) :
    ℕ :=
  (((tradesSince token observedAt window).filter fun trade => trade.side = .buy).map
    TradeObservation.wallet).toFinset.card

/-! ## The cohort of a token -/

/-- `same_time_cohort`, over the values of the token map in its iteration order. -/
def sameTimeCohort (token : TokenState) (tokens : List TokenState) (observedAt : OffsetDateTime)
    (window : Duration) : List TokenState :=
  match token.launchTime with
  | none => [token]
  | some launchTime =>
    tokens.filter fun other =>
      match other.launchTime with
      | none => false
      | some otherLaunch =>
        otherLaunch ≤ observedAt ∧
          |Duration.wholeSeconds (otherLaunch - launchTime)| ≤ Duration.wholeSeconds window

/-- `descending_rank`: the sort is stable and compares the metric alone. -/
def descendingRank (token : TokenState) (cohort : List TokenState)
    (metric : TokenState → Decimal) : ℕ :=
  let scored := (cohort.map fun other => (other.mint, metric other)).insertionSort
    fun left right => right.2 ≤ left.2
  match scored.findIdx? fun entry => entry.1 = token.mint with
  | some index => index + 1
  | none => cohort.length

/-- `percentile_against`. -/
def percentileAgainst (cohort : List TokenState) (current : Decimal)
    (metric : TokenState → Decimal) : Decimal :=
  if cohort.isEmpty then 0
  else (cohort.countP fun other => metric other ≤ current : ℕ) / (cohort.length : Decimal)

/-- The features that `compute_cohort_features` sets in a cohort that is not empty. -/
structure CohortStanding where
  cohortDiscardRate : Decimal
  cohortRugRate : Decimal
  tokenRankByBuyVolume30s : ℕ
  tokenRankByNetFlow30s : ℕ
  tokenRankByHolderGrowth30s : ℕ
  tokenRankByPriceReturn30s : ℕ
  tokenRelativeStrengthScore : Decimal
  tokenRelativeWeaknessScore : Decimal
  cohortAttentionShare : Option Decimal
  bestLaunchInCohortDistance : Decimal
  thisTokenShareOfAllLaunchBuyVolume : Option Decimal
  thisTokenShareOfAllUniqueBuyers : Option Decimal
  tokenPercentileBuyVolume30s : Decimal
  tokenPercentileNetFlow30s : Decimal
  tokenPercentileHolderGrowth1m : Decimal
  tokenPercentilePriceReturn1m : Decimal
  tokenIsCohortLeaderFlag : Bool
  tokenIsCohortLaggardFlag : Bool
  tokenImprovingRankVelocity : Decimal
  tokenLosingRankVelocity : Decimal
  deriving DecidableEq, Repr

/-- The features that `compute_cohort_features` sets. -/
structure CohortFeatures where
  cohortLaunchCount : ℕ
  cohortActiveCount : ℕ
  standing : Option CohortStanding
  deriving DecidableEq, Repr

/-- The relative strength before it is clamped: one less the mean of the four ranks, counted
from zero, as a share of the last rank. -/
def relativeStrength (cohortSize buyRank netFlowRank holderRank priceRank : ℕ) : Decimal :=
  if cohortSize ≤ 1 then 1
  else
    let normalizedRankSum : Decimal :=
      ((buyRank - 1) + (netFlowRank - 1) + (holderRank - 1) + (priceRank - 1) : ℕ)
    let maxRankSum : Decimal := ((cohortSize - 1) * 4 : ℕ)
    1 - normalizedRankSum / max maxRankSum 1

/-- The part of `compute_cohort_features` for a cohort that is not empty. -/
def cohortStanding (token : TokenState) (tokens : List TokenState) (observedAt : OffsetDateTime)
    (cohort : List TokenState) : CohortStanding :=
  let size : Decimal := (cohort.length : ℕ)
  let discardCount := cohort.countP fun other =>
    other.lifecycle = .softDiscarded ∨ other.lifecycle = .hardDiscarded
  let rugCount := cohort.countP fun other => other.lifecycle = .rugArchive
  let buyRank := descendingRank token cohort (windowBuyVolume · observedAt window30s)
  let netFlowRank := descendingRank token cohort (windowNetFlow · observedAt window30s)
  let holderRank := descendingRank token cohort fun other =>
    (holderGrowthRate other observedAt).getD 0
  let priceRank := descendingRank token cohort fun other =>
    (windowReturn other observedAt window30s).getD 0
  let strength :=
    clamp01 (relativeStrength cohort.length buyRank netFlowRank holderRank priceRank)
  let volumes := cohort.map (windowBuyVolume · observedAt window30s)
  let totalBuyVolume := volumes.sum
  let ourVolume := windowBuyVolume token observedAt window30s
  let volumeShare := if 0 < totalBuyVolume then some (ourVolume / totalBuyVolume) else none
  let bestVolume := volumes.max?.getD 0
  let totalUniqueBuyers := (cohort.map fun other => other.tradeStats.uniqueBuyers.card).sum
  let rank5s := descendingRank token (sameTimeCohort token tokens observedAt window5s)
    (windowBuyVolume · observedAt window5s)
  let rank15s := descendingRank token (sameTimeCohort token tokens observedAt window15s)
    (windowBuyVolume · observedAt window15s)
  let velocity : Decimal := (rank15s : ℕ) - (rank5s : ℕ)
  { cohortDiscardRate := (discardCount : ℕ) / size
    cohortRugRate := (rugCount : ℕ) / size
    tokenRankByBuyVolume30s := buyRank
    tokenRankByNetFlow30s := netFlowRank
    tokenRankByHolderGrowth30s := holderRank
    tokenRankByPriceReturn30s := priceRank
    tokenRelativeStrengthScore := strength
    tokenRelativeWeaknessScore := 1 - strength
    cohortAttentionShare := volumeShare
    bestLaunchInCohortDistance := max (bestVolume - ourVolume) 0
    thisTokenShareOfAllLaunchBuyVolume := volumeShare
    thisTokenShareOfAllUniqueBuyers :=
      if 0 < totalUniqueBuyers then
        some ((token.tradeStats.uniqueBuyers.card : ℕ) / (totalUniqueBuyers : Decimal))
      else none
    tokenPercentileBuyVolume30s :=
      percentileAgainst cohort ourVolume (windowBuyVolume · observedAt window30s)
    tokenPercentileNetFlow30s :=
      percentileAgainst cohort (windowNetFlow token observedAt window30s)
        (windowNetFlow · observedAt window30s)
    tokenPercentileHolderGrowth1m :=
      percentileAgainst cohort ((holderGrowthRateWindow token observedAt window1m).getD 0)
        fun other => (holderGrowthRateWindow other observedAt window1m).getD 0
    tokenPercentilePriceReturn1m :=
      percentileAgainst cohort ((windowReturn token observedAt window1m).getD 0)
        fun other => (windowReturn other observedAt window1m).getD 0
    tokenIsCohortLeaderFlag := buyRank = 1 ∧ priceRank ≤ 2
    tokenIsCohortLaggardFlag := buyRank = cohort.length ∧ priceRank = cohort.length
    tokenImprovingRankVelocity := clamp01 (max (-velocity) 0)
    tokenLosingRankVelocity := clamp01 (max velocity 0) }

/-- `compute_cohort_features`, over the values of the token map in its iteration order. -/
def computeCohortFeatures (token : TokenState) (tokens : List TokenState)
    (observedAt : OffsetDateTime) : CohortFeatures :=
  let cohort := sameTimeCohort token tokens observedAt window30s
  { cohortLaunchCount := cohort.length
    cohortActiveCount := cohort.countP fun other =>
      other.lifecycle = .activeLight ∨ other.lifecycle = .activeDeep ∨
        other.lifecycle = .tradeCandidate ∨ other.lifecycle = .inPosition ∨
        other.lifecycle = .exitPending
    standing :=
      if cohort.isEmpty then none else some (cohortStanding token tokens observedAt cohort) }

end Features

namespace FeatureValue

def available (featureId : String) (value : FeatureDatum) : FeatureValue :=
  { featureId := featureId, status := .available, value := some value }

def missing (featureId : String) : FeatureValue :=
  { featureId := featureId, status := .missing, value := none }

def unavailable (featureId : String) : FeatureValue :=
  { featureId := featureId, status := .unavailable, value := none }

end FeatureValue

/-! ## The vector hash -/

/-- `Debug` of a status. -/
def FeatureStatus.debugName : FeatureStatus → String
  | .available => "Available"
  | .missing => "Missing"
  | .unavailable => "Unavailable"

/-- What a datum adds to the input of the hash. -/
def FeatureDatum.hashBytes : FeatureDatum → ByteArray
  | .numeric value => value.display.toUTF8
  | .text value => value.toUTF8
  | .boolean value => ⟨#[if value then 1 else 0]⟩

/-- One round of the loop of `compute_snapshot_profiled` over the values. -/
def hashFeature (input : ByteArray) (entry : String × FeatureValue) : ByteArray :=
  let input := input ++ entry.1.toUTF8 ++ entry.2.status.debugName.toUTF8
  match entry.2.value with
  | some value => input ++ value.hashBytes
  | none => input

/-- What `compute_snapshot_profiled` feeds to the hasher: the values of the map in the order
of their ids. -/
def snapshotHashInput (values : List (String × FeatureValue)) : ByteArray :=
  values.foldl hashFeature ByteArray.empty

end PumpLaunchTrader
