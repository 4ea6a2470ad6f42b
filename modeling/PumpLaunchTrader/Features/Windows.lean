import PumpLaunchTrader.Model.Features

/-! # Look-ahead in feature windows

A window has a start and no end, so entries that arrive with a later time are read. Two states
that agree up to the observation are told apart by what comes after it, and by nothing else. -/

namespace PumpLaunchTrader

namespace Features

/-- The entries of a history up to a time. -/
def upTo {α : Type} (history : List (OffsetDateTime × α)) (observedAt : OffsetDateTime) :
    List (OffsetDateTime × α) :=
  history.filter fun entry => entry.1 ≤ observedAt

/-- The trades up to a time. -/
def tradesUpTo (token : TokenState) (observedAt : OffsetDateTime) : List TradeObservation :=
  token.tradeStats.tradeHistory.filter fun trade => trade.timestamp ≤ observedAt

/-- Two states agree on what is known at a time: the entries up to it, the latest price and the
number of holders. -/
structure AgreeAt (observedAt : OffsetDateTime) (a b : TokenState) : Prop where
  prices : upTo a.tradeStats.priceHistory observedAt = upTo b.tradeStats.priceHistory observedAt
  trades : tradesUpTo a observedAt = tradesUpTo b observedAt
  holders : upTo a.holderState.holderCountHistory observedAt =
    upTo b.holderState.holderCountHistory observedAt
  latestPrice : a.latestPrice = b.latestPrice
  holderCount : a.holderState.nonzeroHolderCount = b.holderState.nonzeroHolderCount

/-- Two states have the same window features. -/
structure SameWindows (observedAt : OffsetDateTime) (window : Duration) (a b : TokenState) :
    Prop where
  windowReturn : windowReturn a observedAt window = windowReturn b observedAt window
  windowVolatility : windowVolatility a observedAt window = windowVolatility b observedAt window
  windowVelocity : windowVelocity a observedAt window = windowVelocity b observedAt window
  windowBuyVolume : windowBuyVolume a observedAt window = windowBuyVolume b observedAt window
  windowNetFlow : windowNetFlow a observedAt window = windowNetFlow b observedAt window
  uniqueBuyersWithin :
    uniqueBuyersWithin a observedAt window = uniqueBuyersWithin b observedAt window
  holderCountAtWindow :
    holderCountAtWindow a observedAt window = holderCountAtWindow b observedAt window
  holderGrowthRate : holderGrowthRate a observedAt = holderGrowthRate b observedAt

/-- No history of a state reaches beyond a time. -/
structure EndsBy (observedAt : OffsetDateTime) (token : TokenState) : Prop where
  prices : ∀ entry ∈ token.tradeStats.priceHistory, entry.1 ≤ observedAt
  trades : ∀ trade ∈ token.tradeStats.tradeHistory, trade.timestamp ≤ observedAt
  holders : ∀ entry ∈ token.holderState.holderCountHistory, entry.1 ≤ observedAt

theorem upTo_eq_self {α : Type} {history : List (OffsetDateTime × α)}
    {observedAt : OffsetDateTime} (h : ∀ entry ∈ history, entry.1 ≤ observedAt) :
    upTo history observedAt = history :=
  List.filter_eq_self.mpr fun entry hentry => by simpa using h entry hentry

/-- States whose histories end by the observation and agree there have the same features. -/
theorem AgreeAt.sameWindows {observedAt : OffsetDateTime} {a b : TokenState}
    (h : AgreeAt observedAt a b) (ha : EndsBy observedAt a) (hb : EndsBy observedAt b)
    (window : Duration) : SameWindows observedAt window a b := by
  have hprices : a.tradeStats.priceHistory = b.tradeStats.priceHistory := by
    rw [← upTo_eq_self ha.prices, h.prices, upTo_eq_self hb.prices]
  have hholders : a.holderState.holderCountHistory = b.holderState.holderCountHistory := by
    rw [← upTo_eq_self ha.holders, h.holders, upTo_eq_self hb.holders]
  have htrades : a.tradeStats.tradeHistory = b.tradeStats.tradeHistory := by
    have hself : ∀ token, EndsBy observedAt token →
        tradesUpTo token observedAt = token.tradeStats.tradeHistory := fun token htoken =>
      List.filter_eq_self.mpr fun trade htrade => by simpa using htoken.trades trade htrade
    rw [← hself a ha, h.trades, hself b hb]
  have hsince : tradesSince a observedAt window = tradesSince b observedAt window := by
    rw [tradesSince, htrades, tradesSince]
  constructor
  · rw [Features.windowReturn, Features.windowReturn, hprices, h.latestPrice]
  · rw [Features.windowVolatility, Features.windowVolatility, hprices]
  · rw [Features.windowVelocity, Features.windowVelocity, hprices, h.latestPrice]
  · rw [Features.windowBuyVolume, Features.windowBuyVolume, hsince]
  · rw [Features.windowNetFlow, Features.windowNetFlow, hsince]
  · rw [Features.uniqueBuyersWithin, Features.uniqueBuyersWithin, hsince]
  · rw [Features.holderCountAtWindow, Features.holderCountAtWindow, hholders]
  · rw [Features.holderGrowthRate, Features.holderGrowthRate, holderGrowthRateWindow,
      holderGrowthRateWindow, hholders, h.holderCount]

/-! ## A later buy -/

/-- A buy after the observation that the window does not exclude. -/
def laterBuy (observedAt : OffsetDateTime) (window : Duration) : TradeObservation where
  timestamp := max (observedAt + 1) (observedAt - window)
  slot := 0
  signature := none
  side := .buy
  wallet := "buyer"
  quote := 1
  tokens := 1
  price := 1
  computeUnitLimit := none
  computeUnitPrice := none
  priorityFeeLamports := none
  baseFeeLamports := none
  accountCount := none
  instructionCount := none
  programCount := none
  clientFingerprint := none
  isCreator := false
  isTopHolderPreSell := false
  isTentative := false

/-- The state with a later buy at the end of its trades. -/
def withLaterBuy (token : TokenState) (observedAt : OffsetDateTime) (window : Duration) :
    TokenState :=
  { token with
    tradeStats := { token.tradeStats with
      tradeHistory := token.tradeStats.tradeHistory ++ [laterBuy observedAt window] } }

theorem agreeAt_withLaterBuy (token : TokenState) (observedAt : OffsetDateTime)
    (window : Duration) : AgreeAt observedAt token (withLaterBuy token observedAt window) where
  prices := rfl
  trades := by
    have hlater : ¬ (laterBuy observedAt window).timestamp ≤ observedAt :=
      not_le.mpr ((lt_add_one observedAt).trans_le (le_max_left _ _))
    simp [tradesUpTo, withLaterBuy, hlater]
  holders := rfl
  latestPrice := rfl
  holderCount := rfl

/-- The later buy is counted in the window. -/
theorem windowBuyVolume_withLaterBuy (token : TokenState) (observedAt : OffsetDateTime)
    (window : Duration) :
    windowBuyVolume (withLaterBuy token observedAt window) observedAt window =
      windowBuyVolume token observedAt window + 1 := by
  have hsince : observedAt - window ≤ (laterBuy observedAt window).timestamp :=
    le_max_right _ _
  unfold windowBuyVolume tradesSince withLaterBuy
  rw [List.filter_append, List.filter_append, List.map_append, List.sum_append,
    List.filter_cons_of_pos (by simpa using hsince), List.filter_nil,
    List.filter_cons_of_pos (by simp [laterBuy]), List.filter_nil, List.map_singleton,
    List.sum_singleton]
  rfl

/-- States whose histories end by the observation and agree there have the same features; but
whatever a state knows, another one agrees with it at the observation and has others. -/
theorem windows_look_ahead (observedAt : OffsetDateTime) (window : Duration) :
    (∀ a b, AgreeAt observedAt a b → EndsBy observedAt a → EndsBy observedAt b →
      SameWindows observedAt window a b) ∧
    ∀ a, ¬ ∀ b, AgreeAt observedAt a b → SameWindows observedAt window a b := by
  refine ⟨fun a b h ha hb => h.sameWindows ha hb window, ?_⟩
  intro a h
  have hsame := (h _ (agreeAt_withLaterBuy a observedAt window)).windowBuyVolume
  rw [windowBuyVolume_withLaterBuy] at hsame
  linarith

/-- A buy that comes a nanosecond after the observation is in its window of five seconds. -/
theorem later_buy_in_window :
    ¬ ∀ (observedAt : OffsetDateTime) (window : Duration) (a b : TokenState),
      AgreeAt observedAt a b → SameWindows observedAt window a b := by
  intro h
  have hagree := agreeAt_withLaterBuy (TokenState.new ⟨"mint"⟩ .geyserProcessed) 0 window5s
  have hsame := (h 0 window5s _ _ hagree).windowBuyVolume
  revert hsame
  decide +kernel

end Features

end PumpLaunchTrader
