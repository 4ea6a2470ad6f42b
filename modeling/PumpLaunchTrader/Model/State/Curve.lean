import PumpLaunchTrader.Model.Event

/-! # Bonding-curve state (`state::BondingCurveState`) -/

namespace PumpLaunchTrader

structure BondingCurveState where
  virtualQuoteReserves : Decimal := 0
  virtualTokenReserves : Decimal := 0
  realQuoteReserves : Decimal := 0
  realTokenReserves : Decimal := 0
  tokenDecimals : UInt8 := defaultPumpTokenDecimals
  priceLamportsPerRawToken : Option Decimal := none
  priceSolPerToken : Option Decimal := none
  reservePriceSource : Option String := none
  reservePriceConfidence : Decimal := 0
  latestPrice : Decimal := 0
  launchPrice : Option Decimal := none
  marketCapQuote1b : Option Decimal := none
  marketCapQuoteTotalSupply : Option Decimal := none
  marketCapSource : Option String := none
  marketCapConfidence : Decimal := 0
  curveCompleteFlag : Option Bool := none
  curveProgressPct : Option Decimal := none
  curveProgressSource : Option String := none
  curveProgressConfidence : Decimal := 0
  curveCompletionPct : Option Decimal := none
  marketCapProxy : Option Decimal := none
  updateSlot : ℕ := 0
  updateWriteVersion : ℕ := 0
  lastUpdatedAt : Option OffsetDateTime := none
  accountUpdateConfidence : Decimal := 0
  quoteAssetType : QuoteAssetType := .unknown
  deriving DecidableEq, Repr

namespace BondingCurveState

/-- The test at the head of `apply_update`: an older slot, or an older write version of
the same slot. -/
def isStale (self : BondingCurveState) (slot writeVersion : ℕ) : Bool :=
  slot < self.updateSlot ∨ slot = self.updateSlot ∧ writeVersion < self.updateWriteVersion

/-- The assignments of `apply_update` once the update is accepted. -/
def acceptUpdate (self : BondingCurveState) (update : BondingCurveUpdateEvent) (slot : ℕ) :
    BondingCurveState :=
  let tokenDecimals := update.tokenDecimals.getD defaultPumpTokenDecimals
  let lamportsPrice := update.priceLamportsPerRawToken.orElse fun _ =>
    PumpLaunchTrader.priceLamportsPerRawToken
      update.virtualQuoteReserves update.virtualTokenReserves
  let solPrice := update.priceSolPerToken.orElse fun _ =>
    pumpVirtualReservePriceSolPerToken
      update.virtualQuoteReserves update.virtualTokenReserves tokenDecimals
  let latestPrice := solPrice.getD update.price
  let quote1b := update.marketCapQuote1b.orElse fun _ =>
    solPrice.map PumpLaunchTrader.pumpMarketCapQuote1b
  let progressPct := update.curveProgressPct.orElse fun _ =>
    pumpCurveProgressPctFromRealTokenReservesRaw update.realTokenReserves tokenDecimals
  { self with
    virtualQuoteReserves := update.virtualQuoteReserves
    virtualTokenReserves := update.virtualTokenReserves
    realQuoteReserves := update.realQuoteReserves
    realTokenReserves := update.realTokenReserves
    tokenDecimals := tokenDecimals
    priceLamportsPerRawToken := lamportsPrice
    priceSolPerToken := solPrice
    reservePriceSource := update.reservePriceSource.orElse fun _ => some "virtual_reserves"
    reservePriceConfidence :=
      update.reservePriceConfidence.getD (if solPrice.isSome then 1 else 0)
    latestPrice := latestPrice
    launchPrice := some (self.launchPrice.getD latestPrice)
    marketCapQuote1b := quote1b
    marketCapQuoteTotalSupply := update.marketCapQuoteTotalSupply.orElse fun _ =>
      solPrice.map fun price => pumpMarketCapQuoteTotalSupply price pumpTotalSupplyUi
    marketCapSource := update.marketCapSource.orElse fun _ =>
      some "price_times_curve_economic_supply"
    marketCapConfidence := update.marketCapConfidence.getD (if quote1b.isSome then 1 else 0)
    curveCompleteFlag := update.curveCompleteFlag
    curveProgressPct := progressPct
    curveProgressSource := update.curveProgressSource.orElse fun _ =>
      some "real_token_reserves_ui_minus_reserved"
    curveProgressConfidence :=
      update.curveProgressConfidence.getD (if progressPct.isSome then 1 else 0)
    curveCompletionPct := progressPct.orElse fun _ => update.curveCompletionPct
    marketCapProxy := update.marketCapProxy
    updateSlot := slot
    updateWriteVersion := update.accountWriteVersion.getD 0 }

/-- `BondingCurveState::apply_update`, with the flag that says whether it was accepted. -/
def applyUpdate (self : BondingCurveState) (update : BondingCurveUpdateEvent) (slot : ℕ) :
    BondingCurveState × Bool :=
  if self.isStale slot (update.accountWriteVersion.getD 0) then (self, false)
  else (self.acceptUpdate update slot, true)

/-- `BondingCurveState::staleness_ms`. -/
def stalenessMs (self : BondingCurveState) (now : OffsetDateTime) : Option ℤ :=
  self.lastUpdatedAt.map fun updatedAt => Duration.wholeMilliseconds (now - updatedAt)

end BondingCurveState

end PumpLaunchTrader
