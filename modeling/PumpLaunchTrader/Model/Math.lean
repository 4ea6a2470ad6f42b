import Mathlib.Data.Rat.Floor
import Mathlib.Data.String.Basic

/-! # Unit conversions and curve arithmetic (`common::math`)

`rust_decimal` values are read as exact rationals. A timestamp is its number of
nanoseconds since the Unix epoch and a duration a number of nanoseconds. -/

namespace PumpLaunchTrader

/-- A `rust_decimal::Decimal`, taken as the exact rational it denotes. -/
abbrev Decimal := ℚ

/-- A `time::OffsetDateTime`, as nanoseconds since the epoch. -/
abbrev OffsetDateTime := ℤ

/-- A `time::Duration`, in nanoseconds. -/
abbrev Duration := ℤ

def unixEpoch : OffsetDateTime := 0

namespace Duration

def milliseconds (n : ℤ) : Duration := n * 1000000

def seconds (n : ℤ) : Duration := n * 1000000000

/-- `Duration::whole_milliseconds`, which rounds toward zero. -/
def wholeMilliseconds (d : Duration) : ℤ := Int.tdiv d 1000000

/-- `Duration::whole_seconds`, which rounds toward zero. -/
def wholeSeconds (d : Duration) : ℤ := Int.tdiv d 1000000000

end Duration

namespace Decimal

/-- `Ord::clamp`. -/
def clamp (x low high : Decimal) : Decimal := max low (min x high)

/-- The largest scale of a `rust_decimal` value. -/
def maxScale : ℕ := 28

def padFraction (digits : String) : String :=
  String.ofList (List.replicate (maxScale - digits.length) '0') ++ digits

def trimFraction (digits : String) : String :=
  String.ofList ((digits.toList.reverse.dropWhile (· = '0')).reverse)

/-- The decimal text of a value: sign, whole part and the digits after the point that
are needed to write it. -/
def display (x : Decimal) : String :=
  let scaled := (|x| * 10 ^ maxScale).floor.toNat
  let whole := scaled / 10 ^ maxScale
  let fraction := scaled % 10 ^ maxScale
  (if x < 0 then "-" else "") ++ toString whole ++
    (if fraction = 0 then "" else "." ++ trimFraction (padFraction (toString fraction)))

end Decimal

/-- `char::is_whitespace`. -/
def isRustWhitespace (c : Char) : Bool :=
  let n := c.toNat
  (9 ≤ n ∧ n ≤ 13) ∨ n = 32 ∨ n = 0x85 ∨ n = 0xa0 ∨ n = 0x1680 ∨ (0x2000 ≤ n ∧ n ≤ 0x200a) ∨
    n = 0x2028 ∨ n = 0x2029 ∨ n = 0x202f ∨ n = 0x205f ∨ n = 0x3000

/-- `str::trim`. -/
def trimText (text : String) : String :=
  String.ofList ((text.toList.dropWhile isRustWhitespace).reverse.dropWhile
    isRustWhitespace).reverse

/-- `u64::saturating_add`. -/
def saturatingAdd (a b : ℕ) : ℕ := min (a + b) (2 ^ 64 - 1)

def lamportsPerSol : ℕ := 1000000000
def defaultPumpTokenDecimals : UInt8 := 6
def pumpTotalSupplyUi : ℕ := 1000000000
def pumpReservedTokensUi : ℕ := 206900000
def pumpInitialRealTokenReservesUi : ℕ := 793100000

/-- `10u64.pow(decimals)`, which wraps at 64 bits. -/
def decimalPow10 (decimals : UInt8) : Decimal :=
  ((10 ^ decimals.toNat % 2 ^ 64 : ℕ) : ℚ)

def rawTokensToUi (raw : Decimal) (decimals : UInt8) : Decimal :=
  raw / decimalPow10 decimals

def lamportsToSol (lamports : Decimal) : Decimal :=
  lamports / lamportsPerSol

def priceLamportsPerRawToken (quoteLamports rawTokens : Decimal) : Option Decimal :=
  if 0 < quoteLamports ∧ 0 < rawTokens then some (quoteLamports / rawTokens) else none

def priceSolPerUiToken (quoteLamports rawTokens : Decimal) (decimals : UInt8) :
    Option Decimal :=
  let quoteSol := lamportsToSol quoteLamports
  let tokensUi := rawTokensToUi rawTokens decimals
  if 0 < quoteSol ∧ 0 < tokensUi then some (quoteSol / tokensUi) else none

def pumpVirtualReservePriceSolPerToken (virtualQuoteLamports virtualTokenRaw : Decimal)
    (decimals : UInt8) : Option Decimal :=
  priceSolPerUiToken virtualQuoteLamports virtualTokenRaw decimals

def pumpMarketCapQuote1b (priceQuotePerToken : Decimal) : Decimal :=
  priceQuotePerToken * pumpTotalSupplyUi

def pumpMarketCapQuoteTotalSupply (priceQuotePerToken curveEconomicSupplyUi : Decimal) :
    Decimal :=
  priceQuotePerToken * curveEconomicSupplyUi

def pumpCurveProgressPctFromRealTokenReservesUi (balanceUi : Decimal) : Option Decimal :=
  let reserved : Decimal := pumpReservedTokensUi
  let initial : Decimal := pumpInitialRealTokenReservesUi
  if initial ≤ 0 then none
  else
    let remainingAboveReserved := max (balanceUi - reserved) 0
    some (Decimal.clamp (100 - remainingAboveReserved * 100 / initial) 0 100)

def pumpCurveProgressPctFromRealTokenReservesRaw (realTokenReservesRaw : Decimal)
    (decimals : UInt8) : Option Decimal :=
  pumpCurveProgressPctFromRealTokenReservesUi (rawTokensToUi realTokenReservesRaw decimals)

end PumpLaunchTrader
