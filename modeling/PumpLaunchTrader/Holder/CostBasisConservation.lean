import PumpLaunchTrader.Lib.Runs
import PumpLaunchTrader.Model.State.Holder

/-! # Conservation of the cost basis

Along a run of trades the size of a position stays within what was bought and the realized
profit accounts for every quote amount. The basis of an empty position is zero exactly in the
runs that never pay for no tokens while the position is empty. -/

namespace PumpLaunchTrader.CostBasisPosition

/-! ## Runs of trades -/

inductive Trade where
  | buy (quoteSpent tokenOut : Decimal) (timestamp : OffsetDateTime) (latestPrice : Decimal)
  | sell (quoteOut tokenIn : Decimal) (timestamp : OffsetDateTime) (latestPrice : Decimal)

def Trade.NonNegative : Trade → Prop
  | .buy quoteSpent tokenOut _ _ => 0 ≤ quoteSpent ∧ 0 ≤ tokenOut
  | .sell quoteOut tokenIn _ _ => 0 ≤ quoteOut ∧ 0 ≤ tokenIn

def applyTrade (self : CostBasisPosition) : Trade → CostBasisPosition
  | .buy quoteSpent tokenOut timestamp latestPrice =>
      self.applyBuy quoteSpent tokenOut timestamp latestPrice
  | .sell quoteOut tokenIn timestamp latestPrice =>
      self.applySell quoteOut tokenIn timestamp latestPrice

/-- What a sell out of a position that is not empty brings in. -/
def proceedsOf (self : CostBasisPosition) : Trade → Decimal
  | .buy _ _ _ _ => 0
  | .sell quoteOut _ _ _ => if 0 < self.remainingPositionSize then quoteOut else 0

/-- What the sells of a run bring in. -/
def proceeds : CostBasisPosition → List Trade → Decimal
  | _, [] => 0
  | self, trade :: trades => self.proceedsOf trade + proceeds (self.applyTrade trade) trades

/-- A buy of no tokens while the position is empty, for which something is paid. -/
def PaysForNothing (self : CostBasisPosition) : Trade → Prop
  | .buy quoteSpent tokenOut _ _ =>
      self.remainingPositionSize = 0 ∧ tokenOut = 0 ∧ 0 < quoteSpent
  | .sell _ _ _ _ => False

/-! ## Sells -/

variable {self : CostBasisPosition}

theorem applySell_of_empty {quoteOut tokenIn latestPrice : Decimal} {timestamp : OffsetDateTime}
    (h : self.remainingPositionSize ≤ 0) :
    self.applySell quoteOut tokenIn timestamp latestPrice =
      { self with hasRoundTripped := true, lastUpdatedAt := some timestamp } :=
  if_pos h

/-- A sell of all that is left, or of more. -/
theorem applySell_of_exit (quoteOut latestPrice : Decimal) (timestamp : OffsetDateTime)
    {tokenIn : Decimal} (h : 0 < self.remainingPositionSize)
    (hexit : self.remainingPositionSize ≤ tokenIn) :
    (self.applySell quoteOut tokenIn timestamp latestPrice).remainingPositionSize = 0 ∧
    (self.applySell quoteOut tokenIn timestamp latestPrice).estimatedCostBasisQuote = 0 ∧
    (self.applySell quoteOut tokenIn timestamp latestPrice).estimatedAverageEntryPrice = 0 ∧
    (self.applySell quoteOut tokenIn timestamp latestPrice).estimatedRealizedPnl =
      self.estimatedRealizedPnl + (quoteOut - self.estimatedCostBasisQuote) := by
  have hcost : self.estimatedCostBasisQuote / self.remainingPositionSize *
      self.remainingPositionSize = self.estimatedCostBasisQuote := div_mul_cancel₀ _ h.ne'
  simp [applySell, not_le.mpr h, min_eq_right hexit, hcost]

/-- A sell of a part takes the same part of the basis. -/
theorem applySell_of_part (quoteOut latestPrice : Decimal) (timestamp : OffsetDateTime)
    {tokenIn : Decimal} (h : 0 < self.remainingPositionSize)
    (hpart : tokenIn < self.remainingPositionSize) :
    (self.applySell quoteOut tokenIn timestamp latestPrice).remainingPositionSize =
      self.remainingPositionSize - tokenIn ∧
    (self.applySell quoteOut tokenIn timestamp latestPrice).estimatedCostBasisQuote =
      self.estimatedCostBasisQuote -
        self.estimatedCostBasisQuote / self.remainingPositionSize * tokenIn ∧
    (self.applySell quoteOut tokenIn timestamp latestPrice).estimatedAverageEntryPrice =
      (self.estimatedCostBasisQuote -
        self.estimatedCostBasisQuote / self.remainingPositionSize * tokenIn) /
          (self.remainingPositionSize - tokenIn) ∧
    (self.applySell quoteOut tokenIn timestamp latestPrice).estimatedRealizedPnl =
      self.estimatedRealizedPnl + (quoteOut -
        self.estimatedCostBasisQuote / self.remainingPositionSize * tokenIn) := by
  have hleft : 0 < self.remainingPositionSize - tokenIn := sub_pos.mpr hpart
  simp [applySell, not_le.mpr h, min_eq_left hpart.le, not_le.mpr hleft, hpart]

@[simp] theorem applySell_originalPositionSize (quoteOut tokenIn latestPrice : Decimal)
    (timestamp : OffsetDateTime) :
    (self.applySell quoteOut tokenIn timestamp latestPrice).originalPositionSize =
      self.originalPositionSize := by
  unfold applySell
  split <;> rfl

@[simp] theorem applySell_originalQuoteSpent (quoteOut tokenIn latestPrice : Decimal)
    (timestamp : OffsetDateTime) :
    (self.applySell quoteOut tokenIn timestamp latestPrice).originalQuoteSpent =
      self.originalQuoteSpent := by
  unfold applySell
  split <;> rfl

/-! ## What every trade keeps -/

structure Bounded (position : CostBasisPosition) : Prop where
  remaining : 0 ≤ position.remainingPositionSize
  size : position.remainingPositionSize ≤ position.originalPositionSize
  basis : 0 ≤ position.estimatedCostBasisQuote

theorem bounded_applyTrade (h : self.Bounded) {trade : Trade} (htrade : trade.NonNegative) :
    (self.applyTrade trade).Bounded := by
  cases trade with
  | buy quoteSpent tokenOut timestamp latestPrice =>
      exact ⟨add_nonneg h.remaining htrade.2, add_le_add h.size le_rfl,
        add_nonneg h.basis htrade.1⟩
  | sell quoteOut tokenIn timestamp latestPrice =>
      rcases h.remaining.eq_or_lt with hempty | hpos
      · rw [applyTrade, applySell_of_empty hempty.ge]
        exact ⟨h.remaining, h.size, h.basis⟩
      · rcases le_or_gt self.remainingPositionSize tokenIn with hexit | hpart
        · obtain ⟨hremaining, hbasis, -, -⟩ :=
            applySell_of_exit quoteOut latestPrice timestamp hpos hexit
          constructor
          · simp [applyTrade, hremaining]
          · simpa [applyTrade, hremaining] using h.remaining.trans h.size
          · simp [applyTrade, hbasis]
        · obtain ⟨hremaining, hbasis, -, -⟩ :=
            applySell_of_part quoteOut latestPrice timestamp hpos hpart
          have hremoved : self.estimatedCostBasisQuote / self.remainingPositionSize * tokenIn ≤
              self.estimatedCostBasisQuote := by
            calc self.estimatedCostBasisQuote / self.remainingPositionSize * tokenIn
                ≤ self.estimatedCostBasisQuote / self.remainingPositionSize *
                    self.remainingPositionSize :=
                  mul_le_mul_of_nonneg_left hpart.le (div_nonneg h.basis hpos.le)
              _ = self.estimatedCostBasisQuote := div_mul_cancel₀ _ hpos.ne'
          constructor
          · simpa [applyTrade, hremaining] using hpart.le
          · simp only [applyTrade, hremaining, applySell_originalPositionSize]
            linarith [h.size, htrade.2]
          · simpa [applyTrade, hbasis] using hremoved

/-- The realized profit less the basis moves with what is brought in and what is spent. -/
theorem balance_applyTrade (h : self.Bounded) (trade : Trade) :
    (self.applyTrade trade).estimatedRealizedPnl -
        (self.applyTrade trade).estimatedCostBasisQuote +
        (self.applyTrade trade).originalQuoteSpent =
      self.estimatedRealizedPnl - self.estimatedCostBasisQuote + self.originalQuoteSpent +
        self.proceedsOf trade := by
  cases trade with
  | buy quoteSpent tokenOut timestamp latestPrice =>
      simp only [applyTrade, applyBuy, proceedsOf]
      linarith
  | sell quoteOut tokenIn timestamp latestPrice =>
      rcases h.remaining.eq_or_lt with hempty | hpos
      · simp [applyTrade, applySell_of_empty hempty.ge, proceedsOf, ← hempty]
      · rcases le_or_gt self.remainingPositionSize tokenIn with hexit | hpart
        · obtain ⟨-, hbasis, -, hpnl⟩ :=
            applySell_of_exit quoteOut latestPrice timestamp hpos hexit
          simp only [applyTrade, hbasis, hpnl, applySell_originalQuoteSpent, proceedsOf,
            if_pos hpos]
          linarith
        · obtain ⟨-, hbasis, -, hpnl⟩ :=
            applySell_of_part quoteOut latestPrice timestamp hpos hpart
          simp only [applyTrade, hbasis, hpnl, applySell_originalQuoteSpent, proceedsOf,
            if_pos hpos]
          linarith

theorem balance_run (h : self.Bounded) {trades : List Trade}
    (htrades : ∀ trade ∈ trades, trade.NonNegative) :
    (trades.foldl applyTrade self).estimatedRealizedPnl -
        (trades.foldl applyTrade self).estimatedCostBasisQuote +
        (trades.foldl applyTrade self).originalQuoteSpent =
      self.estimatedRealizedPnl - self.estimatedCostBasisQuote + self.originalQuoteSpent +
        self.proceeds trades := by
  induction trades generalizing self with
  | nil => simp [proceeds]
  | cons trade trades ih =>
      have hnext := bounded_applyTrade h (htrades trade List.mem_cons_self)
      have hrest : ∀ other ∈ trades, other.NonNegative := fun other hother =>
        htrades other (List.mem_cons_of_mem _ hother)
      rw [List.foldl_cons, ih hnext hrest, balance_applyTrade h trade, proceeds, add_assoc]

/-! ## The basis of an empty position -/

structure Settled (position : CostBasisPosition) : Prop where
  empty : position.remainingPositionSize = 0 → position.estimatedCostBasisQuote = 0
  average : position.estimatedAverageEntryPrice * position.remainingPositionSize =
    position.estimatedCostBasisQuote

theorem settled_applySell (h : self.Bounded) (hsettled : self.Settled)
    (quoteOut tokenIn latestPrice : Decimal) (timestamp : OffsetDateTime) :
    (self.applySell quoteOut tokenIn timestamp latestPrice).Settled := by
  rcases h.remaining.eq_or_lt with hempty | hpos
  · rw [applySell_of_empty hempty.ge]
    exact ⟨hsettled.empty, hsettled.average⟩
  · rcases le_or_gt self.remainingPositionSize tokenIn with hexit | hpart
    · obtain ⟨hremaining, hbasis, haverage, -⟩ :=
        applySell_of_exit quoteOut latestPrice timestamp hpos hexit
      exact ⟨fun _ => hbasis, by rw [hremaining, hbasis, mul_zero]⟩
    · obtain ⟨hremaining, hbasis, haverage, -⟩ :=
        applySell_of_part quoteOut latestPrice timestamp hpos hpart
      have hleft : self.remainingPositionSize - tokenIn ≠ 0 := (sub_pos.mpr hpart).ne'
      constructor
      · intro hnone
        exact absurd (hremaining.symm.trans hnone) hleft
      · rw [haverage, hremaining, hbasis, div_mul_cancel₀ _ hleft]

/-- A trade leaves the basis of an empty position at zero unless it pays for nothing. -/
theorem settled_applyTrade_iff (h : self.Bounded) (hsettled : self.Settled) {trade : Trade}
    (htrade : trade.NonNegative) :
    (self.applyTrade trade).Settled ↔ ¬ self.PaysForNothing trade := by
  cases trade with
  | sell quoteOut tokenIn timestamp latestPrice =>
      exact ⟨fun _ => not_false, fun _ => settled_applySell h hsettled _ _ _ _⟩
  | buy quoteSpent tokenOut timestamp latestPrice =>
      constructor
      · rintro hnext ⟨hempty, htokens, hquote⟩
        have hbasis : self.estimatedCostBasisQuote + quoteSpent = 0 :=
          hnext.empty (by simp [applyTrade, applyBuy, hempty, htokens])
        linarith [h.basis]
      · intro hpays
        rcases (bounded_applyTrade h htrade).remaining.eq_or_lt with hnone | hpos
        · -- nothing was held and nothing was bought, so nothing was paid
          have hsum : self.remainingPositionSize + tokenOut = 0 := hnone.symm
          have hempty : self.remainingPositionSize = 0 := by linarith [h.remaining, htrade.2]
          have htokens : tokenOut = 0 := by linarith
          have hquote : quoteSpent = 0 := by
            by_contra hne
            exact hpays ⟨hempty, htokens, lt_of_le_of_ne htrade.1 (Ne.symm hne)⟩
          have hbasis : self.estimatedCostBasisQuote = 0 := hsettled.empty hempty
          constructor
          · intro _
            simp [applyTrade, applyBuy, hbasis, hquote]
          · simp [applyTrade, applyBuy, hbasis, hquote, hempty, htokens]
        · have hheld : 0 < self.remainingPositionSize + tokenOut := hpos
          constructor
          · intro hnone
            exact absurd hnone hheld.ne'
          · simp only [applyTrade, applyBuy, if_pos hheld]
            exact div_mul_cancel₀ _ hheld.ne'

/-! ## Conservation -/

/-- The books of a position after some trades. -/
structure Conserved (trades : List Trade) : Prop where
  bounded : (trades.foldl applyTrade {}).Bounded
  settled : (trades.foldl applyTrade {}).Settled
  balance : (trades.foldl applyTrade {}).estimatedRealizedPnl -
      (trades.foldl applyTrade {}).estimatedCostBasisQuote =
    proceeds {} trades - (trades.foldl applyTrade {}).originalQuoteSpent

theorem bounded_run (h : self.Bounded) {trades : List Trade}
    (htrades : ∀ trade ∈ trades, trade.NonNegative) :
    (trades.foldl applyTrade self).Bounded := by
  induction trades generalizing self with
  | nil => exact h
  | cons trade trades ih =>
      exact ih (bounded_applyTrade h (htrades trade List.mem_cons_self)) fun other hother =>
        htrades other (List.mem_cons_of_mem _ hother)

theorem bounded_default : Bounded {} := ⟨le_rfl, le_rfl, le_rfl⟩

theorem settled_default : Settled {} := ⟨fun _ => rfl, mul_zero _⟩

theorem conserved_iff_settled {trades : List Trade}
    (htrades : ∀ trade ∈ trades, trade.NonNegative) :
    Conserved trades ↔ (trades.foldl applyTrade {}).Settled := by
  refine ⟨Conserved.settled, fun hsettled => ⟨bounded_run bounded_default htrades, hsettled, ?_⟩⟩
  have hbalance := balance_run bounded_default htrades
  simp only [sub_self, zero_add, add_zero] at hbalance
  linarith

/-- The cost basis is conserved in every state of a run exactly when no trade of the run pays
for no tokens while the position is empty. -/
theorem conserved_iff {trades : List Trade} (htrades : ∀ trade ∈ trades, trade.NonNegative) :
    (∀ before after, trades = before ++ after → Conserved before) ↔
      Runs.Along applyTrade (fun position trade => ¬ position.PaysForNothing trade) {} trades := by
  have hnonneg : Runs.Along applyTrade (fun _ trade => trade.NonNegative) {} trades :=
    Runs.along_inputs_iff.mpr htrades
  have hsettles := Runs.forall_reached_iff_along_of_kept (J := Bounded) (I := Settled)
    (P := fun (position : CostBasisPosition) trade => ¬ position.PaysForNothing trade)
    (fun _ _ h htrade => bounded_applyTrade h htrade)
    (fun _ _ h hsettled htrade => settled_applyTrade_iff h hsettled htrade)
    bounded_default settled_default hnonneg
  rw [← hsettles]
  refine forall₃_congr fun before after hsplit => conserved_iff_settled fun trade hmem => ?_
  exact htrades trade (hsplit ▸ List.mem_append_left after hmem)

/-- A buy, a sell of more than was bought and a second buy. -/
theorem conserved_reentry : Conserved
    [.buy 4 10 unixEpoch 1, .sell 9 12 unixEpoch 1, .buy 3 5 unixEpoch 1] := by
  refine (conserved_iff ?_).mpr ?_ _ [] (List.append_nil _).symm
  · simp [Trade.NonNegative]
  · simp [Runs.Along, PaysForNothing, applyTrade, applyBuy]

/-- A buy of no tokens leaves an empty position with a basis. -/
theorem not_conserved_of_no_tokens : ¬ Conserved [.buy 10 0 unixEpoch 1] := by
  intro h
  have hbasis := h.settled.empty (by decide +kernel)
  exact absurd hbasis (by decide +kernel)

end PumpLaunchTrader.CostBasisPosition
