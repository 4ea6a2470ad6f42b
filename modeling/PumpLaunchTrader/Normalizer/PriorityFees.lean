import PumpLaunchTrader.Lib.Digits
import PumpLaunchTrader.Model.Normalizer
import PumpLaunchTrader.Model.Sim

/-! # Priority fees, simulated and observed

The simulator charges the product of a unit limit and a unit price rounded up to lamports, the
normalizer estimates it rounded down. Both form the product in 64 bits: the simulator wraps
there, the normalizer saturates. -/

namespace PumpLaunchTrader

/-- The product that the simulator divides, without the bound of its type. -/
def FeeModel.priorityProduct (fees : FeeModel) : ℕ :=
  fees.params.computeUnitLimit * fees.params.computeUnitPriceMicroLamports

/-- A transaction that sets the compute budget of a fee model. -/
def TransactionUpdate.Bids (update : TransactionUpdate) (fees : FeeModel) : Prop :=
  update.computeBudget =
    (some fees.params.computeUnitLimit, some fees.params.computeUnitPriceMicroLamports)

instance (update : TransactionUpdate) (fees : FeeModel) : Decidable (update.Bids fees) :=
  inferInstanceAs (Decidable (_ = _))

/-- The simulated fee is the product in lamports rounded up, the observed one the same rounded
down, and they are at most a lamport apart. -/
structure ExactPriorityFees (fees : FeeModel) (update : TransactionUpdate) : Prop where
  simulated : fees.priorityFeeLamports = ⌈(fees.priorityProduct : ℚ) / (1000000 : ℕ)⌉₊
  observed : update.estimatedPriorityFee = some ⌊(fees.priorityProduct : ℚ) / (1000000 : ℕ)⌋₊
  close : ∀ observed ∈ update.estimatedPriorityFee,
    fees.priorityFeeLamports ≤ observed + 1 ∧ observed ≤ fees.priorityFeeLamports + 1

/-- The simulated fee is exact where the product does not wrap, and nowhere else. -/
theorem priorityFeeLamports_exact_iff (fees : FeeModel) :
    fees.priorityFeeLamports = ⌈(fees.priorityProduct : ℚ) / (1000000 : ℕ)⌉₊ ↔
      fees.priorityProduct < 2 ^ 64 := by
  rw [WordDivision.ceil_div_eq _ (by norm_num)]
  exact WordDivision.mod_ceilDiv_eq_iff (by norm_num : 0 < 1000000)
    (by norm_num : 1000000 ≤ 2 ^ 64) fees.priorityProduct

theorem priorityFeeLamportsChecked_exact_iff (fees : FeeModel) :
    fees.priorityFeeLamportsChecked = some ⌈(fees.priorityProduct : ℚ) / (1000000 : ℕ)⌉₊ ↔
      fees.priorityProduct < 2 ^ 64 := by
  have hchecked : fees.priorityFeeLamportsChecked =
      if fees.priorityProduct < 2 ^ 64 then some ((fees.priorityProduct + (1000000 - 1)) / 1000000)
      else none := rfl
  rw [WordDivision.ceil_div_eq _ (by norm_num), hchecked]
  by_cases hfits : fees.priorityProduct < 2 ^ 64
  · rw [if_pos hfits]
    exact iff_of_true rfl hfits
  · rw [if_neg hfits]
    exact iff_of_false (by simp) hfits

theorem estimatedPriorityFee_of_bids {fees : FeeModel} {update : TransactionUpdate}
    (hbids : update.Bids fees) :
    update.estimatedPriorityFee = some (min fees.priorityProduct (2 ^ 64 - 1) / 1000000) := by
  unfold TransactionUpdate.Bids at hbids
  simp only [TransactionUpdate.estimatedPriorityFee, hbids, FeeModel.priorityProduct]

/-- The observed fee is exact a little beyond the bound, to the end of the lamport that it
saturates in. -/
theorem estimatedPriorityFee_exact_iff {fees : FeeModel} {update : TransactionUpdate}
    (hbids : update.Bids fees) :
    update.estimatedPriorityFee = some ⌊(fees.priorityProduct : ℚ) / (1000000 : ℕ)⌋₊ ↔
      fees.priorityProduct < 18446744073710 * 1000000 := by
  rw [estimatedPriorityFee_of_bids hbids, Nat.floor_div_eq_div, Option.some_inj]
  exact WordDivision.min_div_eq_iff (2 ^ 64 - 1) (by norm_num) fees.priorityProduct

/-- Both fees are exact, and within a lamport of each other, exactly where the product of limit
and price fits into 64 bits. There, and only there, a build that checks for overflow returns
a fee. -/
theorem exactPriorityFees_iff (fees : FeeModel) (update : TransactionUpdate)
    (hbids : update.Bids fees) :
    (ExactPriorityFees fees update ↔ fees.priorityProduct < 2 ^ 64) ∧
    (fees.priorityFeeLamportsChecked = some ⌈(fees.priorityProduct : ℚ) / (1000000 : ℕ)⌉₊ ↔
      fees.priorityProduct < 2 ^ 64) := by
  refine ⟨⟨?_, ?_⟩, priorityFeeLamportsChecked_exact_iff fees⟩
  · intro hexact
    exact (priorityFeeLamports_exact_iff fees).mp hexact.simulated
  · intro hfits
    have hsimulated := (priorityFeeLamports_exact_iff fees).mpr hfits
    have hobserved := (estimatedPriorityFee_exact_iff hbids).mpr (hfits.trans (by norm_num))
    refine ⟨hsimulated, hobserved, ?_⟩
    intro observed hmem
    rw [hobserved, Option.mem_some_iff] at hmem
    have hup := Nat.ceil_le_floor_add_one ((fees.priorityProduct : ℚ) / (1000000 : ℕ))
    have hdown := Nat.floor_le_ceil ((fees.priorityProduct : ℚ) / (1000000 : ℕ))
    rw [hsimulated, ← hmem]
    omega

/-- The fee model of a limit and a price. -/
def bidModel (limit price : ℕ) : FeeModel :=
  { params := { computeUnitLimit := limit, computeUnitPriceMicroLamports := price } }

/-- A transaction whose instructions set the compute budget. -/
def biddingTransaction (limitHex priceHex : String) : TransactionUpdate :=
  { slot := 1
    signature := "bid"
    transactionIndex := none
    succeeded := true
    instructions :=
      [{ programId := computeBudgetProgramId, accounts := [], dataHex := limitHex },
        { programId := computeBudgetProgramId, accounts := [], dataHex := priceHex }] }

theorem exactPriorityFees_iff_smallBid :
    ExactPriorityFees (bidModel 200000 7) (biddingTransaction "02400d0300" "030700000000000000") :=
  (exactPriorityFees_iff (bidModel 200000 7)
    (biddingTransaction "02400d0300" "030700000000000000") (by decide +kernel)).1.mpr
    (by decide)

/-- Two units at a price of `2 ^ 63`: the product wraps to nothing, and the simulator charges
nothing where the normalizer estimates over eighteen thousand SOL. -/
theorem priorityFees_wrap :
    ¬ ∀ (fees : FeeModel) (update : TransactionUpdate),
      fees.params.computeUnitLimit < 2 ^ 32 →
      fees.params.computeUnitPriceMicroLamports < 2 ^ 64 → update.Bids fees →
      ExactPriorityFees fees update := by
  intro hall
  have hexact := hall (bidModel 2 (2 ^ 63))
    (biddingTransaction "0202000000" "030000000000000080") (by decide) (by decide)
    (by decide +kernel)
  have hfits := (priorityFeeLamports_exact_iff _).mp hexact.simulated
  exact absurd hfits (by decide)

end PumpLaunchTrader
