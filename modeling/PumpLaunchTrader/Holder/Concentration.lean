import PumpLaunchTrader.Lib.Concentration
import PumpLaunchTrader.Model.State.Holder

/-! # The concentration indices

The Gini index is the mean difference of two balances in units of twice the mean balance, and
the Herfindahl-Hirschman index is smallest exactly when all balances are equal. -/

namespace PumpLaunchTrader

open Concentration

variable {balances : List Decimal}

/-! ## The Gini index -/

theorem computeGini_eq_weighted (htotal : 0 < balances.sum) :
    computeGini balances =
      2 * weighted (balances.insertionSort (· ≤ ·)) / (balances.length * balances.sum) -
        (balances.length + 1) / balances.length := by
  have hsorted := List.perm_insertionSort (· ≤ ·) balances
  have hne : balances ≠ [] := by
    rintro rfl
    simp at htotal
  have hempty : (balances.insertionSort (· ≤ ·)).isEmpty = false := by
    rw [hsorted.isEmpty_eq]
    simpa using hne
  have hweighted := sum_zipIdx (balances.insertionSort (· ≤ ·)) 0
  simp only [Nat.cast_zero, zero_mul, add_zero] at hweighted
  simp only [computeGini, hempty, hsorted.sum_eq, hsorted.length_eq, not_le.mpr htotal,
    Bool.false_eq_true, or_self, if_false, hweighted]

/-- The Gini index is that of the differences of all pairs. -/
theorem computeGini_eq_differences (htotal : 0 < balances.sum) :
    computeGini balances = differences balances / (2 * balances.length * balances.sum) := by
  have hsorted := List.perm_insertionSort (· ≤ ·) balances
  have hlength : (0 : Decimal) < balances.length := by
    rw [Nat.cast_pos, List.length_pos_iff]
    rintro rfl
    simp at htotal
  have hdifferences := differences_of_sorted (List.pairwise_insertionSort (· ≤ ·) balances)
  rw [hsorted.sum_eq, hsorted.length_eq, differences, pairSum_perm _ hsorted] at hdifferences
  rw [computeGini_eq_weighted htotal, differences, hdifferences]
  field_simp

theorem computeGini_perm {other : List Decimal} (h : other.Perm balances)
    (htotal : 0 < balances.sum) : computeGini other = computeGini balances := by
  rw [computeGini_eq_differences htotal, computeGini_eq_differences (h.sum_eq ▸ htotal),
    differences, differences, pairSum_perm _ h, h.sum_eq, h.length_eq]

theorem computeGini_scale {c : Decimal} (hc : 0 < c) (htotal : 0 < balances.sum) :
    computeGini (balances.map (c * ·)) = computeGini balances := by
  have hsum : (balances.map (c * ·)).sum = c * balances.sum := by
    simpa using List.sum_map_mul_left balances (fun x => x) c
  have hscaled : 0 < (balances.map (c * ·)).sum := by
    rw [hsum]
    exact mul_pos hc htotal
  rw [computeGini_eq_differences htotal, computeGini_eq_differences hscaled,
    differences_map_mul hc.le, hsum, List.length_map, mul_left_comm,
    mul_div_mul_left _ _ hc.ne']

theorem computeGini_bounds (hnonneg : ∀ x ∈ balances, 0 ≤ x) (htotal : 0 < balances.sum) :
    0 ≤ computeGini balances ∧ computeGini balances ≤ 1 - 1 / balances.length := by
  have hlength : (0 : Decimal) < balances.length := by
    rw [Nat.cast_pos, List.length_pos_iff]
    rintro rfl
    simp at htotal
  have hpositive : 0 < 2 * (balances.length : Decimal) * balances.sum := by positivity
  rw [computeGini_eq_differences htotal]
  constructor
  · exact div_nonneg (differences_nonneg balances) hpositive.le
  · have hshare : (1 - 1 / (balances.length : Decimal)) *
        (2 * balances.length * balances.sum) =
          2 * balances.length * balances.sum - 2 * balances.sum := by
      field_simp
    rw [div_le_iff₀ hpositive, hshare]
    linarith [differences_le hnonneg]

/-! ## The Herfindahl-Hirschman index -/

theorem computeHhi_eq_squares (htotal : 0 < balances.sum) :
    computeHhi balances = squares balances / (balances.sum * balances.sum) := by
  have hterm : ∀ b : Decimal, b / balances.sum * (b / balances.sum) =
      (balances.sum * balances.sum)⁻¹ * (b * b) := fun b => by
    field_simp
  simp only [computeHhi, not_le.mpr htotal, if_false, hterm, List.sum_map_mul_left]
  rw [squares, div_eq_inv_mul]

theorem computeHhi_bounds (hnonneg : ∀ x ∈ balances, 0 ≤ x) (htotal : 0 < balances.sum) :
    1 / balances.length ≤ computeHhi balances ∧ computeHhi balances ≤ 1 := by
  have hlength : (0 : Decimal) < balances.length := by
    rw [Nat.cast_pos, List.length_pos_iff]
    rintro rfl
    simp at htotal
  rw [computeHhi_eq_squares htotal]
  constructor
  · rw [div_le_div_iff₀ hlength (mul_pos htotal htotal), one_mul, mul_comm (squares balances)]
    exact sq_sum_le balances
  · rw [div_le_one (mul_pos htotal htotal)]
    exact squares_le hnonneg

theorem computeHhi_eq_iff (htotal : 0 < balances.sum) :
    computeHhi balances = 1 / balances.length ↔ ∀ x ∈ balances, ∀ y ∈ balances, x = y := by
  have hlength : (balances.length : Decimal) ≠ 0 := by
    rw [Nat.cast_ne_zero, Ne, List.length_eq_zero_iff]
    rintro rfl
    simp at htotal
  rw [computeHhi_eq_squares htotal, ← sq_sum_eq_iff,
    div_eq_div_iff (mul_pos htotal htotal).ne' hlength, one_mul, mul_comm]

/-! ## Both indices -/

/-- Of non-negative balances with a positive total, the Gini index is the one of the pairwise
differences and the Herfindahl-Hirschman index is smallest exactly for equal balances. -/
theorem concentration_indices (hnonneg : ∀ x ∈ balances, 0 ≤ x) (htotal : 0 < balances.sum) :
    computeGini balances =
      (balances.map fun x => (balances.map fun y => |x - y|).sum).sum /
        (2 * balances.length * balances.sum) ∧
    (∀ other : List Decimal, other.Perm balances → computeGini other = computeGini balances) ∧
    (∀ c : Decimal, 0 < c → computeGini (balances.map (c * ·)) = computeGini balances) ∧
    (0 ≤ computeGini balances ∧ computeGini balances ≤ 1 - 1 / balances.length) ∧
    (1 / balances.length ≤ computeHhi balances ∧ computeHhi balances ≤ 1) ∧
    (computeHhi balances = 1 / balances.length ↔
      ∀ x ∈ balances, ∀ y ∈ balances, x = y) :=
  ⟨computeGini_eq_differences htotal, fun _ h => computeGini_perm h htotal,
    fun _ hc => computeGini_scale hc htotal, computeGini_bounds hnonneg htotal,
    computeHhi_bounds hnonneg htotal, computeHhi_eq_iff htotal⟩

/-- Of two owners one of whom holds three times as much. -/
theorem concentration_indices_two :
    computeGini [1, 3] ≤ 1 - 1 / 2 ∧ computeHhi [1, 3] ≠ 1 / 2 := by
  obtain ⟨-, -, -, hgini, -, hhhi⟩ :=
    @concentration_indices [1, 3] (by simp) (by norm_num)
  have hdifferent : ¬ ∀ x ∈ ([1, 3] : List Decimal), ∀ y ∈ ([1, 3] : List Decimal), x = y := by
    simp
  exact ⟨by simpa using hgini.2, by simpa using mt hhhi.mp hdifferent⟩

end PumpLaunchTrader
