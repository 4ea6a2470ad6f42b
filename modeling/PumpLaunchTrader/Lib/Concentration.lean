import Mathlib.Algebra.BigOperators.Ring.List
import Mathlib.Algebra.Order.BigOperators.Group.List
import Mathlib.Algebra.Order.Field.Basic
import Mathlib.Data.List.Sort
import Mathlib.Tactic.FieldSimp
import Mathlib.Tactic.Linarith
import Mathlib.Tactic.Ring

/-! # Concentration of amounts

The differences of all pairs of a list of amounts are a weighted sum of the sorted list. They
are at most as large as if one amount were everything. The squares of the amounts are at least
as large as if all amounts were equal, and only then no larger. -/

namespace Concentration

variable {α : Type*} [Field α] [LinearOrder α] [IsStrictOrderedRing α]

/-! ## Differences of pairs -/

/-- The sum of a function over all ordered pairs of a list. -/
def pairSum (f : α → α → α) (xs : List α) : α :=
  (xs.map fun x => (xs.map fun y => f x y).sum).sum

/-- The differences of all ordered pairs. -/
def differences (xs : List α) : α := pairSum (fun x y => |x - y|) xs

omit [LinearOrder α] [IsStrictOrderedRing α] in
theorem pairSum_perm (f : α → α → α) {xs ys : List α} (h : xs.Perm ys) :
    pairSum f xs = pairSum f ys := by
  have hrow : ∀ x, (xs.map fun y => f x y).sum = (ys.map fun y => f x y).sum :=
    fun x => (h.map _).sum_eq
  unfold pairSum
  rw [(h.map _).sum_eq]
  exact congrArg List.sum (List.map_congr_left fun x _ => hrow x)

omit [LinearOrder α] [IsStrictOrderedRing α] in
/-- A new amount is paired with itself and twice with every other one. -/
theorem pairSum_cons {f : α → α → α} (hsymm : ∀ x y, f x y = f y x) (x : α) (xs : List α) :
    pairSum f (x :: xs) = f x x + 2 * (xs.map fun y => f x y).sum + pairSum f xs := by
  have hcolumn : (xs.map fun y => f y x).sum = (xs.map fun y => f x y).sum :=
    congrArg List.sum (List.map_congr_left fun y _ => hsymm y x)
  simp only [pairSum, List.map_cons, List.sum_cons, List.sum_map_add, hcolumn]
  ring

theorem differences_cons (x : α) (xs : List α) :
    differences (x :: xs) = 2 * (xs.map fun y => |x - y|).sum + differences xs := by
  unfold differences
  rw [pairSum_cons fun x y => abs_sub_comm x y]
  simp

theorem differences_nonneg (xs : List α) : 0 ≤ differences xs := by
  refine List.sum_nonneg fun row hrow => ?_
  obtain ⟨x, -, rfl⟩ := List.mem_map.mp hrow
  refine List.sum_nonneg fun difference hdifference => ?_
  obtain ⟨y, -, rfl⟩ := List.mem_map.mp hdifference
  exact abs_nonneg _

theorem sum_abs_sub_le {x : α} {xs : List α} (hx : 0 ≤ x) (hxs : ∀ y ∈ xs, 0 ≤ y) :
    (xs.map fun y => |x - y|).sum ≤ xs.length * x + xs.sum := by
  induction xs with
  | nil => simp
  | cons y ys ih =>
      have ih := ih fun z hz => hxs z (List.mem_cons_of_mem _ hz)
      have hle : |x - y| ≤ x + y := by
        have hy := hxs y List.mem_cons_self
        rw [abs_le]
        constructor <;> linarith
      simp only [List.map_cons, List.sum_cons, List.length_cons, Nat.cast_add, Nat.cast_one]
      linarith

theorem sum_abs_sub_of_le {x : α} {xs : List α} (hle : ∀ y ∈ xs, x ≤ y) :
    (xs.map fun y => |x - y|).sum = xs.sum - xs.length * x := by
  induction xs with
  | nil => simp
  | cons y ys ih =>
      have ih := ih fun z hz => hle z (List.mem_cons_of_mem _ hz)
      have hterm : |x - y| = y - x := by
        rw [abs_sub_comm, abs_of_nonneg (sub_nonneg.mpr (hle y List.mem_cons_self))]
      simp only [List.map_cons, List.sum_cons, List.length_cons, ih, hterm]
      push_cast
      ring

/-- The differences are largest when one amount is everything. -/
theorem differences_le {xs : List α} (hxs : ∀ x ∈ xs, 0 ≤ x) :
    differences xs + 2 * xs.sum ≤ 2 * xs.length * xs.sum := by
  induction xs with
  | nil => simp [differences, pairSum]
  | cons x xs ih =>
      have hrest : ∀ y ∈ xs, 0 ≤ y := fun y hy => hxs y (List.mem_cons_of_mem _ hy)
      have hrow := sum_abs_sub_le (hxs x List.mem_cons_self) hrest
      have ih := ih hrest
      rw [differences_cons, List.sum_cons, List.length_cons, Nat.cast_add, Nat.cast_one]
      linarith

theorem differences_map_mul {c : α} (hc : 0 ≤ c) (xs : List α) :
    differences (xs.map (c * ·)) = c * differences xs := by
  have hterm : ∀ x y : α, |c * x - c * y| = c * |x - y| := fun x y => by
    rw [← mul_sub, abs_mul, abs_of_nonneg hc]
  simp only [differences, pairSum, List.map_map, Function.comp_def, hterm, List.sum_map_mul_left]

/-! ## The weighted sum of a sorted list -/

/-- The amounts weighted by their places, counted from one. -/
def weighted : List α → α
  | [] => 0
  | x :: xs => x + (weighted xs + xs.sum)

omit [LinearOrder α] [IsStrictOrderedRing α] in
theorem sum_zipIdx (xs : List α) (start : ℕ) :
    ((xs.zipIdx start).map fun p => ((p.2 + 1 : ℕ) : α) * p.1).sum =
      weighted xs + start * xs.sum := by
  induction xs generalizing start with
  | nil => simp [weighted]
  | cons x xs ih =>
      simp only [List.zipIdx_cons, List.map_cons, List.sum_cons, ih, weighted]
      push_cast
      ring

/-- Each pair of a sorted list counts its later amount once and takes its earlier one away. -/
theorem differences_of_sorted {xs : List α} (h : xs.Pairwise (· ≤ ·)) :
    differences xs = 2 * (2 * weighted xs - (xs.length + 1) * xs.sum) := by
  induction xs with
  | nil => simp [differences, pairSum, weighted]
  | cons x xs ih =>
      rw [differences_cons, sum_abs_sub_of_le fun y hy => List.rel_of_pairwise_cons h hy,
        ih h.tail]
      simp only [weighted, List.sum_cons, List.length_cons, Nat.cast_add, Nat.cast_one]
      ring

/-! ## Squares -/

/-- The sum of the squares. -/
def squares (xs : List α) : α := (xs.map fun x => x * x).sum

omit [LinearOrder α] [IsStrictOrderedRing α] in
/-- The squared differences of all pairs measure how far the squares are from equality. -/
theorem pairSum_sq (xs : List α) :
    pairSum (fun x y => (x - y) * (x - y)) xs =
      2 * (xs.length * squares xs - xs.sum * xs.sum) := by
  have hrow : ∀ (x : α) (ys : List α), (ys.map fun y => (x - y) * (x - y)).sum =
      ys.length * (x * x) - 2 * x * ys.sum + squares ys := by
    intro x ys
    induction ys with
    | nil => simp [squares]
    | cons y ys ih =>
        simp only [squares, List.map_cons, List.sum_cons, List.length_cons] at ih ⊢
        rw [ih]
        push_cast
        ring
  induction xs with
  | nil => simp [pairSum, squares]
  | cons x xs ih =>
      rw [pairSum_cons (fun x y => by ring), hrow, ih]
      simp only [squares, List.map_cons, List.sum_cons, List.length_cons]
      push_cast
      ring

theorem pairSum_sq_nonneg (xs : List α) : 0 ≤ pairSum (fun x y => (x - y) * (x - y)) xs := by
  refine List.sum_nonneg fun row hrow => ?_
  obtain ⟨x, -, rfl⟩ := List.mem_map.mp hrow
  refine List.sum_nonneg fun square hsquare => ?_
  obtain ⟨y, -, rfl⟩ := List.mem_map.mp hsquare
  exact mul_self_nonneg _

theorem pairSum_sq_eq_zero_iff {xs : List α} :
    pairSum (fun x y => (x - y) * (x - y)) xs = 0 ↔ ∀ x ∈ xs, ∀ y ∈ xs, x = y := by
  have hrow : ∀ x : α, ∀ square ∈ xs.map fun y => (x - y) * (x - y), (0 : α) ≤ square := by
    intro x square hsquare
    obtain ⟨y, -, rfl⟩ := List.mem_map.mp hsquare
    exact mul_self_nonneg _
  constructor
  · intro hzero x hx y hy
    have hrows : ∀ row ∈ xs.map fun x => (xs.map fun y => (x - y) * (x - y)).sum,
        (0 : α) ≤ row := by
      intro row hmem
      obtain ⟨x, -, rfl⟩ := List.mem_map.mp hmem
      exact List.sum_nonneg (hrow x)
    have hsum := List.all_zero_of_le_zero_le_of_sum_eq_zero hrows hzero
      (List.mem_map.mpr ⟨x, hx, rfl⟩)
    have hsquare := List.all_zero_of_le_zero_le_of_sum_eq_zero (hrow x) hsum
      (List.mem_map.mpr ⟨y, hy, rfl⟩)
    exact sub_eq_zero.mp (mul_self_eq_zero.mp hsquare)
  · intro hequal
    refine List.sum_eq_zero fun row hmem => ?_
    obtain ⟨x, hx, rfl⟩ := List.mem_map.mp hmem
    refine List.sum_eq_zero fun square hsquare => ?_
    obtain ⟨y, hy, rfl⟩ := List.mem_map.mp hsquare
    simp [hequal x hx y hy]

/-- The square of the sum is at most the squares times their number. -/
theorem sq_sum_le (xs : List α) : xs.sum * xs.sum ≤ xs.length * squares xs := by
  have h := pairSum_sq_nonneg xs
  rw [pairSum_sq] at h
  linarith

theorem sq_sum_eq_iff {xs : List α} :
    xs.length * squares xs = xs.sum * xs.sum ↔ ∀ x ∈ xs, ∀ y ∈ xs, x = y := by
  rw [← pairSum_sq_eq_zero_iff, pairSum_sq]
  constructor
  · intro h
    rw [h, sub_self, mul_zero]
  · intro h
    linarith

theorem squares_le {xs : List α} (hxs : ∀ x ∈ xs, 0 ≤ x) : squares xs ≤ xs.sum * xs.sum := by
  induction xs with
  | nil => simp [squares]
  | cons x xs ih =>
      have hrest : ∀ y ∈ xs, 0 ≤ y := fun y hy => hxs y (List.mem_cons_of_mem _ hy)
      have hcross : 0 ≤ x * xs.sum :=
        mul_nonneg (hxs x List.mem_cons_self) (List.sum_nonneg hrest)
      have ih := ih hrest
      simp only [squares, List.map_cons, List.sum_cons] at ih ⊢
      linarith

end Concentration
