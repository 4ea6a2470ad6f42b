import Mathlib.Data.Finset.Max
import Mathlib.Data.Rat.Floor
import Mathlib.Tactic.Positivity

/-! # Means of lists

Arithmetic means, running averages and weighted means over a field. -/

/-! ## Arithmetic means

A mean lies between the bounds of its values, and the mean of two lists put together lies
between the means of the two. -/

namespace Means

variable {α : Type*} [Field α]

/-- The mean of a list, zero for the empty one. -/
def mean (xs : List α) : α := xs.sum / xs.length

@[simp] theorem mean_nil : mean ([] : List α) = 0 := by simp [mean]

theorem mean_perm {xs ys : List α} (h : xs.Perm ys) : mean xs = mean ys := by
  rw [mean, mean, h.sum_eq, h.length_eq]

variable [LinearOrder α] [IsStrictOrderedRing α]

theorem length_pos_cast {xs : List α} (h : xs ≠ []) : (0 : α) < xs.length := by
  exact_mod_cast List.length_pos_iff.mpr h

theorem sum_eq_mean_mul {xs : List α} (h : xs ≠ []) : xs.sum = mean xs * xs.length := by
  rw [mean, div_mul_cancel₀ _ (length_pos_cast h).ne']

theorem le_mean {xs : List α} {a : α} (h : xs ≠ []) (hle : ∀ x ∈ xs, a ≤ x) : a ≤ mean xs := by
  rw [mean, le_div_iff₀ (length_pos_cast h), mul_comm]
  have hsum := List.card_nsmul_le_sum xs a hle
  rwa [nsmul_eq_mul] at hsum

theorem mean_le {xs : List α} {b : α} (h : xs ≠ []) (hle : ∀ x ∈ xs, x ≤ b) : mean xs ≤ b := by
  rw [mean, div_le_iff₀ (length_pos_cast h), mul_comm]
  have hsum := List.sum_le_card_nsmul xs b hle
  rwa [nsmul_eq_mul] at hsum

/-- The mean of values of the unit interval is one of its values, that of no value too. -/
theorem mean_mem_unit {xs : List α} (h : ∀ x ∈ xs, 0 ≤ x ∧ x ≤ 1) :
    0 ≤ mean xs ∧ mean xs ≤ 1 := by
  by_cases hempty : xs = []
  · simp [hempty]
  · exact ⟨le_mean hempty fun x hx => (h x hx).1, mean_le hempty fun x hx => (h x hx).2⟩

theorem mean_append_between {xs ys : List α} (hxs : xs ≠ []) (hys : ys ≠ [])
    (hle : mean xs ≤ mean ys) : mean xs ≤ mean (xs ++ ys) ∧ mean (xs ++ ys) ≤ mean ys := by
  have hpos : (0 : α) < (xs ++ ys).length := length_pos_cast (by simp [hxs])
  have hmean : mean (xs ++ ys) = (xs ++ ys).sum / (xs ++ ys).length := rfl
  have hsum : (xs ++ ys).sum = mean xs * xs.length + mean ys * ys.length := by
    rw [List.sum_append, ← sum_eq_mean_mul hxs, ← sum_eq_mean_mul hys]
  have hlength : ((xs ++ ys).length : α) = xs.length + ys.length := by
    rw [List.length_append, Nat.cast_add]
  rw [hmean, le_div_iff₀ hpos, div_le_iff₀ hpos, hsum, hlength]
  have hfirst := mul_le_mul_of_nonneg_right hle (length_pos_cast hxs).le
  have hsecond := mul_le_mul_of_nonneg_right hle (length_pos_cast hys).le
  constructor <;> linarith

/-- The mean of two lists together lies between their means. -/
theorem mean_append_mem_uIcc {xs ys : List α} (hxs : xs ≠ []) (hys : ys ≠ []) :
    mean (xs ++ ys) ∈ Set.uIcc (mean xs) (mean ys) := by
  rw [Set.mem_uIcc]
  rcases le_total (mean xs) (mean ys) with hle | hle
  · exact Or.inl (mean_append_between hxs hys hle)
  · right
    rw [mean_perm List.perm_append_comm]
    exact mean_append_between hys hxs hle

end Means

/-! ## Running averages

A running average moves to each new value by one part in its place. A value keeps the share
that the later ones leave it, so that the average is the mean when the shares are equal, and
that is when the places count the values. -/

namespace RunningMeans

variable {α : Type*} [Field α]

/-- The average after a value at a place. -/
def advance (average : α) (value : ℕ × α) : α :=
  average * (1 - (value.1 : α)⁻¹) + value.2 * (value.1 : α)⁻¹

/-- The average after a sequence of placed values. -/
def run (average : α) (values : List (ℕ × α)) : α := values.foldl advance average

/-- What the places of a sequence leave of an average that was there before. -/
def left (places : List ℕ) : α := (places.map fun place : ℕ => (1 - (place : α)⁻¹)).prod

/-- The share of each value in the average, by the places. -/
def shares : List ℕ → List α
  | [] => []
  | place :: places => (place : α)⁻¹ * left places :: shares places

@[simp] theorem length_shares (places : List ℕ) :
    (shares places : List α).length = places.length := by
  induction places with
  | nil => rfl
  | cons place places ih => simp [shares, ih]

theorem left_cons (place : ℕ) (places : List ℕ) :
    (left (place :: places) : α) = (1 - (place : α)⁻¹) * left places := by
  simp [left]

/-- The average is the sum of the values by their shares. -/
theorem run_eq (average : α) (values : List (ℕ × α)) :
    run average values = average * left (values.map Prod.fst) +
      (List.zipWith (· * ·) (shares (values.map Prod.fst)) (values.map Prod.snd)).sum := by
  induction values generalizing average with
  | nil => simp [run, left, shares]
  | cons value values ih =>
      have hstep : run average (value :: values) = run (advance average value) values := rfl
      rw [hstep, ih, List.map_cons, List.map_cons, left_cons, shares, List.zipWith_cons_cons,
        List.sum_cons, advance]
      ring

/-! ### Against the mean -/

/-- How far the shares of the values move the average from the mean. -/
def deviation (values : List (ℕ × α)) : α :=
  (List.zipWith (fun share value => (share - (values.length : α)⁻¹) * value)
    (shares (values.map Prod.fst)) (values.map Prod.snd)).sum

theorem sum_zipWith_sub (shares values : List α) (c : α)
    (h : shares.length = values.length) :
    (List.zipWith (fun share value => (share - c) * value) shares values).sum =
      (List.zipWith (· * ·) shares values).sum - c * values.sum := by
  induction shares generalizing values with
  | nil =>
      have hnil : values = [] := List.length_eq_zero_iff.mp h.symm
      simp [hnil]
  | cons share shares ih =>
      cases values with
      | nil => simp at h
      | cons value values =>
          have hlength : shares.length = values.length := by simpa using h
          simp only [List.zipWith_cons_cons, List.sum_cons, ih values hlength]
          ring

theorem run_sub_mean (values : List (ℕ × α)) :
    run 0 values - Means.mean (values.map Prod.snd) = deviation values := by
  have hlength : (shares (values.map Prod.fst) : List α).length =
      (values.map Prod.snd).length := by simp
  rw [run_eq, deviation, sum_zipWith_sub _ _ _ hlength, Means.mean, List.length_map]
  ring

/-- A running average that starts at zero is the mean exactly when the shares balance out. -/
theorem run_eq_mean_iff (values : List (ℕ × α)) :
    run 0 values = Means.mean (values.map Prod.snd) ↔ deviation values = 0 := by
  rw [← run_sub_mean, sub_eq_zero]

end RunningMeans

/-! ## Weighted means

The mean of a list of values with weights, over an ordered field. With weights that are not
negative it is monotone in each of the values, and no smaller than the smallest and no larger
than the largest of them. -/

namespace WeightedMeans

variable {α : Type*} [Field α]

/-- The sum of the weights. -/
def total (xs : List (α × α)) : α := (xs.map Prod.snd).sum

/-- The sum of the values, each times its weight. -/
def weighted (xs : List (α × α)) : α := (xs.map fun x => x.1 * x.2).sum

@[simp] theorem total_nil : total ([] : List (α × α)) = 0 := rfl

@[simp] theorem total_cons (x : α × α) (xs : List (α × α)) :
    total (x :: xs) = x.2 + total xs := by
  simp [total]

@[simp] theorem weighted_nil : weighted ([] : List (α × α)) = 0 := rfl

@[simp] theorem weighted_cons (x : α × α) (xs : List (α × α)) :
    weighted (x :: xs) = x.1 * x.2 + weighted xs := by
  simp [weighted]

variable [LinearOrder α]

/-- The mean of the values, zero without weights. -/
def mean (xs : List (α × α)) : α := if 0 < total xs then weighted xs / total xs else 0

/-! ### Monotonicity -/

/-- The same weights, none of them negative, on values that are at most the others. -/
def AtMost (xs ys : List (α × α)) : Prop :=
  List.Forall₂ (fun x y => x.1 ≤ y.1 ∧ x.2 = y.2 ∧ 0 ≤ x.2) xs ys

theorem AtMost.nil : AtMost ([] : List (α × α)) [] := List.Forall₂.nil

theorem AtMost.cons {a b w : α} {xs ys : List (α × α)} (hle : a ≤ b) (hw : 0 ≤ w)
    (h : AtMost xs ys) : AtMost ((a, w) :: xs) ((b, w) :: ys) :=
  List.Forall₂.cons ⟨hle, rfl, hw⟩ h

theorem AtMost.total_eq {xs ys : List (α × α)} (h : AtMost xs ys) : total xs = total ys := by
  induction h with
  | nil => rfl
  | cons hxy _ ih => rw [total_cons, total_cons, hxy.2.1, ih]

variable [IsStrictOrderedRing α]

theorem AtMost.weighted_le {xs ys : List (α × α)} (h : AtMost xs ys) :
    weighted xs ≤ weighted ys := by
  induction h with
  | nil => exact le_rfl
  | cons hxy _ ih =>
      rw [weighted_cons, weighted_cons, ← hxy.2.1]
      exact add_le_add (mul_le_mul_of_nonneg_right hxy.1 hxy.2.2) ih

theorem mean_mono {xs ys : List (α × α)} (h : AtMost xs ys) : mean xs ≤ mean ys := by
  unfold mean
  rw [← h.total_eq]
  by_cases htotal : 0 < total xs
  · rw [if_pos htotal, if_pos htotal]
    exact div_le_div_of_nonneg_right h.weighted_le htotal.le
  · rw [if_neg htotal, if_neg htotal]

/-! ### Bounds -/

theorem le_weighted {xs : List (α × α)} {a : α} (hw : ∀ x ∈ xs, 0 ≤ x.2)
    (h : ∀ x ∈ xs, a ≤ x.1) : a * total xs ≤ weighted xs := by
  induction xs with
  | nil => simp
  | cons x xs ih =>
      have hx : a * x.2 ≤ x.1 * x.2 :=
        mul_le_mul_of_nonneg_right (h x List.mem_cons_self) (hw x List.mem_cons_self)
      have htail := ih (fun y hy => hw y (List.mem_cons_of_mem x hy))
        fun y hy => h y (List.mem_cons_of_mem x hy)
      rw [total_cons, weighted_cons, mul_add]
      exact add_le_add hx htail

theorem weighted_le {xs : List (α × α)} {b : α} (hw : ∀ x ∈ xs, 0 ≤ x.2)
    (h : ∀ x ∈ xs, x.1 ≤ b) : weighted xs ≤ b * total xs := by
  induction xs with
  | nil => simp
  | cons x xs ih =>
      have hx : x.1 * x.2 ≤ b * x.2 :=
        mul_le_mul_of_nonneg_right (h x List.mem_cons_self) (hw x List.mem_cons_self)
      have htail := ih (fun y hy => hw y (List.mem_cons_of_mem x hy))
        fun y hy => h y (List.mem_cons_of_mem x hy)
      rw [total_cons, weighted_cons, mul_add]
      exact add_le_add hx htail

theorem le_mean {xs : List (α × α)} {a : α} (htotal : 0 < total xs) (hw : ∀ x ∈ xs, 0 ≤ x.2)
    (h : ∀ x ∈ xs, a ≤ x.1) : a ≤ mean xs := by
  rw [mean, if_pos htotal, le_div_iff₀ htotal]
  exact le_weighted hw h

theorem mean_le {xs : List (α × α)} {b : α} (htotal : 0 < total xs) (hw : ∀ x ∈ xs, 0 ≤ x.2)
    (h : ∀ x ∈ xs, x.1 ≤ b) : mean xs ≤ b := by
  rw [mean, if_pos htotal, div_le_iff₀ htotal]
  exact weighted_le hw h

/-- A value is at most the mean and a value is at least the mean. -/
theorem mean_between {xs : List (α × α)} (htotal : 0 < total xs) (hw : ∀ x ∈ xs, 0 ≤ x.2) :
    (∃ x ∈ xs, x.1 ≤ mean xs) ∧ ∃ x ∈ xs, mean xs ≤ x.1 := by
  have hne : xs.toFinset.Nonempty := by
    cases xs with
    | nil => simp at htotal
    | cons x xs => simp
  obtain ⟨least, hleast, hmin⟩ := xs.toFinset.exists_min_image Prod.fst hne
  obtain ⟨largest, hlargest, hmax⟩ := xs.toFinset.exists_max_image Prod.fst hne
  refine ⟨⟨least, List.mem_toFinset.mp hleast, ?_⟩, largest, List.mem_toFinset.mp hlargest, ?_⟩
  · exact le_mean htotal hw fun x hx => hmin x (List.mem_toFinset.mpr hx)
  · exact mean_le htotal hw fun x hx => hmax x (List.mem_toFinset.mpr hx)

end WeightedMeans

/-! ## Linear price impact

An order of a value moves the price by the share that the value has in the depth of a pool,
on top of a fixed spread. What is left of the value at the moved price grows with the value
and stays below the depth. -/

namespace PriceImpact

variable {α : Type*} [Field α] [LinearOrder α] [IsStrictOrderedRing α]
  {depth spread value : α}

/-- The factor by which an order of a value moves the price. -/
def multiplier (depth spread value : α) : α := 1 + value / depth + spread

/-- What is left of a value at the price that it moves. -/
def remainder (depth spread value : α) : α := value / multiplier depth spread value

theorem one_lt_multiplier (hdepth : 0 < depth) (hspread : 0 ≤ spread) (hvalue : 0 < value) :
    1 < multiplier depth spread value := by
  have hshare : 0 < value / depth := div_pos hvalue hdepth
  unfold multiplier
  linarith

theorem multiplier_pos (hdepth : 0 < depth) (hspread : 0 ≤ spread) (hvalue : 0 < value) :
    0 < multiplier depth spread value :=
  zero_lt_one.trans (one_lt_multiplier hdepth hspread hvalue)

theorem remainder_pos (hdepth : 0 < depth) (hspread : 0 ≤ spread) (hvalue : 0 < value) :
    0 < remainder depth spread value :=
  div_pos hvalue (multiplier_pos hdepth hspread hvalue)

theorem remainder_lt_value (hdepth : 0 < depth) (hspread : 0 ≤ spread) (hvalue : 0 < value) :
    remainder depth spread value < value :=
  div_lt_self hvalue (one_lt_multiplier hdepth hspread hvalue)

/-- The share of the value in the depth alone takes the remainder below the depth. -/
theorem remainder_lt_depth (hdepth : 0 < depth) (hspread : 0 ≤ spread) (hvalue : 0 < value) :
    remainder depth spread value < depth := by
  have hshare : value = depth * (value / depth) := (mul_div_cancel₀ value hdepth.ne').symm
  have hexcess : 0 < depth * (1 + spread) := mul_pos hdepth (by linarith)
  unfold remainder
  rw [div_lt_iff₀ (multiplier_pos hdepth hspread hvalue)]
  calc value = depth * (value / depth) := hshare
    _ < depth * (value / depth) + depth * (1 + spread) := lt_add_of_pos_right _ hexcess
    _ = depth * multiplier depth spread value := by unfold multiplier; ring

/-- A larger value leaves more: the products across the fractions differ by the spread's part
alone. -/
theorem remainder_lt_remainder (hdepth : 0 < depth) (hspread : 0 ≤ spread) (hvalue : 0 < value)
    {larger : α} (hlarger : value < larger) :
    remainder depth spread value < remainder depth spread larger := by
  have hgap : 0 < (larger - value) * (1 + spread) :=
    mul_pos (sub_pos.mpr hlarger) (by linarith)
  have hcross : larger * multiplier depth spread value - value * multiplier depth spread larger =
      (larger - value) * (1 + spread) := by
    unfold multiplier
    ring
  unfold remainder
  rw [div_lt_div_iff₀ (multiplier_pos hdepth hspread hvalue)
    (multiplier_pos hdepth hspread (hvalue.trans hlarger))]
  linarith

end PriceImpact
