import Mathlib.Data.List.Sort

/-! # Ranks by a stable sort

Names are ranked by their scores, the highest first. The sort compares scores alone, so equal
scores keep the order in which they came. A sort by a comparison whose equal entries are the
same entry does not depend on that order. -/

namespace Sorting

variable {α : Type*} {cmp : α → α → Ordering} [Std.TransCmp cmp]

theorem pairwise_insertionSort_isLE (xs : List α) :
    (xs.insertionSort fun left right => (cmp left right).isLE).Pairwise
      fun left right => (cmp left right).isLE = true := by
  have : Std.Total fun left right => (cmp left right).isLE = true := by
    refine ⟨fun left right => ?_⟩
    cases h : cmp left right with
    | lt | eq => exact Or.inl rfl
    | gt =>
        right
        have hswap : cmp right left = (cmp left right).swap := Std.OrientedCmp.eq_swap
        rw [hswap, h]
        rfl
  have : IsTrans α fun left right => (cmp left right).isLE = true :=
    ⟨fun _ _ _ hab hbc => Std.TransCmp.isLE_trans hab hbc⟩
  exact List.pairwise_insertionSort _ _

/-- Where entries that compare equal are the same, the sorted list does not depend on the
order of what is sorted. -/
theorem insertionSort_isLE_eq_of_perm {xs ys : List α} (h : xs.Perm ys)
    (hdistinct : ∀ x ∈ xs, ∀ y ∈ xs, cmp x y = .eq → x = y) :
    (xs.insertionSort fun left right => (cmp left right).isLE) =
      ys.insertionSort fun left right => (cmp left right).isLE := by
  have hx := List.perm_insertionSort (fun left right => (cmp left right).isLE = true) xs
  have hy := List.perm_insertionSort (fun left right => (cmp left right).isLE = true) ys
  refine List.Perm.eq_of_pairwise ?_ (pairwise_insertionSort_isLE xs)
    (pairwise_insertionSort_isLE ys) (hx.trans (h.trans hy.symm))
  intro x y hmemx hmemy hle hge
  refine hdistinct x (hx.mem_iff.mp hmemx) y (h.mem_iff.mpr (hy.mem_iff.mp hmemy)) ?_
  exact Std.OrientedCmp.isLE_antisymm hle hge

section Keys

variable {κ : Type*} [LinearOrder κ]

/-- A sort whose comparison compares keys, where no two entries have the same key. -/
theorem pairwise_insertionSort_key (key : α → κ) {r : α → α → Prop} [DecidableRel r]
    (hr : ∀ left right, r left right ↔ key left ≤ key right) {xs : List α}
    (hdistinct : (xs.map key).Nodup) :
    (xs.insertionSort r).Pairwise fun left right => key left < key right := by
  have htotal : Std.Total r := by
    refine ⟨fun left right => ?_⟩
    rw [hr, hr]
    exact le_total _ _
  have htrans : IsTrans α r := by
    refine ⟨fun first second third hfirst hsecond => ?_⟩
    rw [hr] at *
    exact hfirst.trans hsecond
  have hkeys := ((List.perm_insertionSort r xs).map key).nodup_iff.mpr hdistinct
  refine ((List.pairwise_insertionSort r xs).and (List.pairwise_map.mp hkeys)).imp ?_
  intro left right h
  exact lt_of_le_of_ne ((hr left right).mp h.1) h.2

/-- The first `n` entries of a sorted list are those with fewer than `n` entries below them. -/
theorem mem_take_iff (key : α → κ) {xs : List α}
    (h : xs.Pairwise fun left right => key left < key right) (x : α) (n : ℕ) :
    x ∈ xs.take n ↔ x ∈ xs ∧ xs.countP (fun other => key other < key x) < n := by
  induction xs generalizing n with
  | nil => simp
  | cons y xs ih =>
      rw [List.pairwise_cons] at h
      cases n with
      | zero => simp
      | succ n =>
          rw [List.take_succ_cons, List.mem_cons, ih h.2, List.mem_cons, List.countP_cons]
          constructor
          · rintro (rfl | ⟨hmem, hcount⟩)
            · refine ⟨Or.inl rfl, ?_⟩
              have hnone : xs.countP (fun other => key other < key x) = 0 := by
                rw [List.countP_eq_zero]
                intro other hother
                simpa using (h.1 other hother).le
              simp [hnone]
            · refine ⟨Or.inr hmem, ?_⟩
              rw [if_pos (by simpa using h.1 x hmem)]
              omega
          · rintro ⟨rfl | hmem, hcount⟩
            · exact Or.inl rfl
            · rw [if_pos (by simpa using h.1 x hmem)] at hcount
              exact Or.inr ⟨hmem, by omega⟩

theorem mem_take_of_perm (key : α → κ) {xs ys : List α} (hperm : xs.Perm ys)
    (h : xs.Pairwise fun left right => key left < key right) (x : α) (n : ℕ) :
    x ∈ xs.take n ↔ x ∈ ys ∧ ys.countP (fun other => key other < key x) < n := by
  rw [mem_take_iff key h, hperm.mem_iff, hperm.countP_eq]

end Keys

end Sorting

namespace Ranks

variable {ι α : Type*} [LinearOrder α]

/-- The names with their scores, the highest first. -/
def ranked (scored : List (ι × α)) : List (ι × α) :=
  scored.insertionSort fun left right => right.2 ≤ left.2

theorem ranked_perm (scored : List (ι × α)) : (ranked scored).Perm scored :=
  List.perm_insertionSort _ _

theorem pairwise_ranked (scored : List (ι × α)) :
    (ranked scored).Pairwise fun left right => right.2 ≤ left.2 := by
  have : Std.Total fun left right : ι × α => right.2 ≤ left.2 :=
    ⟨fun left right => le_total right.2 left.2⟩
  have : IsTrans (ι × α) fun left right => right.2 ≤ left.2 :=
    ⟨fun _ _ _ hab hbc => hbc.trans hab⟩
  exact List.pairwise_insertionSort _ _

/-- Where equal scores come with one name only, the order of the scores does not matter. -/
theorem ranked_eq_of_perm {scored other : List (ι × α)} (h : scored.Perm other)
    (hdistinct : ∀ x ∈ scored, ∀ y ∈ scored, x.2 = y.2 → x.1 = y.1) :
    ranked scored = ranked other := by
  refine List.Perm.eq_of_pairwise ?_ (pairwise_ranked scored) (pairwise_ranked other)
    ((ranked_perm scored).trans (h.trans (ranked_perm other).symm))
  intro x y hx hy hle hge
  have hscore : x.2 = y.2 := le_antisymm hge hle
  have hname := hdistinct x ((ranked_perm scored).mem_iff.mp hx) y
    (h.mem_iff.mpr ((ranked_perm other).mem_iff.mp hy)) hscore
  exact Prod.ext hname hscore

/-! ### The first ranks -/

/-- The first `n` entries of two sorted lists with the same entries agree, unless entries
compete for the last of these places. -/
theorem take_eq_of_perm {n : ℕ} {xs ys : List (ι × α)} (h : xs.Perm ys)
    (hx : xs.Pairwise fun left right => right.2 ≤ left.2)
    (hy : ys.Pairwise fun left right => right.2 ≤ left.2)
    (hties : ∀ x ∈ xs, ∀ y ∈ xs, x.2 = y.2 → x = y ∨ n ≤ xs.countP (x.2 < ·.2)) :
    xs.take n = ys.take n := by
  induction n generalizing xs ys with
  | zero => simp
  | succ n ih =>
      cases xs with
      | nil => rw [h.nil_eq]
      | cons x xs =>
          cases ys with
          | nil => exact absurd h.length_eq (by simp)
          | cons y ys =>
              have hmem : y ∈ x :: xs := h.mem_iff.mpr List.mem_cons_self
              have htop : ∀ z ∈ x :: xs, z.2 ≤ x.2 := by
                intro z hz
                rcases List.mem_cons.mp hz with rfl | hz
                · exact le_refl _
                · exact List.rel_of_pairwise_cons hx hz
              have hle : x.2 ≤ y.2 := by
                rcases List.mem_cons.mp (h.mem_iff.mp List.mem_cons_self) with heq | hmem
                · rw [heq]
                · exact List.rel_of_pairwise_cons hy hmem
              have hhead : x = y := by
                have hscore := le_antisymm hle (htop y hmem)
                refine (hties x List.mem_cons_self y hmem hscore).resolve_right ?_
                have hnone : (x :: xs).countP (x.2 < ·.2) = 0 := by
                  rw [List.countP_eq_zero]
                  intro z hz
                  simpa using htop z hz
                omega
              subst hhead
              rw [List.take_succ_cons, List.take_succ_cons, ih h.cons_inv hx.tail hy.tail]
              -- the head is counted once among the larger scores
              intro u hu v hv hscore
              have htie := hties u (List.mem_cons_of_mem _ hu) v (List.mem_cons_of_mem _ hv) hscore
              rw [List.countP_cons] at htie
              rcases htie with heq | hcount
              · exact Or.inl heq
              · right
                split at hcount <;> omega

theorem getElem?_orderedInsert (x : ι × α) {ys : List (ι × α)}
    (h : ys.Pairwise fun left right => right.2 ≤ left.2) :
    (ys.orderedInsert (fun left right => right.2 ≤ left.2) x)[ys.countP (x.2 < ·.2)]? =
      some x := by
  induction ys with
  | nil => rfl
  | cons y ys ih =>
      by_cases hle : y.2 ≤ x.2
      · have hnone : (y :: ys).countP (x.2 < ·.2) = 0 := by
          rw [List.countP_eq_zero]
          intro z hz
          rcases List.mem_cons.mp hz with rfl | hz
          · simpa using hle
          · simpa using (List.rel_of_pairwise_cons h hz).trans hle
        rw [List.orderedInsert_cons, if_pos hle, hnone]
        rfl
      · have hlt : x.2 < y.2 := lt_of_not_ge hle
        rw [List.orderedInsert_cons, if_neg hle, List.countP_cons_of_pos (by simpa using hlt)]
        exact ih h.tail

/-- Among equal scores the first to come is ranked first. -/
theorem getElem?_ranked_cons (x : ι × α) (xs : List (ι × α)) :
    (ranked (x :: xs))[xs.countP (x.2 < ·.2)]? = some x := by
  rw [← (ranked_perm xs).countP_eq]
  exact getElem?_orderedInsert x (pairwise_ranked xs)

/-- The first `n` ranks do not depend on the order, unless names with one score compete for
them. -/
theorem take_ranked_eq_of_perm {n : ℕ} {scored other : List (ι × α)} (h : scored.Perm other)
    (hties : ∀ x ∈ scored, ∀ y ∈ scored, x.2 = y.2 →
      x = y ∨ n ≤ scored.countP (x.2 < ·.2)) :
    (ranked scored).take n = (ranked other).take n := by
  refine take_eq_of_perm ((ranked_perm scored).trans (h.trans (ranked_perm other).symm))
    (pairwise_ranked scored) (pairwise_ranked other) ?_
  intro x hx y hy hscore
  rw [(ranked_perm scored).countP_eq]
  exact hties x ((ranked_perm scored).mem_iff.mp hx) y ((ranked_perm scored).mem_iff.mp hy) hscore

variable [DecidableEq ι]

/-- The place of a name, counted from one, or the last place when it is not ranked. -/
def rank (scored : List (ι × α)) (name : ι) : ℕ :=
  match (ranked scored).findIdx? fun entry => entry.1 = name with
  | some index => index + 1
  | none => scored.length

theorem rank_bounds {scored : List (ι × α)} (h : scored ≠ []) (name : ι) :
    1 ≤ rank scored name ∧ rank scored name ≤ scored.length := by
  have hpositive := List.length_pos_iff.mpr h
  unfold rank
  split
  next index hindex =>
    have hlt := (List.findIdx?_eq_some_iff_getElem.mp hindex).1
    rw [(ranked_perm scored).length_eq] at hlt
    omega
  next => omega

/-- Different ranked names have different places. -/
theorem eq_of_rank_eq {scored : List (ι × α)} {x y : ι × α} (hx : x ∈ scored)
    (hy : y ∈ scored) (h : rank scored x.1 = rank scored y.1) : x.1 = y.1 := by
  have hfound : ∀ z ∈ scored, ∃ index, ∃ hlt : index < (ranked scored).length,
      rank scored z.1 = index + 1 ∧ (ranked scored)[index].1 = z.1 := by
    intro z hz
    have hsome : ((ranked scored).findIdx? fun entry => entry.1 = z.1).isSome := by
      rw [List.findIdx?_isSome, List.any_eq_true]
      exact ⟨z, (ranked_perm scored).mem_iff.mpr hz, by simp⟩
    obtain ⟨index, hindex⟩ := Option.isSome_iff_exists.mp hsome
    obtain ⟨hlt, hname, -⟩ := List.findIdx?_eq_some_iff_getElem.mp hindex
    refine ⟨index, hlt, ?_, by simpa using hname⟩
    unfold rank
    rw [hindex]
  obtain ⟨i, hi, hrank, hname⟩ := hfound x hx
  obtain ⟨j, hj, hrank', hname'⟩ := hfound y hy
  rw [hrank, hrank', Nat.add_right_cancel_iff] at h
  subst h
  exact hname.symm.trans hname'

/-- Equal scores have equal places exactly when they come with one name only. -/
theorem ties_rank_iff (scored : List (ι × α)) :
    (∀ x ∈ scored, ∀ y ∈ scored, x.2 = y.2 → rank scored x.1 = rank scored y.1) ↔
      ∀ x ∈ scored, ∀ y ∈ scored, x.2 = y.2 → x.1 = y.1 := by
  constructor
  · exact fun h x hx y hy hscore => eq_of_rank_eq hx hy (h x hx y hy hscore)
  · intro h x hx y hy hscore
    rw [h x hx y hy hscore]

theorem rank_eq_of_perm {scored other : List (ι × α)} (h : scored.Perm other)
    (hdistinct : ∀ x ∈ scored, ∀ y ∈ scored, x.2 = y.2 → x.1 = y.1) (name : ι) :
    rank scored name = rank other name := by
  rw [rank, rank, ranked_eq_of_perm h hdistinct, h.length_eq]

end Ranks
