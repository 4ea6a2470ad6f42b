import Mathlib.Data.List.Sort
import Mathlib.Order.Bounds.Basic
import Mathlib.Order.MinMax

/-! # Windows of lists

A window holds the first elements of a list that pass a test, or the last ones in an order.
An element is in it when few of those that pass come before it, or few are larger. -/

namespace Windows

variable {α : Type*}

/-! ## First elements -/

/-- The first elements that pass a test are those before which few do. -/
theorem mem_take_filter_zipIdx (p : α → Bool) (l : List α) (start n i : ℕ) :
    i ∈ (((l.zipIdx start).filter fun (x, _) => p x).map Prod.snd).take n ↔
      ∃ j, i = start + j ∧ (∃ x, l[j]? = some x ∧ p x = true) ∧ (l.take j).countP p < n := by
  induction l generalizing start n with
  | nil => simp
  | cons x l ih =>
      rw [List.zipIdx_cons]
      cases hx : p x with
      | false =>
          rw [List.filter_cons_of_neg (by simp [hx]), ih]
          constructor
          · rintro ⟨j, rfl, hj, hcount⟩
            exact ⟨j + 1, by omega, hj, by simpa [hx] using hcount⟩
          · rintro ⟨j, rfl, hj, hcount⟩
            cases j with
            | zero => simp [hx] at hj
            | succ j => exact ⟨j, by omega, hj, by simpa [hx] using hcount⟩
      | true =>
          rw [List.filter_cons_of_pos (by simp [hx]), List.map_cons]
          cases n with
          | zero => simp
          | succ n =>
              rw [List.take_succ_cons, List.mem_cons, ih]
              constructor
              · rintro (rfl | ⟨j, rfl, hj, hcount⟩)
                · exact ⟨0, rfl, ⟨x, rfl, hx⟩, by simp⟩
                · exact ⟨j + 1, by omega, hj, by simpa [hx] using hcount⟩
              · rintro ⟨j, rfl, hj, hcount⟩
                cases j with
                | zero => exact Or.inl rfl
                | succ j => exact Or.inr ⟨j, by omega, hj, by simpa [hx] using hcount⟩

/-- The indexes of the elements that pass a test increase. -/
theorem pairwise_filter_zipIdx (p : α → Bool) (l : List α) :
    ((l.zipIdx.filter fun (x, _) => p x).map Prod.snd).Pairwise (· < ·) := by
  have hall : (l.zipIdx.map Prod.snd).Pairwise (· < ·) := by
    rw [List.zipIdx_map_snd]
    exact List.pairwise_lt_range'
  exact hall.sublist (List.filter_sublist.map _)

/-! ## Last elements -/

/-- In a list that increases by a key, an element that is not among the last ones has as many
larger ones. -/
theorem le_countP_of_not_mem_last {key : α → ℕ} {l : List α}
    (hl : l.Pairwise fun x y => key x < key y) {x : α} (hx : x ∈ l) {n : ℕ}
    (hlast : x ∉ l.reverse.take n) : n ≤ l.countP fun y => decide (key x < key y) := by
  have hdrop : x ∈ l.reverse.drop n := by
    have hmem : x ∈ l.reverse.take n ++ l.reverse.drop n := by
      rw [List.take_append_drop, List.mem_reverse]
      exact hx
    exact (List.mem_append.mp hmem).resolve_left hlast
  have hlength : (l.reverse.take n).length = n := by
    have hpos := List.length_pos_of_mem hdrop
    rw [List.length_drop] at hpos
    rw [List.length_take]
    omega
  have hlarger : ∀ y ∈ l.reverse.take n, key x < key y := by
    have hreverse : l.reverse.Pairwise fun y z => key z < key y := List.pairwise_reverse.mpr hl
    rw [← List.take_append_drop n l.reverse, List.pairwise_append] at hreverse
    exact fun y hy => hreverse.2.2 y hy x hdrop
  calc n = (l.reverse.take n).countP fun y => decide (key x < key y) := by
        rw [List.countP_eq_length.mpr fun y hy => decide_eq_true (hlarger y hy), hlength]
    _ ≤ l.reverse.countP fun y => decide (key x < key y) := (List.take_sublist n _).countP_le
    _ = l.countP fun y => decide (key x < key y) := List.countP_reverse

/-- A test on the elements that pass another counts indexes as it counts elements. -/
theorem countP_filter_zipIdx (p q : α → Bool) (l : List α) :
    (l.zipIdx.filter fun (x, _) => p x).countP (fun (x, _) => q x) =
      l.countP fun x => p x && q x := by
  have hfst : l = l.zipIdx.map Prod.fst := (List.zipIdx_map_fst 0 l).symm
  rw [List.countP_filter]
  conv_rhs => rw [hfst, List.countP_map]
  exact List.countP_congr fun x _ => by simp [and_comm]

/-! ## Elements that change -/

theorem mem_modify {l : List α} {i : ℕ} {f : α → α} {x : α} (h : x ∈ l.modify i f) :
    x ∈ l ∨ ∃ y, l[i]? = some y ∧ x = f y := by
  obtain ⟨j, hj⟩ := List.mem_iff_getElem?.mp h
  rw [List.getElem?_modify] at hj
  obtain ⟨y, hy, heq⟩ := Option.map_eq_some_iff.mp hj
  by_cases hij : i = j
  · subst hij
    right
    exact ⟨y, hy, by simpa using heq.symm⟩
  · left
    rw [if_neg hij] at heq
    rw [← heq]
    exact List.mem_of_getElem? hy

/-- A change that does not take an element out of a test does not lower the count. -/
theorem countP_le_countP_modify (p : α → Bool) {l : List α} {i : ℕ} {f : α → α}
    (h : ∀ x, l[i]? = some x → p x = true → p (f x) = true) :
    l.countP p ≤ (l.modify i f).countP p := by
  induction l generalizing i with
  | nil => simp
  | cons x l ih =>
      cases i with
      | zero =>
          have hx := h x rfl
          rw [List.modify_zero_cons, List.countP_cons, List.countP_cons]
          split
          · next hpx => simp [hx hpx]
          · omega
      | succ i =>
          rw [List.modify_succ_cons, List.countP_cons, List.countP_cons]
          have hrest := ih (i := i) fun y hy => h y (by simpa using hy)
          omega

/-! ## Windows of time -/

section timed

variable {T P R : Type*} [LinearOrder T] [LinearOrder R] [Zero R] (score : P → R)
  {history : List (T × P)}

/-- The best score up to a time, zero while there is none. -/
def bestUntil (history : List (T × P)) (t : T) : R :=
  ((history.filter fun e => e.1 ≤ t).map fun e => score e.2).max?.getD 0

variable {score}

omit [Zero R] in
theorem max?_eq_some {scores : List R} {best : R} (h : scores.max? = some best) :
    best ∈ scores ∧ ∀ s ∈ scores, s ≤ best := by
  have : Std.LawfulOrderMax R :=
    .of_max_le_iff (fun _ _ _ => max_le_iff) fun a b => max_choice a b
  exact List.max?_eq_some_iff.mp h

omit [Zero R] in
/-- The largest image under a map that keeps the order is that of the largest element. -/
theorem max?_map_of_monotone {S : Type*} [LinearOrder S] {f : S → R} (hf : Monotone f)
    (l : List S) : (l.map f).max? = l.max?.map f := by
  have : Std.LawfulOrderMax R :=
    .of_max_le_iff (fun _ _ _ => max_le_iff) fun a b => max_choice a b
  cases hmax : l.max? with
  | none =>
      rw [List.max?_eq_none_iff] at hmax
      rw [hmax]
      rfl
  | some best =>
      obtain ⟨hmem, hle⟩ := max?_eq_some hmax
      refine List.max?_eq_some_iff.mpr ⟨List.mem_map_of_mem hmem, fun s hs => ?_⟩
      obtain ⟨x, hx, rfl⟩ := List.mem_map.mp hs
      exact hf (hle x hx)

omit [Zero R] in
/-- The largest image under a map that reverses the order is that of the least element. -/
theorem max?_map_of_antitone {S : Type*} [LinearOrder S] {f : S → R} (hf : Antitone f)
    (l : List S) : (l.map f).max? = l.min?.map f := by
  have : Std.LawfulOrderMax R :=
    .of_max_le_iff (fun _ _ _ => max_le_iff) fun a b => max_choice a b
  have : Std.LawfulOrderMin S :=
    .of_le_min_iff (fun _ _ _ => le_min_iff) fun a b => min_choice a b
  cases hmin : l.min? with
  | none =>
      rw [List.min?_eq_none_iff] at hmin
      rw [hmin]
      rfl
  | some least =>
      obtain ⟨hmem, hle⟩ := List.min?_eq_some_iff.mp hmin
      refine List.max?_eq_some_iff.mpr ⟨List.mem_map_of_mem hmem, fun s hs => ?_⟩
      obtain ⟨x, hx, rfl⟩ := List.mem_map.mp hs
      exact hf (hle x hx)

theorem le_bestUntil {e : T × P} (hmem : e ∈ history) {t : T} (ht : e.1 ≤ t) :
    score e.2 ≤ bestUntil score history t := by
  have hscore : score e.2 ∈ (history.filter fun e => e.1 ≤ t).map fun e => score e.2 :=
    List.mem_map.mpr ⟨e, List.mem_filter.mpr ⟨hmem, by simpa using ht⟩, rfl⟩
  unfold bestUntil
  cases hmax : ((history.filter fun e => e.1 ≤ t).map fun e => score e.2).max? with
  | none =>
      rw [List.max?_eq_none_iff] at hmax
      rw [hmax] at hscore
      cases hscore
  | some best => exact (max?_eq_some hmax).2 _ hscore

/-- Where a window has entries, its best score is the largest one. -/
theorem isGreatest_bestUntil {t : T} (h : ∃ e ∈ history, e.1 ≤ t) :
    IsGreatest {s | ∃ e ∈ history, e.1 ≤ t ∧ score e.2 = s} (bestUntil score history t) := by
  constructor
  · obtain ⟨first, hfirst, hin⟩ := h
    unfold bestUntil
    cases hmax : ((history.filter fun e => e.1 ≤ t).map fun e => score e.2).max? with
    | none =>
        rw [List.max?_eq_none_iff, List.map_eq_nil_iff, List.filter_eq_nil_iff] at hmax
        exact absurd (decide_eq_true hin) (hmax first hfirst)
    | some best =>
        obtain ⟨e, he, hbest⟩ := List.mem_map.mp (max?_eq_some hmax).1
        obtain ⟨hmem, ht⟩ := List.mem_filter.mp he
        exact ⟨e, hmem, by simpa using ht, hbest⟩
  · rintro s ⟨e, hmem, ht, rfl⟩
    exact le_bestUntil hmem ht

theorem bestUntil_of_forall_lt {t : T} (h : ∀ e ∈ history, t < e.1) :
    bestUntil score history t = 0 := by
  unfold bestUntil
  rw [List.filter_eq_nil_iff.mpr fun e he => by simpa using h e he]
  rfl

omit [LinearOrder R] [Zero R] in
/-- In the order of time the first entry found is the earliest that passes the test. -/
theorem le_of_find?_eq_some (hordered : history.Pairwise fun a b => a.1 ≤ b.1)
    {p : T × P → Bool} {first : T × P} (hfirst : history.find? p = some first) {e : T × P}
    (hmem : e ∈ history) (he : p e) : first.1 ≤ e.1 := by
  obtain ⟨-, before, after, hsplit, hnone⟩ := List.find?_eq_some_iff_append.mp hfirst
  rw [hsplit] at hmem hordered
  rcases List.mem_append.mp hmem with hbefore | hafter
  · have hnot := hnone e hbefore
    simp [he] at hnot
  · rcases List.mem_cons.mp hafter with rfl | hrest
    · exact le_rfl
    · exact List.rel_of_pairwise_cons (List.pairwise_append.mp hordered).2.1 hrest

end timed

end Windows
