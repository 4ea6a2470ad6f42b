import Mathlib.Data.List.Sort

/-! # Splits of a sorted list

Of the entries of each name the first one is kept; in a list sorted by a key it is the
earliest. Slices of an ordered list that leave gaps between them keep the order. -/

namespace WalkForward

/-! ## First entries -/

variable {ρ ι κ : Type*} [DecidableEq ι]

/-- The first entry of each name that is wanted and not seen before. -/
def firsts (name : ρ → ι) (wanted : ι → Bool) : List ι → List ρ → List ρ
  | _, [] => []
  | seen, row :: rows =>
      if wanted (name row) ∧ name row ∉ seen then
        row :: firsts name wanted (name row :: seen) rows
      else firsts name wanted seen rows

section Members

variable {name : ρ → ι} {wanted : ι → Bool}

theorem firsts_sublist (seen : List ι) (rows : List ρ) :
    (firsts name wanted seen rows).Sublist rows := by
  induction rows generalizing seen with
  | nil => simp [firsts]
  | cons row rows ih =>
      by_cases h : wanted (name row) ∧ name row ∉ seen
      · simpa [firsts, h] using ih (name row :: seen)
      · simpa [firsts, h] using (ih seen).trans (List.sublist_cons_self row rows)

theorem mem_map_firsts (seen : List ι) (rows : List ρ) (x : ι) :
    x ∈ (firsts name wanted seen rows).map name ↔
      wanted x = true ∧ x ∉ seen ∧ x ∈ rows.map name := by
  induction rows generalizing seen with
  | nil => simp [firsts]
  | cons row rows ih =>
      by_cases h : wanted (name row) ∧ name row ∉ seen
      · simp only [firsts, if_pos h, List.map_cons, List.mem_cons, ih]
        by_cases hx : x = name row
        · subst hx
          simp [h]
        · simp [hx]
      · simp only [firsts, if_neg h, List.map_cons, List.mem_cons, ih]
        constructor
        · rintro ⟨hwanted, hseen, hmem⟩
          exact ⟨hwanted, hseen, Or.inr hmem⟩
        · rintro ⟨hwanted, hseen, rfl | hmem⟩
          · exact absurd ⟨hwanted, hseen⟩ h
          · exact ⟨hwanted, hseen, hmem⟩

theorem nodup_firsts (seen : List ι) (rows : List ρ) :
    ((firsts name wanted seen rows).map name).Nodup := by
  induction rows generalizing seen with
  | nil => simp [firsts]
  | cons row rows ih =>
      by_cases h : wanted (name row) ∧ name row ∉ seen
      · simp only [firsts, if_pos h, List.map_cons, List.nodup_cons]
        exact ⟨fun hmem => ((mem_map_firsts _ _ _).mp hmem).2.1 (by simp), ih _⟩
      · simpa only [firsts, if_neg h] using ih seen

/-- A list of keys that hold the names has the same first entries. -/
theorem map_firsts (key : ρ → κ) (nameOf : κ → ι) (h : ∀ row, nameOf (key row) = name row)
    (seen : List ι) (rows : List ρ) :
    (firsts name wanted seen rows).map key = firsts nameOf wanted seen (rows.map key) := by
  induction rows generalizing seen with
  | nil => simp [firsts]
  | cons row rows ih =>
      by_cases hrow : wanted (name row) ∧ name row ∉ seen
      · simp [firsts, hrow, h, ih]
      · simp only [firsts, if_neg hrow, List.map_cons, h, ih]

/-- In a list sorted by a key, the first entry of a name is its earliest. -/
theorem key_le_of_mem_firsts [Preorder κ] {key : ρ → κ} {rows : List ρ}
    (hsorted : rows.Pairwise fun left right => key left ≤ key right) {seen : List ι} {row other : ρ}
    (hrow : row ∈ firsts name wanted seen rows) (hother : other ∈ rows)
    (hname : name other = name row) : key row ≤ key other := by
  induction rows generalizing seen with
  | nil => simp at hother
  | cons head rows ih =>
      obtain ⟨hhead, hrows⟩ := List.pairwise_cons.mp hsorted
      by_cases h : wanted (name head) ∧ name head ∉ seen
      · rw [firsts, if_pos h, List.mem_cons] at hrow
        rcases hrow with rfl | hrow
        · rcases List.mem_cons.mp hother with rfl | hother
          · exact le_refl _
          · exact hhead other hother
        · have hunseen : name row ∉ name head :: seen :=
            ((mem_map_firsts _ _ _).mp (List.mem_map_of_mem hrow)).2.1
          rcases List.mem_cons.mp hother with rfl | hother
          · simp [hname] at hunseen
          · exact ih hrows hrow hother
      · rw [firsts, if_neg h] at hrow
        rcases List.mem_cons.mp hother with rfl | hother
        · have hmem := (mem_map_firsts _ _ _).mp (List.mem_map_of_mem (f := name) hrow)
          exact absurd (hname ▸ ⟨hmem.1, hmem.2.1⟩) h
        · exact ih hrows hrow hother

end Members

/-! ## Slices -/

section Slices

variable {α : Type*}

/-- What comes from a start on, up to a stop. -/
def slice (start stop : ℕ) (xs : List α) : List α := (xs.take stop).drop start

theorem slice_sublist (start stop : ℕ) (xs : List α) : (slice start stop xs).Sublist xs :=
  (List.drop_sublist _ _).trans (List.take_sublist _ _)

theorem take_append_slice {xs : List α} {start stop : ℕ} (h : min xs.length start ≤ stop) :
    xs.take start ++ slice start stop xs = xs.take stop := by
  by_cases hle : start ≤ stop
  · rw [slice, ← Nat.min_eq_left hle, ← List.take_take, Nat.min_eq_left hle,
      List.take_append_drop]
  · rw [slice, List.take_of_length_le (by omega), List.take_of_length_le (by omega),
      List.drop_eq_nil_of_le (by omega), List.append_nil]

theorem lt_length_of_slice_ne_nil {xs : List α} {start stop : ℕ}
    (h : slice start stop xs ≠ []) : start < xs.length := by
  have hpos := List.length_pos_iff.mpr h
  simp only [slice, List.length_drop, List.length_take] at hpos
  omega

/-- Where a slice starts some entries after a stop, as far as the list is long enough, that
many lie between them. -/
theorem length_slice_gap {xs : List α} {stop start gap : ℕ}
    (hstart : start = min xs.length (stop + gap)) (h : start < xs.length) :
    (slice stop start xs).length = gap := by
  simp only [slice, List.length_drop, List.length_take]
  omega

end Slices

/-! ## Three parts with gaps between them -/

section Parts

variable {α : Type*} {R : α → α → Prop} {first gap second gap' third : List α}

/-- The elements of earlier parts and gaps come before those of later ones. -/
theorem parts_in_order (h : (first ++ gap ++ second ++ gap' ++ third).Pairwise R) :
    ((∀ x ∈ first, ∀ y ∈ second ++ third, R x y) ∧ ∀ x ∈ second, ∀ y ∈ third, R x y) ∧
    ((∀ x ∈ gap, ∀ y ∈ first, R y x) ∧ ∀ x ∈ gap, ∀ y ∈ second ++ third, R x y) ∧
    ((∀ x ∈ gap', ∀ y ∈ first ++ second, R y x) ∧ ∀ x ∈ gap', ∀ y ∈ third, R x y) := by
  simp only [List.append_assoc, List.pairwise_append, List.mem_append] at h
  grind

end Parts

end WalkForward
