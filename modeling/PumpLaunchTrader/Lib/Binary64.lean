import Mathlib.Data.Prod.Lex
import Mathlib.Data.List.Induction

/-! # The order of floats

A float that is a number has a place in a linear order, so that comparisons of floats are
comparisons of places. The difference of a float and itself is zero or not a number. A scan
for a maximum keeps the first of the largest floats above a bound. -/

namespace Binary64

open Float.Model

/-! ## Places -/

/-- The place of a number among the floats; both zeros have the same. -/
def place : UnpackedFloat → Option (ℤ ×ₗ ℤ ×ₗ ℤ)
  | .notANumber => none
  | .infinity .negative => some (toLex (-2, toLex (0, 0)))
  | .finite .negative mantissa exponent _ => some (toLex (-1, toLex (-exponent, -mantissa)))
  | .zero _ => some (toLex (0, toLex (0, 0)))
  | .finite .positive mantissa exponent _ => some (toLex (1, toLex (exponent, mantissa)))
  | .infinity .positive => some (toLex (2, toLex (0, 0)))

theorem compare_eq_lt_iff (x y : UnpackedFloat) :
    x.compare y = some .lt ↔ ∃ a b, place x = some a ∧ place y = some b ∧ a < b := by
  rcases x with (_ | _) | _ | _ | ⟨_ | _, _, _, _⟩ <;>
    rcases y with (_ | _) | _ | _ | ⟨_ | _, _, _, _⟩ <;>
    dsimp only [place, UnpackedFloat.compare] <;>
    simp [Prod.Lex.toLex_lt_toLex, Ordering.then_eq_lt, Ordering.then_eq_gt,
      Int.compare_eq_lt, Int.compare_eq_gt, Nat.compare_eq_lt, Nat.compare_eq_gt]
  all_goals rfl

theorem compare_eq_eq_iff (x y : UnpackedFloat) :
    x.compare y = some .eq ↔ ∃ a, place x = some a ∧ place y = some a := by
  rcases x with (_ | _) | _ | _ | ⟨_ | _, _, _, _⟩ <;>
    rcases y with (_ | _) | _ | _ | ⟨_ | _, _, _, _⟩ <;>
    dsimp only [place, UnpackedFloat.compare] <;>
    simp [Ordering.swap_eq_eq, Ordering.then_eq_eq]
  · rfl
  · rfl
  · omega
  · omega

theorem lt_iff (x y : Float) : x < y ↔
    ∃ a b, place x.toModel.unpack = some a ∧ place y.toModel.unpack = some b ∧ a < b := by
  rw [← compare_eq_lt_iff]
  exact decide_eq_true_iff.trans beq_iff_eq

theorem le_iff (x y : Float) : x ≤ y ↔
    ∃ a b, place x.toModel.unpack = some a ∧ place y.toModel.unpack = some b ∧ a ≤ b := by
  have hle : x ≤ y ↔ (x.toModel.unpack.compare y.toModel.unpack = some .lt ∨
      x.toModel.unpack.compare y.toModel.unpack = some .eq) := by
    refine (decide_eq_true_iff (p := x.toModel ≤ y.toModel)).trans ?_
    change Option.any Ordering.isLE (x.toModel.unpack.compare y.toModel.unpack) = true ↔ _
    rcases x.toModel.unpack.compare y.toModel.unpack with _ | _ | _ | _ <;> simp
  rw [hle, compare_eq_lt_iff, compare_eq_eq_iff]
  constructor
  · rintro (⟨a, b, hx, hy, h⟩ | ⟨a, hx, hy⟩)
    · exact ⟨a, b, hx, hy, h.le⟩
    · exact ⟨a, a, hx, hy, le_refl a⟩
  · rintro ⟨a, b, hx, hy, h⟩
    rcases h.lt_or_eq with h | rfl
    · exact Or.inl ⟨a, b, hx, hy, h⟩
    · exact Or.inr ⟨a, hx, hy⟩

theorem le_trans {x y z : Float} (hxy : x ≤ y) (hyz : y ≤ z) : x ≤ z := by
  obtain ⟨a, b, hx, hy, hab⟩ := (le_iff x y).mp hxy
  obtain ⟨b', c, hy', hz, hbc⟩ := (le_iff y z).mp hyz
  rw [hy, Option.some.injEq] at hy'
  exact (le_iff x z).mpr ⟨a, c, hx, hz, hab.trans (hy' ▸ hbc)⟩

theorem lt_trans {x y z : Float} (hxy : x < y) (hyz : y < z) : x < z := by
  obtain ⟨a, b, hx, hy, hab⟩ := (lt_iff x y).mp hxy
  obtain ⟨b', c, hy', hz, hbc⟩ := (lt_iff y z).mp hyz
  rw [hy, Option.some.injEq] at hy'
  exact (lt_iff x z).mpr ⟨a, c, hx, hz, hab.trans (hy' ▸ hbc)⟩

theorem lt_irrefl (x : Float) : ¬ x < x := by
  rw [lt_iff]
  rintro ⟨a, b, ha, hb, h⟩
  rw [ha, Option.some.injEq] at hb
  exact h.ne hb

/-! ## Differences -/

theorem unpacked_sub_self (format : Format) (x : UnpackedFloat) :
    UnpackedFloat.sub format x x = .zero .positive ∨
      UnpackedFloat.sub format x x = .notANumber := by
  cases x with
  | notANumber => exact Or.inr rfl
  | infinity sign =>
      right
      cases sign <;> rfl
  | zero sign =>
      left
      cases sign <;> rfl
  | finite sign mantissa exponent hpos =>
      left
      exact (congrArg (fun difference =>
        UnpackedFloat.normalize format difference (min exponent exponent) .positive)
        (Int.sub_self _)).trans rfl

/-- What is left of a float after it is taken from itself is not positive. -/
theorem not_pos_sub_self (x : Float) : ¬ 0 < x - x := by
  have hsub : x - x = .ofModel (.pack (.sub .binary64 x.toModel.unpack x.toModel.unpack)) := rfl
  rcases unpacked_sub_self .binary64 x.toModel.unpack with h | h
  · rw [hsub, h]
    decide
  · rw [hsub, h]
    decide

/-! ## Scans for a maximum -/

section Scan

variable {ι : Type*} (value : ι → Option Float)

/-- One step of a scan: the best index so far and its value. -/
def scan (best : Option ι × Float) (k : ι) : Option ι × Float :=
  match value k with
  | none => best
  | some v => if best.2 < v then (some k, v) else best

/-- An index whose value exceeds the bound and is exceeded by none. -/
structure IsPeak (bound : Float) (ks : List ι) (k : ι) (v : Float) : Prop where
  mem : k ∈ ks
  value_eq : value k = some v
  above : bound < v
  greatest : ∀ j ∈ ks, ∀ w, value j = some w → ¬ v < w

/-- What a scan has found: nothing above the bound, or a peak. -/
inductive Scanned (bound : Float) (ks : List ι) : Option ι × Float → Prop where
  | nothing (h : ∀ j ∈ ks, ∀ w, value j = some w → ¬ bound < w) : Scanned bound ks (none, bound)
  | peak {k : ι} {v : Float} (h : IsPeak value bound ks k v) : Scanned bound ks (some k, v)

variable {value} {bound : Float} {ks : List ι}

theorem IsPeak.concat {k last : ι} {v : Float} (h : IsPeak value bound ks k v)
    (hlast : ∀ w, value last = some w → ¬ v < w) : IsPeak value bound (ks ++ [last]) k v := by
  refine ⟨by simp [h.mem], h.value_eq, h.above, fun j hj w hw => ?_⟩
  rcases List.mem_append.mp hj with hj | hj
  · exact h.greatest j hj w hw
  · rw [List.mem_singleton.mp hj] at hw
    exact hlast w hw

/-- The last index is a peak where its value exceeds one that none of the others exceeds. -/
theorem isPeak_last {last : ι} {old v : Float} (hbound : bound < v)
    (hvalue : value last = some v) (hold : old < v)
    (h : ∀ j ∈ ks, ∀ w, value j = some w → ¬ old < w) :
    IsPeak value bound (ks ++ [last]) last v := by
  refine ⟨by simp, hvalue, hbound, fun j hj w hw hlt => ?_⟩
  rcases List.mem_append.mp hj with hj | hj
  · exact h j hj w hw (lt_trans hold hlt)
  · rw [List.mem_singleton.mp hj, hvalue, Option.some.injEq] at hw
    exact lt_irrefl v (hw ▸ hlt)

theorem Scanned.concat {best : Option ι × Float} (h : Scanned value bound ks best) (last : ι) :
    Scanned value bound (ks ++ [last]) (scan value best last) := by
  cases h with
  | nothing h =>
      cases hlast : value last with
      | none =>
          rw [scan, hlast]
          refine .nothing fun j hj w hw => ?_
          rcases List.mem_append.mp hj with hj | hj
          · exact h j hj w hw
          · simp [List.mem_singleton.mp hj, hlast] at hw
      | some v =>
          by_cases hlt : bound < v
          · simp only [scan, hlast, if_pos hlt]
            exact .peak (isPeak_last hlt hlast hlt h)
          · simp only [scan, hlast, if_neg hlt]
            refine .nothing fun j hj w hw => ?_
            rcases List.mem_append.mp hj with hj | hj
            · exact h j hj w hw
            · rw [List.mem_singleton.mp hj, hlast, Option.some.injEq] at hw
              exact hw ▸ hlt
  | @peak k old h =>
      cases hlast : value last with
      | none =>
          rw [scan, hlast]
          exact .peak (h.concat fun w hw => by simp [hlast] at hw)
      | some v =>
          by_cases hlt : old < v
          · simp only [scan, hlast, if_pos hlt]
            exact .peak (isPeak_last (lt_trans h.above hlt) hlast hlt h.greatest)
          · simp only [scan, hlast, if_neg hlt]
            refine .peak (h.concat fun w hw => ?_)
            rw [hlast, Option.some.injEq] at hw
            exact hw ▸ hlt

theorem scanned_foldl (ks : List ι) :
    Scanned value bound ks (ks.foldl (scan value) (none, bound)) := by
  induction ks using List.reverseRecOn with
  | nil => exact .nothing (by simp)
  | append_singleton ks last ih =>
      rw [List.foldl_append, List.foldl_cons, List.foldl_nil]
      exact ih.concat last

theorem isPeak_of_foldl {k : ι} {v : Float}
    (h : ks.foldl (scan value) (none, bound) = (some k, v)) : IsPeak value bound ks k v := by
  have hscanned : Scanned value bound ks (ks.foldl (scan value) (none, bound)) := scanned_foldl ks
  rw [h] at hscanned
  cases hscanned with
  | peak h => exact h

theorem foldl_scan_eq_self {best : Option ι × Float}
    (h : ∀ j ∈ ks, ∀ w, value j = some w → ¬ best.2 < w) : ks.foldl (scan value) best = best := by
  induction ks with
  | nil => rfl
  | cons k ks ih =>
      have hk : scan value best k = best := by
        cases hvalue : value k with
        | none => simp [scan, hvalue]
        | some w => simp [scan, hvalue, h k (by simp) w hvalue]
      rw [List.foldl_cons, hk]
      exact ih fun j hj => h j (by simp [hj])

/-- The first index with a value above the bound is kept where no later value exceeds its. -/
theorem foldl_scan_first {before after : List ι} {k : ι} {v : Float}
    (hbefore : ∀ j ∈ before, value j = none) (hvalue : value k = some v) (habove : bound < v)
    (hafter : ∀ j ∈ after, ∀ w, value j = some w → ¬ v < w) :
    (before ++ k :: after).foldl (scan value) (none, bound) = (some k, v) := by
  have hstart : before.foldl (scan value) (none, bound) = (none, bound) :=
    foldl_scan_eq_self fun j hj w hw => by simp [hbefore j hj] at hw
  rw [List.foldl_append, hstart, List.foldl_cons, scan, hvalue]
  simp only [if_pos habove]
  exact foldl_scan_eq_self hafter

end Scan

end Binary64
