import Mathlib.Data.Set.Lattice
import Mathlib.Order.CompletePartialOrder

/-! # Filed items and their index

Items are filed as pending under a key and later settled there. An index names the one key
under which an item is pending. Index and files are written by different moves, and agree
after a move under a condition on it. -/

namespace Filing

variable {K V : Type*}

/-- What is pending and settled under each key, and the index of the pending items. -/
@[ext]
structure Cabinet (K V : Type*) where
  index : V → Option K
  pending : K → Set V
  settled : K → Set V

inductive Move (K V : Type*) where
  | file (key : K) (item : V)
  | settle (key : K) (item : V)
  | forget (item : V)
  | idle

/-- The index names exactly the keys under which items are pending, and nothing is pending
where it is settled. -/
structure Cabinet.Coherent (cabinet : Cabinet K V) : Prop where
  index_iff : ∀ item key, cabinet.index item = some key ↔ item ∈ cabinet.pending key
  disjoint : ∀ key, Disjoint (cabinet.pending key) (cabinet.settled key)

/-- The condition under which a move keeps the index right: an item is filed and settled
under one key, and is not filed again once settled there; only what is not pending is
forgotten. -/
def Move.Keeps (cabinet : Cabinet K V) : Move K V → Prop
  | .file key item => (∀ other, cabinet.index item = some other → other = key) ∧
      item ∉ cabinet.settled key
  | .settle key item => ∀ other, cabinet.index item = some other → other = key
  | .forget item => cabinet.index item = none
  | .idle => True

variable [DecidableEq K] [DecidableEq V]

def Cabinet.move (cabinet : Cabinet K V) : Move K V → Cabinet K V
  | .file key item =>
    { cabinet with
      index := Function.update cabinet.index item (some key)
      pending := Function.update cabinet.pending key (insert item (cabinet.pending key)) }
  | .settle key item =>
    { index := Function.update cabinet.index item none
      pending := Function.update cabinet.pending key (cabinet.pending key \ {item})
      settled := Function.update cabinet.settled key (insert item (cabinet.settled key)) }
  | .forget item => { cabinet with index := Function.update cabinet.index item none }
  | .idle => cabinet

namespace Cabinet.Coherent

variable {cabinet : Cabinet K V} (h : cabinet.Coherent)

include h

omit [DecidableEq K] [DecidableEq V] in
/-- An item that is pending nowhere else after a move within one key was not before. -/
theorem eq_key_of_coherent {after : Cabinet K V} (hafter : after.Coherent) {key : K} {item : V}
    (hpending : ∀ other, other ≠ key → after.pending other = cabinet.pending other)
    (hindex : ∀ other, after.index item = some other → other = key) :
    ∀ other, cabinet.index item = some other → other = key := by
  intro other hother
  by_contra hne
  refine hne (hindex other ((hafter.index_iff item other).mpr ?_))
  rw [hpending other hne]
  exact (h.index_iff item other).mp hother

/-- The index of an item and the files of its one key are written together. -/
theorem index_iff_update {key : K} {item : V} {target : Option K} {files : Set V}
    (hother : ∀ other, cabinet.index item = some other → other = key)
    (htarget : ∀ other, target = some other ↔ other = key ∧ item ∈ files)
    (hfiles : ∀ other ≠ item, other ∈ files ↔ other ∈ cabinet.pending key)
    (item' : V) (key' : K) :
    Function.update cabinet.index item target item' = some key' ↔
      item' ∈ Function.update cabinet.pending key files key' := by
  by_cases hitem : item' = item
  · subst hitem
    rw [Function.update_self, htarget]
    by_cases hkey : key' = key
    · subst hkey
      rw [Function.update_self, and_iff_right rfl]
    · rw [Function.update_of_ne hkey, ← h.index_iff]
      constructor
      · exact fun hboth => absurd hboth.1 hkey
      · exact fun heq => absurd (hother key' heq) hkey
  · rw [Function.update_of_ne hitem, h.index_iff]
    by_cases hkey : key' = key
    · subst hkey
      rw [Function.update_self, hfiles item' hitem]
    · rw [Function.update_of_ne hkey]

theorem move_file (key : K) (item : V) :
    (cabinet.move (.file key item)).Coherent ↔ (Move.file key item).Keeps cabinet := by
  constructor
  · intro hafter
    refine ⟨h.eq_key_of_coherent hafter (fun other hne => ?_) (fun other hindex => ?_), ?_⟩
    · simp [Cabinet.move, hne]
    · simpa [Cabinet.move, eq_comm] using hindex
    · intro hsettled
      have hpending : item ∈ (cabinet.move (.file key item)).pending key := by
        simp [Cabinet.move]
      exact Set.disjoint_left.mp (hafter.disjoint key) hpending hsettled
  · rintro ⟨hother, hsettled⟩
    refine ⟨h.index_iff_update hother (fun other => ?_) (fun other hne => ?_), ?_⟩
    · simp [eq_comm]
    · simp [hne]
    · intro key'
      simp only [Cabinet.move]
      by_cases hkey : key' = key
      · subst hkey
        rw [Function.update_self, Set.disjoint_insert_left]
        exact ⟨hsettled, h.disjoint key'⟩
      · rw [Function.update_of_ne hkey]
        exact h.disjoint key'

theorem move_settle (key : K) (item : V) :
    (cabinet.move (.settle key item)).Coherent ↔ (Move.settle key item).Keeps cabinet := by
  constructor
  · intro hafter
    refine h.eq_key_of_coherent hafter (fun other hne => ?_) (fun other hindex => ?_)
    · simp [Cabinet.move, hne]
    · simp [Cabinet.move] at hindex
  · intro hother
    refine ⟨h.index_iff_update hother (fun other => ?_) (fun other hne => ?_), ?_⟩
    · simp
    · simp [hne]
    · intro key'
      simp only [Cabinet.move]
      by_cases hkey : key' = key
      · subst hkey
        rw [Function.update_self, Function.update_self, Set.disjoint_insert_right]
        exact ⟨by simp, (h.disjoint key').mono_left fun _ hx => hx.1⟩
      · rw [Function.update_of_ne hkey, Function.update_of_ne hkey]
        exact h.disjoint key'

theorem move_forget (item : V) :
    (cabinet.move (.forget item)).Coherent ↔ (Move.forget (K := K) item).Keeps cabinet := by
  constructor
  · intro hafter
    cases hindex : cabinet.index item with
    | none => exact hindex
    | some key =>
        have hpending := (h.index_iff item key).mp hindex
        have hkept := (hafter.index_iff item key).mpr hpending
        simp [Cabinet.move] at hkept
  · intro hnone
    have hsame : cabinet.move (.forget item) = cabinet := by
      change { cabinet with index := Function.update cabinet.index item none } = cabinet
      have hindex : Function.update cabinet.index item none = cabinet.index := by
        rw [← show cabinet.index item = none from hnone, Function.update_eq_self]
      rw [hindex]
    rw [hsame]
    exact h

/-- A move keeps the index right exactly under its condition. -/
theorem move_iff (m : Move K V) : (cabinet.move m).Coherent ↔ m.Keeps cabinet := by
  cases m with
  | file key item => exact h.move_file key item
  | settle key item => exact h.move_settle key item
  | forget item => exact h.move_forget item
  | idle => exact ⟨fun _ => trivial, fun _ => h⟩

end Cabinet.Coherent

end Filing
