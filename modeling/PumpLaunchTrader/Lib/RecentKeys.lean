import PumpLaunchTrader.Lib.KeyedMap
import Mathlib.Data.Finset.Card
import Mathlib.Data.List.DropRight

/-! # Bounded memories of accepted keys

A filter that remembers the last `capacity` keys that it accepted, and accepts a key that it
does not remember, repeats a key only after that many others. -/

namespace RecentKeys

variable {K : Type*} {capacity : ℕ}

/-- No key of the list is among the `capacity` keys before it. -/
def Spaced (capacity : ℕ) (accepted : List K) : Prop :=
  ∀ before key after, accepted = before ++ key :: after → key ∉ before.rtake capacity

theorem mem_rtake_append {before window : List K} {key : K} (h : window.length ≤ capacity)
    (hkey : key ∈ window) : key ∈ (before ++ window).rtake capacity := by
  unfold List.rtake
  rw [List.drop_append_of_le_length (by rw [List.length_append]; omega)]
  exact List.mem_append_right _ hkey

/-- What is remembered depends on what was remembered only. -/
theorem rtake_rtake_concat (accepted : List K) (key : K) :
    (accepted.rtake capacity ++ [key]).rtake capacity =
      (accepted ++ [key]).rtake capacity := by
  cases capacity with
  | zero => simp
  | succ capacity =>
      rw [List.rtake_concat_succ, List.rtake_concat_succ]
      simp only [List.rtake_eq_reverse_take_reverse, List.reverse_reverse, List.take_take,
        Nat.min_eq_left (Nat.le_succ capacity)]

@[simp] theorem spaced_nil : Spaced capacity ([] : List K) := by
  intro before key after h
  simp at h

theorem Spaced.concat {accepted : List K} (h : Spaced capacity accepted) {key : K}
    (hkey : key ∉ accepted.rtake capacity) : Spaced capacity (accepted ++ [key]) := by
  intro before other after heq
  rcases List.eq_nil_or_concat after with rfl | ⟨after, last, rfl⟩
  · obtain ⟨rfl, hother⟩ := List.append_inj' heq rfl
    cases hother
    exact hkey
  · have hsplit : accepted ++ [key] = (before ++ other :: after) ++ [last] := by
      rw [heq]
      simp
    exact h before other after (List.append_inj' hsplit rfl).1

/-- The keys of a window of at most one more than the capacity are distinct. -/
theorem Spaced.nodup_window {before window after : List K}
    (h : Spaced capacity (before ++ window ++ after)) (hlength : window.length ≤ capacity + 1) :
    window.Nodup := by
  induction window using List.reverseRecOn generalizing after with
  | nil => exact List.nodup_nil
  | append_singleton window key ih =>
      rw [List.length_append, List.length_singleton] at hlength
      have hshift : before ++ (window ++ [key]) ++ after = before ++ window ++ key :: after := by
        simp
      rw [hshift] at h
      rw [List.nodup_append_comm, List.singleton_append, List.nodup_cons]
      refine ⟨fun hmem => ?_, ih h (by omega)⟩
      exact h (before ++ window) key after rfl (mem_rtake_append (by omega) hmem)

/-- The remembered keys are distinct. -/
theorem Spaced.nodup_rtake {accepted : List K} (h : Spaced capacity accepted) :
    (accepted.rtake capacity).Nodup := by
  have hsplit : accepted = accepted.take (accepted.length - capacity) ++
      accepted.rtake capacity ++ [] := by
    rw [List.append_nil]
    exact (List.take_append_drop _ _).symm
  rw [hsplit] at h
  apply h.nodup_window
  unfold List.rtake
  rw [List.length_drop]
  omega

theorem length_rtake_le (accepted : List K) : (accepted.rtake capacity).length ≤ capacity := by
  unfold List.rtake
  rw [List.length_drop]
  omega

/-- Between two acceptances of a key lie at least `capacity` different other keys. -/
theorem Spaced.capacity_le_card [DecidableEq K] {before between after : List K} {key : K}
    (h : Spaced capacity (before ++ key :: between ++ key :: after)) :
    capacity ≤ (between.toFinset.erase key).card := by
  -- with fewer keys between them, both copies lie in one window
  have hlength : capacity ≤ between.length := by
    by_contra hshort
    have hsplit : before ++ key :: between ++ key :: after =
        before ++ (key :: between ++ [key]) ++ after := by simp
    rw [hsplit] at h
    have hnodup := h.nodup_window (by
      simp only [List.length_append, List.length_cons, List.length_nil]
      omega)
    simp at hnodup
  have hsplit : before ++ key :: between ++ key :: after =
      before ++ (key :: between.take capacity) ++ (between.drop capacity ++ key :: after) := by
    rw [← List.append_assoc (before ++ _), List.append_assoc before _ (between.drop capacity),
      List.cons_append, List.take_append_drop]
  rw [hsplit] at h
  have hnodup := h.nodup_window (by
    rw [List.length_cons, List.length_take]
    omega)
  obtain ⟨hkey, hothers⟩ := List.nodup_cons.mp hnodup
  calc capacity = (between.take capacity).length := by
        rw [List.length_take]
        omega
    _ = (between.take capacity).toFinset.card := (List.toFinset_card_of_nodup hothers).symm
    _ ≤ (between.toFinset.erase key).card := by
        apply Finset.card_le_card
        intro other hother
        rw [List.mem_toFinset] at hother
        rw [Finset.mem_erase, List.mem_toFinset]
        refine ⟨?_, List.mem_of_mem_take hother⟩
        rintro rfl
        exact hkey hother

end RecentKeys

/-! ## Entries behind a queue of their keys

Keys are queued when their entries are made and not taken out when the entries go. A sweep
drops keys without entries and expires old entries from the front, up to the first entry
that is not old. -/

namespace LazyQueue

variable {K V : Type*} [DecidableEq K] (old : V → Bool)

/-- The queue and the entries that a sweep leaves. -/
def sweep : List K → KeyedMap K V → List K × KeyedMap K V
  | [], entries => ([], entries)
  | key :: queue, entries =>
    match entries.lookup key with
    | none => sweep queue entries
    | some value =>
      if old value then sweep queue (entries.erase key) else (key :: queue, entries)

/-- A sweep stops at the keys of entries that are not old. -/
def stops (entries : KeyedMap K V) (key : K) : Bool :=
  (entries.lookup key).any fun value => !old value

/-- The keys in front of the first entry that is not old. -/
def swept (queue : List K) (entries : KeyedMap K V) : List K :=
  queue.takeWhile fun key => !stops old entries key

variable {old}

theorem stops_of_none {entries : KeyedMap K V} {key : K} (h : entries.lookup key = none) :
    stops old entries key = false := by
  rw [stops, h]
  rfl

theorem stops_of_some {entries : KeyedMap K V} {key : K} {value : V}
    (h : entries.lookup key = some value) : stops old entries key = !old value := by
  rw [stops, h]
  rfl

theorem swept_cons (queue : List K) (entries : KeyedMap K V) (key : K) :
    swept old (key :: queue) entries =
      if stops old entries key then [] else key :: swept old queue entries := by
  unfold swept
  rw [List.takeWhile_cons]
  cases stops old entries key <;> rfl

/-- Expiring an old entry does not change where a sweep stops. -/
theorem swept_erase {entries : KeyedMap K V} {key : K} {value : V}
    (hlookup : entries.lookup key = some value) (hold : old value = true) (queue : List K) :
    swept old queue (entries.erase key) = swept old queue entries := by
  have hstops : stops old (entries.erase key) = stops old entries := by
    funext other
    unfold stops
    by_cases h : other = key
    · subst h
      simp [hlookup, hold]
    · rw [AList.lookup_erase_ne h]
  rw [swept, hstops, swept]

/-- A sweep removes the entries of the swept keys, all of them old, and no other one. -/
theorem lookup_sweep (queue : List K) (entries : KeyedMap K V) (key : K) :
    (sweep old queue entries).2.lookup key =
      if key ∈ swept old queue entries then none else entries.lookup key := by
  induction queue generalizing entries with
  | nil => simp [sweep, swept]
  | cons front queue ih =>
      rw [swept_cons]
      cases hlookup : entries.lookup front with
      | none =>
          rw [stops_of_none hlookup]
          simp only [sweep, hlookup, ih]
          by_cases h : key = front
          · subst h
            simp [hlookup]
          · simp [h]
      | some value =>
          rw [stops_of_some hlookup]
          simp only [sweep, hlookup]
          cases hold : old value with
          | false => simp
          | true =>
              simp only [if_true, ih, swept_erase hlookup hold]
              by_cases h : key = front
              · subst h
                simp
              · simp [h, AList.lookup_erase_ne h]

variable (old) in
/-- After a sweep no entry is old exactly when the keys of all old entries were swept. -/
theorem none_old_sweep_iff (queue : List K) (entries : KeyedMap K V) :
    (∀ key value, (sweep old queue entries).2.lookup key = some value → old value = false) ↔
      ∀ key value, entries.lookup key = some value → old value = true →
        key ∈ swept old queue entries := by
  simp only [lookup_sweep]
  constructor
  · intro h key value hlookup hold
    by_contra hkey
    have hyoung := h key value (by rw [if_neg hkey, hlookup])
    rw [hold] at hyoung
    cases hyoung
  · intro h key value hafter
    by_contra hold
    rw [Bool.not_eq_false] at hold
    by_cases hkey : key ∈ swept old queue entries
    · rw [if_pos hkey] at hafter
      cases hafter
    · rw [if_neg hkey] at hafter
      exact hkey (h key value hafter hold)

end LazyQueue
