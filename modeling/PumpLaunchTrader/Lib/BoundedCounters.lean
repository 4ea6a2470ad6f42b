import PumpLaunchTrader.Lib.KeyedMap
import Mathlib.Data.List.Dedup
import Mathlib.Data.List.Induction
import Mathlib.Data.Prod.Lex

/-! # Counters of a bounded number of keys

A map counts the calls of keys up to a largest count. It holds a bounded number of keys: when
there is one too many, the key with the smallest count goes, and with it what it had counted.
No count is too large. A count is too small only for a key that has been called beside at least
as many other keys as the map holds. -/

namespace BoundedCounters

variable {κ : Type*} [DecidableEq κ]

/-! ## Calls -/

/-- The calls of other keys. -/
def others (key : κ) (calls : List κ) : List κ := calls.filter (· ≠ key)

theorem length_others (key : κ) (calls : List κ) :
    (others key calls).length + calls.count key = calls.length := by
  induction calls with
  | nil => rfl
  | cons call calls ih =>
      simp only [others, ne_eq, decide_not] at ih ⊢
      by_cases h : call = key
      · simp [h]
        omega
      · simp [h]
        omega

theorem mem_others {key other : κ} {calls : List κ} :
    other ∈ others key calls ↔ other ∈ calls ∧ other ≠ key := by
  simp [others]

/-- Each of the other keys takes at least one call from a key. -/
theorem count_add_dedup_le (calls : List κ) (key : κ) :
    calls.count key + calls.dedup.length ≤ calls.length + 1 := by
  have hrest : (others key calls).dedup.length ≤ (others key calls).length :=
    (List.dedup_sublist _).length_le
  have hsubset : calls.dedup ⊆ key :: (others key calls).dedup := by
    intro x hx
    by_cases h : x = key
    · exact h ▸ List.mem_cons_self
    · exact List.mem_cons_of_mem key
        (List.mem_dedup.mpr (mem_others.mpr ⟨List.mem_dedup.mp hx, h⟩))
  have hle := (List.subperm_of_subset calls.nodup_dedup hsubset).length_le
  have hlength := length_others key calls
  rw [List.length_cons] at hle
  omega

theorem count_concat (calls : List κ) (key other : κ) :
    (calls ++ [key]).count other = calls.count other + if other = key then 1 else 0 := by
  rw [List.count_append, List.count_singleton]
  by_cases h : other = key
  · simp [h]
  · simp [h, Ne.symm h]

theorem dedup_others_concat (calls : List κ) (key other : κ) :
    (others other calls).dedup.length ≤ (others other (calls ++ [key])).dedup.length := by
  refine (List.subperm_of_subset (List.nodup_dedup _) fun x hx => ?_).length_le
  rw [List.mem_dedup, mem_others] at hx ⊢
  exact ⟨List.mem_append_left _ hx.1, hx.2⟩

/-! ## What a call does -/

/-- One more call of a key, before any key goes. -/
def bump (top : ℕ) (map : KeyedMap κ ℕ) (key : κ) : KeyedMap κ ℕ :=
  map.insert key (min ((map.lookup key).getD 0 + 1) top)

theorem lookup_bump (top : ℕ) (map : KeyedMap κ ℕ) (key other : κ) :
    (bump top map key).lookup other =
      if other = key then some (min ((map.lookup key).getD 0 + 1) top) else map.lookup other := by
  by_cases h : other = key
  · rw [if_pos h, h, bump, AList.lookup_insert]
  · rw [if_neg h, bump, AList.lookup_insert_ne h]

theorem length_bump_of_mem {top : ℕ} {map : KeyedMap κ ℕ} {key : κ} {count : ℕ}
    (h : map.lookup key = some count) :
    (bump top map key).entries.length = map.entries.length := by
  rw [bump, KeyedMap.length_entries_insert, KeyedMap.length_entries_erase h]

theorem length_bump_of_not_mem (top : ℕ) {map : KeyedMap κ ℕ} {key : κ}
    (h : map.lookup key = none) :
    (bump top map key).entries.length = map.entries.length + 1 := by
  rw [bump, KeyedMap.length_entries_insert, KeyedMap.erase_of_lookup_eq_none h]

/-- A map of at most `capacity` keys, each of which counts something. -/
structure Bounded (capacity : ℕ) (map : KeyedMap κ ℕ) : Prop where
  length : map.entries.length ≤ capacity
  pos : ∀ key count, map.lookup key = some count → 0 < count

theorem Bounded.bump_pos {capacity top : ℕ} (htop : 0 < top) {map : KeyedMap κ ℕ}
    (h : Bounded capacity map) (key : κ) {other : κ} {count : ℕ}
    (hother : (bump top map key).lookup other = some count) : 0 < count := by
  rw [lookup_bump] at hother
  by_cases hkey : other = key
  · rw [if_pos hkey, Option.some.injEq] at hother
    omega
  · rw [if_neg hkey] at hother
    exact h.pos other count hother

/-- What a call leaves: all keys with the one that is called, or, when the map was full without
it, all but one key that had been counted once. -/
inductive Called (capacity top : ℕ) (map : KeyedMap κ ℕ) (key : κ) (after : KeyedMap κ ℕ) : Prop
  | kept (length : after.entries.length ≤ capacity)
      (lookup : ∀ other, after.lookup other = (bump top map key).lookup other)
  | removed (gone : κ) (absent : map.lookup key = none) (length : after.entries.length = capacity)
      (once : (bump top map key).lookup gone = some 1)
      (lookup : ∀ other, after.lookup other =
        if other = gone then none else (bump top map key).lookup other)

/-! ## What the map says of the calls -/

/-- No count is too large, and one that is too small belongs to a key beside at least
`capacity` others. -/
structure Tracks (capacity top : ℕ) (calls : List κ) (map : KeyedMap κ ℕ) : Prop where
  bounded : Bounded capacity map
  le : ∀ key count, map.lookup key = some count → count ≤ calls.count key
  short : ∀ key, (map.lookup key).getD 0 < min (calls.count key) top →
    capacity ≤ (others key calls).dedup.length

theorem tracks_nil (capacity top : ℕ) : Tracks capacity top ([] : List κ) ∅ where
  bounded := ⟨Nat.zero_le _, fun _ _ h => by simp at h⟩
  le := fun _ _ h => by simp at h
  short := fun _ h => by simp at h

namespace Tracks

variable {capacity top : ℕ} {calls : List κ} {map after : KeyedMap κ ℕ} {key : κ}

theorem bump_le (h : Tracks capacity top calls map) {other : κ} {count : ℕ}
    (hother : (bump top map key).lookup other = some count) :
    count ≤ (calls ++ [key]).count other := by
  rw [lookup_bump] at hother
  rw [count_concat]
  by_cases hkey : other = key
  · rw [if_pos hkey, Option.some.injEq] at hother
    rw [if_pos hkey, hkey, ← hother]
    cases hlookup : map.lookup key with
    | none => simp
    | some old =>
        have hle := h.le key old hlookup
        simp only [Option.getD_some]
        omega
  · rw [if_neg hkey] at hother
    rw [if_neg hkey]
    exact h.le other count hother

theorem bump_short (h : Tracks capacity top calls map) {other : κ}
    (hshort : ((bump top map key).lookup other).getD 0 <
      min ((calls ++ [key]).count other) top) :
    capacity ≤ (others other (calls ++ [key])).dedup.length := by
  refine le_trans (h.short other ?_) (dedup_others_concat calls key other)
  rw [lookup_bump, count_concat] at hshort
  by_cases hkey : other = key
  · rw [if_pos hkey, if_pos hkey, Option.getD_some] at hshort
    rw [hkey] at hshort ⊢
    omega
  · rwa [if_neg hkey, if_neg hkey, Nat.add_zero] at hshort

/-- The keys that are held have been called. -/
theorem mem_calls (h : Tracks capacity top calls map) {count : ℕ}
    (hkey : map.lookup key = some count) : key ∈ calls :=
  List.count_pos_iff.mp ((h.bounded.pos key count hkey).trans_le (h.le key count hkey))

theorem called (htop : 0 < top) (h : Tracks capacity top calls map)
    (hcalled : Called capacity top map key after) :
    Tracks capacity top (calls ++ [key]) after := by
  cases hcalled with
  | kept hlength hlookup =>
      refine ⟨⟨hlength, fun other count hother => ?_⟩, fun other count hother => ?_,
        fun other hshort => ?_⟩
      · exact h.bounded.bump_pos htop key (hlookup other ▸ hother)
      · exact h.bump_le (hlookup other ▸ hother)
      · exact h.bump_short (hlookup other ▸ hshort)
  | removed gone habsent hlength honce hlookup =>
      have hstays : ∀ other count, after.lookup other = some count →
          other ≠ gone ∧ (bump top map key).lookup other = some count := by
        intro other count hother
        rw [hlookup] at hother
        by_cases hgone : other = gone
        · rw [if_pos hgone] at hother
          cases hother
        · exact ⟨hgone, by rwa [if_neg hgone] at hother⟩
      refine ⟨⟨hlength.le, fun other count hother => ?_⟩, fun other count hother => ?_,
        fun other hshort => ?_⟩
      · exact h.bounded.bump_pos htop key (hstays other count hother).2
      · exact h.bump_le (hstays other count hother).2
      · by_cases hgone : other = gone
        · -- The keys that stay are others that have been called.
          rw [hgone, ← hlength, ← List.length_map Sigma.fst]
          refine (List.subperm_of_subset after.nodupKeys fun x hx => ?_).length_le
          obtain ⟨count, hx⟩ := (KeyedMap.mem_keys_iff after x).mp hx
          obtain ⟨hne, hbump⟩ := hstays x count hx
          refine List.mem_dedup.mpr (mem_others.mpr ⟨List.count_pos_iff.mp ?_, hne⟩)
          exact (h.bounded.bump_pos htop key hbump).trans_le (h.bump_le hbump)
        · rw [hlookup, if_neg hgone] at hshort
          exact h.bump_short hshort

/-- A key that makes up more than half of the calls and is not in the map has been called more
often than the map holds keys. -/
theorem capacity_lt_count (htop : 0 < top) (h : Tracks capacity top calls map)
    (hmajority : calls.length < 2 * calls.count key) (habsent : map.lookup key = none) :
    capacity < calls.count key := by
  have hothers := length_others key calls
  have hdistinct := (List.dedup_sublist (others key calls)).length_le
  have hshort := h.short key (by
    rw [habsent, Option.getD_none]
    exact lt_min (by omega) htop)
  omega

/-- As long as no more keys have been called than the map holds, it holds them all. -/
theorem exists_lookup_of_mem (htop : 0 < top) (h : Tracks capacity top calls map)
    (hfew : calls.dedup.length ≤ capacity) (hkey : key ∈ calls) :
    ∃ count, map.lookup key = some count := by
  cases hlookup : map.lookup key with
  | some count => exact ⟨count, rfl⟩
  | none =>
      have hshort := h.short key (by
        rw [hlookup, Option.getD_none]
        exact lt_min (List.count_pos_iff.mpr hkey) htop)
      have hnodup : (key :: (others key calls).dedup).Nodup :=
        List.nodup_cons.mpr ⟨fun hmem => (mem_others.mp (List.mem_dedup.mp hmem)).2 rfl,
          List.nodup_dedup _⟩
      have hsubset : key :: (others key calls).dedup ⊆ calls.dedup := by
        intro x hx
        rcases List.mem_cons.mp hx with rfl | hx
        · exact List.mem_dedup.mpr hkey
        · exact List.mem_dedup.mpr (mem_others.mp (List.mem_dedup.mp hx)).1
      have hle := (List.subperm_of_subset hnodup hsubset).length_le
      rw [List.length_cons] at hle
      omega

/-- When no count is full, a key that makes up more than half of the calls and lacks fewer of
them than the map holds keys counts more than any other. -/
theorem count_lt (h : Tracks capacity top calls map) (hlength : calls.length ≤ top)
    (hmajority : calls.length < 2 * calls.count key) {count : ℕ}
    (hkey : map.lookup key = some count) (hlack : calls.count key < count + capacity)
    {other : κ} (hother : other ≠ key) {n : ℕ} (hn : map.lookup other = some n) : n < count := by
  have hle := h.le other n hn
  have hothers := length_others key calls
  have hcount : calls.count other = (others key calls).count other := by
    rw [others, List.count_filter (by simpa using hother)]
  have hdistinct := count_add_dedup_le (others key calls) other
  have hfew := calls.count_le_length (a := other)
  by_cases hexact : calls.count key ≤ count
  · have hown := List.count_le_length (a := other) (l := others key calls)
    omega
  · have hkeycount := calls.count_le_length (a := key)
    have hshort := h.short key (by
      rw [hkey, Option.getD_some]
      exact lt_min (by omega) (by omega))
    omega

end Tracks

/-! ## Calls that find their key -/

/-- A call of a key that the map holds, or that has been called fewer than `capacity` times. -/
def Remembered (capacity : ℕ) (calls : List κ) (map : KeyedMap κ ℕ) (key : κ) : Prop :=
  key ∈ map ∨ calls.count key < capacity

/-- A key that the map does not hold has been called at most `capacity` times, and one that it
holds lacks fewer calls, unless its count is full. -/
structure Recalls (capacity top : ℕ) (calls : List κ) (map : KeyedMap κ ℕ) : Prop where
  absent : ∀ key, map.lookup key = none → calls.count key ≤ capacity
  held : ∀ key count, map.lookup key = some count →
    calls.count key < count + capacity ∨ count = top

theorem recalls_nil (capacity top : ℕ) : Recalls capacity top ([] : List κ) ∅ where
  absent := fun _ _ => Nat.zero_le _
  held := fun _ _ h => by simp at h

namespace Recalls

variable {capacity top : ℕ} {calls : List κ} {map after : KeyedMap κ ℕ} {key : κ}

/-- The bound of `held`, for the keys before one goes. -/
theorem bump_lack (htop : 0 < top) (h : Recalls capacity top calls map)
    (hremembered : Remembered capacity calls map key) {other : κ} {count : ℕ}
    (hother : (bump top map key).lookup other = some count) :
    (calls ++ [key]).count other < count + capacity ∨ count = top := by
  rw [lookup_bump] at hother
  rw [count_concat]
  by_cases hkey : other = key
  · rw [if_pos hkey, Option.some.injEq] at hother
    rw [if_pos hkey, hkey]
    cases hlookup : map.lookup key with
    | none =>
        have hfew : calls.count key < capacity := by
          rcases hremembered with hmem | hfew
          · rw [← AList.lookup_isSome, hlookup] at hmem
            cases hmem
          · exact hfew
        rw [hlookup, Option.getD_none] at hother
        omega
    | some old =>
        rw [hlookup, Option.getD_some] at hother
        rcases h.held key old hlookup with hlack | hfull
        · omega
        · omega
  · rw [if_neg hkey] at hother
    rw [if_neg hkey]
    exact h.held other count hother

theorem called (htop : 1 < top) (h : Recalls capacity top calls map)
    (hremembered : Remembered capacity calls map key)
    (hcalled : Called capacity top map key after) :
    Recalls capacity top (calls ++ [key]) after := by
  have habsent : ∀ other, (bump top map key).lookup other = none →
      (calls ++ [key]).count other ≤ capacity := by
    intro other hother
    rw [lookup_bump] at hother
    rw [count_concat]
    by_cases hkey : other = key
    · rw [if_pos hkey] at hother
      cases hother
    · rw [if_neg hkey] at hother ⊢
      exact h.absent other hother
  cases hcalled with
  | kept hlength hlookup =>
      exact ⟨fun other hother => habsent other (hlookup other ▸ hother),
        fun other count hother =>
          h.bump_lack (Nat.zero_lt_of_lt htop) hremembered (hlookup other ▸ hother)⟩
  | removed gone hnew hlength honce hlookup =>
      refine ⟨fun other hother => ?_, fun other count hother => ?_⟩
      · rw [hlookup] at hother
        by_cases hgone : other = gone
        · -- What goes counts one, and lacked fewer calls than the map holds keys.
          rw [hgone]
          rcases h.bump_lack (Nat.zero_lt_of_lt htop) hremembered honce with hlack | hfull
          · omega
          · omega
        · rw [if_neg hgone] at hother
          exact habsent other hother
      · rw [hlookup] at hother
        by_cases hgone : other = gone
        · rw [if_pos hgone] at hother
          cases hother
        · rw [if_neg hgone] at hother
          exact h.bump_lack (Nat.zero_lt_of_lt htop) hremembered hother

end Recalls

/-! ## The smallest count goes -/

variable [LinearOrder κ]

/-- The key with the smallest count, of several the first. -/
def least (map : KeyedMap κ ℕ) : Option κ :=
  ((map.entries.map fun entry => toLex (entry.2, entry.1)).min?).map fun least => (ofLex least).2

/-- A call of a key. -/
def step (capacity top : ℕ) (map : KeyedMap κ ℕ) (key : κ) : KeyedMap κ ℕ :=
  if capacity < (bump top map key).entries.length then
    match least (bump top map key) with
    | some removed => (bump top map key).erase removed
    | none => bump top map key
  else bump top map key

/-- The counters after a list of calls. -/
def run (capacity top : ℕ) (calls : List κ) : KeyedMap κ ℕ :=
  calls.foldl (step capacity top) ∅

omit [DecidableEq κ] in
theorem least_eq {map : KeyedMap κ ℕ} {key : κ} {count : ℕ} (hkey : ⟨key, count⟩ ∈ map.entries)
    (hleast : ∀ entry ∈ map.entries, toLex (count, key) ≤ toLex (entry.2, entry.1)) :
    least map = some key := by
  have hmin : (map.entries.map fun entry => toLex (entry.2, entry.1)).min? =
      some (toLex (count, key)) := by
    refine List.min?_eq_some_iff.mpr ⟨List.mem_map_of_mem hkey, fun pair hpair => ?_⟩
    obtain ⟨entry, hentry, rfl⟩ := List.mem_map.mp hpair
    exact hleast entry hentry
  rw [least, hmin]
  rfl

omit [DecidableEq κ] in
/-- A map with an entry has a key with the smallest count. -/
theorem exists_least {map : KeyedMap κ ℕ} (hne : map.entries ≠ []) :
    ∃ key count, least map = some key ∧ ⟨key, count⟩ ∈ map.entries ∧
      ∀ entry ∈ map.entries, count ≤ entry.2 := by
  obtain ⟨pair, hpair⟩ := Option.isSome_iff_exists.mp (List.isSome_min?_of_ne_nil
    (l := map.entries.map fun entry => toLex (entry.2, entry.1)) (by simpa using hne))
  obtain ⟨hmem, hle⟩ := List.min?_eq_some_iff.mp hpair
  obtain ⟨entry, hentry, rfl⟩ := List.mem_map.mp hmem
  refine ⟨entry.1, entry.2, ?_, hentry, fun other hother => ?_⟩
  · rw [least, hpair]
    rfl
  · rcases Prod.Lex.toLex_le_toLex.mp (hle _ (List.mem_map_of_mem hother)) with hlt | heq
    · exact hlt.le
    · exact heq.1.le

theorem called_step {capacity top : ℕ} (htop : 0 < top) {map : KeyedMap κ ℕ}
    (h : Bounded capacity map) (key : κ) :
    Called capacity top map key (step capacity top map key) := by
  by_cases hroom : (bump top map key).entries.length ≤ capacity
  · have hstep : step capacity top map key = bump top map key := if_neg (by omega)
    rw [hstep]
    exact .kept hroom fun _ => rfl
  · have habsent : map.lookup key = none := by
      cases hlookup : map.lookup key with
      | none => rfl
      | some count =>
          rw [length_bump_of_mem hlookup] at hroom
          exact absurd h.length hroom
    have hlength := length_bump_of_not_mem top habsent
    have hfull := h.length
    obtain ⟨gone, count, hgone, hentry, hleast⟩ := exists_least
      (List.length_pos_iff.mp (by omega : 0 < (bump top map key).entries.length))
    have hcount := (KeyedMap.mem_entries_iff (bump top map key) gone count).mp hentry
    -- The called key counts one, so the smallest count is one.
    have hone : count = 1 := by
      have hnew : (bump top map key).lookup key = some (min (0 + 1) top) := by
        rw [lookup_bump, if_pos rfl, habsent]
        rfl
      have hle := hleast _ ((KeyedMap.mem_entries_iff _ key _).mpr hnew)
      have hpos := h.bump_pos htop key hcount
      simp only at hle
      omega
    have hstep : step capacity top map key = (bump top map key).erase gone := by
      rw [step, if_pos (by omega), hgone]
    have herase := KeyedMap.length_entries_erase hcount
    rw [hstep]
    refine .removed gone habsent (by omega) (hone ▸ hcount) fun other => ?_
    by_cases hother : other = gone
    · rw [if_pos hother, hother, AList.lookup_erase]
    · rw [if_neg hother, AList.lookup_erase_ne hother]

/-! ## Runs -/

@[simp] theorem run_nil (capacity top : ℕ) : run capacity top ([] : List κ) = ∅ := rfl

@[simp] theorem run_concat (capacity top : ℕ) (calls : List κ) (key : κ) :
    run capacity top (calls ++ [key]) = step capacity top (run capacity top calls) key := by
  simp [run]

theorem tracks_run {capacity top : ℕ} (htop : 0 < top) (calls : List κ) :
    Tracks capacity top calls (run capacity top calls) := by
  induction calls using List.reverseRecOn with
  | nil => exact tracks_nil capacity top
  | append_singleton calls key ih =>
      rw [run_concat]
      exact ih.called htop (called_step htop ih.bounded key)

/-- Every call of a run finds its key in the map, or called fewer than `capacity` times. -/
def AllRemembered (capacity top : ℕ) (calls : List κ) : Prop :=
  ∀ before key after, calls = before ++ key :: after →
    Remembered capacity before (run capacity top before) key

theorem AllRemembered.of_concat {capacity top : ℕ} {calls : List κ} {key : κ}
    (h : AllRemembered capacity top (calls ++ [key])) :
    AllRemembered capacity top calls ∧ Remembered capacity calls (run capacity top calls) key := by
  constructor
  · rintro before called after rfl
    exact h before called (after ++ [key]) (by simp)
  · exact h calls key [] rfl

theorem recalls_run {capacity top : ℕ} (htop : 1 < top) {calls : List κ}
    (h : AllRemembered capacity top calls) :
    Recalls capacity top calls (run capacity top calls) := by
  induction calls using List.reverseRecOn with
  | nil => exact recalls_nil capacity top
  | append_singleton calls key ih =>
      rw [run_concat]
      exact (ih h.of_concat.1).called htop h.of_concat.2 (called_step (Nat.zero_lt_of_lt htop)
        (tracks_run (Nat.zero_lt_of_lt htop) calls).bounded key)

/-- A key that makes up more than half of the calls is held. -/
theorem mem_run_of_majority {capacity top : ℕ} (htop : 1 < top) {calls : List κ}
    (h : AllRemembered capacity top calls) {key : κ}
    (hmajority : calls.length < 2 * calls.count key) :
    ∃ count, (run capacity top calls).lookup key = some count := by
  cases hlookup : (run capacity top calls).lookup key with
  | some count => exact ⟨count, rfl⟩
  | none =>
      have hmore := (tracks_run (Nat.zero_lt_of_lt htop) calls).capacity_lt_count
        (Nat.zero_lt_of_lt htop) hmajority hlookup
      have hfew := (recalls_run htop h).absent key hlookup
      omega

end BoundedCounters
