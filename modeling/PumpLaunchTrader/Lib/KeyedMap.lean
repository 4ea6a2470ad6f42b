import Mathlib.Data.List.AList
import Mathlib.Data.Multiset.Filter
import Mathlib.Algebra.Order.BigOperators.Group.List
import Mathlib.Algebra.Order.Group.Nat

/-! # Keyed maps

Association lists with unique keys, read as hash maps: one entry per key, and an
iteration order that the proofs never rely on. Mathlib's `AList` supplies lookup,
insertion and erasure; this file adds in-place updates, value maps, filters and
grouping folds. -/

/-- A map from keys `κ` to values `V`. -/
abbrev KeyedMap (κ : Type*) (V : Type*) := AList fun _ : κ => V

namespace KeyedMap

variable {κ V W : Type*} [DecidableEq κ]

/-! ## Operations -/

omit [DecidableEq κ] in
/-- The values in iteration order. -/
def values (m : KeyedMap κ V) : List V :=
  m.entries.map Sigma.snd

/-- Update the value at `k`, starting from `d` when the key is absent. -/
def upsert (m : KeyedMap κ V) (k : κ) (d : V) (f : V → V) : KeyedMap κ V :=
  m.insert k (f ((m.lookup k).getD d))

/-- Update the value at `k` when the key is present. -/
def adjust (m : KeyedMap κ V) (k : κ) (f : V → V) : KeyedMap κ V :=
  match m.lookup k with
  | some v => m.insert k (f v)
  | none => m

/-- Drop the entry at `k` when its value passes a test. -/
def eraseIf (test : V → Bool) (m : KeyedMap κ V) (k : κ) : KeyedMap κ V :=
  match m.lookup k with
  | some v => if test v then m.erase k else m
  | none => m

omit [DecidableEq κ] in
/-- Replace every value by its image. -/
def mapValues (m : KeyedMap κ V) (f : κ → V → W) : KeyedMap κ W where
  entries := m.entries.map fun e => ⟨e.1, f e.1 e.2⟩
  nodupKeys := by
    have h := m.nodupKeys
    unfold List.NodupKeys List.keys at h ⊢
    simpa [Function.comp_def] using h

/-! ## Lookups -/

theorem lookup_upsert (m : KeyedMap κ V) (k j : κ) (d : V) (f : V → V) :
    (m.upsert k d f).lookup j =
      if j = k then some (f ((m.lookup k).getD d)) else m.lookup j := by
  by_cases h : j = k
  · subst h
    simp [upsert]
  · simp [upsert, AList.lookup_insert_ne h, h]

@[simp] theorem lookup_upsert_self (m : KeyedMap κ V) (k : κ) (d : V) (f : V → V) :
    (m.upsert k d f).lookup k = some (f ((m.lookup k).getD d)) := by
  simp [lookup_upsert]

theorem lookup_upsert_ne (m : KeyedMap κ V) {k j : κ} (h : j ≠ k) (d : V) (f : V → V) :
    (m.upsert k d f).lookup j = m.lookup j := by
  simp [lookup_upsert, h]

theorem lookup_adjust (m : KeyedMap κ V) (k j : κ) (f : V → V) :
    (m.adjust k f).lookup j = if j = k then (m.lookup k).map f else m.lookup j := by
  unfold adjust
  cases hk : m.lookup k with
  | none =>
      by_cases h : j = k
      · subst h
        simp [hk]
      · simp [h]
  | some v =>
      by_cases h : j = k
      · subst h
        simp
      · simp [AList.lookup_insert_ne h, h]

@[simp] theorem lookup_adjust_self (m : KeyedMap κ V) (k : κ) (f : V → V) :
    (m.adjust k f).lookup k = (m.lookup k).map f := by
  simp [lookup_adjust]

theorem lookup_adjust_ne (m : KeyedMap κ V) {k j : κ} (h : j ≠ k) (f : V → V) :
    (m.adjust k f).lookup j = m.lookup j := by
  simp [lookup_adjust, h]

@[simp] theorem mem_adjust (m : KeyedMap κ V) (k j : κ) (f : V → V) :
    j ∈ m.adjust k f ↔ j ∈ m := by
  rw [← AList.lookup_isSome, ← AList.lookup_isSome, lookup_adjust]
  by_cases h : j = k
  · subst h
    simp
  · simp [h]

theorem lookup_eraseIf (test : V → Bool) (m : KeyedMap κ V) (k j : κ) :
    (m.eraseIf test k).lookup j =
      if j = k then (m.lookup k).filter fun v => !test v else m.lookup j := by
  unfold eraseIf
  cases hk : m.lookup k with
  | none =>
      by_cases h : j = k
      · subst h
        simp [hk]
      · simp [h]
  | some v =>
      by_cases h : j = k
      · subst h
        cases htest : test v with
        | false => simp [hk, htest, Option.filter]
        | true => simp [htest, Option.filter]
      · cases htest : test v with
        | false => simp [h, htest]
        | true => simp [h, htest, AList.lookup_erase_ne h]

/-- Dropping keys in turn leaves what none of them drops. -/
theorem lookup_foldl_eraseIf (test : V → Bool) (keys : List κ) (m : KeyedMap κ V) (k : κ) :
    (keys.foldl (eraseIf test) m).lookup k =
      if k ∈ keys then (m.lookup k).filter fun v => !test v else m.lookup k := by
  induction keys generalizing m with
  | nil => simp
  | cons key keys ih =>
      rw [List.foldl_cons, ih, lookup_eraseIf]
      by_cases h : k = key
      · subst h
        simp
      · simp [h]

theorem lookup_foldl_erase (keys : List κ) (m : KeyedMap κ V) (k : κ) :
    AList.lookup k (keys.foldl (fun m key => m.erase key) m) =
      if k ∈ keys then none else m.lookup k := by
  induction keys generalizing m with
  | nil => simp
  | cons key keys ih =>
      rw [List.foldl_cons, ih]
      by_cases h : k = key
      · subst h
        simp
      · simp [h]

/-- Entries of distinct keys are found in the map that they are stored in. -/
theorem lookup_foldl_insert {X : Type*} (key : X → κ) (value : X → V) {xs : List X}
    (hnodup : (xs.map key).Nodup) (m : KeyedMap κ V) (k : κ) :
    AList.lookup k (xs.foldl (fun m x => m.insert (key x) (value x)) m) =
      ((xs.find? fun x => key x = k).map value).or (m.lookup k) := by
  induction xs generalizing m with
  | nil => simp
  | cons x xs ih =>
      rw [List.map_cons, List.nodup_cons] at hnodup
      obtain ⟨hfresh, hrest⟩ := hnodup
      rw [List.foldl_cons, ih hrest]
      by_cases h : key x = k
      · have hnone : xs.find? (fun y => key y = k) = none := by
          rw [List.find?_eq_none]
          intro y hy heq
          exact hfresh (List.mem_map.mpr ⟨y, hy, by rw [h]; simpa using heq⟩)
        rw [hnone, List.find?_cons_of_pos (by simpa using h), ← h]
        simp
      · rw [List.find?_cons_of_neg (by simpa using h), AList.lookup_insert_ne (Ne.symm h)]

/-- An entry that is stored and, on a condition, dropped again. -/
theorem lookup_insert_unless (m : KeyedMap κ V) (k j : κ) (v : V) (p : Prop) [Decidable p] :
    AList.lookup j (if p then (m.insert k v).erase k else m.insert k v) =
      if j = k then if p then none else some v else m.lookup j := by
  by_cases hj : j = k
  · subst hj
    by_cases hp : p
    · simp [hp]
    · simp [hp]
  · by_cases hp : p
    · simp [hp, hj]
    · simp [hp, hj]

/-- What holds of the entries of a map and of a new one holds of all that follow. -/
theorem forall_lookup_insert {m : KeyedMap κ V} {P : κ → V → Prop}
    (h : ∀ j v, m.lookup j = some v → P j v) {k : κ} {v : V} (hnew : P k v) :
    ∀ j v', AList.lookup j (m.insert k v) = some v' → P j v' := by
  intro j v' hlookup
  by_cases hj : j = k
  · subst hj
    rw [AList.lookup_insert] at hlookup
    cases hlookup
    exact hnew
  · rw [AList.lookup_insert_ne hj] at hlookup
    exact h j v' hlookup

theorem dlookup_cons (l : List (Sigma fun _ : κ => V)) (e : Sigma fun _ : κ => V) (k : κ) :
    List.dlookup k (e :: l) = if k = e.1 then some e.2 else l.dlookup k := by
  obtain ⟨a, v⟩ := e
  by_cases h : k = a
  · subst h
    simp
  · rw [if_neg h]
    exact List.dlookup_cons_ne l ⟨a, v⟩ h

theorem dlookup_map_snd (l : List (Sigma fun _ : κ => V)) (f : κ → V → W) (k : κ) :
    (l.map fun e => (⟨e.1, f e.1 e.2⟩ : Sigma fun _ : κ => W)).dlookup k =
      (l.dlookup k).map (f k) := by
  induction l with
  | nil => rfl
  | cons e l ih =>
      rw [List.map_cons, dlookup_cons, dlookup_cons, ih]
      by_cases h : k = e.1
      · subst h
        simp
      · simp [h]

@[simp] theorem lookup_mapValues (m : KeyedMap κ V) (f : κ → V → W) (k : κ) :
    (m.mapValues f).lookup k = (m.lookup k).map (f k) :=
  dlookup_map_snd m.entries f k

/-! ## Membership of entries -/

theorem mem_entries_iff (m : KeyedMap κ V) (k : κ) (v : V) :
    (⟨k, v⟩ : Sigma fun _ : κ => V) ∈ m.entries ↔ m.lookup k = some v := by
  have h := List.mem_dlookup_iff m.nodupKeys (a := k) (b := v)
  rw [← h]
  rfl

theorem mem_values_iff (m : KeyedMap κ V) (v : V) :
    v ∈ m.values ↔ ∃ k, m.lookup k = some v := by
  simp only [values, List.mem_map]
  constructor
  · rintro ⟨⟨k, w⟩, hmem, rfl⟩
    exact ⟨k, (mem_entries_iff m k w).mp hmem⟩
  · rintro ⟨k, hk⟩
    exact ⟨⟨k, v⟩, (mem_entries_iff m k v).mpr hk, rfl⟩

theorem mem_keys_iff (m : KeyedMap κ V) (k : κ) :
    k ∈ m.keys ↔ ∃ v, m.lookup k = some v := by
  rw [← AList.mem_keys, ← AList.lookup_isSome, Option.isSome_iff_exists]

theorem eq_empty_of_lookup {m : KeyedMap κ V} (h : ∀ k, m.lookup k = none) : m = ∅ := by
  apply AList.ext
  apply List.eq_nil_iff_forall_not_mem.mpr
  rintro ⟨k, v⟩ hmem
  rw [mem_entries_iff, h] at hmem
  cases hmem

/-- A map that is empty off one key holds at most the value of that key. -/
theorem values_of_forall_ne {m : KeyedMap κ V} {k : κ} (h : ∀ j, j ≠ k → m.lookup j = none) :
    m.values = (m.lookup k).toList := by
  obtain ⟨entries, hnodup⟩ := m
  cases entries with
  | nil => rfl
  | cons e es =>
      obtain ⟨a, v⟩ := e
      have hkey : ∀ x ∈ (⟨a, v⟩ : Sigma fun _ : κ => V) :: es, x.1 = k := by
        intro x hx
        by_contra hne
        have hlookup := (mem_entries_iff ⟨_, hnodup⟩ x.1 x.2).mp hx
        rw [h x.1 hne] at hlookup
        cases hlookup
      have ha : a = k := hkey ⟨a, v⟩ (by simp)
      cases es with
      | nil =>
          subst ha
          simp [values, AList.lookup]
      | cons e' es =>
          have he' := hkey e' (by simp)
          rw [List.nodupKeys_cons] at hnodup
          refine absurd ?_ hnodup.1
          simp [List.keys, he', ha]

/-! ## Totals -/

theorem values_insert (m : KeyedMap κ V) (k : κ) (v : V) :
    values (m.insert k v) = v :: values (m.erase k) := by
  rw [values, AList.entries_insert, List.map_cons]
  rfl

theorem values_erase_sublist (m : KeyedMap κ V) (k : κ) :
    (values (m.erase k)).Sublist m.values :=
  (List.kerase_sublist k m.entries).map _

/-- The value at a key, in front of the values of the other entries. -/
theorem perm_values_of_lookup {m : KeyedMap κ V} {k : κ} {v : V} (h : m.lookup k = some v) :
    m.values.Perm (v :: values (m.erase k)) := by
  obtain ⟨entries, hnodup⟩ := m
  change entries.dlookup k = some v at h
  change (entries.map Sigma.snd).Perm (v :: (entries.kerase k).map Sigma.snd)
  induction entries with
  | nil => cases h
  | cons e entries ih =>
      rw [dlookup_cons] at h
      by_cases hk : k = e.1
      · rw [if_pos hk, Option.some.injEq] at h
        rw [List.kerase_cons_eq hk, List.map_cons, h]
      · rw [if_neg hk] at h
        rw [List.kerase_cons_ne hk, List.map_cons, List.map_cons]
        exact ((ih (List.nodupKeys_cons.mp hnodup).2 h).cons e.2).trans (.swap v e.2 _)

theorem erase_of_lookup_eq_none {m : KeyedMap κ V} {k : κ} (h : m.lookup k = none) :
    m.erase k = m := by
  apply AList.ext
  exact List.kerase_of_notMem_keys (AList.lookup_eq_none.mp h)

theorem length_entries_erase {m : KeyedMap κ V} {k : κ} {v : V} (h : m.lookup k = some v) :
    m.entries.length = (m.erase k).entries.length + 1 := by
  simpa [values] using (perm_values_of_lookup h).length_eq

theorem length_entries_insert (m : KeyedMap κ V) (k : κ) (v : V) :
    (m.insert k v).entries.length = (m.erase k).entries.length + 1 := by
  rw [AList.entries_insert, List.length_cons]
  rfl

section Totals

variable {M : Type*} [AddCommMonoid M]

theorem sum_values_insert (m : KeyedMap κ M) (k : κ) (v : M) :
    (values (m.insert k v)).sum = v + (values (m.erase k)).sum := by
  rw [values_insert, List.sum_cons]

/-- A total splits into the value at a key and the total of the other entries. -/
theorem sum_values_eq_lookup_add (m : KeyedMap κ M) (k : κ) :
    m.values.sum = (m.lookup k).getD 0 + (values (m.erase k)).sum := by
  cases h : m.lookup k with
  | none => rw [erase_of_lookup_eq_none h, Option.getD_none, zero_add]
  | some v => rw [(perm_values_of_lookup h).sum_eq, List.sum_cons, Option.getD_some]

/-- Adding to the value at a key adds to the total. -/
theorem sum_values_upsert_add (m : KeyedMap κ M) (k : κ) (c : M) :
    (m.upsert k 0 (· + c)).values.sum = m.values.sum + c := by
  rw [upsert, sum_values_insert, sum_values_eq_lookup_add m k, add_right_comm]

/-- The totals of groups add up to the total of all items when each group has one key. -/
theorem sum_groups {X : Type*} (key : X → κ) (worth : X → M) {keys : List κ}
    (hnodup : keys.Nodup) {xs : List X} (hkeys : ∀ x ∈ xs, key x ∈ keys) :
    (keys.map fun k => ((xs.filter fun x => key x = k).map worth).sum).sum =
      (xs.map worth).sum := by
  induction xs with
  | nil => simp
  | cons x xs ih =>
      have hrest := ih fun y hy => hkeys y (List.mem_cons_of_mem _ hy)
      have hsplit : ∀ k, (((x :: xs).filter fun y => key y = k).map worth).sum =
          (if key x = k then worth x else 0) +
            ((xs.filter fun y => key y = k).map worth).sum := by
        intro k
        by_cases h : key x = k
        · simp [h]
        · simp [h]
      have hself : (keys.map fun k => if key x = k then worth x else 0).sum = worth x := by
        rw [List.sum_map_eq_nsmul_single (key x) _ fun k hk _ => if_neg (Ne.symm hk),
          List.count_eq_one_of_mem hnodup (hkeys x List.mem_cons_self), if_pos rfl, one_nsmul]
      simp only [hsplit, List.sum_map_add, hself, hrest, List.map_cons, List.sum_cons]

end Totals

/-! ## Folds of updates in place -/

/-- Updating keys in turn applies to each entry as many updates as its key occurs. -/
theorem lookup_foldl_adjust (f : V → V) (ks : List κ) (m : KeyedMap κ V) (k : κ) :
    (ks.foldl (fun (m : KeyedMap κ V) j => m.adjust j f) m).lookup k =
      (m.lookup k).map f^[ks.count k] := by
  induction ks generalizing m with
  | nil => simp
  | cons j ks ih =>
      rw [List.foldl_cons, ih]
      by_cases h : k = j
      · subst h
        simp [Function.iterate_succ]
      · have hne : ¬ j = k := fun he => h he.symm
        simp [lookup_adjust_ne m h, hne]

/-! ## Grouping folds -/

/-- Folding updates over a list groups the list by key: the value found at `k` is the
fold of the elements with that key. -/
theorem lookup_foldl_upsert {X : Type*} (key : X → κ) (d : X → V) (f : X → V → V)
    (l : List X) (m : KeyedMap κ V) (k : κ) :
    (l.foldl (fun m x => m.upsert (key x) (d x) (f x)) m).lookup k =
      (l.filter fun x => key x = k).foldl
        (fun acc x => some (f x (acc.getD (d x)))) (m.lookup k) := by
  induction l generalizing m with
  | nil => rfl
  | cons x l ih =>
      rw [List.foldl_cons, ih]
      by_cases h : key x = k
      · subst h
        simp
      · have h' : k ≠ key x := fun he => h he.symm
        simp [h, lookup_upsert_ne m h']

/-- A measure that starts at 0 and grows by the weight of each element totals, at `k`, the
weights of the elements with that key. -/
theorem elim_lookup_foldl_upsert {X M : Type*} [AddCommMonoid M] (key : X → κ) (d : X → V)
    (f : X → V → V) (measure : V → M) (weight : X → M) (hd : ∀ x, measure (d x) = 0)
    (hf : ∀ x v, measure (f x v) = measure v + weight x) (l : List X) (k : κ) :
    ((l.foldl (fun (m : KeyedMap κ V) x => m.upsert (key x) (d x) (f x)) ∅).lookup k).elim 0
        measure =
      ((l.filter fun x => key x = k).map weight).sum := by
  have hfold : ∀ (xs : List X) (acc : Option V),
      (xs.foldl (fun acc x => some (f x (acc.getD (d x)))) acc).elim 0 measure =
        acc.elim 0 measure + (xs.map weight).sum := by
    intro xs
    induction xs with
    | nil =>
        intro acc
        simp
    | cons x xs ih =>
        intro acc
        rw [List.foldl_cons, ih, List.map_cons, List.sum_cons]
        cases acc with
        | none => simp [hf, hd]
        | some v => simp [hf, add_assoc]
  rw [lookup_foldl_upsert, hfold]
  simp

/-- A trait that the fold never rewrites is the one the group started with. -/
theorem trait_lookup_foldl_upsert {X A : Type*} (key : X → κ) (d : X → V) (f : X → V → V)
    (trait : V → A) (hf : ∀ x v, trait (f x v) = trait v) {l : List X} {k : κ}
    {a : A} (hd : ∀ x ∈ l, key x = k → trait (d x) = a) {v : V}
    (hv : (l.foldl (fun (m : KeyedMap κ V) x => m.upsert (key x) (d x) (f x)) ∅).lookup k =
      some v) :
    trait v = a := by
  have hfold : ∀ (xs : List X) (acc : Option V), (∀ x ∈ xs, trait (d x) = a) →
      (∀ w, acc = some w → trait w = a) →
      ∀ w, xs.foldl (fun acc x => some (f x (acc.getD (d x)))) acc = some w →
        trait w = a := by
    intro xs
    induction xs with
    | nil => exact fun acc _ hacc => hacc
    | cons x xs ih =>
        intro acc hxs hacc
        apply ih _ fun y hy => hxs y (List.mem_cons_of_mem x hy)
        intro w hw
        cases hw
        rw [hf]
        cases acc with
        | none => exact hxs x (by simp)
        | some u => exact hacc u rfl
  rw [lookup_foldl_upsert] at hv
  apply hfold _ _ _ _ v hv
  · intro x hx
    rw [List.mem_filter] at hx
    exact hd x hx.1 (by simpa using hx.2)
  · intro w hw
    cases hw

/-- The grouping has an entry at `k` exactly when some element has that key. -/
theorem isSome_lookup_foldl_upsert {X : Type*} (key : X → κ) (d : X → V) (f : X → V → V)
    (l : List X) (k : κ) :
    ((l.foldl (fun (m : KeyedMap κ V) x => m.upsert (key x) (d x) (f x)) ∅).lookup k).isSome =
      true ↔ ∃ x ∈ l, key x = k := by
  have hfold : ∀ (xs : List X) (acc : Option V),
      (xs.foldl (fun acc x => some (f x (acc.getD (d x)))) acc).isSome = true ↔
        acc.isSome = true ∨ xs ≠ [] := by
    intro xs
    induction xs with
    | nil => simp
    | cons x xs ih =>
        intro acc
        rw [List.foldl_cons, ih]
        simp
  rw [lookup_foldl_upsert, hfold]
  simp [List.filter_eq_nil_iff]

/-- Where steps on other keys are not seen at a key, and steps on it see nothing else, the fold
of a list is at that key the fold of its own elements. -/
theorem lookup_foldl_filter {X : Type*} {step : KeyedMap κ V → X → KeyedMap κ V} {k : κ}
    {own : X → Bool}
    (hother : ∀ m x, own x = false → (step m x).lookup k = m.lookup k)
    (hown : ∀ m m' x, own x = true → AList.lookup k m = AList.lookup k m' →
      (step m x).lookup k = (step m' x).lookup k)
    (l : List X) {m m' : KeyedMap κ V} (h : m.lookup k = m'.lookup k) :
    (l.foldl step m).lookup k = ((l.filter own).foldl step m').lookup k := by
  induction l generalizing m m' with
  | nil => exact h
  | cons x l ih =>
      rw [List.foldl_cons, List.filter_cons]
      cases hx : own x with
      | false => exact ih ((hother m x hx).trans h)
      | true => exact ih (hown m m' x hx h)

/-! ## Removals -/

/-- Entries are only removed, and those that are pass the test. -/
structure Removes (P : κ → Prop) (before after : KeyedMap κ V) : Prop where
  kept : ∀ k v, after.lookup k = some v → before.lookup k = some v
  removed : ∀ k, k ∈ before → k ∉ after → P k

namespace Removes

variable {P Q : κ → Prop} {first second third : KeyedMap κ V}

theorem refl (P : κ → Prop) (m : KeyedMap κ V) : Removes P m m :=
  ⟨fun _ _ h => h, fun _ hmem hnot => absurd hmem hnot⟩

theorem mono (h : Removes P first second) (himp : ∀ k, P k → Q k) : Removes Q first second :=
  ⟨h.kept, fun k hmem hnot => himp k (h.removed k hmem hnot)⟩

theorem trans (h : Removes P first second) (h' : Removes P second third) :
    Removes P first third where
  kept k v hv := h.kept k v (h'.kept k v hv)
  removed k hmem hnot := by
    by_cases hk : k ∈ second
    · exact h'.removed k hk hnot
    · exact h.removed k hmem hk

theorem erase {k : κ} (h : Removes P first second) (hk : P k) :
    Removes P first (second.erase k) := by
  refine h.trans ⟨fun j v hv => ?_, fun j hmem hnot => ?_⟩
  · by_cases hj : j = k
    · rw [hj, AList.lookup_erase] at hv
      cases hv
    · rwa [AList.lookup_erase_ne hj] at hv
  · by_cases hj : j = k
    · exact hj ▸ hk
    · exact absurd (AList.mem_erase.mpr ⟨hj, hmem⟩) hnot

theorem notMem {k : κ} (h : Removes P first second) (hk : k ∉ first) : k ∉ second := by
  intro hmem
  obtain ⟨v, hv⟩ := Option.isSome_iff_exists.mp (AList.lookup_isSome.mpr hmem)
  refine hk (AList.lookup_isSome.mp ?_)
  rw [h.kept k v hv]
  rfl

theorem values_subperm (h : Removes P first second) : second.values.Subperm first.values := by
  have hnodup : second.entries.Nodup := second.nodupKeys.nodup
  have hentries : second.entries.Subperm first.entries := by
    refine List.subperm_of_subset hnodup fun entry hentry => ?_
    rw [mem_entries_iff] at hentry ⊢
    exact h.kept entry.1 entry.2 hentry
  obtain ⟨entries, hperm, hsub⟩ := hentries
  exact ⟨entries.map Sigma.snd, hperm.map _, hsub.map _⟩

section Totals

variable {M : Type*} [AddCommMonoid M] [PartialOrder M] [IsOrderedAddMonoid M]
  [CanonicallyOrderedAdd M] {first second : KeyedMap κ M}

theorem sum_values_le (h : Removes P first second) : second.values.sum ≤ first.values.sum := by
  obtain ⟨values, hperm, hsub⟩ := h.values_subperm
  rw [← hperm.sum_eq]
  exact hsub.sum_le_sum fun _ _ => zero_le

/-- What is removed at a key is missing from the total. -/
theorem lookup_add_sum_values_le {k : κ} (h : Removes P first second) (hk : k ∉ second) :
    (first.lookup k).getD 0 + second.values.sum ≤ first.values.sum := by
  rw [sum_values_eq_lookup_add first k]
  refine add_le_add_right (sum_values_le (P := fun _ => True) ⟨fun j v hv => ?_, ?_⟩) _
  · have hj : j ≠ k := by
      rintro rfl
      rw [AList.lookup_eq_none.mpr hk] at hv
      cases hv
    rw [AList.lookup_erase_ne hj]
    exact h.kept j v hv
  · intros
    trivial

end Totals

end Removes

/-! ## Entries and their keys -/

variable {X : Type*}

/-- Of what the entries of a map give, an entry gives what has its key. -/
theorem filter_flatMap_entries (m : KeyedMap κ V) (key : X → κ) (give : κ → V → List X)
    (hkey : ∀ k v, m.lookup k = some v → ∀ x ∈ give k v, key x = k) (k : κ) :
    (m.entries.flatMap fun entry => give entry.1 entry.2).filter (fun x => key x = k) =
      ((m.lookup k).map (give k)).getD [] := by
  obtain ⟨entries, hnodup⟩ := m
  change _ = ((entries.dlookup k).map (give k)).getD []
  have hentry : ∀ entry ∈ entries, ∀ x ∈ give entry.1 entry.2, key x = entry.1 := by
    intro entry hmem x hx
    exact hkey entry.1 entry.2 ((mem_entries_iff ⟨entries, hnodup⟩ _ _).mp hmem) x hx
  clear hkey
  induction entries with
  | nil => rfl
  | cons entry entries ih =>
      have hrest := ih (List.nodupKeys_cons.mp hnodup).2
        fun other hother => hentry other (List.mem_cons_of_mem _ hother)
      have hown := hentry entry List.mem_cons_self
      rw [List.flatMap_cons, List.filter_append, hrest, dlookup_cons]
      by_cases hk : k = entry.1
      · have hnone : entries.dlookup k = none := by
          rw [List.dlookup_eq_none, hk]
          exact (List.nodupKeys_cons.mp hnodup).1
        have hall : (give entry.1 entry.2).filter (fun x => key x = k) =
            give entry.1 entry.2 := by
          rw [List.filter_eq_self]
          intro x hx
          exact decide_eq_true ((hown x hx).trans hk.symm)
        rw [if_pos hk, hnone, hall, hk]
        simp
      · have hempty : (give entry.1 entry.2).filter (fun x => key x = k) = [] := by
          rw [List.filter_eq_nil_iff]
          intro x hx heq
          exact hk ((of_decide_eq_true heq).symm.trans (hown x hx))
        rw [if_neg hk, hempty, List.nil_append]

/-- What has each key decides what there is. -/
theorem multiset_eq_of_keys {s t : Multiset X} (key : X → κ)
    (h : ∀ k, s.filter (fun x => key x = k) = t.filter (fun x => key x = k)) : s = t := by
  classical
  refine Multiset.ext.mpr fun x => ?_
  have hcount := congrArg (Multiset.count x) (h (key x))
  rwa [Multiset.count_filter_of_pos (p := fun y => key y = key x) rfl,
    Multiset.count_filter_of_pos (p := fun y => key y = key x) rfl] at hcount

theorem multiset_le_of_keys {s t : Multiset X} (key : X → κ)
    (h : ∀ k, s.filter (fun x => key x = k) ≤ t.filter (fun x => key x = k)) : s ≤ t := by
  classical
  refine Multiset.le_iff_count.mpr fun x => ?_
  have hcount := Multiset.le_iff_count.mp (h (key x)) x
  rwa [Multiset.count_filter_of_pos (p := fun y => key y = key x) rfl,
    Multiset.count_filter_of_pos (p := fun y => key y = key x) rfl] at hcount

end KeyedMap
