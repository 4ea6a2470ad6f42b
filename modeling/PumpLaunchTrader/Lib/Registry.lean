import Mathlib.Data.List.Dedup
import PumpLaunchTrader.Lib.Ranks

/-! # Registries of merged entries

A registry has one entry for each key, in the order of the keys. What comes in for a key is
merged into the entry that is there. Where the merge is associative, it does not matter how the
entries of a registry were put together before they came in. -/

namespace Registry

/-! ## Merging values -/

section Values

variable {β : Type*} [DecidableEq β] {blank x y z : β}

/-- What comes in replaces what is there, unless it is blank. -/
def prefer (blank existing incoming : β) : β :=
  if incoming = blank then existing else incoming

@[simp] theorem prefer_self (x : β) : prefer blank x x = x := by
  unfold prefer
  split <;> rfl

theorem prefer_assoc :
    prefer blank (prefer blank x y) z = prefer blank x (prefer blank y z) := by
  unfold prefer
  by_cases hz : z = blank
  · simp [hz]
  · simp [hz]

/-- What comes in once more changes nothing. -/
theorem prefer_again : prefer blank (prefer blank x y) y = prefer blank x y := by
  rw [prefer_assoc, prefer_self]

theorem prefer_of_blank (h : y = blank) : prefer blank x y = x := if_pos h

theorem prefer_of_ne (h : y ≠ blank) : prefer blank x y = y := if_neg h

/-- What comes in replaces what is there, unless it is blank or of a lower rank. -/
def stronger (rank : β → ℕ) (blank existing incoming : β) : β :=
  if rank incoming < rank existing then existing
  else if incoming = blank then existing
  else incoming

variable {rank : β → ℕ}

@[simp] theorem stronger_self (x : β) : stronger rank blank x x = x := by
  unfold stronger
  split
  · rfl
  · split <;> rfl

theorem stronger_eq (x y : β) : stronger rank blank x y =
    if rank y < rank x ∨ y = blank then x else y := by
  unfold stronger
  split
  · rename_i hlt
    rw [if_pos (Or.inl hlt)]
  · rename_i hle
    simp only [hle, false_or]

theorem stronger_assoc (hblank : ∀ x, rank blank ≤ rank x) :
    stronger rank blank (stronger rank blank x y) z =
      stronger rank blank x (stronger rank blank y z) := by
  by_cases hy : y = blank
  · subst hy
    have hz := hblank z
    by_cases hzb : z = y
    · subst hzb
      simp [stronger]
    · simp [stronger, hzb, not_lt.mpr hz]
  · by_cases hz : z = blank
    · subst hz
      have hx := hblank x
      simp [stronger]
    · unfold stronger
      simp only [hy, hz, if_false]
      split_ifs <;> first | rfl | omega

theorem stronger_again (hblank : ∀ x, rank blank ≤ rank x) :
    stronger rank blank (stronger rank blank x y) y = stronger rank blank x y := by
  rw [stronger_assoc hblank, stronger_self]

end Values

/-- Lists are united to one in order that names each of its items once. -/
def union {β : Type*} [LinearOrder β] (keep : β → Bool) (existing incoming : List β) : List β :=
  ((existing ++ incoming).filter keep).dedup.insertionSort (· ≤ ·)

section Union

variable {β : Type*} [LinearOrder β] {keep : β → Bool} {xs ys zs : List β}

theorem mem_union {x : β} : x ∈ union keep xs ys ↔ (x ∈ xs ∨ x ∈ ys) ∧ keep x = true := by
  simp [union, or_and_right]

theorem pairwise_union : (union keep xs ys).Pairwise (· < ·) := by
  have hnodup : (union keep xs ys).Nodup :=
    (List.perm_insertionSort _ _).nodup_iff.mpr (List.nodup_dedup _)
  exact (List.pairwise_insertionSort (· ≤ ·) _).and hnodup |>.imp fun h => lt_of_le_of_ne h.1 h.2

/-- Lists in order that name their items once are the same when they name the same ones. -/
theorem eq_of_mem_iff (hx : xs.Pairwise (· < ·)) (hy : ys.Pairwise (· < ·))
    (h : ∀ x, x ∈ xs ↔ x ∈ ys) : xs = ys := by
  have hperm := (List.perm_ext_iff_of_nodup (hx.imp ne_of_lt) (hy.imp ne_of_lt)).mpr h
  exact hperm.eq_of_pairwise (fun a b _ _ hab hba => absurd hab (lt_asymm hba)) hx hy

theorem union_assoc :
    union keep (union keep xs ys) zs = union keep xs (union keep ys zs) := by
  refine eq_of_mem_iff pairwise_union pairwise_union fun x => ?_
  simp only [mem_union]
  tauto

theorem union_again : union keep (union keep xs ys) ys = union keep xs ys := by
  refine eq_of_mem_iff pairwise_union pairwise_union fun x => ?_
  simp only [mem_union]
  tauto

end Union

/-! ## Entries -/

variable {α κ : Type*} [LinearOrder κ]

/-- The entry of a key. -/
def entryAt (key : α → κ) (k : κ) (entries : List α) : Option α :=
  entries.find? fun entry => key entry = k

/-- What comes in is merged into the first entry with its key. -/
def replace (key : α → κ) (merge : α → α → α) (incoming : α) : List α → List α
  | [] => []
  | first :: entries =>
    if key first = key incoming then merge first incoming :: entries
    else first :: replace key merge incoming entries

/-- What comes in is merged into the entry with its key, or takes its place among the others. -/
def upsert (key : α → κ) (merge : α → α → α) (entries : List α) (incoming : α) : List α :=
  if entries.any fun entry => key entry = key incoming then replace key merge incoming entries
  else (entries ++ [incoming]).insertionSort fun left right => key left ≤ key right

/-- All entries of another list come in, one after the other. -/
def absorb (key : α → κ) (merge : α → α → α) (entries incoming : List α) : List α :=
  incoming.foldl (upsert key merge) entries

/-- One entry for each key, in order. -/
def Ordered (key : α → κ) (entries : List α) : Prop :=
  entries.Pairwise fun left right => key left < key right

variable {key : α → κ} {merge : α → α → α} {entries incoming : List α} {entry : α}

theorem entryAt_eq_some_iff (h : Ordered key entries) {k : κ} :
    entryAt key k entries = some entry ↔ entry ∈ entries ∧ key entry = k := by
  unfold entryAt
  constructor
  · intro hfind
    exact ⟨List.mem_of_find?_eq_some hfind, by simpa using List.find?_some hfind⟩
  · rintro ⟨hmem, rfl⟩
    induction entries with
    | nil => cases hmem
    | cons first entries ih =>
        obtain ⟨hfirst, hrest⟩ := List.pairwise_cons.mp h
        rcases List.mem_cons.mp hmem with rfl | hmem
        · simp
        · rw [List.find?_cons_of_neg (by simpa using (hfirst entry hmem).ne)]
          exact ih hrest hmem

theorem entryAt_eq_none_iff {k : κ} :
    entryAt key k entries = none ↔ ∀ entry ∈ entries, key entry ≠ k := by
  simp [entryAt]

/-! ## Coming in -/

variable (hkeep : ∀ x y, key x = key y → key (merge x y) = key y)
include hkeep

theorem map_key_replace : (replace key merge entry entries).map key = entries.map key := by
  induction entries with
  | nil => rfl
  | cons first entries ih =>
      unfold replace
      split
      · rename_i hkey
        rw [List.map_cons, List.map_cons, hkeep first entry hkey, hkey]
      · rw [List.map_cons, List.map_cons, ih]

theorem entryAt_replace (k : κ) :
    entryAt key k (replace key merge entry entries) =
      if k = key entry then (entryAt key k entries).map (merge · entry)
      else entryAt key k entries := by
  induction entries with
  | nil => simp [replace, entryAt]
  | cons first entries ih =>
      unfold replace
      unfold entryAt at ih ⊢
      by_cases hfirst : key first = key entry
      · have hmerged := hkeep first entry hfirst
        by_cases hk : k = key entry
        · subst hk
          simp [hfirst, hmerged]
        · have hne : ¬key entry = k := fun h => hk h.symm
          simp [hfirst, hmerged, hk, hne]
      · by_cases hk : key first = k
        · subst hk
          simp [hfirst]
        · simp [hfirst, hk, ih]

theorem ordered_upsert (h : Ordered key entries) :
    Ordered key (upsert key merge entries entry) := by
  unfold upsert
  split
  · have hkeys : (entries.map key).Pairwise (· < ·) := List.pairwise_map.mpr h
    rw [← map_key_replace hkeep] at hkeys
    exact List.pairwise_map.mp hkeys
  · rename_i hnew
    have hdistinct : ((entries ++ [entry]).map key).Nodup := by
      rw [List.map_append, List.nodup_append]
      refine ⟨List.pairwise_map.mpr (h.imp ne_of_lt), by simp, ?_⟩
      simp only [List.map_cons, List.map_nil, List.mem_map, List.mem_singleton]
      rintro _ ⟨x, hx, rfl⟩ _ rfl heq
      exact hnew (List.any_eq_true.mpr ⟨x, hx, by simpa using heq⟩)
    exact Sorting.pairwise_insertionSort_key key (fun _ _ => Iff.rfl) hdistinct

/-- What comes in is found under its key, merged into what was there. -/
theorem entryAt_upsert (h : Ordered key entries) (k : κ) :
    entryAt key k (upsert key merge entries entry) =
      if k = key entry then Option.merge merge (entryAt key k entries) (some entry)
      else entryAt key k entries := by
  have hordered : Ordered key (upsert key merge entries entry) := ordered_upsert hkeep h
  unfold upsert at hordered ⊢
  split
  · rename_i hthere
    obtain ⟨x, hx, hkey⟩ := List.any_eq_true.mp hthere
    rw [entryAt_replace hkeep]
    split
    · rename_i hk
      cases hentry : entryAt key k entries with
      | none => exact absurd (of_decide_eq_true hkey) (hk ▸ entryAt_eq_none_iff.mp hentry x hx)
      | some existing => rfl
    · rfl
  · rename_i hnew
    rw [if_neg hnew] at hordered
    have hnone : entryAt key (key entry) entries = none := by
      refine entryAt_eq_none_iff.mpr fun x hx hkey => hnew ?_
      exact List.any_eq_true.mpr ⟨x, hx, decide_eq_true hkey⟩
    split
    · rename_i hk
      subst hk
      rw [hnone]
      exact (entryAt_eq_some_iff hordered).mpr ⟨by simp, rfl⟩
    · rename_i hk
      refine Option.ext fun x => ?_
      rw [entryAt_eq_some_iff hordered, entryAt_eq_some_iff h, List.mem_insertionSort,
        List.mem_append, List.mem_singleton]
      constructor
      · rintro ⟨hx | rfl, rfl⟩
        · exact ⟨hx, rfl⟩
        · exact absurd rfl hk
      · rintro ⟨hx, rfl⟩
        exact ⟨Or.inl hx, rfl⟩

theorem ordered_absorb (h : Ordered key entries) :
    Ordered key (absorb key merge entries incoming) := by
  induction incoming generalizing entries with
  | nil => exact h
  | cons first incoming ih => exact ih (ordered_upsert hkeep h)

/-- What is found under a key is what was there, with all that came in for it. -/
theorem entryAt_absorb (h : Ordered key entries) (k : κ) :
    entryAt key k (absorb key merge entries incoming) =
      (incoming.filter fun entry => key entry = k).foldl
        (fun found entry => Option.merge merge found (some entry)) (entryAt key k entries) := by
  induction incoming generalizing entries with
  | nil => rfl
  | cons first incoming ih =>
      have hfirst : absorb key merge entries (first :: incoming) =
          absorb key merge (upsert key merge entries first) incoming := rfl
      rw [hfirst, ih (ordered_upsert hkeep h), entryAt_upsert hkeep h]
      by_cases hk : key first = k
      · rw [if_pos hk.symm, List.filter_cons_of_pos (by simpa using hk), List.foldl_cons]
      · rw [if_neg (Ne.symm hk), List.filter_cons_of_neg (by simpa using hk)]

/-- A registry that comes in adds its entry to the one of each key. -/
theorem entryAt_absorb_ordered (h : Ordered key entries) (hincoming : Ordered key incoming)
    (k : κ) :
    entryAt key k (absorb key merge entries incoming) =
      Option.merge merge (entryAt key k entries) (entryAt key k incoming) := by
  rw [entryAt_absorb hkeep h]
  clear h
  induction incoming with
  | nil => cases entryAt key k entries <;> rfl
  | cons first incoming ih =>
      obtain ⟨hfirst, hrest⟩ := List.pairwise_cons.mp hincoming
      by_cases hk : key first = k
      · have hnone : (incoming.filter fun entry => key entry = k) = [] := by
          rw [List.filter_eq_nil_iff]
          intro x hx
          have hne := (hfirst x hx).ne'
          simpa [← hk] using hne
        have hfound : entryAt key k (first :: incoming) = some first := by
          simp [entryAt, hk]
        rw [List.filter_cons_of_pos (by simpa using hk), hnone, hfound]
        rfl
      · have hfound : entryAt key k (first :: incoming) = entryAt key k incoming := by
          simp [entryAt, hk]
        rw [List.filter_cons_of_neg (by simpa using hk), hfound]
        exact ih hrest

/-- Registries that come in one after the other add their entries to the one of each key. -/
theorem entryAt_foldl_absorb {parts : List (List α)} (h : Ordered key entries)
    (hparts : ∀ part ∈ parts, Ordered key part) (k : κ) :
    entryAt key k (parts.foldl (absorb key merge) entries) =
      (parts.map (entryAt key k)).foldl (Option.merge merge) (entryAt key k entries) := by
  induction parts generalizing entries with
  | nil => rfl
  | cons part parts ih =>
      obtain ⟨hpart, hrest⟩ := List.forall_mem_cons.mp hparts
      rw [List.foldl_cons, ih (ordered_absorb hkeep h) hrest,
        entryAt_absorb_ordered hkeep h hpart]
      rfl

omit hkeep

/-! ## What is kept -/

/-- Every entry is still there, under its key, and says at least what it said. -/
def Extends (key : α → κ) (le : α → α → Prop) (entries later : List α) : Prop :=
  ∀ k x, entryAt key k entries = some x → ∃ y, entryAt key k later = some y ∧ le x y

theorem Extends.refl {le : α → α → Prop} (hrefl : ∀ x, le x x) (entries : List α) :
    Extends key le entries entries :=
  fun _ x hx => ⟨x, hx, hrefl x⟩

theorem Extends.trans {le : α → α → Prop} (htrans : ∀ x y z, le x y → le y z → le x z)
    {second third : List α} (h : Extends key le entries second)
    (h' : Extends key le second third) : Extends key le entries third := by
  intro k x hx
  obtain ⟨y, hy, hxy⟩ := h k x hx
  obtain ⟨z, hz, hyz⟩ := h' k y hy
  exact ⟨z, hz, htrans x y z hxy hyz⟩

theorem extends_absorb {le : α → α → Prop} (hkeep : ∀ x y, key x = key y → key (merge x y) = key y)
    (hrefl : ∀ x, le x x) (htrans : ∀ x y z, le x y → le y z → le x z)
    (hle : ∀ x y, le x (merge x y)) (h : Ordered key entries) (incoming : List α) :
    Extends key le entries (absorb key merge entries incoming) := by
  intro k x hx
  rw [entryAt_absorb hkeep h, hx]
  have hfold : ∀ (rest : List α) (y : α), le x y → ∃ z,
      rest.foldl (fun found entry => Option.merge merge found (some entry)) (some y) = some z ∧
        le x z := by
    intro rest
    induction rest with
    | nil => exact fun y hy => ⟨y, rfl, hy⟩
    | cons first rest ih => exact fun y hy => ih (merge y first) (htrans x y _ hy (hle y first))
  exact hfold _ x (hrefl x)

theorem extends_foldl_absorb {le : α → α → Prop}
    (hkeep : ∀ x y, key x = key y → key (merge x y) = key y)
    (hrefl : ∀ x, le x x) (htrans : ∀ x y z, le x y → le y z → le x z)
    (hle : ∀ x y, le x (merge x y)) {parts : List (List α)} (h : Ordered key entries) :
    Extends key le entries (parts.foldl (absorb key merge) entries) := by
  induction parts generalizing entries with
  | nil => exact Extends.refl hrefl entries
  | cons part parts ih =>
      exact (extends_absorb hkeep hrefl htrans hle h part).trans htrans
        (ih (ordered_absorb hkeep h))

end Registry
