import PumpLaunchTrader.Engine.Clusters

/-! # The neighbour cache of the cluster index

The neighbours of a wallet are cached beside the edges. Along every run of recorded links the
cache holds what a scan of the edges finds, and the wallets of a common funder are the ends of
the edges that a funder gave evidence for. -/

namespace PumpLaunchTrader

/-! ## Pairs -/

theorem normalizePair_comm (a b : String) : normalizePair a b = normalizePair b a := by
  unfold normalizePair
  rcases lt_trichotomy a b with h | h | h
  · rw [if_pos h.le, if_neg h.not_ge]
  · rw [h]
  · rw [if_neg h.not_ge, if_pos h.le]

theorem normalizePair_eq_iff (a b c d : String) :
    normalizePair a b = normalizePair c d ↔ (a = c ∧ b = d) ∨ (a = d ∧ b = c) := by
  constructor
  · intro h
    rcases ClusterIndex.normalizePair_ends a b with hab | hab <;>
      rcases ClusterIndex.normalizePair_ends c d with hcd | hcd <;>
      rw [hab, hcd, Prod.mk.injEq] at h
    · exact Or.inl h
    · exact Or.inr h
    · exact Or.inr ⟨h.2, h.1⟩
    · exact Or.inl ⟨h.2, h.1⟩
  · rintro (⟨rfl, rfl⟩ | ⟨rfl, rfl⟩)
    · rfl
    · exact normalizePair_comm _ _

namespace ClusterIndex

/-! ## Recorded links -/

inductive Link where
  | sameFunder (left right : String)
  | samePayer (left right : String)

def record (self : ClusterIndex) : Link → ClusterIndex
  | .sameFunder left right => self.recordSameFunder left right
  | .samePayer left right => self.recordSamePayer left right

/-- The index without its cache, so that every neighbour is found by a scan. -/
def withoutCache (self : ClusterIndex) : ClusterIndex := { self with walletNeighbors := ∅ }

/-- Some link of two wallets was recorded. -/
def HasEdge (self : ClusterIndex) (a b : String) : Prop :=
  (self.edges.lookup (normalizePair a b)).isSome = true

/-- A link to which a funder gave evidence ends in the wallet. -/
def HasFunderEdge (self : ClusterIndex) (wallet : String) : Prop :=
  ∃ e ∈ self.edges.entries, (e.1.1 = wallet ∨ e.1.2 = wallet) ∧ 0 < e.2.sameFunderEdges

theorem hasEdge_comm (self : ClusterIndex) (a b : String) :
    self.HasEdge a b ↔ self.HasEdge b a := by
  rw [HasEdge, normalizePair_comm, HasEdge]

/-! ## The invariant -/

/-- The cache and the edges tell the same. -/
structure CacheAgrees (index : ClusterIndex) : Prop where
  cached : ∀ wallet other,
    other ∈ index.cached wallet ↔ other ≠ wallet ∧ index.HasEdge wallet other
  edges : ∀ pair evidence, index.edges.lookup pair = some evidence →
    normalizePair pair.1 pair.2 = pair ∧ 0 < evidence.confidence
  funders : ∀ wallet, wallet ∈ index.sameFunderWallets ↔ index.HasFunderEdge wallet

theorem cacheAgrees_default : CacheAgrees {} where
  cached wallet other := by
    refine ⟨fun h => absurd h (Finset.notMem_empty _), fun h => ?_⟩
    cases h.2
  edges _ _ h := by cases h
  funders wallet := by
    refine ⟨fun h => absurd h (Finset.notMem_empty _), ?_⟩
    rintro ⟨e, he, -⟩
    cases he

/-! ### A step on the edges -/

section Step

variable {before after : ClusterIndex} {left right : String}
  {add : ClusterEvidenceSummary → ClusterEvidenceSummary}

theorem hasEdge_upsert
    (hedges : after.edges = before.edges.upsert (normalizePair left right) {} add)
    (a b : String) :
    after.HasEdge a b ↔ normalizePair a b = normalizePair left right ∨ before.HasEdge a b := by
  unfold HasEdge
  rw [hedges, KeyedMap.lookup_upsert]
  by_cases hpair : normalizePair a b = normalizePair left right
  · simp [hpair]
  · simp [hpair]

/-- A cached row that gains the far end of a new edge. -/
theorem mem_insert_cached (h : before.CacheAgrees) {wallet far : String} (hfar : far ≠ wallet)
    (other : String) :
    other ∈ insert far (before.cached wallet) ↔
      other ≠ wallet ∧ (other = far ∨ before.HasEdge wallet other) := by
  rw [Finset.mem_insert, h.cached]
  constructor
  · rintro (rfl | hold)
    · exact ⟨hfar, Or.inl rfl⟩
    · exact ⟨hold.1, Or.inr hold.2⟩
  · rintro ⟨hne, hother | hedge⟩
    · exact Or.inl hother
    · exact Or.inr ⟨hne, hedge⟩

/-- The cache gains the two ends of the new edge, unless they are one wallet. -/
theorem cached_upsert (h : before.CacheAgrees)
    (hedges : after.edges = before.edges.upsert (normalizePair left right) {} add)
    (hneighbors : after.walletNeighbors = (before.recordNeighbors left right).walletNeighbors)
    (wallet other : String) :
    other ∈ after.cached wallet ↔ other ≠ wallet ∧ after.HasEdge wallet other := by
  have hcached : after.cached wallet = (before.recordNeighbors left right).cached wallet := by
    rw [cached, hneighbors, cached]
  rw [hcached, hasEdge_upsert hedges, normalizePair_eq_iff]
  by_cases hsame : left = right
  · subst hsame
    rw [recordNeighbors, if_pos rfl, h.cached]
    constructor
    · exact fun hold => ⟨hold.1, Or.inr hold.2⟩
    · rintro ⟨hne, (⟨rfl, rfl⟩ | ⟨rfl, rfl⟩) | hedge⟩
      · exact absurd rfl hne
      · exact absurd rfl hne
      · exact ⟨hne, hedge⟩
  · rw [cached_recordNeighbors _ hsame]
    by_cases hright : wallet = right
    · subst hright
      rw [if_pos rfl, mem_insert_cached h hsame]
      simp [Ne.symm hsame]
    · rw [if_neg hright]
      by_cases hleft : wallet = left
      · subst hleft
        rw [if_pos rfl, mem_insert_cached h (Ne.symm hsame)]
        simp [hsame]
      · rw [if_neg hleft, h.cached]
        simp [hleft, hright]

/-- Every edge is stored under its ordered pair with a positive confidence. -/
theorem edges_upsert (h : before.CacheAgrees)
    (hedges : after.edges = before.edges.upsert (normalizePair left right) {} add)
    (hadd : ∀ evidence, evidence.confidence < (add evidence).confidence)
    (pair : String × String) (evidence : ClusterEvidenceSummary)
    (hlookup : after.edges.lookup pair = some evidence) :
    normalizePair pair.1 pair.2 = pair ∧ 0 < evidence.confidence := by
  rw [hedges, KeyedMap.lookup_upsert] at hlookup
  split at hlookup
  · rename_i hpair
    cases hlookup
    constructor
    · rw [hpair]
      rcases normalizePair_ends left right with hends | hends
      · rw [hends]
        exact hends
      · rw [hends]
        exact (normalizePair_comm right left).trans hends
    · refine lt_of_le_of_lt ?_ (hadd _)
      cases hold : before.edges.lookup (normalizePair left right) with
      | none => exact le_rfl
      | some old => exact (h.edges _ old hold).2.le
  · exact h.edges pair evidence hlookup

/-- Evidence of a funder is found at the new edge, if it brings some, and where it was. -/
theorem hasFunderEdge_upsert
    (hedges : after.edges = before.edges.upsert (normalizePair left right) {} add)
    (hadd : ∀ evidence, evidence.sameFunderEdges ≤ (add evidence).sameFunderEdges)
    (wallet : String) :
    after.HasFunderEdge wallet ↔ before.HasFunderEdge wallet ∨
      (wallet = left ∨ wallet = right) ∧ 0 < (add ((before.edges.lookup
        (normalizePair left right)).getD {})).sameFunderEdges := by
  have hends : (normalizePair left right).1 = wallet ∨ (normalizePair left right).2 = wallet ↔
      wallet = left ∨ wallet = right := by
    rcases normalizePair_ends left right with h | h
    · simp only [h, eq_comm]
    · simp only [h, eq_comm, or_comm]
  constructor
  · rintro ⟨⟨pair, evidence⟩, hmem, hincident, hpositive⟩
    rw [KeyedMap.mem_entries_iff, hedges, KeyedMap.lookup_upsert] at hmem
    split at hmem
    · rename_i hpair
      cases hmem
      right
      rw [hpair] at hincident
      exact ⟨hends.mp hincident, hpositive⟩
    · exact Or.inl ⟨⟨pair, evidence⟩, (KeyedMap.mem_entries_iff _ _ _).mpr hmem, hincident,
        hpositive⟩
  · rintro (⟨⟨pair, evidence⟩, hmem, hincident, hpositive⟩ | ⟨hwallet, hpositive⟩)
    · rw [KeyedMap.mem_entries_iff] at hmem
      by_cases hpair : pair = normalizePair left right
      · subst hpair
        refine ⟨⟨normalizePair left right, add evidence⟩, ?_, hincident,
          lt_of_lt_of_le hpositive (hadd evidence)⟩
        rw [KeyedMap.mem_entries_iff, hedges, KeyedMap.lookup_upsert_self, hmem, Option.getD_some]
      · refine ⟨⟨pair, evidence⟩, ?_, hincident, hpositive⟩
        rw [KeyedMap.mem_entries_iff, hedges, KeyedMap.lookup_upsert_ne _ hpair, hmem]
    · refine ⟨⟨normalizePair left right, _⟩, ?_, hends.mpr hwallet, hpositive⟩
      rw [KeyedMap.mem_entries_iff, hedges, KeyedMap.lookup_upsert_self]

end Step

/-! ### Runs -/

@[simp] theorem edges_recordNeighbors (self : ClusterIndex) (left right : String) :
    (self.recordNeighbors left right).edges = self.edges := by
  unfold recordNeighbors
  split <;> rfl

@[simp] theorem sameFunderWallets_recordNeighbors (self : ClusterIndex) (left right : String) :
    (self.recordNeighbors left right).sameFunderWallets = self.sameFunderWallets := by
  unfold recordNeighbors
  split <;> rfl

/-- The new neighbours depend on the old ones alone. -/
theorem walletNeighbors_recordNeighbors_congr {a b : ClusterIndex}
    (h : a.walletNeighbors = b.walletNeighbors) (left right : String) :
    (a.recordNeighbors left right).walletNeighbors =
      (b.recordNeighbors left right).walletNeighbors := by
  unfold recordNeighbors
  split
  · exact h
  · rw [h]

theorem cacheAgrees_recordSameFunder {self : ClusterIndex} (h : self.CacheAgrees)
    (left right : String) : (self.recordSameFunder left right).CacheAgrees := by
  have hedges : (self.recordSameFunder left right).edges =
      self.edges.upsert (normalizePair left right) {} fun entry =>
        { entry with
          sameFunderEdges := entry.sameFunderEdges + 1
          confidence := entry.confidence + 10 / 100 } := by
    simp only [recordSameFunder, edges_recordNeighbors]
  have hneighbors : (self.recordSameFunder left right).walletNeighbors =
      (self.recordNeighbors left right).walletNeighbors := by
    simp only [recordSameFunder]
    apply walletNeighbors_recordNeighbors_congr
    rfl
  refine ⟨cached_upsert h hedges hneighbors,
    edges_upsert h hedges fun evidence => by norm_num, fun wallet => ?_⟩
  rw [hasFunderEdge_upsert hedges fun evidence => Nat.le_succ _, ← h.funders]
  simp only [recordSameFunder, sameFunderWallets_recordNeighbors, Finset.mem_insert]
  constructor
  · rintro (hright | hleft | hold)
    · exact Or.inr ⟨Or.inr hright, Nat.succ_pos _⟩
    · exact Or.inr ⟨Or.inl hleft, Nat.succ_pos _⟩
    · exact Or.inl hold
  · rintro (hold | ⟨hleft | hright, -⟩)
    · exact Or.inr (Or.inr hold)
    · exact Or.inr (Or.inl hleft)
    · exact Or.inl hright

theorem cacheAgrees_recordSamePayer {self : ClusterIndex} (h : self.CacheAgrees)
    (left right : String) : (self.recordSamePayer left right).CacheAgrees := by
  have hedges : (self.recordSamePayer left right).edges =
      self.edges.upsert (normalizePair left right) {} fun entry =>
        { entry with
          samePayerEdges := entry.samePayerEdges + 1
          confidence := entry.confidence + 15 / 100 } := by
    simp only [recordSamePayer, edges_recordNeighbors]
  have hneighbors : (self.recordSamePayer left right).walletNeighbors =
      (self.recordNeighbors left right).walletNeighbors := by
    simp only [recordSamePayer]
    apply walletNeighbors_recordNeighbors_congr
    rfl
  refine ⟨cached_upsert h hedges hneighbors,
    edges_upsert h hedges fun evidence => by norm_num, fun wallet => ?_⟩
  rw [hasFunderEdge_upsert hedges fun evidence => le_rfl, ← h.funders]
  simp only [recordSamePayer, sameFunderWallets_recordNeighbors]
  -- a payer brings no evidence of a funder, so some was there before
  refine ⟨Or.inl, ?_⟩
  rintro (hold | ⟨hwallet, hpositive⟩)
  · exact hold
  · rw [h.funders]
    cases hlookup : self.edges.lookup (normalizePair left right) with
    | none =>
        rw [hlookup] at hpositive
        cases hpositive
    | some evidence =>
        rw [hlookup] at hpositive
        refine ⟨⟨normalizePair left right, evidence⟩,
          (KeyedMap.mem_entries_iff _ _ _).mpr hlookup, ?_, hpositive⟩
        rcases normalizePair_ends left right with hends | hends <;> rw [hends] <;>
          rcases hwallet with rfl | rfl <;> simp

theorem cacheAgrees_record {self : ClusterIndex} (h : self.CacheAgrees) (link : Link) :
    (self.record link).CacheAgrees := by
  cases link with
  | sameFunder left right => exact cacheAgrees_recordSameFunder h left right
  | samePayer left right => exact cacheAgrees_recordSamePayer h left right

theorem cacheAgrees_run {self : ClusterIndex} (h : self.CacheAgrees) (links : List Link) :
    (links.foldl record self).CacheAgrees := by
  induction links generalizing self with
  | nil => exact h
  | cons link links ih => exact ih (cacheAgrees_record h link)

/-! ## What is read from the index -/

/-- A scan finds the other ends of the edges of a wallet. -/
theorem mem_scannedNeighbors_iff {self : ClusterIndex} (h : self.CacheAgrees)
    (wallet other : String) : other ∈ self.scannedNeighbors wallet ↔ self.HasEdge wallet other := by
  unfold scannedNeighbors HasEdge
  rw [List.mem_filterMap, Option.isSome_iff_exists]
  constructor
  · rintro ⟨⟨⟨first, second⟩, evidence⟩, hmem, hfound⟩
    have hlookup := (KeyedMap.mem_entries_iff _ _ _).mp hmem
    have hpair := (h.edges _ _ hlookup).1
    dsimp only at hfound hpair
    split_ifs at hfound with hconfidence hfirst hsecond
    · cases hfound
      subst hfirst
      exact ⟨evidence, by rw [hpair, hlookup]⟩
    · cases hfound
      subst hsecond
      exact ⟨evidence, by rw [normalizePair_comm, hpair, hlookup]⟩
  · rintro ⟨evidence, hlookup⟩
    have hpositive := (h.edges _ _ hlookup).2
    refine ⟨⟨normalizePair wallet other, evidence⟩,
      (KeyedMap.mem_entries_iff _ _ _).mpr hlookup, ?_⟩
    simp only [not_le.mpr hpositive, if_false]
    by_cases hsame : other = wallet
    · simp [hsame, normalizePair]
    · rcases normalizePair_ends wallet other with hends | hends
      · simp [hends]
      · simp [hends, hsame]

theorem mem_neighborsOf_iff {self : ClusterIndex} (h : self.CacheAgrees)
    {wallet other : String} (hne : other ≠ wallet) :
    other ∈ self.neighborsOf wallet ↔ self.HasEdge wallet other := by
  unfold neighborsOf
  cases hlookup : self.walletNeighbors.lookup wallet with
  | none => exact mem_scannedNeighbors_iff h wallet other
  | some neighbors =>
      have hcached := h.cached wallet other
      rw [cached, hlookup, Option.getD_some] at hcached
      simp [hcached, hne]

theorem neighborsOf_withoutCache (self : ClusterIndex) (wallet : String) :
    self.withoutCache.neighborsOf wallet = self.scannedNeighbors wallet := rfl

/-- With the wallet itself, the cache and the scan give the same members. -/
theorem mem_cons_neighborsOf_iff {self : ClusterIndex} (h : self.CacheAgrees)
    (wallet other : String) :
    other ∈ wallet :: self.neighborsOf wallet ↔
      other ∈ wallet :: self.withoutCache.neighborsOf wallet := by
  rw [List.mem_cons, List.mem_cons, neighborsOf_withoutCache]
  by_cases hsame : other = wallet
  · simp [hsame]
  · rw [mem_neighborsOf_iff h hsame, mem_scannedNeighbors_iff h]

theorem mem_relatedWallets_iff {self : ClusterIndex} (h : self.CacheAgrees)
    (wallet other : String) :
    other ∈ self.relatedWallets wallet ↔ other = wallet ∨ self.HasEdge wallet other := by
  rw [relatedWallets, Finset.mem_insert, List.mem_toFinset]
  by_cases hsame : other = wallet
  · simp [hsame]
  · rw [mem_neighborsOf_iff h hsame]

/-- Sorting and dropping repetitions leaves the members alone. -/
theorem destutter_insertionSort_congr {xs ys : List String} (h : ∀ x, x ∈ xs ↔ x ∈ ys) :
    (xs.insertionSort (· ≤ ·)).destutter (· ≠ ·) =
      (ys.insertionSort (· ≤ ·)).destutter (· ≠ ·) := by
  have hx := List.pairwise_insertionSort (· ≤ ·) xs
  have hy := List.pairwise_insertionSort (· ≤ ·) ys
  rw [hx.destutter_eq_dedup, hy.destutter_eq_dedup]
  have hperm : (xs.insertionSort (· ≤ ·)).dedup.Perm (ys.insertionSort (· ≤ ·)).dedup := by
    rw [List.perm_ext_iff_of_nodup (List.nodup_dedup _) (List.nodup_dedup _)]
    intro x
    rw [List.mem_dedup, List.mem_dedup, (List.perm_insertionSort (· ≤ ·) xs).mem_iff,
      (List.perm_insertionSort (· ≤ ·) ys).mem_iff, h]
  exact hperm.eq_of_pairwise (fun _ _ _ _ => le_antisymm)
    (hx.sublist (List.dedup_sublist _)) (hy.sublist (List.dedup_sublist _))

theorem walletHasSameFunderCluster_iff {self : ClusterIndex} (h : self.CacheAgrees)
    (wallet : String) :
    self.walletHasSameFunderCluster wallet = true ↔ self.HasFunderEdge wallet := by
  unfold walletHasSameFunderCluster
  split
  · simp [HasFunderEdge, List.any_eq_true]
  · rw [decide_eq_true_eq, h.funders]

/-- After any recorded links the cache gives the related wallets and the cluster id that a
scan gives, relation is symmetric, and a wallet has a common funder exactly when an edge says
so. -/
theorem cache_eq_scan (links : List Link) (wallet : String) :
    (links.foldl record {}).relatedWallets wallet =
      (links.foldl record {}).withoutCache.relatedWallets wallet ∧
    (links.foldl record {}).clusterIdFor wallet =
      (links.foldl record {}).withoutCache.clusterIdFor wallet ∧
    (∀ other, other ∈ (links.foldl record {}).relatedWallets wallet ↔
      wallet ∈ (links.foldl record {}).relatedWallets other) ∧
    ((links.foldl record {}).walletHasSameFunderCluster wallet = true ↔
      (links.foldl record {}).HasFunderEdge wallet) := by
  have h := cacheAgrees_run cacheAgrees_default links
  refine ⟨?_, ?_, fun other => ?_, walletHasSameFunderCluster_iff h wallet⟩
  · ext other
    simpa [relatedWallets] using mem_cons_neighborsOf_iff h wallet other
  · simp only [clusterIdFor, destutter_insertionSort_congr (mem_cons_neighborsOf_iff h wallet)]
  · rw [mem_relatedWallets_iff h, mem_relatedWallets_iff h, hasEdge_comm, eq_comm]

end ClusterIndex

end PumpLaunchTrader
