import PumpLaunchTrader.Lib.Extremes
import PumpLaunchTrader.Lib.Ranks
import PumpLaunchTrader.Model.Summary

/-! # The listing of the runs

A listing has one record for each run: the one of the run itself before those of its
scenarios, the latest of several, with the counters that the logs of the run give. Nothing of
another run reaches it. The latest run is picked from the completed ones first, then from those
that have ended, and then from all. -/

namespace PumpLaunchTrader

open Best (IsBest)

/-! ## The record of a run -/

/-- A record of the run itself is preferred, then a later one. -/
def StoredRunMetadata.rank (self : StoredRunMetadata) : Bool ×ₗ OffsetDateTime :=
  toLex (self.scenarioId.isNone, self.wallClock)

theorem preferredTo_iff {candidate existing : StoredRunMetadata}
    (h : candidate.runId = existing.runId) :
    candidate.preferredTo existing = true ↔ existing.rank < candidate.rank := by
  unfold StoredRunMetadata.preferredTo StoredRunMetadata.rank
  rw [Prod.Lex.toLex_lt_toLex, h]
  cases candidate.scenarioId.isNone <;> cases existing.scenarioId.isNone <;> simp

/-- The record that is kept for a run is a best one of its records. -/
theorem lookup_latestMetadataPerRun (records : List StoredRunMetadata) (runId : String) :
    (latestMetadataPerRun records).lookup runId = none ∧
        records.filter (fun record => record.runId = runId) = [] ∨
      ∃ kept, (latestMetadataPerRun records).lookup runId = some kept ∧
        IsBest StoredRunMetadata.rank
          (records.filter fun record => record.runId = runId) kept := by
  unfold latestMetadataPerRun
  induction records using List.reverseRecOn with
  | nil => exact Or.inl ⟨rfl, rfl⟩
  | append_singleton records record ih =>
      rw [List.foldl_append, List.foldl_cons, List.foldl_nil, List.filter_append]
      by_cases hrun : record.runId = runId
      · subst hrun
        right
        have hself : [record].filter (fun other => other.runId = record.runId) = [record] := by
          simp
        rw [hself]
        rcases ih with ⟨hnone, hempty⟩ | ⟨kept, hkept, hbest⟩
        · refine ⟨record, ?_, ?_⟩
          · simp [foldMetadata, hnone]
          · rw [hempty]
            exact Best.isBest_singleton record
        · have hsame : record.runId = kept.runId := by
            have := (List.mem_filter.mp hbest.mem).2
            exact (of_decide_eq_true this).symm
          by_cases hprefer : record.preferredTo kept = true
          · refine ⟨record, ?_, hbest.append (Or.inr rfl) ?_ le_rfl⟩
            · simp [foldMetadata, hkept, hprefer]
            · exact ((preferredTo_iff hsame).mp hprefer).le
          · refine ⟨kept, ?_, hbest.append (Or.inl rfl) le_rfl ?_⟩
            · simp [foldMetadata, hkept, hprefer]
            · exact not_lt.mp fun hlt => hprefer ((preferredTo_iff hsame).mpr hlt)
      · have hother : [record].filter (fun other => other.runId = runId) = [] := by
          simp [hrun]
        have hlookup : ∀ folded : KeyedMap String StoredRunMetadata,
            (foldMetadata folded record).lookup runId = folded.lookup runId := by
          intro folded
          unfold foldMetadata
          split
          · split
            · exact AList.lookup_insert_ne (Ne.symm hrun)
            · rfl
          · exact AList.lookup_insert_ne (Ne.symm hrun)
        rw [hother, List.append_nil, hlookup]
        exact ih

/-! ## Runs do not see each other -/

/-- What the logs hold of one run. -/
def RunStore.restrict (self : RunStore) (runId : String) : RunStore :=
  { metadata := self.metadata.filter fun record => record.runId = runId
    events := self.events.filter fun record => record.runId = some runId
    fills := self.fills.filter fun record => record.runId = some runId }

theorem lookup_latestMetadataPerRun_filter (records : List StoredRunMetadata) (runId : String) :
    (latestMetadataPerRun records).lookup runId =
      (latestMetadataPerRun
        (records.filter fun record => record.runId = runId)).lookup runId := by
  refine KeyedMap.lookup_foldl_filter ?_ ?_ records rfl
  · intro folded record hother
    have hne : runId ≠ record.runId := fun h => by simp [h] at hother
    unfold foldMetadata
    split
    · split
      · exact AList.lookup_insert_ne hne
      · rfl
    · exact AList.lookup_insert_ne hne
  · intro folded folded' record hown hsame
    have hrun : record.runId = runId := of_decide_eq_true hown
    subst hrun
    unfold foldMetadata
    rw [hsame]
    split
    · split
      · rw [AList.lookup_insert, AList.lookup_insert]
      · exact hsame
    · rw [AList.lookup_insert, AList.lookup_insert]

theorem lookup_deriveRunEventStats_filter (store : RunStore) (runId : String) :
    (deriveRunEventStats store.events store.fills).lookup runId =
      (deriveRunEventStats (store.restrict runId).events
        (store.restrict runId).fills).lookup runId := by
  refine KeyedMap.lookup_foldl_filter ?_ ?_ store.fills
    (KeyedMap.lookup_foldl_filter ?_ ?_ store.events rfl)
  · intro stats fill hother
    unfold countStoredFill
    split
    · rfl
    · next other hother' =>
        exact KeyedMap.lookup_upsert_ne _ (fun h => by simp [hother', h] at hother) _ _
  · intro stats stats' fill hown hsame
    have hrun : fill.runId = some runId := of_decide_eq_true hown
    simp [countStoredFill, hrun, hsame]
  · intro stats record hother
    unfold countStoredEvent
    split
    · rfl
    · next other hother' =>
        exact KeyedMap.lookup_upsert_ne _ (fun h => by simp [hother', h] at hother) _ _
  · intro stats stats' record hown hsame
    have hrun : record.runId = some runId := of_decide_eq_true hown
    simp [countStoredEvent, hrun, hsame]

/-! ## The listing -/

/-- What runs are listed by. -/
def StoredRunMetadata.recency (self : StoredRunMetadata) : OffsetDateTime ×ₗ String :=
  toLex (self.wallClock, self.runId)

namespace RunStore

theorem isLE_compareRuns (left right : StoredRunMetadata) :
    (compareRuns left right).isLE = true ↔ left.recency ≤ right.recency := by
  unfold compareRuns StoredRunMetadata.recency
  rw [Prod.Lex.toLex_le_toLex]
  rcases lt_trichotomy left.wallClock right.wallClock with hlt | heq | hgt
  · simp [compare_lt_iff_lt.mpr hlt, hlt]
  · simp [heq, Ordering.isLE_iff_ne_gt, compare_le_iff_le]
  · simp [compare_gt_iff_gt.mpr hgt, hgt.not_gt, hgt.ne']

/-- The record that is listed for the kept one. -/
def listed (self : RunStore) (kept : StoredRunMetadata) : StoredRunMetadata :=
  kept.refined ((deriveRunEventStats self.events self.fills).lookup kept.runId)

theorem runId_of_lookup {records : List StoredRunMetadata} {runId : String}
    {kept : StoredRunMetadata}
    (h : (latestMetadataPerRun records).lookup runId = some kept) : kept.runId = runId := by
  rcases lookup_latestMetadataPerRun records runId with ⟨hnone, -⟩ | ⟨other, hother, hbest⟩
  · rw [hnone] at h
    cases h
  · rw [hother, Option.some.injEq] at h
    subst h
    exact of_decide_eq_true (List.mem_filter.mp hbest.mem).2

theorem mem_listRuns (store : RunStore) (run : StoredRunMetadata) :
    run ∈ store.listRuns ↔ ∃ kept,
      (latestMetadataPerRun store.metadata).lookup run.runId = some kept ∧
        run = store.listed kept := by
  unfold listRuns
  rw [List.mem_insertionSort, List.mem_map]
  constructor
  · rintro ⟨kept, hmem, rfl⟩
    obtain ⟨runId, hlookup⟩ := (KeyedMap.mem_values_iff _ kept).mp hmem
    have hrun := runId_of_lookup hlookup
    subst hrun
    exact ⟨kept, hlookup, rfl⟩
  · rintro ⟨kept, hlookup, hrun⟩
    exact ⟨kept, (KeyedMap.mem_values_iff _ kept).mpr ⟨_, hlookup⟩, hrun.symm⟩

theorem nodup_runIds (store : RunStore) :
    (store.listRuns.map fun run => run.runId).Nodup := by
  have hkeys : (latestMetadataPerRun store.metadata).values.map (fun kept => kept.runId) =
      (latestMetadataPerRun store.metadata).keys := by
    unfold KeyedMap.values AList.keys List.keys
    rw [List.map_map]
    refine List.map_congr_left fun entry hentry => ?_
    exact runId_of_lookup ((KeyedMap.mem_entries_iff _ entry.1 entry.2).mp hentry)
  have hperm : (store.listRuns.map fun run => run.runId).Perm
      (latestMetadataPerRun store.metadata).keys := by
    rw [← hkeys]
    have hsorted := (List.perm_insertionSort (fun left right : StoredRunMetadata =>
      (compareRuns right left).isLE = true)
      ((latestMetadataPerRun store.metadata).values.map store.listed)).map
      fun run => run.runId
    rw [List.map_map] at hsorted
    exact hsorted
  exact hperm.nodup_iff.mpr (AList.keys_nodup _)

/-- The listing has the latest run first. -/
theorem newestFirst_listRuns (store : RunStore) :
    store.listRuns.Pairwise fun newer older => older.recency < newer.recency := by
  have hsorted := (List.perm_insertionSort (fun left right : StoredRunMetadata =>
    (compareRuns right left).isLE = true)
    ((latestMetadataPerRun store.metadata).values.map store.listed)).map fun run => run.runId
  refine Sorting.pairwise_insertionSort_key
    (fun run : StoredRunMetadata => OrderDual.toDual run.recency)
    (fun left right => isLE_compareRuns right left) ?_
  refine List.Nodup.of_map (fun key => (ofLex (OrderDual.ofDual key)).2) ?_
  rw [List.map_map]
  exact hsorted.nodup_iff.mp store.nodup_runIds

/-- What a listing of the runs is. -/
structure Lists (store : RunStore) (runs : List StoredRunMetadata) : Prop where
  newestFirst : runs.Pairwise fun newer older => older.recency < newer.recency
  mem_iff : ∀ runId, runId ∈ runs.map (fun run => run.runId) ↔
    runId ∈ store.metadata.map fun record => record.runId
  preferred : ∀ run ∈ runs, ∃ kept, run = store.listed kept ∧
    IsBest StoredRunMetadata.rank
      (store.metadata.filter fun record => record.runId = run.runId) kept

theorem lists_listRuns (store : RunStore) : store.Lists store.listRuns where
  newestFirst := store.newestFirst_listRuns
  mem_iff runId := by
    rw [List.mem_map, List.mem_map]
    constructor
    · rintro ⟨run, hmem, rfl⟩
      obtain ⟨kept, hlookup, -⟩ := (store.mem_listRuns run).mp hmem
      obtain ⟨hnone, -⟩ | ⟨other, -, hbest⟩ :=
        lookup_latestMetadataPerRun store.metadata run.runId
      · rw [hnone] at hlookup
        cases hlookup
      · obtain ⟨hother, hrun⟩ := List.mem_filter.mp hbest.mem
        exact ⟨other, hother, of_decide_eq_true hrun⟩
    · rintro ⟨record, hmem, rfl⟩
      obtain ⟨-, hempty⟩ | ⟨kept, hlookup, -⟩ :=
        lookup_latestMetadataPerRun store.metadata record.runId
      · exact absurd (decide_eq_true rfl) (List.filter_eq_nil_iff.mp hempty record hmem)
      · have hkept : kept.runId = record.runId := runId_of_lookup hlookup
        have hrun : (store.listed kept).runId = record.runId := hkept
        refine ⟨store.listed kept, (store.mem_listRuns _).mpr ⟨kept, ?_, rfl⟩, hrun⟩
        rw [hrun]
        exact hlookup
  preferred run hmem := by
    obtain ⟨kept, hlookup, hrun⟩ := (store.mem_listRuns run).mp hmem
    refine ⟨kept, hrun, ?_⟩
    obtain ⟨hnone, -⟩ | ⟨other, hother, hbest⟩ :=
      lookup_latestMetadataPerRun store.metadata run.runId
    · rw [hnone] at hlookup
      cases hlookup
    · rw [hother, Option.some.injEq] at hlookup
      exact hlookup ▸ hbest

/-- What is listed of a run is what the logs of that run alone give. -/
theorem mem_listRuns_restrict (store : RunStore) (runId : String) (run : StoredRunMetadata) :
    run ∈ (store.restrict runId).listRuns ↔ run ∈ store.listRuns ∧ run.runId = runId := by
  have hlisted : ∀ kept : StoredRunMetadata, kept.runId = runId →
      (store.restrict runId).listed kept = store.listed kept := by
    rintro kept rfl
    unfold listed
    rw [lookup_deriveRunEventStats_filter store]
  rw [mem_listRuns, mem_listRuns]
  constructor
  · rintro ⟨kept, hlookup, hrun⟩
    obtain ⟨hnone, -⟩ | ⟨other, -, hbest⟩ :=
      lookup_latestMetadataPerRun (store.restrict runId).metadata run.runId
    · rw [hnone] at hlookup
      cases hlookup
    · obtain ⟨hmem, hother⟩ := List.mem_filter.mp hbest.mem
      have hown : run.runId = runId := by
        rw [← of_decide_eq_true hother]
        exact of_decide_eq_true (List.mem_filter.mp hmem).2
      have hkept : kept.runId = runId := (runId_of_lookup hlookup).trans hown
      refine ⟨⟨kept, ?_, hrun.trans (hlisted kept hkept)⟩, hown⟩
      rw [hown, lookup_latestMetadataPerRun_filter]
      rwa [hown] at hlookup
  · rintro ⟨⟨kept, hlookup, hrun⟩, hown⟩
    have hkept : kept.runId = runId := (runId_of_lookup hlookup).trans hown
    refine ⟨kept, ?_, hrun.trans (hlisted kept hkept).symm⟩
    rw [hown, lookup_latestMetadataPerRun_filter] at hlookup
    rwa [hown]

theorem listRuns_restrict (store : RunStore) (runId : String) :
    store.listRuns.filter (fun run => run.runId = runId) =
      (store.restrict runId).listRuns := by
  have hnewest := store.newestFirst_listRuns.filter fun run => decide (run.runId = runId)
  have hrestricted := (store.restrict runId).newestFirst_listRuns
  have hperm : (store.listRuns.filter fun run => run.runId = runId).Perm
      (store.restrict runId).listRuns := by
    rw [List.perm_ext_iff_of_nodup (hnewest.imp fun h => by rintro rfl; exact lt_irrefl _ h)
      (hrestricted.imp fun h => by rintro rfl; exact lt_irrefl _ h)]
    intro run
    rw [mem_listRuns_restrict, List.mem_filter, decide_eq_true_eq]
  refine hperm.eq_of_pairwise ?_ hnewest hrestricted
  intro first second _ _ hlt hgt
  exact absurd hgt hlt.not_gt

/-- The listing has one record for each run with metadata, the latest first, and each is made
of a best record of its run. What is listed of a run is what the logs of that run alone give. -/
theorem listRuns_spec (store : RunStore) : store.Lists store.listRuns ∧
    ∀ runId, store.listRuns.filter (fun run => run.runId = runId) =
      (store.restrict runId).listRuns :=
  ⟨store.lists_listRuns, store.listRuns_restrict⟩

/-! ## The latest run -/

theorem isBest_maxBy {runs : List StoredRunMetadata} {run : StoredRunMetadata}
    (h : maxBy compareRuns runs = some run) : IsBest StoredRunMetadata.recency runs run := by
  cases runs with
  | nil => cases h
  | cons first rest =>
      cases h
      have hgt : ∀ kept next : StoredRunMetadata,
          compareRuns kept next = .gt ↔ next.recency < kept.recency := by
        intro kept next
        rw [← not_le, ← isLE_compareRuns, Bool.not_eq_true, Ordering.isLE_eq_false]
      refine Best.isBest_foldl (fun kept next => ?_) (fun kept next => ?_)
        (fun kept next => ?_) first rest
      · exact ite_eq_or_eq _ _ _
      · split
        · exact le_rfl
        · next hle => exact not_lt.mp fun hlt => hle ((hgt kept next).mpr hlt)
      · split
        · next hle => exact ((hgt kept next).mp hle).le
        · exact le_rfl

theorem maxBy_eq_none_iff {runs : List StoredRunMetadata} :
    maxBy compareRuns runs = none ↔ runs = [] := by
  cases runs with
  | nil => simp [maxBy]
  | cons first rest => simp [maxBy]

/-- What the latest run is picked by: a completed run, then one that has ended, then the
latest. -/
def precedence (run : StoredRunMetadata) : Bool ×ₗ Bool ×ₗ OffsetDateTime ×ₗ String :=
  toLex (decide (run.status = .completed), toLex (decide (run.status ≠ .running), run.recency))

theorem isBest_pickLatest {runs : List StoredRunMetadata} {run : StoredRunMetadata}
    (h : pickLatest runs = some run) : IsBest precedence runs run := by
  unfold pickLatest at h
  split at h
  · next completed hcompleted =>
      cases h
      have hbest := isBest_maxBy hcompleted
      have hended : ∀ record ∈ runs.filter (fun record => record.status = .completed),
          decide (record.status ≠ .running) = true := by
        intro record hmem
        have hstatus := of_decide_eq_true (List.mem_filter.mp hmem).2
        simp [hstatus]
      refine IsBest.of_filter (hbest.rekey fun record hmem hle => ?_)
      rw [Prod.Lex.toLex_le_toLex, hended record hmem, hended run hbest.mem]
      exact Or.inr ⟨rfl, hle⟩
  · next hcompleted =>
      rw [maxBy_eq_none_iff] at hcompleted
      refine IsBest.of_empty hcompleted ?_
      split at h
      · next ended hended =>
          cases h
          exact (isBest_maxBy hended).of_filter
      · next hended =>
          rw [maxBy_eq_none_iff] at hended
          exact (isBest_maxBy h).of_empty hended

theorem pickLatest_eq_none_iff {runs : List StoredRunMetadata} :
    pickLatest runs = none ↔ runs = [] := by
  constructor
  · intro h
    unfold pickLatest at h
    split at h
    · cases h
    · split at h
      · cases h
      · exact maxBy_eq_none_iff.mp h
  · rintro rfl
    rfl

theorem distinct_precedence {runs : List StoredRunMetadata}
    (h : runs.Pairwise fun newer older => older.recency < newer.recency) :
    Best.Distinct precedence runs := by
  have hpairs : runs.Pairwise fun x y => x.recency = y.recency → x = y :=
    h.imp fun hlt heq => absurd heq hlt.ne'
  have hsymm : Std.Symm fun x y : StoredRunMetadata => x.recency = y.recency → x = y :=
    ⟨fun _ _ hxy hyx => (hxy hyx.symm).symm⟩
  intro x hx y hy heq
  have hrecency : x.recency = y.recency :=
    congrArg (fun key => (ofLex (ofLex key).2).2) heq
  exact hpairs.forall_of_forall (fun _ _ _ => rfl) hx hy hrecency

/-- The three passes over the filtered runs pick the best of them by one precedence. -/
theorem latestRunMetadataFiltered_spec (store : RunStore) (kind : Option RunKind)
    (requireSourceEvents requireShredExit : Bool) :
    (store.latestRunMetadataFiltered kind requireSourceEvents requireShredExit = none ↔
      store.filteredRuns kind requireSourceEvents requireShredExit = []) ∧
    ∀ run, store.latestRunMetadataFiltered kind requireSourceEvents requireShredExit = some run ↔
      IsBest precedence (store.filteredRuns kind requireSourceEvents requireShredExit) run := by
  refine ⟨pickLatest_eq_none_iff, fun run => ⟨isBest_pickLatest, fun hbest => ?_⟩⟩
  unfold latestRunMetadataFiltered
  have hdistinct : Best.Distinct precedence
      (store.filteredRuns kind requireSourceEvents requireShredExit) :=
    distinct_precedence (store.newestFirst_listRuns.filter _)
  cases hpicked : pickLatest
      (store.filteredRuns kind requireSourceEvents requireShredExit) with
  | none =>
      rw [pickLatest_eq_none_iff] at hpicked
      rw [hpicked] at hbest
      cases hbest.mem
  | some picked => rw [(isBest_pickLatest hpicked).unique hdistinct hbest]

/-! ## The runs of the event log -/

theorem maxBy_map {α β : Type} {compareKeys : β → β → Ordering} {f : α → β} (entries : List α) :
    maxBy compareKeys (entries.map f) =
      (maxBy (fun left right => compareKeys (f left) (f right)) entries).map f := by
  cases entries with
  | nil => rfl
  | cons first rest =>
      simp only [List.map_cons, maxBy, Option.map_some, Option.some.injEq]
      induction rest generalizing first with
      | nil => rfl
      | cons next rest ih =>
          rw [List.map_cons, List.foldl_cons, List.foldl_cons, ← ih]
          split <;> rfl

/-- The latest completed run of the event log is the one that the listing gives. -/
theorem latestNormalizedEventRunId_of_completed (store : RunStore) {storage : StorageEngine}
    (hruns : storage.runs = store.listRuns.map StoredRunMetadata.toRunMetadata)
    {runId : String} (h : store.latestCompletedRunIdFor
      (storage.normalizedEventLog.filterMap StoredRecord.runId) = some runId) :
    storage.latestNormalizedEventRunId = some runId := by
  unfold latestCompletedRunIdFor at h
  split at h
  · cases h
  · obtain ⟨run, hrun, hid⟩ := Option.map_eq_some_iff.mp h
    unfold StorageEngine.latestNormalizedEventRunId
    have hmax : maxBy (fun left right : RunMetadata =>
        (compare left.wallClock right.wallClock).then (compare left.runId right.runId))
        (storage.runs.filter fun run => run.status = .completed ∧
          run.runId ∈ storage.normalizedEventLog.filterMap StoredRecord.runId) =
          some run.toRunMetadata := by
      rw [hruns, List.filter_map, maxBy_map]
      exact congrArg (Option.map StoredRunMetadata.toRunMetadata) hrun
    simp only [hmax, hid]

end RunStore

end PumpLaunchTrader
