import PumpLaunchTrader.Model.Retention
import PumpLaunchTrader.Storage.RunListing

/-! # What pruning may remove

Every file that disappears belongs to the verified upload of a run that is not active, not
protected and old enough, and the policy neither keeps it nor leaves its kind alone. What is
removed stays within the bound, and the summary accounts for it. -/

namespace PumpLaunchTrader

/-! ## The runs by their creation -/

/-- What runs are ordered by. -/
def StoredRunMetadata.creation (self : StoredRunMetadata) : OffsetDateTime ×ₗ String :=
  toLex (self.createdAtWallTime, self.runId)

theorem isLE_compareCreated (left right : StoredRunMetadata) :
    (compareCreated left right).isLE = true ↔ left.creation ≤ right.creation := by
  unfold compareCreated StoredRunMetadata.creation
  rw [Prod.Lex.toLex_le_toLex]
  rcases lt_trichotomy left.createdAtWallTime right.createdAtWallTime with hlt | heq | hgt
  · simp [compare_lt_iff_lt.mpr hlt, hlt]
  · simp [heq, Ordering.isLE_iff_ne_gt, compare_le_iff_le]
  · simp [compare_gt_iff_gt.mpr hgt, hgt.not_gt, hgt.ne']

theorem runMetadataSorted_perm (store : RunStore) :
    (runMetadataSorted store).Perm store.listRuns :=
  List.perm_insertionSort _ _

theorem pairwise_runMetadataSorted (store : RunStore) :
    (runMetadataSorted store).Pairwise fun older newer => older.creation < newer.creation := by
  refine Sorting.pairwise_insertionSort_key _ isLE_compareCreated ?_
  refine List.Nodup.of_map (fun key => (ofLex key).2) ?_
  rw [List.map_map]
  exact store.nodup_runIds

/-- The listed runs that were created before a run. -/
def RunStore.createdBefore (self : RunStore) (run : StoredRunMetadata) : ℕ :=
  self.listRuns.countP fun other => other.creation < run.creation

/-- The listed runs that were created after a run. -/
def RunStore.createdAfter (self : RunStore) (run : StoredRunMetadata) : ℕ :=
  self.listRuns.countP fun other => run.creation < other.creation

theorem mem_newestRunIds (store : RunStore) (n : ℕ) (runId : String) :
    runId ∈ newestRunIds store n ↔
      ∃ run ∈ store.listRuns, run.runId = runId ∧ store.createdAfter run < n := by
  have hsorted : (runMetadataSorted store).reverse.Pairwise fun newer older =>
      OrderDual.toDual newer.creation < OrderDual.toDual older.creation :=
    List.pairwise_reverse.mpr (pairwise_runMetadataSorted store)
  have hperm := (List.reverse_perm _).trans (runMetadataSorted_perm store)
  have hmem := fun run => Sorting.mem_take_of_perm _ hperm hsorted run n
  unfold newestRunIds
  rw [List.mem_map]
  constructor
  · rintro ⟨run, htaken, hrun⟩
    obtain ⟨hlisted, hafter⟩ := (hmem run).mp htaken
    exact ⟨run, hlisted, hrun, hafter⟩
  · rintro ⟨run, hlisted, hrun, hafter⟩
    exact ⟨run, (hmem run).mpr ⟨hlisted, hafter⟩, hrun⟩

theorem mem_preservedRunIds (config : RetentionConfig) (store : RunStore) (runId : String) :
    runId ∈ preservedRunIds config store ↔
      ∃ run ∈ store.listRuns, run.runId = runId ∧
        store.createdBefore run < config.keepLastNLocalRuns := by
  have hmem := fun run => Sorting.mem_take_of_perm _ (runMetadataSorted_perm store)
    (pairwise_runMetadataSorted store) run config.keepLastNLocalRuns
  unfold preservedRunIds
  rw [List.mem_map]
  constructor
  · rintro ⟨run, htaken, hrun⟩
    obtain ⟨hlisted, hbefore⟩ := (hmem run).mp htaken
    exact ⟨run, hlisted, hrun, hbefore⟩
  · rintro ⟨run, hlisted, hrun, hbefore⟩
    exact ⟨run, (hmem run).mpr ⟨hlisted, hbefore⟩, hrun⟩

/-! ## The artifacts of a run -/

/-- The artifacts whose files may be removed, where some are preserved. -/
structure PrunableBy (config : RetentionConfig) (flags : PruneFlags)
    (preserves : ArtifactManifestEntry → Bool) (artifact : ArtifactManifestEntry) : Prop where
  allowed : artifactDeleteAllowed config flags artifact = true
  unpreserved : preserves artifact = false

namespace RunPrune

/-- What happens to the file of an artifact. -/
theorem remove_cases (run : RunPrune) (io : PruneIo) (dryRun : Bool) (path : String) :
    (dryRun = true ∧ run.remove io dryRun path = run.skip ("dry-run:" ++ path)) ∨
    (dryRun = false ∧ path ∉ run.files ∧ run.remove io dryRun path = run) ∨
    (dryRun = false ∧ path ∈ run.files ∧
      run.remove io dryRun path = { run with failed := true }) ∨
    dryRun = false ∧ path ∈ run.files ∧ run.remove io dryRun path = { run with
      files := run.files.erase path
      deletedPaths := run.deletedPaths ++ [path] } := by
  unfold RunPrune.remove
  cases dryRun with
  | true => simp
  | false =>
      by_cases hmem : path ∈ run.files
      · cases io.removeFails path <;> simp [hmem]
      · simp [hmem]

/-- The files that the loop over the artifacts has removed, from the files before. Where it is
thorough, none is left. -/
structure Pruned (prunable : ArtifactManifestEntry → Prop) (dryRun : Bool) (thorough : Prop)
    (before : KeyedMap String ℕ) (done : List ArtifactManifestEntry) (run : RunPrune) : Prop where
  removes : KeyedMap.Removes
    (fun path => dryRun = false ∧ ∃ artifact ∈ done, prunable artifact ∧
      artifact.localPath = path) before run.files
  dry : dryRun = true → run.files = before
  cleared : run.failed = false → dryRun = false → thorough →
    ∀ artifact ∈ done, prunable artifact → artifact.localPath ∉ run.files
  mem_deletedPaths : ∀ path, path ∈ run.deletedPaths ↔ path ∈ before ∧ path ∉ run.files

namespace Pruned

variable {prunable : ArtifactManifestEntry → Prop} {dryRun : Bool} {thorough : Prop}
  {before : KeyedMap String ℕ} {done : List ArtifactManifestEntry} {run next : RunPrune}
  {artifact : ArtifactManifestEntry}

theorem start (files : KeyedMap String ℕ) :
    Pruned prunable dryRun thorough files [] { files := files } where
  removes := KeyedMap.Removes.refl _ _
  dry _ := rfl
  cleared _ _ _ artifact hmem := nomatch hmem
  mem_deletedPaths path := by simp

theorem removes_append (h : Pruned prunable dryRun thorough before done run) :
    KeyedMap.Removes (fun path => dryRun = false ∧ ∃ other ∈ done ++ [artifact],
      prunable other ∧ other.localPath = path) before run.files :=
  h.removes.mono fun _ ⟨hdry, other, hmem, hother⟩ =>
    ⟨hdry, other, List.mem_append_left _ hmem, hother⟩

/-- An artifact that leaves the files as they are. -/
theorem stays (h : Pruned prunable dryRun thorough before done run)
    (hfiles : next.files = run.files) (hdeleted : next.deletedPaths = run.deletedPaths)
    (hfailed : next.failed = false → run.failed = false)
    (hgone : next.failed = false → dryRun = false → thorough → prunable artifact →
      artifact.localPath ∉ run.files) :
    Pruned prunable dryRun thorough before (done ++ [artifact]) next where
  removes := by
    rw [hfiles]
    exact h.removes_append
  dry hdry := hfiles.trans (h.dry hdry)
  cleared hnext hdry hthorough other hmem hother := by
    rw [hfiles]
    rcases List.mem_append.mp hmem with hmem | hmem
    · exact h.cleared (hfailed hnext) hdry hthorough other hmem hother
    · rw [List.mem_singleton.mp hmem] at hother ⊢
      exact hgone hnext hdry hthorough hother
  mem_deletedPaths path := by
    rw [hfiles, hdeleted]
    exact h.mem_deletedPaths path

/-- An artifact whose file is removed. -/
theorem erase (h : Pruned prunable false thorough before done run) (hlive : run.failed = false)
    (hprunable : prunable artifact) (hmem : artifact.localPath ∈ run.files) :
    Pruned prunable false thorough before (done ++ [artifact]) { run with
      files := run.files.erase artifact.localPath
      deletedPaths := run.deletedPaths ++ [artifact.localPath] } where
  removes := h.removes_append.erase ⟨rfl, artifact, by simp, hprunable, rfl⟩
  dry hdry := absurd hdry Bool.false_ne_true
  cleared _ _ hthorough other hother hpath := by
    rw [AList.mem_erase]
    rcases List.mem_append.mp hother with hother | hother
    · exact fun hleft => h.cleared hlive rfl hthorough other hother hpath hleft.2
    · rw [List.mem_singleton.mp hother]
      exact fun hleft => hleft.1 rfl
  mem_deletedPaths path := by
    have hbefore : artifact.localPath ∈ before := by
      by_contra hnot
      exact h.removes.notMem hnot hmem
    rw [List.mem_append, h.mem_deletedPaths, List.mem_singleton, AList.mem_erase]
    by_cases hpath : path = artifact.localPath
    · subst hpath
      simp [hbefore]
    · simp [hpath]

theorem remove (io : PruneIo) (h : Pruned prunable dryRun thorough before done run)
    (hlive : run.failed = false) (hprunable : prunable artifact) :
    Pruned prunable dryRun thorough before (done ++ [artifact])
      (run.remove io dryRun artifact.localPath) := by
  rcases run.remove_cases io dryRun artifact.localPath with
    ⟨hdry, hnext⟩ | ⟨-, habsent, hnext⟩ | ⟨-, -, hnext⟩ | ⟨rfl, hmem, hnext⟩ <;> rw [hnext]
  · refine h.stays rfl rfl (fun _ => hlive) fun _ hwet => ?_
    rw [hdry] at hwet
    cases hwet
  · exact h.stays rfl rfl id fun _ _ _ _ => habsent
  · exact h.stays rfl rfl (fun hfailed => nomatch hfailed) (fun hfailed => nomatch hfailed)
  · exact h.erase hlive hprunable hmem

end Pruned

/-! ### The bytes of a run -/

/-- The bytes that the loop counts, after `spent` ones for the runs before, and the files that
it removes. -/
structure Spends (limit : Option ℕ) (spent : ℕ) (dryRun : Bool) (before : KeyedMap String ℕ)
    (run : RunPrune) : Prop where
  within : ∀ bytes, limit = some bytes → spent + run.deletableBytes ≤ bytes
  total_le : before.values.sum ≤ run.files.values.sum + run.deletableBytes
  total : dryRun = false → run.failed = false →
    before.values.sum = run.files.values.sum + run.deletableBytes

namespace Spends

variable {limit : Option ℕ} {spent size : ℕ} {dryRun : Bool} {before : KeyedMap String ℕ}
  {run next : RunPrune}

theorem count (h : Spends limit spent dryRun before run)
    (hbytes : next.deletableBytes = run.deletableBytes + size)
    (hwithin : ∀ bytes, limit = some bytes → spent + run.deletableBytes + size ≤ bytes)
    (hfiles : run.files.values.sum ≤ next.files.values.sum + size)
    (hexact : dryRun = false → next.failed = false →
      run.failed = false ∧ run.files.values.sum = next.files.values.sum + size) :
    Spends limit spent dryRun before next where
  within bytes hlimit := by
    have := hwithin bytes hlimit
    omega
  total_le := by
    have := h.total_le
    omega
  total hwet hnext := by
    obtain ⟨hlive, hfiles⟩ := hexact hwet hnext
    have := h.total hwet hlive
    omega

theorem remove (io : PruneIo) (path : String) (h : Spends limit spent dryRun before run)
    (hlive : run.failed = false)
    (hwithin : ∀ bytes, limit = some bytes →
      spent + run.deletableBytes + (run.files.lookup path).getD 0 ≤ bytes) :
    Spends limit spent dryRun before
      ({ run with
        deletableBytes := run.deletableBytes + (run.files.lookup path).getD 0 }.remove io dryRun
        path) := by
  have htotal := KeyedMap.sum_values_eq_lookup_add run.files path
  have hle : run.files.values.sum ≤
      run.files.values.sum + (run.files.lookup path).getD 0 := Nat.le_add_right _ _
  rcases RunPrune.remove_cases { run with
      deletableBytes := run.deletableBytes + (run.files.lookup path).getD 0 } io dryRun path with
    ⟨hdry, hnext⟩ | ⟨-, habsent, hnext⟩ | ⟨-, -, hnext⟩ | ⟨-, -, hnext⟩ <;> rw [hnext]
  · refine h.count rfl hwithin hle fun hwet => ?_
    rw [hdry] at hwet
    cases hwet
  · refine h.count rfl hwithin hle fun _ _ => ⟨hlive, ?_⟩
    rw [AList.lookup_eq_none.mpr habsent]
    rfl
  · exact h.count rfl hwithin hle fun _ hfailed => nomatch hfailed
  · rw [Nat.add_comm] at htotal
    exact h.count rfl hwithin htotal.le fun _ _ => ⟨hlive, htotal⟩

end Spends

/-! ### The loops -/

/-- What an artifact does to a run, in the command for all runs. -/
theorem pruneArtifact_cases (config : RetentionConfig) (options : VerifiedPruneOptions)
    (io : PruneIo) (spent : ℕ) (run : RunPrune) (artifact : ArtifactManifestEntry) :
    (run.failed = true ∧ run.pruneArtifact config options io spent artifact = run) ∨
    (∃ note, run.pruneArtifact config options io spent artifact = run.skip note ∧
      (PrunableBy config options.toPruneFlags (artifactPreservedByPolicy options.toPruneFlags)
        artifact → options.maxDeleteMb ≠ none)) ∨
    run.failed = false ∧
      PrunableBy config options.toPruneFlags (artifactPreservedByPolicy options.toPruneFlags)
        artifact ∧
      (∀ bytes, options.maxDeleteBytes = some bytes →
        spent + run.deletableBytes + (run.files.lookup artifact.localPath).getD 0 ≤ bytes) ∧
      run.pruneArtifact config options io spent artifact =
        { run with
          deletableBytes :=
            run.deletableBytes + (run.files.lookup artifact.localPath).getD 0 }.remove io
          options.dryRun artifact.localPath := by
  unfold pruneArtifact
  cases hfailed : run.failed with
  | true => exact Or.inl ⟨rfl, rfl⟩
  | false =>
      rw [if_neg Bool.false_ne_true]
      right
      split
      · next hkeeps =>
          refine Or.inl ⟨_, rfl, fun hprunable => ?_⟩
          simp [hprunable.allowed, hprunable.unpreserved] at hkeeps
      · next hprunes =>
          rw [Bool.or_eq_true, not_or, Bool.not_eq_true, Bool.not_eq_true] at hprunes
          have hprunable : PrunableBy config options.toPruneFlags
              (artifactPreservedByPolicy options.toPruneFlags) artifact :=
            ⟨by simpa using hprunes.1, hprunes.2⟩
          dsimp only
          split
          · next hover =>
              refine Or.inl ⟨_, rfl, fun _ hnone => ?_⟩
              simp [VerifiedPruneOptions.maxDeleteBytes, hnone] at hover
          · next hunder =>
              refine Or.inr ⟨rfl, hprunable, fun bytes hbytes => ?_, rfl⟩
              rw [hbytes] at hunder
              simpa using hunder

section Loops

variable (config : RetentionConfig) (options : VerifiedPruneOptions) (io : PruneIo) (spent : ℕ)

theorem Pruned.recount {prunable : ArtifactManifestEntry → Prop} {dryRun : Bool}
    {thorough : Prop} {before : KeyedMap String ℕ} {done : List ArtifactManifestEntry}
    {run : RunPrune} (h : Pruned prunable dryRun thorough before done run) (bytes : ℕ) :
    Pruned prunable dryRun thorough before done { run with deletableBytes := bytes } :=
  ⟨h.removes, h.dry, h.cleared, h.mem_deletedPaths⟩

/-- The loop over the artifacts of a manifest, in the command for all runs. -/
theorem foldl_pruneArtifact (files : KeyedMap String ℕ) (artifacts : List ArtifactManifestEntry)
    (hspent : ∀ bytes, options.maxDeleteBytes = some bytes → spent ≤ bytes) :
    Pruned (PrunableBy config options.toPruneFlags
          (artifactPreservedByPolicy options.toPruneFlags)) options.dryRun
        (options.maxDeleteMb = none) files artifacts
        (artifacts.foldl (pruneArtifact config options io spent) { files := files }) ∧
      Spends options.maxDeleteBytes spent options.dryRun files
        (artifacts.foldl (pruneArtifact config options io spent) { files := files }) := by
  induction artifacts using List.reverseRecOn with
  | nil => exact ⟨Pruned.start files, hspent, Nat.le_add_right _ _, fun _ _ => rfl⟩
  | append_singleton artifacts artifact ih =>
      obtain ⟨hpruned, hspends⟩ := ih
      rw [List.foldl_append, List.foldl_cons, List.foldl_nil]
      rcases pruneArtifact_cases config options io spent
        (artifacts.foldl (pruneArtifact config options io spent) { files := files }) artifact with
        ⟨hfailed, hnext⟩ | ⟨note, hnext, hbounded⟩ | ⟨hlive, hprunable, hwithin, hnext⟩
      · rw [hnext]
        refine ⟨hpruned.stays rfl rfl id fun hlive => ?_, hspends⟩
        rw [hfailed] at hlive
        cases hlive
      · rw [hnext]
        refine ⟨hpruned.stays rfl rfl id fun _ _ hnone hprunable => ?_,
          hspends.within, hspends.total_le, hspends.total⟩
        exact absurd hnone (hbounded hprunable)
      · rw [hnext]
        exact ⟨(hpruned.recount _).remove io hlive hprunable,
          hspends.remove io artifact.localPath hlive hwithin⟩

end Loops

/-- The loop over the artifacts of a manifest, in the command for a single run. -/
theorem foldl_pruneLocalArtifact (config : RetentionConfig) (options : PruneLocalOptions)
    (io : PruneIo) (files : KeyedMap String ℕ) (artifacts : List ArtifactManifestEntry) :
    Pruned (PrunableBy config options.toPruneFlags (preservesLocally options)) options.dryRun
      True files artifacts
      (artifacts.foldl (pruneLocalArtifact config options io) { files := files }) := by
  induction artifacts using List.reverseRecOn with
  | nil => exact Pruned.start files
  | append_singleton artifacts artifact ih =>
      rw [List.foldl_append, List.foldl_cons, List.foldl_nil]
      generalize artifacts.foldl (pruneLocalArtifact config options io) { files := files } = run
        at ih ⊢
      unfold pruneLocalArtifact
      cases hfailed : run.failed with
      | true =>
          rw [if_pos rfl]
          refine ih.stays rfl rfl id fun hlive => ?_
          rw [hfailed] at hlive
          cases hlive
      | false =>
          rw [if_neg Bool.false_ne_true]
          split
          · next hkeeps =>
              refine ih.stays rfl rfl id fun _ _ _ hprunable => ?_
              simp [hprunable.allowed, hprunable.unpreserved] at hkeeps
          · next hprunes =>
              rw [Bool.or_eq_true, not_or, Bool.not_eq_true, Bool.not_eq_true] at hprunes
              exact ih.remove io hfailed ⟨by simpa using hprunes.1, hprunes.2⟩

end RunPrune

/-! ## All runs -/

/-- A run whose files the options release, at a time. -/
structure VerifiedPruneOptions.Releases (options : VerifiedPruneOptions) (store : RunStore)
    (now : OffsetDateTime) (manifest : ArtifactManifest) : Prop where
  verified : manifestVerified manifest = true
  inactive : options.activeRunId ≠ some manifest.runId
  superseded : ∀ run ∈ store.listRuns, run.runId = manifest.runId →
    options.keepLastN ≤ store.createdAfter run
  aged : youngerThan now options.minAgeHours manifest.uploadedAt = false

theorem refusal_eq_none_iff {p : Prop} [Decidable p] {reason : String}
    {rest : Option String} : (if p then some reason else rest) = none ↔ ¬ p ∧ rest = none := by
  by_cases h : p <;> simp [h]

theorem pruneSkipReason_eq_none_iff (options : VerifiedPruneOptions) (store : RunStore)
    (now : OffsetDateTime) (manifest : ArtifactManifest) :
    pruneSkipReason options (newestRunIds store options.keepLastN) now manifest = none ↔
      options.Releases store now manifest := by
  have hsuperseded : manifest.runId ∉ newestRunIds store options.keepLastN ↔
      ∀ run ∈ store.listRuns, run.runId = manifest.runId →
        options.keepLastN ≤ store.createdAfter run := by
    simp only [mem_newestRunIds, not_exists, not_and, not_lt]
  unfold pruneSkipReason
  simp only [refusal_eq_none_iff, hsuperseded]
  constructor
  · rintro ⟨hverified, hactive, hsuperseded, haged, -⟩
    exact ⟨by simpa using hverified, hactive, hsuperseded, by simpa using haged⟩
  · intro h
    exact ⟨by simp [h.verified], h.inactive, h.superseded, by simp [h.aged], trivial⟩

namespace BatchPrune

variable (config : RetentionConfig) (options : VerifiedPruneOptions) (io : PruneIo)
  (store : RunStore)

/-- A path of a manifest whose file may be removed. -/
def MayRemove (entry : String × Option ArtifactManifest) (path : String) : Prop :=
  ∃ manifest, entry.2 = some manifest ∧ options.Releases store (io.now entry.1) manifest ∧
    ∃ artifact ∈ manifest.artifacts,
      PrunableBy config options.toPruneFlags (artifactPreservedByPolicy options.toPruneFlags)
        artifact ∧ artifact.localPath = path

/-- How the files and the summary of a batch prune are accounted for. -/
structure Accounts (before : KeyedMap String ℕ)
    (done : List (String × Option ArtifactManifest)) (batch : BatchPrune) : Prop where
  removes : KeyedMap.Removes (fun path => options.dryRun = false ∧
    ∃ entry ∈ done, MayRemove config options io store entry path) before batch.files
  dry : options.dryRun = true → batch.files = before
  within : ∀ bytes, options.maxDeleteBytes = some bytes →
    before.values.sum ≤ batch.files.values.sum + bytes
  cleared : batch.failed = false → options.dryRun = false → options.maxDeleteMb = none →
    ∀ entry ∈ done, ∀ path, MayRemove config options io store entry path → path ∉ batch.files
  total : batch.failed = false →
    before.values.sum = batch.files.values.sum + batch.summary.deletedBytes
  listed : batch.failed = false → ∀ path ∈ batch.summary.deletedPaths,
    path ∈ before ∧ path ∉ batch.files
  listed_of_pos : batch.failed = false → ∀ path, 0 < (before.lookup path).getD 0 →
    path ∉ batch.files → path ∈ batch.summary.deletedPaths

/-- What the loop over the manifests keeps, with the bytes that it counts. -/
structure Counts (before : KeyedMap String ℕ) (done : List (String × Option ArtifactManifest))
    (batch : BatchPrune) : Prop extends Accounts config options io store before done batch where
  counted : options.dryRun = false → batch.summary.deletedBytes = batch.cumulativeCandidateBytes
  spent : ∀ bytes, options.maxDeleteBytes = some bytes → batch.cumulativeCandidateBytes ≤ bytes

namespace Counts

variable {config options io store} {before : KeyedMap String ℕ}
  {done : List (String × Option ArtifactManifest)} {batch next : BatchPrune}
  {entry : String × Option ArtifactManifest}

theorem removes_append (h : Counts config options io store before done batch) :
    KeyedMap.Removes (fun path => options.dryRun = false ∧
      ∃ other ∈ done ++ [entry], MayRemove config options io store other path) before
      batch.files :=
  h.removes.mono fun _ ⟨hdry, other, hmem, hother⟩ =>
    ⟨hdry, other, List.mem_append_left _ hmem, hother⟩

/-- A manifest that leaves the files as they are. -/
theorem stays (h : Counts config options io store before done batch)
    (hfiles : next.files = batch.files)
    (hcumulative : next.cumulativeCandidateBytes = batch.cumulativeCandidateBytes)
    (hbytes : next.summary.deletedBytes = batch.summary.deletedBytes)
    (hpaths : next.summary.deletedPaths = batch.summary.deletedPaths)
    (hfailed : next.failed = false → batch.failed = false)
    (hnot : next.failed = false → ∀ path, ¬ MayRemove config options io store entry path) :
    Counts config options io store before (done ++ [entry]) next where
  removes := by
    rw [hfiles]
    exact h.removes_append
  dry hdry := hfiles.trans (h.dry hdry)
  within bytes hlimit := by
    rw [hfiles]
    exact h.within bytes hlimit
  cleared hnext hwet hnone other hmem path hother := by
    rw [hfiles]
    rcases List.mem_append.mp hmem with hmem | hmem
    · exact h.cleared (hfailed hnext) hwet hnone other hmem path hother
    · rw [List.mem_singleton.mp hmem] at hother
      exact absurd hother (hnot hnext path)
  total hnext := by
    rw [hfiles, hbytes]
    exact h.total (hfailed hnext)
  listed hnext path hpath := by
    rw [hpaths] at hpath
    rw [hfiles]
    exact h.listed (hfailed hnext) path hpath
  listed_of_pos hnext path hsize hgone := by
    rw [hfiles] at hgone
    rw [hpaths]
    exact h.listed_of_pos (hfailed hnext) path hsize hgone
  counted hwet := by
    rw [hbytes, hcumulative]
    exact h.counted hwet
  spent bytes hlimit := by
    rw [hcumulative]
    exact h.spent bytes hlimit

/-- A manifest whose artifacts are looked at; `counted` of the bytes reach the summary. -/
theorem prunes {manifest : ArtifactManifest} {run : RunPrune} (counted : ℕ)
    (h : Counts config options io store before done batch) (hlive : batch.failed = false)
    (hentry : entry.2 = some manifest)
    (hreleases : options.Releases store (io.now entry.1) manifest)
    (hpruned : RunPrune.Pruned (PrunableBy config options.toPruneFlags
        (artifactPreservedByPolicy options.toPruneFlags)) options.dryRun
      (options.maxDeleteMb = none) batch.files manifest.artifacts run)
    (hspends : RunPrune.Spends options.maxDeleteBytes batch.cumulativeCandidateBytes
      options.dryRun batch.files run)
    (hfiles : next.files = run.files) (hfailed : next.failed = run.failed)
    (hcounted : counted ≤ run.deletableBytes)
    (hcounts : run.failed = false → counted = run.deletableBytes)
    (hcumulative :
      next.cumulativeCandidateBytes = batch.cumulativeCandidateBytes + counted)
    (hbytes : next.summary.deletedBytes =
      batch.summary.deletedBytes + if options.dryRun then 0 else counted)
    (hpaths : run.failed = false → next.summary.deletedPaths = batch.summary.deletedPaths ++
      if run.deletableBytes = 0 then [] else run.deletedPaths) :
    Counts config options io store before (done ++ [entry]) next where
  removes := by
    rw [hfiles]
    refine h.removes_append.trans (hpruned.removes.mono ?_)
    rintro path ⟨hwet, artifact, hmem, hprunable, hpath⟩
    exact ⟨hwet, entry, by simp, manifest, hentry, hreleases, artifact, hmem, hprunable, hpath⟩
  dry hdry := hfiles.trans ((hpruned.dry hdry).trans (h.dry hdry))
  within bytes hlimit := by
    rw [hfiles]
    cases hdry : options.dryRun with
    | true =>
        rw [hpruned.dry hdry, h.dry hdry]
        exact Nat.le_add_right _ _
    | false =>
        have htotal := h.total hlive
        have hbefore := h.counted hdry
        have hrun := hspends.total_le
        have hwithin := hspends.within bytes hlimit
        omega
  cleared hnext hwet hnone other hmem path hother := by
    rw [hfiles]
    rcases List.mem_append.mp hmem with hmem | hmem
    · exact hpruned.removes.notMem (h.cleared hlive hwet hnone other hmem path hother)
    · rw [List.mem_singleton.mp hmem] at hother
      obtain ⟨found, hfound, -, artifact, hartifact, hprunable, rfl⟩ := hother
      rw [hentry, Option.some.injEq] at hfound
      subst hfound
      exact hpruned.cleared (hfailed ▸ hnext) hwet hnone artifact hartifact hprunable
  total hnext := by
    have htotal := h.total hlive
    rw [hfailed] at hnext
    rw [hfiles, hbytes]
    cases hdry : options.dryRun with
    | true => rw [hpruned.dry hdry, htotal, if_pos rfl, Nat.add_zero]
    | false =>
        have hrun := hspends.total hdry hnext
        rw [if_neg Bool.false_ne_true, hcounts hnext]
        omega
  listed hnext path hpath := by
    rw [hpaths (hfailed ▸ hnext), List.mem_append] at hpath
    rw [hfiles]
    rcases hpath with hpath | hpath
    · obtain ⟨hmem, hgone⟩ := h.listed hlive path hpath
      exact ⟨hmem, hpruned.removes.notMem hgone⟩
    · split at hpath
      · cases hpath
      · obtain ⟨hmem, hgone⟩ := (hpruned.mem_deletedPaths path).mp hpath
        refine ⟨?_, hgone⟩
        by_contra hnot
        exact h.removes.notMem hnot hmem
  listed_of_pos hnext path hsize hgone := by
    rw [hfiles] at hgone
    rw [hpaths (hfailed ▸ hnext), List.mem_append]
    by_cases hmem : path ∈ batch.files
    · right
      have hwet : options.dryRun = false := by
        by_contra hdry
        rw [hpruned.dry (by simpa using hdry)] at hgone
        exact hgone hmem
      obtain ⟨size, hlookup⟩ := Option.isSome_iff_exists.mp (AList.lookup_isSome.mpr hmem)
      rw [h.removes.kept path size hlookup] at hsize
      have hmissing := hpruned.removes.lookup_add_sum_values_le hgone
      have hrun := hspends.total hwet (hfailed ▸ hnext)
      rw [hlookup] at hmissing
      simp only [Option.getD_some] at hsize hmissing
      rw [if_neg (by omega)]
      exact (hpruned.mem_deletedPaths path).mpr ⟨hmem, hgone⟩
    · exact Or.inl (h.listed_of_pos hlive path hsize hmem)
  counted hwet := by
    rw [hbytes, hcumulative, h.counted hwet, hwet, if_neg Bool.false_ne_true]
  spent bytes hlimit := by
    have := hspends.within bytes hlimit
    omega

end Counts

/-- One manifest of the loop. -/
theorem counts_pruneManifest {before : KeyedMap String ℕ}
    {done : List (String × Option ArtifactManifest)} {batch : BatchPrune}
    (entry : String × Option ArtifactManifest)
    (h : Counts config options io store before done batch) :
    Counts config options io store before (done ++ [entry])
      (batch.pruneManifest config options io (newestRunIds store options.keepLastN) entry) := by
  unfold pruneManifest
  cases hfailed : batch.failed with
  | true =>
      rw [if_pos rfl]
      refine h.stays rfl rfl rfl rfl id fun hlive => ?_
      rw [hfailed] at hlive
      cases hlive
  | false =>
      rw [if_neg Bool.false_ne_true]
      cases hentry : entry.2 with
      | none =>
          exact h.stays rfl rfl rfl rfl (fun hlive => nomatch hlive) fun hlive => nomatch hlive
      | some manifest =>
          have hcount : ∀ summary : VerifiedPruneSummary,
              (summary.countManifest manifest).deletedBytes = summary.deletedBytes ∧
                (summary.countManifest manifest).deletedPaths = summary.deletedPaths := by
            intro summary
            unfold VerifiedPruneSummary.countManifest
            split <;> exact ⟨rfl, rfl⟩
          obtain ⟨hbytes, hpaths⟩ := hcount batch.summary
          have hskip := pruneSkipReason_eq_none_iff options store (io.now entry.1) manifest
          dsimp only
          split
          · next reason hreason =>
              refine h.stays rfl rfl hbytes hpaths (fun _ => hfailed) fun _ path hmay => ?_
              obtain ⟨found, hfound, hreleases, -⟩ := hmay
              rw [hentry, Option.some.injEq] at hfound
              rw [← hfound, ← hskip, hreason] at hreleases
              cases hreleases
          · next hreason =>
              have hreleases := hskip.mp hreason
              obtain ⟨hpruned, hspends⟩ := RunPrune.foldl_pruneArtifact config options io
                batch.cumulativeCandidateBytes batch.files manifest.artifacts h.spent
              generalize manifest.artifacts.foldl (RunPrune.pruneArtifact config options io
                batch.cumulativeCandidateBytes) { files := batch.files } = run at hpruned hspends ⊢
              split
              · next hrun =>
                  refine h.prunes 0 hfailed hentry hreleases hpruned hspends rfl
                    hrun.symm (Nat.zero_le _) ?_ rfl ?_ ?_
                  · intro hlive
                    rw [hrun] at hlive
                    cases hlive
                  · simp
                  · intro hlive
                    rw [hrun] at hlive
                    cases hlive
              · next hrun =>
                  rw [Bool.not_eq_true] at hrun
                  split
                  · next hzero =>
                      refine h.prunes 0 hfailed hentry hreleases hpruned hspends rfl
                        hrun.symm (Nat.zero_le _) (fun _ => hzero.symm) rfl ?_ ?_
                      · simpa using hbytes
                      · intro _
                        rw [if_pos hzero, List.append_nil]
                        exact hpaths
                  · next hpos =>
                      refine h.prunes _ hfailed hentry hreleases hpruned hspends rfl
                        hrun.symm le_rfl (fun _ => rfl) rfl ?_ ?_
                      · dsimp only
                        rw [hbytes]
                        split <;> rfl
                      · intro _
                        dsimp only
                        rw [if_neg hpos, hpaths]

theorem accounts_unchanged (before : KeyedMap String ℕ)
    (done : List (String × Option ArtifactManifest)) (failed : Bool)
    (hdone : failed = false → done = []) :
    Accounts config options io store before done { files := before, failed := failed } where
  removes := KeyedMap.Removes.refl _ _
  dry _ := rfl
  within _ _ := Nat.le_add_right _ _
  cleared hlive _ _ _ hmem := by
    rw [hdone hlive] at hmem
    cases hmem
  total _ := rfl
  listed _ _ hpath := nomatch hpath
  listed_of_pos _ path hsize hgone := by
    change path ∉ before at hgone
    rw [AList.lookup_eq_none.mpr hgone] at hsize
    cases hsize

theorem counts_foldl (before : KeyedMap String ℕ)
    (manifests : List (String × Option ArtifactManifest)) :
    Counts config options io store before manifests
      (manifests.foldl
        (pruneManifest config options io (newestRunIds store options.keepLastN))
        { files := before }) := by
  induction manifests using List.reverseRecOn with
  | nil =>
      exact ⟨accounts_unchanged config options io store before [] false fun _ => rfl,
        fun _ => rfl, fun _ _ => Nat.zero_le _⟩
  | append_singleton manifests entry ih =>
      rw [List.foldl_append, List.foldl_cons, List.foldl_nil]
      exact counts_pruneManifest config options io store entry ih

end BatchPrune

/-- Files are removed only when this is forced and no dry run, and every one of them belongs to
an artifact of a released run whose kind may be removed and which the policy does not preserve.
What is removed stays within the bound, and the summary of a command that does not fail has
the bytes and the paths of what was removed. -/
theorem batch_prune_accounted (config : RetentionConfig) (options : VerifiedPruneOptions)
    (io : PruneIo) (store : RunStore) (files : KeyedMap String ℕ)
    (manifests : List (String × Option ArtifactManifest)) :
    (buildVerifiedPruneSummary config options io store files manifests).Accounts config options
        io store files manifests ∧
      (options.dryRun = false → options.forcePruneVerified = false →
        (buildVerifiedPruneSummary config options io store files manifests).files = files ∧
          (buildVerifiedPruneSummary config options io store files manifests).failed = true) := by
  unfold buildVerifiedPruneSummary
  by_cases hforced : !options.dryRun ∧ !options.forcePruneVerified
  · rw [if_pos hforced]
    exact ⟨BatchPrune.accounts_unchanged config options io store files manifests true
      (fun hlive => nomatch hlive), fun _ _ => ⟨rfl, rfl⟩⟩
  · rw [if_neg hforced]
    refine ⟨(BatchPrune.counts_foldl config options io store files manifests).toAccounts, ?_⟩
    intro hwet hunforced
    simp [hwet, hunforced] at hforced

/-! ## A single run -/

/-- The options release the files of a run. Among the listed runs the ones that were created
first are protected. -/
structure PruneLocalOptions.Releases (config : RetentionConfig) (options : PruneLocalOptions)
    (io : PruneIo) (store : RunStore) (autopilot : AutopilotPersistedState) (runId : String)
    (manifest : ArtifactManifest) : Prop where
  inactive : autopilot.worksOn runId = false
  unprotected : options.forcePruneVerified = true ∨ ∀ run ∈ store.listRuns, run.runId = runId →
    config.keepLastNLocalRuns ≤ store.createdBefore run
  verified : config.pruneLocalOnlyAfterVerifiedUpload = false ∨
    options.forcePruneUnverified = true ∨ manifestVerified manifest = true
  aged : youngerThan (io.now runId) options.minAgeHours manifest.uploadedAt = false

section Single

variable (config : RetentionConfig) (options : PruneLocalOptions) (io : PruneIo)
  (store : RunStore) (autopilot : AutopilotPersistedState) (files : KeyedMap String ℕ)
  (runId : String) (manifest : ArtifactManifest)

theorem pruneRefusal_eq_none_iff :
    pruneRefusal config options io store autopilot runId manifest = none ↔
      options.Releases config io store autopilot runId manifest := by
  have hprotected : ¬ (runId ∈ preservedRunIds config store ∧ !options.forcePruneVerified) ↔
      options.forcePruneVerified = true ∨ ∀ run ∈ store.listRuns, run.runId = runId →
        config.keepLastNLocalRuns ≤ store.createdBefore run := by
    rw [mem_preservedRunIds]
    cases options.forcePruneVerified <;> simp
  have hverified : ¬ (config.pruneLocalOnlyAfterVerifiedUpload ∧
      !options.forcePruneUnverified ∧ !manifestVerified manifest) ↔
      config.pruneLocalOnlyAfterVerifiedUpload = false ∨
        options.forcePruneUnverified = true ∨ manifestVerified manifest = true := by
    cases config.pruneLocalOnlyAfterVerifiedUpload <;> cases options.forcePruneUnverified <;> simp
  unfold pruneRefusal
  simp only [refusal_eq_none_iff, hprotected, hverified]
  constructor
  · rintro ⟨hactive, hunprotected, hverified, haged, -⟩
    exact ⟨by simpa using hactive, hunprotected, hverified, by simpa using haged⟩
  · intro h
    exact ⟨by simp [h.inactive], h.unprotected, h.verified, by simp [h.aged], trivial⟩

/-- The command refuses exactly the runs that are not released, and then removes nothing. Every
file that is removed belongs to an artifact whose kind may be removed and which is not
preserved. A command that ends well leaves no such file and reports the paths that it removed. -/
theorem single_prune_spec :
    (¬ options.Releases config io store autopilot runId manifest ↔
        ∃ reason,
          (pruneLocalAfterR2 config options io store autopilot files runId manifest).2 =
              .refused reason ∨
            (pruneLocalAfterR2 config options io store autopilot files runId manifest).2 =
              .rejected reason) ∧
      KeyedMap.Removes (fun path => options.dryRun = false ∧
        options.Releases config io store autopilot runId manifest ∧
        ∃ artifact ∈ manifest.artifacts,
          PrunableBy config options.toPruneFlags (preservesLocally options) artifact ∧
            artifact.localPath = path) files
        (pruneLocalAfterR2 config options io store autopilot files runId manifest).1 ∧
      (options.dryRun = true →
        (pruneLocalAfterR2 config options io store autopilot files runId manifest).1 = files) ∧
      ∀ deletedPaths skippedPaths,
        (pruneLocalAfterR2 config options io store autopilot files runId manifest).2 =
          .pruned deletedPaths skippedPaths →
        (∀ path, path ∈ deletedPaths ↔ path ∈ files ∧
          path ∉ (pruneLocalAfterR2 config options io store autopilot files runId manifest).1) ∧
        (options.dryRun = false → ∀ artifact ∈ manifest.artifacts,
          PrunableBy config options.toPruneFlags (preservesLocally options) artifact →
            artifact.localPath ∉
              (pruneLocalAfterR2 config options io store autopilot files runId manifest).1) := by
  have hrefusal := pruneRefusal_eq_none_iff config options io store autopilot runId manifest
  have hloop := RunPrune.foldl_pruneLocalArtifact config options io files manifest.artifacts
  unfold pruneLocalAfterR2
  cases hreason : pruneRefusal config options io store autopilot runId manifest with
  | some reason =>
      have hkeeps : ¬ options.Releases config io store autopilot runId manifest := by
        rw [← hrefusal, hreason]
        exact nofun
      dsimp only
      refine ⟨⟨fun _ => ⟨reason, ?_⟩, fun _ => hkeeps⟩, KeyedMap.Removes.refl _ _, fun _ => rfl,
        fun deletedPaths skippedPaths hpruned => ?_⟩
      · cases options.dryRun with
        | true => exact Or.inl rfl
        | false => exact Or.inr rfl
      · split at hpruned <;> cases hpruned
  | none =>
      have hreleases := hrefusal.mp hreason
      generalize manifest.artifacts.foldl (RunPrune.pruneLocalArtifact config options io)
        { files := files } = run at hloop ⊢
      have hremoves := hloop.removes.mono (Q := fun path => options.dryRun = false ∧
          options.Releases config io store autopilot runId manifest ∧
          ∃ artifact ∈ manifest.artifacts,
            PrunableBy config options.toPruneFlags (preservesLocally options) artifact ∧
              artifact.localPath = path)
        fun path ⟨hwet, hartifact⟩ => ⟨hwet, hreleases, hartifact⟩
      dsimp only
      split
      · refine ⟨⟨fun hkeeps => absurd hreleases hkeeps, ?_⟩, hremoves, hloop.dry, ?_⟩
        · rintro ⟨reason, hend | hend⟩ <;> cases hend
        · intro deletedPaths skippedPaths hend
          cases hend
      · next hlive =>
          refine ⟨⟨fun hkeeps => absurd hreleases hkeeps, ?_⟩, hremoves, hloop.dry, ?_⟩
          · rintro ⟨reason, hend | hend⟩ <;> cases hend
          · intro deletedPaths skippedPaths hend
            cases hend
            exact ⟨hloop.mem_deletedPaths,
              fun hwet => hloop.cleared (by simpa using hlive) hwet trivial⟩

end Single

end PumpLaunchTrader
