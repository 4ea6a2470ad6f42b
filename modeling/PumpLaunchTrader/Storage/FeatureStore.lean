import PumpLaunchTrader.Storage.FeatureChunks

/-! # Reading feature snapshots back

What is read at any time are snapshots that were written, none of them twice. Once a run was
finalized all of its snapshots are read, in the order of their times, and nothing else. -/

namespace PumpLaunchTrader

variable {α : Type}

/-! ## Names -/

theorem textEndsWith_chunkFileName (chunkIndex : ℕ) (suffix : ChunkSuffix) :
    textEndsWith (chunkFileName chunkIndex suffix) suffix.text = true := by
  refine decide_eq_true ?_
  rw [toList_chunkFileName, ← List.append_assoc]
  exact List.suffix_append _ _

/-- A text that ends with another one ends as it does. -/
theorem getLast?_of_textEndsWith {text stem : String} (h : textEndsWith text stem = true)
    (hstem : stem.toList ≠ []) : text.toList.getLast? = stem.toList.getLast? := by
  obtain ⟨before, hbefore⟩ := of_decide_eq_true h
  rw [← hbefore, List.getLast?_append_of_ne_nil _ hstem]

theorem getLast?_chunkFileName (chunkIndex : ℕ) (suffix : ChunkSuffix) :
    (chunkFileName chunkIndex suffix).toList.getLast? = suffix.text.toList.getLast? :=
  getLast?_of_textEndsWith (textEndsWith_chunkFileName chunkIndex suffix)
    (by cases suffix <;> decide)

theorem chunkFileName_startsWith (chunkIndex : ℕ) (suffix : ChunkSuffix) :
    chunkPrefix.toList <+: (chunkFileName chunkIndex suffix).toList := by
  rw [toList_chunkFileName]
  exact List.prefix_append _ _

theorem head?_chunkFileName (chunkIndex : ℕ) (suffix : ChunkSuffix) :
    (chunkFileName chunkIndex suffix).toList.head? = some 'f' := by
  rw [toList_chunkFileName]
  rfl

/-- No chunk file ends as another text does whose last letter is another one. -/
theorem textEndsWith_chunkFileName_of_ne {chunkIndex : ℕ} {suffix : ChunkSuffix} {stem : String}
    (hstem : stem.toList ≠ [])
    (hlast : suffix.text.toList.getLast? ≠ stem.toList.getLast?) :
    textEndsWith (chunkFileName chunkIndex suffix) stem = false := by
  rw [Bool.eq_false_iff]
  intro hends
  rw [← getLast?_chunkFileName chunkIndex suffix] at hlast
  exact hlast (getLast?_of_textEndsWith hends hstem)

theorem isIgnoredArtifactPath_chunkFileName (chunkIndex : ℕ) (suffix : ChunkSuffix) :
    isIgnoredArtifactPath (chunkFileName chunkIndex suffix) = false := by
  unfold isIgnoredArtifactPath
  rw [Bool.or_eq_false_iff]
  constructor
  · rw [decide_eq_false_iff_not]
    intro hmem
    have hhead := head?_chunkFileName chunkIndex suffix
    generalize chunkFileName chunkIndex suffix = name at hmem hhead
    simp only [List.mem_cons, List.not_mem_nil, or_false] at hmem
    rcases hmem with rfl | rfl | rfl | rfl | rfl <;> revert hhead <;> decide
  · rw [List.any_eq_false]
    intro stem hstem
    rw [textEndsWith_chunkFileName_of_ne]
    · exact Bool.false_ne_true
    · revert stem
      decide
    · revert stem
      cases suffix <;> decide

theorem isFeatureSnapshotChunkFile_chunkFileName (chunkIndex : ℕ) (suffix : ChunkSuffix) :
    isFeatureSnapshotChunkFile (chunkFileName chunkIndex suffix) =
      decide (suffix ≠ .inProgress) := by
  have hstarts := List.isPrefixOf_iff_prefix.mpr (chunkFileName_startsWith chunkIndex suffix)
  have hends := textEndsWith_chunkFileName chunkIndex suffix
  unfold isFeatureSnapshotChunkFile
  rw [hstarts, Bool.true_and]
  cases suffix with
  | inProgress =>
      rw [textEndsWith_chunkFileName_of_ne (by decide) (by decide),
        textEndsWith_chunkFileName_of_ne (by decide) (by decide)]
      rfl
  | plain =>
      rw [show textEndsWith _ ".jsonl" = true from hends]
      rfl
  | compressed =>
      rw [show textEndsWith _ ".jsonl.zst" = true from hends, Bool.or_true]
      rfl

/-- A chunk is read unless it is still written to. -/
theorem readFeatureSnapshotFile_chunkFileName (chunkIndex : ℕ) (suffix : ChunkSuffix)
    (rows : List α) :
    readFeatureSnapshotFile (chunkFileName chunkIndex suffix) rows =
      if suffix = .inProgress then [] else rows := by
  have hmanifest : chunkFileName chunkIndex suffix ≠ chunkManifestName := by
    intro heq
    have hstarts := chunkFileName_startsWith chunkIndex suffix
    rw [heq] at hstarts
    revert hstarts
    decide
  unfold readFeatureSnapshotFile
  rw [isIgnoredArtifactPath_chunkFileName, if_neg Bool.false_ne_true,
    isFeatureSnapshotChunkFile_chunkFileName]
  cases suffix with
  | inProgress => simp
  | plain =>
      rw [textEndsWith_chunkFileName_of_ne (by decide) (by decide)]
      simp [hmanifest]
  | compressed =>
      rw [textEndsWith_chunkFileName_of_ne (by decide) (by decide)]
      simp [hmanifest]

/-! ## One directory -/

namespace ChunkDir

/-- The snapshots of the chunks that are still written to. -/
def openRows (files : KeyedMap String (List α)) : Multiset α :=
  ((files.entries.filter fun file => endsWithOpen file.1).map
    fun file => (file.2 : Multiset α)).sum

theorem read_add_openRows {dir : ChunkDir α} (h : FilesOk dir.files) :
    (dir.readFeatureSnapshotDir : Multiset α) + openRows dir.files = fileRows dir.files := by
  have hnames : ∀ file ∈ dir.files.entries, ∃ chunkIndex suffix,
      file.1 = chunkFileName chunkIndex suffix := by
    intro file hfile
    exact h.names file.1 (AList.mem_keys.mpr (List.mem_map_of_mem hfile))
  unfold readFeatureSnapshotDir openRows fileRows KeyedMap.values
  rw [List.map_map]
  generalize dir.files.entries = entries at hnames
  induction entries with
  | nil => rfl
  | cons file entries ih =>
      obtain ⟨⟨chunkIndex, suffix, hname⟩, hrest⟩ := List.forall_mem_cons.mp hnames
      have hread := ih hrest
      rw [List.flatMap_cons, List.filter_cons, List.map_cons, List.sum_cons, ← hread, hname,
        readFeatureSnapshotFile_chunkFileName, endsWithOpen_chunkFileName, ← Multiset.coe_add]
      by_cases hopen : suffix = .inProgress
      · simp only [hopen, if_true, decide_true, List.map_cons, List.sum_cons]
        rw [Multiset.coe_nil, zero_add]
        exact add_left_comm _ _ _
      · simp only [hopen, if_false, decide_false, Bool.false_eq_true, Function.comp_apply]
        exact add_assoc _ _ _

/-- What is read was written. -/
theorem read_le_rows {dir : ChunkDir α} (h : dir.Ok) :
    (dir.readFeatureSnapshotDir : Multiset α) ≤ dir.rows := by
  unfold rows
  rw [← read_add_openRows h.files, add_assoc]
  exact Multiset.le_add_right _ _

/-- Without a writer and without open chunks. -/
structure Settled (dir : ChunkDir α) : Prop where
  writer : dir.writer = none
  closed : ∀ chunkIndex, chunkFileName chunkIndex .inProgress ∉ dir.files

/-- Of a settled directory everything is read. -/
theorem Settled.read {dir : ChunkDir α} (hsettled : dir.Settled) (h : dir.Ok) :
    (dir.readFeatureSnapshotDir : Multiset α) = dir.rows := by
  have hopen : openRows dir.files = 0 := by
    unfold openRows
    rw [List.filter_eq_nil_iff.mpr]
    · rfl
    · intro file hfile hends
      have hmem : file.1 ∈ dir.files := AList.mem_keys.mpr (List.mem_map_of_mem hfile)
      obtain ⟨chunkIndex, suffix, hname⟩ := h.files.names file.1 hmem
      rw [hname, endsWithOpen_chunkFileName, decide_eq_true_eq] at hends
      rw [hname, hends] at hmem
      exact hsettled.closed chunkIndex hmem
  unfold rows
  rw [← read_add_openRows h.files, hopen, hsettled.writer, add_zero, Option.elim_none, add_zero]

theorem open_of_foldl_finalizeOpenFile (config : ChunkConfig) {names : List String}
    (hnames : ∀ name ∈ names,
      ∃ chunkIndex, chunkIndex < 100000 ∧ name = chunkFileName chunkIndex .inProgress)
    {files : KeyedMap String (List α)} {index : ℕ}
    (h : chunkFileName index .inProgress ∈ names.foldl (finalizeOpenFile config) files) :
    chunkFileName index .inProgress ∈ files ∧ chunkFileName index .inProgress ∉ names := by
  induction names generalizing files with
  | nil => exact ⟨h, List.not_mem_nil⟩
  | cons name names ih =>
      obtain ⟨⟨chunkIndex, hindex, rfl⟩, hrest⟩ := List.forall_mem_cons.mp hnames
      rw [List.foldl_cons, finalizeOpenFile, parseFeatureChunkIndex_chunkFileName hindex] at h
      obtain ⟨hmem, hnot⟩ := ih hrest h
      obtain ⟨hmem, hne⟩ := open_of_finalizeFeatureChunkFile hmem
      refine ⟨hmem, fun hname => ?_⟩
      rcases List.mem_cons.mp hname with heq | hname
      · exact hne (chunkFileName_inj.mp heq).1.symm
      · exact hnot hname

theorem settled_finalize {dir : ChunkDir α} (h : dir.Ok) {config : ChunkConfig}
    (hkeeps : dir.Keeps (.finalize config true)) :
    (dir.finalizeFeatureSnapshotChunksForRun config true).Settled where
  writer := finalizeWriter_writer dir config
  closed chunkIndex := by
    have hok := (added_finalizeWriter h config).1.ok
    have hnames : ∀ name ∈ (dir.finalizeWriter config).files.keys.filter endsWithOpen,
        ∃ chunkIndex, chunkIndex < 100000 ∧ name = chunkFileName chunkIndex .inProgress := by
      intro name hname
      obtain ⟨hmem, hends⟩ := List.mem_filter.mp hname
      obtain ⟨chunkIndex, suffix, rfl⟩ := hok.files.names name (AList.mem_keys.mpr hmem)
      rw [endsWithOpen_chunkFileName, decide_eq_true_eq] at hends
      subst hends
      obtain ⟨hopen, hother⟩ := open_of_finalizeWriter h (AList.mem_keys.mpr hmem)
      exact ⟨chunkIndex, hkeeps rfl chunkIndex hopen hother, rfl⟩
    intro hopen
    obtain ⟨hmem, hnot⟩ := open_of_foldl_finalizeOpenFile config hnames hopen
    refine hnot (List.mem_filter.mpr ⟨AList.mem_keys.mp hmem, ?_⟩)
    rw [endsWithOpen_chunkFileName]
    rfl

theorem Counted.keeps_finalize {config : ChunkConfig} {dir : ChunkDir α} {count : ℕ}
    (h : Counted config dir count) (hcount : count < 100000) :
    dir.Keeps (.finalize config true) :=
  fun _ chunkIndex hopen _ => ((h.indices chunkIndex).mp ⟨_, hopen⟩).2.trans_lt hcount

/-- The manifest counts what is read. -/
theorem totalRows_eq_length {dir : ChunkDir α} (h : FilesOk dir.files) :
    dir.featureSnapshotChunkManifest.totalRows = dir.readFeatureSnapshotDir.length := by
  have hnames : ∀ file ∈ dir.files.entries, ∃ chunkIndex suffix,
      file.1 = chunkFileName chunkIndex suffix := by
    intro file hfile
    exact h.names file.1 (AList.mem_keys.mpr (List.mem_map_of_mem hfile))
  unfold readFeatureSnapshotDir
  simp only [featureSnapshotChunkManifest]
  rw [((List.perm_insertionSort _ _).map _).sum_eq, List.map_map]
  generalize dir.files.entries = entries at hnames
  induction entries with
  | nil => rfl
  | cons file entries ih =>
      obtain ⟨⟨chunkIndex, suffix, hname⟩, hrest⟩ := List.forall_mem_cons.mp hnames
      rw [List.flatMap_cons, List.length_append, ← ih hrest, List.filter_cons, hname,
        readFeatureSnapshotFile_chunkFileName, isFeatureSnapshotChunkFile_chunkFileName]
      by_cases hopen : suffix = .inProgress <;> simp [hopen, chunkManifestEntry]

end ChunkDir

/-! ## All directories -/

namespace FeatureSnapshotStore

open ChunkDir (Added)

variable {size : StoredFeatureSnapshot α → ℕ} {store : FeatureSnapshotStore α}
  {rows : Multiset (StoredFeatureSnapshot α)}

/-- The chunks of a directory. -/
def dirAt (store : FeatureSnapshotStore α) (directory : String × String) :
    ChunkDir (StoredFeatureSnapshot α) :=
  (store.lookup directory).getD {}

/-- The condition on a step, for each directory that it touches. -/
def Keeps (store : FeatureSnapshotStore α) : FeatureStoreStep α → Prop
  | .write config record => (dirAt store record.directory).Keeps (.write config record)
  | .finalize config runId scenarioId => ∀ directory,
      visitsDirectory runId scenarioId directory = true →
        (dirAt store directory).Keeps (.finalize config true)
  | .restart => ∀ directory, (dirAt store directory).Keeps .restart

/-- The snapshot that a step writes. -/
def written : FeatureStoreStep α → Multiset (StoredFeatureSnapshot α)
  | .write _ record => {record}
  | .finalize _ _ _ => 0
  | .restart => 0

theorem dirAt_write (size : StoredFeatureSnapshot α → ℕ) (store : FeatureSnapshotStore α)
    (config : ChunkConfig) (record : StoredFeatureSnapshot α) (directory : String × String) :
    dirAt (step size store (.write config record)) directory =
      if directory = record.directory then
        (dirAt store directory).step size (.write config record)
      else dirAt store directory := by
  unfold dirAt step
  rw [KeyedMap.lookup_upsert]
  split
  · next h =>
      rw [h]
      rfl
  · rfl

theorem dirAt_finalize (size : StoredFeatureSnapshot α → ℕ) (store : FeatureSnapshotStore α)
    (config : ChunkConfig) (runId : String) (scenarioId : Option String)
    (directory : String × String) :
    dirAt (step size store (.finalize config runId scenarioId)) directory =
      if visitsDirectory runId scenarioId directory then
        (dirAt store directory).finalizeFeatureSnapshotChunksForRun config true
      else dirAt store directory := by
  unfold dirAt step
  simp only [KeyedMap.lookup_mapValues]
  cases store.lookup directory with
  | none => split <;> rfl
  | some dir => rfl

theorem dirAt_restart (size : StoredFeatureSnapshot α → ℕ) (store : FeatureSnapshotStore α)
    (directory : String × String) :
    dirAt (step size store .restart) directory = (dirAt store directory).step size .restart := by
  unfold dirAt step
  simp only [KeyedMap.lookup_mapValues]
  cases store.lookup directory <;> rfl

/-- A step adds what it writes to the directory of it. -/
theorem added_dirAt (size : StoredFeatureSnapshot α → ℕ)
    (hok : ∀ directory, (dirAt store directory).Ok) {next : FeatureStoreStep α}
    (hkeeps : Keeps store next) (directory : String × String) :
    Added (dirAt store directory) (dirAt (step size store next) directory)
      ((written next).filter fun record => record.directory = directory) := by
  cases next with
  | write config record =>
      rw [dirAt_write, written, Multiset.filter_singleton]
      by_cases hd : directory = record.directory
      · subst hd
        rw [if_pos rfl, if_pos rfl]
        exact ChunkDir.added_step size (hok _) hkeeps
      · rw [if_neg hd, if_neg (Ne.symm hd)]
        exact Added.refl (hok directory)
  | finalize config runId scenarioId =>
      rw [dirAt_finalize, written, Multiset.filter_zero]
      split
      · next hvisits => exact ChunkDir.added_finalize (hok directory) (hkeeps directory hvisits)
      · exact Added.refl (hok directory)
  | restart =>
      rw [dirAt_restart, written, Multiset.filter_zero]
      exact ChunkDir.added_step size (hok directory) (hkeeps directory)

/-- The directories hold what was written for them. -/
structure Holds (rows : Multiset (StoredFeatureSnapshot α)) (store : FeatureSnapshotStore α) :
    Prop where
  ok : ∀ directory, (dirAt store directory).Ok
  rows_eq : ∀ directory, (dirAt store directory).rows =
    rows.filter fun record => record.directory = directory

theorem Holds.step (h : Holds rows store) {next : FeatureStoreStep α}
    (hkeeps : Keeps store next) :
    Holds (rows + written next) (FeatureSnapshotStore.step size store next) where
  ok directory := (added_dirAt size h.ok hkeeps directory).ok
  rows_eq directory := by
    rw [(added_dirAt size h.ok hkeeps directory).total, h.rows_eq, Multiset.filter_add]

theorem Holds.run (h : Holds rows store) {steps : List (FeatureStoreStep α)}
    (hkeeps : Runs.Along (FeatureSnapshotStore.step size) Keeps store steps) :
    Holds (rows + (steps.map written).sum)
      (steps.foldl (FeatureSnapshotStore.step size) store) := by
  induction steps generalizing rows store with
  | nil => simpa using h
  | cons next steps ih =>
      rw [List.foldl_cons, List.map_cons, List.sum_cons, ← add_assoc]
      exact ih (h.step hkeeps.1) hkeeps.2

theorem holds_empty : Holds 0 (∅ : FeatureSnapshotStore α) where
  ok _ := ChunkDir.ok_empty
  rows_eq _ := rfl

/-- Writes to the directory. -/
def writesTo (directory : String × String) : FeatureStoreStep α → Bool
  | .write _ record => record.directory = directory
  | .finalize _ _ _ => false
  | .restart => false

/-- A directory stays settled until something is written to it. -/
theorem Holds.settled_run (h : Holds rows store) {steps : List (FeatureStoreStep α)}
    (hkeeps : Runs.Along (FeatureSnapshotStore.step size) Keeps store steps)
    {directory : String × String} (hsettled : (dirAt store directory).Settled)
    (hunwritten : ∀ next ∈ steps, writesTo directory next = false) :
    (dirAt (steps.foldl (FeatureSnapshotStore.step size) store) directory).Settled := by
  induction steps generalizing rows store with
  | nil => exact hsettled
  | cons next steps ih =>
      obtain ⟨hnext, hrest⟩ := List.forall_mem_cons.mp hunwritten
      refine ih (h.step hkeeps.1) hkeeps.2 ?_ hrest
      cases next with
      | write config record =>
          rw [dirAt_write, if_neg (Ne.symm (of_decide_eq_false hnext))]
          exact hsettled
      | finalize config runId scenarioId =>
          rw [dirAt_finalize]
          split
          · next hvisits =>
              exact ChunkDir.settled_finalize (h.ok directory) (hkeeps.1 directory hvisits)
          · exact hsettled
      | restart =>
          rw [dirAt_restart]
          exact ⟨rfl, hsettled.closed⟩

/-! ## Reading -/

/-- The directories that are read for a run, or for one scenario of it. -/
def selectsDirectory (runId : String) (scenarioId : Option String)
    (directory : String × String) : Bool :=
  match scenarioId with
  | some scenarioId => directory = (runId, scenarioId)
  | none => directory.1 = runId && !isIgnoredArtifactPath directory.2

/-- A snapshot of the run, or of one scenario of it, that a read finds. -/
def isFound (runId : String) (scenarioId : Option String) (record : StoredFeatureSnapshot α) :
    Bool :=
  record.runId = some runId && scenarioId.all (record.scenarioId = some ·) &&
    (scenarioId.isSome || !isIgnoredArtifactPath (record.scenarioId.getD "_all"))

/-- What is read for a run, or for a scenario of it, is visited when that is finalized. -/
theorem visits_of_selects {runId : String} {scenarioId finalized : Option String}
    {directory : String × String} (hfinalized : finalized = none ∨ finalized = scenarioId)
    (hselects : selectsDirectory runId scenarioId directory = true) :
    visitsDirectory runId finalized directory = true := by
  unfold visitsDirectory
  rw [Bool.and_eq_true, decide_eq_true_eq]
  cases scenarioId with
  | none =>
      have hnone : finalized = none := or_self_iff.mp hfinalized
      subst hnone
      exact ⟨of_decide_eq_true (Bool.and_eq_true_iff.mp hselects).1, rfl⟩
  | some scenario =>
      have hdirectory : directory = (runId, scenario) := of_decide_eq_true hselects
      subst hdirectory
      rcases hfinalized with rfl | rfl
      · exact ⟨rfl, rfl⟩
      · exact ⟨rfl, decide_eq_true rfl⟩

theorem Holds.directory_of_read (h : Holds rows store) {directory : String × String}
    {record : StoredFeatureSnapshot α}
    (hread : record ∈ (dirAt store directory).readFeatureSnapshotDir) :
    record.directory = directory := by
  have hmem := Multiset.mem_of_le (ChunkDir.read_le_rows (h.ok directory))
    (Multiset.mem_coe.mpr hread)
  rw [h.rows_eq, Multiset.mem_filter] at hmem
  exact hmem.2

theorem Holds.filter_readDirectories (h : Holds rows store) (selects : String × String → Bool)
    (directory : String × String) :
    (readDirectories store selects).filter (fun record => record.directory = directory) =
      if selects directory then (dirAt store directory).readFeatureSnapshotDir else [] := by
  have hgive := KeyedMap.filter_flatMap_entries store StoredFeatureSnapshot.directory
    (fun directory dir => if selects directory then dir.readFeatureSnapshotDir else [])
    (fun directory dir hlookup record hrecord => ?_) directory
  · unfold readDirectories
    rw [hgive]
    unfold dirAt
    cases store.lookup directory with
    | none => split <;> rfl
    | some dir => rfl
  · split at hrecord
    · refine h.directory_of_read ?_
      unfold dirAt
      rw [hlookup]
      exact hrecord
    · cases hrecord

/-- What is read for a run, or for one scenario of it, before the filter by the ids. -/
def readOut (store : FeatureSnapshotStore α) (runId : String) (scenarioId : Option String) :
    List (StoredFeatureSnapshot α) :=
  match scenarioId with
  | some scenarioId =>
    ((store.lookup (runId, scenarioId)).map ChunkDir.readFeatureSnapshotDir).getD []
  | none => readDirectories store (selectsDirectory runId none)

theorem read_perm (store : FeatureSnapshotStore α) (runId : String) (scenarioId : Option String) :
    (readFeatureSnapshotsFiltered store (some runId) scenarioId :
      Multiset (StoredFeatureSnapshot α)) =
      (readOut store runId scenarioId : Multiset (StoredFeatureSnapshot α)).filter
        (fun record => (record.runId = some runId &&
          scenarioId.all (record.scenarioId = some ·)) = true) := by
  rw [Multiset.filter_coe, Multiset.coe_eq_coe]
  simp only [Bool.decide_eq_true]
  have hsorted := List.perm_insertionSort
    (fun left right : StoredFeatureSnapshot α => left.observedAt ≤ right.observedAt)
    ((readOut store runId scenarioId).filter fun record =>
      record.runId = some runId && scenarioId.all (record.scenarioId = some ·))
  cases scenarioId with
  | none => exact hsorted
  | some scenario => exact hsorted

/-- What is read before it is filtered, directory by directory. -/
theorem Holds.filter_out (h : Holds rows store) (runId : String) (scenarioId : Option String)
    (directory : String × String) :
    (readOut store runId scenarioId).filter (fun record => record.directory = directory) =
      if selectsDirectory runId scenarioId directory then
        (dirAt store directory).readFeatureSnapshotDir else [] := by
  cases scenarioId with
  | none => exact h.filter_readDirectories _ directory
  | some scenario =>
      have hout : readOut store runId (some scenario) =
          (dirAt store (runId, scenario)).readFeatureSnapshotDir := by
        simp only [readOut, dirAt]
        cases store.lookup (runId, scenario) <;> rfl
      rw [hout]
      by_cases hd : directory = (runId, scenario)
      · have hselects : selectsDirectory runId (some scenario) directory = true :=
          decide_eq_true hd
        rw [if_pos hselects, hd, List.filter_eq_self]
        exact fun record hread => decide_eq_true (h.directory_of_read hread)
      · rw [if_neg (by simpa [selectsDirectory] using hd), List.filter_eq_nil_iff]
        intro record hread heq
        exact hd ((of_decide_eq_true heq).symm.trans (h.directory_of_read hread))

theorem filter_selects (rows : Multiset (StoredFeatureSnapshot α)) (runId : String)
    (scenarioId : Option String) (directory : String × String) :
    (rows.filter fun record => selectsDirectory runId scenarioId record.directory = true).filter
        (fun record => record.directory = directory) =
      if selectsDirectory runId scenarioId directory then
        rows.filter fun record => record.directory = directory
      else 0 := by
  rw [Multiset.filter_filter]
  split
  · next hselects =>
      refine Multiset.filter_congr fun record _ => ⟨And.left, fun hd => ⟨hd, ?_⟩⟩
      rw [hd]
      exact hselects
  · next hselects =>
      refine Multiset.filter_eq_nil.mpr fun record _ hboth => hselects ?_
      rw [← hboth.1]
      exact hboth.2

theorem Holds.out_le (h : Holds rows store) (runId : String) (scenarioId : Option String) :
    (readOut store runId scenarioId : Multiset (StoredFeatureSnapshot α)) ≤
      rows.filter fun record => selectsDirectory runId scenarioId record.directory = true := by
  refine KeyedMap.multiset_le_of_keys StoredFeatureSnapshot.directory fun directory => ?_
  rw [Multiset.filter_coe, h.filter_out, filter_selects]
  split
  · rw [← h.rows_eq]
    exact ChunkDir.read_le_rows (h.ok directory)
  · exact le_refl _

theorem Holds.out_eq (h : Holds rows store) {runId : String} {scenarioId : Option String}
    (hsettled : ∀ directory, selectsDirectory runId scenarioId directory = true →
      (dirAt store directory).Settled) :
    (readOut store runId scenarioId : Multiset (StoredFeatureSnapshot α)) =
      rows.filter fun record => selectsDirectory runId scenarioId record.directory = true := by
  refine KeyedMap.multiset_eq_of_keys StoredFeatureSnapshot.directory fun directory => ?_
  rw [Multiset.filter_coe, h.filter_out, filter_selects]
  split
  · next hselects => rw [← h.rows_eq, (hsettled directory hselects).read (h.ok directory)]
  · rfl

/-- The filter by the ids keeps of the selected directories what is found. -/
theorem filter_matches (rows : Multiset (StoredFeatureSnapshot α)) (runId : String)
    (scenarioId : Option String) :
    (rows.filter fun record => selectsDirectory runId scenarioId record.directory = true).filter
        (fun record => (record.runId = some runId &&
          scenarioId.all (record.scenarioId = some ·)) = true) =
      rows.filter (fun record => isFound runId scenarioId record = true) := by
  rw [Multiset.filter_filter]
  refine Multiset.filter_congr fun record _ => ?_
  unfold isFound selectsDirectory StoredFeatureSnapshot.directory
  cases scenarioId with
  | none => cases record.runId <;> simp
  | some scenario =>
      cases record.runId <;> cases record.scenarioId <;> simp [Prod.ext_iff]

theorem sorted_sortByObservedAt (records : List (StoredFeatureSnapshot α)) :
    (sortByObservedAt records).Pairwise
      (fun earlier later => earlier.observedAt ≤ later.observedAt) := by
  have htotal : Std.Total fun left right : StoredFeatureSnapshot α =>
      left.observedAt ≤ right.observedAt := ⟨fun _ _ => le_total _ _⟩
  have htrans : IsTrans (StoredFeatureSnapshot α) fun left right =>
      left.observedAt ≤ right.observedAt := ⟨fun _ _ _ hfirst hsecond => hfirst.trans hsecond⟩
  exact List.pairwise_insertionSort _ records

theorem sorted_read (store : FeatureSnapshotStore α) (runId scenarioId : Option String) :
    (readFeatureSnapshotsFiltered store runId scenarioId).Pairwise
      (fun earlier later => earlier.observedAt ≤ later.observedAt) := by
  unfold readFeatureSnapshotsFiltered readAllFeatureSnapshots
  split <;> exact sorted_sortByObservedAt _

/-- A read of a run, or of a scenario of it, finds in the order of their times snapshots that
were written, none of them twice. Once the run or the scenario was finalized it finds all of
them, until something is written to them again, and the manifests count them. -/
theorem feature_snapshots_read_back (size : StoredFeatureSnapshot α → ℕ)
    {steps : List (FeatureStoreStep α)} (runId : String) (scenarioId : Option String)
    (hkeeps : Runs.Along (step size) Keeps ∅ steps) :
    (readFeatureSnapshotsFiltered (steps.foldl (step size) ∅) (some runId) scenarioId :
        Multiset (StoredFeatureSnapshot α)) ≤
      (steps.map written).sum.filter (fun record => isFound runId scenarioId record = true) ∧
    (readFeatureSnapshotsFiltered (steps.foldl (step size) ∅) (some runId)
      scenarioId).Pairwise (fun earlier later => earlier.observedAt ≤ later.observedAt) ∧
    ∀ before config finalized after,
      steps = before ++ .finalize config runId finalized :: after →
      (finalized = none ∨ finalized = scenarioId) →
      (∀ directory, visitsDirectory runId finalized directory = true →
        ∀ next ∈ after, writesTo directory next = false) →
      (readFeatureSnapshotsFiltered (steps.foldl (step size) ∅) (some runId) scenarioId :
          Multiset (StoredFeatureSnapshot α)) =
        (steps.map written).sum.filter (fun record => isFound runId scenarioId record = true) ∧
      ∀ directory, visitsDirectory runId finalized directory = true →
        (dirAt (steps.foldl (step size) ∅) directory).featureSnapshotChunkManifest.totalRows =
          Multiset.card ((steps.map written).sum.filter
            fun record => record.directory = directory) := by
  have hholds := holds_empty.run hkeeps
  rw [zero_add] at hholds
  refine ⟨?_, sorted_read _ _ _, ?_⟩
  · rw [read_perm, ← filter_matches]
    exact Multiset.filter_le_filter _ (hholds.out_le runId scenarioId)
  · rintro before config finalized after rfl hfinalized hunwritten
    have hsettled : ∀ directory, visitsDirectory runId finalized directory = true →
        (dirAt ((before ++ .finalize config runId finalized :: after).foldl (step size) ∅)
          directory).Settled := by
      intro directory hvisits
      obtain ⟨hbefore, hrest⟩ := hkeeps.append
      have hreached := holds_empty.run hbefore
      rw [List.foldl_append, List.foldl_cons]
      refine (hreached.step hrest.1).settled_run hrest.2 ?_ (hunwritten directory hvisits)
      rw [dirAt_finalize, if_pos hvisits]
      exact ChunkDir.settled_finalize (hreached.ok directory) (hrest.1 directory hvisits)
    constructor
    · rw [read_perm, ← filter_matches, hholds.out_eq]
      intro directory hselects
      exact hsettled directory (visits_of_selects hfinalized hselects)
    · intro directory hvisits
      have hread := (hsettled directory hvisits).read (hholds.ok directory)
      rw [ChunkDir.totalRows_eq_length (hholds.ok directory).files, ← hholds.rows_eq, ← hread,
        Multiset.coe_card]

/-! ### Chunks of one row -/

/-- Every directory holds at most some chunks of one row. -/
def CountedUpTo (store : FeatureSnapshotStore α) (bound : ℕ) : Prop :=
  ∀ directory, ∃ count ≤ bound, ChunkDir.Counted ChunkDir.singleRows (dirAt store directory) count

theorem CountedUpTo.write {bound : ℕ} (h : store.CountedUpTo bound) (hbound : bound < 100000)
    (size : StoredFeatureSnapshot α → ℕ) (record : StoredFeatureSnapshot α) :
    Keeps store (.write ChunkDir.singleRows record) ∧
      (step size store (.write ChunkDir.singleRows record)).CountedUpTo (bound + 1) := by
  obtain ⟨count, hcount, hcounted⟩ := h record.directory
  refine ⟨hcounted.keeps_write (by omega) record, fun directory => ?_⟩
  rw [dirAt_write]
  split
  · next hd =>
      rw [hd]
      exact ⟨count + 1, by omega, hcounted.write size rfl (by omega) record⟩
  · obtain ⟨other, hother, hcounted⟩ := h directory
    exact ⟨other, by omega, hcounted⟩

/-- As many writes as there are chunk indices keep the conditions. -/
theorem CountedUpTo.writes {bound : ℕ} (h : store.CountedUpTo bound)
    (size : StoredFeatureSnapshot α → ℕ) (records : List (StoredFeatureSnapshot α))
    (hbound : bound + records.length ≤ 100000) :
    Runs.Along (step size) Keeps store (records.map (.write ChunkDir.singleRows)) ∧
      ((records.map (.write ChunkDir.singleRows)).foldl (step size) store).CountedUpTo
        (bound + records.length) := by
  induction records generalizing store bound with
  | nil => exact ⟨trivial, h⟩
  | cons record records ih =>
      rw [List.length_cons] at hbound
      obtain ⟨hkeeps, hnext⟩ := h.write (by omega) size record
      obtain ⟨halong, hlast⟩ := ih hnext (by omega)
      refine ⟨⟨hkeeps, halong⟩, ?_⟩
      rw [List.length_cons, Nat.add_comm records.length, ← Nat.add_assoc]
      exact hlast

theorem dirAt_writes_of_ne (size : StoredFeatureSnapshot α → ℕ)
    {records : List (StoredFeatureSnapshot α)} {directory : String × String}
    (h : ∀ record ∈ records, directory ≠ record.directory) :
    dirAt ((records.map (.write ChunkDir.singleRows)).foldl (step size) store) directory =
      dirAt store directory := by
  induction records generalizing store with
  | nil => rfl
  | cons record records ih =>
      obtain ⟨hfirst, hrest⟩ := List.forall_mem_cons.mp h
      rw [List.map_cons, List.foldl_cons, ih hrest, dirAt_write, if_neg hfirst]

/-- A run that writes chunks of one row and finalizes them keeps the conditions, also when the
process starts again behind it. -/
theorem keeps_finalized (size : StoredFeatureSnapshot α → ℕ) {runId : String}
    {records : List (StoredFeatureSnapshot α)} (hlength : records.length < 100000)
    (hrun : ∀ record ∈ records, visitsDirectory runId none record.directory = true) :
    Runs.Along (step size) Keeps ∅ (records.map (.write ChunkDir.singleRows) ++
      [.finalize ChunkDir.singleRows runId none, .restart]) := by
  have hempty : (∅ : FeatureSnapshotStore α).CountedUpTo 0 := fun directory =>
    ⟨0, le_rfl, ChunkDir.counted_empty ChunkDir.singleRows⟩
  obtain ⟨halong, hcounted⟩ := hempty.writes size records (by omega)
  refine halong.concat ⟨?_, ?_, trivial⟩
  · intro directory _
    obtain ⟨count, hcount, hdir⟩ := hcounted directory
    exact hdir.keeps_finalize (by omega)
  · intro directory writer hwriter
    rw [dirAt_finalize] at hwriter
    split at hwriter
    · cases (ChunkDir.finalizeWriter_writer _ ChunkDir.singleRows).symm.trans hwriter
    · next hother =>
        rw [dirAt_writes_of_ne] at hwriter
        · cases hwriter
        · rintro record hmem rfl
          exact hother (hrun record hmem)

/-- A snapshot of a run. -/
def runSnapshot (scenarioId : String) (observedAt : OffsetDateTime) (record : ℕ) :
    StoredFeatureSnapshot ℕ :=
  { runId := some "run"
    scenarioId := some scenarioId
    observedAt := observedAt
    record := record }

/-- Three snapshots of two scenarios, not in the order of their times. -/
def runSnapshots : List (StoredFeatureSnapshot ℕ) :=
  [runSnapshot "base" 5 7, runSnapshot "stress" 3 8, runSnapshot "base" 4 9]

/-- The snapshots are written, the run is finalized, and the process starts again. -/
def snapshotSteps : List (FeatureStoreStep ℕ) :=
  runSnapshots.map (.write ChunkDir.singleRows) ++
    [.finalize ChunkDir.singleRows "run" none, .restart]

theorem run_snapshots_read_back :
    (readFeatureSnapshotsFiltered (snapshotSteps.foldl (step fun _ => 1) ∅) (some "run") none :
        Multiset (StoredFeatureSnapshot ℕ)) =
      (snapshotSteps.map written).sum.filter
        (fun record => isFound "run" none record = true) := by
  have hrun : ∀ record ∈ runSnapshots, visitsDirectory "run" none record.directory = true := by
    decide
  have halong := keeps_finalized (fun _ => 1) (by decide) hrun
  refine ((feature_snapshots_read_back (fun _ => 1) "run" none halong).2.2
    (runSnapshots.map (.write ChunkDir.singleRows)) ChunkDir.singleRows none [.restart] rfl
    (Or.inl rfl) ?_).1
  intro directory _ next hnext
  obtain rfl := List.mem_singleton.mp hnext
  rfl

end FeatureSnapshotStore

end PumpLaunchTrader
