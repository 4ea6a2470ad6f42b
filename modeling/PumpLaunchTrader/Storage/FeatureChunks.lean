import PumpLaunchTrader.Model.FeatureChunks
import PumpLaunchTrader.Lib.Lines
import PumpLaunchTrader.Lib.Extremes
import PumpLaunchTrader.Lib.Runs

/-! # The chunks of a directory

While the indices of a directory have at most five digits, every new chunk has an index above
all others, no finalized chunk is touched again, and the chunks hold exactly the snapshots
that were written. -/

namespace PumpLaunchTrader

/-! ## Names of chunk files -/

theorem toList_chunkFileName (chunkIndex : ℕ) (suffix : ChunkSuffix) :
    (chunkFileName chunkIndex suffix).toList =
      chunkPrefix.toList ++ (Digits.padded 5 chunkIndex ++ suffix.text.toList) := by
  rw [chunkFileName, String.toList_append, String.toList_append,
    Labels.toList_zeroPadded (by decide), List.append_assoc]

theorem suffix_startsOutside (suffix : ChunkSuffix) :
    Delimited.StartsOutside (·.isDigit = true) suffix.text.toList := by
  cases suffix <;> decide

theorem chunkFileName_inj {chunkIndex chunkIndex' : ℕ} {suffix suffix' : ChunkSuffix} :
    chunkFileName chunkIndex suffix = chunkFileName chunkIndex' suffix' ↔
      chunkIndex = chunkIndex' ∧ suffix = suffix' := by
  constructor
  · intro h
    rw [String.ext_iff, toList_chunkFileName, toList_chunkFileName,
      List.append_cancel_left_eq] at h
    obtain ⟨hdigits, hsuffix⟩ := Delimited.append_inj_left
      (fun c => Digits.isDigit_of_mem_padded) (fun c => Digits.isDigit_of_mem_padded)
      (suffix_startsOutside suffix) (suffix_startsOutside suffix') h
    refine ⟨Digits.padded_injective hdigits, ?_⟩
    revert hsuffix
    cases suffix <;> cases suffix' <;> decide
  · rintro ⟨rfl, rfl⟩
    rfl

theorem parseFeatureChunkIndex_eq (chunkIndex : ℕ) (suffix : ChunkSuffix) :
    parseFeatureChunkIndex (chunkFileName chunkIndex suffix) =
      let digits := (Digits.padded 5 chunkIndex ++ suffix.text.toList).take 5
      if digits.length = 5 ∧ digits.all Char.isDigit then
        some (Nat.ofDigitChars 10 digits 0) else none := by
  unfold parseFeatureChunkIndex
  rw [toList_chunkFileName, if_pos (List.prefix_append _ _)]
  have hdrop : (chunkPrefix.toList ++ (Digits.padded 5 chunkIndex ++ suffix.text.toList)).drop
      chunkPrefix.length = Digits.padded 5 chunkIndex ++ suffix.text.toList := by
    rw [← String.length_toList, List.drop_left]
  rw [hdrop]

/-- An index of at most five digits is read back from the name. -/
theorem parseFeatureChunkIndex_chunkFileName {chunkIndex : ℕ} (h : chunkIndex < 100000)
    (suffix : ChunkSuffix) :
    parseFeatureChunkIndex (chunkFileName chunkIndex suffix) = some chunkIndex := by
  have hlength : (Digits.padded 5 chunkIndex).length = 5 := Digits.length_padded (by decide) h
  have htake : (Digits.padded 5 chunkIndex ++ suffix.text.toList).take 5 =
      Digits.padded 5 chunkIndex := List.take_left' hlength
  have hall : (Digits.padded 5 chunkIndex).all Char.isDigit = true :=
    List.all_eq_true.mpr fun c => Digits.isDigit_of_mem_padded
  rw [parseFeatureChunkIndex_eq]
  simp only [htake, hlength, hall, Digits.ofDigitChars_padded, and_self, if_true]

/-- Of a larger index only the first five digits are read. -/
theorem lt_of_parseFeatureChunkIndex {name : String} {chunkIndex : ℕ}
    (h : parseFeatureChunkIndex name = some chunkIndex) : chunkIndex < 100000 := by
  unfold parseFeatureChunkIndex at h
  split at h
  · simp only at h
    generalize (name.toList.drop chunkPrefix.length).take 5 = digits at h
    by_cases hdigits : digits.length = 5 ∧ digits.all Char.isDigit
    · rw [if_pos hdigits, Option.some.injEq] at h
      have hlt := Digits.ofDigitChars_lt (List.all_eq_true.mp hdigits.2)
      rw [hdigits.1, h] at hlt
      exact hlt
    · rw [if_neg hdigits] at h
      cases h
  · cases h

theorem endsWithOpen_chunkFileName (chunkIndex : ℕ) (suffix : ChunkSuffix) :
    endsWithOpen (chunkFileName chunkIndex suffix) = decide (suffix = .inProgress) := by
  have hlast : (chunkFileName chunkIndex suffix).toList.getLast? =
      suffix.text.toList.getLast? := by
    rw [toList_chunkFileName, ← List.append_assoc,
      List.getLast?_append_of_ne_nil _ (by cases suffix <;> decide)]
  have hopen : endsWithOpen (chunkFileName chunkIndex suffix) = true →
      suffix.text.toList.getLast? = some 'n' := by
    intro h
    obtain ⟨before, hbefore⟩ := of_decide_eq_true h
    rw [← hlast, ← hbefore, List.getLast?_append_of_ne_nil _ (by decide)]
    rfl
  cases suffix with
  | inProgress =>
      rw [decide_eq_true rfl]
      refine decide_eq_true ?_
      rw [toList_chunkFileName, ← List.append_assoc]
      exact List.suffix_append _ _
  | plain =>
      rw [decide_eq_false (by decide), Bool.eq_false_iff]
      exact fun h => absurd (hopen h) (by decide)
  | compressed =>
      rw [decide_eq_false (by decide), Bool.eq_false_iff]
      exact fun h => absurd (hopen h) (by decide)

/-! ## Files -/

variable {α : Type}

/-- The snapshots in some files. -/
def fileRows (files : KeyedMap String (List α)) : Multiset α :=
  (files.values.map Multiset.ofList).sum

/-- A chunk of this index is there, finalized or not. -/
def HasIndex (files : KeyedMap String (List α)) (chunkIndex : ℕ) : Prop :=
  ∃ suffix, chunkFileName chunkIndex suffix ∈ files

/-- The files are chunks, one for each index. -/
structure FilesOk (files : KeyedMap String (List α)) : Prop where
  names : ∀ name ∈ files, ∃ chunkIndex suffix, name = chunkFileName chunkIndex suffix
  unique : ∀ chunkIndex suffix suffix', chunkFileName chunkIndex suffix ∈ files →
    chunkFileName chunkIndex suffix' ∈ files → suffix = suffix'

/-- No finalized chunk is truncated or replaced. -/
def Kept (files files' : KeyedMap String (List α)) : Prop :=
  ∀ chunkIndex suffix rows, suffix ≠ .inProgress →
    files.lookup (chunkFileName chunkIndex suffix) = some rows →
    files'.lookup (chunkFileName chunkIndex suffix) = some rows

/-- The files of a directory after some rows were added to chunks that are not finalized. -/
structure Moved (files files' : KeyedMap String (List α)) (rows : Multiset α) : Prop where
  ok : FilesOk files'
  kept : Kept files files'
  total : fileRows files' = fileRows files + rows
  indices : ∀ chunkIndex, HasIndex files' chunkIndex ↔ HasIndex files chunkIndex

theorem Moved.refl {files : KeyedMap String (List α)} (h : FilesOk files) :
    Moved files files 0 :=
  ⟨h, fun _ _ _ _ => id, (add_zero _).symm, fun _ => Iff.rfl⟩

theorem Moved.trans {files files' files'' : KeyedMap String (List α)} {rows rows' : Multiset α}
    (h : Moved files files' rows) (h' : Moved files' files'' rows') :
    Moved files files'' (rows + rows') where
  ok := h'.ok
  kept := fun chunkIndex suffix kept hsuffix hlookup =>
    h'.kept chunkIndex suffix kept hsuffix (h.kept chunkIndex suffix kept hsuffix hlookup)
  total := by rw [h'.total, h.total, add_assoc]
  indices := fun chunkIndex => (h'.indices chunkIndex).trans (h.indices chunkIndex)

theorem fileRows_insert {files : KeyedMap String (List α)} {name : String} (rows : List α) :
    fileRows (files.insert name rows) = fileRows (files.erase name) + (rows : Multiset α) := by
  unfold fileRows
  rw [KeyedMap.values_insert, List.map_cons, List.sum_cons, add_comm]

theorem fileRows_of_lookup {files : KeyedMap String (List α)} {name : String} {rows : List α}
    (h : files.lookup name = some rows) :
    fileRows files = fileRows (files.erase name) + (rows : Multiset α) := by
  unfold fileRows
  rw [((KeyedMap.perm_values_of_lookup h).map _).sum_eq, List.map_cons, List.sum_cons, add_comm]

/-- Rows that are appended to a file in progress. -/
theorem moved_appendRows {files : KeyedMap String (List α)} (h : FilesOk files)
    {chunkIndex : ℕ} (hopen : chunkFileName chunkIndex .inProgress ∈ files) (rows : List α) :
    Moved files (appendRows files (chunkFileName chunkIndex .inProgress) rows)
      (rows : Multiset α) := by
  obtain ⟨before, hbefore⟩ := (KeyedMap.mem_keys_iff files _).mp (AList.mem_keys.mpr hopen)
  unfold appendRows
  refine ⟨⟨?_, ?_⟩, ?_, ?_, ?_⟩
  · intro name hname
    exact h.names name ((KeyedMap.mem_adjust files _ _ _).mp hname)
  · intro index suffix suffix' hmem hmem'
    exact h.unique index suffix suffix' ((KeyedMap.mem_adjust files _ _ _).mp hmem)
      ((KeyedMap.mem_adjust files _ _ _).mp hmem')
  · intro index suffix kept hsuffix hlookup
    rw [KeyedMap.lookup_adjust_ne _ (fun hname => hsuffix (chunkFileName_inj.mp hname).2), hlookup]
  · have hadjust : files.adjust (chunkFileName chunkIndex .inProgress) (· ++ rows) =
        files.insert (chunkFileName chunkIndex .inProgress) (before ++ rows) := by
      unfold KeyedMap.adjust
      rw [hbefore]
    rw [hadjust, fileRows_insert, fileRows_of_lookup hbefore, ← Multiset.coe_add, add_assoc]
  · intro index
    unfold HasIndex
    simp only [KeyedMap.mem_adjust]

theorem finalSuffix_ne_inProgress (config : ChunkConfig) : config.finalSuffix ≠ .inProgress := by
  unfold ChunkConfig.finalSuffix
  split <;> decide

/-- A chunk is not open any more after it was finalized. -/
theorem open_of_finalizeFeatureChunkFile {config : ChunkConfig}
    {files : KeyedMap String (List α)} {chunkIndex index : ℕ}
    (h : chunkFileName index .inProgress ∈ finalizeFeatureChunkFile config files chunkIndex
      (chunkFileName chunkIndex .inProgress)) :
    chunkFileName index .inProgress ∈ files ∧ chunkIndex ≠ index := by
  unfold finalizeFeatureChunkFile at h
  cases hopen : files.lookup (chunkFileName chunkIndex .inProgress) with
  | none =>
      rw [hopen] at h
      refine ⟨h, ?_⟩
      rintro rfl
      exact AList.lookup_eq_none.mp hopen h
  | some rows =>
      rw [hopen] at h
      rcases (AList.mem_insert _).mp h with heq | h
      · exact absurd (chunkFileName_inj.mp heq).2.symm (finalSuffix_ne_inProgress config)
      · obtain ⟨hne, hthere⟩ := AList.mem_erase.mp h
        exact ⟨hthere, fun heq => hne (by rw [heq])⟩

/-! ### Renaming a file in progress -/

section Renamed

variable {files : KeyedMap String (List α)} {chunkIndex : ℕ} {rows : List α}
  {final : ChunkSuffix}

/-- The files after the one in progress of an index got its final name. -/
def renamed (files : KeyedMap String (List α)) (chunkIndex : ℕ) (final : ChunkSuffix)
    (rows : List α) : KeyedMap String (List α) :=
  (files.erase (chunkFileName chunkIndex .inProgress)).insert (chunkFileName chunkIndex final) rows

/-- One file holds the index, so nothing stands under the final name yet. -/
theorem final_not_mem (h : FilesOk files)
    (hopen : files.lookup (chunkFileName chunkIndex .inProgress) = some rows)
    (hfinal : final ≠ .inProgress) : chunkFileName chunkIndex final ∉ files := by
  intro hthere
  have hmem : chunkFileName chunkIndex .inProgress ∈ files :=
    AList.lookup_isSome.mp (by rw [hopen]; rfl)
  exact hfinal (h.unique _ _ _ hthere hmem)

/-- The index has its final file alone, and the others have the files that they had. -/
theorem mem_renamed (h : FilesOk files)
    (hopen : files.lookup (chunkFileName chunkIndex .inProgress) = some rows)
    (index : ℕ) (suffix : ChunkSuffix) :
    chunkFileName index suffix ∈ renamed files chunkIndex final rows ↔
      if index = chunkIndex then suffix = final else chunkFileName index suffix ∈ files := by
  have hmem : chunkFileName chunkIndex .inProgress ∈ files :=
    AList.lookup_isSome.mp (by rw [hopen]; rfl)
  rw [renamed, AList.mem_insert, AList.mem_erase, Ne, chunkFileName_inj, chunkFileName_inj]
  by_cases hindex : index = chunkIndex
  · subst hindex
    rw [if_pos rfl]
    constructor
    · rintro (⟨-, hsuffix⟩ | ⟨hne, hthere⟩)
      · exact hsuffix
      · exact absurd ⟨rfl, h.unique _ _ _ hthere hmem⟩ hne
    · exact fun hsuffix => Or.inl ⟨rfl, hsuffix⟩
  · simp [hindex]

theorem filesOk_renamed (h : FilesOk files)
    (hopen : files.lookup (chunkFileName chunkIndex .inProgress) = some rows) :
    FilesOk (renamed files chunkIndex final rows) where
  names := by
    intro name hthere
    rcases (AList.mem_insert _).mp hthere with rfl | hold
    · exact ⟨_, _, rfl⟩
    · exact h.names name (AList.mem_erase.mp hold).2
  unique := by
    intro index suffix suffix' hthere hthere'
    rw [mem_renamed h hopen] at hthere hthere'
    split at hthere
    · next hindex =>
        rw [if_pos hindex] at hthere'
        exact hthere.trans hthere'.symm
    · next hindex =>
        rw [if_neg hindex] at hthere'
        exact h.unique index suffix suffix' hthere hthere'

theorem kept_renamed (hfresh : chunkFileName chunkIndex final ∉ files) :
    Kept files (renamed files chunkIndex final rows) := by
  intro index suffix kept hsuffix hlookup
  have hthere : chunkFileName index suffix ∈ files :=
    AList.lookup_isSome.mp (by rw [hlookup]; rfl)
  have hne : chunkFileName index suffix ≠ chunkFileName chunkIndex final :=
    fun heq => hfresh (heq ▸ hthere)
  rw [renamed, AList.lookup_insert_ne hne,
    AList.lookup_erase_ne (fun heq => hsuffix (chunkFileName_inj.mp heq).2), hlookup]

theorem fileRows_renamed (hfresh : chunkFileName chunkIndex final ∉ files)
    (hopen : files.lookup (chunkFileName chunkIndex .inProgress) = some rows) :
    fileRows (renamed files chunkIndex final rows) = fileRows files := by
  have herase : (files.erase (chunkFileName chunkIndex .inProgress)).erase
      (chunkFileName chunkIndex final) = files.erase (chunkFileName chunkIndex .inProgress) := by
    apply KeyedMap.erase_of_lookup_eq_none
    apply AList.lookup_eq_none.mpr
    exact fun hthere => hfresh (AList.mem_erase.mp hthere).2
  rw [renamed, fileRows_insert, herase, fileRows_of_lookup hopen]

theorem hasIndex_renamed (h : FilesOk files)
    (hopen : files.lookup (chunkFileName chunkIndex .inProgress) = some rows) (index : ℕ) :
    HasIndex (renamed files chunkIndex final rows) index ↔ HasIndex files index := by
  unfold HasIndex
  simp only [mem_renamed h hopen]
  by_cases hindex : index = chunkIndex
  · have hthere : ∃ suffix, chunkFileName index suffix ∈ files :=
      ⟨.inProgress, AList.lookup_isSome.mp (by rw [hindex, hopen]; rfl)⟩
    simp [hindex, hindex ▸ hthere]
  · simp [hindex]

end Renamed

/-- A chunk that is finalized under its own index. -/
theorem moved_finalizeFeatureChunkFile (config : ChunkConfig)
    {files : KeyedMap String (List α)} (h : FilesOk files) (chunkIndex : ℕ) :
    Moved files (finalizeFeatureChunkFile config files chunkIndex
      (chunkFileName chunkIndex .inProgress)) 0 := by
  unfold finalizeFeatureChunkFile
  cases hopen : files.lookup (chunkFileName chunkIndex .inProgress) with
  | none => exact Moved.refl h
  | some rows =>
      have hfresh := final_not_mem h hopen (finalSuffix_ne_inProgress config)
      have htotal := fileRows_renamed hfresh hopen
      exact
        { ok := filesOk_renamed h hopen
          kept := kept_renamed hfresh
          total := htotal.trans (add_zero _).symm
          indices := hasIndex_renamed h hopen }

/-- The index that is chosen lies above those of all chunks exactly if these have at most
five digits. -/
theorem lt_nextFeatureSnapshotChunkIndex_iff {files : KeyedMap String (List α)} :
    (∀ chunkIndex, HasIndex files chunkIndex →
      chunkIndex < nextFeatureSnapshotChunkIndex files) ↔
      ∀ chunkIndex, HasIndex files chunkIndex → chunkIndex < 100000 := by
  constructor
  · have hnext : nextFeatureSnapshotChunkIndex files ≤ 100000 := by
      refine Nat.succ_le_succ (Extremes.foldl_max_le_iff.mpr ⟨Nat.zero_le _, ?_⟩)
      intro index hindex
      obtain ⟨name, -, hparse⟩ := List.mem_filterMap.mp hindex
      exact Nat.le_of_lt_succ (lt_of_parseFeatureChunkIndex hparse)
    exact fun h chunkIndex hindex => Nat.lt_of_lt_of_le (h chunkIndex hindex) hnext
  · rintro h chunkIndex ⟨suffix, hthere⟩
    have hparse := parseFeatureChunkIndex_chunkFileName (h chunkIndex ⟨suffix, hthere⟩) suffix
    have hmem : chunkIndex ∈ files.keys.filterMap parseFeatureChunkIndex :=
      List.mem_filterMap.mpr ⟨_, AList.mem_keys.mp hthere, hparse⟩
    exact Nat.lt_succ_of_le ((Extremes.foldl_max_le_iff.mp le_rfl).2 chunkIndex hmem)

/-- Open files of small indices are finalized under their own indices. -/
theorem moved_foldl_finalizeOpenFile (config : ChunkConfig) {names : List String}
    (hnames : ∀ name ∈ names,
      ∃ chunkIndex, chunkIndex < 100000 ∧ name = chunkFileName chunkIndex .inProgress)
    {files : KeyedMap String (List α)} (h : FilesOk files) :
    Moved files (names.foldl (finalizeOpenFile config) files) 0 := by
  induction names generalizing files with
  | nil => exact Moved.refl h
  | cons name names ih =>
      obtain ⟨⟨chunkIndex, hindex, rfl⟩, hrest⟩ := List.forall_mem_cons.mp hnames
      have hfirst := moved_finalizeFeatureChunkFile config h chunkIndex
      rw [List.foldl_cons, finalizeOpenFile, parseFeatureChunkIndex_chunkFileName hindex]
      exact hfirst.trans (ih hrest hfirst.ok)

/-! ## The directory -/

namespace ChunkDir

/-- The files are chunks, and the writer writes to the open one of its index. -/
structure Ok (dir : ChunkDir α) : Prop where
  files : FilesOk dir.files
  writer : ∀ writer ∈ dir.writer, writer.openPath = chunkFileName writer.chunkIndex .inProgress ∧
    writer.openPath ∈ dir.files

theorem ok_empty : ({} : ChunkDir α).Ok where
  files :=
    { names := fun name hname => absurd hname (AList.notMem_empty name)
      unique := fun _ _ _ hname _ => absurd hname (AList.notMem_empty _) }
  writer := fun _ hnone => by cases hnone

/-- The snapshots in the chunks, with those that the writer has not written out yet. -/
def rows (dir : ChunkDir α) : Multiset α :=
  fileRows dir.files + dir.writer.elim 0 fun writer => (writer.buffered : Multiset α)

/-- Some rows were added, and no finalized chunk was touched. -/
structure Added (dir dir' : ChunkDir α) (rows : Multiset α) : Prop where
  ok : dir'.Ok
  kept : Kept dir.files dir'.files
  total : dir'.rows = dir.rows + rows

theorem Added.trans {dir dir' dir'' : ChunkDir α} {rows rows' : Multiset α}
    (h : Added dir dir' rows) (h' : Added dir' dir'' rows') : Added dir dir'' (rows + rows') where
  ok := h'.ok
  kept := fun chunkIndex suffix kept hsuffix hlookup =>
    h'.kept chunkIndex suffix kept hsuffix (h.kept chunkIndex suffix kept hsuffix hlookup)
  total := by rw [h'.total, h.total, add_assoc]

theorem Added.refl {dir : ChunkDir α} (h : dir.Ok) : Added dir dir 0 :=
  ⟨h, fun _ _ _ _ => id, (add_zero _).symm⟩

theorem moved_finalizeWriter {dir : ChunkDir α} (h : dir.Ok) (config : ChunkConfig)
    {writer : FeatureSnapshotChunkWriter α} (hwriter : dir.writer = some writer) :
    Moved dir.files (finalizeFeatureChunkWriter config dir.files writer)
      (writer.buffered : Multiset α) := by
  obtain ⟨hpath, hopen⟩ := h.writer writer hwriter
  rw [hpath] at hopen
  have hflushed := moved_appendRows h.files hopen writer.buffered
  unfold finalizeFeatureChunkWriter
  rw [hpath]
  simpa using hflushed.trans (moved_finalizeFeatureChunkFile config hflushed.ok writer.chunkIndex)

theorem finalizeWriter_writer (dir : ChunkDir α) (config : ChunkConfig) :
    (dir.finalizeWriter config).writer = none := by
  unfold finalizeWriter
  split
  · assumption
  · rfl

theorem added_finalizeWriter {dir : ChunkDir α} (h : dir.Ok) (config : ChunkConfig) :
    Added dir (dir.finalizeWriter config) 0 ∧
      ∀ chunkIndex, HasIndex (dir.finalizeWriter config).files chunkIndex ↔
        HasIndex dir.files chunkIndex := by
  unfold finalizeWriter
  cases hwriter : dir.writer with
  | none => exact ⟨Added.refl h, fun _ => Iff.rfl⟩
  | some writer =>
      have hmoved := moved_finalizeWriter h config hwriter
      refine ⟨⟨⟨hmoved.ok, fun _ hnone => by cases hnone⟩, hmoved.kept, ?_⟩, hmoved.indices⟩
      simp [rows, hmoved.total, hwriter]

theorem added_finalizeFull {dir : ChunkDir α} (h : dir.Ok) (config : ChunkConfig) :
    Added dir (dir.finalizeFull config) 0 ∧
      ∀ chunkIndex, HasIndex (dir.finalizeFull config).files chunkIndex ↔
        HasIndex dir.files chunkIndex := by
  unfold finalizeFull
  cases hwriter : dir.writer with
  | none => exact ⟨Added.refl h, fun _ => Iff.rfl⟩
  | some writer =>
      simp only
      split
      · exact added_finalizeWriter h config
      · exact ⟨Added.refl h, fun _ => Iff.rfl⟩

/-- A chunk is opened when there is no writer or its chunk is full. -/
theorem finalizeFull_writer_eq_none {dir : ChunkDir α} {config : ChunkConfig} :
    (dir.finalizeFull config).writer = none ↔
      ∀ writer ∈ dir.writer, config.chunkRows ≤ writer.rowCount := by
  unfold finalizeFull
  cases hwriter : dir.writer with
  | none => simp [hwriter]
  | some writer =>
      simp only
      split
      · next hfull => simp [finalizeWriter_writer, hfull]
      · next hfull => simp [hwriter, hfull]

/-- A new chunk has a new name if its index lies above all others. -/
theorem added_ensureWriter {dir : ChunkDir α} (h : dir.Ok)
    (hindex : dir.writer = none → ∀ chunkIndex, HasIndex dir.files chunkIndex →
      chunkIndex < nextFeatureSnapshotChunkIndex dir.files) :
    Added dir dir.ensureWriter 0 := by
  unfold ensureWriter
  cases hwriter : dir.writer with
  | some writer => exact Added.refl h
  | none =>
      have hbelow := hindex hwriter
      simp only
      generalize nextFeatureSnapshotChunkIndex dir.files = next at hbelow ⊢
      have hnone : ∀ suffix, chunkFileName next suffix ∉ dir.files :=
        fun suffix hthere => Nat.lt_irrefl next (hbelow next ⟨suffix, hthere⟩)
      have hlookup : dir.files.lookup (chunkFileName next .inProgress) = none :=
        AList.lookup_eq_none.mpr (hnone _)
      have hinsert : dir.files.upsert (chunkFileName next .inProgress) [] id =
          dir.files.insert (chunkFileName next .inProgress) [] := by
        rw [KeyedMap.upsert, hlookup]
        rfl
      rw [hinsert]
      have hmem : ∀ chunkIndex suffix, chunkFileName chunkIndex suffix ∈
          dir.files.insert (chunkFileName next .inProgress) [] ↔
          (chunkIndex = next ∧ suffix = .inProgress) ∨
            chunkFileName chunkIndex suffix ∈ dir.files := by
        intro chunkIndex suffix
        rw [AList.mem_insert, chunkFileName_inj]
      refine ⟨⟨⟨?_, ?_⟩, ?_⟩, ?_, ?_⟩
      · intro name hname
        rcases (AList.mem_insert _).mp hname with rfl | hold
        · exact ⟨_, _, rfl⟩
        · exact h.files.names name hold
      · intro chunkIndex suffix suffix' hthere hthere'
        rcases (hmem _ _).mp hthere with ⟨rfl, rfl⟩ | hold
        · rcases (hmem _ _).mp hthere' with ⟨-, rfl⟩ | hold'
          · rfl
          · exact absurd hold' (hnone suffix')
        · rcases (hmem _ _).mp hthere' with ⟨rfl, -⟩ | hold'
          · exact absurd hold (hnone suffix)
          · exact h.files.unique chunkIndex suffix suffix' hold hold'
      · intro writer hsome
        obtain rfl := Option.some.inj hsome
        exact ⟨rfl, (AList.mem_insert _).mpr (Or.inl rfl)⟩
      · intro chunkIndex suffix kept hsuffix hkept
        rw [AList.lookup_insert_ne (fun heq => hsuffix (chunkFileName_inj.mp heq).2), hkept]
      · simp [rows, fileRows_insert, KeyedMap.erase_of_lookup_eq_none hlookup, hwriter]

theorem ensureWriter_writer (dir : ChunkDir α) : dir.ensureWriter.writer ≠ none := by
  unfold ensureWriter
  split
  · next hwriter => rw [hwriter]; exact Option.some_ne_none _
  · exact Option.some_ne_none _

/-- What a writer has written out and what it still holds make up its rows. -/
theorem added_of_moved {dir : ChunkDir α} (h : dir.Ok)
    {writer : FeatureSnapshotChunkWriter α} (hwriter : dir.writer = some writer)
    {files : KeyedMap String (List α)} {out row : Multiset α} {buffered : List α}
    (hmoved : Moved dir.files files out) (hopen : writer.openPath ∈ files)
    (htotal : out + (buffered : Multiset α) = (writer.buffered : Multiset α) + row)
    (rowCount : ℕ) :
    Added dir
      { files := files
        writer := some { writer with rowCount := rowCount, buffered := buffered } } row where
  ok := ⟨hmoved.ok, fun other hother => by
    obtain rfl := Option.some.inj hother
    exact ⟨(h.writer writer hwriter).1, hopen⟩⟩
  kept := hmoved.kept
  total := by
    simp only [rows, hwriter, Option.elim_some, hmoved.total]
    rw [add_assoc, htotal, ← add_assoc]

theorem added_writeRow (size : α → ℕ) {dir : ChunkDir α} (h : dir.Ok)
    (hwriter : dir.writer ≠ none) (row : α) : Added dir (dir.writeRow size row) {row} := by
  obtain ⟨writer, hwriter⟩ := Option.ne_none_iff_exists'.mp hwriter
  obtain ⟨hpath, hopen⟩ := h.writer writer hwriter
  have happend : ∀ {files : KeyedMap String (List α)} {out : Multiset α},
      Moved dir.files files out → writer.openPath ∈ files → ∀ rows : List α,
        Moved dir.files (appendRows files writer.openPath rows) (out + (rows : Multiset α)) ∧
          writer.openPath ∈ appendRows files writer.openPath rows := by
    intro files out hmoved hthere rows
    refine ⟨?_, (KeyedMap.mem_adjust _ _ _ _).mpr hthere⟩
    rw [hpath] at hthere ⊢
    exact hmoved.trans (moved_appendRows hmoved.ok hthere rows)
  have hrefl : Moved dir.files dir.files 0 := Moved.refl h.files
  obtain ⟨hflushed, hthere⟩ := happend hrefl hopen writer.buffered
  unfold writeRow
  simp only [hwriter]
  split_ifs with hlarge hspare hspare
  · obtain ⟨hwritten, hthere⟩ := happend hflushed hthere [row]
    exact added_of_moved h hwriter hwritten hthere (by simp) _
  · obtain ⟨hwritten, hthere⟩ := happend hrefl hopen [row]
    exact added_of_moved h hwriter hwritten hthere (by simp [add_comm]) _
  · exact added_of_moved h hwriter hflushed hthere (by simp) _
  · refine added_of_moved h hwriter hrefl hopen ?_ _
    rw [zero_add, ← Multiset.coe_add]
    rfl

/-! ## Steps -/

/-- The condition on a step: a chunk is opened while the indices of all chunks have at most
five digits; so have those of the open chunks that a process has left behind when they are
finalized; and no process ends before its rows are written out. -/
def Keeps (dir : ChunkDir α) : ChunkStep α → Prop
  | .write config _ => (∀ writer ∈ dir.writer, config.chunkRows ≤ writer.rowCount) →
      ∀ chunkIndex, HasIndex dir.files chunkIndex → chunkIndex < 100000
  | .finalize _ visited => visited = true → ∀ chunkIndex,
      chunkFileName chunkIndex .inProgress ∈ dir.files →
      (∀ writer ∈ dir.writer, writer.chunkIndex ≠ chunkIndex) → chunkIndex < 100000
  | .restart => ∀ writer ∈ dir.writer, writer.buffered = []

/-- The snapshot that a step writes. -/
def stepRows : ChunkStep α → Multiset α
  | .write _ row => {row}
  | .finalize _ _ => 0
  | .restart => 0

/-- The index that a write chooses lies above those of all chunks, if it opens a chunk. -/
def ChoosesAbove (dir : ChunkDir α) : ChunkStep α → Prop
  | .write config _ => (dir.finalizeFull config).writer = none →
      ∀ chunkIndex, HasIndex (dir.finalizeFull config).files chunkIndex →
        chunkIndex < nextFeatureSnapshotChunkIndex (dir.finalizeFull config).files
  | .finalize _ _ => True
  | .restart => True

/-- A write chooses its index right exactly if it meets the condition. -/
theorem choosesAbove_write_iff {dir : ChunkDir α} (h : dir.Ok) (config : ChunkConfig) (row : α) :
    dir.ChoosesAbove (.write config row) ↔ dir.Keeps (.write config row) := by
  simp only [ChoosesAbove, Keeps]
  rw [lt_nextFeatureSnapshotChunkIndex_iff, finalizeFull_writer_eq_none]
  simp only [(added_finalizeFull h config).2]

theorem added_write (size : α → ℕ) {dir : ChunkDir α} (h : dir.Ok) {config : ChunkConfig}
    {row : α} (hkeeps : dir.Keeps (.write config row)) :
    Added dir (dir.writeFeatureSnapshotChunked size config row) {row} := by
  have hchosen := (choosesAbove_write_iff h config row).mpr hkeeps
  have hfull := (added_finalizeFull h config).1
  have hopened := added_ensureWriter hfull.ok hchosen
  have hwritten := added_writeRow size hopened.ok (ensureWriter_writer _) row
  have hall := (hfull.trans hopened).trans hwritten
  rw [zero_add, zero_add] at hall
  exact hall

theorem open_of_finalizeWriter {dir : ChunkDir α} (h : dir.Ok) {config : ChunkConfig}
    {index : ℕ}
    (hopen : chunkFileName index .inProgress ∈ (dir.finalizeWriter config).files) :
    chunkFileName index .inProgress ∈ dir.files ∧
      ∀ writer ∈ dir.writer, writer.chunkIndex ≠ index := by
  unfold finalizeWriter at hopen
  cases hwriter : dir.writer with
  | none =>
      rw [hwriter] at hopen
      exact ⟨hopen, fun _ hnone => by cases hnone⟩
  | some writer =>
      rw [hwriter] at hopen
      have hpath := (h.writer writer hwriter).1
      simp only [finalizeFeatureChunkWriter] at hopen
      rw [hpath] at hopen
      obtain ⟨hthere, hne⟩ := open_of_finalizeFeatureChunkFile hopen
      refine ⟨(KeyedMap.mem_adjust _ _ _ _).mp hthere, fun other hother => ?_⟩
      obtain rfl := Option.some.inj hother
      exact hne

theorem added_finalize {dir : ChunkDir α} (h : dir.Ok) {config : ChunkConfig} {visited : Bool}
    (hkeeps : dir.Keeps (.finalize config visited)) :
    Added dir (dir.finalizeFeatureSnapshotChunksForRun config visited) 0 := by
  have hwriter := (added_finalizeWriter h config).1
  unfold finalizeFeatureSnapshotChunksForRun
  cases visited with
  | false => exact hwriter
  | true =>
      have hnames : ∀ name ∈ (dir.finalizeWriter config).files.keys.filter endsWithOpen,
          ∃ chunkIndex, chunkIndex < 100000 ∧ name = chunkFileName chunkIndex .inProgress := by
        intro name hname
        obtain ⟨hthere, hends⟩ := List.mem_filter.mp hname
        rw [← AList.mem_keys] at hthere
        obtain ⟨chunkIndex, suffix, rfl⟩ := hwriter.ok.files.names name hthere
        rw [endsWithOpen_chunkFileName, decide_eq_true_eq] at hends
        subst hends
        obtain ⟨hopen, hother⟩ := open_of_finalizeWriter h hthere
        exact ⟨chunkIndex, hkeeps rfl chunkIndex hopen hother, rfl⟩
      have hmoved := moved_foldl_finalizeOpenFile config hnames hwriter.ok.files
      have hopened : Added (dir.finalizeWriter config)
          ((dir.finalizeWriter config).finalizeOpenFeatureChunksInDir config) 0 := by
        have hnone := finalizeWriter_writer dir config
        refine ⟨⟨hmoved.ok, fun other hother => ?_⟩, hmoved.kept, ?_⟩
        · rw [finalizeOpenFeatureChunksInDir, hnone] at hother
          cases hother
        · simp [rows, finalizeOpenFeatureChunksInDir, hnone, hmoved.total]
      have hboth := hwriter.trans hopened
      rw [zero_add] at hboth
      exact hboth

/-- A step that meets the condition adds its row and touches no finalized chunk. -/
theorem added_step (size : α → ℕ) {dir : ChunkDir α} (h : dir.Ok) {step : ChunkStep α}
    (hkeeps : dir.Keeps step) : Added dir (dir.step size step) (stepRows step) := by
  cases step with
  | write config row => exact added_write size h hkeeps
  | finalize config visited => exact added_finalize h hkeeps
  | restart =>
      refine ⟨⟨h.files, fun _ hnone => by cases hnone⟩, fun _ _ _ _ => id, ?_⟩
      cases hwriter : dir.writer with
      | none => simp [rows, step, stepRows, hwriter]
      | some writer =>
          have hempty := hkeeps writer hwriter
          simp [rows, step, stepRows, hwriter, hempty]

/-! ## Chunks of single rows -/

/-- A directory with the chunks of the first indices, the last of which may be open and full. -/
structure Counted (config : ChunkConfig) (dir : ChunkDir α) (count : ℕ) : Prop where
  ok : dir.Ok
  indices : ∀ chunkIndex, HasIndex dir.files chunkIndex ↔ 1 ≤ chunkIndex ∧ chunkIndex ≤ count
  full : ∀ writer ∈ dir.writer, config.chunkRows ≤ writer.rowCount

theorem nextFeatureSnapshotChunkIndex_of_indices {files : KeyedMap String (List α)}
    (h : FilesOk files) {count : ℕ} (hcount : count < 100000)
    (hindices : ∀ chunkIndex, HasIndex files chunkIndex ↔ 1 ≤ chunkIndex ∧ chunkIndex ≤ count) :
    nextFeatureSnapshotChunkIndex files = count + 1 := by
  have hsmall : ∀ chunkIndex, HasIndex files chunkIndex → chunkIndex < 100000 :=
    fun chunkIndex hthere => ((hindices chunkIndex).mp hthere).2.trans_lt hcount
  apply le_antisymm
  · refine Nat.succ_le_succ (Extremes.foldl_max_le_iff.mpr ⟨Nat.zero_le _, ?_⟩)
    intro index hindex
    obtain ⟨name, hname, hparse⟩ := List.mem_filterMap.mp hindex
    obtain ⟨chunkIndex, suffix, rfl⟩ := h.names name (AList.mem_keys.mpr hname)
    have hthere : HasIndex files chunkIndex := ⟨suffix, AList.mem_keys.mpr hname⟩
    rw [parseFeatureChunkIndex_chunkFileName (hsmall chunkIndex hthere)] at hparse
    obtain rfl := Option.some.inj hparse
    exact ((hindices chunkIndex).mp hthere).2
  · cases count with
    | zero => exact Nat.succ_le_succ (Nat.zero_le _)
    | succ count =>
        exact lt_nextFeatureSnapshotChunkIndex_iff.mpr hsmall (count + 1)
          ((hindices (count + 1)).mpr ⟨by omega, le_rfl⟩)

theorem hasIndex_ensureWriter {dir : ChunkDir α} (hwriter : dir.writer = none) (chunkIndex : ℕ) :
    HasIndex dir.ensureWriter.files chunkIndex ↔
      chunkIndex = nextFeatureSnapshotChunkIndex dir.files ∨ HasIndex dir.files chunkIndex := by
  unfold ensureWriter HasIndex
  simp only [hwriter, KeyedMap.upsert, AList.mem_insert, chunkFileName_inj]
  constructor
  · rintro ⟨suffix, ⟨heq, -⟩ | hthere⟩
    · exact Or.inl heq
    · exact Or.inr ⟨suffix, hthere⟩
  · rintro (heq | ⟨suffix, hthere⟩)
    · exact ⟨.inProgress, Or.inl ⟨heq, rfl⟩⟩
    · exact ⟨suffix, Or.inr hthere⟩

theorem hasIndex_writeRow (size : α → ℕ) (dir : ChunkDir α) (row : α) (chunkIndex : ℕ) :
    HasIndex (dir.writeRow size row).files chunkIndex ↔ HasIndex dir.files chunkIndex := by
  unfold writeRow HasIndex
  cases dir.writer with
  | none => exact Iff.rfl
  | some writer =>
      simp only
      split_ifs <;> simp only [appendRows, KeyedMap.mem_adjust]

/-- After a write the writer holds at least one row. -/
theorem rowCount_writeRow (size : α → ℕ) (dir : ChunkDir α) (row : α) :
    ∀ writer ∈ (dir.writeRow size row).writer, 1 ≤ writer.rowCount := by
  intro writer hwriter
  unfold writeRow at hwriter
  cases hbefore : dir.writer with
  | none =>
      rw [hbefore] at hwriter
      simp only [hbefore] at hwriter
      cases hwriter
  | some before =>
      rw [hbefore] at hwriter
      obtain rfl := Option.some.inj hwriter
      exact Nat.succ_le_succ (Nat.zero_le _)

theorem Counted.keeps_write {config : ChunkConfig} {dir : ChunkDir α} {count : ℕ}
    (h : Counted config dir count) (hcount : count < 100000) (row : α) :
    dir.Keeps (.write config row) :=
  fun _ chunkIndex hthere => ((h.indices chunkIndex).mp hthere).2.trans_lt hcount

/-- With chunks of one row every write opens the chunk of the next index. -/
theorem Counted.write (size : α → ℕ) {config : ChunkConfig} (hrows : config.chunkRows = 1)
    {dir : ChunkDir α} {count : ℕ} (h : Counted config dir count) (hcount : count < 100000)
    (row : α) : Counted config (dir.writeFeatureSnapshotChunked size config row) (count + 1) := by
  obtain ⟨hfull, hindices⟩ := added_finalizeFull h.ok config
  have hnone := finalizeFull_writer_eq_none.mpr h.full
  have hnext := nextFeatureSnapshotChunkIndex_of_indices hfull.ok.files hcount
    fun chunkIndex => (hindices chunkIndex).trans (h.indices chunkIndex)
  refine ⟨(added_write size h.ok (h.keeps_write hcount row)).ok, fun chunkIndex => ?_, ?_⟩
  · unfold writeFeatureSnapshotChunked
    rw [hasIndex_writeRow, hasIndex_ensureWriter hnone, hnext, hindices, h.indices]
    omega
  · rw [hrows]
    exact rowCount_writeRow size _ row

theorem counted_empty (config : ChunkConfig) : Counted config ({} : ChunkDir α) 0 := by
  refine ⟨ok_empty, fun chunkIndex => ⟨?_, ?_⟩, fun _ hnone => by cases hnone⟩
  · rintro ⟨suffix, hthere⟩
    exact absurd hthere (AList.notMem_empty _)
  · intro hbounds
    omega

theorem counted_writes (size : α → ℕ) {config : ChunkConfig} (hrows : config.chunkRows = 1)
    (row : α) {count : ℕ} (hcount : count ≤ 100000) :
    Counted config ((List.replicate count (.write config row)).foldl (step size) {}) count := by
  induction count with
  | zero => exact counted_empty config
  | succ count ih =>
      rw [List.replicate_succ', List.foldl_append]
      exact (ih (Nat.le_of_succ_le hcount)).write size hrows hcount row

/-! ## Runs -/

/-- In a run whose steps meet the condition every new chunk has an index above all others, no
finalized chunk is touched, and the chunks hold what was there and what was written. -/
theorem chunks_kept (size : α → ℕ) {dir : ChunkDir α} (h : dir.Ok) {steps : List (ChunkStep α)}
    (hkeeps : Runs.Along (step size) Keeps dir steps) :
    (∀ before next after, steps = before ++ next :: after →
      (before.foldl (step size) dir).ChoosesAbove next ∧
        Kept (before.foldl (step size) dir).files
          ((before ++ [next]).foldl (step size) dir).files) ∧
      (steps.foldl (step size) dir).rows = dir.rows + (steps.map stepRows).sum := by
  have hreached : ∀ {before : List (ChunkStep α)}, Runs.Along (step size) Keeps dir before →
      (before.foldl (step size) dir).Ok :=
    fun halong => Runs.Along.invariant (I := Ok) (P := Keeps)
      (fun _ _ hok hmeets => (added_step size hok hmeets).ok) h halong
  constructor
  · rintro before next after rfl
    have hnext := (Runs.along_iff.mp hkeeps) before next after rfl
    have hok := hreached hkeeps.append.1
    refine ⟨?_, ?_⟩
    · cases next with
      | write config row => exact (choosesAbove_write_iff hok config row).mpr hnext
      | finalize config visited => trivial
      | restart => trivial
    · rw [List.foldl_append, List.foldl_cons, List.foldl_nil]
      exact (added_step size hok hnext).kept
  · clear hreached
    induction steps generalizing dir with
    | nil => simp
    | cons first steps ih =>
        have hfirst := added_step size h hkeeps.1
        rw [List.foldl_cons, ih hfirst.ok hkeeps.2, hfirst.total, List.map_cons, List.sum_cons,
          add_assoc]

/-- Chunks of a single row. -/
def singleRows : ChunkConfig :=
  { featureSnapshotChunkRows := 1
    featureSnapshotCompress := true
    featureSnapshotFormat := "jsonl.zst" }

theorem chunks_kept_two_writes :
    ([.write singleRows 1, .write singleRows 2].foldl (step fun _ : ℕ => 1) {}).rows =
      (ChunkDir.rows {} : Multiset ℕ) +
        ([.write singleRows 1, .write singleRows 2].map stepRows).sum := by
  have hfirst := (counted_empty singleRows).write (fun _ : ℕ => 1) rfl (by decide) 1
  have halong : Runs.Along (step fun _ : ℕ => 1) Keeps {}
      [.write singleRows 1, .write singleRows 2] :=
    ⟨(counted_empty singleRows).keeps_write (by decide) 1,
      hfirst.keeps_write (by decide) 2, trivial⟩
  exact (chunks_kept (fun _ => 1) ok_empty halong).2

/-- A restart loses what the writer has not written out. -/
example : ([.write singleRows 1, .restart].foldl (step fun _ : ℕ => 1) {}).rows = 0 := by
  decide +kernel

/-- The chunk 100000 is there, and the next write does not choose a larger index. -/
theorem chunk_index_repeated :
    ¬ ((List.replicate 100000 (.write singleRows ())).foldl (step fun _ => 1) {}).ChoosesAbove
      (.write singleRows ()) := by
  have hrows : singleRows.chunkRows = 1 := rfl
  have h := counted_writes (fun _ : Unit => 1) hrows () le_rfl
  intro habove
  have hkeeps := (choosesAbove_write_iff h.ok singleRows ()).mp habove
  exact Nat.lt_irrefl 100000 (hkeeps h.full 100000 ((h.indices 100000).mpr ⟨by omega, le_rfl⟩))

end ChunkDir

end PumpLaunchTrader
