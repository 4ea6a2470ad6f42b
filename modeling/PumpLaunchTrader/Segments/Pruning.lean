import PumpLaunchTrader.Segments.Restart
import PumpLaunchTrader.Segments.SafeStore
import PumpLaunchTrader.Segments.Uploads

/-! # Pruning

Over every run, whatever fails in it, only verified segments are pruned, and of each type the
last ones stay. -/

namespace PumpLaunchTrader

theorem exists_ok_of_bind {ε α β : Type} {x : Except ε α} {f : α → Except ε β} {b : β}
    (h : x >>= f = .ok b) : ∃ a, x = .ok a ∧ f a = .ok b := by
  cases x with
  | error error => cases h
  | ok a => exact ⟨a, rfl, h⟩

/-- An upload that is verified was made. -/
theorem R2Client.uploaded_of_verified {client : R2Client} {prepared : PreparedUpload}
    {verify : Bool} {answers : R2Answers} {result : R2UploadResult}
    (h : client.uploadPrepared prepared verify answers = .ok result)
    (hverified : result.verified = true) : result.uploaded = true := by
  unfold R2Client.uploadPrepared at h
  simp only at h
  split at h
  · cases h
    cases hverified
  · obtain ⟨-, -, h⟩ := exists_ok_of_bind h
    obtain ⟨-, -, h⟩ := exists_ok_of_bind h
    split at h
    · obtain ⟨verified, -, h⟩ := exists_ok_of_bind h
      cases h
      rfl
    · cases h
      rfl

namespace SegmentStore

variable {fmt : SegmentFormats} {missing : String → Prop} {s : SegmentStore}

/-! ## Uploads -/

/-- A change of an entry may set its flags in the order upload, verification, pruning. -/
theorem PruneSafe.modifyEntry (h : s.PruneSafe missing) {idx : ℕ}
    {f : RunSegmentEntry → RunSegmentEntry}
    (hrevises : ∀ entry, s.manager.segments[idx]? = some entry →
      SafeManifest.Revises entry (f entry))
    (hpruned : ∀ entry, s.manager.segments[idx]? = some entry → (f entry).prunedLocal = true →
      entry.prunedLocal = true ∨
        s.manager.keepLastN ≤ verifiedAbove s.manager.segments entry) :
    (s.modifyEntry idx f).PruneSafe missing := by
  have hentries : ∀ {Q : RunSegmentEntry → Prop}, (∀ entry ∈ s.manager.segments, Q entry) →
      (∀ entry ∈ s.manager.segments, SafeManifest.Revises entry (f entry) → Q (f entry)) →
        ∀ entry ∈ s.manager.segments.modify idx f, Q entry := by
    intro Q hold hnew entry hmem
    rcases Windows.mem_modify hmem with hmem | ⟨other, hother, rfl⟩
    · exact hold entry hmem
    · exact hnew other (List.mem_of_getElem? hother) (hrevises other hother)
  refine ⟨h.manifest.modify hrevises hpruned, h.stored, hentries h.below ?_, ?_,
    hentries h.kept ?_⟩
  · intro entry hmem hrevised
    obtain ⟨htype, hnumber⟩ := Prod.ext_iff.mp hrevised.key
    change (f entry).artifactType = _ at htype
    change (f entry).sequenceNumber = _ at hnumber
    rw [htype, hnumber]
    exact h.below entry hmem
  · intro artifactType segment hopen
    obtain ⟨hpath, hbelow, habove⟩ := h.opened artifactType segment hopen
    refine ⟨hpath, hbelow, hentries habove fun entry hmem hrevised => ?_⟩
    obtain ⟨htype, hnumber⟩ := Prod.ext_iff.mp hrevised.key
    change (f entry).artifactType = _ at htype
    change (f entry).sequenceNumber = _ at hnumber
    rw [htype, hnumber]
    exact habove entry hmem
  · intro entry hmem hrevised hverified
    rw [hrevised.localPath]
    refine h.kept entry hmem (Bool.eq_false_iff.mpr fun htrue => ?_)
    rw [hrevised.verified htrue] at hverified
    cases hverified

/-- The segment at an index has been neither uploaded nor pruned. -/
def Waits (s : SegmentStore) (idx : ℕ) : Prop :=
  ∀ entry, s.manager.segments[idx]? = some entry →
    entry.uploaded = false ∧ entry.prunedLocal = false

theorem PruneSafe.noteTried (h : s.PruneSafe missing) (segmentId : String) :
    (s.noteTried segmentId).PruneSafe missing :=
  h.withManager rfl rfl rfl rfl rfl rfl

/-- The error of an entry may change. -/
theorem PruneSafe.withError (h : s.PruneSafe missing) (idx : ℕ) (error : Option String) :
    (s.modifyEntry idx fun entry => { entry with error := error }).PruneSafe missing := by
  refine h.modifyEntry (fun entry hentry => ?_) (fun _ _ hpruned => Or.inl hpruned)
  have hmem := List.mem_of_getElem? hentry
  exact ⟨rfl, rfl, rfl, h.manifest.uploaded entry hmem, id, h.manifest.verified entry hmem⟩

theorem PruneSafe.noteUploaded (h : s.PruneSafe missing) {idx : ℕ} (hwaits : s.Waits idx)
    {result : R2UploadResult} (hresult : result.verified = true → result.uploaded = true)
    (segmentId : String) : (s.noteUploaded idx segmentId result).PruneSafe missing := by
  refine PruneSafe.withManager (s := s.modifyEntry idx fun entry => entry.uploadedAs result) ?_
    rfl rfl rfl rfl rfl rfl
  refine h.modifyEntry (fun entry hentry => ?_) (fun _ _ hpruned => Or.inl hpruned)
  obtain ⟨huploaded, hpruned⟩ := hwaits entry hentry
  refine ⟨rfl, rfl, rfl, hresult, fun hverified => ?_, fun hflag => ?_⟩
  · -- what is verified does not wait
    have hentry := h.manifest.uploaded entry (List.mem_of_getElem? hentry) hverified
    rw [huploaded] at hentry
    cases hentry
  · change entry.prunedLocal = true at hflag
    rw [hpruned] at hflag
    cases hflag

variable (fmt) in
theorem PruneSafe.tryUploadSegment (h : s.PruneSafe missing) (io : UploadIo) {idx : ℕ}
    (hwaits : s.Waits idx) : (s.tryUploadSegment fmt io idx).store.PruneSafe missing := by
  unfold SegmentStore.tryUploadSegment
  split
  · next client entry _ _ =>
      have hnoted := h.noteTried entry.segmentId
      split
      · exact hnoted
      · split
        · exact hnoted
        · simp only
          split
          · exact hnoted
          · split
            · exact (hnoted.withError idx _).withManager rfl rfl rfl rfl rfl rfl
            · change (uploadBody (s.noteTried entry.segmentId) client io idx entry
                _).store.PruneSafe missing
              unfold uploadBody
              split
              · exact hnoted
              · split
                · exact hnoted
                · simp only
                  split
                  · next result hresult =>
                      exact hnoted.noteUploaded hwaits
                        (R2Client.uploaded_of_verified hresult) entry.segmentId
                  · exact (hnoted.withError idx _).withManager rfl rfl rfl rfl rfl rfl
  · exact h

/-- An attempt at an index leaves the other entries alone. -/
theorem getElem?_tryUploadSegment (s : SegmentStore) (io : UploadIo) {idx other : ℕ}
    (h : other ≠ idx) : (s.tryUploadSegment fmt io idx).store.manager.segments[other]? =
      s.manager.segments[other]? := by
  unfold SegmentStore.tryUploadSegment
  split
  · split
    · rfl
    · split
      · rfl
      · simp only
        split
        · rfl
        · split
          · exact List.getElem?_modify_ne _ _ h.symm
          · unfold uploadBody
            split
            · rfl
            · split
              · rfl
              · simp only
                split
                · exact List.getElem?_modify_ne _ _ h.symm
                · exact List.getElem?_modify_ne _ _ h.symm
  · rfl

variable (fmt) in
theorem PruneSafe.uploadEach (uploads : ℕ → UploadIo) {indexes : List ℕ}
    (hnodup : indexes.Nodup) {s : SegmentStore} (h : s.PruneSafe missing)
    (hwaits : ∀ idx ∈ indexes, s.Waits idx) (counts : ℕ × ℕ) :
    (uploadEach fmt uploads indexes s counts).store.PruneSafe missing := by
  induction indexes generalizing s counts with
  | nil => exact h
  | cons idx rest ih =>
      obtain ⟨hidx, hrest⟩ := List.nodup_cons.mp hnodup
      have hnext := h.tryUploadSegment fmt (uploads idx) (hwaits idx List.mem_cons_self)
      have hwaits' : ∀ later ∈ rest,
          (s.tryUploadSegment fmt (uploads idx) idx).store.Waits later := by
        intro later hmem entry hentry
        have hne : later ≠ idx := fun heq => hidx (heq ▸ hmem)
        rw [s.getElem?_tryUploadSegment _ hne] at hentry
        exact hwaits later (List.mem_cons_of_mem _ hmem) entry hentry
      unfold SegmentStore.uploadEach
      simp only
      split
      · exact hnext
      · exact ih hrest hnext hwaits' _

/-! ## Budget -/

/-- The entry at an index may be pruned. -/
def Prunable (s : SegmentStore) (idx : ℕ) : Prop :=
  ∀ entry, s.manager.segments[idx]? = some entry → entry.verified = true ∧
    s.manager.keepLastN ≤ verifiedAbove s.manager.segments entry

theorem PruneSafe.markPruned (h : s.PruneSafe missing) {idx : ℕ} (hidx : s.Prunable idx) :
    (s.markPruned idx).PruneSafe missing := by
  refine h.modifyEntry (fun entry hentry => ?_) (fun entry hentry _ => Or.inr (hidx entry hentry).2)
  exact ⟨rfl, rfl, rfl, h.manifest.uploaded entry (List.mem_of_getElem? hentry), id,
    fun _ => (hidx entry hentry).1⟩

/-- What may be pruned may still be so when another entry is. -/
theorem Prunable.markPruned {idx : ℕ} (h : s.Prunable idx) (other : ℕ) :
    (s.markPruned other).Prunable idx := by
  intro entry hentry
  change (s.manager.segments.modify other _)[idx]? = some entry at hentry
  rw [List.getElem?_modify] at hentry
  obtain ⟨old, hold, heq⟩ := Option.map_eq_some_iff.mp hentry
  obtain ⟨hverified, hkeep⟩ := h old hold
  have hsame : entry.verified = old.verified ∧ entry.artifactType = old.artifactType ∧
      entry.sequenceNumber = old.sequenceNumber := by
    rw [← heq]
    split <;> exact ⟨rfl, rfl, rfl⟩
  refine ⟨hsame.1.trans hverified, hkeep.trans ?_⟩
  unfold verifiedAbove
  rw [hsame.2.1, hsame.2.2]
  exact Windows.countP_le_countP_modify _ fun _ _ htest => htest

theorem Prunable.pruneSegment {idx : ℕ} (h : s.Prunable idx) (removeFails : String → Bool)
    (other : ℕ) : (s.pruneSegment removeFails other).1.Prunable idx := by
  unfold SegmentStore.pruneSegment
  split
  · exact h
  · split
    · exact h
    · split
      · exact h.markPruned other
      · split
        · exact h
        · exact Prunable.markPruned (s := s.removeFile _) h other

theorem PruneSafe.pruneSegment (h : s.PruneSafe missing) {idx : ℕ} (hidx : s.Prunable idx)
    (removeFails : String → Bool) : (s.pruneSegment removeFails idx).1.PruneSafe missing := by
  unfold SegmentStore.pruneSegment
  split
  · exact h
  · next entry hentry =>
      split
      · exact h
      · split
        · exact h.markPruned hidx
        · split
          · exact h
          · refine PruneSafe.markPruned (s := s.removeFile entry.localPath) ?_ hidx
            refine h.removeFile fun other hmem hverified heq => ?_
            -- the file of another entry, as this one is verified
            have hsame := h.manifest.eq_of_localPath hmem (List.mem_of_getElem? hentry) heq
            rw [hsame, (hidx entry hentry).1] at hverified
            cases hverified

theorem PruneSafe.pruneEach (removeFails : String → Bool) {indexes : List ℕ}
    {s : SegmentStore} (h : s.PruneSafe missing) (hindexes : ∀ idx ∈ indexes, s.Prunable idx)
    (deleted : ℕ) : (pruneEach removeFails indexes s deleted).1.PruneSafe missing := by
  induction indexes generalizing s deleted with
  | nil => exact h
  | cons idx rest ih =>
      have hnext := h.pruneSegment (hindexes idx List.mem_cons_self) removeFails
      have hrest : ∀ later ∈ rest, (s.pruneSegment removeFails idx).1.Prunable later :=
        fun later hmem =>
          (hindexes later (List.mem_cons_of_mem _ hmem)).pruneSegment removeFails idx
      unfold SegmentStore.pruneEach
      cases hresult : s.pruneSegment removeFails idx with
      | mk next result =>
          rw [hresult] at hnext hrest
          cases result with
          | none => exact hnext
          | some bytes => exact ih hnext hrest _

theorem PruneSafe.pruneVerifiedClosedSegments (h : s.PruneSafe missing)
    (removeFails : String → Bool) :
    (s.pruneVerifiedClosedSegments removeFails).1.PruneSafe missing := by
  refine h.pruneEach removeFails (fun idx hmem => ?_) 0
  obtain ⟨artifactType, -, hidx⟩ := List.mem_flatMap.mp hmem
  obtain ⟨entry, hentry, hverified, hkeep⟩ :=
    SegmentManager.prunable h.manifest.distinct hidx
  intro other hother
  cases hentry.symm.trans hother
  exact ⟨hverified, hkeep⟩

/-- Chunks of exports are not segments. -/
theorem PruneSafe.localPath_ne_chunk (h : s.PruneSafe missing)
    (chunk : RuntimeExportChunkManifestEntry) {entry : RunSegmentEntry}
    (hmem : entry ∈ s.manager.segments) : entry.localPath ≠ chunk.localPath := by
  obtain ⟨compressed, hpath⟩ := h.manifest.localPath entry hmem
  obtain ⟨folder, hfolder⟩ := joinPath_eq s.manager.reportRoot
    (segmentFileName entry.artifactType entry.sequenceNumber compressed)
  obtain ⟨stem, hstem⟩ := chunk.isCsv
  rw [hpath, hfolder]
  exact segmentFileName_ne_csv hstem _ _ _ _

theorem PruneSafe.pruneChunks (removeFails : String → Bool)
    (chunks : List RuntimeExportChunkManifestEntry) {s : SegmentStore}
    (h : s.PruneSafe missing) : (pruneChunks removeFails chunks s).1.PruneSafe missing := by
  induction chunks generalizing s with
  | nil => exact h
  | cons chunk rest ih =>
      unfold SegmentStore.pruneChunks
      split
      · exact ih h
      · simp only
        split
        · exact ih h
        · split
          · exact h
          · exact ih (h.removeFile fun _ hmem _ => h.localPath_ne_chunk chunk hmem)

theorem PruneSafe.pruneVerifiedExportChunks (h : s.PruneSafe missing) (io : BudgetIo) :
    (s.pruneVerifiedExportChunks io).1.PruneSafe missing := by
  unfold SegmentStore.pruneVerifiedExportChunks
  split
  · exact h
  · next exports _ =>
      have hpruned := h.pruneChunks io.removeFails exports.chunks
      split
      · exact h
      · cases hresult : SegmentStore.pruneChunks io.removeFails exports.chunks s with
        | mk next result =>
            rw [hresult] at hpruned
            cases result with
            | none => exact hpruned
            | some chunks =>
                simp only
                split
                · exact hpruned
                · exact ⟨hpruned.manifest, hpruned.stored, hpruned.below, hpruned.opened,
                    hpruned.kept⟩

theorem PruneSafe.enforceSegmentBudget (h : s.PruneSafe missing) (io : BudgetIo) :
    (s.enforceSegmentBudget io).1.PruneSafe missing := by
  have hpruned := h.pruneVerifiedClosedSegments io.removeFails
  unfold SegmentStore.enforceSegmentBudget
  split
  · cases hresult : s.pruneVerifiedClosedSegments io.removeFails with
    | mk next result =>
        rw [hresult] at hpruned
        cases result with
        | none => exact hpruned
        | some pruned => exact hpruned.withManager rfl rfl rfl rfl rfl rfl
  · exact h

theorem PruneSafe.enforceExportBudget (h : s.PruneSafe missing) (io : BudgetIo) :
    (s.enforceExportBudget io).1.PruneSafe missing := by
  have hpruned := h.pruneVerifiedExportChunks io
  unfold SegmentStore.enforceExportBudget
  split
  · cases hresult : s.pruneVerifiedExportChunks io with
    | mk next result =>
        rw [hresult] at hpruned
        cases result with
        | none => exact hpruned
        | some pruned => exact hpruned.withManager rfl rfl rfl rfl rfl rfl
  · exact h

theorem PruneSafe.notePressure (h : s.PruneSafe missing) (io : BudgetIo) :
    (s.notePressure io).1.PruneSafe missing := by
  unfold SegmentStore.notePressure
  split
  · exact h
  · refine PruneSafe.writeAllReports ?_ io.reports
    exact h.withManager rfl rfl rfl rfl rfl rfl

theorem PruneSafe.enforceLocalFootprintBudget (h : s.PruneSafe missing) (io : BudgetIo) :
    (s.enforceLocalFootprintBudget io).1.PruneSafe missing := by
  have hsegments := h.enforceSegmentBudget io
  unfold SegmentStore.enforceLocalFootprintBudget
  cases hfirst : s.enforceSegmentBudget io with
  | mk next result =>
      rw [hfirst] at hsegments
      cases result with
      | none => exact hsegments
      | some done =>
          have hexports := hsegments.enforceExportBudget io
          simp only
          cases hsecond : next.enforceExportBudget io with
          | mk last result =>
              rw [hsecond] at hexports
              cases result with
              | none => exact hexports
              | some done => exact hexports.notePressure io

/-! ## Passes -/

theorem PruneSafe.finishPass (h : s.PruneSafe missing) (io : PassIo) (counts : ℕ × ℕ) :
    (s.finishPass io counts).1.PruneSafe missing := by
  have henforced := h.enforceLocalFootprintBudget io.budget
  unfold SegmentStore.finishPass
  cases hresult : s.enforceLocalFootprintBudget io.budget with
  | mk next result =>
      rw [hresult] at henforced
      cases result with
      | none => exact henforced
      | some done =>
          refine PruneSafe.writeAllReports ?_ io.reports
          exact henforced.withManager rfl rfl rfl rfl rfl rfl

theorem waits_of_mem_candidateIndexes {idx : ℕ} (h : idx ∈ s.candidateIndexes) :
    s.Waits idx := by
  obtain ⟨⟨entry, hentry, hpending⟩, -⟩ := mem_candidateIndexes_iff.mp h
  intro other hother
  cases hentry.symm.trans hother
  obtain ⟨huploaded, hpruned, -⟩ := of_decide_eq_true hpending
  exact ⟨huploaded, hpruned⟩

theorem PruneSafe.processBackgroundUploads (h : s.PruneSafe missing) (io : PassIo) :
    (s.processBackgroundUploads fmt io).store.PruneSafe missing := by
  have hnoted : s.noteBacklog.PruneSafe missing := h.withManager rfl rfl rfl rfl rfl rfl
  have hobserved : s.noteBacklog.observeBacklog.PruneSafe missing :=
    hnoted.withManager rfl rfl rfl rfl rfl rfl
  have hloop := hobserved.uploadEach fmt io.uploads
    (pairwise_candidateIndexes _).nodup (fun idx hmem => waits_of_mem_candidateIndexes hmem) (0, 0)
  unfold SegmentStore.processBackgroundUploads
  simp only
  split
  · exact hnoted.writeAllReports io.reports
  · split
    · exact hloop
    · exact hloop.finishPass io _

theorem PruneSafe.step (h : s.PruneSafe missing) (event : SegmentEvent) :
    (s.step fmt event).PruneSafe missing := by
  cases event with
  | append artifactType bytes eventTime io => exact h.appendLine io artifactType bytes eventTime
  | closeDue now io reports => exact h.closeTypes io reports _
  | closeAll io reports => exact h.closeTypes io reports _
  | upload io => exact h.processBackgroundUploads io
  | enforceBudget io => exact h.enforceLocalFootprintBudget io
  | writeExports exports => exact ⟨h.manifest, h.stored, h.below, h.opened, h.kept⟩

variable (fmt) in
theorem PruneSafe.run (h : s.PruneSafe missing) (events : List SegmentEvent) :
    (s.run fmt events).PruneSafe missing := by
  induction events generalizing s with
  | nil => exact h
  | cons event events ih => exact ih (h.step event)

/-! ## Starts -/

/-- A manager that starts hands out numbers after those of the manifest. -/
theorem lt_nextSequences (segments : List RunSegmentEntry) : ∀ entry ∈ segments,
    entry.sequenceNumber < ((nextSequences segments).lookup entry.artifactType).getD 1 := by
  induction segments using List.reverseRecOn with
  | nil => simp
  | append_singleton segments last ih =>
      have hlast : nextSequences (segments ++ [last]) =
          (nextSequences segments).upsert last.artifactType (last.sequenceNumber + 1)
            (max · (last.sequenceNumber + 1)) := by
        unfold nextSequences
        rw [List.foldl_concat]
      intro entry hmem
      rw [hlast]
      by_cases htype : entry.artifactType = last.artifactType
      · rw [htype, KeyedMap.lookup_upsert_self, Option.getD_some]
        rcases List.mem_append.mp hmem with hmem | hmem
        · have hold := ih entry hmem
          rw [htype] at hold
          cases hlookup : (nextSequences segments).lookup last.artifactType with
          | none =>
              rw [hlookup, Option.getD_none] at hold
              simp only [Option.getD_none]
              omega
          | some next =>
              rw [hlookup, Option.getD_some] at hold
              exact hold.trans_le (le_max_left _ _)
        · rw [List.mem_singleton.mp hmem]
          exact (Nat.lt_succ_self _).trans_le (le_max_right _ _)
      · rw [KeyedMap.lookup_upsert_ne _ htype]
        rcases List.mem_append.mp hmem with hmem | hmem
        · exact ih entry hmem
        · exact absurd (congrArg RunSegmentEntry.artifactType (List.mem_singleton.mp hmem)) htype

/-- The path of an entry that was loaded without its file. -/
def LoadedWithoutFile (disk : Disk) (path : String) : Prop :=
  ∃ entry ∈ disk.segmentManifest.getD [], entry.localPath = path ∧ path ∉ disk.files

theorem segmentManifest_start {config : SegmentsConfig} {runId reportRoot : String}
    {client : Except String R2Client} {disk : Disk} {reports : ReportFaults}
    {start : SegmentStore} {result : Option Unit}
    (h : fromLoaded config runId reportRoot client disk reports = some (start, result)) :
    start.disk.segmentManifest = disk.segmentManifest ∨
      start.disk.segmentManifest = some start.manager.segments := by
  unfold fromLoaded at h
  split at h
  · cases h
  · simp only [Option.some.injEq, Prod.mk.injEq] at h
    rw [← h.1]
    unfold SegmentStore.writeAllReports
    split
    · exact Or.inl rfl
    · exact Or.inr rfl

theorem pruneSafe_start {config : SegmentsConfig} {runId reportRoot : String}
    {client : Except String R2Client} {disk : Disk} {reports : ReportFaults}
    {start : SegmentStore} {result : Option Unit}
    (hstart : fromLoaded config runId reportRoot client disk reports = some (start, result))
    (hdisk : SafeManifest runId reportRoot start.manager.keepLastN
      (disk.segmentManifest.getD [])) :
    start.PruneSafe (LoadedWithoutFile disk) := by
  obtain ⟨hopen, hfiles, hsegments, hnumbers, hrun, hroot⟩ := fromLoaded_start hstart
  refine ⟨?_, fun segments hstored => ?_, ?_, ?_, ?_⟩
  · rw [hrun, hroot, hsegments]
    exact hdisk
  · rw [hrun, hroot]
    rcases segmentManifest_start hstart with hkept | hwritten
    · rw [← hkept, hstored] at hdisk
      exact hdisk
    · rw [hwritten, hsegments] at hstored
      cases hstored
      exact hdisk
  · intro entry hmem
    rw [SegmentManager.nextSequence, hnumbers]
    exact lt_nextSequences _ entry (hsegments ▸ hmem)
  · simp [hopen]
  · intro entry hmem _
    rw [hsegments] at hmem
    rw [hfiles]
    by_cases hfile : entry.localPath ∈ disk.files
    · exact Or.inr hfile
    · exact Or.inl ⟨entry, hmem, rfl, hfile⟩

/-- Over every run, whatever fails in it: only verified segments are pruned, what is not
verified keeps its file, and the last verified segments of each type are not pruned. -/
theorem pruned_after_verification {config : SegmentsConfig} {runId reportRoot : String}
    {client : Except String R2Client} {disk : Disk} {reports : ReportFaults}
    {start : SegmentStore} {result : Option Unit}
    (hstart : fromLoaded config runId reportRoot client disk reports = some (start, result))
    (hdisk : SafeManifest runId reportRoot start.manager.keepLastN
      (disk.segmentManifest.getD [])) (events : List SegmentEvent) :
    (∀ entry ∈ (start.run fmt events).manager.segments, entry.prunedLocal = true →
        entry.verified = true) ∧
      (∀ entry ∈ (start.run fmt events).manager.segments, entry.verified = false →
        LoadedWithoutFile disk entry.localPath ∨
          entry.localPath ∈ (start.run fmt events).disk.files) ∧
      ∀ entry ∈ (start.run fmt events).manager.segments,
        verifiedAbove (start.run fmt events).manager.segments entry <
          (start.run fmt events).manager.keepLastN → entry.prunedLocal = false := by
  have hrun := (pruneSafe_start hstart hdisk).run fmt events
  refine ⟨hrun.manifest.verified, hrun.kept, fun entry hmem habove => ?_⟩
  rw [← Bool.not_eq_true]
  intro hpruned
  have hkeep := hrun.manifest.preserved entry hmem hpruned
  omega

/-- A manifest that a run leaves behind is safe to start from. -/
theorem safeManifest_run {s : SegmentStore} (h : s.PruneSafe missing)
    (events : List SegmentEvent) :
    SafeManifest (s.run fmt events).manager.runId (s.run fmt events).manager.reportRoot
      (s.run fmt events).manager.keepLastN
        ((s.run fmt events).disk.segmentManifest.getD []) := by
  have hrun := h.run fmt events
  cases hstored : (s.run fmt events).disk.segmentManifest with
  | none => exact SafeManifest.nil
  | some segments => exact hrun.stored segments hstored

def uploadingConfig : SegmentsConfig :=
  { sampleConfig with
    uploadClosedSegments := true
    r2Enabled := true
    r2UploadEnabled := true
    uploadsEnabled := true }

/-- A manager that uploads, started on an empty disk. -/
def uploadingStart : SegmentStore :=
  ((fromLoaded uploadingConfig "run" "reports" (.ok sampleClient) {} {}).get rfl).1

/-- A pass after which the bucket tells the checksum of the segment. -/
def verifyingPass : PassIo where
  uploads _ :=
    { answers := { putObject := .ok (), headObject := .ok (3, some (checksumHex sampleLine)) } }

/-- A segment is written and closed. -/
def writtenSegment : List SegmentEvent := [sampleAppend, .closeAll (fun _ => {}) {}]

/-- Two segments are written, closed and uploaded, and a third one is only closed. -/
def verifiedRun : List SegmentEvent :=
  writtenSegment ++ [.upload verifyingPass] ++ writtenSegment ++ [.upload verifyingPass] ++
    writtenSegment

/-- The first of the segments is pruned after the verification of the second. -/
theorem pruned_after_verification_verified :
    ((uploadingStart.run sampleFormats verifiedRun).manager.segments.map fun entry =>
        (entry.verified, entry.prunedLocal)) = [(true, true), (true, false), (false, false)] ∧
      ∀ entry ∈ (uploadingStart.run sampleFormats verifiedRun).manager.segments,
        entry.verified = false → LoadedWithoutFile {} entry.localPath ∨
          entry.localPath ∈ (uploadingStart.run sampleFormats verifiedRun).disk.files := by
  have hstart : fromLoaded uploadingConfig "run" "reports" (.ok sampleClient) {} {} =
      some (uploadingStart, some ()) := rfl
  exact ⟨by decide +kernel, (pruned_after_verification hstart SafeManifest.nil verifiedRun).2.1⟩

end SegmentStore

end PumpLaunchTrader
