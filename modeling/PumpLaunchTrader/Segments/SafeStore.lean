import PumpLaunchTrader.Segments.Manifest
import PumpLaunchTrader.Segments.Stream

/-! # Safe stores

A store is safe when its manifest is and the files of unverified entries are there. Closes and
appends keep it safe, whatever fails in them. -/

namespace PumpLaunchTrader

/-- An open segment has its own path, and a number after those of the closed ones. -/
structure SegmentManager.Opened (manager : SegmentManager) (artifactType : String)
    (segment : OpenSegment) : Prop where
  openPath : segment.openPath = manager.openPath artifactType segment.sequenceNumber
  below : segment.sequenceNumber < manager.nextSequence artifactType
  above : ∀ entry ∈ manager.segments, entry.artifactType = artifactType →
    entry.sequenceNumber < segment.sequenceNumber

/-- An open segment is so for a manager that has handed out no fewer numbers. -/
theorem SegmentManager.Opened.frame {manager manager' : SegmentManager}
    {artifactType : String} {segment : OpenSegment} (h : manager.Opened artifactType segment)
    (hroot : manager'.reportRoot = manager.reportRoot)
    (hsegments : manager'.segments = manager.segments)
    (hnext : manager.nextSequence artifactType ≤ manager'.nextSequence artifactType) :
    manager'.Opened artifactType segment where
  openPath := by
    rw [h.openPath, SegmentManager.openPath, SegmentManager.openPath, hroot]
  below := h.below.trans_le hnext
  above := hsegments ▸ h.above

namespace SegmentStore

variable {fmt : SegmentFormats}

/-- What every step keeps: a safe manifest, in memory and on the disk, and the files of the
entries that are not verified, except for those that were missing before. -/
structure PruneSafe (missing : String → Prop) (s : SegmentStore) : Prop where
  manifest : SafeManifest s.manager.runId s.manager.reportRoot s.manager.keepLastN
    s.manager.segments
  stored : ∀ segments, s.disk.segmentManifest = some segments →
    SafeManifest s.manager.runId s.manager.reportRoot s.manager.keepLastN segments
  below : ∀ entry ∈ s.manager.segments,
    entry.sequenceNumber < s.manager.nextSequence entry.artifactType
  opened : ∀ artifactType segment, s.manager.openSegments.lookup artifactType = some segment →
    s.manager.Opened artifactType segment
  kept : ∀ entry ∈ s.manager.segments, entry.verified = false →
    missing entry.localPath ∨ entry.localPath ∈ s.disk.files

variable {missing : String → Prop} {s : SegmentStore}

/-! ## Reports and files -/

theorem PruneSafe.writeAllReports (h : s.PruneSafe missing) (reports : ReportFaults) :
    (s.writeAllReports reports).1.PruneSafe missing := by
  unfold SegmentStore.writeAllReports
  split
  · exact h
  · refine ⟨h.manifest, ?_, h.below, h.opened, h.kept⟩
    rintro segments heq
    cases heq
    exact h.manifest

/-- Fields of the manager may change that are about neither segments nor names. -/
theorem PruneSafe.withManager (h : s.PruneSafe missing) {manager : SegmentManager}
    (hrun : manager.runId = s.manager.runId) (hroot : manager.reportRoot = s.manager.reportRoot)
    (hkeep : manager.keepLastN = s.manager.keepLastN)
    (hsegments : manager.segments = s.manager.segments)
    (hopen : manager.openSegments = s.manager.openSegments)
    (hnext : manager.nextSequenceByType = s.manager.nextSequenceByType) :
    ({ s with manager := manager } : SegmentStore).PruneSafe missing := by
  have hnumbers : ∀ artifactType, manager.nextSequence artifactType =
      s.manager.nextSequence artifactType := by
    intro artifactType
    rw [SegmentManager.nextSequence, SegmentManager.nextSequence, hnext]
  refine ⟨?_, ?_, ?_, ?_, ?_⟩
  · rw [hrun, hroot, hkeep, hsegments]
    exact h.manifest
  · rw [hrun, hroot, hkeep]
    exact h.stored
  · intro entry hmem
    rw [hsegments] at hmem
    exact (h.below entry hmem).trans_eq (hnumbers _).symm
  · intro artifactType segment hlookup
    rw [hopen] at hlookup
    exact (h.opened artifactType segment hlookup).frame hroot hsegments (hnumbers _).ge
  · intro entry hmem
    rw [hsegments] at hmem
    exact h.kept entry hmem

/-- Files may change as long as those of entries that are not verified stay. -/
theorem PruneSafe.withFiles (h : s.PruneSafe missing) {files : KeyedMap String Bytes}
    (hfiles : ∀ entry ∈ s.manager.segments, entry.verified = false →
      entry.localPath ∈ s.disk.files → entry.localPath ∈ files) :
    ({ s with disk := { s.disk with files := files } } : SegmentStore).PruneSafe missing := by
  refine ⟨h.manifest, h.stored, h.below, h.opened, fun entry hmem hverified => ?_⟩
  exact (h.kept entry hmem hverified).imp_right (hfiles entry hmem hverified)

theorem PruneSafe.writeFile (h : s.PruneSafe missing) (path : String) (bytes : Bytes) :
    (s.writeFile path bytes).PruneSafe missing :=
  h.withFiles fun _ _ _ hmem => AList.mem_insert _ |>.mpr (Or.inr hmem)

theorem PruneSafe.appendBytes (h : s.PruneSafe missing) (path : String) (bytes : Bytes) :
    (s.appendBytes path bytes).PruneSafe missing :=
  h.withFiles fun _ _ _ hmem => AList.mem_insert _ |>.mpr (Or.inr hmem)

/-- A file may be removed that no entry without a verification has. -/
theorem PruneSafe.removeFile (h : s.PruneSafe missing) {path : String}
    (hpath : ∀ entry ∈ s.manager.segments, entry.verified = false → entry.localPath ≠ path) :
    (s.removeFile path).PruneSafe missing :=
  h.withFiles fun entry hmem hverified hfile =>
    AList.mem_erase.mpr ⟨hpath entry hmem hverified, hfile⟩

/-- Open files are not those of entries. -/
theorem PruneSafe.localPath_ne_openPath (h : s.PruneSafe missing) {artifactType : String}
    {segment : OpenSegment} (hsegment : s.manager.Opened artifactType segment)
    {entry : RunSegmentEntry} (hmem : entry ∈ s.manager.segments) :
    entry.localPath ≠ segment.openPath := by
  obtain ⟨compressed, hpath⟩ := h.manifest.localPath entry hmem
  rw [hpath, hsegment.openPath]
  exact fun heq => openSegmentFileName_ne _ _ _ _ _ (joinPath_inj heq).symm

theorem PruneSafe.removeOpen (h : s.PruneSafe missing) {artifactType : String}
    {segment : OpenSegment} (hsegment : s.manager.Opened artifactType segment) :
    (s.removeFile segment.openPath).PruneSafe missing :=
  h.removeFile fun _ hmem _ => h.localPath_ne_openPath hsegment hmem

/-! ## Closes -/

theorem PruneSafe.takeOpen (h : s.PruneSafe missing) (artifactType : String) :
    (s.takeOpen artifactType).PruneSafe missing := by
  refine ⟨h.manifest, h.stored, h.below, fun other segment hopen => ?_, h.kept⟩
  by_cases hother : other = artifactType
  · subst hother
    simp [SegmentStore.takeOpen] at hopen
  · have hopen' : s.manager.openSegments.lookup other = some segment := by
      simpa [SegmentStore.takeOpen, AList.lookup_erase_ne hother] using hopen
    exact (h.opened other segment hopen').frame rfl rfl le_rfl

theorem keepOpen_eq (s : SegmentStore) (io : CloseIo) (artifactType : String)
    (segment : OpenSegment) (stage : String) (errors : List String) :
    ∃ error actions, (s.keepOpen io artifactType segment stage errors).1 =
      (({ s with
          manager := { s.manager with
            lastSegmentUploadError := error
            diskActions := actions
            openSegments := s.manager.openSegments.insert artifactType segment } } :
        SegmentStore).writeAllReports io.reports).1 :=
  ⟨_, _, rfl⟩

theorem PruneSafe.keepOpen (h : s.PruneSafe missing) {artifactType : String}
    {segment : OpenSegment} (hsegment : s.manager.Opened artifactType segment) (io : CloseIo)
    (stage : String) (errors : List String) :
    (s.keepOpen io artifactType segment stage errors).1.PruneSafe missing := by
  obtain ⟨error, actions, hkept⟩ := s.keepOpen_eq io artifactType segment stage errors
  rw [hkept]
  refine PruneSafe.writeAllReports ?_ io.reports
  refine ⟨h.manifest, h.stored, h.below, ?_, h.kept⟩
  intro other segment' hopen
  exact (KeyedMap.forall_lookup_insert h.opened hsegment other segment' hopen).frame rfl rfl le_rfl

theorem fresh_closedEntry (manager : SegmentManager) (artifactType : String)
    (segment : OpenSegment) (bytes : Bytes) : SafeManifest.Fresh manager.runId manager.reportRoot
      (manager.closedEntry artifactType segment bytes) :=
  ⟨rfl, ⟨manager.compresses, rfl⟩, rfl, rfl⟩

/-- A segment that is no longer open becomes an entry, with its file. -/
theorem PruneSafe.addClosed (h : s.PruneSafe missing) {artifactType : String}
    {segment : OpenSegment} (hsegment : s.manager.Opened artifactType segment)
    (hopen : s.manager.openSegments.lookup artifactType = none)
    (hfile : s.manager.finalPath artifactType segment.sequenceNumber ∈ s.disk.files)
    (bytes : Bytes) :
    ({ s with
        manager := { s.manager with
          segments := (s.manager.segments.filter fun other => other.segmentId ≠
            (s.manager.closedEntry artifactType segment bytes).segmentId) ++
              [s.manager.closedEntry artifactType segment bytes] } } :
      SegmentStore).PruneSafe missing := by
  -- no entry has the id of the new one
  have hold : (s.manager.segments.filter fun other => other.segmentId ≠
      (s.manager.closedEntry artifactType segment bytes).segmentId) = s.manager.segments := by
    refine List.filter_eq_self.mpr fun entry hmem => decide_eq_true fun hid => ?_
    rw [h.manifest.segmentId entry hmem] at hid
    obtain ⟨htype, hnumber⟩ := segmentIdOf_inj hid
    have hlt := hsegment.above entry hmem htype
    omega
  rw [hold]
  have hentries : ∀ {Q : RunSegmentEntry → Prop}, (∀ entry ∈ s.manager.segments, Q entry) →
      Q (s.manager.closedEntry artifactType segment bytes) →
        ∀ entry ∈ s.manager.segments ++ [s.manager.closedEntry artifactType segment bytes],
          Q entry := by
    intro Q hold hnew
    exact List.forall_mem_append.mpr ⟨hold, List.forall_mem_singleton.mpr hnew⟩
  refine ⟨?_, h.stored, hentries h.below hsegment.below, ?_, hentries h.kept ?_⟩
  · refine h.manifest.concat (fresh_closedEntry s.manager artifactType segment bytes) ?_
    intro other hmem htype
    exact (hsegment.above other hmem htype).ne
  · intro other segment' hopen'
    have hother : artifactType ≠ other := by
      rintro rfl
      rw [hopen] at hopen'
      cases hopen'
    obtain ⟨hpath, hbelow, habove⟩ := h.opened other segment' hopen'
    exact ⟨hpath, hbelow, hentries habove fun htype => absurd htype hother⟩
  · exact fun _ => Or.inr hfile

theorem PruneSafe.recordClosed (h : s.PruneSafe missing) {artifactType : String}
    {segment : OpenSegment} (hsegment : s.manager.Opened artifactType segment)
    (hopen : s.manager.openSegments.lookup artifactType = none)
    (hfile : s.manager.finalPath artifactType segment.sequenceNumber ∈ s.disk.files)
    (io : CloseIo) (bytes : Bytes) :
    (s.recordClosed io artifactType segment bytes).1.PruneSafe missing := by
  refine PruneSafe.writeAllReports ?_ io.reports
  cases io.removeFails with
  | true => exact h.addClosed hsegment hopen hfile bytes
  | false =>
      have hremoved : s.manager.finalPath artifactType segment.sequenceNumber ∈
          (s.removeFile segment.openPath).disk.files := by
        refine AList.mem_erase.mpr ⟨?_, hfile⟩
        rw [hsegment.openPath]
        exact (openPath_ne_finalPath _ _ _ _ _).symm
      exact (h.removeOpen hsegment).addClosed hsegment hopen hremoved bytes

theorem PruneSafe.closeTaken (h : s.PruneSafe missing) {artifactType : String}
    {segment : OpenSegment} (hsegment : s.manager.Opened artifactType segment)
    (hopen : s.manager.openSegments.lookup artifactType = none) (io : CloseIo) :
    (s.closeTaken fmt io artifactType segment).1.PruneSafe missing := by
  unfold SegmentStore.closeTaken
  split
  · exact h
  · split
    · exact h
    · next bytes _ =>
        have hwritten := h.writeFile (s.manager.finalPath artifactType segment.sequenceNumber) bytes
        simp only
        split
        · exact h.keepOpen hsegment io _ _
        · split
          · exact h
          · split
            · exact hwritten
            · split
              · exact hwritten.keepOpen hsegment io _ _
              · split
                · exact hwritten
                · exact hwritten.recordClosed hsegment hopen
                    (AList.mem_insert _ |>.mpr (Or.inl rfl)) io _

theorem PruneSafe.closeSegment (h : s.PruneSafe missing) (io : CloseIo) (artifactType : String) :
    (s.closeSegment fmt io artifactType).1.PruneSafe missing := by
  unfold SegmentStore.closeSegment
  cases hopen : s.manager.openSegments.lookup artifactType with
  | none => exact h
  | some segment =>
      have hsegment : (s.takeOpen artifactType).manager.Opened artifactType segment :=
        (h.opened artifactType segment hopen).frame rfl rfl le_rfl
      have htaken := h.takeOpen artifactType
      simp only
      split
      · split
        · exact htaken
        · exact htaken.removeOpen hsegment
      · exact htaken.closeTaken hsegment (AList.lookup_erase _ _) io

theorem PruneSafe.closeTypes (h : s.PruneSafe missing) (io : String → CloseIo)
    (reports : ReportFaults) (types : List String) :
    (s.closeTypes fmt io reports types).1.PruneSafe missing :=
  closeTypes_invariant (P := PruneSafe missing)
    (fun _ artifactType hs => hs.closeSegment (io artifactType) artifactType)
    (fun _ reports hs => hs.writeAllReports reports) reports types h

/-! ## Appends -/

theorem PruneSafe.openSegmentMut (h : s.PruneSafe missing) (now : OffsetDateTime)
    (artifactType : String) :
    (s.openSegmentMut now artifactType).1.PruneSafe missing ∧
      (s.openSegmentMut now artifactType).1.manager.Opened artifactType
        (s.openSegmentMut now artifactType).2 := by
  cases hopen : s.manager.openSegments.lookup artifactType with
  | some segment =>
      rw [openSegmentMut_of_open hopen]
      exact ⟨h, h.opened artifactType segment hopen⟩
  | none =>
      have hmono := s.le_nextSequence_openSegmentMut now artifactType
      have hnext := nextSequence_openSegmentMut hopen now artifactType
      rw [if_pos rfl] at hnext
      rw [openSegmentMut_of_not_open hopen] at hmono hnext ⊢
      have hsegment : (s.opened now artifactType).manager.Opened artifactType
          (s.newSegment now artifactType) :=
        ⟨rfl, (Nat.lt_succ_self _).trans_eq hnext.symm,
          fun entry hmem htype => htype ▸ h.below entry hmem⟩
      refine ⟨⟨h.manifest, h.stored, ?_, ?_, h.kept⟩, hsegment⟩
      · exact fun entry hmem => (h.below entry hmem).trans_le (hmono _)
      · refine KeyedMap.forall_lookup_insert (fun other segment hlookup => ?_) hsegment
        exact (h.opened other segment hlookup).frame rfl rfl (hmono other)

theorem PruneSafe.appendLine (h : s.PruneSafe missing) (io : AppendIo) (artifactType : String)
    (bytes : Bytes) (eventTime : Option OffsetDateTime) :
    (s.appendLine fmt io artifactType bytes eventTime).1.PruneSafe missing := by
  obtain ⟨hopened, hsegment⟩ := h.openSegmentMut io.now artifactType
  have happended : ((s.openSegmentMut io.now artifactType).1.appendTo artifactType
      (s.openSegmentMut io.now artifactType).2 bytes eventTime io.now).PruneSafe missing := by
    have hwritten := hopened.appendBytes (s.openSegmentMut io.now artifactType).2.openPath bytes
    refine ⟨hwritten.manifest, hwritten.stored, hwritten.below, ?_, hwritten.kept⟩
    refine KeyedMap.forall_lookup_insert (fun other segment' hopen => ?_) ?_
    · exact (hopened.opened other segment' hopen).frame rfl rfl le_rfl
    · exact ⟨hsegment.openPath, hsegment.below, hsegment.above⟩
  unfold SegmentStore.appendLine
  simp only
  cases io.failsAfter with
  | some count => exact hopened.appendBytes _ _
  | none =>
      simp only
      split
      · exact happended.closeSegment io.close artifactType
      · exact happended

end SegmentStore

end PumpLaunchTrader
