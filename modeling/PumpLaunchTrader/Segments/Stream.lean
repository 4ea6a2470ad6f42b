import PumpLaunchTrader.Segments.Files

/-! # Streams without faults

Without input or output errors a close succeeds exactly when the bytes that the open file
already had are harmless. What each open file holds is kept along a run. -/

namespace PumpLaunchTrader

/-! ## Events without faults -/

/-- The disk does what it is asked for. -/
structure CloseIo.Sound (io : CloseIo) : Prop where
  read : io.readFails = false
  write : io.writeFails = false
  found : io.found = .contents
  finalRead : io.finalRead = some
  remove : io.removeFails = false
  reports : io.reports = {}

/-- Appends of lines and closes, without faults. -/
def SegmentStore.SegmentEvent.IsStream (fmt : SegmentFormats) : SegmentStore.SegmentEvent → Prop
  | .append _ bytes _ io =>
    (∃ line, fmt.IsLine line ∧ bytes = line ++ [newline]) ∧ io.failsAfter = none ∧ io.close.Sound
  | .closeDue _ io reports | .closeAll io reports =>
    (∀ artifactType, (io artifactType).Sound) ∧ reports = {}
  | _ => False

namespace SegmentStore

variable {fmt : SegmentFormats}

/-! ## Closing without faults -/

/-- What `zstd` is named in a manifest, when it is used. -/
def compressionName (self : SegmentManager) : Option String :=
  if self.compresses then some "zstd" else none

/-- The bytes of a closed file decode to what the open file held. -/
theorem finalBytes_sound (hfmt : fmt.Lawful) (self : SegmentManager) {raw : Bytes}
    (hraw : raw ≠ []) :
    ∃ bytes, self.finalBytes fmt raw = .ok bytes ∧ bytes ≠ [] ∧
      fmt.decoded (compressionName self) bytes = .ok raw := by
  unfold SegmentManager.finalBytes compressionName SegmentFormats.decoded
  cases self.compresses with
  | false => exact ⟨raw, rfl, hraw, rfl⟩
  | true =>
      obtain ⟨bytes, hencode, hbytes, hdecode⟩ := hfmt.encode raw
      have hname : eqIgnoreAsciiCase "zstd" "zstd" = true := decide_eq_true rfl
      exact ⟨bytes, hencode, hbytes, by simp [hname, hdecode]⟩

/-- The store after a segment that is no longer open was closed without faults. -/
def closedWith (self : SegmentStore) (artifactType : String) (segment : OpenSegment)
    (bytes : Bytes) : SegmentStore :=
  let entry := self.manager.closedEntry artifactType segment bytes
  let segments := (self.manager.segments.filter fun other => other.segmentId ≠ entry.segmentId) ++
    [entry]
  { manager := { self.manager with segments := segments }
    disk := { self.disk with
      files := (self.disk.files.insert entry.localPath bytes).erase segment.openPath
      segmentManifest := some segments } }

theorem closeTaken_sound (self : SegmentStore) {io : CloseIo} (hio : io.Sound)
    {artifactType : String} {segment : OpenSegment} {raw bytes : Bytes}
    (hraw : self.disk.files.lookup segment.openPath = some raw)
    (hbytes : self.manager.finalBytes fmt raw = .ok bytes) :
    self.closeTaken fmt io artifactType segment =
      if (fmt.validateBytes bytes (self.manager.closeOptions artifactType segment)).valid then
        (self.closedWith artifactType segment bytes, some true)
      else self.keepOpen io artifactType segment "before_write"
        (fmt.validateBytes bytes (self.manager.closeOptions artifactType segment)).errors := by
  obtain ⟨hread, hwrite, hfound, hfinal, hremove, hreports⟩ := hio
  unfold closeTaken
  simp only [hread, Bool.false_eq_true, if_false, hraw, hbytes, hwrite, hfound, hfinal]
  cases hvalid : (fmt.validateBytes bytes
      (self.manager.closeOptions artifactType segment)).valid with
  | false => simp
  | true =>
      have hempty : (self.manager.closeOptions artifactType segment).explicitlyEmpty = false := rfl
      obtain ⟨report, hreport, hagrees⟩ := fmt.validateFile_contents bytes hempty
        (finalPath_not_open self.manager artifactType segment.sequenceNumber)
      simp only [hreport, hagrees.mpr hvalid, Bool.true_eq_false, if_false, if_true]
      simp [recordClosed, writeAllReports, hreports, hremove, closedWith, writeFile, removeFile,
        SegmentManager.closedEntry]
      rfl

/-- Without faults a close depends on the validity of the bytes only. -/
theorem closeSegment_sound (self : SegmentStore) {io : CloseIo} (hio : io.Sound)
    {artifactType : String} {segment : OpenSegment}
    (hopen : self.manager.openSegments.lookup artifactType = some segment)
    (hrecords : segment.recordCount ≠ 0) {raw bytes : Bytes}
    (hraw : self.disk.files.lookup segment.openPath = some raw)
    (hbytes : self.manager.finalBytes fmt raw = .ok bytes) :
    self.closeSegment fmt io artifactType =
      if (fmt.validateBytes bytes (self.manager.closeOptions artifactType segment)).valid then
        ((self.takeOpen artifactType).closedWith artifactType segment bytes, some true)
      else (self.takeOpen artifactType).keepOpen io artifactType segment "before_write"
        (fmt.validateBytes bytes (self.manager.closeOptions artifactType segment)).errors := by
  unfold closeSegment
  simp only [hopen, if_neg hrecords]
  exact (self.takeOpen artifactType).closeTaken_sound hio hraw hbytes

/-! ## What open files hold -/

/-- The file of an open segment holds leftover bytes and then the lines that were counted. -/
structure OpenHolds (fmt : SegmentFormats) (s : SegmentStore) (artifactType : String)
    (segment : OpenSegment) (leftover line : Bytes) (lines : List Bytes) : Prop where
  path : segment.openPath = s.manager.openPath artifactType segment.sequenceNumber
  file : s.disk.files.lookup segment.openPath =
    some (leftover ++ Lines.unlines newline (line :: lines))
  isLine : fmt.IsLine line
  areLines : ∀ line ∈ lines, fmt.IsLine line
  count : segment.recordCount = lines.length + 1

/-- Every open file holds its lines, after bytes that are related to the first of them. -/
def Holding (fmt : SegmentFormats) (R : Bytes → Bytes → Prop) (s : SegmentStore) : Prop :=
  ∀ artifactType segment, s.manager.openSegments.lookup artifactType = some segment →
    ∃ leftover line lines,
      OpenHolds fmt s artifactType segment leftover line lines ∧ R leftover line

/-- What an open file holds does not change with other files. -/
theorem OpenHolds.frame {s s' : SegmentStore} {artifactType : String} {segment : OpenSegment}
    {leftover line : Bytes} {lines : List Bytes}
    (h : OpenHolds fmt s artifactType segment leftover line lines)
    (hroot : s'.manager.reportRoot = s.manager.reportRoot)
    (hfile : s'.disk.files.lookup segment.openPath = s.disk.files.lookup segment.openPath) :
    OpenHolds fmt s' artifactType segment leftover line lines where
  path := by
    rw [h.path, SegmentManager.openPath, SegmentManager.openPath, hroot]
  file := hfile.trans h.file
  isLine := h.isLine
  areLines := h.areLines
  count := h.count

theorem openPath_ne {manager : SegmentManager} {artifactType artifactType' : String}
    (h : artifactType' ≠ artifactType) (number number' : ℕ) :
    manager.openPath artifactType' number' ≠ manager.openPath artifactType number :=
  fun heq => h (openSegmentFileName_inj (joinPath_inj heq)).1

@[simp] theorem files_writeAllReports (s : SegmentStore) (faults : ReportFaults) :
    (s.writeAllReports faults).1.disk.files = s.disk.files := by
  unfold writeAllReports
  split <;> rfl

theorem keepOpen_frame (s : SegmentStore) (io : CloseIo) (artifactType : String)
    (segment : OpenSegment) (stage : String) (errors : List String) :
    (s.keepOpen io artifactType segment stage errors).1.disk.files = s.disk.files ∧
      (s.keepOpen io artifactType segment stage errors).1.manager.reportRoot =
        s.manager.reportRoot ∧
      (s.keepOpen io artifactType segment stage errors).1.manager.openSegments =
        s.manager.openSegments.insert artifactType segment := by
  simp [keepOpen]

/-- A close without faults, of an open file that holds its lines. -/
theorem OpenHolds.closeSegment (hfmt : fmt.Lawful) {s : SegmentStore} {io : CloseIo}
    (hio : io.Sound) {artifactType : String} {segment : OpenSegment}
    (hopen : s.manager.openSegments.lookup artifactType = some segment)
    {leftover line : Bytes} {lines : List Bytes}
    (h : OpenHolds fmt s artifactType segment leftover line lines) :
    (fmt.Harmless leftover line ∧ ∃ bytes,
      fmt.decoded (compressionName s.manager) bytes =
          .ok (leftover ++ Lines.unlines newline (line :: lines)) ∧
        s.closeSegment fmt io artifactType =
          ((s.takeOpen artifactType).closedWith artifactType segment bytes, some true)) ∨
    (¬ fmt.Harmless leftover line ∧ ∃ errors,
      s.closeSegment fmt io artifactType =
        (s.takeOpen artifactType).keepOpen io artifactType segment "before_write" errors) := by
  have hrecords : segment.recordCount ≠ 0 := by
    rw [h.count]
    omega
  have hraw : leftover ++ Lines.unlines newline (line :: lines) ≠ [] := by
    simp [Lines.unlines]
  obtain ⟨bytes, hbytes, hne, hdecoded⟩ := finalBytes_sound hfmt s.manager hraw
  have hclose := s.closeSegment_sound hio hopen hrecords h.file hbytes
  have hvalid : (fmt.validateBytes bytes (s.manager.closeOptions artifactType segment)).valid =
      true ↔ fmt.Harmless leftover line := by
    rw [fmt.valid_validateBytes_iff bytes rfl, ← SegmentFormats.holds_unlines_iff hfmt leftover
      h.isLine h.areLines, ← h.count]
    constructor
    · rintro ⟨-, text, htext, hholds⟩
      have hsame : Except.ok text = .ok (leftover ++ Lines.unlines newline (line :: lines)) :=
        htext.symm.trans hdecoded
      cases hsame
      exact hholds
    · exact fun hholds => ⟨hne, _, hdecoded, hholds⟩
  by_cases hharmless : fmt.Harmless leftover line
  · left
    refine ⟨hharmless, bytes, hdecoded, ?_⟩
    rw [hclose, if_pos (hvalid.mpr hharmless)]
  · right
    refine ⟨hharmless, (fmt.validateBytes bytes
      (s.manager.closeOptions artifactType segment)).errors, ?_⟩
    rw [hclose, if_neg fun hv => hharmless (hvalid.mp hv)]

/-- Such a close succeeds exactly when the leftover bytes are harmless. -/
theorem OpenHolds.closes_iff (hfmt : fmt.Lawful) {s : SegmentStore} {io : CloseIo}
    (hio : io.Sound) {artifactType : String} {segment : OpenSegment}
    (hopen : s.manager.openSegments.lookup artifactType = some segment)
    {leftover line : Bytes} {lines : List Bytes}
    (h : OpenHolds fmt s artifactType segment leftover line lines) :
    (s.closeSegment fmt io artifactType).2 = some true ↔ fmt.Harmless leftover line := by
  rcases h.closeSegment hfmt hio hopen with ⟨hharmless, bytes, -, hclose⟩ |
    ⟨hharmful, errors, hclose⟩
  · rw [hclose]
    exact iff_of_true rfl hharmless
  · rw [hclose]
    exact iff_of_false (keepOpen_ne_some_true _ _ _ _ _ _) hharmful

/-! ## Closes keep what open files hold -/

theorem closeSegment_of_not_open {s : SegmentStore} {io : CloseIo} {artifactType : String}
    (h : s.manager.openSegments.lookup artifactType = none) :
    s.closeSegment fmt io artifactType = (s, some false) := by
  unfold SegmentStore.closeSegment
  simp only [h]

/-- The other types keep their open files in a close. -/
theorem holding_closeSegment (hfmt : fmt.Lawful) {R : Bytes → Bytes → Prop} {s : SegmentStore}
    {io : CloseIo} (hio : io.Sound) (hs : s.Holding fmt R) (artifactType : String) :
    (s.closeSegment fmt io artifactType).1.Holding fmt R := by
  cases hopen : s.manager.openSegments.lookup artifactType with
  | none =>
      rw [closeSegment_of_not_open hopen]
      exact hs
  | some segment =>
      obtain ⟨leftover, line, lines, hholds, hR⟩ := hs artifactType segment hopen
      rcases hholds.closeSegment hfmt hio hopen with ⟨-, bytes, -, hclose⟩ | ⟨-, errors, hclose⟩
      · rw [hclose]
        intro other segment' hopen'
        have hother : other ≠ artifactType := by
          rintro rfl
          simp [closedWith, takeOpen] at hopen'
        have hopen'' : s.manager.openSegments.lookup other = some segment' := by
          simpa [closedWith, takeOpen, AList.lookup_erase_ne hother] using hopen'
        obtain ⟨leftover', line', lines', hholds', hR'⟩ := hs other segment' hopen''
        refine ⟨leftover', line', lines', hholds'.frame rfl ?_, hR'⟩
        have hfinal : segment'.openPath ≠
            s.manager.finalPath artifactType segment.sequenceNumber := by
          rw [hholds'.path]
          exact openPath_ne_finalPath _ _ _ _ _
        have hpath : segment'.openPath ≠ segment.openPath := by
          rw [hholds'.path, hholds.path]
          exact openPath_ne hother _ _
        change (AList.erase segment.openPath (AList.insert (s.manager.finalPath artifactType
          segment.sequenceNumber) bytes s.disk.files)).lookup segment'.openPath = _
        rw [AList.lookup_erase_ne hpath, AList.lookup_insert_ne hfinal]
      · rw [hclose]
        obtain ⟨hfiles, hroot, hsegments⟩ := keepOpen_frame (s.takeOpen artifactType) io
          artifactType segment "before_write" errors
        intro other segment' hopen'
        rw [hsegments] at hopen'
        have hopen'' : s.manager.openSegments.lookup other = some segment' := by
          by_cases hother : other = artifactType
          · subst hother
            rw [AList.lookup_insert] at hopen'
            exact hopen.trans hopen'
          · rwa [AList.lookup_insert_ne hother, takeOpen, AList.lookup_erase_ne hother] at hopen'
        obtain ⟨leftover', line', lines', hholds', hR'⟩ := hs other segment' hopen''
        exact ⟨leftover', line', lines', hholds'.frame hroot (by rw [hfiles]; rfl), hR'⟩

theorem holding_writeAllReports {R : Bytes → Bytes → Prop} {s : SegmentStore}
    (hs : s.Holding fmt R) (faults : ReportFaults) :
    (s.writeAllReports faults).1.Holding fmt R := by
  intro artifactType segment hopen
  rw [manager_writeAllReports] at hopen
  obtain ⟨leftover, line, lines, hholds, hR⟩ := hs artifactType segment hopen
  refine ⟨leftover, line, lines, hholds.frame ?_ ?_, hR⟩
  · rw [manager_writeAllReports]
  · rw [files_writeAllReports]

theorem holding_closeTypes (hfmt : fmt.Lawful) {R : Bytes → Bytes → Prop}
    {io : String → CloseIo} (hio : ∀ artifactType, (io artifactType).Sound)
    (reports : ReportFaults) (types : List String) {s : SegmentStore} (hs : s.Holding fmt R) :
    (s.closeTypes fmt io reports types).1.Holding fmt R :=
  closeTypes_invariant (P := Holding fmt R)
    (fun _ artifactType hs => holding_closeSegment hfmt (hio artifactType) hs artifactType)
    (fun _ reports hs => holding_writeAllReports hs reports) reports types hs

/-! ## Appends -/

/-- The bytes that the first append to a new segment of a type finds. -/
def leftoverOf (s : SegmentStore) (artifactType : String) : Bytes :=
  (s.disk.files.lookup (s.manager.openPath artifactType
    (s.manager.nextSequence artifactType))).getD []

/-- The store after the write of an append that succeeds. -/
def written (s : SegmentStore) (now : OffsetDateTime) (artifactType : String) (bytes : Bytes)
    (eventTime : Option OffsetDateTime) : SegmentStore :=
  (s.openSegmentMut now artifactType).1.appendTo artifactType
    (s.openSegmentMut now artifactType).2 bytes eventTime now

variable (fmt) in
/-- An append without a fault writes and then may close. -/
theorem appendLine_sound (s : SegmentStore) {io : AppendIo} (hio : io.failsAfter = none)
    (artifactType : String) (bytes : Bytes) (eventTime : Option OffsetDateTime) :
    (s.appendLine fmt io artifactType bytes eventTime).1 =
        s.written io.now artifactType bytes eventTime ∨
      (s.appendLine fmt io artifactType bytes eventTime).1 =
        ((s.written io.now artifactType bytes eventTime).closeSegment fmt io.close
          artifactType).1 := by
  unfold appendLine
  simp only [hio]
  split
  · exact Or.inr rfl
  · exact Or.inl rfl

theorem openSegmentMut_of_open {s : SegmentStore} {artifactType : String} {segment : OpenSegment}
    (h : s.manager.openSegments.lookup artifactType = some segment) (now : OffsetDateTime) :
    s.openSegmentMut now artifactType = (s, segment) := by
  unfold openSegmentMut
  simp only [h]

/-- The segment that an append opens. -/
def newSegment (s : SegmentStore) (now : OffsetDateTime) (artifactType : String) : OpenSegment :=
  { artifactType := artifactType
    sequenceNumber := s.manager.nextSequence artifactType
    openPath := s.manager.openPath artifactType (s.manager.nextSequence artifactType)
    createdAt := now
    updatedAt := now }

/-- The store in which it is open. -/
def opened (s : SegmentStore) (now : OffsetDateTime) (artifactType : String) : SegmentStore :=
  { s with
    manager := { s.manager with
      openSegments := s.manager.openSegments.insert artifactType (s.newSegment now artifactType)
      nextSequenceByType := s.manager.nextSequenceByType.insert artifactType
        (s.manager.nextSequence artifactType + 1) } }

theorem openSegmentMut_of_not_open {s : SegmentStore} {artifactType : String}
    (h : s.manager.openSegments.lookup artifactType = none) (now : OffsetDateTime) :
    s.openSegmentMut now artifactType =
      (s.opened now artifactType, s.newSegment now artifactType) := by
  unfold openSegmentMut
  simp only [h]
  rfl

theorem nextSequence_openSegmentMut {s : SegmentStore} {artifactType : String}
    (h : s.manager.openSegments.lookup artifactType = none) (now : OffsetDateTime)
    (other : String) :
    (s.openSegmentMut now artifactType).1.manager.nextSequence other =
      if other = artifactType then s.manager.nextSequence artifactType + 1
      else s.manager.nextSequence other := by
  rw [openSegmentMut_of_not_open h]
  change (AList.lookup other (AList.insert artifactType _ s.manager.nextSequenceByType)).getD 1 = _
  by_cases hother : other = artifactType
  · subst hother
    rw [AList.lookup_insert, if_pos rfl, Option.getD_some]
  · rw [AList.lookup_insert_ne hother, if_neg hother]
    rfl

theorem le_nextSequence_openSegmentMut (s : SegmentStore) (now : OffsetDateTime)
    (artifactType other : String) :
    s.manager.nextSequence other ≤
      (s.openSegmentMut now artifactType).1.manager.nextSequence other := by
  cases hopen : s.manager.openSegments.lookup artifactType with
  | some segment => rw [openSegmentMut_of_open hopen]
  | none =>
      rw [nextSequence_openSegmentMut hopen]
      split
      · next hother =>
          rw [hother]
          exact Nat.le_succ _
      · exact le_rfl

/-- A write only changes the file of its segment. -/
theorem lookup_written (s : SegmentStore) (now : OffsetDateTime) (artifactType : String)
    (bytes : Bytes) (eventTime : Option OffsetDateTime) {path : String}
    (hpath : path ≠ (s.openSegmentMut now artifactType).2.openPath) :
    (s.written now artifactType bytes eventTime).disk.files.lookup path =
      s.disk.files.lookup path := by
  refine (KeyedMap.lookup_upsert_ne _ hpath _ _).trans ?_
  unfold openSegmentMut
  split <;> rfl

/-- What a write leaves of the other types' segments. -/
theorem written_other (s : SegmentStore) (now : OffsetDateTime) {artifactType other : String}
    (hother : other ≠ artifactType) (bytes : Bytes) (eventTime : Option OffsetDateTime) :
    (s.written now artifactType bytes eventTime).manager.reportRoot = s.manager.reportRoot ∧
      (s.written now artifactType bytes eventTime).manager.openSegments.lookup other =
        s.manager.openSegments.lookup other := by
  unfold written appendTo appendBytes
  cases hopen : s.manager.openSegments.lookup artifactType with
  | some segment =>
      rw [openSegmentMut_of_open hopen]
      exact ⟨rfl, AList.lookup_insert_ne hother⟩
  | none =>
      rw [openSegmentMut_of_not_open hopen]
      refine ⟨rfl, ?_⟩
      change AList.lookup other (AList.insert artifactType _ (AList.insert artifactType _ _)) = _
      rw [AList.lookup_insert_ne hother, AList.lookup_insert_ne hother]

/-- A line that is written to an open file is one more of its lines. -/
theorem OpenHolds.written {s : SegmentStore} {artifactType : String} {segment : OpenSegment}
    (hopen : s.manager.openSegments.lookup artifactType = some segment)
    {leftover line : Bytes} {lines : List Bytes}
    (h : OpenHolds fmt s artifactType segment leftover line lines) {next : Bytes}
    (hnext : fmt.IsLine next) (now : OffsetDateTime) (eventTime : Option OffsetDateTime) :
    (s.written now artifactType (next ++ [newline]) eventTime).manager.openSegments.lookup
        artifactType = some (segment.appended (next ++ [newline]) eventTime now) ∧
      OpenHolds fmt (s.written now artifactType (next ++ [newline]) eventTime) artifactType
        (segment.appended (next ++ [newline]) eventTime now) leftover line (lines ++ [next]) := by
  unfold SegmentStore.written appendTo appendBytes
  rw [openSegmentMut_of_open hopen]
  refine ⟨AList.lookup_insert _, h.path, ?_, h.isLine, ?_, ?_⟩
  · change AList.lookup segment.openPath (KeyedMap.upsert _ _ _ _) = _
    rw [KeyedMap.lookup_upsert_self, h.file, Option.getD_some, List.append_assoc,
      ← List.cons_append, Lines.unlines_concat]
  · exact List.forall_mem_append.mpr ⟨h.areLines, List.forall_mem_singleton.mpr hnext⟩
  · change segment.recordCount + 1 = _
    rw [h.count, List.length_append, List.length_singleton]

variable (fmt) in
/-- The first line of a new segment follows what its file already had. -/
theorem openHolds_written {s : SegmentStore} {artifactType : String}
    (hopen : s.manager.openSegments.lookup artifactType = none) {line : Bytes}
    (hline : fmt.IsLine line) (now : OffsetDateTime) (eventTime : Option OffsetDateTime) :
    (s.written now artifactType (line ++ [newline]) eventTime).manager.openSegments.lookup
        artifactType =
          some ((s.newSegment now artifactType).appended (line ++ [newline]) eventTime now) ∧
      OpenHolds fmt (s.written now artifactType (line ++ [newline]) eventTime) artifactType
        ((s.newSegment now artifactType).appended (line ++ [newline]) eventTime now)
        (s.leftoverOf artifactType) line [] := by
  unfold SegmentStore.written appendTo appendBytes
  rw [openSegmentMut_of_not_open hopen]
  refine ⟨AList.lookup_insert _, rfl, ?_, hline, by simp, rfl⟩
  · change AList.lookup (s.manager.openPath artifactType (s.manager.nextSequence artifactType))
      (KeyedMap.upsert s.disk.files _ _ _) = _
    refine (KeyedMap.lookup_upsert_self _ _ _ _).trans ?_
    simp [leftoverOf, Lines.unlines]

theorem holding_written {R : Bytes → Bytes → Prop} {s : SegmentStore} (hs : s.Holding fmt R)
    {artifactType : String} {line : Bytes} (hline : fmt.IsLine line)
    (hnew : s.manager.openSegments.lookup artifactType = none →
      R (s.leftoverOf artifactType) line)
    (now : OffsetDateTime) (eventTime : Option OffsetDateTime) :
    (s.written now artifactType (line ++ [newline]) eventTime).Holding fmt R := by
  intro other segment' hopen'
  by_cases hother : other = artifactType
  · subst hother
    cases hopen : s.manager.openSegments.lookup other with
    | some segment =>
        obtain ⟨leftover, first, lines, hholds, hR⟩ := hs other segment hopen
        obtain ⟨hlookup, hwritten⟩ := hholds.written hopen hline now eventTime
        rw [hlookup] at hopen'
        cases hopen'
        exact ⟨leftover, first, _, hwritten, hR⟩
    | none =>
        obtain ⟨hlookup, hwritten⟩ := openHolds_written fmt hopen hline now eventTime
        rw [hlookup] at hopen'
        cases hopen'
        exact ⟨_, line, [], hwritten, hnew hopen⟩
  · obtain ⟨hroot, hlookup⟩ := s.written_other now hother (line ++ [newline]) eventTime
    rw [hlookup] at hopen'
    obtain ⟨leftover, first, lines, hholds, hR⟩ := hs other segment' hopen'
    refine ⟨leftover, first, lines,
      hholds.frame hroot (s.lookup_written now artifactType _ eventTime ?_), hR⟩
    rw [hholds.path]
    cases hopen : s.manager.openSegments.lookup artifactType with
    | some segment =>
        obtain ⟨_, _, _, hholds', -⟩ := hs artifactType segment hopen
        rw [openSegmentMut_of_open hopen, hholds'.path]
        exact openPath_ne hother _ _
    | none =>
        rw [openSegmentMut_of_not_open hopen now]
        exact openPath_ne hother _ _

end SegmentStore

end PumpLaunchTrader
