import PumpLaunchTrader.Segments.Restart

/-! # The order of records

On a disk without leftover files the closed segments of a type, by sequence number, and then
its open segment hold the appended records. No record is lost, doubled or moved. -/

namespace PumpLaunchTrader

namespace SegmentStore

variable {fmt : SegmentFormats}

/-! ## Records of a type -/

/-- The record that an event appends to a type. -/
def recordOf (artifactType : String) : SegmentEvent → Option Bytes
  | .append other bytes _ _ => if other = artifactType then some bytes.dropLast else none
  | _ => none

/-- The records of the closed segments of a type, by sequence number. -/
def closedRecords (fmt : SegmentFormats) (s : SegmentStore) (artifactType : String) :
    List Bytes :=
  ((s.manager.segments.filter fun entry => entry.artifactType = artifactType).insertionSort
    fun entry entry' => entry.sequenceNumber ≤ entry'.sequenceNumber).flatMap
      (s.entryRecords fmt)

/-- The records of the open segment of a type. -/
def openRecords (s : SegmentStore) (artifactType : String) : List Bytes :=
  match s.manager.openSegments.lookup artifactType with
  | none => []
  | some segment => Lines.records newline ((s.disk.files.lookup segment.openPath).getD [])

/-- The entries of a type are listed with increasing sequence numbers. -/
def Listed (entry entry' : RunSegmentEntry) : Prop :=
  entry.artifactType = entry'.artifactType → entry.sequenceNumber < entry'.sequenceNumber

/-- What appends and closes without faults keep: the names, the counts and the numbers of the
closed segments, and no bytes where a segment will be opened. -/
structure InOrder (fmt : SegmentFormats) (s : SegmentStore) : Prop where
  fresh : s.Holding fmt fun leftover _ => leftover = []
  segmentId : ∀ entry ∈ s.manager.segments,
    entry.segmentId = segmentIdOf s.manager.runId entry.artifactType entry.sequenceNumber
  localPath : ∀ entry ∈ s.manager.segments,
    entry.localPath = s.manager.finalPath entry.artifactType entry.sequenceNumber
  recordCount : ∀ entry ∈ s.manager.segments,
    (s.entryRecords fmt entry).length = entry.recordCount
  listed : s.manager.segments.Pairwise Listed
  below : ∀ entry ∈ s.manager.segments,
    entry.sequenceNumber < s.manager.nextSequence entry.artifactType
  openBelow : ∀ artifactType segment,
    s.manager.openSegments.lookup artifactType = some segment →
      segment.sequenceNumber < s.manager.nextSequence artifactType ∧
        ∀ entry ∈ s.manager.segments, entry.artifactType = artifactType →
          entry.sequenceNumber < segment.sequenceNumber
  unused : ∀ artifactType number, s.manager.nextSequence artifactType ≤ number →
    s.disk.files.lookup (s.manager.openPath artifactType number) = none

/-- Listed entries are sorted. -/
theorem InOrder.closedRecords_eq {s : SegmentStore} (hs : s.InOrder fmt)
    (artifactType : String) :
    s.closedRecords fmt artifactType =
      (s.manager.segments.filter fun entry => entry.artifactType = artifactType).flatMap
        (s.entryRecords fmt) := by
  unfold closedRecords
  congr 1
  refine List.Pairwise.insertionSort_eq ?_
  refine List.pairwise_filter.mpr (hs.listed.imp ?_)
  intro entry entry' hlisted htype htype'
  exact (hlisted ((of_decide_eq_true htype).trans (of_decide_eq_true htype').symm)).le

theorem InOrder.nodup_segmentIds {s : SegmentStore} (hs : s.InOrder fmt) :
    (s.manager.segments.map RunSegmentEntry.segmentId).Nodup := by
  rw [List.nodup_iff_pairwise_ne, List.pairwise_map]
  refine hs.listed.imp_of_mem fun {entry entry'} hmem hmem' hlisted heq => ?_
  rw [hs.segmentId entry hmem, hs.segmentId entry' hmem'] at heq
  obtain ⟨htype, hnumber⟩ := segmentIdOf_inj heq
  have hlt := hlisted htype
  omega

/-! ## Closes -/

/-- The records of a type, in closed segments and in the open one. -/
def streamRecords (fmt : SegmentFormats) (s : SegmentStore) (artifactType : String) :
    List Bytes :=
  s.closedRecords fmt artifactType ++ s.openRecords artifactType

theorem entryRecords_congr {s s' : SegmentStore} {entry : RunSegmentEntry}
    (h : s'.disk.files.lookup entry.localPath = s.disk.files.lookup entry.localPath) :
    s'.entryRecords fmt entry = s.entryRecords fmt entry := by
  unfold entryRecords
  rw [h]

/-- A close only changes the file of the open segment and the one that it writes. -/
theorem lookup_closedWith (s : SegmentStore) (artifactType : String) (segment : OpenSegment)
    (bytes : Bytes) {path : String} (hopen : path ≠ segment.openPath)
    (hfinal : path ≠ s.manager.finalPath artifactType segment.sequenceNumber) :
    ((s.takeOpen artifactType).closedWith artifactType segment bytes).disk.files.lookup path =
      s.disk.files.lookup path := by
  change AList.lookup path (AList.erase segment.openPath (AList.insert (s.manager.finalPath
    artifactType segment.sequenceNumber) bytes s.disk.files)) = _
  rw [AList.lookup_erase_ne hopen, AList.lookup_insert_ne hfinal]

theorem OpenHolds.records (hfmt : fmt.Lawful) {s : SegmentStore} {artifactType : String}
    {segment : OpenSegment} {leftover line : Bytes} {lines : List Bytes}
    (h : OpenHolds fmt s artifactType segment leftover line lines) :
    Lines.records newline (Lines.unlines newline (line :: lines)) = line :: lines := by
  refine Lines.records_unlines (List.forall_mem_cons.mpr ⟨h.isLine.isRecord hfmt, ?_⟩)
  exact fun line hmem => (h.areLines line hmem).isRecord hfmt

/-- An open file that started empty holds its lines. -/
theorem OpenHolds.openRecords (hfmt : fmt.Lawful) {s : SegmentStore} {artifactType : String}
    {segment : OpenSegment} (hopen : s.manager.openSegments.lookup artifactType = some segment)
    {line : Bytes} {lines : List Bytes}
    (h : OpenHolds fmt s artifactType segment [] line lines) :
    s.openRecords artifactType = line :: lines := by
  unfold SegmentStore.openRecords
  simp only [hopen, h.file, Option.getD_some, List.nil_append]
  exact h.records hfmt

/-- Its closed file holds them too. -/
theorem OpenHolds.entryRecords (hfmt : fmt.Lawful) {s : SegmentStore} {artifactType : String}
    {segment : OpenSegment} {line : Bytes} {lines : List Bytes}
    (h : OpenHolds fmt s artifactType segment [] line lines) {bytes : Bytes}
    (hdecoded : fmt.decoded (compressionName s.manager) bytes =
      .ok (Lines.unlines newline (line :: lines))) :
    ((s.takeOpen artifactType).closedWith artifactType segment bytes).entryRecords fmt
        (s.manager.closedEntry artifactType segment bytes) = line :: lines :=
  (entryRecords_closedWith (s := s.takeOpen artifactType) h.path hdecoded).trans (h.records hfmt)

section Close

variable {s : SegmentStore} (hs : s.InOrder fmt) {artifactType : String} {segment : OpenSegment}
  (hopen : s.manager.openSegments.lookup artifactType = some segment) {line : Bytes}
  {lines : List Bytes} (hholds : OpenHolds fmt s artifactType segment [] line lines)
  {bytes : Bytes}
  (hdecoded : fmt.decoded (compressionName s.manager) bytes =
    .ok (Lines.unlines newline (line :: lines)))

include hs hopen

/-- A segment that is closed is the last entry of its type. -/
theorem InOrder.listed_last {entry : RunSegmentEntry} (hmem : entry ∈ s.manager.segments) :
    Listed entry (s.manager.closedEntry artifactType segment bytes) :=
  fun htype => (hs.openBelow artifactType segment hopen).2 entry hmem htype

/-- A segment that is closed has a new id. -/
theorem InOrder.segments_closedWith :
    ((s.takeOpen artifactType).closedWith artifactType segment bytes).manager.segments =
      s.manager.segments ++ [s.manager.closedEntry artifactType segment bytes] := by
  change (s.manager.segments.filter _) ++ _ = _
  rw [List.filter_eq_self.mpr]
  · rfl
  · intro entry hmem
    refine decide_eq_true fun hid => ?_
    rw [hs.segmentId entry hmem] at hid
    obtain ⟨htype, hnumber⟩ := segmentIdOf_inj hid
    have hlt := (hs.openBelow artifactType segment hopen).2 entry hmem htype
    omega

include hholds

/-- The files of the other entries do not change. -/
theorem InOrder.entryRecords_closedWith {entry : RunSegmentEntry}
    (hmem : entry ∈ s.manager.segments) :
    ((s.takeOpen artifactType).closedWith artifactType segment bytes).entryRecords fmt entry =
      s.entryRecords fmt entry := by
  refine entryRecords_congr (s.lookup_closedWith artifactType segment bytes ?_ ?_)
  · rw [hs.localPath entry hmem, hholds.path]
    exact (openPath_ne_finalPath _ _ _ _ _).symm
  · rw [hs.localPath entry hmem]
    intro hpath
    obtain ⟨htype, hnumber⟩ := segmentFileName_inj (joinPath_inj hpath)
    have hlt := (hs.openBelow artifactType segment hopen).2 entry hmem htype
    omega

omit hopen in
/-- Another type has another open file. -/
theorem InOrder.openRecords_closedWith {other : String} (hother : other ≠ artifactType) :
    ((s.takeOpen artifactType).closedWith artifactType segment bytes).openRecords other =
      s.openRecords other := by
  have hlookup : ((s.takeOpen artifactType).closedWith artifactType segment
      bytes).manager.openSegments.lookup other = s.manager.openSegments.lookup other :=
    AList.lookup_erase_ne hother
  unfold openRecords
  rw [hlookup]
  cases hopen' : s.manager.openSegments.lookup other with
  | none => rfl
  | some segment' =>
      obtain ⟨leftover', line', lines', hholds', -⟩ := hs.fresh other segment' hopen'
      have hpath : segment'.openPath ≠ segment.openPath := by
        rw [hholds'.path, hholds.path]
        exact openPath_ne hother _ _
      have hfinal : segment'.openPath ≠
          s.manager.finalPath artifactType segment.sequenceNumber := by
        rw [hholds'.path]
        exact openPath_ne_finalPath _ _ _ _ _
      simp only [s.lookup_closedWith artifactType segment bytes hpath hfinal]

include hdecoded

theorem InOrder.closedWith (hfmt : fmt.Lawful)
    (hfresh : ((s.takeOpen artifactType).closedWith artifactType segment bytes).Holding fmt
      fun leftover _ => leftover = []) :
    ((s.takeOpen artifactType).closedWith artifactType segment bytes).InOrder fmt := by
  have hsegments : ((s.takeOpen artifactType).closedWith artifactType segment
      bytes).manager.segments = _ := hs.segments_closedWith hopen
  -- the entries are the old ones and the closed one
  have hentries : ∀ {Q : RunSegmentEntry → Prop}, (∀ entry ∈ s.manager.segments, Q entry) →
      Q (s.manager.closedEntry artifactType segment bytes) → ∀ entry ∈ ((s.takeOpen
        artifactType).closedWith artifactType segment bytes).manager.segments, Q entry := by
    intro Q hold hnew
    rw [hsegments]
    exact List.forall_mem_append.mpr ⟨hold, List.forall_mem_singleton.mpr hnew⟩
  refine ⟨hfresh, hentries hs.segmentId rfl, hentries hs.localPath rfl, ?_, ?_, ?_, ?_, ?_⟩
  · refine hentries (fun entry hmem => ?_) ?_
    · rw [hs.entryRecords_closedWith hopen hholds hmem]
      exact hs.recordCount entry hmem
    · rw [hholds.entryRecords hfmt hdecoded]
      exact hholds.count.symm
  · rw [hsegments]
    refine List.pairwise_append.mpr ⟨hs.listed, List.pairwise_singleton _ _, ?_⟩
    intro entry hmem last hlast
    rw [List.mem_singleton.mp hlast]
    exact hs.listed_last hopen hmem
  · exact hentries hs.below (hs.openBelow artifactType segment hopen).1
  · intro other segment' hopen'
    have hother : other ≠ artifactType := by
      rintro rfl
      simp [SegmentStore.closedWith, takeOpen] at hopen'
    have hopen'' : s.manager.openSegments.lookup other = some segment' := by
      simpa [SegmentStore.closedWith, takeOpen, AList.lookup_erase_ne hother] using hopen'
    obtain ⟨hnext, hentry⟩ := hs.openBelow other segment' hopen''
    exact ⟨hnext, hentries hentry fun htype => absurd htype.symm hother⟩
  · intro other number hnumber
    by_cases hpath : s.manager.openPath other number = segment.openPath
    · change AList.lookup (s.manager.openPath other number) (AList.erase segment.openPath _) = _
      rw [hpath]
      exact AList.lookup_erase _ _
    · exact (s.lookup_closedWith artifactType segment bytes hpath
        (openPath_ne_finalPath _ _ _ _ _)).trans (hs.unused other number hnumber)

/-- A close moves the records of the open segment to the end of the closed ones. -/
theorem InOrder.streamRecords_closedWith (hfmt : fmt.Lawful)
    (hclosed : ((s.takeOpen artifactType).closedWith artifactType segment bytes).InOrder fmt)
    (other : String) :
    ((s.takeOpen artifactType).closedWith artifactType segment bytes).streamRecords fmt other =
      s.streamRecords fmt other := by
  have hold : ∀ entries : List RunSegmentEntry, entries ⊆ s.manager.segments →
      entries.flatMap (((s.takeOpen artifactType).closedWith artifactType segment
        bytes).entryRecords fmt) = entries.flatMap (s.entryRecords fmt) := by
    intro entries hsubset
    refine List.flatMap_congr fun entry hmem => ?_
    exact hs.entryRecords_closedWith hopen hholds (hsubset hmem)
  unfold streamRecords
  rw [hclosed.closedRecords_eq, hs.closedRecords_eq, hs.segments_closedWith hopen,
    List.filter_append, List.flatMap_append, hold _ (List.filter_subset_self _), List.append_assoc]
  congr 1
  by_cases hother : other = artifactType
  · subst hother
    have htype : (s.manager.closedEntry other segment bytes).artifactType = other := rfl
    have hrecords := hholds.openRecords hfmt hopen
    have hnone : ((s.takeOpen other).closedWith other segment bytes).openRecords other = [] := by
      unfold openRecords
      simp [SegmentStore.closedWith, takeOpen]
    rw [hrecords, hnone, List.filter_singleton]
    simp [htype, hholds.entryRecords hfmt hdecoded]
  · have htype : (s.manager.closedEntry artifactType segment bytes).artifactType ≠ other :=
      Ne.symm hother
    rw [hs.openRecords_closedWith hholds hother, List.filter_singleton]
    simp [htype]

end Close

/-! ## Advances -/

/-- From one store to another some records are added to each type, and entries only to the end
of the manifest. -/
structure Advances (fmt : SegmentFormats) (s s' : SegmentStore) (added : String → List Bytes) :
    Prop where
  inOrder : s'.InOrder fmt
  records : ∀ artifactType, s'.streamRecords fmt artifactType =
    s.streamRecords fmt artifactType ++ added artifactType
  manifest : s.manager.segments <+: s'.manager.segments

theorem InOrder.advances {s : SegmentStore} (hs : s.InOrder fmt) :
    s.Advances fmt s fun _ => [] :=
  ⟨hs, fun _ => (List.append_nil _).symm, List.prefix_rfl⟩

theorem Advances.trans {s s' s'' : SegmentStore} {added added' : String → List Bytes}
    (h : s.Advances fmt s' added) (h' : s'.Advances fmt s'' added') :
    s.Advances fmt s'' fun artifactType => added artifactType ++ added' artifactType where
  inOrder := h'.inOrder
  records artifactType := by
    rw [h'.records, h.records, List.append_assoc]
  manifest := h.manifest.trans h'.manifest

theorem Advances.congr {s s' : SegmentStore} {added added' : String → List Bytes}
    (h : s.Advances fmt s' added) (hadded : ∀ artifactType, added artifactType =
      added' artifactType) : s.Advances fmt s' added' :=
  funext hadded ▸ h

theorem advances_writeAllReports {s : SegmentStore} (hs : s.InOrder fmt)
    (reports : ReportFaults) : s.Advances fmt (s.writeAllReports reports).1 fun _ => [] := by
  have hfresh := holding_writeAllReports hs.fresh reports
  unfold writeAllReports at hfresh ⊢
  split
  · exact hs.advances
  · next hwritten =>
      rw [if_neg hwritten] at hfresh
      exact ⟨⟨hfresh, hs.segmentId, hs.localPath, hs.recordCount, hs.listed, hs.below,
        hs.openBelow, hs.unused⟩, fun _ => (List.append_nil _).symm, List.prefix_rfl⟩

theorem advances_closeSegment (hfmt : fmt.Lawful) {io : CloseIo} (hio : io.Sound)
    {s : SegmentStore} (hs : s.InOrder fmt) (artifactType : String) :
    s.Advances fmt (s.closeSegment fmt io artifactType).1 fun _ => [] := by
  cases hopen : s.manager.openSegments.lookup artifactType with
  | none =>
      rw [closeSegment_of_not_open hopen]
      exact hs.advances
  | some segment =>
      have hfresh := holding_closeSegment hfmt hio hs.fresh artifactType
      obtain ⟨leftover, line, lines, hholds, rfl⟩ := hs.fresh artifactType segment hopen
      rcases hholds.closeSegment hfmt hio hopen with ⟨-, bytes, hdecoded, hclose⟩ | ⟨hharmful, -⟩
      · rw [hclose] at hfresh ⊢
        rw [List.nil_append] at hdecoded
        have hclosed := hs.closedWith hopen hholds hdecoded hfmt hfresh
        refine ⟨hclosed, fun other => ?_, ?_⟩
        · rw [List.append_nil]
          exact hs.streamRecords_closedWith hopen hholds hdecoded hfmt hclosed other
        · rw [hs.segments_closedWith hopen]
          exact List.prefix_append _ _
      · exact absurd (SegmentFormats.harmless_nil hholds.isLine) hharmful

theorem advances_closeTypes (hfmt : fmt.Lawful) {io : String → CloseIo}
    (hio : ∀ artifactType, (io artifactType).Sound) (reports : ReportFaults)
    (types : List String) {s : SegmentStore} (hs : s.InOrder fmt) :
    s.Advances fmt (s.closeTypes fmt io reports types).1 fun _ => [] := by
  refine closeTypes_invariant (P := fun s' => s.Advances fmt s' fun _ => []) ?_ ?_ reports types
    hs.advances
  · intro s' artifactType hs'
    exact hs'.trans (advances_closeSegment hfmt (hio artifactType) hs'.inOrder artifactType)
  · intro s' reports hs'
    exact hs'.trans (advances_writeAllReports hs'.inOrder reports)

/-! ## Appends -/

theorem manager_written (s : SegmentStore) (now : OffsetDateTime) (artifactType : String)
    (bytes : Bytes) (eventTime : Option OffsetDateTime) :
    (s.written now artifactType bytes eventTime).manager =
      { s.manager with
        openSegments := (s.written now artifactType bytes eventTime).manager.openSegments
        nextSequenceByType :=
          (s.written now artifactType bytes eventTime).manager.nextSequenceByType } := by
  unfold written openSegmentMut
  split <;> rfl

/-- The segment that is written to has the last number of its type. -/
theorem InOrder.openSegmentMut {s : SegmentStore} (hs : s.InOrder fmt) (now : OffsetDateTime)
    (artifactType : String) (bytes : Bytes) (eventTime : Option OffsetDateTime) :
    (s.openSegmentMut now artifactType).2.openPath =
        s.manager.openPath artifactType (s.openSegmentMut now artifactType).2.sequenceNumber ∧
      (s.openSegmentMut now artifactType).2.sequenceNumber <
        (s.written now artifactType bytes eventTime).manager.nextSequence artifactType ∧
      ∀ entry ∈ s.manager.segments, entry.artifactType = artifactType →
        entry.sequenceNumber < (s.openSegmentMut now artifactType).2.sequenceNumber := by
  cases hopen : s.manager.openSegments.lookup artifactType with
  | some segment =>
      obtain ⟨leftover, line, lines, hholds, -⟩ := hs.fresh artifactType segment hopen
      obtain ⟨hnext, hentry⟩ := hs.openBelow artifactType segment hopen
      unfold written
      rw [openSegmentMut_of_open hopen]
      exact ⟨hholds.path, hnext, hentry⟩
  | none =>
      have hnext := nextSequence_openSegmentMut hopen now artifactType
      rw [if_pos rfl] at hnext
      rw [openSegmentMut_of_not_open hopen]
      exact ⟨rfl, (Nat.lt_succ_self _).trans_eq hnext.symm,
        fun entry hmem htype => htype ▸ hs.below entry hmem⟩

section Append

variable {s : SegmentStore} (hs : s.InOrder fmt) {artifactType : String} {line : Bytes}
  (hline : fmt.IsLine line) (now : OffsetDateTime) (eventTime : Option OffsetDateTime)

include hs

/-- The records of the closed segments stay where they are. -/
theorem InOrder.entryRecords_written {entry : RunSegmentEntry}
    (hmem : entry ∈ s.manager.segments) :
    (s.written now artifactType (line ++ [newline]) eventTime).entryRecords fmt entry =
      s.entryRecords fmt entry := by
  refine entryRecords_congr (s.lookup_written now artifactType _ eventTime ?_)
  rw [hs.localPath entry hmem, (hs.openSegmentMut now artifactType [] none).1]
  exact (openPath_ne_finalPath _ _ _ _ _).symm

theorem InOrder.leftoverOf_eq_nil : s.leftoverOf artifactType = [] := by
  rw [leftoverOf, hs.unused artifactType _ le_rfl, Option.getD_none]

include hline

theorem InOrder.written :
    (s.written now artifactType (line ++ [newline]) eventTime).InOrder fmt := by
  have hmanager := s.manager_written now artifactType (line ++ [newline]) eventTime
  obtain ⟨hpath, hnext, hentry⟩ :=
    hs.openSegmentMut now artifactType (line ++ [newline]) eventTime
  have hmono : ∀ other, s.manager.nextSequence other ≤
      (s.written now artifactType (line ++ [newline]) eventTime).manager.nextSequence other :=
    s.le_nextSequence_openSegmentMut now artifactType
  have hsegments : (s.written now artifactType (line ++ [newline]) eventTime).manager.segments =
      s.manager.segments := by rw [hmanager]
  refine ⟨?_, ?_, ?_, ?_, ?_, ?_, ?_, ?_⟩
  · exact holding_written hs.fresh hline (fun _ => hs.leftoverOf_eq_nil) now eventTime
  · rw [hmanager]
    exact hs.segmentId
  · rw [hmanager]
    exact hs.localPath
  · intro entry hmem
    rw [hsegments] at hmem
    rw [hs.entryRecords_written now eventTime hmem]
    exact hs.recordCount entry hmem
  · rw [hsegments]
    exact hs.listed
  · intro entry hmem
    rw [hsegments] at hmem
    exact (hs.below entry hmem).trans_le (hmono _)
  · intro other segment hopen
    rw [hsegments]
    by_cases hother : other = artifactType
    · subst hother
      have hlookup : (s.written now other (line ++ [newline])
          eventTime).manager.openSegments.lookup other = some ((s.openSegmentMut now
            other).2.appended (line ++ [newline]) eventTime now) := AList.lookup_insert _
      rw [hlookup] at hopen
      cases hopen
      exact ⟨hnext, hentry⟩
    · rw [(s.written_other now hother (line ++ [newline]) eventTime).2] at hopen
      obtain ⟨hbelow, hentries⟩ := hs.openBelow other segment hopen
      exact ⟨hbelow.trans_le (hmono other), hentries⟩
  · intro other number hnumber
    have hroot : (s.written now artifactType (line ++ [newline]) eventTime).manager.openPath other
        number = s.manager.openPath other number := by
      rw [hmanager]
      rfl
    rw [hroot]
    -- the number that is written to is used
    have hne :
        s.manager.openPath other number ≠ (s.openSegmentMut now artifactType).2.openPath := by
      rw [hpath]
      intro heq
      obtain ⟨rfl, rfl⟩ := openSegmentFileName_inj (joinPath_inj heq)
      omega
    rw [s.lookup_written now artifactType _ eventTime hne]
    exact hs.unused other number ((hmono other).trans hnumber)

/-- A write adds its line to the records of the open segment. -/
theorem InOrder.openRecords_written (hfmt : fmt.Lawful) (other : String) :
    (s.written now artifactType (line ++ [newline]) eventTime).openRecords other =
      s.openRecords other ++ if artifactType = other then [line] else [] := by
  by_cases hother : artifactType = other
  · subst hother
    rw [if_pos rfl]
    cases hopen : s.manager.openSegments.lookup artifactType with
    | some segment =>
        obtain ⟨leftover, first, lines, hholds, rfl⟩ := hs.fresh artifactType segment hopen
        obtain ⟨hlookup, hwritten⟩ := hholds.written hopen hline now eventTime
        rw [hwritten.openRecords hfmt hlookup, hholds.openRecords hfmt hopen]
        rfl
    | none =>
        obtain ⟨hlookup, hwritten⟩ := openHolds_written fmt hopen hline now eventTime
        rw [hs.leftoverOf_eq_nil] at hwritten
        rw [hwritten.openRecords hfmt hlookup]
        simp [openRecords, hopen]
  · obtain ⟨-, hlookup⟩ := s.written_other now (Ne.symm hother) (line ++ [newline]) eventTime
    rw [if_neg hother, List.append_nil]
    unfold openRecords
    rw [hlookup]
    cases hopen : s.manager.openSegments.lookup other with
    | none => rfl
    | some segment =>
        obtain ⟨leftover, first, lines, hholds, -⟩ := hs.fresh other segment hopen
        have hpath : segment.openPath ≠ (s.openSegmentMut now artifactType).2.openPath := by
          rw [hholds.path, (hs.openSegmentMut now artifactType [] none).1]
          exact openPath_ne (Ne.symm hother) _ _
        simp only [s.lookup_written now artifactType _ eventTime hpath]

theorem advances_written (hfmt : fmt.Lawful) :
    s.Advances fmt (s.written now artifactType (line ++ [newline]) eventTime)
      fun other => if artifactType = other then [line] else [] := by
  have hmanager := s.manager_written now artifactType (line ++ [newline]) eventTime
  have hsegments : (s.written now artifactType (line ++ [newline]) eventTime).manager.segments =
      s.manager.segments := by rw [hmanager]
  have hwritten : (s.written now artifactType (line ++ [newline]) eventTime).InOrder fmt :=
    hs.written hline now eventTime
  refine ⟨hwritten, fun other => ?_, ?_⟩
  · have hclosed : (s.written now artifactType (line ++ [newline]) eventTime).closedRecords fmt
        other = s.closedRecords fmt other := by
      rw [hwritten.closedRecords_eq, hs.closedRecords_eq, hsegments]
      refine List.flatMap_congr fun entry hmem => ?_
      exact hs.entryRecords_written now eventTime (List.mem_of_mem_filter hmem)
    unfold streamRecords
    rw [hclosed, hs.openRecords_written hline now eventTime hfmt other, List.append_assoc]
  · rw [hsegments]

end Append

theorem advances_step (hfmt : fmt.Lawful) {s : SegmentStore} (hs : s.InOrder fmt)
    {event : SegmentEvent} (hevent : event.IsStream fmt) :
    s.Advances fmt (s.step fmt event) fun artifactType =>
      (recordOf artifactType event).toList := by
  cases event with
  | append artifactType bytes eventTime io =>
      obtain ⟨⟨line, hline, rfl⟩, hio, hclose⟩ := hevent
      have hwritten : s.Advances fmt (s.written io.now artifactType (line ++ [newline]) eventTime)
          fun other => if artifactType = other then [line] else [] :=
        advances_written hs hline io.now eventTime hfmt
      have hrecord : ∀ other, (if artifactType = other then [line] else []) =
          (recordOf other (.append artifactType (line ++ [newline]) eventTime io)).toList := by
        intro other
        by_cases hother : artifactType = other
        · simp [recordOf, hother]
        · simp [recordOf, hother]
      rcases s.appendLine_sound fmt hio artifactType (line ++ [newline]) eventTime with
        hstep | hstep
      · rw [step, hstep]
        exact hwritten.congr hrecord
      · rw [step, hstep]
        refine (hwritten.trans
          (advances_closeSegment hfmt hclose hwritten.inOrder artifactType)).congr fun other => ?_
        exact (List.append_nil _).trans (hrecord other)
  | closeDue now io reports => exact advances_closeTypes hfmt hevent.1 reports _ hs
  | closeAll io reports => exact advances_closeTypes hfmt hevent.1 reports _ hs
  | upload io => exact hevent.elim
  | enforceBudget io => exact hevent.elim
  | writeExports exports => exact hevent.elim

theorem advances_run (hfmt : fmt.Lawful) {s : SegmentStore} (hs : s.InOrder fmt)
    {events : List SegmentEvent} (hevents : ∀ event ∈ events, event.IsStream fmt) :
    s.Advances fmt (s.run fmt events) fun artifactType =>
      events.filterMap (recordOf artifactType) := by
  induction events generalizing s with
  | nil => exact hs.advances
  | cons event events ih =>
      obtain ⟨hevent, hrest⟩ := List.forall_mem_cons.mp hevents
      have hstep := advances_step hfmt hs hevent
      have hrun := hstep.trans (ih hstep.inOrder hrest)
      refine ⟨hrun.inOrder, fun artifactType => ?_, hrun.manifest⟩
      refine (hrun.records artifactType).trans ?_
      cases hrecord : recordOf artifactType event with
      | none => simp [hrecord]
      | some line => simp [hrecord]

/-- Appends and closes without faults, from a start on a disk without leftover files: the
records of each type are kept in order, and so are its segments. -/
theorem records_in_order (hfmt : fmt.Lawful) {config : SegmentsConfig}
    {runId reportRoot : String} {client : Except String R2Client} {disk : Disk}
    (hfiles : disk.files = ∅) (hmanifest : disk.segmentManifest = none) {start : SegmentStore}
    (hstart : fromLoaded config runId reportRoot client disk {} = some (start, some ()))
    {events : List SegmentEvent} (hevents : ∀ event ∈ events, event.IsStream fmt) :
    (∀ artifactType, (start.run fmt events).closedRecords fmt artifactType ++
        (start.run fmt events).openRecords artifactType =
          events.filterMap (recordOf artifactType)) ∧
      (∀ entry ∈ (start.run fmt events).manager.segments,
        ((start.run fmt events).entryRecords fmt entry).length = entry.recordCount) ∧
      ((start.run fmt events).manager.segments.map RunSegmentEntry.segmentId).Nodup ∧
      (start.run fmt events).manager.segments.Pairwise Listed ∧
      ∀ before after, events = before ++ after →
        (start.run fmt before).manager.segments <+: (start.run fmt events).manager.segments := by
  obtain ⟨hopen, hdisk, hsegments, hnumbers, -⟩ := fromLoaded_start hstart
  rw [hmanifest] at hsegments hnumbers
  have horder : start.InOrder fmt := by
    refine ⟨holding_of_no_open hopen, ?_, ?_, ?_, ?_, ?_, ?_, ?_⟩
    · simp [hsegments]
    · simp [hsegments]
    · simp [hsegments]
    · simp [hsegments]
    · simp [hsegments]
    · simp [hopen]
    · simp [hdisk, hfiles]
  have hrun := advances_run hfmt horder hevents
  refine ⟨fun artifactType => ?_, hrun.inOrder.recordCount, hrun.inOrder.nodup_segmentIds,
    hrun.inOrder.listed, ?_⟩
  · have hnone : start.streamRecords fmt artifactType = [] := by
      simp [streamRecords, closedRecords, openRecords, hsegments, hopen]
    rw [← List.nil_append (events.filterMap _), ← hnone]
    exact hrun.records artifactType
  · rintro before after rfl
    obtain ⟨hbefore, hafter⟩ := List.forall_mem_append.mp hevents
    have hfirst := advances_run hfmt horder hbefore
    unfold run
    rw [List.foldl_append]
    exact (advances_run hfmt hfirst.inOrder hafter).manifest

theorem records_in_order_sample :
    ((sampleStart {}).run sampleFormats [sampleAppend, .closeAll (fun _ => {}) {},
      sampleAppend]).closedRecords sampleFormats "events" ++
        ((sampleStart {}).run sampleFormats [sampleAppend, .closeAll (fun _ => {}) {},
          sampleAppend]).openRecords "events" = [[0x7b, 0x7d], [0x7b, 0x7d]] := by
  have hclose : (SegmentEvent.closeAll (fun _ => {}) {}).IsStream sampleFormats :=
    ⟨fun _ => ⟨rfl, rfl, rfl, rfl, rfl, rfl⟩, rfl⟩
  refine (records_in_order sampleFormats_lawful rfl rfl (fromLoaded_sampleStart {}) ?_).1 "events"
  intro event hmem
  simp only [List.mem_cons, List.not_mem_nil, or_false] at hmem
  rcases hmem with rfl | rfl | rfl
  · exact sampleAppend_isStream
  · exact hclose
  · exact sampleAppend_isStream

end SegmentStore

end PumpLaunchTrader
