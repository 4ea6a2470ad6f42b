import PumpLaunchTrader.Segments.Stream
import PumpLaunchTrader.Lib.Runs

/-! # Restarts

A manager that starts on the disk of an earlier one takes the sequence numbers from the
manifest and counts records from zero, but appends to the open files it finds. -/

namespace PumpLaunchTrader

namespace SegmentStore

variable {fmt : SegmentFormats}

/-! ## Steps -/

/-- If an event opens a segment, the bytes it finds are related to the line it appends. -/
def StartsWith (R : Bytes → Bytes → Prop) (s : SegmentStore) : SegmentEvent → Prop
  | .append artifactType bytes _ _ =>
    s.manager.openSegments.lookup artifactType = none →
      R (s.leftoverOf artifactType) bytes.dropLast
  | _ => True

theorem holding_step (hfmt : fmt.Lawful) {R : Bytes → Bytes → Prop} {s : SegmentStore}
    (hs : s.Holding fmt R) {event : SegmentEvent} (hevent : event.IsStream fmt)
    (hstart : s.StartsWith R event) : (s.step fmt event).Holding fmt R := by
  cases event with
  | append artifactType bytes eventTime io =>
      obtain ⟨⟨line, hline, rfl⟩, hio, hclose⟩ := hevent
      have hwritten := holding_written hs hline
        (fun hopen => by simpa using hstart hopen) io.now eventTime
      rcases s.appendLine_sound fmt hio artifactType (line ++ [newline]) eventTime with
        hstep | hstep
      · rw [step, hstep]
        exact hwritten
      · rw [step, hstep]
        exact holding_closeSegment hfmt hclose hwritten artifactType
  | closeDue now io reports => exact holding_closeTypes hfmt hevent.1 reports _ hs
  | closeAll io reports => exact holding_closeTypes hfmt hevent.1 reports _ hs
  | upload io => exact hevent.elim
  | enforceBudget io => exact hevent.elim
  | writeExports exports => exact hevent.elim

/-- The bytes before a line are harmless when every open file is. -/
theorem OpenHolds.harmless (hfmt : fmt.Lawful) {s : SegmentStore}
    (hs : s.Holding fmt fmt.Harmless) {artifactType : String} {segment : OpenSegment}
    (hopen : s.manager.openSegments.lookup artifactType = some segment) {leftover line : Bytes}
    {lines : List Bytes} (h : OpenHolds fmt s artifactType segment leftover line lines) :
    fmt.Harmless leftover line := by
  have hsound : ({} : CloseIo).Sound := ⟨rfl, rfl, rfl, rfl, rfl, rfl⟩
  obtain ⟨leftover', line', lines', hholds, hharmless⟩ := hs artifactType segment hopen
  exact (h.closes_iff hfmt hsound hopen).mp ((hholds.closes_iff hfmt hsound hopen).mpr hharmless)

theorem harmless_of_holding_step (hfmt : fmt.Lawful) {s : SegmentStore} {event : SegmentEvent}
    (hevent : event.IsStream fmt) (hnext : (s.step fmt event).Holding fmt fmt.Harmless) :
    s.StartsWith fmt.Harmless event := by
  cases event with
  | append artifactType bytes eventTime io =>
      obtain ⟨⟨line, hline, rfl⟩, hio, hclose⟩ := hevent
      intro hopen
      rw [List.dropLast_concat]
      obtain ⟨hlookup, hwritten⟩ := openHolds_written fmt hopen hline io.now eventTime
      rcases s.appendLine_sound fmt hio artifactType (line ++ [newline]) eventTime with
        hstep | hstep
      · rw [step, hstep] at hnext
        exact hwritten.harmless hfmt hnext hlookup
      · rw [step, hstep] at hnext
        rcases hwritten.closeSegment hfmt hclose hlookup with ⟨hharmless, -⟩ | ⟨-, errors, hkept⟩
        · exact hharmless
        · -- the close failed, and the file is still open with the same bytes
          rw [hkept] at hnext
          obtain ⟨hfiles, hroot, hsegments⟩ := keepOpen_frame
            ((s.written io.now artifactType (line ++ [newline]) eventTime).takeOpen artifactType)
            io.close artifactType ((s.newSegment io.now artifactType).appended
              (line ++ [newline]) eventTime io.now) "before_write" errors
          refine (hwritten.frame hroot (by rw [hfiles]; rfl)).harmless hfmt hnext ?_
          rw [hsegments, AList.lookup_insert]
  | closeDue now io reports => trivial
  | closeAll io reports => trivial
  | upload io => trivial
  | enforceBudget io => trivial
  | writeExports exports => trivial

/-! ## Closes after a restart -/

/-- The records in the file of a closed segment. -/
def entryRecords (fmt : SegmentFormats) (s : SegmentStore) (entry : RunSegmentEntry) :
    List Bytes :=
  match s.disk.files.lookup entry.localPath with
  | none => []
  | some bytes => Lines.records newline ((fmt.decoded entry.compression bytes).toOption.getD [])

/-- Every open segment can be closed, and its entry counts the records of its file. -/
def ClosesWell (fmt : SegmentFormats) (s : SegmentStore) : Prop :=
  ∀ artifactType segment, s.manager.openSegments.lookup artifactType = some segment →
    ∀ io : CloseIo, io.Sound →
      (s.closeSegment fmt io artifactType).2 = some true ∧
        ∃ entry ∈ (s.closeSegment fmt io artifactType).1.manager.segments,
          entry.artifactType = artifactType ∧ entry.sequenceNumber = segment.sequenceNumber ∧
            ((s.closeSegment fmt io artifactType).1.entryRecords fmt entry).length =
              entry.recordCount

theorem entryRecords_closedWith {s : SegmentStore} {artifactType : String}
    {segment : OpenSegment} (hpath : segment.openPath =
      s.manager.openPath artifactType segment.sequenceNumber) {bytes text : Bytes}
    (hdecoded : fmt.decoded (compressionName s.manager) bytes = .ok text) :
    (s.closedWith artifactType segment bytes).entryRecords fmt
        (s.manager.closedEntry artifactType segment bytes) = Lines.records newline text := by
  have hfile : (s.closedWith artifactType segment bytes).disk.files.lookup
      (s.manager.closedEntry artifactType segment bytes).localPath = some bytes := by
    have hne : s.manager.finalPath artifactType segment.sequenceNumber ≠ segment.openPath := by
      rw [hpath]
      exact (openPath_ne_finalPath _ _ _ _ _).symm
    change AList.lookup (s.manager.finalPath artifactType segment.sequenceNumber)
      (AList.erase segment.openPath (AList.insert _ _ _)) = _
    rw [AList.lookup_erase_ne hne]
    exact AList.lookup_insert _
  rw [entryRecords, hfile]
  change Lines.records newline ((fmt.decoded (compressionName s.manager) bytes).toOption.getD []) =
    _
  rw [hdecoded]
  rfl

theorem closesWell_iff (hfmt : fmt.Lawful) {s : SegmentStore}
    (hs : s.Holding fmt fun _ _ => True) :
    s.ClosesWell fmt ↔ s.Holding fmt fmt.Harmless := by
  constructor
  · intro hcloses artifactType segment hopen
    obtain ⟨leftover, line, lines, hholds, -⟩ := hs artifactType segment hopen
    have hsound : ({} : CloseIo).Sound := ⟨rfl, rfl, rfl, rfl, rfl, rfl⟩
    exact ⟨leftover, line, lines, hholds, (hholds.closes_iff hfmt hsound hopen).mp
      (hcloses artifactType segment hopen {} hsound).1⟩
  · intro hharmless artifactType segment hopen io hio
    obtain ⟨leftover, line, lines, hholds, hR⟩ := hharmless artifactType segment hopen
    rcases hholds.closeSegment hfmt hio hopen with ⟨-, bytes, hdecoded, hclose⟩ | ⟨hharmful, -⟩
    · rw [hclose]
      refine ⟨rfl, s.manager.closedEntry artifactType segment bytes, ?_, rfl, rfl, ?_⟩
      · exact List.mem_append_right _ (List.mem_singleton_self _)
      · have hrecords := entryRecords_closedWith (s := s.takeOpen artifactType) hholds.path hdecoded
        have hcount := ((SegmentFormats.holds_unlines_iff hfmt leftover hholds.isLine
          hholds.areLines).mpr hR).count
        change (((s.takeOpen artifactType).closedWith artifactType segment bytes).entryRecords fmt
          ((s.takeOpen artifactType).manager.closedEntry artifactType segment bytes)).length =
            segment.recordCount
        rw [hrecords, hcount, hholds.count]
    · exact absurd hR hharmful

/-! ## Starts -/

theorem fromLoaded_start {config : SegmentsConfig} {runId reportRoot : String}
    {client : Except String R2Client} {disk : Disk} {reports : ReportFaults}
    {start : SegmentStore} {result : Option Unit}
    (h : fromLoaded config runId reportRoot client disk reports = some (start, result)) :
    start.manager.openSegments = ∅ ∧ start.disk.files = disk.files ∧
      start.manager.segments = disk.segmentManifest.getD [] ∧
      start.manager.nextSequenceByType = nextSequences (disk.segmentManifest.getD []) ∧
      start.manager.runId = runId ∧ start.manager.reportRoot = reportRoot := by
  unfold fromLoaded at h
  split at h
  · cases h
  · simp only [Option.some.injEq, Prod.mk.injEq] at h
    rw [← h.1]
    simp

theorem holding_of_no_open {R : Bytes → Bytes → Prop} {s : SegmentStore}
    (h : s.manager.openSegments = ∅) : s.Holding fmt R := by
  intro artifactType segment hopen
  rw [h] at hopen
  cases hopen

theorem holding_run (hfmt : fmt.Lawful) {s : SegmentStore}
    (hs : s.Holding fmt fun _ _ => True) {events : List SegmentEvent}
    (hevents : ∀ event ∈ events, event.IsStream fmt) :
    (s.run fmt events).Holding fmt fun _ _ => True := by
  induction events generalizing s with
  | nil => exact hs
  | cons event events ih =>
      obtain ⟨hevent, hrest⟩ := List.forall_mem_cons.mp hevents
      refine ih (holding_step hfmt hs hevent ?_) hrest
      cases event <;> simp [StartsWith]

/-- A manager that starts on any disk can close its open segments in every state of a run
exactly when the first append to each of them finds harmless bytes. -/
theorem restart_closes_iff (hfmt : fmt.Lawful) {config : SegmentsConfig}
    {runId reportRoot : String} {client : Except String R2Client} {disk : Disk}
    {start : SegmentStore}
    (hstart : fromLoaded config runId reportRoot client disk {} = some (start, some ()))
    {events : List SegmentEvent} (hevents : ∀ event ∈ events, event.IsStream fmt) :
    (∀ before after, events = before ++ after → (start.run fmt before).ClosesWell fmt) ↔
      Runs.Along (step fmt) (fun s event => s.StartsWith fmt.Harmless event) start events := by
  have hopen := (fromLoaded_start hstart).1
  have hstep : ∀ (s : SegmentStore) (event : SegmentEvent), s.Holding fmt fmt.Harmless →
      event.IsStream fmt → ((s.step fmt event).Holding fmt fmt.Harmless ↔
        s.StartsWith fmt.Harmless event) := fun s event hs hevent =>
    ⟨harmless_of_holding_step hfmt hevent, holding_step hfmt hs hevent⟩
  have hstream : Runs.Along (step fmt) (fun _ event => event.IsStream fmt) start events := by
    refine Runs.along_iff.mpr ?_
    rintro before event after rfl
    exact hevents event (by simp)
  rw [← Runs.forall_reached_iff_along hstep (holding_of_no_open hopen) hstream]
  refine forall_congr' fun before => forall_congr' fun after => forall_congr' fun hsplit => ?_
  refine closesWell_iff hfmt (holding_run hfmt (holding_of_no_open hopen) ?_)
  intro event hmem
  exact hevents event (by rw [hsplit]; exact List.mem_append_left _ hmem)

/-! ### An append after a crash -/

theorem sampleFormats_lawful : sampleFormats.Lawful where
  json_ne_nil text h := by
    rw [of_decide_eq_true h]
    simp
  json_head text h := by
    rw [of_decide_eq_true h]
    decide
  encode raw := ⟨zstdMagic ++ raw, rfl, by simp [zstdMagic], rfl⟩

def sampleConfig : SegmentsConfig where
  enabled := true
  maxSegmentSizeMb := 1
  uploadClosedSegments := false
  compressionName := "none"
  r2Enabled := false
  r2UploadEnabled := false
  r2DryRun := false
  uploadsEnabled := false
  settings := sampleSettings

/-- The manager that starts on a disk. -/
def sampleStart (disk : Disk) : SegmentStore :=
  ((fromLoaded sampleConfig "run" "reports" (.error "unused") disk {}).get rfl).1

theorem fromLoaded_sampleStart (disk : Disk) :
    fromLoaded sampleConfig "run" "reports" (.error "unused") disk {} =
      some (sampleStart disk, some ()) := rfl

/-- The append of one record. -/
def sampleAppend : SegmentEvent := .append "events" sampleLine none {}

theorem sampleAppend_isStream : sampleAppend.IsStream sampleFormats :=
  ⟨⟨[0x7b, 0x7d], ⟨by decide, rfl⟩, rfl⟩, rfl, ⟨rfl, rfl, rfl, rfl, rfl, rfl⟩⟩

/-- The disk behind a crash after one append, with the file that was open. -/
def crashedDisk : Disk := ((sampleStart {}).run sampleFormats [sampleAppend]).disk

theorem restart_closes_iff_crashed :
    crashedDisk.files.keys = ["reports/segment_events_00001.jsonl.open"] ∧
      ((∀ before after, [sampleAppend] = before ++ after →
        ((sampleStart crashedDisk).run sampleFormats before).ClosesWell sampleFormats) ↔
          Runs.Along (step sampleFormats)
            (fun s event => s.StartsWith sampleFormats.Harmless event) (sampleStart crashedDisk)
            [sampleAppend]) :=
  ⟨by decide +kernel, restart_closes_iff sampleFormats_lawful (fromLoaded_sampleStart crashedDisk)
    (by simpa using sampleAppend_isStream)⟩

/-- A crash after one append: the next manager cannot close the segment that it appends to. -/
theorem restart_wedges :
    ¬ ∀ (fmt : SegmentFormats) (_ : fmt.Lawful) (config : SegmentsConfig)
      (runId reportRoot : String) (client : Except String R2Client) (first second : SegmentStore)
      (events events' : List SegmentEvent),
      fromLoaded config runId reportRoot client {} {} = some (first, some ()) →
      (∀ event ∈ events, event.IsStream fmt) →
      fromLoaded config runId reportRoot client (first.run fmt events).disk {} =
        some (second, some ()) →
      (∀ event ∈ events', event.IsStream fmt) →
        (second.run fmt events').ClosesWell fmt := by
  intro h
  have hcloses := h sampleFormats sampleFormats_lawful sampleConfig "run" "reports"
    (.error "unused") (sampleStart {}) _ [sampleAppend] [sampleAppend]
    (fromLoaded_sampleStart {}) (by simpa using sampleAppend_isStream)
    (fromLoaded_sampleStart _) (by simpa using sampleAppend_isStream)
  have hsound : ({} : CloseIo).Sound := ⟨rfl, rfl, rfl, rfl, rfl, rfl⟩
  have hclose := (hcloses "events" appendedSegment (by decide +kernel) {} hsound).1
  revert hclose
  decide +kernel

end SegmentStore

end PumpLaunchTrader
