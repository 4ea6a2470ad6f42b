import PumpLaunchTrader.Model.Segments

/-! # Failed closes

A close takes the segment out of the open ones first. Only a validation that rejects its
bytes puts it back; every other failure loses it. -/

namespace PumpLaunchTrader

namespace SegmentStore

/-! ## One lemma for each exit -/

@[simp] theorem manager_writeAllReports (self : SegmentStore) (faults : ReportFaults) :
    (self.writeAllReports faults).1.manager = self.manager := by
  unfold writeAllReports
  split <;> rfl

/-- The segment of a type is still registered, with its path, number and record count. -/
def KeepsOpen (self : SegmentStore) (artifactType : String) (segment : OpenSegment) : Prop :=
  ∃ kept, self.manager.openSegments.lookup artifactType = some kept ∧
    kept.openPath = segment.openPath ∧ kept.sequenceNumber = segment.sequenceNumber ∧
    kept.recordCount = segment.recordCount

theorem keepsOpen_keepOpen (self : SegmentStore) (io : CloseIo) (artifactType : String)
    (segment : OpenSegment) (stage : String) (errors : List String) :
    (self.keepOpen io artifactType segment stage errors).1.KeepsOpen artifactType segment := by
  refine ⟨segment, ?_, rfl, rfl, rfl⟩
  simp [keepOpen]

theorem keepOpen_ne_some_true (self : SegmentStore) (io : CloseIo) (artifactType : String)
    (segment : OpenSegment) (stage : String) (errors : List String) :
    (self.keepOpen io artifactType segment stage errors).2 ≠ some true := by
  simp [keepOpen]

theorem openSegments_recordClosed (self : SegmentStore) (io : CloseIo) (artifactType : String)
    (segment : OpenSegment) (bytes : Bytes) :
    (self.recordClosed io artifactType segment bytes).1.manager.openSegments =
      self.manager.openSegments := by
  unfold recordClosed
  cases io.removeFails <;> simp [removeFile]

theorem recordClosed_eq_some_true_iff (self : SegmentStore) (io : CloseIo)
    (artifactType : String) (segment : OpenSegment) (bytes : Bytes) :
    (self.recordClosed io artifactType segment bytes).2 = some true ↔
      io.reports.manifest = false ∧ io.reports.later = false := by
  unfold recordClosed writeAllReports
  cases io.reports.manifest <;> cases io.reports.later <;> simp

theorem not_keepsOpen {self : SegmentStore} {artifactType : String}
    (h : self.manager.openSegments.lookup artifactType = none) (segment : OpenSegment) :
    ¬ self.KeepsOpen artifactType segment := by
  rintro ⟨kept, hkept, -⟩
  rw [h] at hkept
  cases hkept

/-! ## Closing several types -/

/-- What every close keeps, closing some types keeps. -/
theorem closeEach_invariant {fmt : SegmentFormats} {io : String → CloseIo}
    {P : SegmentStore → Prop}
    (hclose : ∀ s artifactType, P s → P (s.closeSegment fmt (io artifactType) artifactType).1)
    (types : List String) {s : SegmentStore} (hs : P s) (closed : ℕ) :
    P (closeEach fmt io types s closed).1 := by
  induction types generalizing s closed with
  | nil => exact hs
  | cons artifactType types ih =>
      have hnext := hclose s artifactType hs
      unfold closeEach
      cases hresult : s.closeSegment fmt (io artifactType) artifactType with
      | mk next result =>
          rw [hresult] at hnext
          cases result with
          | none => exact hnext
          | some isClosed => exact ih hnext _

theorem closeTypes_invariant {fmt : SegmentFormats} {io : String → CloseIo}
    {P : SegmentStore → Prop}
    (hclose : ∀ s artifactType, P s → P (s.closeSegment fmt (io artifactType) artifactType).1)
    (hreports : ∀ s reports, P s → P (s.writeAllReports reports).1) (reports : ReportFaults)
    (types : List String) {s : SegmentStore} (hs : P s) :
    P (s.closeTypes fmt io reports types).1 := by
  have hnext := closeEach_invariant hclose types hs 0
  unfold closeTypes
  cases hresult : closeEach fmt io types s 0 with
  | mk next result =>
      rw [hresult] at hnext
      cases result with
      | none => exact hnext
      | some closed =>
          simp only
          split
          · exact hreports next reports hnext
          · exact hnext

/-! ## The condition -/

/-- The first step of a close that fails is not a validation. -/
def LosesSegment (fmt : SegmentFormats) (self : SegmentStore) (io : CloseIo)
    (artifactType : String) (segment : OpenSegment) : Prop :=
  match if io.readFails then none else self.disk.files.lookup segment.openPath with
  | none => True
  | some raw =>
    match self.manager.finalBytes fmt raw with
    | .error _ => True
    | .ok bytes =>
      let options := self.manager.closeOptions artifactType segment
      let path := self.manager.finalPath artifactType segment.sequenceNumber
      (fmt.validateBytes bytes options).valid = true ∧
        (io.writeFails = true ∨
          match fmt.validateFile path (io.found bytes) options with
          | none => True
          | some report =>
            report.valid = true ∧
              (io.finalRead bytes = none ∨ io.reports.manifest = true ∨ io.reports.later = true))

/-- What the claim asks of a close that returns an outcome. -/
def FailureKeepsOpen (artifactType : String) (segment : OpenSegment)
    (outcome : SegmentStore × Option Bool) : Prop :=
  outcome.2 ≠ some true → outcome.1.KeepsOpen artifactType segment

theorem failureKeepsOpen_keepOpen (self : SegmentStore) (io : CloseIo) (artifactType : String)
    (segment : OpenSegment) (stage : String) (errors : List String) :
    FailureKeepsOpen artifactType segment
      (self.keepOpen io artifactType segment stage errors) :=
  fun _ => self.keepsOpen_keepOpen io artifactType segment stage errors

theorem not_failureKeepsOpen {self : SegmentStore} {artifactType : String}
    (h : self.manager.openSegments.lookup artifactType = none) (segment : OpenSegment) :
    ¬ FailureKeepsOpen artifactType segment (self, none) :=
  fun hkeeps => not_keepsOpen h segment (hkeeps (by simp))

theorem failureKeepsOpen_recordClosed_iff {self : SegmentStore} {artifactType : String}
    (h : self.manager.openSegments.lookup artifactType = none) (io : CloseIo)
    (segment : OpenSegment) (bytes : Bytes) :
    FailureKeepsOpen artifactType segment (self.recordClosed io artifactType segment bytes) ↔
      ¬ (io.reports.manifest = true ∨ io.reports.later = true) := by
  have hlost : ¬ (self.recordClosed io artifactType segment bytes).1.KeepsOpen artifactType
      segment := not_keepsOpen (by rw [openSegments_recordClosed, h]) segment
  rw [FailureKeepsOpen, ne_eq, recordClosed_eq_some_true_iff]
  constructor
  · intro hkeeps hfails
    refine hlost (hkeeps fun hreports => ?_)
    rcases hfails with hfails | hfails
    · rw [hfails] at hreports
      cases hreports.1
    · rw [hfails] at hreports
      cases hreports.2
  · intro hreports hfails
    simp only [not_or, Bool.not_eq_true] at hreports
    exact absurd hreports hfails

theorem closeTaken_keepsOpen_iff (fmt : SegmentFormats) {self : SegmentStore} (io : CloseIo)
    {artifactType : String} (h : self.manager.openSegments.lookup artifactType = none)
    (segment : OpenSegment) :
    FailureKeepsOpen artifactType segment (self.closeTaken fmt io artifactType segment) ↔
      ¬ self.LosesSegment fmt io artifactType segment := by
  unfold closeTaken LosesSegment
  cases hraw : (if io.readFails then none else self.disk.files.lookup segment.openPath) with
  | none => simp [not_failureKeepsOpen h]
  | some raw =>
      cases hbytes : self.manager.finalBytes fmt raw with
      | error error => simp [hbytes, not_failureKeepsOpen h]
      | ok bytes =>
          simp only [hbytes]
          cases hprewrite : (fmt.validateBytes bytes
              (self.manager.closeOptions artifactType segment)).valid with
          | false => simp [failureKeepsOpen_keepOpen]
          | true =>
              cases io.writeFails with
              | true => simp [not_failureKeepsOpen h]
              | false =>
                  simp only [Bool.true_eq_false, Bool.false_eq_true, if_false, true_and,
                    false_or]
                  have hwritten : (self.writeFile (self.manager.finalPath artifactType
                      segment.sequenceNumber) bytes).manager.openSegments.lookup artifactType =
                        none := h
                  cases fmt.validateFile (self.manager.finalPath artifactType
                      segment.sequenceNumber) (io.found bytes)
                        (self.manager.closeOptions artifactType segment) with
                  | none => simp [not_failureKeepsOpen hwritten]
                  | some report =>
                      cases hreport : report.valid with
                      | false => simp [hreport, failureKeepsOpen_keepOpen]
                      | true =>
                          cases io.finalRead bytes with
                          | none => simp [hreport, not_failureKeepsOpen hwritten]
                          | some bytes =>
                              simp [hreport, failureKeepsOpen_recordClosed_iff hwritten]

/-- A close that fails leaves the segment registered exactly when the step that fails first
is a validation. -/
theorem closeSegment_keepsOpen_iff (fmt : SegmentFormats) (self : SegmentStore) (io : CloseIo)
    {artifactType : String} {segment : OpenSegment}
    (hopen : self.manager.openSegments.lookup artifactType = some segment)
    (hrecords : segment.recordCount ≠ 0) :
    ((self.closeSegment fmt io artifactType).2 ≠ some true →
        (self.closeSegment fmt io artifactType).1.KeepsOpen artifactType segment) ↔
      ¬ self.LosesSegment fmt io artifactType segment := by
  unfold closeSegment
  simp only [hopen, if_neg hrecords]
  exact closeTaken_keepsOpen_iff fmt io (AList.lookup_erase _ _) segment

/-! ### An open file that cannot be read -/

/-- A parser that knows one record, and a codec that is not called below. -/
def sampleFormats : SegmentFormats where
  isJson text := text = [0x7b, 0x7d]
  encodeAll raw := .ok (zstdMagic ++ raw)
  decodeAll bytes := .ok (bytes.drop 4)

/-- The line of an empty object. -/
def sampleLine : Bytes := [0x7b, 0x7d, newline]

def sampleSettings : SegmentSettings where
  maxSegmentSizeBytes := 1048576
  maxSegmentAgeSeconds := 300
  keepLastNSegmentsLocal := 1
  compressClosedSegments := false
  compression := none
  uploadEnabled := true
  verifyBeforeLocalDelete := true
  deleteVerifiedSegments := true
  uploadClosedSegmentsDuringRun := true
  verifyClosedSegments := true
  deleteVerifiedClosedSegments := true
  maxConcurrentSegmentUploads := 1
  maxPendingSegmentsWarning := 10
  retryFailedUploads := true
  maxUploadRetries := 3
  retryBackoffSeconds := 5
  alertOnUploadBacklog := true
  lowDiskModeEnabled := false
  maxLocalVerifiedSegments := 1
  maxLocalUnverifiedClosedSegments := 10
  deleteVerifiedSegmentsImmediately := true
  deleteVerifiedExportsImmediately := true

/-- A manager on an empty disk. -/
def startedStore : SegmentStore where
  manager := { sampleSettings with
    runId := "run"
    reportRoot := "reports" }
  disk := {}

/-- One record has been appended. -/
def appendedStore : SegmentStore :=
  (startedStore.appendLine sampleFormats {} "events" sampleLine none).1

/-- The segment of that record. -/
def appendedSegment : OpenSegment :=
  { artifactType := "events"
    sequenceNumber := 1
    openPath := "reports/segment_events_00001.jsonl.open"
    createdAt := unixEpoch
    updatedAt := unixEpoch
    sizeBytes := 3
    recordCount := 1 }

theorem lookup_appendedStore :
    appendedStore.manager.openSegments.lookup "events" = some appendedSegment := by
  decide +kernel

theorem closeSegment_keepsOpen_iff_sample :
    ((appendedStore.closeSegment sampleFormats { writeFails := true } "events").2 ≠ some true →
        (appendedStore.closeSegment sampleFormats { writeFails := true } "events").1.KeepsOpen
          "events" appendedSegment) ↔
      ¬ appendedStore.LosesSegment sampleFormats { writeFails := true } "events"
        appendedSegment :=
  closeSegment_keepsOpen_iff sampleFormats appendedStore { writeFails := true }
    lookup_appendedStore (by decide)

theorem unreadable_segment_lost :
    ¬ ∀ (fmt : SegmentFormats) (self : SegmentStore) (io : CloseIo) (artifactType : String)
      (segment : OpenSegment), self.manager.openSegments.lookup artifactType = some segment →
        segment.recordCount ≠ 0 → (self.closeSegment fmt io artifactType).2 ≠ some true →
          (self.closeSegment fmt io artifactType).1.KeepsOpen artifactType segment := by
  intro h
  have hkeeps := h sampleFormats appendedStore { readFails := true } "events" appendedSegment
    lookup_appendedStore (by decide) (by decide +kernel)
  exact not_keepsOpen (by decide +kernel) appendedSegment hkeeps

end SegmentStore

end PumpLaunchTrader
