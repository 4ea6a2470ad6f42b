import PumpLaunchTrader.Lib.KeyedMap
import PumpLaunchTrader.Lib.Digits
import PumpLaunchTrader.Model.SegmentIntegrity

/-! # Run segments (`runtime::segments`)

A manager appends the records of each artifact type to an open file, closes it into a
segment of the manifest, uploads closed segments and prunes the verified ones. The disk is a
map from paths to bytes, with the two manifests that are read back. What can go wrong with
it during a call is an input of the call. Counters are natural numbers. -/

namespace PumpLaunchTrader

/-- `Path::join` with a relative name. -/
def joinPath (root name : String) : String :=
  if root = "" ∨ root.toList.getLast? = some '/' then root ++ name else root ++ "/" ++ name

/-- `Path::file_name`. -/
def pathFileName (path : String) : String :=
  String.ofList (path.toList.rtakeWhile (· ≠ '/'))

/-! ## Data -/

structure RunSegmentEntry where
  segmentId : String
  artifactType : String
  runId : String
  sequenceNumber : ℕ
  localPath : String
  sourcePaths : List String := []
  remoteKey : String := ""
  sizeBytes : ℕ
  checksumSha256 : String
  recordCount : ℕ
  firstEventTime : Option OffsetDateTime
  lastEventTime : Option OffsetDateTime
  compression : Option String
  uploaded : Bool := false
  verified : Bool := false
  prunedLocal : Bool := false
  error : Option String := none
  deriving DecidableEq, Repr

structure OpenSegment where
  artifactType : String
  sequenceNumber : ℕ
  openPath : String
  createdAt : OffsetDateTime
  updatedAt : OffsetDateTime
  sizeBytes : ℕ := 0
  recordCount : ℕ := 0
  firstEventTime : Option OffsetDateTime := none
  lastEventTime : Option OffsetDateTime := none
  deriving DecidableEq, Repr

structure SegmentRetryState where
  attempts : ℕ := 0
  lastAttemptAt : Option OffsetDateTime := none
  deriving DecidableEq, Repr

structure DiskActionRecord where
  recordedAt : OffsetDateTime
  level : String
  action : String
  freeMb : ℕ
  pendingSegments : ℕ
  prunedBytes : ℕ
  notes : List String
  deriving DecidableEq, Repr

/-- A chunk of an export. Whoever writes the export manifest names chunks as CSV files. -/
structure RuntimeExportChunkManifestEntry where
  exportName : String
  localPath : String
  sizeBytes : ℕ
  uploaded : Bool
  verified : Bool
  prunedLocal : Bool
  isCsv : ∃ stem, localPath = stem ++ ".csv" ∨ localPath = stem ++ ".csv.zst"

structure RuntimeExportChunkManifest where
  exportStatus : String
  chunks : List RuntimeExportChunkManifestEntry

/-- The files of a run, its `segment_manifest.json` and its `export_chunks_manifest.json`. -/
structure Disk where
  files : KeyedMap String Bytes := ∅
  segmentManifest : Option (List RunSegmentEntry) := none
  exportChunks : Option RuntimeExportChunkManifest := none

def Disk.find (self : Disk) (path : String) : FileRead :=
  match self.files.lookup path with
  | some bytes => .contents bytes
  | none => .missing

/-- The settings of a manager. -/
structure SegmentSettings where
  maxSegmentSizeBytes : ℕ
  maxSegmentAgeSeconds : ℕ
  keepLastNSegmentsLocal : ℕ
  compressClosedSegments : Bool
  compression : Option String
  uploadEnabled : Bool
  verifyBeforeLocalDelete : Bool
  deleteVerifiedSegments : Bool
  uploadClosedSegmentsDuringRun : Bool
  verifyClosedSegments : Bool
  deleteVerifiedClosedSegments : Bool
  maxConcurrentSegmentUploads : ℕ
  maxPendingSegmentsWarning : ℕ
  retryFailedUploads : Bool
  maxUploadRetries : ℕ
  retryBackoffSeconds : ℕ
  alertOnUploadBacklog : Bool
  lowDiskModeEnabled : Bool
  maxLocalVerifiedSegments : ℕ
  maxLocalUnverifiedClosedSegments : ℕ
  deleteVerifiedSegmentsImmediately : Bool
  deleteVerifiedExportsImmediately : Bool

/-- `LiveRunSegmentManager`, with its segments and their files; the model of live runs only sees
the records that are appended. -/
structure SegmentManager extends SegmentSettings where
  runId : String
  reportRoot : String
  segments : List RunSegmentEntry := []
  openSegments : KeyedMap String OpenSegment := ∅
  nextSequenceByType : KeyedMap String ℕ := ∅
  retryState : KeyedMap String SegmentRetryState := ∅
  diskActions : List DiskActionRecord := []
  lastSegmentUploadError : Option String := none
  maxObservedUploadBacklog : ℕ := 0
  verifiedSegmentBytesPrunedTotal : ℕ := 0
  verifiedExportBytesPrunedTotal : ℕ := 0
  localBudgetPressureActive : Bool := false
  r2Client : Option R2Client := none

/-- A manager and the disk it works on. -/
structure SegmentStore where
  manager : SegmentManager
  disk : Disk

/-! ## Names -/

/-- The part of a file name that open and closed segments share. -/
def segmentStem (artifactType : String) (sequenceNumber : ℕ) : String :=
  if "edge_".toList.isPrefixOf artifactType.toList then
    artifactType ++ "_" ++ Labels.zeroPadded 6 sequenceNumber
  else "segment_" ++ artifactType ++ "_" ++ Labels.zeroPadded 5 sequenceNumber

/-- The file name that `open_segment_mut` chooses. -/
def openSegmentFileName (artifactType : String) (sequenceNumber : ℕ) : String :=
  segmentStem artifactType sequenceNumber ++ ".jsonl.open"

def segmentFileName (artifactType : String) (sequenceNumber : ℕ) (compressed : Bool) : String :=
  if compressed then segmentStem artifactType sequenceNumber ++ ".jsonl.zst"
  else segmentStem artifactType sequenceNumber ++ ".jsonl"

def segmentIdOf (runId artifactType : String) (sequenceNumber : ℕ) : String :=
  runId ++ ":" ++ artifactType ++ ":" ++ Labels.zeroPadded 5 sequenceNumber

/-- `normalize_compression`. -/
def normalizeCompression (value : String) : Option String :=
  let trimmed := trimText value
  if trimmed = "" ∨ eqIgnoreAsciiCase trimmed "none" then none else some trimmed.toLower

/-! ## Faults -/

/-- The reports that cannot be written: the manifest, or one that is written after it. -/
structure ReportFaults where
  manifest : Bool := false
  later : Bool := false

/-- What the disk does to one call of `close_segment`: which of its steps fail, what the
validation finds where bytes were written, and what the last read of them gives. -/
structure CloseIo where
  now : OffsetDateTime := unixEpoch
  freeMb : ℕ := 0
  readFails : Bool := false
  writeFails : Bool := false
  found : Bytes → FileRead := .contents
  finalRead : Bytes → Option Bytes := some
  removeFails : Bool := false
  reports : ReportFaults := {}

/-- A write that fails leaves some of the bytes behind. -/
structure AppendIo where
  now : OffsetDateTime := unixEpoch
  failsAfter : Option ℕ := none
  close : CloseIo := {}

/-- One upload: the time of the back-off check, the reads of the file, the answers of the
bucket and the time at which a failure is noted. -/
structure UploadIo where
  now : OffsetDateTime := unixEpoch
  validationReadFails : Bool := false
  preparationReadFails : Bool := false
  answers : R2Answers
  failedAt : OffsetDateTime := now

/-- One enforcement of the budget. The footprint is over the budget or cannot be taken. -/
structure BudgetIo where
  removeFails : String → Bool := fun _ => false
  exportReadFails : Bool := false
  exportWriteFails : Bool := false
  footprintFails : Bool := false
  footprintOver : Bool := false
  reports : ReportFaults := {}

/-- One background pass, with an upload for each index of the manifest. -/
structure PassIo where
  uploads : ℕ → UploadIo
  budget : BudgetIo := {}
  manifestUploadError : Option String := none
  reports : ReportFaults := {}

/-! ## Entries -/

/-- An open segment with one more record. -/
def OpenSegment.appended (self : OpenSegment) (bytes : Bytes)
    (eventTime : Option OffsetDateTime) (now : OffsetDateTime) : OpenSegment :=
  { self with
    updatedAt := eventTime.getD now
    sizeBytes := self.sizeBytes + bytes.length
    recordCount := self.recordCount + 1
    firstEventTime := self.firstEventTime <|> eventTime
    lastEventTime := eventTime <|> self.lastEventTime }

/-- The entry after an upload that returned. -/
def RunSegmentEntry.uploadedAs (self : RunSegmentEntry) (result : R2UploadResult) :
    RunSegmentEntry :=
  { self with
    remoteKey := result.key
    uploaded := result.uploaded
    verified := result.verified
    sizeBytes := result.sizeBytes
    checksumSha256 := result.checksumSha256
    error := result.error }

def uploadOptions (entry : RunSegmentEntry) : SegmentIntegrityValidationOptions :=
  { artifactType := entry.artifactType
    sequenceNumber := entry.sequenceNumber
    expectedRecordCount := entry.recordCount
    compression := entry.compression
    explicitlyEmpty := false }

/-- `content_type_for_segment`. -/
def contentTypeForSegment (entry : RunSegmentEntry) : String :=
  if entry.compression.any fun value => eqIgnoreAsciiCase value "zstd" then "application/zstd"
  else if entry.artifactType = "data_gaps" then "application/json"
  else "application/x-ndjson"

/-- The index of an entry stands for its sequence number. -/
def sequenceAt (segments : List RunSegmentEntry) (idx : ℕ) : ℕ :=
  (segments[idx]?.map RunSegmentEntry.sequenceNumber).getD 0

/-- The verified entries of a type by sequence number. -/
def verifiedIndexes (segments : List RunSegmentEntry) (artifactType : String) : List ℕ :=
  ((segments.zipIdx.filter fun (segment, _) =>
      segment.verified ∧ segment.artifactType = artifactType).map Prod.snd).insertionSort
    fun i j => sequenceAt segments i ≤ sequenceAt segments j

/-- The types of verified entries, in key order. -/
def verifiedTypes (segments : List RunSegmentEntry) : List String :=
  ((segments.filter fun segment => segment.verified).map
    RunSegmentEntry.artifactType).dedup.insertionSort (· ≤ ·)

namespace SegmentManager

/-! ## Decisions of the manager -/

/-- The number that the next segment of a type gets. -/
def nextSequence (self : SegmentManager) (artifactType : String) : ℕ :=
  (self.nextSequenceByType.lookup artifactType).getD 1

/-- The path that `open_segment_mut` opens. -/
def openPath (self : SegmentManager) (artifactType : String) (sequenceNumber : ℕ) :
    String :=
  joinPath self.reportRoot (openSegmentFileName artifactType sequenceNumber)

/-- Closed segments are compressed. -/
def compresses (self : SegmentManager) : Bool :=
  self.compressClosedSegments ∧ self.compression = some "zstd"

/-- The bytes of the closed file. -/
def finalBytes (self : SegmentManager) (fmt : SegmentFormats) (raw : Bytes) :
    Except String Bytes :=
  if self.compresses then fmt.encodeAll raw else .ok raw

def closeOptions (self : SegmentManager) (artifactType : String) (segment : OpenSegment) :
    SegmentIntegrityValidationOptions :=
  { artifactType := artifactType
    sequenceNumber := segment.sequenceNumber
    expectedRecordCount := segment.recordCount
    compression := if self.compresses then some "zstd" else none
    explicitlyEmpty := false }

def finalPath (self : SegmentManager) (artifactType : String) (sequenceNumber : ℕ) :
    String :=
  joinPath self.reportRoot (segmentFileName artifactType sequenceNumber self.compresses)

/-- The manifest entry of a closed segment. -/
def closedEntry (self : SegmentManager) (artifactType : String) (segment : OpenSegment)
    (bytes : Bytes) : RunSegmentEntry :=
  { segmentId := segmentIdOf self.runId artifactType segment.sequenceNumber
    artifactType := artifactType
    runId := self.runId
    sequenceNumber := segment.sequenceNumber
    localPath := self.finalPath artifactType segment.sequenceNumber
    sizeBytes := bytes.length
    checksumSha256 := checksumHex bytes
    recordCount := segment.recordCount
    firstEventTime := segment.firstEventTime
    lastEventTime := segment.lastEventTime <|> some segment.updatedAt
    compression := if self.compresses then some "zstd" else none }

/-- A type has an open segment of the maximal age. -/
def dueToAge (self : SegmentManager) (now : OffsetDateTime) (artifactType : String) :
    Bool :=
  (self.openSegments.lookup artifactType).any fun segment =>
    self.maxSegmentAgeSeconds ≤ (Duration.wholeSeconds (now - segment.createdAt)).toNat

/-- The error prefix for which `try_upload_segment` gives up on a segment. -/
def integrityFailedPrefix : String := "segment_integrity_failed:"

/-- The guards of `try_upload_segment` on the entry and its retry state. -/
def skipsUpload (self : SegmentManager) (entry : RunSegmentEntry) (now : OffsetDateTime) :
    Bool :=
  let retryState := (self.retryState.lookup entry.segmentId).getD {}
  (self.retryFailedUploads = false ∧ entry.error.isSome) ∨
    (entry.error.any fun error => integrityFailedPrefix.toList.isPrefixOf error.toList) ∨
    self.maxUploadRetries ≤ retryState.attempts ∨
    retryState.lastAttemptAt.any fun lastAttempt =>
      (Duration.wholeSeconds (now - lastAttempt)).toNat < self.retryBackoffSeconds

/-- The upload of a segment under a bucket. -/
def preparedSegment (self : SegmentManager) (client : R2Client) (entry : RunSegmentEntry)
    (bucket : String) (body : Bytes) : PreparedUpload :=
  let fileName := pathFileName entry.localPath
  R2Client.prepareUpload entry.localPath bucket
    (client.managedKey client.runsPrefix (self.runId ++ "/segments/" ++ fileName))
    (contentTypeForSegment entry) body

def keepLastN (self : SegmentManager) : ℕ :=
  if self.lowDiskModeEnabled then max self.maxLocalVerifiedSegments 1
  else max self.keepLastNSegmentsLocal 1

/-- The entries of a type that may go: all verified ones but the last. -/
def prunableIndexes (self : SegmentManager) (artifactType : String) : List ℕ :=
  let indexes := verifiedIndexes self.segments artifactType
  let preserve := indexes.reverse.take (self.keepLastN)
  indexes.filter fun idx => idx ∉ preserve

/-- The verified segments are pruned only when every setting asks for it. -/
def prunesSegments (self : SegmentManager) : Bool :=
  self.deleteVerifiedSegments ∧ self.verifyBeforeLocalDelete ∧ self.deleteVerifiedClosedSegments ∧
    self.deleteVerifiedSegmentsImmediately

end SegmentManager

namespace SegmentStore

/-! ## Reports and open segments -/

/-- `write_all_reports`. -/
def writeAllReports (self : SegmentStore) (faults : ReportFaults) : SegmentStore × Option Unit :=
  if faults.manifest then (self, none)
  else
    ({ self with disk := { self.disk with segmentManifest := some self.manager.segments } },
      if faults.later then none else some ())

def isPending (disk : Disk) (segment : RunSegmentEntry) : Bool :=
  segment.uploaded = false ∧ segment.prunedLocal = false ∧ disk.find segment.localPath ≠ .missing

def pendingSegmentCount (self : SegmentStore) : ℕ :=
  self.manager.segments.countP (isPending self.disk)

/-- `open_segment_mut`. -/
def openSegmentMut (self : SegmentStore) (now : OffsetDateTime) (artifactType : String) :
    SegmentStore × OpenSegment :=
  match self.manager.openSegments.lookup artifactType with
  | some segment => (self, segment)
  | none =>
    let sequence := self.manager.nextSequence artifactType
    let segment : OpenSegment :=
      { artifactType := artifactType
        sequenceNumber := sequence
        openPath := self.manager.openPath artifactType sequence
        createdAt := now
        updatedAt := now }
    ({ self with
        manager := { self.manager with
          openSegments := self.manager.openSegments.insert artifactType segment
          nextSequenceByType :=
            self.manager.nextSequenceByType.insert artifactType (sequence + 1) } },
      segment)

/-- The bytes at the end of a file, which is created when it is missing. -/
def appendBytes (self : SegmentStore) (path : String) (bytes : Bytes) : SegmentStore :=
  { self with
    disk := { self.disk with files := self.disk.files.upsert path [] (· ++ bytes) } }

def writeFile (self : SegmentStore) (path : String) (bytes : Bytes) : SegmentStore :=
  { self with disk := { self.disk with files := self.disk.files.insert path bytes } }

def removeFile (self : SegmentStore) (path : String) : SegmentStore :=
  { self with disk := { self.disk with files := self.disk.files.erase path } }

/-! ## Closing -/

/-- A segment that fails its validation stays open. -/
def keepOpen (self : SegmentStore) (io : CloseIo) (artifactType : String)
    (segment : OpenSegment) (stage : String) (errors : List String) :
    SegmentStore × Option Bool :=
  let message := "segment_integrity_failed_" ++ stage ++ ":" ++ ",".intercalate errors
  let action : DiskActionRecord :=
    { recordedAt := io.now
      level := "error"
      action := message
      freeMb := io.freeMb
      pendingSegments := self.pendingSegmentCount
      prunedBytes := 0
      notes := errors }
  let kept := { self with
    manager := { self.manager with
      lastSegmentUploadError := some message
      diskActions := self.manager.diskActions ++ [action]
      openSegments := self.manager.openSegments.insert artifactType segment } }
  let (reported, written) := kept.writeAllReports io.reports
  (reported, written.map fun _ => false)

/-- The entry of a segment replaces any other one of its id. -/
def recordClosed (self : SegmentStore) (io : CloseIo) (artifactType : String)
    (segment : OpenSegment) (bytes : Bytes) : SegmentStore × Option Bool :=
  let removed := if io.removeFails then self else self.removeFile segment.openPath
  let entry := self.manager.closedEntry artifactType segment bytes
  let closed := { removed with
    manager := { removed.manager with
      segments :=
        (removed.manager.segments.filter fun other : RunSegmentEntry =>
          other.segmentId ≠ entry.segmentId) ++ [entry] } }
  let (reported, written) := closed.writeAllReports io.reports
  (reported, written.map fun _ => true)

/-- `close_segment`, of a segment that is no longer registered as open. -/
def closeTaken (fmt : SegmentFormats) (self : SegmentStore) (io : CloseIo)
    (artifactType : String) (segment : OpenSegment) : SegmentStore × Option Bool :=
  match if io.readFails then none else self.disk.files.lookup segment.openPath with
  | none => (self, none)
  | some raw =>
    match self.manager.finalBytes fmt raw with
    | .error _ => (self, none)
    | .ok bytes =>
      let options := self.manager.closeOptions artifactType segment
      let path := self.manager.finalPath artifactType segment.sequenceNumber
      let prewrite := fmt.validateBytes bytes options
      if prewrite.valid = false then
        self.keepOpen io artifactType segment "before_write" prewrite.errors
      else if io.writeFails then (self, none)
      else
        let written := self.writeFile path bytes
        match fmt.validateFile path (io.found bytes) options with
        | none => (written, none)
        | some report =>
          if report.valid = false then
            written.keepOpen io artifactType segment "after_write" report.errors
          else
            match io.finalRead bytes with
            | none => (written, none)
            | some bytes => written.recordClosed io artifactType segment bytes

/-- The store without the open segment of a type. -/
def takeOpen (self : SegmentStore) (artifactType : String) : SegmentStore :=
  { self with
    manager := { self.manager with
      openSegments := self.manager.openSegments.erase artifactType } }

/-- `close_segment`. -/
def closeSegment (fmt : SegmentFormats) (self : SegmentStore) (io : CloseIo)
    (artifactType : String) : SegmentStore × Option Bool :=
  match self.manager.openSegments.lookup artifactType with
  | none => (self, some false)
  | some segment =>
    let taken := self.takeOpen artifactType
    if segment.recordCount = 0 then
      (if io.removeFails then taken else taken.removeFile segment.openPath, some false)
    else taken.closeTaken fmt io artifactType segment

/-- Close some types one after the other, up to the first error. -/
def closeEach (fmt : SegmentFormats) (io : String → CloseIo) :
    List String → SegmentStore → ℕ → SegmentStore × Option ℕ
  | [], self, closed => (self, some closed)
  | artifactType :: rest, self, closed =>
    match self.closeSegment fmt (io artifactType) artifactType with
    | (next, none) => (next, none)
    | (next, some isClosed) => closeEach fmt io rest next (closed + if isClosed then 1 else 0)

def closeTypes (fmt : SegmentFormats) (self : SegmentStore) (io : String → CloseIo)
    (reports : ReportFaults) (types : List String) : SegmentStore × Option ℕ :=
  match closeEach fmt io types self 0 with
  | (next, none) => (next, none)
  | (next, some closed) =>
    if 0 < closed then
      let (reported, written) := next.writeAllReports reports
      (reported, written.map fun _ => closed)
    else (next, some closed)

/-- The types with an open segment, in key order. -/
def openTypes (self : SegmentStore) : List String :=
  self.manager.openSegments.keys.insertionSort (· ≤ ·)

/-- `close_segments_due_to_age`. -/
def closeSegmentsDueToAge (fmt : SegmentFormats) (self : SegmentStore) (io : String → CloseIo)
    (reports : ReportFaults) (now : OffsetDateTime) : SegmentStore × Option ℕ :=
  self.closeTypes fmt io reports (self.openTypes.filter (self.manager.dueToAge now))

/-- `close_all_open_segments`. -/
def closeAllOpenSegments (fmt : SegmentFormats) (self : SegmentStore) (io : String → CloseIo)
    (reports : ReportFaults) : SegmentStore × Option ℕ :=
  self.closeTypes fmt io reports self.openTypes

/-! ## Appending -/

/-- A write to an open segment that succeeds. -/
def appendTo (self : SegmentStore) (artifactType : String) (segment : OpenSegment)
    (bytes : Bytes) (eventTime : Option OffsetDateTime) (now : OffsetDateTime) : SegmentStore :=
  let written := self.appendBytes segment.openPath bytes
  { written with
    manager := { written.manager with
      openSegments :=
        written.manager.openSegments.insert artifactType
          (segment.appended bytes eventTime now) } }

/-- `append_line`. -/
def appendLine (fmt : SegmentFormats) (self : SegmentStore) (io : AppendIo)
    (artifactType : String) (bytes : Bytes) (eventTime : Option OffsetDateTime) :
    SegmentStore × Option Unit :=
  let (opened, segment) := self.openSegmentMut io.now artifactType
  match io.failsAfter with
  | some count => (opened.appendBytes segment.openPath (bytes.take count), none)
  | none =>
    let appended := opened.appendTo artifactType segment bytes eventTime io.now
    if self.manager.maxSegmentSizeBytes ≤ segment.sizeBytes + bytes.length then
      let (closed, result) := appended.closeSegment fmt io.close artifactType
      (closed, result.map fun _ => ())
    else (appended, some ())

/-! ## Uploading -/

/-- An attempt to upload a segment, and whether it came to a call of `upload_prepared`. -/
structure UploadAttempt where
  store : SegmentStore
  result : Option Bool
  handed : Bool := false

def modifyEntry (self : SegmentStore) (idx : ℕ) (f : RunSegmentEntry → RunSegmentEntry) :
    SegmentStore :=
  { self with manager := { self.manager with segments := self.manager.segments.modify idx f } }

/-- A segment that fails its validation before the upload. -/
def rejectUpload (self : SegmentStore) (idx : ℕ) (errors : List String) : SegmentStore :=
  let message := "segment_integrity_failed_before_upload:" ++ ",".intercalate errors
  let marked := self.modifyEntry idx fun entry => { entry with error := some message }
  { marked with manager := { marked.manager with lastSegmentUploadError := some message } }

/-- What an upload that returned changes. -/
def noteUploaded (self : SegmentStore) (idx : ℕ) (segmentId : String)
    (result : R2UploadResult) : SegmentStore :=
  let marked := self.modifyEntry idx fun entry => entry.uploadedAs result
  { marked with
    manager := { marked.manager with
      retryState := marked.manager.retryState.erase segmentId
      lastSegmentUploadError := none } }

/-- What an upload that failed changes. -/
def noteUploadFailed (self : SegmentStore) (idx : ℕ) (segmentId error : String)
    (failedAt : OffsetDateTime) : SegmentStore :=
  let marked := self.modifyEntry idx fun entry => { entry with error := some error }
  { marked with
    manager := { marked.manager with
      lastSegmentUploadError := some error
      retryState := marked.manager.retryState.upsert segmentId {} fun retry =>
        { attempts := retry.attempts + 1
          lastAttemptAt := some failedAt } } }

/-- The upload of a valid file. -/
def uploadBody (self : SegmentStore) (client : R2Client) (io : UploadIo) (idx : ℕ)
    (entry : RunSegmentEntry) (body : Bytes) : UploadAttempt :=
  match client.bucketForDatasets with
  | none => { store := self, result := none }
  | some bucket =>
    if io.preparationReadFails then { store := self, result := none }
    else
      let prepared := self.manager.preparedSegment client entry bucket body
      match client.uploadPrepared prepared self.manager.verifyClosedSegments io.answers with
      | .ok result =>
        { store := self.noteUploaded idx entry.segmentId result
          result := some result.uploaded
          handed := true }
      | .error error =>
        { store := self.noteUploadFailed idx entry.segmentId error io.failedAt
          result := some false
          handed := true }

/-- `try_upload_segment`. -/
def tryUploadSegment (fmt : SegmentFormats) (self : SegmentStore) (io : UploadIo) (idx : ℕ) :
    UploadAttempt :=
  match self.manager.r2Client, self.manager.segments[idx]? with
  | some client, some entry =>
    let noted := { self with
      manager := { self.manager with
        retryState := self.manager.retryState.upsert entry.segmentId {} id } }
    if self.manager.skipsUpload entry io.now then { store := noted, result := some false }
    else
      match self.disk.files.lookup entry.localPath with
      | none => { store := noted, result := some false }
      | some body =>
        let found := if io.validationReadFails then .unreadable else .contents body
        match fmt.validateFile entry.localPath found (uploadOptions entry) with
        | none => { store := noted, result := none }
        | some report =>
          if report.valid = false then
            { store := noted.rejectUpload idx report.errors, result := some false }
          else noted.uploadBody client io idx entry body
  | _, _ => { store := self, result := some false }

/-! ## Pruning -/

def markPruned (self : SegmentStore) (idx : ℕ) : SegmentStore :=
  self.modifyEntry idx fun entry => { entry with prunedLocal := true }

/-- Remove the file of an entry, with the number of bytes that this frees. -/
def pruneSegment (removeFails : String → Bool) (self : SegmentStore) (idx : ℕ) :
    SegmentStore × Option ℕ :=
  match self.manager.segments[idx]? with
  | none => (self, some 0)
  | some entry =>
    if entry.prunedLocal then (self, some 0)
    else
      match self.disk.files.lookup entry.localPath with
      | none => (self.markPruned idx, some 0)
      | some bytes =>
        if removeFails entry.localPath then (self, none)
        else ((self.removeFile entry.localPath).markPruned idx, some bytes.length)

/-- Prune some entries one after the other, up to the first error. -/
def pruneEach (removeFails : String → Bool) :
    List ℕ → SegmentStore → ℕ → SegmentStore × Option ℕ
  | [], self, deleted => (self, some deleted)
  | idx :: rest, self, deleted =>
    match self.pruneSegment removeFails idx with
    | (next, none) => (next, none)
    | (next, some bytes) => pruneEach removeFails rest next (deleted + bytes)

/-- `prune_verified_closed_segments`. -/
def pruneVerifiedClosedSegments (self : SegmentStore) (removeFails : String → Bool) :
    SegmentStore × Option ℕ :=
  pruneEach removeFails
    ((verifiedTypes self.manager.segments).flatMap self.manager.prunableIndexes) self 0

/-- Remove the files of the verified chunks, up to the first error. -/
def pruneChunks (removeFails : String → Bool) :
    List RuntimeExportChunkManifestEntry → SegmentStore →
      SegmentStore × Option (List RuntimeExportChunkManifestEntry × ℕ)
  | [], self => (self, some ([], 0))
  | chunk :: rest, self =>
    if chunk.verified = false ∨ chunk.prunedLocal then
      let (next, result) := pruneChunks removeFails rest self
      (next, result.map fun (chunks, deleted) => (chunk :: chunks, deleted))
    else
      let pruned := { chunk with prunedLocal := true }
      match self.disk.files.lookup chunk.localPath with
      | none =>
        let (next, result) := pruneChunks removeFails rest self
        (next, result.map fun (chunks, deleted) => (pruned :: chunks, deleted))
      | some bytes =>
        if removeFails chunk.localPath then (self, none)
        else
          let (next, result) := pruneChunks removeFails rest (self.removeFile chunk.localPath)
          (next, result.map fun (chunks, deleted) => (pruned :: chunks, deleted + bytes.length))

/-- `prune_verified_export_chunks`. -/
def pruneVerifiedExportChunks (self : SegmentStore) (io : BudgetIo) : SegmentStore × Option ℕ :=
  match self.disk.exportChunks with
  | none => (self, some 0)
  | some exports =>
    if io.exportReadFails then (self, none)
    else
      match pruneChunks io.removeFails exports.chunks self with
      | (next, none) => (next, none)
      | (next, some (chunks, deleted)) =>
        let allVerified : Bool := chunks ≠ [] ∧ chunks.all fun chunk => chunk.verified
        let exportStatus :=
          if allVerified then "chunked_remote_verified" else exports.exportStatus
        if io.exportWriteFails then (next, none)
        else
          ({ next with
              disk := { next.disk with
                exportChunks := some { exportStatus := exportStatus, chunks := chunks } } },
            some deleted)

/-- The first part of `enforce_local_footprint_budget`. -/
def enforceSegmentBudget (self : SegmentStore) (io : BudgetIo) : SegmentStore × Option Unit :=
  if self.manager.prunesSegments then
    match self.pruneVerifiedClosedSegments io.removeFails with
    | (next, none) => (next, none)
    | (next, some pruned) =>
      ({ next with
          manager := { next.manager with
            verifiedSegmentBytesPrunedTotal :=
              next.manager.verifiedSegmentBytesPrunedTotal + pruned } },
        some ())
  else (self, some ())

/-- The second part of `enforce_local_footprint_budget`. -/
def enforceExportBudget (self : SegmentStore) (io : BudgetIo) : SegmentStore × Option Unit :=
  if self.manager.lowDiskModeEnabled ∧ self.manager.deleteVerifiedExportsImmediately then
    match self.pruneVerifiedExportChunks io with
    | (next, none) => (next, none)
    | (next, some pruned) =>
      ({ next with
          manager := { next.manager with
            verifiedExportBytesPrunedTotal :=
              next.manager.verifiedExportBytesPrunedTotal + pruned } },
        some ())
  else (self, some ())

/-- The last part of `enforce_local_footprint_budget`. -/
def notePressure (self : SegmentStore) (io : BudgetIo) : SegmentStore × Option Unit :=
  if io.footprintFails then (self, none)
  else
    let unverified := self.manager.segments.countP fun segment =>
      segment.verified = false ∧ segment.prunedLocal = false
    let pressed := { self with
      manager := { self.manager with
        localBudgetPressureActive :=
          self.manager.lowDiskModeEnabled ∧ (io.footprintOver ∨
            self.manager.maxLocalUnverifiedClosedSegments < unverified) } }
    pressed.writeAllReports io.reports

/-- `enforce_local_footprint_budget`. -/
def enforceLocalFootprintBudget (self : SegmentStore) (io : BudgetIo) :
    SegmentStore × Option Unit :=
  match self.enforceSegmentBudget io with
  | (next, none) => (next, none)
  | (next, some ()) =>
    match next.enforceExportBudget io with
    | (next, none) => (next, none)
    | (next, some ()) => next.notePressure io

/-! ## Background passes -/

structure SegmentProcessSummary where
  uploadedCount : ℕ
  verifiedCount : ℕ
  prunedBytes : ℕ
  pendingCount : ℕ
  lastError : Option String
  deriving DecidableEq, Repr

/-- A background pass, with the indexes that were handed to `upload_prepared`. -/
structure UploadPass where
  store : SegmentStore
  result : Option SegmentProcessSummary
  handed : List ℕ := []

/-- The loop over the candidates: the counts, up to the first error, and what was handed
over. -/
structure UploadLoop where
  store : SegmentStore
  result : Option (ℕ × ℕ)
  handed : List ℕ

/-- The pending entries that one pass looks at. -/
def candidateIndexes (self : SegmentStore) : List ℕ :=
  ((self.manager.segments.zipIdx.filter fun (segment, _) =>
    isPending self.disk segment).map Prod.snd).take self.manager.maxConcurrentSegmentUploads

def uploadEach (fmt : SegmentFormats) (uploads : ℕ → UploadIo) :
    List ℕ → SegmentStore → ℕ × ℕ → UploadLoop
  | [], self, counts => { store := self, result := some counts, handed := [] }
  | idx :: rest, self, (uploadedCount, verifiedCount) =>
    let attempt := self.tryUploadSegment fmt (uploads idx) idx
    let handed := if attempt.handed then [idx] else []
    match attempt.result with
    | none => { store := attempt.store, result := none, handed := handed }
    | some isUploaded =>
      let isVerified := (attempt.store.manager.segments[idx]?).any RunSegmentEntry.verified
      let counts :=
        if isUploaded then (uploadedCount + 1, verifiedCount + if isVerified then 1 else 0)
        else (uploadedCount, verifiedCount)
      let loop := uploadEach fmt uploads rest attempt.store counts
      { loop with handed := handed ++ loop.handed }

/-- `backlog_warning_message`. -/
def backlogWarningMessage (self : SegmentStore) : Option String :=
  let pending := self.pendingSegmentCount
  if self.manager.alertOnUploadBacklog ∧ self.manager.maxPendingSegmentsWarning ≤ pending then
    some ("segment_upload_backlog_high: pending_segments=" ++ toString pending ++
      " warning_threshold=" ++ toString self.manager.maxPendingSegmentsWarning)
  else none

/-- What a pass notes before it looks for candidates. -/
def noteBacklog (self : SegmentStore) : SegmentStore :=
  { self with
    manager := { self.manager with
      lastSegmentUploadError :=
        self.backlogWarningMessage <|> self.manager.lastSegmentUploadError } }

/-- A pass with uploads that are switched on. -/
def observeBacklog (self : SegmentStore) : SegmentStore :=
  { self with
    manager := { self.manager with
      maxObservedUploadBacklog :=
        max self.manager.maxObservedUploadBacklog self.pendingSegmentCount } }

/-- The end of a pass: the budget, the upload of the manifest and the reports. -/
def finishPass (self : SegmentStore) (io : PassIo) (counts : ℕ × ℕ) :
    SegmentStore × Option SegmentProcessSummary :=
  match self.enforceLocalFootprintBudget io.budget with
  | (next, none) => (next, none)
  | (enforced, some ()) =>
    let pruned :=
      (enforced.manager.verifiedSegmentBytesPrunedTotal -
        self.manager.verifiedSegmentBytesPrunedTotal) +
        (enforced.manager.verifiedExportBytesPrunedTotal -
          self.manager.verifiedExportBytesPrunedTotal)
    let sent := { enforced with
      manager := { enforced.manager with
        lastSegmentUploadError :=
          io.manifestUploadError <|> enforced.manager.lastSegmentUploadError } }
    let (reported, written) := sent.writeAllReports io.reports
    (reported, written.map fun _ =>
      { uploadedCount := counts.1
        verifiedCount := counts.2
        prunedBytes := pruned
        pendingCount := reported.pendingSegmentCount
        lastError := reported.manager.lastSegmentUploadError })

/-- `process_background_uploads`. -/
def processBackgroundUploads (fmt : SegmentFormats) (self : SegmentStore) (io : PassIo) :
    UploadPass :=
  let noted := self.noteBacklog
  if noted.manager.uploadEnabled = false ∨ noted.manager.uploadClosedSegmentsDuringRun = false then
    let (reported, written) := noted.writeAllReports io.reports
    { store := reported
      result := written.map fun _ =>
        { uploadedCount := 0
          verifiedCount := 0
          prunedBytes := 0
          pendingCount := noted.pendingSegmentCount
          lastError := noted.manager.lastSegmentUploadError } }
  else
    let observed := noted.observeBacklog
    let loop := uploadEach fmt io.uploads observed.candidateIndexes observed (0, 0)
    match loop.result with
    | none => { store := loop.store, result := none, handed := loop.handed }
    | some counts =>
      let (finished, result) := loop.store.finishPass io counts
      { store := finished, result := result, handed := loop.handed }

/-! ## Start -/

/-- The sequence numbers that a manifest leaves to be used. -/
def nextSequences (segments : List RunSegmentEntry) : KeyedMap String ℕ :=
  segments.foldl (fun (acc : KeyedMap String ℕ) segment =>
    let next := segment.sequenceNumber + 1
    acc.upsert segment.artifactType next (max · next)) ∅

/-- The configuration that a manager is made from. -/
structure SegmentsConfig where
  enabled : Bool
  maxSegmentSizeMb : ℕ
  uploadClosedSegments : Bool
  compressionName : String
  r2Enabled : Bool
  r2UploadEnabled : Bool
  r2DryRun : Bool
  uploadsEnabled : Bool
  settings : SegmentSettings

/-- `LiveRunSegmentManager::from_loaded`, with the outcome of `R2Client::new`. The settings
of the configuration are read with their lower bounds. -/
def fromLoaded (config : SegmentsConfig) (runId reportRoot : String)
    (client : Except String R2Client) (disk : Disk) (reports : ReportFaults) :
    Option (SegmentStore × Option Unit) :=
  if config.enabled = false then none
  else
    let settings := config.settings
    let usesClient : Bool := config.uploadsEnabled ∧ settings.uploadClosedSegmentsDuringRun ∧
      config.uploadClosedSegments ∧ config.r2Enabled
    let connected := if usesClient then some client else none
    let r2Client := connected.bind Except.toOption
    let failure := connected.bind fun outcome =>
      match outcome with
      | .ok _ => none
      | .error error => some ("segment_uploader_unavailable:" ++ error)
    let segments := disk.segmentManifest.getD []
    let manager : SegmentManager :=
      { settings with
        maxSegmentSizeBytes := max (config.maxSegmentSizeMb * (1024 * 1024)) 1
        maxSegmentAgeSeconds := max settings.maxSegmentAgeSeconds 1
        compression := normalizeCompression config.compressionName
        uploadEnabled := config.uploadsEnabled ∧ settings.uploadClosedSegmentsDuringRun ∧
          config.uploadClosedSegments ∧ config.r2UploadEnabled ∧ config.r2DryRun = false ∧
          r2Client.isSome
        uploadClosedSegmentsDuringRun :=
          settings.uploadClosedSegmentsDuringRun ∧ failure = none
        maxConcurrentSegmentUploads := max settings.maxConcurrentSegmentUploads 1
        maxPendingSegmentsWarning := max settings.maxPendingSegmentsWarning 1
        maxUploadRetries := max settings.maxUploadRetries 1
        retryBackoffSeconds := max settings.retryBackoffSeconds 1
        maxLocalVerifiedSegments := max settings.maxLocalVerifiedSegments 1
        maxLocalUnverifiedClosedSegments := max settings.maxLocalUnverifiedClosedSegments 1
        runId := runId
        reportRoot := reportRoot
        segments := segments
        nextSequenceByType := nextSequences segments
        lastSegmentUploadError := failure
        r2Client := r2Client }
    let (reported, written) :=
      ({ manager := manager, disk := disk } : SegmentStore).writeAllReports reports
    -- without a client the reports are written as far as possible
    some (reported, if failure.isSome then some () else written)

/-! ## Runs -/

/-- What happens to a manager, and the rewriting of the export manifest by others. -/
inductive SegmentEvent where
  | append (artifactType : String) (bytes : Bytes) (eventTime : Option OffsetDateTime)
      (io : AppendIo)
  | closeDue (now : OffsetDateTime) (io : String → CloseIo) (reports : ReportFaults)
  | closeAll (io : String → CloseIo) (reports : ReportFaults)
  | upload (io : PassIo)
  | enforceBudget (io : BudgetIo)
  | writeExports (exports : Option RuntimeExportChunkManifest)

def step (fmt : SegmentFormats) (self : SegmentStore) : SegmentEvent → SegmentStore
  | .append artifactType bytes eventTime io =>
    (self.appendLine fmt io artifactType bytes eventTime).1
  | .closeDue now io reports => (self.closeSegmentsDueToAge fmt io reports now).1
  | .closeAll io reports => (self.closeAllOpenSegments fmt io reports).1
  | .upload io => (self.processBackgroundUploads fmt io).store
  | .enforceBudget io => (self.enforceLocalFootprintBudget io).1
  | .writeExports exports => { self with disk := { self.disk with exportChunks := exports } }

def run (fmt : SegmentFormats) (self : SegmentStore) (events : List SegmentEvent) :
    SegmentStore :=
  events.foldl (step fmt) self

end SegmentStore

end PumpLaunchTrader
