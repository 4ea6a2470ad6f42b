import PumpLaunchTrader.Lib.Windows
import PumpLaunchTrader.Segments.Closing

/-! # The candidates of a background pass

A pass looks at a window of the pending segments, and its guards skip some of them. What
stands behind the window is not tried, even when everything in it is skipped. -/

namespace PumpLaunchTrader

namespace SegmentStore

variable {fmt : SegmentFormats}

/-! ## Attempts -/

/-- The retries of an entry are not used up, and its back-off has passed. -/
def MayRetry (self : SegmentManager) (entry : RunSegmentEntry) (now : OffsetDateTime) :
    Prop :=
  let retryState := (self.retryState.lookup entry.segmentId).getD {}
  retryState.attempts < self.maxUploadRetries ∧
    ∀ lastAttempt, retryState.lastAttemptAt = some lastAttempt →
      self.retryBackoffSeconds ≤ (Duration.wholeSeconds (now - lastAttempt)).toNat

/-- The file of an entry is valid. -/
def HasValidFile (fmt : SegmentFormats) (entry : RunSegmentEntry) (body : Bytes) : Prop :=
  ∃ report, fmt.validateFile entry.localPath (.contents body) (uploadOptions entry) = some report ∧
    report.valid = true

/-- The entry that the guards let pass at an index, with its file. -/
def triedUpload (self : SegmentStore) (now : OffsetDateTime) (idx : ℕ) :
    Option (RunSegmentEntry × Bytes) :=
  match self.manager.segments[idx]? with
  | none => none
  | some entry =>
    if self.manager.skipsUpload entry now then none
    else (self.disk.files.lookup entry.localPath).map fun body => (entry, body)

/-- The segment at an index is eligible for an upload now. -/
def Eligible (fmt : SegmentFormats) (self : SegmentStore) (now : OffsetDateTime) (idx : ℕ) :
    Prop :=
  ∃ entry body, self.manager.segments[idx]? = some entry ∧ isPending self.disk entry = true ∧
    self.disk.files.lookup entry.localPath = some body ∧ HasValidFile fmt entry body ∧
      MayRetry self.manager entry now

/-- A segment that the guards let pass is valid, and nothing fails before its upload. -/
def HandsOver (fmt : SegmentFormats) (self : SegmentStore) (client : R2Client) (io : UploadIo)
    (idx : ℕ) : Prop :=
  ∃ entry body, self.triedUpload io.now idx = some (entry, body) ∧
    io.validationReadFails = false ∧ HasValidFile fmt entry body ∧
      client.bucketForDatasets ≠ none ∧ io.preparationReadFails = false

/-- A segment that the guards let pass cannot be read or has no bucket. -/
def EndsPass (fmt : SegmentFormats) (self : SegmentStore) (client : R2Client) (io : UploadIo)
    (idx : ℕ) : Prop :=
  ∃ entry body, self.triedUpload io.now idx = some (entry, body) ∧
    (io.validationReadFails = true ∨ HasValidFile fmt entry body ∧
      (client.bucketForDatasets = none ∨ io.preparationReadFails = true))

theorem mayRetry_of_not_skipsUpload {self : SegmentManager} {entry : RunSegmentEntry}
    {now : OffsetDateTime} (h : self.skipsUpload entry now = false) : MayRetry self entry now := by
  simp only [SegmentManager.skipsUpload, decide_eq_false_iff_not, not_or, not_le] at h
  obtain ⟨-, -, hattempts, hbackoff⟩ := h
  refine ⟨hattempts, fun lastAttempt hlast => ?_⟩
  simpa [hlast] using hbackoff

theorem triedUpload_eq_some_iff {self : SegmentStore} {now : OffsetDateTime} {idx : ℕ}
    {entry : RunSegmentEntry} {body : Bytes} :
    self.triedUpload now idx = some (entry, body) ↔
      self.manager.segments[idx]? = some entry ∧ self.manager.skipsUpload entry now = false ∧
        self.disk.files.lookup entry.localPath = some body := by
  unfold triedUpload
  cases hentry : self.manager.segments[idx]? with
  | none => simp
  | some other =>
      simp only [Option.some.injEq]
      constructor
      · intro h
        split at h
        · cases h
        · next hskips =>
            obtain ⟨body', hbody, heq⟩ := Option.map_eq_some_iff.mp h
            cases heq
            exact ⟨rfl, Bool.eq_false_iff.mpr hskips, hbody⟩
      · rintro ⟨rfl, hskips, hbody⟩
        rw [hskips, hbody]
        rfl

/-- What is handed over from among the pending segments is eligible. -/
theorem HandsOver.eligible {self : SegmentStore} {client : R2Client} {io : UploadIo} {idx : ℕ}
    (h : self.HandsOver fmt client io idx)
    (hpending : ∀ entry, self.manager.segments[idx]? = some entry →
      isPending self.disk entry = true) : self.Eligible fmt io.now idx := by
  obtain ⟨entry, body, htried, -, hvalid, -⟩ := h
  obtain ⟨hentry, hskips, hbody⟩ := triedUpload_eq_some_iff.mp htried
  exact ⟨entry, body, hentry, hpending entry hentry, hbody, hvalid,
    mayRetry_of_not_skipsUpload hskips⟩

/-! ## What an attempt changes -/

/-- Another store in which the attempt at an index is the same. -/
structure SameFor (s s' : SegmentStore) (idx : ℕ) : Prop where
  settings : s'.manager.toSegmentSettings = s.manager.toSegmentSettings
  client : s'.manager.r2Client = s.manager.r2Client
  disk : s'.disk = s.disk
  entry : s'.manager.segments[idx]? = s.manager.segments[idx]?
  retry : ∀ segmentId, (s'.manager.retryState.lookup segmentId).getD {} =
    (s.manager.retryState.lookup segmentId).getD {}

theorem SameFor.trans {s s' s'' : SegmentStore} {idx : ℕ} (h : s.SameFor s' idx)
    (h' : s'.SameFor s'' idx) : s.SameFor s'' idx where
  settings := h'.settings.trans h.settings
  client := h'.client.trans h.client
  disk := h'.disk.trans h.disk
  entry := h'.entry.trans h.entry
  retry segmentId := (h'.retry segmentId).trans (h.retry segmentId)

theorem SameFor.triedUpload {s s' : SegmentStore} {idx : ℕ} (h : s.SameFor s' idx)
    (now : OffsetDateTime) : s'.triedUpload now idx = s.triedUpload now idx := by
  unfold SegmentStore.triedUpload SegmentManager.skipsUpload
  rw [h.entry, h.settings, h.disk]
  simp only [h.retry]

theorem SameFor.handsOver_iff {s s' : SegmentStore} {idx : ℕ} (h : s.SameFor s' idx)
    (client : R2Client) (io : UploadIo) :
    s'.HandsOver fmt client io idx ↔ s.HandsOver fmt client io idx := by
  unfold HandsOver
  rw [h.triedUpload]

theorem SameFor.endsPass_iff {s s' : SegmentStore} {idx : ℕ} (h : s.SameFor s' idx)
    (client : R2Client) (io : UploadIo) :
    s'.EndsPass fmt client io idx ↔ s.EndsPass fmt client io idx := by
  unfold EndsPass
  rw [h.triedUpload]

/-- An attempt gives the segment a retry state. -/
def noteTried (self : SegmentStore) (segmentId : String) : SegmentStore :=
  { self with
    manager := { self.manager with
      retryState := self.manager.retryState.upsert segmentId {} id } }

theorem sameFor_noteTried (s : SegmentStore) (segmentId : String) (idx : ℕ) :
    s.SameFor (s.noteTried segmentId) idx where
  settings := rfl
  client := rfl
  disk := rfl
  entry := rfl
  retry other := by
    change (AList.lookup other (s.manager.retryState.upsert segmentId {} id)).getD {} = _
    by_cases hother : other = segmentId
    · subst hother
      rw [KeyedMap.lookup_upsert_self, Option.getD_some, id]
    · rw [KeyedMap.lookup_upsert_ne _ hother]

theorem sameFor_rejectUpload (s : SegmentStore) {idx other : ℕ} (h : other ≠ idx)
    (errors : List String) : s.SameFor (s.rejectUpload idx errors) other where
  settings := rfl
  client := rfl
  disk := rfl
  entry := List.getElem?_modify_ne _ _ h.symm
  retry _ := rfl

section Attempt

variable {s : SegmentStore} {client : R2Client} (hclient : s.manager.r2Client = some client)
  {io : UploadIo} {idx : ℕ}

variable (fmt) in
/-- What the guards hold back is left as it is. -/
theorem tryUploadSegment_of_not_tried (h : s.triedUpload io.now idx = none) :
    (s.tryUploadSegment fmt io idx).result = some false ∧
      (s.tryUploadSegment fmt io idx).handed = false ∧
      ∀ other, s.SameFor (s.tryUploadSegment fmt io idx).store other := by
  unfold tryUploadSegment
  split
  · next client entry _ hentry =>
      have hnoted := s.sameFor_noteTried entry.segmentId
      unfold triedUpload at h
      rw [hentry] at h
      split
      · exact ⟨rfl, rfl, hnoted⟩
      · next hskips =>
          simp only [hskips, Bool.false_eq_true, if_false, Option.map_eq_none_iff] at h
          rw [h]
          exact ⟨rfl, rfl, hnoted⟩
  · exact ⟨rfl, rfl, fun _ => ⟨rfl, rfl, rfl, rfl, fun _ => rfl⟩⟩

include hclient

theorem tryUploadSegment_of_tried {entry : RunSegmentEntry} {body : Bytes}
    (h : s.triedUpload io.now idx = some (entry, body)) :
    s.tryUploadSegment fmt io idx =
      match fmt.validateFile entry.localPath
        (if io.validationReadFails then .unreadable else .contents body) (uploadOptions entry) with
      | none => { store := s.noteTried entry.segmentId, result := none }
      | some report =>
        if report.valid = false then
          { store := (s.noteTried entry.segmentId).rejectUpload idx report.errors
            result := some false }
        else (s.noteTried entry.segmentId).uploadBody client io idx entry body := by
  obtain ⟨hentry, hskips, hbody⟩ := triedUpload_eq_some_iff.mp h
  unfold tryUploadSegment
  split
  · next client' entry' hclient' hentry' =>
      cases hclient.symm.trans hclient'
      cases hentry.symm.trans hentry'
      simp only [hskips, Bool.false_eq_true, if_false, hbody]
      rfl
  · next hnone => exact absurd hentry (hnone client entry hclient)

theorem handed_of_handsOver (h : s.HandsOver fmt client io idx) :
    (s.tryUploadSegment fmt io idx).handed = true := by
  obtain ⟨entry, body, htried, hread, ⟨report, hreport, hvalid⟩, hbucket, hprepared⟩ := h
  rw [tryUploadSegment_of_tried hclient htried]
  obtain ⟨bucket, hbucket⟩ := Option.ne_none_iff_exists'.mp hbucket
  simp only [hread, Bool.false_eq_true, if_false, hreport, hvalid, Bool.true_eq_false, uploadBody,
    hbucket, hprepared]
  split <;> rfl

theorem result_of_endsPass (h : s.EndsPass fmt client io idx) :
    (s.tryUploadSegment fmt io idx).result = none ∧
      (s.tryUploadSegment fmt io idx).handed = false := by
  obtain ⟨entry, body, htried, hfails⟩ := h
  rw [tryUploadSegment_of_tried hclient htried]
  rcases hfails with hread | ⟨⟨report, hreport, hvalid⟩, hfails⟩
  · simp [hread, SegmentFormats.validateFile]
  · cases hread : io.validationReadFails with
    | true => simp [SegmentFormats.validateFile]
    | false =>
        simp only [Bool.false_eq_true, if_false, hreport, hvalid, Bool.true_eq_false, uploadBody]
        rcases hfails with hbucket | hprepared
        · simp [hbucket]
        · cases client.bucketForDatasets <;> simp [hprepared]

theorem skipped_of_not (hhands : ¬ s.HandsOver fmt client io idx)
    (hends : ¬ s.EndsPass fmt client io idx) :
    (s.tryUploadSegment fmt io idx).result = some false ∧
      (s.tryUploadSegment fmt io idx).handed = false ∧
      ∀ other, other ≠ idx → s.SameFor (s.tryUploadSegment fmt io idx).store other := by
  cases htried : s.triedUpload io.now idx with
  | none =>
      obtain ⟨hresult, hhanded, hsame⟩ := tryUploadSegment_of_not_tried fmt htried
      exact ⟨hresult, hhanded, fun other _ => hsame other⟩
  | some tried =>
      obtain ⟨entry, body⟩ := tried
      have hread : io.validationReadFails = false := by
        rw [← Bool.not_eq_true]
        exact fun hread => hends ⟨entry, body, htried, Or.inl hread⟩
      rw [tryUploadSegment_of_tried hclient htried]
      simp only [hread, Bool.false_eq_true, if_false]
      cases hreport : fmt.validateFile entry.localPath (.contents body) (uploadOptions entry) with
      | none => cases hreport
      | some report =>
          cases hvalid : report.valid with
          | false =>
              simp only [hvalid, if_true]
              refine ⟨trivial, trivial, fun other hother => ?_⟩
              exact (s.sameFor_noteTried entry.segmentId other).trans
                (sameFor_rejectUpload _ hother _)
          | true =>
              -- a valid file is handed over, or its upload fails before
              have hfile : HasValidFile fmt entry body := ⟨report, hreport, hvalid⟩
              refine absurd ⟨entry, body, htried, hread, hfile, ?_, ?_⟩ hhands
              · exact fun hbucket => hends ⟨entry, body, htried, Or.inr ⟨hfile, Or.inl hbucket⟩⟩
              · rw [← Bool.not_eq_true]
                exact fun hfails => hends ⟨entry, body, htried, Or.inr ⟨hfile, Or.inr hfails⟩⟩

end Attempt

/-! ## The window -/

/-- The segment at an index is pending. -/
def PendingAt (self : SegmentStore) (idx : ℕ) : Prop :=
  ∃ entry, self.manager.segments[idx]? = some entry ∧ isPending self.disk entry = true

/-- Fewer segments are pending before an index than one pass looks at. -/
def InWindow (self : SegmentStore) (idx : ℕ) : Prop :=
  (self.manager.segments.take idx).countP (isPending self.disk) <
    self.manager.maxConcurrentSegmentUploads

theorem mem_candidateIndexes_iff {self : SegmentStore} {idx : ℕ} :
    idx ∈ self.candidateIndexes ↔ self.PendingAt idx ∧ self.InWindow idx := by
  unfold candidateIndexes PendingAt InWindow
  rw [Windows.mem_take_filter_zipIdx]
  simp

theorem pairwise_candidateIndexes (self : SegmentStore) :
    self.candidateIndexes.Pairwise (· < ·) :=
  (Windows.pairwise_filter_zipIdx (isPending self.disk) self.manager.segments).sublist
    (List.take_sublist _ _)

/-- What is pending before an index of the window is in the window. -/
theorem InWindow.mono {self : SegmentStore} {idx earlier : ℕ} (h : self.InWindow idx)
    (hearlier : earlier ≤ idx) : self.InWindow earlier := by
  refine lt_of_le_of_lt ?_ h
  exact ((List.take_prefix_take_left hearlier).sublist).countP_le

/-! ## The loop -/

/-- One of the indexes is handed over before any ends the pass. -/
def Reaches (fmt : SegmentFormats) (self : SegmentStore) (client : R2Client)
    (uploads : ℕ → UploadIo) (indexes : List ℕ) : Prop :=
  ∃ idx ∈ indexes, self.HandsOver fmt client (uploads idx) idx ∧
    ∀ earlier ∈ indexes, earlier < idx → ¬ self.EndsPass fmt client (uploads earlier) earlier

theorem reaches_cons_iff {self : SegmentStore} {client : R2Client} {uploads : ℕ → UploadIo}
    {idx : ℕ} {rest : List ℕ} (hsorted : ∀ later ∈ rest, idx < later) :
    self.Reaches fmt client uploads (idx :: rest) ↔
      self.HandsOver fmt client (uploads idx) idx ∨
        ¬ self.EndsPass fmt client (uploads idx) idx ∧ self.Reaches fmt client uploads rest := by
  constructor
  · rintro ⟨found, hmem, hhands, hearlier⟩
    rcases List.mem_cons.mp hmem with rfl | hmem
    · exact Or.inl hhands
    · refine Or.inr
        ⟨hearlier idx (List.mem_cons_self) (hsorted found hmem), found, hmem, hhands, ?_⟩
      exact fun earlier hrest => hearlier earlier (List.mem_cons_of_mem _ hrest)
  · rintro (hhands | ⟨hends, found, hmem, hhands, hearlier⟩)
    · refine ⟨idx, List.mem_cons_self, hhands, fun earlier hmem hlt => ?_⟩
      rcases List.mem_cons.mp hmem with rfl | hmem
      · omega
      · have hlater := hsorted earlier hmem
        omega
    · refine ⟨found, List.mem_cons_of_mem _ hmem, hhands, fun earlier hmem' hlt => ?_⟩
      rcases List.mem_cons.mp hmem' with rfl | hmem'
      · exact hends
      · exact hearlier earlier hmem' hlt

section Loop

variable {start : SegmentStore} {client : R2Client}
  (hclient : start.manager.r2Client = some client) (uploads : ℕ → UploadIo)

include hclient

variable (fmt) in
/-- The loop hands over what the first attempts of the pass find as it was at its start. -/
theorem handed_uploadEach (indexes : List ℕ) (hsorted : indexes.Pairwise (· < ·))
    {s : SegmentStore} (hsame : ∀ idx ∈ indexes, start.SameFor s idx) (counts : ℕ × ℕ) :
    ((uploadEach fmt uploads indexes s counts).handed ≠ [] ↔
        start.Reaches fmt client uploads indexes) ∧
      ∀ idx, (uploadEach fmt uploads indexes s counts).handed.head? = some idx →
        idx ∈ indexes ∧ start.HandsOver fmt client (uploads idx) idx := by
  induction indexes generalizing s counts with
  | nil => simp [uploadEach, Reaches]
  | cons idx rest ih =>
      obtain ⟨hfirst, hrest⟩ := List.pairwise_cons.mp hsorted
      have hidx := hsame idx List.mem_cons_self
      have hsclient := hidx.client.trans hclient
      rw [reaches_cons_iff hfirst]
      by_cases hhands : start.HandsOver fmt client (uploads idx) idx
      · have hhanded := handed_of_handsOver hsclient ((hidx.handsOver_iff client _).mpr hhands)
        have hhead : (uploadEach fmt uploads (idx :: rest) s counts).handed.head? = some idx := by
          unfold uploadEach
          simp only [hhanded, if_true]
          split <;> rfl
        refine ⟨iff_of_true (fun hnil => ?_) (Or.inl hhands), fun found hfound => ?_⟩
        · rw [hnil] at hhead
          cases hhead
        · rw [hhead] at hfound
          cases hfound
          exact ⟨List.mem_cons_self, hhands⟩
      by_cases hends : start.EndsPass fmt client (uploads idx) idx
      · obtain ⟨hresult, hhanded⟩ :=
          result_of_endsPass hsclient ((hidx.endsPass_iff client _).mpr hends)
        have hnil : (uploadEach fmt uploads (idx :: rest) s counts).handed = [] := by
          unfold uploadEach
          simp [hresult, hhanded]
        rw [hnil]
        refine ⟨iff_of_false (by simp) ?_, by simp⟩
        rintro (hhands' | ⟨hends', -⟩)
        · exact hhands hhands'
        · exact hends' hends
      · obtain ⟨hresult, hhanded, hnext⟩ := skipped_of_not hsclient
          (mt (hidx.handsOver_iff client _).mp hhands) (mt (hidx.endsPass_iff client _).mp hends)
        have hloop : (uploadEach fmt uploads (idx :: rest) s counts).handed =
            (uploadEach fmt uploads rest (s.tryUploadSegment fmt (uploads idx) idx).store
              counts).handed := by
          conv_lhs => unfold uploadEach
          simp [hresult, hhanded]
        have hsame' : ∀ later ∈ rest,
            start.SameFor (s.tryUploadSegment fmt (uploads idx) idx).store later := by
          intro later hmem
          exact (hsame later (List.mem_cons_of_mem _ hmem)).trans
            (hnext later (Nat.ne_of_gt (hfirst later hmem)))
        obtain ⟨hreaches, hhead⟩ := ih hrest hsame' counts
        rw [hloop, hreaches]
        refine ⟨?_, fun found hfound => ?_⟩
        · simp [hhands, hends]
        · obtain ⟨hmem, hfound⟩ := hhead found hfound
          exact ⟨List.mem_cons_of_mem _ hmem, hfound⟩

end Loop

/-! ## Passes -/

/-- In the window of the pass a segment is handed over before any ends the pass. -/
def WindowServes (fmt : SegmentFormats) (self : SegmentStore) (client : R2Client)
    (uploads : ℕ → UploadIo) : Prop :=
  ∃ idx, self.PendingAt idx ∧ self.InWindow idx ∧ self.HandsOver fmt client (uploads idx) idx ∧
    ∀ earlier < idx, self.PendingAt earlier →
      ¬ self.EndsPass fmt client (uploads earlier) earlier

theorem reaches_candidateIndexes_iff {self : SegmentStore} {client : R2Client}
    {uploads : ℕ → UploadIo} :
    self.Reaches fmt client uploads self.candidateIndexes ↔
      self.WindowServes fmt client uploads := by
  constructor
  · rintro ⟨idx, hmem, hhands, hearlier⟩
    obtain ⟨hpending, hwindow⟩ := mem_candidateIndexes_iff.mp hmem
    refine ⟨idx, hpending, hwindow, hhands, fun earlier hlt hpending' => ?_⟩
    exact hearlier earlier
      (mem_candidateIndexes_iff.mpr ⟨hpending', hwindow.mono hlt.le⟩) hlt
  · rintro ⟨idx, hpending, hwindow, hhands, hearlier⟩
    refine ⟨idx, mem_candidateIndexes_iff.mpr ⟨hpending, hwindow⟩, hhands, ?_⟩
    exact fun earlier hmem hlt => hearlier earlier hlt (mem_candidateIndexes_iff.mp hmem).1

/-- A pass hands over an eligible segment exactly when its window has one that passes the
guards, before any that ends the pass. -/
theorem pass_hands_eligible_iff (fmt : SegmentFormats) {self : SegmentStore} {client : R2Client}
    (hclient : self.manager.r2Client = some client) (hupload : self.manager.uploadEnabled = true)
    (hduring : self.manager.uploadClosedSegmentsDuringRun = true) (io : PassIo) :
    (∃ idx ∈ (self.processBackgroundUploads fmt io).handed,
        self.Eligible fmt (io.uploads idx).now idx) ↔
      self.WindowServes fmt client io.uploads := by
  have hhanded : (self.processBackgroundUploads fmt io).handed =
      (uploadEach fmt io.uploads self.candidateIndexes self.noteBacklog.observeBacklog
        (0, 0)).handed := by
    have henabled : ¬ (self.noteBacklog.manager.uploadEnabled = false ∨
        self.noteBacklog.manager.uploadClosedSegmentsDuringRun = false) := by
      simp [noteBacklog, hupload, hduring]
    unfold processBackgroundUploads
    simp only [if_neg henabled]
    split <;> rfl
  have hsame : ∀ idx ∈ self.candidateIndexes,
      self.SameFor self.noteBacklog.observeBacklog idx :=
    fun _ _ => ⟨rfl, rfl, rfl, rfl, fun _ => rfl⟩
  obtain ⟨hreaches, hhead⟩ := handed_uploadEach fmt hclient io.uploads _
    self.pairwise_candidateIndexes hsame (0, 0)
  rw [hhanded, ← reaches_candidateIndexes_iff, ← hreaches]
  constructor
  · rintro ⟨idx, hmem, -⟩ hnil
    rw [hnil] at hmem
    cases hmem
  · intro hne
    obtain ⟨idx, handed, hcons⟩ := List.exists_cons_of_ne_nil hne
    have hidx := hhead idx (by rw [hcons]; rfl)
    -- the first segment that is handed over was pending at the start
    obtain ⟨⟨entry, hentry, hpending⟩, -⟩ := mem_candidateIndexes_iff.mp hidx.1
    refine ⟨idx, by rw [hcons]; exact List.mem_cons_self, hidx.2.eligible ?_⟩
    intro other hother
    cases hentry.symm.trans hother
    exact hpending

/-! ### Used-up retries -/

def sampleClient : R2Client where
  dryRun := false
  uploadEnabled := true
  managedPrefix := "pump"
  runsPrefix := "runs"
  datasetsBucket := some "datasets"
  datasetsBucketEnv := "R2_BUCKET_DATASETS"

/-- A closed segment of one record. -/
def waitingEntry (sequenceNumber : ℕ) : RunSegmentEntry where
  segmentId := segmentIdOf "run" "events" sequenceNumber
  artifactType := "events"
  runId := "run"
  sequenceNumber := sequenceNumber
  localPath := joinPath "reports" (segmentFileName "events" sequenceNumber false)
  sizeBytes := 3
  checksumSha256 := checksumHex sampleLine
  recordCount := 1
  firstEventTime := none
  lastEventTime := none
  compression := none

/-- Two segments wait, and the retries of the first are used up. -/
def starvedStore : SegmentStore where
  manager := { sampleSettings with
    runId := "run"
    reportRoot := "reports"
    segments := [waitingEntry 1, waitingEntry 2]
    retryState := AList.insert (waitingEntry 1).segmentId { attempts := 3 } ∅
    r2Client := some sampleClient }
  disk.files :=
    AList.insert (waitingEntry 1).localPath sampleLine
      (AList.insert (waitingEntry 2).localPath sampleLine ∅)

def samplePass : PassIo where
  uploads _ := { answers := { putObject := .ok (), headObject := .ok (3, none) } }

theorem eligible_starvedStore :
    starvedStore.Eligible sampleFormats (samplePass.uploads 1).now 1 := by
  refine ⟨waitingEntry 2, sampleLine, rfl, by decide +kernel, by decide +kernel,
    ⟨_, rfl, by decide +kernel⟩, by decide +kernel, fun lastAttempt hlast => ?_⟩
  have hnone : (starvedStore.manager.retryState.lookup (waitingEntry 2).segmentId) = none := by
    decide +kernel
  rw [hnone] at hlast
  cases hlast

theorem pass_hands_eligible_iff_starved :
    (∃ idx ∈ (starvedStore.processBackgroundUploads sampleFormats samplePass).handed,
        starvedStore.Eligible sampleFormats (samplePass.uploads idx).now idx) ↔
      starvedStore.WindowServes sampleFormats sampleClient samplePass.uploads :=
  pass_hands_eligible_iff sampleFormats rfl rfl rfl samplePass

theorem eligible_segment_starved :
    ¬ ∀ (fmt : SegmentFormats) (self : SegmentStore) (client : R2Client) (io : PassIo),
      self.manager.r2Client = some client → self.manager.uploadEnabled = true →
        self.manager.uploadClosedSegmentsDuringRun = true →
          (∃ idx, self.Eligible fmt (io.uploads idx).now idx) →
            ∃ idx ∈ (self.processBackgroundUploads fmt io).handed,
              self.Eligible fmt (io.uploads idx).now idx := by
  intro h
  obtain ⟨idx, hmem, -⟩ := h sampleFormats starvedStore sampleClient samplePass rfl rfl rfl
    ⟨1, eligible_starvedStore⟩
  have hnil : (starvedStore.processBackgroundUploads sampleFormats samplePass).handed = [] := by
    decide +kernel
  rw [hnil] at hmem
  cases hmem

end SegmentStore

end PumpLaunchTrader
