import PumpLaunchTrader.Segments.Restart

/-! # A truncated segment never validates

A segment file holds one record a line. Whatever is cut off its end, fewer records than
expected are left or the last line has no end, so that the rest is not valid, not uploaded
and not entered in the manifest. -/

namespace PumpLaunchTrader

namespace SegmentFormats

/-! ## Whole and cut segments -/

/-- A segment that is not compressed and has to hold records. -/
structure PlainOptions (options : SegmentIntegrityValidationOptions) : Prop where
  uncompressed : (options.compression.any fun value => eqIgnoreAsciiCase value "zstd") = false
  expectsRecords : options.explicitlyEmpty = false

variable {fmt : SegmentFormats} {options : SegmentIntegrityValidationOptions}

/-- Plain bytes are valid when they hold as many records as expected. -/
theorem PlainOptions.valid_iff (hplain : PlainOptions options) (bytes : Bytes) :
    (fmt.validateBytes bytes options).valid = true ↔
      fmt.Holds options.expectedRecordCount bytes := by
  rw [fmt.valid_validateBytes_iff bytes hplain.expectsRecords]
  simp only [decoded, hplain.uncompressed, Bool.false_eq_true, if_false, Except.ok.injEq,
    exists_eq_left']
  refine and_iff_right_of_imp fun hholds => ?_
  rintro rfl
  cases hholds.terminated

/-- Records that are written one a line are held as such. -/
theorem holds_unlines (hfmt : fmt.Lawful) {records : List Bytes} (hne : records ≠ [])
    (hrecords : ∀ record ∈ records, fmt.IsLine record) :
    fmt.Holds records.length (Lines.unlines newline records) := by
  cases records with
  | nil => exact absurd rfl hne
  | cons record records =>
      obtain ⟨hrecord, hrecords⟩ := List.forall_mem_cons.mp hrecords
      exact (holds_unlines_iff hfmt [] hrecord hrecords).mpr (harmless_nil hrecord)

/-- A text holds one number of records only. -/
theorem Holds.count_eq {first second : ℕ} {text : Bytes} (hfirst : fmt.Holds first text)
    (hsecond : fmt.Holds second text) : first = second :=
  hfirst.count.symm.trans hsecond.count

/-- A cut text does not hold all records. -/
theorem not_holds_of_cut (hfmt : fmt.Lawful) {records : List Bytes}
    (hrecords : ∀ record ∈ records, fmt.IsLine record) {cut : Bytes}
    (hcut : cut <+: Lines.unlines newline records) (hne : cut ≠ Lines.unlines newline records) :
    ¬ fmt.Holds records.length cut := by
  intro hholds
  have hless := Lines.length_records_lt_of_cut (fun line h => (hrecords line h).isRecord hfmt)
    hcut hne hholds.terminated
  rw [hholds.count] at hless
  exact lt_irrefl _ hless

/-- A file with bytes that are not valid is not valid, whatever its name. -/
theorem validateFile_invalid (fmt : SegmentFormats) {bytes : Bytes}
    (hempty : options.explicitlyEmpty = false)
    (hinvalid : ¬ (fmt.validateBytes bytes options).valid = true) {path : String}
    {report : SegmentIntegrityValidationReport}
    (h : fmt.validateFile path (.contents bytes) options = some report) :
    report.valid = false := by
  cases h
  rw [Bool.eq_false_iff]
  intro hvalid
  rw [fmt.valid_validateBytes_iff bytes hempty] at hinvalid
  exact hinvalid ((fmt.valid_validateBytesInto_iff bytes hempty _).mp hvalid).2

end SegmentFormats

namespace SegmentStore

variable {fmt : SegmentFormats}

/-! ## What happens to an invalid file -/

/-- A segment whose file is not valid is not handed over for an upload. -/
theorem not_handed_of_invalid {self : SegmentStore} {entry : RunSegmentEntry} {body : Bytes}
    {idx : ℕ} (hentry : self.manager.segments[idx]? = some entry)
    (hfile : self.disk.files.lookup entry.localPath = some body)
    (hinvalid : ¬ (fmt.validateBytes body (uploadOptions entry)).valid = true) (io : UploadIo) :
    (self.tryUploadSegment fmt io idx).handed = false := by
  unfold tryUploadSegment
  split
  · next client entry' hclient hentry' =>
      cases hentry.symm.trans hentry'
      cases hskips : self.manager.skipsUpload entry io.now with
      | true => rfl
      | false =>
          simp only [hfile]
          cases hread : io.validationReadFails with
          | true => rfl
          | false =>
              obtain ⟨report, hreport⟩ : ∃ report, fmt.validateFile entry.localPath
                  (.contents body) (uploadOptions entry) = some report := ⟨_, rfl⟩
              have hrejected := fmt.validateFile_invalid rfl hinvalid hreport
              simp [hreport, hrejected]
  · rfl

theorem segments_keepOpen (self : SegmentStore) (io : CloseIo) (artifactType : String)
    (segment : OpenSegment) (stage : String) (errors : List String) :
    (self.keepOpen io artifactType segment stage errors).1.manager.segments =
      self.manager.segments := by
  unfold keepOpen writeAllReports
  cases io.reports.manifest with
  | true => rfl
  | false => rfl

/-- A segment whose open file is not valid is not entered in the manifest. -/
theorem segments_closeSegment_of_invalid {self : SegmentStore} {artifactType : String}
    {segment : OpenSegment} {raw : Bytes}
    (hopen : self.manager.openSegments.lookup artifactType = some segment)
    (hfile : self.disk.files.lookup segment.openPath = some raw)
    (hplain : self.manager.compresses = false)
    (hinvalid : ¬ (fmt.validateBytes raw
      (self.manager.closeOptions artifactType segment)).valid = true) (io : CloseIo) :
    (self.closeSegment fmt io artifactType).1.manager.segments = self.manager.segments := by
  have hplain' : (self.takeOpen artifactType).manager.compresses = false := hplain
  have hbytes : (self.takeOpen artifactType).manager.finalBytes fmt raw = .ok raw := by
    simp [SegmentManager.finalBytes, hplain']
  have hfile' : (self.takeOpen artifactType).disk.files.lookup segment.openPath = some raw := hfile
  have hinvalid' : (fmt.validateBytes raw
      ((self.takeOpen artifactType).manager.closeOptions artifactType segment)).valid = false :=
    Bool.eq_false_iff.mpr fun hvalid => hinvalid hvalid
  unfold closeSegment
  simp only [hopen]
  split_ifs with hzero hremove
  · rfl
  · rfl
  · unfold closeTaken
    cases hread : io.readFails with
    | true => rfl
    | false =>
        simp only [Bool.false_eq_true, if_false, hfile', hbytes, hinvalid', if_true]
        exact segments_keepOpen _ io artifactType segment _ _

end SegmentStore

/-! ## Only whole segments count -/

namespace SegmentFormats

/-- What is left of a segment with some records when its end is cut off. -/
def IsCut (records : List Bytes) (cut : Bytes) : Prop :=
  cut <+: Lines.unlines newline records ∧ cut ≠ Lines.unlines newline records

/-- The options for a number of records. -/
def expecting (options : SegmentIntegrityValidationOptions) (count : ℕ) :
    SegmentIntegrityValidationOptions :=
  { options with expectedRecordCount := count }

/-- The bytes of some records are valid as a whole, and with those of others behind them. Cut
bytes are not valid, nor is a file of them, which is neither uploaded nor entered in the
manifest. -/
structure OnlyWholeCounts (fmt : SegmentFormats) (options : SegmentIntegrityValidationOptions)
    (records : List Bytes) : Prop where
  whole : (fmt.validateBytes (Lines.unlines newline records)
    (expecting options records.length)).valid = true
  joined : ∀ others : List Bytes, others ≠ [] → (∀ record ∈ others, fmt.IsLine record) →
    ∀ count, (fmt.validateBytes (Lines.unlines newline records ++ Lines.unlines newline others)
      (expecting options count)).valid = true ↔ count = records.length + others.length
  cut : ∀ cut, IsCut records cut →
    (fmt.validateBytes cut (expecting options records.length)).valid = false
  cutFile : ∀ cut, IsCut records cut → ∀ path report,
    fmt.validateFile path (.contents cut) (expecting options records.length) = some report →
      report.valid = false
  notUploaded : ∀ cut, IsCut records cut → ∀ (store : SegmentStore) (io : UploadIo) (idx : ℕ)
    (entry : RunSegmentEntry), store.manager.segments[idx]? = some entry →
      uploadOptions entry = expecting options records.length →
      store.disk.files.lookup entry.localPath = some cut →
        (store.tryUploadSegment fmt io idx).handed = false
  notCounted : ∀ cut, IsCut records cut → ∀ (store : SegmentStore) (io : CloseIo)
    (artifactType : String) (segment : OpenSegment),
    store.manager.openSegments.lookup artifactType = some segment →
      store.manager.closeOptions artifactType segment = expecting options records.length →
      store.disk.files.lookup segment.openPath = some cut →
        (store.closeSegment fmt io artifactType).1.manager.segments = store.manager.segments

variable {fmt : SegmentFormats} {options : SegmentIntegrityValidationOptions}

theorem PlainOptions.expecting (hplain : PlainOptions options) (count : ℕ) :
    PlainOptions (expecting options count) :=
  ⟨hplain.uncompressed, hplain.expectsRecords⟩

theorem invalid_of_cut (hfmt : fmt.Lawful) (hplain : PlainOptions options)
    {records : List Bytes} (hrecords : ∀ record ∈ records, fmt.IsLine record) {cut : Bytes}
    (hcut : IsCut records cut) :
    ¬ (fmt.validateBytes cut (SegmentFormats.expecting options records.length)).valid = true := by
  rw [(hplain.expecting records.length).valid_iff]
  exact not_holds_of_cut hfmt hrecords hcut.1 hcut.2

/-- Of the bytes of some records, one a line, only the whole is valid: what is left after a
cut is not marked valid, not uploaded and not counted. -/
theorem onlyWholeCounts (hfmt : fmt.Lawful) (hplain : PlainOptions options)
    {records : List Bytes} (hne : records ≠ [])
    (hrecords : ∀ record ∈ records, fmt.IsLine record) :
    fmt.OnlyWholeCounts options records := by
  have hcut : ∀ cut, IsCut records cut →
      ¬ (fmt.validateBytes cut (SegmentFormats.expecting options records.length)).valid = true :=
    fun cut hcut => invalid_of_cut hfmt hplain hrecords hcut
  constructor
  case whole =>
      rw [(hplain.expecting records.length).valid_iff]
      exact holds_unlines hfmt hne hrecords
  case joined =>
      intro others hne' hothers count
      rw [(hplain.expecting count).valid_iff, ← Lines.unlines_append]
      have hall : ∀ record ∈ records ++ others, fmt.IsLine record :=
        List.forall_mem_append.mpr ⟨hrecords, hothers⟩
      have hholds := holds_unlines hfmt (List.append_ne_nil_of_left_ne_nil hne others) hall
      rw [List.length_append] at hholds
      constructor
      · intro hcount
        exact hcount.count_eq hholds
      · rintro rfl
        exact hholds
  case cut => exact fun cut hc => Bool.eq_false_iff.mpr (hcut cut hc)
  case cutFile =>
      intro cut hc path report hreport
      exact fmt.validateFile_invalid (hplain.expecting records.length).expectsRecords
        (hcut cut hc) hreport
  case notUploaded =>
      intro cut hc store io idx entry hentry hoptions hfile
      exact SegmentStore.not_handed_of_invalid hentry hfile (hoptions ▸ hcut cut hc) io
  case notCounted =>
      intro cut hc store io artifactType segment hopen hoptions hfile
      have hcompresses : store.manager.compresses = false := by
        by_contra hcompresses
        rw [Bool.not_eq_false] at hcompresses
        have huncompressed := hplain.uncompressed
        have hzstd : options.compression = some "zstd" := by
          have h := congrArg SegmentIntegrityValidationOptions.compression hoptions
          simpa [SegmentManager.closeOptions, SegmentFormats.expecting, hcompresses] using h.symm
        rw [hzstd] at huncompressed
        revert huncompressed
        decide +kernel
      exact SegmentStore.segments_closeSegment_of_invalid hopen hfile hcompresses
        (hoptions ▸ hcut cut hc) io

theorem onlyWholeCounts_two_objects :
    SegmentStore.sampleFormats.OnlyWholeCounts
      { artifactType := "events"
        sequenceNumber := 1
        expectedRecordCount := 0
        compression := none
        explicitlyEmpty := false } [[0x7b, 0x7d], [0x7b, 0x7d]] :=
  onlyWholeCounts SegmentStore.sampleFormats_lawful ⟨by decide, by decide⟩ (by decide) (by
    intro record hrecord
    obtain rfl : record = [0x7b, 0x7d] := by simpa using hrecord
    exact ⟨by decide, by decide⟩)

end SegmentFormats

end PumpLaunchTrader
