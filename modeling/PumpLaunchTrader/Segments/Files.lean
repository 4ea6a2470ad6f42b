import PumpLaunchTrader.Segments.Closing

/-! # What segment files are called and hold

Open and closed segments of all types and numbers have different paths. The bytes of a
segment are valid when its records parse and are as many as were counted. -/

namespace PumpLaunchTrader

/-! ## Names -/

theorem joinPath_inj {root name name' : String} (h : joinPath root name = joinPath root name') :
    name = name' := by
  unfold joinPath at h
  split at h
  · exact String.append_right_inj root |>.mp h
  · exact String.append_right_inj (root ++ "/") |>.mp h

/-- A joined path ends like its name. -/
theorem joinPath_eq (root name : String) : ∃ folder, joinPath root name = folder ++ name := by
  unfold joinPath
  split
  · exact ⟨root, rfl⟩
  · exact ⟨root ++ "/", rfl⟩

theorem segmentStem_inj {artifactType artifactType' : String} {number number' : ℕ}
    (h : segmentStem artifactType number = segmentStem artifactType' number') :
    artifactType = artifactType' ∧ number = number' := by
  -- the stems of edge types start with another letter than the others
  have hmixed : ∀ (edge other : String) (n n' : ℕ), "edge_".toList.isPrefixOf edge.toList = true →
      edge ++ "_" ++ Labels.zeroPadded 6 n ≠
        "segment_" ++ other ++ "_" ++ Labels.zeroPadded 5 n' := by
    intro edge other n n' hedge heq
    obtain ⟨rest, hrest⟩ := List.isPrefixOf_iff_prefix.mp hedge
    have hchars := congrArg (fun s : String => s.toList.head?) heq
    simp only [String.toList_append, ← hrest] at hchars
    revert hchars
    simp
  unfold segmentStem at h
  split at h
  · next hedge =>
      split at h
      · exact Labels.label_inj '_' (by decide) (by decide) h
      · exact absurd h (hmixed artifactType artifactType' number number' hedge)
  · split at h
    · next hedge => exact absurd h.symm (hmixed artifactType' artifactType number' number hedge)
    · obtain ⟨hname, hnumber⟩ := Labels.label_inj '_' (by decide) (by decide) h
      exact ⟨(String.append_right_inj "segment_").mp hname, hnumber⟩

theorem openSegmentFileName_inj {artifactType artifactType' : String} {number number' : ℕ}
    (h : openSegmentFileName artifactType number = openSegmentFileName artifactType' number') :
    artifactType = artifactType' ∧ number = number' :=
  segmentStem_inj ((String.append_left_inj _).mp h)

theorem segmentFileName_inj {artifactType artifactType' : String} {number number' : ℕ}
    {compressed compressed' : Bool}
    (h : segmentFileName artifactType number compressed =
      segmentFileName artifactType' number' compressed') :
    artifactType = artifactType' ∧ number = number' := by
  -- a compressed file ends in another letter
  have hmixed : ∀ (stem stem' : String), stem ++ ".jsonl.zst" ≠ stem' ++ ".jsonl" :=
    fun stem stem' => Labels.append_ne_append_of_last (by decide) (by decide) (by decide)
  unfold segmentFileName at h
  split at h
  · split at h
    · exact segmentStem_inj ((String.append_left_inj _).mp h)
    · exact absurd h (hmixed _ _)
  · split at h
    · exact absurd h.symm (hmixed _ _)
    · exact segmentStem_inj ((String.append_left_inj _).mp h)

/-- Texts that end in different ways from that of closed segments. -/
theorem ne_segmentFileName {text : String} (last : Char) (h : text.toList.getLast? = some last)
    (hlast : last ≠ 'l' ∧ last ≠ 't') (folder artifactType : String) (number : ℕ)
    (compressed : Bool) : text ≠ folder ++ segmentFileName artifactType number compressed := by
  rintro rfl
  unfold segmentFileName at h
  split at h
  · rw [String.toList_append, String.toList_append, List.getLast?_append_of_ne_nil _ (by simp),
      List.getLast?_append_of_ne_nil _ (by decide)] at h
    exact hlast.2 (Option.some.inj h).symm
  · rw [String.toList_append, String.toList_append, List.getLast?_append_of_ne_nil _ (by simp),
      List.getLast?_append_of_ne_nil _ (by decide)] at h
    exact hlast.1 (Option.some.inj h).symm

/-- The chunks of exports are called otherwise. -/
theorem segmentFileName_ne_csv {path stem : String}
    (hpath : path = stem ++ ".csv" ∨ path = stem ++ ".csv.zst") (folder artifactType : String)
    (number : ℕ) (compressed : Bool) :
    folder ++ segmentFileName artifactType number compressed ≠ path := by
  unfold segmentFileName
  split
  · rw [← String.append_assoc]
    rcases hpath with rfl | rfl
    · exact Labels.append_ne_append_of_last (by decide) (by decide) (by decide)
    · -- before the common ending
      have hjsonl : ".jsonl.zst" = ".jsonl" ++ ".zst" := by decide
      have hcsv : ".csv.zst" = ".csv" ++ ".zst" := by decide
      rw [hjsonl, hcsv, ← String.append_assoc, ← String.append_assoc, ne_eq, String.append_left_inj]
      exact Labels.append_ne_append_of_last (by decide) (by decide) (by decide)
  · rw [← String.append_assoc]
    rcases hpath with rfl | rfl
    · exact Labels.append_ne_append_of_last (by decide) (by decide) (by decide)
    · exact Labels.append_ne_append_of_last (by decide) (by decide) (by decide)

theorem openSegmentFileName_ne (artifactType artifactType' : String) (number number' : ℕ)
    (compressed : Bool) :
    openSegmentFileName artifactType number ≠
      segmentFileName artifactType' number' compressed := by
  intro heq
  refine ne_segmentFileName 'n' ?_ (by decide) "" artifactType' number' compressed
    (heq.trans (String.empty_append).symm)
  rw [openSegmentFileName, String.toList_append, List.getLast?_append_of_ne_nil _ (by decide)]
  decide

theorem openPath_ne_finalPath (self : SegmentManager) (artifactType artifactType' : String)
    (number number' : ℕ) :
    self.openPath artifactType number ≠ self.finalPath artifactType' number' :=
  fun heq => openSegmentFileName_ne _ _ _ _ _ (joinPath_inj heq)

theorem segmentIdOf_inj {runId artifactType artifactType' : String} {number number' : ℕ}
    (h : segmentIdOf runId artifactType number = segmentIdOf runId artifactType' number') :
    artifactType = artifactType' ∧ number = number' := by
  obtain ⟨hname, hnumber⟩ := Labels.label_inj ':' (by decide) (by decide) h
  exact ⟨(String.append_right_inj (runId ++ ":")).mp hname, hnumber⟩

theorem finalPath_not_open (self : SegmentManager) (artifactType : String) (number : ℕ) :
    ".open".toList.isSuffixOf (self.finalPath artifactType number).toList = false := by
  rw [Bool.eq_false_iff]
  intro hopen
  obtain ⟨before, hbefore⟩ := List.isSuffixOf_iff_suffix.mp hopen
  obtain ⟨folder, hfolder⟩ := joinPath_eq self.reportRoot
    (segmentFileName artifactType number self.compresses)
  refine ne_segmentFileName 'n' ?_ (by decide) folder artifactType number
    self.compresses hfolder
  change (self.finalPath artifactType number).toList.getLast? = some 'n'
  rw [← hbefore, List.getLast?_append_of_ne_nil _ (by decide)]
  decide

/-! ## Validity -/

namespace SegmentFormats

/-- What the formats promise: a JSON text is not empty and does not open with a bracket that
JSON does not have, and what is encoded can be decoded. -/
structure Lawful (fmt : SegmentFormats) : Prop where
  json_ne_nil : ∀ text, fmt.isJson text = true → text ≠ []
  json_head : ∀ text, fmt.isJson text = true → text.head? ≠ some 0x28
  encode : ∀ raw, ∃ bytes, fmt.encodeAll raw = .ok bytes ∧ bytes ≠ [] ∧
    fmt.decodeAll bytes = .ok raw

/-- Decoded bytes that hold a number of records. -/
structure Holds (fmt : SegmentFormats) (count : ℕ) (text : Bytes) : Prop where
  terminated : text.getLast? = some newline
  parses : ∀ line ∈ Lines.records newline text, fmt.isJson line = true
  count : (Lines.records newline text).length = count
  plain : ¬ zstdMagic <+: text

theorem parseJsonlValueRecordCount_iff (fmt : SegmentFormats) (text : Bytes) (count : ℕ) :
    (count = (fmt.parseJsonlValueRecordCount text).1 ∧
        (fmt.parseJsonlValueRecordCount text).2 = 0) ↔
      (∀ line ∈ Lines.records newline text, fmt.isJson line = true) ∧
        (Lines.records newline text).length = count := by
  simp only [parseJsonlValueRecordCount, List.countP_eq_zero, Bool.not_eq_true',
    Bool.not_eq_false]
  constructor
  · rintro ⟨hcount, hparses⟩
    refine ⟨hparses, ?_⟩
    rw [hcount]
    exact (List.countP_eq_length.mpr hparses).symm
  · rintro ⟨hparses, hcount⟩
    refine ⟨?_, hparses⟩
    rw [← hcount]
    exact (List.countP_eq_length.mpr hparses).symm

/-- Bytes that have to hold records are valid when they decode to as many as expected. -/
theorem valid_validateBytesInto_iff (fmt : SegmentFormats) (bytes : Bytes)
    {options : SegmentIntegrityValidationOptions} (hempty : options.explicitlyEmpty = false)
    (report : SegmentIntegrityValidationReport) :
    (fmt.validateBytesInto bytes options report).valid = true ↔
      report.errors = [] ∧ bytes ≠ [] ∧
        ∃ text, fmt.decoded options.compression bytes = .ok text ∧
          fmt.Holds options.expectedRecordCount text := by
  have hvalid : (fmt.validateBytesInto bytes options report).valid = true ↔
      (fmt.validateBytesInto bytes options report).errors = [] := List.isEmpty_iff
  rw [hvalid]
  simp only [validateBytesInto, hempty, List.append_eq_nil_iff, and_true]
  cases hdecoded : fmt.decoded options.compression bytes with
  | error error => simp
  | ok text =>
      have hcounts := fmt.parseJsonlValueRecordCount_iff text options.expectedRecordCount
      constructor
      · rintro ⟨⟨⟨⟨⟨⟨herrors, hbytes⟩, -⟩, hnewline⟩, hparse⟩, hcount⟩, hplain⟩
        refine ⟨herrors, ?_, text, rfl, ?_⟩
        · intro h
          simp [h] at hbytes
        · have htext : text ≠ [] := by
            intro h
            simp [h, Except.toOption] at hnewline
          simp only [Except.toOption, Option.getD_some, htext, if_false] at hnewline hparse hcount
          have hparse' : (fmt.parseJsonlValueRecordCount text).2 = 0 := by
            by_contra h
            simp [h] at hparse
          obtain ⟨hparses, hlength⟩ := hcounts.mp ⟨by by_contra h; simp [h] at hcount, hparse'⟩
          refine ⟨?_, hparses, hlength, ?_⟩
          · by_contra h
            simp [h] at hnewline
          · intro h
            simp [Except.toOption, h] at hplain
      · rintro ⟨herrors, hbytes, text', htext', hholds⟩
        cases htext'
        have htext : text ≠ [] := by
          rintro rfl
          have hlast := hholds.terminated
          simp at hlast
        obtain ⟨hcount, hparse⟩ := hcounts.mpr ⟨hholds.parses, hholds.count⟩
        simp [Except.toOption, herrors, hbytes, htext, hholds.terminated, hholds.plain, ← hcount,
          hparse]

theorem valid_validateBytes_iff (fmt : SegmentFormats) (bytes : Bytes)
    {options : SegmentIntegrityValidationOptions} (hempty : options.explicitlyEmpty = false) :
    (fmt.validateBytes bytes options).valid = true ↔
      bytes ≠ [] ∧ ∃ text, fmt.decoded options.compression bytes = .ok text ∧
        fmt.Holds options.expectedRecordCount text := by
  rw [validateBytes, fmt.valid_validateBytesInto_iff bytes hempty]
  exact and_iff_right rfl

/-- A file of another name than that of an open segment is as valid as its bytes. -/
theorem validateFile_contents (fmt : SegmentFormats) {path : String} (bytes : Bytes)
    {options : SegmentIntegrityValidationOptions} (hempty : options.explicitlyEmpty = false)
    (hpath : ".open".toList.isSuffixOf path.toList = false) :
    ∃ report, fmt.validateFile path (.contents bytes) options = some report ∧
      (report.valid = true ↔ (fmt.validateBytes bytes options).valid = true) := by
  refine ⟨_, rfl, ?_⟩
  rw [fmt.valid_validateBytesInto_iff bytes hempty, fmt.valid_validateBytes_iff bytes hempty]
  refine and_iff_right ?_
  change (if _ then _ else _) = _
  rw [hpath]
  rfl

/-- The bytes before the first line of a segment do not spoil it: they hold no record, and
what they end with is the start of the JSON text that the line completes. -/
def Harmless (fmt : SegmentFormats) (leftover line : Bytes) : Prop :=
  Lines.records newline (Lines.complete newline leftover) = [] ∧
    fmt.isJson (Lines.torn newline leftover ++ line) = true

/-- A line that may be appended. -/
def IsLine (fmt : SegmentFormats) (line : Bytes) : Prop :=
  newline ∉ line ∧ fmt.isJson line = true

theorem IsLine.isRecord {fmt : SegmentFormats} (hfmt : fmt.Lawful) {line : Bytes}
    (h : fmt.IsLine line) : Lines.IsRecord newline line :=
  ⟨h.1, hfmt.json_ne_nil line h.2⟩

theorem harmless_nil {fmt : SegmentFormats} {line : Bytes} (h : fmt.IsLine line) :
    fmt.Harmless [] line :=
  ⟨rfl, h.2⟩

/-- Lines that are written after leftover bytes are held as such exactly when the leftover is
harmless. -/
theorem holds_unlines_iff {fmt : SegmentFormats} (hfmt : fmt.Lawful) (leftover : Bytes)
    {line : Bytes} (hline : fmt.IsLine line) {lines : List Bytes}
    (hlines : ∀ line ∈ lines, fmt.IsLine line) :
    fmt.Holds (lines.length + 1) (leftover ++ Lines.unlines newline (line :: lines)) ↔
      fmt.Harmless leftover line := by
  have hrecords : Lines.records newline (leftover ++ Lines.unlines newline (line :: lines)) =
      Lines.records newline (Lines.complete newline leftover) ++
        (Lines.torn newline leftover ++ line) :: lines := by
    rw [Lines.unlines_cons, Lines.records_resume leftover (hline.isRecord hfmt),
      Lines.records_unlines fun line h => (hlines line h).isRecord hfmt]
  constructor
  · intro hholds
    have hcount := hholds.count
    have hparses := hholds.parses
    rw [hrecords] at hcount hparses
    simp only [List.length_append, List.length_cons] at hcount
    have hempty : (Lines.records newline (Lines.complete newline leftover)).length = 0 := by omega
    exact ⟨List.length_eq_zero_iff.mp hempty, hparses _ (by simp)⟩
  · rintro ⟨hempty, hjoined⟩
    rw [hempty, List.nil_append] at hrecords
    refine ⟨?_, ?_, ?_, ?_⟩
    · rw [List.getLast?_append_of_ne_nil _ (by simp [Lines.unlines]),
        Lines.getLast?_unlines_cons]
    · rw [hrecords]
      refine List.forall_mem_cons.mpr ⟨hjoined, ?_⟩
      exact fun line h => (hlines line h).2
    · rw [hrecords, List.length_cons]
    · -- the text starts with a separator or with the joined line
      have hhead : (leftover ++ Lines.unlines newline (line :: lines)).head? ≠ some 0x28 := by
        rw [Lines.unlines_cons, ← Lines.complete_append_torn newline leftover]
        cases hcomplete : Lines.complete newline leftover with
        | nil =>
            have hne := hfmt.json_ne_nil _ hjoined
            rw [List.nil_append, ← List.append_assoc, List.head?_append_of_ne_nil _ hne]
            exact hfmt.json_head _ hjoined
        | cons first rest =>
            rw [hcomplete] at hempty
            rw [Lines.eq_sep_of_records_eq_nil hempty]
            simp [newline]
      rintro ⟨rest, hrest⟩
      rw [← hrest] at hhead
      simp [zstdMagic] at hhead

end SegmentFormats

end PumpLaunchTrader
