import PumpLaunchTrader.Model.Jsonl

/-! # Reading a log by run and scenario

A line that cannot hold a wanted record is passed over without being parsed. What is read is
nevertheless what the whole log gives after filtering. -/

namespace PumpLaunchTrader

namespace Jsonl

/-! ## Lines of a file -/

theorem decodeLine_toUTF8 (text : String) : decodeLine text.toUTF8.data.toList = some text := by
  have hvalid : (ByteArray.mk text.toUTF8.data).IsValidUTF8 := text.isValidUTF8
  unfold decodeLine String.fromUTF8?
  rw [Array.toArray_toList, dif_pos hvalid]
  rfl

/-- A printable character is encoded without control bytes. -/
theorem notMem_utf8EncodeChar {byte : UInt8} (hbyte : byte.toNat < 32) {c : Char}
    (hc : Json.IsPrintable c) : byte ∉ String.utf8EncodeChar c := by
  have hvalue : ∀ n : ℕ, byte = UInt8.ofNat n → n % 256 < 32 := by
    intro n hn
    rw [hn] at hbyte
    simpa using hbyte
  have hcode : c.val.toNat = c.toNat := rfl
  unfold Json.IsPrintable at hc
  intro hmem
  unfold String.utf8EncodeChar at hmem
  simp only at hmem
  split_ifs at hmem <;> simp only [List.mem_cons, List.not_mem_nil, or_false] at hmem
  · have := hvalue _ hmem
    omega
  · rcases hmem with hmem | hmem <;>
      · have := hvalue _ hmem
        omega
  · rcases hmem with hmem | hmem | hmem <;>
      · have := hvalue _ hmem
        omega
  · rcases hmem with hmem | hmem | hmem | hmem <;>
      · have := hvalue _ hmem
        omega

theorem notMem_toUTF8 {byte : UInt8} (hbyte : byte.toNat < 32) {text : String}
    (h : ∀ c ∈ text.toList, Json.IsPrintable c) : byte ∉ text.toUTF8.data.toList := by
  have hbytes : text.toUTF8.data.toList = text.toList.flatMap String.utf8EncodeChar := by
    rw [String.toUTF8_eq_toByteArray, ← String.utf8Encode_toList, List.utf8Encode,
      List.data_toByteArray]
  rw [hbytes, List.mem_flatMap]
  rintro ⟨c, hc, hmem⟩
  exact notMem_utf8EncodeChar hbyte (h c hc) hmem

/-- The lines of a text of complete lines with a last one that is not ended. -/
theorem bufLines_unlines_append {lines : List (List UInt8)} (h : ∀ line ∈ lines, newline ∉ line)
    {last : List UInt8} (hlast : newline ∉ last) :
    bufLines (Lines.unlines newline lines ++ last) =
      lines.map stripReturn ++ [last].filter fun piece => !piece.isEmpty := by
  have hsplit : (Lines.unlines newline lines ++ last).splitOn newline = lines ++ [last] := by
    induction lines with
    | nil => exact List.splitOn_eq_singleton hlast
    | cons line lines ih =>
        obtain ⟨hline, hlines⟩ := List.forall_mem_cons.mp h
        rw [Lines.unlines_cons, List.append_assoc, List.cons_append, List.splitOn_append_cons_self,
          ih hlines, List.splitOn_eq_singleton hline]
        rfl
  unfold bufLines
  simp [hsplit]

/-! ## A serialized record -/

variable {T : Type} {formats : RecordFormats T}

/-- A field that is a text or null. -/
theorem readOption_optionToJson (value : Option String) :
    readOption readText (optionToJson .string value) = some value := by
  cases value <;> rfl

theorem optional_run_id (record : StoredRecord T) :
    optional (record.fields formats) "run_id" readText = some record.runId :=
  readOption_optionToJson record.runId

theorem optional_scenario_id (record : StoredRecord T) :
    optional (record.fields formats) "scenario_id" readText = some record.scenarioId :=
  readOption_optionToJson record.scenarioId

theorem ofFields_ids {fields : List (String × Json.Value)} {row : StoredRecord T}
    (h : StoredRecord.ofFields formats fields = some row) :
    optional fields "run_id" readText = some row.runId ∧
      optional fields "scenario_id" readText = some row.scenarioId := by
  unfold StoredRecord.ofFields at h
  iterate 4 obtain ⟨_, -, h⟩ := Option.bind_eq_some_iff.mp h
  obtain ⟨runId, hrun, h⟩ := Option.bind_eq_some_iff.mp h
  obtain ⟨scenarioId, hscenario, h⟩ := Option.bind_eq_some_iff.mp h
  iterate 11 obtain ⟨_, -, h⟩ := Option.bind_eq_some_iff.mp h
  rw [Option.some.injEq] at h
  subst h
  exact ⟨hrun, hscenario⟩

/-- A record that is read from the line of another one has its ids. -/
theorem fromJson_toJson_ids {record row : StoredRecord T}
    (h : StoredRecord.fromJson formats (record.toJson formats) = some row) :
    row.runId = record.runId ∧ row.scenarioId = record.scenarioId := by
  unfold StoredRecord.fromJson StoredRecord.toJson at h
  rw [String.toList_ofList, Json.parse_write] at h
  split at h
  · obtain ⟨hrun, hscenario⟩ := ofFields_ids h
    rw [optional_run_id, Option.some.injEq] at hrun
    rw [optional_scenario_id, Option.some.injEq] at hscenario
    exact ⟨hrun.symm, hscenario.symm⟩
  · cases h

theorem containsText_hint {record : StoredRecord T} {name value : String}
    (hname : Json.writeString name = '"' :: (name.toList ++ ['"']))
    (h : (name, Json.Value.string value) ∈ record.fields formats) :
    containsText (record.toJson formats) (hint name value) = true := by
  have hfield : (hint name value).toList = Json.writeField (name, .string value) := by
    simp [hint, Json.writeField, Json.write, hname]
  unfold containsText StoredRecord.toJson
  rw [decide_eq_true_eq, String.toList_ofList, hfield]
  exact Json.writeField_infix_write h

/-- The line of a record with a wanted id is parsed. -/
theorem passesHint_run_id {record : StoredRecord T} {wanted : Option String}
    (h : keeps wanted record.runId = true) :
    passesHint "run_id" wanted (record.toJson formats) = true := by
  cases wanted with
  | none => rfl
  | some value =>
      have hid : record.runId = some value := by simpa [keeps] using h
      have hhint : containsText (record.toJson formats) (hint "run_id" value) = true :=
        containsText_hint (by decide) (by simp [StoredRecord.fields, hid, optionToJson])
      simp [passesHint, hhint]

theorem passesHint_scenario_id {record : StoredRecord T} {wanted : Option String}
    (h : keeps wanted record.scenarioId = true) :
    passesHint "scenario_id" wanted (record.toJson formats) = true := by
  cases wanted with
  | none => rfl
  | some value =>
      have hid : record.scenarioId = some value := by simpa [keeps] using h
      have hhint : containsText (record.toJson formats) (hint "scenario_id" value) = true :=
        containsText_hint (by decide) (by simp [StoredRecord.fields, hid, optionToJson])
      simp [passesHint, hhint]

/-! ## Logs -/

/-- A line that holds no record: it is blank, malformed, or no UTF-8. -/
def IsJunk (formats : RecordFormats T) (line : List UInt8) : Prop :=
  ∀ text, decodeLine line = some text →
    isBlank text = true ∨ StoredRecord.fromJson formats text = none

/-- A line of a log: the text of a record, or no record. -/
def IsLogLine (formats : RecordFormats T) (line : List UInt8) : Prop :=
  (∃ record : StoredRecord T, decodeLine line = some (record.toJson formats)) ∨
    IsJunk formats line

/-- A log of appended records, with other lines in between, each ended by its newline. -/
inductive IsWholeLog (formats : RecordFormats T) : List UInt8 → Prop where
  | empty : IsWholeLog formats []
  | append {content : List UInt8} (record : StoredRecord T) (h : IsWholeLog formats content) :
      IsWholeLog formats (appendJsonl formats content record)
  | junk {content line : List UInt8} (h : IsWholeLog formats content) (hline : newline ∉ line)
      (hjunk : IsJunk formats (stripReturn line)) :
      IsWholeLog formats (content ++ line ++ [newline])

/-- A log whose last line may have lost its newline. -/
def IsLog (formats : RecordFormats T) (content : List UInt8) : Prop :=
  ∃ whole last, content = whole ++ last ∧ IsWholeLog formats whole ∧ newline ∉ last ∧
    IsLogLine formats last

/-- The text of a record has no control bytes. -/
theorem notMem_toJson {byte : UInt8} (hbyte : byte.toNat < 32) (record : StoredRecord T) :
    byte ∉ (record.toJson formats).toUTF8.data.toList := by
  refine notMem_toUTF8 hbyte fun c hc => ?_
  rw [StoredRecord.toJson, String.toList_ofList] at hc
  exact Json.isPrintable_write _ c hc

theorem stripReturn_toJson (record : StoredRecord T) :
    stripReturn (record.toJson formats).toUTF8.data.toList =
      (record.toJson formats).toUTF8.data.toList :=
  if_neg fun hlast => notMem_toJson (by decide) record (List.mem_of_getLast? hlast)

theorem IsWholeLog.lines {content : List UInt8} (h : IsWholeLog formats content) :
    ∃ lines, content = Lines.unlines newline lines ∧
      ∀ line ∈ lines, newline ∉ line ∧ IsLogLine formats (stripReturn line) := by
  induction h with
  | empty => exact ⟨[], rfl, fun line hline => absurd hline List.not_mem_nil⟩
  | append record _ ih =>
      obtain ⟨lines, rfl, hlines⟩ := ih
      refine ⟨lines ++ [(record.toJson formats).toUTF8.data.toList], ?_, ?_⟩
      · rw [Lines.unlines_concat, appendJsonl, List.append_assoc]
      · refine List.forall_mem_append.mpr ⟨hlines, List.forall_mem_singleton.mpr
          ⟨notMem_toJson (by decide) record, Or.inl ⟨record, ?_⟩⟩⟩
        rw [stripReturn_toJson, decodeLine_toUTF8]
  | @junk _ last _ hlast hjunk ih =>
      obtain ⟨lines, rfl, hlines⟩ := ih
      refine ⟨lines ++ [last], ?_, List.forall_mem_append.mpr ⟨hlines,
        List.forall_mem_singleton.mpr ⟨hlast, Or.inr hjunk⟩⟩⟩
      rw [Lines.unlines_concat, List.append_assoc]

theorem IsLog.lines {content : List UInt8} (h : IsLog formats content) :
    ∀ line ∈ bufLines content, IsLogLine formats line := by
  obtain ⟨whole, last, rfl, hwhole, hnewline, hlast⟩ := h
  obtain ⟨lines, rfl, hlines⟩ := hwhole.lines
  intro line hline
  rw [bufLines_unlines_append (fun line hline => (hlines line hline).1) hnewline,
    List.mem_append, List.mem_map] at hline
  rcases hline with ⟨raw, hraw, rfl⟩ | hline
  · exact (hlines raw hraw).2
  · obtain rfl := List.mem_singleton.mp (List.mem_of_mem_filter hline)
    exact hlast

/-- What a line adds to the filtered rows is what it adds to all rows, if it is kept. -/
theorem filtered_line {line : List UInt8} {text : String} (h : IsLogLine formats line)
    (htext : decodeLine line = some text) (runId scenarioId : Option String) :
    (if isBlank text then none
      else if !passesHint "run_id" runId text then none
      else if !passesHint "scenario_id" scenarioId text then none
      else (StoredRecord.fromJson formats text).filter fun row =>
        keeps runId row.runId && keeps scenarioId row.scenarioId) =
      (if isBlank text then none else StoredRecord.fromJson formats text).filter fun row =>
        keeps runId row.runId && keeps scenarioId row.scenarioId := by
  by_cases hblank : isBlank text = true
  · rw [if_pos hblank, if_pos hblank]
    rfl
  rw [if_neg hblank, if_neg hblank]
  cases hrow : StoredRecord.fromJson formats text with
  | none => split_ifs <;> rfl
  | some row =>
      rcases h with ⟨record, hrecord⟩ | hjunk
      · obtain rfl := Option.some.inj (htext.symm.trans hrecord)
        obtain ⟨hrun, hscenario⟩ := fromJson_toJson_ids hrow
        by_cases hkeep : (keeps runId row.runId && keeps scenarioId row.scenarioId) = true
        · rw [Bool.and_eq_true, hrun, hscenario] at hkeep
          rw [passesHint_run_id hkeep.1, passesHint_scenario_id hkeep.2]
          rfl
        · rw [Option.filter_some_neg (by simpa using hkeep)]
          split_ifs <;> rfl
      · rcases hjunk text htext with hjunk | hjunk
        · exact absurd hjunk hblank
        · rw [hjunk] at hrow
          cases hrow

theorem filterRecords_eq (rows : List (StoredRecord T)) (runId scenarioId : Option String) :
    filterRecords rows runId scenarioId =
      rows.filter fun row => keeps runId row.runId && keeps scenarioId row.scenarioId := by
  unfold filterRecords keeps
  cases runId <;> cases scenarioId <;> simp [List.filter_filter, Bool.and_comm]

/-- The filtered rows of a log are all its rows, filtered. -/
theorem readStoredJsonlFiltered_eq {file : Option (List UInt8)}
    (h : ∀ content ∈ file, IsLog formats content) (runId scenarioId : Option String) :
    readStoredJsonlFiltered formats file runId scenarioId =
      (readJsonl formats file).map fun rows => filterRecords rows runId scenarioId := by
  by_cases hall : runId.isNone ∧ scenarioId.isNone
  · obtain ⟨rfl, rfl⟩ : runId = none ∧ scenarioId = none := by simpa using hall
    unfold readStoredJsonlFiltered
    rw [if_pos hall]
    simp [filterRecords]
  unfold readStoredJsonlFiltered
  rw [if_neg hall]
  cases file with
  | none => simp [readJsonl, filterRecords_eq]
  | some content =>
      rw [readJsonl]
      cases hread : readLines content with
      | none => simp [hread]
      | some lines =>
          simp only [hread, Option.map_some, filterRecords_eq, List.filter_filterMap]
          refine congrArg some (List.filterMap_congr fun text htext => ?_)
          obtain ⟨line, hline, hdecode⟩ := Traversal.exists_of_mem_mapM hread text htext
          exact filtered_line ((h content rfl).lines line hline) hdecode runId scenarioId

/-- Records that are texts, without timestamps. -/
def textFormats : RecordFormats String :=
  { time := fun _ => .null
    readTime := fun _ => none
    record := .string
    readRecord := readText }

def quotedRecord : StoredRecord String :=
  { schemaVersion := 1
    configHash := ""
    idlHash := ""
    strategyVersion := none
    runId := some "a\"\\"
    scenarioId := none
    runtimeSequenceNumber := none
    sourceEventId := none
    triggerEventId := none
    calibrationSnapshotHash := none
    deterministicReplayHash := none
    replayEquivalenceGroupId := none
    source := ""
    canonicality := ""
    noLookaheadTimestamp := none
    dataset := .normalizedEventLog
    record := "event" }

/-- A brace without the rest of its line, the record of a run with a quote in its id, and a brace
at which the last line was torn. -/
def tornLog : List UInt8 := appendJsonl textFormats [123, 10] quotedRecord ++ [123]

theorem isJunk_brace : IsJunk textFormats [123] := by
  intro text htext
  have hbrace : decodeLine [123] = some "\x7b" := by decide +kernel
  obtain rfl := Option.some.inj (hbrace.symm.trans htext)
  exact Or.inr (by decide +kernel)

theorem readStoredJsonlFiltered_eq_tornLog :
    readStoredJsonlFiltered textFormats (some tornLog) (some "a\"\\") none =
      (readJsonl textFormats (some tornLog)).map fun rows =>
        filterRecords rows (some "a\"\\") none :=
  readStoredJsonlFiltered_eq (fun content hcontent => by
    obtain rfl := Option.some.inj hcontent
    have hbrace : newline ∉ ([123] : List UInt8) := by decide
    have hfirst : IsWholeLog textFormats ([] ++ [123] ++ [newline]) :=
      .junk .empty hbrace isJunk_brace
    exact ⟨_, [123], rfl, hfirst.append quotedRecord, hbrace, Or.inr isJunk_brace⟩) _ _

-- The record of the sample is read back, and its line passes the hint of its run.
example : StoredRecord.fromJson textFormats (quotedRecord.toJson textFormats) =
    some quotedRecord := by
  rw [StoredRecord.fromJson, StoredRecord.toJson, String.toList_ofList]
  decide +kernel

example : passesHint "run_id" (some "a\"\\") (quotedRecord.toJson textFormats) = true := by
  rw [passesHint, containsText, StoredRecord.toJson, String.toList_ofList]
  decide +kernel

end Jsonl

end PumpLaunchTrader
