import PumpLaunchTrader.Lib.Json
import PumpLaunchTrader.Lib.Lines
import PumpLaunchTrader.Model.Event

/-! # Record logs as lines of JSON (`storage`)

A log is appended line by line and read back as a whole or filtered by run and scenario. How
a timestamp and the record itself are written and read is left open. -/

namespace PumpLaunchTrader

namespace Jsonl

inductive DatasetKind where
  | rawEventLog | normalizedEventLog | tokenSummary | tokenFeatureSnapshots | riskSnapshots
  | walletSummary | tradeDecisions | simulatedFills | liveFills | backtestRuns
  | runtimeAuditLog | runMetadata
  deriving DecidableEq, Repr

structure StoredRecord (T : Type) where
  schemaVersion : UInt32
  configHash : String
  idlHash : String
  strategyVersion : Option String
  runId : Option String
  scenarioId : Option String
  runtimeSequenceNumber : Option UInt64
  sourceEventId : Option String
  triggerEventId : Option String
  calibrationSnapshotHash : Option String
  deterministicReplayHash : Option String
  replayEquivalenceGroupId : Option String
  source : String
  canonicality : String
  noLookaheadTimestamp : Option OffsetDateTime
  dataset : DatasetKind
  record : T
  deriving DecidableEq, Repr

/-- `Serialize` and `Deserialize` of timestamps and of the record. -/
structure RecordFormats (T : Type) where
  time : OffsetDateTime → Json.Value
  readTime : Json.Value → Option OffsetDateTime
  record : T → Json.Value
  readRecord : Json.Value → Option T

variable {T : Type} (formats : RecordFormats T)

/-! ## Serialization -/

/-- The variants of `DatasetKind` under their `snake_case` names. -/
def DatasetKind.name : DatasetKind → String
  | .rawEventLog => "raw_event_log"
  | .normalizedEventLog => "normalized_event_log"
  | .tokenSummary => "token_summary"
  | .tokenFeatureSnapshots => "token_feature_snapshots"
  | .riskSnapshots => "risk_snapshots"
  | .walletSummary => "wallet_summary"
  | .tradeDecisions => "trade_decisions"
  | .simulatedFills => "simulated_fills"
  | .liveFills => "live_fills"
  | .backtestRuns => "backtest_runs"
  | .runtimeAuditLog => "runtime_audit_log"
  | .runMetadata => "run_metadata"

def optionToJson {α : Type} (toJson : α → Json.Value) : Option α → Json.Value
  | none => .null
  | some value => toJson value

/-- The fields of a stored record in the order of their declaration. -/
def StoredRecord.fields (self : StoredRecord T) : List (String × Json.Value) :=
  [("schema_version", .number (.ofNat self.schemaVersion.toNat)),
    ("config_hash", .string self.configHash),
    ("idl_hash", .string self.idlHash),
    ("strategy_version", optionToJson .string self.strategyVersion),
    ("run_id", optionToJson .string self.runId),
    ("scenario_id", optionToJson .string self.scenarioId),
    ("runtime_sequence_number",
      optionToJson (fun number => .number (.ofNat number.toNat)) self.runtimeSequenceNumber),
    ("source_event_id", optionToJson .string self.sourceEventId),
    ("trigger_event_id", optionToJson .string self.triggerEventId),
    ("calibration_snapshot_hash", optionToJson .string self.calibrationSnapshotHash),
    ("deterministic_replay_hash", optionToJson .string self.deterministicReplayHash),
    ("replay_equivalence_group_id", optionToJson .string self.replayEquivalenceGroupId),
    ("source", .string self.source),
    ("canonicality", .string self.canonicality),
    ("no_lookahead_timestamp", optionToJson formats.time self.noLookaheadTimestamp),
    ("dataset", .string self.dataset.name),
    ("record", formats.record self.record)]

/-- `serde_json::to_vec` of a stored record, as a text. -/
def StoredRecord.toJson (self : StoredRecord T) : String :=
  String.ofList (Json.write (.object (self.fields formats)))

/-! ## Deserialization -/

def fieldNames : List String :=
  ["schema_version", "config_hash", "idl_hash", "strategy_version", "run_id", "scenario_id",
    "runtime_sequence_number", "source_event_id", "trigger_event_id",
    "calibration_snapshot_hash", "deterministic_replay_hash", "replay_equivalence_group_id",
    "source", "canonicality", "no_lookahead_timestamp", "dataset", "record"]

/-- The fields of a struct: an object, or an array of all of them in order. -/
def structFields : Json.Value → Option (List (String × Json.Value))
  | .object fields => some fields
  | .array items =>
    if items.length = fieldNames.length then some (fieldNames.zip items) else none
  | _ => none

/-- The value of a field, if it is there; a repeated field is an error. -/
def lookupField (fields : List (String × Json.Value)) (name : String) :
    Option (Option Json.Value) :=
  match fields.filter fun field => field.1 = name with
  | [] => some none
  | [field] => some (some field.2)
  | _ => none

def required {α : Type} (fields : List (String × Json.Value)) (name : String)
    (read : Json.Value → Option α) : Option α := do
  let value ← lookupField fields name
  value.bind read

def readOption {α : Type} (read : Json.Value → Option α) : Json.Value → Option (Option α)
  | .null => some none
  | value => (read value).map some

/-- A field of type `Option`, which may be missing. -/
def optional {α : Type} (fields : List (String × Json.Value)) (name : String)
    (read : Json.Value → Option α) : Option (Option α) := do
  match ← lookupField fields name with
  | none => some none
  | some value => readOption read value

def readText : Json.Value → Option String
  | .string text => some text
  | _ => none

def readU32 : Json.Value → Option UInt32
  | .number number => number.toNat?.bind fun n =>
    if n < 2 ^ 32 then some (UInt32.ofNat n) else none
  | _ => none

def readU64 : Json.Value → Option UInt64
  | .number number => number.toNat?.bind fun n =>
    if n < 2 ^ 64 then some (UInt64.ofNat n) else none
  | _ => none

def datasetKinds : List DatasetKind :=
  [.rawEventLog, .normalizedEventLog, .tokenSummary, .tokenFeatureSnapshots, .riskSnapshots,
    .walletSummary, .tradeDecisions, .simulatedFills, .liveFills, .backtestRuns,
    .runtimeAuditLog, .runMetadata]

/-- A unit variant is its name, or an object from its name to null. -/
def readDataset : Json.Value → Option DatasetKind
  | .string name => datasetKinds.find? fun kind => kind.name = name
  | .object [(name, .null)] => datasetKinds.find? fun kind => kind.name = name
  | _ => none

def StoredRecord.ofFields (fields : List (String × Json.Value)) : Option (StoredRecord T) := do
  let schemaVersion ← required fields "schema_version" readU32
  let configHash ← required fields "config_hash" readText
  let idlHash ← required fields "idl_hash" readText
  let strategyVersion ← optional fields "strategy_version" readText
  let runId ← optional fields "run_id" readText
  let scenarioId ← optional fields "scenario_id" readText
  let runtimeSequenceNumber ← optional fields "runtime_sequence_number" readU64
  let sourceEventId ← optional fields "source_event_id" readText
  let triggerEventId ← optional fields "trigger_event_id" readText
  let calibrationSnapshotHash ← optional fields "calibration_snapshot_hash" readText
  let deterministicReplayHash ← optional fields "deterministic_replay_hash" readText
  let replayEquivalenceGroupId ← optional fields "replay_equivalence_group_id" readText
  let source ← required fields "source" readText
  let canonicality ← required fields "canonicality" readText
  let noLookaheadTimestamp ← optional fields "no_lookahead_timestamp" formats.readTime
  let dataset ← required fields "dataset" readDataset
  let record ← required fields "record" formats.readRecord
  some
    { schemaVersion := schemaVersion
      configHash := configHash
      idlHash := idlHash
      strategyVersion := strategyVersion
      runId := runId
      scenarioId := scenarioId
      runtimeSequenceNumber := runtimeSequenceNumber
      sourceEventId := sourceEventId
      triggerEventId := triggerEventId
      calibrationSnapshotHash := calibrationSnapshotHash
      deterministicReplayHash := deterministicReplayHash
      replayEquivalenceGroupId := replayEquivalenceGroupId
      source := source
      canonicality := canonicality
      noLookaheadTimestamp := noLookaheadTimestamp
      dataset := dataset
      record := record }

/-- The arrays and objects that `serde_json` reads within each other. -/
def maxNesting : ℕ := 127

/-- `serde_json::from_str::<StoredRecord<T>>`. -/
def StoredRecord.fromJson (line : String) : Option (StoredRecord T) := do
  let value ← Json.parse maxNesting line.toList
  let fields ← structFields value
  StoredRecord.ofFields formats fields

/-! ## Files -/

def newline : UInt8 := 10

/-- A line without the carriage return before its end. -/
def stripReturn (line : List UInt8) : List UInt8 :=
  if line.getLast? = some 13 then line.dropLast else line

/-- The lines that `BufRead::lines` yields, before they are decoded. -/
def bufLines (content : List UInt8) : List (List UInt8) :=
  let pieces := content.splitOn newline
  pieces.dropLast.map stripReturn ++
    (pieces.getLast?.toList.filter fun piece => !piece.isEmpty)

def decodeLine (line : List UInt8) : Option String := String.fromUTF8? ⟨line.toArray⟩

/-- The lines of a file; one that is no UTF-8 is an error. -/
def readLines (content : List UInt8) : Option (List String) :=
  (bufLines content).mapM decodeLine

/-- `append_jsonl`, to the content of a file. -/
def appendJsonl (content : List UInt8) (record : StoredRecord T) : List UInt8 :=
  content ++ (record.toJson formats).toUTF8.data.toList ++ [newline]

def isBlank (line : String) : Bool := (trimText line).isEmpty

/-- `read_jsonl` of stored records, from the content of a file that may not exist. -/
def readJsonl : Option (List UInt8) → Option (List (StoredRecord T))
  | none => some []
  | some content => (readLines content).map fun lines =>
    lines.filterMap fun line =>
      if isBlank line then none else StoredRecord.fromJson formats line

/-- `str::contains` of a text. -/
def containsText (line text : String) : Bool := text.toList <:+: line.toList

/-- `run_hint` and `scenario_hint`. -/
def hint (name value : String) : String :=
  "\"" ++ name ++ "\":" ++ String.ofList (Json.writeString value)

/-- Whether a line is parsed at all, for one of the two options. -/
def passesHint (name : String) (wanted : Option String) (line : String) : Bool :=
  match wanted with
  | none => true
  | some value => containsText line (hint name value) || containsText line value

/-- Whether a record is kept, for one of the two options. -/
def keeps (wanted actual : Option String) : Bool := wanted.isNone || actual = wanted

/-- `read_stored_jsonl_filtered`. -/
def readStoredJsonlFiltered (file : Option (List UInt8)) (runId scenarioId : Option String) :
    Option (List (StoredRecord T)) :=
  if runId.isNone ∧ scenarioId.isNone then readJsonl formats file
  else
    match file with
    | none => some []
    | some content => (readLines content).map fun lines =>
      lines.filterMap fun line =>
        if isBlank line then none
        else if !passesHint "run_id" runId line then none
        else if !passesHint "scenario_id" scenarioId line then none
        else (StoredRecord.fromJson formats line).filter fun row =>
          keeps runId row.runId && keeps scenarioId row.scenarioId

/-- `filter_records`. -/
def filterRecords (records : List (StoredRecord T)) (runId scenarioId : Option String) :
    List (StoredRecord T) :=
  let records :=
    match runId with
    | some runId => records.filter fun record => record.runId = some runId
    | none => records
  match scenarioId with
  | some scenarioId => records.filter fun record => record.scenarioId = some scenarioId
  | none => records

end Jsonl

end PumpLaunchTrader
