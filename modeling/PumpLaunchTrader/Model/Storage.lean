import PumpLaunchTrader.Model.Event
import Mathlib.Data.List.Sort
import Mathlib.Data.List.Dedup

/-! # The normalized event log (`storage`)

A stored record keeps the columns by which the log is filtered and ordered. -/

namespace PumpLaunchTrader

structure StoredRecord where
  runId : Option String := none
  scenarioId : Option String := none
  runtimeSequenceNumber : Option ℕ := none
  noLookaheadTimestamp : Option OffsetDateTime
  record : NormalizedEvent
  deriving DecidableEq, Repr

inductive RunStatus where
  | running | completed | failed | interrupted
  deriving DecidableEq, Repr

structure RunMetadata where
  runId : String
  status : RunStatus
  createdAtWallTime : OffsetDateTime
  completedAtWallTime : Option OffsetDateTime
  deriving DecidableEq, Repr

/-- `run_wall_clock`. -/
def RunMetadata.wallClock (self : RunMetadata) : OffsetDateTime :=
  self.completedAtWallTime.getD self.createdAtWallTime

/-- The log, and the latest metadata of each run. -/
structure StorageEngine where
  normalizedEventLog : List StoredRecord := []
  runs : List RunMetadata := []

/-! ## Exports -/

/-- The condition of `csv_field`: a comma, a quote or a line feed. -/
def needsQuotes (value : String) : Bool :=
  ',' ∈ value.toList ∨ '"' ∈ value.toList ∨ '\n' ∈ value.toList

/-- `value.replace('"', "\"\"")`. -/
def doubleQuotes (value : String) : String :=
  String.ofList (value.toList.flatMap fun c => if c = '"' then ['"', '"'] else [c])

/-- `csv_field`. -/
def csvField (value : String) : String :=
  if needsQuotes value then "\"" ++ doubleQuotes value ++ "\"" else value

/-- The line that `write_csv_row` appends. -/
def writeCsvRow (row : List String) : String :=
  ",".intercalate (row.map csvField) ++ "\n"

/-- The text of an exported file, row by row. -/
def csvText (rows : List (List String)) : String := String.join (rows.map writeCsvRow)

/-! ## The log -/

/-- The order of stored records by runtime sequence number, then event id. -/
def compareBySequence (left right : StoredRecord) : Ordering :=
  (compare left.runtimeSequenceNumber right.runtimeSequenceNumber).then
    (compare left.record.info.eventId.uuid right.record.info.eventId.uuid)

/-- The order of stored records by timestamp, slot and event id. -/
def compareByTimestamp (left right : StoredRecord) : Ordering :=
  ((compare left.noLookaheadTimestamp right.noLookaheadTimestamp).then
    (compare left.record.info.slot right.record.info.slot)).then
    (compare left.record.info.eventId.uuid right.record.info.eventId.uuid)

/-- The entry of a maximal key, the last of several. -/
def maxBy {α : Type} (compareKeys : α → α → Ordering) : List α → Option α
  | [] => none
  | first :: rest =>
    some (rest.foldl
      (fun best next => if compareKeys best next = .gt then best else next) first)

namespace StorageEngine

/-- `StorageEngine::append_normalized_event`. -/
def appendNormalizedEvent (self : StorageEngine) (record : StoredRecord) : StorageEngine :=
  { self with normalizedEventLog := self.normalizedEventLog ++ [record] }

/-- `StorageEngine::read_normalized_events_filtered`. -/
def readNormalizedEventsFiltered (self : StorageEngine) (runId scenarioId : Option String) :
    List StoredRecord :=
  self.normalizedEventLog.filter fun record =>
    (runId.isNone ∨ record.runId = runId) ∧ (scenarioId.isNone ∨ record.scenarioId = scenarioId)

/-- `StorageEngine::deterministic_replay_for_run_and_scenario`. -/
def deterministicReplayForRunAndScenario (self : StorageEngine)
    (runId scenarioId : Option String) : List StoredRecord :=
  let events := (self.readNormalizedEventsFiltered runId scenarioId).filter fun record =>
    record.record.isReplaySourceEvent
  if events.all fun record => record.runtimeSequenceNumber.isSome then
    events.insertionSort fun left right => (compareBySequence left right).isLE
  else events.insertionSort fun left right => (compareByTimestamp left right).isLE

/-- `StorageEngine::latest_normalized_event_run_id`: the latest completed run of the log,
else the run of its latest event. -/
def latestNormalizedEventRunId (self : StorageEngine) : Option String :=
  let eventRunIds := self.normalizedEventLog.filterMap StoredRecord.runId
  let completed := self.runs.filter fun run =>
    run.status = .completed ∧ run.runId ∈ eventRunIds
  match maxBy (fun left right =>
      (compare left.wallClock right.wallClock).then (compare left.runId right.runId))
      completed with
  | some run => some run.runId
  | none =>
    let stamped : List (OffsetDateTime × String) := self.normalizedEventLog.filterMap fun record =>
      record.runId.map fun runId => (record.noLookaheadTimestamp.getD unixEpoch, runId)
    (maxBy (fun left right => (compare left.1 right.1).then (compare left.2 right.2))
      stamped).map Prod.snd

end StorageEngine

end PumpLaunchTrader
