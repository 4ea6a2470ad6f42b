import PumpLaunchTrader.Lib.KeyedMap
import PumpLaunchTrader.Lib.Digits
import PumpLaunchTrader.Model.Math

/-! # Chunked feature snapshots (`storage`)

The chunk files of one directory, and the writer that a process keeps for it. A file is the
list of the snapshots in it; the writer's buffer is lost with the process. The store has a
directory for each run and scenario. -/

namespace PumpLaunchTrader

/-! ## File names -/

/-- What follows the index in the name of a chunk file: it is being written, or finalized with
or without compression. -/
inductive ChunkSuffix where
  | inProgress | plain | compressed
  deriving DecidableEq, Repr

def ChunkSuffix.text : ChunkSuffix → String
  | .inProgress => ".jsonl.open"
  | .plain => ".jsonl"
  | .compressed => ".jsonl.zst"

def chunkPrefix : String := "feature_snapshots_"

/-- The index has at least five digits: `{chunk_index:05}`. -/
def chunkFileName (chunkIndex : ℕ) (suffix : ChunkSuffix) : String :=
  chunkPrefix ++ Labels.zeroPadded 5 chunkIndex ++ suffix.text

/-- `parse_feature_chunk_index`: exactly five digits behind the prefix. -/
def parseFeatureChunkIndex (name : String) : Option ℕ :=
  if chunkPrefix.toList <+: name.toList then
    let digits := (name.toList.drop chunkPrefix.length).take 5
    if digits.length = 5 ∧ digits.all Char.isDigit then some (Nat.ofDigitChars 10 digits 0)
    else none
  else none

/-- `name.ends_with(".jsonl.open")`. -/
def endsWithOpen (name : String) : Bool := ChunkSuffix.inProgress.text.toList <:+ name.toList

/-! ## Files and writers -/

/-- The part of `ResearchWorkerPersistenceConfig` that chunks depend on. -/
structure ChunkConfig where
  featureSnapshotChunkRows : ℕ
  featureSnapshotCompress : Bool
  featureSnapshotFormat : String
  deriving DecidableEq, Repr

/-- The rows of a full chunk. -/
def ChunkConfig.chunkRows (self : ChunkConfig) : ℕ := max self.featureSnapshotChunkRows 1

def ChunkConfig.compress (self : ChunkConfig) : Bool :=
  self.featureSnapshotCompress || (trimText self.featureSnapshotFormat).toLower = "jsonl.zst"

def ChunkConfig.finalSuffix (self : ChunkConfig) : ChunkSuffix :=
  if self.compress then .compressed else .plain

structure FeatureSnapshotChunkWriter (α : Type) where
  openPath : String
  chunkIndex : ℕ
  rowCount : ℕ
  buffered : List α
  deriving DecidableEq, Repr

/-- The chunk files of a directory, and the writer of the running process. -/
structure ChunkDir (α : Type) where
  files : KeyedMap String (List α) := ∅
  writer : Option (FeatureSnapshotChunkWriter α) := none

/-- `next_feature_snapshot_chunk_index`. -/
def nextFeatureSnapshotChunkIndex {α : Type} (files : KeyedMap String (List α)) : ℕ :=
  (files.keys.filterMap parseFeatureChunkIndex).foldl max 0 + 1

section Writing

variable {α : Type}

/-- Appending to a file that is open for writing. -/
def appendRows (files : KeyedMap String (List α)) (path : String) (rows : List α) :
    KeyedMap String (List α) :=
  files.adjust path (· ++ rows)

/-- `finalize_feature_chunk_file`: the file under its final name replaces what is there. -/
def finalizeFeatureChunkFile (config : ChunkConfig) (files : KeyedMap String (List α))
    (chunkIndex : ℕ) (openPath : String) : KeyedMap String (List α) :=
  match files.lookup openPath with
  | none => files
  | some rows =>
    (files.erase openPath).insert (chunkFileName chunkIndex config.finalSuffix) rows

/-- `finalize_feature_chunk_writer`. -/
def finalizeFeatureChunkWriter (config : ChunkConfig) (files : KeyedMap String (List α))
    (writer : FeatureSnapshotChunkWriter α) : KeyedMap String (List α) :=
  finalizeFeatureChunkFile config (appendRows files writer.openPath writer.buffered)
    writer.chunkIndex writer.openPath

/-- An open file that is found in the directory is finalized under the index in its name. -/
def finalizeOpenFile (config : ChunkConfig) (files : KeyedMap String (List α)) (name : String) :
    KeyedMap String (List α) :=
  match parseFeatureChunkIndex name with
  | none => files
  | some chunkIndex => finalizeFeatureChunkFile config files chunkIndex name

/-- The capacity of a `BufWriter`. -/
def bufferCapacity : ℕ := 8192

namespace ChunkDir

/-- The writer of the directory is finalized, if there is one. -/
def finalizeWriter (dir : ChunkDir α) (config : ChunkConfig) : ChunkDir α :=
  match dir.writer with
  | none => dir
  | some writer => { files := finalizeFeatureChunkWriter config dir.files writer, writer := none }

/-- A writer whose chunk is full is finalized. -/
def finalizeFull (dir : ChunkDir α) (config : ChunkConfig) : ChunkDir α :=
  match dir.writer with
  | none => dir
  | some writer => if config.chunkRows ≤ writer.rowCount then dir.finalizeWriter config else dir

/-- A new writer, if there is none: `FeatureSnapshotChunkWriter::new`. -/
def ensureWriter (dir : ChunkDir α) : ChunkDir α :=
  match dir.writer with
  | some _ => dir
  | none =>
    let chunkIndex := nextFeatureSnapshotChunkIndex dir.files
    let openPath := chunkFileName chunkIndex .inProgress
    { files := dir.files.upsert openPath [] id
      writer := some
        { openPath := openPath
          chunkIndex := chunkIndex
          rowCount := 0
          buffered := [] } }

/-- `write_all` of a row to the buffered writer: what does not fit any more is written out
first, and a row as large as the buffer is written past it. -/
def writeRow (size : α → ℕ) (dir : ChunkDir α) (row : α) : ChunkDir α :=
  match dir.writer with
  | none => dir
  | some writer =>
    let spare := bufferCapacity - (writer.buffered.map size).sum
    let flushed : KeyedMap String (List α) × List α :=
      if spare < size row then
        (appendRows dir.files writer.openPath writer.buffered, [])
      else (dir.files, writer.buffered)
    let written : KeyedMap String (List α) × List α :=
      if bufferCapacity ≤ size row then
        (appendRows flushed.1 writer.openPath [row], flushed.2)
      else (flushed.1, flushed.2 ++ [row])
    { files := written.1
      writer := some
        { writer with
          rowCount := writer.rowCount + 1
          buffered := written.2 } }

/-- `write_feature_snapshot_chunked`. -/
def writeFeatureSnapshotChunked (size : α → ℕ) (dir : ChunkDir α) (config : ChunkConfig)
    (row : α) : ChunkDir α :=
  ((dir.finalizeFull config).ensureWriter).writeRow size row

/-- `finalize_open_feature_chunks_in_dir`. -/
def finalizeOpenFeatureChunksInDir (dir : ChunkDir α) (config : ChunkConfig) : ChunkDir α :=
  { dir with
    files := (dir.files.keys.filter endsWithOpen).foldl (finalizeOpenFile config) dir.files }

/-- `finalize_feature_snapshot_chunks_for_run`, for a run and scenario of this directory. The
open files of a directory with subdirectories are not visited if no scenario is given. -/
def finalizeFeatureSnapshotChunksForRun (dir : ChunkDir α) (config : ChunkConfig)
    (visited : Bool) : ChunkDir α :=
  if visited then (dir.finalizeWriter config).finalizeOpenFeatureChunksInDir config
  else dir.finalizeWriter config

end ChunkDir

/-- What happens to a directory; a restart ends the process with its writers. -/
inductive ChunkStep (α : Type) where
  | write (config : ChunkConfig) (row : α)
  | finalize (config : ChunkConfig) (visited : Bool)
  | restart
  deriving DecidableEq, Repr

def ChunkDir.step (size : α → ℕ) (dir : ChunkDir α) : ChunkStep α → ChunkDir α
  | .write config row => dir.writeFeatureSnapshotChunked size config row
  | .finalize config visited => dir.finalizeFeatureSnapshotChunksForRun config visited
  | .restart => { dir with writer := none }

end Writing

/-! ## Reading the chunks -/

/-- `str::ends_with`. -/
def textEndsWith (text stem : String) : Bool := stem.toList <:+ text.toList

/-- `is_ignored_artifact_path`. -/
def isIgnoredArtifactPath (name : String) : Bool :=
  name ∈ [".DS_Store", "Thumbs.db", ".Spotlight-V100", ".fseventsd", "__MACOSX"] ||
    ["~", ".swp", ".swo", ".tmp"].any fun stem => textEndsWith name stem

/-- `is_feature_snapshot_chunk_file`. -/
def isFeatureSnapshotChunkFile (name : String) : Bool :=
  chunkPrefix.toList.isPrefixOf name.toList &&
    (textEndsWith name ".jsonl" || textEndsWith name ".jsonl.zst")

def chunkManifestName : String := "feature_snapshot_chunks_manifest.json"

structure FeatureSnapshotChunkManifestEntry where
  path : String
  chunkIndex : ℕ
  rowCount : ℕ
  compression : String
  deriving DecidableEq, Repr

structure FeatureSnapshotChunkManifest where
  totalRows : ℕ
  chunks : List FeatureSnapshotChunkManifestEntry
  deriving DecidableEq, Repr

section Reading

variable {α : Type}

/-- `read_feature_snapshot_dir` on a file. -/
def readFeatureSnapshotFile (name : String) (rows : List α) : List α :=
  if isIgnoredArtifactPath name then []
  else if name = chunkManifestName ∨ textEndsWith name ".open" then []
  else if isFeatureSnapshotChunkFile name then rows
  else []

/-- `read_feature_snapshot_dir` on a directory of chunks. -/
def ChunkDir.readFeatureSnapshotDir (dir : ChunkDir α) : List α :=
  dir.files.entries.flatMap fun file => readFeatureSnapshotFile file.1 file.2

/-- The entry of a chunk file in `write_feature_snapshot_chunk_manifest`. -/
def chunkManifestEntry (name : String) (rows : List α) : FeatureSnapshotChunkManifestEntry :=
  { path := name
    chunkIndex := (parseFeatureChunkIndex name).getD 0
    rowCount := rows.length
    compression := if textEndsWith name ".zst" then "zstd" else "none" }

/-- `write_feature_snapshot_chunk_manifest`. -/
def ChunkDir.featureSnapshotChunkManifest (dir : ChunkDir α) : FeatureSnapshotChunkManifest :=
  let chunks := (dir.files.entries.filter fun file => isFeatureSnapshotChunkFile file.1).map
    fun file => chunkManifestEntry file.1 file.2
  let entries := chunks.insertionSort fun left right => left.chunkIndex ≤ right.chunkIndex
  { totalRows := (entries.map fun entry => entry.rowCount).sum
    chunks := entries }

/-! ## The store -/

/-- A `StoredRecord<FeatureSnapshot>`, with what it is filed and read by. -/
structure StoredFeatureSnapshot (α : Type) where
  runId : Option String := none
  scenarioId : Option String := none
  observedAt : OffsetDateTime
  record : α
  deriving DecidableEq, Repr

/-- The directory of a snapshot, by its names for the run and for the scenario. -/
def StoredFeatureSnapshot.directory (self : StoredFeatureSnapshot α) : String × String :=
  (self.runId.getD "_legacy", self.scenarioId.getD "_all")

/-- The chunks of all runs and scenarios. -/
abbrev FeatureSnapshotStore (α : Type) :=
  KeyedMap (String × String) (ChunkDir (StoredFeatureSnapshot α))

/-- What happens to the store. -/
inductive FeatureStoreStep (α : Type) where
  | write (config : ChunkConfig) (record : StoredFeatureSnapshot α)
  | finalize (config : ChunkConfig) (runId : String) (scenarioId : Option String)
  | restart
  deriving DecidableEq, Repr

/-- The directories that finalizing a run, or one scenario of it, visits. -/
def visitsDirectory (runId : String) (scenarioId : Option String)
    (directory : String × String) : Bool :=
  directory.1 = runId && scenarioId.all (directory.2 = ·)

namespace FeatureSnapshotStore

def step (size : StoredFeatureSnapshot α → ℕ) (self : FeatureSnapshotStore α) :
    FeatureStoreStep α → FeatureSnapshotStore α
  | .write config record =>
    self.upsert record.directory {} (·.writeFeatureSnapshotChunked size config record)
  | .finalize config runId scenarioId =>
    self.mapValues fun directory dir =>
      if visitsDirectory runId scenarioId directory then
        dir.finalizeFeatureSnapshotChunksForRun config true
      else dir
  | .restart => self.mapValues fun _ dir => dir.step size .restart

/-- `read_feature_snapshot_dir` on the directories that a test selects. -/
def readDirectories (self : FeatureSnapshotStore α) (selects : String × String → Bool) :
    List (StoredFeatureSnapshot α) :=
  self.entries.flatMap fun entry =>
    if selects entry.1 then entry.2.readFeatureSnapshotDir else []

/-- Snapshots in the order of their times. -/
def sortByObservedAt (records : List (StoredFeatureSnapshot α)) :
    List (StoredFeatureSnapshot α) :=
  records.insertionSort fun left right => left.observedAt ≤ right.observedAt

/-- `StorageEngine::read_all_feature_snapshots`. -/
def readAllFeatureSnapshots (self : FeatureSnapshotStore α) : List (StoredFeatureSnapshot α) :=
  sortByObservedAt (self.readDirectories fun directory =>
    !isIgnoredArtifactPath directory.1 && !isIgnoredArtifactPath directory.2)

/-- `StorageEngine::read_feature_snapshots_filtered`. Without a run the scenario is not
looked at. -/
def readFeatureSnapshotsFiltered (self : FeatureSnapshotStore α)
    (runId scenarioId : Option String) : List (StoredFeatureSnapshot α) :=
  match runId with
  | none => self.readAllFeatureSnapshots
  | some runId =>
    let out :=
      match scenarioId with
      | some scenarioId =>
        ((self.lookup (runId, scenarioId)).map ChunkDir.readFeatureSnapshotDir).getD []
      | none => self.readDirectories fun directory =>
          directory.1 = runId && !isIgnoredArtifactPath directory.2
    sortByObservedAt (out.filter fun record =>
      record.runId = some runId && scenarioId.all (record.scenarioId = some ·))

end FeatureSnapshotStore

end Reading

end PumpLaunchTrader
