import PumpLaunchTrader.Lib.KeyedMap
import PumpLaunchTrader.Lib.PythonText
import Mathlib.Data.List.Infix
import Mathlib.Data.List.Sort

/-! # Storage garbage collection (`scripts/local_r2_primary_storage_gc.py`)

A run directory is assessed by the status files in it. The bulk of the runs that are safe to
delete is removed. -/

namespace PumpLaunchTrader.StorageGc

/-! ## Values of a status file -/

/-- What `json.loads` makes of a text. -/
inductive PyJson where
  | null
  | bool (value : Bool)
  | int (value : ℤ)
  | float (value : Float)
  | str (value : String)
  | list (items : List PyJson)
  | dict (items : List (String × PyJson))

namespace PyJson

def truthy : PyJson → Bool
  | null => false
  | bool value => value
  | int value => value ≠ 0
  | float value => !(value == 0)
  | str value => value ≠ ""
  | list items => !items.isEmpty
  | dict items => !items.isEmpty

/-- `value is True`. -/
def isTrue : PyJson → Bool
  | bool value => value
  | _ => false

/-- `value is None`. -/
def isNone : PyJson → Bool
  | null => true
  | _ => false

/-- `value == 0`. -/
def eqZero : PyJson → Bool
  | bool value => !value
  | int value => value = 0
  | float value => value == 0
  | _ => false

/-- `value == text`. -/
def eqText (text : String) : PyJson → Bool
  | str value => value = text
  | _ => false

/-- `value.get(key)`, which only an object has. -/
def get (key : String) : PyJson → Option PyJson
  | dict items => some ((items.lookup key).getD null)
  | _ => none

/-- `value or []`. -/
def orEmpty (value : PyJson) : PyJson := if value.truthy then value else list []

/-- `len(value)`, unless it raises. -/
def len : PyJson → Option ℕ
  | str value => some value.length
  | list items => some items.length
  | dict items => some items.length
  | _ => none

/-- What an iteration yields, unless it raises. -/
def iterate : PyJson → Option (List PyJson)
  | str value => some (value.toList.map fun c => str (String.singleton c))
  | list items => some items
  | dict items => some (items.map fun item => str item.1)
  | _ => none

/-- `safe_int`: what does not read as a number is 0; an infinity raises. -/
def safeInt : PyJson → Option ℤ
  | int value => truncateText (toString value)
  | float value => if value.isNaN then some 0 else Python.truncate value
  | str value => truncateText value
  | _ => some 0
where
  truncateText (text : String) : Option ℤ :=
    match Python.float text with
    | none => some 0
    | some value => if value.isNaN then some 0 else Python.truncate value

end PyJson

/-! ## Directory trees -/

/-- The parts of an absolute path. -/
abbrev Path := List String

def name (path : Path) : String := path.getLastD ""

/-- A file is its size and what `json.loads` makes of its text. -/
inductive Node where
  | directory
  | file (bytes : ℕ) (json : Option PyJson)

namespace Node

def isDir : Node → Bool
  | directory => true
  | file _ _ => false

def bytes : Node → ℕ
  | directory => 0
  | file bytes _ => bytes

end Node

/-- What lies in a directory tree lies in its directories. -/
structure Tree where
  nodes : KeyedMap Path Node
  parents : ∀ path ∈ nodes.keys, ∀ parent ∈ path.inits, parent ≠ path →
    (nodes.lookup parent).any Node.isDir

namespace Tree

variable (tree : Tree)

def lookup (path : Path) : Option Node := tree.nodes.lookup path

def exists? (path : Path) : Bool := (tree.lookup path).isSome

def isDir (path : Path) : Bool := (tree.lookup path).any Node.isDir

/-- What lies at a path or below it. -/
def under (path : Path) : List (Path × Node) :=
  (tree.nodes.entries.map fun entry => (entry.1, entry.2)).filter fun entry => path <+: entry.1

def treeSize (path : Path) : ℕ := ((tree.under path).map fun entry => entry.2.bytes).sum

def fileCount (path : Path) : ℕ := (tree.under path).countP fun entry => !entry.2.isDir

/-- `iterdir`, sorted. -/
def children (path : Path) : List Path :=
  (tree.nodes.keys.filter fun child => path <+: child ∧ child.length = path.length + 1).mergeSort
    fun first second => name first ≤ name second

theorem isDir_of_parent {path parent : Path} {node : Node} (h : tree.lookup path = some node)
    (hparent : parent <+: path) (hne : parent ≠ path) : tree.isDir parent := by
  have hmem : path ∈ tree.nodes.keys :=
    AList.mem_keys.mpr (AList.lookup_isSome.mp (by rw [← Tree.lookup, h]; rfl))
  exact tree.parents path hmem parent ((List.mem_inits parent path).mpr hparent) hne

/-- The nodes that are left when those of some paths are gone. -/
def without (gone : Path → Bool) : KeyedMap Path Node :=
  (tree.nodes.keys.filter gone).foldl (fun nodes path => nodes.erase path) tree.nodes

theorem lookup_without (gone : Path → Bool) (path : Path) :
    (tree.without gone).lookup path = if gone path then none else tree.lookup path := by
  rw [without, KeyedMap.lookup_foldl_erase]
  by_cases hmem : path ∈ tree.nodes.keys
  · simp [hmem, Tree.lookup]
  · have hnone : tree.nodes.lookup path = none := AList.lookup_eq_none.mpr hmem
    simp [hmem, hnone, Tree.lookup]

/-- Nodes may go where nothing is left behind in them. -/
theorem parents_without (gone : Path → Bool)
    (hgone : ∀ path parent : Path, gone parent → parent <+: path → tree.exists? path → gone path) :
    ∀ path ∈ (tree.without gone).keys, ∀ parent ∈ path.inits, parent ≠ path →
      ((tree.without gone).lookup parent).any Node.isDir := by
  intro path hpath parent hparent hne
  have hsome := AList.lookup_isSome.mpr (AList.mem_keys.mp hpath)
  rw [lookup_without] at hsome
  cases hkept : gone path with
  | true => simp [hkept] at hsome
  | false =>
      simp only [hkept, Bool.false_eq_true, if_false] at hsome
      obtain ⟨node, hnode⟩ := Option.isSome_iff_exists.mp hsome
      have hbelow := (List.mem_inits parent path).mp hparent
      have hstays : gone parent = false := by
        by_contra h
        have := hgone path parent (by simpa using h) hbelow hsome
        simp [hkept] at this
      rw [lookup_without, hstays]
      exact tree.isDir_of_parent hnode hbelow hne

/-- `shutil.rmtree`. -/
def rmtree (path : Path) : Tree where
  nodes := tree.without fun other => path <+: other
  parents := tree.parents_without _ fun other parent hparent hbelow _ => by
    simp only [decide_eq_true_eq] at hparent ⊢
    exact hparent.trans hbelow

/-- `unlink`, of what is not a directory. -/
def unlink (path : Path) (hfile : tree.isDir path = false) : Tree where
  nodes := tree.without fun other => path = other
  parents := tree.parents_without _ fun other parent hparent hbelow hexists => by
    simp only [decide_eq_true_eq] at hparent ⊢
    subst hparent
    by_contra hne
    obtain ⟨node, hnode⟩ := Option.isSome_iff_exists.mp hexists
    rw [tree.isDir_of_parent hnode hbelow hne] at hfile
    cases hfile

/-- `read_json`. -/
def readJson (path : Path) : PyJson :=
  match tree.lookup path with
  | none => .dict []
  | some (.file _ (some json)) => json
  | some _ => .dict [("_parse_error", .str "")]

end Tree

/-! ## Status readers -/

structure R2Status where
  present : Bool
  verified : Bool
  verificationSource : String
  failedFiles : ℕ
  uploadedFiles : ℕ
  phasePrefix : PyJson

structure RetentionStatus where
  present : Bool
  ok : Bool
  r2Verified : Bool
  deletedBulkBytes : ℤ
  localRetainedBytes : ℤ

structure ServiceStatus where
  serviceExitStatusPresent : Bool
  localCollectorSummaryPresent : Bool
  completed : Bool
  serviceExitReason : PyJson
  hunterExitStatus : PyJson

structure IntegrityStatus where
  sequenceGapCount : ℤ
  hashMismatchCount : ℤ
  malformedFrameCount : ℤ
  receiverBackpressureCount : ℤ
  receiverUnavailableCount : ℤ

def IntegrityStatus.clean (metrics : IntegrityStatus) : Bool :=
  metrics.sequenceGapCount = 0 && metrics.hashMismatchCount = 0 &&
    metrics.malformedFrameCount = 0 && metrics.receiverBackpressureCount = 0 &&
    metrics.receiverUnavailableCount = 0

structure ArtifactStatus where
  present : Option Bool
  ok : Bool
  blockers : PyJson
  source : String
  validatorReturncode : Option ℤ := none
  legacyValidatorBlockers : Option PyJson := none

/-- What `validate-material-hunter-artifacts` does on a run directory; its output is the JSON
of its text, if it is JSON. -/
inductive Validator where
  | unavailable
  | raises
  | finished (returncode : ℤ) (output : Option PyJson)

def r2Status (tree : Tree) (runDir : Path) : Option R2Status := do
  let r2 := tree.readJson (runDir ++ ["r2_upload_result.json"])
  let failed := (← r2.get "failed_files").orEmpty
  let uploaded := (← r2.get "uploaded_files").orEmpty
  let verified ← r2.get "verified"
  let failedFiles ← failed.len
  let uploadedFiles ← uploaded.len
  some
    { present := r2.truthy
      verified := verified.isTrue || (r2.truthy && !failed.truthy && uploaded.truthy)
      verificationSource :=
        if !r2.truthy then "missing"
        else if verified.isTrue then "verified_field"
        else "legacy_empty_failed_files"
      failedFiles := failedFiles
      uploadedFiles := uploadedFiles
      phasePrefix := ← r2.get "phase_prefix" }

def retentionStatus (tree : Tree) (runDir : Path) : Option RetentionStatus := do
  let retention := tree.readJson (runDir ++ ["local_retention_summary.json"])
  let ok ← retention.get "ok"
  let r2Verified ← retention.get "r2_verified"
  some
    { present := retention.truthy
      ok := ok.isTrue
      r2Verified := r2Verified.isTrue
      deletedBulkBytes := ← (← retention.get "deleted_bulk_bytes").safeInt
      localRetainedBytes := ← (← retention.get "local_retained_bytes").safeInt }

/-- Whether a run is final; the collector summary is asked last. -/
def runCompleted (service collector : PyJson) : Option Bool := do
  if (← service.get "hunter_exit_status").eqZero then some true
  else if (← service.get "service_exit_reason").eqText "local_relay_collector_completed" then
    some true
  else some !(← collector.get "frames_received").isNone

def serviceStatus (tree : Tree) (runDir : Path) : Option ServiceStatus := do
  let service := tree.readJson (runDir ++ ["service_exit_status.json"])
  let collector := tree.readJson (runDir ++ ["local_collector_summary.json"])
  let completed ← runCompleted service collector
  some
    { serviceExitStatusPresent := service.truthy
      localCollectorSummaryPresent := collector.truthy
      completed := completed
      serviceExitReason := ← service.get "service_exit_reason"
      hunterExitStatus := ← service.get "hunter_exit_status" }

/-- The back-pressure of a summary, under its newer or its older name. -/
def backpressureCount : PyJson → Option PyJson
  | .dict items =>
      some ((items.lookup "receiver_backpressure_count").getD
        ((items.lookup "downstream_backpressure_count").getD (.int 0)))
  | _ => none

/-- `collector or summary`. -/
def integritySource (tree : Tree) (runDir : Path) : PyJson :=
  let collector := tree.readJson (runDir ++ ["local_collector_summary.json"])
  if collector.truthy then collector
  else tree.readJson (runDir ++ ["local_relay_dataset_proof_summary.json"])

def localIntegrityStatus (tree : Tree) (runDir : Path) : Option IntegrityStatus := do
  let source := integritySource tree runDir
  some
    { sequenceGapCount := ← (← source.get "sequence_gap_count").safeInt
      hashMismatchCount := ← (← source.get "hash_mismatch_count").safeInt
      malformedFrameCount := ← (← source.get "malformed_frame_count").safeInt
      receiverBackpressureCount := ← (← backpressureCount source).safeInt
      receiverUnavailableCount := ← (← source.get "receiver_unavailable_count").safeInt }

def artifactConsistencyStatus (tree : Tree) (validator : Validator) (runDir : Path) :
    Option ArtifactStatus := do
  let summary := tree.readJson (runDir ++ ["artifact_consistency_summary.json"])
  if summary.truthy then
    let stated ← summary.get "ok"
    let ok ← if stated.isNone then summary.get "artifact_consistency_ok" else some stated
    let blockers := (← summary.get "blockers").orEmpty
    some
      { present := true
        ok := ok.isTrue || (ok.isNone && !blockers.truthy)
        blockers := blockers
        source := "summary" }
  else
    let proof := tree.readJson (runDir ++ ["local_relay_dataset_proof_summary.json"])
    if (← proof.get "artifact_consistency_ok").isTrue then
      some { present := false, ok := true, blockers := .list [], source := "proof_summary" }
    else
      match validator with
      | .raises => none
      | .finished returncode output =>
          -- an output that is not JSON counts as an object without blockers
          let parsed := output.getD (.dict [])
          let blockers := (← parsed.get "blockers").orEmpty
          some
            { present := false
              ok := returncode = 0 && !blockers.truthy
              blockers := blockers
              source := "validator"
              validatorReturncode := returncode }
      | .unavailable =>
          some
            { present := false
              ok := false
              blockers := .list [.str "artifact_consistency_not_proven"]
              source := "missing" }

/-! ## Assessing a run -/

def bulkDirNames : List String :=
  ["relay_frames", "raw_relay_frames", "relay_frame_shards", ".r2_spool", "tmp_upload_shards",
    "upload_chunks"]

def compactArtifactNames : List String :=
  ["countability_decision.json", "run_countability_decision.json",
    "local_relay_dataset_proof_summary.json", "r2_upload_result.json",
    "local_retention_summary.json", "service_exit_status.json", "hunter_summary.json",
    "attempt_ledger.csv", "rejected_summary.csv", "candidate_summary.csv",
    "all_launch_intake_ledger.csv", "all_launch_intake_summary.json",
    "all_launch_followup_manifest.json", "promotion_queue_ledger.csv",
    "promotion_queue_summary.json", "early_burst_review_candidate_summary.csv",
    "review_queue.csv", "slice_summaries.csv", "manifest.json", "stable_manifest_upload.json"]

def neverDeleteParts : List String :=
  [".git", ".codex_runtime_env", "config", "target", "scripts", "crates", ".ssh"]

def pathIsUnder (path root : Path) : Bool := root <+: path

def isNeverDeletePath (path : Path) : Bool := path.any fun part => part ∈ neverDeleteParts

def deletionPaths (tree : Tree) (runDir : Path) : List Path :=
  (bulkDirNames.map fun bulk => runDir ++ [bulk]).filter fun candidate =>
    tree.exists? candidate && 0 < tree.treeSize candidate

/-- What an audit looks at besides the tree. -/
structure Scope where
  outputRoot : Path
  activeNames : List String
  validator : Path → Validator

structure BulkPath where
  path : Path
  bytes : ℕ
  fileCount : ℕ

structure RunRow where
  runId : String
  path : Path
  totalBytes : ℕ
  relayFramesLocalPresent : Bool
  relayFramesLocalFileCount : ℕ
  relayFramesLocalTotalBytes : ℕ
  r2 : R2Status
  retention : RetentionStatus
  service : ServiceStatus
  localIntegrity : IntegrityStatus
  artifactConsistency : ArtifactStatus
  active : Bool
  bulkDeletePaths : List BulkPath
  gcTier : String
  safeToDelete : Bool
  unsafeReasons : List PyJson
  safeDeleteBytes : ℕ


/-- What is known of a run when it is judged. -/
structure Findings where
  active : Bool
  underOutputRoot : Bool
  neverDelete : Bool
  paths : List Path
  r2 : R2Status
  retention : RetentionStatus
  service : ServiceStatus
  integrity : IntegrityStatus
  artifacts : ArtifactStatus

namespace Findings

variable (found : Findings)

def onlyRelayFrames : Bool :=
  !found.paths.isEmpty && found.paths.all fun path => name path = "relay_frames"

/-- Runs older than the artifact checks, whose retention is verified, pass them. -/
def judgedArtifacts : ArtifactStatus :=
  if !found.artifacts.ok && found.retention.ok && found.retention.r2Verified &&
      found.r2.verified && found.service.completed && found.integrity.clean &&
      found.onlyRelayFrames then
    { present := false
      ok := true
      blockers := .list []
      source := "legacy_retention_ok_relay_frames_only"
      legacyValidatorBlockers := found.artifacts.blockers.orEmpty }
  else found.artifacts

/-- The blockers of the artifact checks, of which there is at least one. -/
def artifactReasons : Option (List PyJson) :=
  if found.judgedArtifacts.ok then some []
  else if found.judgedArtifacts.blockers.truthy then found.judgedArtifacts.blockers.iterate
  else some [.str "artifact_consistency_not_proven"]

/-- The reasons before they are turned into texts and sorted. -/
def unsafeReasons : Option (List PyJson) := do
  let artifactReasons ← found.artifactReasons
  some
    ((if found.active then [.str "current_or_inflight_run"] else []) ++
      (if found.underOutputRoot then [] else [.str "outside_output_root"]) ++
      (if found.neverDelete then [.str "never_delete_path"] else []) ++
      (if !found.r2.present then [.str "missing_r2_upload_result"]
        else if !found.r2.verified then [.str "r2_not_verified"] else []) ++
      artifactReasons ++
      (if found.service.completed then [] else [.str "run_not_final_or_completion_not_proven"]) ++
      (if found.integrity.clean then [] else [.str "local_relay_integrity_not_clean"]) ++
      (if found.paths.isEmpty then [.str "no_bulk_paths_present"] else []) ++
      (if !found.retention.ok && found.paths.any fun path => name path ≠ "relay_frames" then
        [.str "retention_missing_for_non_relay_bulk"] else []))

/-- What speaks against deleting raw relay frames that are alone. -/
def tierAReasons : List String :=
  (if found.active then ["current_or_inflight_run"] else []) ++
    (if found.r2.verified then [] else ["r2_not_verified"]) ++
    (if found.service.completed then [] else ["run_not_final_or_completion_not_proven"]) ++
    (if found.integrity.clean then [] else ["local_relay_integrity_not_clean"]) ++
    (if found.neverDelete then ["never_delete_path"] else [])

/-- The tier of a run that is safe to delete, or the reasons why it is not. -/
def verdict : Option (Except (List PyJson) String) := do
  let reasons ← found.unsafeReasons
  some
    (if reasons.isEmpty then
      .ok (if found.judgedArtifacts.source ∈ ["summary", "proof_summary"] then "A" else "B")
    else if found.onlyRelayFrames && found.tierAReasons.isEmpty then .ok "A"
    else .error reasons)

end Findings

/-- The artifacts of a run whose upload is not verified are not checked. -/
def skippedArtifacts : ArtifactStatus :=
  { present := none
    ok := false
    blockers := .list [.str "r2_not_verified"]
    source := "skipped" }

/-- The status readers in turn. -/
def findings (scope : Scope) (tree : Tree) (runDir : Path) : Option Findings := do
  let r2 ← r2Status tree runDir
  let retention ← retentionStatus tree runDir
  let service ← serviceStatus tree runDir
  let integrity ← localIntegrityStatus tree runDir
  let artifacts ←
    (if r2.verified then artifactConsistencyStatus tree (scope.validator runDir) runDir
    else some skippedArtifacts)
  some
    { active := name runDir ∈ scope.activeNames
      underOutputRoot := pathIsUnder runDir scope.outputRoot
      neverDelete := isNeverDeletePath runDir
      paths := deletionPaths tree runDir
      r2 := r2
      retention := retention
      service := service
      integrity := integrity
      artifacts := artifacts }

def assessRun (scope : Scope) (tree : Tree) (runDir : Path) : Option RunRow := do
  let found ← findings scope tree runDir
  let verdict ← found.verdict
  let relayFrames := runDir ++ ["relay_frames"]
  some
    { runId := name runDir
      path := runDir
      totalBytes := tree.treeSize runDir
      relayFramesLocalPresent := tree.exists? relayFrames
      relayFramesLocalFileCount := tree.fileCount relayFrames
      relayFramesLocalTotalBytes := tree.treeSize relayFrames
      r2 := found.r2
      retention := found.retention
      service := found.service
      localIntegrity := found.integrity
      artifactConsistency := found.judgedArtifacts
      active := found.active
      bulkDeletePaths := found.paths.map fun path =>
        { path := path, bytes := tree.treeSize path, fileCount := tree.fileCount path }
      gcTier := verdict.toOption.getD ""
      safeToDelete := verdict.isOk
      unsafeReasons := match verdict with
        | .ok _ => []
        | .error reasons => reasons
      safeDeleteBytes := if verdict.isOk then (found.paths.map tree.treeSize).sum else 0 }

/-! ## Audits and deletions -/

/-- `build_audit` without the tier that an operator reviews. -/
structure Audit where
  safeToDeleteCandidates : List RunRow
  unsafeToDeleteCandidates : List RunRow

/-- The run directories below the output root. -/
def runDirs (scope : Scope) (tree : Tree) : List Path :=
  (tree.children scope.outputRoot).filter fun runDir =>
    tree.isDir runDir && !(name runDir).startsWith "." && !(name runDir).endsWith "-logs"

def buildAudit (scope : Scope) (tree : Tree) : Option Audit := do
  let rows ← (runDirs scope tree).mapM (assessRun scope tree)
  some
    { safeToDeleteCandidates := rows.filter fun row => row.safeToDelete
      unsafeToDeleteCandidates := rows.filter fun row => !row.safeToDelete }

structure Deleted where
  runId : String
  path : Path
  bytes : ℕ
  fileCount : ℕ


/-- Remove what lies at a path, if anything. -/
def Tree.remove (tree : Tree) (path : Path) : Tree :=
  if tree.exists? path then
    if h : tree.isDir path then tree.rmtree path else tree.unlink path (by simpa using h)
  else tree

/-- The paths that `apply_deletions` does not skip. -/
def mayDelete (scope : Scope) (path : Path) : Bool :=
  pathIsUnder path scope.outputRoot && !isNeverDeletePath path

def applyDeletion (scope : Scope) (runId : String) (state : Tree × List Deleted)
    (item : BulkPath) : Tree × List Deleted :=
  if mayDelete scope item.path then
    (state.1.remove item.path,
      state.2 ++
        [{ runId := runId
           path := item.path
           bytes := state.1.treeSize item.path
           fileCount := item.fileCount }])
  else state

def applyDeletions (scope : Scope) (audit : Audit) (tree : Tree) : Tree × List Deleted :=
  audit.safeToDeleteCandidates.foldl
    (fun state row => row.bulkDeletePaths.foldl (applyDeletion scope row.runId) state)
    (tree, [])


end PumpLaunchTrader.StorageGc
