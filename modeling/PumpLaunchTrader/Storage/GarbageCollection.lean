import PumpLaunchTrader.Lib.Lines
import PumpLaunchTrader.Model.StorageGc

/-! # Storage garbage collection deletes what is proven, where the status files say so

A run is safe to delete on what its status files say. Two things pass that prove nothing: an
upload that is declared verified beside files that failed, and a counter that is missing or
not a number, which reads as zero. Without them every deletion lies in the bulk of a run
whose copy is proven. -/

namespace PumpLaunchTrader.StorageGc

/-! ## What a status file states -/

/-- A file that holds a JSON object. -/
def Reads (tree : Tree) (path : Path) (items : List (String × PyJson)) : Prop :=
  ∃ bytes, tree.lookup path = some (.file bytes (some (.dict items)))

theorem Reads.readJson {tree : Tree} {path : Path} {items : List (String × PyJson)}
    (h : Reads tree path items) : tree.readJson path = .dict items := by
  obtain ⟨bytes, h⟩ := h
  rw [Tree.readJson, h]

theorem Reads.unique {tree : Tree} {path : Path} {first second : List (String × PyJson)}
    (hfirst : Reads tree path first) (hsecond : Reads tree path second) : first = second := by
  have h := hfirst.readJson.symm.trans hsecond.readJson
  injection h

def field (items : List (String × PyJson)) (key : String) : PyJson :=
  (items.lookup key).getD .null

@[simp] theorem PyJson.get_dict (items : List (String × PyJson)) (key : String) :
    (PyJson.dict items).get key = some (field items key) := rfl

theorem PyJson.get_eq_some_iff {value result : PyJson} {key : String} :
    value.get key = some result ↔ ∃ items, value = .dict items ∧ result = field items key := by
  cases value with
  | dict items => simp [PyJson.get, field, eq_comm]
  | _ => simp [PyJson.get]

/-- A field that is stated is stated by a file. -/
theorem reads_of_field {tree : Tree} {path : Path} {items : List (String × PyJson)}
    {key : String} (hread : tree.readJson path = .dict items) (hkey : key ≠ "_parse_error")
    (hfield : (field items key).isNone = false) : Reads tree path items := by
  unfold Tree.readJson at hread
  split at hread
  · injection hread with hitems
    simp [← hitems, field, PyJson.isNone] at hfield
  · rename_i bytes json hlookup
    exact ⟨bytes, by rw [hlookup, hread]⟩
  · injection hread with hitems
    simp [← hitems, field, PyJson.isNone, List.lookup_cons, beq_false_of_ne hkey] at hfield

theorem PyJson.isNone_eq_false_of_truthy {value : PyJson} (h : value.truthy = true) :
    value.isNone = false := by
  cases value with
  | null => cases h
  | _ => rfl

theorem PyJson.isNone_eq_false_of_isTrue {value : PyJson} (h : value.isTrue = true) :
    value.isNone = false := by
  cases value with
  | bool value => rfl
  | _ => cases h

@[simp] theorem PyJson.truthy_orEmpty (value : PyJson) :
    value.orEmpty.truthy = value.truthy := by
  cases h : value.truthy with
  | true => simp [PyJson.orEmpty, h]
  | false =>
      rw [PyJson.orEmpty, if_neg (by simp [h])]
      rfl

/-! ## Uploads -/

/-- The upload is declared verified although it names files that failed. -/
def Overruled (tree : Tree) (runDir : Path) : Prop :=
  ∃ items, Reads tree (runDir ++ ["r2_upload_result.json"]) items ∧
    (field items "verified").isTrue = true ∧ (field items "failed_files").truthy = true

/-- The result of the upload is there and names no file that failed. -/
def Uploaded (tree : Tree) (runDir : Path) : Prop :=
  ∃ items, Reads tree (runDir ++ ["r2_upload_result.json"]) items ∧
    (field items "failed_files").truthy = false

theorem r2Status_reads {tree : Tree} {runDir : Path} {r2 : R2Status}
    (h : r2Status tree runDir = some r2) (hverified : r2.verified = true) :
    r2.present = true ∧ ∃ items, Reads tree (runDir ++ ["r2_upload_result.json"]) items ∧
      ((field items "verified").isTrue = true ∨ (field items "failed_files").truthy = false) := by
  obtain ⟨failed, hfailed, h⟩ := Option.bind_eq_some_iff.mp h
  obtain ⟨uploaded, huploaded, h⟩ := Option.bind_eq_some_iff.mp h
  obtain ⟨verified, hget, h⟩ := Option.bind_eq_some_iff.mp h
  obtain ⟨failedFiles, -, h⟩ := Option.bind_eq_some_iff.mp h
  obtain ⟨uploadedFiles, -, h⟩ := Option.bind_eq_some_iff.mp h
  obtain ⟨phasePrefix, -, h⟩ := Option.bind_eq_some_iff.mp h
  cases h
  obtain ⟨items, hread, rfl⟩ := PyJson.get_eq_some_iff.mp hfailed
  rw [hread] at huploaded hget
  cases huploaded
  cases hget
  simp only [hread, Bool.or_eq_true, Bool.and_eq_true, PyJson.truthy_orEmpty,
    Bool.not_eq_true'] at hverified ⊢
  rcases hverified with hverified | ⟨⟨hpresent, hnone⟩, huploaded⟩
  · have hreads := reads_of_field hread (by decide)
      (PyJson.isNone_eq_false_of_isTrue hverified)
    refine ⟨?_, items, hreads, Or.inl hverified⟩
    cases items with
    | nil => cases hverified
    | cons item items => rfl
  · exact ⟨hpresent, items, reads_of_field hread (by decide)
      (PyJson.isNone_eq_false_of_truthy huploaded), Or.inr hnone⟩

/-- A verified upload names no failed file unless it is overruled. -/
theorem uploaded_of_verified {tree : Tree} {runDir : Path} {r2 : R2Status}
    (h : r2Status tree runDir = some r2) (hverified : r2.verified = true)
    (hoverruled : ¬ Overruled tree runDir) : Uploaded tree runDir := by
  obtain ⟨-, items, hreads, hstated⟩ := r2Status_reads h hverified
  refine ⟨items, hreads, ?_⟩
  rcases hstated with hstated | hfailed
  · by_contra hfailed
    exact hoverruled ⟨items, hreads, hstated, by simpa using hfailed⟩
  · exact hfailed

theorem Uploaded.not_overruled {tree : Tree} {runDir : Path} (h : Uploaded tree runDir) :
    ¬ Overruled tree runDir := by
  rintro ⟨items, hreads, -, hfailed⟩
  obtain ⟨others, hothers, hnone⟩ := h
  rw [hothers.unique hreads, hfailed] at hnone
  cases hnone

/-! ## Completion -/

/-- A status file says that the run is final. -/
def CompletionRecorded (tree : Tree) (runDir : Path) : Prop :=
  (∃ items, Reads tree (runDir ++ ["service_exit_status.json"]) items ∧
    ((field items "hunter_exit_status").eqZero = true ∨
      (field items "service_exit_reason").eqText "local_relay_collector_completed" = true)) ∨
  ∃ items, Reads tree (runDir ++ ["local_collector_summary.json"]) items ∧
    (field items "frames_received").isNone = false

theorem serviceStatus_recorded {tree : Tree} {runDir : Path} {service : ServiceStatus}
    (h : serviceStatus tree runDir = some service) (hcompleted : service.completed = true) :
    CompletionRecorded tree runDir := by
  obtain ⟨completed, hrun, h⟩ := Option.bind_eq_some_iff.mp h
  obtain ⟨reason, hreason, h⟩ := Option.bind_eq_some_iff.mp h
  obtain ⟨status, hstatus, h⟩ := Option.bind_eq_some_iff.mp h
  cases h
  obtain ⟨items, hread, rfl⟩ := PyJson.get_eq_some_iff.mp hreason
  simp only at hcompleted
  subst hcompleted
  simp only [runCompleted, hread, PyJson.get_dict, Option.bind_eq_bind,
    Option.bind_some] at hrun
  split_ifs at hrun with hzero htext
  · have hstated : (field items "hunter_exit_status").isNone = false := by
      cases hvalue : field items "hunter_exit_status" with
      | null => rw [hvalue] at hzero; cases hzero
      | _ => rfl
    exact Or.inl ⟨items, reads_of_field hread (by decide) hstated, Or.inl hzero⟩
  · have hstated : (field items "service_exit_reason").isNone = false := by
      cases hvalue : field items "service_exit_reason" with
      | null => rw [hvalue] at htext; cases htext
      | _ => rfl
    exact Or.inl ⟨items, reads_of_field hread (by decide) hstated, Or.inr htext⟩
  · obtain ⟨frames, hframes, hrun⟩ := Option.bind_eq_some_iff.mp hrun
    obtain ⟨others, hothers, rfl⟩ := PyJson.get_eq_some_iff.mp hframes
    have hstated : (field others "frames_received").isNone = false := by simpa using hrun
    exact Or.inr ⟨others, reads_of_field hothers (by decide) hstated, hstated⟩

/-! ## Integrity -/

/-- Gaps, mismatches, malformed frames and back-pressure, as a summary states them. -/
def counters (items : List (String × PyJson)) : List PyJson :=
  [field items "sequence_gap_count", field items "hash_mismatch_count",
    field items "malformed_frame_count",
    (items.lookup "receiver_backpressure_count").getD (field items "downstream_backpressure_count")]

/-- A number that is zero, or the text of one. -/
def PyJson.statesZero : PyJson → Bool
  | .int value => value = 0
  | .float value => value == 0
  | .str value => (Python.float value).any fun value => value == 0
  | _ => false

/-- A local summary is there and states that nothing was lost. -/
def ProvesClean (tree : Tree) (path : Path) : Prop :=
  ∃ items, Reads tree path items ∧ ∀ value ∈ counters items, value.statesZero = true

/-- The summary that is consulted leaves a counter open, which then reads as zero. -/
def Silent (tree : Tree) (runDir : Path) : Prop :=
  ∃ items, integritySource tree runDir = .dict items ∧
    ∃ value ∈ counters items, value.safeInt = some 0 ∧ value.statesZero = false

theorem PyJson.isNone_eq_false_of_statesZero {value : PyJson} (h : value.statesZero = true) :
    value.isNone = false := by
  cases value with
  | null => cases h
  | _ => rfl

theorem backpressureCount_safeInt (items : List (String × PyJson)) :
    (backpressureCount (.dict items)).bind PyJson.safeInt =
      ((items.lookup "receiver_backpressure_count").getD
        (field items "downstream_backpressure_count")).safeInt := by
  cases hnewer : items.lookup "receiver_backpressure_count" with
  | some value => simp [backpressureCount, hnewer]
  | none =>
      cases holder : items.lookup "downstream_backpressure_count" with
      | some value => simp [backpressureCount, hnewer, holder, field]
      | none =>
          simp only [backpressureCount, hnewer, holder, field, Option.bind_some, Option.getD_none]
          decide +kernel

/-- A clean run has a summary whose counters all read as zero. -/
theorem localIntegrityStatus_clean {tree : Tree} {runDir : Path} {integrity : IntegrityStatus}
    (h : localIntegrityStatus tree runDir = some integrity) (hclean : integrity.clean = true) :
    ∃ items, integritySource tree runDir = .dict items ∧
      ∀ value ∈ counters items, value.safeInt = some 0 := by
  obtain ⟨gaps, hgaps, h⟩ := Option.bind_eq_some_iff.mp h
  obtain ⟨items, hsource, rfl⟩ := PyJson.get_eq_some_iff.mp hgaps
  rw [hsource] at h
  obtain ⟨gapCount, hgapCount, h⟩ := Option.bind_eq_some_iff.mp h
  obtain ⟨hashes, hhashes, h⟩ := Option.bind_eq_some_iff.mp h
  obtain ⟨hashCount, hhashCount, h⟩ := Option.bind_eq_some_iff.mp h
  obtain ⟨malformed, hmalformed, h⟩ := Option.bind_eq_some_iff.mp h
  obtain ⟨malformedCount, hmalformedCount, h⟩ := Option.bind_eq_some_iff.mp h
  obtain ⟨pressure, hpressure, h⟩ := Option.bind_eq_some_iff.mp h
  obtain ⟨pressureCount, hpressureCount, h⟩ := Option.bind_eq_some_iff.mp h
  obtain ⟨unavailable, -, h⟩ := Option.bind_eq_some_iff.mp h
  obtain ⟨unavailableCount, -, h⟩ := Option.bind_eq_some_iff.mp h
  cases h
  rw [PyJson.get_dict] at hhashes hmalformed
  cases hhashes
  cases hmalformed
  have hfold := backpressureCount_safeInt items
  rw [hpressure, Option.bind_some, hpressureCount] at hfold
  simp only [IntegrityStatus.clean, Bool.and_eq_true, decide_eq_true_eq] at hclean
  obtain ⟨⟨⟨⟨rfl, rfl⟩, rfl⟩, rfl⟩, -⟩ := hclean
  refine ⟨items, hsource, ?_⟩
  simp [counters, hgapCount, hhashCount, hmalformedCount, ← hfold]

/-- A summary that is not silent proves the run clean. -/
theorem provesClean_of_not_silent {tree : Tree} {runDir : Path} {integrity : IntegrityStatus}
    (h : localIntegrityStatus tree runDir = some integrity) (hclean : integrity.clean = true)
    (hsilent : ¬ Silent tree runDir) :
    ∃ summary ∈ ["local_collector_summary.json", "local_relay_dataset_proof_summary.json"],
      ProvesClean tree (runDir ++ [summary]) := by
  obtain ⟨items, hsource, hzero⟩ := localIntegrityStatus_clean h hclean
  have hstates : ∀ value ∈ counters items, value.statesZero = true := by
    intro value hvalue
    by_contra hopen
    exact hsilent ⟨items, hsource, value, hvalue, hzero value hvalue, by simpa using hopen⟩
  have hgaps : (field items "sequence_gap_count").isNone = false :=
    PyJson.isNone_eq_false_of_statesZero (hstates _ (by simp [counters]))
  dsimp only [integritySource] at hsource
  split_ifs at hsource with hcollector
  · exact ⟨_, List.mem_cons_self, items, reads_of_field hsource (by decide) hgaps, hstates⟩
  · exact ⟨_, List.mem_cons_of_mem _ List.mem_cons_self, items,
      reads_of_field hsource (by decide) hgaps, hstates⟩

/-- A collector summary that proves the run clean is the one that is consulted. -/
theorem ProvesClean.not_silent {tree : Tree} {runDir : Path}
    (h : ProvesClean tree (runDir ++ ["local_collector_summary.json"])) :
    ¬ Silent tree runDir := by
  obtain ⟨items, hreads, hstates⟩ := h
  rintro ⟨others, hsource, value, hvalue, -, hopen⟩
  have htruthy : (PyJson.dict items).truthy = true := by
    cases items with
    | nil => exact absurd (hstates _ List.mem_cons_self) (by decide)
    | cons item items => rfl
  rw [integritySource, hreads.readJson, if_pos htruthy] at hsource
  injection hsource with hitems
  rw [hstates value (hitems ▸ hvalue)] at hopen
  cases hopen

/-! ## What is accepted -/

/-- The findings under which a run is safe to delete. -/
structure Findings.Accepted (found : Findings) : Prop where
  inactive : found.active = false
  kept : found.neverDelete = false
  bulk : found.paths ≠ []
  verified : found.r2.verified = true
  completed : found.service.completed = true
  clean : found.integrity.clean = true
  backed :
    (found.onlyRelayFrames = true ∧ found.artifactReasons.isSome = true) ∨
      (found.underOutputRoot = true ∧ found.artifacts.ok = true ∧ found.retention.ok = true)

/-- Every status file can be read, and what they say is accepted. -/
def Accepted (scope : Scope) (tree : Tree) (runDir : Path) : Prop :=
  ∃ found, findings scope tree runDir = some found ∧ found.Accepted

namespace Findings

variable {found : Findings}

theorem onlyRelayFrames_iff :
    found.onlyRelayFrames = true ↔
      found.paths ≠ [] ∧ ∀ path ∈ found.paths, name path = "relay_frames" := by
  simp [onlyRelayFrames]

theorem iterate_ne_nil {value : PyJson} (h : value.truthy = true) : value.iterate ≠ some [] := by
  cases value with
  | str text => simpa [PyJson.truthy, PyJson.iterate] using h
  | list items => simpa [PyJson.truthy, PyJson.iterate] using h
  | dict items => simpa [PyJson.truthy, PyJson.iterate] using h
  | _ => simp [PyJson.iterate]

theorem artifactReasons_eq_some_nil_iff :
    found.artifactReasons = some [] ↔ found.judgedArtifacts.ok = true := by
  unfold artifactReasons
  split_ifs with hok hblockers
  · simp [hok]
  · simp [hok, iterate_ne_nil hblockers]
  · simp [hok]

/-- Beside the artifact checks themselves only raw relay frames that are alone pass. -/
theorem judgedArtifacts_ok (h : found.judgedArtifacts.ok = true) :
    found.artifacts.ok = true ∨ found.onlyRelayFrames = true := by
  unfold judgedArtifacts at h
  split_ifs at h with hlegacy
  · exact Or.inr (Bool.and_eq_true_iff.mp hlegacy).2
  · exact Or.inl h

theorem judgedArtifacts_of_ok (h : found.artifacts.ok = true) :
    found.judgedArtifacts = found.artifacts := by
  simp [judgedArtifacts, h]

theorem unsafeReasons_eq_some_nil_iff
    (hpresent : found.r2.verified = true → found.r2.present = true) :
    found.unsafeReasons = some [] ↔
      found.active = false ∧ found.underOutputRoot = true ∧ found.neverDelete = false ∧
        found.r2.verified = true ∧ found.judgedArtifacts.ok = true ∧
        found.service.completed = true ∧ found.integrity.clean = true ∧ found.paths ≠ [] ∧
        (found.retention.ok = true ∨ ∀ path ∈ found.paths, name path = "relay_frames") := by
  rw [← artifactReasons_eq_some_nil_iff]
  unfold unsafeReasons
  cases found.artifactReasons with
  | none => simp
  | some reasons =>
      have hupload : (if found.r2.present = false then [PyJson.str "missing_r2_upload_result"]
          else if found.r2.verified = false then [PyJson.str "r2_not_verified"] else []) = [] ↔
          found.r2.verified = true := by
        cases hverified : found.r2.verified with
        | false => cases found.r2.present <;> simp
        | true => simp [hpresent hverified]
      have hretention : (found.retention.ok = false →
          ∀ path ∈ found.paths, name path = "relay_frames") ↔
          (found.retention.ok = true ∨ ∀ path ∈ found.paths, name path = "relay_frames") := by
        cases found.retention.ok with
        | false => simp
        | true => simp
      simp [hupload, hretention]

theorem tierAReasons_eq_nil_iff :
    found.tierAReasons = [] ↔
      found.active = false ∧ found.r2.verified = true ∧ found.service.completed = true ∧
        found.integrity.clean = true ∧ found.neverDelete = false := by
  simp [tierAReasons]

theorem artifactReasons_isSome {reasons : List PyJson}
    (h : found.unsafeReasons = some reasons) : found.artifactReasons.isSome = true := by
  obtain ⟨blockers, hblockers, -⟩ := Option.bind_eq_some_iff.mp h
  rw [hblockers]
  rfl

/-- A verdict that a run is safe rests on a run without a reason against it, or on relay
frames that are alone. -/
theorem ok_cases {tier : String} (h : found.verdict = some (.ok tier)) :
    found.unsafeReasons = some [] ∨
      found.artifactReasons.isSome = true ∧ found.onlyRelayFrames = true ∧
        found.tierAReasons = [] := by
  obtain ⟨reasons, hreasons, h⟩ := Option.bind_eq_some_iff.mp h
  have hread := artifactReasons_isSome hreasons
  rw [Option.some.injEq] at h
  by_cases hnone : reasons = []
  · rw [hnone] at hreasons
    exact Or.inl hreasons
  · have halone : (found.onlyRelayFrames && found.tierAReasons.isEmpty) = true := by
      by_contra halone
      rw [if_neg (by simpa using hnone), if_neg halone] at h
      cases h
    obtain ⟨hrelay, htier⟩ := Bool.and_eq_true_iff.mp halone
    exact Or.inr ⟨hread, hrelay, List.isEmpty_iff.mp htier⟩

theorem accepted_of_no_reason (hpresent : found.r2.verified = true → found.r2.present = true)
    (h : found.unsafeReasons = some []) : found.Accepted := by
  have hread := artifactReasons_isSome h
  obtain ⟨hactive, hroot, hnever, hverified, hartifacts, hcompleted, hclean, hpaths,
    hretention⟩ := (unsafeReasons_eq_some_nil_iff hpresent).mp h
  refine ⟨hactive, hnever, hpaths, hverified, hcompleted, hclean, ?_⟩
  by_cases hrelay : found.onlyRelayFrames = true
  · exact Or.inl ⟨hrelay, hread⟩
  · have hok := (judgedArtifacts_ok hartifacts).resolve_right hrelay
    have hretained := hretention.resolve_right fun hall =>
      hrelay (onlyRelayFrames_iff.mpr ⟨hpaths, hall⟩)
    exact Or.inr ⟨hroot, hok, hretained⟩

theorem ok_of_accepted (hpresent : found.r2.verified = true → found.r2.present = true)
    (h : found.Accepted) : ∃ tier, found.verdict = some (.ok tier) := by
  rcases h.backed with ⟨hrelay, hread⟩ | ⟨hroot, hartifacts, hretention⟩
  · obtain ⟨blockers, hblockers⟩ := Option.isSome_iff_exists.mp hread
    have htier : found.tierAReasons = [] :=
      tierAReasons_eq_nil_iff.mpr ⟨h.inactive, h.verified, h.completed, h.clean, h.kept⟩
    have hsome : ∃ reasons, found.unsafeReasons = some reasons := by
      rw [unsafeReasons, hblockers]
      exact ⟨_, rfl⟩
    obtain ⟨reasons, hreasons⟩ := hsome
    rw [verdict, hreasons]
    cases reasons with
    | nil => exact ⟨_, rfl⟩
    | cons reason reasons => exact ⟨"A", by simp [hrelay, htier]⟩
  · have hjudged : found.judgedArtifacts.ok = true := by
      rw [judgedArtifacts_of_ok hartifacts]
      exact hartifacts
    have hreasons := (unsafeReasons_eq_some_nil_iff hpresent).mpr
      ⟨h.inactive, hroot, h.kept, h.verified, hjudged, h.completed, h.clean, h.bulk,
        Or.inl hretention⟩
    rw [verdict, hreasons]
    exact ⟨_, rfl⟩

/-- The verdict is that a run is safe exactly when its findings are accepted. -/
theorem verdict_ok_iff (hpresent : found.r2.verified = true → found.r2.present = true) :
    (∃ tier, found.verdict = some (.ok tier)) ↔ found.Accepted := by
  constructor
  · rintro ⟨tier, h⟩
    rcases ok_cases h with hnone | ⟨hread, hrelay, htier⟩
    · exact accepted_of_no_reason hpresent hnone
    · obtain ⟨hactive, hverified, hcompleted, hclean, hnever⟩ := tierAReasons_eq_nil_iff.mp htier
      exact ⟨hactive, hnever, (onlyRelayFrames_iff.mp hrelay).1, hverified, hcompleted, hclean,
        Or.inl ⟨hrelay, hread⟩⟩
  · exact ok_of_accepted hpresent

end Findings

/-- The findings, with the readers that they come from. -/
theorem findings_eq_some {scope : Scope} {tree : Tree} {runDir : Path} {found : Findings}
    (h : findings scope tree runDir = some found) :
    r2Status tree runDir = some found.r2 ∧ serviceStatus tree runDir = some found.service ∧
      localIntegrityStatus tree runDir = some found.integrity ∧
      found.active = decide (name runDir ∈ scope.activeNames) ∧
      found.paths = deletionPaths tree runDir := by
  obtain ⟨r2, hr2, h⟩ := Option.bind_eq_some_iff.mp h
  obtain ⟨retention, -, h⟩ := Option.bind_eq_some_iff.mp h
  obtain ⟨service, hservice, h⟩ := Option.bind_eq_some_iff.mp h
  obtain ⟨integrity, hintegrity, h⟩ := Option.bind_eq_some_iff.mp h
  obtain ⟨artifacts, -, h⟩ := Option.bind_eq_some_iff.mp h
  cases h
  exact ⟨hr2, hservice, hintegrity, rfl, rfl⟩

/-- A run that is assessed is safe to delete exactly when it is accepted. -/
theorem assessRun_safe_iff (scope : Scope) (tree : Tree) (runDir : Path) :
    (∃ row, assessRun scope tree runDir = some row ∧ row.safeToDelete = true) ↔
      Accepted scope tree runDir := by
  constructor
  · rintro ⟨row, h, hsafe⟩
    obtain ⟨found, hfound, h⟩ := Option.bind_eq_some_iff.mp h
    obtain ⟨verdict, hverdict, h⟩ := Option.bind_eq_some_iff.mp h
    cases h
    have hr2 := (findings_eq_some hfound).1
    refine ⟨found, hfound, (Findings.verdict_ok_iff fun hv => (r2Status_reads hr2 hv).1).mp ?_⟩
    cases verdict with
    | ok tier => exact ⟨tier, hverdict⟩
    | error reasons => cases hsafe
  · rintro ⟨found, hfound, haccepted⟩
    have hr2 := (findings_eq_some hfound).1
    obtain ⟨tier, hverdict⟩ :=
      (Findings.verdict_ok_iff fun hv => (r2Status_reads hr2 hv).1).mpr haccepted
    rw [assessRun, hfound, Option.bind_eq_bind, Option.bind_some, hverdict]
    exact ⟨_, rfl, rfl⟩

/-! ## What is deleted -/

theorem Tree.lookup_remove (tree : Tree) (path other : Path) (h : ¬ path <+: other) :
    (tree.remove path).lookup other = tree.lookup other := by
  unfold Tree.remove
  split_ifs with hexists hdir
  · exact (tree.lookup_without _ other).trans (by simp [h])
  · have hne : path ≠ other := fun heq => h (heq ▸ List.prefix_rfl)
    exact (tree.lookup_without _ other).trans (by simp [hne])
  · rfl

/-- A run of deletions leaves alone what lies below none of its paths. -/
theorem lookup_foldl_applyDeletion (scope : Scope) (runId : String) (items : List BulkPath)
    (state : Tree × List Deleted) (path : Path)
    (h : ∀ item ∈ items, ¬ item.path <+: path) :
    (items.foldl (applyDeletion scope runId) state).1.lookup path = state.1.lookup path := by
  induction items generalizing state with
  | nil => rfl
  | cons item items ih =>
      rw [List.foldl_cons, ih _ fun other hother => h other (List.mem_cons_of_mem _ hother)]
      unfold applyDeletion
      split_ifs with hmay
      · exact state.1.lookup_remove item.path path (h item List.mem_cons_self)
      · rfl

theorem lookup_foldl_rows (scope : Scope) (rows : List RunRow) (state : Tree × List Deleted)
    (path : Path) (h : ∀ row ∈ rows, ∀ item ∈ row.bulkDeletePaths, ¬ item.path <+: path) :
    (rows.foldl (fun state row => row.bulkDeletePaths.foldl (applyDeletion scope row.runId) state)
      state).1.lookup path = state.1.lookup path := by
  induction rows generalizing state with
  | nil => rfl
  | cons row rows ih =>
      rw [List.foldl_cons, ih _ fun other hother => h other (List.mem_cons_of_mem _ hother)]
      exact lookup_foldl_applyDeletion scope row.runId row.bulkDeletePaths state path
        (h row List.mem_cons_self)

theorem lookup_applyDeletions {scope : Scope} {audit : Audit} {tree : Tree} {path : Path}
    (h : (applyDeletions scope audit tree).1.lookup path ≠ tree.lookup path) :
    ∃ row ∈ audit.safeToDeleteCandidates, ∃ item ∈ row.bulkDeletePaths, item.path <+: path := by
  by_contra hnone
  push Not at hnone
  exact h (lookup_foldl_rows scope audit.safeToDeleteCandidates (tree, []) path hnone)

theorem assessRun_bulkDeletePaths {scope : Scope} {tree : Tree} {runDir : Path} {row : RunRow}
    (h : assessRun scope tree runDir = some row) :
    ∀ item ∈ row.bulkDeletePaths, ∃ bulk ∈ bulkDirNames, item.path = runDir ++ [bulk] := by
  obtain ⟨found, hfound, h⟩ := Option.bind_eq_some_iff.mp h
  obtain ⟨verdict, -, h⟩ := Option.bind_eq_some_iff.mp h
  cases h
  intro item hitem
  obtain ⟨path, hpath, rfl⟩ := List.mem_map.mp hitem
  rw [(findings_eq_some hfound).2.2.2.2] at hpath
  obtain ⟨bulk, hbulk, heq⟩ := List.mem_map.mp (List.mem_of_mem_filter hpath)
  exact ⟨bulk, hbulk, heq.symm⟩

/-- A row that is safe to delete comes from a run directory. -/
theorem buildAudit_safe {scope : Scope} {tree : Tree} {audit : Audit} {row : RunRow}
    (h : buildAudit scope tree = some audit) (hrow : row ∈ audit.safeToDeleteCandidates) :
    row.safeToDelete = true ∧
      ∃ runDir ∈ runDirs scope tree, assessRun scope tree runDir = some row := by
  obtain ⟨rows, hrows, h⟩ := Option.bind_eq_some_iff.mp h
  cases h
  obtain ⟨hmem, hsafe⟩ := List.mem_filter.mp hrow
  exact ⟨hsafe, Traversal.exists_of_mem_mapM hrows row hmem⟩

/-- A run directory lies directly below the output root. -/
theorem mem_runDirs {scope : Scope} {tree : Tree} {runDir : Path}
    (h : runDir ∈ runDirs scope tree) :
    scope.outputRoot <+: runDir ∧ runDir.length = scope.outputRoot.length + 1 := by
  have hmem := List.mem_mergeSort.mp (List.mem_of_mem_filter h)
  simpa using (List.mem_filter.mp hmem).2

theorem not_bulk_of_compact : ∀ compact ∈ compactArtifactNames, compact ∉ bulkDirNames := by
  decide

/-! ## Proven copies -/

/-- The copy of a run is proven: nothing runs in it, it is uploaded and final, and a local
summary shows that nothing was lost. -/
structure Proven (scope : Scope) (tree : Tree) (runDir : Path) : Prop where
  inactive : name runDir ∉ scope.activeNames
  uploaded : Uploaded tree runDir
  completed : CompletionRecorded tree runDir
  integrity :
    ∃ summary ∈ ["local_collector_summary.json", "local_relay_dataset_proof_summary.json"],
      ProvesClean tree (runDir ++ [summary])

/-- The garbage collection deletes proven copies only: a run that is safe to delete is
proven, what is deleted lies in the bulk of such a run, and compact artifacts stay. -/
structure DeletesOnlyProven (scope : Scope) (tree : Tree) : Prop where
  safe : ∀ runDir ∈ runDirs scope tree, ∀ row, assessRun scope tree runDir = some row →
    row.safeToDelete = true → Proven scope tree runDir
  bulk : ∀ audit, buildAudit scope tree = some audit → ∀ path,
    (applyDeletions scope audit tree).1.lookup path ≠ tree.lookup path →
      ∃ runDir ∈ runDirs scope tree, scope.outputRoot <+: runDir ∧ Proven scope tree runDir ∧
        ∃ bulk ∈ bulkDirNames, runDir ++ [bulk] <+: path
  compact : ∀ audit, buildAudit scope tree = some audit → ∀ runDir ∈ runDirs scope tree,
    ∀ artifact ∈ compactArtifactNames,
      (applyDeletions scope audit tree).1.lookup (runDir ++ [artifact]) =
        tree.lookup (runDir ++ [artifact])

/-- An accepted run is proven, where its files overrule nothing and leave nothing open. -/
theorem Accepted.proven {scope : Scope} {tree : Tree} {runDir : Path}
    (h : Accepted scope tree runDir) (hoverruled : ¬ Overruled tree runDir)
    (hsilent : Silent tree runDir →
      ProvesClean tree (runDir ++ ["local_relay_dataset_proof_summary.json"])) :
    Proven scope tree runDir := by
  obtain ⟨found, hfound, haccepted⟩ := h
  obtain ⟨hr2, hservice, hintegrity, hactive, -⟩ := findings_eq_some hfound
  refine ⟨?_, uploaded_of_verified hr2 haccepted.verified hoverruled,
    serviceStatus_recorded hservice haccepted.completed, ?_⟩
  · simpa [haccepted.inactive] using hactive.symm
  · by_cases hopen : Silent tree runDir
    · exact ⟨_, List.mem_cons_of_mem _ List.mem_cons_self, hsilent hopen⟩
    · exact provesClean_of_not_silent hintegrity haccepted.clean hopen

theorem Proven.integrity_of_silent {scope : Scope} {tree : Tree} {runDir : Path}
    (h : Proven scope tree runDir) (hsilent : Silent tree runDir) :
    ProvesClean tree (runDir ++ ["local_relay_dataset_proof_summary.json"]) := by
  obtain ⟨summary, hsummary, hclean⟩ := h.integrity
  rcases List.mem_cons.mp hsummary with rfl | hsummary
  · exact absurd hsilent hclean.not_silent
  · rw [List.mem_singleton] at hsummary
    exact hsummary ▸ hclean

/-- Where a run that is safe to delete is proven, so is everything that is deleted. -/
theorem deletesOnlyProven_of_safe {scope : Scope} {tree : Tree}
    (h : ∀ runDir ∈ runDirs scope tree, ∀ row, assessRun scope tree runDir = some row →
      row.safeToDelete = true → Proven scope tree runDir) :
    DeletesOnlyProven scope tree := by
  have hdeleted : ∀ audit, buildAudit scope tree = some audit → ∀ path,
      (applyDeletions scope audit tree).1.lookup path ≠ tree.lookup path →
        ∃ runDir ∈ runDirs scope tree, Proven scope tree runDir ∧
          ∃ bulk ∈ bulkDirNames, runDir ++ [bulk] <+: path := by
    intro audit haudit path hpath
    obtain ⟨row, hrow, item, hitem, hbelow⟩ := lookup_applyDeletions hpath
    obtain ⟨hsafe, runDir, hrun, hassess⟩ := buildAudit_safe haudit hrow
    obtain ⟨bulk, hbulk, hitempath⟩ := assessRun_bulkDeletePaths hassess item hitem
    exact ⟨runDir, hrun, h runDir hrun row hassess hsafe, bulk, hbulk, hitempath ▸ hbelow⟩
  refine ⟨h, ?_, ?_⟩
  · intro audit haudit path hpath
    obtain ⟨runDir, hrun, hproven, hbulk⟩ := hdeleted audit haudit path hpath
    exact ⟨runDir, hrun, (mem_runDirs hrun).1, hproven, hbulk⟩
  · intro audit haudit runDir hrun artifact hartifact
    by_contra hpath
    obtain ⟨other, hother, -, bulk, hbulk, hbelow⟩ := hdeleted audit haudit _ hpath
    have hlength : (other ++ [bulk]).length = (runDir ++ [artifact]).length := by
      simp [(mem_runDirs hrun).2, (mem_runDirs hother).2]
    have hname := (List.append_inj' (hbelow.eq_of_length hlength) rfl).2
    rw [List.singleton_inj] at hname
    exact not_bulk_of_compact artifact hartifact (hname ▸ hbulk)

/-- The garbage collection deletes proven copies only, exactly where no run is accepted on an
overruled upload or, without another summary that proves it clean, on an open counter. -/
theorem deletesOnlyProven_iff (scope : Scope) (tree : Tree) :
    DeletesOnlyProven scope tree ↔
      ∀ runDir ∈ runDirs scope tree, Accepted scope tree runDir →
        ¬ Overruled tree runDir ∧ (Silent tree runDir →
          ProvesClean tree (runDir ++ ["local_relay_dataset_proof_summary.json"])) := by
  constructor
  · intro h runDir hrun haccepted
    obtain ⟨row, hassess, hsafe⟩ := (assessRun_safe_iff scope tree runDir).mpr haccepted
    have hproven := h.safe runDir hrun row hassess hsafe
    exact ⟨hproven.uploaded.not_overruled, hproven.integrity_of_silent⟩
  · intro h
    refine deletesOnlyProven_of_safe fun runDir hrun row hassess hsafe => ?_
    have haccepted := (assessRun_safe_iff scope tree runDir).mp ⟨row, hassess, hsafe⟩
    obtain ⟨hoverruled, hsilent⟩ := h runDir hrun haccepted
    exact haccepted.proven hoverruled hsilent

/-! ### A run without a local summary -/

/-- A finished, uploaded run whose collector left no summary. -/
def unsummarized : Tree where
  nodes :=
    ⟨[⟨[], .directory⟩, ⟨["out"], .directory⟩, ⟨["out", "run-1"], .directory⟩,
      ⟨["out", "run-1", "relay_frames"], .directory⟩,
      ⟨["out", "run-1", "relay_frames", "part-000001.ndjson"], .file 600 none⟩,
      ⟨["out", "run-1", "r2_upload_result.json"], .file 68 (some (.dict
        [("verified", .bool true), ("failed_files", .list []),
          ("uploaded_files", .list [.str "k"])]))⟩,
      ⟨["out", "run-1", "service_exit_status.json"], .file 27 (some (.dict
        [("hunter_exit_status", .int 0)]))⟩,
      ⟨["out", "run-1", "artifact_consistency_summary.json"], .file 13 (some (.dict
        [("ok", .bool true)]))⟩], by unfold List.NodupKeys; decide +kernel⟩
  parents := by decide +kernel

def quietScope : Scope where
  outputRoot := ["out"]
  activeNames := []
  validator := fun _ => .unavailable

theorem unsummarized_run_deleted : ¬ DeletesOnlyProven quietScope unsummarized := by
  intro h
  have hrun : ["out", "run-1"] ∈ runDirs quietScope unsummarized := by
    refine List.mem_filter.mpr ⟨List.mem_mergeSort.mpr ?_, by decide +kernel⟩
    decide +kernel
  have hsafe : (assessRun quietScope unsummarized ["out", "run-1"]).any
      (fun row => row.safeToDelete) = true := by decide +kernel
  obtain ⟨row, hrow, hsafe⟩ := (Option.any_eq_true _ _).mp hsafe
  obtain ⟨summary, hsummary, items, ⟨bytes, hlookup⟩, -⟩ := (h.safe _ hrun row hrow hsafe).integrity
  have habsent : ∀ summary ∈
      ["local_collector_summary.json", "local_relay_dataset_proof_summary.json"],
      (unsummarized.lookup (["out", "run-1"] ++ [summary])).isNone = true := by decide +kernel
  rw [Option.isNone_iff_eq_none.mp (habsent summary hsummary)] at hlookup
  cases hlookup

end PumpLaunchTrader.StorageGc
