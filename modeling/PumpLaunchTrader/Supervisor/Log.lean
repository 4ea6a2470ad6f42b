import PumpLaunchTrader.Supervisor.Steps

/-! # The log of a run

A run that persists its events logs what it handles, in the order in which it handles it:
every record carries the run and the scenario, and a sequence number above those before it.
Reading the log back for a replay keeps the source events in that order. -/

namespace PumpLaunchTrader

/-! ## What a step leaves alone -/

namespace Pipeline

/-- Two pipelines with one configuration and one scenario. -/
structure SameRun (p q : Pipeline) : Prop where
  resolved : q.resolved = p.resolved
  currentScenarioId : q.currentScenarioId = p.currentScenarioId

namespace SameRun

theorem refl (p : Pipeline) : p.SameRun p := ⟨rfl, rfl⟩

theorem trans {p q r : Pipeline} (hpq : p.SameRun q) (hqr : q.SameRun r) : p.SameRun r :=
  ⟨hqr.resolved.trans hpq.resolved, hqr.currentScenarioId.trans hpq.currentScenarioId⟩

end SameRun

variable [IterationOrder]

theorem sameRun_applyEvent (p : Pipeline) (event : NormalizedEvent) :
    p.SameRun (p.applyEvent event) := by
  unfold applyEvent
  split
  · exact ⟨rfl, rfl⟩
  · exact ⟨rfl, rfl⟩

theorem Steps.sameRun {p q : Pipeline} {events : List NormalizedEvent} (h : Steps p events q) :
    p.SameRun q := by
  refine h.invariant ?_ ?_ ?_ (SameRun.refl p)
  · exact fun r event hr => hr.trans (r.sameRun_applyEvent event)
  · exact fun r c hr => hr.trans ⟨rfl, rfl⟩
  · exact fun r event tentative mint token features risk hr => hr.trans ⟨rfl, rfl⟩

theorem sameRun_handleEvent (p : Pipeline) (ambient : Ambient) (event : NormalizedEvent)
    (tentative : Bool) : p.SameRun (p.handleEvent ambient event tentative).1 :=
  (p.steps_handleEvent ambient event tentative).sameRun

theorem sameRun_finalize (p : Pipeline) (ambient : Ambient) (unixNow : OffsetDateTime) :
    p.SameRun (p.finalize ambient unixNow).1 :=
  (p.steps_finalize ambient unixNow).sameRun

theorem sameRun_run (p : Pipeline) (inputs : List (Ambient × NormalizedEvent)) :
    p.SameRun (journaled.run p inputs) :=
  (p.steps_run inputs).sameRun

end Pipeline

/-! ## What a run logs -/

/-- The record before another in the order of sequence numbers. -/
def StoredRecord.Precedes (left right : StoredRecord) : Prop :=
  ∃ m n, left.runtimeSequenceNumber = some m ∧ right.runtimeSequenceNumber = some n ∧ m < n

namespace Supervisor

/-- The log holds the entries in the order of their sequence numbers, under one run and
scenario. -/
structure Logged (s : Supervisor) (entries : List NormalizedEvent) : Prop where
  records : s.storage.normalizedEventLog.map StoredRecord.record = entries
  runIds : ∀ record ∈ s.storage.normalizedEventLog, record.runId = some s.resolved.runId
  scenarioIds : ∀ record ∈ s.storage.normalizedEventLog,
    record.scenarioId = s.currentScenarioId
  numbered : ∀ record ∈ s.storage.normalizedEventLog,
    ∃ n ≤ s.recordSequence, record.runtimeSequenceNumber = some n
  ordered : s.storage.normalizedEventLog.Pairwise StoredRecord.Precedes

theorem logged_new (config : RuntimeResolvedConfig) (runs : List RunMetadata)
    (scenarioId : Option String) :
    { Supervisor.new config { runs := runs } with
      currentScenarioId := scenarioId }.Logged [] where
  records := rfl
  runIds := by simp [Supervisor.new]
  scenarioIds := by simp [Supervisor.new]
  numbered := by simp [Supervisor.new]
  ordered := List.Pairwise.nil

/-- A step of the pipeline leaves the log alone. -/
theorem Logged.withPipeline {s : Supervisor} {entries : List NormalizedEvent}
    (h : s.Logged entries) {p : Pipeline} (hsame : s.toPipeline.SameRun p) :
    { s with toPipeline := p }.Logged entries where
  records := h.records
  runIds := by
    rw [hsame.resolved]
    exact h.runIds
  scenarioIds := by
    rw [hsame.currentScenarioId]
    exact h.scenarioIds
  numbered := h.numbered
  ordered := h.ordered

/-- A record is appended after all others. -/
theorem Logged.appendRecord {s : Supervisor} {entries : List NormalizedEvent}
    (h : s.Logged entries) (otherRecords : ℕ) (event : NormalizedEvent) :
    (s.appendRecord otherRecords event).Logged (entries ++ [event]) := by
  have hmem : ∀ {P : StoredRecord → Prop} {fresh : StoredRecord},
      (∀ record ∈ s.storage.normalizedEventLog, P record) → P fresh →
        ∀ record ∈ s.storage.normalizedEventLog ++ [fresh], P record := by
    intro P fresh hall hfresh record hrecord
    rcases List.mem_append.mp hrecord with hold | hnew
    · exact hall record hold
    · rw [List.mem_singleton.mp hnew]
      exact hfresh
  have hsequence : s.recordSequence < (s.appendRecord otherRecords event).recordSequence := by
    change s.recordSequence < s.recordSequence + otherRecords + 1
    omega
  constructor
  · change (s.storage.normalizedEventLog ++ [_]).map StoredRecord.record = entries ++ [event]
    rw [List.map_append, h.records]
    rfl
  · exact hmem h.runIds rfl
  · exact hmem h.scenarioIds rfl
  · refine hmem ?_ ⟨_, le_refl _, rfl⟩
    intro record hrecord
    obtain ⟨n, hn, hnumber⟩ := h.numbered record hrecord
    exact ⟨n, hn.trans hsequence.le, hnumber⟩
  · apply List.pairwise_append.mpr
    refine ⟨h.ordered, List.pairwise_singleton _ _, ?_⟩
    intro record hrecord fresh hfresh
    obtain ⟨n, hn, hnumber⟩ := h.numbered record hrecord
    rw [List.mem_singleton.mp hfresh]
    exact ⟨n, _, hnumber, rfl, by omega⟩

theorem toPipeline_persist (s : Supervisor) (ambient : Ambient) (events : List NormalizedEvent) :
    (s.persist ambient events).toPipeline = s.toPipeline ∧
      (s.persist ambient events).persistNormalizedEvents = s.persistNormalizedEvents := by
  unfold persist
  split
  · generalize events.zipIdx = stamped
    have hfold : ∀ t : Supervisor,
        (stamped.foldl (fun s e => s.appendRecord (ambient.otherRecords e.2) e.1) t).toPipeline =
            t.toPipeline ∧
          (stamped.foldl (fun s e => s.appendRecord (ambient.otherRecords e.2) e.1)
            t).persistNormalizedEvents = t.persistNormalizedEvents := by
      induction stamped with
      | nil => exact fun _ => ⟨rfl, rfl⟩
      | cons e stamped ih => exact fun t => ih (t.appendRecord (ambient.otherRecords e.2) e.1)
    exact hfold s
  · exact ⟨rfl, rfl⟩

theorem persists_persist (s : Supervisor) (ambient : Ambient) (events : List NormalizedEvent) :
    (s.persist ambient events).persists = s.persists := by
  obtain ⟨hpipeline, hmode⟩ := s.toPipeline_persist ambient events
  unfold persists
  rw [hpipeline, hmode]

theorem persists_withPipeline (s : Supervisor) {p : Pipeline}
    (hsame : s.toPipeline.SameRun p) :
    ({ s with toPipeline := p } : Supervisor).persists = s.persists := by
  unfold persists
  rw [hsame.resolved]

/-- The events that a step persists follow what the log holds. -/
theorem Logged.persist {s : Supervisor} {entries : List NormalizedEvent} (h : s.Logged entries)
    (hpersists : s.persists = true) (ambient : Ambient) (events : List NormalizedEvent) :
    (s.persist ambient events).Logged (entries ++ events) := by
  have hfold : ∀ (stamped : List (NormalizedEvent × ℕ)) (t : Supervisor)
      (known : List NormalizedEvent), t.Logged known →
        (stamped.foldl (fun s e => s.appendRecord (ambient.otherRecords e.2) e.1) t).Logged
          (known ++ stamped.map Prod.fst) := by
    intro stamped
    induction stamped with
    | nil =>
        intro t known ht
        rw [List.map_nil, List.append_nil]
        exact ht
    | cons e stamped ih =>
        intro t known ht
        rw [List.map_cons, List.append_cons]
        exact ih _ _ (ht.appendRecord _ _)
  unfold Supervisor.persist
  rw [if_pos hpersists]
  have hlogged := hfold events.zipIdx s entries h
  rwa [List.zipIdx_map_fst] at hlogged

/-! ## Runs -/

section Runs

variable [IterationOrder]

/-- The pipeline of a fresh supervisor. -/
def freshPipeline (config : RuntimeResolvedConfig) (scenarioId : Option String) : Pipeline :=
  { (Supervisor.new config {}).toPipeline with currentScenarioId := scenarioId }

/-- The pipeline of a run is that of the journaled system. -/
theorem toPipeline_processAll (s : Supervisor) (inputs : List (Ambient × NormalizedEvent)) :
    (s.processAll inputs).toPipeline = Pipeline.journaled.run s.toPipeline inputs := by
  unfold processAll
  induction inputs generalizing s with
  | nil => rfl
  | cons input inputs ih =>
      rw [List.foldl_cons, ih, Journaled.run_cons, process, (toPipeline_persist _ _ _).1]
      rfl

theorem toPipeline_finalizeRun (s : Supervisor) (ambient : Ambient) (unixNow : OffsetDateTime) :
    (s.finalizeRun ambient unixNow).toPipeline = (s.toPipeline.finalize ambient unixNow).1 :=
  (toPipeline_persist _ _ _).1

theorem Logged.process {s : Supervisor} {entries : List NormalizedEvent} (h : s.Logged entries)
    (hpersists : s.persists = true) (ambient : Ambient) (event : NormalizedEvent) :
    (s.process ambient event).Logged
        (entries ++ (Pipeline.journaled.step ambient s.toPipeline event).2) ∧
      (s.process ambient event).persists = true := by
  have hsame : s.toPipeline.SameRun (Pipeline.journaled.step ambient s.toPipeline event).1 :=
    s.toPipeline.sameRun_handleEvent ambient event _
  have hnext := (s.persists_withPipeline hsame).trans hpersists
  exact ⟨(h.withPipeline hsame).persist hnext ambient _, (persists_persist _ _ _).trans hnext⟩

/-- The log of a run is the journal of its pipeline. -/
theorem Logged.processAll {s : Supervisor} {entries : List NormalizedEvent}
    (h : s.Logged entries) (hpersists : s.persists = true)
    (inputs : List (Ambient × NormalizedEvent)) :
    (s.processAll inputs).Logged
        (entries ++ Pipeline.journaled.journal s.toPipeline inputs) ∧
      (s.processAll inputs).persists = true := by
  induction inputs generalizing s entries with
  | nil =>
      refine ⟨?_, hpersists⟩
      rw [Journaled.journal, List.append_nil]
      exact h
  | cons input inputs ih =>
      obtain ⟨hlogged, hnext⟩ := h.process hpersists input.1 input.2
      obtain ⟨hrest, hpersisted⟩ := ih hlogged hnext
      refine ⟨?_, hpersisted⟩
      have hpipeline : (s.process input.1 input.2).toPipeline =
          (Pipeline.journaled.step input.1 s.toPipeline input.2).1 :=
        (toPipeline_persist _ _ _).1
      rw [hpipeline, List.append_assoc] at hrest
      exact hrest

theorem Logged.finalizeRun {s : Supervisor} {entries : List NormalizedEvent}
    (h : s.Logged entries) (hpersists : s.persists = true) (ambient : Ambient)
    (unixNow : OffsetDateTime) :
    (s.finalizeRun ambient unixNow).Logged
      (entries ++ (s.toPipeline.finalize ambient unixNow).2) := by
  have hsame := s.toPipeline.sameRun_finalize ambient unixNow
  exact (h.withPipeline hsame).persist ((s.persists_withPipeline hsame).trans hpersists) _ _

end Runs

end Supervisor

/-! ## Reading the log back -/

theorem StoredRecord.Precedes.isLE {left right : StoredRecord} (h : left.Precedes right) :
    (compareBySequence left right).isLE = true := by
  obtain ⟨m, n, hleft, hright, hlt⟩ := h
  have hcompare : compare (some m) (some n) = .lt := Nat.compare_eq_lt.mpr hlt
  unfold compareBySequence
  rw [hleft, hright, hcompare]
  rfl

theorem maxBy_mem {α : Type} (compareKeys : α → α → Ordering) {entries : List α} {best : α}
    (h : maxBy compareKeys entries = some best) : best ∈ entries := by
  cases entries with
  | nil => cases h
  | cons first rest =>
      cases h
      have hfold : ∀ (rest : List α) (first : α), rest.foldl
          (fun best next => if compareKeys best next = .gt then best else next) first ∈
            first :: rest := by
        intro rest
        induction rest with
        | nil => simp
        | cons next rest ih =>
            intro first
            rw [List.foldl_cons]
            rcases List.mem_cons.mp (ih _) with hhead | htail
            · rw [hhead]
              split
              · exact List.mem_cons_self
              · simp
            · exact List.mem_cons_of_mem _ (List.mem_cons_of_mem _ htail)
      exact hfold rest first

theorem isSome_maxBy {α : Type} (compareKeys : α → α → Ordering) {entries : List α}
    (h : entries ≠ []) : (maxBy compareKeys entries).isSome = true := by
  cases entries with
  | nil => exact absurd rfl h
  | cons first rest => rfl

namespace Supervisor

/-- The replay order of a log is the order in which it was written. -/
theorem Logged.deterministicReplay {s : Supervisor} {entries : List NormalizedEvent}
    (h : s.Logged entries) :
    s.storage.deterministicReplayForRunAndScenario (some s.resolved.runId) none =
      s.storage.normalizedEventLog.filter fun record => record.record.isReplaySourceEvent := by
  have hread : s.storage.readNormalizedEventsFiltered (some s.resolved.runId) none =
      s.storage.normalizedEventLog := by
    unfold StorageEngine.readNormalizedEventsFiltered
    rw [List.filter_eq_self]
    intro record hrecord
    simp [h.runIds record hrecord]
  have hnumbered : (s.storage.normalizedEventLog.filter fun record =>
      record.record.isReplaySourceEvent).all fun record =>
        record.runtimeSequenceNumber.isSome := by
    rw [List.all_eq_true]
    intro record hrecord
    obtain ⟨n, -, hnumber⟩ := h.numbered record (List.mem_of_mem_filter hrecord)
    rw [hnumber]
    rfl
  unfold StorageEngine.deterministicReplayForRunAndScenario
  simp only
  rw [hread, if_pos hnumbered]
  apply List.Pairwise.insertionSort_eq
  exact (h.ordered.filter _).imp StoredRecord.Precedes.isLE

/-- The latest run of a log is the run that wrote it. -/
theorem Logged.latestRunId {s : Supervisor} {entries : List NormalizedEvent}
    (h : s.Logged entries) (runs : List RunMetadata) :
    { s.storage with runs := runs }.latestNormalizedEventRunId =
      if entries = [] then none else some s.resolved.runId := by
  have hrunId : ∀ runId ∈ s.storage.normalizedEventLog.filterMap StoredRecord.runId,
      runId = s.resolved.runId := by
    intro runId hmem
    obtain ⟨record, hrecord, heq⟩ := List.mem_filterMap.mp hmem
    rw [h.runIds record hrecord] at heq
    exact (Option.some.inj heq).symm
  unfold StorageEngine.latestNormalizedEventRunId
  simp only
  split
  next run hcompleted =>
    have hmem := (List.mem_filter.mp (maxBy_mem _ hcompleted)).2
    simp only [decide_eq_true_eq] at hmem
    have hentries : entries ≠ [] := by
      rw [← h.records, Ne, List.map_eq_nil_iff]
      intro hnil
      simp [hnil] at hmem
    rw [if_neg hentries, hrunId _ hmem.2]
  next =>
    by_cases hentries : entries = []
    · have hnil : s.storage.normalizedEventLog = [] := by
        rw [← List.map_eq_nil_iff, h.records, hentries]
      rw [if_pos hentries, hnil]
      rfl
    · rw [if_neg hentries]
      have hlog : s.storage.normalizedEventLog ≠ [] := by
        rw [Ne, ← List.map_eq_nil_iff (f := StoredRecord.record), h.records]
        exact hentries
      generalize hstamped : s.storage.normalizedEventLog.filterMap (fun record =>
        record.runId.map fun runId =>
          (record.noLookaheadTimestamp.getD unixEpoch, runId)) = stamped
      have hne : stamped ≠ [] := by
        obtain ⟨record, hrecord⟩ := List.exists_mem_of_ne_nil _ hlog
        rw [← hstamped]
        apply List.ne_nil_of_mem
        exact List.mem_filterMap.mpr ⟨record, hrecord, by rw [h.runIds record hrecord]; rfl⟩
      obtain ⟨latest, hlatest⟩ := Option.isSome_iff_exists.mp (isSome_maxBy
        (fun left right => (compare left.1 right.1).then (compare left.2 right.2)) hne)
      have hmem := maxBy_mem _ hlatest
      rw [← hstamped] at hmem
      obtain ⟨record, hrecord, heq⟩ := List.mem_filterMap.mp hmem
      rw [h.runIds record hrecord] at heq
      rw [hlatest, ← Option.some.inj heq]
      rfl

/-- The records of a log form one group, under the scenario of the run. -/
theorem Logged.groups {s : Supervisor} {entries : List NormalizedEvent}
    (h : s.Logged entries) :
    groupRecordsByScenario (s.storage.normalizedEventLog.filter fun record =>
        record.record.isReplaySourceEvent) =
      if entries.filter NormalizedEvent.isReplaySourceEvent = [] then []
      else [(s.currentScenarioId, entries.filter NormalizedEvent.isReplaySourceEvent)] := by
  generalize hkept : (s.storage.normalizedEventLog.filter fun record =>
    record.record.isReplaySourceEvent) = kept
  have hrecords : kept.map StoredRecord.record =
      entries.filter NormalizedEvent.isReplaySourceEvent := by
    rw [← hkept, ← h.records, List.filter_map]
    rfl
  have hscenario : ∀ record ∈ kept, record.scenarioId = s.currentScenarioId := by
    intro record hrecord
    rw [← hkept] at hrecord
    exact h.scenarioIds record (List.mem_of_mem_filter hrecord)
  have hids : kept.map StoredRecord.scenarioId =
      List.replicate kept.length s.currentScenarioId := by
    rw [List.eq_replicate_iff, List.length_map]
    refine ⟨rfl, ?_⟩
    intro id hid
    obtain ⟨record, hrecord, rfl⟩ := List.mem_map.mp hid
    exact hscenario record hrecord
  rw [← hrecords]
  unfold groupRecordsByScenario
  rw [hids]
  cases hnil : kept with
  | nil => rfl
  | cons first rest =>
      have hfilter : (first :: rest).filter (fun record =>
          record.scenarioId = s.currentScenarioId) = first :: rest := by
        rw [List.filter_eq_self, ← hnil]
        intro record hrecord
        simp [hscenario record hrecord]
      rw [List.replicate_dedup (by simp)]
      simp [hfilter]

end Supervisor

end PumpLaunchTrader
