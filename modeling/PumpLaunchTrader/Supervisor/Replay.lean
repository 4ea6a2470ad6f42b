import PumpLaunchTrader.Supervisor.HardBlocks
import PumpLaunchTrader.Supervisor.MapOrders
import PumpLaunchTrader.Supervisor.RunEnd

/-! # Replay of a recorded run

A replay handles the events of the log that `is_replay_source_event` keeps. Handling an
event generates none of these, so that the replay handles the ingested source events in
order. When every ingested event is one, it decides as the recorded run did and, but for
the clock that the end of a run falls back on, reaches its state, in whatever order the two
iterate their maps when the events are order-free; an ingested event that is no source
event, such as a terminal, is lost. -/

namespace PumpLaunchTrader

namespace Supervisor

/-- What a run reads from outside but its events: the runs before it and, at its end, ids and
clocks. -/
structure RunSetting where
  runs : List RunMetadata
  ambient : Ambient
  unixNow : OffsetDateTime

/-- What a replay has of its own. -/
structure ReplaySetting where
  runId : String
  runs : List RunMetadata
  ambient : Option String → ℕ → Ambient
  unixNow : OffsetDateTime

section runs

variable [IterationOrder] [PendingOrder]

/-- A fresh supervisor that handles a sequence of events and ends its run. -/
def recordedRun (config : RuntimeResolvedConfig) (scenarioId : Option String)
    (inputs : List (Ambient × NormalizedEvent)) (run : RunSetting) : Supervisor :=
  ({ Supervisor.new config { runs := run.runs } with
    currentScenarioId := scenarioId }.processAll inputs).finalizeRun run.ambient run.unixNow

/-- A replay of the log of a run, by a supervisor of the same configuration under a run id
of its own. -/
def replay (original : Supervisor) (config : RuntimeResolvedConfig) (later : ReplaySetting) :
    ReplayRun :=
  (Supervisor.new { config with runId := later.runId }
    { original.storage with runs := later.runs }).runFromStore later.ambient later.unixNow

/-- The child that replays events of the scenario of a run. -/
def replayChild (original : Supervisor) (config : RuntimeResolvedConfig) (later : ReplaySetting)
    (events : List NormalizedEvent) : Supervisor :=
  (Supervisor.new { config with runId := later.runId }
    { original.storage with runs := later.runs }).replayScenario original.resolved.runId
      (later.ambient original.currentScenarioId) later.unixNow original.currentScenarioId events

end runs

/-- The replay handles the ingested events, decides as the run did and ends in its state. -/
structure ReplayEquivalent (events : List NormalizedEvent) (original : Supervisor)
    (replayed : ReplayRun) : Prop where
  handled : replayed.handled = events
  decisions : (replayed.decisions.map fun d => (d.decision, d.reasonCodes)) =
    original.decisions.map fun d => (d.decision, d.reasonCodes)
  engines : ∀ child ∈ replayed.children, child.stateEngine = original.stateEngine
  snapshot : replayed.snapshot = original.stateEngine.snapshot

/-- The pipeline that has handled a sequence of events. -/
def drainedPipeline (config : RuntimeResolvedConfig) (scenarioId : Option String)
    (inputs : List (Ambient × NormalizedEvent)) : Pipeline :=
  Pipeline.journaled.run (freshPipeline config scenarioId) inputs

variable (config : RuntimeResolvedConfig) (scenarioId : Option String)
  (inputs : List (Ambient × NormalizedEvent)) (run : RunSetting)

/-! ## The recorded run -/

theorem toPipeline_recordedRun :
    (recordedRun config scenarioId inputs run).toPipeline =
      ((drainedPipeline config scenarioId inputs).finalize run.ambient run.unixNow).1 := by
  unfold recordedRun
  rw [toPipeline_finalizeRun, toPipeline_processAll]
  rfl

/-- The log of a recorded run: the journal of its pipeline, then the final expiry. -/
theorem logged_recordedRun (hmode : config.edgeCollectorMode = false) :
    (recordedRun config scenarioId inputs run).Logged
      (Pipeline.journaled.journal (freshPipeline config scenarioId) inputs ++
        ((drainedPipeline config scenarioId inputs).finalize run.ambient run.unixNow).2) := by
  have hpersists : { Supervisor.new config { runs := run.runs } with
      currentScenarioId := scenarioId }.persists = true := by
    simp [persists, Supervisor.new, hmode]
  obtain ⟨hlogged, hnext⟩ :=
    (logged_new config run.runs scenarioId).processAll hpersists inputs
  have hfinal := hlogged.finalizeRun hnext run.ambient run.unixNow
  rw [toPipeline_processAll] at hfinal
  exact hfinal

/-- The source events of the log of a run are those that were ingested. -/
theorem filter_log_recordedRun :
    (Pipeline.journaled.journal (freshPipeline config scenarioId) inputs ++
        ((drainedPipeline config scenarioId inputs).finalize run.ambient run.unixNow).2).filter
          NormalizedEvent.isReplaySourceEvent =
      (inputs.map Prod.snd).filter NormalizedEvent.isReplaySourceEvent := by
  have hexpired : ((drainedPipeline config scenarioId inputs).finalize run.ambient
      run.unixNow).2.filter NormalizedEvent.isReplaySourceEvent = [] := by
    rw [List.filter_eq_nil_iff]
    intro event hevent
    have hsignals := Pipeline.shredSignals_finalize (drainedPipeline config scenarioId inputs)
      run.ambient run.unixNow
    simp [isReplaySourceEvent_of_isGenerated (hsignals.generated event hevent)]
  rw [List.filter_append, hexpired, List.append_nil]
  exact Pipeline.lawful_journaled.filter_journal _ inputs

theorem sameRun_recordedRun :
    (freshPipeline config scenarioId).SameRun
      (recordedRun config scenarioId inputs run).toPipeline := by
  rw [toPipeline_recordedRun]
  exact (Pipeline.sameRun_run _ inputs).trans (Pipeline.sameRun_finalize _ _ _)

/-- An order-free run is recorded alike in every order. -/
theorem recordedRun_order (order : IterationOrder) (settling : PendingOrder)
    (h : (freshPipeline config scenarioId).OrderFreeRun inputs) :
    @recordedRun order settling config scenarioId inputs run =
      @recordedRun insertionOrder trackingOrder config scenarioId inputs run := by
  unfold recordedRun
  rw [processAll_order order settling _ h, finalizeRun_order order]

/-! ## The replay -/

variable (later : ReplaySetting)

/-- What a replay of a log reports: one child replays its source events, if there are any. -/
theorem replay_of_logged [IterationOrder] [PendingOrder] {original : Supervisor}
    {entries : List NormalizedEvent} (h : original.Logged entries) {events : List NormalizedEvent}
    (hevents : entries.filter NormalizedEvent.isReplaySourceEvent = events) :
    original.replay config later =
      if events = [] then
        { groups := []
          children := []
          decisions := []
          snapshot := (StateEngine.new config.ttl).snapshot }
      else
        { groups := [(original.currentScenarioId, events)]
          children := [original.replayChild config later events]
          decisions := (original.replayChild config later events).decisions
          snapshot := mergeSnapshots none
            (original.replayChild config later events).stateEngine.snapshot } := by
  have hlatest := h.latestRunId later.runs
  have hgroups : groupRecordsByScenario
      ({ original.storage with runs := later.runs }.deterministicReplayForRunAndScenario
        (some original.resolved.runId) none) =
      if events = [] then [] else [(original.currentScenarioId, events)] := by
    have hrecords := h.deterministicReplay
    rw [← hevents, ← h.groups, ← hrecords]
    rfl
  unfold replay runFromStore runFromStoreSelection
  simp only [Supervisor.new]
  rw [hlatest]
  by_cases hentries : entries = []
  · have hnil : events = [] := by
      rw [← hevents, hentries]
      rfl
    rw [if_pos hentries, if_pos hnil]
    rfl
  · rw [if_neg hentries]
    simp only [Option.orElse]
    rw [hgroups]
    by_cases hnil : events = []
    · rw [if_pos hnil, if_pos hnil]
      rfl
    · rw [if_neg hnil, if_neg hnil]
      simp only [List.map_cons, List.map_nil, List.flatMap_cons, List.flatMap_nil,
        List.append_nil, List.foldl_cons, List.foldl_nil, Option.getD_some]
      rfl

/-- A child replays under the run id of the recorded run and in its scenario. -/
theorem replayChild_eq [IterationOrder] [PendingOrder] {original : Supervisor}
    (hsame : (freshPipeline config scenarioId).SameRun original.toPipeline)
    (events : List NormalizedEvent) :
    original.replayChild config later events =
      (Supervisor.new { config with runId := later.runId }
        { original.storage with runs := later.runs }).replayScenario config.runId
          (later.ambient scenarioId) later.unixNow scenarioId events := by
  have hrun : original.resolved.runId = config.runId := by
    rw [hsame.resolved]
    rfl
  have hscenario : original.currentScenarioId = scenarioId := hsame.currentScenarioId
  unfold replayChild
  rw [hrun, hscenario]

theorem map_snd_replayed (ambient : ℕ → Ambient) (events : List NormalizedEvent) :
    (events.zipIdx.map fun e => (ambient e.2, e.1)).map Prod.snd = events := by
  rw [List.map_map]
  exact List.zipIdx_map_fst 0 _

theorem replayScenario_order (order : IterationOrder) (settling : PendingOrder) (s : Supervisor)
    (sourceRunId : String) (ambient : ℕ → Ambient) (events : List NormalizedEvent)
    (h : { (Supervisor.new s.resolved s.storage).toPipeline with
      sourceRunId := some sourceRunId
      currentScenarioId := scenarioId }.OrderFreeRun
        (events.zipIdx.map fun (event, i) => (ambient i, event))) :
    @replayScenario order settling s sourceRunId ambient later.unixNow scenarioId events =
      @replayScenario insertionOrder trackingOrder s sourceRunId ambient later.unixNow scenarioId
        events := by
  have hchild := processAll_order order settling { Supervisor.new s.resolved s.storage with
    persistNormalizedEvents := false
    sourceRunId := some sourceRunId
    currentScenarioId := scenarioId } h
  unfold replayScenario
  simp only [hchild, finalizeRun_order order]

/-- A child that replays an order-free run is the same in every order. -/
theorem replayChild_order (order : IterationOrder) (settling : PendingOrder)
    {original : Supervisor}
    (hsame : (freshPipeline config scenarioId).SameRun original.toPipeline)
    (h : (freshPipeline config scenarioId).OrderFreeRun inputs) :
    @replayChild order settling original config later (inputs.map Prod.snd) =
      @replayChild insertionOrder trackingOrder original config later (inputs.map Prod.snd) := by
  rw [@replayChild_eq config scenarioId later order settling _ hsame,
    @replayChild_eq config scenarioId later insertionOrder trackingOrder _ hsame]
  exact replayScenario_order scenarioId later order settling _ _ _ _
    (h.underRun (map_snd_replayed _ _).symm _)

/-- A child that replays the ingested events starts as the recorded run did, under its own run
id, and handles them alike. -/
theorem toPipeline_replayChild :
    ((recordedRun config scenarioId inputs run).replayChild config later
        (inputs.map Prod.snd)).toPipeline =
      ((drainedPipeline config scenarioId inputs).finalize run.ambient
        later.unixNow).1.underRun later.runId := by
  have hdrained : Pipeline.journaled.run ((freshPipeline config scenarioId).underRun later.runId)
      ((inputs.map Prod.snd).zipIdx.map fun e => (later.ambient scenarioId e.2, e.1)) =
        (drainedPipeline config scenarioId inputs).underRun later.runId := by
    rw [Pipeline.run_underRun, Pipeline.lawful_journaled.run_congr _ (map_snd_replayed _ _)]
    rfl
  rw [replayChild_eq config scenarioId later (sameRun_recordedRun config scenarioId inputs run)]
  unfold replayScenario
  rw [toPipeline_finalizeRun, toPipeline_processAll]
  change ((Pipeline.journaled.run ((freshPipeline config scenarioId).underRun later.runId)
    _).finalize _ _).1 = _
  rw [hdrained, Pipeline.finalize_underRun, Prod.map_fst, Pipeline.finalize_steady _ _ run.ambient]

theorem mergeSnapshots_none (snapshot : StateSnapshot) :
    mergeSnapshots none snapshot = snapshot := by
  simp [mergeSnapshots, AList.union_empty]

section logged

variable (hmode : config.edgeCollectorMode = false)

include hmode

/-- The replay of a recorded run handles the source events among those it ingested. -/
theorem handled_replay_recordedRun [IterationOrder] [PendingOrder] :
    ((@recordedRun insertionOrder trackingOrder config scenarioId inputs run).replay config
        later).handled =
      (inputs.map Prod.snd).filter NormalizedEvent.isReplaySourceEvent := by
  rw [replay_of_logged config later (logged_recordedRun config scenarioId inputs run hmode)
    (filter_log_recordedRun config scenarioId inputs run)]
  split
  next hnil =>
    rw [hnil]
    rfl
  next => simp [ReplayRun.handled]

/-- A replay of an order-free run that ingested source events only is the same in every
order. -/
theorem replay_order (order : IterationOrder) (settling : PendingOrder)
    (hfree : (freshPipeline config scenarioId).OrderFreeRun inputs)
    (hsource : ∀ event ∈ inputs.map Prod.snd, event.isReplaySourceEvent = true) :
    @replay order settling
        (@recordedRun insertionOrder trackingOrder config scenarioId inputs run) config later =
      @replay insertionOrder trackingOrder
        (@recordedRun insertionOrder trackingOrder config scenarioId inputs run) config later := by
  have hlogged := logged_recordedRun config scenarioId inputs run hmode
  have hevents := (filter_log_recordedRun config scenarioId inputs run).trans
    (List.filter_eq_self.mpr hsource)
  have hchild := replayChild_order config scenarioId inputs later order settling
    (sameRun_recordedRun config scenarioId inputs run) hfree
  rw [@replay_of_logged config later order settling _ _ hlogged _ hevents,
    @replay_of_logged config later insertionOrder trackingOrder _ _ hlogged _ hevents, hchild]

/-- The replay of a recorded run that ingested source events only and ends alike. -/
theorem replayEquivalent_of_source
    (hends : (drainedPipeline config scenarioId inputs).EndsAlike run.unixNow later.unixNow)
    (hsource : ∀ event ∈ inputs.map Prod.snd, event.isReplaySourceEvent = true) :
    ReplayEquivalent (inputs.map Prod.snd) (recordedRun config scenarioId inputs run)
      ((recordedRun config scenarioId inputs run).replay config later) := by
  have hhandled := handled_replay_recordedRun config scenarioId inputs run later hmode
  have hreplay := replay_of_logged config later
    (logged_recordedRun config scenarioId inputs run hmode)
    (filter_log_recordedRun config scenarioId inputs run)
  rw [List.filter_eq_self.mpr hsource] at hhandled hreplay
  by_cases hnil : inputs.map Prod.snd = []
  · -- A run without events ends in the state of a fresh engine.
    obtain rfl := List.map_eq_nil_iff.mp hnil
    rw [if_pos hnil] at hreplay
    have hfresh := toPipeline_recordedRun config scenarioId [] run
    constructor
    · exact hhandled
    · rw [hreplay, decisions, hfresh]
      rfl
    · rw [hreplay]
      intro child hchild
      cases hchild
    · rw [hreplay, hfresh]
      rfl
  · rw [if_neg hnil] at hreplay
    have hchild := toPipeline_replayChild config scenarioId inputs run later
    rw [← Pipeline.finalize_of_endsAlike hends run.ambient run.ambient,
      ← toPipeline_recordedRun config scenarioId inputs run] at hchild
    constructor
    · exact hhandled
    · rw [hreplay]
      unfold decisions
      simp only
      rw [hchild]
      rfl
    · rw [hreplay]
      intro child hmem
      rw [List.mem_singleton.mp hmem, hchild]
      rfl
    · rw [hreplay]
      simp only
      rw [mergeSnapshots_none, hchild]
      rfl

/-- A replay that is equivalent ends as the run did. -/
theorem endsAlike_of_replayEquivalent
    (hsource : ∀ event ∈ inputs.map Prod.snd, event.isReplaySourceEvent = true)
    (h : ReplayEquivalent (inputs.map Prod.snd) (recordedRun config scenarioId inputs run)
      ((recordedRun config scenarioId inputs run).replay config later)) :
    (drainedPipeline config scenarioId inputs).EndsAlike run.unixNow later.unixNow := by
  by_cases hnil : inputs.map Prod.snd = []
  · -- Nothing is pending at the end of a run without events.
    obtain rfl := List.map_eq_nil_iff.mp hnil
    exact Or.inr (fun pending hpending => absurd hpending List.not_mem_nil)
  · have hchild := toPipeline_replayChild config scenarioId inputs run later
    have hengine := h.engines
      ((recordedRun config scenarioId inputs run).replayChild config later (inputs.map Prod.snd))
    rw [replay_of_logged config later (logged_recordedRun config scenarioId inputs run hmode)
      ((filter_log_recordedRun config scenarioId inputs run).trans
        (List.filter_eq_self.mpr hsource)), if_neg hnil] at hengine
    have hsame := hengine List.mem_cons_self
    rw [hchild, toPipeline_recordedRun] at hsame
    exact (Pipeline.stateEngine_finalize_eq_iff _ run.ambient run.ambient run.unixNow
      later.unixNow).mp hsame.symm

end logged

/-! ## Concrete inputs -/

/-- A token that migrates. -/
def sampleMigration : NormalizedEvent :=
  { info :=
      { eventId := ⟨"e2"⟩
        source := .geyserProcessed
        canonicality := .processed
        slot := 2 }
    payload := .tokenTerminal
      { mint := ⟨"mint"⟩
        variant := .migrated
        reasonCodes := [] } }

/-- A balance of an owner, in an account of the same name. -/
def sampleHolder (owner : String) (balance : Decimal) : NormalizedEvent :=
  { sampleMigration with
    payload := .holderBalanceUpdate
      { mint := ⟨"mint"⟩
        ownerWallet := ⟨owner⟩
        tokenAccount := ⟨owner⟩
        newBalance := balance } }

/-- A token with two holders, one of whom is seen to sell before the sell is confirmed. -/
def sampleInputs : List (Ambient × NormalizedEvent) :=
  [sampleCreation, sampleHolder "creator" 5, sampleHolder "seller" 30,
    sampleSell "first" (some "signature") .tentative 1,
    sampleSell "second" (some "signature") .confirmed 2].map fun event => (sampleAmbient, event)

def sellConfig : RuntimeResolvedConfig :=
  { sampleConfig with shredExit := { tentativeReconciliationTtlMs := 5000 } }

/-- The owner maps from their end. -/
@[reducible]
def reversedOwners : IterationOrder where
  arrange state := state.ownerBalances.entries.reverse
  perm _ := List.reverse_perm _

def sampleRun : RunSetting where
  runs := []
  ambient := sampleAmbient
  unixNow := unixEpoch

def sampleReplay : ReplaySetting where
  runId := "replay"
  runs := []
  ambient _ _ := sampleAmbient
  unixNow := unixEpoch + Duration.milliseconds 1

/-! ## Replay equivalence -/

/-- Whatever events a fresh supervisor ingests, when each of them is order-free, the replay of
its log is equivalent to the run, in whatever orders the two iterate their maps, exactly when
every ingested event is a source event and both end alike. -/
theorem replayEquivalent_iff (order laterOrder : IterationOrder)
    (settling laterSettling : PendingOrder) (config : RuntimeResolvedConfig)
    (hmode : config.edgeCollectorMode = false) (scenarioId : Option String)
    (inputs : List (Ambient × NormalizedEvent))
    (hfree : (freshPipeline config scenarioId).OrderFreeRun inputs) (run : RunSetting)
    (later : ReplaySetting) :
    ReplayEquivalent (inputs.map Prod.snd)
        (@recordedRun order settling config scenarioId inputs run)
        (@replay laterOrder laterSettling
          (@recordedRun order settling config scenarioId inputs run) config later) ↔
      (∀ event ∈ inputs.map Prod.snd, event.isReplaySourceEvent = true) ∧
        (drainedPipeline config scenarioId inputs).EndsAlike run.unixNow later.unixNow := by
  rw [recordedRun_order config scenarioId inputs run order settling hfree]
  constructor
  · intro h
    have hhandled := h.handled
    rw [@handled_replay_recordedRun config scenarioId inputs run later hmode laterOrder
      laterSettling] at hhandled
    have hsource := List.filter_eq_self.mp hhandled
    rw [replay_order config scenarioId inputs run later hmode laterOrder laterSettling hfree
      hsource] at h
    exact ⟨hsource, endsAlike_of_replayEquivalent config scenarioId inputs run later hmode
      hsource h⟩
  · rintro ⟨hsource, hends⟩
    rw [replay_order config scenarioId inputs run later hmode laterOrder laterSettling hfree
      hsource]
    exact replayEquivalent_of_source config scenarioId inputs run later hmode hends hsource

/-- The replay of a run with a tentative sell, at another time and with the owners iterated the
other way. -/
theorem replayEquivalent_sells :
    ReplayEquivalent (sampleInputs.map Prod.snd)
      (@recordedRun reversedOwners trackingOrder sellConfig none sampleInputs sampleRun)
      (@replay insertionOrder trackingOrder
        (@recordedRun reversedOwners trackingOrder sellConfig none sampleInputs sampleRun)
        sellConfig sampleReplay) :=
  (replayEquivalent_iff reversedOwners insertionOrder trackingOrder trackingOrder sellConfig rfl
    none sampleInputs (by decide +kernel) sampleRun sampleReplay).mpr
    ⟨by decide, Or.inl (by decide +kernel)⟩

/-- The replay loses an ingested migration, and the token is still active when it ends. -/
theorem replay_loses_terminal : ¬ ∀ (config : RuntimeResolvedConfig),
    config.edgeCollectorMode = false → ∀ (scenarioId : Option String)
      (inputs : List (Ambient × NormalizedEvent)) (run : RunSetting) (later : ReplaySetting),
      (drainedPipeline config scenarioId inputs).EndsAlike run.unixNow later.unixNow →
        ReplayEquivalent (inputs.map Prod.snd) (recordedRun config scenarioId inputs run)
          ((recordedRun config scenarioId inputs run).replay config later) := by
  intro h
  have hequivalent := h sampleConfig rfl none
    [(sampleAmbient, sampleCreation), (sampleAmbient, sampleMigration)] sampleRun sampleReplay
    (Or.inr (by decide +kernel))
  have hlifecycle := congrArg
    (fun snapshot : StateSnapshot => (snapshot.tokens.lookup "mint").map TokenState.lifecycle)
    hequivalent.snapshot
  exact absurd hlifecycle (by decide +kernel)

end Supervisor

end PumpLaunchTrader
