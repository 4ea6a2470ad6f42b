import PumpLaunchTrader.Lib.Runs
import PumpLaunchTrader.Supervisor.HardBlocks
import PumpLaunchTrader.Supervisor.LiveSteps

/-! # The log and the segments of a live run

What is ingested and what the manager of tentative sells derives goes to the log and to the
segments. The terminals of the risk engine and the gaps of overflows go to the log alone, and
what an edge collector handles to the segments alone. -/

namespace PumpLaunchTrader

/-! ## Terminals of the risk engine -/

namespace Pipeline

/-- The risk assessment with which the middle part of handling an event ends: the first one
or, when tentative sells were settled, the second. -/
def assessedRisk (self : Pipeline) (ambient : Ambient) (event : NormalizedEvent)
    (tentative : Bool) (mint : PubkeyValue) (token : TokenState) : Option RiskAssessment :=
  let now := event.info.receivedAtWallTime
  let features := self.resolved.featureEngine token self.stateEngine now
  let risk := self.resolved.riskEngine token features now
  let settled := self.settleSells ambient event tentative mint token features risk
  if settled.2.isEmpty then some risk
  else
    (settled.1.stateEngine.token mint).map fun token =>
      settled.1.resolved.riskEngine token
        (settled.1.resolved.featureEngine token settled.1.stateEngine now) now

/-- The risk assessment with which handling an event reaches `apply_risk_terminal`. -/
def finalRisk (self : Pipeline) (ambient : Ambient) (event : NormalizedEvent)
    (tentative : Bool) : Option RiskAssessment :=
  if self.resolved.edgeCollectorMode then none
  else
    event.mint.bind fun mint =>
      let applied := self.applyEvent event
      (applied.stateEngine.token mint).bind (applied.assessedRisk ambient event tentative mint)

/-- Handling an event ends in a terminal of the risk engine. -/
def callsForTerminal (self : Pipeline) (ambient : Ambient) (event : NormalizedEvent)
    (tentative : Bool) : Bool :=
  !tentative && (self.finalRisk ambient event tentative).any fun risk =>
    (riskTerminalVariant risk.discardPolicy).isSome

/-- The events are all derived by the manager of tentative sells. -/
def AllDerived (events : List NormalizedEvent) : Prop :=
  ∀ event ∈ events, event.generatedPath = .derived

theorem allDerived_of_shredSignals {events : List NormalizedEvent} (h : ShredSignals events) :
    AllDerived events := by
  intro event hevent
  have hsignal := h event hevent
  unfold NormalizedEvent.generatedPath
  split
  · next payload hpayload =>
      rw [hpayload] at hsignal
      cases hsignal
  · rfl

theorem allDerived_append_iff {events others : List NormalizedEvent} :
    AllDerived (events ++ others) ↔ AllDerived events ∧ AllDerived others :=
  List.forall_mem_append

theorem allDerived_concludeEvent_iff (p : Pipeline) (ambient : Ambient) (event : NormalizedEvent)
    (tentative : Bool) (mint : PubkeyValue) (token : TokenState) (features : FeatureSnapshot)
    (risk : RiskAssessment) :
    AllDerived (p.concludeEvent ambient event tentative mint token features risk).2 ↔
      (!tentative && (riskTerminalVariant risk.discardPolicy).isSome) = false := by
  unfold concludeEvent
  cases tentative with
  | true => simp [AllDerived]
  | false =>
      cases riskTerminalVariant risk.discardPolicy with
      | none => simp [AllDerived]
      | some variant =>
          simp only [Bool.false_eq_true, if_false]
          have hterminal : (riskTerminalEvent ambient mint variant risk
              event.info.receivedAtWallTime).generatedPath = .riskTerminal := rfl
          split
          · simp [AllDerived, hterminal]
          · simp [AllDerived, hterminal]

theorem allDerived_assessEvent_iff (p : Pipeline) (ambient : Ambient) (event : NormalizedEvent)
    (tentative : Bool) (mint : PubkeyValue) (token : TokenState) :
    AllDerived (p.assessEvent ambient event tentative mint token).2 ↔
      (!tentative && (p.assessedRisk ambient event tentative mint token).any fun risk =>
        (riskTerminalVariant risk.discardPolicy).isSome) = false := by
  have hsettled := allDerived_of_shredSignals (p.shredSignals_settleSells ambient event tentative
    mint token (p.resolved.featureEngine token p.stateEngine event.info.receivedAtWallTime)
    (p.resolved.riskEngine token
      (p.resolved.featureEngine token p.stateEngine event.info.receivedAtWallTime)
      event.info.receivedAtWallTime))
  unfold assessEvent assessedRisk
  simp only
  split
  · simp only [Option.any_some]
    exact allDerived_concludeEvent_iff _ _ _ _ _ _ _ _
  · split
    · next hnone => simp [hnone, hsettled]
    · next token hsome =>
        rw [allDerived_append_iff, and_iff_right hsettled, hsome, Option.map_some,
          Option.any_some]
        exact allDerived_concludeEvent_iff _ _ _ _ _ _ _ _

/-- An event is handled first, and what it generates is derived but for a terminal of the risk
engine. -/
theorem allDerived_handleEvent_iff (p : Pipeline) (ambient : Ambient) (event : NormalizedEvent)
    (tentative : Bool) :
    ∃ generated, (p.handleEvent ambient event tentative).2 = event :: generated ∧
      (AllDerived generated ↔ p.callsForTerminal ambient event tentative = false) := by
  have hnil : AllDerived [] := by simp [AllDerived]
  unfold handleEvent callsForTerminal finalRisk
  simp only
  split
  · exact ⟨[], rfl, by simp [hnil]⟩
  · cases hmint : event.mint with
    | none => exact ⟨[], rfl, by simp [hnil]⟩
    | some mint =>
        simp only [Option.bind_some]
        cases htoken : (p.applyEvent event).stateEngine.token mint with
        | none => exact ⟨[], rfl, by simp [hnil]⟩
        | some token => exact ⟨_, rfl, allDerived_assessEvent_iff _ _ _ _ _ _⟩

end Pipeline

/-! ## What a run appends -/

/-- The paths on which a live run appends to both logs. -/
def PersistPath.isShared (edgeCollectorMode : Bool) : PersistPath → Bool
  | .handled => !edgeCollectorMode
  | .derived => true
  | .riskTerminal | .queueOverflow => false

namespace LiveSupervisor

/-- The records of normalized events in the segments. -/
def segmentRecords (s : LiveSupervisor) : List StoredRecord :=
  (s.segmentManager.map LiveRunSegmentManager.normalizedEvents).getD []

/-- What a supervisor has appended since another one: every record with its path, under a
sequence number of its own. -/
structure Written (start s : LiveSupervisor) (trace : List (PersistPath × StoredRecord)) :
    Prop where
  mode : s.resolved.edgeCollectorMode = start.resolved.edgeCollectorMode
  persisting : s.persistNormalizedEvents = true
  segmented : s.segmentManager.isSome
  routed : Routing.Routed (fun x => s.appendsToLog x.1) (fun x => s.appendsToSegments x.1)
    Prod.snd start.storage.normalizedEventLog start.segmentRecords
    s.storage.normalizedEventLog s.segmentRecords trace
  numbered : ∀ x ∈ trace, ∃ n ≤ s.recordSequence, x.2.runtimeSequenceNumber = some n
  nodup : (trace.map Prod.snd).Nodup

theorem written_start {start : LiveSupervisor} (hpersist : start.persistNormalizedEvents = true)
    (hsegments : start.segmentManager.isSome) : start.Written start [] where
  mode := rfl
  persisting := hpersist
  segmented := hsegments
  routed := Routing.Routed.nil _ _
  numbered := by simp
  nodup := List.nodup_nil

/-- The paths depend on the mode alone while normalized events are persisted. -/
theorem appendsTo_congr {s t : LiveSupervisor} (hs : s.persistNormalizedEvents = true)
    (ht : t.persistNormalizedEvents = true)
    (hmode : t.resolved.edgeCollectorMode = s.resolved.edgeCollectorMode) :
    t.appendsToLog = s.appendsToLog ∧ t.appendsToSegments = s.appendsToSegments := by
  constructor
  · funext path
    cases path <;> simp [appendsToLog, Supervisor.persists, hs, ht, hmode]
  · funext path
    cases path <;> simp [appendsToSegments, hs, ht, hmode]

/-- A step that appends nothing leaves what was written. -/
theorem Written.of_same_logs {start s t : LiveSupervisor}
    {trace : List (PersistPath × StoredRecord)} (h : start.Written s trace)
    (hmode : t.resolved.edgeCollectorMode = s.resolved.edgeCollectorMode)
    (hpersist : t.persistNormalizedEvents = s.persistNormalizedEvents)
    (hsegments : t.segmentManager = s.segmentManager) (hstorage : t.storage = s.storage)
    (hsequence : t.recordSequence = s.recordSequence) : start.Written t trace := by
  have hpersisting : t.persistNormalizedEvents = true := hpersist.trans h.persisting
  obtain ⟨hlog, hsegment⟩ := appendsTo_congr h.persisting hpersisting hmode
  have hrecords : t.segmentRecords = s.segmentRecords := by
    unfold segmentRecords
    rw [hsegments]
  constructor
  · exact hmode.trans h.mode
  · exact hpersisting
  · rw [hsegments]
    exact h.segmented
  · rw [hlog, hsegment, hstorage, hrecords]
    exact h.routed
  · rw [hsequence]
    exact h.numbered
  · exact h.nodup

section persistOn

variable {s : LiveSupervisor} (h : s.persistNormalizedEvents = true) (path : PersistPath)
  (otherRecords : ℕ) (event : NormalizedEvent)

include h

/-- While normalized events are persisted, every path appends its records somewhere. -/
theorem persistOn_of_persisting :
    s.persistOn path otherRecords event =
      { s with
        recordSequence := s.recordSequence + otherRecords + 1
        storage :=
          if s.appendsToLog path then
            s.storage.appendNormalizedEvent (s.tagRecord otherRecords event)
          else s.storage
        segmentManager :=
          if s.appendsToSegments path then
            s.segmentManager.map (·.appendNormalizedEvent (s.tagRecord otherRecords event))
          else s.segmentManager } := by
  unfold persistOn
  rw [if_pos]
  cases path <;> simp [appendsToLog, appendsToSegments, Supervisor.persists, h]

theorem recordSequence_persistOn :
    (s.persistOn path otherRecords event).recordSequence =
      s.recordSequence + otherRecords + 1 := by
  rw [persistOn_of_persisting h]

theorem log_persistOn :
    (s.persistOn path otherRecords event).storage.normalizedEventLog =
      if s.appendsToLog path then
        s.storage.normalizedEventLog ++ [s.tagRecord otherRecords event]
      else s.storage.normalizedEventLog := by
  rw [persistOn_of_persisting h]
  simp only
  split <;> rfl

theorem isSome_segmentManager_persistOn (hsegments : s.segmentManager.isSome) :
    (s.persistOn path otherRecords event).segmentManager.isSome := by
  rw [persistOn_of_persisting h]
  simp only
  split
  · rw [Option.isSome_map]
    exact hsegments
  · exact hsegments

theorem segmentRecords_persistOn (hsegments : s.segmentManager.isSome) :
    (s.persistOn path otherRecords event).segmentRecords =
      if s.appendsToSegments path then
        s.segmentRecords ++ [s.tagRecord otherRecords event]
      else s.segmentRecords := by
  obtain ⟨manager, hmanager⟩ := Option.isSome_iff_exists.mp hsegments
  rw [persistOn_of_persisting h]
  unfold segmentRecords
  simp only [hmanager]
  split <;> rfl

end persistOn

/-- A record is appended under a new sequence number. -/
theorem Written.persistOn {start s : LiveSupervisor} {trace : List (PersistPath × StoredRecord)}
    (h : start.Written s trace) (path : PersistPath) (otherRecords : ℕ)
    (event : NormalizedEvent) :
    start.Written (s.persistOn path otherRecords event)
      (trace ++ [(path, s.tagRecord otherRecords event)]) := by
  have hsame := s.sameQueues_persistOn path otherRecords event
  have hmode : (s.persistOn path otherRecords event).resolved = s.resolved :=
    congrArg Pipeline.resolved hsame.toPipeline
  have hsequence := recordSequence_persistOn h.persisting path otherRecords event
  obtain ⟨hlog, hsegment⟩ := appendsTo_congr h.persisting
    (hsame.persistNormalizedEvents.trans h.persisting)
    (congrArg RuntimeResolvedConfig.edgeCollectorMode hmode)
  constructor
  · rw [hmode]
    exact h.mode
  · exact hsame.persistNormalizedEvents.trans h.persisting
  · exact isSome_segmentManager_persistOn h.persisting path otherRecords event h.segmented
  · rw [hlog, hsegment, log_persistOn h.persisting,
      segmentRecords_persistOn h.persisting path otherRecords event h.segmented]
    exact h.routed.append (path, s.tagRecord otherRecords event)
  · intro x hx
    rcases List.mem_append.mp hx with hold | hnew
    · obtain ⟨n, hn, hnumber⟩ := h.numbered x hold
      exact ⟨n, by omega, hnumber⟩
    · rw [List.mem_singleton.mp hnew]
      exact ⟨_, hsequence.ge, rfl⟩
  · rw [List.map_append, List.nodup_append]
    refine ⟨h.nodup, List.nodup_singleton _, ?_⟩
    rintro record hold _ hnew rfl
    obtain ⟨x, hx, rfl⟩ := List.mem_map.mp hold
    obtain ⟨n, hn, hnumber⟩ := h.numbered x hx
    have hfresh : x.2.runtimeSequenceNumber = some (s.recordSequence + otherRecords + 1) := by
      rw [List.mem_singleton.mp hnew]
      rfl
    rw [hnumber, Option.some.injEq] at hfresh
    omega

theorem Written.persistAll {start s : LiveSupervisor}
    {trace : List (PersistPath × StoredRecord)} (h : start.Written s trace) (ambient : Ambient)
    (events : List (PersistPath × NormalizedEvent)) :
    ∃ more, more.map Prod.fst = events.map Prod.fst ∧
      start.Written (s.persistAll ambient events) (trace ++ more) := by
  have hentries : ∀ (entries : List ((PersistPath × NormalizedEvent) × ℕ)) (s : LiveSupervisor)
      (trace : List (PersistPath × StoredRecord)), start.Written s trace →
        ∃ more, more.map Prod.fst = entries.map (fun e => e.1.1) ∧
          start.Written
            (entries.foldl
              (fun s e => s.persistOn e.1.1 (ambient.otherRecords e.2) e.1.2) s)
            (trace ++ more) := by
    intro entries
    induction entries with
    | nil => exact fun s trace h => ⟨[], rfl, by simpa using h⟩
    | cons e entries ih =>
        intro s trace h
        obtain ⟨more, hpaths, hwritten⟩ := ih _ _
          (h.persistOn e.1.1 (ambient.otherRecords e.2) e.1.2)
        refine ⟨(e.1.1, s.tagRecord (ambient.otherRecords e.2) e.1.2) :: more, ?_, ?_⟩
        · rw [List.map_cons, List.map_cons, hpaths]
        · rw [List.append_cons]
          exact hwritten
  obtain ⟨more, hpaths, hwritten⟩ := hentries events.zipIdx s trace h
  refine ⟨more, ?_, hwritten⟩
  have hfst : events.zipIdx.map (fun e => e.1.1) = (events.zipIdx.map Prod.fst).map Prod.fst := by
    rw [List.map_map]
    rfl
  rw [hpaths, hfst, List.zipIdx_map_fst]

/-! ## The steps of a run -/

/-- What a step must do to append to both logs alike: a canonical event is published to a bus
with room, and an event is drained outside the edge collector, without ending in a terminal of
the risk engine. -/
def KeepsLogsAlike (s : LiveSupervisor) (input : Ambient × LiveStep) : Prop :=
  match input.2 with
  | .publishCanonical _ => s.canonicalFull = false
  | .drain => ∀ received, s.receive = some received →
    s.resolved.edgeCollectorMode = false ∧
      s.callsForTerminal input.1 received.1 received.2.1 = false
  | .publishTentative _ | .finalizeRun _ => True

theorem isShared_handledPaths_iff {edge : Bool} {event : NormalizedEvent}
    {generated : List NormalizedEvent} :
    (∀ e ∈ handledPaths (event :: generated), e.1.isShared edge = true) ↔
      edge = false ∧ Pipeline.AllDerived generated := by
  have hpath : ∀ entry : NormalizedEvent,
      entry.generatedPath.isShared edge = true ↔ entry.generatedPath = .derived := by
    intro entry
    unfold NormalizedEvent.generatedPath
    split <;> simp [PersistPath.isShared]
  simp only [handledPaths, List.forall_mem_cons, List.forall_mem_map, hpath,
    Pipeline.AllDerived]
  simp [PersistPath.isShared]

section step

variable {start s : LiveSupervisor} {trace : List (PersistPath × StoredRecord)}
  (h : start.Written s trace)

include h

/-- The pipeline moves, and the events of the step are appended on their paths. -/
theorem Written.moved {next : Pipeline} (hsame : s.toPipeline.SameRun next) (ambient : Ambient)
    (events : List (PersistPath × NormalizedEvent)) :
    ∃ more, start.Written ({ s with toPipeline := next }.persistAll ambient events)
        (trace ++ more) ∧
      ((∀ x ∈ more, x.1.isShared start.resolved.edgeCollectorMode = true) ↔
        ∀ e ∈ events, e.1.isShared start.resolved.edgeCollectorMode = true) := by
  have hmoved : start.Written { s with toPipeline := next } trace :=
    h.of_same_logs (congrArg RuntimeResolvedConfig.edgeCollectorMode hsame.resolved) rfl rfl
      rfl rfl
  obtain ⟨more, hpaths, hwritten⟩ := hmoved.persistAll ambient events
  refine ⟨more, hwritten, ?_⟩
  have hshared : (∀ path ∈ more.map Prod.fst,
        path.isShared start.resolved.edgeCollectorMode = true) ↔
      ∀ path ∈ events.map Prod.fst,
        path.isShared start.resolved.edgeCollectorMode = true := by
    rw [hpaths]
  simpa only [List.forall_mem_map] using hshared

theorem Written.handleEvent (ambient : Ambient) (event : NormalizedEvent) (tentative : Bool) :
    ∃ more, start.Written (s.handleEvent ambient event tentative) (trace ++ more) ∧
      ((∀ x ∈ more, x.1.isShared start.resolved.edgeCollectorMode = true) ↔
        s.resolved.edgeCollectorMode = false ∧
          s.callsForTerminal ambient event tentative = false) := by
  obtain ⟨generated, hevents, hderived⟩ :=
    s.toPipeline.allDerived_handleEvent_iff ambient event tentative
  have hstep : s.handleEvent ambient event tentative =
      { s with
        toPipeline := (s.toPipeline.handleEvent ambient event tentative).1 }.persistAll ambient
          (handledPaths (event :: generated)) := by
    rw [← hevents]
    rfl
  rw [hstep, h.mode, ← hderived, ← isShared_handledPaths_iff]
  exact h.moved (s.toPipeline.sameRun_handleEvent ambient event tentative) ambient _

theorem Written.drain (ambient : Ambient) :
    ∃ more, start.Written (s.drain ambient) (trace ++ more) ∧
      ((∀ x ∈ more, x.1.isShared start.resolved.edgeCollectorMode = true) ↔
        s.KeepsLogsAlike (ambient, .drain)) := by
  cases hreceive : s.receive with
  | none =>
      rw [drain_of_receive_none hreceive]
      exact ⟨[], by simpa using h, by simp [KeepsLogsAlike, hreceive]⟩
  | some received =>
      obtain ⟨event, tentative, rest⟩ := received
      obtain ⟨hrest, hsegments⟩ := receive_rest hreceive
      have hreceived : start.Written rest trace := by
        refine h.of_same_logs ?_ ?_ hsegments ?_ ?_
        · rw [hrest]
        · rw [hrest]
        · rw [hrest]
        · rw [hrest]
      have hkeeps : s.KeepsLogsAlike (ambient, .drain) ↔
          rest.resolved.edgeCollectorMode = false ∧
            rest.callsForTerminal ambient event tentative = false := by
        simp [KeepsLogsAlike, hreceive, hrest]
      rw [drain_of_receive hreceive, hkeeps]
      exact hreceived.handleEvent ambient event tentative

theorem Written.publishCanonical (ambient : Ambient) (event : NormalizedEvent) :
    ∃ more, start.Written (s.publishCanonical ambient event) (trace ++ more) ∧
      ((∀ x ∈ more, x.1.isShared start.resolved.edgeCollectorMode = true) ↔
        s.canonicalFull = false) := by
  cases hfull : s.canonicalFull with
  | false =>
      rw [publishCanonical_of_not_full hfull]
      refine ⟨[], ?_, by simp⟩
      rw [List.append_nil]
      exact h.of_same_logs rfl rfl rfl rfl rfl
  | true =>
      rw [publishCanonical_of_full hfull]
      obtain ⟨more, hwritten, hshared⟩ := h.moved (s.toPipeline.sameRun_applyEvent _) ambient
        [(.queueOverflow, syntheticGapEvent ambient event.info.slot .geyserProcessed)]
      refine ⟨more, hwritten, ?_⟩
      rw [hshared]
      simp [PersistPath.isShared]

theorem Written.publishTentative (event : NormalizedEvent) :
    start.Written (s.publishTentative event) trace := by
  unfold LiveSupervisor.publishTentative
  split
  · exact h.of_same_logs rfl rfl rfl rfl rfl
  · exact h

theorem Written.finalizeRun (ambient : Ambient) (unixNow : OffsetDateTime) :
    ∃ more, start.Written (s.finalizeRun ambient unixNow) (trace ++ more) ∧
      ∀ x ∈ more, x.1.isShared start.resolved.edgeCollectorMode = true := by
  obtain ⟨more, hwritten, hshared⟩ := h.moved (s.toPipeline.sameRun_finalize ambient unixNow)
    ambient ((s.toPipeline.finalize ambient unixNow).2.map fun entry => (.derived, entry))
  refine ⟨more, hwritten, hshared.mpr ?_⟩
  rw [List.forall_mem_map]
  exact fun entry _ => rfl

/-- A step appends records on shared paths only exactly when it keeps the logs alike. -/
theorem Written.step (input : Ambient × LiveStep) :
    ∃ more, start.Written (s.step input) (trace ++ more) ∧
      ((∀ x ∈ more, x.1.isShared start.resolved.edgeCollectorMode = true) ↔
        s.KeepsLogsAlike input) := by
  obtain ⟨ambient, action⟩ := input
  cases action with
  | publishCanonical event => exact h.publishCanonical ambient event
  | publishTentative event =>
      refine ⟨[], ?_, by simp [KeepsLogsAlike]⟩
      rw [List.append_nil]
      exact h.publishTentative event
  | drain => exact h.drain ambient
  | finalizeRun unixNow =>
      obtain ⟨more, hwritten, hshared⟩ := h.finalizeRun ambient unixNow
      exact ⟨more, hwritten, by simpa [KeepsLogsAlike] using hshared⟩

end step

theorem Written.run {start s : LiveSupervisor} {trace : List (PersistPath × StoredRecord)}
    (h : start.Written s trace) (inputs : List (Ambient × LiveStep)) :
    ∃ more, start.Written (s.run inputs) (trace ++ more) ∧
      ((∀ x ∈ more, x.1.isShared start.resolved.edgeCollectorMode = true) ↔
        Runs.Along LiveSupervisor.step KeepsLogsAlike s inputs) := by
  induction inputs generalizing s trace with
  | nil =>
      refine ⟨[], ?_, by simp [Runs.Along]⟩
      rw [List.append_nil]
      exact h
  | cons input inputs ih =>
      obtain ⟨first, hfirst, hkeeps⟩ := h.step input
      obtain ⟨more, hwritten, hrest⟩ := ih hfirst
      refine ⟨first ++ more, ?_, ?_⟩
      · rw [← List.append_assoc]
        exact hwritten
      · rw [List.forall_mem_append, hkeeps, hrest]
        rfl

/-! ## Equal logs -/

theorem isShared_iff {s : LiveSupervisor} (h : s.persistNormalizedEvents = true)
    (path : PersistPath) :
    s.appendsToLog path = s.appendsToSegments path ↔
      path.isShared s.resolved.edgeCollectorMode = true := by
  cases path <;>
    simp [appendsToLog, appendsToSegments, Supervisor.persists, PersistPath.isShared, h]

/-- In a live run with segments, whatever it publishes and drains, the log and the segments
receive the same records exactly when no canonical event overflows its bus, no event is drained
by an edge collector and none ends in a terminal of the risk engine. -/
theorem appended_alike_iff (config : RuntimeResolvedConfig) (storage : StorageEngine)
    (queueCapacityCanonical queueCapacityTentative : ℕ) (segments : LiveRunSegmentManager)
    (inputs : List (Ambient × LiveStep)) :
    let start := (LiveSupervisor.new config storage queueCapacityCanonical
      queueCapacityTentative).startLiveRun (some segments)
    (∃ records,
        (start.run inputs).storage.normalizedEventLog = storage.normalizedEventLog ++ records ∧
          (start.run inputs).segmentRecords = segments.normalizedEvents ++ records) ↔
      Runs.Along step KeepsLogsAlike start inputs := by
  intro start
  have hstart : start.Written start [] := written_start rfl rfl
  obtain ⟨trace, hwritten, hkeeps⟩ := hstart.run inputs
  rw [List.nil_append] at hwritten
  have hsame := hwritten.routed.same_iff hwritten.nodup
  rw [← hkeeps, ← hwritten.mode]
  simp only [isShared_iff hwritten.persisting] at hsame
  exact hsame

/-- A risk engine that discards every token. -/
def discardingConfig : RuntimeResolvedConfig :=
  { sampleConfig with
    riskEngine := fun token _ _ =>
      { DecisionEngine.calmRisk token.mint.text with discardPolicy := .hardDiscard } }

/-- A created token, which the risk engine discards. -/
def discardedToken : List (Ambient × LiveStep) :=
  [(Supervisor.sampleAmbient, .publishCanonical sampleCreation),
    (Supervisor.sampleAmbient, .drain)]

/-- The terminal of the token is missing in the segments. -/
theorem appended_alike_fails :
    ¬ ∀ (config : RuntimeResolvedConfig) (storage : StorageEngine)
        (queueCapacityCanonical queueCapacityTentative : ℕ) (segments : LiveRunSegmentManager)
        (inputs : List (Ambient × LiveStep)),
        let start := (LiveSupervisor.new config storage queueCapacityCanonical
          queueCapacityTentative).startLiveRun (some segments)
        ∃ records,
          (start.run inputs).storage.normalizedEventLog = storage.normalizedEventLog ++ records ∧
            (start.run inputs).segmentRecords = segments.normalizedEvents ++ records := by
  intro h
  obtain ⟨records, hlog, hsegments⟩ := h discardingConfig {} 1 1 {} discardedToken
  have hlogged : (((LiveSupervisor.new discardingConfig {} 1 1).startLiveRun
      (some {})).run discardedToken).storage.normalizedEventLog.length = 2 := by
    decide +kernel
  have hsegmented : (((LiveSupervisor.new discardingConfig {} 1 1).startLiveRun
      (some {})).run discardedToken).segmentRecords.length = 1 := by
    decide +kernel
  rw [hlog, List.nil_append] at hlogged
  rw [hsegments, List.nil_append, hlogged] at hsegmented
  cases hsegmented

end LiveSupervisor

end PumpLaunchTrader
