import PumpLaunchTrader.Lib.Runs
import PumpLaunchTrader.Supervisor.Gaps
import PumpLaunchTrader.Supervisor.LiveSteps

/-! # The edge collector

An edge collector starts with trading off, decides nothing and fills nothing. A data gap
recomputes whether trading is allowed from the open gaps and the configuration of live
trading, and forgets the mode. -/

namespace PumpLaunchTrader

namespace Pipeline

/-! ## Blocks beyond a token -/

/-- A gap event leaves a block beyond single tokens: it opens one, or keeps one open. -/
def leavesGlobalBlock (self : Pipeline) (payload : DataGapEvent) : Bool :=
  (!payload.isRecovery && payload.affectedTokens.isEmpty) ||
    self.activeDataGaps.any fun gap => gap.blocksGlobally && !self.closesGap payload gap

theorem any_blocksGlobally_opensGaps (p : Pipeline) (payload : DataGapEvent) :
    (p.opensGaps payload).any ScopedDataGap.blocksGlobally =
      (!payload.isRecovery && payload.affectedTokens.isEmpty) := by
  unfold opensGaps
  cases hrecovery : payload.isRecovery with
  | true => simp
  | false =>
      have hallowed := DataGapEvent.tradeAllowed_of_not_recovery hrecovery
      cases htokens : payload.affectedTokens with
      | nil =>
          have hscope : payload.textScope p.currentScenarioId ≠ .token := by
            unfold DataGapEvent.textScope
            split_ifs <;> simp
          simp [DataGapEvent.targets, htokens, ScopedDataGap.blocksGlobally, DataGapEvent.gapOn,
            hrecovery, hallowed, hscope]
      | cons token tokens =>
          simp [DataGapEvent.targets, htokens, ScopedDataGap.blocksGlobally, DataGapEvent.gapOn]

theorem any_blocksGlobally_updateDataGapState (p : Pipeline) (payload : DataGapEvent) :
    (p.updateDataGapState payload).activeDataGaps.any ScopedDataGap.blocksGlobally =
      p.leavesGlobalBlock payload := by
  rw [activeDataGaps_updateDataGapState, OpenEntries.any_record, any_blocksGlobally_opensGaps]
  rfl

theorem tradeAllowed_updateDataGapState (p : Pipeline) (payload : DataGapEvent) :
    (p.updateDataGapState payload).safety.tradeAllowed =
      (!p.resolved.liveEnabled && !p.leavesGlobalBlock payload) := by
  rw [← any_blocksGlobally_updateDataGapState]
  rfl

/-! ## One event of an edge collector -/

/-- The collector decides nothing, fills nothing and allows no paper or live trading. -/
structure Collecting (p : Pipeline) : Prop where
  mode : p.resolved.edgeCollectorMode = true
  paperAllowed : p.safety.paperAllowed = false
  liveAllowed : p.safety.liveAllowed = false
  decisionOutcomes : p.decisionOutcomes = []
  positions : p.paperExecutor.positions = ∅
  fills : p.paperExecutor.ledger.fills = []

theorem collecting_fresh {config : RuntimeResolvedConfig}
    (hmode : config.edgeCollectorMode = true) (scenarioId : Option String) :
    (Supervisor.freshPipeline config scenarioId).Collecting where
  mode := hmode
  paperAllowed := by simp [Supervisor.freshPipeline, Supervisor.new, hmode]
  liveAllowed := by simp [Supervisor.freshPipeline, Supervisor.new, hmode]
  decisionOutcomes := rfl
  positions := rfl
  fills := rfl

theorem Collecting.applyEvent {p : Pipeline} (h : p.Collecting) (event : NormalizedEvent) :
    (p.applyEvent event).Collecting := by
  unfold Pipeline.applyEvent
  split
  · exact ⟨h.mode, h.paperAllowed, h.liveAllowed, h.decisionOutcomes, h.positions, h.fills⟩
  · exact ⟨h.mode, h.paperAllowed, h.liveAllowed, h.decisionOutcomes, h.positions, h.fills⟩

/-- An edge collector applies the event and stops there. -/
theorem Collecting.handleEvent_fst {p : Pipeline} (h : p.Collecting) (ambient : Ambient)
    (event : NormalizedEvent) (tentative : Bool) :
    (p.handleEvent ambient event tentative).1 = p.applyEvent event := by
  unfold Pipeline.handleEvent
  simp only [h.mode, if_true]

theorem tradeAllowed_applyEvent_of_not_gap {p : Pipeline} {event : NormalizedEvent}
    (h : ∀ payload, event.payload ≠ .dataGap payload) :
    (p.applyEvent event).safety.tradeAllowed = p.safety.tradeAllowed := by
  rw [applyEvent_of_not_gap h]

theorem tradeAllowed_applyEvent_of_gap {p : Pipeline} {event : NormalizedEvent}
    {payload : DataGapEvent} (h : event.payload = .dataGap payload) :
    (p.applyEvent event).safety.tradeAllowed =
      (!p.resolved.liveEnabled && !p.leavesGlobalBlock payload) := by
  rw [applyEvent_of_gap h]
  exact tradeAllowed_updateDataGapState _ payload

/-- The end of a run applies the expiries of tentative sells, which are no gaps. -/
theorem finalize_safety (p : Pipeline) (ambient : Ambient) (unixNow : OffsetDateTime) :
    (p.finalize ambient unixNow).1.safety = p.safety := by
  refine (p.steps_finalize ambient unixNow).invariant_of_forall
    (I := fun q => q.safety = p.safety)
    (K := fun event => event.payload.isGenerated = true) ?_ ?_ ?_
    (p.shredSignals_finalize ambient unixNow).generated rfl
  · intro q event hgenerated hq
    rw [applyEvent_of_not_gap (not_gap_of_isGenerated hgenerated)]
    exact hq
  · exact fun q c hq => hq
  · exact fun q event tentative mint token features risk hq => hq

theorem Collecting.finalize {p : Pipeline} (h : p.Collecting) (ambient : Ambient)
    (unixNow : OffsetDateTime) : (p.finalize ambient unixNow).1.Collecting := by
  have hcall : ∀ manager : TentativeSellManager,
      { p with tentativeSellManager := manager }.Collecting := fun manager =>
    ⟨h.mode, h.paperAllowed, h.liveAllowed, h.decisionOutcomes, h.positions, h.fills⟩
  unfold Pipeline.finalize applyDerived
  simp only
  exact List.foldlRecOn _ _ (hcall _) fun q hq event _ => hq.applyEvent event

end Pipeline

/-! ## Runs of an edge collector -/

namespace LiveSupervisor

/-- Trading is off, and nothing was decided or filled. -/
structure TradingOff (s : LiveSupervisor) : Prop where
  tradeAllowed : s.safety.tradeAllowed = false
  paperAllowed : s.safety.paperAllowed = false
  liveAllowed : s.safety.liveAllowed = false
  decisionOutcomes : s.decisionOutcomes = []
  fills : s.paperExecutor.ledger.fills = []

/-- What a step must do to keep trading off: a gap event that is handled leaves a block beyond
single tokens, unless live trading is configured. -/
def KeepsTradingOff (s : LiveSupervisor) (input : Ambient × LiveStep) : Prop :=
  input.2 = .drain → ∀ received, s.receive = some received → ∀ payload,
    received.1.payload = .dataGap payload →
      s.resolved.liveEnabled = true ∨ s.leavesGlobalBlock payload = true

theorem toPipeline_publishCanonical (s : LiveSupervisor) (ambient : Ambient)
    (event : NormalizedEvent) :
    (s.publishCanonical ambient event).toPipeline = s.toPipeline ∨
      (s.publishCanonical ambient event).toPipeline =
        s.toPipeline.applyEvent (syntheticGapEvent ambient event.info.slot .geyserProcessed) := by
  cases hfull : s.canonicalFull with
  | false => exact Or.inl (by rw [publishCanonical_of_not_full hfull])
  | true => exact Or.inr (by rw [publishCanonical_of_full hfull, toPipeline_persistAll])

/-- The gap of an overflow blocks globally. -/
theorem leavesGlobalBlock_syntheticGapEvent (p : Pipeline) (ambient : Ambient) (slot : ℕ)
    (payload : DataGapEvent)
    (h : (syntheticGapEvent ambient slot .geyserProcessed).payload = .dataGap payload) :
    p.leavesGlobalBlock payload = true := by
  cases h
  have haction : textContains "enter_data_gap_mode" "recover" = false := by decide +kernel
  have hresume : textContains "enter_data_gap_mode" "resume" = false := by decide +kernel
  simp [Pipeline.leavesGlobalBlock, DataGapEvent.isRecovery, haction, hresume]

/-- The pipeline of a collector after a drain. -/
theorem toPipeline_drain_of_collecting {s rest : LiveSupervisor} (h : s.toPipeline.Collecting)
    {event : NormalizedEvent} {tentative : Bool}
    (hreceive : s.receive = some (event, tentative, rest)) (ambient : Ambient) :
    (s.drain ambient).toPipeline = s.toPipeline.applyEvent event := by
  have hsame : rest.toPipeline = s.toPipeline :=
    congrArg Supervisor.toPipeline (receive_rest hreceive).1
  rw [drain_of_receive hreceive, toPipeline_handleEvent, hsame, h.handleEvent_fst]

theorem collecting_step {s : LiveSupervisor} (h : s.toPipeline.Collecting)
    (input : Ambient × LiveStep) : (s.step input).toPipeline.Collecting := by
  unfold step
  cases input.2 with
  | publishCanonical event =>
      rcases s.toPipeline_publishCanonical input.1 event with hsame | hgap
      · simp only [hsame]
        exact h
      · simp only [hgap]
        exact h.applyEvent _
  | publishTentative event =>
      simp only [toPipeline_publishTentative]
      exact h
  | drain =>
      cases hreceive : s.receive with
      | none =>
          simp only [drain_of_receive_none hreceive]
          exact h
      | some received =>
          obtain ⟨event, tentative, rest⟩ := received
          simp only [toPipeline_drain_of_collecting h hreceive]
          exact h.applyEvent event
  | finalizeRun unixNow =>
      simp only [toPipeline_finalizeRun]
      exact h.finalize input.1 unixNow

/-- The step of one input: trading stays off exactly under the condition. -/
theorem tradeAllowed_step_iff {s : LiveSupervisor} (h : s.toPipeline.Collecting)
    (hoff : s.safety.tradeAllowed = false) (input : Ambient × LiveStep) :
    (s.step input).safety.tradeAllowed = false ↔ s.KeepsTradingOff input := by
  unfold step KeepsTradingOff
  cases input.2 with
  | publishCanonical event =>
      simp only [reduceCtorEq, false_implies, iff_true]
      rcases s.toPipeline_publishCanonical input.1 event with hsame | hgap
      · rw [hsame]
        exact hoff
      · rw [hgap, Pipeline.tradeAllowed_applyEvent_of_gap rfl,
          leavesGlobalBlock_syntheticGapEvent s.toPipeline input.1 event.info.slot _ rfl]
        simp
  | publishTentative event =>
      simp only [reduceCtorEq, false_implies, iff_true, toPipeline_publishTentative]
      exact hoff
  | finalizeRun unixNow =>
      simp only [reduceCtorEq, false_implies, iff_true, toPipeline_finalizeRun,
        Pipeline.finalize_safety]
      exact hoff
  | drain =>
      cases hreceive : s.receive with
      | none => simp [drain_of_receive_none hreceive, hoff]
      | some received =>
          obtain ⟨event, tentative, rest⟩ := received
          simp only [toPipeline_drain_of_collecting h hreceive, Option.some.injEq,
            forall_eq', true_implies]
          by_cases hgap : ∃ payload, event.payload = .dataGap payload
          · obtain ⟨payload, hpayload⟩ := hgap
            rw [Pipeline.tradeAllowed_applyEvent_of_gap hpayload, hpayload]
            simp [or_iff_not_imp_left]
          · rw [not_exists] at hgap
            rw [Pipeline.tradeAllowed_applyEvent_of_not_gap hgap, hoff]
            exact ⟨fun _ payload hpayload => absurd hpayload (hgap payload), fun _ => rfl⟩

theorem tradingOff_iff_of_collecting {s : LiveSupervisor} (h : s.toPipeline.Collecting) :
    s.TradingOff ↔ s.safety.tradeAllowed = false := by
  constructor
  · exact fun hoff => hoff.tradeAllowed
  · exact fun hoff => ⟨hoff, h.paperAllowed, h.liveAllowed, h.decisionOutcomes, h.fills⟩

/-- In a run of a supervisor that was created as an edge collector, trading is off and nothing
is decided or filled in every state exactly when every gap event that is handled leaves a block
beyond single tokens, unless live trading is configured. -/
theorem tradingOff_iff {config : RuntimeResolvedConfig}
    (hmode : config.edgeCollectorMode = true) (scenarioId : Option String) (s : LiveSupervisor)
    (hs : s.toPipeline = Supervisor.freshPipeline config scenarioId)
    (inputs : List (Ambient × LiveStep)) :
    (∀ before after, inputs = before ++ after → (s.run before).TradingOff) ↔
      Runs.Along step KeepsTradingOff s inputs := by
  have hstart : s.toPipeline.Collecting ∧ s.safety.tradeAllowed = false := by
    rw [hs]
    exact ⟨Pipeline.collecting_fresh hmode scenarioId,
      by simp [Supervisor.freshPipeline, Supervisor.new, hmode]⟩
  have hstep : ∀ (t : LiveSupervisor) (input : Ambient × LiveStep), t.toPipeline.Collecting →
      t.TradingOff → True → ((t.step input).TradingOff ↔ t.KeepsTradingOff input) := by
    intro t input ht hoff _
    rw [tradingOff_iff_of_collecting (collecting_step ht input)]
    exact tradeAllowed_step_iff ht hoff.tradeAllowed input
  exact Runs.forall_reached_iff_along_of_kept (fun t input ht _ => collecting_step ht input) hstep
    hstart.1 ((tradingOff_iff_of_collecting hstart.1).mpr hstart.2)
    (Runs.along_inputs_iff.mpr fun _ _ => trivial)

/-! ## Concrete runs -/

def collectorConfig : RuntimeResolvedConfig :=
  { sampleConfig with edgeCollectorMode := true }

/-- The start of a live run of an edge collector whose buses hold one event each. -/
def sampleCollector : LiveSupervisor :=
  (LiveSupervisor.new collectorConfig {} 1 1).startLiveRun none

/-- A gap event of the Geyser stream. -/
def streamGapEvent (payload : DataGapEvent) : NormalizedEvent :=
  { sampleCreation with payload := .dataGap payload }

/-- Two events arrive at once, and the second one overflows the bus. -/
def overflowingStream : List (Ambient × LiveStep) :=
  [(Supervisor.sampleAmbient, .publishCanonical sampleCreation),
    (Supervisor.sampleAmbient, .publishCanonical sampleCreation),
    (Supervisor.sampleAmbient, .drain)]

theorem tradingOff_iff_overflowingStream :
    (sampleCollector.run overflowingStream).TradingOff := by
  have hmode : collectorConfig.edgeCollectorMode = true := rfl
  refine (tradingOff_iff hmode none sampleCollector rfl overflowingStream).mpr
    ⟨?_, ?_, ?_, trivial⟩ overflowingStream [] rfl
  · intro hdrain
    cases hdrain
  · intro hdrain
    cases hdrain
  · intro _ received hreceive payload hpayload
    cases hreceive
    cases hpayload

/-- The stream fails and reconnects, and trading of the collector is allowed. -/
theorem collector_allows_trading :
    ¬ ∀ (config : RuntimeResolvedConfig), config.edgeCollectorMode = true →
        ∀ (scenarioId : Option String) (s : LiveSupervisor),
          s.toPipeline = Supervisor.freshPipeline config scenarioId →
            ∀ inputs : List (Ambient × LiveStep), (s.run inputs).TradingOff := by
  intro h
  have hoff := (h collectorConfig rfl none sampleCollector rfl
    (Pipeline.reconnectedStream.flatMap fun payload =>
      [(Supervisor.sampleAmbient, .publishCanonical (streamGapEvent payload)),
        (Supervisor.sampleAmbient, .drain)])).tradeAllowed
  have hallowed : (sampleCollector.run (Pipeline.reconnectedStream.flatMap fun payload =>
      [(Supervisor.sampleAmbient, .publishCanonical (streamGapEvent payload)),
        (Supervisor.sampleAmbient, .drain)])).safety.tradeAllowed = true := by
    decide +kernel
  rw [hallowed] at hoff
  cases hoff

end LiveSupervisor

end PumpLaunchTrader
