import PumpLaunchTrader.Supervisor.Handling

/-! # Handling under another run id

A replay runs under an id of its own and decides under the id of the run that it replays.
No decision reads the run id of a data gap, so that a pipeline and the same pipeline under
another run id handle events alike. -/

namespace PumpLaunchTrader

/-- The gap as another run records it. -/
def ScopedDataGap.underRun (runId : String) (gap : ScopedDataGap) : ScopedDataGap :=
  { gap with runId := runId }

theorem scopedGapsFromEvent_underRun (payload : DataGapEvent) (runId other : String)
    (scenarioId : Option String) :
    scopedGapsFromEvent payload other scenarioId =
      (scopedGapsFromEvent payload runId scenarioId).map (ScopedDataGap.underRun other) := by
  unfold scopedGapsFromEvent
  simp only
  split
  · rw [List.map_map]
    rfl
  · rfl

namespace Pipeline

/-- The pipeline under another run id, deciding under its own. -/
def underRun (runId : String) (p : Pipeline) : Pipeline :=
  { p with
    resolved := { p.resolved with runId := runId }
    sourceRunId := some (p.sourceRunId.getD p.resolved.runId)
    activeDataGaps := p.activeDataGaps.map (ScopedDataGap.underRun runId) }

@[simp] theorem underRun_stateEngine (runId : String) (p : Pipeline) :
    (p.underRun runId).stateEngine = p.stateEngine := rfl

theorem underRun_withManager (runId : String) (p : Pipeline) (manager : TentativeSellManager) :
    { p.underRun runId with tentativeSellManager := manager } =
      { p with tentativeSellManager := manager }.underRun runId := rfl

theorem recordGap_underRun (runId : String) (gaps : List ScopedDataGap) (gap : ScopedDataGap) :
    recordGap (gaps.map (ScopedDataGap.underRun runId)) (gap.underRun runId) =
      (recordGap gaps gap).map (ScopedDataGap.underRun runId) := by
  unfold recordGap
  have hactive : (gap.underRun runId).active = gap.active := rfl
  rw [hactive]
  split
  · rw [List.map_append]
    rfl
  · rw [List.filter_map]
    rfl

theorem any_blocksGlobally_underRun (runId : String) (gaps : List ScopedDataGap) :
    (gaps.map (ScopedDataGap.underRun runId)).any ScopedDataGap.blocksGlobally =
      gaps.any ScopedDataGap.blocksGlobally := by
  rw [List.any_map]
  rfl

theorem updateDataGapState_underRun (runId : String) (p : Pipeline) (payload : DataGapEvent) :
    (p.underRun runId).updateDataGapState payload =
      (p.updateDataGapState payload).underRun runId := by
  have hgaps : ∀ gaps known : List ScopedDataGap,
      (gaps.map (ScopedDataGap.underRun runId)).foldl recordGap
          (known.map (ScopedDataGap.underRun runId)) =
        (gaps.foldl recordGap known).map (ScopedDataGap.underRun runId) := by
    intro gaps
    induction gaps with
    | nil => exact fun _ => rfl
    | cons gap gaps ih =>
        intro known
        rw [List.map_cons, List.foldl_cons, List.foldl_cons, recordGap_underRun]
        exact ih _
  unfold updateDataGapState recomputeSafety underRun
  simp only [scopedGapsFromEvent_underRun payload p.resolved.runId runId, hgaps,
    any_blocksGlobally_underRun]

theorem tokenTradeAllowed_underRun (runId : String) (p : Pipeline) (mint : String) :
    (p.underRun runId).tokenTradeAllowed mint = p.tokenTradeAllowed mint := by
  have htoken : (p.activeDataGaps.map (ScopedDataGap.underRun runId)).any (·.blocksToken mint) =
      p.activeDataGaps.any (·.blocksToken mint) := by
    rw [List.any_map]
    rfl
  unfold tokenTradeAllowed underRun
  simp only [any_blocksGlobally_underRun, htoken]

/-- A pipeline decides alike under another run id, and under the same decision id. -/
theorem decide_underRun (runId : String) (p : Pipeline) (event : NormalizedEvent)
    (tentative : Bool) (mint : PubkeyValue) (token : TokenState) (features : FeatureSnapshot)
    (risk : RiskAssessment) :
    (p.underRun runId).decide event tentative mint token features risk =
      p.decide event tentative mint token features risk := by
  unfold decide applyRuntimeSafetyForToken
  simp only [tokenTradeAllowed_underRun]
  rfl

theorem decideAndExecute_underRun (runId : String) (p : Pipeline) (event : NormalizedEvent)
    (tentative : Bool) (mint : PubkeyValue) (token : TokenState) (features : FeatureSnapshot)
    (risk : RiskAssessment) :
    (p.underRun runId).decideAndExecute event tentative mint token features risk =
      (p.decideAndExecute event tentative mint token features risk).underRun runId := by
  unfold decideAndExecute
  simp only [decide_underRun]
  rfl

variable [IterationOrder]

theorem applyEvent_underRun (runId : String) (p : Pipeline) (event : NormalizedEvent) :
    (p.underRun runId).applyEvent event = (p.applyEvent event).underRun runId := by
  unfold applyEvent
  split
  · exact updateDataGapState_underRun runId
      { p with stateEngine := (p.stateEngine.applyEvent event).1 } _
  · rfl

theorem applyDerived_underRun (runId : String) (p : Pipeline) (events : List NormalizedEvent) :
    (p.underRun runId).applyDerived events = (p.applyDerived events).underRun runId := by
  unfold applyDerived
  induction events generalizing p with
  | nil => rfl
  | cons event events ih =>
      rw [List.foldl_cons, List.foldl_cons, applyEvent_underRun]
      exact ih _

theorem concludeEvent_underRun (runId : String) (p : Pipeline) (ambient : Ambient)
    (event : NormalizedEvent) (tentative : Bool) (mint : PubkeyValue) (token : TokenState)
    (features : FeatureSnapshot) (risk : RiskAssessment) :
    (p.underRun runId).concludeEvent ambient event tentative mint token features risk =
      Prod.map (underRun runId) id
        (p.concludeEvent ambient event tentative mint token features risk) := by
  unfold concludeEvent
  cases (if tentative then none else riskTerminalVariant risk.discardPolicy) with
  | none =>
      simp only [decideAndExecute_underRun]
      rfl
  | some variant =>
      simp only [applyEvent_underRun, underRun_stateEngine, decideAndExecute_underRun]
      split
      · rfl
      · rfl

theorem settleSells_underRun (runId : String) (p : Pipeline) (ambient : Ambient)
    (event : NormalizedEvent) (tentative : Bool) (mint : PubkeyValue) (token : TokenState)
    (features : FeatureSnapshot) (risk : RiskAssessment) :
    (p.underRun runId).settleSells ambient event tentative mint token features risk =
      Prod.map (underRun runId) id
        (p.settleSells ambient event tentative mint token features risk) := by
  have hsignals : (p.underRun runId).sellSignals event tentative mint token features risk =
      p.sellSignals event tentative mint token features risk := rfl
  have hexpiry : ∀ q : Pipeline,
      (q.underRun runId).expireSells ambient event.info.receivedAtWallTime =
        q.expireSells ambient event.info.receivedAtWallTime := fun _ => rfl
  unfold settleSells
  simp only [hsignals, underRun_withManager, applyDerived_underRun, hexpiry]
  rfl

theorem assessEvent_underRun (runId : String) (p : Pipeline) (ambient : Ambient)
    (event : NormalizedEvent) (tentative : Bool) (mint : PubkeyValue) (token : TokenState) :
    (p.underRun runId).assessEvent ambient event tentative mint token =
      Prod.map (underRun runId) id (p.assessEvent ambient event tentative mint token) := by
  have hfeatures : ∀ q : Pipeline,
      (q.underRun runId).resolved.featureEngine = q.resolved.featureEngine := fun _ => rfl
  have hrisk : ∀ q : Pipeline,
      (q.underRun runId).resolved.riskEngine = q.resolved.riskEngine := fun _ => rfl
  unfold assessEvent
  simp only [hfeatures, hrisk, underRun_stateEngine, settleSells_underRun, Prod.map_fst,
    Prod.map_snd, id]
  split
  · exact concludeEvent_underRun _ _ _ _ _ _ _ _ _
  · split
    · rfl
    · simp only [concludeEvent_underRun]
      rfl

/-- A pipeline handles an event alike under another run id. -/
theorem handleEvent_underRun (runId : String) (p : Pipeline) (ambient : Ambient)
    (event : NormalizedEvent) (tentative : Bool) :
    (p.underRun runId).handleEvent ambient event tentative =
      Prod.map (underRun runId) id (p.handleEvent ambient event tentative) := by
  have hmode : (p.underRun runId).resolved.edgeCollectorMode = p.resolved.edgeCollectorMode :=
    rfl
  unfold handleEvent
  simp only [applyEvent_underRun, underRun_stateEngine, assessEvent_underRun, hmode]
  split
  · rfl
  · split
    · rfl
    · split
      · rfl
      · rfl

theorem finalize_underRun (runId : String) (p : Pipeline) (ambient : Ambient)
    (unixNow : OffsetDateTime) :
    (p.underRun runId).finalize ambient unixNow =
      Prod.map (underRun runId) id (p.finalize ambient unixNow) := by
  have hexpiry : (p.underRun runId).finalExpiry ambient unixNow =
      p.finalExpiry ambient unixNow := rfl
  unfold finalize
  simp only [hexpiry, underRun_withManager, applyDerived_underRun]
  rfl

/-- A run of events is handled alike under another run id. -/
theorem run_underRun (runId : String) (p : Pipeline)
    (inputs : List (Ambient × NormalizedEvent)) :
    journaled.run (p.underRun runId) inputs = (journaled.run p inputs).underRun runId := by
  apply Journaled.run_comm
  intro ambient q event
  change ((q.underRun runId).handleEvent ambient event _).1 = _
  rw [handleEvent_underRun]
  rfl

end Pipeline

end PumpLaunchTrader
