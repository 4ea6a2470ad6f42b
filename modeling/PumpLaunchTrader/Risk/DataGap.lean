import PumpLaunchTrader.Engine.Keyed
import PumpLaunchTrader.Model.FeatureSnapshot
import PumpLaunchTrader.Risk.Policy
import PumpLaunchTrader.Supervisor.GapAgreement

/-! # Data gaps in the assessment

The snapshot of a token that carries the flag of a data gap makes the risk engine stop for the
gap. Nothing takes the flag off, so a token that a gap event has named is never traded again. -/

namespace PumpLaunchTrader

/-! ## What a snapshot says of the data -/

namespace Features

theorem isSome_lookup_adjust (values : FeatureValues) (featureId other : String)
    (f : FeatureValue → FeatureValue) :
    ((values.adjust featureId f).lookup other).isSome = (values.lookup other).isSome := by
  rw [KeyedMap.lookup_adjust]
  split
  · next h => rw [Option.isSome_map, h]
  · rfl

theorem isSome_foldl_adjust {β : Type} (entries : List (String × β))
    (value : String × β → FeatureValue) (featureId : String) (values : FeatureValues) :
    (AList.lookup featureId (entries.foldl
      (fun (values : FeatureValues) entry => values.adjust entry.1 fun _ => value entry)
      values)).isSome = (values.lookup featureId).isSome := by
  induction entries generalizing values with
  | nil => rfl
  | cons entry entries ih => rw [List.foldl_cons, ih, isSome_lookup_adjust]

theorem isSome_foldl_register (ids : List String) (status : FeatureStatus)
    (registry : FeatureRegistry) (featureId : String) :
    ((ids.foldl (fun (registry : FeatureRegistry) id => registry.register id status)
      registry).descriptors.lookup featureId).isSome =
      (decide (featureId ∈ ids) || (registry.descriptors.lookup featureId).isSome) := by
  induction ids generalizing registry with
  | nil => simp
  | cons id ids ih =>
      rw [List.foldl_cons, ih]
      by_cases h : featureId = id
      · subst h
        simp [FeatureRegistry.register]
      · simp [FeatureRegistry.register, h, AList.lookup_insert_ne h]

/-- The ids of the default registry. -/
theorem isSome_default (featureId : String) :
    (FeatureRegistry.default.descriptors.lookup featureId).isSome =
      decide (featureId ∈ coreFeatures ++ placeholderFeatures) := by
  simp only [FeatureRegistry.default, isSome_foldl_register, List.mem_append, Bool.decide_or]
  simp [Bool.or_comm]

/-- The ids that the last family sets before the quality. -/
def countedIds : List String :=
  ["geyser_connected_flag", "shred_connected_flag", "source_disagreement_flag",
    "critical_feature_missing_count", "feature_completeness_pct"]

/-- The ids that are read of the data beside them. -/
def describedIds : List String :=
  ["data_quality_score", "trade_allowed_data_quality_flag", "shred_signal_stale_flag"]

/-- What is said of the data is registered. -/
theorem registered_of_mem {featureId : String} (h : featureId ∈ countedIds ++ describedIds) :
    featureId ∈ coreFeatures ++ placeholderFeatures := by
  have hall : ∀ id ∈ countedIds ++ describedIds,
      id ∈ dataQualityFeatures ++ shredExitDefenseFeatures := by
    decide +kernel
  apply List.mem_append_left
  unfold coreFeatures
  rcases List.mem_append.mp (hall featureId h) with hlast | hlast
  · exact List.mem_append_left _ (List.mem_append_right _ hlast)
  · exact List.mem_append_right _ hlast

variable (families : FeatureFamilies) (token : TokenState) (state : StateEngine)
  (observedAt : OffsetDateTime)

/-- The values that the data quality is computed from. -/
def valuesBefore : FeatureValues :=
  computeShredExitDefenseFeatures token
    (families.compute token state observedAt (initialValues .default))

/-- What is registered has a value, and nothing else has. -/
theorem isSome_valuesBefore (featureId : String) :
    ((valuesBefore families token state observedAt).lookup featureId).isSome =
      decide (featureId ∈ coreFeatures ++ placeholderFeatures) := by
  simp only [valuesBefore, computeShredExitDefenseFeatures, setNumeric, setBool]
  rw [isSome_foldl_adjust _ fun entry => .available entry.1 (.boolean entry.2),
    isSome_foldl_adjust _ fun entry => .available entry.1 (.numeric entry.2), families.keepsIds,
    initialValues, KeyedMap.lookup_mapValues, Option.isSome_map, isSome_default]

/-- The flag of stale signals is the one that the token carries. -/
theorem lookup_shredSignalStale :
    (valuesBefore families token state observedAt).lookup "shred_signal_stale_flag" =
      some (.available "shred_signal_stale_flag"
        (.boolean token.shredDefense.shredSignalStaleFlag)) := by
  have hsome : ((valuesBefore families token state observedAt).lookup
      "shred_signal_stale_flag").isSome := by
    rw [isSome_valuesBefore, decide_eq_true_eq]
    exact registered_of_mem (by simp [describedIds])
  simp only [valuesBefore, computeShredExitDefenseFeatures, List.foldl_cons, List.foldl_nil] at *
  generalize List.foldl _ _ _ = values at *
  simp only [setBool, isSome_lookup_adjust] at hsome
  obtain ⟨value, hvalue⟩ := Option.isSome_iff_exists.mp hsome
  simp [setBool, KeyedMap.lookup_adjust, hvalue]

/-- The last family ends with the quality, on values with the flag of a disagreement. -/
theorem finalize_eq (values : FeatureValues)
    (hsource : (values.lookup "source_disagreement_flag").isSome) :
    ∃ (counted : FeatureValues) (quality : Decimal),
      finalizeDataQualityFeatures token values =
        setBool (setNumeric counted "data_quality_score" quality)
          "trade_allowed_data_quality_flag" (5 / 10 ≤ quality ∧ ¬ gapFlagged token) ∧
      counted.lookup "source_disagreement_flag" = some (.available "source_disagreement_flag"
        (.boolean (gapFlagged token || token.tentativeOnly))) ∧
      ∀ featureId ∉ countedIds, counted.lookup featureId = values.lookup featureId := by
  obtain ⟨source, hsource⟩ := Option.isSome_iff_exists.mp hsource
  refine ⟨_, _, rfl, ?_, fun featureId hnot => ?_⟩
  · split <;> simp [setBool, setNumeric, KeyedMap.lookup_adjust, hsource]
  · simp only [countedIds, List.mem_cons, List.not_mem_nil, or_false, not_or] at hnot
    split <;> simp [setBool, setNumeric, KeyedMap.lookup_adjust, hnot]

/-! ## What a snapshot says of the data -/

/-- The snapshot of a token by the default registry. -/
abbrev snapshot (vectorHash : FeatureValues → String) : FeatureSnapshot :=
  computeSnapshot .default families vectorHash token state observedAt

/-- What a snapshot says of the data of its token, beside the quality. -/
structure DescribesData (features : FeatureSnapshot) : Prop where
  allowed : features.decimalOrZero "trade_allowed_data_quality_flag" =
    if 5 / 10 ≤ features.decimalOrZero "data_quality_score" ∧ ¬ gapFlagged token then 1 else 0
  disagreement : features.decimalOrZero "source_disagreement_flag" =
    if gapFlagged token || token.tentativeOnly then 1 else 0
  stale : features.decimalOrZero "shred_signal_stale_flag" =
    if token.shredDefense.shredSignalStaleFlag then 1 else 0
  unregistered : ∀ featureId ∉ coreFeatures ++ placeholderFeatures,
    features.decimalOrZero featureId = 0

theorem decimalOrZero_of_lookup {features : FeatureSnapshot} {featureId : String}
    (datum : FeatureDatum) (h : features.values featureId = some (.available featureId datum)) :
    features.decimalOrZero featureId = datum.asDecimal.getD 0 := by
  simp [FeatureSnapshot.decimalOrZero, FeatureSnapshot.decimal, FeatureSnapshot.value, h,
    FeatureValue.asDecimal, FeatureValue.available]

variable (vectorHash : FeatureValues → String)

theorem values_snapshot (featureId : String) :
    (snapshot families token state observedAt vectorHash).values featureId =
      (finalizeDataQualityFeatures token
        (valuesBefore families token state observedAt)).lookup featureId := by
  simp only [computeSnapshot, computeValues, valuesBefore]

theorem describesData_snapshot :
    DescribesData token (snapshot families token state observedAt vectorHash) := by
  have hregistered := isSome_valuesBefore families token state observedAt
  have hstale := lookup_shredSignalStale families token state observedAt
  obtain ⟨counted, quality, hfinal, hsource, hcounted⟩ := finalize_eq token
    (valuesBefore families token state observedAt) (by
      rw [hregistered, decide_eq_true_eq]
      exact registered_of_mem (by simp [countedIds]))
  have hvalues : ∀ featureId,
      (snapshot families token state observedAt vectorHash).values featureId =
        (setBool (setNumeric counted "data_quality_score" quality)
          "trade_allowed_data_quality_flag"
          (5 / 10 ≤ quality ∧ ¬ gapFlagged token)).lookup featureId := by
    intro featureId
    rw [← hfinal, values_snapshot]
  have hscore : (counted.lookup "data_quality_score").isSome := by
    rw [hcounted _ (by decide), hregistered, decide_eq_true_eq]
    exact registered_of_mem (by simp [describedIds])
  have hallowed : (counted.lookup "trade_allowed_data_quality_flag").isSome := by
    rw [hcounted _ (by decide), hregistered, decide_eq_true_eq]
    exact registered_of_mem (by simp [describedIds])
  obtain ⟨score, hscore⟩ := Option.isSome_iff_exists.mp hscore
  obtain ⟨allowed, hallowed⟩ := Option.isSome_iff_exists.mp hallowed
  have hquality : (snapshot families token state observedAt vectorHash).decimalOrZero
      "data_quality_score" = quality := by
    rw [decimalOrZero_of_lookup (.numeric quality)]
    · rfl
    · simp [hvalues, setBool, setNumeric, KeyedMap.lookup_adjust, hscore]
  constructor
  · rw [hquality,
      decimalOrZero_of_lookup (.boolean (5 / 10 ≤ quality ∧ ¬ gapFlagged token))]
    · simp [FeatureDatum.asDecimal]
    · simp [hvalues, setBool, setNumeric, KeyedMap.lookup_adjust, hallowed]
  · rw [decimalOrZero_of_lookup (.boolean (gapFlagged token || token.tentativeOnly))]
    · rfl
    · simp [hvalues, setBool, setNumeric, KeyedMap.lookup_adjust, hsource]
  · rw [decimalOrZero_of_lookup (.boolean token.shredDefense.shredSignalStaleFlag)]
    · rfl
    · rw [hvalues]
      simp [setBool, setNumeric, KeyedMap.lookup_adjust, hcounted _
        (show "shred_signal_stale_flag" ∉ countedIds by decide), hstale]
  · intro featureId hnot
    have hother : featureId ∉ countedIds := fun hmem =>
      hnot (registered_of_mem (List.mem_append_left _ hmem))
    have hnone : (snapshot families token state observedAt vectorHash).values featureId =
        none := by
      rw [← Option.not_isSome_iff_eq_none, hvalues]
      simp only [setBool, setNumeric, isSome_lookup_adjust]
      simp [hcounted _ hother, hregistered, hnot]
    simp [FeatureSnapshot.decimalOrZero, FeatureSnapshot.decimal, FeatureSnapshot.value, hnone]

end Features

/-! ## When the risk engine stops for a gap -/

namespace Risk.RiskEngine

open Features (gapFlagged snapshot FeatureFamilies FeatureValues)

theorem explicitGap_of_describesData {token : TokenState} {features : FeatureSnapshot}
    (h : Features.DescribesData token features) :
    0 < explicitGap features ↔ gapFlagged token = true ∨ token.tentativeOnly = true ∨
      token.shredDefense.shredSignalStaleFlag = true := by
  have haccount := h.unregistered "account_update_gap_flag" (by decide +kernel)
  have hstream := h.unregistered "transaction_stream_gap_flag" (by decide +kernel)
  have hslot := h.unregistered "slot_status_gap_flag" (by decide +kernel)
  simp only [explicitGap, boolDecimal, haccount, hstream, hslot, h.disagreement, h.stale,
    max_self, lt_max_iff, lt_irrefl, false_or]
  cases gapFlagged token <;> cases token.tentativeOnly <;>
    cases token.shredDefense.shredSignalStaleFlag <;> simp

/-- An assessment of what the snapshot of a token says about its data. -/
theorem dataGapStop_iff_of_describesData (engine : RiskEngine) {token : TokenState}
    {features : FeatureSnapshot} (h : Features.DescribesData token features)
    (observedAt : OffsetDateTime) :
    (engine.evaluate token features observedAt).discardPolicy = .dataGapStop ↔
      gapFlagged token = true ∨
        ((token.tentativeOnly = true ∨ token.shredDefense.shredSignalStaleFlag = true) ∧
          features.decimalOrZero "data_quality_score" < max engine.minDataQuality (5 / 10)) := by
  have hpolicy : (engine.evaluate token features observedAt).discardPolicy = .dataGapStop ↔
      (engine.dataQualityRisk features).recommendedLifecycleAction = .dataGapStop :=
    discardPolicy_eq_dataGapStop_iff engine
  rw [hpolicy, dataQualityRisk_stops_iff, explicitGap_of_describesData h, lt_max_iff]
  simp only [decimal, boolDecimal, h.allowed]
  cases hflag : gapFlagged token with
  | true => simp
  | false => simp [not_le]

/-- The assessment of a computed snapshot stops for a gap exactly when the token carries the
flag of one, or is tentative or stale with a data quality below the larger limit. -/
theorem dataGapStop_iff (engine : RiskEngine) (families : FeatureFamilies)
    (vectorHash : FeatureValues → String) (token : TokenState) (state : StateEngine)
    (observedAt : OffsetDateTime) :
    (engine.evaluate token (snapshot families token state observedAt vectorHash)
        observedAt).discardPolicy = .dataGapStop ↔
      gapFlagged token = true ∨
        ((token.tentativeOnly = true ∨ token.shredDefense.shredSignalStaleFlag = true) ∧
          (snapshot families token state observedAt vectorHash).decimalOrZero
            "data_quality_score" < max engine.minDataQuality (5 / 10)) :=
  engine.dataGapStop_iff_of_describesData
    (Features.describesData_snapshot families token state observedAt vectorHash) observedAt

end Risk.RiskEngine

theorem Risk.discardPolicy_forDecision (assessment : Risk.RiskAssessment) :
    assessment.forDecision.discardPolicy = assessment.discardPolicy := rfl

/-! ## A gap flag for good -/

theorem TokenState.dataQualityFlags_applyTerminal (token : TokenState)
    (payload : TokenTerminalEvent) (event : NormalizedEvent) (ttl : TtlConfig) :
    (token.applyTerminal payload event ttl).dataQualityFlags = token.dataQualityFlags := by
  simp only [applyTerminal, transitionToken]
  split <;> rfl

namespace StateEngine

/-- No event takes off the flag of a data gap. -/
theorem gapFlag_applyEvent {s : StateEngine} {k : String} (h : (s.gapMarks k).2 = true)
    (event : NormalizedEvent) : ((s.applyEvent event).1.gapMarks k).2 = true := by
  by_cases hreverted : event.info.canonicality = .reverted
  · rw [gapMarks_applyEvent_of_reverted hreverted]
    exact h
  rw [s.gapMarks_applyEvent hreverted]
  unfold gapMarks at h ⊢
  cases hhandler : s.handler event with
  | some f =>
      obtain ⟨mint, -, htokens⟩ := tokens_applyPayload_of_handler hhandler
      rw [htokens, KeyedMap.lookup_upsert]
      by_cases hk : k = mint.text
      · subst hk
        rw [if_pos rfl]
        cases hlookup : s.tokens.lookup mint.text with
        | none => simp [hlookup] at h
        | some token => simpa [gapMarks_handler hhandler, hlookup] using h
      · rw [if_neg hk]
        exact h
  | none =>
      rcases lookup_applyPayload_of_no_handler hhandler k with
        hsame | ⟨payload, -, -, hterminal⟩ | ⟨payload, n, -, hgap⟩
      · rw [hsame]
        exact h
      · rw [hterminal]
        cases hlookup : s.tokens.lookup k with
        | none => simp [hlookup] at h
        | some token =>
            simpa [TokenState.gapMarks, TokenState.dataQualityFlags_applyTerminal, hlookup] using h
      · rw [hgap]
        cases n with
        | zero => simpa using h
        | succ n =>
            cases hlookup : s.tokens.lookup k with
            | none => simp [hlookup] at h
            | some token =>
                rw [Function.iterate_succ']
                simp

end StateEngine

/-- The positions of other mints stay as they are. -/
theorem PaperExecutor.lookup_handleDecision_ne (executor : PaperExecutor)
    (outcome : DecisionOutcome) {token : TokenState} {mint : String}
    (h : mint ≠ token.mint.text) (observedAt : OffsetDateTime) (forceFail : Bool) :
    (executor.handleDecision outcome token observedAt forceFail).1.positions.lookup mint =
      executor.positions.lookup mint := by
  unfold handleDecision
  split
  · simp only [enterPosition]
    split
    · rfl
    · split
      · rfl
      · exact AList.lookup_insert_ne h
  · simp only [exitPosition]
    split
    · rfl
    · exact AList.lookup_erase_ne h
  · simp only [exitPosition]
    split
    · rfl
    · exact AList.lookup_erase_ne h
  · exact KeyedMap.lookup_adjust_ne _ h _
  · rfl

open Features (gapFlagged FeatureFamilies FeatureValues)

/-- A configuration with the feature engine and the risk engine of the code. -/
def RuntimeResolvedConfig.withEngines (self : RuntimeResolvedConfig) (families : FeatureFamilies)
    (vectorHash : FeatureValues → String) (engine : Risk.RiskEngine) : RuntimeResolvedConfig :=
  { self with
    featureEngine := Features.computeSnapshot .default families vectorHash
    riskEngine := fun token features observedAt =>
      (engine.evaluate token features observedAt).forDecision }

namespace Pipeline

section held

variable (families : FeatureFamilies) (vectorHash : FeatureValues → String)
  (engine : Risk.RiskEngine) (mint : String)

/-- A pipeline with these engines that holds a token with the flag of a data gap. -/
structure HoldsGap (p : Pipeline) : Prop where
  featureEngine : p.resolved.featureEngine =
    Features.computeSnapshot .default families vectorHash
  riskEngine : p.resolved.riskEngine = fun token features observedAt =>
    (engine.evaluate token features observedAt).forDecision
  keyed : p.stateEngine.Keyed
  untraded : p.stateEngine.AllUntraded
  flagged : (p.stateEngine.gapMarks mint).2 = true

/-- What leads from a pipeline to another without trade in a mint: its position stays, and
every decision on it stops the tracking. -/
structure Untouched (p q : Pipeline) : Prop where
  position : q.paperExecutor.positions.lookup mint = p.paperExecutor.positions.lookup mint
  outcomes : ∃ outcomes, q.decisionOutcomes = p.decisionOutcomes ++ outcomes ∧
    ∀ outcome ∈ outcomes, outcome.decisionEvent.mint.text = mint →
      outcome.decisionEvent.decision = .stopTracking

variable {families vectorHash engine mint}

theorem Untouched.of_eq {p q : Pipeline} (hexecutor : q.paperExecutor = p.paperExecutor)
    (houtcomes : q.decisionOutcomes = p.decisionOutcomes) : Untouched mint p q :=
  ⟨by rw [hexecutor], [], by simpa using houtcomes, by simp⟩

theorem Untouched.trans {p q r : Pipeline} (hpq : Untouched mint p q)
    (hqr : Untouched mint q r) : Untouched mint p r := by
  obtain ⟨first, hfirst, hstops⟩ := hpq.outcomes
  obtain ⟨second, hsecond, hlater⟩ := hqr.outcomes
  refine ⟨hqr.position.trans hpq.position, first ++ second, ?_, fun outcome hmem => ?_⟩
  · rw [hsecond, hfirst, List.append_assoc]
  · exact (List.mem_append.mp hmem).elim (hstops outcome) (hlater outcome)

theorem untouched_applyEvent (p : Pipeline) (event : NormalizedEvent) :
    Untouched mint p (p.applyEvent event) := by
  unfold applyEvent
  split
  · exact .of_eq rfl rfl
  · exact .of_eq rfl rfl

theorem HoldsGap.applyEvent {p : Pipeline} (h : HoldsGap families vectorHash engine mint p)
    (event : NormalizedEvent) : HoldsGap families vectorHash engine mint (p.applyEvent event) := by
  have hresolved := (p.sameRun_applyEvent event).resolved
  constructor
  · rw [hresolved, h.featureEngine]
  · rw [hresolved, h.riskEngine]
  · rw [stateEngine_applyEvent]
    exact StateEngine.keyed_applyEvent h.keyed event
  · rw [stateEngine_applyEvent]
    exact fun k token hlookup =>
      StateEngine.keptByEvents_untraded.applyEvent h.untraded event hlookup
  · rw [stateEngine_applyEvent]
    exact StateEngine.gapFlag_applyEvent h.flagged event

/-- Events are applied without trade. -/
theorem HoldsGap.applyDerived {p : Pipeline} (h : HoldsGap families vectorHash engine mint p)
    (events : List NormalizedEvent) :
    HoldsGap families vectorHash engine mint (p.applyDerived events) ∧
      Untouched mint p (p.applyDerived events) := by
  unfold Pipeline.applyDerived
  induction events generalizing p with
  | nil => exact ⟨h, .of_eq rfl rfl⟩
  | cons event events ih =>
      obtain ⟨hheld, huntouched⟩ := ih (h.applyEvent event)
      exact ⟨hheld, (untouched_applyEvent p event).trans huntouched⟩

theorem HoldsGap.withManager {p : Pipeline} (h : HoldsGap families vectorHash engine mint p)
    (manager : TentativeSellManager) :
    HoldsGap families vectorHash engine mint { p with tentativeSellManager := manager } :=
  ⟨h.featureEngine, h.riskEngine, h.keyed, h.untraded, h.flagged⟩

/-- The assessment of the flagged token stops for the gap. -/
theorem HoldsGap.stops {p : Pipeline} (h : HoldsGap families vectorHash engine mint p)
    {own : PubkeyValue} (hown : own.text = mint) {token : TokenState}
    (hlookup : p.stateEngine.token own = some token)
    (observedAt : OffsetDateTime) :
    (p.resolved.riskEngine token (p.resolved.featureEngine token p.stateEngine observedAt)
      observedAt).discardPolicy = .dataGapStop := by
  have hflag := h.flagged
  rw [← hown, StateEngine.gapMarks_of_lookup hlookup] at hflag
  have hflagged : gapFlagged token = true := hflag
  rw [h.riskEngine, h.featureEngine, Risk.discardPolicy_forDecision,
    engine.dataGapStop_iff_of_describesData (Features.describesData_snapshot _ _ _ _ _)]
  exact .inl hflagged

/-- A decision that stops the tracking is kept by what comes after it. -/
theorem decide_of_stopped (p : Pipeline) (event : NormalizedEvent) (tentative : Bool)
    (own : PubkeyValue) {token : TokenState} (features : FeatureSnapshot) {risk : RiskAssessment}
    (huntraded : token.Untraded) (hblocked : p.decisionEngine.hardBlocked risk = true) :
    (p.decide event tentative own token features risk).decisionEvent.decision =
      .stopTracking := by
  have hterminal := terminalDecision_of_untraded huntraded
  have hevaluated := p.decisionEngine.decision_evaluate_of_hardBlocked token features hblocked
    (p.paperExecutor.positionContext own.text) p.resolved.configHash p.resolved.strategyVersion
    event.info.receivedAtWallTime ""
  rw [hterminal] at hevaluated
  simp only [decide, decision_applyRuntimeSafetyForToken, hterminal]
  simp only [DecisionOutcome.withShredDefenseAnnotations, DecisionOutcome.withDecision,
    DecisionOutcome.withTentativeLimit, hevaluated]
  simp [hevaluated]

theorem mint_decide (p : Pipeline) (event : NormalizedEvent) (tentative : Bool)
    (own : PubkeyValue) (token : TokenState) (features : FeatureSnapshot)
    (risk : RiskAssessment) :
    (p.decide event tentative own token features risk).decisionEvent.mint = token.mint := by
  simp only [decide, applyRuntimeSafetyForToken, DecisionOutcome.withShredDefenseAnnotations,
    DecisionOutcome.withDecision, DecisionOutcome.withTentativeLimit]
  split <;> split <;> rfl

/-- The decision on a flagged token stops its tracking, and one on another token leaves the
position of the flagged one alone. -/
theorem untouched_decideAndExecute (p : Pipeline) (event : NormalizedEvent) (tentative : Bool)
    (own : PubkeyValue) {token : TokenState} (features : FeatureSnapshot)
    {risk : RiskAssessment} (hmint : token.mint.text = own.text) (huntraded : token.Untraded)
    (hrisk : own.text = mint → risk.discardPolicy = .dataGapStop) :
    Untouched mint p (p.decideAndExecute event tentative own token features risk) := by
  by_cases hown : own.text = mint
  · have hblocked : p.decisionEngine.hardBlocked risk = true := by
      simp [DecisionEngine.hardBlocked, DecisionEngine.dataGapStopped, hrisk hown]
    have hstop := p.decide_of_stopped event tentative own features huntraded hblocked
    refine ⟨?_, [_], rfl, ?_⟩
    · simp only [decideAndExecute]
      split
      · rw [PaperExecutor.handleDecision_stopTracking _ hstop]
      · rfl
    · simpa using fun _ => hstop
  · refine ⟨?_, [_], rfl, ?_⟩
    · simp only [decideAndExecute]
      split
      · exact PaperExecutor.lookup_handleDecision_ne _ _ (hmint.symm ▸ Ne.symm hown) _ _
      · rfl
    · simpa [mint_decide, hmint] using fun h => absurd h hown

variable {p : Pipeline} (h : HoldsGap families vectorHash engine mint p) (ambient : Ambient)
  (event : NormalizedEvent) (tentative : Bool) (own : PubkeyValue)

include h

/-- Events of the manager are applied without trade. -/
theorem HoldsGap.applySells (manager : TentativeSellManager) (events : List NormalizedEvent) :
    HoldsGap families vectorHash engine mint
        ({ p with tentativeSellManager := manager }.applyDerived events) ∧
      Untouched mint p ({ p with tentativeSellManager := manager }.applyDerived events) := by
  obtain ⟨hheld, hderived⟩ := (h.withManager manager).applyDerived events
  have hmanager : Untouched mint p { p with tentativeSellManager := manager } := .of_eq rfl rfl
  exact ⟨hheld, hmanager.trans hderived⟩

theorem HoldsGap.settleSells (token : TokenState) (features : FeatureSnapshot)
    (risk : RiskAssessment) :
    HoldsGap families vectorHash engine mint
        (p.settleSells ambient event tentative own token features risk).1 ∧
      Untouched mint p (p.settleSells ambient event tentative own token features risk).1 := by
  unfold Pipeline.settleSells
  obtain ⟨hsignalled, hfirst⟩ :=
    h.applySells (p.sellSignals event tentative own token features risk).1
      (p.sellSignals event tentative own token features risk).2
  obtain ⟨hexpired, hsecond⟩ := hsignalled.applySells _ _
  exact ⟨hexpired, hfirst.trans hsecond⟩

theorem HoldsGap.decideAndExecute {token : TokenState} (features : FeatureSnapshot)
    {risk : RiskAssessment} (hmint : token.mint.text = own.text) (huntraded : token.Untraded)
    (hrisk : own.text = mint → risk.discardPolicy = .dataGapStop) :
    HoldsGap families vectorHash engine mint
        (p.decideAndExecute event tentative own token features risk) ∧
      Untouched mint p (p.decideAndExecute event tentative own token features risk) :=
  ⟨⟨h.featureEngine, h.riskEngine, h.keyed, h.untraded, h.flagged⟩,
    p.untouched_decideAndExecute event tentative own features hmint huntraded hrisk⟩

theorem HoldsGap.concludeEvent {token : TokenState} (features : FeatureSnapshot)
    {risk : RiskAssessment} (hmint : token.mint.text = own.text) (huntraded : token.Untraded)
    (hrisk : own.text = mint → risk.discardPolicy = .dataGapStop) :
    HoldsGap families vectorHash engine mint
        (p.concludeEvent ambient event tentative own token features risk).1 ∧
      Untouched mint p (p.concludeEvent ambient event tentative own token features risk).1 := by
  unfold Pipeline.concludeEvent
  cases (if tentative then none else riskTerminalVariant risk.discardPolicy) with
  | none => exact h.decideAndExecute event tentative own features hmint huntraded hrisk
  | some variant =>
      have hmoved := h.applyEvent (riskTerminalEvent ambient own variant risk
        event.info.receivedAtWallTime)
      have hfirst : Untouched mint p _ := untouched_applyEvent p
        (riskTerminalEvent ambient own variant risk event.info.receivedAtWallTime)
      simp only
      split
      · exact ⟨hmoved, hfirst⟩
      · next hnext =>
          obtain ⟨hheld, hdecided⟩ := hmoved.decideAndExecute event tentative own features
            (hmoved.keyed _ _ hnext) (hmoved.untraded _ _ hnext) hrisk
          exact ⟨hheld, hfirst.trans hdecided⟩

theorem HoldsGap.assessEvent {token : TokenState}
    (hlookup : p.stateEngine.token own = some token) :
    HoldsGap families vectorHash engine mint
        (p.assessEvent ambient event tentative own token).1 ∧
      Untouched mint p (p.assessEvent ambient event tentative own token).1 := by
  obtain ⟨hsettled, hfirst⟩ := h.settleSells ambient event tentative own token
    (p.resolved.featureEngine token p.stateEngine event.info.receivedAtWallTime)
    (p.resolved.riskEngine token
      (p.resolved.featureEngine token p.stateEngine event.info.receivedAtWallTime)
      event.info.receivedAtWallTime)
  unfold Pipeline.assessEvent
  simp only
  split
  · -- nothing was settled, and the first assessment counts
    obtain ⟨hheld, hconcluded⟩ := hsettled.concludeEvent ambient event tentative own _
      (h.keyed _ _ hlookup) (h.untraded _ _ hlookup)
      fun hown => h.stops hown hlookup event.info.receivedAtWallTime
    exact ⟨hheld, hfirst.trans hconcluded⟩
  · split
    · exact ⟨hsettled, hfirst⟩
    · next hnext =>
        obtain ⟨hheld, hconcluded⟩ := hsettled.concludeEvent ambient event tentative own _
          (hsettled.keyed _ _ hnext) (hsettled.untraded _ _ hnext)
          fun hown => hsettled.stops hown hnext event.info.receivedAtWallTime
        exact ⟨hheld, hfirst.trans hconcluded⟩

omit h

/-- An input is handled without trade in a token that carries the flag once the event is
applied. -/
theorem HoldsGap.handle (h : HoldsGap families vectorHash engine mint (p.applyEvent event)) :
    HoldsGap families vectorHash engine mint (p.handle (ambient, event)) ∧
      Untouched mint p (p.handle (ambient, event)) := by
  have hfirst : Untouched mint p _ := untouched_applyEvent p event
  unfold Pipeline.handle handleEvent
  simp only
  split
  · exact ⟨h, hfirst⟩
  · split
    · exact ⟨h, hfirst⟩
    · split
      · exact ⟨h, hfirst⟩
      · next hlookup =>
          obtain ⟨hheld, hassessed⟩ := h.assessEvent ambient event _ _ hlookup
          exact ⟨hheld, hfirst.trans hassessed⟩

theorem HoldsGap.run (h : HoldsGap families vectorHash engine mint p)
    (inputs : List (Ambient × NormalizedEvent)) :
    HoldsGap families vectorHash engine mint (inputs.foldl Pipeline.handle p) ∧
      Untouched mint p (inputs.foldl Pipeline.handle p) := by
  induction inputs generalizing p with
  | nil => exact ⟨h, .of_eq rfl rfl⟩
  | cons input inputs ih =>
      obtain ⟨hheld, hfirst⟩ := (h.applyEvent input.2).handle input.1 input.2
      obtain ⟨hlast, hrest⟩ := ih hheld
      exact ⟨hlast, hfirst.trans hrest⟩

end held

/-- The pipeline that a run with the engines of the code starts from. -/
def assessing (config : RuntimeResolvedConfig) (families : FeatureFamilies)
    (vectorHash : FeatureValues → String) (engine : Risk.RiskEngine)
    (scenarioId : Option String) : Pipeline :=
  Supervisor.freshPipeline (config.withEngines families vectorHash engine) scenarioId

theorem keyed_untraded_run (config : RuntimeResolvedConfig) (scenarioId : Option String)
    (inputs : List (Ambient × NormalizedEvent)) :
    (inputs.foldl handle (Supervisor.freshPipeline config scenarioId)).stateEngine.Keyed ∧
      (inputs.foldl handle
        (Supervisor.freshPipeline config scenarioId)).stateEngine.AllUntraded := by
  have hsteps := (Supervisor.freshPipeline config scenarioId).steps_run inputs
  refine hsteps.invariant (I := fun q => q.stateEngine.Keyed ∧ q.stateEngine.AllUntraded)
    ?_ ?_ ?_ ⟨StateEngine.keyed_new config.ttl, fun k token hlookup => by cases hlookup⟩
  · intro q event hq
    rw [stateEngine_applyEvent]
    exact ⟨StateEngine.keyed_applyEvent hq.1 event, fun k token hlookup =>
      StateEngine.keptByEvents_untraded.applyEvent hq.2 event hlookup⟩
  · exact fun q c hq => hq
  · exact fun q event tentative mint token features risk hq => hq

/-- A gap event marks a token of a run for good. -/
theorem holdsGap_applyEvent (config : RuntimeResolvedConfig) (families : FeatureFamilies)
    (vectorHash : FeatureValues → String) (engine : Risk.RiskEngine)
    (scenarioId : Option String) (before : List (Ambient × NormalizedEvent))
    {gap : NormalizedEvent} {payload : DataGapEvent} (hpayload : gap.payload = .dataGap payload)
    (hcanonical : gap.info.canonicality ≠ .reverted) {mint : String}
    (hnames : payload.names mint = true)
    (htracked : ((before.foldl handle (assessing config families vectorHash engine
      scenarioId)).stateEngine.tokens.lookup mint).isSome) :
    HoldsGap families vectorHash engine mint
      ((before.foldl handle
        (assessing config families vectorHash engine scenarioId)).applyEvent gap) := by
  obtain ⟨hkeyed, huntraded⟩ := keyed_untraded_run
    (config.withEngines families vectorHash engine) scenarioId before
  have hresolved := (sameRun_run (assessing config families vectorHash engine scenarioId)
    before).resolved
  constructor
  · rw [(sameRun_applyEvent _ gap).resolved]
    exact congrArg RuntimeResolvedConfig.featureEngine hresolved
  · rw [(sameRun_applyEvent _ gap).resolved]
    exact congrArg RuntimeResolvedConfig.riskEngine hresolved
  · rw [stateEngine_applyEvent]
    exact StateEngine.keyed_applyEvent hkeyed gap
  · rw [stateEngine_applyEvent]
    exact fun k token hlookup =>
      StateEngine.keptByEvents_untraded.applyEvent huntraded gap hlookup
  · rw [stateEngine_applyEvent,
      StateEngine.gapMarks_applyEvent_of_gap hpayload hcanonical fun _ => htracked, hnames]
    rfl

/-- A gap event that names a token of a run, be it the start of a gap or a recovery, ends the
trade in it: from then on every decision on it stops its tracking, and its position is neither
opened nor closed, whatever follows. -/
theorem gap_ends_trade (config : RuntimeResolvedConfig) (families : FeatureFamilies)
    (vectorHash : FeatureValues → String) (engine : Risk.RiskEngine)
    (scenarioId : Option String) (before after : List (Ambient × NormalizedEvent))
    (ambient : Ambient) {gap : NormalizedEvent} {payload : DataGapEvent}
    (hpayload : gap.payload = .dataGap payload)
    (hcanonical : gap.info.canonicality ≠ .reverted) {mint : String}
    (hnames : payload.names mint = true)
    (htracked : ((before.foldl handle (assessing config families vectorHash engine
      scenarioId)).stateEngine.tokens.lookup mint).isSome) :
    Untouched mint
      (before.foldl handle (assessing config families vectorHash engine scenarioId))
      ((before ++ (ambient, gap) :: after).foldl handle
        (assessing config families vectorHash engine scenarioId)) := by
  have hheld := holdsGap_applyEvent config families vectorHash engine scenarioId before hpayload
    hcanonical hnames htracked
  obtain ⟨hnext, hfirst⟩ := hheld.handle ambient gap
  rw [List.foldl_append, List.foldl_cons]
  exact hfirst.trans (hnext.run after).2

/-! ## A concrete run -/

/-- Families that compute nothing. -/
def silentFamilies : FeatureFamilies where
  compute _ _ _ values := values
  keepsIds _ _ _ _ _ := rfl

theorem isSome_lookup_handle {p : Pipeline} {mint : String} {ambient : Ambient}
    {event : NormalizedEvent}
    (h : ((p.applyEvent event).stateEngine.tokens.lookup mint).isSome) :
    ((p.handle (ambient, event)).stateEngine.tokens.lookup mint).isSome := by
  obtain ⟨generated, -, -, hsteps⟩ :=
    p.handleEvent_steps ambient event (event.info.canonicality = .tentative)
  refine hsteps.invariant (I := fun q => (q.stateEngine.tokens.lookup mint).isSome)
    ?_ ?_ ?_ h
  · intro q applied hq
    rw [stateEngine_applyEvent]
    exact StateEngine.isSome_lookup_applyEvent hq applied
  · exact fun q c hq => hq
  · exact fun q event tentative mint token features risk hq => hq

theorem isSome_lookup_created :
    (([(Supervisor.sampleAmbient, sampleCreation)].foldl handle
      (assessing sampleConfig silentFamilies (fun _ => "hash") {} none)).stateEngine.tokens.lookup
        "mint").isSome := by
  rw [List.foldl_cons, List.foldl_nil]
  apply isSome_lookup_handle
  decide +kernel

/-- A token that is created, named in a recovery and created again. -/
theorem gap_ends_trade_recovered :
    Untouched "mint"
      ([(Supervisor.sampleAmbient, sampleCreation)].foldl handle
        (assessing sampleConfig silentFamilies (fun _ => "hash") {} none))
      (([(Supervisor.sampleAmbient, sampleCreation)] ++
        (Supervisor.sampleAmbient, sampleTokenGap true "recover_stream_resumed") ::
          [(Supervisor.sampleAmbient, sampleCreation)]).foldl handle
        (assessing sampleConfig silentFamilies (fun _ => "hash") {} none)) :=
  gap_ends_trade sampleConfig silentFamilies (fun _ => "hash") {} none
    [(Supervisor.sampleAmbient, sampleCreation)] [(Supervisor.sampleAmbient, sampleCreation)]
    Supervisor.sampleAmbient rfl (by decide) (by decide +kernel) isSome_lookup_created

end Pipeline

end PumpLaunchTrader
