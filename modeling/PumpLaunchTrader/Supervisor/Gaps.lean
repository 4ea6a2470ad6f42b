import PumpLaunchTrader.Supervisor.HardBlocks
import PumpLaunchTrader.Supervisor.Log

/-! # Open data gaps

A gap event names its targets: each affected token or, without tokens, one scope that is
read from its text. A recovery closes the gaps of its source on its targets, any other gap
event opens one gap for each target. When every opened gap is closed, trading is allowed again
as configured. A gap of global scope is not closed by the recovery of a source. -/

namespace PumpLaunchTrader

/-! ## Gap events -/

namespace DataGapEvent

/-- An event that recovers: trading is allowed, or the text says so. -/
def isRecovery (payload : DataGapEvent) : Bool :=
  payload.tradeAllowed ∨ textContains payload.recoveryAction "recover" ∨
    textContains payload.recoveryAction "resume"

/-- The scope of an event without tokens. -/
def textScope (payload : DataGapEvent) (scenarioId : Option String) : DataGapScope :=
  if textContains payload.recoveryAction "enter_data_gap_mode" then .global
  else if scenarioId.isSome then .scenario
  else .source

/-- Each affected token, or the one scope of an event without tokens. -/
def targets (payload : DataGapEvent) (scenarioId : Option String) :
    List (DataGapScope × Option String) :=
  if payload.affectedTokens ≠ [] then
    payload.affectedTokens.map fun mint => (.token, some mint.text)
  else [(payload.textScope scenarioId, none)]

/-- The gap of an event on one of its targets. -/
def gapOn (payload : DataGapEvent) (runId : String) (scenarioId : Option String)
    (target : DataGapScope × Option String) : ScopedDataGap :=
  { scope := target.1
    source := payload.source
    startSlot := payload.startSlot
    endSlot := payload.endSlot
    severity := payload.severity
    active := !payload.isRecovery
    tradeBlocking := !payload.tradeAllowed
    affectedToken := target.2
    runId := runId
    scenarioId := scenarioId
    reasonCodes := [.dataGapActive]
    recoveryAction := payload.recoveryAction }

/-- An event recovers the target of another one of the same source. -/
def Recovers (recovery opening : DataGapEvent) (scenarioId : Option String)
    (target : DataGapScope × Option String) : Prop :=
  recovery.isRecovery = true ∧ recovery.source = opening.source ∧
    target ∈ recovery.targets scenarioId

theorem tradeAllowed_of_not_recovery {payload : DataGapEvent}
    (h : payload.isRecovery = false) : payload.tradeAllowed = false := by
  unfold isRecovery at h
  simp only [decide_eq_false_iff_not, not_or] at h
  simpa using h.1

end DataGapEvent

theorem scopedGapsFromEvent_eq (payload : DataGapEvent) (runId : String)
    (scenarioId : Option String) :
    scopedGapsFromEvent payload runId scenarioId =
      (payload.targets scenarioId).map (payload.gapOn runId scenarioId) := by
  unfold scopedGapsFromEvent DataGapEvent.targets
  by_cases h : payload.affectedTokens ≠ []
  · rw [if_pos h, if_pos h, List.map_map]
    rfl
  · rw [if_neg h, if_neg h]
    rfl

namespace Pipeline

/-! ## Recording gaps -/

/-- The gaps that an event opens. -/
def opensGaps (self : Pipeline) (payload : DataGapEvent) : List ScopedDataGap :=
  if payload.isRecovery then []
  else (payload.targets self.currentScenarioId).map
    (payload.gapOn self.resolved.runId self.currentScenarioId)

/-- Whether an event closes a gap. -/
def closesGap (self : Pipeline) (payload : DataGapEvent) (existing : ScopedDataGap) : Bool :=
  payload.isRecovery && (payload.targets self.currentScenarioId).any fun target =>
    (payload.gapOn self.resolved.runId self.currentScenarioId target).closes existing

theorem foldl_recordGap_of_inactive {gaps : List ScopedDataGap}
    (h : ∀ gap ∈ gaps, gap.active = false) (existing : List ScopedDataGap) :
    gaps.foldl recordGap existing =
      existing.filter fun old => !gaps.any fun gap => gap.closes old := by
  induction gaps generalizing existing with
  | nil => simp
  | cons gap gaps ih =>
      rw [List.forall_mem_cons] at h
      have hclose : recordGap existing gap = existing.filter fun old => !gap.closes old := by
        unfold recordGap
        rw [if_neg (by simp [h.1])]
      rw [List.foldl_cons, ih h.2, hclose, List.filter_filter]
      congr 1
      funext old
      simp [Bool.and_comm]

theorem foldl_recordGap_of_active {gaps : List ScopedDataGap}
    (h : ∀ gap ∈ gaps, gap.active = true) (existing : List ScopedDataGap) :
    gaps.foldl recordGap existing = existing ++ gaps := by
  induction gaps generalizing existing with
  | nil => simp
  | cons gap gaps ih =>
      rw [List.forall_mem_cons] at h
      have hopen : recordGap existing gap = existing ++ [gap] := by
        unfold recordGap
        rw [if_pos h.1]
      rw [List.foldl_cons, ih h.2, hopen, List.append_assoc, List.singleton_append]

/-- A gap event closes gaps and opens others. -/
theorem activeDataGaps_updateDataGapState (p : Pipeline) (payload : DataGapEvent) :
    (p.updateDataGapState payload).activeDataGaps =
      OpenEntries.record p.opensGaps p.closesGap p.activeDataGaps payload := by
  have hgaps : (p.updateDataGapState payload).activeDataGaps =
      ((payload.targets p.currentScenarioId).map
        (payload.gapOn p.resolved.runId p.currentScenarioId)).foldl recordGap
          p.activeDataGaps := by
    rw [← scopedGapsFromEvent_eq]
    rfl
  rw [hgaps]
  unfold OpenEntries.record opensGaps closesGap
  cases hrecovery : payload.isRecovery with
  | true =>
      rw [foldl_recordGap_of_inactive]
      · simp only [if_true, List.append_nil, Bool.true_and, List.any_map, Function.comp_def]
      · intro gap hgap
        obtain ⟨target, -, rfl⟩ := List.mem_map.mp hgap
        simp [DataGapEvent.gapOn, hrecovery]
  | false =>
      rw [foldl_recordGap_of_active]
      · simp
      · intro gap hgap
        obtain ⟨target, -, rfl⟩ := List.mem_map.mp hgap
        simp [DataGapEvent.gapOn, hrecovery]

theorem mem_opensGaps {p : Pipeline} {payload : DataGapEvent} {gap : ScopedDataGap} :
    gap ∈ p.opensGaps payload ↔ payload.isRecovery = false ∧
      ∃ target ∈ payload.targets p.currentScenarioId,
        gap = payload.gapOn p.resolved.runId p.currentScenarioId target := by
  unfold opensGaps
  cases payload.isRecovery with
  | true => simp
  | false => simp [eq_comm]

/-- A recovery closes the gap of an opening event on a target that it recovers. -/
theorem closesGap_gapOn {p : Pipeline} {recovery opening : DataGapEvent}
    {target : DataGapScope × Option String} :
    p.closesGap recovery (opening.gapOn p.resolved.runId p.currentScenarioId target) = true ↔
      recovery.Recovers opening p.currentScenarioId target := by
  unfold closesGap DataGapEvent.Recovers
  rw [Bool.and_eq_true, List.any_eq_true]
  apply and_congr_right
  intro _
  constructor
  · rintro ⟨other, hother, hcloses⟩
    simp only [ScopedDataGap.closes, DataGapEvent.gapOn, and_true, decide_eq_true_eq] at hcloses
    obtain ⟨hscope, hsource, htoken⟩ := hcloses
    have htarget : target = other := Prod.ext hscope htoken
    rw [htarget]
    exact ⟨hsource.symm, hother⟩
  · rintro ⟨hsource, hmem⟩
    refine ⟨target, hmem, ?_⟩
    simp [ScopedDataGap.closes, DataGapEvent.gapOn, hsource]

end Pipeline

/-! ## Recovered gaps -/

namespace Pipeline

/-- No active gap blocks trading. -/
def NoActiveBlock (p : Pipeline) : Prop :=
  ∀ gap ∈ p.activeDataGaps, ¬ (gap.active = true ∧ gap.tradeBlocking = true)

/-- The safety follows the configuration and the open gaps. -/
def SafetyFollowsGaps (p : Pipeline) : Prop :=
  p.safety.tradeAllowed =
    (!p.resolved.liveEnabled && !p.activeDataGaps.any ScopedDataGap.blocksGlobally)

/-- Handle the gaps of a sequence of events. -/
def updateDataGaps (p : Pipeline) (payloads : List DataGapEvent) : Pipeline :=
  payloads.foldl updateDataGapState p

theorem safetyFollowsGaps_updateDataGapState (p : Pipeline) (payload : DataGapEvent) :
    (p.updateDataGapState payload).SafetyFollowsGaps := rfl

theorem safetyFollowsGaps_updateDataGaps {p : Pipeline} (h : p.SafetyFollowsGaps)
    (payloads : List DataGapEvent) : (p.updateDataGaps payloads).SafetyFollowsGaps := by
  unfold updateDataGaps
  induction payloads generalizing p with
  | nil => exact h
  | cons payload payloads ih => exact ih (p.safetyFollowsGaps_updateDataGapState payload)

theorem sameRun_updateDataGaps (p : Pipeline) (payloads : List DataGapEvent) :
    p.SameRun (p.updateDataGaps payloads) := by
  unfold updateDataGaps
  induction payloads generalizing p with
  | nil => exact SameRun.refl p
  | cons payload payloads ih =>
      have hfirst : p.SameRun (p.updateDataGapState payload) := ⟨rfl, rfl⟩
      exact hfirst.trans (ih (p.updateDataGapState payload))

/-- The open gaps after a sequence of events. -/
theorem activeDataGaps_updateDataGaps (p : Pipeline) (payloads : List DataGapEvent) :
    (p.updateDataGaps payloads).activeDataGaps =
      payloads.foldl (OpenEntries.record p.opensGaps p.closesGap) p.activeDataGaps := by
  unfold updateDataGaps
  induction payloads generalizing p with
  | nil => rfl
  | cons payload payloads ih =>
      have hopens : (p.updateDataGapState payload).opensGaps = p.opensGaps := rfl
      have hcloses : (p.updateDataGapState payload).closesGap = p.closesGap := rfl
      rw [List.foldl_cons, List.foldl_cons, ih, hopens, hcloses,
        activeDataGaps_updateDataGapState]

theorem blocks_of_mem_opensGaps {p : Pipeline} {payload : DataGapEvent} {gap : ScopedDataGap}
    (h : gap ∈ p.opensGaps payload) : gap.active = true ∧ gap.tradeBlocking = true := by
  obtain ⟨hopening, target, -, rfl⟩ := mem_opensGaps.mp h
  simp [DataGapEvent.gapOn, hopening, DataGapEvent.tradeAllowed_of_not_recovery hopening]

/-- Without a block, trading of every token is allowed as configured. -/
theorem tokenTradeAllowed_of_noActiveBlock {p : Pipeline} (h : p.NoActiveBlock)
    (hsafety : p.SafetyFollowsGaps) (mint : String) :
    (p.tokenTradeAllowed mint).1 = !p.resolved.liveEnabled := by
  have hglobal : p.activeDataGaps.any ScopedDataGap.blocksGlobally = false := by
    rw [List.any_eq_false]
    intro gap hgap hblocks
    simp only [ScopedDataGap.blocksGlobally, decide_eq_true_eq] at hblocks
    exact h gap hgap ⟨hblocks.1, hblocks.2.1⟩
  have htoken : p.activeDataGaps.any (·.blocksToken mint) = false := by
    rw [List.any_eq_false]
    intro gap hgap hblocks
    simp only [ScopedDataGap.blocksToken, decide_eq_true_eq] at hblocks
    exact h gap hgap ⟨hblocks.1, hblocks.2.1⟩
  have hallowed : (p.tokenTradeAllowed mint).1 = p.safety.tradeAllowed := by
    simp [tokenTradeAllowed, hglobal, htoken]
  rw [hallowed, hsafety, hglobal, Bool.not_false, Bool.and_true]

/-- From no open gap, no active block is left exactly when every target of every opening event
is recovered later by an event of the same source. -/
theorem noActiveBlock_updateDataGaps_iff {p : Pipeline} (hclean : p.activeDataGaps = [])
    (payloads : List DataGapEvent) :
    (p.updateDataGaps payloads).NoActiveBlock ↔
      ∀ before opening rest, payloads = before ++ opening :: rest →
        opening.isRecovery = false → ∀ target ∈ opening.targets p.currentScenarioId,
          ∃ recovery ∈ rest, recovery.Recovers opening p.currentScenarioId target := by
  unfold NoActiveBlock
  rw [activeDataGaps_updateDataGaps, hclean]
  constructor
  · intro hnone before opening rest hsplit hopening target htarget
    have hgap : opening.gapOn p.resolved.runId p.currentScenarioId target ∈
        p.opensGaps opening := mem_opensGaps.mpr ⟨hopening, target, htarget, rfl⟩
    by_contra hopen
    refine hnone _ ?_ (blocks_of_mem_opensGaps hgap)
    refine OpenEntries.mem_foldl_record.mpr (Or.inr ⟨before, opening, rest, hsplit, hgap, ?_⟩)
    intro recovery hrecovery
    rw [← Bool.not_eq_true, closesGap_gapOn]
    exact fun hrecovers => hopen ⟨recovery, hrecovery, hrecovers⟩
  · intro hrecovered gap hmem _
    rcases OpenEntries.mem_foldl_record.mp hmem with
      ⟨hnil, -⟩ | ⟨before, opening, rest, hsplit, hgap, hkept⟩
    · cases hnil
    · obtain ⟨hopening, target, htarget, rfl⟩ := mem_opensGaps.mp hgap
      obtain ⟨recovery, hrecovery, hrecovers⟩ :=
        hrecovered before opening rest hsplit hopening target htarget
      have hclosed := closesGap_gapOn.mpr hrecovers
      rw [hkept recovery hrecovery] at hclosed
      cases hclosed

/-- An event that recovers nothing leaves every open gap open, and opens a blocking gap on
each of its targets. -/
theorem updateDataGapState_of_not_recovery (p : Pipeline) {payload : DataGapEvent}
    (h : payload.isRecovery = false) :
    (∀ gap ∈ p.activeDataGaps, gap ∈ (p.updateDataGapState payload).activeDataGaps) ∧
      ∀ target ∈ payload.targets p.currentScenarioId,
        ∃ gap ∈ (p.updateDataGapState payload).activeDataGaps, gap.active = true ∧
          gap.tradeBlocking = true ∧ gap.source = payload.source ∧
            (gap.scope, gap.affectedToken) = target := by
  rw [activeDataGaps_updateDataGapState]
  constructor
  · intro gap hgap
    exact OpenEntries.mem_record.mpr (Or.inl ⟨hgap, by simp [closesGap, h]⟩)
  · intro target htarget
    have hgap : payload.gapOn p.resolved.runId p.currentScenarioId target ∈
        p.opensGaps payload := mem_opensGaps.mpr ⟨h, target, htarget, rfl⟩
    obtain ⟨hactive, hblocking⟩ := blocks_of_mem_opensGaps hgap
    exact ⟨_, OpenEntries.mem_record.mpr (Or.inr hgap), hactive, hblocking, rfl, rfl⟩

/-- From no open gap, trading is allowed again as configured exactly when every target of
every opening event is recovered by its source; and an event that recovers nothing removes no
gap and leaves its own gaps blocking. -/
theorem gaps_recovered (p : Pipeline) (payloads : List DataGapEvent)
    (hclean : p.activeDataGaps = [])
    (hsafety : p.safety.tradeAllowed = !p.resolved.liveEnabled) :
    ((p.updateDataGaps payloads).NoActiveBlock ↔
        ∀ before opening rest, payloads = before ++ opening :: rest →
          opening.isRecovery = false → ∀ target ∈ opening.targets p.currentScenarioId,
            ∃ recovery ∈ rest, recovery.Recovers opening p.currentScenarioId target) ∧
      ((p.updateDataGaps payloads).NoActiveBlock → ∀ mint,
        ((p.updateDataGaps payloads).tokenTradeAllowed mint).1 = !p.resolved.liveEnabled) ∧
      ∀ payload : DataGapEvent, payload.isRecovery = false →
        let after := (p.updateDataGaps payloads).updateDataGapState payload
        (∀ gap ∈ (p.updateDataGaps payloads).activeDataGaps, gap ∈ after.activeDataGaps) ∧
          ∀ target ∈ payload.targets p.currentScenarioId, ∃ gap ∈ after.activeDataGaps,
            gap.active = true ∧ gap.tradeBlocking = true ∧ gap.source = payload.source ∧
              (gap.scope, gap.affectedToken) = target := by
  have hsame := p.sameRun_updateDataGaps payloads
  have hfollows : p.SafetyFollowsGaps := by
    unfold SafetyFollowsGaps
    rw [hsafety, hclean]
    simp
  refine ⟨noActiveBlock_updateDataGaps_iff hclean payloads, ?_, ?_⟩
  · intro hnone mint
    rw [tokenTradeAllowed_of_noActiveBlock hnone
      (safetyFollowsGaps_updateDataGaps hfollows payloads) mint, hsame.resolved]
  · intro payload hopening
    have hafter := (p.updateDataGaps payloads).updateDataGapState_of_not_recovery hopening
    rw [hsame.currentScenarioId] at hafter
    exact hafter

/-- A gap event of the Geyser stream at a slot, without tokens. -/
def streamGap (gapType : DataGapType) (severity : GapSeverity) (slot : ℕ) (recovered : Bool)
    (action : String) : DataGapEvent :=
  { gapType := gapType
    source := .geyserProcessed
    startSlot := slot
    endSlot := some slot
    affectedTokens := []
    severity := severity
    tradeAllowed := recovered
    recoveryAction := action }

/-- The stream fails and reconnects. -/
def reconnectedStream : List DataGapEvent :=
  [streamGap .reconnectGap .high 10 false "reconnect_stream_gap",
    streamGap .reconnectGap .low 11 true "recover_stream_resumed"]

/-- A queue overflows, then the stream resumes. -/
def overflowedStream : List DataGapEvent :=
  [streamGap .transactionStreamGap .high 10 false "enter_data_gap_mode",
    streamGap .reconnectGap .low 11 true "recover_stream_resumed"]

/-- After the reconnection trading is allowed again. -/
theorem gaps_recovered_reconnected :
    (((Supervisor.new sampleConfig {}).updateDataGaps reconnectedStream).tokenTradeAllowed
      "mint").1 = true := by
  refine (gaps_recovered (Supervisor.new sampleConfig {}).toPipeline reconnectedStream rfl
    rfl).2.1 ?_ "mint"
  intro gap hgap
  have hnone : ((Supervisor.new sampleConfig {}).updateDataGaps
      reconnectedStream).activeDataGaps = [] := by decide +kernel
  rw [hnone] at hgap
  cases hgap

/-- The gap of an overflow has global scope, and stays open when its source recovers. -/
theorem gaps_recovered_fails :
    ¬ ∀ (p : Pipeline) (payloads : List DataGapEvent), p.activeDataGaps = [] →
        p.safety.tradeAllowed = (!p.resolved.liveEnabled) →
        (∀ before opening rest, payloads = before ++ opening :: rest →
          opening.tradeAllowed = false → ∃ recovery ∈ rest, recovery.tradeAllowed = true ∧
            recovery.source = opening.source ∧
            recovery.affectedTokens = opening.affectedTokens) →
        (p.updateDataGaps payloads).NoActiveBlock := by
  intro h
  have hnone := h (Supervisor.new sampleConfig {}).toPipeline overflowedStream rfl rfl ?_
  · have hblock : ((Supervisor.new sampleConfig {}).updateDataGaps
        overflowedStream).activeDataGaps.any ScopedDataGap.blocksGlobally = true := by
      decide +kernel
    obtain ⟨gap, hgap, hblocks⟩ := List.any_eq_true.mp hblock
    simp only [ScopedDataGap.blocksGlobally, decide_eq_true_eq] at hblocks
    exact hnone gap hgap ⟨hblocks.1, hblocks.2.1⟩
  · intro before opening rest hsplit hopening
    cases before with
    | nil =>
        obtain ⟨rfl, rfl⟩ := List.cons.inj hsplit
        exact ⟨_, List.mem_singleton_self _, rfl, rfl, rfl⟩
    | cons first before =>
        obtain ⟨-, hrest⟩ := List.cons.inj hsplit
        have hmem : opening ∈ [streamGap .reconnectGap .low 11 true "recover_stream_resumed"] := by
          rw [hrest]
          simp
        rw [List.mem_singleton] at hmem
        subst hmem
        cases hopening

end Pipeline

end PumpLaunchTrader
