import PumpLaunchTrader.Engine.ShredSignals
import PumpLaunchTrader.Lib.Replay
import PumpLaunchTrader.Model.Supervisor

/-! # What handling an event depends on and generates

Handling an event moves the pipeline by the event and the pipeline alone: fresh ids and
clock readings reach only the events that it generates, and none of these is a source
event of a replay. -/

namespace PumpLaunchTrader

/-! ## Fresh ids and clock readings -/

/-- The event under another id and clock reading. -/
def NormalizedEvent.stamped (event : NormalizedEvent) (eventId : EventId)
    (monotonicNs : ℕ) : NormalizedEvent :=
  { event with
    info := { event.info with
      eventId := eventId
      observedAtMonotonicNs := monotonicNs } }

/-- Events that differ in their ids and clock readings only. -/
def NormalizedEvent.Restamps (event other : NormalizedEvent) : Prop :=
  ∃ eventId monotonicNs, event = other.stamped eventId monotonicNs

namespace StateEngine

theorem applyPayload_stamped [IterationOrder] (s : StateEngine) (event : NormalizedEvent)
    (eventId : EventId) (monotonicNs : ℕ) :
    s.applyPayload (event.stamped eventId monotonicNs) = s.applyPayload event := by
  cases event with
  | mk info payload => cases payload <;> rfl

theorem refreshDerivedIndicesForEvent_stamped (s : StateEngine) (event : NormalizedEvent)
    (eventId : EventId) (monotonicNs : ℕ) :
    s.refreshDerivedIndicesForEvent (event.stamped eventId monotonicNs) =
      s.refreshDerivedIndicesForEvent event := by
  cases event with
  | mk info payload => cases payload <;> rfl

theorem recomputeTransitions_stamped (s : StateEngine) (event : NormalizedEvent)
    (eventId : EventId) (monotonicNs : ℕ) :
    s.recomputeTransitions (event.stamped eventId monotonicNs) =
      s.recomputeTransitions event := by
  cases event with
  | mk info payload => cases payload <;> rfl

/-- The state never reads the id or the clock reading of an event. -/
theorem applyEvent_stamped [IterationOrder] (s : StateEngine) (event : NormalizedEvent)
    (eventId : EventId) (monotonicNs : ℕ) :
    s.applyEvent (event.stamped eventId monotonicNs) = s.applyEvent event := by
  unfold applyEvent
  rw [applyPayload_stamped, refreshDerivedIndicesForEvent_stamped,
    recomputeTransitions_stamped]
  rfl

end StateEngine

namespace Pipeline

variable [IterationOrder]

theorem applyEvent_restamps (p : Pipeline) {event other : NormalizedEvent}
    (h : event.Restamps other) : p.applyEvent event = p.applyEvent other := by
  obtain ⟨eventId, monotonicNs, rfl⟩ := h
  unfold applyEvent
  rw [StateEngine.applyEvent_stamped]
  rfl

theorem stateEngine_applyEvent (p : Pipeline) (event : NormalizedEvent) :
    (p.applyEvent event).stateEngine = (p.stateEngine.applyEvent event).1 := by
  unfold applyEvent
  split
  · rfl
  · rfl

theorem tentativeSellManager_applyEvent (p : Pipeline) (event : NormalizedEvent) :
    (p.applyEvent event).tentativeSellManager = p.tentativeSellManager := by
  unfold applyEvent
  split
  · rfl
  · rfl

/-- A gap event updates the gaps of the supervisor. -/
theorem applyEvent_of_gap {p : Pipeline} {event : NormalizedEvent} {payload : DataGapEvent}
    (h : event.payload = .dataGap payload) :
    p.applyEvent event =
      { p with stateEngine := (p.stateEngine.applyEvent event).1 }.updateDataGapState payload := by
  unfold applyEvent
  rw [h]

/-- Any other event moves the state only. -/
theorem applyEvent_of_not_gap {p : Pipeline} {event : NormalizedEvent}
    (h : ∀ payload, event.payload ≠ .dataGap payload) :
    p.applyEvent event = { p with stateEngine := (p.stateEngine.applyEvent event).1 } := by
  unfold applyEvent
  split
  · next payload hpayload => exact absurd hpayload (h payload)
  · rfl

theorem applyDerived_restamps (p : Pipeline) {events others : List NormalizedEvent}
    (h : List.Forall₂ NormalizedEvent.Restamps events others) :
    p.applyDerived events = p.applyDerived others := by
  induction h generalizing p with
  | nil => rfl
  | cons hhead _ ih =>
      unfold applyDerived at ih ⊢
      rw [List.foldl_cons, List.foldl_cons, p.applyEvent_restamps hhead]
      exact ih _

end Pipeline

namespace TentativeSellManager

/-- Expiries that differ in the stamps of their events only. -/
def ExpiresAlike (acc other : TentativeSellManager × List NormalizedEvent) : Prop :=
  acc.1 = other.1 ∧ List.Forall₂ NormalizedEvent.Restamps acc.2 other.2

theorem expiryEvent_restamps (freshId otherId : EventId) (pending : PendingSellContext)
    (resolved : ShredSellIntentResolvedEvent) (now : OffsetDateTime) :
    (expiryEvent freshId pending resolved now).Restamps
      (expiryEvent otherId pending resolved now) :=
  ⟨(expiryEvent freshId pending resolved now).info.eventId,
    (expiryEvent freshId pending resolved now).info.observedAtMonotonicNs, rfl⟩

theorem ExpiresAlike.expireKey {acc other : TentativeSellManager × List NormalizedEvent}
    (h : ExpiresAlike acc other) (freshIds otherIds : ℕ → EventId) (now : OffsetDateTime)
    (tokens : KeyedMap String TokenState) (key : String) :
    ExpiresAlike (expireKey freshIds now tokens acc key)
      (expireKey otherIds now tokens other key) := by
  obtain ⟨hmanager, hevents⟩ := h
  unfold TentativeSellManager.expireKey
  rw [hmanager]
  cases other.1.pending.lookup key with
  | none => exact ⟨hmanager, hevents⟩
  | some pending =>
      refine ⟨rfl, ?_⟩
      apply List.rel_append hevents
      exact List.Forall₂.cons (expiryEvent_restamps _ _ _ _ _) List.Forall₂.nil

theorem expiresAlike_expire (manager : TentativeSellManager) (freshIds otherIds : ℕ → EventId)
    (now : OffsetDateTime) (tokens : KeyedMap String TokenState) :
    ExpiresAlike (manager.expire freshIds now tokens) (manager.expire otherIds now tokens) := by
  unfold expire
  have halike : ∀ (keys : List String) (acc other : TentativeSellManager × List NormalizedEvent),
      ExpiresAlike acc other →
        ExpiresAlike (keys.foldl (TentativeSellManager.expireKey freshIds now tokens) acc)
          (keys.foldl (TentativeSellManager.expireKey otherIds now tokens) other) := by
    intro keys
    induction keys with
    | nil =>
        intro acc other h
        exact h
    | cons key keys ih =>
        intro acc other h
        exact ih _ _ (h.expireKey freshIds otherIds now tokens key)
  exact halike _ _ _ ⟨rfl, List.Forall₂.nil⟩

end TentativeSellManager

namespace Pipeline

theorem expiresAlike_expireSells (p : Pipeline) (a b : Ambient) (now : OffsetDateTime) :
    TentativeSellManager.ExpiresAlike (p.expireSells a now) (p.expireSells b now) := by
  unfold expireSells
  split
  · exact TentativeSellManager.expiresAlike_expire _ _ _ _ _
  · exact ⟨rfl, List.Forall₂.nil⟩

theorem riskTerminalEvent_restamps (a b : Ambient) (mint : PubkeyValue)
    (variant : TokenTerminalVariant) (risk : RiskAssessment) (observedAt : OffsetDateTime) :
    (riskTerminalEvent a mint variant risk observedAt).Restamps
      (riskTerminalEvent b mint variant risk observedAt) :=
  ⟨a.freshEventId 0, a.monotonicNowNs, rfl⟩

variable [IterationOrder]

theorem concludeEvent_steady (p : Pipeline) (a b : Ambient) (event : NormalizedEvent)
    (tentative : Bool) (mint : PubkeyValue) (token : TokenState) (features : FeatureSnapshot)
    (risk : RiskAssessment) :
    (p.concludeEvent a event tentative mint token features risk).1 =
      (p.concludeEvent b event tentative mint token features risk).1 := by
  unfold concludeEvent
  cases (if tentative then none else riskTerminalVariant risk.discardPolicy) with
  | none => rfl
  | some variant =>
      simp only [p.applyEvent_restamps
        (riskTerminalEvent_restamps a b mint variant risk event.info.receivedAtWallTime)]
      split
      · rfl
      · rfl

theorem settleSells_steady (p : Pipeline) (a b : Ambient) (event : NormalizedEvent)
    (tentative : Bool) (mint : PubkeyValue) (token : TokenState) (features : FeatureSnapshot)
    (risk : RiskAssessment) :
    (p.settleSells a event tentative mint token features risk).1 =
        (p.settleSells b event tentative mint token features risk).1 ∧
      (p.settleSells a event tentative mint token features risk).2.isEmpty =
        (p.settleSells b event tentative mint token features risk).2.isEmpty := by
  unfold settleSells
  generalize p.sellSignals event tentative mint token features risk = signals
  obtain ⟨hmanager, hevents⟩ := expiresAlike_expireSells
    ({ p with tentativeSellManager := signals.1 }.applyDerived signals.2) a b
    event.info.receivedAtWallTime
  constructor
  · simp only [hmanager]
    exact applyDerived_restamps _ hevents
  · rw [Bool.eq_iff_iff, List.isEmpty_iff_length_eq_zero, List.isEmpty_iff_length_eq_zero,
      List.length_append, List.length_append, hevents.length_eq]

theorem assessEvent_steady (p : Pipeline) (a b : Ambient) (event : NormalizedEvent)
    (tentative : Bool) (mint : PubkeyValue) (token : TokenState) :
    (p.assessEvent a event tentative mint token).1 =
      (p.assessEvent b event tentative mint token).1 := by
  obtain ⟨hsettled, hempty⟩ := p.settleSells_steady a b event tentative mint token
    (p.resolved.featureEngine token p.stateEngine event.info.receivedAtWallTime)
    (p.resolved.riskEngine token
      (p.resolved.featureEngine token p.stateEngine event.info.receivedAtWallTime)
      event.info.receivedAtWallTime)
  unfold assessEvent
  simp only [hsettled, hempty]
  split
  · exact concludeEvent_steady _ _ _ _ _ _ _ _ _
  · split
    · rfl
    · exact concludeEvent_steady _ _ _ _ _ _ _ _ _

/-- The next pipeline does not depend on fresh ids and clock readings. -/
theorem handleEvent_steady (p : Pipeline) (a b : Ambient) (event : NormalizedEvent)
    (tentative : Bool) :
    (p.handleEvent a event tentative).1 = (p.handleEvent b event tentative).1 := by
  unfold handleEvent
  simp only
  split
  · rfl
  · split
    · rfl
    · split
      · rfl
      · exact assessEvent_steady _ _ _ _ _ _ _

theorem finalize_steady (p : Pipeline) (a b : Ambient) (unixNow : OffsetDateTime) :
    (p.finalize a unixNow).1 = (p.finalize b unixNow).1 := by
  have halike : TentativeSellManager.ExpiresAlike (p.finalExpiry a unixNow)
      (p.finalExpiry b unixNow) := TentativeSellManager.expiresAlike_expire _ _ _ _ _
  obtain ⟨hmanager, hevents⟩ := halike
  unfold finalize
  simp only [hmanager]
  exact applyDerived_restamps _ hevents

end Pipeline

/-! ## Generated events -/

/-- Events that write the shred defense of a token. -/
def ShredSignals (events : List NormalizedEvent) : Prop :=
  ∀ event ∈ events, event.payload.isShredSignal = true

theorem shredSignals_nil : ShredSignals [] := by simp [ShredSignals]

theorem shredSignals_singleton {event : NormalizedEvent}
    (h : event.payload.isShredSignal = true) : ShredSignals [event] := by
  simpa [ShredSignals] using h

theorem ShredSignals.append {events others : List NormalizedEvent} (h : ShredSignals events)
    (hothers : ShredSignals others) : ShredSignals (events ++ others) := by
  unfold ShredSignals
  rw [List.forall_mem_append]
  exact ⟨h, hothers⟩

/-- A fold whose every iteration adds shred signals adds shred signals only. -/
theorem ShredSignals.foldl {α : Type} {step : α × List NormalizedEvent → String →
      α × List NormalizedEvent}
    (hstep : ∀ acc key, ShredSignals acc.2 → ShredSignals (step acc key).2) (keys : List String)
    (acc : α × List NormalizedEvent) (h : ShredSignals acc.2) :
    ShredSignals (keys.foldl step acc).2 := by
  induction keys generalizing acc with
  | nil => exact h
  | cons key keys ih => exact ih _ (hstep acc key h)

namespace TentativeSellManager

theorem shredSignals_trackSell (manager : TentativeSellManager) (assessment : SellAssessment)
    (event : NormalizedEvent) (payload : PumpSellEvent) (token : TokenState)
    (features : FeatureSnapshot) (risk : RiskAssessment)
    (position : Option OpenPositionContext) :
    ShredSignals
      (manager.trackSell assessment event payload token features risk position).2 := by
  unfold trackSell
  refine ShredSignals.append (ShredSignals.append ?_ ?_) ?_
  · intro derived hderived
    simp only [List.mem_cons, List.not_mem_nil, or_false] at hderived
    rcases hderived with rfl | rfl
    · rfl
    · rfl
  · intro derived hderived
    rw [Option.mem_toList, Option.map_eq_some_iff] at hderived
    obtain ⟨armed, -, rfl⟩ := hderived
    rfl
  · intro derived hderived
    rw [Option.mem_toList, Option.map_eq_some_iff] at hderived
    obtain ⟨triggered, -, rfl⟩ := hderived
    rfl

theorem shredSignals_detectTentativeSell (manager : TentativeSellManager)
    (event : NormalizedEvent) (token : TokenState) (features : FeatureSnapshot)
    (risk : RiskAssessment) (position : Option OpenPositionContext) :
    ShredSignals (manager.detectTentativeSell event token features risk position).2 := by
  unfold detectTentativeSell
  split
  · split
    · exact shredSignals_nil
    · simp only
      split
      · exact shredSignals_singleton rfl
      · exact shredSignals_trackSell _ _ _ _ _ _ _ _
  · exact shredSignals_nil

theorem shredSignals_reconcile (manager : TentativeSellManager) (event : NormalizedEvent)
    (token : Option TokenState) : ShredSignals (manager.reconcile event token).2 := by
  unfold reconcile
  split
  · exact shredSignals_nil
  · apply ShredSignals.foldl _ _ _ shredSignals_nil
    intro acc key hacc
    unfold reconcileKey
    split
    · exact hacc
    · split
      · exact hacc
      · exact hacc.append (shredSignals_singleton rfl)

theorem shredSignals_expire (manager : TentativeSellManager) (freshIds : ℕ → EventId)
    (now : OffsetDateTime) (tokens : KeyedMap String TokenState) :
    ShredSignals (manager.expire freshIds now tokens).2 := by
  unfold expire
  apply ShredSignals.foldl _ _ _ shredSignals_nil
  intro acc key hacc
  unfold TentativeSellManager.expireKey
  split
  · exact hacc
  · exact hacc.append (shredSignals_singleton rfl)

end TentativeSellManager

/-- The events that handling an event generates: shred signals and terminals. -/
def EventPayload.isGenerated : EventPayload → Bool
  | .tokenTerminal _ => true
  | payload => payload.isShredSignal

def Generated (events : List NormalizedEvent) : Prop :=
  ∀ event ∈ events, event.payload.isGenerated = true

theorem EventPayload.isGenerated_of_isShredSignal {payload : EventPayload}
    (h : payload.isShredSignal = true) : payload.isGenerated = true := by
  cases payload with
  | tokenTerminal _ => rfl
  | _ => exact h

theorem ShredSignals.generated {events : List NormalizedEvent} (h : ShredSignals events) :
    Generated events :=
  fun event hevent => EventPayload.isGenerated_of_isShredSignal (h event hevent)

theorem generated_nil : Generated [] := by simp [Generated]

theorem generated_singleton {event : NormalizedEvent} (h : event.payload.isGenerated = true) :
    Generated [event] := by
  simpa [Generated] using h

theorem Generated.append {events others : List NormalizedEvent} (h : Generated events)
    (hothers : Generated others) : Generated (events ++ others) := by
  unfold Generated
  rw [List.forall_mem_append]
  exact ⟨h, hothers⟩

/-- No generated event is a gap. -/
theorem not_gap_of_isGenerated {event : NormalizedEvent}
    (h : event.payload.isGenerated = true) (payload : DataGapEvent) :
    event.payload ≠ .dataGap payload := by
  intro hpayload
  rw [hpayload] at h
  cases h

/-- A replay takes no generated event from the log. -/
theorem isReplaySourceEvent_of_isGenerated {event : NormalizedEvent}
    (h : event.payload.isGenerated = true) : event.isReplaySourceEvent = false := by
  unfold NormalizedEvent.isReplaySourceEvent
  cases hpayload : event.payload <;>
    simp_all [EventPayload.isGenerated, EventPayload.isShredSignal]

namespace Pipeline

variable [IterationOrder]

theorem shredSignals_settleSells (p : Pipeline) (ambient : Ambient) (event : NormalizedEvent)
    (tentative : Bool) (mint : PubkeyValue) (token : TokenState) (features : FeatureSnapshot)
    (risk : RiskAssessment) :
    ShredSignals (p.settleSells ambient event tentative mint token features risk).2 := by
  have hsignals : ShredSignals (p.sellSignals event tentative mint token features risk).2 := by
    unfold sellSignals
    split
    · split
      · exact TentativeSellManager.shredSignals_detectTentativeSell _ _ _ _ _ _
      · exact shredSignals_nil
    · exact TentativeSellManager.shredSignals_reconcile _ _ _
  have hexpiry : ∀ q : Pipeline,
      ShredSignals (q.expireSells ambient event.info.receivedAtWallTime).2 := by
    intro q
    unfold expireSells
    split
    · exact TentativeSellManager.shredSignals_expire _ _ _ _
    · exact shredSignals_nil
  exact hsignals.append (hexpiry _)

theorem generated_concludeEvent (p : Pipeline) (ambient : Ambient) (event : NormalizedEvent)
    (tentative : Bool) (mint : PubkeyValue) (token : TokenState) (features : FeatureSnapshot)
    (risk : RiskAssessment) :
    Generated (p.concludeEvent ambient event tentative mint token features risk).2 := by
  unfold concludeEvent
  split
  · exact generated_nil
  · simp only
    split
    · exact generated_singleton rfl
    · exact generated_singleton rfl

theorem generated_assessEvent (p : Pipeline) (ambient : Ambient) (event : NormalizedEvent)
    (tentative : Bool) (mint : PubkeyValue) (token : TokenState) :
    Generated (p.assessEvent ambient event tentative mint token).2 := by
  unfold assessEvent
  simp only
  split
  · exact generated_concludeEvent _ _ _ _ _ _ _ _
  · have hsettled := (p.shredSignals_settleSells ambient event tentative mint token
      (p.resolved.featureEngine token p.stateEngine event.info.receivedAtWallTime)
      (p.resolved.riskEngine token
        (p.resolved.featureEngine token p.stateEngine event.info.receivedAtWallTime)
        event.info.receivedAtWallTime)).generated
    split
    · exact hsettled
    · exact hsettled.append (generated_concludeEvent _ _ _ _ _ _ _ _)

/-- An event is handled first and followed by generated events only. -/
theorem handleEvent_generates (p : Pipeline) (ambient : Ambient) (event : NormalizedEvent)
    (tentative : Bool) :
    ∃ generated, (p.handleEvent ambient event tentative).2 = event :: generated ∧
      Generated generated := by
  unfold handleEvent
  simp only
  split
  · exact ⟨[], rfl, generated_nil⟩
  · split
    · exact ⟨[], rfl, generated_nil⟩
    · split
      · exact ⟨[], rfl, generated_nil⟩
      · exact ⟨_, rfl, generated_assessEvent _ _ _ _ _ _⟩

theorem shredSignals_finalize (p : Pipeline) (ambient : Ambient) (unixNow : OffsetDateTime) :
    ShredSignals (p.finalize ambient unixNow).2 :=
  TentativeSellManager.shredSignals_expire _ _ _ _

/-! ## The pipeline as a journaled system -/

/-- The pipeline handles an event as tentative when its canonicality is. -/
def journaled : Journaled Ambient Pipeline NormalizedEvent where
  step ambient p event :=
    p.handleEvent ambient event (event.info.canonicality = .tentative)
  isSource := NormalizedEvent.isReplaySourceEvent

theorem lawful_journaled : journaled.Lawful where
  steady a b p event := p.handleEvent_steady a b event _
  generates ambient p event := by
    obtain ⟨generated, hevents, hgenerated⟩ := p.handleEvent_generates ambient event
      (event.info.canonicality = .tentative)
    exact ⟨generated, hevents, fun entry hentry =>
      isReplaySourceEvent_of_isGenerated (hgenerated entry hentry)⟩

end Pipeline

end PumpLaunchTrader
