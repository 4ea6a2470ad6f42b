import PumpLaunchTrader.Holder.RankingOrder
import PumpLaunchTrader.ShredExit.Reconcile
import PumpLaunchTrader.Supervisor.Log
import PumpLaunchTrader.Supervisor.RunId

/-! # Handling in other orders of the maps

The owners of a token are ranked in the order of a map, and an event resolves pending sells in
that of another. Of all events only a holder update that is applied ranks owners. Where no tie
competes for a rank and no two pending sells are resolved at once, handling an event is the same
in every order. -/

namespace PumpLaunchTrader

/-! ## Events without a tie -/

namespace StateEngine

/-- The token that a holder update finds or creates. -/
def updatedToken (s : StateEngine) (update : HolderBalanceUpdateEvent)
    (event : NormalizedEvent) : TokenState :=
  (s.tokens.lookup update.mint.text).getD (TokenState.new update.mint event.info.source)

/-- A holder update that is applied ranks the owners of its token without a competing tie. -/
def RanksWithoutTie (s : StateEngine) (event : NormalizedEvent) : Prop :=
  event.info.canonicality ≠ .reverted → ∀ update ∈ event.holderUpdate,
    (s.updatedToken update event).holderState.RanksWithoutTie update event
      (update.tokenDecimals.getD (s.updatedToken update event).reserveState.tokenDecimals)

instance (s : StateEngine) (event : NormalizedEvent) : Decidable (s.RanksWithoutTie event) :=
  inferInstanceAs (Decidable (_ → ∀ update ∈ event.holderUpdate,
    HolderState.RanksWithoutTie _ update event _))

theorem ranksWithoutTie_of_isGenerated (s : StateEngine) {event : NormalizedEvent}
    (h : event.payload.isGenerated = true) : s.RanksWithoutTie event := by
  intro _ update hupdate
  unfold NormalizedEvent.holderUpdate at hupdate
  split at hupdate
  · next hpayload =>
      rw [hpayload] at h
      cases h
  · cases hupdate

theorem applyPayload_of_noTie (order : IterationOrder) {s : StateEngine}
    {event : NormalizedEvent} (hreverted : event.info.canonicality ≠ .reverted)
    (h : s.RanksWithoutTie event) :
    @applyPayload order s event = @applyPayload insertionOrder s event := by
  unfold applyPayload
  cases hpayload : event.payload with
  | holderBalanceUpdate update =>
      have htoken : @TokenState.applyHolderUpdate order (s.updatedToken update event) update
            event =
          @TokenState.applyHolderUpdate insertionOrder (s.updatedToken update event) update
            event := by
        unfold TokenState.applyHolderUpdate
        rw [HolderState.applyBalanceUpdate_of_noTie order
          (h hreverted update (by rw [NormalizedEvent.holderUpdate, hpayload]; rfl))]
      unfold updatedToken at htoken
      simp only [applyHolderUpdate, withToken, KeyedMap.upsert, htoken]
  | _ => rfl

/-- Without a competing tie an event does the same in every order. -/
theorem applyEvent_of_noTie (order : IterationOrder) {s : StateEngine} {event : NormalizedEvent}
    (h : s.RanksWithoutTie event) :
    @applyEvent order s event = @applyEvent insertionOrder s event := by
  unfold applyEvent
  split
  · rfl
  · next hreverted => rw [applyPayload_of_noTie order hreverted h]

end StateEngine

namespace Pipeline

theorem applyEvent_of_noTie (order : IterationOrder) {p : Pipeline} {event : NormalizedEvent}
    (h : p.stateEngine.RanksWithoutTie event) :
    @applyEvent order p event = @applyEvent insertionOrder p event := by
  unfold applyEvent
  rw [StateEngine.applyEvent_of_noTie order h]

/-- No generated event ranks the owners of a token. -/
theorem applyDerived_order (order : IterationOrder) (p : Pipeline)
    {events : List NormalizedEvent} (h : Generated events) :
    @applyDerived order p events = @applyDerived insertionOrder p events := by
  unfold applyDerived
  induction events generalizing p with
  | nil => rw [List.foldl_nil, List.foldl_nil]
  | cons event events ih =>
      obtain ⟨hevent, hrest⟩ := List.forall_mem_cons.mp h
      rw [List.foldl_cons, List.foldl_cons,
        applyEvent_of_noTie order (p.stateEngine.ranksWithoutTie_of_isGenerated hevent), ih _ hrest]

/-! ## Handled events -/

/-- An event whose handling does not depend on the orders of the maps. -/
structure OrderFree (p : Pipeline) (event : NormalizedEvent) : Prop where
  ranks : p.stateEngine.RanksWithoutTie event
  resolves : event.info.canonicality ≠ .tentative → p.tentativeSellManager.ResolvesOne event

instance (p : Pipeline) (event : NormalizedEvent) : Decidable (p.OrderFree event) :=
  decidable_of_iff (_ ∧ (_ → p.tentativeSellManager.ResolvesOne event))
    ⟨fun h => ⟨h.1, h.2⟩, fun h => ⟨h.ranks, h.resolves⟩⟩

section handling

variable (order : IterationOrder) (settling : PendingOrder) (p : Pipeline) (ambient : Ambient)
  (event : NormalizedEvent) (tentative : Bool) (mint : PubkeyValue) (token : TokenState)

theorem sellSignals_order (features : FeatureSnapshot) (risk : RiskAssessment)
    (h : tentative = false → p.tentativeSellManager.ResolvesOne event) :
    @sellSignals settling p event tentative mint token features risk =
      @sellSignals trackingOrder p event tentative mint token features risk := by
  unfold sellSignals
  cases tentative with
  | true => rfl
  | false =>
      simp only [Bool.false_eq_true, if_false]
      rw [TentativeSellManager.reconcile_of_resolvesOne settling (h rfl)]

theorem settleSells_order (features : FeatureSnapshot) (risk : RiskAssessment)
    (h : tentative = false → p.tentativeSellManager.ResolvesOne event) :
    @settleSells order settling p ambient event tentative mint token features risk =
      @settleSells insertionOrder trackingOrder p ambient event tentative mint token features
        risk := by
  have hsettled := (@shredSignals_settleSells insertionOrder p ambient event tentative mint token
    features risk).generated
  unfold settleSells at hsettled ⊢
  simp only [sellSignals_order settling p event tentative mint token features risk h] at hsettled ⊢
  obtain ⟨hsignals, hexpiry⟩ := List.forall_mem_append.mp hsettled
  rw [applyDerived_order order _ hsignals, applyDerived_order order _ hexpiry]

theorem concludeEvent_order (features : FeatureSnapshot) (risk : RiskAssessment) :
    @concludeEvent order p ambient event tentative mint token features risk =
      @concludeEvent insertionOrder p ambient event tentative mint token features risk := by
  have hterminal : ∀ variant, p.stateEngine.RanksWithoutTie
      (riskTerminalEvent ambient mint variant risk event.info.receivedAtWallTime) :=
    fun _ => p.stateEngine.ranksWithoutTie_of_isGenerated rfl
  unfold concludeEvent
  simp only [applyEvent_of_noTie order (hterminal _)]

theorem assessEvent_order
    (h : tentative = false → p.tentativeSellManager.ResolvesOne event) :
    @assessEvent order settling p ambient event tentative mint token =
      @assessEvent insertionOrder trackingOrder p ambient event tentative mint token := by
  unfold assessEvent
  simp only [settleSells_order order settling p ambient event tentative mint token _ _ h,
    concludeEvent_order order]

/-- An event that is order-free is handled alike in every order. -/
theorem handleEvent_order (h : p.OrderFree event)
    (htentative : tentative = true ↔ event.info.canonicality = .tentative) :
    @handleEvent order settling p ambient event tentative =
      @handleEvent insertionOrder trackingOrder p ambient event tentative := by
  have hresolves : tentative = false →
      (@applyEvent insertionOrder p event).tentativeSellManager.ResolvesOne event := by
    intro hcanonical
    rw [@tentativeSellManager_applyEvent insertionOrder]
    exact h.resolves fun hkind => by simp [htentative.mpr hkind] at hcanonical
  unfold handleEvent
  simp only [applyEvent_of_noTie order h.ranks,
    assessEvent_order order settling _ ambient event tentative _ _ hresolves]

theorem finalize_order (unixNow : OffsetDateTime) :
    @finalize order p ambient unixNow = @finalize insertionOrder p ambient unixNow := by
  have hexpired : Generated (p.finalExpiry ambient unixNow).2 :=
    (TentativeSellManager.shredSignals_expire _ _ _ _).generated
  unfold finalize
  simp only [applyDerived_order order _ hexpired]

end handling

/-! ## Runs -/

/-- Every event of a run is order-free. -/
def OrderFreeRun (p : Pipeline) (inputs : List (Ambient × NormalizedEvent)) : Prop :=
  Runs.Along (fun p (input : Ambient × NormalizedEvent) =>
    (journaled.step input.1 p input.2).1) (fun p input => p.OrderFree input.2) p inputs

instance (p : Pipeline) (inputs : List (Ambient × NormalizedEvent)) :
    Decidable (p.OrderFreeRun inputs) :=
  Runs.decidableAlong _ _ _ _

/-- Another run id and other clocks leave a run order-free. -/
theorem OrderFreeRun.underRun {p : Pipeline} {inputs others : List (Ambient × NormalizedEvent)}
    (h : p.OrderFreeRun inputs) (hsame : inputs.map Prod.snd = others.map Prod.snd)
    (runId : String) : (p.underRun runId).OrderFreeRun others := by
  induction inputs generalizing p others with
  | nil =>
      rw [List.map_nil, eq_comm, List.map_eq_nil_iff] at hsame
      rw [hsame]
      trivial
  | cons input inputs ih =>
      cases others with
      | nil => simp at hsame
      | cons other others =>
          obtain ⟨hhead, htail⟩ := List.cons_eq_cons.mp hsame
          have hstep : (journaled.step other.1 (p.underRun runId) other.2).1 =
              (journaled.step input.1 p input.2).1.underRun runId := by
            rw [lawful_journaled.steady other.1 input.1, ← hhead]
            exact congrArg Prod.fst (handleEvent_underRun runId p input.1 input.2 _)
          have hfree : p.OrderFree other.2 := by
            rw [← hhead]
            exact h.1
          refine ⟨⟨hfree.ranks, hfree.resolves⟩, ?_⟩
          change Runs.Along _ _ (journaled.step other.1 (p.underRun runId) other.2).1 others
          rw [hstep]
          exact ih h.2 htail

end Pipeline

namespace Supervisor

variable (order : IterationOrder) (settling : PendingOrder) (s : Supervisor)

/-- An order-free run is the same in every order, log included. -/
theorem processAll_order {inputs : List (Ambient × NormalizedEvent)}
    (h : s.toPipeline.OrderFreeRun inputs) :
    @processAll order settling s inputs = @processAll insertionOrder trackingOrder s inputs := by
  unfold processAll
  induction inputs generalizing s with
  | nil => rw [List.foldl_nil, List.foldl_nil]
  | cons input inputs ih =>
      have hstep : @process order settling s input.1 input.2 =
          @process insertionOrder trackingOrder s input.1 input.2 := by
        unfold process
        rw [Pipeline.handleEvent_order order settling _ _ _ _ h.1 decide_eq_true_iff]
      rw [List.foldl_cons, List.foldl_cons, hstep]
      refine ih _ ?_
      unfold process
      rw [(toPipeline_persist _ _ _).1]
      exact h.2

theorem finalizeRun_order (ambient : Ambient) (unixNow : OffsetDateTime) :
    @finalizeRun order s ambient unixNow = @finalizeRun insertionOrder s ambient unixNow := by
  unfold finalizeRun
  rw [Pipeline.finalize_order order]

end Supervisor

end PumpLaunchTrader
