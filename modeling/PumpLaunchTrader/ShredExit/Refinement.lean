import PumpLaunchTrader.Engine.ShredSignals
import PumpLaunchTrader.Lib.Runs
import PumpLaunchTrader.ShredExit.Conservation
import PumpLaunchTrader.ShredExit.Reconcile

/-! # Two views of the pending sells

The manager keeps the pending tentative sells in its own map, the state keeps them with
their tokens and learns of them from the events that the manager returns. A run feeds the
events of every call into the state. -/

namespace PumpLaunchTrader

open TentativeSellManager

namespace TentativeSellManager

/-- The ids of the pending sells of the mint `mint`. -/
def pendingIdsOf (self : TentativeSellManager) (mint : PubkeyValue) : Set String :=
  { id | ∃ key pending, self.pending.lookup key = some pending ∧
    pending.intent.mint = mint ∧ pending.intent.eventId.uuid = id }

theorem mem_pendingIdsOf {self : TentativeSellManager} (hkeyed : self.KeyedById)
    (mint : PubkeyValue) (id : String) :
    id ∈ self.pendingIdsOf mint ↔
      ∃ pending, self.pending.lookup id = some pending ∧ pending.intent.mint = mint := by
  constructor
  · rintro ⟨key, pending, hlookup, hmint, rfl⟩
    rw [← hkeyed key pending hlookup] at hlookup
    exact ⟨pending, hlookup, hmint⟩
  · rintro ⟨pending, hlookup, hmint⟩
    exact ⟨id, pending, hlookup, hmint, hkeyed id pending hlookup⟩

end TentativeSellManager

/-! ## Runs -/

/-- The manager next to the state that its events are applied to. -/
structure ShredRun where
  manager : TentativeSellManager
  state : StateEngine

/-- A step of a run: a call on the manager, or an event that is none of the manager's. -/
inductive ShredStep where
  | call (c : ManagerCall)
  | other (event : NormalizedEvent) (hother : event.payload.isShredSignal = false)

namespace ShredRun

/-- The events of a call are applied in order; other events reach the state alone. -/
def step (run : ShredRun) : ShredStep → ShredRun
  | .call c =>
    { manager := (run.manager.call c).1
      state := run.state.applyEvents (run.manager.call c).2 }
  | .other event _ => { run with state := (run.state.applyEvent event).1 }

def steps (run : ShredRun) (steps : List ShredStep) : ShredRun :=
  steps.foldl step run

/-- The state holds as pending what the manager does, mint by mint. -/
def Agrees (run : ShredRun) : Prop :=
  ∀ mint, run.state.pendingSellIds mint.text = run.manager.pendingIdsOf mint

/-- The calls that both sides follow alike. A repeated sell must be announced under the id of
a pending sell of its mint, a tracked one must not take the id of a sell of another mint, and
a reverted event must resolve nothing, since the state skips what derives from it. -/
def FollowsAlike (manager : TentativeSellManager) : ManagerCall → Prop
  | .detect event token features _ position => ∀ sell, manager.TakesSell event sell →
    if (manager.duplicatePrimarySource
        (manager.intentFor event sell token features position)).isSome then
      (triggerEventId event sell).uuid ∈ manager.pendingIdsOf sell.mint
    else
      ∀ pending, manager.pending.lookup (triggerEventId event sell).uuid = some pending →
        pending.intent.mint = sell.mint
  | .reconcile event token => event.info.canonicality = .reverted →
    ∀ key pending, manager.pending.lookup key = some pending →
      event.mint = some pending.intent.mint →
      resolvesPending event token pending = false
  | .expire _ _ _ => True

def StepFollowedAlike (run : ShredRun) : ShredStep → Prop
  | .call c => FollowsAlike run.manager c
  | .other _ _ => True

/-- Every call of the run is followed alike when it is made. -/
def AllFollowedAlike (run : ShredRun) (steps : List ShredStep) : Prop :=
  Runs.Along step StepFollowedAlike run steps

/-! ## One call -/

theorem agrees_of_same {before after : ShredRun} (h : before.Agrees)
    (hstate : ∀ k, after.state.pendingSellIds k = before.state.pendingSellIds k)
    (hmanager : after.manager.pending = before.manager.pending) : after.Agrees := by
  intro mint
  rw [hstate, h mint]
  unfold pendingIdsOf
  rw [hmanager]

/-- Settling one sell and applying its resolution. -/
theorem Agrees.settle {state : StateEngine} {before next : TentativeSellManager} {key : String}
    {pending : PendingSellContext} {resolved : ShredSellIntentResolvedEvent}
    {event : NormalizedEvent} (h : Agrees ⟨before, state⟩) (hkeyed : before.KeyedById)
    (hsettles : before.Settles key pending resolved next)
    (hpayload : event.payload = .shredSellIntentResolved resolved)
    (hreverted : event.info.canonicality ≠ .reverted) :
    Agrees ⟨next, (state.applyEvent event).1⟩ := by
  have hkey : resolved.originalTentativeEventId.uuid = key := by
    rw [hsettles.eventId]
    exact hkeyed key pending hsettles.lookup
  have hnext : next.KeyedById := (hsettles.accounts hkeyed hpayload).keyedById
  intro mint
  ext id
  rw [StateEngine.pendingSellIds_resolved hpayload hreverted, h mint, hkey,
    mem_pendingIdsOf hkeyed, mem_pendingIdsOf hnext, hsettles.pending, PubkeyValue.text_inj,
    hsettles.mint]
  by_cases hid : id = key
  · subst hid
    rw [AList.lookup_erase, hsettles.lookup]
    simp [eq_comm]
  · rw [AList.lookup_erase_ne hid]
    simp [hid]

/-- Settling sells in turn and applying their resolutions. -/
theorem Agrees.settleAll {canonicality : Canonicality} {before after : TentativeSellManager}
    {events : List NormalizedEvent} {state : StateEngine} (h : Agrees ⟨before, state⟩)
    (hsettles : SettlesAll canonicality before events after)
    (hreverted : canonicality ≠ .reverted) (hkeyed : before.KeyedById) :
    Agrees ⟨after, state.applyEvents events⟩ := by
  induction hsettles generalizing state with
  | done manager => exact h
  | settle hfirst hpayload hcanonicality _ ih =>
      rw [← hcanonicality] at hreverted
      exact ih (h.settle hkeyed hfirst hpayload hreverted)
        (hfirst.accounts hkeyed hpayload).keyedById

/-- The events after the intent of a tracked sell leave the pending sells alone. -/
theorem pendingSellIds_announced (state : StateEngine) (event : NormalizedEvent)
    (warning : TentativeMaliciousSellWarningEvent) (armed : Option ShredEmergencyExitArmedEvent)
    (triggered : Option ShredEmergencyExitTriggeredEvent) (k : String) :
    (state.applyEvents ([cloneWithPayload event (.tentativeMaliciousSellWarning warning)] ++
      (armed.map fun armed => cloneWithPayload event (.shredEmergencyExitArmed armed)).toList ++
      (triggered.map fun triggered =>
        cloneWithPayload event (.shredEmergencyExitTriggered triggered)).toList)).pendingSellIds k =
      state.pendingSellIds k := by
  have hwarning : ∀ s : StateEngine,
      (s.applyEvents [cloneWithPayload event
        (.tentativeMaliciousSellWarning warning)]).pendingSellIds k = s.pendingSellIds k :=
    fun s => StateEngine.pendingSellIds_warning (cloneWithPayload_payload _ _) k
  have harmed : ∀ s : StateEngine,
      (s.applyEvents (armed.map fun armed =>
        cloneWithPayload event (.shredEmergencyExitArmed armed)).toList).pendingSellIds k =
          s.pendingSellIds k := by
    intro s
    cases armed with
    | none => rfl
    | some armed => exact StateEngine.pendingSellIds_armed (cloneWithPayload_payload _ _) k
  have htriggered : ∀ s : StateEngine,
      (s.applyEvents (triggered.map fun triggered =>
        cloneWithPayload event (.shredEmergencyExitTriggered triggered)).toList).pendingSellIds k =
          s.pendingSellIds k := by
    intro s
    cases triggered with
    | none => rfl
    | some triggered =>
        exact StateEngine.pendingSellIds_triggered (cloneWithPayload_payload _ _) k
  rw [StateEngine.applyEvents_append, StateEngine.applyEvents_append, htriggered, harmed, hwarning]

/-- The state takes the intents of tentative events. -/
theorem intent_not_reverted {event : NormalizedEvent}
    (h : event.info.canonicality = .tentative) (intent : TentativeSellIntentDetectedEvent) :
    (cloneWithPayload event (.tentativeSellIntentDetected intent)).info.canonicality ≠
      .reverted := by
  rw [cloneWithPayload_canonicality, h]
  decide

section detection

variable {state : StateEngine} {before after : TentativeSellManager} {event : NormalizedEvent}
  {intent : TentativeSellIntentDetectedEvent} {events : List NormalizedEvent}
  (h : Agrees ⟨before, state⟩) (hkeyed : before.KeyedById)
  (htentative : event.info.canonicality = .tentative)

include h hkeyed htentative

theorem Agrees.track (htracks : before.Tracks event intent after events)
    (hreuse : ∀ pending, before.pending.lookup intent.eventId.uuid = some pending →
      pending.intent.mint = intent.mint) :
    Agrees ⟨after, state.applyEvents events⟩ := by
  obtain ⟨context, hintent, -, hpending⟩ := htracks.pending
  have hnext : after.KeyedById := (htracks.accounts hkeyed).keyedById
  obtain ⟨warning, armed, triggered, -, -, -, hevents⟩ := htracks.events
  have hreverted := intent_not_reverted htentative intent
  intro mint
  ext id
  rw [hevents, List.append_assoc, List.cons_append, StateEngine.applyEvents_cons,
    ← List.append_assoc, pendingSellIds_announced,
    StateEngine.pendingSellIds_intent (cloneWithPayload_payload _ _) hreverted, h mint,
    mem_pendingIdsOf hkeyed, mem_pendingIdsOf hnext, hpending, PubkeyValue.text_inj]
  by_cases hid : id = intent.eventId.uuid
  · subst hid
    rw [AList.lookup_insert]
    constructor
    · rintro (⟨pending, hlookup, hmint⟩ | ⟨hmint, -⟩)
      · exact ⟨context, rfl, by rw [hintent, ← hreuse pending hlookup, hmint]⟩
      · exact ⟨context, rfl, by rw [hintent, hmint]⟩
    · rintro ⟨found, hfound, hmint⟩
      cases hfound
      rw [hintent] at hmint
      exact Or.inr ⟨hmint.symm, rfl⟩
  · rw [AList.lookup_insert_ne hid]
    simp [hid]

theorem Agrees.repeat (hrepeats : before.Repeats event intent after events)
    (hpending : intent.eventId.uuid ∈ before.pendingIdsOf intent.mint) :
    Agrees ⟨after, state.applyEvents events⟩ := by
  have hnext : after.KeyedById := (hrepeats.accounts hkeyed).keyedById
  have hreverted := intent_not_reverted htentative intent
  intro mint
  ext id
  have hsingle : state.applyEvents events =
      (state.applyEvent (cloneWithPayload event (.tentativeSellIntentDetected intent))).1 := by
    rw [hrepeats.events]
    rfl
  rw [hsingle, StateEngine.pendingSellIds_intent (cloneWithPayload_payload _ _) hreverted, h mint,
    mem_pendingIdsOf hkeyed, mem_pendingIdsOf hnext, hrepeats.pending, PubkeyValue.text_inj]
  constructor
  · rintro (hold | ⟨rfl, rfl⟩)
    · exact hold
    · exact (mem_pendingIdsOf hkeyed _ _).mp hpending
  · exact Or.inl

end detection

/-- A call that both sides follow alike keeps them in agreement. -/
theorem Agrees.call {run : ShredRun} (h : run.Agrees) (hkeyed : run.manager.KeyedById)
    {c : ManagerCall} (hc : FollowsAlike run.manager c) : (run.step (.call c)).Agrees := by
  obtain ⟨after, events, hcall, hcalled⟩ := run.manager.call_called c
  have hstep : run.step (.call c) = ⟨after, run.state.applyEvents events⟩ := by
    rw [step, hcall]
  rw [hstep]
  cases hcalled with
  | ignored _ => exact h
  | @tracked event token features risk position sell events after hsell hnew htracks =>
      have hfollows := hc sell hsell
      rw [hnew] at hfollows
      apply h.track hkeyed hsell.tentative htracks
      rw [run.manager.eventId_intentFor event sell token features position,
        run.manager.mint_intentFor event sell token features position]
      exact hfollows
  | @repeated event token features risk position sell events after hsell hrepeat hrepeats =>
      have hfollows := hc sell hsell
      rw [if_pos hrepeat] at hfollows
      apply h.repeat hkeyed hsell.tentative hrepeats
      rw [run.manager.eventId_intentFor event sell token features position,
        run.manager.mint_intentFor event sell token features position]
      exact hfollows
  | @reconciled event token events after hsettles =>
      by_cases hreverted : event.info.canonicality = .reverted
      · have hnone := reconcile_of_unresolved token (hc hreverted)
        rw [TentativeSellManager.call, hnone, Prod.mk.injEq] at hcall
        rw [← hcall.1, ← hcall.2]
        exact h
      · exact h.settleAll hsettles hreverted hkeyed
  | expired hsettles => exact h.settleAll hsettles (by decide) hkeyed

/-! ## Every run -/

/-- Sells are filed by id, and both sides agree. -/
structure Sound (run : ShredRun) : Prop where
  keyedById : run.manager.KeyedById
  agrees : run.Agrees

theorem sound_new (earlyIntent : EarlyIntentConfig) (shredExit : ShredExitConfig)
    (stored : Option PersistedShredExitCalibration) (ttl : TtlConfig) :
    Sound ⟨TentativeSellManager.new earlyIntent shredExit stored, StateEngine.new ttl⟩ where
  keyedById := by
    intro key pending hlookup
    cases hlookup
  agrees := by
    intro mint
    ext id
    rw [StateEngine.mem_pendingSellIds]
    constructor
    · intro hmem
      cases hmem
    · rintro ⟨key, pending, hlookup, -⟩
      cases hlookup

theorem sound_step {run : ShredRun} {step : ShredStep} (h : run.Sound)
    (hstep : run.StepFollowedAlike step) : (run.step step).Sound := by
  cases step with
  | call c => exact ⟨(call_accounts h.keyedById c).keyedById, h.agrees.call h.keyedById hstep⟩
  | other event hother =>
      refine ⟨h.keyedById, ?_⟩
      apply agrees_of_same h.agrees
      · intro k
        exact StateEngine.pendingSellIds_of_shredSignals
          (run.state.shredSignals_applyEvent_of_not_signal hother k)
      · rfl

theorem sound_steps {run : ShredRun} (h : run.Sound) {steps : List ShredStep}
    (hsteps : run.AllFollowedAlike steps) : (run.steps steps).Sound :=
  Runs.Along.invariant (fun _ _ hs hstep => sound_step hs hstep) h hsteps

/-- In every run whose calls are all followed alike, the state holds as pending exactly the
sells that the manager does, for every mint. -/
theorem pending_agrees (earlyIntent : EarlyIntentConfig) (shredExit : ShredExitConfig)
    (stored : Option PersistedShredExitCalibration) (ttl : TtlConfig) (steps : List ShredStep)
    (h : AllFollowedAlike
      ⟨TentativeSellManager.new earlyIntent shredExit stored, StateEngine.new ttl⟩ steps) :
    let after := ShredRun.steps
      ⟨TentativeSellManager.new earlyIntent shredExit stored, StateEngine.new ttl⟩ steps
    ∀ mint, after.state.pendingSellIds mint.text = after.manager.pendingIdsOf mint :=
  (sound_steps (sound_new earlyIntent shredExit stored ttl) h).agrees

/-- A sell that is tracked, confirmed by its canonical sell, and swept for. -/
def confirmedRun : List ShredStep :=
  [.call (sampleDetection "first" (some "signature") 0),
    .call (.reconcile (sampleSell "second" (some "signature") .confirmed 1) none),
    .call (.expire (fun _ => ⟨"fresh"⟩) 10000 ∅)]

theorem pending_agrees_confirmedRun :
    let after := ShredRun.steps ⟨sampleManager, StateEngine.new StateEngine.sampleTtl⟩ confirmedRun
    after.state.pendingSellIds "mint" = after.manager.pendingIdsOf ⟨"mint"⟩ := by
  refine pending_agrees _ _ _ _ confirmedRun ⟨?_, ?_, trivial, trivial⟩ ⟨"mint"⟩
  · intro sell _
    exact fun pending hlookup => by cases hlookup
  · intro hreverted
    cases hreverted

/-- One sell that arrives from two sources. -/
def twoSourcesRun : List ShredStep :=
  [.call (sampleDetection "first" (some "signature") 0),
    .call (sampleDetection "second" (some "signature") 0)]

/-- The second delivery is pending for the state only. -/
theorem pending_agrees_fails :
    ¬ ∀ (earlyIntent : EarlyIntentConfig) (shredExit : ShredExitConfig)
        (stored : Option PersistedShredExitCalibration) (ttl : TtlConfig)
        (steps : List ShredStep),
        let after := ShredRun.steps
          ⟨TentativeSellManager.new earlyIntent shredExit stored, StateEngine.new ttl⟩ steps
        ∀ mint, after.state.pendingSellIds mint.text = after.manager.pendingIdsOf mint := by
  intro h
  have hagrees : (ShredRun.steps ⟨sampleManager, StateEngine.new StateEngine.sampleTtl⟩
      twoSourcesRun).state.pendingSellIds "mint" =
        (ShredRun.steps ⟨sampleManager, StateEngine.new StateEngine.sampleTtl⟩
          twoSourcesRun).manager.pendingIdsOf ⟨"mint"⟩ :=
    h _ _ none StateEngine.sampleTtl twoSourcesRun ⟨"mint"⟩
  have hunknown : ((ShredRun.steps ⟨sampleManager, StateEngine.new StateEngine.sampleTtl⟩
      twoSourcesRun).state.shredSignals "mint").pendingTentativeSells.keys.any (fun id =>
        (ShredRun.steps ⟨sampleManager, StateEngine.new StateEngine.sampleTtl⟩
          twoSourcesRun).manager.pending.values.all fun pending =>
            pending.intent.eventId.uuid ≠ id) = true := by
    decide +kernel
  rw [List.any_eq_true] at hunknown
  obtain ⟨id, hid, hnone⟩ := hunknown
  have hmem := (StateEngine.mem_pendingSellIds _ "mint" id).mpr (AList.mem_keys.mpr hid)
  rw [hagrees] at hmem
  obtain ⟨key, pending, hlookup, -, hof⟩ := hmem
  rw [List.all_eq_true] at hnone
  have hne := hnone pending ((KeyedMap.mem_values_iff _ _).mpr ⟨key, hlookup⟩)
  exact of_decide_eq_true hne hof

end ShredRun

end PumpLaunchTrader
