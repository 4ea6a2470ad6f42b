import PumpLaunchTrader.ShredExit.Conservation
import PumpLaunchTrader.Supervisor.HardBlocks
import PumpLaunchTrader.Supervisor.Log

/-! # Pending sells at the end of a run

A pending sell expires one reconciliation time after it was received. The end of a run lets
sells expire up to one reconciliation time after the last recorded price, so that a sell
received after that price stays pending. -/

namespace PumpLaunchTrader

namespace TentativeSellManager

/-! ## Deadlines -/

/-- Every pending sell expires one reconciliation time after it was received. -/
def DeadlinesFromReceipt (self : TentativeSellManager) : Prop :=
  ∀ key pending, self.pending.lookup key = some pending →
    pending.expiresAt = pending.intent.receivedAtWallTime + self.reconciliationTtl

theorem reconciliationTtl_of_shredExit {before after : TentativeSellManager}
    (h : after.shredExit = before.shredExit) :
    after.reconciliationTtl = before.reconciliationTtl := by
  unfold reconciliationTtl
  rw [h]

theorem SettlesAll.shredExit {canonicality : Canonicality} {before after : TentativeSellManager}
    {events : List NormalizedEvent} (h : SettlesAll canonicality before events after) :
    after.shredExit = before.shredExit := by
  induction h with
  | done manager => rfl
  | settle hsettles _ _ _ ih => exact ih.trans hsettles.shredExit

theorem SettlesAll.deadlines {canonicality : Canonicality} {before after : TentativeSellManager}
    {events : List NormalizedEvent} (h : SettlesAll canonicality before events after)
    (hbefore : before.DeadlinesFromReceipt) : after.DeadlinesFromReceipt := by
  intro key pending hlookup
  rw [reconciliationTtl_of_shredExit h.shredExit]
  exact hbefore key pending (h.lookup_of_lookup hlookup)

theorem Tracks.deadlines {before after : TentativeSellManager} {event : NormalizedEvent}
    {intent : TentativeSellIntentDetectedEvent} {events : List NormalizedEvent}
    (h : before.Tracks event intent after events)
    (hreceived : intent.receivedAtWallTime = event.info.receivedAtWallTime)
    (hbefore : before.DeadlinesFromReceipt) : after.DeadlinesFromReceipt := by
  intro key pending hlookup
  rw [reconciliationTtl_of_shredExit h.shredExit]
  rcases h.lookup_cases hlookup with ⟨-, hintent, hexpires⟩ | hold
  · rw [hexpires, hintent, hreceived]
  · exact hbefore key pending hold

/-- No call changes the configuration. -/
theorem shredExit_call (self : TentativeSellManager) (c : ManagerCall) :
    (self.call c).1.shredExit = self.shredExit := by
  obtain ⟨after, events, hcall, hcalled⟩ := self.call_called c
  rw [hcall]
  cases hcalled with
  | ignored _ => rfl
  | tracked _ _ htracks => exact htracks.shredExit
  | repeated _ _ hrepeats => exact hrepeats.shredExit
  | reconciled hsettles => exact hsettles.shredExit
  | expired hsettles => exact hsettles.shredExit

theorem deadlines_call {self : TentativeSellManager} (h : self.DeadlinesFromReceipt)
    (c : ManagerCall) : (self.call c).1.DeadlinesFromReceipt := by
  obtain ⟨after, events, hcall, hcalled⟩ := self.call_called c
  rw [hcall]
  cases hcalled with
  | ignored _ => exact h
  | tracked _ _ htracks => exact htracks.deadlines (self.receivedAt_intentFor _ _ _ _ _) h
  | repeated _ _ hrepeats =>
      intro key pending hlookup
      rw [hrepeats.pending] at hlookup
      rw [reconciliationTtl_of_shredExit hrepeats.shredExit]
      exact h key pending hlookup
  | reconciled hsettles => exact hsettles.deadlines h
  | expired hsettles => exact hsettles.deadlines h

/-! ## Expiry -/

theorem pending_expireKey (freshIds : ℕ → EventId) (now : OffsetDateTime)
    (tokens : KeyedMap String TokenState) (acc : TentativeSellManager × List NormalizedEvent)
    (key : String) :
    (expireKey freshIds now tokens acc key).1.pending =
      KeyedMap.eraseIf (fun _ => true) acc.1.pending key := by
  unfold KeyedMap.eraseIf
  cases hlookup : acc.1.pending.lookup key with
  | none => simp only [expireKey, hlookup]
  | some pending =>
      rw [expireKey_of_pending hlookup]
      rfl

theorem pending_foldl_expireKey (freshIds : ℕ → EventId) (now : OffsetDateTime)
    (tokens : KeyedMap String TokenState) (keys : List String)
    (acc : TentativeSellManager × List NormalizedEvent) :
    (keys.foldl (expireKey freshIds now tokens) acc).1.pending =
      keys.foldl (KeyedMap.eraseIf fun _ => true) acc.1.pending := by
  induction keys generalizing acc with
  | nil => rfl
  | cons key keys ih => rw [List.foldl_cons, List.foldl_cons, ih, pending_expireKey]

/-- After an expiry, nothing is pending exactly when the time of every pending sell had
come. -/
theorem pending_expire_eq_empty_iff (self : TentativeSellManager) (freshIds : ℕ → EventId)
    (now : OffsetDateTime) (tokens : KeyedMap String TokenState) :
    (self.expire freshIds now tokens).1.pending = ∅ ↔
      ∀ pending ∈ self.pending.values, pending.expiresAt ≤ now := by
  rw [expire_eq_foldl, pending_foldl_expireKey]
  constructor
  · intro hempty pending hmem
    obtain ⟨key, hlookup⟩ := (KeyedMap.mem_values_iff _ _).mp hmem
    have hkept := KeyedMap.lookup_foldl_eraseIf (fun _ => true) (self.dueKeys now) self.pending key
    rw [hempty, hlookup] at hkept
    by_cases hdue : key ∈ self.dueKeys now
    · obtain ⟨found, hfound, hcome⟩ := mem_dueKeys.mp hdue
      rw [hlookup, Option.some.injEq] at hfound
      rwa [hfound]
    · rw [if_neg hdue] at hkept
      cases hkept
  · intro hdue
    apply KeyedMap.eq_empty_of_lookup
    intro key
    rw [KeyedMap.lookup_foldl_eraseIf]
    cases hlookup : self.pending.lookup key with
    | none => simp
    | some pending =>
        have hcome := hdue pending ((KeyedMap.mem_values_iff _ _).mpr ⟨key, hlookup⟩)
        rw [if_pos (mem_dueKeys.mpr ⟨pending, hlookup, hcome⟩)]
        rfl

end TentativeSellManager

/-! ## Runs -/

namespace Pipeline

/-- The manager keeps the configured time and the deadlines that follow from it. -/
structure KeepsDeadlines (p : Pipeline) : Prop where
  shredExit : p.tentativeSellManager.shredExit = p.resolved.shredExit
  deadlines : p.tentativeSellManager.DeadlinesFromReceipt

theorem keepsDeadlines_applyEvent {p : Pipeline} (h : p.KeepsDeadlines)
    (event : NormalizedEvent) : (p.applyEvent event).KeepsDeadlines := by
  unfold applyEvent
  split
  · exact ⟨h.shredExit, h.deadlines⟩
  · exact ⟨h.shredExit, h.deadlines⟩

theorem Steps.keepsDeadlines {p q : Pipeline} {events : List NormalizedEvent}
    (h : Steps p events q) (hp : p.KeepsDeadlines) : q.KeepsDeadlines := by
  refine h.invariant ?_ ?_ ?_ hp
  · exact fun r event hr => keepsDeadlines_applyEvent hr event
  · exact fun r c hr => ⟨(r.tentativeSellManager.shredExit_call c).trans hr.shredExit,
      TentativeSellManager.deadlines_call hr.deadlines c⟩
  · exact fun r event tentative mint token features risk hr => ⟨hr.shredExit, hr.deadlines⟩

theorem tentativeSellManager_applyDerived (p : Pipeline) (events : List NormalizedEvent) :
    (p.applyDerived events).tentativeSellManager = p.tentativeSellManager := by
  unfold applyDerived
  induction events generalizing p with
  | nil => rfl
  | cons event events ih => rw [List.foldl_cons, ih, tentativeSellManager_applyEvent]

/-- The last sweep leaves nothing pending exactly when every pending sell was received by
the time of the last price. -/
theorem finalize_pending_eq_empty_iff {p : Pipeline} (h : p.KeepsDeadlines) (ambient : Ambient)
    (unixNow : OffsetDateTime) :
    (p.finalize ambient unixNow).1.tentativeSellManager.pending = ∅ ↔
      ∀ pending ∈ p.tentativeSellManager.pending.values,
        pending.intent.receivedAtWallTime ≤ p.latestObserved unixNow := by
  have hexpired : (p.finalize ambient unixNow).1.tentativeSellManager =
      (p.finalExpiry ambient unixNow).1 := tentativeSellManager_applyDerived _ _
  rw [hexpired, finalExpiry, TentativeSellManager.pending_expire_eq_empty_iff]
  have hdeadline : ∀ pending ∈ p.tentativeSellManager.pending.values,
      (pending.expiresAt ≤ p.expireAt unixNow ↔
        pending.intent.receivedAtWallTime ≤ p.latestObserved unixNow) := by
    intro pending hmem
    obtain ⟨key, hlookup⟩ := (KeyedMap.mem_values_iff _ _).mp hmem
    rw [h.deadlines key pending hlookup]
    unfold TentativeSellManager.reconciliationTtl expireAt
    rw [h.shredExit]
    exact Int.add_le_add_iff_right _
  exact forall₂_congr hdeadline

end Pipeline

namespace Supervisor

theorem keepsDeadlines_new (config : RuntimeResolvedConfig) (storage : StorageEngine) :
    (Supervisor.new config storage).toPipeline.KeepsDeadlines where
  shredExit := rfl
  deadlines := by
    intro key pending hlookup
    cases hlookup

/-- Whatever a fresh supervisor handles, the end of its run leaves no tentative sell pending
exactly when every sell pending before it was received by the time of the last recorded
price, or of the clock while no price is recorded. -/
theorem finalizeRun_pending_eq_empty_iff (config : RuntimeResolvedConfig)
    (storage : StorageEngine) (inputs : List (Ambient × NormalizedEvent)) (ambient : Ambient)
    (unixNow : OffsetDateTime) :
    let before := (Supervisor.new config storage).processAll inputs
    (before.finalizeRun ambient unixNow).tentativeSellManager.pending = ∅ ↔
      ∀ pending ∈ before.tentativeSellManager.pending.values,
        pending.intent.receivedAtWallTime ≤ before.latestObserved unixNow := by
  have hkeeps : ((Supervisor.new config storage).processAll inputs).toPipeline.KeepsDeadlines := by
    rw [toPipeline_processAll]
    exact (Pipeline.steps_run _ inputs).keepsDeadlines (keepsDeadlines_new config storage)
  have hfinal := Pipeline.finalize_pending_eq_empty_iff hkeeps ambient unixNow
  rw [← toPipeline_finalizeRun] at hfinal
  exact hfinal

/-- Pending sells wait five seconds. -/
def patientConfig : RuntimeResolvedConfig :=
  { sampleConfig with
    shredExit := { tentativeReconciliationTtlMs := 5000 } }

/-- A recorded sell, and ten milliseconds later a tentative one. -/
def lateTentativeSell : List (Ambient × NormalizedEvent) :=
  [(sampleAmbient, sampleSell "recorded" (some "first") .confirmed 0),
    (sampleAmbient, sampleSell "tentative" (some "second") .tentative (Duration.milliseconds 10))]

/-- The tentative sell is still pending when the run has ended. -/
theorem finalizeRun_leaves_pending :
    ¬ ∀ (config : RuntimeResolvedConfig) (storage : StorageEngine)
        (inputs : List (Ambient × NormalizedEvent)) (ambient : Ambient)
        (unixNow : OffsetDateTime), config.earlyIntent.enabled = true →
        (((Supervisor.new config storage).processAll inputs).finalizeRun ambient
          unixNow).tentativeSellManager.pending = ∅ := by
  intro h
  have hempty := h patientConfig {} lateTentativeSell sampleAmbient (Duration.milliseconds 20)
    (by decide)
  have hpending : (((Supervisor.new patientConfig {}).processAll lateTentativeSell).finalizeRun
      sampleAmbient (Duration.milliseconds 20)).tentativeSellManager.pending.entries.isEmpty =
        false := by
    decide +kernel
  rw [hempty] at hpending
  cases hpending

end Supervisor

end PumpLaunchTrader
