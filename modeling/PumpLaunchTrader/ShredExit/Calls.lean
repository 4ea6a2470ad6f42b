import PumpLaunchTrader.Decision.Exits
import PumpLaunchTrader.Lib.Tracking
import PumpLaunchTrader.Model.ShredExit

/-! # Calls on the manager of tentative sells

A detection ignores its event, repeats a pending sell or tracks a new one. Reconciliation
and expiry settle pending sells one after the other. What each of these does to the
manager, and which events it returns, is said once here. -/

namespace PumpLaunchTrader

/-- A call on the manager with the arguments of its caller. -/
inductive ManagerCall where
  | detect (event : NormalizedEvent) (token : TokenState) (features : FeatureSnapshot)
      (risk : RiskAssessment) (position : Option OpenPositionContext)
  | reconcile (event : NormalizedEvent) (token : Option TokenState)
  | expire (freshIds : ℕ → EventId) (now : OffsetDateTime)
      (tokens : KeyedMap String TokenState)

/-- The tentative sells that were resolved, by any outcome. -/
def ShredExitMetricsSummary.resolvedTotal (metrics : ShredExitMetricsSummary) : ℕ :=
  metrics.confirmedExecutedTotal + metrics.confirmedFailedTotal +
    metrics.accountEffectConfirmedTotal + metrics.notSeenWithinTtlTotal +
    metrics.reorgedTotal + metrics.decodeMismatchTotal

@[simp] theorem cloneWithPayload_payload (event : NormalizedEvent) (payload : EventPayload) :
    (cloneWithPayload event payload).payload = payload := by
  simp only [cloneWithPayload]

@[simp] theorem cloneWithPayload_canonicality (event : NormalizedEvent)
    (payload : EventPayload) :
    (cloneWithPayload event payload).info.canonicality = event.info.canonicality := by
  simp only [cloneWithPayload]

namespace TentativeSellManager

@[simp] theorem expiryEvent_payload (freshId : EventId) (pending : PendingSellContext)
    (resolved : ShredSellIntentResolvedEvent) (now : OffsetDateTime) :
    (expiryEvent freshId pending resolved now).payload = .shredSellIntentResolved resolved := by
  simp only [expiryEvent, cloneWithPayload]

@[simp] theorem expiryEvent_canonicality (freshId : EventId) (pending : PendingSellContext)
    (resolved : ShredSellIntentResolvedEvent) (now : OffsetDateTime) :
    (expiryEvent freshId pending resolved now).info.canonicality = .processed := by
  simp only [expiryEvent, cloneWithPayload]

def call (self : TentativeSellManager) :
    ManagerCall → TentativeSellManager × List NormalizedEvent
  | .detect event token features risk position =>
    self.detectTentativeSell event token features risk position
  | .reconcile event token => self.reconcile event token
  | .expire freshIds now tokens => self.expire freshIds now tokens

/-- The manager after a sequence of calls, with the events that they return. -/
def calls (self : TentativeSellManager) :
    List ManagerCall → TentativeSellManager × List NormalizedEvent
  | [] => (self, [])
  | c :: rest =>
    (((self.call c).1.calls rest).1, (self.call c).2 ++ ((self.call c).1.calls rest).2)

/-! ## Settling -/

/-- A pending sell is settled: it leaves the map, and its resolution is counted and
observed. -/
structure Settles (before : TentativeSellManager) (key : String) (pending : PendingSellContext)
    (resolved : ShredSellIntentResolvedEvent) (after : TentativeSellManager) : Prop where
  lookup : before.pending.lookup key = some pending
  eventId : resolved.originalTentativeEventId = pending.intent.eventId
  mint : resolved.mint = pending.intent.mint
  pending : after.pending = before.pending.erase key
  tracked : after.metrics.tentativeSellTotal = before.metrics.tentativeSellTotal
  resolvedTotal : after.metrics.resolvedTotal = before.metrics.resolvedTotal + 1
  observations : after.observations.length = before.observations.length + 1
  earlyIntent : after.earlyIntent = before.earlyIntent
  shredExit : after.shredExit = before.shredExit

/-- Pending sells are settled in turn, each announced by one event of the canonicality. -/
inductive SettlesAll (canonicality : Canonicality) :
    TentativeSellManager → List NormalizedEvent → TentativeSellManager → Prop where
  | done (manager) : SettlesAll canonicality manager [] manager
  | settle {before next after key pending resolved} {event : NormalizedEvent} {events} :
      Settles before key pending resolved next →
      event.payload = .shredSellIntentResolved resolved →
      event.info.canonicality = canonicality →
      SettlesAll canonicality next events after →
      SettlesAll canonicality before (event :: events) after

/-- What is pending after a sell was settled was pending before. -/
theorem Settles.lookup_of_lookup {before after : TentativeSellManager} {key other : String}
    {pending context : PendingSellContext} {resolved : ShredSellIntentResolvedEvent}
    (h : Settles before key pending resolved after)
    (hlookup : after.pending.lookup other = some context) :
    before.pending.lookup other = some context := by
  rw [h.pending] at hlookup
  by_cases hother : other = key
  · rw [hother, AList.lookup_erase] at hlookup
    cases hlookup
  · rwa [AList.lookup_erase_ne hother] at hlookup

theorem SettlesAll.lookup_of_lookup {canonicality : Canonicality}
    {before after : TentativeSellManager} {events : List NormalizedEvent} {key : String}
    {pending : PendingSellContext} (h : SettlesAll canonicality before events after)
    (hlookup : after.pending.lookup key = some pending) :
    before.pending.lookup key = some pending := by
  induction h with
  | done manager => exact hlookup
  | settle hsettles _ _ _ ih => exact hsettles.lookup_of_lookup (ih hlookup)

theorem tentativeSellTotal_countOutcome (resolved : ShredSellIntentResolvedEvent)
    (metrics : ShredExitMetricsSummary) :
    (countOutcome resolved metrics).tentativeSellTotal = metrics.tentativeSellTotal := by
  unfold countOutcome
  cases resolved.outcome <;> rfl

/-- Every outcome has its counter. -/
theorem resolvedTotal_countOutcome (resolved : ShredSellIntentResolvedEvent)
    (metrics : ShredExitMetricsSummary) :
    (countOutcome resolved metrics).resolvedTotal = metrics.resolvedTotal + 1 := by
  unfold countOutcome ShredExitMetricsSummary.resolvedTotal
  cases resolved.outcome <;> simp only <;> omega

theorem countFalsePositive_totals (resolved : ShredSellIntentResolvedEvent)
    (metrics : ShredExitMetricsSummary) :
    (countFalsePositive resolved metrics).tentativeSellTotal = metrics.tentativeSellTotal ∧
      (countFalsePositive resolved metrics).resolvedTotal = metrics.resolvedTotal := by
  unfold countFalsePositive
  split
  · exact ⟨rfl, rfl⟩
  · exact ⟨rfl, rfl⟩

/-- Recording the resolution of a sell that was dropped from the map settles it. -/
theorem settles_recordResolution {before dropped : TentativeSellManager} {key : String}
    {pending : PendingSellContext} {resolved : ShredSellIntentResolvedEvent}
    (hlookup : before.pending.lookup key = some pending)
    (heventId : resolved.originalTentativeEventId = pending.intent.eventId)
    (hmint : resolved.mint = pending.intent.mint)
    (hpending : dropped.pending = before.pending.erase key)
    (htracked : dropped.metrics.tentativeSellTotal = before.metrics.tentativeSellTotal)
    (hresolved : dropped.metrics.resolvedTotal = before.metrics.resolvedTotal)
    (hobservations : dropped.observations = before.observations)
    (hearlyIntent : dropped.earlyIntent = before.earlyIntent)
    (hshredExit : dropped.shredExit = before.shredExit) :
    Settles before key pending resolved (dropped.recordResolution resolved pending) where
  lookup := hlookup
  eventId := heventId
  mint := hmint
  pending := hpending
  tracked := by
    have htotals := countFalsePositive_totals resolved (countOutcome resolved dropped.metrics)
    have hcount : (dropped.recordResolution resolved pending).metrics =
        countFalsePositive resolved (countOutcome resolved dropped.metrics) := rfl
    rw [hcount, htotals.1, tentativeSellTotal_countOutcome, htracked]
  resolvedTotal := by
    have htotals := countFalsePositive_totals resolved (countOutcome resolved dropped.metrics)
    have hcount : (dropped.recordResolution resolved pending).metrics =
        countFalsePositive resolved (countOutcome resolved dropped.metrics) := rfl
    rw [hcount, htotals.2, resolvedTotal_countOutcome, hresolved]
  observations := by
    have hobserved : (dropped.recordResolution resolved pending).observations =
        dropped.observations ++ [buildCalibrationObservation pending resolved] := rfl
    rw [hobserved, hobservations, List.length_append, List.length_singleton]
  earlyIntent := hearlyIntent
  shredExit := hshredExit

/-- A fold over keys each of which settles at most one sell settles them in turn. -/
theorem settlesAll_foldl {canonicality : Canonicality}
    {step : TentativeSellManager × List NormalizedEvent → String →
      TentativeSellManager × List NormalizedEvent}
    (hstep : ∀ acc key, step acc key = acc ∨
      ∃ pending resolved event next, Settles acc.1 key pending resolved next ∧
        event.payload = .shredSellIntentResolved resolved ∧
        event.info.canonicality = canonicality ∧ step acc key = (next, acc.2 ++ [event]))
    (keys : List String) (acc : TentativeSellManager × List NormalizedEvent) :
    ∃ events, (keys.foldl step acc).2 = acc.2 ++ events ∧
      SettlesAll canonicality acc.1 events (keys.foldl step acc).1 := by
  induction keys generalizing acc with
  | nil => exact ⟨[], by simp, .done acc.1⟩
  | cons key keys ih =>
      rw [List.foldl_cons]
      rcases hstep acc key with
        hsame | ⟨pending, resolved, event, next, hsettles, hpayload, hcanonicality, hnext⟩
      · rw [hsame]
        exact ih acc
      · rw [hnext]
        obtain ⟨events, hfold, hrest⟩ := ih (next, acc.2 ++ [event])
        refine ⟨event :: events, ?_, .settle hsettles hpayload hcanonicality hrest⟩
        rw [hfold, List.append_assoc, List.singleton_append]

/-- A resolution names the sell that it resolves and its mint. -/
theorem reconcilePendingAgainstEvent_names {pending : PendingSellContext}
    {event : NormalizedEvent} {token : Option TokenState}
    {resolved : ShredSellIntentResolvedEvent}
    (h : reconcilePendingAgainstEvent pending event token = some resolved) :
    resolved.originalTentativeEventId = pending.intent.eventId ∧
      resolved.mint = pending.intent.mint := by
  unfold reconcilePendingAgainstEvent at h
  split at h
  · cases h
    exact ⟨rfl, rfl⟩
  · split at h
    · split at h
      · split at h
        · cases h
          exact ⟨rfl, rfl⟩
        · cases h
          exact ⟨rfl, rfl⟩
      · cases h
    · split at h
      · cases h
        exact ⟨rfl, rfl⟩
      · cases h
    · cases h

theorem reconcileKey_of_unmatched {event : NormalizedEvent} {token : Option TokenState}
    {acc : TentativeSellManager × List NormalizedEvent} {key : String}
    (h : ∀ pending, acc.1.pending.lookup key = some pending →
      reconcilePendingAgainstEvent pending event token = none) :
    reconcileKey event token acc key = acc := by
  unfold reconcileKey
  cases hlookup : acc.1.pending.lookup key with
  | none => rfl
  | some pending => simp only [h pending hlookup]

theorem reconcileKey_of_matched {event : NormalizedEvent} {token : Option TokenState}
    {acc : TentativeSellManager × List NormalizedEvent} {key : String}
    {pending : PendingSellContext} {resolved : ShredSellIntentResolvedEvent}
    (hlookup : acc.1.pending.lookup key = some pending)
    (hresolved : reconcilePendingAgainstEvent pending event token = some resolved) :
    reconcileKey event token acc key =
      (({ acc.1 with pending := acc.1.pending.erase key }).recordResolution resolved pending,
        acc.2 ++ [cloneWithPayload event (.shredSellIntentResolved resolved)]) := by
  simp only [reconcileKey, hlookup, hresolved]

/-- An iteration of `reconcile` settles the pending sell of its key or changes nothing. -/
theorem reconcileKey_cases (event : NormalizedEvent) (token : Option TokenState)
    (acc : TentativeSellManager × List NormalizedEvent) (key : String) :
    reconcileKey event token acc key = acc ∨
      ∃ pending resolved, acc.1.pending.lookup key = some pending ∧
        reconcilePendingAgainstEvent pending event token = some resolved ∧
        reconcileKey event token acc key =
          (({ acc.1 with pending := acc.1.pending.erase key }).recordResolution resolved pending,
            acc.2 ++ [cloneWithPayload event (.shredSellIntentResolved resolved)]) := by
  cases hlookup : acc.1.pending.lookup key with
  | none =>
      left
      simp only [reconcileKey, hlookup]
  | some pending =>
      cases hresolved : reconcilePendingAgainstEvent pending event token with
      | none =>
          left
          simp only [reconcileKey, hlookup, hresolved]
      | some resolved =>
          exact Or.inr
            ⟨pending, resolved, rfl, hresolved, reconcileKey_of_matched hlookup hresolved⟩

/-- The manager without a pending sell whose time has come, the gain it missed counted. -/
def dropExpired (self : TentativeSellManager) (tokens : KeyedMap String TokenState)
    (key : String) (pending : PendingSellContext) : TentativeSellManager :=
  { self with
    pending := self.pending.erase key
    metrics := { self.metrics with
      opportunityCostQuoteTotal :=
        self.metrics.opportunityCostQuoteTotal + missedGain pending tokens } }

theorem expireKey_of_pending {freshIds : ℕ → EventId} {now : OffsetDateTime}
    {tokens : KeyedMap String TokenState} {acc : TentativeSellManager × List NormalizedEvent}
    {key : String} {pending : PendingSellContext}
    (hlookup : acc.1.pending.lookup key = some pending) :
    expireKey freshIds now tokens acc key =
      ((acc.1.dropExpired tokens key pending).recordResolution
          (notSeen pending (missedGain pending tokens) now) pending,
        acc.2 ++ [expiryEvent (freshIds acc.2.length) pending
          (notSeen pending (missedGain pending tokens) now) now]) := by
  simp only [expireKey, hlookup, dropExpired]

/-- The keys whose time has come. -/
def dueKeys (self : TentativeSellManager) (now : OffsetDateTime) : List String :=
  (self.pending.entries.filter fun e => e.2.expiresAt ≤ now).map Sigma.fst

theorem expire_eq_foldl (self : TentativeSellManager) (freshIds : ℕ → EventId)
    (now : OffsetDateTime) (tokens : KeyedMap String TokenState) :
    self.expire freshIds now tokens =
      (self.dueKeys now).foldl (expireKey freshIds now tokens) (self, []) := rfl

theorem mem_dueKeys {self : TentativeSellManager} {key : String} {now : OffsetDateTime} :
    key ∈ self.dueKeys now ↔
      ∃ pending, self.pending.lookup key = some pending ∧ pending.expiresAt ≤ now := by
  unfold dueKeys
  simp only [List.mem_map, List.mem_filter, decide_eq_true_eq]
  constructor
  · rintro ⟨⟨found, pending⟩, ⟨hmem, hdue⟩, rfl⟩
    exact ⟨pending, (KeyedMap.mem_entries_iff _ _ _).mp hmem, hdue⟩
  · rintro ⟨pending, hlookup, hdue⟩
    exact ⟨⟨key, pending⟩, ⟨(KeyedMap.mem_entries_iff _ _ _).mpr hlookup, hdue⟩, rfl⟩

theorem nodup_dueKeys (self : TentativeSellManager) (now : OffsetDateTime) :
    (self.dueKeys now).Nodup := by
  apply List.Nodup.sublist _ self.pending.nodupKeys
  exact List.Sublist.map _ List.filter_sublist

theorem dueKeys_eq_nil_iff (self : TentativeSellManager) (now : OffsetDateTime) :
    self.dueKeys now = [] ↔ ∀ pending ∈ self.pending.values, now < pending.expiresAt := by
  unfold dueKeys
  rw [List.map_eq_nil_iff, List.filter_eq_nil_iff, KeyedMap.values, List.forall_mem_map]
  simp only [decide_eq_true_eq, not_le]

theorem settlesAll_reconcile (self : TentativeSellManager) (event : NormalizedEvent)
    (token : Option TokenState) :
    SettlesAll event.info.canonicality self (self.reconcile event token).2
      (self.reconcile event token).1 := by
  unfold reconcile
  cases event.mint with
  | none => exact .done self
  | some mint =>
      have hstep : ∀ (acc : TentativeSellManager × List NormalizedEvent) (key : String),
          reconcileKey event token acc key = acc ∨
            ∃ pending resolved derived next, Settles acc.1 key pending resolved next ∧
              derived.payload = .shredSellIntentResolved resolved ∧
              derived.info.canonicality = event.info.canonicality ∧
              reconcileKey event token acc key = (next, acc.2 ++ [derived]) := by
        intro acc key
        rcases reconcileKey_cases event token acc key with
          hsame | ⟨pending, resolved, hlookup, hresolved, hnext⟩
        · exact Or.inl hsame
        · obtain ⟨heventId, hmint⟩ := reconcilePendingAgainstEvent_names hresolved
          have hsettles : Settles acc.1 key pending resolved
              (({ acc.1 with pending := acc.1.pending.erase key }).recordResolution resolved
                pending) :=
            settles_recordResolution hlookup heventId hmint rfl rfl rfl rfl rfl rfl
          exact Or.inr ⟨pending, resolved, _, _, hsettles, cloneWithPayload_payload _ _,
            cloneWithPayload_canonicality _ _, hnext⟩
      obtain ⟨events, hevents, hall⟩ := settlesAll_foldl hstep
        (((PendingOrder.arrange self.pending).filter fun e =>
          e.2.intent.mint = mint).map Sigma.fst) (self, [])
      rw [List.nil_append] at hevents
      simp only [hevents]
      exact hall

theorem settlesAll_expire (self : TentativeSellManager) (freshIds : ℕ → EventId)
    (now : OffsetDateTime) (tokens : KeyedMap String TokenState) :
    SettlesAll .processed self (self.expire freshIds now tokens).2
      (self.expire freshIds now tokens).1 := by
  have hstep : ∀ (acc : TentativeSellManager × List NormalizedEvent) (key : String),
      expireKey freshIds now tokens acc key = acc ∨
        ∃ pending resolved derived next, Settles acc.1 key pending resolved next ∧
          derived.payload = .shredSellIntentResolved resolved ∧
          derived.info.canonicality = .processed ∧
          expireKey freshIds now tokens acc key = (next, acc.2 ++ [derived]) := by
    intro acc key
    cases hlookup : acc.1.pending.lookup key with
    | none =>
        left
        simp only [expireKey, hlookup]
    | some pending =>
        have hsettles : Settles acc.1 key pending (notSeen pending (missedGain pending tokens) now)
            ((acc.1.dropExpired tokens key pending).recordResolution
              (notSeen pending (missedGain pending tokens) now) pending) :=
          settles_recordResolution hlookup rfl rfl rfl rfl rfl rfl rfl rfl
        exact Or.inr ⟨pending, _, _, _, hsettles, expiryEvent_payload _ _ _ _,
          expiryEvent_canonicality _ _ _ _, expireKey_of_pending hlookup⟩
  obtain ⟨events, hevents, hall⟩ := settlesAll_foldl hstep (self.dueKeys now) (self, [])
  rw [List.nil_append] at hevents
  rw [expire_eq_foldl, hevents]
  exact hall

/-! ## Detecting -/

/-- The intent that detection builds from a sell. -/
def intentFor (self : TentativeSellManager) (event : NormalizedEvent) (payload : PumpSellEvent)
    (token : TokenState) (features : FeatureSnapshot) (position : Option OpenPositionContext) :
    TentativeSellIntentDetectedEvent :=
  intentOf (self.assessSell event payload token features position) event payload token

theorem eventId_intentFor (self : TentativeSellManager) (event : NormalizedEvent)
    (payload : PumpSellEvent) (token : TokenState) (features : FeatureSnapshot)
    (position : Option OpenPositionContext) :
    (self.intentFor event payload token features position).eventId =
      triggerEventId event payload := by
  simp only [intentFor, intentOf]

theorem mint_intentFor (self : TentativeSellManager) (event : NormalizedEvent)
    (payload : PumpSellEvent) (token : TokenState) (features : FeatureSnapshot)
    (position : Option OpenPositionContext) :
    (self.intentFor event payload token features position).mint = payload.mint := by
  simp only [intentFor, intentOf]

theorem receivedAt_intentFor (self : TentativeSellManager) (event : NormalizedEvent)
    (payload : PumpSellEvent) (token : TokenState) (features : FeatureSnapshot)
    (position : Option OpenPositionContext) :
    (self.intentFor event payload token features position).receivedAtWallTime =
      event.info.receivedAtWallTime := by
  simp only [intentFor, intentOf]

/-- A sell that detection does not ignore. -/
structure TakesSell (manager : TentativeSellManager) (event : NormalizedEvent)
    (sell : PumpSellEvent) : Prop where
  payload : event.payload = .pumpSell sell
  tentative : event.info.canonicality = .tentative
  enabled : manager.earlyIntent.enabled = true

/-- A sell is tracked until it is settled, and the events that announce it are returned. -/
structure Tracks (before : TentativeSellManager) (event : NormalizedEvent)
    (intent : TentativeSellIntentDetectedEvent) (after : TentativeSellManager)
    (events : List NormalizedEvent) : Prop where
  pending : ∃ context : PendingSellContext, context.intent = intent ∧
    context.expiresAt = event.info.receivedAtWallTime + before.reconciliationTtl ∧
    after.pending = before.pending.insert intent.eventId.uuid context
  tracked : after.metrics.tentativeSellTotal = before.metrics.tentativeSellTotal + 1
  resolvedTotal : after.metrics.resolvedTotal = before.metrics.resolvedTotal
  observations : after.observations = before.observations
  earlyIntent : after.earlyIntent = before.earlyIntent
  shredExit : after.shredExit = before.shredExit
  events : ∃ (warning : TentativeMaliciousSellWarningEvent)
    (armed : Option ShredEmergencyExitArmedEvent)
    (triggered : Option ShredEmergencyExitTriggeredEvent),
    warning.triggerEventId = intent.eventId ∧ warning.mint = intent.mint ∧
    (∀ payload ∈ triggered, payload.mint = intent.mint) ∧
    events = [cloneWithPayload event (.tentativeSellIntentDetected intent),
        cloneWithPayload event (.tentativeMaliciousSellWarning warning)] ++
      (armed.map fun armed => cloneWithPayload event (.shredEmergencyExitArmed armed)).toList ++
      (triggered.map fun triggered =>
        cloneWithPayload event (.shredEmergencyExitTriggered triggered)).toList

/-- What is pending after a sell was tracked is that sell or was pending before. -/
theorem Tracks.lookup_cases {before after : TentativeSellManager} {event : NormalizedEvent}
    {intent : TentativeSellIntentDetectedEvent} {events : List NormalizedEvent} {key : String}
    {pending : PendingSellContext} (h : Tracks before event intent after events)
    (hlookup : after.pending.lookup key = some pending) :
    (key = intent.eventId.uuid ∧ pending.intent = intent ∧
        pending.expiresAt = event.info.receivedAtWallTime + before.reconciliationTtl) ∨
      before.pending.lookup key = some pending := by
  obtain ⟨context, hintent, hexpires, hpending⟩ := h.pending
  rw [hpending] at hlookup
  by_cases hkey : key = intent.eventId.uuid
  · rw [hkey, AList.lookup_insert, Option.some.injEq] at hlookup
    subst hlookup
    exact Or.inl ⟨hkey, hintent, hexpires⟩
  · rw [AList.lookup_insert_ne hkey] at hlookup
    exact Or.inr hlookup

/-- A sell that repeats a pending one is counted for its source only, and announced without
a warning. -/
structure Repeats (before : TentativeSellManager) (event : NormalizedEvent)
    (intent : TentativeSellIntentDetectedEvent) (after : TentativeSellManager)
    (events : List NormalizedEvent) : Prop where
  pending : after.pending = before.pending
  metrics : after.metrics = before.metrics
  observations : after.observations = before.observations
  earlyIntent : after.earlyIntent = before.earlyIntent
  shredExit : after.shredExit = before.shredExit
  events : events = [cloneWithPayload event (.tentativeSellIntentDetected intent)]

theorem detect_of_not_takesSell {self : TentativeSellManager} {event : NormalizedEvent}
    (h : ∀ payload, ¬ self.TakesSell event payload) (token : TokenState)
    (features : FeatureSnapshot) (risk : RiskAssessment)
    (position : Option OpenPositionContext) :
    self.detectTentativeSell event token features risk position = (self, []) := by
  unfold detectTentativeSell
  split
  · next payload hpayload =>
      by_cases hskip : event.info.canonicality ≠ .tentative ∨ ¬ self.earlyIntent.enabled = true
      · rw [if_pos hskip]
      · rw [not_or, not_not, not_not] at hskip
        exact absurd ⟨hpayload, hskip.1, hskip.2⟩ (h payload)
  · rfl

theorem mint_triggeredOf (self : TentativeSellManager) (assessment : SellAssessment)
    (event : NormalizedEvent) (payload : PumpSellEvent) (token : TokenState)
    (position : Option OpenPositionContext) :
    ∀ triggered ∈ self.triggeredOf assessment event payload token position,
      triggered.mint = payload.mint := by
  intro triggered htriggered
  rw [triggeredOf, Option.mem_def, Option.map_eq_some_iff] at htriggered
  obtain ⟨context, -, rfl⟩ := htriggered
  rfl

theorem tracks_trackSell (self : TentativeSellManager) (assessment : SellAssessment)
    (event : NormalizedEvent) (payload : PumpSellEvent) (token : TokenState)
    (features : FeatureSnapshot) (risk : RiskAssessment)
    (position : Option OpenPositionContext) :
    self.Tracks event (intentOf assessment event payload token)
      (self.trackSell assessment event payload token features risk position).1
      (self.trackSell assessment event payload token features risk position).2 := by
  unfold trackSell
  exact
    { pending := by
        refine ⟨_, ?_, ?_, rfl⟩
        · rfl
        · rfl
      tracked := rfl
      resolvedTotal := rfl
      observations := rfl
      earlyIntent := rfl
      shredExit := rfl
      events := ⟨warningOf assessment event payload features risk,
        self.armedOf assessment event payload position,
        self.triggeredOf assessment event payload token position,
        by simp only [warningOf, intentOf], by simp only [warningOf, intentOf],
        self.mint_triggeredOf assessment event payload token position, rfl⟩ }

/-- Counting a sell for its source before it is tracked changes nothing else. -/
theorem Tracks.of_counted {manager after : TentativeSellManager} {source : EarlyIntentSource}
    {f : ShredExitMetricsSummary → ShredExitMetricsSummary} {event : NormalizedEvent}
    {intent : TentativeSellIntentDetectedEvent} {events : List NormalizedEvent}
    (h : (manager.countSource source f).Tracks event intent after events) :
    manager.Tracks event intent after events where
  pending := h.pending
  tracked := h.tracked
  resolvedTotal := h.resolvedTotal
  observations := h.observations
  earlyIntent := h.earlyIntent
  shredExit := h.shredExit
  events := h.events

section detection

variable {self : TentativeSellManager} {event : NormalizedEvent} {payload : PumpSellEvent}
  (h : self.TakesSell event payload) (token : TokenState) (features : FeatureSnapshot)
  (risk : RiskAssessment) (position : Option OpenPositionContext)

include h

theorem detect_repeats
    (hrepeat : (self.duplicatePrimarySource
      (self.intentFor event payload token features position)).isSome = true) :
    self.Repeats event (self.intentFor event payload token features position)
      (self.detectTentativeSell event token features risk position).1
      (self.detectTentativeSell event token features risk position).2 := by
  obtain ⟨primary, hprimary⟩ := Option.isSome_iff_exists.mp hrepeat
  have hnot : ¬ (event.info.canonicality ≠ .tentative ∨ ¬ self.earlyIntent.enabled = true) := by
    simp [h.tentative, h.enabled]
  unfold intentFor at hprimary ⊢
  unfold detectTentativeSell
  simp only [h.payload, if_neg hnot, hprimary]
  constructor <;> rfl

theorem detect_tracks
    (hnew : self.duplicatePrimarySource
      (self.intentFor event payload token features position) = none) :
    self.Tracks event (self.intentFor event payload token features position)
      (self.detectTentativeSell event token features risk position).1
      (self.detectTentativeSell event token features risk position).2 := by
  have hnot : ¬ (event.info.canonicality ≠ .tentative ∨ ¬ self.earlyIntent.enabled = true) := by
    simp [h.tentative, h.enabled]
  unfold intentFor at hnew ⊢
  unfold detectTentativeSell
  simp only [h.payload, if_neg hnot, hnew]
  exact (tracks_trackSell _ _ _ _ _ _ _ _).of_counted

end detection

/-! ## Calling -/

/-- What a call does: a detection ignores its event, tracks a sell or repeats a pending one,
the other calls settle pending sells. -/
inductive Called (before : TentativeSellManager) :
    ManagerCall → List NormalizedEvent → TentativeSellManager → Prop where
  | ignored {event token features risk position} :
      (∀ sell, ¬ before.TakesSell event sell) →
      Called before (.detect event token features risk position) [] before
  | tracked {event token features risk position sell events after} :
      before.TakesSell event sell →
      before.duplicatePrimarySource
        (before.intentFor event sell token features position) = none →
      before.Tracks event (before.intentFor event sell token features position) after events →
      Called before (.detect event token features risk position) events after
  | repeated {event token features risk position sell events after} :
      before.TakesSell event sell →
      (before.duplicatePrimarySource
        (before.intentFor event sell token features position)).isSome = true →
      before.Repeats event (before.intentFor event sell token features position) after events →
      Called before (.detect event token features risk position) events after
  | reconciled {event token events after} :
      SettlesAll event.info.canonicality before events after →
      Called before (.reconcile event token) events after
  | expired {freshIds now tokens events after} :
      SettlesAll .processed before events after →
      Called before (.expire freshIds now tokens) events after

theorem call_called (self : TentativeSellManager) (c : ManagerCall) :
    ∃ after events, self.call c = (after, events) ∧ self.Called c events after := by
  refine ⟨(self.call c).1, (self.call c).2, rfl, ?_⟩
  cases c with
  | detect event token features risk position =>
      by_cases htakes : ∃ sell, self.TakesSell event sell
      · obtain ⟨sell, hsell⟩ := htakes
        cases hdup : self.duplicatePrimarySource
            (self.intentFor event sell token features position) with
        | none => exact .tracked hsell hdup (detect_tracks hsell token features risk position hdup)
        | some primary =>
            have hrepeat := Option.isSome_of_eq_some hdup
            exact .repeated hsell hrepeat
              (detect_repeats hsell token features risk position hrepeat)
      · have hnot := fun sell hsell => htakes ⟨sell, hsell⟩
        have hnone := detect_of_not_takesSell hnot token features risk position
        rw [call, hnone]
        exact .ignored hnot
  | reconcile event token => exact .reconciled (self.settlesAll_reconcile event token)
  | expire freshIds now tokens => exact .expired (self.settlesAll_expire freshIds now tokens)

/-! ## Concrete inputs -/

/-- A manager that deduplicates its sources. -/
def sampleManager : TentativeSellManager :=
  new { dedupAmountTolerancePct := 5 } { tentativeReconciliationTtlMs := 5000 } none

end TentativeSellManager

/-- A sell of ten tokens by the wallet `seller`. -/
def sampleSell (eventId : String) (signature : Option String) (canonicality : Canonicality)
    (receivedAt : OffsetDateTime) : NormalizedEvent :=
  { info :=
      { eventId := ⟨eventId⟩
        source := if canonicality = .tentative then .deshredTentative else .geyserConfirmed
        canonicality := canonicality
        slot := 7
        receivedAtWallTime := receivedAt
        signature := signature }
    payload := .pumpSell
      { mint := ⟨"mint"⟩
        seller := ⟨"seller"⟩
        quoteOut := 1
        tokenIn := 10
        effectivePrice := 1 } }

/-- The detection of a sample sell on a new token without a position. -/
def sampleDetection (eventId : String) (signature : Option String)
    (receivedAt : OffsetDateTime) : ManagerCall :=
  .detect (sampleSell eventId signature .tentative receivedAt)
    (TokenState.new ⟨"mint"⟩ .deshredTentative)
    (DecisionEngine.qualityFeatures ⟨"mint"⟩ 1) (DecisionEngine.calmRisk "mint") none

end PumpLaunchTrader
