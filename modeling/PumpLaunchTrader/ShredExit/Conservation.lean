import PumpLaunchTrader.ShredExit.Calls

/-! # Every tracked sell is resolved once

The events that the manager returns are a tracking log of its pending sells: a warning
opens the sell that it announces, a resolution closes the sell that it names. The counters
and the observations follow the log, so that the laws of tracking logs carry over. -/

namespace PumpLaunchTrader

open Tracking

/-- What an event says about the pending sells. -/
def NormalizedEvent.trackingEntry (event : NormalizedEvent) : Option (Entry String) :=
  match event.payload with
  | .tentativeMaliciousSellWarning warning => some (.opened warning.triggerEventId.uuid)
  | .shredSellIntentResolved resolved => some (.closed resolved.originalTentativeEventId.uuid)
  | _ => none

/-- The resolution events of a sequence. -/
def resolutions (events : List NormalizedEvent) : List ShredSellIntentResolvedEvent :=
  events.filterMap fun event =>
    match event.payload with
    | .shredSellIntentResolved resolved => some resolved
    | _ => none

def trackingLog (events : List NormalizedEvent) : List (Entry String) :=
  events.filterMap NormalizedEvent.trackingEntry

theorem trackingLog_append (events more : List NormalizedEvent) :
    trackingLog (events ++ more) = trackingLog events ++ trackingLog more :=
  List.filterMap_append

theorem closings_trackingLog (events : List NormalizedEvent) :
    closings (trackingLog events) = (resolutions events).length := by
  induction events with
  | nil => rfl
  | cons event events ih =>
      unfold trackingLog resolutions at ih ⊢
      rw [List.filterMap_cons, List.filterMap_cons]
      cases hpayload : event.payload with
      | shredSellIntentResolved resolved =>
          simp only [NormalizedEvent.trackingEntry, hpayload, closings, ih, List.length_cons]
      | tentativeMaliciousSellWarning warning =>
          simp only [NormalizedEvent.trackingEntry, hpayload, closings, ih]
      | tokenCreated p | pumpBuy p | pumpSell p | bondingCurveUpdate p | holderBalanceUpdate p
      | walletFunding p | observedTransaction p | tokenTerminal p | tradeDecision p
      | simulatedFill p | liveFill p | dataGap p | tentativeSellIntentDetected p
      | shredEmergencyExitArmed p | shredEmergencyExitTriggered p =>
          simp only [NormalizedEvent.trackingEntry, hpayload, ih]

namespace TentativeSellManager

/-! ## Pending sells by id -/

/-- Pending sells are filed under their ids. -/
def KeyedById (self : TentativeSellManager) : Prop :=
  ∀ key pending, self.pending.lookup key = some pending → pending.intent.eventId.uuid = key

def pendingIds (self : TentativeSellManager) : Finset String :=
  self.pending.keys.toFinset

theorem mem_pendingIds (self : TentativeSellManager) (id : String) :
    id ∈ self.pendingIds ↔ id ∈ self.pending := by
  rw [pendingIds, List.mem_toFinset, AList.mem_keys]

theorem card_pendingIds (self : TentativeSellManager) :
    self.pendingIds.card = self.pending.entries.length := by
  rw [pendingIds, List.toFinset_card_of_nodup self.pending.keys_nodup, AList.keys,
    List.keys, List.length_map]

theorem pendingIds_of_insert {before after : TentativeSellManager} {id : String}
    {context : PendingSellContext} (h : after.pending = before.pending.insert id context) :
    after.pendingIds = insert id before.pendingIds := by
  ext other
  rw [mem_pendingIds, h, AList.mem_insert, Finset.mem_insert, mem_pendingIds]

theorem pendingIds_of_erase {before after : TentativeSellManager} {id : String}
    (h : after.pending = before.pending.erase id) :
    after.pendingIds = before.pendingIds.erase id := by
  ext other
  rw [mem_pendingIds, h, AList.mem_erase, Finset.mem_erase, mem_pendingIds]

/-! ## Accounts -/

/-- The events between two states of the manager account for its pending sells, its
counters and its observations. -/
structure Accounts (before : TentativeSellManager) (events : List NormalizedEvent)
    (after : TentativeSellManager) : Prop where
  sound : Sound before.pendingIds (trackingLog events)
  pendingIds : after.pendingIds = replay before.pendingIds (trackingLog events)
  tracked : after.metrics.tentativeSellTotal =
    before.metrics.tentativeSellTotal + openings (trackingLog events)
  resolvedTotal : after.metrics.resolvedTotal =
    before.metrics.resolvedTotal + closings (trackingLog events)
  observations : after.observations.length =
    before.observations.length + closings (trackingLog events)
  earlyIntent : after.earlyIntent = before.earlyIntent
  shredExit : after.shredExit = before.shredExit
  keyedById : after.KeyedById

theorem Accounts.refl {manager : TentativeSellManager} (h : manager.KeyedById) :
    manager.Accounts [] manager where
  sound := trivial
  pendingIds := rfl
  tracked := rfl
  resolvedTotal := rfl
  observations := rfl
  earlyIntent := rfl
  shredExit := rfl
  keyedById := h

theorem Accounts.trans {before middle after : TentativeSellManager}
    {events more : List NormalizedEvent} (h : before.Accounts events middle)
    (hmore : middle.Accounts more after) : before.Accounts (events ++ more) after where
  sound := by
    rw [trackingLog_append, sound_append, ← h.pendingIds]
    exact ⟨h.sound, hmore.sound⟩
  pendingIds := by
    rw [trackingLog_append, replay_append, ← h.pendingIds]
    exact hmore.pendingIds
  tracked := by
    rw [trackingLog_append, openings_append, hmore.tracked, h.tracked, Nat.add_assoc]
  resolvedTotal := by
    rw [trackingLog_append, closings_append, hmore.resolvedTotal, h.resolvedTotal, Nat.add_assoc]
  observations := by
    rw [trackingLog_append, closings_append, hmore.observations, h.observations, Nat.add_assoc]
  earlyIntent := hmore.earlyIntent.trans h.earlyIntent
  shredExit := hmore.shredExit.trans h.shredExit
  keyedById := hmore.keyedById

theorem trackingLog_resolved {event : NormalizedEvent} {resolved : ShredSellIntentResolvedEvent}
    (h : event.payload = .shredSellIntentResolved resolved) :
    trackingLog [event] = [.closed resolved.originalTentativeEventId.uuid] := by
  simp only [trackingLog, List.filterMap_cons, List.filterMap_nil, NormalizedEvent.trackingEntry, h]

theorem Settles.accounts {before after : TentativeSellManager} {key : String}
    {pending : PendingSellContext} {resolved : ShredSellIntentResolvedEvent}
    (h : before.Settles key pending resolved after) (hkeyed : before.KeyedById)
    {event : NormalizedEvent} (hpayload : event.payload = .shredSellIntentResolved resolved) :
    before.Accounts [event] after := by
  have hkey : resolved.originalTentativeEventId.uuid = key := by
    rw [h.eventId]
    exact hkeyed key pending h.lookup
  have hlog := trackingLog_resolved hpayload
  rw [hkey] at hlog
  refine ⟨?_, ?_, ?_, ?_, ?_, h.earlyIntent, h.shredExit, ?_⟩
  · rw [hlog]
    refine ⟨?_, trivial⟩
    rw [mem_pendingIds, ← AList.lookup_isSome, h.lookup]
    rfl
  · rw [hlog]
    exact pendingIds_of_erase h.pending
  · rw [hlog]
    exact h.tracked
  · rw [hlog]
    exact h.resolvedTotal
  · rw [hlog]
    exact h.observations
  · exact fun other context hlookup => hkeyed other context (h.lookup_of_lookup hlookup)

theorem SettlesAll.accounts {canonicality : Canonicality} {before after : TentativeSellManager}
    {events : List NormalizedEvent} (h : SettlesAll canonicality before events after)
    (hkeyed : before.KeyedById) : before.Accounts events after := by
  induction h with
  | done manager => exact .refl hkeyed
  | settle hsettles hpayload _ _ ih =>
      have hfirst := hsettles.accounts hkeyed hpayload
      exact hfirst.trans (ih hfirst.keyedById)

/-- A tracked sell is opened by its warning alone. -/
theorem Tracks.trackingLog {before after : TentativeSellManager} {event : NormalizedEvent}
    {intent : TentativeSellIntentDetectedEvent} {events : List NormalizedEvent}
    (h : before.Tracks event intent after events) :
    trackingLog events = [.opened intent.eventId.uuid] := by
  obtain ⟨warning, armed, triggered, hid, -, -, hevents⟩ := h.events
  have harmed : (armed.map fun armed =>
      cloneWithPayload event (.shredEmergencyExitArmed armed)).toList.filterMap
        NormalizedEvent.trackingEntry = [] := by
    cases armed with
    | none => rfl
    | some armed => simp [NormalizedEvent.trackingEntry]
  have htriggered : (triggered.map fun triggered =>
      cloneWithPayload event (.shredEmergencyExitTriggered triggered)).toList.filterMap
        NormalizedEvent.trackingEntry = [] := by
    cases triggered with
    | none => rfl
    | some triggered => simp [NormalizedEvent.trackingEntry]
  rw [hevents, PumpLaunchTrader.trackingLog, List.filterMap_append, List.filterMap_append,
    harmed, htriggered]
  simp [NormalizedEvent.trackingEntry, hid]

theorem Tracks.accounts {before after : TentativeSellManager} {event : NormalizedEvent}
    {intent : TentativeSellIntentDetectedEvent} {events : List NormalizedEvent}
    (h : before.Tracks event intent after events) (hkeyed : before.KeyedById) :
    before.Accounts events after := by
  obtain ⟨context, -, -, hpending⟩ := h.pending
  refine ⟨?_, ?_, ?_, ?_, ?_, h.earlyIntent, h.shredExit, ?_⟩
  · rw [h.trackingLog]
    trivial
  · rw [h.trackingLog]
    exact pendingIds_of_insert hpending
  · rw [h.trackingLog]
    exact h.tracked
  · rw [h.trackingLog]
    exact h.resolvedTotal
  · rw [h.trackingLog, h.observations]
    rfl
  · intro key pending hlookup
    rcases h.lookup_cases hlookup with ⟨hkey, hintent, -⟩ | hold
    · rw [hintent, hkey]
    · exact hkeyed key pending hold

theorem Repeats.trackingLog {before after : TentativeSellManager} {event : NormalizedEvent}
    {intent : TentativeSellIntentDetectedEvent} {events : List NormalizedEvent}
    (h : before.Repeats event intent after events) : trackingLog events = [] := by
  rw [h.events]
  simp [PumpLaunchTrader.trackingLog, NormalizedEvent.trackingEntry]

theorem Repeats.accounts {before after : TentativeSellManager} {event : NormalizedEvent}
    {intent : TentativeSellIntentDetectedEvent} {events : List NormalizedEvent}
    (h : before.Repeats event intent after events) (hkeyed : before.KeyedById) :
    before.Accounts events after where
  sound := by
    rw [h.trackingLog]
    trivial
  pendingIds := by
    rw [h.trackingLog, pendingIds, h.pending]
    rfl
  tracked := by
    rw [h.trackingLog, h.metrics]
    rfl
  resolvedTotal := by
    rw [h.trackingLog, h.metrics]
    rfl
  observations := by
    rw [h.trackingLog, h.observations]
    rfl
  earlyIntent := h.earlyIntent
  shredExit := h.shredExit
  keyedById := by
    intro key pending hlookup
    rw [h.pending] at hlookup
    exact hkeyed key pending hlookup

/-- Every call accounts for what it does. -/
theorem call_accounts {self : TentativeSellManager} (hkeyed : self.KeyedById)
    (c : ManagerCall) : self.Accounts (self.call c).2 (self.call c).1 := by
  obtain ⟨after, events, hcall, hcalled⟩ := self.call_called c
  rw [hcall]
  cases hcalled with
  | ignored _ => exact .refl hkeyed
  | tracked _ _ htracks => exact htracks.accounts hkeyed
  | repeated _ _ hrepeats => exact hrepeats.accounts hkeyed
  | reconciled hsettles => exact hsettles.accounts hkeyed
  | expired hsettles => exact hsettles.accounts hkeyed

theorem calls_accounts {self : TentativeSellManager} (hkeyed : self.KeyedById)
    (cs : List ManagerCall) : self.Accounts (self.calls cs).2 (self.calls cs).1 := by
  induction cs generalizing self with
  | nil => exact .refl hkeyed
  | cons c cs ih =>
      have hfirst := call_accounts hkeyed c
      exact hfirst.trans (ih hfirst.keyedById)

/-! ## Reused ids -/

/-- The call tracks a sell under the id of a pending one. -/
def ReusesPendingId (self : TentativeSellManager) : ManagerCall → Prop
  | .detect event token features _ position => ∃ payload, self.TakesSell event payload ∧
    self.duplicatePrimarySource (self.intentFor event payload token features position) = none ∧
    (triggerEventId event payload).uuid ∈ self.pending
  | _ => False

/-- Some call of the sequence tracks a sell under the id of a pending one. -/
def ReusesPendingIds (self : TentativeSellManager) : List ManagerCall → Prop
  | [] => False
  | c :: cs => self.ReusesPendingId c ∨ (self.call c).1.ReusesPendingIds cs

theorem SettlesAll.reopenings {canonicality : Canonicality} {before after : TentativeSellManager}
    {events : List NormalizedEvent} (h : SettlesAll canonicality before events after)
    (keys : Finset String) : reopenings keys (trackingLog events) = 0 := by
  induction h generalizing keys with
  | done manager => rfl
  | @settle before next after key pending resolved event events hsettles hpayload _ _ ih =>
      have hsplit : trackingLog (event :: events) = trackingLog [event] ++ trackingLog events :=
        trackingLog_append [event] events
      rw [hsplit, trackingLog_resolved hpayload, List.singleton_append, Tracking.reopenings]
      exact ih _

theorem TakesSell.payload_unique {self : TentativeSellManager} {event : NormalizedEvent}
    {payload other : PumpSellEvent} (h : self.TakesSell event payload)
    (hother : self.TakesSell event other) : other = payload := by
  have heq := hother.payload.symm.trans h.payload
  exact EventPayload.pumpSell.inj heq

theorem reopenings_call (self : TentativeSellManager) (c : ManagerCall) :
    reopenings self.pendingIds (trackingLog (self.call c).2) = 0 ↔ ¬ self.ReusesPendingId c := by
  obtain ⟨after, events, hcall, hcalled⟩ := self.call_called c
  rw [hcall]
  cases hcalled with
  | ignored hnot =>
      refine ⟨fun _ => ?_, fun _ => rfl⟩
      rintro ⟨sell, hsell, -⟩
      exact hnot sell hsell
  | @tracked event token features risk position sell events after hsell hnew htracks =>
      have hreuse : self.ReusesPendingId (.detect event token features risk position) ↔
          (triggerEventId event sell).uuid ∈ self.pending := by
        constructor
        · rintro ⟨other, hother, -, hmem⟩
          rwa [hsell.payload_unique hother] at hmem
        · intro hmem
          exact ⟨sell, hsell, hnew, hmem⟩
      rw [htracks.trackingLog, hreuse, ← mem_pendingIds, eventId_intentFor]
      simp [Tracking.reopenings]
  | repeated hsell hrepeat hrepeats =>
      rw [hrepeats.trackingLog]
      refine ⟨fun _ => ?_, fun _ => rfl⟩
      rintro ⟨other, hother, hnone, -⟩
      rw [hsell.payload_unique hother] at hnone
      rw [hnone] at hrepeat
      cases hrepeat
  | reconciled hsettles => exact ⟨fun _ => not_false, fun _ => hsettles.reopenings _⟩
  | expired hsettles => exact ⟨fun _ => not_false, fun _ => hsettles.reopenings _⟩

theorem reopenings_calls {self : TentativeSellManager} (hkeyed : self.KeyedById)
    (cs : List ManagerCall) :
    reopenings self.pendingIds (trackingLog (self.calls cs).2) = 0 ↔
      ¬ self.ReusesPendingIds cs := by
  induction cs generalizing self with
  | nil => exact ⟨fun _ => not_false, fun _ => rfl⟩
  | cons c cs ih =>
      have hfirst := call_accounts hkeyed c
      have hrest := ih hfirst.keyedById
      rw [calls, trackingLog_append, reopenings_append, ← hfirst.pendingIds, Nat.add_eq_zero_iff,
        reopenings_call, hrest, ReusesPendingIds, not_or]

/-! ## Deduplication keeps ids apart -/

/-- The intent belongs to a detection of the sequence. -/
def OriginatesIn (cs : List ManagerCall) (intent : TentativeSellIntentDetectedEvent) : Prop :=
  ∃ (event : NormalizedEvent) (payload : PumpSellEvent) (token detectedOn : TokenState)
    (features : FeatureSnapshot) (risk : RiskAssessment)
    (position : Option OpenPositionContext) (assessment : SellAssessment),
    .detect event detectedOn features risk position ∈ cs ∧ event.payload = .pumpSell payload ∧
      intent = intentOf assessment event payload token

/-- Every pending sell belongs to a detection of the sequence. -/
def PendingFrom (self : TentativeSellManager) (cs : List ManagerCall) : Prop :=
  ∀ key pending, self.pending.lookup key = some pending → OriginatesIn cs pending.intent

/-- Detections with the same trigger id deliver the same sell. -/
def IdsIdentifySells (cs : List ManagerCall) : Prop :=
  ∀ event token features risk position payload other otherToken otherFeatures otherRisk
    otherPosition otherPayload, .detect event token features risk position ∈ cs →
    event.payload = .pumpSell payload →
    .detect other otherToken otherFeatures otherRisk otherPosition ∈ cs →
    other.payload = .pumpSell otherPayload →
    triggerEventId event payload = triggerEventId other otherPayload →
      payload.mint = otherPayload.mint ∧ payload.seller = otherPayload.seller ∧
        payload.tokenIn = otherPayload.tokenIn ∧ event.info.slot = other.info.slot ∧
        event.signature = other.signature

theorem SettlesAll.pendingFrom {canonicality : Canonicality}
    {before after : TentativeSellManager} {events : List NormalizedEvent}
    (h : SettlesAll canonicality before events after) {cs : List ManagerCall}
    (hfrom : before.PendingFrom cs) : after.PendingFrom cs :=
  fun key pending hlookup => hfrom key pending (h.lookup_of_lookup hlookup)

theorem PendingFrom.call {self : TentativeSellManager} {cs : List ManagerCall}
    (hfrom : self.PendingFrom cs) {c : ManagerCall} (hc : c ∈ cs) :
    (self.call c).1.PendingFrom cs := by
  obtain ⟨after, events, hcall, hcalled⟩ := self.call_called c
  rw [hcall]
  cases hcalled with
  | ignored _ => exact hfrom
  | @tracked event token features risk position sell events after hsell _ htracks =>
      intro key pending hlookup
      rcases htracks.lookup_cases hlookup with ⟨-, hintent, -⟩ | hold
      · rw [hintent]
        exact ⟨event, sell, token, token, features, risk, position, _, hc, hsell.payload, rfl⟩
      · exact hfrom key pending hold
  | repeated _ _ hrepeats =>
      intro key pending hlookup
      rw [hrepeats.pending] at hlookup
      exact hfrom key pending hlookup
  | reconciled hsettles => exact hsettles.pendingFrom hfrom
  | expired hsettles => exact hsettles.pendingFrom hfrom

/-- Two deliveries of one sell match, whatever their sources. -/
theorem matches_of_same_sell {pending : PendingSellContext} {tolerancePct : Decimal}
    {slotTolerance : ℕ} {intent : TentativeSellIntentDetectedEvent}
    (htolerance : 0 ≤ tolerancePct) (hmint : pending.intent.mint = intent.mint)
    (hseller : pending.intent.sellerWallet = intent.sellerWallet)
    (htokens : pending.intent.tokenInEstimate = intent.tokenInEstimate)
    (hslot : pending.intent.slot = intent.slot)
    (hsignature : pending.intent.signature = intent.signature) :
    pendingMatchesDuplicateSource pending intent tolerancePct slotTolerance = true := by
  unfold pendingMatchesDuplicateSource
  rw [if_neg (not_not.mpr hmint), hsignature]
  cases intent.signature with
  | some signature => simp
  | none =>
      have hallowed : 0 ≤ tolerancePct / 100 := by positivity
      simp [hseller, htokens, hslot, hallowed]

theorem not_reusesPendingId {self : TentativeSellManager} {cs : List ManagerCall}
    (hkeyed : self.KeyedById) (hfrom : self.PendingFrom cs)
    (hdedup : self.earlyIntent.deduplicateSources = true)
    (htolerance : 0 ≤ self.earlyIntent.dedupAmountTolerancePct) (hids : IdsIdentifySells cs)
    {c : ManagerCall} (hc : c ∈ cs) : ¬ self.ReusesPendingId c := by
  cases c with
  | detect event token features risk position =>
      rintro ⟨payload, hsell, hnew, hmem⟩
      obtain ⟨pending, hlookup⟩ := Option.isSome_iff_exists.mp (AList.lookup_isSome.mpr hmem)
      obtain ⟨other, otherPayload, _, _, _, _, _, assessment, hother, hpayload, hintent⟩ :=
        hfrom _ pending hlookup
      have hid : triggerEventId event payload = triggerEventId other otherPayload := by
        have hkey := hkeyed _ pending hlookup
        rw [hintent] at hkey
        exact EventId.eq_of_uuid hkey.symm
      obtain ⟨hmint, hseller, htokens, hslot, hsignature⟩ :=
        hids _ _ _ _ _ _ _ _ _ _ _ _ hc hsell.payload hother hpayload hid
      have hmatch : pendingMatchesDuplicateSource pending
          (self.intentFor event payload token features position)
          self.earlyIntent.dedupAmountTolerancePct self.earlyIntent.dedupSlotTolerance = true := by
        apply matches_of_same_sell htolerance
        · simp only [hintent, intentFor, intentOf, hmint]
        · simp only [hintent, intentFor, intentOf, hseller]
        · simp only [hintent, intentFor, intentOf, htokens]
        · simp only [hintent, intentFor, intentOf, hslot]
        · simp only [hintent, intentFor, intentOf, hsignature]
      have hvalue : pending ∈ self.pending.values :=
        (KeyedMap.mem_values_iff _ _).mpr ⟨_, hlookup⟩
      unfold duplicatePrimarySource at hnew
      rw [if_pos hdedup, Option.map_eq_none_iff, List.find?_eq_none] at hnew
      exact hnew pending hvalue hmatch
  | reconcile event token => exact not_false
  | expire freshIds now tokens => exact not_false

/-- With deduplication, ids that identify sells are never reused while pending. -/
theorem not_reusesPendingIds {self : TentativeSellManager} {all cs : List ManagerCall}
    (hkeyed : self.KeyedById) (hfrom : self.PendingFrom all)
    (hdedup : self.earlyIntent.deduplicateSources = true)
    (htolerance : 0 ≤ self.earlyIntent.dedupAmountTolerancePct) (hids : IdsIdentifySells all)
    (hcs : ∀ c ∈ cs, c ∈ all) : ¬ self.ReusesPendingIds cs := by
  induction cs generalizing self with
  | nil => exact not_false
  | cons c cs ih =>
      have hc := hcs c List.mem_cons_self
      have hfirst := call_accounts hkeyed c
      rw [ReusesPendingIds, not_or]
      refine ⟨not_reusesPendingId hkeyed hfrom hdedup htolerance hids hc, ?_⟩
      apply ih hfirst.keyedById (hfrom.call hc)
      · rwa [hfirst.earlyIntent]
      · rwa [hfirst.earlyIntent]
      · exact fun other hother => hcs other (List.mem_cons_of_mem _ hother)

/-! ## Resolution -/

/-- An event that opens a sell is its warning. -/
theorem warning_of_opened {events : List NormalizedEvent} {id : EventId}
    (h : Entry.opened id.uuid ∈ trackingLog events) :
    ∃ event ∈ events, ∃ warning, event.payload = .tentativeMaliciousSellWarning warning ∧
      warning.triggerEventId = id := by
  obtain ⟨event, hevent, hentry⟩ := List.mem_filterMap.mp h
  refine ⟨event, hevent, ?_⟩
  unfold NormalizedEvent.trackingEntry at hentry
  split at hentry
  · next warning hpayload =>
      rw [Option.some.injEq, Entry.opened.injEq] at hentry
      exact ⟨warning, hpayload, EventId.eq_of_uuid hentry⟩
  · cases hentry
  · cases hentry

/-- Between two resolutions of a sell it is warned about again. -/
theorem warned_between_resolutions {self : TentativeSellManager} (hkeyed : self.KeyedById)
    (cs : List ManagerCall) {first between last : List NormalizedEvent}
    {event again : NormalizedEvent} {resolved resolvedAgain : ShredSellIntentResolvedEvent}
    (hevents : (self.calls cs).2 = first ++ event :: between ++ again :: last)
    (hevent : event.payload = .shredSellIntentResolved resolved)
    (hagain : again.payload = .shredSellIntentResolved resolvedAgain)
    (hid : resolvedAgain.originalTentativeEventId = resolved.originalTentativeEventId) :
    ∃ detected ∈ between, ∃ warning,
      detected.payload = .tentativeMaliciousSellWarning warning ∧
        warning.triggerEventId = resolved.originalTentativeEventId := by
  apply warning_of_opened
  have hsound := (calls_accounts hkeyed cs).sound
  have hsplit : ∀ (e : NormalizedEvent) (rest : List NormalizedEvent),
      trackingLog (e :: rest) = trackingLog [e] ++ trackingLog rest := fun e rest =>
    trackingLog_append [e] rest
  rw [hevents, trackingLog_append, trackingLog_append, hsplit event, hsplit again,
    trackingLog_resolved hevent, trackingLog_resolved hagain, hid, List.singleton_append,
    List.singleton_append] at hsound
  exact opened_between hsound

/-- Every tracked sell of a new manager is pending or resolved once, exactly when no call
tracks a sell under the id of a pending one; deduplication prevents that as long as ids
identify sells. -/
theorem tracked_sells_resolve_once (earlyIntent : EarlyIntentConfig)
    (shredExit : ShredExitConfig) (stored : Option PersistedShredExitCalibration)
    (cs : List ManagerCall) :
    let start := new earlyIntent shredExit stored
    let finish := start.calls cs
    (finish.1.metrics.tentativeSellTotal =
        finish.1.pending.entries.length + finish.1.metrics.resolvedTotal ↔
      ¬ start.ReusesPendingIds cs) ∧
    (earlyIntent.deduplicateSources = true → 0 ≤ earlyIntent.dedupAmountTolerancePct →
      IdsIdentifySells cs → ¬ start.ReusesPendingIds cs) ∧
    finish.1.observations.length = (resolutions finish.2).length ∧
    ∀ first between last event again resolved resolvedAgain,
      finish.2 = first ++ event :: between ++ again :: last →
      event.payload = .shredSellIntentResolved resolved →
      again.payload = .shredSellIntentResolved resolvedAgain →
      resolvedAgain.originalTentativeEventId = resolved.originalTentativeEventId →
      ∃ detected ∈ between, ∃ warning,
        detected.payload = .tentativeMaliciousSellWarning warning ∧
          warning.triggerEventId = resolved.originalTentativeEventId := by
  intro start finish
  have hkeyed : start.KeyedById := by
    intro key pending hlookup
    cases hlookup
  have hfrom : start.PendingFrom cs := by
    intro key pending hlookup
    cases hlookup
  have haccounts : start.Accounts finish.2 finish.1 := calls_accounts hkeyed cs
  refine ⟨?_, ?_, ?_, ?_⟩
  · have hbalance := openings_add_card haccounts.sound
    have hempty : start.pendingIds.card = 0 := rfl
    have htracked : finish.1.metrics.tentativeSellTotal =
        0 + openings (trackingLog finish.2) := haccounts.tracked
    have hresolved : finish.1.metrics.resolvedTotal = 0 + closings (trackingLog finish.2) :=
      haccounts.resolvedTotal
    rw [hempty, ← haccounts.pendingIds, card_pendingIds] at hbalance
    have hreuses : reopenings start.pendingIds (trackingLog finish.2) = 0 ↔
        ¬ start.ReusesPendingIds cs := reopenings_calls hkeyed cs
    rw [← hreuses, htracked, hresolved]
    omega
  · intro hdedup htolerance hids
    exact not_reusesPendingIds hkeyed hfrom hdedup htolerance hids fun _ hc => hc
  · have hobservations : finish.1.observations.length = 0 + closings (trackingLog finish.2) :=
      haccounts.observations
    rw [hobservations, closings_trackingLog, Nat.zero_add]
  · intro first between last event again resolved resolvedAgain hevents hevent hagain hid
    exact warned_between_resolutions hkeyed cs hevents hevent hagain hid

/-- A sell that two sources deliver is counted once, and settled by its expiry. -/
theorem tracked_sells_resolve_once_sample :
    let finish := sampleManager.calls
      [sampleDetection "event" (some "sell") unixEpoch,
        sampleDetection "event" (some "sell") unixEpoch,
        .expire (fun _ => ⟨"fresh"⟩) (unixEpoch + Duration.milliseconds 5000) ∅]
    finish.1.metrics.tentativeSellTotal =
      finish.1.pending.entries.length + finish.1.metrics.resolvedTotal := by
  have hlaws := tracked_sells_resolve_once { dedupAmountTolerancePct := 5 }
    { tentativeReconciliationTtlMs := 5000 } none
    [sampleDetection "event" (some "sell") unixEpoch,
      sampleDetection "event" (some "sell") unixEpoch,
      .expire (fun _ => ⟨"fresh"⟩) (unixEpoch + Duration.milliseconds 5000) ∅]
  refine hlaws.1.mpr (hlaws.2.1 rfl (by norm_num) ?_)
  intro event _ _ _ _ payload other _ _ _ _ otherPayload hevent hpayload hother hotherPayload _
  simp only [sampleDetection, List.mem_cons, ManagerCall.detect.injEq, reduceCtorEq,
    List.not_mem_nil, or_false, or_self] at hevent hother
  have heq := hother.1.trans hevent.1.symm
  subst heq
  rw [hpayload, EventPayload.pumpSell.injEq] at hotherPayload
  subst hotherPayload
  exact ⟨rfl, rfl, rfl, rfl, rfl⟩

/-- Two sells under one event id: the second replaces the first in the pending map, and one
of the two is never resolved. -/
theorem tracked_sells_overwritten :
    let finish := sampleManager.calls
      [sampleDetection "event" (some "first") unixEpoch,
        sampleDetection "event" (some "second") unixEpoch]
    sampleManager.earlyIntent.deduplicateSources = true ∧
      finish.1.metrics.tentativeSellTotal = 2 ∧
      finish.1.pending.entries.length + finish.1.metrics.resolvedTotal = 1 := by
  decide +kernel

end TentativeSellManager

end PumpLaunchTrader
