import PumpLaunchTrader.ShredExit.Conservation

/-! # The rates of the calibration

Every resolution recomputes the rates from the counters, which follow the events. A resolved
sell counts as a true or as a false positive and not as both, so that the two rates fit into
one, but for the first: no execution counts like one. -/

namespace PumpLaunchTrader

open Tracking

/-! ## Tallies of events -/

/-- The outcomes that count as an execution. -/
def ShredSellIntentResolvedEvent.executed (self : ShredSellIntentResolvedEvent) : Bool :=
  self.outcome = .confirmedExecuted ∨ self.outcome = .rootedExecuted

def ShredSellIntentResolvedEvent.notSeen (self : ShredSellIntentResolvedEvent) : Bool :=
  self.outcome = .notSeenWithinTtl

/-- No sell is resolved as executed and as a false positive. -/
def ShredSellIntentResolvedEvent.Exclusive (self : ShredSellIntentResolvedEvent) : Prop :=
  self.executed = true → self.falsePositiveFlag = false

/-- The rates of a calibration. -/
structure SellRates where
  truePositive : Decimal
  falsePositive : Decimal
  missed : Decimal
  deriving DecidableEq

def ShredExitCalibrationSummary.rates (self : ShredExitCalibrationSummary) : SellRates :=
  { truePositive := self.truePositiveRate
    falsePositive := self.falsePositiveRate
    missed := self.missedSellRate }

/-- The counters that the rates are computed from. -/
structure RateTally where
  tracked : ℕ
  executed : ℕ
  falsePositive : ℕ
  notSeen : ℕ
  deriving DecidableEq

def ShredExitMetricsSummary.tally (self : ShredExitMetricsSummary) : RateTally :=
  { tracked := self.tentativeSellTotal
    executed := self.confirmedExecutedTotal
    falsePositive := self.falsePositiveExitTotal
    notSeen := self.notSeenWithinTtlTotal }

namespace RateTally

def rates (self : RateTally) : SellRates :=
  let seen : Decimal := max self.tracked 1
  { truePositive := (max self.executed 1 : ℕ) / seen
    falsePositive := self.falsePositive / seen
    missed := self.notSeen / seen }

/-- The tally after one more resolution. -/
def count (self : RateTally) (resolved : ShredSellIntentResolvedEvent) : RateTally :=
  { tracked := self.tracked
    executed := self.executed + if resolved.executed then 1 else 0
    falsePositive := self.falsePositive + if resolved.falsePositiveFlag then 1 else 0
    notSeen := self.notSeen + if resolved.notSeen then 1 else 0 }

/-- The tally of a sequence of events: the sells that it tracks, and those that it resolves
by their outcomes. -/
def ofEvents (events : List NormalizedEvent) : RateTally :=
  { tracked := openings (trackingLog events)
    executed := (resolutions events).countP (·.executed)
    falsePositive := (resolutions events).countP (·.falsePositiveFlag)
    notSeen := (resolutions events).countP (·.notSeen) }

end RateTally

theorem resolutions_append (events more : List NormalizedEvent) :
    resolutions (events ++ more) = resolutions events ++ resolutions more :=
  List.filterMap_append

theorem resolutions_resolved {event : NormalizedEvent} {resolved : ShredSellIntentResolvedEvent}
    (h : event.payload = .shredSellIntentResolved resolved) : resolutions [event] = [resolved] := by
  simp [resolutions, h]

theorem RateTally.ofEvents_resolved (events : List NormalizedEvent) {event : NormalizedEvent}
    {resolved : ShredSellIntentResolvedEvent}
    (h : event.payload = .shredSellIntentResolved resolved) :
    ofEvents (events ++ [event]) = (ofEvents events).count resolved := by
  unfold ofEvents count
  rw [trackingLog_append, openings_append, resolutions_append, resolutions_resolved h,
    TentativeSellManager.trackingLog_resolved h]
  simp [openings, List.countP_append, List.countP_singleton]

/-! ## Up to the last resolution -/

/-- The events up to the last resolution. -/
def untilLastResolution : List NormalizedEvent → List NormalizedEvent
  | [] => []
  | event :: events =>
    if (resolutions (event :: events)).isEmpty then [] else event :: untilLastResolution events

theorem untilLastResolution_prefix (events : List NormalizedEvent) :
    ∃ late, events = untilLastResolution events ++ late := by
  induction events with
  | nil => exact ⟨[], rfl⟩
  | cons event events ih =>
      obtain ⟨late, hlate⟩ := ih
      unfold untilLastResolution
      split
      · exact ⟨event :: events, rfl⟩
      · refine ⟨late, ?_⟩
        rw [List.cons_append, ← hlate]

theorem resolutions_untilLastResolution (events : List NormalizedEvent) :
    resolutions (untilLastResolution events) = resolutions events := by
  induction events with
  | nil => rfl
  | cons event events ih =>
      unfold untilLastResolution
      split
      · next hempty => rw [List.isEmpty_iff.mp hempty]; rfl
      · have hsplit := resolutions_append [event]
        exact (hsplit _).trans ((congrArg _ ih).trans (hsplit _).symm)

/-- A resolution at the end is the last one. -/
theorem untilLastResolution_resolved (events : List NormalizedEvent) {event : NormalizedEvent}
    {resolved : ShredSellIntentResolvedEvent}
    (h : event.payload = .shredSellIntentResolved resolved) :
    untilLastResolution (events ++ [event]) = events ++ [event] := by
  induction events with
  | nil => simp [untilLastResolution, resolutions_resolved h]
  | cons first events ih =>
      rw [List.cons_append, untilLastResolution, ih, if_neg]
      rw [← List.cons_append, resolutions_append, resolutions_resolved h]
      simp

/-- Events without a resolution do not move the last one. -/
theorem untilLastResolution_quiet (events : List NormalizedEvent) {more : List NormalizedEvent}
    (h : resolutions more = []) :
    untilLastResolution (events ++ more) = untilLastResolution events := by
  induction events with
  | nil =>
      cases more with
      | nil => rfl
      | cons event more => simp [untilLastResolution, h]
  | cons event events ih =>
      have hsame : resolutions (event :: (events ++ more)) = resolutions (event :: events) := by
        rw [← List.cons_append, resolutions_append, h, List.append_nil]
      rw [List.cons_append, untilLastResolution, untilLastResolution, hsame, ih]

namespace TentativeSellManager

/-! ## Resolving -/

theorem rates_recomputeCalibration (self : TentativeSellManager) :
    self.recomputeCalibration.calibration.rates = self.metrics.tally.rates := by
  unfold recomputeCalibration
  dsimp only
  split_ifs <;> rfl

theorem tally_countOutcome (resolved : ShredSellIntentResolvedEvent)
    (metrics : ShredExitMetricsSummary) :
    (countFalsePositive resolved (countOutcome resolved metrics)).tally =
      metrics.tally.count resolved := by
  unfold countFalsePositive countOutcome RateTally.count ShredExitMetricsSummary.tally
    ShredSellIntentResolvedEvent.executed ShredSellIntentResolvedEvent.notSeen
  cases resolved.outcome <;> cases resolved.falsePositiveFlag <;> simp

theorem exclusive_of_reconcile {pending : PendingSellContext} {event : NormalizedEvent}
    {token : Option TokenState} {resolved : ShredSellIntentResolvedEvent}
    (h : reconcilePendingAgainstEvent pending event token = some resolved) :
    resolved.Exclusive := by
  intro hexecuted
  unfold ShredSellIntentResolvedEvent.executed at hexecuted
  unfold reconcilePendingAgainstEvent at h
  split at h
  · cases h
    simp [resolvedBy] at hexecuted
  · split at h
    · next payload _ =>
        split at h
        · split at h
          · cases h
            cases hfailed : decide (payload.status = .failed) with
            | false => simpa [executedBy] using hfailed
            | true => simp [executedBy, hfailed] at hexecuted
          · cases h
            simp [mismatchedBy] at hexecuted
        · cases h
    · split at h
      · cases h
        simp at hexecuted
      · cases h
    · cases h

theorem exclusive_notSeen (pending : PendingSellContext) (opportunity : Decimal)
    (now : OffsetDateTime) : (notSeen pending opportunity now).Exclusive := by
  intro hexecuted
  simp [notSeen, ShredSellIntentResolvedEvent.executed] at hexecuted

/-! ## Rated managers -/

/-- The counters of the manager are the tally of its events, and its rates are those of the
tally at the last resolution. -/
structure Rated (manager : TentativeSellManager) (events : List NormalizedEvent) : Prop where
  tally : manager.metrics.tally = .ofEvents events
  exclusive : ∀ resolved ∈ resolutions events, resolved.Exclusive
  rates : resolutions events ≠ [] →
    manager.calibration.rates = (RateTally.ofEvents (untilLastResolution events)).rates

theorem rated_new (earlyIntent : EarlyIntentConfig) (shredExit : ShredExitConfig)
    (stored : Option PersistedShredExitCalibration) :
    (new earlyIntent shredExit stored).Rated [] where
  tally := rfl
  exclusive := by simp [resolutions]
  rates := fun h => absurd rfl h

/-- A resolution is counted, and the rates follow. -/
theorem Rated.resolve {self dropped : TentativeSellManager} {events : List NormalizedEvent}
    (h : self.Rated events) {event : NormalizedEvent} {resolved : ShredSellIntentResolvedEvent}
    {pending : PendingSellContext} (hdropped : dropped.metrics.tally = self.metrics.tally)
    (hpayload : event.payload = .shredSellIntentResolved resolved)
    (hexclusive : resolved.Exclusive) :
    (dropped.recordResolution resolved pending).Rated (events ++ [event]) := by
  have htally : (dropped.recordResolution resolved pending).metrics.tally =
      .ofEvents (events ++ [event]) := by
    have hmetrics : (dropped.recordResolution resolved pending).metrics =
        countFalsePositive resolved (countOutcome resolved dropped.metrics) := rfl
    rw [hmetrics, tally_countOutcome, hdropped, h.tally, RateTally.ofEvents_resolved _ hpayload]
  refine ⟨htally, ?_, fun _ => ?_⟩
  · intro other hother
    rw [resolutions_append, resolutions_resolved hpayload, List.mem_append,
      List.mem_singleton] at hother
    rcases hother with hother | rfl
    · exact h.exclusive other hother
    · exact hexclusive
  · rw [untilLastResolution_resolved events hpayload, ← htally]
    exact rates_recomputeCalibration _

/-- What resolves nothing may track more sells, and leaves the rates. -/
theorem Rated.quiet {self after : TentativeSellManager} {events more : List NormalizedEvent}
    (h : self.Rated events) (hquiet : resolutions more = [])
    (htracked : after.metrics.tentativeSellTotal =
      self.metrics.tentativeSellTotal + openings (trackingLog more))
    (hcounts : after.metrics.tally =
      { self.metrics.tally with tracked := after.metrics.tentativeSellTotal })
    (hcalibration : after.calibration = self.calibration) :
    after.Rated (events ++ more) := by
  have hresolutions : resolutions (events ++ more) = resolutions events := by
    rw [resolutions_append, hquiet, List.append_nil]
  have hbefore : self.metrics.tentativeSellTotal = openings (trackingLog events) :=
    congrArg RateTally.tracked h.tally
  refine ⟨?_, ?_, ?_⟩
  · rw [hcounts, h.tally, htracked, hbefore]
    unfold RateTally.ofEvents
    rw [hresolutions, trackingLog_append, openings_append]
  · rw [hresolutions]
    exact h.exclusive
  · rw [hresolutions, hcalibration, untilLastResolution_quiet events hquiet]
    exact h.rates

theorem rated_foldl {step : TentativeSellManager × List NormalizedEvent → String →
      TentativeSellManager × List NormalizedEvent} {events : List NormalizedEvent}
    (hstep : ∀ acc key, acc.1.Rated (events ++ acc.2) →
      (step acc key).1.Rated (events ++ (step acc key).2))
    (keys : List String) {acc : TentativeSellManager × List NormalizedEvent}
    (h : acc.1.Rated (events ++ acc.2)) :
    (keys.foldl step acc).1.Rated (events ++ (keys.foldl step acc).2) := by
  induction keys generalizing acc with
  | nil => exact h
  | cons key keys ih => exact ih (hstep acc key h)

theorem Rated.reconcile {self : TentativeSellManager} {events : List NormalizedEvent}
    (h : self.Rated events) (event : NormalizedEvent) (token : Option TokenState) :
    (self.reconcile event token).1.Rated (events ++ (self.reconcile event token).2) := by
  have hnil : self.Rated (events ++ []) := by rwa [List.append_nil]
  unfold TentativeSellManager.reconcile
  cases event.mint with
  | none => exact hnil
  | some mint =>
      apply rated_foldl _ _ hnil
      intro acc key hacc
      rcases reconcileKey_cases event token acc key with
        hsame | ⟨pending, resolved, -, hresolved, hnext⟩
      · rwa [hsame]
      · rw [hnext, ← List.append_assoc]
        exact hacc.resolve rfl (cloneWithPayload_payload _ _) (exclusive_of_reconcile hresolved)

theorem Rated.expire {self : TentativeSellManager} {events : List NormalizedEvent}
    (h : self.Rated events) (freshIds : ℕ → EventId) (now : OffsetDateTime)
    (tokens : KeyedMap String TokenState) :
    (self.expire freshIds now tokens).1.Rated
      (events ++ (self.expire freshIds now tokens).2) := by
  have hnil : self.Rated (events ++ []) := by rwa [List.append_nil]
  rw [expire_eq_foldl]
  apply rated_foldl _ _ hnil
  intro acc key hacc
  cases hlookup : acc.1.pending.lookup key with
  | none =>
      have hsame : expireKey freshIds now tokens acc key = acc := by
        simp only [expireKey, hlookup]
      rwa [hsame]
  | some pending =>
      rw [expireKey_of_pending hlookup, ← List.append_assoc]
      exact hacc.resolve rfl (expiryEvent_payload _ _ _ _) (exclusive_notSeen _ _ _)

/-- A detection touches neither the rates nor the counters of resolutions. -/
theorem detect_keeps (self : TentativeSellManager) (event : NormalizedEvent) (token : TokenState)
    (features : FeatureSnapshot) (risk : RiskAssessment)
    (position : Option OpenPositionContext) :
    let after := (self.detectTentativeSell event token features risk position).1
    after.calibration = self.calibration ∧
      after.metrics.tally =
        { self.metrics.tally with tracked := after.metrics.tentativeSellTotal } := by
  unfold detectTentativeSell
  split
  · split
    · exact ⟨rfl, rfl⟩
    · dsimp only
      split
      · exact ⟨rfl, rfl⟩
      · exact ⟨rfl, rfl⟩
  · exact ⟨rfl, rfl⟩

theorem resolutions_eq_nil_of_closings {events : List NormalizedEvent}
    (h : closings (trackingLog events) = 0) : resolutions events = [] := by
  rwa [closings_trackingLog, List.length_eq_zero_iff] at h

theorem Rated.call {self : TentativeSellManager} {events : List NormalizedEvent}
    (h : self.Rated events) (c : ManagerCall) :
    (self.call c).1.Rated (events ++ (self.call c).2) := by
  cases c with
  | detect event token features risk position =>
      obtain ⟨hcalibration, hcounts⟩ := self.detect_keeps event token features risk position
      obtain ⟨after, announced, hcall, hcalled⟩ :=
        self.call_called (.detect event token features risk position)
      have hdetect : self.detectTentativeSell event token features risk position =
          (after, announced) := hcall
      rw [hdetect] at hcalibration hcounts
      rw [hcall]
      cases hcalled with
      | ignored _ => rwa [List.append_nil]
      | tracked _ _ htracks =>
          apply h.quiet (resolutions_eq_nil_of_closings _) _ hcounts hcalibration
          · rw [htracks.trackingLog]
            rfl
          · rw [htracks.trackingLog]
            exact htracks.tracked
      | repeated _ _ hrepeats =>
          apply h.quiet (resolutions_eq_nil_of_closings _) _ hcounts hcalibration
          · rw [hrepeats.trackingLog]
            rfl
          · rw [hrepeats.trackingLog, hrepeats.metrics]
            rfl
  | reconcile event token => exact h.reconcile event token
  | expire freshIds now tokens => exact h.expire freshIds now tokens

theorem Rated.calls {self : TentativeSellManager} {events : List NormalizedEvent}
    (h : self.Rated events) (cs : List ManagerCall) :
    (self.calls cs).1.Rated (events ++ (self.calls cs).2) := by
  induction cs generalizing self events with
  | nil =>
      rw [TentativeSellManager.calls, List.append_nil]
      exact h
  | cons c cs ih =>
      have hrest := ih (h.call c)
      rwa [List.append_assoc] at hrest

end TentativeSellManager

/-! ## Proportions -/

/-- The rates are proportions, and those of true and of false positives fit into one. -/
structure SellRates.Proportions (rates : SellRates) : Prop where
  truePositive : 0 ≤ rates.truePositive ∧ rates.truePositive ≤ 1
  falsePositive : 0 ≤ rates.falsePositive ∧ rates.falsePositive ≤ 1
  missed : 0 ≤ rates.missed ∧ rates.missed ≤ 1
  fit : rates.truePositive + rates.falsePositive ≤ 1

theorem executed_add_falsePositive_le {resolved : List ShredSellIntentResolvedEvent}
    (h : ∀ r ∈ resolved, r.Exclusive) :
    resolved.countP (·.executed) + resolved.countP (·.falsePositiveFlag) ≤ resolved.length := by
  induction resolved with
  | nil => simp
  | cons r rest ih =>
      have hrest := ih fun other hother => h other (List.mem_cons_of_mem _ hother)
      have hexclusive : r.executed = true → r.falsePositiveFlag = false :=
        h r (List.mem_cons_self ..)
      rw [List.countP_cons, List.countP_cons, List.length_cons]
      cases hexecuted : r.executed with
      | false =>
          cases r.falsePositiveFlag <;> simp <;> omega
      | true =>
          rw [hexclusive hexecuted]
          simp
          omega

/-- A sound log tracks every sell that it resolves. -/
theorem resolutions_le_tracked {events : List NormalizedEvent}
    (h : Sound ∅ (trackingLog events)) :
    (resolutions events).length ≤ (RateTally.ofEvents events).tracked := by
  have hbalance := openings_add_card h
  rw [closings_trackingLog, Finset.card_empty] at hbalance
  have htracked : (RateTally.ofEvents events).tracked = openings (trackingLog events) := rfl
  omega

theorem share_mem_unit {part whole : ℕ} (hle : part ≤ whole) :
    (0 : Decimal) ≤ (part : Decimal) / whole ∧ (part : Decimal) / whole ≤ 1 := by
  constructor
  · positivity
  · exact div_le_one_of_le₀ (by exact_mod_cast hle) (by positivity)

/-- The counter of executions is raised to one, which is one too many when every tracked
sell is a false positive. -/
theorem RateTally.proportions_iff {tally : RateTally} {resolved : ℕ} (hpos : 0 < resolved)
    (hresolved : resolved ≤ tally.tracked) (hnotSeen : tally.notSeen ≤ resolved)
    (hexclusive : tally.executed + tally.falsePositive ≤ resolved) :
    tally.rates.Proportions ↔ tally.falsePositive < tally.tracked := by
  have htracked : 0 < tally.tracked := by omega
  have hseen : max (tally.tracked : Decimal) 1 = tally.tracked :=
    max_eq_left (by exact_mod_cast htracked)
  have hrates : tally.rates =
      { truePositive := (max tally.executed 1 : ℕ) / tally.tracked
        falsePositive := tally.falsePositive / tally.tracked
        missed := tally.notSeen / tally.tracked } := by
    unfold rates
    rw [hseen]
  have hfit : tally.rates.truePositive + tally.rates.falsePositive ≤ 1 ↔
      max tally.executed 1 + tally.falsePositive ≤ tally.tracked := by
    have hcast : (0 : Decimal) < tally.tracked := by exact_mod_cast htracked
    rw [hrates, ← add_div, div_le_one hcast]
    norm_cast
  constructor
  · intro h
    have hsum := hfit.mp h.fit
    omega
  · intro h
    refine ⟨?_, ?_, ?_, hfit.mpr (by omega)⟩
    · rw [hrates]
      exact share_mem_unit (by omega)
    · rw [hrates]
      exact share_mem_unit (by omega)
    · rw [hrates]
      exact share_mem_unit (by omega)

namespace TentativeSellManager

/-- After a run that resolved some sell, the rates are proportions exactly when some sell
that was tracked by the last resolution was not resolved as a false positive. -/
theorem rates_proportions_iff (earlyIntent : EarlyIntentConfig) (shredExit : ShredExitConfig)
    (stored : Option PersistedShredExitCalibration) (cs : List ManagerCall)
    (hresolved : resolutions ((new earlyIntent shredExit stored).calls cs).2 ≠ []) :
    let finish := (new earlyIntent shredExit stored).calls cs
    finish.1.calibration.rates.Proportions ↔
      (resolutions finish.2).countP (·.falsePositiveFlag) <
        openings (trackingLog (untilLastResolution finish.2)) := by
  intro finish
  have hrated : finish.1.Rated finish.2 := (rated_new earlyIntent shredExit stored).calls cs
  have hkeyed : (new earlyIntent shredExit stored).KeyedById := by
    intro key pending hlookup
    cases hlookup
  have hsound : Sound ∅ (trackingLog finish.2) := (calls_accounts hkeyed cs).sound
  obtain ⟨late, hlate⟩ := untilLastResolution_prefix finish.2
  rw [hlate, trackingLog_append, sound_append] at hsound
  have hle := resolutions_le_tracked hsound.1
  rw [resolutions_untilLastResolution] at hle
  have hexclusive := executed_add_falsePositive_le hrated.exclusive
  have hnotSeen : (resolutions finish.2).countP (·.notSeen) ≤ (resolutions finish.2).length :=
    List.countP_le_length
  have hpos : 0 < (resolutions finish.2).length := List.length_pos_iff.mpr hresolved
  have htally : RateTally.ofEvents (untilLastResolution finish.2) =
      { RateTally.ofEvents finish.2 with
        tracked := openings (trackingLog (untilLastResolution finish.2)) } := by
    unfold RateTally.ofEvents
    rw [resolutions_untilLastResolution]
  rw [hrated.rates hresolved]
  rw [htally] at hle ⊢
  exact RateTally.proportions_iff hpos hle hnotSeen hexclusive

/-- Two sells are tracked, and one of them expires. -/
theorem rates_proportions_one_of_two :
    let finish := sampleManager.calls
      [sampleDetection "first" (some "first") unixEpoch,
        sampleDetection "second" (some "second") (unixEpoch + Duration.milliseconds 1000),
        .expire (fun _ => ⟨"fresh"⟩) (unixEpoch + Duration.milliseconds 5000) ∅]
    finish.1.calibration.rates.Proportions ↔
      (resolutions finish.2).countP (·.falsePositiveFlag) <
        openings (trackingLog (untilLastResolution finish.2)) := by
  apply rates_proportions_iff
  decide +kernel

/-- A sell that is tracked and never seen. -/
def unseenRun : List ManagerCall :=
  [sampleDetection "event" (some "sell") unixEpoch,
    .expire (fun _ => ⟨"fresh"⟩) (unixEpoch + Duration.milliseconds 5000) ∅]

/-- The one sell that was tracked is a false positive, and the rate of true positives is one
as well. -/
theorem rates_proportions_fail :
    ¬ ∀ (earlyIntent : EarlyIntentConfig) (shredExit : ShredExitConfig)
        (stored : Option PersistedShredExitCalibration) (cs : List ManagerCall),
        resolutions ((new earlyIntent shredExit stored).calls cs).2 ≠ [] →
        ((new earlyIntent shredExit stored).calls cs).1.calibration.rates.Proportions := by
  intro h
  have hrun : resolutions (sampleManager.calls unseenRun).2 ≠ [] ∧
      (sampleManager.calls unseenRun).1.calibration.rates =
        { truePositive := 1, falsePositive := 1, missed := 1 } := by
    decide +kernel
  have hfit := (h _ _ none unseenRun hrun.1).fit
  change (sampleManager.calls unseenRun).1.calibration.rates.truePositive +
    (sampleManager.calls unseenRun).1.calibration.rates.falsePositive ≤ 1 at hfit
  rw [hrun.2] at hfit
  norm_num at hfit

end TentativeSellManager

end PumpLaunchTrader
