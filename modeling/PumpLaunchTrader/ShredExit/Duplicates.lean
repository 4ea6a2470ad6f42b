import PumpLaunchTrader.Engine.ShredSignals
import PumpLaunchTrader.Lib.Runs
import PumpLaunchTrader.ShredExit.Calls

/-! # Deliveries of one transaction

Several sources deliver the sell of one transaction. A delivery that repeats a pending sell
is announced without a warning; any other one is warned about and tracked. Once the tracked
sell is settled, nothing remembers it, and the next delivery counts as new. -/

namespace PumpLaunchTrader

/-- The event is a warning of a sell of the mint. -/
def NormalizedEvent.warnsOf (event : NormalizedEvent) (mint : PubkeyValue) : Bool :=
  match event.payload with
  | .tentativeMaliciousSellWarning warning => warning.mint = mint
  | _ => false

/-- The event triggers an exit from the mint. -/
def NormalizedEvent.triggersExitOf (event : NormalizedEvent) (mint : PubkeyValue) : Bool :=
  match event.payload with
  | .shredEmergencyExitTriggered triggered => triggered.mint = mint
  | _ => false

/-- The warnings of the sell of the mint in the transaction. -/
def warningsFor (mint : PubkeyValue) (signature : String) (events : List NormalizedEvent) : ℕ :=
  events.countP fun event => event.signature = some signature ∧ event.warnsOf mint

/-- The exits that the sell of the mint in the transaction triggers. -/
def triggersFor (mint : PubkeyValue) (signature : String) (events : List NormalizedEvent) : ℕ :=
  events.countP fun event => event.signature = some signature ∧ event.triggersExitOf mint

section counting

variable (mint : PubkeyValue) (signature : String)

theorem warningsFor_append (events more : List NormalizedEvent) :
    warningsFor mint signature (events ++ more) =
      warningsFor mint signature events + warningsFor mint signature more :=
  List.countP_append

theorem triggersFor_append (events more : List NormalizedEvent) :
    triggersFor mint signature (events ++ more) =
      triggersFor mint signature events + triggersFor mint signature more :=
  List.countP_append

end counting

namespace TentativeSellManager

/-- The call delivers the sell of the mint in the transaction, the manager takes it, and it
repeats no pending sell. -/
def tracksDelivery (self : TentativeSellManager) (mint : PubkeyValue) (signature : String) :
    ManagerCall → Bool
  | .detect event token features _ position =>
    match event.payload with
    | .pumpSell sell => sell.mint = mint ∧ event.signature = some signature ∧
      event.info.canonicality = .tentative ∧ self.earlyIntent.enabled ∧
      (self.duplicatePrimarySource
        (self.intentFor event sell token features position)).isNone
    | _ => false
  | _ => false

section deliveries

variable {self : TentativeSellManager} {mint : PubkeyValue} {signature : String}
  {event : NormalizedEvent} {sell : PumpSellEvent} (token : TokenState)
  (features : FeatureSnapshot) (risk : RiskAssessment) (position : Option OpenPositionContext)

theorem tracksDelivery_of_not_takesSell (h : ∀ sell, ¬ self.TakesSell event sell) :
    self.tracksDelivery mint signature (.detect event token features risk position) = false := by
  cases hpayload : event.payload with
  | pumpSell sell =>
      simp only [tracksDelivery, hpayload, decide_eq_false_iff_not]
      rintro ⟨-, -, htentative, henabled, -⟩
      exact h sell ⟨hpayload, htentative, henabled⟩
  | tokenCreated p | pumpBuy p | bondingCurveUpdate p | holderBalanceUpdate p
  | walletFunding p | observedTransaction p | tokenTerminal p | tradeDecision p
  | simulatedFill p | liveFill p | dataGap p | tentativeSellIntentDetected p
  | tentativeMaliciousSellWarning p | shredEmergencyExitArmed p | shredEmergencyExitTriggered p
  | shredSellIntentResolved p => simp only [tracksDelivery, hpayload]

theorem tracksDelivery_of_takesSell (h : self.TakesSell event sell) :
    self.tracksDelivery mint signature (.detect event token features risk position) =
      decide (sell.mint = mint ∧ event.signature = some signature ∧
        (self.duplicatePrimarySource
          (self.intentFor event sell token features position)).isNone = true) := by
  simp only [tracksDelivery, h.payload, h.tentative, h.enabled, true_and]

/-- A sell and the events that derive from it carry the same signature. -/
theorem signature_cloneWithPayload (h : self.TakesSell event sell) {payload : EventPayload}
    (hpayload : payload.isExitSignal = true) :
    (cloneWithPayload event payload).signature = event.signature := by
  have hsell : event.signature = event.info.signature := by
    simp only [NormalizedEvent.signature, h.payload]
    cases event.info.signature <;> rfl
  have hinfo : (cloneWithPayload event payload).info.signature = event.info.signature := by
    simp only [cloneWithPayload]
  rw [hsell]
  unfold NormalizedEvent.signature
  rw [hinfo, cloneWithPayload_payload]
  cases payload with
  | tentativeMaliciousSellWarning p | shredEmergencyExitArmed p
  | shredEmergencyExitTriggered p => cases event.info.signature <;> rfl
  | tokenCreated p | pumpBuy p | pumpSell p | bondingCurveUpdate p | holderBalanceUpdate p
  | walletFunding p | observedTransaction p | tokenTerminal p | tradeDecision p
  | simulatedFill p | liveFill p | dataGap p | tentativeSellIntentDetected p
  | shredSellIntentResolved p => cases hpayload

/-- An intent counts as neither. -/
theorem counts_intent (event : NormalizedEvent) (intent : TentativeSellIntentDetectedEvent)
    (mint : PubkeyValue) (signature : String) :
    let announced := [cloneWithPayload event (.tentativeSellIntentDetected intent)]
    warningsFor mint signature announced = 0 ∧ triggersFor mint signature announced = 0 := by
  simp [warningsFor, triggersFor, NormalizedEvent.warnsOf, NormalizedEvent.triggersExitOf]

theorem counts_warning (h : self.TakesSell event sell)
    (warning : TentativeMaliciousSellWarningEvent) (mint : PubkeyValue) (signature : String) :
    let announced := [cloneWithPayload event (.tentativeMaliciousSellWarning warning)]
    warningsFor mint signature announced =
        (if warning.mint = mint ∧ event.signature = some signature then 1 else 0) ∧
      triggersFor mint signature announced = 0 := by
  have hsignature : (cloneWithPayload event
      (.tentativeMaliciousSellWarning warning)).signature = event.signature :=
    signature_cloneWithPayload h rfl
  simp [warningsFor, triggersFor, NormalizedEvent.warnsOf, NormalizedEvent.triggersExitOf,
    List.countP_cons, hsignature, and_comm]

theorem counts_armed (event : NormalizedEvent) (armed : Option ShredEmergencyExitArmedEvent)
    (mint : PubkeyValue) (signature : String) :
    let announced := (armed.map fun armed =>
      cloneWithPayload event (.shredEmergencyExitArmed armed)).toList
    warningsFor mint signature announced = 0 ∧ triggersFor mint signature announced = 0 := by
  cases armed with
  | none => exact ⟨rfl, rfl⟩
  | some armed =>
      simp [warningsFor, triggersFor, NormalizedEvent.warnsOf, NormalizedEvent.triggersExitOf]

theorem counts_triggered (h : self.TakesSell event sell)
    {triggered : Option ShredEmergencyExitTriggeredEvent} {own : PubkeyValue}
    (hmint : ∀ payload ∈ triggered, payload.mint = own) (mint : PubkeyValue)
    (signature : String) :
    let announced := (triggered.map fun triggered =>
      cloneWithPayload event (.shredEmergencyExitTriggered triggered)).toList
    warningsFor mint signature announced = 0 ∧
      triggersFor mint signature announced ≤
        if own = mint ∧ event.signature = some signature then 1 else 0 := by
  cases triggered with
  | none => exact ⟨rfl, Nat.zero_le _⟩
  | some triggered =>
      have hsignature : (cloneWithPayload event
          (.shredEmergencyExitTriggered triggered)).signature = event.signature :=
        signature_cloneWithPayload h rfl
      have hown := hmint triggered rfl
      simp [warningsFor, triggersFor, NormalizedEvent.warnsOf,
        NormalizedEvent.triggersExitOf, List.countP_cons, hsignature, hown, and_comm]

/-- The events that announce a tracked sell hold one warning and at most one triggered exit,
with the signature of the delivery. -/
theorem Tracks.counts {after : TentativeSellManager} {intent : TentativeSellIntentDetectedEvent}
    {events : List NormalizedEvent} (htracks : self.Tracks event intent after events)
    (h : self.TakesSell event sell) (mint : PubkeyValue) (signature : String) :
    warningsFor mint signature events =
        (if intent.mint = mint ∧ event.signature = some signature then 1 else 0) ∧
      triggersFor mint signature events ≤
        if intent.mint = mint ∧ event.signature = some signature then 1 else 0 := by
  obtain ⟨warning, armed, triggered, -, hwarning, htriggered, hevents⟩ := htracks.events
  obtain ⟨hintentWarns, hintentTriggers⟩ := counts_intent event intent mint signature
  obtain ⟨hwarningWarns, hwarningTriggers⟩ := counts_warning h warning mint signature
  obtain ⟨harmedWarns, harmedTriggers⟩ := counts_armed event armed mint signature
  obtain ⟨htriggeredWarns, htriggeredTriggers⟩ := counts_triggered h htriggered mint signature
  have hsplit : events = [cloneWithPayload event (.tentativeSellIntentDetected intent)] ++
      [cloneWithPayload event (.tentativeMaliciousSellWarning warning)] ++
      (armed.map fun armed => cloneWithPayload event (.shredEmergencyExitArmed armed)).toList ++
      (triggered.map fun triggered =>
        cloneWithPayload event (.shredEmergencyExitTriggered triggered)).toList := hevents
  rw [hsplit]
  simp only [warningsFor_append, triggersFor_append]
  constructor
  · rw [hintentWarns, hwarningWarns, harmedWarns, htriggeredWarns, hwarning]
    omega
  · rw [hintentTriggers, hwarningTriggers, harmedTriggers]
    omega

/-- The announcement of a repeated sell holds neither. -/
theorem Repeats.counts {after : TentativeSellManager} {intent : TentativeSellIntentDetectedEvent}
    {events : List NormalizedEvent} (hrepeats : self.Repeats event intent after events)
    (mint : PubkeyValue) (signature : String) :
    warningsFor mint signature events = 0 ∧ triggersFor mint signature events = 0 := by
  rw [hrepeats.events]
  exact counts_intent event intent mint signature

end deliveries

/-- Resolutions hold neither. -/
theorem SettlesAll.counts {canonicality : Canonicality} {before after : TentativeSellManager}
    {events : List NormalizedEvent} (h : SettlesAll canonicality before events after)
    (mint : PubkeyValue) (signature : String) :
    warningsFor mint signature events = 0 ∧ triggersFor mint signature events = 0 := by
  induction h with
  | done manager => exact ⟨rfl, rfl⟩
  | @settle before next after key pending resolved event events _ hpayload _ _ ih =>
      have hevent : event.warnsOf mint = false ∧ event.triggersExitOf mint = false := by
        simp [NormalizedEvent.warnsOf, NormalizedEvent.triggersExitOf, hpayload]
      unfold warningsFor triggersFor at ih ⊢
      rw [List.countP_cons, List.countP_cons, ih.1, ih.2]
      simp [hevent]

/-- A call warns of the sell exactly when it tracks a delivery of it, and triggers an exit
only then. -/
theorem counts_call (self : TentativeSellManager) (mint : PubkeyValue) (signature : String)
    (c : ManagerCall) :
    warningsFor mint signature (self.call c).2 =
        (if self.tracksDelivery mint signature c then 1 else 0) ∧
      triggersFor mint signature (self.call c).2 ≤
        if self.tracksDelivery mint signature c then 1 else 0 := by
  obtain ⟨after, events, hcall, hcalled⟩ := self.call_called c
  rw [hcall]
  cases hcalled with
  | @ignored event token features risk position hnot =>
      rw [tracksDelivery_of_not_takesSell token features risk position hnot]
      exact ⟨rfl, Nat.zero_le _⟩
  | @tracked event token features risk position sell events after hsell hnew htracks =>
      have hcounts := htracks.counts hsell mint signature
      rw [mint_intentFor] at hcounts
      rw [tracksDelivery_of_takesSell token features risk position hsell, hnew]
      simp only [Option.isNone_none, and_true, decide_eq_true_eq]
      exact hcounts
  | @repeated event token features risk position sell events after hsell hrepeat hrepeats =>
      have hcounts := hrepeats.counts mint signature
      rw [tracksDelivery_of_takesSell token features risk position hsell,
        Option.isNone_eq_false_iff.mpr hrepeat]
      simp [hcounts]
  | reconciled hsettles =>
      have hcounts := hsettles.counts mint signature
      simp [tracksDelivery, hcounts]
  | expired hsettles =>
      have hcounts := hsettles.counts mint signature
      simp [tracksDelivery, hcounts]

/-! ## Every sequence of calls -/

/-- The manager after a call. -/
def afterCall (self : TentativeSellManager) (c : ManagerCall) : TentativeSellManager :=
  (self.call c).1

theorem calls_fst (self : TentativeSellManager) (cs : List ManagerCall) :
    (self.calls cs).1 = cs.foldl afterCall self := by
  induction cs generalizing self with
  | nil => rfl
  | cons c cs ih => exact ih (self.call c).1

theorem counts_calls (self : TentativeSellManager) (mint : PubkeyValue) (signature : String)
    (cs : List ManagerCall) :
    warningsFor mint signature (self.calls cs).2 =
        Runs.occurrences afterCall (fun m c => m.tracksDelivery mint signature c) self cs ∧
      triggersFor mint signature (self.calls cs).2 ≤
        Runs.occurrences afterCall (fun m c => m.tracksDelivery mint signature c) self cs := by
  induction cs generalizing self with
  | nil => exact ⟨rfl, Nat.zero_le _⟩
  | cons c cs ih =>
      obtain ⟨hwarnings, htriggers⟩ := self.counts_call mint signature c
      obtain ⟨hrestWarnings, hrestTriggers⟩ := ih (self.afterCall c)
      rw [Runs.occurrences]
      constructor
      · rw [calls, warningsFor_append, hwarnings, ← hrestWarnings, Nat.add_comm]
        rfl
      · rw [calls, triggersFor_append]
        calc _ ≤ (if self.tracksDelivery mint signature c then 1 else 0) +
              Runs.occurrences afterCall (fun m c => m.tracksDelivery mint signature c)
                (self.afterCall c) cs := Nat.add_le_add htriggers hrestTriggers
          _ = _ := Nat.add_comm _ _

/-- While a delivery of the transaction is pending, every other one repeats it. -/
theorem tracksDelivery_of_pending {self : TentativeSellManager}
    (hdedup : self.earlyIntent.deduplicateSources = true) {key : String}
    {pending : PendingSellContext} (hlookup : self.pending.lookup key = some pending)
    {signature : String} (hsignature : pending.intent.signature = some signature)
    (c : ManagerCall) : self.tracksDelivery pending.intent.mint signature c = false := by
  cases c with
  | detect event token features risk position =>
      by_cases htakes : ∃ sell, self.TakesSell event sell
      · obtain ⟨sell, hsell⟩ := htakes
        rw [tracksDelivery_of_takesSell token features risk position hsell]
        simp only [decide_eq_false_iff_not]
        rintro ⟨hmint, hevent, hnone⟩
        have hmatches : pendingMatchesDuplicateSource pending
            (self.intentFor event sell token features position)
            self.earlyIntent.dedupAmountTolerancePct
            self.earlyIntent.dedupSlotTolerance = true := by
          simp [pendingMatchesDuplicateSource, intentFor, intentOf, hmint, hsignature, hevent]
        simp only [duplicatePrimarySource, hdedup, if_true, Option.isNone_map,
          Option.isNone_iff_eq_none, List.find?_eq_none] at hnone
        exact hnone pending ((KeyedMap.mem_values_iff _ _).mpr ⟨key, hlookup⟩) hmatches
      · exact tracksDelivery_of_not_takesSell token features risk position
          fun sell hsell => htakes ⟨sell, hsell⟩
  | reconcile event token => rfl
  | expire freshIds now tokens => rfl

/-- While no sell of its mint is pending, a delivery that the manager takes is new. -/
theorem tracksDelivery_of_no_pending {self : TentativeSellManager} {event : NormalizedEvent}
    {sell : PumpSellEvent} (hsell : self.TakesSell event sell) {signature : String}
    (hsignature : event.signature = some signature)
    (hnone : ∀ pending ∈ self.pending.values, pending.intent.mint ≠ sell.mint)
    (token : TokenState) (features : FeatureSnapshot) (risk : RiskAssessment)
    (position : Option OpenPositionContext) :
    self.tracksDelivery sell.mint signature (.detect event token features risk position) =
      true := by
  have hnew : ∀ pending ∈ self.pending.values, pendingMatchesDuplicateSource pending
      (self.intentFor event sell token features position) self.earlyIntent.dedupAmountTolerancePct
      self.earlyIntent.dedupSlotTolerance = false := by
    intro pending hpending
    have hmint := hnone pending hpending
    rw [← self.mint_intentFor event sell token features position] at hmint
    unfold pendingMatchesDuplicateSource
    rw [if_pos hmint]
  rw [tracksDelivery_of_takesSell token features risk position hsell, decide_eq_true_iff]
  refine ⟨rfl, hsignature, ?_⟩
  unfold duplicatePrimarySource
  split
  · rw [Option.isNone_map, Option.isNone_iff_eq_none, List.find?_eq_none]
    intro pending hpending
    rw [hnew pending hpending]
    exact Bool.false_ne_true
  · rfl

/-- Once the only pending sell of a mint is resolved or expires, both of which settle it, the
next delivery of its transaction is new. -/
theorem tracksDelivery_of_settled {before after : TentativeSellManager} {key : String}
    {pending : PendingSellContext} {resolved : ShredSellIntentResolvedEvent}
    (hsettles : Settles before key pending resolved after)
    (honly : ∀ other context, before.pending.lookup other = some context →
      context.intent.mint = pending.intent.mint → other = key)
    {event : NormalizedEvent} {sell : PumpSellEvent} (hsell : after.TakesSell event sell)
    (hmint : sell.mint = pending.intent.mint) {signature : String}
    (hsignature : event.signature = some signature) (token : TokenState)
    (features : FeatureSnapshot) (risk : RiskAssessment)
    (position : Option OpenPositionContext) :
    after.tracksDelivery sell.mint signature (.detect event token features risk position) =
      true := by
  refine tracksDelivery_of_no_pending hsell hsignature (fun context hcontext hsame => ?_)
    token features risk position
  obtain ⟨other, hlookup⟩ := (KeyedMap.mem_values_iff _ _).mp hcontext
  obtain rfl := honly other context (hsettles.lookup_of_lookup hlookup) (hsame.trans hmint)
  rw [hsettles.pending, AList.lookup_erase] at hlookup
  cases hlookup

/-- In every sequence of calls, the sell of a transaction is warned about at most once and
triggers at most one exit exactly when, after a delivery of it that repeated no pending sell,
every later delivery finds a pending sell to repeat. -/
theorem warned_once_iff (self : TentativeSellManager) (mint : PubkeyValue) (signature : String)
    (cs : List ManagerCall) :
    (warningsFor mint signature (self.calls cs).2 ≤ 1 ∧
        triggersFor mint signature (self.calls cs).2 ≤ 1) ↔
      ∀ before first between late after, cs = before ++ first :: (between ++ late :: after) →
        (self.calls before).1.tracksDelivery mint signature first = true →
          (self.calls (before ++ first :: between)).1.tracksDelivery mint signature late =
            false := by
  obtain ⟨hwarnings, htriggers⟩ := self.counts_calls mint signature cs
  have honce : (warningsFor mint signature (self.calls cs).2 ≤ 1 ∧
      triggersFor mint signature (self.calls cs).2 ≤ 1) ↔
        Runs.occurrences afterCall (fun m c => m.tracksDelivery mint signature c) self cs ≤ 1 := by
    rw [hwarnings]
    omega
  rw [honce, Runs.occurrences_le_one_iff]
  simp only [calls_fst]

/-- A late delivery of a confirmed sell is warned about again. -/
theorem warned_twice :
    ¬ ∀ (earlyIntent : EarlyIntentConfig) (shredExit : ShredExitConfig)
        (stored : Option PersistedShredExitCalibration) (mint : PubkeyValue)
        (signature : String) (cs : List ManagerCall), earlyIntent.deduplicateSources = true →
        warningsFor mint signature ((new earlyIntent shredExit stored).calls cs).2 ≤ 1 ∧
          triggersFor mint signature ((new earlyIntent shredExit stored).calls cs).2 ≤ 1 := by
  intro h
  have htwice : warningsFor ⟨"mint"⟩ "signature" (sampleManager.calls
      [sampleDetection "first" (some "signature") 0,
        .reconcile (sampleSell "second" (some "signature") .confirmed 1) none,
        sampleDetection "third" (some "signature") 2]).2 = 2 := by
    decide +kernel
  have honce := (h { dedupAmountTolerancePct := 5 } { tentativeReconciliationTtlMs := 5000 } none
    ⟨"mint"⟩ "signature"
    [sampleDetection "first" (some "signature") 0,
      .reconcile (sampleSell "second" (some "signature") .confirmed 1) none,
      sampleDetection "third" (some "signature") 2] rfl).1
  have hsample : sampleManager = new { dedupAmountTolerancePct := 5 }
      { tentativeReconciliationTtlMs := 5000 } none := rfl
  rw [← hsample, htwice] at honce
  omega

end TentativeSellManager

end PumpLaunchTrader
