import PumpLaunchTrader.Engine.ShredSignals
import PumpLaunchTrader.ShredExit.Calls

/-! # Flags that outlive their signals

A resolution resets the armed exit and the active ids of its token. The last warning level,
the flag of a triggered exit and the flag of a stale signal stay as the signals left them,
also when the last pending sell of the token is resolved. -/

namespace PumpLaunchTrader

/-! ## Flags and their signals -/

namespace ShredDefenseState

/-- No warning and no exit is recorded. -/
structure Unset (defense : ShredDefenseState) : Prop where
  armedFlag : defense.shredExitArmedFlag = false
  triggeredFlag : defense.shredEmergencyExitTriggeredFlag = false
  staleFlag : defense.shredSignalStaleFlag = false
  warningId : defense.activeWarningEventId = none
  armedId : defense.activeArmedExitEventId = none
  triggeredId : defense.activeTriggeredExitEventId = none
  dangerousSeller : defense.activeDangerousSeller = none
  sellerClassification : defense.activeSellerClassification = none
  lastWarningLevel : defense.lastWarningLevel = none

theorem unset_default : Unset {} := by
  constructor <;> rfl

/-- What no event takes back: a warning level, or the flag of a triggered exit. -/
def Marked (defense : ShredDefenseState) : Prop :=
  defense.lastWarningLevel.isSome = true ∨ defense.shredEmergencyExitTriggeredFlag = true

theorem Unset.not_marked {defense : ShredDefenseState} (h : defense.Unset) :
    ¬ defense.Marked := by
  rintro (hlevel | hflag)
  · rw [h.lastWarningLevel] at hlevel
    cases hlevel
  · rw [h.triggeredFlag] at hflag
    cases hflag

end ShredDefenseState

/-- The event warns of a sell of the mint `k`, or arms or triggers an exit from it. -/
def NormalizedEvent.raisesSignal (event : NormalizedEvent) (k : String) : Prop :=
  event.info.canonicality ≠ .reverted ∧ event.payload.isExitSignal = true ∧
    event.mint.map PubkeyValue.text = some k

namespace TokenState

variable {token : TokenState}

theorem unset_applyTentativeSellIntent (h : token.shredSignals.Unset)
    (payload : TentativeSellIntentDetectedEvent) :
    (token.applyTentativeSellIntent payload).shredSignals.Unset where
  armedFlag := h.armedFlag
  triggeredFlag := h.triggeredFlag
  staleFlag := h.staleFlag
  warningId := h.warningId
  armedId := h.armedId
  triggeredId := h.triggeredId
  dangerousSeller := h.dangerousSeller
  sellerClassification := h.sellerClassification
  lastWarningLevel := h.lastWarningLevel

/-- A resolution resets the armed exit and the active ids; the three other marks stay. -/
theorem applyShredSellResolved_keeps (token : TokenState)
    (payload : ShredSellIntentResolvedEvent) :
    let after := (token.applyShredSellResolved payload).shredSignals
    after.lastWarningLevel = token.shredSignals.lastWarningLevel ∧
      after.shredEmergencyExitTriggeredFlag =
        token.shredSignals.shredEmergencyExitTriggeredFlag ∧
      after.shredSignalStaleFlag = token.shredSignals.shredSignalStaleFlag := by
  unfold applyShredSellResolved countResolution
  cases payload.outcome <;> cases payload.falsePositiveFlag <;> exact ⟨rfl, rfl, rfl⟩

theorem unset_applyShredSellResolved (h : token.shredSignals.Unset)
    (payload : ShredSellIntentResolvedEvent) :
    (token.applyShredSellResolved payload).shredSignals.Unset := by
  obtain ⟨hlevel, htriggered, hstale⟩ := token.applyShredSellResolved_keeps payload
  constructor
  case triggeredFlag => rw [htriggered, h.triggeredFlag]
  case staleFlag => rw [hstale, h.staleFlag]
  case lastWarningLevel => rw [hlevel, h.lastWarningLevel]
  all_goals rfl

theorem marked_applyTentativeSellWarning (token : TokenState)
    (payload : TentativeMaliciousSellWarningEvent) :
    (token.applyTentativeSellWarning payload).shredSignals.Marked := by
  left
  unfold applyTentativeSellWarning countWarningClass
  cases payload.sellerClassification <;> rfl

theorem marked_applyShredSellResolved (h : token.shredSignals.Marked)
    (payload : ShredSellIntentResolvedEvent) :
    (token.applyShredSellResolved payload).shredSignals.Marked := by
  obtain ⟨hlevel, htriggered, -⟩ := token.applyShredSellResolved_keeps payload
  unfold ShredDefenseState.Marked
  rw [hlevel, htriggered]
  exact h

end TokenState

namespace StateEngine

/-- An event that raises no signal of `k` keeps its flags unset. -/
theorem unset_applyEvent {s : StateEngine} {event : NormalizedEvent} {k : String}
    (h : ¬ event.raisesSignal k) (hs : (s.shredSignals k).Unset) :
    ((s.applyEvent event).1.shredSignals k).Unset := by
  rcases s.shredSignals_applyEvent event k with
    hsame | ⟨hreverted, f, mint, token, hhandler, hmint, hk, hsignal, htoken, hafter⟩
  · rw [hsame]
    exact hs
  · rw [← htoken] at hs
    rw [hafter]
    cases handles_of_handler hhandler with
    | tentativeSellIntentDetected _ => exact TokenState.unset_applyTentativeSellIntent hs _
    | shredSellIntentResolved _ => exact TokenState.unset_applyShredSellResolved hs _
    | tentativeMaliciousSellWarning hpayload | shredEmergencyExitArmed hpayload
    | shredEmergencyExitTriggered hpayload =>
        refine absurd ⟨hreverted, ?_, ?_⟩ h
        · rw [hpayload]
          rfl
        · rw [hmint, Option.map_some, hk]
    | tokenCreated hpayload | pumpBuy hpayload | pumpSell hpayload _
    | bondingCurveUpdate hpayload | holderBalanceUpdate hpayload =>
        rw [hpayload] at hsignal
        cases hsignal

/-- A mark stays through every event. -/
theorem marked_applyEvent {s : StateEngine} {k : String} (hs : (s.shredSignals k).Marked)
    (event : NormalizedEvent) : ((s.applyEvent event).1.shredSignals k).Marked := by
  rcases s.shredSignals_applyEvent event k with
    hsame | ⟨-, f, mint, token, hhandler, -, -, hsignal, htoken, hafter⟩
  · rw [hsame]
    exact hs
  · rw [← htoken] at hs
    rw [hafter]
    cases handles_of_handler hhandler with
    | tentativeSellIntentDetected _ => exact hs
    | tentativeMaliciousSellWarning _ => exact token.marked_applyTentativeSellWarning _
    | shredEmergencyExitArmed _ => exact Or.inl rfl
    | shredEmergencyExitTriggered _ => exact Or.inr rfl
    | shredSellIntentResolved _ => exact TokenState.marked_applyShredSellResolved hs _
    | tokenCreated hpayload | pumpBuy hpayload | pumpSell hpayload _
    | bondingCurveUpdate hpayload | holderBalanceUpdate hpayload =>
        rw [hpayload] at hsignal
        cases hsignal

/-- An event that raises a signal of `k` marks it. -/
theorem marked_of_raisesSignal (s : StateEngine) {event : NormalizedEvent} {k : String}
    (h : event.raisesSignal k) : ((s.applyEvent event).1.shredSignals k).Marked := by
  obtain ⟨hreverted, hexit, hmint⟩ := h
  rw [Option.map_eq_some_iff] at hmint
  obtain ⟨mint, hmint, rfl⟩ := hmint
  have hof : ∀ f, s.handler event = some f → (∀ token, (f token).shredSignals.Marked) →
      ((s.applyEvent event).1.shredSignals mint.text).Marked := by
    intro f hhandler hmarked
    rw [shredSignals_applyEvent_of_handler hhandler hmint hreverted, if_pos rfl]
    exact hmarked _
  cases hpayload : event.payload with
  | tentativeMaliciousSellWarning payload =>
      apply hof fun token => token.applyTentativeSellWarning payload
      · simp [handler, hpayload]
      · exact fun token => token.marked_applyTentativeSellWarning payload
  | shredEmergencyExitArmed payload =>
      apply hof fun token => token.applyShredExitArmed payload
      · simp [handler, hpayload]
      · exact fun _ => Or.inl rfl
  | shredEmergencyExitTriggered payload =>
      apply hof fun token => token.applyShredExitTriggered payload
      · simp [handler, hpayload]
      · exact fun _ => Or.inr rfl
  | tokenCreated payload | pumpBuy payload | pumpSell payload | bondingCurveUpdate payload
  | holderBalanceUpdate payload | walletFunding payload | observedTransaction payload
  | tentativeSellIntentDetected payload | shredSellIntentResolved payload
  | tokenTerminal payload | tradeDecision payload | simulatedFill payload | liveFill payload
  | dataGap payload =>
      rw [hpayload] at hexit
      cases hexit

/-! ## Runs -/

theorem unset_applyEvents {s : StateEngine} {events : List NormalizedEvent} {k : String}
    (h : ∀ event ∈ events, ¬ event.raisesSignal k) (hs : (s.shredSignals k).Unset) :
    ((s.applyEvents events).shredSignals k).Unset := by
  induction events generalizing s with
  | nil => exact hs
  | cons event events ih =>
      rw [List.forall_mem_cons] at h
      exact ih h.2 (unset_applyEvent h.1 hs)

theorem marked_applyEvents {s : StateEngine} {k : String} (hs : (s.shredSignals k).Marked)
    (events : List NormalizedEvent) : ((s.applyEvents events).shredSignals k).Marked := by
  induction events generalizing s with
  | nil => exact hs
  | cons event events ih => exact ih (marked_applyEvent hs event)

theorem marked_of_mem (s : StateEngine) {events : List NormalizedEvent}
    {event : NormalizedEvent} {k : String} (hmem : event ∈ events) (h : event.raisesSignal k) :
    ((s.applyEvents events).shredSignals k).Marked := by
  obtain ⟨before, after, rfl⟩ := List.append_of_mem hmem
  rw [applyEvents_append, applyEvents_cons]
  exact marked_applyEvents (marked_of_raisesSignal _ h) after

/-- The flags of a token are unset exactly when no event of the run warned of a sell of it,
or armed or triggered an exit. -/
theorem unset_iff_no_signal (ttl : TtlConfig) (events : List NormalizedEvent) (k : String)
    {token : TokenState} (htoken : ((new ttl).applyEvents events).tokens.lookup k = some token) :
    token.shredDefense.Unset ↔ ∀ event ∈ events, ¬ event.raisesSignal k := by
  have hsignals := shredSignals_of_lookup htoken
  constructor
  · intro hunset event hmem hraises
    have hmarked := marked_of_mem (new ttl) hmem hraises
    rw [hsignals] at hmarked
    exact hunset.not_marked hmarked
  · intro hnone
    have hunset := unset_applyEvents (s := new ttl) hnone ShredDefenseState.unset_default
    rw [hsignals] at hunset
    exact ⟨hunset.armedFlag, hunset.triggeredFlag, hunset.staleFlag, hunset.warningId,
      hunset.armedId, hunset.triggeredId, hunset.dangerousSeller, hunset.sellerClassification,
      hunset.lastWarningLevel⟩

/-- Once every tentative sell of a token is resolved, its flags are unset exactly when none
of them was ever warned about and no exit was armed or triggered. -/
theorem resolved_unset_iff (ttl : TtlConfig) (events : List NormalizedEvent) (k : String)
    (token : TokenState) (htoken : ((new ttl).applyEvents events).tokens.lookup k = some token) :
    (token.shredDefense.pendingTentativeSells = ∅ → token.shredDefense.Unset) ↔
      (token.shredDefense.pendingTentativeSells = ∅ →
        ∀ event ∈ events, ¬ event.raisesSignal k) :=
  imp_congr_right fun _ => unset_iff_no_signal ttl events k htoken

/-- The manager's events for a tentative sell that its canonical sell confirms. -/
def confirmedSellEvents : List NormalizedEvent :=
  (TentativeSellManager.sampleManager.calls
    [sampleDetection "first" (some "signature") 0,
      .reconcile (sampleSell "second" (some "signature") .confirmed 1) none]).2

/-- The token of the confirmed sell. -/
def confirmedSellToken : TokenState :=
  (((new sampleTtl).applyEvents confirmedSellEvents).tokens.lookup "mint").get
    (by decide +kernel)

theorem resolved_unset_iff_confirmedSell :
    (confirmedSellToken.shredDefense.pendingTentativeSells = ∅ →
        confirmedSellToken.shredDefense.Unset) ↔
      (confirmedSellToken.shredDefense.pendingTentativeSells = ∅ →
        ∀ event ∈ confirmedSellEvents, ¬ event.raisesSignal "mint") :=
  resolved_unset_iff sampleTtl confirmedSellEvents "mint" confirmedSellToken
    (Option.some_get _).symm

/-- The warning level of a confirmed sell stays on its token. -/
theorem resolved_unset_fails :
    ¬ ∀ (ttl : TtlConfig) (events : List NormalizedEvent) (k : String) (token : TokenState),
        ((new ttl).applyEvents events).tokens.lookup k = some token →
        token.shredDefense.pendingTentativeSells = ∅ → token.shredDefense.Unset := by
  intro h
  have hlookup : ((new sampleTtl).applyEvents confirmedSellEvents).tokens.lookup "mint" =
      some confirmedSellToken := (Option.some_get _).symm
  have hentries : confirmedSellToken.shredDefense.pendingTentativeSells.entries.isEmpty = true := by
    decide +kernel
  have hempty : confirmedSellToken.shredDefense.pendingTentativeSells = ∅ :=
    AList.ext (List.isEmpty_iff.mp hentries)
  have hunset := h sampleTtl confirmedSellEvents "mint" confirmedSellToken hlookup hempty
  have hmarked : confirmedSellToken.shredDefense.lastWarningLevel.isSome = true := by
    decide +kernel
  rw [hunset.lastWarningLevel] at hmarked
  cases hmarked

end StateEngine

end PumpLaunchTrader
