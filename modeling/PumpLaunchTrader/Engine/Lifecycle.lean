import PumpLaunchTrader.Engine.Step

/-! # The lifecycles that tokens reach

No event moves a token to `TradeCandidate`, `InPosition` or `ExitPending`: terminals, data
gaps and activity all have targets of their own, and the handlers leave the lifecycle
alone. -/

namespace PumpLaunchTrader

/-- The lifecycles that describe trading. -/
def TokenLifecycle.isTrading : TokenLifecycle → Bool
  | .tradeCandidate | .inPosition | .exitPending => true
  | _ => false

namespace TokenState

/-- The token is in none of the trading lifecycles. -/
def Untraded (token : TokenState) : Prop := token.lifecycle.isTrading = false

theorem untraded_new (mint : PubkeyValue) (source : EventSource) :
    (TokenState.new mint source).Untraded := rfl

/-- Two tokens of the same lifecycle are untraded alike. -/
theorem Untraded.of_lifecycle {token next : TokenState} (h : token.Untraded)
    (hsame : next.lifecycle = token.lifecycle) : next.Untraded := by
  unfold Untraded at h ⊢
  rw [hsame]
  exact h

/-! ## Lifecycle moves -/

theorem Untraded.transitionToken {token : TokenState} (h : token.Untraded)
    {target : TokenLifecycle} (htarget : target.isTrading = false) (reason : String)
    (observedAt : OffsetDateTime) (ttl : Duration) :
    (transitionToken token target reason observedAt ttl).1.Untraded := by
  unfold PumpLaunchTrader.transitionToken
  split
  · exact h
  · exact htarget

theorem isTrading_terminalLifecycle (variant : TokenTerminalVariant) :
    (terminalLifecycle variant).isTrading = false := by
  cases variant <;> rfl

theorem isTrading_activityTarget (token : TokenState) :
    token.activityTarget.isTrading = false := by
  simp only [activityTarget]
  split_ifs <;> rfl

theorem Untraded.applyTerminal {token : TokenState} (h : token.Untraded)
    (payload : TokenTerminalEvent) (event : NormalizedEvent) (ttl : TtlConfig) :
    (token.applyTerminal payload event ttl).Untraded :=
  h.transitionToken (isTrading_terminalLifecycle _) _ _ _

theorem Untraded.applyDataGap {token : TokenState} (h : token.Untraded)
    (event : NormalizedEvent) (ttl : TtlConfig) : (token.applyDataGap event ttl).Untraded := by
  have hflagged : Untraded
      { token with dataQualityFlags := insert "data_gap" token.dataQualityFlags } := h
  exact hflagged.transitionToken rfl _ _ _

theorem Untraded.recomputeTransition {token : TokenState} (h : token.Untraded)
    (event : NormalizedEvent) (ttl : TtlConfig) :
    (token.recomputeTransition event ttl).1.Untraded :=
  kept_recomputeTransition h (h.transitionToken (isTrading_activityTarget token) _ _ _)
    fun _ _ _ hmoved => hmoved

/-! ## Handlers -/

theorem lifecycle_recordSignature (token : TokenState) (event : NormalizedEvent) :
    (token.recordSignature event).lifecycle = token.lifecycle :=
  field_recordSignature (fun _ _ _ _ => rfl) token event

theorem lifecycle_applyTokenCreated (token : TokenState) (payload : TokenCreatedEvent)
    (event : NormalizedEvent) (ttl : TtlConfig) :
    (token.applyTokenCreated payload event ttl).lifecycle = token.lifecycle := by
  simp only [applyTokenCreated, updateMemoryBytes, lifecycle_recordSignature, renewExpiry]

theorem lifecycle_applyBuy (token : TokenState) (payload : PumpBuyEvent)
    (event : NormalizedEvent) (observation : TradeObservation) (ttl : TtlConfig) :
    (token.applyBuy payload event observation ttl).lifecycle = token.lifecycle := by
  simp only [applyBuy, updateMemoryBytes, renewExpiry, applyTrade, lifecycle_recordSignature]

theorem lifecycle_applySell (token : TokenState) (payload : PumpSellEvent)
    (event : NormalizedEvent) (observation : TradeObservation) (ttl : TtlConfig) :
    (token.applySell payload event observation ttl).lifecycle = token.lifecycle := by
  simp only [applySell, updateMemoryBytes, renewExpiry, applyTrade, lifecycle_recordSignature]

theorem lifecycle_applyCurveUpdate (token : TokenState) (payload : BondingCurveUpdateEvent)
    (event : NormalizedEvent) :
    (token.applyCurveUpdate payload event).lifecycle = token.lifecycle := by
  simp only [applyCurveUpdate]
  split <;> rfl

end TokenState

namespace StateEngine

/-- A handler leaves the lifecycle alone. -/
theorem lifecycle_handler {s : StateEngine} {event : NormalizedEvent}
    {f : TokenState → TokenState} (h : s.handler event = some f) (token : TokenState) :
    (f token).lifecycle = token.lifecycle := by
  cases handles_of_handler h with
  | tokenCreated _ => exact token.lifecycle_applyTokenCreated _ event s.ttl
  | pumpBuy _ => exact token.lifecycle_applyBuy _ event _ s.ttl
  | pumpSell _ _ => exact token.lifecycle_applySell _ event _ s.ttl
  | bondingCurveUpdate _ => exact token.lifecycle_applyCurveUpdate _ event
  | holderBalanceUpdate _ | tentativeSellIntentDetected _ | tentativeMaliciousSellWarning _
  | shredEmergencyExitArmed _ | shredEmergencyExitTriggered _ | shredSellIntentResolved _ => rfl

theorem lifecycle_derivedRefresh (s : StateEngine) (event : NormalizedEvent) (k : String)
    (token : TokenState) : (s.derivedRefresh event k token).lifecycle = token.lifecycle :=
  field_derivedRefresh (fun _ _ => rfl) (fun _ _ _ => rfl) s event k token

/-! ## Runs -/

/-- Every token is untraded. -/
def AllUntraded (s : StateEngine) : Prop :=
  ∀ k token, s.tokens.lookup k = some token → token.Untraded

theorem keptByEvents_untraded : KeptByEvents TokenState.Untraded where
  new := TokenState.untraded_new
  handled hhandler _ _ h := (h.of_lifecycle (lifecycle_handler hhandler _)).of_lifecycle
    (lifecycle_derivedRefresh _ _ _ _)
  refreshed h s event k := h.of_lifecycle (lifecycle_derivedRefresh s event k _)
  terminal h := h.applyTerminal
  gap h := h.applyDataGap
  recomputed h := h.recomputeTransition

theorem allUntraded_reachable (ttl : TtlConfig) (events : List NormalizedEvent) :
    ((new ttl).applyEvents events).AllUntraded :=
  fun _ _ hlookup => keptByEvents_untraded.reachable ttl events hlookup

end StateEngine

/-- A position is never what the lifecycle of a token says. -/
theorem TokenState.Untraded.lifecycle_ne_inPosition {token : TokenState} (h : token.Untraded) :
    token.lifecycle ≠ .inPosition := by
  intro hlifecycle
  unfold Untraded at h
  rw [hlifecycle] at h
  exact absurd h (by decide)

end PumpLaunchTrader
