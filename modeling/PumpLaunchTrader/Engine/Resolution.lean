import PumpLaunchTrader.Engine.Step

/-! # Resolving one of several tentative sells

The active-signal fields of a token are shared by all its tentative sells, and a
resolution resets them for whichever sell it resolves. -/

namespace PumpLaunchTrader

/-- An exit is armed or triggered by the tentative event `id`. -/
def ShredDefenseState.exitActiveFor (defense : ShredDefenseState) (id : String) : Prop :=
  defense.activeArmedExitEventId = some id ∨ defense.activeTriggeredExitEventId = some id

/-- Everything recorded for the tentative event `id` in `before` is still there in `after`. -/
structure SignalKept (id : String) (before after : ShredDefenseState) : Prop where
  armedFlag : after.shredExitArmedFlag = before.shredExitArmedFlag
  armedId : before.activeArmedExitEventId = some id → after.activeArmedExitEventId = some id
  triggeredId :
    before.activeTriggeredExitEventId = some id → after.activeTriggeredExitEventId = some id
  warningId : before.activeWarningEventId = some id → after.activeWarningEventId = some id
  dangerousSeller : after.activeDangerousSeller = before.activeDangerousSeller
  latencyAdvantage : after.earlyIntentLatencyAdvantageMs = before.earlyIntentLatencyAdvantageMs
  requiredLatency : after.requiredLatencyAdvantageMs = before.requiredLatencyAdvantageMs
  latencyEdge : after.latencyEdgeRatio = before.latencyEdgeRatio
  canLand : after.exitCanLandBeforeEstimatedImpact = before.exitCanLandBeforeEstimatedImpact
  savedLoss : after.emergencyExitExpectedSavedLoss = before.emergencyExitExpectedSavedLoss
  opportunityCost :
    after.emergencyExitExpectedOpportunityCost = before.emergencyExitExpectedOpportunityCost
  netBenefit : after.emergencyExitNetBenefit = before.emergencyExitNetBenefit
  netBenefitConfidence :
    after.emergencyExitNetBenefitConfidence = before.emergencyExitNetBenefitConfidence

theorem SignalKept.refl (id : String) (defense : ShredDefenseState) :
    SignalKept id defense defense where
  armedFlag := rfl
  armedId h := h
  triggeredId h := h
  warningId h := h
  dangerousSeller := rfl
  latencyAdvantage := rfl
  requiredLatency := rfl
  latencyEdge := rfl
  canLand := rfl
  savedLoss := rfl
  opportunityCost := rfl
  netBenefit := rfl
  netBenefitConfidence := rfl

/-- No active exit survives a state without active ids. -/
theorem SignalKept.not_of_cleared {id : String} {before after : ShredDefenseState}
    (hactive : before.exitActiveFor id) (harmed : after.activeArmedExitEventId = none)
    (htriggered : after.activeTriggeredExitEventId = none) : ¬ SignalKept id before after := by
  intro hkept
  rcases hactive with h | h
  · have hid := hkept.armedId h
    rw [harmed] at hid
    cases hid
  · have hid := hkept.triggeredId h
    rw [htriggered] at hid
    cases hid

namespace StateEngine

/-- A resolution rewrites the core of the token of its mint only. -/
theorem core_applyEvent_resolved (s : StateEngine) {event : NormalizedEvent}
    {payload : ShredSellIntentResolvedEvent}
    (hevent : event.payload = .shredSellIntentResolved payload)
    (hcanonicality : event.info.canonicality ≠ .reverted) (k : String) :
    ((s.applyEvent event).1.tokens.lookup k).map TokenState.core =
      if k = payload.mint.text then
        some (((s.tokens.lookup k).getD
          (TokenState.new payload.mint event.info.source)).applyShredSellResolved payload).core
      else (s.tokens.lookup k).map TokenState.core := by
  have hhandler : s.handler event =
      some fun token => token.applyShredSellResolved payload := by
    simp [handler, hevent]
  have hmint : event.mint = some payload.mint := by
    simp [NormalizedEvent.mint, hevent]
  exact core_applyEvent_of_mint hhandler hmint hcanonicality k

/-- The token of a resolution after it: the active ids are gone. -/
theorem applyEvent_resolved_clears {s : StateEngine} {event : NormalizedEvent}
    {payload : ShredSellIntentResolvedEvent}
    (hevent : event.payload = .shredSellIntentResolved payload)
    (hcanonicality : event.info.canonicality ≠ .reverted) {after : TokenState}
    (hafter : (s.applyEvent event).1.tokens.lookup payload.mint.text = some after) :
    after.shredDefense.activeArmedExitEventId = none ∧
      after.shredDefense.activeTriggeredExitEventId = none := by
  have hcore := s.core_applyEvent_resolved hevent hcanonicality payload.mint.text
  rw [hafter, if_pos rfl, Option.map_some, Option.some.injEq] at hcore
  have hdefense := congrArg TokenState.shredDefense hcore
  exact ⟨congrArg ShredDefenseState.activeArmedExitEventId hdefense,
    congrArg ShredDefenseState.activeTriggeredExitEventId hdefense⟩

/-- A resolution for another mint leaves the core of a token alone. -/
theorem core_applyEvent_resolved_of_ne (s : StateEngine) {event : NormalizedEvent}
    {payload : ShredSellIntentResolvedEvent}
    (hevent : event.payload = .shredSellIntentResolved payload)
    (hcanonicality : event.info.canonicality ≠ .reverted) {k : String}
    (hk : payload.mint.text ≠ k) :
    ((s.applyEvent event).1.tokens.lookup k).map TokenState.core =
      (s.tokens.lookup k).map TokenState.core := by
  rw [s.core_applyEvent_resolved hevent hcanonicality, if_neg]
  exact fun he => hk he.symm

/-- Whichever tentative sell it resolves, a resolution keeps what is recorded for an exit of
`b` exactly when it is a reverted event or one for another mint. -/
theorem signalKept_applyEvent_iff (s : StateEngine) (k b : String) (token : TokenState)
    (event : NormalizedEvent) (payload : ShredSellIntentResolvedEvent)
    (htoken : s.tokens.lookup k = some token) (hactive : token.shredDefense.exitActiveFor b)
    (hevent : event.payload = .shredSellIntentResolved payload) :
    (∃ after, (s.applyEvent event).1.tokens.lookup k = some after ∧
        SignalKept b token.shredDefense after.shredDefense) ↔
      event.info.canonicality = .reverted ∨ payload.mint.text ≠ k := by
  by_cases hcanonicality : event.info.canonicality = .reverted
  · rw [tokens_applyEvent_of_reverted hcanonicality]
    exact ⟨fun _ => Or.inl hcanonicality, fun _ => ⟨token, htoken, SignalKept.refl _ _⟩⟩
  · by_cases hk : payload.mint.text = k
    · subst hk
      constructor
      · rintro ⟨after, hafter, hkept⟩
        obtain ⟨harmed, htriggered⟩ := applyEvent_resolved_clears hevent hcanonicality hafter
        exact absurd hkept (SignalKept.not_of_cleared hactive harmed htriggered)
      · rintro (h | h)
        · exact absurd h hcanonicality
        · exact absurd rfl h
    · have hcore := s.core_applyEvent_resolved_of_ne hevent hcanonicality hk
      rw [htoken, Option.map_some, Option.map_eq_some_iff] at hcore
      obtain ⟨after, hafter, hsame⟩ := hcore
      refine ⟨fun _ => Or.inr hk, fun _ => ⟨after, hafter, ?_⟩⟩
      have hdefense := congrArg TokenState.shredDefense hsame
      simp only [TokenState.core, ShredDefenseState.mk.injEq] at hdefense
      constructor <;> simp [hdefense]

/-! ## Two pending sells of one token -/

/-- An exit armed by the tentative event `b`. -/
def armedByB : NormalizedEvent :=
  { info :=
      { eventId := ⟨"armed"⟩
        source := .shredTentative
        canonicality := .tentative
        slot := 20 }
    payload := .shredEmergencyExitArmed
      { mint := ⟨"mint"⟩
        positionId := "position"
        triggerEventId := ⟨"b"⟩
        sellerWallet := ⟨"whale"⟩
        sellerClassification := .whale
        riskLevel := .exitArmed
        estimatedImpactPct := 20
        confidence := 9 / 10
        plannedExitSize := 1
        plannedExitReason := "whale sell"
        source := .rawShred
        expiresAt := Duration.seconds 5
        cancelConditions := []
        escalationConditions := [] } }

def resolutionOfA : ShredSellIntentResolvedEvent :=
  { originalTentativeEventId := ⟨"a"⟩
    canonicalSignature := none
    outcome := .notSeenWithinTtl
    observedCanonicalSlot := none
    actualPriceImpactPct := 0
    actualQuoteOut := 0
    actualTokenIn := 0
    actualLossSavedIfExited := 0
    falsePositiveFlag := true
    missedExitFlag := false
    reconciliationLatencyMs := none
    source := .rawShred
    mint := ⟨"mint"⟩
    sellerWallet := ⟨"other"⟩
    sellerClassification := .unknown
    confirmationState := .notSeenWithinTtl
    confirmationMethod := none }

/-- The tentative event `a` was not seen within its time to live. -/
def resolvedA : NormalizedEvent :=
  { info :=
      { eventId := ⟨"resolved"⟩
        source := .shredTentative
        canonicality := .tentative
        slot := 21 }
    payload := .shredSellIntentResolved resolutionOfA }

/-- The token while its exit is armed by `b`. -/
def tokenArmedByB : TokenState :=
  (((new sampleTtl).applyEvents [armedByB]).tokens.lookup "mint").get (by decide +kernel)

theorem signalKept_applyEvent_armedByB :
    (∃ after, (((new sampleTtl).applyEvents [armedByB]).applyEvent resolvedA).1.tokens.lookup
        "mint" = some after ∧
          SignalKept "b" tokenArmedByB.shredDefense after.shredDefense) ↔
      resolvedA.info.canonicality = .reverted ∨ resolutionOfA.mint.text ≠ "mint" :=
  signalKept_applyEvent_iff ((new sampleTtl).applyEvents [armedByB]) "mint" "b" tokenArmedByB
    resolvedA resolutionOfA (Option.some_get _).symm (Or.inl (by decide +kernel)) rfl

/-- Resolving `a` disarms the exit of `b`. -/
theorem signalKept_applyEvent_disarmed :
    ¬ ∀ (ttl : TtlConfig) (events : List NormalizedEvent) (k b : String) (token : TokenState)
        (event : NormalizedEvent) (payload : ShredSellIntentResolvedEvent),
        ((new ttl).applyEvents events).tokens.lookup k = some token →
        token.shredDefense.exitActiveFor b →
        event.payload = .shredSellIntentResolved payload →
        payload.originalTentativeEventId.uuid ≠ b →
        ∃ after, (((new ttl).applyEvents events).applyEvent event).1.tokens.lookup k =
          some after ∧ SignalKept b token.shredDefense after.shredDefense := by
  intro h
  have hlookup : ((new sampleTtl).applyEvents [armedByB]).tokens.lookup "mint" =
      some tokenArmedByB := (Option.some_get _).symm
  have harmed : tokenArmedByB.shredDefense.activeArmedExitEventId = some "b" := by
    decide +kernel
  obtain ⟨after, hafter, hkept⟩ := h sampleTtl [armedByB] "mint" "b" tokenArmedByB resolvedA
    resolutionOfA hlookup (Or.inl harmed) rfl (by decide)
  have hcleared : ((((new sampleTtl).applyEvents [armedByB]).applyEvent resolvedA).1.tokens.lookup
      "mint").map (fun token => token.shredDefense.activeArmedExitEventId) = some none := by
    decide +kernel
  rw [hafter, Option.map_some, hkept.armedId harmed] at hcleared
  cases hcleared

end StateEngine

end PumpLaunchTrader
