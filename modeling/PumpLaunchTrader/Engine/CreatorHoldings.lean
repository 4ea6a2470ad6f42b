import PumpLaunchTrader.Engine.Redelivery

/-! # The holdings of a creator

Buys, sells and balance updates move the present holding of a creator, and each of them keeps
it below the largest one. The share that a creator has sold is therefore a fraction. -/

namespace PumpLaunchTrader

/-- A trade has no negative amount of tokens. -/
def NormalizedEvent.TokensNonNegative (event : NormalizedEvent) : Prop :=
  match event.payload with
  | .pumpBuy payload => 0 ≤ payload.tokenOut
  | .pumpSell payload => 0 ≤ payload.tokenIn
  | _ => True

namespace TokenState

/-- The holding of the creator is at most the largest one that was seen. -/
structure HoldingsOrdered (token : TokenState) : Prop where
  initial : 0 ≤ token.developerState.creatorInitialHolding
  net : token.developerState.creatorNetTokens ≤ token.developerState.creatorInitialHolding

theorem HoldingsOrdered.of_developerState {token other : TokenState} (h : token.HoldingsOrdered)
    (hdeveloper : other.developerState = token.developerState) : other.HoldingsOrdered where
  initial := by
    rw [hdeveloper]
    exact h.initial
  net := by
    rw [hdeveloper]
    exact h.net

theorem holdingsOrdered_new (mint : PubkeyValue) (source : EventSource) :
    (new mint source).HoldingsOrdered := ⟨le_rfl, le_rfl⟩

theorem holdingsOrdered_core {token : TokenState} :
    token.core.HoldingsOrdered ↔ token.HoldingsOrdered :=
  ⟨fun h => ⟨h.initial, h.net⟩, fun h => ⟨h.initial, h.net⟩⟩

theorem developerState_recordSignature (token : TokenState) (event : NormalizedEvent) :
    (token.recordSignature event).developerState = token.developerState :=
  field_recordSignature (fun _ _ _ _ => rfl) token event

/-! ## Handlers -/

variable {token : TokenState} (h : token.HoldingsOrdered)

include h

theorem HoldingsOrdered.applyTokenCreated (payload : TokenCreatedEvent) (event : NormalizedEvent)
    (ttl : TtlConfig) : (token.applyTokenCreated payload event ttl).HoldingsOrdered := by
  apply h.of_developerState
  simp only [TokenState.applyTokenCreated, updateMemoryBytes, developerState_recordSignature,
    renewExpiry]

/-- A buy of the creator raises both holdings. -/
theorem HoldingsOrdered.applyBuy (payload : PumpBuyEvent) (event : NormalizedEvent)
    (observation : TradeObservation) (ttl : TtlConfig) :
    (token.applyBuy payload event observation ttl).HoldingsOrdered := by
  by_cases hcreator : payload.isCreator ∨ token.creator = some payload.buyer
  · constructor
    · simp only [TokenState.applyBuy, updateMemoryBytes, renewExpiry, applyTrade, hcreator,
        decide_true, if_true, developerState_recordSignature]
      exact h.initial.trans (le_max_left _ _)
    · simp only [TokenState.applyBuy, updateMemoryBytes, renewExpiry, applyTrade, hcreator,
        decide_true, if_true, developerState_recordSignature]
      exact le_max_right _ _
  · apply h.of_developerState
    simp only [TokenState.applyBuy, updateMemoryBytes, renewExpiry, applyTrade, hcreator,
      decide_false, Bool.false_eq_true, if_false, developerState_recordSignature]

/-- A sell of the creator first raises the largest holding to the present one. -/
theorem HoldingsOrdered.applySell {payload : PumpSellEvent} (hpayload : 0 ≤ payload.tokenIn)
    (event : NormalizedEvent) (observation : TradeObservation) (ttl : TtlConfig) :
    (token.applySell payload event observation ttl).HoldingsOrdered := by
  by_cases hcreator : payload.isCreator ∨ token.creator = some payload.seller
  · constructor
    · simp only [TokenState.applySell, updateMemoryBytes, renewExpiry, applyTrade, hcreator,
        decide_true, if_true, developerState_recordSignature]
      exact h.initial.trans (le_max_left _ _)
    · simp only [TokenState.applySell, updateMemoryBytes, renewExpiry, applyTrade, hcreator,
        decide_true, if_true, developerState_recordSignature]
      exact (sub_le_self _ hpayload).trans (le_max_right _ _)
  · apply h.of_developerState
    simp only [TokenState.applySell, updateMemoryBytes, renewExpiry, applyTrade, hcreator,
      decide_false, Bool.false_eq_true, if_false, developerState_recordSignature]

/-- A balance of the creator, also a negative one, is at most the larger of itself and the
largest holding. -/
theorem HoldingsOrdered.applyHolderUpdate (payload : HolderBalanceUpdateEvent)
    (event : NormalizedEvent) : (token.applyHolderUpdate payload event).HoldingsOrdered := by
  have hdeveloper : 0 ≤ (token.holderUpdateDeveloper payload).creatorInitialHolding ∧
      (token.holderUpdateDeveloper payload).creatorNetTokens ≤
        (token.holderUpdateDeveloper payload).creatorInitialHolding := by
    unfold holderUpdateDeveloper
    split
    · exact ⟨h.initial.trans (le_max_left _ _), le_max_right _ _⟩
    · exact ⟨h.initial, h.net⟩
  exact ⟨hdeveloper.1, hdeveloper.2⟩

theorem HoldingsOrdered.applyCurveUpdate (payload : BondingCurveUpdateEvent)
    (event : NormalizedEvent) : (token.applyCurveUpdate payload event).HoldingsOrdered := by
  apply h.of_developerState
  unfold TokenState.applyCurveUpdate
  simp only
  split <;> rfl

theorem HoldingsOrdered.handled {s : StateEngine} {event : NormalizedEvent}
    {f : TokenState → TokenState} (hhandler : s.handler event = some f)
    (hevent : event.TokensNonNegative) : (f token).HoldingsOrdered := by
  cases StateEngine.handles_of_handler hhandler with
  | tokenCreated hpayload => exact h.applyTokenCreated _ _ _
  | pumpBuy hpayload => exact h.applyBuy _ _ _ _
  | pumpSell hpayload htentative =>
      rw [NormalizedEvent.TokensNonNegative, hpayload] at hevent
      exact h.applySell hevent _ _ _
  | bondingCurveUpdate hpayload => exact h.applyCurveUpdate _ _
  | holderBalanceUpdate hpayload => exact h.applyHolderUpdate _ _
  | tentativeSellIntentDetected hpayload | tentativeMaliciousSellWarning hpayload
  | shredEmergencyExitArmed hpayload | shredEmergencyExitTriggered hpayload
  | shredSellIntentResolved hpayload => exact h.of_developerState rfl

/-- The share that a creator has sold is a fraction. -/
theorem HoldingsOrdered.soldShare :
    0 ≤ creatorSoldShare token.developerState ∧ creatorSoldShare token.developerState ≤ 1 := by
  unfold creatorSoldShare
  split
  · rename_i hpositive
    have hheld : max token.developerState.creatorNetTokens 0 ≤
        token.developerState.creatorInitialHolding := max_le h.net h.initial
    constructor
    · exact div_nonneg (sub_nonneg.mpr hheld) hpositive.le
    · rw [div_le_one hpositive]
      exact sub_le_self _ (le_max_right _ _)
  · exact ⟨le_rfl, zero_le_one⟩

end TokenState

namespace StateEngine

/-! ## Runs -/

/-- The holdings of every creator are ordered. -/
def AllHoldingsOrdered (s : StateEngine) : Prop :=
  ∀ k token, s.tokens.lookup k = some token → token.HoldingsOrdered

theorem allHoldingsOrdered_applyEvent {s : StateEngine} (h : s.AllHoldingsOrdered)
    {event : NormalizedEvent} (hevent : event.TokensNonNegative) :
    (s.applyEvent event).1.AllHoldingsOrdered := by
  intro k token hlookup
  by_cases hreverted : event.info.canonicality = .reverted
  · rw [tokens_applyEvent_of_reverted hreverted] at hlookup
    exact h k token hlookup
  · have hsame : ∀ before : Option TokenState, before.map TokenState.core = some token.core →
        (∀ old ∈ before, old.HoldingsOrdered) → token.HoldingsOrdered := by
      intro before hcore hold
      obtain ⟨old, hmem, heq⟩ := Option.map_eq_some_iff.mp hcore
      rw [← TokenState.holdingsOrdered_core, ← heq, TokenState.holdingsOrdered_core]
      exact hold old hmem
    cases hhandler : s.handler event with
    | none =>
        have hcore := core_applyEvent_of_no_handler hhandler hreverted k
        rw [hlookup, Option.map_some] at hcore
        exact hsame _ hcore.symm fun old hold => h k old hold
    | some f =>
        obtain ⟨mint, -, htokens⟩ := core_applyEvent_of_handler hhandler hreverted
        have hcore := htokens k
        rw [hlookup, Option.map_some] at hcore
        split at hcore
        · refine hsame (some _) hcore.symm fun old hold => ?_
          rw [← Option.some.inj hold]
          refine TokenState.HoldingsOrdered.handled ?_ hhandler hevent
          cases hbefore : s.tokens.lookup k with
          | none => exact TokenState.holdingsOrdered_new _ _
          | some before => exact h k before hbefore
        · exact hsame _ hcore.symm fun old hold => h k old hold

theorem allHoldingsOrdered_applyEvents {s : StateEngine} (h : s.AllHoldingsOrdered)
    {events : List NormalizedEvent} (hevents : ∀ event ∈ events, event.TokensNonNegative) :
    (s.applyEvents events).AllHoldingsOrdered := by
  induction events generalizing s with
  | nil => exact h
  | cons event events ih =>
      rw [applyEvents_cons]
      exact ih (allHoldingsOrdered_applyEvent h (hevents event List.mem_cons_self))
        fun other hother => hevents other (List.mem_cons_of_mem _ hother)

/-- After any events whose trades have no negative amounts, no creator holds more than its
largest holding and the sold share is a fraction. -/
theorem creatorSellPercentage_fraction (ttl : TtlConfig) {events : List NormalizedEvent}
    (hevents : ∀ event ∈ events, event.TokensNonNegative) {k : String} {token : TokenState}
    (hlookup : ((new ttl).applyEvents events).tokens.lookup k = some token) :
    token.developerState.creatorNetTokens ≤ token.developerState.creatorInitialHolding ∧
    0 ≤ token.developerState.creatorSellPercentage ∧
    token.developerState.creatorSellPercentage ≤ 1 := by
  have hnew : (new ttl).AllHoldingsOrdered := fun _ _ hnone => by cases hnone
  have hordered := allHoldingsOrdered_applyEvents hnew hevents k token hlookup
  rw [(allDerivedFresh_reachable ttl events k token hlookup).soldShare]
  exact ⟨hordered.net, hordered.soldShare⟩

/-- A creation and a sell of more than was ever seen. -/
theorem creatorSellPercentage_fraction_oversold :
    ∃ token, ((new sampleTtl).applyEvents [creationEvent, creatorSellEvent]).tokens.lookup
        "mint" = some token ∧
      token.developerState.creatorNetTokens < 0 ∧
      token.developerState.creatorSellPercentage ≤ 1 := by
  have hsome : (((new sampleTtl).applyEvents [creationEvent, creatorSellEvent]).tokens.lookup
      "mint").isSome := by decide +kernel
  obtain ⟨token, htoken⟩ := Option.isSome_iff_exists.mp hsome
  have hnegative : (((new sampleTtl).applyEvents
      [creationEvent, creatorSellEvent]).tokens.lookup "mint").all
        fun token => token.developerState.creatorNetTokens < 0 := by decide +kernel
  rw [htoken] at hnegative
  refine ⟨token, htoken, by simpa using hnegative, ?_⟩
  refine (creatorSellPercentage_fraction sampleTtl ?_ htoken).2.2
  intro event hmem
  simp only [List.mem_cons, List.not_mem_nil, or_false] at hmem
  rcases hmem with rfl | rfl
  · trivial
  · simp [NormalizedEvent.TokensNonNegative, creatorSellEvent]

end StateEngine

end PumpLaunchTrader
