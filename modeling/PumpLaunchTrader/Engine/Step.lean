import PumpLaunchTrader.Model.State.Engine

/-! # What one event does to the tokens

The payload handlers rewrite the token of the event; what follows refreshes derived
fields. Both are described once, per mint, and later results are read off from here. -/

namespace PumpLaunchTrader

/-! ## Core of a token -/

namespace TokenState

/-- A token without the fields that are derived after every event and the flags of gaps. -/
def core (token : TokenState) : TokenState :=
  { token with
    lifecycle := .discovered
    approximateMemoryBytes := 0
    expiresAt := none
    developerState := { token.developerState with
      creatorSellPercentage := 0
      creatorCurrentRank := none
      relatedClusterId := none }
    shredDefense := { token.shredDefense with exitThreatIndex := {} }
    dataQualityFlags := ∅ }

/-- Tokens with equal cores agree on every field that the core keeps. -/
theorem field_of_core {α : Type} {field : TokenState → α}
    (hfield : ∀ token : TokenState, field token.core = field token) {a b : Option TokenState}
    (h : a.map core = b.map core) : a.map field = b.map field := by
  have hmapped := congrArg (Option.map field) h
  rw [Option.map_map, Option.map_map] at hmapped
  have hcomp : field ∘ core = field := funext hfield
  rwa [hcomp] at hmapped

/-- The record of a signature keeps every field but those of signatures. -/
theorem field_recordSignature {α : Type} {field : TokenState → α}
    (hfield : ∀ (token : TokenState) (canonical tentative : Finset String) (tentativeOnly : Bool),
      field { token with
        canonicalSignatures := canonical
        tentativeSignatures := tentative
        tentativeOnly := tentativeOnly } = field token)
    (token : TokenState) (event : NormalizedEvent) :
    field (token.recordSignature event) = field token := by
  unfold recordSignature
  split
  · split
    · exact hfield token token.canonicalSignatures _ token.tentativeOnly
    · exact hfield token _ _ _
  · rfl

@[simp] theorem core_updateMemoryBytes (token : TokenState) :
    token.updateMemoryBytes.core = token.core := rfl

@[simp] theorem core_renewExpiry (token : TokenState) (event : NormalizedEvent)
    (ttl : TtlConfig) : (token.renewExpiry event ttl).core = token.core := rfl

@[simp] theorem core_refreshTokenClusterDerived (token : TokenState) (index : ClusterIndex) :
    (refreshTokenClusterDerived token index).core = token.core := rfl

@[simp] theorem core_refreshExitThreatIndex (token : TokenState) (index : ClusterIndex)
    (observedAt : OffsetDateTime) :
    (refreshExitThreatIndex token index observedAt).core = token.core := rfl

@[simp] theorem core_transitionToken (token : TokenState) (target : TokenLifecycle)
    (reason : String) (observedAt : OffsetDateTime) (ttl : Duration) :
    (transitionToken token target reason observedAt ttl).1.core = token.core := by
  unfold transitionToken
  split <;> rfl

@[simp] theorem core_applyTerminal (token : TokenState) (payload : TokenTerminalEvent)
    (event : NormalizedEvent) (ttl : TtlConfig) :
    (token.applyTerminal payload event ttl).core = token.core :=
  core_transitionToken _ _ _ _ _

@[simp] theorem core_applyDataGap (token : TokenState) (event : NormalizedEvent)
    (ttl : TtlConfig) : (token.applyDataGap event ttl).core = token.core :=
  core_transitionToken _ _ _ _ _

theorem core_iterate_applyDataGap (event : NormalizedEvent) (ttl : TtlConfig) (n : ℕ)
    (token : TokenState) :
    ((fun token => token.applyDataGap event ttl)^[n] token).core = token.core := by
  induction n generalizing token with
  | zero => rfl
  | succ n ih => rw [Function.iterate_succ_apply, ih, core_applyDataGap]

/-- The recomputation moves a token that is not archived and then books its expiry and its
size: what the move and the booking keep, it keeps. -/
theorem kept_recomputeTransition {P : TokenState → Prop} {token : TokenState}
    {event : NormalizedEvent} {ttl : TtlConfig} (h : P token)
    (hmoved : P (transitionToken token token.activityTarget "activity_threshold"
      event.info.receivedAtWallTime (ttlForConfig ttl token.activityTarget)).1)
    (hbooked : ∀ token expiresAt bytes, P token →
      P { token with expiresAt := expiresAt, approximateMemoryBytes := bytes }) :
    P (token.recomputeTransition event ttl).1 := by
  have hrenewed : ∀ moved : TokenState, P moved →
      P (moved.renewExpiry event ttl).updateMemoryBytes := fun moved hP => hbooked moved _ _ hP
  unfold recomputeTransition
  cases isArchived token.lifecycle with
  | true => exact hrenewed token h
  | false => exact hrenewed _ hmoved

@[simp] theorem core_recomputeTransition (token : TokenState) (event : NormalizedEvent)
    (ttl : TtlConfig) : (token.recomputeTransition event ttl).1.core = token.core :=
  kept_recomputeTransition (P := fun moved => moved.core = token.core) rfl
    (core_transitionToken token _ _ _ _) fun _ _ _ h => h

end TokenState

namespace StateEngine

/-! ## Payload handlers -/

@[simp] theorem tokens_recordSignature (s : StateEngine) (mint : PubkeyValue)
    (event : NormalizedEvent) : (s.recordSignature mint event).tokens = s.tokens := by
  unfold recordSignature
  split
  · split <;> rfl
  · rfl

@[simp] theorem tokens_touchWallet (s : StateEngine) (wallet : String)
    (timestamp : OffsetDateTime) (f : WalletSummary → WalletSummary) :
    (s.touchWallet wallet timestamp f).tokens = s.tokens := rfl

@[simp] theorem tokens_withToken (s : StateEngine) (mint : PubkeyValue) (source : EventSource)
    (f : TokenState → TokenState) :
    (s.withToken mint source f).tokens =
      s.tokens.upsert mint.text (TokenState.new mint source) f := rfl

@[simp] theorem tradeStats_recordSignature (token : TokenState) (event : NormalizedEvent) :
    (token.recordSignature event).tradeStats = token.tradeStats :=
  TokenState.field_recordSignature (fun _ _ _ _ => rfl) token event

section Handlers

variable [IterationOrder]

/-- The handler of an event, for the payloads that create or update the token of their
mint. -/
def handler (s : StateEngine) (event : NormalizedEvent) : Option (TokenState → TokenState) :=
  match event.payload with
  | .tokenCreated payload => some fun token => token.applyTokenCreated payload event s.ttl
  | .pumpBuy payload =>
    some fun token => token.applyBuy payload event (s.buyObservation payload event) s.ttl
  | .pumpSell payload =>
    if event.info.isTentative then none
    else some fun token => token.applySell payload event (s.sellObservation payload event) s.ttl
  | .bondingCurveUpdate payload => some fun token => token.applyCurveUpdate payload event
  | .holderBalanceUpdate payload => some fun token => token.applyHolderUpdate payload event
  | .tentativeSellIntentDetected payload =>
    some fun token => token.applyTentativeSellIntent payload
  | .tentativeMaliciousSellWarning payload =>
    some fun token => token.applyTentativeSellWarning payload
  | .shredEmergencyExitArmed payload => some fun token => token.applyShredExitArmed payload
  | .shredEmergencyExitTriggered payload =>
    some fun token => token.applyShredExitTriggered payload
  | .shredSellIntentResolved payload => some fun token => token.applyShredSellResolved payload
  | _ => none

/-- The handler of an event, one case for each payload that has one. -/
inductive Handles (s : StateEngine) (event : NormalizedEvent) :
    (TokenState → TokenState) → Prop where
  | tokenCreated {payload} : event.payload = .tokenCreated payload →
      Handles s event fun token => token.applyTokenCreated payload event s.ttl
  | pumpBuy {payload} : event.payload = .pumpBuy payload →
      Handles s event fun token =>
        token.applyBuy payload event (s.buyObservation payload event) s.ttl
  | pumpSell {payload} : event.payload = .pumpSell payload → event.info.isTentative = false →
      Handles s event fun token =>
        token.applySell payload event (s.sellObservation payload event) s.ttl
  | bondingCurveUpdate {payload} : event.payload = .bondingCurveUpdate payload →
      Handles s event fun token => token.applyCurveUpdate payload event
  | holderBalanceUpdate {payload} : event.payload = .holderBalanceUpdate payload →
      Handles s event fun token => token.applyHolderUpdate payload event
  | tentativeSellIntentDetected {payload} :
      event.payload = .tentativeSellIntentDetected payload →
      Handles s event fun token => token.applyTentativeSellIntent payload
  | tentativeMaliciousSellWarning {payload} :
      event.payload = .tentativeMaliciousSellWarning payload →
      Handles s event fun token => token.applyTentativeSellWarning payload
  | shredEmergencyExitArmed {payload} : event.payload = .shredEmergencyExitArmed payload →
      Handles s event fun token => token.applyShredExitArmed payload
  | shredEmergencyExitTriggered {payload} :
      event.payload = .shredEmergencyExitTriggered payload →
      Handles s event fun token => token.applyShredExitTriggered payload
  | shredSellIntentResolved {payload} : event.payload = .shredSellIntentResolved payload →
      Handles s event fun token => token.applyShredSellResolved payload

theorem handles_of_handler {s : StateEngine} {event : NormalizedEvent}
    {f : TokenState → TokenState} (h : s.handler event = some f) : s.Handles event f := by
  unfold handler at h
  cases hpayload : event.payload with
  | pumpSell payload =>
      rw [hpayload] at h
      cases htentative : event.info.isTentative with
      | true => simp [htentative] at h
      | false =>
          simp only [htentative, Bool.false_eq_true, if_false] at h
          cases h
          exact .pumpSell hpayload htentative
  | tokenCreated payload =>
      rw [hpayload] at h
      cases h
      exact .tokenCreated hpayload
  | pumpBuy payload =>
      rw [hpayload] at h
      cases h
      exact .pumpBuy hpayload
  | bondingCurveUpdate payload =>
      rw [hpayload] at h
      cases h
      exact .bondingCurveUpdate hpayload
  | holderBalanceUpdate payload =>
      rw [hpayload] at h
      cases h
      exact .holderBalanceUpdate hpayload
  | tentativeSellIntentDetected payload =>
      rw [hpayload] at h
      cases h
      exact .tentativeSellIntentDetected hpayload
  | tentativeMaliciousSellWarning payload =>
      rw [hpayload] at h
      cases h
      exact .tentativeMaliciousSellWarning hpayload
  | shredEmergencyExitArmed payload =>
      rw [hpayload] at h
      cases h
      exact .shredEmergencyExitArmed hpayload
  | shredEmergencyExitTriggered payload =>
      rw [hpayload] at h
      cases h
      exact .shredEmergencyExitTriggered hpayload
  | shredSellIntentResolved payload =>
      rw [hpayload] at h
      cases h
      exact .shredSellIntentResolved hpayload
  | walletFunding payload | observedTransaction payload | tokenTerminal payload
  | tradeDecision payload | simulatedFill payload | liveFill payload | dataGap payload =>
      rw [hpayload] at h
      cases h

/-- An event with a handler updates the token of its mint, which it creates if needed. -/
theorem tokens_applyPayload_of_handler {s : StateEngine} {event : NormalizedEvent}
    {f : TokenState → TokenState} (h : s.handler event = some f) :
    ∃ mint, event.mint = some mint ∧
      (s.applyPayload event).tokens =
        s.tokens.upsert mint.text (TokenState.new mint event.info.source) f := by
  unfold applyPayload NormalizedEvent.mint
  cases handles_of_handler h with
  | @tokenCreated payload hpayload =>
      rw [hpayload]
      refine ⟨payload.mint, rfl, ?_⟩
      simp only [applyTokenCreated]
      split <;> simp
  | @pumpBuy payload hpayload =>
      rw [hpayload]
      exact ⟨payload.mint, rfl, by simp [applyBuy]⟩
  | @pumpSell payload hpayload htentative =>
      rw [hpayload]
      exact ⟨payload.mint, rfl, by simp [applySell, htentative]⟩
  | @bondingCurveUpdate payload hpayload | @holderBalanceUpdate payload hpayload
  | @tentativeSellIntentDetected payload hpayload
  | @tentativeMaliciousSellWarning payload hpayload | @shredEmergencyExitArmed payload hpayload
  | @shredEmergencyExitTriggered payload hpayload | @shredSellIntentResolved payload hpayload =>
      rw [hpayload]
      exact ⟨payload.mint, rfl, rfl⟩

/-- The other events move the lifecycle of tokens that exist, or leave the tokens alone. -/
theorem lookup_applyPayload_of_no_handler {s : StateEngine} {event : NormalizedEvent}
    (h : s.handler event = none) (k : String) :
    (s.applyPayload event).tokens.lookup k = s.tokens.lookup k ∨
      (∃ payload, event.payload = .tokenTerminal payload ∧ payload.mint.text = k ∧
        (s.applyPayload event).tokens.lookup k =
          (s.tokens.lookup k).map fun token => token.applyTerminal payload event s.ttl) ∨
      ∃ (payload : DataGapEvent) (n : ℕ), event.payload = .dataGap payload ∧
        (s.applyPayload event).tokens.lookup k =
          (s.tokens.lookup k).map (fun token => token.applyDataGap event s.ttl)^[n] := by
  unfold handler at h
  cases hpayload : event.payload with
  | tokenTerminal payload =>
      simp only [applyPayload, hpayload, applyTerminal]
      cases hlookup : s.tokens.lookup payload.mint.text with
      | none => exact Or.inl rfl
      | some token =>
          by_cases hk : k = payload.mint.text
          · subst hk
            refine Or.inr (Or.inl ⟨payload, rfl, rfl, ?_⟩)
            simp [hlookup]
          · exact Or.inl (AList.lookup_insert_ne hk)
  | dataGap payload =>
      refine Or.inr (Or.inr ⟨payload,
        (payload.affectedTokens.map PubkeyValue.text).count k, rfl, ?_⟩)
      simp only [applyPayload, hpayload, applyDataGap]
      rw [← KeyedMap.lookup_foldl_adjust, List.foldl_map]
  | walletFunding payload =>
      left
      simp [applyPayload, hpayload, applyFunding]
  | observedTransaction payload =>
      left
      simp only [applyPayload, hpayload, applyObservedTransaction]
      split <;> rfl
  | pumpSell payload =>
      left
      rw [hpayload] at h
      by_cases htentative : event.info.isTentative = true
      · simp [applyPayload, hpayload, htentative]
      · simp [htentative] at h
  | tradeDecision payload | simulatedFill payload | liveFill payload =>
      left
      simp [applyPayload, hpayload]
  | tokenCreated payload | pumpBuy payload | bondingCurveUpdate payload
  | holderBalanceUpdate payload | tentativeSellIntentDetected payload
  | tentativeMaliciousSellWarning payload | shredEmergencyExitArmed payload
  | shredEmergencyExitTriggered payload | shredSellIntentResolved payload =>
      rw [hpayload] at h
      cases h

end Handlers

/-! ## Refresh and transitions -/

theorem tokenTouchesAnyWallet_empty (token : TokenState) :
    tokenTouchesAnyWallet token ∅ = false := by
  have hnone : ∀ wallet : Option PubkeyValue, (wallet.map fun _ => false).getD false = false := by
    intro wallet
    cases wallet <;> rfl
  simp [tokenTouchesAnyWallet, hnone]

/-- What the refresh after an event makes of the token of `k`. -/
def derivedRefresh (s : StateEngine) (event : NormalizedEvent) (k : String)
    (token : TokenState) : TokenState :=
  match s.clusterAffectedWallets event with
  | some affected =>
    if tokenTouchesAnyWallet token affected then
      refreshExitThreatIndex (refreshTokenClusterDerived token s.clusterIndex) s.clusterIndex
        event.info.receivedAtWallTime
    else token
  | none => if event.mint.map PubkeyValue.text = some k then s.refreshToken event token else token

theorem lookup_refreshDerived (s : StateEngine) (event : NormalizedEvent) (k : String) :
    (s.refreshDerivedIndicesForEvent event).tokens.lookup k =
      (s.tokens.lookup k).map (s.derivedRefresh event k) := by
  unfold refreshDerivedIndicesForEvent derivedRefresh
  cases haffected : s.clusterAffectedWallets event with
  | some affected =>
      by_cases hempty : affected = ∅
      · subst hempty
        simp [refreshClustersForWallets, tokenTouchesAnyWallet_empty]
      · simp only [refreshClustersForWallets, if_neg hempty]
        exact KeyedMap.lookup_mapValues _ _ k
  | none =>
      cases hmint : event.mint with
      | none => simp
      | some mint =>
          by_cases hk : mint.text = k
          · subst hk
            simp
          · have hk' : k ≠ mint.text := fun he => hk he.symm
            simp [KeyedMap.lookup_adjust_ne _ hk', hk]

/-- A refresh keeps what the refresh of clusters and that of the threat index keep. -/
theorem field_derivedRefresh {α : Type} {field : TokenState → α}
    (hcluster : ∀ token index, field (refreshTokenClusterDerived token index) = field token)
    (hthreat : ∀ token index observedAt,
      field (refreshExitThreatIndex token index observedAt) = field token)
    (s : StateEngine) (event : NormalizedEvent) (k : String) (token : TokenState) :
    field (s.derivedRefresh event k token) = field token := by
  unfold derivedRefresh refreshToken
  split
  · split
    · rw [hthreat, hcluster]
    · rfl
  · split
    · simp only
      split
      · rw [hthreat, hcluster]
      · exact hcluster token s.clusterIndex
    · rfl

/-- A refresh rewrites derived fields only. -/
@[simp] theorem core_derivedRefresh (s : StateEngine) (event : NormalizedEvent) (k : String)
    (token : TokenState) : (s.derivedRefresh event k token).core = token.core :=
  field_derivedRefresh TokenState.core_refreshTokenClusterDerived
    TokenState.core_refreshExitThreatIndex s event k token

theorem lookup_recomputeTransitions (s : StateEngine) (event : NormalizedEvent) (k : String) :
    (s.recomputeTransitions event).1.tokens.lookup k =
      if event.mint.map PubkeyValue.text = some k then
        (s.tokens.lookup k).map fun token => (token.recomputeTransition event s.ttl).1
      else s.tokens.lookup k := by
  unfold recomputeTransitions
  cases hmint : event.mint with
  | none => simp
  | some mint =>
      cases hlookup : s.tokens.lookup mint.text with
      | none =>
          by_cases hk : mint.text = k
          · subst hk
            simp [hlookup]
          · simp [hlookup, hk]
      | some token =>
          by_cases hk : mint.text = k
          · subst hk
            simp [hlookup]
          · have hk' : k ≠ mint.text := fun he => hk he.symm
            simp [hlookup, hk, AList.lookup_insert_ne hk']

@[simp] theorem tokens_forgetSignature (s : StateEngine) (event : NormalizedEvent) :
    (s.forgetSignature event).tokens = s.tokens := by
  unfold forgetSignature
  split <;> rfl

variable [IterationOrder]

/-- After the payload handler, an event changes no core. -/
theorem core_applyEvent (s : StateEngine) {event : NormalizedEvent}
    (h : event.info.canonicality ≠ .reverted) (k : String) :
    ((s.applyEvent event).1.tokens.lookup k).map TokenState.core =
      ((s.applyPayload event).tokens.lookup k).map TokenState.core := by
  unfold applyEvent
  rw [if_neg h, lookup_recomputeTransitions, lookup_refreshDerived]
  split <;> simp [Function.comp_def]

/-- An event with a handler rewrites the core of the token of its mint only. -/
theorem core_applyEvent_of_handler {s : StateEngine} {event : NormalizedEvent}
    {f : TokenState → TokenState} (hhandler : s.handler event = some f)
    (h : event.info.canonicality ≠ .reverted) :
    ∃ mint, event.mint = some mint ∧ ∀ k,
      ((s.applyEvent event).1.tokens.lookup k).map TokenState.core =
        if k = mint.text then
          some (f ((s.tokens.lookup k).getD (TokenState.new mint event.info.source))).core
        else (s.tokens.lookup k).map TokenState.core := by
  obtain ⟨mint, hmint, htokens⟩ := tokens_applyPayload_of_handler hhandler
  refine ⟨mint, hmint, ?_⟩
  intro k
  rw [s.core_applyEvent h, htokens, KeyedMap.lookup_upsert]
  by_cases hk : k = mint.text
  · subst hk
    simp
  · simp [hk]

theorem core_applyEvent_of_mint {s : StateEngine} {event : NormalizedEvent}
    {f : TokenState → TokenState} (hhandler : s.handler event = some f) {mint : PubkeyValue}
    (hmint : event.mint = some mint) (h : event.info.canonicality ≠ .reverted) (k : String) :
    ((s.applyEvent event).1.tokens.lookup k).map TokenState.core =
      if k = mint.text then
        some (f ((s.tokens.lookup k).getD (TokenState.new mint event.info.source))).core
      else (s.tokens.lookup k).map TokenState.core := by
  obtain ⟨other, hother, hcore⟩ := core_applyEvent_of_handler hhandler h
  rw [hmint, Option.some.injEq] at hother
  subst hother
  exact hcore k

/-- Every other event changes no core. -/
theorem core_applyEvent_of_no_handler {s : StateEngine} {event : NormalizedEvent}
    (hhandler : s.handler event = none) (h : event.info.canonicality ≠ .reverted) (k : String) :
    ((s.applyEvent event).1.tokens.lookup k).map TokenState.core =
      (s.tokens.lookup k).map TokenState.core := by
  rw [s.core_applyEvent h]
  rcases lookup_applyPayload_of_no_handler hhandler k with
    hsame | ⟨payload, -, -, hterminal⟩ | ⟨payload, n, -, hgap⟩
  · rw [hsame]
  · rw [hterminal]
    simp [Function.comp_def]
  · rw [hgap, Option.map_map]
    congr 1
    funext token
    exact TokenState.core_iterate_applyDataGap event s.ttl n token

/-- A reverted event leaves every token alone. -/
theorem tokens_applyEvent_of_reverted {s : StateEngine} {event : NormalizedEvent}
    (h : event.info.canonicality = .reverted) : (s.applyEvent event).1.tokens = s.tokens := by
  unfold applyEvent
  rw [if_pos h]
  exact tokens_forgetSignature s event

/-! ## Runs -/

theorem applyEvents_append (s : StateEngine) (events more : List NormalizedEvent) :
    s.applyEvents (events ++ more) = (s.applyEvents events).applyEvents more :=
  List.foldl_append

@[simp] theorem applyEvents_cons (s : StateEngine) (event : NormalizedEvent)
    (events : List NormalizedEvent) :
    s.applyEvents (event :: events) = (s.applyEvent event).1.applyEvents events := rfl

/-! ## Invariants of tokens -/

/-- A property of tokens that every part of an event keeps. What a handler breaks, the
refresh after it may restore. -/
structure KeptByEvents (P : TokenState → Prop) : Prop where
  new : ∀ mint source, P (TokenState.new mint source)
  handled : ∀ {s r : StateEngine} {event : NormalizedEvent} {f : TokenState → TokenState}
    {mint : PubkeyValue}, s.handler event = some f → event.mint = some mint →
    ∀ {token}, P token → P (r.derivedRefresh event mint.text (f token))
  refreshed : ∀ {token}, P token → ∀ (s : StateEngine) event k, P (s.derivedRefresh event k token)
  terminal : ∀ {token}, P token → ∀ payload event ttl, P (token.applyTerminal payload event ttl)
  gap : ∀ {token}, P token → ∀ event ttl, P (token.applyDataGap event ttl)
  recomputed : ∀ {token}, P token → ∀ event ttl, P (token.recomputeTransition event ttl).1

namespace KeptByEvents

variable {P : TokenState → Prop} (h : KeptByEvents P)

include h

theorem iterate_gap {token : TokenState} (htoken : P token) (event : NormalizedEvent)
    (ttl : TtlConfig) (n : ℕ) : P ((fun token => token.applyDataGap event ttl)^[n] token) := by
  induction n generalizing token with
  | zero => exact htoken
  | succ n ih =>
      rw [Function.iterate_succ_apply]
      exact ih (h.gap htoken event ttl)

/-- After the payload and the refresh of an event, the token of `k` has the property. -/
theorem after_refresh {s : StateEngine}
    (hs : ∀ k token, s.tokens.lookup k = some token → P token) {event : NormalizedEvent}
    {k : String} {token : TokenState}
    (hlookup : (s.applyPayload event).tokens.lookup k = some token) :
    P ((s.applyPayload event).derivedRefresh event k token) := by
  cases hhandler : s.handler event with
  | some f =>
      obtain ⟨mint, hmint, htokens⟩ := tokens_applyPayload_of_handler hhandler
      rw [htokens, KeyedMap.lookup_upsert] at hlookup
      by_cases hk : k = mint.text
      · rw [if_pos hk, Option.some.injEq] at hlookup
        have hbefore : P ((s.tokens.lookup mint.text).getD
            (TokenState.new mint event.info.source)) := by
          cases hold : s.tokens.lookup mint.text with
          | none => exact h.new _ _
          | some before => exact hs _ before hold
        rw [hk, ← hlookup]
        exact h.handled hhandler hmint hbefore
      · rw [if_neg hk] at hlookup
        exact h.refreshed (hs k token hlookup) _ event k
  | none =>
      apply h.refreshed
      rcases lookup_applyPayload_of_no_handler hhandler k with
        hsame | ⟨payload, -, -, hterminal⟩ | ⟨payload, n, -, hgap⟩
      · rw [hsame] at hlookup
        exact hs k token hlookup
      · rw [hterminal, Option.map_eq_some_iff] at hlookup
        obtain ⟨before, hbefore, rfl⟩ := hlookup
        exact h.terminal (hs k before hbefore) payload event s.ttl
      · rw [hgap, Option.map_eq_some_iff] at hlookup
        obtain ⟨before, hbefore, rfl⟩ := hlookup
        exact h.iterate_gap (hs k before hbefore) event s.ttl n

theorem applyEvent {s : StateEngine} (hs : ∀ k token, s.tokens.lookup k = some token → P token)
    (event : NormalizedEvent) {k : String} {token : TokenState}
    (hlookup : (s.applyEvent event).1.tokens.lookup k = some token) : P token := by
  by_cases hreverted : event.info.canonicality = .reverted
  · rw [tokens_applyEvent_of_reverted hreverted] at hlookup
    exact hs k token hlookup
  · unfold StateEngine.applyEvent at hlookup
    rw [if_neg hreverted, lookup_recomputeTransitions, lookup_refreshDerived] at hlookup
    split at hlookup
    · rw [Option.map_map, Option.map_eq_some_iff] at hlookup
      obtain ⟨before, hbefore, rfl⟩ := hlookup
      exact h.recomputed (h.after_refresh hs hbefore) event _
    · rw [Option.map_eq_some_iff] at hlookup
      obtain ⟨before, hbefore, rfl⟩ := hlookup
      exact h.after_refresh hs hbefore

/-- The property holds of every token after every sequence of events. -/
theorem applyEvents {s : StateEngine} (hs : ∀ k token, s.tokens.lookup k = some token → P token)
    (events : List NormalizedEvent) {k : String} {token : TokenState}
    (hlookup : (s.applyEvents events).tokens.lookup k = some token) : P token := by
  induction events generalizing s with
  | nil => exact hs k token hlookup
  | cons event events ih => exact ih (fun _ _ hnext => h.applyEvent hs event hnext) hlookup

theorem reachable (ttl : TtlConfig) (events : List NormalizedEvent) {k : String}
    {token : TokenState}
    (hlookup : ((StateEngine.new ttl).applyEvents events).tokens.lookup k = some token) : P token :=
  h.applyEvents (fun _ _ hnew => by cases hnew) events hlookup

end KeptByEvents

/-- Durations for the concrete runs. -/
def sampleTtl : TtlConfig :=
  { discoveredSecs := 60
    activeLightSecs := 300
    activeDeepSecs := 900
    discardedSummarySecs := 3600
    researchSampleSecs := 7200 }

end StateEngine

end PumpLaunchTrader
