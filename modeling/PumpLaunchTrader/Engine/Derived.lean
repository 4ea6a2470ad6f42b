import PumpLaunchTrader.Engine.Step

/-! # Derived developer fields

After every event, the rank and the sold share of a creator are those that its token calls
for: an event that changes their inputs refreshes the token it changes. -/

namespace PumpLaunchTrader

/-- The derived developer fields agree with the rest of the token. -/
structure TokenState.DerivedFresh (token : TokenState) : Prop where
  rank : token.developerState.creatorCurrentRank = token.creatorRank
  soldShare : token.developerState.creatorSellPercentage = creatorSoldShare token.developerState

namespace TokenState

theorem derivedFresh_new (mint : PubkeyValue) (source : EventSource) :
    (new mint source).DerivedFresh where
  rank := rfl
  soldShare := rfl

theorem derivedFresh_refreshTokenClusterDerived (token : TokenState) (index : ClusterIndex) :
    (refreshTokenClusterDerived token index).DerivedFresh where
  rank := rfl
  soldShare := rfl

theorem DerivedFresh.refreshExitThreatIndex {token : TokenState} (h : token.DerivedFresh)
    (index : ClusterIndex) (observedAt : OffsetDateTime) :
    (refreshExitThreatIndex token index observedAt).DerivedFresh :=
  ⟨h.rank, h.soldShare⟩

theorem DerivedFresh.transitionToken {token : TokenState} (h : token.DerivedFresh)
    (target : TokenLifecycle) (reason : String) (observedAt : OffsetDateTime) (ttl : Duration) :
    (transitionToken token target reason observedAt ttl).1.DerivedFresh := by
  unfold PumpLaunchTrader.transitionToken
  split
  · exact h
  · exact ⟨h.rank, h.soldShare⟩

theorem DerivedFresh.applyTerminal {token : TokenState} (h : token.DerivedFresh)
    (payload : TokenTerminalEvent) (event : NormalizedEvent) (ttl : TtlConfig) :
    (token.applyTerminal payload event ttl).DerivedFresh :=
  h.transitionToken _ _ _ _

theorem DerivedFresh.applyDataGap {token : TokenState} (h : token.DerivedFresh)
    (event : NormalizedEvent) (ttl : TtlConfig) : (token.applyDataGap event ttl).DerivedFresh := by
  have hflagged : DerivedFresh
      { token with dataQualityFlags := insert "data_gap" token.dataQualityFlags } :=
    ⟨h.rank, h.soldShare⟩
  exact hflagged.transitionToken _ _ _ _

theorem DerivedFresh.recomputeTransition {token : TokenState} (h : token.DerivedFresh)
    (event : NormalizedEvent) (ttl : TtlConfig) :
    (token.recomputeTransition event ttl).1.DerivedFresh :=
  kept_recomputeTransition h (h.transitionToken _ _ _ _) fun _ _ _ hmoved =>
    ⟨hmoved.rank, hmoved.soldShare⟩

end TokenState

namespace StateEngine

theorem derivedFresh_refreshToken (s : StateEngine) (event : NormalizedEvent)
    (token : TokenState) : (s.refreshToken event token).DerivedFresh := by
  unfold refreshToken
  split
  · exact (TokenState.derivedFresh_refreshTokenClusterDerived _ _).refreshExitThreatIndex _ _
  · exact TokenState.derivedFresh_refreshTokenClusterDerived _ _

/-- A refresh never makes derived fields stale. -/
theorem derivedFresh_derivedRefresh {token : TokenState} (h : token.DerivedFresh)
    (s : StateEngine) (event : NormalizedEvent) (k : String) :
    (s.derivedRefresh event k token).DerivedFresh := by
  unfold derivedRefresh
  split
  · split
    · exact (TokenState.derivedFresh_refreshTokenClusterDerived _ _).refreshExitThreatIndex _ _
    · exact h
  · split
    · exact s.derivedFresh_refreshToken event token
    · exact h

theorem mem_relatedWallets (index : ClusterIndex) (wallet : String) :
    wallet ∈ index.relatedWallets wallet :=
  Finset.mem_insert_self _ _

/-- Only a creation has a handler and affects clusters; its creator is affected. -/
theorem touches_handler {s r : StateEngine} {event : NormalizedEvent}
    {f : TokenState → TokenState} (hhandler : s.handler event = some f) {affected : Finset String}
    (haffected : r.clusterAffectedWallets event = some affected) (token : TokenState) :
    tokenTouchesAnyWallet (f token) affected = true := by
  unfold clusterAffectedWallets at haffected
  cases handles_of_handler hhandler with
  | @tokenCreated payload hpayload =>
      rw [hpayload] at haffected
      simp only [Option.some.injEq] at haffected
      have hmem : payload.creatorWallet.text ∈ affected := by
        rw [← haffected, Finset.mem_biUnion]
        exact ⟨payload.creatorWallet.text, by simp, mem_relatedWallets _ _⟩
      have hrecorded : ∀ token : TokenState,
          (token.recordSignature event).creator = token.creator := fun token =>
        TokenState.field_recordSignature (fun _ _ _ _ => rfl) token event
      have hcreator : (token.applyTokenCreated payload event s.ttl).creator =
          some payload.creatorWallet := by
        simp only [TokenState.applyTokenCreated, TokenState.updateMemoryBytes,
          TokenState.renewExpiry, hrecorded]
      simp [tokenTouchesAnyWallet, hcreator, hmem]
  | pumpBuy hpayload | pumpSell hpayload _ | bondingCurveUpdate hpayload
  | holderBalanceUpdate hpayload | tentativeSellIntentDetected hpayload
  | tentativeMaliciousSellWarning hpayload | shredEmergencyExitArmed hpayload
  | shredEmergencyExitTriggered hpayload | shredSellIntentResolved hpayload =>
      rw [hpayload] at haffected
      cases haffected

/-- The token that a handler rewrites is refreshed, whatever the handler did. -/
theorem derivedFresh_handler {s r : StateEngine} {event : NormalizedEvent}
    {f : TokenState → TokenState} (hhandler : s.handler event = some f) {mint : PubkeyValue}
    (hmint : event.mint = some mint) (token : TokenState) :
    (r.derivedRefresh event mint.text (f token)).DerivedFresh := by
  cases haffected : r.clusterAffectedWallets event with
  | none =>
      simp only [derivedRefresh, haffected, hmint, Option.map_some, if_true]
      exact r.derivedFresh_refreshToken event (f token)
  | some affected =>
      simp only [derivedRefresh, haffected, touches_handler hhandler haffected, if_true]
      exact (TokenState.derivedFresh_refreshTokenClusterDerived _ _).refreshExitThreatIndex _ _

/-- Every token has fresh derived fields. -/
def AllDerivedFresh (s : StateEngine) : Prop :=
  ∀ k token, s.tokens.lookup k = some token → token.DerivedFresh

theorem keptByEvents_derivedFresh : KeptByEvents TokenState.DerivedFresh where
  new := TokenState.derivedFresh_new
  handled hhandler hmint _ _ := derivedFresh_handler hhandler hmint _
  refreshed h s event k := derivedFresh_derivedRefresh h s event k
  terminal h := h.applyTerminal
  gap h := h.applyDataGap
  recomputed h := h.recomputeTransition

theorem allDerivedFresh_reachable (ttl : TtlConfig) (events : List NormalizedEvent) :
    ((new ttl).applyEvents events).AllDerivedFresh :=
  fun _ _ hlookup => keptByEvents_derivedFresh.reachable ttl events hlookup

end StateEngine

end PumpLaunchTrader
