import PumpLaunchTrader.Engine.Lifecycle

/-! # What marks a token as in a data gap

A gap event of a token moves it to the lifecycle `DataGap` and flags it, whether trading is
allowed again or not. Neither mark is ever taken off: besides terminals, no event writes
them. -/

namespace PumpLaunchTrader

/-- A gap event names a token. -/
def DataGapEvent.names (payload : DataGapEvent) (mint : String) : Bool :=
  payload.affectedTokens.any fun token => token.text = mint

/-- A terminal of a token. -/
def NormalizedEvent.terminates (event : NormalizedEvent) (mint : String) : Bool :=
  match event.payload with
  | .tokenTerminal payload => payload.mint.text = mint
  | _ => false

namespace TokenState

/-- Whether the token is in the lifecycle of data gaps, and whether it carries their flag. -/
def gapMarks (token : TokenState) : Bool × Bool :=
  (token.lifecycle = .dataGap, "data_gap" ∈ token.dataQualityFlags)

@[simp] theorem gapMarks_new (mint : PubkeyValue) (source : EventSource) :
    (TokenState.new mint source).gapMarks = (false, false) := rfl

/-- Tokens of one lifecycle with the same flags are marked alike. -/
theorem gapMarks_congr {token next : TokenState} (hlifecycle : next.lifecycle = token.lifecycle)
    (hflags : next.dataQualityFlags = token.dataQualityFlags) :
    next.gapMarks = token.gapMarks := by
  unfold gapMarks
  rw [hlifecycle, hflags]

@[simp] theorem gapMarks_applyDataGap (token : TokenState) (event : NormalizedEvent)
    (ttl : TtlConfig) : (token.applyDataGap event ttl).gapMarks = (true, true) := by
  unfold applyDataGap transitionToken
  split
  · next hsame =>
      change token.lifecycle = .dataGap at hsame
      simp [gapMarks, hsame]
  · simp [gapMarks]

theorem activityTarget_eq_dataGap_iff (token : TokenState) :
    token.activityTarget = .dataGap ↔ token.lifecycle = .dataGap := by
  unfold activityTarget
  simp only
  split_ifs with h <;> simp [h]

/-- Activity leaves a token in the lifecycle of data gaps, and moves none there. -/
@[simp] theorem gapMarks_recomputeTransition (token : TokenState) (event : NormalizedEvent)
    (ttl : TtlConfig) : (token.recomputeTransition event ttl).1.gapMarks = token.gapMarks := by
  have hmoved : ∀ ttl : Duration, (transitionToken token token.activityTarget
      "activity_threshold" event.info.receivedAtWallTime ttl).1.gapMarks = token.gapMarks := by
    intro ttl
    unfold transitionToken
    split
    · rfl
    · next hne =>
        have htarget : token.activityTarget ≠ .dataGap := by
          intro h
          exact hne (((activityTarget_eq_dataGap_iff token).mp h).trans h.symm)
        have hlifecycle : token.lifecycle ≠ .dataGap := fun h =>
          htarget ((activityTarget_eq_dataGap_iff token).mpr h)
        simp [gapMarks, htarget, hlifecycle]
  exact kept_recomputeTransition (P := fun moved => moved.gapMarks = token.gapMarks) rfl
    (hmoved (ttlForConfig ttl token.activityTarget)) fun _ _ _ h => (gapMarks_congr rfl rfl).trans h

theorem dataQualityFlags_recordSignature (token : TokenState) (event : NormalizedEvent) :
    (token.recordSignature event).dataQualityFlags = token.dataQualityFlags :=
  field_recordSignature (fun _ _ _ _ => rfl) token event

end TokenState

namespace StateEngine

/-- A handler leaves the flags alone. -/
theorem dataQualityFlags_handler {s : StateEngine} {event : NormalizedEvent}
    {f : TokenState → TokenState} (h : s.handler event = some f) (token : TokenState) :
    (f token).dataQualityFlags = token.dataQualityFlags := by
  cases handles_of_handler h with
  | tokenCreated _ =>
      simp only [TokenState.applyTokenCreated, TokenState.updateMemoryBytes,
        TokenState.dataQualityFlags_recordSignature, TokenState.renewExpiry]
  | pumpBuy _ =>
      simp only [TokenState.applyBuy, TokenState.updateMemoryBytes, TokenState.renewExpiry,
        TokenState.applyTrade, TokenState.dataQualityFlags_recordSignature]
  | pumpSell _ _ =>
      simp only [TokenState.applySell, TokenState.updateMemoryBytes, TokenState.renewExpiry,
        TokenState.applyTrade, TokenState.dataQualityFlags_recordSignature]
  | bondingCurveUpdate _ =>
      simp only [TokenState.applyCurveUpdate]
      split <;> rfl
  | holderBalanceUpdate _ | tentativeSellIntentDetected _ | tentativeMaliciousSellWarning _
  | shredEmergencyExitArmed _ | shredEmergencyExitTriggered _ | shredSellIntentResolved _ => rfl

theorem gapMarks_handler {s : StateEngine} {event : NormalizedEvent}
    {f : TokenState → TokenState} (h : s.handler event = some f) (token : TokenState) :
    (f token).gapMarks = token.gapMarks :=
  TokenState.gapMarks_congr (lifecycle_handler h token) (dataQualityFlags_handler h token)

@[simp] theorem gapMarks_derivedRefresh (s : StateEngine) (event : NormalizedEvent) (k : String)
    (token : TokenState) : (s.derivedRefresh event k token).gapMarks = token.gapMarks :=
  field_derivedRefresh (fun _ _ => TokenState.gapMarks_congr rfl rfl)
    (fun _ _ _ => TokenState.gapMarks_congr rfl rfl) s event k token

/-! ## Tokens stay -/

/-- No event removes a token. -/
theorem isSome_lookup_applyEvent {s : StateEngine} {k : String}
    (h : (s.tokens.lookup k).isSome) (event : NormalizedEvent) :
    ((s.applyEvent event).1.tokens.lookup k).isSome := by
  rw [← Option.isSome_map (f := TokenState.core)]
  by_cases hreverted : event.info.canonicality = .reverted
  · rw [tokens_applyEvent_of_reverted hreverted, Option.isSome_map]
    exact h
  · cases hhandler : s.handler event with
    | none =>
        rw [core_applyEvent_of_no_handler hhandler hreverted, Option.isSome_map]
        exact h
    | some f =>
        obtain ⟨mint, -, hcore⟩ := core_applyEvent_of_handler hhandler hreverted
        rw [hcore]
        split
        · rfl
        · rw [Option.isSome_map]
          exact h

/-! ## Marks after one event -/

/-- The marks of the token of `k`, none while there is no token. -/
def gapMarks (s : StateEngine) (k : String) : Bool × Bool :=
  ((s.tokens.lookup k).map TokenState.gapMarks).getD (false, false)

theorem gapMarks_of_lookup {s : StateEngine} {k : String} {token : TokenState}
    (h : s.tokens.lookup k = some token) : s.gapMarks k = token.gapMarks := by
  simp [gapMarks, h]

/-- What follows the payload of an event changes no mark. -/
theorem gapMarks_applyEvent (s : StateEngine) {event : NormalizedEvent}
    (h : event.info.canonicality ≠ .reverted) (k : String) :
    (s.applyEvent event).1.gapMarks k = (s.applyPayload event).gapMarks k := by
  unfold gapMarks applyEvent
  rw [if_neg h, lookup_recomputeTransitions, lookup_refreshDerived]
  split <;> simp [Function.comp_def]

theorem gapMarks_applyEvent_of_reverted {s : StateEngine} {event : NormalizedEvent}
    (h : event.info.canonicality = .reverted) (k : String) :
    (s.applyEvent event).1.gapMarks k = s.gapMarks k := by
  unfold gapMarks
  rw [tokens_applyEvent_of_reverted h]

/-- An event that is no gap and no terminal of the token changes no mark of it. -/
theorem gapMarks_applyEvent_of_not_gap {s : StateEngine} {event : NormalizedEvent} {k : String}
    (hgap : ∀ payload, event.payload ≠ .dataGap payload) (hterminal : event.terminates k = false) :
    (s.applyEvent event).1.gapMarks k = s.gapMarks k := by
  by_cases hreverted : event.info.canonicality = .reverted
  · exact gapMarks_applyEvent_of_reverted hreverted k
  · rw [s.gapMarks_applyEvent hreverted]
    unfold gapMarks
    cases hhandler : s.handler event with
    | some f =>
        obtain ⟨mint, -, htokens⟩ := tokens_applyPayload_of_handler hhandler
        rw [htokens, KeyedMap.lookup_upsert]
        by_cases hk : k = mint.text
        · subst hk
          rw [if_pos rfl]
          cases s.tokens.lookup mint.text <;> simp [gapMarks_handler hhandler]
        · rw [if_neg hk]
    | none =>
        rcases lookup_applyPayload_of_no_handler hhandler k with
          hsame | ⟨payload, hpayload, hmint, -⟩ | ⟨payload, -, hpayload, -⟩
        · rw [hsame]
        · simp [NormalizedEvent.terminates, hpayload, hmint] at hterminal
        · exact absurd hpayload (hgap payload)

/-- A gap event is applied to a token once for each time it names the token. -/
theorem lookup_applyPayload_of_gap (s : StateEngine) {event : NormalizedEvent}
    {payload : DataGapEvent} (hpayload : event.payload = .dataGap payload) (k : String) :
    (s.applyPayload event).tokens.lookup k = (s.tokens.lookup k).map
      (fun token => token.applyDataGap event s.ttl)^[
        (payload.affectedTokens.map PubkeyValue.text).count k] := by
  simp only [applyPayload, hpayload, applyDataGap]
  rw [← KeyedMap.lookup_foldl_adjust, List.foldl_map]

theorem names_iff_count (payload : DataGapEvent) (k : String) :
    payload.names k = true ↔ (payload.affectedTokens.map PubkeyValue.text).count k ≠ 0 := by
  rw [Ne, List.count_eq_zero, not_not, List.mem_map]
  simp [DataGapEvent.names]

/-- A gap event marks the token that it names. -/
theorem gapMarks_applyEvent_of_gap {s : StateEngine} {event : NormalizedEvent}
    {payload : DataGapEvent} (hpayload : event.payload = .dataGap payload)
    (hreverted : event.info.canonicality ≠ .reverted) {k : String}
    (h : payload.names k = true → (s.tokens.lookup k).isSome) :
    (s.applyEvent event).1.gapMarks k = if payload.names k then (true, true) else s.gapMarks k := by
  have hnames := names_iff_count payload k
  rw [s.gapMarks_applyEvent hreverted]
  unfold gapMarks
  rw [s.lookup_applyPayload_of_gap hpayload]
  cases hn : (payload.affectedTokens.map PubkeyValue.text).count k with
  | zero =>
      rw [hn] at hnames
      simp [hnames]
  | succ n =>
      have hnamed : payload.names k = true := hnames.mpr (by omega)
      obtain ⟨token, hlookup⟩ := Option.isSome_iff_exists.mp (h hnamed)
      rw [if_pos hnamed, hlookup, Function.iterate_succ']
      simp

end StateEngine

end PumpLaunchTrader
