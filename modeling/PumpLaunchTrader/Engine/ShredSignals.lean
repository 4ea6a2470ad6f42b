import PumpLaunchTrader.Engine.Step

/-! # Shred signals of a token

Intents, warnings, armed and triggered exits and resolutions write the shred defense of the
token of their mint, and no other event writes any. -/

namespace PumpLaunchTrader

/-! ## Shred defense after one event -/

/-- The events that write the shred defense of a token. -/
def EventPayload.isShredSignal : EventPayload → Bool
  | .tentativeSellIntentDetected _ | .tentativeMaliciousSellWarning _
  | .shredEmergencyExitArmed _ | .shredEmergencyExitTriggered _
  | .shredSellIntentResolved _ => true
  | _ => false

/-- The warnings of tentative sells, and the exits that they arm or trigger. -/
def EventPayload.isExitSignal : EventPayload → Bool
  | .tentativeMaliciousSellWarning _ | .shredEmergencyExitArmed _
  | .shredEmergencyExitTriggered _ => true
  | _ => false

/-- The shred defense but for the threat index, which every refresh rewrites. -/
def TokenState.shredSignals (token : TokenState) : ShredDefenseState :=
  { token.shredDefense with exitThreatIndex := {} }

namespace TokenState

@[simp] theorem shredSignals_core (token : TokenState) :
    token.core.shredSignals = token.shredSignals := rfl

@[simp] theorem shredSignals_new (mint : PubkeyValue) (source : EventSource) :
    (TokenState.new mint source).shredSignals = {} := rfl

@[simp] theorem shredDefense_recordSignature (token : TokenState) (event : NormalizedEvent) :
    (token.recordSignature event).shredDefense = token.shredDefense :=
  field_recordSignature (fun _ _ _ _ => rfl) token event

@[simp] theorem shredDefense_applyTokenCreated (token : TokenState) (payload : TokenCreatedEvent)
    (event : NormalizedEvent) (ttl : TtlConfig) :
    (token.applyTokenCreated payload event ttl).shredDefense = token.shredDefense := by
  simp [applyTokenCreated, renewExpiry, updateMemoryBytes]

@[simp] theorem shredDefense_applyBuy (token : TokenState) (payload : PumpBuyEvent)
    (event : NormalizedEvent) (observation : TradeObservation) (ttl : TtlConfig) :
    (token.applyBuy payload event observation ttl).shredDefense = token.shredDefense := by
  simp [applyBuy, applyTrade, renewExpiry, updateMemoryBytes]

@[simp] theorem shredDefense_applySell (token : TokenState) (payload : PumpSellEvent)
    (event : NormalizedEvent) (observation : TradeObservation) (ttl : TtlConfig) :
    (token.applySell payload event observation ttl).shredDefense = token.shredDefense := by
  simp [applySell, applyTrade, renewExpiry, updateMemoryBytes]

@[simp] theorem shredDefense_applyCurveUpdate (token : TokenState)
    (payload : BondingCurveUpdateEvent) (event : NormalizedEvent) :
    (token.applyCurveUpdate payload event).shredDefense = token.shredDefense := by
  unfold applyCurveUpdate
  split
  split
  · rfl
  · rfl

@[simp] theorem shredDefense_applyHolderUpdate (token : TokenState)
    (payload : HolderBalanceUpdateEvent) (event : NormalizedEvent) :
    (token.applyHolderUpdate payload event).shredDefense = token.shredDefense := rfl

end TokenState

namespace StateEngine

/-- The shred signals of the token of `k`; those of a new token while there is none. -/
def shredSignals (s : StateEngine) (k : String) : ShredDefenseState :=
  ((s.tokens.lookup k).map TokenState.shredSignals).getD {}

theorem shredSignals_of_lookup {s : StateEngine} {k : String} {token : TokenState}
    (h : s.tokens.lookup k = some token) : s.shredSignals k = token.shredSignals := by
  simp [shredSignals, h]

@[simp] theorem shredSignals_new (ttl : TtlConfig) (k : String) :
    (new ttl).shredSignals k = {} := rfl

theorem shredSignals_of_core {s r : StateEngine} {k : String}
    (h : (r.tokens.lookup k).map TokenState.core = (s.tokens.lookup k).map TokenState.core) :
    r.shredSignals k = s.shredSignals k := by
  unfold shredSignals
  rw [TokenState.field_of_core TokenState.shredSignals_core h]

/-- The token that an event of `k` works on. -/
theorem shredSignals_getD (s : StateEngine) (mint : PubkeyValue) (source : EventSource) :
    ((s.tokens.lookup mint.text).getD (TokenState.new mint source)).shredSignals =
      s.shredSignals mint.text := by
  unfold shredSignals
  cases s.tokens.lookup mint.text <;> rfl

/-- An event with a handler writes the shred signals of its own mint. -/
theorem shredSignals_applyEvent_of_handler {s : StateEngine} {event : NormalizedEvent}
    {f : TokenState → TokenState} (hhandler : s.handler event = some f) {mint : PubkeyValue}
    (hmint : event.mint = some mint) (h : event.info.canonicality ≠ .reverted) (k : String) :
    (s.applyEvent event).1.shredSignals k =
      if k = mint.text then
        (f ((s.tokens.lookup k).getD (TokenState.new mint event.info.source))).shredSignals
      else s.shredSignals k := by
  have hcore := core_applyEvent_of_mint hhandler hmint h k
  by_cases hk : k = mint.text
  · rw [if_pos hk] at hcore ⊢
    rw [Option.map_eq_some_iff] at hcore
    obtain ⟨after, hafter, hsame⟩ := hcore
    rw [shredSignals_of_lookup hafter, ← TokenState.shredSignals_core, hsame,
      TokenState.shredSignals_core]
  · rw [if_neg hk] at hcore ⊢
    exact shredSignals_of_core hcore

theorem shredSignals_applyEvent_of_reverted {s : StateEngine} {event : NormalizedEvent}
    (h : event.info.canonicality = .reverted) (k : String) :
    (s.applyEvent event).1.shredSignals k = s.shredSignals k := by
  unfold shredSignals
  rw [tokens_applyEvent_of_reverted h]

/-- A handler of any other event leaves the shred defense alone. -/
theorem shredSignals_handler {s : StateEngine} {event : NormalizedEvent}
    {f : TokenState → TokenState} (hhandler : s.handler event = some f)
    (h : event.payload.isShredSignal = false) (token : TokenState) :
    (f token).shredSignals = token.shredSignals := by
  have hdefense : (f token).shredDefense = token.shredDefense := by
    cases handles_of_handler hhandler with
    | tokenCreated _ | pumpBuy _ | pumpSell _ _ | bondingCurveUpdate _
    | holderBalanceUpdate _ => simp
    | tentativeSellIntentDetected hpayload | tentativeMaliciousSellWarning hpayload
    | shredEmergencyExitArmed hpayload | shredEmergencyExitTriggered hpayload
    | shredSellIntentResolved hpayload =>
        rw [hpayload] at h
        cases h
  unfold TokenState.shredSignals
  rw [hdefense]

/-- An event that is no shred signal of the mint leaves its shred signals alone. -/
theorem shredSignals_applyEvent_of_not_signal (s : StateEngine) {event : NormalizedEvent}
    (h : event.payload.isShredSignal = false) (k : String) :
    (s.applyEvent event).1.shredSignals k = s.shredSignals k := by
  by_cases hreverted : event.info.canonicality = .reverted
  · exact shredSignals_applyEvent_of_reverted hreverted k
  · cases hhandler : s.handler event with
    | none => exact shredSignals_of_core (core_applyEvent_of_no_handler hhandler hreverted k)
    | some f =>
        obtain ⟨mint, hmint, -⟩ := tokens_applyPayload_of_handler hhandler
        rw [shredSignals_applyEvent_of_handler hhandler hmint hreverted]
        by_cases hk : k = mint.text
        · subst hk
          rw [if_pos rfl, shredSignals_handler hhandler h, shredSignals_getD]
        · rw [if_neg hk]

/-- A shred signal of `k` runs its handler on the token of `k`; else nothing is written. -/
theorem shredSignals_applyEvent (s : StateEngine) (event : NormalizedEvent) (k : String) :
    (s.applyEvent event).1.shredSignals k = s.shredSignals k ∨
      event.info.canonicality ≠ .reverted ∧ ∃ f mint token, s.handler event = some f ∧
        event.mint = some mint ∧ mint.text = k ∧ event.payload.isShredSignal = true ∧
          token.shredSignals = s.shredSignals k ∧
            (s.applyEvent event).1.shredSignals k = (f token).shredSignals := by
  by_cases hreverted : event.info.canonicality = .reverted
  · exact Or.inl (shredSignals_applyEvent_of_reverted hreverted k)
  · cases hsignal : event.payload.isShredSignal with
    | false => exact Or.inl (s.shredSignals_applyEvent_of_not_signal hsignal k)
    | true =>
        cases hhandler : s.handler event with
        | none =>
            exact Or.inl (shredSignals_of_core
              (core_applyEvent_of_no_handler hhandler hreverted k))
        | some f =>
            obtain ⟨mint, hmint, -⟩ := tokens_applyPayload_of_handler hhandler
            have hafter := shredSignals_applyEvent_of_handler hhandler hmint hreverted k
            by_cases hk : k = mint.text
            · subst hk
              rw [if_pos rfl] at hafter
              exact Or.inr ⟨hreverted, f, mint, _, rfl, hmint, rfl, rfl,
                s.shredSignals_getD mint event.info.source, hafter⟩
            · rw [if_neg hk] at hafter
              exact Or.inl hafter

/-! ## Pending sells of a mint -/

/-- The ids of the pending tentative sells of the token of `k`. -/
def pendingSellIds (s : StateEngine) (k : String) : Set String :=
  { id | ∃ token, s.tokens.lookup k = some token ∧
    id ∈ token.shredDefense.pendingTentativeSells }

theorem mem_pendingSellIds (s : StateEngine) (k id : String) :
    id ∈ s.pendingSellIds k ↔ id ∈ (s.shredSignals k).pendingTentativeSells := by
  unfold pendingSellIds shredSignals
  cases hlookup : s.tokens.lookup k with
  | none => simp
  | some token => simp [TokenState.shredSignals]

theorem pendingSellIds_of_shredSignals {s r : StateEngine} {k : String}
    (h : r.shredSignals k = s.shredSignals k) : r.pendingSellIds k = s.pendingSellIds k := by
  ext id
  rw [mem_pendingSellIds, mem_pendingSellIds, h]

section payloads

variable {s : StateEngine} {event : NormalizedEvent}

/-- What a handler makes of the pending sells of its token, the event makes of those of its
mint. -/
theorem pendingSellIds_applyEvent_of_handler {f : TokenState → TokenState}
    (hhandler : s.handler event = some f) {mint : PubkeyValue} (hmint : event.mint = some mint)
    (hreverted : event.info.canonicality ≠ .reverted) {P : String → Prop → Prop}
    (hf : ∀ token id, id ∈ (f token).shredSignals.pendingTentativeSells ↔
      P id (id ∈ token.shredSignals.pendingTentativeSells)) (k id : String) :
    id ∈ (s.applyEvent event).1.pendingSellIds k ↔
      if k = mint.text then P id (id ∈ s.pendingSellIds k) else id ∈ s.pendingSellIds k := by
  rw [mem_pendingSellIds, mem_pendingSellIds,
    shredSignals_applyEvent_of_handler hhandler hmint hreverted]
  by_cases hk : k = mint.text
  · subst hk
    rw [if_pos rfl, if_pos rfl, hf, shredSignals_getD]
  · rw [if_neg hk, if_neg hk]

/-- A handler that keeps the ids of the pending sells keeps those of every token. -/
theorem pendingSellIds_of_handler {f : TokenState → TokenState}
    (hhandler : s.handler event = some f)
    (hf : ∀ token id, id ∈ (f token).shredSignals.pendingTentativeSells ↔
      id ∈ token.shredSignals.pendingTentativeSells) (k : String) :
    (s.applyEvent event).1.pendingSellIds k = s.pendingSellIds k := by
  by_cases hreverted : event.info.canonicality = .reverted
  · exact pendingSellIds_of_shredSignals (shredSignals_applyEvent_of_reverted hreverted k)
  · obtain ⟨mint, hmint, -⟩ := tokens_applyPayload_of_handler hhandler
    ext id
    rw [pendingSellIds_applyEvent_of_handler hhandler hmint hreverted
      (P := fun _ pending => pending) hf, ite_self]

theorem pendingSellIds_intent {payload : TentativeSellIntentDetectedEvent}
    (hpayload : event.payload = .tentativeSellIntentDetected payload)
    (hreverted : event.info.canonicality ≠ .reverted) (k id : String) :
    id ∈ (s.applyEvent event).1.pendingSellIds k ↔
      id ∈ s.pendingSellIds k ∨ k = payload.mint.text ∧ id = payload.eventId.uuid := by
  have hhandler : s.handler event = some fun token => token.applyTentativeSellIntent payload := by
    simp [handler, hpayload]
  have hmint : event.mint = some payload.mint := by
    simp [NormalizedEvent.mint, hpayload]
  have hinsert : ∀ (token : TokenState) (id : String),
      id ∈ (token.applyTentativeSellIntent payload).shredSignals.pendingTentativeSells ↔
        id = payload.eventId.uuid ∨ id ∈ token.shredSignals.pendingTentativeSells := by
    intro token id
    simp only [TokenState.applyTentativeSellIntent, TokenState.shredSignals,
      TokenState.updateMemoryBytes, AList.mem_insert]
  rw [pendingSellIds_applyEvent_of_handler hhandler hmint hreverted
    (P := fun id pending => id = payload.eventId.uuid ∨ pending) hinsert]
  by_cases hk : k = payload.mint.text
  · simp [hk, or_comm]
  · simp [hk]

theorem pendingSellIds_warning {payload : TentativeMaliciousSellWarningEvent}
    (hpayload : event.payload = .tentativeMaliciousSellWarning payload) (k : String) :
    (s.applyEvent event).1.pendingSellIds k = s.pendingSellIds k := by
  have hhandler : s.handler event =
      some fun token => token.applyTentativeSellWarning payload := by
    simp [handler, hpayload]
  apply pendingSellIds_of_handler hhandler
  intro token id
  unfold TokenState.applyTentativeSellWarning TokenState.countWarningClass
  cases payload.sellerClassification <;> exact Iff.rfl

theorem pendingSellIds_armed {payload : ShredEmergencyExitArmedEvent}
    (hpayload : event.payload = .shredEmergencyExitArmed payload) (k : String) :
    (s.applyEvent event).1.pendingSellIds k = s.pendingSellIds k := by
  have hhandler : s.handler event = some fun token => token.applyShredExitArmed payload := by
    simp [handler, hpayload]
  exact pendingSellIds_of_handler hhandler (fun _ _ => Iff.rfl) k

theorem pendingSellIds_triggered {payload : ShredEmergencyExitTriggeredEvent}
    (hpayload : event.payload = .shredEmergencyExitTriggered payload) (k : String) :
    (s.applyEvent event).1.pendingSellIds k = s.pendingSellIds k := by
  have hhandler : s.handler event =
      some fun token => token.applyShredExitTriggered payload := by
    simp [handler, hpayload]
  apply pendingSellIds_of_handler hhandler
  intro token id
  exact KeyedMap.mem_adjust _ _ _ _

theorem pendingSellIds_resolved {payload : ShredSellIntentResolvedEvent}
    (hpayload : event.payload = .shredSellIntentResolved payload)
    (hreverted : event.info.canonicality ≠ .reverted) (k id : String) :
    id ∈ (s.applyEvent event).1.pendingSellIds k ↔
      id ∈ s.pendingSellIds k ∧
        ¬ (k = payload.mint.text ∧ id = payload.originalTentativeEventId.uuid) := by
  have hhandler : s.handler event = some fun token => token.applyShredSellResolved payload := by
    simp [handler, hpayload]
  have hmint : event.mint = some payload.mint := by
    simp [NormalizedEvent.mint, hpayload]
  have herase : ∀ (token : TokenState) (id : String),
      id ∈ (token.applyShredSellResolved payload).shredSignals.pendingTentativeSells ↔
        id ≠ payload.originalTentativeEventId.uuid ∧
          id ∈ token.shredSignals.pendingTentativeSells := by
    intro token id
    have hpending : (token.applyShredSellResolved payload).shredSignals.pendingTentativeSells =
        token.shredSignals.pendingTentativeSells.erase payload.originalTentativeEventId.uuid := by
      unfold TokenState.applyShredSellResolved TokenState.countResolution
      cases payload.outcome <;> cases payload.falsePositiveFlag <;> rfl
    rw [hpending, AList.mem_erase]
  rw [pendingSellIds_applyEvent_of_handler hhandler hmint hreverted
    (P := fun id pending => id ≠ payload.originalTentativeEventId.uuid ∧ pending) herase]
  by_cases hk : k = payload.mint.text
  · simp [hk, and_comm]
  · simp [hk]

end payloads

end StateEngine

end PumpLaunchTrader
