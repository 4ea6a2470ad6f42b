import PumpLaunchTrader.Engine.Step
import PumpLaunchTrader.Holder.Ledger

/-! # Holder ledgers inside the engine

Along any run, the holder ledger of a token is moved by ledger calls only, so the ledger
invariant holds of every token of a reachable engine. -/

namespace PumpLaunchTrader

namespace HolderState

/-- An applied update adds its dedupe key. -/
theorem keys_applyBalanceUpdate {s : HolderState} {update : HolderBalanceUpdateEvent}
    {event : NormalizedEvent} (decimals : UInt8)
    (h : holderUpdateDedupeKey update event ∉ s.appliedHolderUpdateKeys) :
    (s.applyBalanceUpdate update event decimals).appliedHolderUpdateKeys =
      insert (holderUpdateDedupeKey update event) s.appliedHolderUpdateKeys := by
  rw [applyBalanceUpdate_of_fresh _ _ _ _ h]
  exact s.countSeen.recordUpdate_keys update event decimals

/-- Dedupe keys are only ever added. -/
theorem applied_subset_applyOp (s : HolderState) (op : HolderOp) :
    s.appliedHolderUpdateKeys ⊆ (s.applyOp op).appliedHolderUpdateKeys := by
  cases op with
  | tradeCostBasis owner isBuy quote tokens observedAt latestPrice => exact Finset.Subset.refl _
  | balanceUpdate update event decimals =>
      by_cases hseen : holderUpdateDedupeKey update event ∈ s.appliedHolderUpdateKeys
      · rw [applyOp, applyBalanceUpdate_of_seen _ _ _ _ hseen]
        exact Finset.Subset.refl _
      · rw [applyOp, keys_applyBalanceUpdate decimals hseen]
        exact Finset.subset_insert _ _

/-- An update records its dedupe key. -/
theorem key_mem_applyBalanceUpdate (s : HolderState) (update : HolderBalanceUpdateEvent)
    (event : NormalizedEvent) (decimals : UInt8) :
    holderUpdateDedupeKey update event ∈
      (s.applyBalanceUpdate update event decimals).appliedHolderUpdateKeys := by
  by_cases hseen : holderUpdateDedupeKey update event ∈ s.appliedHolderUpdateKeys
  · rw [applyBalanceUpdate_of_seen _ _ _ _ hseen]
    exact hseen
  · rw [keys_applyBalanceUpdate decimals hseen]
    exact Finset.mem_insert_self _ _

end HolderState

namespace StateEngine

/-- The holder ledger of a mint; an unknown mint has the default one. -/
def holderOf (s : StateEngine) (k : String) : HolderState :=
  ((s.tokens.lookup k).map TokenState.holderState).getD {}

@[simp] theorem holderState_recordSignature (token : TokenState) (event : NormalizedEvent) :
    (token.recordSignature event).holderState = token.holderState :=
  TokenState.field_recordSignature (fun _ _ _ _ => rfl) token event

/-- A handler moves the holder ledger by at most one ledger call. -/
theorem holderState_handler {s : StateEngine} {event : NormalizedEvent}
    {f : TokenState → TokenState} (h : s.handler event = some f) (token : TokenState) :
    (f token).holderState = token.holderState ∨
      ∃ op, (f token).holderState = token.holderState.applyOp op := by
  have hledger := holderState_recordSignature token event
  cases handles_of_handler h with
  | tokenCreated _ =>
      left
      exact holderState_recordSignature _ event
  | @pumpBuy payload _ =>
      right
      refine ⟨.tradeCostBasis payload.buyer true payload.quoteIn payload.tokenOut
        event.info.receivedAtWallTime (s.buyObservation payload event).price, ?_⟩
      exact congrArg (fun ledger : HolderState => ledger.applyTradeCostBasis payload.buyer true
        payload.quoteIn payload.tokenOut event.info.receivedAtWallTime
        (s.buyObservation payload event).price) hledger
  | @pumpSell payload _ _ =>
      right
      refine ⟨.tradeCostBasis payload.seller false payload.quoteOut payload.tokenIn
        event.info.receivedAtWallTime (s.sellObservation payload event).price, ?_⟩
      exact congrArg (fun ledger : HolderState => ledger.applyTradeCostBasis payload.seller
        false payload.quoteOut payload.tokenIn event.info.receivedAtWallTime
        (s.sellObservation payload event).price) hledger
  | bondingCurveUpdate _ =>
      left
      simp only [TokenState.applyCurveUpdate]
      split <;> rfl
  | @holderBalanceUpdate payload _ =>
      right
      exact ⟨.balanceUpdate payload event
        (payload.tokenDecimals.getD token.reserveState.tokenDecimals), rfl⟩
  | tentativeSellIntentDetected _ | tentativeMaliciousSellWarning _ | shredEmergencyExitArmed _
  | shredEmergencyExitTriggered _ | shredSellIntentResolved _ =>
      left
      rfl

/-- An event moves the holder ledger of a mint by at most one ledger call. -/
theorem holderOf_applyEvent (s : StateEngine) (event : NormalizedEvent) (k : String) :
    (s.applyEvent event).1.holderOf k = s.holderOf k ∨
      ∃ op, (s.applyEvent event).1.holderOf k = (s.holderOf k).applyOp op := by
  unfold holderOf
  by_cases hreverted : event.info.canonicality = .reverted
  · left
    rw [tokens_applyEvent_of_reverted hreverted]
  · cases hhandler : s.handler event with
    | none =>
        left
        rw [TokenState.field_of_core (fun _ => rfl)
          (core_applyEvent_of_no_handler hhandler hreverted k)]
    | some f =>
        obtain ⟨mint, hmint, hcore⟩ := core_applyEvent_of_handler hhandler hreverted
        by_cases hk : k = mint.text
        · have hat := hcore k
          rw [if_pos hk] at hat
          have hledger : ((s.applyEvent event).1.tokens.lookup k).map TokenState.holderState =
              some _ := TokenState.field_of_core (b := some _) (fun _ => rfl) hat
          rw [hledger]
          have hbase : ((s.tokens.lookup k).getD
              (TokenState.new mint event.info.source)).holderState =
                ((s.tokens.lookup k).map TokenState.holderState).getD {} := by
            cases s.tokens.lookup k with
            | none => rfl
            | some token => rfl
          rw [Option.getD_some, ← hbase]
          exact holderState_handler hhandler _
        · left
          have hat := hcore k
          rw [if_neg hk] at hat
          rw [TokenState.field_of_core (fun _ => rfl) hat]

/-- The holder update of a mint runs `apply_balance_update` on its ledger. -/
theorem holderOf_applyEvent_holderUpdate {s : StateEngine} {event : NormalizedEvent}
    {payload : HolderBalanceUpdateEvent} (hevent : event.payload = .holderBalanceUpdate payload)
    (hreverted : event.info.canonicality ≠ .reverted) :
    ∃ decimals, (s.applyEvent event).1.holderOf payload.mint.text =
      (s.holderOf payload.mint.text).applyBalanceUpdate payload event decimals := by
  have hhandler : s.handler event = some fun token => token.applyHolderUpdate payload event := by
    simp [handler, hevent]
  have hmint : event.mint = some payload.mint := by
    simp [NormalizedEvent.mint, hevent]
  have hat := core_applyEvent_of_mint hhandler hmint hreverted payload.mint.text
  rw [if_pos rfl] at hat
  have hledger : ((s.applyEvent event).1.tokens.lookup payload.mint.text).map
      TokenState.holderState = some _ := TokenState.field_of_core (b := some _) (fun _ => rfl) hat
  unfold holderOf
  rw [hledger]
  cases s.tokens.lookup payload.mint.text with
  | none => exact ⟨_, rfl⟩
  | some token => exact ⟨_, rfl⟩

/-! ## Runs -/

/-- Every run of events keeps the ledger invariant of every mint. -/
theorem ledgerInvariant_applyEvents {s : StateEngine} (events : List NormalizedEvent)
    (k : String) (h : (s.holderOf k).LedgerInvariant) :
    ((s.applyEvents events).holderOf k).LedgerInvariant := by
  induction events generalizing s with
  | nil => exact h
  | cons event events ih =>
      apply ih
      rcases s.holderOf_applyEvent event k with hsame | ⟨op, hop⟩
      · rw [hsame]
        exact h
      · rw [hop]
        exact HolderState.ledgerInvariant_applyOp h op

/-- The holder ledger of every mint of a reachable engine satisfies the ledger invariant. -/
theorem ledgerInvariant_reachable (ttl : TtlConfig) (events : List NormalizedEvent)
    (k : String) : (((new ttl).applyEvents events).holderOf k).LedgerInvariant :=
  ledgerInvariant_applyEvents events k HolderState.ledgerInvariant_default

/-- No event of a run removes a dedupe key. -/
theorem applied_subset_applyEvents (s : StateEngine) (events : List NormalizedEvent)
    (k : String) :
    (s.holderOf k).appliedHolderUpdateKeys ⊆
      ((s.applyEvents events).holderOf k).appliedHolderUpdateKeys := by
  induction events generalizing s with
  | nil => exact Finset.Subset.refl _
  | cons event events ih =>
      apply Finset.Subset.trans _ (ih (s.applyEvent event).1)
      rcases s.holderOf_applyEvent event k with hsame | ⟨op, hop⟩
      · rw [hsame]
      · rw [hop]
        exact HolderState.applied_subset_applyOp _ op

end StateEngine

end PumpLaunchTrader
