import PumpLaunchTrader.Engine.Derived
import PumpLaunchTrader.Engine.Holders

/-! # Redelivery of a holder update

The ledger drops a duplicate, but `apply_holder_update` writes the creator's holdings
around it in any case. -/

namespace PumpLaunchTrader

/-- The ledger without its counters of seen and deduplicated updates. -/
def HolderState.withoutDeliveryCounters (s : HolderState) : HolderState :=
  { s with counters := { s.counters with holderUpdatesSeen := 0, holderUpdatesDeduped := 0 } }

/-- What a redelivered holder update must leave alone. -/
structure RedeliveryView where
  creatorNetTokens : Decimal
  creatorInitialHolding : Decimal
  creatorSellPercentage : Decimal
  creatorCurrentRank : Option ℕ
  holderState : HolderState

namespace TokenState

def redeliveryView (token : TokenState) : RedeliveryView :=
  { creatorNetTokens := token.developerState.creatorNetTokens
    creatorInitialHolding := token.developerState.creatorInitialHolding
    creatorSellPercentage := token.developerState.creatorSellPercentage
    creatorCurrentRank := token.developerState.creatorCurrentRank
    holderState := token.holderState.withoutDeliveryCounters }

/-- The update would write the creator holdings that are there already, or none. -/
def HoldingsAgree (token : TokenState) (update : HolderBalanceUpdateEvent) : Prop :=
  token.creator ≠ some update.ownerWallet ∨
    token.developerState.creatorNetTokens = update.newBalance ∧
      update.newBalance ≤ token.developerState.creatorInitialHolding

theorem holderUpdateDeveloper_eq_iff (token : TokenState) (update : HolderBalanceUpdateEvent) :
    (token.holderUpdateDeveloper update).creatorNetTokens =
          token.developerState.creatorNetTokens ∧
        (token.holderUpdateDeveloper update).creatorInitialHolding =
          token.developerState.creatorInitialHolding ↔
      token.HoldingsAgree update := by
  unfold holderUpdateDeveloper HoldingsAgree
  by_cases h : token.creator = some update.ownerWallet
  · simp only [h, if_true, ne_eq, not_true_eq_false, false_or, max_eq_left_iff]
    exact and_congr_left fun _ => eq_comm
  · simp [h]

end TokenState

namespace StateEngine

/-- A duplicate of the update of a fresh token: what the token of the event becomes. -/
theorem redelivered_token {s : StateEngine} (hfresh : s.AllDerivedFresh)
    {event : NormalizedEvent} {update : HolderBalanceUpdateEvent}
    (hevent : event.payload = .holderBalanceUpdate update)
    (hreverted : event.info.canonicality ≠ .reverted) {token : TokenState}
    (htoken : s.token update.mint = some token)
    (hseen : holderUpdateDedupeKey update event ∈ token.holderState.appliedHolderUpdateKeys) :
    ∃ after, (s.applyEvent event).1.token update.mint = some after ∧
      after.holderState = token.holderState.countSeen.countDeduped ∧
      after.developerState.creatorNetTokens =
        (token.holderUpdateDeveloper update).creatorNetTokens ∧
      after.developerState.creatorInitialHolding =
        (token.holderUpdateDeveloper update).creatorInitialHolding ∧
      after.developerState.creatorSellPercentage = creatorSoldShare after.developerState ∧
      after.developerState.creatorCurrentRank = token.developerState.creatorCurrentRank := by
  have hhandler : s.handler event = some fun token => token.applyHolderUpdate update event := by
    simp [handler, hevent]
  have hmint : event.mint = some update.mint := by
    simp [NormalizedEvent.mint, hevent]
  have hat := core_applyEvent_of_mint hhandler hmint hreverted update.mint.text
  unfold StateEngine.token at htoken
  rw [if_pos rfl, htoken, Option.getD_some, Option.map_eq_some_iff] at hat
  obtain ⟨after, hafter, hsame⟩ := hat
  have hledger : after.holderState = token.holderState.countSeen.countDeduped := by
    have hholder := congrArg TokenState.holderState hsame
    rw [← HolderState.applyBalanceUpdate_of_seen token.holderState update event
      (update.tokenDecimals.getD token.reserveState.tokenDecimals) hseen]
    exact hholder
  have hcreator : after.creator = token.creator := by
    have h := congrArg TokenState.creator hsame
    exact h
  have hdeveloper := congrArg TokenState.developerState hsame
  have hnet := congrArg DeveloperState.creatorNetTokens hdeveloper
  have hinitial := congrArg DeveloperState.creatorInitialHolding hdeveloper
  have hafterFresh := keptByEvents_derivedFresh.applyEvent hfresh event hafter
  have htokenFresh := hfresh _ token htoken
  refine ⟨after, hafter, hledger, hnet, hinitial, hafterFresh.soldShare, ?_⟩
  rw [hafterFresh.rank, htokenFresh.rank]
  unfold TokenState.creatorRank
  rw [hcreator, hledger]
  rfl

/-- A key that a mint's ledger has recorded belongs to a token of that mint. -/
theorem token_of_key_mem {s : StateEngine} {mint : PubkeyValue} {key : String}
    (h : key ∈ (s.holderOf mint.text).appliedHolderUpdateKeys) :
    ∃ token, s.token mint = some token ∧ key ∈ token.holderState.appliedHolderUpdateKeys := by
  unfold holderOf at h
  unfold token
  cases hlookup : s.tokens.lookup mint.text with
  | none =>
      rw [hlookup] at h
      exact absurd h (Finset.notMem_empty key)
  | some token =>
      rw [hlookup] at h
      exact ⟨token, rfl, h⟩

/-- Redelivering a holder update that was applied at any earlier point changes nothing
exactly when it is reverted, its owner is not the creator, or it repeats the holdings that
the creator still has. -/
theorem redelivery_unchanged_iff (ttl : TtlConfig) (before since : List NormalizedEvent)
    (event : NormalizedEvent) (update : HolderBalanceUpdateEvent)
    (hevent : event.payload = .holderBalanceUpdate update) :
    ((((new ttl).applyEvents (before ++ event :: since)).applyEvent event).1.token
          update.mint).map TokenState.redeliveryView =
        (((new ttl).applyEvents (before ++ event :: since)).token update.mint).map
          TokenState.redeliveryView ↔
      event.info.canonicality = .reverted ∨
        ∀ token, ((new ttl).applyEvents (before ++ event :: since)).token update.mint =
          some token → token.HoldingsAgree update := by
  by_cases hreverted : event.info.canonicality = .reverted
  · refine ⟨fun _ => Or.inl hreverted, fun _ => ?_⟩
    unfold token
    rw [tokens_applyEvent_of_reverted hreverted]
  · generalize hs : (new ttl).applyEvents (before ++ event :: since) = s
    have hfresh : s.AllDerivedFresh := by
      rw [← hs]
      exact allDerivedFresh_reachable ttl _
    have hkey : holderUpdateDedupeKey update event ∈
        (s.holderOf update.mint.text).appliedHolderUpdateKeys := by
      rw [← hs, applyEvents_append, applyEvents_cons]
      apply applied_subset_applyEvents
      obtain ⟨decimals, hledger⟩ := holderOf_applyEvent_holderUpdate
        (s := (new ttl).applyEvents before) hevent hreverted
      rw [hledger]
      exact HolderState.key_mem_applyBalanceUpdate _ update event decimals
    obtain ⟨token, htoken, hseen⟩ := token_of_key_mem hkey
    obtain ⟨after, hafter, hledger, hnet, hinitial, hshare, hrank⟩ :=
      redelivered_token hfresh hevent hreverted htoken hseen
    have hagree := token.holderUpdateDeveloper_eq_iff update
    rw [← hnet, ← hinitial] at hagree
    have hviews : ((s.applyEvent event).1.token update.mint).map TokenState.redeliveryView =
        (s.token update.mint).map TokenState.redeliveryView ↔
          after.redeliveryView = token.redeliveryView := by
      rw [hafter, htoken, Option.map_some, Option.map_some, Option.some.injEq]
    rw [hviews]
    constructor
    · intro hview
      right
      intro other hother
      cases htoken.symm.trans hother
      exact hagree.mp ⟨congrArg RedeliveryView.creatorNetTokens hview,
        congrArg RedeliveryView.creatorInitialHolding hview⟩
    · rintro (h | h)
      · exact absurd h hreverted
      · obtain ⟨hsameNet, hsameInitial⟩ := hagree.mpr (h token htoken)
        have hsameShare : after.developerState.creatorSellPercentage =
            token.developerState.creatorSellPercentage := by
          rw [hshare, (hfresh _ token htoken).soldShare]
          unfold creatorSoldShare
          rw [hsameNet, hsameInitial]
        simp [TokenState.redeliveryView, hsameNet, hsameInitial, hsameShare, hrank, hledger,
          HolderState.withoutDeliveryCounters, HolderState.countSeen, HolderState.countDeduped]

/-! ## A creator that sold in between -/

/-- The creator's own account, holding 100 tokens. -/
def creatorUpdate : HolderBalanceUpdateEvent :=
  { mint := ⟨"mint"⟩
    ownerWallet := ⟨"creator"⟩
    tokenAccount := ⟨"creator-account"⟩
    newBalance := 100 }

def canonicalMeta (id : String) (slot : ℕ) : EventMeta :=
  { eventId := ⟨id⟩
    source := .geyserProcessed
    canonicality := .processed
    slot := slot
    accountWriteVersion := some slot }

def creatorUpdateEvent : NormalizedEvent :=
  { info := canonicalMeta "update" 2, payload := .holderBalanceUpdate creatorUpdate }

def creationEvent : NormalizedEvent :=
  { info := canonicalMeta "created" 1
    payload := .tokenCreated
      { mint := ⟨"mint"⟩
        tokenProgram := .splToken
        quoteMint := ⟨"quote"⟩
        quoteAssetType := .nativeSol
        creatorWallet := ⟨"creator"⟩
        payer := ⟨"creator"⟩
        bondingCurveAccount := ⟨"curve"⟩
        associatedBondingCurveAccount := none
        metadataAccount := none
        name := "name"
        symbol := "symbol"
        uri := "uri"
        createInstructionVariant := "create"
        sameTransactionBuys := 0
        sameSlotBuys := 0
        launchTransactionFingerprint := none } }

/-- The creator sells 40 of its tokens. -/
def creatorSellEvent : NormalizedEvent :=
  { info := canonicalMeta "sell" 3
    payload := .pumpSell
      { mint := ⟨"mint"⟩
        seller := ⟨"creator"⟩
        quoteOut := 1
        tokenIn := 40
        effectivePrice := 1 / 40 } }

theorem redelivery_unchanged_after_sell :
    ((((new sampleTtl).applyEvents ([creationEvent] ++ creatorUpdateEvent ::
            [creatorSellEvent])).applyEvent creatorUpdateEvent).1.token
          creatorUpdate.mint).map TokenState.redeliveryView =
        (((new sampleTtl).applyEvents ([creationEvent] ++ creatorUpdateEvent ::
          [creatorSellEvent])).token creatorUpdate.mint).map TokenState.redeliveryView ↔
      creatorUpdateEvent.info.canonicality = .reverted ∨
        ∀ token, ((new sampleTtl).applyEvents ([creationEvent] ++ creatorUpdateEvent ::
          [creatorSellEvent])).token creatorUpdate.mint = some token →
            token.HoldingsAgree creatorUpdate :=
  redelivery_unchanged_iff sampleTtl [creationEvent] [creatorSellEvent] creatorUpdateEvent
    creatorUpdate rfl

/-- Redelivering the creator's update after its sell gives it the sold tokens back. -/
theorem redelivery_unchanged_fails :
    ¬ ∀ (ttl : TtlConfig) (before since : List NormalizedEvent) (event : NormalizedEvent)
        (update : HolderBalanceUpdateEvent), event.payload = .holderBalanceUpdate update →
        ((((new ttl).applyEvents (before ++ event :: since)).applyEvent event).1.token
            update.mint).map TokenState.redeliveryView =
          (((new ttl).applyEvents (before ++ event :: since)).token update.mint).map
            TokenState.redeliveryView := by
  intro h
  have hview := h sampleTtl [creationEvent] [creatorSellEvent] creatorUpdateEvent
    creatorUpdate rfl
  have hnet := congrArg (Option.map RedeliveryView.creatorNetTokens) hview
  revert hnet
  decide +kernel

end StateEngine

end PumpLaunchTrader
