import PumpLaunchTrader.Model.Normalizer

/-! # What the normalizer does with an instruction

An instruction acts when some description decodes it to a creation, a buy or a sell and its
accounts name what the event needs. All others leave no trace. -/

namespace PumpLaunchTrader

/-- The creation, buy or sell that an instruction stands for. -/
inductive PumpAction where
  | create (mint creator bondingCurve : String)
  | buy (mint buyer : String)
  | sell (mint seller : String)
  deriving DecidableEq, Repr

/-- The creation that a decoded instruction names. -/
def createAction (decoded : DecodedInstruction) (instruction : TransactionInstruction) :
    Option PumpAction :=
  let accounts := accountMap decoded instruction
  let mint := (accountAlias accounts ["mint", "base_mint"]).getD ""
  let creator := ((accountAlias accounts ["creator", "user"]).or
    (valueString decoded.args "creator")).getD ""
  let bondingCurve := (accounts.lookup "bonding_curve").getD ""
  if mint = "" ∨ creator = "" ∨ bondingCurve = "" then none
  else some (.create mint creator bondingCurve)

/-- The trade that a decoded instruction names, with the trader's account names. -/
def tradeAction (trade : String → String → PumpAction) (traderNames : List String)
    (decoded : DecodedInstruction) (instruction : TransactionInstruction) :
    Option PumpAction :=
  let accounts := accountMap decoded instruction
  match accountAlias accounts ["mint", "base_mint"], accountAlias accounts traderNames with
  | some mint, some trader => some (trade mint trader)
  | _, _ => none

def decodedAction (decoded : DecodedInstruction) (instruction : TransactionInstruction) :
    Option PumpAction :=
  if isCreateName decoded.name then createAction decoded instruction
  else if isBuyName decoded.name then
    tradeAction .buy ["buyer", "user"] decoded instruction
  else if isSellName decoded.name then
    tradeAction .sell ["seller", "user"] decoded instruction
  else none

def pumpAction (idls : List LoadedIdl) (instruction : TransactionInstruction) :
    Option PumpAction :=
  (decodeKnownInstruction idls instruction).bind fun decoded =>
    decodedAction decoded instruction

namespace GeyserEventNormalizer

/-- What a creation teaches the normalizer: the mint of the curve, the creator of the mint,
and that nothing waits for the curve any more. -/
def learnCreation (self : GeyserEventNormalizer) (mint creator bondingCurve : String) :
    GeyserEventNormalizer :=
  { self with
    curveToMint := self.curveToMint.insert bondingCurve mint
    mintToCreator := self.mintToCreator.insert mint creator
    pendingCurveUpdates := self.pendingCurveUpdates.erase bondingCurve }

/-- The curve updates that a creation lets go. -/
def flushedEvents (self : GeyserEventNormalizer) (bondingCurve mint : String) :
    List NormalizedEvent :=
  ((self.pendingCurveUpdates.lookup bondingCurve).getD []).map (·.event mint)

def noteBuy (self : GeyserEventNormalizer) (mint : String) : GeyserEventNormalizer :=
  { self with seenBuyMints := insert mint self.seenBuyMints }

/-- One pass of the instruction loop, case by case. -/
inductive InstructionStep (self : GeyserEventNormalizer) (ctx : TransactionContext)
    (index : ℕ) (instruction : TransactionInstruction) :
    GeyserEventNormalizer → List NormalizedEvent → Prop where
  | skipped (h : pumpAction self.idls instruction = none) :
      InstructionStep self ctx index instruction self []
  | createdFailed (mint creator bondingCurve : String) (event : TokenCreatedEvent)
      (h : pumpAction self.idls instruction = some (.create mint creator bondingCurve))
      (hevent : event.mint = ⟨mint⟩ ∧ event.creatorWallet = ⟨creator⟩ ∧
        event.sameTransactionBuys = countDecodedBuys self.idls ctx.update.instructions)
      (hstatus : ctx.status = .failed) :
      InstructionStep self ctx index instruction self
        [{ info := ctx.instructionMeta index, payload := .tokenCreated event }]
  | created (mint creator bondingCurve : String) (event : TokenCreatedEvent)
      (h : pumpAction self.idls instruction = some (.create mint creator bondingCurve))
      (hevent : event.mint = ⟨mint⟩ ∧ event.creatorWallet = ⟨creator⟩ ∧
        event.sameTransactionBuys = countDecodedBuys self.idls ctx.update.instructions)
      (hstatus : ctx.status ≠ .failed) :
      InstructionStep self ctx index instruction (self.learnCreation mint creator bondingCurve)
        ({ info := ctx.instructionMeta index, payload := .tokenCreated event } ::
          self.flushedEvents bondingCurve mint)
  | bought (mint buyer : String) (event : PumpBuyEvent)
      (h : pumpAction self.idls instruction = some (.buy mint buyer))
      (hevent : event.mint = ⟨mint⟩ ∧ event.buyer = ⟨buyer⟩) :
      InstructionStep self ctx index instruction (self.noteBuy mint)
        [{ info := ctx.instructionMeta index, payload := .pumpBuy event }]
  | sold (mint seller : String) (event : PumpSellEvent)
      (h : pumpAction self.idls instruction = some (.sell mint seller))
      (hevent : event.mint = ⟨mint⟩ ∧ event.seller = ⟨seller⟩) :
      InstructionStep self ctx index instruction self
        [{ info := ctx.instructionMeta index, payload := .pumpSell event }]

section Arms

variable (self : GeyserEventNormalizer) (ctx : TransactionContext) (index : ℕ)
  {instruction : TransactionInstruction} {decoded : DecodedInstruction}

theorem pumpAction_of_decoded
    (hdecoded : decodeKnownInstruction self.idls instruction = some decoded) :
    pumpAction self.idls instruction = decodedAction decoded instruction := by
  simp [pumpAction, hdecoded]

theorem normalizeCreate_step
    (hdecoded : decodeKnownInstruction self.idls instruction = some decoded)
    (hname : isCreateName decoded.name = true) :
    InstructionStep self ctx index instruction
      (self.normalizeCreate ctx index instruction decoded).1
      (self.normalizeCreate ctx index instruction decoded).2 := by
  have haction : pumpAction self.idls instruction = createAction decoded instruction := by
    rw [self.pumpAction_of_decoded hdecoded, decodedAction, if_pos hname]
  simp only [createAction] at haction
  simp only [normalizeCreate]
  split at haction
  · rename_i hempty
    rw [if_pos hempty]
    exact .skipped haction
  · rename_i hfull
    rw [if_neg hfull]
    split
    · rename_i hfailed
      exact .createdFailed _ _ _ _ haction ⟨rfl, rfl, rfl⟩ hfailed
    · rename_i hfailed
      exact .created _ _ _ _ haction ⟨rfl, rfl, rfl⟩ hfailed

theorem normalizeBuy_step
    (hdecoded : decodeKnownInstruction self.idls instruction = some decoded)
    (hcreate : isCreateName decoded.name ≠ true) (hname : isBuyName decoded.name = true) :
    InstructionStep self ctx index instruction
      (self.normalizeBuy ctx index instruction decoded).1
      (self.normalizeBuy ctx index instruction decoded).2 := by
  have haction : pumpAction self.idls instruction =
      tradeAction .buy ["buyer", "user"] decoded instruction := by
    rw [self.pumpAction_of_decoded hdecoded, decodedAction, if_neg hcreate, if_pos hname]
  cases hmint : accountAlias (accountMap decoded instruction) ["mint", "base_mint"] with
  | none =>
    simp only [tradeAction, hmint] at haction
    simp only [normalizeBuy, hmint]
    exact .skipped haction
  | some mint =>
    cases hbuyer : accountAlias (accountMap decoded instruction) ["buyer", "user"] with
    | none =>
      simp only [tradeAction, hmint, hbuyer] at haction
      simp only [normalizeBuy, hmint, hbuyer]
      exact .skipped haction
    | some buyer =>
      simp only [tradeAction, hmint, hbuyer] at haction
      simp only [normalizeBuy, hmint, hbuyer]
      exact .bought mint buyer _ haction ⟨rfl, rfl⟩

theorem normalizeSell_step
    (hdecoded : decodeKnownInstruction self.idls instruction = some decoded)
    (hcreate : isCreateName decoded.name ≠ true) (hbuy : isBuyName decoded.name ≠ true)
    (hname : isSellName decoded.name = true) :
    InstructionStep self ctx index instruction
      (self.normalizeSell ctx index instruction decoded).1
      (self.normalizeSell ctx index instruction decoded).2 := by
  have haction : pumpAction self.idls instruction =
      tradeAction .sell ["seller", "user"] decoded instruction := by
    rw [self.pumpAction_of_decoded hdecoded, decodedAction, if_neg hcreate, if_neg hbuy,
      if_pos hname]
  cases hmint : accountAlias (accountMap decoded instruction) ["mint", "base_mint"] with
  | none =>
    simp only [tradeAction, hmint] at haction
    simp only [normalizeSell, hmint]
    exact .skipped haction
  | some mint =>
    cases hseller : accountAlias (accountMap decoded instruction) ["seller", "user"] with
    | none =>
      simp only [tradeAction, hmint, hseller] at haction
      simp only [normalizeSell, hmint, hseller]
      exact .skipped haction
    | some seller =>
      simp only [tradeAction, hmint, hseller] at haction
      simp only [normalizeSell, hmint, hseller]
      exact .sold mint seller _ haction ⟨rfl, rfl⟩

end Arms

theorem normalizeInstruction_step (self : GeyserEventNormalizer) (ctx : TransactionContext)
    (index : ℕ) (instruction : TransactionInstruction) :
    InstructionStep self ctx index instruction
      (self.normalizeInstruction ctx index instruction).1
      (self.normalizeInstruction ctx index instruction).2 := by
  simp only [normalizeInstruction]
  split
  · rename_i hdecoded
    exact .skipped (by simp [pumpAction, hdecoded])
  · rename_i decoded hdecoded
    by_cases hcreate : isCreateName decoded.name = true
    · rw [if_pos hcreate]
      exact self.normalizeCreate_step ctx index hdecoded hcreate
    · rw [if_neg hcreate]
      by_cases hbuy : isBuyName decoded.name = true
      · rw [if_pos hbuy]
        exact self.normalizeBuy_step ctx index hdecoded hcreate hbuy
      · rw [if_neg hbuy]
        by_cases hsell : isSellName decoded.name = true
        · rw [if_pos hsell]
          exact self.normalizeSell_step ctx index hdecoded hcreate hbuy hsell
        · rw [if_neg hsell]
          refine .skipped ?_
          rw [self.pumpAction_of_decoded hdecoded, decodedAction, if_neg hcreate, if_neg hbuy,
            if_neg hsell]

theorem normalizeInstruction_of_none {self : GeyserEventNormalizer} {ctx : TransactionContext}
    {index : ℕ} {instruction : TransactionInstruction}
    (h : pumpAction self.idls instruction = none) :
    self.normalizeInstruction ctx index instruction = (self, []) := by
  have hstep := self.normalizeInstruction_step ctx index instruction
  generalize self.normalizeInstruction ctx index instruction = r at hstep ⊢
  obtain ⟨next, events⟩ := r
  cases hstep with
  | skipped _ => rfl
  | createdFailed _ _ _ _ haction => simp [h] at haction
  | created _ _ _ _ haction => simp [h] at haction
  | bought _ _ _ haction => simp [h] at haction
  | sold _ _ _ haction => simp [h] at haction

end GeyserEventNormalizer

/-! ## The kinds of events -/

/-- The event is a `DataGap`. -/
def NormalizedEvent.isDataGap (self : NormalizedEvent) : Bool :=
  match self.payload with
  | .dataGap _ => true
  | _ => false

namespace TransactionUpdate

theorem fundingEvent_payload {self : TransactionUpdate} {info : EventMeta}
    {event : NormalizedEvent} (h : self.fundingEvent info = some event) :
    event.info = info ∧ ∃ funding, event.payload = .walletFunding funding := by
  simp only [fundingEvent, Option.bind_eq_bind, Option.bind_eq_some_iff] at h
  obtain ⟨instruction, -, wallet, -, funder, -, amount, -, h⟩ := h
  split at h
  · simp at h
  · obtain rfl := Option.some.inj h
    exact ⟨rfl, _, rfl⟩

theorem mem_postBalanceEvents (self : TransactionUpdate) (info : EventMeta)
    (balances : List TransactionTokenBalance)
    (pre : KeyedMap (String × String) PreTokenBalance) {event : NormalizedEvent}
    (h : event ∈ (self.postBalanceEvents info balances pre).1) :
    ∃ balance previous, event = self.postBalanceEvent info balance previous := by
  induction balances generalizing pre with
  | nil => simp [postBalanceEvents] at h
  | cons balance rest ih =>
    rcases List.mem_cons.mp h with rfl | h
    · exact ⟨balance, _, rfl⟩
    · exact ih _ h

theorem mem_holderBalanceEvents {self : TransactionUpdate} {info : EventMeta}
    {event : NormalizedEvent} (h : event ∈ self.holderBalanceEvents info) :
    (∃ balance previous, event = self.postBalanceEvent info balance previous) ∨
      ∃ mint previous, event = self.closedBalanceEvent info mint previous := by
  rcases List.mem_append.mp h with h | h
  · exact .inl (self.mem_postBalanceEvents info _ _ h)
  · obtain ⟨e, -, rfl⟩ := List.mem_map.mp h
    exact .inr ⟨_, _, rfl⟩

/-- The last events of a transaction are about a holder's balance or a wallet's funding. -/
theorem payload_of_mem_balances {self : TransactionUpdate} {info : EventMeta}
    {event : NormalizedEvent}
    (h : event ∈ self.holderBalanceEvents info ++ (self.fundingEvent info).toList) :
    event.info.canonicality = info.canonicality ∧
      ((∃ holder, event.payload = .holderBalanceUpdate holder) ∨
        ∃ funding, event.payload = .walletFunding funding) := by
  rcases List.mem_append.mp h with hholder | hfunding
  · rcases mem_holderBalanceEvents hholder with ⟨_, _, rfl⟩ | ⟨_, _, rfl⟩
    · exact ⟨rfl, .inl ⟨_, rfl⟩⟩
    · exact ⟨rfl, .inl ⟨_, rfl⟩⟩
  · obtain ⟨hinfo, hpayload⟩ := fundingEvent_payload (Option.mem_toList.mp hfunding)
    exact ⟨by rw [hinfo], .inr hpayload⟩

end TransactionUpdate

namespace GeyserEventNormalizer

theorem mem_flushedEvents {self : GeyserEventNormalizer} {bondingCurve mint : String}
    {event : NormalizedEvent} (h : event ∈ self.flushedEvents bondingCurve mint) :
    ∃ pending : PendingCurveUpdate, event = pending.event mint := by
  obtain ⟨pending, -, rfl⟩ := List.mem_map.mp h
  exact ⟨pending, rfl⟩

theorem InstructionStep.isDataGap {self next : GeyserEventNormalizer}
    {ctx : TransactionContext} {index : ℕ} {instruction : TransactionInstruction}
    {events : List NormalizedEvent}
    (h : InstructionStep self ctx index instruction next events) :
    ∀ event ∈ events, event.isDataGap = false := by
  intro event hevent
  cases h with
  | skipped _ => simp at hevent
  | created mint creator curve created =>
    rcases List.mem_cons.mp hevent with rfl | hflushed
    · rfl
    · obtain ⟨pending, rfl⟩ := mem_flushedEvents hflushed
      rfl
  | createdFailed mint creator curve created =>
    obtain rfl := List.mem_singleton.mp hevent
    rfl
  | bought mint buyer bought =>
    obtain rfl := List.mem_singleton.mp hevent
    rfl
  | sold mint seller sold =>
    obtain rfl := List.mem_singleton.mp hevent
    rfl

theorem normalizeInstructions_isDataGap (self : GeyserEventNormalizer)
    (ctx : TransactionContext) (index : ℕ) (instructions : List TransactionInstruction) :
    ∀ event ∈ (self.normalizeInstructions ctx index instructions).2,
      event.isDataGap = false := by
  induction instructions generalizing self index with
  | nil => simp [normalizeInstructions]
  | cons instruction rest ih =>
    intro event hevent
    rcases List.mem_append.mp hevent with hevent | hevent
    · exact (self.normalizeInstruction_step ctx index instruction).isDataGap event hevent
    · exact ih _ _ event hevent

theorem normalizeTransaction_isDataGap (self : GeyserEventNormalizer) (info : EventMeta)
    (update : TransactionUpdate) :
    ∀ event ∈ (self.normalizeTransaction info update).2, event.isDataGap = false := by
  intro event hevent
  rw [normalizeTransaction, List.mem_cons, List.mem_append] at hevent
  rcases hevent with rfl | hloop | hbalances
  · rfl
  · exact self.normalizeInstructions_isDataGap _ _ _ event hloop
  · obtain ⟨-, ⟨_, hpayload⟩ | ⟨_, hpayload⟩⟩ :=
      TransactionUpdate.payload_of_mem_balances hbalances
    · simp [NormalizedEvent.isDataGap, hpayload]
    · simp [NormalizedEvent.isDataGap, hpayload]

theorem normalizeAccount_isDataGap (self : GeyserEventNormalizer) (info : EventMeta)
    (update : AccountUpdate) :
    ∀ event ∈ (self.normalizeAccount info update).2, event.isDataGap = false := by
  intro event hevent
  simp only [normalizeAccount] at hevent
  split at hevent
  · simp at hevent
  · split at hevent
    · simp at hevent
    · split at hevent
      · obtain rfl := List.mem_singleton.mp hevent
        rfl
      · simp at hevent

/-- A gap among the events is a gap of the ingest. -/
theorem normalizeOutputs_dataGap (self : GeyserEventNormalizer) (outputs : List IngestOutput)
    {event : NormalizedEvent} (hevent : event ∈ (self.normalizeOutputs outputs).2)
    (hgap : event.isDataGap = true) :
    ∃ info gap, IngestOutput.dataGap info gap ∈ outputs ∧
      event = { info, payload := .dataGap gap } := by
  induction outputs generalizing self with
  | nil => simp [normalizeOutputs] at hevent
  | cons output rest ih =>
    rcases List.mem_append.mp hevent with hevent | hevent
    · cases output with
      | transaction info update =>
        rw [self.normalizeTransaction_isDataGap info update event hevent] at hgap
        simp at hgap
      | account info update =>
        rw [self.normalizeAccount_isDataGap info update event hevent] at hgap
        simp at hgap
      | dataGap info gap => exact ⟨info, gap, by simp, List.mem_singleton.mp hevent⟩
      | slot info update => simp [normalizeOutput] at hevent
      | block info update => simp [normalizeOutput] at hevent
    · obtain ⟨info, gap, hmem, heq⟩ := ih _ hevent
      exact ⟨info, gap, List.mem_cons_of_mem _ hmem, heq⟩

/-! ## Passes of the loop -/

section Passes

variable (self : GeyserEventNormalizer) (ctx : TransactionContext)

theorem InstructionStep.idls {self next : GeyserEventNormalizer} {ctx : TransactionContext}
    {index : ℕ} {instruction : TransactionInstruction} {events : List NormalizedEvent}
    (h : InstructionStep self ctx index instruction next events) : next.idls = self.idls := by
  cases h <;> rfl

theorem normalizeInstructions_idls (index : ℕ) (instructions : List TransactionInstruction) :
    (self.normalizeInstructions ctx index instructions).1.idls = self.idls := by
  induction instructions generalizing self index with
  | nil => rfl
  | cons instruction rest ih =>
    exact (ih _ _).trans (self.normalizeInstruction_step ctx index instruction).idls

theorem normalizeInstructions_append (index : ℕ) (before after : List TransactionInstruction) :
    self.normalizeInstructions ctx index (before ++ after) =
      (let first := self.normalizeInstructions ctx index before
       let others := first.1.normalizeInstructions ctx (index + before.length) after
       (others.1, first.2 ++ others.2)) := by
  induction before generalizing self index with
  | nil => rfl
  | cons instruction before ih =>
    have hindex : index + 1 + before.length = index + (before.length + 1) := by omega
    simp only [List.cons_append, normalizeInstructions, ih, List.length_cons, hindex,
      List.append_assoc]

/-- The state in front of the pass behind the instructions `before`. -/
def stateAfter (before : List TransactionInstruction) : GeyserEventNormalizer :=
  (self.normalizeInstructions ctx 0 before).1

/-- What the pass behind the instructions `before` does with an instruction. -/
def pass (before : List TransactionInstruction) (instruction : TransactionInstruction) :
    GeyserEventNormalizer × List NormalizedEvent :=
  (self.stateAfter ctx before).normalizeInstruction ctx before.length instruction

theorem pass_step (before : List TransactionInstruction) (instruction : TransactionInstruction) :
    InstructionStep (self.stateAfter ctx before) ctx before.length instruction
      (self.pass ctx before instruction).1 (self.pass ctx before instruction).2 :=
  (self.stateAfter ctx before).normalizeInstruction_step ctx before.length instruction

/-- The events of the loop are those of its passes. -/
theorem mem_normalizeInstructions (instructions : List TransactionInstruction)
    (event : NormalizedEvent) :
    event ∈ (self.normalizeInstructions ctx 0 instructions).2 ↔
      ∃ before instruction after, instructions = before ++ instruction :: after ∧
        event ∈ (self.pass ctx before instruction).2 := by
  constructor
  · intro hevent
    induction instructions using List.reverseRecOn with
    | nil => simp [normalizeInstructions] at hevent
    | append_singleton before instruction ih =>
      rw [normalizeInstructions_append] at hevent
      rcases List.mem_append.mp hevent with hevent | hevent
      · obtain ⟨before', instruction', after, rfl, hpass⟩ := ih hevent
        exact ⟨before', instruction', after ++ [instruction], by simp, hpass⟩
      · refine ⟨before, instruction, [], rfl, ?_⟩
        simpa [normalizeInstructions, pass, stateAfter] using hevent
  · rintro ⟨before, instruction, after, rfl, hpass⟩
    rw [normalizeInstructions_append]
    refine List.mem_append_right _ (List.mem_append_left _ ?_)
    simpa [pass, stateAfter] using hpass

end Passes

section Kinds

variable {self next : GeyserEventNormalizer} {ctx : TransactionContext} {index : ℕ}
  {instruction : TransactionInstruction} {events : List NormalizedEvent}

/-- A pass emits creations, buys and sells only for an action, with the place of its
instruction. -/
theorem InstructionStep.of_isPumpEvent
    (h : InstructionStep self ctx index instruction next events) {event : NormalizedEvent}
    (hevent : event ∈ events) (hpump : event.isPumpEvent = true) :
    pumpAction self.idls instruction ≠ none ∧ event.info = ctx.instructionMeta index := by
  cases h with
  | skipped _ => simp at hevent
  | createdFailed mint creator curve created haction =>
    obtain rfl := List.mem_singleton.mp hevent
    exact ⟨by simp [haction], rfl⟩
  | created mint creator curve created haction =>
    rcases List.mem_cons.mp hevent with rfl | hflushed
    · exact ⟨by simp [haction], rfl⟩
    · obtain ⟨pending, rfl⟩ := mem_flushedEvents hflushed
      simp [NormalizedEvent.isPumpEvent, PendingCurveUpdate.event] at hpump
  | bought mint buyer bought haction =>
    obtain rfl := List.mem_singleton.mp hevent
    exact ⟨by simp [haction], rfl⟩
  | sold mint seller sold haction =>
    obtain rfl := List.mem_singleton.mp hevent
    exact ⟨by simp [haction], rfl⟩

/-- An action emits a creation, a buy or a sell. -/
theorem InstructionStep.exists_isPumpEvent
    (h : InstructionStep self ctx index instruction next events)
    (haction : pumpAction self.idls instruction ≠ none) :
    ∃ event ∈ events, event.isPumpEvent = true := by
  cases h with
  | skipped hnone => exact absurd hnone haction
  | createdFailed => exact ⟨_, List.mem_cons_self, rfl⟩
  | created => exact ⟨_, List.mem_cons_self, rfl⟩
  | bought => exact ⟨_, List.mem_cons_self, rfl⟩
  | sold => exact ⟨_, List.mem_cons_self, rfl⟩

end Kinds

/-! ## Events of a transaction -/

section Transactions

variable (self : GeyserEventNormalizer) (info : EventMeta) (update : TransactionUpdate)

/-- The events of a transaction that are of the loop's kinds come out of the loop. -/
theorem mem_loop_of_mem {event : NormalizedEvent}
    (hevent : event ∈ (self.normalizeTransaction info update).2)
    (hkind : event.isPumpEvent = true) :
    event ∈ (self.normalizeInstructions { info, update } 0 update.instructions).2 := by
  rw [normalizeTransaction, List.mem_cons, List.mem_append] at hevent
  rcases hevent with rfl | hloop | hbalances
  · simp [NormalizedEvent.isPumpEvent, TransactionUpdate.observedEvent] at hkind
  · exact hloop
  · obtain ⟨-, ⟨_, hpayload⟩ | ⟨_, hpayload⟩⟩ :=
      TransactionUpdate.payload_of_mem_balances hbalances
    · simp [NormalizedEvent.isPumpEvent, hpayload] at hkind
    · simp [NormalizedEvent.isPumpEvent, hpayload] at hkind

theorem mem_of_mem_loop {event : NormalizedEvent}
    (h : event ∈ (self.normalizeInstructions { info, update } 0 update.instructions).2) :
    event ∈ (self.normalizeTransaction info update).2 :=
  List.mem_cons_of_mem _ (List.mem_append_left _ h)

end Transactions

end GeyserEventNormalizer

end PumpLaunchTrader
