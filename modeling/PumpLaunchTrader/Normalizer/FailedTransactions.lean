import PumpLaunchTrader.Engine.Market
import PumpLaunchTrader.Normalizer.ForeignPrograms

/-! # Failed transactions

The events of a failed transaction carry its status, and no handler of the engine reads it. A
failed creation, buy or sell counts like one that went through. -/

namespace PumpLaunchTrader

/-- The events of a transaction that come from no instruction. -/
def TransactionUpdate.observations (update : TransactionUpdate) (info : EventMeta) :
    List NormalizedEvent :=
  update.observedEvent info ::
    (update.holderBalanceEvents info ++ (update.fundingEvent info).toList)

theorem TransactionUpdate.isObservation_of_mem {update : TransactionUpdate} {info : EventMeta}
    {event : NormalizedEvent} (h : event ∈ update.observations info) :
    StateEngine.isObservation event = true ∧
      event.info.canonicality = info.canonicality := by
  rcases List.mem_cons.mp h with rfl | hbalances
  · exact ⟨rfl, rfl⟩
  · obtain ⟨hcanonicality, ⟨_, hpayload⟩ | ⟨_, hpayload⟩⟩ := payload_of_mem_balances hbalances
    · exact ⟨by simp [StateEngine.isObservation, hpayload], hcanonicality⟩
    · exact ⟨by simp [StateEngine.isObservation, hpayload], hcanonicality⟩

/-- The engine counts every creation, buy and sell of a canonical transaction. -/
theorem StateEngine.counts_of_isPumpEvent {event : NormalizedEvent}
    (hpump : event.isPumpEvent = true) (hreverted : event.info.canonicality ≠ .reverted)
    (htentative : event.info.canonicality ≠ .tentative) :
    (∃ k, countsTrade event k = true) ∨ ∃ w, countsLaunch event w = true := by
  unfold NormalizedEvent.isPumpEvent at hpump
  cases hpayload : event.payload with
  | tokenCreated payload =>
      exact .inr ⟨payload.creatorWallet.text, by simp [countsLaunch, hpayload, hreverted]⟩
  | pumpBuy payload =>
      exact .inl ⟨payload.mint.text, by simp [countsTrade, hpayload, hreverted]⟩
  | pumpSell payload =>
      exact .inl ⟨payload.mint.text,
        by simp [countsTrade, hpayload, hreverted, EventMeta.isTentative, htentative]⟩
  | _ => simp [hpayload] at hpump

namespace GeyserEventNormalizer

section Transactions

variable (self : GeyserEventNormalizer) {info : EventMeta} (update : TransactionUpdate)

theorem normalizeInstructions_of_none {ctx : TransactionContext} (index : ℕ)
    {instructions : List TransactionInstruction}
    (h : ∀ instruction ∈ instructions, pumpAction self.idls instruction = none) :
    self.normalizeInstructions ctx index instructions = (self, []) := by
  induction instructions generalizing index with
  | nil => rfl
  | cons instruction rest ih =>
      obtain ⟨hfirst, hrest⟩ := List.forall_mem_cons.mp h
      simp only [normalizeInstructions, normalizeInstruction_of_none hfirst, ih _ hrest,
        List.append_nil]

/-- An instruction that acts moves the market, whether the transaction succeeded or not. -/
theorem not_sameMarket_of_action (hreverted : info.canonicality ≠ .reverted)
    (htentative : info.canonicality ≠ .tentative) (s : StateEngine)
    {instruction : TransactionInstruction} (hmem : instruction ∈ update.instructions)
    (haction : pumpAction self.idls instruction ≠ none) :
    ¬ s.SameMarket (s.applyEvents (self.normalizeTransaction info update).2) := by
  obtain ⟨before, after, hsplit⟩ := List.append_of_mem hmem
  have hidls : (self.stateAfter { info, update } before).idls = self.idls :=
    self.normalizeInstructions_idls _ _ _
  have hpass := self.pass_step { info, update } before instruction
  rw [← hidls] at haction
  obtain ⟨event, hevent, hpump⟩ := hpass.exists_isPumpEvent haction
  have hinfo := (hpass.of_isPumpEvent hevent hpump).2
  have hloop := (self.mem_normalizeInstructions { info, update } update.instructions event).mpr
    ⟨before, instruction, after, hsplit, hevent⟩
  apply StateEngine.not_sameMarket_of_counts (self.mem_of_mem_loop info update hloop)
  apply StateEngine.counts_of_isPumpEvent hpump
  · rw [hinfo]
    exact hreverted
  · rw [hinfo]
    exact htentative

/-- The events of a canonical transaction move no market state exactly when none of its
instructions acts, its balances say what the creators hold already, and none of them loses a
cost basis. Whether the transaction succeeded plays no part. -/
theorem sameMarket_iff (hreverted : info.canonicality ≠ .reverted)
    (htentative : info.canonicality ≠ .tentative) (s : StateEngine) :
    s.SameMarket (s.applyEvents (self.normalizeTransaction info update).2) ↔
      (∀ instruction ∈ update.instructions, pumpAction self.idls instruction = none) ∧
        s.KeepsHoldings (update.observations info) ∧
        Runs.Along (fun s event => (s.applyEvent event).1) StateEngine.KeepsCostBases s
          (update.observations info) := by
  by_cases hinert : ∀ instruction ∈ update.instructions, pumpAction self.idls instruction = none
  · have hevents : (self.normalizeTransaction info update).2 = update.observations info := by
      simp only [normalizeTransaction, self.normalizeInstructions_of_none 0 hinert,
        List.nil_append, TransactionUpdate.observations]
    rw [hevents, and_iff_right hinert]
    apply StateEngine.sameMarket_observations_iff
    intro event hevent
    obtain ⟨hobservation, hcanonicality⟩ := TransactionUpdate.isObservation_of_mem hevent
    exact ⟨hobservation, by rw [hcanonicality]; exact hreverted⟩
  · refine iff_of_false ?_ fun hall => hinert hall.1
    obtain ⟨instruction, hmem, haction⟩ :
        ∃ instruction ∈ update.instructions, pumpAction self.idls instruction ≠ none := by
      simpa using hinert
    exact self.not_sameMarket_of_action update hreverted htentative s hmem haction

end Transactions

def reportedBalance : TransactionTokenBalance where
  accountIndex := 0
  mint := "mint"
  owner := some "user"
  programId := none
  amount := "5"
  decimals := 6

/-- A failed transaction without an instruction that acts. -/
def failedTransfer : TransactionUpdate where
  slot := 1
  signature := "s"
  transactionIndex := none
  succeeded := false
  instructions := [{ programId := "foreign", accounts := ["mint", "user"], dataHex := "00" }]
  preTokenBalances := [reportedBalance]
  postTokenBalances := [reportedBalance]

theorem sameMarket_failedTransfer :
    (StateEngine.new StateEngine.sampleTtl).SameMarket
      ((StateEngine.new StateEngine.sampleTtl).applyEvents
        (({ idls := [buyIdl] } : GeyserEventNormalizer).normalizeTransaction foreignInfo
          failedTransfer).2) := by
  apply (sameMarket_iff _ _ (by decide) (by decide) _).mpr
  refine ⟨by decide +kernel, ?_, ?_⟩
  · intro k creator held most hholdings
    simp [StateEngine.creatorHoldings, StateEngine.readToken, StateEngine.new] at hholdings
  · have hevents : failedTransfer.observations foreignInfo =
        [failedTransfer.observedEvent foreignInfo,
          failedTransfer.postBalanceEvent foreignInfo reportedBalance
            (failedTransfer.preTokenBalanceMap.lookup ("mint", "account_0"))] := rfl
    rw [hevents]
    refine ⟨?_, ?_, trivial⟩
    · intro update hpayload
      simp [TransactionUpdate.observedEvent] at hpayload
    · intro update hpayload wallet
      have hobserved : ∀ event ∈ [failedTransfer.observedEvent foreignInfo],
          StateEngine.isObservation event = true ∧ event.info.canonicality ≠ .reverted := by
        simp [StateEngine.isObservation, TransactionUpdate.observedEvent, foreignInfo]
      exact .inl (StateEngine.costBasis_applyEvents_of_lost hobserved rfl)

/-- A buy of a transaction that failed. -/
def failedBuy : TransactionUpdate := { foreignTransaction with succeeded := false }

/-- A failed buy counts as a trade. -/
theorem failedBuy_moves :
    ¬ (failedBuy.succeeded = false →
      (StateEngine.new StateEngine.sampleTtl).SameMarket
        ((StateEngine.new StateEngine.sampleTtl).applyEvents
          (({ idls := [buyIdl] } : GeyserEventNormalizer).normalizeTransaction foreignInfo
            failedBuy).2)) := by
  intro h
  have hmem : foreignBuy ∈ failedBuy.instructions := List.mem_singleton.mpr rfl
  exact not_sameMarket_of_action _ failedBuy (by decide) (by decide) _ hmem (by decide +kernel)
    (h rfl)

end GeyserEventNormalizer

end PumpLaunchTrader
