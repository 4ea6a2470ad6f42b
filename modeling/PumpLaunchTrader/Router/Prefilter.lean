import PumpLaunchTrader.Router.Pressure

/-! # The prefilter cascade and active mints

Two prefilters look at a transaction. The one for Pump instructions goes by the first mint of
the token balances and, where it answers, decides alone; the one for transactions looks for
any active mint. -/

namespace PumpLaunchTrader

namespace SubscribeUpdate

theorem tokenBalanceMints_eq_nil {self : SubscribeUpdate} (h : self.transactionInfo = none) :
    self.tokenBalanceMints = [] := by
  simp [tokenBalanceMints, tokenBalances, h]

theorem mappedMints_eq_nil {self : SubscribeUpdate} (h : self.accountKeys = [])
    (map : KeyedMap (List UInt8) String) : self.mappedMints map = [] := by
  simp [mappedMints, h]

theorem accountKeys_eq_nil {self : SubscribeUpdate} (h : self.transactionInfo = none) :
    self.accountKeys = [] := by
  simp [accountKeys, message, h]

end SubscribeUpdate

/-- The update carries a mint of the set, in its token balances or through an account that
is mapped to it. -/
def CarriesMint (update : SubscribeUpdate) (mints : Finset String)
    (tokenAccountToMint : KeyedMap (List UInt8) String) : Prop :=
  ∃ mint ∈ mints,
    mint ∈ update.tokenBalanceMints ∨ mint ∈ update.mappedMints tokenAccountToMint

theorem CarriesMint.transaction {update : SubscribeUpdate} {mints : Finset String}
    {map : KeyedMap (List UInt8) String} (h : CarriesMint update mints map) :
    ∃ tx info, update.updateOneof = some (.transaction tx) ∧ tx.transaction = some info ∧
      ¬ (update.accountKeys = [] ∧ info.status = none) := by
  have hinfo : update.transactionInfo ≠ none := by
    intro hnone
    obtain ⟨mint, -, hbalance | hmapped⟩ := h
    · simp [SubscribeUpdate.tokenBalanceMints_eq_nil hnone] at hbalance
    · simp [SubscribeUpdate.mappedMints_eq_nil
        (SubscribeUpdate.accountKeys_eq_nil hnone)] at hmapped
  obtain ⟨info, hsome⟩ := Option.ne_none_iff_exists'.mp hinfo
  have hshape := hsome
  simp only [SubscribeUpdate.transactionInfo] at hshape
  split at hshape
  · rename_i tx htx
    refine ⟨tx, info, htx, hshape, ?_⟩
    rintro ⟨hkeys, hstatus⟩
    obtain ⟨mint, -, hbalance | hmapped⟩ := h
    · simp [SubscribeUpdate.tokenBalanceMints, SubscribeUpdate.tokenBalances, hsome,
        hstatus] at hbalance
    · simp [SubscribeUpdate.mappedMints_eq_nil hkeys] at hmapped
  · simp at hshape

/-! ## The transaction prefilter -/

/-- Without a creation the transaction prefilter passes an update that carries an active
mint, for such a mint. -/
theorem prefilterTransactionUpdate_carries {update : SubscribeUpdate}
    {activeMints : Finset String} (tombstonedMints : Finset String)
    {map : KeyedMap (List UInt8) String} (pins : KeyedMap (List UInt8) ℕ)
    (h : CarriesMint update activeMints map)
    (hcreate : update.hasPumpCreate = false) :
    ∃ filtered mint, prefilterTransactionUpdate update activeMints tombstonedMints map pins
        false = some filtered ∧
      filtered.decision = .deepProcess ∧ filtered.mint = some mint ∧ mint ∈ activeMints := by
  obtain ⟨tx, info, htx, hinfo, hshape⟩ := h.transaction
  obtain ⟨mint, hmint, hcarried⟩ := h
  have hfound : ((update.tokenBalanceMints ++ update.mappedMints map).find?
      (· ∈ activeMints)).isSome = true := by
    rw [List.find?_isSome]
    exact ⟨mint, List.mem_append.mpr hcarried, by simpa using hmint⟩
  obtain ⟨active, hactive⟩ := Option.isSome_iff_exists.mp hfound
  have hmem : active ∈ activeMints := by simpa using List.find?_some hactive
  simp only [prefilterTransactionUpdate, htx, hinfo, hcreate, hactive, if_neg hshape]
  exact ⟨_, active, rfl, rfl, rfl, hmem⟩

/-! ## The cascade -/

/-- The Pump instructions of an update do not keep it from being served: there is none, or a
creation among them with a first mint to activate, or a trade without a creation whose first
mint is active and not tombstoned. -/
def PumpServes (update : SubscribeUpdate) (activeMints tombstonedMints : Finset String) :
    Prop :=
  match update.message with
  | none => True
  | some message =>
    message.instructions.any message.runsPump = false ∨
    (message.sawPump [some .create] = true ∧ update.mintHint.isSome = true) ∨
    (message.sawPump [some .create] = false ∧
      message.sawPump [some .buy, some .sell] = true ∧
      ∃ mint, update.mintHint = some mint ∧ mint ∈ activeMints ∧ mint ∉ tombstonedMints)

/-- The cascade lets the update through and attributes it to a mint that is active. -/
def PassesActive (result : CascadeOutcome × RouterState) : Prop :=
  ∃ updateClass mint, result.1 = .passed updateClass (some mint) ∧
    mint ∈ result.2.relevance.activeMints

theorem Message.sawPump_of_not_runsPump {message : Message}
    (h : message.instructions.any message.runsPump = false)
    (names : List (Option PumpDiscriminator)) : message.sawPump names = false := by
  simp only [List.any_eq_false] at h
  simp only [sawPump, List.any_eq_false]
  intro instruction hmem
  simp [h instruction hmem]

theorem prefilterPumpInstruction_eq_none {update : SubscribeUpdate}
    {activeMints tombstonedMints : Finset String}
    (h : prefilterPumpInstruction update activeMints tombstonedMints = none) :
    update.hasPumpCreate = false ∧ PumpServes update activeMints tombstonedMints := by
  simp only [prefilterPumpInstruction] at h
  simp only [SubscribeUpdate.hasPumpCreate, PumpServes]
  split at h
  · rename_i hmessage
    simp [hmessage]
  · rename_i message hmessage
    simp only [hmessage]
    split at h
    · rename_i hnot
      have hany : message.instructions.any message.runsPump = false := by simpa using hnot
      exact ⟨message.sawPump_of_not_runsPump hany _, .inl hany⟩
    · split at h
      · simp at h
      · split at h
        · split at h
          · simp at h
          · split at h
            · simp at h
            · split at h <;> simp at h
        · split at h <;> simp at h

theorem RouterState.activateCreated_active (self : RouterState) {filtered : PumpPrefilter}
    {mint : String} (hclass : filtered.updateClass = .pumpTokenCreated)
    (hmint : filtered.mint = some mint) :
    mint ∈ (self.activateCreated filtered).relevance.activeMints := by
  simp only [activateCreated, hclass, hmint]
  exact (RelevanceState.mem_activeMints_applyHint _ _ _).mpr (by simp)

/-- Where the Pump prefilter answers, it passes the update for an active mint exactly when
the Pump instructions serve it. -/
theorem prefilterPumpInstruction_passes {update : SubscribeUpdate} {self : RouterState}
    {tombstonedMints : Finset String} {filtered : PumpPrefilter}
    (h : prefilterPumpInstruction update self.relevance.activeMints tombstonedMints =
      some filtered) :
    (filtered.decision = .deepProcess ∧ ∃ mint, filtered.mint = some mint ∧
        mint ∈ (self.activateCreated filtered).relevance.activeMints) ↔
      PumpServes update self.relevance.activeMints tombstonedMints := by
  cases hmessage : update.message with
  | none => simp [prefilterPumpInstruction, hmessage] at h
  | some message =>
    simp only [prefilterPumpInstruction, hmessage] at h
    simp only [PumpServes, hmessage]
    split at h
    · simp at h
    · rename_i hany
      have hruns : message.instructions.any message.runsPump = true := by simpa using hany
      split at h
      · rename_i hcreate
        obtain rfl := Option.some.inj h
        simp only [hruns, hcreate, Bool.true_eq_false, true_and, false_and, or_false, false_or]
        constructor
        · rintro ⟨mint, hmint, -⟩
          rw [hmint, Option.isSome_some]
        · intro hmint
          obtain ⟨mint, hmint⟩ := Option.isSome_iff_exists.mp hmint
          exact ⟨mint, hmint, self.activateCreated_active rfl hmint⟩
      · rename_i hcreate
        have hnone : message.sawPump [some .create] = false := by simpa using hcreate
        split at h
        · rename_i htrade
          simp only [hruns, hnone, htrade, Bool.true_eq_false, Bool.false_eq_true, true_and,
            false_and, false_or]
          split at h
          · rename_i hmint
            obtain rfl := Option.some.inj h
            simp [hmint]
          · rename_i value hmint
            split at h
            · rename_i htombstoned
              obtain rfl := Option.some.inj h
              simp [hmint, htombstoned]
            · rename_i htombstoned
              split at h
              · rename_i hactive
                obtain rfl := Option.some.inj h
                simp only [hmint, true_and, Option.some.injEq, exists_eq_left']
                exact ⟨fun _ => ⟨hactive, htombstoned⟩, fun _ => hactive⟩
              · rename_i hactive
                obtain rfl := Option.some.inj h
                simp [hmint, hactive]
        · rename_i htrade
          have hother : message.sawPump [some .buy, some .sell] = false := by simpa using htrade
          simp only [hruns, hnone, hother, Bool.true_eq_false, Bool.false_eq_true, false_and,
            and_false, or_self, iff_false]
          split at h
          · obtain rfl := Option.some.inj h
            simp
          · obtain rfl := Option.some.inj h
            simp

/-- The cascade passes a new update with an active mint, for an active mint, exactly when its
Pump instructions serve it. -/
theorem RouterState.cascade_passesActive_iff {self : RouterState} {update : SubscribeUpdate}
    {tombstonedMints : Finset String}
    (h : CarriesMint update self.relevance.activeMints self.tokenAccountToMint) :
    PassesActive (self.cascade update self.relevance.activeMints tombstonedMints false) ↔
      PumpServes update self.relevance.activeMints tombstonedMints := by
  simp only [cascade]
  cases hpump : prefilterPumpInstruction update self.relevance.activeMints tombstonedMints with
  | some filtered =>
    rw [← prefilterPumpInstruction_passes hpump]
    by_cases hdeep : filtered.decision = .deepProcess
    · simp only [hdeep, if_true, PassesActive, true_and]
      constructor
      · rintro ⟨updateClass, mint, houtcome, hactive⟩
        obtain ⟨-, hmint⟩ := CascadeOutcome.passed.inj houtcome
        exact ⟨mint, hmint, hactive⟩
      · rintro ⟨mint, hmint, hactive⟩
        exact ⟨filtered.updateClass, mint, by rw [hmint], hactive⟩
    · simp [hdeep, PassesActive]
  | none =>
    obtain ⟨hcreate, hserves⟩ := prefilterPumpInstruction_eq_none hpump
    obtain ⟨filtered, mint, hfiltered, hdeep, hmint, hactive⟩ :=
      prefilterTransactionUpdate_carries tombstonedMints self.accountPartitionPins h hcreate
    simp only [hfiltered, hdeep, if_true, hserves, iff_true]
    exact ⟨filtered.updateClass, mint, by rw [hmint], hactive⟩

/-- A new update that carries an active mint passes the router's prefilters, for an active
mint, exactly when its Pump instructions serve it. -/
theorem RouterState.prefilter_passesActive_iff {self : RouterState} {update : SubscribeUpdate}
    (hnew : (self.observe update).1 = false)
    (h : CarriesMint update self.relevance.activeMints
      (self.observe update).2.tokenAccountToMint) :
    PassesActive ((self.observe update).2.cascade update self.relevance.activeMints
        self.relevance.tombstonedMints (self.observe update).1) ↔
      PumpServes update self.relevance.activeMints self.relevance.tombstonedMints := by
  have hkept : (self.observe update).2.relevance = self.relevance :=
    (self.observe_sameStores update).1
  rw [hnew]
  rw [← hkept] at h ⊢
  exact cascade_passesActive_iff h

section Witness

def pumpProgramKey : List UInt8 :=
  [1, 86, 224, 246, 147, 102, 90, 207, 68, 219, 21, 104, 191, 23, 91, 170, 81, 137, 203, 151,
    245, 210, 255, 59, 101, 93, 43, 182, 253, 109, 24, 176]

/-- A transaction with a buy on Pump that lists the mints in its balances. -/
def buyListing (mints : List String) : SubscribeUpdate where
  updateOneof := some (.transaction {
    slot := 1
    transaction := some {
      signature := [1]
      index := 0
      transaction := some {
        message := some {
          accountKeys := [[7], pumpProgramKey]
          instructions := [{
            programIdIndex := 1
            accounts := [0]
            data := [102, 6, 61, 18, 1, 218, 235, 234] }] } }
      status := some {
        postTokenBalances := mints.map fun mint => { accountIndex := 0, mint } } } })

def activeRouter : RouterState where
  relevance := { activeMints := {"mint"} }

theorem prefilter_passesActive_listed :
    PassesActive ((activeRouter.observe (buyListing ["mint"])).2.cascade (buyListing ["mint"])
        {"mint"} ∅ (activeRouter.observe (buyListing ["mint"])).1) ↔
      PumpServes (buyListing ["mint"]) {"mint"} ∅ :=
  RouterState.prefilter_passesActive_iff (by decide +kernel)
    ⟨"mint", by decide +kernel, by decide +kernel⟩

/-- A buy that lists another mint first is skipped, though it carries an active one. -/
theorem prefilter_skipsActive :
    (activeRouter.observe (buyListing ["quote", "mint"])).1 = false ∧
      CarriesMint (buyListing ["quote", "mint"]) activeRouter.relevance.activeMints
        (activeRouter.observe (buyListing ["quote", "mint"])).2.tokenAccountToMint ∧
      ((activeRouter.observe (buyListing ["quote", "mint"])).2.cascade
        (buyListing ["quote", "mint"]) activeRouter.relevance.activeMints
        activeRouter.relevance.tombstonedMints false).1 =
          .skipped .pumpTradeUntrackedMint :=
  ⟨by decide +kernel, ⟨"mint", by decide +kernel, by decide +kernel⟩, by decide +kernel⟩

end Witness

end PumpLaunchTrader
