import PumpLaunchTrader.Normalizer.Actions

/-! # Instructions of other programs

The instruction loop decodes by the data alone. An instruction of another program is inert
exactly when its data and accounts name no creation, buy or sell; its data also counts among
the buys of a creation's transaction. -/

namespace PumpLaunchTrader

/-- The number of buys among the instructions that the event of a creation carries. -/
def NormalizedEvent.sameTransactionBuys (self : NormalizedEvent) : Option ℕ :=
  match self.payload with
  | .tokenCreated created => some created.sameTransactionBuys
  | _ => none

namespace GeyserEventNormalizer

/-- The two states agree on curves, creators and mints with a buy. -/
def SameMaps (a b : GeyserEventNormalizer) : Prop :=
  a.curveToMint = b.curveToMint ∧ a.mintToCreator = b.mintToCreator ∧
    a.seenBuyMints = b.seenBuyMints

section Kinds

variable {self next : GeyserEventNormalizer} {ctx : TransactionContext} {index : ℕ}
  {instruction : TransactionInstruction} {events : List NormalizedEvent}

/-- The buys that a pass reports are those of all instructions, and it reports them for a
creation. -/
theorem InstructionStep.sameTransactionBuys
    (h : InstructionStep self ctx index instruction next events) {event : NormalizedEvent}
    (hevent : event ∈ events) {buys : ℕ} (hbuys : event.sameTransactionBuys = some buys) :
    (∃ mint creator curve, pumpAction self.idls instruction = some (.create mint creator curve)) ∧
      buys = countDecodedBuys self.idls ctx.update.instructions := by
  cases h with
  | skipped _ => simp at hevent
  | createdFailed mint creator curve created haction hcreated =>
    obtain rfl := List.mem_singleton.mp hevent
    exact ⟨⟨_, _, _, haction⟩, (Option.some.inj hbuys).symm.trans hcreated.2.2⟩
  | created mint creator curve created haction hcreated =>
    rcases List.mem_cons.mp hevent with rfl | hflushed
    · exact ⟨⟨_, _, _, haction⟩, (Option.some.inj hbuys).symm.trans hcreated.2.2⟩
    · obtain ⟨pending, rfl⟩ := mem_flushedEvents hflushed
      simp [NormalizedEvent.sameTransactionBuys, PendingCurveUpdate.event] at hbuys
  | bought mint buyer bought haction =>
    obtain rfl := List.mem_singleton.mp hevent
    simp [NormalizedEvent.sameTransactionBuys] at hbuys
  | sold mint seller sold haction =>
    obtain rfl := List.mem_singleton.mp hevent
    simp [NormalizedEvent.sameTransactionBuys] at hbuys

/-- A creation reports the buys. -/
theorem InstructionStep.exists_sameTransactionBuys
    (h : InstructionStep self ctx index instruction next events) {mint creator curve : String}
    (haction : pumpAction self.idls instruction = some (.create mint creator curve)) :
    ∃ event ∈ events, event.sameTransactionBuys =
      some (countDecodedBuys self.idls ctx.update.instructions) := by
  cases h with
  | skipped hnone => simp [haction] at hnone
  | createdFailed mint creator curve created _ hcreated =>
    exact ⟨_, List.mem_cons_self, congrArg some hcreated.2.2⟩
  | created mint creator curve created _ hcreated =>
    exact ⟨_, List.mem_cons_self, congrArg some hcreated.2.2⟩
  | bought _ _ _ hbought => simp [haction] at hbought
  | sold _ _ _ hsold => simp [haction] at hsold

end Kinds

/-! ## The transaction -/

/-- Creations, buys and sells stem from instructions of the given programs, and instructions
of other programs change neither the maps nor the number of buys. -/
structure OnlyPumpEvents (normalizer : GeyserEventNormalizer) (info : EventMeta)
    (update : TransactionUpdate) (pumpProgramIds : List String) : Prop where
  stems : ∀ event ∈ (normalizer.normalizeTransaction info update).2, event.isPumpEvent = true →
    ∃ before instruction after, update.instructions = before ++ instruction :: after ∧
      instruction.programId ∈ pumpProgramIds ∧
      event ∈ (normalizer.pass { info, update } before instruction).2
  maps : ∀ before instruction after, update.instructions = before ++ instruction :: after →
    instruction.programId ∉ pumpProgramIds →
    SameMaps (normalizer.pass { info, update } before instruction).1
      (normalizer.stateAfter { info, update } before)
  counts : ∀ event ∈ (normalizer.normalizeTransaction info update).2, ∀ buys,
    event.sameTransactionBuys = some buys →
      buys = countDecodedBuys normalizer.idls
        (update.instructions.filter fun instruction => instruction.programId ∈ pumpProgramIds)

section Transactions

variable (self : GeyserEventNormalizer) (info : EventMeta) (update : TransactionUpdate)

theorem isPumpEvent_of_sameTransactionBuys {event : NormalizedEvent} {buys : ℕ}
    (h : event.sameTransactionBuys = some buys) : event.isPumpEvent = true := by
  simp only [NormalizedEvent.sameTransactionBuys] at h
  simp only [NormalizedEvent.isPumpEvent]
  split at h
  · rename_i hpayload
    simp [hpayload]
  · simp at h

theorem instructionMeta_inj {ctx : TransactionContext} {i j : ℕ}
    (h : ctx.instructionMeta i = ctx.instructionMeta j) : i = j := by
  have hcursor := congrArg (fun info : EventMeta => info.rawReference.bind (·.cursor)) h
  simp only [TransactionContext.instructionMeta, Option.bind_some, Option.some.injEq] at hcursor
  have hdigits := congrArg String.toList ((String.append_right_inj _).mp hcursor)
  have hvalues := congrArg (Nat.ofDigitChars 10 · 0) hdigits
  simpa [Nat.toString_eq_repr] using hvalues

theorem countDecodedBuys_filter_iff (idls : List LoadedIdl)
    (instructions : List TransactionInstruction) (pumpProgramIds : List String) :
    countDecodedBuys idls instructions = countDecodedBuys idls
        (instructions.filter fun instruction => instruction.programId ∈ pumpProgramIds) ↔
      2 ^ 32 ∣ (instructions.filter fun instruction =>
        instruction.programId ∉ pumpProgramIds).countP (decodesToBuy idls) := by
  have hsplit := List.countP_eq_countP_filter_add instructions (decodesToBuy idls)
    fun instruction => decide (instruction.programId ∈ pumpProgramIds)
  simp only [decide_not] at hsplit ⊢
  simp only [countDecodedBuys]
  omega

theorem idls_stateAfter (before : List TransactionInstruction) :
    (self.stateAfter { info, update } before).idls = self.idls :=
  self.normalizeInstructions_idls _ _ _

variable {self info update} in
/-- What acts is an instruction of the given programs. -/
theorem OnlyPumpEvents.inert {pumpProgramIds : List String}
    (h : self.OnlyPumpEvents info update pumpProgramIds) :
    ∀ instruction ∈ update.instructions, instruction.programId ∉ pumpProgramIds →
      pumpAction self.idls instruction = none := by
  intro instruction hmem hforeign
  by_contra haction
  obtain ⟨before, after, hsplit⟩ := List.append_of_mem hmem
  have hstep := self.pass_step { info, update } before instruction
  obtain ⟨event, hevent, hpump⟩ := hstep.exists_isPumpEvent (by rwa [idls_stateAfter])
  have hloop := (self.mem_normalizeInstructions { info, update } update.instructions event).mpr
    ⟨before, instruction, after, hsplit, hevent⟩
  obtain ⟨before', instruction', after', hsplit', hown, hevent'⟩ :=
    h.stems event (self.mem_of_mem_loop info update hloop) hpump
  -- the event names its instruction, so the two instructions are one
  have hmeta := (hstep.of_isPumpEvent hevent hpump).2.symm.trans
    ((self.pass_step { info, update } before' instruction').of_isPumpEvent hevent' hpump).2
  obtain ⟨-, htail⟩ := List.append_inj (hsplit.symm.trans hsplit') (instructionMeta_inj hmeta)
  rw [← (List.cons.inj htail).1] at hown
  exact hforeign hown

variable {self info update} in
/-- Where a token is created, the other programs add no buys to its count. -/
theorem OnlyPumpEvents.buys {pumpProgramIds : List String}
    (h : self.OnlyPumpEvents info update pumpProgramIds)
    (hcreates : ∃ instruction ∈ update.instructions, ∃ mint creator curve,
      pumpAction self.idls instruction = some (.create mint creator curve)) :
    2 ^ 32 ∣ (update.instructions.filter fun instruction =>
      instruction.programId ∉ pumpProgramIds).countP (decodesToBuy self.idls) := by
  obtain ⟨instruction, hmem, mint, creator, curve, haction⟩ := hcreates
  obtain ⟨before, after, hsplit⟩ := List.append_of_mem hmem
  obtain ⟨event, hevent, hbuys⟩ := (self.pass_step { info, update } before
    instruction).exists_sameTransactionBuys (by rwa [idls_stateAfter])
  have hloop := (self.mem_normalizeInstructions { info, update } update.instructions event).mpr
    ⟨before, instruction, after, hsplit, hevent⟩
  rw [idls_stateAfter] at hbuys
  rw [← countDecodedBuys_filter_iff]
  exact h.counts event (self.mem_of_mem_loop info update hloop) _ hbuys

/-- An instruction of another program that does not act is passed over. -/
theorem pass_of_inert {pumpProgramIds : List String}
    (hinert : ∀ instruction ∈ update.instructions, instruction.programId ∉ pumpProgramIds →
      pumpAction self.idls instruction = none)
    {before after : List TransactionInstruction} {instruction : TransactionInstruction}
    (hsplit : update.instructions = before ++ instruction :: after)
    (hforeign : instruction.programId ∉ pumpProgramIds) :
    self.pass { info, update } before instruction =
      (self.stateAfter { info, update } before, []) := by
  apply normalizeInstruction_of_none
  rw [idls_stateAfter]
  exact hinert instruction (by rw [hsplit]; simp) hforeign

/-- The loop keeps to the given programs exactly when no instruction of another program acts,
and, where a token is created, none of them (or a multiple of the counter's range) decodes to
a buy. -/
theorem onlyPumpEvents_iff (pumpProgramIds : List String) :
    self.OnlyPumpEvents info update pumpProgramIds ↔
      (∀ instruction ∈ update.instructions, instruction.programId ∉ pumpProgramIds →
        pumpAction self.idls instruction = none) ∧
      ((∃ instruction ∈ update.instructions, ∃ mint creator curve,
          pumpAction self.idls instruction = some (.create mint creator curve)) →
        2 ^ 32 ∣ (update.instructions.filter fun instruction =>
          instruction.programId ∉ pumpProgramIds).countP (decodesToBuy self.idls)) := by
  constructor
  · exact fun h => ⟨h.inert, h.buys⟩
  · rintro ⟨hinert, hbuys⟩
    constructor
    · intro event hevent hpump
      obtain ⟨before, instruction, after, hsplit, hpass⟩ :=
        (self.mem_normalizeInstructions _ _ event).mp
          (self.mem_loop_of_mem info update hevent hpump)
      refine ⟨before, instruction, after, hsplit, ?_, hpass⟩
      by_contra hforeign
      rw [self.pass_of_inert info update hinert hsplit hforeign] at hpass
      simp at hpass
    · intro before instruction after hsplit hforeign
      rw [self.pass_of_inert info update hinert hsplit hforeign]
      exact ⟨rfl, rfl, rfl⟩
    · intro event hevent buys hreported
      obtain ⟨before, instruction, after, hsplit, hpass⟩ :=
        (self.mem_normalizeInstructions _ _ event).mp (self.mem_loop_of_mem info update hevent
          (isPumpEvent_of_sameTransactionBuys hreported))
      obtain ⟨hcreate, hcount⟩ :=
        (self.pass_step { info, update } before instruction).sameTransactionBuys hpass hreported
      rw [idls_stateAfter] at hcreate hcount
      rw [hcount, countDecodedBuys_filter_iff]
      exact hbuys ⟨instruction, by rw [hsplit]; simp, hcreate⟩

end Transactions

section Witness

/-- A description with one instruction, the Pump `buy` without arguments. -/
def buyIdl : LoadedIdl where
  instructionMap := (∅ : KeyedMap (List UInt8) LoadedInstruction).insert
    [0x66, 0x06, 0x3d, 0x12, 0x01, 0xda, 0xeb, 0xea]
    { name := "buy", accounts := ["mint", "user"], args := [] }
  accountMap := ∅
  depth := 0

def foreignBuy : TransactionInstruction where
  programId := "foreign"
  accounts := ["mint", "user"]
  dataHex := "66063d1201daebea"

def foreignTransaction : TransactionUpdate where
  slot := 1
  signature := "s"
  transactionIndex := none
  succeeded := true
  instructions := [foreignBuy]

def foreignInfo : EventMeta where
  eventId := ⟨"e"⟩
  source := .geyserProcessed
  canonicality := .processed
  slot := 1

/-- An instruction of another program with the data of a buy marks the mint as bought. -/
theorem foreignBuy_noted :
    ¬ OnlyPumpEvents { idls := [buyIdl] } foreignInfo foreignTransaction
      ["6EF8rrecthR5Dkzon8Nwu78hRvfCKubJ14M5uBEwF6P"] := by
  intro h
  have hmaps := h.maps [] foreignBuy [] rfl (by decide)
  exact absurd hmaps.2.2 (by decide +kernel)

end Witness

end GeyserEventNormalizer

end PumpLaunchTrader
