import PumpLaunchTrader.Normalizer.Actions
import PumpLaunchTrader.Lib.HeldBack

/-! # Curve updates that arrive early

To one curve the normalizer is a gate that its creation opens. An update is decoded by each
description in turn: behind the creation the first one that can decides, in front of it every
one adds an entry to what waits. -/

namespace PumpLaunchTrader

open HeldBack

/-- The entries that an account update has for its curve, one for each description that
decodes it. -/
def curveUpdates (idls : List LoadedIdl) (info : EventMeta) (update : AccountUpdate) :
    List PendingCurveUpdate :=
  match Encoding.base64Decode update.dataBase64 with
  | none => []
  | some bytes => (decodeBondingCurves idls bytes).map fun decoded =>
      pendingCurveUpdateFromDecoded info update.pubkey decoded update

/-- The mint that an instruction creates on a curve. -/
def createdMint (idls : List LoadedIdl) (curve : String) (instruction : TransactionInstruction) :
    Option String :=
  match pumpAction idls instruction with
  | some (.create mint _ bondingCurve) => if bondingCurve = curve then some mint else none
  | _ => none

/-- What arrives for a curve with an output: its creations that did not fail, its updates. -/
def curveArrivals (idls : List LoadedIdl) (curve : String) :
    IngestOutput → List (Arrival String PendingCurveUpdate)
  | .transaction info update =>
    if ({ info, update } : TransactionContext).status = .failed then []
    else (update.instructions.filterMap (createdMint idls curve)).map .opened
  | .account info update =>
    if update.pubkey = curve then [.batch (curveUpdates idls info update)] else []
  | .dataGap _ _ | .slot _ _ | .block _ _ => []

theorem curveArrivals_account (idls : List LoadedIdl) (curve : String) (info : EventMeta)
    (update : AccountUpdate) :
    curveArrivals idls curve (.account info update) =
      if update.pubkey = curve then [.batch (curveUpdates idls info update)] else [] := rfl

/-- The event is an update of the curve account. -/
def NormalizedEvent.isCurveUpdateOf (curve : String) (event : NormalizedEvent) : Bool :=
  match event.payload with
  | .bondingCurveUpdate _ => event.info.accountPubkey = some ⟨curve⟩
  | _ => false

theorem PendingCurveUpdate.isCurveUpdateOf_event (pending : PendingCurveUpdate)
    (mint curve : String) :
    (pending.event mint).isCurveUpdateOf curve = decide (pending.curvePubkey = curve) := by
  simp [NormalizedEvent.isCurveUpdateOf, PendingCurveUpdate.event]

theorem curvePubkey_of_mem_curveUpdates {idls : List LoadedIdl} {info : EventMeta}
    {update : AccountUpdate} {pending : PendingCurveUpdate}
    (h : pending ∈ curveUpdates idls info update) : pending.curvePubkey = update.pubkey := by
  unfold curveUpdates at h
  cases hbytes : Encoding.base64Decode update.dataBase64 with
  | none => simp [hbytes] at h
  | some bytes =>
      rw [hbytes] at h
      obtain ⟨decoded, -, rfl⟩ := List.mem_map.mp h
      rfl

namespace GeyserEventNormalizer

/-- What the normalizer knows of a curve and holds back for it. -/
def curveGate (self : GeyserEventNormalizer) (curve : String) : Gate String PendingCurveUpdate :=
  ⟨self.curveToMint.lookup curve, (self.pendingCurveUpdates.lookup curve).getD []⟩

/-- What waits under a curve is of its account. -/
def WaitsByCurve (self : GeyserEventNormalizer) : Prop :=
  ∀ curve, ∀ pending ∈ (self.curveGate curve).waiting, pending.curvePubkey = curve

/-- A step of the normalizer is, to a curve, a step of its gate. -/
structure Refines (prior next : GeyserEventNormalizer) (curve : String)
    (arrivals : List (Arrival String PendingCurveUpdate)) (events : List NormalizedEvent) :
    Prop where
  gate : next.curveGate curve =
    (run PendingCurveUpdate.event (prior.curveGate curve) arrivals).1
  events : events.filter (·.isCurveUpdateOf curve) =
    (run PendingCurveUpdate.event (prior.curveGate curve) arrivals).2

section Steps

variable {self next last : GeyserEventNormalizer} {curve : String}
  {arrivals others : List (Arrival String PendingCurveUpdate)}
  {events events' : List NormalizedEvent}

theorem Refines.append (h : self.Refines next curve arrivals events)
    (h' : next.Refines last curve others events') :
    self.Refines last curve (arrivals ++ others) (events ++ events') := by
  constructor
  · rw [run_append, ← h.gate, h'.gate]
  · rw [run_append, List.filter_append, ← h.gate, h.events, h'.events]

/-- Nothing arrives, and nothing is emitted for the curve. -/
theorem Refines.of_none (hgate : next.curveGate curve = self.curveGate curve)
    (hevents : ∀ event ∈ events, event.isCurveUpdateOf curve = false) :
    self.Refines next curve [] events :=
  ⟨hgate, List.filter_eq_nil_iff.mpr fun event hevent => by simp [hevents event hevent]⟩

end Steps

/-! ## Creations -/

section Creations

variable {self next : GeyserEventNormalizer} {ctx : TransactionContext} {index : ℕ}
  {instruction : TransactionInstruction} {events : List NormalizedEvent}

theorem curveGate_learnCreation (mint creator bondingCurve curve : String) :
    (self.learnCreation mint creator bondingCurve).curveGate curve =
      if bondingCurve = curve then ⟨some mint, []⟩ else self.curveGate curve := by
  unfold curveGate learnCreation
  by_cases hcurve : bondingCurve = curve
  · subst hcurve
    simp
  · rw [if_neg hcurve, AList.lookup_insert_ne (Ne.symm hcurve),
      AList.lookup_erase_ne (Ne.symm hcurve)]

/-- What arrives for a curve with an instruction. -/
def instructionArrivals (idls : List LoadedIdl) (ctx : TransactionContext) (curve : String)
    (instruction : TransactionInstruction) : List (Arrival String PendingCurveUpdate) :=
  if ctx.status = .failed then []
  else (createdMint idls curve instruction).toList.map .opened

theorem InstructionStep.refines (h : InstructionStep self ctx index instruction next events)
    (hwaits : self.WaitsByCurve) (curve : String) :
    self.Refines next curve (instructionArrivals self.idls ctx curve instruction) events := by
  cases h with
  | skipped haction =>
      have hnone : instructionArrivals self.idls ctx curve instruction = [] := by
        simp [instructionArrivals, createdMint, haction]
      rw [hnone]
      exact .of_none rfl (by simp)
  | createdFailed mint creator bondingCurve event haction hevent hstatus =>
      rw [instructionArrivals, if_pos hstatus]
      exact .of_none rfl (List.forall_mem_singleton.mpr rfl)
  | created mint creator bondingCurve event haction hevent hstatus =>
      rw [instructionArrivals, if_neg hstatus]
      have hgate := self.curveGate_learnCreation mint creator bondingCurve curve
      by_cases hcurve : bondingCurve = curve
      · subst hcurve
        have hmint : createdMint self.idls bondingCurve instruction = some mint := by
          simp [createdMint, haction]
        rw [if_pos rfl] at hgate
        rw [hmint]
        refine ⟨hgate, ?_⟩
        have hflushed : (self.flushedEvents bondingCurve mint).filter
            (·.isCurveUpdateOf bondingCurve) = self.flushedEvents bondingCurve mint := by
          refine List.filter_eq_self.mpr fun event hevent => ?_
          obtain ⟨pending, hpending, rfl⟩ := List.mem_map.mp hevent
          rw [pending.isCurveUpdateOf_event, decide_eq_true (hwaits _ pending hpending)]
        rw [List.filter_cons_of_neg (by simp [NormalizedEvent.isCurveUpdateOf]), hflushed]
        exact (List.append_nil _).symm
      · have hmint : createdMint self.idls curve instruction = none := by
          simp [createdMint, haction, hcurve]
        rw [if_neg hcurve] at hgate
        rw [hmint]
        refine .of_none hgate (List.forall_mem_cons.mpr ⟨rfl, fun event hevent => ?_⟩)
        obtain ⟨pending, hpending, rfl⟩ := List.mem_map.mp hevent
        rw [pending.isCurveUpdateOf_event, hwaits _ pending hpending, decide_eq_false hcurve]
  | bought mint buyer event haction hevent =>
      have hnone : instructionArrivals self.idls ctx curve instruction = [] := by
        simp [instructionArrivals, createdMint, haction]
      rw [hnone]
      exact .of_none rfl (List.forall_mem_singleton.mpr rfl)
  | sold mint seller event haction hevent =>
      have hnone : instructionArrivals self.idls ctx curve instruction = [] := by
        simp [instructionArrivals, createdMint, haction]
      rw [hnone]
      exact .of_none rfl (List.forall_mem_singleton.mpr rfl)

theorem InstructionStep.waitsByCurve
    (h : InstructionStep self ctx index instruction next events) (hwaits : self.WaitsByCurve) :
    next.WaitsByCurve := by
  cases h with
  | created mint creator bondingCurve event haction hevent hstatus =>
      intro curve pending hpending
      rw [curveGate_learnCreation] at hpending
      by_cases hcurve : bondingCurve = curve
      · rw [if_pos hcurve] at hpending
        exact absurd hpending List.not_mem_nil
      · rw [if_neg hcurve] at hpending
        exact hwaits curve pending hpending
  | skipped | createdFailed | bought | sold => exact hwaits

end Creations

/-! ## Transactions and accounts -/

theorem normalizeInstructions_refines (self : GeyserEventNormalizer) (ctx : TransactionContext)
    (curve : String) (index : ℕ) (instructions : List TransactionInstruction)
    (hwaits : self.WaitsByCurve) :
    self.Refines (self.normalizeInstructions ctx index instructions).1 curve
        (instructions.flatMap (instructionArrivals self.idls ctx curve))
        (self.normalizeInstructions ctx index instructions).2 ∧
      (self.normalizeInstructions ctx index instructions).1.WaitsByCurve := by
  induction instructions generalizing self index with
  | nil => exact ⟨.of_none rfl (by simp [normalizeInstructions]), hwaits⟩
  | cons instruction rest ih =>
      have hstep := self.normalizeInstruction_step ctx index instruction
      obtain ⟨hrest, hwaits'⟩ := ih _ (index + 1) (hstep.waitsByCurve hwaits)
      rw [hstep.idls] at hrest
      exact ⟨(hstep.refines hwaits curve).append hrest, hwaits'⟩

theorem flatMap_instructionArrivals (idls : List LoadedIdl) (info : EventMeta)
    (update : TransactionUpdate) (curve : String) :
    update.instructions.flatMap (instructionArrivals idls { info, update } curve) =
      curveArrivals idls curve (.transaction info update) := by
  unfold curveArrivals instructionArrivals
  by_cases hstatus : ({ info, update } : TransactionContext).status = .failed
  · simp [hstatus]
  · simp only [if_neg hstatus]
    induction update.instructions with
    | nil => rfl
    | cons instruction rest ih =>
        rw [List.flatMap_cons, ih, List.filterMap_cons]
        cases createdMint idls curve instruction with
        | none => rfl
        | some mint => rfl

theorem normalizeTransaction_refines (self : GeyserEventNormalizer) (info : EventMeta)
    (update : TransactionUpdate) (curve : String) (hwaits : self.WaitsByCurve) :
    self.Refines (self.normalizeTransaction info update).1 curve
        (curveArrivals self.idls curve (.transaction info update))
        (self.normalizeTransaction info update).2 ∧
      (self.normalizeTransaction info update).1.WaitsByCurve := by
  obtain ⟨hloop, hwaits'⟩ :=
    self.normalizeInstructions_refines { info, update } curve 0 update.instructions hwaits
  refine ⟨?_, hwaits'⟩
  rw [flatMap_instructionArrivals] at hloop
  have hobserved : self.Refines self curve [] [update.observedEvent info] :=
    .of_none rfl (List.forall_mem_singleton.mpr rfl)
  have hothers : ∀ event ∈ update.holderBalanceEvents info ++ (update.fundingEvent info).toList,
      event.isCurveUpdateOf curve = false := by
    intro event hevent
    obtain ⟨-, ⟨_, hpayload⟩ | ⟨_, hpayload⟩⟩ :=
      TransactionUpdate.payload_of_mem_balances hevent
    · simp [NormalizedEvent.isCurveUpdateOf, hpayload]
    · simp [NormalizedEvent.isCurveUpdateOf, hpayload]
  have hrest := hloop.append (Refines.of_none rfl hothers)
  rw [List.append_nil] at hrest
  exact hobserved.append hrest

/-- Hold entries of a curve back. -/
def holdBack (self : GeyserEventNormalizer) (curve : String)
    (entries : List PendingCurveUpdate) : GeyserEventNormalizer :=
  { self with
    pendingCurveUpdates := self.pendingCurveUpdates.upsert curve [] (· ++ entries) }

/-- An update is passed over, emitted for the mint of its curve, or held back. -/
theorem normalizeAccount_eq (self : GeyserEventNormalizer) (info : EventMeta)
    (update : AccountUpdate) :
    self.normalizeAccount info update =
      match curveUpdates self.idls info update, self.curveToMint.lookup update.pubkey with
      | [], _ => (self, [])
      | pending :: _, some mint => (self, [pending.event mint])
      | pending :: others, none => (self.holdBack update.pubkey (pending :: others), []) := by
  unfold normalizeAccount curveUpdates
  cases Encoding.base64Decode update.dataBase64 with
  | none => rfl
  | some bytes =>
      dsimp only
      generalize (decodeBondingCurves self.idls bytes).map (fun decoded =>
        pendingCurveUpdateFromDecoded info update.pubkey decoded update) = updates
      cases updates with
      | nil => rfl
      | cons pending others =>
          cases self.curveToMint.lookup update.pubkey with
          | none => rfl
          | some mint => rfl

section Accounts

variable {self : GeyserEventNormalizer} {info : EventMeta} {update : AccountUpdate}

/-- An update that nothing is done with is of no curve, or brings no entry. -/
theorem Refines.of_ignored {curve : String}
    (h : update.pubkey ≠ curve ∨ curveUpdates self.idls info update = []) :
    self.Refines self curve (curveArrivals self.idls curve (.account info update)) [] := by
  rw [curveArrivals_account]
  by_cases hcurve : update.pubkey = curve
  · rw [if_pos hcurve, h.resolve_left (not_not_intro hcurve)]
    exact ⟨by rw [run_batch_nil], by rw [run_batch_nil]; rfl⟩
  · rw [if_neg hcurve]
    exact .of_none rfl (by simp)

theorem curveGate_holdBack (h : self.curveToMint.lookup update.pubkey = none)
    (entries : List PendingCurveUpdate) (curve : String) :
    (self.holdBack update.pubkey entries).curveGate curve =
      if update.pubkey = curve then ⟨none, (self.curveGate curve).waiting ++ entries⟩
      else self.curveGate curve := by
  unfold curveGate holdBack
  by_cases hcurve : update.pubkey = curve
  · subst hcurve
    simp [h]
  · rw [if_neg hcurve, KeyedMap.lookup_upsert_ne _ (Ne.symm hcurve)]

theorem refines_emitted {pending : PendingCurveUpdate} {others : List PendingCurveUpdate}
    {mint : String} (hupdates : curveUpdates self.idls info update = pending :: others)
    (hmint : self.curveToMint.lookup update.pubkey = some mint) (curve : String) :
    self.Refines self curve (curveArrivals self.idls curve (.account info update))
      [pending.event mint] := by
  have hpubkey : pending.curvePubkey = update.pubkey :=
    curvePubkey_of_mem_curveUpdates (hupdates ▸ List.mem_cons_self)
  rw [curveArrivals_account]
  by_cases hcurve : update.pubkey = curve
  · have hgate : self.curveGate curve =
        ⟨some mint, (self.pendingCurveUpdates.lookup curve).getD []⟩ := by
      rw [curveGate, ← hcurve, hmint]
    rw [if_pos hcurve, hupdates]
    refine ⟨by rw [hgate]; rfl, ?_⟩
    rw [hgate, List.filter_cons_of_pos]
    · rfl
    · rw [pending.isCurveUpdateOf_event, hpubkey, decide_eq_true hcurve]
  · rw [if_neg hcurve]
    refine .of_none rfl (List.forall_mem_singleton.mpr ?_)
    rw [pending.isCurveUpdateOf_event, hpubkey, decide_eq_false hcurve]

theorem refines_heldBack (hmint : self.curveToMint.lookup update.pubkey = none) (curve : String) :
    self.Refines (self.holdBack update.pubkey (curveUpdates self.idls info update)) curve
      (curveArrivals self.idls curve (.account info update)) [] := by
  have hgate := curveGate_holdBack hmint (curveUpdates self.idls info update) curve
  rw [curveArrivals_account]
  by_cases hcurve : update.pubkey = curve
  · have hclosed : self.curveGate curve =
        ⟨none, (self.pendingCurveUpdates.lookup curve).getD []⟩ := by
      rw [curveGate, ← hcurve, hmint]
    rw [if_pos hcurve] at hgate ⊢
    exact ⟨by rw [hgate, hclosed]; rfl, by rw [hclosed]; rfl⟩
  · rw [if_neg hcurve] at hgate ⊢
    exact .of_none hgate (by simp)

theorem waitsByCurve_holdBack (hmint : self.curveToMint.lookup update.pubkey = none)
    (hwaits : self.WaitsByCurve) :
    (self.holdBack update.pubkey (curveUpdates self.idls info update)).WaitsByCurve := by
  intro curve pending hpending
  rw [curveGate_holdBack hmint] at hpending
  by_cases hcurve : update.pubkey = curve
  · rw [if_pos hcurve] at hpending
    rcases List.mem_append.mp hpending with hold | hnew
    · exact hwaits curve pending hold
    · exact (curvePubkey_of_mem_curveUpdates hnew).trans hcurve
  · rw [if_neg hcurve] at hpending
    exact hwaits curve pending hpending

end Accounts

theorem normalizeAccount_refines (self : GeyserEventNormalizer) (info : EventMeta)
    (update : AccountUpdate) (curve : String) (hwaits : self.WaitsByCurve) :
    self.Refines (self.normalizeAccount info update).1 curve
        (curveArrivals self.idls curve (.account info update))
        (self.normalizeAccount info update).2 ∧
      (self.normalizeAccount info update).1.WaitsByCurve ∧
      (self.normalizeAccount info update).1.idls = self.idls := by
  rw [normalizeAccount_eq]
  cases hupdates : curveUpdates self.idls info update with
  | nil => exact ⟨.of_ignored (Or.inr hupdates), hwaits, rfl⟩
  | cons pending others =>
      cases hmint : self.curveToMint.lookup update.pubkey with
      | some mint => exact ⟨refines_emitted hupdates hmint curve, hwaits, rfl⟩
      | none =>
          have hheld : self.Refines (self.holdBack update.pubkey
              (curveUpdates self.idls info update)) curve
              (curveArrivals self.idls curve (.account info update)) [] :=
            refines_heldBack hmint curve
          have hwaits' : (self.holdBack update.pubkey
              (curveUpdates self.idls info update)).WaitsByCurve :=
            waitsByCurve_holdBack hmint hwaits
          rw [hupdates] at hheld hwaits'
          exact ⟨hheld, hwaits', rfl⟩

/-- A normalizer is, to each curve, its gate. -/
theorem normalizeOutputs_refines (self : GeyserEventNormalizer) (outputs : List IngestOutput)
    (curve : String) (hwaits : self.WaitsByCurve) :
    self.Refines (self.normalizeOutputs outputs).1 curve
      (outputs.flatMap (curveArrivals self.idls curve)) (self.normalizeOutputs outputs).2 := by
  induction outputs generalizing self with
  | nil => exact .of_none rfl (by simp [normalizeOutputs])
  | cons output rest ih =>
      obtain ⟨hfirst, hwaits', hidls⟩ : self.Refines (self.normalizeOutput output).1 curve
            (curveArrivals self.idls curve output) (self.normalizeOutput output).2 ∧
          (self.normalizeOutput output).1.WaitsByCurve ∧
          (self.normalizeOutput output).1.idls = self.idls := by
        cases output with
        | transaction info update =>
            obtain ⟨hrefines, hwaits'⟩ := self.normalizeTransaction_refines info update curve hwaits
            exact ⟨hrefines, hwaits', self.normalizeInstructions_idls _ _ _⟩
        | account info update => exact self.normalizeAccount_refines info update curve hwaits
        | dataGap info update =>
            exact ⟨.of_none rfl (List.forall_mem_singleton.mpr rfl), hwaits, rfl⟩
        | slot info update => exact ⟨.of_none rfl (by simp [normalizeOutput]), hwaits, rfl⟩
        | block info update => exact ⟨.of_none rfl (by simp [normalizeOutput]), hwaits, rfl⟩
      have hrest := ih _ hwaits'
      rw [hidls] at hrest
      exact hfirst.append hrest

/-! ## One creation -/

theorem waitsByCurve_new (idls : List LoadedIdl) :
    ({ idls } : GeyserEventNormalizer).WaitsByCurve := by
  intro curve pending hpending
  simp [curveGate] at hpending

/-- The events of the updates of a curve whose mint is known: each by the first description
that decodes it. -/
def promptEvents (mint : String) (updates : List (Arrival String PendingCurveUpdate)) :
    List NormalizedEvent :=
  (updates.flatMap Arrival.first).map (·.event mint)

/-- A curve is created once in a run, between the updates before and after it, which some
description decodes. -/
structure CreatedOnce (idls : List LoadedIdl) (curve mint : String)
    (outputs : List IngestOutput) (before after : List (Arrival String PendingCurveUpdate)) :
    Prop where
  arrivals : outputs.flatMap (curveArrivals idls curve) = before ++ .opened mint :: after
  once : ∀ arrival ∈ before ++ after, arrival.name? = none
  decoded : ∀ arrival ∈ before ++ after, arrival.entries ≠ []

/-- With one creation, each update has its prompt event, in the order of arrival, exactly when
no two descriptions decode an update that arrives before the creation; else there are more
events than updates. -/
theorem curve_events_iff (idls : List LoadedIdl) (curve mint : String)
    (outputs : List IngestOutput) (before after : List (Arrival String PendingCurveUpdate))
    (h : CreatedOnce idls curve mint outputs before after) :
    let events := (({ idls } : GeyserEventNormalizer).normalizeOutputs outputs).2.filter
      (·.isCurveUpdateOf curve)
    (events = promptEvents mint (before ++ after) ↔
        ∀ arrival ∈ before, arrival.entries.length = 1) ∧
      (events.length = (before ++ after).length ↔
        ∀ arrival ∈ before, arrival.entries.length = 1) := by
  intro events
  obtain ⟨honceBefore, honceAfter⟩ := List.forall_mem_append.mp h.once
  obtain ⟨hdecodedBefore, -⟩ := List.forall_mem_append.mp h.decoded
  have hevents : events =
      (before.flatMap Arrival.entries ++ after.flatMap Arrival.first).map (·.event mint) := by
    have hrun := (normalizeOutputs_refines { idls } outputs curve (waitsByCurve_new idls)).events
    rw [h.arrivals] at hrun
    exact hrun.trans (run_once PendingCurveUpdate.event honceBefore honceAfter mint)
  have hsingle : (∀ arrival ∈ before, arrival.entries.length = 1) ↔
      ∀ arrival ∈ before, arrival.entries.length ≤ 1 := by
    refine forall₂_congr fun arrival harrival => ?_
    have hpos := List.length_pos_iff.mpr (hdecodedBefore arrival harrival)
    omega
  have hcount : events.length = (before ++ after).length ↔
      ∀ arrival ∈ before, arrival.entries.length ≤ 1 := by
    rw [← length_flatMap_entries_eq_iff, hevents, List.length_map, List.length_append,
      List.length_append, length_flatMap_first fun arrival harrival =>
        h.decoded arrival (List.mem_append_left _ harrival),
      length_flatMap_first fun arrival harrival =>
        h.decoded arrival (List.mem_append_right _ harrival)]
    omega
  refine ⟨⟨?_, ?_⟩, hcount.trans hsingle.symm⟩
  · intro heq
    rw [hsingle, ← hcount, heq, promptEvents, List.length_map, length_flatMap_first h.decoded]
  · intro hbefore
    rw [hevents, promptEvents, List.flatMap_append,
      flatMap_entries_eq_first (hsingle.mp hbefore)]

/-! ### An early update -/

/-- A description with a creation and a curve account without fields. -/
def launchIdl : LoadedIdl where
  instructionMap := (∅ : KeyedMap (List UInt8) LoadedInstruction).insert
    (List.replicate 8 1)
    { name := "create", accounts := ["mint", "creator", "bonding_curve"], args := [] }
  accountMap := (∅ : KeyedMap (List UInt8) LoadedAccount).insert (List.replicate 8 0)
    { name := "BondingCurve", fields := [] }
  depth := 0

def launchMeta : EventMeta where
  eventId := ⟨"e"⟩
  source := .geyserProcessed
  canonicality := .processed
  slot := 1

def launchTransaction : TransactionUpdate where
  slot := 1
  signature := "s"
  transactionIndex := none
  succeeded := true
  instructions :=
    [{ programId := "pump", accounts := ["mint", "creator", "curve"],
       dataHex := "0101010101010101" }]

def launchCurveAccount : AccountUpdate where
  slot := 1
  pubkey := "curve"
  owner := "pump"
  lamports := 0
  executable := false
  writeVersion := 7
  dataBase64 := "AAAAAAAAAAA="
  transactionSignature := none

/-- An update of the curve, then its creation. -/
def earlyUpdate : List IngestOutput :=
  [.account launchMeta launchCurveAccount, .transaction launchMeta launchTransaction]

theorem createdOnce_earlyUpdate {idls : List LoadedIdl}
    (h : idls = [launchIdl] ∨ idls = [launchIdl, launchIdl]) :
    CreatedOnce idls "curve" "mint" earlyUpdate
      [.batch (curveUpdates idls launchMeta launchCurveAccount)] [] := by
  rcases h with rfl | rfl
  · exact ⟨by decide +kernel, by decide +kernel, by decide +kernel⟩
  · exact ⟨by decide +kernel, by decide +kernel, by decide +kernel⟩

theorem curve_events_iff_earlyUpdate :
    (((({ idls := [launchIdl] } : GeyserEventNormalizer).normalizeOutputs
        earlyUpdate).2.filter (·.isCurveUpdateOf "curve")).length = 1 ↔
      ∀ arrival ∈ [(.batch (curveUpdates [launchIdl] launchMeta launchCurveAccount) :
        Arrival String PendingCurveUpdate)], arrival.entries.length = 1) :=
  (curve_events_iff [launchIdl] "curve" "mint" earlyUpdate _ []
    (createdOnce_earlyUpdate (Or.inl rfl))).2

/-- Two descriptions decode an update that arrives before its creation: it is emitted twice. -/
theorem early_update_duplicated : ¬ ∀ (idls : List LoadedIdl) (curve mint : String)
    (outputs : List IngestOutput) (before after : List (Arrival String PendingCurveUpdate)),
    CreatedOnce idls curve mint outputs before after →
      ((({ idls } : GeyserEventNormalizer).normalizeOutputs outputs).2.filter
        (·.isCurveUpdateOf curve)).length = (before ++ after).length := by
  intro h
  have htwo := h [launchIdl, launchIdl] "curve" "mint" earlyUpdate _ []
    (createdOnce_earlyUpdate (Or.inr rfl))
  exact absurd htwo (by decide +kernel)

end GeyserEventNormalizer

end PumpLaunchTrader
