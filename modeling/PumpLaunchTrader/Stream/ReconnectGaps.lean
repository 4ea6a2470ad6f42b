import PumpLaunchTrader.Model.SourceStream
import PumpLaunchTrader.Normalizer.Actions
import PumpLaunchTrader.Lib.Tracking

/-! # Reconnect gaps of the source streams

The loops send a blocking gap when a stream fails and a recovery when the next stream is
connected. The flag that they carry is the parity of the gaps sent so far. -/

namespace PumpLaunchTrader

namespace SentEvent

/-- The event is a `DataGap` of type `ReconnectGap`. -/
def isReconnectGap (self : SentEvent) : Bool :=
  match self.event.payload with
  | .dataGap gap => gap.gapType = .reconnectGap
  | _ => false

/-- The event is a gap that allows trading. -/
def tradeAllowed (self : SentEvent) : Bool :=
  match self.event.payload with
  | .dataGap gap => gap.tradeAllowed
  | _ => false

end SentEvent

/-- The gaps of a run alternate, the first of them blocking, with no event of an update
between a blocking gap and its recovery, and all are recovered where the stream ended. -/
structure BracketsOutages (isGap : SentEvent → Bool)
    (result : SourceOutcome × List SentEvent) : Prop where
  bracketed : Brackets.Bracketed isGap SentEvent.tradeAllowed SentEvent.isFromUpdate result.2
  recovered : result.1 = .streamEnded → Even (result.2.countP isGap)

theorem BracketsOutages.congr {isGap isGap' : SentEvent → Bool}
    {result : SourceOutcome × List SentEvent} (h : BracketsOutages isGap result)
    (hagree : ∀ e ∈ result.2, isGap' e = isGap e) : BracketsOutages isGap' result where
  bracketed := h.bracketed.congr_mark hagree
  recovered hended := by
    have hcount : result.2.countP isGap' = result.2.countP isGap :=
      List.countP_congr fun e he => by rw [hagree e he]
    rw [hcount]
    exact h.recovered hended

/-! ## Sending -/

namespace LoopState

variable {σ : Type}

theorem send_true {self next : LoopState σ} {accepts : ℕ → Bool} {e : SentEvent}
    (h : self.send accepts e = (true, next)) : next = { self with sent := self.sent ++ [e] } := by
  simp only [send] at h
  split at h
  · exact (Prod.mk.inj h).2.symm
  · simp at h

theorem send_false {self next : LoopState σ} {accepts : ℕ → Bool} {e : SentEvent}
    (h : self.send accepts e = (false, next)) : next = self := by
  simp only [send] at h
  split at h
  · simp at h
  · exact (Prod.mk.inj h).2.symm

/-- Of a list of events the receiver takes those in front. -/
theorem sendAll_spec (accepts : ℕ → Bool) (es : List SentEvent) (self : LoopState σ) :
    ∃ taken, (∀ e ∈ taken, e ∈ es) ∧
      (sendAll accepts es self).2 = { self with sent := self.sent ++ taken } := by
  induction es generalizing self with
  | nil => exact ⟨[], by simp, by simp [sendAll]⟩
  | cons e es ih =>
    rcases hsend : self.send accepts e with ⟨_ | _, next⟩
    · exact ⟨[], by simp, by simp [sendAll, hsend, send_false hsend]⟩
    · obtain ⟨taken, hmem, hstate⟩ := ih next
      refine ⟨e :: taken, ?_, ?_⟩
      · intro x hx
        rcases List.mem_cons.mp hx with rfl | hx
        · simp
        · exact List.mem_cons_of_mem _ (hmem x hx)
      · rw [send_true hsend] at hstate
        simpa [sendAll, hsend, send_true hsend] using hstate

/-- What holds of the events sent before and of the new ones holds of all. -/
theorem sendAll_sent {p : SentEvent → Prop} (accepts : ℕ → Bool) (es : List SentEvent)
    (self : LoopState σ) (h : ∀ e ∈ self.sent, p e) (hes : ∀ e ∈ es, p e) :
    ∀ e ∈ (sendAll accepts es self).2.sent, p e := by
  obtain ⟨taken, htaken, hstate⟩ := sendAll_spec accepts es self
  rw [hstate]
  intro e he
  rcases List.mem_append.mp he with he | he
  · exact h e he
  · exact hes e (htaken e he)

theorem send_sent {p : SentEvent → Prop} (accepts : ℕ → Bool) {e : SentEvent}
    (self : LoopState σ) (h : ∀ x ∈ self.sent, p x) (he : p e) :
    ∀ x ∈ (self.send accepts e).2.sent, p x := by
  simp only [send]
  split
  · intro x hx
    rcases List.mem_append.mp hx with hx | hx
    · exact h x hx
    · rw [List.mem_singleton.mp hx]
      exact he
  · exact h

end LoopState

/-! ## The invariant of the loops -/

/-- What has been sent is bracketed, and the flag says whether a gap is open. -/
structure GapFlag {σ : Type} (state : LoopState σ) : Prop where
  bracketed :
    Brackets.Bracketed SentEvent.isFromLoop SentEvent.tradeAllowed SentEvent.isFromUpdate
      state.sent
  flag : state.emittedDisconnectGap = true ↔ Odd (state.sent.countP SentEvent.isFromLoop)

namespace GapFlag

variable {σ : Type} {state next : LoopState σ}

theorem even_of_closed (h : GapFlag state) (hclosed : state.emittedDisconnectGap = false) :
    Even (state.sent.countP SentEvent.isFromLoop) := by
  rw [← Nat.not_odd_iff_even, ← h.flag, hclosed]
  simp

/-- Only what is sent and the flag matter. -/
theorem of_eq (h : GapFlag state) (hsent : next.sent = state.sent)
    (hflag : next.emittedDisconnectGap = state.emittedDisconnectGap) : GapFlag next := by
  constructor
  · rw [hsent]
    exact h.bracketed
  · rw [hsent, hflag]
    exact h.flag

/-- Events of an update are sent while no gap is open. -/
theorem sendAll_updates (h : GapFlag state) (hclosed : state.emittedDisconnectGap = false)
    (accepts : ℕ → Bool) (events : List NormalizedEvent) :
    GapFlag (LoopState.sendAll accepts (events.map .fromUpdate) state).2 ∧
      (LoopState.sendAll accepts (events.map .fromUpdate) state).2.emittedDisconnectGap =
        false := by
  obtain ⟨taken, htaken, hstate⟩ :=
    LoopState.sendAll_spec accepts (events.map .fromUpdate) state
  have hnone : ∀ e ∈ taken, e.isFromLoop = false := by
    intro e he
    obtain ⟨x, -, rfl⟩ := List.mem_map.mp (htaken e he)
    rfl
  obtain ⟨hbracketed, hcount⟩ := h.bracketed.append_outside (h.even_of_closed hclosed) hnone
  rw [hstate]
  exact ⟨⟨hbracketed, by rw [hcount]; exact h.flag⟩, hclosed⟩

/-- A gap event of the loop goes with the flag that is turned over. -/
theorem append_gap (h : GapFlag state) {e : SentEvent} (hloop : e.isFromLoop = true)
    (hallowed : e.tradeAllowed = state.emittedDisconnectGap)
    (hsent : next.sent = state.sent ++ [e])
    (hflag : next.emittedDisconnectGap = !state.emittedDisconnectGap) : GapFlag next := by
  constructor
  · rw [hsent]
    apply h.bracketed.snoc
    · intro _
      rw [hallowed]
      exact h.flag
    · intro hupdate
      cases e <;> simp [SentEvent.isFromLoop, SentEvent.isFromUpdate] at hloop hupdate
  · rw [hsent, hflag, List.countP_append, List.countP_singleton, hloop, if_pos rfl,
      Nat.odd_add_one, ← h.flag]
    cases state.emittedDisconnectGap <;> simp

end GapFlag

namespace StreamSource

variable {σ U : Type}

@[simp] theorem gapEvent_isFromLoop (self : StreamSource σ U) (state : LoopState σ)
    (recovered : Bool) (stamp : Stamp) :
    (self.gapEvent state recovered stamp).isFromLoop = true := rfl

@[simp] theorem gapEvent_tradeAllowed (self : StreamSource σ U) (state : LoopState σ)
    (recovered : Bool) (stamp : Stamp) :
    (self.gapEvent state recovered stamp).tradeAllowed = recovered := rfl

@[simp] theorem gapEvent_isReconnectGap (self : StreamSource σ U) (state : LoopState σ)
    (recovered : Bool) (stamp : Stamp) :
    (self.gapEvent state recovered stamp).isReconnectGap = true := rfl

/-- The read loop starts without an open gap and keeps the invariant. -/
theorem read_gapFlag (self : StreamSource σ U) (accepts : ℕ → Bool) (ends : Bool)
    (items : List (StreamItem U)) {state : LoopState σ} (h : GapFlag state)
    (hclosed : state.emittedDisconnectGap = false) :
    GapFlag (self.read accepts ends items state).2 := by
  fun_induction read self accepts ends items state with
  | case1 state => exact h
  | case2 update stamp items state processed next hsend ih =>
    have hservice : GapFlag { state with service := processed.1 } := h.of_eq rfl rfl
    have hnext := hservice.sendAll_updates hclosed accepts processed.2
    rw [hsend] at hnext
    exact ih hnext.1 hnext.2
  | case3 update stamp items state processed next hsend =>
    have hservice : GapFlag { state with service := processed.1 } := h.of_eq rfl rfl
    have hnext := hservice.sendAll_updates hclosed accepts processed.2
    rw [hsend] at hnext
    exact hnext.1
  | case4 status stamp items state outcome hquit => exact h
  | case5 status stamp items state hquit noted next hsend =>
    rw [LoopState.send_false hsend]
    exact h.of_eq rfl rfl
  | case6 status stamp items state hquit noted next hsend attempts marked hmax =>
    have hsent : next.sent = state.sent ++ [self.gapEvent noted false stamp] := by
      rw [LoopState.send_true hsend]
    exact h.append_gap (gapEvent_isFromLoop self noted false stamp) hclosed.symm hsent
      (by rw [hclosed]; rfl)
  | case7 status stamp items state hquit noted next hsend attempts marked hmax =>
    have hsent : next.sent = state.sent ++ [self.gapEvent noted false stamp] := by
      rw [LoopState.send_true hsend]
    exact h.append_gap (gapEvent_isFromLoop self noted false stamp) hclosed.symm hsent
      (by rw [hclosed]; rfl)

/-- A connect that succeeds closes an open gap. -/
theorem resume_gapFlag (self : StreamSource σ U) (accepts : ℕ → Bool) (stamp : Stamp)
    {state : LoopState σ} (h : GapFlag state) :
    GapFlag (self.resume accepts stamp state).2 ∧
      ((self.resume accepts stamp state).1 = true →
        (self.resume accepts stamp state).2.emittedDisconnectGap = false) := by
  cases hopen : state.emittedDisconnectGap with
  | false =>
    simp only [resume, hopen]
    exact ⟨h.of_eq rfl hopen.symm, fun _ => rfl⟩
  | true =>
    simp only [resume, hopen, if_true]
    rcases hsend : state.send accepts (self.gapEvent state true stamp) with ⟨_ | _, next⟩
    · rw [LoopState.send_false hsend]
      exact ⟨h, by simp⟩
    · refine ⟨?_, fun _ => rfl⟩
      exact h.append_gap (gapEvent_isFromLoop self state true stamp) hopen.symm
        (by rw [LoopState.send_true hsend]) (by rw [hopen]; rfl)

section Outcome

variable (self : StreamSource σ U)
  (hrefused : ∀ error, self.onRefused error ≠ some .streamEnded)
  (hstatus : ∀ status, self.onStatus status ≠ some .streamEnded)

include hstatus in
theorem read_returned (accepts : ℕ → Bool) (ends : Bool) (items : List (StreamItem U))
    (state : LoopState σ) : (self.read accepts ends items state).1 ≠ .returned .streamEnded := by
  fun_induction read self accepts ends items state with
  | case1 state => cases ends <;> simp
  | case2 update stamp items state processed next hsend ih => exact ih
  | case4 status stamp items state outcome hquit =>
    rintro hended
    obtain rfl : outcome = .streamEnded := by simpa using hended
    exact hstatus status hquit
  | _ => simp

include hrefused hstatus in
/-- The outer loop keeps the invariant, and returns at a stream's end with the flag down. -/
theorem run_gapFlag (accepts : ℕ → Bool) (script : List (Connection U)) {state : LoopState σ}
    (h : GapFlag state) :
    GapFlag (self.run accepts script state).2 ∧
      ((self.run accepts script state).1 = .streamEnded →
        (self.run accepts script state).2.emittedDisconnectGap = false) := by
  fun_induction run self accepts script state with
  | case1 state => exact ⟨h, by simp⟩
  | case2 error script state outcome hquit =>
    refine ⟨h, ?_⟩
    rintro rfl
    exact absurd hquit (hrefused error)
  | case3 error script state hquit attempts hmax => exact ⟨h.of_eq rfl rfl, by simp⟩
  | case4 error script state hquit attempts hmax ih => exact ih (h.of_eq rfl rfl)
  | case5 stamp items ends script state next hresume =>
    have hnext := self.resume_gapFlag accepts stamp h
    rw [hresume] at hnext
    exact ⟨hnext.1, by simp⟩
  | case6 stamp items ends script state next hresume outcome last hread =>
    have hnext := self.resume_gapFlag accepts stamp h
    rw [hresume] at hnext
    have hlast := self.read_gapFlag accepts ends items hnext.1 (hnext.2 rfl)
    have hreturned := read_returned self hstatus accepts ends items next
    rw [hread] at hlast hreturned
    exact ⟨hlast, fun hended => absurd (congrArg ReadEnd.returned hended) hreturned⟩
  | case7 stamp items ends script state next hresume readEnd last hend hread hflag ih =>
    have hnext := self.resume_gapFlag accepts stamp h
    rw [hresume] at hnext
    have hlast := self.read_gapFlag accepts ends items hnext.1 (hnext.2 rfl)
    rw [hread] at hlast
    exact ih hlast
  | case8 stamp items ends script state next hresume readEnd last hend hread hflag =>
    have hnext := self.resume_gapFlag accepts stamp h
    rw [hresume] at hnext
    have hlast := self.read_gapFlag accepts ends items hnext.1 (hnext.2 rfl)
    rw [hread] at hlast
    exact ⟨hlast, fun _ => by simpa using hflag⟩

include hrefused hstatus in
theorem run_bracketsOutages (accepts : ℕ → Bool) (script : List (Connection U)) (service : σ) :
    BracketsOutages SentEvent.isFromLoop
      ((self.run accepts script { service }).1, (self.run accepts script { service }).2.sent) := by
  have hinit : GapFlag ({ service } : LoopState σ) := ⟨.nil, by simp⟩
  obtain ⟨hflag, hended⟩ := run_gapFlag self hrefused hstatus accepts script hinit
  exact ⟨hflag.bracketed, fun h => hflag.even_of_closed (hended h)⟩

end Outcome

/-! ## What the events of a run come from -/

/-- The updates among the items of a stream. -/
def itemUpdates (items : List (StreamItem U)) : List U :=
  items.filterMap fun item =>
    match item with
    | .update update _ => some update
    | .failed _ _ => none

theorem mem_itemUpdates {items : List (StreamItem U)} {update : U} {stamp : Stamp}
    (h : .update update stamp ∈ items) : update ∈ itemUpdates items :=
  List.mem_filterMap.mpr ⟨_, h, rfl⟩

/-- The updates that the streams of a script yield. -/
def updatesOf (script : List (Connection U)) : List U :=
  script.flatMap fun connection =>
    match connection with
    | .refused _ => []
    | .opened _ items _ => itemUpdates items

@[simp] theorem updatesOf_refused (error : ConnectError) (script : List (Connection U)) :
    updatesOf (.refused error :: script) = updatesOf script := rfl

@[simp] theorem updatesOf_opened (stamp : Stamp) (items : List (StreamItem U)) (ends : Bool)
    (script : List (Connection U)) :
    updatesOf (.opened stamp items ends :: script) = itemUpdates items ++ updatesOf script :=
  rfl

section Sent

variable (self : StreamSource σ U) {p : SentEvent → Prop}
  (hgap : ∀ state recovered stamp, p (self.gapEvent state recovered stamp))

include hgap in
theorem read_sent (accepts : ℕ → Bool) (ends : Bool) (items : List (StreamItem U))
    {state : LoopState σ} (h : ∀ e ∈ state.sent, p e)
    (hupdates : ∀ update stamp, .update update stamp ∈ items → ∀ service,
      ∀ event ∈ (self.process service update stamp).2, p (.fromUpdate event)) :
    ∀ e ∈ (self.read accepts ends items state).2.sent, p e := by
  have hnew : ∀ update stamp, .update update stamp ∈ items → ∀ service,
      ∀ e ∈ (self.process service update stamp).2.map SentEvent.fromUpdate, p e := by
    intro update stamp hmem service e he
    obtain ⟨event, hevent, rfl⟩ := List.mem_map.mp he
    exact hupdates update stamp hmem service event hevent
  fun_induction read self accepts ends items state with
  | case1 state => exact h
  | case2 update stamp items state processed next hsend ih =>
    have hsent := LoopState.sendAll_sent accepts (processed.2.map .fromUpdate)
      { state with service := processed.1 } h (hnew update stamp (by simp) state.service)
    rw [hsend] at hsent
    exact ih hsent (fun u t hmem => hupdates u t (List.mem_cons_of_mem _ hmem))
      (fun u t hmem => hnew u t (List.mem_cons_of_mem _ hmem))
  | case3 update stamp items state processed next hsend =>
    have hsent := LoopState.sendAll_sent accepts (processed.2.map .fromUpdate)
      { state with service := processed.1 } h (hnew update stamp (by simp) state.service)
    rw [hsend] at hsent
    exact hsent
  | case4 status stamp items state outcome hquit => exact h
  | case5 status stamp items state hquit noted next hsend =>
    have hsent := LoopState.send_sent accepts noted h (hgap noted false stamp)
    rw [hsend] at hsent
    exact hsent
  | case6 status stamp items state hquit noted next hsend attempts marked hmax =>
    have hsent := LoopState.send_sent accepts noted h (hgap noted false stamp)
    rw [hsend] at hsent
    exact hsent
  | case7 status stamp items state hquit noted next hsend attempts marked hmax =>
    have hsent := LoopState.send_sent accepts noted h (hgap noted false stamp)
    rw [hsend] at hsent
    exact hsent

include hgap in
theorem resume_sent (accepts : ℕ → Bool) (stamp : Stamp) {state : LoopState σ}
    (h : ∀ e ∈ state.sent, p e) : ∀ e ∈ (self.resume accepts stamp state).2.sent, p e := by
  have hsent := LoopState.send_sent accepts state h (hgap state true stamp)
  simp only [resume]
  split
  · rcases hsend : state.send accepts (self.gapEvent state true stamp) with ⟨_ | _, next⟩
    · rw [hsend] at hsent
      exact hsent
    · rw [hsend] at hsent
      exact hsent
  · exact h

include hgap in
theorem opened_sent (accepts : ℕ → Bool) (ends : Bool) (items : List (StreamItem U))
    {stamp : Stamp} {state next : LoopState σ} (h : ∀ e ∈ state.sent, p e)
    (hresume : self.resume accepts stamp state = (true, next))
    (hupdates : ∀ update ∈ itemUpdates items, ∀ time service,
      ∀ event ∈ (self.process service update time).2, p (.fromUpdate event)) :
    ∀ e ∈ (self.read accepts ends items next).2.sent, p e := by
  have hnext := resume_sent self hgap accepts stamp h
  rw [hresume] at hnext
  apply read_sent self hgap accepts ends items hnext
  intro update time hmem
  exact hupdates update (mem_itemUpdates hmem) time

variable (p) in
include hgap in
/-- Every event sent is a gap event of the loop or an event of an update of the script. -/
theorem run_sent (accepts : ℕ → Bool) (script : List (Connection U)) {state : LoopState σ}
    (h : ∀ e ∈ state.sent, p e)
    (hupdates : ∀ update ∈ updatesOf script, ∀ stamp service,
      ∀ event ∈ (self.process service update stamp).2, p (.fromUpdate event)) :
    ∀ e ∈ (self.run accepts script state).2.sent, p e := by
  fun_induction run self accepts script state with
  | case1 state => exact h
  | case2 error script state outcome hquit => exact h
  | case3 error script state hquit attempts hmax => exact h
  | case4 error script state hquit attempts hmax ih => exact ih h (by simpa using hupdates)
  | case5 stamp items ends script state next hresume =>
    have hnext := resume_sent self hgap accepts stamp h
    rw [hresume] at hnext
    exact hnext
  | case6 stamp items ends script state next hresume outcome last hread =>
    have hlast := opened_sent self hgap accepts ends items h hresume fun update hmem =>
      hupdates update (by simp [hmem])
    rw [hread] at hlast
    exact hlast
  | case7 stamp items ends script state next hresume readEnd last hend hread hflag ih =>
    have hlast := opened_sent self hgap accepts ends items h hresume fun update hmem =>
      hupdates update (by simp [hmem])
    rw [hread] at hlast
    exact ih hlast fun update hmem => hupdates update (by simp [hmem])
  | case8 stamp items ends script state next hresume readEnd last hend hread hflag =>
    have hlast := opened_sent self hgap accepts ends items h hresume fun update hmem =>
      hupdates update (by simp [hmem])
    rw [hread] at hlast
    exact hlast

end Sent

end StreamSource

/-! ## Gaps among the events of updates -/

namespace GeyserIngestService

/-- A reconnect gap found between slots comes with a parent that is not below its slot. -/
theorem detectGap_reconnectGap {self : GeyserIngestService} {slot : ℕ} {parent : Option ℕ}
    {gap : DataGapEvent} (h : self.detectGap slot parent = some gap)
    (hgap : gap.gapType = .reconnectGap) : ∃ p, parent = some p ∧ slot ≤ p := by
  simp only [detectGap] at h
  split at h
  · simp at h
  · split at h
    · obtain rfl := Option.some.inj h
      simp at hgap
    · rename_i last hlast hslot
      split at h
      · simp at h
      · rename_i p
        split at h
        · rename_i hparent
          have hsucc : saturatingAdd (saturatingAdd last self.config.slotGapTolerance) 1 ≤ p := by
            simp only [saturatingAdd] at hparent ⊢
            omega
          exact ⟨p, rfl, by omega⟩
        · simp at h

theorem processEnvelope_dataGap {self : GeyserIngestService} {envelope : GeyserEnvelope}
    {stamp : Stamp} {info : EventMeta} {gap : DataGapEvent}
    (h : .dataGap info gap ∈ (self.processEnvelope envelope stamp).2) :
    ∃ update connected, envelope.message = .slot update ∧
      detectGap { self with health := connected } update.slot update.parent = some gap := by
  simp only [processEnvelope] at h
  split at h
  · rename_i update hmessage
    refine ⟨update, { self.health with connected := true }, hmessage, ?_⟩
    simp only [processSlot] at h
    split at h
    · rename_i found hfound
      obtain ⟨-, rfl⟩ : _ ∧ gap = found := by simpa using h
      exact hfound
    · simp at h
  · simp only [processTransaction] at h
    split at h <;> simp at h
  · simp only [processAccount] at h
    split at h
    · split at h <;> simp at h
    · simp at h
  · simp at h

theorem processSubscribeUpdate_reconnectGap {self : GeyserIngestService}
    {update : SubscribeUpdate} {stamp : Stamp} {info : EventMeta} {gap : DataGapEvent}
    (h : .dataGap info gap ∈ (self.processSubscribeUpdate update stamp).2)
    (hgap : gap.gapType = .reconnectGap) :
    ∃ slot p, update.updateOneof = some (.slot slot) ∧ slot.parent = some p ∧
      slot.slot ≤ p := by
  simp only [processSubscribeUpdate] at h
  split at h
  · rename_i envelope henvelope
    obtain ⟨canonical, connected, hmessage, hdetect⟩ := processEnvelope_dataGap h
    obtain ⟨p, hparent, hle⟩ := detectGap_reconnectGap hdetect hgap
    simp only [envelopeFromSubscribeUpdate, Option.map_eq_some_iff,
      Option.bind_eq_some_iff] at henvelope
    obtain ⟨message, ⟨oneof, honeof, hof⟩, rfl⟩ := henvelope
    obtain rfl : message = .slot canonical := hmessage
    cases oneof with
    | slot slot =>
      obtain rfl := GeyserMessage.slot.inj (Option.some.inj hof)
      exact ⟨slot, p, honeof, hparent, hle⟩
    | _ => simp [UpdateOneof.message] at hof
  · simp at h

end GeyserIngestService

/-- Every slot update of the script comes with a parent below its slot, or without one. -/
def ParentsBelow (script : List (Connection SubscribeUpdate)) : Prop :=
  ∀ update ∈ StreamSource.updatesOf script, ∀ slot p,
    update.updateOneof = some (.slot slot) → slot.parent = some p → p < slot.slot

theorem geyserSource_agree (config : GeyserConfig) {accepts : ℕ → Bool}
    {script : List (Connection SubscribeUpdate)} (hbelow : ParentsBelow script)
    (service : GeyserIngestService × GeyserEventNormalizer) :
    ∀ e ∈ ((geyserSource config).run accepts script { service }).2.sent,
      e.isReconnectGap = e.isFromLoop := by
  apply StreamSource.run_sent (geyserSource config)
    (fun e => e.isReconnectGap = e.isFromLoop) (fun state recovered stamp => by simp)
  · simp
  · intro update hmem stamp service event hevent
    change event ∈ (service.2.normalizeOutputs _).2 at hevent
    cases hdata : event.isDataGap with
    | false =>
      cases hpayload : event.payload <;>
        simp [NormalizedEvent.isDataGap, SentEvent.isReconnectGap, SentEvent.isFromLoop,
          SentEvent.event, hpayload] at hdata ⊢
    | true =>
      obtain ⟨info, gap, hout, rfl⟩ :=
        GeyserEventNormalizer.normalizeOutputs_dataGap _ _ hevent hdata
      have hslot : gap.gapType ≠ .reconnectGap := by
        intro hgap
        obtain ⟨slot, p, honeof, hparent, hle⟩ :=
          GeyserIngestService.processSubscribeUpdate_reconnectGap hout hgap
        have := hbelow update hmem slot p honeof hparent
        omega
      simp [SentEvent.isReconnectGap, SentEvent.isFromLoop, SentEvent.event, hslot]

theorem deshredSource_agree (config : DeshredConfig) (accepts : ℕ → Bool)
    (script : List (Connection SubscribeUpdateDeshred)) (service : GeyserEventNormalizer) :
    ∀ e ∈ ((deshredSource config).run accepts script { service }).2.sent,
      e.isReconnectGap = e.isFromLoop := by
  apply StreamSource.run_sent (deshredSource config)
    (fun e => e.isReconnectGap = e.isFromLoop) (fun state recovered stamp => by simp)
  · simp
  · intro update _ stamp service event hevent
    have hdata : event.isDataGap = false := by
      change event ∈ (normalizedEventsFromDeshredUpdate service update stamp).2 at hevent
      simp only [normalizedEventsFromDeshredUpdate] at hevent
      split at hevent
      · split at hevent
        · exact GeyserEventNormalizer.normalizeTransaction_isDataGap _ _ _ event hevent
        · simp at hevent
      · simp at hevent
    cases hpayload : event.payload <;>
      simp [NormalizedEvent.isDataGap, SentEvent.isReconnectGap, SentEvent.isFromLoop,
        SentEvent.event, hpayload] at hdata ⊢

/-! ## Both sources -/

theorem runGeyserSource_loopGaps (config : GeyserConfig) (endpoint : Except String String)
    (normalizer : GeyserEventNormalizer) (accepts : ℕ → Bool)
    (script : List (Connection SubscribeUpdate)) :
    BracketsOutages SentEvent.isFromLoop
      (runGeyserSourceWithConnector config endpoint normalizer accepts script) := by
  cases endpoint with
  | error message => exact ⟨.nil, by simp [runGeyserSourceWithConnector]⟩
  | ok endpoint =>
    exact (geyserSource config).run_bracketsOutages (fun _ => by simp [geyserSource])
      (fun _ => by simp [geyserSource]) accepts script _

theorem runDeshredSource_loopGaps (config : DeshredConfig) (normalizer : GeyserEventNormalizer)
    (accepts : ℕ → Bool) (script : List (Connection SubscribeUpdateDeshred)) :
    BracketsOutages SentEvent.isFromLoop
      (runDeshredSourceWithConnector config normalizer accepts script) := by
  apply (deshredSource config).run_bracketsOutages
  · intro error
    simp only [deshredSource]
    split <;> simp
  · intro status
    simp only [deshredSource]
    split
    · simp
    · split <;> simp

/-- The gaps that the loops send bracket every outage. They are all the reconnect gaps of
the deshred source, and of the Geyser source as long as no slot update has a parent that is
not below its slot. -/
theorem sourceGaps_bracketOutages (accepts : ℕ → Bool) (normalizer : GeyserEventNormalizer) :
    (∀ (config : GeyserConfig) (endpoint : Except String String)
        (script : List (Connection SubscribeUpdate)),
      BracketsOutages SentEvent.isFromLoop
        (runGeyserSourceWithConnector config endpoint normalizer accepts script) ∧
      (ParentsBelow script → BracketsOutages SentEvent.isReconnectGap
        (runGeyserSourceWithConnector config endpoint normalizer accepts script))) ∧
    ∀ (config : DeshredConfig) (script : List (Connection SubscribeUpdateDeshred)),
      BracketsOutages SentEvent.isReconnectGap
        (runDeshredSourceWithConnector config normalizer accepts script) := by
  refine ⟨fun config endpoint script => ⟨?_, fun hbelow => ?_⟩, fun config script => ?_⟩
  · exact runGeyserSource_loopGaps config endpoint normalizer accepts script
  · apply (runGeyserSource_loopGaps config endpoint normalizer accepts script).congr
    cases endpoint with
    | error message => simp [runGeyserSourceWithConnector]
    | ok endpoint => exact geyserSource_agree config hbelow _
  · apply (runDeshredSource_loopGaps config normalizer accepts script).congr
    exact deshredSource_agree config accepts script normalizer

/-! ## Two runs -/

namespace SourceRuns

def stamp : Stamp where
  eventId := ⟨"event"⟩
  gapEventId := ⟨"gap"⟩
  now := 0
  observedNs := 0

def slotItem (slot parent : ℕ) : StreamItem SubscribeUpdate :=
  .update { updateOneof := some (.slot { slot, parent := some parent, status := .processed }) }
    stamp

/-- A stream that fails after one slot and is connected again. -/
def outage : List (Connection SubscribeUpdate) :=
  [.opened stamp [slotItem 5 4, .failed ⟨.unavailable, "unavailable"⟩ stamp] false,
    .refused ⟨some .unavailable, "unavailable"⟩, .opened stamp [slotItem 6 5] true]

/-- A stream that ends without a failure, with a slot whose parent is above it. -/
def parentAbove : List (Connection SubscribeUpdate) :=
  [.opened stamp [slotItem 100 99, slotItem 100 200] true]

end SourceRuns

theorem sourceGaps_bracketOutages_outage :
    BracketsOutages SentEvent.isReconnectGap
      (runGeyserSourceWithConnector {} (.ok "") { idls := [] } (fun _ => true)
        SourceRuns.outage) := by
  apply ((sourceGaps_bracketOutages (fun _ => true) { idls := [] }).1 {} (.ok "") _).2
  intro update hmem slot p honeof hparent
  have hupdates : StreamSource.updatesOf SourceRuns.outage =
      [{ updateOneof := some (.slot { slot := 5, parent := some 4, status := .processed }) },
        { updateOneof := some (.slot { slot := 6, parent := some 5, status := .processed }) }] :=
    rfl
  rw [hupdates] at hmem
  simp only [List.mem_cons, List.not_mem_nil, or_false] at hmem
  rcases hmem with rfl | rfl
  · obtain rfl := UpdateOneof.slot.inj (Option.some.inj honeof)
    obtain rfl := Option.some.inj hparent
    decide
  · obtain rfl := UpdateOneof.slot.inj (Option.some.inj honeof)
    obtain rfl := Option.some.inj hparent
    decide

/-- The gap that the ingest finds when a parent is above its slot blocks for good. -/
theorem runGeyserSource_parentAbove :
    ¬ ∀ (config : GeyserConfig) (endpoint : Except String String)
        (normalizer : GeyserEventNormalizer) (accepts : ℕ → Bool)
        (script : List (Connection SubscribeUpdate)),
      BracketsOutages SentEvent.isReconnectGap
        (runGeyserSourceWithConnector config endpoint normalizer accepts script) := by
  intro h
  have hrun := (h {} (.ok "") { idls := [] } (fun _ => true) SourceRuns.parentAbove).recovered
    (by decide +kernel)
  revert hrun
  decide +kernel

end PumpLaunchTrader
