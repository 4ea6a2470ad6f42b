import PumpLaunchTrader.Lib.Runs
import PumpLaunchTrader.Supervisor.LiveSteps

/-! # The queues of a live run

Publishers and receivers call a bus in any order. A bus loses nothing that it has accepted,
keeps the order within each priority and delivers the more urgent messages first. A live run
is then a sequential run of its pipeline, over a schedule that the two queues alone determine. -/

namespace PumpLaunchTrader

/-! ## Calls on a bus -/

/-- The priorities in the order in which they are served. -/
def Priority.rank : Priority → ℕ
  | .high => 0
  | .normal => 1
  | .low => 2

inductive BusCall (α : Type) where
  | publish (priority : Priority) (message : α)
  | recv

namespace EventBus

variable {α : Type}

/-- The queue of a priority. -/
def queue (self : EventBus α) : Priority → List α
  | .high => self.high
  | .normal => self.normal
  | .low => self.low

/-- The bus after a call of a publisher or of the receiver. -/
def call (self : EventBus α) : BusCall α → EventBus α
  | .publish priority message => (self.tryPublish priority message).toOption.getD self
  | .recv => self.recv.elim self Prod.snd

/-- What a call adds to the accepted messages of a priority. -/
def accepts (priority : Priority) (self : EventBus α) : BusCall α → List α
  | .publish p message =>
    match self.tryPublish p message with
    | .ok _ => if p = priority then [message] else []
    | .error _ => []
  | .recv => []

/-- The first priority with a message in its queue. -/
def urgent (self : EventBus α) : Option Priority :=
  [.high, .normal, .low].find? fun priority => !(self.queue priority).isEmpty

/-- What a call adds to the delivered messages of a priority. -/
def delivers (priority : Priority) (self : EventBus α) : BusCall α → List α
  | .publish _ _ => []
  | .recv => if self.urgent = some priority then (self.recv.map Prod.fst).toList else []

theorem tryPublish_of_room {self : EventBus α} {priority : Priority}
    (h : (self.queue priority).length < self.capacityPerPriority) (message : α) :
    ∃ bus, self.tryPublish priority message = .ok bus ∧
      bus.capacityPerPriority = self.capacityPerPriority ∧
      ∀ p, bus.queue p = self.queue p ++ if priority = p then [message] else [] := by
  cases priority with
  | high =>
      refine ⟨{ self with high := self.high ++ [message] }, ?_, rfl, fun p => ?_⟩
      · have hroom : self.high.length < self.capacityPerPriority := h
        simp [tryPublish, trySend, hroom, Except.map]
      · cases p <;> simp [queue]
  | normal =>
      refine ⟨{ self with normal := self.normal ++ [message] }, ?_, rfl, fun p => ?_⟩
      · have hroom : self.normal.length < self.capacityPerPriority := h
        simp [tryPublish, trySend, hroom, Except.map]
      · cases p <;> simp [queue]
  | low =>
      refine ⟨{ self with low := self.low ++ [message] }, ?_, rfl, fun p => ?_⟩
      · have hroom : self.low.length < self.capacityPerPriority := h
        simp [tryPublish, trySend, hroom, Except.map]
      · cases p <;> simp [queue]

theorem tryPublish_of_full {self : EventBus α} {priority : Priority}
    (h : ¬ (self.queue priority).length < self.capacityPerPriority) (message : α) :
    self.tryPublish priority message = .error .full := by
  have hfull : trySend self.capacityPerPriority (self.queue priority) message =
      .error .full := if_neg h
  cases priority with
  | high => exact congrArg (Except.map _) hfull
  | normal => exact congrArg (Except.map _) hfull
  | low => exact congrArg (Except.map _) hfull

theorem urgent_eq_none_iff {self : EventBus α} :
    self.urgent = none ↔ ∀ priority, self.queue priority = [] := by
  constructor
  · intro h priority
    cases priority <;> simp_all [urgent]
  · intro h
    simp [urgent, h]

/-- Before the first priority with a message there is none. -/
theorem queue_eq_nil_of_urgent {self : EventBus α} {priority p : Priority}
    (h : self.urgent = some priority) (hrank : p.rank < priority.rank) : self.queue p = [] := by
  cases hhigh : self.queue .high <;> cases hnormal : self.queue .normal <;>
    cases priority <;> cases p <;> simp_all [urgent, Priority.rank]

/-- The receiver takes the first message of the first priority with one. -/
theorem recv_of_urgent {self : EventBus α} {priority : Priority}
    (h : self.urgent = some priority) :
    ∃ message bus, self.recv = some (message, bus) ∧
      bus.capacityPerPriority = self.capacityPerPriority ∧
      ∀ p, self.queue p = (if priority = p then [message] else []) ++ bus.queue p := by
  obtain ⟨capacity, high, normal, low⟩ := self
  cases high with
  | cons message high =>
      obtain rfl : Priority.high = priority := by simpa [urgent, queue] using h
      exact ⟨message, _, rfl, rfl, fun p => by cases p <;> rfl⟩
  | nil =>
      cases normal with
      | cons message normal =>
          obtain rfl : Priority.normal = priority := by simpa [urgent, queue] using h
          exact ⟨message, _, rfl, rfl, fun p => by cases p <;> rfl⟩
      | nil =>
          cases low with
          | cons message low =>
              obtain rfl : Priority.low = priority := by simpa [urgent, queue] using h
              exact ⟨message, _, rfl, rfl, fun p => by cases p <;> rfl⟩
          | nil => simp [urgent, queue] at h

theorem recv_of_urgent_none {self : EventBus α} (h : self.urgent = none) :
    self.recv = none := by
  have hempty := urgent_eq_none_iff.mp h
  obtain ⟨capacity, high, normal, low⟩ := self
  obtain rfl : high = [] := hempty .high
  obtain rfl : normal = [] := hempty .normal
  obtain rfl : low = [] := hempty .low
  rfl

/-- A call moves messages in at the end of a queue and out at its front. -/
theorem queue_call (priority : Priority) (self : EventBus α) (input : BusCall α) :
    self.queue priority ++ self.accepts priority input =
      self.delivers priority input ++ (self.call input).queue priority := by
  cases input with
  | publish p message =>
      by_cases hroom : (self.queue p).length < self.capacityPerPriority
      · obtain ⟨bus, hbus, -, hqueue⟩ := tryPublish_of_room hroom message
        simp [accepts, delivers, call, hbus, hqueue, Except.toOption]
      · simp [accepts, delivers, call, tryPublish_of_full hroom, Except.toOption]
  | recv =>
      cases hurgent : self.urgent with
      | none => simp [accepts, delivers, call, hurgent, recv_of_urgent_none hurgent]
      | some p =>
          obtain ⟨message, bus, hrecv, -, hqueue⟩ := recv_of_urgent hurgent
          by_cases hp : p = priority <;> simp [accepts, delivers, call, hurgent, hrecv, hqueue, hp]

/-- No queue holds more than its capacity. -/
def Bounded (self : EventBus α) : Prop :=
  ∀ priority, (self.queue priority).length ≤ self.capacityPerPriority

theorem call_bounded {self : EventBus α} (h : self.Bounded) (input : BusCall α) :
    (self.call input).capacityPerPriority = self.capacityPerPriority ∧
      (self.call input).Bounded := by
  cases input with
  | publish p message =>
      by_cases hroom : (self.queue p).length < self.capacityPerPriority
      · obtain ⟨bus, hbus, hcapacity, hqueue⟩ := tryPublish_of_room hroom message
        simp only [call, hbus, Except.toOption, Option.getD_some]
        refine ⟨hcapacity, fun priority => ?_⟩
        rw [hqueue, hcapacity, List.length_append]
        by_cases hp : p = priority
        · subst hp
          simpa using Nat.succ_le_of_lt hroom
        · simpa [hp] using h priority
      · simp only [call, tryPublish_of_full hroom, Except.toOption, Option.getD_none]
        exact ⟨trivial, h⟩
  | recv =>
      cases hurgent : self.urgent with
      | none =>
          simp only [call, recv_of_urgent_none hurgent, Option.elim_none]
          exact ⟨trivial, h⟩
      | some p =>
          obtain ⟨message, bus, hrecv, hcapacity, hqueue⟩ := recv_of_urgent hurgent
          simp only [call, hrecv, Option.elim_some]
          refine ⟨hcapacity, fun priority => ?_⟩
          have hlength := h priority
          rw [hqueue, List.length_append] at hlength
          rw [hcapacity]
          omega

/-- What a bus promises after the calls that led to it, in terms of what it has accepted and
delivered: nothing is lost or overtaken within a priority, no queue outgrows its capacity, a
message is refused exactly when its queue is full, none is delivered before a more urgent one
that was accepted, and the receiver waits only when all of them were delivered. -/
structure Faithful (accepted delivered : Priority → List α) (bus : EventBus α) : Prop where
  conveyed : ∀ priority, accepted priority = delivered priority ++ bus.queue priority
  bounded : ∀ priority,
    (accepted priority).length ≤ (delivered priority).length + bus.capacityPerPriority
  refused_iff : ∀ priority message, bus.tryPublish priority message = .error .full ↔
    (accepted priority).length = (delivered priority).length + bus.capacityPerPriority
  urgent : ∀ priority, bus.delivers priority .recv ≠ [] →
    ∀ p, p.rank < priority.rank → accepted p = delivered p
  waits_iff : bus.recv = none ↔ ∀ priority, accepted priority = delivered priority

/-- Whatever order publishers and the receiver call a bus in. -/
theorem faithful_run (capacity : ℕ) (calls : List (BusCall α)) :
    Faithful (fun priority => Runs.emitted call (accepts priority) (bounded capacity) calls)
      (fun priority => Runs.emitted call (delivers priority) (bounded capacity) calls)
      (calls.foldl call (bounded capacity)) := by
  have hconveyed : ∀ priority, Runs.emitted call (accepts priority) (bounded capacity) calls =
      Runs.emitted call (delivers priority) (bounded capacity) calls ++
        (calls.foldl call (bounded capacity)).queue priority := by
    intro priority
    have h := Runs.queue_foldl call (queue · priority) (accepts priority) (delivers priority)
      (queue_call priority) (bounded capacity) calls
    have hempty : (bounded capacity : EventBus α).queue priority = [] := by
      cases priority <;> rfl
    simpa only [hempty, List.nil_append] using h
  have hbounded : (calls.foldl call (bounded capacity)).Bounded := by
    refine List.foldlRecOn calls call (fun priority => ?_) fun bus h input _ =>
      (call_bounded h input).2
    cases priority <;> exact Nat.zero_le _
  generalize calls.foldl call (bounded capacity) = bus at hconveyed hbounded ⊢
  constructor
  · exact hconveyed
  · intro priority
    have h := hbounded priority
    rw [hconveyed, List.length_append]
    omega
  · intro priority message
    have h := hbounded priority
    rw [hconveyed, List.length_append, Nat.add_left_cancel_iff]
    by_cases hroom : (bus.queue priority).length < bus.capacityPerPriority
    · obtain ⟨next, hnext, -⟩ := tryPublish_of_room hroom message
      simp [hnext, hroom.ne]
    · simp [tryPublish_of_full hroom message, le_antisymm h (not_lt.mp hroom)]
  · intro priority hdelivers p hrank
    have hurgent : bus.urgent = some priority := by
      by_contra hne
      simp [delivers, hne] at hdelivers
    rw [hconveyed, queue_eq_nil_of_urgent hurgent hrank, List.append_nil]
  · have hempty : (∀ priority, Runs.emitted call (accepts priority) (bounded capacity) calls =
        Runs.emitted call (delivers priority) (bounded capacity) calls) ↔
        ∀ priority, bus.queue priority = [] := by
      simp only [hconveyed, List.append_right_eq_self]
    rw [hempty, ← urgent_eq_none_iff]
    cases hurgent : bus.urgent with
    | none => simp [recv_of_urgent_none hurgent]
    | some priority =>
        obtain ⟨message, next, hrecv, -⟩ := recv_of_urgent hurgent
        simp [hrecv]

end EventBus

/-! ## The schedule of a live run -/

/-- What a step of a live run asks of the pipeline. -/
inductive PipelineCall where
  | handle (event : NormalizedEvent) (tentative : Bool)
  | overflow (slot : ℕ)
  | finalize (unixNow : OffsetDateTime)

namespace PipelineCall

/-- The event that a call handles, on the canonical or the tentative path. -/
def handled (tentative : Bool) : Ambient × PipelineCall → Option NormalizedEvent
  | (_, .handle event path) => if path = tentative then some event else none
  | _ => none

/-- The slot for which a call marks a gap. -/
def overflowSlot : Ambient × PipelineCall → Option ℕ
  | (_, .overflow slot) => some slot
  | _ => none

end PipelineCall

/-- The pipeline after a call. -/
def Pipeline.perform (self : Pipeline) (input : Ambient × PipelineCall) : Pipeline :=
  match input.2 with
  | .handle event tentative => (self.handleEvent input.1 event tentative).1
  | .overflow slot => self.applyEvent (syntheticGapEvent input.1 slot .geyserProcessed)
  | .finalize unixNow => (self.finalize input.1 unixNow).1

namespace LiveStep

/-- The canonical event that a step publishes. -/
def canonical : Ambient × LiveStep → List NormalizedEvent
  | (_, .publishCanonical event) => [event]
  | _ => []

/-- The tentative event that a step publishes. -/
def tentative : Ambient × LiveStep → List NormalizedEvent
  | (_, .publishTentative event) => [event]
  | _ => []

end LiveStep

/-- The queued events of a live run, without its pipeline. -/
structure LiveQueues where
  canonicalCapacity : ℕ
  tentativeCapacity : ℕ
  canonical : List NormalizedEvent := []
  tentative : List NormalizedEvent := []

namespace LiveQueues

def step (self : LiveQueues) (input : Ambient × LiveStep) : LiveQueues :=
  match input.2 with
  | .publishCanonical event =>
    if self.canonical.length < self.canonicalCapacity then
      { self with canonical := self.canonical ++ [event] }
    else self
  | .publishTentative event =>
    if self.tentative.length < self.tentativeCapacity then
      { self with tentative := self.tentative ++ [event] }
    else self
  | .drain =>
    match self.canonical with
    | _ :: canonical => { self with canonical := canonical }
    | [] => { self with tentative := self.tentative.tail }
  | .finalizeRun _ => self

/-- What the pipeline is called with in a step. -/
def calls (self : LiveQueues) (input : Ambient × LiveStep) : List (Ambient × PipelineCall) :=
  match input.2 with
  | .publishCanonical event =>
    if self.canonical.length < self.canonicalCapacity then []
    else [(input.1, .overflow event.info.slot)]
  | .publishTentative _ => []
  | .drain =>
    match self.canonical with
    | event :: _ => [(input.1, .handle event false)]
    | [] => self.tentative.head?.toList.map fun event => (input.1, .handle event true)
  | .finalizeRun unixNow => [(input.1, .finalize unixNow)]

/-- The calls of a run, in their order. -/
def schedule (self : LiveQueues) (inputs : List (Ambient × LiveStep)) :
    List (Ambient × PipelineCall) :=
  Runs.emitted step calls self inputs

/-! ### What a schedule accounts for -/

/-- The canonical event that a step takes into the queue. -/
def accepted (self : LiveQueues) (input : Ambient × LiveStep) : List NormalizedEvent :=
  if self.canonical.length < self.canonicalCapacity then LiveStep.canonical input else []

/-- The canonical event for which there is no room. -/
def refused (self : LiveQueues) (input : Ambient × LiveStep) : List NormalizedEvent :=
  if self.canonical.length < self.canonicalCapacity then [] else LiveStep.canonical input

/-- The tentative event that a step takes into the queue. -/
def acceptedTentative (self : LiveQueues) (input : Ambient × LiveStep) : List NormalizedEvent :=
  if self.tentative.length < self.tentativeCapacity then LiveStep.tentative input else []

/-- The tentative event that is dropped, for there is no room. -/
def dropped (self : LiveQueues) (input : Ambient × LiveStep) : List NormalizedEvent :=
  if self.tentative.length < self.tentativeCapacity then [] else LiveStep.tentative input

/-- No queue is longer than its capacity. -/
structure Bounded (self : LiveQueues) : Prop where
  canonical : self.canonical.length ≤ self.canonicalCapacity
  tentative : self.tentative.length ≤ self.tentativeCapacity

/-- The events of a run and what became of them. Each event that was published while its queue
had room was handled once or is queued, in the order of publication. Each canonical event that
was published to a full queue was answered by a gap at its slot, each tentative one was dropped,
and only a drain makes room in a full queue. No tentative event was handled while a canonical
one was queued. -/
structure Accounted (start : LiveQueues) (inputs : List (Ambient × LiveStep)) : Prop where
  canonical : (start.schedule inputs).filterMap (PipelineCall.handled false) ++
    (inputs.foldl step start).canonical = Runs.emitted step accepted start inputs
  canonical_order : (Runs.emitted step accepted start inputs).Sublist
    (inputs.flatMap LiveStep.canonical)
  refused : (Runs.emitted step accepted start inputs ++
    Runs.emitted step refused start inputs).Perm (inputs.flatMap LiveStep.canonical)
  gaps : (start.schedule inputs).filterMap PipelineCall.overflowSlot =
    (Runs.emitted step LiveQueues.refused start inputs).map (·.info.slot)
  tentative : (start.schedule inputs).filterMap (PipelineCall.handled true) ++
    (inputs.foldl step start).tentative = Runs.emitted step acceptedTentative start inputs
  tentative_order : (Runs.emitted step acceptedTentative start inputs).Sublist
    (inputs.flatMap LiveStep.tentative)
  dropped : (Runs.emitted step acceptedTentative start inputs ++
    Runs.emitted step dropped start inputs).Perm (inputs.flatMap LiveStep.tentative)
  bounded : (inputs.foldl step start).Bounded
  drained : ∀ input,
    ((inputs.foldl step start).step input).canonical.length <
        (inputs.foldl step start).canonical.length ∨
      ((inputs.foldl step start).step input).tentative.length <
        (inputs.foldl step start).tentative.length → input.2 = .drain
  canonical_first : ∀ input event,
    event ∈ ((inputs.foldl step start).calls input).filterMap (PipelineCall.handled true) →
      (inputs.foldl step start).canonical = []

theorem canonical_step (self : LiveQueues) (input : Ambient × LiveStep) :
    self.canonical ++ self.accepted input =
      (self.calls input).filterMap (PipelineCall.handled false) ++ (self.step input).canonical := by
  obtain ⟨ambient, input⟩ := input
  cases input with
  | publishCanonical event =>
      by_cases hroom : self.canonical.length < self.canonicalCapacity <;>
        simp [accepted, calls, step, LiveStep.canonical, PipelineCall.handled, hroom]
  | publishTentative event =>
      by_cases hroom : self.tentative.length < self.tentativeCapacity <;>
        simp [accepted, calls, step, LiveStep.canonical, hroom]
  | drain =>
      cases hcanonical : self.canonical with
      | cons event canonical =>
          simp [accepted, calls, step, LiveStep.canonical, PipelineCall.handled, hcanonical]
      | nil =>
          cases self.tentative.head? <;>
            simp [accepted, calls, step, LiveStep.canonical, PipelineCall.handled, hcanonical]
  | finalizeRun unixNow =>
      simp [accepted, calls, step, LiveStep.canonical, PipelineCall.handled]

theorem tentative_step (self : LiveQueues) (input : Ambient × LiveStep) :
    self.tentative ++ self.acceptedTentative input =
      (self.calls input).filterMap (PipelineCall.handled true) ++ (self.step input).tentative := by
  obtain ⟨ambient, input⟩ := input
  cases input with
  | publishCanonical event =>
      by_cases hroom : self.canonical.length < self.canonicalCapacity <;>
        simp [acceptedTentative, calls, step, LiveStep.tentative, PipelineCall.handled, hroom]
  | publishTentative event =>
      by_cases hroom : self.tentative.length < self.tentativeCapacity <;>
        simp [acceptedTentative, calls, step, LiveStep.tentative, hroom]
  | drain =>
      cases hcanonical : self.canonical with
      | cons event canonical =>
          simp [acceptedTentative, calls, step, LiveStep.tentative, PipelineCall.handled,
            hcanonical]
      | nil =>
          cases htentative : self.tentative <;>
            simp [acceptedTentative, calls, step, LiveStep.tentative, PipelineCall.handled,
              hcanonical, htentative]
  | finalizeRun unixNow =>
      simp [acceptedTentative, calls, step, LiveStep.tentative, PipelineCall.handled]

theorem overflowSlot_calls (self : LiveQueues) (input : Ambient × LiveStep) :
    (self.calls input).filterMap PipelineCall.overflowSlot =
      (self.refused input).map (·.info.slot) := by
  obtain ⟨ambient, input⟩ := input
  cases input with
  | publishCanonical event =>
      by_cases hroom : self.canonical.length < self.canonicalCapacity <;>
        simp [refused, calls, LiveStep.canonical, PipelineCall.overflowSlot, hroom]
  | publishTentative event => simp [refused, calls, LiveStep.canonical]
  | drain =>
      cases hcanonical : self.canonical with
      | cons event canonical =>
          simp [refused, calls, LiveStep.canonical, PipelineCall.overflowSlot, hcanonical]
      | nil =>
          cases self.tentative.head? <;>
            simp [refused, calls, LiveStep.canonical, PipelineCall.overflowSlot, hcanonical]
  | finalizeRun unixNow =>
      simp [refused, calls, LiveStep.canonical, PipelineCall.overflowSlot]

theorem Bounded.step {self : LiveQueues} (h : self.Bounded) (input : Ambient × LiveStep) :
    (self.step input).Bounded := by
  obtain ⟨hcanonical, htentative⟩ := h
  obtain ⟨ambient, input⟩ := input
  cases input with
  | publishCanonical event =>
      by_cases hroom : self.canonical.length < self.canonicalCapacity
      · exact ⟨by simp [LiveQueues.step, hroom],
          by simpa [LiveQueues.step, hroom] using htentative⟩
      · simpa [LiveQueues.step, hroom] using ⟨hcanonical, htentative⟩
  | publishTentative event =>
      by_cases hroom : self.tentative.length < self.tentativeCapacity
      · exact ⟨by simpa [LiveQueues.step, hroom] using hcanonical,
          by simp [LiveQueues.step, hroom]⟩
      · simpa [LiveQueues.step, hroom] using ⟨hcanonical, htentative⟩
  | drain =>
      cases hqueue : self.canonical with
      | cons event canonical =>
          rw [hqueue, List.length_cons] at hcanonical
          exact ⟨by simp only [LiveQueues.step, hqueue]; omega,
            by simpa [LiveQueues.step, hqueue] using htentative⟩
      | nil =>
          refine ⟨by simp [LiveQueues.step, hqueue], ?_⟩
          simp only [LiveQueues.step, hqueue, List.length_tail]
          omega
  | finalizeRun unixNow => exact ⟨hcanonical, htentative⟩

/-- Only a drain shortens a queue. -/
theorem drain_of_shorter {self : LiveQueues} {input : Ambient × LiveStep}
    (h : (self.step input).canonical.length < self.canonical.length ∨
      (self.step input).tentative.length < self.tentative.length) : input.2 = .drain := by
  obtain ⟨ambient, input⟩ := input
  cases input with
  | publishCanonical event =>
      simp only [LiveQueues.step] at h
      split at h
      · simp at h
      · simp at h
  | publishTentative event =>
      simp only [LiveQueues.step] at h
      split at h
      · simp at h
      · simp at h
  | drain => rfl
  | finalizeRun unixNow => simp [LiveQueues.step] at h

/-- No tentative event is handled while a canonical one is queued. -/
theorem canonical_eq_nil_of_handled {self : LiveQueues} {input : Ambient × LiveStep}
    {event : NormalizedEvent}
    (h : event ∈ (self.calls input).filterMap (PipelineCall.handled true)) :
    self.canonical = [] := by
  obtain ⟨ambient, input⟩ := input
  cases hqueue : self.canonical with
  | nil => rfl
  | cons first rest =>
      cases input with
      | publishCanonical published =>
          simp only [calls] at h
          split at h
          · simp at h
          · simp [PipelineCall.handled] at h
      | publishTentative published => simp [calls] at h
      | drain => simp [calls, hqueue, PipelineCall.handled] at h
      | finalizeRun unixNow => simp [calls, PipelineCall.handled] at h

theorem accounted {start : LiveQueues} (hcanonical : start.canonical = [])
    (htentative : start.tentative = []) (inputs : List (Ambient × LiveStep)) :
    start.Accounted inputs := by
  have hfirst := Runs.queue_foldl step LiveQueues.canonical accepted
    (fun q input => (q.calls input).filterMap (PipelineCall.handled false)) canonical_step
    start inputs
  have hsecond := Runs.queue_foldl step LiveQueues.tentative acceptedTentative
    (fun q input => (q.calls input).filterMap (PipelineCall.handled true)) tentative_step
    start inputs
  rw [← Runs.filterMap_emitted, hcanonical, List.nil_append] at hfirst
  rw [← Runs.filterMap_emitted, htentative, List.nil_append] at hsecond
  constructor
  · exact hfirst.symm
  · refine Runs.emitted_sublist step (fun queues input => ?_) start inputs
    exact Runs.ite_sublist _ _
  · refine Runs.emitted_append_perm step (fun queues input => ?_) start inputs
    exact Runs.ite_append_perm _ _
  · unfold schedule
    rw [Runs.filterMap_emitted, Runs.map_emitted]
    simp only [overflowSlot_calls]
  · exact hsecond.symm
  · refine Runs.emitted_sublist step (fun queues input => ?_) start inputs
    exact Runs.ite_sublist _ _
  · refine Runs.emitted_append_perm step (fun queues input => ?_) start inputs
    exact Runs.ite_append_perm _ _
  · exact List.foldlRecOn inputs step ⟨by simp [hcanonical], by simp [htentative]⟩
      fun queues h input _ => h.step input
  · exact fun input h => drain_of_shorter h
  · exact fun input event h => canonical_eq_nil_of_handled h

end LiveQueues

namespace LiveSupervisor

/-- The buses of a supervisor hold the events of these queues and nothing else. -/
structure Queued (s : LiveSupervisor) (queues : LiveQueues) : Prop where
  canonicalBus : s.canonicalBus =
    { capacityPerPriority := queues.canonicalCapacity, high := queues.canonical }
  tentativeBus : s.tentativeBus =
    { capacityPerPriority := queues.tentativeCapacity, low := queues.tentative }

theorem Queued.of_sameQueues {s t : LiveSupervisor} {queues : LiveQueues} (h : s.Queued queues)
    (hsame : s.SameQueues t) : t.Queued queues where
  canonicalBus := hsame.canonicalBus.trans h.canonicalBus
  tentativeBus := hsame.tentativeBus.trans h.tentativeBus

theorem Queued.handleEvent {s : LiveSupervisor} {queues : LiveQueues} (h : s.Queued queues)
    (ambient : Ambient) (event : NormalizedEvent) (tentative : Bool) :
    (s.handleEvent ambient event tentative).Queued queues := by
  have hnext : ({ s with
      toPipeline := (s.toPipeline.handleEvent ambient event tentative).1 } :
        LiveSupervisor).Queued queues := ⟨h.canonicalBus, h.tentativeBus⟩
  exact hnext.of_sameQueues (sameQueues_persistAll _ _ _)

theorem Queued.publishCanonical {s : LiveSupervisor} {queues : LiveQueues} (h : s.Queued queues)
    (ambient : Ambient) (event : NormalizedEvent) :
    (s.publishCanonical ambient event).Queued
        (queues.step (ambient, .publishCanonical event)) ∧
      (s.publishCanonical ambient event).toPipeline =
        (queues.calls (ambient, .publishCanonical event)).foldl Pipeline.perform
          s.toPipeline := by
  have hbus := h.canonicalBus
  simp only [LiveQueues.step, LiveQueues.calls]
  by_cases hroom : queues.canonical.length < queues.canonicalCapacity
  · have hfull : s.canonicalFull = false := by
      simpa [canonicalFull, hbus] using hroom
    rw [publishCanonical_of_not_full hfull, if_pos hroom, if_pos hroom]
    exact ⟨⟨by simp only [hbus], h.tentativeBus⟩, rfl⟩
  · have hfull : s.canonicalFull = true := by
      simpa [canonicalFull, hbus] using hroom
    rw [publishCanonical_of_full hfull, if_neg hroom, if_neg hroom]
    refine ⟨?_, toPipeline_persistAll _ _ _⟩
    have hnext : ({ s with
        toPipeline := s.toPipeline.applyEvent
          (syntheticGapEvent ambient event.info.slot .geyserProcessed) } :
          LiveSupervisor).Queued queues := ⟨hbus, h.tentativeBus⟩
    exact hnext.of_sameQueues (sameQueues_persistAll _ _ _)

theorem Queued.publishTentative {s : LiveSupervisor} {queues : LiveQueues} (h : s.Queued queues)
    (ambient : Ambient) (event : NormalizedEvent) :
    (s.publishTentative event).Queued (queues.step (ambient, .publishTentative event)) := by
  have hbus := h.tentativeBus
  unfold LiveSupervisor.publishTentative
  simp only [LiveQueues.step]
  by_cases hroom : queues.tentative.length < queues.tentativeCapacity
  · have hpublish : s.tentativeBus.tryPublish .low event = .ok { s.tentativeBus with
        low := s.tentativeBus.low ++ [event] } := by
      simp [EventBus.tryPublish, EventBus.trySend, hbus, hroom, Except.map]
    rw [hpublish, if_pos hroom]
    exact ⟨h.canonicalBus, by simp only [hbus]⟩
  · have hpublish : s.tentativeBus.tryPublish .low event = .error .full := by
      apply EventBus.tryPublish_of_full
      simpa [EventBus.queue, hbus] using hroom
    rw [hpublish, if_neg hroom]
    exact h

theorem Queued.drain {s : LiveSupervisor} {queues : LiveQueues} (h : s.Queued queues)
    (ambient : Ambient) :
    (s.drain ambient).Queued (queues.step (ambient, .drain)) ∧
      (s.drain ambient).toPipeline =
        (queues.calls (ambient, .drain)).foldl Pipeline.perform s.toPipeline := by
  have hcanonicalBus := h.canonicalBus
  have htentativeBus := h.tentativeBus
  simp only [LiveQueues.step, LiveQueues.calls]
  cases hcanonical : queues.canonical with
  | cons event canonical =>
      rw [hcanonical] at hcanonicalBus
      have hreceive : s.receive = some (event, false, { s with
          canonicalBus := { s.canonicalBus with high := canonical } }) := by
        unfold receive
        rw [hcanonicalBus]
        rfl
      have hrest : ({ s with
          canonicalBus := { s.canonicalBus with high := canonical } } : LiveSupervisor).Queued
            { queues with canonical := canonical } :=
        ⟨by simp only [hcanonicalBus], htentativeBus⟩
      rw [drain_of_receive hreceive]
      exact ⟨hrest.handleEvent ambient event false, toPipeline_handleEvent _ _ _ _⟩
  | nil =>
      rw [hcanonical] at hcanonicalBus
      cases htentative : queues.tentative with
      | cons event tentative =>
          rw [htentative] at htentativeBus
          have hreceive : s.receive = some (event, true, { s with
              tentativeBus := { s.tentativeBus with low := tentative } }) := by
            unfold receive
            rw [hcanonicalBus, htentativeBus]
            rfl
          have hrest : ({ s with
              tentativeBus := { s.tentativeBus with low := tentative } } : LiveSupervisor).Queued
                { queues with canonical := [], tentative := tentative } :=
            ⟨hcanonicalBus, by simp only [htentativeBus]⟩
          rw [drain_of_receive hreceive]
          exact ⟨hrest.handleEvent ambient event true, toPipeline_handleEvent _ _ _ _⟩
      | nil =>
          rw [htentative] at htentativeBus
          have hreceive : s.receive = none := by
            unfold receive
            rw [hcanonicalBus, htentativeBus]
            rfl
          rw [drain_of_receive_none hreceive]
          exact ⟨⟨hcanonicalBus, htentativeBus⟩, rfl⟩

theorem Queued.finalizeRun {s : LiveSupervisor} {queues : LiveQueues} (h : s.Queued queues)
    (ambient : Ambient) (unixNow : OffsetDateTime) :
    (s.finalizeRun ambient unixNow).Queued queues := by
  have hnext : ({ s with
      toPipeline := (s.toPipeline.finalize ambient unixNow).1 } :
        LiveSupervisor).Queued queues := ⟨h.canonicalBus, h.tentativeBus⟩
  exact hnext.of_sameQueues (sameQueues_persistAll _ _ _)

/-- The queues determine what a step asks of the pipeline. -/
theorem Queued.step {s : LiveSupervisor} {queues : LiveQueues} (h : s.Queued queues)
    (input : Ambient × LiveStep) :
    (s.step input).Queued (queues.step input) ∧
      (s.step input).toPipeline = (queues.calls input).foldl Pipeline.perform s.toPipeline := by
  obtain ⟨ambient, input⟩ := input
  cases input with
  | publishCanonical event => exact h.publishCanonical ambient event
  | publishTentative event =>
      exact ⟨h.publishTentative ambient event, toPipeline_publishTentative s event⟩
  | drain => exact h.drain ambient
  | finalizeRun unixNow =>
      exact ⟨h.finalizeRun ambient unixNow, toPipeline_finalizeRun s ambient unixNow⟩

theorem Queued.run {s : LiveSupervisor} {queues : LiveQueues} (h : s.Queued queues)
    (inputs : List (Ambient × LiveStep)) :
    (s.run inputs).Queued (inputs.foldl LiveQueues.step queues) ∧
      (s.run inputs).toPipeline =
        (queues.schedule inputs).foldl Pipeline.perform s.toPipeline := by
  induction inputs generalizing s queues with
  | nil => exact ⟨h, rfl⟩
  | cons input inputs ih =>
      obtain ⟨hstep, hpipeline⟩ := h.step input
      obtain ⟨hrest, hschedule⟩ := ih hstep
      refine ⟨hrest, hschedule.trans ?_⟩
      rw [hpipeline, ← List.foldl_append]
      rfl

/-- Whatever order the events of a live run are published and drained in, its pipeline is that
of the sequential run over the schedule of its queues, and the schedule accounts for every
published event: handled, queued, answered by a gap or dropped. -/
theorem live_runs_scheduled (resolved : RuntimeResolvedConfig) (storage : StorageEngine)
    (canonicalCapacity tentativeCapacity : ℕ) (segments : Option LiveRunSegmentManager)
    (inputs : List (Ambient × LiveStep)) :
    (((new resolved storage canonicalCapacity tentativeCapacity).startLiveRun
        segments).run inputs).toPipeline =
      (LiveQueues.schedule { canonicalCapacity, tentativeCapacity } inputs).foldl
        Pipeline.perform (Supervisor.new resolved storage).toPipeline ∧
    LiveQueues.Accounted { canonicalCapacity, tentativeCapacity } inputs := by
  have hqueued : ((new resolved storage canonicalCapacity tentativeCapacity).startLiveRun
      segments).Queued { canonicalCapacity, tentativeCapacity } := ⟨rfl, rfl⟩
  exact ⟨(hqueued.run inputs).2, LiveQueues.accounted rfl rfl inputs⟩

end LiveSupervisor

end PumpLaunchTrader
