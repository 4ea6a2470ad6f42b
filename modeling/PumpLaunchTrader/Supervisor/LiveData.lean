import PumpLaunchTrader.Lib.Runs
import PumpLaunchTrader.Model.LiveData
import PumpLaunchTrader.Segments.Uploads
import PumpLaunchTrader.Supervisor.HardBlocks
import PumpLaunchTrader.Supervisor.LiveSteps

/-! # The loop of a live run

The loop publishes one event at a time and drains the pipeline behind it, so that no queue ever
overflows and the events are handled in the order in which they were received. The disk check
audits a warning once for each time that space becomes scarce, and lets the loop go on only
while there is space and the backlog is short. What is recorded of a run tells how it ended. -/

namespace PumpLaunchTrader

open SegmentStore (sampleFormats samplePass)

/-! ## An event through the queues -/

namespace LiveSupervisor

variable {s : LiveSupervisor}

theorem Idle.queued_eq_zero (h : s.Idle) : s.queued = 0 := by
  obtain ⟨⟨_, hcanonical⟩, _, htentative⟩ := h
  simp [queued, hcanonical, htentative, EventBus.bounded, EventBus.len]

theorem Idle.drainPipeline (h : s.Idle) (ambient : ℕ → Ambient) :
    s.drainPipeline ambient = s := by
  rw [LiveSupervisor.drainPipeline, h.queued_eq_zero]
  rfl

theorem Idle.handleEvent (h : s.Idle) (ambient : Ambient) (event : NormalizedEvent)
    (tentative : Bool) : (s.handleEvent ambient event tentative).Idle := by
  obtain ⟨⟨canonical, hcanonical⟩, capacity, htentative⟩ := h
  have hbuses := sameQueues_persistAll
    { s with toPipeline := (s.toPipeline.handleEvent ambient event tentative).1 } ambient
    (handledPaths (s.toPipeline.handleEvent ambient event tentative).2)
  exact ⟨⟨canonical, hbuses.canonicalBus.trans hcanonical⟩,
    capacity, hbuses.tentativeBus.trans htentative⟩

/-- What is published to an idle supervisor is handled when its pipeline is drained. -/
theorem Idle.drain_published (h : s.Idle) (published : Ambient) (handled : ℕ → Ambient)
    (event : NormalizedEvent) (tentative : Bool) :
    (s.publish published event tentative).drainPipeline handled =
      s.handleEvent (handled 0) event tentative := by
  obtain ⟨⟨canonical, hcanonical⟩, capacity, htentative⟩ := h
  obtain ⟨self, canonicalBus, tentativeBus, segmentManager⟩ := s
  simp only at hcanonical htentative
  subst hcanonical htentative
  cases tentative with
  | false => rfl
  | true => rfl

end LiveSupervisor

/-! ## What the loop takes -/

/-- An event that the loop takes, with what handling it reads from outside. -/
structure TakenEvent where
  ambient : Ambient
  event : NormalizedEvent
  tentative : Bool

/-- The event is handled without any queue. -/
def TakenEvent.handle (s : LiveSupervisor) (taken : TakenEvent) : LiveSupervisor :=
  s.handleEvent taken.ambient taken.event taken.tentative

namespace LiveLoop

variable (fmt : SegmentFormats) (config : DiskConfig) (options : LiveRunOptions)

/-- Handling an event fails where one of its lines cannot be appended. -/
def appends (self : LiveLoop) (input : LoopInput) : Bool :=
  self.segments.all fun segments => (segments.appendLines fmt input.appends).isSome

/-- The event that an iteration meets. -/
def nextEvent (self : LiveLoop) (input : LoopInput) : Option (NormalizedEvent × Bool) :=
  match self.inlineMockEvents, input.arm with
  | first :: _, _ => some first
  | [], .canonical event =>
    if self.canonicalClosed then none else event.map fun event => (event, false)
  | [], .tentative event =>
    if self.tentativeClosed then none else event.map fun event => (event, true)
  | [], _ => none

/-- The event that an iteration takes. -/
def takes (self : LiveLoop) (input : LoopInput) : List TakenEvent :=
  if self.exit = none ∧ self.head options = none ∧ self.appends fmt input then
    (self.nextEvent input).toList.map fun next =>
      { ambient := input.handled 0, event := next.1, tentative := next.2 }
  else []

variable {fmt config options} {self : LiveLoop} {input : LoopInput}

@[simp] theorem checkDeadline_live (now : ℕ) :
    (self.checkDeadline options now).live = self.live := by
  unfold checkDeadline
  split <;> rfl

@[simp] theorem checkDeadline_processed (now : ℕ) :
    (self.checkDeadline options now).processed = self.processed := by
  unfold checkDeadline
  split <;> rfl

theorem diskTick_live (io : TickIo) :
    (self.diskTick fmt config io).live = self.live ∧
      (self.diskTick fmt config io).processed = self.processed := by
  unfold diskTick
  split <;> exact ⟨rfl, rfl⟩

theorem iterate_of_exit (h : self.exit ≠ none) :
    self.iterate fmt config options input = self := by
  rw [iterate, if_pos (Option.isSome_iff_ne_none.mpr h)]

theorem iterate_of_head {exit : LoopExit} (h : self.exit = none)
    (hhead : self.head options = some exit) :
    self.iterate fmt config options input = { self with exit := some exit } := by
  simp [iterate, h, hhead]

theorem iterate_of_mock {event : NormalizedEvent} {tentative : Bool}
    {rest : List (NormalizedEvent × Bool)} (h : self.exit = none)
    (hhead : self.head options = none)
    (hmock : self.inlineMockEvents = (event, tentative) :: rest) :
    self.iterate fmt config options input =
      { self with inlineMockEvents := rest }.takeEvent fmt input event tentative := by
  simp [iterate, h, hhead, hmock]

theorem iterate_of_select (h : self.exit = none) (hhead : self.head options = none)
    (hmock : self.inlineMockEvents = []) :
    self.iterate fmt config options input =
      ((self.select fmt config input).map
        (·.checkDeadline options input.now)).getD self := by
  simp only [iterate, h, hhead, hmock]
  cases self.select fmt config input <;> rfl

theorem takeEvent_of_appends (h : self.appends fmt input = true) (event : NormalizedEvent)
    (tentative : Bool) :
    ∃ segments, self.takeEvent fmt input event tentative =
      { self with
        live := (self.live.publish input.published event tentative).drainPipeline input.handled
        processed := self.processed + 1
        segments := segments } := by
  cases hsegments : self.segments with
  | none => exact ⟨none, by simp [takeEvent, hsegments]⟩
  | some segments =>
      rw [appends, hsegments, Option.all_some, Option.isSome_iff_exists] at h
      obtain ⟨appended, happended⟩ := h
      exact ⟨some appended, by simp [takeEvent, hsegments, happended]⟩

theorem takeEvent_of_not_appends (h : self.appends fmt input = false)
    (event : NormalizedEvent) (tentative : Bool) :
    self.takeEvent fmt input event tentative = { self with exit := some .failed } := by
  cases hsegments : self.segments with
  | none => simp [appends, hsegments] at h
  | some segments =>
      rw [appends, hsegments, Option.all_some, Option.isSome_eq_false_iff,
        Option.isNone_iff_eq_none] at h
      simp [takeEvent, hsegments, h]

/-- The supervisor and the count of the events after an event was taken, or was not. -/
theorem takeEvent_live (hidle : self.live.Idle) (event : NormalizedEvent) (tentative : Bool) :
    (self.takeEvent fmt input event tentative).live =
        (if self.appends fmt input then
          self.live.handleEvent (input.handled 0) event tentative else self.live) ∧
      (self.takeEvent fmt input event tentative).processed =
        self.processed + if self.appends fmt input then 1 else 0 := by
  cases h : self.appends fmt input with
  | true =>
      obtain ⟨segments, htaken⟩ := takeEvent_of_appends h event tentative
      rw [htaken]
      exact ⟨hidle.drain_published _ _ _ _, rfl⟩
  | false =>
      rw [takeEvent_of_not_appends h]
      exact ⟨rfl, rfl⟩

/-- An iteration handles what it takes, at once. -/
theorem iterate_live (hidle : self.live.Idle) :
    (self.iterate fmt config options input).live =
        (self.takes fmt options input).foldl TakenEvent.handle self.live ∧
      (self.iterate fmt config options input).processed =
        self.processed + (self.takes fmt options input).length := by
  by_cases hexit : self.exit = none
  · cases hhead : self.head options with
    | some exit =>
        rw [iterate_of_head hexit hhead]
        simp [takes, hhead]
    | none =>
        have htakes : self.takes fmt options input =
            if self.appends fmt input then (self.nextEvent input).toList.map fun next =>
              { ambient := input.handled 0, event := next.1, tentative := next.2 } else [] := by
          simp [takes, hexit, hhead]
        rw [htakes]
        cases hmock : self.inlineMockEvents with
        | cons first rest =>
            obtain ⟨event, tentative⟩ := first
            rw [iterate_of_mock hexit hhead hmock]
            have htaken := @takeEvent_live fmt { self with inlineMockEvents := rest } input hidle
              event tentative
            rw [htaken.1, htaken.2]
            cases h : self.appends fmt input <;>
              simp_all [nextEvent, appends, TakenEvent.handle]
        | nil =>
            rw [iterate_of_select hexit hhead hmock]
            cases harm : input.arm with
            | healthTick => simp [select, nextEvent, harm, hmock]
            | diskTick io =>
                have htick := @diskTick_live fmt config self io
                simp [select, nextEvent, harm, hmock, htick]
            | canonical event =>
                cases hclosed : self.canonicalClosed with
                | true => simp [select, nextEvent, harm, hmock, hclosed]
                | false =>
                    cases event with
                    | none => simp [select, nextEvent, harm, hmock, hclosed]
                    | some event =>
                        have htaken := @takeEvent_live fmt self input hidle event false
                        cases h : self.appends fmt input <;>
                          simp_all [select, nextEvent, TakenEvent.handle]
            | tentative event =>
                cases hclosed : self.tentativeClosed with
                | true => simp [select, nextEvent, harm, hmock, hclosed]
                | false =>
                    cases event with
                    | none => simp [select, nextEvent, harm, hmock, hclosed]
                    | some event =>
                        have htaken := @takeEvent_live fmt self input hidle event true
                        cases h : self.appends fmt input <;>
                          simp_all [select, nextEvent, TakenEvent.handle]
  · rw [iterate_of_exit hexit]
    simp [takes, hexit]

/-! ### The limits -/

theorem length_takes_le : (self.takes fmt options input).length ≤ 1 := by
  unfold takes
  split
  · cases self.nextEvent input <;> simp
  · simp

/-- An iteration that takes an event was below the limits. -/
theorem head_of_takes (h : self.takes fmt options input ≠ []) : self.head options = none := by
  by_contra hhead
  exact h (by simp [takes, hhead])

theorem below_of_head (h : self.head options = none) :
    (∀ limit, options.maxEvents = some limit → self.processed < limit) ∧
      ∀ limit, options.maxDecisions = some limit → self.live.decisions.length < limit := by
  constructor
  · intro limit hlimit
    by_contra hle
    simp [head, hlimit, not_lt.mp hle] at h
  · intro limit hlimit
    by_contra hle
    unfold head at h
    split at h
    · simp at h
    · simp [hlimit, not_lt.mp hle] at h

/-- The events were handled one after the other, up to the limits. -/
structure Handled (options : LiveRunOptions) (start : LiveSupervisor)
    (received : List TakenEvent) (loop : LiveLoop) : Prop where
  live_eq : loop.live = received.foldl TakenEvent.handle start
  processed_eq : loop.processed = received.length
  within : ∀ limit, options.maxEvents = some limit → received.length ≤ limit
  decided : ∀ limit, options.maxDecisions = some limit → ∀ n < received.length,
    ((received.take n).foldl TakenEvent.handle start).decisions.length < limit

theorem idle_foldl_handle {s : LiveSupervisor} (h : s.Idle) (received : List TakenEvent) :
    (received.foldl TakenEvent.handle s).Idle := by
  induction received generalizing s with
  | nil => exact h
  | cons taken received ih => exact ih (h.handleEvent _ _ _)

/-- An iteration that takes nothing new, or one more event below the limits. -/
theorem Handled.iterate {start : LiveSupervisor} (hidle : start.Idle)
    {received : List TakenEvent} (h : Handled options start received self) :
    Handled options start (received ++ self.takes fmt options input)
      (self.iterate fmt config options input) := by
  have hlive : self.live.Idle := by
    rw [h.live_eq]
    exact idle_foldl_handle hidle received
  obtain ⟨hnext, hcount⟩ := @iterate_live fmt config options self input hlive
  have hone := @length_takes_le fmt options self input
  have hbelow := fun hne => below_of_head (@head_of_takes fmt options self input hne)
  constructor
  · rw [hnext, h.live_eq, List.foldl_append]
  · rw [hcount, h.processed_eq, List.length_append]
  · intro limit hlimit
    rw [List.length_append]
    cases htakes : self.takes fmt options input with
    | nil => simpa using h.within limit hlimit
    | cons taken rest =>
        have hlt := (hbelow (by simp [htakes])).1 limit hlimit
        rw [htakes] at hone
        rw [h.processed_eq] at hlt
        omega
  · intro limit hlimit n hn
    by_cases hold : n < received.length
    · rw [List.take_append_of_le_length (by omega)]
      exact h.decided limit hlimit n hold
    · -- the event is the one that this iteration takes
      rw [List.length_append] at hn
      have hn' : n = received.length := by omega
      have hne : self.takes fmt options input ≠ [] := by
        intro hnil
        rw [hnil] at hn
        simp only [List.length_nil] at hn
        omega
      rw [hn', List.take_left', ← h.live_eq]
      · exact (hbelow hne).2 limit hlimit
      · rfl

/-! ### The end of the sources -/

/-- Nothing changes at the sources, and the loop does not end by itself. -/
structure SameSources (s t : LiveLoop) : Prop where
  mock : t.inlineMockEvents = s.inlineMockEvents
  canonical : t.canonicalClosed = s.canonicalClosed
  tentative : t.tentativeClosed = s.tentativeClosed
  exit : t.exit = some (.finished false) → s.exit = some (.finished false)

theorem sameSources_takeEvent (event : NormalizedEvent) (tentative : Bool) :
    SameSources self (self.takeEvent fmt input event tentative) := by
  cases h : self.appends fmt input with
  | true =>
      obtain ⟨segments, htaken⟩ := takeEvent_of_appends h event tentative
      rw [htaken]
      exact ⟨rfl, rfl, rfl, id⟩
  | false =>
      rw [takeEvent_of_not_appends h]
      exact ⟨rfl, rfl, rfl, by simp⟩

theorem sameSources_diskTick (io : TickIo) :
    SameSources self (self.diskTick fmt config io) := by
  unfold diskTick
  split
  · exact ⟨rfl, rfl, rfl, by simp⟩
  · exact ⟨rfl, rfl, rfl, by simp⟩
  · exact ⟨rfl, rfl, rfl, id⟩

theorem sameSources_checkDeadline (now : ℕ) :
    SameSources self (self.checkDeadline options now) := by
  unfold checkDeadline
  split
  · exact ⟨rfl, rfl, rfl, by simp⟩
  · exact ⟨rfl, rfl, rfl, id⟩

/-- The channels are read behind the mock events, and the loop ends by itself only where the
sources did. -/
structure SourcesFirst (loop : LiveLoop) : Prop where
  mock : loop.canonicalClosed = true → loop.inlineMockEvents = []
  ended : loop.exit = some (.finished false) →
    loop.canonicalClosed = true ∧ loop.tentativeClosed = true

theorem SourcesFirst.of_same {next : LiveLoop} (h : SourcesFirst self)
    (hsame : SameSources self next) : SourcesFirst next := by
  constructor
  · intro hclosed
    rw [hsame.mock]
    exact h.mock (hsame.canonical ▸ hclosed)
  · intro hexit
    rw [hsame.canonical, hsame.tentative]
    exact h.ended (hsame.exit hexit)

theorem SourcesFirst.iterate (h : SourcesFirst self) :
    SourcesFirst (self.iterate fmt config options input) := by
  by_cases hexit : self.exit = none
  · cases hhead : self.head options with
    | some exit =>
        rw [iterate_of_head hexit hhead]
        refine ⟨h.mock, ?_⟩
        rintro ⟨⟩
        unfold head at hhead
        split at hhead
        · simp at hhead
        · split at hhead
          · simp at hhead
          · split at hhead
            · assumption
            · simp at hhead
    | none =>
        cases hmock : self.inlineMockEvents with
        | cons first rest =>
            rw [iterate_of_mock hexit hhead hmock]
            have hopen : self.canonicalClosed = false := by
              by_contra hclosed
              simp [h.mock (by simpa using hclosed)] at hmock
            have hrest : SourcesFirst { self with inlineMockEvents := rest } :=
              ⟨by simp [hopen], h.ended⟩
            exact hrest.of_same (sameSources_takeEvent _ _)
        | nil =>
            rw [iterate_of_select hexit hhead hmock]
            cases hselect : self.select fmt config input with
            | none => exact h
            | some next =>
                have hnext : SourcesFirst next := by
                  unfold select at hselect
                  split at hselect
                  · cases hselect
                    exact h
                  · cases hselect
                    exact h.of_same (sameSources_diskTick _)
                  · split at hselect
                    · simp at hselect
                    · split at hselect
                      · cases hselect
                        exact h.of_same (sameSources_takeEvent _ _)
                      · cases hselect
                        exact ⟨fun _ => hmock, by simp [hexit]⟩
                  · split at hselect
                    · simp at hselect
                    · split at hselect
                      · cases hselect
                        exact h.of_same (sameSources_takeEvent _ _)
                      · cases hselect
                        exact ⟨h.mock, by simp [hexit]⟩
                exact hnext.of_same (sameSources_checkDeadline _)
  · rw [iterate_of_exit hexit]
    exact h

theorem handled_run (fmt : SegmentFormats) (config : DiskConfig) (options : LiveRunOptions)
    {start : LiveLoop} (hidle : start.live.Idle) (hprocessed : start.processed = 0)
    (inputs : List LoopInput) :
    Handled options start.live
      (Runs.emitted (iterate fmt config options) (takes fmt options) start inputs)
      (start.run fmt config options inputs) := by
  induction inputs using List.reverseRecOn with
  | nil => exact ⟨rfl, hprocessed, by simp [Runs.emitted], by simp [Runs.emitted]⟩
  | append_singleton inputs input ih =>
      rw [Runs.emitted_append, run, List.foldl_append]
      have hnext := @Handled.iterate fmt config options _ input _ hidle _ ih
      rw [← List.append_nil (takes fmt options _ input)] at hnext
      exact hnext

theorem SourcesFirst.run (h : SourcesFirst self) (inputs : List LoopInput) :
    SourcesFirst (self.run fmt config options inputs) := by
  induction inputs using List.reverseRecOn with
  | nil => exact h
  | append_singleton inputs input ih =>
      rw [LiveLoop.run, List.foldl_append]
      exact ih.iterate

/-! ### Why the loop is left -/

/-- The events or the decisions have reached their limit. -/
def AtLimit (options : LiveRunOptions) (self : LiveLoop) : Prop :=
  (∃ limit, options.maxEvents = some limit ∧ limit ≤ self.processed) ∨
    ∃ limit, options.maxDecisions = some limit ∧ limit ≤ self.live.decisions.length

/-- The iteration goes on behind the head of the loop. -/
structure GoesOn (options : LiveRunOptions) (loop : LiveLoop) : Prop where
  belowLimit : ¬ loop.AtLimit options
  isOpen : ¬ (loop.canonicalClosed = true ∧ loop.tentativeClosed = true)

/-- The reasons for which an iteration leaves the loop. -/
inductive Leaves (fmt : SegmentFormats) (config : DiskConfig) (options : LiveRunOptions)
    (self : LiveLoop) (input : LoopInput) : LoopExit → Prop where
  | limit (h : self.AtLimit options) : Leaves fmt config options self input (.finished true)
  | closed (h : ¬ self.AtLimit options) (hcanonical : self.canonicalClosed = true)
      (htentative : self.tentativeClosed = true) :
      Leaves fmt config options self input (.finished false)
  /-- A line of the event cannot be appended to the segments. -/
  | append (h : GoesOn options self) (hevent : self.nextEvent input ≠ none)
      (hfails : self.appends fmt input = false) : Leaves fmt config options self input .failed
  /-- The disk check stops the run: space is short or the backlog is long. -/
  | disk {io : TickIo} {check : DiskCheck} (h : GoesOn options self)
      (hmock : self.inlineMockEvents = []) (harm : input.arm = .diskTick io)
      (htick : self.diskCheck.tick fmt config io = some (true, check)) :
      Leaves fmt config options self input (.finished true)
  | diskFails {io : TickIo} (h : GoesOn options self) (hmock : self.inlineMockEvents = [])
      (harm : input.arm = .diskTick io)
      (htick : self.diskCheck.tick fmt config io = none) :
      Leaves fmt config options self input .failed
  /-- The clock is at the deadline behind an arm that was ready and left the loop running. -/
  | deadline {next : LiveLoop} {deadline : ℕ} (h : GoesOn options self)
      (hmock : self.inlineMockEvents = []) (hselect : self.select fmt config input = some next)
      (hnext : next.exit = none) (hdeadline : options.deadline = some deadline)
      (hlate : deadline ≤ input.now) : Leaves fmt config options self input (.finished true)

theorem head_eq_none_iff : self.head options = none ↔ GoesOn options self := by
  have hlimits : self.AtLimit options ↔ options.maxEvents.any (· ≤ self.processed) = true ∨
      options.maxDecisions.any (· ≤ self.live.decisions.length) = true := by
    simp [AtLimit, Option.any_eq_true]
  unfold head
  constructor
  · intro h
    split at h
    · simp at h
    · split at h
      · simp at h
      · split at h
        · simp at h
        · exact ⟨by simp_all, by assumption⟩
  · rintro ⟨hbelow, hopen⟩
    rw [hlimits, not_or] at hbelow
    rw [if_neg hbelow.1, if_neg hbelow.2, if_neg hopen]

theorem head_eq_some_iff {exit : LoopExit} :
    self.head options = some exit ↔ exit = .finished true ∧ self.AtLimit options ∨
      exit = .finished false ∧ ¬ self.AtLimit options ∧
        self.canonicalClosed = true ∧ self.tentativeClosed = true := by
  have hlimits : self.AtLimit options ↔ options.maxEvents.any (· ≤ self.processed) = true ∨
      options.maxDecisions.any (· ≤ self.live.decisions.length) = true := by
    simp [AtLimit, Option.any_eq_true]
  rw [hlimits]
  unfold head
  split
  · rename_i hevents
    rw [Option.some.injEq, eq_comm]
    simp [hevents]
  · rename_i hevents
    split
    · rename_i hdecisions
      rw [Option.some.injEq, eq_comm]
      simp [hdecisions]
    · rename_i hdecisions
      split
      · rename_i hclosed
        rw [Option.some.injEq, eq_comm]
        simp [hevents, hdecisions, hclosed]
      · rename_i hopen
        simp [hevents, hdecisions, hopen]

/-- An event that is taken leaves the loop running exactly when its lines are appended. -/
theorem exit_takeEvent (hexit : self.exit = none) (event : NormalizedEvent) (tentative : Bool) :
    (self.takeEvent fmt input event tentative).exit =
      if self.appends fmt input then none else some .failed := by
  cases h : self.appends fmt input with
  | true =>
      obtain ⟨segments, htaken⟩ := takeEvent_of_appends h event tentative
      rw [htaken]
      exact hexit
  | false =>
      rw [takeEvent_of_not_appends h]
      rfl

theorem leaves_of_goesOn_iff (hgoes : GoesOn options self) {exit : LoopExit} :
    Leaves fmt config options self input exit ↔
      exit = .failed ∧ (self.nextEvent input ≠ none ∧ self.appends fmt input = false ∨
        self.inlineMockEvents = [] ∧ ∃ io, input.arm = .diskTick io ∧
          self.diskCheck.tick fmt config io = none) ∨
      exit = .finished true ∧ self.inlineMockEvents = [] ∧
        ((∃ io check, input.arm = .diskTick io ∧
          self.diskCheck.tick fmt config io = some (true, check)) ∨
        ∃ next, self.select fmt config input = some next ∧ next.exit = none ∧
          ∃ deadline, options.deadline = some deadline ∧ deadline ≤ input.now) := by
  constructor
  · intro h
    cases h with
    | limit hlimit => exact absurd hlimit hgoes.belowLimit
    | closed _ hcanonical htentative => exact absurd ⟨hcanonical, htentative⟩ hgoes.isOpen
    | append _ hevent hfails => exact Or.inl ⟨rfl, Or.inl ⟨hevent, hfails⟩⟩
    | disk _ hmock harm htick => exact Or.inr ⟨rfl, hmock, Or.inl ⟨_, _, harm, htick⟩⟩
    | diskFails _ hmock harm htick => exact Or.inl ⟨rfl, Or.inr ⟨hmock, _, harm, htick⟩⟩
    | deadline _ hmock hselect hnext hdeadline hlate =>
        exact Or.inr ⟨rfl, hmock, Or.inr ⟨_, hselect, hnext, _, hdeadline, hlate⟩⟩
  · rintro (⟨rfl, ⟨hevent, hfails⟩ | ⟨hmock, io, harm, htick⟩⟩ |
      ⟨rfl, hmock, ⟨io, check, harm, htick⟩ | ⟨next, hselect, hnext, deadline, hdeadline, hlate⟩⟩)
    · exact .append hgoes hevent hfails
    · exact .diskFails hgoes hmock harm htick
    · exact .disk hgoes hmock harm htick
    · exact .deadline hgoes hmock hselect hnext hdeadline hlate

theorem exit_checkDeadline (next : LiveLoop) {exit : LoopExit} :
    (next.checkDeadline options input.now).exit = some exit ↔ next.exit = some exit ∨
      exit = .finished true ∧ next.exit = none ∧
        ∃ deadline, options.deadline = some deadline ∧ deadline ≤ input.now := by
  unfold checkDeadline
  split
  · rename_i hlate
    rw [Option.some.injEq, eq_comm]
    simpa [hlate.1, Option.any_eq_true] using fun _ => hlate.2
  · rename_i hearly
    constructor
    · exact Or.inl
    · rintro (h | ⟨-, hnext, deadline, hdeadline, hlate⟩)
      · exact h
      · exact absurd ⟨hnext, by simp [hdeadline, hlate]⟩ hearly

/-- The head of the loop leaves it at a limit or behind the ends of both channels. -/
theorem exit_iterate_of_head (hexit : self.exit = none) (hgoes : ¬ GoesOn options self)
    {exit : LoopExit} :
    (self.iterate fmt config options input).exit = some exit ↔
      Leaves fmt config options self input exit := by
  cases hhead : self.head options with
  | none => exact absurd (head_eq_none_iff.mp hhead) hgoes
  | some first =>
      rw [iterate_of_head hexit hhead]
      constructor
      · intro hfirst
        cases hfirst
        rcases head_eq_some_iff.mp hhead with ⟨rfl, hlimit⟩ | ⟨rfl, hbelow, hclosed⟩
        · exact .limit hlimit
        · exact .closed hbelow hclosed.1 hclosed.2
      · intro hleaves
        change some first = some exit
        rw [← hhead, head_eq_some_iff]
        cases hleaves with
        | limit hlimit => exact Or.inl ⟨rfl, hlimit⟩
        | closed hbelow hcanonical htentative =>
            exact Or.inr ⟨rfl, hbelow, hcanonical, htentative⟩
        | append hopen | disk hopen | diskFails hopen | deadline hopen =>
            exact absurd hopen hgoes

/-- A mock event leaves the loop when its lines cannot be appended. -/
theorem exit_iterate_of_mock (hexit : self.exit = none) (hgoes : GoesOn options self)
    {first : NormalizedEvent × Bool} {rest : List (NormalizedEvent × Bool)}
    (hmock : self.inlineMockEvents = first :: rest) {exit : LoopExit} :
    (self.iterate fmt config options input).exit = some exit ↔
      Leaves fmt config options self input exit := by
  obtain ⟨event, tentative⟩ := first
  rw [leaves_of_goesOn_iff hgoes, iterate_of_mock hexit (head_eq_none_iff.mpr hgoes) hmock]
  have htaken := @exit_takeEvent fmt { self with inlineMockEvents := rest } input hexit event
    tentative
  have happends : LiveLoop.appends fmt { self with inlineMockEvents := rest } input =
      self.appends fmt input := rfl
  rw [htaken, happends]
  cases h : self.appends fmt input with
  | true => simp [hmock]
  | false =>
      rw [if_neg (by simp), Option.some.injEq, eq_comm]
      simp [nextEvent, hmock]

/-- An event of a channel leaves the loop when its lines cannot be appended, or else behind the
deadline. -/
theorem exit_iterate_of_take (hexit : self.exit = none) (hgoes : GoesOn options self)
    (hmock : self.inlineMockEvents = []) {event : NormalizedEvent} {tentative : Bool}
    (hselect : self.select fmt config input = some (self.takeEvent fmt input event tentative))
    (hnext : self.nextEvent input ≠ none) (harm : ∀ io, input.arm ≠ .diskTick io)
    {exit : LoopExit} :
    (self.iterate fmt config options input).exit = some exit ↔
      Leaves fmt config options self input exit := by
  have htaken := @exit_takeEvent fmt self input hexit event tentative
  rw [leaves_of_goesOn_iff hgoes, iterate_of_select hexit (head_eq_none_iff.mpr hgoes) hmock,
    hselect, Option.map_some, Option.getD_some, exit_checkDeadline, htaken]
  cases h : self.appends fmt input <;>
    simp [hnext, harm, hmock, htaken, h, eq_comm (a := exit)]

/-- What `select!` picks leaves the loop exactly for one of the reasons. -/
theorem exit_iterate_of_select (hexit : self.exit = none) (hgoes : GoesOn options self)
    (hmock : self.inlineMockEvents = []) {exit : LoopExit} :
    (self.iterate fmt config options input).exit = some exit ↔
      Leaves fmt config options self input exit := by
  have hiterate := @iterate_of_select fmt config options self input hexit
    (head_eq_none_iff.mpr hgoes) hmock
  have hleaves := @leaves_of_goesOn_iff fmt config options self input hgoes exit
  cases harm : input.arm with
  | healthTick =>
      rw [hiterate, hleaves]
      simp [select, nextEvent, harm, hmock, exit_checkDeadline, hexit]
  | diskTick io =>
      have hselect : self.select fmt config input = some (self.diskTick fmt config io) := by
        simp [select, harm]
      rw [hiterate, hleaves, hselect, Option.map_some, Option.getD_some, exit_checkDeadline]
      cases htick : self.diskCheck.tick fmt config io with
      | none => simp [diskTick, nextEvent, harm, hmock, htick, eq_comm (a := exit)]
      | some result =>
          obtain ⟨stops, check⟩ := result
          cases stops with
          | true => simp [diskTick, nextEvent, harm, hmock, htick, eq_comm (a := exit)]
          | false => simp [diskTick, checked, nextEvent, harm, hmock, htick, hexit]
  | canonical event =>
      cases hclosed : self.canonicalClosed with
      | true =>
          rw [hiterate, hleaves]
          simp [select, nextEvent, harm, hmock, hclosed, hexit]
      | false =>
          cases event with
          | none =>
              rw [hiterate, hleaves]
              simp [select, nextEvent, harm, hmock, hclosed, exit_checkDeadline, hexit]
          | some event =>
              have hselect : self.select fmt config input =
                  some (self.takeEvent fmt input event false) := by
                simp [select, harm, hclosed]
              refine exit_iterate_of_take hexit hgoes hmock hselect ?_ ?_
              · simp [nextEvent, harm, hmock, hclosed]
              · simp [harm]
  | tentative event =>
      cases hclosed : self.tentativeClosed with
      | true =>
          rw [hiterate, hleaves]
          simp [select, nextEvent, harm, hmock, hclosed, hexit]
      | false =>
          cases event with
          | none =>
              rw [hiterate, hleaves]
              simp [select, nextEvent, harm, hmock, hclosed, exit_checkDeadline, hexit]
          | some event =>
              have hselect : self.select fmt config input =
                  some (self.takeEvent fmt input event true) := by
                simp [select, harm, hclosed]
              refine exit_iterate_of_take hexit hgoes hmock hselect ?_ ?_
              · simp [nextEvent, harm, hmock, hclosed]
              · simp [harm]

/-- An iteration leaves the loop exactly for one of the reasons. -/
theorem exit_iterate_iff (hexit : self.exit = none) {exit : LoopExit} :
    (self.iterate fmt config options input).exit = some exit ↔
      Leaves fmt config options self input exit := by
  by_cases hgoes : GoesOn options self
  · cases hmock : self.inlineMockEvents with
    | cons first rest => exact exit_iterate_of_mock hexit hgoes hmock
    | nil => exact exit_iterate_of_select hexit hgoes hmock
  · exact exit_iterate_of_head hexit hgoes

/-- A run is left at the first iteration that has a reason to. -/
theorem exit_run_iff (hexit : self.exit = none) (inputs : List LoopInput) (exit : LoopExit) :
    (self.run fmt config options inputs).exit = some exit ↔
      ∃ before input after, inputs = before ++ input :: after ∧
        (self.run fmt config options before).exit = none ∧
        Leaves fmt config options (self.run fmt config options before) input exit := by
  refine (Runs.reading_foldl_eq_some_iff (iterate fmt config options) LiveLoop.exit
    (fun _ _ => iterate_of_exit) hexit inputs exit).trans ?_
  constructor
  · rintro ⟨before, input, after, hinputs, hbefore, hinput⟩
    exact ⟨before, input, after, hinputs, hbefore, (exit_iterate_iff hbefore).mp hinput⟩
  · rintro ⟨before, input, after, hinputs, hbefore, hleaves⟩
    exact ⟨before, input, after, hinputs, hbefore, (exit_iterate_iff hbefore).mpr hleaves⟩

/-- A live run without segments, before its loop. -/
def quietLoop : LiveLoop where
  live := (LiveSupervisor.new sampleConfig {} 4 4).startLiveRun none

def quietDisk : DiskConfig where
  limits := { warningFreeMb := 100, criticalFreeMb := 50, emergencyFreeMb := 20 }
  lowDiskLimits := { warningFreeMb := 10, criticalFreeMb := 5, emergencyFreeMb := 2 }

def quietInput (arm : LoopArm) : LoopInput where
  arm := arm
  published := Supervisor.sampleAmbient
  handled _ := Supervisor.sampleAmbient
  now := 0

theorem idle_quietLoop : quietLoop.live.Idle := ⟨⟨3, rfl⟩, 3, rfl⟩

/-- What a live run did with its sources, whatever `select!` picked: the events were handled one
after the other, so that no queue ever was too short, at most as many as the limits allow. The
loop is left exactly at the first iteration that has one of the reasons to, and a loop that
ended by itself took all the mock events and read both channels to their end. -/
theorem live_loop_handles (fmt : SegmentFormats) (config : DiskConfig)
    (options : LiveRunOptions) {start : LiveLoop} (hidle : start.live.Idle)
    (hprocessed : start.processed = 0) (hexit : start.exit = none)
    (hopen : start.canonicalClosed = false) (inputs : List LoopInput) :
    Handled options start.live
        (Runs.emitted (iterate fmt config options) (takes fmt options) start inputs)
        (start.run fmt config options inputs) ∧
      (∀ exit, (start.run fmt config options inputs).exit = some exit ↔
        ∃ before input after, inputs = before ++ input :: after ∧
          (start.run fmt config options before).exit = none ∧
          Leaves fmt config options (start.run fmt config options before) input exit) ∧
      ((start.run fmt config options inputs).exit = some (.finished false) →
        (start.run fmt config options inputs).canonicalClosed = true ∧
          (start.run fmt config options inputs).tentativeClosed = true ∧
          (start.run fmt config options inputs).inlineMockEvents = []) := by
  have hstart : SourcesFirst start := ⟨by simp [hopen], by simp [hexit]⟩
  have hsources := @SourcesFirst.run fmt config options start hstart inputs
  refine ⟨handled_run fmt config options hidle hprocessed inputs, exit_run_iff hexit inputs,
    fun hend => ?_⟩
  have hclosed := hsources.ended hend
  exact ⟨hclosed.1, hclosed.2, hsources.mock hclosed.1⟩

/-- One event, and the ends of both channels. -/
def creationInputs : List LoopInput :=
  [quietInput (.canonical (some sampleCreation)), quietInput (.tentative none),
    quietInput (.canonical none), quietInput .healthTick]

/-- The loop ends at the health tick, behind the ends of both channels. -/
theorem live_loop_handles_creation :
    Handled {} quietLoop.live
        (Runs.emitted (iterate sampleFormats quietDisk {}) (takes sampleFormats {}) quietLoop
          creationInputs)
        (quietLoop.run sampleFormats quietDisk {} creationInputs) ∧
      (∃ before input after, creationInputs = before ++ input :: after ∧
        (quietLoop.run sampleFormats quietDisk {} before).exit = none ∧
        Leaves sampleFormats quietDisk {} (quietLoop.run sampleFormats quietDisk {} before) input
          (.finished false)) ∧
      (quietLoop.run sampleFormats quietDisk {} creationInputs).inlineMockEvents = [] := by
  obtain ⟨hhandled, hleft, hended⟩ :=
    live_loop_handles sampleFormats quietDisk {} idle_quietLoop rfl rfl rfl creationInputs
  have hexit : (quietLoop.run sampleFormats quietDisk {} creationInputs).exit =
      some (.finished false) := rfl
  exact ⟨hhandled, (hleft _).mp hexit, (hended hexit).2.2⟩

end LiveLoop

/-! ## The disk check -/

namespace DiskCheck

variable {fmt : SegmentFormats} {config : DiskConfig} {self warned next : DiskCheck} {io : TickIo}

/-- Space is scarce, or there is enough again. -/
def level (config : DiskConfig) (self : DiskCheck) : Option Bool :=
  if self.freeMb < config.active.warningFreeMb ∧ config.closeSegmentsOnWarning then some true
  else if config.active.warningFreeMb ≤ self.freeMb then some false
  else none

/-- The first warning of an episode is reported and audited. -/
structure Reports (first : Bool) (s t : DiskCheck) : Prop where
  reported : t.storageWarningReported = true
  audits : t.audits = s.audits ++ if first then [.storageWarning] else []

theorem reports_report (self : DiskCheck) : Reports (!self.storageWarningReported) self
    (self.report fmt io) := by
  cases h : self.storageWarningReported <;> constructor <;> simp [report, audit, h]

theorem warn_spec (h : self.warn fmt config io = some warned) :
    warned.storageWarningReported = (self.level config).getD self.storageWarningReported ∧
      warned.audits = self.audits ++
        if self.level config = some true ∧ self.storageWarningReported = false then
          [.storageWarning] else [] := by
  unfold warn at h
  split at h
  · rename_i hscarce
    have hlevel : self.level config = some true := by rw [level, if_pos hscarce]
    rw [hlevel]
    cases hsegments : self.segments with
    | none =>
        rw [hsegments] at h
        cases h
        have hreport := @reports_report fmt io self
        exact ⟨hreport.reported, by simpa using hreport.audits⟩
    | some segments =>
        simp only [hsegments, Option.map_eq_some_iff] at h
        obtain ⟨⟨cleaned, closed, summary⟩, -, rfl⟩ := h
        have hreport := @reports_report fmt io { self with
          segments := some (cleaned.recordDiskAction io "warning"
            "close_upload_prune_on_warning" self.freeMb summary.prunedBytes
            (RunSegments.cleanupNotes closed summary ++
              [noteOf "pruned_segment_bytes" summary.prunedBytes]))
          freeMb := io.freeMbAfterWarning }
        exact ⟨hreport.reported, by simpa using hreport.audits⟩
  · rename_i hscarce
    split at h
    · rename_i henough
      have hlevel : self.level config = some false := by
        rw [level, if_neg hscarce, if_pos henough]
      cases h
      simp [hlevel]
    · rename_i henough
      have hlevel : self.level config = none := by
        rw [level, if_neg hscarce, if_neg henough]
      cases h
      simp [hlevel]

@[simp] theorem note_audits (text : String) : (self.note text).audits = self.audits := by
  unfold note
  split <;> rfl

@[simp] theorem note_reported (text : String) :
    (self.note text).storageWarningReported = self.storageWarningReported := by
  unfold note
  split <;> rfl

/-- What is left of a check that only looked after the segments. -/
structure SameWatch (s t : DiskCheck) : Prop where
  reported : t.storageWarningReported = s.storageWarningReported
  audits : t.audits = s.audits

theorem sameWatch_relieve (h : self.relieve fmt config io = some next) :
    SameWatch self next := by
  unfold relieve at h
  split at h
  · cases h
    exact ⟨rfl, rfl⟩
  · split at h
    · obtain ⟨⟨cleaned, closed, summary⟩, -, rfl⟩ := Option.map_eq_some_iff.mp h
      exact ⟨rfl, rfl⟩
    · cases h
      exact ⟨rfl, rfl⟩

theorem sameWatch_relieveBacklog (h : self.relieveBacklog fmt config io = some next) :
    SameWatch self next := by
  unfold relieveBacklog at h
  split at h
  · cases h
    exact ⟨rfl, rfl⟩
  · split at h
    · obtain ⟨⟨cleaned, closed, summary⟩, -, rfl⟩ := Option.map_eq_some_iff.mp h
      exact ⟨rfl, rfl⟩
    · cases h
      exact ⟨rfl, rfl⟩

theorem sameWatch_notePause (self : DiskCheck) : SameWatch self (self.notePause config io) := by
  unfold notePause
  split
  · exact ⟨rfl, rfl⟩
  · split
    · constructor <;> simp
    · exact ⟨rfl, rfl⟩

theorem sameWatch_stopForBacklog (h : self.stopForBacklog fmt config io = some next) :
    SameWatch self next := by
  unfold stopForBacklog at h
  split at h
  · cases h
    exact ⟨rfl, rfl⟩
  · obtain ⟨⟨cleaned, closed, summary⟩, -, rfl⟩ := Option.map_eq_some_iff.mp h
    constructor <;> simp

theorem SameWatch.trans {s t u : DiskCheck} (h : SameWatch s t) (hu : SameWatch t u) :
    SameWatch s u :=
  ⟨hu.reported.trans h.reported, hu.audits.trans h.audits⟩

/-- The readings with which a tick lets the loop go on. -/
structure Spared (config : DiskConfig) (warned relieved next : DiskCheck) : Prop where
  emergency : config.pauseBeforeOsError → config.active.emergencyFreeMb ≤ warned.freeMb
  critical : config.stopCollectionOnCritical → config.active.criticalFreeMb ≤ relieved.freeMb
  backlog : ∀ segments ∈ next.segments, segments.backlogExceedsStopThreshold = false

/-- What the guard can do: let the loop go on, stop it for want of space or for a backlog. -/
theorem guard_cases {stops : Bool} (h : self.guard fmt config io = some (stops, next)) :
    stops = false ∧ SameWatch self next ∧
        (∃ relieved, self.relieve fmt config io = some relieved ∧
          Spared config self relieved next) ∨
      stops = true ∧ (SameWatch self next ∨
        next.storageWarningReported = self.storageWarningReported ∧
          next.audits = self.audits ++ [.storageLimitReached]) := by
  unfold guard at h
  split at h
  · cases h
    refine Or.inr ⟨rfl, Or.inr ?_⟩
    constructor <;> simp [stopInEmergency, noteLimit, audit]
  · rename_i hemergency
    obtain ⟨relieved, hrelieve, h⟩ := Option.bind_eq_some_iff.mp h
    have hrelieved := sameWatch_relieve hrelieve
    split at h
    · cases h
      refine Or.inr ⟨rfl, Or.inr ?_⟩
      constructor <;> simp [noteLimit, audit, hrelieved.reported, hrelieved.audits]
    · rename_i hcritical
      obtain ⟨unloaded, hunload, h⟩ := Option.bind_eq_some_iff.mp h
      have hnoted := (hrelieved.trans (sameWatch_relieveBacklog hunload)).trans
        (@sameWatch_notePause config io unloaded)
      simp only at h
      split at h
      · obtain ⟨stopped, hstop, heq⟩ := Option.map_eq_some_iff.mp h
        cases heq
        exact Or.inr ⟨rfl, Or.inl (hnoted.trans (sameWatch_stopForBacklog hstop))⟩
      · rename_i hbacklog
        cases h
        refine Or.inl ⟨rfl, hnoted, relieved, hrelieve, ?_, ?_, ?_⟩
        · intro hpause
          simpa [inEmergency, hpause] using hemergency
        · intro hstop
          simpa [isCritical, hstop] using hcritical
        · intro segments hsegments
          simp only [backlogStops, Option.any_eq_true, not_exists, not_and] at hbacklog
          simpa using hbacklog segments hsegments

theorem sameWatch_collect (h : self.collect fmt io = some next) : SameWatch self next := by
  unfold collect at h
  split at h
  · cases h
    exact ⟨rfl, rfl⟩
  · simp only at h
    split at h
    · split at h
      · simp at h
      · cases h
        exact ⟨rfl, rfl⟩
    · simp at h

/-- What a tick says of a warning, by the space that it found. -/
structure Ticked (config : DiskConfig) (start collected : DiskCheck) (stops : Bool)
    (next : DiskCheck) : Prop where
  reported : next.storageWarningReported =
    (collected.level config).getD start.storageWarningReported
  audits : ∃ limit, next.audits = start.audits ++
      (if collected.level config = some true ∧ start.storageWarningReported = false then
        [.storageWarning] else []) ++ limit ∧
    (limit = [] ∨ stops = true ∧ limit = [.storageLimitReached])

theorem tick_spec {stops : Bool} (h : self.tick fmt config io = some (stops, next)) :
    ∃ collected, self.collect fmt io = some collected ∧
      Ticked config self collected stops next ∧
      (stops = false → ∃ warned relieved,
        ({ collected with
          storageHealthy := config.active.criticalFreeMb ≤ collected.freeMb }.warn fmt config
            io) = some warned ∧
        warned.relieve fmt config io = some relieved ∧ Spared config warned relieved next) := by
  unfold tick at h
  obtain ⟨collected, hcollect, h⟩ := Option.bind_eq_some_iff.mp h
  obtain ⟨warned, hwarn, hguard⟩ := Option.bind_eq_some_iff.mp h
  have hsame := sameWatch_collect hcollect
  obtain ⟨hreported, haudits⟩ := warn_spec hwarn
  have hlevel : ({ collected with
      storageHealthy := config.active.criticalFreeMb ≤ collected.freeMb } : DiskCheck).level
        config = collected.level config := rfl
  rw [hlevel] at hreported haudits
  simp only [hsame.reported, hsame.audits] at hreported haudits
  refine ⟨collected, hcollect, ?_⟩
  rcases guard_cases hguard with ⟨hgoes, hnext, relieved, hrelieve, hspared⟩ |
    ⟨hstops, hnext | ⟨hflag, hlimit⟩⟩
  · refine ⟨⟨hnext.reported.trans hreported, [], ?_, Or.inl rfl⟩,
      fun _ => ⟨warned, relieved, hwarn, hrelieve, hspared⟩⟩
    rw [hnext.audits, haudits, List.append_nil]
  · refine ⟨⟨hnext.reported.trans hreported, [], ?_, Or.inl rfl⟩, by simp [hstops]⟩
    rw [hnext.audits, haudits, List.append_nil]
  · refine ⟨⟨hflag.trans hreported, [.storageLimitReached], ?_, Or.inr ⟨hstops, rfl⟩⟩,
      by simp [hstops]⟩
    rw [hlimit, haudits]

end DiskCheck

namespace LiveLoop

variable {fmt : SegmentFormats} {config : DiskConfig} {options : LiveRunOptions}
  {self : LiveLoop} {input : LoopInput}

/-- The tick of the disk check that an iteration performs. -/
def ticked (options : LiveRunOptions) (self : LiveLoop) (input : LoopInput) : Option TickIo :=
  if self.exit = none ∧ self.head options = none ∧ self.inlineMockEvents.isEmpty then
    match input.arm with
    | .diskTick io => some io
    | _ => none
  else none

/-- What an iteration learns of the space on the disk. -/
def levels (fmt : SegmentFormats) (config : DiskConfig) (options : LiveRunOptions)
    (self : LiveLoop) (input : LoopInput) : List Bool :=
  match self.ticked options input with
  | none => []
  | some io =>
    match self.diskCheck.collect fmt io, self.diskCheck.tick fmt config io with
    | some collected, some _ => (collected.level config).toList
    | _, _ => []

theorem iterate_of_ticked {io : TickIo} (h : self.ticked options input = some io) :
    self.exit = none ∧ self.iterate fmt config options input =
      (self.diskTick fmt config io).checkDeadline options input.now := by
  unfold ticked at h
  split at h
  · rename_i hready
    obtain ⟨hexit, hhead, hmock⟩ := hready
    refine ⟨hexit, ?_⟩
    split at h
    · rename_i harm
      cases h
      rw [iterate_of_select hexit hhead (List.isEmpty_iff.mp hmock), select, harm]
      rfl
    · simp at h
  · simp at h

/-- Nothing is said about the space on the disk. -/
structure SameWatch (s t : LiveLoop) : Prop where
  reported : t.storageWarningReported = s.storageWarningReported
  audits : t.audits = s.audits

theorem sameWatch_takeEvent (event : NormalizedEvent) (tentative : Bool) :
    SameWatch self (self.takeEvent fmt input event tentative) := by
  cases h : self.appends fmt input with
  | true =>
      obtain ⟨segments, htaken⟩ := takeEvent_of_appends h event tentative
      rw [htaken]
      exact ⟨rfl, rfl⟩
  | false =>
      rw [takeEvent_of_not_appends h]
      exact ⟨rfl, rfl⟩

theorem sameWatch_checkDeadline (now : ℕ) : SameWatch self (self.checkDeadline options now) := by
  unfold checkDeadline
  split <;> exact ⟨rfl, rfl⟩

theorem sameWatch_iterate (h : self.ticked options input = none) :
    SameWatch self (self.iterate fmt config options input) := by
  by_cases hexit : self.exit = none
  · cases hhead : self.head options with
    | some exit =>
        rw [iterate_of_head hexit hhead]
        exact ⟨rfl, rfl⟩
    | none =>
        cases hmock : self.inlineMockEvents with
        | cons first rest =>
            rw [iterate_of_mock hexit hhead hmock]
            have htaken := @sameWatch_takeEvent fmt { self with inlineMockEvents := rest } input
              first.1 first.2
            exact ⟨htaken.reported, htaken.audits⟩
        | nil =>
            rw [iterate_of_select hexit hhead hmock]
            have hbehind : ∀ next : LiveLoop, SameWatch self next →
                SameWatch self (next.checkDeadline options input.now) := by
              intro next hnext
              have hdeadline := @sameWatch_checkDeadline options next input.now
              exact ⟨hdeadline.reported.trans hnext.reported,
                hdeadline.audits.trans hnext.audits⟩
            cases harm : input.arm with
            | healthTick => simpa [select, harm] using hbehind self ⟨rfl, rfl⟩
            | diskTick io => simp [ticked, hexit, hhead, hmock, harm] at h
            | canonical event =>
                simp only [select, harm]
                split
                · exact ⟨rfl, rfl⟩
                · split
                  · exact hbehind _ (sameWatch_takeEvent _ _)
                  · exact hbehind _ ⟨rfl, rfl⟩
            | tentative event =>
                simp only [select, harm]
                split
                · exact ⟨rfl, rfl⟩
                · split
                  · exact hbehind _ (sameWatch_takeEvent _ _)
                  · exact hbehind _ ⟨rfl, rfl⟩
  · rw [iterate_of_exit hexit]
    exact ⟨rfl, rfl⟩

/-- The warnings that were audited, one for each time that space became scarce, and at the end
of a run that was stopped for want of space the limit. -/
structure Watched (signal : List Bool) (loop : LiveLoop) : Prop where
  reported : loop.storageWarningReported = Runs.latest false signal
  audits : ∃ limit,
    loop.audits = List.replicate (Runs.rises false signal) .storageWarning ++ limit ∧
      (limit = [] ∨ loop.exit = some (.finished true) ∧ limit = [.storageLimitReached])

theorem Watched.iterate_of_exit {signal : List Bool} (h : Watched signal self)
    (hexit : self.exit ≠ none) :
    Watched (signal ++ self.levels fmt config options input)
      (self.iterate fmt config options input) := by
  have hticked : self.ticked options input = none := by
    rw [ticked, if_neg (fun hready => hexit hready.1)]
  rw [LiveLoop.iterate_of_exit hexit, levels, hticked, List.append_nil]
  exact h

/-- A loop that goes on has reached no limit. -/
theorem Watched.audits_of_exit {signal : List Bool} (h : Watched signal self)
    (hexit : self.exit = none) :
    self.audits = List.replicate (Runs.rises false signal) .storageWarning := by
  obtain ⟨limit, haudits, rfl | ⟨hstopped, -⟩⟩ := h.audits
  · simpa using haudits
  · simp [hexit] at hstopped

theorem Watched.tick {signal : List Bool} (h : Watched signal self) (hexit : self.exit = none)
    {io : TickIo} {stops : Bool} {check : DiskCheck}
    (htick : self.diskCheck.tick fmt config io = some (stops, check)) {collected : DiskCheck}
    (hticked : DiskCheck.Ticked config self.diskCheck collected stops check) :
    Watched (signal ++ (collected.level config).toList) (self.diskTick fmt config io) := by
  have haudits := h.audits_of_exit hexit
  obtain ⟨limit, hcheck, hlimit⟩ := hticked.audits
  have hdisk : (self.diskTick fmt config io).storageWarningReported =
        check.storageWarningReported ∧
      (self.diskTick fmt config io).audits = check.audits ∧
      (stops = true → (self.diskTick fmt config io).exit = some (.finished true)) := by
    cases stops <;> simp [diskTick, htick, checked]
  have hflag : self.diskCheck.storageWarningReported = Runs.latest false signal := h.reported
  have hbefore : self.diskCheck.audits =
      List.replicate (Runs.rises false signal) .storageWarning := haudits
  constructor
  · rw [hdisk.1, hticked.reported, hflag]
    cases collected.level config <;> simp
  · refine ⟨limit, ?_, hlimit.imp_right fun hlim => ⟨hdisk.2.2 hlim.1, hlim.2⟩⟩
    rw [hdisk.2.1, hcheck, hflag, hbefore]
    cases hlevel : collected.level config with
    | none => simp
    | some scarce =>
        cases scarce <;> cases hlatest : Runs.latest false signal <;>
          simp [Runs.rises_concat, hlatest, List.replicate_succ']

theorem Watched.iterate {signal : List Bool} (h : Watched signal self) :
    Watched (signal ++ self.levels fmt config options input)
      (self.iterate fmt config options input) := by
  by_cases hexit : self.exit = none
  · cases hticked : self.ticked options input with
    | none =>
        have hsame := @sameWatch_iterate fmt config options self input hticked
        have haudits := h.audits_of_exit hexit
        rw [levels, hticked, List.append_nil]
        exact ⟨hsame.reported.trans h.reported, [], by simp [hsame.audits, haudits], Or.inl rfl⟩
    | some io =>
        rw [(iterate_of_ticked hticked).2]
        have hbehind : ∀ {levels : List Bool}, Watched (signal ++ levels)
            (self.diskTick fmt config io) → Watched (signal ++ levels)
              ((self.diskTick fmt config io).checkDeadline options input.now) := by
          intro levels hdisk
          have hdeadline := @sameWatch_checkDeadline options (self.diskTick fmt config io)
            input.now
          obtain ⟨limit, haudits, hlimit⟩ := hdisk.audits
          refine ⟨hdeadline.reported.trans hdisk.reported, limit,
            hdeadline.audits.trans haudits, hlimit.imp_right fun hlim => ⟨?_, hlim.2⟩⟩
          simp [checkDeadline, hlim.1]
        cases htick : self.diskCheck.tick fmt config io with
        | none =>
            have hfailed : Watched (signal ++ []) (self.diskTick fmt config io) := by
              rw [List.append_nil, diskTick, htick]
              exact ⟨h.reported, [], by simpa using h.audits_of_exit hexit, Or.inl rfl⟩
            have hlevels : self.levels fmt config options input = [] := by
              simp [levels, hticked, htick]
            rw [hlevels]
            exact hbehind hfailed
        | some result =>
            obtain ⟨stops, check⟩ := result
            obtain ⟨collected, hcollect, hspec, -⟩ := DiskCheck.tick_spec htick
            have hlevels : self.levels fmt config options input =
                (collected.level config).toList := by
              simp [levels, hticked, htick, hcollect]
            rw [hlevels]
            exact hbehind (h.tick hexit htick hspec)
  · exact h.iterate_of_exit hexit

/-- A loop that was left does nothing more. -/
theorem run_of_exit (hexit : self.exit ≠ none) (inputs : List LoopInput) :
    self.run fmt config options inputs = self := by
  induction inputs with
  | nil => rfl
  | cons input inputs ih => rw [run, List.foldl_cons, iterate_of_exit hexit]; exact ih

/-- A tick behind which the loop goes on found enough space and a short backlog. -/
theorem spared_of_ticked {io : TickIo} (hticked : self.ticked options input = some io)
    (hexit : (self.iterate fmt config options input).exit = none) :
    ∃ collected warned relieved next,
      self.diskCheck.collect fmt io = some collected ∧
      self.diskCheck.tick fmt config io = some (false, next) ∧
      ({ collected with
        storageHealthy := config.active.criticalFreeMb ≤ collected.freeMb }.warn fmt config
          io) = some warned ∧
      warned.relieve fmt config io = some relieved ∧
      DiskCheck.Spared config warned relieved next := by
  rw [(iterate_of_ticked hticked).2] at hexit
  have hstays : (self.diskTick fmt config io).exit = none := by
    by_contra hleft
    have hsame : (self.diskTick fmt config io).checkDeadline options input.now =
        self.diskTick fmt config io := by simp [checkDeadline, hleft]
    exact hleft (hsame ▸ hexit)
  cases htick : self.diskCheck.tick fmt config io with
  | none => simp [diskTick, htick] at hstays
  | some result =>
      obtain ⟨stops, check⟩ := result
      cases stops with
      | true => simp [diskTick, htick] at hstays
      | false =>
          obtain ⟨collected, hcollect, -, hgoes⟩ := DiskCheck.tick_spec htick
          obtain ⟨warned, relieved, hwarn, hrelieve, hspared⟩ := hgoes rfl
          exact ⟨collected, warned, relieved, check, hcollect, rfl, hwarn, hrelieve, hspared⟩

theorem watched_run (fmt : SegmentFormats) (config : DiskConfig) (options : LiveRunOptions)
    {start : LiveLoop} (hflag : start.storageWarningReported = false)
    (haudits : start.audits = []) (inputs : List LoopInput) :
    Watched (Runs.emitted (LiveLoop.iterate fmt config options) (levels fmt config options)
      start inputs) (start.run fmt config options inputs) := by
  induction inputs using List.reverseRecOn with
  | nil => exact ⟨hflag, [], haudits, Or.inl rfl⟩
  | append_singleton inputs input ih =>
      rw [Runs.emitted_append, run, List.foldl_append]
      have hnext := @Watched.iterate fmt config options _ input _ ih
      rw [← List.append_nil (levels fmt config options _ input)] at hnext
      exact hnext

/-- A tick that finds the free space at `freeMb`, whatever it does. -/
def quietTick (freeMb : ℕ) : TickIo where
  now := unixEpoch
  ageClose _ := {}
  upload := samplePass
  warning := { close := fun _ => {}, upload := samplePass }
  critical := { close := fun _ => {}, upload := samplePass }
  backlog := { close := fun _ => {}, upload := samplePass }
  stop := { close := fun _ => {}, upload := samplePass }
  freeMb := freeMb
  freeMbAfterUpload := freeMb
  freeMbAfterBudget := freeMb
  freeMbAfterWarning := freeMb
  freeMbAfterCritical := freeMb
  freeMbAfterBacklog := freeMb

/-- The disk check of a live run, whatever `select!` picked: a warning is audited once for each
time that space became scarce, the limit at most once, in the end. As long as the loop goes
on, every tick found enough space and a short backlog. -/
theorem disk_watched (fmt : SegmentFormats) (config : DiskConfig) (options : LiveRunOptions)
    {start : LiveLoop} (hflag : start.storageWarningReported = false)
    (haudits : start.audits = []) (inputs : List LoopInput) :
    Watched (Runs.emitted (LiveLoop.iterate fmt config options) (levels fmt config options)
        start inputs) (start.run fmt config options inputs) ∧
      ((start.run fmt config options inputs).exit = none →
        ∀ before input after io, inputs = before ++ input :: after →
          (start.run fmt config options before).ticked options input = some io →
          ∃ collected warned relieved next,
            (start.run fmt config options before).diskCheck.collect fmt io = some collected ∧
            (start.run fmt config options before).diskCheck.tick fmt config io =
              some (false, next) ∧
            ({ collected with
              storageHealthy := config.active.criticalFreeMb ≤ collected.freeMb }.warn fmt
                config io) = some warned ∧
            warned.relieve fmt config io = some relieved ∧
            DiskCheck.Spared config warned relieved next) := by
  refine ⟨watched_run fmt config options hflag haudits inputs, ?_⟩
  rintro hexit before input after io rfl hticked
  apply spared_of_ticked hticked
  by_contra hleft
  rw [run, List.foldl_append, List.foldl_cons] at hexit
  have hrest := @run_of_exit fmt config options
    ((start.run fmt config options before).iterate fmt config options input) hleft after
  exact hleft (hrest ▸ hexit)

/-- Space that becomes scarce at the second tick. -/
def scarceInputs : List LoopInput :=
  [quietInput (.diskTick (quietTick 150)), quietInput (.diskTick (quietTick 80))]

theorem disk_watched_scarce :
    Watched [false, true] (quietLoop.run sampleFormats quietDisk {} scarceInputs) ∧
      ∃ warned relieved next, DiskCheck.Spared quietDisk warned relieved next := by
  have hwatched := @disk_watched sampleFormats quietDisk {} quietLoop rfl rfl scarceInputs
  obtain ⟨collected, warned, relieved, next, -, -, -, -, hspared⟩ :=
    hwatched.2 rfl [] _ [quietInput (.diskTick (quietTick 80))] (quietTick 150) rfl rfl
  exact ⟨hwatched.1, warned, relieved, next, hspared⟩

end LiveLoop

/-! ## The record of a run -/

namespace LiveLoop

variable {fmt : SegmentFormats} {self : LiveLoop}

/-- An audit event touches the segments only. -/
theorem appendAudit_fst (fmt : SegmentFormats) (self : LiveLoop) (audit : AuditIo) :
    ∃ segments, (self.appendAudit fmt audit).1 = { self with segments := segments } := by
  unfold appendAudit
  split
  · exact ⟨self.segments, rfl⟩
  · exact ⟨_, rfl⟩

theorem live_appendLines {lines : List SegmentAppend} {appended : LiveLoop}
    (h : self.appendLines fmt lines = some appended) : appended.live = self.live := by
  unfold appendLines at h
  split at h
  · cases h
    rfl
  · obtain ⟨segments, -, rfl⟩ := Option.map_eq_some_iff.mp h
    rfl

theorem live_closeSegments {io : CleanupIo} {closed : LiveLoop}
    (h : self.closeSegments fmt io = some closed) : closed.live = self.live := by
  unfold closeSegments at h
  split at h
  · cases h
    rfl
  · obtain ⟨⟨cleaned, count, summary⟩, -, rfl⟩ := Option.map_eq_some_iff.mp h
    rfl

end LiveLoop

namespace LiveDataRun

section stages

variable (fmt : SegmentFormats) (config : DiskConfig) (options : LiveRunOptions)
  (start : LiveLoop) (env : LiveDataEnv)

/-- The segments are set up and take the first audit event. -/
structure Starts : Prop where
  segments : env.segmentsStart = true
  audited : (start.appendAudit fmt env.startAudit).2 = some ()

/-- The run passes the checks and enters its loop. -/
structure Enters (reasons : List ReasonCode) : Prop extends Starts fmt start env where
  ready : env.sources.liveDataReadiness = .ok reasons
  allowed : start.live.safety.paperAllowed = true ∨ start.live.resolved.edgeCollectorMode = true
  metrics : env.metricsServerStarts = true
  sources : env.sourcesStart = true

/-- The loop of a live run as it starts, behind the checks. -/
def loopStart (reasons : List ReasonCode) : LiveLoop :=
  withReasonCodes (start.appendAudit fmt env.startAudit).1
    (startingCodes options (start.live.safety.reasonCodes ++ reasons))

def loopEnd (reasons : List ReasonCode) : LiveLoop :=
  (loopStart fmt options start env reasons).run fmt config options env.inputs

/-- The loop was left in good order, and the last drain appended its lines. -/
structure Drains (reasons : List ReasonCode) (aborted : Bool) (appended : LiveLoop) : Prop extends
    Enters fmt start env reasons where
  left : (loopEnd fmt config options start env reasons).exit = some (.finished aborted)
  appends : (loopEnd fmt config options start env reasons).appendLines fmt env.drainAppends =
    some appended

/-- The conditions under which a live run is recorded as completed. -/
structure Completes (reasons : List ReasonCode) (aborted : Bool) (appended finalized : LiveLoop) :
    Prop extends Drains fmt config options start env reasons aborted appended where
  returned : ∀ taskEnd ∈ env.taskEnds, taskEnd.failsRun aborted = false
  finalizes : (drain appended env).appendLines fmt env.finalAppends = some finalized
  persists : env.calibrationPersists = true

/-- The failures that a run records. -/
inductive Rejected : Prop where
  | unready {error : String} (h : Starts fmt start env)
      (hready : env.sources.liveDataReadiness = .error error) : Rejected
  | disabled {reasons : List ReasonCode} (h : Starts fmt start env)
      (hready : env.sources.liveDataReadiness = .ok reasons)
      (hpaper : start.live.safety.paperAllowed = false)
      (hedge : start.live.resolved.edgeCollectorMode = false) : Rejected
  | sources {reasons : List ReasonCode} (h : Starts fmt start env)
      (hready : env.sources.liveDataReadiness = .ok reasons)
      (hallowed : start.live.safety.paperAllowed = true ∨
        start.live.resolved.edgeCollectorMode = true)
      (hmetrics : env.metricsServerStarts = true) (hsources : env.sourcesStart = false) : Rejected
  | task {reasons : List ReasonCode} {aborted : Bool} {appended : LiveLoop}
      (h : Drains fmt config options start env reasons aborted appended)
      (hfails : ∃ taskEnd ∈ env.taskEnds, taskEnd.failsRun aborted = true) : Rejected

/-- The failures behind which the record still says that the run is running. -/
inductive Abandoned : Prop where
  | metrics {reasons : List ReasonCode} (h : Starts fmt start env)
      (hready : env.sources.liveDataReadiness = .ok reasons)
      (hallowed : start.live.safety.paperAllowed = true ∨
        start.live.resolved.edgeCollectorMode = true)
      (hmetrics : env.metricsServerStarts = false) : Abandoned
  | loop {reasons : List ReasonCode} (h : Enters fmt start env reasons)
      (hfailed : (loopEnd fmt config options start env reasons).exit = some .failed) : Abandoned
  | drain {reasons : List ReasonCode} {aborted : Bool} (h : Enters fmt start env reasons)
      (hleft : (loopEnd fmt config options start env reasons).exit = some (.finished aborted))
      (hfails : (loopEnd fmt config options start env reasons).appendLines fmt
        env.drainAppends = none) : Abandoned
  | finalize {reasons : List ReasonCode} {aborted : Bool} {appended : LiveLoop}
      (h : Drains fmt config options start env reasons aborted appended)
      (hreturned : ∀ taskEnd ∈ env.taskEnds, taskEnd.failsRun aborted = false)
      (hfails : (LiveDataRun.drain appended env).appendLines fmt env.finalAppends = none ∨
        env.calibrationPersists = false) : Abandoned

/-- The loop goes on. -/
def Continues : Prop :=
  ∃ reasons, Enters fmt start env reasons ∧
    (loopEnd fmt config options start env reasons).exit = none

end stages

variable {fmt : SegmentFormats} {config : DiskConfig} {options : LiveRunOptions}
  {start : LiveLoop} {env : LiveDataEnv} {reasons : List ReasonCode} {aborted : Bool}
  {appended finalized : LiveLoop}

theorem run_of_starts (h : Starts fmt start env) :
    runLiveDataPaper fmt config options start env =
      collect fmt config options (start.appendAudit fmt env.startAudit).1 env := by
  have hsplit : start.appendAudit fmt env.startAudit =
      ((start.appendAudit fmt env.startAudit).1, some ()) := Prod.ext rfl h.audited
  unfold runLiveDataPaper
  rw [if_neg (by simp [h.segments]), hsplit]

theorem live_started (fmt : SegmentFormats) (start : LiveLoop) (audit : AuditIo) :
    (start.appendAudit fmt audit).1.live = start.live := by
  obtain ⟨segments, hstarted⟩ := LiveLoop.appendAudit_fst fmt start audit
  rw [hstarted]

theorem run_of_enters (h : Enters fmt start env reasons) :
    runLiveDataPaper fmt config options start env =
      leave fmt (loopEnd fmt config options start env reasons) env := by
  rw [run_of_starts h.toStarts]
  unfold collect
  simp only [h.ready, live_started]
  rw [if_neg, if_neg (by simp [h.metrics]), if_neg (by simp [h.sources])]
  · rfl
  · have hallowed := h.allowed
    rintro ⟨hpaper, hedge⟩
    simp_all

theorem run_of_drains (h : Drains fmt config options start env reasons aborted appended) :
    runLiveDataPaper fmt config options start env =
      finish fmt (loopEnd fmt config options start env reasons) aborted env := by
  rw [run_of_enters h.toEnters]
  unfold leave
  rw [h.left]

theorem run_of_completes
    (h : Completes fmt config options start env reasons aborted appended finalized) :
    runLiveDataPaper fmt config options start env =
      conclude fmt { finalized with
        live := finalized.live.finalizeRun env.finalized env.unixNow } env := by
  have hreturned : env.taskEnds.any (TaskEnd.failsRun aborted) = false := by
    simpa using h.returned
  rw [run_of_drains h.toDrains]
  simp [finish, h.appends, hreturned, h.finalizes, h.persists]

/-! ### The statuses -/

theorem statuses_of_not_starts (h : ¬ Starts fmt start env) :
    (runLiveDataPaper fmt config options start env).statuses = [] ∧
      (runLiveDataPaper fmt config options start env).result = .failed := by
  unfold runLiveDataPaper
  split
  · exact ⟨rfl, rfl⟩
  · rename_i hsegments
    split
    · exact ⟨rfl, rfl⟩
    · rename_i started haudit
      exact absurd ⟨by simpa using hsegments, by rw [haudit]⟩ h

theorem statuses_of_rejected (h : Rejected fmt config options start env) :
    (runLiveDataPaper fmt config options start env).statuses = [.running, .failed] ∧
      (runLiveDataPaper fmt config options start env).result = .failed := by
  cases h with
  | unready hstarts hready =>
      rw [run_of_starts hstarts]
      simp [collect, hready, fail]
  | disabled hstarts hready hpaper hedge =>
      rw [run_of_starts hstarts]
      simp [collect, hready, live_started, hpaper, hedge, fail]
  | sources hstarts hready hallowed hmetrics hsources =>
      rw [run_of_starts hstarts]
      rcases hallowed with hallowed | hallowed <;>
        simp [collect, hready, live_started, hallowed, hmetrics, hsources, fail]
  | task hdrains hfails =>
      rw [run_of_drains hdrains]
      simp [finish, hdrains.appends, hfails, fail]

theorem statuses_of_abandoned (h : Abandoned fmt config options start env) :
    (runLiveDataPaper fmt config options start env).statuses = [.running] ∧
      (runLiveDataPaper fmt config options start env).result = .failed := by
  cases h with
  | metrics hstarts hready hallowed hmetrics =>
      rw [run_of_starts hstarts]
      rcases hallowed with hallowed | hallowed <;>
        simp [collect, hready, live_started, hallowed, hmetrics, abandon]
  | loop henters hfailed =>
      rw [run_of_enters henters]
      simp [leave, hfailed, abandon]
  | drain henters hleft hfails =>
      rw [run_of_enters henters]
      simp [leave, hleft, finish, hfails, abandon]
  | @finalize _ aborted appended hdrains hreturned hfails =>
      have hreturned : env.taskEnds.any (TaskEnd.failsRun aborted) = false := by
        simpa using hreturned
      rw [run_of_drains hdrains]
      rcases hfails with hfails | hfails
      · simp [finish, hdrains.appends, hreturned, hfails, abandon]
      · cases hfinal : (drain appended env).appendLines fmt env.finalAppends <;>
          simp [finish, hdrains.appends, hreturned, hfinal, hfails, abandon]

theorem statuses_of_continues (h : Continues fmt config options start env) :
    (runLiveDataPaper fmt config options start env).statuses = [.running] ∧
      (runLiveDataPaper fmt config options start env).result = .running := by
  obtain ⟨reasons, henters, hexit⟩ := h
  rw [run_of_enters henters]
  simp [leave, hexit]

theorem statuses_conclude (loop : LiveLoop) :
    (conclude fmt loop env).statuses = [.running, .completed] ∧
      (conclude fmt loop env).result ≠ .running := by
  unfold conclude
  simp only
  split
  · simp
  · split
    · simp
    · split
      · simp
      · simp

/-- A run that left its loop in good order fails in a task or behind it, or completes. -/
theorem courses_of_drains
    (h : Drains fmt config options start env reasons aborted appended) :
    Rejected fmt config options start env ∨ Abandoned fmt config options start env ∨
      ∃ finalized, Completes fmt config options start env reasons aborted appended finalized := by
  by_cases hfails : ∃ taskEnd ∈ env.taskEnds, taskEnd.failsRun aborted = true
  · exact Or.inl (.task h hfails)
  have hreturned : ∀ taskEnd ∈ env.taskEnds, taskEnd.failsRun aborted = false := by
    simpa using hfails
  cases hfinal : (drain appended env).appendLines fmt env.finalAppends with
  | none => exact Or.inr (Or.inl (.finalize h hreturned (Or.inl hfinal)))
  | some finalized =>
      cases hpersists : env.calibrationPersists with
      | false => exact Or.inr (Or.inl (.finalize h hreturned (Or.inr hpersists)))
      | true => exact Or.inr (Or.inr ⟨finalized, h, hreturned, hfinal, hpersists⟩)

/-- A run that enters its loop goes on in it, or leaves it by an error or in good order. -/
theorem courses_of_enters (h : Enters fmt start env reasons) :
    Rejected fmt config options start env ∨ Abandoned fmt config options start env ∨
      Continues fmt config options start env ∨
      ∃ aborted appended finalized,
        Completes fmt config options start env reasons aborted appended finalized := by
  cases hexit : (loopEnd fmt config options start env reasons).exit with
  | none => exact Or.inr (Or.inr (Or.inl ⟨reasons, h, hexit⟩))
  | some exit =>
      cases exit with
      | failed => exact Or.inr (Or.inl (.loop h hexit))
      | finished aborted =>
          cases happends : (loopEnd fmt config options start env reasons).appendLines fmt
              env.drainAppends with
          | none => exact Or.inr (Or.inl (.drain h hexit happends))
          | some appended =>
              rcases courses_of_drains ⟨h, hexit, happends⟩ with hfailed | hfailed | hcompletes
              · exact Or.inl hfailed
              · exact Or.inr (Or.inl hfailed)
              · exact Or.inr (Or.inr (Or.inr ⟨aborted, appended, hcompletes⟩))

/-- Every run takes one of the courses. -/
theorem courses (fmt : SegmentFormats) (config : DiskConfig) (options : LiveRunOptions)
    (start : LiveLoop) (env : LiveDataEnv) :
    ¬ Starts fmt start env ∨ Rejected fmt config options start env ∨
      Abandoned fmt config options start env ∨ Continues fmt config options start env ∨
      ∃ reasons aborted appended finalized,
        Completes fmt config options start env reasons aborted appended finalized := by
  by_cases hstarts : Starts fmt start env
  swap
  · exact Or.inl hstarts
  refine Or.inr ?_
  cases hready : env.sources.liveDataReadiness with
  | error error => exact Or.inl (.unready hstarts hready)
  | ok reasons =>
      by_cases hallowed : start.live.safety.paperAllowed = true ∨
        start.live.resolved.edgeCollectorMode = true
      swap
      · rw [not_or, Bool.not_eq_true, Bool.not_eq_true] at hallowed
        exact Or.inl (.disabled hstarts hready hallowed.1 hallowed.2)
      cases hmetrics : env.metricsServerStarts with
      | false => exact Or.inr (Or.inl (.metrics hstarts hready hallowed hmetrics))
      | true =>
          cases hsources : env.sourcesStart with
          | false => exact Or.inl (.sources hstarts hready hallowed hmetrics hsources)
          | true =>
              rcases courses_of_enters ⟨hstarts, hready, hallowed, hmetrics, hsources⟩ with
                hfailed | hfailed | hcontinues | hcompletes
              · exact Or.inl hfailed
              · exact Or.inr (Or.inl hfailed)
              · exact Or.inr (Or.inr (Or.inl hcontinues))
              · exact Or.inr (Or.inr (Or.inr ⟨reasons, hcompletes⟩))

/-! ### The record -/

/-- What follows the status of a completed run succeeds. -/
def Concludes (fmt : SegmentFormats) (loop : LiveLoop) (env : LiveDataEnv) : Prop :=
  ∃ reported closed, loop.appendLines fmt [env.gapsReport] = some reported ∧
    (reported.appendAudit fmt env.stopAudit).2 = some () ∧
    (reported.appendAudit fmt env.stopAudit).1.closeSegments fmt env.cleanup = some closed

theorem result_conclude_iff (loop : LiveLoop) :
    (conclude fmt loop env).result = .completed ↔ Concludes fmt loop env := by
  unfold conclude Concludes
  simp only
  cases hreported : loop.appendLines fmt [env.gapsReport] with
  | none => simp
  | some reported =>
      simp only
      cases hstopped : (reported.appendAudit fmt env.stopAudit).2 with
      | none => simp [hstopped]
      | some appended =>
          simp only
          cases hclosed : (reported.appendAudit fmt env.stopAudit).1.closeSegments fmt
              env.cleanup with
          | none => simp [hclosed]
          | some closed => simp [hstopped, hclosed]

theorem live_conclude (loop : LiveLoop) : (conclude fmt loop env).loop.live = loop.live := by
  unfold conclude
  simp only
  split
  · rfl
  · rename_i reported hreported
    have hlive := LiveLoop.live_appendLines hreported
    have hstopped := live_started fmt reported env.stopAudit
    split
    · exact hstopped.trans hlive
    · split
      · exact hstopped.trans hlive
      · rename_i closed hclosed
        exact (LiveLoop.live_closeSegments hclosed).trans (hstopped.trans hlive)

/-- What is recorded of a run and what a completed run leaves. The record is failed exactly for
a failed check or a failed source task, and completed exactly under `Completes`. A run that any
other error ended is recorded as running, or not at all where it did not start, and a run whose
last report, audit event or uploads fail is recorded as completed and returns the error. A
completed run handled the events that its loop took one after the other, and was finalized. -/
structure Accounted (fmt : SegmentFormats) (config : DiskConfig) (options : LiveRunOptions)
    (start : LiveLoop) (env : LiveDataEnv) (run : LiveDataRun) : Prop where
  unrecorded_iff : run.statuses = [] ↔ ¬ Starts fmt start env
  failed_iff : run.statuses = [.running, .failed] ↔ Rejected fmt config options start env
  running_iff : run.statuses = [.running] ↔
    Abandoned fmt config options start env ∨ Continues fmt config options start env
  completed_iff : run.statuses = [.running, .completed] ↔
    ∃ reasons aborted appended finalized,
      Completes fmt config options start env reasons aborted appended finalized
  runs_iff : run.result = .running ↔ Continues fmt config options start env
  returns_iff : run.result = .completed ↔ ∃ reasons aborted appended finalized,
    Completes fmt config options start env reasons aborted appended finalized ∧
      Concludes fmt { finalized with
        live := finalized.live.finalizeRun env.finalized env.unixNow } env
  handled : run.statuses = [.running, .completed] → ∃ reasons,
    env.sources.liveDataReadiness = .ok reasons ∧
    run.loop.live =
      ((Runs.emitted (LiveLoop.iterate fmt config options) (LiveLoop.takes fmt options)
        (loopStart fmt options start env reasons) env.inputs).foldl TakenEvent.handle
          (loopStart fmt options start env reasons).live).finalizeRun env.finalized env.unixNow

/-- A run that completes leaves its queues empty, and finalizes what the loop handled. -/
theorem live_completes (hidle : start.live.Idle) (hprocessed : start.processed = 0)
    (h : Completes fmt config options start env reasons aborted appended finalized) :
    (runLiveDataPaper fmt config options start env).loop.live =
      ((Runs.emitted (LiveLoop.iterate fmt config options) (LiveLoop.takes fmt options)
        (loopStart fmt options start env reasons) env.inputs).foldl TakenEvent.handle
          (loopStart fmt options start env reasons).live).finalizeRun env.finalized
            env.unixNow := by
  obtain ⟨segments, hstarted⟩ := LiveLoop.appendAudit_fst fmt start env.startAudit
  have hbegin : (loopStart fmt options start env reasons).live.Idle := by
    rw [loopStart, hstarted]
    exact ⟨hidle.1, hidle.2⟩
  have hhandled := @LiveLoop.handled_run fmt config options
    (loopStart fmt options start env reasons) hbegin
    (by rw [loopStart, hstarted]; exact hprocessed) env.inputs
  have hend : (loopEnd fmt config options start env reasons).live.Idle := by
    rw [loopEnd, hhandled.live_eq]
    exact LiveLoop.idle_foldl_handle hbegin _
  have hfinalized : finalized.live = (loopEnd fmt config options start env reasons).live := by
    rw [LiveLoop.live_appendLines h.finalizes, drain, LiveLoop.live_appendLines h.appends,
      hend.drainPipeline]
  rw [run_of_completes h, live_conclude, hfinalized, loopEnd, hhandled.live_eq]

/-- However a live run ends, its record and its result say which course it took. -/
theorem run_accounted (fmt : SegmentFormats) (config : DiskConfig) (options : LiveRunOptions)
    {start : LiveLoop} (hidle : start.live.Idle) (hprocessed : start.processed = 0)
    (env : LiveDataEnv) :
    Accounted fmt config options start env
      (runLiveDataPaper fmt config options start env) := by
  have hunrecorded := @statuses_of_not_starts fmt config options start env
  have hrejected := @statuses_of_rejected fmt config options start env
  have habandoned := @statuses_of_abandoned fmt config options start env
  have hcontinues := @statuses_of_continues fmt config options start env
  have hcompletes : ∀ {reasons aborted appended finalized},
      Completes fmt config options start env reasons aborted appended finalized →
        (runLiveDataPaper fmt config options start env).statuses = [.running, .completed] ∧
          (runLiveDataPaper fmt config options start env).result ≠ .running := by
    intro reasons aborted appended finalized h
    rw [run_of_completes h]
    exact statuses_conclude _
  have hcourses := courses fmt config options start env
  constructor
  · grind
  · grind
  · grind
  · grind
  · grind
  · constructor
    · intro hresult
      obtain ⟨reasons, aborted, appended, finalized, h⟩ : ∃ reasons aborted appended finalized,
          Completes fmt config options start env reasons aborted appended finalized := by
        grind
      rw [run_of_completes h, result_conclude_iff] at hresult
      exact ⟨reasons, aborted, appended, finalized, h, hresult⟩
    · rintro ⟨reasons, aborted, appended, finalized, h, hconcludes⟩
      rw [run_of_completes h, result_conclude_iff]
      exact hconcludes
  · intro hstatuses
    obtain ⟨reasons, aborted, appended, finalized, h⟩ : ∃ reasons aborted appended finalized,
        Completes fmt config options start env reasons aborted appended finalized := by
      grind
    exact ⟨reasons, h.ready, live_completes hidle hprocessed h⟩

/-- A run whose source returns. -/
def creationEnv : LiveDataEnv where
  sources :=
    { geyserEnabled := true
      geyserRequired := true
      shredEnabled := false
      shredRequired := false
      shredServiceRuns := false
      allowGeyserOnlyFallback := true
      deshredEnabled := false
      deshredRequired := false
      deshred := { endpointConfigured := false, authConfigured := false } }
  inputs := LiveLoop.creationInputs
  taskEnds := [.returned]
  drained _ := Supervisor.sampleAmbient
  finalized := Supervisor.sampleAmbient
  unixNow := unixEpoch
  cleanup := { close := fun _ => {}, upload := samplePass }

/-- A metrics server without an address leaves the run recorded as running. -/
theorem run_accounted_creation :
    Accounted sampleFormats LiveLoop.quietDisk {} LiveLoop.quietLoop creationEnv
        (runLiveDataPaper sampleFormats LiveLoop.quietDisk {} LiveLoop.quietLoop creationEnv) ∧
      (runLiveDataPaper sampleFormats LiveLoop.quietDisk {} LiveLoop.quietLoop
        creationEnv).result = .completed ∧
      (Abandoned sampleFormats LiveLoop.quietDisk {} LiveLoop.quietLoop
          { creationEnv with metricsServerStarts := false } ∨
        Continues sampleFormats LiveLoop.quietDisk {} LiveLoop.quietLoop
          { creationEnv with metricsServerStarts := false }) :=
  ⟨run_accounted sampleFormats LiveLoop.quietDisk {} LiveLoop.idle_quietLoop rfl creationEnv, rfl,
    (run_accounted sampleFormats LiveLoop.quietDisk {} LiveLoop.idle_quietLoop rfl
      { creationEnv with metricsServerStarts := false }).running_iff.mp rfl⟩

end LiveDataRun

end PumpLaunchTrader
