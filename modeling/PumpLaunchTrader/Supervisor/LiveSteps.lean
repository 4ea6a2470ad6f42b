import PumpLaunchTrader.Model.Live
import PumpLaunchTrader.Supervisor.Log

/-! # The steps of a live run

Persisting a record touches the logs alone. Publishing an event to an empty bus and draining
it handles the event at once. -/

namespace PumpLaunchTrader

namespace LiveSupervisor

/-! ## What persisting leaves alone -/

/-- Two supervisors that differ in their logs only. -/
structure SameQueues (s t : LiveSupervisor) : Prop where
  toPipeline : t.toPipeline = s.toPipeline
  persistNormalizedEvents : t.persistNormalizedEvents = s.persistNormalizedEvents
  canonicalBus : t.canonicalBus = s.canonicalBus
  tentativeBus : t.tentativeBus = s.tentativeBus

theorem sameQueues_persistOn (s : LiveSupervisor) (path : PersistPath) (otherRecords : ℕ)
    (event : NormalizedEvent) : s.SameQueues (s.persistOn path otherRecords event) := by
  unfold persistOn
  split
  · exact ⟨rfl, rfl, rfl, rfl⟩
  · exact ⟨rfl, rfl, rfl, rfl⟩

theorem SameQueues.trans {s t u : LiveSupervisor} (h : s.SameQueues t) (hnext : t.SameQueues u) :
    s.SameQueues u where
  toPipeline := hnext.toPipeline.trans h.toPipeline
  persistNormalizedEvents := hnext.persistNormalizedEvents.trans h.persistNormalizedEvents
  canonicalBus := hnext.canonicalBus.trans h.canonicalBus
  tentativeBus := hnext.tentativeBus.trans h.tentativeBus

theorem sameQueues_persistAll (s : LiveSupervisor) (ambient : Ambient)
    (events : List (PersistPath × NormalizedEvent)) :
    s.SameQueues (s.persistAll ambient events) := by
  unfold persistAll
  induction events.zipIdx generalizing s with
  | nil => exact ⟨rfl, rfl, rfl, rfl⟩
  | cons e entries ih =>
      rw [List.foldl_cons]
      exact (s.sameQueues_persistOn e.1.1 (ambient.otherRecords e.2) e.1.2).trans (ih _)

@[simp] theorem toPipeline_persistAll (s : LiveSupervisor) (ambient : Ambient)
    (events : List (PersistPath × NormalizedEvent)) :
    (s.persistAll ambient events).toPipeline = s.toPipeline :=
  (s.sameQueues_persistAll ambient events).toPipeline

/-! ## The pipeline of a step -/

@[simp] theorem toPipeline_handleEvent (s : LiveSupervisor) (ambient : Ambient)
    (event : NormalizedEvent) (tentative : Bool) :
    (s.handleEvent ambient event tentative).toPipeline =
      (s.toPipeline.handleEvent ambient event tentative).1 :=
  toPipeline_persistAll _ _ _

@[simp] theorem toPipeline_finalizeRun (s : LiveSupervisor) (ambient : Ambient)
    (unixNow : OffsetDateTime) :
    (s.finalizeRun ambient unixNow).toPipeline = (s.toPipeline.finalize ambient unixNow).1 :=
  toPipeline_persistAll _ _ _

@[simp] theorem toPipeline_publishTentative (s : LiveSupervisor) (event : NormalizedEvent) :
    (s.publishTentative event).toPipeline = s.toPipeline := by
  unfold publishTentative
  split
  · rfl
  · rfl

/-- The canonical bus takes no more events. -/
def canonicalFull (s : LiveSupervisor) : Bool :=
  s.canonicalBus.capacityPerPriority ≤ s.canonicalBus.high.length

theorem publishCanonical_of_not_full {s : LiveSupervisor} (h : s.canonicalFull = false)
    (ambient : Ambient) (event : NormalizedEvent) :
    s.publishCanonical ambient event = { s with
      canonicalBus := { s.canonicalBus with high := s.canonicalBus.high ++ [event] } } := by
  have hroom : s.canonicalBus.high.length < s.canonicalBus.capacityPerPriority := by
    simpa [canonicalFull] using h
  unfold publishCanonical EventBus.tryPublish EventBus.trySend
  rw [if_pos hroom]
  rfl

theorem publishCanonical_of_full {s : LiveSupervisor} (h : s.canonicalFull = true)
    (ambient : Ambient) (event : NormalizedEvent) :
    s.publishCanonical ambient event =
      { s with
        toPipeline := s.toPipeline.applyEvent
          (syntheticGapEvent ambient event.info.slot .geyserProcessed) }.persistAll ambient
        [(.queueOverflow, syntheticGapEvent ambient event.info.slot .geyserProcessed)] := by
  have hfull : ¬ s.canonicalBus.high.length < s.canonicalBus.capacityPerPriority := by
    simpa [canonicalFull] using h
  unfold publishCanonical EventBus.tryPublish EventBus.trySend
  rw [if_neg hfull]
  rfl

/-- Receiving an event takes it from its bus and changes nothing else. -/
theorem receive_rest {s rest : LiveSupervisor} {event : NormalizedEvent} {tentative : Bool}
    (h : s.receive = some (event, tentative, rest)) :
    rest.toSupervisor = s.toSupervisor ∧ rest.segmentManager = s.segmentManager := by
  unfold receive at h
  split at h
  · cases h
    exact ⟨rfl, rfl⟩
  · rw [Option.map_eq_some_iff] at h
    obtain ⟨received, -, hreceived⟩ := h
    cases hreceived
    exact ⟨rfl, rfl⟩

theorem drain_of_receive {s rest : LiveSupervisor} {event : NormalizedEvent} {tentative : Bool}
    (h : s.receive = some (event, tentative, rest)) (ambient : Ambient) :
    s.drain ambient = rest.handleEvent ambient event tentative := by
  unfold drain
  rw [h]

theorem drain_of_receive_none {s : LiveSupervisor} (h : s.receive = none) (ambient : Ambient) :
    s.drain ambient = s := by
  unfold drain
  rw [h]

/-! ## Publishing and draining at once -/

/-- Both buses are empty and take an event. -/
structure Idle (s : LiveSupervisor) : Prop where
  canonicalBus : ∃ capacity, s.canonicalBus = .bounded (capacity + 1)
  tentativeBus : ∃ capacity, s.tentativeBus = .bounded (capacity + 1)

end LiveSupervisor

end PumpLaunchTrader
