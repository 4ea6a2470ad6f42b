import PumpLaunchTrader.ShredExit.Calls
import PumpLaunchTrader.Supervisor.Handling

/-! # The steps inside a handled event

Handling an event applies it and then, outside the edge collector, calls the manager of
tentative sells, applies the events that derive from it and decides. The end of a run calls
the manager and applies what it returns. Invariants of the pipeline are proved for these
steps, one case for each. -/

namespace PumpLaunchTrader

namespace Pipeline

variable [IterationOrder]

/-- Steps of a pipeline, with the events that they apply. -/
inductive Steps : Pipeline → List NormalizedEvent → Pipeline → Prop where
  | done (p) : Steps p [] p
  | apply {p events q} (event : NormalizedEvent) :
      Steps (p.applyEvent event) events q → Steps p (event :: events) q
  | call {p events q} (c : ManagerCall) :
      Steps { p with tentativeSellManager := (p.tentativeSellManager.call c).1 } events q →
      Steps p events q
  | decide {p events q} (event tentative mint token features risk) :
      Steps (p.decideAndExecute event tentative mint token features risk) events q →
      Steps p events q

namespace Steps

theorem trans {p q r : Pipeline} {events more : List NormalizedEvent} (h : Steps p events q)
    (hmore : Steps q more r) : Steps p (events ++ more) r := by
  induction h with
  | done p => exact hmore
  | apply event _ ih => exact .apply event (ih hmore)
  | call c _ ih => exact .call c (ih hmore)
  | decide event tentative mint token features risk _ ih =>
      exact .decide event tentative mint token features risk (ih hmore)

/-- What every kind of step keeps holds after any steps, when the events that they apply are
of a kind that keeps it. -/
theorem invariant_of_forall {I : Pipeline → Prop} {K : NormalizedEvent → Prop}
    (happly : ∀ p event, K event → I p → I (p.applyEvent event))
    (hcall : ∀ (p : Pipeline) c, I p →
      I { p with tentativeSellManager := (p.tentativeSellManager.call c).1 })
    (hdecide : ∀ p event tentative mint token features risk, I p →
      I (p.decideAndExecute event tentative mint token features risk))
    {p q : Pipeline} {events : List NormalizedEvent} (h : Steps p events q)
    (hkind : ∀ event ∈ events, K event) (hp : I p) : I q := by
  induction h with
  | done p => exact hp
  | apply event _ ih =>
      rw [List.forall_mem_cons] at hkind
      exact ih hkind.2 (happly _ event hkind.1 hp)
  | call c _ ih => exact ih hkind (hcall _ c hp)
  | decide event tentative mint token features risk _ ih =>
      exact ih hkind (hdecide _ event tentative mint token features risk hp)

/-- What every kind of step keeps holds after any steps. -/
theorem invariant {I : Pipeline → Prop}
    (happly : ∀ p event, I p → I (p.applyEvent event))
    (hcall : ∀ (p : Pipeline) c, I p →
      I { p with tentativeSellManager := (p.tentativeSellManager.call c).1 })
    (hdecide : ∀ p event tentative mint token features risk, I p →
      I (p.decideAndExecute event tentative mint token features risk))
    {p q : Pipeline} {events : List NormalizedEvent} (h : Steps p events q) (hp : I p) :
    I q :=
  h.invariant_of_forall (fun p event (_ : True) => happly p event) hcall hdecide
    (fun _ _ => trivial) hp

end Steps

/-! ## Handling an event -/

theorem steps_applyDerived (p : Pipeline) (events : List NormalizedEvent) :
    Steps p events (p.applyDerived events) := by
  induction events generalizing p with
  | nil => exact .done p
  | cons event events ih => exact .apply event (ih (p.applyEvent event))

section handling

variable (p : Pipeline) (ambient : Ambient) (event : NormalizedEvent) (tentative : Bool)
  (mint : PubkeyValue) (token : TokenState)

theorem steps_sellSignals (features : FeatureSnapshot) (risk : RiskAssessment) :
    Steps p [] { p with
      tentativeSellManager :=
        (p.sellSignals event tentative mint token features risk).1 } := by
  unfold sellSignals
  cases tentative with
  | true =>
      simp only [if_true]
      split
      · exact .call (.detect event token features risk (p.paperExecutor.positionContext mint.text))
          (.done _)
      · exact .done p
  | false => exact .call (.reconcile event (p.stateEngine.token mint)) (.done _)

theorem steps_expireSells (now : OffsetDateTime) :
    Steps p [] { p with tentativeSellManager := (p.expireSells ambient now).1 } := by
  unfold expireSells
  split
  · exact .call (.expire (fun i => ambient.freshEventId (i + 1)) now p.stateEngine.tokens)
      (.done _)
  · exact .done p

theorem steps_settleSells (features : FeatureSnapshot) (risk : RiskAssessment) :
    Steps p (p.settleSells ambient event tentative mint token features risk).2
      (p.settleSells ambient event tentative mint token features risk).1 := by
  unfold settleSells
  exact ((p.steps_sellSignals event tentative mint token features risk).trans
    (steps_applyDerived _ _)).trans ((steps_expireSells _ ambient _).trans
      (steps_applyDerived _ _))

theorem steps_concludeEvent (features : FeatureSnapshot) (risk : RiskAssessment) :
    Steps p (p.concludeEvent ambient event tentative mint token features risk).2
      (p.concludeEvent ambient event tentative mint token features risk).1 := by
  unfold concludeEvent
  cases (if tentative then none else riskTerminalVariant risk.discardPolicy) with
  | none => exact .decide event tentative mint token features risk (.done _)
  | some variant =>
      simp only
      split
      · exact .apply _ (.done _)
      · exact .apply _ (.decide event tentative mint _ features risk (.done _))

theorem steps_assessEvent :
    Steps p (p.assessEvent ambient event tentative mint token).2
      (p.assessEvent ambient event tentative mint token).1 := by
  have hsettled := p.steps_settleSells ambient event tentative mint token
    (p.resolved.featureEngine token p.stateEngine event.info.receivedAtWallTime)
    (p.resolved.riskEngine token
      (p.resolved.featureEngine token p.stateEngine event.info.receivedAtWallTime)
      event.info.receivedAtWallTime)
  unfold assessEvent
  simp only
  split
  · next hempty =>
      rw [List.isEmpty_iff] at hempty
      rw [hempty] at hsettled
      exact hsettled.trans (steps_concludeEvent _ _ _ _ _ _ _ _)
  · split
    · exact hsettled
    · exact hsettled.trans (steps_concludeEvent _ _ _ _ _ _ _ _)

/-- Handling an event applies it and takes such steps with the events that it generates. -/
theorem handleEvent_steps :
    ∃ generated, (p.handleEvent ambient event tentative).2 = event :: generated ∧
      Generated generated ∧
      Steps (p.applyEvent event) generated (p.handleEvent ambient event tentative).1 := by
  unfold handleEvent
  simp only
  split
  · exact ⟨[], rfl, generated_nil, .done _⟩
  · split
    · exact ⟨[], rfl, generated_nil, .done _⟩
    · split
      · exact ⟨[], rfl, generated_nil, .done _⟩
      · exact ⟨_, rfl, generated_assessEvent _ _ _ _ _ _, steps_assessEvent _ _ _ _ _ _⟩

theorem steps_handleEvent :
    Steps p (p.handleEvent ambient event tentative).2
      (p.handleEvent ambient event tentative).1 := by
  obtain ⟨generated, hevents, -, hsteps⟩ := p.handleEvent_steps ambient event tentative
  rw [hevents]
  exact .apply event hsteps

end handling

theorem steps_finalize (p : Pipeline) (ambient : Ambient) (unixNow : OffsetDateTime) :
    Steps p (p.finalize ambient unixNow).2 (p.finalize ambient unixNow).1 :=
  .call (.expire (fun i => ambient.freshEventId (i + 1)) (p.expireAt unixNow)
    p.stateEngine.tokens) (steps_applyDerived _ _)

/-- The steps of a sequence of handled events, with the journal as their events. -/
theorem steps_run (p : Pipeline) (inputs : List (Ambient × NormalizedEvent)) :
    Steps p (journaled.journal p inputs) (journaled.run p inputs) := by
  induction inputs generalizing p with
  | nil => exact .done p
  | cons input inputs ih => exact (p.steps_handleEvent input.1 input.2 _).trans (ih _)

end Pipeline

end PumpLaunchTrader
