import PumpLaunchTrader.Engine.GapMarks
import PumpLaunchTrader.Lib.Runs
import PumpLaunchTrader.Supervisor.Gaps

/-! # Two views of the data gaps of a token

The state marks a token at every gap event that names it and never takes the marks off. The
supervisor opens and closes gaps of the token. A run keeps the two views together exactly when
each gap event of the token opens a gap of it or leaves one open. -/

namespace PumpLaunchTrader

namespace ScopedDataGap

/-- An active gap of a token. -/
def isTokenGap (self : ScopedDataGap) (mint : String) : Bool :=
  self.active ∧ self.scope = .token ∧ self.affectedToken = some mint

end ScopedDataGap

namespace DataGapEvent

theorem mem_targets_of_names {payload : DataGapEvent} {mint : String}
    (h : payload.names mint = true) (scenarioId : Option String) :
    (DataGapScope.token, some mint) ∈ payload.targets scenarioId := by
  obtain ⟨token, hmem, htext⟩ := List.any_eq_true.mp h
  unfold targets
  rw [if_pos (List.ne_nil_of_mem hmem), List.mem_map]
  exact ⟨token, hmem, by rw [of_decide_eq_true htext]⟩

theorem names_of_mem_targets {payload : DataGapEvent} {mint : String}
    {scenarioId : Option String}
    (h : (DataGapScope.token, some mint) ∈ payload.targets scenarioId) :
    payload.names mint = true := by
  unfold targets at h
  split at h
  · obtain ⟨token, hmem, htarget⟩ := List.mem_map.mp h
    cases htarget
    exact List.any_eq_true.mpr ⟨token, hmem, by simp⟩
  · simp at h

end DataGapEvent

namespace Pipeline

/-- The supervisor holds an active gap of a token. -/
def tokenGapOpen (self : Pipeline) (mint : String) : Bool :=
  self.activeDataGaps.any (·.isTokenGap mint)

/-- A gap event of a token opens a gap of it, or leaves one open. -/
def leavesTokenGap (self : Pipeline) (payload : DataGapEvent) (mint : String) : Bool :=
  !payload.isRecovery ||
    self.activeDataGaps.any fun gap => gap.isTokenGap mint && !self.closesGap payload gap

/-- A gap event of a token leaves it a gap exactly when it opens or keeps one. -/
theorem tokenGapOpen_of_names (p : Pipeline) {payload : DataGapEvent} {mint : String}
    (h : payload.names mint = true) :
    (p.updateDataGapState payload).tokenGapOpen mint = p.leavesTokenGap payload mint := by
  have hopened : (p.opensGaps payload).any (·.isTokenGap mint) = !payload.isRecovery := by
    unfold opensGaps
    cases hrecovery : payload.isRecovery with
    | true => simp
    | false =>
        simp only [Bool.false_eq_true, if_false, List.any_map, Bool.not_false, List.any_eq_true]
        exact ⟨_, DataGapEvent.mem_targets_of_names h p.currentScenarioId, by
          simp [ScopedDataGap.isTokenGap, DataGapEvent.gapOn, hrecovery]⟩
  unfold tokenGapOpen leavesTokenGap
  rw [activeDataGaps_updateDataGapState, OpenEntries.any_record, hopened]

/-- A gap event that does not name a token neither opens nor closes gaps of it. -/
theorem tokenGapOpen_of_not_names (p : Pipeline) {payload : DataGapEvent} {mint : String}
    (h : payload.names mint = false) :
    (p.updateDataGapState payload).tokenGapOpen mint = p.tokenGapOpen mint := by
  have hother : ∀ target ∈ payload.targets p.currentScenarioId,
      target ≠ (.token, some mint) := by
    rintro target htarget rfl
    rw [DataGapEvent.names_of_mem_targets htarget] at h
    cases h
  unfold tokenGapOpen
  rw [activeDataGaps_updateDataGapState, OpenEntries.any_record]
  have hopened : (p.opensGaps payload).any (·.isTokenGap mint) = false := by
    rw [List.any_eq_false]
    intro gap hgap htoken
    obtain ⟨-, target, htarget, rfl⟩ := mem_opensGaps.mp hgap
    simp only [ScopedDataGap.isTokenGap, decide_eq_true_eq] at htoken
    exact hother target htarget (Prod.ext htoken.2.1 htoken.2.2)
  have hkept : ∀ gap : ScopedDataGap, gap.isTokenGap mint = true →
      p.closesGap payload gap = false := by
    intro gap htoken
    simp only [ScopedDataGap.isTokenGap, decide_eq_true_eq] at htoken
    rw [← Bool.not_eq_true]
    intro hcloses
    unfold closesGap at hcloses
    rw [Bool.and_eq_true, List.any_eq_true] at hcloses
    obtain ⟨-, target, htarget, hcloses⟩ := hcloses
    simp only [ScopedDataGap.closes, decide_eq_true_eq] at hcloses
    exact hother target htarget
      (Prod.ext (hcloses.1.symm.trans htoken.2.1) (hcloses.2.2.1.symm.trans htoken.2.2))
  rw [hopened, Bool.false_or]
  congr 1
  funext gap
  cases htoken : gap.isTokenGap mint with
  | false => simp
  | true => simp [hkept gap htoken]

/-! ## Agreement -/

/-- The state and the supervisor agree on whether a tracked token is in a data gap. -/
def AgreesOnGap (p : Pipeline) (mint : String) : Prop :=
  ∀ token, p.stateEngine.tokens.lookup mint = some token →
    (token.lifecycle = .dataGap ↔ p.tokenGapOpen mint = true) ∧
      ("data_gap" ∈ token.dataQualityFlags ↔ p.tokenGapOpen mint = true)

/-- The marks of the state follow the gaps of the supervisor. -/
def MarksFollowGaps (p : Pipeline) (mint : String) : Prop :=
  p.stateEngine.gapMarks mint = (p.tokenGapOpen mint, p.tokenGapOpen mint)

/-- The supervisor holds gaps of tracked tokens only. -/
def GapsAreTracked (p : Pipeline) (mint : String) : Prop :=
  p.stateEngine.tokens.lookup mint = none → p.tokenGapOpen mint = false

theorem marksFollowGaps_iff (p : Pipeline) (mint : String) :
    p.MarksFollowGaps mint ↔ p.AgreesOnGap mint ∧ p.GapsAreTracked mint := by
  unfold MarksFollowGaps AgreesOnGap GapsAreTracked
  cases hlookup : p.stateEngine.tokens.lookup mint with
  | none =>
      have hmarks : p.stateEngine.gapMarks mint = (false, false) := by
        simp [StateEngine.gapMarks, hlookup]
      rw [hmarks]
      cases p.tokenGapOpen mint <;> simp
  | some token =>
      rw [StateEngine.gapMarks_of_lookup hlookup]
      cases p.tokenGapOpen mint <;> simp [TokenState.gapMarks]

/-- What an event must do to keep the views together: a gap event of the token opens a gap of
it or leaves one open; a reverted one, which the state skips, changes nothing for the
supervisor. -/
def FollowsGap (p : Pipeline) (mint : String) (event : NormalizedEvent) : Prop :=
  ∀ payload, event.payload = .dataGap payload → payload.names mint = true →
    p.leavesTokenGap payload mint =
      if event.info.canonicality = .reverted then p.tokenGapOpen mint else true

/-- An event names a token in a gap only while the token is tracked. -/
def NamesTracked (p : Pipeline) (mint : String) (event : NormalizedEvent) : Prop :=
  ∀ payload, event.payload = .dataGap payload → payload.names mint = true →
    (p.stateEngine.tokens.lookup mint).isSome

/-- An event that is no gap and no terminal of the token changes neither view. -/
theorem marksFollowGaps_applyEvent_of_not_gap {p : Pipeline} {mint : String}
    {event : NormalizedEvent} (hgap : ∀ payload, event.payload ≠ .dataGap payload)
    (hterminal : event.terminates mint = false) :
    (p.applyEvent event).MarksFollowGaps mint ↔ p.MarksFollowGaps mint := by
  have hmarks := StateEngine.gapMarks_applyEvent_of_not_gap (s := p.stateEngine) hgap hterminal
  unfold MarksFollowGaps
  rw [applyEvent_of_not_gap hgap, hmarks]
  rfl

/-- The step of one event: the views stay together exactly when the event follows the gaps. -/
theorem marksFollowGaps_applyEvent_iff {p : Pipeline} {mint : String} {event : NormalizedEvent}
    (h : p.MarksFollowGaps mint) (hterminal : event.terminates mint = false)
    (hnames : p.NamesTracked mint event) :
    (p.applyEvent event).MarksFollowGaps mint ↔ p.FollowsGap mint event := by
  by_cases hgap : ∃ payload, event.payload = .dataGap payload
  · obtain ⟨payload, hpayload⟩ := hgap
    have hgaps : (p.applyEvent event).tokenGapOpen mint =
        (p.updateDataGapState payload).tokenGapOpen mint := by
      rw [applyEvent_of_gap hpayload]
      rfl
    have hfollows : p.FollowsGap mint event ↔ (payload.names mint = true →
        p.leavesTokenGap payload mint =
          if event.info.canonicality = .reverted then p.tokenGapOpen mint else true) := by
      unfold FollowsGap
      simp [hpayload]
    rw [hfollows]
    unfold MarksFollowGaps at h ⊢
    rw [hgaps, stateEngine_applyEvent]
    cases hnamed : payload.names mint with
    | false =>
        rw [p.tokenGapOpen_of_not_names hnamed]
        have hmarks : (p.stateEngine.applyEvent event).1.gapMarks mint =
            p.stateEngine.gapMarks mint := by
          by_cases hreverted : event.info.canonicality = .reverted
          · exact StateEngine.gapMarks_applyEvent_of_reverted hreverted mint
          · rw [StateEngine.gapMarks_applyEvent_of_gap hpayload hreverted (hnames payload hpayload),
              hnamed]
            rfl
        simp [hmarks, h]
    | true =>
        rw [p.tokenGapOpen_of_names hnamed]
        by_cases hreverted : event.info.canonicality = .reverted
        · rw [StateEngine.gapMarks_applyEvent_of_reverted hreverted, h, if_pos hreverted]
          simp only [forall_const, Prod.mk.injEq, and_self]
          exact eq_comm
        · rw [StateEngine.gapMarks_applyEvent_of_gap hpayload hreverted (hnames payload hpayload),
            hnamed, if_neg hreverted]
          simp only [if_true, forall_const, Prod.mk.injEq, and_self]
          exact eq_comm
  · rw [not_exists] at hgap
    rw [marksFollowGaps_applyEvent_of_not_gap hgap hterminal]
    exact ⟨fun _ payload hpayload => absurd hpayload (hgap payload), fun _ => h⟩

/-! ## Runs -/

/-- The generated events change neither view. -/
theorem marksFollowGaps_handleEvent {p : Pipeline} {mint : String} {ambient : Ambient}
    {event : NormalizedEvent} {tentative : Bool}
    (hterminal : ∀ applied ∈ (p.handleEvent ambient event tentative).2,
      applied.terminates mint = false) :
    (p.handleEvent ambient event tentative).1.MarksFollowGaps mint ↔
      (p.applyEvent event).MarksFollowGaps mint := by
  obtain ⟨generated, hevents, hgenerated, hsteps⟩ :=
    p.handleEvent_steps ambient event tentative
  rw [hevents, List.forall_mem_cons] at hterminal
  refine hsteps.invariant_of_forall
    (I := fun q => q.MarksFollowGaps mint ↔ (p.applyEvent event).MarksFollowGaps mint)
    (K := fun applied => applied.payload.isGenerated = true ∧
      applied.terminates mint = false) ?_ ?_ ?_ ?_ Iff.rfl
  · intro q applied hkind hq
    rw [marksFollowGaps_applyEvent_of_not_gap (not_gap_of_isGenerated hkind.1) hkind.2]
    exact hq
  · exact fun q c hq => hq
  · exact fun q event tentative mint token features risk hq => hq
  · exact fun applied happlied => ⟨hgenerated applied happlied, hterminal.2 applied happlied⟩

theorem isSome_lookup_handleEvent {p : Pipeline} {mint : String}
    (h : (p.stateEngine.tokens.lookup mint).isSome) (ambient : Ambient)
    (event : NormalizedEvent) (tentative : Bool) :
    ((p.handleEvent ambient event tentative).1.stateEngine.tokens.lookup mint).isSome := by
  refine (p.steps_handleEvent ambient event tentative).invariant
    (I := fun q => (q.stateEngine.tokens.lookup mint).isSome) ?_ ?_ ?_ h
  · intro q applied hq
    rw [stateEngine_applyEvent]
    exact StateEngine.isSome_lookup_applyEvent hq applied
  · exact fun q c hq => hq
  · exact fun q event tentative mint token features risk hq => hq

/-- The pipeline after an input. -/
def handle (p : Pipeline) (input : Ambient × NormalizedEvent) : Pipeline :=
  (p.handleEvent input.1 input.2 (input.2.info.canonicality = .tentative)).1

/-- A step that applies no terminal of a token and names it in a gap only while it is
tracked. -/
def TracksToken (p : Pipeline) (mint : String) (input : Ambient × NormalizedEvent) : Prop :=
  (∀ applied ∈ (p.handleEvent input.1 input.2 (input.2.info.canonicality = .tentative)).2,
    applied.terminates mint = false) ∧ p.NamesTracked mint input.2

theorem marksFollowGaps_handle_iff {p : Pipeline} {mint : String}
    {input : Ambient × NormalizedEvent} (h : p.MarksFollowGaps mint)
    (htracks : p.TracksToken mint input) :
    (p.handle input).MarksFollowGaps mint ↔ p.FollowsGap mint input.2 := by
  obtain ⟨hterminal, hnames⟩ := htracks
  obtain ⟨generated, hevents, -⟩ := p.handleEvent_generates input.1 input.2
    (input.2.info.canonicality = .tentative)
  have hfirst : input.2.terminates mint = false := by
    apply hterminal
    rw [hevents]
    exact List.mem_cons_self
  unfold handle
  rw [marksFollowGaps_handleEvent hterminal]
  exact marksFollowGaps_applyEvent_iff h hfirst hnames

/-- Gaps are opened for tracked tokens only. -/
theorem gapsAreTracked_handle {p : Pipeline} {mint : String}
    {input : Ambient × NormalizedEvent} (h : p.GapsAreTracked mint)
    (htracks : p.TracksToken mint input) : (p.handle input).GapsAreTracked mint := by
  intro hnone
  have habsent : p.stateEngine.tokens.lookup mint = none := by
    rw [← Option.not_isSome_iff_eq_none]
    intro hsome
    have hstays := isSome_lookup_handleEvent hsome input.1 input.2
      (input.2.info.canonicality = .tentative)
    rw [← Option.not_isSome_iff_eq_none] at hnone
    exact hnone hstays
  have hagrees : p.AgreesOnGap mint := by
    intro token hlookup
    rw [habsent] at hlookup
    cases hlookup
  -- The event names no token that is not there, so both views stay as they are.
  have hfollows : p.FollowsGap mint input.2 := by
    intro payload hpayload hnamed
    have hsome := htracks.2 payload hpayload hnamed
    rw [habsent] at hsome
    cases hsome
  have hnext := (marksFollowGaps_handle_iff
    ((p.marksFollowGaps_iff mint).mpr ⟨hagrees, h⟩) htracks).mpr hfollows
  exact (((p.handle input).marksFollowGaps_iff mint).mp hnext).2 hnone

theorem marksFollowGaps_fresh (config : RuntimeResolvedConfig) (scenarioId : Option String)
    (mint : String) : (Supervisor.freshPipeline config scenarioId).MarksFollowGaps mint := rfl

/-- In a run of a fresh supervisor without terminals of a token, whose gap events name the
token only while it is tracked, the state and the supervisor agree on the gaps of the token in
every state exactly when every event follows them. -/
theorem dataGaps_agree_iff (config : RuntimeResolvedConfig) (scenarioId : Option String)
    (mint : String) (inputs : List (Ambient × NormalizedEvent))
    (htracks : Runs.Along handle (fun p input => p.TracksToken mint input)
      (Supervisor.freshPipeline config scenarioId) inputs) :
    (∀ before after, inputs = before ++ after →
        (before.foldl handle (Supervisor.freshPipeline config scenarioId)).AgreesOnGap mint) ↔
      Runs.Along handle (fun p input => p.FollowsGap mint input.2)
        (Supervisor.freshPipeline config scenarioId) inputs := by
  obtain ⟨hagrees, htracked⟩ :=
    (marksFollowGaps_iff _ mint).mp (marksFollowGaps_fresh config scenarioId mint)
  have hstep : ∀ (p : Pipeline) (input : Ambient × NormalizedEvent), p.GapsAreTracked mint →
      p.AgreesOnGap mint → p.TracksToken mint input →
        ((p.handle input).AgreesOnGap mint ↔ p.FollowsGap mint input.2) := by
    intro p input hgaps hagrees htracks
    have hfollows := (p.marksFollowGaps_iff mint).mpr ⟨hagrees, hgaps⟩
    rw [← marksFollowGaps_handle_iff hfollows htracks, marksFollowGaps_iff]
    exact (and_iff_left (gapsAreTracked_handle hgaps htracks)).symm
  exact Runs.forall_reached_iff_along_of_kept (J := fun p : Pipeline => p.GapsAreTracked mint)
    (fun p input => gapsAreTracked_handle) hstep htracked hagrees htracks

/-! ## Concrete runs -/

/-- A gap event of the token `mint`. -/
def sampleTokenGap (tradeAllowed : Bool) (action : String) : NormalizedEvent :=
  { sampleCreation with
    payload := .dataGap
      { gapType := .slotGap
        source := .geyserProcessed
        startSlot := 2
        endSlot := some 2
        affectedTokens := [⟨"mint"⟩]
        severity := .high
        tradeAllowed := tradeAllowed
        recoveryAction := action } }

/-- A token that is created and falls into a gap. -/
def pausedToken : List (Ambient × NormalizedEvent) :=
  [(Supervisor.sampleAmbient, sampleCreation),
    (Supervisor.sampleAmbient, sampleTokenGap false "pause")]

/-- A token that is created and named in a recovery. -/
def recoveredToken : List (Ambient × NormalizedEvent) :=
  [(Supervisor.sampleAmbient, sampleCreation),
    (Supervisor.sampleAmbient, sampleTokenGap true "recover_stream_resumed")]

theorem tracksToken_pausedToken :
    Runs.Along handle (fun p input => p.TracksToken "mint" input)
      (Supervisor.freshPipeline sampleConfig none) pausedToken := by
  refine ⟨⟨by decide +kernel, ?_⟩, ⟨by decide +kernel, ?_⟩, trivial⟩
  · intro payload hpayload
    cases hpayload
  · intro payload _ _
    decide +kernel

/-- The pause of a tracked token is seen alike by both. -/
theorem dataGaps_agree_iff_pausedToken :
    (pausedToken.foldl handle
      (Supervisor.freshPipeline sampleConfig none)).AgreesOnGap "mint" := by
  refine (dataGaps_agree_iff sampleConfig none "mint" pausedToken
    tracksToken_pausedToken).mpr ⟨?_, ?_, trivial⟩ pausedToken [] rfl
  · intro payload hpayload
    cases hpayload
  · intro payload hpayload _
    cases hpayload
    decide +kernel

/-- A recovery moves the token that it names into a data gap, which the supervisor does not
hold. -/
theorem dataGaps_disagree :
    ¬ ∀ (config : RuntimeResolvedConfig) (scenarioId : Option String) (mint : String)
        (inputs : List (Ambient × NormalizedEvent)),
        Runs.Along handle (fun p input => p.TracksToken mint input)
          (Supervisor.freshPipeline config scenarioId) inputs →
        (inputs.foldl handle (Supervisor.freshPipeline config scenarioId)).AgreesOnGap mint := by
  intro h
  have hagrees := h sampleConfig none "mint" recoveredToken ⟨⟨by decide +kernel, ?_⟩,
    ⟨by decide +kernel, ?_⟩, trivial⟩
  · have hmarks : (recoveredToken.foldl handle
        (Supervisor.freshPipeline sampleConfig none)).stateEngine.gapMarks "mint" =
          (true, true) := by
      decide +kernel
    have hsome : ((recoveredToken.foldl handle
        (Supervisor.freshPipeline sampleConfig none)).stateEngine.tokens.lookup "mint").isSome := by
      decide +kernel
    have hclosed : (recoveredToken.foldl handle
        (Supervisor.freshPipeline sampleConfig none)).tokenGapOpen "mint" = false := by
      decide +kernel
    obtain ⟨token, hlookup⟩ := Option.isSome_iff_exists.mp hsome
    rw [StateEngine.gapMarks_of_lookup hlookup] at hmarks
    have hopen := (hagrees token hlookup).1.mp (of_decide_eq_true (Prod.ext_iff.mp hmarks).1)
    rw [hclosed] at hopen
    cases hopen
  · intro payload hpayload
    cases hpayload
  · intro payload _ _
    decide +kernel

end Pipeline

end PumpLaunchTrader
