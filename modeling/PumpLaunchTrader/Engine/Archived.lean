import PumpLaunchTrader.Engine.Clusters
import PumpLaunchTrader.Engine.GapMarks

/-! # Archived tokens

Activity does not move a token out of an archived lifecycle. A data gap does: it is applied
to every token that it names, whatever its lifecycle. -/

namespace PumpLaunchTrader

/-- A gap event that is applied and names a token. -/
def NormalizedEvent.gaps (event : NormalizedEvent) (mint : String) : Bool :=
  event.info.canonicality ≠ .reverted &&
    match event.payload with
    | .dataGap payload => payload.names mint
    | _ => false

namespace TokenState

theorem lifecycle_recomputeTransition {token : TokenState}
    (h : isArchived token.lifecycle = true) (event : NormalizedEvent) (ttl : TtlConfig) :
    (token.recomputeTransition event ttl).1.lifecycle = token.lifecycle := by
  unfold recomputeTransition
  simp only [h, if_true]
  rfl

end TokenState

namespace StateEngine

/-- The lifecycle of the token of `k`. -/
def lifecycleOf (s : StateEngine) (k : String) : Option TokenLifecycle :=
  (s.tokens.lookup k).map TokenState.lifecycle

/-- A payload that neither ends nor gaps a token leaves its lifecycle alone. -/
theorem lifecycleOf_applyPayload (s : StateEngine) {event : NormalizedEvent} {k : String}
    (hsome : (s.tokens.lookup k).isSome) (hreverted : event.info.canonicality ≠ .reverted)
    (hterminal : event.terminates k = false) (hgap : event.gaps k = false) :
    (s.applyPayload event).lifecycleOf k = s.lifecycleOf k := by
  unfold lifecycleOf
  cases hhandler : s.handler event with
  | some f =>
      obtain ⟨mint, -, htokens⟩ := tokens_applyPayload_of_handler hhandler
      rw [htokens, KeyedMap.lookup_upsert]
      by_cases hk : k = mint.text
      · subst hk
        obtain ⟨token, hlookup⟩ := Option.isSome_iff_exists.mp hsome
        rw [if_pos rfl, hlookup, Option.map_some, Option.getD_some, lifecycle_handler hhandler,
          Option.map_some]
      · rw [if_neg hk]
  | none =>
      rcases lookup_applyPayload_of_no_handler hhandler k with
        hsame | ⟨payload, hpayload, hmint, -⟩ | ⟨payload, -, hpayload, -⟩
      · rw [hsame]
      · simp [NormalizedEvent.terminates, hpayload, hmint] at hterminal
      · have hnames : payload.names k = false := by
          simpa [NormalizedEvent.gaps, hreverted, hpayload] using hgap
        have hcount : (payload.affectedTokens.map PubkeyValue.text).count k = 0 := by
          by_contra h
          rw [(names_iff_count payload k).mpr h] at hnames
          cases hnames
        rw [s.lookup_applyPayload_of_gap hpayload, hcount, Function.iterate_zero, Option.map_id]
        rfl

/-- Besides its terminals, only a gap that names an archived token moves it. -/
theorem lifecycleOf_applyEvent {s : StateEngine} {event : NormalizedEvent} {k : String}
    {archive : TokenLifecycle} (hs : s.lifecycleOf k = some archive)
    (harchived : TokenState.isArchived archive = true) (hterminal : event.terminates k = false) :
    (s.applyEvent event).1.lifecycleOf k =
      some (if event.gaps k then .dataGap else archive) := by
  have hsome : (s.tokens.lookup k).isSome := by
    rw [lifecycleOf] at hs
    rw [← Option.isSome_map (f := TokenState.lifecycle), hs]
    rfl
  by_cases hreverted : event.info.canonicality = .reverted
  · have hgap : event.gaps k = false := by simp [NormalizedEvent.gaps, hreverted]
    simpa [lifecycleOf, tokens_applyEvent_of_reverted hreverted, hgap] using hs
  cases hgap : event.gaps k with
  | true =>
      obtain ⟨payload, hpayload, hnames⟩ : ∃ payload, event.payload = .dataGap payload ∧
          payload.names k = true := by
        unfold NormalizedEvent.gaps at hgap
        cases hpayload : event.payload with
        | dataGap payload =>
            rw [hpayload] at hgap
            exact ⟨payload, rfl, (Bool.and_eq_true_iff.mp hgap).2⟩
        | _ => simp [hpayload] at hgap
      have hmarks := s.gapMarks_applyEvent_of_gap hpayload hreverted (k := k) fun _ => hsome
      obtain ⟨token, hlookup⟩ := Option.isSome_iff_exists.mp (isSome_lookup_applyEvent hsome event)
      rw [hnames, if_pos rfl, gapMarks_of_lookup hlookup] at hmarks
      have hlifecycle : token.lifecycle = .dataGap := by
        simpa [TokenState.gapMarks] using (Prod.ext_iff.mp hmarks).1
      rw [lifecycleOf, hlookup, Option.map_some, hlifecycle, if_pos rfl]
  | false =>
      have hpayload := s.lifecycleOf_applyPayload hsome hreverted hterminal hgap
      rw [hs, lifecycleOf, Option.map_eq_some_iff] at hpayload
      obtain ⟨handled, hhandled, hlifecycle⟩ := hpayload
      have hrefreshed : ((s.applyPayload event).derivedRefresh event k handled).lifecycle =
          archive := (lifecycle_derivedRefresh _ event k handled).trans hlifecycle
      unfold lifecycleOf applyEvent
      rw [if_neg hreverted, lookup_recomputeTransitions, lookup_refreshDerived, hhandled]
      simp only [Option.map_some]
      split
      · rw [Option.map_some, TokenState.lifecycle_recomputeTransition, hrefreshed]
        · rfl
        · rw [hrefreshed]
          exact harchived
      · rw [Option.map_some, hrefreshed]
        rfl

/-- Over events that are no terminals of it, an archived token keeps its lifecycle exactly
when no gap names it. -/
theorem archived_run_iff (s : StateEngine) {k : String} {token : TokenState}
    (hlookup : s.tokens.lookup k = some token)
    (harchived : TokenState.isArchived token.lifecycle = true) (events : List NormalizedEvent)
    (hterminal : ∀ event ∈ events, event.terminates k = false) :
    (∀ before after, events = before ++ after →
      (s.applyEvents before).lifecycleOf k = some token.lifecycle) ↔
        ∀ event ∈ events, event.gaps k = false := by
  have hstart : s.lifecycleOf k = some token.lifecycle := by
    rw [lifecycleOf, hlookup, Option.map_some]
  have hne : TokenLifecycle.dataGap ≠ token.lifecycle := by
    intro h
    rw [← h] at harchived
    cases harchived
  have hstep : ∀ (s : StateEngine) (event : NormalizedEvent),
      s.lifecycleOf k = some token.lifecycle → event.terminates k = false →
        ((s.applyEvent event).1.lifecycleOf k = some token.lifecycle ↔ event.gaps k = false) := by
    intro s event hs hevent
    rw [lifecycleOf_applyEvent hs harchived hevent]
    cases event.gaps k with
    | true => simpa using hne
    | false => simp
  have hinputs : Runs.Along (fun (s : StateEngine) event => (s.applyEvent event).1)
      (fun _ event => event.gaps k = false) s events ↔ ∀ event ∈ events, event.gaps k = false :=
    Runs.along_inputs_iff
  exact (Runs.forall_reached_iff_along hstep hstart (Runs.along_inputs_iff.mpr hterminal)).trans
    hinputs

/-! ### A gap of a rugged token -/

/-- The launch is archived as a rug. -/
def ruggedTerminal : NormalizedEvent :=
  { info :=
      { eventId := ⟨"terminal"⟩
        source := .geyserProcessed
        canonicality := .processed
        slot := 2 }
    payload := .tokenTerminal
      { mint := ⟨"mint"⟩
        variant := .rugged
        reasonCodes := [] } }

/-- A gap of the stream that names the launch. -/
def launchGap : NormalizedEvent :=
  { info :=
      { eventId := ⟨"gap"⟩
        source := .geyserProcessed
        canonicality := .processed
        slot := 3 }
    payload := .dataGap
      { gapType := .slotGap
        source := .geyserProcessed
        startSlot := 3
        endSlot := some 4
        affectedTokens := [⟨"mint"⟩]
        severity := .high
        tradeAllowed := false
        recoveryAction := "pause trading until gap is reconciled" } }

/-- A buy of an archived token leaves its lifecycle alone. -/
theorem archived_run_iff_payerBuy :
    ∃ token, ((new sampleTtl).applyEvents [sharedPayerCreation, ruggedTerminal]).tokens.lookup
        "mint" = some token ∧
      ∀ before after, [payerBuy] = before ++ after →
        (((new sampleTtl).applyEvents [sharedPayerCreation, ruggedTerminal]).applyEvents
          before).lifecycleOf "mint" = some token.lifecycle := by
  have hrugged : ((new sampleTtl).applyEvents [sharedPayerCreation, ruggedTerminal]).lifecycleOf
      "mint" = some .rugArchive := by decide +kernel
  obtain ⟨token, hlookup, hlifecycle⟩ := Option.map_eq_some_iff.mp hrugged
  refine ⟨token, hlookup, (archived_run_iff _ hlookup ?_ [payerBuy] ?_).mpr ?_⟩
  · rw [hlifecycle]
    rfl
  · decide
  · decide

/-- The rug archive is left for the lifecycle of data gaps. -/
theorem rugged_token_gapped :
    ¬ ∀ (ttl : TtlConfig) (events : List NormalizedEvent) (event : NormalizedEvent) (k : String)
        (archive : TokenLifecycle),
      ((new ttl).applyEvents events).lifecycleOf k = some archive →
        TokenState.isArchived archive = true → event.terminates k = false →
          (((new ttl).applyEvents events).applyEvent event).1.lifecycleOf k = some archive := by
  intro h
  have hkept := h sampleTtl [sharedPayerCreation, ruggedTerminal] launchGap "mint" .rugArchive
    (by decide +kernel) rfl rfl
  revert hkept
  decide +kernel

end StateEngine

end PumpLaunchTrader
