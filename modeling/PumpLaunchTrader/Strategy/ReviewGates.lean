import PumpLaunchTrader.Model.EarlyBurstInOutV1

/-! # The gates of the two early-burst reviews

Version 1 reads what version 0 has written. It stops at an audit-only or rejected prefilter and
at a missing promotion, but not at a censored prefilter or at a horizon that was not reached. -/

namespace PumpLaunchTrader.StrategyPipeline

open DualStrategyTracks EarlyBurstInOutV1

/-! ## What version 0 writes -/

@[simp] theorem boolish_boolText (value : Bool) : boolish (some (boolText value)) = value := by
  cases value <;> decide

theorem isPresent_binPositive (value : Option Float) (medium high : Float) :
    EarlyBurstInOutV1.Bin.isPresent (binPositive value medium high) = true ↔
      binPositive value medium high ≠ .missing := by
  cases value with
  | none => simp [binPositive, EarlyBurstInOutV1.Bin.isPresent]
  | some value =>
      simp only [binPositive]
      split_ifs <;> decide

/-- A gate that decides otherwise is open where the decision is made. -/
theorem ite_fst_eq_iff {c : Prop} [Decidable c] {stopped passed : Decision × List String}
    {decision : Decision} (h : stopped.1 ≠ decision) :
    (if c then stopped else passed).1 = decision ↔ ¬ c ∧ passed.1 = decision := by
  by_cases hc : c <;> simp [hc, h]

section Version0

variable {row : Row} {ctx : Context}

theorem scoreEarlyBurstInOut_eq_some {v0 : EarlyBurstRow}
    (h : scoreEarlyBurstInOut row ctx = some v0) :
    ∃ horizon, intish (row.text "horizon_seconds") = some horizon ∧
      v0.decision = (earlyDecision row ctx horizon).1 ∧
      v0.topBlocker = ((earlyReasons row ctx horizon).find? fun reason =>
        reason ≠ "no_obvious_dead_launch_risk_by_fixed_bins").getD "" := by
  obtain ⟨horizon, hhorizon, h⟩ := Option.bind_eq_some_iff.mp h
  cases h
  exact ⟨horizon, hhorizon, rfl, rfl⟩

/-- The columns that version 1 reads beside the decision and its reasons. -/
theorem scoreEarlyBurstInOut_columns {v0 : EarlyBurstRow}
    (h : scoreEarlyBurstInOut row ctx = some v0) :
    v0.deadLaunchAvoiderPrefilter = (deadLaunchPrefilter row).1 ∧
    v0.v1PromotedOrWouldPromote = boolText (v1WouldPromote row ctx) ∧
    v0.exitWindowObservedOrMeasurable = boolText (DualStrategyTracks.exitObserved row ctx) ∧
    v0.finalOutcome = (labelContext row ctx).finalOutcome ∧
    v0.censoredLabel = boolText (labelContext row ctx).censoredLabel ∧
    v0.candidateCheckpointSeen = boolText (labelContext row ctx).candidateCheckpointSeen ∧
    v0.curveProgressBin = curveProgressBin row ∧ v0.buySellFollowthroughBin = buySellBin row ∧
    v0.volumeFollowthroughBin = volumeBin row := by
  obtain ⟨horizon, -, h⟩ := Option.bind_eq_some_iff.mp h
  cases h
  exact ⟨rfl, rfl, rfl, rfl, rfl, rfl, rfl, rfl, rfl⟩

/-- What the prefilter says, with its reasons where it is not for audit only. -/
theorem deadLaunchPrefilter_cases (row : Row) :
    (deadLaunchPrefilter row).1 = .auditOnly ∨
    deadLaunchPrefilter row = (.censored, ["terminal_inconclusive_censored"]) ∨
    (∃ reason, deadLaunchPrefilter row = (.reject, ["dead_launch_avoider_reject", reason])) ∨
    deadLaunchPrefilter row =
      (.continueObservation, ["no_obvious_dead_launch_risk_by_fixed_bins"]) := by
  unfold deadLaunchPrefilter
  split_ifs <;> simp

/-- A decision that is not for audit only, with a reason that is not either. -/
def NamesReason (scored : Decision × List String) : Prop :=
  scored.1 ≠ .auditOnly ∧ ∃ reason rest, scored.2 = reason :: rest ∧
    reason ≠ "no_obvious_dead_launch_risk_by_fixed_bins" ∧
    reason ≠ "data_quality_excluded" ∧ reason ≠ "degraded_audit_only"

/-- After a prefilter that lets a row pass, the cascade names a reason of its own. -/
theorem namesReason_of_continue (ctx : Context) (horizon : ℤ)
    (h : (deadLaunchPrefilter row).1 = .continueObservation) :
    NamesReason (earlyDecision row ctx horizon) := by
  unfold earlyDecision
  rw [h]
  repeat' refine iteInduction (motive := NamesReason) (fun _ => ?_) fun _ => ?_
  all_goals exact ⟨by simp, _, _, rfl, by decide, by decide, by decide⟩

theorem earlyDecision_eq_auditOnly_iff (ctx : Context) (horizon : ℤ) :
    (earlyDecision row ctx horizon).1 = .auditOnly ↔ (deadLaunchPrefilter row).1 = .auditOnly := by
  cases h : (deadLaunchPrefilter row).1 with
  | continueObservation => simpa using (namesReason_of_continue ctx horizon h).1
  | _ => simp [earlyDecision, h]

/-- Version 1 takes a row for audit only where the prefilter does. -/
theorem auditOnly_iff {v0 : EarlyBurstRow} (h : scoreEarlyBurstInOut row ctx = some v0) :
    (v0.decision = .auditOnly ∨ v0.topBlocker = "data_quality_excluded" ∨
      v0.topBlocker = "degraded_audit_only") ↔ (deadLaunchPrefilter row).1 = .auditOnly := by
  obtain ⟨horizon, -, hdecision, hblocker⟩ := scoreEarlyBurstInOut_eq_some h
  rw [hdecision, earlyDecision_eq_auditOnly_iff]
  refine ⟨fun h => ?_, Or.inl⟩
  by_contra hprefilter
  have hother : v0.topBlocker ≠ "data_quality_excluded" ∧
      v0.topBlocker ≠ "degraded_audit_only" := by
    rw [hblocker, earlyReasons]
    rcases deadLaunchPrefilter_cases row with hcase | hcase | ⟨reason, hcase⟩ | hcase
    · exact absurd hcase hprefilter
    · simp [hcase]
    · simp [hcase]
    · obtain ⟨-, reason, rest, hadded, hother⟩ :=
        namesReason_of_continue ctx horizon (by rw [hcase])
      simp [hcase, hadded, hother]
  tauto

end Version0

section Version1

variable {v0 : EarlyBurstRow} {positiveRow exitRow : Row}

/-- Version 1 reviews a row that passes each of its gates. -/
theorem v1_review_iff :
    (scoreEarlyBurstInOutV1 v0 positiveRow exitRow).decision = .earlyBurstCandidateReview ↔
      ¬ (boolish (some v0.censoredLabel) = true ∨ v0.finalOutcome = "terminal_inconclusive") ∧
      ¬ (v0.decision = .auditOnly ∨ v0.topBlocker = "data_quality_excluded" ∨
        v0.topBlocker = "degraded_audit_only") ∧
      ¬ boolish (some v0.candidateCheckpointSeen) = true ∧
      ¬ v0.deadLaunchAvoiderPrefilter = .reject ∧
      boolish (some v0.v1PromotedOrWouldPromote) = true ∧
      EarlyBurstInOutV1.exitObserved v0 positiveRow exitRow = true ∧
      ¬ evidencePresent v0 = [] := by
  have hdecision : (scoreEarlyBurstInOutV1 v0 positiveRow exitRow).decision =
      (v1Decision v0 positiveRow exitRow).1 := by
    dsimp only [scoreEarlyBurstInOutV1]
  rw [hdecision, v1Decision, ite_fst_eq_iff (by simp), ite_fst_eq_iff (by simp),
    ite_fst_eq_iff (by simp), ite_fst_eq_iff (by simp), ite_fst_eq_iff (by simp),
    ite_fst_eq_iff (by simp), ite_fst_eq_iff (by simp)]
  simp

end Version1

/-! ## The gates -/

section Gates

variable {row : Row} {ctx : Context} {positiveRow exitRow : Row} {v0 : EarlyBurstRow}

/-- The labels of a row do not exclude it. -/
def LabelAdmits (label : LabelContext) : Prop :=
  label.censoredLabel = false ∧ label.finalOutcome ≠ "terminal_inconclusive" ∧
    label.candidateCheckpointSeen = false

/-- A window to leave was observed, in one of the tables. -/
def ExitKnown (row : Row) (ctx : Context) (positiveRow exitRow : Row) : Prop :=
  DualStrategyTracks.exitObserved row ctx = true ∨
    boolish (positiveRow.lookup "forward_window_observed") = true ∨
    boolish (exitRow.lookup "forward_window_observed") = true

/-- One family of features follows through. -/
def HasEvidence (row : Row) : Prop :=
  curveProgressBin row ≠ .missing ∨ buySellBin row ≠ .missing ∨ volumeBin row ≠ .missing

theorem evidencePresent_eq_nil_iff (h : scoreEarlyBurstInOut row ctx = some v0) :
    ¬ evidencePresent v0 = [] ↔ HasEvidence row := by
  obtain ⟨-, -, -, -, -, -, hcurve, hbuySell, hvolume⟩ := scoreEarlyBurstInOut_columns h
  have hpresent : ∀ bin : Bin, ∀ reason : String,
      (if EarlyBurstInOutV1.Bin.isPresent bin = true then [reason] else []) = [] ↔
        ¬ EarlyBurstInOutV1.Bin.isPresent bin = true := by
    intro bin reason
    by_cases hbin : EarlyBurstInOutV1.Bin.isPresent bin = true <;> simp [hbin]
  rw [evidencePresent, List.append_eq_nil_iff, List.append_eq_nil_iff, hpresent, hpresent,
    hpresent, hcurve, hbuySell, hvolume, curveProgressBin, buySellBin, volumeBin,
    isPresent_binPositive, isPresent_binPositive, isPresent_binPositive]
  unfold HasEvidence curveProgressBin buySellBin volumeBin
  tauto

/-- Version 1's review of what version 0 has written, by the row and its tables. -/
theorem v1_review_of_v0_iff (h : scoreEarlyBurstInOut row ctx = some v0) :
    (scoreEarlyBurstInOutV1 v0 positiveRow exitRow).decision = .earlyBurstCandidateReview ↔
      LabelAdmits (labelContext row ctx) ∧ (deadLaunchPrefilter row).1 ≠ .auditOnly ∧
      (deadLaunchPrefilter row).1 ≠ .reject ∧ v1WouldPromote row ctx = true ∧
      ExitKnown row ctx positiveRow exitRow ∧ HasEvidence row := by
  obtain ⟨hprefilter, hpromoted, hexit, hfinal, hcensored, hcheckpoint, -⟩ :=
    scoreEarlyBurstInOut_columns h
  have hknown : EarlyBurstInOutV1.exitObserved v0 positiveRow exitRow = true ↔
      ExitKnown row ctx positiveRow exitRow := by
    simp only [EarlyBurstInOutV1.exitObserved, hexit, boolish_boolText, Bool.or_eq_true, or_assoc,
      ExitKnown]
  rw [v1_review_iff, auditOnly_iff h, evidencePresent_eq_nil_iff h, hknown, hprefilter, hpromoted,
    hfinal, hcensored, hcheckpoint, boolish_boolText, boolish_boolText, boolish_boolText]
  simp only [LabelAdmits, not_or, Bool.not_eq_true]
  constructor
  · rintro ⟨⟨hcensored, hfinal⟩, haudit, hcheckpoint, hreject, hrest⟩
    exact ⟨⟨hcensored, hfinal, hcheckpoint⟩, haudit, hreject, hrest⟩
  · rintro ⟨⟨hcensored, hfinal, hcheckpoint⟩, haudit, hreject, hrest⟩
    exact ⟨⟨hcensored, hfinal⟩, haudit, hcheckpoint, hreject, hrest⟩

/-- What version 0 reviews has passed the gates that version 1 shares. -/
theorem of_v0_review (h : scoreEarlyBurstInOut row ctx = some v0)
    (hreview : v0.decision = .earlyBurstCandidateReview) :
    (deadLaunchPrefilter row).1 = .continueObservation ∧ v1WouldPromote row ctx = true ∧
      curveProgressBin row ≠ .missing ∧ DualStrategyTracks.exitObserved row ctx = true := by
  obtain ⟨horizon, -, hdecision, -⟩ := scoreEarlyBurstInOut_eq_some h
  rw [hdecision, earlyDecision] at hreview
  cases hprefilter : (deadLaunchPrefilter row).1 with
  | continueObservation =>
      simp only [hprefilter] at hreview
      repeat rw [ite_fst_eq_iff (by simp)] at hreview
      obtain ⟨-, hpromoted, hcurve, -, -, -, -, -, hexit, -⟩ := hreview
      simp only [Bool.not_eq_true', Bool.not_eq_false] at hpromoted hexit
      exact ⟨rfl, hpromoted, fun hmissing => hcurve (Or.inl hmissing), hexit⟩
  | auditOnly | censored | reject => simp [hprefilter] at hreview

/-- What version 1 reviews has passed the prefilter, reached its horizon and is promoted. -/
def ReviewedSafely (row : Row) (ctx : Context) (positiveRow exitRow : Row) : Prop :=
  ∀ v0, scoreEarlyBurstInOut row ctx = some v0 →
    (scoreEarlyBurstInOutV1 v0 positiveRow exitRow).decision = .earlyBurstCandidateReview →
    ((deadLaunchPrefilter row).1 ≠ .reject ∧ (deadLaunchPrefilter row).1 ≠ .censored ∧
      (deadLaunchPrefilter row).1 ≠ .auditOnly) ∧
    boolish (row.lookup "horizon_reached") = true ∧ v1WouldPromote row ctx = true

/-- What version 0 reviews and the labels admit, version 1 reviews. -/
def KeepsReviews (row : Row) (ctx : Context) (positiveRow exitRow : Row) : Prop :=
  ∀ v0, scoreEarlyBurstInOut row ctx = some v0 → v0.decision = .earlyBurstCandidateReview →
    LabelAdmits (labelContext row ctx) →
    (scoreEarlyBurstInOutV1 v0 positiveRow exitRow).decision = .earlyBurstCandidateReview

theorem keepsReviews : KeepsReviews row ctx positiveRow exitRow := by
  intro v0 h hreview hlabel
  obtain ⟨hprefilter, hpromoted, hcurve, hexit⟩ := of_v0_review h hreview
  rw [v1_review_of_v0_iff h]
  exact ⟨hlabel, by simp [hprefilter], by simp [hprefilter], hpromoted, Or.inl hexit,
    Or.inl hcurve⟩

/-- Another gate than the two that version 1 lacks stops a row: the score fails, or the
prefilter, the labels, the promotion, the window or the evidence does. -/
def StoppedElsewhere (row : Row) (ctx : Context) (positiveRow exitRow : Row) : Prop :=
  intish (row.text "horizon_seconds") = none ∨
  (deadLaunchPrefilter row).1 = .auditOnly ∨ (deadLaunchPrefilter row).1 = .reject ∨
  ¬ LabelAdmits (labelContext row ctx) ∨ v1WouldPromote row ctx = false ∨
  ¬ ExitKnown row ctx positiveRow exitRow ∨ ¬ HasEvidence row

theorem not_stoppedElsewhere_iff :
    ¬ StoppedElsewhere row ctx positiveRow exitRow ↔
      intish (row.text "horizon_seconds") ≠ none ∧
      (deadLaunchPrefilter row).1 ≠ .auditOnly ∧ (deadLaunchPrefilter row).1 ≠ .reject ∧
      LabelAdmits (labelContext row ctx) ∧ v1WouldPromote row ctx = true ∧
      ExitKnown row ctx positiveRow exitRow ∧ HasEvidence row := by
  simp only [StoppedElsewhere, not_or, not_not, Bool.not_eq_false, ne_eq]

theorem exists_scored {horizon : ℤ} (h : intish (row.text "horizon_seconds") = some horizon) :
    ∃ v0, scoreEarlyBurstInOut row ctx = some v0 :=
  ⟨_, by rw [scoreEarlyBurstInOut, h]; rfl⟩

/-- A row that nothing else stops must pass the two gates that version 1 lacks. -/
theorem gates_of_reviewedSafely (hsafe : ReviewedSafely row ctx positiveRow exitRow)
    (hstopped : ¬ StoppedElsewhere row ctx positiveRow exitRow) :
    (deadLaunchPrefilter row).1 ≠ .censored ∧ boolish (row.lookup "horizon_reached") = true := by
  obtain ⟨hhorizon, haudit, hreject, hlabel, hrest⟩ := not_stoppedElsewhere_iff.mp hstopped
  obtain ⟨horizon, hhorizon⟩ := Option.ne_none_iff_exists'.mp hhorizon
  obtain ⟨v0, h⟩ : ∃ v0, scoreEarlyBurstInOut row ctx = some v0 := exists_scored hhorizon
  have hreview := (v1_review_of_v0_iff h).mpr ⟨hlabel, haudit, hreject, hrest⟩
  obtain ⟨⟨-, hcensored, -⟩, hreached, -⟩ := hsafe v0 h hreview
  exact ⟨hcensored, hreached⟩

/-- Version 1 respects the gates of version 0 where the prefilter does not censor the row and
its horizon was reached, or where another gate stops it. -/
theorem v1_respects_v0_iff (row : Row) (ctx : Context) (positiveRow exitRow : Row) :
    (ReviewedSafely row ctx positiveRow exitRow ∧ KeepsReviews row ctx positiveRow exitRow) ↔
      ((deadLaunchPrefilter row).1 ≠ .censored ∧
        boolish (row.lookup "horizon_reached") = true) ∨
      StoppedElsewhere row ctx positiveRow exitRow := by
  rw [and_iff_left keepsReviews]
  constructor
  · intro hsafe
    by_cases hstopped : StoppedElsewhere row ctx positiveRow exitRow
    · exact Or.inr hstopped
    · exact Or.inl (gates_of_reviewedSafely hsafe hstopped)
  · rintro hgate v0 h hreview
    obtain ⟨horizon, hhorizon, -⟩ := scoreEarlyBurstInOut_eq_some h
    obtain ⟨hlabel, haudit, hreject, hpromoted, hrest⟩ := (v1_review_of_v0_iff h).mp hreview
    rcases hgate with ⟨hcensored, hreached⟩ | hstopped
    · exact ⟨⟨hreject, hcensored, haudit⟩, hreached, hpromoted⟩
    · exact absurd hstopped (not_stoppedElsewhere_iff.mpr
        ⟨by simp [hhorizon], haudit, hreject, hlabel, hpromoted, hrest⟩)

/-- A promoted row with curve progress at a horizon of a minute. -/
def promotedRow : Row :=
  (((∅ : Row).insert "horizon_seconds" "60").insert "promotion_priority_v1_would_promote"
    "true").insert "curve_progress_proxy_asof" "60"

/-- Version 1 reviews a promoted row that was terminal inconclusive before its horizon, and one
whose horizon was not reached. -/
theorem v1_reviews_censored :
    ¬ ReviewedSafely ((promotedRow.insert "horizon_reached" "true").insert
        "terminal_inconclusive_before_horizon" "true") ⟨∅, ∅, ∅, ∅, ∅⟩ ∅
      ((∅ : Row).insert "forward_window_observed" "true") ∧
    ¬ ReviewedSafely promotedRow ⟨∅, ∅, ∅, ∅, ∅⟩ ∅
      ((∅ : Row).insert "forward_window_observed" "true") := by
  constructor
  · intro hsafe
    refine (gates_of_reviewedSafely hsafe (not_stoppedElsewhere_iff.mpr ?_)).1 (by decide)
    exact ⟨by decide +kernel, by decide, by decide, ⟨by decide, by decide, by decide⟩, by decide,
      Or.inr (Or.inr (by decide)), Or.inl (by decide +kernel)⟩
  · intro hsafe
    refine absurd (gates_of_reviewedSafely hsafe (not_stoppedElsewhere_iff.mpr ?_)).2 (by decide)
    exact ⟨by decide +kernel, by decide, by decide, ⟨by decide, by decide, by decide⟩, by decide,
      Or.inr (Or.inr (by decide)), Or.inl (by decide +kernel)⟩

end Gates

end PumpLaunchTrader.StrategyPipeline
