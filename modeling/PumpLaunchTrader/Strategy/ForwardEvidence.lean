import PumpLaunchTrader.Lib.Binary64
import PumpLaunchTrader.Lib.Lines
import PumpLaunchTrader.Model.EarlyBurstValidation
import PumpLaunchTrader.Model.PositiveOutcomes

/-! # What outcome labels rest on

The future rows of a decision start with the row of the decision itself. An outcome row may
claim a window, or a winner, without a later row, and a favourable peak may lie at the
decision. -/

namespace PumpLaunchTrader.StrategyPipeline

namespace PositiveOutcomes

/-! ## Future rows -/

/-- A later horizon was reached. -/
def LaterReached (byHorizon : KeyedMap ℤ Row) (decisionHorizon : ℤ) : Prop :=
  ∃ horizon ∈ horizons, decisionHorizon < horizon ∧ (reachedRow byHorizon horizon).isSome = true

/-- Every row names its horizon. -/
def NamesHorizons (byHorizon : KeyedMap ℤ Row) : Prop :=
  ∀ horizon row, byHorizon.lookup horizon = some row → horizonSeconds row = some horizon

theorem filter_horizons : ∀ h ∈ horizons,
    (horizons.filter fun horizon => h ≤ horizon) =
      h :: horizons.filter fun horizon => h < horizon := by
  decide

section Window

variable {label : Row} {byHorizon : KeyedMap ℤ Row} {decisionHorizon : ℤ}

theorem lookup_of_reachedRow {horizon : ℤ} {row : Row}
    (h : reachedRow byHorizon horizon = some row) :
    byHorizon.lookup horizon = some row ∧ flag (some row) "horizon_reached" = true := by
  simpa [reachedRow, Option.filter_eq_some_iff] using h

theorem flag_lookup_reached (byHorizon : KeyedMap ℤ Row) (horizon : ℤ) :
    flag (byHorizon.lookup horizon) "horizon_reached" =
      (reachedRow byHorizon horizon).isSome := by
  cases h : byHorizon.lookup horizon with
  | none => simp [reachedRow, flag, h]
  | some row =>
      cases hflag : flag (some row) "horizon_reached" <;>
        simp [reachedRow, h, hflag, Option.filter]

/-- Without a later horizon that was reached, the future is the decision's own row. -/
theorem futureRows_of_not_later (hmem : decisionHorizon ∈ horizons)
    (h : ¬ LaterReached byHorizon decisionHorizon) :
    futureRows byHorizon decisionHorizon = (reachedRow byHorizon decisionHorizon).toList := by
  have hlater : (horizons.filter fun horizon => decisionHorizon < horizon).filterMap
      (reachedRow byHorizon) = [] := by
    rw [List.filterMap_eq_nil_iff]
    intro horizon hhorizon
    obtain ⟨hhorizon, hlt⟩ := List.mem_filter.mp hhorizon
    by_contra hsome
    exact h ⟨horizon, hhorizon, of_decide_eq_true hlt, Option.isSome_iff_ne_none.mpr hsome⟩
  rw [futureRows, filter_horizons decisionHorizon hmem]
  cases hrow : reachedRow byHorizon decisionHorizon with
  | none => simp [hrow, hlater]
  | some row => simp [hrow, hlater]

theorem mem_futureRows {horizon : ℤ} {row : Row} (hmem : horizon ∈ horizons)
    (hle : decisionHorizon ≤ horizon) (hrow : reachedRow byHorizon horizon = some row) :
    row ∈ futureRows byHorizon decisionHorizon :=
  List.mem_filterMap.mpr ⟨horizon, List.mem_filter.mpr ⟨hmem, by simpa using hle⟩, hrow⟩

end Window

/-! ## Outcomes -/

def Outcome.IsWinner (outcome : Outcome) : Prop := outcome = .positive ∨ outcome = .highPositive

theorem isWinner_outcomeFor_iff {label : Row} {quality observed : Bool} {strength : Strength} :
    (outcomeFor label quality observed strength).1.IsWinner ↔
      quality = false ∧ isCensored label = false ∧
      (observed = true ∨ boolish (label.lookup "clean_negative_label") = true) ∧
      (strength = .high ∨ strength = .positive) := by
  simp only [outcomeFor]
  generalize boolish (label.lookup "clean_negative_label") = negative
  cases quality with
  | true => simp [Outcome.IsWinner]
  | false =>
      cases isCensored label with
      | true => simp [Outcome.IsWinner]
      | false =>
          cases hwindow : !observed && !negative with
          | true =>
              simp only [Bool.and_eq_true, Bool.not_eq_true'] at hwindow
              simp [Outcome.IsWinner, hwindow]
          | false =>
              simp only [Bool.and_eq_false_iff, Bool.not_eq_false'] at hwindow
              cases strength with
              | high => simp [Outcome.IsWinner, hwindow]
              | positive => simp [Outcome.IsWinner, hwindow]
              | nearPositive | low =>
                  simp only [Bool.false_eq_true, if_false, reduceCtorEq]
                  split <;> simp [Outcome.IsWinner]

theorem not_pos_forward_self (row : Option Row) (field : String) :
    ¬ 0 < forward row row field := Binary64.not_pos_sub_self _

/-- The curve progress of a row reaches the positive bin. -/
def CurveIsPositive (row : Option Row) : Prop :=
  ∃ value, num row "curve_progress_proxy_asof" = some value ∧ 35 ≤ value

/-- Measured from a row to itself, only the curve progress can make a winner. -/
theorem strength_of_start (start : Option Row) :
    ((proxiesOf start []).strength = .high ∨ (proxiesOf start []).strength = .positive) ↔
      CurveIsPositive start := by
  have hstop : endRow start [] = start := rfl
  have hzero := not_pos_forward_self start
  have hpositive : (proxiesOf start []).isPositive = true ↔ CurveIsPositive start := by
    simp only [Proxies.isPositive, Proxies.isHigh, proxiesOf, hstop, List.filterMap_nil,
      List.getLast?_nil, Option.none_or, hzero, CurveIsPositive]
    cases num start "curve_progress_proxy_asof" with
    | none => simp
    | some value =>
        have h75 : (75 : Float) ≤ value → 35 ≤ value := Binary64.le_trans (by decide)
        have h80 : (80 : Float) ≤ value → 35 ≤ value := Binary64.le_trans (by decide)
        have h45 : (45 : Float) ≤ value → 35 ≤ value := Binary64.le_trans (by decide)
        simp only [Option.any_some, decide_false, Bool.and_false, Bool.false_and, Bool.or_false,
          Bool.or_eq_true, decide_eq_true_eq, Option.some.injEq, exists_eq_left']
        constructor
        · rintro (((h | h) | h) | h)
          · exact h75 h
          · exact h80 h
          · exact h
          · exact h45 h
        · exact fun h => Or.inl (Or.inr h)
  rw [← hpositive]
  unfold Proxies.strength
  cases hhigh : (proxiesOf start []).isHigh with
  | true => simp [Proxies.isPositive, hhigh]
  | false =>
      cases (proxiesOf start []).isPositive with
      | true => simp
      | false =>
          simp only [Bool.false_eq_true, if_false]
          split <;> simp

/-! ## Outcome rows -/

section OutcomeRows

variable {label : Row} {byHorizon : KeyedMap ℤ Row} {decisionHorizon : ℤ}

/-- What an outcome row reports, where its horizons are numbers. -/
theorem outcomeRow_eq_some {result : OutcomeRow}
    (h : outcomeRow label byHorizon decisionHorizon = some result) :
    ∃ observed, (futureRows byHorizon decisionHorizon).mapM horizonSeconds = some observed ∧
      result.forwardWindowSeconds =
        max 0 (observed.max?.getD decisionHorizon - decisionHorizon) := by
  simp only [outcomeRow, labelFor, Option.bind_eq_bind, Option.bind_eq_some_iff] at h
  obtain ⟨observed, hobserved, h⟩ := h
  cases h
  exact ⟨observed, hobserved, rfl⟩

theorem outcomeRow_fields {result : OutcomeRow}
    (h : outcomeRow label byHorizon decisionHorizon = some result) :
    result.forwardWindowObserved = (!(futureRows byHorizon decisionHorizon).isEmpty &&
      (reachedRow byHorizon decisionHorizon).isSome) ∧
    result.positiveOutcomeLabel = (outcomeFor label
      (qualityExclusion label (byHorizon.lookup decisionHorizon)
        (endRow (byHorizon.lookup decisionHorizon) (futureRows byHorizon decisionHorizon)))
      result.forwardWindowObserved (proxiesOf (byHorizon.lookup decisionHorizon)
        (futureRows byHorizon decisionHorizon)).strength).1 := by
  simp only [outcomeRow, labelFor, Option.bind_eq_bind, Option.bind_eq_some_iff,
    flag_lookup_reached] at h
  obtain ⟨observed, -, h⟩ := h
  cases h
  exact ⟨rfl, rfl⟩

theorem exists_outcomeRow {observed : List ℤ}
    (h : (futureRows byHorizon decisionHorizon).mapM horizonSeconds = some observed) :
    ∃ result, outcomeRow label byHorizon decisionHorizon = some result := by
  simp [outcomeRow, labelFor, h]

theorem outcomeRow_eq_none
    (h : (futureRows byHorizon decisionHorizon).mapM horizonSeconds = none) :
    outcomeRow label byHorizon decisionHorizon = none := by
  simp [outcomeRow, labelFor, h]

theorem forwardWindowSeconds_pos {result : OutcomeRow}
    (h : outcomeRow label byHorizon decisionHorizon = some result)
    (hlater : LaterReached byHorizon decisionHorizon) (hnames : NamesHorizons byHorizon) :
    0 < result.forwardWindowSeconds := by
  obtain ⟨observed, hobserved, hseconds⟩ := outcomeRow_eq_some h
  obtain ⟨horizon, hmem, hlt, hrow⟩ := hlater
  obtain ⟨row, hrow⟩ := Option.isSome_iff_exists.mp hrow
  have hfuture := mem_futureRows hmem hlt.le hrow
  have hin : horizon ∈ observed :=
    Traversal.mem_of_mapM hobserved hfuture (hnames horizon row (lookup_of_reachedRow hrow).1)
  obtain ⟨latest, hlatest⟩ := Option.isSome_iff_exists.mp
    (List.isSome_max?_iff.mpr (List.ne_nil_of_mem hin))
  have hle := (List.max?_eq_some_iff.mp hlatest).2 horizon hin
  rw [hseconds, hlatest, Option.getD_some]
  omega

/-- A window that was observed, or a winner, comes with a later horizon that was reached. -/
def RestsOnForward (label : Row) (byHorizon : KeyedMap ℤ Row) (decisionHorizon : ℤ) : Prop :=
  ∀ result, outcomeRow label byHorizon decisionHorizon = some result →
    result.forwardWindowObserved = true ∨ result.positiveOutcomeLabel.IsWinner →
    LaterReached byHorizon decisionHorizon ∧
      (NamesHorizons byHorizon → 0 < result.forwardWindowSeconds)

/-- The decision's own row, if its horizon was not reached, is no winner by itself. -/
def StartIsNoWinner (label : Row) (start : Option Row) : Prop :=
  qualityExclusion label start start = true ∨ isCensored label = true ∨
    boolish (label.lookup "clean_negative_label") = false ∨ ¬ CurveIsPositive start

/-- Alone with the decision's own row, an outcome row claims a window where its horizon was
reached. -/
theorem not_claims_of_reached {row : Row} (hfuture : futureRows byHorizon decisionHorizon = [row])
    (hrow : reachedRow byHorizon decisionHorizon = some row) :
    (∀ result, outcomeRow label byHorizon decisionHorizon = some result →
      ¬ (result.forwardWindowObserved = true ∨ result.positiveOutcomeLabel.IsWinner)) ↔
      horizonSeconds row = none := by
  cases hseconds : horizonSeconds row with
  | none =>
      have hnone : outcomeRow label byHorizon decisionHorizon = none :=
        outcomeRow_eq_none (by simp [hfuture, hseconds])
      simp [hnone]
  | some seconds =>
      refine iff_of_false (fun h => ?_) (by simp)
      have hobserved : (futureRows byHorizon decisionHorizon).mapM horizonSeconds =
          some [seconds] := by simp [hfuture, hseconds]
      obtain ⟨result, hresult⟩ : ∃ result, outcomeRow label byHorizon decisionHorizon =
          some result := exists_outcomeRow hobserved
      refine h result hresult (Or.inl ?_)
      rw [(outcomeRow_fields hresult).1, hfuture, hrow]
      rfl

/-- Without any reached row, an outcome row claims a winner where the decision's own row makes
one. -/
theorem not_claims_of_not_reached (hfuture : futureRows byHorizon decisionHorizon = [])
    (hrow : reachedRow byHorizon decisionHorizon = none) :
    (∀ result, outcomeRow label byHorizon decisionHorizon = some result →
      ¬ (result.forwardWindowObserved = true ∨ result.positiveOutcomeLabel.IsWinner)) ↔
      StartIsNoWinner label (byHorizon.lookup decisionHorizon) := by
  have hclaims : ∀ result, outcomeRow label byHorizon decisionHorizon = some result →
      (¬ (result.forwardWindowObserved = true ∨ result.positiveOutcomeLabel.IsWinner) ↔
        StartIsNoWinner label (byHorizon.lookup decisionHorizon)) := by
    intro result hresult
    obtain ⟨hobserved, hlabel⟩ := outcomeRow_fields hresult
    rw [hrow, Option.isSome_none, Bool.and_false] at hobserved
    have hstop : endRow (byHorizon.lookup decisionHorizon) [] =
        byHorizon.lookup decisionHorizon := rfl
    rw [hlabel, hobserved, hfuture, hstop, isWinner_outcomeFor_iff, strength_of_start]
    simp only [StartIsNoWinner, Bool.false_eq_true, false_or, not_and_or, Bool.not_eq_false,
      Bool.not_eq_true]
  have hobserved : (futureRows byHorizon decisionHorizon).mapM horizonSeconds = some [] := by
    simp [hfuture]
  obtain ⟨result, hresult⟩ : ∃ result, outcomeRow label byHorizon decisionHorizon =
      some result := exists_outcomeRow hobserved
  constructor
  · intro h
    exact (hclaims result hresult).mp (h result hresult)
  · intro h other hother
    exact (hclaims other hother).mpr h

/-- An outcome rests on forward evidence when a later horizon was reached, when the decision's
own row makes the row fail, or when its horizon was not reached and it is no winner. -/
theorem restsOnForward_iff (hmem : decisionHorizon ∈ horizons) :
    RestsOnForward label byHorizon decisionHorizon ↔
      LaterReached byHorizon decisionHorizon ∨
      (∃ row, reachedRow byHorizon decisionHorizon = some row ∧ horizonSeconds row = none) ∨
      (reachedRow byHorizon decisionHorizon = none ∧
        StartIsNoWinner label (byHorizon.lookup decisionHorizon)) := by
  by_cases hlater : LaterReached byHorizon decisionHorizon
  · refine iff_of_true (fun result hresult _ => ⟨hlater, ?_⟩) (Or.inl hlater)
    exact forwardWindowSeconds_pos hresult hlater
  · have hfuture := futureRows_of_not_later hmem hlater
    have hrests : RestsOnForward label byHorizon decisionHorizon ↔
        ∀ result, outcomeRow label byHorizon decisionHorizon = some result →
          ¬ (result.forwardWindowObserved = true ∨ result.positiveOutcomeLabel.IsWinner) :=
      forall_congr' fun result => imp_congr_right fun _ =>
        ⟨fun h hclaim => hlater (h hclaim).1, fun h hclaim => absurd hclaim h⟩
    cases hrow : reachedRow byHorizon decisionHorizon with
    | some row =>
        rw [hrow, Option.toList_some] at hfuture
        rw [hrests, not_claims_of_reached hfuture hrow]
        simp [hlater]
    | none =>
        rw [hrow, Option.toList_none] at hfuture
        rw [hrests, not_claims_of_not_reached hfuture hrow]
        simp [hlater]

end OutcomeRows

end PositiveOutcomes

namespace EarlyBurstValidation

/-! ## Peaks -/

section Peaks

variable {byHorizon : KeyedMap ℤ Row} {decisionHorizon : ℤ}

/-- The favourable proxy of a horizon that was reached, from the decision on. -/
def favorableAt (byHorizon : KeyedMap ℤ Row) (decisionHorizon horizon : ℤ) : Option Float :=
  if horizon < decisionHorizon then none
  else (reachedRow byHorizon horizon).map fun row =>
    favorableProxy row (byHorizon.lookup decisionHorizon)

theorem peak_eq_scan (byHorizon : KeyedMap ℤ Row) (decisionHorizon : ℤ) :
    peak byHorizon decisionHorizon favorableProxy =
      horizons.foldl (Binary64.scan (favorableAt byHorizon decisionHorizon)) (none, -1) := by
  have hstep : scanHorizon byHorizon decisionHorizon favorableProxy =
      Binary64.scan (favorableAt byHorizon decisionHorizon) := by
    funext best horizon
    unfold scanHorizon Binary64.scan favorableAt
    by_cases h : horizon < decisionHorizon
    · simp [h]
    · cases hrow : reachedRow byHorizon horizon <;> simp [h]
  rw [peak, hstep]

/-- The largest favourable proxy lies at the decision itself. -/
def PeaksAtDecision (byHorizon : KeyedMap ℤ Row) (decisionHorizon : ℤ) : Prop :=
  decisionHorizon ∈ horizons ∧
  ∃ value, favorableAt byHorizon decisionHorizon decisionHorizon = some value ∧ -1 < value ∧
    ∀ later ∈ horizons, ∀ other, favorableAt byHorizon decisionHorizon later = some other →
      ¬ value < other

theorem horizons_split : ∀ h ∈ horizons,
    horizons = (horizons.filter fun horizon => horizon < h) ++
      h :: horizons.filter fun horizon => h < horizon := by
  decide

theorem peak_of_peaksAtDecision (h : PeaksAtDecision byHorizon decisionHorizon) :
    ∃ value, peak byHorizon decisionHorizon favorableProxy = (some decisionHorizon, value) := by
  obtain ⟨hmem, value, hvalue, habove, hgreatest⟩ := h
  refine ⟨value, ?_⟩
  rw [peak_eq_scan, horizons_split decisionHorizon hmem]
  refine Binary64.foldl_scan_first (fun j hj => ?_) hvalue habove fun j hj => ?_
  · have hlt := of_decide_eq_true (List.mem_filter.mp hj).2
    simp [favorableAt, hlt]
  · exact hgreatest j (List.mem_filter.mp hj).1

/-- A peak is a reached horizon from the decision on whose proxy no other exceeds. -/
theorem isPeak_of_peak {best : ℤ} {value : Float}
    (h : peak byHorizon decisionHorizon favorableProxy = (some best, value)) :
    Binary64.IsPeak (favorableAt byHorizon decisionHorizon) (-1) horizons best value :=
  Binary64.isPeak_of_foldl (peak_eq_scan byHorizon decisionHorizon ▸ h)

theorem le_of_favorableAt {horizon : ℤ} {value : Float}
    (h : favorableAt byHorizon decisionHorizon horizon = some value) :
    decisionHorizon ≤ horizon := by
  by_contra hlt
  simp [favorableAt, not_le.mp hlt] at h

theorem timeToPeakMs_of_peak {best : ℤ} {value : Float}
    (h : peak byHorizon decisionHorizon favorableProxy = (some best, value)) :
    (timeToPeakMs byHorizon decisionHorizon favorableProxy).1 =
      toString ((best - decisionHorizon) * 1000) := by
  have hle := le_of_favorableAt (isPeak_of_peak h).value_eq
  rw [timeToPeakMs, h]
  simp only [max_eq_right (sub_nonneg.mpr hle)]

theorem timeToPeakMs_of_none {value : Float}
    (h : peak byHorizon decisionHorizon favorableProxy = (none, value)) :
    (timeToPeakMs byHorizon decisionHorizon favorableProxy).1 = "" := by
  rw [timeToPeakMs, h]

theorem toString_ne_zero {n : ℤ} (h : 0 < n) : toString n ≠ "0" := by
  intro heq
  obtain ⟨m, rfl⟩ := Int.eq_ofNat_of_zero_le h.le
  have hdigits : (toString m).toList = Nat.toDigits 10 0 := congrArg String.toList heq
  rw [Digits.toList_toString] at hdigits
  have hzero := Digits.toDigits_injective hdigits
  omega

end Peaks

/-! ## Validation rows -/

section ValidationRows

variable {row labelRow : Row} {byHorizon : KeyedMap ℤ Row} {score review : Row}

theorem buildValidationRow_fields {result : ValidationRow}
    (h : buildValidationRow row labelRow byHorizon score review = some result) :
    decisionHorizonSeconds row = some result.decisionHorizonSeconds ∧
    (timeToPeakMs byHorizon result.decisionHorizonSeconds favorableProxy).1 =
      result.timeToMaxFavorableMs ∧
    exitObserved row labelRow result.timeToMaxFavorableMs = some result.exitWindowObserved := by
  simp only [buildValidationRow, Option.bind_eq_bind, Option.bind_eq_some_iff] at h
  obtain ⟨horizon, hhorizon, observed, hobserved, h⟩ := h
  cases h
  exact ⟨hhorizon, rfl, hobserved⟩

theorem exists_buildValidationRow {horizon : ℤ} {observed : Bool}
    (hhorizon : decisionHorizonSeconds row = some horizon)
    (hobserved : exitObserved row labelRow
      (timeToPeakMs byHorizon horizon favorableProxy).1 = some observed) :
    ∃ result, buildValidationRow row labelRow byHorizon score review = some result := by
  simp [buildValidationRow, hhorizon, hobserved]

theorem exitObserved_eq_true {time : String} (h : exitObserved row labelRow time = some true) :
    time ≠ "" ∧ boolish (row.lookup "forward_window_observed") = true := by
  simp only [exitObserved] at h
  split at h
  · rename_i hobserved
    simp only [Bool.and_eq_true, decide_eq_true_eq] at hobserved
    exact hobserved.1
  · simpa using h

theorem exitObserved_zero_iff : exitObserved row labelRow "0" = some true ↔
    boolish (row.lookup "forward_window_observed") = true ∧
      (labelRow.text "time_to_rejection_ms" = "" ∨ ∃ rejection,
        wholeFloat (labelRow.text "time_to_rejection_ms") = some rejection ∧ 0 < rejection) := by
  have hzero : wholeFloat "0" = some 0 := by rfl
  unfold exitObserved
  cases boolish (row.lookup "forward_window_observed") with
  | false => simp
  | true =>
      by_cases hrejection : labelRow.text "time_to_rejection_ms" = ""
      · simp [hrejection]
      · simp [hrejection, hzero, Option.bind_eq_some_iff]

/-- A favourable peak that the row reports lies after the decision. -/
def PeakIsForward (row labelRow : Row) (byHorizon : KeyedMap ℤ Row) (score review : Row) : Prop :=
  ∀ result, buildValidationRow row labelRow byHorizon score review = some result →
    result.exitWindowObserved = true →
    ∃ best, result.decisionHorizonSeconds < best ∧
      (∃ value, Binary64.IsPeak (favorableAt byHorizon result.decisionHorizonSeconds) (-1)
        horizons best value) ∧
      result.timeToMaxFavorableMs = toString ((best - result.decisionHorizonSeconds) * 1000)

/-- The window is observed with its peak at the decision: nothing was rejected, or only
later. -/
def ExitsAtDecision (row labelRow : Row) (byHorizon : KeyedMap ℤ Row) : Prop :=
  ∃ horizon, decisionHorizonSeconds row = some horizon ∧ PeaksAtDecision byHorizon horizon ∧
    boolish (row.lookup "forward_window_observed") = true ∧
    (labelRow.text "time_to_rejection_ms" = "" ∨ ∃ rejection,
      wholeFloat (labelRow.text "time_to_rejection_ms") = some rejection ∧ 0 < rejection)

/-- The reported peak lies after the decision unless the window is observed with the largest
proxy at the decision. -/
theorem peakIsForward_iff :
    PeakIsForward row labelRow byHorizon score review ↔
      ¬ ExitsAtDecision row labelRow byHorizon := by
  constructor
  · rintro h ⟨horizon, hhorizon, hpeaks, hexit⟩
    obtain ⟨value, hpeak⟩ := peak_of_peaksAtDecision hpeaks
    have htime := timeToPeakMs_of_peak hpeak
    rw [sub_self, zero_mul] at htime
    have hobserved : exitObserved row labelRow
        (timeToPeakMs byHorizon horizon favorableProxy).1 = some true := by
      rw [htime]
      exact exitObserved_zero_iff.mpr hexit
    obtain ⟨result, hresult⟩ : ∃ result, buildValidationRow row labelRow byHorizon score review =
        some result := exists_buildValidationRow hhorizon hobserved
    obtain ⟨hhorizon', htime', hobserved'⟩ := buildValidationRow_fields hresult
    obtain rfl : horizon = result.decisionHorizonSeconds :=
      Option.some.inj (hhorizon.symm.trans hhorizon')
    rw [← htime', hobserved, Option.some.injEq] at hobserved'
    obtain ⟨best, hlt, -, hbest⟩ := h result hresult hobserved'.symm
    refine toString_ne_zero (n := (best - result.decisionHorizonSeconds) * 1000) (by omega) ?_
    rw [← hbest, ← htime', htime]
    rfl
  · intro h result hresult hobserved
    obtain ⟨hhorizon, htime, hexit⟩ := buildValidationRow_fields hresult
    rw [hobserved] at hexit
    obtain ⟨hne, hforward⟩ := exitObserved_eq_true hexit
    cases hpeak : peak byHorizon result.decisionHorizonSeconds favorableProxy with
    | mk found value =>
        cases found with
        | none => exact absurd (htime.symm.trans (timeToPeakMs_of_none hpeak)) hne
        | some best =>
            have hbest := isPeak_of_peak hpeak
            have hle := le_of_favorableAt hbest.value_eq
            rw [timeToPeakMs_of_peak hpeak] at htime
            refine ⟨best, lt_of_le_of_ne hle ?_, ⟨value, hbest⟩, htime.symm⟩
            rintro rfl
            rw [sub_self, zero_mul] at htime
            refine h ⟨_, hhorizon, ⟨hbest.mem, value, hbest.value_eq, hbest.above,
              hbest.greatest⟩, exitObserved_zero_iff.mp ?_⟩
            rw [← hexit, ← htime]
            rfl

end ValidationRows

end EarlyBurstValidation

/-! ## Labels and forward evidence -/

open PositiveOutcomes EarlyBurstValidation

/-- Which outcome rows and which validation rows rest on what came after the decision. -/
theorem labels_rest_on_forward_iff {decisionHorizon : ℤ} (hmem : decisionHorizon ∈ horizons)
    (label : Row) (byHorizon : KeyedMap ℤ Row) :
    (RestsOnForward label byHorizon decisionHorizon ↔
      LaterReached byHorizon decisionHorizon ∨
      (∃ row, PositiveOutcomes.reachedRow byHorizon decisionHorizon = some row ∧
        horizonSeconds row = none) ∨
      (PositiveOutcomes.reachedRow byHorizon decisionHorizon = none ∧
        StartIsNoWinner label (byHorizon.lookup decisionHorizon))) ∧
    ∀ row labelRow score review : Row,
      PeakIsForward row labelRow byHorizon score review ↔
        ¬ ExitsAtDecision row labelRow byHorizon :=
  ⟨restsOnForward_iff hmem, fun _ _ _ _ => peakIsForward_iff⟩

/-- A row that was reached, with a curve progress. -/
def reachedAt (horizon curveProgress : String) : Row :=
  (((∅ : Row).insert "horizon_reached" "true").insert "horizon_seconds" horizon).insert
    "curve_progress_proxy_asof" curveProgress

/-- Two horizons were reached. -/
theorem labels_rest_on_forward_two :
    RestsOnForward ∅ (((∅ : KeyedMap ℤ Row).insert 5 (reachedAt "5" "10")).insert 10
      (reachedAt "10" "80")) 5 := by
  refine (labels_rest_on_forward_iff (by decide) ∅ _).1.mpr (Or.inl ⟨10, by decide, by decide, ?_⟩)
  rfl

/-- The decision's row alone makes a high positive with an observed window, and the peak that
is reported lies at the decision. -/
theorem decision_row_alone_wins :
    ¬ RestsOnForward ∅ ((∅ : KeyedMap ℤ Row).insert 5 (reachedAt "5" "80")) 5 ∧
    ¬ PeakIsForward (((∅ : Row).insert "decision_horizon_seconds" "5").insert
        "forward_window_observed" "true") ∅
      ((∅ : KeyedMap ℤ Row).insert 5 (reachedAt "5" "80")) ∅ ∅ := by
  have hlookup : ∀ horizon ∈ horizons, 5 < horizon →
      AList.lookup horizon ((∅ : KeyedMap ℤ Row).insert 5 (reachedAt "5" "80")) = none := by
    decide
  have hvalue : favorableAt ((∅ : KeyedMap ℤ Row).insert 5 (reachedAt "5" "80")) 5 5 = some 80 := by
    decide +kernel
  constructor
  · rw [restsOnForward_iff (by decide)]
    rintro (⟨horizon, hmem, hlt, hsome⟩ | ⟨row, hrow, hseconds⟩ | ⟨hrow, -⟩)
    · rw [PositiveOutcomes.reachedRow, hlookup horizon hmem hlt] at hsome
      simp at hsome
    · obtain rfl : reachedAt "5" "80" = row := Option.some.inj hrow
      exact absurd hseconds (by decide)
    · exact absurd hrow (by rintro ⟨⟩)
  · rw [peakIsForward_iff, not_not]
    refine ⟨5, by decide, ⟨by decide, 80, hvalue, by decide, ?_⟩, by decide,
      Or.inl rfl⟩
    intro later hmem other hother
    by_cases hlt : 5 < later
    · rw [favorableAt, EarlyBurstValidation.reachedRow, hlookup later hmem hlt] at hother
      simp at hother
    · have hlater : later = 5 := le_antisymm (not_lt.mp hlt) (le_of_favorableAt hother)
      rw [hlater, hvalue, Option.some.injEq] at hother
      subst hother
      exact Binary64.lt_irrefl 80

end PumpLaunchTrader.StrategyPipeline
