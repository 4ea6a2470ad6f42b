import PumpLaunchTrader.Lib.Means
import PumpLaunchTrader.Model.RiskEngine

/-! # What a risk snapshot says

Every row is bounded and comes from the stream, the bounded RPC or the metadata request. The
scores of a snapshot are means of the scores of its rows. -/

namespace PumpLaunchTrader.RiskEngine

open Means

theorem average_eq_mean (values : List Decimal) : average values = mean values := by
  by_cases hempty : values = []
  · simp [average, hempty]
  · simp [average, hempty, mean]

theorem clamp01_mem_unit (value : Decimal) : 0 ≤ clamp01 value ∧ clamp01 value ≤ 1 := by
  constructor
  · exact le_min (le_max_right _ _) zero_le_one
  · exact min_le_right _ _

/-! ## Rows -/

/-- A text that the list of blocking reasons keeps. -/
def NamesGap (reason : String) : Prop :=
  "data_gap".toList <:+: reason.toList ∨ "stream_gap".toList <:+: reason.toList

instance (reason : String) : Decidable (NamesGap reason) := inferInstanceAs (Decidable (_ ∨ _))

/-- The reasons for which a row is unavailable. -/
def unavailableReasons : List String :=
  ["missing_stream_holder_snapshot", "missing_stream_dev_holder_state",
    "holder_churn_not_in_canary_artifact", "requires_unique_buyer_and_holder_context",
    "missing_sell_absorption_context", "metadata_http_not_run", "bounded_funding_graph_not_run",
    "rpc_supply_semantics_not_checked", "migration_not_observed_or_not_applicable"]

theorem not_namesGap_of_mem : ∀ reason ∈ unavailableReasons, ¬ NamesGap reason := by
  decide +kernel

/-- What every row of a snapshot satisfies. -/
structure Row (row : RiskEvidence) : Prop where
  score : ∀ score ∈ row.score, 0 ≤ score ∧ score ≤ 1
  confidence : 0 ≤ row.confidence ∧ row.confidence ≤ 1
  source : row.source = .stream ∨ row.source = .boundedRpc ∨ row.source = .metadataHttp
  reason : ∀ reason ∈ row.unavailableReason, reason ∈ unavailableReasons

theorem row_available {riskId riskFamily : String} {source : RiskSource}
    {timeRole : RiskTimeRole} {score confidence : Decimal} {evidence : List String}
    (hsource : source = .stream ∨ source = .boundedRpc ∨ source = .metadataHttp) :
    Row (.available riskId riskFamily source timeRole score confidence evidence) where
  score := by
    intro value hvalue
    rw [← Option.some.inj hvalue]
    exact clamp01_mem_unit score
  confidence := clamp01_mem_unit confidence
  source := hsource
  reason := by
    intro reason hreason
    cases hreason

theorem row_unavailable {riskId riskFamily reason : String} {source : RiskSource}
    {timeRole : RiskTimeRole}
    (hsource : source = .stream ∨ source = .boundedRpc ∨ source = .metadataHttp)
    (hreason : reason ∈ unavailableReasons) :
    Row (.unavailable riskId riskFamily source timeRole reason) where
  score := by
    intro value hvalue
    cases hvalue
  confidence := ⟨le_refl 0, zero_le_one⟩
  source := hsource
  reason := by
    intro other hother
    rwa [← Option.some.inj hother]

namespace DiagnosticRiskEngine

variable (self : DiagnosticRiskEngine) (input : RiskSnapshotInput)

theorem row_holderConcentration : Row (self.holderConcentration input) := by
  unfold holderConcentration
  cases input.topHolderPct with
  | some top => exact row_available (by decide)
  | none => exact row_unavailable (by decide) (by simp [unavailableReasons])

theorem row_devExit : Row (devExit input) := by
  unfold devExit
  cases input.devHoldingPct with
  | some value => exact row_available (by decide)
  | none => exact row_unavailable (by decide) (by simp [unavailableReasons])

theorem row_holderChurn : Row (holderChurn input) := by
  unfold holderChurn
  cases input.holderChurnRate with
  | some churn => exact row_available (by decide)
  | none =>
      cases input.paperhand90PctCount with
      | some count => exact row_available (by decide)
      | none => exact row_unavailable (by decide) (by simp [unavailableReasons])

theorem row_fakeMomentum : Row (self.fakeMomentum input) := by
  have hmissing : Row (.unavailable "fake_momentum_risk" "fake_momentum_risk" .stream
      .decisionTimeFeature "requires_unique_buyer_and_holder_context") :=
    row_unavailable (by decide) (by simp [unavailableReasons])
  simp only [fakeMomentum]
  cases input.fakeMomentumStreamProxy with
  | some flag => exact row_available (by decide)
  | none =>
      cases input.buyCount with
      | none => exact hmissing
      | some buys =>
          cases input.uniqueBuyers with
          | none => exact hmissing
          | some unique =>
              dsimp only
              split_ifs
              · exact row_available (by decide)
              · exact hmissing

theorem row_sellAbsorption : Row (sellAbsorption input) := by
  unfold sellAbsorption
  cases input.sellAbsorptionStreamProxy with
  | some flag => exact row_available (by decide)
  | none => exact row_unavailable (by decide) (by simp [unavailableReasons])

theorem row_metadataSocial : Row (metadataSocial input) := by
  unfold metadataSocial
  split
  · exact row_available (by decide)
  · exact row_available (by decide)
  · exact row_unavailable (by decide) (by simp [unavailableReasons])

theorem row_funding : Row (funding input) := by
  unfold funding
  cases input.oneHopFunderCandidateCount with
  | some count => exact row_available (by decide)
  | none => exact row_unavailable (by decide) (by simp [unavailableReasons])

theorem row_supplySemantics : Row (supplySemantics input) := by
  simp only [supplySemantics]
  split
  · exact row_available (by decide)
  · exact row_available (by decide)
  · exact row_unavailable (by decide) (by simp [unavailableReasons])

theorem row_postMigration : Row (postMigration input) := by
  unfold postMigration
  split
  · exact row_available (by decide)
  · exact row_available (by decide)
  · exact row_unavailable (by decide) (by simp [unavailableReasons])

theorem row_of_mem {row : RiskEvidence} (h : row ∈ self.rows input) : Row row := by
  simp only [rows, List.mem_cons, List.not_mem_nil, or_false] at h
  rcases h with rfl | rfl | rfl | rfl | rfl | rfl | rfl | rfl | rfl | rfl | rfl
  · exact self.row_holderConcentration input
  · exact row_devExit input
  · exact row_holderChurn input
  · exact row_available (by decide)
  · exact self.row_fakeMomentum input
  · exact row_sellAbsorption input
  · exact row_metadataSocial input
  · exact row_funding input
  · exact row_supplySemantics input
  · exact row_available (by decide)
  · exact row_postMigration input

/-! ## Gaps -/

/-- The row of a gap is available like any other, and no other reason is one of a gap. -/
theorem blockingDataQualityReasons_eq_nil :
    (self.evaluate input).blockingDataQualityReasons = [] := by
  change ((self.rows input).filterMap (·.unavailableReason)).filter
    (fun reason => decide (NamesGap reason)) = []
  rw [List.filter_eq_nil_iff]
  intro reason hmem
  obtain ⟨row, hrow, hreason⟩ := List.mem_filterMap.mp hmem
  simpa using not_namesGap_of_mem reason ((self.row_of_mem input hrow).reason reason hreason)

end DiagnosticRiskEngine

/-- What a snapshot owes an input with a gap. -/
def GapHonest (output : RiskSnapshotOutput) : Prop :=
  output.blockingDataQualityReasons ≠ [] ∧ output.riskClassification ≠ .lowRiskObserved

/-- Whether one of the two gaps is set. -/
def GapActive (input : RiskSnapshotInput) : Prop :=
  input.dataGapActive = some true ∨ input.streamGapActive = some true

namespace DiagnosticRiskEngine

/-- A snapshot is never honest about a gap. -/
theorem not_gapHonest (self : DiagnosticRiskEngine) (input : RiskSnapshotInput) :
    ¬ GapHonest (self.evaluate input) :=
  fun hhonest => hhonest.1 (self.blockingDataQualityReasons_eq_nil input)

/-- A token whose developer holds on has a low risk, both gaps notwithstanding. -/
theorem low_risk_during_gap :
    ∃ input : RiskSnapshotInput, GapActive input ∧
      (DiagnosticRiskEngine.evaluate {} input).blockingDataQualityReasons = [] ∧
      (DiagnosticRiskEngine.evaluate {} input).riskClassification = .lowRiskObserved := by
  refine ⟨{ devHoldingPct := some (1 / 2)
            dataGapActive := some true
            streamGapActive := some true }, Or.inl rfl, ?_, ?_⟩
  · exact blockingDataQualityReasons_eq_nil _ _
  · decide +kernel

end DiagnosticRiskEngine

/-! ## Scores -/

/-- The score of a row of the stream. -/
def streamScore (row : RiskEvidence) : Option Decimal :=
  if row.source = .stream then row.score else none

/-- The score of a row of the bounded RPC or of the metadata request. -/
def enrichmentScore (row : RiskEvidence) : Option Decimal :=
  if row.source = .boundedRpc ∨ row.source = .metadataHttp then row.score else none

theorem filterMap_score_filter (p : RiskEvidence → Bool) (rows : List RiskEvidence) :
    ((rows.filter (·.score.isSome)).filter p).filterMap (·.score) =
      rows.filterMap fun row => if p row then row.score else none := by
  rw [List.filter_filter]
  induction rows with
  | nil => rfl
  | cons row rows ih =>
      cases hscore : row.score with
      | none => simp [hscore, ih]
      | some score =>
          by_cases hp : p row
          · simp [hscore, hp, ih]
          · simp [hscore, hp, ih]

/-- The available scores are those of the stream and those of the enrichment. -/
theorem filterMap_score_perm {rows : List RiskEvidence} (h : ∀ row ∈ rows, Row row) :
    (rows.filterMap (·.score)).Perm
      (rows.filterMap streamScore ++ rows.filterMap enrichmentScore) := by
  induction rows with
  | nil => exact List.Perm.refl _
  | cons row rows ih =>
      have ih := ih fun other hother => h other (List.mem_cons_of_mem _ hother)
      cases hscore : row.score with
      | none => simpa [streamScore, enrichmentScore, hscore] using ih
      | some score =>
          rcases (h row List.mem_cons_self).source with hsource | hsource | hsource
          · simpa [streamScore, enrichmentScore, hscore, hsource] using ih.cons score
          · simpa [streamScore, enrichmentScore, hscore, hsource] using
              (ih.cons score).trans List.perm_middle.symm
          · simpa [streamScore, enrichmentScore, hscore, hsource] using
              (ih.cons score).trans List.perm_middle.symm

/-- Two inputs that differ at most in what the stream does not say. -/
def AgreeOnStream (a b : RiskSnapshotInput) : Prop :=
  a = { b with
    metadataFetchSuccess := a.metadataFetchSuccess
    socialCount := a.socialCount
    oneHopFunderCandidateCount := a.oneHopFunderCandidateCount
    rpcSupplyMatchesCurveSupply := a.rpcSupplyMatchesCurveSupply
    rpcSupplyMismatchRatio := a.rpcSupplyMismatchRatio
    supplyDenominatorSource := a.supplyDenominatorSource }

/-- The three scores and the confidence are of the unit interval. -/
structure InUnit (output : RiskSnapshotOutput) : Prop where
  total : 0 ≤ output.riskScoreTotal ∧ output.riskScoreTotal ≤ 1
  streamOnly : 0 ≤ output.riskScoreStreamOnly ∧ output.riskScoreStreamOnly ≤ 1
  enrichment : 0 ≤ output.riskScoreEnrichment ∧ output.riskScoreEnrichment ≤ 1
  confidence : 0 ≤ output.riskConfidence ∧ output.riskConfidence ≤ 1

/-- A row of the bounded RPC or of the metadata request is available. -/
def HasEnrichment (output : RiskSnapshotOutput) : Prop :=
  ∃ row ∈ output.evidence,
    (row.source = .boundedRpc ∨ row.source = .metadataHttp) ∧ row.score.isSome

namespace DiagnosticRiskEngine

variable (self : DiagnosticRiskEngine) (input : RiskSnapshotInput)

theorem riskScoreTotal_eq : (self.evaluate input).riskScoreTotal =
    mean ((self.rows input).filterMap (·.score)) := by
  have hall := filterMap_score_filter (fun _ => true) (self.rows input)
  simp only [List.filter_true, if_true] at hall
  rw [← hall, ← average_eq_mean]
  rfl

theorem riskScoreStreamOnly_eq : (self.evaluate input).riskScoreStreamOnly =
    mean ((self.rows input).filterMap streamScore) := by
  have hstream := filterMap_score_filter (·.source = .stream) (self.rows input)
  simp only [decide_eq_true_eq] at hstream
  rw [← average_eq_mean]
  exact congrArg average hstream

theorem riskScoreEnrichment_eq : (self.evaluate input).riskScoreEnrichment =
    mean ((self.rows input).filterMap enrichmentScore) := by
  have henrichment := filterMap_score_filter
    (fun row => row.source = .boundedRpc ∨ row.source = .metadataHttp) (self.rows input)
  simp only [decide_eq_true_eq] at henrichment
  rw [← average_eq_mean]
  exact congrArg average henrichment

/-! ### Bounds -/

theorem score_mem_unit {row : RiskEvidence} {score : Decimal} (hrow : row ∈ self.rows input)
    (hscore : row.score = some score) : 0 ≤ score ∧ score ≤ 1 :=
  (self.row_of_mem input hrow).score score hscore

theorem mem_unit_of_mem_filterMap {f : RiskEvidence → Option Decimal}
    (hf : ∀ row score, f row = some score → row.score = some score) {score : Decimal}
    (h : score ∈ (self.rows input).filterMap f) : 0 ≤ score ∧ score ≤ 1 := by
  obtain ⟨row, hrow, hscore⟩ := List.mem_filterMap.mp h
  exact self.score_mem_unit input hrow (hf row score hscore)

theorem inUnit : InUnit (self.evaluate input) where
  total := by
    rw [riskScoreTotal_eq]
    exact mean_mem_unit fun score h =>
      self.mem_unit_of_mem_filterMap input (fun _ _ hscore => hscore) h
  streamOnly := by
    rw [riskScoreStreamOnly_eq]
    exact mean_mem_unit fun score h =>
      self.mem_unit_of_mem_filterMap input (by simp [streamScore]) h
  enrichment := by
    rw [riskScoreEnrichment_eq]
    exact mean_mem_unit fun score h =>
      self.mem_unit_of_mem_filterMap input (by simp [enrichmentScore]) h
  confidence := by
    change 0 ≤ average _ ∧ average _ ≤ 1
    rw [average_eq_mean]
    refine mean_mem_unit fun confidence h => ?_
    obtain ⟨row, hrow, rfl⟩ := List.mem_map.mp h
    exact (self.row_of_mem input (List.mem_filter.mp hrow).1).confidence

/-! ### Stream and enrichment -/

theorem streamScore_funding : streamScore (funding input) = none := by
  unfold funding
  cases input.oneHopFunderCandidateCount with
  | some count => rfl
  | none => rfl

theorem streamScore_supplySemantics : streamScore (supplySemantics input) = none := by
  simp only [supplySemantics]
  split <;> rfl

/-- The metadata row is one of the stream exactly when the stream says there is no link. -/
theorem streamScore_metadataSocial : streamScore (metadataSocial input) =
    if input.metadataUriPresent = some false then some (clamp01 (50 / 100)) else none := by
  unfold metadataSocial
  split
  · rename_i huri
    simp [huri, streamScore, RiskEvidence.available]
  · rename_i hlink
    rw [if_neg hlink]
    rfl
  · rename_i hlink
    rw [if_neg hlink]
    rfl

/-- The rows that the enrichment decides have no score of the stream, but for one that does
not look at it. -/
theorem filterMap_streamScore_eq {a b : RiskSnapshotInput} (h : AgreeOnStream a b) :
    (self.rows a).filterMap streamScore = (self.rows b).filterMap streamScore := by
  have hmetadata : streamScore (metadataSocial a) = streamScore (metadataSocial b) := by
    rw [streamScore_metadataSocial, streamScore_metadataSocial, h]
  simp only [rows, List.filterMap_cons, streamScore_funding, streamScore_supplySemantics,
    hmetadata]
  rw [h]
  rfl

theorem streamScores_ne_nil : (self.rows input).filterMap streamScore ≠ [] := by
  have hmem : self.bundleLike input ∈ self.rows input := by simp [rows]
  exact List.ne_nil_of_mem (List.mem_filterMap.mpr ⟨_, hmem, rfl⟩)

theorem enrichmentScores_ne_nil (h : HasEnrichment (self.evaluate input)) :
    (self.rows input).filterMap enrichmentScore ≠ [] := by
  obtain ⟨row, hrow, hsource, hsome⟩ := h
  obtain ⟨score, hscore⟩ := Option.isSome_iff_exists.mp hsome
  have hvalue : enrichmentScore row = some score := by simp [enrichmentScore, hsource, hscore]
  exact List.ne_nil_of_mem (List.mem_filterMap.mpr ⟨row, hrow, hvalue⟩)

theorem total_between (h : HasEnrichment (self.evaluate input)) :
    (self.evaluate input).riskScoreTotal ∈
      Set.uIcc (self.evaluate input).riskScoreStreamOnly
        (self.evaluate input).riskScoreEnrichment := by
  rw [riskScoreTotal_eq, riskScoreStreamOnly_eq, riskScoreEnrichment_eq,
    mean_perm (filterMap_score_perm fun row hrow => self.row_of_mem input hrow)]
  exact mean_append_mem_uIcc (self.streamScores_ne_nil input)
    (self.enrichmentScores_ne_nil input h)

/-- The stream-only score does not depend on the enrichment, all scores are of the unit
interval, and with enrichment the total lies between the other two. -/
theorem evaluate_of_agreeOnStream {a b : RiskSnapshotInput} (h : AgreeOnStream a b) :
    (self.evaluate a).riskScoreStreamOnly = (self.evaluate b).riskScoreStreamOnly ∧
    InUnit (self.evaluate a) ∧ InUnit (self.evaluate b) ∧
    (HasEnrichment (self.evaluate a) → (self.evaluate a).riskScoreTotal ∈
      Set.uIcc (self.evaluate a).riskScoreStreamOnly (self.evaluate a).riskScoreEnrichment) := by
  refine ⟨?_, self.inUnit a, self.inUnit b, self.total_between a⟩
  rw [riskScoreStreamOnly_eq, riskScoreStreamOnly_eq, self.filterMap_streamScore_eq h]

/-- A snapshot with its metadata fetched and one without. -/
theorem evaluate_of_agreeOnStream_fetched :
    ∃ a b : RiskSnapshotInput, AgreeOnStream a b ∧
      HasEnrichment (DiagnosticRiskEngine.evaluate {} a) ∧
      (DiagnosticRiskEngine.evaluate {} a).riskScoreStreamOnly =
        (DiagnosticRiskEngine.evaluate {} b).riskScoreStreamOnly := by
  have hagree : AgreeOnStream { metadataFetchSuccess := some true } {} := rfl
  have hrow : metadataSocial { metadataFetchSuccess := some true } ∈
      rows {} { metadataFetchSuccess := some true } := by simp [rows]
  exact ⟨{ metadataFetchSuccess := some true }, {}, hagree, ⟨_, hrow, Or.inr rfl, rfl⟩,
    (evaluate_of_agreeOnStream {} hagree).1⟩

end DiagnosticRiskEngine

end PumpLaunchTrader.RiskEngine
