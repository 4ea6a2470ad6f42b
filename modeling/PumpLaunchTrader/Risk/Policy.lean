import PumpLaunchTrader.Risk.Scores

/-! # Assessments and policies

The overall score is a mean of the six scores. The policies form a ladder: a snapshot that
speaks more against its token has an assessment that is no more lenient, and the decision
engine blocks whatever it blocked before. -/

namespace PumpLaunchTrader.Risk

open WeightedMeans (AtMost)

/-- The six scores of an assessment. -/
def RiskAssessment.scores (self : RiskAssessment) : List Decimal :=
  [self.rug.score, self.bundle.score, self.dev.score, self.topHolder.score,
    self.fakeMomentum.score, self.dataQuality.score]

/-- The policies from the most lenient one to the strictest. -/
def strictness : DiscardPolicyDecision → ℕ
  | .keep => 0
  | .researchSample => 1
  | .softDiscard => 2
  | .hardDiscard => 3
  | .rugArchive => 4
  | .dataGapStop => 5

/-- The second assessment is no more lenient than the first one. -/
structure RiskAssessment.NoMoreLenient (assessment assessment' : RiskAssessment) : Prop where
  rug : assessment.rug.AtMost assessment'.rug
  bundle : assessment.bundle.AtMost assessment'.bundle
  dev : assessment.dev.AtMost assessment'.dev
  topHolder : assessment.topHolder.AtMost assessment'.topHolder
  fakeMomentum : assessment.fakeMomentum.AtMost assessment'.fakeMomentum
  dataQuality : assessment.dataQuality.AtMost assessment'.dataQuality
  overallScore_le : assessment.overallScore ≤ assessment'.overallScore
  strictness_le : strictness assessment.discardPolicy ≤ strictness assessment'.discardPolicy
  blocked : ∀ engine : DecisionEngine, engine.hardBlocked assessment.forDecision = true →
    engine.hardBlocked assessment'.forDecision = true

namespace RiskEngine

/-! ## The overall score -/

theorem score_mem_unit (engine : RiskEngine) (token : TokenState) (features : FeatureSnapshot)
    (observedAt : OffsetDateTime) :
    ∀ score ∈ (engine.evaluate token features observedAt).scores, 0 ≤ score ∧ score ≤ 1 := by
  intro score hmem
  have hclamped : ∃ value, score = clamp01 value := by
    simp only [RiskAssessment.scores, List.mem_cons, List.not_mem_nil, or_false] at hmem
    rcases hmem with h | h | h | h | h | h <;> exact ⟨_, h⟩
  obtain ⟨value, rfl⟩ := hclamped
  exact ⟨clamp01_nonneg value, clamp01_le_one value⟩

/-- The six scores with their weights in the overall score. -/
def weightedScores (assessment : RiskAssessment) : List (Decimal × Decimal) :=
  [(assessment.rug.score, 30 / 100), (assessment.bundle.score, 15 / 100),
    (assessment.dev.score, 15 / 100), (assessment.topHolder.score, 15 / 100),
    (assessment.fakeMomentum.score, 15 / 100), (assessment.dataQuality.score, 10 / 100)]

theorem total_weightedScores (assessment : RiskAssessment) :
    0 < WeightedMeans.total (weightedScores assessment) := by
  simp only [weightedScores, WeightedMeans.total_cons, WeightedMeans.total_nil]
  norm_num

theorem weight_nonneg (assessment : RiskAssessment) :
    ∀ entry ∈ weightedScores assessment, 0 ≤ entry.2 := by
  simp only [weightedScores, List.forall_mem_cons]
  norm_num

theorem score_of_weighted {assessment : RiskAssessment} {entry : Decimal × Decimal}
    (hmem : entry ∈ weightedScores assessment) : entry.1 ∈ assessment.scores := by
  have hscores : (weightedScores assessment).map Prod.fst = assessment.scores := rfl
  rw [← hscores]
  exact List.mem_map_of_mem hmem

/-- The clamp of the overall score never applies. -/
theorem overallScore_eq_mean (engine : RiskEngine) (token : TokenState)
    (features : FeatureSnapshot) (observedAt : OffsetDateTime) :
    (engine.evaluate token features observedAt).overallScore =
      WeightedMeans.mean (weightedScores (engine.evaluate token features observedAt)) := by
  have hunit := engine.score_mem_unit token features observedAt
  have hzero := WeightedMeans.le_mean (total_weightedScores _) (weight_nonneg _)
    fun entry hmem => (hunit _ (score_of_weighted hmem)).1
  have hone := WeightedMeans.mean_le (total_weightedScores _) (weight_nonneg _)
    fun entry hmem => (hunit _ (score_of_weighted hmem)).2
  have hclamped : (engine.evaluate token features observedAt).overallScore =
      clamp01 (weightedAverage (weightedScores (engine.evaluate token features observedAt))) :=
    rfl
  rw [hclamped, weightedAverage_eq_mean]
  exact clamp01_of_mem hzero hone

theorem nodup_dedupReasons (reasons : List ReasonCode) : (dedupReasons reasons).Nodup :=
  (List.perm_insertionSort _ _).nodup_iff.mpr (List.nodup_dedup _)

theorem reasonCodes_evaluate (engine : RiskEngine) (token : TokenState)
    (features : FeatureSnapshot) (observedAt : OffsetDateTime) :
    (engine.evaluate token features observedAt).reasonCodes = dedupReasons
      ((rugRisk features).reasonCodes ++ (bundleRisk features).reasonCodes ++
        (devRisk token features).reasonCodes ++ (topHolderRisk features).reasonCodes ++
        (fakeMomentumRisk features).reasonCodes ++
        (engine.dataQualityRisk features).reasonCodes ++
        policyReasons (engine.evaluate token features observedAt).discardPolicy) := rfl

/-- The six scores are in the unit interval and the overall score is between them. Each reason
of the assessment stands once, and is one of a score or the one of the policy. -/
theorem overall_score_between (engine : RiskEngine) (token : TokenState)
    (features : FeatureSnapshot) (observedAt : OffsetDateTime) :
    let assessment := engine.evaluate token features observedAt
    (∀ score ∈ assessment.scores, 0 ≤ score ∧ score ≤ 1) ∧
      (∃ least ∈ assessment.scores, least ≤ assessment.overallScore) ∧
      (∃ largest ∈ assessment.scores, assessment.overallScore ≤ largest) ∧
      assessment.reasonCodes.Nodup ∧
      ∀ reason, reason ∈ assessment.reasonCodes ↔
        reason ∈ policyReasons assessment.discardPolicy ∨
        ∃ score ∈ [assessment.rug, assessment.bundle, assessment.dev, assessment.topHolder,
          assessment.fakeMomentum, assessment.dataQuality], reason ∈ score.reasonCodes := by
  have hbetween := WeightedMeans.mean_between
    (total_weightedScores (engine.evaluate token features observedAt)) (weight_nonneg _)
  rw [← overallScore_eq_mean] at hbetween
  refine ⟨engine.score_mem_unit token features observedAt, ?_, ?_, ?_, ?_⟩
  · obtain ⟨entry, hmem, hle⟩ := hbetween.1
    exact ⟨entry.1, score_of_weighted hmem, hle⟩
  · obtain ⟨entry, hmem, hle⟩ := hbetween.2
    exact ⟨entry.1, score_of_weighted hmem, hle⟩
  · rw [reasonCodes_evaluate]
    exact nodup_dedupReasons _
  · intro reason
    rw [reasonCodes_evaluate, mem_dedupReasons]
    simp only [List.mem_append, List.mem_cons, List.not_mem_nil, or_false, exists_eq_or_imp,
      exists_eq_left]
    exact ⟨fun h => by tauto, fun h => by tauto⟩

/-! ## The ladder of policies -/

/-- The guards of a cascade against those of another one that holds whatever it holds. -/
theorem cascade_le {stop stop' collapse collapse' dev dev' soft soft' sample sample' : Prop}
    [Decidable stop] [Decidable stop'] [Decidable collapse] [Decidable collapse']
    [Decidable dev] [Decidable dev'] [Decidable soft] [Decidable soft'] [Decidable sample]
    [Decidable sample'] (hstop : stop → stop') (hcollapse : collapse → collapse')
    (hdev : dev → dev') (hsoft : soft → soft') (hsample : sample → sample') :
    (if stop then 5 else if collapse then if dev then 4 else 3 else if soft then 2
      else if sample then 1 else 0) ≤
    if stop' then 5 else if collapse' then if dev' then 4 else 3 else if soft' then 2
      else if sample' then 1 else 0 := by
  split_ifs <;> first | omega | tauto

variable {rug bundle dev topHolder fakeMomentum dataQuality : RiskScore}

/-- The rug score or its reasons call for a discard. -/
abbrev Collapses (engine : RiskEngine) (rug : RiskScore) : Prop :=
  engine.hardDiscardRugThreshold ≤ rug.score ∨ .priceCollapse70 ∈ rug.reasonCodes

/-- The scores call for a soft discard. -/
abbrev Softens (engine : RiskEngine) (rug bundle dev topHolder fakeMomentum : RiskScore) : Prop :=
  (.devSoldEarly ∈ dev.reasonCodes ∧
      (30 / 100 ≤ topHolder.score ∨ 40 / 100 ≤ fakeMomentum.score ∨ 25 / 100 ≤ rug.score)) ∨
    engine.softDiscardBundleThreshold ≤ bundle.score ∨
    engine.topHolderThreshold ≤ topHolder.score ∨
    engine.fakeMomentumThreshold ≤ fakeMomentum.score

theorem strictness_discardPolicy (engine : RiskEngine) :
    strictness (engine.discardPolicy rug bundle dev topHolder fakeMomentum dataQuality) =
      if dataQuality.recommendedLifecycleAction = .dataGapStop then 5
      else if engine.Collapses rug then if 6 / 10 ≤ dev.score then 4 else 3
      else if engine.Softens rug bundle dev topHolder fakeMomentum then 2
      else if 60 / 100 ≤ rug.score ∨ 65 / 100 ≤ dev.score then 1 else 0 := by
  unfold discardPolicy Collapses Softens
  by_cases hstop : dataQuality.recommendedLifecycleAction = .dataGapStop
  · simp only [hstop, if_true, strictness]
  · rw [if_neg hstop, if_neg hstop]
    by_cases hcollapse : engine.hardDiscardRugThreshold ≤ rug.score ∨
        .priceCollapse70 ∈ rug.reasonCodes
    · rw [if_pos hcollapse, if_pos hcollapse]
      split <;> rfl
    · rw [if_neg hcollapse, if_neg hcollapse]
      by_cases hsold : .devSoldEarly ∈ dev.reasonCodes ∧
          (30 / 100 ≤ topHolder.score ∨ 40 / 100 ≤ fakeMomentum.score ∨ 25 / 100 ≤ rug.score)
      · rw [if_pos hsold, if_pos (Or.inl hsold)]
        rfl
      · simp only [hsold, if_false, false_or]
        split
        · rfl
        · split <;> rfl

variable {rug' bundle' dev' topHolder' fakeMomentum' dataQuality' : RiskScore}

theorem strictness_mono (engine : RiskEngine) (hrug : rug.AtMost rug')
    (hbundle : bundle.AtMost bundle') (hdev : dev.AtMost dev')
    (htop : topHolder.AtMost topHolder') (hfake : fakeMomentum.AtMost fakeMomentum')
    (hstop : dataQuality.recommendedLifecycleAction = .dataGapStop →
      dataQuality'.recommendedLifecycleAction = .dataGapStop) :
    strictness (engine.discardPolicy rug bundle dev topHolder fakeMomentum dataQuality) ≤
      strictness
        (engine.discardPolicy rug' bundle' dev' topHolder' fakeMomentum' dataQuality') := by
  rw [strictness_discardPolicy, strictness_discardPolicy]
  apply cascade_le hstop
  · exact Or.imp (fun h => h.trans hrug.score_le) (fun h => hrug.reasons h)
  · exact fun h => h.trans hdev.score_le
  · refine Or.imp (fun h => ⟨hdev.reasons h.1, h.2.imp ?_ (Or.imp ?_ ?_)⟩)
      (Or.imp ?_ (Or.imp ?_ ?_))
    · exact fun h => h.trans htop.score_le
    · exact fun h => h.trans hfake.score_le
    · exact fun h => h.trans hrug.score_le
    · exact fun h => h.trans hbundle.score_le
    · exact fun h => h.trans htop.score_le
    · exact fun h => h.trans hfake.score_le
  · exact Or.imp (fun h => h.trans hrug.score_le) (fun h => h.trans hdev.score_le)

theorem discardPolicy_eq_dataGapStop_iff (engine : RiskEngine) :
    engine.discardPolicy rug bundle dev topHolder fakeMomentum dataQuality = .dataGapStop ↔
      dataQuality.recommendedLifecycleAction = .dataGapStop := by
  unfold discardPolicy
  split_ifs <;> simp_all

theorem hardBlocked_forDecision_iff (decisionEngine : DecisionEngine) (engine : RiskEngine)
    (token : TokenState) (features : FeatureSnapshot) (observedAt : OffsetDateTime) :
    decisionEngine.hardBlocked (engine.evaluate token features observedAt).forDecision = true ↔
      decisionEngine.killSwitch = true ∨
      (engine.dataQualityRisk features).recommendedLifecycleAction = .dataGapStop ∨
      decisionEngine.thresholds.maxRugRisk ≤ (rugRisk features).score ∨
      decisionEngine.thresholds.maxBundleRisk ≤ (bundleRisk features).score ∨
      decisionEngine.thresholds.maxFakeMomentumRisk ≤ (fakeMomentumRisk features).score := by
  have hpolicy : (engine.evaluate token features observedAt).forDecision.discardPolicy =
      .dataGapStop ↔
        (engine.dataQualityRisk features).recommendedLifecycleAction = .dataGapStop :=
    discardPolicy_eq_dataGapStop_iff engine
  simp only [DecisionEngine.hardBlocked, DecisionEngine.dataGapStopped,
    DecisionEngine.riskBlocked, hpolicy, Bool.or_eq_true, decide_eq_true_eq, or_assoc]
  exact or_congr_right ⟨Or.rec .inl id, .inr⟩

/-- A snapshot that speaks more against its token has an assessment that is no more lenient. -/
theorem worse_evidence_no_more_lenient (engine : RiskEngine) {token token' : TokenState}
    {features features' : FeatureSnapshot} (hcluster : KeepsCluster token token')
    (h : Worsens features features') (observedAt observedAt' : OffsetDateTime) :
    (engine.evaluate token features observedAt).NoMoreLenient
      (engine.evaluate token' features' observedAt') := by
  have hrug := rugRisk_atMost h
  have hbundle := bundleRisk_atMost h
  have hdev := devRisk_atMost hcluster h
  have htop := topHolderRisk_atMost h
  have hfake := fakeMomentumRisk_atMost h
  have hquality := dataQualityRisk_atMost engine h
  refine ⟨hrug, hbundle, hdev, htop, hfake, hquality, ?_, ?_, ?_⟩
  · exact clamp01_mono (weightedAverage_mono
      (.cons hrug.score_le (by norm_num)
      (.cons hbundle.score_le (by norm_num)
      (.cons hdev.score_le (by norm_num)
      (.cons htop.score_le (by norm_num)
      (.cons hfake.score_le (by norm_num)
      (.cons hquality.score_le (by norm_num) .nil)))))))
  · exact strictness_mono engine hrug hbundle hdev htop hfake (dataQualityRisk_stops engine h)
  · intro decisionEngine
    rw [hardBlocked_forDecision_iff, hardBlocked_forDecision_iff]
    exact Or.imp_right (Or.imp (dataQualityRisk_stops engine h)
      (Or.imp (fun hle => hle.trans hrug.score_le) (Or.imp
        (fun hle => hle.trans hbundle.score_le) (fun hle => hle.trans hfake.score_le))))

/-- Poor data on a token whose developer has sold. -/
def soldFeatures : FeatureSnapshot :=
  { DecisionEngine.poorFeatures with
    values := fun featureId =>
      if featureId = "dev_sold_flag" then
        some { featureId := featureId, status := .available, value := some (.boolean true) }
      else DecisionEngine.poorFeatures.values featureId }

theorem worsens_soldFeatures :
    Worsens (DecisionEngine.qualityFeatures ⟨"mint"⟩ 1) soldFeatures where
  harmful := by decide +kernel
  helpful := by decide +kernel
  tradeAllowed := by decide +kernel

theorem worse_evidence_no_more_lenient_sold :
    (evaluate {} DecisionEngine.triggeredToken (DecisionEngine.qualityFeatures ⟨"mint"⟩ 1)
      unixEpoch).NoMoreLenient
      (evaluate {} DecisionEngine.triggeredToken soldFeatures unixEpoch) :=
  worse_evidence_no_more_lenient {} (fun hcluster => hcluster) worsens_soldFeatures unixEpoch
    unixEpoch

end RiskEngine

end PumpLaunchTrader.Risk
