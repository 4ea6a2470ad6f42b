import PumpLaunchTrader.Decision.Sizing
import PumpLaunchTrader.Lib.Means
import PumpLaunchTrader.Model.Risk

/-! # Risk scores

The scores of an assessment are clamped weighted averages: they lie in the unit interval, the
overall score lies between the smallest and the largest of the six, and all of them grow with
the features that speak against a token. -/

namespace PumpLaunchTrader.Risk

/-! ## Averages and clamps -/

theorem foldl_weighted (values : List (Decimal × Decimal)) (sums : Decimal × Decimal) :
    values.foldl (fun (sums : Decimal × Decimal) (entry : Decimal × Decimal) =>
      (sums.1 + entry.1 * entry.2, sums.2 + entry.2)) sums =
      (sums.1 + WeightedMeans.weighted values, sums.2 + WeightedMeans.total values) := by
  induction values generalizing sums with
  | nil => simp
  | cons entry values ih =>
      rw [List.foldl_cons, ih]
      simp [add_assoc]

theorem weightedAverage_eq_mean (values : List (Decimal × Decimal)) :
    weightedAverage values = WeightedMeans.mean values := by
  simp only [weightedAverage, foldl_weighted, zero_add, WeightedMeans.mean]

theorem weightedAverage_mono {values values' : List (Decimal × Decimal)}
    (h : WeightedMeans.AtMost values values') :
    weightedAverage values ≤ weightedAverage values' := by
  rw [weightedAverage_eq_mean, weightedAverage_eq_mean]
  exact WeightedMeans.mean_mono h

theorem clamp01_le_one (value : Decimal) : clamp01 value ≤ 1 := by
  unfold clamp01
  exact min_le_right _ _

theorem clamp01_of_mem {value : Decimal} (hzero : 0 ≤ value) (hone : value ≤ 1) :
    clamp01 value = value := by
  rw [clamp01, max_eq_left hzero, min_eq_left hone]

theorem normalizeCount_mono {value value' : Decimal} (h : value ≤ value') (cap : ℕ) :
    normalizeCount value cap ≤ normalizeCount value' cap :=
  clamp01_mono (div_le_div_of_nonneg_right h (Nat.cast_nonneg _))

/-! ## Reasons -/

theorem mem_dedupReasons {reasons : List ReasonCode} {reason : ReasonCode} :
    reason ∈ dedupReasons reasons ↔ reason ∈ reasons := by
  rw [dedupReasons, orderedReasonCodes, List.mem_insertionSort, List.mem_dedup]

theorem dedupReasons_subset {reasons reasons' : List ReasonCode} (h : reasons ⊆ reasons') :
    dedupReasons reasons ⊆ dedupReasons reasons' := fun _ hmem =>
  mem_dedupReasons.mpr (h (mem_dedupReasons.mp hmem))

theorem reasonIf_subset {holds holds' : Prop} [Decidable holds] [Decidable holds']
    (h : holds → holds') (reason : ReasonCode) :
    (if holds then [reason] else []) ⊆ (if holds' then [reason] else []) := by
  by_cases hholds : holds
  · rw [if_pos hholds, if_pos (h hholds)]
    exact List.Subset.refl _
  · rw [if_neg hholds]
    exact List.nil_subset _

theorem append_subset_append {xs xs' ys ys' : List ReasonCode} (hxs : xs ⊆ xs')
    (hys : ys ⊆ ys') : xs ++ ys ⊆ xs' ++ ys' := by
  intro reason hmem
  rw [List.mem_append] at hmem ⊢
  exact hmem.imp (fun h => hxs h) (fun h => hys h)

/-! ## Features that speak against a token -/

/-- The features that raise a risk score. -/
def harmfulFeatures : List String :=
  ["dev_sold_flag", "dev_sold_pct", "price_drop_70pct_from_launch_within_5m",
    "drawdown_from_ath_pct", "no_buys_for_x_seconds", "holder_growth_stalled",
    "sells_dominate_after_launch", "concentration_risk_score", "shred_sell_warning_level",
    "shred_emergency_exit_triggered_flag", "malicious_sell_intent_score",
    "rug_probability_score", "same_slot_multi_buy_count",
    "first_n_buys_identical_amount_count", "first_n_buys_same_funder_count",
    "bundle_wallets_top_holder_pct", "tentative_sell_from_bundle_count", "bundle_risk_score",
    "creator_is_top1_holder", "creator_retained_supply_pct", "creator_launches_last_1h",
    "creator_reuses_same_payer", "creator_launching_spam_wave_flag",
    "tentative_sell_from_dev_count", "top1_holder_pct", "one_wallet_controls_market_flag",
    "profit_overhang_score", "free_roll_dump_risk_score", "top_holders_same_funder_pct",
    "top_holders_same_client_fingerprint_pct", "price_up_top_holders_selling",
    "tentative_sell_from_top_holder_count", "vertical_move_without_holder_growth",
    "vertical_move_without_unique_buyers", "price_up_no_retail_breadth",
    "price_up_bundle_selling", "price_up_dev_selling", "price_up_only_one_or_two_large_buys",
    "price_up_buy_size_concentration_high", "exit_liquidity_trap_score",
    "critical_feature_missing_count", "source_disagreement_flag", "shred_signal_stale_flag",
    "account_update_gap_flag", "transaction_stream_gap_flag", "slot_status_gap_flag"]

/-- The features that lower a risk score. -/
def helpfulFeatures : List String :=
  ["data_quality_score", "momentum_authenticity_score", "absorption_success_score",
    "holder_stickiness_score"]

/-- The second snapshot speaks at least as much against its token as the first one. -/
structure Worsens (features features' : FeatureSnapshot) : Prop where
  harmful : ∀ featureId ∈ harmfulFeatures,
    features.decimalOrZero featureId ≤ features'.decimalOrZero featureId
  helpful : ∀ featureId ∈ helpfulFeatures,
    features'.decimalOrZero featureId ≤ features.decimalOrZero featureId
  tradeAllowed : features.decimalOrZero "trade_allowed_data_quality_flag" = 0 →
    features'.decimalOrZero "trade_allowed_data_quality_flag" = 0

/-- A score with its reasons is at most another one. -/
structure RiskScore.AtMost (score score' : RiskScore) : Prop where
  score_le : score.score ≤ score'.score
  reasons : score.reasonCodes ⊆ score'.reasonCodes

namespace Worsens

variable {features features' : FeatureSnapshot}

theorem decimal_le (h : Worsens features features') (featureId : String)
    (hmem : featureId ∈ harmfulFeatures) :
    decimal features featureId ≤ decimal features' featureId := h.harmful featureId hmem

theorem boolDecimal_le (h : Worsens features features') (featureId : String)
    (hmem : featureId ∈ harmfulFeatures) :
    boolDecimal features featureId ≤ boolDecimal features' featureId := h.harmful featureId hmem

theorem le_decimal (h : Worsens features features') (featureId : String)
    (hmem : featureId ∈ helpfulFeatures) :
    decimal features' featureId ≤ decimal features featureId := h.helpful featureId hmem

end Worsens

/-! ## The six scores -/

open WeightedMeans (AtMost)

namespace RiskEngine

variable {features features' : FeatureSnapshot}

theorem rugRisk_atMost (h : Worsens features features') :
    (rugRisk features).AtMost (rugRisk features') := by
  have hflag := h.boolDecimal_le "dev_sold_flag" (by simp [harmfulFeatures])
  have hpct := h.decimal_le "dev_sold_pct" (by simp [harmfulFeatures])
  have hlaunch := h.boolDecimal_le "price_drop_70pct_from_launch_within_5m"
    (by simp [harmfulFeatures])
  have hdrawdown := h.decimal_le "drawdown_from_ath_pct"
    (by simp [harmfulFeatures])
  have hath : clamp01 ((decimal features "drawdown_from_ath_pct" - 70 / 100) / (30 / 100)) ≤
      clamp01 ((decimal features' "drawdown_from_ath_pct" - 70 / 100) / (30 / 100)) :=
    clamp01_mono (div_le_div_of_nonneg_right (sub_le_sub_right hdrawdown _) (by norm_num))
  have hbuys := h.boolDecimal_le "no_buys_for_x_seconds"
    (by simp [harmfulFeatures])
  have hwarning := h.decimal_le "shred_sell_warning_level"
    (by simp [harmfulFeatures])
  have htriggered := h.boolDecimal_le "shred_emergency_exit_triggered_flag"
    (by simp [harmfulFeatures])
  have hscore : (rugRisk features).score ≤ (rugRisk features').score :=
    clamp01_mono (weightedAverage_mono
      (.cons (h.decimal_le _ (by simp [harmfulFeatures])) (by norm_num)
      (.cons (max_le_max hpct hflag) (by norm_num)
      (.cons (max_le_max hlaunch hath) (by norm_num)
      (.cons (h.boolDecimal_le _ (by simp [harmfulFeatures])) (by norm_num)
      (.cons (h.boolDecimal_le _ (by simp [harmfulFeatures])) (by norm_num)
      (.cons (h.decimal_le _ (by simp [harmfulFeatures])) (by norm_num)
      (.cons (sub_le_sub_left (h.le_decimal _ (by simp [helpfulFeatures])) _) (by norm_num)
      (.cons (h.decimal_le _ (by simp [harmfulFeatures])) (by norm_num)
      (.cons (max_le_max htriggered (div_le_div_of_nonneg_right hwarning (by norm_num)))
        (by norm_num) .nil))))))))))
  refine ⟨hscore, dedupReasons_subset (append_subset_append (append_subset_append
    (append_subset_append (append_subset_append ?_ ?_) ?_) ?_) ?_)⟩
  · refine reasonIf_subset (fun hsold => ?_) _
    simp only [decide_eq_true_eq] at hsold ⊢
    exact hsold.imp (fun hlt => hlt.trans_le hpct) (fun hlt => hlt.trans_le hflag)
  · refine reasonIf_subset (fun hcollapsed => ?_) _
    simp only [decide_eq_true_eq] at hcollapsed ⊢
    exact hcollapsed.imp (fun hlt => hlt.trans_le hlaunch) (fun hle => hle.trans hath)
  · refine reasonIf_subset (fun hgone => ?_) _
    simp only [decide_eq_true_eq] at hgone ⊢
    exact hgone.trans_le hbuys
  · refine reasonIf_subset (fun hpressure => ?_) _
    simp only [decide_eq_true_eq] at hpressure ⊢
    exact hpressure.imp (fun hle => hle.trans hwarning) (fun hlt => hlt.trans_le htriggered)
  · exact reasonIf_subset (fun hhigh => hhigh.trans hscore) _

theorem bundleRisk_atMost (h : Worsens features features') :
    (bundleRisk features).AtMost (bundleRisk features') := by
  have hfunder := h.decimal_le "first_n_buys_same_funder_count"
    (by simp [harmfulFeatures])
  have hshred := h.decimal_le "tentative_sell_from_bundle_count"
    (by simp [harmfulFeatures])
  have hscore : (bundleRisk features).score ≤ (bundleRisk features').score :=
    clamp01_mono (weightedAverage_mono
      (.cons (h.decimal_le _ (by simp [harmfulFeatures])) (by norm_num)
      (.cons (normalizeCount_mono (h.decimal_le _ (by simp [harmfulFeatures])) 8) (by norm_num)
      (.cons (normalizeCount_mono (h.decimal_le _ (by simp [harmfulFeatures])) 8) (by norm_num)
      (.cons (normalizeCount_mono hfunder 8) (by norm_num)
      (.cons (h.decimal_le _ (by simp [harmfulFeatures])) (by norm_num)
      (.cons (normalizeCount_mono hshred 4) (by norm_num)
      (.cons (div_le_div_of_nonneg_right (h.decimal_le _ (by simp [harmfulFeatures]))
        (by norm_num)) (by norm_num) .nil))))))))
  refine ⟨hscore, dedupReasons_subset (append_subset_append
    (append_subset_append ?_ ?_) ?_)⟩
  · exact reasonIf_subset (fun hpositive => hpositive.trans_le hfunder) _
  · exact reasonIf_subset (fun hpositive => hpositive.trans_le hshred) _
  · exact reasonIf_subset (fun hhigh => hhigh.trans hscore) _

/-- The second token belongs to a cluster if the first one does. -/
def KeepsCluster (token token' : TokenState) : Prop :=
  token.developerState.relatedClusterId.isSome → token'.developerState.relatedClusterId.isSome

theorem devRisk_atMost {token token' : TokenState} (hcluster : KeepsCluster token token')
    (h : Worsens features features') :
    (devRisk token features).AtMost (devRisk token' features') := by
  have hflag := h.boolDecimal_le "dev_sold_flag" (by simp [harmfulFeatures])
  have hpct := h.decimal_le "dev_sold_pct" (by simp [harmfulFeatures])
  have hsells := h.decimal_le "tentative_sell_from_dev_count"
    (by simp [harmfulFeatures])
  have hpressure : (if token.developerState.relatedClusterId.isSome then 1 / 10 else 0 : Decimal) ≤
      if token'.developerState.relatedClusterId.isSome then 1 / 10 else 0 := by
    by_cases hrelated : token.developerState.relatedClusterId.isSome
    · rw [if_pos hrelated, if_pos (hcluster hrelated)]
    · rw [if_neg hrelated]
      split <;> norm_num
  have hscore : (devRisk token features).score ≤ (devRisk token' features').score :=
    clamp01_mono (weightedAverage_mono
      (.cons (max_le_max hpct hflag) (by norm_num)
      (.cons (h.boolDecimal_le _ (by simp [harmfulFeatures])) (by norm_num)
      (.cons (h.decimal_le _ (by simp [harmfulFeatures])) (by norm_num)
      (.cons (normalizeCount_mono (h.decimal_le _ (by simp [harmfulFeatures])) 5) (by norm_num)
      (.cons (h.boolDecimal_le _ (by simp [harmfulFeatures])) (by norm_num)
      (.cons (h.boolDecimal_le _ (by simp [harmfulFeatures])) (by norm_num)
      (.cons hpressure (by norm_num)
      (.cons (normalizeCount_mono hsells 3) (by norm_num)
      (.cons (div_le_div_of_nonneg_right (h.decimal_le _ (by simp [harmfulFeatures]))
        (by norm_num)) (by norm_num) .nil))))))))))
  refine ⟨hscore, dedupReasons_subset (append_subset_append ?_ ?_)⟩
  · refine reasonIf_subset (fun hsold => ?_) _
    simp only [decide_eq_true_eq] at hsold ⊢
    exact hsold.imp (fun hlt => hlt.trans_le hpct) (fun hlt => hlt.trans_le hflag)
  · exact reasonIf_subset (fun hpositive => hpositive.trans_le hsells) _

theorem topHolderRisk_atMost (h : Worsens features features') :
    (topHolderRisk features).AtMost (topHolderRisk features') := by
  have htop := h.decimal_le "top1_holder_pct" (by simp [harmfulFeatures])
  have hwallet := h.boolDecimal_le "one_wallet_controls_market_flag"
    (by simp [harmfulFeatures])
  have hselling := h.boolDecimal_le "price_up_top_holders_selling"
    (by simp [harmfulFeatures])
  have hsells := h.decimal_le "tentative_sell_from_top_holder_count"
    (by simp [harmfulFeatures])
  have hscore : (topHolderRisk features).score ≤ (topHolderRisk features').score :=
    clamp01_mono (weightedAverage_mono
      (.cons (h.decimal_le _ (by simp [harmfulFeatures])) (by norm_num)
      (.cons (h.decimal_le _ (by simp [harmfulFeatures])) (by norm_num)
      (.cons (h.decimal_le _ (by simp [harmfulFeatures])) (by norm_num)
      (.cons (h.decimal_le _ (by simp [harmfulFeatures])) (by norm_num)
      (.cons (h.decimal_le _ (by simp [harmfulFeatures])) (by norm_num)
      (.cons hselling (by norm_num)
      (.cons htop (by norm_num)
      (.cons (normalizeCount_mono hsells 4) (by norm_num) .nil)))))))))
  refine ⟨hscore, dedupReasons_subset (append_subset_append
    (append_subset_append ?_ ?_) ?_)⟩
  · refine reasonIf_subset (fun hdumping => ?_) _
    simp only [decide_eq_true_eq] at hdumping ⊢
    exact hdumping.imp (fun hlt => hlt.trans_le hwallet)
      (Or.imp (fun hlt => hlt.trans_le hselling) (fun hle => hle.trans htop))
  · exact reasonIf_subset (fun hpositive => hpositive.trans_le hsells) _
  · exact reasonIf_subset (fun hhigh => hhigh.trans hscore) _

theorem fakeMomentumRisk_atMost (h : Worsens features features') :
    (fakeMomentumRisk features).AtMost (fakeMomentumRisk features') := by
  have hgrowth := h.boolDecimal_le "vertical_move_without_holder_growth"
    (by simp [harmfulFeatures])
  have hbuyers := h.boolDecimal_le "vertical_move_without_unique_buyers"
    (by simp [harmfulFeatures])
  have hbreadth := h.boolDecimal_le "price_up_no_retail_breadth"
    (by simp [harmfulFeatures])
  have hholder := h.boolDecimal_le "price_up_top_holders_selling"
    (by simp [harmfulFeatures])
  have hbundle := h.boolDecimal_le "price_up_bundle_selling"
    (by simp [harmfulFeatures])
  have hdev := h.boolDecimal_le "price_up_dev_selling"
    (by simp [harmfulFeatures])
  have hconcentrated := h.boolDecimal_le "price_up_buy_size_concentration_high"
    (by simp [harmfulFeatures])
  have hsold := h.boolDecimal_le "dev_sold_flag" (by simp [harmfulFeatures])
  have hextreme : clamp01 ((decimal features "top1_holder_pct" - 65 / 100) / (35 / 100)) ≤
      clamp01 ((decimal features' "top1_holder_pct" - 65 / 100) / (35 / 100)) :=
    clamp01_mono (div_le_div_of_nonneg_right
      (sub_le_sub_right (h.decimal_le _ (by simp [harmfulFeatures])) _) (by norm_num))
  refine ⟨clamp01_mono (sub_le_sub ?_ ?_), dedupReasons_subset (reasonIf_subset ?_ _)⟩
  · exact weightedAverage_mono
      (.cons hgrowth (by norm_num)
      (.cons hbuyers (by norm_num)
      (.cons hbreadth (by norm_num)
      (.cons hholder (by norm_num)
      (.cons hbundle (by norm_num)
      (.cons hdev (by norm_num)
      (.cons (h.boolDecimal_le _ (by simp [harmfulFeatures])) (by norm_num)
      (.cons hconcentrated (by norm_num)
      (.cons (h.decimal_le _ (by simp [harmfulFeatures])) (by norm_num)
      (.cons hextreme (by norm_num)
      (.cons hsold (by norm_num)
      (.cons (sub_le_sub_left (h.le_decimal _ (by simp [helpfulFeatures])) _) (by norm_num)
      (.cons (div_le_div_of_nonneg_right (h.decimal_le _ (by simp [harmfulFeatures]))
        (by norm_num)) (by norm_num)
      (.cons (div_le_div_of_nonneg_right (h.decimal_le _ (by simp [harmfulFeatures]))
        (by norm_num)) (by norm_num) .nil))))))))))))))
  · exact weightedAverage_mono
      (.cons (h.le_decimal _ (by simp [helpfulFeatures])) (by norm_num)
      (.cons (h.le_decimal _ (by simp [helpfulFeatures])) (by norm_num) .nil))
  · intro hflagged
    simp only [decide_eq_true_eq] at hflagged ⊢
    rcases hflagged with hlt | hlt | hlt | hlt | hlt | hlt | hlt | ⟨hpos, hlt⟩
    · exact .inl (hlt.trans_le hgrowth)
    · exact .inr (.inl (hlt.trans_le hbuyers))
    · exact .inr (.inr (.inl (hlt.trans_le hbreadth)))
    · exact .inr (.inr (.inr (.inl (hlt.trans_le hholder))))
    · exact .inr (.inr (.inr (.inr (.inl (hlt.trans_le hbundle)))))
    · exact .inr (.inr (.inr (.inr (.inr (.inl (hlt.trans_le hdev))))))
    · exact .inr (.inr (.inr (.inr (.inr (.inr (.inl (hlt.trans_le hconcentrated)))))))
    · exact .inr (.inr (.inr (.inr (.inr (.inr (.inr
        ⟨hpos.trans_le hextreme, hlt.trans_le hsold⟩))))))

theorem explicitGap_le (h : Worsens features features') :
    explicitGap features ≤ explicitGap features' :=
  max_le_max (max_le_max (max_le_max (max_le_max
    (h.boolDecimal_le _ (by simp [harmfulFeatures]))
    (h.boolDecimal_le _ (by simp [harmfulFeatures])))
    (h.boolDecimal_le _ (by simp [harmfulFeatures])))
    (h.boolDecimal_le _ (by simp [harmfulFeatures])))
    (h.boolDecimal_le _ (by simp [harmfulFeatures]))

theorem dataQualityRisk_atMost (engine : RiskEngine) (h : Worsens features features') :
    (engine.dataQualityRisk features).AtMost (engine.dataQualityRisk features') := by
  refine ⟨clamp01_mono (weightedAverage_mono
    (.cons (sub_le_sub_left (h.le_decimal _ (by simp [helpfulFeatures])) _) (by norm_num)
    (.cons (normalizeCount_mono (h.decimal_le _ (by simp [harmfulFeatures])) 5) (by norm_num)
    (.cons (h.boolDecimal_le _ (by simp [harmfulFeatures])) (by norm_num)
    (.cons (h.boolDecimal_le _ (by simp [harmfulFeatures])) (by norm_num) .nil))))),
    dedupReasons_subset (reasonIf_subset (fun hactive => ?_) _)⟩
  simp only [decide_eq_true_eq] at hactive ⊢
  exact ⟨h.tradeAllowed hactive.1, hactive.2.trans_le (explicitGap_le h)⟩

/-- When the data quality score calls for a stop. -/
theorem dataQualityRisk_stops_iff (engine : RiskEngine) (features : FeatureSnapshot) :
    (engine.dataQualityRisk features).recommendedLifecycleAction = .dataGapStop ↔
      0 < explicitGap features ∧
        (decimal features "data_quality_score" < engine.minDataQuality ∨
          boolDecimal features "trade_allowed_data_quality_flag" = 0) := by
  simp only [dataQualityRisk]
  split <;> simp_all

theorem dataQualityRisk_stops (engine : RiskEngine) (h : Worsens features features')
    (hstop : (engine.dataQualityRisk features).recommendedLifecycleAction = .dataGapStop) :
    (engine.dataQualityRisk features').recommendedLifecycleAction = .dataGapStop := by
  rw [dataQualityRisk_stops_iff] at hstop ⊢
  refine ⟨hstop.1.trans_le (explicitGap_le h), hstop.2.imp (fun hlow => ?_) h.tradeAllowed⟩
  exact (h.le_decimal _ (by simp [helpfulFeatures])).trans_lt hlow

end RiskEngine

end PumpLaunchTrader.Risk
