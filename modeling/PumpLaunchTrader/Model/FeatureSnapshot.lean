import PumpLaunchTrader.Model.Features
import PumpLaunchTrader.Model.State.Engine

/-! # Feature snapshots (`features::FeatureEngine`)

A snapshot starts from the registered features, none of them available. Each family overwrites
registered features; the last two are the families of the shred exit defense and of the data
quality. The confidence and the notes of a value are left out. -/

namespace PumpLaunchTrader

namespace Features

/-! ## Registry -/

def launchIdentityFeatures : List String :=
  ["launch_slot", "time_since_launch_ms", "mint", "quote_mint", "quote_asset_type",
    "creator_wallet", "payer_wallet", "bonding_curve_pubkey", "associated_bonding_curve_pubkey",
    "metadata_pubkey", "token_program_type", "create_instruction_variant", "name_length",
    "symbol_length", "uri_length", "has_empty_name", "has_empty_symbol", "has_empty_uri",
    "duplicate_name_seen_historically", "duplicate_symbol_seen_historically",
    "duplicate_uri_seen_historically", "name_entropy", "symbol_entropy", "uri_entropy",
    "suspicious_unicode_score", "uri_scheme", "launch_same_tx_buy_count",
    "launch_same_slot_buy_count", "first_seen_source", "launch_tx_client_fingerprint"]

def creatorFeatures : List String :=
  ["creator_age_in_local_index", "creator_total_launches_seen", "creator_launches_last_1h",
    "creator_cluster_id", "creator_reuses_same_payer", "creator_reuses_same_metadata_domain",
    "creator_launching_spam_wave_flag"]

def devHoldingsFeatures : List String :=
  ["creator_initial_token_balance", "creator_retained_supply_pct", "creator_net_tokens_after_10s",
    "creator_net_tokens_after_30s", "creator_net_tokens_after_1m", "creator_net_tokens_after_5m",
    "creator_net_quote_flow_after_10s", "creator_net_quote_flow_after_30s",
    "creator_net_quote_flow_after_1m", "creator_net_quote_flow_after_5m", "creator_has_sold",
    "creator_first_sell_time_ms", "creator_dump_velocity", "creator_balance_rank",
    "creator_is_top1_holder", "creator_is_top3_holder", "creator_is_top5_holder",
    "creator_is_top10_holder", "dev_balance", "creator_ownership_pct",
    "dev_holding_pct_total_supply", "dev_holding_pct_curve_economic_supply",
    "token_supply_selected_for_holder_pct", "dev_holding_pct_circulating"]

def curveFeatures : List String :=
  ["virtual_quote_reserves", "virtual_token_reserves", "real_quote_reserves", "real_token_reserves",
    "token_decimals", "price_lamports_per_raw_token", "price_sol_per_token",
    "reserve_price_confidence", "price_current", "price_launch", "price_change_from_launch_pct",
    "market_cap_quote_1b", "market_cap_quote_total_supply", "token_supply_curve_economic_ui",
    "token_supply_protocol_constant_ui", "token_supply_selected_for_market_cap",
    "token_supply_selected_for_curve_progress", "supply_denominator_policy_version",
    "market_cap_confidence", "curve_complete_flag", "curve_progress_pct",
    "curve_progress_confidence", "curve_completion_pct", "curve_staleness_ms",
    "quote_asset_specific_depth_score", "quote_asset_specific_curve_health"]

def pricePathFeatures : List String :=
  ["return_pct_30s", "return_pct_1m", "return_pct_5m", "price_high", "price_low",
    "drawdown_from_ath_pct", "drawdown_from_launch_pct", "realized_volatility_30s",
    "realized_volatility_1m", "price_velocity_30s", "time_to_ath_ms", "time_below_launch_price_pct",
    "new_ath_frequency", "post_ath_selloff_velocity"]

def tradeFlowFeatures : List String :=
  ["buy_count", "sell_count", "trade_count", "unique_buyers", "unique_sellers", "buy_volume_quote",
    "sell_volume_quote", "net_flow_quote", "buy_sell_count_ratio", "buy_sell_volume_ratio",
    "largest_buy_quote", "largest_sell_quote", "median_buy_size_quote", "median_sell_size_quote",
    "p90_buy_size_quote", "p90_sell_size_quote", "first_10_trades_buy_ratio",
    "no_buy_gap_longest_ms", "organic_flow_score", "toxic_flow_score"]

def holdersFeatures : List String :=
  ["holder_count_current", "holder_count_owner_wallets", "holder_count_excluding_curve",
    "holder_count_excluding_curve_and_dev", "observed_holder_supply", "circulating_holder_supply",
    "holder_growth_rate", "holders_with_nonzero_balance", "average_holder_balance",
    "median_holder_balance", "p90_holder_balance", "holder_balance_gini", "holder_balance_hhi",
    "top1_holder_pct", "top1_holder_pct_observed", "top1_holder_pct_total_supply",
    "top1_holder_pct_curve_economic_supply", "top1_holder_pct_circulating", "top3_holder_pct",
    "top5_holder_pct", "top10_holder_pct", "top20_holder_pct",
    "holder_distribution_improvement_score", "sustained_holder_growth_score",
    "holder_metric_confidence", "missing_owner_mapping_count", "holder_updates_seen",
    "holder_updates_applied", "holder_updates_deduped", "holder_owner_changes",
    "holder_missing_owner_mapping", "holder_fallback_trade_updates_used"]

def topHoldersFeatures : List String :=
  ["whale_count", "whale_holding_pct", "top1_is_creator", "concentration_risk_score",
    "one_wallet_controls_market_flag"]

def bundleFeatures : List String :=
  ["same_slot_multi_buy_count", "first_n_buys_identical_amount_count",
    "first_n_buys_same_funder_count", "bundle_wallets_top_holder_pct", "bundle_risk_score",
    "bundle_confidence"]

def rugFeatures : List String :=
  ["dev_sold_flag", "dev_sold_pct", "price_drop_50pct_from_ath",
    "price_drop_70pct_from_launch_within_5m", "holder_growth_stalled",
    "sells_dominate_after_launch", "no_buys_for_x_seconds", "rug_probability_score",
    "rug_confidence"]

def cohortFeatures : List String :=
  ["cohort_launch_count", "cohort_active_count", "cohort_discard_rate", "cohort_rug_rate",
    "token_rank_by_buy_volume_30s", "token_rank_by_net_flow_30s", "token_rank_by_holder_growth_30s",
    "token_rank_by_price_return_30s", "token_percentile_buy_volume_30s",
    "token_percentile_net_flow_30s", "token_percentile_holder_growth_1m",
    "token_percentile_price_return_1m", "token_relative_strength_score",
    "token_relative_weakness_score", "cohort_attention_share",
    "this_token_share_of_all_launch_buy_volume", "this_token_share_of_all_unique_buyers",
    "token_is_cohort_leader_flag", "token_is_cohort_laggard_flag", "token_improving_rank_velocity",
    "token_losing_rank_velocity", "best_launch_in_cohort_distance"]

def capitalRotationFeatures : List String :=
  ["wallets_sold_other_token_then_bought_this_count",
    "net_capital_rotated_into_this_from_other_launches", "smart_capital_rotation_score",
    "this_token_becoming_primary_capital_destination_flag"]

def costBasisFeatures : List String :=
  ["holder_unrealized_pnl_mean", "holder_unrealized_pnl_median", "holder_unrealized_pnl_p90",
    "unrealized_profit_supply_pct", "underwater_supply_pct", "breakeven_supply_pct",
    "free_rolling_supply_pct", "top5_unrealized_pnl", "top10_unrealized_pnl",
    "profit_overhang_score", "underwater_capitulation_risk", "free_roll_dump_risk_score",
    "realized_profit_taking_rate", "holders_taking_initials_out_count",
    "holders_fully_exiting_count"]

def survivalFeatures : List String :=
  ["large_sell_count", "large_sell_total_quote", "price_impact_of_large_sells",
    "recovery_after_large_sell_ms", "recovery_after_large_sell_pct",
    "buyers_after_large_sell_count", "unique_buyers_after_large_sell",
    "buy_volume_after_large_sell", "holder_count_after_large_sell", "absorption_success_score",
    "absorption_failure_score", "repeated_absorption_count", "distribution_into_buyers_score",
    "price_flat_volume_high_distribution_warning", "vertical_move_without_holder_growth",
    "vertical_move_without_unique_buyers", "price_up_top_holders_selling",
    "price_up_bundle_selling", "price_up_dev_selling", "price_up_unique_buyers_down",
    "price_up_holder_count_down", "price_up_buy_size_concentration_high",
    "price_up_only_one_or_two_large_buys", "price_up_no_retail_breadth",
    "momentum_authenticity_score", "exit_liquidity_trap_score", "dev_not_selling_while_price_up",
    "organic_survival_score", "anti_rug_confidence_score"]

def holderLifecycleFeatures : List String :=
  ["holder_age_mean", "holder_age_median", "holder_age_weighted_by_balance",
    "new_holder_survival_30s", "new_holder_survival_1m", "first_10_buyers_retention",
    "first_20_buyers_retention", "average_time_to_first_sell_by_holder", "holder_half_life",
    "holder_decay_rate", "holder_stickiness_score", "holder_paper_hands_score",
    "healthy_churn_score", "unhealthy_churn_score", "new_holders_replacing_old_holders_score"]

def transactionFingerprintFeatures : List String :=
  ["tx_account_count", "tx_instruction_count", "tx_inner_instruction_count",
    "compute_budget_instruction_present", "compute_unit_limit", "compute_unit_price",
    "compute_unit_limit_bucket", "compute_unit_price_bucket", "duplicate_compute_profile_count",
    "duplicate_compute_profile_among_first_buyers", "duplicate_instruction_sequence_count",
    "duplicate_account_pattern_count", "identical_client_fingerprint_score",
    "first_buyers_same_client_fingerprint_pct", "top_holders_same_client_fingerprint_pct",
    "bot_family_dominance_score", "bot_family_diversity_score"]

def fundingGraphFeatures : List String :=
  ["creator_recent_funder", "buyer_recent_funder_overlap_count", "top_holders_same_funder_pct",
    "first_buyers_same_funder_pct", "funder_to_creator_edge_age", "funder_to_buyer_edge_age",
    "funder_to_multiple_launches_count", "same_funder_same_amount_pattern",
    "funding_burst_before_launch", "wallets_funded_just_before_buy_count",
    "fresh_wallets_funded_by_known_factory", "funding_graph_density",
    "funding_graph_suspicion_score", "funding_graph_quality_score"]

def feeCompetitionFeatures : List String :=
  ["launch_priority_fee_median", "launch_priority_fee_p90", "pump_buy_priority_fee_median",
    "pump_sell_priority_fee_median", "first_buyers_priority_fee_median",
    "priority_fee_spike_near_launch", "our_required_priority_fee_estimate", "fee_war_score",
    "edge_minus_fee_war_cost", "high_fee_low_edge_warning", "minimum_move_to_cover_observed_fees"]

def executionFeatures : List String :=
  ["first_seen_by_shred_ns", "shred_lead_time_ms", "token_signal_available_before_geyser_flag",
    "slot_id", "launch_priority_fee_median", "competition_intensity_score",
    "counterfactual_buy_after_100ms_pnl", "latency_adjusted_trade_eligibility"]

def dataQualityFeatures : List String :=
  ["geyser_connected_flag", "shred_connected_flag", "feature_completeness_pct",
    "critical_feature_missing_count", "source_disagreement_flag", "data_quality_score",
    "trade_allowed_data_quality_flag"]

def shredExitDefenseFeatures : List String :=
  ["tentative_sell_count_window", "tentative_sell_volume_quote_window",
    "tentative_sell_from_dev_count", "tentative_sell_from_top_holder_count",
    "tentative_sell_from_bundle_count", "tentative_sell_from_whale_count",
    "tentative_sell_same_slot_cluster_count", "tentative_sell_impact_max_pct",
    "tentative_sell_impact_sum_pct", "tentative_sell_confidence_max",
    "tentative_sell_confidence_mean", "shred_sell_warning_level", "shred_exit_armed_flag",
    "shred_emergency_exit_triggered_flag", "shred_to_geyser_processed_ms",
    "shred_to_account_effect_confirmation_ms", "shred_to_rooted_confirmation_ms",
    "shred_sell_false_positive_rate_wallet", "shred_sell_false_positive_rate_source",
    "shred_sell_saved_loss_estimate", "shred_sell_saved_loss_realized",
    "shred_exit_opportunity_cost", "shred_signal_stale_flag", "shred_exit_latency_budget_ms",
    "shred_exit_latency_used_ms", "shred_exit_edge_score", "malicious_sell_intent_score",
    "preconfirmation_exit_confidence", "dangerous_seller_precomputed_impact_score",
    "exit_threat_index_score"]

def walletEmbeddingsFeatures : List String :=
  ["wallet_behavior_vector", "wallet_risk_vector", "wallet_alpha_vector", "wallet_toxicity_vector",
    "buyer_cohort_similarity_to_past_winners"]

def factoriesAndFingerprintsFeatures : List String :=
  ["creator_launch_factory_score", "same_launch_instruction_shape_score",
    "same_compute_budget_pattern_score", "client_fingerprint_cluster_id",
    "client_fingerprint_historical_win_rate"]

def eventGrammarFeatures : List String :=
  ["first_10_event_sequence", "event_bigram_counts", "event_sequence_similarity_to_winners",
    "motif_id", "motif_historical_expected_pnl"]

def pathSimilarityFeatures : List String :=
  ["price_path_shape_id", "combined_multivariate_path_similarity",
    "dynamic_time_warp_distance_price_to_winner_templates", "higher_low_accumulation_score"]

def hazardAndAnomalyFeatures : List String :=
  ["hazard_rug_next_10s", "survival_probability_30s", "expected_safe_hold_time",
    "anomaly_score_positive", "anomaly_requires_deep_tracking_flag"]

/-- What `register_core` registers, family after family. -/
def coreFeatures : List String :=
  launchIdentityFeatures ++ creatorFeatures ++ devHoldingsFeatures ++ curveFeatures ++
    pricePathFeatures ++ tradeFlowFeatures ++ holdersFeatures ++ topHoldersFeatures ++
    bundleFeatures ++ rugFeatures ++ cohortFeatures ++ capitalRotationFeatures ++
    costBasisFeatures ++ survivalFeatures ++ holderLifecycleFeatures ++
    transactionFingerprintFeatures ++ fundingGraphFeatures ++ feeCompetitionFeatures ++
    executionFeatures ++ dataQualityFeatures ++ shredExitDefenseFeatures

/-- What `register_placeholder_group` registers, group after group. -/
def placeholderFeatures : List String :=
  walletEmbeddingsFeatures ++ factoriesAndFingerprintsFeatures ++ eventGrammarFeatures ++
    pathSimilarityFeatures ++ hazardAndAnomalyFeatures

/-- A registry with the default status of each feature. -/
structure FeatureRegistry where
  descriptors : KeyedMap String FeatureStatus := ∅

namespace FeatureRegistry

def register (self : FeatureRegistry) (featureId : String) (defaultStatus : FeatureStatus) :
    FeatureRegistry :=
  { self with descriptors := self.descriptors.insert featureId defaultStatus }

/-- `FeatureRegistry::default`. -/
def default : FeatureRegistry :=
  let core := coreFeatures.foldl (fun (registry : FeatureRegistry) featureId =>
    registry.register featureId .missing) {}
  placeholderFeatures.foldl (fun registry featureId =>
    registry.register featureId .unavailable) core

end FeatureRegistry

/-! ## Values -/

abbrev FeatureValues := KeyedMap String FeatureValue

def setNumeric (values : FeatureValues) (featureId : String) (value : Decimal) : FeatureValues :=
  values.adjust featureId fun _ => .available featureId (.numeric value)

def setBool (values : FeatureValues) (featureId : String) (value : Bool) : FeatureValues :=
  values.adjust featureId fun _ => .available featureId (.boolean value)

/-- `shred_warning_level_value`. -/
def shredWarningLevelValue (level : Option TentativeSellRiskLevel) : ℕ :=
  match level.getD .info with
  | .info => 0
  | .watch => 1
  | .exitArmed => 2
  | .emergencyExitRecommended => 3
  | .emergencyExitRequired => 4

/-! ## The last two families -/

/-- `compute_shred_exit_defense_features`. No two of its features are the same. -/
def computeShredExitDefenseFeatures (token : TokenState) (values : FeatureValues) :
    FeatureValues :=
  let defense := token.shredDefense
  let falsePositiveRate : Decimal :=
    if defense.tentativeSellCountWindow = 0 then 0
    else (defense.tentativeSellFalsePositiveTotal : Decimal) / defense.tentativeSellCountWindow
  let latencyUsed : ℤ :=
    (defense.shredToGeyserProcessedMs <|> defense.shredToAccountEffectConfirmationMs <|>
      defense.shredToRootedConfirmationMs).getD 0
  let latencyBudget : Decimal := defense.exitThreatIndex.requiredEarlyIntentLeadTimeMs
  let edgeScore := max (defense.shredSavedLossEstimate + defense.shredSavedLossRealized -
    defense.shredExitOpportunityCost) 0
  let sells : List (String × Decimal) :=
    [("tentative_sell_count_window", defense.tentativeSellCountWindow),
      ("tentative_sell_volume_quote_window", defense.tentativeSellVolumeQuoteWindow),
      ("tentative_sell_from_dev_count", defense.tentativeSellFromDevCount),
      ("tentative_sell_from_top_holder_count", defense.tentativeSellFromTopHolderCount),
      ("tentative_sell_from_bundle_count", defense.tentativeSellFromBundleCount),
      ("tentative_sell_from_whale_count", defense.tentativeSellFromWhaleCount),
      ("tentative_sell_same_slot_cluster_count", defense.tentativeSellSameSlotClusterCount),
      ("tentative_sell_impact_max_pct", defense.tentativeSellImpactMaxPct),
      ("tentative_sell_impact_sum_pct", defense.tentativeSellImpactSumPct),
      ("tentative_sell_confidence_max", defense.tentativeSellConfidenceMax),
      ("tentative_sell_confidence_mean", defense.tentativeSellConfidenceMean)]
  let exits : List (String × Decimal) :=
    [("shred_sell_warning_level",
        ((shredWarningLevelValue defense.lastWarningLevel : ℕ) : Decimal)),
      ("shred_to_geyser_processed_ms",
        ((defense.shredToGeyserProcessedMs.getD 0 : ℤ) : Decimal)),
      ("shred_to_account_effect_confirmation_ms",
        ((defense.shredToAccountEffectConfirmationMs.getD 0 : ℤ) : Decimal)),
      ("shred_to_rooted_confirmation_ms",
        ((defense.shredToRootedConfirmationMs.getD 0 : ℤ) : Decimal)),
      ("shred_sell_false_positive_rate_wallet", falsePositiveRate),
      ("shred_sell_false_positive_rate_source", falsePositiveRate),
      ("shred_sell_saved_loss_estimate", defense.shredSavedLossEstimate),
      ("shred_sell_saved_loss_realized", defense.shredSavedLossRealized),
      ("shred_exit_opportunity_cost", defense.shredExitOpportunityCost),
      ("shred_exit_latency_budget_ms", latencyBudget),
      ("shred_exit_latency_used_ms", latencyUsed),
      ("shred_exit_edge_score", edgeScore),
      ("early_intent_latency_advantage_ms",
        ((defense.earlyIntentLatencyAdvantageMs.getD 0 : ℤ) : Decimal)),
      ("required_latency_advantage_ms",
        ((defense.requiredLatencyAdvantageMs.getD 0 : ℤ) : Decimal)),
      ("latency_edge_ratio", defense.latencyEdgeRatio),
      ("absorption_health_score", defense.absorptionHealthScore),
      ("post_sell_absorption_probability", defense.postSellAbsorptionProbability),
      ("emergency_exit_expected_saved_loss", defense.emergencyExitExpectedSavedLoss),
      ("emergency_exit_expected_opportunity_cost",
        defense.emergencyExitExpectedOpportunityCost),
      ("emergency_exit_net_benefit", defense.emergencyExitNetBenefit),
      ("emergency_exit_net_benefit_confidence", defense.emergencyExitNetBenefitConfidence),
      ("malicious_sell_intent_score", defense.maliciousSellIntentScore),
      ("preconfirmation_exit_confidence", defense.preconfirmationExitConfidence),
      ("dangerous_seller_precomputed_impact_score",
        defense.exitThreatIndex.dangerousSellerPrecomputedImpactScore),
      ("exit_threat_index_score", defense.exitThreatIndex.exitThreatIndexScore)]
  let flags : List (String × Bool) :=
    [("shred_exit_armed_flag", defense.shredExitArmedFlag),
      ("shred_emergency_exit_triggered_flag", defense.shredEmergencyExitTriggeredFlag),
      ("shred_signal_stale_flag", defense.shredSignalStaleFlag),
      ("exit_can_land_before_estimated_impact", defense.exitCanLandBeforeEstimatedImpact)]
  flags.foldl (fun values entry => setBool values entry.1 entry.2)
    ((sells ++ exits).foldl (fun values entry => setNumeric values entry.1 entry.2) values)

/-- The features whose absence counts as critical. -/
def criticalFeatures : List String :=
  ["price_current", "buy_volume_quote", "holder_count_current", "bundle_risk_score",
    "rug_probability_score"]

/-- The token carries the flag of a data gap. -/
def gapFlagged (token : TokenState) : Bool := "data_gap" ∈ token.dataQualityFlags

/-- `finalize_data_quality_features`. -/
def finalizeDataQualityFeatures (token : TokenState) (values : FeatureValues) : FeatureValues :=
  let values := setBool values "geyser_connected_flag" true
  let values := setBool values "shred_connected_flag"
    (token.firstSeenSource = .shredTentative ∨ token.firstSeenSource = .deshredTentative)
  let values := setBool values "source_disagreement_flag"
    (gapFlagged token || token.tentativeOnly)
  let criticalMissing := values.entries.countP fun entry =>
    entry.2.status ≠ .available ∧ entry.1 ∈ criticalFeatures
  let values := setNumeric values "critical_feature_missing_count" criticalMissing
  let available := values.entries.countP fun entry => entry.2.status = .available
  let implemented := values.entries.countP fun entry => entry.2.status ≠ .unavailable
  let values :=
    if 0 < implemented then
      setNumeric values "feature_completeness_pct" ((available : Decimal) / implemented)
    else values
  let completeness :=
    ((values.lookup "feature_completeness_pct").bind FeatureValue.asDecimal).getD 0
  let quality := clamp01 (completeness - (criticalMissing : Decimal) / 10 -
    (if token.tentativeOnly then 2 / 10 else 0) - (if gapFlagged token then 5 / 10 else 0))
  let values := setNumeric values "data_quality_score" quality
  setBool values "trade_allowed_data_quality_flag" (5 / 10 ≤ quality ∧ ¬ gapFlagged token)

/-! ## Snapshots -/

/-- The families before the last two, each of which overwrites registered features. -/
structure FeatureFamilies where
  compute : TokenState → StateEngine → OffsetDateTime → FeatureValues → FeatureValues
  keepsIds : ∀ token state observedAt values featureId,
    (AList.lookup featureId (compute token state observedAt values)).isSome =
      (values.lookup featureId).isSome

/-- The values that a snapshot starts from. -/
def initialValues (registry : FeatureRegistry) : FeatureValues :=
  registry.descriptors.mapValues fun featureId defaultStatus =>
    match defaultStatus with
    | .available | .missing => .missing featureId
    | .unavailable => .unavailable featureId

/-- The values of `compute_snapshot_profiled`. -/
def computeValues (registry : FeatureRegistry) (families : FeatureFamilies) (token : TokenState)
    (state : StateEngine) (observedAt : OffsetDateTime) : FeatureValues :=
  finalizeDataQualityFeatures token (computeShredExitDefenseFeatures token
    (families.compute token state observedAt (initialValues registry)))

/-- `FeatureEngine::compute_snapshot`, with the hash of the values. -/
def computeSnapshot (registry : FeatureRegistry) (families : FeatureFamilies)
    (vectorHash : FeatureValues → String) (token : TokenState) (state : StateEngine)
    (observedAt : OffsetDateTime) : FeatureSnapshot :=
  let values := computeValues registry families token state observedAt
  { mint := token.mint
    observedAt := observedAt
    values := fun featureId => values.lookup featureId
    vectorHash := vectorHash values }

end Features

end PumpLaunchTrader
