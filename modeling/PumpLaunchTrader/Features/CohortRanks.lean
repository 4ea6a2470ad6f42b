import PumpLaunchTrader.Lib.Ranks
import PumpLaunchTrader.Model.Features

/-! # Ranks within a cohort

The ranks of a token come from a stable sort by one metric, so ties are broken by the iteration
order of the token map. Bounds hold whatever the order; the attention share needs the token to
be in its own cohort, or to trade no more than all of it. -/

namespace PumpLaunchTrader

namespace Features

/-! ## Ranks -/

theorem descendingRank_eq (token : TokenState) (cohort : List TokenState)
    (metric : TokenState → Decimal) :
    descendingRank token cohort metric =
      Ranks.rank (cohort.map fun other => (other.mint, metric other)) token.mint := by
  unfold descendingRank Ranks.rank
  rw [List.length_map]
  rfl

/-- No two mints of a cohort have the same value of a metric. -/
def NoTies (cohort : List TokenState) (metric : TokenState → Decimal) : Prop :=
  ∀ a ∈ cohort, ∀ b ∈ cohort, metric a = metric b → a.mint = b.mint

theorem noTies_iff (cohort : List TokenState) (metric : TokenState → Decimal) :
    NoTies cohort metric ↔
      ∀ a ∈ cohort, ∀ b ∈ cohort, metric a = metric b →
        descendingRank a cohort metric = descendingRank b cohort metric := by
  have h := Ranks.ties_rank_iff (cohort.map fun other => (other.mint, metric other))
  simp only [List.forall_mem_map, ← descendingRank_eq] at h
  exact h.symm

theorem descendingRank_perm {cohort other : List TokenState} (h : cohort.Perm other)
    {metric : TokenState → Decimal} (hties : NoTies cohort metric) (token : TokenState) :
    descendingRank token cohort metric = descendingRank token other metric := by
  rw [descendingRank_eq, descendingRank_eq]
  refine Ranks.rank_eq_of_perm (h.map _) ?_ _
  simp only [List.forall_mem_map]
  exact hties

theorem descendingRank_bounds {cohort : List TokenState} (h : cohort ≠ [])
    (metric : TokenState → Decimal) (token : TokenState) :
    1 ≤ descendingRank token cohort metric ∧
      descendingRank token cohort metric ≤ cohort.length := by
  rw [descendingRank_eq, ← List.length_map fun other => (other.mint, metric other)]
  exact Ranks.rank_bounds (by simpa using h) token.mint

/-- The cohort does not depend on the order of the map but for its own order. -/
theorem sameTimeCohort_perm {tokens other : List TokenState} (h : tokens.Perm other)
    (token : TokenState) (observedAt : OffsetDateTime) (window : Duration) :
    (sameTimeCohort token tokens observedAt window).Perm
      (sameTimeCohort token other observedAt window) := by
  unfold sameTimeCohort
  cases token.launchTime with
  | none => exact List.Perm.refl _
  | some launchTime => exact h.filter _

/-! ## Volumes -/

/-- No trade of a token has a negative volume. -/
def NonnegVolumes (token : TokenState) : Prop :=
  ∀ trade ∈ token.tradeStats.tradeHistory, 0 ≤ trade.quote

theorem windowBuyVolume_nonneg {token : TokenState} (h : NonnegVolumes token)
    (observedAt : OffsetDateTime) (window : Duration) :
    0 ≤ windowBuyVolume token observedAt window := by
  apply List.sum_nonneg
  intro quote hquote
  obtain ⟨trade, htrade, rfl⟩ := List.mem_map.mp hquote
  exact h trade (List.mem_of_mem_filter (List.mem_of_mem_filter htrade))

/-- The buy volume of a cohort within thirty seconds. -/
def cohortBuyVolume (cohort : List TokenState) (observedAt : OffsetDateTime) : Decimal :=
  (cohort.map (windowBuyVolume · observedAt window30s)).sum

theorem windowBuyVolume_le_cohort {cohort : List TokenState}
    (h : ∀ other ∈ cohort, NonnegVolumes other) (observedAt : OffsetDateTime)
    {token : TokenState} (hmem : token ∈ cohort) :
    windowBuyVolume token observedAt window30s ≤ cohortBuyVolume cohort observedAt := by
  apply List.single_le_sum
  · intro volume hvolume
    obtain ⟨other, hother, rfl⟩ := List.mem_map.mp hvolume
    exact windowBuyVolume_nonneg (h other hother) observedAt window30s
  · exact List.mem_map_of_mem hmem

/-! ## The features of a token -/

/-- The metrics by which a token is ranked. -/
def rankMetrics (observedAt : OffsetDateTime) : List (TokenState → Decimal) :=
  [(windowBuyVolume · observedAt window30s), (windowNetFlow · observedAt window30s),
    fun other => (holderGrowthRate other observedAt).getD 0,
    fun other => (windowReturn other observedAt window30s).getD 0]

/-- The ranks of a token. -/
def CohortStanding.ranks (standing : CohortStanding) : List ℕ :=
  [standing.tokenRankByBuyVolume30s, standing.tokenRankByNetFlow30s,
    standing.tokenRankByHolderGrowth30s, standing.tokenRankByPriceReturn30s]

theorem ranks_cohortStanding (token : TokenState) (tokens : List TokenState)
    (observedAt : OffsetDateTime) (cohort : List TokenState) :
    (cohortStanding token tokens observedAt cohort).ranks =
      (rankMetrics observedAt).map (descendingRank token cohort) := rfl

/-- The launches within thirty seconds of a token. -/
def ownCohort (token : TokenState) (tokens : KeyedMap String TokenState)
    (observedAt : OffsetDateTime) : List TokenState :=
  sameTimeCohort token tokens.values observedAt window30s

/-- What a token's features say of it against its cohort: whatever the iteration order of the
map they are the same, equal values have equal ranks, and ranks and shares keep their bounds, the
attention share where no volume is negative. -/
structure CohortSound (token : TokenState) (tokens : KeyedMap String TokenState)
    (observedAt : OffsetDateTime) : Prop where
  order : ∀ other : KeyedMap String TokenState, other.entries.Perm tokens.entries →
    (computeCohortFeatures token other.values observedAt).standing.map (fun standing =>
        (standing.ranks, standing.tokenRelativeStrengthScore, standing.cohortAttentionShare)) =
      (computeCohortFeatures token tokens.values observedAt).standing.map fun standing =>
        (standing.ranks, standing.tokenRelativeStrengthScore, standing.cohortAttentionShare)
  ties : ∀ metric ∈ rankMetrics observedAt, ∀ a ∈ ownCohort token tokens observedAt,
    ∀ b ∈ ownCohort token tokens observedAt, metric a = metric b →
      descendingRank a (ownCohort token tokens observedAt) metric =
        descendingRank b (ownCohort token tokens observedAt) metric
  bounds : ∀ standing,
    (computeCohortFeatures token tokens.values observedAt).standing = some standing →
      (∀ rank ∈ standing.ranks,
        1 ≤ rank ∧ rank ≤ (ownCohort token tokens observedAt).length) ∧
      0 ≤ standing.tokenRelativeStrengthScore ∧ standing.tokenRelativeStrengthScore ≤ 1
  attention : NonnegVolumes token → (∀ other ∈ tokens.values, NonnegVolumes other) →
    ∀ standing,
      (computeCohortFeatures token tokens.values observedAt).standing = some standing →
        ∀ share, standing.cohortAttentionShare = some share → 0 ≤ share ∧ share ≤ 1

theorem clamp01_bounds (value : Decimal) : 0 ≤ clamp01 value ∧ clamp01 value ≤ 1 := by
  unfold clamp01
  exact ⟨le_min (le_max_right _ _) zero_le_one, min_le_right _ _⟩

/-- Without ties the order of the cohort changes no rank, strength or attention share. -/
theorem cohortStanding_perm {cohort other : List TokenState} (h : cohort.Perm other)
    {observedAt : OffsetDateTime} (hties : ∀ metric ∈ rankMetrics observedAt, NoTies cohort metric)
    (token : TokenState) (tokens tokens' : List TokenState) :
    let standing := cohortStanding token tokens observedAt cohort
    let standing' := cohortStanding token tokens' observedAt other
    standing'.ranks = standing.ranks ∧
      standing'.tokenRelativeStrengthScore = standing.tokenRelativeStrengthScore ∧
      standing'.cohortAttentionShare = standing.cohortAttentionShare := by
  have hrank : ∀ metric ∈ rankMetrics observedAt,
      descendingRank token cohort metric = descendingRank token other metric :=
    fun metric hmetric => descendingRank_perm h (hties metric hmetric) token
  have hranks : (cohortStanding token tokens' observedAt other).ranks =
      (cohortStanding token tokens observedAt cohort).ranks := by
    rw [ranks_cohortStanding, ranks_cohortStanding]
    exact (List.map_congr_left hrank).symm
  obtain ⟨hbuy, hnet, hholder, hprice⟩ :
      (cohortStanding token tokens' observedAt other).tokenRankByBuyVolume30s =
        (cohortStanding token tokens observedAt cohort).tokenRankByBuyVolume30s ∧
      (cohortStanding token tokens' observedAt other).tokenRankByNetFlow30s =
        (cohortStanding token tokens observedAt cohort).tokenRankByNetFlow30s ∧
      (cohortStanding token tokens' observedAt other).tokenRankByHolderGrowth30s =
        (cohortStanding token tokens observedAt cohort).tokenRankByHolderGrowth30s ∧
      (cohortStanding token tokens' observedAt other).tokenRankByPriceReturn30s =
        (cohortStanding token tokens observedAt cohort).tokenRankByPriceReturn30s := by
    simpa [CohortStanding.ranks] using hranks
  refine ⟨hranks, ?_, ?_⟩
  · have hstrength : ∀ tokens cohort,
        (cohortStanding token tokens observedAt cohort).tokenRelativeStrengthScore =
          clamp01 (relativeStrength cohort.length
            (cohortStanding token tokens observedAt cohort).tokenRankByBuyVolume30s
            (cohortStanding token tokens observedAt cohort).tokenRankByNetFlow30s
            (cohortStanding token tokens observedAt cohort).tokenRankByHolderGrowth30s
            (cohortStanding token tokens observedAt cohort).tokenRankByPriceReturn30s) :=
      fun _ _ => rfl
    rw [hstrength, hstrength, hbuy, hnet, hholder, hprice, h.length_eq]
  · have hsum : (cohort.map (windowBuyVolume · observedAt window30s)).sum =
        (other.map (windowBuyVolume · observedAt window30s)).sum := (h.map _).sum_eq
    simp only [cohortStanding, hsum]

theorem standing_computeCohortFeatures (token : TokenState)
    (tokens : KeyedMap String TokenState) (observedAt : OffsetDateTime) :
    (computeCohortFeatures token tokens.values observedAt).standing =
      if ownCohort token tokens observedAt = [] then none
      else some (cohortStanding token tokens.values observedAt
        (ownCohort token tokens observedAt)) := by
  unfold computeCohortFeatures ownCohort
  simp only [List.isEmpty_iff]

theorem nonnegVolumes_ownCohort {token : TokenState} {tokens : KeyedMap String TokenState}
    (htoken : NonnegVolumes token) (htokens : ∀ other ∈ tokens.values, NonnegVolumes other)
    (observedAt : OffsetDateTime) :
    ∀ other ∈ ownCohort token tokens observedAt, NonnegVolumes other := by
  intro other hother
  unfold ownCohort sameTimeCohort at hother
  cases hlaunch : token.launchTime with
  | none =>
      rw [hlaunch] at hother
      rw [List.mem_singleton.mp hother]
      exact htoken
  | some launchTime =>
      rw [hlaunch] at hother
      exact htokens other (List.mem_of_mem_filter hother)

/-- The attention share keeps its bounds exactly when the token trades no more than the cohort. -/
theorem attentionShare_bounds_iff {token : TokenState} (htoken : NonnegVolumes token)
    (tokens : List TokenState) (observedAt : OffsetDateTime) (cohort : List TokenState) :
    (∀ share, (cohortStanding token tokens observedAt cohort).cohortAttentionShare = some share →
        0 ≤ share ∧ share ≤ 1) ↔
      (0 < cohortBuyVolume cohort observedAt →
        windowBuyVolume token observedAt window30s ≤ cohortBuyVolume cohort observedAt) := by
  have hshare : (cohortStanding token tokens observedAt cohort).cohortAttentionShare =
      if 0 < cohortBuyVolume cohort observedAt then
        some (windowBuyVolume token observedAt window30s / cohortBuyVolume cohort observedAt)
      else none := rfl
  rw [hshare]
  by_cases htotal : 0 < cohortBuyVolume cohort observedAt
  · have hnonneg := windowBuyVolume_nonneg htoken observedAt window30s
    rw [if_pos htotal, forall_prop_of_true htotal]
    simp only [Option.some.injEq, forall_eq', div_le_one htotal]
    exact and_iff_right (div_nonneg hnonneg htotal.le)
  · simp [htotal]

/-- Without ties the standing of a token is that of every order of the map. -/
theorem standing_of_perm {token : TokenState} {tokens other : KeyedMap String TokenState}
    {observedAt : OffsetDateTime}
    (hties : ∀ metric ∈ rankMetrics observedAt, NoTies (ownCohort token tokens observedAt) metric)
    (hcohort : (ownCohort token tokens observedAt).Perm (ownCohort token other observedAt)) :
    (computeCohortFeatures token other.values observedAt).standing.map (fun standing =>
        (standing.ranks, standing.tokenRelativeStrengthScore, standing.cohortAttentionShare)) =
      (computeCohortFeatures token tokens.values observedAt).standing.map fun standing =>
        (standing.ranks, standing.tokenRelativeStrengthScore, standing.cohortAttentionShare) := by
  rw [standing_computeCohortFeatures, standing_computeCohortFeatures]
  by_cases hnil : ownCohort token tokens observedAt = []
  · rw [if_pos hnil, if_pos (by rw [hnil] at hcohort; exact hcohort.symm.eq_nil)]
  · have hnil' : ownCohort token other observedAt ≠ [] := by
      intro h
      rw [h] at hcohort
      exact hnil hcohort.eq_nil
    obtain ⟨hranks, hstrength, hsame⟩ :=
      cohortStanding_perm hcohort hties token tokens.values other.values
    rw [if_neg hnil, if_neg hnil', Option.map_some, Option.map_some, hranks, hstrength, hsame]

/-- A standing comes from a cohort that is not empty, and ranks the token in it. -/
theorem bounds_of_standing {token : TokenState} {tokens : KeyedMap String TokenState}
    {observedAt : OffsetDateTime} {standing : CohortStanding}
    (h : (computeCohortFeatures token tokens.values observedAt).standing = some standing) :
    standing = cohortStanding token tokens.values observedAt (ownCohort token tokens observedAt) ∧
      (∀ rank ∈ standing.ranks,
        1 ≤ rank ∧ rank ≤ (ownCohort token tokens observedAt).length) ∧
      0 ≤ standing.tokenRelativeStrengthScore ∧ standing.tokenRelativeStrengthScore ≤ 1 := by
  rw [standing_computeCohortFeatures] at h
  split at h
  next => cases h
  next hcohort =>
    cases h
    refine ⟨rfl, ?_, clamp01_bounds _⟩
    intro rank hrank
    rw [ranks_cohortStanding] at hrank
    obtain ⟨metric, -, rfl⟩ := List.mem_map.mp hrank
    exact descendingRank_bounds hcohort metric token

/-- The features of a token are sound exactly when its cohort has no ties in the four metrics,
and the token belongs to it or trades no more than all of it. -/
theorem cohort_sound_iff (token : TokenState) (tokens : KeyedMap String TokenState)
    (observedAt : OffsetDateTime) :
    CohortSound token tokens observedAt ↔
      (∀ metric ∈ rankMetrics observedAt, NoTies (ownCohort token tokens observedAt) metric) ∧
        (NonnegVolumes token → (∀ other ∈ tokens.values, NonnegVolumes other) →
          token ∉ ownCohort token tokens observedAt →
            0 < cohortBuyVolume (ownCohort token tokens observedAt) observedAt →
              windowBuyVolume token observedAt window30s ≤
                cohortBuyVolume (ownCohort token tokens observedAt) observedAt) := by
  have hshare := fun htoken : NonnegVolumes token =>
    attentionShare_bounds_iff htoken tokens.values observedAt (ownCohort token tokens observedAt)
  constructor
  · rintro ⟨-, hties, -, hattention⟩
    refine ⟨fun metric hmetric => (noTies_iff _ metric).mpr (hties metric hmetric), ?_⟩
    intro htoken htokens _ htotal
    have hcohort : ownCohort token tokens observedAt ≠ [] := by
      intro hnil
      simp [hnil, cohortBuyVolume] at htotal
    refine (hshare htoken).mp (hattention htoken htokens _ ?_) htotal
    rw [standing_computeCohortFeatures, if_neg hcohort]
  · rintro ⟨hties, hattention⟩
    refine ⟨?_, fun metric hmetric => (noTies_iff _ metric).mp (hties metric hmetric), ?_, ?_⟩
    · intro other hperm
      exact standing_of_perm hties
        (sameTimeCohort_perm (hperm.symm.map _) token observedAt window30s)
    · intro standing hstanding
      exact (bounds_of_standing hstanding).2
    · intro htoken htokens standing hstanding
      obtain ⟨rfl, -⟩ := bounds_of_standing hstanding
      refine (hshare htoken).mpr fun htotal => ?_
      by_cases hmem : token ∈ ownCohort token tokens observedAt
      · exact windowBuyVolume_le_cohort (nonnegVolumes_ownCohort htoken htokens observedAt)
          observedAt hmem
      · exact hattention htoken htokens hmem htotal

/-- A token that was launched without a trade. -/
def launchedToken (mint : String) (launchTime : OffsetDateTime) : TokenState :=
  { TokenState.new ⟨mint⟩ .geyserProcessed with launchTime := some launchTime }

theorem nonnegVolumes_launchedToken (mint : String) (launchTime : OffsetDateTime) :
    NonnegVolumes (launchedToken mint launchTime) := by
  simp [NonnegVolumes, launchedToken, TokenState.new]

/-- A buy some seconds after the launch. -/
def launchBuy (elapsed : ℤ) (quote price : Decimal) : TradeObservation where
  timestamp := Duration.seconds elapsed
  slot := 1
  signature := none
  side := .buy
  wallet := "wallet"
  quote := quote
  tokens := quote / price
  price := price
  computeUnitLimit := none
  computeUnitPrice := none
  priorityFeeLamports := none
  baseFeeLamports := none
  accountCount := none
  instructionCount := none
  programCount := none
  clientFingerprint := none
  isCreator := false
  isTopHolderPreSell := false
  isTentative := false

/-- A token that is bought twice, the second time at another price, and has some holders. -/
def tradedToken (mint : String) (quote price : Decimal) (holders : ℕ) : TokenState :=
  { launchedToken mint 0 with
    latestPrice := price
    tradeStats :=
      (({} : TokenTradeStats).recordTrade (launchBuy 1 quote 1)).recordTrade
        (launchBuy 2 quote price)
    holderState := { holderCountHistory := [(0, 0)], nonzeroHolderCount := holders } }

/-- Three launches that trade. -/
def tradedTokens : KeyedMap String TokenState :=
  ⟨[⟨"first", tradedToken "first" 3 2 5⟩, ⟨"second", tradedToken "second" 2 4 3⟩,
    ⟨"third", tradedToken "third" 1 3 4⟩], by simp [List.nodupKeys_cons]⟩

instance (cohort : List TokenState) (metric : TokenState → Decimal) :
    Decidable (NoTies cohort metric) :=
  inferInstanceAs (Decidable (∀ a ∈ cohort, ∀ b ∈ cohort, metric a = metric b → a.mint = b.mint))

/-- Launches that differ in all four metrics have no ties. -/
theorem cohort_sound_iff_traded :
    CohortSound (tradedToken "first" 3 2 5) tradedTokens (Duration.seconds 10) := by
  refine (cohort_sound_iff _ _ _).mpr ⟨?_, fun _ _ hmem _ => (hmem ?_).elim⟩
  · simp only [rankMetrics, List.forall_mem_cons]
    refine ⟨?_, ?_, ?_, ?_, List.forall_mem_nil _⟩ <;> decide +kernel
  · exact List.mem_filter.mpr ⟨List.mem_cons_self, by decide +kernel⟩

/-- Two launches without a trade have equal volumes, and the rank of the first is 1 or 2 as the
map iterates. -/
theorem tied_launches_ranked_apart :
    ¬ ∀ (token : TokenState) (tokens : KeyedMap String TokenState) (observedAt : OffsetDateTime),
      NonnegVolumes token → (∀ other ∈ tokens.values, NonnegVolumes other) →
        CohortSound token tokens observedAt := by
  intro h
  have hsound := h (launchedToken "first" 0)
    ⟨[⟨"first", launchedToken "first" 0⟩, ⟨"second", launchedToken "second" 0⟩],
      by simp [List.nodupKeys_cons]⟩ 0
    (nonnegVolumes_launchedToken "first" 0) (by
      simp [KeyedMap.values, nonnegVolumes_launchedToken])
  have hsame := hsound.order
    ⟨[⟨"second", launchedToken "second" 0⟩, ⟨"first", launchedToken "first" 0⟩],
      by simp [List.nodupKeys_cons]⟩
    (List.Perm.swap _ _ _)
  revert hsame
  decide +kernel

end Features

end PumpLaunchTrader
