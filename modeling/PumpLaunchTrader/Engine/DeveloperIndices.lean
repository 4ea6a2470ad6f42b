import PumpLaunchTrader.Engine.Clusters
import PumpLaunchTrader.Engine.Derived

/-! # Developer indices of tokens

After every event, the cluster of a creator, its rank and its sold share are what the full
recompute makes of them. An event refreshes the tokens whose inputs it changes: its own one,
or those that touch the wallets it links and their neighbours. -/

namespace PumpLaunchTrader

namespace TokenState

/-! ## The refresh of one token -/

/-- The refresh of cluster-derived fields changes nothing. -/
def Current (token : TokenState) (index : ClusterIndex) : Prop :=
  refreshTokenClusterDerived token index = token

/-- The refresh rewrites three developer fields. -/
theorem current_iff (token : TokenState) (index : ClusterIndex) :
    token.Current index ↔
      (∀ creator, token.creator = some creator →
        token.developerState.relatedClusterId = index.clusterIdFor creator.text) ∧
      token.developerState.creatorCurrentRank = token.creatorRank ∧
      token.developerState.creatorSellPercentage = creatorSoldShare token.developerState := by
  constructor
  · intro h
    have hdeveloper := congrArg TokenState.developerState h
    refine ⟨?_, ?_, ?_⟩
    · intro creator hcreator
      have hcluster := congrArg DeveloperState.relatedClusterId hdeveloper
      simp only [refreshTokenClusterDerived, hcreator] at hcluster
      exact hcluster.symm
    · exact (congrArg DeveloperState.creatorCurrentRank hdeveloper).symm
    · exact (congrArg DeveloperState.creatorSellPercentage hdeveloper).symm
  · rintro ⟨hcluster, hrank, hshare⟩
    unfold Current refreshTokenClusterDerived
    rw [← hrank, ← hshare]
    split
    · next creator hcreator => rw [← hcluster creator hcreator]
    · rfl

/-- The refresh does nothing the second time. -/
theorem current_refreshTokenClusterDerived (token : TokenState) (index : ClusterIndex) :
    (refreshTokenClusterDerived token index).Current index := by
  rw [current_iff]
  refine ⟨?_, rfl, rfl⟩
  intro creator hcreator
  change token.creator = some creator at hcreator
  simp only [refreshTokenClusterDerived, hcreator]

/-- The refresh reads the creator, its cluster id, the holders and the developer. -/
theorem Current.congr {token next : TokenState} {index index' : ClusterIndex}
    (h : token.Current index) (hcreator : next.creator = token.creator)
    (hholder : next.holderState = token.holderState)
    (hdeveloper : next.developerState = token.developerState)
    (hindex : ∀ creator, token.creator = some creator →
      index'.clusterIdFor creator.text = index.clusterIdFor creator.text) :
    next.Current index' := by
  rw [current_iff] at h ⊢
  obtain ⟨hcluster, hrank, hshare⟩ := h
  have hsame : next.creatorRank = token.creatorRank := by
    unfold creatorRank
    rw [hcreator, hholder]
  rw [hcreator, hdeveloper, hsame]
  refine ⟨?_, hrank, hshare⟩
  intro creator hown
  exact (hcluster creator hown).trans (hindex creator hown).symm

theorem current_refreshExitThreatIndex {token : TokenState} {index : ClusterIndex}
    (h : token.Current index) (observedAt : OffsetDateTime) :
    (refreshExitThreatIndex token index observedAt).Current index :=
  h.congr rfl rfl rfl fun _ _ => rfl

/-- What moves between lifecycles leaves what the refresh reads alone. -/
theorem Current.transitionToken {token : TokenState} {index : ClusterIndex}
    (h : token.Current index) (target : TokenLifecycle) (reason : String)
    (observedAt : OffsetDateTime) (ttl : Duration) :
    (transitionToken token target reason observedAt ttl).1.Current index := by
  unfold PumpLaunchTrader.transitionToken
  split
  · exact h
  · exact h.congr rfl rfl rfl fun _ _ => rfl

theorem Current.recomputeTransition {token : TokenState} {index : ClusterIndex}
    (h : token.Current index) (event : NormalizedEvent) (ttl : TtlConfig) :
    (token.recomputeTransition event ttl).1.Current index :=
  kept_recomputeTransition (P := fun moved => moved.Current index) h (h.transitionToken _ _ _ _)
    fun _ _ _ hmoved => hmoved.congr rfl rfl rfl fun _ _ => rfl

theorem Current.applyTerminal {token : TokenState} {index : ClusterIndex}
    (h : token.Current index) (payload : TokenTerminalEvent) (event : NormalizedEvent)
    (ttl : TtlConfig) : (token.applyTerminal payload event ttl).Current index :=
  h.transitionToken _ _ _ _

theorem Current.iterate_applyDataGap {token : TokenState} {index : ClusterIndex}
    (h : token.Current index) (event : NormalizedEvent) (ttl : TtlConfig) (n : ℕ) :
    ((fun token => token.applyDataGap event ttl)^[n] token).Current index := by
  induction n generalizing token with
  | zero => exact h
  | succ n ih =>
      rw [Function.iterate_succ_apply]
      have hflagged : Current
          { token with dataQualityFlags := insert "data_gap" token.dataQualityFlags } index :=
        h.congr rfl rfl rfl fun _ _ => rfl
      exact ih (hflagged.transitionToken _ _ _ _)

end TokenState

namespace StateEngine

/-! ## The refresh after an event -/

/-- A refreshed token is current. -/
theorem current_refreshToken (s : StateEngine) (event : NormalizedEvent) (token : TokenState) :
    (s.refreshToken event token).Current s.clusterIndex := by
  have hrefreshed := TokenState.current_refreshTokenClusterDerived token s.clusterIndex
  unfold refreshToken
  split
  · exact TokenState.current_refreshExitThreatIndex hrefreshed _
  · exact hrefreshed

/-- A token that the refresh passes over stays current when its creator keeps its cluster. -/
theorem current_derivedRefresh {s : StateEngine} {event : NormalizedEvent} {k : String}
    {token : TokenState} (h : ∀ affected, s.clusterAffectedWallets event = some affected →
      tokenTouchesAnyWallet token affected = false → token.Current s.clusterIndex)
    (hown : s.clusterAffectedWallets event = none → event.mint.map PubkeyValue.text ≠ some k →
      token.Current s.clusterIndex) :
    (s.derivedRefresh event k token).Current s.clusterIndex := by
  unfold derivedRefresh
  cases haffected : s.clusterAffectedWallets event with
  | some affected =>
      cases htouches : tokenTouchesAnyWallet token affected with
      | true =>
          simp only [htouches, if_true]
          exact TokenState.current_refreshExitThreatIndex
            (TokenState.current_refreshTokenClusterDerived token s.clusterIndex) _
      | false =>
          simp only [htouches]
          exact h affected haffected htouches
  | none =>
      by_cases hmint : event.mint.map PubkeyValue.text = some k
      · simp only [hmint, if_true]
        exact s.current_refreshToken event token
      · simp only [hmint, if_false]
        exact hown haffected hmint

/-! ## Events -/

/-- Every token is current. -/
def AllCurrent (s : StateEngine) : Prop :=
  ∀ k token, s.tokens.lookup k = some token → token.Current s.clusterIndex

/-- The creator of a token that an event does not touch keeps its cluster id. -/
theorem clusterIdFor_of_not_touches {s : StateEngine} (hindexed : s.clusterIndex.Indexed)
    {event : NormalizedEvent} {token : TokenState}
    (h : ∀ affected, (s.applyPayload event).clusterAffectedWallets event = some affected →
      tokenTouchesAnyWallet token affected = false) (creator : PubkeyValue)
    (hcreator : token.creator = some creator) :
    (s.applyPayload event).clusterIndex.clusterIdFor creator.text =
      s.clusterIndex.clusterIdFor creator.text := by
  apply clusterIdFor_applyPayload hindexed
  rw [← refreshedWallets_applyPayload hindexed, refreshedWallets]
  cases haffected : (s.applyPayload event).clusterAffectedWallets event with
  | none => simp
  | some affected =>
      have htouches := h affected haffected
      simp only [tokenTouchesAnyWallet, hcreator, Option.map_some, Option.getD_some,
        Bool.or_eq_false_iff, decide_eq_false_iff_not] at htouches
      exact htouches.1.1.1

/-- A token that the payload does not handle is current before the refresh, unless the
refresh touches it. -/
theorem current_applyPayload {s : StateEngine} (hindexed : s.clusterIndex.Indexed)
    (hs : s.AllCurrent) {event : NormalizedEvent} {k : String} {token : TokenState}
    (hlookup : (s.applyPayload event).tokens.lookup k = some token)
    (hother : s.handler event = none ∨ event.mint.map PubkeyValue.text ≠ some k)
    (htouches : ∀ affected, (s.applyPayload event).clusterAffectedWallets event = some affected →
      tokenTouchesAnyWallet token affected = false) :
    token.Current (s.applyPayload event).clusterIndex := by
  have hindex := clusterIdFor_of_not_touches hindexed htouches
  -- before the payload the token was there, and current for the old index
  have hold : token.Current s.clusterIndex := by
    cases hhandler : s.handler event with
    | some f =>
        obtain ⟨mint, hmint, htokens⟩ := tokens_applyPayload_of_handler hhandler
        have hk : k ≠ mint.text := by
          rintro rfl
          rcases hother with hnone | hne
          · rw [hhandler] at hnone
            cases hnone
          · exact hne (by rw [hmint, Option.map_some])
        rw [htokens, KeyedMap.lookup_upsert_ne _ hk] at hlookup
        exact hs k token hlookup
    | none =>
        rcases lookup_applyPayload_of_no_handler hhandler k with
          hsame | ⟨payload, -, -, hterminal⟩ | ⟨payload, n, -, hgap⟩
        · rw [hsame] at hlookup
          exact hs k token hlookup
        · rw [hterminal, Option.map_eq_some_iff] at hlookup
          obtain ⟨before, hbefore, rfl⟩ := hlookup
          exact (hs k before hbefore).applyTerminal payload event s.ttl
        · rw [hgap, Option.map_eq_some_iff] at hlookup
          obtain ⟨before, hbefore, rfl⟩ := hlookup
          exact (hs k before hbefore).iterate_applyDataGap event s.ttl n
  exact hold.congr rfl rfl rfl hindex

theorem allCurrent_applyEvent {s : StateEngine} (hindexed : s.clusterIndex.Indexed)
    (hs : s.AllCurrent) (event : NormalizedEvent) : (s.applyEvent event).1.AllCurrent := by
  intro k token hlookup
  by_cases hreverted : event.info.canonicality = .reverted
  · rw [tokens_applyEvent_of_reverted hreverted] at hlookup
    have hindex : (s.applyEvent event).1.clusterIndex = s.clusterIndex := by
      unfold applyEvent
      rw [if_pos hreverted]
      exact (s.forgetSignature_wallets event).2
    rw [hindex]
    exact hs k token hlookup
  rw [(s.applyEvent_of_not_reverted hreverted).2]
  let r := s.applyPayload event
  -- what the refresh leaves under `k` is current
  have hrefreshed : ∀ handled, r.tokens.lookup k = some handled →
      (r.derivedRefresh event k handled).Current r.clusterIndex := by
    intro handled hhandled
    apply current_derivedRefresh
    · intro affected haffected htouches
      refine current_applyPayload hindexed hs hhandled ?_ ?_
      · cases hhandler : s.handler event with
        | none => exact Or.inl rfl
        | some f =>
            right
            intro hmint
            obtain ⟨mint, hown, htokens⟩ := tokens_applyPayload_of_handler hhandler
            rw [hown, Option.map_some, Option.some.injEq] at hmint
            rw [htokens, hmint, KeyedMap.lookup_upsert_self, Option.some.injEq] at hhandled
            rw [← hhandled, touches_handler hhandler haffected] at htouches
            cases htouches
      · intro other hother
        rw [haffected, Option.some.injEq] at hother
        exact hother ▸ htouches
    · intro hnone hmint
      refine current_applyPayload hindexed hs hhandled (Or.inr hmint) ?_
      intro affected haffected
      rw [hnone] at haffected
      cases haffected
  unfold applyEvent at hlookup
  rw [if_neg hreverted, lookup_recomputeTransitions, lookup_refreshDerived] at hlookup
  split at hlookup
  · rw [Option.map_map, Option.map_eq_some_iff] at hlookup
    obtain ⟨handled, hhandled, rfl⟩ := hlookup
    exact (hrefreshed handled hhandled).recomputeTransition event _
  · rw [Option.map_eq_some_iff] at hlookup
    obtain ⟨handled, hhandled, rfl⟩ := hlookup
    exact hrefreshed handled hhandled

/-! ## Runs -/

theorem allCurrent_reachable (ttl : TtlConfig) (events : List NormalizedEvent) :
    ((new ttl).applyEvents events).AllCurrent := by
  have hrun : ∀ (events : List NormalizedEvent) (s : StateEngine), s.ClusterSound →
      s.AllCurrent → (s.applyEvents events).AllCurrent := by
    intro events
    induction events with
    | nil => exact fun _ _ hs => hs
    | cons event events ih =>
        intro s hsound hs
        exact ih _ (clusterSound_applyEvent hsound event)
          (allCurrent_applyEvent hsound.indexed hs event)
  refine hrun events _ (clusterSound_new ttl) ?_
  intro k token h
  cases h

/-- After every event of a run, the full recompute changes no token: each creator has the
cluster id of its wallet, its rank among the top holders and the share that it sold. -/
theorem developer_indices_current (ttl : TtlConfig) (events : List NormalizedEvent) :
    ∀ k token, ((new ttl).applyEvents events).tokens.lookup k = some token →
      (∀ creator, token.creator = some creator → token.developerState.relatedClusterId =
        ((new ttl).applyEvents events).clusterIndex.clusterIdFor creator.text) ∧
      token.developerState.creatorCurrentRank = token.creatorRank ∧
      token.developerState.creatorSellPercentage = creatorSoldShare token.developerState ∧
      refreshTokenClusterDerived token ((new ttl).applyEvents events).clusterIndex = token := by
  intro k token hlookup
  have hcurrent := allCurrent_reachable ttl events k token hlookup
  obtain ⟨hcluster, hrank, hshare⟩ := (TokenState.current_iff _ _).mp hcurrent
  exact ⟨hcluster, hrank, hshare, hcurrent⟩

/-- The creator of a launch that another wallet paid for has the cluster of both. -/
theorem developer_indices_current_sharedPayer :
    ∃ token,
      ((new sampleTtl).applyEvents [sharedPayerCreation]).tokens.lookup "mint" = some token ∧
      token.developerState.relatedClusterId =
        ((new sampleTtl).applyEvents [sharedPayerCreation]).clusterIndex.clusterIdFor
          "creator" := by
  have hcreator : (((new sampleTtl).applyEvents [sharedPayerCreation]).tokens.lookup "mint").map
      TokenState.creator = some (some ⟨"creator"⟩) := by decide +kernel
  obtain ⟨token, htoken, hown⟩ := Option.map_eq_some_iff.mp hcreator
  exact ⟨token, htoken, (developer_indices_current sampleTtl [sharedPayerCreation] "mint" token
    htoken).1 ⟨"creator"⟩ hown⟩

end StateEngine

end PumpLaunchTrader
