import PumpLaunchTrader.Engine.Step
import PumpLaunchTrader.Lib.Runs

/-! # Cached cluster ids

Creations and funding link wallets and refresh the summaries of the linked ones and their
neighbours. A summary that another event creates has no cluster id, whatever the index says
of its wallet. -/

namespace PumpLaunchTrader

namespace ClusterIndex

/-! ## Neighbours -/

/-- The cached neighbours of a wallet. -/
def cached (self : ClusterIndex) (wallet : String) : Finset String :=
  (self.walletNeighbors.lookup wallet).getD ∅

/-- Both ends of every edge have cached neighbours, so nothing is found by a scan. -/
def Indexed (self : ClusterIndex) : Prop :=
  ∀ pair evidence, self.edges.lookup pair = some evidence →
    (self.walletNeighbors.lookup pair.1).isSome = true ∧
      (self.walletNeighbors.lookup pair.2).isSome = true

theorem neighborsOf_eq {self : ClusterIndex} (h : self.Indexed) (wallet : String) :
    self.neighborsOf wallet = (self.cached wallet).sort (· ≤ ·) := by
  unfold neighborsOf cached
  cases hlookup : self.walletNeighbors.lookup wallet with
  | some neighbors => rfl
  | none =>
      simp only [Option.getD_none, Finset.sort_empty]
      unfold scannedNeighbors
      rw [List.filterMap_eq_nil_iff]
      rintro ⟨pair, evidence⟩ hmem
      obtain ⟨hleft, hright⟩ := h pair evidence ((KeyedMap.mem_entries_iff _ _ _).mp hmem)
      have hleft' : ¬ pair.1 = wallet := by
        rintro rfl
        simp [hlookup] at hleft
      have hright' : ¬ pair.2 = wallet := by
        rintro rfl
        simp [hlookup] at hright
      simp [hleft', hright']

theorem relatedWallets_eq {self : ClusterIndex} (h : self.Indexed) (wallet : String) :
    self.relatedWallets wallet = insert wallet (self.cached wallet) := by
  rw [relatedWallets, neighborsOf_eq h, Finset.sort_toFinset]

/-- The cluster id of a wallet depends on its neighbours only. -/
theorem clusterIdFor_congr {a b : ClusterIndex} {wallet : String}
    (h : a.neighborsOf wallet = b.neighborsOf wallet) :
    a.clusterIdFor wallet = b.clusterIdFor wallet := by
  simp only [clusterIdFor, h]

/-- The index links a wallet to another one. -/
def IsLinked (self : ClusterIndex) (wallet : String) : Prop :=
  ∃ neighbor ∈ self.neighborsOf wallet, neighbor ≠ wallet

theorem one_lt_length_destutter'_iff (wallet : String) (others : List String) :
    1 < (others.destutter' (· ≠ ·) wallet).length ↔ ∃ other ∈ others, other ≠ wallet := by
  induction others with
  | nil => simp
  | cons first others ih =>
      by_cases hfirst : wallet = first
      · rw [List.destutter'_cons_neg _ (not_not.mpr hfirst), ih]
        simp [hfirst]
      · rw [List.destutter'_cons_pos _ hfirst, List.length_cons]
        have hne : (others.destutter' (· ≠ ·) first).length ≠ 0 :=
          fun h => List.destutter'_ne_nil _ _ (List.length_eq_zero_iff.mp h)
        constructor
        · exact fun _ => ⟨first, List.mem_cons_self, fun h => hfirst h.symm⟩
        · intro _
          omega

/-- Exactly the linked wallets have a cluster id. -/
theorem clusterIdFor_ne_none_iff (self : ClusterIndex) (wallet : String) :
    self.clusterIdFor wallet ≠ none ↔ self.IsLinked wallet := by
  unfold clusterIdFor IsLinked
  have hperm := List.perm_insertionSort (· ≤ ·) (wallet :: self.neighborsOf wallet)
  cases hsorted : (wallet :: self.neighborsOf wallet).insertionSort (· ≤ ·) with
  | nil =>
      rw [hsorted] at hperm
      cases hperm.nil_eq
  | cons first rest =>
      rw [hsorted] at hperm
      simp only [List.destutter_cons', one_lt_length_destutter'_iff]
      -- some member differs from the first one exactly when some neighbour is another wallet
      have hmem : ∀ other, other ∈ first :: rest ↔
          other ∈ wallet :: self.neighborsOf wallet := fun _ => hperm.mem_iff
      have hiff : (∃ other ∈ rest, other ≠ first) ↔
          ∃ neighbor ∈ self.neighborsOf wallet, neighbor ≠ wallet := by
        constructor
        · rintro ⟨other, hother, hne⟩
          by_contra hnone
          push Not at hnone
          have hall : ∀ member ∈ first :: rest, member = wallet := by
            intro member hmember
            rcases List.mem_cons.mp ((hmem member).mp hmember) with h | h
            · exact h
            · exact hnone member h
          exact hne ((hall other (List.mem_cons_of_mem _ hother)).trans
            (hall first List.mem_cons_self).symm)
        · rintro ⟨neighbor, hneighbor, hne⟩
          by_contra hnone
          push Not at hnone
          have hall : ∀ member ∈ wallet :: self.neighborsOf wallet, member = first := by
            intro member hmember
            rcases List.mem_cons.mp ((hmem member).mpr hmember) with h | h
            · exact h
            · exact hnone member h
          exact hne ((hall neighbor (List.mem_cons_of_mem _ hneighbor)).trans
            (hall wallet List.mem_cons_self).symm)
      by_cases hother : ∃ other ∈ rest, other ≠ first
      · simp [hother, ← hiff]
      · simp [hother, ← hiff]

/-! ## Linking wallets -/

/-- Some wallets are linked to each other. The others keep their neighbours. -/
structure Links (wallets : Finset String) (before after : ClusterIndex) : Prop where
  indexed : before.Indexed → after.Indexed
  outside : ∀ wallet ∉ wallets, after.cached wallet = before.cached wallet
  kept : ∀ wallet, before.cached wallet ⊆ after.cached wallet
  linked : ∀ wallet, after.cached wallet ⊆ before.cached wallet ∪ wallets

theorem Links.refl (wallets : Finset String) (index : ClusterIndex) :
    Links wallets index index where
  indexed := id
  outside _ _ := rfl
  kept _ := Finset.Subset.refl _
  linked _ := Finset.subset_union_left

theorem Links.trans {wallets : Finset String} {a b c : ClusterIndex} (h : Links wallets a b)
    (h' : Links wallets b c) : Links wallets a c where
  indexed := h'.indexed ∘ h.indexed
  outside wallet hwallet := (h'.outside wallet hwallet).trans (h.outside wallet hwallet)
  kept wallet := (h.kept wallet).trans (h'.kept wallet)
  linked wallet := by
    refine (h'.linked wallet).trans (Finset.union_subset (h.linked wallet) ?_)
    exact Finset.subset_union_right

/-- A wallet outside the linked ones keeps its cluster id. -/
theorem Links.clusterIdFor {wallets : Finset String} {before after : ClusterIndex}
    (h : Links wallets before after) (hindexed : before.Indexed) {wallet : String}
    (hwallet : wallet ∉ wallets) : after.clusterIdFor wallet = before.clusterIdFor wallet := by
  apply clusterIdFor_congr
  rw [neighborsOf_eq hindexed, neighborsOf_eq (h.indexed hindexed), h.outside wallet hwallet]

/-- The linked wallets are related to the same wallets before and after. -/
theorem Links.biUnion_relatedWallets {wallets : Finset String} {before after : ClusterIndex}
    (h : Links wallets before after) (hindexed : before.Indexed) :
    wallets.biUnion after.relatedWallets = wallets.biUnion before.relatedWallets := by
  ext other
  simp only [Finset.mem_biUnion, relatedWallets_eq hindexed,
    relatedWallets_eq (h.indexed hindexed), Finset.mem_insert]
  constructor
  · rintro ⟨wallet, hwallet, rfl | hother⟩
    · exact ⟨other, hwallet, Or.inl rfl⟩
    · rcases Finset.mem_union.mp (h.linked wallet hother) with hold | hnew
      · exact ⟨wallet, hwallet, Or.inr hold⟩
      · exact ⟨other, hnew, Or.inl rfl⟩
  · rintro ⟨wallet, hwallet, rfl | hother⟩
    · exact ⟨other, hwallet, Or.inl rfl⟩
    · exact ⟨wallet, hwallet, Or.inr (h.kept wallet hother)⟩

theorem cached_recordNeighbors (self : ClusterIndex) {left right : String} (h : left ≠ right)
    (wallet : String) :
    (self.recordNeighbors left right).cached wallet =
      if wallet = right then insert left (self.cached wallet)
      else if wallet = left then insert right (self.cached wallet)
      else self.cached wallet := by
  unfold recordNeighbors cached
  rw [if_neg h]
  simp only [KeyedMap.lookup_upsert]
  by_cases hright : wallet = right
  · subst hright
    simp [h.symm]
  · by_cases hleft : wallet = left
    · subst hleft
      simp [hright]
    · simp [hright, hleft]

theorem isSome_lookup_recordNeighbors (self : ClusterIndex) {left right : String}
    (h : left ≠ right) (wallet : String) :
    ((self.recordNeighbors left right).walletNeighbors.lookup wallet).isSome = true ↔
      wallet = left ∨ wallet = right ∨ (self.walletNeighbors.lookup wallet).isSome = true := by
  unfold recordNeighbors
  rw [if_neg h]
  simp only [KeyedMap.lookup_upsert]
  by_cases hright : wallet = right
  · simp [hright]
  · by_cases hleft : wallet = left
    · subst hleft
      simp [h]
    · simp [hright, hleft]

theorem normalizePair_ends (left right : String) :
    normalizePair left right = (left, right) ∨ normalizePair left right = (right, left) := by
  unfold normalizePair
  split
  · exact Or.inl rfl
  · exact Or.inr rfl

/-- Recording an edge between two of the wallets, with their neighbours, links them. -/
theorem links_record {wallets : Finset String} {before after : ClusterIndex}
    {left right : String} (hne : left ≠ right) (hleft : left ∈ wallets)
    (hright : right ∈ wallets)
    (hedges : ∀ pair, pair ≠ normalizePair left right →
      after.edges.lookup pair = before.edges.lookup pair)
    (hneighbors : after.walletNeighbors = (before.recordNeighbors left right).walletNeighbors) :
    Links wallets before after := by
  have hcached : ∀ wallet, after.cached wallet =
      (before.recordNeighbors left right).cached wallet := by
    intro wallet
    rw [cached, hneighbors, cached]
  refine ⟨?_, ?_, ?_, ?_⟩
  · intro hindexed pair evidence hlookup
    rw [hneighbors, before.isSome_lookup_recordNeighbors hne,
      before.isSome_lookup_recordNeighbors hne]
    by_cases hpair : pair = normalizePair left right
    · rcases normalizePair_ends left right with hends | hends
      · rw [hpair, hends]
        exact ⟨Or.inl rfl, Or.inr (Or.inl rfl)⟩
      · rw [hpair, hends]
        exact ⟨Or.inr (Or.inl rfl), Or.inl rfl⟩
    · rw [hedges pair hpair] at hlookup
      obtain ⟨hfirst, hsecond⟩ := hindexed pair evidence hlookup
      exact ⟨Or.inr (Or.inr hfirst), Or.inr (Or.inr hsecond)⟩
  · intro wallet hwallet
    have hnotLeft : ¬ wallet = left := fun he => hwallet (he ▸ hleft)
    have hnotRight : ¬ wallet = right := fun he => hwallet (he ▸ hright)
    rw [hcached, before.cached_recordNeighbors hne, if_neg hnotRight, if_neg hnotLeft]
  · intro wallet
    rw [hcached, before.cached_recordNeighbors hne]
    split
    · exact Finset.subset_insert _ _
    · split
      · exact Finset.subset_insert _ _
      · exact Finset.Subset.refl _
  · intro wallet
    rw [hcached, before.cached_recordNeighbors hne]
    split
    · exact Finset.insert_subset (Finset.mem_union_right _ hleft) Finset.subset_union_left
    · split
      · exact Finset.insert_subset (Finset.mem_union_right _ hright) Finset.subset_union_left
      · exact Finset.subset_union_left

theorem links_recordSamePayer {wallets : Finset String} (index : ClusterIndex)
    {left right : String} (hne : left ≠ right) (hleft : left ∈ wallets)
    (hright : right ∈ wallets) : Links wallets index (index.recordSamePayer left right) := by
  refine links_record hne hleft hright (fun pair hpair => ?_) ?_
  · simp only [recordSamePayer, recordNeighbors, if_neg hne, KeyedMap.lookup_upsert_ne _ hpair]
  · simp only [recordSamePayer, recordNeighbors, if_neg hne]

theorem links_recordSameFunder {wallets : Finset String} (index : ClusterIndex)
    {left right : String} (hne : left ≠ right) (hleft : left ∈ wallets)
    (hright : right ∈ wallets) : Links wallets index (index.recordSameFunder left right) := by
  refine links_record hne hleft hright (fun pair hpair => ?_) ?_
  · simp only [recordSameFunder, recordNeighbors, if_neg hne, KeyedMap.lookup_upsert_ne _ hpair]
  · simp only [recordSameFunder, recordNeighbors, if_neg hne]

/-- Wallets of one funder are linked pair by pair. -/
theorem links_foldl_recordSameFunder {wallets : Finset String} (pairs : List (String × String))
    (index : ClusterIndex)
    (h : ∀ pair ∈ pairs, pair.1 ≠ pair.2 ∧ pair.1 ∈ wallets ∧ pair.2 ∈ wallets) :
    Links wallets index (pairs.foldl
      (fun index (pair : String × String) => index.recordSameFunder pair.1 pair.2) index) := by
  induction pairs generalizing index with
  | nil => exact .refl wallets index
  | cons pair pairs ih =>
      obtain ⟨⟨hne, hleft, hright⟩, hrest⟩ := List.forall_mem_cons.mp h
      exact (links_recordSameFunder index hne hleft hright).trans (ih _ hrest)

end ClusterIndex

namespace StateEngine

/-! ## Summaries -/

/-- The wallet and the cluster id that the summary under a key has. -/
def clusterEntry (self : StateEngine) (key : String) : Option (String × Option String) :=
  (self.wallets.lookup key).map fun summary => (summary.wallet, summary.clusterId)

/-- Every summary has the cluster id that the index gives its wallet. -/
def Clustered (self : StateEngine) : Prop :=
  ∀ key summary, self.wallets.lookup key = some summary →
    summary.clusterId = self.clusterIndex.clusterIdFor summary.wallet

/-- Summaries are filed under their wallets, and the index needs no scan. -/
structure ClusterSound (engine : StateEngine) : Prop where
  wallets : ∀ key entry, engine.clusterEntry key = some entry → entry.1 = key
  indexed : engine.clusterIndex.Indexed

/-- The full recompute changes no wallet exactly when the summaries are right. -/
theorem refreshClusters_wallets_iff (s : StateEngine) :
    (∀ key, s.refreshClusters.wallets.lookup key = s.wallets.lookup key) ↔ s.Clustered := by
  simp only [refreshClusters, KeyedMap.lookup_mapValues]
  constructor
  · intro h key summary hlookup
    have hkey := h key
    rw [hlookup, Option.map_some, Option.some.injEq] at hkey
    exact (congrArg WalletSummary.clusterId hkey).symm
  · intro h key
    cases hlookup : s.wallets.lookup key with
    | none => rfl
    | some summary =>
        rw [Option.map_some, ← h key summary hlookup]

theorem clustered_iff {s : StateEngine} (hsound : s.ClusterSound) :
    s.Clustered ↔ ∀ key entry, s.clusterEntry key = some entry →
      entry.2 = s.clusterIndex.clusterIdFor key := by
  constructor
  · intro h key entry hentry
    have hkey := hsound.wallets key entry hentry
    simp only [clusterEntry, Option.map_eq_some_iff] at hentry
    obtain ⟨summary, hlookup, rfl⟩ := hentry
    exact (h key summary hlookup).trans (congrArg _ hkey)
  · intro h key summary hlookup
    have hentry : s.clusterEntry key = some (summary.wallet, summary.clusterId) := by
      rw [clusterEntry, hlookup]
      rfl
    have hkey := hsound.wallets key _ hentry
    exact (h key _ hentry).trans (congrArg _ hkey.symm)

theorem clusterSound_new (ttl : TtlConfig) : (new ttl).ClusterSound where
  wallets := by
    intro key entry h
    cases h
  indexed := by
    intro pair evidence h
    cases h

/-- Touching a wallet creates a summary without a cluster id, and keeps the id of others. -/
theorem clusterEntry_touchWallet (s : StateEngine) (wallet : String)
    (timestamp : OffsetDateTime) {f : WalletSummary → WalletSummary}
    (hf : ∀ summary, (f summary).wallet = summary.wallet ∧
      (f summary).clusterId = summary.clusterId) (key : String) :
    (s.touchWallet wallet timestamp f).clusterEntry key =
      if key = wallet then some ((s.clusterEntry wallet).getD (wallet, none))
      else s.clusterEntry key := by
  unfold clusterEntry touchWallet
  simp only [KeyedMap.lookup_upsert]
  by_cases hkey : key = wallet
  · rw [if_pos hkey, if_pos hkey, Option.map_some, (hf _).1, (hf _).2]
    cases s.wallets.lookup wallet <;> rfl
  · rw [if_neg hkey, if_neg hkey]

/-! ## Payloads -/

/-- The wallets whose summaries an event touches. -/
def touchedWallets (event : NormalizedEvent) : List String :=
  match event.payload with
  | .tokenCreated payload => [payload.creatorWallet.text]
  | .pumpBuy payload => [payload.buyer.text]
  | .pumpSell payload => if event.info.isTentative then [] else [payload.seller.text]
  | .holderBalanceUpdate payload => [payload.ownerWallet.text]
  | .walletFunding payload => [payload.wallet.text, payload.funder.text]
  | _ => []

/-- The wallets that an event links to each other. -/
def linkedWallets (self : StateEngine) (event : NormalizedEvent) : Option (Finset String) :=
  match event.payload with
  | .tokenCreated payload => some {payload.creatorWallet.text, payload.payer.text}
  | .walletFunding payload =>
    some (insert payload.wallet.text
      (self.fundingGraph.walletsForFunder payload.funder.text))
  | _ => none

theorem clusterAffectedWallets_eq (s : StateEngine) (event : NormalizedEvent) :
    s.clusterAffectedWallets event =
      (s.linkedWallets event).map fun wallets => wallets.biUnion s.clusterIndex.relatedWallets := by
  unfold clusterAffectedWallets linkedWallets
  cases event.payload <;> rfl

@[simp] theorem wallets_recordSignature (s : StateEngine) (mint : PubkeyValue)
    (event : NormalizedEvent) : (s.recordSignature mint event).wallets = s.wallets := by
  unfold recordSignature
  split
  · split <;> rfl
  · rfl

@[simp] theorem clusterIndex_recordSignature (s : StateEngine) (mint : PubkeyValue)
    (event : NormalizedEvent) :
    (s.recordSignature mint event).clusterIndex = s.clusterIndex := by
  unfold recordSignature
  split
  · split <;> rfl
  · rfl

theorem clusterEntry_of_wallets {s s' : StateEngine} (h : s'.wallets = s.wallets)
    (key : String) : s'.clusterEntry key = s.clusterEntry key := by
  rw [clusterEntry, h, clusterEntry]

/-- What touches one wallet, whatever else it changes before and after, leaves the others
alone. -/
theorem clusterEntry_of_touch {s engine after : StateEngine} {wallet : String}
    {timestamp : OffsetDateTime} {f : WalletSummary → WalletSummary}
    (hengine : engine.wallets = s.wallets)
    (hf : ∀ summary, (f summary).wallet = summary.wallet ∧
      (f summary).clusterId = summary.clusterId)
    (hafter : after.wallets = (engine.touchWallet wallet timestamp f).wallets) (key : String) :
    after.clusterEntry key =
      if key ∈ [wallet] then some ((s.clusterEntry key).getD (key, none))
      else s.clusterEntry key := by
  rw [clusterEntry_of_wallets hafter, clusterEntry_touchWallet engine wallet timestamp hf,
    clusterEntry_of_wallets hengine, clusterEntry_of_wallets hengine]
  simp only [List.mem_singleton]
  by_cases hkey : key = wallet
  · subst hkey
    rfl
  · rw [if_neg hkey, if_neg hkey]

/-- A funding touches the wallet and its funder. -/
theorem clusterEntry_applyFunding (s : StateEngine) (payload : WalletFundingEvent)
    (event : NormalizedEvent) (key : String) :
    (s.applyFunding payload event).clusterEntry key =
      if key ∈ [payload.wallet.text, payload.funder.text] then
        some ((s.clusterEntry key).getD (key, none))
      else s.clusterEntry key := by
  have hid : ∀ summary : WalletSummary, (id summary).wallet = summary.wallet ∧
      (id summary).clusterId = summary.clusterId := fun _ => ⟨rfl, rfl⟩
  have hfunding : ∀ (graph : FundingGraph) (index : ClusterIndex) (key : String),
      clusterEntry { s with fundingGraph := graph, clusterIndex := index } key =
        s.clusterEntry key := fun _ _ _ => rfl
  simp only [applyFunding, List.mem_cons, List.not_mem_nil, or_false]
  rw [clusterEntry_touchWallet _ _ _ hid, clusterEntry_touchWallet _ _ _ hid,
    clusterEntry_touchWallet _ _ _ hid]
  simp only [hfunding]
  by_cases hfunder : key = payload.funder.text
  · rw [if_pos hfunder, if_pos (Or.inr hfunder), ← hfunder]
    split
    · next hwallet => rw [← hwallet, Option.getD_some]
    · rfl
  · rw [if_neg hfunder]
    simp only [hfunder, or_false]
    split
    · next hwallet => rw [hwallet]
    · rfl

/-- A payload touches the summaries of its wallets and leaves the others alone. -/
theorem clusterEntry_applyPayload (s : StateEngine) (event : NormalizedEvent) (key : String) :
    (s.applyPayload event).clusterEntry key =
      if key ∈ touchedWallets event then some ((s.clusterEntry key).getD (key, none))
      else s.clusterEntry key := by
  unfold applyPayload touchedWallets
  cases event.payload with
  | tokenCreated payload =>
      let engine := (s.withToken payload.mint event.info.source fun token =>
        token.applyTokenCreated payload event s.ttl).recordSignature payload.mint event
      have hwallets : (s.applyTokenCreated payload event).wallets =
          (engine.touchWallet payload.creatorWallet.text event.info.receivedAtWallTime
            fun wallet =>
              { wallet with creatorLaunches := wallet.creatorLaunches + 1 }).wallets := by
        simp only [applyTokenCreated]
        split <;> rfl
      refine clusterEntry_of_touch ?_ ?_ hwallets key
      · exact wallets_recordSignature _ _ _
      · exact fun _ => ⟨rfl, rfl⟩
  | pumpBuy payload =>
      let engine := (s.withToken payload.mint event.info.source fun token =>
        token.applyBuy payload event (s.buyObservation payload event) s.ttl).recordSignature
          payload.mint event
      have hwallets : (s.applyBuy payload event).wallets =
          (engine.touchWallet payload.buyer.text event.info.receivedAtWallTime fun wallet =>
            { wallet with
              tokensBought :=
                wallet.tokensBought.upsert payload.mint.text 0 (· + payload.tokenOut) }).wallets :=
        rfl
      refine clusterEntry_of_touch ?_ ?_ hwallets key
      · exact wallets_recordSignature _ _ _
      · exact fun _ => ⟨rfl, rfl⟩
  | pumpSell payload =>
      cases event.info.isTentative with
      | true => simp
      | false =>
          let engine := (s.withToken payload.mint event.info.source fun token =>
            token.applySell payload event (s.sellObservation payload event) s.ttl).recordSignature
              payload.mint event
          have hwallets : (s.applySell payload event).wallets =
              (engine.touchWallet payload.seller.text event.info.receivedAtWallTime fun wallet =>
                { wallet with
                  tokensSold :=
                    wallet.tokensSold.upsert payload.mint.text 0 (· + payload.tokenIn) }).wallets :=
            rfl
          refine clusterEntry_of_touch ?_ ?_ hwallets key
          · exact wallets_recordSignature _ _ _
          · exact fun _ => ⟨rfl, rfl⟩
  | holderBalanceUpdate payload =>
      let engine := s.withToken payload.mint event.info.source fun token =>
        token.applyHolderUpdate payload event
      have hwallets : (s.applyHolderUpdate payload event).wallets =
          (engine.touchWallet payload.ownerWallet.text event.info.receivedAtWallTime id).wallets :=
        rfl
      refine clusterEntry_of_touch ?_ ?_ hwallets key
      · rfl
      · exact fun _ => ⟨rfl, rfl⟩
  | walletFunding payload => exact s.clusterEntry_applyFunding payload event key
  | observedTransaction payload =>
      simp only [applyObservedTransaction]
      cases event.signature <;> simp [clusterEntry]
  | tokenTerminal payload =>
      simp only [applyTerminal]
      cases s.tokens.lookup payload.mint.text <;> simp [clusterEntry]
  | _ => simp [clusterEntry, applyCurveUpdate, applyTentativeSellIntent,
      applyTentativeSellWarning, applyShredExitArmed, applyShredExitTriggered,
      applyShredSellResolved, applyDataGap, withToken]

/-- A payload links its wallets, and calls for a refresh of the wallets it links. -/
theorem links_applyPayload (s : StateEngine) {event : NormalizedEvent} {wallets : Finset String}
    (h : s.linkedWallets event = some wallets) :
    ClusterIndex.Links wallets s.clusterIndex (s.applyPayload event).clusterIndex ∧
      (s.applyPayload event).linkedWallets event = some wallets := by
  unfold linkedWallets at h
  unfold applyPayload linkedWallets
  cases hpayload : event.payload with
  | tokenCreated payload =>
      rw [hpayload] at h
      cases h
      refine ⟨?_, rfl⟩
      simp only [applyTokenCreated]
      split
      · next hne =>
          simp only [touchWallet, clusterIndex_recordSignature]
          exact ClusterIndex.links_recordSamePayer _ hne (by simp) (by simp)
      · simp only [touchWallet, clusterIndex_recordSignature]
        exact .refl _ _
  | walletFunding payload =>
      rw [hpayload] at h
      cases h
      refine ⟨ClusterIndex.links_foldl_recordSameFunder _ _ ?_, ?_⟩
      · intro pair hpair
        simp only [List.mem_map, Finset.mem_sort, Finset.mem_erase] at hpair
        obtain ⟨wallet, ⟨hne, hwallet⟩, rfl⟩ := hpair
        exact ⟨hne, Finset.mem_insert_of_mem hwallet, Finset.mem_insert_self _ _⟩
      · simp [applyFunding, touchWallet, FundingGraph.apply, FundingGraph.walletsForFunder]
  | _ =>
      rw [hpayload] at h
      cases h

/-- The other payloads leave the index alone. -/
theorem clusterIndex_applyPayload (s : StateEngine) {event : NormalizedEvent}
    (h : s.linkedWallets event = none) :
    (s.applyPayload event).clusterIndex = s.clusterIndex ∧
      (s.applyPayload event).linkedWallets event = none := by
  unfold linkedWallets at h
  unfold applyPayload linkedWallets
  cases hpayload : event.payload with
  | tokenCreated payload | walletFunding payload =>
      rw [hpayload] at h
      cases h
  | pumpSell payload =>
      cases event.info.isTentative <;> simp [applySell, touchWallet, withToken]
  | observedTransaction payload =>
      simp only [applyObservedTransaction]
      cases event.signature <;> simp
  | tokenTerminal payload =>
      simp only [applyTerminal]
      cases s.tokens.lookup payload.mint.text <;> simp
  | _ => simp [applyBuy, applyHolderUpdate, touchWallet, applyCurveUpdate,
      applyTentativeSellIntent, applyTentativeSellWarning, applyShredExitArmed,
      applyShredExitTriggered, applyShredSellResolved, applyDataGap, withToken]

/-! ## Events -/

/-- The wallets whose cluster ids an event refreshes. -/
def refreshedWallets (self : StateEngine) (event : NormalizedEvent) : Finset String :=
  (self.clusterAffectedWallets event).getD ∅

theorem clusterIndex_refreshDerived (s : StateEngine) (event : NormalizedEvent) :
    (s.refreshDerivedIndicesForEvent event).clusterIndex = s.clusterIndex := by
  unfold refreshDerivedIndicesForEvent refreshClustersForWallets
  split
  · split <;> rfl
  · split <;> rfl

/-- The refresh after an event rewrites the ids of the refreshed wallets. -/
theorem clusterEntry_refreshDerived (s : StateEngine) (event : NormalizedEvent) (key : String) :
    (s.refreshDerivedIndicesForEvent event).clusterEntry key =
      (s.clusterEntry key).map fun entry =>
        (entry.1,
          if key ∈ s.refreshedWallets event then s.clusterIndex.clusterIdFor key else entry.2) := by
  unfold refreshDerivedIndicesForEvent refreshedWallets
  cases haffected : s.clusterAffectedWallets event with
  | some affected =>
      by_cases hempty : affected = ∅
      · subst hempty
        simp [refreshClustersForWallets]
      · simp only [refreshClustersForWallets, if_neg hempty, clusterEntry,
          KeyedMap.lookup_mapValues, Option.map_map, Option.getD_some]
        by_cases hkey : key ∈ affected
        · simp [hkey, Function.comp_def]
        · simp [hkey, Function.comp_def]
  | none =>
      cases event.mint <;> simp [clusterEntry, Function.comp_def]

theorem recomputeTransitions_wallets (s : StateEngine) (event : NormalizedEvent) :
    (s.recomputeTransitions event).1.wallets = s.wallets ∧
      (s.recomputeTransitions event).1.clusterIndex = s.clusterIndex := by
  unfold recomputeTransitions
  split
  · exact ⟨rfl, rfl⟩
  · split <;> exact ⟨rfl, rfl⟩

theorem forgetSignature_wallets (s : StateEngine) (event : NormalizedEvent) :
    (s.forgetSignature event).wallets = s.wallets ∧
      (s.forgetSignature event).clusterIndex = s.clusterIndex := by
  unfold forgetSignature
  split <;> exact ⟨rfl, rfl⟩

theorem refreshedWallets_applyPayload {s : StateEngine} (hindexed : s.clusterIndex.Indexed)
    (event : NormalizedEvent) :
    (s.applyPayload event).refreshedWallets event = s.refreshedWallets event := by
  unfold refreshedWallets
  rw [clusterAffectedWallets_eq, clusterAffectedWallets_eq]
  cases hlinked : s.linkedWallets event with
  | some wallets =>
      obtain ⟨hlinks, hafter⟩ := s.links_applyPayload hlinked
      simp only [hafter, Option.map_some, hlinks.biUnion_relatedWallets hindexed]
  | none =>
      simp only [(s.clusterIndex_applyPayload hlinked).2, Option.map_none]

/-- Wallets that an event does not refresh keep their cluster ids in the index. -/
theorem clusterIdFor_applyPayload {s : StateEngine} (hindexed : s.clusterIndex.Indexed)
    {event : NormalizedEvent} {wallet : String} (h : wallet ∉ s.refreshedWallets event) :
    (s.applyPayload event).clusterIndex.clusterIdFor wallet =
      s.clusterIndex.clusterIdFor wallet := by
  cases hlinked : s.linkedWallets event with
  | some wallets =>
      apply (s.links_applyPayload hlinked).1.clusterIdFor hindexed
      intro hwallet
      apply h
      rw [refreshedWallets, clusterAffectedWallets_eq, hlinked]
      exact Finset.mem_biUnion.mpr ⟨wallet, hwallet, Finset.mem_insert_self _ _⟩
  | none => rw [(s.clusterIndex_applyPayload hlinked).1]

theorem indexed_applyPayload {s : StateEngine} (hindexed : s.clusterIndex.Indexed)
    (event : NormalizedEvent) : (s.applyPayload event).clusterIndex.Indexed := by
  cases hlinked : s.linkedWallets event with
  | some wallets => exact (s.links_applyPayload hlinked).1.indexed hindexed
  | none => exact (s.clusterIndex_applyPayload hlinked).1 ▸ hindexed

theorem applyEvent_of_not_reverted (s : StateEngine) {event : NormalizedEvent}
    (h : event.info.canonicality ≠ .reverted) :
    (∀ key, (s.applyEvent event).1.clusterEntry key =
      ((s.applyPayload event).refreshDerivedIndicesForEvent event).clusterEntry key) ∧
      (s.applyEvent event).1.clusterIndex = (s.applyPayload event).clusterIndex := by
  unfold applyEvent
  rw [if_neg h]
  obtain ⟨hwallets, hindex⟩ := recomputeTransitions_wallets
    ((s.applyPayload event).refreshDerivedIndicesForEvent event) event
  exact ⟨clusterEntry_of_wallets hwallets, hindex.trans (clusterIndex_refreshDerived _ _)⟩

theorem clusterEntry_applyEvent {s : StateEngine} (hindexed : s.clusterIndex.Indexed)
    {event : NormalizedEvent} (h : event.info.canonicality ≠ .reverted) (key : String) :
    (s.applyEvent event).1.clusterEntry key =
      (if key ∈ touchedWallets event then some ((s.clusterEntry key).getD (key, none))
        else s.clusterEntry key).map fun entry =>
          (entry.1,
            if key ∈ s.refreshedWallets event then
              (s.applyPayload event).clusterIndex.clusterIdFor key
            else entry.2) := by
  rw [(s.applyEvent_of_not_reverted h).1, clusterEntry_refreshDerived,
    refreshedWallets_applyPayload hindexed, clusterEntry_applyPayload]

/-- A reverted event changes no summary. -/
theorem clustered_applyEvent_of_reverted (s : StateEngine) {event : NormalizedEvent}
    (h : event.info.canonicality = .reverted) :
    ((s.applyEvent event).1.ClusterSound ↔ s.ClusterSound) ∧
      ((s.applyEvent event).1.Clustered ↔ s.Clustered) := by
  obtain ⟨hwallets, hindex⟩ := s.forgetSignature_wallets event
  unfold applyEvent
  rw [if_pos h]
  constructor
  · constructor
    · exact fun hsound =>
        ⟨fun key entry hentry =>
            hsound.wallets key entry (by rwa [clusterEntry_of_wallets hwallets]),
          hindex ▸ hsound.indexed⟩
    · exact fun hsound =>
        ⟨fun key entry hentry => hsound.wallets key entry
            (by rwa [clusterEntry_of_wallets hwallets] at hentry),
          hindex.symm ▸ hsound.indexed⟩
  · simp only [Clustered, hwallets, hindex]

theorem clusterSound_applyEvent {s : StateEngine} (hsound : s.ClusterSound)
    (event : NormalizedEvent) : (s.applyEvent event).1.ClusterSound := by
  by_cases hreverted : event.info.canonicality = .reverted
  · exact (s.clustered_applyEvent_of_reverted hreverted).1.mpr hsound
  refine ⟨?_, ?_⟩
  · intro key entry hentry
    rw [clusterEntry_applyEvent hsound.indexed hreverted, Option.map_eq_some_iff] at hentry
    obtain ⟨before, hbefore, rfl⟩ := hentry
    change before.1 = key
    split at hbefore
    · cases hlookup : s.clusterEntry key with
      | none =>
          rw [hlookup] at hbefore
          cases hbefore
          rfl
      | some old =>
          rw [hlookup] at hbefore
          cases hbefore
          exact hsound.wallets key old hlookup
    · exact hsound.wallets key before hbefore
  · rw [(s.applyEvent_of_not_reverted hreverted).2]
    exact indexed_applyPayload hsound.indexed event

theorem clusterSound_applyEvents {s : StateEngine} (hsound : s.ClusterSound)
    (events : List NormalizedEvent) : (s.applyEvents events).ClusterSound := by
  induction events generalizing s with
  | nil => exact hsound
  | cons event events ih => exact ih (clusterSound_applyEvent hsound event)

/-- An event creates the summary of a wallet that is already linked to others, and does not
refresh it. -/
def CreatesStale (self : StateEngine) (event : NormalizedEvent) : Prop :=
  event.info.canonicality ≠ .reverted ∧
    ∃ wallet ∈ touchedWallets event, self.wallets.lookup wallet = none ∧
      self.clusterIndex.IsLinked wallet ∧ wallet ∉ self.refreshedWallets event

theorem clusterEntry_eq_none_iff (s : StateEngine) (key : String) :
    s.clusterEntry key = none ↔ s.wallets.lookup key = none := by
  rw [clusterEntry, Option.map_eq_none_iff]

/-- An event keeps the summaries right exactly when it creates none that is stale. -/
theorem clustered_applyEvent_iff {s : StateEngine} (hsound : s.ClusterSound)
    (hclustered : s.Clustered) (event : NormalizedEvent) :
    (s.applyEvent event).1.Clustered ↔ ¬ s.CreatesStale event := by
  by_cases hreverted : event.info.canonicality = .reverted
  · rw [(s.clustered_applyEvent_of_reverted hreverted).2]
    exact ⟨fun _ hstale => hstale.1 hreverted, fun _ => hclustered⟩
  have hindex := (s.applyEvent_of_not_reverted hreverted).2
  rw [clustered_iff hsound] at hclustered
  rw [clustered_iff (clusterSound_applyEvent hsound event)]
  simp only [clusterEntry_applyEvent hsound.indexed hreverted, hindex, CreatesStale, hreverted,
    ne_eq, not_false_eq_true, true_and]
  constructor
  · rintro h ⟨wallet, htouched, hnew, hlinked, hrefreshed⟩
    rw [← clusterEntry_eq_none_iff] at hnew
    have hid := h wallet (wallet, none) (by simp [htouched, hnew, hrefreshed])
    rw [clusterIdFor_applyPayload hsound.indexed hrefreshed] at hid
    exact (s.clusterIndex.clusterIdFor_ne_none_iff wallet).mpr hlinked hid.symm
  · intro hfresh key entry hentry
    rw [Option.map_eq_some_iff] at hentry
    obtain ⟨before, hbefore, rfl⟩ := hentry
    by_cases hrefreshed : key ∈ s.refreshedWallets event
    · exact if_pos hrefreshed
    change (if _ then _ else _) = _
    rw [if_neg hrefreshed, clusterIdFor_applyPayload hsound.indexed hrefreshed]
    cases hlookup : s.clusterEntry key with
    | some old =>
        rw [hlookup, Option.getD_some, ite_self, Option.some.injEq] at hbefore
        subst hbefore
        exact hclustered key old hlookup
    | none =>
        rw [hlookup] at hbefore
        split at hbefore
        · next htouched =>
            cases hbefore
            by_contra hid
            refine hfresh ⟨key, htouched, (s.clusterEntry_eq_none_iff key).mp hlookup, ?_,
              hrefreshed⟩
            exact (s.clusterIndex.clusterIdFor_ne_none_iff key).mp fun h => hid h.symm
        · cases hbefore

/-- In every state of a run the summaries are right, and the full recompute changes no
wallet, exactly when no event of the run creates a stale summary. -/
theorem clustered_run_iff (ttl : TtlConfig) (events : List NormalizedEvent) :
    (∀ before after, events = before ++ after →
      ((new ttl).applyEvents before).Clustered ∧
        ∀ key, ((new ttl).applyEvents before).refreshClusters.wallets.lookup key =
          ((new ttl).applyEvents before).wallets.lookup key) ↔
      Runs.Along (fun s event => (s.applyEvent event).1) (fun s event => ¬ s.CreatesStale event)
        (new ttl) events := by
  have hstep : ∀ (s : StateEngine) (event : NormalizedEvent), s.ClusterSound → s.Clustered →
      True → ((s.applyEvent event).1.Clustered ↔ ¬ s.CreatesStale event) :=
    fun s event hsound hclustered _ => clustered_applyEvent_iff hsound hclustered event
  have hstart : (new ttl).Clustered := fun _ _ h => by cases h
  have hruns : (∀ before after, events = before ++ after →
      ((new ttl).applyEvents before).Clustered) ↔
      Runs.Along (fun s event => (s.applyEvent event).1) (fun s event => ¬ s.CreatesStale event)
        (new ttl) events :=
    Runs.forall_reached_iff_along_of_kept (J := ClusterSound) (I := Clustered)
      (fun s event hsound _ => clusterSound_applyEvent hsound event) hstep (clusterSound_new ttl)
      hstart (Runs.along_inputs_iff.mpr fun _ _ => trivial)
  rw [← hruns]
  constructor
  · exact fun h before after hevents => (h before after hevents).1
  · intro h before after hevents
    have hclustered := h before after hevents
    exact ⟨hclustered, (refreshClusters_wallets_iff _).mpr hclustered⟩

/-! ### A buy by the payer of a launch -/

/-- The creation of a token that another wallet than the creator pays for. -/
def sharedPayerCreation : NormalizedEvent :=
  { info :=
      { eventId := ⟨"creation"⟩
        source := .geyserProcessed
        canonicality := .processed
        slot := 1 }
    payload := .tokenCreated
      { mint := ⟨"mint"⟩
        tokenProgram := .splToken
        quoteMint := ⟨"quote"⟩
        quoteAssetType := .wrappedSol
        creatorWallet := ⟨"creator"⟩
        payer := ⟨"payer"⟩
        bondingCurveAccount := ⟨"curve"⟩
        associatedBondingCurveAccount := none
        metadataAccount := none
        name := "Alpha"
        symbol := "ALP"
        uri := ""
        createInstructionVariant := "create"
        sameTransactionBuys := 0
        sameSlotBuys := 0
        launchTransactionFingerprint := none } }

/-- The payer's first own trade. -/
def payerBuy : NormalizedEvent :=
  { info :=
      { eventId := ⟨"buy"⟩
        source := .geyserProcessed
        canonicality := .processed
        slot := 2 }
    payload := .pumpBuy
      { mint := ⟨"mint"⟩
        buyer := ⟨"payer"⟩
        quoteIn := 1
        tokenOut := 100
        effectivePrice := 1 / 100 } }

/-- The payer is linked to the creator when its summary is created, and has no cluster id. -/
theorem payerBuy_not_clustered :
    ¬ ∀ (ttl : TtlConfig) (events : List NormalizedEvent),
      ((new ttl).applyEvents events).Clustered := by
  intro h
  have hcreated := h sampleTtl [sharedPayerCreation]
  have hbought := h sampleTtl [sharedPayerCreation, payerBuy]
  have hsound := clusterSound_applyEvents (clusterSound_new sampleTtl) [sharedPayerCreation]
  refine (clustered_applyEvent_iff hsound hcreated payerBuy).mp hbought ⟨by decide, "payer", ?_⟩
  refine ⟨by decide, ?_, ⟨"creator", ?_, by decide⟩, by decide⟩
  · decide +kernel
  · decide +kernel

end StateEngine

end PumpLaunchTrader
