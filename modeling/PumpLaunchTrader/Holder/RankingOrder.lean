import PumpLaunchTrader.Holder.Distribution
import PumpLaunchTrader.Lib.Ranks
import PumpLaunchTrader.Model.State.Token

/-! # The ranking and the order of the owner map

The owner balances are ranked in the order in which the map is iterated and sorted by balance
alone. What the ranking decides is the same for every order exactly when no tie competes for
one of the twenty places. A balance update is then the same in every order, and with a tie two
orders rank different owners. -/

namespace PumpLaunchTrader

/-! ## What the ranking decides -/

structure RankingView where
  topHolders : List HolderDistributionSnapshot
  creatorRank : Option ℕ
  classifications : List DangerousSellerClassification
  exitThreatIndex : ExitThreatIndex

namespace TokenState

variable (token : TokenState) (index : ClusterIndex) (observedAt : OffsetDateTime)
  (previous : ℕ)

/-- The token after its distribution was computed from an owner map. -/
def rankedFrom (m : KeyedMap String HolderBalance) : TokenState :=
  { token with
    holderState := { token.holderState with ownerBalances := m }
      |>.recomputeDistributionWithPrevious observedAt previous }
  |>.recalcDeveloperRank

def rankingView (m : KeyedMap String HolderBalance) : RankingView :=
  let ranked := token.rankedFrom observedAt previous m
  { topHolders := ranked.holderState.topHolders
    creatorRank := ranked.developerState.creatorCurrentRank
    classifications := ranked.holderState.topHolders.zipIdx.map fun (holder, place) =>
      classifyWallet ranked index holder.owner.text place holder.pctSupplyProxy
        ranked.developerState.relatedClusterId
    exitThreatIndex :=
      (refreshExitThreatIndex ranked index observedAt).shredDefense.exitThreatIndex }

end TokenState

/-! ## Ties -/

/-- The owners with a positive balance, in the order of the map. -/
def positiveBalances (m : KeyedMap String HolderBalance) : List (PubkeyValue × Decimal) :=
  (m.entries.filter fun e => 0 < e.2.balance).map fun e =>
    ((⟨e.1⟩ : PubkeyValue), e.2.balance)

/-- No two owners of one positive balance compete for the first `n` places. -/
def NoTieWithin (n : ℕ) (m : KeyedMap String HolderBalance) : Prop :=
  ∀ e ∈ m.entries, ∀ other ∈ m.entries, 0 < e.2.balance → e.2.balance = other.2.balance →
    e = other ∨ n ≤ m.entries.countP (e.2.balance < ·.2.balance)

instance (n : ℕ) (m : KeyedMap String HolderBalance) : Decidable (NoTieWithin n m) :=
  inferInstanceAs (Decidable (∀ e ∈ m.entries, ∀ other ∈ m.entries, _ → _ → _))

/-- A balance above a positive one is positive. -/
theorem countP_positiveBalances {m : KeyedMap String HolderBalance} {balance : Decimal}
    (h : 0 < balance) :
    (positiveBalances m).countP (balance < ·.2) =
      m.entries.countP (balance < ·.2.balance) := by
  rw [positiveBalances, List.countP_map, List.countP_filter]
  refine List.countP_congr fun e _ => ?_
  simp only [Function.comp_apply, Bool.and_eq_true, decide_eq_true_eq]
  exact ⟨fun hlt => hlt.1, fun hlt => ⟨hlt, h.trans hlt⟩⟩

theorem take_ranked_eq {n : ℕ} {m other : KeyedMap String HolderBalance}
    (hperm : m.entries.Perm other.entries) (hties : NoTieWithin n m) :
    (Ranks.ranked (positiveBalances m)).take n =
      (Ranks.ranked (positiveBalances other)).take n := by
  refine Ranks.take_ranked_eq_of_perm ((hperm.filter _).map _) ?_
  intro x hx y hy hscore
  obtain ⟨e, he, rfl⟩ := List.mem_map.mp hx
  obtain ⟨e', he', rfl⟩ := List.mem_map.mp hy
  have hpos : 0 < e.2.balance := by simpa using (List.mem_filter.mp he).2
  rw [countP_positiveBalances hpos]
  rcases hties e (List.mem_filter.mp he).1 e' (List.mem_filter.mp he').1 hpos hscore with heq | hle
  · exact Or.inl (by rw [heq])
  · exact Or.inr hle

/-- The map iterated from one of its entries on. -/
def startingFrom (m : KeyedMap String HolderBalance) (e : Sigma fun _ : String => HolderBalance)
    (he : e ∈ m.entries) : KeyedMap String HolderBalance where
  entries := e :: m.entries.erase e
  nodupKeys := (List.perm_nodupKeys (List.perm_cons_erase he)).mp m.nodupKeys

theorem startingFrom_perm {m : KeyedMap String HolderBalance}
    {e : Sigma fun _ : String => HolderBalance} (he : e ∈ m.entries) :
    (startingFrom m e he).entries.Perm m.entries :=
  (List.perm_cons_erase he).symm

/-- Iterated from an owner on, the map ranks this owner before all others of its balance. -/
theorem getElem?_ranked_startingFrom {m : KeyedMap String HolderBalance}
    {e : Sigma fun _ : String => HolderBalance} (he : e ∈ m.entries) (hpos : 0 < e.2.balance) :
    (Ranks.ranked (positiveBalances (startingFrom m e he)))[
      m.entries.countP (e.2.balance < ·.2.balance)]? = some (⟨e.1⟩, e.2.balance) := by
  have hcons : positiveBalances (startingFrom m e he) = (⟨e.1⟩, e.2.balance) ::
      ((m.entries.erase e).filter fun e => 0 < e.2.balance).map fun e =>
        ((⟨e.1⟩ : PubkeyValue), e.2.balance) := by
    simp [positiveBalances, startingFrom, hpos]
  have hcount := countP_positiveBalances (m := startingFrom m e he) hpos
  rw [(startingFrom_perm he).countP_eq, hcons,
    List.countP_cons_of_neg (by simp)] at hcount
  rw [hcons, ← hcount]
  exact Ranks.getElem?_ranked_cons _ _

/-- Where the first `n` places are the same for every order, no tie competes for them. -/
theorem noTieWithin_of_orderFree {n : ℕ} {m : KeyedMap String HolderBalance}
    (h : ∀ first second : KeyedMap String HolderBalance, first.entries.Perm m.entries →
      second.entries.Perm m.entries → (Ranks.ranked (positiveBalances first)).take n =
        (Ranks.ranked (positiveBalances second)).take n) : NoTieWithin n m := by
  intro e he other hother hpos hscore
  by_contra hcompete
  rw [not_or, not_le] at hcompete
  obtain ⟨hne, hlt⟩ := hcompete
  have hfirst := getElem?_ranked_startingFrom he hpos
  have hsecond := getElem?_ranked_startingFrom hother (hscore ▸ hpos)
  rw [← hscore] at hsecond
  have hsame := congrArg (·[m.entries.countP (e.2.balance < ·.2.balance)]?)
    (h _ _ (startingFrom_perm he) (startingFrom_perm hother))
  simp only [List.getElem?_take, hlt, if_true, hfirst, hsecond] at hsame
  have hname : e.1 = other.1 := by simpa using hsame
  exact hne (m.nodupKeys.eq_of_fst_eq he hother hname)

/-! ## The view -/

theorem values_perm {m other : KeyedMap String HolderBalance}
    (h : m.entries.Perm other.entries) : m.values.Perm other.values := by
  simpa [KeyedMap.values] using h.map fun e => e.2

theorem sum_values_perm {m other : KeyedMap String HolderBalance}
    (h : m.entries.Perm other.entries) (f : HolderBalance → Decimal) :
    (m.values.map f).sum = (other.values.map f).sum :=
  ((values_perm h).map f).sum_eq

namespace TokenState

variable (token : TokenState) (index : ClusterIndex) (observedAt : OffsetDateTime)
  (previous : ℕ) {m other : KeyedMap String HolderBalance}

theorem topHolders_rankedFrom (m : KeyedMap String HolderBalance) :
    (token.rankedFrom observedAt previous m).holderState.topHolders =
      ((Ranks.ranked (positiveBalances m)).take 20).map fun (owner, balance) =>
        { owner := owner
          balance := balance
          pctSupplyProxy :=
            if 0 < (m.values.map HolderBalance.balance).sum then
              balance / (m.values.map HolderBalance.balance).sum
            else 0 } := rfl

theorem topHolders_rankedFrom_of_perm (hperm : m.entries.Perm other.entries)
    (hties : NoTieWithin 20 m) :
    (token.rankedFrom observedAt previous m).holderState.topHolders =
      (token.rankedFrom observedAt previous other).holderState.topHolders := by
  rw [topHolders_rankedFrom, topHolders_rankedFrom, take_ranked_eq hperm hties,
    sum_values_perm hperm]

/-- The entry of one holder looks its balance up. -/
theorem threatWalletEntry_rankedFrom_of_perm (hperm : m.entries.Perm other.entries) :
    threatWalletEntry (token.rankedFrom observedAt previous m) index =
      threatWalletEntry (token.rankedFrom observedAt previous other) index := by
  funext place holder price supply depth
  have hlookup :
      (token.rankedFrom observedAt previous m).holderState.ownerBalances.lookup
          holder.owner.text =
        (token.rankedFrom observedAt previous other).holderState.ownerBalances.lookup
          holder.owner.text := AList.perm_lookup hperm
  simp only [threatWalletEntry, hlookup]
  rfl

theorem exitThreatIndex_rankedFrom_of_perm (hperm : m.entries.Perm other.entries)
    (hties : NoTieWithin 20 m) :
    (refreshExitThreatIndex (token.rankedFrom observedAt previous m) index
        observedAt).shredDefense.exitThreatIndex =
      (refreshExitThreatIndex (token.rankedFrom observedAt previous other) index
        observedAt).shredDefense.exitThreatIndex := by
  have hsupply : (token.rankedFrom observedAt previous m).holderState.observedHolderSupply =
      (token.rankedFrom observedAt previous other).holderState.observedHolderSupply :=
    sum_values_perm hperm _
  have hvalues : (token.rankedFrom observedAt previous m).holderState.ownerBalances.values.Perm
      (token.rankedFrom observedAt previous other).holderState.ownerBalances.values :=
    values_perm hperm
  have hsupport := fun p : HolderBalance → Bool => fun f : HolderBalance → Decimal =>
    ((hvalues.filter p).map f).sum_eq
  simp only [refreshExitThreatIndex, hsupply, hsupport, hvalues.isEmpty_eq, hvalues.length_eq,
    threatWalletEntry_rankedFrom_of_perm token index observedAt previous hperm,
    topHolders_rankedFrom_of_perm token observedAt previous hperm hties]
  rfl

theorem rankingView_of_perm (hperm : m.entries.Perm other.entries) (hties : NoTieWithin 20 m) :
    token.rankingView index observedAt previous m =
      token.rankingView index observedAt previous other := by
  have htop := topHolders_rankedFrom_of_perm token observedAt previous hperm hties
  have hrank : (token.rankedFrom observedAt previous m).developerState.creatorCurrentRank =
      (token.rankedFrom observedAt previous other).developerState.creatorCurrentRank := by
    change creatorRank _ = creatorRank _
    unfold creatorRank
    exact congrArg (fun holders : List HolderDistributionSnapshot => token.creator.bind
      fun creator => (holders.findIdx? fun holder => holder.owner.text = creator.text).map (· + 1))
      htop
  simp only [rankingView, htop, hrank,
    exitThreatIndex_rankedFrom_of_perm token index observedAt previous hperm hties]
  rfl

/-- What the ranking decides is the same for every order of the owner map exactly when no tie
competes for one of the twenty places. -/
theorem rankingView_orderFree_iff :
    (∀ first second : KeyedMap String HolderBalance,
      first.entries.Perm token.holderState.ownerBalances.entries →
      second.entries.Perm token.holderState.ownerBalances.entries →
      token.rankingView index observedAt previous first =
        token.rankingView index observedAt previous second) ↔
      NoTieWithin 20 token.holderState.ownerBalances := by
  constructor
  · intro horder
    refine noTieWithin_of_orderFree fun first second hfirst hsecond => ?_
    have hview := congrArg (fun view : RankingView => view.topHolders.map fun holder =>
      (holder.owner, holder.balance)) (horder first second hfirst hsecond)
    simpa [rankingView, topHolders_rankedFrom, Function.comp_def] using hview
  · intro hties first second hfirst hsecond
    exact (rankingView_of_perm token index observedAt previous hfirst.symm hties).symm.trans
      (rankingView_of_perm token index observedAt previous hsecond.symm hties)

end TokenState

/-! ## Updates in an order of iteration -/

theorem computeGini_of_perm {balances other : List Decimal} (h : balances.Perm other) :
    computeGini balances = computeGini other := by
  have hsorted : balances.insertionSort (· ≤ ·) = other.insertionSort (· ≤ ·) :=
    List.Perm.eq_of_pairwise (fun _ _ _ _ => le_antisymm) (List.pairwise_insertionSort _ _)
      (List.pairwise_insertionSort _ _) ((List.perm_insertionSort _ _).trans
        (h.trans (List.perm_insertionSort _ _).symm))
  unfold computeGini
  rw [hsorted]

theorem computeHhi_of_perm {balances other : List Decimal} (h : balances.Perm other) :
    computeHhi balances = computeHhi other := by
  unfold computeHhi
  rw [h.sum_eq]
  simp only [(h.map _).sum_eq]

namespace HolderState

/-- The owner map with its entries in the order of iteration. -/
def arranged [IterationOrder] (s : HolderState) : KeyedMap String HolderBalance where
  entries := IterationOrder.arrange s
  nodupKeys := (List.perm_nodupKeys (IterationOrder.perm s)).mpr s.ownerBalances.nodupKeys

theorem rankedBalances_eq [IterationOrder] (s : HolderState) :
    s.rankedBalances = Ranks.ranked (positiveBalances s.arranged) := rfl

/-- Without a competing tie the distribution is the same in every order. -/
theorem recomputeDistribution_of_noTie (order : IterationOrder) {s : HolderState}
    (hties : NoTieWithin 20 s.ownerBalances) (observedAt : OffsetDateTime) (previous : ℕ) :
    @recomputeDistributionWithPrevious order s observedAt previous =
      @recomputeDistributionWithPrevious insertionOrder s observedAt previous := by
  have hperm : s.ownerBalances.entries.Perm (@arranged order s).entries :=
    (@IterationOrder.perm order s).symm
  have htake : (@rankedBalances order s).take 20 = (@rankedBalances insertionOrder s).take 20 :=
    (take_ranked_eq hperm hties).symm
  have hbalances : ((@rankedBalances order s).map Prod.snd).Perm
      ((@rankedBalances insertionOrder s).map Prod.snd) :=
    ((@rankedBalances_perm order s).trans (@rankedBalances_perm insertionOrder s).symm).map _
  unfold recomputeDistributionWithPrevious
  simp only [htake, computeGini_of_perm hbalances, computeHhi_of_perm hbalances]

/-- The state from which an update that is no duplicate ranks the owners. -/
def rebuiltBy (s : HolderState) (update : HolderBalanceUpdateEvent) (event : NormalizedEvent)
    (tokenDecimals : UInt8) : HolderState :=
  let recorded := s.countSeen.recordUpdate update event tokenDecimals
  { recorded with
    ownerBalances :=
      recorded.rebuiltOwnerBalances event.info.receivedAtWallTime tokenDecimals }

/-- An update that is no duplicate leaves no tie that competes for one of the twenty places. -/
def RanksWithoutTie (s : HolderState) (update : HolderBalanceUpdateEvent)
    (event : NormalizedEvent) (tokenDecimals : UInt8) : Prop :=
  holderUpdateDedupeKey update event ∉ s.appliedHolderUpdateKeys →
    NoTieWithin 20 (s.rebuiltBy update event tokenDecimals).ownerBalances

instance (s : HolderState) (update : HolderBalanceUpdateEvent) (event : NormalizedEvent)
    (tokenDecimals : UInt8) : Decidable (s.RanksWithoutTie update event tokenDecimals) :=
  inferInstanceAs (Decidable (_ → NoTieWithin 20 _))

theorem applyBalanceUpdate_of_noTie (order : IterationOrder) {s : HolderState}
    {update : HolderBalanceUpdateEvent} {event : NormalizedEvent} {tokenDecimals : UInt8}
    (h : s.RanksWithoutTie update event tokenDecimals) :
    @applyBalanceUpdate order s update event tokenDecimals =
      @applyBalanceUpdate insertionOrder s update event tokenDecimals := by
  unfold applyBalanceUpdate
  simp only
  split
  · rfl
  · next hnew => exact recomputeDistribution_of_noTie order (h hnew) _ _

end HolderState

/-! ## A tie for the first place -/

/-- Two owners of equal balance, the creator among them. -/
def tiedBalances (first second : String) (h : first ≠ second) : KeyedMap String HolderBalance where
  entries := [⟨first, { balance := 5 }⟩, ⟨second, { balance := 5 }⟩]
  nodupKeys := by simp [List.nodupKeys_cons, h]

/-- The creator of a token is first or second by the order of the map alone. -/
theorem creatorRank_of_tie :
    ∃ (token : TokenState) (first second : KeyedMap String HolderBalance),
      first.entries.Perm second.entries ∧
      (token.rankingView {} unixEpoch 0 first).topHolders ≠
        (token.rankingView {} unixEpoch 0 second).topHolders ∧
      (token.rankingView {} unixEpoch 0 first).creatorRank = some 1 ∧
      (token.rankingView {} unixEpoch 0 second).creatorRank = some 2 := by
  refine ⟨{ TokenState.new ⟨"mint"⟩ .geyserProcessed with creator := some ⟨"dev"⟩ },
    tiedBalances "dev" "buyer" (by decide), tiedBalances "buyer" "dev" (by decide),
    List.Perm.swap _ _ _, ?_, ?_, ?_⟩
  · decide +kernel
  · decide +kernel
  · decide +kernel

end PumpLaunchTrader
