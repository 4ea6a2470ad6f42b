import PumpLaunchTrader.Model.RouterStats
import PumpLaunchTrader.Router.AccountOrder
import PumpLaunchTrader.Router.Prefilter

/-! # The accounts of the router

Every message that gets a route is routed, coalesced or degraded. Every message is classified
once, except that one which the Pump prefilter skips is classified twice. -/

namespace PumpLaunchTrader

/-! ## Counts by class -/

/-- The keys of the map are names of classes. -/
def ByClass (map : KeyedMap String ℕ) : Prop :=
  ∀ key ∈ map, ∃ updateClass : MaterialUpdateClass, key = updateClass.asStr

namespace ByClass

/-- There are fewer classes than a map of counters holds. -/
theorem length_le {map : KeyedMap String ℕ} (h : ByClass map) : map.entries.length ≤ 18 := by
  have hsubset : map.keys ⊆ MaterialUpdateClass.all.map MaterialUpdateClass.asStr := by
    intro key hkey
    obtain ⟨updateClass, rfl⟩ := h key hkey
    exact List.mem_map_of_mem updateClass.mem_all
  have hle := (List.subperm_of_subset map.keys_nodup hsubset).length_le
  rwa [AList.keys, List.keys, List.length_map, List.length_map] at hle

theorem trimText_asStr (updateClass : MaterialUpdateClass) :
    trimText updateClass.asStr ≠ "" := by
  cases updateClass <;> decide +kernel

theorem insert {map : KeyedMap String ℕ} (h : ByClass map) (updateClass : MaterialUpdateClass)
    (count : ℕ) : ByClass (map.insert updateClass.asStr count) := by
  intro key hkey
  rcases (AList.mem_insert map).mp hkey with rfl | hold
  · exact ⟨updateClass, rfl⟩
  · exact h key hold

/-- No class is removed to make room for another. -/
theorem incrementTopCount_eq {map : KeyedMap String ℕ} (h : ByClass map)
    (updateClass : MaterialUpdateClass) :
    incrementTopCount map updateClass.asStr =
      map.insert updateClass.asStr (saturatingAdd ((map.lookup updateClass.asStr).getD 0) 1) := by
  have hroom := (h.insert updateClass
    (saturatingAdd ((map.lookup updateClass.asStr).getD 0) 1)).length_le
  rw [incrementTopCount, if_neg (trimText_asStr updateClass)]
  exact if_neg (by omega)

theorem incrementTopCount {map : KeyedMap String ℕ} (h : ByClass map)
    (updateClass : MaterialUpdateClass) :
    ByClass (PumpLaunchTrader.incrementTopCount map updateClass.asStr) := by
  rw [h.incrementTopCount_eq]
  exact h.insert updateClass _

end ByClass

/-- No count of a map of counters has reached the largest number. -/
def BelowTop (map : KeyedMap String ℕ) : Prop := ∀ count ∈ map.values, count < 2 ^ 64 - 1

instance (map : KeyedMap String ℕ) : Decidable (BelowTop map) :=
  inferInstanceAs (Decidable (∀ count ∈ map.values, count < 2 ^ 64 - 1))

theorem lookup_lt_of_belowTop {map : KeyedMap String ℕ} {key : String} {count : ℕ}
    (h : BelowTop (map.insert key count)) : count < 2 ^ 64 - 1 :=
  h count (by rw [KeyedMap.values_insert]; exact List.mem_cons_self)

theorem sum_incrementTopCount {map : KeyedMap String ℕ} (h : ByClass map)
    {updateClass : MaterialUpdateClass}
    (htop : BelowTop (incrementTopCount map updateClass.asStr)) :
    (incrementTopCount map updateClass.asStr).values.sum = map.values.sum + 1 ∧
      (map.lookup updateClass.asStr).getD 0 + 1 < 2 ^ 64 - 1 := by
  rw [h.incrementTopCount_eq] at htop ⊢
  have hcount := lookup_lt_of_belowTop htop
  rw [KeyedMap.sum_values_insert, KeyedMap.sum_values_eq_lookup_add map updateClass.asStr]
  rw [saturatingAdd] at hcount ⊢
  omega

/-- Counted twice, a class counts two. -/
theorem sum_incrementTopCount_twice {map : KeyedMap String ℕ} (h : ByClass map)
    {updateClass : MaterialUpdateClass}
    (htop : BelowTop
      (incrementTopCount (incrementTopCount map updateClass.asStr) updateClass.asStr)) :
    (incrementTopCount (incrementTopCount map updateClass.asStr) updateClass.asStr).values.sum =
      map.values.sum + 2 := by
  obtain ⟨hsecond, hcount⟩ := sum_incrementTopCount (h.incrementTopCount updateClass) htop
  rw [hsecond, h.incrementTopCount_eq]
  rw [h.incrementTopCount_eq, AList.lookup_insert, Option.getD_some] at hcount
  rw [KeyedMap.sum_values_insert, KeyedMap.sum_values_eq_lookup_add map updateClass.asStr]
  rw [saturatingAdd] at hcount ⊢
  omega

namespace RouterStats

/-! ## What the records leave alone -/

/-- The counters of the messages that got a route: received, routed, coalesced, degraded. -/
def routing (self : RouterStats) : ℕ × ℕ × ℕ × ℕ :=
  (self.routerUpdatesReceived, self.routerUpdatesRouted,
    self.activeMintTransactionCoalescedCount, self.activeMintTransactionDegradedCount)

@[simp] theorem classified_recordClassification (self : RouterStats)
    (classification : FastClassifiedUpdate) :
    (self.recordClassification classification).classifiedUpdateCountByClass =
      incrementTopCount self.classifiedUpdateCountByClass classification.updateClass.asStr := by
  simp only [recordClassification]

@[simp] theorem routing_recordClassification (self : RouterStats)
    (classification : FastClassifiedUpdate) :
    (self.recordClassification classification).routing = self.routing := by
  simp only [recordClassification, routing]

theorem countLane_kept (self : RouterStats) (lane : ProcessingLane) :
    (self.countLane lane).classifiedUpdateCountByClass = self.classifiedUpdateCountByClass ∧
      (self.countLane lane).routing = self.routing := by
  cases lane <;> exact ⟨rfl, rfl⟩

theorem countDirty_kept (self : RouterStats) (classification : FastClassifiedUpdate) :
    (self.countDirty classification).classifiedUpdateCountByClass =
        self.classifiedUpdateCountByClass ∧
      (self.countDirty classification).routing = self.routing := by
  unfold countDirty
  split <;> exact ⟨rfl, rfl⟩

theorem recordModuleDispatch_kept (self : RouterStats) (classification : FastClassifiedUpdate) :
    (self.recordModuleDispatch classification).classifiedUpdateCountByClass =
        self.classifiedUpdateCountByClass ∧
      (self.recordModuleDispatch classification).routing = self.routing := by
  unfold recordModuleDispatch
  dsimp only [routing]
  have hdirty := fun stats : RouterStats => stats.countDirty_kept classification
  have hlane := fun stats : RouterStats => stats.countLane_kept classification.processingLane
  simp only [routing, Prod.mk.injEq] at hdirty hlane
  simp only [hdirty, hlane]
  split <;> exact ⟨rfl, rfl⟩

@[simp] theorem classified_recordModuleDispatch (self : RouterStats)
    (classification : FastClassifiedUpdate) :
    (self.recordModuleDispatch classification).classifiedUpdateCountByClass =
      self.classifiedUpdateCountByClass :=
  (self.recordModuleDispatch_kept classification).1

@[simp] theorem routing_recordModuleDispatch (self : RouterStats)
    (classification : FastClassifiedUpdate) :
    (self.recordModuleDispatch classification).routing = self.routing :=
  (self.recordModuleDispatch_kept classification).2

/-! ## The prefilters -/

/-- How often the prefilters record a message, by what they make of it. -/
inductive RecordedAs (before : RouterStats) (update : SubscribeUpdate) (skips : Prop) :
    CascadeOutcome → PrefilterCounts → Prop
  | twice {counts : PrefilterCounts} {skipped : MaterialUpdateClass}
      (updateClass : MaterialUpdateClass) (hskips : skips)
      (hclassified : counts.stats.classifiedUpdateCountByClass =
        incrementTopCount
          (incrementTopCount before.classifiedUpdateCountByClass updateClass.asStr)
          updateClass.asStr) : RecordedAs before update skips (.skipped skipped) counts
  | skipped {counts : PrefilterCounts} {skipped : MaterialUpdateClass}
      (updateClass : MaterialUpdateClass) (hpasses : ¬ skips)
      (hclassified : counts.stats.classifiedUpdateCountByClass =
        incrementTopCount before.classifiedUpdateCountByClass updateClass.asStr) :
      RecordedAs before update skips (.skipped skipped) counts
  | recorded {counts : PrefilterCounts} {passed : MaterialUpdateClass} {mint : Option String}
      (updateClass : MaterialUpdateClass) (hpasses : ¬ skips)
      (hrecorded : counts.classificationRecorded = true)
      (hclassified : counts.stats.classifiedUpdateCountByClass =
        incrementTopCount before.classifiedUpdateCountByClass updateClass.asStr) :
      RecordedAs before update skips (.passed passed mint) counts
  | unrecorded {counts : PrefilterCounts} {mint : Option String} (hpasses : ¬ skips)
      (hunrecorded : counts.classificationRecorded = false)
      (hclassified : counts.stats.classifiedUpdateCountByClass =
        before.classifiedUpdateCountByClass) :
      RecordedAs before update skips (.passed (updateClassOf update) mint) counts

section Cascade

variable (self : RouterStats) (state : RouterState) (update : SubscribeUpdate)
  (activeMints tombstonedMints : Finset String) (duplicate : Bool)

/-- The Pump prefilter decides on the update and skips it. -/
def PumpSkipped : Prop :=
  duplicate = false ∧ ∃ filtered,
    prefilterPumpInstruction update activeMints tombstonedMints = some filtered ∧
      filtered.decision ≠ .deepProcess

theorem routing_countCascade :
    (self.countCascade state update activeMints tombstonedMints duplicate).stats.routing =
      self.routing := by
  unfold countCascade
  dsimp only
  split
  · rw [routing_recordModuleDispatch, routing_recordClassification]
    rfl
  · split
    · rw [routing_recordClassification]
      rfl
    · rw [routing_recordModuleDispatch, routing_recordClassification,
        routing_recordClassification]
      rfl
  · rw [routing_recordModuleDispatch, routing_recordClassification]
    rfl
  · rfl

theorem countCascade_recordedAs
    (hduplicate : duplicate = true → (prefilterTransactionUpdate update activeMints
      tombstonedMints state.tokenAccountToMint state.accountPartitionPins true).isSome) :
    RecordedAs self update (PumpSkipped update activeMints tombstonedMints duplicate)
      (state.cascade update activeMints tombstonedMints duplicate).1
      (self.countCascade state update activeMints tombstonedMints duplicate) := by
  unfold countCascade RouterState.cascade PumpSkipped
  cases duplicate with
  | true =>
      obtain ⟨filtered, hfiltered⟩ := Option.isSome_iff_exists.mp (hduplicate rfl)
      simp only [hfiltered]
      exact .skipped filtered.updateClass (by simp) (by simp [fastClassify])
  | false =>
      cases hpump : prefilterPumpInstruction update activeMints tombstonedMints with
      | some filtered =>
          by_cases hdeep : filtered.decision = .deepProcess
          · simp only [hdeep, if_true]
            exact .recorded filtered.updateClass (by simp [hdeep]) rfl (by simp [fastClassify])
          · simp only [hdeep, if_false]
            exact .twice filtered.updateClass (by simp [hdeep]) (by simp [fastClassify])
      | none =>
          cases htransaction : prefilterTransactionUpdate update activeMints tombstonedMints
            state.tokenAccountToMint state.accountPartitionPins false with
          | some filtered =>
              by_cases hdeep : filtered.decision = .deepProcess
              · simp only [hdeep, if_true]
                exact .recorded filtered.updateClass (by simp) rfl (by simp [fastClassify])
              · simp only [hdeep, if_false]
                exact .skipped filtered.updateClass (by simp) (by simp [fastClassify])
          | none => exact .unrecorded (by simp) rfl rfl

end Cascade

/-! ## The dispatch -/

/-- A message that got a route is routed, coalesced or degraded. -/
inductive RoutedAs (before after : RouterStats) : Prop
  | skipped (h : after.routing = before.routing)
  | routed (h : after.routing = (saturatingAdd before.routerUpdatesReceived 1,
      saturatingAdd before.routerUpdatesRouted 1, before.activeMintTransactionCoalescedCount,
      before.activeMintTransactionDegradedCount))
  | coalesced (h : after.routing = (saturatingAdd before.routerUpdatesReceived 1,
      before.routerUpdatesRouted, saturatingAdd before.activeMintTransactionCoalescedCount 1,
      before.activeMintTransactionDegradedCount))
  | degraded (h : after.routing = (saturatingAdd before.routerUpdatesReceived 1,
      before.routerUpdatesRouted, before.activeMintTransactionCoalescedCount,
      saturatingAdd before.activeMintTransactionDegradedCount 1))

theorem RoutedAs.of_routing_eq {before before' after : RouterStats}
    (h : RoutedAs before after) (hsame : before.routing = before'.routing) :
    RoutedAs before' after := by
  simp only [routing, Prod.mk.injEq] at hsame
  obtain ⟨hreceived, hrouted, hcoalesced, hdegraded⟩ := hsame
  cases h with
  | skipped h =>
      refine .skipped (h.trans ?_)
      rw [routing, hreceived, hrouted, hcoalesced, hdegraded, routing]
  | routed h => exact .routed (by rw [h, hreceived, hrouted, hcoalesced, hdegraded])
  | coalesced h => exact .coalesced (by rw [h, hreceived, hrouted, hcoalesced, hdegraded])
  | degraded h => exact .degraded (by rw [h, hreceived, hrouted, hcoalesced, hdegraded])

section Dispatch

variable (counts : PrefilterCounts) (route : Route) (updateClass : MaterialUpdateClass)

/-- The counters of a message that no pressure decision holds back. -/
def passOn : RouterStats :=
  let received := counts.stats.countRoute route
  let classification := fastClassify updateClass (classifiedMint counts.mint route)
  let recorded :=
    if counts.classificationRecorded then received
    else received.recordClassification classification
  if counts.moduleDispatched then recorded else recorded.recordModuleDispatch classification

theorem passOn_routing :
    (passOn counts route updateClass).routing = (counts.stats.countRoute route).routing := by
  unfold passOn
  dsimp only
  split <;> split
  · rfl
  · rw [routing_recordClassification]
  · rw [routing_recordModuleDispatch]
  · rw [routing_recordModuleDispatch, routing_recordClassification]

theorem passOn_classified :
    (passOn counts route updateClass).classifiedUpdateCountByClass =
      if counts.classificationRecorded then counts.stats.classifiedUpdateCountByClass
      else incrementTopCount counts.stats.classifiedUpdateCountByClass updateClass.asStr := by
  have hroute : (counts.stats.countRoute route).classifiedUpdateCountByClass =
      counts.stats.classifiedUpdateCountByClass := by
    simp only [countRoute]
  unfold passOn
  dsimp only
  split <;> split
  · exact hroute
  · rw [classified_recordClassification, hroute, fastClassify]
  · rw [classified_recordModuleDispatch, hroute]
  · rw [classified_recordModuleDispatch, classified_recordClassification, hroute, fastClassify]

theorem countDispatch_sent {pressed : Option PressureDecision} (partition : ℕ)
    (item : PartitionUpdate) (h : pressed = none ∨ pressed = some .deepProcess) :
    counts.countDispatch route updateClass pressed (.sent partition item) =
      { passOn counts route updateClass with
        routerUpdatesRouted :=
          saturatingAdd (passOn counts route updateClass).routerUpdatesRouted 1 } := by
  rcases h with rfl | rfl <;> rfl

theorem routedAs_sent (pressed : Option PressureDecision) (partition : ℕ)
    (item : PartitionUpdate) (h : pressed = none ∨ pressed = some .deepProcess) :
    RoutedAs counts.stats
      (counts.countDispatch route updateClass pressed (.sent partition item)) := by
  have hpassed := passOn_routing counts route updateClass
  simp only [routing, Prod.mk.injEq] at hpassed
  obtain ⟨hreceived, hrouted, hcoalesced, hdegraded⟩ := hpassed
  rw [countDispatch_sent counts route updateClass partition item h]
  refine .routed ?_
  simp only [routing, hreceived, hrouted, hcoalesced, hdegraded]
  rfl

/-- A message that got a route is counted as routed, coalesced or degraded, and recorded unless
it is already. -/
theorem countDispatch_spec {pressed : Option PressureDecision} {outcome : RouterOutcome}
    (hsent : pressed = none ∨ pressed = some .deepProcess →
      ∃ partition item, outcome = .sent partition item) :
    RoutedAs counts.stats (counts.countDispatch route updateClass pressed outcome) ∧
      (counts.classificationRecorded = true →
        (counts.countDispatch route updateClass pressed outcome).classifiedUpdateCountByClass =
          counts.stats.classifiedUpdateCountByClass) ∧
      (counts.classificationRecorded = false → pressed = none →
        (counts.countDispatch route updateClass pressed outcome).classifiedUpdateCountByClass =
          incrementTopCount counts.stats.classifiedUpdateCountByClass updateClass.asStr) := by
  have hclassified := passOn_classified counts route updateClass
  have hpassed (h : pressed = none ∨ pressed = some .deepProcess) :
      RoutedAs counts.stats (counts.countDispatch route updateClass pressed outcome) ∧
        (counts.countDispatch route updateClass pressed outcome).classifiedUpdateCountByClass =
          (passOn counts route updateClass).classifiedUpdateCountByClass := by
    obtain ⟨partition, item, rfl⟩ := hsent h
    refine ⟨routedAs_sent counts route updateClass pressed partition item h, ?_⟩
    rw [countDispatch_sent counts route updateClass partition item h]
  cases hpressed : pressed with
  | none =>
      obtain ⟨hrouted, hsame⟩ := hpassed (.inl hpressed)
      rw [← hpressed]
      exact ⟨hrouted, fun h => by rw [hsame, hclassified, if_pos h],
        fun h _ => by rw [hsame, hclassified, h]; rfl⟩
  | some decision =>
      cases decision with
      | deepProcess =>
          obtain ⟨hrouted, hsame⟩ := hpassed (.inr hpressed)
          rw [← hpressed]
          exact ⟨hrouted, fun h => by rw [hsame, hclassified, if_pos h],
            fun _ hnone => absurd (hpressed.symm.trans hnone) (Option.some_ne_none _)⟩
      | coalesce => exact ⟨.coalesced rfl, fun _ => rfl, fun _ h => by cases h⟩
      | degrade reason queuePressure =>
          exact ⟨.degraded rfl, fun _ => rfl, fun _ h => by cases h⟩

end Dispatch

section Update

theorem updateClassOf_hasPressure (update : SubscribeUpdate) :
    RouterState.hasPressure (updateClassOf update) = false := by
  unfold updateClassOf
  split
  · rfl
  · rfl
  · rfl
  · split
    · rfl
    · split <;> rfl
  · rfl
  · split
    · rfl
    · dsimp only
      split
      · rfl
      · split <;> rfl
  · rfl

/-- A signature seen before is that of a transaction, which is then skipped as a duplicate. -/
theorem prefilterTransaction_of_duplicate (state : RouterState) (update : SubscribeUpdate)
    (activeMints tombstonedMints : Finset String) (h : (state.observe update).1 = true) :
    (prefilterTransactionUpdate update activeMints tombstonedMints
      (state.observe update).2.tokenAccountToMint (state.observe update).2.accountPartitionPins
      true).isSome := by
  cases hsignature : update.signatureHint with
  | none => simp [RouterState.observe, hsignature] at h
  | some signature =>
      cases hinfo : update.transactionInfo with
      | none => simp [SubscribeUpdate.signatureHint, hinfo] at hsignature
      | some info =>
          unfold SubscribeUpdate.transactionInfo at hinfo
          unfold prefilterTransactionUpdate
          split at hinfo
          · simp
          · cases hinfo

variable (state : RouterState) (config : RouterConfig) {env : RouterEnv}

/-- The state in which the pressure on an update is decided, once it got a route. -/
def noted (update : SubscribeUpdate) : RouterState :=
  { state with
    accountPartitionPins := (partitionForUpdateWithAccountMap update config.workerPartitions
      state.tokenAccountToMint state.accountPartitionPins).2
    received := state.received + 1 }

theorem dispatch_sent (hroom : env.room = true) (update : SubscribeUpdate)
    (updateClass : MaterialUpdateClass) (mint : Option String)
    (h : ((noted state config update).underPressure config env updateClass mint).1 = none ∨
      ((noted state config update).underPressure config env updateClass mint).1 =
        some .deepProcess) :
    ∃ partition item,
      (state.dispatch config env update updateClass mint).1 = .sent partition item := by
  unfold noted at h
  unfold RouterState.dispatch
  dsimp only at h ⊢
  rcases h with h | h <;> exact ⟨_, _, by simp only [h, hroom, if_true]; rfl⟩

/-- One update: it is recorded once, and twice if the Pump prefilter skips it; and where it got
a route it is counted by what became of it. -/
theorem countUpdate_spec (self : RouterStats) (hroom : env.room = true)
    (update : SubscribeUpdate) :
    RoutedAs self (self.countUpdate state config env update) ∧
      ∃ updateClass : MaterialUpdateClass,
        (PumpSkipped update state.relevance.activeMints state.relevance.tombstonedMints
            (state.observe update).1 →
          (self.countUpdate state config env update).classifiedUpdateCountByClass =
            incrementTopCount (incrementTopCount self.classifiedUpdateCountByClass
              updateClass.asStr) updateClass.asStr) ∧
        (¬ PumpSkipped update state.relevance.activeMints state.relevance.tombstonedMints
            (state.observe update).1 →
          (self.countUpdate state config env update).classifiedUpdateCountByClass =
            incrementTopCount self.classifiedUpdateCountByClass updateClass.asStr) := by
  have hduplicate := prefilterTransaction_of_duplicate state update
    state.relevance.activeMints state.relevance.tombstonedMints
  have hrecorded := countCascade_recordedAs
    (self.countSignature update.signatureHint (state.observe update).1) (state.observe update).2
    update state.relevance.activeMints state.relevance.tombstonedMints _ hduplicate
  have hrouting := routing_countCascade
    (self.countSignature update.signatureHint (state.observe update).1) (state.observe update).2
    update state.relevance.activeMints state.relevance.tombstonedMints (state.observe update).1
  change _ = self.routing at hrouting
  unfold countUpdate
  dsimp only
  generalize countCascade _ _ _ _ _ _ = counts at hrecorded hrouting ⊢
  generalize (state.observe update).2.cascade update state.relevance.activeMints
    state.relevance.tombstonedMints (state.observe update).1 = result at hrecorded ⊢
  obtain ⟨outcome, next⟩ := result
  have hspec := fun route updateClass mint => countDispatch_spec counts route updateClass
    (dispatch_sent next config hroom update updateClass mint)
  cases hrecorded with
  | twice updateClass hskips hclassified =>
      exact ⟨.skipped hrouting, updateClass, fun _ => hclassified, fun h => absurd hskips h⟩
  | skipped updateClass hpasses hclassified =>
      exact ⟨.skipped hrouting, updateClass, fun h => absurd h hpasses, fun _ => hclassified⟩
  | recorded updateClass hpasses hflag hclassified =>
      obtain ⟨hrouted, hsame, -⟩ := hspec _ _ _
      exact ⟨hrouted.of_routing_eq hrouting, updateClass, fun h => absurd h hpasses,
        fun _ => (hsame hflag).trans hclassified⟩
  | unrecorded hpasses hflag hclassified =>
      obtain ⟨hrouted, -, hnew⟩ := hspec _ _ _
      have hnone : ∀ mint, ((noted next config update).underPressure config env
          (updateClassOf update) mint).1 = none := by
        intro mint
        simp [RouterState.underPressure, updateClassOf_hasPressure]
      refine ⟨hrouted.of_routing_eq hrouting, updateClassOf update, fun h => absurd h hpasses,
        fun _ => (hnew hflag (hnone _)).trans ?_⟩
      rw [hclassified]
      rfl

end Update

/-! ## Runs -/

/-- No counter of the accounts has reached the largest number. -/
structure Unsaturated (stats : RouterStats) : Prop where
  classified : BelowTop stats.classifiedUpdateCountByClass
  received : stats.routerUpdatesReceived < 2 ^ 64 - 1
  routed : stats.routerUpdatesRouted < 2 ^ 64 - 1
  coalesced : stats.activeMintTransactionCoalescedCount < 2 ^ 64 - 1
  degraded : stats.activeMintTransactionDegradedCount < 2 ^ 64 - 1

instance (stats : RouterStats) : Decidable stats.Unsaturated :=
  decidable_of_iff
    (BelowTop stats.classifiedUpdateCountByClass ∧
      stats.routerUpdatesReceived < 2 ^ 64 - 1 ∧ stats.routerUpdatesRouted < 2 ^ 64 - 1 ∧
      stats.activeMintTransactionCoalescedCount < 2 ^ 64 - 1 ∧
      stats.activeMintTransactionDegradedCount < 2 ^ 64 - 1)
    ⟨fun h => ⟨h.1, h.2.1, h.2.2.1, h.2.2.2.1, h.2.2.2.2⟩,
      fun h => ⟨h.classified, h.received, h.routed, h.coalesced, h.degraded⟩⟩

/-- Every message that got a route is routed, coalesced or degraded. -/
def RoutesAdd (self : RouterStats) : Prop :=
  self.routerUpdatesReceived = self.routerUpdatesRouted +
    self.activeMintTransactionCoalescedCount + self.activeMintTransactionDegradedCount

theorem RoutedAs.routesAdd {before after : RouterStats} (h : RoutedAs before after)
    (hafter : after.Unsaturated) (hbefore : before.RoutesAdd) : after.RoutesAdd := by
  obtain ⟨-, hreceived, hrouted, hcoalesced, hdegraded⟩ := hafter
  unfold RoutesAdd at hbefore ⊢
  cases h with
  | skipped h | routed h | coalesced h | degraded h =>
      simp only [routing, Prod.mk.injEq, saturatingAdd] at h
      omega

end RouterStats

namespace CountedRouter

/-- The Pump prefilter skips the message. -/
def PumpSkips (self : CountedRouter) : RouterInput → Prop
  | .hint _ => False
  | .update update _ =>
    RouterStats.PumpSkipped update self.router.relevance.activeMints
      self.router.relevance.tombstonedMints (self.router.observe update).1

/-- The queue of the partition takes the message, and no counter is saturated afterwards. -/
def Handles (config : RouterConfig) (self : CountedRouter) (input : RouterInput) : Prop :=
  (∀ update env, input = .update update env → env.room = true) ∧
    (self.step config input).stats.Unsaturated

/-- Every message is recorded exactly once. -/
def RecordsOnce (self : CountedRouter) : Prop :=
  self.stats.classifiedUpdateCountByClass.values.sum = self.handled

/-- What every message keeps of the accounts. -/
structure Keeps (router : CountedRouter) : Prop where
  byClass : ByClass router.stats.classifiedUpdateCountByClass
  routes : router.stats.RoutesAdd

variable {config : RouterConfig}

theorem keeps_step (self : CountedRouter) (input : RouterInput) (h : self.Keeps)
    (hinput : self.Handles config input) : (self.step config input).Keeps := by
  cases input with
  | hint hint => exact ⟨h.byClass, h.routes⟩
  | update update env =>
      obtain ⟨hrouted, updateClass, htwice, honce⟩ := RouterStats.countUpdate_spec
        self.router config self.stats (hinput.1 update env rfl) update
      refine ⟨?_, hrouted.routesAdd hinput.2 h.routes⟩
      by_cases hskips : self.PumpSkips (.update update env)
      · exact htwice hskips ▸ (h.byClass.incrementTopCount updateClass).incrementTopCount _
      · exact honce hskips ▸ h.byClass.incrementTopCount updateClass

/-- A message is recorded once unless the Pump prefilter skips it. -/
theorem recordsOnce_step_iff (self : CountedRouter) (input : RouterInput) (h : self.Keeps)
    (hrecords : self.RecordsOnce) (hinput : self.Handles config input) :
    (self.step config input).RecordsOnce ↔ ¬ self.PumpSkips input := by
  unfold RecordsOnce at hrecords ⊢
  cases input with
  | hint hint => exact iff_of_true hrecords not_false
  | update update env =>
      obtain ⟨-, updateClass, htwice, honce⟩ := RouterStats.countUpdate_spec
        self.router config self.stats (hinput.1 update env rfl) update
      have htop : BelowTop (self.stats.countUpdate self.router config env
        update).classifiedUpdateCountByClass := hinput.2.classified
      change (self.stats.countUpdate self.router config env
        update).classifiedUpdateCountByClass.values.sum = self.handled + 1 ↔ _
      by_cases hskips : self.PumpSkips (.update update env)
      · rw [htwice hskips] at htop ⊢
        rw [sum_incrementTopCount_twice h.byClass htop]
        exact iff_of_false (by omega) (not_not_intro hskips)
      · rw [honce hskips] at htop ⊢
        rw [(sum_incrementTopCount h.byClass htop).1]
        exact iff_of_true (by omega) hskips

theorem keeps_init : Keeps {} := by
  refine ⟨fun key hkey => ?_, rfl⟩
  cases hkey

end CountedRouter

open CountedRouter in
/-- In every run every message that got a route is routed, coalesced or degraded. Every message
is recorded exactly once, in all states reached, exactly if the Pump prefilter skips none. -/
theorem router_accounts_iff (config : RouterConfig) (inputs : List RouterInput)
    (h : Runs.Along (step config) (Handles config) {} inputs) :
    (∀ before after, inputs = before ++ after →
      (before.foldl (step config) {}).stats.RoutesAdd) ∧
    ((∀ before after, inputs = before ++ after →
        (before.foldl (step config) {}).RecordsOnce) ↔
      Runs.Along (step config) (fun state input => ¬ state.PumpSkips input) {} inputs) := by
  constructor
  · rintro before after rfl
    exact (h.append.1.invariant keeps_step keeps_init).routes
  · exact Runs.forall_reached_iff_along_of_kept keeps_step recordsOnce_step_iff keeps_init rfl h

section Witness

/-- An account that gets a route. -/
def routedAccount : SubscribeUpdate where
  updateOneof := some (.account {
    slot := 1
    account := some {
      pubkey := [7]
      owner := [8]
      data := [1]
      writeVersion := 1 } })

open CountedRouter in
theorem handles_single (update : SubscribeUpdate)
    (h : (step singlePartition {} (.update update {})).stats.Unsaturated) :
    Runs.Along (step singlePartition) (Handles singlePartition) {} [.update update {}] := by
  refine ⟨⟨?_, h⟩, trivial⟩
  rintro other env heq
  obtain ⟨rfl, rfl⟩ := RouterInput.update.inj heq
  rfl

open CountedRouter in
theorem router_accounts_routedAccount :
    (step singlePartition {} (.update routedAccount {})).stats.RoutesAdd ∧
      (step singlePartition {} (.update routedAccount {})).RecordsOnce := by
  have hpasses : Runs.Along (step singlePartition) (fun state input => ¬ state.PumpSkips input) {}
      [.update routedAccount {}] := by
    refine ⟨?_, trivial⟩
    rintro ⟨-, filtered, hfiltered, -⟩
    cases hfiltered
  obtain ⟨hroutes, hrecords⟩ := router_accounts_iff singlePartition _
    (handles_single routedAccount (by decide +kernel))
  exact ⟨hroutes [.update routedAccount {}] [] rfl,
    hrecords.mpr hpasses [.update routedAccount {}] [] rfl⟩

open CountedRouter in
/-- A buy of a mint that is not tracked is recorded twice. -/
theorem router_records_twice :
    ¬ ∀ (config : RouterConfig) (inputs : List RouterInput),
      Runs.Along (step config) (Handles config) {} inputs →
        (inputs.foldl (step config) {}).RecordsOnce := by
  intro h
  have hrecords := h singlePartition [.update (buyListing ["mint"]) {}]
    (handles_single _ (by decide +kernel))
  revert hrecords
  unfold RecordsOnce
  decide +kernel

end Witness

end PumpLaunchTrader
