import PumpLaunchTrader.Router.Pressure

/-! # The order of one account's updates

The first update of an account pins the account to a partition and goes by the label of its
mint or of the account; all later ones have the pinned label. The partition worker reorders
each batch by label. -/

namespace PumpLaunchTrader

/-- The item is an account update of the public key. -/
def PartitionUpdate.isOf (pubkey : List UInt8) (item : PartitionUpdate) : Bool :=
  item.update.accountPubkey = some pubkey

/-- The label of the updates of an account that is pinned. -/
def pinnedLabel (pubkey : List UInt8) : String :=
  "account_pinned:" ++ Encoding.base58Encode pubkey

theorem pinnedLabel_eq (pubkey : List UInt8) :
    pinnedLabel pubkey = "account_pinned:" ++ Encoding.base58Encode pubkey := rfl

theorem pinnedLabel_inj {a b : List UInt8} (h : pinnedLabel a = pinnedLabel b) : a = b :=
  Encoding.base58Encode_injective ((String.append_right_inj _).mp h)

/-! ## Labels -/

theorem accountLabel_lt_pinnedLabel (a b : List UInt8) :
    (PartitionKey.ofAccount a).label < pinnedLabel b := by
  rw [String.lt_iff_toList_lt]
  simp [PartitionKey.ofAccount, pinnedLabel_eq, List.cons_lt_cons_iff]

theorem not_mintLabel_lt_pinnedLabel (mint : String) (b : List UInt8) :
    ¬ "mint:" ++ mint < pinnedLabel b := by
  rw [String.lt_iff_toList_lt]
  simp [pinnedLabel_eq, List.cons_lt_cons_iff]

/-- The kinds of labels of keys. -/
def keyKinds : List String := ["mint:", "account:", "owner:", "signature:", "slot:", "fallback:"]

theorem pinnedLabel_ne {kind : String} (h : kind ∈ keyKinds) (rest : String)
    (pubkey : List UInt8) : kind ++ rest ≠ pinnedLabel pubkey := by
  intro heq
  have hchars := congrArg String.toList heq
  simp only [keyKinds, List.mem_cons, List.not_mem_nil, or_false] at h
  rcases h with rfl | rfl | rfl | rfl | rfl | rfl <;> simp [pinnedLabel_eq] at hchars

theorem transactionPartitionKey_label {update : SubscribeUpdate} {key : PartitionKey}
    (h : transactionPartitionKey update = some key) :
    ∃ kind ∈ keyKinds, ∃ rest, key.label = kind ++ rest := by
  simp only [transactionPartitionKey] at h
  split at h
  · simp at h
  · split at h
    · obtain rfl := Option.some.inj h
      exact ⟨"mint:", by simp [keyKinds], _, rfl⟩
    · split at h
      · obtain rfl := Option.some.inj h
        exact ⟨"account:", by simp [keyKinds], _, rfl⟩
      · split at h
        · obtain rfl := Option.some.inj h
          exact ⟨"signature:", by simp [keyKinds], _, rfl⟩
        · split at h
          · simp at h
          · obtain rfl := Option.some.inj h
            exact ⟨"signature:", by simp [keyKinds], _, rfl⟩

theorem partitionKey_label (update : SubscribeUpdate) :
    ∃ kind ∈ keyKinds, ∃ rest, (partitionKey update).label = kind ++ rest := by
  have hslot (slot : ℕ) : ∃ kind ∈ keyKinds, ∃ rest,
      (PartitionKey.ofSlot slot).label = kind ++ rest :=
    ⟨"slot:", by simp [keyKinds], _, rfl⟩
  simp only [partitionKey]
  split
  · rename_i tx _
    cases hkey : transactionPartitionKey update with
    | none => exact hslot tx.slot
    | some key => exact transactionPartitionKey_label hkey
  · split
    · exact hslot _
    · exact ⟨"signature:", by simp [keyKinds], _, rfl⟩
  · split
    · exact hslot _
    · split
      · exact ⟨"account:", by simp [keyKinds], _, rfl⟩
      · split
        · exact ⟨"owner:", by simp [keyKinds], _, rfl⟩
        · exact hslot _
  · exact hslot _
  · exact hslot _
  · exact hslot _
  · exact ⟨"fallback:", by simp [keyKinds], "unknown", by simp [PartitionKey.unknown]⟩

theorem partitionKey_of_account {update : SubscribeUpdate} {pubkey : List UInt8}
    (h : update.accountPubkey = some pubkey) : partitionKey update = .ofAccount pubkey := by
  simp only [SubscribeUpdate.accountPubkey] at h
  simp only [partitionKey]
  split at h
  · rename_i accountUpdate haccount
    simp only [haccount]
    split at h
    · rename_i account hsome
      simp only [hsome]
      split at h
      · simp at h
      · rename_i hne
        obtain rfl := Option.some.inj h
        simp [hne]
    · simp at h
  · simp at h

/-! ## One route -/

theorem partitionForKey_lt (key : List UInt8) {partitions : ℕ} (h : 1 ≤ partitions) :
    partitionForKey key partitions < partitions := by
  simp only [partitionForKey]
  split
  · omega
  · exact Nat.mod_lt _ (by omega)

section Routes

variable (update : SubscribeUpdate) (partitions : ℕ)
  (map : KeyedMap (List UInt8) String) (pins : KeyedMap (List UInt8) ℕ)

theorem route_of_pinned {pubkey : List UInt8} {partition : ℕ}
    (h : update.accountPubkey = some pubkey) (hpin : pins.lookup pubkey = some partition) :
    partitionForUpdateWithAccountMap update partitions map pins =
      (⟨partition, false, pinnedLabel pubkey⟩, pins) := by
  simp only [partitionForUpdateWithAccountMap, h, hpin, pinnedLabel_eq]

/-- The first update of an account pins it to the partition of its mint or of its key. -/
theorem route_of_unpinned {pubkey : List UInt8} (h : update.accountPubkey = some pubkey)
    (hpin : pins.lookup pubkey = none) (hpartitions : 1 ≤ partitions) :
    ∃ route : Route, partitionForUpdateWithAccountMap update partitions map pins =
        (route, pins.insert pubkey route.partition) ∧ route.partition < partitions ∧
      ((∃ mint, route.label = "mint:" ++ mint) ∨
        route.label = (PartitionKey.ofAccount pubkey).label) := by
  simp only [partitionForUpdateWithAccountMap, h, hpin]
  refine ⟨_, rfl, ?_⟩
  cases map.lookup pubkey with
  | some mint => exact ⟨partitionForKey_lt _ hpartitions, .inl ⟨mint, rfl⟩⟩
  | none =>
    refine ⟨partitionForKey_lt _ hpartitions, .inr ?_⟩
    simp only [partitionForUpdate, partitionKey_of_account h]

theorem route_of_noAccount (h : update.accountPubkey = none) :
    partitionForUpdateWithAccountMap update partitions map pins =
      (partitionForUpdate update partitions, pins) := by
  simp only [partitionForUpdateWithAccountMap, h]

/-- Only an account's own updates have its pinned label. -/
theorem accountPubkey_of_label {pubkey : List UInt8} (hpartitions : 1 ≤ partitions)
    (h : (partitionForUpdateWithAccountMap update partitions map pins).1.label =
      pinnedLabel pubkey) : update.accountPubkey = some pubkey := by
  cases haccount : update.accountPubkey with
  | none =>
    rw [route_of_noAccount update partitions map pins haccount] at h
    obtain ⟨kind, hkind, rest, hlabel⟩ := partitionKey_label update
    exact absurd (hlabel.symm.trans h) (pinnedLabel_ne hkind rest pubkey)
  | some owner =>
    cases hpin : pins.lookup owner with
    | some partition =>
      rw [route_of_pinned update partitions map pins haccount hpin] at h
      rw [pinnedLabel_inj h]
    | none =>
      obtain ⟨route, hroute, -, ⟨mint, hlabel⟩ | hlabel⟩ :=
        route_of_unpinned update partitions map pins haccount hpin hpartitions
      · rw [hroute, hlabel] at h
        exact absurd h (pinnedLabel_ne (by simp [keyKinds]) _ _)
      · rw [hroute, hlabel] at h
        exact absurd h (pinnedLabel_ne (by simp [keyKinds]) _ _)

/-- The pins of other accounts stay. -/
theorem pins_of_ne {pubkey : List UInt8} (h : update.accountPubkey ≠ some pubkey) :
    (partitionForUpdateWithAccountMap update partitions map pins).2.lookup pubkey =
      pins.lookup pubkey := by
  simp only [partitionForUpdateWithAccountMap]
  split
  · rfl
  · rename_i owner haccount
    have hne : pubkey ≠ owner := fun heq => h (by rw [haccount, heq])
    split
    · rfl
    · exact AList.lookup_insert_ne hne

theorem pins_of_pinned {pubkey : List UInt8} {partition : ℕ}
    (h : pins.lookup pubkey = some partition) :
    (partitionForUpdateWithAccountMap update partitions map pins).2.lookup pubkey =
      some partition := by
  by_cases haccount : update.accountPubkey = some pubkey
  · rw [route_of_pinned update partitions map pins haccount h, h]
  · rw [pins_of_ne update partitions map pins haccount, h]

end Routes

/-! ## One update at the router -/

/-- How the router leaves an update: before it has a route, or with one. -/
inductive RouteStep (config : RouterConfig) (update : SubscribeUpdate) (self : RouterState) :
    RouterOutcome × RouterState → Prop
  | filtered (updateClass : MaterialUpdateClass) (next : RouterState)
    (hpins : next.accountPartitionPins = self.accountPartitionPins)
    (hreceived : next.received = self.received) :
    RouteStep config update self (.skipped updateClass, next)
  | routed (map : KeyedMap (List UInt8) String) (routed : Route × KeyedMap (List UInt8) ℕ)
    (hrouted : partitionForUpdateWithAccountMap update config.workerPartitions map
      self.accountPartitionPins = routed)
    (outcome : RouterOutcome) (next : RouterState)
    (hpins : next.accountPartitionPins = routed.2)
    (hreceived : next.received = self.received + 1)
    (hsent : ∀ partition item, outcome = .sent partition item →
      partition = routed.1.partition ∧ item.update = update ∧ item.sequence = self.received + 1 ∧
        item.routeKeyLabel = routed.1.label) :
    RouteStep config update self (outcome, next)

namespace RouterState

variable (self : RouterState) (update : SubscribeUpdate)

theorem observe_kept : (self.observe update).2.accountPartitionPins = self.accountPartitionPins ∧
    (self.observe update).2.received = self.received := by
  simp only [observe]
  split <;> exact ⟨rfl, rfl⟩

theorem activateCreated_kept (filtered : PumpPrefilter) :
    (self.activateCreated filtered).accountPartitionPins = self.accountPartitionPins ∧
      (self.activateCreated filtered).received = self.received := by
  simp only [activateCreated]
  split <;> exact ⟨rfl, rfl⟩

theorem cascade_kept (activeMints tombstonedMints : Finset String) (duplicate : Bool) :
    (self.cascade update activeMints tombstonedMints duplicate).2.accountPartitionPins =
        self.accountPartitionPins ∧
      (self.cascade update activeMints tombstonedMints duplicate).2.received = self.received := by
  simp only [cascade]
  split
  · exact ⟨rfl, rfl⟩
  · split <;> exact self.activateCreated_kept _
  · split <;> exact ⟨rfl, rfl⟩
  · exact ⟨rfl, rfl⟩

theorem underPressure_kept (config : RouterConfig) (env : RouterEnv)
    (updateClass : MaterialUpdateClass) (mint : Option String) :
    (self.underPressure config env updateClass mint).2.accountPartitionPins =
        self.accountPartitionPins ∧
      (self.underPressure config env updateClass mint).2.received = self.received := by
  simp only [underPressure]
  split
  · simp only [applyPressure]
    split <;> exact ⟨rfl, rfl⟩
  · exact ⟨rfl, rfl⟩

theorem dispatch_step (config : RouterConfig) (env : RouterEnv)
    (updateClass : MaterialUpdateClass) (mint : Option String) :
    RouteStep config update self (self.dispatch config env update updateClass mint) := by
  have hkept (next : RouterState) := next.underPressure_kept config env updateClass mint
  simp only [dispatch]
  split
  · exact .routed _ _ rfl _ _ (hkept _).1 (hkept _).2 (by simp)
  · exact .routed _ _ rfl _ _ (hkept _).1 (hkept _).2 (by simp)
  · split
    · refine .routed _ _ rfl _ _ (hkept _).1 (hkept _).2 fun partition item hsent => ?_
      obtain ⟨rfl, rfl⟩ := RouterOutcome.sent.inj hsent
      exact ⟨rfl, rfl, rfl, rfl⟩
    · exact .routed _ _ rfl _ _ (hkept _).1 (hkept _).2 (by simp)

theorem routeStep_congr {config : RouterConfig} {update : SubscribeUpdate}
    {self self' : RouterState} {result : RouterOutcome × RouterState}
    (hpins : self'.accountPartitionPins = self.accountPartitionPins)
    (hreceived : self'.received = self.received) (h : RouteStep config update self' result) :
    RouteStep config update self result := by
  cases h with
  | filtered updateClass next hnext hcount =>
    exact .filtered updateClass next (hnext.trans hpins) (hcount.trans hreceived)
  | routed map routed hrouted outcome next hnext hcount hsent =>
    rw [hpins] at hrouted
    rw [hreceived] at hcount hsent
    exact .routed map routed hrouted outcome next hnext hcount hsent

theorem route_step (config : RouterConfig) (env : RouterEnv) :
    RouteStep config update self (self.route config env update) := by
  obtain ⟨hpins, hreceived⟩ := self.observe_kept update
  have hcascade := (self.observe update).2.cascade_kept update self.relevance.activeMints
    self.relevance.tombstonedMints (self.observe update).1
  simp only [route]
  split
  · rename_i updateClass next hnext
    rw [hnext] at hcascade
    exact .filtered updateClass next (hcascade.1.trans hpins) (hcascade.2.trans hreceived)
  · rename_i updateClass mint next hnext
    rw [hnext] at hcascade
    exact routeStep_congr (hcascade.1.trans hpins) (hcascade.2.trans hreceived)
      (dispatch_step next update config env updateClass mint)

end RouterState

/-! ## A run of the router -/

/-- The label of an update of the account: its mint's, its own, or the pinned one. -/
def IsAccountLabel (pubkey : List UInt8) (label : String) : Prop :=
  (∃ mint, label = "mint:" ++ mint) ∨ label = (PartitionKey.ofAccount pubkey).label ∨
    label = pinnedLabel pubkey

/-- The updates of an account go to one partition, all but the first by the pinned label. -/
structure OwnPartition (partitions : ℕ) (pubkey : List UInt8)
    (sent : List (ℕ × PartitionUpdate)) : Prop where
  together : ∃ partition < partitions, ∀ entry ∈ sent, entry.2.isOf pubkey → entry.1 = partition
  labels : ∀ entry ∈ sent, entry.2.isOf pubkey → IsAccountLabel pubkey entry.2.routeKeyLabel
  pinned : (sent.filter fun entry => entry.2.isOf pubkey).Pairwise fun _ later =>
    later.2.routeKeyLabel = pinnedLabel pubkey

namespace OwnPartition

variable {partitions : ℕ} {pubkey : List UInt8} {sent : List (ℕ × PartitionUpdate)}
  {partition : ℕ} {item : PartitionUpdate}

/-- An update of another account changes nothing. -/
theorem cons_of_not_isOf (h : OwnPartition partitions pubkey sent)
    (hof : item.isOf pubkey ≠ true) :
    OwnPartition partitions pubkey ((partition, item) :: sent) := by
  obtain ⟨own, hown, htogether⟩ := h.together
  constructor
  · refine ⟨own, hown, fun entry hentry hentryOf => ?_⟩
    rcases List.mem_cons.mp hentry with rfl | hentry
    · exact absurd hentryOf hof
    · exact htogether entry hentry hentryOf
  · intro entry hentry hentryOf
    rcases List.mem_cons.mp hentry with rfl | hentry
    · exact absurd hentryOf hof
    · exact h.labels entry hentry hentryOf
  · rw [List.filter_cons, if_neg hof]
    exact h.pinned

/-- The first update of an account, when the later ones go by the pinned label to where it
goes. -/
theorem cons_of_isOf (h : OwnPartition partitions pubkey sent) (hof : item.isOf pubkey = true)
    (hpartition : partition < partitions) (hlabel : IsAccountLabel pubkey item.routeKeyLabel)
    (hlater : ∀ entry ∈ sent, entry.2.isOf pubkey →
      entry.1 = partition ∧ entry.2.routeKeyLabel = pinnedLabel pubkey) :
    OwnPartition partitions pubkey ((partition, item) :: sent) := by
  constructor
  · refine ⟨partition, hpartition, fun entry hentry hentryOf => ?_⟩
    rcases List.mem_cons.mp hentry with rfl | hentry
    · rfl
    · exact (hlater entry hentry hentryOf).1
  · intro entry hentry hentryOf
    rcases List.mem_cons.mp hentry with rfl | hentry
    · exact hlabel
    · exact h.labels entry hentry hentryOf
  · rw [List.filter_cons, if_pos hof]
    refine List.pairwise_cons.mpr ⟨fun entry hentry => ?_, h.pinned⟩
    obtain ⟨hmem, hentryOf⟩ := List.mem_filter.mp hentry
    exact (hlater entry hmem hentryOf).2

end OwnPartition

/-- What a router sends from a state on. -/
structure SendsFrom (config : RouterConfig) (state : RouterState)
    (sent : List (ℕ × PartitionUpdate)) : Prop where
  later : ∀ entry ∈ sent, state.received < entry.2.sequence
  numbered : sent.Pairwise fun a b => a.2.sequence < b.2.sequence
  owned : ∀ entry ∈ sent, ∀ pubkey, entry.2.routeKeyLabel = pinnedLabel pubkey →
    entry.2.isOf pubkey
  pinned : ∀ pubkey partition, state.accountPartitionPins.lookup pubkey = some partition →
    ∀ entry ∈ sent, entry.2.isOf pubkey →
      entry.1 = partition ∧ entry.2.routeKeyLabel = pinnedLabel pubkey
  unpinned : ∀ pubkey, state.accountPartitionPins.lookup pubkey = none →
    OwnPartition config.workerPartitions pubkey sent

namespace SendsFrom

variable {config : RouterConfig} {state next : RouterState} {update : SubscribeUpdate}
  {map : KeyedMap (List UInt8) String} {sent : List (ℕ × PartitionUpdate)}

theorem nil : SendsFrom config state [] where
  later := by simp
  numbered := .nil
  owned := by simp
  pinned := by simp
  unpinned pubkey _ := ⟨⟨0, config.clamped.1, by simp⟩, by simp, by simp⟩

theorem congr (h : SendsFrom config next sent)
    (hpins : next.accountPartitionPins = state.accountPartitionPins)
    (hreceived : next.received = state.received) : SendsFrom config state sent where
  later := hreceived ▸ h.later
  numbered := h.numbered
  owned := h.owned
  pinned := hpins ▸ h.pinned
  unpinned := hpins ▸ h.unpinned

/-- The updates of an account that is pinned are in one partition. -/
theorem ownPartition_of_pinned (h : SendsFrom config next sent) {pubkey : List UInt8}
    {partition : ℕ} (hpin : next.accountPartitionPins.lookup pubkey = some partition)
    (hpartition : partition < config.workerPartitions) :
    OwnPartition config.workerPartitions pubkey sent where
  together := ⟨partition, hpartition, fun entry hentry hof =>
    (h.pinned pubkey partition hpin entry hentry hof).1⟩
  labels entry hentry hof := .inr (.inr (h.pinned pubkey partition hpin entry hentry hof).2)
  pinned := by
    refine List.pairwise_of_forall_mem_list fun _ _ later hlater => ?_
    obtain ⟨hmem, hof⟩ := List.mem_filter.mp hlater
    exact (h.pinned pubkey partition hpin later hmem hof).2

section Routed

variable (h : SendsFrom config next sent)
  (hpins : next.accountPartitionPins = (partitionForUpdateWithAccountMap update
    config.workerPartitions map state.accountPartitionPins).2)
  (hreceived : next.received = state.received + 1)

include h hpins hreceived

theorem skip : SendsFrom config state sent where
  later entry hentry := by
    have hlater := h.later entry hentry
    omega
  numbered := h.numbered
  owned := h.owned
  pinned pubkey partition hpin :=
    h.pinned pubkey partition (by rw [hpins]; exact pins_of_pinned update _ map _ hpin)
  unpinned pubkey hnone := by
    by_cases haccount : update.accountPubkey = some pubkey
    · obtain ⟨route, hroute, hpartition, -⟩ := route_of_unpinned update config.workerPartitions
        map state.accountPartitionPins haccount hnone config.clamped.1
      refine h.ownPartition_of_pinned ?_ hpartition
      rw [hpins, hroute]
      exact AList.lookup_insert _
    · apply h.unpinned
      rw [hpins, pins_of_ne update _ map _ haccount, hnone]

theorem cons {partition : ℕ} {item : PartitionUpdate}
    (hpartition : partition = (partitionForUpdateWithAccountMap update
      config.workerPartitions map state.accountPartitionPins).1.partition)
    (hupdate : item.update = update) (hsequence : item.sequence = state.received + 1)
    (hlabel : item.routeKeyLabel = (partitionForUpdateWithAccountMap update
      config.workerPartitions map state.accountPartitionPins).1.label) :
    SendsFrom config state ((partition, item) :: sent) where
  later entry hentry := by
    rcases List.mem_cons.mp hentry with rfl | hentry
    · simp only
      omega
    · exact (skip h hpins hreceived).later entry hentry
  numbered := by
    refine List.pairwise_cons.mpr ⟨fun entry hentry => ?_, h.numbered⟩
    have hlater := h.later entry hentry
    simp only
    omega
  owned entry hentry pubkey hpinned := by
    rcases List.mem_cons.mp hentry with rfl | hentry
    · rw [hlabel] at hpinned
      simpa [PartitionUpdate.isOf, hupdate] using
        accountPubkey_of_label update _ map _ config.clamped.1 hpinned
    · exact h.owned entry hentry pubkey hpinned
  pinned pubkey p hpin entry hentry hof := by
    rcases List.mem_cons.mp hentry with rfl | hentry
    · have haccount : update.accountPubkey = some pubkey := by
        simpa [PartitionUpdate.isOf, hupdate] using hof
      rw [hpartition, hlabel, route_of_pinned update _ map _ haccount hpin]
      exact ⟨rfl, rfl⟩
    · exact (skip h hpins hreceived).pinned pubkey p hpin entry hentry hof
  unpinned pubkey hnone := by
    have htail := (skip h hpins hreceived).unpinned pubkey hnone
    by_cases haccount : update.accountPubkey = some pubkey
    · have hof : item.isOf pubkey = true := by simp [PartitionUpdate.isOf, hupdate, haccount]
      obtain ⟨route, hroute, hlt, hlabels⟩ := route_of_unpinned update config.workerPartitions
        map state.accountPartitionPins haccount hnone config.clamped.1
      rw [hroute] at hpartition hlabel
      have hpin : next.accountPartitionPins.lookup pubkey = some partition := by
        rw [hpins, hroute, hpartition]
        exact AList.lookup_insert _
      refine htail.cons_of_isOf hof (hpartition ▸ hlt) ?_ (h.pinned pubkey partition hpin)
      rw [hlabel]
      exact hlabels.imp_right .inl
    · exact htail.cons_of_not_isOf (by simpa [PartitionUpdate.isOf, hupdate] using haccount)

end Routed

end SendsFrom

/-- Every run of the router sends like this. -/
theorem routeAll_sendsFrom (config : RouterConfig) (inputs : List RouterInput)
    (state : RouterState) : SendsFrom config state (routeAll config inputs state).1 := by
  fun_induction routeAll config inputs state with
  | case1 state => exact .nil
  | case2 hint inputs state ih => exact ih.congr rfl rfl
  | case3 update env inputs state partition item next hroute rest ih =>
    have hstep := state.route_step update config env
    rw [hroute] at hstep
    cases hstep with
    | routed map routed hrouted _ _ hpins hreceived hsent =>
      subst hrouted
      obtain ⟨hpartition, hupdate, hsequence, hlabel⟩ := hsent partition item rfl
      exact ih.cons hpins hreceived hpartition hupdate hsequence hlabel
  | case4 update env inputs state updateClass next hroute ih =>
    have hstep := state.route_step update config env
    rw [hroute] at hstep
    cases hstep with
    | filtered _ _ hpins hreceived => exact ih.congr hpins hreceived
    | routed map routed hrouted _ _ hpins hreceived _ =>
      subst hrouted
      exact ih.skip hpins hreceived
  | case5 update env inputs state partition next hroute => exact .nil

/-! ## One batch -/

theorem fairSchedule_eq (batch : List PartitionUpdate) :
    fairSchedulePartitionBatch batch = RoundRobin.schedule PartitionUpdate.routeKeyLabel batch := by
  simp only [fairSchedulePartitionBatch]
  split
  · rename_i hlength
    exact (RoundRobin.schedule_of_length_le_one _ hlength).symm
  · rfl

/-- A batch as the router leaves it in a queue. -/
structure RoutedBatch (batch : List PartitionUpdate) : Prop where
  numbered : batch.Pairwise fun a b => a.sequence < b.sequence
  owned : ∀ item ∈ batch, ∀ pubkey, item.routeKeyLabel = pinnedLabel pubkey → item.isOf pubkey
  labels : ∀ pubkey, ∀ item ∈ batch, item.isOf pubkey → IsAccountLabel pubkey item.routeKeyLabel
  pinned : ∀ pubkey, (batch.filter (·.isOf pubkey)).Pairwise fun _ later =>
    later.routeKeyLabel = pinnedLabel pubkey

/-- Where the batch holds the first update of an account together with a later one, the first
goes by the label of the account, and is the first of the batch that does. -/
def PinsFirst (batch : List PartitionUpdate) : Prop :=
  ∀ pubkey, ∀ first ∈ batch, ∀ later ∈ batch, first.isOf pubkey → later.isOf pubkey →
    first.sequence < later.sequence → first.routeKeyLabel ≠ pinnedLabel pubkey →
    first.routeKeyLabel = (PartitionKey.ofAccount pubkey).label ∧
      ∀ other ∈ batch, other.sequence < first.sequence →
        other.routeKeyLabel ≠ first.routeKeyLabel

namespace RoutedBatch

variable {batch : List PartitionUpdate} (h : RoutedBatch batch)

include h in
/-- An update of an account with an earlier one has the pinned label. -/
theorem label_of_earlier {pubkey : List UInt8} {first later : PartitionUpdate}
    (hfirst : first ∈ batch) (hlater : later ∈ batch) (hof : first.isOf pubkey)
    (hof' : later.isOf pubkey) (hlt : first.sequence < later.sequence) :
    later.routeKeyLabel = pinnedLabel pubkey := by
  have hpinned := h.pinned pubkey
  rw [RoundRobin.pairwise_iff_of_number (h.numbered.filter _)] at hpinned
  exact hpinned first (List.mem_filter.mpr ⟨hfirst, hof⟩) later
    (List.mem_filter.mpr ⟨hlater, hof'⟩) hlt

include h in
/-- The first update of an account that is not pinned has the account's pinned updates behind
it, and the next one of them has the first turn of its label. -/
theorem exists_turn_zero {pubkey : List UInt8} {first later : PartitionUpdate}
    (hfirst : first ∈ batch) (hlater : later ∈ batch) (hof : first.isOf pubkey)
    (hof' : later.isOf pubkey) (hlt : first.sequence < later.sequence)
    (hlabel : first.routeKeyLabel ≠ pinnedLabel pubkey) :
    ∃ next ∈ batch.filter (·.isOf pubkey), first.sequence < next.sequence ∧
      next.routeKeyLabel = pinnedLabel pubkey ∧
      RoundRobin.turn PartitionUpdate.routeKeyLabel PartitionUpdate.sequence batch next = 0 := by
  have hnumbered := h.numbered.filter (·.isOf pubkey)
  have hmem : first ∈ batch.filter (·.isOf pubkey) := List.mem_filter.mpr ⟨hfirst, hof⟩
  have hmem' : later ∈ batch.filter (·.isOf pubkey) := List.mem_filter.mpr ⟨hlater, hof'⟩
  have hpinned := h.pinned pubkey
  have hother (other) (hother : other ∈ batch) (hlabel : other.routeKeyLabel = pinnedLabel pubkey) :
      other ∈ batch.filter (·.isOf pubkey) :=
    List.mem_filter.mpr ⟨hother, h.owned other hother pubkey hlabel⟩
  generalize batch.filter (·.isOf pubkey) = updates at hnumbered hmem hmem' hpinned hother ⊢
  cases updates with
  | nil => simp at hmem
  | cons head tail =>
    obtain ⟨hpinnedTail, -⟩ := List.pairwise_cons.mp hpinned
    obtain ⟨hheadLt, htail⟩ := List.pairwise_cons.mp hnumbered
    obtain rfl : first = head := by
      rcases List.mem_cons.mp hmem with heq | hmem
      · exact heq
      · exact absurd (hpinnedTail first hmem) hlabel
    cases tail with
    | nil =>
      obtain rfl : later = first := by simpa using hmem'
      exact absurd hlt (lt_irrefl _)
    | cons next rest =>
      have hnext : next ∈ next :: rest := List.mem_cons_self
      refine ⟨next, List.mem_cons_of_mem _ hnext, hheadLt next hnext, hpinnedTail next hnext, ?_⟩
      rw [RoundRobin.turn_eq_zero_iff]
      intro other hmemOther hltOther heq
      have hpinnedOther := heq.trans (hpinnedTail next hnext)
      rcases List.mem_cons.mp (hother other hmemOther hpinnedOther) with rfl | hmemTail
      · exact hlabel hpinnedOther
      · rcases List.mem_cons.mp hmemTail with rfl | hmemRest
        · exact lt_irrefl _ hltOther
        · exact lt_asymm hltOther ((List.pairwise_cons.mp htail).1 other hmemRest)

include h in
/-- The worker keeps the order of every account's updates in a batch exactly when the batch
pins first. -/
theorem filter_fairSchedule_iff :
    (∀ pubkey, (fairSchedulePartitionBatch batch).filter (·.isOf pubkey) =
        batch.filter (·.isOf pubkey)) ↔ PinsFirst batch := by
  simp only [fairSchedule_eq, RoundRobin.filter_schedule_eq_iff _ h.numbered]
  constructor
  · intro hsorted pubkey first hfirst later hlater hof hof' hlt hlabel
    obtain ⟨next, hnext, hlt, hnextLabel, hturn⟩ :=
      h.exists_turn_zero hfirst hlater hof hof' hlt hlabel
    have hbefore := (RoundRobin.pairwise_iff_of_number (h.numbered.filter _) _).mp (hsorted pubkey)
      first (List.mem_filter.mpr ⟨hfirst, hof⟩) next hnext hlt
    rcases hbefore with hturns | ⟨hturns, hlabels⟩
    · omega
    · rw [hnextLabel] at hlabels
      refine ⟨?_, (RoundRobin.turn_eq_zero_iff PartitionUpdate.routeKeyLabel first).mp
        (hturns.trans hturn)⟩
      rcases h.labels pubkey first hfirst hof with ⟨mint, hmint⟩ | haccount | hpinned
      · rw [hmint] at hlabels
        exact absurd hlabels (not_mintLabel_lt_pinnedLabel mint pubkey)
      · exact haccount
      · exact absurd hpinned hlabel
  · intro hpins pubkey
    rw [RoundRobin.pairwise_iff_of_number (h.numbered.filter _)]
    intro first hfirst later hlater hlt
    obtain ⟨hfirst, hof⟩ := List.mem_filter.mp hfirst
    obtain ⟨hlater, hof'⟩ := List.mem_filter.mp hlater
    have hlabel := h.label_of_earlier hfirst hlater hof hof' hlt
    by_cases hpinned : first.routeKeyLabel = pinnedLabel pubkey
    · exact .inl (RoundRobin.turn_lt_turn _ hfirst (hpinned.trans hlabel.symm) hlt)
    · obtain ⟨haccount, hnone⟩ := hpins pubkey first hfirst later hlater hof hof' hlt hpinned
      have hturn := (RoundRobin.turn_eq_zero_iff PartitionUpdate.routeKeyLabel first).mpr hnone
      have hlabels := accountLabel_lt_pinnedLabel pubkey pubkey
      rw [← haccount, ← hlabel] at hlabels
      have hlater := Nat.eq_zero_or_pos
        (RoundRobin.turn PartitionUpdate.routeKeyLabel PartitionUpdate.sequence batch later)
      rcases hlater with hzero | hpos
      · exact .inr ⟨hturn.trans hzero.symm, hlabels⟩
      · exact .inl (hturn ▸ hpos)

end RoutedBatch

/-! ## The partition queues -/

/-- What the router put into the queue of a partition. -/
def partitionQueue (sent : List (ℕ × PartitionUpdate)) (partition : ℕ) : List PartitionUpdate :=
  (sent.filter fun entry => entry.1 = partition).map (·.2)

/-- The updates of each account go to one partition, whose worker hands them on in the order
in which they were received. -/
def KeepsAccountOrder (partitions : ℕ) (sent : List (ℕ × PartitionUpdate))
    (batches : ℕ → List (List PartitionUpdate)) : Prop :=
  ∀ pubkey, ∃ partition < partitions,
    (∀ entry ∈ sent, entry.2.isOf pubkey → entry.1 = partition) ∧
    (workerOrder (batches partition)).filter (·.isOf pubkey) =
      (sent.map (·.2)).filter (·.isOf pubkey)

theorem partitionQueue_sublist (sent : List (ℕ × PartitionUpdate)) (partition : ℕ) :
    (partitionQueue sent partition).Sublist (sent.map (·.2)) :=
  List.filter_sublist.map _

/-- The queue of an account's partition holds all updates of the account. -/
theorem partitionQueue_filter {sent : List (ℕ × PartitionUpdate)} {pubkey : List UInt8}
    {partition : ℕ} (h : ∀ entry ∈ sent, entry.2.isOf pubkey → entry.1 = partition) :
    (partitionQueue sent partition).filter (·.isOf pubkey) =
      (sent.map (·.2)).filter (·.isOf pubkey) := by
  simp only [partitionQueue, List.filter_map, List.filter_filter]
  congr 1
  refine List.filter_congr fun entry hentry => ?_
  by_cases hof : entry.2.isOf pubkey
  · simp [hof, h entry hentry hof]
  · simp [hof]

theorem partitionQueue_filter_ne {sent : List (ℕ × PartitionUpdate)} {pubkey : List UInt8}
    {partition other : ℕ} (h : ∀ entry ∈ sent, entry.2.isOf pubkey → entry.1 = partition)
    (hne : other ≠ partition) : (partitionQueue sent other).filter (·.isOf pubkey) = [] := by
  simp only [partitionQueue, List.filter_eq_nil_iff, List.mem_map, List.mem_filter,
    decide_eq_true_eq]
  rintro item ⟨entry, ⟨hentry, rfl⟩, rfl⟩ hof
  exact hne (h entry hentry hof)

theorem routedBatch {config : RouterConfig} {sent : List (ℕ × PartitionUpdate)}
    (h : SendsFrom config {} sent) {batch : List PartitionUpdate}
    (hsublist : batch.Sublist (sent.map (·.2))) : RoutedBatch batch := by
  have hmem (item) (hitem : item ∈ batch) : ∃ entry ∈ sent, entry.2 = item :=
    List.mem_map.mp (hsublist.subset hitem)
  have hown (pubkey) := h.unpinned pubkey (AList.lookup_empty pubkey)
  constructor
  · have hnumbered : (sent.map (·.2)).Pairwise fun a b => a.sequence < b.sequence := by
      rw [List.pairwise_map]
      exact h.numbered
    exact hnumbered.sublist hsublist
  · intro item hitem
    obtain ⟨entry, hentry, rfl⟩ := hmem item hitem
    exact h.owned entry hentry
  · intro pubkey item hitem
    obtain ⟨entry, hentry, rfl⟩ := hmem item hitem
    exact (hown pubkey).labels entry hentry
  · intro pubkey
    have hpinned := (hown pubkey).pinned
    have hsent : ((sent.map (·.2)).filter (·.isOf pubkey)).Pairwise fun _ later =>
        later.routeKeyLabel = pinnedLabel pubkey := by
      rw [List.filter_map, List.pairwise_map]
      exact hpinned
    exact hsent.sublist (hsublist.filter _)

/-- Every account's updates stay in order exactly when every batch pins first, however the
queues are cut into batches. -/
theorem keepsAccountOrder_iff (config : RouterConfig) (inputs : List RouterInput)
    (batches : ℕ → List (List PartitionUpdate))
    (hcut : ∀ partition, (batches partition).flatten =
      partitionQueue (routeAll config inputs {}).1 partition) :
    KeepsAccountOrder config.workerPartitions (routeAll config inputs {}).1 batches ↔
      ∀ partition, ∀ batch ∈ batches partition, PinsFirst batch := by
  have hsends := routeAll_sendsFrom config inputs {}
  generalize (routeAll config inputs {}).1 = sent at hcut hsends ⊢
  have hown (pubkey) := hsends.unpinned pubkey (AList.lookup_empty pubkey)
  have hbatch (partition) (batch) (hmem : batch ∈ batches partition) : RoutedBatch batch := by
    apply routedBatch hsends
    refine .trans ?_ (partitionQueue_sublist sent partition)
    rw [← hcut]
    exact List.sublist_flatten_of_mem hmem
  have hperm (partition) (batch) (hmem : batch ∈ batches partition) :
      (fairSchedulePartitionBatch batch).Perm batch := by
    rw [fairSchedule_eq]
    exact RoundRobin.schedule_perm _ batch
  have hworker (partition pubkey) :
      (workerOrder (batches partition)).filter (·.isOf pubkey) =
          (partitionQueue sent partition).filter (·.isOf pubkey) ↔
        ∀ batch ∈ batches partition, (fairSchedulePartitionBatch batch).filter (·.isOf pubkey) =
          batch.filter (·.isOf pubkey) := by
    rw [workerOrder, ← hcut]
    exact RoundRobin.filter_flatMap_eq_iff (hperm partition) _
  constructor
  · intro hkeeps partition batch hmem
    rw [← (hbatch partition batch hmem).filter_fairSchedule_iff]
    intro pubkey
    refine (hworker partition pubkey).mp ?_ batch hmem
    obtain ⟨own, -, htogether, horder⟩ := hkeeps pubkey
    by_cases heq : partition = own
    · rw [heq, horder, partitionQueue_filter htogether]
    · have hempty := partitionQueue_filter_ne htogether heq
      rw [hempty]
      have hsame : (workerOrder (batches partition)).Perm (partitionQueue sent partition) := by
        rw [workerOrder, ← hcut, ← List.flatMap_id]
        exact List.Perm.flatMap_left _ (hperm partition)
      have hfilter := hsame.filter (·.isOf pubkey)
      rw [hempty] at hfilter
      exact hfilter.eq_nil
  · intro hpins pubkey
    obtain ⟨partition, hpartition, htogether⟩ := (hown pubkey).together
    refine ⟨partition, hpartition, htogether, ?_⟩
    rw [← partitionQueue_filter htogether, hworker]
    intro batch hmem
    exact (hbatch partition batch hmem).filter_fairSchedule_iff.mpr (hpins partition batch hmem)
      pubkey

section Witness

def singlePartition : RouterConfig where
  workerPartitions := 1
  clamped := RouterConfig.clamped_one
  partitionQueueCapacity := 8
  pressure := {
    maxQueuedUpdatesPerMint := 100
    maxUpdatesPerSecond := 100
    maxDeepUpdatesPerCheckpoint := 100
    noisyDegradeEnabled := false
    noisyDegradeReason := ""
    coalesceWindow := 1
    deltaFlushInterval := 1
    softDepth := fun capacity => capacity }

/-- A transaction that maps a token account to its mint. -/
def balanceOf (account : List UInt8) (mint : String) : SubscribeUpdate where
  updateOneof := some (.transaction {
    slot := 1
    transaction := some {
      signature := [1]
      index := 0
      transaction := some { message := some { accountKeys := [account], instructions := [] } }
      status := some { postTokenBalances := [{ accountIndex := 0, mint }] } } })

def writeOf (account : List UInt8) (writeVersion : ℕ) : SubscribeUpdate where
  updateOneof := some (.account {
    slot := 1
    account := some { pubkey := account, owner := [9], data := [1], writeVersion } })

/-- A mapping is learned, then its account is written twice. -/
def mappedAccount : List RouterInput :=
  [.update (balanceOf [7] "mint") {}, .update (writeOf [7] 1) {}, .update (writeOf [7] 2) {}]

theorem keepsAccountOrder_oneByOne :
    KeepsAccountOrder 1 (routeAll singlePartition mappedAccount {}).1 fun partition =>
      (partitionQueue (routeAll singlePartition mappedAccount {}).1 partition).map ([·]) := by
  refine (keepsAccountOrder_iff singlePartition mappedAccount _ fun partition => ?_).mpr ?_
  · simp [← List.flatMap_def]
  · intro partition batch hbatch pubkey first hfirst later hlater _ _ hlt
    obtain ⟨item, -, rfl⟩ := List.mem_map.mp hbatch
    obtain rfl := List.mem_singleton.mp hfirst
    obtain rfl := List.mem_singleton.mp hlater
    exact absurd hlt (lt_irrefl _)

/-- In one batch the second write overtakes the first. -/
theorem mappedAccount_reordered :
    ¬ KeepsAccountOrder 1 (routeAll singlePartition mappedAccount {}).1 fun partition =>
      [partitionQueue (routeAll singlePartition mappedAccount {}).1 partition] := by
  intro hkeeps
  obtain ⟨partition, hpartition, -, horder⟩ := hkeeps [7]
  obtain rfl : partition = 0 := by omega
  exact absurd horder (by decide +kernel)

end Witness

end PumpLaunchTrader
