import PumpLaunchTrader.Lib.RecentKeys
import PumpLaunchTrader.Model.Geyser

/-! # Duplicates and stale versions

Transactions and accounts share one bounded memory of keys. Accounts are filtered by their
write versions before, so that memory never rejects one. -/

namespace PumpLaunchTrader

namespace Deduplicator

/-! ## The bounded memory -/

/-- The evictions keep set and queue in step. -/
theorem evict_eq (capacity : ℕ) {queue : List DedupKey} (h : queue.Nodup) :
    evict capacity queue.toFinset queue =
      ((queue.rtake capacity).toFinset, queue.rtake capacity) := by
  induction queue with
  | nil => simp [evict]
  | cons evicted queue ih =>
      obtain ⟨hevicted, hqueue⟩ := List.nodup_cons.mp h
      rw [evict]
      by_cases hcapacity : capacity < queue.length + 1
      · have herase : (evicted :: queue).toFinset.erase evicted = queue.toFinset := by
          rw [List.toFinset_cons, Finset.erase_insert (by simpa using hevicted)]
        have hrtake : (evicted :: queue).rtake capacity = queue.rtake capacity := by
          unfold List.rtake
          rw [List.length_cons, Nat.succ_sub (Nat.lt_succ_iff.mp hcapacity),
            List.drop_succ_cons]
        rw [if_pos hcapacity, herase, ih hqueue, hrtake]
      · have hrtake : (evicted :: queue).rtake capacity = evicted :: queue := by
          unfold List.rtake
          rw [List.length_cons, Nat.sub_eq_zero_of_le (by omega), List.drop_zero]
        rw [if_neg hcapacity, hrtake]

/-- The deduplicator remembers the newest of the keys that it accepted. -/
structure Remembers (dedup : Deduplicator) (accepted : List DedupKey) : Prop where
  queue_eq : dedup.queue = accepted.rtake dedup.capacity
  seen_eq : dedup.seen = dedup.queue.toFinset
  spaced : RecentKeys.Spaced dedup.capacity accepted

namespace Remembers

variable {dedup : Deduplicator} {accepted : List DedupKey} (h : dedup.Remembers accepted)

include h

theorem nodup_queue : dedup.queue.Nodup := by
  rw [h.queue_eq]
  exact h.spaced.nodup_rtake

theorem length_queue_le : dedup.queue.length ≤ dedup.capacity := by
  rw [h.queue_eq]
  exact RecentKeys.length_rtake_le accepted

theorem insert_of_mem {key : DedupKey} (hkey : key ∈ dedup.queue) :
    dedup.insert key = (false, dedup) := by
  unfold insert
  rw [if_pos (by simpa [h.seen_eq] using hkey)]

/-- A new key is accepted and remembered. -/
theorem insert_of_not_mem {key : DedupKey} (hkey : key ∉ dedup.queue) :
    (dedup.insert key).1 = true ∧ (dedup.insert key).2.capacity = dedup.capacity ∧
      (dedup.insert key).2.Remembers (accepted ++ [key]) := by
  have hseen : dedup.seen ∪ {key} = (dedup.queue ++ [key]).toFinset := by
    rw [List.toFinset_append, h.seen_eq]
    rfl
  have hnodup : (dedup.queue ++ [key]).Nodup := by
    rw [List.nodup_append_comm, List.singleton_append, List.nodup_cons]
    exact ⟨hkey, h.nodup_queue⟩
  have hnew : key ∉ accepted.rtake dedup.capacity := h.queue_eq ▸ hkey
  unfold insert
  rw [if_neg (by simpa [h.seen_eq] using hkey), hseen, evict_eq _ hnodup]
  refine ⟨rfl, rfl, ?_, rfl, h.spaced.concat hnew⟩
  rw [h.queue_eq]
  exact RecentKeys.rtake_rtake_concat accepted key

end Remembers

end Deduplicator

/-! ## Received and emitted updates -/

/-- The key under which an output was accepted. -/
def IngestOutput.dedupKey : IngestOutput → Option DedupKey
  | .transaction _ update =>
    some (.transaction update.slot update.signature (update.transactionIndex.getD 0))
  | .account _ update => some (.account update.slot update.pubkey update.writeVersion)
  | _ => none

/-- The write version of an update of an account in a slot. -/
def AccountUpdate.versionOf (account : ℕ × String) (update : AccountUpdate) : Option ℕ :=
  if (update.slot, update.pubkey) = account then some update.writeVersion else none

def IngestOutput.versionOf (account : ℕ × String) : IngestOutput → Option ℕ
  | .account _ update => update.versionOf account
  | _ => none

def GeyserEnvelope.versionOf (account : ℕ × String) (envelope : GeyserEnvelope) : Option ℕ :=
  match envelope.message with
  | .account update => update.versionOf account
  | _ => none

/-- The versions of an account that the sink gets. -/
def emittedVersions (account : ℕ × String) (outputs : List IngestOutput) : List ℕ :=
  outputs.filterMap (IngestOutput.versionOf account)

/-- The versions of an account that arrive. -/
def receivedVersions (account : ℕ × String) (envelopes : List (GeyserEnvelope × Stamp)) :
    List ℕ :=
  envelopes.filterMap fun item => item.1.versionOf account

/-- An accepted account key was emitted with its version. -/
theorem mem_emittedVersions_of_accepted {slot version : ℕ} {pubkey : String}
    {outputs : List IngestOutput}
    (h : .account slot pubkey version ∈ outputs.filterMap IngestOutput.dedupKey) :
    version ∈ emittedVersions (slot, pubkey) outputs := by
  obtain ⟨output, hmem, hkey⟩ := List.mem_filterMap.mp h
  refine List.mem_filterMap.mpr ⟨output, hmem, ?_⟩
  cases output with
  | account info update =>
      cases hkey
      simp [IngestOutput.versionOf, AccountUpdate.versionOf]
  | transaction info update | slot info update | block info update | dataGap info update =>
      cases hkey

@[simp] theorem emittedVersions_append (account : ℕ × String)
    (outputs more : List IngestOutput) :
    emittedVersions account (outputs ++ more) =
      emittedVersions account outputs ++ emittedVersions account more :=
  List.filterMap_append

theorem emittedVersions_account (account : ℕ × String) (info : EventMeta)
    (update : AccountUpdate) :
    emittedVersions account [.account info update] = (update.versionOf account).toList := by
  unfold emittedVersions
  rw [List.filterMap_cons]
  simp only [IngestOutput.versionOf, List.filterMap_nil]
  cases update.versionOf account <;> rfl

theorem AccountUpdate.versionOf_self (update : AccountUpdate) :
    update.versionOf (update.slot, update.pubkey) = some update.writeVersion :=
  if_pos rfl

theorem AccountUpdate.versionOf_ne {update : AccountUpdate} {account : ℕ × String}
    (h : account ≠ (update.slot, update.pubkey)) : update.versionOf account = none :=
  if_neg h.symm

theorem receivedVersions_concat (account : ℕ × String)
    (received : List (GeyserEnvelope × Stamp)) (item : GeyserEnvelope × Stamp) :
    receivedVersions account (received ++ [item]) =
      receivedVersions account received ++ (item.1.versionOf account).toList := by
  unfold receivedVersions
  rw [List.filterMap_append]
  cases h : item.1.versionOf account <;> simp [h]

/-! ## One envelope -/

namespace GeyserIngestService

theorem isNewer_iff (service : GeyserIngestService) (update : AccountUpdate) :
    service.isNewer update = true ↔
      ∀ last, service.writeVersions.lookup (update.slot, update.pubkey) = some last →
        last < update.writeVersion := by
  unfold isNewer
  cases service.writeVersions.lookup (update.slot, update.pubkey) with
  | none => simp
  | some last => simp

/-- What the service and the sink hold after some envelopes. -/
structure Filtered (capacity : ℕ) (received : List (GeyserEnvelope × Stamp))
    (service : GeyserIngestService) (outputs : List IngestOutput) : Prop where
  capacity_eq : service.dedup.capacity = capacity
  remembers : service.dedup.Remembers (outputs.filterMap IngestOutput.dedupKey)
  latest : ∀ account,
    service.writeVersions.lookup account = (receivedVersions account received).max?
  newest : ∀ account,
    (emittedVersions account outputs).getLast? = (receivedVersions account received).max?
  increasing : ∀ account, (emittedVersions account outputs).Pairwise (· < ·)

namespace Filtered

variable {capacity : ℕ} {received : List (GeyserEnvelope × Stamp)}
  {service : GeyserIngestService} {outputs : List IngestOutput}
  (h : Filtered capacity received service outputs)

include h

/-- No emitted version is above the one on record. -/
theorem le_of_emitted {account : ℕ × String} {version : ℕ}
    (hversion : version ∈ emittedVersions account outputs) :
    ∃ last, service.writeVersions.lookup account = some last ∧ version ≤ last := by
  have hnewest := (h.newest account).trans (h.latest account).symm
  have hincreasing := h.increasing account
  rcases List.eq_nil_or_concat' (emittedVersions account outputs) with hnil | ⟨front, last, heq⟩
  · rw [hnil] at hversion
    cases hversion
  · rw [heq] at hnewest hincreasing hversion
    refine ⟨last, by simpa using hnewest.symm, ?_⟩
    rcases List.mem_append.mp hversion with hfront | hlast
    · exact le_of_lt ((List.pairwise_append.mp hincreasing).2.2 version hfront last (by simp))
    · exact le_of_eq (List.mem_singleton.mp hlast)

/-- An envelope without an account leaves the versions alone. -/
theorem of_no_account {next : GeyserIngestService} {more : List IngestOutput}
    {item : GeyserEnvelope × Stamp} (hitem : ∀ account, item.1.versionOf account = none)
    (hcapacity : next.dedup.capacity = service.dedup.capacity)
    (hremembers : next.dedup.Remembers ((outputs ++ more).filterMap IngestOutput.dedupKey))
    (hversions : next.writeVersions = service.writeVersions)
    (hmore : ∀ account, emittedVersions account more = []) :
    Filtered capacity (received ++ [item]) next (outputs ++ more) where
  capacity_eq := hcapacity.trans h.capacity_eq
  remembers := hremembers
  latest account := by
    rw [hversions, receivedVersions_concat, hitem]
    simpa using h.latest account
  newest account := by
    rw [emittedVersions_append, hmore, receivedVersions_concat, hitem]
    simpa using h.newest account
  increasing account := by
    rw [emittedVersions_append, hmore, List.append_nil]
    exact h.increasing account

/-- An envelope that accepts no key and brings no account changes nothing that is filtered. -/
theorem of_quiet {next : GeyserIngestService} {more : List IngestOutput}
    {item : GeyserEnvelope × Stamp} (hitem : ∀ account, item.1.versionOf account = none)
    (hdedup : next.dedup = service.dedup) (hversions : next.writeVersions = service.writeVersions)
    (hkeys : more.filterMap IngestOutput.dedupKey = [])
    (hmore : ∀ account, emittedVersions account more = []) :
    Filtered capacity (received ++ [item]) next (outputs ++ more) := by
  refine h.of_no_account hitem (by rw [hdedup]) ?_ hversions hmore
  rw [List.filterMap_append, hkeys, List.append_nil, hdedup]
  exact h.remembers

theorem processSlot {item : GeyserEnvelope × Stamp} {update : SlotUpdate}
    (hitem : ∀ account, item.1.versionOf account = none) :
    Filtered capacity (received ++ [item]) (service.processSlot item.1 item.2 update).1
      (outputs ++ (service.processSlot item.1 item.2 update).2) := by
  unfold GeyserIngestService.processSlot
  cases service.detectGap update.slot update.parent with
  | none => exact h.of_quiet hitem rfl rfl rfl fun _ => rfl
  | some gap => exact h.of_quiet hitem rfl rfl rfl fun _ => rfl

theorem processTransaction {item : GeyserEnvelope × Stamp} {update : TransactionUpdate}
    (hitem : ∀ account, item.1.versionOf account = none) :
    Filtered capacity (received ++ [item]) (service.processTransaction item.1 item.2 update).1
      (outputs ++ (service.processTransaction item.1 item.2 update).2) := by
  unfold GeyserIngestService.processTransaction
  simp only
  by_cases hkey : .transaction update.slot update.signature (update.transactionIndex.getD 0) ∈
      service.dedup.queue
  · rw [h.remembers.insert_of_mem hkey]
    exact h.of_quiet hitem rfl rfl rfl fun _ => rfl
  · obtain ⟨haccepted, hcapacity, hremembers⟩ := h.remembers.insert_of_not_mem hkey
    split
    next dedup hinsert =>
      rw [hinsert] at hcapacity hremembers
      refine h.of_no_account hitem hcapacity ?_ rfl fun _ => rfl
      rw [List.filterMap_append]
      exact hremembers
    next dedup hinsert =>
      rw [hinsert] at haccepted
      cases haccepted

/-- A stale version of an account is the one on record or lies below it. -/
theorem max?_concat_of_stale {update : AccountUpdate} (hstale : service.isNewer update = false)
    (account : ℕ × String) :
    (receivedVersions account received ++ (update.versionOf account).toList).max? =
      (receivedVersions account received).max? := by
  unfold AccountUpdate.versionOf
  by_cases haccount : (update.slot, update.pubkey) = account
  · subst haccount
    have hnot : ¬ ∀ last, service.writeVersions.lookup (update.slot, update.pubkey) = some last →
        last < update.writeVersion := by
      rw [← isNewer_iff, hstale]
      exact Bool.false_ne_true
    push Not at hnot
    obtain ⟨last, hlast, hle⟩ := hnot
    rw [h.latest] at hlast
    rw [if_pos rfl, hlast, List.max?_eq_some_iff]
    obtain ⟨hmem, hmax⟩ := List.max?_eq_some_iff.mp hlast
    refine ⟨List.mem_append_left _ hmem, ?_⟩
    intro version hversion
    rcases List.mem_append.mp hversion with hold | hnew
    · exact hmax version hold
    · rw [Option.toList_some, List.mem_singleton] at hnew
      rwa [hnew]
  · rw [if_neg haccount, Option.toList_none, List.append_nil]

/-- A newer version of an account is the greatest one received. -/
theorem max?_concat_of_newer {update : AccountUpdate} (hnewer : service.isNewer update = true) :
    (receivedVersions (update.slot, update.pubkey) received ++ [update.writeVersion]).max? =
      some update.writeVersion := by
  rw [List.max?_eq_some_iff]
  refine ⟨by simp, ?_⟩
  intro version hversion
  rcases List.mem_append.mp hversion with hold | hnew
  · cases hmax : (receivedVersions (update.slot, update.pubkey) received).max? with
    | none =>
        rw [List.max?_eq_none_iff] at hmax
        rw [hmax] at hold
        cases hold
    | some last =>
        have hlast := (service.isNewer_iff update).mp hnewer last (by rw [h.latest, hmax])
        exact ((List.max?_eq_some_iff.mp hmax).2 version hold).trans hlast.le
  · exact le_of_eq (List.mem_singleton.mp hnew)

/-- A newer version of an account is put on record and emitted. -/
theorem of_newer {next : GeyserIngestService} {item : GeyserEnvelope × Stamp}
    {info : EventMeta} {update : AccountUpdate}
    (hitem : ∀ account, item.1.versionOf account = update.versionOf account)
    (hnewer : service.isNewer update = true)
    (hcapacity : next.dedup.capacity = service.dedup.capacity)
    (hremembers : next.dedup.Remembers
      ((outputs ++ [IngestOutput.account info update]).filterMap IngestOutput.dedupKey))
    (hversions : next.writeVersions =
      service.writeVersions.insert (update.slot, update.pubkey) update.writeVersion) :
    Filtered capacity (received ++ [item]) next (outputs ++ [.account info update]) where
  capacity_eq := hcapacity.trans h.capacity_eq
  remembers := hremembers
  latest account := by
    rw [hversions, receivedVersions_concat, hitem]
    by_cases hown : account = (update.slot, update.pubkey)
    · subst hown
      rw [AList.lookup_insert, AccountUpdate.versionOf_self, Option.toList_some,
        h.max?_concat_of_newer hnewer]
    · rw [AList.lookup_insert_ne hown, AccountUpdate.versionOf_ne hown, Option.toList_none,
        List.append_nil]
      exact h.latest account
  newest account := by
    rw [receivedVersions_concat, hitem, emittedVersions_append, emittedVersions_account]
    by_cases hown : account = (update.slot, update.pubkey)
    · subst hown
      rw [AccountUpdate.versionOf_self, Option.toList_some, h.max?_concat_of_newer hnewer,
        List.getLast?_concat]
    · rw [AccountUpdate.versionOf_ne hown, Option.toList_none, List.append_nil, List.append_nil]
      exact h.newest account
  increasing account := by
    rw [emittedVersions_append, emittedVersions_account]
    by_cases hown : account = (update.slot, update.pubkey)
    · subst hown
      rw [AccountUpdate.versionOf_self, Option.toList_some, List.pairwise_append]
      refine ⟨h.increasing _, List.pairwise_singleton _ _, ?_⟩
      intro version hversion newest hnewest
      obtain ⟨last, hlast, hle⟩ := h.le_of_emitted hversion
      rw [List.mem_singleton.mp hnewest]
      exact hle.trans_lt ((service.isNewer_iff update).mp hnewer last hlast)
    · rw [AccountUpdate.versionOf_ne hown, Option.toList_none, List.append_nil]
      exact h.increasing account

/-- A newer version of an account has never been emitted, so its key is not remembered. -/
theorem not_mem_queue_of_newer {update : AccountUpdate} (hnewer : service.isNewer update = true) :
    .account update.slot update.pubkey update.writeVersion ∉ service.dedup.queue := by
  intro hmem
  rw [h.remembers.queue_eq] at hmem
  obtain ⟨last, hlast, hle⟩ :=
    h.le_of_emitted (mem_emittedVersions_of_accepted (List.mem_of_mem_drop hmem))
  exact absurd ((service.isNewer_iff update).mp hnewer last hlast) (not_lt.mpr hle)

theorem processAccount {item : GeyserEnvelope × Stamp} {update : AccountUpdate}
    (hitem : ∀ account, item.1.versionOf account = update.versionOf account) :
    Filtered capacity (received ++ [item]) (service.processAccount item.1 item.2 update).1
      (outputs ++ (service.processAccount item.1 item.2 update).2) := by
  unfold GeyserIngestService.processAccount
  by_cases hnewer : service.isNewer update = true
  · obtain ⟨haccepted, hcapacity, hremembers⟩ :=
      h.remembers.insert_of_not_mem (h.not_mem_queue_of_newer hnewer)
    rw [if_pos hnewer]
    simp only
    split
    next dedup hinsert =>
      rw [hinsert] at hcapacity hremembers
      refine h.of_newer hitem hnewer hcapacity ?_ rfl
      rw [List.filterMap_append]
      exact hremembers
    next dedup hinsert =>
      rw [hinsert] at haccepted
      cases haccepted
  · rw [if_neg hnewer, List.append_nil]
    have hstale := h.max?_concat_of_stale (Bool.eq_false_iff.mpr hnewer)
    refine ⟨h.capacity_eq, h.remembers, ?_, ?_, h.increasing⟩
    · intro account
      rw [receivedVersions_concat, hitem, hstale]
      exact h.latest account
    · intro account
      rw [receivedVersions_concat, hitem, hstale]
      exact h.newest account

theorem processEnvelope (item : GeyserEnvelope × Stamp) :
    Filtered capacity (received ++ [item]) (service.processEnvelope item.1 item.2).1
      (outputs ++ (service.processEnvelope item.1 item.2).2) := by
  -- the connection flag is the only thing that every arm writes
  have hconnected : Filtered capacity received
      { service with health := { service.health with connected := true } } outputs :=
    ⟨h.capacity_eq, h.remembers, h.latest, h.newest, h.increasing⟩
  unfold GeyserIngestService.processEnvelope
  simp only
  cases hmessage : item.1.message with
  | slot update =>
      refine hconnected.processSlot ?_
      intro account
      simp [GeyserEnvelope.versionOf, hmessage]
  | transaction update =>
      refine hconnected.processTransaction ?_
      intro account
      simp [GeyserEnvelope.versionOf, hmessage]
  | account update =>
      refine hconnected.processAccount ?_
      intro account
      simp [GeyserEnvelope.versionOf, hmessage]
  | block update =>
      refine hconnected.of_quiet ?_ rfl rfl rfl fun _ => rfl
      intro account
      simp [GeyserEnvelope.versionOf, hmessage]

end Filtered

theorem runStream_concat (service : GeyserIngestService)
    (envelopes : List (GeyserEnvelope × Stamp)) (item : GeyserEnvelope × Stamp) :
    service.runStream (envelopes ++ [item]) =
      (((service.runStream envelopes).1.processEnvelope item.1 item.2).1,
        (service.runStream envelopes).2 ++
          ((service.runStream envelopes).1.processEnvelope item.1 item.2).2) := by
  simp only [runStream, List.foldl_append, List.foldl_cons, List.foldl_nil]

theorem filtered_runStream (config : GeyserConfig) (envelopes : List (GeyserEnvelope × Stamp)) :
    Filtered (max config.maxInflightMessages 1) envelopes ((new config).runStream envelopes).1
      ((new config).runStream envelopes).2 := by
  induction envelopes using List.reverseRecOn with
  | nil =>
      refine ⟨rfl, ⟨?_, rfl, RecentKeys.spaced_nil⟩, fun _ => rfl, fun _ => rfl, ?_⟩
      · exact (List.rtake_nil _).symm
      · exact fun _ => List.Pairwise.nil
  | append_singleton envelopes item ih =>
      rw [runStream_concat]
      exact ih.processEnvelope item

/-- However the envelopes arrive, set and queue of the memory agree within the capacity, a key
comes back only after that many others, and the emitted versions of an account rise up to the
greatest one received. -/
theorem runStream_deduplicated (config : GeyserConfig)
    (envelopes : List (GeyserEnvelope × Stamp)) :
    let dedup := ((new config).runStream envelopes).1.dedup
    let outputs := ((new config).runStream envelopes).2
    (dedup.capacity = max config.maxInflightMessages 1 ∧ dedup.seen = dedup.queue.toFinset ∧
      dedup.queue.Nodup ∧ dedup.queue.length ≤ dedup.capacity) ∧
    (∀ before key between after,
      outputs.filterMap IngestOutput.dedupKey = before ++ key :: between ++ key :: after →
        dedup.capacity ≤ (between.toFinset.erase key).card) ∧
    ∀ account, (emittedVersions account outputs).Pairwise (· < ·) ∧
      (emittedVersions account outputs).getLast? = (receivedVersions account envelopes).max? := by
  have h := filtered_runStream config envelopes
  refine ⟨⟨h.capacity_eq, h.remembers.seen_eq, h.remembers.nodup_queue,
    h.remembers.length_queue_le⟩, ?_, fun account => ⟨h.increasing account, h.newest account⟩⟩
  intro before key between after houtputs
  have hspaced := h.remembers.spaced
  rw [houtputs] at hspaced
  exact hspaced.capacity_le_card

end GeyserIngestService

end PumpLaunchTrader
