import PumpLaunchTrader.Model.Storage
import PumpLaunchTrader.Lib.Ranks

/-! # The order of a replay

A replay sorts what it reads by one of two keys. Where the key tells the records apart, the
result does not depend on the order of the log. -/

namespace PumpLaunchTrader

instance : Std.TransCmp compareBySequence :=
  inferInstanceAs (Std.TransCmp (compareLex
    (compareOn fun stored : StoredRecord => stored.runtimeSequenceNumber)
    (compareOn fun stored : StoredRecord => stored.record.info.eventId.uuid)))

instance : Std.TransCmp compareByTimestamp :=
  inferInstanceAs (Std.TransCmp (compareLex
    (compareLex (compareOn fun stored : StoredRecord => stored.noLookaheadTimestamp)
      (compareOn fun stored : StoredRecord => stored.record.info.slot))
    (compareOn fun stored : StoredRecord => stored.record.info.eventId.uuid)))

namespace StoredRecord

/-- What records with sequence numbers are sorted by. -/
def sequenceKey (stored : StoredRecord) : Option ℕ × EventId :=
  (stored.runtimeSequenceNumber, stored.record.info.eventId)

/-- What other records are sorted by. -/
def timestampKey (stored : StoredRecord) : Option OffsetDateTime × ℕ × EventId :=
  (stored.noLookaheadTimestamp, stored.record.info.slot, stored.record.info.eventId)

theorem sequenceKey_eq_of_compare {left right : StoredRecord}
    (h : compareBySequence left right = .eq) : left.sequenceKey = right.sequenceKey := by
  unfold compareBySequence at h
  obtain ⟨hsequence, hid⟩ := Ordering.then_eq_eq.mp h
  unfold sequenceKey
  rw [Std.LawfulEqCmp.eq_of_compare hsequence,
    EventId.eq_of_uuid (Std.LawfulEqCmp.eq_of_compare hid)]

theorem timestampKey_eq_of_compare {left right : StoredRecord}
    (h : compareByTimestamp left right = .eq) : left.timestampKey = right.timestampKey := by
  unfold compareByTimestamp at h
  obtain ⟨h, hid⟩ := Ordering.then_eq_eq.mp h
  obtain ⟨htime, hslot⟩ := Ordering.then_eq_eq.mp h
  unfold timestampKey
  rw [Std.LawfulEqCmp.eq_of_compare htime, Std.LawfulEqCmp.eq_of_compare hslot,
    EventId.eq_of_uuid (Std.LawfulEqCmp.eq_of_compare hid)]

/-- The sequence number of a record is at most that of another one. -/
def SequenceAtMost (left right : StoredRecord) : Prop :=
  ∀ m ∈ left.runtimeSequenceNumber, ∀ n ∈ right.runtimeSequenceNumber, m ≤ n

theorem sequenceAtMost_of_isLE {left right : StoredRecord}
    (h : (compareBySequence left right).isLE = true) : left.SequenceAtMost right := by
  intro m hm n hn
  rw [Option.mem_def] at hm hn
  unfold compareBySequence at h
  rw [hm, hn] at h
  by_contra hlt
  have hgt : compare (some m) (some n) = .gt := Nat.compare_eq_gt.mpr (by omega)
  rw [hgt] at h
  exact Bool.false_ne_true h

end StoredRecord

namespace StorageEngine

/-- The records that a replay sorts. -/
def replayed (self : StorageEngine) (runId scenarioId : Option String) : List StoredRecord :=
  (self.readNormalizedEventsFiltered runId scenarioId).filter fun stored =>
    stored.record.isReplaySourceEvent

/-- All records that a replay sorts have sequence numbers. -/
def numbered (self : StorageEngine) (runId scenarioId : Option String) : Bool :=
  (self.replayed runId scenarioId).all fun stored => stored.runtimeSequenceNumber.isSome

section Logs

variable {self other : StorageEngine}

theorem replayed_perm (h : self.normalizedEventLog.Perm other.normalizedEventLog)
    (runId scenarioId : Option String) :
    (self.replayed runId scenarioId).Perm (other.replayed runId scenarioId) :=
  (h.filter _).filter _

theorem numbered_eq_of_perm (h : self.normalizedEventLog.Perm other.normalizedEventLog)
    (runId scenarioId : Option String) :
    self.numbered runId scenarioId = other.numbered runId scenarioId :=
  (replayed_perm h runId scenarioId).all_eq

end Logs

theorem deterministicReplay_of_numbered {self : StorageEngine} {runId scenarioId : Option String}
    (h : self.numbered runId scenarioId = true) :
    self.deterministicReplayForRunAndScenario runId scenarioId =
      (self.replayed runId scenarioId).insertionSort
        fun left right => (compareBySequence left right).isLE :=
  if_pos h

theorem deterministicReplay_of_not_numbered {self : StorageEngine}
    {runId scenarioId : Option String} (h : ¬ self.numbered runId scenarioId = true) :
    self.deterministicReplayForRunAndScenario runId scenarioId =
      (self.replayed runId scenarioId).insertionSort
        fun left right => (compareByTimestamp left right).isLE :=
  if_neg h

/-- The key that a replay sorts by tells its records apart. -/
def KeysDistinct (self : StorageEngine) (runId scenarioId : Option String) : Prop :=
  if self.numbered runId scenarioId then
    ((self.replayed runId scenarioId).map StoredRecord.sequenceKey).Nodup
  else ((self.replayed runId scenarioId).map StoredRecord.timestampKey).Nodup

instance (self : StorageEngine) (runId scenarioId : Option String) :
    Decidable (self.KeysDistinct runId scenarioId) :=
  inferInstanceAs (Decidable (if self.numbered runId scenarioId = true then
    ((self.replayed runId scenarioId).map StoredRecord.sequenceKey).Nodup
    else ((self.replayed runId scenarioId).map StoredRecord.timestampKey).Nodup))

/-- Two orders of one log are replayed alike when the key of the sort tells the replayed
records apart; records that all have sequence numbers are replayed in their order. -/
theorem deterministicReplay_perm {self other : StorageEngine}
    (h : self.normalizedEventLog.Perm other.normalizedEventLog)
    (runId scenarioId : Option String) :
    (self.KeysDistinct runId scenarioId →
      self.deterministicReplayForRunAndScenario runId scenarioId =
        other.deterministicReplayForRunAndScenario runId scenarioId) ∧
      (self.numbered runId scenarioId = true →
        (self.deterministicReplayForRunAndScenario runId scenarioId).Pairwise
          StoredRecord.SequenceAtMost) := by
  have hperm := replayed_perm h runId scenarioId
  have hsame := numbered_eq_of_perm h runId scenarioId
  constructor
  · intro hdistinct
    unfold KeysDistinct at hdistinct
    by_cases hnumbered : self.numbered runId scenarioId = true
    · rw [if_pos hnumbered] at hdistinct
      rw [deterministicReplay_of_numbered hnumbered,
        deterministicReplay_of_numbered (hsame ▸ hnumbered)]
      apply Sorting.insertionSort_isLE_eq_of_perm hperm
      intro left hleft right hright hcompare
      exact List.inj_on_of_nodup_map hdistinct hleft hright
        (StoredRecord.sequenceKey_eq_of_compare hcompare)
    · rw [if_neg hnumbered] at hdistinct
      rw [deterministicReplay_of_not_numbered hnumbered,
        deterministicReplay_of_not_numbered (hsame ▸ hnumbered)]
      apply Sorting.insertionSort_isLE_eq_of_perm hperm
      intro left hleft right hright hcompare
      exact List.inj_on_of_nodup_map hdistinct hleft hright
        (StoredRecord.timestampKey_eq_of_compare hcompare)
  · intro hnumbered
    rw [deterministicReplay_of_numbered hnumbered]
    exact (Sorting.pairwise_insertionSort_isLE _).imp StoredRecord.sequenceAtMost_of_isLE

/-- A stored funding of a wallet. -/
def storedFunding (sequenceNumber : ℕ) (eventId : EventId) : StoredRecord :=
  { runtimeSequenceNumber := some sequenceNumber
    noLookaheadTimestamp := none
    record :=
      { info :=
          { eventId := eventId
            source := .geyserProcessed
            canonicality := .processed
            slot := 1 }
        payload := .walletFunding
          { wallet := ⟨"wallet"⟩
            funder := ⟨"funder"⟩
            amount := 1
            signature := "signature" } } }

theorem deterministicReplay_perm_fundings :
    let written : StorageEngine :=
      { normalizedEventLog := [storedFunding 2 ⟨"b"⟩, storedFunding 2 ⟨"a"⟩] }
    let reversed : StorageEngine :=
      { normalizedEventLog := [storedFunding 2 ⟨"a"⟩, storedFunding 2 ⟨"b"⟩] }
    written.deterministicReplayForRunAndScenario none none =
      reversed.deterministicReplayForRunAndScenario none none := by
  intro written reversed
  have hperm : written.normalizedEventLog.Perm reversed.normalizedEventLog := List.Perm.swap _ _ _
  exact (deterministicReplay_perm hperm none none).1 (by decide +kernel)

end StorageEngine

end PumpLaunchTrader
