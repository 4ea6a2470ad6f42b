import PumpLaunchTrader.Router.AccountOrder

/-! # The fair schedule of a batch

`material_hunter_fair_schedule_partition_batch` with its loop and the counters that it
returns: every pass takes the front of each queue, and the passes go on until all queues are
empty. -/

namespace PumpLaunchTrader

/-- The state of the loop: the queues by route label, and what it has scheduled. -/
structure Scheduling where
  byKey : List (String × List PartitionUpdate)
  scheduled : List PartitionUpdate := []
  rotations : ℕ := 0

namespace Scheduling

def isDone (self : Scheduling) : Bool := self.byKey.all fun queue => queue.2.isEmpty

/-- One pass over the keys. -/
def rotate (self : Scheduling) : Scheduling :=
  let moved := self.byKey.filterMap (·.2.head?)
  { byKey := self.byKey.map fun queue => (queue.1, queue.2.tail)
    scheduled := self.scheduled ++ moved
    rotations := if 1 < moved.length then saturatingAdd self.rotations 1 else self.rotations }

/-- The loop, where it ends within so many passes. -/
def loop : ℕ → Scheduling → Option Scheduling
  | 0, self => if self.isDone then some self else none
  | fuel + 1, self => if self.isDone then some self else loop fuel self.rotate

end Scheduling

/-- `material_hunter_fair_schedule_partition_batch`: the scheduled items, the rotations and the
labels over the limit, where the loop ends within so many passes. -/
def materialHunterFairSchedulePartitionBatch (fuel : ℕ) (batch : List PartitionUpdate)
    (maxDeepPerKeyPerBatch : ℕ) : Option (List PartitionUpdate × ℕ × ℕ) :=
  if batch.length ≤ 1 then some (batch, 0, 0)
  else
    let byKey := RoundRobin.queues PartitionUpdate.routeKeyLabel batch
    let limitHits := byKey.countP fun queue => max maxDeepPerKeyPerBatch 1 < queue.2.length
    (Scheduling.loop fuel { byKey }).map fun done => (done.scheduled, done.rotations, limitHits)

/-! ## The loop ends -/

namespace Scheduling

theorem isDone_iff {self : Scheduling} :
    self.isDone = true ↔ ∀ queue ∈ self.byKey, queue.2 = [] := by
  simp [isDone, List.all_eq_true]

/-- As many passes are enough as the longest queue has items. -/
theorem loop_of_length_le (passes : ℕ) (self : Scheduling)
    (h : ∀ queue ∈ self.byKey, queue.2.length ≤ passes) :
    ∃ done, (∀ fuel, passes ≤ fuel → loop fuel self = some done) ∧
      done.scheduled = self.scheduled ++ RoundRobin.rounds passes self.byKey := by
  induction passes generalizing self with
  | zero =>
      have hdone : self.isDone = true :=
        isDone_iff.mpr fun queue hqueue => List.eq_nil_of_length_eq_zero (by
          have := h queue hqueue
          omega)
      refine ⟨self, fun fuel _ => ?_, by simp [RoundRobin.rounds]⟩
      cases fuel <;> simp [loop, hdone]
  | succ passes ih =>
      by_cases hdone : self.isDone = true
      · refine ⟨self, fun fuel _ => ?_, ?_⟩
        · cases fuel <;> simp [loop, hdone]
        · have hall : (self.byKey.all fun queue => queue.2.isEmpty) = true := hdone
          rw [RoundRobin.rounds, if_pos hall, List.append_nil]
      · have hshorter : ∀ queue ∈ self.rotate.byKey, queue.2.length ≤ passes := by
          intro queue hqueue
          obtain ⟨longer, hlonger, rfl⟩ := List.mem_map.mp hqueue
          have := h longer hlonger
          simp only [List.length_tail]
          omega
        obtain ⟨done, hloop, hscheduled⟩ := ih self.rotate hshorter
        refine ⟨done, fun fuel hfuel => ?_, ?_⟩
        · obtain ⟨fuel, rfl⟩ := Nat.exists_eq_add_one_of_ne_zero
            (Nat.ne_of_gt (Nat.lt_of_lt_of_le passes.succ_pos hfuel))
          rw [loop, if_neg hdone]
          exact hloop fuel (Nat.le_of_succ_le_succ hfuel)
        · have hsome : ¬ (self.byKey.all fun queue => queue.2.isEmpty) = true := hdone
          rw [hscheduled, RoundRobin.rounds, if_neg hsome]
          simp [rotate]

end Scheduling

/-- The loop ends with the items as the workers take them. -/
theorem schedulePartitionBatch_ends (batch : List PartitionUpdate) (maxDeepPerKeyPerBatch : ℕ) :
    ∃ rotations limitHits, ∀ fuel, batch.length ≤ fuel →
      materialHunterFairSchedulePartitionBatch fuel batch maxDeepPerKeyPerBatch =
        some (fairSchedulePartitionBatch batch, rotations, limitHits) := by
  rw [fairSchedule_eq]
  by_cases hshort : batch.length ≤ 1
  · refine ⟨0, 0, fun fuel _ => ?_⟩
    rw [materialHunterFairSchedulePartitionBatch, if_pos hshort,
      RoundRobin.schedule_of_length_le_one _ hshort]
  · have hfiled := RoundRobin.filed_queues PartitionUpdate.routeKeyLabel batch
    obtain ⟨done, hloop, hscheduled⟩ := Scheduling.loop_of_length_le batch.length
      { byKey := RoundRobin.queues PartitionUpdate.routeKeyLabel batch }
      fun queue hqueue => (hfiled.holds queue hqueue).symm ▸ List.length_filter_le _ _
    refine ⟨done.rotations, (RoundRobin.queues PartitionUpdate.routeKeyLabel batch).countP
      fun queue => max maxDeepPerKeyPerBatch 1 < queue.2.length, fun fuel hfuel => ?_⟩
    simp only [materialHunterFairSchedulePartitionBatch, if_neg hshort, hloop fuel hfuel,
      Option.map_some, hscheduled]
    rfl

/-- For every batch the loop ends. It schedules all items, those of one label in their order,
and the next item of a label comes after the present one of every other label. -/
theorem schedulePartitionBatch_fair (batch : List PartitionUpdate)
    (maxDeepPerKeyPerBatch : ℕ) :
    ∃ scheduled rotations limitHits,
      (∀ fuel, batch.length ≤ fuel →
        materialHunterFairSchedulePartitionBatch fuel batch maxDeepPerKeyPerBatch =
          some (scheduled, rotations, limitHits)) ∧
      scheduled.Perm batch ∧
      (∀ label, scheduled.filter (·.routeKeyLabel = label) =
        batch.filter (·.routeKeyLabel = label)) ∧
      (∀ a b k i j, (scheduled.findIdxs (·.routeKeyLabel = a))[k]? = some i →
        (scheduled.findIdxs (·.routeKeyLabel = b))[k + 1]? = some j → i < j) ∧
      ∀ before item after, scheduled = before ++ item :: after →
        (∀ other ∈ before, other.routeKeyLabel ≠ item.routeKeyLabel) →
          ∀ label, before.countP (·.routeKeyLabel = label) ≤ 1 := by
  obtain ⟨rotations, limitHits, hends⟩ := schedulePartitionBatch_ends batch maxDeepPerKeyPerBatch
  rw [fairSchedule_eq] at hends
  exact ⟨_, rotations, limitHits, hends, RoundRobin.schedule_perm _ batch,
    RoundRobin.filter_schedule _ batch,
    fun _ _ _ _ _ => RoundRobin.schedule_fair PartitionUpdate.routeKeyLabel batch,
    fun _ _ _ => RoundRobin.schedule_waits PartitionUpdate.routeKeyLabel⟩

end PumpLaunchTrader
