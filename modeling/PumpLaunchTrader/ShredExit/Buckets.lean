import PumpLaunchTrader.Lib.Means
import PumpLaunchTrader.ShredExit.Calibration

/-! # The statistics of a calibration bucket

A bucket counts its observations and averages their latencies. The rates divide counters that
count the same observations; the precision does not, since sells turn out true without an
exit. The averages give a latency the share of its place among all the observations. -/

namespace PumpLaunchTrader

open TokenState (u64Max)

/-! ## Observations of a bucket -/

/-- The outcomes that count as a true positive. -/
def CalibrationObservation.truePositive (self : CalibrationObservation) : Bool :=
  self.outcome = .confirmedExecuted ∨ self.outcome = .rootedExecuted ∨
    self.outcome = .accountEffectsObserved

/-- The latencies of a list of observations. -/
def latencies (latency : CalibrationObservation → Option ℤ)
    (observations : List CalibrationObservation) : List Decimal :=
  observations.filterMap fun observation => (latency observation).map fun ms : ℤ => (ms : Decimal)

/-- The latencies with their places among the observations, which a counter of 64 bits
counts. -/
def placedLatencies (latency : CalibrationObservation → Option ℤ)
    (observations : List CalibrationObservation) : List (ℕ × Decimal) :=
  (observations.zipIdx 1).filterMap fun placed =>
    (latency placed.1).map fun ms : ℤ => (min placed.2 u64Max, (ms : Decimal))

theorem placedLatencies_concat (latency : CalibrationObservation → Option ℤ)
    (observations : List CalibrationObservation) (observation : CalibrationObservation) :
    placedLatencies latency (observations ++ [observation]) =
      placedLatencies latency observations ++ ((latency observation).map fun ms : ℤ =>
        (min (observations.length + 1) u64Max, (ms : Decimal))).toList := by
  unfold placedLatencies
  rw [List.zipIdx_append, List.filterMap_append, Nat.add_comm 1]
  cases hlatency : latency observation <;> simp [hlatency]

theorem map_snd_placedLatencies (latency : CalibrationObservation → Option ℤ)
    (observations : List CalibrationObservation) :
    (placedLatencies latency observations).map Prod.snd = latencies latency observations := by
  induction observations using List.reverseRecOn with
  | nil => rfl
  | append_singleton observations observation ih =>
      rw [placedLatencies_concat, List.map_append, ih, latencies, latencies,
        List.filterMap_append]
      cases hlatency : latency observation <;> simp [hlatency]

/-! ## One observation -/

/-- A counter that adds the observations with a property. -/
theorem min_countP_concat (p : CalibrationObservation → Bool)
    (observations : List CalibrationObservation) (observation : CalibrationObservation) :
    min ((observations ++ [observation]).countP p) u64Max =
      if p observation then saturatingSucc (min (observations.countP p) u64Max)
      else min (observations.countP p) u64Max := by
  rw [List.countP_append, List.countP_singleton]
  unfold saturatingSucc
  split <;> omega

/-- The average of the code moves by one part in the sample count. -/
theorem calibrationAverage_eq_run (average : Decimal) {place : ℕ} (hplace : 1 ≤ place)
    (next : Option ℤ) :
    calibrationAverage average place next =
      RunningMeans.run average (next.map fun ms : ℤ => (place, (ms : Decimal))).toList := by
  cases next with
  | none => rfl
  | some ms =>
      have hcast : (place : Decimal) ≠ 0 := by
        have hne : place ≠ 0 := by omega
        exact_mod_cast hne
      simp only [calibrationAverage, Option.map_some, Option.toList_some, RunningMeans.run,
        List.foldl_cons, List.foldl_nil, RunningMeans.advance]
      split
      · next hone =>
          have hfirst : place = 1 := by omega
          simp [hfirst]
      · rw [Nat.cast_sub hplace, Nat.cast_one]
        field_simp

namespace ShredExitCalibrationBucket

section observed

variable (now : OffsetDateTime) (observation : CalibrationObservation)
  (bucket : ShredExitCalibrationBucket)

theorem truePositiveCount_applyObservation :
    (bucket.applyObservation now observation).truePositiveCount =
      if observation.truePositive then saturatingSucc bucket.truePositiveCount
      else bucket.truePositiveCount := by
  unfold applyObservation recomputeRates countOutcome CalibrationObservation.truePositive
  cases observation.outcome <;> rfl

theorem falsePositiveCount_applyObservation :
    (bucket.applyObservation now observation).falsePositiveCount =
      if observation.falsePositive then saturatingSucc bucket.falsePositiveCount
      else bucket.falsePositiveCount := by
  unfold applyObservation recomputeRates countOutcome
  cases observation.outcome <;> rfl

theorem emergencyExitCount_applyObservation :
    (bucket.applyObservation now observation).emergencyExitCount =
      if observation.emergencyExit then saturatingSucc bucket.emergencyExitCount
      else bucket.emergencyExitCount := by
  unfold applyObservation recomputeRates countOutcome
  cases observation.outcome <;> rfl

theorem averages_applyObservation :
    let after := bucket.applyObservation now observation
    after.averageEarlyToGeyserProcessedMs = calibrationAverage
        bucket.averageEarlyToGeyserProcessedMs after.sampleCount
          observation.earlyToGeyserProcessedMs ∧
      after.averageEarlyToAccountEffectMs = calibrationAverage
        bucket.averageEarlyToAccountEffectMs after.sampleCount
          observation.earlyToAccountEffectMs ∧
      after.averageExitLatencyMs = calibrationAverage
        bucket.averageExitLatencyMs after.sampleCount observation.exitLatencyMs := by
  unfold applyObservation recomputeRates countOutcome
  cases observation.outcome <;> exact ⟨rfl, rfl, rfl⟩

end observed

theorem ite_div_natCast (total : Decimal) (n : ℕ) :
    (if (0 : Decimal) < n then total / n else 0) = total / n := by
  by_cases hzero : n = 0
  · simp [hzero]
  · have hpos : (0 : Decimal) < n := by exact_mod_cast Nat.pos_of_ne_zero hzero
    rw [if_pos hpos]

/-- The rates divide the counters by the sample count, and the precision divides the true
positives by the exits. -/
structure Divides (bucket : ShredExitCalibrationBucket) : Prop where
  falsePositiveRate :
    bucket.falsePositiveRate = (bucket.falsePositiveCount : Decimal) / bucket.sampleCount
  truePositiveRate :
    bucket.truePositiveRate = (bucket.truePositiveCount : Decimal) / bucket.sampleCount
  «recall» : bucket.recall = (bucket.truePositiveCount : Decimal) / bucket.sampleCount
  precision :
    bucket.precision = (bucket.truePositiveCount : Decimal) / bucket.emergencyExitCount

theorem divides_recomputeRates (bucket : ShredExitCalibrationBucket)
    (observation : CalibrationObservation) : (bucket.recomputeRates observation).Divides where
  falsePositiveRate := ite_div_natCast _ _
  truePositiveRate := ite_div_natCast _ _
  «recall» := ite_div_natCast _ _
  precision := by
    have hite := ite_div_natCast bucket.truePositiveCount bucket.emergencyExitCount
    simp only [Nat.cast_pos] at hite
    exact hite

/-! ## All observations -/

/-- The figures of a bucket are those of its observations. -/
structure Describes (bucket : ShredExitCalibrationBucket)
    (observations : List CalibrationObservation) : Prop extends Divides bucket where
  sampleCount : bucket.sampleCount = min observations.length u64Max
  truePositiveCount :
    bucket.truePositiveCount = min (observations.countP (·.truePositive)) u64Max
  falsePositiveCount :
    bucket.falsePositiveCount = min (observations.countP (·.falsePositive)) u64Max
  emergencyExitCount :
    bucket.emergencyExitCount = min (observations.countP (·.emergencyExit)) u64Max
  earlyToGeyserProcessed : bucket.averageEarlyToGeyserProcessedMs =
    RunningMeans.run 0 (placedLatencies (·.earlyToGeyserProcessedMs) observations)
  earlyToAccountEffect : bucket.averageEarlyToAccountEffectMs =
    RunningMeans.run 0 (placedLatencies (·.earlyToAccountEffectMs) observations)
  exitLatency : bucket.averageExitLatencyMs =
    RunningMeans.run 0 (placedLatencies (·.exitLatencyMs) observations)

theorem describes_empty : Describes {} [] where
  falsePositiveRate := by simp
  truePositiveRate := by simp
  «recall» := by simp
  precision := by simp
  sampleCount := rfl
  truePositiveCount := rfl
  falsePositiveCount := rfl
  emergencyExitCount := rfl
  earlyToGeyserProcessed := rfl
  earlyToAccountEffect := rfl
  exitLatency := rfl

/-- An average that runs over the placed latencies runs over one more. -/
theorem run_placedLatencies_concat (latency : CalibrationObservation → Option ℤ)
    (observations : List CalibrationObservation) (observation : CalibrationObservation) :
    calibrationAverage (RunningMeans.run 0 (placedLatencies latency observations))
        (min (observations.length + 1) u64Max) (latency observation) =
      RunningMeans.run 0 (placedLatencies latency (observations ++ [observation])) := by
  have hplace : 1 ≤ min (observations.length + 1) u64Max := by
    unfold u64Max
    omega
  rw [calibrationAverage_eq_run _ hplace, placedLatencies_concat, RunningMeans.run,
    RunningMeans.run, RunningMeans.run, List.foldl_append]

theorem Describes.applyObservation {bucket : ShredExitCalibrationBucket}
    {observations : List CalibrationObservation} (h : bucket.Describes observations)
    (now : OffsetDateTime) (observation : CalibrationObservation) :
    (bucket.applyObservation now observation).Describes (observations ++ [observation]) := by
  have hsamples : (bucket.applyObservation now observation).sampleCount =
      min (observations.length + 1) u64Max := by
    rw [sampleCount_applyObservation, h.sampleCount]
    unfold saturatingSucc
    omega
  obtain ⟨hgeyser, haccount, hexit⟩ := bucket.averages_applyObservation now observation
  have hdivides : (bucket.applyObservation now observation).Divides :=
    divides_recomputeRates _ _
  refine
    { hdivides with
      sampleCount := ?_
      truePositiveCount := ?_
      falsePositiveCount := ?_
      emergencyExitCount := ?_
      earlyToGeyserProcessed := ?_
      earlyToAccountEffect := ?_
      exitLatency := ?_ }
  · rw [hsamples, List.length_append, List.length_singleton]
  · rw [truePositiveCount_applyObservation, h.truePositiveCount, min_countP_concat]
  · rw [falsePositiveCount_applyObservation, h.falsePositiveCount, min_countP_concat]
  · rw [emergencyExitCount_applyObservation, h.emergencyExitCount, min_countP_concat]
  · rw [hgeyser, hsamples, h.earlyToGeyserProcessed, run_placedLatencies_concat]
  · rw [haccount, hsamples, h.earlyToAccountEffect, run_placedLatencies_concat]
  · rw [hexit, hsamples, h.exitLatency, run_placedLatencies_concat]

/-! ## True statistics -/

/-- The rates and the precision are proportions, and the averages are the means of the
latencies. -/
structure TrueStatistics (bucket : ShredExitCalibrationBucket)
    (observations : List CalibrationObservation) : Prop where
  precision : 0 ≤ bucket.precision ∧ bucket.precision ≤ 1
  «recall» : 0 ≤ bucket.recall ∧ bucket.recall ≤ 1
  truePositiveRate : 0 ≤ bucket.truePositiveRate ∧ bucket.truePositiveRate ≤ 1
  falsePositiveRate : 0 ≤ bucket.falsePositiveRate ∧ bucket.falsePositiveRate ≤ 1
  earlyToGeyserProcessed : bucket.averageEarlyToGeyserProcessedMs =
    Means.mean (latencies (·.earlyToGeyserProcessedMs) observations)
  earlyToAccountEffect : bucket.averageEarlyToAccountEffectMs =
    Means.mean (latencies (·.earlyToAccountEffectMs) observations)
  exitLatency : bucket.averageExitLatencyMs =
    Means.mean (latencies (·.exitLatencyMs) observations)

end ShredExitCalibrationBucket

/-- No true positive without an exit to set against it, unless there is no exit at all or the
counter of exits is full. -/
def ExitsCoverTruePositives (observations : List CalibrationObservation) : Prop :=
  let exits := observations.countP (·.emergencyExit)
  exits = 0 ∨ observations.countP (·.truePositive) ≤ exits ∨ u64Max ≤ exits

/-- The shares that the places give the latencies differ from equal shares by amounts that
cancel out. -/
def SharesBalance (latency : CalibrationObservation → Option ℤ)
    (observations : List CalibrationObservation) : Prop :=
  RunningMeans.deviation (placedLatencies latency observations) = 0

/-- What observations have to be like for the figures of their bucket to be true. -/
structure Representative (observations : List CalibrationObservation) : Prop where
  exits : ExitsCoverTruePositives observations
  earlyToGeyserProcessed : SharesBalance (·.earlyToGeyserProcessedMs) observations
  earlyToAccountEffect : SharesBalance (·.earlyToAccountEffectMs) observations
  exitLatency : SharesBalance (·.exitLatencyMs) observations

theorem representative_nil : Representative [] where
  exits := Or.inl rfl
  earlyToGeyserProcessed := rfl
  earlyToAccountEffect := rfl
  exitLatency := rfl

/-! ### Leading latencies -/

theorem run_placedLatencies_eq_mean_iff (latency : CalibrationObservation → Option ℤ)
    (observations : List CalibrationObservation) :
    RunningMeans.run 0 (placedLatencies latency observations) =
        Means.mean (latencies latency observations) ↔ SharesBalance latency observations := by
  rw [← map_snd_placedLatencies, RunningMeans.run_eq_mean_iff]
  rfl

/-- A saturating count of some observations is a proportion of the count of all. -/
theorem share_of_samples (p : CalibrationObservation → Bool)
    (observations : List CalibrationObservation) :
    let share : Decimal :=
      (min (observations.countP p) u64Max : ℕ) / (min observations.length u64Max : ℕ)
    0 ≤ share ∧ share ≤ 1 := by
  intro share
  have hle : observations.countP p ≤ observations.length := List.countP_le_length
  constructor
  · positivity
  · apply div_le_one_of_le₀ _ (by positivity)
    have hmin : min (observations.countP p) u64Max ≤ min observations.length u64Max := by omega
    exact_mod_cast hmin

theorem precision_iff (observations : List CalibrationObservation) :
    ((min (observations.countP (·.truePositive)) u64Max : ℕ) : Decimal) /
        (min (observations.countP (·.emergencyExit)) u64Max : ℕ) ≤ 1 ↔
      ExitsCoverTruePositives observations := by
  unfold ExitsCoverTruePositives
  generalize observations.countP (·.truePositive) = positives
  generalize observations.countP (·.emergencyExit) = exits
  by_cases hzero : exits = 0
  · simp [hzero]
  · have hpos : 0 < min exits u64Max := by
      unfold u64Max
      omega
    have hcast : (0 : Decimal) < (min exits u64Max : ℕ) := by exact_mod_cast hpos
    rw [div_le_one hcast, Nat.cast_le]
    simp only
    omega

namespace ShredExitCalibrationBucket

theorem Describes.true_iff_representative {bucket : ShredExitCalibrationBucket}
    {observations : List CalibrationObservation} (h : bucket.Describes observations) :
    bucket.TrueStatistics observations ↔ Representative observations := by
  have hprecision : bucket.precision ≤ 1 ↔ ExitsCoverTruePositives observations := by
    rw [h.precision, h.truePositiveCount, h.emergencyExitCount, precision_iff]
  have hgeyser := run_placedLatencies_eq_mean_iff (·.earlyToGeyserProcessedMs) observations
  have haccount := run_placedLatencies_eq_mean_iff (·.earlyToAccountEffectMs) observations
  have hexit := run_placedLatencies_eq_mean_iff (·.exitLatencyMs) observations
  constructor
  · intro htrue
    exact
      { exits := hprecision.mp htrue.precision.2
        earlyToGeyserProcessed :=
          hgeyser.mp (h.earlyToGeyserProcessed.symm.trans htrue.earlyToGeyserProcessed)
        earlyToAccountEffect :=
          haccount.mp (h.earlyToAccountEffect.symm.trans htrue.earlyToAccountEffect)
        exitLatency := hexit.mp (h.exitLatency.symm.trans htrue.exitLatency) }
  · intro hrepresentative
    have hpositives := share_of_samples (·.truePositive) observations
    refine ⟨⟨?_, hprecision.mpr hrepresentative.exits⟩, ?_, ?_, ?_, ?_, ?_, ?_⟩
    · rw [h.precision]
      positivity
    · rw [h.recall, h.truePositiveCount, h.sampleCount]
      exact hpositives
    · rw [h.truePositiveRate, h.truePositiveCount, h.sampleCount]
      exact hpositives
    · rw [h.falsePositiveRate, h.falsePositiveCount, h.sampleCount]
      exact share_of_samples (·.falsePositive) observations
    · rw [h.earlyToGeyserProcessed]
      exact hgeyser.mpr hrepresentative.earlyToGeyserProcessed
    · rw [h.earlyToAccountEffect]
      exact haccount.mpr hrepresentative.earlyToAccountEffect
    · rw [h.exitLatency]
      exact hexit.mpr hrepresentative.exitLatency

end ShredExitCalibrationBucket

namespace PersistedCalibration

/-! ## All buckets -/

/-- The observations that are filed under a key, in their order. -/
def filed (observations : List CalibrationObservation) (key : String) :
    List CalibrationObservation :=
  observations.filter fun observation => observation.key = key

/-- Observations that are added to no buckets describe the bucket of every key. -/
theorem describes_applyObservations (self : PersistedCalibration) (now : OffsetDateTime)
    (observations : List CalibrationObservation) (config : ShredExitConfig) (key : String) :
    ((({ self with buckets := ∅ } : PersistedCalibration).applyObservations now observations
      config).buckets.lookup key).getD {} |>.Describes (filed observations key) := by
  unfold applyObservations
  induction observations using List.reverseRecOn with
  | nil => exact ShredExitCalibrationBucket.describes_empty
  | append_singleton observations observation ih =>
      simp only [List.foldl_append, List.foldl_cons, List.foldl_nil] at ih ⊢
      rw [KeyedMap.lookup_upsert]
      by_cases hkey : observation.key = key
      · have hfiled : filed (observations ++ [observation]) key =
            filed observations key ++ [observation] := by
          simp [filed, hkey]
        rw [hfiled, if_pos hkey.symm]
        subst hkey
        exact ih.applyObservation now observation
      · have hfiled : filed (observations ++ [observation]) key = filed observations key := by
          simp [filed, hkey]
        rw [hfiled, if_neg (Ne.symm hkey)]
        exact ih

/-- The statistics of every bucket are true exactly when the observations of every key are
representative. -/
theorem trueStatistics_iff (self : PersistedCalibration) (now : OffsetDateTime)
    (observations : List CalibrationObservation) (config : ShredExitConfig) :
    (∀ key bucket, (({ self with buckets := ∅ } : PersistedCalibration).applyObservations now
        observations config).buckets.lookup key = some bucket →
      bucket.TrueStatistics (filed observations key)) ↔
      ∀ key, Representative (filed observations key) := by
  constructor
  · intro h key
    have hdescribes := self.describes_applyObservations now observations config key
    cases hlookup : (({ self with buckets := ∅ } : PersistedCalibration).applyObservations now
        observations config).buckets.lookup key with
    | none =>
        -- a key without a bucket has no observations
        rw [hlookup] at hdescribes
        have hsamples := hdescribes.sampleCount
        have hnone : (filed observations key).length = 0 := by
          simp only [Option.getD_none, TokenState.u64Max] at hsamples
          omega
        rw [List.length_eq_zero_iff.mp hnone]
        exact representative_nil
    | some bucket =>
        rw [hlookup] at hdescribes
        exact hdescribes.true_iff_representative.mp (h key bucket hlookup)
  · intro h key bucket hlookup
    have hdescribes := self.describes_applyObservations now observations config key
    rw [hlookup] at hdescribes
    exact hdescribes.true_iff_representative.mpr (h key)

/-- A sell that was confirmed, with or without an exit on its warning. -/
def confirmedSample (exit : Bool) : CalibrationObservation :=
  { key := "source=DeshredPreExecution"
    source := .deshredPreExecution
    sellerClassification := .dev
    confirmationMethod := some "signature"
    confidenceBucket := "0.95+"
    impactBucket := "35+"
    outcome := .confirmedExecuted
    emergencyExit := exit
    falsePositive := false
    savedLossQuote := 0
    opportunityCostQuote := 0
    earlyToGeyserProcessedMs := some 40
    earlyToAccountEffectMs := none
    exitLatencyMs := if exit then some 0 else none
    strategy := none
    latencyAdvantageMs := none
    requiredLatencyAdvantageMs := none
    latencyEdgeRatio := 0
    netBenefitQuote := 0
    absorptionHealthScore := 0 }

/-- Two sells of one bucket are confirmed, one of them with an exit: its precision is two. -/
theorem trueStatistics_fails :
    ¬ ∀ (self : PersistedCalibration) (now : OffsetDateTime)
        (observations : List CalibrationObservation) (config : ShredExitConfig) (key : String)
        (bucket : ShredExitCalibrationBucket),
        (({ self with buckets := ∅ } : PersistedCalibration).applyObservations now observations
          config).buckets.lookup key = some bucket →
        bucket.TrueStatistics (filed observations key) := by
  intro h
  have hprecision : ((({ (CalibratedManager.new {} {} none).loadedPersisted with
        buckets := ∅ } : PersistedCalibration).applyObservations 0
      [confirmedSample true, confirmedSample false] {}).buckets.lookup
        "source=DeshredPreExecution").map ShredExitCalibrationBucket.precision = some 2 := by
    decide +kernel
  obtain ⟨bucket, hlookup, htwo⟩ := Option.map_eq_some_iff.mp hprecision
  have hle := (h _ 0 _ {} _ bucket hlookup).precision.2
  rw [htwo] at hle
  norm_num at hle

end PersistedCalibration

end PumpLaunchTrader
