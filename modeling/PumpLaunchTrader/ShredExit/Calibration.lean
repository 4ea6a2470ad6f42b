import PumpLaunchTrader.Model.Calibration

/-! # Persisting the calibration twice

What is written counts as loaded from then on, while the observations stay: the next call
adds them to the buckets again. -/

namespace PumpLaunchTrader

/-! ## Sample counts -/

/-- The sample count of a bucket, 0 for a key without one. -/
def samplesOf (buckets : KeyedMap String ShredExitCalibrationBucket) (key : String) : ℕ :=
  (buckets.lookup key).elim 0 ShredExitCalibrationBucket.sampleCount

/-- The observations that are filed under a key. -/
def observationsOf (observations : List CalibrationObservation) (key : String) : ℕ :=
  observations.countP fun observation => observation.key = key

theorem observationsOf_cons (observation : CalibrationObservation)
    (observations : List CalibrationObservation) (key : String) :
    observationsOf (observation :: observations) key =
      observationsOf observations key + if observation.key = key then 1 else 0 := by
  simp [observationsOf, List.countP_cons]

@[simp] theorem ShredExitCalibrationBucket.sampleCount_applyObservation (now : OffsetDateTime)
    (observation : CalibrationObservation) (bucket : ShredExitCalibrationBucket) :
    (bucket.applyObservation now observation).sampleCount =
      saturatingSucc bucket.sampleCount := by
  unfold applyObservation recomputeRates countOutcome
  cases observation.outcome <;> rfl

namespace PersistedCalibration

/-- Each observation counts in the bucket of its key, up to the ceiling of `u64`. -/
theorem samplesOf_applyObservations (self : PersistedCalibration) (now : OffsetDateTime)
    (observations : List CalibrationObservation) (config : ShredExitConfig) (key : String)
    (h : samplesOf self.buckets key ≤ TokenState.u64Max) :
    samplesOf (self.applyObservations now observations config).buckets key =
      min (samplesOf self.buckets key + observationsOf observations key) TokenState.u64Max := by
  unfold applyObservations
  generalize self.buckets = buckets at h
  induction observations generalizing buckets with
  | nil => simpa [observationsOf] using h
  | cons observation observations ih =>
      have hstep : samplesOf (buckets.upsert observation.key {}
            (.applyObservation now observation)) key =
          if observation.key = key then saturatingSucc (samplesOf buckets key)
          else samplesOf buckets key := by
        unfold samplesOf
        rw [KeyedMap.lookup_upsert]
        by_cases hkey : observation.key = key
        · subst hkey
          cases buckets.lookup observation.key <;> simp
        · simp [hkey, Ne.symm hkey]
      simp only [List.foldl_cons]
      have hbound : samplesOf (buckets.upsert observation.key {}
          (.applyObservation now observation)) key ≤ TokenState.u64Max := by
        rw [hstep]
        unfold saturatingSucc
        split <;> omega
      rw [ih _ hbound, hstep, observationsOf_cons]
      unfold saturatingSucc
      split <;> omega

end PersistedCalibration

/-! ## Two calls -/

/-- A bucket without the time of its last update. -/
def ShredExitCalibrationBucket.figures (self : ShredExitCalibrationBucket) :
    ShredExitCalibrationBucket :=
  { self with lastUpdatedAt := none }

/-- The counts, totals, means and rates that a calibration has for each key. -/
def PersistedCalibration.figures (self : PersistedCalibration) (key : String) :
    Option ShredExitCalibrationBucket :=
  (self.buckets.lookup key).map .figures

namespace CalibratedManager

/-- A second call writes the buckets of the first one, and the first one leaves those that
would be written as they are. -/
def PersistsOnce (self : CalibratedManager) : Prop :=
  ∀ before first second after : OffsetDateTime,
    let persisted := self.persistCalibration first
    (persisted.1.persistCalibration second).2.map PersistedCalibration.figures =
        persisted.2.map PersistedCalibration.figures ∧
      (persisted.1.persistedCalibration after).figures =
        (self.persistedCalibration before).figures

/-- Every bucket that an observation names reaches the ceiling of its sample count. -/
def Saturated (self : CalibratedManager) : Prop :=
  self.observations ≠ [] ∧ ∀ observation ∈ self.observations,
    TokenState.u64Max ≤ samplesOf self.loadedPersisted.buckets observation.key +
      observationsOf self.observations observation.key

theorem samplesOf_persistedCalibration (self : CalibratedManager) (now : OffsetDateTime)
    (key : String) (h : samplesOf self.loadedPersisted.buckets key ≤ TokenState.u64Max) :
    samplesOf (self.persistedCalibration now).buckets key =
      min (samplesOf self.loadedPersisted.buckets key + observationsOf self.observations key)
        TokenState.u64Max :=
  PersistedCalibration.samplesOf_applyObservations _ now self.observations self.shredExit key h

theorem figures_persistedCalibration_of_no_observations {self : CalibratedManager}
    (h : self.observations = []) (now : OffsetDateTime) :
    (self.persistedCalibration now).figures = self.loadedPersisted.figures := by
  funext key
  simp [PersistedCalibration.figures, persistedCalibration,
    PersistedCalibration.applyObservations, h]

theorem persistCalibration_of_persists {self : CalibratedManager} (h : self.persists = true)
    (now : OffsetDateTime) :
    self.persistCalibration now =
      ({ self with loadedPersisted := self.persistedCalibration now },
        some (self.persistedCalibration now)) := by
  simp [persistCalibration, h]

/-- Equal figures count equally many samples. -/
theorem samplesOf_eq_of_figures {a b : PersistedCalibration} (h : a.figures = b.figures)
    (key : String) : samplesOf a.buckets key = samplesOf b.buckets key := by
  have hkey := congrArg (Option.map ShredExitCalibrationBucket.sampleCount) (congrFun h key)
  unfold PersistedCalibration.figures at hkey
  rw [Option.map_map, Option.map_map] at hkey
  unfold samplesOf
  cases ha : a.buckets.lookup key <;> cases hb : b.buckets.lookup key <;>
    simp_all [ShredExitCalibrationBucket.figures]

/-- Persisting is idempotent exactly when no observation has been made. -/
theorem persistsOnce_iff (self : CalibratedManager) (henabled : self.persists = true)
    (hroom : ¬ self.Saturated) : self.PersistsOnce ↔ self.observations = [] := by
  constructor
  · intro h
    by_contra hobservations
    have hsome : ∃ observation ∈ self.observations,
        samplesOf self.loadedPersisted.buckets observation.key +
          observationsOf self.observations observation.key < TokenState.u64Max := by
      simpa [Saturated, hobservations] using hroom
    obtain ⟨observation, hmem, hbelow⟩ := hsome
    have hcounted : 0 < observationsOf self.observations observation.key :=
      List.countP_pos_iff.mpr ⟨observation, hmem, by simp⟩
    have hfigures := (h 0 0 0 0).2
    rw [persistCalibration_of_persists henabled] at hfigures
    have hsamples := samplesOf_eq_of_figures hfigures observation.key
    -- the second pass counts the observations of this key on top of the first one
    have honce := self.samplesOf_persistedCalibration 0 observation.key (by omega)
    rw [samplesOf_persistedCalibration _ _ _ (by simp only; omega)] at hsamples
    simp only at hsamples
    omega
  · intro h before first second after
    have hpersists : ({ self with loadedPersisted := self.persistedCalibration first } :
        CalibratedManager).persists = true := henabled
    have hnone : ({ self with loadedPersisted := self.persistedCalibration first } :
        CalibratedManager).observations = [] := h
    have hfirst := figures_persistedCalibration_of_no_observations h
    have hsecond := figures_persistedCalibration_of_no_observations hnone
    simp only [persistCalibration_of_persists henabled, persistCalibration_of_persists hpersists,
      Option.map_some, hfirst, hsecond, and_self]

/-- A manager that has seen one sell confirmed. -/
def observedOnce : CalibratedManager :=
  { CalibratedManager.new {} {} none with
    observations :=
      [{ key := "source=DeshredPreExecution"
         source := .deshredPreExecution
         sellerClassification := .dev
         confirmationMethod := some "signature"
         confidenceBucket := "0.95+"
         impactBucket := "35+"
         outcome := .confirmedExecuted
         emergencyExit := false
         falsePositive := false
         savedLossQuote := 0
         opportunityCostQuote := 0
         earlyToGeyserProcessedMs := some 40
         earlyToAccountEffectMs := none
         exitLatencyMs := none
         strategy := none
         latencyAdvantageMs := none
         requiredLatencyAdvantageMs := none
         latencyEdgeRatio := 0
         netBenefitQuote := 0
         absorptionHealthScore := 0 }] }

theorem observedOnce_not_saturated : ¬ observedOnce.Saturated := by
  intro h
  have hceiling := h.2 _ (List.mem_cons_self ..)
  revert hceiling
  decide

theorem observedOnce_persistsOnce_iff :
    observedOnce.PersistsOnce ↔ observedOnce.observations = [] :=
  persistsOnce_iff observedOnce rfl observedOnce_not_saturated

/-- The one sample is counted again by the second call. -/
theorem persistCalibration_counts_twice :
    ¬ ∀ self : CalibratedManager, self.persists = true → self.PersistsOnce := by
  intro h
  have htwice := (h observedOnce rfl 0 0 0 0).1
  have hsecond :
      (((observedOnce.persistCalibration 0).1.persistCalibration 0).2.map fun persisted =>
      samplesOf persisted.buckets "source=DeshredPreExecution") = some 2 := by
    decide +kernel
  have hfirst : ((observedOnce.persistCalibration 0).2.map fun persisted =>
      samplesOf persisted.buckets "source=DeshredPreExecution") = some 1 := by
    decide +kernel
  simp only [Option.map_eq_some_iff] at hsecond hfirst
  obtain ⟨second, hsecond, htwo⟩ := hsecond
  obtain ⟨first, hfirst, hone⟩ := hfirst
  rw [hsecond, hfirst] at htwice
  have hsamples := samplesOf_eq_of_figures (Option.some.inj htwice) "source=DeshredPreExecution"
  omega

end CalibratedManager

end PumpLaunchTrader
