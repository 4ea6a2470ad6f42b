import PumpLaunchTrader.Lib.Runs
import PumpLaunchTrader.Model.Calibration
import PumpLaunchTrader.ShredExit.Calls

/-! # The threshold after a restart

Persisting writes the threshold that was loaded, and the adapted one only where the loaded
one is not positive. A restart undoes the adaptations of a run that began with a positive
threshold. -/

namespace PumpLaunchTrader

/-- What a run does to a manager: a call of its caller, or a persist. -/
inductive CalibrationStep where
  | call (c : ManagerCall)
  | persist (now : OffsetDateTime)

namespace CalibratedManager

/-- The threshold in effect. -/
def threshold (self : CalibratedManager) : Decimal :=
  self.calibration.currentPaperExitImpactPct

/-- The threshold that counts as loaded. -/
def loadedThreshold (self : CalibratedManager) : Decimal :=
  self.loadedPersisted.currentPaperExitImpactPct

def step (self : CalibratedManager) : CalibrationStep → CalibratedManager
  | .call c => { self with toTentativeSellManager := (self.toTentativeSellManager.call c).1 }
  | .persist now => (self.persistCalibration now).1

/-- A manager that is built from what is persisted now has the threshold in effect. -/
def SurvivesRestart (self : CalibratedManager) : Prop :=
  ∀ now persisted earlyIntent shredExit,
    (self.persistCalibration now).2 = some persisted →
      (CalibratedManager.new earlyIntent shredExit (some persisted)).threshold = self.threshold

/-! ## One persist -/

/-- The threshold that is written. -/
theorem threshold_persistedCalibration (self : CalibratedManager) (now : OffsetDateTime) :
    (self.persistedCalibration now).currentPaperExitImpactPct =
      if self.loadedThreshold ≤ 0 then self.threshold else self.loadedThreshold :=
  rfl

/-- A positive stored threshold is the one in effect, whatever the configuration. -/
theorem threshold_new_of_pos {persisted : PersistedCalibration}
    (h : 0 < persisted.currentPaperExitImpactPct) (earlyIntent : EarlyIntentConfig)
    (shredExit : ShredExitConfig) :
    (CalibratedManager.new earlyIntent shredExit (some persisted)).threshold =
      persisted.currentPaperExitImpactPct := by
  simp [CalibratedManager.new, TentativeSellManager.new, threshold, Option.filter, h]

theorem persistCalibration_snd (self : CalibratedManager) (now : OffsetDateTime) :
    (self.persistCalibration now).2 =
      if self.persists then some (self.persistedCalibration now) else none := by
  unfold persistCalibration
  cases self.persists <;> rfl

/-- The threshold survives exactly when the adapted value is the one that gets written. -/
theorem survivesRestart_iff {self : CalibratedManager} (henabled : self.persists = true)
    (hpos : 0 < self.threshold) :
    self.SurvivesRestart ↔
      self.loadedThreshold ≤ 0 ∨ self.loadedThreshold = self.threshold := by
  constructor
  · intro h
    by_cases hloaded : self.loadedThreshold ≤ 0
    · exact Or.inl hloaded
    · right
      have hwritten : (self.persistedCalibration 0).currentPaperExitImpactPct =
          self.loadedThreshold := by
        rw [threshold_persistedCalibration, if_neg hloaded]
      have hrestart := h 0 (self.persistedCalibration 0) {} {}
        (by rw [persistCalibration_snd, if_pos henabled])
      rw [threshold_new_of_pos (by rw [hwritten]; exact not_le.mp hloaded), hwritten]
        at hrestart
      exact hrestart
  · intro h now persisted earlyIntent shredExit hpersisted
    rw [persistCalibration_snd, if_pos henabled, Option.some.injEq] at hpersisted
    subst hpersisted
    have hwritten : (self.persistedCalibration now).currentPaperExitImpactPct =
        self.threshold := by
      rw [threshold_persistedCalibration]
      by_cases hloaded : self.loadedThreshold ≤ 0
      · rw [if_pos hloaded]
      · rw [if_neg hloaded]
        exact h.resolve_left hloaded
    rw [threshold_new_of_pos (by rw [hwritten]; exact hpos), hwritten]

/-! ## Runs -/

/-- No step replaces a positive loaded threshold. -/
theorem loadedThreshold_step {self : CalibratedManager} (h : 0 < self.loadedThreshold)
    (s : CalibrationStep) : (self.step s).loadedThreshold = self.loadedThreshold := by
  cases s with
  | call c => rfl
  | persist now =>
      have hwritten : (self.persistedCalibration now).currentPaperExitImpactPct =
          self.loadedThreshold := by
        rw [threshold_persistedCalibration, if_neg (not_le.mpr h)]
      unfold step persistCalibration
      cases self.persists with
      | false => rfl
      | true => exact hwritten

theorem loadedThreshold_run {self : CalibratedManager} (h : 0 < self.loadedThreshold)
    (steps : List CalibrationStep) :
    (steps.foldl step self).loadedThreshold = self.loadedThreshold := by
  induction steps generalizing self with
  | nil => rfl
  | cons s steps ih =>
      have hstep := loadedThreshold_step h s
      rw [List.foldl_cons, ih (by rw [hstep]; exact h), hstep]

/-- A new manager starts from a positive loaded threshold. -/
theorem threshold_new {earlyIntent : EarlyIntentConfig} {shredExit : ShredExitConfig}
    {stored : Option PersistedCalibration}
    (h : 0 < (CalibratedManager.new earlyIntent shredExit stored).loadedThreshold) :
    (CalibratedManager.new earlyIntent shredExit stored).threshold =
      (CalibratedManager.new earlyIntent shredExit stored).loadedThreshold := by
  cases stored with
  | none => rfl
  | some persisted => exact threshold_new_of_pos h earlyIntent shredExit

/-- In every state of a run the threshold survives a restart exactly when no positive other
one counts as loaded: after a start from a positive threshold, when the adaptations since
then have led back to it. -/
theorem survivesRestart_run_iff (earlyIntent : EarlyIntentConfig) (shredExit : ShredExitConfig)
    (stored : Option PersistedCalibration) (steps : List CalibrationStep)
    (henabled : (steps.foldl step (CalibratedManager.new earlyIntent shredExit stored)).persists =
      true)
    (hpos : 0 < (steps.foldl step
      (CalibratedManager.new earlyIntent shredExit stored)).threshold) :
    let start := CalibratedManager.new earlyIntent shredExit stored
    let reached := steps.foldl step start
    (reached.SurvivesRestart ↔
        reached.loadedThreshold ≤ 0 ∨ reached.loadedThreshold = reached.threshold) ∧
      (0 < start.loadedThreshold →
        (reached.SurvivesRestart ↔ reached.threshold = start.threshold)) := by
  intro start reached
  have hiff := survivesRestart_iff henabled hpos
  refine ⟨hiff, fun hstart => hiff.trans ?_⟩
  have hloaded : reached.loadedThreshold = start.loadedThreshold :=
    loadedThreshold_run hstart steps
  rw [hloaded, threshold_new hstart]
  constructor
  · rintro (hnonpos | heq)
    · exact absurd hstart (not_lt.mpr hnonpos)
    · exact heq.symm
  · exact fun heq => Or.inr heq.symm

/-- A configuration that raises the threshold by 5 after a sell that is not seen in time. -/
def adaptiveConfig : ShredExitConfig :=
  { tentativeReconciliationTtlMs := 5000
    paperExitImpactPct := 30
    calibration := { maxThresholdAdjustmentPerHour := 5 } }

/-- A sell is tracked and not seen until it expires. -/
def missedSellRun : List CalibrationStep :=
  [.call (sampleDetection "event" (some "sell") unixEpoch),
    .call (.expire (fun _ => ⟨"fresh"⟩) (unixEpoch + Duration.milliseconds 5000) ∅)]

theorem missedSellRun_raises :
    (missedSellRun.foldl step (CalibratedManager.new {} adaptiveConfig none)).threshold = 35 := by
  decide +kernel

theorem survivesRestart_run_iff_missedSellRun :
    ¬ (missedSellRun.foldl step
      (CalibratedManager.new {} adaptiveConfig none)).SurvivesRestart := by
  have hrun := survivesRestart_run_iff {} adaptiveConfig none missedSellRun (by decide +kernel)
    (by rw [missedSellRun_raises]; norm_num)
  rw [hrun.2 (by decide), missedSellRun_raises]
  decide

/-- The raised threshold is not the one that a restart begins with. -/
theorem raised_threshold_lost :
    ¬ ∀ (earlyIntent : EarlyIntentConfig) (shredExit : ShredExitConfig)
        (stored : Option PersistedCalibration) (steps : List CalibrationStep),
        let reached := steps.foldl step (CalibratedManager.new earlyIntent shredExit stored)
        0 < reached.threshold → reached.SurvivesRestart := by
  intro h
  have hsurvives := h {} adaptiveConfig none missedSellRun
    (by rw [missedSellRun_raises]; norm_num)
  have hrestart := hsurvives 0 _ {} {} (by
    rw [persistCalibration_snd, if_pos (by decide +kernel)])
  rw [missedSellRun_raises] at hrestart
  revert hrestart
  decide +kernel

end CalibratedManager

end PumpLaunchTrader
