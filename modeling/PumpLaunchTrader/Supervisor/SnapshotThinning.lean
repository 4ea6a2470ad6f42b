import PumpLaunchTrader.Lib.Runs
import PumpLaunchTrader.Model.SnapshotPersistence

/-! # Thinning out snapshots

What the writer of feature snapshots keeps, in terms of the log of everything that reached it:
which offers it skips, which it takes for duplicates, and how old the latest snapshot of a
token can be. -/

namespace PumpLaunchTrader

/-! ## One offer -/

/-- A snapshot that pressure may thin out: a token is only watched, no gap and no trade calls
for it. -/
def SnapshotOffer.Thinnable (offer : SnapshotOffer) (config : FeaturePressureConfig) : Prop :=
  config.skipLowValueWatchSnapshotsUnderPressure ∧ offer.decision.watches ∧
    !offer.event.payload.isDataGap ∧ !(offer.fillEmitted && config.alwaysSnapshotOnTrade)

/-- The last snapshot is so recent that, under pressure, the next one is too early. -/
def SnapshotOffer.TooEarly (offer : SnapshotOffer) (config : FeaturePressureConfig)
    (last : Option OffsetDateTime) : Prop :=
  ∃ intervalMs time, config.featureSnapshotPressureIntervalMs offer.segments = some intervalMs ∧
    last = some time ∧ SnapshotWriter.elapsedMs time offer.now < intervalMs

/-- The outcome keeps the snapshot: it is in the store, through this offer or an earlier one. -/
def SnapshotOutcome.keeps (self : SnapshotOutcome) : Bool := self = .written ∨ self = .duplicate

/-- The outcome enters the identity of the snapshot. -/
def SnapshotOutcome.enters (self : SnapshotOutcome) : Bool := self = .written ∨ self = .failed

namespace SnapshotWriter

variable {self : SnapshotWriter} {offer : SnapshotOffer}

/-- The offers that are skipped. -/
def Skips (self : SnapshotWriter) (offer : SnapshotOffer) : Prop :=
  offer.Thinnable self.config ∧
    offer.TooEarly self.config (self.lastFeatureSnapshotAtByMint.lookup offer.mint)

theorem shouldPersist_of_skips (h : self.Skips offer) :
    self.shouldPersistFeatureSnapshotForEvent offer =
      (false,
        { self with skippedFeatureSnapshotCount := self.skippedFeatureSnapshotCount + 1 }) := by
  obtain ⟨⟨hskip, hwatches, hgap, htrade⟩, intervalMs, time, hinterval, hlast, helapsed⟩ := h
  have hstays : offer.decision.entersOrExits = false := by
    cases hd : offer.decision <;> simp_all [TradeDecision.watches, TradeDecision.entersOrExits]
  simp only [Bool.not_eq_true'] at hgap htrade
  simp [shouldPersistFeatureSnapshotForEvent, hinterval, hgap, hstays, hwatches, hskip, hlast,
    helapsed, ← Bool.and_eq_true, htrade]

theorem shouldPersist_of_not_skips (h : ¬self.Skips offer) :
    self.shouldPersistFeatureSnapshotForEvent offer = (true, self) := by
  cases hinterval : self.config.featureSnapshotPressureIntervalMs offer.segments with
  | none => simp [shouldPersistFeatureSnapshotForEvent, hinterval]
  | some intervalMs =>
      simp only [shouldPersistFeatureSnapshotForEvent, hinterval]
      split
      · rfl
      · rename_i hnot
        split
        · rfl
        · rename_i hlow
          cases hlast : self.lastFeatureSnapshotAtByMint.lookup offer.mint with
          | none => rfl
          | some time =>
              have hlater : ¬elapsedMs time offer.now < intervalMs := by
                intro helapsed
                refine h ⟨?_, intervalMs, time, hinterval, hlast, helapsed⟩
                cases hfill : offer.fillEmitted <;> simp_all [SnapshotOffer.Thinnable]
              simp [hlater]

theorem persist_of_skips (h : self.Skips offer) :
    self.persistFeatureSnapshot offer =
      (.skipped,
        { self with skippedFeatureSnapshotCount := self.skippedFeatureSnapshotCount + 1 }) := by
  simp [persistFeatureSnapshot, shouldPersist_of_skips h]

theorem persist_of_duplicate (h : ¬self.Skips offer)
    (hemitted : offer.featureSnapshotIdentity ∈ self.emittedFeatureSnapshotIdentities) :
    self.persistFeatureSnapshot offer = (.duplicate, self.noteSnapshot offer) := by
  simp [persistFeatureSnapshot, shouldPersist_of_not_skips h, hemitted]

theorem persist_of_failed (h : ¬self.Skips offer)
    (hfresh : offer.featureSnapshotIdentity ∉ self.emittedFeatureSnapshotIdentities)
    (hfails : offer.writeFails = true) :
    self.persistFeatureSnapshot offer =
      (.failed, { self with
        emittedFeatureSnapshotIdentities :=
          insert offer.featureSnapshotIdentity self.emittedFeatureSnapshotIdentities }) := by
  simp [persistFeatureSnapshot, shouldPersist_of_not_skips h, hfresh, hfails]

theorem persist_of_written (h : ¬self.Skips offer)
    (hfresh : offer.featureSnapshotIdentity ∉ self.emittedFeatureSnapshotIdentities)
    (hwrites : offer.writeFails = false) :
    self.persistFeatureSnapshot offer =
      (.written, { self with
        emittedFeatureSnapshotIdentities :=
          insert offer.featureSnapshotIdentity self.emittedFeatureSnapshotIdentities
        written := self.written ++ [offer.featureRecord] }.noteSnapshot offer) := by
  simp [persistFeatureSnapshot, shouldPersist_of_not_skips h, hfresh, hwrites]

/-- The four ways in which an offer can go. -/
theorem persist_cases (self : SnapshotWriter) (offer : SnapshotOffer) :
    self.Skips offer ∨
      ¬self.Skips offer ∧
        (offer.featureSnapshotIdentity ∈ self.emittedFeatureSnapshotIdentities ∨
          offer.featureSnapshotIdentity ∉ self.emittedFeatureSnapshotIdentities ∧
            (offer.writeFails = true ∨ offer.writeFails = false)) := by
  cases offer.writeFails <;> tauto

theorem outcome_eq_skipped_iff :
    (self.persistFeatureSnapshot offer).1 = .skipped ↔ self.Skips offer := by
  obtain h | ⟨h, hemitted | ⟨hfresh, hfails | hwrites⟩⟩ := persist_cases self offer
  · simp [persist_of_skips h, h]
  · simp [persist_of_duplicate h hemitted, h]
  · simp [persist_of_failed h hfresh hfails, h]
  · simp [persist_of_written h hfresh hwrites, h]

theorem outcome_eq_duplicate_iff :
    (self.persistFeatureSnapshot offer).1 = .duplicate ↔
      ¬self.Skips offer ∧
        offer.featureSnapshotIdentity ∈ self.emittedFeatureSnapshotIdentities := by
  obtain h | ⟨h, hemitted | ⟨hfresh, hfails | hwrites⟩⟩ := persist_cases self offer
  · simp [persist_of_skips h, h]
  · simp [persist_of_duplicate h hemitted, h, hemitted]
  · simp [persist_of_failed h hfresh hfails, h, hfresh]
  · simp [persist_of_written h hfresh hwrites, h, hfresh]

/-! ## The log -/

/-- What happened at the writer. -/
inductive LogEntry where
  | offered (offer : SnapshotOffer) (outcome : SnapshotOutcome)
  | reset

namespace LogEntry

/-- When a snapshot of the mint was kept. -/
def keptAt (mint : String) : LogEntry → Option OffsetDateTime
  | .offered offer outcome =>
    if offer.mint = mint ∧ outcome.keeps then some offer.now else none
  | .reset => none

/-- The identity that was entered. -/
def entered : LogEntry → Option String
  | .offered offer outcome => if outcome.enters then some offer.featureSnapshotIdentity else none
  | .reset => none

/-- The record that was written. -/
def written : LogEntry → Option FeatureRecord
  | .offered offer .written => some offer.featureRecord
  | _ => none

def skipped : LogEntry → Bool
  | .offered _ .skipped => true
  | _ => false

def isReset : LogEntry → Bool
  | .reset => true
  | .offered _ _ => false

end LogEntry

/-- When a snapshot of the mint was last kept, in this run or in an earlier one. -/
def lastKeptAt (log : List LogEntry) (mint : String) : Option OffsetDateTime :=
  (log.filterMap (LogEntry.keptAt mint)).getLast?

/-- The log since the last reset. -/
def thisRun (log : List LogEntry) : List LogEntry := log.rtakeWhile fun entry => !entry.isReset

/-- The identities entered in this run, in order. -/
def enteredThisRun (log : List LogEntry) : List String :=
  (thisRun log).filterMap LogEntry.entered

/-- What a step adds to the log. -/
def record (self : SnapshotWriter) : SnapshotInput → List LogEntry
  | .offer offer => [.offered offer (self.persistFeatureSnapshot offer).1]
  | .reset => [.reset]

/-- The writer after a list of inputs. -/
def run (config : FeaturePressureConfig) (inputs : List SnapshotInput) : SnapshotWriter :=
  inputs.foldl step { config := config }

/-- The log of a run. -/
def log (config : FeaturePressureConfig) (inputs : List SnapshotInput) : List LogEntry :=
  Runs.emitted step record { config := config } inputs

theorem run_concat (config : FeaturePressureConfig) (inputs : List SnapshotInput)
    (input : SnapshotInput) :
    run config (inputs ++ [input]) = (run config inputs).step input := by
  simp [run]

theorem log_concat (config : FeaturePressureConfig) (inputs : List SnapshotInput)
    (input : SnapshotInput) :
    log config (inputs ++ [input]) =
      log config inputs ++ (run config inputs).record input := by
  rw [log, Runs.emitted_append]
  simp [Runs.emitted, log, run]

theorem lastKeptAt_concat (log : List LogEntry) (entry : LogEntry) (mint : String) :
    lastKeptAt (log ++ [entry]) mint = (entry.keptAt mint).or (lastKeptAt log mint) := by
  cases h : entry.keptAt mint with
  | none => simp [lastKeptAt, List.filterMap_append, h]
  | some time => simp [lastKeptAt, List.filterMap_append, h]

theorem enteredThisRun_offered (log : List LogEntry) (offer : SnapshotOffer)
    (outcome : SnapshotOutcome) :
    enteredThisRun (log ++ [.offered offer outcome]) =
      enteredThisRun log ++ if outcome.enters then [offer.featureSnapshotIdentity] else [] := by
  cases h : outcome.enters <;>
    simp [enteredThisRun, thisRun, LogEntry.isReset, LogEntry.entered, h]

theorem enteredThisRun_reset (log : List LogEntry) : enteredThisRun (log ++ [.reset]) = [] := by
  simp [enteredThisRun, thisRun, LogEntry.isReset]

/-! ## The state and the log -/

/-- The state says what the log says. -/
structure Reads (config : FeaturePressureConfig) (writer : SnapshotWriter)
    (log : List LogEntry) : Prop where
  config_eq : writer.config = config
  lookup_last : ∀ mint, writer.lastFeatureSnapshotAtByMint.lookup mint = lastKeptAt log mint
  mem_emitted : ∀ identity,
    identity ∈ writer.emittedFeatureSnapshotIdentities ↔ identity ∈ enteredThisRun log
  nodup : (enteredThisRun log).Nodup
  skipped_eq : writer.skippedFeatureSnapshotCount = log.countP LogEntry.skipped
  written_eq : writer.written = log.filterMap LogEntry.written

namespace Reads

variable {config : FeaturePressureConfig} {log : List LogEntry}

/-- A note of a kept snapshot is what the log says next. -/
theorem lookup_noteSnapshot (h : Reads config self log) {outcome : SnapshotOutcome}
    (hkeeps : outcome.keeps = true) (mint : String) :
    (self.noteSnapshot offer).lastFeatureSnapshotAtByMint.lookup mint =
      lastKeptAt (log ++ [.offered offer outcome]) mint := by
  rw [lastKeptAt_concat, LogEntry.keptAt, noteSnapshot]
  by_cases hmint : offer.mint = mint
  · subst hmint
    simp [hkeeps]
  · rw [AList.lookup_insert_ne (Ne.symm hmint), h.lookup_last]
    simp [hmint]

/-- An outcome that keeps no snapshot leaves the times as they are. -/
theorem lookup_of_not_keeps (h : Reads config self log) {outcome : SnapshotOutcome}
    (hkeeps : outcome.keeps = false) (mint : String) :
    self.lastFeatureSnapshotAtByMint.lookup mint =
      lastKeptAt (log ++ [.offered offer outcome]) mint := by
  rw [lastKeptAt_concat, LogEntry.keptAt, h.lookup_last]
  simp [hkeeps]

/-- An identity that is entered for the first time. -/
theorem mem_insert (h : Reads config self log) {outcome : SnapshotOutcome}
    (henters : outcome.enters = true) (identity : String) :
    identity ∈ insert offer.featureSnapshotIdentity self.emittedFeatureSnapshotIdentities ↔
      identity ∈ enteredThisRun (log ++ [.offered offer outcome]) := by
  rw [enteredThisRun_offered, if_pos henters, List.mem_append, List.mem_singleton,
    Finset.mem_insert, h.mem_emitted, or_comm]

theorem nodup_insert (h : Reads config self log) {outcome : SnapshotOutcome}
    (hfresh : offer.featureSnapshotIdentity ∉ self.emittedFeatureSnapshotIdentities)
    (henters : outcome.enters = true) :
    (enteredThisRun (log ++ [.offered offer outcome])).Nodup := by
  rw [enteredThisRun_offered, if_pos henters]
  rw [h.mem_emitted] at hfresh
  exact List.nodup_append.mpr ⟨h.nodup, by simp, by simp; grind⟩

theorem offered (h : Reads config self log) (offer : SnapshotOffer) :
    Reads config (self.persistFeatureSnapshot offer).2
      (log ++ [.offered offer (self.persistFeatureSnapshot offer).1]) := by
  obtain hs | ⟨hs, hemitted | ⟨hfresh, hfails | hwrites⟩⟩ := persist_cases self offer
  · rw [persist_of_skips hs]
    exact
      { config_eq := h.config_eq
        lookup_last := h.lookup_of_not_keeps rfl
        mem_emitted := by simpa [enteredThisRun_offered, SnapshotOutcome.enters] using h.mem_emitted
        nodup := by simpa [enteredThisRun_offered, SnapshotOutcome.enters] using h.nodup
        skipped_eq := by simp [h.skipped_eq, LogEntry.skipped]
        written_eq := by simp [h.written_eq, LogEntry.written] }
  · rw [persist_of_duplicate hs hemitted]
    exact
      { config_eq := h.config_eq
        lookup_last := h.lookup_noteSnapshot rfl
        mem_emitted := by
          simpa [enteredThisRun_offered, SnapshotOutcome.enters, noteSnapshot] using h.mem_emitted
        nodup := by simpa [enteredThisRun_offered, SnapshotOutcome.enters] using h.nodup
        skipped_eq := by simp [h.skipped_eq, LogEntry.skipped, noteSnapshot]
        written_eq := by simp [h.written_eq, LogEntry.written, noteSnapshot] }
  · rw [persist_of_failed hs hfresh hfails]
    exact
      { config_eq := h.config_eq
        lookup_last := h.lookup_of_not_keeps rfl
        mem_emitted := h.mem_insert rfl
        nodup := h.nodup_insert hfresh rfl
        skipped_eq := by simp [h.skipped_eq, LogEntry.skipped]
        written_eq := by simp [h.written_eq, LogEntry.written] }
  · rw [persist_of_written hs hfresh hwrites]
    exact
      { config_eq := h.config_eq
        lookup_last := h.lookup_noteSnapshot rfl
        mem_emitted := h.mem_insert rfl
        nodup := h.nodup_insert hfresh rfl
        skipped_eq := by simp [h.skipped_eq, LogEntry.skipped, noteSnapshot]
        written_eq := by simp [h.written_eq, LogEntry.written, noteSnapshot] }

theorem reset (h : Reads config self log) :
    Reads config self.resetForNextRun (log ++ [.reset]) where
  config_eq := h.config_eq
  lookup_last mint := by
    rw [lastKeptAt_concat]
    exact h.lookup_last mint
  mem_emitted identity := by simp [resetForNextRun, enteredThisRun_reset]
  nodup := by simp [enteredThisRun_reset]
  skipped_eq := by simp [resetForNextRun, h.skipped_eq, LogEntry.skipped]
  written_eq := by simp [resetForNextRun, h.written_eq, LogEntry.written]

end Reads

/-- Induction on the inputs, the last one first. -/
theorem reads_log (config : FeaturePressureConfig) (inputs : List SnapshotInput) :
    Reads config (run config inputs) (log config inputs) := by
  induction inputs using List.reverseRecOn with
  | nil =>
      exact
        { config_eq := rfl
          lookup_last := fun _ => rfl
          mem_emitted := by simp [run, log, Runs.emitted, enteredThisRun, thisRun]
          nodup := by simp [log, Runs.emitted, enteredThisRun, thisRun]
          skipped_eq := rfl
          written_eq := rfl }
  | append_singleton inputs input ih =>
      rw [run_concat, log_concat]
      cases input with
      | offer offer => exact ih.offered offer
      | reset => exact ih.reset

/-! ## What is kept -/

/-- Pressure gives every mint at least a snapshot per millisecond. -/
theorem pressureInterval_pos {config : FeaturePressureConfig} {segments : Option RunSegments}
    {intervalMs : ℕ} (h : config.featureSnapshotPressureIntervalMs segments = some intervalMs) :
    0 < intervalMs := by
  cases segments with
  | none => simp [FeaturePressureConfig.featureSnapshotPressureIntervalMs] at h
  | some segments =>
      simp only [FeaturePressureConfig.featureSnapshotPressureIntervalMs] at h
      grind

/-- What the writer promises about the next offer after any inputs: it is skipped exactly when
it may be thinned out and is too early after the latest snapshot of its mint that was kept,
in whatever run; it is a duplicate exactly when its identity was entered in this run; and
when its write does not fail, the latest snapshot kept is then younger than the interval that
the pressure asks for. -/
structure Thins (config : FeaturePressureConfig) (inputs : List SnapshotInput)
    (offer : SnapshotOffer) : Prop where
  skipped_iff : ((run config inputs).persistFeatureSnapshot offer).1 = .skipped ↔
    offer.Thinnable config ∧ offer.TooEarly config (lastKeptAt (log config inputs) offer.mint)
  duplicate_iff : ((run config inputs).persistFeatureSnapshot offer).1 = .duplicate ↔
    ¬(offer.Thinnable config ∧
        offer.TooEarly config (lastKeptAt (log config inputs) offer.mint)) ∧
      offer.featureSnapshotIdentity ∈ enteredThisRun (log config inputs)
  fresh : ((run config inputs).persistFeatureSnapshot offer).1 ≠ .failed →
    ∀ intervalMs, config.featureSnapshotPressureIntervalMs offer.segments = some intervalMs →
      ∃ last, lastKeptAt (log config (inputs ++ [.offer offer])) offer.mint = some last ∧
        elapsedMs last offer.now < intervalMs

theorem skips_run_iff (config : FeaturePressureConfig) (inputs : List SnapshotInput)
    (offer : SnapshotOffer) :
    (run config inputs).Skips offer ↔
      offer.Thinnable config ∧
        offer.TooEarly config (lastKeptAt (log config inputs) offer.mint) := by
  have h := reads_log config inputs
  rw [Skips, h.config_eq, h.lookup_last]

/-- A snapshot that was just kept is as fresh as can be, and one that makes the next one too
early is fresh enough. -/
theorem fresh_of_not_failed (config : FeaturePressureConfig) (inputs : List SnapshotInput)
    (offer : SnapshotOffer)
    (h : ((run config inputs).persistFeatureSnapshot offer).1 ≠ .failed) {intervalMs : ℕ}
    (hinterval : config.featureSnapshotPressureIntervalMs offer.segments = some intervalMs) :
    ∃ last, lastKeptAt (log config (inputs ++ [.offer offer])) offer.mint = some last ∧
      elapsedMs last offer.now < intervalMs := by
  rw [log_concat, record, lastKeptAt_concat, LogEntry.keptAt]
  cases hkeeps : ((run config inputs).persistFeatureSnapshot offer).1.keeps with
  | true =>
      refine ⟨offer.now, by simp, ?_⟩
      have hpos := pressureInterval_pos hinterval
      simpa [elapsedMs, Duration.wholeMilliseconds] using hpos
  | false =>
      have hskipped : ((run config inputs).persistFeatureSnapshot offer).1 = .skipped := by
        cases hout : ((run config inputs).persistFeatureSnapshot offer).1 <;>
          simp_all [SnapshotOutcome.keeps]
      obtain ⟨-, interval, time, hpressure, hlast, hearly⟩ :=
        (skips_run_iff config inputs offer).mp (outcome_eq_skipped_iff.mp hskipped)
      rw [hinterval] at hpressure
      cases hpressure
      exact ⟨time, by simpa using hlast, hearly⟩

/-- After any inputs, offers and resets in any order, the writer treats the next offer as
`Thins` says; no identity was entered twice in one run; the skipped offers are counted and
what was written is in the order of the offers. -/
theorem snapshots_thinned (config : FeaturePressureConfig) (inputs : List SnapshotInput) :
    (∀ offer, Thins config inputs offer) ∧ (enteredThisRun (log config inputs)).Nodup ∧
      (run config inputs).skippedFeatureSnapshotCount =
        (log config inputs).countP LogEntry.skipped ∧
      (run config inputs).written = (log config inputs).filterMap LogEntry.written := by
  have h := reads_log config inputs
  refine ⟨fun offer => ?_, h.nodup, h.skipped_eq, h.written_eq⟩
  exact
    { skipped_iff := outcome_eq_skipped_iff.trans (skips_run_iff config inputs offer)
      duplicate_iff := by
        rw [outcome_eq_duplicate_iff, skips_run_iff, h.mem_emitted]
      fresh := fun hwrites _ => fresh_of_not_failed config inputs offer hwrites }

end SnapshotWriter

end PumpLaunchTrader
