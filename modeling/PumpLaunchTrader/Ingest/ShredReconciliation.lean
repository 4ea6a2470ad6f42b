import PumpLaunchTrader.Lib.RecentKeys
import PumpLaunchTrader.Lib.Runs
import PumpLaunchTrader.Model.ShredReconciler

/-! # Conservation of tentative events

Every recorded event is reconciled, expired or pending, unless its key is recorded again while
it is pending. An expiry stops at the first key of a young record, whichever of its queue
entries that is. -/

namespace PumpLaunchTrader

namespace ShredReconciler

/-- The number of pending records. -/
def pending (reconciler : ShredReconciler) : ℕ := reconciler.records.entries.length

/-- A record has reached the time to live. -/
def isOld (reconciler : ShredReconciler) (now : OffsetDateTime) (record : TentativeRecord) :
    Bool :=
  reconciler.config.ttl ≤ now - record.insertedAt

/-! ## Expiry -/

/-- What the loop of an expiry leaves and counts. -/
theorem expireFrom_spec (now : OffsetDateTime) (order : List String)
    (reconciler : ShredReconciler) (metrics : ShredMetrics) :
    let result := expireFrom now order reconciler metrics
    result.1.config = reconciler.config ∧
    (result.1.order, result.1.records) =
      LazyQueue.sweep (reconciler.isOld now) order reconciler.records ∧
    result.2.1.reconciliationSuccessTotal = metrics.reconciliationSuccessTotal ∧
    result.2.1.reconciliationFailureTotal =
      metrics.reconciliationFailureTotal + result.2.2.length ∧
    reconciler.pending = result.1.pending + result.2.2.length := by
  induction order generalizing reconciler metrics with
  | nil => exact ⟨rfl, rfl, rfl, rfl, rfl⟩
  | cons front order ih =>
      unfold expireFrom LazyQueue.sweep
      cases hlookup : reconciler.records.lookup front with
      | none => exact ih reconciler metrics
      | some record =>
          by_cases hyoung : now - record.insertedAt < reconciler.config.ttl
          · have hold : reconciler.isOld now record = false := by
              simpa [isOld] using hyoung
            simp [hold, if_pos hyoung, pending]
          · have hold : reconciler.isOld now record = true := by
              simpa [isOld] using hyoung
            have hlength := KeyedMap.length_entries_erase hlookup
            simp only [hold, if_neg hyoung, if_true]
            obtain ⟨hconfig, hsweep, hsuccess, hfailure, hpending⟩ :=
              ih (reconciler.expireRecord front record)
                { metrics with
                  reconciliationFailureTotal := metrics.reconciliationFailureTotal + 1
                  falsePositiveTentativeTotal := metrics.falsePositiveTentativeTotal + 1 }
            refine ⟨hconfig, hsweep, hsuccess, ?_, ?_⟩
            · rw [hfailure, List.length_cons]
              exact Nat.add_right_comm _ _ _
            · rw [List.length_cons, ← Nat.add_assoc, ← hpending]
              exact hlength

end ShredReconciler

/-! ## Calls -/

/-- A call of the reconciler. -/
inductive ReconcilerCall where
  | recordTentative (event : NormalizedEvent)
  | reconcileCanonical (event : NormalizedEvent)
  | expire (now : OffsetDateTime)

/-- The reconciler with its metrics, and the number of events recorded so far. -/
structure ReconcilerRun where
  reconciler : ShredReconciler
  metrics : ShredMetrics := {}
  recorded : ℕ := 0

namespace ReconcilerRun

def call (run : ReconcilerRun) : ReconcilerCall → ReconcilerRun
  | .recordTentative event =>
    { run with
      reconciler := run.reconciler.recordTentative event
      recorded := run.recorded + 1 }
  | .reconcileCanonical event =>
    let result := run.reconciler.reconcileCanonical event run.metrics
    { run with reconciler := result.1, metrics := result.2.1 }
  | .expire now =>
    let result := run.reconciler.expire now run.metrics
    { run with reconciler := result.1, metrics := result.2.1 }

/-- The recorded events are those reconciled, expired and pending. -/
def Conserves (run : ReconcilerRun) : Prop :=
  run.recorded = run.metrics.reconciliationSuccessTotal +
    run.metrics.reconciliationFailureTotal + run.reconciler.pending

/-- No pending record has reached the time to live. -/
def NoneOld (run : ReconcilerRun) (now : OffsetDateTime) : Prop :=
  ∀ key record, run.reconciler.records.lookup key = some record →
    run.reconciler.isOld now record = false

/-- The condition on a call: a recorded event does not replace a pending one, and before an
expiry the keys of all old records are queued in front of the first key of a young one. -/
def KeepsPending (run : ReconcilerRun) : ReconcilerCall → Prop
  | .recordTentative event => run.reconciler.records.lookup (reconciliationKey event) = none
  | .reconcileCanonical _ => True
  | .expire now =>
    ∀ key record, run.reconciler.records.lookup key = some record →
      run.reconciler.isOld now record = true →
        key ∈ LazyQueue.swept (run.reconciler.isOld now) run.reconciler.order
          run.reconciler.records

/-- A recorded event replaces no pending one. -/
def ReplacesNone (run : ReconcilerRun) : ReconcilerCall → Prop
  | .recordTentative event => run.reconciler.records.lookup (reconciliationKey event) = none
  | .reconcileCanonical _ | .expire _ => True

/-! ## Conservation -/

theorem pending_recordTentative (reconciler : ShredReconciler) (event : NormalizedEvent) :
    (reconciler.recordTentative event).pending =
      if reconciler.records.lookup (reconciliationKey event) = none then reconciler.pending + 1
      else reconciler.pending := by
  unfold ShredReconciler.pending ShredReconciler.recordTentative
  rw [KeyedMap.length_entries_insert]
  cases hlookup : reconciler.records.lookup (reconciliationKey event) with
  | none => rw [KeyedMap.erase_of_lookup_eq_none hlookup, if_pos rfl]
  | some record => rw [if_neg (by simp), KeyedMap.length_entries_erase hlookup]

theorem conserves_reconcileCanonical {run : ReconcilerRun} (h : run.Conserves)
    (event : NormalizedEvent) : (run.call (.reconcileCanonical event)).Conserves := by
  unfold Conserves at h ⊢
  simp only [call, ShredReconciler.reconcileCanonical]
  cases hlookup : run.reconciler.records.lookup (reconciliationKey event) with
  | some record =>
      have hlength := KeyedMap.length_entries_erase hlookup
      simp only [ShredReconciler.pending] at h ⊢
      omega
  | none =>
      cases event.signature with
      | none => exact h
      | some signature =>
          by_cases hexpired : signature ∈ run.reconciler.expiredSignatures
          · simp only [if_pos hexpired]
            exact h
          · simp only [if_neg hexpired]
            exact h

theorem conserves_expire {run : ReconcilerRun} (h : run.Conserves) (now : OffsetDateTime) :
    (run.call (.expire now)).Conserves := by
  obtain ⟨-, -, hsuccess, hfailure, hpending⟩ :=
    ShredReconciler.expireFrom_spec now run.reconciler.order run.reconciler run.metrics
  unfold Conserves at h ⊢
  simp only [call, ShredReconciler.expire]
  rw [hsuccess, hfailure]
  omega

/-- A call keeps the balance exactly when it replaces no pending record. -/
theorem conserves_call_iff {run : ReconcilerRun} (h : run.Conserves) (c : ReconcilerCall) :
    (run.call c).Conserves ↔ run.ReplacesNone c := by
  cases c with
  | reconcileCanonical event =>
      exact ⟨fun _ => trivial, fun _ => conserves_reconcileCanonical h event⟩
  | expire now => exact ⟨fun _ => trivial, fun _ => conserves_expire h now⟩
  | recordTentative event =>
      have hpending := pending_recordTentative run.reconciler event
      unfold Conserves ReplacesNone at *
      simp only [call]
      by_cases hnone : run.reconciler.records.lookup (reconciliationKey event) = none
      · rw [if_pos hnone] at hpending
        simp only [hnone, iff_true]
        omega
      · rw [if_neg hnone] at hpending
        simp only [hnone, iff_false]
        omega

/-! ## Expired records -/

/-- An expiry leaves no old record exactly when it finds all of them in front. -/
theorem noneOld_expire_iff (run : ReconcilerRun) (now : OffsetDateTime) :
    (run.call (.expire now)).NoneOld now ↔ run.KeepsPending (.expire now) := by
  obtain ⟨hconfig, hsweep, -⟩ :=
    ShredReconciler.expireFrom_spec now run.reconciler.order run.reconciler run.metrics
  have hrecords := congrArg Prod.snd hsweep
  have hswept := LazyQueue.none_old_sweep_iff (run.reconciler.isOld now)
    run.reconciler.order run.reconciler.records
  rw [← hrecords] at hswept
  refine Iff.trans ?_ hswept
  unfold NoneOld
  simp only [call, ShredReconciler.expire, ShredReconciler.isOld, hconfig]

theorem keepsPending_iff (run : ReconcilerRun) (c : ReconcilerCall) :
    run.KeepsPending c ↔
      run.ReplacesNone c ∧ ∀ now, c = .expire now → (run.call (.expire now)).NoneOld now := by
  cases c with
  | recordTentative event => simp [KeepsPending, ReplacesNone]
  | reconcileCanonical event => simp [KeepsPending, ReplacesNone]
  | expire now =>
      rw [← noneOld_expire_iff]
      simp only [ReplacesNone, true_and, ReconcilerCall.expire.injEq, forall_eq']

/-! ## Runs -/

/-- The balance holds in every state, and no record is old after an expiry, exactly when every
call meets the condition. -/
theorem conserves_run_iff (config : ReconciliationConfig) (calls : List ReconcilerCall) :
    ((∀ before after, calls = before ++ after →
        (before.foldl call { reconciler := .new config }).Conserves) ∧
      ∀ before now after, calls = before ++ .expire now :: after →
        ((before.foldl call { reconciler := .new config }).call (.expire now)).NoneOld now) ↔
      Runs.Along call KeepsPending { reconciler := .new config } calls := by
  have hnew : ReconcilerRun.Conserves { reconciler := .new config } := rfl
  rw [Runs.forall_reached_iff_along (I := Conserves) (fun _ c h _ => conserves_call_iff h c) hnew
    (Runs.along_inputs_iff.mpr fun _ _ => trivial), Runs.along_iff, Runs.along_iff]
  simp only [keepsPending_iff]
  constructor
  · rintro ⟨hreplaces, hold⟩ before c after hcalls
    refine ⟨hreplaces before c after hcalls, ?_⟩
    rintro now rfl
    exact hold before now after hcalls
  · intro h
    refine ⟨fun before c after hcalls => (h before c after hcalls).1, ?_⟩
    intro before now after hcalls
    exact (h before (.expire now) after hcalls).2 now rfl

/-! ### Records lost and records kept -/

/-- A tentative buy of a transaction, received at a time. -/
def tentativeBuyAt (signature : String) (receivedAt : OffsetDateTime) : NormalizedEvent :=
  { info :=
      { eventId := ⟨"tentative"⟩
        source := .shredTentative
        canonicality := .tentative
        slot := 1
        receivedAtWallTime := receivedAt
        signature := some signature }
    payload := .pumpBuy
      { mint := ⟨"mint"⟩
        buyer := ⟨"buyer"⟩
        quoteIn := 1
        tokenOut := 100
        effectivePrice := 1 / 100 } }

/-- Two events of one transaction leave one record; and an old record stays behind the stale
queue entry of a transaction that was reconciled and recorded again. -/
theorem pending_records_lost_and_kept :
    (¬ ∀ (config : ReconciliationConfig) (calls : List ReconcilerCall),
      (calls.foldl call { reconciler := .new config }).Conserves) ∧
    ¬ ∀ (config : ReconciliationConfig) (calls : List ReconcilerCall) (now : OffsetDateTime),
      ((calls.foldl call { reconciler := .new config }).call (.expire now)).NoneOld now := by
  constructor
  · intro h
    have hconserves := h {} [.recordTentative (tentativeBuyAt "signature" 0),
      .recordTentative (tentativeBuyAt "signature" 0)]
    unfold Conserves at hconserves
    revert hconserves
    decide +kernel
  · intro h
    have hold := h {} [.recordTentative (tentativeBuyAt "early" 0),
      .reconcileCanonical (tentativeBuyAt "early" 0),
      .recordTentative (tentativeBuyAt "late" 0),
      .recordTentative (tentativeBuyAt "early" (Duration.seconds 6))] (Duration.seconds 6)
      "sig:late" { insertedAt := 0, signature := some "late", key := "sig:late" }
      (by decide +kernel)
    revert hold
    decide +kernel

end ReconcilerRun

end PumpLaunchTrader
