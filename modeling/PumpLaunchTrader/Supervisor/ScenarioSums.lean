import PumpLaunchTrader.Lib.Runs
import PumpLaunchTrader.Model.Summary
import PumpLaunchTrader.Supervisor.FinalSweep

/-! # What a replay of several scenarios reports

Every additive counter of the health is merged child by child, then refreshed once more.
The refresh of the parent reads its own manager and ledger, which no child has written. -/

namespace PumpLaunchTrader

/-! ## Counters -/

/-- The additive counters of `RuntimeHealth` that count. -/
inductive HealthCounter where
  | eventsProcessed | deshredEventsReceived | deshredTransactionsDecoded
  | deshredTentativeSells | deshredMaliciousWarnings | deshredEmergencyExitsArmed
  | deshredEmergencyExitsTriggered | deshredConfirmedExecuted | deshredFalsePositive
  | rawShredTentativeSells | mockEarlyIntentTentativeSells | fixtureEarlyIntentTentativeSells
  | replayEarlyIntentTentativeSells | sourceDedupCount
  | shredTentativeSells | shredMaliciousSellWarnings | shredEmergencyExitsArmed
  | shredEmergencyExitsTriggered | shredConfirmedExecuted | shredConfirmedFailed
  | shredNotSeenWithinTtl | shredReorged | shredDecodeMismatch | shredAccountEffectConfirmed
  | shredSellFalsePositive
  deriving DecidableEq

/-- The additive counters of `RuntimeHealth` that add quote amounts. -/
inductive HealthAmount where
  | deshredSavedLossQuote | deshredOpportunityCostQuote | paperPnl | feeDrag | slippageDrag
  | latencyDrag | shredSavedLossQuote | shredOpportunityCostQuote
  deriving DecidableEq

namespace RuntimeHealth

def count (self : RuntimeHealth) : HealthCounter → ℕ
  | .eventsProcessed => self.eventsProcessed
  | .deshredEventsReceived => self.deshredEventsReceived
  | .deshredTransactionsDecoded => self.deshredTransactionsDecoded
  | .deshredTentativeSells => self.deshredTentativeSellsTotal
  | .deshredMaliciousWarnings => self.deshredMaliciousWarningsTotal
  | .deshredEmergencyExitsArmed => self.deshredEmergencyExitsArmedTotal
  | .deshredEmergencyExitsTriggered => self.deshredEmergencyExitsTriggeredTotal
  | .deshredConfirmedExecuted => self.deshredConfirmedExecutedTotal
  | .deshredFalsePositive => self.deshredFalsePositiveTotal
  | .rawShredTentativeSells => self.rawShredTentativeSellsTotal
  | .mockEarlyIntentTentativeSells => self.mockEarlyIntentTentativeSellsTotal
  | .fixtureEarlyIntentTentativeSells => self.fixtureEarlyIntentTentativeSellsTotal
  | .replayEarlyIntentTentativeSells => self.replayEarlyIntentTentativeSellsTotal
  | .sourceDedupCount => self.sourceDedupCount
  | .shredTentativeSells => self.shredTentativeSellsTotal
  | .shredMaliciousSellWarnings => self.shredMaliciousSellWarningsTotal
  | .shredEmergencyExitsArmed => self.shredEmergencyExitsArmedTotal
  | .shredEmergencyExitsTriggered => self.shredEmergencyExitsTriggeredTotal
  | .shredConfirmedExecuted => self.shredConfirmedExecutedTotal
  | .shredConfirmedFailed => self.shredConfirmedFailedTotal
  | .shredNotSeenWithinTtl => self.shredNotSeenWithinTtlTotal
  | .shredReorged => self.shredReorgedTotal
  | .shredDecodeMismatch => self.shredDecodeMismatchTotal
  | .shredAccountEffectConfirmed => self.shredAccountEffectConfirmedTotal
  | .shredSellFalsePositive => self.shredSellFalsePositiveTotal

def amount (self : RuntimeHealth) : HealthAmount → Decimal
  | .deshredSavedLossQuote => self.deshredSavedLossQuoteTotal
  | .deshredOpportunityCostQuote => self.deshredOpportunityCostQuoteTotal
  | .paperPnl => self.paperPnl
  | .feeDrag => self.feeDrag
  | .slippageDrag => self.slippageDrag
  | .latencyDrag => self.latencyDrag
  | .shredSavedLossQuote => self.shredSavedLossQuoteTotal
  | .shredOpportunityCostQuote => self.shredOpportunityCostQuoteTotal

/-- The count of a pair of sources, 0 for a pair without an entry. -/
def dedupPairCount (self : RuntimeHealth) (pair : String) : ℕ :=
  (self.earlyIntentDedupPairs.lookup pair).getD 0

/-- Every additive counter is the sum of the same counter over the children. -/
structure ReportsSums (total : RuntimeHealth) (children : List RuntimeHealth) : Prop where
  counts : ∀ counter, total.count counter = (children.map fun child => child.count counter).sum
  amounts : ∀ amount, total.amount amount = (children.map fun child => child.amount amount).sum
  pairs : ∀ pair,
    total.dedupPairCount pair = (children.map fun child => child.dedupPairCount pair).sum

end RuntimeHealth

/-- How a replay treats a counter. -/
inductive CounterFate where
  /-- Cleared, merged and reported. -/
  | merged
  /-- Merged, but never cleared before. -/
  | carried
  /-- Recomputed by the final refresh from what the parent itself has seen. -/
  | recomputed
  deriving DecidableEq

/-- What a replay reports of a counter that the parent has carried to some value, and of which
the children have a total. -/
def CounterFate.reported {α : Type} [Zero α] [Add α] (fate : CounterFate) (childless : Bool)
    (carried total : α) : α :=
  match fate with
  | .merged => total
  | .carried => if childless then 0 else carried + total
  | .recomputed => 0

/-- The total is reported when nothing is carried over and nothing is lost to the refresh. -/
theorem CounterFate.reported_eq_iff {α : Type} [AddMonoid α] [IsRightCancelAdd α]
    (fate : CounterFate) {childless : Bool} (carried : α) {total : α}
    (htotal : childless = true → total = 0) :
    fate.reported childless carried total = total ↔
      (childless = false → fate = .carried → carried = 0) ∧
        (fate = .recomputed → total = 0) := by
  cases fate with
  | merged => simp [reported]
  | carried =>
      cases childless with
      | true => simp [reported, htotal rfl]
      | false => simp [reported]
  | recomputed => simp [reported, eq_comm]

def HealthCounter.fate : HealthCounter → CounterFate
  | .eventsProcessed | .deshredEventsReceived | .deshredTransactionsDecoded => .merged
  | .deshredTentativeSells | .deshredMaliciousWarnings | .deshredEmergencyExitsArmed
  | .deshredEmergencyExitsTriggered | .deshredConfirmedExecuted | .deshredFalsePositive
  | .rawShredTentativeSells | .mockEarlyIntentTentativeSells
  | .fixtureEarlyIntentTentativeSells | .replayEarlyIntentTentativeSells
  | .sourceDedupCount => .recomputed
  | .shredTentativeSells | .shredMaliciousSellWarnings | .shredEmergencyExitsArmed
  | .shredEmergencyExitsTriggered | .shredConfirmedExecuted | .shredConfirmedFailed
  | .shredNotSeenWithinTtl | .shredReorged | .shredDecodeMismatch
  | .shredAccountEffectConfirmed | .shredSellFalsePositive => .carried

def HealthAmount.fate : HealthAmount → CounterFate
  | .paperPnl => .merged
  | .deshredSavedLossQuote | .deshredOpportunityCostQuote | .feeDrag | .slippageDrag
  | .latencyDrag => .recomputed
  | .shredSavedLossQuote | .shredOpportunityCostQuote => .carried

/-! ## Merging -/

namespace RuntimeHealth

@[simp] theorem count_merge (self child : RuntimeHealth) (counter : HealthCounter) :
    (self.merge child).count counter = self.count counter + child.count counter := by
  cases counter <;> rfl

/-- Amounts that the refresh does not recompute are added. -/
theorem amount_merge (self child : RuntimeHealth) {amount : HealthAmount}
    (h : amount.fate ≠ .recomputed) :
    (self.merge child).amount amount = self.amount amount + child.amount amount := by
  cases amount <;> first | rfl | exact absurd rfl h

/-- The reset clears what is not carried over. -/
theorem count_reset (self : RuntimeHealth) (counter : HealthCounter) :
    self.reset.count counter = if counter.fate = .carried then self.count counter else 0 := by
  cases counter <;> rfl

theorem amount_reset (self : RuntimeHealth) (amount : HealthAmount) :
    self.reset.amount amount = if amount.fate = .carried then self.amount amount else 0 := by
  cases amount <;> rfl

end RuntimeHealth

namespace MonitoredSupervisor

/-- The health of each child when its run has ended. -/
def childHealths (children : List MonitoredSupervisor) : List RuntimeHealth :=
  children.map fun child => child.refreshHealth.health

/-- One iteration of the loop over the scenario groups. -/
def mergeChild (self child : MonitoredSupervisor) : MonitoredSupervisor :=
  self.mergeSummary child.refreshHealth.summary

/-- The parent when every child has been merged. -/
def merged (self : MonitoredSupervisor) (children : List MonitoredSupervisor) :
    MonitoredSupervisor :=
  children.foldl mergeChild self.resetForNextRun

theorem replayChildren_eq (self : MonitoredSupervisor) (children : List MonitoredSupervisor) :
    self.replayChildren children = (self.merged children).refreshHealth := rfl

/-- The merge writes neither the manager nor the drags of the ledger. -/
theorem tentativeSellManager_merged (self : MonitoredSupervisor)
    (children : List MonitoredSupervisor) :
    (self.merged children).tentativeSellManager = self.resetForNextRun.tentativeSellManager :=
  Runs.reading_foldl_of_kept mergeChild (fun parent => parent.tentativeSellManager)
    (fun _ _ => rfl) _ children

theorem drags_merged (self : MonitoredSupervisor) (children : List MonitoredSupervisor) :
    let ledger := (self.merged children).paperExecutor.ledger
    ledger.feeDrag = 0 ∧ ledger.slippageDrag = 0 ∧ ledger.latencyDrag = 0 := by
  have hdrags := Runs.reading_foldl_of_kept mergeChild
    (fun parent =>
      let ledger := parent.paperExecutor.ledger
      (ledger.feeDrag, ledger.slippageDrag, ledger.latencyDrag))
    (fun _ _ => rfl) self.resetForNextRun children
  simp only [Prod.mk.injEq] at hdrags
  exact hdrags

theorem closedPnl_merged (self : MonitoredSupervisor) (children : List MonitoredSupervisor) :
    (self.merged children).paperExecutor.ledger.closedPnl =
      ((childHealths children).map fun child => child.amount .paperPnl).sum := by
  have hpnl := Runs.reading_foldl mergeChild
    (fun parent => parent.paperExecutor.ledger.closedPnl)
    (fun child => child.refreshHealth.health.paperPnl) (fun _ _ => rfl)
    self.resetForNextRun children
  rw [childHealths, List.map_map]
  exact hpnl.trans (zero_add _)

theorem isSome_aggregatedSnapshot_merged (self : MonitoredSupervisor)
    (children : List MonitoredSupervisor) :
    (self.merged children).aggregatedSnapshot.isSome = !children.isEmpty := by
  unfold merged
  cases children using List.reverseRecOn with
  | nil => rfl
  | append_singleton children child =>
      rw [List.foldl_append]
      cases children <;> rfl

theorem count_merged (self : MonitoredSupervisor) (children : List MonitoredSupervisor)
    (counter : HealthCounter) :
    (self.merged children).health.count counter =
      (if counter.fate = .carried then self.health.count counter else 0) +
        ((childHealths children).map fun child => child.count counter).sum := by
  rw [← RuntimeHealth.count_reset, childHealths, List.map_map]
  exact Runs.reading_foldl mergeChild (fun parent => parent.health.count counter) _
    (fun _ _ => RuntimeHealth.count_merge _ _ counter) _ children

theorem amount_merged (self : MonitoredSupervisor) (children : List MonitoredSupervisor)
    {amount : HealthAmount} (h : amount.fate ≠ .recomputed) :
    (self.merged children).health.amount amount =
      (if amount.fate = .carried then self.health.amount amount else 0) +
        ((childHealths children).map fun child => child.amount amount).sum := by
  rw [← RuntimeHealth.amount_reset, childHealths, List.map_map]
  exact Runs.reading_foldl mergeChild (fun parent => parent.health.amount amount) _
    (fun _ _ => RuntimeHealth.amount_merge _ _ h) _ children

/-! ## The final refresh -/

/-- The refresh keeps what is merged and, in an aggregate, what is carried. -/
theorem count_refreshHealth (self : MonitoredSupervisor) (counter : HealthCounter)
    {earlyIntent : EarlyIntentConfig} {shredExit : ShredExitConfig}
    {stored : Option PersistedShredExitCalibration}
    (hmanager : self.tentativeSellManager = .new earlyIntent shredExit stored) :
    self.refreshHealth.health.count counter =
      match counter.fate with
      | .merged => self.health.count counter
      | .carried => if self.aggregatedSnapshot.isSome then self.health.count counter else 0
      | .recomputed => 0 := by
  unfold refreshHealth
  rw [hmanager]
  cases counter <;> cases self.aggregatedSnapshot.isSome <;> rfl

theorem amount_refreshHealth (self : MonitoredSupervisor) (amount : HealthAmount)
    {earlyIntent : EarlyIntentConfig} {shredExit : ShredExitConfig}
    {stored : Option PersistedShredExitCalibration}
    (hmanager : self.tentativeSellManager = .new earlyIntent shredExit stored)
    (hdrags : let ledger := self.paperExecutor.ledger
      ledger.feeDrag = 0 ∧ ledger.slippageDrag = 0 ∧ ledger.latencyDrag = 0) :
    self.refreshHealth.health.amount amount =
      match amount.fate with
      | .merged => self.paperExecutor.ledger.closedPnl
      | .carried => if self.aggregatedSnapshot.isSome then self.health.amount amount else 0
      | .recomputed => 0 := by
  obtain ⟨hfee, hslippage, hlatency⟩ := hdrags
  unfold refreshHealth
  rw [hmanager]
  cases amount with
  | feeDrag =>
      rw [← hfee]
      cases self.aggregatedSnapshot.isSome <;> rfl
  | slippageDrag =>
      rw [← hslippage]
      cases self.aggregatedSnapshot.isSome <;> rfl
  | latencyDrag =>
      rw [← hlatency]
      cases self.aggregatedSnapshot.isSome <;> rfl
  | _ => cases self.aggregatedSnapshot.isSome <;> rfl

theorem dedupPairCount_refreshHealth (self : MonitoredSupervisor) (pair : String)
    {earlyIntent : EarlyIntentConfig} {shredExit : ShredExitConfig}
    {stored : Option PersistedShredExitCalibration}
    (hmanager : self.tentativeSellManager = .new earlyIntent shredExit stored) :
    self.refreshHealth.health.dedupPairCount pair = 0 := by
  unfold refreshHealth
  rw [hmanager]
  cases self.aggregatedSnapshot.isSome <;> rfl

/-! ## Sums of the children -/

/-- When the summary of a replay is right: nothing is carried over from an earlier run, and
the children have nothing to report where the final refresh recomputes. -/
structure NothingLost (parent : MonitoredSupervisor) (children : List MonitoredSupervisor) :
    Prop where
  carriedCounts : children ≠ [] → ∀ counter : HealthCounter, counter.fate = .carried →
    parent.health.count counter = 0
  carriedAmounts : children ≠ [] → ∀ amount : HealthAmount, amount.fate = .carried →
    parent.health.amount amount = 0
  counts : ∀ child ∈ childHealths children, ∀ counter : HealthCounter,
    counter.fate = .recomputed → child.count counter = 0
  amounts : ∀ amount : HealthAmount, amount.fate = .recomputed →
    ((childHealths children).map fun child => child.amount amount).sum = 0
  pairs : ∀ child ∈ childHealths children, ∀ pair, child.dedupPairCount pair = 0

theorem count_replayChildren (self : MonitoredSupervisor) (children : List MonitoredSupervisor)
    (counter : HealthCounter) :
    (self.replayChildren children).health.count counter =
      counter.fate.reported children.isEmpty (self.health.count counter)
        ((childHealths children).map fun child => child.count counter).sum := by
  rw [replayChildren_eq, count_refreshHealth _ counter (tentativeSellManager_merged self children),
    isSome_aggregatedSnapshot_merged, count_merged]
  cases hfate : counter.fate with
  | merged => simp [CounterFate.reported]
  | carried => cases children.isEmpty <;> simp [CounterFate.reported]
  | recomputed => rfl

theorem amount_replayChildren (self : MonitoredSupervisor) (children : List MonitoredSupervisor)
    (amount : HealthAmount) :
    (self.replayChildren children).health.amount amount =
      amount.fate.reported children.isEmpty (self.health.amount amount)
        ((childHealths children).map fun child => child.amount amount).sum := by
  rw [replayChildren_eq, amount_refreshHealth _ amount (tentativeSellManager_merged self children)
    (drags_merged self children), isSome_aggregatedSnapshot_merged]
  cases hfate : amount.fate with
  | merged =>
      have hpnl : amount = .paperPnl := by
        cases amount <;> first | rfl | cases hfate
      subst hpnl
      exact closedPnl_merged self children
  | carried =>
      rw [amount_merged _ _ (by simp [hfate]), hfate]
      cases children.isEmpty <;> simp [CounterFate.reported]
  | recomputed => rfl

theorem dedupPairCount_replayChildren (self : MonitoredSupervisor)
    (children : List MonitoredSupervisor) (pair : String) :
    (self.replayChildren children).health.dedupPairCount pair = 0 := by
  rw [replayChildren_eq]
  exact dedupPairCount_refreshHealth _ pair (tentativeSellManager_merged self children)

/-- A count is reported when it is not carried over and, if it is recomputed, no child has
counted. -/
theorem count_reported_iff (self : MonitoredSupervisor) (children : List MonitoredSupervisor)
    (counter : HealthCounter) :
    (self.replayChildren children).health.count counter =
        ((childHealths children).map fun child => child.count counter).sum ↔
      (children ≠ [] → counter.fate = .carried → self.health.count counter = 0) ∧
        (counter.fate = .recomputed →
          ∀ child ∈ childHealths children, child.count counter = 0) := by
  have hzero : ((childHealths children).map fun child => child.count counter).sum = 0 ↔
      ∀ child ∈ childHealths children, child.count counter = 0 := by
    rw [List.sum_eq_zero_iff, List.forall_mem_map]
  rw [← hzero, count_replayChildren, CounterFate.reported_eq_iff, List.isEmpty_eq_false_iff]
  intro hempty
  simp [List.isEmpty_iff.mp hempty, childHealths]

theorem amount_reported_iff (self : MonitoredSupervisor) (children : List MonitoredSupervisor)
    (amount : HealthAmount) :
    (self.replayChildren children).health.amount amount =
        ((childHealths children).map fun child => child.amount amount).sum ↔
      (children ≠ [] → amount.fate = .carried → self.health.amount amount = 0) ∧
        (amount.fate = .recomputed →
          ((childHealths children).map fun child => child.amount amount).sum = 0) := by
  rw [amount_replayChildren, CounterFate.reported_eq_iff, List.isEmpty_eq_false_iff]
  intro hempty
  simp [List.isEmpty_iff.mp hempty, childHealths]

theorem pair_reported_iff (self : MonitoredSupervisor) (children : List MonitoredSupervisor)
    (pair : String) :
    (self.replayChildren children).health.dedupPairCount pair =
        ((childHealths children).map fun child => child.dedupPairCount pair).sum ↔
      ∀ child ∈ childHealths children, child.dedupPairCount pair = 0 := by
  have hzero : ((childHealths children).map fun child => child.dedupPairCount pair).sum = 0 ↔
      ∀ child ∈ childHealths children, child.dedupPairCount pair = 0 := by
    rw [List.sum_eq_zero_iff, List.forall_mem_map]
  rw [← hzero, dedupPairCount_replayChildren, eq_comm]

/-- A replay reports the sums of its scenarios exactly when nothing is lost. -/
theorem replayChildren_reportsSums_iff (self : MonitoredSupervisor)
    (children : List MonitoredSupervisor) :
    (self.replayChildren children).summary.health.ReportsSums (childHealths children) ↔
      self.NothingLost children := by
  constructor
  · intro h
    have hcounts := fun counter => (count_reported_iff self children counter).mp (h.counts counter)
    have hamounts := fun amount =>
      (amount_reported_iff self children amount).mp (h.amounts amount)
    exact
      { carriedCounts := fun hchildren counter => (hcounts counter).1 hchildren
        carriedAmounts := fun hchildren amount => (hamounts amount).1 hchildren
        counts := fun child hchild counter hfate => (hcounts counter).2 hfate child hchild
        amounts := fun amount => (hamounts amount).2
        pairs := fun child hchild pair =>
          (pair_reported_iff self children pair).mp (h.pairs pair) child hchild }
  · intro h
    exact
      { counts := fun counter => (count_reported_iff self children counter).mpr
          ⟨fun hchildren => h.carriedCounts hchildren counter,
            fun hfate child hchild => h.counts child hchild counter hfate⟩
        amounts := fun amount => (amount_reported_iff self children amount).mpr
          ⟨fun hchildren => h.carriedAmounts hchildren amount, h.amounts amount⟩
        pairs := fun pair => (pair_reported_iff self children pair).mpr
          fun child hchild => h.pairs child hchild pair }

/-! ## A replay that loses a tentative sell -/

/-- A supervisor on a fresh store. -/
def sampleParent : MonitoredSupervisor :=
  { Supervisor.new Supervisor.patientConfig {} with }

/-- The child that replays a recorded sell and a tentative one. -/
def sellingChild : MonitoredSupervisor :=
  sampleParent.scenarioChild "recorded" (fun _ => Supervisor.sampleAmbient)
    (Duration.milliseconds 20) none (Supervisor.lateTentativeSell.map Prod.snd)

/-- The tentative sell of the child is missing from the summary of the replay. -/
theorem replayChildren_loses_deshred :
    ¬ ∀ (parent : MonitoredSupervisor) (children : List MonitoredSupervisor),
        (parent.replayChildren children).summary.health.ReportsSums (childHealths children) := by
  intro h
  have hsum := (h sampleParent [sellingChild]).counts .deshredTentativeSells
  have hreported : (sampleParent.replayChildren [sellingChild]).summary.health.count
      .deshredTentativeSells = 0 := by
    decide +kernel
  have hchild : ((childHealths [sellingChild]).map fun child =>
      child.count .deshredTentativeSells).sum = 1 := by
    decide +kernel
  rw [hreported, hchild] at hsum
  cases hsum

end MonitoredSupervisor

end PumpLaunchTrader
