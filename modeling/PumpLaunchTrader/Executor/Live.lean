import PumpLaunchTrader.Decision.Exits
import PumpLaunchTrader.Model.Executor
import PumpLaunchTrader.RpcBudget.Safety

/-! # Live orders

An order is sent when every check lets it through, in the state that the calls before it left.
Each order that is accepted has one entry in the ledger of the RPC budget and costs one credit
of the day, so the limits of the budget bound the orders of a run. -/

namespace PumpLaunchTrader

namespace LiveExecutor

/-! ## One order -/

/-- What the checks before the budget ask of an order. -/
structure Guarded (executor : LiveExecutor) (order : LiveOrder) : Prop where
  liveEnabled : executor.execution.liveEnabled = true
  notKilled : executor.killSwitch = false
  executable : order.decision.decisionEvent.decision = .enterLive ∨
    order.decision.decisionEvent.decision = .enterPaper
  fresh : order.now - order.decision.decisionEvent.noLookaheadTimestamp ≤ Duration.seconds 3
  fee : executor.estimatedFee order ≤ executor.execution.maxFeeQuote
  signed : (executor.signer.signMessage order.token.mint.text.toUTF8).isOk = true

/-- A guarded order is settled by the budget, which is all that it changes. -/
theorem submit_of_guarded {self : LiveExecutor} {order : LiveOrder} (h : self.Guarded order) :
    (self.submit order).1 =
        { self with rpcBudget := (self.rpcBudget.checkAndRecord (sendRequest order)).1 } ∧
      (self.submit order).2.isOk =
        (self.rpcBudget.checkAndRecord (sendRequest order)).2.isOk := by
  obtain ⟨hlive, hkill, hexecutable, hfresh, hfee, hsigned⟩ := h
  unfold submit
  rw [if_neg (not_not.mpr hlive), if_neg (by simpa using hkill),
    if_neg (not_not.mpr hexecutable), if_neg (not_lt.mpr hfresh), if_neg (not_lt.mpr hfee)]
  cases hsign : self.signer.signMessage order.token.mint.text.toUTF8 with
  | error error =>
      rw [hsign] at hsigned
      cases hsigned
  | ok signature =>
      cases hcheck : self.rpcBudget.checkAndRecord (sendRequest order) with
      | mk rpcBudget result =>
          cases result with
          | error error => exact ⟨rfl, rfl⟩
          | ok entry => exact ⟨rfl, rfl⟩

/-- Any other order is refused without a trace. -/
theorem submit_of_not_guarded {self : LiveExecutor} {order : LiveOrder}
    (h : ¬ self.Guarded order) :
    (self.submit order).1 = self ∧ (self.submit order).2.isOk = false := by
  unfold submit
  by_cases hlive : self.execution.liveEnabled = true
  swap
  · rw [if_pos hlive]
    exact ⟨rfl, rfl⟩
  rw [if_neg (not_not.mpr hlive)]
  by_cases hkill : self.killSwitch = true
  · rw [if_pos hkill]
    exact ⟨rfl, rfl⟩
  rw [if_neg hkill]
  by_cases hexecutable : order.decision.decisionEvent.decision = .enterLive ∨
      order.decision.decisionEvent.decision = .enterPaper
  swap
  · rw [if_pos hexecutable]
    exact ⟨rfl, rfl⟩
  rw [if_neg (not_not.mpr hexecutable)]
  by_cases hstale : Duration.seconds 3 <
      order.now - order.decision.decisionEvent.noLookaheadTimestamp
  · rw [if_pos hstale]
    exact ⟨rfl, rfl⟩
  rw [if_neg hstale]
  by_cases hfee : self.execution.maxFeeQuote < self.estimatedFee order
  · rw [if_pos hfee]
    exact ⟨rfl, rfl⟩
  rw [if_neg hfee]
  cases hsign : self.signer.signMessage order.token.mint.text.toUTF8 with
  | error error => exact ⟨rfl, rfl⟩
  | ok signature =>
      exact absurd ⟨hlive, by simpa using hkill, hexecutable, not_lt.mp hstale, not_lt.mp hfee,
        by rw [hsign]; rfl⟩ h

theorem isOk_submit_iff (self : LiveExecutor) (order : LiveOrder) :
    (self.submit order).2.isOk = true ↔ self.Guarded order ∧
      (self.rpcBudget.checkAndRecord (sendRequest order)).2.isOk = true := by
  by_cases h : self.Guarded order
  · rw [(submit_of_guarded h).2]
    exact (and_iff_right h).symm
  · simp [(submit_of_not_guarded h).2, h]

/-! ## What one call does -/

/-- What a caller does to the executor. -/
inductive LiveCall where
  | submit (order : LiveOrder)
  | setKillSwitch (active : Bool)

def call (self : LiveExecutor) : LiveCall → LiveExecutor
  | .submit order => (self.submit order).1
  | .setKillSwitch active => self.setKillSwitch active

/-- The orders that a call gets accepted. -/
def acceptedBy (self : LiveExecutor) : LiveCall → List LiveOrder
  | .submit order => if (self.submit order).2.isOk then [order] else []
  | .setKillSwitch _ => []

/-- What no call changes. -/
def setup (self : LiveExecutor) : LiveExecutionConfig × Simulator × Signer × Bool :=
  (self.execution, self.simulator, self.signer, self.dryRun)

theorem setup_call (self : LiveExecutor) (c : LiveCall) : (self.call c).setup = self.setup := by
  cases c with
  | submit order =>
      by_cases h : self.Guarded order
      · rw [call, (submit_of_guarded h).1]
        rfl
      · rw [call, (submit_of_not_guarded h).1]
  | setKillSwitch active => rfl

/-- The checks before the budget read nothing else but the kill switch. -/
theorem Guarded.congr {self other : LiveExecutor} {order : LiveOrder}
    (hsetup : self.setup = other.setup) (hkill : self.killSwitch = other.killSwitch)
    (h : self.Guarded order) : other.Guarded order := by
  simp only [setup, Prod.mk.injEq] at hsetup
  obtain ⟨hexecution, hsimulator, hsigner, -⟩ := hsetup
  refine ⟨hexecution ▸ h.liveEnabled, hkill ▸ h.notKilled, h.executable, h.fresh, ?_,
    hsigner ▸ h.signed⟩
  have hfee := h.fee
  unfold estimatedFee at hfee ⊢
  rwa [← hexecution, ← hsimulator]

/-- The kill switch after a call. -/
def killSwitchAfter (killed : Bool) : LiveCall → Bool
  | .submit _ => killed
  | .setKillSwitch active => active

theorem killSwitch_call (self : LiveExecutor) (c : LiveCall) :
    (self.call c).killSwitch = killSwitchAfter self.killSwitch c := by
  cases c with
  | submit order =>
      by_cases h : self.Guarded order
      · rw [call, (submit_of_guarded h).1]
        rfl
      · rw [call, (submit_of_not_guarded h).1]
        rfl
  | setKillSwitch active => rfl

/-- What a call leaves in the budget: a manager that keeps its limits and its configuration,
with an allowed entry and a credit less for each order that it gets accepted. -/
structure Spends (before after : RpcBudgetManager) (orders : List LiveOrder) : Prop where
  config : after.config = before.config
  withinLimits : before.WithinLimits → after.WithinLimits
  entries : ∃ entries, after.ledger = before.ledger ++ entries ∧
    (entries.filter RpcLedgerEntry.allowed).map RpcLedgerEntry.request = orders.map sendRequest
  daily : before.config.dailyCreditLimit < 2 ^ 64 - 1 →
    after.dailyUsed = before.dailyUsed + orders.length

theorem Spends.refl (budget : RpcBudgetManager) : Spends budget budget [] :=
  ⟨rfl, id, ⟨[], by simp, rfl⟩, fun _ => rfl⟩

theorem Spends.trans {first second third : RpcBudgetManager} {orders more : List LiveOrder}
    (h : Spends first second orders) (hmore : Spends second third more) :
    Spends first third (orders ++ more) := by
  obtain ⟨entries, hledger, hallowed⟩ := h.entries
  obtain ⟨others, hothers, hmoreAllowed⟩ := hmore.entries
  refine ⟨hmore.config.trans h.config, hmore.withinLimits ∘ h.withinLimits,
    ⟨entries ++ others, ?_, ?_⟩, fun hlimit => ?_⟩
  · rw [hothers, hledger, List.append_assoc]
  · rw [List.filter_append, List.map_append, hallowed, hmoreAllowed, List.map_append]
  · have hsecond := hmore.daily (h.config ▸ hlimit)
    have hfirst := h.daily hlimit
    rw [hsecond, hfirst, List.length_append, add_assoc]

/-- The check of an order charges one credit when it passes. -/
theorem spends_checked {self next : RpcBudgetManager} {order : LiveOrder}
    {result : Except RpcBudgetError RpcLedgerEntry}
    (h : self.Checked (sendRequest order) next result) :
    Spends self next (if result.isOk then [order] else []) := by
  obtain ⟨entry, hledger, hrequest, -, hallowed⟩ := h.ledger
  refine ⟨h.config, h.withinLimits, ⟨[entry], hledger, ?_⟩, fun hlimit => ?_⟩
  · cases hok : result.isOk with
    | true => simp [List.filter, hallowed, hok, hrequest]
    | false => simp [List.filter, hallowed, hok]
  · cases h with
    | denied reason error => rfl
    | streamed remaining hstream => cases hstream
    | charged remaining hcost hdaily =>
        have hnext : self.nextDailyUsed (sendRequest order) = self.dailyUsed + 1 := by
          simp only [RpcBudgetManager.nextDailyUsed, saturatingAdd, sendRequest] at hdaily ⊢
          omega
        exact hnext

theorem spends_call (self : LiveExecutor) (c : LiveCall) :
    Spends self.rpcBudget (self.call c).rpcBudget (self.acceptedBy c) := by
  cases c with
  | submit order =>
      by_cases h : self.Guarded order
      · obtain ⟨hnext, hok⟩ := submit_of_guarded h
        rw [call, acceptedBy, hnext, hok]
        exact spends_checked (self.rpcBudget.checked (sendRequest order))
      · obtain ⟨hnext, hok⟩ := submit_of_not_guarded h
        rw [call, acceptedBy, hnext, hok]
        exact .refl _
  | setKillSwitch active => exact .refl _

/-! ## Runs -/

/-- The orders that a run gets accepted, in order. -/
def accepted (self : LiveExecutor) : List LiveCall → List LiveOrder
  | [] => []
  | c :: calls => self.acceptedBy c ++ (self.call c).accepted calls

theorem spends_run (self : LiveExecutor) (calls : List LiveCall) :
    Spends self.rpcBudget (calls.foldl call self).rpcBudget (self.accepted calls) := by
  induction calls generalizing self with
  | nil => exact .refl _
  | cons c calls ih => exact (self.spends_call c).trans (ih (self.call c))

theorem killSwitch_run (self : LiveExecutor) (calls : List LiveCall) :
    (calls.foldl call self).killSwitch = calls.foldl killSwitchAfter self.killSwitch := by
  induction calls generalizing self with
  | nil => rfl
  | cons c calls ih => rw [List.foldl_cons, List.foldl_cons, ih, killSwitch_call]

/-- In any run of orders and switches over a budget of any past, an order is accepted exactly
when it is guarded by the configuration and the last switch before it and the budget lets its
request through. The ledger gains one allowed entry for each accepted order, in order, and the
day one credit, so no run gets more orders accepted than the limit of the day less the reserve
leaves. -/
theorem live_orders_guarded (execution : LiveExecutionConfig) (simulator : Simulator)
    (signer : Signer) (dryRun : Bool) (config : RpcBudgetConfig)
    (streamOnly : StreamOnlyConfig) (past : List RpcBudgetManager.BudgetCall)
    (hlimit : config.dailyCreditLimit < 2 ^ 64 - 1) (calls : List LiveCall) :
    let start := new execution simulator signer
      (past.foldl RpcBudgetManager.call (.new config streamOnly)) dryRun
    (∀ before order after, calls = before ++ .submit order :: after →
      (((before.foldl call start).submit order).2.isOk = true ↔
        Guarded { start with killSwitch := before.foldl killSwitchAfter false } order ∧
          ((before.foldl call start).rpcBudget.checkAndRecord
            (sendRequest order)).2.isOk = true)) ∧
      (∃ entries, (calls.foldl call start).rpcBudget.ledger = start.rpcBudget.ledger ++ entries ∧
        (entries.filter RpcLedgerEntry.allowed).map RpcLedgerEntry.request =
          (start.accepted calls).map sendRequest) ∧
      (calls.foldl call start).rpcBudget.dailyUsed =
        start.rpcBudget.dailyUsed + (start.accepted calls).length ∧
      (start.accepted calls ≠ [] → (start.accepted calls).length + start.rpcBudget.dailyUsed +
        config.emergencyReserve ≤ config.dailyCreditLimit) := by
  intro start
  have hconfig : start.rpcBudget.config = config := Runs.reading_foldl_of_kept
    RpcBudgetManager.call RpcBudgetManager.config RpcBudgetManager.config_call
    (.new config streamOnly) past
  have hspends := start.spends_run calls
  have hdaily := hspends.daily (hconfig ▸ hlimit)
  refine ⟨fun before order after _ => ?_, hspends.entries, hdaily, fun hsome => ?_⟩
  · have hsetup := Runs.reading_foldl_of_kept call setup setup_call start before
    have hkill := start.killSwitch_run before
    rw [isOk_submit_iff]
    refine and_congr_left fun _ => ⟨?_, ?_⟩
    · exact Guarded.congr hsetup hkill
    · exact Guarded.congr hsetup.symm hkill.symm
  · have hlimits := hspends.withinLimits (RpcBudgetManager.withinLimits_calls
      (RpcBudgetManager.withinLimits_new config streamOnly) past)
    have hreserve := hlimits.reserve
    have hday := hlimits.daily
    rw [hspends.config, hconfig, hdaily] at hreserve
    rw [hspends.config, hconfig, hdaily] at hday
    have hpos := List.length_pos_iff.mpr hsome
    omega

/-! ## A concrete run -/

def sampleSigner : Signer where
  publicKey := "signer"
  signMessage message := .ok message

/-- Live execution with room for the fees of an order. -/
def sampleExecution : LiveExecutionConfig :=
  { liveEnabled := true
    paperEnabled := true
    maxDailyLossQuote := 1
    maxFeeQuote := 1 }

/-- An order to enter, as old as it may be. -/
def sampleOrder : LiveOrder :=
  let outcome := DecisionEngine.sampleEngine.evaluate DecisionEngine.triggeredToken
    DecisionEngine.poorFeatures (DecisionEngine.calmRisk "mint") none "config" "v1" unixEpoch ""
  { decision :=
      { outcome with
        decisionEvent := { outcome.decisionEvent with decision := .enterLive } }
    token := DecisionEngine.triggeredToken
    configHash := "config"
    runId := "run"
    now := unixEpoch + Duration.seconds 3 }

/-- A budget of ten credits, two of them in reserve, with execution allowed. -/
def sampleBudget : RpcBudgetManager :=
  .new
    { dailyCreditLimit := 10
      monthlyCreditLimit := 10
      emergencyReserve := 2
      denyWhenUnknownLiveState := true }
    { allowExecutionRpc := true
      allowSendRpc := true }

/-- Orders around a kill switch. -/
def sampleCalls : List LiveCall :=
  [.submit sampleOrder, .setKillSwitch true, .submit sampleOrder, .setKillSwitch false,
    .submit sampleOrder]

theorem live_orders_guarded_sample :
    ((new sampleExecution {} sampleSigner sampleBudget false).accepted sampleCalls).length +
      0 + 2 ≤ 10 :=
  (live_orders_guarded sampleExecution {} sampleSigner false sampleBudget.config
    sampleBudget.streamOnly [] (by decide) sampleCalls).2.2.2
    (List.ne_nil_of_length_pos (by decide +kernel))

end LiveExecutor

end PumpLaunchTrader
