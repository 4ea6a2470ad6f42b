import PumpLaunchTrader.Lib.Runs
import PumpLaunchTrader.Model.RpcBudget

/-! # Budget safety

A check denies the request, lets a stream through or charges all three counters at once.
The limits, and the agreement of the counters with the ledger, are kept by each of these. With
every category forbidden, a request that is no stream is denied before any other rule is asked,
and nothing is ever charged. -/

namespace PumpLaunchTrader

theorem saturatingAdd_of_le {a b : ℕ} (h : a + b ≤ 2 ^ 64 - 1) : saturatingAdd a b = a + b := by
  unfold saturatingAdd
  omega

namespace RpcBudgetManager

/-- The credits of an entry: what an allowed request outside the streams is estimated at. -/
def creditsOf (entry : RpcLedgerEntry) : ℕ :=
  if entry.allowed ∧ ¬ entry.request.networkKind.isStream then
    entry.request.estimatedProviderCreditCost
  else 0

/-- The credits of all ledger entries. -/
def ledgerCredits (self : RpcBudgetManager) : ℕ := (self.ledger.map creditsOf).sum

/-- The three usage counters. -/
def usage (self : RpcBudgetManager) : ℕ × ℕ × KeyedMap String ℕ :=
  (self.dailyUsed, self.monthlyUsed, self.perMethodUsed)

/-! ## What a check does -/

/-- The outcomes of a check. -/
inductive Checked (self : RpcBudgetManager) (request : RpcCallRequest) :
    RpcBudgetManager → Except RpcBudgetError RpcLedgerEntry → Prop where
  | denied (reason : String) (error : RpcBudgetError) :
      Checked self request (self.recordDenial request reason) (.error error)
  | streamed (remaining : ℕ) (hstream : request.networkKind.isStream = true) :
      Checked self request
        { self with ledger := self.ledger ++ [self.allowedEntry request remaining] }
        (.ok (self.allowedEntry request remaining))
  | charged (remaining : ℕ) (hcost : request.networkKind.isStream = false)
      (hdaily : self.nextDailyUsed request ≤ self.config.dailyCreditLimit)
      (hmonthly : self.nextMonthlyUsed request ≤ self.config.monthlyCreditLimit)
      (hmethod : ∀ limit, self.config.perMethodLimits.lookup request.method = some limit →
        self.nextMethodTotal request ≤ limit)
      (hreserve : self.config.emergencyReserve ≤
        self.config.dailyCreditLimit - self.nextDailyUsed request) :
      Checked self request (self.charge request) (.ok (self.allowedEntry request remaining))

theorem checked (self : RpcBudgetManager) (request : RpcCallRequest) :
    Checked self request (self.checkAndRecord request).1 (self.checkAndRecord request).2 := by
  unfold checkAndRecord
  cases self.streamOnlyDenialReason request with
  | some reason => exact .denied reason _
  | none =>
      simp only
      by_cases hunknown : request.liveMode ∧ self.config.denyWhenUnknownLiveState ∧
          ¬ self.knownBudgetState
      · rw [if_pos hunknown]
        exact .denied _ _
      rw [if_neg hunknown]
      by_cases hreason : request.liveMode ∧ ¬ request.reason.allowedInLive
      · rw [if_pos hreason]
        exact .denied _ _
      rw [if_neg hreason]
      by_cases hstream : request.networkKind.isStream
      · rw [if_pos hstream]
        exact .streamed _ hstream
      rw [if_neg hstream]
      by_cases hdaily : self.config.dailyCreditLimit < self.nextDailyUsed request
      · rw [if_pos hdaily]
        exact .denied _ _
      rw [if_neg hdaily]
      by_cases hmonthly : self.config.monthlyCreditLimit < self.nextMonthlyUsed request
      · rw [if_pos hmonthly]
        exact .denied _ _
      rw [if_neg hmonthly]
      by_cases hmethod : (self.config.perMethodLimits.lookup request.method).any
          (· < self.nextMethodTotal request)
      · rw [if_pos hmethod]
        exact .denied _ _
      rw [if_neg hmethod]
      by_cases hreserve : self.config.dailyCreditLimit - self.nextDailyUsed request <
          self.config.emergencyReserve
      · rw [if_pos hreserve]
        exact .denied _ _
      rw [if_neg hreserve]
      refine .charged _ (by simpa using hstream) (not_lt.mp hdaily) (not_lt.mp hmonthly) ?_
        (not_lt.mp hreserve)
      intro limit hlimit
      rw [hlimit] at hmethod
      simpa using hmethod

/-- A check leaves the configuration alone. -/
theorem Checked.config {self next : RpcBudgetManager} {request : RpcCallRequest}
    {result : Except RpcBudgetError RpcLedgerEntry} (h : Checked self request next result) :
    next.config = self.config := by
  cases h <;> rfl

/-- One entry is added, whose denial is the error of the check. -/
theorem Checked.ledger {self next : RpcBudgetManager} {request : RpcCallRequest}
    {result : Except RpcBudgetError RpcLedgerEntry} (h : Checked self request next result) :
    ∃ entry, next.ledger = self.ledger ++ [entry] ∧ entry.request = request ∧
      entry.allowed = !entry.denied ∧ entry.allowed = result.isOk := by
  cases h with
  | denied reason error => exact ⟨_, rfl, rfl, rfl, rfl⟩
  | streamed remaining hstream => exact ⟨_, rfl, rfl, rfl, rfl⟩
  | charged remaining => exact ⟨_, rfl, rfl, rfl, rfl⟩

/-- Only a request that is charged moves a counter. -/
theorem Checked.usage {self next : RpcBudgetManager} {request : RpcCallRequest}
    {result : Except RpcBudgetError RpcLedgerEntry} (h : Checked self request next result)
    (hfree : result.isOk = false ∨ request.networkKind.isStream = true) :
    next.usage = self.usage := by
  cases h with
  | denied reason error => rfl
  | streamed remaining hstream => rfl
  | charged remaining hcost =>
      rcases hfree with hfree | hfree
      · cases hfree
      · rw [hcost] at hfree
        cases hfree

/-! ## Limits -/

/-- The counters keep to the limits of the configuration. -/
structure WithinLimits (manager : RpcBudgetManager) : Prop where
  daily : manager.dailyUsed ≤ manager.config.dailyCreditLimit
  monthly : manager.monthlyUsed ≤ manager.config.monthlyCreditLimit
  perMethod : ∀ method limit, manager.config.perMethodLimits.lookup method = some limit →
    (manager.perMethodUsed.lookup method).getD 0 ≤ limit
  reserve : manager.dailyUsed = 0 ∨
    manager.config.emergencyReserve ≤ manager.config.dailyCreditLimit - manager.dailyUsed

theorem withinLimits_new (config : RpcBudgetConfig) (streamOnly : StreamOnlyConfig) :
    (new config streamOnly).WithinLimits :=
  ⟨Nat.zero_le _, Nat.zero_le _, fun _ _ _ => Nat.zero_le _, Or.inl rfl⟩

theorem Checked.withinLimits {self next : RpcBudgetManager} {request : RpcCallRequest}
    {result : Except RpcBudgetError RpcLedgerEntry} (h : Checked self request next result)
    (hself : self.WithinLimits) : next.WithinLimits := by
  cases h with
  | denied reason error => exact ⟨hself.daily, hself.monthly, hself.perMethod, hself.reserve⟩
  | streamed remaining hstream =>
      exact ⟨hself.daily, hself.monthly, hself.perMethod, hself.reserve⟩
  | charged remaining hcost hdaily hmonthly hmethod hreserve =>
      refine ⟨hdaily, hmonthly, ?_, Or.inr hreserve⟩
      intro method limit hlimit
      simp only [charge]
      by_cases hother : method = request.method
      · subst hother
        rw [AList.lookup_insert]
        exact hmethod limit hlimit
      · rw [AList.lookup_insert_ne hother]
        exact hself.perMethod method limit hlimit

/-! ## Agreement with the ledger -/

/-- The counters agree with the ledger as long as its credits fit. -/
structure Accounted (manager : RpcBudgetManager) : Prop where
  daily : manager.dailyUsed = manager.ledgerCredits
  monthly : manager.monthlyUsed = manager.ledgerCredits
  perMethod : manager.perMethodUsed.values.sum = manager.ledgerCredits

theorem accounted_new (config : RpcBudgetConfig) (streamOnly : StreamOnlyConfig) :
    (new config streamOnly).Accounted :=
  ⟨rfl, rfl, rfl⟩

theorem ledgerCredits_append {self next : RpcBudgetManager} {entry : RpcLedgerEntry}
    (h : next.ledger = self.ledger ++ [entry]) :
    next.ledgerCredits = self.ledgerCredits + creditsOf entry := by
  simp [ledgerCredits, h]

/-- No method used more than all of them together. -/
theorem Accounted.lookup_le {self : RpcBudgetManager} (h : self.Accounted) (method : String) :
    (self.perMethodUsed.lookup method).getD 0 ≤ self.ledgerCredits := by
  rw [← h.perMethod, KeyedMap.sum_values_eq_lookup_add _ method]
  exact Nat.le_add_right _ _

theorem Checked.accounted {self next : RpcBudgetManager} {request : RpcCallRequest}
    {result : Except RpcBudgetError RpcLedgerEntry} (h : Checked self request next result)
    (hfits : next.ledgerCredits ≤ 2 ^ 64 - 1)
    (hself : self.ledgerCredits ≤ 2 ^ 64 - 1 → self.Accounted) : next.Accounted := by
  cases h with
  | denied reason error =>
      have hcredits : (self.recordDenial request reason).ledgerCredits = self.ledgerCredits := by
        simp [ledgerCredits, recordDenial, creditsOf]
      have hkept := hself (hcredits ▸ hfits)
      exact ⟨hcredits ▸ hkept.daily, hcredits ▸ hkept.monthly, hcredits ▸ hkept.perMethod⟩
  | streamed remaining hstream =>
      have hcredits : RpcBudgetManager.ledgerCredits
          { self with ledger := self.ledger ++ [self.allowedEntry request remaining] } =
            self.ledgerCredits := by
        rw [ledgerCredits_append rfl]
        simp [creditsOf, allowedEntry, hstream]
      have hkept := hself (hcredits ▸ hfits)
      exact ⟨hcredits ▸ hkept.daily, hcredits ▸ hkept.monthly, hcredits ▸ hkept.perMethod⟩
  | charged remaining hcost =>
      have hcredits : (self.charge request).ledgerCredits =
          self.ledgerCredits + request.estimatedProviderCreditCost := by
        rw [ledgerCredits_append rfl]
        simp [creditsOf, allowedEntry, hcost]
      rw [hcredits] at hfits
      have hbefore := hself (by omega)
      have hused := hbefore.lookup_le request.method
      refine ⟨?_, ?_, ?_⟩
      · rw [hcredits, ← hbefore.daily]
        exact saturatingAdd_of_le (by rw [hbefore.daily]; exact hfits)
      · rw [hcredits, ← hbefore.monthly]
        exact saturatingAdd_of_le (by rw [hbefore.monthly]; exact hfits)
      · have hupsert : (self.charge request).perMethodUsed =
            self.perMethodUsed.upsert request.method 0
              (· + request.estimatedProviderCreditCost) := by
          simp only [charge, KeyedMap.upsert, nextMethodTotal]
          rw [saturatingAdd_of_le (by omega)]
        rw [hupsert, KeyedMap.sum_values_upsert_add, hbefore.perMethod, hcredits]

/-! ## Runs -/

/-- What a caller does to the manager. -/
inductive BudgetCall where
  | check (request : RpcCallRequest)
  | markUnknown

def call (self : RpcBudgetManager) : BudgetCall → RpcBudgetManager
  | .check request => (self.checkAndRecord request).1
  | .markUnknown => self.markBudgetStateUnknown

theorem config_call (self : RpcBudgetManager) (c : BudgetCall) :
    (self.call c).config = self.config := by
  cases c with
  | check request => exact (self.checked request).config
  | markUnknown => rfl

theorem withinLimits_call {self : RpcBudgetManager} (h : self.WithinLimits) (c : BudgetCall) :
    (self.call c).WithinLimits := by
  cases c with
  | check request => exact (self.checked request).withinLimits h
  | markUnknown => exact ⟨h.daily, h.monthly, h.perMethod, h.reserve⟩

theorem accounted_call {self : RpcBudgetManager} (c : BudgetCall)
    (h : self.ledgerCredits ≤ 2 ^ 64 - 1 → self.Accounted) :
    (self.call c).ledgerCredits ≤ 2 ^ 64 - 1 → (self.call c).Accounted := by
  cases c with
  | check request => exact fun hfits => (self.checked request).accounted hfits h
  | markUnknown =>
      intro hfits
      exact ⟨(h hfits).daily, (h hfits).monthly, (h hfits).perMethod⟩

theorem withinLimits_calls {self : RpcBudgetManager} (h : self.WithinLimits)
    (calls : List BudgetCall) : (calls.foldl call self).WithinLimits := by
  induction calls generalizing self with
  | nil => exact h
  | cons c calls ih => exact ih (withinLimits_call h c)

theorem accounted_calls {self : RpcBudgetManager}
    (h : self.ledgerCredits ≤ 2 ^ 64 - 1 → self.Accounted) (calls : List BudgetCall) :
    (calls.foldl call self).ledgerCredits ≤ 2 ^ 64 - 1 →
      (calls.foldl call self).Accounted := by
  induction calls generalizing self with
  | nil => exact h
  | cons c calls ih => exact ih (accounted_call c h)

/-- After any calls the counters keep to the limits and to the reserve, and agree with the
ledger while its credits fit in 64 bits. The next check adds one entry, and moves a counter
only when it allows a request outside the streams. -/
theorem budget_safety (config : RpcBudgetConfig) (streamOnly : StreamOnlyConfig)
    (calls : List BudgetCall) :
    let reached := calls.foldl call (new config streamOnly)
    (reached.dailyUsed ≤ config.dailyCreditLimit ∧
        reached.monthlyUsed ≤ config.monthlyCreditLimit ∧
        (∀ method limit, config.perMethodLimits.lookup method = some limit →
          (reached.perMethodUsed.lookup method).getD 0 ≤ limit) ∧
        (reached.dailyUsed = 0 ∨
          config.emergencyReserve ≤ config.dailyCreditLimit - reached.dailyUsed)) ∧
      (reached.ledgerCredits ≤ 2 ^ 64 - 1 →
        reached.dailyUsed = reached.ledgerCredits ∧
          reached.monthlyUsed = reached.ledgerCredits ∧
          reached.perMethodUsed.values.sum = reached.ledgerCredits) ∧
      ∀ request, let next := reached.checkAndRecord request
        (∃ entry, next.1.ledger = reached.ledger ++ [entry] ∧ entry.request = request ∧
          entry.allowed = !entry.denied ∧ entry.allowed = next.2.isOk) ∧
          (next.2.isOk = false ∨ request.networkKind.isStream = true →
            next.1.usage = reached.usage) := by
  intro reached
  have hlimits : reached.WithinLimits :=
    withinLimits_calls (withinLimits_new config streamOnly) calls
  have hconfig : reached.config = config := Runs.reading_foldl_of_kept call
    RpcBudgetManager.config config_call (new config streamOnly) calls
  refine ⟨?_, ?_, ?_⟩
  · rw [← hconfig]
    exact ⟨hlimits.daily, hlimits.monthly, hlimits.perMethod, hlimits.reserve⟩
  · intro hfits
    have haccounted := accounted_calls (fun _ => accounted_new config streamOnly) calls hfits
    exact ⟨haccounted.daily, haccounted.monthly, haccounted.perMethod⟩
  · intro request
    exact ⟨(reached.checked request).ledger, fun hfree => (reached.checked request).usage hfree⟩

end RpcBudgetManager

/-! ## Stream-only mode -/

namespace StreamOnlyConfig

/-- The mode is on, and nothing is allowed. -/
structure Strict (streamOnly : StreamOnlyConfig) : Prop where
  enabled : streamOnly.enabled = true
  flags : ∀ flag ∈ streamOnly.allowFlags, flag = false
  unbudgeted : streamOnly.failOnUnbudgetedRpc = true

theorem Strict.allows {streamOnly : StreamOnlyConfig} (h : streamOnly.Strict)
    (category : RpcCallCategory) : streamOnly.allows category = false := by
  have hflags := h.flags
  simp only [allowFlags, List.mem_cons, List.not_mem_nil, or_false, forall_eq_or_imp,
    forall_eq] at hflags
  obtain ⟨htracking, hholder, htop, hmetadata, hbackfill, hreconciliation, hconfirmation,
    hblockhash, hexecution, hsend, hemergency⟩ := hflags
  cases category <;> simp [StreamOnlyConfig.allows, *, h.unbudgeted]

end StreamOnlyConfig

namespace RpcBudgetManager

/-- A strict manager allows streams only. -/
theorem isStream_of_isOk {self : RpcBudgetManager} (h : self.streamOnly.Strict)
    {request : RpcCallRequest} (hok : (self.checkAndRecord request).2.isOk = true) :
    request.networkKind.isStream = true := by
  cases hstream : request.networkKind.isStream with
  | true => rfl
  | false =>
      -- the first rule denies it
      have hdenied : ∃ reason, self.streamOnlyDenialReason request = some reason := by
        unfold streamOnlyDenialReason
        rw [if_neg]
        · exact ⟨_, rfl⟩
        · simp [h.enabled, hstream, h.allows]
      obtain ⟨reason, hreason⟩ := hdenied
      unfold checkAndRecord at hok
      rw [hreason] at hok
      cases hok

theorem Checked.streamOnly {self next : RpcBudgetManager} {request : RpcCallRequest}
    {result : Except RpcBudgetError RpcLedgerEntry} (h : Checked self request next result) :
    next.streamOnly = self.streamOnly := by
  cases h <;> rfl

/-- No check touches the network. -/
theorem Checked.networkTouched {self next : RpcBudgetManager} {request : RpcCallRequest}
    {result : Except RpcBudgetError RpcLedgerEntry} (h : Checked self request next result)
    (hself : ∀ entry ∈ self.ledger, entry.networkTouched = false) :
    ∀ entry ∈ next.ledger, entry.networkTouched = false := by
  cases h <;>
    exact List.forall_mem_append.mpr ⟨hself, List.forall_mem_singleton.mpr rfl⟩

/-- A manager that has spent nothing. -/
structure Unspent (manager : RpcBudgetManager) : Prop where
  strict : manager.streamOnly.Strict
  streams : ∀ entry ∈ manager.ledger, entry.allowed = true →
    entry.request.networkKind.isStream = true
  untouched : ∀ entry ∈ manager.ledger, entry.networkTouched = false
  usage : manager.usage = (0, 0, ∅)

theorem unspent_new (config : RpcBudgetConfig) {streamOnly : StreamOnlyConfig}
    (h : streamOnly.Strict) : (new config streamOnly).Unspent where
  strict := h
  streams _ hmem := by cases hmem
  untouched _ hmem := by cases hmem
  usage := rfl

theorem unspent_call {self : RpcBudgetManager} (h : self.Unspent) (c : BudgetCall) :
    (self.call c).Unspent := by
  cases c with
  | markUnknown => exact ⟨h.strict, h.streams, h.untouched, h.usage⟩
  | check request =>
      have hchecked := self.checked request
      obtain ⟨entry, hledger, hrequest, -, hallowed⟩ := hchecked.ledger
      have hstream : entry.allowed = true → request.networkKind.isStream = true :=
        fun hok => isStream_of_isOk h.strict (hallowed ▸ hok)
      refine ⟨?_, ?_, hchecked.networkTouched h.untouched, ?_⟩
      · exact hchecked.streamOnly.symm ▸ h.strict
      · intro other hmem
        rw [call, hledger] at hmem
        rcases List.mem_append.mp hmem with hmem | hmem
        · exact h.streams other hmem
        · rw [List.mem_singleton.mp hmem, hrequest]
          exact hstream
      · refine (hchecked.usage ?_).trans h.usage
        rw [← hallowed]
        cases hok : entry.allowed with
        | true => exact Or.inr (hstream hok)
        | false => exact Or.inl rfl

theorem unspent_calls {self : RpcBudgetManager} (h : self.Unspent) (calls : List BudgetCall) :
    (calls.foldl call self).Unspent := by
  induction calls generalizing self with
  | nil => exact h
  | cons c calls ih => exact ih (unspent_call h c)

/-- In strict stream-only mode no call allows a request outside the streams, and the usage
counters and the network calls of the summary stay at zero. -/
theorem stream_only_spends_nothing (config : RpcBudgetConfig) (streamOnly : StreamOnlyConfig)
    (henabled : streamOnly.enabled = true) (hflags : ∀ flag ∈ streamOnly.allowFlags, flag = false)
    (hunbudgeted : streamOnly.failOnUnbudgetedRpc = true) (calls : List BudgetCall) :
    let reached := calls.foldl call (new config streamOnly)
    (∀ request, (reached.checkAndRecord request).2.isOk = true →
        request.networkKind.isStream = true) ∧
      (∀ entry ∈ reached.ledger, entry.allowed = true →
        entry.request.networkKind.isStream = true) ∧
      reached.dailyUsed = 0 ∧ reached.monthlyUsed = 0 ∧
      (∀ method, reached.perMethodUsed.lookup method = none) ∧
      ∀ liveEnabled hotPathEnabled,
        (reached.summary liveEnabled hotPathEnabled).networkCallsTotal = 0 := by
  intro reached
  have hreached : reached.Unspent :=
    unspent_calls (unspent_new config ⟨henabled, hflags, hunbudgeted⟩) calls
  have husage := hreached.usage
  simp only [usage, Prod.mk.injEq] at husage
  obtain ⟨hdaily, hmonthly, hmethods⟩ := husage
  refine ⟨?_, hreached.streams, hdaily, hmonthly, ?_, ?_⟩
  · exact fun request => isStream_of_isOk hreached.strict
  · intro method
    rw [hmethods]
    rfl
  · intro liveEnabled hotPathEnabled
    refine List.countP_eq_zero.mpr fun entry hmem => ?_
    simp [hreached.untouched entry hmem]

/-- A request for market data. -/
def marketDataRequest : RpcCallRequest :=
  { timestamp := unixEpoch
    endpoint := "https://rpc"
    method := "getAccountInfo"
    callerModule := "tracker"
    reason := .coldStart
    category := .marketData
    networkKind := .jsonRpc
    estimatedProviderCreditCost := 1
    configHash := ""
    runId := "run"
    liveMode := false }

/-- Under the default flags a request for market data is not charged. -/
theorem stream_only_spends_nothing_marketData :
    (([.check marketDataRequest] : List BudgetCall).foldl call
      (new { dailyCreditLimit := 10, monthlyCreditLimit := 10, emergencyReserve := 0,
             denyWhenUnknownLiveState := true } {})).dailyUsed = 0 :=
  (stream_only_spends_nothing _ {} rfl (by decide) rfl [.check marketDataRequest]).2.2.1

end RpcBudgetManager

end PumpLaunchTrader
