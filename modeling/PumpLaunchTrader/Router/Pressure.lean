import PumpLaunchTrader.Model.Router
import PumpLaunchTrader.Lib.Runs

/-! # Relevance and pressure of mints

The sets of active and tombstoned mints and the pressure entries change by hints of the
consumer, by detected creations and by pressure decisions. A degraded entry stays degraded,
so that an active mint is served as long as no degraded one is activated again. -/

namespace PumpLaunchTrader

/-! ## Hints -/

namespace RelevanceState

theorem mem_foldl_activate (mints : List String) (self : RelevanceState) (m : String) :
    (m ∈ (mints.foldl activate self).activeMints ↔ m ∈ mints ∨ m ∈ self.activeMints) ∧
      (m ∈ (mints.foldl activate self).tombstonedMints ↔
        m ∉ mints ∧ m ∈ self.tombstonedMints) := by
  induction mints generalizing self with
  | nil => simp
  | cons x mints ih =>
    obtain ⟨hactive, htombstoned⟩ := ih (self.activate x)
    rw [List.foldl_cons, hactive, htombstoned]
    simp only [activate, Finset.mem_insert, Finset.mem_erase, List.mem_cons, not_or]
    constructor
    · rw [or_assoc, or_left_comm]
    · rw [and_assoc, and_left_comm]

theorem mem_foldl_deactivate (mints : List String) (self : RelevanceState) (m : String) :
    (m ∈ (mints.foldl deactivate self).activeMints ↔ m ∉ mints ∧ m ∈ self.activeMints) ∧
      (mints.foldl deactivate self).tombstonedMints = self.tombstonedMints := by
  induction mints generalizing self with
  | nil => simp
  | cons x mints ih =>
    obtain ⟨hactive, htombstoned⟩ := ih (self.deactivate x)
    rw [List.foldl_cons, hactive, htombstoned]
    simp only [deactivate, Finset.mem_erase, List.mem_cons, and_true]
    tauto

theorem mem_foldl_tombstone (mints : List String) (self : RelevanceState) (m : String) :
    (m ∈ (mints.foldl tombstone self).activeMints ↔ m ∉ mints ∧ m ∈ self.activeMints) ∧
      (m ∈ (mints.foldl tombstone self).tombstonedMints ↔
        m ∈ mints ∨ m ∈ self.tombstonedMints) := by
  induction mints generalizing self with
  | nil => simp
  | cons x mints ih =>
    obtain ⟨hactive, htombstoned⟩ := ih (self.tombstone x)
    rw [List.foldl_cons, hactive, htombstoned]
    simp only [tombstone, Finset.mem_insert, Finset.mem_erase, List.mem_cons, not_or]
    constructor
    · rw [and_assoc, and_left_comm]
    · rw [or_assoc, or_left_comm]

theorem mem_activeMints_applyHint (self : RelevanceState) (hint : StateHint) (m : String) :
    m ∈ (self.applyHint hint).activeMints ↔
      m ∉ hint.tombstonedMints ∧ m ∉ hint.inactiveMints ∧
        (m ∈ hint.activeMints ∨ m ∈ self.activeMints) := by
  rw [applyHint, (mem_foldl_tombstone _ _ m).1, (mem_foldl_deactivate _ _ m).1,
    (mem_foldl_activate _ _ m).1]

theorem mem_tombstonedMints_applyHint (self : RelevanceState) (hint : StateHint) (m : String) :
    m ∈ (self.applyHint hint).tombstonedMints ↔
      m ∈ hint.tombstonedMints ∨ m ∉ hint.activeMints ∧ m ∈ self.tombstonedMints := by
  rw [applyHint, (mem_foldl_tombstone _ _ m).2, (mem_foldl_deactivate _ _ m).2,
    (mem_foldl_activate _ _ m).2]

theorem applyHint_disjoint {self : RelevanceState} (hint : StateHint)
    (h : Disjoint self.activeMints self.tombstonedMints) :
    Disjoint (self.applyHint hint).activeMints (self.applyHint hint).tombstonedMints := by
  rw [Finset.disjoint_left] at h ⊢
  intro m hactive htombstoned
  rw [mem_activeMints_applyHint] at hactive
  rw [mem_tombstonedMints_applyHint] at htombstoned
  obtain ⟨hnot, -, hhint | hself⟩ := hactive
  · rcases htombstoned with hmem | ⟨hmem, -⟩
    · exact hnot hmem
    · exact hmem hhint
  · rcases htombstoned with hmem | ⟨-, hmem⟩
    · exact hnot hmem
    · exact h hself hmem

end RelevanceState

/-! ## Pressure decisions -/

/-- The entry of the mint is degraded. -/
def PressureState.degraded (self : PressureState) (mint : String) : Bool :=
  match self.lookup mint with
  | some entry => entry.degraded
  | none => false

namespace PressureState

theorem degraded_insert (self : PressureState) (mint m : String) (entry : PressureEntry) :
    PressureState.degraded (self.insert mint entry) m =
      if m = mint then entry.degraded else self.degraded m := by
  simp only [degraded]
  by_cases h : m = mint
  · rw [if_pos h, h, AList.lookup_insert]
  · rw [if_neg h, AList.lookup_insert_ne h]

theorem degraded_eq (self : PressureState) (mint : String) :
    self.degraded mint = ((self.lookup mint).getD {}).degraded := by
  simp only [degraded]
  cases self.lookup mint <;> rfl

end PressureState

/-- What a pressure decision leaves: a degraded mint is coalesced, the decision to degrade
marks the mint, the others mark nothing. -/
structure PressureSpec (state : PressureState) (mint : String)
    (result : PressureDecision × PressureState) : Prop where
  coalesced : state.degraded mint = true → result.1 = .coalesce
  marked : PressureState.degraded result.2 mint = true ↔
    state.degraded mint = true ∨ ∃ reason pressure, result.1 = .degrade reason pressure
  others : ∀ m, m ≠ mint → PressureState.degraded result.2 m = state.degraded m

theorem PressureEntry.count_degraded (self : PressureEntry) (now : ℕ) :
    (self.count now).degraded = self.degraded := by
  simp only [count]
  split <;> rfl

theorem PressureEntry.decide_degraded {self : PressureEntry} (h : self.degraded = false)
    (now depth capacity : ℕ) (config : PressureConfig) :
    (self.decide now depth capacity config).2.degraded = true ↔
      ∃ reason pressure, (self.decide now depth capacity config).1 = .degrade reason pressure := by
  simp only [PressureEntry.decide]
  split
  · simp
  · split
    · simp [h]
    · simp [h]

theorem pressureDecision_spec (state : PressureState) (mint : String)
    (now depth capacity : ℕ) (config : PressureConfig) :
    PressureSpec state mint (pressureDecision state mint now depth capacity config) := by
  have hentry := state.degraded_eq mint
  simp only [pressureDecision]
  generalize (state.lookup mint).getD {} = entry at hentry ⊢
  cases hdegraded : entry.degraded with
  | true =>
    rw [hdegraded] at hentry
    refine ⟨fun _ => by simp, ?_, fun m hm => ?_⟩
    · simp [PressureState.degraded_insert, hdegraded, hentry]
    · simp [PressureState.degraded_insert, hm]
  | false =>
    rw [hdegraded] at hentry
    have hcounted : (entry.count now).degraded = false := by
      rw [PressureEntry.count_degraded, hdegraded]
    refine ⟨fun h => by simp [hentry] at h, ?_, fun m hm => ?_⟩
    · simp only [Bool.false_eq_true, if_false, PressureState.degraded_insert, if_true, hentry,
        false_or]
      exact PressureEntry.decide_degraded hcounted now depth capacity config
    · simp [PressureState.degraded_insert, hm]

/-! ## Actions on the two stores -/

/-- What changes the relevance and the pressure of mints. -/
inductive ServingAction where
  | hint (hint : StateHint)
  | created (mint : String)
  | pressure (mint : String) (env : RouterEnv)
  deriving DecidableEq, Repr

namespace RouterState

/-- One action. -/
def serve (config : RouterConfig) (self : RouterState) : ServingAction → RouterState
  | .hint hint => { self with relevance := self.relevance.applyHint hint }
  | .created mint => { self with relevance := self.relevance.applyHint { activeMints := [mint] } }
  | .pressure mint env => (self.applyPressure config env mint).2

/-- The pressure decision that an action takes on a mint. -/
def decisionOn (config : RouterConfig) (mint : String) (self : RouterState) :
    ServingAction → Option PressureDecision
  | .pressure m env => if m = mint then some (self.applyPressure config env m).1 else none
  | _ => none

def degrades (config : RouterConfig) (mint : String) (self : RouterState)
    (action : ServingAction) : Bool :=
  match self.decisionOn config mint action with
  | some (.degrade _ _) => true
  | _ => false

def processesDeep (config : RouterConfig) (mint : String) (self : RouterState)
    (action : ServingAction) : Bool :=
  self.decisionOn config mint action = some .deepProcess

/-- No active mint is degraded. -/
def Served (self : RouterState) : Prop :=
  ∀ mint ∈ self.relevance.activeMints, self.pressure.degraded mint = false

/-- The action activates no mint that is degraded. -/
def ActivatesServed (self : RouterState) : ServingAction → Prop
  | .hint hint => ∀ mint ∈ hint.activeMints, mint ∉ hint.inactiveMints →
      mint ∉ hint.tombstonedMints → self.pressure.degraded mint = false
  | .created mint => self.pressure.degraded mint = false
  | .pressure _ _ => True

section Pressure

variable (config : RouterConfig) (env : RouterEnv) (self : RouterState) (mint : String)

theorem applyPressure_pressure :
    (self.applyPressure config env mint).2.pressure =
      (pressureDecision self.pressure mint env.now env.depth config.partitionQueueCapacity
        config.pressure).2 := by
  simp only [applyPressure]
  split <;> rfl

theorem applyPressure_decision :
    (self.applyPressure config env mint).1 =
      (pressureDecision self.pressure mint env.now env.depth config.partitionQueueCapacity
        config.pressure).1 := by
  simp only [applyPressure]
  split
  · rename_i reason pressure hdegrade
    exact hdegrade.symm
  · rfl

/-- The relevance changes only with a decision to degrade, which drops the mint. -/
theorem applyPressure_relevance :
    (∃ reason pressure, (self.applyPressure config env mint).1 = .degrade reason pressure ∧
      (self.applyPressure config env mint).2.relevance =
        self.relevance.applyHint { inactiveMints := [mint], tombstonedMints := [mint] }) ∨
    (∀ reason pressure, (self.applyPressure config env mint).1 ≠ .degrade reason pressure) ∧
      (self.applyPressure config env mint).2.relevance = self.relevance := by
  simp only [applyPressure]
  split
  · rename_i reason pressure _
    exact .inl ⟨reason, pressure, rfl, rfl⟩
  · rename_i decision hother
    exact .inr ⟨hother, rfl⟩

theorem applyPressure_spec :
    PressureSpec self.pressure mint
      ((self.applyPressure config env mint).1,
        (self.applyPressure config env mint).2.pressure) := by
  rw [applyPressure_decision, applyPressure_pressure]
  exact pressureDecision_spec _ _ _ _ _ _

end Pressure

section Steps

variable (config : RouterConfig)

theorem serve_disjoint {self : RouterState} (action : ServingAction)
    (h : Disjoint self.relevance.activeMints self.relevance.tombstonedMints) :
    Disjoint (self.serve config action).relevance.activeMints
      (self.serve config action).relevance.tombstonedMints := by
  cases action with
  | hint hint => exact RelevanceState.applyHint_disjoint hint h
  | created mint => exact RelevanceState.applyHint_disjoint _ h
  | pressure mint env =>
    rcases self.applyPressure_relevance config env mint with ⟨_, _, -, hrel⟩ | ⟨-, hrel⟩
    · simp only [serve, hrel]
      exact RelevanceState.applyHint_disjoint _ h
    · simp only [serve, hrel]
      exact h

/-- A degraded mint stays degraded. -/
theorem serve_degraded {self : RouterState} (action : ServingAction) {mint : String}
    (h : self.pressure.degraded mint = true) :
    (self.serve config action).pressure.degraded mint = true := by
  cases action with
  | hint hint => exact h
  | created m => exact h
  | pressure m env =>
    have hspec := self.applyPressure_spec config env m
    by_cases hm : mint = m
    · subst hm
      exact hspec.marked.mpr (.inl h)
    · exact (hspec.others mint hm).trans h

/-- After a decision to degrade a mint is marked. -/
theorem serve_degrades {self : RouterState} {action : ServingAction} {mint : String}
    (h : self.degrades config mint action = true) :
    (self.serve config action).pressure.degraded mint = true := by
  cases action with
  | hint hint => simp [degrades, decisionOn] at h
  | created m => simp [degrades, decisionOn] at h
  | pressure m env =>
    simp only [degrades, decisionOn] at h
    split at h
    · rename_i reason pressure hdecision
      split at hdecision
      · rename_i hm
        subst hm
        exact (self.applyPressure_spec config env m).marked.mpr
          (.inr ⟨reason, pressure, Option.some.inj hdecision⟩)
      · simp at hdecision
    · simp at h

/-- A degraded mint is neither degraded again nor processed deeply. -/
theorem decisionOn_degraded {self : RouterState} {mint : String}
    (h : self.pressure.degraded mint = true) (action : ServingAction) :
    self.degrades config mint action = false ∧
      self.processesDeep config mint action = false := by
  cases action with
  | hint hint => simp [degrades, processesDeep, decisionOn]
  | created m => simp [degrades, processesDeep, decisionOn]
  | pressure m env =>
    by_cases hm : m = mint
    · subst hm
      have hcoalesced := (self.applyPressure_spec config env m).coalesced h
      simp only at hcoalesced
      simp [degrades, processesDeep, decisionOn, hcoalesced]
    · simp [degrades, processesDeep, decisionOn, hm]

/-- Exactly the actions that activate no degraded mint keep the active mints served. -/
theorem serve_served_iff {self : RouterState} (h : self.Served) (action : ServingAction) :
    (self.serve config action).Served ↔ self.ActivatesServed action := by
  cases action with
  | hint hint =>
    constructor
    · intro hserved mint hactive hinactive htombstoned
      apply hserved mint
      exact (RelevanceState.mem_activeMints_applyHint _ _ _).mpr
        ⟨htombstoned, hinactive, .inl hactive⟩
    · intro hactivates mint hmint
      obtain ⟨htombstoned, hinactive, hhint | hself⟩ :=
        (RelevanceState.mem_activeMints_applyHint _ _ _).mp hmint
      · exact hactivates mint hhint hinactive htombstoned
      · exact h mint hself
  | created m =>
    constructor
    · intro hserved
      apply hserved m
      exact (RelevanceState.mem_activeMints_applyHint _ _ _).mpr (by simp)
    · intro hactivates mint hmint
      obtain ⟨-, -, hcreated | hself⟩ :=
        (RelevanceState.mem_activeMints_applyHint _ _ _).mp hmint
      · rw [List.mem_singleton.mp hcreated]
        exact hactivates
      · exact h mint hself
  | pressure m env =>
    refine ⟨fun _ => trivial, fun _ mint hmint => ?_⟩
    have hspec := self.applyPressure_spec config env m
    simp only [serve] at hmint ⊢
    rcases self.applyPressure_relevance config env m with ⟨_, _, -, hrel⟩ | ⟨hother, hrel⟩
    · rw [hrel, RelevanceState.mem_activeMints_applyHint] at hmint
      obtain ⟨hnot, -, hself⟩ := hmint
      have hm : mint ≠ m := by simpa using hnot
      rw [hspec.others mint hm]
      exact h mint (by simpa using hself)
    · rw [hrel] at hmint
      by_cases hm : mint = m
      · subst hm
        rw [← Bool.not_eq_true, hspec.marked]
        rintro (hdegraded | ⟨reason, pressure, hdegrade⟩)
        · simp [h mint hmint] at hdegraded
        · exact hother reason pressure hdegrade
      · rw [hspec.others mint hm]
        exact h mint hmint

end Steps

end RouterState

/-! ## Runs -/

section Runs

variable (config : RouterConfig) (actions : List ServingAction)

/-- A run in which active mints are served: the two sets are disjoint in every state, each
mint is degraded at most once and not processed deeply after that, and no active mint is
degraded in any state. -/
structure ServesActiveMints : Prop where
  disjoint : ∀ before after, actions = before ++ after →
    Disjoint (before.foldl (RouterState.serve config) {}).relevance.activeMints
      (before.foldl (RouterState.serve config) {}).relevance.tombstonedMints
  degradedOnce : ∀ mint,
    Runs.occurrences (RouterState.serve config) (RouterState.degrades config mint) {} actions ≤ 1
  notDeepAfter : ∀ mint before first between late after,
    actions = before ++ first :: (between ++ late :: after) →
    RouterState.degrades config mint (before.foldl (RouterState.serve config) {}) first = true →
    RouterState.processesDeep config mint
      ((before ++ first :: between).foldl (RouterState.serve config) {}) late = false
  served : ∀ before after, actions = before ++ after →
    (before.foldl (RouterState.serve config) {}).Served

theorem foldl_serve_disjoint (self : RouterState)
    (h : Disjoint self.relevance.activeMints self.relevance.tombstonedMints) :
    Disjoint (actions.foldl (RouterState.serve config) self).relevance.activeMints
      (actions.foldl (RouterState.serve config) self).relevance.tombstonedMints := by
  induction actions generalizing self with
  | nil => exact h
  | cons action actions ih => exact ih _ (RouterState.serve_disjoint config action h)

theorem foldl_serve_degraded {self : RouterState} {mint : String}
    (h : self.pressure.degraded mint = true) :
    (actions.foldl (RouterState.serve config) self).pressure.degraded mint = true := by
  induction actions generalizing self with
  | nil => exact h
  | cons action actions ih => exact ih (RouterState.serve_degraded config action h)

theorem degraded_of_degrades {mint : String} {self : RouterState} {first : ServingAction}
    (before between : List ServingAction)
    (h : RouterState.degrades config mint (before.foldl (RouterState.serve config) self) first =
      true) :
    ((before ++ first :: between).foldl (RouterState.serve config) self).pressure.degraded mint =
      true := by
  rw [List.foldl_append, List.foldl_cons]
  exact foldl_serve_degraded config between (RouterState.serve_degrades config h)

/-- Active mints are served in a run exactly when no degraded mint is ever activated. -/
theorem servesActiveMints_iff :
    ServesActiveMints config actions ↔
      Runs.Along (RouterState.serve config) RouterState.ActivatesServed {} actions := by
  have hserved : (∀ before after, actions = before ++ after →
        (before.foldl (RouterState.serve config) {}).Served) ↔
      Runs.Along (RouterState.serve config) RouterState.ActivatesServed {} actions := by
    have htrue : Runs.Along (RouterState.serve config) (fun _ _ => True) {} actions :=
      Runs.along_iff.mpr fun _ _ _ _ => trivial
    have hinit : RouterState.Served {} := by simp [RouterState.Served]
    exact Runs.forall_reached_iff_along (I := RouterState.Served)
      (fun self action h _ => RouterState.serve_served_iff config h action) hinit htrue
  constructor
  · intro h
    exact hserved.mp h.served
  · intro h
    refine ⟨?_, ?_, ?_, hserved.mpr h⟩
    · intro before after _
      exact foldl_serve_disjoint config before {} (by simp)
    · intro mint
      rw [Runs.occurrences_le_one_iff]
      intro before first between late after _ hfirst
      exact (RouterState.decisionOn_degraded config
        (degraded_of_degrades config before between hfirst) late).1
    · intro mint before first between late after _ hfirst
      exact (RouterState.decisionOn_degraded config
        (degraded_of_degrades config before between hfirst) late).2

end Runs

/-- Every deep update degrades a mint behind the first one. -/
def oneDeepUpdate : RouterConfig where
  workerPartitions := 1
  clamped := RouterConfig.clamped_one
  partitionQueueCapacity := 8
  pressure := {
    maxQueuedUpdatesPerMint := 100
    maxUpdatesPerSecond := 100
    maxDeepUpdatesPerCheckpoint := 1
    noisyDegradeEnabled := true
    noisyDegradeReason := "noisy"
    coalesceWindow := 1
    deltaFlushInterval := 1
    softDepth := fun capacity => capacity }

/-- A mint is activated, degraded by its second update, and activated again. -/
def reactivated : List ServingAction :=
  [.hint { activeMints := ["M"] }, .pressure "M" {}, .pressure "M" { now := 10 },
    .hint { activeMints := ["M"] }]

theorem servesActiveMints_reactivated :
    ¬ ∀ (config : RouterConfig) (actions : List ServingAction),
      ServesActiveMints config actions := by
  intro h
  have hserved := (h oneDeepUpdate reactivated).served reactivated [] (by simp) "M"
    (by decide +kernel)
  revert hserved
  decide +kernel

/-! ## The router takes these actions -/

namespace RouterState

/-- The two stores agree. -/
def SameStores (a b : RouterState) : Prop :=
  a.relevance = b.relevance ∧ a.pressure = b.pressure

theorem observe_sameStores (self : RouterState) (update : SubscribeUpdate) :
    SameStores (self.observe update).2 self := by
  simp only [observe]
  split <;> exact ⟨rfl, rfl⟩

end RouterState

end PumpLaunchTrader
