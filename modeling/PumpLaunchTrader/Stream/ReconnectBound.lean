import PumpLaunchTrader.Model.SourceStream

/-! # How often a source reconnects

The failures of a source are counted from the last connect that succeeded. A provider that
refuses every connect is given up on. One that accepts every subscription and fails at once is
not, unless the source may try only once. -/

namespace PumpLaunchTrader

namespace Connection

variable {U : Type}

/-- The attempt brings no update: it is refused, or the stream fails at once. -/
def IsFruitless : Connection U → Prop
  | refused _ => True
  | opened _ items _ => ∃ status stamp rest, items = .failed status stamp :: rest

def isOpened : Connection U → Bool
  | refused _ => false
  | opened _ _ _ => true

/-- The failures counted after a fruitless attempt. -/
def failures (count : ℕ) : Connection U → ℕ
  | refused _ => saturatingAdd count 1
  | opened _ _ _ => 1

end Connection

namespace StreamSource

variable {σ U : Type}

/-- A fruitless attempt ends the source, whatever the count of failures: the provider has no
such subscription, or the receiver of the events went away. Each stream opened before sent a
gap, and each but the first a recovery. -/
def concludes (self : StreamSource σ U) (accepts : ℕ → Bool) (opened : ℕ) :
    Connection U → Bool
  | .refused error => (self.onRefused error).isSome
  | .opened _ (.failed status _ :: _) _ =>
    (0 < opened && !accepts (2 * opened - 1)) || (self.onStatus status).isSome ||
      !accepts (2 * opened)
  | .opened _ _ _ => false

/-- Some attempt of a script ends the source. -/
def Concluded (self : StreamSource σ U) (accepts : ℕ → Bool) (opened : ℕ)
    (script : List (Connection U)) : Prop :=
  ∃ i, ∃ connection, script[i]? = some connection ∧
    self.concludes accepts (opened + (script.take i).countP Connection.isOpened) connection = true

theorem not_concluded_nil (self : StreamSource σ U) (accepts : ℕ → Bool) (opened : ℕ) :
    ¬ self.Concluded accepts opened [] := by
  rintro ⟨i, connection, hget, -⟩
  simp at hget

theorem concluded_cons {self : StreamSource σ U} {accepts : ℕ → Bool} {opened : ℕ}
    {connection : Connection U} {script : List (Connection U)} :
    self.Concluded accepts opened (connection :: script) ↔
      self.concludes accepts opened connection = true ∨
        self.Concluded accepts (opened + if connection.isOpened then 1 else 0) script := by
  constructor
  · rintro ⟨i, other, hget, hconcludes⟩
    cases i with
    | zero =>
        obtain rfl : connection = other := by simpa using hget
        exact Or.inl (by simpa using hconcludes)
    | succ i =>
        refine Or.inr ⟨i, other, by simpa using hget, ?_⟩
        rwa [List.take_succ_cons, List.countP_cons, add_comm (List.countP _ _),
          ← add_assoc] at hconcludes
  · rintro (hconcludes | ⟨i, other, hget, hconcludes⟩)
    · exact ⟨0, connection, rfl, by simpa using hconcludes⟩
    · refine ⟨i + 1, other, by simpa using hget, ?_⟩
      rwa [List.take_succ_cons, List.countP_cons, add_comm (List.countP _ _), ← add_assoc]

/-- A source after fruitless attempts, of which some were accepted. -/
structure Failing (state : LoopState σ) (opened : ℕ) : Prop where
  gap : state.emittedDisconnectGap = decide (0 < opened)
  sent : state.sent.length = 2 * opened - 1

theorem failing_init (service : σ) : Failing ({ service } : LoopState σ) 0 :=
  ⟨rfl, rfl⟩

theorem resume_of_leaves {self : StreamSource σ U} {accepts : ℕ → Bool} {state : LoopState σ}
    {opened : ℕ} (hstate : Failing state opened) (stamp : Stamp) (hopened : 0 < opened)
    (h : accepts (2 * opened - 1) = false) :
    self.resume accepts stamp state = (false, state) := by
  have hgap : state.emittedDisconnectGap = true := by simp [hstate.gap, hopened]
  simp [resume, hgap, LoopState.send, hstate.sent, h]

/-- A connect that succeeds starts the count of failures anew. -/
theorem resume_of_stays (self : StreamSource σ U) {accepts : ℕ → Bool} {state : LoopState σ}
    {opened : ℕ} (hstate : Failing state opened) (stamp : Stamp)
    (h : 0 < opened → accepts (2 * opened - 1) = true) :
    ∃ next, self.resume accepts stamp state = (true, next) ∧ next.attempts = 0 ∧
      next.sent.length = 2 * opened := by
  by_cases hopened : 0 < opened
  · have hgap : state.emittedDisconnectGap = true := by simp [hstate.gap, hopened]
    simp only [resume, hgap, if_true, LoopState.send, hstate.sent, h hopened]
    refine ⟨_, rfl, rfl, ?_⟩
    rw [List.length_append, hstate.sent, List.length_singleton]
    omega
  · have hgap : state.emittedDisconnectGap = false := by simp [hstate.gap, hopened]
    simp only [resume, hgap, Bool.false_eq_true, if_false]
    refine ⟨_, rfl, rfl, ?_⟩
    change state.sent.length = 2 * opened
    rw [hstate.sent]
    omega

section Attempts

variable {self : StreamSource σ U}
  (hrefused : ∀ error, self.onRefused error ≠ some .waiting)
  (hstatus : ∀ status, self.onStatus status ≠ some .waiting)

include hrefused hstatus in
/-- An attempt that concludes the source is its last one. -/
theorem run_of_concludes {accepts : ℕ → Bool} {state : LoopState σ} {opened : ℕ}
    (hstate : Failing state opened) {connection : Connection U}
    (h : self.concludes accepts opened connection = true) (script : List (Connection U)) :
    (self.run accepts (connection :: script) state).1 ≠ .waiting := by
  cases connection with
  | refused error =>
      obtain ⟨outcome, houtcome⟩ := Option.isSome_iff_exists.mp h
      simp only [run, houtcome]
      rintro rfl
      exact hrefused error houtcome
  | opened stamp items ends =>
      match items with
      | [] => cases h
      | .update update time :: rest => cases h
      | .failed status time :: rest =>
          by_cases hleaves : 0 < opened ∧ accepts (2 * opened - 1) = false
          · rw [run, resume_of_leaves hstate stamp hleaves.1 hleaves.2]
            exact SourceOutcome.noConfusion
          have htaken : 0 < opened → accepts (2 * opened - 1) = true :=
            fun hopened => by simpa [hopened] using hleaves
          obtain ⟨next, hresume, -, hsent⟩ := self.resume_of_stays hstate stamp htaken
          cases houtcome : self.onStatus status with
          | some outcome =>
              simp only [run, hresume, read, houtcome]
              rintro rfl
              exact hstatus status houtcome
          | none =>
              have hsend : accepts (2 * opened) = false := by
                have hstays : (0 < opened && !accepts (2 * opened - 1)) = false := by
                  simpa using hleaves
                simpa [concludes, houtcome, hstays] using h
              simp only [run, hresume, read, houtcome, LoopState.send, hsent, hsend]
              exact SourceOutcome.noConfusion

/-- Any other fruitless attempt is a failure, after which the source gives up or tries
again. -/
theorem run_of_not_concludes {accepts : ℕ → Bool} {state : LoopState σ} {opened : ℕ}
    (hstate : Failing state opened) {connection : Connection U}
    (hfruitless : connection.IsFruitless)
    (h : self.concludes accepts opened connection = false) :
    ∃ next, Failing next (opened + if connection.isOpened then 1 else 0) ∧
      next.attempts = connection.failures state.attempts ∧
      ∀ script, (self.run accepts (connection :: script) state).1 ≠ .waiting ↔
        self.maxAttempts ≤ next.attempts ∨ (self.run accepts script next).1 ≠ .waiting := by
  cases connection with
  | refused error =>
      have hnone : self.onRefused error = none := by simpa [concludes] using h
      refine ⟨{ state with attempts := saturatingAdd state.attempts 1 }, ?_, rfl, ?_⟩
      · exact ⟨hstate.gap, hstate.sent⟩
      · intro script
        simp only [run, hnone]
        split
        · rename_i hmax
          simp [hmax]
        · rename_i hmax
          simp [hmax]
  | opened stamp items ends =>
      obtain ⟨status, time, rest, rfl⟩ := hfruitless
      simp only [concludes, Bool.or_eq_false_iff, Bool.and_eq_false_iff, Bool.not_eq_false',
        decide_eq_false_iff_not, Option.isSome_eq_false_iff, Option.isNone_iff_eq_none] at h
      obtain ⟨⟨hstays, hnone⟩, hsend⟩ := h
      have htaken : 0 < opened → accepts (2 * opened - 1) = true :=
        fun hopened => hstays.resolve_left fun h => h hopened
      obtain ⟨next, hresume, hattempts, hsent⟩ := self.resume_of_stays hstate stamp htaken
      let noted := { next with service := self.noteDisconnect next.service }
      refine ⟨{ noted with
        sent := noted.sent ++ [self.gapEvent noted false time]
        emittedDisconnectGap := true
        attempts := 1 }, ⟨?_, ?_⟩, rfl, ?_⟩
      · simp [Connection.isOpened]
      · simp [noted, hsent, Connection.isOpened]
        omega
      · intro script
        have hone : saturatingAdd next.attempts 1 = 1 := by rw [hattempts]; rfl
        simp only [run, hresume, read, hnone, LoopState.send, hsent, hsend, if_true, hone]
        by_cases hmax : self.maxAttempts ≤ 1
        · simp [hmax]
        · simp [hmax, noted]

include hrefused hstatus in
/-- While failures are counted from none or few, a script of fruitless attempts ends the
source if one of them concludes it, or if they use up the attempts and only the first of all
was accepted. -/
theorem run_ne_waiting_iff (hmax : self.maxAttempts < 2 ^ 64) {accepts : ℕ → Bool}
    (script : List (Connection U)) (hfruitless : ∀ c ∈ script, c.IsFruitless)
    {state : LoopState σ} {opened : ℕ} (hstate : Failing state opened)
    (hattempts : state.attempts < self.maxAttempts)
    (hlength : state.attempts + script.length ≤ self.maxAttempts) :
    (self.run accepts script state).1 ≠ .waiting ↔
      self.Concluded accepts opened script ∨
        (state.attempts + script.length = self.maxAttempts ∧
          ∀ c ∈ script.drop (if state.attempts = 0 then 1 else 0), c.isOpened = false) := by
  induction script generalizing state opened with
  | nil =>
      simp [run, not_concluded_nil, Nat.ne_of_lt hattempts]
  | cons connection script ih =>
      obtain ⟨hhead, htail⟩ := List.forall_mem_cons.mp hfruitless
      rw [List.length_cons] at hlength
      rw [concluded_cons]
      cases hconcludes : self.concludes accepts opened connection with
      | true =>
          simp [run_of_concludes hrefused hstatus hstate hconcludes script]
      | false =>
          obtain ⟨next, hnext, hcount, hrun⟩ := run_of_not_concludes hstate hhead hconcludes
          rw [hrun]
          rw [or_iff_right Bool.false_ne_true, List.length_cons]
          cases connection with
          | refused error =>
              have hone : next.attempts = state.attempts + 1 := by
                rw [hcount, Connection.failures, saturatingAdd]
                omega
              have hrefusedOne : (Connection.refused error : Connection U).isOpened = false := rfl
              by_cases hlast : self.maxAttempts ≤ next.attempts
              · obtain rfl : script = [] := List.eq_nil_of_length_eq_zero (by omega)
                simp only [hlast, true_or, true_iff]
                refine Or.inr ⟨by rw [List.length_nil]; omega, fun c hc => ?_⟩
                obtain rfl := List.mem_singleton.mp (List.mem_of_mem_drop hc)
                exact hrefusedOne
              · rw [ih htail hnext (Nat.lt_of_not_le hlast) (by omega), or_iff_right hlast]
                refine or_congr Iff.rfl (and_congr (by omega) ?_)
                rw [if_neg (by omega), List.drop_zero]
                by_cases hnone : state.attempts = 0
                · rw [if_pos hnone, List.drop_succ_cons, List.drop_zero]
                · rw [if_neg hnone, List.drop_zero, List.forall_mem_cons,
                    and_iff_right hrefusedOne]
          | opened stamp items ends =>
              have hone : next.attempts = 1 := hcount
              have hopenedOne : (Connection.opened stamp items ends).isOpened ≠ false := by
                simp [Connection.isOpened]
              by_cases hlast : self.maxAttempts ≤ next.attempts
              · obtain rfl : script = [] := List.eq_nil_of_length_eq_zero (by omega)
                simp only [hlast, true_or, true_iff]
                refine Or.inr ⟨by rw [List.length_nil]; omega, ?_⟩
                rw [if_pos (by omega)]
                exact fun c hc => absurd hc List.not_mem_nil
              · rw [ih htail hnext (Nat.lt_of_not_le hlast) (by omega), or_iff_right hlast]
                refine or_congr Iff.rfl ?_
                rw [if_neg (by omega), List.drop_zero]
                by_cases hnone : state.attempts = 0
                · rw [if_pos hnone, List.drop_succ_cons, List.drop_zero, hone, hnone,
                    Nat.zero_add, Nat.add_comm]
                · rw [if_neg hnone, List.drop_zero]
                  constructor
                  · rintro ⟨hall, -⟩
                    omega
                  · rintro ⟨-, hrest⟩
                    exact absurd (hrest _ List.mem_cons_self) hopenedOne

/-- Streams that are all accepted and fail at once are tried without end. -/
theorem run_waiting_of_opened (hmax : 1 < self.maxAttempts) {accepts : ℕ → Bool}
    (script : List (Connection U)) (hfruitless : ∀ c ∈ script, c.IsFruitless)
    (hopened : ∀ c ∈ script, c.isOpened = true)
    (hconcludes : ∀ c ∈ script, ∀ opened, self.concludes accepts opened c = false)
    {state : LoopState σ} {opened : ℕ} (hstate : Failing state opened) :
    (self.run accepts script state).1 = .waiting := by
  induction script generalizing state opened with
  | nil => rfl
  | cons connection script ih =>
      obtain ⟨hfruitlessHead, hfruitlessTail⟩ := List.forall_mem_cons.mp hfruitless
      obtain ⟨hopenedHead, hopenedTail⟩ := List.forall_mem_cons.mp hopened
      obtain ⟨hconcludesHead, hconcludesTail⟩ := List.forall_mem_cons.mp hconcludes
      obtain ⟨next, hnext, hcount, hrun⟩ :=
        run_of_not_concludes hstate hfruitlessHead (hconcludesHead opened)
      have hone : next.attempts = 1 := by
        cases connection with
        | refused error => cases hopenedHead
        | opened stamp items ends => exact hcount
      by_contra hreturned
      rcases (hrun script).mp hreturned with hlast | hrest
      · omega
      · exact hrest (ih hfruitlessTail hopenedTail hconcludesTail hnext)

end Attempts

/-! ## Connectors -/

/-- What a connector answers to the first attempts. -/
def firstAttempts (connector : ℕ → Connection U) (n : ℕ) : List (Connection U) :=
  (List.range n).map connector

/-- One of the first attempts ends the source, whatever the count of failures. -/
def ConcludesWithin (self : StreamSource σ U) (accepts : ℕ → Bool)
    (connector : ℕ → Connection U) (n : ℕ) : Prop :=
  ∃ i < n, self.concludes accepts ((List.range i).countP fun j => (connector j).isOpened)
    (connector i) = true

/-- Of the first attempts only the very first may open a stream. -/
def OpensOnlyFirst (connector : ℕ → Connection U) (n : ℕ) : Prop :=
  ∀ i, 0 < i → i < n → (connector i).isOpened = false

theorem concluded_firstAttempts {self : StreamSource σ U} {accepts : ℕ → Bool}
    {connector : ℕ → Connection U} {n : ℕ} :
    self.Concluded accepts 0 (firstAttempts connector n) ↔
      self.ConcludesWithin accepts connector n := by
  have htake : ∀ i < n, ((firstAttempts connector n).take i).countP Connection.isOpened =
      (List.range i).countP fun j => (connector j).isOpened := by
    intro i hi
    rw [firstAttempts, ← List.map_take, List.take_range, Nat.min_eq_left hi.le, List.countP_map]
    rfl
  constructor
  · rintro ⟨i, connection, hget, hconcludes⟩
    obtain ⟨hlength, rfl⟩ := List.getElem?_eq_some_iff.mp hget
    have hi : i < n := by simpa [firstAttempts] using hlength
    have hget : (firstAttempts connector n)[i] = connector i := by simp [firstAttempts]
    rw [hget] at hconcludes
    refine ⟨i, hi, ?_⟩
    rwa [htake i hi, Nat.zero_add] at hconcludes
  · rintro ⟨i, hi, hconcludes⟩
    refine ⟨i, connector i, ?_, ?_⟩
    · rw [firstAttempts, List.getElem?_map, List.getElem?_range hi, Option.map_some]
    · rwa [htake i hi, Nat.zero_add]

theorem opensOnlyFirst_iff {connector : ℕ → Connection U} {n : ℕ} :
    (∀ c ∈ (firstAttempts connector n).drop 1, c.isOpened = false) ↔
      OpensOnlyFirst connector n := by
  cases n with
  | zero => exact ⟨fun _ i _ hi => absurd hi (Nat.not_lt_zero i), fun _ c hc => by cases hc⟩
  | succ n =>
      rw [firstAttempts, List.range_succ_eq_map, List.map_cons, List.drop_succ_cons,
        List.drop_zero, List.map_map, List.forall_mem_map]
      simp only [List.mem_range, Function.comp_apply]
      constructor
      · intro h i hpos hi
        obtain ⟨j, rfl⟩ := Nat.exists_eq_succ_of_ne_zero hpos.ne'
        exact h j (Nat.lt_of_succ_lt_succ hi)
      · exact fun h i hi => h (i + 1) (Nat.succ_pos i) (Nat.succ_lt_succ hi)

section Attempts

variable {self : StreamSource σ U}
  (hrefused : ∀ error, self.onRefused error ≠ some .waiting)
  (hstatus : ∀ status, self.onStatus status ≠ some .waiting)
  {connector : ℕ → Connection U} (hfruitless : ∀ i, (connector i).IsFruitless)

include hrefused hstatus hfruitless in
theorem run_firstAttempts_iff (hpos : 0 < self.maxAttempts) (hmax : self.maxAttempts < 2 ^ 64)
    (accepts : ℕ → Bool) (service : σ) :
    (self.run accepts (firstAttempts connector self.maxAttempts) { service }).1 ≠ .waiting ↔
      self.ConcludesWithin accepts connector self.maxAttempts ∨
        OpensOnlyFirst connector self.maxAttempts := by
  have hused : 0 + (firstAttempts connector self.maxAttempts).length = self.maxAttempts := by
    simp [firstAttempts]
  have hall : ∀ c ∈ firstAttempts connector self.maxAttempts, c.IsFruitless := by
    intro c hc
    obtain ⟨i, -, rfl⟩ := List.mem_map.mp hc
    exact hfruitless i
  rw [run_ne_waiting_iff hrefused hstatus hmax _ hall (failing_init service) hpos hused.le,
    concluded_firstAttempts, if_pos rfl, opensOnlyFirst_iff, and_iff_right hused]

end Attempts

end StreamSource

/-! ## The two sources -/

/-- A source returns within its greatest number of attempts, of which none brings an update,
exactly if after the first attempt no stream is opened, or one of the attempts ends it for
another reason. -/
theorem reconnecting_bounded_iff (normalizer : GeyserEventNormalizer) (accepts : ℕ → Bool) :
    (∀ (config : GeyserConfig) (endpoint : Except String String)
        (connector : ℕ → Connection SubscribeUpdate),
      (∀ n ∈ config.maxReconnectAttempts, n < 2 ^ 32) → (∀ i, (connector i).IsFruitless) →
      let source := geyserSource config
      ((runGeyserSourceWithConnector config endpoint normalizer accepts
          (StreamSource.firstAttempts connector source.maxAttempts)).1 ≠ .waiting ↔
        endpoint.toOption = none ∨
          source.ConcludesWithin accepts connector source.maxAttempts ∨
          StreamSource.OpensOnlyFirst connector source.maxAttempts)) ∧
    ∀ (config : DeshredConfig) (connector : ℕ → Connection SubscribeUpdateDeshred),
      config.maxReconnectAttempts < 2 ^ 32 → (∀ i, (connector i).IsFruitless) →
      let source := deshredSource config
      ((runDeshredSourceWithConnector config normalizer accepts
          (StreamSource.firstAttempts connector source.maxAttempts)).1 ≠ .waiting ↔
        source.ConcludesWithin accepts connector source.maxAttempts ∨
          StreamSource.OpensOnlyFirst connector source.maxAttempts) := by
  refine ⟨fun config endpoint connector hmax hfruitless => ?_,
    fun config connector hmax hfruitless => ?_⟩
  · have hpos : 0 < (geyserSource config).maxAttempts :=
      Nat.lt_of_lt_of_le Nat.one_pos (Nat.le_max_right _ _)
    have hbound : (geyserSource config).maxAttempts < 2 ^ 64 := by
      change max (config.maxReconnectAttempts.getD 10) 1 < 2 ^ 64
      cases hn : config.maxReconnectAttempts with
      | none => simp
      | some n =>
          have := hmax n hn
          simp only [Option.getD_some]
          omega
    have hrefused : ∀ error, (geyserSource config).onRefused error ≠ some .waiting := by
      simp [geyserSource]
    have hstatus : ∀ status, (geyserSource config).onStatus status ≠ some .waiting := by
      simp [geyserSource]
    cases endpoint with
    | error message => simp [runGeyserSourceWithConnector, Except.toOption]
    | ok address =>
        have hsome : (Except.ok address : Except String String).toOption ≠ none :=
          Option.some_ne_none _
        refine Iff.trans ?_ (or_iff_right hsome).symm
        exact StreamSource.run_firstAttempts_iff hrefused hstatus hfruitless hpos hbound accepts _
  · have hpos : 0 < (deshredSource config).maxAttempts :=
      Nat.lt_of_lt_of_le Nat.one_pos (Nat.le_max_right _ _)
    have hbound : (deshredSource config).maxAttempts < 2 ^ 64 := by
      change max config.maxReconnectAttempts 1 < 2 ^ 64
      omega
    have hrefused : ∀ error, (deshredSource config).onRefused error ≠ some .waiting := by
      intro error
      simp only [deshredSource]
      split <;> simp
    have hstatus : ∀ status, (deshredSource config).onStatus status ≠ some .waiting := by
      intro status
      simp only [deshredSource]
      split
      · simp
      · split <;> simp
    exact StreamSource.run_firstAttempts_iff hrefused hstatus hfruitless hpos hbound accepts _

/-! ## Two connectors -/

namespace SourceAttempts

def stamp : Stamp where
  eventId := ⟨"event"⟩
  gapEventId := ⟨"gap"⟩
  now := 0
  observedNs := 0

/-- Every attempt is refused. -/
def refusing {U : Type} : ℕ → Connection U :=
  fun _ => .refused ⟨some .unavailable, "unavailable"⟩

/-- Every subscription is accepted and fails at once. -/
def failing {U : Type} : ℕ → Connection U :=
  fun _ => .opened stamp [.failed ⟨.unavailable, "unavailable"⟩ stamp] false

theorem failing_isFruitless {U : Type} (i : ℕ) : (failing i : Connection U).IsFruitless :=
  ⟨_, _, _, rfl⟩

end SourceAttempts

theorem reconnecting_bounded_refusing :
    (runGeyserSourceWithConnector {} (.ok "") { idls := [] } (fun _ => true)
        (StreamSource.firstAttempts SourceAttempts.refusing 10)).1 ≠ .waiting ∧
      (runDeshredSourceWithConnector {} { idls := [] } (fun _ => true)
        (StreamSource.firstAttempts SourceAttempts.refusing 10)).1 ≠ .waiting := by
  have hbounded := reconnecting_bounded_iff { idls := [] } fun _ => true
  constructor
  · exact (hbounded.1 {} (.ok "") SourceAttempts.refusing (by decide) fun _ => trivial).mpr
      (Or.inr (Or.inr fun _ _ _ => rfl))
  · exact (hbounded.2 {} SourceAttempts.refusing (by decide) fun _ => trivial).mpr
      (Or.inr fun _ _ _ => rfl)

/-- A provider that accepts and fails at once is tried without end. -/
theorem runSources_failing_waiting :
    ¬ ∀ (config : GeyserConfig) (connector : ℕ → Connection SubscribeUpdate)
        (deshred : DeshredConfig) (deshredConnector : ℕ → Connection SubscribeUpdateDeshred),
      (∀ i, (connector i).IsFruitless) → (∀ i, (deshredConnector i).IsFruitless) →
        (∃ n, (runGeyserSourceWithConnector config (.ok "") { idls := [] } (fun _ => true)
          (StreamSource.firstAttempts connector n)).1 ≠ .waiting) ∨
        ∃ n, (runDeshredSourceWithConnector deshred { idls := [] } (fun _ => true)
          (StreamSource.firstAttempts deshredConnector n)).1 ≠ .waiting := by
  intro h
  have hmem : ∀ {U : Type} (n : ℕ), ∀ c ∈ StreamSource.firstAttempts SourceAttempts.failing n,
      c = (SourceAttempts.failing 0 : Connection U) := by
    intro U n c hc
    obtain ⟨i, -, rfl⟩ := List.mem_map.mp hc
    rfl
  rcases h {} SourceAttempts.failing {} SourceAttempts.failing SourceAttempts.failing_isFruitless
    SourceAttempts.failing_isFruitless with ⟨n, hn⟩ | ⟨n, hn⟩
  · refine hn (StreamSource.run_waiting_of_opened (by decide) _ ?_ ?_ ?_
      (StreamSource.failing_init _))
    · exact fun c hc => hmem n c hc ▸ SourceAttempts.failing_isFruitless 0
    · exact fun c hc => hmem n c hc ▸ rfl
    · intro c hc opened
      rw [hmem n c hc]
      simp [StreamSource.concludes, SourceAttempts.failing, geyserSource]
  · refine hn (StreamSource.run_waiting_of_opened (by decide) _ ?_ ?_ ?_
      (StreamSource.failing_init _))
    · exact fun c hc => hmem n c hc ▸ SourceAttempts.failing_isFruitless 0
    · exact fun c hc => hmem n c hc ▸ rfl
    · intro c hc opened
      rw [hmem n c hc]
      simp [StreamSource.concludes, SourceAttempts.failing, deshredSource]

end PumpLaunchTrader
