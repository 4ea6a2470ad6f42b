import PumpLaunchTrader.Model.HunterStream
import PumpLaunchTrader.Lib.Runs

/-! # Normal completion of a material-hunter run

The deadline takes a run for completed when no data loss was seen; a stop of the consumer
does so always. Neither looks at the updates that full queues discarded. -/

namespace PumpLaunchTrader

namespace HunterConnection

/-! ## Discarded updates -/

theorem queueFullCounts_modify (workers : List PartitionWorker) (partition : ℕ)
    {f : PartitionWorker → PartitionWorker}
    (hf : ∀ worker, (f worker).queueFullCount = worker.queueFullCount) :
    (workers.modify partition f).map (·.queueFullCount) = workers.map (·.queueFullCount) := by
  apply List.ext_getElem?
  intro i
  simp only [List.getElem?_map, List.getElem?_modify]
  cases workers[i]? with
  | none => rfl
  | some worker =>
      by_cases hi : partition = i
      · simp [hi, hf]
      · simp [hi]

/-- The task finds a full queue: the reader that of the router for an update that needs a worker,
or the router that of the worker to which it sends one. -/
def findsFull (connection : HunterConnection) (config : HunterConfig) : TaskAction → Bool
  | .read (some (.ok update)) =>
    connection.reading && updateNeedsWorker update && connection.routing &&
      decide (config.queueCapacity ≤ connection.routerQueue.length)
  | .route now =>
    match connection.routing, connection.routerQueue with
    | true, .update update :: _ =>
      let queue := connection.workers[connection.partitionOf config update]?.map (·.queue.length)
      match (connection.router.route config.router
        { now
          depth := queue.getD 0
          room := queue.any (· < config.router.partitionQueueCapacity) } update).1 with
      | .queueFull partition => decide (partition < connection.workers.length)
      | _ => false
    | _, _ => false
  | _ => false

theorem sum_queueFullCounts_modify (workers : List PartitionWorker) (partition : ℕ)
    {f : PartitionWorker → PartitionWorker}
    (hf : ∀ worker, (f worker).queueFullCount = worker.queueFullCount + 1) :
    ((workers.modify partition f).map (·.queueFullCount)).sum =
      (workers.map (·.queueFullCount)).sum + if partition < workers.length then 1 else 0 := by
  induction workers generalizing partition with
  | nil => simp
  | cons worker workers ih =>
      cases partition with
      | zero =>
          simp [hf]
          omega
      | succ partition => simp [ih, Nat.add_assoc]

section Counts

variable (config : HunterConfig) (connection : HunterConnection)

theorem routerQueueFullCount_recordUpdateKind (stats : ReaderStats) (update : SubscribeUpdate) :
    (stats.recordUpdateKind update).routerQueueFullCount = stats.routerQueueFullCount := by
  unfold ReaderStats.recordUpdateKind
  split <;> rfl

theorem discarded_readEnd (message : ReaderMessage) :
    (connection.readEnd config message).discarded = connection.discarded := by
  unfold readEnd
  split
  · rfl
  · split <;> rfl

theorem discarded_readUpdate (update : SubscribeUpdate) :
    (connection.readUpdate config update).discarded = connection.discarded +
      if updateNeedsWorker update && connection.routing &&
        decide (config.queueCapacity ≤ connection.routerQueue.length) then 1 else 0 := by
  have hkind := routerQueueFullCount_recordUpdateKind connection.stats update
  simp only [readUpdate]
  cases hneeds : updateNeedsWorker update with
  | false => simp [discarded, hkind]
  | true =>
      cases hrouting : connection.routing with
      | false => simp [discarded, hkind]
      | true =>
          by_cases hroom : connection.routerQueue.length < config.queueCapacity
          · simp [discarded, hkind, hroom]
          · simp [discarded, hkind, hroom, ReaderStats.recordQueueFull, Nat.add_right_comm]

theorem discarded_routeNext (now : ℕ) :
    (connection.routeNext config now).discarded =
      connection.discarded + if connection.findsFull config (.route now) then 1 else 0 := by
  unfold routeNext findsFull
  cases hrouting : connection.routing with
  | false => rfl
  | true =>
      cases hqueue : connection.routerQueue with
      | nil => rfl
      | cons message rest =>
          cases message with
          | update update =>
              simp only [routeUpdate, partitionOf]
              split
              · next h => simp [h, discarded]
              · next h => simp [h, discarded, queueFullCounts_modify]
              · next h =>
                  simp [h, discarded, sum_queueFullCounts_modify, ReaderStats.recordBackpressure,
                    Nat.add_assoc]
          | streamError status => rfl
          | streamClosed => rfl

/-- A task discards an update when it finds a full queue, and no other way. -/
theorem discarded_act (action : TaskAction) :
    (connection.act config action).discarded =
      connection.discarded + if connection.findsFull config action then 1 else 0 := by
  cases action with
  | read item =>
      simp only [act]
      cases hreading : connection.reading with
      | false =>
          cases item with
          | none => rfl
          | some item => cases item <;> simp [findsFull, hreading]
      | true =>
          cases item with
          | none => exact discarded_readEnd config connection _
          | some item =>
              cases item with
              | ok update => simpa [findsFull, hreading] using
                  discarded_readUpdate config connection update
              | error status => exact discarded_readEnd config connection _
  | route now => exact discarded_routeNext config connection now
  | takeBatch partition =>
      simp only [act, takeBatch, discarded, findsFull]
      rw [queueFullCounts_modify]
      · rfl
      · intro worker
        split <;> rfl
  | decode partition lag stamp =>
      simp only [act, decodeNext, findsFull]
      split
      · simp only [discarded]
        rw [queueFullCounts_modify]
        · split <;> rfl
        · exact fun _ => rfl
      · rfl

end Counts

end HunterConnection

namespace HunterRun

/-! ## Phases -/

/-- What the summary says while the main loop stands at a phase. -/
def Expects (summary : HunterSummary) : HunterPhase → Prop
  | .returned | .failed => True
  | .reporting .finish =>
    summary.providerBlockerClass = none ∧
      summary.streamCompletedNormally = !summary.providerDataLossSeen
  | .reporting .gap | .reporting .leave | .gapChoice => summary.streamCompletedNormally = false
  | _ => summary.providerBlockerClass = none ∧ summary.streamCompletedNormally = false

/-- The phases with a callback that may stop the run. -/
def asksConsumer : HunterPhase → Bool
  | .starting | .subscribed | .eventProgress _ | .eventAction _ | .closedProgress
  | .idleProgress => true
  | _ => false

/-- The input is a stop of the consumer that ends the run. -/
def stopsOn (s : HunterRun) (input : HunterInput) : Bool :=
  match input with
  | .callback (some .stop) => asksConsumer s.phase
  | _ => false

/-- The input is the report behind which the run returns at its deadline. -/
def finishesOn (s : HunterRun) (input : HunterInput) : Bool :=
  match input with
  | .callback (some _) => s.phase = .reporting .finish
  | _ => false

/-- A step either goes on, or returns: by a stop, at the deadline, or with a summary that is
not completed. -/
inductive StepCase (s : HunterRun) (input : HunterInput) : HunterRun → Prop where
  | goesOn {next : HunterRun} (hphase : next.phase ≠ .returned)
      (hexpects : Expects next.summary next.phase)
      (hstops : s.stopsOn input = false) (hfinishes : s.finishesOn input = false) :
      StepCase s input next
  | stopped (hstops : s.stopsOn input = true) (hblocker : s.summary.providerBlockerClass = none)
      (hfinishes : s.finishesOn input = false) : StepCase s input s.stop
  | finished (hstops : s.stopsOn input = false) (hfinishes : s.finishesOn input = true)
      (hblocker : s.summary.providerBlockerClass = none)
      (hcompleted : s.summary.streamCompletedNormally = !s.summary.providerDataLossSeen) :
      StepCase s input { s with phase := .returned }
  | left (hstops : s.stopsOn input = false) (hfinishes : s.finishesOn input = false)
      (hcompleted : s.summary.streamCompletedNormally = false) :
      StepCase s input { s with phase := .returned }
  | stayed (hphase : s.phase = .returned) (hstops : s.stopsOn input = false)
      (hfinishes : s.finishesOn input = false) : StepCase s input s

/-! ## Parts of a step -/

/-- The run has not returned, and the summary fits its phase. -/
def GoesOn (s : HunterRun) : Prop := s.phase ≠ .returned ∧ Expects s.summary s.phase

section Parts

variable (config : HunterConfig) {s : HunterRun}

@[simp] theorem readStats_phase : s.readStats.phase = s.phase := by
  unfold readStats
  split <;> rfl

@[simp] theorem readStats_blocker :
    s.readStats.summary.providerBlockerClass = s.summary.providerBlockerClass := by
  unfold readStats
  split <;> rfl

@[simp] theorem readStats_completed :
    s.readStats.summary.streamCompletedNormally = s.summary.streamCompletedNormally := by
  unfold readStats
  split <;> rfl

theorem reconnect_goesOn (hcompleted : s.summary.streamCompletedNormally = false)
    {retry : HunterRun → HunterRun}
    (hretry : ∀ next : HunterRun, next.summary.providerBlockerClass = none →
      next.summary.streamCompletedNormally = false → GoesOn (retry next)) :
    GoesOn (s.reconnect config retry) := by
  simp only [reconnect]
  split
  · exact hretry _ rfl hcompleted
  · exact ⟨by simp, hcompleted⟩

theorem onStatus_goesOn (hcompleted : s.summary.streamCompletedNormally = false)
    (status : HunterStatus) : GoesOn (s.onStatus config status) := by
  simp only [onStatus]
  split
  · exact ⟨by simp, hcompleted⟩
  · split
    · apply reconnect_goesOn
      · exact hcompleted
      · intro next hblocker hnext
        exact ⟨by simp, hblocker, hnext⟩
    · exact ⟨by simp, hcompleted⟩

theorem guard_goesOn (hblocker : s.summary.providerBlockerClass = none)
    (hcompleted : s.summary.streamCompletedNormally = false) {clear : HunterRun → HunterRun}
    (hclear : ∀ next : HunterRun, next.summary.providerBlockerClass = none →
      next.summary.streamCompletedNormally = false → GoesOn (clear next)) :
    GoesOn (s.guard clear) := by
  simp only [guard]
  split
  · exact ⟨by simp, rfl⟩
  · exact hclear _ (by simpa using hblocker) (by simpa using hcompleted)

variable (hblocker : s.summary.providerBlockerClass = none)
  (hcompleted : s.summary.streamCompletedNormally = false)

include hblocker hcompleted

theorem onConnect_goesOn (result : ConnectResult) : GoesOn (s.onConnect config result) := by
  cases result with
  | connected => exact ⟨by simp [onConnect], hblocker, hcompleted⟩
  | status status => exact onStatus_goesOn config hcompleted status
  | other text => exact ⟨by simp [onConnect], hcompleted⟩

theorem onReceive_goesOn (hphase : s.phase = .receiving) : GoesOn (s.onReceive config) := by
  have hsame : GoesOn s := by
    rw [GoesOn, hphase]
    exact ⟨by simp, hblocker, hcompleted⟩
  unfold onReceive
  split
  · exact hsame
  · split
    · split
      · exact ⟨by simp, by simpa [Expects] using ⟨hblocker, hcompleted⟩⟩
      · exact hsame
    · simp only
      split
      · apply onStatus_goesOn
        exact hcompleted
      · exact ⟨by simp, by simpa [Expects] using ⟨hblocker, hcompleted⟩⟩
      · exact ⟨by simp, by simpa [Expects] using ⟨hblocker, hcompleted⟩⟩

theorem countEvent_goesOn (event : NormalizedEvent) : GoesOn (s.countEvent event) := by
  unfold countEvent
  simp only
  split
  · exact ⟨by simp, hblocker, hcompleted⟩
  · exact ⟨by simp, hblocker, hcompleted⟩

theorem applyHint_goesOn (action : HunterAction) : GoesOn (s.applyHint action) := by
  unfold applyHint
  split
  · exact ⟨by simp, hblocker, hcompleted⟩
  · exact ⟨by simp, hblocker, hcompleted⟩

theorem guardEvent_goesOn : GoesOn s.guardEvent := by
  simp only [guardEvent]
  split
  · exact ⟨by simp, by simp [Expects]⟩
  · exact ⟨by simp, hblocker, hcompleted⟩

theorem onClosed_goesOn : GoesOn (s.onClosed config) := by
  unfold onClosed
  split
  · exact ⟨by simp [noteStalled], rfl⟩
  · exact ⟨by simp, hblocker, hcompleted⟩

theorem onIdle_goesOn : GoesOn s.onIdle := by
  unfold onIdle
  split
  · exact ⟨by simp, hblocker, hcompleted⟩
  · exact ⟨by simp, hblocker, hcompleted⟩

end Parts

/-! ## One step -/

section Steps

variable (config : HunterConfig) {s : HunterRun}

/-- A callback of a phase that asks the consumer. -/
theorem onCallback_case (hasks : asksConsumer s.phase = true)
    (hblocker : s.summary.providerBlockerClass = none) {next : HunterAction → HunterRun}
    (hnext : ∀ action, GoesOn (next action)) (answer : Option HunterAction) :
    StepCase s (.callback answer) (s.onCallback answer next) := by
  have hfinishes (input : HunterInput) : s.finishesOn input = false := by
    unfold finishesOn
    split
    · rename_i action
      cases hphase : s.phase with
      | reporting _ => simp [asksConsumer, hphase] at hasks
      | _ => simp
    · rfl
  cases answer with
  | none => exact .goesOn (by simp [onCallback]) (by simp [onCallback, Expects]) rfl (hfinishes _)
  | some action =>
      cases action with
      | stop => exact .stopped hasks hblocker (hfinishes _)
      | goOn => exact .goesOn (hnext _).1 (hnext _).2 rfl (hfinishes _)
      | continueWithStateHint hint => exact .goesOn (hnext _).1 (hnext _).2 rfl (hfinishes _)

theorem chooseGap_case
    (hcompleted : s.summary.streamCompletedNormally = false) :
    StepCase s .proceed (s.chooseGap config) := by
  unfold chooseGap
  split
  · have hgoes : GoesOn (s.reconnect config fun next =>
        { next with
          phase := .streaming
          summary := { next.summary with providerStatus := "reconnecting_after_gap" } }) := by
      apply reconnect_goesOn config hcompleted
      intro next hblocker hnext
      exact ⟨by simp, hblocker, hnext⟩
    exact .goesOn hgoes.1 hgoes.2 rfl rfl
  · exact .left rfl rfl hcompleted

/-- The deadline settles the flag by the data loss alone. -/
theorem finish_completed {summary : HunterSummary} (h : summary.providerBlockerClass = none) :
    summary.finish.streamCompletedNormally = !summary.providerDataLossSeen := by
  have hnormal : HunterSummary.isNormalStatus summary.finalStatus = true := by
    unfold HunterSummary.finalStatus
    split
    · decide
    · split <;> decide
  simp [HunterSummary.finish, h, hnormal]

/-- A step that answers no callback goes on, whatever it is. -/
theorem goesOn_case {input : HunterInput} {next : HunterRun} (h : GoesOn next)
    (hinput : ∀ answer, input ≠ .callback answer) : StepCase s input next := by
  refine .goesOn h.1 h.2 ?_ ?_
  · cases input with
    | callback answer => exact absurd rfl (hinput answer)
    | _ => rfl
  · cases input with
    | callback answer => exact absurd rfl (hinput answer)
    | _ => rfl

/-- Phases that ask nobody ignore answers. -/
theorem ignored_case (h : GoesOn s) (hasks : asksConsumer s.phase = false)
    (hreports : ∀ next, s.phase ≠ .reporting next) (input : HunterInput) :
    StepCase s input s := by
  refine .goesOn h.1 h.2 ?_ ?_
  · unfold stopsOn
    split
    · exact hasks
    · rfl
  · unfold finishesOn
    split
    · simpa using hreports .finish
    · rfl

theorem reporting_case {after : AfterReport} (hat : s.phase = .reporting after)
    (hexpects : Expects s.summary (.reporting after)) (answer : Option HunterAction) :
    StepCase s (.callback answer) (s.advance config (.callback answer)) := by
  have hstops (input : HunterInput) : s.stopsOn input = false := by
    unfold stopsOn
    split
    · rw [hat]
      rfl
    · rfl
  simp only [advance, hat]
  cases answer with
  | none => exact .goesOn (by simp) trivial (hstops _) rfl
  | some action =>
      cases after with
      | gap => exact .goesOn (by simp [afterReport]) hexpects (hstops _) (by simp [finishesOn, hat])
      | retry =>
          exact .goesOn (by simp [afterReport]) hexpects (hstops _) (by simp [finishesOn, hat])
      | leave => exact .left (hstops _) (by simp [finishesOn, hat]) hexpects
      | finish =>
          exact .finished (hstops _) (by simp [finishesOn, hat]) hexpects.1 hexpects.2

/-- A phase that waits for the consumer's answer goes on as the answer says. -/
theorem advance_case_of_asks (hexpects : Expects s.summary s.phase)
    (hasks : asksConsumer s.phase = true) (input : HunterInput) :
    StepCase s input (s.advance config input) := by
  have hsame : GoesOn s := by
    refine ⟨fun hreturned => ?_, hexpects⟩
    rw [hreturned] at hasks
    cases hasks
  cases hat : s.phase with
  | starting =>
      rw [hat] at hexpects
      cases input with
      | callback answer =>
          simp only [advance, hat]
          apply onCallback_case (by rw [hat]; rfl) hexpects.1
          exact fun _ => ⟨by simp, hexpects⟩
      | _ => simpa only [advance, hat] using goesOn_case hsame (by simp)
  | subscribed =>
      rw [hat] at hexpects
      cases input with
      | callback answer =>
          simp only [advance, hat]
          apply onCallback_case (by rw [hat]; rfl) hexpects.1
          exact fun _ => ⟨by simp [spawn], hexpects⟩
      | _ => simpa only [advance, hat] using goesOn_case hsame (by simp)
  | eventProgress event =>
      rw [hat] at hexpects
      cases input with
      | callback answer =>
          simp only [advance, hat]
          apply onCallback_case (by rw [hat]; rfl) hexpects.1
          exact fun _ => countEvent_goesOn hexpects.1 hexpects.2 event
      | _ => simpa only [advance, hat] using goesOn_case hsame (by simp)
  | eventAction event =>
      rw [hat] at hexpects
      cases input with
      | callback answer =>
          simp only [advance, hat]
          apply onCallback_case (by rw [hat]; rfl) hexpects.1
          exact applyHint_goesOn hexpects.1 hexpects.2
      | _ => simpa only [advance, hat] using goesOn_case hsame (by simp)
  | closedProgress =>
      rw [hat] at hexpects
      cases input with
      | callback answer =>
          simp only [advance, hat]
          apply onCallback_case (by rw [hat]; rfl) hexpects.1
          exact fun _ => onClosed_goesOn config hexpects.1 hexpects.2
      | _ => simpa only [advance, hat] using goesOn_case hsame (by simp)
  | idleProgress =>
      rw [hat] at hexpects
      cases input with
      | callback answer =>
          simp only [advance, hat]
          apply onCallback_case (by rw [hat]; rfl) hexpects.1
          exact fun _ => ⟨by simp, hexpects⟩
      | _ => simpa only [advance, hat] using goesOn_case hsame (by simp)
  | _ =>
      rw [hat] at hasks
      cases hasks

/-- A phase that asks nobody acts on its own input and ignores the others. -/
theorem advance_case_of_acts (hexpects : Expects s.summary s.phase) (hphase : s.phase ≠ .returned)
    (hasks : asksConsumer s.phase = false) (input : HunterInput) :
    StepCase s input (s.advance config input) := by
  have hsame : GoesOn s := ⟨hphase, hexpects⟩
  cases hat : s.phase with
  | reporting after =>
      rw [hat] at hexpects
      cases input with
      | callback answer => exact reporting_case config hat hexpects answer
      | _ => simpa only [advance, hat] using goesOn_case hsame (by simp)
  | streaming | polling =>
      rw [hat] at hexpects
      cases input with
      | proceed =>
          apply goesOn_case _ (by simp)
          simp only [advance, hat]
          split
          · exact ⟨by simp, hexpects⟩
          · exact ⟨by simp, hexpects⟩
      | _ =>
          simp only [advance, hat]
          exact ignored_case hsame (by rw [hat]; rfl) (by simp [hat]) _
  | connecting =>
      rw [hat] at hexpects
      cases input with
      | connect result =>
          apply goesOn_case _ (by simp)
          simpa only [advance, hat] using onConnect_goesOn config hexpects.1 hexpects.2 result
      | _ =>
          simp only [advance, hat]
          exact ignored_case hsame (by rw [hat]; rfl) (by simp [hat]) _
  | guarding =>
      rw [hat] at hexpects
      cases input with
      | proceed =>
          apply goesOn_case _ (by simp)
          simp only [advance, hat]
          apply guard_goesOn hexpects.1 hexpects.2
          exact fun next hblocker hcompleted => ⟨by simp, hblocker, hcompleted⟩
      | _ =>
          simp only [advance, hat]
          exact ignored_case hsame (by rw [hat]; rfl) (by simp [hat]) _
  | receiving =>
      rw [hat] at hexpects
      cases input with
      | receive =>
          apply goesOn_case _ (by simp)
          simpa only [advance, hat] using onReceive_goesOn config hexpects.1 hexpects.2 hat
      | timeout =>
          apply goesOn_case _ (by simp)
          simp only [advance, hat]
          exact ⟨by simp, hexpects⟩
      | _ =>
          simp only [advance, hat]
          exact ignored_case hsame (by rw [hat]; rfl) (by simp [hat]) _
  | eventGuard =>
      rw [hat] at hexpects
      cases input with
      | proceed =>
          apply goesOn_case _ (by simp)
          simpa only [advance, hat] using guardEvent_goesOn hexpects.1 hexpects.2
      | _ =>
          simp only [advance, hat]
          exact ignored_case hsame (by rw [hat]; rfl) (by simp [hat]) _
  | idleGuard =>
      rw [hat] at hexpects
      cases input with
      | proceed =>
          apply goesOn_case _ (by simp)
          simp only [advance, hat]
          apply guard_goesOn hexpects.1 hexpects.2
          exact fun next hblocker hcompleted => onIdle_goesOn hblocker hcompleted
      | _ =>
          simp only [advance, hat]
          exact ignored_case hsame (by rw [hat]; rfl) (by simp [hat]) _
  | gapChoice =>
      rw [hat] at hexpects
      cases input with
      | proceed => simpa only [advance, hat] using chooseGap_case config hexpects
      | _ =>
          simp only [advance, hat]
          exact ignored_case hsame (by rw [hat]; rfl) (by simp [hat]) _
  | ending =>
      rw [hat] at hexpects
      cases input with
      | proceed =>
          apply goesOn_case _ (by simp)
          simp only [advance, hat]
          exact ⟨by simp, hexpects.1, finish_completed hexpects.1⟩
      | _ =>
          simp only [advance, hat]
          exact ignored_case hsame (by rw [hat]; rfl) (by simp [hat]) _
  | returned => exact absurd hat hphase
  | failed =>
      cases input with
      | _ =>
          simp only [advance, hat]
          exact ignored_case hsame (by rw [hat]; rfl) (by simp [hat]) _
  | _ =>
      rw [hat] at hasks
      cases hasks

theorem advance_case (hexpects : Expects s.summary s.phase) (hphase : s.phase ≠ .returned)
    (input : HunterInput) : StepCase s input (s.advance config input) := by
  cases hasks : asksConsumer s.phase with
  | true => exact advance_case_of_asks config hexpects hasks input
  | false => exact advance_case_of_acts config hexpects hphase hasks input

theorem step_case (hexpects : Expects s.summary s.phase) (input : HunterInput) :
    StepCase s input (s.step config input) := by
  unfold step
  split
  · rename_i hover
    have hasks : asksConsumer s.phase = false := by
      rcases hover with hat | hat <;> rw [hat] <;> rfl
    have hreports (next : AfterReport) : s.phase ≠ .reporting next := by
      rcases hover with hat | hat <;> simp [hat]
    have hstops : s.stopsOn input = false := by
      unfold stopsOn
      split
      · exact hasks
      · rfl
    rcases hover with hat | hat
    · exact .stayed hat hstops (by unfold finishesOn; split <;> simp [hat])
    · exact ignored_case ⟨by simp [hat], hexpects⟩ hasks hreports input
  · rename_i hover
    have hphase : s.phase ≠ .returned := fun hat => hover (.inl hat)
    cases input with
    | elapse ms => exact goesOn_case ⟨hphase, hexpects⟩ (by simp)
    | task connection action => exact goesOn_case ⟨hphase, hexpects⟩ (by simp)
    | _ => exact advance_case config hexpects hphase _

theorem expects_step (hexpects : Expects s.summary s.phase) (input : HunterInput) :
    Expects (s.step config input).summary (s.step config input).phase := by
  have hcase := step_case config hexpects input
  generalize s.step config input = next at hcase
  cases hcase with
  | goesOn _ hnext => exact hnext
  | stopped => trivial
  | finished => trivial
  | left => trivial
  | stayed => exact hexpects

end Steps

/-! ## Losses of a run -/

/-- The main loop takes a status of a data-loss class, from a connect attempt or from its
present connection. -/
def takesLoss (s : HunterRun) (input : HunterInput) : Bool :=
  match s.phase, input with
  | .connecting, .connect (.status status) => (statusClass status).dataLoss
  | .receiving, .receive =>
    match s.connections.head?.bind (·.outputs.head?) with
    | some (.streamError status) => (statusClass status).dataLoss
    | _ => false
  | _, _ => false

/-- A task of a connection finds a full queue. -/
def findsFull (config : HunterConfig) (s : HunterRun) (input : HunterInput) : Bool :=
  match input with
  | .task connection action =>
    decide (s.phase ≠ .returned ∧ s.phase ≠ .failed) &&
      s.connections[connection]?.any (·.findsFull config action)
  | _ => false

/-- The data loss and the discards of a run go on as they were. -/
structure KeepsLosses (s next : HunterRun) : Prop where
  loss : next.summary.providerDataLossSeen = s.summary.providerDataLossSeen
  discarded : next.discarded = s.discarded

section Losses

variable (config : HunterConfig) {s : HunterRun}

theorem KeepsLosses.trans {next last : HunterRun} (h : KeepsLosses s next)
    (hlast : KeepsLosses next last) : KeepsLosses s last :=
  ⟨hlast.loss.trans h.loss, hlast.discarded.trans h.discarded⟩

theorem KeepsLosses.readStats {next : HunterRun} (h : KeepsLosses s next) :
    KeepsLosses s next.readStats := by
  unfold HunterRun.readStats
  split
  · exact h
  · exact h.trans ⟨rfl, rfl⟩

theorem keepsLosses_onCallback {next : HunterAction → HunterRun}
    (h : ∀ action, KeepsLosses s (next action)) (answer : Option HunterAction) :
    KeepsLosses s (s.onCallback answer next) := by
  unfold onCallback
  split
  · exact ⟨rfl, rfl⟩
  · exact ⟨rfl, rfl⟩
  · exact h _

theorem KeepsLosses.reconnect {next : HunterRun} (h : KeepsLosses s next)
    {retry : HunterRun → HunterRun}
    (hretry : ∀ next, KeepsLosses s next → KeepsLosses s (retry next)) :
    KeepsLosses s (next.reconnect config retry) := by
  simp only [HunterRun.reconnect]
  split
  · exact hretry _ ⟨h.loss, h.discarded⟩
  · exact ⟨h.loss, h.discarded⟩

theorem keepsLosses_guard (s : HunterRun) {clear : HunterRun → HunterRun}
    (hclear : ∀ next, KeepsLosses s next → KeepsLosses s (clear next)) :
    KeepsLosses s (s.guard clear) := by
  have hread : KeepsLosses s s.readStats := KeepsLosses.readStats ⟨rfl, rfl⟩
  simp only [guard]
  split
  · exact ⟨hread.loss, hread.discarded⟩
  · exact hclear _ hread

/-- A status sets the flag when its class is a data loss. -/
theorem losses_onStatus (s : HunterRun) (status : HunterStatus) :
    (s.onStatus config status).summary.providerDataLossSeen =
        (s.summary.providerDataLossSeen || (statusClass status).dataLoss) ∧
      (s.onStatus config status).discarded = s.discarded := by
  cases hloss : (statusClass status).dataLoss with
  | true =>
      simp only [onStatus, hloss, if_true]
      exact ⟨(Bool.or_true _).symm, rfl⟩
  | false =>
      have hkept : KeepsLosses s (s.onStatus config status) := by
        simp only [onStatus, hloss, Bool.false_eq_true, if_false]
        split
        · apply KeepsLosses.reconnect config
          · exact ⟨rfl, rfl⟩
          · exact fun _ h => ⟨h.loss, h.discarded⟩
        · exact ⟨rfl, rfl⟩
      rw [Bool.or_false]
      exact ⟨hkept.loss, hkept.discarded⟩

theorem keepsLosses_countEvent (s : HunterRun) (event : NormalizedEvent) :
    KeepsLosses s (s.countEvent event) := by
  unfold countEvent
  simp only
  split <;> exact ⟨rfl, rfl⟩

theorem keepsLosses_applyHint (s : HunterRun) (action : HunterAction) :
    KeepsLosses s (s.applyHint action) := by
  unfold applyHint
  split
  · next connection others hconnections =>
      exact ⟨rfl, by simp [discarded, hconnections, HunterConnection.discarded]⟩
  · exact ⟨rfl, rfl⟩

theorem keepsLosses_guardEvent (s : HunterRun) : KeepsLosses s s.guardEvent := by
  simp only [guardEvent]
  split
  · exact KeepsLosses.readStats ⟨rfl, rfl⟩
  · exact ⟨rfl, rfl⟩

theorem keepsLosses_onClosed (s : HunterRun) : KeepsLosses s (s.onClosed config) := by
  unfold onClosed
  split <;> exact ⟨rfl, rfl⟩

theorem keepsLosses_onIdle (s : HunterRun) : KeepsLosses s s.onIdle := by
  unfold onIdle
  split <;> exact ⟨rfl, rfl⟩

theorem keepsLosses_chooseGap (s : HunterRun) : KeepsLosses s (s.chooseGap config) := by
  unfold chooseGap
  split
  · apply KeepsLosses.reconnect config
    · exact ⟨rfl, rfl⟩
    · exact fun _ h => ⟨h.loss, h.discarded⟩
  · exact ⟨rfl, rfl⟩

/-- What the main loop receives sets the flag when it is a status of a data-loss class. -/
theorem losses_onReceive (hphase : s.phase = .receiving) :
    (s.onReceive config).summary.providerDataLossSeen =
        (s.summary.providerDataLossSeen || s.takesLoss .receive) ∧
      (s.onReceive config).discarded = s.discarded := by
  unfold onReceive takesLoss
  rw [hphase]
  cases hconnections : s.connections with
  | nil => simp
  | cons connection others =>
      cases houtputs : connection.outputs with
      | nil =>
          simp only [List.head?_cons, Option.bind_some, houtputs, List.head?_nil, Bool.or_false]
          split
          · have hread : KeepsLosses s s.readStats := KeepsLosses.readStats ⟨rfl, rfl⟩
            exact ⟨hread.loss, hread.discarded⟩
          · exact ⟨rfl, rfl⟩
      | cons output rest =>
          have htaken : KeepsLosses s
              { s with connections := { connection with outputs := rest } :: others } :=
            ⟨rfl, by simp [discarded, hconnections, HunterConnection.discarded]⟩
          simp only [List.head?_cons, Option.bind_some, houtputs]
          cases output with
          | streamError status =>
              obtain ⟨hloss, hdiscarded⟩ := losses_onStatus config
                { s with connections := { connection with outputs := rest } :: others } status
              exact ⟨hloss, hdiscarded.trans htaken.discarded⟩
          | streamClosed =>
              rw [Bool.or_false]
              exact ⟨htaken.readStats.loss, htaken.readStats.discarded⟩
          | event event =>
              rw [Bool.or_false]
              exact ⟨htaken.readStats.loss, htaken.readStats.discarded⟩

/-- The main loop sets the flag of a data loss exactly when it takes a status of such a class,
and discards nothing itself. -/
theorem losses_advance (s : HunterRun) (input : HunterInput) :
    (s.advance config input).summary.providerDataLossSeen =
        (s.summary.providerDataLossSeen || s.takesLoss input) ∧
      (s.advance config input).discarded = s.discarded := by
  have hkept {next : HunterRun} (hloss : s.takesLoss input = false) (h : KeepsLosses s next) :
      next.summary.providerDataLossSeen =
          (s.summary.providerDataLossSeen || s.takesLoss input) ∧
        next.discarded = s.discarded := by
    rw [hloss, Bool.or_false]
    exact ⟨h.loss, h.discarded⟩
  unfold advance
  split
  case h_3 result hphase =>
    cases result with
    | status status =>
        simp only [takesLoss, hphase]
        exact losses_onStatus config s status
    | connected | other text =>
        apply hkept (by simp only [takesLoss, hphase])
        exact ⟨rfl, rfl⟩
  case h_7 hphase => exact losses_onReceive config hphase
  case h_18 hconnecting _ _ _ hreceiving _ _ _ _ _ _ _ _ _ _ =>
    refine hkept ?_ ⟨rfl, rfl⟩
    unfold takesLoss
    split
    · exact (hconnecting _ ‹s.phase = .connecting› rfl).elim
    · exact (hreceiving ‹s.phase = .receiving› rfl).elim
    · rfl
  all_goals
    rename_i hphase
    apply hkept (by simp only [takesLoss, hphase])
  case h_1 | h_14 =>
    apply keepsLosses_onCallback
    exact fun _ => ⟨rfl, rfl⟩
  case h_4 =>
    apply keepsLosses_onCallback
    intro action
    exact ⟨rfl, by simp [spawn, discarded, HunterConnection.spawn, HunterConnection.discarded]⟩
  case h_6 => exact keepsLosses_guard s fun _ h => ⟨h.loss, h.discarded⟩
  case h_9 event _ => exact keepsLosses_onCallback (fun _ => keepsLosses_countEvent s event) _
  case h_10 => exact keepsLosses_onCallback (keepsLosses_applyHint s) _
  case h_11 => exact keepsLosses_guardEvent s
  case h_12 => exact keepsLosses_onCallback (fun _ => keepsLosses_onClosed config s) _
  case h_13 => exact keepsLosses_guard s fun next h => h.trans (keepsLosses_onIdle next)
  case h_15 =>
    split
    · exact ⟨rfl, rfl⟩
    · unfold afterReport
      split <;> exact ⟨rfl, rfl⟩
  case h_16 => exact keepsLosses_chooseGap config s
  all_goals exact ⟨rfl, rfl⟩

theorem discarded_modify (connections : List HunterConnection) (i : ℕ) (action : TaskAction) :
    ((connections.modify i (·.act config action)).map (·.discarded)).sum =
      (connections.map (·.discarded)).sum +
        if connections[i]?.any (·.findsFull config action) then 1 else 0 := by
  induction connections generalizing i with
  | nil => simp
  | cons connection connections ih =>
      cases i with
      | zero =>
          simp [HunterConnection.discarded_act]
          omega
      | succ i => simp [ih, Nat.add_assoc]

/-- A step sets the flag of a data loss exactly when the main loop takes a status of such a
class, and discards an update exactly when a task finds a full queue. -/
theorem losses_step (s : HunterRun) (input : HunterInput) :
    (s.step config input).summary.providerDataLossSeen =
        (s.summary.providerDataLossSeen || s.takesLoss input) ∧
      (s.step config input).discarded =
        s.discarded + if s.findsFull config input then 1 else 0 := by
  unfold step
  split
  · next hover =>
      have hloss : s.takesLoss input = false := by
        unfold takesLoss
        rcases hover with hphase | hphase <;> rw [hphase]
      have hfull : s.findsFull config input = false := by
        unfold findsFull
        split
        · rcases hover with hphase | hphase <;> simp [hphase]
        · rfl
      simp [hloss, hfull]
  · next hon =>
      cases input with
      | elapse ms => simp [takesLoss, findsFull, discarded]
      | task connection action =>
          have hlive : s.phase ≠ .returned ∧ s.phase ≠ .failed := not_or.mp hon
          refine ⟨by simp [takesLoss], ?_⟩
          simp only [discarded, discarded_modify, findsFull, hlive, ne_eq, not_false_iff, and_self,
            decide_true, Bool.true_and]
      | proceed | connect result | callback answer | receive | timeout =>
          exact losses_advance config s _

/-- A run has seen a data loss when the main loop took a status of such a class. -/
theorem dataLossSeen_run_iff (inputs : List HunterInput) :
    (inputs.foldl (step config) (start config)).summary.providerDataLossSeen = false ↔
      Runs.Along (step config) (fun s input => s.takesLoss input = false) (start config)
        inputs := by
  rw [Runs.flag_foldl_eq_false_iff (fun s : HunterRun => s.summary.providerDataLossSeen)
    fun s input => (losses_step config s input).1]
  exact and_iff_right rfl

/-- The discards of a run are the full queues that its tasks found. -/
theorem discarded_run_eq_zero_iff (inputs : List HunterInput) :
    (inputs.foldl (step config) (start config)).discarded = 0 ↔
      Runs.Along (step config) (fun s input => s.findsFull config input = false) (start config)
        inputs := by
  rw [Runs.reading_foldl_occurrences discarded fun s input => (losses_step config s input).2,
    ← Runs.occurrences_eq_zero_iff]
  have hstart : (start config).discarded = 0 := rfl
  rw [hstart, Nat.zero_add]

end Losses

/-! ## Runs -/

/-- A returned summary that says completed saw no data loss and no blocker, and no full queue
discarded an update. -/
def CompletesCleanly (s : HunterRun) : Prop :=
  s.phase = .returned → s.summary.streamCompletedNormally = true →
    s.summary.providerDataLossSeen = false ∧ s.summary.providerBlockerClass = none ∧
      s.discarded = 0

/-- The consumer does not stop a run that lost data, and a run that discarded an update does
not reach its deadline unless it also saw a data loss. -/
def EndsClean (s : HunterRun) (input : HunterInput) : Prop :=
  (s.stopsOn input = true → s.summary.providerDataLossSeen = false ∧ s.discarded = 0) ∧
    (s.finishesOn input = true → s.summary.providerDataLossSeen = true ∨ s.discarded = 0)

/-- After a run, an end is clean by what the run took and found so far. -/
theorem endsClean_run_iff (config : HunterConfig) (before : List HunterInput)
    (input : HunterInput) :
    let lossless := Runs.Along (step config) (fun s input => s.takesLoss input = false)
      (start config) before
    let roomy := Runs.Along (step config) (fun s input => s.findsFull config input = false)
      (start config) before
    (before.foldl (step config) (start config)).EndsClean input ↔
      ((before.foldl (step config) (start config)).stopsOn input = true → lossless ∧ roomy) ∧
        ((before.foldl (step config) (start config)).finishesOn input = true →
          ¬ lossless ∨ roomy) := by
  simp only [EndsClean, ← dataLossSeen_run_iff, ← discarded_run_eq_zero_iff,
    Bool.not_eq_false]

theorem completesCleanly_step_iff (config : HunterConfig) {s : HunterRun}
    (hclean : s.CompletesCleanly) (hexpects : Expects s.summary s.phase) (input : HunterInput) :
    (s.step config input).CompletesCleanly ↔ s.EndsClean input := by
  have hcase := step_case config hexpects input
  generalize s.step config input = next at hcase
  cases hcase with
  | goesOn hphase _ hstops hfinishes =>
      exact iff_of_true (fun hreturned => absurd hreturned hphase)
        ⟨by simp [hstops], by simp [hfinishes]⟩
  | stopped hstops hblocker hfinishes =>
      constructor
      · intro h
        obtain ⟨hloss, -, hdiscarded⟩ := h rfl rfl
        exact ⟨fun _ => ⟨hloss, hdiscarded⟩, by simp [hfinishes]⟩
      · rintro ⟨hstop, -⟩ - -
        obtain ⟨hloss, hdiscarded⟩ := hstop hstops
        exact ⟨hloss, hblocker, hdiscarded⟩
  | finished hstops hfinishes hblocker hcompleted =>
      constructor
      · intro h
        refine ⟨by simp [hstops], fun _ => ?_⟩
        cases hloss : s.summary.providerDataLossSeen with
        | true => exact .inl rfl
        | false => exact .inr (h rfl (by simp [hcompleted, hloss])).2.2
      · rintro ⟨-, hfinish⟩ - hflag
        have hloss : s.summary.providerDataLossSeen = false := by simpa [hcompleted] using hflag
        exact ⟨hloss, hblocker, (hfinish hfinishes).resolve_left (by simp [hloss])⟩
  | left hstops hfinishes hcompleted =>
      refine iff_of_true (fun _ hflag => ?_) ⟨by simp [hstops], by simp [hfinishes]⟩
      simp [hcompleted] at hflag
  | stayed hphase hstops hfinishes =>
      exact iff_of_true hclean ⟨by simp [hstops], by simp [hfinishes]⟩

theorem expects_start (config : HunterConfig) :
    Expects (start config).summary (start config).phase := by
  unfold start
  cases config.endpointUsable with
  | true => exact ⟨rfl, rfl⟩
  | false => trivial

theorem expects_along (config : HunterConfig) {s : HunterRun}
    (h : Expects s.summary s.phase) (inputs : List HunterInput) :
    Runs.Along (step config) (fun s _ => Expects s.summary s.phase) s inputs := by
  induction inputs generalizing s with
  | nil => trivial
  | cons input inputs ih => exact ⟨h, ih (expects_step config h input)⟩

/-- A run reports normal completion only without loss exactly when all of its ends are clean. -/
theorem completesCleanly_iff (config : HunterConfig) (inputs : List HunterInput) :
    (∀ before after, inputs = before ++ after →
      (before.foldl (step config) (start config)).CompletesCleanly) ↔
      Runs.Along (step config) EndsClean (start config) inputs := by
  apply Runs.forall_reached_iff_along (Q := fun s _ => Expects s.summary s.phase)
  · intro s input hclean hexpects
    exact completesCleanly_step_iff config hclean hexpects input
  · intro hreturned
    unfold start at hreturned
    cases husable : config.endpointUsable with
    | true => simp [husable] at hreturned
    | false => simp [husable] at hreturned
  · exact expects_along config (expects_start config) inputs

/-- A configuration that connects again behind gaps. -/
def gapTolerantConfig : HunterConfig where
  durationSeconds := 60
  gapTolerantSegments := true
  geyser := {}
  routerQueueCapacity := 128
  router := {
    workerPartitions := 1
    clamped := RouterConfig.clamped_one
    partitionQueueCapacity := 1
    pressure := {
      maxQueuedUpdatesPerMint := 100
      maxUpdatesPerSecond := 100
      maxDeepUpdatesPerCheckpoint := 100
      noisyDegradeEnabled := false
      noisyDegradeReason := ""
      coalesceWindow := 1
      deltaFlushInterval := 1
      softDepth := fun capacity => capacity } }
  partitionBatchSize := 1
  workerLagBlockerMs := 1000
  idls := []

def laggedStatus : HunterStatus where
  code := .dataLoss
  text := "lagged"
  message := "lagged"

/-- The stream ends with a data loss, the next connection opens, and the consumer stops. -/
def stopAfterLoss : List HunterInput :=
  [.callback (some .goOn), .proceed, .connect .connected, .callback (some .goOn),
    .task 0 (.read (some (.error laggedStatus))), .task 0 (.route 0),
    .proceed, .proceed, .receive, .callback (some .goOn), .proceed, .proceed,
    .connect .connected, .callback (some .stop)]

/-- A run that lost data completes normally. -/
theorem stopAfterLoss_completes :
    ¬ (stopAfterLoss.foldl (step gapTolerantConfig)
        (start gapTolerantConfig)).CompletesCleanly := by
  intro h
  exact absurd (h (by decide +kernel) (by decide +kernel)).1 (by decide +kernel)

end HunterRun

end PumpLaunchTrader
