import PumpLaunchTrader.ShredExit.Calls
import PumpLaunchTrader.Supervisor.Handling

/-! # The end of a run

The end of a run lets pending sells expire one reconciliation time after the last price,
or after the clock when no token has a price. An expiry renews the lifetime of its token,
so that the state at the end depends on that time exactly when a sell expires. -/

namespace PumpLaunchTrader

/-- An event that expires a tentative sell of the mint `k` at `now`. -/
structure NormalizedEvent.IsExpiry (event : NormalizedEvent) (k : String)
    (now : OffsetDateTime) : Prop where
  canonicality : event.info.canonicality ≠ .reverted
  receivedAt : event.info.receivedAtWallTime = now
  payload : ∃ resolved : ShredSellIntentResolvedEvent,
    event.payload = .shredSellIntentResolved resolved ∧ resolved.mint.text = k ∧
      resolved.outcome = .notSeenWithinTtl

theorem NormalizedEvent.IsExpiry.mint {event : NormalizedEvent} {k : String}
    {now : OffsetDateTime} (h : event.IsExpiry k now) :
    event.mint.map PubkeyValue.text = some k := by
  obtain ⟨resolved, hpayload, hmint, -⟩ := h.payload
  simp [NormalizedEvent.mint, hpayload, hmint]

theorem TokenState.expiresAt_recomputeTransition (token : TokenState) (event : NormalizedEvent)
    (ttl : TtlConfig) :
    (token.recomputeTransition event ttl).1.expiresAt =
      some (event.info.receivedAtWallTime +
        ttlForConfig ttl (token.recomputeTransition event ttl).1.lifecycle) := by
  simp only [recomputeTransition, renewExpiry, updateMemoryBytes]

theorem TokenState.notSeenTotal_applyShredSellResolved (token : TokenState)
    {resolved : ShredSellIntentResolvedEvent} (h : resolved.outcome = .notSeenWithinTtl) :
    (token.applyShredSellResolved resolved).shredDefense.tentativeSellNotSeenTotal =
      token.shredDefense.tentativeSellNotSeenTotal + 1 := by
  simp only [applyShredSellResolved, updateMemoryBytes, clearActiveSignal, countResolution, h]
  split
  · rfl
  · rfl

/-! ## Expiries of the state -/

namespace StateEngine

/-- The sells of the mint `k` that were never seen. -/
def notSeenTotal (s : StateEngine) (k : String) : ℕ :=
  ((s.tokens.lookup k).map fun token => token.shredDefense.tentativeSellNotSeenTotal).getD 0

/-- The lifetime of the token of `k` runs from `now`. -/
def RenewedAt (s : StateEngine) (k : String) (now : OffsetDateTime) : Prop :=
  ∃ token, s.tokens.lookup k = some token ∧
    token.expiresAt = some (now + ttlForConfig s.ttl token.lifecycle)

theorem RenewedAt.now_unique {s : StateEngine} {k : String} {now other : OffsetDateTime}
    (h : s.RenewedAt k now) (hother : s.RenewedAt k other) : now = other := by
  obtain ⟨token, htoken, hexpires⟩ := h
  obtain ⟨token', htoken', hexpires'⟩ := hother
  rw [htoken, Option.some.injEq] at htoken'
  subst htoken'
  rw [hexpires, Option.some.injEq] at hexpires'
  exact add_right_cancel hexpires'

section expiry

variable {s : StateEngine} {event : NormalizedEvent} {k : String} {now : OffsetDateTime}
  (h : event.IsExpiry k now)

include h

/-- An expiry rewrites the token of its mint. -/
theorem applyPayload_expiry :
    ∃ resolved : ShredSellIntentResolvedEvent, resolved.outcome = .notSeenWithinTtl ∧
      resolved.mint.text = k ∧
      s.applyPayload event = s.withToken resolved.mint event.info.source fun token =>
        token.applyShredSellResolved resolved := by
  obtain ⟨resolved, hpayload, hmint, houtcome⟩ := h.payload
  refine ⟨resolved, houtcome, hmint, ?_⟩
  unfold applyPayload
  rw [hpayload]
  rfl

theorem clusterAffectedWallets_expiry (r : StateEngine) :
    r.clusterAffectedWallets event = none := by
  obtain ⟨resolved, hpayload, -, -⟩ := h.payload
  unfold clusterAffectedWallets
  rw [hpayload]

theorem ttl_refreshDerived_expiry :
    ((s.applyPayload event).refreshDerivedIndicesForEvent event).ttl = s.ttl := by
  obtain ⟨resolved, -, -, happlied⟩ := applyPayload_expiry (s := s) h
  unfold refreshDerivedIndicesForEvent
  rw [clusterAffectedWallets_expiry h, happlied]
  cases event.mint with
  | none => rfl
  | some mint => rfl

theorem ttl_applyEvent_expiry : (s.applyEvent event).1.ttl = s.ttl := by
  rw [← ttl_refreshDerived_expiry (s := s) h]
  unfold applyEvent recomputeTransitions
  rw [if_neg h.canonicality]
  split
  · rfl
  · split
    · rfl
    · rfl

/-- An expiry leaves the tokens of other mints alone. -/
theorem lookup_applyEvent_expiry_ne {j : String} (hj : j ≠ k) :
    (s.applyEvent event).1.tokens.lookup j = s.tokens.lookup j := by
  obtain ⟨resolved, -, hmint, happlied⟩ := applyPayload_expiry (s := s) h
  have hne : ¬ event.mint.map PubkeyValue.text = some j := by
    rw [h.mint, Option.some.injEq]
    exact fun he => hj he.symm
  have hrefresh : ∀ r : StateEngine, r.derivedRefresh event j = id := by
    intro r
    funext token
    unfold derivedRefresh
    rw [clusterAffectedWallets_expiry h]
    exact if_neg hne
  unfold applyEvent
  rw [if_neg h.canonicality, lookup_recomputeTransitions, if_neg hne, lookup_refreshDerived,
    hrefresh, Option.map_id, id, happlied]
  apply KeyedMap.lookup_upsert_ne
  rw [hmint]
  exact hj

/-- An expiry counts one more sell of its mint that was never seen. -/
theorem notSeenTotal_applyEvent_expiry (j : String) :
    (s.applyEvent event).1.notSeenTotal j = s.notSeenTotal j + if k = j then 1 else 0 := by
  obtain ⟨resolved, houtcome, hmint, happlied⟩ := applyPayload_expiry (s := s) h
  by_cases hk : k = j
  · subst hk
    have hafter : (s.applyEvent event).1.notSeenTotal k =
        (s.applyPayload event).notSeenTotal k := by
      unfold notSeenTotal
      rw [TokenState.field_of_core (fun _ => rfl) (s.core_applyEvent h.canonicality k)]
    rw [hafter, happlied, ← hmint, if_pos rfl]
    unfold notSeenTotal withToken
    rw [KeyedMap.lookup_upsert_self, Option.map_some, Option.getD_some,
      TokenState.notSeenTotal_applyShredSellResolved _ houtcome]
    cases s.tokens.lookup resolved.mint.text with
    | none => rfl
    | some token => rfl
  · unfold notSeenTotal
    rw [lookup_applyEvent_expiry_ne h (fun he => hk he.symm), if_neg hk]
    rfl

/-- An expiry renews the lifetime of its token. -/
theorem renewedAt_applyEvent_expiry : (s.applyEvent event).1.RenewedAt k now := by
  obtain ⟨resolved, -, hmint, happlied⟩ := applyPayload_expiry (s := s) h
  obtain ⟨token, htoken⟩ : ∃ token, (s.applyPayload event).tokens.lookup k = some token := by
    rw [happlied, ← hmint]
    exact ⟨_, KeyedMap.lookup_upsert_self _ _ _ _⟩
  have hlookup : (s.applyEvent event).1.tokens.lookup k =
      some ((((s.applyPayload event).derivedRefresh event k token).recomputeTransition event
        s.ttl).1) := by
    unfold applyEvent
    rw [if_neg h.canonicality, lookup_recomputeTransitions, if_pos h.mint, lookup_refreshDerived,
      htoken, ttl_refreshDerived_expiry h]
    rfl
  refine ⟨_, hlookup, ?_⟩
  rw [TokenState.expiresAt_recomputeTransition, h.receivedAt, ttl_applyEvent_expiry h]

/-- Expiries at one time keep the lifetimes that run from it. -/
theorem RenewedAt.applyEvent_expiry {j : String} (hs : s.RenewedAt j now) :
    (s.applyEvent event).1.RenewedAt j now := by
  by_cases hj : j = k
  · rw [hj]
    exact renewedAt_applyEvent_expiry h
  · obtain ⟨token, htoken, hexpires⟩ := hs
    refine ⟨token, ?_, ?_⟩
    · rw [lookup_applyEvent_expiry_ne h hj]
      exact htoken
    · rw [ttl_applyEvent_expiry h]
      exact hexpires

end expiry

/-- Events that expire tentative sells at `now`. -/
def AllExpire (events : List NormalizedEvent) (now : OffsetDateTime) : Prop :=
  ∀ event ∈ events, ∃ k, event.IsExpiry k now

theorem notSeenTotal_applyEvents {events : List NormalizedEvent} {now : OffsetDateTime}
    (h : AllExpire events now) (s : StateEngine) (j : String) :
    (s.applyEvents events).notSeenTotal j =
      s.notSeenTotal j + events.countP fun event => event.mint.map PubkeyValue.text = some j := by
  induction events generalizing s with
  | nil => rfl
  | cons event events ih =>
      obtain ⟨k, hevent⟩ := h event List.mem_cons_self
      have hrest : AllExpire events now := fun e he => h e (List.mem_cons_of_mem _ he)
      rw [applyEvents_cons, ih hrest, notSeenTotal_applyEvent_expiry hevent, List.countP_cons,
        hevent.mint]
      simp only [Option.some.injEq, decide_eq_true_eq]
      omega

theorem RenewedAt.applyEvents {s : StateEngine} {events : List NormalizedEvent}
    {now : OffsetDateTime} (h : AllExpire events now) {j : String} (hs : s.RenewedAt j now) :
    (s.applyEvents events).RenewedAt j now := by
  induction events generalizing s with
  | nil => exact hs
  | cons event events ih =>
      obtain ⟨k, hevent⟩ := h event List.mem_cons_self
      exact ih (fun e he => h e (List.mem_cons_of_mem _ he)) (hs.applyEvent_expiry hevent)

/-- Whichever of them comes last, the expiries of a mint renew its token. -/
theorem renewedAt_applyEvents {events : List NormalizedEvent} {now : OffsetDateTime}
    (h : AllExpire events now) (s : StateEngine) {j : String}
    (hj : 0 < events.countP fun event => event.mint.map PubkeyValue.text = some j) :
    (s.applyEvents events).RenewedAt j now := by
  induction events generalizing s with
  | nil => simp at hj
  | cons event events ih =>
      obtain ⟨k, hevent⟩ := h event List.mem_cons_self
      have hrest : AllExpire events now := fun e he => h e (List.mem_cons_of_mem _ he)
      rw [applyEvents_cons]
      by_cases hk : k = j
      · subst hk
        exact (renewedAt_applyEvent_expiry hevent).applyEvents hrest
      · apply ih hrest
        rw [List.countP_cons, hevent.mint] at hj
        simpa [hk] using hj

/-- Expiries at two times that end in one state are expiries at one time, if there are any. -/
theorem now_unique_of_applyEvents_eq {s : StateEngine} {events others : List NormalizedEvent}
    {now other : OffsetDateTime} (h : AllExpire events now) (hothers : AllExpire others other)
    (heq : s.applyEvents events = s.applyEvents others) (hne : events ≠ []) : now = other := by
  obtain ⟨event, hevent⟩ := List.exists_mem_of_ne_nil _ hne
  obtain ⟨k, hexpiry⟩ := h event hevent
  have hcount : 0 < events.countP fun event => event.mint.map PubkeyValue.text = some k := by
    rw [List.countP_pos_iff]
    exact ⟨event, hevent, by simp [hexpiry.mint]⟩
  have hsame : (s.applyEvents events).notSeenTotal k = (s.applyEvents others).notSeenTotal k := by
    rw [heq]
  rw [notSeenTotal_applyEvents h, notSeenTotal_applyEvents hothers] at hsame
  have hrenewed := renewedAt_applyEvents h s hcount
  rw [heq] at hrenewed
  exact hrenewed.now_unique (renewedAt_applyEvents hothers s (by omega))

end StateEngine

/-! ## Expiries of the manager -/

namespace TentativeSellManager

/-- An iteration of `expire` on a pending sell. -/
theorem expireKey_of_lookup (freshIds : ℕ → EventId) (now : OffsetDateTime)
    (tokens : KeyedMap String TokenState) {acc : TentativeSellManager × List NormalizedEvent}
    {key : String} {pending : PendingSellContext}
    (h : acc.1.pending.lookup key = some pending) :
    (expireKey freshIds now tokens acc key).1.pending = acc.1.pending.erase key ∧
      ∃ event, (expireKey freshIds now tokens acc key).2 = acc.2 ++ [event] ∧
        event.IsExpiry pending.intent.mint.text now := by
  rw [expireKey_of_pending h]
  refine ⟨rfl, _, rfl, ?_⟩
  have hprocessed : Canonicality.processed ≠ Canonicality.reverted := by decide
  exact ⟨hprocessed, rfl, _, rfl, rfl, rfl⟩

/-- Distinct pending keys expire one event each. -/
theorem foldl_expireKey (freshIds : ℕ → EventId) (now : OffsetDateTime)
    (tokens : KeyedMap String TokenState) {keys : List String} (hkeys : keys.Nodup)
    (acc : TentativeSellManager × List NormalizedEvent)
    (hpending : ∀ key ∈ keys, (acc.1.pending.lookup key).isSome = true) :
    ∃ events, (keys.foldl (expireKey freshIds now tokens) acc).2 = acc.2 ++ events ∧
      events.length = keys.length ∧ StateEngine.AllExpire events now := by
  induction keys generalizing acc with
  | nil => exact ⟨[], by simp, rfl, by simp [StateEngine.AllExpire]⟩
  | cons key keys ih =>
      obtain ⟨hfresh, hrest⟩ := List.nodup_cons.mp hkeys
      obtain ⟨pending, hlookup⟩ := Option.isSome_iff_exists.mp (hpending key List.mem_cons_self)
      obtain ⟨herased, event, hevent, hexpiry⟩ :=
        expireKey_of_lookup freshIds now tokens hlookup
      have hkept : ∀ other ∈ keys,
          ((expireKey freshIds now tokens acc key).1.pending.lookup other).isSome = true := by
        intro other hother
        have hne : other ≠ key := fun he => hfresh (he ▸ hother)
        rw [herased, AList.lookup_erase_ne hne]
        exact hpending other (List.mem_cons_of_mem _ hother)
      obtain ⟨events, hfold, hlength, hall⟩ := ih hrest _ hkept
      refine ⟨event :: events, ?_, ?_, ?_⟩
      · rw [List.foldl_cons, hfold, hevent, List.append_assoc, List.singleton_append]
      · rw [List.length_cons, List.length_cons, hlength]
      · intro e he
        rcases List.mem_cons.mp he with rfl | hmem
        · exact ⟨_, hexpiry⟩
        · exact hall e hmem

/-- `expire` resolves the pending sells whose time has come, one event each. -/
theorem expire_spec (manager : TentativeSellManager) (freshIds : ℕ → EventId)
    (now : OffsetDateTime) (tokens : KeyedMap String TokenState) :
    StateEngine.AllExpire (manager.expire freshIds now tokens).2 now ∧
      ((manager.expire freshIds now tokens).2 = [] ↔
        ∀ pending ∈ manager.pending.values, now < pending.expiresAt) := by
  have hpending : ∀ key ∈ manager.dueKeys now, (manager.pending.lookup key).isSome = true := by
    intro key hkey
    obtain ⟨pending, hlookup, -⟩ := mem_dueKeys.mp hkey
    exact Option.isSome_of_eq_some hlookup
  obtain ⟨events, hfold, hlength, hall⟩ := foldl_expireKey freshIds now tokens
    (manager.nodup_dueKeys now) (manager, []) hpending
  rw [List.nil_append] at hfold
  rw [expire_eq_foldl, hfold]
  refine ⟨hall, ?_⟩
  rw [← List.length_eq_zero_iff, hlength, List.length_eq_zero_iff, dueKeys_eq_nil_iff]

/-- Nothing happens before the time of a sell has come. -/
theorem expire_of_forall_lt {manager : TentativeSellManager} {now : OffsetDateTime}
    (h : ∀ pending ∈ manager.pending.values, now < pending.expiresAt)
    (freshIds : ℕ → EventId) (tokens : KeyedMap String TokenState) :
    manager.expire freshIds now tokens = (manager, []) := by
  rw [expire_eq_foldl, (manager.dueKeys_eq_nil_iff now).mpr h]
  rfl

end TentativeSellManager

/-! ## The state at the end -/

namespace Pipeline

/-- The run ends alike under two clocks: its pending sells expire at one time, or none of
them expires. -/
def EndsAlike (p : Pipeline) (unixNow otherNow : OffsetDateTime) : Prop :=
  p.expireAt unixNow = p.expireAt otherNow ∨
    ∀ pending ∈ p.tentativeSellManager.pending.values,
      p.expireAt unixNow < pending.expiresAt ∧ p.expireAt otherNow < pending.expiresAt

theorem stateEngine_applyDerived (p : Pipeline) (events : List NormalizedEvent) :
    (p.applyDerived events).stateEngine = p.stateEngine.applyEvents events := by
  unfold applyDerived
  induction events generalizing p with
  | nil => rfl
  | cons event events ih =>
      rw [List.foldl_cons, ih, stateEngine_applyEvent, StateEngine.applyEvents_cons]

theorem stateEngine_finalize (p : Pipeline) (ambient : Ambient) (unixNow : OffsetDateTime) :
    (p.finalize ambient unixNow).1.stateEngine =
      p.stateEngine.applyEvents (p.finalExpiry ambient unixNow).2 :=
  stateEngine_applyDerived _ _

theorem finalize_of_endsAlike {p : Pipeline} {unixNow otherNow : OffsetDateTime}
    (h : p.EndsAlike unixNow otherNow) (a b : Ambient) :
    (p.finalize a unixNow).1 = (p.finalize b otherNow).1 := by
  rcases h with htime | hnone
  · rw [p.finalize_steady a b unixNow]
    unfold finalize finalExpiry
    rw [htime]
  · have hexpiry : ∀ (ambient : Ambient) (now : OffsetDateTime),
        (∀ pending ∈ p.tentativeSellManager.pending.values, p.expireAt now < pending.expiresAt) →
          p.finalExpiry ambient now = (p.tentativeSellManager, []) :=
      fun _ _ hlt => TentativeSellManager.expire_of_forall_lt hlt _ _
    unfold finalize
    rw [hexpiry a unixNow fun pending hpending => (hnone pending hpending).1,
      hexpiry b otherNow fun pending hpending => (hnone pending hpending).2]

/-- The state at the end is the same exactly when the run ends alike. -/
theorem stateEngine_finalize_eq_iff (p : Pipeline) (a b : Ambient)
    (unixNow otherNow : OffsetDateTime) :
    (p.finalize a unixNow).1.stateEngine = (p.finalize b otherNow).1.stateEngine ↔
      p.EndsAlike unixNow otherNow := by
  constructor
  · intro heq
    rw [stateEngine_finalize, stateEngine_finalize] at heq
    obtain ⟨hall, hnone⟩ := p.tentativeSellManager.expire_spec
      (fun i => a.freshEventId (i + 1)) (p.expireAt unixNow) p.stateEngine.tokens
    obtain ⟨hothers, hnone'⟩ := p.tentativeSellManager.expire_spec
      (fun i => b.freshEventId (i + 1)) (p.expireAt otherNow) p.stateEngine.tokens
    by_cases hempty : (p.finalExpiry a unixNow).2 = []
    · by_cases hempty' : (p.finalExpiry b otherNow).2 = []
      · right
        intro pending hpending
        exact ⟨hnone.mp hempty pending hpending, hnone'.mp hempty' pending hpending⟩
      · left
        exact (StateEngine.now_unique_of_applyEvents_eq hothers hall heq.symm hempty').symm
    · left
      exact StateEngine.now_unique_of_applyEvents_eq hall hothers heq hempty
  · intro h
    rw [finalize_of_endsAlike h a b]

end Pipeline

end PumpLaunchTrader
