import PumpLaunchTrader.Lib.Runs
import PumpLaunchTrader.ShredExit.Calls

/-! # Which pending sells an event settles

Reconciliation asks every pending sell of the mint of the event, and drops those that the
event resolves. A canonical sell resolves every pending sell of its wallet: the sells of
its own signature as executed or failed, those of another signature as mismatched. -/

namespace PumpLaunchTrader

namespace TentativeSellManager

/-! ## Dropped sells -/

/-- Whether the event resolves the pending sell. -/
def resolvesPending (event : NormalizedEvent) (token : Option TokenState)
    (pending : PendingSellContext) : Bool :=
  (reconcilePendingAgainstEvent pending event token).isSome

theorem pending_reconcileKey (event : NormalizedEvent) (token : Option TokenState)
    (acc : TentativeSellManager × List NormalizedEvent) (key : String) :
    (reconcileKey event token acc key).1.pending =
      KeyedMap.eraseIf (resolvesPending event token) acc.1.pending key := by
  unfold KeyedMap.eraseIf
  cases hlookup : acc.1.pending.lookup key with
  | none => simp only [reconcileKey, hlookup]
  | some pending =>
      cases hresolved : reconcilePendingAgainstEvent pending event token with
      | none => simp [reconcileKey, hlookup, resolvesPending, hresolved]
      | some resolved =>
          rw [reconcileKey_of_matched hlookup hresolved]
          simp only [resolvesPending, hresolved, Option.isSome_some, if_true]
          rfl

theorem pending_foldl_reconcileKey (event : NormalizedEvent) (token : Option TokenState)
    (keys : List String) (acc : TentativeSellManager × List NormalizedEvent) :
    (keys.foldl (reconcileKey event token) acc).1.pending =
      keys.foldl (KeyedMap.eraseIf (resolvesPending event token)) acc.1.pending := by
  induction keys generalizing acc with
  | nil => rfl
  | cons key keys ih => rw [List.foldl_cons, List.foldl_cons, ih, pending_reconcileKey]

/-- The pending sells of the mint `mint`. -/
def pendingKeys [PendingOrder] (self : TentativeSellManager) (mint : PubkeyValue) :
    List String :=
  ((PendingOrder.arrange self.pending).filter fun e => e.2.intent.mint = mint).map Sigma.fst

theorem mem_pendingKeys [PendingOrder] (self : TentativeSellManager) (mint : PubkeyValue)
    (key : String) :
    key ∈ self.pendingKeys mint ↔
      ∃ pending, self.pending.lookup key = some pending ∧ pending.intent.mint = mint := by
  unfold pendingKeys
  simp only [List.mem_map, List.mem_filter, (PendingOrder.perm _).mem_iff, decide_eq_true_eq]
  constructor
  · rintro ⟨⟨found, pending⟩, ⟨hmem, hmint⟩, rfl⟩
    exact ⟨pending, (KeyedMap.mem_entries_iff _ _ _).mp hmem, hmint⟩
  · rintro ⟨pending, hlookup, hmint⟩
    exact ⟨⟨key, pending⟩, ⟨(KeyedMap.mem_entries_iff _ _ _).mpr hlookup, hmint⟩, rfl⟩

theorem reconcile_of_mint [PendingOrder] {event : NormalizedEvent} {mint : PubkeyValue}
    (hmint : event.mint = some mint) (self : TentativeSellManager) (token : Option TokenState) :
    self.reconcile event token =
      (self.pendingKeys mint).foldl (reconcileKey event token) (self, []) := by
  simp only [reconcile, hmint, pendingKeys]

/-- A pending sell stays exactly when it is of another mint or not resolved by the event. -/
theorem lookup_reconcile {event : NormalizedEvent} {mint : PubkeyValue}
    (hmint : event.mint = some mint) {self : TentativeSellManager} {key : String}
    {pending : PendingSellContext} (hlookup : self.pending.lookup key = some pending)
    (token : Option TokenState) :
    (self.reconcile event token).1.pending.lookup key =
      if pending.intent.mint = mint ∧ resolvesPending event token pending = true then none
      else some pending := by
  rw [reconcile_of_mint hmint, pending_foldl_reconcileKey, KeyedMap.lookup_foldl_eraseIf, hlookup]
  by_cases hsame : pending.intent.mint = mint
  · have hkey : key ∈ self.pendingKeys mint :=
      (mem_pendingKeys _ _ _).mpr ⟨pending, hlookup, hsame⟩
    rw [if_pos hkey]
    cases hresolves : resolvesPending event token pending with
    | true => simp [Option.filter, hresolves, hsame]
    | false => simp [Option.filter, hresolves]
  · have hkey : key ∉ self.pendingKeys mint := by
      rw [mem_pendingKeys]
      rintro ⟨other, hother, hmintOther⟩
      rw [hlookup, Option.some.injEq] at hother
      subst hother
      exact hsame hmintOther
    rw [if_neg hkey, if_neg (fun h => hsame h.1)]

theorem reconcileKey_of_not_resolves {event : NormalizedEvent} {token : Option TokenState}
    {acc : TentativeSellManager × List NormalizedEvent} {key : String}
    {pending : PendingSellContext} (hlookup : acc.1.pending.lookup key = some pending)
    (h : resolvesPending event token pending = false) :
    reconcileKey event token acc key = acc := by
  apply reconcileKey_of_unmatched
  intro found hfound
  rw [hlookup, Option.some.injEq] at hfound
  subst hfound
  simpa [resolvesPending] using h

/-- An event that resolves no pending sell of its mint changes nothing. -/
theorem reconcile_of_unresolved [PendingOrder] {self : TentativeSellManager}
    {event : NormalizedEvent} (token : Option TokenState)
    (h : ∀ key pending, self.pending.lookup key = some pending →
      event.mint = some pending.intent.mint → resolvesPending event token pending = false) :
    self.reconcile event token = (self, []) := by
  cases hmint : event.mint with
  | none => simp only [reconcile, hmint]
  | some mint =>
      rw [reconcile_of_mint hmint]
      apply Runs.foldl_eq_self
      intro key hkey
      obtain ⟨pending, hlookup, hof⟩ := (mem_pendingKeys _ _ _).mp hkey
      exact reconcileKey_of_not_resolves hlookup (h key pending hlookup (by rw [hmint, hof]))

/-! ## Orders of the pending sells -/

/-- An event resolves no two pending sells at once. -/
def ResolvesOne (self : TentativeSellManager) (event : NormalizedEvent) : Prop :=
  ∀ e ∈ self.pending.entries, ∀ other ∈ self.pending.entries,
    event.mint = some e.2.intent.mint → event.mint = some other.2.intent.mint →
      resolvesPending event none e.2 = true → resolvesPending event none other.2 = true →
        e = other

instance (self : TentativeSellManager) (event : NormalizedEvent) :
    Decidable (self.ResolvesOne event) :=
  inferInstanceAs (Decidable (∀ e ∈ self.pending.entries, ∀ other ∈ self.pending.entries,
    _ → _ → _ → _ → e = other))

/-- The state of the token decides what a resolution reports, not whether there is one. -/
theorem resolvesPending_eq (event : NormalizedEvent) (token : Option TokenState)
    (pending : PendingSellContext) :
    resolvesPending event token pending = resolvesPending event none pending := by
  unfold resolvesPending reconcilePendingAgainstEvent
  split
  · rfl
  · split
    · split
      · split
        · rfl
        · rfl
      · rfl
    · rfl
    · rfl

/-- The only pending sell that an event resolves is settled, in whatever order they come. -/
theorem reconcile_of_resolved [PendingOrder] {self : TentativeSellManager}
    {event : NormalizedEvent} {token : Option TokenState} (h : self.ResolvesOne event)
    {key : String} {pending : PendingSellContext}
    (hlookup : self.pending.lookup key = some pending)
    (hmint : event.mint = some pending.intent.mint)
    (hresolves : resolvesPending event token pending = true) :
    self.reconcile event token = reconcileKey event token (self, []) key := by
  have hothers : ∀ other ∈ self.pendingKeys pending.intent.mint, other ≠ key →
      ∃ context, self.pending.lookup other = some context ∧
        resolvesPending event token context = false := by
    intro other hother hne
    obtain ⟨context, hcontext, hof⟩ := (mem_pendingKeys _ _ _).mp hother
    refine ⟨context, hcontext, Bool.eq_false_iff.mpr fun hagain => hne ?_⟩
    rw [resolvesPending_eq] at hresolves hagain
    have hsame := h ⟨other, context⟩ ((KeyedMap.mem_entries_iff _ _ _).mpr hcontext)
      ⟨key, pending⟩ ((KeyedMap.mem_entries_iff _ _ _).mpr hlookup) (by rw [hmint, hof]) hmint
      hagain hresolves
    exact congrArg Sigma.fst hsame
  obtain ⟨resolved, hresolved⟩ := Option.isSome_iff_exists.mp hresolves
  have hstep : reconcileKey event token (self, []) key = _ :=
    reconcileKey_of_matched hlookup hresolved
  rw [reconcile_of_mint hmint]
  apply Runs.foldl_eq_step _ ((mem_pendingKeys _ _ _).mpr ⟨pending, hlookup, rfl⟩)
  · intro other hother hne
    obtain ⟨context, hcontext, hunresolved⟩ := hothers other hother hne
    exact reconcileKey_of_not_resolves hcontext hunresolved
  · intro other hother
    rw [hstep]
    by_cases hkey : other = key
    · exact reconcileKey_of_unmatched fun context hcontext => by
        rw [hkey] at hcontext
        exact absurd ((AList.lookup_erase _ _).symm.trans hcontext) (by simp)
    · obtain ⟨context, hcontext, hunresolved⟩ := hothers other hother hkey
      exact reconcileKey_of_not_resolves ((AList.lookup_erase_ne hkey).trans hcontext)
        hunresolved

/-- Where an event resolves no two pending sells, their order is of no matter. -/
theorem reconcile_of_resolvesOne (order : PendingOrder) {self : TentativeSellManager}
    {event : NormalizedEvent} (h : self.ResolvesOne event) (token : Option TokenState) :
    @reconcile order self event token = @reconcile trackingOrder self event token := by
  by_cases hsome : ∃ key pending, self.pending.lookup key = some pending ∧
      event.mint = some pending.intent.mint ∧ resolvesPending event token pending = true
  · obtain ⟨key, pending, hlookup, hmint, hresolves⟩ := hsome
    rw [@reconcile_of_resolved order _ _ _ h _ _ hlookup hmint hresolves,
      @reconcile_of_resolved trackingOrder _ _ _ h _ _ hlookup hmint hresolves]
  · push Not at hsome
    have hnone : ∀ key pending, self.pending.lookup key = some pending →
        event.mint = some pending.intent.mint → resolvesPending event token pending = false :=
      fun key pending hlookup hmint => Bool.eq_false_iff.mpr (hsome key pending hlookup hmint)
    rw [@reconcile_of_unresolved order _ _ _ hnone,
      @reconcile_of_unresolved trackingOrder _ _ _ hnone]

/-! ## Announced resolutions -/

theorem mem_reconcileKey {event derived : NormalizedEvent} {token : Option TokenState}
    {acc : TentativeSellManager × List NormalizedEvent} (h : derived ∈ acc.2) (key : String) :
    derived ∈ (reconcileKey event token acc key).2 := by
  rcases reconcileKey_cases event token acc key with
    hsame | ⟨pending, resolved, -, -, hnext⟩
  · rw [hsame]
    exact h
  · rw [hnext]
    exact List.mem_append_left _ h

theorem mem_foldl_reconcileKey {event derived : NormalizedEvent} {token : Option TokenState}
    (keys : List String) {acc : TentativeSellManager × List NormalizedEvent}
    (h : derived ∈ acc.2) : derived ∈ (keys.foldl (reconcileKey event token) acc).2 := by
  induction keys generalizing acc with
  | nil => exact h
  | cons key keys ih => exact ih (mem_reconcileKey h key)

/-- The keys before that of a pending sell leave it alone, and its own key announces it. -/
theorem announced_foldl_reconcileKey {event : NormalizedEvent} {token : Option TokenState}
    {keys : List String} {acc : TentativeSellManager × List NormalizedEvent} {key : String}
    {pending : PendingSellContext} {resolved : ShredSellIntentResolvedEvent} (hkey : key ∈ keys)
    (hlookup : acc.1.pending.lookup key = some pending)
    (hresolved : reconcilePendingAgainstEvent pending event token = some resolved) :
    cloneWithPayload event (.shredSellIntentResolved resolved) ∈
      (keys.foldl (reconcileKey event token) acc).2 := by
  induction keys generalizing acc with
  | nil => cases hkey
  | cons head keys ih =>
      rw [List.foldl_cons]
      by_cases hhead : key = head
      · apply mem_foldl_reconcileKey
        rw [← hhead, reconcileKey_of_matched hlookup hresolved]
        exact List.mem_append_right _ List.mem_cons_self
      · apply ih ((List.mem_cons.mp hkey).resolve_left hhead)
        rw [pending_reconcileKey, KeyedMap.lookup_eraseIf, if_neg hhead, hlookup]

theorem announced_reconcile {event : NormalizedEvent} {mint : PubkeyValue}
    (hmint : event.mint = some mint) {self : TentativeSellManager} {key : String}
    {pending : PendingSellContext} {resolved : ShredSellIntentResolvedEvent}
    {token : Option TokenState} (hlookup : self.pending.lookup key = some pending)
    (hsame : pending.intent.mint = mint)
    (hresolved : reconcilePendingAgainstEvent pending event token = some resolved) :
    cloneWithPayload event (.shredSellIntentResolved resolved) ∈
      (self.reconcile event token).2 := by
  rw [reconcile_of_mint hmint]
  exact announced_foldl_reconcileKey
    ((mem_pendingKeys _ _ _).mpr ⟨pending, hlookup, hsame⟩) hlookup hresolved

/-! ## Sells of another signature -/

/-- A sell of another signature mismatches the pending sells of its mint and wallet and
resolves no other. -/
theorem reconcilePendingAgainstEvent_of_signature_ne {event : NormalizedEvent}
    {payload : PumpSellEvent} (hpayload : event.payload = .pumpSell payload)
    {signature other : String} (hsignature : event.signature = some signature)
    {pending : PendingSellContext} (hother : pending.intent.signature = some other)
    (hne : other ≠ signature) (token : Option TokenState) :
    reconcilePendingAgainstEvent pending event token =
      if payload.mint = pending.intent.mint ∧ payload.seller = pending.intent.sellerWallet then
        some (mismatchedBy pending event payload)
      else none := by
  have hreorg : ¬ (event.info.canonicality = .reverted ∧
      event.signature = pending.intent.signature) := by
    rintro ⟨-, hsame⟩
    rw [hsignature, hother, Option.some.injEq] at hsame
    exact hne hsame.symm
  have hmatches : signatureMatches event pending = false := by
    simp only [signatureMatches, hsignature, hother, decide_eq_false_iff_not]
    exact fun hsame => hne hsame.symm
  unfold reconcilePendingAgainstEvent
  rw [if_neg hreorg, hpayload]
  simp only [hmatches, Bool.false_eq_true, if_false]

/-- A canonical sell drops a pending sell of another signature exactly when it is of the
same mint and wallet, and then records it as mismatched. -/
theorem reconcile_other_signature (manager : TentativeSellManager) (token : Option TokenState)
    {event : NormalizedEvent} {payload : PumpSellEvent} {signature other key : String}
    {pending : PendingSellContext} (hpayload : event.payload = .pumpSell payload)
    (hsignature : event.signature = some signature)
    (hlookup : manager.pending.lookup key = some pending)
    (hother : pending.intent.signature = some other) (hne : other ≠ signature) :
    ((manager.reconcile event token).1.pending.lookup key = none ↔
      pending.intent.mint = payload.mint ∧ pending.intent.sellerWallet = payload.seller) ∧
    ((manager.reconcile event token).1.pending.lookup key ≠ none →
      (manager.reconcile event token).1.pending.lookup key = some pending) ∧
    ((manager.reconcile event token).1.pending.lookup key = none →
      ∃ derived ∈ (manager.reconcile event token).2, ∃ resolved,
        derived.payload = .shredSellIntentResolved resolved ∧
          resolved.originalTentativeEventId = pending.intent.eventId ∧
          resolved.outcome = .decodeMismatch) := by
  have hmint : event.mint = some payload.mint := by
    simp only [NormalizedEvent.mint, hpayload]
  have hresolution := reconcilePendingAgainstEvent_of_signature_ne hpayload hsignature hother hne
    token
  have hdropped : (pending.intent.mint = payload.mint ∧
      resolvesPending event token pending = true) ↔
      pending.intent.mint = payload.mint ∧ pending.intent.sellerWallet = payload.seller := by
    unfold resolvesPending
    rw [hresolution]
    constructor
    · rintro ⟨hsame, hsome⟩
      by_cases hboth : payload.mint = pending.intent.mint ∧
          payload.seller = pending.intent.sellerWallet
      · exact ⟨hsame, hboth.2.symm⟩
      · rw [if_neg hboth] at hsome
        cases hsome
    · rintro ⟨hsame, hseller⟩
      rw [if_pos ⟨hsame.symm, hseller.symm⟩]
      exact ⟨hsame, rfl⟩
  rw [lookup_reconcile hmint hlookup]
  by_cases hboth : pending.intent.mint = payload.mint ∧
      pending.intent.sellerWallet = payload.seller
  · rw [if_pos (hdropped.mpr hboth)]
    refine ⟨⟨fun _ => hboth, fun _ => rfl⟩, fun h => absurd rfl h, fun _ => ?_⟩
    rw [if_pos ⟨hboth.1.symm, hboth.2.symm⟩] at hresolution
    exact ⟨_, announced_reconcile hmint hlookup hboth.1 hresolution, _,
      cloneWithPayload_payload _ _, rfl, rfl⟩
  · rw [if_neg (fun h => hboth (hdropped.mp h))]
    refine ⟨⟨?_, fun h => absurd h hboth⟩, fun _ => rfl, ?_⟩
    · intro h
      cases h
    · intro h
      cases h

/-! ## Two sells of one wallet -/

/-- Two tentative sells of one wallet under different signatures. -/
def twoSells : TentativeSellManager :=
  (sampleManager.calls [sampleDetection "a" (some "first") unixEpoch,
    sampleDetection "b" (some "second") unixEpoch]).1

/-- Confirming the first sell drops the second as well. -/
theorem reconcile_drops_other_signature :
    (twoSells.pending.values.map fun pending => pending.intent.signature) =
        [some "second", some "first"] ∧
      (twoSells.reconcile (sampleSell "c" (some "first") .confirmed
        unixEpoch) none).1.pending.values = [] := by
  decide +kernel

/-- The second of the two sells, with its id. -/
def secondSell : String × PendingSellContext :=
  ((twoSells.pending.entries.map fun e => (e.1, e.2)).head?).get (by decide +kernel)

theorem reconcile_other_signature_twoSells :
    (twoSells.reconcile (sampleSell "c" (some "first") .confirmed unixEpoch) none).1.pending.lookup
        secondSell.1 = none ↔
      secondSell.2.intent.mint = ⟨"mint"⟩ ∧ secondSell.2.intent.sellerWallet = ⟨"seller"⟩ := by
  have hpayload : (sampleSell "c" (some "first") .confirmed unixEpoch).payload = .pumpSell _ := rfl
  have hsignature : (sampleSell "c" (some "first") .confirmed unixEpoch).signature =
      some "first" := rfl
  have hlookup : twoSells.pending.lookup secondSell.1 = some secondSell.2 := by decide +kernel
  have hother : secondSell.2.intent.signature = some "second" := by decide +kernel
  have hne : "second" ≠ "first" := by decide
  exact (twoSells.reconcile_other_signature none hpayload hsignature hlookup hother hne).1

end TentativeSellManager

end PumpLaunchTrader
