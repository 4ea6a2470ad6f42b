import PumpLaunchTrader.Engine.Clusters
import PumpLaunchTrader.Engine.Keyed
import PumpLaunchTrader.Lib.Filing

/-! # Tentative signatures

The engine maps each tentative signature to the one token that lists it. Creations and trades
write both sides; a reverted event writes the engine's side only, and a late tentative copy is
listed again beside the canonical one. -/

namespace PumpLaunchTrader

namespace NormalizedEvent

/-- The mint under which an event files its signature. -/
def filesUnder (event : NormalizedEvent) : Option String :=
  match event.payload with
  | .tokenCreated payload => some payload.mint.text
  | .pumpBuy payload => some payload.mint.text
  | .pumpSell payload => if event.info.isTentative then none else some payload.mint.text
  | _ => none

/-- What an event does to its signature. -/
def signatureMove (event : NormalizedEvent) : Filing.Move String String :=
  match event.signature with
  | none => .idle
  | some signature =>
    if event.info.canonicality = .reverted then .forget signature
    else
      match event.filesUnder with
      | none => .idle
      | some mint =>
        if event.info.isTentative then .file mint signature else .settle mint signature

end NormalizedEvent

/-- The tentative and the canonical signatures of a token. -/
def TokenState.signatures (token : TokenState) : Finset String × Finset String :=
  (token.tentativeSignatures, token.canonicalSignatures)

/-- The signatures of a token once the one of an event is filed. -/
def NormalizedEvent.filed (event : NormalizedEvent) (held : Finset String × Finset String) :
    Finset String × Finset String :=
  match event.signature with
  | none => held
  | some signature =>
    if event.info.isTentative then (insert signature held.1, held.2)
    else (held.1.erase signature, insert signature held.2)

theorem TokenState.signatures_recordSignature (token : TokenState) (event : NormalizedEvent) :
    (token.recordSignature event).signatures = event.filed token.signatures := by
  unfold recordSignature NormalizedEvent.filed
  cases event.signature with
  | none => rfl
  | some signature =>
      by_cases htentative : event.info.isTentative = true
      · simp only [htentative, if_true, signatures]
      · simp only [htentative]
        rfl

namespace StateEngine

/-- The tentative signatures of the token of a mint. -/
def tentativeOf (s : StateEngine) (mint : String) : Finset String :=
  ((s.tokens.lookup mint).map TokenState.tentativeSignatures).getD ∅

/-- The canonical signatures of the token of a mint. -/
def canonicalOf (s : StateEngine) (mint : String) : Finset String :=
  ((s.tokens.lookup mint).map TokenState.canonicalSignatures).getD ∅

/-- The engine maps a signature to the mint whose token lists it as tentative, and no token
lists one as tentative and as canonical. -/
structure SignaturesCoherent (s : StateEngine) : Prop where
  mapped_iff : ∀ signature mint,
    s.tentativeSignatures.lookup signature = some mint ↔ signature ∈ s.tentativeOf mint
  disjoint : ∀ mint, Disjoint (s.tentativeOf mint) (s.canonicalOf mint)

/-- The signatures of an engine: its own map indexes those that its tokens list. -/
def signatureCabinet (s : StateEngine) : Filing.Cabinet String String where
  index signature := s.tentativeSignatures.lookup signature
  pending mint := s.tentativeOf mint
  settled mint := s.canonicalOf mint

theorem signaturesCoherent_iff (s : StateEngine) :
    s.SignaturesCoherent ↔ s.signatureCabinet.Coherent := by
  constructor
  · rintro ⟨hmapped, hdisjoint⟩
    exact ⟨hmapped, fun mint => Finset.disjoint_coe.mpr (hdisjoint mint)⟩
  · rintro ⟨hmapped, hdisjoint⟩
    exact ⟨hmapped, fun mint => Finset.disjoint_coe.mp (hdisjoint mint)⟩

/-! ## The signatures of tokens -/

theorem signatures_applyTokenCreated (token : TokenState) (payload : TokenCreatedEvent)
    (event : NormalizedEvent) (ttl : TtlConfig) :
    (token.applyTokenCreated payload event ttl).signatures =
      (token.recordSignature event).signatures := by
  simp only [TokenState.applyTokenCreated, TokenState.updateMemoryBytes,
    TokenState.recordSignature]
  split
  · split <;> rfl
  · rfl

/-- A handler files the signature of its event with the token, or leaves the signatures. -/
theorem signatures_handler {s : StateEngine} {event : NormalizedEvent}
    {f : TokenState → TokenState} (h : s.handler event = some f) (token : TokenState) :
    (f token).signatures =
      if event.filesUnder.isSome then event.filed token.signatures else token.signatures := by
  rw [← TokenState.signatures_recordSignature]
  unfold NormalizedEvent.filesUnder
  cases handles_of_handler h with
  | tokenCreated hpayload =>
      rw [hpayload]
      exact signatures_applyTokenCreated token _ event s.ttl
  | pumpBuy hpayload =>
      rw [hpayload]
      simp [TokenState.applyBuy, TokenState.applyTrade, TokenState.renewExpiry,
        TokenState.updateMemoryBytes, TokenState.signatures]
  | pumpSell hpayload htentative =>
      rw [hpayload, htentative]
      simp [TokenState.applySell, TokenState.applyTrade, TokenState.renewExpiry,
        TokenState.updateMemoryBytes, TokenState.signatures]
  | bondingCurveUpdate hpayload =>
      rw [hpayload]
      simp only [TokenState.applyCurveUpdate]
      split <;> rfl
  | holderBalanceUpdate hpayload | tentativeSellIntentDetected hpayload
  | tentativeMaliciousSellWarning hpayload | shredEmergencyExitArmed hpayload
  | shredEmergencyExitTriggered hpayload | shredSellIntentResolved hpayload =>
      rw [hpayload]
      rfl

/-- An event with a handler files its signature under the mint of its token. -/
theorem filesUnder_of_handler {s : StateEngine} {event : NormalizedEvent}
    {f : TokenState → TokenState} (h : s.handler event = some f) {mint : PubkeyValue}
    (hmint : event.mint = some mint) (hfiles : event.filesUnder.isSome) :
    event.filesUnder = some mint.text := by
  unfold NormalizedEvent.mint at hmint
  unfold NormalizedEvent.filesUnder at hfiles ⊢
  cases handles_of_handler h with
  | tokenCreated hpayload | pumpBuy hpayload =>
      rw [hpayload] at hmint ⊢
      cases hmint
      rfl
  | pumpSell hpayload htentative =>
      rw [hpayload] at hmint ⊢
      cases hmint
      rw [htentative]
      rfl
  | bondingCurveUpdate hpayload | holderBalanceUpdate hpayload
  | tentativeSellIntentDetected hpayload | tentativeMaliciousSellWarning hpayload
  | shredEmergencyExitArmed hpayload | shredEmergencyExitTriggered hpayload
  | shredSellIntentResolved hpayload =>
      rw [hpayload] at hfiles
      cases hfiles

theorem filesUnder_of_no_handler {s : StateEngine} {event : NormalizedEvent}
    (h : s.handler event = none) : event.filesUnder = none := by
  unfold handler at h
  unfold NormalizedEvent.filesUnder
  cases hpayload : event.payload with
  | tokenCreated payload | pumpBuy payload =>
      rw [hpayload] at h
      cases h
  | pumpSell payload =>
      rw [hpayload] at h
      by_cases htentative : event.info.isTentative = true
      · exact if_pos htentative
      · simp [htentative] at h
  | _ => rfl

/-- The signatures of the token of a mint, none when there is no token. -/
def signaturesOf (s : StateEngine) (mint : String) : Finset String × Finset String :=
  ((s.tokens.lookup mint).map TokenState.signatures).getD (∅, ∅)

theorem signaturesOf_eq (s : StateEngine) (mint : String) :
    s.signaturesOf mint = (s.tentativeOf mint, s.canonicalOf mint) := by
  unfold signaturesOf tentativeOf canonicalOf
  cases s.tokens.lookup mint <;> rfl

/-- An event that is not reverted files its signature with one token. -/
theorem signaturesOf_applyEvent (s : StateEngine) {event : NormalizedEvent}
    (h : event.info.canonicality ≠ .reverted) (k : String) :
    (s.applyEvent event).1.signaturesOf k =
      if event.filesUnder = some k then event.filed (s.signaturesOf k)
      else s.signaturesOf k := by
  unfold signaturesOf
  have hfield : ∀ token : TokenState, token.core.signatures = token.signatures := fun _ => rfl
  cases hhandler : s.handler event with
  | none =>
      rw [filesUnder_of_no_handler hhandler, if_neg (by simp),
        TokenState.field_of_core hfield (core_applyEvent_of_no_handler hhandler h k)]
  | some f =>
      obtain ⟨mint, hmint, hcore⟩ := core_applyEvent_of_handler hhandler h
      have hk := hcore k
      by_cases hown : k = mint.text
      · rw [if_pos hown] at hk
        rw [TokenState.field_of_core (b := some _) hfield hk, Option.map_some, Option.getD_some,
          signatures_handler hhandler]
        have hheld : ((s.tokens.lookup k).getD
            (TokenState.new mint event.info.source)).signatures =
              ((s.tokens.lookup k).map TokenState.signatures).getD (∅, ∅) := by
          cases s.tokens.lookup k <;> rfl
        rw [hheld]
        by_cases hfiles : event.filesUnder.isSome
        · rw [if_pos hfiles, if_pos (hown ▸ filesUnder_of_handler hhandler hmint hfiles)]
        · rw [if_neg hfiles, if_neg]
          intro heq
          rw [heq] at hfiles
          exact hfiles rfl
      · rw [if_neg hown] at hk
        rw [TokenState.field_of_core hfield hk, if_neg]
        intro heq
        have hfiles := filesUnder_of_handler hhandler hmint (by rw [heq]; rfl)
        rw [heq, Option.some.injEq] at hfiles
        exact hown hfiles

/-! ## The engine's map -/

theorem tentativeSignatures_refreshDerived (s : StateEngine) (event : NormalizedEvent) :
    (s.refreshDerivedIndicesForEvent event).tentativeSignatures = s.tentativeSignatures := by
  unfold refreshDerivedIndicesForEvent
  split
  · unfold refreshClustersForWallets
    split <;> rfl
  · split <;> rfl

theorem tentativeSignatures_recomputeTransitions (s : StateEngine) (event : NormalizedEvent) :
    (s.recomputeTransitions event).1.tentativeSignatures = s.tentativeSignatures := by
  unfold recomputeTransitions
  split
  · rfl
  · split <;> rfl

theorem tentativeSignatures_applyPayload_of_none (s : StateEngine) {event : NormalizedEvent}
    (h : event.filesUnder = none) :
    (s.applyPayload event).tentativeSignatures = s.tentativeSignatures := by
  unfold NormalizedEvent.filesUnder at h
  unfold applyPayload
  cases hpayload : event.payload with
  | tokenCreated payload | pumpBuy payload =>
      rw [hpayload] at h
      cases h
  | pumpSell payload =>
      rw [hpayload] at h
      by_cases htentative : event.info.isTentative = true
      · exact congrArg tentativeSignatures (if_pos htentative)
      · simp [htentative] at h
  | observedTransaction payload =>
      simp only [applyObservedTransaction]
      split <;> rfl
  | tokenTerminal payload =>
      simp only [applyTerminal]
      split <;> rfl
  | _ => rfl

/-- The engine reads the mint off the token that the handler has just written. -/
theorem tentativeSignatures_recordSignature_withToken {s : StateEngine} (hs : s.Keyed)
    (own : PubkeyValue) (event : NormalizedEvent) {f : TokenState → TokenState}
    (hf : ∀ token, (f token).mint = token.mint) :
    ((s.withToken own event.info.source f).recordSignature own event).tentativeSignatures =
      match event.signature with
      | none => s.tentativeSignatures
      | some signature =>
        if event.info.isTentative then s.tentativeSignatures.insert signature own.text
        else s.tentativeSignatures.erase signature := by
  have hmint : (((s.withToken own event.info.source f).tokens.lookup own.text).map
      fun token => token.mint.text) = some own.text := by
    rw [tokens_withToken, KeyedMap.lookup_upsert, if_pos rfl, Option.map_some, hf]
    cases hlookup : s.tokens.lookup own.text with
    | none => rfl
    | some token => exact congrArg some (hs own.text token hlookup)
  unfold recordSignature
  cases event.signature with
  | none => rfl
  | some signature =>
      simp only [hmint, Option.getD_some]
      split <;> rfl

/-- The map after a payload that files its signature under a mint. -/
theorem tentativeSignatures_applyPayload {s : StateEngine} (hs : s.Keyed)
    {event : NormalizedEvent} {mint : String} (h : event.filesUnder = some mint) :
    (s.applyPayload event).tentativeSignatures =
      match event.signature with
      | none => s.tentativeSignatures
      | some signature =>
        if event.info.isTentative then s.tentativeSignatures.insert signature mint
        else s.tentativeSignatures.erase signature := by
  unfold NormalizedEvent.filesUnder at h
  unfold applyPayload
  cases hpayload : event.payload with
  | tokenCreated payload =>
      rw [hpayload] at h
      cases h
      rw [← tentativeSignatures_recordSignature_withToken hs payload.mint event fun token =>
        mint_of_handles (s := s) (.tokenCreated hpayload) token]
      simp only [applyTokenCreated]
      split <;> rfl
  | pumpBuy payload =>
      rw [hpayload] at h
      cases h
      exact tentativeSignatures_recordSignature_withToken hs payload.mint event fun token =>
        mint_of_handles (s := s) (.pumpBuy hpayload) token
  | pumpSell payload =>
      rw [hpayload] at h
      by_cases htentative : event.info.isTentative = true
      · simp [htentative] at h
      · simp only [htentative] at h
        cases h
        simp only [htentative]
        refine (tentativeSignatures_recordSignature_withToken hs payload.mint event fun token =>
          mint_of_handles (s := s) (.pumpSell hpayload (by simpa using htentative)) token).trans ?_
        simp only [htentative]
  | _ =>
      rw [hpayload] at h
      cases h

/-! ## Events as moves -/

theorem lookup_insert_eq_update (signatures : KeyedMap String String) (signature mint : String) :
    (fun other => (signatures.insert signature mint).lookup other) =
      Function.update (fun other => signatures.lookup other) signature (some mint) := by
  funext other
  by_cases h : other = signature
  · subst h
    simp
  · rw [AList.lookup_insert_ne h, Function.update_of_ne h]

theorem lookup_erase_eq_update (signatures : KeyedMap String String) (signature : String) :
    (fun other => (signatures.erase signature).lookup other) =
      Function.update (fun other => signatures.lookup other) signature none := by
  funext other
  by_cases h : other = signature
  · subst h
    simp
  · rw [AList.lookup_erase_ne h, Function.update_of_ne h]

theorem tentativeSignatures_applyEvent (s : StateEngine) {event : NormalizedEvent}
    (h : event.info.canonicality ≠ .reverted) :
    (s.applyEvent event).1.tentativeSignatures = (s.applyPayload event).tentativeSignatures := by
  unfold applyEvent
  rw [if_neg h, tentativeSignatures_recomputeTransitions, tentativeSignatures_refreshDerived]

theorem signatureCabinet_ext {a : StateEngine} {cabinet : Filing.Cabinet String String}
    (hindex : (fun signature => a.tentativeSignatures.lookup signature) = cabinet.index)
    (hpending : ∀ mint, ((a.signaturesOf mint).1 : Set String) = cabinet.pending mint)
    (hsettled : ∀ mint, ((a.signaturesOf mint).2 : Set String) = cabinet.settled mint) :
    a.signatureCabinet = cabinet := by
  simp only [signaturesOf_eq] at hpending hsettled
  exact Filing.Cabinet.ext hindex (funext hpending) (funext hsettled)

theorem signatureCabinet_applyEvent_of_reverted (s : StateEngine) {event : NormalizedEvent}
    (h : event.info.canonicality = .reverted) :
    (s.applyEvent event).1.signatureCabinet = s.signatureCabinet.move event.signatureMove := by
  have hheld : ∀ mint, (s.applyEvent event).1.signaturesOf mint =
      (s.tentativeOf mint, s.canonicalOf mint) := by
    intro mint
    unfold signaturesOf
    rw [tokens_applyEvent_of_reverted h]
    exact s.signaturesOf_eq mint
  have hforget : (s.applyEvent event).1 = s.forgetSignature event := by
    unfold applyEvent
    rw [if_pos h]
  unfold NormalizedEvent.signatureMove
  cases hsignature : event.signature with
  | none =>
      rw [hforget, forgetSignature, hsignature]
      rfl
  | some signature =>
      simp only [if_pos h]
      refine signatureCabinet_ext ?_ ?_ ?_
      · rw [hforget, forgetSignature, hsignature]
        exact lookup_erase_eq_update s.tentativeSignatures signature
      · intro mint
        rw [hheld]
        rfl
      · intro mint
        rw [hheld]
        rfl

/-- An event without a signature, or with one that it does not file, moves none. -/
theorem signatureCabinet_applyEvent_of_none {s : StateEngine} (hs : s.Keyed)
    {event : NormalizedEvent} (h : event.info.canonicality ≠ .reverted)
    (hnone : event.filesUnder = none ∨ event.signature = none) :
    (s.applyEvent event).1.signatureCabinet = s.signatureCabinet := by
  have hmap : (s.applyPayload event).tentativeSignatures = s.tentativeSignatures := by
    cases hfiles : event.filesUnder with
    | none => exact s.tentativeSignatures_applyPayload_of_none hfiles
    | some mint =>
        rw [tentativeSignatures_applyPayload hs hfiles]
        rw [hfiles] at hnone
        rw [hnone.resolve_left (by simp)]
  have hheld : ∀ mint, (s.applyEvent event).1.signaturesOf mint =
      (s.tentativeOf mint, s.canonicalOf mint) := by
    intro mint
    rw [s.signaturesOf_applyEvent h, ← signaturesOf_eq]
    split
    next hfiles =>
      rw [hfiles] at hnone
      unfold NormalizedEvent.filed
      rw [hnone.resolve_left (by simp)]
    next => rfl
  refine signatureCabinet_ext ?_ ?_ ?_
  · rw [s.tentativeSignatures_applyEvent h, hmap]
    rfl
  · intro mint
    rw [hheld]
    rfl
  · intro mint
    rw [hheld]
    rfl

/-- What is changed in the set held under one mint is an update of the sets there. -/
theorem coe_held_eq_update (held : String → Finset String) (change : Finset String → Finset String)
    (mint other : String) :
    ((if other = mint then change (held other) else held other : Finset String) : Set String) =
      Function.update (fun mint => (held mint : Set String)) mint (change (held mint)) other := by
  by_cases hother : other = mint
  · subst hother
    rw [if_pos rfl, Function.update_self]
  · rw [if_neg hother, Function.update_of_ne hother]

/-- An event that files its signature under a mint files it there as pending when it is
tentative, and settles it there otherwise. -/
theorem signatureCabinet_applyEvent_of_some {s : StateEngine} (hs : s.Keyed)
    {event : NormalizedEvent} (h : event.info.canonicality ≠ .reverted) {mint : String}
    (hfiles : event.filesUnder = some mint) {signature : String}
    (hsignature : event.signature = some signature) :
    (s.applyEvent event).1.signatureCabinet =
      s.signatureCabinet.move
        (if event.info.isTentative then .file mint signature else .settle mint signature) := by
  have hmap := tentativeSignatures_applyPayload hs hfiles
  rw [hsignature] at hmap
  have hheld : ∀ other, (s.applyEvent event).1.signaturesOf other =
      if other = mint then event.filed (s.tentativeOf other, s.canonicalOf other)
      else (s.tentativeOf other, s.canonicalOf other) := by
    intro other
    rw [s.signaturesOf_applyEvent h, hfiles, signaturesOf_eq]
    simp only [Option.some.injEq, eq_comm]
  unfold NormalizedEvent.filed at hheld
  rw [hsignature] at hheld
  by_cases htentative : event.info.isTentative = true
  · simp only [if_pos htentative] at hmap hheld ⊢
    refine signatureCabinet_ext ?_ ?_ ?_
    · rw [s.tentativeSignatures_applyEvent h, hmap]
      exact lookup_insert_eq_update s.tentativeSignatures signature mint
    · intro other
      rw [hheld, apply_ite Prod.fst, coe_held_eq_update s.tentativeOf (insert signature),
        Finset.coe_insert]
      rfl
    · intro other
      rw [hheld]
      split <;> rfl
  · simp only [if_neg htentative] at hmap hheld ⊢
    refine signatureCabinet_ext ?_ ?_ ?_
    · rw [s.tentativeSignatures_applyEvent h, hmap]
      exact lookup_erase_eq_update s.tentativeSignatures signature
    · intro other
      rw [hheld, apply_ite Prod.fst,
        coe_held_eq_update s.tentativeOf fun held => held.erase signature, Finset.coe_erase]
      rfl
    · intro other
      rw [hheld, apply_ite Prod.snd, coe_held_eq_update s.canonicalOf (insert signature),
        Finset.coe_insert]
      rfl

/-- The engine moves the signature of an event as the cabinet does. -/
theorem signatureCabinet_applyEvent {s : StateEngine} (hs : s.Keyed) (event : NormalizedEvent) :
    (s.applyEvent event).1.signatureCabinet = s.signatureCabinet.move event.signatureMove := by
  by_cases hreverted : event.info.canonicality = .reverted
  · exact s.signatureCabinet_applyEvent_of_reverted hreverted
  · unfold NormalizedEvent.signatureMove
    cases hsignature : event.signature with
    | none => exact signatureCabinet_applyEvent_of_none hs hreverted (Or.inr hsignature)
    | some signature =>
        simp only [if_neg hreverted]
        cases hfiles : event.filesUnder with
        | none => exact signatureCabinet_applyEvent_of_none hs hreverted (Or.inl hfiles)
        | some mint => exact signatureCabinet_applyEvent_of_some hs hreverted hfiles hsignature

/-! ## Runs -/

/-- The condition under which an event keeps map and tokens in agreement. A signature is filed
under one mint only, no tentative copy follows a canonical one, and a reverted signature is
not mapped. -/
def KeepsSignatures (s : StateEngine) (event : NormalizedEvent) : Prop :=
  event.signatureMove.Keeps s.signatureCabinet

/-- In every state of a run the map agrees with the tokens exactly when every event keeps
them in agreement. -/
theorem signatures_coherent_iff (ttl : TtlConfig) (events : List NormalizedEvent) :
    (∀ before after, events = before ++ after →
      ((new ttl).applyEvents before).SignaturesCoherent) ↔
        Runs.Along (fun s event => (applyEvent s event).1) KeepsSignatures (new ttl) events := by
  have hstep : ∀ (s : StateEngine) (event : NormalizedEvent), s.Keyed → s.SignaturesCoherent →
      True → ((s.applyEvent event).1.SignaturesCoherent ↔ s.KeepsSignatures event) := by
    intro s event hkeyed hcoherent _
    rw [signaturesCoherent_iff] at hcoherent ⊢
    rw [signatureCabinet_applyEvent hkeyed, hcoherent.move_iff]
    rfl
  have hnew : (new ttl).SignaturesCoherent := by
    constructor
    · intro signature mint
      simp [new, tentativeOf]
    · intro mint
      simp [new, tentativeOf]
  exact Runs.forall_reached_iff_along_of_kept (J := Keyed) (I := SignaturesCoherent)
    (fun s event hkeyed _ => keyed_applyEvent hkeyed event) hstep (keyed_new ttl) hnew
    (Runs.along_inputs_iff.mpr fun _ _ => trivial)

/-! ### A reverted tentative buy -/

/-- A delivery of a buy under one signature. -/
def signedBuy (canonicality : Canonicality) : NormalizedEvent :=
  { payerBuy with
    info := { payerBuy.info with
      canonicality := canonicality
      signature := some "signature" } }

/-- The token still lists the reverted signature, which the engine maps to no mint. -/
theorem reverted_signature_listed :
    ¬ ∀ (ttl : TtlConfig) (events : List NormalizedEvent),
      ((new ttl).applyEvents events).SignaturesCoherent := by
  intro h
  have hmapped := (h sampleTtl [signedBuy .tentative, signedBuy .reverted]).mapped_iff
    "signature" "mint"
  revert hmapped
  decide +kernel

end StateEngine

end PumpLaunchTrader
