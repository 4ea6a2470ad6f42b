import PumpLaunchTrader.Engine.Step

/-! # Tokens under their own mints

A token keeps the mint that it was created with, so the engine finds it under that mint. -/

namespace PumpLaunchTrader

namespace TokenState

@[simp] theorem mint_recordSignature (token : TokenState) (event : NormalizedEvent) :
    (token.recordSignature event).mint = token.mint :=
  field_recordSignature (fun _ _ _ _ => rfl) token event

@[simp] theorem mint_applyBuy (token : TokenState) (payload : PumpBuyEvent)
    (event : NormalizedEvent) (observation : TradeObservation) (ttl : TtlConfig) :
    (token.applyBuy payload event observation ttl).mint = token.mint := by
  simp [applyBuy, applyTrade, renewExpiry, updateMemoryBytes]

@[simp] theorem mint_applySell (token : TokenState) (payload : PumpSellEvent)
    (event : NormalizedEvent) (observation : TradeObservation) (ttl : TtlConfig) :
    (token.applySell payload event observation ttl).mint = token.mint := by
  simp [applySell, applyTrade, renewExpiry, updateMemoryBytes]

end TokenState

namespace StateEngine

/-- The tokens are filed under their own mints. -/
def Keyed (self : StateEngine) : Prop :=
  ∀ mint token, self.tokens.lookup mint = some token → token.mint.text = mint

theorem mint_of_handles {s : StateEngine} {event : NormalizedEvent}
    {f : TokenState → TokenState} (h : s.Handles event f) (token : TokenState) :
    (f token).mint = token.mint := by
  cases h with
  | tokenCreated => exact TokenState.mint_recordSignature _ event
  | pumpBuy => exact TokenState.mint_applyBuy token _ event _ _
  | pumpSell => exact TokenState.mint_applySell token _ event _ _
  | bondingCurveUpdate =>
      simp only [TokenState.applyCurveUpdate]
      split <;> rfl
  | _ => rfl

theorem keyed_applyEvent {s : StateEngine} (h : s.Keyed) (event : NormalizedEvent) :
    (s.applyEvent event).1.Keyed := by
  by_cases hreverted : event.info.canonicality = .reverted
  · intro mint token hlookup
    rw [tokens_applyEvent_of_reverted hreverted] at hlookup
    exact h mint token hlookup
  intro mint token hlookup
  -- the core of a token has its mint
  have hcore : ((s.applyEvent event).1.tokens.lookup mint).map TokenState.core =
      some token.core := by rw [hlookup]; rfl
  have hkept : ∀ before, s.tokens.lookup mint = some before →
      token.core = before.core → token.mint.text = mint := fun before hbefore heq =>
    (congrArg (fun t => t.mint.text) heq).trans (h mint before hbefore)
  cases hhandler : s.handler event with
  | none =>
      rw [core_applyEvent_of_no_handler hhandler hreverted, Option.map_eq_some_iff] at hcore
      obtain ⟨before, hbefore, heq⟩ := hcore
      exact hkept before hbefore heq.symm
  | some f =>
      obtain ⟨own, -, hcores⟩ := core_applyEvent_of_handler hhandler hreverted
      rw [hcores] at hcore
      by_cases hmint : mint = own.text
      · rw [if_pos hmint, Option.some.injEq] at hcore
        have htext := congrArg (fun t => t.mint.text) hcore
        have hhandled := mint_of_handles (handles_of_handler hhandler)
          ((s.tokens.lookup mint).getD (TokenState.new own event.info.source))
        refine htext.symm.trans ((congrArg PubkeyValue.text hhandled).trans ?_)
        cases hbefore : s.tokens.lookup mint with
        | none => exact hmint.symm
        | some before => exact h mint before hbefore
      · rw [if_neg hmint, Option.map_eq_some_iff] at hcore
        obtain ⟨before, hbefore, heq⟩ := hcore
        exact hkept before hbefore heq.symm

theorem keyed_new (ttl : TtlConfig) : (new ttl).Keyed := by
  intro mint token hlookup
  cases hlookup

/-- In every run tokens stay under their own mints. -/
theorem keyed_applyEvents {s : StateEngine} (h : s.Keyed) (events : List NormalizedEvent) :
    (s.applyEvents events).Keyed := by
  unfold applyEvents
  induction events generalizing s with
  | nil => exact h
  | cons event events ih => exact ih (keyed_applyEvent h event)

end StateEngine

end PumpLaunchTrader
