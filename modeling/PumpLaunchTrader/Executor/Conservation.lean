import PumpLaunchTrader.Executor.Ledger
import PumpLaunchTrader.Engine.Keyed
import PumpLaunchTrader.Lib.Runs
import PumpLaunchTrader.Model.Supervisor

/-! # Tokens bought, sold and held

The tokens that the fills of a mint bought and did not sell are those of its open position,
unless a position was removed before its sale was known to succeed. What is missing then
never comes back. -/

namespace PumpLaunchTrader

/-- The tokens of a snapshot are filed under their own mints. -/
def PaperCall.Keyed : PaperCall → Prop
  | .handleDecision _ _ _ _ => True
  | .liquidateAll tokens _ _ => ∀ mint token, tokens.lookup mint = some token →
      token.mint.text = mint

namespace PaperExecutor

/-- The tokens that the fills of one side moved. -/
def tokensFilled (side : ExecutionSide) (fills : List FillEvent) (mint : String) : Decimal :=
  ((fills.filter fun fill => fill.side = side ∧ fill.mint.text = mint).map
    FillEvent.filledSize).sum

/-- The tokens of the open position in a mint. -/
def tokensHeld (self : PaperExecutor) (mint : String) : Decimal :=
  (self.stakeOf mint).elim 0 Stake.sizeTokens

/-- The tokens that were bought and are neither sold nor held. -/
def tokensMissing (self : PaperExecutor) (mint : String) : Decimal :=
  tokensFilled .buy self.ledger.fills mint - tokensFilled .sell self.ledger.fills mint -
    self.tokensHeld mint

/-- Every token bought is either sold or held. -/
def TokensAccounted (self : PaperExecutor) : Prop :=
  ∀ mint, tokensFilled .buy self.ledger.fills mint - tokensFilled .sell self.ledger.fills mint =
    ((self.positions.lookup mint).map PaperPosition.sizeTokens).getD 0

theorem tokensHeld_eq (self : PaperExecutor) (mint : String) :
    self.tokensHeld mint =
      ((self.positions.lookup mint).map PaperPosition.sizeTokens).getD 0 := by
  unfold tokensHeld stakeOf
  cases self.positions.lookup mint <;> rfl

theorem tokensAccounted_iff (self : PaperExecutor) :
    self.TokensAccounted ↔ self.tokensMissing = 0 := by
  rw [funext_iff]
  constructor
  · intro h mint
    rw [tokensMissing, h mint, tokensHeld_eq, Pi.zero_apply, sub_self]
  · intro h mint
    rw [← tokensHeld_eq]
    exact sub_eq_zero.mp (h mint)

theorem tokensFilled_append (side : ExecutionSide) (fills : List FillEvent) (fill : FillEvent)
    (mint : String) :
    tokensFilled side (fills ++ [fill]) mint = tokensFilled side fills mint +
      if fill.side = side ∧ fill.mint.text = mint then fill.filledSize else 0 := by
  unfold tokensFilled
  rw [List.filter_append, List.map_append, List.sum_append]
  by_cases h : fill.side = side ∧ fill.mint.text = mint
  · simp [h]
  · simp [h]

/-! ## Bookings -/

theorem Keeps.tokensMissing {before after : PaperExecutor} (h : Keeps before after) :
    after.tokensMissing = before.tokensMissing := by
  funext mint
  simp [PaperExecutor.tokensMissing, tokensHeld, h.ledger, h.stakes]

theorem FailsEntry.tokensMissing {before after : PaperExecutor} {fill : FillEvent}
    (h : FailsEntry before fill after) : after.tokensMissing = before.tokensMissing := by
  funext mint
  simp [PaperExecutor.tokensMissing, tokensHeld, h.books.fills, h.stakes, tokensFilled_append,
    h.filledSize]

theorem OpensPosition.tokensMissing {before after : PaperExecutor} {fill : FillEvent}
    {stake : Stake} (h : OpensPosition before fill stake after) :
    after.tokensMissing = before.tokensMissing := by
  funext mint
  simp only [PaperExecutor.tokensMissing, tokensHeld, h.books.fills, h.stakes,
    tokensFilled_append, h.opens.side, h.opens.filledSize]
  by_cases hmint : mint = fill.mint.text
  · subst hmint
    simp [h.free]
    ring
  · have hother : ¬ fill.mint.text = mint := fun he => hmint he.symm
    simp [hmint, hother]

/-- A sale under its own mint leaves missing what it did not fill. -/
theorem ClosesPosition.tokensMissing {before after : PaperExecutor} {key : String}
    {stake : Stake} {fill : FillEvent} (h : ClosesPosition before key stake fill after)
    (hmint : fill.mint.text = key) (mint : String) :
    after.tokensMissing mint = before.tokensMissing mint +
      if mint = key then stake.sizeTokens - fill.filledSize else 0 := by
  simp only [PaperExecutor.tokensMissing, tokensHeld, h.books.fills, h.stakes,
    tokensFilled_append, h.side, hmint]
  by_cases hkey : mint = key
  · subst hkey
    simp [h.held]
    ring
  · have hother : ¬ key = mint := fun he => hkey he.symm
    simp [hkey, hother]

theorem DropsPosition.tokensMissing {before after : PaperExecutor} {key : String}
    (h : DropsPosition before key after) (mint : String) :
    after.tokensMissing mint = before.tokensMissing mint +
      if mint = key then before.tokensHeld key else 0 := by
  simp only [PaperExecutor.tokensMissing, tokensHeld, h.ledger, h.stakes]
  by_cases hkey : mint = key
  · subst hkey
    simp
  · simp [hkey]

/-! ## Sizes of positions -/

/-- Every open position has tokens. -/
def Sized (self : PaperExecutor) : Prop :=
  ∀ mint stake, self.stakeOf mint = some stake → 0 < stake.sizeTokens

theorem sized_of_erased {before after : PaperExecutor} {key : String} (hbefore : before.Sized)
    (h : ∀ mint, after.stakeOf mint = if mint = key then none else before.stakeOf mint) :
    after.Sized := by
  intro mint stake hstake
  rw [h] at hstake
  by_cases hmint : mint = key
  · rw [if_pos hmint] at hstake
    cases hstake
  · rw [if_neg hmint] at hstake
    exact hbefore mint stake hstake

theorem Booked.sized {before after : PaperExecutor} (h : Booked before after)
    (hbefore : before.Sized) : after.Sized := by
  cases h with
  | kept h =>
      intro mint stake hstake
      rw [h.stakes] at hstake
      exact hbefore mint stake hstake
  | failed fill h =>
      intro mint stake hstake
      rw [h.stakes] at hstake
      exact hbefore mint stake hstake
  | opened fill stake h =>
      intro mint other hother
      rw [h.stakes] at hother
      by_cases hmint : mint = fill.mint.text
      · rw [if_pos hmint, Option.some.injEq] at hother
        exact hother ▸ h.size
      · rw [if_neg hmint] at hother
        exact hbefore mint other hother
  | closed key stake fill h => exact sized_of_erased hbefore h.stakes
  | dropped key h => exact sized_of_erased hbefore h.stakes

theorem sized_of_reflTransGen {before after : PaperExecutor}
    (h : Relation.ReflTransGen Booked before after) (hbefore : before.Sized) : after.Sized := by
  induction h with
  | refl => exact hbefore
  | tail _ hstep ih => exact hstep.sized ih

/-- A gap at one mint is the missing tokens of that mint. -/
theorem add_gap_spec {before after : String → Decimal} {key : String} {gap : Decimal}
    (h : ∀ mint, after mint = before mint + if mint = key then gap else 0) (hgap : 0 ≤ gap) :
    before ≤ after ∧ (after = before ↔ gap = 0) := by
  refine ⟨?_, ?_, ?_⟩
  · intro mint
    rw [h]
    by_cases hmint : mint = key
    · rw [if_pos hmint]
      exact le_add_of_nonneg_right hgap
    · rw [if_neg hmint, add_zero]
  · intro heq
    have hkey := h key
    rw [heq, if_pos rfl] at hkey
    exact (left_eq_add.mp hkey)
  · rintro rfl
    funext mint
    rw [h, ite_self, add_zero]

/-! ## One call -/

/-- An exit that is forced to fail on an open position. -/
def FailsExit (self : PaperExecutor) (outcome : DecisionOutcome) (token : TokenState)
    (forceFail : Bool) : Prop :=
  (outcome.decisionEvent.decision = .exit ∨ outcome.decisionEvent.decision = .emergencyExit) ∧
    forceFail = true ∧ (self.positions.lookup token.mint.text).isSome = true

/-- The call removes no position that it does not sell. -/
def RemovesOnlySold (self : PaperExecutor) : PaperCall → Prop
  | .handleDecision outcome token _ forceFail => ¬ self.FailsExit outcome token forceFail
  | .liquidateAll tokens _ _ => ∀ mint ∈ self.positions.keys, (tokens.lookup mint).isSome = true

/-- An exit leaves something missing exactly when it is forced to fail. -/
theorem tokensMissing_exitPosition {self : PaperExecutor} (hsized : self.Sized)
    (outcome : DecisionOutcome) (token : TokenState) (observedAt : OffsetDateTime)
    (forceFail : Bool) :
    let after := (self.exitPosition outcome token observedAt forceFail).1
    self.tokensMissing ≤ after.tokensMissing ∧ (after.tokensMissing = self.tokensMissing ↔
      ¬ (forceFail = true ∧ (self.positions.lookup token.mint.text).isSome = true)) := by
  intro after
  cases h : self.positions.lookup token.mint.text with
  | none =>
      have hsame : after = self := exitPosition_of_none h outcome observedAt forceFail
      rw [hsame]
      simp
  | some position =>
      obtain ⟨fill, hmint, hfilled, hcloses⟩ :=
        exitPosition_of_some h outcome observedAt forceFail
      have hpos : 0 < position.sizeTokens := hsized _ _ hcloses.held
      have hgap := add_gap_spec (hcloses.tokensMissing (by rw [hmint]))
      rw [hfilled] at hgap
      cases forceFail with
      | true =>
          simp only [if_true, sub_zero] at hgap
          obtain ⟨hle, hiff⟩ := hgap hpos.le
          refine ⟨hle, hiff.trans ?_⟩
          simp [PaperPosition.stake, hpos.ne']
      | false =>
          simp only [Bool.false_eq_true, if_false] at hgap
          obtain ⟨hle, hiff⟩ := hgap (sub_self _).ge
          refine ⟨hle, hiff.trans ?_⟩
          simp [PaperPosition.stake]

theorem tokensMissing_handleDecision {self : PaperExecutor} (hsized : self.Sized)
    (outcome : DecisionOutcome) (token : TokenState) (observedAt : OffsetDateTime)
    (forceFail : Bool) :
    let after := (self.handleDecision outcome token observedAt forceFail).1
    self.tokensMissing ≤ after.tokensMissing ∧ (after.tokensMissing = self.tokensMissing ↔
      ¬ self.FailsExit outcome token forceFail) := by
  intro after
  have hquiet : (¬ self.FailsExit outcome token forceFail) →
      after.tokensMissing = self.tokensMissing →
        self.tokensMissing ≤ after.tokensMissing ∧
          (after.tokensMissing = self.tokensMissing ↔
            ¬ self.FailsExit outcome token forceFail) :=
    fun hnot heq => ⟨heq.ge, fun _ => hnot, fun _ => heq⟩
  cases hdecision : outcome.decisionEvent.decision with
  | exit | emergencyExit =>
      have hexit : after = (self.exitPosition outcome token observedAt forceFail).1 := by
        simp only [after, handleDecision, hdecision]
      have hspec := tokensMissing_exitPosition hsized outcome token observedAt forceFail
      rw [hexit]
      simpa [FailsExit, hdecision] using hspec
  | enterPaper =>
      apply hquiet
      · simp [FailsExit, hdecision]
      · have henter : after = (self.enterPosition outcome token observedAt forceFail).1 := by
          simp only [after, handleDecision, hdecision]
        rw [henter]
        rcases self.enterPosition_spec outcome token observedAt forceFail with
          hkept | ⟨fill, hfails⟩ | ⟨fill, stake, hopens⟩
        · rw [hkept]
        · exact hfails.tokensMissing
        · exact hopens.tokensMissing
  | hold =>
      apply hquiet
      · simp [FailsExit, hdecision]
      · have hmarks : Keeps self after := by
          simp only [after, handleDecision, hdecision]
          exact ⟨rfl, self.stakeOf_adjust token⟩
        exact hmarks.tokensMissing
  | _ =>
      apply hquiet
      · simp [FailsExit, hdecision]
      · simp only [after, handleDecision, hdecision]

/-- A liquidated position leaves something missing exactly when it has no token. -/
theorem tokensMissing_liquidatePosition {self : PaperExecutor} (hsized : self.Sized)
    {tokens : KeyedMap String TokenState}
    (hkeyed : ∀ mint token, tokens.lookup mint = some token → token.mint.text = mint)
    (observedAt : OffsetDateTime) (reason mint : String) :
    let after := (self.liquidatePosition tokens observedAt reason mint).1
    self.tokensMissing ≤ after.tokensMissing ∧ (after.tokensMissing = self.tokensMissing ↔
      ((self.positions.lookup mint).isSome = true → (tokens.lookup mint).isSome = true)) := by
  intro after
  cases h : self.positions.lookup mint with
  | none =>
      have hsame : after = self := liquidatePosition_of_none h tokens observedAt reason
      rw [hsame]
      simp
  | some position =>
      have hheld : self.stakeOf mint = some position.stake :=
        congrArg (Option.map PaperPosition.stake) h
      have hpos : 0 < position.sizeTokens := hsized _ _ hheld
      cases htoken : tokens.lookup mint with
      | none =>
          have hdrops := liquidatePosition_of_missing h htoken observedAt reason
          have hsize : self.tokensHeld mint = position.sizeTokens := by
            rw [tokensHeld, hheld]
            rfl
          have hgap := add_gap_spec hdrops.tokensMissing
          rw [hsize] at hgap
          obtain ⟨hle, hiff⟩ := hgap hpos.le
          refine ⟨hle, hiff.trans ?_⟩
          simp [hpos.ne']
      | some token =>
          obtain ⟨fill, hmint, hfilled, hcloses⟩ :=
            liquidatePosition_of_some h htoken observedAt reason
          have hgap := add_gap_spec (hcloses.tokensMissing
            (by rw [hmint]; exact hkeyed mint token htoken))
          rw [hfilled] at hgap
          obtain ⟨hle, hiff⟩ := hgap (sub_self _).ge
          refine ⟨hle, hiff.trans ?_⟩
          simp [PaperPosition.stake]

/-- A liquidated position is gone, and the others stay. -/
theorem isSome_lookup_liquidatePosition (self : PaperExecutor)
    (tokens : KeyedMap String TokenState) (observedAt : OffsetDateTime)
    (reason mint other : String) :
    ((self.liquidatePosition tokens observedAt reason mint).1.positions.lookup other).isSome =
      (!decide (other = mint) && (self.positions.lookup other).isSome) := by
  have herased : ∀ after : PaperExecutor,
      (∀ key, after.stakeOf key = if key = mint then none else self.stakeOf key) →
        (after.positions.lookup other).isSome =
          (!decide (other = mint) && (self.positions.lookup other).isSome) := by
    intro after hafter
    have hother := congrArg Option.isSome (hafter other)
    simp only [stakeOf, Option.isSome_map] at hother
    rw [hother]
    by_cases hmint : other = mint
    · simp [hmint]
    · simp [hmint]
  cases h : self.positions.lookup mint with
  | none =>
      rw [liquidatePosition_of_none h]
      by_cases hmint : other = mint
      · subst hmint
        simp [h]
      · simp [hmint]
  | some position =>
      cases htoken : tokens.lookup mint with
      | none => exact herased _ (liquidatePosition_of_missing h htoken observedAt reason).stakes
      | some token =>
          obtain ⟨fill, -, -, hcloses⟩ := liquidatePosition_of_some h htoken observedAt reason
          exact herased _ hcloses.stakes

/-- The positions of some mints are all sold when each has its token. -/
theorem along_liquidate_iff (self : PaperExecutor) (tokens : KeyedMap String TokenState)
    (observedAt : OffsetDateTime) (reason : String) (mints : List String) :
    Runs.Along (fun next mint => (next.liquidatePosition tokens observedAt reason mint).1)
        (fun next mint => (next.positions.lookup mint).isSome = true →
          (tokens.lookup mint).isSome = true) self mints ↔
      ∀ mint ∈ mints, (self.positions.lookup mint).isSome = true →
        (tokens.lookup mint).isSome = true := by
  induction mints generalizing self with
  | nil => simp [Runs.Along]
  | cons mint mints ih =>
      rw [Runs.Along, ih, List.forall_mem_cons]
      simp only [isSome_lookup_liquidatePosition]
      constructor
      · rintro ⟨hfirst, hrest⟩
        refine ⟨hfirst, fun other hother hopen => ?_⟩
        by_cases hmint : other = mint
        · subst hmint
          exact hfirst hopen
        · exact hrest other hother (by simp [hmint, hopen])
      · rintro ⟨hfirst, hrest⟩
        refine ⟨hfirst, fun other hother hopen => ?_⟩
        simp only [Bool.and_eq_true] at hopen
        exact hrest other hother hopen.2

theorem tokensMissing_liquidateAll {self : PaperExecutor} (hsized : self.Sized)
    {tokens : KeyedMap String TokenState}
    (hkeyed : ∀ mint token, tokens.lookup mint = some token → token.mint.text = mint)
    (observedAt : OffsetDateTime) (reason : String) :
    let after := (self.liquidateAll tokens observedAt reason).1
    self.tokensMissing ≤ after.tokensMissing ∧ (after.tokensMissing = self.tokensMissing ↔
      ∀ mint ∈ self.positions.keys, (tokens.lookup mint).isSome = true) := by
  intro after
  have hfold := Runs.reading_foldl_eq_iff_along
    (fun (next : PaperExecutor) mint =>
      (next.liquidatePosition tokens observedAt reason mint).1)
    tokensMissing
    (fun next mint hnext =>
      (next.booked_liquidatePosition tokens observedAt reason mint).sized hnext)
    (fun next mint hnext _ =>
      (tokensMissing_liquidatePosition hnext hkeyed observedAt reason mint).1)
    (fun next mint hnext _ =>
      (tokensMissing_liquidatePosition hnext hkeyed observedAt reason mint).2)
    hsized (fun mint (_ : mint ∈ self.positions.keys) => trivial)
  have hafter : after = self.liquidateMints tokens observedAt reason self.positions.keys :=
    self.liquidateAll_fst tokens observedAt reason
  rw [hafter]
  refine ⟨hfold.1, hfold.2.trans ((self.along_liquidate_iff _ _ _ _).trans ?_)⟩
  constructor
  · intro h mint hmint
    exact h mint hmint (AList.lookup_isSome.mpr (AList.mem_keys.mp hmint))
  · exact fun h mint hmint _ => h mint hmint

theorem tokensMissing_call {self : PaperExecutor} (hsized : self.Sized) {c : PaperCall}
    (hkeyed : c.Keyed) :
    self.tokensMissing ≤ (self.call c).tokensMissing ∧
      ((self.call c).tokensMissing = self.tokensMissing ↔ self.RemovesOnlySold c) := by
  cases c with
  | handleDecision outcome token observedAt forceFail =>
      exact tokensMissing_handleDecision hsized outcome token observedAt forceFail
  | liquidateAll tokens observedAt reason =>
      exact tokensMissing_liquidateAll hsized hkeyed observedAt reason

/-! ## Runs -/

theorem sized_call {self : PaperExecutor} (c : PaperCall) (h : self.Sized) :
    (self.call c).Sized :=
  sized_of_reflTransGen (self.booked_calls [c]) h

/-- After a run every token bought is sold or held exactly when no call of it removed a
position that it did not sell: no exit was forced to fail on an open position, and every
liquidation knew the token of every open position. -/
theorem tokensAccounted_run_iff (simulator : Simulator) (calls : List PaperCall)
    (hkeyed : ∀ c ∈ calls, c.Keyed) :
    (calls.foldl call (new simulator)).TokensAccounted ↔
      Runs.Along call RemovesOnlySold (new simulator) calls := by
  have hsized : (new simulator).Sized := by
    intro mint stake h
    cases h
  have hnone : (new simulator).tokensMissing = 0 := by
    funext mint
    simp [tokensMissing, tokensFilled, tokensHeld, stakeOf, new]
  have hrun := Runs.reading_foldl_eq_iff_along call tokensMissing
    (fun self c h => sized_call c h) (fun self c h hc => (tokensMissing_call h hc).1)
    (fun self c h hc => (tokensMissing_call h hc).2) hsized hkeyed
  rw [tokensAccounted_iff, ← hrun.2, hnone]

end PaperExecutor

/-! ## Snapshots of the engine -/

namespace StateEngine

/-- A liquidation on a snapshot of the engine has its tokens under their own mints. -/
theorem keyed_liquidateAll {s : StateEngine} (h : s.Keyed) (observedAt : OffsetDateTime)
    (reason : String) : (PaperCall.liquidateAll s.snapshot.tokens observedAt reason).Keyed :=
  h

end StateEngine

/-! ## Positions that disappear -/

namespace PaperExecutor

/-- A decision on the mint `mint` for a position of one quote unit. -/
def sampleOutcome (decision : TradeDecision) : DecisionOutcome :=
  { decisionEvent :=
      { decisionId := "decision"
        mint := ⟨"mint"⟩
        decision := decision
        strategy := "LaunchMomentumScalp"
        featureSnapshotHash := ""
        scoreVector := []
        riskVector := []
        expectedNetEdgeQuote := 0
        expectedNetEdgePct := 0
        expectedEdgeConfidence := 0
        reasonCodes := []
        configHash := ""
        strategyVersion := ""
        dataQualityScore := 100
        noLookaheadTimestamp := unixEpoch }
    strategy := .launchMomentumScalp
    positionSizeQuote := 1
    expectedEdge :=
      { expectedPriceMovePct := 0
        expectedExitPrice := 0
        expectedHoldTimeMs := 0
        expectedFeeDragQuote := 0
        expectedSlippageDragQuote := 0
        expectedLatencyDragQuote := 0
        expectedCurveImpactQuote := 0
        expectedExitImpactQuote := 0
        expectedFailedTxCostQuote := 0
        minimumRequiredMovePct := 0
        expectedNetEdgeQuote := 0
        expectedNetEdgePct := 0
        confidence := 0
        reasonCodes := [] }
    compositeScores := []
    diagnostics := [] }

def sampleToken : TokenState := TokenState.new ⟨"mint"⟩ .geyserConfirmed

/-- The sample decision on its own token. -/
def sampleDecision (decision : TradeDecision) (forceFail : Bool) : PaperCall :=
  .handleDecision (sampleOutcome decision) sampleToken unixEpoch forceFail

/-- A position that is opened and sold. -/
theorem tokensAccounted_run_iff_sold :
    ((([sampleDecision .enterPaper false, sampleDecision .exit false] : List PaperCall).foldl call
      (new {})).TokensAccounted) := by
  rw [tokensAccounted_run_iff]
  · refine ⟨?_, ?_, trivial⟩
    · rintro ⟨-, hfail, -⟩
      cases hfail
    · rintro ⟨-, hfail, -⟩
      cases hfail
  · intro c hc
    simp only [List.mem_cons, List.not_mem_nil, or_false] at hc
    rcases hc with rfl | rfl <;> trivial

/-- An exit that is forced to fail drops the position, and so does a liquidation on a snapshot
that no longer has its token. -/
theorem dropped_positions :
    ¬ (∀ calls : List PaperCall, (calls.foldl call (new {})).TokensAccounted) ∧
      ¬ ((([sampleDecision .enterPaper false, .liquidateAll ∅ unixEpoch "run_end"] :
        List PaperCall).foldl call (new {})).TokensAccounted) := by
  constructor
  · intro h
    have hrun := h [sampleDecision .enterPaper false, sampleDecision .exit true] "mint"
    revert hrun
    decide +kernel
  · intro h
    have hrun := h "mint"
    revert hrun
    decide +kernel

end PaperExecutor

end PumpLaunchTrader
