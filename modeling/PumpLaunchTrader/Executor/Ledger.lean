import PumpLaunchTrader.Executor.Booking

/-! # The ledger is the sum of its fills

Every booking adds one fill, its net result and its fees at once. A sale is matched with the
buy that opened its position, and no buy is matched twice. -/

namespace PumpLaunchTrader

/-- A call on the executor with the arguments of its caller. -/
inductive PaperCall where
  | handleDecision (outcome : DecisionOutcome) (token : TokenState) (observedAt : OffsetDateTime)
      (forceFail : Bool)
  | liquidateAll (tokens : KeyedMap String TokenState) (observedAt : OffsetDateTime)
      (reason : String)

namespace FillEvent

def isSell (fill : FillEvent) : Bool := fill.side = .sell

/-- A buy that opened a position. -/
def isEntry (fill : FillEvent) : Bool := fill.side = .buy ∧ fill.failureReason = none

end FillEvent

namespace PaperExecutor

/-- What a decision, or one position of a liquidation, does to the executor. -/
inductive Booked (before after : PaperExecutor) : Prop where
  | kept (h : Keeps before after)
  | failed (fill : FillEvent) (h : FailsEntry before fill after)
  | opened (fill : FillEvent) (stake : Stake) (h : OpensPosition before fill stake after)
  | closed (key : String) (stake : Stake) (fill : FillEvent)
      (h : ClosesPosition before key stake fill after)
  | dropped (key : String) (h : DropsPosition before key after)

def call (self : PaperExecutor) : PaperCall → PaperExecutor
  | .handleDecision outcome token observedAt forceFail =>
    (self.handleDecision outcome token observedAt forceFail).1
  | .liquidateAll tokens observedAt reason => (self.liquidateAll tokens observedAt reason).1

theorem booked_exitPosition (self : PaperExecutor) (outcome : DecisionOutcome)
    (token : TokenState) (observedAt : OffsetDateTime) (forceFail : Bool) :
    Booked self (self.exitPosition outcome token observedAt forceFail).1 := by
  cases h : self.positions.lookup token.mint.text with
  | none =>
      rw [exitPosition_of_none h]
      exact .kept (.refl self)
  | some position =>
      obtain ⟨fill, -, -, hcloses⟩ := exitPosition_of_some h outcome observedAt forceFail
      exact .closed _ _ fill hcloses

theorem booked_handleDecision (self : PaperExecutor) (outcome : DecisionOutcome)
    (token : TokenState) (observedAt : OffsetDateTime) (forceFail : Bool) :
    Booked self (self.handleDecision outcome token observedAt forceFail).1 := by
  unfold handleDecision
  cases outcome.decisionEvent.decision with
  | enterPaper =>
      rcases self.enterPosition_spec outcome token observedAt forceFail with
        hkept | ⟨fill, hfails⟩ | ⟨fill, stake, hopens⟩
      · rw [hkept]
        exact .kept (.refl self)
      · exact .failed fill hfails
      · exact .opened fill stake hopens
  | exit => exact self.booked_exitPosition outcome token observedAt forceFail
  | emergencyExit => exact self.booked_exitPosition outcome token observedAt forceFail
  | hold => exact .kept ⟨rfl, self.stakeOf_adjust token⟩
  | _ => exact .kept (.refl self)

theorem booked_liquidatePosition (self : PaperExecutor) (tokens : KeyedMap String TokenState)
    (observedAt : OffsetDateTime) (reason mint : String) :
    Booked self (self.liquidatePosition tokens observedAt reason mint).1 := by
  cases h : self.positions.lookup mint with
  | none =>
      rw [liquidatePosition_of_none h]
      exact .kept (.refl self)
  | some position =>
      cases htoken : tokens.lookup mint with
      | none => exact .dropped mint (liquidatePosition_of_missing h htoken observedAt reason)
      | some token =>
          obtain ⟨fill, -, -, hcloses⟩ := liquidatePosition_of_some h htoken observedAt reason
          exact .closed mint _ fill hcloses

/-! ## Liquidating position by position -/

/-- The executor after the positions of some mints have been liquidated. -/
def liquidateMints (self : PaperExecutor) (tokens : KeyedMap String TokenState)
    (observedAt : OffsetDateTime) (reason : String) (mints : List String) : PaperExecutor :=
  mints.foldl (fun next mint => (next.liquidatePosition tokens observedAt reason mint).1) self

theorem liquidateAll_fst (self : PaperExecutor) (tokens : KeyedMap String TokenState)
    (observedAt : OffsetDateTime) (reason : String) :
    (self.liquidateAll tokens observedAt reason).1 =
      self.liquidateMints tokens observedAt reason self.positions.keys := by
  have hfold : ∀ (mints : List String) (acc : PaperExecutor × List FillEvent),
      (mints.foldl (fun acc mint =>
        ((acc.1.liquidatePosition tokens observedAt reason mint).1,
          acc.2 ++ (acc.1.liquidatePosition tokens observedAt reason mint).2.toList)) acc).1 =
          acc.1.liquidateMints tokens observedAt reason mints := by
    intro mints
    induction mints with
    | nil => exact fun acc => rfl
    | cons mint mints ih => exact fun acc => ih _
  exact hfold _ (self, [])

theorem booked_liquidateMints (self : PaperExecutor) (tokens : KeyedMap String TokenState)
    (observedAt : OffsetDateTime) (reason : String) (mints : List String) :
    Relation.ReflTransGen Booked self (self.liquidateMints tokens observedAt reason mints) := by
  induction mints generalizing self with
  | nil => exact .refl
  | cons mint mints ih =>
      exact .head (self.booked_liquidatePosition tokens observedAt reason mint) (ih _)

theorem booked_calls (self : PaperExecutor) (calls : List PaperCall) :
    Relation.ReflTransGen Booked self (calls.foldl call self) := by
  induction calls generalizing self with
  | nil => exact .refl
  | cons c calls ih =>
      refine Relation.ReflTransGen.trans ?_ (ih (self.call c))
      cases c with
      | handleDecision outcome token observedAt forceFail =>
          exact .single (self.booked_handleDecision outcome token observedAt forceFail)
      | liquidateAll tokens observedAt reason =>
          rw [call, liquidateAll_fst]
          exact self.booked_liquidateMints tokens observedAt reason _

/-! ## Totals -/

/-- The totals of the ledger are the sums over its fills. -/
structure Totalled (executor : PaperExecutor) : Prop where
  closedPnl : executor.ledger.closedPnl =
    (executor.ledger.fills.map fun fill => fill.netPnlQuote.getD 0).sum
  feeDrag : executor.ledger.feeDrag = (executor.ledger.fills.map FillEvent.fees).sum

theorem Books.totalled {before after : PaperExecutor} {fill : FillEvent}
    (h : Books before fill after) (hbefore : before.Totalled) : after.Totalled := by
  constructor
  · rw [h.closedPnl, h.fills, hbefore.closedPnl]
    simp
  · rw [h.feeDrag, h.fills, hbefore.feeDrag]
    simp

theorem Totalled.of_ledger {before after : PaperExecutor} (h : before.Totalled)
    (hledger : after.ledger = before.ledger) : after.Totalled := by
  constructor
  · rw [hledger]
    exact h.closedPnl
  · rw [hledger]
    exact h.feeDrag

theorem Booked.totalled {before after : PaperExecutor} (h : Booked before after)
    (hbefore : before.Totalled) : after.Totalled := by
  cases h with
  | kept h => exact hbefore.of_ledger h.ledger
  | failed fill h => exact h.books.totalled hbefore
  | opened fill stake h => exact h.books.totalled hbefore
  | closed key stake fill h => exact h.books.totalled hbefore
  | dropped key h => exact hbefore.of_ledger h.ledger

/-! ## Trades -/

/-- A closed trade: the buy that opened a position and the sale that closed it. -/
structure ClosedTrade where
  entry : FillEvent
  exit : FillEvent

/-- What the sale brought in, less what the position cost and the fees of both fills. -/
def ClosedTrade.net (self : ClosedTrade) : Decimal :=
  self.exit.filledSize * self.exit.fillPrice - self.entry.notional - self.entry.fees -
    self.exit.fees

/-- The sales of the ledger are the exits of the trades. The entries of the trades and those
of the open positions are different buys of the ledger. -/
structure Matches (executor : PaperExecutor) (trades : List ClosedTrade)
    (opened : KeyedMap String FillEvent) : Prop where
  exits : trades.map ClosedTrade.exit = executor.ledger.fills.filter FillEvent.isSell
  entries : (trades.map ClosedTrade.entry ++ opened.values).Subperm
    (executor.ledger.fills.filter FillEvent.isEntry)
  opens : ∀ mint stake, executor.stakeOf mint = some stake →
    ∃ fill, opened.lookup mint = some fill ∧ Opens fill stake
  nets : ∀ trade ∈ trades, trade.exit.netPnlQuote = some trade.net ∧
    trade.exit.entryDecisionId = trade.entry.entryDecisionId

theorem matches_new (simulator : Simulator) : Matches (new simulator) [] ∅ where
  exits := rfl
  entries := List.Subperm.refl _
  opens := by
    intro mint stake h
    cases h
  nets := by simp

/-- Positions that disappear without a fill leave the trades as they are. -/
theorem Matches.of_ledger {before after : PaperExecutor} {trades : List ClosedTrade}
    {opened : KeyedMap String FillEvent} (h : Matches before trades opened)
    (hledger : after.ledger = before.ledger)
    (hstakes : ∀ mint stake, after.stakeOf mint = some stake →
      before.stakeOf mint = some stake) : Matches after trades opened where
  exits := by
    rw [hledger]
    exact h.exits
  entries := by
    rw [hledger]
    exact h.entries
  opens := fun mint stake hstake => h.opens mint stake (hstakes mint stake hstake)
  nets := h.nets

theorem Opens.isEntry {fill : FillEvent} {stake : Stake} (h : Opens fill stake) :
    fill.isEntry = true := by
  simp [FillEvent.isEntry, h.side, h.filled]

/-- A failed entry is no trade, and neither opens nor closes one. -/
theorem FailsEntry.matches {before after : PaperExecutor} {fill : FillEvent}
    {trades : List ClosedTrade} {opened : KeyedMap String FillEvent}
    (h : FailsEntry before fill after) (hbefore : Matches before trades opened) :
    Matches after trades opened := by
  have hsell : fill.isSell = false := by simp [FillEvent.isSell, h.side]
  have hentry : fill.isEntry = false := by
    have hsome := Option.isSome_iff_ne_none.mp h.failed
    simp [FillEvent.isEntry, hsome]
  refine ⟨?_, ?_, ?_, hbefore.nets⟩
  · rw [h.books.fills, List.filter_append, List.filter_cons_of_neg (by simp [hsell])]
    simpa using hbefore.exits
  · rw [h.books.fills, List.filter_append, List.filter_cons_of_neg (by simp [hentry])]
    simpa using hbefore.entries
  · intro mint stake hstake
    rw [h.stakes] at hstake
    exact hbefore.opens mint stake hstake

theorem OpensPosition.matches {before after : PaperExecutor} {fill : FillEvent} {stake : Stake}
    {trades : List ClosedTrade} {opened : KeyedMap String FillEvent}
    (h : OpensPosition before fill stake after) (hbefore : Matches before trades opened) :
    Matches after trades (opened.insert fill.mint.text fill) := by
  have hsell : fill.isSell = false := by simp [FillEvent.isSell, h.opens.side]
  refine ⟨?_, ?_, ?_, hbefore.nets⟩
  · rw [h.books.fills, List.filter_append, List.filter_cons_of_neg (by simp [hsell])]
    simpa using hbefore.exits
  · rw [h.books.fills, List.filter_append, List.filter_cons_of_pos h.opens.isEntry,
      List.filter_nil, KeyedMap.values_insert]
    have hrest : (trades.map ClosedTrade.entry ++
        KeyedMap.values (opened.erase fill.mint.text)).Subperm
          (before.ledger.fills.filter FillEvent.isEntry) :=
      ((KeyedMap.values_erase_sublist opened _).append_left _).subperm.trans hbefore.entries
    have hcons := (List.subperm_cons fill).mpr hrest
    exact (List.perm_middle.subperm.trans hcons).trans
      (List.perm_append_singleton fill _).symm.subperm
  · intro mint other hother
    rw [h.stakes] at hother
    by_cases hmint : mint = fill.mint.text
    · subst hmint
      rw [if_pos rfl, Option.some.injEq] at hother
      subst hother
      exact ⟨fill, AList.lookup_insert _, h.opens⟩
    · rw [if_neg hmint] at hother
      rw [AList.lookup_insert_ne hmint]
      exact hbefore.opens mint other hother

/-- A sale is matched with the buy of the position that it closes. -/
theorem ClosesPosition.matches {before after : PaperExecutor} {key : String} {stake : Stake}
    {fill : FillEvent} {trades : List ClosedTrade} {opened : KeyedMap String FillEvent}
    (h : ClosesPosition before key stake fill after) (hbefore : Matches before trades opened) :
    ∃ entry, Matches after (trades ++ [⟨entry, fill⟩]) (opened.erase key) := by
  obtain ⟨entry, hentry, hopens⟩ := hbefore.opens key stake h.held
  have hsell : fill.isSell = true := by simp [FillEvent.isSell, h.side]
  have hnot : fill.isEntry = false := by simp [FillEvent.isEntry, h.side]
  refine ⟨entry, ?_, ?_, ?_, ?_⟩
  · rw [h.books.fills, List.filter_append, List.filter_cons_of_pos hsell, List.map_append,
      hbefore.exits]
    rfl
  · rw [h.books.fills, List.filter_append, List.filter_cons_of_neg (by simp [hnot]),
      List.filter_nil, List.append_nil, List.map_append]
    have hmoved : (trades.map ClosedTrade.entry ++ [entry] ++
        KeyedMap.values (opened.erase key)).Perm
          (trades.map ClosedTrade.entry ++ opened.values) := by
      rw [List.append_assoc]
      exact (KeyedMap.perm_values_of_lookup hentry).symm.append_left _
    exact hmoved.subperm.trans hbefore.entries
  · intro mint other hother
    rw [h.stakes] at hother
    by_cases hmint : mint = key
    · rw [if_pos hmint] at hother
      cases hother
    · rw [if_neg hmint] at hother
      rw [AList.lookup_erase_ne hmint]
      exact hbefore.opens mint other hother
  · intro trade htrade
    rcases List.mem_append.mp htrade with hold | hnew
    · exact hbefore.nets trade hold
    · rw [List.mem_singleton] at hnew
      subst hnew
      refine ⟨?_, ?_⟩
      · rw [h.net, ClosedTrade.net, hopens.notional, hopens.fees]
      · rw [h.entryDecisionId, hopens.entryDecisionId]

theorem Booked.matches {before after : PaperExecutor} (h : Booked before after)
    (hbefore : ∃ trades opened, Matches before trades opened) :
    ∃ trades opened, Matches after trades opened := by
  obtain ⟨trades, opened, hmatches⟩ := hbefore
  cases h with
  | kept h =>
      refine ⟨trades, opened, hmatches.of_ledger h.ledger fun mint stake hstake => ?_⟩
      rwa [h.stakes] at hstake
  | failed fill h => exact ⟨trades, opened, h.matches hmatches⟩
  | opened fill stake h => exact ⟨trades, _, h.matches hmatches⟩
  | closed key stake fill h =>
      obtain ⟨entry, hnext⟩ := h.matches hmatches
      exact ⟨_, _, hnext⟩
  | dropped key h =>
      refine ⟨trades, opened, hmatches.of_ledger h.ledger fun mint stake hstake => ?_⟩
      rw [h.stakes] at hstake
      by_cases hmint : mint = key
      · rw [if_pos hmint] at hstake
        cases hstake
      · rwa [if_neg hmint] at hstake

/-! ## Runs -/

theorem totalled_and_matches {before after : PaperExecutor}
    (h : Relation.ReflTransGen Booked before after) (htotalled : before.Totalled)
    (hmatches : ∃ trades opened, Matches before trades opened) :
    after.Totalled ∧ ∃ trades opened, Matches after trades opened := by
  induction h with
  | refl => exact ⟨htotalled, hmatches⟩
  | tail _ hstep ih => exact ⟨hstep.totalled ih.1, hstep.matches ih.2⟩

/-- After any calls the closed profit and the fee drag are the sums over the fills. The sales
are matched with different buys, and each nets its proceeds less what the buy paid and the
fees of both. -/
theorem ledger_sums_fills (simulator : Simulator) (calls : List PaperCall) :
    let ledger := (calls.foldl call (new simulator)).ledger
    ledger.closedPnl = (ledger.fills.map fun fill => fill.netPnlQuote.getD 0).sum ∧
      ledger.feeDrag = (ledger.fills.map FillEvent.fees).sum ∧
      ∃ trades : List ClosedTrade,
        trades.map ClosedTrade.exit = ledger.fills.filter FillEvent.isSell ∧
        (trades.map ClosedTrade.entry).Subperm (ledger.fills.filter FillEvent.isEntry) ∧
        ∀ trade ∈ trades, trade.exit.netPnlQuote = some trade.net ∧
          trade.exit.entryDecisionId = trade.entry.entryDecisionId := by
  intro ledger
  have hrun := booked_calls (new simulator) calls
  obtain ⟨htotalled, trades, opened, hmatches⟩ :=
    totalled_and_matches hrun ⟨rfl, rfl⟩ ⟨[], ∅, matches_new simulator⟩
  refine ⟨htotalled.closedPnl, htotalled.feeDrag, trades, hmatches.exits, ?_, hmatches.nets⟩
  exact (List.sublist_append_left _ _).subperm.trans hmatches.entries

end PaperExecutor

end PumpLaunchTrader
