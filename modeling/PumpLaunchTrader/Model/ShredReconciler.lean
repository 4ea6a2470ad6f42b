import PumpLaunchTrader.Lib.KeyedMap
import PumpLaunchTrader.Model.Event
import Mathlib.Data.Finset.Basic

/-! # Reconciliation of tentative events (`ingest_shred::ShredReconciler`) -/

namespace PumpLaunchTrader

/-- The counters of `ShredMetrics` that the reconciler increments. -/
structure ShredMetrics where
  reconciliationSuccessTotal : ℕ := 0
  reconciliationFailureTotal : ℕ := 0
  geyserWithoutShredTotal : ℕ := 0
  falsePositiveTentativeTotal : ℕ := 0
  missingLaterConfirmedTotal : ℕ := 0
  deriving DecidableEq, Repr

structure ReconciliationConfig where
  ttl : Duration := Duration.seconds 5
  deriving DecidableEq, Repr

structure ReconciliationResult where
  signature : String
  shredToGeyserDelayMs : ℤ
  deriving DecidableEq, Repr

structure TentativeRecord where
  insertedAt : OffsetDateTime
  signature : Option String
  key : String
  deriving DecidableEq, Repr

structure ShredReconciler where
  config : ReconciliationConfig := {}
  records : KeyedMap String TentativeRecord := ∅
  expiredSignatures : Finset String := ∅
  order : List String := []

/-- The name of a payload in the key of an event without a signature. -/
def EventPayload.reconciliationKind : EventPayload → String
  | .tokenCreated _ => "token_created"
  | .pumpBuy _ => "pump_buy"
  | .pumpSell _ => "pump_sell"
  | .bondingCurveUpdate _ => "bonding_curve_update"
  | .holderBalanceUpdate _ => "holder_balance_update"
  | .walletFunding _ => "wallet_funding"
  | .observedTransaction _ => "observed_tx"
  | .tentativeSellIntentDetected _ => "tentative_sell_intent_detected"
  | .tentativeMaliciousSellWarning _ => "tentative_sell_warning"
  | .shredEmergencyExitArmed _ => "shred_exit_armed"
  | .shredEmergencyExitTriggered _ => "shred_exit_triggered"
  | .shredSellIntentResolved _ => "shred_sell_resolved"
  | .tokenTerminal _ => "token_terminal"
  | .tradeDecision _ => "trade_decision"
  | .simulatedFill _ => "sim_fill"
  | .liveFill _ => "live_fill"
  | .dataGap _ => "data_gap"

/-- `reconciliation_key`. -/
def reconciliationKey (event : NormalizedEvent) : String :=
  match event.signature with
  | some signature => "sig:" ++ signature
  | none => "slot:" ++ toString event.info.slot ++ ":kind:" ++ event.payload.reconciliationKind

namespace ShredReconciler

/-- `ShredReconciler::new`. -/
def new (config : ReconciliationConfig) : ShredReconciler := { config := config }

/-- `record_tentative`. -/
def recordTentative (self : ShredReconciler) (event : NormalizedEvent) : ShredReconciler :=
  let key := reconciliationKey event
  let record : TentativeRecord :=
    { insertedAt := event.info.receivedAtWallTime
      signature := event.signature
      key := key }
  { self with
    records := self.records.insert key record
    order := self.order ++ [key] }

/-- `reconcile_canonical`. -/
def reconcileCanonical (self : ShredReconciler) (event : NormalizedEvent)
    (metrics : ShredMetrics) :
    ShredReconciler × ShredMetrics × Option ReconciliationResult :=
  let key := reconciliationKey event
  match self.records.lookup key with
  | some record =>
    ({ self with records := self.records.erase key },
      { metrics with reconciliationSuccessTotal := metrics.reconciliationSuccessTotal + 1 },
      some
        { signature := record.signature.getD key
          shredToGeyserDelayMs :=
            Duration.wholeMilliseconds (event.info.receivedAtWallTime - record.insertedAt) })
  | none =>
    match event.signature with
    | some signature =>
      if signature ∈ self.expiredSignatures then
        ({ self with expiredSignatures := self.expiredSignatures.erase signature },
          { metrics with
            missingLaterConfirmedTotal := metrics.missingLaterConfirmedTotal + 1 },
          none)
      else
        (self, { metrics with geyserWithoutShredTotal := metrics.geyserWithoutShredTotal + 1 },
          none)
    | none => (self, metrics, none)

/-- The removal of an expired record by `expire`. -/
def expireRecord (self : ShredReconciler) (key : String) (record : TentativeRecord) :
    ShredReconciler :=
  { self with
    records := self.records.erase key
    expiredSignatures :=
      match record.signature with
      | some signature => insert signature self.expiredSignatures
      | none => self.expiredSignatures }

/-- The loop of `expire` over the queue. -/
def expireFrom (now : OffsetDateTime) : List String → ShredReconciler → ShredMetrics →
    ShredReconciler × ShredMetrics × List String
  | [], self, metrics => ({ self with order := [] }, metrics, [])
  | front :: order, self, metrics =>
    match self.records.lookup front with
    | none => expireFrom now order self metrics
    | some record =>
      if now - record.insertedAt < self.config.ttl then
        ({ self with order := front :: order }, metrics, [])
      else
        let (final, metrics, expired) := expireFrom now order (self.expireRecord front record)
          { metrics with
            reconciliationFailureTotal := metrics.reconciliationFailureTotal + 1
            falsePositiveTentativeTotal := metrics.falsePositiveTentativeTotal + 1 }
        (final, metrics, record.signature.getD record.key :: expired)

/-- `expire`. -/
def expire (self : ShredReconciler) (now : OffsetDateTime) (metrics : ShredMetrics) :
    ShredReconciler × ShredMetrics × List String :=
  expireFrom now self.order self metrics

end ShredReconciler

end PumpLaunchTrader
