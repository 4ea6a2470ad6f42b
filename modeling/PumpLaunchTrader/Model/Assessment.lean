import PumpLaunchTrader.Model.Event

/-! # Feature snapshots and risk assessments (`features`, `risk`)

What the feature and the risk engine hand to the decision engine. -/

namespace PumpLaunchTrader

/-! ## Features -/

inductive FeatureDatum where
  | numeric (value : Decimal)
  | text (value : String)
  | boolean (value : Bool)
  deriving DecidableEq, Repr

def FeatureDatum.asDecimal : FeatureDatum → Option Decimal
  | .numeric value => some value
  | .boolean value => some (if value then 1 else 0)
  | .text _ => none

inductive FeatureStatus where
  | available | missing | unavailable
  deriving DecidableEq, Repr

@[ext]
structure FeatureValue where
  featureId : String
  status : FeatureStatus
  value : Option FeatureDatum
  deriving DecidableEq, Repr

def FeatureValue.asDecimal (self : FeatureValue) : Option Decimal :=
  self.value.bind FeatureDatum.asDecimal

/-- A feature vector; a feature id has at most one value. -/
structure FeatureSnapshot where
  mint : PubkeyValue
  observedAt : OffsetDateTime
  values : String → Option FeatureValue
  vectorHash : String

namespace FeatureSnapshot

def value (self : FeatureSnapshot) (featureId : String) : Option FeatureValue :=
  self.values featureId

def decimal (self : FeatureSnapshot) (featureId : String) : Option Decimal :=
  (self.value featureId).bind FeatureValue.asDecimal

/-- `features.decimal(id).unwrap_or(Decimal::ZERO)`. -/
def decimalOrZero (self : FeatureSnapshot) (featureId : String) : Decimal :=
  (self.decimal featureId).getD 0

end FeatureSnapshot

/-! ## Risk -/

inductive LifecycleAction where
  | keepWatching | escalateDeepTracking | softDiscard | hardDiscard | rugArchive | dataGapStop
  deriving DecidableEq, Repr

inductive DiscardPolicyDecision where
  | keep | softDiscard | hardDiscard | rugArchive | researchSample | dataGapStop
  deriving DecidableEq, Repr

structure RiskScore where
  score : Decimal
  reasonCodes : List ReasonCode := []
  recommendedLifecycleAction : LifecycleAction := .keepWatching
  deriving DecidableEq, Repr

structure RiskAssessment where
  mint : String
  observedAt : OffsetDateTime
  rug : RiskScore
  bundle : RiskScore
  dev : RiskScore
  topHolder : RiskScore
  fakeMomentum : RiskScore
  dataQuality : RiskScore
  discardPolicy : DiscardPolicyDecision
  reasonCodes : List ReasonCode
  deriving DecidableEq, Repr

end PumpLaunchTrader
