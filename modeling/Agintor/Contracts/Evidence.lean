import Mathlib.Data.Int.Notation
import Mathlib.Data.Nat.Notation
import Mathlib.Data.List.Nodup

/-!
# Evidence contracts

`DomainEvidenceContract` and the records of a paired comparison, of `contracts/evidence.py`, with
the runs and evaluations that are compared (`contracts/protocol.py`, `contracts/benchmarks.py`).
Numbers are taken in a field `K`. An axis may be given as a specification or as a plain
dictionary; a plain dictionary may leave out the fields that are an `Option` here.
-/

namespace Agintor.Contracts

inductive PromotionKind
  | capability
  | preference
  | subskill
deriving DecidableEq

inductive ComparatorType
  | exactOutcome
  | fieldVector
  | hiddenChallenge
  | metamorphic
  | pairwisePreference
  | defectSearch
deriving DecidableEq

def ComparatorType.text : ComparatorType → String
  | exactOutcome => "exact_outcome"
  | fieldVector => "field_vector"
  | hiddenChallenge => "hidden_challenge"
  | metamorphic => "metamorphic"
  | pairwisePreference => "pairwise_preference"
  | defectSearch => "defect_search"

inductive EfficiencyMetric
  | cost
  | latency
  | tokens
  | toolCalls
  | retries
  | faults
  | runtimeEfficiency
deriving DecidableEq

/-- The metadata of an axis that select its tasks. -/
structure AxisMetadata where
  taskIds : List String := []
  domainKind : String := ""
  sliceTags : List String := []

/-- `QualityAxisSpec`; the metadata are `none` when they are empty. -/
structure QualityAxis (K : Type) where
  axisId : String
  weight : K
  promotionKind : PromotionKind := .capability
  comparatorType : ComparatorType := .exactOutcome
  epsilon : Option K
  protectedRegressionTolerance : Option K
  promotionEligible : Bool := true
  metadata : Option AxisMetadata := none

/-- `EfficiencyAxisSpec` -/
structure EfficiencyAxis (K : Type) where
  axisId : String
  comparatorType : String := "exact_outcome"
  metric : EfficiencyMetric := .cost
  epsilon : Option K
  lowerIsBetter : Bool := true

/-- The numbers of `challenge_distribution`; a missing one reads as 0. -/
structure ChallengeDistribution where
  minimumFrontierTasks : ℤ := 0
  minimumPairs : ℤ := 0

/-- The numbers of `statistical_rule`; a missing one reads as 0. -/
structure StatisticalRule where
  minimumPairs : ℤ := 0
  minPairs : ℤ := 0

structure LeakagePolicy where
  statusRequired : Bool := true

/-- The ids of all axes, as far as they have one. -/
def axisIds {K : Type} (quality : List (QualityAxis K)) (efficiency : List (EfficiencyAxis K)) :
    List String :=
  (quality.map (·.axisId) ++ efficiency.map (·.axisId)).filter (· ≠ "")

/-- `DomainEvidenceContract`; the leakage policy is `none` when it is empty. -/
structure DomainEvidenceContract (K : Type) where
  contractId : String
  version : String
  challengeDistribution : ChallengeDistribution := {}
  qualityAxes : List (QualityAxis K)
  efficiencyAxes : List (EfficiencyAxis K)
  healthFloors : List String := []
  statisticalRule : StatisticalRule := {}
  leakagePolicy : Option LeakagePolicy := none
  has_axis : qualityAxes ≠ [] ∨ efficiencyAxes ≠ []
  unique_ids : (axisIds qualityAxes efficiencyAxes).Nodup

/-! ## Evaluations -/

/-- The metadata of a task that the oracle reads. -/
structure TaskMetadata where
  domainKind : Option String := none
  sliceTags : Option (List String) := none
deriving DecidableEq

/-- `metadata.update(other)` -/
def TaskMetadata.update (metadata other : TaskMetadata) : TaskMetadata where
  domainKind := other.domainKind <|> metadata.domainKind
  sliceTags := other.sliceTags <|> metadata.sliceTags

structure RunResult (K : Type) where
  taskId : String
  verifierScore : K
  cost : K
  latency : K
  faults : ℤ := 0
  hardInvalid : Bool := false
  tokensUsed : ℤ := 0
  inputTokens : ℤ := 0
  outputTokens : ℤ := 0

structure SuiteEvaluation (K : Type) where
  runtimeHash : String
  runResults : List (RunResult K)
  taskMetadata : String → TaskMetadata := fun _ => {}
  oraclePackageHash : String := ""
  invalid : Bool := false

/-! ## Comparisons -/

inductive EvidenceSource
  | frontier
  | staticExact
deriving DecidableEq

structure AxisDelta (K : Type) where
  axisId : String
  promotionKind : PromotionKind
  estimate : K
  lower : K
  upper : K
  evidenceCount : ℕ
  source : EvidenceSource
  saturated : Bool

structure EfficiencyDelta (K : Type) where
  axisId : String
  estimate : K
  lower : K
  upper : K

inductive LeakageStatus
  | label (status : String)
  | report (detected : Bool) (status : String)

/-- What `decide` reads of a `PairedComparison`. -/
structure PairedComparison (K : Type) where
  parentRuntimeHash : String
  childRuntimeHash : String
  oraclePackageHash : String
  parentOraclePackageHash : String
  childOraclePackageHash : String
  challengeIds : List String
  axisDeltas : List (AxisDelta K)
  axisTaskIds : List (String × List String)
  protectedAxisBounds : List (String × K)
  efficiencyDeltas : List (EfficiencyDelta K)
  healthFloorStatus : List (String × String)
  leakageStatus : LeakageStatus

inductive PromotionDecisionType
  | capability
  | efficiency
  | preference
  | subskill
  | noProgress
  | abstain
  | reject
  | quarantine
deriving DecidableEq

/-- The decisions that name the child as the winner. -/
def PromotionDecisionType.promoting : PromotionDecisionType → Bool
  | capability | efficiency | preference | subskill => true
  | noProgress | abstain | reject | quarantine => false

end Agintor.Contracts
