import Mathlib.Algebra.Order.Field.Basic
import Mathlib.Algebra.BigOperators.Group.List.Basic
import Agintor.Contracts.Evidence
import Agintor.Core.Text
import Agintor.Lib.Raise

/-!
# The progress oracle

`evaluation/progress_oracle.py`: whether a child evaluation is progress over its parent. Runs of
the same task are paired; the pairs of an axis give an effect with a confidence interval, and a
decision is read off the effects. Numbers are exact, in an ordered field `K`.
-/

namespace Agintor.Evaluation

open Agintor.Contracts Agintor.Core Lib

structure ProgressOracleConfig (K : Type) where
  capabilityEpsilon : K
  efficiencyEpsilon : K
  equivalenceTolerance : K
  protectedRegressionTolerance : K
  confidenceZ : K
  saturationThreshold : K
  minQualityComparisons : ℤ

/-- Functions that the oracle takes from elsewhere: `std_error` and `str.lower`. -/
structure OracleFunctions (K : Type) where
  stdError : List K → K
  lower : String → String

structure PairedEffect (K : Type) where
  estimate : K
  lower : K
  upper : K
  nEff : K

variable {K : Type} [Field K] [LinearOrder K]

/-- `ProgressOracleConfig()` -/
def ProgressOracleConfig.default : ProgressOracleConfig K where
  capabilityEpsilon := 3 / 100
  efficiencyEpsilon := 2 / 100
  equivalenceTolerance := 0
  protectedRegressionTolerance := 0
  confidenceZ := 196 / 100
  saturationThreshold := 999 / 1000
  minQualityComparisons := 2

omit [LinearOrder K] in
/-- The effect of no evidence. -/
def PairedEffect.zero : PairedEffect K := ⟨0, 0, 0, 0⟩

omit [LinearOrder K] in
def mean (values : List K) : K :=
  match values with
  | [] => 0
  | _ => values.sum / values.length

variable (F : OracleFunctions K) (config : ProgressOracleConfig K)

/-- The scores come in pairs of a child's and its parent's. -/
def pairedMeanEffect (pairs : List (K × K)) (singletonMargin : K) : PairedEffect K :=
  let deltas := pairs.map fun p => p.1 - p.2
  match deltas with
  | [] => .zero
  | _ =>
    let estimate := mean deltas
    let margin := if deltas.length ≤ 1 then singletonMargin else config.confidenceZ * F.stdError deltas
    { estimate := estimate
      lower := max (-1) (estimate - margin)
      upper := min 1 (estimate + margin)
      nEff := deltas.length }

/-! ## Runs -/

def qualityScore (run : RunResult K) : K := if run.hardInvalid then 0 else run.verifierScore

/-- `run.tokens_used or (run.input_tokens + run.output_tokens)` -/
def tokenCount (run : RunResult K) : ℤ :=
  if run.tokensUsed ≠ 0 then run.tokensUsed else run.inputTokens + run.outputTokens

def resourceBurden (run : RunResult K) : K :=
  max 0 run.cost + max 0 run.latency / 1000 + max 0 (tokenCount run : K) / 1000 +
    max 0 (run.faults : K)

def runEfficiencyMetric (run : RunResult K) : EfficiencyMetric → K
  | .cost => max 0 run.cost
  | .latency => max 0 run.latency
  | .tokens => max 0 (tokenCount run : K)
  | .faults => max 0 (run.faults : K)
  | .runtimeEfficiency => resourceBurden run
  | .toolCalls | .retries => 0

/-- `self._runs_by_task(runs)[task_id]` -/
def runsByTask (runs : List (RunResult K)) (taskId : String) : List (RunResult K) :=
  runs.filter (·.taskId = taskId)

/-- `sorted(set(parent_runs) & set(child_runs))` -/
def sharedTasks (parent child : SuiteEvaluation K) : List String :=
  let childTasks := child.runResults.map (·.taskId)
  sortedUnique ((parent.runResults.map (·.taskId)).filter (· ∈ childTasks))

def taskMetadata (parent child : SuiteEvaluation K) (taskId : String) : TaskMetadata :=
  (parent.taskMetadata taskId).update (child.taskMetadata taskId)

def axisSource (metadata : TaskMetadata) : EvidenceSource :=
  if metadata.domainKind = some "generated_tool_workflow" ∨
      "frontier" ∈ metadata.sliceTags.getD [] then
    .frontier
  else
    .staticExact

/-! ## Axes of a contract -/

omit [Field K] [LinearOrder K] in
def axisMatchesTask (axis : QualityAxis K) (taskId : String) (metadata : TaskMetadata)
    (allowWildcard : Bool) : Bool :=
  if axis.axisId = taskId then
    true
  else
    match axis.metadata with
    | none => allowWildcard
    | some axisMetadata =>
      if axisMetadata.taskIds ≠ [] ∧ taskId ∉ axisMetadata.taskIds then
        false
      else if axisMetadata.domainKind ≠ "" ∧
          metadata.domainKind.getD "" ≠ axisMetadata.domainKind then
        false
      else
        axisMetadata.sliceTags.all (· ∈ metadata.sliceTags.getD [])

omit [Field K] [LinearOrder K] in
/-- The axis of a task, and what kind of promotion it counts for. -/
def axisForTask (contract : Option (DomainEvidenceContract K)) (taskId : String)
    (metadata : TaskMetadata) : String × PromotionKind :=
  match contract with
  | none => (taskId, .capability)
  | some contract =>
    let allowWildcard := contract.qualityAxes.length == 1
    let found := contract.qualityAxes.find? fun axis =>
      axisMatchesTask axis taskId metadata allowWildcard && axis.axisId ≠ ""
    match found with
    | some axis => (axis.axisId, axis.promotionKind)
    | none => (taskId, .subskill)

omit [Field K] [LinearOrder K] in
/-- The loop over `contract.quality_axes` that looks for an id. -/
def findAxis (contract : DomainEvidenceContract K) (axisId : String) : Option (QualityAxis K) :=
  contract.qualityAxes.find? (·.axisId = axisId)

omit [Field K] [LinearOrder K] in
def qualityAxisPromotionEligible (contract : DomainEvidenceContract K) (axisId : String) : Bool :=
  (findAxis contract axisId).elim true (·.promotionEligible)

def qualityAxisWeight (contract : DomainEvidenceContract K) (axisId : String) : K :=
  (findAxis contract axisId).elim 1 fun axis => max 0 axis.weight

omit [LinearOrder K] [Field K] in
def axisEpsilon (contract : DomainEvidenceContract K) (axisId : String) (default : K) : K :=
  ((findAxis contract axisId).bind (·.epsilon)).getD default

omit [LinearOrder K] [Field K] in
def axisRegressionTolerance (contract : DomainEvidenceContract K) (axisId : String)
    (default : K) : K :=
  ((findAxis contract axisId).bind (·.protectedRegressionTolerance)).getD default

omit [LinearOrder K] [Field K] in
def efficiencyAxisEpsilon (contract : DomainEvidenceContract K) (axisId : String)
    (default : K) : K :=
  ((contract.efficiencyAxes.find? (·.axisId = axisId)).bind (·.epsilon)).getD default

/-! ## Comparing two evaluations -/

/-- What one task adds to the bucket of its axis. -/
structure TaskEvidence (K : Type) where
  taskId : String
  axisId : String
  promotionKind : PromotionKind
  source : EvidenceSource
  pairs : List (K × K)

/-- One round of the loop over the shared tasks: the child's scores against its parent's. -/
def taskEvidence (contract : Option (DomainEvidenceContract K)) (parent child : SuiteEvaluation K)
    (taskId : String) : TaskEvidence K :=
  let metadata := taskMetadata parent child taskId
  let axis := axisForTask contract taskId metadata
  { taskId := taskId
    axisId := axis.1
    promotionKind := axis.2
    source := axisSource metadata
    pairs := ((runsByTask child.runResults taskId).map qualityScore).zip
      ((runsByTask parent.runResults taskId).map qualityScore) }

/-- The tasks that have pairs, in order. -/
def pairedTasks (contract : Option (DomainEvidenceContract K)) (parent child : SuiteEvaluation K) :
    List (TaskEvidence K) :=
  ((sharedTasks parent child).map (taskEvidence contract parent child)).filter (·.pairs ≠ [])

/-- The delta of the axis whose bucket holds these tasks. -/
def axisDelta (axisId : String) (bucket : List (TaskEvidence K)) : AxisDelta K :=
  let pairs := bucket.flatMap (·.pairs)
  let parentQuality := mean (pairs.map (·.2))
  let childQuality := mean (pairs.map (·.1))
  let saturated := decide (config.saturationThreshold ≤ parentQuality ∧
    config.saturationThreshold ≤ childQuality)
  let effect := if saturated then ⟨0, 0, 0, pairs.length⟩ else pairedMeanEffect F config pairs 1
  { axisId := axisId
    -- the first task of the bucket brings the kind
    promotionKind := (bucket.head?.map (·.promotionKind)).getD .capability
    estimate := effect.estimate
    lower := effect.lower
    upper := effect.upper
    evidenceCount := pairs.length
    source := if .frontier ∈ bucket.map (·.source) then .frontier else .staticExact
    saturated := saturated }

def bucketOf (tasks : List (TaskEvidence K)) (axisId : String) : List (TaskEvidence K) :=
  tasks.filter (·.axisId = axisId)

def qualityAxisDeltas (tasks : List (TaskEvidence K)) : List (AxisDelta K) :=
  (sortedUnique (tasks.map (·.axisId))).map fun axisId =>
    axisDelta F config axisId (bucketOf tasks axisId)

/-- The relative saving of the child on a task; a gain where higher is better. -/
def efficiencyPair (parent child : SuiteEvaluation K) (metric : EfficiencyMetric)
    (lowerIsBetter : Bool) (taskId : String) : K × K :=
  let parentBurden := mean ((runsByTask parent.runResults taskId).map (runEfficiencyMetric · metric))
  let childBurden := mean ((runsByTask child.runResults taskId).map (runEfficiencyMetric · metric))
  let baseline := max 1 parentBurden
  let delta := (parentBurden - childBurden) / baseline
  (if lowerIsBetter then delta else -delta, 0)

def efficiencyMetricEffect (parent child : SuiteEvaluation K) (metric : EfficiencyMetric)
    (lowerIsBetter : Bool) : PairedEffect K :=
  pairedMeanEffect F config
    ((sharedTasks parent child).map (efficiencyPair parent child metric lowerIsBetter)) 0

def supportedMetrics : List EfficiencyMetric := [.cost, .latency, .tokens, .faults]

omit [Field K] [LinearOrder K] in
/-- The efficiency axes that are compared. Their ids are unique. -/
def comparedAxes (contract : DomainEvidenceContract K) : List (EfficiencyAxis K) :=
  contract.efficiencyAxes.filter fun axis => axis.axisId ≠ "" ∧ axis.metric ∈ supportedMetrics ∧
    axis.comparatorType = "exact_outcome"

omit [Field K] [LinearOrder K] in
def EfficiencyDelta.ofEffect (axisId : String) (effect : PairedEffect K) : EfficiencyDelta K :=
  ⟨axisId, effect.estimate, effect.lower, effect.upper⟩

def efficiencyDeltas (parent child : SuiteEvaluation K) :
    Option (DomainEvidenceContract K) → List (EfficiencyDelta K)
  | none => [EfficiencyDelta.ofEffect "runtime_efficiency"
      (efficiencyMetricEffect F config parent child .runtimeEfficiency true)]
  | some contract => (comparedAxes contract).map fun axis =>
      EfficiencyDelta.ofEffect axis.axisId
        (efficiencyMetricEffect F config parent child axis.metric axis.lowerIsBetter)

def passingFloors : List (String × String) := [("verifier", "pass"), ("leakage", "pass")]

def compareEvaluations (parent child : SuiteEvaluation K)
    (contract : Option (DomainEvidenceContract K)) (leakageStatus : Option LeakageStatus)
    (healthFloorStatus : Option (List (String × String))) : PairedComparison K :=
  let tasks := pairedTasks contract parent child
  let deltas := qualityAxisDeltas F config tasks
  { parentRuntimeHash := parent.runtimeHash
    childRuntimeHash := child.runtimeHash
    oraclePackageHash :=
      if parent.oraclePackageHash = child.oraclePackageHash then parent.oraclePackageHash else ""
    parentOraclePackageHash := parent.oraclePackageHash
    childOraclePackageHash := child.oraclePackageHash
    challengeIds := sortedUnique (tasks.map (·.taskId))
    axisDeltas := deltas
    axisTaskIds := deltas.map fun axis =>
      (axis.axisId, sortedUnique ((bucketOf tasks axis.axisId).map (·.taskId)))
    protectedAxisBounds := deltas.map fun axis => (axis.axisId, axis.lower)
    efficiencyDeltas := efficiencyDeltas F config parent child contract
    healthFloorStatus := healthFloorStatus.getD (if contract.isNone then passingFloors else [])
    leakageStatus := leakageStatus.getD (.label (if contract.isNone then "clean" else "unknown")) }

def implicitContractId : String := "implicit_suite_progress_contract"

/-- The contract of a comparison that was made without one. -/
def implicitContract (comparison : PairedComparison K) :
    Except String (DomainEvidenceContract K) :=
  let minPairs : ℤ :=
    if comparison.axisDeltas.length ≤ 1 then 1 else config.minQualityComparisons
  let frontierAvailable := comparison.axisDeltas.any (·.source = .frontier)
  let quality : List (QualityAxis K) := comparison.axisDeltas.map fun axis =>
    { axisId := axis.axisId
      weight := 1
      promotionKind := if frontierAvailable then .subskill else .capability
      epsilon := some config.capabilityEpsilon
      protectedRegressionTolerance := some config.protectedRegressionTolerance }
  let efficiency : List (EfficiencyAxis K) :=
    [{ axisId := "runtime_efficiency", epsilon := some config.efficiencyEpsilon }]
  if unique : (axisIds quality efficiency).Nodup then
    .ok { contractId := implicitContractId
          version := "implicit"
          challengeDistribution := if frontierAvailable then { minimumFrontierTasks := minPairs }
            else { minimumPairs := minPairs }
          qualityAxes := quality
          efficiencyAxes := efficiency
          healthFloors := ["verifier", "leakage"]
          statisticalRule := { minimumPairs := minPairs }
          leakagePolicy := some {}
          has_axis := .inr (List.cons_ne_nil _ _)
          unique_ids := unique }
  else
    .error "domain evidence contract axis ids must be unique"

/-! ## Admitting a comparison -/

omit [Field K] [LinearOrder K] in
def oracleHashMismatch (comparison : PairedComparison K) : Bool :=
  let commonHash := strip comparison.oraclePackageHash
  let orCommon (hash : String) : String := if strip hash ≠ "" then strip hash else commonHash
  let parentHash := orCommon comparison.parentOraclePackageHash
  let childHash := orCommon comparison.childOraclePackageHash
  decide ((parentHash ≠ "" ∨ childHash ≠ "") ∧ parentHash ≠ childHash)

omit [Field K] [LinearOrder K] in
def unsupportedQualityComparators (contract : DomainEvidenceContract K) : List String :=
  sortedUnique ((contract.qualityAxes.filter fun axis =>
    axis.comparatorType ∈ [.pairwisePreference, .metamorphic, .defectSearch]).map
      (·.comparatorType.text))

omit [LinearOrder K] [Field K] in
def healthIssue (contract : DomainEvidenceContract K) (comparison : PairedComparison K) : String :=
  let status := comparison.healthFloorStatus.map fun entry => (entry.1, F.lower entry.2)
  let passes (key : String) : Bool :=
    (status.lookup key).any fun value => value ∈ ["pass", "passed", "clean", "ok", "true"]
  if status.any (·.2 ∈ ["fail", "failed", "quarantined", "quarantine"]) then
    "health_floor_failed"
  else if contract.healthFloors.any (!passes ·) then
    "missing_health_floor_evidence"
  else
    ""

omit [LinearOrder K] [Field K] in
def leakageIssue (contract : DomainEvidenceContract K) (comparison : PairedComparison K) : String :=
  let detected : Bool := match comparison.leakageStatus with
    | .label _ => false
    | .report detected _ => detected
  let normalized : String := match comparison.leakageStatus with
    | .label status => F.lower status
    | .report _ status => F.lower status
  if detected ∨ normalized ∈ ["leaked", "detected", "fail", "failed", "dirty"] then
    "leakage_detected"
  else if ((contract.leakagePolicy.elim false (·.statusRequired)) ∨
      "leakage" ∈ contract.healthFloors) ∧ normalized ∉ ["clean", "pass", "passed", "ok"] then
    "missing_leakage_evidence"
  else
    ""

/-- `a or b` of numbers -/
def orElse (a b : ℤ) : ℤ := if a ≠ 0 then a else b

omit [Field K] [LinearOrder K] in
def minimumPairs (contract : DomainEvidenceContract K) : ℤ :=
  orElse contract.challengeDistribution.minimumFrontierTasks
    (orElse contract.challengeDistribution.minimumPairs
      (orElse contract.statisticalRule.minimumPairs contract.statisticalRule.minPairs))

omit [Field K] [LinearOrder K] in
/-- How many pairs a comparison brings. -/
def pairCount (contract : DomainEvidenceContract K) (comparison : PairedComparison K) : ℤ :=
  let distinctChallenges := comparison.challengeIds.dedup.length
  let minimumFrontierTasks := contract.challengeDistribution.minimumFrontierTasks
  let frontierAxes := comparison.axisDeltas.filter (·.source = .frontier)
  let listed := frontierAxes.flatMap fun axis =>
    (comparison.axisTaskIds.lookup axis.axisId).getD []
  let frontierChallenges :=
    if minimumFrontierTasks ≠ 0 ∧ listed = [] ∧ frontierAxes ≠ [] then comparison.challengeIds
    else listed
  if minimumFrontierTasks ≠ 0 then
    if frontierAxes ≠ [] then frontierChallenges.dedup.length else distinctChallenges
  else
    max distinctChallenges (comparison.axisDeltas.map (·.evidenceCount)).sum

omit [LinearOrder K] [Field K] in
/-- The checks before the effects are looked at: the decision they come to, if any. -/
def admissionIssue (contract : DomainEvidenceContract K) (comparison : PairedComparison K) :
    Option (PromotionDecisionType × List String) :=
  let unsupported := unsupportedQualityComparators contract
  let health := healthIssue F contract comparison
  let leakage := leakageIssue F contract comparison
  if oracleHashMismatch comparison then
    some (.quarantine, ["oracle_package_hash_mismatch"])
  else if unsupported ≠ [] then
    some (.abstain, "unsupported_quality_comparator" ::
      unsupported.map ("unsupported_comparator:" ++ ·))
  else if health ≠ "" then
    some (if health = "health_floor_failed" then .quarantine else .abstain, [health])
  else if leakage ≠ "" then
    some (if leakage = "leakage_detected" then .quarantine else .abstain, [leakage])
  else if comparison.axisDeltas = [] then
    some (.abstain, ["no_paired_quality_evidence"])
  else if minimumPairs contract ≠ 0 ∧ pairCount contract comparison < minimumPairs contract then
    some (.abstain, ["insufficient_evidence"])
  else
    none

/-! ## Decisions -/

def weightedMean (values : List (K × K)) : K :=
  (values.map fun v => v.1 * v.2).sum / (values.map (·.2)).sum

/-- The axes with their weights; all count alike if none has a weight. -/
def weightedAxes (contract : DomainEvidenceContract K) (axes : List (AxisDelta K)) :
    List (AxisDelta K × K) :=
  let weighted := axes.map fun axis =>
    (axis, (axis.evidenceCount : K) * qualityAxisWeight contract axis.axisId)
  if (weighted.map (·.2)).sum ≤ 0 then axes.map fun axis => (axis, 1) else weighted

def aggregateQuality (contract : DomainEvidenceContract K) (axes : List (AxisDelta K)) :
    PairedEffect K :=
  match axes with
  | [] => .zero
  | _ =>
    let weighted := weightedAxes contract axes
    { estimate := weightedMean (weighted.map fun w => (w.1.estimate, w.2))
      lower := max (-1) (weightedMean (weighted.map fun w => (w.1.lower, w.2)))
      upper := min 1 (weightedMean (weighted.map fun w => (w.1.upper, w.2)))
      nEff := ((axes.map (·.evidenceCount)).sum : ℕ) }

/-- The first of the largest lower bounds. -/
def maxByLower (best : EfficiencyDelta K) : List (EfficiencyDelta K) → EfficiencyDelta K
  | [] => best
  | delta :: deltas => maxByLower (if best.lower < delta.lower then delta else best) deltas

def bestEfficiencyDelta (comparison : PairedComparison K) : EfficiencyDelta K :=
  match comparison.efficiencyDeltas with
  | [] => ⟨"", 0, 0, 0⟩
  | delta :: deltas => maxByLower delta deltas

/-- What a decision and its progress signal report. -/
structure PromotionDecision (K : Type) where
  decisionType : PromotionDecisionType
  contractId : String
  parentRuntimeHash : String
  childRuntimeHash : String
  winningRuntimeHash : String
  improvedAxes : List String
  regressedAxes : List String
  tiedAxes : List String
  quality : PairedEffect K
  efficiency : EfficiencyDelta K
  reasonCodes : List String
  noCapabilitySignalReason : String

/-- What a branch of `decide` passes on to `_decision`. -/
structure Verdict (K : Type) where
  decisionType : PromotionDecisionType
  improvedAxes : List String := []
  regressedAxes : List String := []
  noCapabilitySignalReason : String := ""
  reasonCodes : List String
  qualityOverride : Option (PairedEffect K) := none

/-- `_decision`, with the checks of `ProgressSignal.validate_signal`. -/
def decision (contract : DomainEvidenceContract K) (comparison : PairedComparison K)
    (verdict : Verdict K) : Except String (PromotionDecision K) := do
  let quality := verdict.qualityOverride.getD (aggregateQuality contract comparison.axisDeltas)
  raiseIf (verdict.decisionType = .capability ∧ quality.lower ≤ 0)
    "capability progress requires positive quality lower bound"
  raiseIf (verdict.decisionType = .efficiency ∧ quality.lower < -config.equivalenceTolerance)
    "efficiency progress requires quality equivalence"
  return { decisionType := verdict.decisionType
           contractId := contract.contractId
           parentRuntimeHash := comparison.parentRuntimeHash
           childRuntimeHash := comparison.childRuntimeHash
           winningRuntimeHash :=
             if verdict.decisionType.promoting then comparison.childRuntimeHash else ""
           improvedAxes := verdict.improvedAxes
           regressedAxes := verdict.regressedAxes
           tiedAxes := (comparison.axisDeltas.map (·.axisId)).filter fun axisId =>
             axisId ∉ verdict.improvedAxes ∧ axisId ∉ verdict.regressedAxes
           quality := quality
           efficiency := bestEfficiencyDelta comparison
           reasonCodes := verdict.reasonCodes
           noCapabilitySignalReason := verdict.noCapabilitySignalReason }

omit [Field K] in
/-- The axes of one kind that may promote. -/
def eligibleAxes (contract : DomainEvidenceContract K) (kind : PromotionKind)
    (axes : List (AxisDelta K)) : List (AxisDelta K) :=
  axes.filter fun axis =>
    axis.promotionKind = kind ∧ qualityAxisPromotionEligible contract axis.axisId

def improvedAxes (contract : DomainEvidenceContract K) (axes : List (AxisDelta K)) : List String :=
  (axes.filter fun axis =>
    axisEpsilon contract axis.axisId config.capabilityEpsilon < axis.estimate).map (·.axisId)

def regressedAxes (contract : DomainEvidenceContract K) (comparison : PairedComparison K) :
    List String :=
  (comparison.axisDeltas.filter fun axis =>
    min axis.lower ((comparison.protectedAxisBounds.lookup axis.axisId).getD axis.lower) <
      -axisRegressionTolerance contract axis.axisId config.protectedRegressionTolerance).map
    (·.axisId)

omit [Field K] [LinearOrder K] in
def isImplicitSuiteContract (contract : DomainEvidenceContract K) : Bool :=
  decide (contract.version = "implicit" ∨ contract.contractId = implicitContractId)

/-- Whether the best efficiency delta clears its epsilon at equivalent quality. -/
def efficiencyCleared (contract : DomainEvidenceContract K) (comparison : PairedComparison K) :
    Prop :=
  let best := bestEfficiencyDelta comparison
  comparison.efficiencyDeltas ≠ [] ∧
    -config.equivalenceTolerance ≤ (aggregateQuality contract comparison.axisDeltas).lower ∧
    efficiencyAxisEpsilon contract best.axisId config.efficiencyEpsilon < best.lower

instance (contract : DomainEvidenceContract K) (comparison : PairedComparison K) :
    Decidable (efficiencyCleared config contract comparison) :=
  inferInstanceAs (Decidable (_ ∧ _ ∧ _))

/-- The end of `decide`: subskill progress, saturation, or nothing. -/
def subskillVerdict (contract : DomainEvidenceContract K) (comparison : PairedComparison K)
    (staticSuiteSaturated frontierEvidenceAvailable : Bool) : Verdict K :=
  let axes := eligibleAxes contract .subskill comparison.axisDeltas
  let improved := improvedAxes config contract axes
  let quality := aggregateQuality contract axes
  let saturated := staticSuiteSaturated || comparison.axisDeltas.all (·.saturated)
  if improved ≠ [] ∧ config.capabilityEpsilon < quality.lower then
    { decisionType := .subskill
      improvedAxes := improved
      reasonCodes := ["suite_quality_win"]
      qualityOverride := some quality }
  else if saturated ∧ ¬frontierEvidenceAvailable then
    { decisionType := .abstain
      noCapabilitySignalReason := "all quality axes saturated; expand frontier challenges"
      reasonCodes := ["static_suite_saturated", "expand_frontier_challenges",
        "no_capability_signal"] }
  else if saturated then
    { decisionType := .noProgress
      noCapabilitySignalReason := "all quality axes saturated"
      reasonCodes := ["quality_saturated", "no_capability_signal"] }
  else
    { decisionType := .noProgress
      reasonCodes := ["quality_lcb_not_cleared"] }

/-- The branches of `decide` once a comparison is admitted. -/
def effectVerdict (contract : DomainEvidenceContract K) (comparison : PairedComparison K)
    (staticSuiteSaturated frontierEvidenceAvailable : Bool) : Verdict K :=
  let regressed := regressedAxes config contract comparison
  let axes := eligibleAxes contract .capability comparison.axisDeltas
  let improved := improvedAxes config contract axes
  let quality := aggregateQuality contract axes
  if regressed ≠ [] then
    { decisionType := .reject
      regressedAxes := regressed
      reasonCodes := ["protected_axis_regression"] }
  else if improved ≠ [] ∧ config.capabilityEpsilon < quality.lower then
    { decisionType := .capability
      improvedAxes := improved
      reasonCodes := [if isImplicitSuiteContract contract then "suite_quality_win"
        else "frontier_quality_win"]
      qualityOverride := some quality }
  else if efficiencyCleared config contract comparison then
    { decisionType := .efficiency
      reasonCodes := "quality_equivalent" ::
        (if staticSuiteSaturated then ["static_suite_saturated"] else []) ++
          ["efficiency_lcb_cleared"] }
  else if improved ≠ [] then
    { decisionType := .noProgress
      reasonCodes := ["capability_lcb_not_cleared"] }
  else
    subskillVerdict config contract comparison staticSuiteSaturated frontierEvidenceAvailable

def ProgressOracle.decide (contract : DomainEvidenceContract K) (comparison : PairedComparison K)
    (staticSuiteSaturated frontierEvidenceAvailable : Bool) :
    Except String (PromotionDecision K) :=
  match admissionIssue F contract comparison with
  | some (decisionType, reasonCodes) =>
    decision config contract comparison { decisionType := decisionType, reasonCodes := reasonCodes }
  | none => decision config contract comparison
      (effectVerdict config contract comparison staticSuiteSaturated frontierEvidenceAvailable)

/-- `decide_evaluations`, from the comparison under the contract on. -/
def decideUnder (contract : DomainEvidenceContract K) (child : SuiteEvaluation K)
    (comparison : PairedComparison K) : Except String (PromotionDecision K) :=
  if child.invalid then
    decision config contract comparison
      { decisionType := .reject, reasonCodes := ["invalid_child_evaluation"] }
  else
    ProgressOracle.decide F config contract comparison (comparison.axisDeltas.all (·.saturated))
      (comparison.axisDeltas.any (·.source = .frontier))

def decideEvaluations (parent child : SuiteEvaluation K)
    (contract : Option (DomainEvidenceContract K)) (leakageStatus : Option LeakageStatus)
    (healthFloorStatus : Option (List (String × String))) :
    Except String (PromotionDecision K) := do
  let comparison := compareEvaluations F config parent child contract leakageStatus healthFloorStatus
  match contract with
  | some contract => decideUnder F config contract child comparison
  | none => do
    let contract ← implicitContract config comparison
    decideUnder F config contract child (compareEvaluations F config parent child (some contract)
      comparison.leakageStatus comparison.healthFloorStatus)

end Agintor.Evaluation
