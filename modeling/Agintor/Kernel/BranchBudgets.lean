import Agintor.Lib.Apportionment

/-!
# Branch budgets

The apportionment of `runtime/kernel/branches/budget.py` in exact arithmetic. The minimums of a
worker come from its plan nodes and are arguments here; of a branch plan the copied ids and the
trace context are left out.
-/

namespace Agintor.Kernel

open Lib

/-- A missing `predicted_solve` reads as 0. -/
structure BranchWorker where
  workerId : Option String
  predictedSolve : ℚ
  opIds : List String

structure BranchBudget where
  modelCallsMax : ℕ
  checksMax : ℕ
  latencyMax : ℚ
  allowToolSynthesis : Bool

structure BranchPlan where
  branchId : String
  assignedNodeIds : List String
  mergePriority : ℕ
  predictedSolve : ℚ
  reservedBudget : BranchBudget

/-! ## Integers -/

/-- `sum(weights) or float(len(weights))` -/
def weightTotal (weights : List ℚ) : ℚ := if weights.sum = 0 then weights.length else weights.sum

/-- `ideal_extras` -/
def idealExtras (remainder : ℕ) (weights : List ℚ) : List ℚ :=
  weights.map fun weight => weight / weightTotal weights * remainder

/-- `base_extras`; the ideals are not negative, so that truncation rounds down. -/
def baseExtras (ideals : List ℚ) : List ℕ := ideals.map fun ideal => ⌊ideal⌋.toNat

/-- `ideal_extras[idx] - base_extras[idx]` -/
def remainderAt (ideals : List ℚ) (i : ℕ) : ℚ := ideals.getD i 0 - (baseExtras ideals).getD i 0

/-- The descending order of the keys: the remainder, the weight, and the smaller index. -/
def BumpedBefore (ideals weights : List ℚ) (i j : ℕ) : Prop :=
  remainderAt ideals j < remainderAt ideals i ∨ remainderAt ideals i = remainderAt ideals j ∧
    (weights.getD j 0 < weights.getD i 0 ∨ weights.getD i 0 = weights.getD j 0 ∧ i ≤ j)

instance (ideals weights : List ℚ) : DecidableRel (BumpedBefore ideals weights) := fun _ _ =>
  inferInstanceAs (Decidable (_ ∨ _ ∧ (_ ∨ _ ∧ _)))

/-- `_apportion_integer_budget` -/
def apportionIntegerBudget (total : ℕ) (weights : List ℚ) (minimums : List ℕ) : List ℕ :=
  if weights = [] then []
  else if total < minimums.sum then []
  else
    let remainder := total - minimums.sum
    if remainder = 0 then minimums
    else
      let normalizedWeights := weights.map (max 0)
      let ideals := idealExtras remainder normalizedWeights
      let bases := baseExtras ideals
      let order := (List.range normalizedWeights.length).insertionSort
        (BumpedBefore ideals normalizedWeights)
      addUnits (List.zipWith (· + ·) minimums bases) (order.take (remainder - bases.sum))

/-! ## Latency -/

/-- `1e-9` -/
def latencyTolerance : ℚ := 1 / 1000000000

/-- The nearest integer, the even one of two. -/
def roundHalfEven (x : ℚ) : ℤ :=
  let floor := ⌊x⌋
  if x - floor < 1 / 2 then floor
  else if 1 / 2 < x - floor then floor + 1
  else if floor % 2 = 0 then floor
  else floor + 1

/-- `round(x, 6)` -/
def roundMicro (x : ℚ) : ℚ := roundHalfEven (x * 1000000) / 1000000

/-- The loop over the weights: everything but the last share is rounded. -/
def splitLatency (total remainder : ℚ) : (remaining : ℚ) → List ℚ → List ℚ → List ℚ
  | remaining, [_], minimum :: minimums => (minimum + max 0 remaining) :: minimums
  | remaining, weight :: weights, minimum :: minimums =>
    let share := min (max 0 (roundMicro (weight / total * remainder))) remaining
    (minimum + share) :: splitLatency total remainder (remaining - share) weights minimums
  | _, _, minimums => minimums

/-- `_apportion_latency_budget` -/
def apportionLatencyBudget (total : ℚ) (weights minimums : List ℚ) : List ℚ :=
  if weights = [] then []
  else if total + latencyTolerance < minimums.sum then []
  else
    let remainder := max 0 (total - minimums.sum)
    if remainder ≤ latencyTolerance then minimums
    else
      let normalizedWeights := weights.map (max 0)
      splitLatency (weightTotal normalizedWeights) remainder remainder normalizedWeights minimums

/-! ## Launching -/

/-- The order of the keys `(-predicted_solve, worker_id)`. -/
def RankedBefore (a b : BranchWorker) : Prop :=
  b.predictedSolve < a.predictedSolve ∨ a.predictedSolve = b.predictedSolve ∧
    a.workerId.getD "" ≤ b.workerId.getD ""

instance : DecidableRel RankedBefore := fun _ _ => inferInstanceAs (Decidable (_ ∨ _ ∧ _))

def rankedWorkers (workers : List BranchWorker) : List BranchWorker :=
  workers.insertionSort RankedBefore

structure BranchSpec where
  worker : BranchWorker
  weight : ℚ
  minCalls : ℕ
  minChecks : ℕ
  minLatency : ℚ

section Launch

variable (minimumModelCalls : BranchWorker → ℕ) (minimumLatency : BranchWorker → ℚ)

def branchSpec (worker : BranchWorker) : BranchSpec where
  worker := worker
  weight := max (1 / 100) worker.predictedSolve
  minCalls := minimumModelCalls worker
  minChecks := 0
  minLatency := minimumLatency worker

/-- What is left of the run's budget. -/
structure RemainingBudget where
  calls : ℕ
  checks : ℕ
  latency : ℚ

/-- The minimums of these branches fit what is left. -/
def MinimumsFit (remaining : RemainingBudget) (specs : List BranchSpec) : Prop :=
  (specs.map (·.minCalls)).sum ≤ remaining.calls ∧
    (specs.map (·.minChecks)).sum ≤ remaining.checks ∧
      (specs.map (·.minLatency)).sum ≤ remaining.latency + latencyTolerance

instance (remaining : RemainingBudget) : DecidablePred (MinimumsFit remaining) := fun _ =>
  inferInstanceAs (Decidable (_ ∧ _ ∧ _))

/-- The `while` loop, which ends with the list at the latest. -/
def popUnfit (remaining : RemainingBudget) : ℕ → List BranchSpec → List BranchSpec
  | 0, specs => specs
  | n + 1, specs =>
    if specs ≠ [] ∧ ¬MinimumsFit remaining specs then popUnfit remaining n specs.dropLast else specs

/-- The specs of the branches that are launched. -/
def launchableSpecs (remaining : RemainingBudget) (workers : List BranchWorker) :
    List BranchSpec :=
  let specs := (rankedWorkers workers).map (branchSpec minimumModelCalls minimumLatency)
  popUnfit remaining specs.length specs

/-- `_launchable_branch_plans` -/
def launchableBranchPlans (allowToolSynthesis : Bool) (remaining : RemainingBudget)
    (workers : List BranchWorker) : List BranchPlan :=
  let specs := launchableSpecs minimumModelCalls minimumLatency remaining workers
  let weights := specs.map (·.weight)
  let calls := apportionIntegerBudget remaining.calls weights (specs.map (·.minCalls))
  let checks := apportionIntegerBudget remaining.checks weights (specs.map (·.minChecks))
  let latencies := apportionLatencyBudget remaining.latency weights (specs.map (·.minLatency))
  if specs = [] ∨ calls = [] ∨ checks = [] ∨ latencies = [] then []
  else
    specs.mapIdx fun index spec =>
      { branchId := spec.worker.workerId.getD ("branch_" ++ toString index)
        assignedNodeIds := spec.worker.opIds
        mergePriority := index
        predictedSolve := spec.worker.predictedSolve
        reservedBudget :=
          { modelCallsMax := calls.getD index 0
            checksMax := checks.getD index 0
            latencyMax := latencies.getD index 0
            allowToolSynthesis := allowToolSynthesis } }

end Launch

end Agintor.Kernel
