import Mathlib.Data.Rat.Defs
import Mathlib.Algebra.Order.Ring.Rat

/-!
# Task ceilings

`TaskCeilings` of `contracts/epochs.py`: the per-run limits a task envelope carries and a
compiled plan repeats. Counts are natural numbers, money is exact. The bounds the model
class declares on its fields, and the two checks of `validate_deadline`, are fields here.
-/

namespace Agintor.Contracts

/-- Limits on one run. -/
structure TaskCeilings where
  maxModelCalls : ℕ
  maxInputTokens : ℕ
  maxOutputTokens : ℕ
  maxCachedTokens : ℕ
  maxCacheWriteTokens : ℕ
  maxToolCalls : ℕ
  maxToolOutputBytes : ℕ
  maxArtifactBytes : ℕ
  maxPatchBytes : ℕ
  maxRetries : ℕ
  maxWallTimeMs : ℕ
  providerDeadlineMs : ℕ
  maxKnownCostUsd : ℚ
  maxEstimatedCostUsd : ℚ
  positive : 0 < maxModelCalls ∧ 0 < maxInputTokens ∧ 0 < maxOutputTokens ∧ 0 < maxToolCalls ∧
    0 < maxToolOutputBytes ∧ 0 < maxArtifactBytes ∧ 0 < maxPatchBytes ∧ 0 < maxWallTimeMs ∧
    0 < providerDeadlineMs
  knownCost_nonneg : 0 ≤ maxKnownCostUsd
  deadline_le : providerDeadlineMs ≤ maxWallTimeMs
  knownCost_le : maxKnownCostUsd ≤ maxEstimatedCostUsd
deriving DecidableEq

end Agintor.Contracts
