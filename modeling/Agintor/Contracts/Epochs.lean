import Agintor.Contracts.Ceilings

/-!
# Research epochs

`ResearchEpochManifest` of `contracts/epochs.py`, with what the search and the promotion gate
read of it. Literal fields that admit one value are left out.
-/

namespace Agintor.Contracts

inductive DataState
  | development
  | sealedConfirmation
deriving DecidableEq

structure DeploymentIdentity where
  deploymentId : String
  provider : String
  model : String
  providerConfigDigest : String
  decodingPolicyDigest : String
  priceScheduleDigest : String
  commandContainerPolicyDigest : String
deriving DecidableEq

inductive SearchStrategy
  | onePlusLambda
  | fixedBeam
deriving DecidableEq

structure SearchEnvelope where
  strategy : SearchStrategy := .onePlusLambda
  maxSteps : ℕ
  offspringPerStep : ℕ
  samplingReplicates : ℕ
  taskPanelDigest : String
  positive : 0 < maxSteps ∧ 0 < offspringPerStep ∧ 0 < samplingReplicates
deriving DecidableEq

structure PromotionMargins where
  minimumCompleteRepairGain : ℕ := 1
  minimumPairedReceipts : ℕ := 1
  maximumPairRegressions : ℕ := 0
  positive : 1 ≤ minimumCompleteRepairGain ∧ 1 ≤ minimumPairedReceipts
deriving DecidableEq

structure StopRule where
  maxCandidateEvaluations : ℕ
  maxConsecutiveNonImprovingSteps : ℕ
  positive : 0 < maxCandidateEvaluations ∧ 0 < maxConsecutiveNonImprovingSteps
deriving DecidableEq

structure EvaluatorAuthority where
  evaluatorId : String
  evaluatorIdentityDigest : String
  evaluationPolicyDigest : String
deriving DecidableEq

structure ResearchEpochManifest where
  runtimeContractVersion : String
  epochId : String
  epochManifestDigest : String
  capabilityEpoch : String := "repo-repair-v1"
  promotionCapable : Bool := true
  developmentSplitDigest : String
  sealedConfirmationSplitDigest : String
  deployment : DeploymentIdentity
  perRunCeilings : TaskCeilings
  searchEnvelope : SearchEnvelope
  promotionMargins : PromotionMargins
  stopRule : StopRule
  evaluatorAuthority : EvaluatorAuthority
  splits_differ : developmentSplitDigest ≠ sealedConfirmationSplitDigest
  batch_le : searchEnvelope.offspringPerStep ≤ stopRule.maxCandidateEvaluations
deriving DecidableEq

end Agintor.Contracts
