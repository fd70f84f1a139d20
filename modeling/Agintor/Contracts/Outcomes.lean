import Agintor.Contracts.Epochs

/-!
# Outcome receipts and proof bindings

`OutcomeReceipt` of `contracts/outcomes.py` and `EvaluatorOutcomeProofBinding` of
`contracts/promotion_proof.py`: what an evaluator reports about one run, and the public part of
the run evidence that goes with it. Diagnostics, times of issue and store references are left
out, as is the message text a receipt's own constructor raises. Money is exact.
-/

namespace Agintor.Contracts

structure PairKey where
  taskManifestId : String
  environmentId : String
  samplingReplicate : ℕ
  providerConfigDigest : String
deriving DecidableEq

structure OutcomeHealth where
  processIntegrity : Bool
  noLeakage : Bool
  environmentIntegrity : Bool
  evaluatorIntegrity : Bool
  accountingComplete : Bool
deriving DecidableEq

def OutcomeHealth.passesPromotionFloor (h : OutcomeHealth) : Bool :=
  h.processIntegrity && h.noLeakage && h.environmentIntegrity && h.evaluatorIntegrity &&
    h.accountingComplete

structure OutcomeCost where
  modelCalls : ℕ
  inputTokens : ℕ
  outputTokens : ℕ
  cachedTokens : ℕ
  cacheWriteTokens : ℕ
  toolCalls : ℕ
  toolOutputBytes : ℕ
  artifactBytes : ℕ
  patchBytes : ℕ
  retries : ℕ
  wallTimeMs : ℕ
  knownCostUsd : ℚ
  estimatedCostUsd : ℚ
  unknownDollars : Bool
  withinEpochEnvelope : Bool
  nonneg : 0 ≤ knownCostUsd ∧ 0 ≤ estimatedCostUsd
  subcategories : cachedTokens + cacheWriteTokens ≤ inputTokens
deriving DecidableEq

inductive ExecutionMode
  | deterministicReplay
  | liveProvider
deriving DecidableEq

inductive LiveInferenceStatus
  | notRun
  | completed
  | failed
deriving DecidableEq

structure OutcomeReceipt where
  runtimeContractVersion : String
  receiptDigest : String
  executionMode : ExecutionMode
  liveInferenceStatus : LiveInferenceStatus
  realInferenceRequestsSent : ℕ
  capabilityEpoch : String
  dataState : DataState
  epochId : String
  epochManifestDigest : String
  releaseDigest : String
  releaseManifestDigest : String
  profileDigest : String
  splitManifestDigest : String
  taskManifestId : String
  taskManifestDigest : String
  evaluationContractId : String
  evaluationContractDigest : String
  evaluatorId : String
  evaluatorIdentityDigest : String
  evaluationPolicyDigest : String
  pairKey : PairKey
  protocolDigest : String
  compilerDigest : String
  kernelDigest : String
  toolManifestDigest : String
  providerConfigDigest : String
  decodingPolicyDigest : String
  priceScheduleDigest : String
  commandContainerPolicyDigest : String
  evaluatorEnvironmentDigest : String
  patchDigest : String
  completeRepair : Bool
  health : OutcomeHealth
  exclusions : List String
  cost : OutcomeCost
deriving DecidableEq

inductive Arm
  | intact
  | neutralArtifact
deriving DecidableEq

/-- Public identities of the run that an outcome is about. -/
structure PromotionRunEvidenceProjection where
  evidenceDigest : String
  executionMode : ExecutionMode
  liveInferenceStatus : LiveInferenceStatus
  realInferenceRequestsSent : ℕ
  arm : Arm
  interventionDigest : Option String
  releaseDigest : String
  releaseManifestDigest : String
  profileDigest : String
  compiledSemanticDigest : String
  dependencyManifestDigest : String
  providerConfigDigest : String
  decodingPolicyDigest : String
  priceScheduleDigest : String
  commandContainerPolicyDigest : String
  deploymentId : String
  provider : String
  model : String
  healthy : Bool
deriving DecidableEq

/-- A receipt and the run it is about. The fields that both carry agree. -/
structure EvaluatorOutcomeProofBinding where
  bindingDigest : String
  publicProofDigest : String
  proofRecordId : String
  proofRecordDigest : String
  outcomeReceipt : OutcomeReceipt
  runEvidence : PromotionRunEvidenceProjection
  runEvidenceDigest : String
  live_eq : outcomeReceipt.executionMode = runEvidence.executionMode ∧
    outcomeReceipt.liveInferenceStatus = runEvidence.liveInferenceStatus ∧
    outcomeReceipt.realInferenceRequestsSent = runEvidence.realInferenceRequestsSent
  release_eq : outcomeReceipt.releaseDigest = runEvidence.releaseDigest ∧
    outcomeReceipt.releaseManifestDigest = runEvidence.releaseManifestDigest ∧
    outcomeReceipt.profileDigest = runEvidence.profileDigest
  policies_eq : outcomeReceipt.providerConfigDigest = runEvidence.providerConfigDigest ∧
    outcomeReceipt.decodingPolicyDigest = runEvidence.decodingPolicyDigest ∧
    outcomeReceipt.priceScheduleDigest = runEvidence.priceScheduleDigest ∧
    outcomeReceipt.commandContainerPolicyDigest = runEvidence.commandContainerPolicyDigest
  task_eq : outcomeReceipt.taskManifestId = outcomeReceipt.pairKey.taskManifestId
deriving DecidableEq

/-- The digests of these records. -/
structure OutcomeDigests where
  pairKey : PairKey → String
  outcomeReceipt : OutcomeReceipt → String
  publicPromotionProof : EvaluatorOutcomeProofBinding → String
  proofBinding : EvaluatorOutcomeProofBinding → String

end Agintor.Contracts
