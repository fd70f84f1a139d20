import Agintor.Contracts.Outcomes
import Agintor.Core.Text
import Agintor.Lib.Dict
import Agintor.Lib.Raise

/-!
# Paired retention

`search/promotion.py`: a child protocol is retained over its parent when evaluator-owned proofs,
paired by their PairKeys, show that it repairs more tasks. A `PromotionRefusal` is its message.
-/

namespace Agintor.Search

open Agintor.Contracts Lib

/-- `PromotionRefusal` -/
abbrev Refusal := String

/-- The names of the fields on which two records differ. -/
def crossed {α β : Type} (fields : List (String × (α → String) × (β → String))) (a : α) (b : β) :
    List String :=
  (fields.filter fun f => f.2.1 a ≠ f.2.2 b).map Prod.fst

def commaJoin (names : List String) : String := String.intercalate ", " names

structure PromotionAuthorization where
  authorizationId : String
  epochId : String
  epochManifestDigest : String
  parentProtocolDigest : String
  childProtocolDigest : String
  pairKeyDigests : List String
  parentReceiptDigests : List String
  childReceiptDigests : List String
  parentProofBindingDigests : List String
  childProofBindingDigests : List String
  completeRepairGain : ℤ
  pairRegressions : ℕ
  capabilityPromotionAuthorized : Bool
  capabilityPromotionReason : String
deriving DecidableEq

/-- The payload of an authorization id. -/
structure AuthorizationIdentity where
  epoch : String
  parentProofs : List String
  childProofs : List String
  capabilityPromotionAuthorized : Bool

/-- The digests that promotion reads and makes. -/
structure PromotionDigests extends OutcomeDigests where
  authorization : AuthorizationIdentity → String

/-! ## Single proofs -/

/-- What a cost is held against: a name, the value and its ceiling. -/
def costChecks (cost : OutcomeCost) (ceilings : TaskCeilings) : List (String × ℚ × ℚ) :=
  [("model calls", cost.modelCalls, ceilings.maxModelCalls),
    ("input tokens", cost.inputTokens, ceilings.maxInputTokens),
    ("output tokens", cost.outputTokens, ceilings.maxOutputTokens),
    ("cached tokens", cost.cachedTokens, ceilings.maxCachedTokens),
    ("cache-write tokens", cost.cacheWriteTokens, ceilings.maxCacheWriteTokens),
    ("tool calls", cost.toolCalls, ceilings.maxToolCalls),
    ("tool output bytes", cost.toolOutputBytes, ceilings.maxToolOutputBytes),
    ("artifact bytes", cost.artifactBytes, ceilings.maxArtifactBytes),
    ("patch bytes", cost.patchBytes, ceilings.maxPatchBytes),
    ("retries", cost.retries, ceilings.maxRetries),
    ("wall time", cost.wallTimeMs, ceilings.maxWallTimeMs),
    ("known cost", cost.knownCostUsd, ceilings.maxKnownCostUsd),
    ("estimated cost", cost.knownCostUsd + cost.estimatedCostUsd, ceilings.maxEstimatedCostUsd)]

def assertCostWithinEpoch (receipt : OutcomeReceipt) (epoch : ResearchEpochManifest) :
    Except Refusal Unit := do
  let cost := receipt.cost
  raiseIf (cost.unknownDollars = true) "outcome cost contains unknown dollars"
  raiseIf (cost.withinEpochEnvelope = false) "outcome receipt reports an exceeded epoch envelope"
  let exceeded := ((costChecks cost epoch.perRunCeilings).filter fun c => c.2.2 < c.2.1).map Prod.fst
  raiseIf (exceeded ≠ []) ("outcome receipt exceeds epoch ceilings: " ++ commaJoin exceeded)

def deploymentReceiptFields :
    List (String × (OutcomeReceipt → String) × (DeploymentIdentity → String)) :=
  [("provider_config_digest", (·.providerConfigDigest), (·.providerConfigDigest)),
    ("decoding_policy_digest", (·.decodingPolicyDigest), (·.decodingPolicyDigest)),
    ("price_schedule_digest", (·.priceScheduleDigest), (·.priceScheduleDigest)),
    ("command_container_policy_digest", (·.commandContainerPolicyDigest),
      (·.commandContainerPolicyDigest))]

variable (D : PromotionDigests)

def assertAuthoritativeOutcomeReceipt (receipt : OutcomeReceipt) (epoch : ResearchEpochManifest) :
    Except Refusal Unit := do
  raiseIf (receipt.receiptDigest ≠ D.outcomeReceipt receipt)
    "outcome receipt digest does not match its payload"
  raiseIf (receipt.runtimeContractVersion ≠ epoch.runtimeContractVersion)
    "outcome receipt runtime contract version crossed the epoch"
  raiseIf (receipt.capabilityEpoch ≠ epoch.capabilityEpoch)
    "outcome receipt capability crossed the epoch"
  raiseIf (receipt.epochId ≠ epoch.epochId) "outcome receipt epoch_id crossed the pinned epoch"
  raiseIf (receipt.epochManifestDigest ≠ epoch.epochManifestDigest)
    "outcome receipt epoch digest crossed the pinned epoch"
  raiseIf (receipt.dataState ≠ .development)
    "sealed-confirmation outcomes may not drive development decisions"
  raiseIf (receipt.splitManifestDigest ≠ epoch.developmentSplitDigest)
    "outcome receipt crossed the pinned development split"
  let authority := epoch.evaluatorAuthority
  raiseIf (receipt.evaluatorId ≠ authority.evaluatorId)
    "outcome receipt evaluator_id crossed the pinned evaluator"
  raiseIf (receipt.evaluatorIdentityDigest ≠ authority.evaluatorIdentityDigest)
    "outcome receipt evaluator digest crossed the pinned evaluator"
  raiseIf (receipt.evaluationPolicyDigest ≠ authority.evaluationPolicyDigest)
    "outcome receipt evaluation policy crossed the pinned evaluator"
  raiseIf (receipt.pairKey.providerConfigDigest ≠ epoch.deployment.providerConfigDigest)
    "outcome receipt provider configuration crossed the pinned deployment"
  let crossedFields := crossed deploymentReceiptFields receipt epoch.deployment
  raiseIf (crossedFields ≠ [])
    ("outcome receipt crossed the pinned deployment: " ++ commaJoin crossedFields)
  raiseIf (receipt.health.passesPromotionFloor = false)
    "outcome receipt failed a process/no-leakage/integrity health floor"
  raiseIf (receipt.exclusions ≠ [])
    "excluded evaluator outcomes may not authorize development decisions"
  assertCostWithinEpoch receipt epoch

def deploymentRunFields :
    List (String × (PromotionRunEvidenceProjection → String) × (DeploymentIdentity → String)) :=
  [("deployment_id", (·.deploymentId), (·.deploymentId)),
    ("provider", (·.provider), (·.provider)),
    ("model", (·.model), (·.model)),
    ("provider_config_digest", (·.providerConfigDigest), (·.providerConfigDigest)),
    ("decoding_policy_digest", (·.decodingPolicyDigest), (·.decodingPolicyDigest)),
    ("price_schedule_digest", (·.priceScheduleDigest), (·.priceScheduleDigest)),
    ("command_container_policy_digest", (·.commandContainerPolicyDigest),
      (·.commandContainerPolicyDigest))]

def assertAuthoritativeOutcomeProof (binding : EvaluatorOutcomeProofBinding)
    (epoch : ResearchEpochManifest) (expectedProfileDigest : Option String) :
    Except Refusal Unit := do
  raiseIf (binding.publicProofDigest ≠ D.publicPromotionProof binding)
    "public proof digest does not match its projection"
  raiseIf (binding.bindingDigest ≠ D.proofBinding binding)
    "evaluator outcome proof binding digest does not match its payload"
  let run := binding.runEvidence
  assertAuthoritativeOutcomeReceipt D binding.outcomeReceipt epoch
  let crossedFields := crossed deploymentRunFields run epoch.deployment
  raiseIf (crossedFields ≠ [])
    ("public RunEvidence crossed the pinned deployment: " ++ commaJoin crossedFields)
  raiseIf (∃ profile ∈ expectedProfileDigest, run.profileDigest ≠ profile)
    "public RunEvidence crossed the frozen deployment profile"
  raiseIf (run.arm ≠ .intact ∨ run.interventionDigest ≠ none)
    "intervention RunEvidence may not authorize search retention"
  raiseIf (run.healthy = false) "public RunEvidence failed its process integrity floor"

/-! ## Panels -/

def pairKeyOf (binding : EvaluatorOutcomeProofBinding) : String :=
  D.pairKey binding.outcomeReceipt.pairKey

/-- The release and deployment identities of a run. -/
def releaseIdentity (binding : EvaluatorOutcomeProofBinding) : List String :=
  let run := binding.runEvidence
  [run.releaseDigest, run.releaseManifestDigest, run.profileDigest, run.deploymentId, run.provider,
    run.model, run.providerConfigDigest, run.decodingPolicyDigest, run.priceScheduleDigest,
    run.commandContainerPolicyDigest]

/-- The loop of `_proof_map`. -/
def mapProofs (label : String) (epoch : ResearchEpochManifest)
    (expectedProfileDigest : Option String) (mapped : Dict String EvaluatorOutcomeProofBinding) :
    List EvaluatorOutcomeProofBinding →
      Except Refusal (Dict String EvaluatorOutcomeProofBinding)
  | [] => .ok mapped
  | binding :: bindings => do
    assertAuthoritativeOutcomeProof D binding epoch expectedProfileDigest
    raiseIf (pairKeyOf D binding ∈ mapped.keys)
      ("duplicate " ++ label ++ " PairKey is not promotion evidence")
    mapProofs label epoch expectedProfileDigest (mapped.set (pairKeyOf D binding) binding) bindings

def proofMap (bindings : List EvaluatorOutcomeProofBinding) (label : String)
    (epoch : ResearchEpochManifest) (expectedProfileDigest : Option String) :
    Except Refusal (Dict String EvaluatorOutcomeProofBinding) := do
  raiseIf (bindings = []) (label ++ " evaluator outcome proof bindings are required")
  let mapped ← mapProofs D label epoch expectedProfileDigest .empty bindings
  raiseIf ((mapped.values.map releaseIdentity).dedup.length ≠ 1)
    (label ++ " proof panel crossed release or deployment identities")
  return mapped

def liveCapabilityProof (binding : EvaluatorOutcomeProofBinding) : Bool :=
  let run := binding.runEvidence
  let receipt := binding.outcomeReceipt
  decide (run.executionMode = .liveProvider ∧ run.liveInferenceStatus = .completed ∧
    0 < run.realInferenceRequestsSent ∧ receipt.executionMode = .liveProvider ∧
    receipt.liveInferenceStatus = .completed ∧ 0 < receipt.realInferenceRequestsSent ∧
    receipt.cost.modelCalls = receipt.realInferenceRequestsSent)

def pairedIdentityFields : List (String × (OutcomeReceipt → String) × (OutcomeReceipt → String)) :=
  [("task_manifest_id", (·.taskManifestId), (·.taskManifestId)),
    ("task_manifest_digest", (·.taskManifestDigest), (·.taskManifestDigest)),
    ("evaluation_contract_id", (·.evaluationContractId), (·.evaluationContractId)),
    ("evaluation_contract_digest", (·.evaluationContractDigest), (·.evaluationContractDigest)),
    ("compiler_digest", (·.compilerDigest), (·.compilerDigest)),
    ("kernel_digest", (·.kernelDigest), (·.kernelDigest)),
    ("tool_manifest_digest", (·.toolManifestDigest), (·.toolManifestDigest)),
    ("profile_digest", (·.profileDigest), (·.profileDigest)),
    ("provider_config_digest", (·.providerConfigDigest), (·.providerConfigDigest)),
    ("decoding_policy_digest", (·.decodingPolicyDigest), (·.decodingPolicyDigest)),
    ("price_schedule_digest", (·.priceScheduleDigest), (·.priceScheduleDigest)),
    ("command_container_policy_digest", (·.commandContainerPolicyDigest),
      (·.commandContainerPolicyDigest)),
    ("evaluator_environment_digest", (·.evaluatorEnvironmentDigest),
      (·.evaluatorEnvironmentDigest))]

/-! ## Pairs -/

/-- The proof under a key that is known to be there. -/
def proofAt (mapped : Dict String EvaluatorOutcomeProofBinding) (key : String) :
    Except Refusal EvaluatorOutcomeProofBinding :=
  match mapped.get? key with
  | some binding => .ok binding
  | none => .error ("KeyError: " ++ key)

/-- The loop over the pairs, which counts gains and regressions. -/
def countPairs (parent child : Dict String EvaluatorOutcomeProofBinding) (gains regressions : ℕ) :
    List String → Except Refusal (ℕ × ℕ)
  | [] => .ok (gains, regressions)
  | key :: keys => do
    let parentReceipt := (← proofAt parent key).outcomeReceipt
    let childReceipt := (← proofAt child key).outcomeReceipt
    let crossedFields := crossed pairedIdentityFields parentReceipt childReceipt
    raiseIf (crossedFields ≠ []) ("paired outcome identities crossed: " ++ commaJoin crossedFields)
    if childReceipt.completeRepair ∧ ¬parentReceipt.completeRepair then
      countPairs parent child (gains + 1) regressions keys
    else if parentReceipt.completeRepair ∧ ¬childReceipt.completeRepair then
      countPairs parent child gains (regressions + 1) keys
    else
      countPairs parent child gains regressions keys

def liveReason : String := "paired improvement is backed by live-provider RunEvidence"

def implementationReason : String :=
  "paired improvement is implementation evidence only; " ++
    "live-provider RunEvidence is required for capability promotion"

/-- The one protocol that a panel is about. -/
def panelProtocol (mapped : Dict String EvaluatorOutcomeProofBinding) : Option String :=
  match (mapped.values.map (·.outcomeReceipt.protocolDigest)).dedup with
  | [protocol] => some protocol
  | _ => none

/-- `sorted(mapped)` -/
def orderedKeys (mapped : Dict String EvaluatorOutcomeProofBinding) : List String :=
  mapped.keys.insertionSort (· ≤ ·)

/-- `_authorize_paired_retention`, once both panels are mapped by their keys. -/
def authorizePanels (epoch : ResearchEpochManifest)
    (parent child : Dict String EvaluatorOutcomeProofBinding) :
    Except Refusal PromotionAuthorization := do
  raiseIf (¬(parent.keys ⊆ child.keys ∧ child.keys ⊆ parent.keys))
    "parent and child proofs are not explicitly paired by PairKey"
  raiseIf (parent.keys.length < epoch.promotionMargins.minimumPairedReceipts)
    "insufficient paired proofs for the frozen promotion margin"
  match panelProtocol parent, panelProtocol child with
  | some parentProtocol, some childProtocol => do
    raiseIf (parentProtocol = childProtocol)
      "capability promotion requires a semantic child protocol"
    let keys := orderedKeys parent
    let (gains, regressions) ← countPairs parent child 0 0 keys
    raiseIf (epoch.promotionMargins.maximumPairRegressions < regressions)
      "child exceeds the frozen paired-regression margin"
    let netGain : ℤ := gains - regressions
    raiseIf (netGain < epoch.promotionMargins.minimumCompleteRepairGain)
      "diagnostics/process quality cannot replace complete-repair improvement"
    let parentProofs ← keys.mapM (proofAt parent)
    let childProofs ← keys.mapM (proofAt child)
    let parentProofDigests := parentProofs.map (·.bindingDigest)
    let childProofDigests := childProofs.map (·.bindingDigest)
    let liveAuthorized := (parent.values ++ child.values).all liveCapabilityProof
    return { authorizationId := "retention." ++ Agintor.Core.takeChars 24 (D.authorization
               { epoch := epoch.epochManifestDigest
                 parentProofs := parentProofDigests
                 childProofs := childProofDigests
                 capabilityPromotionAuthorized := liveAuthorized })
             epochId := epoch.epochId
             epochManifestDigest := epoch.epochManifestDigest
             parentProtocolDigest := parentProtocol
             childProtocolDigest := childProtocol
             pairKeyDigests := keys
             parentReceiptDigests := parentProofs.map (·.outcomeReceipt.receiptDigest)
             childReceiptDigests := childProofs.map (·.outcomeReceipt.receiptDigest)
             parentProofBindingDigests := parentProofDigests
             childProofBindingDigests := childProofDigests
             completeRepairGain := netGain
             pairRegressions := regressions
             capabilityPromotionAuthorized := liveAuthorized
             capabilityPromotionReason := if liveAuthorized then liveReason else implementationReason }
  | _, _ => .error "each promotion side must identify exactly one protocol"

def authorizePairedSearchRetention (epoch : ResearchEpochManifest)
    (parentProofs childProofs : List EvaluatorOutcomeProofBinding)
    (expectedProfileDigest : Option String) : Except Refusal PromotionAuthorization := do
  raiseIf (epoch.promotionCapable = false ∨ epoch.capabilityEpoch ≠ "repo-repair-v1")
    "research epoch is not promotion-capable"
  let parent ← proofMap D parentProofs "parent" epoch expectedProfileDigest
  let child ← proofMap D childProofs "child" epoch expectedProfileDigest
  authorizePanels D epoch parent child

end Agintor.Search
