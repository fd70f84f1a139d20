import Agintor.Contracts.RunEvidence

/-!
# Neutral artifact interventions

`evaluation/interventions.py`: a neutral value takes the place of one delivery of an intact run,
and a run in which it did is joined with the intact one.
-/

namespace Agintor.Evaluation

open Core Contracts Lib

/-! ## Canaries -/

/-- `_iter_scalar_values` of the payload that holds the neutral value. -/
def payloadScalars (neutralValue : String) : List String := ["neutral_artifact", neutralValue]

/-- `_assert_no_canaries`, of a text. -/
def assertNoCanaries (sealedCanaryDigest : String → String) (canaryValues canaryDigests : List String)
    (scalar : String) : Except String Unit := do
  let textCanaries := canaryValues.filter (· ≠ "")
  let digestSet := (canaryDigests.map fun digest => (strip digest).toLower).filter (· ≠ "")
  raiseIf (textCanaries.any (fun canary => canary.toList <:+: scalar.toList) = true)
    "sealed canary detected in public payload"
  raiseIf (sealedCanaryDigest scalar ∈ digestSet) "sealed canary digest detected in public payload"

/-! ## Interventions -/

structure NeutralArtifactIntervention where
  interventionId : String
  interventionDigest : String
  sourceRunEvidenceDigest : String
  pairKey : PairKey
  protocolDigest : String
  artifactId : String
  channelId : String
  producerCallId : String
  consumerCallId : String
  deliveryId : String
  readId : String
  contextId : String
  contextEntryId : String
  original : ObservedValue
  neutral : ObservedValue
  originalPricedInputUnits : ℕ
  neutralPricedInputUnits : ℕ

structure MatchedInterventionRunPair where
  matchedPairId : String
  matchedPairDigest : String
  pairKey : PairKey
  protocolDigest : String
  interventionDigest : String
  intactRunEvidenceDigest : String
  neutralRunEvidenceDigest : String
  providerCallCount : ℕ
  toolCallCount : ℕ
  routeCount : ℕ
  inputTokensPerArm : ℕ

/-- The digests of interventions and pairs, beside those of run evidence. -/
structure InterventionEncoding extends EvidenceEncoding where
  sealedCanary : String → String
  /-- The identity of the source, the artifact, the consumer and the neutral value. -/
  interventionId : String → String → String → String → String
  intervention : NeutralArtifactIntervention → String
  /-- The identity of the two runs and the intervention. -/
  matchedPairId : String → String → String → String
  matchedPair : MatchedInterventionRunPair → String

section

variable (E : InterventionEncoding) (U : UnicodeTables)

/-- `ObservedValue(value=value)` -/
def observe (value : Json) : ObservedValue := ⟨value, E.observedValue value, E.jsonSize value⟩

/-- `validate_intervention`, of an intervention without digest. -/
def NeutralArtifactIntervention.validated (intervention : NeutralArtifactIntervention) :
    Except String NeutralArtifactIntervention := do
  raiseIf (isText intervention.original.value = false ∨ isText intervention.neutral.value = false)
    "V1 neutral artifact intervention supports text only"
  raiseIf (intervention.original.valueDigest = intervention.neutral.valueDigest)
    "neutral artifact must differ from original content"
  raiseIf (intervention.original.serializedBytes ≠ intervention.neutral.serializedBytes)
    "neutral artifact must preserve serialized length"
  raiseIf (intervention.originalPricedInputUnits ≠ intervention.neutralPricedInputUnits)
    "neutral artifact must preserve priced input units"
  return { intervention with interventionDigest := E.intervention intervention }

def artifactNamed (run : RunEvidence) (artifactId : String) : Option ArtifactEvidence :=
  run.artifacts.find? fun item => item.artifactId = artifactId

def deliveryTo (run : RunEvidence) (artifactId consumerCallId : String) :
    Option ArtifactDeliveryEvidence :=
  run.deliveries.find? fun item =>
    item.artifactId = artifactId ∧ item.consumerCallId = consumerCallId

def readBy (run : RunEvidence) (artifactId consumerCallId : String) : Option ArtifactReadEvidence :=
  run.reads.find? fun item => item.artifactId = artifactId ∧ item.consumerCallId = consumerCallId

/-- An artifact with one delivery and read of it. -/
structure Route where
  artifact : ArtifactEvidence
  delivery : ArtifactDeliveryEvidence
  read : ArtifactReadEvidence

/-- The route that is replaced. -/
def intactRoute (sourceRun : RunEvidence) (artifactId consumerCallId : String) :
    Except String Route :=
  match artifactNamed sourceRun artifactId with
  | none => .error "neutral intervention references an unknown artifact"
  | some artifact => do
    raiseIf (artifact.artifactSchema ≠ .text) "V1 neutral intervention requires a text artifact"
    match deliveryTo sourceRun artifactId consumerCallId, readBy sourceRun artifactId consumerCallId with
    | some delivery, some read => do
      raiseIf (delivery.deliveryKind ≠ .intact) "artifact lacks one intact delivered/read route"
      raiseIf (delivery.observed.same artifact.observed = false ∨
          read.observed.same artifact.observed = false)
        "source artifact route does not preserve exact content"
      return ⟨artifact, delivery, read⟩
    | _, _ => .error "artifact lacks one intact delivered/read route"

/-- `build_neutral_artifact_intervention` -/
def buildNeutralArtifactIntervention (sourceRun : RunEvidence)
    (artifactId consumerCallId neutralValue : String) (pricedInputMeasure : String → ℤ)
    (canaryValues canaryDigests : List String) : Except String NeutralArtifactIntervention := do
  raiseIf (sourceRun.arm ≠ .intact) "neutral interventions must be built from an intact run"
  let route ← intactRoute sourceRun artifactId consumerCallId
  (payloadScalars neutralValue).forM (assertNoCanaries E.sealedCanary canaryValues canaryDigests)
  let neutral := observe E (.str neutralValue)
  neutral.check E.toEvidenceEncoding U
  raiseIf (neutral.serializedBytes ≠ route.artifact.observed.serializedBytes)
    "neutral artifact serialized length is not matched"
  let originalUnits := pricedInputMeasure (E.text route.artifact.observed.value)
  let neutralUnits := pricedInputMeasure neutralValue
  raiseIf (originalUnits < 0 ∨ neutralUnits < 0) "priced-input measure may not return negative units"
  raiseIf (originalUnits ≠ neutralUnits) "neutral artifact priced input is not matched"
  NeutralArtifactIntervention.validated E
    { interventionId := E.interventionId sourceRun.evidenceDigest artifactId consumerCallId
        neutral.valueDigest
      interventionDigest := ""
      sourceRunEvidenceDigest := sourceRun.evidenceDigest
      pairKey := sourceRun.pairKey
      protocolDigest := sourceRun.protocolDigest
      artifactId := route.artifact.artifactId
      channelId := route.artifact.channelId
      producerCallId := route.artifact.producerCallId
      consumerCallId := consumerCallId
      deliveryId := route.delivery.deliveryId
      readId := route.read.readId
      contextId := route.read.contextId
      contextEntryId := route.read.contextEntryId
      original := route.artifact.observed
      neutral := neutral
      originalPricedInputUnits := originalUnits.toNat
      neutralPricedInputUnits := neutralUnits.toNat }

/-! ## Pairs -/

/-- `crossed` -/
def crossedIdentities (intactRun neutralRun : RunEvidence) : List String :=
  let compared :=
    [("runtime_contract_version",
        decide (intactRun.runtimeContractVersion = neutralRun.runtimeContractVersion)),
      ("data_state", decide (intactRun.dataState = neutralRun.dataState)),
      ("epoch_id", decide (intactRun.epochId = neutralRun.epochId)),
      ("epoch_manifest_digest",
        decide (intactRun.epochManifestDigest = neutralRun.epochManifestDigest)),
      ("split_manifest_digest",
        decide (intactRun.splitManifestDigest = neutralRun.splitManifestDigest)),
      ("pair_key", decide (intactRun.pairKey = neutralRun.pairKey)),
      ("task_manifest_digest",
        decide (intactRun.taskManifestDigest = neutralRun.taskManifestDigest)),
      ("protocol_digest", decide (intactRun.protocolDigest = neutralRun.protocolDigest)),
      ("compiler_digest", decide (intactRun.compilerDigest = neutralRun.compilerDigest)),
      ("kernel_digest", decide (intactRun.kernelDigest = neutralRun.kernelDigest)),
      ("tool_manifest_digest",
        decide (intactRun.toolManifestDigest = neutralRun.toolManifestDigest)),
      ("deployment_id", decide (intactRun.deploymentId = neutralRun.deploymentId)),
      ("provider", decide (intactRun.provider = neutralRun.provider)),
      ("model", decide (intactRun.model = neutralRun.model))]
  (compared.filter fun field => !field.2).map Prod.fst

structure CallShape where
  callId : String
  actorId : String
  attemptIndex : ℕ
  deploymentId : String
  provider : String
  model : String
  status : ProviderCallStatus
  requestSent : Bool
deriving DecidableEq

/-- `intact_call_shape`, `neutral_call_shape` -/
def callShape (run : RunEvidence) : List CallShape :=
  run.providerCalls.map fun call =>
    ⟨call.callId, call.actorId, call.attemptIndex, call.deploymentId, call.provider, call.model,
      call.status, call.requestSent⟩

structure RouteShape where
  routeKind : RouteKind
  fromCallId : Option String
  toCallId : String
  stageId : String
  trigger : RouteTrigger
deriving DecidableEq

/-- `route_shape` -/
def routeShape (run : RunEvidence) : List RouteShape :=
  run.routes.map fun route =>
    ⟨route.routeKind, route.fromCallId, route.toCallId, route.stageId, route.trigger⟩

/-- `matched_cost_fields` -/
def matchedCost (run : RunEvidence) : List ℕ :=
  let cost := run.costLedger.cost
  [cost.modelCalls, cost.inputTokens, cost.cachedTokens, cost.cacheWriteTokens, cost.toolCalls,
    cost.retries]

/-- Whether the neutral run delivered and read the replacement. -/
def deliversReplacement (neutralRun : RunEvidence) (intervention : NeutralArtifactIntervention) : Bool :=
  (deliveryTo neutralRun intervention.artifactId intervention.consumerCallId).any fun delivery =>
    (readBy neutralRun intervention.artifactId intervention.consumerCallId).any fun read =>
      delivery.deliveryKind = .neutralReplacement ∧
        delivery.interventionDigest = some intervention.interventionDigest ∧
        delivery.observed.same intervention.neutral = true ∧
        read.observed.same intervention.neutral = true

/-- `join_matched_intervention_runs` -/
def joinMatchedInterventionRuns (intactRun neutralRun : RunEvidence)
    (intervention : NeutralArtifactIntervention) : Except String MatchedInterventionRunPair := do
  raiseIf (intactRun.arm ≠ .intact ∨ neutralRun.arm ≠ .neutralArtifact)
    "matched intervention requires intact and neutral arms"
  raiseIf (intactRun.evidenceDigest ≠ intervention.sourceRunEvidenceDigest)
    "intervention does not bind the intact source run"
  raiseIf (neutralRun.interventionDigest ≠ some intervention.interventionDigest)
    "neutral run does not bind the intervention"
  raiseIf (crossedIdentities intactRun neutralRun ≠ [])
    ("matched intervention run identity mismatch: " ++
      ", ".intercalate (crossedIdentities intactRun neutralRun))
  raiseIf (callShape intactRun ≠ callShape neutralRun)
    "neutral arm does not preserve provider call opportunity"
  raiseIf (routeShape intactRun ≠ routeShape neutralRun)
    "neutral arm does not preserve protocol routes"
  raiseIf (matchedCost intactRun ≠ matchedCost neutralRun)
    "neutral arm does not preserve priced input/call envelope"
  raiseIf (deliversReplacement neutralRun intervention = false)
    "neutral run did not deliver/read the exact replacement"
  raiseIf (intactRun.providerCalls = []) "Input should be greater than 0"
  let pair : MatchedInterventionRunPair :=
    { matchedPairId := E.matchedPairId intactRun.evidenceDigest neutralRun.evidenceDigest
        intervention.interventionDigest
      matchedPairDigest := ""
      pairKey := intactRun.pairKey
      protocolDigest := intactRun.protocolDigest
      interventionDigest := intervention.interventionDigest
      intactRunEvidenceDigest := intactRun.evidenceDigest
      neutralRunEvidenceDigest := neutralRun.evidenceDigest
      providerCallCount := intactRun.providerCalls.length
      toolCallCount := intactRun.toolReceipts.length
      routeCount := intactRun.routes.length
      inputTokensPerArm := intactRun.costLedger.cost.inputTokens }
  return { pair with matchedPairDigest := E.matchedPair pair }

end

end Agintor.Evaluation
