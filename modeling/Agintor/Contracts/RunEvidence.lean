import Agintor.Contracts.Outcomes
import Agintor.Contracts.PublicPayload
import Agintor.Lib.Raise
import Mathlib.Data.List.Dedup

/-!
# Run evidence

`RunEvidence` of `contracts/run_evidence.py`: the records of one run, and the checks that accept
them. Records hold their values as validation leaves them, stripped and in lower case where that
is done, and with the digests of their content filled in.
-/

namespace Agintor.Contracts

open Core Lib

/-! ## Values -/

/-- The number that Python compares a value by. -/
def jsonNumber : Json → Option ℚ
  | .bool b => some (if b then 1 else 0)
  | .int n => some n
  | .float q => some q
  | _ => none

mutual

/-- `==` of two JSON values. -/
def sameJson : Json → Json → Bool
  | .null, .null => true
  | .str s, .str t => s == t
  | .array xs, .array ys => sameItems xs ys
  | .object fields, .object others => fields.length == others.length && sameFields fields others
  | v, w => (jsonNumber v).isSome && jsonNumber v == jsonNumber w

def sameItems : List Json → List Json → Bool
  | [], [] => true
  | x :: xs, y :: ys => sameJson x y && sameItems xs ys
  | _, _ => false

def sameFields : List (String × Json) → List (String × Json) → Bool
  | [], _ => true
  | (key, item) :: fields, others =>
    (Json.get? key others).any (sameJson item) && sameFields fields others

end

structure ObservedValue where
  value : Json
  valueDigest : String
  serializedBytes : ℕ

/-- `==` of observed values. -/
def ObservedValue.same (a b : ObservedValue) : Bool :=
  sameJson a.value b.value && a.valueDigest == b.valueDigest &&
    a.serializedBytes == b.serializedBytes

/-! ## Records -/

inductive EntrySourceKind
  | instruction
  | task
  | workspace
  | artifact
  | priorActorOutput
  | session
deriving DecidableEq

structure ContextEntry where
  entryId : String
  sourceKind : EntrySourceKind
  sourceRef : String
  observed : ObservedValue

structure PreCallContextEvidence where
  contextId : String
  contextDigest : String
  sequenceNo : ℕ
  callId : String
  actorId : String
  entries : List ContextEntry

inductive ArtifactSchema
  | text
  | structured
deriving DecidableEq

structure ArtifactEvidence where
  artifactId : String
  channelId : String
  producerCallId : String
  artifactSchema : ArtifactSchema
  observed : ObservedValue
  payloadBytes : ℕ
  intendedConsumerCallIds : List String
  actualConsumerCallIds : List String

inductive DeliveryKind
  | intact
  | neutralReplacement
deriving DecidableEq

structure ArtifactDeliveryEvidence where
  deliveryId : String
  sequenceNo : ℕ
  artifactId : String
  channelId : String
  producerCallId : String
  consumerCallId : String
  deliveryKind : DeliveryKind
  interventionDigest : Option String
  observed : ObservedValue
  payloadBytes : ℕ

inductive ReadKind
  | directDelivery
  | retainedRead
deriving DecidableEq

structure ArtifactReadEvidence where
  readId : String
  sequenceNo : ℕ
  artifactId : String
  channelId : String
  consumerCallId : String
  contextId : String
  contextEntryId : String
  readKind : ReadKind
  deliveryId : Option String
  observed : ObservedValue
  payloadBytes : ℕ

inductive RouteKind
  | sequential
  | fork
  | join
  | revision
deriving DecidableEq

inductive RouteTrigger
  | planStart
  | producerCompleted
  | joinCompleted
  | publicVerificationFailed
deriving DecidableEq

structure RouteEvidence where
  routeId : String
  sequenceNo : ℕ
  routeKind : RouteKind
  fromCallId : Option String
  toCallId : String
  stageId : String
  trigger : RouteTrigger

inductive ProviderCallStatus
  | succeeded
  | failedPreSend
  | failedPostSend
deriving DecidableEq

inductive ResponseKind
  | toolRequest
  | terminal
deriving DecidableEq

structure ProviderCallEvidence where
  providerCallId : String
  sequenceNo : ℕ
  callId : String
  actorId : String
  turnIndex : ℕ
  attemptIndex : ℕ
  contextId : String
  contextDigest : String
  deploymentId : String
  provider : String
  model : String
  providerConfigDigest : String
  requestDigest : String
  status : ProviderCallStatus
  requestSent : Bool
  responseId : Option String
  responseDigest : Option String
  responseKind : Option ResponseKind
  toolRequestId : Option String
  startedAtMs : ℕ
  finishedAtMs : ℕ

structure RetryEvidence where
  retryId : String
  sequenceNo : ℕ
  callId : String
  failedProviderCallId : String
  nextAttemptIndex : ℕ
  reasonCode : String
  priorRequestSent : Bool
  priorResponseId : Option String

inductive ToolPhase
  | actorTool
  | terminalPublicVerification
deriving DecidableEq

inductive ToolStatus
  | succeeded
  | failed
  | timedOut
  | blocked
deriving DecidableEq

structure ToolReceiptEvidence where
  toolCallId : String
  sequenceNo : ℕ
  callId : String
  toolId : String
  phase : ToolPhase
  toolRequestId : Option String
  verificationStepId : Option String
  invocationDigest : String
  receiptId : String
  receiptDigest : String
  status : ToolStatus
  outputDigest : String
  outputBytes : ℕ
  retryIndex : ℕ
  startedAtMs : ℕ
  finishedAtMs : ℕ

structure CostLedgerEvidence where
  ledgerDigest : String
  cost : OutcomeCost
  providerDeadlineMs : ℕ
  deadlineExceeded : Bool
  activeReservations : ℕ
  reconciled : Bool

structure EnvironmentEvidence where
  environmentId : String
  runtimeEnvironmentDigest : String
  commandContainerPolicyDigest : String
  pythonIdentity : String
  platformIdentity : String
  workspaceSnapshotDigest : String
  containerImageDigest : Option String

inductive PatchStatus
  | emitted
  | notEmitted
deriving DecidableEq

structure PatchEvidence where
  status : PatchStatus
  observed : Option ObservedValue
  patchDigest : Option String
  patchBytes : ℕ
  artifactId : Option String
  publicVerificationPassed : Option Bool

inductive TerminationReason
  | success
  | publicVerificationFailed
  | budgetExhausted
  | hardFailure
deriving DecidableEq

structure TerminationEvidence where
  reason : TerminationReason
  finalCallId : Option String
  finalPatchDigest : Option String
  completedAtMs : ℕ
  success : Bool

structure RunHealth where
  processIntegrity : Bool
  noLeakage : Bool
  contextIntegrity : Bool
  artifactIntegrity : Bool
  toolIntegrity : Bool
  accountingComplete : Bool
  environmentIntegrity : Bool

structure RunEvidence where
  runtimeContractVersion : String
  evidenceId : String
  evidenceDigest : String
  runId : String
  executionMode : ExecutionMode
  liveInferenceStatus : LiveInferenceStatus
  realInferenceRequestsSent : ℕ
  arm : Arm
  interventionDigest : Option String
  dataState : DataState
  epochId : String
  epochManifestDigest : String
  releaseDigest : String
  releaseManifestDigest : String
  profileDigest : String
  splitManifestDigest : String
  pairKey : PairKey
  taskManifestDigest : String
  protocolDigest : String
  compiledSemanticDigest : String
  dependencyManifestDigest : String
  compilerDigest : String
  kernelDigest : String
  toolManifestDigest : String
  providerConfigDigest : String
  decodingPolicyDigest : String
  priceScheduleDigest : String
  commandContainerPolicyDigest : String
  deploymentId : String
  provider : String
  model : String
  contexts : List PreCallContextEvidence
  artifacts : List ArtifactEvidence
  deliveries : List ArtifactDeliveryEvidence
  reads : List ArtifactReadEvidence
  routes : List RouteEvidence
  providerCalls : List ProviderCallEvidence
  toolReceipts : List ToolReceiptEvidence
  retries : List RetryEvidence
  costLedger : CostLedgerEvidence
  environment : EnvironmentEvidence
  patch : PatchEvidence
  termination : TerminationEvidence
  health : RunHealth

/-- The digests and sizes that the records are checked against. A digest of a record is taken
without the field that holds it. -/
structure EvidenceEncoding where
  observedValue : Json → String
  jsonSize : Json → ℕ
  /-- `str(value)` -/
  text : Json → String
  context : PreCallContextEvidence → String
  costLedger : CostLedgerEvidence → String
  environment : EnvironmentEvidence → String
  finalDiff : String → String
  run : RunEvidence → String
  runtimeContractVersion : String

/-! ## Checks of the records -/

/-- `_require_nonempty`, of a value that it has returned. -/
def checkText (fieldName value : String) : Except String Unit :=
  raiseIf (value = "" ∨ strip value ≠ value) (fieldName ++ " may not be empty")

/-- `_require_digest`, of a value that it has returned. -/
def checkDigest (fieldName value : String) : Except String Unit :=
  raiseIf (isDigest value = false) (fieldName ++ " must be a lowercase SHA-256 digest")

def checkTexts (fields : List (String × String)) : Except String Unit :=
  fields.forM fun field => field.casesOn checkText

def checkDigests (fields : List (String × String)) : Except String Unit :=
  fields.forM fun field => field.casesOn checkDigest

def checkOptionalDigest (fieldName : String) (value : Option String) : Except String Unit :=
  value.toList.forM (checkDigest fieldName)

section Records

variable (E : EvidenceEncoding) (U : UnicodeTables)

/-- `bind_value_identity` -/
def ObservedValue.check (observed : ObservedValue) : Except String Unit := do
  raiseIf (noResolvedCredentials U observed.value = false)
    "run evidence contains resolved credential material"
  raiseIf (observed.valueDigest ≠ E.observedValue observed.value)
    "ObservedValue.value_digest does not match its value"
  raiseIf (observed.serializedBytes ≠ E.jsonSize observed.value)
    "ObservedValue.serialized_bytes does not match its value"

/-- `len(str(value).encode("utf-8"))` -/
def ObservedValue.textBytes (observed : ObservedValue) : ℕ :=
  (E.text observed.value).utf8ByteSize

def ContextEntry.check (entry : ContextEntry) : Except String Unit := do
  checkTexts [("entry_id", entry.entryId), ("source_ref", entry.sourceRef)]
  entry.observed.check E U

/-- `validate_context` -/
def PreCallContextEvidence.check (context : PreCallContextEvidence) : Except String Unit := do
  checkTexts [("context_id", context.contextId), ("call_id", context.callId),
    ("actor_id", context.actorId)]
  raiseIf (context.entries = []) "Tuple should have at least 1 item after validation"
  context.entries.forM (·.check E U)
  raiseIf (¬(context.entries.map (·.entryId)).Nodup)
    "pre-call context entry_id values must be unique"
  raiseIf (context.contextDigest ≠ E.context { context with contextDigest := "" })
    "context_digest does not match the exact pre-call context"

def isText : Json → Bool
  | .str _ => true
  | _ => false

def checkConsumers (label : String) (values : List String) : Except String Unit := do
  raiseIf (¬values.Nodup) ("artifact " ++ label ++ " consumers may not contain duplicates")
  raiseIf (values.insertionSort (· ≤ ·) ≠ values)
    ("artifact " ++ label ++ " consumers must be sorted")

/-- `validate_consumers` -/
def ArtifactEvidence.check (artifact : ArtifactEvidence) : Except String Unit := do
  checkTexts [("artifact_id", artifact.artifactId), ("channel_id", artifact.channelId),
    ("producer_call_id", artifact.producerCallId)]
  artifact.observed.check E U
  checkConsumers "intended" artifact.intendedConsumerCallIds
  checkConsumers "actual" artifact.actualConsumerCallIds
  raiseIf (¬artifact.actualConsumerCallIds ⊆ artifact.intendedConsumerCallIds)
    "actual artifact consumers must be declared consumers"
  raiseIf (artifact.artifactSchema = .text ∧ isText artifact.observed.value = false)
    "text artifacts require a string ObservedValue"
  let expectedBytes := if artifact.artifactSchema = .text then artifact.observed.textBytes E
    else artifact.observed.serializedBytes
  raiseIf (artifact.payloadBytes ≠ expectedBytes)
    "artifact payload_bytes does not match its exact value"

/-- `validate_delivery_kind` -/
def ArtifactDeliveryEvidence.check (delivery : ArtifactDeliveryEvidence) : Except String Unit := do
  checkTexts [("delivery_id", delivery.deliveryId), ("artifact_id", delivery.artifactId),
    ("channel_id", delivery.channelId), ("producer_call_id", delivery.producerCallId),
    ("consumer_call_id", delivery.consumerCallId)]
  checkOptionalDigest "intervention_digest" delivery.interventionDigest
  delivery.observed.check E U
  raiseIf (¬(delivery.deliveryKind = .neutralReplacement ↔ delivery.interventionDigest.isSome = true))
    "neutral replacement delivery must bind exactly one intervention digest"
  raiseIf (delivery.payloadBytes ≠ delivery.observed.textBytes E)
    "delivery payload_bytes does not match its exact value"

/-- `validate_read_kind` -/
def ArtifactReadEvidence.check (read : ArtifactReadEvidence) : Except String Unit := do
  checkTexts [("read_id", read.readId), ("artifact_id", read.artifactId),
    ("channel_id", read.channelId), ("consumer_call_id", read.consumerCallId),
    ("context_id", read.contextId), ("context_entry_id", read.contextEntryId)]
  read.observed.check E U
  raiseIf (read.readKind = .directDelivery ∧ (read.deliveryId.getD "" = ""))
    "direct artifact reads require delivery_id"
  raiseIf (read.readKind = .retainedRead ∧ read.deliveryId ≠ none)
    "retained artifact reads may not claim a new delivery"
  raiseIf (read.payloadBytes ≠ read.observed.textBytes E)
    "artifact read payload_bytes does not match its exact value"

def RouteEvidence.check (route : RouteEvidence) : Except String Unit :=
  checkTexts [("route_id", route.routeId), ("to_call_id", route.toCallId),
    ("stage_id", route.stageId)]

/-- `[^\s]{1,256}`, and no secret. -/
def isResponseId (value : String) : Bool :=
  value ≠ "" && value.length ≤ 256 && value.toList.all (fun c => !isSpace c) &&
    !isSecretValue U value

/-- `validate_call_result` -/
def ProviderCallEvidence.check (call : ProviderCallEvidence) : Except String Unit := do
  checkTexts [("provider_call_id", call.providerCallId), ("call_id", call.callId),
    ("actor_id", call.actorId), ("context_id", call.contextId),
    ("deployment_id", call.deploymentId), ("provider", call.provider), ("model", call.model)]
  checkDigests [("context_digest", call.contextDigest),
    ("provider_config_digest", call.providerConfigDigest), ("request_digest", call.requestDigest)]
  checkOptionalDigest "response_digest" call.responseDigest
  raiseIf (call.responseId.any (fun value => !isResponseId U value) = true)
    "provider response_id must be a non-secret opaque identifier"
  raiseIf (call.finishedAtMs < call.startedAtMs) "provider call finish precedes its start"
  raiseIf (call.status = .failedPreSend ∧ call.requestSent = true)
    "failed_pre_send calls may not report request_sent"
  raiseIf (call.status ≠ .failedPreSend ∧ call.requestSent = false)
    "sent/successful provider statuses require request_sent"
  raiseIf (call.status = .succeeded ∧ call.responseId = none)
    "successful provider calls require response_id"
  raiseIf (call.status = .succeeded ∧ (call.responseDigest = none ∨ call.responseKind = none))
    "successful provider calls require response identity and kind"
  raiseIf (call.status ≠ .succeeded ∧
      (call.responseDigest ≠ none ∨ call.responseKind ≠ none ∨ call.toolRequestId ≠ none))
    "failed provider calls may not claim response content"
  raiseIf (¬(call.responseKind = some .toolRequest ↔ call.toolRequestId.getD "" ≠ ""))
    "tool-request provider calls require exactly one tool_request_id"
  raiseIf (call.responseId ≠ none ∧ call.requestSent = false)
    "pre-send failures cannot have provider response IDs"

def retryReasonCodes : List String :=
  ["rate_limit", "timeout", "provider_error", "transport_error", "invalid_response"]

def RetryEvidence.check (retry : RetryEvidence) : Except String Unit := do
  checkTexts [("retry_id", retry.retryId), ("call_id", retry.callId),
    ("failed_provider_call_id", retry.failedProviderCallId)]
  raiseIf (retry.nextAttemptIndex = 0) "Input should be greater than 0"
  raiseIf (retry.reasonCode ∉ retryReasonCodes) "Input should be a reason code"

/-- `validate_timing` -/
def ToolReceiptEvidence.check (receipt : ToolReceiptEvidence) : Except String Unit := do
  checkTexts [("tool_call_id", receipt.toolCallId), ("call_id", receipt.callId),
    ("tool_id", receipt.toolId), ("receipt_id", receipt.receiptId)]
  checkDigests [("invocation_digest", receipt.invocationDigest),
    ("receipt_digest", receipt.receiptDigest), ("output_digest", receipt.outputDigest)]
  raiseIf (receipt.finishedAtMs < receipt.startedAtMs) "tool receipt finish precedes its start"
  raiseIf (receipt.phase = .actorTool ∧
      (receipt.toolRequestId.getD "" = "" ∨ receipt.verificationStepId ≠ none))
    "actor-tool evidence requires only a tool_request_id"
  raiseIf (receipt.phase = .terminalPublicVerification ∧
      (receipt.toolId ≠ "repo.public_test" ∨ receipt.toolRequestId ≠ none ∨
        receipt.verificationStepId.getD "" = ""))
    "terminal verification evidence requires only a verification_step_id"

/-- `bind_ledger_digest` -/
def CostLedgerEvidence.check (ledger : CostLedgerEvidence) : Except String Unit := do
  raiseIf (ledger.providerDeadlineMs = 0) "Input should be greater than 0"
  raiseIf (ledger.ledgerDigest ≠ E.costLedger { ledger with ledgerDigest := "" })
    "ledger_digest does not match aggregate cost evidence"
  raiseIf (ledger.reconciled = true ∧ ledger.activeReservations ≠ 0)
    "a reconciled cost ledger cannot have active reservations"

/-- `validate_runtime_environment_identity` -/
def EnvironmentEvidence.check (environment : EnvironmentEvidence) : Except String Unit := do
  checkTexts [("environment_id", environment.environmentId),
    ("python_identity", environment.pythonIdentity),
    ("platform_identity", environment.platformIdentity)]
  checkDigests [("runtime_environment_digest", environment.runtimeEnvironmentDigest),
    ("command_container_policy_digest", environment.commandContainerPolicyDigest),
    ("workspace_snapshot_digest", environment.workspaceSnapshotDigest)]
  checkOptionalDigest "container_image_digest" environment.containerImageDigest
  raiseIf (environment.runtimeEnvironmentDigest ≠
      E.environment { environment with runtimeEnvironmentDigest := "" })
    "runtime_environment_digest does not match runtime evidence"

/-- The text of a patch, if there is one. -/
def PatchEvidence.text (patch : PatchEvidence) : Option String :=
  match patch.observed with
  | some ⟨.str text, _, _⟩ => some text
  | _ => none

/-- `validate_patch` -/
def PatchEvidence.check (patch : PatchEvidence) : Except String Unit := do
  checkOptionalDigest "patch_digest" patch.patchDigest
  patch.observed.toList.forM (·.check E U)
  raiseIf (patch.status = .emitted ∧
      (patch.patchDigest = none ∨ patch.text = none ∨ patch.patchBytes = 0))
    "emitted patches require exact text, digest, and bytes"
  raiseIf (patch.status = .emitted ∧ patch.text.any (fun text => patch.patchBytes ≠ text.utf8ByteSize) = true)
    "patch_bytes does not match exact patch text"
  raiseIf (patch.status = .emitted ∧
      patch.text.any (fun text => patch.patchDigest ≠ some (E.finalDiff text)) = true)
    "patch_digest does not match exact patch text"
  raiseIf (patch.status = .notEmitted ∧ (patch.observed.isSome = true ∨ patch.patchDigest ≠ none ∨
      patch.artifactId.getD "" ≠ "" ∨ patch.patchBytes ≠ 0))
    "not_emitted patch evidence cannot contain patch material"

/-- `validate_success` -/
def TerminationEvidence.check (termination : TerminationEvidence) : Except String Unit := do
  termination.finalCallId.toList.forM (checkText "final_call_id")
  checkOptionalDigest "final_patch_digest" termination.finalPatchDigest
  raiseIf (¬(termination.success = true ↔ termination.reason = .success))
    "termination success flag must agree with its reason"
  raiseIf (termination.success = true ∧
      (termination.finalPatchDigest = none ∨ termination.finalCallId = none))
    "successful repair termination requires final call and patch identities"

end Records

/-! ## Checks of the run -/

/-- The last of a list that passes a test: what a dictionary built from the list holds. -/
def lastWhere {α : Type} (p : α → Bool) (items : List α) : Option α := items.reverse.find? p

/-- The different items of a list, in the order in which they first occur. -/
def distinct {α : Type} [DecidableEq α] (items : List α) : List α := items.reverse.dedup.reverse

namespace RunEvidence

variable (e : RunEvidence)

/-- `_validate_provider_configurations` -/
def validateProviderConfigurations : Except String Unit := do
  let configs := distinct (e.providerCalls.map (·.providerConfigDigest))
  raiseIf (1 < configs.length) "provider calls contain crossed provider configurations"
  raiseIf (configs.head?.any (· ≠ e.providerConfigDigest) = true)
    "provider calls do not match RunEvidence provider configuration"

/-- One round of the loop of `_validate_unique_and_ordered`. -/
def checkCollection (label : String) (identifiers : List String) (sequence : Option (List ℕ)) :
    Except String Unit := do
  raiseIf (¬identifiers.Nodup) ("RunEvidence " ++ label ++ " contain duplicate identities")
  raiseIf (sequence.any (fun numbers => numbers ≠ numbers.insertionSort (· ≤ ·) ∨ ¬numbers.Nodup) = true)
    ("RunEvidence " ++ label ++ " must have unique chronological sequence_no values")

/-- `_validate_unique_and_ordered` -/
def validateUniqueAndOrdered : Except String Unit := do
  checkCollection "contexts" (e.contexts.map (·.contextId)) (some (e.contexts.map (·.sequenceNo)))
  checkCollection "artifacts" (e.artifacts.map (·.artifactId)) none
  checkCollection "deliveries" (e.deliveries.map (·.deliveryId))
    (some (e.deliveries.map (·.sequenceNo)))
  checkCollection "reads" (e.reads.map (·.readId)) (some (e.reads.map (·.sequenceNo)))
  checkCollection "routes" (e.routes.map (·.routeId)) (some (e.routes.map (·.sequenceNo)))
  checkCollection "provider_calls" (e.providerCalls.map (·.providerCallId))
    (some (e.providerCalls.map (·.sequenceNo)))
  checkCollection "tool_receipts" (e.toolReceipts.map (·.toolCallId))
    (some (e.toolReceipts.map (·.sequenceNo)))
  checkCollection "retries" (e.retries.map (·.retryId)) (some (e.retries.map (·.sequenceNo)))

/-! ### Calls -/

/-- `contexts.get(context_id)` -/
def contextWithId (contextId : String) : Option PreCallContextEvidence :=
  lastWhere (fun context => context.contextId = contextId) e.contexts

/-- `call_attempts` and `response_ids` -/
structure SeenCalls where
  attempts : List (String × ℕ × ℕ)
  responses : List String

/-- The key of an attempt. -/
def attemptKey (call : ProviderCallEvidence) : String × ℕ × ℕ :=
  (call.callId, call.turnIndex, call.attemptIndex)

/-- One round of the first loop of `_validate_context_calls`. -/
def checkCall (seen : SeenCalls) (call : ProviderCallEvidence) : Except String SeenCalls := do
  let context := e.contextWithId call.contextId
  raiseIf (context.any (fun context => context.callId = call.callId) = false)
    "provider call references a missing or crossed pre-call context"
  raiseIf (context.any (fun context => context.contextDigest = call.contextDigest) = false)
    "provider call context digest does not match exact context"
  raiseIf ((call.deploymentId, call.provider, call.model) ≠ (e.deploymentId, e.provider, e.model))
    "provider call crossed the pinned deployment/model"
  raiseIf (attemptKey call ∈ seen.attempts) "duplicate provider attempt index for logical call"
  raiseIf (call.responseId.any (fun response => response ∈ seen.responses) = true)
    "provider response IDs must be unique"
  return ⟨attemptKey call :: seen.attempts, call.responseId.toList ++ seen.responses⟩

def isSucceeded (call : ProviderCallEvidence) : Bool := call.status = .succeeded

/-- `sorted({call.turn_index for call in succeeded})` -/
def turnIndexes (succeeded : List ProviderCallEvidence) : List ℕ :=
  (succeeded.map (·.turnIndex)).dedup.insertionSort (· ≤ ·)

/-- The rounds of a logical call that must ask for a tool. -/
def nonfinalRounds (succeeded terminals : List ProviderCallEvidence) : List ProviderCallEvidence :=
  if terminals = [] then succeeded
  else succeeded.filter fun call => call.turnIndex ≠ (turnIndexes succeeded).getLastD 0

/-- One round of the second loop of `_validate_context_calls`. -/
def checkRounds (callId : String) : Except String Unit := do
  let rounds := e.providerCalls.filter fun call => call.callId = callId
  let succeeded := rounds.filter isSucceeded
  let turns := turnIndexes succeeded
  let terminals := succeeded.filter fun call => call.responseKind = some .terminal
  raiseIf (turns ≠ List.range turns.length)
    ("provider rounds for " ++ callId ++ " must be contiguous from zero")
  raiseIf (terminals ≠ [] ∧ (terminals.length ≠ 1 ∨
      terminals.head?.any (fun call => call.turnIndex ≠ turns.getLastD 0) = true))
    ("provider rounds for " ++ callId ++ " require one final terminal response")
  raiseIf (succeeded ≠ [] ∧ terminals = [] ∧ rounds.all isSucceeded = true)
    ("provider rounds for " ++ callId ++ " ended without terminal or failure")
  raiseIf ((nonfinalRounds succeeded terminals).any
      (fun call => call.responseKind ≠ some .toolRequest) = true)
    ("non-final provider rounds for " ++ callId ++ " must request tools")

/-- `provider_tool_requests` -/
def providerToolRequests : List (Option String) :=
  (e.providerCalls.filter fun call => call.responseKind = some .toolRequest).map (·.toolRequestId)

/-- `receipt_tool_requests` -/
def receiptToolRequests : List (Option String) :=
  (e.toolReceipts.filter fun receipt => receipt.phase = .actorTool).map (·.toolRequestId)

/-- `_validate_context_calls` -/
def validateContextCalls : Except String Unit := do
  let _ ← e.providerCalls.foldlM e.checkCall ⟨[], []⟩
  raiseIf (¬(e.providerCalls.map (·.requestDigest)).Nodup)
    "provider request digests must be unique across rounds"
  raiseIf (¬(e.providerCalls.filterMap fun call => call.toolRequestId.filter (· ≠ "")).Nodup)
    "provider tool_request_id values must be unique"
  (distinct (e.providerCalls.map (·.callId))).forM e.checkRounds
  raiseIf (¬(e.providerToolRequests ⊆ e.receiptToolRequests ∧
      e.receiptToolRequests ⊆ e.providerToolRequests))
    "actor tool receipts do not exactly match provider tool requests"

/-! ### Artifacts -/

/-- `artifacts.get(artifact_id)` -/
def artifactWithId (artifactId : String) : Option ArtifactEvidence :=
  lastWhere (fun artifact => artifact.artifactId = artifactId) e.artifacts

/-- `contexts_by_call.get(call_id)` -/
def contextOfCall (callId : String) : Option PreCallContextEvidence :=
  lastWhere (fun context => context.callId = callId) e.contexts

/-- The key of a delivery. -/
def deliveryKey (delivery : ArtifactDeliveryEvidence) : String × String :=
  (delivery.artifactId, delivery.consumerCallId)

/-- One round of the loop over the deliveries, with the keys of those before. -/
def checkDelivery (seen : List (String × String)) (delivery : ArtifactDeliveryEvidence) :
    Except String (List (String × String)) := do
  let artifact := e.artifactWithId delivery.artifactId
  raiseIf (artifact.isNone = true) "delivery references an unobserved artifact"
  raiseIf (artifact.any (fun artifact => artifact.channelId = delivery.channelId ∧
      artifact.producerCallId = delivery.producerCallId) = false)
    "delivery identity differs from its produced artifact"
  raiseIf (delivery.deliveryKind = .intact ∧
      artifact.any (fun artifact => artifact.observed.same delivery.observed) = false)
    "intact delivery differs from immutable produced value"
  raiseIf (delivery.deliveryKind = .neutralReplacement ∧ e.arm ≠ .neutralArtifact)
    "neutral replacement delivery requires neutral run arm"
  raiseIf (delivery.deliveryKind = .neutralReplacement ∧
      delivery.interventionDigest ≠ e.interventionDigest)
    "delivery crossed the run intervention digest"
  raiseIf (delivery.deliveryKind = .neutralReplacement ∧
      artifact.any (fun artifact => artifact.observed.same delivery.observed) = true)
    "neutral replacement must change delivered content"
  raiseIf (deliveryKey delivery ∈ seen) "artifact was delivered more than once to the same call"
  return deliveryKey delivery :: seen

/-- `neutral_deliveries` -/
def neutralDeliveries : ℕ :=
  (e.deliveries.filter fun delivery => delivery.deliveryKind = .neutralReplacement).length

/-- The key of a read. -/
def readKey (read : ArtifactReadEvidence) : String × String := (read.artifactId, read.consumerCallId)

/-- `deliveries.get((read.artifact_id, read.consumer_call_id))` -/
def deliveryFor (read : ArtifactReadEvidence) : Option ArtifactDeliveryEvidence :=
  lastWhere (fun delivery => deliveryKey delivery = readKey read) e.deliveries

/-- A direct read against its delivery. -/
def checkDirectRead (read : ArtifactReadEvidence) : Except String Unit := do
  let delivery := e.deliveryFor read
  raiseIf (delivery.any (fun delivery => read.deliveryId = some delivery.deliveryId) = false)
    "declared-but-undelivered artifact cannot appear consumed"
  raiseIf (delivery.any (fun delivery => read.channelId = delivery.channelId ∧
      read.observed.same delivery.observed = true ∧ read.payloadBytes = delivery.payloadBytes) = false)
    "artifact read differs from exact delivered value"

/-- `prior_deliveries` -/
def deliveriesOf (artifactId : String) : List ArtifactDeliveryEvidence :=
  e.deliveries.filter fun delivery => delivery.artifactId = artifactId

/-- A retained read against its artifact. -/
def checkRetainedRead (artifact : ArtifactEvidence) (read : ArtifactReadEvidence) :
    Except String Unit := do
  raiseIf ((e.deliveryFor read).isSome = true)
    "retained artifact read cannot duplicate a direct delivery"
  raiseIf (e.deliveriesOf read.artifactId = []) "retained artifact was never delivered"
  raiseIf ((e.contextWithId read.contextId).isNone = true)
    "retained artifact read references a missing context"
  raiseIf ((e.deliveriesOf read.artifactId).any (fun delivery =>
      (e.contextOfCall delivery.consumerCallId).any fun context =>
        (e.contextWithId read.contextId).any fun readContext =>
          context.actorId = readContext.actorId) = false)
    "retained artifact was not previously delivered to this actor"
  raiseIf (¬(read.channelId = artifact.channelId ∧ read.observed.same artifact.observed = true ∧
      read.payloadBytes = artifact.payloadBytes))
    "retained artifact read differs from immutable produced value"

/-- The entry of a context that a read names. -/
def entryOf (context : PreCallContextEvidence) (read : ArtifactReadEvidence) : Option ContextEntry :=
  context.entries.find? fun entry => entry.entryId = read.contextEntryId

/-- The read is in the context that it names. -/
def checkReadContext (read : ArtifactReadEvidence) : Except String Unit := do
  let context := e.contextWithId read.contextId
  raiseIf (context.any (fun context => context.callId = read.consumerCallId) = false)
    "artifact read references a missing consumer context"
  raiseIf (context.any (fun context => (entryOf context read).any fun entry =>
      entry.sourceKind = .artifact ∧ entry.sourceRef = read.artifactId ∧
        entry.observed.same read.observed = true) = false)
    "artifact read is absent from the exact pre-call context"

def checkReadKind (artifact : ArtifactEvidence) (read : ArtifactReadEvidence) :
    Except String Unit :=
  if read.readKind = .directDelivery then e.checkDirectRead read
  else e.checkRetainedRead artifact read

/-- One round of the loop over the reads. -/
def checkRead (read : ArtifactReadEvidence) : Except String Unit :=
  match e.artifactWithId read.artifactId with
  | none => .error "artifact read references an unobserved artifact"
  | some artifact => do
    e.checkReadKind artifact read
    e.checkReadContext read

/-- `set(direct_reads)` -/
def directReadKeys : List (String × String) :=
  (e.reads.filter fun read => read.readKind = .directDelivery).map readKey

/-- `observed_consumers` -/
def observedConsumers (artifactId : String) : List String :=
  (((e.reads.map readKey).dedup.filter fun key => key.1 = artifactId).map Prod.snd).insertionSort
    (· ≤ ·)

def artifactEntries (context : PreCallContextEvidence) : List ContextEntry :=
  context.entries.filter fun entry => entry.sourceKind = .artifact

/-- `_validate_artifact_flow` -/
def validateArtifactFlow : Except String Unit := do
  let _ ← e.deliveries.foldlM e.checkDelivery []
  raiseIf (e.arm = .neutralArtifact ∧ e.neutralDeliveries ≠ 1)
    "neutral-artifact run requires exactly one replacement delivery"
  raiseIf (e.arm = .intact ∧ e.neutralDeliveries ≠ 0)
    "intact run cannot contain replacement deliveries"
  e.reads.forM e.checkRead
  raiseIf (¬(e.directReadKeys ⊆ e.deliveries.map deliveryKey ∧
      e.deliveries.map deliveryKey ⊆ e.directReadKeys))
    "every delivered artifact must have one observed consumer read"
  e.artifacts.forM fun artifact =>
    raiseIf (e.observedConsumers artifact.artifactId ≠ artifact.actualConsumerCallIds)
      "artifact actual consumers disagree with delivery/read evidence"
  e.contexts.forM fun context =>
    raiseIf (¬((artifactEntries context).map fun entry => (entry.sourceRef, context.callId)) ⊆
        e.reads.map readKey)
      "pre-call context contains artifact without a delivery/read record"

/-! ### Retries and totals -/

/-- `calls.get(provider_call_id)` -/
def callWithId (providerCallId : String) : Option ProviderCallEvidence :=
  lastWhere (fun call => call.providerCallId = providerCallId) e.providerCalls

/-- One round of the loop of `_validate_retry_links`. -/
def checkRetry (retry : RetryEvidence) : Except String Unit := do
  let failed := e.callWithId retry.failedProviderCallId
  raiseIf (failed.any (fun failed => failed.callId = retry.callId ∧ failed.status ≠ .succeeded) = false)
    "retry does not reference a failed provider call"
  raiseIf (failed.any (fun failed => failed.requestSent = retry.priorRequestSent) = false)
    "retry request-sent state disagrees with failed call"
  raiseIf (failed.any (fun failed => failed.responseId = retry.priorResponseId) = false)
    "retry response ID disagrees with failed call"
  raiseIf ((retry.callId, retry.nextAttemptIndex) ∉
      e.providerCalls.map fun call => (call.callId, call.attemptIndex))
    "retry does not lead to a recorded next provider attempt"

/-- `_validate_retry_links` -/
def validateRetryLinks : Except String Unit := do
  e.retries.forM e.checkRetry
  raiseIf (e.retries.length ≠ e.costLedger.cost.retries)
    "retry evidence count does not reconcile with aggregate cost"

/-- `_validate_patch_termination` -/
def validatePatchTermination : Except String Unit := do
  raiseIf (e.patch.status = .emitted ∧ e.patch.artifactId.any (fun artifactId =>
      artifactId ∉ e.artifacts.map (·.artifactId)) = true)
    "patch evidence references an unobserved artifact"
  raiseIf (e.patch.status = .emitted ∧ e.termination.finalPatchDigest ≠ e.patch.patchDigest)
    "termination and patch evidence digests do not match"
  raiseIf (e.patch.status = .notEmitted ∧ e.termination.finalPatchDigest ≠ none)
    "termination cannot name a patch that was not emitted"
  raiseIf (e.costLedger.cost.patchBytes ≠ e.patch.patchBytes)
    "patch bytes do not reconcile with aggregate cost"
  raiseIf (e.costLedger.cost.modelCalls ≠ (e.providerCalls.filter (·.requestSent)).length)
    "provider calls do not reconcile with aggregate cost"
  raiseIf (e.costLedger.cost.toolCalls ≠ e.toolReceipts.length)
    "tool receipts do not reconcile with aggregate cost"
  raiseIf (e.health.accountingComplete ≠ e.costLedger.reconciled)
    "run health accounting status disagrees with cost ledger"

/-! ### Validation -/

variable (E : EvidenceEncoding) (U : UnicodeTables)

/-- The fields of the run, and the validators of its records. -/
def checkFields : Except String Unit := do
  raiseIf (e.runtimeContractVersion ≠ E.runtimeContractVersion)
    "RunEvidence runtime contract version mismatch"
  checkTexts [("evidence_id", e.evidenceId), ("run_id", e.runId), ("epoch_id", e.epochId),
    ("deployment_id", e.deploymentId), ("provider", e.provider), ("model", e.model)]
  checkDigests [("epoch_manifest_digest", e.epochManifestDigest),
    ("release_digest", e.releaseDigest), ("release_manifest_digest", e.releaseManifestDigest),
    ("profile_digest", e.profileDigest), ("split_manifest_digest", e.splitManifestDigest),
    ("task_manifest_digest", e.taskManifestDigest), ("protocol_digest", e.protocolDigest),
    ("compiled_semantic_digest", e.compiledSemanticDigest),
    ("dependency_manifest_digest", e.dependencyManifestDigest),
    ("compiler_digest", e.compilerDigest), ("kernel_digest", e.kernelDigest),
    ("tool_manifest_digest", e.toolManifestDigest),
    ("provider_config_digest", e.providerConfigDigest),
    ("decoding_policy_digest", e.decodingPolicyDigest),
    ("price_schedule_digest", e.priceScheduleDigest),
    ("command_container_policy_digest", e.commandContainerPolicyDigest)]
  checkOptionalDigest "intervention_digest" e.interventionDigest
  e.contexts.forM (·.check E U)
  e.artifacts.forM (·.check E U)
  e.deliveries.forM (·.check E U)
  e.reads.forM (·.check E U)
  e.routes.forM (·.check)
  e.providerCalls.forM (·.check U)
  e.toolReceipts.forM (·.check)
  e.retries.forM (·.check)
  e.costLedger.check E
  e.environment.check E
  e.patch.check E U
  e.termination.check

/-- `validate_run_evidence` -/
def check : Except String Unit := do
  e.checkFields E U
  raiseIf (e.executionMode = .deterministicReplay ∧
      (e.liveInferenceStatus ≠ .notRun ∨ e.realInferenceRequestsSent ≠ 0))
    "deterministic replay cannot claim live inference"
  raiseIf (e.executionMode = .liveProvider ∧
      ¬(e.liveInferenceStatus = .notRun ↔ e.realInferenceRequestsSent = 0))
    "live inference status disagrees with real request count"
  raiseIf (e.pairKey.taskManifestId = "") "RunEvidence requires a task PairKey"
  raiseIf (e.pairKey.providerConfigDigest ≠ e.providerConfigDigest)
    "RunEvidence provider configuration does not match PairKey"
  e.validateProviderConfigurations
  raiseIf (e.environment.environmentId ≠ e.pairKey.environmentId)
    "RunEvidence environment_id does not match PairKey"
  raiseIf (e.environment.commandContainerPolicyDigest ≠ e.commandContainerPolicyDigest)
    "RunEvidence runtime environment crossed command policy"
  raiseIf (¬(e.arm = .neutralArtifact ↔ e.interventionDigest.isSome = true))
    "neutral-artifact arm must bind exactly one intervention digest"
  e.validateUniqueAndOrdered
  e.validateContextCalls
  e.validateArtifactFlow
  e.validateRetryLinks
  e.validatePatchTermination
  raiseIf (e.evidenceDigest ≠ E.run { e with evidenceDigest := "" })
    "RunEvidence.evidence_digest does not match its payload"

end RunEvidence

end Agintor.Contracts
