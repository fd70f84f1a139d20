import Agintor.Contracts.Harness
import Agintor.Contracts.PublicPayload
import Agintor.Kernel.CompositeBudget
import Agintor.Lib.Transcript

/-!
# Recording and replaying provider calls

`CompositeReplayRecorder` and `CompositeReplayProvider` of
`runtime/kernel/composite_replay_provider.py`. An argument that pydantic refuses is an absent
argument here; a request that it accepts may carry any JSON as the value of a read. The readings
of the clock and of the cancellation event that a call takes are part of the call.
-/

namespace Agintor.Kernel.Replay

open Core Contracts Lib

/-! ## Errors -/

inductive ReplayError
  /-- `ValueError`, and the `ValidationError` of pydantic. -/
  | validation (message : String)
  /-- `CompositeReplayMismatchError` -/
  | mismatch (code message : String) (sequenceNo : Option ℕ)
deriving DecidableEq

/-- `ProviderInvocationError`, with the code of a replay refusal. -/
structure ProviderInvocationError where
  code : String
  sequenceNo : Option ℕ
  requestSent : Bool
  cancelled : Bool
  deadlineExceeded : Bool
deriving DecidableEq

inductive InvokeError
  | refused (error : ProviderInvocationError)
  | validation (message : String)
deriving DecidableEq

/-- `CompositeReplayInvocationError` -/
def invocationError (code : String) (sequenceNo : Option ℕ) (cancelled deadlineExceeded : Bool) :
    InvokeError :=
  .refused
    { code := code
      sequenceNo := sequenceNo
      requestSent := false
      cancelled := cancelled
      deadlineExceeded := deadlineExceeded }

def refusal (code : String) (sequenceNo : Option ℕ) : InvokeError :=
  invocationError code sequenceNo false false

/-! ## Contracts -/

def optional (value : Option String) : Json := value.elim .null .str

def counted (value : Option ℕ) : Json := value.elim .null fun n => .int n

def sourceKindText : SourceKind → String
  | .task => "task"
  | .workspace => "workspace"
  | .artifact => "artifact"
  | .priorActorOutput => "prior_actor_output"
  | .session => "session"

def callKindText : CallKind → String
  | .initial => "initial"
  | .revision => "revision"

def usageStatusText : UsageStatus → String
  | .known => "known"
  | .estimated => "estimated"
  | .unknown => "unknown"

def costStatusText : CostStatus → String
  | .known => "known"
  | .estimated => "estimated"
  | .unknown => "unknown"

structure ActualContextRead where
  readId : String
  sourceKind : SourceKind
  sourceRef : String
  value : Json
  valueDigest : String
  provenanceRef : String

def ActualContextRead.dump (read : ActualContextRead) : Json :=
  .object
    [("read_id", .str read.readId), ("source_kind", .str (sourceKindText read.sourceKind)),
      ("source_ref", .str read.sourceRef), ("value", read.value),
      ("value_digest", .str read.valueDigest), ("provenance_ref", .str read.provenanceRef)]

structure PreCallContextManifest where
  callId : String
  actorId : String
  taskEnvelopeDigest : String
  reads : List ActualContextRead

structure ActorToolResultContext where
  requestId : String
  toolId : TrustedToolId
  receiptId : String
  status : String
  output : Json
  outputDigest : String

def ActorToolResultContext.dump (result : ActorToolResultContext) : Json :=
  .object
    [("request_id", .str result.requestId), ("tool_id", .str result.toolId.text),
      ("receipt_id", .str result.receiptId), ("status", .str result.status),
      ("output", result.output), ("output_digest", .str result.outputDigest)]

structure ActorCallRequest where
  runId : String
  compiledSemanticDigest : String
  callId : String
  actorId : String
  callKind : CallKind
  instruction : String
  revisionInstruction : Option String
  allowedToolIds : List TrustedToolId
  budgetShareBps : ℕ
  context : PreCallContextManifest
  turnIndex : ℕ
  toolResults : List ActorToolResultContext
  inputTokenEstimate : ℕ
  maxOutputTokens : ℕ

structure ActorCallOutput where
  outputText : String
  artifactPayloads : List (String × String)
  finalPatch : Option String

/-- `CompositeReplayTurn` -/
inductive CompositeReplayTurn
  | toolRequest (requestId : String) (toolId : TrustedToolId) (arguments : List (String × Json))
  | terminal (output : ActorCallOutput)

def CompositeReplayTurn.dump : CompositeReplayTurn → Json
  | .toolRequest requestId toolId arguments =>
    .object
      [("turn_kind", .str "tool_request"), ("request_id", .str requestId),
        ("tool_id", .str toolId.text), ("arguments", .object arguments)]
  | .terminal output =>
    .object
      [("turn_kind", .str "terminal"),
        ("output", .object
          [("output_text", .str output.outputText),
            ("artifact_payloads",
              .object (output.artifactPayloads.map fun entry => (entry.1, .str entry.2))),
            ("final_patch", optional output.finalPatch)])]

def dumpUsage (usage : ProviderUsageReport) : Json :=
  .object
    [("usage_status", .str (usageStatusText usage.usageStatus)),
      ("input_tokens", counted usage.inputTokens), ("output_tokens", counted usage.outputTokens),
      ("cached_tokens", counted usage.cachedTokens),
      ("cache_write_tokens", counted usage.cacheWriteTokens),
      ("cost_status", .str (costStatusText usage.costStatus)),
      ("cost_usd", usage.costUsd.elim .null .float), ("response_id", optional usage.responseId)]

/-- `CompositeReplayBinding`, as `model_validate` leaves it. -/
structure CompositeReplayBinding where
  releaseDigest : String
  epochId : String
  epochManifestDigest : String
  deployment : DeploymentIdentity
  sourceProtocolDigest : String
  taskEnvelopeDigest : String
  compiledSemanticDigest : String
  publicSessionContextDigest : String
deriving DecidableEq

def CompositeReplayBinding.dump (binding : CompositeReplayBinding) : Json :=
  .object
    [("release_digest", .str binding.releaseDigest), ("epoch_id", .str binding.epochId),
      ("epoch_manifest_digest", .str binding.epochManifestDigest),
      ("deployment", .object
        [("deployment_id", .str binding.deployment.deploymentId),
          ("provider", .str binding.deployment.provider),
          ("model", .str binding.deployment.model),
          ("provider_config_digest", .str binding.deployment.providerConfigDigest),
          ("decoding_policy_digest", .str binding.deployment.decodingPolicyDigest),
          ("price_schedule_digest", .str binding.deployment.priceScheduleDigest),
          ("command_container_policy_digest",
            .str binding.deployment.commandContainerPolicyDigest)]),
      ("source_protocol_digest", .str binding.sourceProtocolDigest),
      ("task_envelope_digest", .str binding.taskEnvelopeDigest),
      ("compiled_semantic_digest", .str binding.compiledSemanticDigest),
      ("public_session_context_digest", .str binding.publicSessionContextDigest)]

structure CompositeReplayRow where
  sequenceNo : ℕ
  requestDigest : String
  turn : CompositeReplayTurn
  usage : ProviderUsageReport
  rowDigest : String

def CompositeReplayRow.content (row : CompositeReplayRow) : List (String × Json) :=
  [("sequence_no", .int row.sequenceNo), ("request_digest", .str row.requestDigest),
    ("turn", row.turn.dump), ("usage", dumpUsage row.usage)]

def CompositeReplayRow.dump (row : CompositeReplayRow) : Json :=
  .object (row.content ++ [("row_digest", .str row.rowDigest)])

def compositeReplaySchemaVersion : String := "repo-repair-composite-replay-v1"

structure CompositeReplayManifest where
  schemaVersion : String
  binding : CompositeReplayBinding
  rows : List CompositeReplayRow
  manifestDigest : String

def CompositeReplayManifest.content (manifest : CompositeReplayManifest) : List (String × Json) :=
  [("schema_version", .str manifest.schemaVersion), ("binding", manifest.binding.dump),
    ("rows", .array (manifest.rows.map (·.dump)))]

def CompositeReplayManifest.dump (manifest : CompositeReplayManifest) : Json :=
  .object (manifest.content ++ [("manifest_digest", .str manifest.manifestDigest)])

section Contracts

variable (ids : Identities) (U : UnicodeTables)

/-- `PreCallContextManifest`, with its `manifest_digest`. -/
def PreCallContextManifest.dump (manifest : PreCallContextManifest) : Json :=
  let content : List (String × Json) :=
    [("call_id", .str manifest.callId), ("actor_id", .str manifest.actorId),
      ("task_envelope_digest", .str manifest.taskEnvelopeDigest),
      ("reads", .array (manifest.reads.map (·.dump))), ("assembled_before_provider", .bool true)]
  .object (content ++ [("manifest_digest",
    .str (ids.canonicalIdentityDigest "pre-call-context-manifest" (.object content)))])

def ActorCallRequest.content (request : ActorCallRequest) : List (String × Json) :=
  [("run_id", .str request.runId),
    ("compiled_semantic_digest", .str request.compiledSemanticDigest),
    ("call_id", .str request.callId), ("actor_id", .str request.actorId),
    ("call_kind", .str (callKindText request.callKind)), ("instruction", .str request.instruction),
    ("revision_instruction", optional request.revisionInstruction),
    ("allowed_tool_ids", .array (request.allowedToolIds.map fun tool => .str tool.text)),
    ("budget_share_bps", .int request.budgetShareBps), ("context", request.context.dump ids),
    ("turn_index", .int request.turnIndex),
    ("tool_results", .array (request.toolResults.map (·.dump))),
    ("input_token_estimate", .int request.inputTokenEstimate),
    ("max_output_tokens", .int request.maxOutputTokens)]

/-- The `request_digest` that `bind_request` computes. -/
def ActorCallRequest.requestDigest (request : ActorCallRequest) : String :=
  ids.canonicalIdentityDigest "actor-call-request" (.object (request.content ids))

def ActorCallRequest.dump (request : ActorCallRequest) : Json :=
  .object (request.content ids ++ [("request_digest", .str (request.requestDigest ids))])

/-- `bind_row` -/
def bindRow (row : CompositeReplayRow) : Except ReplayError CompositeReplayRow := do
  raiseIf (row.usage.usageStatus = .unknown)
    (.validation "replay rows require exact known or estimated token usage")
  raiseIf (row.usage.costStatus = .unknown)
    (.validation "replay rows require exact known or estimated cost")
  let responseId := strip (row.usage.responseId.getD "")
  raiseIf (responseId = "" ∨ responseId.toList.any isSpace = true)
    (.validation "replay usage requires a nonempty whitespace-free response_id")
  raiseIf (256 < responseId.length)
    (.validation "replay response_id may not exceed 256 characters")
  let computed := ids.canonicalIdentityDigest "composite-replay-row-v1" (.object row.content)
  raiseIf (row.rowDigest ≠ "" ∧ row.rowDigest ≠ computed)
    (.validation "composite replay row digest mismatch")
  let bound := { row with rowDigest := computed }
  raiseIf (isPublic U bound.dump = false) (.validation "composite replay row is not public")
  return bound

/-- `validate_schema_version`, `min_length` and `bind_manifest` -/
def bindManifest (manifest : CompositeReplayManifest) :
    Except ReplayError CompositeReplayManifest := do
  raiseIf (manifest.schemaVersion ≠ compositeReplaySchemaVersion)
    (.validation ("unsupported composite replay schema version " ++ Core.quoted manifest.schemaVersion))
  raiseIf (manifest.rows = []) (.validation "Tuple should have at least 1 item after validation")
  raiseIf (manifest.rows.map (·.sequenceNo) ≠ List.range manifest.rows.length)
    (.validation "composite replay rows must have contiguous ordered sequence numbers")
  raiseIf (¬(manifest.rows.map (·.requestDigest)).Nodup)
    (.validation "composite replay request digests must be unique")
  raiseIf (¬(manifest.rows.map (·.usage.responseId)).Nodup)
    (.validation "composite replay response_id values must be unique")
  let computed :=
    ids.canonicalIdentityDigest "composite-replay-manifest-v1" (.object manifest.content)
  raiseIf (manifest.manifestDigest ≠ "" ∧ manifest.manifestDigest ≠ computed)
    (.validation "composite replay manifest digest mismatch")
  let bound := { manifest with manifestDigest := computed }
  raiseIf (isPublic U bound.dump = false)
    (.validation "composite replay manifest is not public")
  return bound

/-- `_normalize_manifest`: the rows and the manifest are validated again. -/
def normalizeManifest (manifest : CompositeReplayManifest) :
    Except ReplayError CompositeReplayManifest := do
  let rows ← manifest.rows.mapM (bindRow ids U)
  bindManifest ids U { manifest with rows := rows }

/-! ## Session context -/

/-- `str(value or "")`, for values that may be digests; the text of any other is none. -/
def digestText : Option Json → String
  | some (.str s) => s
  | some (.int n) => if n = 0 then "" else toString n
  | _ => ""

/-- `_request_public_session_context_digest` -/
def requestPublicSessionContextDigest (request : ActorCallRequest) : Except ReplayError String := do
  let sessionReads := request.context.reads.filter fun read =>
    read.sourceKind = .session ∧ read.sourceRef = "public_carryover"
  match sessionReads with
  | [] =>
    return ids.canonicalIdentityDigest "harness-public-session-context"
      (.object [("kind", .str "no-public-session-context")])
  | [read] =>
    match read.value with
    | .object fields =>
      let digest := (strip (digestText (Json.get? "context_digest" fields))).toLower
      raiseIf (isDigest digest = false)
        (.validation "public_session_context_digest must be a lowercase SHA-256 digest")
      return digest
    | _ =>
      .error (.mismatch "session_context_mismatch"
        "public session context read is not a stable JSON object" none)
  | _ =>
    .error (.mismatch "session_context_mismatch"
      "replay requests may carry one declared public session context read" none)

end Contracts

/-! ## Recorder -/

/-- What `_normalize_turn` is given. -/
inductive TurnArgument
  | turn (turn : CompositeReplayTurn)
  /-- A mapping of a known kind that its model refuses. -/
  | invalid
  | notMapping
  | unknownKind

/-- `_normalize_turn` -/
def normalizeTurn : TurnArgument → Except ReplayError CompositeReplayTurn
  | .turn turn => .ok turn
  | .invalid => .error (.validation "invalid turn")
  | .notMapping => .error (.mismatch "invalid_turn"
      "replay turns must be typed tool-request or terminal mappings" none)
  | .unknownKind => .error (.mismatch "invalid_turn"
      "replay turns must be typed ActorToolRequest or ActorTerminalTurn values" none)

structure RecordCall where
  request : Option ActorCallRequest
  turn : TurnArgument
  usage : Option ProviderUsageReport

structure CompositeReplayRecorder where
  rows : List CompositeReplayRow
  finalized : Bool

def CompositeReplayRecorder.empty : CompositeReplayRecorder := ⟨[], false⟩

/-- An argument that passes `model_validate`. -/
def validated {α ε : Type} (argument : Option α) (error : ε) : Except ε α :=
  argument.elim (.error error) .ok

section Recorder

variable (ids : Identities) (U : UnicodeTables) (binding : CompositeReplayBinding)

/-- The part of `record` before the lock. -/
def normalizeExchange (call : RecordCall) :
    Except ReplayError (ActorCallRequest × CompositeReplayTurn × ProviderUsageReport) := do
  let request ← validated call.request (.validation "invalid actor call request")
  raiseIf (isPublic U (request.dump ids) = false)
    (.validation "actor call request is not public")
  raiseIf (request.compiledSemanticDigest ≠ binding.compiledSemanticDigest)
    (.mismatch "identity_mismatch" "recorded request is bound to another compiled plan" none)
  let session ← requestPublicSessionContextDigest ids request
  raiseIf (session ≠ binding.publicSessionContextDigest)
    (.mismatch "session_context_mismatch"
      "recorded request is bound to another public session context" none)
  let turn ← normalizeTurn call.turn
  let usage ← validated call.usage (.validation "invalid provider usage report")
  return (request, turn, usage)

/-- The checks of `record` under the lock. -/
def nextRow (recorder : CompositeReplayRecorder)
    (exchange : ActorCallRequest × CompositeReplayTurn × ProviderUsageReport) :
    Except ReplayError CompositeReplayRow := do
  raiseIf (recorder.finalized = true)
    (.mismatch "recorder_finalized" "composite replay recorder is already finalized" none)
  let row ← bindRow ids U
    { sequenceNo := recorder.rows.length
      requestDigest := exchange.1.requestDigest ids
      turn := exchange.2.1
      usage := exchange.2.2
      rowDigest := "" }
  raiseIf (row.requestDigest ∈ recorder.rows.map (·.requestDigest))
    (.mismatch "row_reuse"
      "a request digest may be recorded exactly once" (some row.sequenceNo))
  raiseIf (row.usage.responseId ∈ recorder.rows.map (·.usage.responseId))
    (.mismatch "response_reuse"
      "a provider response_id may be recorded exactly once" (some row.sequenceNo))
  return row

/-- `record` -/
def record (call : RecordCall) : Stateful CompositeReplayRecorder ReplayError CompositeReplayRow :=
  do
  let exchange ← .check (normalizeExchange ids U binding call)
  let recorder ← .get
  let row ← .check (nextRow ids U recorder exchange)
  .modify fun recorder => { recorder with rows := recorder.rows ++ [row] }
  return row

/-- `finalize` -/
def finalize : Stateful CompositeReplayRecorder ReplayError CompositeReplayManifest := do
  let recorder ← .get
  let manifest ← .check (bindManifest ids U
    { schemaVersion := compositeReplaySchemaVersion
      binding := binding
      rows := recorder.rows
      manifestDigest := "" })
  .modify fun recorder => { recorder with finalized := true }
  return manifest

end Recorder

/-! ## Provider -/

/-- One look of `_check_control` at a `ProviderCallControl`. -/
structure ControlReading where
  cancelled : Bool
  expired : Bool

/-- `_check_control` -/
def checkControl (reading : ControlReading) : Except InvokeError Unit := do
  raiseIf (reading.cancelled = true) (invocationError "cancelled" none true false)
  raiseIf (reading.expired = true) (invocationError "deadline_exceeded" none false true)

structure InvokeCall where
  request : Option ActorCallRequest
  credentialReference : Bool
  atEntry : ControlReading
  atLock : ControlReading
  beforeAnswer : ControlReading

structure ProviderInvocation where
  response : CompositeReplayTurn
  usage : ProviderUsageReport

/-- What changes in a `CompositeReplayProvider`. -/
structure ProviderState where
  cursor : ℕ
  consumedRequestDigests : List String

def ProviderState.empty : ProviderState := ⟨0, []⟩

section Provider

variable (ids : Identities) (U : UnicodeTables)

/-- `CompositeReplayProvider(manifest, expected_binding=...)`; its manifest. -/
def openReplay (manifest : CompositeReplayManifest) (expectedBinding : CompositeReplayBinding) :
    Except ReplayError CompositeReplayManifest := do
  let manifest ← normalizeManifest ids U manifest
  raiseIf (manifest.binding ≠ expectedBinding)
    (.mismatch "identity_mismatch"
      "composite replay manifest does not match the expected runtime identity binding" none)
  return manifest

variable (manifest : CompositeReplayManifest)

/-- The session part of `invoke`: a mismatch error becomes a refusal, any other one is raised as it
is. -/
def checkSession (request : ActorCallRequest) : Except InvokeError Unit :=
  match requestPublicSessionContextDigest ids request with
  | .ok digest =>
    raiseIf (digest ≠ manifest.binding.publicSessionContextDigest) (refusal "identity_mismatch" none)
  | .error (.mismatch _ _ _) => .error (refusal "identity_mismatch" none)
  | .error (.validation message) => .error (.validation message)

/-- The part of `invoke` before the lock. -/
def authorize (call : InvokeCall) : Except InvokeError ActorCallRequest := do
  checkControl call.atEntry
  raiseIf (call.credentialReference = true) (refusal "credential_not_allowed" none)
  let request ← validated call.request (refusal "invalid_request" none)
  raiseIf (isPublic U (request.dump ids) = false) (refusal "non_public_request" none)
  raiseIf (request.compiledSemanticDigest ≠ manifest.binding.compiledSemanticDigest)
    (refusal "identity_mismatch" none)
  checkSession ids manifest request
  return request

/-- The checks of `invoke` under the lock. -/
def selectRow (state : ProviderState) (call : InvokeCall) (request : ActorCallRequest) :
    Except InvokeError CompositeReplayRow := do
  checkControl call.atLock
  raiseIf (state.consumedRequestDigests.contains (request.requestDigest ids) = true)
    (refusal "row_reuse" (some state.cursor))
  let row ← validated manifest.rows[state.cursor]? (refusal "missing_row" (some state.cursor))
  raiseIf (row.requestDigest ≠ request.requestDigest ids)
    (refusal "request_mismatch" (some row.sequenceNo))
  checkControl call.beforeAnswer
  return row

/-- `invoke` -/
def invoke (call : InvokeCall) : Stateful ProviderState InvokeError ProviderInvocation := do
  let request ← .check (authorize ids U manifest call)
  let state ← .get
  let row ← .check (selectRow ids manifest state call request)
  .modify fun state =>
    { cursor := state.cursor + 1
      consumedRequestDigests := state.consumedRequestDigests ++ [row.requestDigest] }
  return { response := row.turn, usage := row.usage }

structure CompositeReplayReconciliation where
  manifestDigest : String
  rowCount : ℕ
  consumedCount : ℕ
  consumedResponseIds : List String
  remainingRequestDigests : List String
  complete : Bool

/-- `validate_reconciliation` -/
def validateReconciliation (reconciliation : CompositeReplayReconciliation) :
    Except ReplayError CompositeReplayReconciliation := do
  raiseIf (isDigest (strip reconciliation.manifestDigest).toLower = false)
    (.validation "manifest_digest must be a lowercase SHA-256 digest")
  raiseIf (reconciliation.rowCount < reconciliation.consumedCount)
    (.validation "replay consumption cannot exceed the manifest row count")
  raiseIf (reconciliation.consumedResponseIds.length ≠ reconciliation.consumedCount)
    (.validation "consumed response IDs do not reconcile with consumed_count")
  raiseIf (reconciliation.remainingRequestDigests.length ≠
      reconciliation.rowCount - reconciliation.consumedCount)
    (.validation "remaining request digests do not reconcile with row counts")
  raiseIf (reconciliation.complete ≠ decide (reconciliation.consumedCount = reconciliation.rowCount))
    (.validation "replay complete flag does not reconcile with row counts")
  return reconciliation

/-- `reconciliation` -/
def reconciliation (state : ProviderState) : Except ReplayError CompositeReplayReconciliation :=
  let consumed := manifest.rows.take state.cursor
  let remaining := manifest.rows.drop state.cursor
  validateReconciliation
    { manifestDigest := manifest.manifestDigest
      rowCount := manifest.rows.length
      consumedCount := state.cursor
      consumedResponseIds := consumed.map fun row => row.usage.responseId.getD "None"
      remainingRequestDigests := remaining.map (·.requestDigest)
      complete := decide (state.cursor = manifest.rows.length) }

/-- `assert_reconciled` -/
def assertReconciled (state : ProviderState) :
    Except ReplayError CompositeReplayReconciliation := do
  let reconciliation ← reconciliation manifest state
  raiseIf (reconciliation.complete = false)
    (.mismatch "extra_rows"
      "composite replay completed with unconsumed manifest rows"
      (some reconciliation.consumedCount))
  return reconciliation

end Provider

end Agintor.Kernel.Replay
