import Agintor.Kernel.CompositeRuntime

/-!
# Runs of the composite runtime

`CompositeRuntime.run` and what it calls. The state of a run is the runtime's own, with a list of
the events so far that no code reads, and the state `σ` of the world outside. Money, times and
digests of the evidence are left out; a share of the token ceilings is taken exactly.
-/

namespace Agintor.Kernel

open Agintor.Contracts Agintor.Core Agintor.Compiler Lib

/-- What a run does, in order. -/
inductive RunEvent
  | started (callId : String)
  | delivered (artifactId consumerCallId : String)
  | requested (callId : String)
  | wrote (artifactId producerCallId : String)
  | finished (callId : String)
deriving DecidableEq

structure RunState (σ : Type) where
  world : σ
  artifacts : ImmutableArtifactStore
  runStarted : Bool := false
  outputs : Dict String ActorCallOutput := Dict.empty
  contexts : List PreCallContextManifest := []
  callEvidence : List ActorCallEvidence := []
  stageEvidence : List StageExecutionEvidence := []
  events : List RunEvent := []

abbrev Run (σ α : Type) : Type := Stateful (RunState σ) RuntimeError α

variable {σ α : Type}

def emit (event : RunEvent) : Run σ Unit :=
  Stateful.modify fun s => { s with events := s.events ++ [event] }

/-! ## The world outside -/

/-- What `CompositeProviderController.call` and the parsing of its response come to. -/
inductive ProviderRound
  | raised (message : String)
  | failed
  | resultMissing
  | invalidTurn
  | turn (turn : ActorTurn)

inductive ToolOutcome
  | raised (message : String)
  | noReceipt
  | receipt (receiptId status output outputDigest : String)

/-- The injected repair tools. `complete` says whether the final controls are there. -/
structure ToolInterface (σ : Type) where
  invoke : String → TrustedToolId → String → String → σ → ToolOutcome × σ
  complete : Bool
  workspaceDiff : ℕ → σ → Except String String × σ
  sourceSnapshotUnchanged : σ → Except String Bool × σ
  immutableBaseUnchanged : σ → Except String Bool × σ
  runPublicVerification : String → σ → Except String Bool × σ
  currentWorkspaceDigest : σ → Except String String × σ
  receipts : σ → Except String (List String) × σ

/-- The provider with its controller and ledger, the tools, and the length of a request in
tokens. -/
structure Environment (σ : Type) where
  countTokens : ActorCallRequest → ℕ
  reserve : ActorCallRequest → σ → Bool × σ
  call : ActorCallRequest → σ → ProviderRound × σ
  tools : Option (ToolInterface σ)
  budgetHealthy : σ → Bool

/-- Let the world do something. -/
def perform (action : σ → α × σ) : Run σ α := do
  let s ← Stateful.get
  let result := action s.world
  Stateful.modify fun s => { s with world := result.2 }
  return result.1

/-- Let the world do something that may raise. -/
def attempt (action : σ → Except String α × σ) : Run σ α := do
  let result ← perform action
  match result with
  | .ok a => return a
  | .error message => Stateful.raise (.other message)

/-! ## Contexts -/

def ArtifactStoreError.message : ArtifactStoreError → String
  | store message => message
  | value message => message

def actualRead (digests : RuntimeDigests) (read : ContextReadPlan) (value : ContextValue)
    (provenanceRef : String) : ActualContextRead :=
  ⟨read.readId, read.sourceKind, read.sourceRef, value, digests.value value, provenanceRef⟩

/-- An artifact that is delivered to the call. -/
def deliverRead (call : ActorCallPlan) (read : ContextReadPlan) : Run σ ActualContextRead := do
  let s ← Stateful.get
  match s.artifacts.deliver read.sourceRef call.callId with
  | .error e => Stateful.raise (.composite "artifact_delivery_failed" e.message
      (some call.callId))
  | .ok (delivery, store) => do
    Stateful.modify fun s => { s with
      artifacts := store
      events := s.events ++ [.delivered read.sourceRef call.callId] }
    return ⟨read.readId, read.sourceKind, read.sourceRef, .text delivery.payload,
      delivery.payloadDigest, delivery.producerCallId⟩

/-- An artifact that was delivered to the earlier call of the same actor. -/
def retainedRead (plan : CompositeRunPlan) (call : ActorCallPlan) (read : ContextReadPlan) :
    Run σ ActualContextRead := do
  let s ← Stateful.get
  let missing := RuntimeError.composite "artifact_delivery_failed"
    ("retained artifact " ++ quoted read.sourceRef ++ " was not delivered to this actor")
    (some call.callId)
  match retainedArtifactSource plan read.sourceRef call (callPositions plan) with
  | none => Stateful.raise missing
  | some priorConsumer => do
    Stateful.check (raiseIf (s.artifacts.wasDelivered read.sourceRef priorConsumer = false) missing)
    match s.artifacts.readRetained read.sourceRef call.callId with
    | .error e => Stateful.raise (.composite "artifact_delivery_failed" e.message
        (some call.callId))
    | .ok (artifact, store) => do
      Stateful.modify fun s => { s with artifacts := store }
      return ⟨read.readId, read.sourceKind, read.sourceRef, .text artifact.payload,
        artifact.payloadDigest, artifact.producerCallId⟩

/-- `_resolve_read` -/
def resolveRead (digests : RuntimeDigests) (runtime : CompositeRuntime) (call : ActorCallPlan)
    (read : ContextReadPlan) : Run σ ActualContextRead :=
  match read.sourceKind with
  | .task =>
    if read.sourceRef = "issue" then
      return actualRead digests read (.text runtime.task.issue) runtime.task.taskManifestDigest
    else if read.sourceRef = "public_reproduction" then
      return actualRead digests read (.reproduction runtime.task.publicReproduction)
        runtime.task.taskManifestDigest
    else Stateful.raise (.composite "undeclared_task_read"
      ("unsupported public task read " ++ quoted read.sourceRef) (some call.callId))
  | .workspace =>
    return actualRead digests read
      (.workspace runtime.scratchWorkspace.workspaceId runtime.scratchWorkspace.workspaceDigest)
      runtime.scratchWorkspace.workspaceId
  | .artifact =>
    if (runtime.plan.artifactDeliveries.any fun delivery =>
        delivery.artifactId == read.sourceRef && delivery.consumerCallId == call.callId) = true
    then deliverRead call read
    else retainedRead runtime.plan call read
  | .priorActorOutput => do
    let s ← Stateful.get
    match s.outputs.get? read.sourceRef with
    | none => Stateful.raise (.composite "prior_output_missing"
        ("required prior output " ++ quoted read.sourceRef ++ " is unavailable")
        (some call.callId))
    | some prior => return actualRead digests read (.text prior.outputText) read.sourceRef
  | .session =>
    if read.sourceRef = "public_carryover" then
      return actualRead digests read (.session runtime.publicSessionContext)
        ((runtime.publicSessionContext.map (·.contextDigest)).getD digests.noSession)
    else Stateful.raise (.composite "undeclared_session_read"
      ("unsupported public session read " ++ quoted read.sourceRef) (some call.callId))

/-- `_context_for` -/
def contextFor (digests : RuntimeDigests) (runtime : CompositeRuntime) (call : ActorCallPlan) :
    Run σ PreCallContextManifest := do
  let reads ← call.contextReads.mapM (resolveRead digests runtime call)
  let manifest : PreCallContextManifest :=
    { callId := call.callId
      actorId := call.actorId
      taskEnvelopeDigest := runtime.task.taskManifestDigest
      reads := reads }
  Stateful.modify fun s => { s with contexts := s.contexts ++ [manifest] }
  return manifest

/-! ## Rounds -/

/-- `_call_share_bps` -/
def callShareBps (plan : CompositeRunPlan) (call : ActorCallPlan) : ℚ :=
  call.budgetShareBps / ((plan.actorCalls.filter (·.actorId = call.actorId)).length : ℚ)

/-- The part of a token ceiling that falls to a call. -/
def tokenShare (ceiling : ℕ) (shareBps : ℚ) : ℕ := max 1 ⌊ceiling * shareBps / 10000⌋.toNat

/-- The estimate is part of the request it estimates: it is put in until it stays, eight times at
most. -/
def settleEstimate (count : ℕ → ℕ) : ℕ → ℕ → ℕ
  | 0, estimate => estimate
  | n + 1, estimate =>
    if count estimate = estimate then estimate else settleEstimate count n (count estimate)

/-- `_request_for` -/
def requestFor (env : Environment σ) (runtime : CompositeRuntime) (call : ActorCallPlan)
    (context : PreCallContextManifest) (turnIndex : ℕ)
    (toolResults : List ActorToolResultContext) : Except RuntimeError ActorCallRequest := do
  let shareBps := callShareBps runtime.plan call
  let draft (estimate : ℕ) : ActorCallRequest :=
    { compiledSemanticDigest := runtime.plan.compiledSemanticDigest
      callId := call.callId
      actorId := call.actorId
      callKind := call.callKind
      instruction := call.instruction
      revisionInstruction := call.revisionInstruction
      allowedToolIds := call.toolIds
      budgetShareBps := call.budgetShareBps
      context := context
      turnIndex := turnIndex
      toolResults := toolResults
      inputTokenEstimate := estimate
      maxOutputTokens := tokenShare runtime.task.ceilings.maxOutputTokens shareBps }
  let estimate := settleEstimate (fun estimate => env.countTokens (draft estimate)) 8 0
  raiseIf (tokenShare runtime.task.ceilings.maxInputTokens shareBps < estimate)
    (.composite "actor_input_share_exhausted"
      ("call " ++ quoted call.callId ++ " context exceeds its actor input-token share")
      (some call.callId))
  return draft estimate

/-- `_require_unified_diff` -/
def requireUnifiedDiff (patch : String) : Except RuntimeError Unit := do
  let startsSome (head : String) : Bool :=
    (splitlines patch.toList).any fun line => head.toList.isPrefixOf line
  raiseIf (strip patch = "" ∨ startsSome "--- " = false) (.composite "invalid_final_patch"
    "final output is not a unified diff with an original-file header")
  raiseIf (startsSome "+++ " = false) (.composite "invalid_final_patch"
    "final output is not a unified diff with an updated-file header")

/-- `_validate_output` -/
def validateOutput (runtime : CompositeRuntime) (call : ActorCallPlan)
    (output : ActorCallOutput) : Except RuntimeError Unit := do
  let expectedArtifacts : List String := call.artifactWrites.map (·.artifactId)
  let actualArtifacts : List String := output.artifactPayloads.keys
  raiseIf (¬(actualArtifacts ⊆ expectedArtifacts ∧ expectedArtifacts ⊆ actualArtifacts))
    (.composite "artifact_write_mismatch"
      ("call " ++ quoted call.callId ++ " did not return its exact declared artifact set")
      (some call.callId))
  raiseIf (runtime.task.ceilings.maxArtifactBytes < output.outputText.utf8ByteSize)
    (.composite "actor_output_too_large"
      ("call " ++ quoted call.callId ++ " output text exceeds the run artifact ceiling")
      (some call.callId))
  if call.emitsFinalPatch = true then
    match output.finalPatch with
    | none => .error (.composite "final_patch_missing"
        ("termination call " ++ quoted call.callId ++ " did not emit a patch")
        (some call.callId))
    | some patch => do
      requireUnifiedDiff patch
      raiseIf (runtime.plan.termination.maxPatchBytes < patch.utf8ByteSize)
        (.composite "final_patch_too_large" "final patch exceeds the compiled patch-byte ceiling"
          (some call.callId))
  else raiseIf (output.finalPatch.isSome = true) (.composite "undeclared_final_patch"
    ("non-terminal call " ++ quoted call.callId ++ " attempted to emit a final patch")
    (some call.callId))

/-- `invoke_tool` and `_tool_result_context` -/
def invokeTool (env : Environment σ) (runtime : CompositeRuntime) (callId : String)
    (request : ActorToolRequest) : Run σ ActorToolResultContext := do
  match runtime.calls.get? callId with
  | none => Stateful.raise (.composite "unknown_tool_call_owner"
      ("unknown actor call " ++ quoted callId))
  | some call => do
    Stateful.check (raiseIf (request.toolId ∉ call.toolIds) (.composite "tool_not_authorized"
      ("tool " ++ quoted request.toolId.text ++ " is not authorized for call " ++ quoted callId)
      (some callId)))
    match env.tools with
    | none => Stateful.raise (.composite "tool_interface_unavailable"
        "trusted tool execution is not installed in the R1a runtime slice" (some callId))
    | some tools => do
      let outcome ← perform (tools.invoke callId request.toolId request.arguments request.requestId)
      match outcome with
      | .raised message => Stateful.raise (.other message)
      | .noReceipt => Stateful.raise (.composite "invalid_tool_result"
          "injected repair tool interface returned no typed receipt")
      | .receipt receiptId status output outputDigest =>
        return ⟨request.requestId, request.toolId, receiptId, status, output, outputDigest⟩

/-- One provider round: the turn that the provider answers with. -/
def providerRound (env : Environment σ) (call : ActorCallPlan) (turnIndex : ℕ)
    (request : ActorCallRequest) : Run σ ActorTurn := do
  let reserved ← perform (env.reserve request)
  Stateful.check (raiseIf (reserved = false) (.composite "provider_reservation_failed"
    "provider could not produce a bounded pre-send reservation" (some call.callId)))
  emit (.requested call.callId)
  let round ← perform (env.call request)
  match round with
  | .raised message => Stateful.raise (.other message)
  | .failed => Stateful.raise (.composite "provider_call_failed" ("provider round " ++
      toString turnIndex ++ " for " ++ quoted call.callId ++ " did not succeed")
      (some call.callId))
  | .resultMissing => Stateful.raise (.composite "provider_result_missing" ("provider round " ++
      toString turnIndex ++ " for " ++ quoted call.callId ++ " returned no invocation evidence")
      (some call.callId))
  | .invalidTurn => Stateful.raise (.composite "invalid_actor_turn" ("provider round " ++
      toString turnIndex ++ " returned an invalid actor turn") (some call.callId))
  | .turn turn => return turn

/-- The loop over the rounds of a call, of which `n` remain; the result is the terminal output and
the number of rounds. -/
def rounds (env : Environment σ) (runtime : CompositeRuntime) (call : ActorCallPlan)
    (context : PreCallContextManifest) :
    ℕ → ℕ → List ActorToolResultContext → List String → Run σ (ActorCallOutput × ℕ)
  | 0, _, _, _ => Stateful.raise (.composite "actor_turn_budget_exhausted"
      ("call " ++ quoted call.callId ++
        " did not produce terminal output within the model-call ceiling") (some call.callId))
  | n + 1, turnIndex, toolResults, seen => do
    let request ← Stateful.check (requestFor env runtime call context turnIndex toolResults)
    let turn ← providerRound env call turnIndex request
    match turn with
    | .toolRequest toolRequest => do
      Stateful.check (raiseIf (toolRequest.requestId ∈ seen)
        (.composite "duplicate_tool_request_id" ("call " ++ quoted call.callId ++
          " repeated tool request id " ++ quoted toolRequest.requestId) (some call.callId)))
      let result ← invokeTool env runtime call.callId toolRequest
      rounds env runtime call context n (turnIndex + 1) (toolResults ++ [result])
        (toolRequest.requestId :: seen)
    | .terminal output => do
      Stateful.check (validateOutput runtime call output)
      return (output, turnIndex + 1)

/-! ## Calls -/

/-- One turn of the loop that writes the artifacts of a call. -/
def writeArtifact (digests : RuntimeDigests) (call : ActorCallPlan) (output : ActorCallOutput)
    (writePlan : ArtifactWritePlan) : Run σ String := do
  let s ← Stateful.get
  match output.artifactPayloads.get? writePlan.artifactId with
  | none => Stateful.raise (.other ("KeyError: " ++ quoted writePlan.artifactId))
  | some payload =>
    match s.artifacts.write digests.payload writePlan call.callId payload with
    | .error e => Stateful.raise (.composite "artifact_write_failed" e.message
        (some call.callId))
    | .ok (artifact, store) => do
      Stateful.modify fun s => { s with
        artifacts := store
        events := s.events ++ [.wrote artifact.artifactId call.callId] }
      return artifact.artifactId

/-- `_execute_call` -/
def executeCall (digests : RuntimeDigests) (env : Environment σ) (runtime : CompositeRuntime)
    (call : ActorCallPlan) (stageId : String) : Run σ Unit := do
  emit (.started call.callId)
  let context ← contextFor digests runtime call
  let terminal ← rounds env runtime call context runtime.task.ceilings.maxModelCalls 0 [] []
  let written ← call.artifactWrites.mapM (writeArtifact digests call terminal.1)
  Stateful.modify fun s => { s with
    outputs := s.outputs.set call.callId terminal.1
    callEvidence := s.callEvidence ++
      [{ callId := call.callId
         actorId := call.actorId
         callKind := call.callKind
         stageId := stageId
         actualReadIds := context.reads.map (·.readId)
         artifactIdsWritten := written
         providerRounds := terminal.2 }]
    events := s.events ++ [.finished call.callId] }

/-- One turn of the loop over the calls of a stage. -/
def runCall (digests : RuntimeDigests) (env : Environment σ) (runtime : CompositeRuntime)
    (stageId callId : String) : Run σ String :=
  match runtime.calls.get? callId with
  | none => Stateful.raise (.other ("KeyError: " ++ quoted callId))
  | some call => do
    executeCall digests env runtime call stageId
    return callId

/-- The loop over the stages; the result is the list of executed calls. -/
def runStages (digests : RuntimeDigests) (env : Environment σ) (runtime : CompositeRuntime) :
    List CompositePlanStage → List String → List String → Run σ (List String)
  | [], _, executedCalls => return executedCalls
  | stage :: rest, completedStageIds, executedCalls => do
    Stateful.check (raiseIf (¬stage.dependsOnStageIds ⊆ completedStageIds)
      (.composite "stage_dependency_unmet"
        ("stage " ++ quoted stage.stageId ++ " dependency is not complete")))
    let stageOrder ← stage.callIds.mapM (runCall digests env runtime stage.stageId)
    Stateful.modify fun s => { s with
      stageEvidence := s.stageEvidence ++
        [⟨stage.stageId, stage.stageIndex, stage.fork, stage.join, stageOrder⟩] }
    runStages digests env runtime rest (stage.stageId :: completedStageIds)
      (executedCalls ++ stageOrder)

/-! ## The end of a run -/

inductive RunStatus
  | patchReady
  | completed
  | publicVerificationFailed
deriving DecidableEq

structure CompositeRunResult where
  status : RunStatus
  finalPatch : String
  finalWorkspaceDigest : String
  sourceSnapshotUnchanged : Bool
  toolReceipts : List String
deriving DecidableEq

/-- The final patch, after execution and deliveries are reconciled with the plan. -/
def reconcile (runtime : CompositeRuntime) (executedCalls : List String) : Run σ String := do
  let s ← Stateful.get
  Stateful.check (raiseIf (executedCalls ≠ runtime.plan.stages.flatMap (·.callIds))
    (.composite "execution_order_mismatch"
      "actual actor-call order differs from the compiled sequential order"))
  let actualKeys : List (String × String) :=
    s.artifacts.deliveries.map fun delivery => (delivery.artifactId, delivery.consumerCallId)
  Stateful.check (raiseIf (¬(actualKeys ⊆ deliveryKeys runtime.plan ∧
      deliveryKeys runtime.plan ⊆ actualKeys))
    (.composite "delivery_reconciliation_failed"
      "actual artifact deliveries do not match the compiled run plan"))
  match (s.outputs.get? runtime.plan.termination.finalActorCallId).bind (·.finalPatch) with
  | none => Stateful.raise (.composite "final_patch_missing"
      "termination call did not produce a final patch")
  | some finalPatch => return finalPatch

/-- The source and the base are as they were. -/
def requireUnchanged (tools : ToolInterface σ) (message : String) : Run σ Bool := do
  let sourceUnchanged ← attempt tools.sourceSnapshotUnchanged
  Stateful.check (raiseIf (sourceUnchanged = false) (.composite "immutable_source_changed" message))
  let baseUnchanged ← attempt tools.immutableBaseUnchanged
  Stateful.check (raiseIf (baseUnchanged = false) (.composite "immutable_source_changed" message))
  return sourceUnchanged

/-- What the injected tools say about the final patch. -/
def controlledResult (runtime : CompositeRuntime) (tools : ToolInterface σ) (finalPatch : String) :
    Run σ CompositeRunResult := do
  Stateful.check (raiseIf (tools.complete = false) (.composite "repair_control_incomplete"
    "injected tool interface lacks the R2 final-control surface"))
  let actualPatch ← attempt (tools.workspaceDiff runtime.plan.termination.maxPatchBytes)
  Stateful.check (raiseIf (actualPatch ≠ finalPatch) (.composite "final_patch_workspace_mismatch"
    "submitted final patch does not exactly match the immutable-base workspace diff"
    (some runtime.plan.termination.finalActorCallId)))
  let _ ← requireUnchanged tools "source snapshot or immutable base changed during runtime execution"
  let passed ← attempt (tools.runPublicVerification runtime.plan.termination.finalActorCallId)
  let finalWorkspaceDigest ← attempt tools.currentWorkspaceDigest
  let unchanged ← requireUnchanged tools
    "public verification changed the source snapshot or immutable base"
  let toolReceipts ← attempt tools.receipts
  return { status := if passed = true then .completed else .publicVerificationFailed
           finalPatch := finalPatch
           finalWorkspaceDigest := finalWorkspaceDigest
           sourceSnapshotUnchanged := unchanged
           toolReceipts := toolReceipts }

/-- `CompositeRuntime.run` -/
def run (digests : RuntimeDigests) (env : Environment σ) (runtime : CompositeRuntime) :
    Run σ CompositeRunResult := do
  let s ← Stateful.get
  Stateful.check (raiseIf (s.runStarted = true) (.composite "run_already_started"
    "CompositeRuntime instances execute exactly one run"))
  Stateful.modify fun s => { s with runStarted := true }
  let executedCalls ← runStages digests env runtime runtime.plan.stages [] []
  let finalPatch ← reconcile runtime executedCalls
  let result ← match env.tools with
    | none => pure { status := .patchReady
                     finalPatch := finalPatch
                     finalWorkspaceDigest := runtime.scratchWorkspace.workspaceDigest
                     sourceSnapshotUnchanged := true
                     toolReceipts := [] }
    | some tools => controlledResult runtime tools finalPatch
  let s ← Stateful.get
  Stateful.check (raiseIf (env.budgetHealthy s.world = false)
    (.composite "budget_reconciliation_failed"
      "aggregate provider accounting is incomplete or unhealthy"))
  return result

/-- The state in which a runtime starts its run. -/
def CompositeRuntime.start (runtime : CompositeRuntime) (world : σ) : RunState σ where
  world := world
  artifacts := runtime.artifacts

end Agintor.Kernel
