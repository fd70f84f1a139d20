import Agintor.Compiler.CompositeCompiler
import Agintor.Kernel.CompositeArtifacts
import Agintor.Lib.SplitLines
import Agintor.Lib.Stateful
import Mathlib.Data.Rat.Floor

/-!
# The composite runtime

`runtime/kernel/composite_runtime.py`: one plan is checked against its task, and its calls are
executed one after another. Reading a context delivers artifacts, the terminal output of a call
is written to the artifact store. What the provider, its controller and the repair tools do is
an `Environment`. Digests, times and usage that no check reads are left out of the evidence.
-/

namespace Agintor.Kernel

open Agintor.Contracts Agintor.Core Agintor.Compiler Lib

/-! ## Data -/

/-- What the runtime raises: a `CompositeRuntimeError`, or another exception. -/
inductive RuntimeError
  | composite (kind message : String) (callId : Option String := none)
  | other (message : String)
deriving DecidableEq

/-- The `kind` of a `CompositeRuntimeError`. -/
def RuntimeError.kind? : RuntimeError → Option String
  | composite kind _ _ => some kind
  | other _ => none

structure ScratchWorkspaceBinding where
  workspaceId : String
  workspaceDigest : String
deriving DecidableEq

structure HarnessPublicCarryoverRef where
  artifactRef : String
  artifactDigest : String
  summary : String
  carryoverDigest : String
deriving DecidableEq

structure HarnessPublicSessionContext where
  sessionId : String
  nextSequence : ℕ
  parentMessageId : Option String
  carryover : List HarnessPublicCarryoverRef
  contextDigest : String
deriving DecidableEq

/-- The value of a context read. -/
inductive ContextValue
  | text (value : String)
  | reproduction (steps : List PublicReproductionStep)
  | workspace (workspaceId workspaceDigest : String)
  | session (context : Option HarnessPublicSessionContext)
deriving DecidableEq

structure ActualContextRead where
  readId : String
  sourceKind : SourceKind
  sourceRef : String
  value : ContextValue
  valueDigest : String
  provenanceRef : String
deriving DecidableEq

structure PreCallContextManifest where
  callId : String
  actorId : String
  taskEnvelopeDigest : String
  reads : List ActualContextRead
deriving DecidableEq

structure ActorCallOutput where
  outputText : String
  artifactPayloads : Dict String String
  finalPatch : Option String

/-- The arguments of a tool are JSON text. -/
structure ActorToolRequest where
  requestId : String
  toolId : TrustedToolId
  arguments : String

inductive ActorTurn
  | toolRequest (request : ActorToolRequest)
  | terminal (output : ActorCallOutput)

structure ActorToolResultContext where
  requestId : String
  toolId : TrustedToolId
  receiptId : String
  status : String
  output : String
  outputDigest : String

structure ActorCallRequest where
  compiledSemanticDigest : String
  callId : String
  actorId : String
  callKind : CallKind
  instruction : String
  revisionInstruction : Option String
  allowedToolIds : List TrustedToolId
  budgetShareBps : ℕ
  context : PreCallContextManifest
  turnIndex : ℕ
  toolResults : List ActorToolResultContext
  inputTokenEstimate : ℕ
  maxOutputTokens : ℕ

structure ActorCallEvidence where
  callId : String
  actorId : String
  callKind : CallKind
  stageId : String
  actualReadIds : List String
  artifactIdsWritten : List String
  providerRounds : ℕ
deriving DecidableEq

structure StageExecutionEvidence where
  stageId : String
  stageIndex : ℕ
  logicalFork : Bool
  logicalJoin : Bool
  callExecutionOrder : List String
deriving DecidableEq

/-- The digests of artifact payloads, of context values, and of no public session. -/
structure RuntimeDigests where
  payload : String → String
  value : ContextValue → String
  noSession : String

/-! ## Input checks -/

/-- The calls of a plan by their ids. -/
def callsById (plan : CompositeRunPlan) : Dict String ActorCallPlan :=
  plan.actorCalls.foldl (fun calls call => calls.set call.callId call) Dict.empty

def validateIdentity (plan : CompositeRunPlan) (task : TaskEnvelope)
    (scratchWorkspace : ScratchWorkspaceBinding) : Except RuntimeError Unit := do
  raiseIf (plan.taskEnvelopeDigest ≠ task.taskManifestDigest)
    (.composite "task_identity_mismatch" "CompositeRunPlan is bound to another TaskEnvelope")
  raiseIf (plan.budgetLedger.aggregateCeiling ≠ task.ceilings)
    (.composite "ceiling_mismatch" "compiled aggregate ceiling does not match the public task")
  raiseIf (scratchWorkspace.workspaceDigest ≠ task.workspaceSnapshot.digest)
    (.composite "scratch_identity_mismatch"
      "scratch workspace digest does not match the immutable public snapshot digest")
  raiseIf (plan.budgetLedger.scheduledModelCalls ≠ plan.actorCalls.length)
    (.composite "scheduled_call_mismatch"
      "budget ledger scheduled_model_calls does not match actor calls")

/-- The stages that are complete, and the stage of each call scheduled so far. -/
structure StageScan where
  completed : List String := []
  callStage : Dict String String := Dict.empty

def scheduleCall (calls : Dict String ActorCallPlan) (stage : CompositePlanStage)
    (callStage : Dict String String) (callId : String) :
    Except RuntimeError (Dict String String) := do
  raiseIf (calls.contains callId = false) (.composite "unknown_staged_call"
    ("stage " ++ quoted stage.stageId ++ " references unknown call " ++ quoted callId))
  raiseIf (callStage.contains callId = true) (.composite "call_scheduled_twice"
    ("call " ++ quoted callId ++ " is scheduled more than once"))
  return callStage.set callId stage.stageId

def scanStage (calls : Dict String ActorCallPlan) (scan : StageScan)
    (entry : CompositePlanStage × ℕ) : Except RuntimeError StageScan := do
  let stage := entry.1
  raiseIf (stage.stageIndex ≠ entry.2) (.composite "stage_order_invalid"
    "CompositeRunPlan stages must have contiguous deterministic indices")
  raiseIf (¬stage.dependsOnStageIds ⊆ scan.completed) (.composite "stage_dependency_invalid"
    ("stage " ++ quoted stage.stageId ++ " depends on an unexecuted stage"))
  let callStage ← stage.callIds.foldlM (scheduleCall calls stage) scan.callStage
  return { completed := stage.stageId :: scan.completed, callStage := callStage }

def validateStages (plan : CompositeRunPlan) : Except RuntimeError (Dict String String) := do
  raiseIf (¬(plan.stages.map (·.stageId)).Nodup)
    (.composite "duplicate_stage_id" "CompositeRunPlan stage ids must be unique")
  let scan ← plan.stages.zipIdx.foldlM (scanStage (callsById plan)) {}
  return scan.callStage

def validateTermination (plan : CompositeRunPlan) (task : TaskEnvelope) :
    Except RuntimeError Unit := do
  raiseIf ((plan.actorCalls.filter (·.emitsFinalPatch)).map (·.callId) ≠
      [plan.termination.finalActorCallId])
    (.composite "termination_invalid" "exactly the termination call must emit the final patch")
  raiseIf (plan.termination.maxPatchBytes ≠ task.ceilings.maxPatchBytes)
    (.composite "patch_ceiling_mismatch"
      "termination patch ceiling does not match the public task")

/-- The steps of a task as the actions of its plan should be. -/
def expectedVerification (task : TaskEnvelope) : List PublicVerificationActionPlan :=
  task.publicReproduction.map fun step =>
    ⟨step.stepId, step.argv, step.cwd, step.timeoutMs, step.expectedExitCodes⟩

def validatePublicVerification (plan : CompositeRunPlan) (task : TaskEnvelope) :
    Except RuntimeError Unit :=
  raiseIf (plan.publicVerification.actions ≠ expectedVerification task)
    (.composite "public_verification_mismatch"
      "compiled public verification differs from the TaskEnvelope")

def validateTools (plan : CompositeRunPlan) : Except RuntimeError Unit :=
  plan.actorCalls.forM fun call =>
    raiseIf (¬call.toolIds ⊆ trustedToolIds) (.composite "task_denied_tool"
      ("call " ++ quoted call.callId ++ " references a task-denied tool"))

/-- `call_positions`: the stage index of a call. -/
def callPositions (plan : CompositeRunPlan) : Dict String ℕ :=
  (plan.stages.flatMap fun stage => stage.callIds.map (·, stage.stageIndex)).foldl
    (fun positions entry => positions.set entry.1 entry.2) Dict.empty

/-- `call_positions[a] < call_positions[b]`, for calls that have a stage. -/
def earlier (positions : Dict String ℕ) (a b : String) : Bool :=
  match positions.get? a, positions.get? b with
  | some i, some j => decide (i < j)
  | _, _ => false

/-- `_retained_artifact_source` -/
def retainedArtifactSource (plan : CompositeRunPlan) (artifactId : String)
    (consumerCall : ActorCallPlan) (positions : Dict String ℕ) : Option String :=
  if consumerCall.callKind ≠ .revision then none
  else plan.artifactDeliveries.findSome? fun delivery =>
    (callsById plan).get? delivery.consumerCallId |>.bind fun priorCall =>
      if delivery.artifactId = artifactId ∧ priorCall.actorId = consumerCall.actorId ∧
        earlier positions priorCall.callId consumerCall.callId = true
      then some priorCall.callId else none

def deliveryKeys (plan : CompositeRunPlan) : List (String × String) :=
  plan.artifactDeliveries.map fun delivery => (delivery.artifactId, delivery.consumerCallId)

/-- The checks on one read; for an artifact that is delivered to the call, the delivery's key. -/
def validateRead (plan : CompositeRunPlan) (call : ActorCallPlan) (read : ContextReadPlan) :
    Except RuntimeError (List (String × String)) :=
  match read.sourceKind with
  | .task => do
    raiseIf (read.sourceRef ∉ ["issue", "public_reproduction"]) (.composite "undeclared_task_read"
      ("unsupported public task read " ++ quoted read.sourceRef))
    return []
  | .workspace => do
    raiseIf (read.sourceRef ≠ "scratch_workspace") (.composite "undeclared_workspace_read"
      ("unsupported workspace read " ++ quoted read.sourceRef))
    return []
  | .session => do
    raiseIf (read.sourceRef ≠ "public_carryover") (.composite "undeclared_session_read"
      ("unsupported public session read " ++ quoted read.sourceRef))
    return []
  | .artifact =>
    if (deliveryKeys plan).contains (read.sourceRef, call.callId) = true then
      return [(read.sourceRef, call.callId)]
    else do
      raiseIf ((retainedArtifactSource plan read.sourceRef call (callPositions plan)).isNone)
        (.composite "undelivered_artifact_read"
          ("artifact " ++ quoted read.sourceRef ++ " is not delivered to " ++ quoted call.callId))
      return []
  | .priorActorOutput => do
    raiseIf ((callsById plan).contains read.sourceRef = false) (.composite "unknown_prior_output"
      ("prior output call " ++ quoted read.sourceRef ++ " does not exist"))
    -- the call found has the id it is found by
    raiseIf (earlier (callPositions plan) read.sourceRef call.callId = false)
      (.composite "future_prior_output" "prior actor output must come from an earlier stage")
    return []

def validateCallReads (plan : CompositeRunPlan) (call : ActorCallPlan) :
    Except RuntimeError (List (String × String)) := do
  raiseIf (¬(call.contextReads.map (·.readId)).Nodup) (.composite "duplicate_context_read"
    ("call " ++ quoted call.callId ++ " has duplicate read ids"))
  let keys ← call.contextReads.mapM (validateRead plan call)
  return keys.flatten

def declaresSession (plan : CompositeRunPlan) : Bool :=
  plan.actorCalls.any fun call => call.contextReads.any fun read => read.sourceKind = .session

def validateReads (plan : CompositeRunPlan) (session : Option HarnessPublicSessionContext) :
    Except RuntimeError Unit := do
  let keys ← plan.actorCalls.mapM (validateCallReads plan)
  let readKeys : List (String × String) := keys.flatten
  raiseIf (¬(readKeys ⊆ deliveryKeys plan ∧ deliveryKeys plan ⊆ readKeys))
    (.composite "inert_artifact_delivery"
      "every artifact delivery must have exactly one declared consumer read")
  raiseIf (session.isSome = true ∧ declaresSession plan = false)
    (.composite "undeclared_session_context"
      "public session context was supplied but no actor declared a session read")

/-- `_validate_inputs`; the result is the stage of each call. -/
def validateInputs (plan : CompositeRunPlan) (task : TaskEnvelope)
    (scratchWorkspace : ScratchWorkspaceBinding) (session : Option HarnessPublicSessionContext) :
    Except RuntimeError (Dict String String) := do
  validateIdentity plan task scratchWorkspace
  let callStage ← validateStages plan
  validateTermination plan task
  validatePublicVerification plan task
  validateTools plan
  validateReads plan session
  return callStage

structure CompositeRuntime where
  plan : CompositeRunPlan
  task : TaskEnvelope
  scratchWorkspace : ScratchWorkspaceBinding
  publicSessionContext : Option HarnessPublicSessionContext
  calls : Dict String ActorCallPlan
  callStage : Dict String String
  artifacts : ImmutableArtifactStore

/-- `ActorCallPlan.validate_call_kind` -/
def validateCallKind (call : ActorCallPlan) : Except CompileError Unit := do
  raiseIf (call.callKind = .revision ∧ (call.revisionInstruction.getD "" = ""))
    (.validation "revision calls require revision_instruction")
  raiseIf (call.callKind = .initial ∧ call.revisionInstruction.isSome = true)
    (.validation "initial calls may not set revision_instruction")

/-- `CompositeRunPlan.model_validate` on the fields of a plan. -/
def revalidate (D : HarnessDigests) (plan : CompositeRunPlan) : Except CompileError Unit := do
  plan.actorCalls.forM validateCallKind
  validateLedger plan.budgetLedger
  validatePlanReferences D plan

/-- `CompositeRuntime.__init__` -/
def CompositeRuntime.init (D : HarnessDigests) (plan : CompositeRunPlan) (task : TaskEnvelope)
    (scratchWorkspace : ScratchWorkspaceBinding) (session : Option HarnessPublicSessionContext) :
    Except RuntimeError CompositeRuntime := do
  (revalidate D plan).mapError fun _ => .composite "invalid_runtime_contract"
    "runtime inputs failed boundary revalidation"
  let callStage ← validateInputs plan task scratchWorkspace session
  match ImmutableArtifactStore.init plan task.ceilings.maxArtifactBytes with
  | .error (.store message) => .error (.composite "invalid_artifact_plan" message)
  | .error (.value message) => .error (.other message)
  | .ok artifacts => return {
      plan := plan
      task := task
      scratchWorkspace := scratchWorkspace
      publicSessionContext := session
      calls := callsById plan
      callStage := callStage
      artifacts := artifacts }

end Agintor.Kernel
