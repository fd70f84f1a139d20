import Agintor.Contracts.ExecutionPlan

/-!
# Resuming from a checkpoint

`solve_request_from_resume_checkpoint` rebinds a checkpoint envelope to the active request, and
`TaskRuntime.resume_from_checkpoint` runs its plan from the state it holds. The plan and its digest
are followed here; the rest of an envelope (`R`), tasks (`T`), solve requests (`S`) and what a
restored run gives (`X`) are parameters, with what is done to them.
-/

namespace Agintor.Runtime

open Lib Core Contracts

inductive RecoveryFailureKind
  | checkpointNotFound
  | checkpointCorrupt
  | requestMismatch
  | runtimeContractMismatch
  | runtimeHashMismatch
  | planDigestMismatch
  | frameReconstructionFailed
  | receiptReconciliationFailed
deriving DecidableEq, Repr

/-- The schema version has one value. -/
structure CheckpointEnvelope (D P K T R : Type) where
  runtimeContractVersion : String
  runtimeHash : String
  requestId : String
  originRequestId : Option String
  selectedCheckpointRef : Option String
  sourceCheckpointRef : Option String
  planId : String
  planSnapshot : PlanSnapshot D P K
  taskPayload : T
  /-- The state, the ledger, the working state and the trace cursor. -/
  state : R

abbrev TracePayload := List (String × Json)

/-- `request_bundle`: the kind of the stored request, and the solve request that it carries for a
user. -/
structure RequestBundle (S : Type) where
  requestKind : String
  solveRequest : Option S

/-- What the resumption leaves open. -/
structure ResumeRuntime (D P K T R S X : Type) where
  validation : PlanValidation D P K
  runtimeContractVersion : String
  runtimeHash : String
  /-- The validator of a task. -/
  readTask : T → Except ValidationError T
  /-- `_rebind_request_id_mirrors` and its like, with the validation of what they make. -/
  rebindState : String → Option String → Option TracePayload → R → Except ValidationError R
  benchmarkTaskToSolveRequest : T → String → S
  rebindSolveRequest : S → String → S
  /-- The rest of `_restore_from_checkpoint`, which fails for other reasons, and the run. -/
  restore : ExecutionPlan D P K → R →
    Except ({kind : RecoveryFailureKind // kind ≠ .planDigestMismatch} × String) X

/-! ## Rebinding -/

/-- `_RESUME_TRACE_CONTEXT_OVERRIDE_FIELDS` -/
def resumeTraceContextOverrideFields : List String :=
  ["session_id", "provider_role", "build_id", "runtime_hash", "runtime_dir", "runtime_session_id",
    "runtime_message_id", "runtime_message_index", "task_id", "seed", "evaluation_unit_id",
    "request_mode", "episode_kind", "episode_step_index"]

/-- `value is not None and not (isinstance(value, list) and not value)` -/
def overrides : Json → Bool
  | .null => false
  | .array [] => false
  | _ => true

/-- `_trace_context_override_payload` -/
def traceContextOverridePayload : Option TracePayload → TracePayload
  | none => []
  | some fields => fields.filter fun field =>
    resumeTraceContextOverrideFields.contains field.1 && overrides field.2

/-- `_rebound_trace_context_payload` -/
def reboundTraceContextPayload (payload : Option TracePayload) (activeRequestId : String)
    (traceContext : Option TracePayload) : Option TracePayload :=
  if payload.isNone ∧ traceContext.isNone then none
  else some (Json.set "request_id" (.str activeRequestId)
    (Json.merged (payload.getD []) (traceContextOverridePayload traceContext)))

/-- `str(value or "").strip() or None` -/
def nonEmpty (value : Option String) : Option String :=
  (value.map strip).filter (· ≠ "")

section Resume

variable {D P K T R S X : Type}

/-- `_refresh_plan_digest` -/
def refreshPlanDigest (V : PlanValidation D P K) (planSnapshot : PlanSnapshot D P K) :
    Except ValidationError (PlanSnapshot D P K) := do
  let plan ← V.modelValidate { planSnapshot with planDigest := none }
  return plan.modelDump

/-- `rebind_checkpoint_envelope_for_resume` -/
def rebindCheckpointEnvelopeForResume (M : ResumeRuntime D P K T R S X)
    (envelope : CheckpointEnvelope D P K T R) (activeRequestId : String)
    (sourceCheckpointRef : Option String) (traceContext : Option TracePayload) :
    Except ValidationError (CheckpointEnvelope D P K T R) := do
  let originalRequestId := (nonEmpty ((envelope.originRequestId.filter (· ≠ "")).or
    (some envelope.requestId))).getD envelope.requestId
  let selected := nonEmpty ((sourceCheckpointRef.filter (· ≠ "")).or envelope.sourceCheckpointRef)
  let planSnapshot ← refreshPlanDigest M.validation { envelope.planSnapshot with
    requestId := activeRequestId
    traceContext := reboundTraceContextPayload envelope.planSnapshot.traceContext activeRequestId
      traceContext }
  let state ← M.rebindState activeRequestId selected traceContext envelope.state
  return { envelope with
    requestId := activeRequestId
    originRequestId := some originalRequestId
    selectedCheckpointRef := selected
    sourceCheckpointRef := selected
    planSnapshot := planSnapshot
    state := state }

/-- `resume_task_and_plan_from_checkpoint` -/
def resumeTaskAndPlanFromCheckpoint (M : ResumeRuntime D P K T R S X)
    (envelope : CheckpointEnvelope D P K T R) :
    Except ValidationError (T × ExecutionPlan D P K) := do
  let task ← M.readTask envelope.taskPayload
  let plan ← M.validation.modelValidate envelope.planSnapshot
  return (task, plan)

/-- The arguments of a resumption. -/
structure ResumeRequest (S : Type) where
  requestIdOverride : Option String
  requestBundle : RequestBundle S
  sourceCheckpointRef : Option String
  traceContext : Option TracePayload

/-- `solve_request_from_resume_checkpoint` -/
def solveRequestFromResumeCheckpoint (M : ResumeRuntime D P K T R S X)
    (envelope : CheckpointEnvelope D P K T R) (request : ResumeRequest S) :
    Except ValidationError (S × CheckpointEnvelope D P K T R × String) := do
  let effectiveRequestId := (nonEmpty ((request.requestIdOverride.filter (· ≠ "")).or
    (some envelope.requestId))).getD envelope.requestId
  let rebound ← rebindCheckpointEnvelopeForResume M envelope effectiveRequestId
    request.sourceCheckpointRef request.traceContext
  let (task, plan) ← resumeTaskAndPlanFromCheckpoint M rebound
  let requestKind := strip request.requestBundle.requestKind
  raiseIf (requestKind ≠ "" ∧ requestKind ∉
      ["runtime_solve_request", "runtime_task_invocation", "runtime_task_invocation_group"])
    (.value s!"resume encountered unknown durable request envelope kind {quoted requestKind}")
  if plan.content.originKind = "benchmark" then
    return (M.benchmarkTaskToSolveRequest task effectiveRequestId, rebound, effectiveRequestId)
  match request.requestBundle.solveRequest with
  | some solveRequest =>
    if request.requestBundle.requestKind = "runtime_solve_request" then
      return (M.rebindSolveRequest solveRequest effectiveRequestId, rebound, effectiveRequestId)
    else .error (.value ("resume for user_request checkpoints requires the stored " ++
      "runtime_solve_request envelope with solve_request payload"))
  | none => .error (.value ("resume for user_request checkpoints requires the stored " ++
      "runtime_solve_request envelope with solve_request payload"))

/-! ## Running -/

/-- How a resumption ends. -/
inductive ResumeOutcome (X : Type)
  | raised (e : ValidationError)
  | planValidationFailed (e : ValidationError)
  | refused (kind : RecoveryFailureKind) (message : String)
  | restored (result : X)
deriving DecidableEq

/-- `_restore_from_checkpoint` in a context with the plan `plan`. -/
def restoreFromCheckpoint (M : ResumeRuntime D P K T R S X) [DecidableEq K]
    (plan : ExecutionPlan D P K) (envelope : CheckpointEnvelope D P K T R) : ResumeOutcome X :=
  if envelope.requestId ≠ plan.requestId then
    .refused .requestMismatch
      s!"checkpoint request mismatch: expected {plan.requestId}, found {envelope.requestId}"
  else if envelope.planId ≠ plan.content.planId then
    .refused .requestMismatch
      s!"checkpoint plan mismatch: expected {plan.content.planId}, found {envelope.planId}"
  else if envelope.runtimeContractVersion ≠ M.runtimeContractVersion then
    .refused .runtimeContractMismatch
      "checkpoint runtime contract does not match the loaded runtime"
  else if envelope.runtimeHash ≠ M.runtimeHash then
    .refused .runtimeHashMismatch "checkpoint runtime hash does not match the loaded runtime"
  else
    match M.validation.modelValidate envelope.planSnapshot with
    | .error e => .raised e
    | .ok planSnapshot =>
      if planSnapshot.planDigest ≠ plan.planDigest then
        .refused .planDigestMismatch
          "checkpoint plan digest does not match the compiled execution plan"
      else
        match M.restore plan envelope.state with
        | .error (kind, message) => .refused kind.val message
        | .ok result => .restored result

/-- `_run_execution_plan` with a checkpoint. The plan is validated again, and the copy that runs is
marked as validated. -/
def runExecutionPlan (M : ResumeRuntime D P K T R S X) [DecidableEq K]
    (plan : ExecutionPlan D P K) (envelope : CheckpointEnvelope D P K T R) : ResumeOutcome X :=
  match M.validation.modelValidate plan.modelDump with
  | .error e => .planValidationFailed e
  | .ok plan =>
    restoreFromCheckpoint M
      { plan with content := { plan.content with lifecycleState := "validated" } } envelope

/-- `TaskRuntime.resume_from_checkpoint` -/
def resumeFromCheckpoint (M : ResumeRuntime D P K T R S X) [DecidableEq K]
    (envelope : CheckpointEnvelope D P K T R) : ResumeOutcome X :=
  match resumeTaskAndPlanFromCheckpoint M envelope with
  | .error e => .raised e
  | .ok (_, plan) => runExecutionPlan M plan envelope

/-- A resumption from the request on. -/
def resume (M : ResumeRuntime D P K T R S X) [DecidableEq K]
    (envelope : CheckpointEnvelope D P K T R) (request : ResumeRequest S) : ResumeOutcome X :=
  match solveRequestFromResumeCheckpoint M envelope request with
  | .error e => .raised e
  | .ok (_, rebound, _) => resumeFromCheckpoint M rebound

end Resume

end Agintor.Runtime
