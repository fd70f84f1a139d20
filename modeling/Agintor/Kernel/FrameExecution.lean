import Agintor.Kernel.PlanHelpers

/-!
# Running the nodes of a frame

`_execute_operations` of `runtime/kernel/operations.py`, the ways in which the kernel runs a plan
without workers (all nodes in the root frame, frontier by frontier, or in child frames whose outputs
`_run_execution_plan` stores once more) and `_store_output_artifacts` of
`runtime/kernel/plan_helpers.py`. How the arguments of a node are resolved and what its executor
makes of them is a parameter.
-/

namespace Agintor.Kernel

open Lib Core Contracts

variable {D : Type}

/-- What `_execute_operations` reads and writes of `RuntimeState`. -/
structure ExecutionState where
  artifacts : Dict String Json
  planNodeStatus : NodeStatus

/-- What the nodes of a plan do. -/
structure NodeExecutor (D : Type) where
  /-- `_node_operation_kind` -/
  operationKind : PlanNode D → String
  /-- The output of a node, from the artifacts that its arguments are taken from. -/
  output : Dict String Json → PlanNode D → Json

def NodeExecutor.blockedOutput (E : NodeExecutor D) (operation : PlanNode D) : Json :=
  .object [("error", .str "recovery_blocked"), ("node_id", .str operation.nodeId),
    ("action_kind", .str (E.operationKind operation))]

/-- The artifact of a node that was completed before. -/
def reusedArtifact (state : ExecutionState) (operation : PlanNode D) : Option Json :=
  if isCompleted state.planNodeStatus operation.nodeId then state.artifacts.get? operation.outputKey
  else none

namespace NodeExecutor

variable (E : NodeExecutor D)

/-- The body of the loop of `_execute_operations`. -/
def executeOperation (results : Dict String Json) (state : ExecutionState)
    (operation : PlanNode D) : Dict String Json × ExecutionState :=
  match reusedArtifact state operation with
  | some artifact => (results.set operation.outputKey artifact, state)
  | none =>
    if state.planNodeStatus.get? operation.nodeId = some "recovery_blocked" then
      let blockedOutput := E.blockedOutput operation
      (results.set operation.outputKey blockedOutput,
        { state with artifacts := state.artifacts.set operation.outputKey blockedOutput })
    else
      let running := state.planNodeStatus.set operation.nodeId "running"
      let output := E.output state.artifacts operation
      (results.set operation.outputKey output, {
        artifacts := state.artifacts.set operation.outputKey output
        planNodeStatus := running.set operation.nodeId "completed" })

/-- The output of a frame: the result if there is one only. -/
def outputOf (results : Dict String Json) : Json :=
  match results.entries with
  | [(_, result)] => result
  | entries => .object entries

/-- The loop of `_execute_operations`: the results and the state after it. -/
def executeEach (state : ExecutionState) (operations : List (PlanNode D)) :
    Dict String Json × ExecutionState :=
  operations.foldl (fun reached operation => E.executeOperation reached.1 reached.2 operation)
    (Dict.empty, state)

/-- `_execute_operations` -/
def executeOperations (state : ExecutionState) (operations : List (PlanNode D)) :
    Json × ExecutionState :=
  (outputOf (E.executeEach state operations).1, (E.executeEach state operations).2)

/-- `_store_output_artifacts` -/
def storeOutputArtifacts (artifacts : Dict String Json) (operations : List (PlanNode D))
    (output : Json) : Dict String Json :=
  match operations, output with
  | [operation], .object fields =>
    artifacts.set operation.outputKey (Json.getD operation.outputKey output fields)
  | [operation], _ => artifacts.set operation.outputKey output
  | _, .object fields =>
    fields.foldl (fun artifacts field => artifacts.set field.1 field.2) artifacts
  | _, _ => artifacts

/-- `_run_root_frame` in mode "single", as far as it runs nodes. -/
def runSingle (nodes : List (PlanNode D)) (state : ExecutionState) : ExecutionState :=
  (E.executeOperations state (orderedExecutionNodes nodes)).2

/-- `_run_root_frame` and its continuations in mode "horizontal", as long as no worker is launched:
the nodes that a number of rounds runs. -/
def runRounds (nodes : List (PlanNode D)) (terminalOutputKeys : List String) :
    ℕ → ExecutionState → ExecutionState
  | 0, state => state
  | rounds + 1, state =>
    match activeRunnableFrontier state.planNodeStatus nodes none with
    | [] => state
    | frontierNodes =>
      let reached := (E.executeOperations state frontierNodes).2
      -- no continuation is queued when the outputs are there or no node is left
      if allOutputsPresent terminalOutputKeys reached.artifacts = true ∨
          remainingOps reached.planNodeStatus nodes = [] then reached
      else runRounds nodes terminalOutputKeys rounds reached

/-- `_run_execution_plan` at a child frame. -/
def runChildFrame (state : ExecutionState) (operations : List (PlanNode D)) : ExecutionState :=
  let executed := E.executeOperations state operations
  { executed.2 with
    artifacts := storeOutputArtifacts executed.2.artifacts operations executed.1 }

/-- `_run_execution_plan` over the child frames of mode "vertical". -/
def runVertical (frames : List (List (PlanNode D))) (state : ExecutionState) : ExecutionState :=
  frames.foldl E.runChildFrame state

end NodeExecutor

/-- The same artifacts and the same node statuses, in whatever order. -/
def SameOutcome (state other : ExecutionState) : Prop :=
  (∀ key, state.artifacts.get? key = other.artifacts.get? key) ∧
    ∀ nodeId, state.planNodeStatus.get? nodeId = other.planNodeStatus.get? nodeId

end Agintor.Kernel
