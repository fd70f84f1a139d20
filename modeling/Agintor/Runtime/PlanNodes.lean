import Agintor.Contracts.ExecutionPlan
import Agintor.Lib.Dict

/-!
# Compiling the nodes of a plan

`_compile_plan_nodes` of `runtime/api/plan_nodes.py`: one node for each operation of a task, branch
groups for the nodes that wait for the same dependencies, a merge node for each group, and a node
that verifies the terminal outputs. What the node of an operation declares besides is a parameter.
-/

namespace Agintor.Runtime

open Agintor.Core Agintor.Contracts Lib

/-! ## Operations -/

structure OperationSpec where
  opId : String
  kind : String
  outputKey : String
  description : String
  dependencies : List String
  externallyVisible : Bool
deriving DecidableEq

structure BenchmarkTask where
  taskId : String
  taskType : String
  family : String
  verifierType : String
  verificationRequired : Bool
  externallyVisible : Bool
  /-- `task.metadata["terminal_output_keys"]` -/
  metadataTerminalOutputKeys : List String
  operations : List OperationSpec

/-- The kinds of operations that `_operation_node_payload` knows, with the kinds of their nodes. -/
def operationNodeKinds : List (String × PlanNodeKind) :=
  [("memory_lookup", .memoryLookup), ("builtin", .builtinOp),
    ("generated_expression", .toolSynthesis), ("tool_synthesis", .toolSynthesis),
    ("direct_response", .directResponse), ("repo_patch", .repoPatch),
    ("service_action", .serviceAction), ("tool_call", .toolCall)]

/-- The kind of an operation's node, and what the node declares. -/
def operationNodePayload {D : Type} (declare : BenchmarkTask → OperationSpec → Except String D)
    (operation : OperationSpec) (task : BenchmarkTask) : Except String (PlanNodeKind × D) :=
  match operationNodeKinds.lookup (strip operation.kind).toLower with
  | none => .error s!"unsupported_operation:{operation.kind}"
  | some nodeKind => do
    let declared ← declare task operation
    return (nodeKind, declared)

/-- `PlanNode(node_id=operation.op_id, …)` -/
def operationNode {D : Type} (declare : BenchmarkTask → OperationSpec → Except String D)
    (task : BenchmarkTask) (operation : OperationSpec) : Except String (PlanNode D) := do
  let (nodeKind, declared) ← operationNodePayload declare operation task
  return {
    nodeId := operation.opId
    opId := operation.opId
    nodeKind := nodeKind
    instruction := operation.description
    kind := operation.kind
    description := operation.description
    outputKey := operation.outputKey
    dependencies := operation.dependencies
    verificationRequired := task.verificationRequired
    externallyVisible := operation.externallyVisible || task.externallyVisible
    frameRole := "worker"
    operation := some declared }

/-- `stable_hash` of the identities that are hashed here; digests are 64 hexadecimal digits. -/
structure PlanHashes where
  group : List String → List String → String
  verify : String → List String → String
  group_isDigest : ∀ signature planNodeIds, isDigest (group signature planNodeIds) = true
  verify_isDigest : ∀ taskId keys, isDigest (verify taskId keys) = true

variable {D : Type}

/-! ## Branch groups -/

def branchable (node : PlanNode D) : Bool := (getPlanNodeDescriptor node.nodeKind).branchable

/-- `frontier_groups.setdefault(tuple(node.dependencies), []).append(node)` -/
def addToFrontier (groups : Dict (List String) (List (PlanNode D))) (node : PlanNode D) :
    Dict (List String) (List (PlanNode D)) :=
  if branchable node then
    groups.set node.dependencies ((groups.get? node.dependencies).getD [] ++ [node])
  else groups

/-- `frontier_groups`: the branchable nodes, by their dependencies. -/
def frontierGroups (nodes : List (PlanNode D)) : Dict (List String) (List (PlanNode D)) :=
  nodes.foldl addToFrontier .empty

def branchGroupId (H : PlanHashes) (signature : List String) (grouped : List (PlanNode D)) :
    String :=
  "branch." ++ takeChars 12 (H.group signature (planNodeIds grouped))

/-- The frontiers of more than one node. -/
def sharedFrontiers (nodes : List (PlanNode D)) : List (List String × List (PlanNode D)) :=
  (frontierGroups nodes).entries.filter fun entry => 1 < entry.2.length

/-- `for member in members: assignments[member.node_id] = value`, for every list of members. -/
def assignMembers (members : List (String × List (PlanNode D))) : Dict String String :=
  members.foldl (fun assignments entry =>
    entry.2.foldl (fun assignments member => assignments.set member.nodeId entry.1) assignments)
    .empty

/-- The group ids of the shared frontiers, with the members. -/
def namedFrontiers (H : PlanHashes) (nodes : List (PlanNode D)) :
    List (String × List (PlanNode D)) :=
  (sharedFrontiers nodes).map fun entry => (branchGroupId H entry.1 entry.2, entry.2)

/-- `_attach_branch_groups` -/
def attachBranchGroups (H : PlanHashes) (nodes : List (PlanNode D)) :
    List (PlanNode D) × Dict String (List (PlanNode D)) :=
  let branchAssignments := assignMembers (namedFrontiers H nodes)
  let groupedMembers :=
    (namedFrontiers H nodes).foldl (fun grouped entry => grouped.set entry.1 entry.2) .empty
  (nodes.map fun node => { node with branchGroupId := branchAssignments.get? node.nodeId },
    groupedMembers)

/-! ## Merge nodes -/

def mergeNodeId (branchGroupId : String) : String := "merge." ++ branchGroupId

def mergeNode (branchGroupId : String) (members : List (PlanNode D)) : PlanNode D where
  nodeId := mergeNodeId branchGroupId
  opId := mergeNodeId branchGroupId
  nodeKind := .merge
  instruction := "Merge outputs for " ++ branchGroupId
  kind := "merge"
  description := "Deterministically merge branch group " ++ branchGroupId
  outputKey := mergeNodeId branchGroupId ++ ".output"
  dependencies := planNodeIds members
  frameRole := "merge"
  metadata := {
    consumesBranchGroup := branchGroupId
    memberOutputKeys := members.map (·.outputKey) }

/-- The dependencies with those of `extra` that are not there yet. -/
def addDependencies (dependencies extra : List String) : List String :=
  extra.foldl (fun merged dependency =>
    if dependency ∈ merged then merged else merged ++ [dependency]) dependencies

/-- A node that depends on a member also depends on the merge of its group. -/
def adjustDependencies (mergeDependencyMap : Dict String String) (node : PlanNode D) :
    PlanNode D :=
  if node.nodeKind = .merge then node
  else { node with dependencies :=
    addDependencies node.dependencies (node.dependencies.filterMap mergeDependencyMap.get?) }

/-- `_append_merge_nodes` -/
def appendMergeNodes (nodes : List (PlanNode D))
    (groupedMembers : Dict String (List (PlanNode D))) : List (PlanNode D) :=
  let mergedNodes := nodes ++ groupedMembers.entries.map fun entry => mergeNode entry.1 entry.2
  let mergeDependencyMap :=
    assignMembers (groupedMembers.entries.map fun entry => (mergeNodeId entry.1, entry.2))
  mergedNodes.map (adjustDependencies mergeDependencyMap)

/-! ## The verify node -/

/-- `producer_by_output` -/
def producerByOutput (nodes : List (PlanNode D)) (outputKey : String) : Option String :=
  (nodes.reverse.find? fun node => node.outputKey = outputKey ∧ strip node.outputKey ≠ "").map
    (·.nodeId)

/-- `merge_by_member` -/
def mergeByMember (nodes : List (PlanNode D)) (memberId : String) : Option String :=
  (nodes.reverse.find? fun node => node.nodeKind = .merge ∧ memberId ∈ node.dependencies).map
    (·.nodeId)

/-- The node to wait for until an output is there. -/
def outputDependency (nodes : List (PlanNode D)) (outputKey : String) : Option String :=
  (producerByOutput nodes outputKey).map fun producerId =>
    (mergeByMember nodes producerId).getD producerId

/-- `_terminal_dependency_node_ids` -/
def terminalDependencyNodeIds (nodes : List (PlanNode D)) (terminalOutputKeys : List String) :
    List String :=
  terminalOutputKeys.foldl (fun ordered outputKey =>
    match outputDependency nodes outputKey with
    | none => ordered
    | some dependencyId =>
      if dependencyId = "" ∨ dependencyId ∈ ordered then ordered else ordered ++ [dependencyId]) []

/-- `_task_terminal_output_keys` -/
def taskTerminalOutputKeys (task : BenchmarkTask) : List String :=
  let metadataTerminalKeys := (task.metadataTerminalOutputKeys.map strip).filter (· ≠ "")
  let visibleOutputKeys :=
    ((task.operations.filter (·.externallyVisible)).map (strip ·.outputKey)).filter (· ≠ "")
  if metadataTerminalKeys ≠ [] then metadataTerminalKeys
  else if visibleOutputKeys ≠ [] then visibleOutputKeys
  else (task.operations.map (strip ·.outputKey)).filter (· ≠ "")

def verifyNodeId (H : PlanHashes) (task : BenchmarkTask) (terminalOutputKeys : List String) :
    String :=
  "verify." ++ takeChars 12 (H.verify task.taskId terminalOutputKeys)

def verifyNode (H : PlanHashes) (task : BenchmarkTask)
    (terminalOutputKeys terminalDependencies : List String) : PlanNode D where
  nodeId := verifyNodeId H task terminalOutputKeys
  opId := verifyNodeId H task terminalOutputKeys
  nodeKind := .verify
  instruction := "Verify the terminal artifact before completion"
  kind := "verify"
  description := "Execute the terminal verification step for the produced artifact"
  outputKey := verifyNodeId H task terminalOutputKeys ++ ".status"
  dependencies := terminalDependencies
  verificationRequired := true
  frameRole := "verify"
  metadata := {
    verifierType := task.verifierType
    artifactContract := some ⟨task.taskId, task.taskType, terminalOutputKeys, task.family⟩
    terminalOutputKeys := terminalOutputKeys }

/-- `needs_verify` -/
def needsVerify (task : BenchmarkTask) : Bool :=
  let exactVerifierExists := !(["", "none"].contains (strip task.verifierType).toLower)
  task.verificationRequired || (task.externallyVisible && exactVerifierExists)

/-- `_append_verify_node` -/
def appendVerifyNode (H : PlanHashes) (nodes : List (PlanNode D)) (task : BenchmarkTask)
    (terminalOutputKeys : List String) : List (PlanNode D) :=
  let terminalDependencies := terminalDependencyNodeIds nodes terminalOutputKeys
  if needsVerify task = false ∨ terminalOutputKeys = [] ∨ terminalDependencies = [] then nodes
  else nodes ++ [verifyNode H task terminalOutputKeys terminalDependencies]

/-! ## All nodes -/

/-- The nodes of a plan, from the nodes of its operations. -/
def branchedNodes (H : PlanHashes) (task : BenchmarkTask) (terminalOutputKeys : List String)
    (nodes : List (PlanNode D)) : List (PlanNode D) :=
  let (updatedNodes, groupedMembers) := attachBranchGroups H nodes
  appendVerifyNode H (appendMergeNodes updatedNodes groupedMembers) task terminalOutputKeys

/-- `_compile_plan_nodes` -/
def compilePlanNodes (H : PlanHashes)
    (declare : BenchmarkTask → OperationSpec → Except String D) (task : BenchmarkTask) :
    Except String (List (PlanNode D)) := do
  let nodes ← task.operations.mapM (operationNode declare task)
  return branchedNodes H task (taskTerminalOutputKeys task) nodes

end Agintor.Runtime
