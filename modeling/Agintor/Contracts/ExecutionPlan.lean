import Agintor.Lib.DepthFirst
import Agintor.Contracts.TraceContext

/-!
# Execution plans

`PlanNode` and `ExecutionPlan` of `contracts/execution.py`, with the checks of
`validate_execution_plan`. What an operation's own node declares (arguments, bindings, tools) is a
parameter `D`, with the checks of its kind, and so are the fields `P` of a plan that no check reads.
-/

namespace Agintor.Contracts

open Lib Core

inductive PlanNodeKind
  | builtinOp
  | memoryLookup
  | toolCall
  | toolSynthesis
  | directResponse
  | repoPatch
  | serviceAction
  | merge
  | verify
deriving DecidableEq, Repr

def PlanNodeKind.name : PlanNodeKind → String
  | .builtinOp => "builtin_op"
  | .memoryLookup => "memory_lookup"
  | .toolCall => "tool_call"
  | .toolSynthesis => "tool_synthesis"
  | .directResponse => "direct_response"
  | .repoPatch => "repo_patch"
  | .serviceAction => "service_action"
  | .merge => "merge"
  | .verify => "verify"

inductive ValidationTag
  | toolLike
  | repoPatch
  | serviceAction
  | merge
  | verify
deriving DecidableEq, Repr

structure PlanNodeDescriptor where
  valueProducing : Bool := true
  branchable : Bool := false
  validationTags : List ValidationTag := []
deriving DecidableEq, Repr

/-- `PLAN_NODE_DESCRIPTOR_REGISTRY` -/
def getPlanNodeDescriptor : PlanNodeKind → PlanNodeDescriptor
  | .builtinOp => { branchable := true }
  | .memoryLookup => { branchable := true }
  | .toolCall => { branchable := true, validationTags := [.toolLike] }
  | .toolSynthesis => { branchable := true, validationTags := [.toolLike] }
  | .directResponse => { branchable := true }
  | .repoPatch => { branchable := true, validationTags := [.repoPatch] }
  | .serviceAction => { branchable := true, validationTags := [.serviceAction] }
  | .merge => { validationTags := [.merge] }
  | .verify => { valueProducing := false, validationTags := [.verify] }

structure ArtifactContract where
  taskId : String
  taskType : String
  outputKeys : List String
  family : String
deriving DecidableEq, Repr

/-- The metadata of the nodes that compilation adds. -/
structure NodeMetadata where
  consumesBranchGroup : String := ""
  consumesNodeIds : List String := []
  memberOutputKeys : List String := []
  verifierType : String := ""
  artifactContract : Option ArtifactContract := none
  terminalOutputKeys : List String := []
deriving DecidableEq, Repr

structure PlanNode (D : Type) where
  nodeId : String
  opId : String := ""
  nodeKind : PlanNodeKind
  instruction : String
  kind : String := ""
  description : String := ""
  outputKey : String
  dependencies : List String := []
  verificationRequired : Bool := false
  externallyVisible : Bool := false
  frameRole : String := "worker"
  branchGroupId : Option String := none
  metadata : NodeMetadata := {}
  /-- What the node of an operation declares besides. -/
  operation : Option D := none
deriving DecidableEq, Repr

structure VerificationPlan where
  mode : String := "none"
  required : Bool := false
  exactVerifierRequired : Bool := false
  terminalNodes : List String := []
deriving DecidableEq, Repr

/-- The fields that identify a plan: all but the digest, the request and its trace context. -/
structure PlanContent (D P : Type) where
  planId : String
  originKind : String
  nodes : List (PlanNode D)
  rootNodeIds : List String
  terminalOutputKeys : List String
  verificationPlan : VerificationPlan
  lifecycleState : String
  rest : P
deriving DecidableEq, Repr

variable {D P : Type}

/-- `node_map` -/
def nodeById (nodes : List (PlanNode D)) (nodeId : String) : Option (PlanNode D) :=
  nodes.reverse.find? fun node => node.nodeId = nodeId

def planNodeIds (nodes : List (PlanNode D)) : List String := nodes.map (·.nodeId)

def dependenciesOf (nodes : List (PlanNode D)) (nodeId : String) : List String :=
  ((nodeById nodes nodeId).map (·.dependencies)).getD []

/-- A group id that counts: `if node.branch_group_id`. -/
def PlanNode.group? (node : PlanNode D) : Option String := node.branchGroupId.filter (· ≠ "")

/-! ## The checks of single nodes -/

/-- `_validate_merge_node` -/
def validateMergeNode (node : PlanNode D) (nodes : List (PlanNode D)) : Except String Unit := do
  let branchGroup := strip node.metadata.consumesBranchGroup
  let consumesNodeIds := (node.metadata.consumesNodeIds.map strip).filter (· ≠ "")
  raiseIf (branchGroup = "")
    s!"merge node {quoted node.nodeId} must declare metadata.consumes_branch_group"
  let members :=
    planNodeIds (nodes.filter fun candidate => candidate.branchGroupId = some branchGroup)
  raiseIf (members = [])
    s!"merge node {quoted node.nodeId} references unknown branch group {quoted branchGroup}"
  raiseIf (node.dependencies ≠ members)
    (s!"merge node {quoted node.nodeId} must depend on every member of " ++
      s!"branch group {quoted branchGroup}")
  raiseIf (consumesNodeIds ≠ [] ∧ consumesNodeIds ≠ members)
    s!"merge node {quoted node.nodeId} consumes_node_ids must match branch-group members"

/-- `_validate_verify_node` -/
def validateVerifyNode (node : PlanNode D) (nodes : List (PlanNode D))
    (terminalOutputKeys : List String) : Except String Unit := do
  raiseIf (node.dependencies = [])
    s!"verify node {quoted node.nodeId} must depend on at least one value-producing node"
  raiseIf (strip node.outputKey ∈ terminalOutputKeys)
    s!"verify node {quoted node.nodeId} may not produce a terminal output key"
  node.dependencies.forM fun dependencyId =>
    match nodeById nodes dependencyId with
    | none => .error s!"KeyError: {quoted dependencyId}"
    | some dependencyNode =>
      raiseIf (!(getPlanNodeDescriptor dependencyNode.nodeKind).valueProducing)
        (s!"verify node {quoted node.nodeId} must depend only on value-producing nodes, " ++
          s!"found {quoted dependencyNode.nodeKind.name}")

/-- `PLAN_NODE_VALIDATION_HOOKS`. The hooks of operations' nodes read what these declare. -/
def validationHook (operationHook : PlanNode D → Except String Unit) (content : PlanContent D P)
    (node : PlanNode D) : ValidationTag → Except String Unit
  | .merge => validateMergeNode node content.nodes
  | .verify => validateVerifyNode node content.nodes content.terminalOutputKeys
  | _ => operationHook node

def validateNode (operationHook : PlanNode D → Except String Unit) (content : PlanContent D P)
    (node : PlanNode D) : Except String Unit := do
  let descriptor := getPlanNodeDescriptor node.nodeKind
  node.dependencies.forM fun dep => raiseIf (dep ∉ planNodeIds content.nodes)
    s!"execution plan dependency {quoted dep} for node {quoted node.nodeId} does not exist"
  raiseIf (node.group? ≠ none ∧ !descriptor.branchable)
    (s!"execution plan node {quoted node.nodeId} of kind {quoted node.nodeKind.name} " ++
      "may not declare branch_group_id")
  descriptor.validationTags.forM (validationHook operationHook content node)

/-! ## The checks of the graph -/

/-- `visit` of every node. -/
def checkAcyclic (nodes : List (PlanNode D)) : Except String (List String) :=
  (planNodeIds nodes).foldlM (visit (dependenciesOf nodes) "execution plan graph must be acyclic"
    (nodes.length + 1) []) []

/-- The nodes that depend on a node. -/
def consumersOf (nodes : List (PlanNode D)) (nodeId : String) : List String :=
  planNodeIds (nodes.filter fun child => nodeId ∈ child.dependencies)

/-- `reachable` -/
def reachableIds (content : PlanContent D P) : List String :=
  content.rootNodeIds.foldl (mark (consumersOf content.nodes) (content.nodes.length + 1)) []

/-- `produced_outputs`: the reachable value-producing nodes, by output key. -/
def producedOutputs (content : PlanContent D P) : Except String (List (String × PlanNode D)) :=
  (content.nodes.filter fun node =>
      node.nodeId ∈ reachableIds content ∧ strip node.outputKey ≠ "" ∧
        (getPlanNodeDescriptor node.nodeKind).valueProducing).foldlM
    (fun produced node =>
      if node.outputKey ∈ produced.map Prod.fst then
        .error s!"duplicate execution plan output_key {quoted node.outputKey} is not allowed"
      else .ok (produced ++ [(node.outputKey, node)])) []

def checkTerminalKey (produced : List (String × PlanNode D)) (terminalKey : String) :
    Except String Unit :=
  match produced.find? fun entry => entry.1 = terminalKey with
  | none =>
    .error (s!"terminal output key {quoted terminalKey} is not produced by a reachable " ++
      "value-producing node")
  | some producer => raiseIf (producer.2.nodeKind = .verify)
      s!"terminal output key {quoted terminalKey} may not be produced by a verify node"

/-- The members of a branch group have identical dependencies. -/
def checkBranchGroup (nodes : List (PlanNode D)) (branchGroupId : String) : Except String Unit :=
  let signatures := (nodes.filter fun node => node.group? = some branchGroupId).map (·.dependencies)
  raiseIf (1 < signatures.dedup.length)
    (s!"branch group {quoted branchGroupId} must be reachable from one live frontier " ++
      "with identical dependencies")

/-- `validate_execution_plan`, but for the digest. -/
def validateContent (operationHook : PlanNode D → Except String Unit) (content : PlanContent D P) :
    Except String Unit := do
  raiseIf (¬(planNodeIds content.nodes).Nodup) "execution plan node_id values must be unique"
  content.rootNodeIds.forM fun rootId => raiseIf (rootId ∉ planNodeIds content.nodes)
    s!"execution plan root node {quoted rootId} does not exist"
  content.verificationPlan.terminalNodes.forM fun terminalId =>
    raiseIf (terminalId ∉ planNodeIds content.nodes)
      s!"verification terminal node {quoted terminalId} does not exist"
  content.nodes.forM (validateNode operationHook content)
  let _ ← checkAcyclic content.nodes
  let produced ← producedOutputs content
  content.terminalOutputKeys.forM (checkTerminalKey produced)
  (content.nodes.filterMap (·.group?)).dedup.forM (checkBranchGroup content.nodes)
  raiseIf ((content.verificationPlan.required ∨ content.verificationPlan.exactVerifierRequired) ∧
      ∀ node ∈ content.nodes, node.nodeKind ≠ .verify)
    "execution plan requires an explicit verify node when terminal verification is required"

/-! ## Plans -/

/-- A plan as it is dumped, with a digest in `K` or none. The trace context is a dictionary. -/
structure PlanSnapshot (D P K : Type) where
  planDigest : Option K
  requestId : String
  traceContext : Option (List (String × Json))
  content : PlanContent D P

structure ExecutionPlan (D P K : Type) where
  planDigest : K
  requestId : String
  traceContext : Option OpenAITraceContext
  content : PlanContent D P

/-- What the validation of a plan needs besides the plan. -/
structure PlanValidation (D P K : Type) where
  lax : LaxMode
  operationHook : PlanNode D → Except String Unit
  stableHash : PlanContent D P → K

variable {K : Type}

/-- `model_dump` -/
def ExecutionPlan.modelDump (plan : ExecutionPlan D P K) : PlanSnapshot D P K where
  planDigest := some plan.planDigest
  requestId := plan.requestId
  traceContext := plan.traceContext.map (·.fields)
  content := plan.content

/-- The validator of an optional trace context. -/
def readTraceContext (L : LaxMode) :
    Option (List (String × Json)) → Except ValidationError (Option OpenAITraceContext)
  | none => .ok none
  | some fields => (OpenAITraceContext.read L (.object fields)).map some

/-- `ExecutionPlan.model_validate`. A digest that is there is kept. -/
def PlanValidation.modelValidate (V : PlanValidation D P K) (snapshot : PlanSnapshot D P K) :
    Except ValidationError (ExecutionPlan D P K) := do
  let traceContext ← readTraceContext V.lax snapshot.traceContext
  (validateContent V.operationHook snapshot.content).mapError .value
  return {
    planDigest := snapshot.planDigest.getD (V.stableHash snapshot.content)
    requestId := snapshot.requestId
    traceContext := traceContext
    content := snapshot.content }

end Agintor.Contracts
