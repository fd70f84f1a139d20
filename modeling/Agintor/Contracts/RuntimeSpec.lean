import Agintor.Core.JsonRecord

/-!
# Runtime specs

The models of `contracts/runtime_spec.py`: agents, a graph of nodes, tools and policies. Each is
dumped as JSON (`model_dump(mode="json")`, with or without `exclude_none`) and read back by its
validator. The digest of a spec hashes its dump without a few keys, at any depth.
-/

namespace Agintor.Contracts.Spec

open Lib Core Json

/-- The fields of a `dict[str, Any]`. -/
abbrev Fields := List (String × Json)

def strings (xs : List String) : Json := .array (xs.map .str)

/-- An optional field. -/
def optional (excludeNone : Bool) (key : String) : Option String → Fields
  | some value => [(key, .str value)]
  | none => if excludeNone then [] else [(key, .null)]

/-- `{xs}` of a list of texts without quotes. -/
def listText (xs : List String) : String := "[" ++ ", ".intercalate (xs.map quoted) ++ "]"

/-! ## Prompts and agents -/

inductive RuntimeScope
  | top
  | mem
  | tool
  | ctl
deriving DecidableEq

def RuntimeScope.name : RuntimeScope → String
  | .top => "top"
  | .mem => "mem"
  | .tool => "tool"
  | .ctl => "ctl"

def RuntimeScope.members : List RuntimeScope := [.top, .mem, .tool, .ctl]

def RuntimeScope.read : Json → Except ValidationError RuntimeScope := readLiteral name members

structure PromptSpec where
  system : String
  developer : String
  taskTemplate : String
  outputInstructions : String
  metadata : Fields

def PromptSpec.default : PromptSpec where
  system := ""
  developer := ""
  taskTemplate := "{prompt}"
  outputInstructions := "Return the requested answer."
  metadata := []

def PromptSpec.fields (prompt : PromptSpec) : Fields :=
  [("system", .str prompt.system),
    ("developer", .str prompt.developer),
    ("task_template", .str prompt.taskTemplate),
    ("output_instructions", .str prompt.outputInstructions),
    ("metadata", .object prompt.metadata)]

def PromptSpec.fieldNames : List String :=
  ["system", "developer", "task_template", "output_instructions", "metadata"]

def PromptSpec.read (value : Json) : Except ValidationError PromptSpec := do
  let fields ← readObject fieldNames value
  let system ← readField "system" readStr (some default.system) fields
  let developer ← readField "developer" readStr (some default.developer) fields
  let taskTemplate ← readField "task_template" readStr (some default.taskTemplate) fields
  let outputInstructions ←
    readField "output_instructions" readStr (some default.outputInstructions) fields
  let metadata ← readField "metadata" readDict (some []) fields
  return ⟨system, developer, taskTemplate, outputInstructions, metadata⟩

/-- `validate_agent` -/
def agentCheck (agentId : String) (maxTurns : ℤ) : Except ValidationError Unit := do
  raiseIf (strip agentId = "") (.value "agent_id may not be empty")
  raiseIf (maxTurns < 1) (.value "agent max_turns must be >= 1")

structure AgentSpec where
  agentId : String
  role : String
  description : String
  prompt : PromptSpec
  modelPolicyId : String
  toolIds : List String
  memoryPolicyId : String
  maxTurns : ℤ
  temperature : FloatValue
  scope : List RuntimeScope
  metadata : Fields
  valid : agentCheck agentId maxTurns = .ok ()

def AgentSpec.fields (agent : AgentSpec) : Fields :=
  [("agent_id", .str agent.agentId),
    ("role", .str agent.role),
    ("description", .str agent.description),
    ("prompt", .object agent.prompt.fields),
    ("model_policy_id", .str agent.modelPolicyId),
    ("tool_ids", strings agent.toolIds),
    ("memory_policy_id", .str agent.memoryPolicyId),
    ("max_turns", .int agent.maxTurns),
    ("temperature", agent.temperature.toJson),
    ("scope", .array (agent.scope.map fun scope => .str scope.name)),
    ("metadata", .object agent.metadata)]

def AgentSpec.fieldNames : List String :=
  ["agent_id", "role", "description", "prompt", "model_policy_id", "tool_ids", "memory_policy_id",
    "max_turns", "temperature", "scope", "metadata"]

def AgentSpec.read (L : LaxMode) (value : Json) : Except ValidationError AgentSpec := do
  let fields ← readObject fieldNames value
  let agentId ← readField "agent_id" readStr none fields
  let role ← readField "role" readStr none fields
  let description ← readField "description" readStr (some "") fields
  let prompt ← readField "prompt" PromptSpec.read (some .default) fields
  let modelPolicyId ← readField "model_policy_id" readStr (some "default") fields
  let toolIds ← readField "tool_ids" (readList readStr) (some []) fields
  let memoryPolicyId ← readField "memory_policy_id" readStr (some "default") fields
  let maxTurns ← readField "max_turns" (readLax L.int) (some 1) fields
  let temperature ← readField "temperature" (readLax L.float) (some (.finite 0)) fields
  let scope ← readField "scope" (readList RuntimeScope.read) (some [.top]) fields
  let metadata ← readField "metadata" readDict (some []) fields
  withResult (agentCheck agentId maxTurns) fun _ valid =>
    .ok ⟨agentId, role, description, prompt, modelPolicyId, toolIds, memoryPolicyId, maxTurns,
      temperature, scope, metadata, valid⟩

/-! ## The graph -/

inductive NodeType
  | agent
  | router
  | tool
  | memory
  | merge
  | verify
  | directResponse
  | builtin
  | serviceAction
  | repoPatch
deriving DecidableEq

def NodeType.name : NodeType → String
  | .agent => "agent"
  | .router => "router"
  | .tool => "tool"
  | .memory => "memory"
  | .merge => "merge"
  | .verify => "verify"
  | .directResponse => "direct_response"
  | .builtin => "builtin"
  | .serviceAction => "service_action"
  | .repoPatch => "repo_patch"

def NodeType.members : List NodeType :=
  [.agent, .router, .tool, .memory, .merge, .verify, .directResponse, .builtin, .serviceAction,
    .repoPatch]

/-- Whether an optional text is neither `None` nor empty. -/
def given (text : Option String) : Bool := text.getD "" ≠ ""

/-- `validate_node` -/
def nodeCheck (nodeId : String) (nodeType : NodeType) (agentId toolId : Option String) :
    Except ValidationError Unit := do
  raiseIf (strip nodeId = "") (.value "graph node_id may not be empty")
  raiseIf (nodeType = .agent ∧ given agentId = false)
    (.value ("agent node " ++ quoted nodeId ++ " requires agent_id"))
  raiseIf (nodeType = .tool ∧ given toolId = false)
    (.value ("tool node " ++ quoted nodeId ++ " requires tool_id"))

structure GraphNodeSpec where
  nodeId : String
  nodeType : NodeType
  agentId : Option String
  toolId : Option String
  description : String
  inputKeys : List String
  outputKey : String
  staticArgs : Fields
  condition : String
  externallyVisible : Bool
  metadata : Fields
  valid : nodeCheck nodeId nodeType agentId toolId = .ok ()

def GraphNodeSpec.fields (excludeNone : Bool) (node : GraphNodeSpec) : Fields :=
  [("node_id", .str node.nodeId), ("node_type", .str node.nodeType.name)] ++
  optional excludeNone "agent_id" node.agentId ++
  optional excludeNone "tool_id" node.toolId ++
  [("description", .str node.description),
    ("input_keys", strings node.inputKeys),
    ("output_key", .str node.outputKey),
    ("static_args", .object node.staticArgs),
    ("condition", .str node.condition),
    ("externally_visible", .bool node.externallyVisible),
    ("metadata", .object node.metadata)]

def GraphNodeSpec.fieldNames : List String :=
  ["node_id", "node_type", "agent_id", "tool_id", "description", "input_keys", "output_key",
    "static_args", "condition", "externally_visible", "metadata"]

def GraphNodeSpec.read (L : LaxMode) (value : Json) : Except ValidationError GraphNodeSpec := do
  let fields ← readObject fieldNames value
  let nodeId ← readField "node_id" readStr none fields
  let nodeType ← readField "node_type" (readLiteral NodeType.name NodeType.members) none fields
  let agentId ← readField "agent_id" readOptionalStr (some none) fields
  let toolId ← readField "tool_id" readOptionalStr (some none) fields
  let description ← readField "description" readStr (some "") fields
  let inputKeys ← readField "input_keys" (readList readStr) (some []) fields
  let outputKey ← readField "output_key" readStr (some "") fields
  let staticArgs ← readField "static_args" readDict (some []) fields
  let condition ← readField "condition" readStr (some "always") fields
  let externallyVisible ← readField "externally_visible" (readLax L.bool) (some true) fields
  let metadata ← readField "metadata" readDict (some []) fields
  withResult (nodeCheck nodeId nodeType agentId toolId) fun _ valid =>
    .ok ⟨nodeId, nodeType, agentId, toolId, description, inputKeys, outputKey, staticArgs, condition,
      externallyVisible, metadata, valid⟩

structure GraphEdgeSpec where
  source : String
  target : String
  condition : String
  priority : ℤ
  metadata : Fields

def GraphEdgeSpec.fields (edge : GraphEdgeSpec) : Fields :=
  [("source", .str edge.source),
    ("target", .str edge.target),
    ("condition", .str edge.condition),
    ("priority", .int edge.priority),
    ("metadata", .object edge.metadata)]

def GraphEdgeSpec.fieldNames : List String :=
  ["source", "target", "condition", "priority", "metadata"]

def GraphEdgeSpec.read (L : LaxMode) (value : Json) : Except ValidationError GraphEdgeSpec := do
  let fields ← readObject fieldNames value
  let source ← readField "source" readStr none fields
  let target ← readField "target" readStr none fields
  let condition ← readField "condition" readStr (some "always") fields
  let priority ← readField "priority" (readLax L.int) (some 0) fields
  let metadata ← readField "metadata" readDict (some []) fields
  return ⟨source, target, condition, priority, metadata⟩

/-- `validate_graph` -/
def graphCheck (entryNode : String) (terminalNodes : List String) (nodes : List GraphNodeSpec)
    (edges : List GraphEdgeSpec) : Except ValidationError Unit := do
  let nodeIds := nodes.map (·.nodeId)
  raiseIf (¬nodeIds.Nodup) (.value "graph node_id values must be unique")
  raiseIf (entryNode ∉ nodeIds)
    (.value ("entry_node " ++ quoted entryNode ++ " is not present in graph nodes"))
  let missingTerminals := sortedUnique (terminalNodes.filter (· ∉ nodeIds))
  raiseIf (missingTerminals ≠ [])
    (.value ("terminal_nodes missing from graph: " ++ listText missingTerminals))
  edges.forM fun edge => do
    raiseIf (edge.source ∉ nodeIds)
      (.value ("edge source " ++ quoted edge.source ++ " is not present in graph nodes"))
    raiseIf (edge.target ∉ nodeIds)
      (.value ("edge target " ++ quoted edge.target ++ " is not present in graph nodes"))

structure GraphSpec where
  graphId : String
  entryNode : String
  terminalNodes : List String
  nodes : List GraphNodeSpec
  edges : List GraphEdgeSpec
  metadata : Fields
  valid : graphCheck entryNode terminalNodes nodes edges = .ok ()

/-- The dump of a graph, whose lists may hold unvalidated copies. -/
def graphFields (graphId entryNode : String) (terminalNodes : List String)
    (nodes edges : List Json) (metadata : Fields) : Fields :=
  [("graph_id", .str graphId),
    ("entry_node", .str entryNode),
    ("terminal_nodes", strings terminalNodes),
    ("nodes", .array nodes),
    ("edges", .array edges),
    ("metadata", .object metadata)]

def GraphSpec.fields (excludeNone : Bool) (graph : GraphSpec) : Fields :=
  graphFields graph.graphId graph.entryNode graph.terminalNodes
    (graph.nodes.map fun node => .object (node.fields excludeNone))
    (graph.edges.map fun edge => .object edge.fields) graph.metadata

def GraphSpec.fieldNames : List String :=
  ["graph_id", "entry_node", "terminal_nodes", "nodes", "edges", "metadata"]

def GraphSpec.read (L : LaxMode) (value : Json) : Except ValidationError GraphSpec := do
  let fields ← readObject fieldNames value
  let graphId ← readField "graph_id" readStr (some "main") fields
  let entryNode ← readField "entry_node" readStr none fields
  let terminalNodes ← readField "terminal_nodes" (readList readStr) (some []) fields
  let nodes ← readField "nodes" (readList (GraphNodeSpec.read L)) (some []) fields
  let edges ← readField "edges" (readList (GraphEdgeSpec.read L)) (some []) fields
  let metadata ← readField "metadata" readDict (some []) fields
  withResult (graphCheck entryNode terminalNodes nodes edges) fun _ valid =>
    .ok ⟨graphId, entryNode, terminalNodes, nodes, edges, metadata, valid⟩

/-! ## Tools and policies -/

inductive SideEffectKind
  | none
  | filesystemWrite
  | serviceAction
  | repoPatch

def SideEffectKind.name : SideEffectKind → String
  | .none => "none"
  | .filesystemWrite => "filesystem_write"
  | .serviceAction => "service_action"
  | .repoPatch => "repo_patch"

def SideEffectKind.members : List SideEffectKind :=
  [.none, .filesystemWrite, .serviceAction, .repoPatch]

inductive AuthorityBoundary
  | runtime
  | host
  | sealedValidator
deriving DecidableEq

def AuthorityBoundary.name : AuthorityBoundary → String
  | .runtime => "runtime"
  | .host => "host"
  | .sealedValidator => "sealed_validator"

def AuthorityBoundary.members : List AuthorityBoundary := [.runtime, .host, .sealedValidator]

structure ToolSpec where
  toolId : String
  name : String
  family : String
  description : String
  inputSchema : Fields
  outputSchema : Fields
  runtimeVisible : Bool
  sideEffectKind : SideEffectKind
  authorityBoundary : AuthorityBoundary
  metadata : Fields

def ToolSpec.fields (tool : ToolSpec) : Fields :=
  [("tool_id", .str tool.toolId),
    ("name", .str tool.name),
    ("family", .str tool.family),
    ("description", .str tool.description),
    ("input_schema", .object tool.inputSchema),
    ("output_schema", .object tool.outputSchema),
    ("runtime_visible", .bool tool.runtimeVisible),
    ("side_effect_kind", .str tool.sideEffectKind.name),
    ("authority_boundary", .str tool.authorityBoundary.name),
    ("metadata", .object tool.metadata)]

def ToolSpec.fieldNames : List String :=
  ["tool_id", "name", "family", "description", "input_schema", "output_schema", "runtime_visible",
    "side_effect_kind", "authority_boundary", "metadata"]

def ToolSpec.read (L : LaxMode) (value : Json) : Except ValidationError ToolSpec := do
  let fields ← readObject fieldNames value
  let toolId ← readField "tool_id" readStr none fields
  let name ← readField "name" readStr none fields
  let family ← readField "family" readStr none fields
  let description ← readField "description" readStr (some "") fields
  let inputSchema ← readField "input_schema" readDict (some []) fields
  let outputSchema ← readField "output_schema" readDict (some []) fields
  let runtimeVisible ← readField "runtime_visible" (readLax L.bool) (some true) fields
  let sideEffectKind ← readField "side_effect_kind"
    (readLiteral SideEffectKind.name SideEffectKind.members) (some .none) fields
  let authorityBoundary ← readField "authority_boundary"
    (readLiteral AuthorityBoundary.name AuthorityBoundary.members) (some .runtime) fields
  let metadata ← readField "metadata" readDict (some []) fields
  return ⟨toolId, name, family, description, inputSchema, outputSchema, runtimeVisible,
    sideEffectKind, authorityBoundary, metadata⟩

structure ModelPolicy where
  modelPolicyId : String
  providerName : String
  modelClass : String
  temperature : FloatValue
  maxOutputTokens : ℤ
  fallbackModelPolicyIds : List String
  metadata : Fields

/-- The policy that a spec has when it names none. -/
def ModelPolicy.default : ModelPolicy :=
  ⟨"default", "runtime_provider", "small", .finite 0, 1024, [], []⟩

def ModelPolicy.fields (model : ModelPolicy) : Fields :=
  [("model_policy_id", .str model.modelPolicyId),
    ("provider_name", .str model.providerName),
    ("model_class", .str model.modelClass),
    ("temperature", model.temperature.toJson),
    ("max_output_tokens", .int model.maxOutputTokens),
    ("fallback_model_policy_ids", strings model.fallbackModelPolicyIds),
    ("metadata", .object model.metadata)]

def ModelPolicy.fieldNames : List String :=
  ["model_policy_id", "provider_name", "model_class", "temperature", "max_output_tokens",
    "fallback_model_policy_ids", "metadata"]

def ModelPolicy.read (L : LaxMode) (value : Json) : Except ValidationError ModelPolicy := do
  let fields ← readObject fieldNames value
  let modelPolicyId ← readField "model_policy_id" readStr none fields
  let providerName ← readField "provider_name" readStr (some "runtime_provider") fields
  let modelClass ← readField "model_class" readStr (some "small") fields
  let temperature ← readField "temperature" (readLax L.float) (some (.finite 0)) fields
  let maxOutputTokens ← readField "max_output_tokens" (readLax L.int) (some 1024) fields
  let fallbackModelPolicyIds ←
    readField "fallback_model_policy_ids" (readList readStr) (some []) fields
  let metadata ← readField "metadata" readDict (some []) fields
  return ⟨modelPolicyId, providerName, modelClass, temperature, maxOutputTokens,
    fallbackModelPolicyIds, metadata⟩

inductive MemoryMode
  | none
  | episodic
  | vector
  | graph

def MemoryMode.name : MemoryMode → String
  | .none => "none"
  | .episodic => "episodic"
  | .vector => "vector"
  | .graph => "graph"

def MemoryMode.members : List MemoryMode := [.none, .episodic, .vector, .graph]

structure MemoryPolicy where
  memoryPolicyId : String
  mode : MemoryMode
  readScopes : List String
  writeScopes : List String
  retentionPolicy : Fields
  metadata : Fields

def MemoryPolicy.default : MemoryPolicy := ⟨"default", .none, [], [], [], []⟩

def MemoryPolicy.fields (memory : MemoryPolicy) : Fields :=
  [("memory_policy_id", .str memory.memoryPolicyId),
    ("mode", .str memory.mode.name),
    ("read_scopes", strings memory.readScopes),
    ("write_scopes", strings memory.writeScopes),
    ("retention_policy", .object memory.retentionPolicy),
    ("metadata", .object memory.metadata)]

def MemoryPolicy.fieldNames : List String :=
  ["memory_policy_id", "mode", "read_scopes", "write_scopes", "retention_policy", "metadata"]

def MemoryPolicy.read (value : Json) : Except ValidationError MemoryPolicy := do
  let fields ← readObject fieldNames value
  let memoryPolicyId ← readField "memory_policy_id" readStr (some "default") fields
  let mode ← readField "mode" (readLiteral MemoryMode.name MemoryMode.members) (some .none) fields
  let readScopes ← readField "read_scopes" (readList readStr) (some []) fields
  let writeScopes ← readField "write_scopes" (readList readStr) (some []) fields
  let retentionPolicy ← readField "retention_policy" readDict (some []) fields
  let metadata ← readField "metadata" readDict (some []) fields
  return ⟨memoryPolicyId, mode, readScopes, writeScopes, retentionPolicy, metadata⟩

inductive SideEffectPolicy
  | disallow
  | receiptRequired
  | hostGated

def SideEffectPolicy.name : SideEffectPolicy → String
  | .disallow => "disallow"
  | .receiptRequired => "receipt_required"
  | .hostGated => "host_gated"

def SideEffectPolicy.members : List SideEffectPolicy := [.disallow, .receiptRequired, .hostGated]

structure ExecutionPolicy where
  maxSteps : ℤ
  maxModelCalls : ℤ
  maxToolCalls : ℤ
  maxLatencyS : FloatValue
  maxCost : FloatValue
  allowBranching : Bool
  allowParallel : Bool
  failClosedOnUnknownNode : Bool
  sideEffectPolicy : SideEffectPolicy
  metadata : Fields

def ExecutionPolicy.default : ExecutionPolicy :=
  ⟨16, 8, 8, .finite 120, .finite 10, true, false, true, .receiptRequired, []⟩

def ExecutionPolicy.fields (execution : ExecutionPolicy) : Fields :=
  [("max_steps", .int execution.maxSteps),
    ("max_model_calls", .int execution.maxModelCalls),
    ("max_tool_calls", .int execution.maxToolCalls),
    ("max_latency_s", execution.maxLatencyS.toJson),
    ("max_cost", execution.maxCost.toJson),
    ("allow_branching", .bool execution.allowBranching),
    ("allow_parallel", .bool execution.allowParallel),
    ("fail_closed_on_unknown_node", .bool execution.failClosedOnUnknownNode),
    ("side_effect_policy", .str execution.sideEffectPolicy.name),
    ("metadata", .object execution.metadata)]

def ExecutionPolicy.fieldNames : List String :=
  ["max_steps", "max_model_calls", "max_tool_calls", "max_latency_s", "max_cost", "allow_branching",
    "allow_parallel", "fail_closed_on_unknown_node", "side_effect_policy", "metadata"]

def ExecutionPolicy.read (L : LaxMode) (value : Json) :
    Except ValidationError ExecutionPolicy := do
  let fields ← readObject fieldNames value
  let maxSteps ← readField "max_steps" (readLax L.int) (some 16) fields
  let maxModelCalls ← readField "max_model_calls" (readLax L.int) (some 8) fields
  let maxToolCalls ← readField "max_tool_calls" (readLax L.int) (some 8) fields
  let maxLatencyS ← readField "max_latency_s" (readLax L.float) (some (.finite 120)) fields
  let maxCost ← readField "max_cost" (readLax L.float) (some (.finite 10)) fields
  let allowBranching ← readField "allow_branching" (readLax L.bool) (some true) fields
  let allowParallel ← readField "allow_parallel" (readLax L.bool) (some false) fields
  let failClosedOnUnknownNode ←
    readField "fail_closed_on_unknown_node" (readLax L.bool) (some true) fields
  let sideEffectPolicy ← readField "side_effect_policy"
    (readLiteral SideEffectPolicy.name SideEffectPolicy.members) (some .receiptRequired) fields
  let metadata ← readField "metadata" readDict (some []) fields
  return ⟨maxSteps, maxModelCalls, maxToolCalls, maxLatencyS, maxCost, allowBranching,
    allowParallel, failClosedOnUnknownNode, sideEffectPolicy, metadata⟩

structure TracingPolicy where
  traceRuntimeState : Bool
  traceGraphEvents : Bool
  traceModelCalls : Bool
  traceToolCalls : Bool
  redactKeys : List String
  metadata : Fields

def TracingPolicy.default : TracingPolicy := ⟨true, true, true, true, [], []⟩

def TracingPolicy.fields (tracing : TracingPolicy) : Fields :=
  [("trace_runtime_state", .bool tracing.traceRuntimeState),
    ("trace_graph_events", .bool tracing.traceGraphEvents),
    ("trace_model_calls", .bool tracing.traceModelCalls),
    ("trace_tool_calls", .bool tracing.traceToolCalls),
    ("redact_keys", strings tracing.redactKeys),
    ("metadata", .object tracing.metadata)]

def TracingPolicy.fieldNames : List String :=
  ["trace_runtime_state", "trace_graph_events", "trace_model_calls", "trace_tool_calls",
    "redact_keys", "metadata"]

def TracingPolicy.read (L : LaxMode) (value : Json) : Except ValidationError TracingPolicy := do
  let fields ← readObject fieldNames value
  let traceRuntimeState ← readField "trace_runtime_state" (readLax L.bool) (some true) fields
  let traceGraphEvents ← readField "trace_graph_events" (readLax L.bool) (some true) fields
  let traceModelCalls ← readField "trace_model_calls" (readLax L.bool) (some true) fields
  let traceToolCalls ← readField "trace_tool_calls" (readLax L.bool) (some true) fields
  let redactKeys ← readField "redact_keys" (readList readStr) (some []) fields
  let metadata ← readField "metadata" readDict (some []) fields
  return ⟨traceRuntimeState, traceGraphEvents, traceModelCalls, traceToolCalls, redactKeys,
    metadata⟩

/-- An entry of the mutation history. -/
structure MutationActionRef where
  actionId : String
  actionType : String
  parentSpecDigest : String
  childSpecDigest : String
  createdAt : FloatValue
  metadata : Fields

def MutationActionRef.fields (ref : MutationActionRef) : Fields :=
  [("action_id", .str ref.actionId),
    ("action_type", .str ref.actionType),
    ("parent_spec_digest", .str ref.parentSpecDigest),
    ("child_spec_digest", .str ref.childSpecDigest),
    ("created_at", ref.createdAt.toJson),
    ("metadata", .object ref.metadata)]

def MutationActionRef.fieldNames : List String :=
  ["action_id", "action_type", "parent_spec_digest", "child_spec_digest", "created_at", "metadata"]

def MutationActionRef.read (L : LaxMode) (now : FloatValue) (value : Json) :
    Except ValidationError MutationActionRef := do
  let fields ← readObject fieldNames value
  let actionId ← readField "action_id" readStr none fields
  let actionType ← readField "action_type" readStr none fields
  let parentSpecDigest ← readField "parent_spec_digest" readStr (some "") fields
  let childSpecDigest ← readField "child_spec_digest" readStr (some "") fields
  let createdAt ← readField "created_at" (readLax L.float) (some now) fields
  let metadata ← readField "metadata" readDict (some []) fields
  return ⟨actionId, actionType, parentSpecDigest, childSpecDigest, createdAt, metadata⟩

end Agintor.Contracts.Spec
