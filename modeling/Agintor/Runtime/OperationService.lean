import Agintor.Contracts.RuntimeSpecTheorems
import Agintor.Contracts.TraceContext

/-!
# The operations of a spec runtime

What a node of a runtime spec does to the state of a run (`runtime/langgraph/state.py` and
`RuntimeOperationService` of `runtime/langgraph/operation_service.py`). A node that raises fails
the run; every other node leaves its output in the state.
-/

namespace Agintor.Runtime

open Lib Core Json Contracts Contracts.Spec

/-! ## The state of a run -/

inductive RunStatus
  | running
  | completed
  | failed
deriving DecidableEq

def RunStatus.name : RunStatus → String
  | .running => "running"
  | .completed => "completed"
  | .failed => "failed"

def RunStatus.members : List RunStatus := [.running, .completed, .failed]

structure LangGraphRuntimeState where
  requestId : String
  taskId : String
  seed : ℤ
  prompt : String
  runtimeHash : String
  runtimeSpecDigest : String
  traceContext : Option OpenAITraceContext
  currentNodeId : String
  artifacts : Fields
  nodeResults : Fields
  trace : List Fields
  budget : Fields
  sideEffectReceipts : List Fields
  runtimeEvidenceManifest : Fields
  status : RunStatus
  error : String

structure LangGraphNodeResult where
  nodeId : String
  outputKey : String
  output : Json
  status : RunStatus

mutual

/-- `_digest_safe` of JSON: every mapping is sorted. -/
def digestSafe : Json → Json
  | .object fields => .object (sortedItems (digestSafeFields fields))
  | .array items => .array (digestSafeItems items)
  | value => value

def digestSafeFields : Fields → Fields
  | [] => []
  | (key, item) :: fields => (key, digestSafe item) :: digestSafeFields fields

def digestSafeItems : List Json → List Json
  | [] => []
  | item :: items => digestSafe item :: digestSafeItems items

end

/-! ## The environment -/

structure ModelRequest where
  instructions : String
  prompt : String
  modelClass : String
  seed : ℤ
  metadata : Fields

/-- Floating point, as a builtin node uses it: `float`, `sum` and `*`. The sum of no numbers is an
integer. -/
structure FloatArithmetic where
  float : Json → Except String FloatValue
  sum : List FloatValue → Json
  mul : FloatValue → FloatValue → FloatValue

/-- What an executor runs in. -/
structure Environment where
  stableHash : StableHash
  /-- The time stamp at each reading of the clock. -/
  clock : ℕ → ℚ
  arithmetic : FloatArithmetic

structure RuntimeOperationService where
  runtimeSpec : RuntimeSpec
  /-- A provider that is a function of its request. A response that is no JSON value is its
  `text`. -/
  provider : Option (ModelRequest → Except String Json)
  tools : List (String × (Fields → Except String Json))

variable (env : Environment) (service : RuntimeOperationService)

namespace LangGraphRuntimeState

variable (state : LangGraphRuntimeState)

/-- `now_ts()`: the clock was read once for each row of the trace and each receipt. -/
def nowTs : Json := .float (env.clock (state.trace.length + state.sideEffectReceipts.length))

/-- `_record` -/
def record (event : String) (payload : Fields) : LangGraphRuntimeState :=
  { state with
    trace := state.trace ++ [("event", .str event) :: ("created_at", state.nowTs env) ::
      ("request_id", .str state.requestId) :: payload] }

/-- `state.artifacts.get(key, state.node_results.get(key))` -/
def value? (key : String) : Option Json :=
  (get? key state.artifacts).or (get? key state.nodeResults)

def value (key : String) : Json := (state.value? key).getD .null

end LangGraphRuntimeState

/-! ## Outputs -/

/-- `old` replaced by `new`, from the left, where the first characters are skipped. -/
def replaceChars (old new : List Char) : ℕ → List Char → List Char
  | _, [] => []
  | skipped + 1, _ :: cs => replaceChars old new skipped cs
  | 0, c :: cs =>
    if old.isPrefixOf (c :: cs) then new ++ replaceChars old new (old.length - 1) cs
    else c :: replaceChars old new 0 cs

/-- `text.replace(old, new)`, where `old` is not empty. -/
def replaceText (old new text : String) : String :=
  String.ofList (replaceChars old.toList new.toList 0 text.toList)

variable (state : LangGraphRuntimeState) (node : GraphNodeSpec)

/-- `node.output_key or node.node_id` -/
def outputKey : String := if node.outputKey = "" then node.nodeId else node.outputKey

/-- `_run_agent_like_node` -/
def runAgentLikeNode : Except String Json :=
  let agent := service.runtimeSpec.agents.find? fun agent => some agent.agentId = node.agentId
  let prompt := agent.elim state.prompt fun agent =>
    replaceText "{prompt}" state.prompt agent.prompt.taskTemplate
  let digest := service.runtimeSpec.specDigest env.stableHash
  match service.provider, node.nodeType with
  | some generate, .agent =>
    generate {
      instructions := agent.elim "" fun agent => agent.prompt.system
      prompt
      modelClass := "small"
      seed := state.seed
      metadata := [("request_id", .str state.requestId),
        ("node_id", .str node.nodeId),
        ("runtime_spec_digest", .str digest),
        ("trace_context", .object (state.traceContext.elim [] (·.fields)))] }
  | _, _ => .ok (.object [("answer", .str prompt), ("node_id", .str node.nodeId),
      ("runtime_spec_digest", .str digest)])

/-- `iter(value)`, read to its end. -/
def iterate : Json → Except String (List Json)
  | .array items => .ok items
  | .object fields => .ok (fields.map fun field => .str field.1)
  | .str s => .ok (s.toList.map fun c => .str (String.singleton c))
  | .null => .error "'NoneType' object is not iterable"
  | .bool _ => .error "'bool' object is not iterable"
  | .int _ => .error "'int' object is not iterable"
  | .float _ => .error "'float' object is not iterable"
  | .nonFinite => .error "'float' object is not iterable"

/-- `_run_builtin_node` -/
def runBuiltinNode : Except String Json :=
  match get? "numbers" node.staticArgs with
  | some given => do
    let values ← iterate given
    let numbers ← values.mapM env.arithmetic.float
    return .object [("sum", env.arithmetic.sum numbers),
      ("product", (numbers.foldl env.arithmetic.mul (.finite 1)).toJson)]
  | none =>
    .ok (.object (if node.staticArgs.isEmpty then [("ok", .bool true)] else node.staticArgs))

/-- `_run_tool_node` -/
def runToolNode : Except String Json := do
  let visibleToolIds := (service.runtimeSpec.tools.filter (·.runtimeVisible)).map (·.toolId)
  let toolId := node.toolId.getD "None"
  raiseIf (toolId ∉ visibleToolIds)
    ("tool node " ++ quoted node.nodeId ++ " references non-runtime-visible tool " ++
      quoted toolId)
  ((service.tools.find? fun tool => tool.1 = toolId).map Prod.snd).elim
    (.ok (.object [("tool_id", .str toolId), ("args", .object node.staticArgs),
      ("status", .str "not_bound")])) fun tool => tool node.staticArgs

/-- `_run_merge_node` -/
def runMergeNode : Json :=
  .object (node.inputKeys.foldl (fun fields key => set key (state.value key) fields) [])

/-- The receipt of a side effect that is left to the host. -/
def sideEffectReceipt : Fields :=
  let payload := Json.object [("node_id", .str node.nodeId),
    ("node_type", .str node.nodeType.name), ("static_args", .object node.staticArgs)]
  let digest := env.stableHash
    [.str state.requestId, .str node.nodeId, .str node.nodeType.name, digestSafe payload]
  [("side_effect_id", .str ("langgraph." ++ node.nodeType.name ++ "." ++ takeChars 12 digest)),
    ("action_fingerprint", .str digest),
    ("idempotency_key", .str digest),
    ("action_kind", .str
      (if node.nodeType = .serviceAction then "service_action" else "filesystem_write")),
    ("request_id", .str state.requestId),
    ("node_id", .str node.nodeId),
    ("request_digest", .str digest),
    ("backend", .str "langgraph_spec"),
    ("status", .str "launched"),
    ("outcome_status", .str "noop"),
    ("result_ref", .object [("request", payload)]),
    ("created_at", state.nowTs env)]

/-- `_record_side_effect_intent`: the receipt is kept in the state. -/
def recordSideEffectIntent : LangGraphRuntimeState × Json :=
  let receipt := sideEffectReceipt env state node
  ({ state with sideEffectReceipts := state.sideEffectReceipts ++ [receipt] },
    .object [("side_effect_receipt", .object receipt), ("host_execution_required", .bool true)])

/-- `_input_refs` -/
def inputRefs : List Json :=
  node.inputKeys.map fun key => .object [("key", .str key),
    ("digest", .str (env.stableHash
      [.str "langgraph.node_input", .str node.nodeId, .str key, digestSafe (state.value key)])),
    ("present", .bool (state.value? key).isSome)]

/-! ## Nodes -/

/-- What a node computes, and the state it leaves. -/
def nodeOutput : Except String (LangGraphRuntimeState × Json) :=
  match node.nodeType with
  | .directResponse | .agent => (runAgentLikeNode env service state node).map fun out => (state, out)
  | .builtin => (runBuiltinNode env node).map fun out => (state, out)
  | .tool => (runToolNode service node).map fun out => (state, out)
  | .merge => .ok (state, runMergeNode state node)
  | .verify => .ok (state, .object [("verified", .bool true),
      ("checked_node_ids", strings node.inputKeys)])
  | .serviceAction | .repoPatch => .ok (recordSideEffectIntent env state node)
  | .router | .memory =>
    .error ("unsupported langgraph node_type " ++ quoted node.nodeType.name)

/-- The payload that every row of a node starts with. -/
def nodePayload : Fields :=
  [("node_id", .str node.nodeId), ("node_type", .str node.nodeType.name)]

/-- `run_node`, once the node has its output. -/
def keepOutput (output : Json) : LangGraphRuntimeState :=
  let key := outputKey node
  let state := { state with
    nodeResults := set node.nodeId output state.nodeResults
    artifacts := set key output state.artifacts }
  let outputDigest := Json.str (env.stableHash
    [.str "langgraph.node_output", .str node.nodeId, digestSafe output])
  let refs := inputRefs env state node
  let state := if node.nodeType = .tool then
      state.record env "langgraph_tool_action" (nodePayload node ++
        [("tool_id", .str (node.toolId.getD "")),
          ("args_digest", .str (env.stableHash
            [.str "langgraph.tool_args", digestSafe (.object node.staticArgs)])),
          ("output_digest", outputDigest),
          ("status", .str "completed")])
    else state
  state.record env "langgraph_node_completed" (nodePayload node ++
    [("output_key", .str key), ("input_refs", .array refs), ("output_digest", outputDigest)])

/-- `run_node` -/
def runNode : LangGraphRuntimeState × LangGraphNodeResult :=
  let started := { state with currentNodeId := node.nodeId }.record env "langgraph_node_started"
    (nodePayload node)
  match nodeOutput env service started node with
  | .ok (state, output) =>
    (keepOutput env state node output, ⟨node.nodeId, outputKey node, output, .completed⟩)
  | .error message =>
    ({ started with status := .failed, error := message }.record env "langgraph_node_failed"
        (nodePayload node ++ [("error", Json.str message)]),
      ⟨node.nodeId, outputKey node, .null, .failed⟩)

end Agintor.Runtime
