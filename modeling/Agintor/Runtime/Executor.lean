import Agintor.Runtime.OperationService
import Agintor.Lib.SimplePath

/-!
# The spec executor

`runtime/langgraph/executor.py`: the subset of graphs that is executed, the loop that executes one
node after the other, and the same nodes as callables of a LangGraph graph, which hand the state on
as JSON.
-/

namespace Agintor.Runtime

open Lib Core Json Contracts Contracts.Spec

/-! ## The supported subset -/

def supportedNodeTypes : List NodeType :=
  [.agent, .tool, .merge, .verify, .directResponse, .builtin, .serviceAction, .repoPatch]

def unsupportedMetadataFeatures : List String :=
  ["conditional_edge", "conditional_edges", "parallel", "fanout", "fan_out", "interrupt", "resume",
    "subgraph", "subgraphs", "checkpointer", "checkpoint"]

/-- `c.lower()`, as far as it is about ASCII: no other character becomes an ASCII one. -/
def lowerChar (c : Char) : List Char :=
  if c.toNat = 0x130 then ['i', '\u0307']
  else if c.toNat = 0x212A then ['k']
  else [c.toLower]

/-- `str(raw_key).strip().lower().replace("-", "_")` -/
def featureKey (rawKey : String) : String :=
  String.ofList (((strip rawKey).toList.flatMap lowerChar).map fun c => if c = '-' then '_' else c)

/-- Whether an entry of metadata asks for an unsupported feature. -/
def isUnsupportedFeature (entry : String × Json) : Bool :=
  unsupportedMetadataFeatures.contains (featureKey entry.1) && entry.2.truthy

/-- `_validate_metadata_subset` -/
def validateMetadataSubset (metadata : Fields) (path : String) : Except ValidationError Unit :=
  metadata.forM fun entry =>
    raiseIf (isUnsupportedFeature entry = true)
      (.value ("pass-1 LangGraph executor does not support " ++ quoted (featureKey entry.1) ++
        " metadata at " ++ path))

/-- The keys that are there more than once. -/
def duplicates (keys : List String) : List String :=
  sortedUnique (keys.filter fun key => 1 < keys.count key)

def outgoing (edges : List GraphEdgeSpec) (source : String) : List GraphEdgeSpec :=
  edges.filter (·.source = source)

def arrow (edge : GraphEdgeSpec) : String := edge.source ++ "->" ++ edge.target

/-- The loop from the entry node: the nodes it met and the one it ended at. It ends after as many
rounds as there are nodes, since it meets none of them twice. -/
def entryWalk (edges : List GraphEdgeSpec) (terminal : String) :
    ℕ → List String → String → Except ValidationError (List String × String)
  | 0, _, current =>
    .error (.value ("pass-1 LangGraph executor does not support graph cycles at " ++
      quoted current))
  | rounds + 1, visited, current =>
    if current = "" then .ok (visited, current)
    else if current ∈ visited then
      .error (.value ("pass-1 LangGraph executor does not support graph cycles at " ++
        quoted current))
    else if current = terminal then .ok (visited ++ [current], current)
    else
      match outgoing edges current with
      | [] => .error (.value ("pass-1 LangGraph executor requires a path from entry_node to " ++
          "terminal node; dead end at " ++ quoted current))
      | edge :: _ => entryWalk edges terminal rounds (visited ++ [current]) edge.target

/-- The checks of `validate_pass1_supported_subset` on one node. -/
def checkNode (node : GraphNodeSpec) : Except ValidationError Unit := do
  raiseIf (node.nodeType ∉ supportedNodeTypes)
    (.value ("pass-1 LangGraph executor does not support node_type " ++
      quoted node.nodeType.name ++ " on " ++ quoted node.nodeId))
  raiseIf (node.condition ≠ "always")
    (.value ("pass-1 LangGraph executor does not support node condition " ++
      quoted node.condition ++ " on " ++ quoted node.nodeId))
  validateMetadataSubset node.metadata ("graph.nodes." ++ node.nodeId ++ ".metadata")

/-- The checks of `validate_pass1_supported_subset` on one edge. -/
def checkEdge (edge : GraphEdgeSpec) : Except ValidationError Unit := do
  raiseIf (edge.condition ≠ "always")
    (.value ("pass-1 LangGraph executor does not support edge condition " ++
      quoted edge.condition ++ " on " ++ quoted edge.source ++ "->" ++ quoted edge.target))
  validateMetadataSubset edge.metadata ("graph.edges." ++ arrow edge ++ ".metadata")

/-- `validate_pass1_supported_subset`, of a valid spec. -/
def checkPass1 (spec : RuntimeSpec) : Except ValidationError Unit := do
  let graph := spec.graph
  validateMetadataSubset spec.metadata "runtime.metadata"
  validateMetadataSubset graph.metadata "graph.metadata"
  validateMetadataSubset spec.execution.metadata "execution.metadata"
  raiseIf (spec.execution.allowParallel = true)
    (.value "pass-1 LangGraph executor does not support execution.allow_parallel=True")
  raiseIf (graph.terminalNodes.length ≠ 1)
    (.value "pass-1 LangGraph executor requires exactly one terminal node")
  let duplicateOutputKeys := duplicates (graph.nodes.map outputKey)
  raiseIf (duplicateOutputKeys ≠ [])
    (.value ("pass-1 LangGraph executor does not support duplicate graph output keys: " ++
      listText duplicateOutputKeys))
  graph.nodes.forM checkNode
  graph.edges.forM checkEdge
  let fanoutSources := duplicates (graph.edges.map (·.source))
  raiseIf (fanoutSources ≠ [])
    (.value ("pass-1 LangGraph executor does not support parallel fan-out from nodes: " ++
      listText fanoutSources))
  let terminal := graph.terminalNodes.headD ""
  let terminalOutgoing := (outgoing graph.edges terminal).map arrow
  raiseIf (terminalOutgoing ≠ [])
    (.value ("pass-1 LangGraph executor does not support outgoing edges from terminal nodes: " ++
      listText terminalOutgoing))
  let (visited, current) ←
    entryWalk graph.edges terminal (graph.nodes.length + 1) [] graph.entryNode
  raiseIf (current ≠ terminal)
    (.value "pass-1 LangGraph executor requires the entry path to reach the terminal node")
  let unreachable := sortedUnique ((graph.nodes.map (·.nodeId)).filter (· ∉ visited))
  raiseIf (unreachable ≠ [])
    (.value ("pass-1 LangGraph executor does not support disconnected graph nodes: " ++
      listText unreachable))

/-- `validate_pass1_supported_subset` -/
def validatePass1SupportedSubset (L : LaxMode) (now : FloatValue) (fields : Fields) :
    Except ValidationError RuntimeSpec := do
  let spec ← validateRuntimeSpecPayload L now fields
  checkPass1 spec
  return spec

/-! ## Execution -/

variable (env : Environment) (service : RuntimeOperationService)

/-- What is asked of an executor. -/
structure Invocation where
  prompt : String
  requestId : String
  taskId : String
  seed : ℤ
  runtimeHash : String
  traceContext : Option OpenAITraceContext

/-- `_initial_state` -/
def initialState (runtimeSpec : RuntimeSpec) (asked : Invocation) : LangGraphRuntimeState where
  requestId := asked.requestId
  taskId := asked.taskId
  seed := asked.seed
  prompt := asked.prompt
  runtimeHash := asked.runtimeHash
  runtimeSpecDigest := runtimeSpec.specDigest env.stableHash
  traceContext := asked.traceContext
  currentNodeId := ""
  artifacts := []
  nodeResults := []
  trace := []
  budget := [("model_calls", .int 0), ("tool_calls", .int 0)]
  sideEffectReceipts := []
  runtimeEvidenceManifest := []
  status := .running
  error := ""

/-- The loop of `_invoke_sequential`. Edges lead to nodes of the graph, so each node is found. -/
def sequentialLoop (nodes : List GraphNodeSpec) (edges : List GraphEdgeSpec)
    (terminals : List String) :
    ℕ → List String → String → LangGraphRuntimeState → LangGraphRuntimeState
  | 0, _, _, state => state
  | rounds + 1, visited, current, state =>
    if current = "" ∨ current ∈ visited then state
    else
      match nodes.find? (·.nodeId = current) with
      | none => state
      | some node =>
        let (state, result) := runNode env service state node
        if result.status = .failed then state
        else if current ∈ terminals then { state with status := .completed }
        else
          match (outgoing edges current).insertionSort fun a b => a.priority ≤ b.priority with
          | [] => { state with status := .completed }
          | edge :: _ =>
            sequentialLoop nodes edges terminals rounds (visited ++ [current]) edge.target state

/-- `_invoke_sequential` -/
def invokeSequential (state : LangGraphRuntimeState) : LangGraphRuntimeState :=
  let graph := service.runtimeSpec.graph
  let state := sequentialLoop env service graph.nodes graph.edges graph.terminalNodes
    (graph.nodes.length + 1) [] graph.entryNode state
  if state.status = .running then { state with status := .completed } else state

/-! ## LangGraph -/

/-- Whether a value is JSON in the strict sense: no NaN and no infinity. -/
def isFinite : Json → Bool :=
  Json.all (fun leaf => match leaf with
    | .nonFinite => false
    | _ => true) fun _ _ => true

/-- What `model_dump(mode="json")` makes of a value of type `Any`: JSON stays what it is. -/
structure JsonMode where
  toJson : Json → Json
  toJson_of_finite : ∀ value, isFinite value = true → toJson value = value

/-- `model_dump(mode="json", exclude_none=True)` of a state. -/
def LangGraphRuntimeState.fields (M : JsonMode) (state : LangGraphRuntimeState) : Fields :=
  present "trace_context" (fun context => .object (OpenAITraceContext.fields context))
    state.traceContext ++
  [("request_id", .str state.requestId),
    ("task_id", .str state.taskId),
    ("seed", .int state.seed),
    ("prompt", .str state.prompt),
    ("runtime_hash", .str state.runtimeHash),
    ("runtime_spec_digest", .str state.runtimeSpecDigest),
    ("current_node_id", .str state.currentNodeId),
    ("artifacts", M.toJson (.object state.artifacts)),
    ("node_results", M.toJson (.object state.nodeResults)),
    ("trace", .array (state.trace.map fun row => M.toJson (.object row))),
    ("budget", M.toJson (.object state.budget)),
    ("side_effect_receipts", .array
      (state.sideEffectReceipts.map fun receipt => M.toJson (.object receipt))),
    ("runtime_evidence_manifest", M.toJson (.object state.runtimeEvidenceManifest)),
    ("status", .str state.status.name),
    ("error", .str state.error)]

/-- `LangGraphRuntimeState.model_validate`, which ignores other keys. -/
def LangGraphRuntimeState.read (L : LaxMode) (raw : Json) :
    Except ValidationError LangGraphRuntimeState := do
  let fields ← readDict raw
  let requestId ← readField "request_id" readStr (some "") fields
  let taskId ← readField "task_id" readStr (some "") fields
  let seed ← readField "seed" (readLax L.int) (some 0) fields
  let prompt ← readField "prompt" readStr (some "") fields
  let runtimeHash ← readField "runtime_hash" readStr (some "") fields
  let runtimeSpecDigest ← readField "runtime_spec_digest" readStr (some "") fields
  let traceContext ←
    readField "trace_context" (readOptional (OpenAITraceContext.read L)) (some none) fields
  let currentNodeId ← readField "current_node_id" readStr (some "") fields
  let artifacts ← readField "artifacts" readDict (some []) fields
  let nodeResults ← readField "node_results" readDict (some []) fields
  let trace ← readField "trace" (readList readDict) (some []) fields
  let budget ← readField "budget" readDict (some []) fields
  let sideEffectReceipts ← readField "side_effect_receipts" (readList readDict) (some []) fields
  let runtimeEvidenceManifest ← readField "runtime_evidence_manifest" readDict (some []) fields
  let status ←
    readField "status" (readLiteral RunStatus.name RunStatus.members) (some .running) fields
  let error ← readField "error" readStr (some "") fields
  return ⟨requestId, taskId, seed, prompt, runtimeHash, runtimeSpecDigest, traceContext,
    currentNodeId, artifacts, nodeResults, trace, budget, sideEffectReceipts,
    runtimeEvidenceManifest, status, error⟩

variable (M : JsonMode) (L : LaxMode)

/-- What `_lg_callable` does with a state. -/
def runCallable (node : GraphNodeSpec) (state : LangGraphRuntimeState) : LangGraphRuntimeState :=
  if state.status = .failed then state
  else
    let (state, result) := runNode env service state node
    if result.status = .failed then { state with status := .failed }
    else if node.nodeId ∈ service.runtimeSpec.graph.terminalNodes then
      { state with status := .completed }
    else state

/-- `_lg_callable` -/
def lgCallable (node : GraphNodeSpec) (rawState : Json) : Except ValidationError Json := do
  let state ← LangGraphRuntimeState.read L rawState
  return .object ((runCallable env service node state).fields M)

/-- `StateGraph(dict)`, as it is built. -/
structure StateGraph where
  nodes : List (String × (Json → Except ValidationError Json))
  entryPoint : String
  edges : List (String × String)
  finishPoints : List String

/-- Calls a node of a graph. -/
def StateGraph.call (graph : StateGraph) (raw : Json) (node : String) :
    Except ValidationError Json :=
  ((graph.nodes.find? fun entry => entry.1 = node).map Prod.snd).elim (.ok raw) fun run => run raw

/-- What `compile().invoke` does: where the edges of a graph are a simple path from the entry point
to the finish point through all of its nodes, each node is called once in their order, with the
dictionary that the one before it returned. -/
structure LangGraph where
  invoke : StateGraph → Json → Except ValidationError Json
  invoke_of_path : ∀ (graph : StateGraph) (last : String) (path : List String) (raw : Json),
    IsSimplePath graph.edges graph.entryPoint last path → graph.finishPoints = [last] →
      path.Perm (graph.nodes.map Prod.fst) → invoke graph raw = path.foldlM graph.call raw

/-- Calls the nodes of a graph along its edges. -/
def StateGraph.walk (graph : StateGraph) : ℕ → String → Json → Except ValidationError Json
  | 0, _, raw => .ok raw
  | rounds + 1, node, raw => do
    let raw ← graph.call raw node
    match graph.edges.filter fun edge => edge.1 = node with
    | [] => .ok raw
    | edge :: _ => graph.walk rounds edge.2 raw

lemma StateGraph.walk_path (graph : StateGraph) {first last node : String}
    {front rest : List String} (raw : Json)
    (h : IsSimplePath graph.edges first last (front ++ node :: rest)) :
    graph.walk (rest.length + 1) node raw = (node :: rest).foldlM graph.call raw := by
  induction rest generalizing front node raw with
  | nil =>
    have hlast := h.last
    rw [List.getLast?_concat, Option.some.injEq] at hlast
    rw [StateGraph.walk, hlast, h.filter_last, List.foldlM_cons]
    rfl
  | cons next rest ih =>
    rw [StateGraph.walk, h.filter_append, List.foldlM_cons]
    have hassoc : front ++ node :: next :: rest = (front ++ [node]) ++ next :: rest := by simp
    rw [hassoc] at h
    exact congrArg _ (funext fun raw => ih raw h)

/-- The graphs that are paths, and nothing more of LangGraph. -/
def LangGraph.ofPaths : LangGraph where
  invoke := fun graph raw => graph.walk graph.nodes.length graph.entryPoint raw
  invoke_of_path := by
    intro graph last path raw h _ hcovers
    obtain ⟨rest, rfl⟩ := List.head?_eq_some_iff.mp h.head
    have hlength : graph.nodes.length = rest.length + 1 := by
      simpa using hcovers.length_eq.symm
    have hfront : IsSimplePath graph.edges graph.entryPoint last
        ([] ++ graph.entryPoint :: rest) := h
    rw [hlength]
    exact graph.walk_path raw hfront

/-- `_build_langgraph_app` -/
def buildLanggraphApp : StateGraph where
  nodes := service.runtimeSpec.graph.nodes.map fun node =>
    (node.nodeId, lgCallable env service M L node)
  entryPoint := service.runtimeSpec.graph.entryNode
  edges := service.runtimeSpec.graph.edges.map fun edge => (edge.source, edge.target)
  finishPoints := service.runtimeSpec.graph.terminalNodes

/-! ## Both back ends -/

/-- `CompiledSpecRuntime` of a payload: the service that its back ends run nodes with. -/
def compileSpecRuntime (now : FloatValue) (fields : Fields)
    (provider : Option (ModelRequest → Except String Json)) :
    Except ValidationError RuntimeOperationService := do
  let runtimeSpec ← validatePass1SupportedSubset L now fields
  return ⟨runtimeSpec, provider, []⟩

/-- `invoke` with the sequential back end. -/
def sequentialInvoke (asked : Invocation) : LangGraphRuntimeState :=
  invokeSequential env service (initialState env service.runtimeSpec asked)

/-- `invoke` with the LangGraph back end. -/
def langgraphInvoke (langgraph : LangGraph) (asked : Invocation) :
    Except ValidationError LangGraphRuntimeState := do
  let state := initialState env service.runtimeSpec asked
  let raw ← langgraph.invoke (buildLanggraphApp env service M L) (.object (state.fields M))
  LangGraphRuntimeState.read L raw

end Agintor.Runtime
