import Agintor.Contracts.RuntimeSpec

/-!
# The payload of a runtime spec

A whole spec as JSON: how it is dumped, validated and hashed (`RuntimeSpec`,
`validate_runtime_spec_payload` and `runtime_spec_digest` of `contracts/runtime_spec.py`).
-/

namespace Agintor.Contracts.Spec

open Lib Core Json

/-! ## Private keys -/

def forbiddenPrivateKeyPrefixes : List String :=
  ["private_", "sealed_", "hidden_", "oracle_private_"]

def forbiddenPrivateKeyNames : List String :=
  ["private_expected", "private_answer", "private_answer_ref", "hidden_tests", "private_rubric",
    "promotion_threshold", "sealed_inputs", "sealed_fixture_refs"]

/-- `text.startswith(prefixes)` -/
def startsWithAny (prefixes : List String) (text : String) : Bool :=
  prefixes.any fun start => start.toList.isPrefixOf text.toList

def isPrivateKey (key : String) : Bool :=
  forbiddenPrivateKeyNames.contains key || startsWithAny forbiddenPrivateKeyPrefixes key

mutual

def assertNoPrivateOrSealedKeys (path : String) : Json → Except ValidationError Unit
  | .object fields => assertNoPrivateFields path fields
  | .array items => assertNoPrivateItems path 0 items
  | _ => .ok ()

def assertNoPrivateFields (path : String) : Fields → Except ValidationError Unit
  | [] => .ok ()
  | (key, item) :: fields => do
    let childPath := path ++ "." ++ key
    raiseIf (isPrivateKey key = true)
      (.value ("private/sealed key " ++ quoted key ++ " is not allowed at " ++ childPath))
    raiseIf (key = "authority_boundary" ∧ item.text? = some "sealed_validator")
      (.value ("sealed validator authority is not allowed at " ++ childPath))
    assertNoPrivateOrSealedKeys childPath item
    assertNoPrivateFields path fields

def assertNoPrivateItems (path : String) (index : ℕ) : List Json → Except ValidationError Unit
  | [] => .ok ()
  | item :: items => do
    assertNoPrivateOrSealedKeys (path ++ "[" ++ toString index ++ "]") item
    assertNoPrivateItems path (index + 1) items

end

/-! ## Specs -/

/-- What `TradingAgentsRuntimeSpec` adds. -/
structure TradingAgentsFields where
  selectedAnalysts : List String
  deepThinkModel : String
  quickThinkModel : String
  debateRounds : ℤ
  riskDiscussionRounds : ℤ
  dataVendorPolicy : Fields
  actionMappingPolicyId : String
  riskPolicyId : String

/-- The kind of a runtime, which decides the class of its spec. -/
inductive RuntimeKind
  | policyModules
  | langgraphSpec
  | tradingAgents (fields : TradingAgentsFields)

def RuntimeKind.name : RuntimeKind → String
  | .policyModules => "policy_modules"
  | .langgraphSpec => "langgraph_spec"
  | .tradingAgents _ => "tradingagents_langgraph"

def TradingAgentsFields.fields (trading : TradingAgentsFields) : Fields :=
  [("selected_analysts", strings trading.selectedAnalysts),
    ("deep_think_model", .str trading.deepThinkModel),
    ("quick_think_model", .str trading.quickThinkModel),
    ("debate_rounds", .int trading.debateRounds),
    ("risk_discussion_rounds", .int trading.riskDiscussionRounds),
    ("data_vendor_policy", .object trading.dataVendorPolicy),
    ("action_mapping_policy_id", .str trading.actionMappingPolicyId),
    ("risk_policy_id", .str trading.riskPolicyId)]

def RuntimeKind.extraFields : RuntimeKind → Fields
  | .tradingAgents trading => trading.fields
  | _ => []

structure SpecData where
  runtimeId : String
  runtimeKind : RuntimeKind
  name : String
  description : String
  agents : List AgentSpec
  graph : GraphSpec
  tools : List ToolSpec
  models : List ModelPolicy
  memory : MemoryPolicy
  execution : ExecutionPolicy
  tracing : TracingPolicy
  mutationHistory : List MutationActionRef
  parentSpecDigest : Option String
  createdAt : FloatValue
  metadata : Fields

/-- `model_dump(mode="json", exclude_none=True)` of a spec. -/
def SpecData.fields (spec : SpecData) : Fields :=
  [("runtime_id", .str spec.runtimeId),
    ("runtime_kind", .str spec.runtimeKind.name),
    ("name", .str spec.name),
    ("description", .str spec.description),
    ("agents", .array (spec.agents.map fun agent => .object agent.fields)),
    ("graph", .object (spec.graph.fields true)),
    ("tools", .array (spec.tools.map fun tool => .object tool.fields)),
    ("models", .array (spec.models.map fun model => .object model.fields)),
    ("memory", .object spec.memory.fields),
    ("execution", .object spec.execution.fields),
    ("tracing", .object spec.tracing.fields),
    ("mutation_history", .array (spec.mutationHistory.map fun ref => .object ref.fields)),
    ("created_at", spec.createdAt.toJson),
    ("metadata", .object spec.metadata)] ++
  optional true "parent_spec_digest" spec.parentSpecDigest ++ spec.runtimeKind.extraFields

/-- `validate_runtime_spec` -/
def specCheck (spec : SpecData) : Except ValidationError Unit := do
  let agentIds := spec.agents.map (·.agentId)
  raiseIf (¬agentIds.Nodup) (.value "agent_id values must be unique")
  let toolIds := spec.tools.map (·.toolId)
  raiseIf (¬toolIds.Nodup) (.value "tool_id values must be unique")
  let modelIds := spec.models.map (·.modelPolicyId)
  raiseIf (¬modelIds.Nodup) (.value "model_policy_id values must be unique")
  assertNoPrivateOrSealedKeys "<root>" (.object spec.fields)
  let sealedTools := ((spec.tools.filter (·.authorityBoundary = .sealedValidator)).map
    (·.toolId)).insertionSort (· ≤ ·)
  raiseIf (sealedTools ≠ [])
    (.value ("RuntimeSpec cannot expose sealed validator tools: " ++ listText sealedTools))
  spec.agents.forM fun agent => do
    raiseIf (agent.modelPolicyId ∉ modelIds)
      (.value ("agent " ++ quoted agent.agentId ++ " references missing model_policy_id " ++
        quoted agent.modelPolicyId))
    let missingTools := sortedUnique (agent.toolIds.filter (· ∉ toolIds))
    raiseIf (missingTools ≠ [])
      (.value ("agent " ++ quoted agent.agentId ++ " references missing tools " ++
        listText missingTools))
  spec.graph.nodes.forM fun node => do
    raiseIf (given node.agentId = true ∧ node.agentId.getD "" ∉ agentIds)
      (.value ("graph node " ++ quoted node.nodeId ++ " references missing agent_id " ++
        quoted (node.agentId.getD "")))
    raiseIf (given node.toolId = true ∧ node.toolId.getD "" ∉ toolIds)
      (.value ("graph node " ++ quoted node.nodeId ++ " references missing tool_id " ++
        quoted (node.toolId.getD "")))

structure RuntimeSpec extends SpecData where
  valid : specCheck toSpecData = .ok ()

/-! ## Validation -/

/-- The kind that `runtime_spec_model_for_kind` goes by: whether the payload is validated as a
`TradingAgentsRuntimeSpec`. -/
def isTradingAgentsPayload (fields : Fields) : Bool :=
  strip (((get? "runtime_kind" fields).bind text?).getD "") = "tradingagents_langgraph"

def TradingAgentsFields.fieldNames : List String :=
  ["selected_analysts", "deep_think_model", "quick_think_model", "debate_rounds",
    "risk_discussion_rounds", "data_vendor_policy", "action_mapping_policy_id", "risk_policy_id"]

def SpecData.fieldNames : List String :=
  ["runtime_id", "runtime_kind", "name", "description", "agents", "graph", "tools", "models",
    "memory", "execution", "tracing", "mutation_history", "parent_spec_digest", "created_at",
    "metadata"]

def TradingAgentsFields.read (L : LaxMode) (fields : Fields) :
    Except ValidationError TradingAgentsFields := do
  let selectedAnalysts ← readField "selected_analysts" (readList readStr)
    (some ["market", "news", "fundamentals"]) fields
  let deepThinkModel ←
    readField "deep_think_model" readStr (some "runtime_provider/deep") fields
  let quickThinkModel ←
    readField "quick_think_model" readStr (some "runtime_provider/quick") fields
  let debateRounds ← readField "debate_rounds" (readLax L.int) (some 1) fields
  let riskDiscussionRounds ← readField "risk_discussion_rounds" (readLax L.int) (some 1) fields
  let dataVendorPolicy ← readField "data_vendor_policy" readDict (some []) fields
  let actionMappingPolicyId ←
    readField "action_mapping_policy_id" readStr (some "bounded_order_intent.v1") fields
  let riskPolicyId ← readField "risk_policy_id" readStr (some "default_risk.v1") fields
  return ⟨selectedAnalysts, deepThinkModel, quickThinkModel, debateRounds, riskDiscussionRounds,
    dataVendorPolicy, actionMappingPolicyId, riskPolicyId⟩

/-- The kinds of the base class that a payload is validated as. -/
def RuntimeKind.read (L : LaxMode) (fields : Fields) : Except ValidationError RuntimeKind :=
  if isTradingAgentsPayload fields then do
    let _ ← readField "runtime_kind" (readLiteral id ["tradingagents_langgraph"])
      (some "tradingagents_langgraph") fields
    (TradingAgentsFields.read L fields).map .tradingAgents
  else
    readField "runtime_kind" (readLiteral RuntimeKind.name [.policyModules, .langgraphSpec])
      (some .langgraphSpec) fields

def knownFields (fields : Fields) : List String :=
  SpecData.fieldNames ++
    if isTradingAgentsPayload fields then TradingAgentsFields.fieldNames else []

/-- The fields of a spec, before they are checked together. -/
def SpecData.read (L : LaxMode) (now : FloatValue) (fields : Fields) :
    Except ValidationError SpecData := do
  let fields ← readObject (knownFields fields) (.object fields)
  let runtimeId ← readField "runtime_id" readStr none fields
  let runtimeKind ← RuntimeKind.read L fields
  let name ← readField "name" readStr none fields
  let description ← readField "description" readStr (some "") fields
  let agents ← readField "agents" (readList (AgentSpec.read L)) (some []) fields
  let graph ← readField "graph" (GraphSpec.read L) none fields
  let tools ← readField "tools" (readList (ToolSpec.read L)) (some []) fields
  let models ← readField "models" (readList (ModelPolicy.read L)) (some [.default]) fields
  let memory ← readField "memory" MemoryPolicy.read (some .default) fields
  let execution ← readField "execution" (ExecutionPolicy.read L) (some .default) fields
  let tracing ← readField "tracing" (TracingPolicy.read L) (some .default) fields
  let mutationHistory ←
    readField "mutation_history" (readList (MutationActionRef.read L now)) (some []) fields
  let parentSpecDigest ← readField "parent_spec_digest" readOptionalStr (some none) fields
  let createdAt ← readField "created_at" (readLax L.float) (some now) fields
  let metadata ← readField "metadata" readDict (some []) fields
  return ⟨runtimeId, runtimeKind, name, description, agents, graph, tools, models, memory,
    execution, tracing, mutationHistory, parentSpecDigest, createdAt, metadata⟩

/-- `validate_runtime_spec_payload` of a dictionary. -/
def validateRuntimeSpecPayload (L : LaxMode) (now : FloatValue) (fields : Fields) :
    Except ValidationError RuntimeSpec := do
  let data ← SpecData.read L now fields
  withResult (specCheck data) fun _ valid => .ok ⟨data, valid⟩

/-! ## The digest -/

def digestExcludeKeys : List String :=
  ["created_at", "completed_at", "metadata", "parent_spec_digest", "child_spec_digest",
    "spec_digest"]

/-- `sorted(value.items())`, by the keys. -/
def sortedItems (fields : Fields) : Fields := fields.insertionSort fun a b => a.1 ≤ b.1

mutual

/-- `_digest_payload` -/
def digestPayload : Json → Json
  | .object fields => .object (sortedItems (digestFields fields))
  | .array items => .array (digestItems items)
  | value => value

/-- The fields that are kept, each of them projected. -/
def digestFields : Fields → Fields
  | [] => []
  | (key, item) :: fields =>
    if digestExcludeKeys.contains key then digestFields fields
    else (key, digestPayload item) :: digestFields fields

def digestItems : List Json → List Json
  | [] => []
  | item :: items => digestPayload item :: digestItems items

end

/-- `stable_hash` of its parts. -/
abbrev StableHash := List Json → String

/-- `runtime_spec_payload` of a dictionary. -/
def runtimeSpecPayload (L : LaxMode) (now : FloatValue) (fields : Fields) :
    Except ValidationError Json := do
  let normalized ← validateRuntimeSpecPayload L now fields
  return digestPayload (.object normalized.fields)

/-- `runtime_spec_digest` of a dictionary. -/
def runtimeSpecDigest (stableHash : StableHash) (L : LaxMode) (now : FloatValue)
    (fields : Fields) : Except ValidationError String := do
  let payload ← runtimeSpecPayload L now fields
  return stableHash [.str "agintor.runtime_spec", payload]

/-- `spec_digest` -/
def SpecData.specDigest (stableHash : StableHash) (spec : SpecData) : String :=
  stableHash [.str "agintor.runtime_spec", digestPayload (.object spec.fields)]

end Agintor.Contracts.Spec
