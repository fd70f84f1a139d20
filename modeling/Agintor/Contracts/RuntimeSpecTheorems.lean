import Agintor.Contracts.RuntimeSpecPayload

/-!
# Specs are read back from their dumps

The validator of each model of `contracts/runtime_spec.py`, applied to a dump of a valid value,
gives that value again, so validating a spec a second time changes nothing.
-/

namespace Agintor.Contracts.Spec

open Lib Core Json

/-- A field that the dictionary holds is read from its value. -/
lemma readField_cons {α : Type} (key : String) (read : Json → Except ValidationError α)
    (default : Option α) (field : String × Json) (fields : Fields) :
    readField key read default (field :: fields) =
      if field.1 = key then read field.2 else readField key read default fields := by
  unfold readField
  rw [get?_cons]
  split <;> rfl

section
variable {α : Type} {read : Json → Except ValidationError α}

lemma readField_optional {key : String} (excludeNone : Bool) (value : Option String)
    {fields : Fields} (hfields : get? key fields = none) :
    readField key readOptionalStr (some none) (optional excludeNone key value ++ fields) =
      .ok value := by
  cases value with
  | some text => simp [optional, readField_cons]
  | none =>
    cases excludeNone with
    | true => exact readField_of_none hfields
    | false => simp [optional, readField_cons]

lemma readField_append_optional {key other : String} {default : Option α} (excludeNone : Bool)
    (value : Option String) (fields : Fields) (h : key ≠ other) :
    readField key read default (optional excludeNone other value ++ fields) =
      readField key read default fields := by
  cases value with
  | some text => simp [optional, readField_cons, h.symm]
  | none => cases excludeNone <;> simp [optional, readField_cons, h.symm]

lemma mem_keys_optional {excludeNone : Bool} {key other : String} {value : Option String}
    (h : key ∈ (optional excludeNone other value).map Prod.fst) : key = other := by
  cases value with
  | some text => simpa [optional] using h
  | none => cases excludeNone <;> simp_all [optional]

/-- A member of an enumeration is read from its name. -/
lemma readLiteral_name {name : α → String} {members : List α} {member : α}
    (h : members.find? (fun other => name other = name member) = some member) :
    readLiteral name members (.str (name member)) = .ok member := by
  simp only [readLiteral, h, Option.elim_some]

end

/-! ## Prompts and agents -/

@[simp] lemma RuntimeScope.read_name (scope : RuntimeScope) :
    RuntimeScope.read (.str scope.name) = .ok scope :=
  readLiteral_name (by cases scope <;> rfl)

@[simp] lemma PromptSpec.read_fields (prompt : PromptSpec) :
    PromptSpec.read (.object prompt.fields) = .ok prompt := by
  have hknown : readObject PromptSpec.fieldNames (.object prompt.fields) = .ok prompt.fields :=
    readObject_of_known (by simp [PromptSpec.fields, PromptSpec.fieldNames])
  rw [PromptSpec.read, hknown, ok_bind]
  simp [PromptSpec.fields, readField_cons]

@[simp] lemma AgentSpec.read_fields (L : LaxMode) (agent : AgentSpec) :
    AgentSpec.read L (.object agent.fields) = .ok agent := by
  have hknown : readObject AgentSpec.fieldNames (.object agent.fields) = .ok agent.fields :=
    readObject_of_known (by simp [AgentSpec.fields, AgentSpec.fieldNames])
  have hscope : readList RuntimeScope.read
      (.array (agent.scope.map fun scope => .str scope.name)) = .ok agent.scope :=
    readList_map fun scope _ => scope.read_name
  rw [AgentSpec.read, hknown, ok_bind]
  simp [AgentSpec.fields, readField_cons, strings, hscope, withResult_of_ok agent.valid]

/-! ## The graph -/

@[simp] lemma NodeType.read_name (nodeType : NodeType) :
    readLiteral NodeType.name NodeType.members (.str nodeType.name) = .ok nodeType :=
  readLiteral_name (by cases nodeType <;> rfl)

/-- The keys of a dumped node are fields of a node. -/
lemma GraphNodeSpec.mem_fieldNames {excludeNone : Bool} {node : GraphNodeSpec} {key : String}
    (h : key ∈ (node.fields excludeNone).map Prod.fst) : key ∈ fieldNames := by
  simp only [fields, List.map_append, List.mem_append] at h
  simp only [fieldNames, List.mem_cons, List.not_mem_nil, or_false]
  rcases h with ((h | h) | h) | h
  · simp only [List.map_cons, List.map_nil, List.mem_cons, List.not_mem_nil, or_false] at h
    tauto
  · exact Or.inr (Or.inr (Or.inl (mem_keys_optional h)))
  · exact Or.inr (Or.inr (Or.inr (Or.inl (mem_keys_optional h))))
  · simp only [List.map_cons, List.map_nil, List.mem_cons, List.not_mem_nil, or_false] at h
    tauto

@[simp] lemma GraphNodeSpec.read_fields (L : LaxMode) (excludeNone : Bool) (node : GraphNodeSpec) :
    GraphNodeSpec.read L (.object (node.fields excludeNone)) = .ok node := by
  have hknown : readObject fieldNames (.object (node.fields excludeNone)) =
      .ok (node.fields excludeNone) := readObject_of_known fun key hkey => mem_fieldNames hkey
  have htool : ∀ (fields : Fields), get? "agent_id" fields = none →
      get? "agent_id" (optional excludeNone "tool_id" node.toolId ++ fields) = none := by
    intro fields hfields
    cases node.toolId <;> cases excludeNone <;> simp [optional, get?_cons, hfields]
  rw [GraphNodeSpec.read, hknown, ok_bind]
  simp [GraphNodeSpec.fields, readField_cons, readField_optional, readField_append_optional, htool,
    get?_cons, strings, withResult_of_ok node.valid]

@[simp] lemma GraphEdgeSpec.read_fields (L : LaxMode) (edge : GraphEdgeSpec) :
    GraphEdgeSpec.read L (.object edge.fields) = .ok edge := by
  have hknown : readObject fieldNames (.object edge.fields) = .ok edge.fields :=
    readObject_of_known (by simp [fields, fieldNames])
  rw [GraphEdgeSpec.read, hknown, ok_bind]
  simp [fields, readField_cons]

@[simp] lemma GraphSpec.read_fields (L : LaxMode) (excludeNone : Bool) (graph : GraphSpec) :
    GraphSpec.read L (.object (graph.fields excludeNone)) = .ok graph := by
  have hknown : readObject fieldNames (.object (graph.fields excludeNone)) =
      .ok (graph.fields excludeNone) :=
    readObject_of_known (by simp [fields, graphFields, fieldNames])
  have hnodes : readList (GraphNodeSpec.read L)
      (.array (graph.nodes.map fun node => .object (node.fields excludeNone))) = .ok graph.nodes :=
    readList_map fun node _ => node.read_fields L excludeNone
  have hedges : readList (GraphEdgeSpec.read L)
      (.array (graph.edges.map fun edge => .object edge.fields)) = .ok graph.edges :=
    readList_map fun edge _ => edge.read_fields L
  rw [GraphSpec.read, hknown, ok_bind]
  simp [fields, graphFields, readField_cons, strings, hnodes, hedges, withResult_of_ok graph.valid]

/-! ## Tools and policies -/

@[simp] lemma SideEffectKind.read_name (kind : SideEffectKind) :
    readLiteral SideEffectKind.name SideEffectKind.members (.str kind.name) = .ok kind :=
  readLiteral_name (by cases kind <;> rfl)

@[simp] lemma AuthorityBoundary.read_name (boundary : AuthorityBoundary) :
    readLiteral AuthorityBoundary.name AuthorityBoundary.members (.str boundary.name) =
      .ok boundary :=
  readLiteral_name (by cases boundary <;> rfl)

@[simp] lemma ToolSpec.read_fields (L : LaxMode) (tool : ToolSpec) :
    ToolSpec.read L (.object tool.fields) = .ok tool := by
  have hknown : readObject fieldNames (.object tool.fields) = .ok tool.fields :=
    readObject_of_known (by simp [fields, fieldNames])
  rw [ToolSpec.read, hknown, ok_bind]
  simp [fields, readField_cons]

@[simp] lemma ModelPolicy.read_fields (L : LaxMode) (model : ModelPolicy) :
    ModelPolicy.read L (.object model.fields) = .ok model := by
  have hknown : readObject fieldNames (.object model.fields) = .ok model.fields :=
    readObject_of_known (by simp [fields, fieldNames])
  rw [ModelPolicy.read, hknown, ok_bind]
  simp [fields, readField_cons, strings]

@[simp] lemma MemoryMode.read_name (mode : MemoryMode) :
    readLiteral MemoryMode.name MemoryMode.members (.str mode.name) = .ok mode :=
  readLiteral_name (by cases mode <;> rfl)

@[simp] lemma MemoryPolicy.read_fields (memory : MemoryPolicy) :
    MemoryPolicy.read (.object memory.fields) = .ok memory := by
  have hknown : readObject fieldNames (.object memory.fields) = .ok memory.fields :=
    readObject_of_known (by simp [fields, fieldNames])
  rw [MemoryPolicy.read, hknown, ok_bind]
  simp [fields, readField_cons, strings]

@[simp] lemma SideEffectPolicy.read_name (policy : SideEffectPolicy) :
    readLiteral SideEffectPolicy.name SideEffectPolicy.members (.str policy.name) = .ok policy :=
  readLiteral_name (by cases policy <;> rfl)

@[simp] lemma ExecutionPolicy.read_fields (L : LaxMode) (execution : ExecutionPolicy) :
    ExecutionPolicy.read L (.object execution.fields) = .ok execution := by
  have hknown : readObject fieldNames (.object execution.fields) = .ok execution.fields :=
    readObject_of_known (by simp [fields, fieldNames])
  rw [ExecutionPolicy.read, hknown, ok_bind]
  simp [fields, readField_cons]

@[simp] lemma TracingPolicy.read_fields (L : LaxMode) (tracing : TracingPolicy) :
    TracingPolicy.read L (.object tracing.fields) = .ok tracing := by
  have hknown : readObject fieldNames (.object tracing.fields) = .ok tracing.fields :=
    readObject_of_known (by simp [fields, fieldNames])
  rw [TracingPolicy.read, hknown, ok_bind]
  simp [fields, readField_cons, strings]

@[simp] lemma MutationActionRef.read_fields (L : LaxMode) (now : FloatValue)
    (ref : MutationActionRef) : MutationActionRef.read L now (.object ref.fields) = .ok ref := by
  have hknown : readObject fieldNames (.object ref.fields) = .ok ref.fields :=
    readObject_of_known (by simp [fields, fieldNames])
  rw [MutationActionRef.read, hknown, ok_bind]
  simp [fields, readField_cons]

/-! ## Whole specs -/

lemma isTradingAgentsPayload_fields (spec : SpecData) :
    isTradingAgentsPayload spec.fields =
      decide (strip spec.runtimeKind.name = "tradingagents_langgraph") := by
  simp [isTradingAgentsPayload, SpecData.fields, get?_cons, text?]

lemma strip_policyModules : strip "policy_modules" ≠ "tradingagents_langgraph" := by
  decide +kernel

lemma strip_langgraphSpec : strip "langgraph_spec" ≠ "tradingagents_langgraph" := by
  decide +kernel

lemma strip_tradingAgents : strip "tradingagents_langgraph" = "tradingagents_langgraph" := by
  decide +kernel

/-- The keys of a dumped spec are fields of its class. -/
lemma SpecData.mem_knownFields (spec : SpecData) {key : String}
    (h : key ∈ spec.fields.map Prod.fst) : key ∈ knownFields spec.fields := by
  simp only [fields, List.map_append, List.mem_append] at h
  rw [knownFields, List.mem_append]
  rcases h with (h | h) | h
  · left
    simp only [List.map_cons, List.map_nil, List.mem_cons, List.not_mem_nil, or_false] at h
    simp only [fieldNames, List.mem_cons, List.not_mem_nil, or_false]
    tauto
  · left
    simp [mem_keys_optional h, fieldNames]
  · right
    rw [isTradingAgentsPayload_fields]
    cases hkind : spec.runtimeKind with
    | policyModules => simp [RuntimeKind.extraFields, hkind] at h
    | langgraphSpec => simp [RuntimeKind.extraFields, hkind] at h
    | tradingAgents trading =>
      simp only [RuntimeKind.name, strip_tradingAgents, decide_true, if_true]
      simpa [RuntimeKind.extraFields, hkind, TradingAgentsFields.fields,
        TradingAgentsFields.fieldNames] using h

lemma RuntimeKind.read_fields (L : LaxMode) (spec : SpecData) :
    RuntimeKind.read L spec.fields = .ok spec.runtimeKind := by
  rw [RuntimeKind.read, isTradingAgentsPayload_fields]
  cases hkind : spec.runtimeKind with
  | policyModules =>
    simp [RuntimeKind.name, strip_policyModules, SpecData.fields, readField_cons, hkind,
      readLiteral]
  | langgraphSpec =>
    simp [RuntimeKind.name, strip_langgraphSpec, SpecData.fields, readField_cons, hkind,
      readLiteral]
  | tradingAgents trading =>
    cases hparent : spec.parentSpecDigest <;>
      simp [RuntimeKind.name, strip_tradingAgents, SpecData.fields, readField_cons, hkind,
        readLiteral, TradingAgentsFields.read, optional, hparent, RuntimeKind.extraFields,
        TradingAgentsFields.fields, strings, Except.map]

/-- A dumped spec is read back. -/
theorem SpecData.read_fields (L : LaxMode) (now : FloatValue) (spec : SpecData) :
    SpecData.read L now spec.fields = .ok spec := by
  have hknown : readObject (knownFields spec.fields) (.object spec.fields) = .ok spec.fields :=
    readObject_of_known fun key hkey => spec.mem_knownFields hkey
  have hagents : readList (AgentSpec.read L)
      (.array (spec.agents.map fun agent => .object agent.fields)) = .ok spec.agents :=
    readList_map fun agent _ => agent.read_fields L
  have htools : readList (ToolSpec.read L)
      (.array (spec.tools.map fun tool => .object tool.fields)) = .ok spec.tools :=
    readList_map fun tool _ => tool.read_fields L
  have hmodels : readList (ModelPolicy.read L)
      (.array (spec.models.map fun model => .object model.fields)) = .ok spec.models :=
    readList_map fun model _ => model.read_fields L
  have hhistory : readList (MutationActionRef.read L now)
      (.array (spec.mutationHistory.map fun ref => .object ref.fields)) = .ok spec.mutationHistory :=
    readList_map fun ref _ => ref.read_fields L now
  have hparent : readField "parent_spec_digest" readOptionalStr (some none) spec.fields =
      .ok spec.parentSpecDigest := by
    have hextra : get? "parent_spec_digest" spec.runtimeKind.extraFields = none := by
      cases spec.runtimeKind <;>
        simp [RuntimeKind.extraFields, TradingAgentsFields.fields, get?_cons]
    simp [SpecData.fields, readField_cons, readField_optional, hextra]
  rw [SpecData.read, hknown, ok_bind, RuntimeKind.read_fields]
  simp only [hparent]
  simp [SpecData.fields, readField_cons, hagents, htools, hmodels, hhistory]

/-- Validating a valid spec gives it again. -/
theorem validateRuntimeSpecPayload_fields (L : LaxMode) (now : FloatValue) (spec : RuntimeSpec) :
    validateRuntimeSpecPayload L now spec.fields = .ok spec := by
  rw [validateRuntimeSpecPayload, SpecData.read_fields, ok_bind, withResult_of_ok spec.valid]

/-- A valid spec is read back from its dump and has its digest. The digest does not tell when a spec
was made, its parent or its metadata. -/
theorem runtimeSpec_round_trip (stableHash : StableHash) (L : LaxMode) (now : FloatValue)
    (spec : RuntimeSpec) :
    validateRuntimeSpecPayload L now spec.fields = .ok spec ∧
    runtimeSpecDigest stableHash L now spec.fields = .ok (spec.specDigest stableHash) ∧
    ∀ createdAt metadata parentSpecDigest, SpecData.specDigest stableHash { spec.toSpecData with
        createdAt := createdAt
        metadata := metadata
        parentSpecDigest := parentSpecDigest } = spec.specDigest stableHash := by
  have hread := validateRuntimeSpecPayload_fields L now spec
  refine ⟨hread, ?_, fun createdAt metadata parentSpecDigest => ?_⟩
  · rw [runtimeSpecDigest, runtimeSpecPayload, hread]
    rfl
  · cases parentSpecDigest <;> cases hparent : spec.parentSpecDigest <;>
      simp [SpecData.specDigest, SpecData.fields, digestPayload, digestFields, digestExcludeKeys,
        optional, hparent]

end Agintor.Contracts.Spec
