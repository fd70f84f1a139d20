import Agintor.Runtime.Executor
import Mathlib.Data.List.Dedup

/-!
# The executor runs one path

A graph is supported when its edges are one simple path from the entry node to the terminal node
through every node. The sequential loop runs the nodes of that path in their order until one fails,
and the callables of the LangGraph graph do the same to the state that they hand on.
-/

namespace Agintor.Runtime

open Lib Core Json Contracts Contracts.Spec

/-! ## What is supported -/

/-- No entry of the metadata asks for an unsupported feature. -/
def NoFeature (metadata : Fields) : Prop := ∀ entry ∈ metadata, isUnsupportedFeature entry = false

/-- Everything a spec must be to be executed, but for the shape of its graph. -/
structure Supported (spec : SpecData) : Prop where
  metadata : NoFeature spec.metadata ∧ NoFeature spec.graph.metadata ∧
    NoFeature spec.execution.metadata
  sequential : spec.execution.allowParallel = false
  nodes : ∀ node ∈ spec.graph.nodes, node.nodeType ∈ supportedNodeTypes ∧
    node.condition = "always" ∧ NoFeature node.metadata
  edges : ∀ edge ∈ spec.graph.edges, edge.condition = "always" ∧ NoFeature edge.metadata
  outputKeys : (spec.graph.nodes.map outputKey).Nodup

/-- The edges of a graph, without what they carry. -/
def arcs (edges : List GraphEdgeSpec) : List (String × String) :=
  edges.map fun edge => (edge.source, edge.target)

def nodeIds (spec : SpecData) : List String := spec.graph.nodes.map (·.nodeId)

/-- The graph is one path from its entry node to its only terminal node, through every node. -/
structure IsPath (spec : SpecData) (last : String) (path : List String) : Prop where
  terminal : spec.graph.terminalNodes = [last]
  simple : IsSimplePath (arcs spec.graph.edges) spec.graph.entryNode last path
  covers : path.Perm (nodeIds spec)

lemma sortedUnique_eq_nil_iff {xs : List String} : sortedUnique xs = [] ↔ xs = [] := by
  rw [sortedUnique, ← List.length_eq_zero_iff, List.length_insertionSort, List.length_eq_zero_iff]
  constructor
  · intro h
    rw [List.eq_nil_iff_forall_not_mem] at h ⊢
    exact fun x hx => h x (List.mem_dedup.mpr hx)
  · rintro rfl
    rfl

lemma duplicates_eq_nil_iff {keys : List String} : duplicates keys = [] ↔ keys.Nodup := by
  rw [duplicates, sortedUnique_eq_nil_iff, List.filter_eq_nil_iff, List.nodup_iff_count_le_one]
  constructor
  · intro h key
    by_cases hkey : key ∈ keys
    · have := h key hkey
      rw [decide_eq_true_eq] at this
      omega
    · rw [List.count_eq_zero_of_not_mem hkey]
      omega
  · intro h key _
    have := h key
    rw [decide_eq_true_eq]
    omega

lemma validateMetadataSubset_eq_ok_iff {metadata : Fields} {path : String} {u : Unit} :
    validateMetadataSubset metadata path = .ok u ↔ NoFeature metadata := by
  unfold validateMetadataSubset NoFeature
  rw [forM_eq_ok_iff]
  simp only [raiseIf_eq_ok_iff, Bool.not_eq_true]

lemma checkNode_eq_ok_iff {node : GraphNodeSpec} : checkNode node = .ok () ↔
    node.nodeType ∈ supportedNodeTypes ∧ node.condition = "always" ∧ NoFeature node.metadata := by
  simp [checkNode, validateMetadataSubset_eq_ok_iff]

lemma checkEdge_eq_ok_iff {edge : GraphEdgeSpec} : checkEdge edge = .ok () ↔
    edge.condition = "always" ∧ NoFeature edge.metadata := by
  simp [checkEdge, validateMetadataSubset_eq_ok_iff]

/-! ## Valid graphs -/

lemma nodeId_ne_empty (node : GraphNodeSpec) : node.nodeId ≠ "" := by
  have hvalid := node.valid
  simp only [nodeCheck, bind_eq_ok_iff, raiseIf_eq_ok_iff] at hvalid
  obtain ⟨-, hstrip, -⟩ := hvalid
  intro hempty
  rw [hempty] at hstrip
  exact hstrip (by decide +kernel)

/-- What the validator of a graph makes sure of. -/
lemma graph_valid (graph : GraphSpec) :
    (graph.nodes.map (·.nodeId)).Nodup ∧ graph.entryNode ∈ graph.nodes.map (·.nodeId) ∧
      (∀ terminal ∈ graph.terminalNodes, terminal ∈ graph.nodes.map (·.nodeId)) ∧
      ∀ edge ∈ graph.edges, edge.source ∈ graph.nodes.map (·.nodeId) ∧
        edge.target ∈ graph.nodes.map (·.nodeId) := by
  have hvalid := graph.valid
  simp only [graphCheck, bind_eq_ok_iff, raiseIf_eq_ok_iff, exists_const, forM_eq_ok_iff,
    not_not, sortedUnique_eq_nil_iff, List.filter_eq_nil_iff] at hvalid
  obtain ⟨hnodup, hentry, hterminals, hedges⟩ := hvalid
  exact ⟨hnodup, hentry, by simpa using hterminals, hedges⟩

variable {left : LangGraphRuntimeState} {rest : List String} {output : Json}
    {last : String} {current : String} {rounds : ℕ}

lemma ne_empty_of_mem {spec : SpecData} {id : String} (h : id ∈ nodeIds spec) : id ≠ "" := by
  obtain ⟨node, -, rfl⟩ := List.mem_map.mp h
  exact nodeId_ne_empty node

/-! ## The walk -/

lemma filter_arcs (edges : List GraphEdgeSpec) (source : String) :
    (arcs edges).filter (fun arc => arc.1 = source) = arcs (outgoing edges source) := by
  unfold arcs outgoing
  rw [List.filter_map]
  rfl

/-- What the walk meets is a path of the graph that repeats no node. -/
lemma entryWalk_sound {edges : List GraphEdgeSpec} {first terminal : String}
    {visited path : List String} (hterminal : terminal ≠ "") (hnodup : visited.Nodup)
    (hhead : (visited ++ [current]).head? = some first)
    (hhops : ∀ hop ∈ hops (visited ++ [current]), hop ∈ arcs edges)
    (h : entryWalk edges terminal rounds visited current = .ok (path, terminal)) :
    path.Nodup ∧ path.head? = some first ∧ path.getLast? = some terminal ∧
      ∀ hop ∈ hops path, hop ∈ arcs edges := by
  induction rounds generalizing visited current with
  | zero => simp [entryWalk] at h
  | succ rounds ih =>
    rw [entryWalk] at h
    split_ifs at h with hempty hvisited hreached
    · simp only [Except.ok.injEq, Prod.mk.injEq] at h
      exact absurd (h.2.symm.trans hempty) hterminal
    · simp only [Except.ok.injEq, Prod.mk.injEq] at h
      obtain ⟨rfl, -⟩ := h
      refine ⟨?_, hhead, ?_, hhops⟩
      · rw [← List.concat_eq_append]
        exact List.Nodup.concat hvisited hnodup
      · rw [List.getLast?_concat, hreached]
    · split at h
      · cases h
      · next edge rest houtgoing =>
        refine ih ?_ ?_ ?_ h
        · rw [← List.concat_eq_append]
          exact List.Nodup.concat hvisited hnodup
        · simpa [List.head?_append] using hhead
        · -- the new hop is the edge that was followed
          intro hop hhop
          rw [hops_concat, List.mem_append, List.mem_singleton] at hhop
          rcases hhop with hhop | rfl
          · exact hhops hop hhop
          · have hedge : edge ∈ outgoing edges current := houtgoing ▸ List.mem_cons_self
            have hsource : edge.source = current := by
              simpa using (List.mem_filter.mp hedge).2
            exact List.mem_map.mpr ⟨edge, (List.mem_filter.mp hedge).1, by rw [hsource]⟩

/-- The walk meets every node of a simple path. -/
lemma entryWalk_path {edges : List GraphEdgeSpec} {first last : String} {visited rest : List String}
    (hpath : IsSimplePath (arcs edges) first last (visited ++ current :: rest))
    (hnames : ∀ id ∈ visited ++ current :: rest, id ≠ "") (hrounds : rest.length < rounds) :
    entryWalk edges last rounds visited current = .ok (visited ++ current :: rest, last) := by
  induction rounds generalizing visited rest current with
  | zero => omega
  | succ rounds ih =>
    have hfresh : current ∉ visited := fun hmem =>
      (List.nodup_append.mp hpath.nodup).2.2 current hmem current List.mem_cons_self rfl
    rw [entryWalk, if_neg (hnames current (by simp)), if_neg hfresh]
    cases rest with
    | nil =>
      have hlast := hpath.last
      rw [List.getLast?_concat, Option.some.injEq] at hlast
      rw [if_pos hlast, hlast]
    | cons next rest =>
      have hne : current ≠ last := by
        rintro rfl
        have hnone := hpath.filter_last
        rw [hpath.filter_append] at hnone
        cases hnone
      have hout := hpath.filter_append
      rw [filter_arcs] at hout
      obtain ⟨edge, houtgoing, hedge⟩ := List.map_eq_singleton_iff.mp hout
      rw [if_neg hne, houtgoing]
      have hassoc : visited ++ current :: next :: rest = (visited ++ [current]) ++ next :: rest := by
        simp
      rw [hassoc] at hpath hnames ⊢
      obtain ⟨-, rfl⟩ := Prod.mk.inj hedge
      exact ih hpath hnames (by simpa using hrounds)

/-- The checks accept a valid spec when it is supported and its graph is a path. -/
lemma checkPass1_eq_ok_iff (spec : RuntimeSpec) {u : Unit} : checkPass1 spec = .ok u ↔
    Supported spec.toSpecData ∧ ∃ last path, IsPath spec.toSpecData last path := by
  obtain ⟨hnodup, hentry, hterminals, hedges⟩ := graph_valid spec.graph
  unfold checkPass1
  simp only [bind_eq_ok_iff, raiseIf_eq_ok_iff, exists_const, validateMetadataSubset_eq_ok_iff,
    Bool.not_eq_true, not_not, duplicates_eq_nil_iff, forM_eq_ok_iff, checkNode_eq_ok_iff,
    checkEdge_eq_ok_iff, List.map_eq_nil_iff, sortedUnique_eq_nil_iff]
  constructor
  · rintro ⟨hmeta, hgraph, hexecution, hparallel, hone, hkeys, hnodes, hedgeChecks, hsources, hend,
      ⟨visited, current⟩, hwalk, hreached, hcover⟩
    obtain ⟨last, hlast⟩ := List.length_eq_one_iff.mp hone
    have hmem : last ∈ nodeIds spec.toSpecData := hterminals last (hlast ▸ List.mem_cons_self)
    rw [hlast, List.headD_cons] at hend hwalk hreached
    dsimp only at hreached
    rw [hreached] at hwalk
    obtain ⟨hvisited, hhead, hgetLast, hhops⟩ := entryWalk_sound (ne_empty_of_mem hmem)
      List.nodup_nil rfl (fun hop hhop => absurd hhop List.not_mem_nil) hwalk
    have hcover' : ∀ id ∈ nodeIds spec.toSpecData, id ∈ visited := by
      intro id hid
      by_contra hout
      exact List.filter_eq_nil_iff.mp hcover id hid (by simpa using hout)
    have hsimple : IsSimplePath (arcs spec.graph.edges) spec.graph.entryNode last visited := by
      refine IsSimplePath.of_filter hvisited hhead hgetLast ?_ ?_ ?_
      · intro hop hhop
        refine filter_key_eq ?_ (hhops hop hhop)
        have hkeys' : (arcs spec.graph.edges).map Prod.fst = spec.graph.edges.map (·.source) := by
          simp [arcs]
        rwa [hkeys']
      · rw [filter_arcs, hend]
        rfl
      · intro arc harc
        obtain ⟨edge, hedge, rfl⟩ := List.mem_map.mp harc
        exact hcover' _ (hedges edge hedge).1
    refine ⟨⟨⟨hmeta, hgraph, hexecution⟩, hparallel, hnodes, hedgeChecks, hkeys⟩, last, visited,
      hlast, hsimple, ?_⟩
    -- a path along edges of the graph stays in the graph
    refine (List.perm_ext_iff_of_nodup hvisited hnodup).mpr fun id => ?_
    refine ⟨fun hid => ?_, hcover' id⟩
    by_cases hid' : id = last
    · exact hid' ▸ hmem
    · obtain ⟨next, hnext⟩ := exists_hop hid hgetLast hid'
      obtain ⟨edge, hedge, heq⟩ := List.mem_map.mp (hhops _ hnext)
      have hsource : edge.source = id := congrArg Prod.fst heq
      exact hsource ▸ (hedges edge hedge).1
  · rintro ⟨hsupported, last, path, hpath⟩
    have hend : outgoing spec.graph.edges last = [] := by
      have hnone := hpath.simple.filter_last
      rw [filter_arcs] at hnone
      exact List.map_eq_nil_iff.mp hnone
    have hsources : (spec.graph.edges.map (·.source)).Nodup := by
      have hperm := hpath.simple.edges.map Prod.fst
      have hkeys : (arcs spec.graph.edges).map Prod.fst = spec.graph.edges.map (·.source) := by
        simp [arcs]
      rw [hkeys] at hperm
      exact hperm.nodup_iff.mpr (nodup_map_fst_hops hpath.simple.nodup)
    have hnames : ∀ id ∈ path, id ≠ "" := fun id hid =>
      ne_empty_of_mem (hpath.covers.mem_iff.mp hid)
    have hlength : path.length = spec.graph.nodes.length := by
      simpa [nodeIds] using hpath.covers.length_eq
    have hwalk : entryWalk spec.graph.edges last (spec.graph.nodes.length + 1) []
        spec.graph.entryNode = .ok (path, last) := by
      obtain ⟨rest, rfl⟩ := List.head?_eq_some_iff.mp hpath.simple.head
      rw [List.length_cons] at hlength
      have hsimple : IsSimplePath (arcs spec.graph.edges) spec.graph.entryNode last
          ([] ++ spec.graph.entryNode :: rest) := hpath.simple
      exact entryWalk_path hsimple hnames (by omega)
    refine ⟨hsupported.metadata.1, hsupported.metadata.2.1, hsupported.metadata.2.2,
      hsupported.sequential, by rw [hpath.terminal]; rfl, hsupported.outputKeys, hsupported.nodes,
      hsupported.edges, hsources, by rw [hpath.terminal, List.headD_cons, hend], (path, last), ?_, ?_,
      ?_⟩
    · rw [hpath.terminal, List.headD_cons, hwalk]
    · rw [hpath.terminal, List.headD_cons]
    · rw [List.filter_eq_nil_iff]
      intro id hid
      simpa using hpath.covers.mem_iff.mpr hid

/-- What the executor accepts. -/
lemma validatePass1SupportedSubset_eq_ok_iff {L : LaxMode} {now : FloatValue} {fields : Fields}
    {spec : RuntimeSpec} : validatePass1SupportedSubset L now fields = .ok spec ↔
      validateRuntimeSpecPayload L now fields = .ok spec ∧ Supported spec.toSpecData ∧
        ∃ last path, IsPath spec.toSpecData last path := by
  unfold validatePass1SupportedSubset
  simp only [bind_eq_ok_iff, exists_const, pure_eq_ok, Except.ok.injEq, checkPass1_eq_ok_iff]
  constructor
  · rintro ⟨valid, hvalid, hchecks, rfl⟩
    exact ⟨hvalid, hchecks⟩
  · rintro ⟨hvalid, hchecks⟩
    exact ⟨spec, hvalid, hchecks, rfl⟩

/-! ## What a node does to the state -/

variable {env : Environment} {service : RuntimeOperationService} {node : GraphNodeSpec}
  {state : LangGraphRuntimeState}

/-- The nodes that rows of the trace with this event are about. -/
def eventNodes (event : String) (trace : List Fields) : List String :=
  trace.filterMap fun row =>
    if (get? "event" row).bind text? = some event then (get? "node_id" row).bind text? else none

lemma eventNodes_record (env : Environment) (state : LangGraphRuntimeState)
    (event wanted : String) (node : GraphNodeSpec) (rest : Fields) :
    eventNodes wanted (state.record env event (nodePayload node ++ rest)).trace =
      eventNodes wanted state.trace ++ if event = wanted then [node.nodeId] else [] := by
  unfold eventNodes
  rw [LangGraphRuntimeState.record, List.filterMap_append]
  by_cases h : event = wanted <;>
    simp [nodePayload, get?_cons, text?, h]

/-- A node that completed left its output, and one row that it was started and one that it
completed. -/
lemma runNode_of_ok
    (h : nodeOutput env service ({ state with currentNodeId := node.nodeId }.record env
      "langgraph_node_started" (nodePayload node)) node = .ok (left, output)) :
    runNode env service state node =
      (keepOutput env left node output, ⟨node.nodeId, outputKey node, output, .completed⟩) := by
  unfold runNode
  simp only [h]

lemma runNode_of_error {message : String}
    (h : nodeOutput env service ({ state with currentNodeId := node.nodeId }.record env
      "langgraph_node_started" (nodePayload node)) node = .error message) :
    runNode env service state node =
      ({ { state with currentNodeId := node.nodeId }.record env "langgraph_node_started"
          (nodePayload node) with status := .failed, error := message }.record env
          "langgraph_node_failed" (nodePayload node ++ [("error", Json.str message)]),
        ⟨node.nodeId, outputKey node, .null, .failed⟩) := by
  unfold runNode
  simp only [h]

/-- What computing an output may do to the state: a receipt is kept. -/
lemma nodeOutput_state (h : nodeOutput env service state node = .ok (left, output)) :
    left = state ∨ (left, output) = recordSideEffectIntent env state node := by
  unfold nodeOutput at h
  split at h
  all_goals first
    | exact Or.inr (Except.ok.inj h).symm
    | (obtain ⟨rfl, -⟩ := Prod.mk.inj (Except.ok.inj h); exact Or.inl rfl)
    | cases h
    | (obtain ⟨out, -, hout⟩ := map_eq_ok_iff.mp h
       exact Or.inl (Prod.mk.inj hout).1.symm)

/-- A node that completed: its output is kept, and the trace says so. -/
structure Completed (node : GraphNodeSpec) (output : Json) (before after : LangGraphRuntimeState) :
    Prop where
  nodeResults : after.nodeResults = set node.nodeId output before.nodeResults
  status : after.status = before.status
  started : eventNodes "langgraph_node_started" after.trace =
    eventNodes "langgraph_node_started" before.trace ++ [node.nodeId]
  completed : eventNodes "langgraph_node_completed" after.trace =
    eventNodes "langgraph_node_completed" before.trace ++ [node.nodeId]
  failed : eventNodes "langgraph_node_failed" after.trace =
    eventNodes "langgraph_node_failed" before.trace

/-- A node that failed, and the run with it. -/
structure Failed (node : GraphNodeSpec) (before after : LangGraphRuntimeState) : Prop where
  nodeResults : after.nodeResults = before.nodeResults
  status : after.status = .failed
  started : eventNodes "langgraph_node_started" after.trace =
    eventNodes "langgraph_node_started" before.trace ++ [node.nodeId]
  completed : eventNodes "langgraph_node_completed" after.trace =
    eventNodes "langgraph_node_completed" before.trace
  failed : eventNodes "langgraph_node_failed" after.trace =
    eventNodes "langgraph_node_failed" before.trace ++ [node.nodeId]

/-- The row that a node was started. -/
abbrev start (env : Environment) (state : LangGraphRuntimeState) (node : GraphNodeSpec) :
    LangGraphRuntimeState :=
  { state with currentNodeId := node.nodeId }.record env "langgraph_node_started" (nodePayload node)

lemma eventNodes_start (wanted : String) : eventNodes wanted (start env state node).trace =
    eventNodes wanted state.trace ++
      if "langgraph_node_started" = wanted then [node.nodeId] else [] := by
  have hrecord := eventNodes_record env { state with currentNodeId := node.nodeId }
    "langgraph_node_started" wanted node []
  rwa [List.append_nil] at hrecord

lemma eventNodes_keepOutput (wanted : String) (hwanted : wanted ≠ "langgraph_tool_action")
    (output : Json) : eventNodes wanted (keepOutput env state node output).trace =
      eventNodes wanted state.trace ++
        if "langgraph_node_completed" = wanted then [node.nodeId] else [] := by
  unfold keepOutput
  rw [eventNodes_record]
  congr 1
  split
  · rw [eventNodes_record, if_neg hwanted.symm, List.append_nil]
  · rfl

lemma nodeResults_keepOutput (env : Environment) (state : LangGraphRuntimeState)
    (node : GraphNodeSpec) (output : Json) : (keepOutput env state node output).nodeResults =
      set node.nodeId output state.nodeResults := by
  unfold keepOutput
  dsimp only
  split <;> rfl

lemma status_keepOutput (env : Environment) (state : LangGraphRuntimeState) (node : GraphNodeSpec)
    (output : Json) : (keepOutput env state node output).status = state.status := by
  unfold keepOutput
  dsimp only
  split <;> rfl

/-- A node completes with the output it computed, or fails. -/
lemma runNode_cases (env : Environment) (service : RuntimeOperationService)
    (state : LangGraphRuntimeState) (node : GraphNodeSpec) :
    ((runNode env service state node).2.status = .completed ∧
      ∃ left output, nodeOutput env service (start env state node) node = .ok (left, output) ∧
        (runNode env service state node).1 = keepOutput env left node output ∧
        Completed node output state (runNode env service state node).1) ∨
    ((runNode env service state node).2.status = .failed ∧
      Failed node state (runNode env service state node).1) := by
  cases hout : nodeOutput env service (start env state node) node with
  | error message =>
    right
    rw [runNode_of_error hout]
    refine ⟨rfl, rfl, rfl, ?_, ?_, ?_⟩ <;> rw [eventNodes_record]
    · rw [if_neg (by decide), List.append_nil]
      exact eventNodes_start _
    · rw [if_neg (by decide), List.append_nil]
      exact (eventNodes_start _).trans (List.append_nil _)
    · rw [if_pos rfl]
      exact congrArg (· ++ _) ((eventNodes_start _).trans (List.append_nil _))
  | ok result =>
    obtain ⟨left, output⟩ := result
    left
    rw [runNode_of_ok hout]
    -- what the output is computed from leaves the trace, the results and the status
    have hleft : left.trace = (start env state node).trace ∧ left.nodeResults = state.nodeResults ∧
        left.status = state.status := by
      rcases nodeOutput_state hout with rfl | hleft
      · exact ⟨rfl, rfl, rfl⟩
      · obtain ⟨rfl, -⟩ := Prod.mk.inj hleft
        exact ⟨rfl, rfl, rfl⟩
    refine ⟨rfl, left, output, rfl, rfl, (nodeResults_keepOutput env left node output).trans
      (by rw [hleft.2.1]), (status_keepOutput env left node output).trans hleft.2.2, ?_, ?_, ?_⟩ <;>
        rw [eventNodes_keepOutput _ (by decide), hleft.1, eventNodes_start]
    · simp
    · simp
    · simp

/-! ## The sequential loop -/

/-- The nodes of a path, one after the other, until one fails. -/
def runPath (env : Environment) (service : RuntimeOperationService) :
    List String → LangGraphRuntimeState → LangGraphRuntimeState
  | [], state => { state with status := .completed }
  | id :: rest, state =>
    match service.runtimeSpec.graph.nodes.find? (·.nodeId = id) with
    | none => state
    | some node =>
      let ran := runNode env service state node
      if ran.2.status = .failed then ran.1 else runPath env service rest ran.1

lemma find?_node {spec : SpecData} {id : String} (h : id ∈ nodeIds spec) :
    ∃ node, spec.graph.nodes.find? (·.nodeId = id) = some node ∧ node.nodeId = id := by
  obtain ⟨node, hnode, hid⟩ := List.mem_map.mp h
  have hsome : (spec.graph.nodes.find? (·.nodeId = id)).isSome := by
    rw [List.find?_isSome]
    exact ⟨node, hnode, by simpa using hid⟩
  obtain ⟨found, hfound⟩ := Option.isSome_iff_exists.mp hsome
  exact ⟨found, hfound, by simpa using List.find?_some hfound⟩

lemma runPath_cons {id : String}
    (hfind : service.runtimeSpec.graph.nodes.find? (·.nodeId = id) = some node) :
    runPath env service (id :: rest) state =
      if (runNode env service state node).2.status = .failed then (runNode env service state node).1
      else runPath env service rest (runNode env service state node).1 := by
  rw [runPath]
  simp only [hfind]

/-- The loop runs what is left of the path. -/
lemma sequentialLoop_eq_runPath {visited rest : List String}
    (hpath : IsPath service.runtimeSpec.toSpecData last (visited ++ current :: rest))
    (hrounds : rest.length < rounds) :
    sequentialLoop env service service.runtimeSpec.graph.nodes service.runtimeSpec.graph.edges
        service.runtimeSpec.graph.terminalNodes rounds visited current state =
      runPath env service (current :: rest) state := by
  induction rounds generalizing visited rest current state with
  | zero => omega
  | succ rounds ih =>
    have hmem : current ∈ nodeIds service.runtimeSpec.toSpecData :=
      hpath.covers.mem_iff.mp (by simp)
    have hfresh : current ∉ visited := fun hmem =>
      (List.nodup_append.mp hpath.simple.nodup).2.2 current hmem current List.mem_cons_self rfl
    have hguard : ¬(current = "" ∨ current ∈ visited) := by
      simp [ne_empty_of_mem hmem, hfresh]
    obtain ⟨node, hfind, hid⟩ := find?_node hmem
    rw [sequentialLoop, if_neg hguard, runPath_cons hfind]
    simp only [hfind]
    split_ifs with hfailed hterminal
    · rfl
    · -- the terminal node is the last one of the path
      cases rest with
      | nil => rfl
      | cons next rest =>
        rw [hpath.terminal, List.mem_singleton] at hterminal
        have hnone := hpath.simple.filter_last
        rw [← hterminal, hpath.simple.filter_append] at hnone
        cases hnone
    · cases rest with
      | nil =>
        have hlast := hpath.simple.last
        rw [List.getLast?_concat, Option.some.injEq] at hlast
        exact absurd (by rw [hpath.terminal, hlast]; exact List.mem_cons_self) hterminal
      | cons next rest =>
        have hout := hpath.simple.filter_append
        rw [filter_arcs] at hout
        obtain ⟨edge, houtgoing, hedge⟩ := List.map_eq_singleton_iff.mp hout
        obtain ⟨-, rfl⟩ := Prod.mk.inj hedge
        have hassoc : visited ++ current :: edge.target :: rest =
            (visited ++ [current]) ++ edge.target :: rest := by simp
        rw [hassoc] at hpath
        rw [houtgoing]
        exact ih hpath (by simpa using hrounds)

/-- What a run over a path did: it started the nodes of the path in their order, and completed them
all or failed at the last one that it started. -/
structure Account (path : List String) (state : LangGraphRuntimeState) : Prop where
  status : state.status =
    if eventNodes "langgraph_node_completed" state.trace = path then .completed else .failed
  completed : state.status = .completed →
    eventNodes "langgraph_node_started" state.trace = path ∧
      eventNodes "langgraph_node_failed" state.trace = []
  failed : state.status = .failed → ∃ front node rest, path = front ++ node :: rest ∧
    eventNodes "langgraph_node_started" state.trace = front ++ [node] ∧
      eventNodes "langgraph_node_completed" state.trace = front ∧
      eventNodes "langgraph_node_failed" state.trace = [node]

/-- A run that has completed the nodes of a front of the path accounts for the whole path. -/
lemma account_runPath {front rest : List String}
    (hrest : ∀ id ∈ rest, id ∈ nodeIds service.runtimeSpec.toSpecData)
    (hstarted : eventNodes "langgraph_node_started" state.trace = front)
    (hcompleted : eventNodes "langgraph_node_completed" state.trace = front)
    (hfailed : eventNodes "langgraph_node_failed" state.trace = []) :
    Account (front ++ rest) (runPath env service rest state) := by
  induction rest generalizing front state with
  | nil =>
    rw [List.append_nil]
    exact ⟨(if_pos hcompleted).symm, fun _ => ⟨hstarted, hfailed⟩, 
      fun h => absurd (show RunStatus.completed = .failed from h) (by decide)⟩
  | cons id rest ih =>
    obtain ⟨node, hfind, hid⟩ := find?_node (hrest id List.mem_cons_self)
    rw [runPath_cons hfind]
    rcases runNode_cases env service state node with ⟨hstatus, -, output, -, -, hran⟩ | ⟨hstatus, hran⟩
    · have hne : ¬(runNode env service state node).2.status = .failed := by simp [hstatus]
      rw [if_neg hne]
      have hassoc : front ++ id :: rest = (front ++ [id]) ++ rest := by simp
      rw [hassoc]
      refine ih (fun other hother => hrest other (List.mem_cons_of_mem id hother)) ?_ ?_ ?_
      · rw [hran.started, hstarted, hid]
      · rw [hran.completed, hcompleted, hid]
      · rw [hran.failed, hfailed]
    · rw [if_pos hstatus]
      refine ⟨?_, fun h => ?_, fun _ => ⟨front, id, rest, rfl, ?_, ?_, ?_⟩⟩
      · have hshort : front ≠ front ++ id :: rest := fun h => by simpa using congrArg List.length h
        rw [hran.completed, hcompleted, if_neg hshort, hran.status]
      · exact absurd (hran.status.symm.trans h) (by decide)
      · rw [hran.started, hstarted, hid]
      · rw [hran.completed, hcompleted]
      · rw [hran.failed, hfailed, hid, List.nil_append]

/-- The sequential back end runs the path. -/
lemma sequentialInvoke_eq_runPath {path : List String}
    (hpath : IsPath service.runtimeSpec.toSpecData last path) (asked : Invocation) :
    sequentialInvoke env service asked =
      runPath env service path (initialState env service.runtimeSpec asked) := by
  have hlength : path.length = service.runtimeSpec.graph.nodes.length := by
    simpa [nodeIds] using hpath.covers.length_eq
  obtain ⟨rest, rfl⟩ := List.head?_eq_some_iff.mp hpath.simple.head
  rw [List.length_cons] at hlength
  have hfront : IsPath service.runtimeSpec.toSpecData last
      ([] ++ service.runtimeSpec.graph.entryNode :: rest) := hpath
  have hended : Account ([] ++ service.runtimeSpec.graph.entryNode :: rest) (runPath env service
      (service.runtimeSpec.graph.entryNode :: rest)
      (initialState env service.runtimeSpec asked)) :=
    account_runPath (fun id hid => hpath.covers.mem_iff.mp hid) rfl rfl rfl
  have hrunning : ¬(runPath env service (service.runtimeSpec.graph.entryNode :: rest)
      (initialState env service.runtimeSpec asked)).status = .running := by
    rw [hended.status]
    split <;> decide
  unfold sequentialInvoke invokeSequential
  dsimp only
  rw [sequentialLoop_eq_runPath hfront (by omega), if_neg hrunning]

/-! ## The state as JSON -/

/-- Everything that the state holds for values of type `Any` is JSON. -/
structure JsonState (state : LangGraphRuntimeState) : Prop where
  artifacts : isFinite (.object state.artifacts) = true
  nodeResults : isFinite (.object state.nodeResults) = true
  trace : ∀ row ∈ state.trace, isFinite (.object row) = true
  budget : isFinite (.object state.budget) = true
  sideEffectReceipts : ∀ receipt ∈ state.sideEffectReceipts, isFinite (.object receipt) = true
  runtimeEvidenceManifest : isFinite (.object state.runtimeEvidenceManifest) = true

@[simp] lemma isFinite_object {fields : Fields} : isFinite (.object fields) = true ↔
    ∀ field ∈ fields, isFinite field.2 = true := by
  unfold isFinite
  rw [all_object, List.all_eq_true]
  simp

@[simp] lemma isFinite_array {items : List Json} : isFinite (.array items) = true ↔
    ∀ item ∈ items, isFinite item = true := by
  unfold isFinite
  rw [all_array, List.all_eq_true]

@[simp] lemma isFinite_str (s : String) : isFinite (.str s) = true := rfl

@[simp] lemma isFinite_int (n : ℤ) : isFinite (.int n) = true := rfl

@[simp] lemma isFinite_bool (b : Bool) : isFinite (.bool b) = true := rfl

@[simp] lemma isFinite_float (q : ℚ) : isFinite (.float q) = true := rfl

@[simp] lemma isFinite_null : isFinite .null = true := rfl

lemma RunStatus.read_name (status : RunStatus) :
    readLiteral RunStatus.name RunStatus.members (.str status.name) = .ok status :=
  readLiteral_name (by cases status <;> rfl)

variable {M : JsonMode} {L : LaxMode}

/-- A state of JSON values is read back from its dump. -/
lemma read_fields (h : JsonState state) :
    LangGraphRuntimeState.read L (.object (state.fields M)) = .ok state := by
  have hrows : ∀ rows : List Fields, (∀ row ∈ rows, isFinite (.object row) = true) →
      readList readDict (.array (rows.map fun row => M.toJson (.object row))) = .ok rows :=
    fun rows hrows => readList_map fun row hrow => by
      rw [M.toJson_of_finite _ (hrows row hrow), readDict_object]
  have hcontext : readField "trace_context" (readOptional (OpenAITraceContext.read L)) (some none)
      (state.fields M) = .ok state.traceContext := by
    have hread : ∀ context : OpenAITraceContext,
        readOptional (OpenAITraceContext.read L) (.object context.fields) = .ok (some context) := by
      intro context
      simp [readOptional, context.read_fields, Except.map]
    refine readField_of_present hread ?_
    rw [LangGraphRuntimeState.fields, get?_append, get?_present]
    cases state.traceContext <;> simp [get?_cons]
  have hothers : ∀ {α : Type} {key : String} {read : Json → Except ValidationError α}
      {default : Option α} (rest : Fields), "trace_context" ≠ key →
      readField key read default (present "trace_context"
        (fun context => .object (OpenAITraceContext.fields context)) state.traceContext ++ rest) =
        readField key read default rest := by
    intro α key read default rest hkey
    refine readField_congr ?_
    rw [get?_append, get?_present, if_neg hkey, Option.none_or]
  rw [LangGraphRuntimeState.read, readDict_object, ok_bind]
  simp only [hcontext]
  unfold LangGraphRuntimeState.fields
  simp [hothers, readField_cons, M.toJson_of_finite _ h.artifacts,
    M.toJson_of_finite _ h.nodeResults, hrows _ h.trace, M.toJson_of_finite _ h.budget,
    hrows _ h.sideEffectReceipts, M.toJson_of_finite _ h.runtimeEvidenceManifest,
    RunStatus.read_name]

lemma jsonState_record (h : JsonState state) {event : String} {payload : Fields}
    (hpayload : isFinite (.object payload) = true) :
    JsonState (state.record env event payload) := by
  refine { h with trace := ?_ }
  intro row hrow
  rcases List.mem_append.mp hrow with hrow | hrow
  · exact h.trace row hrow
  · rw [List.mem_singleton.mp hrow]
    rw [isFinite_object] at hpayload ⊢
    intro field hfield
    simp only [List.mem_cons] at hfield
    rcases hfield with rfl | rfl | rfl | hfield
    · rfl
    · rfl
    · rfl
    · exact hpayload field hfield

lemma isFinite_inputRefs (env : Environment) (state : LangGraphRuntimeState)
    (node : GraphNodeSpec) : isFinite (.array (inputRefs env state node)) = true := by
  rw [isFinite_array]
  intro ref href
  obtain ⟨key, -, rfl⟩ := List.mem_map.mp href
  simp

/-- A state of JSON values stays one, where the output is JSON. -/
lemma jsonState_keepOutput (h : JsonState state) (houtput : isFinite output = true) :
    JsonState (keepOutput env state node output) := by
  have hset : ∀ (key : String) (fields : Fields), isFinite (.object fields) = true →
      isFinite (.object (set key output fields)) = true := by
    intro key fields hfields
    rw [isFinite_object] at hfields ⊢
    intro field hfield
    rcases of_mem_set hfield with rfl | hfield
    · exact houtput
    · exact hfields field hfield
  have hkept : JsonState { state with
      nodeResults := set node.nodeId output state.nodeResults
      artifacts := set (outputKey node) output state.artifacts } :=
    { h with artifacts := hset _ _ h.artifacts, nodeResults := hset _ _ h.nodeResults }
  unfold keepOutput
  refine jsonState_record ?_ ?_
  · split
    · exact jsonState_record hkept (by simp [nodePayload])
    · exact hkept
  · have hrefs := isFinite_inputRefs env { state with
      nodeResults := set node.nodeId output state.nodeResults
      artifacts := set (outputKey node) output state.artifacts } node
    simp [nodePayload, hrefs]

/-- A receipt that is kept is part of the output. -/
lemma jsonState_nodeOutput (h : JsonState state)
    (hout : nodeOutput env service state node = .ok (left, output))
    (houtput : isFinite output = true) : JsonState left := by
  rcases nodeOutput_state hout with rfl | hleft
  · exact h
  · obtain ⟨rfl, rfl⟩ := Prod.mk.inj hleft
    refine { h with sideEffectReceipts := ?_ }
    intro receipt hreceipt
    rcases List.mem_append.mp hreceipt with hreceipt | hreceipt
    · exact h.sideEffectReceipts receipt hreceipt
    · rw [List.mem_singleton.mp hreceipt]
      rw [isFinite_object] at houtput
      exact houtput _ List.mem_cons_self

/-- A node keeps the state JSON, where what it computes is JSON. -/
lemma jsonState_runNode (h : JsonState state)
    (houtput : ∀ left output, nodeOutput env service (start env state node) node =
      .ok (left, output) → isFinite output = true) :
    JsonState (runNode env service state node).1 := by
  have hnode : isFinite (.object (nodePayload node)) = true := by simp [nodePayload]
  have hcurrent : JsonState { state with currentNodeId := node.nodeId } := { h with }
  have hstart : JsonState (start env state node) := jsonState_record hcurrent hnode
  cases hout : nodeOutput env service (start env state node) node with
  | error message =>
    have hfailed : JsonState
        { start env state node with status := RunStatus.failed, error := message } :=
      { hstart with }
    have hmessage : isFinite (.object (nodePayload node ++ [("error", Json.str message)])) = true := by
      simp [nodePayload]
    rw [runNode_of_error hout]
    exact jsonState_record hfailed hmessage
  | ok result =>
    obtain ⟨left, output⟩ := result
    rw [runNode_of_ok hout]
    exact jsonState_keepOutput (jsonState_nodeOutput hstart hout (houtput left output hout))
      (houtput left output hout)

/-- A result stays, since no later node has the same name. -/
lemma mem_nodeResults_runPath {field : String × Json}
    (hrest : ∀ id ∈ rest, id ∈ nodeIds service.runtimeSpec.toSpecData)
    (hmem : field ∈ state.nodeResults) (hfresh : field.1 ∉ rest) :
    field ∈ (runPath env service rest state).nodeResults := by
  induction rest generalizing state with
  | nil => exact hmem
  | cons id rest ih =>
    obtain ⟨node, hfind, hid⟩ := find?_node (hrest id List.mem_cons_self)
    have hne : field.1 ≠ node.nodeId := fun h => hfresh (h.trans hid ▸ List.mem_cons_self)
    rw [runPath_cons hfind]
    rcases runNode_cases env service state node with ⟨hstatus, -, output, -, -, hran⟩ | ⟨hstatus, hran⟩
    · rw [if_neg (by simp [hstatus])]
      refine ih (fun other hother => hrest other (List.mem_cons_of_mem id hother)) ?_
        fun hin => hfresh (List.mem_cons_of_mem id hin)
      rw [hran.nodeResults]
      exact mem_set_of_mem hmem hne
    · rw [if_pos hstatus, hran.nodeResults]
      exact hmem

/-! ## The LangGraph back end -/

lemma call_buildLanggraphApp {id : String}
    (hfind : service.runtimeSpec.graph.nodes.find? (·.nodeId = id) = some node) (raw : Json) :
    (buildLanggraphApp env service M L).call raw id = lgCallable env service M L node raw := by
  unfold StateGraph.call buildLanggraphApp
  rw [List.find?_map]
  have hsame : ((fun entry : String × (Json → Except ValidationError Json) =>
      decide (entry.1 = id)) ∘ fun node : GraphNodeSpec =>
        (node.nodeId, lgCallable env service M L node)) = fun node => decide (node.nodeId = id) := rfl
  rw [hsame, hfind]
  rfl

/-- After a failure the callables hand the state on. -/
lemma foldlM_call_of_failed (hrest : ∀ id ∈ rest, id ∈ nodeIds service.runtimeSpec.toSpecData)
    (hjson : JsonState state) (hfailed : state.status = .failed) :
    rest.foldlM (buildLanggraphApp env service M L).call (.object (state.fields M)) =
      .ok (.object (state.fields M)) := by
  induction rest with
  | nil => rfl
  | cons id rest ih =>
    obtain ⟨node, hfind, -⟩ := find?_node (hrest id List.mem_cons_self)
    rw [List.foldlM_cons, call_buildLanggraphApp hfind, lgCallable, read_fields hjson, ok_bind,
      runCallable, if_pos hfailed, pure_eq_ok, ok_bind]
    exact ih fun other hother => hrest other (List.mem_cons_of_mem id hother)

/-- The output of a node is among the results of the run. -/
lemma isFinite_of_results {id : String}
    (hfind : service.runtimeSpec.graph.nodes.find? (·.nodeId = id) = some node)
    (hid : node.nodeId = id)
    (hrest : ∀ other ∈ rest, other ∈ nodeIds service.runtimeSpec.toSpecData) (hfresh : id ∉ rest)
    (houtputs : ∀ field ∈ (runPath env service (id :: rest) state).nodeResults,
      isFinite field.2 = true)
    (hout : nodeOutput env service (start env state node) node = .ok (left, output)) :
    isFinite output = true := by
  have hran := runNode_of_ok hout
  rw [runPath_cons hfind, if_neg (by rw [hran]; simp)] at houtputs
  refine houtputs (node.nodeId, output) (mem_nodeResults_runPath hrest ?_ (hid ▸ hfresh))
  rw [hran, nodeResults_keepOutput]
  exact mem_set_self _ _ _

/-- The callables do to the dumped state what the sequential loop does to the state. -/
lemma foldlM_call_eq_runPath {front rest : List String} {id : String}
    (hpath : IsPath service.runtimeSpec.toSpecData last (front ++ id :: rest))
    (hjson : JsonState state) (hrunning : state.status = .running)
    (houtputs : ∀ field ∈ (runPath env service (id :: rest) state).nodeResults,
      isFinite field.2 = true) :
    JsonState (runPath env service (id :: rest) state) ∧
      (id :: rest).foldlM (buildLanggraphApp env service M L).call (.object (state.fields M)) =
        .ok (.object ((runPath env service (id :: rest) state).fields M)) := by
  induction rest generalizing front id state with
  | nil =>
    obtain ⟨node, hfind, hid⟩ := find?_node (hpath.covers.mem_iff.mp (by simp : id ∈ front ++ [id]))
    have hran : JsonState (runNode env service state node).1 := jsonState_runNode hjson
      fun left output => isFinite_of_results hfind hid (fun _ hin => absurd hin List.not_mem_nil)
        List.not_mem_nil houtputs
    have hlast : node.nodeId ∈ service.runtimeSpec.graph.terminalNodes := by
      have hend := hpath.simple.last
      rw [List.getLast?_concat, Option.some.injEq] at hend
      rw [hpath.terminal, hid, hend]
      exact List.mem_cons_self
    rw [List.foldlM_cons, call_buildLanggraphApp hfind, lgCallable, read_fields hjson, ok_bind,
      runCallable, if_neg (by simp [hrunning]), pure_eq_ok, ok_bind, runPath_cons hfind]
    dsimp only
    rcases runNode_cases env service state node with ⟨hstatus, -⟩ | ⟨hstatus, hfailed⟩
    · rw [if_neg (by simp [hstatus]), if_neg (by simp [hstatus]), if_pos hlast]
      exact ⟨{ hran with }, rfl⟩
    · rw [if_pos hstatus, if_pos hstatus, ← hfailed.status]
      exact ⟨hran, rfl⟩
  | cons next rest ih =>
    obtain ⟨node, hfind, hid⟩ := find?_node
      (hpath.covers.mem_iff.mp (by simp : id ∈ front ++ id :: next :: rest))
    have hids : ∀ other ∈ next :: rest, other ∈ nodeIds service.runtimeSpec.toSpecData :=
      fun other hother => hpath.covers.mem_iff.mp
        (List.mem_append_right front (List.mem_cons_of_mem id hother))
    have hfresh : id ∉ next :: rest := (List.nodup_cons.mp
      (List.nodup_append.mp hpath.simple.nodup).2.1).1
    have hran : JsonState (runNode env service state node).1 := jsonState_runNode hjson
      fun left output => isFinite_of_results hfind hid hids hfresh houtputs
    have hmiddle : node.nodeId ∉ service.runtimeSpec.graph.terminalNodes := by
      rw [hpath.terminal, List.mem_singleton, hid]
      rintro rfl
      have hnone := hpath.simple.filter_last
      rw [hpath.simple.filter_append] at hnone
      cases hnone
    rw [List.foldlM_cons, call_buildLanggraphApp hfind, lgCallable, read_fields hjson, ok_bind,
      runCallable, if_neg (by simp [hrunning]), pure_eq_ok, ok_bind]
    rw [runPath_cons hfind] at houtputs ⊢
    dsimp only
    rcases runNode_cases env service state node with ⟨hstatus, -, output, -, -, hdone⟩ | ⟨hstatus, hfailed⟩
    · have hne : ¬(runNode env service state node).2.status = .failed := by simp [hstatus]
      rw [if_neg hne] at houtputs ⊢
      rw [if_neg hne, if_neg hmiddle]
      have hassoc : front ++ id :: next :: rest = (front ++ [id]) ++ next :: rest := by simp
      rw [hassoc] at hpath
      exact ih hpath hran (hdone.status.trans hrunning) houtputs
    · rw [if_pos hstatus, if_pos hstatus]
      have hsame : { (runNode env service state node).1 with status := RunStatus.failed } =
          (runNode env service state node).1 := by rw [← hfailed.status]
      rw [hsame]
      exact ⟨hran, foldlM_call_of_failed hids hran hfailed.status⟩

lemma jsonState_initialState (spec : RuntimeSpec) (asked : Invocation) :
    JsonState (initialState env spec asked) := by
  constructor <;> simp [initialState]

/-- The LangGraph back end ends in the state of the sequential one. -/
lemma langgraphInvoke_eq {path : List String}
    (hpath : IsPath service.runtimeSpec.toSpecData last path) (langgraph : LangGraph)
    (asked : Invocation) (houtputs : ∀ field ∈ (sequentialInvoke env service asked).nodeResults,
      isFinite field.2 = true) :
    langgraphInvoke env service M L langgraph asked = .ok (sequentialInvoke env service asked) := by
  rw [sequentialInvoke_eq_runPath hpath] at houtputs ⊢
  have hgraph := langgraph.invoke_of_path (buildLanggraphApp env service M L) last path
    (.object ((initialState env service.runtimeSpec asked).fields M)) hpath.simple hpath.terminal
    (by simpa [buildLanggraphApp, nodeIds, Function.comp_def] using hpath.covers)
  obtain ⟨rest, rfl⟩ := List.head?_eq_some_iff.mp hpath.simple.head
  have hfront : IsPath service.runtimeSpec.toSpecData last
      ([] ++ service.runtimeSpec.graph.entryNode :: rest) := hpath
  obtain ⟨hjson, hfold⟩ := foldlM_call_eq_runPath (M := M) (L := L) hfront
    (jsonState_initialState service.runtimeSpec asked) rfl houtputs
  unfold langgraphInvoke
  dsimp only
  rw [hgraph, hfold, ok_bind, read_fields hjson]

/-- A spec is executed when it is valid and supported and its graph is one path. The sequential back
end then runs that path, up to the first failure, and the LangGraph back end ends in the same state,
where the outputs are JSON. -/
theorem executor_runs_path (env : Environment) (M : JsonMode) (L : LaxMode) (now : FloatValue)
    (fields : Fields) :
    (∀ spec, validatePass1SupportedSubset L now fields = .ok spec ↔
      validateRuntimeSpecPayload L now fields = .ok spec ∧ Supported spec.toSpecData ∧
        ∃ last path, IsPath spec.toSpecData last path) ∧
    ∀ provider service, compileSpecRuntime L now fields provider = .ok service →
      ∃ last path, IsPath service.runtimeSpec.toSpecData last path ∧ ∀ asked,
        Account path (sequentialInvoke env service asked) ∧
        ∀ langgraph, (∀ result ∈ (sequentialInvoke env service asked).nodeResults,
            isFinite result.2 = true) →
          langgraphInvoke env service M L langgraph asked =
            .ok (sequentialInvoke env service asked) := by
  refine ⟨fun spec => validatePass1SupportedSubset_eq_ok_iff, ?_⟩
  intro provider service hcompile
  simp only [compileSpecRuntime, bind_eq_ok_iff, pure_eq_ok, Except.ok.injEq] at hcompile
  obtain ⟨spec, hspec, rfl⟩ := hcompile
  obtain ⟨-, -, last, path, hpath⟩ := validatePass1SupportedSubset_eq_ok_iff.mp hspec
  refine ⟨last, path, hpath, fun asked => ⟨?_, fun langgraph houtputs =>
    langgraphInvoke_eq hpath langgraph asked houtputs⟩⟩
  rw [sequentialInvoke_eq_runPath hpath]
  have haccount : Account ([] ++ path) (runPath env ⟨spec, provider, []⟩ path
      (initialState env spec asked)) :=
    account_runPath (fun id hid => hpath.covers.mem_iff.mp hid) rfl rfl rfl
  exact haccount

/-- A value computed by a builtin node, and a check that names it. -/
def sampleGraph : GraphSpec where
  graphId := "main"
  entryNode := "work"
  terminalNodes := ["check"]
  nodes := [
    { nodeId := "work", nodeType := .builtin, agentId := none, toolId := none, description := "",
      inputKeys := [], outputKey := "answer", staticArgs := [("value", .int 1)],
      condition := "always", externallyVisible := true, metadata := [], valid := by decide +kernel },
    { nodeId := "check", nodeType := .verify, agentId := none, toolId := none, description := "",
      inputKeys := ["answer"], outputKey := "", staticArgs := [], condition := "always",
      externallyVisible := true, metadata := [], valid := by decide +kernel }]
  edges := [⟨"work", "check", "always", 0, []⟩]
  metadata := []
  valid := by decide +kernel

def sampleSpec : RuntimeSpec where
  runtimeId := "runtime"
  runtimeKind := .langgraphSpec
  name := "Runtime"
  description := ""
  agents := []
  graph := sampleGraph
  tools := []
  models := [.default]
  memory := .default
  execution := .default
  tracing := .default
  mutationHistory := []
  parentSpecDigest := none
  createdAt := .finite 0
  metadata := []
  valid := by decide +kernel

lemma supported_sampleSpec : Supported sampleSpec.toSpecData where
  metadata := by refine ⟨?_, ?_, ?_⟩ <;> intro entry hentry <;> cases hentry
  sequential := rfl
  nodes := by
    intro node hnode
    simp only [sampleSpec, sampleGraph, List.mem_cons, List.not_mem_nil, or_false] at hnode
    rcases hnode with rfl | rfl <;>
      exact ⟨by decide, rfl, fun entry hentry => absurd hentry List.not_mem_nil⟩
  edges := by
    intro edge hedge
    obtain rfl := List.mem_singleton.mp hedge
    exact ⟨rfl, fun entry hentry => absurd hentry List.not_mem_nil⟩
  outputKeys := by decide

lemma isPath_sampleSpec : IsPath sampleSpec.toSpecData "check" ["work", "check"] where
  terminal := rfl
  simple := ⟨by decide, rfl, rfl, List.Perm.refl _⟩
  covers := List.Perm.refl _

def sampleEnvironment : Environment where
  stableHash := fun _ => "digest"
  clock := fun reading => reading
  arithmetic := ⟨fun _ => .error "no float", fun _ => .int 0, fun x _ => x⟩

def sampleService : RuntimeOperationService := ⟨sampleSpec, none, []⟩

def sampleInvocation : Invocation := ⟨"prompt", "request", "task", 0, "hash", none⟩

lemma isFinite_sampleResults :
    ((sequentialInvoke sampleEnvironment sampleService sampleInvocation).nodeResults.all
      fun result => isFinite result.2) = true := by decide +kernel

theorem executor_runs_path_sample :
    compileSpecRuntime .strict (.finite 0) sampleSpec.fields none = .ok sampleService ∧
      ∃ last path, IsPath sampleSpec.toSpecData last path ∧
        Account path (sequentialInvoke sampleEnvironment sampleService sampleInvocation) ∧
        langgraphInvoke sampleEnvironment sampleService ⟨id, fun _ _ => rfl⟩ .strict .ofPaths
          sampleInvocation =
            .ok (sequentialInvoke sampleEnvironment sampleService sampleInvocation) := by
  obtain ⟨haccepts, hruns⟩ := executor_runs_path sampleEnvironment ⟨id, fun _ _ => rfl⟩ .strict
    (.finite 0) sampleSpec.fields
  have hcompile : compileSpecRuntime .strict (.finite 0) sampleSpec.fields none =
      .ok sampleService := by
    rw [compileSpecRuntime, (haccepts sampleSpec).mpr ⟨validateRuntimeSpecPayload_fields _ _ _,
      supported_sampleSpec, "check", ["work", "check"], isPath_sampleSpec⟩]
    rfl
  obtain ⟨last, path, hpath, hasked⟩ := hruns none sampleService hcompile
  obtain ⟨haccount, hsame⟩ := hasked sampleInvocation
  exact ⟨hcompile, last, path, hpath, haccount, hsame .ofPaths fun result hresult =>
    List.all_eq_true.mp isFinite_sampleResults result hresult⟩

end Agintor.Runtime
