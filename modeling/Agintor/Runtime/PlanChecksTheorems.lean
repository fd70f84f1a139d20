import Agintor.Contracts.PublicPayload
import Agintor.Kernel.PlanHelpers
import Agintor.Lib.Lists
import Agintor.Runtime.PlanNodesTheorems

/-!
# The checks of a plan with branch groups

The nodes that are made from well-formed operations pass the checks of `validate_execution_plan`,
can be put in an order, and are never stuck before all of them are completed, unless an operation
bears one of the names that are made from digests.
-/

namespace Agintor.Runtime

open Agintor.Core Agintor.Contracts Agintor.Kernel Lib

variable {D : Type} {H : PlanHashes} {nodes : List (PlanNode D)} {node : PlanNode D}

/-! ## The checks -/

/-- A plan of which nothing but the graph is checked, and that the terminal outputs are produced. -/
def graphContent (nodes : List (PlanNode D)) (terminalOutputKeys : List String) :
    PlanContent D Unit where
  planId := ""
  originKind := ""
  nodes := nodes
  rootNodeIds := planNodeIds (nodes.filter fun node => node.dependencies = [])
  terminalOutputKeys := terminalOutputKeys
  verificationPlan := {}
  lifecycleState := "compiled"
  rest := ()

lemma isSpace_of_digest {digest : String} (h : isDigest digest = true) :
    ∀ c ∈ (takeChars 12 digest).toList, isSpace c = false := by
  have hspace : ∀ c ∈ hexDigits, isSpace c = false := forall_mem_of_all (by decide +kernel)
  intro c hc
  rw [takeChars, String.toList_ofList] at hc
  exact hspace c (mem_hexDigits_of_isDigest h c (List.mem_of_mem_take hc))

lemma strip_branchGroupId (signature : List String) (grouped : List (PlanNode D)) :
    strip (branchGroupId H signature grouped) = branchGroupId H signature grouped := by
  refine strip_of_no_space fun c hc => ?_
  rw [branchGroupId, String.toList_append, List.mem_append] at hc
  rcases hc with hc | hc
  · have hplain : ∀ c ∈ "branch.".toList, isSpace c = false :=
      forall_mem_of_all (by decide +kernel)
    exact hplain c hc
  · exact isSpace_of_digest (H.group_isDigest _ _) c hc

lemma branchGroupId_ne_empty (signature : List String) (grouped : List (PlanNode D)) :
    branchGroupId H signature grouped ≠ "" := by
  intro hempty
  have hlist := congrArg String.toList hempty
  rw [branchGroupId, String.toList_append] at hlist
  exact absurd (List.append_eq_nil_iff.mp hlist).1 (by decide)

lemma strip_verifyOutputKey (H : PlanHashes) (task : BenchmarkTask) (keys : List String) :
    strip (verifyNodeId H task keys ++ ".status") = verifyNodeId H task keys ++ ".status" := by
  refine strip_of_no_space fun c hc => ?_
  rw [verifyNodeId, String.toList_append, String.toList_append, List.mem_append,
    List.mem_append] at hc
  have hfront : ∀ c ∈ "verify.".toList, isSpace c = false := forall_mem_of_all (by decide +kernel)
  have hback : ∀ c ∈ ".status".toList, isSpace c = false := forall_mem_of_all (by decide +kernel)
  rcases hc with (hc | hc) | hc
  · exact hfront c hc
  · exact isSpace_of_digest (H.verify_isDigest _ _) c hc
  · exact hback c hc

/-- The outputs that a plan has are listed when no two have one key. -/
lemma producedOutputs_eq_ok {P : Type} (content : PlanContent D P) {produced : List (PlanNode D)}
    (hproduced : (content.nodes.filter fun node => node.nodeId ∈ reachableIds content ∧
      strip node.outputKey ≠ "" ∧ (getPlanNodeDescriptor node.nodeKind).valueProducing) = produced)
    (hkeys : (produced.map (·.outputKey)).Nodup) :
    producedOutputs content = .ok (produced.map fun node => (node.outputKey, node)) := by
  have hfold : ∀ (nodes : List (PlanNode D)) (before : List (String × PlanNode D)),
      (before.map Prod.fst ++ nodes.map (·.outputKey)).Nodup →
      nodes.foldlM (fun produced node =>
        if node.outputKey ∈ produced.map Prod.fst then
          .error s!"duplicate execution plan output_key {Core.quoted node.outputKey} is not allowed"
        else .ok (produced ++ [(node.outputKey, node)])) before =
          (.ok (before ++ nodes.map fun node => (node.outputKey, node)) : Except String _) := by
    intro nodes
    induction nodes with
    | nil => exact fun before _ => by simp
    | cons node nodes ih =>
      intro before hnodup
      have hnew : node.outputKey ∉ before.map Prod.fst := by
        intro hmem
        rw [List.nodup_append] at hnodup
        exact hnodup.2.2 _ hmem _ (by simp) rfl
      rw [List.foldlM_cons, if_neg hnew, ok_bind, ih]
      · simp
      · simpa using hnodup
  rw [producedOutputs, hproduced, hfold produced [] (by simpa using hkeys), List.nil_append]

lemma length_dedup_le_one {α : Type} [DecidableEq α] {l : List α}
    (h : ∀ a ∈ l, ∀ b ∈ l, a = b) : l.dedup.length ≤ 1 := by
  have hnodup := l.nodup_dedup
  cases hdedup : l.dedup with
  | nil => simp
  | cons a rest =>
    cases rest with
    | nil => simp
    | cons b rest =>
      have ha : a ∈ l := List.mem_dedup.mp (by simp [hdedup])
      have hb : b ∈ l := List.mem_dedup.mp (by simp [hdedup])
      rw [hdedup, h a ha b hb] at hnodup
      simp at hnodup

section Checks

variable {task : BenchmarkTask} {keys : List String} (h : OperationGraph nodes)
  (hfresh : FreshNames H task keys nodes)
include h hfresh

/-- The verify node depends on nodes that produce values. -/
lemma valueProducing_of_awaited {dependency : String}
    (hawaited : (∃ entry ∈ namedFrontiers H nodes, mergeNodeId entry.1 = dependency) ∨
      (∃ producer ∈ nodes, producer.nodeId = dependency) ∧
        ∀ entry ∈ namedFrontiers H nodes, dependency ∉ planNodeIds entry.2) :
    ∃ node, nodeById (branchedNodes H task keys nodes) dependency = some node ∧
      (getPlanNodeDescriptor node.nodeKind).valueProducing := by
  have hunique := nodup_planNodeIds_branchedNodes h hfresh
  rcases hawaited with ⟨entry, hentry, rfl⟩ | ⟨⟨own, hown, rfl⟩, -⟩
  · have hmem := mergeNode_mem_branchedNodes h hfresh hentry
    exact ⟨_, (nodeById_eq_some_iff hunique).mpr ⟨hmem, rfl⟩, rfl⟩
  · have hmem := mem_branchedNodes_of_mem h hfresh hown
    refine ⟨_, (nodeById_eq_some_iff hunique).mpr ⟨hmem, rfl⟩, ?_⟩
    have hbranchable := h.branchable own hown
    show (getPlanNodeDescriptor own.nodeKind).valueProducing
    cases hkind : own.nodeKind with
    | verify => simp [branchable, hkind, getPlanNodeDescriptor] at hbranchable
    | _ => rfl

variable {terminalOutputKeys : List String}

/-- Every node passes its checks. -/
lemma validateNode_branchedNodes
    (hterminal : ∀ key ∈ terminalOutputKeys, key ∈ nodes.map (·.outputKey))
    (hnode : node ∈ branchedNodes H task keys nodes) :
    validateNode (fun _ => .ok ())
      (graphContent (branchedNodes H task keys nodes) terminalOutputKeys) node = .ok () := by
  have hknown := (dependencyGraph_branchedNodes h hfresh).known node hnode
  unfold validateNode
  dsimp only
  refine bind_eq_ok_iff.mpr ⟨(), forM_eq_ok_iff.mpr fun dep hdep =>
    raiseIf_neg (not_not.mpr (hknown dep hdep)), ?_⟩
  cases nodeCase_of_mem h hfresh hnode with
  | operation own hown =>
    have hbranchable : (getPlanNodeDescriptor (branchedNode H nodes own).nodeKind).branchable =
        true := h.branchable own hown
    refine bind_eq_ok_iff.mpr ⟨(), raiseIf_neg (by simp [hbranchable]),
      forM_eq_ok_iff.mpr fun tag htag => ?_⟩
    cases tag with
    | merge =>
      change ValidationTag.merge ∈ (getPlanNodeDescriptor own.nodeKind).validationTags at htag
      cases hkind : own.nodeKind <;> simp [hkind, getPlanNodeDescriptor] at htag
      exact absurd hkind (nodeKind_ne_of_branchable (h.branchable own hown)).1
    | verify =>
      change ValidationTag.verify ∈ (getPlanNodeDescriptor own.nodeKind).validationTags at htag
      cases hkind : own.nodeKind <;> simp [hkind, getPlanNodeDescriptor] at htag
      exact absurd hkind (nodeKind_ne_of_branchable (h.branchable own hown)).2
    | toolLike | repoPatch | serviceAction => rfl
  | merge entry hentry =>
    obtain ⟨groupId, members⟩ := entry
    have hmembers : planNodeIds ((branchedNodes H task keys nodes).filter
        fun candidate => candidate.branchGroupId = some groupId) = planNodeIds members := by
      rw [members_branchedNodes h hfresh hentry, planNodeIds, List.map_map]
      rfl
    obtain ⟨signature, -, hlength, rfl⟩ := mem_namedFrontiers_iff.mp hentry
    have hne : planNodeIds members ≠ [] := by
      intro hempty
      rw [planNodeIds, List.map_eq_nil_iff] at hempty
      rw [hempty] at hlength
      simp at hlength
    have hvalid : validateMergeNode (mergeNode (branchGroupId H signature members) members)
        (branchedNodes H task keys nodes) = .ok () := by
      simp only [validateMergeNode, mergeNode, strip_branchGroupId, hmembers]
      rw [raiseIf_neg (branchGroupId_ne_empty _ _), raiseIf_neg hne, raiseIf_neg (by simp),
        raiseIf_neg (by simp)]
      rfl
    refine bind_eq_ok_iff.mpr ⟨(), raiseIf_neg (by simp [mergeNode, PlanNode.group?]),
      forM_eq_ok_iff.mpr fun tag htag => ?_⟩
    obtain rfl : tag = .merge := by simpa [mergeNode, getPlanNodeDescriptor] using htag
    exact hvalid
  | verify dependencies hne hawaited =>
    have hvalid : validateVerifyNode (verifyNode H task keys dependencies)
        (branchedNodes H task keys nodes) terminalOutputKeys = .ok () := by
      have hkey : strip (verifyNode (D := D) H task keys dependencies).outputKey ∉
          terminalOutputKeys := by
        show strip (verifyNodeId H task keys ++ ".status") ∉ _
        rw [strip_verifyOutputKey]
        exact fun hmem => hfresh.verifyOutputKey (hterminal _ hmem)
      have hsome : (verifyNode (D := D) H task keys dependencies).dependencies ≠ [] := hne
      rw [validateVerifyNode, raiseIf_neg hsome, ok_bind, raiseIf_neg hkey, ok_bind]
      refine forM_eq_ok_iff.mpr fun dependency hdependency => ?_
      obtain ⟨producer, hfind, hproducing⟩ :=
        valueProducing_of_awaited h hfresh (hawaited dependency hdependency)
      rw [hfind]
      exact raiseIf_neg (by simp [hproducing])
    refine bind_eq_ok_iff.mpr ⟨(), raiseIf_neg (by simp [verifyNode, PlanNode.group?]),
      forM_eq_ok_iff.mpr fun tag htag => ?_⟩
    obtain rfl : tag = .verify := by simpa [verifyNode, getPlanNodeDescriptor] using htag
    exact hvalid

/-- The outputs of operations and merges have distinct keys. -/
lemma nodup_outputKeys (p : PlanNode D → Bool) (hp : ∀ node, p node → node.nodeKind ≠ .verify) :
    (((branchedNodes H task keys nodes).filter p).map (·.outputKey)).Nodup := by
  have hbase : ((nodes.map (branchedNode H nodes) ++ mergeNodes H nodes).map
      (·.outputKey)).Nodup := by
    have hkeys : (nodes.map (branchedNode H nodes) ++ mergeNodes H nodes).map (·.outputKey) =
        nodes.map (·.outputKey) ++ ((namedFrontiers H nodes).map Prod.fst).map
          fun groupId => mergeNodeId groupId ++ ".output" := by
      rw [List.map_append, List.map_map, mergeNodes, List.map_map, List.map_map]
      rfl
    rw [hkeys]
    refine List.nodup_append.mpr ⟨h.outputKeys, hfresh.groupIds.map ?_, ?_⟩
    · exact fun a b heq => mergeNodeId_injective ((String.append_left_inj _).mp heq)
    · rintro key hkey other hother rfl
      obtain ⟨groupId, hgroup, rfl⟩ := List.mem_map.mp hother
      obtain ⟨entry, hentry, rfl⟩ := List.mem_map.mp hgroup
      exact hfresh.mergeOutputKeys entry hentry hkey
  have hfilter : (branchedNodes H task keys nodes).filter p =
      (nodes.map (branchedNode H nodes) ++ mergeNodes H nodes).filter p := by
    rcases branchedNodes_cases h hfresh with heq | ⟨awaited, -, -, heq⟩
    · rw [heq]
    · have hverify : p (verifyNode H task keys awaited) = false := by
        rw [Bool.eq_false_iff]
        exact fun hp' => hp _ hp' rfl
      rw [heq, List.filter_append, List.filter_singleton, hverify]
      simp
  rw [hfilter]
  exact hbase.sublist (List.filter_sublist.map _)

/-- The plan passes every check of its graph, with any outputs of operations as terminal ones. -/
theorem validateContent_branchedNodes
    (hterminal : ∀ key ∈ terminalOutputKeys, key ∈ nodes.map (·.outputKey) ∧ strip key ≠ "") :
    validateContent (fun _ => .ok ())
      (graphContent (branchedNodes H task keys nodes) terminalOutputKeys) = .ok () := by
  have hgraph := dependencyGraph_branchedNodes h hfresh
  have hvalueProducing (node : PlanNode D) :
      (getPlanNodeDescriptor node.nodeKind).valueProducing → node.nodeKind ≠ .verify := by
    intro hproducing hkind
    simp [hkind, getPlanNodeDescriptor] at hproducing
  obtain ⟨visited, hvisited⟩ := hgraph.exists_checkAcyclic
  have hproduced := producedOutputs_eq_ok
    (graphContent (branchedNodes H task keys nodes) terminalOutputKeys) rfl
    (nodup_outputKeys h hfresh _ fun node hnode => by
      rw [decide_eq_true_iff] at hnode
      exact hvalueProducing node hnode.2.2)
  unfold validateContent
  refine bind_eq_ok_iff.mpr ⟨(), raiseIf_neg (not_not.mpr hgraph.unique), ?_⟩
  refine bind_eq_ok_iff.mpr ⟨(), forM_eq_ok_iff.mpr fun rootId hroot => ?_, ?_⟩
  · obtain ⟨root, hmem, rfl⟩ := List.mem_map.mp hroot
    exact raiseIf_neg (not_not.mpr (mem_planNodeIds_of_mem (List.mem_of_mem_filter hmem)))
  refine bind_eq_ok_iff.mpr ⟨(), rfl, ?_⟩
  refine bind_eq_ok_iff.mpr ⟨(), forM_eq_ok_iff.mpr fun node hnode => ?_, ?_⟩
  · exact validateNode_branchedNodes h hfresh (fun key hkey => (hterminal key hkey).1) hnode
  refine bind_eq_ok_iff.mpr ⟨visited, hvisited, bind_eq_ok_iff.mpr ⟨_, hproduced, ?_⟩⟩
  refine bind_eq_ok_iff.mpr ⟨(), forM_eq_ok_iff.mpr fun key hkey => ?_, ?_⟩
  · -- the operation's node is reached from a root, so its output is listed
    obtain ⟨hmem, hstrip⟩ := hterminal key hkey
    obtain ⟨own, hown, rfl⟩ := List.mem_map.mp hmem
    have hnode := mem_branchedNodes_of_mem h hfresh hown
    have hreached : (branchedNode H nodes own).nodeId ∈ reachableIds
        (graphContent (branchedNodes H task keys nodes) terminalOutputKeys) :=
      hgraph.mem_reachableIds rfl rfl hnode
    have hproducing : (getPlanNodeDescriptor own.nodeKind).valueProducing := by
      have hbranchable := h.branchable own hown
      cases hkind : own.nodeKind with
      | verify => simp [branchable, hkind, getPlanNodeDescriptor] at hbranchable
      | _ => rfl
    unfold checkTerminalKey
    split
    · rename_i hnone
      rw [List.find?_eq_none] at hnone
      refine absurd (hnone (own.outputKey, branchedNode H nodes own) ?_) (by simp)
      refine List.mem_map.mpr ⟨branchedNode H nodes own, List.mem_filter.mpr ⟨hnode, ?_⟩, rfl⟩
      exact decide_eq_true ⟨hreached, hstrip, hproducing⟩
    · rename_i producer hsome
      obtain ⟨node, hlisted, hproducer⟩ := List.mem_map.mp (List.mem_of_find?_eq_some hsome)
      rw [List.mem_filter, decide_eq_true_iff] at hlisted
      rw [← hproducer]
      exact raiseIf_neg (hvalueProducing node hlisted.2.2.2)
  refine bind_eq_ok_iff.mpr ⟨(), forM_eq_ok_iff.mpr fun groupId _ => ?_, raiseIf_neg ?_⟩
  · refine raiseIf_neg (not_lt.mpr (length_dedup_le_one fun a ha b hb => ?_))
    obtain ⟨first, hfirst, rfl⟩ := List.mem_map.mp ha
    obtain ⟨second, hsecond, rfl⟩ := List.mem_map.mp hb
    rw [List.mem_filter, decide_eq_true_iff, PlanNode.group?, Option.filter_eq_some_iff]
      at hfirst hsecond
    exact dependencies_eq_of_branchGroupId h hfresh hfirst.1 hsecond.1 hfirst.2.1 hsecond.2.1
  · simp [graphContent]

end Checks

/-! ## Plans -/

/-- What is asked of the nodes of a plan that are made from the nodes of operations. -/
structure PlanGraph (own nodes : List (PlanNode D)) : Prop where
  checks : ∀ terminalOutputKeys : List String,
    (∀ key ∈ terminalOutputKeys, key ∈ own.map (·.outputKey) ∧ strip key ≠ "") →
      validateContent (fun _ => .ok ()) (graphContent nodes terminalOutputKeys) = .ok ()
  graph : DependencyGraph nodes
  /-- Nodes that wait for the same dependencies are a group with one merge. -/
  groups : ∀ signature, 2 ≤ (siblings own signature).length → ∃ groupId,
    (∀ node ∈ nodes, node.branchGroupId = some groupId ↔
      node.nodeId ∈ planNodeIds (siblings own signature)) ∧
    ∃ merge ∈ nodes, merge.nodeKind = .merge ∧
      merge.dependencies = planNodeIds (siblings own signature) ∧
      (∀ other ∈ nodes, other.nodeKind = .merge →
        (∃ member ∈ siblings own signature, member.nodeId ∈ other.dependencies) →
          other = merge) ∧
      ∀ consumer ∈ nodes, consumer ≠ merge →
        (∃ member ∈ siblings own signature, member.nodeId ∈ consumer.dependencies) →
          merge.nodeId ∈ consumer.dependencies
  ungrouped : ∀ node ∈ nodes, node.branchGroupId ≠ none → ∃ signature,
    2 ≤ (siblings own signature).length ∧ node.nodeId ∈ planNodeIds (siblings own signature)
  kept : ∀ operation ∈ own, ∃ node ∈ nodes, operation.dependencies <+: node.dependencies ∧
    { node with
      branchGroupId := operation.branchGroupId
      dependencies := operation.dependencies } = operation
  identical : ∀ a ∈ nodes, ∀ b ∈ nodes, a.branchGroupId ≠ none →
    a.branchGroupId = b.branchGroupId → a.dependencies = b.dependencies
  ordered_once : (orderedExecutionNodes nodes).Perm nodes
  ordered_after : ∀ before node after, orderedExecutionNodes nodes = before ++ node :: after →
    ∀ dependency ∈ node.dependencies, dependency ∈ planNodeIds before
  /-- As long as a node is left, one node can run or the members of one group that can. -/
  frontier : ∀ status : NodeStatus,
    (∀ node ∈ nodes, isCompleted status node.nodeId →
      ∀ dependency ∈ node.dependencies, isCompleted status dependency) →
    (∃ node ∈ nodes, isCompleted status node.nodeId = false) →
    activeRunnableFrontier status nodes none ≠ [] ∧
      ((∃ single, single ∈ nodes ∧ isRunnable status single ∧
          activeRunnableFrontier status nodes none = [single]) ∨
        ∃ group, ∀ member, member ∈ activeRunnableFrontier status nodes none ↔
          member ∈ nodes ∧ member.branchGroupId = some group ∧ isRunnable status member)

section Plan

variable {task : BenchmarkTask} {keys : List String} (h : OperationGraph nodes)
  (hfresh : FreshNames H task keys nodes)
include h hfresh

/-- The only nodes with the ids of operations are the nodes made from them. -/
lemma eq_branchedNode_of_nodeId {own : PlanNode D} (hown : own ∈ nodes)
    (hnode : node ∈ branchedNodes H task keys nodes) (hid : node.nodeId = own.nodeId) :
    node = branchedNode H nodes own :=
  eq_of_nodeId_eq (nodup_planNodeIds_branchedNodes h hfresh) hnode
    (mem_branchedNodes_of_mem h hfresh hown) hid

/-- A node that consumes a member is the merge of the group, or waits for it. -/
lemma consumer_of_member {entry : String × List (PlanNode D)}
    (hentry : entry ∈ namedFrontiers H nodes) {member : PlanNode D} (hmember : member ∈ entry.2)
    (hnode : node ∈ branchedNodes H task keys nodes) (hin : member.nodeId ∈ node.dependencies) :
    node = mergeNode entry.1 entry.2 ∨
      node.nodeKind ≠ .merge ∧ mergeNodeId entry.1 ∈ node.dependencies := by
  have hmem := (exists_member hentry).2 member hmember
  cases nodeCase_of_mem h hfresh hnode with
  | operation own hown =>
    refine .inr ⟨(nodeKind_ne_of_branchable (h.branchable own hown)).1, ?_⟩
    have hmerge : mergeOf H nodes member.nodeId = some (mergeNodeId entry.1) :=
      (mergeOf_eq_some_iff h.unique hmem).mpr
        ⟨entry.1, (groupOf_eq_some_entry_iff h hfresh hentry hmem).mpr hmember, rfl⟩
    refine mem_dependencies_branchedNode.mpr (.inr ⟨member.nodeId, ?_, hmerge⟩)
    rcases mem_dependencies_branchedNode.mp hin with hown' | ⟨dep, hdep, hsome⟩
    · exact hown'
    · -- the name of a merge is not the id of a member
      obtain ⟨other, hother, hname, -⟩ :=
        exists_entry_of_mergeOf h (h.known own hown dep hdep) hsome
      have hid := mem_planNodeIds_of_mem hmem
      rw [← hname] at hid
      exact absurd hid (hfresh.mergeIds other hother)
  | merge other hother =>
    refine .inl ?_
    obtain ⟨member', hmember', hid⟩ := List.mem_map.mp hin
    obtain ⟨hgroup, hmembers⟩ := namedFrontiers_functional h.unique other hother entry hentry
      member' hmember' member hmember hid
    rw [hgroup, hmembers]
  | verify dependencies hne hawaited =>
    rcases hawaited _ hin with ⟨other, hother, hname⟩ | ⟨-, hnot⟩
    · have hid := mem_planNodeIds_of_mem hmem
      rw [← hname] at hid
      exact absurd hid (hfresh.mergeIds other hother)
    · exact absurd (mem_planNodeIds_of_mem hmember) (hnot entry hentry)

theorem groups_branchedNodes {signature : List String}
    (hlength : 2 ≤ (siblings nodes signature).length) : ∃ groupId,
    (∀ node ∈ branchedNodes H task keys nodes, node.branchGroupId = some groupId ↔
      node.nodeId ∈ planNodeIds (siblings nodes signature)) ∧
    ∃ merge ∈ branchedNodes H task keys nodes, merge.nodeKind = .merge ∧
      merge.dependencies = planNodeIds (siblings nodes signature) ∧
      (∀ other ∈ branchedNodes H task keys nodes, other.nodeKind = .merge →
        (∃ member ∈ siblings nodes signature, member.nodeId ∈ other.dependencies) →
          other = merge) ∧
      ∀ consumer ∈ branchedNodes H task keys nodes, consumer ≠ merge →
        (∃ member ∈ siblings nodes signature, member.nodeId ∈ consumer.dependencies) →
          merge.nodeId ∈ consumer.dependencies := by
  have hentry : (branchGroupId H signature (siblings nodes signature), siblings nodes signature) ∈
      namedFrontiers H nodes := mem_namedFrontiers_iff.mpr ⟨signature, rfl, hlength, rfl⟩
  refine ⟨branchGroupId H signature (siblings nodes signature),
    fun node hnode => ⟨fun hgroup => ?_, fun hid => ?_⟩, _,
    mergeNode_mem_branchedNodes h hfresh hentry, rfl, rfl, ?_, ?_⟩
  · have hmem : node ∈ (branchedNodes H task keys nodes).filter (fun node =>
        node.branchGroupId = some (branchGroupId H signature (siblings nodes signature))) :=
      List.mem_filter.mpr ⟨hnode, decide_eq_true hgroup⟩
    rw [members_branchedNodes h hfresh hentry] at hmem
    obtain ⟨member, hmember, rfl⟩ := List.mem_map.mp hmem
    exact List.mem_map.mpr ⟨member, hmember, rfl⟩
  · obtain ⟨member, hmember, hid⟩ := List.mem_map.mp hid
    have hmem := (mem_siblings.mp hmember).1
    rw [eq_branchedNode_of_nodeId h hfresh hmem hnode hid.symm]
    exact (groupOf_eq_some_entry_iff h hfresh hentry hmem).mpr hmember
  · rintro other hother hkind ⟨member, hmember, hin⟩
    exact (consumer_of_member h hfresh hentry hmember hother hin).resolve_right
      fun hnot => hnot.1 hkind
  · rintro consumer hconsumer hne ⟨member, hmember, hin⟩
    exact ((consumer_of_member h hfresh hentry hmember hconsumer hin).resolve_left hne).2

/-- The nodes that a plan is made of are as they should be. -/
theorem planGraph_branchedNodes : PlanGraph nodes (branchedNodes H task keys nodes) := by
  have hgraph := dependencyGraph_branchedNodes h hfresh
  refine {
    checks := fun terminalOutputKeys hterminal => validateContent_branchedNodes h hfresh hterminal
    graph := hgraph
    groups := fun signature hlength => groups_branchedNodes h hfresh hlength
    ungrouped := fun node hnode hgroup => ?_
    kept := fun own hown => ?_
    identical := fun a ha b hb hgroup hsame => ?_
    ordered_once := orderedExecutionNodes_perm hgraph
    ordered_after := fun before node after heq => dependencies_orderedExecutionNodes hgraph heq
    frontier := fun status _ hleft => ?_ }
  · obtain ⟨groupId, hsome⟩ := Option.ne_none_iff_exists'.mp hgroup
    cases nodeCase_of_mem h hfresh hnode with
    | operation own hown =>
      obtain ⟨hbranchable, hlength, -⟩ := groupOf_eq_some_iff.mp hsome
      have hmember := mem_siblings.mpr ⟨hown, hbranchable, rfl⟩
      exact ⟨own.dependencies, hlength, List.mem_map.mpr ⟨own, hmember, rfl⟩⟩
    | merge entry _ => cases hsome
    | verify dependencies _ _ => cases hsome
  · exact ⟨_, mem_branchedNodes_of_mem h hfresh hown, prefix_addDependencies _ _, rfl⟩
  · obtain ⟨groupId, hsome⟩ := Option.ne_none_iff_exists'.mp hgroup
    exact dependencies_eq_of_branchGroupId h hfresh ha hb hsome (hsame.symm.trans hsome)
  · obtain ⟨node, hnode, hnot⟩ := hleft
    exact activeRunnableFrontier_cases hgraph hnode hnot

end Plan

/-! ## Operations -/

/-- Operations with distinct ids and output keys that depend on each other without a cycle. -/
structure WellFormed (operations : List OperationSpec) : Prop where
  opIds : (operations.map (·.opId)).Nodup
  outputKeys : (operations.map (·.outputKey)).Nodup
  known : ∀ operation ∈ operations, ∀ dependency ∈ operation.dependencies,
    dependency ∈ operations.map (·.opId)
  acyclic : ∀ opId, ¬Relation.TransGen (fun a b => ∃ operation ∈ operations,
    operation.opId = a ∧ b ∈ operation.dependencies) opId opId

lemma branchable_of_mem_operationNodeKinds {kind : String} {nodeKind : PlanNodeKind}
    (h : operationNodeKinds.lookup kind = some nodeKind) :
    (getPlanNodeDescriptor nodeKind).branchable := by
  have hall : ∀ entry ∈ operationNodeKinds, (getPlanNodeDescriptor entry.2).branchable = true := by
    decide
  obtain ⟨entry, hentry, heq⟩ : ∃ entry ∈ operationNodeKinds, entry.2 = nodeKind := by
    rw [List.lookup_eq_some_iff] at h
    obtain ⟨before, after, heq, -⟩ := h
    exact ⟨(kind, nodeKind), by simp [heq], rfl⟩
  exact heq ▸ hall entry hentry

section Operations

variable {declare : BenchmarkTask → OperationSpec → Except String D} {task : BenchmarkTask}

/-- What the node of an operation has from the operation. -/
lemma operationNode_eq_ok {operation : OperationSpec}
    (h : operationNode declare task operation = .ok node) :
    node.nodeId = operation.opId ∧ node.outputKey = operation.outputKey ∧
      node.dependencies = operation.dependencies ∧ branchable node := by
  rw [operationNode, bind_eq_ok_iff] at h
  obtain ⟨⟨nodeKind, declared⟩, hpayload, hnode⟩ := h
  have hkind : branchable node := by
    unfold operationNodePayload at hpayload
    split at hpayload
    · cases hpayload
    · rename_i found hfound
      obtain ⟨value, -, hvalue⟩ := bind_eq_ok_iff.mp hpayload
      cases hvalue
      cases hnode
      exact branchable_of_mem_operationNodeKinds hfound
  cases hnode
  exact ⟨rfl, rfl, rfl, hkind⟩

/-- Nodes of well-formed operations. -/
theorem operationGraph_of_wellFormed {operations : List OperationSpec} (h : WellFormed operations)
    (hnodes : operations.mapM (operationNode declare task) = .ok nodes) : OperationGraph nodes := by
  have hall := mapM_eq_ok_iff.mp hnodes
  have hids : operations.map (·.opId) = planNodeIds nodes :=
    map_eq_map_of_forall₂ hall fun _ _ hok => (operationNode_eq_ok hok).1.symm
  have hkeys : operations.map (·.outputKey) = nodes.map (·.outputKey) :=
    map_eq_map_of_forall₂ hall fun _ _ hok => (operationNode_eq_ok hok).2.1.symm
  have hunique : (planNodeIds nodes).Nodup := hids ▸ h.opIds
  -- an edge between nodes is one between operations
  have hedge {a b : String} (hb : b ∈ dependenciesOf nodes a) :
      ∃ operation ∈ operations, operation.opId = a ∧ b ∈ operation.dependencies := by
    cases hfind : nodeById nodes a with
    | none => simp [dependenciesOf, hfind] at hb
    | some node =>
      obtain ⟨hnode, rfl⟩ := (nodeById_eq_some_iff hunique).mp hfind
      rw [dependenciesOf_of_mem hunique hnode] at hb
      obtain ⟨operation, hmem, hok⟩ := exists_mem_left_of_forall₂ hall hnode
      obtain ⟨hid, -, hdependencies, -⟩ := operationNode_eq_ok hok
      exact ⟨operation, hmem, hid.symm, hdependencies ▸ hb⟩
  refine ⟨⟨hunique, fun node hnode dependency hdependency => ?_, fun a _ hcycle => ?_⟩,
    hkeys ▸ h.outputKeys, fun node hnode => ?_⟩
  · obtain ⟨operation, hmem, hok⟩ := exists_mem_left_of_forall₂ hall hnode
    rw [(operationNode_eq_ok hok).2.2.1] at hdependency
    rw [← hids]
    exact h.known operation hmem dependency hdependency
  · exact h.acyclic a (Relation.TransGen.mono (fun _ _ hb => hedge hb) a a hcycle)
  · obtain ⟨operation, -, hok⟩ := exists_mem_left_of_forall₂ hall hnode
    exact (operationNode_eq_ok hok).2.2.2

/-- The nodes of a plan of well-formed operations are as they should be, when the names that are
made from digests are new. -/
theorem planGraph_of_wellFormed {keys : List String} (h : WellFormed task.operations)
    (hnodes : task.operations.mapM (operationNode declare task) = .ok nodes)
    (hfresh : FreshNames H task keys nodes) : PlanGraph nodes (branchedNodes H task keys nodes) :=
  planGraph_branchedNodes (operationGraph_of_wellFormed h hnodes) hfresh

end Operations

/-- Digests that are all one, as those of two different things never are. -/
def zeroHashes : PlanHashes where
  group := fun _ _ => String.ofList (List.replicate 64 '0')
  verify := fun _ _ => String.ofList (List.replicate 64 '0')
  group_isDigest := fun _ _ => isDigest_replicate rfl
  verify_isDigest := fun _ _ => isDigest_replicate rfl

/-- An operation of a built-in kind that puts out under its own id. -/
def builtinOperation (opId : String) (dependencies : List String) : OperationSpec where
  opId := opId
  kind := "builtin"
  outputKey := opId
  description := ""
  dependencies := dependencies
  externallyVisible := false

/-- A task that is not verified. -/
def taskOf (operations : List OperationSpec) : BenchmarkTask where
  taskId := "task"
  taskType := ""
  family := ""
  verifierType := "none"
  verificationRequired := false
  externallyVisible := false
  metadataTerminalOutputKeys := []
  operations := operations

/-- The node of a built-in operation. -/
def builtinNode (opId : String) (dependencies : List String) : PlanNode Unit where
  nodeId := opId
  opId := opId
  nodeKind := .builtinOp
  instruction := ""
  kind := "builtin"
  description := ""
  outputKey := opId
  dependencies := dependencies
  operation := some ()

lemma operationNode_builtinOperation (task : BenchmarkTask) (opId : String)
    (dependencies : List String) (hvisible : task.externallyVisible = false)
    (hverified : task.verificationRequired = false) :
    operationNode (fun _ _ => .ok ()) task (builtinOperation opId dependencies) =
      .ok (builtinNode opId dependencies) := by
  have hkind : (strip "builtin").toLower = "builtin" := by decide +kernel
  have hpayload : operationNodePayload (fun _ _ => .ok ()) (builtinOperation opId dependencies)
      task = .ok (.builtinOp, ()) := by
    simp only [operationNodePayload, builtinOperation, hkind]
    rfl
  rw [operationNode, hpayload, ok_bind, hvisible, hverified]
  rfl

/-- The nodes of operations without dependencies. -/
lemma wellFormed_of_independent {operations : List OperationSpec}
    (hids : (operations.map (·.opId)).Nodup) (hkeys : (operations.map (·.outputKey)).Nodup)
    (hindependent : ∀ operation ∈ operations, operation.dependencies = []) :
    WellFormed operations := by
  have hnone {operation : OperationSpec} (hmem : operation ∈ operations) {dependency : String}
      (hdependency : dependency ∈ operation.dependencies) : False := by
    rw [hindependent operation hmem] at hdependency
    exact absurd hdependency List.not_mem_nil
  refine ⟨hids, hkeys, fun operation hmem dependency hdependency =>
    (hnone hmem hdependency).elim, fun opId hcycle => ?_⟩
  obtain ⟨_, ⟨operation, hmem, -, hdependency⟩, -⟩ := Relation.TransGen.head'_iff.mp hcycle
  exact hnone hmem hdependency

/-- Two operations without dependencies. -/
theorem planGraph_of_wellFormed_pair :
    PlanGraph [builtinNode "a" [], builtinNode "b" []]
      (branchedNodes zeroHashes (taskOf [builtinOperation "a" [], builtinOperation "b" []]) ["b"]
        [builtinNode "a" [], builtinNode "b" []]) := by
  have hnodes : (taskOf [builtinOperation "a" [], builtinOperation "b" []]).operations.mapM
      (operationNode (fun _ _ => .ok ()) (taskOf [builtinOperation "a" [],
        builtinOperation "b" []])) = .ok [builtinNode "a" [], builtinNode "b" []] := by
    refine mapM_eq_ok_iff.mpr (.cons ?_ (.cons ?_ .nil))
    · exact operationNode_builtinOperation _ "a" [] rfl rfl
    · exact operationNode_builtinOperation _ "b" [] rfl rfl
  refine planGraph_of_wellFormed (wellFormed_of_independent ?_ ?_ ?_) hnodes ?_
  · decide
  · decide
  · decide
  · exact ⟨by decide +kernel, by decide +kernel, by decide +kernel, by decide +kernel,
      by decide +kernel⟩

/-- The name of the merge of the nodes "a" and "b". -/
def mergeOfPair (H : PlanHashes) : String :=
  mergeNodeId (branchGroupId H [] [builtinNode "a" [], builtinNode "b" []])

/-- Two operations without dependencies, and one named as the merge of their group. -/
def collidingOperations (H : PlanHashes) : List OperationSpec :=
  [builtinOperation "a" [], builtinOperation "b" [], builtinOperation (mergeOfPair H) ["a"]]

def collidingNodes (H : PlanHashes) : List (PlanNode Unit) :=
  [builtinNode "a" [], builtinNode "b" [], builtinNode (mergeOfPair H) ["a"]]

lemma mergeOfPair_ne (H : PlanHashes) : mergeOfPair H ≠ "a" ∧ mergeOfPair H ≠ "b" := by
  have hmerge : "merge.".toList = 'm' :: ['e', 'r', 'g', 'e', '.'] := by decide
  have hhead {text : String} {c : Char} {cs : List Char} (htext : text.toList = c :: cs)
      (hc : c ≠ 'm') : mergeOfPair H ≠ text := by
    intro heq
    have hlist := congrArg String.toList heq
    rw [mergeOfPair, mergeNodeId, String.toList_append, hmerge, htext, List.cons_append] at hlist
    exact hc (List.cons.inj hlist).1.symm
  have ha : "a".toList = ['a'] := by decide
  have hb : "b".toList = ['b'] := by decide
  exact ⟨hhead ha (by decide), hhead hb (by decide)⟩

lemma wellFormed_collidingOperations (H : PlanHashes) : WellFormed (collidingOperations H) := by
  obtain ⟨hne, hne'⟩ := mergeOfPair_ne H
  have hids : (collidingOperations H).map (·.opId) = ["a", "b", mergeOfPair H] := rfl
  have hkeys : (collidingOperations H).map (·.outputKey) = ["a", "b", mergeOfPair H] := rfl
  have hnodup : ["a", "b", mergeOfPair H].Nodup := by
    simp [hne.symm, hne'.symm]
  have hedge {operation : OperationSpec} (hmem : operation ∈ collidingOperations H)
      {dependency : String} (hdependency : dependency ∈ operation.dependencies) :
      dependency = "a" ∧ operation.opId = mergeOfPair H := by
    simp only [collidingOperations, List.mem_cons, List.not_mem_nil, or_false] at hmem
    rcases hmem with rfl | rfl | rfl
    · exact absurd hdependency List.not_mem_nil
    · exact absurd hdependency List.not_mem_nil
    · exact ⟨List.mem_singleton.mp hdependency, rfl⟩
  refine ⟨hids ▸ hnodup, hkeys ▸ hnodup, fun operation hmem dependency hdependency => ?_, ?_⟩
  · rw [(hedge hmem hdependency).1, hids]
    exact List.mem_cons_self
  · -- a cycle would lead to "a", and from there to nothing
    intro opId hcycle
    obtain ⟨_, -, ⟨operation, hmem, rfl, hlast⟩⟩ := Relation.TransGen.tail'_iff.mp hcycle
    obtain ⟨_, ⟨operation', hmem', heq, hfirst⟩, -⟩ := Relation.TransGen.head'_iff.mp hcycle
    rw [(hedge hmem hlast).1] at heq
    exact hne ((hedge hmem' hfirst).2.symm.trans heq)

/-- Whatever the digests are, operations may bear the name of a merge: the plan then has two nodes
with one id, and is refused. -/
theorem not_planGraph_collidingNodes (H : PlanHashes) :
    WellFormed (collidingOperations H) ∧
    (collidingOperations H).mapM
      (operationNode (fun _ _ => .ok ()) (taskOf (collidingOperations H))) =
        .ok (collidingNodes H) ∧
    ¬PlanGraph (collidingNodes H)
      (branchedNodes H (taskOf (collidingOperations H)) [] (collidingNodes H)) := by
  refine ⟨wellFormed_collidingOperations H, ?_, fun hplan => ?_⟩
  · refine mapM_eq_ok_iff.mpr (.cons ?_ (.cons ?_ (.cons ?_ .nil)))
    · exact operationNode_builtinOperation _ "a" [] rfl rfl
    · exact operationNode_builtinOperation _ "b" [] rfl rfl
    · exact operationNode_builtinOperation _ (mergeOfPair H) ["a"] rfl rfl
  · have hids :
        planNodeIds (branchedNodes H (taskOf (collidingOperations H)) [] (collidingNodes H)) =
          ["a", "b", mergeOfPair H, mergeOfPair H] := by
      rfl
    have hunique := hplan.graph.unique
    rw [hids] at hunique
    simp at hunique

/-- The digests that are all zeros. -/
theorem colliding_names :
    WellFormed (collidingOperations zeroHashes) ∧
    (collidingOperations zeroHashes).mapM
      (operationNode (fun _ _ => .ok ()) (taskOf (collidingOperations zeroHashes))) =
        .ok (collidingNodes zeroHashes) ∧
    ¬PlanGraph (collidingNodes zeroHashes)
      (branchedNodes zeroHashes (taskOf (collidingOperations zeroHashes)) []
        (collidingNodes zeroHashes)) :=
  not_planGraph_collidingNodes zeroHashes

end Agintor.Runtime
