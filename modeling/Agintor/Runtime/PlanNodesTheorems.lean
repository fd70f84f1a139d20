import Agintor.Contracts.PlanGraph
import Agintor.Runtime.PlanNodes

/-!
# Plans with branch groups

Grouping the nodes that wait for the same dependencies and merging each group keeps the graph of a
plan free of cycles: members of a group are of one height, a merge node goes half a step above its
members, and every consumer of a member is at least a whole step above. Names made from digests are
assumed to be new; where an operation bears such a name the plan is refused.
-/

namespace Agintor.Runtime

open Agintor.Core Agintor.Contracts Lib

variable {D : Type} {H : PlanHashes} {nodes : List (PlanNode D)} {node : PlanNode D}

/-! ## Frontiers -/

/-- The branchable nodes that wait for the same dependencies. -/
def siblings (nodes : List (PlanNode D)) (signature : List String) : List (PlanNode D) :=
  nodes.filter fun node => branchable node && node.dependencies = signature

variable {members : List (PlanNode D)} {signature : List String}

lemma mem_siblings : node ∈ siblings nodes signature ↔
    node ∈ nodes ∧ branchable node ∧ node.dependencies = signature := by
  simp [siblings]

lemma get?_frontierGroups (nodes : List (PlanNode D)) (signature : List String) :
    (frontierGroups nodes).get? signature =
      if siblings nodes signature = [] then none else some (siblings nodes signature) := by
  induction nodes using List.reverseRecOn with
  | nil => rfl
  | append_singleton nodes node ih =>
    have hsiblings : siblings (nodes ++ [node]) signature = siblings nodes signature ++
        if branchable node && node.dependencies = signature then [node] else [] := by
      rw [siblings, List.filter_append, List.filter_cons, List.filter_nil]
      rfl
    rw [frontierGroups, List.foldl_append, List.foldl_cons, List.foldl_nil, hsiblings]
    show (addToFrontier (frontierGroups nodes) node).get? signature = _
    unfold addToFrontier
    by_cases hbranchable : branchable node
    · rw [if_pos hbranchable, Dict.get?_set, hbranchable, Bool.true_and]
      by_cases hsame : node.dependencies = signature
      · rw [hsame, if_pos rfl, ih]
        by_cases hempty : siblings nodes signature = []
        · simp [hempty]
        · simp [hempty]
      · simp [hsame, ih]
    · rw [if_neg hbranchable, ih]
      simp [hbranchable]

/-- The shared frontiers are those of two or more nodes. -/
theorem mem_sharedFrontiers_iff :
    (signature, members) ∈ sharedFrontiers nodes ↔
      members = siblings nodes signature ∧ 2 ≤ members.length := by
  rw [sharedFrontiers, List.mem_filter, ← Dict.get?_eq_some_iff, get?_frontierGroups]
  constructor
  · rintro ⟨hsome, hlength⟩
    split at hsome
    · cases hsome
    · cases hsome
      exact ⟨rfl, of_decide_eq_true hlength⟩
  · rintro ⟨rfl, hlength⟩
    have hne : siblings nodes signature ≠ [] := by
      intro hempty
      rw [hempty] at hlength
      simp at hlength
    exact ⟨if_neg hne, decide_eq_true hlength⟩

lemma mem_namedFrontiers_iff {groupId : String} :
    (groupId, members) ∈ namedFrontiers H nodes ↔ ∃ signature,
      members = siblings nodes signature ∧ 2 ≤ members.length ∧
        groupId = branchGroupId H signature members := by
  rw [namedFrontiers, List.mem_map]
  constructor
  · rintro ⟨⟨signature, _⟩, hmem, heq⟩
    cases heq
    obtain ⟨hmembers, hlength⟩ := mem_sharedFrontiers_iff.mp hmem
    exact ⟨signature, hmembers, hlength, rfl⟩
  · rintro ⟨signature, hmembers, hlength, rfl⟩
    exact ⟨(signature, members), mem_sharedFrontiers_iff.mpr ⟨hmembers, hlength⟩, rfl⟩

/-! ## Assignments -/

lemma get?_assignMembers {members : List (String × List (PlanNode D))}
    (h : ∀ e ∈ members, ∀ e' ∈ members, ∀ m ∈ e.2, ∀ m' ∈ e'.2, m.nodeId = m'.nodeId → e.1 = e'.1)
    {nodeId value : String} : (assignMembers members).get? nodeId = some value ↔
      ∃ e ∈ members, nodeId ∈ planNodeIds e.2 ∧ e.1 = value := by
  have hflat : assignMembers members =
      (members.flatMap fun e => e.2.map fun m => (m.nodeId, e.1)).foldl
        (fun d pair => d.set pair.1 pair.2) .empty := by
    rw [assignMembers, List.foldl_flatMap]
    simp only [List.foldl_map]
  rw [hflat, Dict.get?_foldl_set_of_functional]
  · constructor
    · rintro ⟨pair, hpair, rfl, rfl⟩
      obtain ⟨e, he, hmap⟩ := List.mem_flatMap.mp hpair
      obtain ⟨m, hm, rfl⟩ := List.mem_map.mp hmap
      exact ⟨e, he, mem_planNodeIds_of_mem hm, rfl⟩
    · rintro ⟨e, he, hid, rfl⟩
      obtain ⟨m, hm, rfl⟩ := List.mem_map.mp hid
      have hpair : (m.nodeId, e.1) ∈ members.flatMap fun e => e.2.map fun m => (m.nodeId, e.1) :=
        List.mem_flatMap.mpr ⟨e, he, List.mem_map.mpr ⟨m, hm, rfl⟩⟩
      exact ⟨(m.nodeId, e.1), hpair, rfl, rfl⟩
  · intro pair hpair pair' hpair' hkey
    obtain ⟨e, he, hmap⟩ := List.mem_flatMap.mp hpair
    obtain ⟨m, hm, rfl⟩ := List.mem_map.mp hmap
    obtain ⟨e', he', hmap'⟩ := List.mem_flatMap.mp hpair'
    obtain ⟨m', hm', rfl⟩ := List.mem_map.mp hmap'
    exact h e he e' he' m hm m' hm' hkey

variable (H nodes) in
/-- The branch group of a node. -/
def groupOf (node : PlanNode D) : Option String :=
  let members := siblings nodes node.dependencies
  if branchable node ∧ 2 ≤ members.length then
    some (branchGroupId H node.dependencies members)
  else none

/-- The nodes of a frontier are in the group that is named after it. -/
lemma groupOf_eq_some_iff {groupId : String} : groupOf H nodes node = some groupId ↔
    branchable node ∧ 2 ≤ (siblings nodes node.dependencies).length ∧
      branchGroupId H node.dependencies (siblings nodes node.dependencies) = groupId := by
  simp only [groupOf, Option.ite_none_right_eq_some, Option.some.injEq, and_assoc]

section Unique

variable (hunique : (planNodeIds nodes).Nodup)
include hunique

lemma eq_of_nodeId_eq {a b : PlanNode D} (ha : a ∈ nodes) (hb : b ∈ nodes)
    (h : a.nodeId = b.nodeId) : a = b := List.inj_on_of_nodup_map hunique ha hb h

lemma namedFrontiers_functional : ∀ e ∈ namedFrontiers H nodes, ∀ e' ∈ namedFrontiers H nodes,
    ∀ m ∈ e.2, ∀ m' ∈ e'.2, m.nodeId = m'.nodeId → e.1 = e'.1 ∧ e.2 = e'.2 := by
  rintro ⟨groupId, members⟩ he ⟨groupId', members'⟩ he' m hm m' hm' hid
  obtain ⟨signature, rfl, -, rfl⟩ := mem_namedFrontiers_iff.mp he
  obtain ⟨signature', rfl, -, rfl⟩ := mem_namedFrontiers_iff.mp he'
  rw [mem_siblings] at hm hm'
  have hsame : signature = signature' := by
    rw [← hm.2.2, ← hm'.2.2, eq_of_nodeId_eq hunique hm.1 hm'.1 hid]
  rw [hsame]
  exact ⟨rfl, rfl⟩

/-- The frontier of a node that is in a group. -/
lemma exists_namedFrontier_iff (hnode : node ∈ nodes) {groupId : String} :
    (∃ e ∈ namedFrontiers H nodes, node.nodeId ∈ planNodeIds e.2 ∧ e.1 = groupId) ↔
      groupOf H nodes node = some groupId := by
  rw [groupOf_eq_some_iff]
  constructor
  · rintro ⟨⟨_, members⟩, he, hid, rfl⟩
    obtain ⟨signature, rfl, hlength, rfl⟩ := mem_namedFrontiers_iff.mp he
    obtain ⟨m, hm, hmid⟩ := List.mem_map.mp hid
    obtain ⟨hmem, hbranchable, rfl⟩ := mem_siblings.mp hm
    rw [eq_of_nodeId_eq hunique hmem hnode hmid] at hbranchable hlength ⊢
    exact ⟨hbranchable, hlength, rfl⟩
  · rintro ⟨hbranchable, hlength, rfl⟩
    exact ⟨_, mem_namedFrontiers_iff.mpr ⟨_, rfl, hlength, rfl⟩,
      mem_planNodeIds_of_mem (mem_siblings.mpr ⟨hnode, hbranchable, rfl⟩), rfl⟩

lemma get?_branchAssignments (hnode : node ∈ nodes) :
    (assignMembers (namedFrontiers H nodes)).get? node.nodeId = groupOf H nodes node := by
  refine Option.ext fun groupId => ?_
  rw [get?_assignMembers fun e he e' he' m hm m' hm' hid =>
      (namedFrontiers_functional hunique e he e' he' m hm m' hm' hid).1,
    exists_namedFrontier_iff hunique hnode]

end Unique

/-! ## The nodes with their groups and merges -/

/-- Names made from digests that nothing else has. -/
structure FreshNames (H : PlanHashes) (task : BenchmarkTask) (terminalOutputKeys : List String)
    (nodes : List (PlanNode D)) : Prop where
  groupIds : ((namedFrontiers H nodes).map Prod.fst).Nodup
  mergeIds : ∀ entry ∈ namedFrontiers H nodes, mergeNodeId entry.1 ∉ planNodeIds nodes
  mergeOutputKeys : ∀ entry ∈ namedFrontiers H nodes,
    mergeNodeId entry.1 ++ ".output" ∉ nodes.map (·.outputKey)
  verifyId : verifyNodeId H task terminalOutputKeys ∉ planNodeIds nodes
  verifyOutputKey :
    verifyNodeId H task terminalOutputKeys ++ ".status" ∉ nodes.map (·.outputKey)

variable (H nodes) in
/-- The merge node of the group of a node. -/
def mergeOf (nodeId : String) : Option String :=
  ((nodeById nodes nodeId).bind (groupOf H nodes)).map mergeNodeId

variable (H nodes) in
/-- A node with its group, that waits for the merges of the groups it depends on. -/
def branchedNode (node : PlanNode D) : PlanNode D :=
  { node with
    branchGroupId := groupOf H nodes node
    dependencies :=
      addDependencies node.dependencies (node.dependencies.filterMap (mergeOf H nodes)) }

variable (H nodes) in
/-- The merge nodes of all groups. -/
def mergeNodes : List (PlanNode D) :=
  (namedFrontiers H nodes).map fun entry => mergeNode entry.1 entry.2

lemma mergeNodeId_injective : Function.Injective mergeNodeId := fun _ _ h =>
  (String.append_right_inj _).mp h

section Unique

variable (hunique : (planNodeIds nodes).Nodup)
  (hknown : ∀ node ∈ nodes, ∀ dependency ∈ node.dependencies, dependency ∈ planNodeIds nodes)
  (hgroups : ((namedFrontiers H nodes).map Prod.fst).Nodup)
include hunique

lemma mergeOf_eq_some_iff (hnode : node ∈ nodes) {mergeId : String} :
    mergeOf H nodes node.nodeId = some mergeId ↔
      ∃ groupId, groupOf H nodes node = some groupId ∧ mergeNodeId groupId = mergeId := by
  rw [mergeOf, (nodeById_eq_some_iff hunique).mpr ⟨hnode, rfl⟩, Option.bind_some,
    Option.map_eq_some_iff]

/-- The merge nodes that an assignment of members to merges names. -/
lemma get?_mergeDependencyMap (hnode : node ∈ nodes) :
    (assignMembers ((namedFrontiers H nodes).map fun e => (mergeNodeId e.1, e.2))).get?
      node.nodeId = mergeOf H nodes node.nodeId := by
  refine Option.ext fun mergeId => ?_
  rw [mergeOf_eq_some_iff hunique hnode, get?_assignMembers]
  · constructor
    · rintro ⟨e, he, hid, rfl⟩
      obtain ⟨entry, hentry, rfl⟩ := List.mem_map.mp he
      exact ⟨entry.1, (exists_namedFrontier_iff hunique hnode).mp ⟨entry, hentry, hid, rfl⟩, rfl⟩
    · rintro ⟨groupId, hgroup, rfl⟩
      obtain ⟨entry, hentry, hid, rfl⟩ := (exists_namedFrontier_iff hunique hnode).mpr hgroup
      exact ⟨_, List.mem_map.mpr ⟨entry, hentry, rfl⟩, hid, rfl⟩
  · intro e he e' he' m hm m' hm' hid
    obtain ⟨entry, hentry, rfl⟩ := List.mem_map.mp he
    obtain ⟨entry', hentry', rfl⟩ := List.mem_map.mp he'
    exact congrArg mergeNodeId
      (namedFrontiers_functional hunique entry hentry entry' hentry' m hm m' hm' hid).1

include hknown hgroups in
/-- What grouping and merging make of the nodes. -/
theorem appendMergeNodes_attachBranchGroups
    (hkinds : ∀ node ∈ nodes, node.nodeKind ≠ .merge) :
    appendMergeNodes (attachBranchGroups H nodes).1 (attachBranchGroups H nodes).2 =
      nodes.map (branchedNode H nodes) ++ mergeNodes H nodes := by
  have hentries : (attachBranchGroups H nodes).2.entries = namedFrontiers H nodes := by
    have hfold : ((namedFrontiers H nodes).foldl (fun grouped entry => grouped.set entry.1 entry.2)
        (Dict.empty : Dict String (List (PlanNode D)))).entries =
          (namedFrontiers H nodes).map fun entry => (entry.1, entry.2) :=
      Dict.entries_foldl_set (by simpa [Dict.keys, Dict.empty] using hgroups)
    simpa [attachBranchGroups] using hfold
  rw [appendMergeNodes, hentries, List.map_append]
  congr 1
  · show ((nodes.map _).map _) = _
    rw [List.map_map]
    refine List.map_congr_left fun node hnode => ?_
    have hmap : node.dependencies.filterMap (assignMembers
        ((namedFrontiers H nodes).map fun e => (mergeNodeId e.1, e.2))).get? =
          node.dependencies.filterMap (mergeOf H nodes) := by
      refine List.filterMap_congr fun dependency hdependency => ?_
      obtain ⟨other, hother, rfl⟩ := List.mem_map.mp (hknown node hnode dependency hdependency)
      exact get?_mergeDependencyMap hunique hother
    rw [Function.comp_apply, adjustDependencies, if_neg (hkinds node hnode), branchedNode, hmap,
      get?_branchAssignments hunique hnode]
  · rw [mergeNodes, List.map_map]
    refine List.map_congr_left fun entry _ => ?_
    rw [Function.comp_apply, adjustDependencies]
    exact if_pos rfl

end Unique

lemma prefix_addDependencies (dependencies extra : List String) :
    dependencies <+: addDependencies dependencies extra := by
  rw [addDependencies]
  induction extra generalizing dependencies with
  | nil => exact List.prefix_refl _
  | cons dependency extra ih =>
    rw [List.foldl_cons]
    split
    · exact ih dependencies
    · exact (List.prefix_append dependencies [dependency]).trans (ih _)

variable {dependency : String}

lemma mem_addDependencies {dependencies extra : List String} :
    dependency ∈ addDependencies dependencies extra ↔
      dependency ∈ dependencies ∨ dependency ∈ extra := by
  rw [addDependencies]
  induction extra generalizing dependencies with
  | nil => simp
  | cons first extra ih =>
    rw [List.foldl_cons, ih, List.mem_cons]
    split
    · rename_i hmem
      constructor
      · rintro (h | h)
        · exact .inl h
        · exact .inr (.inr h)
      · rintro (h | rfl | h)
        · exact .inl h
        · exact .inl hmem
        · exact .inr h
    · rw [List.mem_append, List.mem_singleton, or_assoc]

/-- What a node waits for: its own dependencies and the merges of their groups. -/
lemma mem_dependencies_branchedNode :
    dependency ∈ (branchedNode H nodes node).dependencies ↔ dependency ∈ node.dependencies ∨
      ∃ own ∈ node.dependencies, mergeOf H nodes own = some dependency := by
  rw [branchedNode, mem_addDependencies, List.mem_filterMap]

/-! ## The verify node -/

/-- What is waited for until an output is there: the merge of the group of its producer, or the
producer, when it is a member of no group. -/
lemma outputDependency_cases {outputKey dependency : String}
    (h : outputDependency nodes outputKey = some dependency) :
    (∃ merge ∈ nodes, merge.nodeKind = .merge ∧ merge.nodeId = dependency) ∨
      ((∃ producer ∈ nodes, producer.nodeId = dependency) ∧
        ∀ merge ∈ nodes, merge.nodeKind = .merge → dependency ∉ merge.dependencies) := by
  rw [outputDependency, Option.map_eq_some_iff] at h
  obtain ⟨producerId, hproducer, hdependency⟩ := h
  rw [producerByOutput, Option.map_eq_some_iff] at hproducer
  obtain ⟨producer, hfind, rfl⟩ := hproducer
  cases hmerge : mergeByMember nodes producer.nodeId with
  | some mergeId =>
    rw [hmerge, Option.getD_some] at hdependency
    rw [mergeByMember, Option.map_eq_some_iff] at hmerge
    obtain ⟨merge, hfound, hid⟩ := hmerge
    have hkind := List.find?_some hfound
    rw [decide_eq_true_iff] at hkind
    have hmem := List.mem_reverse.mp (List.mem_of_find?_eq_some hfound)
    exact .inl ⟨merge, hmem, hkind.1, hid.trans hdependency⟩
  | none =>
    rw [hmerge, Option.getD_none] at hdependency
    subst hdependency
    refine .inr ⟨⟨producer, List.mem_reverse.mp (List.mem_of_find?_eq_some hfind), rfl⟩, ?_⟩
    intro merge hmem hkind hin
    rw [mergeByMember, Option.map_eq_none_iff, List.find?_eq_none] at hmerge
    exact hmerge merge (List.mem_reverse.mpr hmem) (decide_eq_true ⟨hkind, hin⟩)

lemma exists_of_mem_terminalDependencyNodeIds {keys : List String}
    (h : dependency ∈ terminalDependencyNodeIds nodes keys) :
    ∃ outputKey, outputDependency nodes outputKey = some dependency := by
  -- What a step adds to the ids so far is the dependency of its key.
  have hfold : ∀ step : List String → String → List String,
      (∀ ordered key, dependency ∈ step ordered key →
        dependency ∈ ordered ∨ outputDependency nodes key = some dependency) →
      ∀ (keys ordered : List String), dependency ∈ keys.foldl step ordered →
        dependency ∈ ordered ∨ ∃ key, outputDependency nodes key = some dependency := by
    intro step hstep keys
    induction keys with
    | nil => exact fun _ hmem => .inl hmem
    | cons key keys ih =>
      intro ordered hmem
      rcases ih _ hmem with hin | hout
      · exact (hstep ordered key hin).imp_right fun hsome => ⟨key, hsome⟩
      · exact .inr hout
  refine (hfold _ ?_ keys [] h).resolve_left List.not_mem_nil
  intro ordered key hin
  split at hin
  · exact .inl hin
  · rename_i dependencyId hsome
    split at hin
    · exact .inl hin
    · rcases List.mem_append.mp hin with hin | hin
      · exact .inl hin
      · exact .inr (List.mem_singleton.mp hin ▸ hsome)

lemma appendVerifyNode_cases (H : PlanHashes) (nodes : List (PlanNode D)) (task : BenchmarkTask)
    (keys : List String) : appendVerifyNode H nodes task keys = nodes ∨
      terminalDependencyNodeIds nodes keys ≠ [] ∧ appendVerifyNode H nodes task keys =
        nodes ++ [verifyNode H task keys (terminalDependencyNodeIds nodes keys)] := by
  unfold appendVerifyNode
  by_cases h : needsVerify task = false ∨ keys = [] ∨ terminalDependencyNodeIds nodes keys = []
  · exact .inl (if_pos h)
  · exact .inr ⟨fun hempty => h (.inr (.inr hempty)), if_neg h⟩

/-! ## All nodes -/

/-- Nodes of operations: they can be put in branches, their ids and output keys are distinct, and
they depend on each other without a cycle. -/
structure OperationGraph (nodes : List (PlanNode D)) : Prop extends DependencyGraph nodes where
  outputKeys : (nodes.map (·.outputKey)).Nodup
  branchable : ∀ node ∈ nodes, branchable node

lemma nodeKind_ne_of_branchable (h : branchable node) :
    node.nodeKind ≠ .merge ∧ node.nodeKind ≠ .verify := by
  constructor <;> intro hkind <;> simp [branchable, hkind, getPlanNodeDescriptor] at h

lemma mergeNodeId_ne_verifyNodeId (groupId : String) (task : BenchmarkTask) (keys : List String) :
    mergeNodeId groupId ≠ verifyNodeId H task keys := by
  intro heq
  have hlist := congrArg String.toList heq
  have hmerge : "merge.".toList = 'm' :: ['e', 'r', 'g', 'e', '.'] := by decide
  have hverify : "verify.".toList = 'v' :: ['e', 'r', 'i', 'f', 'y', '.'] := by decide
  rw [mergeNodeId, verifyNodeId, String.toList_append, String.toList_append, hmerge, hverify,
    List.cons_append, List.cons_append] at hlist
  exact absurd (List.cons.inj hlist).1 (by decide)

section Branched

variable {task : BenchmarkTask} {keys : List String} (h : OperationGraph nodes)
  (hfresh : FreshNames H task keys nodes)

/-- The nodes that a plan is made of. -/
inductive NodeCase (H : PlanHashes) (task : BenchmarkTask) (keys : List String)
    (nodes : List (PlanNode D)) : PlanNode D → Prop
  | operation (own : PlanNode D) (mem : own ∈ nodes) :
      NodeCase H task keys nodes (branchedNode H nodes own)
  | merge (entry : String × List (PlanNode D)) (mem : entry ∈ namedFrontiers H nodes) :
      NodeCase H task keys nodes (mergeNode entry.1 entry.2)
  | verify (dependencies : List String) (nonempty : dependencies ≠ [])
      (awaited : ∀ dependency ∈ dependencies, (∃ entry ∈ namedFrontiers H nodes,
          mergeNodeId entry.1 = dependency) ∨
        (∃ producer ∈ nodes, producer.nodeId = dependency) ∧
          ∀ entry ∈ namedFrontiers H nodes, dependency ∉ planNodeIds entry.2) :
      NodeCase H task keys nodes (verifyNode H task keys dependencies)

include h hfresh

lemma branchedNodes_cases :
    branchedNodes H task keys nodes = nodes.map (branchedNode H nodes) ++ mergeNodes H nodes ∨
      ∃ awaited, awaited = terminalDependencyNodeIds
          (nodes.map (branchedNode H nodes) ++ mergeNodes H nodes) keys ∧ awaited ≠ [] ∧
        branchedNodes H task keys nodes = nodes.map (branchedNode H nodes) ++ mergeNodes H nodes ++
          [verifyNode H task keys awaited] := by
  have heq : branchedNodes H task keys nodes = appendVerifyNode H (appendMergeNodes
      (attachBranchGroups H nodes).1 (attachBranchGroups H nodes).2) task keys := rfl
  rw [heq, appendMergeNodes_attachBranchGroups h.unique h.known hfresh.groupIds fun node hnode =>
    (nodeKind_ne_of_branchable (h.branchable node hnode)).1]
  exact (appendVerifyNode_cases H _ task keys).imp_right fun hverify => ⟨_, rfl, hverify⟩

omit h hfresh in
lemma mem_base_iff : node ∈ nodes.map (branchedNode H nodes) ++ mergeNodes H nodes ↔
    (∃ own ∈ nodes, branchedNode H nodes own = node) ∨
      ∃ entry ∈ namedFrontiers H nodes, mergeNode entry.1 entry.2 = node := by
  rw [List.mem_append, List.mem_map, mergeNodes, List.mem_map]

omit hfresh in
lemma awaited_of_outputDependency {outputKey dependency : String}
    (hsome : outputDependency (nodes.map (branchedNode H nodes) ++ mergeNodes H nodes) outputKey =
      some dependency) :
    (∃ entry ∈ namedFrontiers H nodes, mergeNodeId entry.1 = dependency) ∨
      (∃ producer ∈ nodes, producer.nodeId = dependency) ∧
        ∀ entry ∈ namedFrontiers H nodes, dependency ∉ planNodeIds entry.2 := by
  have hmerge (entry : String × List (PlanNode D)) (hentry : entry ∈ namedFrontiers H nodes) :
      mergeNode entry.1 entry.2 ∈ nodes.map (branchedNode H nodes) ++ mergeNodes H nodes :=
    mem_base_iff.mpr (.inr ⟨entry, hentry, rfl⟩)
  rcases outputDependency_cases hsome with ⟨merge, hmem, hkind, rfl⟩ | ⟨⟨producer, hmem, rfl⟩, hnot⟩
  · rcases mem_base_iff.mp hmem with ⟨own, hown, rfl⟩ | ⟨entry, hentry, rfl⟩
    · exact absurd hkind (nodeKind_ne_of_branchable (h.branchable own hown)).1
    · exact .inl ⟨entry, hentry, rfl⟩
  · rcases mem_base_iff.mp hmem with ⟨own, hown, rfl⟩ | ⟨entry, hentry, rfl⟩
    · refine .inr ⟨⟨own, hown, rfl⟩, fun entry hentry hin => ?_⟩
      exact hnot _ (hmerge entry hentry) rfl hin
    · exact .inl ⟨entry, hentry, rfl⟩

/-- What the nodes of a plan are. -/
theorem nodeCase_of_mem (hnode : node ∈ branchedNodes H task keys nodes) :
    NodeCase H task keys nodes node := by
  have hbase (hmem : node ∈ nodes.map (branchedNode H nodes) ++ mergeNodes H nodes) :
      NodeCase H task keys nodes node := by
    rcases mem_base_iff.mp hmem with ⟨own, hown, rfl⟩ | ⟨entry, hentry, rfl⟩
    · exact .operation own hown
    · exact .merge entry hentry
  rcases branchedNodes_cases h hfresh with heq | ⟨_, rfl, hne, heq⟩
  · rw [heq] at hnode
    exact hbase hnode
  · rw [heq, List.mem_append, List.mem_singleton] at hnode
    rcases hnode with hnode | rfl
    · exact hbase hnode
    · refine .verify _ hne fun dependency hdependency => ?_
      obtain ⟨outputKey, hsome⟩ := exists_of_mem_terminalDependencyNodeIds hdependency
      exact awaited_of_outputDependency h hsome

lemma mem_branchedNodes_of_mem (hnode : node ∈ nodes) :
    branchedNode H nodes node ∈ branchedNodes H task keys nodes := by
  have hmem := (mem_base_iff (H := H)).mpr (.inl ⟨node, hnode, rfl⟩)
  rcases branchedNodes_cases h hfresh with heq | ⟨_, -, -, heq⟩
  · rwa [heq]
  · rw [heq]
    exact List.mem_append_left _ hmem

variable {entry : String × List (PlanNode D)}

lemma mergeNode_mem_branchedNodes (hentry : entry ∈ namedFrontiers H nodes) :
    mergeNode entry.1 entry.2 ∈ branchedNodes H task keys nodes := by
  have hmem := (mem_base_iff (H := H)).mpr (.inr ⟨entry, hentry, rfl⟩)
  rcases branchedNodes_cases h hfresh with heq | ⟨_, -, -, heq⟩
  · rwa [heq]
  · rw [heq]
    exact List.mem_append_left _ hmem

omit h hfresh in
lemma planNodeIds_base : planNodeIds (nodes.map (branchedNode H nodes) ++ mergeNodes H nodes) =
    planNodeIds nodes ++ ((namedFrontiers H nodes).map Prod.fst).map mergeNodeId := by
  rw [planNodeIds, List.map_append, List.map_map, mergeNodes, List.map_map, List.map_map]
  rfl

theorem nodup_planNodeIds_branchedNodes :
    (planNodeIds (branchedNodes H task keys nodes)).Nodup := by
  have hbase : (planNodeIds (nodes.map (branchedNode H nodes) ++ mergeNodes H nodes)).Nodup := by
    rw [planNodeIds_base]
    refine List.nodup_append.mpr ⟨h.unique, hfresh.groupIds.map mergeNodeId_injective, ?_⟩
    rintro nodeId hid mergeId hmerge rfl
    obtain ⟨groupId, hgroup, rfl⟩ := List.mem_map.mp hmerge
    obtain ⟨entry, hentry, rfl⟩ := List.mem_map.mp hgroup
    exact hfresh.mergeIds entry hentry hid
  rcases branchedNodes_cases h hfresh with heq | ⟨_, -, -, heq⟩
  · rwa [heq]
  · rw [heq, planNodeIds, List.map_append, List.map_singleton, ← List.concat_eq_append]
    refine List.Nodup.concat (fun hid => ?_) hbase
    have hid' : verifyNodeId H task keys ∈ planNodeIds nodes ++
        ((namedFrontiers H nodes).map Prod.fst).map mergeNodeId := by
      rw [← planNodeIds_base]
      exact hid
    rcases List.mem_append.mp hid' with hid' | hid'
    · exact hfresh.verifyId hid'
    · obtain ⟨groupId, -, heq⟩ := List.mem_map.mp hid'
      exact mergeNodeId_ne_verifyNodeId groupId task keys heq

/-! ### Ranks -/

omit hfresh in
/-- The members of a frontier wait for the same nodes, so they are of one height. -/
lemma height_eq_of_mem (hentry : entry ∈ namedFrontiers H nodes) {a b : PlanNode D}
    (ha : a ∈ entry.2) (hb : b ∈ entry.2) :
    height (dependenciesOf nodes) (planNodeIds nodes) a.nodeId =
      height (dependenciesOf nodes) (planNodeIds nodes) b.nodeId := by
  obtain ⟨groupId, members⟩ := entry
  obtain ⟨signature, rfl, -, -⟩ := mem_namedFrontiers_iff.mp hentry
  rw [mem_siblings] at ha hb
  refine height_congr ?_
  rw [dependenciesOf_of_mem h.unique ha.1, dependenciesOf_of_mem h.unique hb.1, ha.2.2, hb.2.2]

omit h hfresh in
variable (H nodes) in
/-- Twice the height of a node, for a merge one more than that of the members, and for the verify
node more than that of all. -/
noncomputable def branchedRank (nodeId : String) : ℕ :=
  if nodeId ∈ planNodeIds nodes then 2 * height (dependenciesOf nodes) (planNodeIds nodes) nodeId
  else
    match (namedFrontiers H nodes).find? fun entry => mergeNodeId entry.1 = nodeId with
    | some entry => (entry.2.head?.elim 0 fun member =>
        2 * height (dependenciesOf nodes) (planNodeIds nodes) member.nodeId) + 1
    | none => 2 * nodes.length + 1

omit h hfresh in
lemma branchedRank_of_mem (hnode : node ∈ nodes) : branchedRank H nodes node.nodeId =
    2 * height (dependenciesOf nodes) (planNodeIds nodes) node.nodeId :=
  if_pos (mem_planNodeIds_of_mem hnode)

lemma branchedRank_mergeNodeId (hentry : entry ∈ namedFrontiers H nodes) {member : PlanNode D}
    (hmember : member ∈ entry.2) :
    branchedRank H nodes (mergeNodeId entry.1) =
      2 * height (dependenciesOf nodes) (planNodeIds nodes) member.nodeId + 1 := by
  rw [branchedRank, if_neg (hfresh.mergeIds entry hentry)]
  cases hfind : (namedFrontiers H nodes).find? fun other =>
      mergeNodeId other.1 = mergeNodeId entry.1 with
  | none =>
    have hnone := List.find?_eq_none.mp hfind entry hentry
    simp at hnone
  | some other =>
    have hother := List.mem_of_find?_eq_some hfind
    have hid : other.1 = entry.1 := by
      have hfound := List.find?_some hfind
      rw [decide_eq_true_iff] at hfound
      exact mergeNodeId_injective hfound
    obtain rfl := List.inj_on_of_nodup_map hfresh.groupIds hother hentry hid
    cases hmembers : other.2 with
    | nil => rw [hmembers] at hmember; exact absurd hmember List.not_mem_nil
    | cons first rest =>
      have hfirst : first ∈ other.2 := by rw [hmembers]; exact List.mem_cons_self
      rw [← height_eq_of_mem h hentry hfirst hmember]
      simp only [hmembers, List.head?_cons, Option.elim_some]

omit h in
lemma branchedRank_verifyNodeId :
    branchedRank H nodes (verifyNodeId H task keys) = 2 * nodes.length + 1 := by
  rw [branchedRank, if_neg hfresh.verifyId]
  cases hfind : (namedFrontiers H nodes).find? fun entry =>
      mergeNodeId entry.1 = verifyNodeId H task keys with
  | none => rfl
  | some entry =>
    have hfound := List.find?_some hfind
    rw [decide_eq_true_iff] at hfound
    exact absurd hfound (mergeNodeId_ne_verifyNodeId entry.1 task keys)

omit h hfresh in
/-- A frontier is not empty, and its members are nodes of operations. -/
lemma exists_member (hentry : entry ∈ namedFrontiers H nodes) :
    (∃ member, member ∈ entry.2) ∧ ∀ member ∈ entry.2, member ∈ nodes := by
  obtain ⟨groupId, members⟩ := entry
  obtain ⟨signature, rfl, hlength, -⟩ := mem_namedFrontiers_iff.mp hentry
  have hpos : 0 < (siblings nodes signature).length := Nat.lt_of_lt_of_le Nat.two_pos hlength
  refine ⟨List.exists_mem_of_length_pos hpos, fun member hmember => ?_⟩
  exact (mem_siblings.mp hmember).1

omit hfresh in
/-- The merge of the group of a dependency. -/
lemma exists_entry_of_mergeOf {dependency mergeId : String}
    (hdependency : dependency ∈ planNodeIds nodes)
    (hmerge : mergeOf H nodes dependency = some mergeId) :
    ∃ entry ∈ namedFrontiers H nodes, mergeNodeId entry.1 = mergeId ∧
      ∃ member ∈ entry.2, member.nodeId = dependency := by
  obtain ⟨other, hother, rfl⟩ := List.mem_map.mp hdependency
  obtain ⟨groupId, hgroup, rfl⟩ := (mergeOf_eq_some_iff h.unique hother).mp hmerge
  obtain ⟨entry, hentry, hid, rfl⟩ := (exists_namedFrontier_iff h.unique hother).mpr hgroup
  obtain ⟨member, hmember, hid⟩ := List.mem_map.mp hid
  exact ⟨entry, hentry, rfl, member, hmember, hid⟩

/-- The nodes of a plan depend on nodes of the plan, without a cycle. -/
theorem dependencyGraph_branchedNodes : DependencyGraph (branchedNodes H task keys nodes) := by
  refine DependencyGraph.of_rank (nodup_planNodeIds_branchedNodes h hfresh) ?_
    (branchedRank H nodes) ?_
  · intro node hnode dependency hdependency
    have hoperation {own : PlanNode D} (hown : own ∈ nodes) :
        own.nodeId ∈ planNodeIds (branchedNodes H task keys nodes) :=
      List.mem_map.mpr ⟨_, mem_branchedNodes_of_mem h hfresh hown, rfl⟩
    have hmerge {entry : String × List (PlanNode D)} (hentry : entry ∈ namedFrontiers H nodes) :
        mergeNodeId entry.1 ∈ planNodeIds (branchedNodes H task keys nodes) :=
      List.mem_map.mpr ⟨_, mergeNode_mem_branchedNodes h hfresh hentry, rfl⟩
    cases nodeCase_of_mem h hfresh hnode with
    | operation own hown =>
      rcases mem_dependencies_branchedNode.mp hdependency with hdep | ⟨dep, hdep, hsome⟩
      · obtain ⟨other, hother, rfl⟩ := List.mem_map.mp (h.known own hown dependency hdep)
        exact hoperation hother
      · obtain ⟨entry, hentry, rfl, -⟩ :=
          exists_entry_of_mergeOf h (h.known own hown dep hdep) hsome
        exact hmerge hentry
    | merge entry hentry =>
      obtain ⟨member, hmember, rfl⟩ := List.mem_map.mp hdependency
      exact hoperation ((exists_member hentry).2 member hmember)
    | verify dependencies hne hawaited =>
      rcases hawaited dependency hdependency with ⟨entry, hentry, rfl⟩ | ⟨⟨own, hown, rfl⟩, -⟩
      · exact hmerge hentry
      · exact hoperation hown
  · intro node hnode dependency hdependency
    cases nodeCase_of_mem h hfresh hnode with
    | operation own hown =>
      show _ < branchedRank H nodes own.nodeId
      rw [branchedRank_of_mem hown]
      rcases mem_dependencies_branchedNode.mp hdependency with hdep | ⟨dep, hdep, hsome⟩
      · obtain ⟨other, hother, rfl⟩ := List.mem_map.mp (h.known own hown dependency hdep)
        have hlower := h.height_lt_of_mem_dependencies hown hdep
        rw [branchedRank_of_mem hother]
        omega
      · -- the merge is half a step above the member, and the consumer a whole step
        obtain ⟨entry, hentry, rfl, member, hmember, rfl⟩ :=
          exists_entry_of_mergeOf h (h.known own hown dep hdep) hsome
        have hlower := h.height_lt_of_mem_dependencies hown hdep
        rw [branchedRank_mergeNodeId h hfresh hentry hmember]
        omega
    | merge entry hentry =>
      show _ < branchedRank H nodes (mergeNodeId entry.1)
      obtain ⟨member, hmember, rfl⟩ := List.mem_map.mp hdependency
      rw [branchedRank_mergeNodeId h hfresh hentry hmember,
        branchedRank_of_mem ((exists_member hentry).2 member hmember)]
      omega
    | verify dependencies hne hawaited =>
      show _ < branchedRank H nodes (verifyNodeId H task keys)
      rw [branchedRank_verifyNodeId hfresh]
      rcases hawaited dependency hdependency with ⟨entry, hentry, rfl⟩ | ⟨⟨own, hown, rfl⟩, -⟩
      · obtain ⟨⟨member, hmember⟩, hmembers⟩ := exists_member hentry
        have hbound := h.height_lt (mem_planNodeIds_of_mem (hmembers member hmember))
        rw [branchedRank_mergeNodeId h hfresh hentry hmember]
        omega
      · have hbound := h.height_lt (mem_planNodeIds_of_mem hown)
        rw [branchedRank_of_mem hown]
        omega

/-! ### Groups -/

include h hfresh in
lemma groupOf_eq_some_entry_iff (hentry : entry ∈ namedFrontiers H nodes) (hnode : node ∈ nodes) :
    groupOf H nodes node = some entry.1 ↔ node ∈ entry.2 := by
  rw [← exists_namedFrontier_iff h.unique hnode]
  constructor
  · rintro ⟨other, hother, hid, heq⟩
    obtain rfl := List.inj_on_of_nodup_map hfresh.groupIds hother hentry heq
    obtain ⟨member, hmember, hid⟩ := List.mem_map.mp hid
    have hmem := (exists_member hother).2 member hmember
    rwa [eq_of_nodeId_eq h.unique hmem hnode hid] at hmember
  · exact fun hmember => ⟨entry, hentry, mem_planNodeIds_of_mem hmember, rfl⟩

include h hfresh in
/-- The members of a group, as they stand in the plan. -/
lemma members_branchedNodes (hentry : entry ∈ namedFrontiers H nodes) :
    (branchedNodes H task keys nodes).filter (fun node => node.branchGroupId = some entry.1) =
      entry.2.map (branchedNode H nodes) := by
  have hmerges : (mergeNodes H nodes).filter
      (fun node => node.branchGroupId = some entry.1) = [] := by
    rw [List.filter_eq_nil_iff]
    intro node hnode
    obtain ⟨other, -, rfl⟩ := List.mem_map.mp hnode
    simp [mergeNode]
  have hmembers : nodes.filter (fun node => groupOf H nodes node = some entry.1) = entry.2 := by
    obtain ⟨groupId, members⟩ := entry
    obtain ⟨signature, hmembers, -, -⟩ := mem_namedFrontiers_iff.mp hentry
    have hiff {node : PlanNode D} (hnode : node ∈ nodes) :
        groupOf H nodes node = some groupId ↔ node ∈ members :=
      groupOf_eq_some_entry_iff h hfresh hentry hnode
    conv_rhs => rw [hmembers, siblings]
    refine List.filter_congr fun node hnode => ?_
    rw [Bool.eq_iff_iff, decide_eq_true_iff, hiff hnode, hmembers, mem_siblings,
      Bool.and_eq_true, decide_eq_true_iff]
    exact and_iff_right hnode
  have hbase : (nodes.map (branchedNode H nodes) ++ mergeNodes H nodes).filter
      (fun node => node.branchGroupId = some entry.1) = entry.2.map (branchedNode H nodes) := by
    rw [List.filter_append, hmerges, List.append_nil, List.filter_map, ← hmembers]
    rfl
  rcases branchedNodes_cases h hfresh with heq | ⟨_, -, -, heq⟩
  · rw [heq, hbase]
  · rw [heq, List.filter_append, hbase]
    simp [verifyNode]

include h hfresh in
/-- Nodes of one group wait for the same nodes. -/
theorem dependencies_eq_of_branchGroupId {a b : PlanNode D}
    (ha : a ∈ branchedNodes H task keys nodes) (hb : b ∈ branchedNodes H task keys nodes)
    {groupId : String} (hgroup : a.branchGroupId = some groupId)
    (hsame : b.branchGroupId = some groupId) : a.dependencies = b.dependencies := by
  have hown {node : PlanNode D} (hnode : node ∈ branchedNodes H task keys nodes)
      (hgroup : node.branchGroupId = some groupId) :
      ∃ own ∈ nodes, groupOf H nodes own = some groupId ∧ node = branchedNode H nodes own := by
    cases nodeCase_of_mem h hfresh hnode with
    | operation own hown => exact ⟨own, hown, hgroup, rfl⟩
    | merge entry _ => cases hgroup
    | verify dependencies _ _ => cases hgroup
  obtain ⟨a, hamem, hagroup, rfl⟩ := hown ha hgroup
  obtain ⟨b, hbmem, hbgroup, rfl⟩ := hown hb hsame
  have hdependencies : a.dependencies = b.dependencies := by
    obtain ⟨entry, hentry, -, rfl⟩ := (exists_namedFrontier_iff h.unique hamem).mpr hagroup
    have hamember := (groupOf_eq_some_entry_iff h hfresh hentry hamem).mp hagroup
    have hbmember := (groupOf_eq_some_entry_iff h hfresh hentry hbmem).mp hbgroup
    obtain ⟨groupId, members⟩ := entry
    obtain ⟨signature, rfl, -, -⟩ := mem_namedFrontiers_iff.mp hentry
    exact (mem_siblings.mp hamember).2.2.trans (mem_siblings.mp hbmember).2.2.symm
  show addDependencies _ _ = addDependencies _ _
  rw [hdependencies]

end Branched

end Agintor.Runtime
