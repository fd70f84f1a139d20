import Agintor.Contracts.PlanGraph
import Agintor.Lib.Dict

/-!
# The order of execution

`_ordered_execution_nodes`, `_active_runnable_frontier`, `_all_outputs_present` and the
`remaining_ops` of `_schedule_root_continuation` of `runtime/kernel/plan_helpers.py`.
The nodes of a plan without cycles are listed each once and after what they depend on, so whatever
has been completed, the first node that has not been is one that can run.
-/

namespace Agintor.Kernel

open Agintor.Contracts Lib

variable {D : Type}

/-- `_ordered_execution_nodes` -/
def orderedExecutionNodes (nodes : List (PlanNode D)) : List (PlanNode D) :=
  ((planNodeIds nodes).foldl
    (postorder (dependenciesOf nodes) (planNodeIds nodes) (nodes.length + 1)) []).filterMap
      (nodeById nodes)

/-- `state.plan_node_status` -/
abbrev NodeStatus := Dict String String

def isCompleted (status : NodeStatus) (nodeId : String) : Bool :=
  status.get? nodeId = some "completed"

def isRunnable (status : NodeStatus) (node : PlanNode D) : Bool :=
  !isCompleted status node.nodeId && node.dependencies.all (isCompleted status)

/-- `_active_runnable_frontier` -/
def activeRunnableFrontier (status : NodeStatus) (nodes : List (PlanNode D))
    (branchGroupId : Option String) : List (PlanNode D) :=
  let runnable := (orderedExecutionNodes nodes).filter (isRunnable status)
  match runnable with
  | [] => []
  | firstRunnable :: _ =>
    if branchGroupId ≠ none then
      runnable.filter fun node => node.branchGroupId = branchGroupId
    else if firstRunnable.group? = none then [firstRunnable]
    else runnable.filter fun node => node.branchGroupId = firstRunnable.branchGroupId

/-- `_all_outputs_present` -/
def allOutputsPresent (terminalOutputKeys : List String) (artifacts : Dict String Core.Json) :
    Bool :=
  terminalOutputKeys.all artifacts.contains

/-- `remaining_ops` -/
def remainingOps (status : NodeStatus) (nodes : List (PlanNode D)) : List String :=
  planNodeIds (nodes.filter fun node => !isCompleted status node.nodeId)

section Order

variable {nodes : List (PlanNode D)} (h : DependencyGraph nodes)
include h

/-- The ids in the order of execution. -/
lemma planNodeIds_orderedExecutionNodes :
    Postordered (dependenciesOf nodes) (planNodeIds nodes)
        (planNodeIds (orderedExecutionNodes nodes)) ∧
      ∀ nodeId ∈ planNodeIds nodes, nodeId ∈ planNodeIds (orderedExecutionNodes nodes) := by
  have hfuel : ∀ a ∈ planNodeIds nodes,
      height (dependenciesOf nodes) (planNodeIds nodes) a < nodes.length + 1 :=
    fun a ha => (h.height_lt ha).trans (Nat.lt_succ_self _)
  have hids : ∀ ids : List String, (∀ a ∈ ids, a ∈ planNodeIds nodes) →
      planNodeIds (ids.filterMap (nodeById nodes)) = ids := by
    intro ids
    induction ids with
    | nil => exact fun _ => rfl
    | cons a ids ih =>
      intro hmem
      obtain ⟨node, hnode, rfl⟩ := List.mem_map.mp (hmem a List.mem_cons_self)
      have hfind := (nodeById_eq_some_iff h.unique).mpr ⟨hnode, rfl⟩
      rw [List.filterMap_cons_some hfind, planNodeIds, List.map_cons]
      exact congrArg _ (ih fun b hb => hmem b (List.mem_cons_of_mem _ hb))
  obtain ⟨hpost, hall⟩ := h.ranked.postordered hfuel
  rw [orderedExecutionNodes, hids _ hpost.mem_nodes]
  exact ⟨hpost, hall⟩

variable {node : PlanNode D}

lemma mem_of_mem_orderedExecutionNodes (hnode : node ∈ orderedExecutionNodes nodes) :
    node ∈ nodes := by
  obtain ⟨nodeId, -, hfind⟩ := List.mem_filterMap.mp hnode
  exact ((nodeById_eq_some_iff h.unique).mp hfind).1

/-- Every node is listed once. -/
theorem orderedExecutionNodes_perm : (orderedExecutionNodes nodes).Perm nodes := by
  obtain ⟨hpost, hall⟩ := planNodeIds_orderedExecutionNodes h
  refine (List.perm_ext_iff_of_nodup hpost.nodup.of_map h.unique.of_map).mpr fun node => ?_
  refine ⟨mem_of_mem_orderedExecutionNodes h, fun hnode => ?_⟩
  obtain ⟨other, hother, hid⟩ := List.mem_map.mp (hall _ (mem_planNodeIds_of_mem hnode))
  have hother' := mem_of_mem_orderedExecutionNodes h hother
  rwa [List.inj_on_of_nodup_map h.unique hother' hnode hid] at hother

/-- Every node is listed after the nodes it depends on. -/
theorem dependencies_orderedExecutionNodes {before after : List (PlanNode D)}
    (heq : orderedExecutionNodes nodes = before ++ node :: after) :
    ∀ dependency ∈ node.dependencies, dependency ∈ planNodeIds before := by
  obtain ⟨hpost, -⟩ := planNodeIds_orderedExecutionNodes h
  have hnode : node ∈ nodes := mem_of_mem_orderedExecutionNodes h (by simp [heq])
  have hids : planNodeIds (orderedExecutionNodes nodes) =
      planNodeIds before ++ node.nodeId :: planNodeIds after := by
    simp [heq, planNodeIds]
  intro dependency hdependency
  refine hpost.nextFirst _ _ _ hids dependency ?_
  rwa [dependenciesOf_of_mem h.unique hnode]

/-- As long as a node is left, one can run: the first one that is left. -/
theorem exists_runnable {status : NodeStatus} (hnode : node ∈ nodes)
    (hleft : isCompleted status node.nodeId = false) :
    ∃ runnable ∈ orderedExecutionNodes nodes, isRunnable status runnable := by
  have hmem := (orderedExecutionNodes_perm h).mem_iff.mpr hnode
  have hfind : ((orderedExecutionNodes nodes).find? fun node =>
      !isCompleted status node.nodeId).isSome := by
    rw [List.find?_isSome]
    exact ⟨node, hmem, by rw [hleft]; rfl⟩
  obtain ⟨first, hfirst⟩ := Option.isSome_iff_exists.mp hfind
  rw [List.find?_eq_some_iff_append] at hfirst
  obtain ⟨hnot, before, after, heq, hbefore⟩ := hfirst
  refine ⟨first, by simp [heq], ?_⟩
  rw [isRunnable, hnot, Bool.true_and, List.all_eq_true]
  intro dependency hdependency
  -- what the first node that is left depends on stands before it
  obtain ⟨earlier, hearlier, rfl⟩ :=
    List.mem_map.mp (dependencies_orderedExecutionNodes h heq dependency hdependency)
  simpa using hbefore earlier hearlier

/-- The frontier is one node, or all the nodes of one branch group that can run. -/
theorem activeRunnableFrontier_cases {status : NodeStatus} (hnode : node ∈ nodes)
    (hleft : isCompleted status node.nodeId = false) :
    activeRunnableFrontier status nodes none ≠ [] ∧
      ((∃ single, single ∈ nodes ∧ isRunnable status single ∧
          activeRunnableFrontier status nodes none = [single]) ∨
        ∃ group, ∀ member, member ∈ activeRunnableFrontier status nodes none ↔
          member ∈ nodes ∧ member.branchGroupId = some group ∧ isRunnable status member) := by
  obtain ⟨runnable, hrunnable, hcan⟩ := exists_runnable h hnode hleft
  have hmem : runnable ∈ (orderedExecutionNodes nodes).filter (isRunnable status) :=
    List.mem_filter.mpr ⟨hrunnable, hcan⟩
  unfold activeRunnableFrontier
  cases hlist : (orderedExecutionNodes nodes).filter (isRunnable status) with
  | nil => rw [hlist] at hmem; exact absurd hmem List.not_mem_nil
  | cons first rest =>
    have hfirst : first ∈ (orderedExecutionNodes nodes).filter (isRunnable status) := by
      rw [hlist]
      exact List.mem_cons_self
    have hfirst' := List.mem_filter.mp hfirst
    simp only [ne_eq, not_true_eq_false, if_false]
    by_cases hgroup : first.group? = none
    · rw [if_pos hgroup]
      have hin := mem_of_mem_orderedExecutionNodes h hfirst'.1
      exact ⟨by simp, .inl ⟨first, hin, hfirst'.2, rfl⟩⟩
    · rw [if_neg hgroup]
      obtain ⟨group, hsome⟩ : ∃ group, first.branchGroupId = some group := by
        cases hid : first.branchGroupId with
        | none => exact absurd (by simp [PlanNode.group?, hid]) hgroup
        | some group => exact ⟨group, rfl⟩
      refine ⟨fun hempty => ?_, .inr ⟨group, fun member => ?_⟩⟩
      · have hnone := List.filter_eq_nil_iff.mp hempty first List.mem_cons_self
        simp at hnone
      · rw [← hlist, List.mem_filter, List.mem_filter, (orderedExecutionNodes_perm h).mem_iff,
          decide_eq_true_iff, hsome]
        tauto

end Order

end Agintor.Kernel
