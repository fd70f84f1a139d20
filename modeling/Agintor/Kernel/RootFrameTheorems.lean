import Agintor.Kernel.FrameExecutionTheorems

/-!
# The rounds of the root frame

Every round completes the nodes of the frontier, and as long as a node is left the frontier is not
empty. So a plan without cycles has all its outputs after as many rounds as it has nodes.
-/

namespace Agintor.Kernel

open Lib Core Contracts NodeExecutor

variable {D : Type} {nodes : List (PlanNode D)} {node : PlanNode D} {state : ExecutionState}

/-- No node is blocked, and a completed node has its artifact. -/
structure Ready (nodes : List (PlanNode D)) (state : ExecutionState) : Prop where
  free : ∀ node ∈ nodes, state.planNodeStatus.get? node.nodeId ≠ some "recovery_blocked"
  stored : ∀ node ∈ nodes, isCompleted state.planNodeStatus node.nodeId = true →
    node.outputKey ∈ state.artifacts.keys

namespace Ready

/-! ## Steps -/

section Steps

variable (h : Ready nodes state) (E : NodeExecutor D)
include h

/-- A node that runs is completed, and no other status changes. -/
lemma get?_advance (hnode : node ∈ nodes) (nodeId : String) :
    (E.advance state node).planNodeStatus.get? nodeId =
      if node.nodeId = nodeId then some "completed" else state.planNodeStatus.get? nodeId := by
  unfold NodeExecutor.advance
  by_cases hreused : (reusedArtifact state node).isSome = true
  · rw [if_pos (.inl hreused)]
    have hcompleted : isCompleted state.planNodeStatus node.nodeId = true := by
      by_contra hnot
      rw [reusedArtifact, if_neg hnot] at hreused
      cases hreused
    split
    · rename_i hid
      rw [← hid]
      exact of_decide_eq_true hcompleted
    · rfl
  · rw [if_neg (not_or.mpr ⟨hreused, h.free node hnode⟩)]
    exact Dict.get?_set _ _ _ _

lemma isCompleted_advance (hnode : node ∈ nodes) (nodeId : String) :
    isCompleted (E.advance state node).planNodeStatus nodeId = true ↔
      isCompleted state.planNodeStatus nodeId = true ∨ nodeId = node.nodeId := by
  unfold isCompleted
  rw [decide_eq_true_iff, decide_eq_true_iff, h.get?_advance E hnode]
  by_cases hid : node.nodeId = nodeId
  · simp [hid]
  · simp [hid, Ne.symm hid]

lemma advance (hunique : (planNodeIds nodes).Nodup) (hnode : node ∈ nodes) :
    Ready nodes (E.advance state node) := by
  constructor
  · intro other hother
    rw [h.get?_advance E hnode]
    split
    · simp
    · exact h.free other hother
  · intro other hother hcompleted
    show other.outputKey ∈ (state.artifacts.set node.outputKey _).keys
    rw [Dict.mem_keys_set]
    rcases (h.isCompleted_advance E hnode _).mp hcompleted with hbefore | hid
    · exact .inr (h.stored other hother hbefore)
    · rw [List.inj_on_of_nodup_map hunique hother hnode hid]
      exact .inl rfl

end Steps

/-- After the nodes of a frame these are completed, and what was completed still is. -/
lemma foldl_advance (h : Ready nodes state) (E : NodeExecutor D)
    (hunique : (planNodeIds nodes).Nodup) {operations : List (PlanNode D)}
    (hoperations : ∀ operation ∈ operations, operation ∈ nodes) :
    Ready nodes (operations.foldl E.advance state) ∧ ∀ nodeId,
      isCompleted (operations.foldl E.advance state).planNodeStatus nodeId = true ↔
        isCompleted state.planNodeStatus nodeId = true ∨ nodeId ∈ planNodeIds operations := by
  induction operations generalizing state with
  | nil => exact ⟨h, by simp [planNodeIds]⟩
  | cons operation operations ih =>
    obtain ⟨hoperation, hrest⟩ := List.forall_mem_cons.mp hoperations
    obtain ⟨hready, hcompleted⟩ := ih (h.advance E hunique hoperation) hrest
    refine ⟨hready, fun nodeId => ?_⟩
    rw [List.foldl_cons, hcompleted, h.isCompleted_advance E hoperation, planNodeIds,
      planNodeIds, List.map_cons, List.mem_cons, or_assoc]

/-- When no node is left, every output is there. -/
lemma allOutputsPresent (h : Ready nodes state) {keys : List String}
    (hkeys : ∀ key ∈ keys, ∃ node ∈ nodes, node.outputKey = key)
    (hnone : remainingOps state.planNodeStatus nodes = []) :
    allOutputsPresent keys state.artifacts = true := by
  rw [Kernel.allOutputsPresent, List.all_eq_true]
  intro key hkey
  obtain ⟨node, hnode, rfl⟩ := hkeys key hkey
  apply Dict.contains_iff_mem_keys.mpr (h.stored node hnode _)
  by_contra hleft
  rw [remainingOps, planNodeIds, List.map_eq_nil_iff, List.filter_eq_nil_iff] at hnone
  exact hnone node hnode (by simpa using hleft)

end Ready

/-! ## Rounds -/

section Rounds

variable (h : DependencyGraph nodes) (E : NodeExecutor D)
include h

lemma mem_frontier {status : NodeStatus} (hnode : node ∈ activeRunnableFrontier status nodes none) :
    node ∈ nodes ∧ isRunnable status node = true := by
  have hrunnable : node ∈ (orderedExecutionNodes nodes).filter (isRunnable status) := by
    unfold activeRunnableFrontier at hnode
    simp only [ne_eq, not_true_eq_false, if_false] at hnode
    split at hnode
    · cases hnode
    · next first rest hlist =>
      rw [hlist]
      split at hnode
      · rw [List.mem_singleton.mp hnode]
        exact List.mem_cons_self
      · exact hlist ▸ List.mem_of_mem_filter hnode
  obtain ⟨hordered, hcan⟩ := List.mem_filter.mp hrunnable
  exact ⟨mem_of_mem_orderedExecutionNodes h hordered, hcan⟩

/-- A round leaves fewer nodes. -/
lemma remainingOps_round (hready : Ready nodes state) {first : PlanNode D}
    {rest : List (PlanNode D)}
    (hfrontier : activeRunnableFrontier state.planNodeStatus nodes none = first :: rest) :
    Ready nodes (E.executeOperations state (first :: rest)).2 ∧
      (remainingOps (E.executeOperations state (first :: rest)).2.planNodeStatus nodes).length <
        (remainingOps state.planNodeStatus nodes).length := by
  have hmem : ∀ operation ∈ first :: rest, operation ∈ nodes := fun operation hoperation =>
    (mem_frontier h (hfrontier ▸ hoperation)).1
  have hreached : (E.executeOperations state (first :: rest)).2 =
      (first :: rest).foldl E.advance state := E.state_executeEach state _
  rw [hreached]
  obtain ⟨hready', hcompleted⟩ := hready.foldl_advance E h.unique hmem
  refine ⟨hready', ?_⟩
  -- the nodes that are left now are those that were left and are not in the frontier
  have hfilter : (nodes.filter fun node => !isCompleted
      ((first :: rest).foldl E.advance state).planNodeStatus node.nodeId) =
        (nodes.filter fun node => !isCompleted state.planNodeStatus node.nodeId).filter
          fun node => node.nodeId ∉ planNodeIds (first :: rest) := by
    rw [List.filter_filter]
    refine List.filter_congr fun node _ => ?_
    rw [Bool.eq_iff_iff, Bool.not_eq_true', ← Bool.not_eq_true, hcompleted]
    simp [and_comm]
  obtain ⟨hfirst, hcan⟩ := mem_frontier h (hfrontier ▸ List.mem_cons_self (a := first) (l := rest))
  rw [remainingOps, remainingOps, planNodeIds, planNodeIds, List.length_map, List.length_map,
    hfilter, List.length_filter_lt_length_iff_exists]
  refine ⟨first, List.mem_filter.mpr ⟨hfirst, ?_⟩, by simp [planNodeIds]⟩
  exact (Bool.and_eq_true_iff.mp hcan).1

end Rounds

end Agintor.Kernel
