import Agintor.Contracts.ExecutionPlan
import Agintor.Lib.DepthFirstTheorems

/-!
# The graph of a plan

The dependencies of the nodes of a plan as a graph on their ids, and what the searches of
`validate_execution_plan` find in it when it has no cycle.
-/

namespace Agintor.Contracts

open Lib Core

variable {D P : Type} {nodes : List (PlanNode D)} {node : PlanNode D}

/-- Nodes with distinct ids that depend on each other without a cycle. -/
structure DependencyGraph (nodes : List (PlanNode D)) : Prop where
  unique : (planNodeIds nodes).Nodup
  known : ∀ node ∈ nodes, ∀ dependency ∈ node.dependencies, dependency ∈ planNodeIds nodes
  acyclic : Acyclic (dependenciesOf nodes) (planNodeIds nodes)

lemma mem_planNodeIds_of_mem (h : node ∈ nodes) : node.nodeId ∈ planNodeIds nodes :=
  List.mem_map_of_mem h

section

variable (hunique : (planNodeIds nodes).Nodup)
include hunique

lemma nodeById_eq_some_iff {nodeId : String} :
    nodeById nodes nodeId = some node ↔ node ∈ nodes ∧ node.nodeId = nodeId := by
  constructor
  · intro h
    exact ⟨List.mem_reverse.mp (List.mem_of_find?_eq_some h), by simpa using List.find?_some h⟩
  · rintro ⟨hmem, rfl⟩
    cases hfind : nodeById nodes node.nodeId with
    | none =>
      have hnone := List.find?_eq_none.mp hfind node (List.mem_reverse.mpr hmem)
      simp at hnone
    | some other =>
      have hother : other ∈ nodes := List.mem_reverse.mp (List.mem_of_find?_eq_some hfind)
      have hid : other.nodeId = node.nodeId := by simpa using List.find?_some hfind
      rw [List.inj_on_of_nodup_map hunique hother hmem hid]

lemma dependenciesOf_of_mem (h : node ∈ nodes) :
    dependenciesOf nodes node.nodeId = node.dependencies := by
  rw [dependenciesOf, (nodeById_eq_some_iff hunique).mpr ⟨h, rfl⟩]
  rfl

/-- Ranks that go down with every dependency show that there is no cycle. -/
theorem DependencyGraph.of_rank
    (hknown : ∀ node ∈ nodes, ∀ dependency ∈ node.dependencies, dependency ∈ planNodeIds nodes)
    (rank : String → ℕ)
    (hrank : ∀ node ∈ nodes, ∀ dependency ∈ node.dependencies, rank dependency < rank node.nodeId) :
    DependencyGraph nodes := by
  have hranked : Ranked (dependenciesOf nodes) (planNodeIds nodes) rank := by
    constructor
    · intro a ha b hb
      obtain ⟨node, hnode, rfl⟩ := List.mem_map.mp ha
      rw [dependenciesOf_of_mem hunique hnode] at hb
      exact hknown node hnode b hb
    · intro a ha b hb
      obtain ⟨node, hnode, rfl⟩ := List.mem_map.mp ha
      rw [dependenciesOf_of_mem hunique hnode] at hb
      exact hrank node hnode b hb
  exact ⟨hunique, hknown, hranked.acyclic⟩

end

namespace DependencyGraph

variable (h : DependencyGraph nodes)
include h

/-- The number of nodes that a node waits for. -/
theorem ranked : Ranked (dependenciesOf nodes) (planNodeIds nodes)
    (height (dependenciesOf nodes) (planNodeIds nodes)) := by
  refine h.acyclic.ranked fun a ha b hb => ?_
  obtain ⟨node, hnode, rfl⟩ := List.mem_map.mp ha
  rw [dependenciesOf_of_mem h.unique hnode] at hb
  exact h.known node hnode b hb

lemma height_lt {nodeId : String} (hid : nodeId ∈ planNodeIds nodes) :
    height (dependenciesOf nodes) (planNodeIds nodes) nodeId < nodes.length := by
  have hlt := h.acyclic.height_lt hid
  rwa [planNodeIds, List.length_map] at hlt

lemma height_lt_of_mem_dependencies (hnode : node ∈ nodes) {dependency : String}
    (hdependency : dependency ∈ node.dependencies) :
    height (dependenciesOf nodes) (planNodeIds nodes) dependency <
      height (dependenciesOf nodes) (planNodeIds nodes) node.nodeId := by
  refine h.ranked.lower _ (mem_planNodeIds_of_mem hnode) _ ?_
  rwa [dependenciesOf_of_mem h.unique hnode]

/-- The search for cycles finds none. -/
theorem exists_checkAcyclic : ∃ visited, checkAcyclic nodes = .ok visited := by
  refine exists_foldlM_eq_ok fun a ha visited => ?_
  have hlt := h.height_lt ha
  exact h.ranked.exists_visit _ ha (by omega) fun p hp => absurd hp List.not_mem_nil

/-- The consumers of a node wait for more nodes than it does. -/
lemma ranked_consumersOf : Ranked (consumersOf nodes) (planNodeIds nodes)
    (fun nodeId => nodes.length - height (dependenciesOf nodes) (planNodeIds nodes) nodeId) := by
  have hconsumer {a b : String} (hb : b ∈ consumersOf nodes a) :
      ∃ child ∈ nodes, child.nodeId = b ∧ a ∈ child.dependencies := by
    obtain ⟨child, hchild, hid⟩ := List.mem_map.mp hb
    rw [List.mem_filter, decide_eq_true_iff] at hchild
    exact ⟨child, hchild.1, hid, hchild.2⟩
  constructor
  · intro a _ b hb
    obtain ⟨child, hchild, rfl, -⟩ := hconsumer hb
    exact mem_planNodeIds_of_mem hchild
  · intro a _ b hb
    obtain ⟨child, hchild, rfl, hmem⟩ := hconsumer hb
    have hlower := h.height_lt_of_mem_dependencies hchild hmem
    have hbound := h.height_lt (mem_planNodeIds_of_mem hchild)
    omega

/-- Every node is reached from the nodes that wait for none. -/
theorem mem_reachableIds {content : PlanContent D P} (hcontent : content.nodes = nodes)
    (hroots : content.rootNodeIds = planNodeIds (nodes.filter fun node => node.dependencies = []))
    (hnode : node ∈ nodes) : node.nodeId ∈ reachableIds content := by
  have hrootIds : ∀ a ∈ content.rootNodeIds, a ∈ planNodeIds nodes := by
    intro a ha
    rw [hroots] at ha
    obtain ⟨root, hroot, rfl⟩ := List.mem_map.mp ha
    exact mem_planNodeIds_of_mem (List.mem_of_mem_filter hroot)
  have hfuel : ∀ a ∈ planNodeIds nodes,
      nodes.length - height (dependenciesOf nodes) (planNodeIds nodes) a < nodes.length + 1 := by
    intro a _
    omega
  obtain ⟨hstart, hclosed⟩ := h.ranked_consumersOf.collected hrootIds hfuel
  rw [reachableIds, hcontent]
  -- induction on the number of nodes that the node waits for
  induction hheight : height (dependenciesOf nodes) (planNodeIds nodes) node.nodeId
    using Nat.strong_induction_on generalizing node with
  | _ n ih =>
    cases hdependencies : node.dependencies with
    | nil =>
      refine hstart _ ?_
      rw [hroots]
      exact mem_planNodeIds_of_mem (List.mem_filter.mpr ⟨hnode, by simp [hdependencies]⟩)
    | cons dependency rest =>
      have hmem : dependency ∈ node.dependencies := by simp [hdependencies]
      obtain ⟨before, hbefore, hid⟩ := List.mem_map.mp (h.known node hnode dependency hmem)
      have hlower := h.height_lt_of_mem_dependencies hnode hmem
      rw [← hid] at hlower hmem
      have hreached := ih _ (hheight ▸ hlower) hbefore rfl
      refine hclosed _ hreached _ (mem_planNodeIds_of_mem (List.mem_filter.mpr ⟨hnode, ?_⟩))
      simpa using hmem

end DependencyGraph

end Agintor.Contracts
