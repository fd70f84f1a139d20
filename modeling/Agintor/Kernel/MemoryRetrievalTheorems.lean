import Agintor.Kernel.MemoryLineageTheorems
import Agintor.Kernel.MemoryRetrieval

/-!
# What retrieval returns

Every candidate is live and listed once, every live node with a symbol or path hit is a candidate,
and these come first. The diagnostic also takes a node for exact whose id the call names; so it
finds the exact hits first just if no such node is ranked behind one that nothing matches.
-/

namespace Agintor.Kernel.Memory

open Agintor.Core Lib

namespace LongTermGraph

/-! ## Graphs -/

/-- The graphs that the operations make of an empty one. -/
inductive Built (functions : MemoryFunctions) : LongTermGraph → Prop
  | empty : Built functions empty
  | enterScope {g : LongTermGraph} (context : WriteContext) :
    Built functions g → Built functions (g.enterScope context)
  | exitScope {g : LongTermGraph} : Built functions g → Built functions g.exitScope
  | write {g : LongTermGraph} (call : WriteCall) :
    Built functions g → Built functions (g.afterWrite functions call)
  | tombstone {g : LongTermGraph} (nodeId : String) (source : WriteSource) (writtenAt : ℚ) :
    Built functions g → Built functions (g.afterTombstone functions nodeId source writtenAt)
  | diagnose {g : LongTermGraph} (records : List RetrievalDiagnosticRecord) :
    Built functions g → Built functions { g with retrievalDiagnostics := records }
  | restore {g : LongTermGraph} (snapshot : LongTermGraphSnapshot) :
    Built functions g → Built functions (g.restore snapshot)

/-- Every node is stored under its id. -/
def Keyed (nodes : Dict String MemoryNode) : Prop :=
  ∀ nodeId node, nodes.get? nodeId = some node → node.nodeId = nodeId

lemma keyed_empty : Keyed .empty := by
  intro nodeId node h
  rw [Dict.get?_empty] at h
  cases h

variable {nodes : Dict String MemoryNode}

lemma Keyed.set (h : Keyed nodes) {nodeId : String} {node : MemoryNode}
    (hnode : node.nodeId = nodeId) : Keyed (nodes.set nodeId node) := by
  intro other stored hstored
  rw [Dict.get?_set] at hstored
  split at hstored
  · rename_i heq
    rw [← Option.some.inj hstored, hnode, heq]
  · exact h other stored hstored

lemma Keyed.keepNode (h : Keyed nodes) (node : MemoryNode) : Keyed (keepNode nodes node) := by
  unfold LongTermGraph.keepNode
  split
  · exact h
  · exact h.set rfl

lemma keyed_foldl_set (stored : List MemoryNode) (h : Keyed nodes) :
    Keyed (stored.foldl (fun nodes node => nodes.set node.nodeId node) nodes) := by
  induction stored generalizing nodes with
  | nil => exact h
  | cons node stored ih => exact ih (h.set rfl)

section Keyed

variable {functions : MemoryFunctions} {g : LongTermGraph}

lemma nodes_emitConflictIfNeeded (node : MemoryNode) (introducing : LongTermWriteRecord)
    (source : WriteSource) (excludeNodeId : Option String) (writtenAt : ℚ) :
    (g.emitConflictIfNeeded functions node introducing source excludeNodeId writtenAt).nodes =
      g.nodes := by
  unfold emitConflictIfNeeded
  split
  · rfl
  · rfl

variable {record : LongTermWriteRecord} {after : LongTermGraph}

lemma keyed_tombstone (h : Keyed g.nodes) {nodeId : String} {source : WriteSource} {writtenAt : ℚ}
    (hwrite : g.tombstone functions nodeId source writtenAt = .ok (after, record)) :
    Keyed after.nodes := by
  unfold tombstone at hwrite
  cases hnode : g.nodes.get? nodeId with
  | none =>
    simp only [hnode] at hwrite
    cases hwrite
  | some node =>
    simp only [hnode] at hwrite
    cases hwrite
    exact h.set (h nodeId node hnode)

lemma keyed_write (h : Keyed g.nodes) {call : WriteCall}
    (hwrite : g.write functions call = .ok (after, record)) : Keyed after.nodes := by
  rcases write_cases hwrite with htombstone | ⟨existing, hexisting, hmerge⟩ |
    ⟨existing, hexisting, hrefine⟩ | ⟨action, -, -, -, hstore⟩
  · exact keyed_tombstone h htombstone
  · have hafter : (g.mergeInto functions call existing).1 = after := congrArg Prod.fst hmerge
    have hmerged : (mergedNode existing call.node).nodeId = g.targetId call :=
      h _ existing hexisting
    rw [← hafter, mergeInto, nodes_emitConflictIfNeeded]
    exact (h.set hmerged).keepNode { call.node with tombstoned := true }
  · have hafter : (g.refineInto functions call existing).1 = after := congrArg Prod.fst hrefine
    have hrefined (prior : Option String) :
        (refinedNode existing call.node prior).nodeId = g.targetId call := h _ existing hexisting
    rw [← hafter, refineInto, nodes_emitConflictIfNeeded]
    exact h.set (hrefined (g.latestWriteByNode.get? (g.targetId call)))
  · have hafter : (g.storeNode functions call action).1 = after := congrArg Prod.fst hstore
    rw [← hafter, storeNode, nodes_emitConflictIfNeeded]
    exact h.set rfl

/-- Every operation stores nodes under their ids. -/
theorem Built.keyed (h : Built functions g) : Keyed g.nodes := by
  induction h with
  | empty => exact keyed_empty
  | enterScope context _ ih => exact ih
  | exitScope _ ih => exact ih
  | write call _ ih =>
    unfold afterWrite
    split
    · exact ih
    · rename_i hwrite
      exact keyed_write ih hwrite
  | tombstone nodeId source writtenAt _ ih =>
    unfold afterTombstone
    split
    · exact ih
    · rename_i hwrite
      exact keyed_tombstone ih hwrite
  | diagnose records _ ih => exact ih
  | restore snapshot _ _ => exact keyed_foldl_set snapshot.nodes keyed_empty

end Keyed

/-! ## Merging -/

section Merging

variable (ranked : List MemoryNode)

/-- The next node is added unless its id was seen. -/
lemma mergeRankings_append_singleton (node : MemoryNode) :
    mergeRankings [] (ranked ++ [node]) =
      if node.nodeId ∈ (mergeRankings [] ranked).map (·.nodeId) then mergeRankings [] ranked
      else mergeRankings [] ranked ++ [node] := by
  unfold mergeRankings
  rw [List.foldl_append]
  rfl

lemma nodup_ids_mergeRankings : ((mergeRankings [] ranked).map (·.nodeId)).Nodup := by
  induction ranked using List.reverseRecOn with
  | nil => exact List.nodup_nil
  | append_singleton ranked node ih =>
    rw [mergeRankings_append_singleton]
    split
    · exact ih
    · rename_i hnew
      rw [List.map_append, List.map_singleton, ← List.concat_eq_append]
      exact List.Nodup.concat hnew ih

lemma mergeRankings_sublist : (mergeRankings [] ranked).Sublist ranked := by
  induction ranked using List.reverseRecOn with
  | nil => exact List.Sublist.refl _
  | append_singleton ranked node ih =>
    rw [mergeRankings_append_singleton]
    split
    · exact ih.trans (List.sublist_append_left ranked [node])
    · exact ih.append (List.Sublist.refl [node])

lemma mergeRankings_of_nodup (hnodup : (ranked.map (·.nodeId)).Nodup) :
    mergeRankings [] ranked = ranked := by
  induction ranked using List.reverseRecOn with
  | nil => rfl
  | append_singleton ranked node ih =>
    rw [List.map_append, List.map_singleton, ← List.concat_eq_append, List.nodup_concat] at hnodup
    rw [mergeRankings_append_singleton, ih hnodup.2, if_neg hnodup.1]

/-- Where an id with the property comes first, all ids before it have the property. -/
def IdsFirst (Q : String → Prop) (nodes : List MemoryNode) : Prop :=
  ∀ before node, before ++ [node] <+: nodes → Q node.nodeId →
    node.nodeId ∉ before.map (·.nodeId) → ∀ other ∈ before, Q other.nodeId

lemma idsFirst_append_singleton {Q : String → Prop} {nodes : List MemoryNode} {node : MemoryNode} :
    IdsFirst Q (nodes ++ [node]) ↔ IdsFirst Q nodes ∧
      (Q node.nodeId → node.nodeId ∉ nodes.map (·.nodeId) → ∀ other ∈ nodes, Q other.nodeId) := by
  constructor
  · intro h
    exact ⟨fun before n hstart => h before n (hstart.trans (List.prefix_append nodes [node])),
      h nodes node (List.prefix_refl _)⟩
  · rintro ⟨hnodes, hlast⟩ before n hstart
    rcases List.prefix_concat_iff.mp hstart with heq | hstart
    · obtain ⟨rfl, hn⟩ := List.append_inj' heq rfl
      obtain rfl := List.singleton_injective hn
      exact hlast
    · exact hnodes before n hstart

/-- What follows nodes whose ids do not repeat and are not those of the others: the others that
are the first with their ids. -/
lemma exists_mergeRankings_append (hnodup : (ranked.map (·.nodeId)).Nodup) (Q : String → Prop)
    (others : List MemoryNode) (hother : ∀ node ∈ others, node.nodeId ∉ ranked.map (·.nodeId)) :
    ∃ rest, mergeRankings [] (ranked ++ others) = ranked ++ rest ∧
      (∀ nodeId, nodeId ∈ rest.map (·.nodeId) ↔ nodeId ∈ others.map (·.nodeId)) ∧
      (rest.Pairwise (fun a b => Q b.nodeId → Q a.nodeId) ↔ IdsFirst Q others) := by
  induction others using List.reverseRecOn with
  | nil =>
    refine ⟨[], by rw [List.append_nil, mergeRankings_of_nodup ranked hnodup],
      fun _ => Iff.rfl, iff_of_true List.Pairwise.nil ?_⟩
    intro before node hstart
    exact absurd (List.prefix_nil.mp hstart) (List.append_ne_nil_of_right_ne_nil _ (by simp))
  | append_singleton others node ih =>
    obtain ⟨rest, hrest, hids, hfirst⟩ := ih fun a ha => hother a (List.mem_append_left [node] ha)
    -- the id was seen if it is one of the others before, for it is none of `ranked`
    have hseen : node.nodeId ∈ (ranked ++ rest).map (·.nodeId) ↔
        node.nodeId ∈ others.map (·.nodeId) := by
      rw [List.map_append, List.mem_append, hids]
      exact or_iff_right (hother node (List.mem_append_right others (List.mem_singleton_self node)))
    rw [← List.append_assoc, mergeRankings_append_singleton, hrest, idsFirst_append_singleton]
    by_cases hold : node.nodeId ∈ others.map (·.nodeId)
    · refine ⟨rest, if_pos (hseen.mpr hold), fun nodeId => ?_, ?_⟩
      · rw [hids, List.map_append, List.mem_append, List.map_singleton, List.mem_singleton]
        exact (or_iff_left_of_imp fun heq => heq ▸ hold).symm
      · rw [hfirst]
        exact (and_iff_left fun _ hnew => absurd hold hnew).symm
    · refine ⟨rest ++ [node], ?_, fun nodeId => ?_, ?_⟩
      · rw [if_neg (mt hseen.mp hold), List.append_assoc]
      · rw [List.map_append, List.map_append, List.mem_append, List.mem_append, hids]
      · have hall : (∀ a ∈ rest, Q a.nodeId) ↔ ∀ a ∈ others, Q a.nodeId := by
          rw [← List.forall_mem_map (f := fun n : MemoryNode => n.nodeId) (P := Q),
            ← List.forall_mem_map (f := fun n : MemoryNode => n.nodeId) (P := Q)]
          exact forall_congr' fun nodeId => imp_congr_left (hids nodeId)
        rw [List.pairwise_append, hfirst, ← hall]
        refine and_congr_right fun _ => ?_
        simp only [List.pairwise_singleton, List.mem_singleton, forall_eq, true_and, hold,
          not_false_eq_true, true_imp_iff]
        exact ⟨fun h hq a ha => h a ha hq, fun h a ha hq => h hq a ha⟩

end Merging

end LongTermGraph

/-! ## The check of the diagnostic -/

/-- The check fails at an exact node behind one that is not. -/
lemma exactFirst_eq (call : RetrievalCall) (nodes : List MemoryNode) :
    ((exactFirst call nodes).1 = true ↔ ∃ node ∈ nodes, ¬call.IsExact node) ∧
    ((exactFirst call nodes).2 = true ↔
      nodes.Pairwise fun a b => call.IsExact b → call.IsExact a) := by
  induction nodes using List.reverseRecOn with
  | nil => simp [exactFirst]
  | append_singleton nodes node ih =>
    obtain ⟨hsome, hfirst⟩ := ih
    have hnext : exactFirst call (nodes ++ [node]) =
        if ¬call.IsExact node then (true, (exactFirst call nodes).2)
        else if (exactFirst call nodes).1 = true then ((exactFirst call nodes).1, false)
        else exactFirst call nodes := by
      unfold exactFirst
      rw [List.foldl_append]
      rfl
    have hpairwise : (nodes ++ [node]).Pairwise (fun a b => call.IsExact b → call.IsExact a) ↔
        nodes.Pairwise (fun a b => call.IsExact b → call.IsExact a) ∧
          (call.IsExact node → ∀ a ∈ nodes, call.IsExact a) := by
      rw [List.pairwise_append]
      simp only [List.pairwise_singleton, List.mem_singleton, forall_eq, true_and]
      exact and_congr_right fun _ =>
        ⟨fun h hnode a ha => h a ha hnode, fun h a ha hnode => h hnode a ha⟩
    rw [hnext, hpairwise, ← hfirst]
    by_cases hexact : call.IsExact node
    · by_cases hseen : (exactFirst call nodes).1 = true
      · obtain ⟨other, hother, hplain⟩ := hsome.mp hseen
        have hnot : ¬∀ a ∈ nodes, call.IsExact a := fun hall => hplain (hall other hother)
        rw [if_neg (not_not.mpr hexact), if_pos hseen]
        refine ⟨iff_of_true hseen ⟨other, List.mem_append_left [node] hother, hplain⟩, ?_⟩
        exact iff_of_false Bool.false_ne_true fun h => hnot (h.2 hexact)
      · have hall : ∀ a ∈ nodes, call.IsExact a := by
          intro a ha
          by_contra hplain
          exact hseen (hsome.mpr ⟨a, ha, hplain⟩)
        rw [if_neg (not_not.mpr hexact), if_neg hseen]
        refine ⟨hsome.trans ⟨?_, ?_⟩, (and_iff_left fun _ => hall).symm⟩
        · rintro ⟨other, hother, hplain⟩
          exact absurd (hall other hother) hplain
        · rintro ⟨other, hother, hplain⟩
          rcases List.mem_append.mp hother with hother | hother
          · exact absurd (hall other hother) hplain
          · exact absurd (List.mem_singleton.mp hother ▸ hexact) hplain
    · rw [if_pos hexact]
      have hlast : ∃ n ∈ nodes ++ [node], ¬call.IsExact n :=
        ⟨node, List.mem_append_right nodes (List.mem_singleton_self node), hexact⟩
      exact ⟨iff_of_true rfl hlast, (and_iff_left fun h => absurd h hexact).symm⟩

/-! ## Retrieval -/

namespace LongTermGraph

variable {functions : RetrievalFunctions} {g : LongTermGraph} {call : RetrievalCall}

variable {node : MemoryNode}

lemma mem_liveNodes : node ∈ g.liveNodes ↔ node ∈ g.nodes.values ∧ node.tombstoned = false := by
  simp [liveNodes]

lemma mem_exactSorted : node ∈ g.exactSorted call ↔ node ∈ g.liveNodes ∧ call.Hit node := by
  simp [exactSorted]

lemma mem_otherNodes : node ∈ g.otherNodes call ↔ node ∈ g.liveNodes ∧ ¬call.Hit node := by
  simp [otherNodes]

lemma nodup_ids_exactSorted (h : Keyed g.nodes) :
    ((g.exactSorted call).map (·.nodeId)).Nodup := by
  have hkeys : g.nodes.values.map (·.nodeId) = g.nodes.keys := by
    unfold Dict.values Dict.keys
    rw [List.map_map]
    exact List.map_congr_left fun entry hentry =>
      h entry.1 entry.2 (Dict.get?_eq_some_iff.mpr hentry)
  have hlive : (g.liveNodes.map (·.nodeId)).Nodup := by
    have hsublist := (List.filter_sublist (p := fun node => !node.tombstoned)
      (l := g.nodes.values)).map (·.nodeId)
    rw [hkeys] at hsublist
    exact g.nodes.nodup.sublist hsublist
  have hsorted := List.perm_insertionSort (fun a b => call.exactOrder a b ≠ .gt)
    (g.liveNodes.filter fun node => call.Hit node)
  exact ((hsorted.map (·.nodeId)).nodup_iff).mpr (hlive.sublist (List.filter_sublist.map _))

/-- A stored node is found by its id. -/
lemma eq_of_nodeId_eq (h : Keyed g.nodes) {node other : MemoryNode} (hnode : node ∈ g.liveNodes)
    (hother : other ∈ g.liveNodes) (hid : node.nodeId = other.nodeId) : node = other := by
  have hget {n : MemoryNode} (hn : n ∈ g.liveNodes) : g.nodes.get? n.nodeId = some n := by
    obtain ⟨entry, hentry, rfl⟩ := List.mem_map.mp (mem_liveNodes.mp hn).1
    have hstored := Dict.get?_eq_some_iff.mpr hentry
    rwa [h entry.1 entry.2 hstored]
  have hsame := hget hnode
  rw [hid, hget hother] at hsame
  exact (Option.some.inj hsame).symm

/-- What the loop over the edges has seen and found. -/
structure Expanded (g : LongTermGraph) (seeds : List MemoryNode)
    (expanded : List String × List (ℚ × MemoryNode)) : Prop where
  seen : ∀ seed ∈ seeds, seed.nodeId ∈ expanded.1
  found : ∀ entry ∈ expanded.2, entry.2 ∈ g.liveNodes ∧ entry.2.nodeId ∉ seeds.map (·.nodeId)

variable {seeds : List MemoryNode}

lemma Expanded.followEdge {expanded : List String × List (ℚ × MemoryNode)}
    (h : Expanded g seeds expanded) (edge : LongTermEdgeRecord) (seed : MemoryNode) :
    Expanded g seeds (g.followEdge edge expanded seed) := by
  unfold LongTermGraph.followEdge
  split
  · exact h
  dsimp only
  split
  · exact h
  · rename_i node hnode
    split
    · exact h
    · rename_i hnew
      rw [not_or] at hnew
      refine ⟨fun seed hseed => List.mem_append_left _ (h.seen seed hseed), fun entry hentry => ?_⟩
      rcases List.mem_append.mp hentry with hentry | hentry
      · exact h.found entry hentry
      · rw [List.mem_singleton.mp hentry]
        have hlive : node ∈ g.liveNodes :=
          mem_liveNodes.mpr ⟨Dict.mem_values_of_get? hnode, by simpa using hnew.1⟩
        refine ⟨hlive, fun hseed => ?_⟩
        obtain ⟨seed, hseed, heq⟩ := List.mem_map.mp hseed
        exact hnew.2 (heq ▸ h.seen seed hseed)

lemma expanded_edgeNeighbors (seeds : List MemoryNode) :
    Expanded g seeds (g.edgeNeighbors seeds) := by
  have hseeds : ∀ edge (some : List MemoryNode) {expanded}, Expanded g seeds expanded →
      Expanded g seeds (some.foldl (g.followEdge edge) expanded) := by
    intro edge some
    induction some with
    | nil => exact fun h => h
    | cons seed some ih => exact fun h => ih (h.followEdge edge seed)
  have hedges : ∀ (edges : List LongTermEdgeRecord) {expanded}, Expanded g seeds expanded →
      Expanded g seeds
        (edges.foldl (fun expanded edge => seeds.foldl (g.followEdge edge) expanded) expanded) := by
    intro edges
    induction edges with
    | nil => exact fun h => h
    | cons edge edges ih => exact fun h => ih (hseeds edge seeds h)
  exact hedges _ ⟨fun seed hseed => List.mem_map_of_mem hseed, fun _ h => by cases h⟩

/-- A neighbour is live and none of the seeds. -/
lemma mem_neighborNodes (h : node ∈ g.neighborNodes functions seeds) :
    node ∈ g.liveNodes ∧ node.nodeId ∉ seeds.map (·.nodeId) := by
  have hexpanded := expanded_edgeNeighbors (g := g) seeds
  unfold neighborNodes at h
  split at h
  · cases h
  obtain ⟨entry, hentry, rfl⟩ := List.mem_map.mp h
  rw [List.mem_insertionSort, List.mem_append] at hentry
  rcases hentry with hentry | hentry
  · exact hexpanded.found entry hentry
  · obtain ⟨other, hother, rfl⟩ := List.mem_map.mp (List.mem_of_mem_filter hentry)
    rw [List.mem_filter, decide_eq_true_eq] at hother
    refine ⟨hother.1, fun hseed => hother.2 ?_⟩
    obtain ⟨seed, hseed, heq⟩ := List.mem_map.mp hseed
    exact heq ▸ hexpanded.seen seed hseed

lemma mem_of_mem_sliceTo {α : Type} {l : List α} {stop : ℤ} {x : α} (h : x ∈ sliceTo l stop) :
    x ∈ l := by
  unfold sliceTo at h
  split at h
  · exact List.mem_of_mem_take h
  · exact List.mem_of_mem_take h

lemma mem_of_mem_byScore {score : MemoryNode → ℚ} {nodes : List MemoryNode}
    (h : node ∈ byScore (nodes.map fun node => (score node, node))) : node ∈ nodes := by
  obtain ⟨entry, hentry, rfl⟩ := List.mem_map.mp h
  rw [List.mem_insertionSort] at hentry
  obtain ⟨other, hother, rfl⟩ := List.mem_map.mp hentry
  exact hother

/-- Only nodes without an exact hit are ranked. -/
lemma mem_rankings (h : node ∈ g.rankings functions call) :
    node ∈ g.liveNodes ∧ ¬call.Hit node := by
  unfold rankings at h
  rw [List.mem_append, List.mem_append] at h
  rcases h with (h | h) | h
  · obtain ⟨hlive, hseed⟩ := mem_neighborNodes (mem_of_mem_sliceTo h)
    refine ⟨hlive, fun hhit => hseed ?_⟩
    exact List.mem_map_of_mem (mem_exactSorted.mpr ⟨hlive, hhit⟩)
  · exact mem_otherNodes.mp (mem_of_mem_byScore (mem_of_mem_sliceTo h))
  · exact mem_otherNodes.mp (mem_of_mem_byScore (mem_of_mem_sliceTo h))

variable (functions g call)

/-- In the rankings no node that only its id makes exact comes first behind one that nothing
matches. -/
def IdMatchesFirst : Prop := IdsFirst call.NodeIdMatch (g.rankings functions call)

/-- What retrieval promises, with the diagnostic that it records. -/
structure ExactFirst (retrievedAt : ℚ) : Prop where
  live : ∀ node ∈ (g.retrieveCandidates functions call retrievedAt).1, node.tombstoned = false
  once : ((g.retrieveCandidates functions call retrievedAt).1.map (·.nodeId)).Nodup
  complete : ∀ node ∈ g.nodes.values, node.tombstoned = false → call.Hit node →
    node ∈ (g.retrieveCandidates functions call retrievedAt).1
  first : (g.retrieveCandidates functions call retrievedAt).1.Pairwise fun a b =>
    call.Hit b → call.Hit a
  diagnosed : ∀ record, (g.retrieveCandidates functions call retrievedAt).2.retrievalDiagnostics =
    g.retrievalDiagnostics ++ [record] → record.exactFirstPreserved = true

/-- The candidates are the exact hits, followed by nodes without one. -/
lemma exists_candidates (h : Keyed g.nodes) :
    ∃ rest, g.candidates functions call = g.exactSorted call ++ rest ∧
      (∀ node ∈ rest, node ∈ g.liveNodes ∧ ¬call.Hit node) ∧
      (rest.Pairwise (fun a b => call.NodeIdMatch b.nodeId → call.NodeIdMatch a.nodeId) ↔
        IdMatchesFirst functions g call) := by
  have hother : ∀ node ∈ g.rankings functions call,
      node.nodeId ∉ (g.exactSorted call).map (·.nodeId) := by
    intro node hnode hexact
    obtain ⟨hlive, hhit⟩ := mem_rankings hnode
    obtain ⟨other, hother, hid⟩ := List.mem_map.mp hexact
    obtain ⟨hother, hotherHit⟩ := mem_exactSorted.mp hother
    obtain rfl := eq_of_nodeId_eq h hother hlive hid
    exact hhit hotherHit
  obtain ⟨rest, hrest, -, hfirst⟩ := exists_mergeRankings_append (g.exactSorted call)
    (nodup_ids_exactSorted h) call.NodeIdMatch (g.rankings functions call) hother
  have hsublist := mergeRankings_sublist (g.exactSorted call ++ g.rankings functions call)
  rw [hrest, List.append_sublist_append_left] at hsublist
  exact ⟨rest, hrest, fun node hnode => mem_rankings (hsublist.subset hnode), hfirst⟩

/-- The diagnostic finds the exact hits first if the ids that are named come first. -/
lemma exactFirst_candidates (h : Keyed g.nodes) :
    (exactFirst call (g.candidates functions call)).2 = true ↔
      IdMatchesFirst functions g call := by
  obtain ⟨rest, hrest, hplain, hfirst⟩ := exists_candidates functions g call h
  have hexact : ∀ node ∈ g.exactSorted call, call.IsExact node := by
    intro node hnode
    rcases (mem_exactSorted.mp hnode).2 with hsymbol | hpath
    · exact .inr (.inl hsymbol)
    · exact .inl hpath
  have honly : ∀ node ∈ rest, (call.IsExact node ↔ call.NodeIdMatch node.nodeId) := by
    intro node hnode
    have hnot := not_or.mp (hplain node hnode).2
    exact (or_iff_right hnot.2).trans (or_iff_right hnot.1)
  rw [(exactFirst_eq call _).2, hrest, List.pairwise_append, ← hfirst]
  constructor
  · rintro ⟨-, hpairs, -⟩
    exact hpairs.imp_of_mem fun ha hb hab hmatch =>
      (honly _ ha).mp (hab ((honly _ hb).mpr hmatch))
  · intro hpairs
    refine ⟨List.pairwise_of_forall_mem_list fun a ha _ _ _ => hexact a ha, ?_,
      fun a ha _ _ _ => hexact a ha⟩
    exact hpairs.imp_of_mem fun ha hb hab hmatch =>
      (honly _ ha).mpr (hab ((honly _ hb).mp hmatch))

/-- Retrieval keeps its promises, and its diagnostic finds the exact hits first, if and only if no
diagnostic is asked for or no node that only its id makes exact is ranked behind one that nothing
matches. -/
theorem exactFirst_iff (h : Built functions.toMemoryFunctions g) (retrievedAt : ℚ) :
    ExactFirst functions g call retrievedAt ↔
      call.emitDiagnostic = false ∨ IdMatchesFirst functions g call := by
  have hdiagnostic := exactFirst_candidates functions g call h.keyed
  obtain ⟨rest, hrest, hplain, -⟩ := exists_candidates functions g call h.keyed
  constructor
  · intro hexact
    by_cases hemit : call.emitDiagnostic = true
    · refine .inr (hdiagnostic.mp ?_)
      refine hexact.diagnosed (g.emittedDiagnostic functions call retrievedAt) ?_
      rw [retrieveCandidates, if_pos hemit]
    · exact .inl (Bool.eq_false_iff.mpr hemit)
  · intro hcondition
    refine ⟨?_, nodup_ids_mergeRankings _, ?_, ?_, ?_⟩
    · intro node hnode
      rw [retrieveCandidates, hrest, List.mem_append] at hnode
      rcases hnode with hnode | hnode
      · exact (mem_liveNodes.mp (mem_exactSorted.mp hnode).1).2
      · exact (mem_liveNodes.mp (hplain node hnode).1).2
    · intro node hnode hlive hhit
      rw [retrieveCandidates, hrest]
      exact List.mem_append_left _ (mem_exactSorted.mpr ⟨mem_liveNodes.mpr ⟨hnode, hlive⟩, hhit⟩)
    · rw [retrieveCandidates, hrest, List.pairwise_append]
      exact ⟨List.pairwise_of_forall_mem_list fun a ha _ _ _ => (mem_exactSorted.mp ha).2,
        List.pairwise_of_forall_mem_list fun _ _ b hb hhit => absurd hhit (hplain b hb).2,
        fun a ha _ _ _ => (mem_exactSorted.mp ha).2⟩
    · intro record hrecord
      rw [retrieveCandidates] at hrecord
      split at hrecord
      · rename_i hemit
        have hrecord := List.singleton_injective (List.append_cancel_left hrecord)
        rw [← hrecord]
        refine hdiagnostic.mpr (hcondition.resolve_left ?_)
        rw [hemit]
        exact Bool.noConfusion
      · exact absurd (List.self_eq_append_right.mp hrecord) (List.cons_ne_nil _ _)

/-! ## Two notes -/

/-- A word overlaps with itself, also if it is there twice, and no two embeddings are similar. -/
def plainRetrieval : RetrievalFunctions where
  toMemoryFunctions :=
    { plainFunctions with lexicalOverlap := fun a b => if a = b ∨ a ++ " " ++ a = b then 1 else 0 }
  cosineSimilarity := fun _ _ => 0
  queryHash := fun query => query
  diagnosticId := fun query _ _ => "retrieval." ++ query

/-- The notes "a" and "b". -/
def twoNotes : LongTermGraph :=
  (empty.afterWrite plainRetrieval.toMemoryFunctions (plainWrite "a" none none)).afterWrite
    plainRetrieval.toMemoryFunctions (plainWrite "b" none none)

/-- A query without symbols and paths. -/
def plainQuery (query : String) : RetrievalCall where
  query := query
  exactSymbols := []
  filePaths := []

lemma twoNotes_built : Built plainRetrieval.toMemoryFunctions twoNotes :=
  .write _ (.write _ .empty)

/-- A query for the first note finds it first. -/
theorem exactFirst_first : ExactFirst plainRetrieval twoNotes (plainQuery "a") 0 := by
  refine (exactFirst_iff plainRetrieval twoNotes (plainQuery "a") twoNotes_built 0).mpr (.inr ?_)
  refine (exactFirst_candidates plainRetrieval twoNotes (plainQuery "a") twoNotes_built.keyed).mp ?_
  decide +kernel

/-- A query for the second note finds the first one before it. -/
theorem second_not_first :
    ¬∀ (functions : RetrievalFunctions) (g : LongTermGraph) (call : RetrievalCall)
      (retrievedAt : ℚ), Built functions.toMemoryFunctions g →
        ExactFirst functions g call retrievedAt := by
  intro h
  have hexact := h plainRetrieval twoNotes (plainQuery "b") 0 twoNotes_built
  have hdiagnosed := hexact.diagnosed _ rfl
  exact absurd hdiagnosed (by decide +kernel)

end LongTermGraph

end Agintor.Kernel.Memory
