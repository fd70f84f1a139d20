import Agintor.Kernel.MemoryGraph

/-!
# Retrieval from the long-term memory graph

`retrieve_candidates`, `_neighbor_nodes` and `record_retrieval_diagnostic` of
`runtime/kernel/memory_graph.py`, in exact arithmetic. The similarity of two embeddings and the ids
of queries and diagnostics are parameters.
-/

namespace Agintor.Kernel.Memory

open Agintor.Core Lib

/-- The parameters of retrieval. -/
structure RetrievalFunctions extends MemoryFunctions where
  cosineSimilarity : List ℚ → List ℚ → ℚ
  queryHash : String → String
  diagnosticId : String → List String → ℚ → String

/-- The arguments of `retrieve_candidates`. -/
structure RetrievalCall where
  query : String
  exactSymbols : List String
  filePaths : List String
  topEmbedding : ℤ := 5
  topLexical : ℤ := 5
  taskId : Option String := none
  seed : Option ℤ := none
  requestId : Option String := none
  scopeId : Option String := none
  emitDiagnostic : Bool := true

/-- `l[:stop]` -/
def sliceTo {α : Type} (l : List α) (stop : ℤ) : List α :=
  if 0 ≤ stop then l.take stop.toNat else l.take (l.length - stop.natAbs)

/-- `len(set(a) & set(b))` -/
def countShared (a b : List String) : ℕ := (a.dedup.filter (· ∈ b)).length

def labelAndContent (node : MemoryNode) : String := node.label ++ " " ++ node.content

def contentAndLabel (node : MemoryNode) : String := node.content ++ " " ++ node.label

/-- `sorted(ranked, key=lambda item: item[0], reverse=True)` without the scores. -/
def byScore (ranked : List (ℚ × MemoryNode)) : List MemoryNode :=
  (ranked.insertionSort fun a b => b.1 ≤ a.1).map Prod.snd

/-- `sorted(expanded, key=lambda item: (-item[0], item[1].node_id))` without the scores. -/
def byScoreAndId (expanded : List (ℚ × MemoryNode)) : List MemoryNode :=
  (expanded.insertionSort fun a b =>
    b.1 < a.1 ∨ b.1 = a.1 ∧ a.2.nodeId ≤ b.2.nodeId).map Prod.snd

namespace RetrievalCall

variable (call : RetrievalCall)

def FilePathHit (node : MemoryNode) : Prop := Meets call.filePaths node.filePaths

def SymbolHit (node : MemoryNode) : Prop := Meets call.exactSymbols node.symbolSet

/-- What `retrieve_candidates` takes for an exact hit. -/
def Hit (node : MemoryNode) : Prop := call.SymbolHit node ∨ call.FilePathHit node

/-- `node_id_match` -/
def NodeIdMatch (nodeId : String) : Prop :=
  strip call.query = nodeId ∨ nodeId ∈ call.exactSymbols

/-- What `record_retrieval_diagnostic` takes for an exact hit. -/
def IsExact (node : MemoryNode) : Prop :=
  call.FilePathHit node ∨ call.SymbolHit node ∨ call.NodeIdMatch node.nodeId

instance : DecidablePred call.FilePathHit := fun _ => inferInstanceAs (Decidable (Meets _ _))

instance : DecidablePred call.SymbolHit := fun _ => inferInstanceAs (Decidable (Meets _ _))

instance : DecidablePred call.Hit := fun _ => inferInstanceAs (Decidable (_ ∨ _))

instance : DecidablePred call.NodeIdMatch := fun _ => inferInstanceAs (Decidable (_ ∨ _))

instance : DecidablePred call.IsExact := fun _ => inferInstanceAs (Decidable (_ ∨ _ ∨ _))

/-- The key by which exact hits are sorted, compared. -/
def exactOrder (a b : MemoryNode) : Ordering :=
  (compare (if call.FilePathHit a then 0 else 1) (if call.FilePathHit b then 0 else 1)).then <|
  (compare (if call.SymbolHit a then 0 else 1) (if call.SymbolHit b then 0 else 1)).then <|
  (compare b.verifierSupport a.verifierSupport).then (compare a.nodeId b.nodeId)

end RetrievalCall

section Retrieval

variable (functions : RetrievalFunctions)

/-- The overlap of a node with a seed. -/
def overlapWith (node seed : MemoryNode) : ℚ :=
  let sameTask : ℚ :=
    if node.sourceTaskId = seed.sourceTaskId ∧ node.sourceTaskId ∉ ["", "query"] then 1 else 0
  35 / 100 * countShared node.symbolSet seed.symbolSet +
    30 / 100 * countShared node.filePaths seed.filePaths + 15 / 100 * sameTask +
    10 / 100 * functions.lexicalOverlap (labelAndContent node) (labelAndContent seed) +
    10 / 100 * functions.cosineSimilarity node.embedding seed.embedding

namespace LongTermGraph

variable (g : LongTermGraph)

/-- The live nodes, in the order of `self.nodes`. -/
def liveNodes : List MemoryNode := g.nodes.values.filter fun node => !node.tombstoned

/-- What one edge adds to the neighbours of a seed. -/
def followEdge (edge : LongTermEdgeRecord) (expanded : List String × List (ℚ × MemoryNode))
    (seed : MemoryNode) : List String × List (ℚ × MemoryNode) :=
  if seed.nodeId ≠ edge.sourceNodeId ∧ seed.nodeId ≠ edge.targetNodeId then expanded
  else
    let neighborId :=
      if edge.sourceNodeId = seed.nodeId then edge.targetNodeId else edge.sourceNodeId
    match g.nodes.get? neighborId with
    | none => expanded
    | some node =>
      if node.tombstoned = true ∨ node.nodeId ∈ expanded.1 then expanded
      else (expanded.1 ++ [node.nodeId], expanded.2 ++ [(1, node)])

/-- The first loop of `_neighbor_nodes`: the ids seen, and the nodes that edges lead to. -/
def edgeNeighbors (seeds : List MemoryNode) : List String × List (ℚ × MemoryNode) :=
  (g.edges.filter fun edge =>
      !edge.tombstoned && (edge.edgeType = .derivedFrom || edge.edgeType = .refines)).foldl
    (fun expanded edge => seeds.foldl (g.followEdge edge) expanded)
    (seeds.map (·.nodeId), [])

/-- `_neighbor_nodes` -/
def neighborNodes (seeds : List MemoryNode) : List MemoryNode :=
  if seeds = [] then []
  else
    let (seen, expanded) := g.edgeNeighbors seeds
    let unseen := g.liveNodes.filter fun node => node.nodeId ∉ seen
    let scored := unseen.map fun node =>
      ((seeds.map (overlapWith functions node)).foldl max 0, node)
    byScoreAndId (expanded ++ scored.filter fun entry => 0 < entry.1)

variable (call : RetrievalCall)

/-- `exact_sorted` -/
def exactSorted : List MemoryNode :=
  (g.liveNodes.filter fun node => call.Hit node).insertionSort fun a b =>
    call.exactOrder a b ≠ .gt

/-- The live nodes without an exact hit. -/
def otherNodes : List MemoryNode := g.liveNodes.filter fun node => ¬call.Hit node

/-- `one_hop` -/
def oneHop : List MemoryNode :=
  sliceTo (g.neighborNodes functions (g.exactSorted call)) (max call.topEmbedding call.topLexical)

/-- `embedding_sorted`; the query has no embedding. -/
def embeddingSorted : List MemoryNode :=
  sliceTo (byScore ((g.otherNodes call).map fun node =>
    (functions.cosineSimilarity node.embedding [], node))) call.topEmbedding

/-- `lexical_sorted` -/
def lexicalSorted : List MemoryNode :=
  sliceTo (byScore ((g.otherNodes call).map fun node =>
    (functions.lexicalOverlap call.query (contentAndLabel node), node))) call.topLexical

/-- The rankings that follow the exact hits. -/
def rankings : List MemoryNode :=
  g.oneHop functions call ++ g.embeddingSorted functions call ++ g.lexicalSorted functions call

/-- The loop that merges the rankings. -/
def mergeRankings (merged ranked : List MemoryNode) : List MemoryNode :=
  ranked.foldl (fun merged node =>
    if node.nodeId ∈ merged.map (·.nodeId) then merged else merged ++ [node]) merged

/-- The nodes that `retrieve_candidates` returns. -/
def candidates : List MemoryNode :=
  mergeRankings [] (g.exactSorted call ++ g.rankings functions call)

end LongTermGraph

/-- The loop of `record_retrieval_diagnostic` over `seen_non_exact` and `exact_first_preserved`. -/
def exactFirst (call : RetrievalCall) (returnedNodes : List MemoryNode) : Bool × Bool :=
  returnedNodes.foldl (fun found node =>
    if ¬call.IsExact node then (true, found.2)
    else if found.1 = true then (found.1, false)
    else found) (false, true)

def signalRow (call : RetrievalCall) (synthesizedNeighborIds : List String) (rank : ℕ)
    (node : MemoryNode) : RetrievalSignalRow where
  nodeId := node.nodeId
  rank := rank
  exactFilePathHit := call.FilePathHit node
  exactSymbolHit := call.SymbolHit node
  nodeIdMatch := call.NodeIdMatch node.nodeId
  verifierSupportScore := node.verifierSupport
  lexicalOverlapScore := functions.lexicalOverlap call.query (contentAndLabel node)
  embeddingSimilarityScore := functions.cosineSimilarity node.embedding []
  sameTaskAffinityScore :=
    if call.taskId.getD "" ≠ "" ∧ some node.sourceTaskId = call.taskId then 1 else 0
  synthesizedNeighborExpansion := node.nodeId ∈ synthesizedNeighborIds

/-- The record of `record_retrieval_diagnostic`. -/
def retrievalDiagnostic (call : RetrievalCall) (returnedNodes : List MemoryNode)
    (synthesizedNeighborIds : List String) (retrievedAt : ℚ) : RetrievalDiagnosticRecord where
  diagnosticId :=
    functions.diagnosticId call.query (returnedNodes.map (·.nodeId)) retrievedAt
  queryHash := functions.queryHash call.query
  taskId := call.taskId
  seed := call.seed
  requestId := call.requestId
  scopeId := call.scopeId
  returnedNodeIds := returnedNodes.map (·.nodeId)
  signals := returnedNodes.mapIdx (signalRow functions call synthesizedNeighborIds)
  exactFirstPreserved := (exactFirst call returnedNodes).2
  retrievedAt := retrievedAt

namespace LongTermGraph

variable (g : LongTermGraph) (call : RetrievalCall) (retrievedAt : ℚ)

/-- The diagnostic that `retrieve_candidates` records. -/
def emittedDiagnostic : RetrievalDiagnosticRecord :=
  retrievalDiagnostic functions call (g.candidates functions call)
    ((g.oneHop functions call).map (·.nodeId)) retrievedAt

/-- `retrieve_candidates` -/
def retrieveCandidates : List MemoryNode × LongTermGraph :=
  (g.candidates functions call,
    if call.emitDiagnostic then
      { g with
        retrievalDiagnostics :=
          g.retrievalDiagnostics ++ [g.emittedDiagnostic functions call retrievedAt] }
    else g)

end LongTermGraph

end Retrieval

end Agintor.Kernel.Memory
