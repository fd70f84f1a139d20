import Agintor.Core.Text
import Agintor.Lib.Dict
import Mathlib.Algebra.Order.Field.Rat

/-!
# The long-term memory graph

`LongTermGraph` of `runtime/kernel/memory_graph.py`, in exact arithmetic. The ids of writes and
edges and the overlap of texts are parameters; a call that reads the clock takes the readings as
arguments. Of a node's provenance the keys that the graph reads or writes have fields of their own.
-/

namespace Agintor.Kernel.Memory

open Agintor.Core Lib

/-! ## Records -/

structure Provenance where
  contradicts : Option String
  mergedFrom : Option (List String)
  refinedFromWriteId : Option (Option String)
  others : Dict String String

structure MemoryNode where
  nodeId : String
  type : String
  label : String
  content : String
  embedding : List ℚ
  symbolSet : List String
  filePaths : List String
  sourceTaskId : String
  verifierSupport : ℚ
  timestamps : Dict String ℚ
  provenance : Provenance
  tombstoned : Bool

/-- `LongTermNodeType` -/
def requiredTypes : List String :=
  ["Symbol", "File", "Query", "Answer", "ToolFailure", "FixPattern", "TaskNote", "Procedure",
    "EnvironmentFingerprint", "ArtifactSignature"]

/-- `WRITE_ACTIONS` -/
inductive WriteAction
  | upsert
  | merge
  | refine
  | tombstone
  | conflict
deriving DecidableEq

namespace WriteAction

def text : WriteAction → String
  | upsert => "upsert"
  | merge => "merge"
  | refine => "refine"
  | tombstone => "tombstone"
  | conflict => "conflict"

def all : List WriteAction := [upsert, merge, refine, tombstone, conflict]

end WriteAction

structure LongTermWriteRecord where
  writeId : String
  targetNodeId : String
  action : WriteAction
  payloadRef : String
  sourceTaskId : Option String
  sourceAttemptId : String
  sourceCheckpointRef : Option String
  verifierSupportRefs : List String
  priorWriteId : Option String
  contradictionTargetWriteId : Option String
  writtenAt : ℚ
deriving DecidableEq

inductive LongTermEdgeType
  | derivedFrom
  | refines
  | contradicts
  | supportedBy
deriving DecidableEq

structure LongTermEdgeRecord where
  edgeId : String
  sourceNodeId : String
  targetNodeId : String
  edgeType : LongTermEdgeType
  introducingWriteId : String
  tombstoned : Bool
  tombstoneWriteId : Option String
  writtenAt : ℚ
deriving DecidableEq

structure RetrievalSignalRow where
  nodeId : String
  rank : ℕ
  exactFilePathHit : Bool
  exactSymbolHit : Bool
  nodeIdMatch : Bool
  verifierSupportScore : ℚ
  lexicalOverlapScore : ℚ
  embeddingSimilarityScore : ℚ
  sameTaskAffinityScore : ℚ
  synthesizedNeighborExpansion : Bool

structure RetrievalDiagnosticRecord where
  diagnosticId : String
  queryHash : String
  taskId : Option String
  seed : Option ℤ
  requestId : Option String
  scopeId : Option String
  returnedNodeIds : List String
  signals : List RetrievalSignalRow
  exactFirstPreserved : Bool
  retrievedAt : ℚ

/-- The arguments about its source that a write passes on to its records. -/
structure WriteSource where
  sourceTaskId : Option String
  sourceAttemptId : String
  sourceCheckpointRef : Option String
  verifierSupportRefs : List String
  payloadRef : Option String

def WriteSource.blank : WriteSource := ⟨none, "", none, [], none⟩

/-- What a `write_scope` pushes. -/
structure WriteContext where
  action : Option String
  targetNodeId : Option String
  source : WriteSource

def WriteContext.blank : WriteContext := ⟨none, none, .blank⟩

structure LongTermGraph where
  nodes : Dict String MemoryNode
  edges : List LongTermEdgeRecord
  writeLog : List LongTermWriteRecord
  retrievalDiagnostics : List RetrievalDiagnosticRecord
  latestWriteByNode : Dict String String
  /-- The innermost scope first. -/
  writeContextStack : List WriteContext

inductive MemoryError
  | value (message : String)
  | key (nodeId : String)
deriving DecidableEq

/-- What a write id is the hash of. -/
structure WriteIdentity where
  action : WriteAction
  targetNodeId : String
  priorWriteId : Option String
  contradictionTargetWriteId : Option String
  writtenAt : ℚ

/-- What an edge id is the hash of. -/
structure EdgeIdentity where
  sourceNodeId : String
  targetNodeId : String
  edgeType : LongTermEdgeType
  introducingWriteId : String

/-- The parameters of the graph: its ids, and the overlap of two texts. -/
structure MemoryFunctions where
  writeId : WriteIdentity → String
  edgeId : EdgeIdentity → String
  lexicalOverlap : String → String → ℚ

/-- `a or b` of optional texts. -/
def orText (a b : Option String) : Option String := if a.getD "" = "" then b else a

/-- `{**a, **b}` -/
def overlay {α : Type} (a b : Dict String α) : Dict String α :=
  b.entries.foldl (fun d e => d.set e.1 e.2) a

/-- `set(a) & set(b)` is not empty. -/
def Meets (a b : List String) : Prop := ∃ x ∈ a, x ∈ b

instance (a b : List String) : Decidable (Meets a b) := inferInstanceAs (Decidable (∃ _ ∈ _, _))

namespace LongTermGraph

def empty : LongTermGraph := ⟨.empty, [], [], [], .empty, []⟩

/-! ## Scopes -/

/-- `write_scope` -/
def enterScope (g : LongTermGraph) (context : WriteContext) : LongTermGraph :=
  { g with writeContextStack := context :: g.writeContextStack }

def exitScope (g : LongTermGraph) : LongTermGraph :=
  { g with writeContextStack := g.writeContextStack.tail }

/-- `_active_write_context` -/
def activeWriteContext (g : LongTermGraph) : WriteContext := g.writeContextStack.headD .blank

end LongTermGraph

/-- The arguments, with those left out taken from the active scope. -/
def WriteSource.within (source context : WriteSource) : WriteSource where
  sourceTaskId := source.sourceTaskId <|> context.sourceTaskId
  sourceAttemptId :=
    if source.sourceAttemptId = "" then context.sourceAttemptId else source.sourceAttemptId
  sourceCheckpointRef := source.sourceCheckpointRef <|> context.sourceCheckpointRef
  verifierSupportRefs :=
    if source.verifierSupportRefs = [] then context.verifierSupportRefs
    else source.verifierSupportRefs
  payloadRef := orText source.payloadRef context.payloadRef

/-- `source_task_id or node.source_task_id` -/
def WriteSource.ofNode (source : WriteSource) (node : MemoryNode) : WriteSource :=
  { source with sourceTaskId := orText source.sourceTaskId (some node.sourceTaskId) }

/-- `_normalize_action` -/
def normalizeAction (action : String) : Except MemoryError WriteAction :=
  let normalized := if action = "new" ∨ action = "" then "upsert" else action
  match WriteAction.all.find? (·.text = normalized) with
  | some action => .ok action
  | none => .error (.value ("unsupported long-term write action " ++ action))

/-- `_validate_node` -/
def validateNode (node : MemoryNode) : Except MemoryError Unit :=
  if node.type ∈ requiredTypes then .ok ()
  else .error (.value ("unsupported long-term node type " ++ node.type))

/-! ## Writes -/

section Writes

variable (functions : MemoryFunctions)

namespace LongTermGraph

/-- The record of `_write_record`. -/
def newRecord (action : WriteAction) (targetNodeId : String) (source : WriteSource)
    (priorWriteId contradictionTargetWriteId : Option String) (writtenAt : ℚ) :
    LongTermWriteRecord :=
  let writeId := functions.writeId
    ⟨action, targetNodeId, priorWriteId, contradictionTargetWriteId, writtenAt⟩
  { writeId := writeId
    targetNodeId := targetNodeId
    action := action
    payloadRef :=
      if source.payloadRef.getD "" = "" then "state/long_term/writes/" ++ writeId ++ ".json"
      else source.payloadRef.getD ""
    sourceTaskId := source.sourceTaskId
    sourceAttemptId := source.sourceAttemptId
    sourceCheckpointRef := source.sourceCheckpointRef
    verifierSupportRefs := sortedUnique (source.verifierSupportRefs.filter (strip · ≠ ""))
    priorWriteId := priorWriteId
    contradictionTargetWriteId := contradictionTargetWriteId
    writtenAt := writtenAt }

/-- The latest write of each node, with a record that is not of a conflict noted. -/
def noteWrite (latest : Dict String String) (record : LongTermWriteRecord) : Dict String String :=
  if record.action = .conflict then latest else latest.set record.targetNodeId record.writeId

/-- `_write_record` -/
def appendRecord (g : LongTermGraph) (record : LongTermWriteRecord) : LongTermGraph :=
  { g with
    writeLog := g.writeLog ++ [record]
    latestWriteByNode := noteWrite g.latestWriteByNode record }

/-- `_edge_record` -/
def edgeRecord (g : LongTermGraph) (sourceNodeId targetNodeId : String)
    (edgeType : LongTermEdgeType) (introducing : LongTermWriteRecord) : LongTermGraph :=
  { g with
    edges := g.edges ++
      [{ edgeId := functions.edgeId ⟨sourceNodeId, targetNodeId, edgeType, introducing.writeId⟩
         sourceNodeId := sourceNodeId
         targetNodeId := targetNodeId
         edgeType := edgeType
         introducingWriteId := introducing.writeId
         tombstoned := false
         tombstoneWriteId := none
         writtenAt := introducing.writtenAt }] }

def sameNamespace (existing node : MemoryNode) : Prop :=
  existing.type = node.type ∧
    (Meets node.symbolSet existing.symbolSet ∨ Meets node.filePaths existing.filePaths ∨
      node.label ≠ "" ∧ node.label = existing.label)

instance (existing node : MemoryNode) : Decidable (sameNamespace existing node) :=
  inferInstanceAs (Decidable (_ ∧ (_ ∨ _ ∨ _ ∧ _)))

/-- What the loop of `_contradiction_target` returns. -/
def Contradicts (node : MemoryNode) (excludeNodeId : Option String) (existing : MemoryNode) :
    Prop :=
  ¬(existing.tombstoned = true ∨ some existing.nodeId = excludeNodeId ∨
    existing.nodeId = node.nodeId) ∧
    sameNamespace existing node ∧
      functions.lexicalOverlap existing.content node.content < 15 / 100 ∧
        1 / 2 ≤ max existing.verifierSupport node.verifierSupport

instance (node : MemoryNode) (excludeNodeId : Option String) :
    DecidablePred (Contradicts functions node excludeNodeId) := fun _ =>
  inferInstanceAs (Decidable (¬(_ ∨ _ ∨ _) ∧ _ ∧ _ ∧ _))

/-- `_contradiction_target` -/
def contradictionTarget (g : LongTermGraph) (node : MemoryNode) (excludeNodeId : Option String) :
    Option MemoryNode :=
  let explicitTarget := strip (node.provenance.contradicts.getD "")
  let named := if explicitTarget = "" then none else g.nodes.get? explicitTarget
  match named with
  | some candidate => if candidate.tombstoned then none else some candidate
  | none => g.nodes.values.find? fun existing => Contradicts functions node excludeNodeId existing

/-- `_emit_conflict_if_needed` -/
def emitConflictIfNeeded (g : LongTermGraph) (node : MemoryNode)
    (introducing : LongTermWriteRecord) (source : WriteSource) (excludeNodeId : Option String)
    (writtenAt : ℚ) : LongTermGraph :=
  match g.contradictionTarget functions node excludeNodeId with
  | none => g
  | some target =>
    let conflict := newRecord functions .conflict node.nodeId { source with payloadRef := none }
      (some introducing.writeId) (g.latestWriteByNode.get? target.nodeId) writtenAt
    (g.appendRecord conflict).edgeRecord functions node.nodeId target.nodeId .contradicts conflict

/-- The edges of a node, marked with the write that tombstones it. -/
def tombstoneEdges (nodeId : String) (record : LongTermWriteRecord)
    (edges : List LongTermEdgeRecord) : List LongTermEdgeRecord :=
  edges.map fun edge =>
    if edge.sourceNodeId = nodeId ∨ edge.targetNodeId = nodeId then
      { edge with tombstoned := true, tombstoneWriteId := some record.writeId }
    else edge

/-- `tombstone` -/
def tombstone (g : LongTermGraph) (nodeId : String) (source : WriteSource) (writtenAt : ℚ) :
    Except MemoryError (LongTermGraph × LongTermWriteRecord) :=
  let source := source.within g.activeWriteContext.source
  match g.nodes.get? nodeId with
  | none => .error (.key nodeId)
  | some node =>
    let record := newRecord functions .tombstone nodeId (source.ofNode node)
      (g.latestWriteByNode.get? nodeId) none writtenAt
    let g := { g with nodes := g.nodes.set nodeId { node with tombstoned := true } }
    let g := g.appendRecord record
    .ok ({ g with edges := tombstoneEdges nodeId record g.edges }, record)

end LongTermGraph

/-- The arguments of `write`, and the times at which its two records may be written. -/
structure WriteCall where
  node : MemoryNode
  action : Option String
  targetNodeId : Option String
  source : WriteSource
  writtenAt : ℚ
  conflictAt : ℚ

/-- The node a merge leaves in the place of `existing`. -/
def mergedNode (existing node : MemoryNode) : MemoryNode :=
  { existing with
    content :=
      if node.content.length ≤ existing.content.length then existing.content else node.content
    symbolSet := sortedUnique (existing.symbolSet ++ node.symbolSet)
    filePaths := sortedUnique (existing.filePaths ++ node.filePaths)
    verifierSupport := max existing.verifierSupport node.verifierSupport
    timestamps := overlay existing.timestamps node.timestamps
    provenance :=
      { existing.provenance with
        mergedFrom :=
          some (sortedUnique (existing.provenance.mergedFrom.getD [] ++ [node.nodeId])) } }

/-- The node a refinement leaves in the place of `existing`. -/
def refinedNode (existing node : MemoryNode) (priorWriteId : Option String) : MemoryNode :=
  { existing with
    content := node.content
    embedding := node.embedding
    verifierSupport := max existing.verifierSupport node.verifierSupport
    timestamps := overlay existing.timestamps node.timestamps
    provenance :=
      { contradicts := node.provenance.contradicts <|> existing.provenance.contradicts
        mergedFrom := node.provenance.mergedFrom <|> existing.provenance.mergedFrom
        refinedFromWriteId := some priorWriteId
        others := overlay existing.provenance.others node.provenance.others } }

namespace LongTermGraph

/-- `self.nodes.setdefault(node.node_id, ...)` -/
def keepNode (nodes : Dict String MemoryNode) (node : MemoryNode) : Dict String MemoryNode :=
  if nodes.contains node.nodeId then nodes else nodes.set node.nodeId node

variable (g : LongTermGraph) (call : WriteCall)

/-- `target_id` -/
def targetId : String :=
  (orText (call.targetNodeId <|> g.activeWriteContext.targetNodeId) (some call.node.nodeId)).getD ""

/-- The effective action, as a text. -/
def actionText : String :=
  (orText (call.action <|> g.activeWriteContext.action) (some "upsert")).getD ""

/-- The effective source. -/
def effectiveSource : WriteSource := call.source.within g.activeWriteContext.source

/-- The branch for a merge into `existing`. -/
def mergeInto (existing : MemoryNode) : LongTermGraph × LongTermWriteRecord :=
  let target := g.targetId call
  let source := (g.effectiveSource call).ofNode call.node
  let record := newRecord functions .merge target source (g.latestWriteByNode.get? target) none
    call.writtenAt
  let g := { g with nodes := g.nodes.set target (mergedNode existing call.node) }
  let g := g.appendRecord record
  let g := { g with nodes := keepNode g.nodes { call.node with tombstoned := true } }
  let g := g.edgeRecord functions target call.node.nodeId .derivedFrom record
  (g.emitConflictIfNeeded functions call.node record source (some target) call.conflictAt, record)

/-- The branch for a refinement of `existing`. -/
def refineInto (existing : MemoryNode) : LongTermGraph × LongTermWriteRecord :=
  let target := g.targetId call
  let source := (g.effectiveSource call).ofNode call.node
  let prior := g.latestWriteByNode.get? target
  let refined := refinedNode existing call.node prior
  let record := newRecord functions .refine target source prior none call.writtenAt
  let g := { g with nodes := g.nodes.set target refined }
  let g := g.appendRecord record
  let g := g.edgeRecord functions target target .refines record
  (g.emitConflictIfNeeded functions refined record source (some target) call.conflictAt, record)

/-- The last branch, which stores the node under its own id. The prior write is the one of the
target. -/
def storeNode (action : WriteAction) : LongTermGraph × LongTermWriteRecord :=
  let source := (g.effectiveSource call).ofNode call.node
  let record := newRecord functions action call.node.nodeId source
    (g.latestWriteByNode.get? (g.targetId call)) none call.writtenAt
  let g := { g with nodes := g.nodes.set call.node.nodeId call.node }
  let g := g.appendRecord record
  (g.emitConflictIfNeeded functions call.node record source none call.conflictAt, record)

/-- `write` -/
def write : Except MemoryError (LongTermGraph × LongTermWriteRecord) := do
  let action ← normalizeAction (g.actionText call)
  validateNode call.node
  match action, g.nodes.get? (g.targetId call) with
  | .tombstone, _ => g.tombstone functions (g.targetId call) (g.effectiveSource call) call.writtenAt
  | .merge, some existing => .ok (g.mergeInto functions call existing)
  | .refine, some existing => .ok (g.refineInto functions call existing)
  | action, _ => .ok (g.storeNode functions call action)

/-- The graph after a write; one that raises leaves it as it is. -/
def afterWrite : LongTermGraph :=
  match g.write functions call with
  | .error _ => g
  | .ok (after, _) => after

/-- The graph after a tombstone; one that raises leaves it as it is. -/
def afterTombstone (nodeId : String) (source : WriteSource) (writtenAt : ℚ) : LongTermGraph :=
  match g.tombstone functions nodeId source writtenAt with
  | .error _ => g
  | .ok (after, _) => after

end LongTermGraph

end Writes

/-! ## Snapshots -/

structure LongTermGraphSnapshot where
  nodes : List MemoryNode
  edges : List LongTermEdgeRecord
  writeRecords : List LongTermWriteRecord
  retrievalDiagnostics : List RetrievalDiagnosticRecord

namespace LongTermGraph

def snapshot (g : LongTermGraph) : LongTermGraphSnapshot :=
  ⟨g.nodes.values, g.edges, g.writeLog, g.retrievalDiagnostics⟩

/-- The loop of `restore` over the write log. -/
def latestOf (log : List LongTermWriteRecord) : Dict String String :=
  log.foldl noteWrite .empty

/-- `restore` -/
def restore (g : LongTermGraph) (snapshot : LongTermGraphSnapshot) : LongTermGraph where
  nodes := snapshot.nodes.foldl (fun nodes node => nodes.set node.nodeId node) .empty
  edges := snapshot.edges
  writeLog := snapshot.writeRecords
  retrievalDiagnostics := snapshot.retrievalDiagnostics
  latestWriteByNode := latestOf snapshot.writeRecords
  writeContextStack := g.writeContextStack

/-- `fork_from_snapshot` -/
def forkFromSnapshot (snapshot : LongTermGraphSnapshot) : LongTermGraph := empty.restore snapshot

end LongTermGraph

end Agintor.Kernel.Memory
