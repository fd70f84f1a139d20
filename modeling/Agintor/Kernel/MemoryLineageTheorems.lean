import Agintor.Kernel.MemoryGraph

/-!
# The lineage of writes

Each record of the log names the previous write of its node, the edges name records of the log,
and a fork from a snapshot is the graph itself outside of all scopes. The one write that breaks
this stores a node under its own id after looking up the latest write of another.
-/

namespace Agintor.Kernel.Memory

open Lib

/-! ## The log -/

/-- The records that count as writes of a node. -/
def IsWriteOf (nodeId : String) (record : LongTermWriteRecord) : Prop :=
  record.action ≠ .conflict ∧ record.targetNodeId = nodeId

instance (nodeId : String) : DecidablePred (IsWriteOf nodeId) := fun _ =>
  inferInstanceAs (Decidable (_ ∧ _))

/-- The id of the last write of a node, if there is one. -/
def previousWrite (log : List LongTermWriteRecord) (nodeId : String) : Option String :=
  (log.filter (IsWriteOf nodeId)).getLast?.map (·.writeId)

namespace LongTermGraph

lemma previousWrite_append (log : List LongTermWriteRecord) (record : LongTermWriteRecord)
    (nodeId : String) :
    previousWrite (log ++ [record]) nodeId =
      if IsWriteOf nodeId record then some record.writeId else previousWrite log nodeId := by
  unfold previousWrite
  rw [List.filter_append]
  by_cases hwrite : IsWriteOf nodeId record
  · rw [if_pos hwrite]
    simp [hwrite]
  · rw [if_neg hwrite]
    simp [hwrite]

lemma get?_noteWrite (latest : Dict String String) (record : LongTermWriteRecord)
    (nodeId : String) :
    (noteWrite latest record).get? nodeId =
      if IsWriteOf nodeId record then some record.writeId else latest.get? nodeId := by
  unfold noteWrite IsWriteOf
  by_cases hconflict : record.action = .conflict
  · simp [hconflict]
  · by_cases hnode : record.targetNodeId = nodeId <;> simp [hconflict, hnode]

lemma latestOf_append (log : List LongTermWriteRecord) (record : LongTermWriteRecord) :
    latestOf (log ++ [record]) = noteWrite (latestOf log) record := by
  unfold latestOf
  rw [List.foldl_append]
  rfl

/-- The map that is rebuilt from a log holds the last write of each node. -/
theorem get?_latestOf (log : List LongTermWriteRecord) (nodeId : String) :
    (latestOf log).get? nodeId = previousWrite log nodeId := by
  induction log using List.reverseRecOn with
  | nil => simp [latestOf, previousWrite]
  | append_singleton log record ih =>
    rw [latestOf_append, get?_noteWrite, previousWrite_append, ih]

/-- Every record that is not of a conflict names the previous write of its node. -/
def NamesPrevious (log : List LongTermWriteRecord) : Prop :=
  ∀ before record after, log = before ++ record :: after → record.action ≠ .conflict →
    record.priorWriteId = previousWrite before record.targetNodeId

variable {record : LongTermWriteRecord} {call : WriteCall} {nodeId : String}

lemma NamesPrevious.append {log : List LongTermWriteRecord} (h : NamesPrevious log)
    (hrecord : record.action ≠ .conflict →
      record.priorWriteId = previousWrite log record.targetNodeId) :
    NamesPrevious (log ++ [record]) := by
  intro before other after hsplit haction
  rcases List.eq_nil_or_concat after with rfl | ⟨init, last, rfl⟩
  · obtain ⟨rfl, heq⟩ := List.append_inj' hsplit rfl
    obtain rfl : record = other := by simpa using heq
    exact hrecord haction
  · apply h before other init _ haction
    have hlast : log ++ [record] = (before ++ other :: init) ++ [last] := by
      rw [hsplit]
      simp
    exact (List.append_inj' hlast rfl).1

/-! ## The invariant -/

/-- What holds of every graph whose writes looked up their own node. -/
structure Sound (g : LongTermGraph) : Prop where
  latest : g.latestWriteByNode = latestOf g.writeLog
  prior : NamesPrevious g.writeLog
  introducing : ∀ edge ∈ g.edges, edge.introducingWriteId ∈ g.writeLog.map (·.writeId)
  tombstoning : ∀ edge ∈ g.edges, ∀ id ∈ edge.tombstoneWriteId, id ∈ g.writeLog.map (·.writeId)
  keyed : ∀ entry ∈ g.nodes.entries, entry.2.nodeId = entry.1

lemma sound_empty : Sound empty where
  latest := rfl
  prior before record after h := by simp [empty] at h
  introducing edge h := by simp [empty] at h
  tombstoning edge h := by simp [empty] at h
  keyed entry h := by simp [empty, Dict.empty] at h

variable {g : LongTermGraph}

lemma Sound.get?_latest (h : g.Sound) (nodeId : String) :
    g.latestWriteByNode.get? nodeId = previousWrite g.writeLog nodeId := by
  rw [h.latest, get?_latestOf]

lemma Sound.nodeId_of_get? (h : g.Sound) {node : MemoryNode}
    (hnode : g.nodes.get? nodeId = some node) : node.nodeId = nodeId :=
  h.keyed _ (Dict.get?_eq_some_iff.mp hnode)

/-- A node is stored under its id. -/
lemma Sound.setNode (h : g.Sound) {node : MemoryNode} (hnode : node.nodeId = nodeId) :
    Sound { g with nodes := g.nodes.set nodeId node } where
  __ := h
  keyed := by
    rintro ⟨key, stored⟩ hentry
    have hget := Dict.get?_eq_some_iff.mpr hentry
    rw [Dict.get?_set] at hget
    by_cases hkey : nodeId = key
    · rw [if_pos hkey, Option.some_inj] at hget
      subst hget
      exact hnode.trans hkey
    · rw [if_neg hkey] at hget
      exact h.nodeId_of_get? hget

lemma Sound.appendRecord (h : g.Sound) (hprior : record.action ≠ .conflict →
      record.priorWriteId = g.latestWriteByNode.get? record.targetNodeId) :
    (g.appendRecord record).Sound where
  __ := h
  latest := by
    show noteWrite g.latestWriteByNode record = latestOf (g.writeLog ++ [record])
    rw [latestOf_append, h.latest]
  prior := by
    apply h.prior.append
    intro haction
    rw [hprior haction, h.get?_latest]
  introducing edge hedge := by
    show _ ∈ (g.writeLog ++ [record]).map _
    rw [List.map_append]
    exact List.mem_append_left _ (h.introducing edge hedge)
  tombstoning edge hedge id hid := by
    show _ ∈ (g.writeLog ++ [record]).map _
    rw [List.map_append]
    exact List.mem_append_left _ (h.tombstoning edge hedge id hid)

lemma Sound.edgeRecord (h : g.Sound) {functions : MemoryFunctions} {source target : String}
    {edgeType : LongTermEdgeType} (hrecord : record ∈ g.writeLog) :
    (g.edgeRecord functions source target edgeType record).Sound where
  __ := h
  introducing edge hedge := by
    rcases List.mem_append.mp hedge with hold | hnew
    · exact h.introducing edge hold
    · rw [List.mem_singleton.mp hnew]
      exact List.mem_map_of_mem hrecord
  tombstoning edge hedge id hid := by
    rcases List.mem_append.mp hedge with hold | hnew
    · exact h.tombstoning edge hold id hid
    · rw [List.mem_singleton.mp hnew] at hid
      simp at hid

lemma mem_appendRecord (g : LongTermGraph) (record : LongTermWriteRecord) :
    record ∈ (g.appendRecord record).writeLog :=
  List.mem_append_right _ List.mem_cons_self

/-! ## Writes -/

/-- A write that stores its node under its own id looks up the latest write of that node, or is of
a conflict, which notes no prior write of its node. -/
def Aligned (g : LongTermGraph) (call : WriteCall) : Prop :=
  ∀ action ∈ (normalizeAction (g.actionText call)).toOption,
    (action = .tombstone ∨ action = .conflict) ∨
      ((action = .merge ∨ action = .refine) ∧ (g.nodes.get? (g.targetId call)).isSome) ∨
        g.latestWriteByNode.get? (g.targetId call) = g.latestWriteByNode.get? call.node.nodeId

instance (g : LongTermGraph) (call : WriteCall) : Decidable (g.Aligned call) :=
  inferInstanceAs (Decidable (∀ _ ∈ _, (_ ∨ _) ∨ ((_ ∨ _) ∧ _) ∨ _))

variable {functions : MemoryFunctions}

lemma Sound.emitConflictIfNeeded (h : g.Sound) (node : MemoryNode)
    (introducing : LongTermWriteRecord) (source : WriteSource) (exclude : Option String)
    (writtenAt : ℚ) :
    (g.emitConflictIfNeeded functions node introducing source exclude writtenAt).Sound := by
  unfold LongTermGraph.emitConflictIfNeeded
  cases g.contradictionTarget functions node exclude with
  | none => exact h
  | some target =>
    have hrecord : (g.appendRecord (newRecord functions .conflict node.nodeId
        { source with payloadRef := none } (some introducing.writeId)
        (g.latestWriteByNode.get? target.nodeId) writtenAt)).Sound :=
      h.appendRecord fun hne => absurd rfl hne
    exact hrecord.edgeRecord (mem_appendRecord g _)

/-- The edges of a tombstoned node name the record of its tombstone. -/
lemma Sound.tombstoneEdges (h : g.Sound) (hrecord : record ∈ g.writeLog) (nodeId : String) :
    Sound { g with edges := tombstoneEdges nodeId record g.edges } where
  __ := h
  introducing edge hedge := by
    obtain ⟨old, hold, rfl⟩ := List.mem_map.mp hedge
    have hintroducing := h.introducing old hold
    show (if _ then _ else _ : LongTermEdgeRecord).introducingWriteId ∈ _
    split
    · exact hintroducing
    · exact hintroducing
  tombstoning edge hedge id hid := by
    obtain ⟨old, hold, rfl⟩ := List.mem_map.mp hedge
    by_cases hends : old.sourceNodeId = nodeId ∨ old.targetNodeId = nodeId
    · rw [if_pos hends] at hid
      obtain rfl : record.writeId = id := Option.some_injective _ hid
      exact List.mem_map_of_mem hrecord
    · rw [if_neg hends] at hid
      exact h.tombstoning old hold id hid

variable {after : LongTermGraph} {existing : MemoryNode}

lemma Sound.tombstone (h : g.Sound) {source : WriteSource} {writtenAt : ℚ}
    (hok : g.tombstone functions nodeId source writtenAt = .ok (after, record)) : after.Sound := by
  unfold LongTermGraph.tombstone at hok
  cases hget : g.nodes.get? nodeId with
  | none =>
    rw [hget] at hok
    cases hok
  | some node =>
    rw [hget] at hok
    obtain ⟨hafter, hrecord⟩ := Prod.mk.inj (Except.ok.inj hok)
    have hid : node.nodeId = nodeId := h.nodeId_of_get? hget
    have hset : Sound { g with nodes := g.nodes.set nodeId { node with tombstoned := true } } :=
      h.setNode hid
    have hprior : record.priorWriteId = g.latestWriteByNode.get? record.targetNodeId := by
      rw [← hrecord]
      rfl
    have hlog := hset.appendRecord fun _ => hprior
    subst hafter hrecord
    exact hlog.tombstoneEdges (mem_appendRecord _ _) nodeId

lemma Sound.keepNode (h : g.Sound) (node : MemoryNode) :
    Sound { g with nodes := keepNode g.nodes node } := by
  unfold LongTermGraph.keepNode
  split
  · exact h
  · exact h.setNode rfl

lemma Sound.mergeInto (h : g.Sound) (hexisting : g.nodes.get? (g.targetId call) = some existing) :
    (g.mergeInto functions call existing).1.Sound := by
  unfold LongTermGraph.mergeInto
  apply Sound.emitConflictIfNeeded
  have hid : existing.nodeId = g.targetId call := h.nodeId_of_get? hexisting
  have hset : Sound { g with
      nodes := g.nodes.set (g.targetId call) (mergedNode existing call.node) } := h.setNode hid
  generalize hrecord : newRecord functions .merge (g.targetId call)
    ((g.effectiveSource call).ofNode call.node) (g.latestWriteByNode.get? (g.targetId call)) none
    call.writtenAt = record
  have hprior : record.priorWriteId = g.latestWriteByNode.get? record.targetNodeId := by
    rw [← hrecord]
    rfl
  have hlog := hset.appendRecord fun _ => hprior
  exact (hlog.keepNode { call.node with tombstoned := true }).edgeRecord (mem_appendRecord _ _)

lemma Sound.refineInto (h : g.Sound) (hexisting : g.nodes.get? (g.targetId call) = some existing) :
    (g.refineInto functions call existing).1.Sound := by
  unfold LongTermGraph.refineInto
  apply Sound.emitConflictIfNeeded
  have hid : existing.nodeId = g.targetId call := h.nodeId_of_get? hexisting
  have hset : Sound { g with
      nodes := g.nodes.set (g.targetId call) (refinedNode existing call.node
        (g.latestWriteByNode.get? (g.targetId call))) } := h.setNode hid
  generalize hrecord : newRecord functions .refine (g.targetId call)
    ((g.effectiveSource call).ofNode call.node) (g.latestWriteByNode.get? (g.targetId call)) none
    call.writtenAt = record
  have hprior : record.priorWriteId = g.latestWriteByNode.get? record.targetNodeId := by
    rw [← hrecord]
    rfl
  have hlog := hset.appendRecord fun _ => hprior
  exact hlog.edgeRecord (mem_appendRecord _ _)

lemma Sound.storeNode (h : g.Sound) {action : WriteAction} (haligned : action ≠ .conflict →
      g.latestWriteByNode.get? (g.targetId call) = g.latestWriteByNode.get? call.node.nodeId) :
    (g.storeNode functions call action).1.Sound := by
  unfold LongTermGraph.storeNode
  apply Sound.emitConflictIfNeeded
  have hset : Sound { g with nodes := g.nodes.set call.node.nodeId call.node } := h.setNode rfl
  exact hset.appendRecord haligned

/-- What a write that does not raise does. -/
lemma write_cases (hok : g.write functions call = .ok (after, record)) :
    g.tombstone functions (g.targetId call) (g.effectiveSource call) call.writtenAt =
        .ok (after, record) ∨
      (∃ existing, g.nodes.get? (g.targetId call) = some existing ∧
        g.mergeInto functions call existing = (after, record)) ∨
      (∃ existing, g.nodes.get? (g.targetId call) = some existing ∧
        g.refineInto functions call existing = (after, record)) ∨
      ∃ action, normalizeAction (g.actionText call) = .ok action ∧ action ≠ .tombstone ∧
        ((action = .merge ∨ action = .refine) → g.nodes.get? (g.targetId call) = none) ∧
          g.storeNode functions call action = (after, record) := by
  unfold write at hok
  cases haction : normalizeAction (g.actionText call) with
  | error e =>
    rw [haction] at hok
    cases hok
  | ok action =>
    cases hvalid : validateNode call.node with
    | error e =>
      rw [haction, hvalid] at hok
      cases hok
    | ok _ =>
      rw [haction, hvalid] at hok
      cases action with
      | tombstone => exact Or.inl hok
      | merge =>
        cases hget : g.nodes.get? (g.targetId call) with
        | none =>
          rw [hget] at hok
          exact Or.inr (Or.inr (Or.inr ⟨.merge, rfl, by decide, fun _ => rfl, Except.ok.inj hok⟩))
        | some existing =>
          rw [hget] at hok
          exact Or.inr (Or.inl ⟨existing, rfl, Except.ok.inj hok⟩)
      | refine =>
        cases hget : g.nodes.get? (g.targetId call) with
        | none =>
          rw [hget] at hok
          exact Or.inr (Or.inr (Or.inr ⟨.refine, rfl, by decide, fun _ => rfl, Except.ok.inj hok⟩))
        | some existing =>
          rw [hget] at hok
          exact Or.inr (Or.inr (Or.inl ⟨existing, rfl, Except.ok.inj hok⟩))
      | upsert =>
        refine Or.inr (Or.inr (Or.inr ⟨.upsert, rfl, by decide, fun h => ?_, Except.ok.inj hok⟩))
        rcases h with h | h <;> cases h
      | conflict =>
        refine Or.inr (Or.inr (Or.inr ⟨.conflict, rfl, by decide, fun h => ?_, Except.ok.inj hok⟩))
        rcases h with h | h <;> cases h

lemma Sound.afterWrite (h : g.Sound) (haligned : g.Aligned call) :
    (g.afterWrite functions call).Sound := by
  unfold LongTermGraph.afterWrite
  cases hwrite : g.write functions call with
  | error e => exact h
  | ok outcome =>
    obtain ⟨after, record⟩ := outcome
    rcases write_cases hwrite with hend | ⟨existing, hget, hmerge⟩ | ⟨existing, hget, hrefine⟩ |
      ⟨action, haction, hend, hnone, hstore⟩
    · exact h.tombstone hend
    · have hsound : (g.mergeInto functions call existing).1.Sound := h.mergeInto hget
      rw [hmerge] at hsound
      exact hsound
    · have hsound : (g.refineInto functions call existing).1.Sound := h.refineInto hget
      rw [hrefine] at hsound
      exact hsound
    · have hsound : (g.storeNode functions call action).1.Sound := by
        apply h.storeNode
        intro hconflict
        rcases haligned action (by rw [haction]; rfl) with hother | ⟨htarget, hsome⟩ | hlatest
        · rcases hother with hother | hother
          · exact absurd hother hend
          · exact absurd hother hconflict
        · rw [hnone htarget] at hsome
          cases hsome
        · exact hlatest
      rw [hstore] at hsound
      exact hsound

lemma Sound.afterTombstone (h : g.Sound) (nodeId : String) (source : WriteSource)
    (writtenAt : ℚ) : (g.afterTombstone functions nodeId source writtenAt).Sound := by
  unfold LongTermGraph.afterTombstone
  cases hwrite : g.tombstone functions nodeId source writtenAt with
  | error e => exact h
  | ok outcome => exact h.tombstone hwrite

/-! ## Snapshots -/

/-- Nodes under their ids are rebuilt from their list. -/
lemma foldl_set_values {nodes : Dict String MemoryNode}
    (hkeyed : ∀ entry ∈ nodes.entries, entry.2.nodeId = entry.1) :
    nodes.values.foldl (fun nodes node => nodes.set node.nodeId node) .empty = nodes := by
  have hkeys : nodes.values.map (·.nodeId) = nodes.keys := by
    unfold Dict.values Dict.keys
    rw [List.map_map]
    exact List.map_congr_left hkeyed
  have hpairs : nodes.values.map (fun node => (node.nodeId, node)) = nodes.entries := by
    unfold Dict.values
    rw [List.map_map]
    conv_rhs => rw [← List.map_id nodes.entries]
    apply List.map_congr_left
    intro entry hentry
    exact Prod.ext (hkeyed entry hentry) rfl
  apply Dict.ext
  rw [Dict.entries_foldl_set, hpairs]
  · rfl
  · rw [hkeys]
    exact nodes.nodup

/-- The data of a restored graph are those of the graph whose snapshot it took. -/
lemma Sound.restore (h : g.Sound) (other : LongTermGraph) :
    other.restore g.snapshot = { g with writeContextStack := other.writeContextStack } := by
  unfold LongTermGraph.restore snapshot
  rw [foldl_set_values h.keyed, ← h.latest]

lemma Sound.withScopes (h : g.Sound) (scopes : List WriteContext) :
    Sound { g with writeContextStack := scopes } where
  __ := h

/-! ## Runs -/

/-- The graphs of runs whose writes are all allowed. A call that raises leaves the graph as it is,
and a restored snapshot is one of any graph of such a run. -/
inductive Reached (functions : MemoryFunctions)
    (allowed : LongTermGraph → WriteCall → Prop) : LongTermGraph → Prop
  | empty : Reached functions allowed empty
  | enterScope {g : LongTermGraph} (context : WriteContext) (h : Reached functions allowed g) :
    Reached functions allowed (g.enterScope context)
  | exitScope {g : LongTermGraph} (h : Reached functions allowed g) :
    Reached functions allowed g.exitScope
  | write {g : LongTermGraph} (call : WriteCall) (h : Reached functions allowed g)
    (hallowed : allowed g call) :
    Reached functions allowed (g.afterWrite functions call)
  | tombstone {g : LongTermGraph} (nodeId : String) (source : WriteSource) (writtenAt : ℚ)
    (h : Reached functions allowed g) :
    Reached functions allowed (g.afterTombstone functions nodeId source writtenAt)
  | restore {g other : LongTermGraph} (h : Reached functions allowed g)
    (hother : Reached functions allowed other) :
    Reached functions allowed (g.restore other.snapshot)

lemma Reached.sound (h : Reached functions Aligned g) : g.Sound := by
  induction h with
  | empty => exact sound_empty
  | enterScope context h ih => exact ih.withScopes _
  | exitScope h ih => exact ih.withScopes _
  | write call h haligned ih => exact ih.afterWrite haligned
  | tombstone nodeId source writtenAt h ih => exact ih.afterTombstone nodeId source writtenAt
  | restore h hother ih ihother =>
    rw [ihother.restore]
    exact ihother.withScopes _

end LongTermGraph

open LongTermGraph

/-- The lineage of a graph, and of the forks from its snapshot. -/
structure LineageSound (functions : MemoryFunctions) (g : LongTermGraph) : Prop where
  prior : ∀ before record after, g.writeLog = before ++ record :: after →
    record.action ≠ .conflict →
      record.priorWriteId = previousWrite before record.targetNodeId
  introducing : ∀ edge ∈ g.edges, edge.introducingWriteId ∈ g.writeLog.map (·.writeId)
  tombstoning : ∀ edge ∈ g.edges, ∀ id ∈ edge.tombstoneWriteId, id ∈ g.writeLog.map (·.writeId)
  latest : ∀ nodeId, g.latestWriteByNode.get? nodeId = previousWrite g.writeLog nodeId
  fork : forkFromSnapshot g.snapshot = { g with writeContextStack := [] }
  later : ∀ scopes call,
    { forkFromSnapshot g.snapshot with writeContextStack := scopes }.write functions call =
      { g with writeContextStack := scopes }.write functions call

/-- In every run whose writes are aligned the lineage is sound, and survives a snapshot. -/
theorem memory_lineage (functions : MemoryFunctions) {g : LongTermGraph}
    (h : Reached functions Aligned g) : LineageSound functions g := by
  have hsound := h.sound
  have hfork : forkFromSnapshot g.snapshot = { g with writeContextStack := [] } :=
    hsound.restore _
  refine ⟨hsound.prior, hsound.introducing, hsound.tombstoning, hsound.get?_latest, hfork, ?_⟩
  intro scopes call
  rw [hfork]

/-- Ids in plain text. -/
def plainFunctions : MemoryFunctions where
  writeId identity := "ltw." ++ identity.action.text ++ "." ++ identity.targetNodeId
  edgeId identity := "lte." ++ identity.introducingWriteId
  lexicalOverlap a b := if a = b then 1 else 0

/-- A write of a node without symbols and files, outside of all scopes. -/
def plainWrite (nodeId : String) (action targetNodeId : Option String) : WriteCall where
  node :=
    { nodeId := nodeId
      type := "TaskNote"
      label := nodeId
      content := nodeId
      embedding := []
      symbolSet := []
      filePaths := []
      sourceTaskId := "task"
      verifierSupport := 1
      timestamps := .empty
      provenance := ⟨none, none, none, .empty⟩
      tombstoned := false }
  action := action
  targetNodeId := targetNodeId
  source := .blank
  writtenAt := 0
  conflictAt := 0

/-- Two notes, the second merged into the first inside a scope. -/
def mergedNotes : LongTermGraph :=
  let first := LongTermGraph.empty.afterWrite plainFunctions (plainWrite "a" none none)
  ((first.enterScope ⟨some "merge", some "a", .blank⟩).afterWrite plainFunctions
    (plainWrite "b" none none)).exitScope

theorem memory_lineage_mergedNotes : LineageSound plainFunctions mergedNotes := by
  apply memory_lineage
  apply Reached.exitScope
  apply Reached.write
  · apply Reached.enterScope
    exact Reached.write _ Reached.empty (by decide +kernel)
  · decide +kernel

/-- A node stored while the latest write of another is looked up: its first write names that
write as the previous one. -/
def misdirectedNotes : LongTermGraph :=
  (LongTermGraph.empty.afterWrite plainFunctions (plainWrite "a" none none)).afterWrite
    plainFunctions (plainWrite "b" none (some "a"))

theorem misdirected_prior :
    ¬∀ (functions : MemoryFunctions) (g : LongTermGraph), Reached functions (fun _ _ => True) g →
      (g.writeLog.map (·.writeId)).Nodup → LineageSound functions g := by
  intro h
  have hreached : Reached plainFunctions (fun _ _ => True) misdirectedNotes :=
    .write _ (.write _ .empty trivial) trivial
  have hfresh : (misdirectedNotes.writeLog.map (·.writeId)).Nodup := by decide +kernel
  obtain ⟨first, second, hlog, haction, hprior⟩ : ∃ first second,
      misdirectedNotes.writeLog = [first, second] ∧ second.action ≠ .conflict ∧
        second.priorWriteId ≠ previousWrite [first] second.targetNodeId :=
    ⟨_, _, rfl, by decide +kernel, by decide +kernel⟩
  exact hprior ((h plainFunctions misdirectedNotes hreached hfresh).prior [first] second [] hlog
    haction)

end Agintor.Kernel.Memory
