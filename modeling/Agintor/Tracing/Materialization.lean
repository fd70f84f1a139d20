import Agintor.Lib.Grouping
import Agintor.Tracing.Identity
import Mathlib.Data.Prod.Lex

/-!
# The views of a trace session

`_write_grouped_views` of `tracing/materialization.py`, with the functions that it calls. A view is
written to a directory, by its title and the calls that its transcript and its index list. A record
keeps what the views read of it; its context was valid when it was persisted.
-/

namespace Agintor.Tracing

open Lib Core Contracts

/-! ## Records and views -/

/-- A record, and the process that persisted it. -/
structure TraceRecord where
  callId : String
  callOrdinal : ℕ
  timestampUtc : String
  traceContext : OpenAITraceContext
  process : ℕ

/-- `_trace_record_sort_key` -/
def traceRecordSortKey (record : TraceRecord) : ℕ ×ₗ String ×ₗ String :=
  toLex (record.callOrdinal, toLex (record.timestampUtc, record.callId))

/-- `sorted(records, key=_trace_record_sort_key)` -/
def sortRecords (records : List TraceRecord) : List TraceRecord :=
  records.insertionSort fun a b => traceRecordSortKey a ≤ traceRecordSortKey b

structure View where
  title : String
  calls : List TraceRecord

/-- The views by their directories, as names below the session directory. -/
abbrev Views := Dict (List String) View

def viewOf (title : String) (records : List TraceRecord) : View := ⟨title, sortRecords records⟩

/-- `_write_trace_view` -/
def writeTraceView (views : Views) (outputDir : List String) (title : String)
    (records : List TraceRecord) : Views := views.set outputDir (viewOf title records)

def derivedGroupDirs : List String :=
  ["groups", "builds", "solves", "runtime_tasks", "factory_projects", "runtime_sessions",
    "benchmark_tasks"]

/-- `_reset_derived_group_dirs` -/
def resetDerivedGroupDirs (views : Views) : Views :=
  views.filterKeys fun dir => !derivedGroupDirs.any fun name => dir.head? = some name

/-! ## Groups -/

/-- Groups with the context of their first record. -/
abbrev ContextGroups := Dict String (OpenAITraceContext × List TraceRecord)

structure Groups where
  build : Dict String (List TraceRecord) := .empty
  solve : Dict String (List TraceRecord) := .empty
  factoryMessage : ContextGroups := .empty
  runtimeSessionMessage : ContextGroups := .empty
  benchmarkTask : ContextGroups := .empty

/-- `groups.setdefault(key, []).append(record)` -/
def addTo (groups : Dict String (List TraceRecord)) (key : String) (record : TraceRecord) :
    Dict String (List TraceRecord) := groups.set key ((groups.get? key).getD [] ++ [record])

/-- `groups.setdefault(key, (trace_context, []))[1].append(record)` -/
def addWithContext (groups : ContextGroups) (key : String) (record : TraceRecord) :
    ContextGroups :=
  let group := (groups.get? key).getD (record.traceContext, [])
  groups.set key (group.1, group.2 ++ [record])

def buildId (record : TraceRecord) : String := stripped (record.traceContext.text .buildId)

def requestId (record : TraceRecord) : String := stripped (record.traceContext.text .requestId)

def addBuild (groups : Groups) (record : TraceRecord) : Groups :=
  if buildId record = "" then groups
  else { groups with build := addTo groups.build (buildId record) record }

def addSolve (groups : Groups) (record : TraceRecord) : Groups :=
  if requestId record = "" then groups
  else { groups with solve := addTo groups.solve (requestId record) record }

def addGrouped (groups : Groups) (record : TraceRecord) : Groups :=
  match traceGroupingKey record.traceContext with
  | none => groups
  | some (.factoryMessage, key) =>
    { groups with factoryMessage := addWithContext groups.factoryMessage key record }
  | some (.runtimeSessionMessage, key) =>
    { groups with
      runtimeSessionMessage := addWithContext groups.runtimeSessionMessage key record }
  | some (.benchmarkTask, key) =>
    { groups with benchmarkTask := addWithContext groups.benchmarkTask key record }

/-- The body of the loop over the records. -/
def addRecord (groups : Groups) (record : TraceRecord) : Groups :=
  addGrouped (addSolve (addBuild groups record) record) record

/-- `sorted(groups.items())` -/
def sortedItems {γ : Type} (groups : Dict String γ) : List (String × γ) :=
  groups.entries.insertionSort fun a b => a.1 ≤ b.1

/-! ## The views -/

/-- The loop over the build groups, and the one over the solve groups. -/
def emitNamedViews (folder heading fallback : String) (views : Views)
    (groups : Dict String (List TraceRecord)) : Views :=
  (sortedItems groups).foldl (fun views item =>
    let name := item.1
    writeTraceView views [folder, slug name fallback] s!"{heading} {name}" item.2) views

/-- The body of the loop of `_emit_grouped_view`. -/
def emitGroup (kind : GroupKind) (heading : String) (emitted : Views × List String)
    (item : String × OpenAITraceContext × List TraceRecord) : Views × List String :=
  let key := item.1
  match traceGroupViewDir kind item.2.1 with
  | none => emitted
  | some dir =>
    (writeTraceView emitted.1 dir s!"{heading} {key}" item.2.2, emitted.2 ++ [key])

/-- `_emit_grouped_view` -/
def emitGroupedView (kind : GroupKind) (heading : String) (views : Views)
    (groups : ContextGroups) : Views × List String :=
  (sortedItems groups).foldl (emitGroup kind heading) (views, [])

structure TraceMaterializationState where
  sessionId : String
  lastFinalizedCallId : Option String
  knownCallIds : List String
  materializedBuildIds : List String
  materializedSolveRequestIds : List String
  factoryMessageKeys : List String
  runtimeSessionMessageKeys : List String
  benchmarkTaskKeys : List String
  callCount : ℕ
  groupedCallCount : ℕ

/-- How many records the groups have. -/
def rowCount (groups : ContextGroups) : ℕ := (groups.values.map fun group => group.2.length).sum

/-- `_write_grouped_views`, for a session directory with a name. -/
def writeGroupedViews (sessionName : String) (views : Views) (records : List TraceRecord) :
    Views × TraceMaterializationState :=
  let orderedRecords := sortRecords records
  let views := writeTraceView (resetDerivedGroupDirs views) []
    s!"OpenAI Trace Session {sessionName}" orderedRecords
  let groups := orderedRecords.foldl addRecord {}
  let views := emitNamedViews "builds" "Build" "build" views groups.build
  let views := emitNamedViews "solves" "Solve" "request" views groups.solve
  let (views, factoryMessageKeys) :=
    emitGroupedView .factoryMessage "Factory Message" views groups.factoryMessage
  let (views, runtimeSessionMessageKeys) :=
    emitGroupedView .runtimeSessionMessage "Runtime Session Message" views
      groups.runtimeSessionMessage
  let (views, benchmarkTaskKeys) :=
    emitGroupedView .benchmarkTask "Benchmark Task" views groups.benchmarkTask
  let knownCallIds := (orderedRecords.map fun record => strip record.callId).filter (· ≠ "")
  (views,
    { sessionId := sessionName
      lastFinalizedCallId := knownCallIds.getLast?
      knownCallIds := knownCallIds
      materializedBuildIds := groups.build.keys.insertionSort (· ≤ ·)
      materializedSolveRequestIds := groups.solve.keys.insertionSort (· ≤ ·)
      factoryMessageKeys := factoryMessageKeys
      runtimeSessionMessageKeys := runtimeSessionMessageKeys
      benchmarkTaskKeys := benchmarkTaskKeys
      callCount := orderedRecords.length
      groupedCallCount := rowCount groups.factoryMessage + rowCount groups.runtimeSessionMessage +
        rowCount groups.benchmarkTask })

end Agintor.Tracing
