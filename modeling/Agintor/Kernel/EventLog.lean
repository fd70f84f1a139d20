import Mathlib.Data.List.Sort
import Mathlib.Data.String.Basic
import Agintor.Lib.Decimal
import Agintor.Lib.Dict

/-!
# The runtime event log

The events of a run: `append_runtime_event`, `restore_runtime_event_cursor` and
`load_runtime_events` of `runtime/kernel/shell.py`, and the order in which `_run_execution_plan`
(`runtime/kernel/loop.py`) uses them in a solve or a resume. Every attempt builds a fresh shell;
the shells of its branches share its counter and its lock, so that an attempt is one sequence of
events.

Left out: the fields of an event that neither function reads, which its payload stands for.
-/

namespace Agintor.Kernel.Events

open Lib

inductive EventName
  | runStarted
  | planCompiled
  | planLoaded
  | planValidationFailed
  | modeSelected
  | nodeStarted
  | nodeCompleted
  | nodeFailed
  | nodeReusedFromCheckpoint
  | nodeRecoveryBlocked
  | branchStarted
  | branchCompleted
  | branchCancelled
  | branchFailed
  | branchFrontierRestored
  | branchSkipped
  | sideEffectRecorded
  | sideEffectReconciled
  | checkpointPublished
  | checkpointRestored
  | mergeStarted
  | mergeCompleted
  | modelResponse
  | modelAssigned
  | toolOperation
  | toolFault
  | toolPromoted
  | checksSkipped
  | checksTrimmed
  | checksRequested
  | checkResult
  | memoryPromoted
  | contextIngested
  | compaction
  | agentCreated
  | agentReused
  | terminalEmitted
  | runFailed
  | runCancelled
deriving DecidableEq

def EventName.text : EventName → String
  | runStarted => "run_started"
  | planCompiled => "plan_compiled"
  | planLoaded => "plan_loaded"
  | planValidationFailed => "plan_validation_failed"
  | modeSelected => "mode_selected"
  | nodeStarted => "node_started"
  | nodeCompleted => "node_completed"
  | nodeFailed => "node_failed"
  | nodeReusedFromCheckpoint => "node_reused_from_checkpoint"
  | nodeRecoveryBlocked => "node_recovery_blocked"
  | branchStarted => "branch_started"
  | branchCompleted => "branch_completed"
  | branchCancelled => "branch_cancelled"
  | branchFailed => "branch_failed"
  | branchFrontierRestored => "branch_frontier_restored"
  | branchSkipped => "branch_skipped"
  | sideEffectRecorded => "side_effect_recorded"
  | sideEffectReconciled => "side_effect_reconciled"
  | checkpointPublished => "checkpoint_published"
  | checkpointRestored => "checkpoint_restored"
  | mergeStarted => "merge_started"
  | mergeCompleted => "merge_completed"
  | modelResponse => "model_response"
  | modelAssigned => "model_assigned"
  | toolOperation => "tool_operation"
  | toolFault => "tool_fault"
  | toolPromoted => "tool_promoted"
  | checksSkipped => "checks_skipped"
  | checksTrimmed => "checks_trimmed"
  | checksRequested => "checks_requested"
  | checkResult => "check_result"
  | memoryPromoted => "memory_promoted"
  | contextIngested => "context_ingested"
  | compaction => "compaction"
  | agentCreated => "agent_created"
  | agentReused => "agent_reused"
  | terminalEmitted => "terminal_emitted"
  | runFailed => "run_failed"
  | runCancelled => "run_cancelled"

structure RuntimeEvent where
  event : EventName
  eventId : String
  sequenceNo : ℕ
  requestId : String
  planId : String
  payload : String
deriving DecidableEq

/-- The persisted event, and whether its file was there before. -/
structure EventWrite where
  event : RuntimeEvent
  existed : Bool
deriving DecidableEq

/-- The event directory of a run root, and the writes made to it. -/
structure EventLog where
  files : Dict String RuntimeEvent
  writes : List EventWrite

def EventLog.empty : EventLog := ⟨.empty, []⟩

/-- A shell, with the forks that share its counter. -/
structure FixedShell where
  nextSequenceNo : ℕ

/-- The hash function that the ids of events without one are made with. -/
structure EventIds where
  stableHash : String → String → EventName → ℕ → String

/-- `f"{sequence_no:06d}.{event}.json"` -/
def eventFile (sequenceNo : ℕ) (event : EventName) : String :=
  zeroPad 6 sequenceNo ++ "." ++ event.text ++ ".json"

/-- `append_runtime_event` -/
def appendRuntimeEvent (H : EventIds) (log : EventLog) (shell : FixedShell) (event : RuntimeEvent) :
    EventLog × FixedShell :=
  let nextSequenceNo := shell.nextSequenceNo + 1
  let eventId :=
    if event.eventId ≠ "" then event.eventId
    else "runtime-event." ++ zeroPad 6 nextSequenceNo ++ "." ++
      H.stableHash event.requestId event.planId event.event nextSequenceNo
  let persisted := { event with eventId := eventId, sequenceNo := nextSequenceNo }
  let file := eventFile nextSequenceNo persisted.event
  ({ files := log.files.set file persisted
     writes := log.writes ++ [⟨persisted, log.files.contains file⟩] },
    ⟨nextSequenceNo⟩)

/-- The number that a file name starts with. -/
def sequencePrefix (name : String) : ℕ :=
  let digits := name.toList.takeWhile (· ≠ '.')
  if digits ≠ [] ∧ digits.all Char.isDigit = true then Nat.ofDigitChars 10 digits 0 else 0

/-- `_latest_runtime_event_sequence` -/
def latestRuntimeEventSequence (log : EventLog) : ℕ :=
  log.files.keys.foldl (fun latest name => max latest (sequencePrefix name)) 0

/-- `restore_runtime_event_cursor` -/
def restoreRuntimeEventCursor (log : EventLog) (shell : FixedShell) (sequenceNo : ℕ) : FixedShell :=
  ⟨max (max shell.nextSequenceNo sequenceNo) (latestRuntimeEventSequence log)⟩

/-- `(sequence_no, event_id)` in order. -/
def EventLe (a b : RuntimeEvent) : Prop :=
  a.sequenceNo < b.sequenceNo ∨ a.sequenceNo = b.sequenceNo ∧ a.eventId ≤ b.eventId

instance : DecidableRel EventLe := fun a b =>
  inferInstanceAs (Decidable (a.sequenceNo < b.sequenceNo ∨
    a.sequenceNo = b.sequenceNo ∧ a.eventId ≤ b.eventId))

/-- `load_runtime_events` -/
def loadRuntimeEvents (log : EventLog) (requestId : Option String) (afterSequenceNo : Option ℕ) :
    List RuntimeEvent :=
  let events := (log.files.entries.insertionSort fun a b => a.1 ≤ b.1).map Prod.snd
  let events := events.filter fun event =>
    (requestId.all fun id => id = "" ∨ event.requestId = id) &&
      afterSequenceNo.all fun n => n < event.sequenceNo
  events.insertionSort EventLe

/-! ## Attempts -/

/-- What an attempt does with the log. -/
inductive ShellAction
  | append (event : RuntimeEvent)
  | restore (sequenceNo : ℕ)

/-- What `_restore_from_checkpoint` does in a resume: the events it records, and the sequence number
in the state it restores, if it succeeds. -/
structure Restoration where
  events : List RuntimeEvent
  sequenceNo : Option ℕ

/-- A solve or a resume. It can end after any number of actions. -/
structure Attempt where
  requestId : String
  planId : String
  /-- The id and the payload of the events of the loop itself. -/
  details : EventName → String × String
  planValid : Bool
  /-- Recorded by `_ingest_context`. -/
  ingested : List RuntimeEvent
  checkpoint : Option Restoration
  /-- Recorded once the attempt runs, by its shell and the shells of its branches. -/
  events : List RuntimeEvent
  actionCount : ℕ

namespace Attempt

variable (a : Attempt)

/-- `context.record(name, ...)` -/
def record (name : EventName) : ShellAction :=
  .append
    { event := name
      eventId := (a.details name).1
      sequenceNo := 0
      requestId := a.requestId
      planId := a.planId
      payload := (a.details name).2 }

/-- What `_run_execution_plan` does after the plan has been loaded. -/
def afterLoading : List ShellAction :=
  match a.checkpoint with
  | none => a.events.map .append
  | some restoration =>
    restoration.events.map .append ++
      match restoration.sequenceNo with
      | none => [a.record .runFailed]
      | some sequenceNo =>
        [.restore sequenceNo, a.record .checkpointRestored] ++ a.events.map .append

/-- `_run_execution_plan` -/
def runExecutionPlan : List ShellAction :=
  [a.record .runStarted, a.record .planCompiled] ++
    if a.planValid = false then [a.record .planValidationFailed, a.record .runFailed]
    else a.record .planLoaded :: (a.ingested.map .append ++ a.afterLoading)

/-- The actions made before the attempt ends. -/
def actions : List ShellAction := a.runExecutionPlan.take a.actionCount

end Attempt

def act (H : EventIds) (s : EventLog × FixedShell) : ShellAction → EventLog × FixedShell
  | .append event => appendRuntimeEvent H s.1 s.2 event
  | .restore sequenceNo => (s.1, restoreRuntimeEventCursor s.1 s.2 sequenceNo)

/-- An attempt, by a fresh shell. -/
def attempt (H : EventIds) (log : EventLog) (a : Attempt) : EventLog :=
  (a.actions.foldl (act H) (log, ⟨0⟩)).1

/-- A run: a solve and its resumes. -/
def run (H : EventIds) (attempts : List Attempt) : EventLog :=
  attempts.foldl (attempt H) .empty

end Agintor.Kernel.Events
