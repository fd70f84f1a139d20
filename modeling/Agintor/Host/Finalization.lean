import Agintor.Core.Text
import Agintor.Storage.RunStore

/-!
# How the host closes an attempt

`RunStore` keeps the manifest of a run, its attempts and its checkpoints; the runtime publishes
checkpoints while an attempt runs, and `RuntimeHost` begins the attempt, waits for the result and
closes it (`runtime/host/finalization.py`, `runtime/host/host.py`, `storage/run_store.py`). The
host holds the manifest that it read before the attempt began.
-/

namespace Agintor.Host

open Lib Core
open Storage.RunStore (CheckpointReference SortKeyLe latestResumeEligibleCheckpointRow attemptName)

inductive LifecycleState
  | running
  | paused
  | completed
  | failed
  | cancelled
  | pruned
deriving DecidableEq

inductive LaunchKind
  | solve
  | runBatch
  | resume

structure CheckpointEnvelope where
  checkpointId : String
  runId : String
  runRoot : String
  attemptId : String
  requestId : String
  sequenceNo : ℕ
  createdAt : ℚ
  resumeEligible : Bool

/-- What a file holds: a checkpoint that loads, or anything else. -/
inductive File
  | checkpoint (envelope : CheckpointEnvelope)
  | other

structure RunManifest where
  runId : String
  runRoot : String
  runtimeHash : String
  currentAttemptId : Option String
  latestCheckpointRef : Option String
  lifecycleState : LifecycleState
  resumable : Bool
  pruneEligible : Bool
  lastFailureKind : Option String

structure AttemptManifest where
  attemptId : String
  sequenceNo : ℕ
  launchKind : LaunchKind
  lifecycleState : LifecycleState
  resumedFromCheckpointRef : Option String
  latestCheckpointRef : Option String
  failureKind : Option String

/-- The files of a run, and the other files a reference can name. A reference is the absolute path
of a file. -/
structure RunDirectory where
  manifest : RunManifest
  attempts : Dict String AttemptManifest
  files : Dict String File
  index : List CheckpointReference
  latest : Option CheckpointReference

/-- What a run store and the artifact policy know: where a reference to a run leads, and whether
failed runs are kept. -/
structure RuntimeHost where
  resolveRunRoot : String → Option String
  keepFailures : Bool

/-! ## The run store -/

/-- Whether a path is below a directory. -/
def isBelow (directory ref : String) : Bool := (directory ++ "/").toList.isPrefixOf ref.toList

/-- `run_root / "checkpoints" / f"{checkpoint_id}.json"` -/
def checkpointPath (runRoot checkpointId : String) : String :=
  runRoot ++ "/checkpoints/" ++ checkpointId ++ ".json"

def loadCheckpointEnvelope (dir : RunDirectory) (ref : String) : Option CheckpointEnvelope :=
  match dir.files.get? ref with
  | some (.checkpoint envelope) => some envelope
  | _ => none

/-- `begin_attempt`, from a manifest that was read before. -/
def beginAttempt (dir : RunDirectory) (manifest : RunManifest) (launchKind : LaunchKind)
    (resumedFrom : Option String) : RunDirectory × AttemptManifest :=
  let sequenceNo := dir.attempts.entries.length + 1
  let attemptId := attemptName sequenceNo
  let attempt : AttemptManifest :=
    { attemptId := attemptId
      sequenceNo := sequenceNo
      launchKind := launchKind
      lifecycleState := .running
      resumedFromCheckpointRef := resumedFrom
      latestCheckpointRef := none
      failureKind := none }
  ({ dir with
      attempts := dir.attempts.set attemptId attempt
      manifest := { manifest with currentAttemptId := some attemptId } }, attempt)

/-- The row of the index for a checkpoint. -/
def referenceOf (count : ℕ) (envelope : CheckpointEnvelope) : CheckpointReference where
  ref := checkpointPath envelope.runRoot envelope.checkpointId
  attemptId := envelope.attemptId
  requestId := envelope.requestId
  checkpointId := envelope.checkpointId
  sequenceNo := envelope.sequenceNo
  createdAt := envelope.createdAt
  checkpointCount := count
  latest := false
  resumeEligible := envelope.resumeEligible

def writeCheckpoint (dir : RunDirectory) (envelope : CheckpointEnvelope) : RunDirectory :=
  let ref := referenceOf (dir.index.length + 1) envelope
  let rows := (dir.index.filter (·.checkpointId ≠ envelope.checkpointId) ++ [ref]).insertionSort
    SortKeyLe
  let latestRow := latestResumeEligibleCheckpointRow rows
  { dir with
    files := dir.files.set ref.ref (.checkpoint envelope)
    index := rows.map fun row =>
      { row with latest := latestRow.map (·.checkpointId) = some row.checkpointId }
    latest := latestRow.map fun row => { row with latest := true }
    manifest :=
      { dir.manifest with
        currentAttemptId := some envelope.attemptId
        latestCheckpointRef := latestRow.map (·.ref)
        resumable := latestRow.isSome } }

/-- The references that `latest_usable_checkpoint_ref` tries, in order. -/
def candidates (dir : RunDirectory) : List String :=
  (dir.manifest.latestCheckpointRef.toList ++
    ((dir.manifest.currentAttemptId.bind dir.attempts.get?).bind (·.latestCheckpointRef)).toList ++
    (dir.latest.map (·.ref)).toList ++
    ((dir.index.insertionSort SortKeyLe).reverse.filter (·.resumeEligible)).map
      (·.ref)).eraseDups

/-- Whether a checkpoint counts as one of the run. -/
def belongsTo (host : RuntimeHost) (dir : RunDirectory) (ref : String)
    (envelope : CheckpointEnvelope) : Bool :=
  strip envelope.runId == dir.manifest.runId ||
    dir.manifest.latestCheckpointRef == some ref ||
    (strip envelope.runRoot != "" &&
      host.resolveRunRoot (strip envelope.runRoot) == some dir.manifest.runRoot) ||
    isBelow dir.manifest.runRoot ref

/-- Whether `latest_usable_checkpoint_ref` takes a reference. -/
def isUsable (host : RuntimeHost) (dir : RunDirectory) (ref : String) : Bool :=
  match loadCheckpointEnvelope dir ref with
  | some envelope => envelope.resumeEligible && belongsTo host dir ref envelope
  | none => false

def latestUsableCheckpointRef (host : RuntimeHost) (dir : RunDirectory) : Option String :=
  (candidates dir).find? (isUsable host dir)

/-- `checkpoint_ref_is_resume_eligible` -/
def checkpointRefIsResumeEligible (dir : RunDirectory) (ref : String) : Bool :=
  match loadCheckpointEnvelope dir ref with
  | some envelope => envelope.resumeEligible
  | none => false

def finishAttempt (dir : RunDirectory) (attempt : AttemptManifest) (lifecycleState : LifecycleState)
    (latestCheckpointRef failureKind : Option String) : RunDirectory :=
  { dir with
    attempts := dir.attempts.set attempt.attemptId
      { attempt with
        lifecycleState := lifecycleState
        latestCheckpointRef := latestCheckpointRef
        failureKind := failureKind } }

/-- The manifest that `finish_run` writes over the one on disk. -/
def finishRun (manifest : RunManifest) (lifecycleState : LifecycleState)
    (latestCheckpointRef : Option String) (resumable : Bool) (failureKind : Option String) :
    RunManifest :=
  { manifest with
    lifecycleState := lifecycleState
    latestCheckpointRef := latestCheckpointRef
    resumable := resumable
    pruneEligible := lifecycleState = .failed && !resumable
    lastFailureKind := failureKind }

/-- The directories that `prune_run` removes. -/
def prunedDirectories : List String :=
  ["checkpoints", "traces", "events", "artifacts", "side_effects", "state"]

def isPruned (runRoot ref : String) : Bool :=
  prunedDirectories.any fun name => isBelow (runRoot ++ "/" ++ name) ref

def pruneRun (dir : RunDirectory) (manifest : RunManifest) : RunDirectory :=
  { dir with
    files := dir.files.filterKeys fun ref => !isPruned manifest.runRoot ref
    index := []
    latest := none
    manifest :=
      { manifest with
        lifecycleState := .pruned
        latestCheckpointRef := none
        resumable := false
        pruneEligible := false } }

/-! ## Results -/

/-- `x or y` of two texts -/
def orText (x y : String) : String := if x = "" then y else x

/-- `x.strip() or None` -/
def noneIfBlank (x : String) : Option String := if strip x = "" then none else some (strip x)

/-- What is read of a result. A text that is `None` is empty here. -/
structure RunResult where
  artifactError : String
  latestCheckpointRef : String
  checkpointRef : String
  runLifecycleState : String
  lifecycleState : String
  hardInvalid : Bool
  failureKind : String
  runtimeHash : String

structure SolveResult where
  artifactError : String
  latestCheckpointRef : String
  checkpointRef : String
  runLifecycleState : String
  hardInvalid : Bool
  faultFailureKind : String
  faultCode : String
  runtimeHash : String

/-- `_run_result_from_solve_result` -/
def runResultFromSolveResult (manifest : RunManifest) (solveResult : SolveResult) : RunResult where
  artifactError := solveResult.artifactError
  latestCheckpointRef := orText solveResult.latestCheckpointRef solveResult.checkpointRef
  checkpointRef := orText solveResult.latestCheckpointRef solveResult.checkpointRef
  runLifecycleState := solveResult.runLifecycleState
  lifecycleState := solveResult.runLifecycleState
  hardInvalid := solveResult.hardInvalid
  failureKind := orText solveResult.faultFailureKind solveResult.faultCode
  runtimeHash := orText solveResult.runtimeHash manifest.runtimeHash

/-- The variables of the loop in `reduce_grouped_run_results`. -/
structure Reduction where
  latestCheckpointRef : Option String
  firstFailureKind : Option String
  allExecutedMembersCompleted : Bool
  anyCancelled : Bool

def RunResult.state (run : RunResult) : String :=
  (strip (orText run.runLifecycleState run.lifecycleState)).toLower

def reduceRunResult (r : Reduction) (run : RunResult) : Reduction :=
  if strip run.artifactError = "blocked_by_prior_episode_failure" then
    { r with allExecutedMembersCompleted := false }
  else
    let r := { r with
      latestCheckpointRef :=
        (noneIfBlank (orText run.latestCheckpointRef run.checkpointRef)).or r.latestCheckpointRef }
    if run.state = "cancelled" then
      { r with
        anyCancelled := true
        allExecutedMembersCompleted := false
        firstFailureKind :=
          r.firstFailureKind.or ((noneIfBlank run.failureKind).or (some "cancelled")) }
    else if !run.hardInvalid && run.state = "completed" then r
    else
      { r with
        allExecutedMembersCompleted := false
        firstFailureKind := r.firstFailureKind.or (noneIfBlank run.failureKind) }

/-- `reduce_grouped_run_results`, of results that there are. -/
def reduceGroupedRunResults (runs : List RunResult) : Reduction :=
  runs.foldl reduceRunResult ⟨none, none, true, false⟩

def Reduction.lifecycleState (r : Reduction) : LifecycleState :=
  if r.anyCancelled then .cancelled
  else if r.allExecutedMembersCompleted then .completed
  else if r.latestCheckpointRef.isSome then .paused
  else .failed

/-! ## The host -/

/-- The result of an attempt: a response, the results of a group, or a failure. -/
structure Outcome where
  response : Option SolveResult
  runResults : List RunResult
  failureKind : Option String

def Outcome.effectiveRuns (outcome : Outcome) (manifest : RunManifest) : List RunResult :=
  if outcome.runResults = [] then
    (outcome.response.map (runResultFromSolveResult manifest)).toList
  else outcome.runResults

/-- What the results say, or what is said for a failure: the lifecycle state, the latest
checkpoint and the kind of failure. -/
def Outcome.reduction (outcome : Outcome) (manifest : RunManifest) :
    LifecycleState × Option String × Option String :=
  match outcome.effectiveRuns manifest with
  | [] => (.failed, none, outcome.failureKind)
  | runs =>
    let r := reduceGroupedRunResults runs
    (r.lifecycleState, r.latestCheckpointRef, r.firstFailureKind)

/-- The reference that the results report, unless it names a file that no run can be resumed
from. -/
def Outcome.reportedCheckpointRef (outcome : Outcome) (dir : RunDirectory)
    (manifest : RunManifest) : Option String :=
  ((outcome.reduction manifest).2.1.bind noneIfBlank).filter fun ref =>
    !(dir.files.contains ref && !checkpointRefIsResumeEligible dir ref)

def Outcome.runtimeHash (outcome : Outcome) (manifest : RunManifest) : String :=
  match outcome.response with
  | some solveResult => solveResult.runtimeHash
  | none =>
    ((outcome.effectiveRuns manifest).findSome? fun run => noneIfBlank run.runtimeHash).getD
      manifest.runtimeHash

/-- The latest checkpoint as `_finalize_execution_unit` sees it. -/
def finalCheckpointRef (host : RuntimeHost) (dir : RunDirectory) (manifest : RunManifest)
    (outcome : Outcome) : Option String :=
  (outcome.reportedCheckpointRef dir manifest).or (latestUsableCheckpointRef host dir)

def finalLifecycleState (reduced : LifecycleState) (latestCheckpointRef : Option String) :
    LifecycleState :=
  match reduced with
  | .completed => .completed
  | .cancelled => .cancelled
  | _ => if latestCheckpointRef.isSome then .paused else .failed

/-- The files once `finish_attempt` and `finish_run` have written the two manifests. The lifecycle
states of the attempt and of the run come out alike. -/
def closedDirectory (host : RuntimeHost) (dir : RunDirectory) (manifest : RunManifest)
    (attempt : AttemptManifest) (outcome : Outcome) : RunDirectory :=
  let latestCheckpointRef := finalCheckpointRef host dir manifest outcome
  let failureKind := ((outcome.reduction manifest).2.2.or outcome.failureKind).bind noneIfBlank
  let lifecycleState := finalLifecycleState (outcome.reduction manifest).1 latestCheckpointRef
  let manifest := { manifest with runtimeHash := outcome.runtimeHash manifest }
  { finishAttempt dir attempt lifecycleState latestCheckpointRef failureKind with
    manifest := finishRun manifest lifecycleState latestCheckpointRef latestCheckpointRef.isSome
      failureKind }

/-- `_finalize_execution_unit`, with the directory that was pruned, if one was. -/
def finalizeExecutionUnit (host : RuntimeHost) (dir : RunDirectory) (manifest : RunManifest)
    (attempt : AttemptManifest) (outcome : Outcome) : RunDirectory × Option RunDirectory :=
  let closed := closedDirectory host dir manifest attempt outcome
  if closed.manifest.pruneEligible && !host.keepFailures then
    (pruneRun closed closed.manifest, some closed)
  else (closed, none)

/-! ## Runs -/

/-- A run with its newest attempt, and the manifest that the host read before it. -/
structure HostRun where
  dir : RunDirectory
  held : RunManifest
  attempt : AttemptManifest
  running : Bool
  /-- The directories that `prune_run` was called on. -/
  pruned : List RunDirectory

/-- The files that are there when a run is created: none of its own. -/
structure Elsewhere (runRoot : String) where
  files : Dict String File
  outside : ∀ ref ∈ files.keys, isBelow runRoot ref = false

def createRun (runId runRoot runtimeHash : String) (elsewhere : Elsewhere runRoot) :
    RunDirectory where
  manifest :=
    { runId := runId
      runRoot := runRoot
      runtimeHash := runtimeHash
      currentAttemptId := none
      latestCheckpointRef := none
      lifecycleState := .running
      resumable := false
      pruneEligible := false
      lastFailureKind := none }
  attempts := .empty
  files := elsewhere.files
  index := []
  latest := none

/-- A new attempt, from the manifest on disk. -/
def attemptFrom (dir : RunDirectory) (launchKind : LaunchKind) (resumedFrom : Option String)
    (pruned : List RunDirectory) : HostRun where
  dir := (beginAttempt dir dir.manifest launchKind resumedFrom).1
  held := dir.manifest
  attempt := (beginAttempt dir dir.manifest launchKind resumedFrom).2
  running := true
  pruned := pruned

/-- `create_run` and the first `begin_attempt` of `RuntimeHost.solve` and `run_batch`. -/
def launch (launchKind : LaunchKind) (runId runRoot runtimeHash : String)
    (elsewhere : Elsewhere runRoot) : HostRun :=
  attemptFrom (createRun runId runRoot runtimeHash elsewhere) launchKind none []

inductive Event
  /-- The runtime of the newest attempt publishes a checkpoint. -/
  | publish (checkpointId requestId : String) (sequenceNo : ℕ) (createdAt : ℚ)
      (resumeEligible : Bool)
  /-- The host closes the attempt. -/
  | finalize (outcome : Outcome)
  /-- The run is resumed, from a checkpoint or from its latest. -/
  | resume (checkpointRef : Option String)

def publish (s : HostRun) (checkpointId requestId : String) (sequenceNo : ℕ) (createdAt : ℚ)
    (resumeEligible : Bool) : HostRun :=
  { s with
    dir := writeCheckpoint s.dir
      { checkpointId := checkpointId
        runId := s.dir.manifest.runId
        runRoot := s.dir.manifest.runRoot
        attemptId := s.attempt.attemptId
        requestId := requestId
        sequenceNo := sequenceNo
        createdAt := createdAt
        resumeEligible := resumeEligible } }

def finalize (host : RuntimeHost) (s : HostRun) (outcome : Outcome) : HostRun :=
  let closed := finalizeExecutionUnit host s.dir s.held s.attempt outcome
  { s with dir := closed.1, running := false, pruned := s.pruned ++ closed.2.toList }

/-- Whether `resolve_resume_target` takes the run for the one that a checkpoint is of. -/
def namesRun (host : RuntimeHost) (dir : RunDirectory) (ref : String)
    (envelope : CheckpointEnvelope) : Bool :=
  isBelow dir.manifest.runRoot ref ||
    ((host.resolveRunRoot (strip envelope.runRoot) == some dir.manifest.runRoot ||
        host.resolveRunRoot (strip envelope.runId) == some dir.manifest.runRoot) &&
      (strip envelope.runId == "" || strip envelope.runId == dir.manifest.runId))

/-- `resolve_resume_target`, and loading what it selects. -/
def resolveResumeTarget (host : RuntimeHost) (dir : RunDirectory) (checkpointRef : Option String) :
    Option String :=
  match checkpointRef with
  | some ref => (loadCheckpointEnvelope dir ref).bind fun envelope =>
      if namesRun host dir ref envelope then some ref else none
  | none => latestUsableCheckpointRef host dir

/-- `_resolve_runtime_resume_request`: the manifest on disk is what the host holds from here on.
Without a target nothing changes. -/
def resume (host : RuntimeHost) (s : HostRun) (checkpointRef : Option String) : HostRun :=
  match resolveResumeTarget host s.dir checkpointRef with
  | none => s
  | some ref => attemptFrom s.dir .resume (some ref) s.pruned

/-- One event. Only an attempt that runs publishes, and only such an attempt is closed. -/
def step (host : RuntimeHost) (s : HostRun) : Event → HostRun
  | .publish checkpointId requestId sequenceNo createdAt resumeEligible =>
    if s.running then publish s checkpointId requestId sequenceNo createdAt resumeEligible else s
  | .finalize outcome => if s.running then finalize host s outcome else s
  | .resume checkpointRef => resume host s checkpointRef

def run (host : RuntimeHost) (s : HostRun) (events : List Event) : HostRun :=
  events.foldl (step host) s

end Agintor.Host
