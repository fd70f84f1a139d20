import Agintor.Core.Text
import Agintor.Lib.Dict

/-!
# Async tool handles

The background part of `runtime/tools/execution.py`, the handle table of `runtime/kernel/shell.py`,
and the runs of a root shell, its forks and the resumed attempts. Artifacts are files that outlive
an attempt; a process is tracked only by the executor that launched it. What a process does is what
the step is given that waits for it.
-/

namespace Agintor.Runtime.AsyncHandles

open Lib Core

/-- `json`, on values other than null. `loads` raises with a text. -/
structure JsonModule where
  Value : Type
  loads : String → Except String (Option Value)
  dumps : Value → String
  loads_dumps : ∀ value, loads (dumps value) = .ok (some value)

/-- `stable_hash(tool_name, args, counter)`, sixty-four digits. -/
structure StableHash (Args : Type) where
  digest : String → Args → ℕ → String
  length_digest : ∀ toolName args counter, (digest toolName args counter).toList.length = 64

inductive HandleState
  | running
  | completed
  | failed
  | cancelled
  | other (text : String)
deriving DecidableEq

structure AsyncHandle where
  handleId : String
  toolName : String
  timeout : String
  stdoutPath : Option String
  stderrPath : Option String
  state : HandleState
  artifactRefs : List String

/-- `OpenHandleTable` -/
abbrev OpenHandleTable := Dict String AsyncHandle

/-- The files under the workspaces, by path. -/
abbrev Files := Dict String String

/-- `ToolExecutor`, with the ids of the tracked processes. -/
structure ToolExecutor where
  persistArtifacts : Bool
  asyncProcesses : List String
  asyncLaunchCounter : ℕ

/-! ## Artifacts -/

def stripUnderscores (text : List Char) : List Char :=
  ((text.dropWhile (· == '_')).reverse.dropWhile (· == '_')).reverse

/-- `_async_artifact_stem` -/
def asyncArtifactStem (toolName handleId : String) : String :=
  let stripped := stripUnderscores (toolName.toList.map fun c => if c = '/' then '_' else c)
  let slug := if stripped = [] then "tool" else String.ofList stripped
  takeChars 12 slug ++ "_" ++ takeChars 8 handleId

def artifactPath (workspace artifactStem suffix : String) : String :=
  workspace ++ "/" ++ artifactStem ++ suffix

/-- `_artifact_paths` -/
def artifactPaths (persistArtifacts : Bool) (workspace artifactStem : String) :
    Option String × Option String × Option String :=
  if persistArtifacts then
    (some (artifactPath workspace artifactStem ".stdout"),
      some (artifactPath workspace artifactStem ".stderr"),
      some (artifactPath workspace artifactStem ".result.json"))
  else (none, none, none)

def writeText (files : Files) (path : Option String) (text : String) : Files × List String :=
  match path with
  | some path => (files.set path text, [path])
  | none => (files, [])

section

variable (J : JsonModule)

/-- `_write_async_artifacts` -/
def writeAsyncArtifacts (files : Files) (stdoutPath stderrPath resultPath : Option String)
    (stdout stderr : String) (output : Option J.Value) : Files × List String :=
  let (files, stdoutRefs) := writeText files stdoutPath stdout
  let (files, stderrRefs) := writeText files stderrPath stderr
  let (files, resultRefs) := match output with
    | some value => writeText files resultPath (J.dumps value)
    | none => (files, [])
  (files, stdoutRefs ++ stderrRefs ++ resultRefs)

end

/-! ## Launch, wait and cancel -/

section Launch

variable {Args : Type} (H : StableHash Args)

/-- A registered tool, and whether its file is there. -/
structure Tool where
  name : String
  timeout : String
  hasExecutor : Bool
  fileExists : Bool

inductive LaunchError
  | validation (message : String)
  | fileNotFound (message : String)

/-- `launch_async`. Without the source of the tool it raises, after it has counted. -/
def launchAsync (executor : ToolExecutor) (tool : Tool) (args : Args) (workspace : String) :
    Except LaunchError AsyncHandle × ToolExecutor :=
  let counter := executor.asyncLaunchCounter + 1
  let handleId := takeChars 16 (H.digest tool.name args counter)
  let artifactStem := asyncArtifactStem tool.name handleId
  let (stdoutPath, stderrPath, resultPath) :=
    artifactPaths executor.persistArtifacts workspace artifactStem
  if tool.fileExists then
    (.ok ⟨handleId, tool.name, tool.timeout, stdoutPath, stderrPath, .running, resultPath.toList⟩,
      { executor with
        asyncProcesses := handleId :: executor.asyncProcesses.filter (· ≠ handleId)
        asyncLaunchCounter := counter })
  else
    (.error (if tool.hasExecutor then
        .validation
          "executor-backed async tools must be materialized into source before background execution"
      else .fileNotFound ("tool source missing for " ++ tool.name)),
      { executor with asyncLaunchCounter := counter })

end Launch

/-- What the process of a handle does before it is waited for. -/
inductive Ending
  | timedOut (stdout stderr : String)
  | exited (stdout stderr : String) (returnCode : ℤ)

def ToolExecutor.pop (executor : ToolExecutor) (handleId : String) : ToolExecutor :=
  { executor with asyncProcesses := executor.asyncProcesses.filter (· ≠ handleId) }

/-- `message not in stderr`, or else the message in a line of its own. -/
def withMessage (stderr message : String) : String :=
  if message.toList <:+: stderr.toList then stderr else strip (stderr ++ "\n" ++ message)

section Wait

variable (J : JsonModule)

structure ToolExecutionResult where
  toolName : String
  output : Option J.Value
  stdout : String
  stderr : String
  success : Bool
  asyncHandleId : String

/-- `stdout or "null"` read as JSON. -/
def parseStdout (stdout : String) : Except String (Option J.Value) :=
  J.loads (if stdout = "" then "null" else stdout)

/-- `wait_async` of a process that ended in time: the output, `stderr` as it is written, and
success. -/
def judge (stdout stderr : String) (returnCode : ℤ) : Option J.Value × String × Bool :=
  match parseStdout J stdout with
  | .ok output =>
    (output,
      if returnCode ≠ 0 ∧ strip stderr = "" then
        "process exited with code " ++ toString returnCode
      else stderr,
      decide (returnCode = 0 ∧ strip stderr = ""))
  | .error exc => (none, strip (stderr ++ "\n" ++ exc), false)

/-- `wait_async` -/
def waitAsync (executor : ToolExecutor) (files : Files) (handle : AsyncHandle) (ending : Ending) :
    ToolExecutionResult J × ToolExecutor × Files :=
  if handle.handleId ∈ executor.asyncProcesses then
    match ending with
    | .timedOut stdout stderr =>
      (⟨handle.toolName, none, stdout,
        strip (if stderr = "" then "async tool timed out after " ++ handle.timeout ++ "s"
          else stderr), false, handle.handleId⟩,
        executor.pop handle.handleId, files)
    | .exited stdout stderr returnCode =>
      let (output, stderr, success) := judge J stdout stderr returnCode
      let (files, _) := writeAsyncArtifacts J files handle.stdoutPath handle.stderrPath
        handle.artifactRefs.head? stdout stderr output
      (⟨handle.toolName, output, stdout,
        if returnCode ≠ 0 then
          withMessage stderr ("process exited with code " ++ toString returnCode)
        else stderr, success && decide (returnCode = 0), handle.handleId⟩,
        executor.pop handle.handleId, files)
  else
    (⟨handle.toolName, none, "", "async process handle missing", false, handle.handleId⟩,
      executor, files)

/-! ## The handles of a shell -/

structure Shell where
  workspace : String
  executor : ToolExecutor
  openHandles : OpenHandleTable

inductive HandleError
  | keyError (handleId : String)
  | notTracked (handleId : String)

/-- What `cancel_async_handle` makes of `stderr`. -/
def terminatedStderr (stderr : String) (returnCode : ℤ) : String :=
  if returnCode ≠ 0 then
    withMessage (strip stderr) ("process terminated with code " ++ toString returnCode)
  else strip stderr

/-- `cancel_async_handle`, of a process that leaves these texts and this code. -/
def cancelAsyncHandle (shell : Shell) (files : Files) (handleId : String)
    (stdout stderr : String) (returnCode : ℤ) : Except HandleError (Shell × Files) :=
  match shell.openHandles.get? handleId with
  | none => .error (.keyError handleId)
  | some handle =>
    if handleId ∈ shell.executor.asyncProcesses then
      let (files, artifactRefs) := writeAsyncArtifacts J files handle.stdoutPath handle.stderrPath
        handle.artifactRefs.head? stdout (terminatedStderr stderr returnCode) none
      .ok ({ shell with
        executor := shell.executor.pop handleId
        openHandles := shell.openHandles.set handleId { handle with
          state := .cancelled
          artifactRefs := if artifactRefs = [] then handle.artifactRefs else artifactRefs } },
        files)
    else .error (.notTracked handleId)

/-- `await_handle` -/
def awaitHandle (shell : Shell) (files : Files) (handleId : String) (ending : Ending) :
    Except HandleError (ToolExecutionResult J × Shell × Files) :=
  match shell.openHandles.get? handleId with
  | none => .error (.keyError handleId)
  | some handle =>
    let (result, executor, files) := waitAsync J shell.executor files handle ending
    .ok (result, { shell with
      executor := executor
      openHandles := shell.openHandles.set handleId
        { handle with state := if result.success then .completed else .failed } }, files)

/-- What `reconcile_async_handle` reports. An unresolved handle has no output. -/
structure Report where
  handleId : String
  status : HandleState
  output : Option J.Value

/-- `json.loads(result_path.read_text())` of a path that exists. -/
def loadResult (files : Files) (resultPath : Option String) : Option (Option J.Value) :=
  (resultPath.bind files.get?).map fun text =>
    match J.loads text with
    | .ok output => output
    | .error _ => none

/-- `reconcile_async_handle`, of a handle of the shell. -/
def reconcileAsyncHandle (shell : Shell) (files : Files) (handleId : String) (ending : Ending) :
    Except HandleError (Report J × Shell × Files) :=
  match shell.openHandles.get? handleId with
  | none => .error (.keyError handleId)
  | some handle =>
    if handleId ∈ shell.executor.asyncProcesses then
      (awaitHandle J shell files handleId ending).map fun (finished, shell, files) =>
        (⟨handleId, if finished.success then .completed else .failed, finished.output⟩, shell,
          files)
    else if handle.state ∈ [.completed, .failed, .cancelled] then
      .ok (⟨handleId, handle.state, (loadResult J files handle.artifactRefs.head?).join⟩, shell,
        files)
    else if handle.state ≠ .running then
      .ok (⟨handleId, .other "unresolved", none⟩, shell, files)
    else
      match loadResult J files handle.artifactRefs.head? with
      | some output => .ok (⟨handleId, .completed, output⟩, { shell with
          openHandles := shell.openHandles.set handleId { handle with state := .completed } },
          files)
      | none => .ok (⟨handleId, .other "unresolved", none⟩, shell, files)

end Wait

/-! ## Runs -/

/-- A launch that was made, by the executor that had counted so far. -/
structure Launch (Args : Type) where
  toolName : String
  args : Args
  counter : ℕ
  handle : AsyncHandle

/-- How a process ended that was waited for or cancelled. -/
inductive Outcome (J : JsonModule)
  | finished (success : Bool) (output : Option J.Value)
  | cancelled

/-- The shells of a run, the handle tables of its checkpoints, and what has happened. -/
structure World (J : JsonModule) (Args : Type) where
  files : Files
  shells : List Shell
  checkpoints : List OpenHandleTable
  launches : List (Launch Args)
  outcomes : List (String × Outcome J)
  reports : List (Report J)

inductive Action (Args : Type)
  | root (workspace : String)
  /-- `fork_branch` -/
  | fork (shell : ℕ) (branchId : String)
  /-- Save the handle table of a shell. -/
  | checkpoint (shell : ℕ)
  /-- A new attempt, `restore_checkpoint_shell_state`. -/
  | resume (checkpoint : ℕ) (workspace : String)
  | launch (shell : ℕ) (tool : Tool) (args : Args)
  | await (shell : ℕ) (handleId : String) (ending : Ending)
  | cancel (shell : ℕ) (handleId stdout stderr : String) (returnCode : ℤ)
  | reconcile (shell : ℕ) (handleId : String) (ending : Ending)

section Step

variable {Args : Type} (H : StableHash Args) (J : JsonModule)

/-- `ToolExecutor.__init__`, with artifacts kept. -/
def freshExecutor : ToolExecutor := ⟨true, [], 0⟩

def World.start : World J Args := ⟨.empty, [], [], [], [], []⟩

variable {J}

/-- The outcome that a wait leaves, if the process was tracked. -/
def waited (tracked : Bool) (handleId : String) (success : Bool) (output : Option J.Value) :
    List (String × Outcome J) :=
  if tracked then [(handleId, .finished success output)] else []

/-- A step of a run. A call that raises leaves what it has changed. -/
def World.step (world : World J Args) : Action Args → World J Args
  | .root workspace =>
    { world with shells := world.shells ++ [⟨workspace, freshExecutor, .empty⟩] }
  | .fork shell branchId =>
    match world.shells[shell]? with
    | none => world
    | some parent =>
      { world with shells := world.shells ++
          [⟨parent.workspace ++ "/branches/" ++ branchId, freshExecutor, parent.openHandles⟩] }
  | .checkpoint shell =>
    match world.shells[shell]? with
    | none => world
    | some saved => { world with checkpoints := world.checkpoints ++ [saved.openHandles] }
  | .resume checkpoint workspace =>
    match world.checkpoints[checkpoint]? with
    | none => world
    | some openHandles =>
      { world with shells := world.shells ++ [⟨workspace, freshExecutor, openHandles⟩] }
  | .launch shell tool args =>
    match world.shells[shell]? with
    | none => world
    | some launching =>
      match launchAsync H launching.executor tool args (launching.workspace ++ "/handles") with
      | (.ok handle, executor) =>
        { world with
          shells := world.shells.set shell ⟨launching.workspace, executor,
            launching.openHandles.set handle.handleId handle⟩
          launches := world.launches ++
            [⟨tool.name, args, launching.executor.asyncLaunchCounter + 1, handle⟩] }
      | (.error _, executor) =>
        { world with shells := world.shells.set shell { launching with executor } }
  | .await shell handleId ending =>
    match world.shells[shell]? with
    | none => world
    | some waiting =>
      match awaitHandle J waiting world.files handleId ending with
      | .error _ => world
      | .ok (result, waiting', files) =>
        { world with
          files := files
          shells := world.shells.set shell waiting'
          outcomes := world.outcomes ++ waited (handleId ∈ waiting.executor.asyncProcesses)
            handleId result.success result.output }
  | .cancel shell handleId stdout stderr returnCode =>
    match world.shells[shell]? with
    | none => world
    | some cancelling =>
      match cancelAsyncHandle J cancelling world.files handleId stdout stderr returnCode with
      | .error _ => world
      | .ok (cancelling', files) =>
        { world with
          files := files
          shells := world.shells.set shell cancelling'
          outcomes := world.outcomes ++ [(handleId, .cancelled)] }
  | .reconcile shell handleId ending =>
    match world.shells[shell]? with
    | none => world
    | some asking =>
      match reconcileAsyncHandle J asking world.files handleId ending with
      | .error _ => world
      | .ok (report, asking', files) =>
        { world with
          files := files
          shells := world.shells.set shell asking'
          outcomes := world.outcomes ++ waited (handleId ∈ asking.executor.asyncProcesses)
            handleId (report.status = .completed) report.output
          reports := world.reports ++ [report] }

def World.run (world : World J Args) (actions : List (Action Args)) : World J Args :=
  actions.foldl (World.step H) world

end Step

end Agintor.Runtime.AsyncHandles
