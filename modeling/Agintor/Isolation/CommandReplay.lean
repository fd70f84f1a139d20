import Agintor.Contracts.PublicPayload
import Agintor.Lib.Dict
import Agintor.Lib.SplitLines
import Agintor.Lib.Transcript

/-!
# Recording and replaying isolated commands

`IsolatedCommandReplayRecorder` and `IsolatedCommandReplayBackend` of `isolation/replay.py`. A
workspace is known by its content digest at the time of the call, if one can be taken; an argument
that pydantic refuses is an absent argument.
-/

namespace Agintor.Isolation

open Core Contracts Lib

inductive ReplayError
  /-- `ValueError`, and the `ValidationError` of pydantic. -/
  | validation (message : String)
  /-- `IsolatedCommandReplayError` -/
  | replay (code message : String) (sequenceNo : Option ℕ)
deriving DecidableEq

/-- The hash functions of the transcript. -/
structure CommandIdentities extends Identities where
  sha256Text : String → String

/-! ## Commands -/

inductive IsolatedCommandStatus
  | completed
  | timedOut
  | outputLimit
  | launchFailed
deriving DecidableEq

def IsolatedCommandStatus.text : IsolatedCommandStatus → String
  | completed => "completed"
  | timedOut => "timed_out"
  | outputLimit => "output_limit"
  | launchFailed => "launch_failed"

/-- An `IsolatedCommandRequest`, with the digest of its workspace. -/
structure IsolatedCommandRequest where
  command : List String
  workspaceDigest : Option String
  workingDirectory : String
  environment : List (String × String)
  timeoutS : Option ℚ

structure IsolatedCommandResult where
  status : IsolatedCommandStatus
  command : List String
  containerName : String
  exitCode : Option ℤ
  stdout : String
  stderr : String
  stdoutDigest : String
  stderrDigest : String
  durationS : ℚ
  outputTruncated : Bool
  failureDetail : Option String
deriving DecidableEq

def texts (items : List String) : Json := .array (items.map .str)

def IsolatedCommandResult.dump (result : IsolatedCommandResult) : Json :=
  .object
    [("status", .str result.status.text), ("command", texts result.command),
      ("container_name", .str result.containerName),
      ("exit_code", result.exitCode.elim .null .int), ("stdout", .str result.stdout),
      ("stderr", .str result.stderr), ("stdout_digest", .str result.stdoutDigest),
      ("stderr_digest", .str result.stderrDigest), ("duration_s", .float result.durationS),
      ("output_truncated", .bool result.outputTruncated),
      ("failure_detail", result.failureDetail.elim .null .str)]

/-! ## Requests -/

/-- `_SHELL_EXECUTABLES` -/
def shellExecutables : List String :=
  ["bash", "bash.exe", "cmd", "cmd.exe", "dash", "fish", "ksh", "powershell", "powershell.exe",
    "pwsh", "pwsh.exe", "sh", "sh.exe", "zsh"]

/-- `_SECRET_ENV_MARKERS` -/
def secretEnvMarkers : List String :=
  ["API_KEY", "AUTH", "CREDENTIAL", "PASSWORD", "SECRET", "TOKEN"]

/-- `text.replace("\\", "/")` -/
def withSlashes (text : List Char) : List Char := text.map fun c => if c = '\\' then '/' else c

/-- `_validate_command` -/
def validateCommand (command : List String) : Except ReplayError (List String) := do
  raiseIf (command = [] ∨ command.any (fun part => part = "" || part.toList.contains '\x00') = true)
    (.validation "replay command arguments must be nonempty and NUL-free")
  let executable := ((withSlashes (command.headD "").toList).splitOn '/').getLastD []
  raiseIf (shellExecutables.contains (String.ofList (executable.flatMap caseFold)) = true)
    (.validation "shell execution is forbidden in isolated command replay")
  return command

/-- `[A-Z_][A-Z0-9_]*` -/
def isEnvName (name : String) : Bool :=
  match name.toList with
  | [] => false
  | c :: cs => (c.isUpper || c == '_') && cs.all fun d => d.isUpper || d.isDigit || d == '_'

section Validation

variable (ids : CommandIdentities) (U : UnicodeTables)

/-- One round of the loop of `_validate_environment`. -/
def validateVariable (normalized : Dict String String) (entry : String × String) :
    Except ReplayError (Dict String String) := do
  let name := (strip entry.1).toUpper
  raiseIf (isEnvName name = false)
    (.validation "replay environment names must be portable uppercase identifiers")
  raiseIf (secretEnvMarkers.any (fun marker => decide (marker.toList <:+: name.toList)) = true)
    (.validation "secret-bearing environment names are forbidden in command replay")
  raiseIf (entry.2.toList.contains '\x00' = true)
    (.validation "replay environment values may not contain NUL")
  raiseIf (isPublic U (.object [(name, .str entry.2)]) = false)
    (.validation "replay environment values must be public")
  return normalized.set name entry.2

/-- `_validate_environment` -/
def validateEnvironment (environment : List (String × String)) :
    Except ReplayError (List (String × String)) := do
  let normalized ← environment.foldlM (validateVariable U) .empty
  return normalized.entries.insertionSort fun a b => a.1 ≤ b.1

/-- `validate_working_directory` -/
def validateWorkingDirectory (value : String) : Except ReplayError String := do
  let stripped := withSlashes (strip (if value = "" then "." else value)).toList
  let normalized := if stripped = [] then ['.'] else stripped
  let parts := (normalized.splitOn '/').filter fun part => part ≠ [] ∧ part ≠ ['.']
  raiseIf (normalized.head? = some '/' ∨ (∃ part ∈ parts, part = ['.', '.']) ∨ ':' ∈ normalized)
    (.validation "working_directory must remain relative to the replay workspace")
  return if parts = [] then "." else String.ofList (['/'].intercalate parts)

/-- `_require_digest` -/
def requireDigest (value fieldName : String) : Except ReplayError String := do
  let normalized := (strip value).toLower
  raiseIf (isDigest normalized = false)
    (.validation (fieldName ++ " must be a lowercase SHA-256 digest"))
  return normalized

structure IsolatedCommandReplayRequest where
  command : List String
  workspaceContentDigest : String
  workingDirectory : String
  environment : List (String × String)
  timeoutS : Option ℚ
  requestDigest : String
deriving DecidableEq

namespace IsolatedCommandReplayRequest

def content (request : IsolatedCommandReplayRequest) : List (String × Json) :=
  [("command", texts request.command),
    ("workspace_content_digest", .str request.workspaceContentDigest),
    ("working_directory", .str request.workingDirectory),
    ("environment", .object (request.environment.map fun entry => (entry.1, .str entry.2))),
    ("timeout_s", request.timeoutS.elim .null .float)]

def dump (request : IsolatedCommandReplayRequest) : Json :=
  .object (request.content ++ [("request_digest", .str request.requestDigest)])

/-- `_request_shape` -/
def shape (request : IsolatedCommandReplayRequest) :
    List String × String × List (String × String) × Option ℚ :=
  (request.command, request.workingDirectory, request.environment, request.timeoutS)

/-- The request without its digest. -/
def unbound (request : IsolatedCommandReplayRequest) : IsolatedCommandReplayRequest :=
  { request with requestDigest := "" }

end IsolatedCommandReplayRequest

/-- The fields of a request, validated. -/
def validateFields (request : IsolatedCommandReplayRequest) :
    Except ReplayError IsolatedCommandReplayRequest := do
  let command ← validateCommand request.command
  let digest ← requireDigest request.workspaceContentDigest "workspace_content_digest"
  let workingDirectory ← validateWorkingDirectory request.workingDirectory
  let environment ← validateEnvironment U request.environment
  raiseIf (request.timeoutS.any (fun timeout => timeout ≤ 0 ∨ 3600 < timeout) = true)
    (.validation "timeout_s must be positive and at most 3600")
  return { request with
    command := command
    workspaceContentDigest := digest
    workingDirectory := workingDirectory
    environment := environment }

/-- `bind_request` -/
def bindRequest (request : IsolatedCommandReplayRequest) :
    Except ReplayError IsolatedCommandReplayRequest := do
  let computed :=
    ids.canonicalIdentityDigest "isolated-command-replay-request-v1" (.object request.content)
  raiseIf (request.requestDigest ≠ "" ∧ request.requestDigest ≠ computed)
    (.validation "isolated command replay request digest mismatch")
  let bound := { request with requestDigest := computed }
  raiseIf (isPublic U bound.dump = false)
    (.validation "isolated command replay request is not public")
  return bound

/-- `IsolatedCommandReplayRequest.model_validate` -/
def validateRequest (request : IsolatedCommandReplayRequest) :
    Except ReplayError IsolatedCommandReplayRequest := do
  let validated ← validateFields U request
  bindRequest ids U validated

/-- `IsolatedCommandReplayRequest.from_request` -/
def fromRequest (request : Option IsolatedCommandRequest) :
    Except ReplayError IsolatedCommandReplayRequest :=
  match request with
  | none => .error (.validation "invalid isolated command request")
  | some request =>
    match request.workspaceDigest with
    | none => .error (.validation "workspace snapshot failed")
    | some digest =>
      validateRequest ids U
        { command := request.command
          workspaceContentDigest := digest
          workingDirectory := request.workingDirectory
          environment := request.environment
          timeoutS := request.timeoutS
          requestDigest := "" }

end Validation

/-! ## Rows and manifests -/

structure IsolatedCommandReplayRow where
  sequenceNo : ℕ
  request : IsolatedCommandReplayRequest
  workspaceContentDigestAfter : String
  result : IsolatedCommandResult
  rowDigest : String
deriving DecidableEq

def IsolatedCommandReplayRow.content (row : IsolatedCommandReplayRow) : List (String × Json) :=
  [("sequence_no", .int row.sequenceNo), ("request", row.request.dump),
    ("workspace_content_digest_after", .str row.workspaceContentDigestAfter),
    ("result", row.result.dump)]

def IsolatedCommandReplayRow.dump (row : IsolatedCommandReplayRow) : Json :=
  .object (row.content ++ [("row_digest", .str row.rowDigest)])

/-- `IsolatedCommandReplayBinding`, as `model_validate` leaves it. -/
structure IsolatedCommandReplayBinding where
  releaseDigest : String
  epochId : String
  epochManifestDigest : String
  taskEnvelopeDigest : String
  workspaceSnapshotId : String
  workspaceSnapshotDigest : String
  commandPolicyDigest : String
deriving DecidableEq

def IsolatedCommandReplayBinding.dump (binding : IsolatedCommandReplayBinding) : Json :=
  .object
    [("release_digest", .str binding.releaseDigest), ("epoch_id", .str binding.epochId),
      ("epoch_manifest_digest", .str binding.epochManifestDigest),
      ("task_envelope_digest", .str binding.taskEnvelopeDigest),
      ("workspace_snapshot_id", .str binding.workspaceSnapshotId),
      ("workspace_snapshot_digest", .str binding.workspaceSnapshotDigest),
      ("command_policy_digest", .str binding.commandPolicyDigest)]

def isolatedCommandReplaySchemaVersion : String := "repo-repair-isolated-command-replay-v1"

structure IsolatedCommandReplayManifest where
  schemaVersion : String
  binding : IsolatedCommandReplayBinding
  rows : List IsolatedCommandReplayRow
  manifestDigest : String
deriving DecidableEq

def IsolatedCommandReplayManifest.content (manifest : IsolatedCommandReplayManifest) :
    List (String × Json) :=
  [("schema_version", .str manifest.schemaVersion), ("binding", manifest.binding.dump),
    ("rows", .array (manifest.rows.map (·.dump)))]

def IsolatedCommandReplayManifest.dump (manifest : IsolatedCommandReplayManifest) : Json :=
  .object (manifest.content ++ [("manifest_digest", .str manifest.manifestDigest)])

/-- Every row starts from the workspace that the row before it left. -/
def Chained (rows : List IsolatedCommandReplayRow) : Prop :=
  rows.IsChain fun previous current =>
    previous.workspaceContentDigestAfter = current.request.workspaceContentDigest

lemma chained_cons_cons {previous current : IsolatedCommandReplayRow}
    {rows : List IsolatedCommandReplayRow} :
    Chained (previous :: current :: rows) ↔
      previous.workspaceContentDigestAfter = current.request.workspaceContentDigest ∧
        Chained (current :: rows) := List.isChain_cons_cons

instance decidableChained : (rows : List IsolatedCommandReplayRow) → Decidable (Chained rows)
  | [] => .isTrue .nil
  | [row] => .isTrue (.singleton row)
  | _ :: current :: rows =>
    have := decidableChained (current :: rows)
    decidable_of_iff _ chained_cons_cons.symm

section Manifests

variable (ids : CommandIdentities) (U : UnicodeTables)

/-- What `bind_row` asks of the status, the exit code and the duration of a result. -/
def checkResult (request : IsolatedCommandReplayRequest) (result : IsolatedCommandResult) :
    Except ReplayError Unit := do
  raiseIf (result.status = .completed ∧ result.exitCode = none)
    (.validation "completed replay command requires an exit code")
  raiseIf ((result.status = .timedOut ∨ result.status = .launchFailed) ∧ result.exitCode ≠ none)
    (.validation "timed-out or launch-failed replay cannot claim an exit code")
  raiseIf (result.status = .outputLimit ∧ result.outputTruncated = false)
    (.validation "output-limit replay must record truncated output")
  raiseIf (result.status = .timedOut ∧ request.timeoutS.any (result.durationS < ·) = true)
    (.validation "timed-out replay duration precedes its request deadline")
  raiseIf (result.status ≠ .timedOut ∧ request.timeoutS.any (· < result.durationS) = true)
    (.validation "replay result duration exceeds the request deadline")

/-- `validate_workspace_digest_after` and `bind_row` -/
def bindRow (row : IsolatedCommandReplayRow) : Except ReplayError IsolatedCommandReplayRow := do
  let after ← requireDigest row.workspaceContentDigestAfter "workspace_content_digest_after"
  raiseIf (row.result.command ≠ row.request.command)
    (.validation "replay result command differs from its request")
  raiseIf (row.result.stdoutDigest ≠ ids.sha256Text row.result.stdout)
    (.validation "replay stdout digest differs from exact UTF-8 output")
  raiseIf (row.result.stderrDigest ≠ ids.sha256Text row.result.stderr)
    (.validation "replay stderr digest differs from exact UTF-8 output")
  checkResult row.request row.result
  let row := { row with workspaceContentDigestAfter := after }
  let computed :=
    ids.canonicalIdentityDigest "isolated-command-replay-row-v1" (.object row.content)
  raiseIf (row.rowDigest ≠ "" ∧ row.rowDigest ≠ computed)
    (.validation "isolated command replay row digest mismatch")
  let bound := { row with rowDigest := computed }
  raiseIf (isPublic U bound.dump = false) (.validation "isolated command replay row is not public")
  return bound

/-- `IsolatedCommandReplayRow.model_validate` -/
def validateRow (row : IsolatedCommandReplayRow) : Except ReplayError IsolatedCommandReplayRow := do
  let request ← validateRequest ids U row.request
  bindRow ids U { row with request := request }

/-- `validate_schema_version`, `min_length` and `bind_manifest` -/
def bindManifest (manifest : IsolatedCommandReplayManifest) :
    Except ReplayError IsolatedCommandReplayManifest := do
  raiseIf (manifest.schemaVersion ≠ isolatedCommandReplaySchemaVersion)
    (.validation ("unsupported isolated command replay schema " ++ quoted manifest.schemaVersion))
  raiseIf (manifest.rows = []) (.validation "Tuple should have at least 1 item after validation")
  raiseIf (manifest.rows.map (·.sequenceNo) ≠ List.range manifest.rows.length)
    (.validation "command replay rows must have contiguous ordered sequence numbers")
  raiseIf (¬Chained manifest.rows)
    (.validation "command replay workspace transition differs from the next request")
  let computed :=
    ids.canonicalIdentityDigest "isolated-command-replay-manifest-v1" (.object manifest.content)
  raiseIf (manifest.manifestDigest ≠ "" ∧ manifest.manifestDigest ≠ computed)
    (.validation "isolated command replay manifest digest mismatch")
  let bound := { manifest with manifestDigest := computed }
  raiseIf (isPublic U bound.dump = false)
    (.validation "isolated command replay manifest is not public")
  return bound

/-- `IsolatedCommandReplayManifest.model_validate` -/
def validateManifest (manifest : IsolatedCommandReplayManifest) :
    Except ReplayError IsolatedCommandReplayManifest := do
  let rows ← manifest.rows.mapM (validateRow ids U)
  bindManifest ids U { manifest with rows := rows }

end Manifests

/-! ## Recorder -/

structure IsolatedCommandReplayRecorder where
  rows : List IsolatedCommandReplayRow
  finalized : Bool

def IsolatedCommandReplayRecorder.empty : IsolatedCommandReplayRecorder := ⟨[], false⟩

section Recorder

variable (ids : CommandIdentities) (U : UnicodeTables)

def recorderFinalized : ReplayError :=
  .replay "recorder_finalized" "isolated command replay recorder is already finalized" none

/-- The rows after a request has been captured: the last one ends where the request starts. -/
def relink (rows : List IsolatedCommandReplayRow) (captured : IsolatedCommandReplayRequest) :
    Except ReplayError (List IsolatedCommandReplayRow) :=
  match rows.getLast? with
  | none => .ok rows
  | some previous =>
    if previous.workspaceContentDigestAfter = captured.workspaceContentDigest then .ok rows
    else do
      let row ← bindRow ids U
        { previous with
          workspaceContentDigestAfter := captured.workspaceContentDigest
          rowDigest := "" }
      return rows.dropLast ++ [row]

/-- The checks of `capture_request` under the lock, and the rows that it leaves. -/
def linkRows (recorder : IsolatedCommandReplayRecorder) (captured : IsolatedCommandReplayRequest) :
    Except ReplayError (IsolatedCommandReplayRequest × List IsolatedCommandReplayRow) := do
  raiseIf (recorder.finalized = true) recorderFinalized
  let rows ← relink ids U recorder.rows captured
  return (captured, rows)

/-- `capture_request` -/
def captureRequest (request : Option IsolatedCommandRequest) :
    Stateful IsolatedCommandReplayRecorder ReplayError IsolatedCommandReplayRequest := do
  let captured ← .check (fromRequest ids U request)
  let recorder ← .get
  let linked ← .check (linkRows ids U recorder captured)
  .modify fun recorder => { recorder with rows := linked.2 }
  return linked.1

/-- The workspace after a command: if none is given, the one before it. -/
def digestAfter (request : IsolatedCommandReplayRequest) :
    Option (Option String) → Except ReplayError String
  | none => .ok request.workspaceContentDigest
  | some none => .error (.validation "workspace snapshot failed")
  | some (some digest) => .ok digest

/-- The part of `record` before the lock, of a request that has been captured. -/
def normalizeCommand (request : IsolatedCommandReplayRequest)
    (result : Option IsolatedCommandResult) :
    Except ReplayError (IsolatedCommandReplayRequest × IsolatedCommandResult) := do
  let request ← validateRequest ids U request
  let result ← result.elim (.error (.validation "invalid isolated command result")) .ok
  return (request, result)

/-- The checks of `record` under the lock. -/
def nextRow (workspaceAfter : Option (Option String)) (recorder : IsolatedCommandReplayRecorder)
    (command : IsolatedCommandReplayRequest × IsolatedCommandResult) :
    Except ReplayError IsolatedCommandReplayRow := do
  raiseIf (recorder.finalized = true) recorderFinalized
  let after ← digestAfter command.1 workspaceAfter
  bindRow ids U
    { sequenceNo := recorder.rows.length
      request := command.1
      workspaceContentDigestAfter := after
      result := command.2
      rowDigest := "" }

/-- `record` -/
def record (request : IsolatedCommandReplayRequest) (result : Option IsolatedCommandResult)
    (workspaceAfter : Option (Option String)) :
    Stateful IsolatedCommandReplayRecorder ReplayError IsolatedCommandReplayRow := do
  let command ← .check (normalizeCommand ids U request result)
  let recorder ← .get
  let row ← .check (nextRow ids U workspaceAfter recorder command)
  .modify fun recorder => { recorder with rows := recorder.rows ++ [row] }
  return row

/-- A command as the runtime records it: captured, executed, recorded. -/
structure CommandRun where
  request : Option IsolatedCommandRequest
  result : Option IsolatedCommandResult
  workspaceAfter : Option (Option String)

def recordCommand (run : CommandRun) :
    Stateful IsolatedCommandReplayRecorder ReplayError IsolatedCommandReplayRow := do
  let captured ← captureRequest ids U run.request
  record ids U captured run.result run.workspaceAfter

/-- `finalize` -/
def finalize (binding : IsolatedCommandReplayBinding) :
    Stateful IsolatedCommandReplayRecorder ReplayError IsolatedCommandReplayManifest := do
  let recorder ← .get
  let manifest ← .check (bindManifest ids U
    { schemaVersion := isolatedCommandReplaySchemaVersion
      binding := binding
      rows := recorder.rows
      manifestDigest := "" })
  .modify fun recorder => { recorder with finalized := true }
  return manifest

end Recorder

/-! ## Backend -/

/-- What changes in an `IsolatedCommandReplayBackend`. -/
structure BackendState where
  cursor : ℕ
  cancelled : Bool
  physicalWorkspaceDigest : Option String
  virtualWorkspaceDigest : Option String
  /-- The digests before and after. -/
  lastWorkspaceTransition : Option (String × String)
deriving DecidableEq

def BackendState.empty : BackendState := ⟨0, false, none, none, none⟩

/-- `cancel` -/
def BackendState.cancel (state : BackendState) : BackendState := { state with cancelled := true }

section Backend

variable (ids : CommandIdentities) (U : UnicodeTables)

/-- `IsolatedCommandReplayBackend(manifest, expected_binding=...)`; its manifest. -/
def openBackend (manifest : IsolatedCommandReplayManifest)
    (expectedBinding : IsolatedCommandReplayBinding) :
    Except ReplayError IsolatedCommandReplayManifest := do
  let manifest ← validateManifest ids U manifest
  raiseIf (manifest.binding ≠ expectedBinding)
    (.replay "identity_mismatch"
      "command replay manifest differs from its runtime authority binding" none)
  return manifest

variable (manifest : IsolatedCommandReplayManifest)

/-- The start of `run`: the request, and the row at the cursor. -/
def selectRow (state : BackendState) (request : Option IsolatedCommandRequest) :
    Except ReplayError (IsolatedCommandReplayRequest × IsolatedCommandReplayRow) := do
  let replayRequest ← (fromRequest ids U request).mapError fun _ =>
    .replay "invalid_request" "isolated command replay request failed validation"
      (some state.cursor)
  raiseIf (state.cancelled = true)
    (.replay "cancelled" "isolated command replay was cancelled before dispatch"
      (some state.cursor))
  match manifest.rows[state.cursor]? with
  | some row => return (replayRequest, row)
  | none => .error (.replay "manifest_reused"
      "isolated command replay manifest was already fully consumed" (some state.cursor))

/-- The first request sets both workspace digests. -/
def BackendState.begin (state : BackendState) (physical expected : String) : BackendState :=
  match state.virtualWorkspaceDigest with
  | none =>
    { state with
      physicalWorkspaceDigest := some physical
      virtualWorkspaceDigest := some expected }
  | some _ => state

/-- The workspace digests of `run`: whether the request may go on, and how they change. -/
def trackWorkspace (state : BackendState) (physical expected : String) (sequenceNo : ℕ) :
    Except ReplayError Unit × BackendState :=
  let state := state.begin physical expected
  if state.cursor = 0 ∧ physical ≠ expected then
    (.error (.replay "workspace_state_mismatch"
      "isolated command replay initial workspace differs from its recording" (some sequenceNo)),
      state)
  else if physical = expected then
    (.ok (),
      { state with
        physicalWorkspaceDigest := some physical
        virtualWorkspaceDigest := some expected })
  else if state.physicalWorkspaceDigest = some physical ∧
      state.virtualWorkspaceDigest = some expected then
    (.ok (), state)
  else
    (.error (.replay "workspace_state_mismatch"
      "isolated command replay workspace crossed recorded or virtual state" (some sequenceNo)),
      state)

/-- The state once the row has been answered. -/
def BackendState.advance (state : BackendState) (row : IsolatedCommandReplayRow) : BackendState :=
  { state with
    cursor := state.cursor + 1
    lastWorkspaceTransition :=
      some (row.request.workspaceContentDigest, row.workspaceContentDigestAfter)
    virtualWorkspaceDigest := some row.workspaceContentDigestAfter }

/-- `run` -/
def run (request : Option IsolatedCommandRequest) :
    Stateful BackendState ReplayError IsolatedCommandResult := fun state =>
  match selectRow ids U manifest state request with
  | .error error => (.error error, state)
  | .ok (replayRequest, row) =>
    match trackWorkspace state replayRequest.workspaceContentDigest
        row.request.workspaceContentDigest row.sequenceNo with
    | (.error error, state) => (.error error, state)
    | (.ok (), state) =>
      if row.request.shape ≠ replayRequest.shape then
        (.error (.replay "request_mismatch"
          "isolated command request differs from the next replay row" (some row.sequenceNo)), state)
      else (.ok row.result, state.advance row)

/-- `assert_reconciled` -/
def assertReconciled (state : BackendState) : Except ReplayError ℕ := do
  let rowCount := manifest.rows.length
  let remaining := (manifest.rows.drop state.cursor).map (·.rowDigest)
  raiseIf (rowCount < state.cursor)
    (.validation "consumed command replay rows exceed the manifest")
  raiseIf (remaining.length ≠ rowCount - state.cursor)
    (.validation "remaining command replay rows do not reconcile")
  let _ ← requireDigest manifest.manifestDigest "manifest_digest"
  let _ ← remaining.mapM fun digest => requireDigest digest "row digest"
  raiseIf (state.cursor ≠ rowCount)
    (.replay "extra_rows" "command replay completed with unconsumed manifest rows"
      (some state.cursor))
  return state.cursor

end Backend

end Agintor.Isolation
