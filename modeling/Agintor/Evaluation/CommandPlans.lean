import Agintor.Core.Redaction
import Agintor.Isolation.CommandReplay

/-!
# The commands of an evaluation

`_command_environment` and `_command_plans` of `evaluation/harness_service.py` say which commands
an evaluation runs. `RepoPatchEvaluatorRunner.run` of `evaluation/runners/repo_patch_runner.py`
runs them through an `IsolatedRepoPatchCommandBackend`, as the requests of `isolation/commands.py`.
The submitted diff has passed `_prepare`: its target paths are declared, safe and unprotected.
What a request is about and what it does is on a disk; of the result of a command only the status
and the exit code are here.
-/

namespace Agintor.Evaluation.CommandPlans

open Lib Core

inductive EvaluationError
  /-- `HarnessEvaluationRejected` -/
  | rejected (code message : String)
  /-- `ValueError`, and the `ValidationError` of pydantic. -/
  | value (message : String)
  /-- What reading or writing the disk raises. -/
  | disk (message : String)
deriving DecidableEq

/-! ## Commands and fixtures -/

/-- `command: str | list[str]` -/
inductive CommandText
  | shell (text : String)
  | argv (parts : List String)
deriving DecidableEq

def CommandText.text : CommandText → String
  | .shell text => text
  | .argv parts => " ".intercalate parts

/-- A `RepoPatchCommand` that pydantic has validated. -/
structure RepoPatchCommand where
  name : String
  command : CommandText
  workingDirectory : String
  timeoutS : ℚ
  expectedExitCodes : List ℤ
  env : Dict String String
  timeout_pos : 0 < timeoutS
  codes_ne_nil : expectedExitCodes ≠ []
  codes_nodup : expectedExitCodes.Nodup
  /-- `fill_name` -/
  named : name = "" → command.text = ""

/-- A `RepoPatchFixture` that pydantic has validated. -/
structure RepoPatchFixture where
  expectedRepoSnapshotDigest : String
  authorityFixtureDigest : String
  evaluationContractDigest : String
  publicTestCommands : List RepoPatchCommand
  sealedTestCommands : List RepoPatchCommand
  commandEnv : Dict String String
  timeoutS : ℚ
  timeout_pos : 0 < timeoutS
  has_command : publicTestCommands ≠ [] ∨ sealedTestCommands ≠ []

/-- `[*fixture.public_test_commands, *fixture.sealed_test_commands]` -/
def RepoPatchFixture.commands (fixture : RepoPatchFixture) : List RepoPatchCommand :=
  fixture.publicTestCommands ++ fixture.sealedTestCommands

def hasNul (text : String) : Bool := text.toList.contains '\x00'

/-- Arguments that every check of arguments lets pass. -/
def isArgv (parts : List String) : Bool :=
  !parts.isEmpty && parts.all fun part => part != "" && !hasNul part

/-- `_fixed_argv` -/
def fixedArgv (value : List String) (name : String) : Except EvaluationError (List String) := do
  raiseIf (isArgv value = false)
    (.value (name ++ " must be non-empty argv with NUL-free arguments"))
  return value

/-- `IsolatedRepoPatchCommandBackend`, as far as it shapes commands. -/
structure CommandBackend where
  gitArgv : List String
  git_fixed : isArgv gitArgv = true

/-- `command_argv` -/
def commandArgv : CommandText → Except EvaluationError (List String)
  | .shell _ =>
    .error
      (.value "isolated repo-patch commands must be explicit argv; shell strings are forbidden")
  | .argv parts => fixedArgv parts "command"

/-- `(*git_argv, "apply", ...)` -/
def CommandBackend.applyArgv (backend : CommandBackend) : List String :=
  backend.gitArgv ++
    ["apply", "--whitespace=nowarn", "--", "../.agintor_evaluator_input/candidate.patch"]

/-! ## Directories -/

/-- The parts of `PurePosixPath(text)`. -/
def pathParts (text : List Char) : List (List Char) :=
  (text.splitOn '/').filter fun part => part ≠ [] ∧ part ≠ ['.']

/-- `PurePosixPath(text).as_posix()`, of a path that stays inside. -/
def insidePath (message : String) (text : List Char) : Except EvaluationError String := do
  raiseIf (text.head? = some '/' ∨ ∃ part ∈ pathParts text, part = ['.', '.']) (.value message)
  return if pathParts text = [] then "." else String.ofList (['/'].intercalate (pathParts text))

def orDot (text : List Char) : List Char := if text = [] then ['.'] else text

/-- `HarnessEvaluationCommandPlan.validate_working_directory` -/
def planDirectory (value : String) : Except EvaluationError String :=
  insidePath "dry-run working directory must stay inside the scratch mount"
    (orDot (Isolation.withSlashes (strip (if value = "" then "." else value)).toList))

/-- `IsolatedCommandRequest._validate_working_directory` -/
def requestDirectory (value : String) : Except EvaluationError String :=
  insidePath "working_directory must stay within the mounted workspace"
    (orDot (strip (String.ofList (Isolation.withSlashes value.toList))).toList)

/-- Where a command of the fixture runs, below the evaluation root. -/
def repoDirectory (workingDirectory : String) : String :=
  if workingDirectory = "." then "repo" else "repo/" ++ workingDirectory

/-! ## Environments -/

/-- `_ISOLATED_BASE_ENVIRONMENT`, and `_base_execution_env` of an isolated back end. -/
def isolatedBaseEnvironment : List (String × String) :=
  [("LANG", "C"), ("LC_ALL", "C"), ("PYTHONHASHSEED", "0"), ("TZ", "UTC")]

/-- `str.upper`, as far as it is about names of ASCII letters. -/
def upper (name : String) : String := String.ofList (Redaction.upper name.toList)

/-- `mapping.update(...)` -/
def update (mapping : Dict String String) (assignments : List (String × String)) :
    Dict String String :=
  assignments.foldl (fun mapping entry => mapping.set entry.1 entry.2) mapping

/-- `dict(...)` -/
def dictOf (assignments : List (String × String)) : Dict String String :=
  update .empty assignments

/-- The order of pairs. -/
def EntryLe (a b : String × String) : Prop := a.1 < b.1 ∨ a.1 = b.1 ∧ a.2 ≤ b.2

instance : DecidableRel EntryLe := fun a b =>
  inferInstanceAs (Decidable (a.1 < b.1 ∨ a.1 = b.1 ∧ a.2 ≤ b.2))

/-- `sorted(mapping.items())` -/
def sortedItems (mapping : Dict String String) : List (String × String) :=
  mapping.entries.insertionSort EntryLe

def isSecretName (name : String) : Bool :=
  Isolation.secretEnvMarkers.any fun marker => decide (marker.toList <:+: name.toList)

/-- One round of the loop of `_command_environment`. -/
def checkVariable (entry : String × String) : Except EvaluationError Unit := do
  raiseIf (Isolation.isEnvName entry.1 = false)
    (.rejected "command_environment_invalid"
      "evaluation command contains an invalid environment name")
  raiseIf (isSecretName entry.1 = true)
    (.rejected "command_environment_invalid"
      "evaluation command may not receive secret-bearing environment variables")
  raiseIf (hasNul entry.2 = true)
    (.rejected "command_environment_invalid" "evaluation command environment contains NUL")

def upperName (entry : String × String) : String × String := (upper entry.1, entry.2)

/-- The mapping that `_command_environment` checks. -/
def plannedVariables (fixture : RepoPatchFixture) (command : RepoPatchCommand) :
    Dict String String :=
  update
    (update (dictOf isolatedBaseEnvironment)
      (dictOf (fixture.commandEnv.entries.map upperName)).entries)
    (dictOf (command.env.entries.map upperName)).entries

/-- `_command_environment` -/
def commandEnvironment (U : Contracts.UnicodeTables) (fixture : RepoPatchFixture)
    (command : RepoPatchCommand) : Except EvaluationError (List (String × String)) := do
  let normalized := sortedItems (plannedVariables fixture command)
  normalized.forM checkVariable
  raiseIf (Contracts.noResolvedCredentials U
      (.object (normalized.map fun entry => (entry.1, .str entry.2))) = false)
    (.value "run evidence contains resolved credential material")
  return normalized

/-- The mapping that `_effective_command_env` sorts. -/
def effectiveVariables (fixture : RepoPatchFixture) (command : RepoPatchCommand) :
    Dict String String :=
  update (update (dictOf isolatedBaseEnvironment) fixture.commandEnv.entries) command.env.entries

/-- `_effective_command_env` -/
def effectiveCommandEnv (fixture : RepoPatchFixture) (command : RepoPatchCommand) :
    List (String × String) :=
  sortedItems (effectiveVariables fixture command)

/-- One round of the loop of `IsolatedCommandRequest._validate_environment`. The messages have the
name itself for its `repr`. -/
def requestVariable (normalized : Dict String String) (entry : String × String) :
    Except EvaluationError (Dict String String) := do
  let name := upper (strip entry.1)
  raiseIf (Isolation.isEnvName name = false)
    (.value ("invalid isolated environment variable name: " ++ name))
  raiseIf (isSecretName name = true)
    (.value ("secret-bearing environment variable is forbidden in command container: " ++ name))
  raiseIf (hasNul entry.2 = true) (.value ("environment value for " ++ name ++ " contains NUL"))
  return normalized.set name entry.2

/-- `IsolatedCommandRequest._validate_environment` -/
def requestEnvironment (environment : List (String × String)) :
    Except EvaluationError (List (String × String)) := do
  let normalized ← environment.foldlM requestVariable .empty
  return sortedItems normalized

/-! ## The plan -/

inductive Phase
  | patchApply
  | publicCheck
  | sealedCheck
deriving DecidableEq

/-- What plan and execution have in common. -/
structure CommandLine where
  argv : List String
  workingDirectory : String
  environment : List (String × String)
  timeoutS : ℚ
  expectedExitCodes : List ℤ
deriving DecidableEq

structure HarnessEvaluationCommandPlan extends CommandLine where
  phase : Phase
  name : String
deriving DecidableEq

/-- `HarnessEvaluationCommandPlan(...)` -/
def makePlan (phase : Phase) (name : String) (line : CommandLine) :
    Except EvaluationError HarnessEvaluationCommandPlan := do
  raiseIf (name = "") (.value "String should have at least 1 character")
  raiseIf (isArgv line.argv = false)
    (.value "dry-run argv must contain nonempty NUL-free arguments")
  let workingDirectory ← planDirectory line.workingDirectory
  raiseIf (line.timeoutS ≤ 0) (.value "Input should be greater than 0")
  raiseIf (line.expectedExitCodes = [] ∨ ¬line.expectedExitCodes.Nodup)
    (.value "dry-run expected exit codes must be unique")
  return { line with phase := phase, name := name, workingDirectory := workingDirectory }

section Plan

variable (U : Contracts.UnicodeTables) (backend : CommandBackend) (fixture : RepoPatchFixture)

def applyLine : CommandLine where
  argv := backend.applyArgv
  workingDirectory := "repo"
  environment := isolatedBaseEnvironment
  timeoutS := fixture.timeoutS
  expectedExitCodes := [0]

/-- One round of the loop of `_command_plans`. -/
def commandPlan (phase : Phase) (command : RepoPatchCommand) :
    Except EvaluationError HarnessEvaluationCommandPlan := do
  let argv ← commandArgv command.command
  let environment ← commandEnvironment U fixture command
  makePlan phase command.name
    ⟨argv, repoDirectory command.workingDirectory, environment, command.timeoutS,
      command.expectedExitCodes⟩

/-- `_command_plans` -/
def commandPlans : Except EvaluationError (List HarnessEvaluationCommandPlan) := do
  let apply ← makePlan .patchApply "apply_patch" (applyLine backend fixture)
  let checks ← fixture.publicTestCommands.mapM (commandPlan U fixture .publicCheck)
  let sealedChecks ← fixture.sealedTestCommands.mapM (commandPlan U fixture .sealedCheck)
  return apply :: (checks ++ sealedChecks)

end Plan

/-! ## The back end and the disk -/

/-- An `IsolatedCommandRequest` for the workspace of the evaluation. -/
structure IsolatedCommandRequest where
  command : List String
  workingDirectory : String
  environment : List (String × String)
  timeoutS : ℚ
deriving DecidableEq

/-- `IsolatedCommandRequest(...)` -/
def makeRequest (line : CommandLine) : Except EvaluationError IsolatedCommandRequest := do
  raiseIf (isArgv line.argv = false)
    (.value "isolated command arguments must be non-empty and NUL-free")
  let workingDirectory ← requestDirectory line.workingDirectory
  let environment ← requestEnvironment line.environment
  raiseIf (line.timeoutS ≤ 0 ∨ 3600 < line.timeoutS)
    (.value "Input should be less than or equal to 3600")
  return ⟨line.argv, workingDirectory, environment, line.timeoutS⟩

structure IsolatedCommandResult where
  status : Isolation.IsolatedCommandStatus
  exitCode : Option ℤ

/-- `last_workspace_transition` -/
structure WorkspaceTransition where
  source : String
  before : String
  after : String

/-- The disk and the back end during an evaluation. Both may be in any state of `σ`, and the back
end may change it in any way. -/
structure World (σ : Type) where
  /-- `repo_snapshot_digest(snapshot_root)` -/
  sourceDigest : σ → Except EvaluationError String
  /-- `repo_snapshot_digest(clean_root)` -/
  copyDigest : σ → Except EvaluationError String
  /-- `protected_path_digest(clean_root, fixture.protected_paths)` -/
  protectedDigest : σ → Except EvaluationError (Dict String String)
  /-- `repo_patch_fixture_digest` -/
  fixtureDigest : σ → Except EvaluationError String
  /-- `shutil.copytree` -/
  copySnapshot : σ → Except EvaluationError σ
  /-- `patch_path.write_bytes`, with the directory made for it. -/
  writeCandidate : σ → Except EvaluationError σ
  /-- `IsolatedCommandRequest._validate_workspace` -/
  validateWorkspace : σ → Except EvaluationError Unit
  /-- `prepare_container_mount_tree`, which changes nothing when it raises. -/
  prepareMount : σ → Except EvaluationError σ
  /-- `command_backend.run` -/
  run : IsolatedCommandRequest → σ → Except EvaluationError IsolatedCommandResult × σ
  lastWorkspaceTransition : σ → Option WorkspaceTransition
  copyDigest_ne : ∀ s, copyDigest s ≠ .ok ""
  copySnapshot_source : ∀ s s', copySnapshot s = .ok s' → sourceDigest s' = sourceDigest s
  writeCandidate_source : ∀ s s', writeCandidate s = .ok s' → sourceDigest s' = sourceDigest s
  writeCandidate_protected :
    ∀ s s', writeCandidate s = .ok s' → protectedDigest s' = protectedDigest s

/-- A request that the back end has run: what it gave or raised, and the disk before the evaluator
prepared the request and after the back end was done. -/
structure Sent (σ : Type) where
  request : IsolatedCommandRequest
  expectedExitCodes : List ℤ
  result : Except EvaluationError IsolatedCommandResult
  before : σ
  after : σ

structure Machine (σ : Type) where
  disk : σ
  sent : List (Sent σ)

/-- A `RepoPatchCommandResult`. -/
structure RepoPatchCommandResult where
  exitCode : ℤ
  expectedExitCodes : List ℤ
  workspaceDigestBefore : String
  workspaceDigestAfter : String
deriving DecidableEq

/-- `_failed_result` -/
def failedResult : RepoPatchCommandResult := ⟨1, [0], "", ""⟩

/-- The `LAUNCH_FAILED` result of `_execute`. -/
def launchFailed : IsolatedCommandResult := ⟨.launchFailed, none⟩

/-- The exit code in `_command_result_from_backend`. -/
def IsolatedCommandResult.code (result : IsolatedCommandResult) : ℤ :=
  match result.exitCode with
  | some code => code
  | none =>
    match result.status with
    | .timedOut => 124
    | .outputLimit => 125
    | .launchFailed => 126
    | .completed => 125

/-- The exit code that the evaluator takes for what the back end gave or raised. -/
def exitCodeOf : Except EvaluationError IsolatedCommandResult → ℤ
  | .ok result => result.code
  | .error _ => launchFailed.code

/-- `_last_workspace_transition` -/
def fullTransition (transition : Option WorkspaceTransition) : Option WorkspaceTransition :=
  transition.filter fun t => t.before != "" && t.after != "" && t.source != ""

/-- `_authoritative_workspace_transition`: the digests before and after. -/
def authoritativeWorkspaceTransition (transition : Option WorkspaceTransition)
    (physicalBefore physicalAfter : String) : String × String :=
  match fullTransition transition with
  | some t => if t.source = "replay_manifest" then (t.before, t.after)
    else (physicalBefore, physicalAfter)
  | none => (physicalBefore, physicalAfter)

/-! ## Execution -/

section Execution

variable {σ : Type} (world : World σ)

def setDisk (disk : σ) (m : Machine σ) : Machine σ := { m with disk := disk }

/-- The inner `try` of `_execute`: the exit code of a request that is sent, or could not be. -/
def launch (request : IsolatedCommandRequest) (expectedExitCodes : List ℤ) (before : σ) :
    Stateful (Machine σ) EvaluationError ℤ := fun m =>
  match world.prepareMount m.disk with
  | .error _ => (.ok launchFailed.code, m)
  | .ok prepared =>
    let outcome := world.run request prepared
    (.ok (exitCodeOf outcome.1),
      { disk := outcome.2
        sent := m.sent ++ [⟨request, expectedExitCodes, outcome.1, before, outcome.2⟩] })

/-- `_execute` -/
def execute (line : CommandLine) :
    Stateful (Machine σ) EvaluationError RepoPatchCommandResult := do
  let request ← Stateful.check (makeRequest line)
  let m ← Stateful.get
  Stateful.check (world.validateWorkspace m.disk)
  let physicalBefore ← Stateful.check (world.copyDigest m.disk)
  let code ← launch world request line.expectedExitCodes m.disk
  let m ← Stateful.get
  let physicalAfter ← Stateful.check (world.copyDigest m.disk)
  let digests := authoritativeWorkspaceTransition (world.lastWorkspaceTransition m.disk)
    physicalBefore physicalAfter
  return ⟨code, line.expectedExitCodes, digests.1, digests.2⟩

/-- `_apply_candidate_patch`, of a diff that `_prepare` has passed. Whatever is raised inside ends
in a failed result. -/
def applyCandidatePatch (backend : CommandBackend) (fixture : RepoPatchFixture) :
    Stateful (Machine σ) EvaluationError RepoPatchCommandResult :=
  Stateful.recover (do
    let m ← Stateful.get
    let written ← Stateful.check (world.writeCandidate m.disk)
    Stateful.modify (setDisk written)
    execute world (applyLine backend fixture)) fun _ => failedResult

/-- `_run_command` -/
def runCommand (fixture : RepoPatchFixture) (command : RepoPatchCommand) :
    Stateful (Machine σ) EvaluationError RepoPatchCommandResult := do
  let argv ← Stateful.check (commandArgv command.command)
  execute world
    ⟨argv, repoDirectory command.workingDirectory, effectiveCommandEnv fixture command,
      command.timeoutS, command.expectedExitCodes⟩

/-- What later scans are compared with. -/
structure Baseline where
  repoDigest : String
  protectedBefore : Dict String String
  patchedCleanDigest : String

/-- What the scans have found so far. -/
structure Scans where
  tamperedPaths : List String
  sourceIntegrityScans : List String
  /-- The `matched` of every `workspace_drift_evidence`. -/
  matched : List Bool

/-- `_changed_protected_paths` -/
def changedProtectedPaths (before after : Dict String String) : List String :=
  ((before.keys ++ after.keys).dedup.insertionSort (· ≤ ·)).filter fun key =>
    (before.get? key).getD "" ≠ (after.get? key).getD ""

/-- The scans of the source and of the protected paths after a command. -/
def scanAfter (protectedBefore : Dict String String) (scans : Scans) :
    Stateful (Machine σ) EvaluationError Scans := do
  let m ← Stateful.get
  let source ← Stateful.check (world.sourceDigest m.disk)
  let protectedNow ← Stateful.check (world.protectedDigest m.disk)
  return { scans with
    tamperedPaths := scans.tamperedPaths ++ changedProtectedPaths protectedBefore protectedNow
    sourceIntegrityScans := scans.sourceIntegrityScans ++ [source] }

/-- The `matched` of `_workspace_integrity_check`. -/
def workspaceMatches (expected : String) (result : RepoPatchCommandResult) : Bool :=
  expected != "" && result.workspaceDigestAfter == expected &&
    result.workspaceDigestBefore == expected

/-- What ends a loop over commands. -/
def Scans.Stops (base : Baseline) (scans : Scans) : Prop :=
  scans.tamperedPaths ≠ [] ∨ scans.sourceIntegrityScans.getLast? ≠ some base.repoDigest ∨
    false ∈ scans.matched

instance (base : Baseline) (scans : Scans) : Decidable (scans.Stops base) :=
  inferInstanceAs (Decidable (_ ∨ _ ∨ _))

/-- `source_unchanged_so_far`, and no path tampered with. -/
def Scans.Unchanged (repoDigest : String) (scans : Scans) : Prop :=
  scans.tamperedPaths = [] ∧ ∀ digest ∈ scans.sourceIntegrityScans, digest = repoDigest

instance (repoDigest : String) (scans : Scans) : Decidable (scans.Unchanged repoDigest) :=
  inferInstanceAs (Decidable (_ ∧ _))

/-- Moreover no `_workspace_drift_detected`. -/
def Scans.Quiet (base : Baseline) (scans : Scans) : Prop :=
  scans.Unchanged base.repoDigest ∧ false ∉ scans.matched

instance (base : Baseline) (scans : Scans) : Decidable (scans.Quiet base) :=
  inferInstanceAs (Decidable (_ ∧ _))

/-- The loop over the public or the sealed commands. -/
def runCommands (fixture : RepoPatchFixture) (base : Baseline) :
    List RepoPatchCommand → Scans →
      Stateful (Machine σ) EvaluationError (List RepoPatchCommandResult × Scans)
  | [], scans => return ([], scans)
  | command :: commands, scans => do
    let result ← runCommand world fixture command
    let scans ← scanAfter world base.protectedBefore
      { scans with matched := scans.matched ++ [workspaceMatches base.patchedCleanDigest result] }
    if scans.Stops base then
      return ([result], scans)
    let rest ← runCommands fixture base commands scans
    return (result :: rest.1, rest.2)

/-- `_validate_fixture_authority` -/
def validateFixtureAuthority (fixture : RepoPatchFixture) : Except EvaluationError Unit :=
  raiseIf (fixture.expectedRepoSnapshotDigest = "" ∨ fixture.authorityFixtureDigest = "" ∨
      fixture.evaluationContractDigest = "")
    (.value "isolated repo-patch evaluation requires evaluator-owned fixture authority")

/-- The public commands and, if none of them is missing or has changed anything, the sealed ones. -/
def runChecks (fixture : RepoPatchFixture) (base : Baseline) (scans : Scans) :
    Stateful (Machine σ) EvaluationError (List RepoPatchCommandResult × Scans) := do
  let checks ← if scans.Unchanged base.repoDigest then
      runCommands world fixture base fixture.publicTestCommands scans
    else pure ([], scans)
  if checks.1.length = fixture.publicTestCommands.length ∧ checks.2.Quiet base then
    let sealedChecks ← runCommands world fixture base fixture.sealedTestCommands checks.2
    return (checks.1 ++ sealedChecks.1, sealedChecks.2)
  else return checks

/-- What `RepoPatchEvaluatorRunner.run` does once the patch was tried. -/
def runPhases (fixture : RepoPatchFixture) (repoDigest : String)
    (protectedBefore : Dict String String) (patchApply : RepoPatchCommandResult) :
    Stateful (Machine σ) EvaluationError (List RepoPatchCommandResult) := do
  let scans ← scanAfter world protectedBefore ⟨[], [repoDigest], []⟩
  if patchApply.exitCode = 0 then
    let m ← Stateful.get
    let patchedCleanDigest ← if patchApply.workspaceDigestAfter = "" then
        Stateful.check (world.copyDigest m.disk)
      else pure patchApply.workspaceDigestAfter
    let matched := patchedCleanDigest != "" &&
      patchApply.workspaceDigestAfter == patchedCleanDigest
    let checks ← runChecks world fixture ⟨repoDigest, protectedBefore, patchedCleanDigest⟩
      { scans with matched := [matched] }
    return checks.1
  else return []

/-- `_validate_command_shapes` -/
def checkShapes (fixture : RepoPatchFixture) : Except EvaluationError Unit :=
  fixture.commands.forM fun command => discard (commandArgv command.command)

/-- What `RepoPatchEvaluatorRunner.run` does before the patch is tried: the digests of the source
and of the protected paths, and whether the patch is to be tried. -/
def prepareCopy (fixture : RepoPatchFixture) :
    Stateful (Machine σ) EvaluationError (String × Dict String String × Bool) := do
  Stateful.check (checkShapes fixture)
  Stateful.check (validateFixtureAuthority fixture)
  let m ← Stateful.get
  let repoDigest ← Stateful.check (world.sourceDigest m.disk)
  let fixtureDigest ← Stateful.check (world.fixtureDigest m.disk)
  let copied ← Stateful.check (world.copySnapshot m.disk)
  Stateful.modify (setDisk copied)
  let cleanBefore ← Stateful.check (world.copyDigest copied)
  let protectedBefore ← Stateful.check (world.protectedDigest copied)
  let scratchMatched := cleanBefore == repoDigest
  let fixtureIdentityMatched :=
    (fixture.expectedRepoSnapshotDigest == "" ||
      fixture.expectedRepoSnapshotDigest == repoDigest) &&
      (fixture.authorityFixtureDigest == "" || fixture.authorityFixtureDigest == fixtureDigest)
  return (repoDigest, protectedBefore, scratchMatched && fixtureIdentityMatched)

/-- `RepoPatchEvaluatorRunner.run`, up to the digests and the verdict that it ends with. -/
def run (backend : CommandBackend) (fixture : RepoPatchFixture) :
    Stateful (Machine σ) EvaluationError
      (RepoPatchCommandResult × List RepoPatchCommandResult) := do
  let (repoDigest, protectedBefore, matched) ← prepareCopy world fixture
  let patchApply ← if matched then applyCandidatePatch world backend fixture else pure failedResult
  let checks ← runPhases world fixture repoDigest protectedBefore patchApply
  return (patchApply, checks)

end Execution

end Agintor.Evaluation.CommandPlans
