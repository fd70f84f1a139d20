import Agintor.Core.Json
import Agintor.Lib.Stateful
import Agintor.Storage.FactoryChatStore

/-!
# Messages of a factory project

`apply_factory_message` of `factory/followups.py`: the first message of a project builds a runtime
into the project directory and creates its chat; a later one builds a runtime elsewhere, puts it in
the place of the old one and records a message. A process can die before the replacement, before the
chat is created and before every step that records a message.

A build is given by its outcome; reading the prior goal and finding the seed are part of it. Left
out: what is in the staging directory besides the runtime, and the trace context.
-/

namespace Agintor.Factory

open Core Lib Storage.FactoryChat

/-- `str.lower`, and `stable_hash`. -/
structure FactoryHost where
  lower : String → String
  stableHash : Json → String
  lower_lower : ∀ s, lower (lower s) = lower s
  strip_lower : ∀ s, strip (lower s) = lower (strip s)
  isDigest_stableHash : ∀ value, isDigest (stableHash value) = true

/-- A runtime profile: the name of its provider, and `runtime_profile_payload`. -/
structure RuntimeProfile where
  runtimeProvider : String
  payload : Json

/-- A runtime directory: what reading its profile file gives, if it has one, and what `load_runtime`
gives as its hash under a profile and a backend. -/
structure RuntimeDir where
  profileFile : Option (Except ChatError RuntimeProfile)
  runtimeHash : RuntimeProfile → String → Except ChatError String

/-- A project directory. -/
structure Project where
  runtime : RuntimeDir
  chat : ChatFiles

/-- A provider, which may have no attribute `provider_name`. -/
structure ModelProvider where
  providerName : Option String
  className : String

/-- What does not change between the messages of a project. -/
structure Settings where
  provider : ModelProvider
  runtimeBackend : Option String
  runtimeKind : String
  defaultProfile : RuntimeProfile

/-- The files of a build that a message keeps; `deploymentContract` lies beside the runtime plan. -/
structure PlanningFiles where
  goalSpec : ArtifactSource
  successCriteria : ArtifactSource
  benchmarkPlan : ArtifactSource
  verifierBundle : ArtifactSource
  runtimePlan : ArtifactSource
  deploymentContract : ArtifactSource
  exportSummary : ArtifactSource
  buildSummary : ArtifactSource
  signalSufficiency : ArtifactSource
  goalSpec_path : goalSpec.path ≠ ""

/-- What a build exports. -/
structure Export where
  runtime : RuntimeDir
  runtimeKind : String
  files : PlanningFiles

/-- The outcome of a build; one that does not return leaves anything in its destination. -/
inductive BuildOutcome
  | returned (built : Export)
  | raised (e : ChatError) (left : RuntimeDir)
  | died (left : RuntimeDir)

structure BuiltRuntimeResult where
  agintorProvider : String
  runtimeProvider : String
  runtimeKind : String
  files : PlanningFiles

inductive FactoryStep
  | replaceRuntime
  | createChat
  | recordMessage (step : ChatStep)
deriving DecidableEq

/-- A call of `apply_factory_message`: its own arguments, the names it allocates, the outcome of its
build, and the step before which the process dies. -/
structure FactoryCall where
  instruction : String
  profilePath : Option (Except ChatError RuntimeProfile)
  chatId : String
  messageId : PathComponent
  createdAt : ℚ
  stagingDir : String
  suffix : String
  build : BuildOutcome
  crash : Option FactoryStep

/-- `x or y` -/
def orElse (x y : String) : String := if x = "" then y else x

/-- `canonical_goal_prompt` -/
def canonicalGoalPrompt (goalPrompt : String) : String :=
  strip (" ".intercalate
    (((goalPrompt.toList.splitOnP isSpace).filter (· ≠ [])).map String.ofList))

/-- `_factory_message_artifacts` -/
def factoryMessageArtifacts (files : PlanningFiles) : Dict ArtifactField ArtifactSource :=
  ((((((((Dict.empty.set .goalSpecPath files.goalSpec).set
    .successCriteriaPath files.successCriteria).set
    .benchmarkPlanPath files.benchmarkPlan).set
    .verifierBundlePath files.verifierBundle).set
    .runtimePlanPath files.runtimePlan).set
    .deploymentContractPath files.deploymentContract).set
    .exportSummaryPath files.exportSummary).set
    .buildSummaryPath files.buildSummary).set
    .signalSufficiencyPath files.signalSufficiency

/-- `_validate_factory_planning_artifacts` -/
def validateFactoryPlanningArtifacts (artifacts : Dict ArtifactField ArtifactSource) :
    Except ChatError Unit :=
  (artifacts.entries.filter fun a => a.2.path ≠ "").forM fun a => raiseIf (a.2.isFile = false)
    ("factory planning artifact " ++ quoted a.1.name ++ " is missing at " ++ a.2.path)

section Calls

variable (H : FactoryHost) (S : FactoryChatStore) (settings : Settings)

/-! ## What is pinned -/

/-- `_provider_name` -/
def providerName (provider : ModelProvider) : String :=
  H.lower (strip (orElse (provider.providerName.getD "") provider.className))

/-- The name under which the pipeline knows the provider. -/
def pipelineProviderName (provider : ModelProvider) : String :=
  provider.providerName.getD (H.lower provider.className)

/-- `_runtime_profile_hash` -/
def runtimeProfileHash (profile : RuntimeProfile) : String := H.stableHash profile.payload

/-- `_load_project_runtime_profile` -/
def loadProjectRuntimeProfile (projectPath : String) (runtime : RuntimeDir) :
    Except ChatError RuntimeProfile :=
  match runtime.profileFile with
  | none => .error ("factory project runtime profile is missing at " ++ projectPath ++
      "/runtime_profile.json; cannot continue this factory chat")
  | some profile => profile

/-- `_load_current_runtime_hash` -/
def loadCurrentRuntimeHash (runtimeDir : String) (runtime : RuntimeDir) (profile : RuntimeProfile)
    (backend : String) : Except ChatError String :=
  match runtime.runtimeHash profile backend with
  | .error _ => .error ("factory project runtime at " ++ runtimeDir ++
      " could not be loaded to validate its pinned runtime hash")
  | .ok runtimeHash => do
    raiseIf (strip runtimeHash = "") ("factory project runtime at " ++ runtimeDir ++
      " did not report a runtime hash")
    return strip runtimeHash

/-- The backend of a call. -/
def effectiveBackend (chat : Option FactoryChatIdentity) : String :=
  H.lower (strip (orElse (settings.runtimeBackend.getD "")
    (match chat with
    | some identity => identity.runtimeBackend
    | none => "local")))

/-- The runtime kind of a call. -/
def effectiveRuntimeKind (chat : Option FactoryChatIdentity) : String :=
  match chat with
  | some identity =>
    if orElse settings.runtimeKind "policy_modules" = "policy_modules" then
      strip (orElse identity.runtimeKind "policy_modules")
    else strip (orElse settings.runtimeKind "policy_modules")
  | none => strip (orElse settings.runtimeKind "policy_modules")

/-- The checks of a follow-up against what the chat is pinned to. -/
def checkPins (chat : FactoryChatIdentity) (profile : RuntimeProfile) : Except ChatError Unit := do
  let pinned := "factory chat " ++ quoted chat.chatId ++ " is pinned to "
  let storedBackend := H.lower (strip chat.runtimeBackend)
  let storedRuntimeProvider := H.lower (strip chat.runtimeProvider)
  let storedAgintorProvider := H.lower (strip chat.agintorProvider)
  let storedRuntimeKind := strip (orElse chat.runtimeKind "policy_modules")
  let storedProfileHash := strip chat.runtimeProfileHash
  raiseIf (storedProfileHash = "") ("factory chat " ++ quoted chat.chatId ++
    " has incomplete runtime profile pinning; start a new project")
  raiseIf (runtimeProfileHash H profile ≠ storedProfileHash) (pinned ++ "runtime profile hash " ++
    quoted storedProfileHash ++ "; current project profile reports " ++
    quoted (runtimeProfileHash H profile))
  raiseIf (effectiveBackend H settings (some chat) ≠ storedBackend) (pinned ++ "runtime backend " ++
    quoted storedBackend ++ "; got " ++ quoted (effectiveBackend H settings (some chat)))
  raiseIf (effectiveRuntimeKind settings (some chat) ≠ storedRuntimeKind) (pinned ++
    "runtime kind " ++ quoted storedRuntimeKind ++ "; start a new factory chat to use " ++
    quoted (effectiveRuntimeKind settings (some chat)))
  raiseIf (H.lower (strip profile.runtimeProvider) ≠ storedRuntimeProvider) (pinned ++
    "runtime provider " ++ quoted storedRuntimeProvider ++ "; got " ++
    quoted (H.lower (strip profile.runtimeProvider)))
  raiseIf (providerName H settings.provider ≠ storedAgintorProvider) (pinned ++
    "Agintor provider " ++ quoted storedAgintorProvider ++ "; got " ++
    quoted (providerName H settings.provider))

/-- What a follow-up finds in its project. -/
structure Prior where
  profile : RuntimeProfile
  message : FactoryMessage
  messageIndex : ℤ

/-- The entry checks of a follow-up. -/
def enterFollowup (project : Project) (chat : FactoryChatIdentity) (c : FactoryCall) :
    Except ChatError Prior := do
  raiseIf c.profilePath.isSome ("factory follow-ups use the runtime profile pinned in the " ++
    "project; start a new project to use a different profile")
  let profile ← loadProjectRuntimeProfile S.projectDir project.runtime
  checkPins H settings chat profile
  let missing := "factory chat at " ++ S.manifestPath ++ " has no recorded prior message; " ++
    "cannot apply a follow-up instruction"
  match ← S.latestMessage project.chat with
  | none => .error missing
  | some message =>
    raiseIf (message.goalSpecPath = "") missing
    let current ← loadCurrentRuntimeHash S.projectDir project.runtime profile
      (H.lower (strip chat.runtimeBackend))
    raiseIf (strip message.leaderRuntimeHash ≠ "" ∧ current ≠ strip message.leaderRuntimeHash)
      ("factory chat " ++ quoted chat.chatId ++ " is pinned to runtime hash " ++
        quoted message.leaderRuntimeHash ++ "; current project runtime reports " ++ quoted current)
    let messageIndex ← S.nextMessageIndex project.chat
    return ⟨profile, message, messageIndex⟩

/-! ## Builds -/

/-- The result of `_run_factory_pipeline` for a profile. -/
def Export.result (profile : RuntimeProfile) (built : Export) : BuiltRuntimeResult where
  agintorProvider := pipelineProviderName H settings.provider
  runtimeProvider := profile.runtimeProvider
  runtimeKind := built.runtimeKind
  files := built.files

/-- The checks of a follow-up on what its build has left in the staging directory. -/
def checkFollowupBuild (stagingDir : String) (chat : FactoryChatIdentity) (built : Export) :
    Except ChatError String := do
  validateFactoryPlanningArtifacts (factoryMessageArtifacts built.files)
  let postProfile ← loadProjectRuntimeProfile stagingDir built.runtime
  let storedProfileHash := strip chat.runtimeProfileHash
  raiseIf (runtimeProfileHash H postProfile ≠ storedProfileHash) ("factory follow-up for chat " ++
    quoted chat.chatId ++ " changed the pinned runtime profile from " ++ quoted storedProfileHash ++
    " to " ++ quoted (runtimeProfileHash H postProfile))
  loadCurrentRuntimeHash stagingDir built.runtime postProfile (H.lower (strip chat.runtimeBackend))

/-- The checks of a follow-up on the project directory once the runtime has been replaced. -/
def checkCommitted (chat : FactoryChatIdentity) (runtime : RuntimeDir) (postRuntimeHash : String) :
    Except ChatError Unit := do
  let committedProfile ← loadProjectRuntimeProfile S.projectDir runtime
  let storedProfileHash := strip chat.runtimeProfileHash
  raiseIf (runtimeProfileHash H committedProfile ≠ storedProfileHash)
    ("factory follow-up for chat " ++ quoted chat.chatId ++ " committed runtime profile " ++
      quoted (runtimeProfileHash H committedProfile) ++ ", expected " ++ quoted storedProfileHash)
  let committedHash ← loadCurrentRuntimeHash S.projectDir runtime committedProfile
    (H.lower (strip chat.runtimeBackend))
  raiseIf (committedHash ≠ postRuntimeHash) ("factory follow-up for chat " ++
    quoted chat.chatId ++ " committed runtime hash " ++ quoted committedHash ++ ", expected " ++
    quoted postRuntimeHash)

/-- The checks after the first build: the exported profile, and the hash of the runtime. -/
def checkInitialBuild (built : Export) : Except ChatError (RuntimeProfile × String) := do
  validateFactoryPlanningArtifacts (factoryMessageArtifacts built.files)
  let exportedProfile ← loadProjectRuntimeProfile S.projectDir built.runtime
  let exportedHash ← loadCurrentRuntimeHash S.projectDir built.runtime exportedProfile
    (effectiveBackend H settings none)
  return (exportedProfile, exportedHash)

/-- The identity that `create_chat` writes for the result of the first build. -/
def newIdentity (chatId : String) (result : BuiltRuntimeResult) (exportedProfile : RuntimeProfile) :
    FactoryChatIdentity where
  chatId := chatId
  runtimeProvider := strip result.runtimeProvider
  agintorProvider := strip result.agintorProvider
  runtimeBackend := strip (orElse (effectiveBackend H settings none) "local")
  runtimeKind := strip (orElse result.runtimeKind "policy_modules")
  runtimeProfileHash := strip (runtimeProfileHash H exportedProfile)

/-! ## Calls -/

abbrev ProjectProg := Stateful Project (Stop ChatError)

/-- A check, which raises. -/
def checking {α : Type} (x : Except ChatError α) : ProjectProg α :=
  Stateful.check (x.mapError .raised)

/-- The process dies here if it is to die before `step`. -/
def reach (c : FactoryCall) (step : FactoryStep) : ProjectProg Unit :=
  if c.crash = some step then Stateful.raise .killed else pure ()

def setRuntime (runtime : RuntimeDir) : ProjectProg Unit :=
  Stateful.modify fun project => { project with runtime := runtime }

/-- A message and the artifacts that it keeps. -/
structure Draft where
  message : FactoryMessage
  artifacts : Dict ArtifactField ArtifactSource

def followupDraft (chat : FactoryChatIdentity) (c : FactoryCall) (prior : Prior) (built : Export)
    (postRuntimeHash : String) : Draft where
  message :=
    { messageId := c.messageId
      messageIndex := prior.messageIndex
      parentMessageId := some prior.message.messageId.text
      chatId := chat.chatId
      prompt := canonicalGoalPrompt c.instruction
      createdAt := c.createdAt
      leaderRuntimeHash := postRuntimeHash }
  artifacts := factoryMessageArtifacts built.files

def initialDraft (c : FactoryCall) (built : Export) (exportedHash : String) : Draft where
  message :=
    { messageId := c.messageId
      messageIndex := 0
      parentMessageId := none
      chatId := strip c.chatId
      prompt := canonicalGoalPrompt c.instruction
      createdAt := c.createdAt
      leaderRuntimeHash := exportedHash }
  artifacts := factoryMessageArtifacts built.files

/-- A follow-up, up to the message. -/
def followup (chat : FactoryChatIdentity) (c : FactoryCall) : ProjectProg Draft := do
  let project ← Stateful.get
  let prior ← checking (enterFollowup H S settings project chat c)
  match c.build with
  | .died _ => Stateful.raise .killed
  | .raised e _ => Stateful.raise (.raised e)
  | .returned built =>
    let postRuntimeHash ← checking (checkFollowupBuild H c.stagingDir chat built)
    reach c .replaceRuntime
    setRuntime built.runtime
    checking (checkCommitted H S chat built.runtime postRuntimeHash)
    return followupDraft chat c prior built postRuntimeHash

/-- `create_chat` -/
def createChat (identity : FactoryChatIdentity) : ProjectProg Unit := do
  let project ← Stateful.get
  checking (raiseIf project.chat.manifest.isSome ("factory chat already exists at " ++
    S.manifestPath ++ "; use load_chat() to continue or pick a fresh project_dir"))
  checking (raiseIf (identity.chatId = "") "chat_id must not be empty")
  Stateful.modify fun project =>
    { project with chat := { project.chat with manifest := some identity } }

/-- The first message, up to the message. -/
def initialMessage (c : FactoryCall) : ProjectProg Draft := do
  let profile ← checking (c.profilePath.getD (.ok settings.defaultProfile))
  match c.build with
  | .died left => do
    setRuntime left
    Stateful.raise .killed
  | .raised e left => do
    setRuntime left
    Stateful.raise (.raised e)
  | .returned built =>
    setRuntime built.runtime
    let (exportedProfile, exportedHash) ← checking (checkInitialBuild H S settings built)
    reach c .createChat
    let result := built.result H settings profile
    createChat S (newIdentity H settings (strip c.chatId) result exportedProfile)
    return initialDraft c built exportedHash

/-- The step of `record_message` before which the process dies. -/
def FactoryCall.recordCrash (c : FactoryCall) : Option ChatStep :=
  match c.crash with
  | some (.recordMessage step) => some step
  | _ => none

/-- The call of `record_message`. -/
def FactoryCall.recordCall (c : FactoryCall) (draft : Draft) : Call where
  message := draft.message
  promptText := canonicalGoalPrompt c.instruction
  planningArtifacts := draft.artifacts
  suffix := c.suffix
  crash := c.recordCrash

def record (c : FactoryCall) (draft : Draft) : ProjectProg FactoryMessage := fun project =>
  let (outcome, chat) := S.perform project.chat (c.recordCall draft)
  (outcome, { project with chat := chat })

def applyFactoryMessage (c : FactoryCall) : ProjectProg FactoryMessage := do
  checking (raiseIf (canonicalGoalPrompt c.instruction = "")
    "factory instruction may not be empty")
  let project ← Stateful.get
  let draft ← match project.chat.manifest with
    | some chat => followup H S settings chat c
    | none => initialMessage H S settings c
  record S c draft

/-- The project after a sequence of calls, each by a process of its own. -/
def run (project : Project) (calls : List FactoryCall) : Project :=
  calls.foldl (fun project c => (applyFactoryMessage H S settings c project).2) project

end Calls

end Agintor.Factory
