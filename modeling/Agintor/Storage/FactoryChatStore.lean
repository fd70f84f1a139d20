import Mathlib.Algebra.Order.Ring.Rat
import Agintor.Core.Text
import Agintor.Lib.Interrupts
import Agintor.Lib.NumberedDirectory

/-!
# The factory chat

`FactoryChatStore` of `storage/factory_chat_store.py`: the messages of a project are directories
under `.factory_chat/messages`, each one filled under a temporary name beside the others and then
renamed. A process can die before any of its file-system steps.

Left out: the fields of a message and of the chat that neither the store nor a follow-up reads.
-/

namespace Agintor.Storage.FactoryChat

open Agintor.Core Lib

/-- The planning artifacts of a message, by the field that holds the path of the copy. -/
inductive ArtifactField
  | goalSpecPath
  | successCriteriaPath
  | benchmarkPlanPath
  | verifierBundlePath
  | runtimePlanPath
  | deploymentContractPath
  | exportSummaryPath
  | buildSummaryPath
  | signalSufficiencyPath
deriving DecidableEq

def ArtifactField.name : ArtifactField → String
  | goalSpecPath => "goal_spec_path"
  | successCriteriaPath => "success_criteria_path"
  | benchmarkPlanPath => "benchmark_plan_path"
  | verifierBundlePath => "verifier_bundle_path"
  | runtimePlanPath => "runtime_plan_path"
  | deploymentContractPath => "deployment_contract_path"
  | exportSummaryPath => "export_summary_path"
  | buildSummaryPath => "build_summary_path"
  | signalSufficiencyPath => "signal_sufficiency_path"

structure FactoryMessage where
  messageId : PathComponent
  messageIndex : ℤ
  parentMessageId : Option String
  chatId : String
  prompt : String
  createdAt : ℚ
  leaderRuntimeHash : String := ""
  goalSpecPath : String := ""
  successCriteriaPath : String := ""
  benchmarkPlanPath : String := ""
  verifierBundlePath : String := ""
  runtimePlanPath : String := ""
  deploymentContractPath : String := ""
  exportSummaryPath : String := ""
  buildSummaryPath : String := ""
  signalSufficiencyPath : String := ""
deriving DecidableEq

/-- `setattr(message, field_name, path)` -/
def FactoryMessage.setattr (m : FactoryMessage) (path : String) : ArtifactField → FactoryMessage
  | .goalSpecPath => { m with goalSpecPath := path }
  | .successCriteriaPath => { m with successCriteriaPath := path }
  | .benchmarkPlanPath => { m with benchmarkPlanPath := path }
  | .verifierBundlePath => { m with verifierBundlePath := path }
  | .runtimePlanPath => { m with runtimePlanPath := path }
  | .deploymentContractPath => { m with deploymentContractPath := path }
  | .exportSummaryPath => { m with exportSummaryPath := path }
  | .buildSummaryPath => { m with buildSummaryPath := path }
  | .signalSufficiencyPath => { m with signalSufficiencyPath := path }

structure FactoryChatIdentity where
  chatId : String
  runtimeProvider : String := ""
  agintorProvider : String := ""
  runtimeBackend : String := ""
  runtimeKind : String := "policy_modules"
  runtimeProfileHash : String := ""
  messageCount : ℤ := 0
  lastMessageId : Option String := none
deriving DecidableEq

/-- The content of a file: the JSON text of a message, or anything that is not one. -/
inductive Content
  | message (m : FactoryMessage)
  | other (text : String)
deriving DecidableEq

abbrev MessageDir := Dict String Content

/-- The files below `.factory_chat`, and the messages whose directories have been renamed, in the
order of the renames. -/
structure ChatFiles where
  manifest : Option FactoryChatIdentity
  messages : Dict String MessageDir
  renamed : List FactoryMessage

/-- Change the directory `name`. -/
def ChatFiles.onDir (chat : ChatFiles) (name : String) (f : MessageDir → MessageDir) :
    ChatFiles :=
  match chat.messages.get? name with
  | some dir => { chat with messages := chat.messages.set name (f dir) }
  | none => chat

/-- Rename a directory, which holds `message`. -/
def ChatFiles.rename (chat : ChatFiles) (name name' : String) (message : FactoryMessage) :
    ChatFiles :=
  match chat.messages.get? name with
  | some dir =>
    { chat with
      messages := (chat.messages.erase name).set name' dir
      renamed := chat.renamed ++ [message] }
  | none => chat

/-- `create_chat`, for an allocated id. -/
def createChat (chatId : String) : ChatFiles where
  manifest := some { chatId := chatId }
  messages := .empty
  renamed := []

/-- A file that is to be copied. The copy fails when the file cannot be read. -/
structure ArtifactSource where
  path : String
  name : String
  isFile : Bool
  content : Option Content

structure FactoryChatStore where
  projectDir : String

/-- `FactoryChatError`, or the error of a copy. -/
abbrev ChatError := String

/-- The file-system steps of a call. -/
inductive ChatStep
  | makeDirectory
  | writePrompt
  | copyArtifact (field : ArtifactField)
  | writeMetadata
  | rename
  | removeFile (name : String)
  | removeDirectory
  | writeManifest
deriving DecidableEq

abbrev ChatProg := Prog ChatStep ChatFiles ChatError

/-- A step that is made whole or not at all. -/
def chatStep (i : ChatStep) (f : ChatFiles → ChatFiles) : ChatProg Unit := .step i id f

/-- A call of `record_message`, and the step before which the process dies. -/
structure Call where
  message : FactoryMessage
  promptText : String
  planningArtifacts : Dict ArtifactField ArtifactSource
  suffix : String
  crash : Option ChatStep

namespace FactoryChatStore

variable (S : FactoryChatStore)

def manifestPath : String := S.projectDir ++ "/.factory_chat/manifest.json"

def messageDirPath (name : String) : String := S.projectDir ++ "/.factory_chat/messages/" ++ name

def loadChat (chat : ChatFiles) : Except ChatError FactoryChatIdentity :=
  match chat.manifest with
  | some identity => .ok identity
  | none => .error ("factory chat manifest not found at " ++ S.manifestPath ++
      "; this project has not been initialized yet")

/-- `_read_message_metadata` -/
def readMessageMetadata (name : String) (dir : MessageDir) : Except ChatError FactoryMessage :=
  match dir.get? "metadata.json" with
  | none => .error ("factory message metadata is missing at " ++ S.messageDirPath name ++
      "/metadata.json")
  | some (.other _) => .error ("factory message metadata is corrupt at " ++ S.messageDirPath name ++
      "/metadata.json")
  | some (.message m) => .ok m

def latestMessage (chat : ChatFiles) : Except ChatError (Option FactoryMessage) :=
  readLast S.readMessageMetadata chat.messages

def messages (chat : ChatFiles) : Except ChatError (List FactoryMessage) :=
  readAll S.readMessageMetadata chat.messages

def nextMessageIndex (chat : ChatFiles) : Except ChatError ℤ := do
  let latest ← S.latestMessage chat
  return nextIndex (·.messageIndex) latest

/-- `_format_message_dir` -/
def formatMessageDir (message : FactoryMessage) : String :=
  numberedName 4 message.messageIndex message.messageId.text

/-- `_validate_planning_artifacts` -/
def validatePlanningArtifacts (artifacts : Dict ArtifactField ArtifactSource) :
    Except ChatError (List (ArtifactField × ArtifactSource)) := do
  let given := artifacts.entries.filter fun a => a.2.path ≠ ""
  given.forM fun a => raiseIf (a.2.isFile = false)
    ("factory planning artifact " ++ quoted a.1.name ++ " is missing at " ++ a.2.path)
  return given

/-- The checks of `record_message` before its first step: the chat, and the files to copy. -/
def admission (chat : ChatFiles) (message : FactoryMessage)
    (planningArtifacts : Dict ArtifactField ArtifactSource) :
    Except ChatError (FactoryChatIdentity × List (ArtifactField × ArtifactSource)) := do
  let identity ← S.loadChat chat
  raiseIf (message.chatId ≠ identity.chatId) ("factory message chat_id " ++
    quoted message.chatId ++ " does not match chat " ++ quoted identity.chatId)
  let expectedIndex ← S.nextMessageIndex chat
  raiseIf (message.messageIndex ≠ expectedIndex) ("factory chat " ++ quoted identity.chatId ++
    " expected message_index " ++ toString expectedIndex ++ ", got " ++
    toString message.messageIndex)
  let artifactSources ← validatePlanningArtifacts planningArtifacts
  raiseIf (chat.messages.contains (formatMessageDir message) = true) ("factory message " ++
    quoted message.messageId.text ++ " is already recorded or partially recorded")
  return (identity, artifactSources)

/-! ## Recording -/

/-- `shutil.rmtree`, if the directory is there. -/
def rmtree (name : String) : ChatProg Unit := do
  match (← Prog.read).messages.get? name with
  | none => pure ()
  | some dir =>
    dir.keys.forM fun file =>
      chatStep (.removeFile file) fun chat => chat.onDir name fun dir => dir.erase file
    chatStep .removeDirectory fun chat => { chat with messages := chat.messages.erase name }

def writePrompt (name : String) (promptText : String) : ChatProg Unit :=
  if promptText ≠ "" then
    chatStep .writePrompt fun chat =>
      chat.onDir name fun dir => dir.set "prompt.txt" (.other promptText)
  else pure ()

/-- `_copy_planning_artifacts` -/
def copyPlanningArtifacts (name : String) (artifacts : List (ArtifactField × ArtifactSource)) :
    ChatProg Unit :=
  artifacts.forM fun a =>
    match a.2.content with
    | some content => chatStep (.copyArtifact a.1) fun chat =>
        chat.onDir name fun dir => dir.set a.2.name content
    | none => Prog.raise ("cannot copy " ++ a.2.path)

/-- The message with the paths of the copies. -/
def recordedMessage (message : FactoryMessage) (artifacts : List (ArtifactField × ArtifactSource)) :
    FactoryMessage :=
  artifacts.foldl
    (fun m a => m.setattr (S.messageDirPath (formatMessageDir message) ++ "/" ++ a.2.name) a.1)
    message

/-- The `try` block of `record_message`: fill the directory `tempDir`, and rename it. -/
def publish (tempDir : String) (message recorded : FactoryMessage) (promptText : String)
    (artifactSources : List (ArtifactField × ArtifactSource)) : ChatProg Unit := do
  chatStep .makeDirectory fun chat => { chat with messages := chat.messages.set tempDir .empty }
  writePrompt tempDir promptText
  copyPlanningArtifacts tempDir artifactSources
  chatStep .writeMetadata fun chat => chat.onDir tempDir fun dir =>
    dir.set "metadata.json" (.message recorded)
  chatStep .rename fun chat => chat.rename tempDir (formatMessageDir message) recorded

/-- `record_message`. The suffix of the temporary name is drawn at random. -/
def recordMessage (message : FactoryMessage) (promptText : String)
    (planningArtifacts : Dict ArtifactField ArtifactSource) (suffix : String) :
    ChatProg FactoryMessage := do
  let chat ← Prog.read
  let (identity, artifactSources) ← Prog.check (S.admission chat message planningArtifacts)
  let tempDir := "." ++ formatMessageDir message ++ ".tmp." ++ suffix
  let recorded := S.recordedMessage message artifactSources
  rmtree tempDir
  Prog.tryExcept (publish tempDir message recorded promptText artifactSources) (rmtree tempDir)
  chatStep .writeManifest fun chat =>
    { chat with
      manifest := some { identity with
        messageCount := max identity.messageCount (recorded.messageIndex + 1)
        lastMessageId := some recorded.messageId.text } }
  return recorded

/-! ## Runs -/

def perform (chat : ChatFiles) (c : Call) : Except (Stop ChatError) FactoryMessage × ChatFiles :=
  let (outcome, machine) :=
    S.recordMessage c.message c.promptText c.planningArtifacts c.suffix
      { state := chat, fault := c.crash.map fun i => ⟨i, 0, .kill⟩ }
  (outcome, machine.state)

/-- The chat after a sequence of calls, each by a process of its own. -/
def run (chat : ChatFiles) (calls : List Call) : ChatFiles :=
  calls.foldl (fun chat c => (S.perform chat c).2) chat

end FactoryChatStore

end Agintor.Storage.FactoryChat
