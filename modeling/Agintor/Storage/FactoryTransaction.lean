import Agintor.Core.Text
import Agintor.Lib.Decimal
import Agintor.Lib.Dict
import Agintor.Lib.Locks
import Agintor.Lib.Raise

/-!
# The factory transaction store

`HarnessFactoryTransactionStore` of `storage/harness_factory_transaction.py`, over an
explicit disk. Each file operation that changes what another process can see is one labelled
step. A record is read back as it was written, unless its writer died while writing it.

Left out: the validation and the content of releases (`materialize_harness_release` and
`validate_harness_generation` succeed), directories that hold no record, and the temporary
file of an atomic replacement, which nothing reads.
-/

namespace Agintor.Storage

open Agintor.Core Lib

/-! ## Records -/

/-- The fields of a release manifest that the store uses. -/
structure HarnessReleaseManifest where
  releaseDigest : String
  manifestDigest : String
  protocolSourceDigest : String
  compiledSemanticDigest : String
  dependencyManifestDigest : String
  epochManifestDigest : String
deriving DecidableEq

structure MaterializedHarnessRelease where
  manifest : HarnessReleaseManifest
deriving DecidableEq

/-- The fields of a release request that the store uses; a selection decision is its
evidence digests. -/
structure HarnessReleaseRequest where
  epochManifestDigest : String
  selectionDecisions : List (List String)

structure ActiveReleasePointer where
  releaseDigest : String
  releasePath : String
  manifestDigest : String
deriving DecidableEq

structure HarnessFactoryChatManifest where
  chatId : String
  projectRoot : String
  epochManifestDigest : String
  activeReleaseDigest : String
  activeManifestDigest : String
  activeProtocolDigest : String
  createdAtMs : ℕ
  messageCount : ℕ
  lastMessageId : Option String
  head : lastMessageId = none ↔ messageCount = 0
deriving DecidableEq

/-- What identifies a message: the payload its seed digest is computed from. -/
structure MessageIdentity where
  chatId : String
  messageIndex : ℕ
  parentMessageId : Option String
  priorActiveReleaseDigest : Option String
  newReleaseDigest : String
  newManifestDigest : String
  newProtocolDigest : String
  compiledSemanticDigest : String
  dependencyManifestDigest : String
  epochManifestDigest : String
  promptText : String
  searchResultDigest : String
  selectionEvidenceDigests : List String
deriving DecidableEq

/-- The check of `bind_message` on an initial message and on a follow-up. -/
def MessageIdentity.Bound (i : MessageIdentity) : Prop :=
  if i.messageIndex = 0 then i.parentMessageId = none ∧ i.priorActiveReleaseDigest = none
  else i.parentMessageId ≠ none ∧ i.priorActiveReleaseDigest ≠ none

instance (i : MessageIdentity) : Decidable i.Bound := by
  unfold MessageIdentity.Bound
  infer_instance

structure HarnessFactoryMessage extends MessageIdentity where
  messageId : String
  transactionId : String
  createdAtMs : ℕ
  bound : toMessageIdentity.Bound
  evidence : selectionEvidenceDigests ≠ []
deriving DecidableEq

structure HarnessFactoryPrepare where
  transactionId : String
  chatId : String
  priorChatDigest : Option String
  priorActiveReleaseDigest : Option String
  materialized : MaterializedHarnessRelease
  message : HarnessFactoryMessage
  nextChat : HarnessFactoryChatManifest
  message_transaction : message.transactionId = transactionId
  message_chat : message.chatId = chatId ∧ nextChat.chatId = chatId
  message_release : materialized.manifest.releaseDigest = message.newReleaseDigest
  message_manifest : materialized.manifest.manifestDigest = message.newManifestDigest
  message_protocol : materialized.manifest.protocolSourceDigest = message.newProtocolDigest
  chat_release : nextChat.activeReleaseDigest = message.newReleaseDigest
  chat_message : nextChat.lastMessageId = some message.messageId
deriving DecidableEq

structure HarnessFactoryCommitIntent where
  transactionId : String
  chatId : String
  prepareDigest : String
  messageDigest : String
  newReleaseDigest : String
  newManifestDigest : String
deriving DecidableEq

structure HarnessFactoryCommitted where
  transactionId : String
  chatId : String
  intentDigest : String
  activePointer : ActiveReleasePointer
  messageDigest : String
  chatDigest : String
  committedAtMs : ℕ
deriving DecidableEq

/-- The evidence digests the store computes. The digest fields of the records are these
functions of the other fields. -/
structure FactoryDigests where
  chatIdentity : String → String
  messageSeed : MessageIdentity → String
  message : HarnessFactoryMessage → String
  chat : HarnessFactoryChatManifest → String
  prepare : HarnessFactoryPrepare → String
  intent : HarnessFactoryCommitIntent → String

/-! ## Errors -/

inductive FactoryError
  /-- `ValueError` -/
  | value (text : String)
  /-- `HarnessFactoryConcurrencyError` -/
  | concurrency
  /-- `HarnessFactoryStaleHeadError` -/
  | staleHead (text : String)
  /-- `HarnessFactoryValidationError` -/
  | validation (text : String)
  /-- `HarnessFactoryInjectedFailure` -/
  | injected (boundary : String)
  /-- A record that cannot be read back. -/
  | unreadable (path : String)
deriving DecidableEq

def FactoryError.text : FactoryError → String
  | .value text => text
  | .concurrency => "factory project already has an active transaction writer"
  | .staleHead text => text
  | .validation text => text
  | .injected boundary => "injected failure at " ++ boundary
  | .unreadable path => path

/-! ## The disk -/

/-- A directory for one message: `message.json` and `prompt.txt`. -/
structure MessageDir where
  message : Option (File HarnessFactoryMessage) := none
  prompt : Option (File String) := none
deriving DecidableEq

/-- The files below the project root. WAL records and staging directories are listed by
transaction id, messages by directory name. -/
structure FactoryDisk where
  /-- Whether `.factory_chat` exists. -/
  root : Bool
  /-- Whether `.transaction.lock` exists. -/
  lock : Bool
  prepares : Dict String (File HarnessFactoryPrepare)
  intents : Dict String (File HarnessFactoryCommitIntent)
  committed : Dict String (File HarnessFactoryCommitted)
  staging : Dict String MessageDir
  messages : Dict String MessageDir
  /-- The hidden directories `.<name>.tmp.<token>` beside the messages, latest first. -/
  temps : List MessageDir
  chat : Option HarnessFactoryChatManifest
  pointer : Option ActiveReleasePointer
deriving DecidableEq

namespace FactoryDisk

/-- An empty project. -/
def empty : FactoryDisk where
  root := false
  lock := false
  prepares := .empty
  intents := .empty
  committed := .empty
  staging := .empty
  messages := .empty
  temps := []
  chat := none
  pointer := none

def stagedMessage (t : String) (d : FactoryDisk) : Option (File HarnessFactoryMessage) :=
  (d.staging.get? t).bind (·.message)

def stagedPrompt (t : String) (d : FactoryDisk) : Option (File String) :=
  (d.staging.get? t).bind (·.prompt)

/-- Change the staging directory of a transaction, which is created if need be. -/
def modifyStaging (t : String) (f : MessageDir → MessageDir) (d : FactoryDisk) : FactoryDisk :=
  { d with staging := d.staging.set t (f ((d.staging.get? t).getD {})) }

/-- Change the hidden directory made last. -/
def modifyTemp (f : MessageDir → MessageDir) (d : FactoryDisk) : FactoryDisk :=
  { d with temps := d.temps.modifyHead f }

/-- `temp.replace(destination)` -/
def renameTemp (name : String) (d : FactoryDisk) : FactoryDisk :=
  { d with temps := d.temps.tail, messages := d.messages.set name (d.temps.headD {}) }

end FactoryDisk

/-- The steps of the store, named after what they write or remove. -/
inductive FactoryStep
  | materialize
  | makeRoot | createLock | removeLock
  | writePrepare | makeStaging | stageMessage | stagePrompt | writeIntent
  | advancePointer
  | makeTemp | publishMessage | publishPrompt | renameTemp
  | unlinkTemp | removeTemp
  | writeChat | writeCommitted
  | unlinkStaged | removeStaging | unlinkPrepare
deriving DecidableEq

abbrev FactoryProg := Prog FactoryStep FactoryDisk FactoryError

/-! ## Names -/

/-- `f"ftxn.{message_index:04d}.{message_seed[:20]}"` -/
def transactionName (index : ℕ) (seed : String) : String :=
  "ftxn." ++ zeroPad 4 index ++ "." ++ takeChars 20 seed

/-- `f"fmsg.{message_seed[:20]}"` -/
def messageName (seed : String) : String := "fmsg." ++ takeChars 20 seed

def prepareFile (t : String) : String := "prepare." ++ t ++ ".json"

/-- `f"{message.message_index:04d}_{message.message_id}"` -/
def messageDirName (m : HarnessFactoryMessage) : String :=
  zeroPad 4 m.messageIndex ++ "_" ++ m.messageId

/-! ## The store -/

/-- The clock readings of one call: for the records it builds, and for each marker written
while recovering. -/
structure FactoryClock where
  now : ℕ
  committedAt : ℕ
  recoveredAt : String → ℕ

/-- A store on a project. The text policy for prompts and the building of releases are
parameters. -/
structure HarnessFactoryTransactionStore where
  projectRoot : String
  digests : FactoryDigests
  materializeHarnessRelease : HarnessReleaseRequest → MaterializedHarnessRelease
  assertPublicPrompt : String → Except FactoryError String

/-- The arguments of `_publish`. -/
structure PublishArgs where
  request : HarnessReleaseRequest
  userPromptText : String
  chatId : Option String
  expectedParentMessageId : Option String
  expectedMessageIndex : Option ℕ
  searchResultDigest : String
  selectionEvidenceDigests : List String
  failAt : Option String

def requireDigest (value fieldName : String) : Except FactoryError String := do
  let normalized := (strip value).toLower
  raiseIf (isDigest normalized = false) (.value (fieldName ++ " must be a lowercase SHA-256 digest"))
  return normalized

def requireIdentifier (value fieldName : String) : Except FactoryError String := do
  let normalized := strip value
  raiseIf (isPortableIdentifier normalized = false)
    (.value (fieldName ++ " must be a portable non-traversing identifier"))
  return normalized

def sortedUniqueDigests (values : List String) (fieldName : String) :
    Except FactoryError (List String) := do
  let normalized ← values.mapM fun v => requireDigest v fieldName
  raiseIf (normalized ≠ sortedUnique normalized) (.value (fieldName ++ " must be unique and sorted"))
  return normalized

def assertSelectionEvidenceMatchesRequest (request : HarnessReleaseRequest)
    (selectionEvidenceDigests : List String) : Except FactoryError Unit :=
  let requestDigests := sortedUnique request.selectionDecisions.flatten
  raiseIf (requestDigests ≠ [] ∧ requestDigests ≠ selectionEvidenceDigests)
    (.validation "selection evidence digests crossed release request decisions")

/-- `_fail` -/
def fail (failAt : Option String) (boundary : String) : FactoryProg Unit :=
  .check (raiseIf (failAt = some boundary) (.injected boundary))

/-- The content of a record that must be there and complete. -/
def readFile {α : Type} (f : Option (File α)) (path : String) : FactoryProg α :=
  match f with
  | some (.whole a) => pure a
  | _ => .raise (.unreadable path)

namespace HarnessFactoryTransactionStore

variable (S : HarnessFactoryTransactionStore)

/-! ### Single records -/

def stageMessage (p : HarnessFactoryPrepare) : FactoryProg Unit := do
  .step .makeStaging id (FactoryDisk.modifyStaging p.transactionId id)
  .writeOnce .stageMessage (FactoryDisk.stagedMessage p.transactionId)
    (fun f => FactoryDisk.modifyStaging p.transactionId fun s => { s with message := some f })
    p.message (.validation "transaction path already contains different bytes: message.json")
  .writeOnce .stagePrompt (FactoryDisk.stagedPrompt p.transactionId)
    (fun f => FactoryDisk.modifyStaging p.transactionId fun s => { s with prompt := some f })
    (p.message.promptText ++ "\n")
    (.validation "transaction path already contains different bytes: prompt.txt")

def writePrepare (p : HarnessFactoryPrepare) : FactoryProg Unit :=
  .writeOnce .writePrepare (·.prepares.get? p.transactionId)
    (fun f d => { d with prepares := d.prepares.set p.transactionId f }) p
    (.validation "transaction path already contains different bytes: prepare")

/-- The commit intent of a prepared transaction. -/
def commitIntent (p : HarnessFactoryPrepare) : HarnessFactoryCommitIntent where
  transactionId := p.transactionId
  chatId := p.chatId
  prepareDigest := S.digests.prepare p
  messageDigest := S.digests.message p.message
  newReleaseDigest := p.message.newReleaseDigest
  newManifestDigest := p.message.newManifestDigest

def writeCommitIntent (intent : HarnessFactoryCommitIntent) : FactoryProg Unit :=
  .writeOnce .writeIntent (·.intents.get? intent.transactionId)
    (fun f d => { d with intents := d.intents.set intent.transactionId f }) intent
    (.validation "transaction path already contains different bytes: commit_intent")

def assertIntentMatchesPrepare (intent : HarnessFactoryCommitIntent) (p : HarnessFactoryPrepare) :
    Except FactoryError Unit :=
  raiseIf (intent.transactionId ≠ p.transactionId ∨ intent.chatId ≠ p.chatId ∨
      intent.prepareDigest ≠ S.digests.prepare p ∨
      intent.messageDigest ≠ S.digests.message p.message ∨
      intent.newReleaseDigest ≠ p.message.newReleaseDigest ∨
      intent.newManifestDigest ≠ p.message.newManifestDigest)
    (.validation "factory commit intent crossed prepared transaction")

/-- The pointer that `advance_active_release` writes for a release. -/
def activePointer (materialized : MaterializedHarnessRelease) : ActiveReleasePointer where
  releaseDigest := materialized.manifest.releaseDigest
  releasePath := "releases/" ++ materialized.manifest.releaseDigest
  manifestDigest := materialized.manifest.manifestDigest

def advancePointer (p : HarnessFactoryPrepare) : FactoryProg ActiveReleasePointer := do
  let pointer := activePointer p.materialized
  .step .advancePointer id fun d => { d with pointer := some pointer }
  .check (raiseIf (pointer.releaseDigest ≠ p.message.newReleaseDigest)
    (.validation "active pointer advanced to the wrong release"))
  return pointer

/-- Make the staged message visible: copy it into a hidden directory and rename that. -/
def publishMessage (p : HarnessFactoryPrepare) : FactoryProg Unit := do
  let d ← .read
  match d.messages.get? (messageDirName p.message) with
  | some dir =>
    let existing ← readFile dir.message "message.json"
    .check (raiseIf (S.digests.message existing ≠ S.digests.message p.message)
      (.validation "visible factory message crossed transaction identity"))
  | none =>
    if d.stagedMessage p.transactionId = none then
      stageMessage p
    .step .makeTemp id fun d => { d with temps := {} :: d.temps }
    .tryExcept
      (do
        let d ← .read
        match d.stagedMessage p.transactionId, d.stagedPrompt p.transactionId with
        | some message, some prompt => do
          .step .publishMessage (FactoryDisk.modifyTemp fun s => { s with message := some .torn })
            (FactoryDisk.modifyTemp fun s => { s with message := some message })
          .step .publishPrompt (FactoryDisk.modifyTemp fun s => { s with prompt := some .torn })
            (FactoryDisk.modifyTemp fun s => { s with prompt := some prompt })
          .step .renameTemp id (FactoryDisk.renameTemp (messageDirName p.message))
        | _, _ => .raise (.unreadable "message_staging"))
      (do
        .step .unlinkTemp id (FactoryDisk.modifyTemp fun s => { s with message := none })
        .step .unlinkTemp id (FactoryDisk.modifyTemp fun s => { s with prompt := none })
        .step .removeTemp id fun d => { d with temps := d.temps.tail })

def writeChat (chat : HarnessFactoryChatManifest) : FactoryProg Unit :=
  .step .writeChat id fun d => { d with chat := some chat }

def committedMarker (p : HarnessFactoryPrepare) (intent : HarnessFactoryCommitIntent)
    (pointer : ActiveReleasePointer) (committedAtMs : ℕ) : HarnessFactoryCommitted where
  transactionId := p.transactionId
  chatId := p.chatId
  intentDigest := S.digests.intent intent
  activePointer := pointer
  messageDigest := S.digests.message p.message
  chatDigest := S.digests.chat p.nextChat
  committedAtMs := committedAtMs

def writeCommitted (p : HarnessFactoryPrepare) (intent : HarnessFactoryCommitIntent)
    (pointer : ActiveReleasePointer) (committedAtMs : ℕ) : FactoryProg Unit :=
  .writeOnce .writeCommitted (·.committed.get? p.transactionId)
    (fun f d => { d with committed := d.committed.set p.transactionId f })
    (S.committedMarker p intent pointer committedAtMs)
    (.validation "transaction path already contains different bytes: committed")

def abortPrepare (p : HarnessFactoryPrepare) (path : String) : FactoryProg Unit := do
  if (← .read).staging.contains p.transactionId then
    .step .unlinkStaged id (FactoryDisk.modifyStaging p.transactionId ({ · with message := none }))
    .step .unlinkStaged id (FactoryDisk.modifyStaging p.transactionId ({ · with prompt := none }))
    .step .removeStaging id fun d => { d with staging := d.staging.erase p.transactionId }
  .step .unlinkPrepare id fun d => { d with prepares := d.prepares.erase path }

/-! ### Recovery -/

/-- `sorted(self.wal_root.glob("prepare.*.json"))`, as transaction ids. -/
def sortedPrepares (d : FactoryDisk) : List String :=
  d.prepares.keys.insertionSort fun t t' => prepareFile t ≤ prepareFile t'

/-- One round of the loop of `_recover_unlocked`. -/
def recoverPrepare (clock : FactoryClock) (path : String) : FactoryProg Unit := do
  let p ← readFile ((← .read).prepares.get? path) (prepareFile path)
  match (← .read).intents.get? p.transactionId with
  | none => abortPrepare p path
  | some f => do
    let intent ← readFile (some f) "commit_intent"
    .check (S.assertIntentMatchesPrepare intent p)
    let pointer ← advancePointer p
    S.publishMessage p
    writeChat p.nextChat
    if (← .read).committed.get? p.transactionId = none then
      S.writeCommitted p intent pointer (clock.recoveredAt p.transactionId)

def recoverUnlocked (clock : FactoryClock) : FactoryProg (Option HarnessFactoryChatManifest) := do
  (sortedPrepares (← .read)).forM (S.recoverPrepare clock)
  return (← .read).chat

/-- `.transaction.lock` -/
def writerLock : Lock FactoryStep FactoryDisk FactoryError where
  create := .createLock
  remove := .removeLock
  held := (·.lock)
  set := fun lock d => { d with lock := lock }
  busy := .concurrency

/-- `with self._writer_lock(): body` -/
def withWriterLock {α : Type} (body : FactoryProg α) : FactoryProg α := do
  .step .makeRoot id fun d => { d with root := true }
  .withLock writerLock body

def recover (clock : FactoryClock) : FactoryProg (Option HarnessFactoryChatManifest) := do
  if (← .read).root = false then
    return none
  withWriterLock (S.recoverUnlocked clock)

/-! ### Publication -/

def allocateChatId (epochDigest : String) : String :=
  "hchat." ++ takeChars 20 (S.digests.chatIdentity epochDigest)

/-- The chat id and the head that a new message continues: index, parent and prior release. -/
def continueChat (args : PublishArgs) (priorPointer : Option ActiveReleasePointer)
    (priorChat : Option HarnessFactoryChatManifest) :
    Except FactoryError (String × ℕ × Option String × Option String) := do
  match priorChat with
  | none =>
    raiseIf (priorPointer ≠ none)
      (.staleHead "initial harness factory chat requires no active release pointer")
    raiseIf (args.expectedParentMessageId ≠ none)
      (.staleHead "initial harness factory chat cannot name a parent message")
    let requested := match args.chatId with
      | some c => if c = "" then S.allocateChatId args.request.epochManifestDigest else c
      | none => S.allocateChatId args.request.epochManifestDigest
    let chatId ← requireIdentifier requested "chat_id"
    return (chatId, 0, none, none)
  | some chat =>
    raiseIf (args.chatId ≠ none ∧ args.chatId ≠ some chat.chatId)
      (.staleHead "follow-up chat_id does not match the existing factory chat")
    raiseIf (priorPointer = none) (.staleHead "factory follow-up requires an active release pointer")
    raiseIf (priorPointer.map (·.releaseDigest) ≠ some chat.activeReleaseDigest)
      (.staleHead "factory chat head and active release pointer differ")
    raiseIf (args.request.epochManifestDigest ≠ chat.epochManifestDigest)
      (.staleHead "factory follow-up changed the pinned epoch digest")
    raiseIf (args.expectedParentMessageId ≠ chat.lastMessageId)
      (.staleHead "factory follow-up parent message is stale")
    return (chat.chatId, chat.messageCount, chat.lastMessageId, some chat.activeReleaseDigest)

def buildMessage (identity : MessageIdentity) (now : ℕ) :
    Except FactoryError HarnessFactoryMessage :=
  let messageSeed := S.digests.messageSeed identity
  if hbound : identity.Bound then
    if hevidence : identity.selectionEvidenceDigests ≠ [] then
      .ok { toMessageIdentity := identity
            messageId := messageName messageSeed
            transactionId := transactionName identity.messageIndex messageSeed
            createdAtMs := now
            bound := hbound
            evidence := hevidence }
    else .error (.value "selection_evidence_digests may not be empty")
  else .error (.value "initial factory message may not name a prior release or parent")

lemma buildMessage_ok {identity : MessageIdentity} {now : ℕ} {m : HarnessFactoryMessage}
    (h : S.buildMessage identity now = .ok m) :
    m.toMessageIdentity = identity ∧ m.messageId = messageName (S.digests.messageSeed identity) ∧
      m.transactionId = transactionName m.messageIndex (S.digests.messageSeed identity) := by
  unfold buildMessage at h
  by_cases hbound : identity.Bound
  · by_cases hevidence : identity.selectionEvidenceDigests ≠ []
    · simp only [dif_pos hbound, dif_pos hevidence, Except.ok.injEq] at h
      rw [← h]
      exact ⟨rfl, rfl, rfl⟩
    · simp [hbound, hevidence] at h
  · simp [hbound] at h

def nextChat (priorChat : Option HarnessFactoryChatManifest) (message : HarnessFactoryMessage)
    (materialized : MaterializedHarnessRelease) (now : ℕ) : HarnessFactoryChatManifest where
  chatId := message.chatId
  projectRoot := S.projectRoot
  epochManifestDigest := materialized.manifest.epochManifestDigest
  activeReleaseDigest := materialized.manifest.releaseDigest
  activeManifestDigest := materialized.manifest.manifestDigest
  activeProtocolDigest := materialized.manifest.protocolSourceDigest
  createdAtMs := match priorChat with
    | some chat => chat.createdAtMs
    | none => now
  messageCount := message.messageIndex + 1
  lastMessageId := some message.messageId
  head := by simp

/-- The transaction that `_publish` prepares on top of the chat and pointer it found. -/
def buildPrepare (args : PublishArgs) (prompt searchDigest : String)
    (selectionDigests : List String) (clock : FactoryClock)
    (priorPointer : Option ActiveReleasePointer) (priorChat : Option HarnessFactoryChatManifest) :
    Except FactoryError HarnessFactoryPrepare := do
  let materialized := S.materializeHarnessRelease args.request
  let (chatId, messageIndex, parentMessageId, priorReleaseDigest) ←
    S.continueChat args priorPointer priorChat
  raiseIf (args.expectedMessageIndex ≠ none ∧ args.expectedMessageIndex ≠ some messageIndex)
    (.staleHead ("factory chat expected message_index " ++ toString messageIndex))
  let identity : MessageIdentity :=
    { chatId := chatId
      messageIndex := messageIndex
      parentMessageId := parentMessageId
      priorActiveReleaseDigest := priorReleaseDigest
      newReleaseDigest := materialized.manifest.releaseDigest
      newManifestDigest := materialized.manifest.manifestDigest
      newProtocolDigest := materialized.manifest.protocolSourceDigest
      compiledSemanticDigest := materialized.manifest.compiledSemanticDigest
      dependencyManifestDigest := materialized.manifest.dependencyManifestDigest
      epochManifestDigest := materialized.manifest.epochManifestDigest
      promptText := prompt
      searchResultDigest := searchDigest
      selectionEvidenceDigests := selectionDigests }
  match hm : S.buildMessage identity clock.now with
  | .error e => .error e
  | .ok message =>
    have hidentity : message.toMessageIdentity = identity := (S.buildMessage_ok hm).1
    return { transactionId := message.transactionId
             chatId := chatId
             priorChatDigest := priorChat.map S.digests.chat
             priorActiveReleaseDigest := priorReleaseDigest
             materialized := materialized
             message := message
             nextChat := S.nextChat priorChat message materialized clock.now
             message_transaction := rfl
             message_chat := by simp [nextChat, hidentity, identity]
             message_release := by simp [hidentity, identity]
             message_manifest := by simp [hidentity, identity]
             message_protocol := by simp [hidentity, identity]
             chat_release := by simp [nextChat, hidentity, identity]
             chat_message := rfl }

/-- `_publish` -/
def publish (args : PublishArgs) (clock : FactoryClock) : FactoryProg HarnessFactoryMessage := do
  let prompt ← .check (S.assertPublicPrompt args.userPromptText)
  let searchDigest ← .check (requireDigest args.searchResultDigest "search_result_digest")
  let selectionDigests ←
    .check (sortedUniqueDigests args.selectionEvidenceDigests "selection_evidence_digests")
  .check (assertSelectionEvidenceMatchesRequest args.request selectionDigests)
  .step .materialize id id
  fail args.failAt "after_materialize"
  withWriterLock do
    let _ ← S.recoverUnlocked clock
    let d ← .read
    let p ← .check
      (S.buildPrepare args prompt searchDigest selectionDigests clock d.pointer d.chat)
    writePrepare p
    stageMessage p
    fail args.failAt "after_prepare"
    fail args.failAt "after_message_staged"
    let intent := S.commitIntent p
    writeCommitIntent intent
    fail args.failAt "after_commit_intent"
    let pointer ← advancePointer p
    fail args.failAt "after_pointer"
    S.publishMessage p
    fail args.failAt "after_message"
    writeChat p.nextChat
    fail args.failAt "after_chat_manifest"
    S.writeCommitted p intent pointer clock.committedAt
    fail args.failAt "after_committed_marker"
    return p.message

/-! ### Reading -/

/-- The messages a reader finds, in the order of their directory names; hidden directories
match the pattern `*/message.json` and sort first. -/
def messages (d : FactoryDisk) : Except FactoryError (List HarnessFactoryMessage) :=
  let visible := d.messages.entries.insertionSort fun e e' => e.1 ≤ e'.1
  ((d.temps ++ visible.map Prod.snd).filterMap (·.message)).mapM fun
    | .whole m => .ok m
    | .torn => .error (.unreadable "message.json")

/-! ### Runs -/

/-- The public operations of the store, with their arguments. -/
inductive Call
  | createInitialChat (request : HarnessReleaseRequest) (userPromptText : String)
      (chatId : Option String) (searchResultDigest : String)
      (selectionEvidenceDigests : List String) (failAt : Option String)
  | applyFollowup (request : HarnessReleaseRequest) (userPromptText : String)
      (expectedParentMessageId : String) (expectedMessageIndex : Option ℕ)
      (searchResultDigest : String) (selectionEvidenceDigests : List String)
      (failAt : Option String)
  | recover

/-- What a call passes to `_publish`. -/
def Call.publishArgs : Call → Option PublishArgs
  | .createInitialChat request prompt chatId search selection failAt =>
    some ⟨request, prompt, chatId, none, some 0, search, selection, failAt⟩
  | .applyFollowup request prompt parent index search selection failAt =>
    some ⟨request, prompt, none, some parent, index, search, selection, failAt⟩
  | .recover => none

/-- A call in a run: its clock readings, and the fault that strikes it, if any. -/
structure Event where
  call : Call
  clock : FactoryClock
  fault : Option (Fault FactoryStep) := none

def program (e : Event) : FactoryProg Unit :=
  match e.call.publishArgs with
  | some args => S.publish args e.clock >>= fun _ => pure ()
  | none => S.recover e.clock >>= fun _ => pure ()

/-- The outcome of one call on a disk, and the machine it leaves. -/
def execute (m : Machine FactoryStep FactoryDisk) (e : Event) :
    Except (Stop FactoryError) Unit × Machine FactoryStep FactoryDisk :=
  S.program e { m with fault := e.fault }

/-- The machine after a sequence of calls; its history holds every disk in between. -/
def run (m : Machine FactoryStep FactoryDisk) (events : List Event) :
    Machine FactoryStep FactoryDisk :=
  events.foldl (fun m e => (S.execute m e).2) m

/-- A machine on an empty project. -/
def start : Machine FactoryStep FactoryDisk := { state := .empty }

end HarnessFactoryTransactionStore
end Agintor.Storage
