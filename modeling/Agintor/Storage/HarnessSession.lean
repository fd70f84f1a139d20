import Agintor.Core.Text
import Agintor.Lib.Decimal
import Agintor.Lib.Dict
import Agintor.Lib.Locks
import Agintor.Lib.Raise

/-!
# The harness session store

`HarnessSessionStore` of `storage/harness_session_store.py`, on the directory of one session.
Each file operation that changes what another process can see is one labelled step. A record is
read back as it was written, unless its writer died while writing it.

The text policy for public summaries and the size of an encoded carryover are parameters. Left
out: the literal schema and version fields, and the translation of a solve result into a
message (`append_solve_result`).
-/

namespace Agintor.Storage

open Agintor.Core Lib

/-! ## Records -/

structure HarnessSessionLimits where
  maxEntries : ℕ := 8
  maxTotalBytes : ℕ := 4096
  maxSummaryBytes : ℕ := 512
deriving DecidableEq

structure HarnessCarryoverRef where
  artifactRef : String
  artifactDigest : String
  summary : String
deriving DecidableEq

structure HarnessSessionManifest where
  sessionId : String
  projectDir : String
  activeReleaseDigest : String
  limits : HarnessSessionLimits
  createdAtMs : ℕ
  version : ℕ
  messageCount : ℕ
  nextSequence : ℕ
  lastMessageId : Option String
  carryover : List HarnessCarryoverRef
  moved : version = messageCount ∧ nextSequence = messageCount
  head : messageCount = 0 ↔ lastMessageId = none
deriving DecidableEq

structure HarnessSessionMessage where
  sessionId : String
  messageId : String
  parentMessageId : Option String
  sequence : ℕ
  baseVersion : ℕ
  activeReleaseDigest : String
  messageSummary : String
  carryover : List HarnessCarryoverRef
  createdAtMs : ℕ
deriving DecidableEq

structure HarnessSessionPrepare where
  prepareId : String
  sessionId : String
  baseManifestDigest : String
  baseVersion : ℕ
  message : HarnessSessionMessage
  nextManifest : HarnessSessionManifest
  message_session : message.sessionId = sessionId ∧ nextManifest.sessionId = sessionId
  message_base : message.baseVersion = baseVersion
  next_version : nextManifest.version = baseVersion + 1
  next_message : nextManifest.lastMessageId = some message.messageId
  next_carryover : nextManifest.carryover = message.carryover
deriving DecidableEq

structure HarnessSessionCommit where
  commitId : String
  sessionId : String
  prepareDigest : String
  messageDigest : String
  nextManifestDigest : String
  committedAtMs : ℕ
deriving DecidableEq

/-- What the id of a message is the digest of. -/
structure SessionMessageSeed where
  session : String
  release : String
  baseVersion : ℕ
  sequence : ℕ
  messageSummary : String
  carryover : List String
  nonce : String

/-- The evidence digests the store computes. -/
structure SessionDigests where
  carryoverRef : HarnessCarryoverRef → String
  messageSeed : SessionMessageSeed → String
  manifest : HarnessSessionManifest → String
  message : HarnessSessionMessage → String
  prepare : HarnessSessionPrepare → String

structure HarnessNextContext where
  sessionId : String
  activeReleaseDigest : String
  sessionManifestDigest : String
  parentMessageId : Option String
  nextSequence : ℕ
  limits : HarnessSessionLimits
  carryover : List HarnessCarryoverRef

/-! ## Errors -/

inductive SessionError
  /-- `ValueError` -/
  | value (text : String)
  /-- `HarnessSessionConcurrencyError` -/
  | concurrency (sessionId : String)
  /-- `HarnessSessionReleaseMismatchError` -/
  | releaseMismatch (sessionId pinned current : String)
  /-- `HarnessSessionVersionError` -/
  | version (sessionId : String) (expected : ℤ) (current : ℕ)
  /-- `HarnessSessionValidationError` -/
  | validation (text : String)
  /-- `HarnessSessionValidationError` of the text policy -/
  | unsafeText (fieldName reason : String)
  /-- `session manifest cannot be recovered without inventing history` -/
  | inventingHistory
  /-- A record that is missing or cannot be read back. -/
  | unreadable (path : String)
deriving DecidableEq

/-! ## The disk -/

/-- The directory of a session. The records in `wal` are listed by their ids, the files in
`messages` by name. -/
structure SessionDisk where
  /-- Whether `.writer.lock` exists. -/
  lock : Bool
  manifest : Option HarnessSessionManifest
  prepares : Dict String (File HarnessSessionPrepare)
  commits : Dict String (File HarnessSessionCommit)
  messages : Dict String (File HarnessSessionMessage)
deriving DecidableEq

/-- The steps of the store, named after what they write or remove. -/
inductive SessionStep
  | createLock | removeLock
  | writePrepare | writeMessage | writeCommit | writeManifest
  | unlinkMessage | unlinkPrepare
deriving DecidableEq

abbrev SessionProg := Prog SessionStep SessionDisk SessionError

/-! ## Names -/

/-- `f"prepare.{message.sequence:06d}.{message.message_id}"` -/
def prepareId (m : HarnessSessionMessage) : String :=
  "prepare." ++ zeroPad 6 m.sequence ++ "." ++ m.messageId

/-- `f"commit.{message.sequence:06d}.{message.message_id}"` -/
def commitId (m : HarnessSessionMessage) : String :=
  "commit." ++ zeroPad 6 m.sequence ++ "." ++ m.messageId

/-- `f"{message.sequence:06d}.{message.message_id}.json"` -/
def messageFile (m : HarnessSessionMessage) : String :=
  zeroPad 6 m.sequence ++ "." ++ m.messageId ++ ".json"

/-! ## The store -/

/-- A store on a project, with one of its sessions. -/
structure HarnessSessionStore where
  projectDir : String
  sessionId : String
  digests : SessionDigests
  /-- The reason why a text is not public-safe. -/
  unsafeReason : String → Option String
  /-- The length of the canonical encoding of a carryover. -/
  encodedSize : List HarnessCarryoverRef → ℕ

/-- The arguments of `append_message`. -/
structure AppendArgs where
  activeReleaseDigest : String
  expectedVersion : ℤ
  messageSummary : String
  carryover : List HarnessCarryoverRef

/-- What the outside contributes to a call: the clock and the random token. -/
structure SessionClock where
  createdAt : ℕ
  committedAt : ℕ
  nonce : String

/-- `[A-Za-z0-9][A-Za-z0-9_.-]{0,79}`, and no two dots in a row. -/
def isSessionId (s : String) : Bool :=
  match s.toList with
  | [] => false
  | c :: cs => c.isAlphanum && cs.length ≤ 79 &&
      (cs.all fun d => d.isAlphanum || d == '_' || d == '.' || d == '-') &&
      !decide (['.', '.'] <:+: c :: cs)

/-- The content of a record that must be there and complete. -/
def readRecord {α : Type} (f : Option (File α)) (path : String) : SessionProg α :=
  match f with
  | some (.whole a) => pure a
  | _ => .raise (.unreadable path)

namespace HarnessSessionStore

variable (S : HarnessSessionStore)

def requireDigest (value fieldName : String) : Except SessionError String := do
  let normalized := (strip value).toLower
  raiseIf (isDigest normalized = false) (.value (fieldName ++ " must be a lowercase SHA-256 digest"))
  return normalized

def requireNonempty (value fieldName : String) : Except SessionError String := do
  let normalized := strip value
  raiseIf (normalized = "") (.value (fieldName ++ " may not be empty"))
  return normalized

def assertSafeSessionId (sessionId : String) : Except SessionError String := do
  let normalized := strip sessionId
  raiseIf (isSessionId normalized = false) (.validation "invalid harness session id")
  return normalized

/-- The manifest of a new session. -/
def newManifest (projectDir releaseDigest sessionId : String) (limits : HarnessSessionLimits)
    (createdAt : ℕ) : HarnessSessionManifest where
  sessionId := sessionId
  projectDir := projectDir
  activeReleaseDigest := releaseDigest
  limits := limits
  createdAtMs := createdAt
  version := 0
  messageCount := 0
  nextSequence := 0
  lastMessageId := none
  carryover := []
  moved := ⟨rfl, rfl⟩
  head := ⟨fun _ => rfl, fun _ => rfl⟩

/-- The directory of a session without messages. -/
def newSession (manifest : HarnessSessionManifest) : SessionDisk where
  lock := false
  manifest := some manifest
  prepares := .empty
  commits := .empty
  messages := .empty

/-- `create_session`, with a session id that is given or allocated: the id it settles on, and the
directory it leaves. -/
def createSession (projectDir activeReleaseDigest sessionId : String)
    (limits : HarnessSessionLimits) (createdAt : ℕ) : Except SessionError (String × SessionDisk) := do
  let releaseDigest ← requireDigest activeReleaseDigest "active_release_digest"
  let allocated ← assertSafeSessionId sessionId
  return (allocated, newSession (newManifest projectDir releaseDigest allocated limits createdAt))

def assertRelease (manifest : HarnessSessionManifest) (activeReleaseDigest : String) :
    Except SessionError Unit := do
  let current ← requireDigest activeReleaseDigest "active_release_digest"
  raiseIf (current ≠ manifest.activeReleaseDigest)
    (.releaseMismatch manifest.sessionId manifest.activeReleaseDigest current)

/-! ### Single records -/

def writePrepare (p : HarnessSessionPrepare) : SessionProg Unit :=
  .writeOnce .writePrepare (·.prepares.get? p.prepareId)
    (fun f d => { d with prepares := d.prepares.set p.prepareId f }) p
    (.validation "immutable session path already contains different bytes: prepare")

def writeMessageFile (m : HarnessSessionMessage) : SessionProg Unit :=
  .writeOnce .writeMessage (·.messages.get? (messageFile m))
    (fun f d => { d with messages := d.messages.set (messageFile m) f }) m
    (.validation "immutable session path already contains different bytes: message")

/-- The commit record of a prepared message. -/
def commit (p : HarnessSessionPrepare) (committedAt : ℕ) : HarnessSessionCommit where
  commitId := commitId p.message
  sessionId := p.sessionId
  prepareDigest := S.digests.prepare p
  messageDigest := S.digests.message p.message
  nextManifestDigest := S.digests.manifest p.nextManifest
  committedAtMs := committedAt

def writeCommit (c : HarnessSessionCommit) : SessionProg Unit :=
  .writeOnce .writeCommit (·.commits.get? c.commitId)
    (fun f d => { d with commits := d.commits.set c.commitId f }) c
    (.validation "immutable session path already contains different bytes: commit")

def writeManifest (manifest : HarnessSessionManifest) : SessionProg Unit :=
  .step .writeManifest id fun d => { d with manifest := some manifest }

def readManifest : SessionProg HarnessSessionManifest := do
  match (← .read).manifest with
  | some manifest => pure manifest
  | none => .raise (.unreadable "session.json")

/-! ### Recovery -/

/-- `sorted(wal_dir.glob("prepare.*.json"))`, as prepare ids. -/
def sortedPrepares (d : SessionDisk) : List String :=
  d.prepares.keys.insertionSort fun t t' => t ++ ".json" ≤ t' ++ ".json"

/-- Remove the file of an uncommitted message. -/
def unlinkMessage (p : HarnessSessionPrepare) : SessionProg Unit := do
  match (← .read).messages.get? (messageFile p.message) with
  | some f =>
    let recorded ← readRecord (some f) (messageFile p.message)
    if S.digests.message recorded = S.digests.message p.message then
      .step .unlinkMessage id fun d => { d with messages := d.messages.erase (messageFile p.message) }
    else
      .raise (.validation "uncommitted message path contains unexpected history")
  | none => pure ()

/-- An uncommitted message is rolled back. -/
def rollBack (p : HarnessSessionPrepare) (path : String) : SessionProg Unit := do
  S.unlinkMessage p
  .step .unlinkPrepare id fun d => { d with prepares := d.prepares.erase path }

def assertCommitMatches (p : HarnessSessionPrepare) (c : HarnessSessionCommit) :
    Except SessionError Unit :=
  raiseIf (c.sessionId ≠ S.sessionId ∨ c.prepareDigest ≠ S.digests.prepare p ∨
      c.messageDigest ≠ S.digests.message p.message ∨
      c.nextManifestDigest ≠ S.digests.manifest p.nextManifest)
    (.validation "commit record crossed prepare/message/manifest identity")

/-- The file of a committed message is there. -/
def restoreMessage (p : HarnessSessionPrepare) : SessionProg Unit := do
  match (← .read).messages.get? (messageFile p.message) with
  | some f =>
    let recorded ← readRecord (some f) (messageFile p.message)
    .check (raiseIf (S.digests.message recorded ≠ S.digests.message p.message)
      (.validation "committed message path contains unexpected history"))
  | none => writeMessageFile p.message

/-- The manifest is the one after a committed message, or a later one. -/
def restoreManifest (p : HarnessSessionPrepare) : SessionProg Unit := do
  let current ← readManifest
  if current.version = p.baseVersion then
    writeManifest p.nextManifest
  else if p.nextManifest.version < current.version ∨
      current.version = p.nextManifest.version ∧
        current.lastMessageId = p.nextManifest.lastMessageId then
    pure ()
  else
    .raise .inventingHistory

/-- A committed message is rolled forward. -/
def rollForward (p : HarnessSessionPrepare) (c : HarnessSessionCommit) : SessionProg Unit := do
  .check (S.assertCommitMatches p c)
  S.restoreMessage p
  restoreManifest p

/-- One round of the loop of `_recover_unlocked`. -/
def recoverPrepare (path : String) : SessionProg Unit := do
  let p ← readRecord ((← .read).prepares.get? path) path
  .check (raiseIf (p.sessionId ≠ S.sessionId)
    (.validation "prepare record crossed session identity"))
  match (← .read).commits.get? (commitId p.message) with
  | none => S.rollBack p path
  | some f => do
    let c ← readRecord (some f) (commitId p.message)
    S.rollForward p c

def recoverUnlocked : SessionProg HarnessSessionManifest := do
  let _ ← readManifest
  (sortedPrepares (← .read)).forM S.recoverPrepare
  readManifest

/-- `.writer.lock` -/
def writerLock : Lock SessionStep SessionDisk SessionError where
  create := .createLock
  remove := .removeLock
  held := (·.lock)
  set := fun lock d => { d with lock := lock }
  busy := .concurrency S.sessionId

def recover (activeReleaseDigest : Option String) : SessionProg HarnessSessionManifest := do
  let manifest ← .withLock S.writerLock S.recoverUnlocked
  match activeReleaseDigest with
  | some digest => .check (assertRelease manifest digest)
  | none => pure ()
  return manifest

def contextForNext (activeReleaseDigest : String) : SessionProg HarnessNextContext := do
  let manifest ← S.recover none
  .check (assertRelease manifest activeReleaseDigest)
  return { sessionId := manifest.sessionId
           activeReleaseDigest := manifest.activeReleaseDigest
           sessionManifestDigest := S.digests.manifest manifest
           parentMessageId := manifest.lastMessageId
           nextSequence := manifest.nextSequence
           limits := manifest.limits
           carryover := manifest.carryover }

/-! ### Appending -/

def assertPublicSafeText (value fieldName : String) : Except SessionError Unit :=
  match S.unsafeReason value with
  | some reason => .error (.unsafeText fieldName reason)
  | none => .ok ()

/-- The loop of `_normalize_carryover`. -/
def checkCarryover (limits : HarnessSessionLimits) (seen : List String) :
    List HarnessCarryoverRef → Except SessionError Unit
  | [] => .ok ()
  | entry :: entries => do
    raiseIf (entry.artifactRef ∈ seen) (.validation "duplicate carryover artifact_ref")
    S.assertPublicSafeText entry.artifactRef "artifact_ref"
    S.assertPublicSafeText entry.summary "summary"
    raiseIf (limits.maxSummaryBytes < entry.summary.utf8ByteSize)
      (.validation "carryover summary exceeds the configured summary byte limit")
    checkCarryover limits (entry.artifactRef :: seen) entries

def normalizeCarryover (entries : List HarnessCarryoverRef) (limits : HarnessSessionLimits) :
    Except SessionError (List HarnessCarryoverRef) := do
  raiseIf (limits.maxEntries < entries.length)
    (.validation "carryover exceeds the configured entry limit")
  S.checkCarryover limits [] entries
  raiseIf (limits.maxTotalBytes < S.encodedSize entries)
    (.validation "carryover exceeds the configured total byte limit")
  return entries

def messageId (manifest : HarnessSessionManifest) (messageSummary : String)
    (carryover : List HarnessCarryoverRef) (nonce : String) : String :=
  "hmsg." ++ takeChars 20 (S.digests.messageSeed
    { session := manifest.sessionId
      release := manifest.activeReleaseDigest
      baseVersion := manifest.version
      sequence := manifest.nextSequence
      messageSummary := messageSummary
      carryover := carryover.map S.digests.carryoverRef
      nonce := nonce })

def nextManifest (manifest : HarnessSessionManifest) (message : HarnessSessionMessage) :
    HarnessSessionManifest where
  sessionId := manifest.sessionId
  projectDir := manifest.projectDir
  activeReleaseDigest := manifest.activeReleaseDigest
  limits := manifest.limits
  createdAtMs := manifest.createdAtMs
  version := manifest.version + 1
  messageCount := manifest.messageCount + 1
  nextSequence := manifest.nextSequence + 1
  lastMessageId := some message.messageId
  carryover := message.carryover
  moved := by simp [manifest.moved]
  head := by simp

/-- The transaction that `append_message` prepares on a manifest of this session. -/
def buildPrepare (manifest : HarnessSessionManifest) (args : AppendArgs)
    (carryover : List HarnessCarryoverRef) (clock : SessionClock) :
    Except SessionError HarnessSessionPrepare := do
  let messageSummary ← requireNonempty args.messageSummary "message_summary"
  let message : HarnessSessionMessage :=
    { sessionId := S.sessionId
      messageId := S.messageId manifest args.messageSummary carryover clock.nonce
      parentMessageId := manifest.lastMessageId
      sequence := manifest.nextSequence
      baseVersion := manifest.version
      activeReleaseDigest := manifest.activeReleaseDigest
      messageSummary := messageSummary
      carryover := carryover
      createdAtMs := clock.createdAt }
  if hsession : manifest.sessionId = S.sessionId then
    return { prepareId := prepareId message
             sessionId := S.sessionId
             baseManifestDigest := S.digests.manifest manifest
             baseVersion := manifest.version
             message := message
             nextManifest := nextManifest manifest message
             message_session := ⟨rfl, hsession⟩
             message_base := rfl
             next_version := rfl
             next_message := rfl
             next_carryover := rfl }
  else
    .error (.value "prepared session message crossed session identity")

def appendMessage (args : AppendArgs) (clock : SessionClock) : SessionProg HarnessSessionMessage :=
  .withLock S.writerLock do
    let manifest ← S.recoverUnlocked
    .check (assertRelease manifest args.activeReleaseDigest)
    .check (raiseIf (args.expectedVersion ≠ manifest.version)
      (.version S.sessionId args.expectedVersion manifest.version))
    .check (S.assertPublicSafeText args.messageSummary "message_summary")
    .check (raiseIf (manifest.limits.maxSummaryBytes < args.messageSummary.utf8ByteSize)
      (.validation "message_summary exceeds the configured summary byte limit"))
    let carryover ← .check (S.normalizeCarryover args.carryover manifest.limits)
    let p ← .check (S.buildPrepare manifest args carryover clock)
    writePrepare p
    writeMessageFile p.message
    writeCommit (S.commit p clock.committedAt)
    writeManifest p.nextManifest
    return p.message

/-! ### Runs -/

/-- The operations on a session, with their arguments. -/
inductive Call
  | appendMessage (args : AppendArgs) (clock : SessionClock)
  | contextForNext (activeReleaseDigest : String)
  | recover (activeReleaseDigest : Option String)

/-- A call in a run, and the fault that strikes it, if any. -/
structure Event where
  call : Call
  fault : Option (Fault SessionStep) := none

def program (e : Event) : SessionProg Unit :=
  match e.call with
  | .appendMessage args clock => S.appendMessage args clock >>= fun _ => pure ()
  | .contextForNext digest => S.contextForNext digest >>= fun _ => pure ()
  | .recover digest => S.recover digest >>= fun _ => pure ()

/-- The outcome of one call on a disk, and the machine it leaves. -/
def execute (m : Machine SessionStep SessionDisk) (e : Event) :
    Except (Stop SessionError) Unit × Machine SessionStep SessionDisk :=
  S.program e { m with fault := e.fault }

/-- The machine after a sequence of calls. -/
def run (m : Machine SessionStep SessionDisk) (events : List Event) :
    Machine SessionStep SessionDisk :=
  events.foldl (fun m e => (S.execute m e).2) m

end HarnessSessionStore
end Agintor.Storage
