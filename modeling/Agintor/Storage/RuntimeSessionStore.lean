import Mathlib.Algebra.Order.Ring.Rat
import Agintor.Core.Text
import Agintor.Lib.NumberedDirectory

/-!
# Runtime chat sessions

`RuntimeSessionStore` of `storage/runtime_session_store.py`, for one session: messages are staged
in a directory of their own and then renamed into `messages/`, and a completed message carries
its long-term graph, its predictor and its short-term rows to the next one. A process may die
between the rename and the write of the manifest.

Left out: the fields of messages, requests, responses and results that the store only copies.
-/

namespace Agintor.Storage.RuntimeSession

open Agintor.Core Lib

inductive LifecycleState
  | completed
  | paused
  | failed
  | cancelled
deriving DecidableEq

/-- `messages/<dir>/<file>`, below the directory of the session. -/
structure ArtifactPath where
  dir : String
  file : String
deriving DecidableEq

structure RuntimeSessionMessage where
  messageId : PathComponent
  messageIndex : ℤ
  parentMessageId : Option String
  sessionId : String
  requestId : String
  prompt : String
  createdAt : ℚ
  boundaryStatePath : Option ArtifactPath
  longTermGraphPath : Option ArtifactPath
  predictorSnapshotPath : Option ArtifactPath
  resultPath : Option ArtifactPath
  responsePath : Option ArtifactPath
  lifecycleState : LifecycleState
deriving DecidableEq

structure RuntimeSessionIdentity where
  sessionId : String
  messageCount : ℤ
  lastMessageId : Option String

/-- The graph, the predictor and the short-term rows are JSON values of types `G`, `P` and `R`. -/
structure SolveResult (G P R : Type) where
  postMessageLongTermGraph : Option G
  postMessagePredictorSnapshot : Option P
  postMessageShortTermExport : List R

structure CapabilityExchange where
  checkpointSupport : Bool
  resumeSupport : Bool

structure RuntimeSolveResponse where
  capabilityExchange : CapabilityExchange

structure RuntimeSessionSeed (G P R : Type) where
  sessionId : String
  messageIndex : ℤ
  parentMessageId : Option String
  longTermGraph : G
  predictorSnapshot : Option P
  shortTermCarryover : List R

/-- The content of a file of a message. -/
inductive Content (G P R : Type)
  | text (text : String)
  | response (response : RuntimeSolveResponse)
  | result (result : SolveResult G P R)
  | longTermGraph (graph : G)
  | predictorSnapshot (predictor : P)
  | boundaryState (shortTermCarryover : List R)
  | metadata (message : RuntimeSessionMessage)

namespace Content

variable {G P R : Type}

def longTermGraph? : Content G P R → Option G
  | .longTermGraph graph => some graph
  | _ => none

def predictorSnapshot? : Content G P R → Option P
  | .predictorSnapshot predictor => some predictor
  | _ => none

def boundaryState? : Content G P R → Option (List R)
  | .boundaryState shortTermCarryover => some shortTermCarryover
  | _ => none

end Content

abbrev MessageDir (G P R : Type) := Dict String (Content G P R)

/-- Write a file, if there is something to write. -/
def MessageDir.write {G P R : Type} (name : String) (content : Option (Content G P R))
    (dir : MessageDir G P R) : MessageDir G P R :=
  match content with
  | some content => dir.set name content
  | none => dir

/-- The files of a session. -/
structure Session (G P R : Type) where
  root : String
  manifest : Option RuntimeSessionIdentity
  messages : Dict String (MessageDir G P R)

abbrev RuntimeLoadError := String

variable {G P R : Type}

/-- `create_session`, for an allocated id. -/
def createSession (root sessionId : String) : Session G P R where
  root := root
  manifest := some { sessionId := sessionId, messageCount := 0, lastMessageId := none }
  messages := .empty

def RuntimeSessionMessage.hasCarryoverPath (m : RuntimeSessionMessage) : Bool :=
  m.boundaryStatePath.isSome || m.longTermGraphPath.isSome || m.predictorSnapshotPath.isSome

def SolveResult.hasCarryoverArtifacts (r : SolveResult G P R) : Bool :=
  !r.postMessageShortTermExport.isEmpty || r.postMessageLongTermGraph.isSome ||
    r.postMessagePredictorSnapshot.isSome

namespace Session

variable (s : Session G P R)

def pathText (path : ArtifactPath) : String :=
  s.root ++ "/messages/" ++ path.dir ++ "/" ++ path.file

/-- `_read_manifest` -/
def readManifest : Except RuntimeLoadError RuntimeSessionIdentity :=
  match s.manifest with
  | some identity => .ok identity
  | none => .error ("runtime session manifest not found at " ++ s.root ++ "/manifest.json")

/-- `_read_message_metadata` -/
def readMessageMetadata (name : String) (dir : MessageDir G P R) :
    Except RuntimeLoadError RuntimeSessionMessage :=
  match dir.get? "metadata.json" with
  | none => .error ("runtime session message metadata is missing at " ++
      s.pathText ⟨name, "metadata.json"⟩)
  | some (.metadata m) => .ok m
  | some _ => .error ("runtime session message metadata is corrupt at " ++
      s.pathText ⟨name, "metadata.json"⟩)

def latestMessage : Except RuntimeLoadError (Option RuntimeSessionMessage) :=
  readLast s.readMessageMetadata s.messages

/-- The loop of `latest_completed_message`, over the directories in falling order. -/
def firstCompleted : List (String × MessageDir G P R) →
    Except RuntimeLoadError (Option RuntimeSessionMessage)
  | [] => .ok none
  | e :: rest => do
    let message ← s.readMessageMetadata e.1 e.2
    if message.lifecycleState ≠ .completed then firstCompleted rest
    else if message.hasCarryoverPath = false then
      .error ("completed runtime session message " ++ quoted message.messageId.text ++
        " has no persisted carryover artifacts")
    else return some message

def latestCompletedMessage : Except RuntimeLoadError (Option RuntimeSessionMessage) :=
  s.firstCompleted (listing s.messages).reverse

def readMessages : Except RuntimeLoadError (List RuntimeSessionMessage) :=
  readAll s.readMessageMetadata s.messages

def nextMessageIndex : Except RuntimeLoadError ℤ := do
  let latest ← s.latestMessage
  return nextIndex (·.messageIndex) latest

/-- The content of the file at a path. -/
def file? (path : ArtifactPath) : Option (Content G P R) :=
  (s.messages.get? path.dir).bind (·.get? path.file)

/-- Load the artifact at a path, if there is one. -/
def load {α : Type} (artifact : String) (parse : Content G P R → Option α) (absent : α) :
    Option ArtifactPath → Except RuntimeLoadError α
  | none => .ok absent
  | some path =>
    match s.file? path with
    | none => .error ("runtime session " ++ artifact ++ " artifact is missing at " ++
        s.pathText path)
    | some content =>
      match parse content with
      | some a => .ok a
      | none => .error ("runtime session " ++ artifact ++ " artifact is corrupt at " ++
          s.pathText path)

/-- `_load_long_term_graph` -/
def loadLongTermGraph : Option ArtifactPath → Except RuntimeLoadError (Option G) :=
  s.load "long-term graph" (fun content => content.longTermGraph?.map some) none

/-- `_load_predictor_snapshot` -/
def loadPredictorSnapshot : Option ArtifactPath → Except RuntimeLoadError (Option P) :=
  s.load "predictor" (fun content => content.predictorSnapshot?.map some) none

/-- `_load_short_term_carryover` -/
def loadShortTermCarryover : Option ArtifactPath → Except RuntimeLoadError (List R) :=
  s.load "boundary" Content.boundaryState? []

/-- `seed_for_next_message`; `emptyGraph` is `LongTermGraphSnapshot()`. -/
def seedForNextMessage (emptyGraph : G) (sessionId : String) :
    Except RuntimeLoadError (Option (RuntimeSessionSeed G P R)) := do
  match ← s.latestCompletedMessage with
  | none => return none
  | some latest =>
    let longTermGraph ← s.loadLongTermGraph latest.longTermGraphPath
    let predictorSnapshot ← s.loadPredictorSnapshot latest.predictorSnapshotPath
    let carryover ← s.loadShortTermCarryover latest.boundaryStatePath
    let messageIndex ← s.nextMessageIndex
    return some
      { sessionId := sessionId
        messageIndex := messageIndex
        parentMessageId := some latest.messageId.text
        longTermGraph := longTermGraph.getD emptyGraph
        predictorSnapshot := predictorSnapshot
        shortTermCarryover := carryover }

end Session

/-! ## Recording -/

/-- A call of `record_message`, and whether its process dies between the rename and the write of
the manifest. -/
structure Call (G P R : Type) where
  message : RuntimeSessionMessage
  promptText : String
  requestPayload : Option String
  response : Option RuntimeSolveResponse
  result : Option (SolveResult G P R)
  interrupted : Bool

/-- `_format_message_dir` -/
def formatMessageDir (message : RuntimeSessionMessage) : String :=
  numberedName 4 message.messageIndex message.messageId.text

namespace Call

variable (c : Call G P R)

/-- `result_has_carryover_artifacts` -/
def resultHasCarryoverArtifacts : Bool :=
  match c.result with
  | none => false
  | some result => result.hasCarryoverArtifacts

/-- `requires_carryover_artifacts` -/
def requiresCarryoverArtifacts : Bool :=
  match c.response with
  | none => true
  | some response =>
    response.capabilityExchange.resumeSupport || response.capabilityExchange.checkpointSupport

/-- The result of a completed message, which is kept for the next one. -/
def persisted : Option (SolveResult G P R) :=
  c.result.filter fun _ => c.message.lifecycleState = .completed

/-- The path of a file of the message. -/
def path (file : String) : ArtifactPath := ⟨formatMessageDir c.message, file⟩

/-- The message with the paths of the files that are written for it. -/
def recorded : RuntimeSessionMessage :=
  { c.message with
    responsePath := if c.response.isSome then some (c.path "response.json") else
      c.message.responsePath
    resultPath := if c.result.isSome then some (c.path "result.json") else c.message.resultPath
    longTermGraphPath :=
      if (c.persisted.bind (·.postMessageLongTermGraph)).isSome then
        some (c.path "long_term_graph.json")
      else c.message.longTermGraphPath
    predictorSnapshotPath :=
      if (c.persisted.bind (·.postMessagePredictorSnapshot)).isSome then
        some (c.path "predictor_snapshot.json")
      else c.message.predictorSnapshotPath
    boundaryStatePath :=
      if (c.persisted.filter (·.hasCarryoverArtifacts)).isSome then
        some (c.path "boundary_state.json")
      else c.message.boundaryStatePath }

/-- The files staged for the message, in the order in which they are written. -/
def files : MessageDir G P R :=
  Dict.empty
    |> MessageDir.write "prompt.txt" (if c.promptText ≠ "" then some (.text c.promptText) else none)
    |> MessageDir.write "request.json" (c.requestPayload.map .text)
    |> MessageDir.write "response.json" (c.response.map .response)
    |> MessageDir.write "result.json" (c.result.map .result)
    |> MessageDir.write "long_term_graph.json"
      ((c.persisted.bind (·.postMessageLongTermGraph)).map .longTermGraph)
    |> MessageDir.write "predictor_snapshot.json"
      ((c.persisted.bind (·.postMessagePredictorSnapshot)).map .predictorSnapshot)
    |> MessageDir.write "boundary_state.json"
      ((c.persisted.filter (·.hasCarryoverArtifacts)).map fun result =>
        .boundaryState result.postMessageShortTermExport)
    |> MessageDir.write "metadata.json" (some (.metadata c.recorded))

end Call

/-- The checks of `record_message`. -/
def Session.admission (s : Session G P R) (c : Call G P R) :
    Except RuntimeLoadError RuntimeSessionIdentity := do
  let identity ← s.readManifest
  raiseIf (c.message.sessionId ≠ identity.sessionId) ("runtime session message " ++
    quoted c.message.messageId.text ++ " belongs to " ++ quoted c.message.sessionId ++ ", not " ++
    quoted identity.sessionId)
  let expectedIndex ← s.nextMessageIndex
  raiseIf (c.message.messageIndex ≠ expectedIndex) ("runtime session " ++
    quoted identity.sessionId ++ " expected message_index " ++ toString expectedIndex ++
    ", got " ++ toString c.message.messageIndex)
  raiseIf (c.message.lifecycleState = .completed ∧ c.requiresCarryoverArtifacts = true ∧
      ¬(c.resultHasCarryoverArtifacts || c.message.hasCarryoverPath) = true)
    ("completed runtime session message " ++ quoted c.message.messageId.text ++
      " has no persisted carryover artifacts")
  raiseIf (s.messages.contains (formatMessageDir c.message) = true) ("runtime session message " ++
    quoted c.message.messageId.text ++ " is already recorded")
  return identity

/-- `record_message` -/
def Session.recordMessage (s : Session G P R) (c : Call G P R) :
    Except RuntimeLoadError (Session G P R) := do
  let identity ← s.admission c
  let renamed := { s with messages := s.messages.set (formatMessageDir c.message) c.files }
  if c.interrupted then return renamed
  return { renamed with
    manifest := some { identity with
      messageCount := max identity.messageCount (c.recorded.messageIndex + 1)
      lastMessageId := some c.recorded.messageId.text } }

/-- The session after a call, whether it was accepted or not. -/
def Session.perform (s : Session G P R) (c : Call G P R) : Session G P R :=
  match s.recordMessage c with
  | .ok s' => s'
  | .error _ => s

end Agintor.Storage.RuntimeSession
