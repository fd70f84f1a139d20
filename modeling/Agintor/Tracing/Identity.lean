import Agintor.Contracts.TraceContext

/-!
# Trace keys and view directories

The grouping keys of `tracing/identity.py` and the view directories of `tracing/layout.py`. A
directory is given by the names below the session directory.
-/

namespace Agintor.Tracing

open Core Contracts

/-! ## Slugs -/

/-- `[A-Za-z0-9._-]` -/
def isSlugChar (c : Char) : Bool := c.isAlphanum || c = '.' || c = '_' || c = '-'

/-- `re.sub(r"[^A-Za-z0-9._-]+", "_", ...)`, where `inRun` says that the last character was
replaced. -/
def underscored : Bool → List Char → List Char
  | _, [] => []
  | inRun, c :: cs =>
    if isSlugChar c then c :: underscored false cs
    else if inRun then underscored true cs
    else '_' :: underscored true cs

/-- The characters that `strip("._")` removes. -/
def isEdge (c : Char) : Bool := c = '.' || c = '_'

def slug (value fallback : String) : String :=
  let cleaned := ((underscored false (strip value).toList).dropWhile isEdge).rdropWhile isEdge
  String.ofList ((if cleaned = [] then fallback.toList else cleaned).take 96)

/-! ## Keys -/

/-- `str(value or "").strip()` -/
def stripped (value : Option String) : String := strip (value.getD "")

/-- `str(value or other or "").strip()` -/
def strippedOr (value other : Option String) : String :=
  strip (if value.getD "" = "" then other.getD "" else value.getD "")

/-- The part of a key or of a directory that names a message by its index. -/
def indexPart : Option ℤ → List String
  | some index => [s!"m{index}"]
  | none => []

def factoryMessageTraceKey (factoryChatId factoryMessageId : Option String)
    (factoryMessageIndex : Option ℤ) : Option String :=
  let chat := stripped factoryChatId
  let message := stripped factoryMessageId
  if chat = "" ∨ message = "" then none
  else some ("|".intercalate (["factory", chat] ++ indexPart factoryMessageIndex ++ [message]))

def runtimeMessageTraceKey (runtimeHash runtimeSessionId runtimeMessageId : Option String)
    (runtimeMessageIndex : Option ℤ) : Option String :=
  let runtime := stripped runtimeHash
  let session := stripped runtimeSessionId
  let message := stripped runtimeMessageId
  if runtime = "" ∨ session = "" ∨ message = "" then none
  else some ("|".intercalate
    (["runtime", runtime, "session", session] ++ indexPart runtimeMessageIndex ++ [message]))

/-- The step of a transfer episode. -/
def episodeStep (episodeKind : Option EpisodeKind) (episodeStepIndex : Option ℤ) : Option ℤ :=
  if episodeKind = some .transferEpisode then episodeStepIndex else none

def benchmarkEpisodeKeyParts (episodeKind : Option EpisodeKind) (episodeStepIndex : Option ℤ) :
    List String :=
  match episodeStep episodeKind episodeStepIndex with
  | some step => ["episode_transfer_episode", s!"step_{step}"]
  | none => []

def benchmarkTaskTraceKey (requestId taskId : Option String) (seed : Option ℤ)
    (runtimeHash evaluationUnitId : Option String) (episodeKind : Option EpisodeKind)
    (episodeStepIndex : Option ℤ) : Option String :=
  let requestOrUnit := strippedOr evaluationUnitId requestId
  let task := stripped taskId
  let runtime := stripped runtimeHash
  match seed with
  | none => none
  | some seed =>
    if requestOrUnit = "" ∨ task = "" ∨ runtime = "" then none
    else some ("|".intercalate ([task, s!"seed_{seed}"] ++
      benchmarkEpisodeKeyParts episodeKind episodeStepIndex ++ [runtime, requestOrUnit]))

inductive GroupKind
  | factoryMessage
  | runtimeSessionMessage
  | benchmarkTask
deriving DecidableEq

def traceGroupingKey (context : OpenAITraceContext) : Option (GroupKind × String) :=
  match context.requestMode with
  | some .benchmark =>
    (benchmarkTaskTraceKey (context.text .requestId) (context.text .taskId) (context.number .seed)
      (context.text .runtimeHash) (context.text .evaluationUnitId) context.episodeKind
      (context.number .episodeStepIndex)).map fun key => (.benchmarkTask, key)
  | _ =>
    match factoryMessageTraceKey (context.text .factoryChatId) (context.text .factoryMessageId)
        (context.number .factoryMessageIndex) with
    | some key => some (.factoryMessage, key)
    | none =>
      (runtimeMessageTraceKey (context.text .runtimeHash) (context.text .runtimeSessionId)
        (context.text .runtimeMessageId) (context.number .runtimeMessageIndex)).map
          fun key => (.runtimeSessionMessage, key)

/-! ## View directories -/

def messageSlug (index : Option ℤ) (message : String) : String :=
  let name := slug message "message"
  match index with
  | some index => s!"m{index}_{name}"
  | none => name

def factoryMessageViewDir (context : OpenAITraceContext) : Option (List String) :=
  let chat := stripped (context.text .factoryChatId)
  let message := stripped (context.text .factoryMessageId)
  if chat = "" ∨ message = "" then none
  else some ["factory_projects", slug chat "chat",
    messageSlug (context.number .factoryMessageIndex) message]

def runtimeSessionMessageViewDir (context : OpenAITraceContext) : Option (List String) :=
  let runtime := stripped (context.text .runtimeHash)
  let session := stripped (context.text .runtimeSessionId)
  let message := stripped (context.text .runtimeMessageId)
  if runtime = "" ∨ session = "" ∨ message = "" then none
  else some ["runtime_sessions", slug runtime "runtime", slug session "session",
    messageSlug (context.number .runtimeMessageIndex) message]

def benchmarkLeaf (step : Option ℤ) (requestOrUnit : String) : String :=
  let request := slug requestOrUnit "request"
  match step with
  | some step => s!"{request}__step_{step}"
  | none => request

def benchmarkTaskViewDir (context : OpenAITraceContext) : Option (List String) :=
  let requestOrUnit := strippedOr (context.text .evaluationUnitId) (context.text .requestId)
  let task := stripped (context.text .taskId)
  let runtime := stripped (context.text .runtimeHash)
  match context.number .seed with
  | none => none
  | some seed =>
    if requestOrUnit = "" ∨ task = "" ∨ runtime = "" then none
    else some ["benchmark_tasks", slug task "task", s!"seed_{seed}", slug runtime "runtime",
      benchmarkLeaf (episodeStep context.episodeKind (context.number .episodeStepIndex))
        requestOrUnit]

def traceGroupViewDir : GroupKind → OpenAITraceContext → Option (List String)
  | .factoryMessage => factoryMessageViewDir
  | .runtimeSessionMessage => runtimeSessionMessageViewDir
  | .benchmarkTask => benchmarkTaskViewDir

end Agintor.Tracing
