import Agintor.Core.JsonRecord

/-!
# Trace contexts

`OpenAITraceContext` of `contracts/tracing.py`: what a model call is attributed to. It is dumped
without the fields that are `None`, and its validators leave a dumped context as it is.
-/

namespace Agintor.Contracts

open Lib Core Json

/-! ## Optional fields -/

section
variable {α β Field : Type}

/-- A field that is dumped unless it is `None`. -/
def present (key : String) (toJson : α → Json) : Option α → List (String × Json)
  | some value => [(key, toJson value)]
  | none => []

/-- `Optional[...]` -/
def readOptional (read : Json → Except ValidationError α) :
    Json → Except ValidationError (Option α)
  | .null => .ok none
  | value => (read value).map some

/-- The optional fields of one type, dumped. -/
def presentFields (key : Field → String) (toJson : α → Json) (value : Field → Option α)
    (members : List Field) : List (String × Json) :=
  members.flatMap fun field => present (key field) toJson (value field)

/-- The optional fields of one type, read. -/
def readFields [DecidableEq Field] (key : Field → String) (read : Json → Except ValidationError α)
    (fields : List (String × Json)) :
    List Field → Except ValidationError (Field → Option α)
  | [] => .ok fun _ => none
  | field :: members => do
    let value ← readField (key field) (readOptional read) (some none) fields
    let values ← readFields key read fields members
    return fun other => if other = field then value else values other

lemma get?_present (key other : String) (toJson : α → Json) (value : Option α) :
    get? key (present other toJson value) = if other = key then value.map toJson else none := by
  cases value <;> simp [present, get?_cons]

variable {key : Field → String} {toJson : α → Json}

lemma get?_presentFields [DecidableEq Field] (hkey : key.Injective) (toJson : α → Json)
    (value : Field → Option α) (members : List Field) (field : Field) :
    get? (key field) (presentFields key toJson value members) =
      if field ∈ members then (value field).map toJson else none := by
  induction members with
  | nil => rfl
  | cons first members ih =>
    rw [presentFields, List.flatMap_cons, get?_append, get?_present]
    show (if _ then _ else _ : Option Json).or (get? _ (presentFields key toJson value members)) = _
    rw [ih]
    by_cases hfirst : key first = key field
    · obtain rfl := hkey hfirst
      cases value first <;> simp
    · have hne : field ≠ first := fun h => hfirst (congrArg key h.symm)
      simp [hfirst, hne]

variable {fields : List (String × Json)} {value : Field → Option α}

lemma get?_presentFields_of_ne {members : List Field} {other : String}
    (h : ∀ field ∈ members, key field ≠ other) :
    get? other (presentFields key toJson value members) = none := by
  induction members with
  | nil => rfl
  | cons first members ih =>
    rw [presentFields, List.flatMap_cons, get?_append, get?_present,
      if_neg (h first List.mem_cons_self)]
    exact ih fun field hfield => h field (List.mem_cons_of_mem first hfield)

/-- An optional field is read from what it was dumped as. -/
lemma readField_of_present {read : Json → Except ValidationError (Option α)} {key : String}
    {value : Option α} (hread : ∀ x, read (toJson x) = .ok (some x))
    (h : get? key fields = value.map toJson) :
    readField key read (some none) fields = .ok value := by
  cases value with
  | some x => rw [readField_of_get? h, hread]
  | none => exact readField_of_none h

lemma readFields_eq [DecidableEq Field] {read : Json → Except ValidationError α}
    (hread : ∀ x, readOptional read (toJson x) = .ok (some x)) (members : List Field)
    (h : ∀ field ∈ members, get? (key field) fields = (value field).map toJson) :
    readFields key read fields members =
      .ok fun field => if field ∈ members then value field else none := by
  induction members with
  | nil => simp [readFields]
  | cons first members ih =>
    have hfirst := readField_of_present hread (h first List.mem_cons_self)
    rw [readFields, hfirst, ok_bind, ih fun field hfield => h field (List.mem_cons_of_mem _ hfield),
      ok_bind, pure_eq_ok]
    congr 1
    ext field : 1
    by_cases hsame : field = first <;> simp [hsame]

end

/-! ## Contexts -/

/-- The optional texts of a context. -/
inductive TraceText
  | sessionId
  | providerRole
  | buildId
  | runtimeHash
  | runtimeDir
  | taskId
  | requestId
  | evaluationUnitId
  | factoryChatId
  | factoryMessageId
  | runtimeSessionId
  | runtimeMessageId
  | objective
  | agentId
  | frameRole
  | workerId
  | opId
  | runNodeId
deriving DecidableEq

def TraceText.key : TraceText → String
  | .sessionId => "session_id"
  | .providerRole => "provider_role"
  | .buildId => "build_id"
  | .runtimeHash => "runtime_hash"
  | .runtimeDir => "runtime_dir"
  | .taskId => "task_id"
  | .requestId => "request_id"
  | .evaluationUnitId => "evaluation_unit_id"
  | .factoryChatId => "factory_chat_id"
  | .factoryMessageId => "factory_message_id"
  | .runtimeSessionId => "runtime_session_id"
  | .runtimeMessageId => "runtime_message_id"
  | .objective => "objective"
  | .agentId => "agent_id"
  | .frameRole => "frame_role"
  | .workerId => "worker_id"
  | .opId => "op_id"
  | .runNodeId => "run_node_id"

def TraceText.members : List TraceText :=
  [.sessionId, .providerRole, .buildId, .runtimeHash, .runtimeDir, .taskId, .requestId,
    .evaluationUnitId, .factoryChatId, .factoryMessageId, .runtimeSessionId, .runtimeMessageId,
    .objective, .agentId, .frameRole, .workerId, .opId, .runNodeId]

/-- The optional numbers of a context. -/
inductive TraceNumber
  | seed
  | episodeStepIndex
  | factoryMessageIndex
  | runtimeMessageIndex
  | iteration
deriving DecidableEq

def TraceNumber.key : TraceNumber → String
  | .seed => "seed"
  | .episodeStepIndex => "episode_step_index"
  | .factoryMessageIndex => "factory_message_index"
  | .runtimeMessageIndex => "runtime_message_index"
  | .iteration => "iteration"

def TraceNumber.members : List TraceNumber :=
  [.seed, .episodeStepIndex, .factoryMessageIndex, .runtimeMessageIndex, .iteration]

inductive RequestMode
  | benchmark
  | userRequest
  | batch

def RequestMode.name : RequestMode → String
  | .benchmark => "benchmark"
  | .userRequest => "user_request"
  | .batch => "batch"

def RequestMode.members : List RequestMode := [.benchmark, .userRequest, .batch]

/-- The only kind an episode can have. -/
inductive EpisodeKind
  | transferEpisode
deriving DecidableEq

def EpisodeKind.toJson : EpisodeKind → Json
  | .transferEpisode => .str "transfer_episode"

/-- `normalize_episode_kind` -/
def normalizeEpisodeKind (value : Json) : Except ValidationError (Option EpisodeKind) :=
  .ok (if strip ((text? value).getD "") = "transfer_episode" then some .transferEpisode else none)

/-- `normalize_episode_scope`: only a transfer episode has steps. -/
def normalizeEpisodeScope (episodeKind : Option EpisodeKind) (number : TraceNumber → Option ℤ) :
    TraceNumber → Option ℤ := fun field =>
  if field = .episodeStepIndex ∧ episodeKind = none then none else number field

structure OpenAITraceContext where
  text : TraceText → Option String
  number : TraceNumber → Option ℤ
  requestMode : Option RequestMode
  episodeKind : Option EpisodeKind
  touchedScope : List String
  scope : normalizeEpisodeScope episodeKind number = number

/-- `model_dump(mode="json", exclude_none=True)` -/
def OpenAITraceContext.fields (context : OpenAITraceContext) : List (String × Json) :=
  presentFields TraceText.key .str context.text TraceText.members ++
  presentFields TraceNumber.key .int context.number TraceNumber.members ++
  present "request_mode" (fun mode => .str (RequestMode.name mode)) context.requestMode ++
  present "episode_kind" EpisodeKind.toJson context.episodeKind ++
  [("touched_scope", .array (context.touchedScope.map .str))]

lemma normalizeEpisodeScope_idem (episodeKind : Option EpisodeKind)
    (number : TraceNumber → Option ℤ) :
    normalizeEpisodeScope episodeKind (normalizeEpisodeScope episodeKind number) =
      normalizeEpisodeScope episodeKind number := by
  ext field : 1
  unfold normalizeEpisodeScope
  split <;> rfl

/-- `model_validate`, which ignores other keys. -/
def OpenAITraceContext.read (L : LaxMode) (value : Json) :
    Except ValidationError OpenAITraceContext := do
  let fields ← readDict value
  let text ← readFields TraceText.key readStr fields TraceText.members
  let number ← readFields TraceNumber.key (readLax L.int) fields TraceNumber.members
  let requestMode ← readField "request_mode"
    (readOptional (readLiteral RequestMode.name RequestMode.members)) (some none) fields
  let episodeKind ← readField "episode_kind" normalizeEpisodeKind (some none) fields
  let touchedScope ← readField "touched_scope" (readList readStr) (some []) fields
  return ⟨text, normalizeEpisodeScope episodeKind number, requestMode, episodeKind, touchedScope,
    normalizeEpisodeScope_idem episodeKind number⟩

/-! ## Reading a dumped context -/

lemma TraceText.key_injective : TraceText.key.Injective := by
  have hfind : ∀ field : TraceText, members.find? (fun other => other.key = field.key) =
      some field := by
    intro field
    cases field <;> rfl
  intro a b hab
  have hfound := hfind a
  rw [hab, hfind b] at hfound
  exact (Option.some.inj hfound).symm

lemma TraceNumber.key_injective : TraceNumber.key.Injective := by
  have hfind : ∀ field : TraceNumber, members.find? (fun other => other.key = field.key) =
      some field := by
    intro field
    cases field <;> rfl
  intro a b hab
  have hfound := hfind a
  rw [hab, hfind b] at hfound
  exact (Option.some.inj hfound).symm

lemma TraceText.mem_members (field : TraceText) : field ∈ members := by
  cases field <;> decide

lemma TraceNumber.mem_members (field : TraceNumber) : field ∈ members := by
  cases field <;> decide

lemma readOptional_requestMode (mode : RequestMode) :
    readOptional (readLiteral RequestMode.name RequestMode.members) (.str mode.name) =
      .ok (some mode) := by
  cases mode <;> rfl

lemma normalizeEpisodeKind_toJson (kind : EpisodeKind) :
    normalizeEpisodeKind kind.toJson = .ok (some kind) := by
  cases kind
  have hstrip : strip "transfer_episode" = "transfer_episode" := by decide +kernel
  simp [normalizeEpisodeKind, EpisodeKind.toJson, text?, hstrip]

variable (context : OpenAITraceContext)

lemma TraceText.get?_key (field : TraceText) :
    get? field.key context.fields = (context.text field).map .str := by
  have hnumber : get? field.key
      (presentFields TraceNumber.key .int context.number TraceNumber.members) = none :=
    get?_presentFields_of_ne fun number _ => by cases number <;> cases field <;> decide
  have hothers : ¬"request_mode" = field.key ∧ ¬"episode_kind" = field.key ∧
      ¬"touched_scope" = field.key := by cases field <;> decide
  rw [OpenAITraceContext.fields]
  simp [get?_append, get?_presentFields key_injective, mem_members, hnumber, get?_present,
    get?_cons, hothers]

lemma TraceNumber.get?_key (field : TraceNumber) :
    get? field.key context.fields = (context.number field).map .int := by
  have htext : get? field.key
      (presentFields TraceText.key .str context.text TraceText.members) = none :=
    get?_presentFields_of_ne fun text _ => by cases text <;> cases field <;> decide
  have hothers : ¬"request_mode" = field.key ∧ ¬"episode_kind" = field.key ∧
      ¬"touched_scope" = field.key := by cases field <;> decide
  rw [OpenAITraceContext.fields]
  simp [get?_append, get?_presentFields key_injective, mem_members, htext, get?_present, get?_cons,
    hothers]

lemma get?_of_other {key : String} (htext : ∀ field : TraceText, field.key ≠ key)
    (hnumber : ∀ field : TraceNumber, field.key ≠ key) :
    get? key context.fields = get? key
      (present "request_mode" (fun mode => .str (RequestMode.name mode)) context.requestMode ++
        (present "episode_kind" EpisodeKind.toJson context.episodeKind ++
          [("touched_scope", .array (context.touchedScope.map .str))])) := by
  rw [OpenAITraceContext.fields]
  simp only [List.append_assoc]
  rw [get?_append, get?_presentFields_of_ne fun field _ => htext field, Option.none_or, get?_append,
    get?_presentFields_of_ne fun field _ => hnumber field, Option.none_or]

/-- A dumped context is read back. -/
theorem OpenAITraceContext.read_fields (L : LaxMode) :
    OpenAITraceContext.read L (.object context.fields) = .ok context := by
  have hstr : ∀ s, readOptional readStr (.str s) = .ok (some s) := fun _ => rfl
  have hint : ∀ n, readOptional (readLax L.int) (.int n) = .ok (some n) := fun n => by
    simp [readOptional, Except.map]
  have htext := readFields_eq hstr TraceText.members fun field _ => field.get?_key context
  have hnumber := readFields_eq hint TraceNumber.members fun field _ => field.get?_key context
  have hmode : get? "request_mode" context.fields =
      context.requestMode.map fun mode => .str mode.name := by
    rw [get?_of_other context (fun field => by cases field <;> decide)
      fun field => by cases field <;> decide]
    simp [get?_append, get?_present, get?_cons]
  have hkind : get? "episode_kind" context.fields =
      context.episodeKind.map EpisodeKind.toJson := by
    rw [get?_of_other context (fun field => by cases field <;> decide)
      fun field => by cases field <;> decide]
    simp [get?_append, get?_present, get?_cons]
  have hscope : get? "touched_scope" context.fields =
      some (.array (context.touchedScope.map .str)) := by
    rw [get?_of_other context (fun field => by cases field <;> decide)
      fun field => by cases field <;> decide]
    simp [get?_append, get?_present, get?_cons]
  rw [OpenAITraceContext.read, readDict_object, ok_bind, htext, ok_bind, hnumber, ok_bind,
    readField_of_present readOptional_requestMode hmode, ok_bind,
    readField_of_present normalizeEpisodeKind_toJson hkind, ok_bind, readField_of_get? hscope, readList_str, ok_bind, pure_eq_ok]
  simp [TraceText.mem_members, TraceNumber.mem_members, context.scope]

end Agintor.Contracts
