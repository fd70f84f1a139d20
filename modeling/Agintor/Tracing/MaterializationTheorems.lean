import Agintor.Tracing.Materialization

/-!
# When trace views lose no call

A call belongs to the identity that its context gives: a factory message, a message of a runtime
session or a task of a benchmark. Views lose no call as long as identities are kept apart by the
keys and the directories made from them, and the ordinals of the processes agree with the order in
which the records were persisted.
-/

namespace Agintor.Tracing

open Lib Core Contracts

/-! ## Identities -/

/-- What a record is grouped by. -/
inductive TraceIdentity
  | factoryMessage (chat : String) (index : Option ℤ) (message : String)
  | runtimeMessage (runtime session : String) (index : Option ℤ) (message : String)
  | benchmarkTask (task : String) (seed : ℤ) (step : Option ℤ) (runtime requestOrUnit : String)
deriving DecidableEq

def factoryIdentity (context : OpenAITraceContext) : Option TraceIdentity :=
  let chat := stripped (context.text .factoryChatId)
  let message := stripped (context.text .factoryMessageId)
  if chat = "" ∨ message = "" then none
  else some (.factoryMessage chat (context.number .factoryMessageIndex) message)

def runtimeIdentity (context : OpenAITraceContext) : Option TraceIdentity :=
  let runtime := stripped (context.text .runtimeHash)
  let session := stripped (context.text .runtimeSessionId)
  let message := stripped (context.text .runtimeMessageId)
  if runtime = "" ∨ session = "" ∨ message = "" then none
  else some (.runtimeMessage runtime session (context.number .runtimeMessageIndex) message)

def benchmarkIdentity (context : OpenAITraceContext) : Option TraceIdentity :=
  let requestOrUnit := strippedOr (context.text .evaluationUnitId) (context.text .requestId)
  let task := stripped (context.text .taskId)
  let runtime := stripped (context.text .runtimeHash)
  match context.number .seed with
  | none => none
  | some seed =>
    if requestOrUnit = "" ∨ task = "" ∨ runtime = "" then none
    else some (.benchmarkTask task seed
      (episodeStep context.episodeKind (context.number .episodeStepIndex)) runtime requestOrUnit)

def traceIdentity (context : OpenAITraceContext) : Option TraceIdentity :=
  match context.requestMode with
  | some .benchmark => benchmarkIdentity context
  | _ => (factoryIdentity context).or (runtimeIdentity context)

namespace TraceIdentity

def stepPart : Option ℤ → List String
  | some step => ["episode_transfer_episode", s!"step_{step}"]
  | none => []

def groupingKey : TraceIdentity → GroupKind × String
  | factoryMessage chat index message =>
    (.factoryMessage, "|".intercalate (["factory", chat] ++ indexPart index ++ [message]))
  | runtimeMessage runtime session index message =>
    (.runtimeSessionMessage, "|".intercalate
      (["runtime", runtime, "session", session] ++ indexPart index ++ [message]))
  | benchmarkTask task seed step runtime requestOrUnit =>
    (.benchmarkTask, "|".intercalate
      ([task, s!"seed_{seed}"] ++ stepPart step ++ [runtime, requestOrUnit]))

def viewDir : TraceIdentity → List String
  | factoryMessage chat index message =>
    ["factory_projects", slug chat "chat", messageSlug index message]
  | runtimeMessage runtime session index message =>
    ["runtime_sessions", slug runtime "runtime", slug session "session",
      messageSlug index message]
  | benchmarkTask task seed step runtime requestOrUnit =>
    ["benchmark_tasks", slug task "task", s!"seed_{seed}", slug runtime "runtime",
      benchmarkLeaf step requestOrUnit]

end TraceIdentity

section

variable (context : OpenAITraceContext)

lemma factoryMessageTraceKey_eq :
    (factoryMessageTraceKey (context.text .factoryChatId) (context.text .factoryMessageId)
      (context.number .factoryMessageIndex)).map (fun key => (GroupKind.factoryMessage, key)) =
        (factoryIdentity context).map TraceIdentity.groupingKey := by
  unfold factoryMessageTraceKey factoryIdentity
  dsimp only
  split
  · rfl
  · rfl

lemma runtimeMessageTraceKey_eq :
    (runtimeMessageTraceKey (context.text .runtimeHash) (context.text .runtimeSessionId)
      (context.text .runtimeMessageId) (context.number .runtimeMessageIndex)).map
        (fun key => (GroupKind.runtimeSessionMessage, key)) =
          (runtimeIdentity context).map TraceIdentity.groupingKey := by
  unfold runtimeMessageTraceKey runtimeIdentity
  dsimp only
  split
  · rfl
  · rfl

lemma benchmarkTaskTraceKey_eq :
    (benchmarkTaskTraceKey (context.text .requestId) (context.text .taskId)
      (context.number .seed) (context.text .runtimeHash) (context.text .evaluationUnitId)
      context.episodeKind (context.number .episodeStepIndex)).map
        (fun key => (GroupKind.benchmarkTask, key)) =
          (benchmarkIdentity context).map TraceIdentity.groupingKey := by
  unfold benchmarkTaskTraceKey benchmarkIdentity
  dsimp only
  cases context.number .seed with
  | none => rfl
  | some seed =>
    dsimp only
    split
    · rfl
    · rfl

/-- The key is made from the identity. -/
lemma traceGroupingKey_eq :
    traceGroupingKey context = (traceIdentity context).map TraceIdentity.groupingKey := by
  have hfactory := factoryMessageTraceKey_eq context
  have hruntime := runtimeMessageTraceKey_eq context
  unfold traceGroupingKey traceIdentity
  rw [hruntime]
  cases hidentity : factoryIdentity context with
  | none =>
    rw [hidentity] at hfactory
    rw [Option.map_eq_none_iff.mp hfactory]
    cases context.requestMode with
    | none => rfl
    | some mode =>
      cases mode with
      | benchmark => exact benchmarkTaskTraceKey_eq context
      | userRequest => rfl
      | batch => rfl
  | some identity =>
    rw [hidentity] at hfactory
    obtain ⟨key, hkey, hsame⟩ := Option.map_eq_some_iff.mp hfactory
    rw [hkey]
    cases context.requestMode with
    | none => exact congrArg some hsame
    | some mode =>
      cases mode with
      | benchmark => exact benchmarkTaskTraceKey_eq context
      | userRequest => exact congrArg some hsame
      | batch => exact congrArg some hsame

end

/-- So is the directory. -/
lemma traceGroupViewDir_eq {context : OpenAITraceContext} {identity : TraceIdentity}
    (h : traceIdentity context = some identity) :
    traceGroupViewDir identity.groupingKey.1 context = some identity.viewDir := by
  have hfactory (hidentity : factoryIdentity context = some identity) :
      traceGroupViewDir identity.groupingKey.1 context = some identity.viewDir := by
    unfold factoryIdentity at hidentity
    dsimp only at hidentity
    split at hidentity
    · cases hidentity
    · rename_i hne
      obtain rfl := Option.some.inj hidentity
      exact if_neg hne
  have hruntime (hidentity : runtimeIdentity context = some identity) :
      traceGroupViewDir identity.groupingKey.1 context = some identity.viewDir := by
    unfold runtimeIdentity at hidentity
    dsimp only at hidentity
    split at hidentity
    · cases hidentity
    · rename_i hne
      obtain rfl := Option.some.inj hidentity
      exact if_neg hne
  unfold traceIdentity at h
  split at h
  · unfold benchmarkIdentity at h
    dsimp only at h
    split at h
    · cases h
    · rename_i seed hseed
      split at h
      · cases h
      · rename_i hne
        obtain rfl := Option.some.inj h
        show benchmarkTaskViewDir context = _
        unfold benchmarkTaskViewDir
        rw [hseed]
        exact if_neg hne
  · rcases Option.or_eq_some_iff.mp h with h | ⟨_, h⟩
    · exact hfactory h
    · exact hruntime h

/-! ## The statement -/

/-- The records of a session. They are files, named by their call ids; each process counts its
own calls. -/
structure Session where
  /-- The records, in the order in which they were persisted. -/
  persisted : List TraceRecord
  /-- The records as they are loaded. -/
  loaded : List TraceRecord
  perm : loaded.Perm persisted
  distinct : (persisted.map (·.callId)).Nodup
  counted : persisted.Pairwise fun a b => a.process = b.process → a.callOrdinal < b.callOrdinal

def GroupKind.folder : GroupKind → String
  | .factoryMessage => "factory_projects"
  | .runtimeSessionMessage => "runtime_sessions"
  | .benchmarkTask => "benchmark_tasks"

lemma GroupKind.folder_ne (kind : GroupKind) :
    kind.folder ≠ "builds" ∧ kind.folder ≠ "solves" := by
  cases kind with
  | factoryMessage => decide
  | runtimeSessionMessage => decide
  | benchmarkTask => decide

/-- The directories of group views. -/
def IsGroupDir (dir : List String) : Prop := ∃ kind : GroupKind, dir.head? = some kind.folder

/-- The directories of all views that are written. -/
def IsViewDir (dir : List String) : Prop :=
  dir = [] ∨ IsGroupDir dir ∨ dir.head? = some "builds" ∨ dir.head? = some "solves"

/-- The views of a session lose no call. -/
structure LosesNoCall (persisted : List TraceRecord)
    (result : Views × TraceMaterializationState) : Prop where
  session : ∃ view, result.1.get? [] = some view ∧ ∀ record ∈ persisted, record ∈ view.calls
  /-- A record with a key is in one group view, with the other records of its key. -/
  grouped : ∀ record ∈ persisted, ∀ group, traceGroupingKey record.traceContext = some group →
    ∃ dir view, IsGroupDir dir ∧ result.1.get? dir = some view ∧
      (∀ other, other ∈ view.calls ↔
        other ∈ persisted ∧ traceGroupingKey other.traceContext = some group) ∧
      ∀ dir' view', IsGroupDir dir' → result.1.get? dir' = some view' → record ∈ view'.calls →
        dir' = dir
  /-- No view is shared by records of different identities. -/
  unshared : ∀ dir view, IsGroupDir dir → result.1.get? dir = some view →
    ∀ record ∈ view.calls, ∀ other ∈ view.calls,
      traceIdentity record.traceContext = traceIdentity other.traceContext
  groupedCallCount : result.2.groupedCallCount =
    persisted.countP fun record => (traceGroupingKey record.traceContext).isSome
  builds : ∀ record ∈ persisted, buildId record ≠ "" → ∃ name view,
    result.1.get? ["builds", name] = some view ∧
      ∀ other, other ∈ view.calls ↔ other ∈ persisted ∧ buildId other = buildId record
  solves : ∀ record ∈ persisted, requestId record ≠ "" → ∃ name view,
    result.1.get? ["solves", name] = some view ∧
      ∀ other, other ∈ view.calls ↔ other ∈ persisted ∧ requestId other = requestId record
  /-- Every view lists its records in the order in which they were persisted. -/
  inOrder : ∀ dir view, IsViewDir dir → result.1.get? dir = some view →
    view.calls.Sublist persisted

/-- The records are kept apart by what is made of their identities and ids, and the sort keys agree
with the order in which they were persisted. -/
structure KeptApart (persisted : List TraceRecord) : Prop where
  identities : ∀ record ∈ persisted, ∀ other ∈ persisted, ∀ identity identity',
    traceIdentity record.traceContext = some identity →
    traceIdentity other.traceContext = some identity' → identity ≠ identity' →
      identity.groupingKey ≠ identity'.groupingKey ∧ identity.viewDir ≠ identity'.viewDir
  builds : ∀ record ∈ persisted, ∀ other ∈ persisted, buildId record ≠ "" → buildId other ≠ "" →
    slug (buildId record) "build" = slug (buildId other) "build" → buildId record = buildId other
  solves : ∀ record ∈ persisted, ∀ other ∈ persisted, requestId record ≠ "" →
    requestId other ≠ "" → slug (requestId record) "request" = slug (requestId other) "request" →
      requestId record = requestId other
  ordered : persisted.Pairwise fun a b => traceRecordSortKey a ≤ traceRecordSortKey b

/-! ## The loop over the records -/

section Groups

variable (records : List TraceRecord)

/-- The key of a record in the groups of a kind. -/
def keyOf (kind : GroupKind) (record : TraceRecord) : Option String :=
  (traceGroupingKey record.traceContext).bind fun group =>
    if group.1 = kind then some group.2 else none

def optional (text : String) : Option String := if text = "" then none else some text

lemma keyOf_eq_some_iff {kind : GroupKind} {record : TraceRecord} {key : String} :
    keyOf kind record = some key ↔ traceGroupingKey record.traceContext = some (kind, key) := by
  unfold keyOf
  cases traceGroupingKey record.traceContext with
  | none => simp
  | some group =>
    obtain ⟨kind', key'⟩ := group
    by_cases h : kind' = kind
    · simp [h]
    · simp [h]

def groupOf (groups : Groups) : GroupKind → ContextGroups
  | .factoryMessage => groups.factoryMessage
  | .runtimeSessionMessage => groups.runtimeSessionMessage
  | .benchmarkTask => groups.benchmarkTask

def appended (rows : Option (List TraceRecord)) (record : TraceRecord) : List TraceRecord :=
  rows.getD [] ++ [record]

def appendedWith (group : Option (OpenAITraceContext × List TraceRecord)) (record : TraceRecord) :
    OpenAITraceContext × List TraceRecord :=
  let group := group.getD (record.traceContext, [])
  (group.1, group.2 ++ [record])

section

variable (groups : Groups)
include groups

section

variable (record : TraceRecord)

lemma addBuild_build : (addBuild groups record).build =
    groupStep (fun record => optional (buildId record)) appended groups.build record := by
  unfold addBuild groupStep optional
  dsimp only
  split
  · rfl
  · rfl

lemma addSolve_solve : (addSolve groups record).solve =
    groupStep (fun record => optional (requestId record)) appended groups.solve record := by
  unfold addSolve groupStep optional
  dsimp only
  split
  · rfl
  · rfl

lemma groupOf_addBuild (kind : GroupKind) :
    groupOf (addBuild groups record) kind = groupOf groups kind := by
  unfold addBuild
  split
  · rfl
  · cases kind with
    | factoryMessage => rfl
    | runtimeSessionMessage => rfl
    | benchmarkTask => rfl

lemma groupOf_addSolve (kind : GroupKind) :
    groupOf (addSolve groups record) kind = groupOf groups kind := by
  unfold addSolve
  split
  · rfl
  · cases kind with
    | factoryMessage => rfl
    | runtimeSessionMessage => rfl
    | benchmarkTask => rfl

lemma addSolve_build :
    (addSolve groups record).build = groups.build := by
  unfold addSolve
  split
  · rfl
  · rfl

lemma addBuild_solve :
    (addBuild groups record).solve = groups.solve := by
  unfold addBuild
  split
  · rfl
  · rfl

/-- A record goes to the groups of the kind of its key. -/
lemma groupOf_addGrouped (kind : GroupKind) :
    groupOf (addGrouped groups record) kind =
      groupStep (keyOf kind) appendedWith (groupOf groups kind) record ∧
    (addGrouped groups record).build = groups.build ∧
    (addGrouped groups record).solve = groups.solve := by
  unfold addGrouped groupStep keyOf
  match traceGroupingKey record.traceContext with
  | none => exact ⟨rfl, rfl, rfl⟩
  | some (.factoryMessage, key) =>
    cases kind with
    | factoryMessage => exact ⟨rfl, rfl, rfl⟩
    | runtimeSessionMessage => exact ⟨rfl, rfl, rfl⟩
    | benchmarkTask => exact ⟨rfl, rfl, rfl⟩
  | some (.runtimeSessionMessage, key) =>
    cases kind with
    | factoryMessage => exact ⟨rfl, rfl, rfl⟩
    | runtimeSessionMessage => exact ⟨rfl, rfl, rfl⟩
    | benchmarkTask => exact ⟨rfl, rfl, rfl⟩
  | some (.benchmarkTask, key) =>
    cases kind with
    | factoryMessage => exact ⟨rfl, rfl, rfl⟩
    | runtimeSessionMessage => exact ⟨rfl, rfl, rfl⟩
    | benchmarkTask => exact ⟨rfl, rfl, rfl⟩

end

/-- The loop fills every kind of groups on its own. -/
lemma foldl_addRecord :
    (records.foldl addRecord groups).build =
      groupWith (fun record => optional (buildId record)) appended records groups.build ∧
    (records.foldl addRecord groups).solve =
      groupWith (fun record => optional (requestId record)) appended records groups.solve ∧
    ∀ kind, groupOf (records.foldl addRecord groups) kind =
      groupWith (keyOf kind) appendedWith records (groupOf groups kind) := by
  induction records generalizing groups with
  | nil => exact ⟨rfl, rfl, fun kind => rfl⟩
  | cons record records ih =>
    obtain ⟨hbuild, hsolve, hkind⟩ := ih (addRecord groups record)
    have hgrouped := groupOf_addGrouped (addSolve (addBuild groups record) record) record
    refine ⟨hbuild.trans ?_, hsolve.trans ?_, fun kind => (hkind kind).trans ?_⟩
    · rw [addRecord, (hgrouped .factoryMessage).2.1, addSolve_build, addBuild_build]
      rfl
    · rw [addRecord, (hgrouped .factoryMessage).2.2, addSolve_solve, addBuild_solve]
      rfl
    · rw [addRecord, (hgrouped kind).1, groupOf_addSolve, groupOf_addBuild]
      rfl

end

lemma foldl_appended (rows : List TraceRecord) :
    rows.foldl (fun group record => some (appended group record)) none =
      if rows = [] then none else some rows := by
  induction rows using List.reverseRecOn with
  | nil => rfl
  | append_singleton rows record ih =>
    rw [List.foldl_append, ih]
    by_cases hrows : rows = []
    · simp [hrows, appended]
    · simp [hrows, appended]

lemma foldl_appendedWith (rows : List TraceRecord) :
    rows.foldl (fun group record => some (appendedWith group record)) none =
      rows.head?.map fun record => (record.traceContext, rows) := by
  induction rows using List.reverseRecOn with
  | nil => rfl
  | append_singleton rows record ih =>
    rw [List.foldl_append, ih]
    cases rows with
    | nil => rfl
    | cons first rows => rfl

end Groups

/-! ## The views that are written -/

section Writes

def heading : GroupKind → String
  | .factoryMessage => "Factory Message"
  | .runtimeSessionMessage => "Runtime Session Message"
  | .benchmarkTask => "Benchmark Task"

/-- A title is a heading and a key. -/
def titled (heading key : String) : String := s!"{heading} {key}"

def namedWrites (folder heading fallback : String) (groups : Dict String (List TraceRecord)) :
    List (List String × View) :=
  (sortedItems groups).map fun item =>
    ([folder, slug item.1 fallback], viewOf (titled heading item.1) item.2)

def groupedWrites (kind : GroupKind) (groups : ContextGroups) : List (List String × View) :=
  (sortedItems groups).filterMap fun item =>
    (traceGroupViewDir kind item.2.1).map fun dir =>
      (dir, viewOf (titled (heading kind) item.1) item.2.2)

lemma emitNamedViews_eq (folder heading fallback : String) (views : Views)
    (groups : Dict String (List TraceRecord)) :
    emitNamedViews folder heading fallback views groups =
      file (namedWrites folder heading fallback groups) views := by
  unfold file namedWrites
  rw [List.foldl_map]
  rfl

lemma emitGroupedView_eq (kind : GroupKind) (views : Views) (groups : ContextGroups) :
    (emitGroupedView kind (heading kind) views groups).1 =
      file (groupedWrites kind groups) views := by
  unfold emitGroupedView groupedWrites
  generalize ([] : List String) = keys
  induction sortedItems groups generalizing views keys with
  | nil => rfl
  | cons item items ih =>
    rw [List.foldl_cons, List.filterMap_cons, emitGroup]
    cases traceGroupViewDir kind item.2.1 with
    | none => exact ih views keys
    | some dir => exact ih _ _

lemma mem_sortedItems {γ : Type} {groups : Dict String γ} {item : String × γ} :
    item ∈ sortedItems groups ↔ groups.get? item.1 = some item.2 := by
  unfold sortedItems
  rw [List.mem_insertionSort, Dict.get?_eq_some_iff]

variable {dir : List String}

lemma mem_namedWrites {folder heading fallback : String} {groups : Dict String (List TraceRecord)}
    {view : View} :
    (dir, view) ∈ namedWrites folder heading fallback groups ↔
      ∃ key rows, groups.get? key = some rows ∧ [folder, slug key fallback] = dir ∧
        viewOf (titled heading key) rows = view := by
  unfold namedWrites
  rw [List.mem_map]
  constructor
  · rintro ⟨item, hitem, heq⟩
    obtain ⟨hdir, hview⟩ := Prod.mk.inj heq
    exact ⟨item.1, item.2, mem_sortedItems.mp hitem, hdir, hview⟩
  · rintro ⟨key, rows, hget, hdir, hview⟩
    exact ⟨(key, rows), mem_sortedItems.mpr hget, Prod.ext hdir hview⟩

lemma mem_groupedWrites {kind : GroupKind} {groups : ContextGroups} {view : View} :
    (dir, view) ∈ groupedWrites kind groups ↔
      ∃ key context rows, groups.get? key = some (context, rows) ∧
        traceGroupViewDir kind context = some dir ∧
        viewOf (titled (heading kind) key) rows = view := by
  unfold groupedWrites
  rw [List.mem_filterMap]
  constructor
  · rintro ⟨item, hitem, heq⟩
    obtain ⟨dir', hdir, heq⟩ := Option.map_eq_some_iff.mp heq
    obtain ⟨rfl, hview⟩ := Prod.mk.inj heq
    exact ⟨item.1, item.2.1, item.2.2, mem_sortedItems.mp hitem, hdir, hview⟩
  · rintro ⟨key, context, rows, hget, hdir, hview⟩
    refine ⟨(key, context, rows), mem_sortedItems.mpr hget, ?_⟩
    rw [Option.map_eq_some_iff]
    exact ⟨dir, hdir, Prod.ext rfl hview⟩

/-- The directory of a group lies in the folder of its kind. -/
lemma head?_traceGroupViewDir {kind : GroupKind} {context : OpenAITraceContext}
    (h : traceGroupViewDir kind context = some dir) : dir.head? = some kind.folder := by
  cases kind with
  | factoryMessage =>
    have h' : factoryMessageViewDir context = some dir := h
    unfold factoryMessageViewDir at h'
    dsimp only at h'
    split at h'
    · cases h'
    · obtain rfl := Option.some.inj h'
      rfl
  | runtimeSessionMessage =>
    have h' : runtimeSessionMessageViewDir context = some dir := h
    unfold runtimeSessionMessageViewDir at h'
    dsimp only at h'
    split at h'
    · cases h'
    · obtain rfl := Option.some.inj h'
      rfl
  | benchmarkTask =>
    have h' : benchmarkTaskViewDir context = some dir := h
    unfold benchmarkTaskViewDir at h'
    dsimp only at h'
    split at h'
    · cases h'
    · split at h'
      · cases h'
      · obtain rfl := Option.some.inj h'
        rfl

end Writes

/-! ## The views of a session -/

section Session

variable (sessionName : String) (views : Views) (records : List TraceRecord)

/-- The groups at the end of the loop. -/
def groupsOf : Groups := (sortRecords records).foldl addRecord {}

def allGroupedWrites : List (List String × View) :=
  groupedWrites .factoryMessage (groupOf (groupsOf records) .factoryMessage) ++
    (groupedWrites .runtimeSessionMessage (groupOf (groupsOf records) .runtimeSessionMessage) ++
      groupedWrites .benchmarkTask (groupOf (groupsOf records) .benchmarkTask))

def allWrites : List (List String × View) :=
  ([], viewOf (s!"OpenAI Trace Session {sessionName}") (sortRecords records)) ::
    (namedWrites "builds" "Build" "build" (groupsOf records).build ++
      (namedWrites "solves" "Solve" "request" (groupsOf records).solve ++
        allGroupedWrites records))

lemma writeGroupedViews_eq : (writeGroupedViews sessionName views records).1 =
    file (allWrites sessionName records) (resetDerivedGroupDirs views) := by
  have hfile (writes : List (List String × View)) (first : List String × View) (views : Views) :
      file (first :: writes) views = file writes (views.set first.1 first.2) := rfl
  unfold allWrites allGroupedWrites
  rw [hfile, file_append, file_append, file_append, file_append, ← emitNamedViews_eq,
    ← emitNamedViews_eq, ← emitGroupedView_eq, ← emitGroupedView_eq, ← emitGroupedView_eq]
  rfl

variable {record : TraceRecord} {key : TraceRecord → Option String} {dir : List String}

lemma mem_allGroupedWrites {view : View} :
    (dir, view) ∈ allGroupedWrites records ↔
      ∃ kind, (dir, view) ∈ groupedWrites kind (groupOf (groupsOf records) kind) := by
  unfold allGroupedWrites
  rw [List.mem_append, List.mem_append]
  constructor
  · rintro (h | h | h)
    · exact ⟨_, h⟩
    · exact ⟨_, h⟩
    · exact ⟨_, h⟩
  · rintro ⟨kind, h⟩
    cases kind with
    | factoryMessage => exact .inl h
    | runtimeSessionMessage => exact .inr (.inl h)
    | benchmarkTask => exact .inr (.inr h)

/-- Where each view that is written lies. -/
lemma mem_allWrites {view : View} (h : (dir, view) ∈ allWrites sessionName records) :
    dir = [] ∧ view = viewOf (s!"OpenAI Trace Session {sessionName}") (sortRecords records) ∨
    dir.head? = some "builds" ∧
      (dir, view) ∈ namedWrites "builds" "Build" "build" (groupsOf records).build ∨
    dir.head? = some "solves" ∧
      (dir, view) ∈ namedWrites "solves" "Solve" "request" (groupsOf records).solve ∨
    IsGroupDir dir ∧ (dir, view) ∈ allGroupedWrites records := by
  unfold allWrites at h
  rw [List.mem_cons, List.mem_append, List.mem_append] at h
  rcases h with h | h | h | h
  · exact .inl (Prod.mk.inj h)
  · obtain ⟨key, rows, -, rfl, -⟩ := mem_namedWrites.mp h
    exact .inr (.inl ⟨rfl, h⟩)
  · obtain ⟨key, rows, -, rfl, -⟩ := mem_namedWrites.mp h
    exact .inr (.inr (.inl ⟨rfl, h⟩))
  · obtain ⟨kind, hkind⟩ := (mem_allGroupedWrites records).mp h
    obtain ⟨key, context, rows, -, hdir, -⟩ := mem_groupedWrites.mp hkind
    exact .inr (.inr (.inr ⟨⟨kind, head?_traceGroupViewDir hdir⟩, h⟩))

/-- The rows of a key, as the loop meets them. -/
def rowsOf {κ : Type} [DecidableEq κ] (key : TraceRecord → Option κ) (k : κ) : List TraceRecord :=
  (sortRecords records).filter fun record => key record = some k

variable {records}

lemma mem_sortRecords {records : List TraceRecord} :
    record ∈ sortRecords records ↔ record ∈ records := List.mem_insertionSort _

lemma mem_viewOf_rowsOf {κ : Type} [DecidableEq κ] {key : TraceRecord → Option κ} {k : κ}
    {title : String} :
    record ∈ (viewOf title (rowsOf records key k)).calls ↔
      record ∈ records ∧ key record = some k := by
  unfold viewOf rowsOf
  rw [mem_sortRecords, List.mem_filter, mem_sortRecords, decide_eq_true_iff]

lemma rowsOf_ne_nil_iff {κ : Type} [DecidableEq κ] {key : TraceRecord → Option κ} {k : κ} :
    rowsOf records key k ≠ [] ↔ ∃ record ∈ records, key record = some k := by
  have hmem (record : TraceRecord) :
      record ∈ rowsOf records key k ↔ record ∈ records ∧ key record = some k := by
    unfold rowsOf
    rw [List.mem_filter, mem_sortRecords, decide_eq_true_iff]
  constructor
  · intro hne
    obtain ⟨record, hrecord⟩ := List.exists_mem_of_ne_nil _ hne
    exact ⟨record, (hmem record).mp hrecord⟩
  · rintro ⟨record, hrecord⟩
    exact List.ne_nil_of_mem ((hmem record).mpr hrecord)

/-- A family of views, one for each key, under the places that satisfy `Here`. -/
structure Shelf {κ : Type} [DecidableEq κ] (records : List TraceRecord)
    (key : TraceRecord → Option κ) (place : κ → List String) (title : κ → String)
    (Here : List String → Prop) : Prop where
  here : ∀ k, (∃ record ∈ records, key record = some k) → Here (place k)
  writes : ∀ dir view, Here dir → ((dir, view) ∈ allWrites sessionName records ↔
    ∃ k, (∃ record ∈ records, key record = some k) ∧ place k = dir ∧
      viewOf (title k) (rowsOf records key k) = view)
  reset : ∀ dir, Here dir → (resetDerivedGroupDirs views).get? dir = none

namespace Shelf

variable {sessionName views} {κ : Type} [DecidableEq κ] {key : TraceRecord → Option κ}
  {place : κ → List String} {title : κ → String} {Here : List String → Prop}
  {dir : List String} {view : View} {record : TraceRecord} {k : κ}

section

variable (shelf : Shelf sessionName views records key place title Here)
include shelf

/-- Every view of the family is the view of a key. -/
lemma view_eq (hdir : Here dir)
    (hget : (writeGroupedViews sessionName views records).1.get? dir = some view) :
    ∃ k, (∃ record ∈ records, key record = some k) ∧ place k = dir ∧
      viewOf (title k) (rowsOf records key k) = view := by
  rw [writeGroupedViews_eq] at hget
  rcases mem_of_get?_file _ hget with hmem | hbefore
  · exact (shelf.writes dir view hdir).mp hmem
  · rw [shelf.reset dir hdir] at hbefore
    cases hbefore

/-- A record of the family is listed under the place of its key. -/
lemma place_eq (hdir : Here dir)
    (hget : (writeGroupedViews sessionName views records).1.get? dir = some view)
    (hlisted : record ∈ view.calls) (hkey : key record = some k) : place k = dir := by
  obtain ⟨k', -, hplace, rfl⟩ := shelf.view_eq hdir hget
  have hkey' : key record = some k' := (mem_viewOf_rowsOf.mp hlisted).2
  rw [hkey] at hkey'
  rw [Option.some.inj hkey']
  exact hplace

/-- The keys find their views if and only if their places are different. -/
theorem found_iff :
    (∀ record ∈ records, ∀ k, key record = some k → ∃ dir view, Here dir ∧
      (writeGroupedViews sessionName views records).1.get? dir = some view ∧
        ∀ other, other ∈ view.calls ↔ other ∈ records ∧ key other = some k) ↔
    ∀ record ∈ records, ∀ other ∈ records, ∀ k k', key record = some k → key other = some k' →
      place k = place k' → k = k' := by
  have hkeys (k : κ) : k ∈ records.filterMap key ↔ ∃ record ∈ records, key record = some k := by
    rw [List.mem_filterMap]
  have hfound : (∀ k ∈ records.filterMap key, ∃ dir view, Here dir ∧
      (writeGroupedViews sessionName views records).1.get? dir = some view ∧
        ∀ other, other ∈ view.calls ↔ other ∈ records ∧ key other = some k) ↔
      ∀ k ∈ records.filterMap key, ∀ k' ∈ records.filterMap key, place k = place k' → k = k' := by
    refine each_found_iff (fun k => viewOf (title k) (rowsOf records key k)) ?_ ?_ ?_ ?_
    · intro k hk k' _
      constructor
      · intro habout
        obtain ⟨record, hrecord, hkey⟩ := (hkeys k).mp hk
        have hlisted := (habout record).mpr ⟨hrecord, hkey⟩
        have hkey' := (mem_viewOf_rowsOf.mp hlisted).2
        exact Option.some.inj (hkey'.symm.trans hkey)
      · rintro rfl other
        exact mem_viewOf_rowsOf
    · exact fun k hk => shelf.here k ((hkeys k).mp hk)
    · intro k hk
      have hmem := (shelf.writes (place k) _ (shelf.here k ((hkeys k).mp hk))).mpr
        ⟨k, (hkeys k).mp hk, rfl, rfl⟩
      obtain ⟨view, hview⟩ := exists_get?_file (resetDerivedGroupDirs views) hmem
      exact ⟨view, by rw [writeGroupedViews_eq]; exact hview⟩
    · intro dir view hdir hget
      obtain ⟨k, hk, hplace, hview⟩ := shelf.view_eq hdir hget
      exact ⟨k, (hkeys k).mpr hk, hplace, hview⟩
  constructor
  · intro h record hrecord other hother k k' hk hk'
    exact hfound.mp (fun k hk => by
      obtain ⟨record, hrecord, hkey⟩ := (hkeys k).mp hk
      exact h record hrecord k hkey) k ((hkeys k).mpr ⟨record, hrecord, hk⟩) k'
        ((hkeys k').mpr ⟨other, hother, hk'⟩)
  · intro h record hrecord k hk
    refine hfound.mpr (fun k hk k' hk' => ?_) k ((hkeys k).mpr ⟨record, hrecord, hk⟩)
    obtain ⟨record, hrecord, hkey⟩ := (hkeys k).mp hk
    obtain ⟨other, hother, hkey'⟩ := (hkeys k').mp hk'
    exact h record hrecord other hother k k' hkey hkey'

end

end Shelf

/-! ### The groups at the end of the loop -/

lemma get?_resetDerivedGroupDirs {name : String} (hdir : dir.head? = some name)
    (hname : name ∈ derivedGroupDirs) : (resetDerivedGroupDirs views).get? dir = none := by
  have hderived : derivedGroupDirs.any (fun name => dir.head? = some name) = true :=
    List.any_eq_true.mpr ⟨name, hname, by simp [hdir]⟩
  unfold resetDerivedGroupDirs
  rw [Dict.get?_filterKeys, if_neg (by simp [hderived])]

lemma get?_appended {k : String} {rows : List TraceRecord} :
    (groupWith key appended (sortRecords records) Dict.empty).get? k = some rows ↔
      (∃ record ∈ records, key record = some k) ∧ rowsOf records key k = rows := by
  rw [get?_groupWith, Dict.get?_empty, foldl_appended, ← rowsOf_ne_nil_iff]
  show (if rowsOf records key k = [] then none else some (rowsOf records key k)) = some rows ↔ _
  by_cases hrows : rowsOf records key k = []
  · simp [hrows]
  · simp [hrows]

lemma get?_appendedWith {k : String} {group : OpenAITraceContext × List TraceRecord} :
    (groupWith key appendedWith (sortRecords records) Dict.empty).get? k = some group ↔
      ∃ first, (rowsOf records key k).head? = some first ∧
        (first.traceContext, rowsOf records key k) = group := by
  rw [get?_groupWith, Dict.get?_empty, foldl_appendedWith]
  exact Option.map_eq_some_iff

/-- The views of the builds, and those of the solves. -/
lemma namedShelf {folder heading fallback : String} {id : TraceRecord → String}
    {groups : Dict String (List TraceRecord)} (hfolder : folder ∈ derivedGroupDirs)
    (hgroups : groups =
      groupWith (fun record => optional (id record)) appended (sortRecords records) .empty)
    (hwrites : ∀ dir view, dir.head? = some folder →
      ((dir, view) ∈ allWrites sessionName records ↔
        (dir, view) ∈ namedWrites folder heading fallback groups)) :
    Shelf sessionName views records (fun record => optional (id record))
      (fun key => [folder, slug key fallback]) (titled heading)
      (fun dir => dir.head? = some folder) where
  here _ _ := rfl
  writes dir view hdir := by
    rw [hwrites dir view hdir, mem_namedWrites, hgroups]
    constructor
    · rintro ⟨key, rows, hget, hplace, hview⟩
      obtain ⟨hkey, rfl⟩ := get?_appended.mp hget
      exact ⟨key, hkey, hplace, hview⟩
    · rintro ⟨key, hkey, hplace, hview⟩
      exact ⟨key, _, get?_appended.mpr ⟨hkey, rfl⟩, hplace, hview⟩
  reset _ hdir := get?_resetDerivedGroupDirs views hdir hfolder

variable (records) in
lemma buildShelf : Shelf sessionName views records (fun record => optional (buildId record))
    (fun key => ["builds", slug key "build"]) (titled "Build")
    (fun dir => dir.head? = some "builds") := by
  have hgroups : (groupsOf records).build =
      groupWith (fun record => optional (buildId record)) appended (sortRecords records) .empty :=
    (foldl_addRecord _ {}).1
  refine namedShelf sessionName views (by decide) hgroups fun dir view hdir => ?_
  constructor
  · intro hmem
    rcases mem_allWrites sessionName records hmem with ⟨rfl, _⟩ | ⟨_, h⟩ | ⟨h, _⟩ | ⟨⟨kind, h⟩, _⟩
    · cases hdir
    · exact h
    · rw [hdir] at h
      exact absurd (Option.some.inj h) (by decide)
    · exact absurd (Option.some.inj (h.symm.trans hdir)) kind.folder_ne.1
  · intro hmem
    exact List.mem_cons_of_mem _ (List.mem_append_left _ hmem)

variable (records) in
lemma solveShelf : Shelf sessionName views records (fun record => optional (requestId record))
    (fun key => ["solves", slug key "request"]) (titled "Solve")
    (fun dir => dir.head? = some "solves") := by
  have hgroups : (groupsOf records).solve =
      groupWith (fun record => optional (requestId record)) appended (sortRecords records)
        .empty :=
    (foldl_addRecord _ {}).2.1
  refine namedShelf sessionName views (by decide) hgroups fun dir view hdir => ?_
  constructor
  · intro hmem
    rcases mem_allWrites sessionName records hmem with ⟨rfl, _⟩ | ⟨h, _⟩ | ⟨_, h⟩ | ⟨⟨kind, h⟩, _⟩
    · cases hdir
    · rw [hdir] at h
      exact absurd (Option.some.inj h) (by decide)
    · exact h
    · exact absurd (Option.some.inj (h.symm.trans hdir)) kind.folder_ne.2
  · intro hmem
    exact List.mem_cons_of_mem _ (List.mem_append_right _ (List.mem_append_left _ hmem))

/-- The group of a record. -/
def groupKey (record : TraceRecord) : Option (GroupKind × String) :=
  traceGroupingKey record.traceContext

variable (records) in
/-- The directory of a group is made from the context of its first record. -/
def groupDir (group : GroupKind × String) : List String :=
  ((rowsOf records groupKey group).head?.bind fun record =>
    traceGroupViewDir group.1 record.traceContext).getD []

lemma rowsOf_keyOf (kind : GroupKind) (key : String) :
    rowsOf records (keyOf kind) key = rowsOf records groupKey (kind, key) := by
  unfold rowsOf
  refine List.filter_congr fun record _ => ?_
  rw [decide_eq_decide, keyOf_eq_some_iff]
  rfl

variable {group : GroupKind × String}

/-- A record with a key has an identity that gives the key and the directory. -/
lemma exists_traceIdentity (h : groupKey record = some group) :
    ∃ identity, traceIdentity record.traceContext = some identity ∧
      identity.groupingKey = group ∧
      traceGroupViewDir group.1 record.traceContext = some identity.viewDir := by
  rw [groupKey, traceGroupingKey_eq] at h
  obtain ⟨identity, hidentity, rfl⟩ := Option.map_eq_some_iff.mp h
  exact ⟨identity, hidentity, rfl, traceGroupViewDir_eq hidentity⟩

/-- The first record of a group. -/
lemma exists_first (h : ∃ record ∈ records, groupKey record = some group) :
    ∃ first, (rowsOf records groupKey group).head? = some first ∧ first ∈ records ∧
      groupKey first = some group := by
  have hne := rowsOf_ne_nil_iff.mpr h
  obtain ⟨first, rest, hrows⟩ := List.exists_cons_of_ne_nil hne
  have hfirst : first ∈ rowsOf records groupKey group := by
    rw [hrows]
    exact List.mem_cons_self
  unfold rowsOf at hfirst
  rw [List.mem_filter, mem_sortRecords, decide_eq_true_iff] at hfirst
  exact ⟨first, by rw [hrows]; rfl, hfirst⟩

lemma isGroupDir_groupDir (h : ∃ record ∈ records, groupKey record = some group) :
    IsGroupDir (groupDir records group) := by
  obtain ⟨first, hhead, _, hkey⟩ := exists_first h
  obtain ⟨identity, _, _, hdir⟩ := exists_traceIdentity hkey
  unfold groupDir
  rw [hhead, Option.bind_some, hdir]
  exact ⟨group.1, head?_traceGroupViewDir hdir⟩

variable (records) in
lemma groupShelf : Shelf sessionName views records groupKey (groupDir records)
    (fun group => titled (heading group.1) group.2) IsGroupDir where
  here _ := isGroupDir_groupDir
  writes dir view hdir := by
    have hgroups (kind : GroupKind) : groupOf (groupsOf records) kind =
        groupWith (keyOf kind) appendedWith (sortRecords records) .empty := by
      refine ((foldl_addRecord _ _).2.2 kind).trans ?_
      cases kind with
      | factoryMessage => rfl
      | runtimeSessionMessage => rfl
      | benchmarkTask => rfl
    have hall : (dir, view) ∈ allWrites sessionName records ↔
        (dir, view) ∈ allGroupedWrites records := by
      obtain ⟨kind, hkind⟩ := hdir
      constructor
      · intro hmem
        rcases mem_allWrites sessionName records hmem with ⟨rfl, _⟩ | ⟨h, _⟩ | ⟨h, _⟩ | ⟨_, h⟩
        · cases hkind
        · exact absurd (Option.some.inj (hkind.symm.trans h)) kind.folder_ne.1
        · exact absurd (Option.some.inj (hkind.symm.trans h)) kind.folder_ne.2
        · exact h
      · intro hmem
        exact List.mem_cons_of_mem _
          (List.mem_append_right _ (List.mem_append_right _ hmem))
    rw [hall, mem_allGroupedWrites]
    constructor
    · rintro ⟨kind, hmem⟩
      obtain ⟨key, context, rows, hget, hplace, hview⟩ := mem_groupedWrites.mp hmem
      rw [hgroups] at hget
      obtain ⟨first, hfirst, heq⟩ := get?_appendedWith.mp hget
      obtain ⟨rfl, rfl⟩ := Prod.mk.inj heq
      rw [rowsOf_keyOf] at hfirst hview
      refine ⟨(kind, key), ?_, ?_, hview⟩
      · exact rowsOf_ne_nil_iff.mp (fun hnil => by rw [hnil] at hfirst; cases hfirst)
      · unfold groupDir
        rw [hfirst, Option.bind_some, hplace]
        rfl
    · rintro ⟨⟨kind, key⟩, hkey, hplace, hview⟩
      obtain ⟨first, hhead, _, hfirst⟩ := exists_first hkey
      obtain ⟨identity, _, _, hidentity⟩ := exists_traceIdentity hfirst
      refine ⟨kind, mem_groupedWrites.mpr ⟨key, first.traceContext,
        rowsOf records (keyOf kind) key, ?_, ?_, ?_⟩⟩
      · rw [hgroups]
        exact get?_appendedWith.mpr ⟨first, by rw [rowsOf_keyOf]; exact hhead, rfl⟩
      · rw [← hplace]
        unfold groupDir
        rw [hhead, Option.bind_some, hidentity]
        rfl
      · rw [rowsOf_keyOf]
        exact hview
  reset dir hdir := by
    obtain ⟨kind, hkind⟩ := hdir
    refine get?_resetDerivedGroupDirs views hkind ?_
    cases kind with
    | factoryMessage => decide
    | runtimeSessionMessage => decide
    | benchmarkTask => decide

/-! ### Counting -/

lemma rowCount_set {groups : ContextGroups} {key : String} :
    rowCount (groups.set key (appendedWith (groups.get? key) record)) = rowCount groups + 1 := by
  have hsum (group : OpenAITraceContext × List TraceRecord) :
      rowCount (groups.set key group) = rowCount (groups.erase key) + group.2.length := by
    have hperm := ((groups.entries_set_perm key group).map Prod.snd).map fun group =>
      group.2.length
    have hsum := hperm.sum_eq
    rw [List.map_append, List.map_append, List.sum_append] at hsum
    exact hsum
  rw [hsum]
  cases hget : groups.get? key with
  | none =>
    have hnot : key ∉ groups.keys := Dict.get?_eq_none_iff.mp hget
    rw [Dict.erase_of_not_mem hnot]
    rfl
  | some group =>
    have herase : rowCount (groups.erase key) + group.2.length = rowCount groups :=
      Dict.sum_erase_of_get? (fun group => group.2.length) hget
    have hlength : (appendedWith (some group) record).2.length = group.2.length + 1 :=
      List.length_append
    omega

lemma rowCount_groupWith (key : TraceRecord → Option String) (records : List TraceRecord)
    (groups : ContextGroups) : rowCount (groupWith key appendedWith records groups) =
      rowCount groups + records.countP fun record => (key record).isSome := by
  induction records generalizing groups with
  | nil => rfl
  | cons record records ih =>
    show rowCount (groupWith key appendedWith records (groupStep key appendedWith groups record)) =
      _
    rw [ih, groupStep, List.countP_cons]
    cases key record with
    | none => simp
    | some k =>
      dsimp only
      rw [rowCount_set, Option.isSome_some, if_pos rfl]
      omega

/-- Every record with a key counts in the groups of one kind. -/
lemma countP_groupKey (records : List TraceRecord) :
    (records.countP fun record => (keyOf .factoryMessage record).isSome) +
      (records.countP fun record => (keyOf .runtimeSessionMessage record).isSome) +
        (records.countP fun record => (keyOf .benchmarkTask record).isSome) =
    records.countP fun record => (groupKey record).isSome := by
  induction records with
  | nil => rfl
  | cons record records ih =>
    simp only [List.countP_cons, keyOf, groupKey] at ih ⊢
    match traceGroupingKey record.traceContext with
    | none => simpa using ih
    | some (.factoryMessage, key) =>
      simp at ih ⊢
      omega
    | some (.runtimeSessionMessage, key) =>
      simp at ih ⊢
      omega
    | some (.benchmarkTask, key) =>
      simp at ih ⊢
      omega

lemma groupedCallCount_eq {persisted : List TraceRecord} (hperm : records.Perm persisted) :
    (writeGroupedViews sessionName views records).2.groupedCallCount =
      persisted.countP fun record => (groupKey record).isSome := by
  have hcount (kind : GroupKind) : rowCount (groupOf (groupsOf records) kind) =
      (sortRecords records).countP fun record => (keyOf kind record).isSome := by
    unfold groupsOf
    rw [(foldl_addRecord _ _).2.2 kind, rowCount_groupWith]
    cases kind with
    | factoryMessage => exact Nat.zero_add _
    | runtimeSessionMessage => exact Nat.zero_add _
    | benchmarkTask => exact Nat.zero_add _
  show rowCount (groupOf (groupsOf records) .factoryMessage) +
    rowCount (groupOf (groupsOf records) .runtimeSessionMessage) +
      rowCount (groupOf (groupsOf records) .benchmarkTask) = _
  rw [hcount, hcount, hcount, countP_groupKey]
  exact ((List.perm_insertionSort _ records).trans hperm).countP_eq _

/-! ### Order -/

lemma sortKey_total : Std.Total fun a b : TraceRecord =>
    traceRecordSortKey a ≤ traceRecordSortKey b := ⟨fun _ _ => le_total _ _⟩

lemma sortKey_trans : IsTrans TraceRecord fun a b =>
    traceRecordSortKey a ≤ traceRecordSortKey b := ⟨fun _ _ _ => le_trans⟩

lemma pairwise_sortRecords (records : List TraceRecord) :
    (sortRecords records).Pairwise fun a b => traceRecordSortKey a ≤ traceRecordSortKey b :=
  have := sortKey_total
  have := sortKey_trans
  List.pairwise_insertionSort _ records

lemma sortRecords_eq_self
    (h : records.Pairwise fun a b => traceRecordSortKey a ≤ traceRecordSortKey b) :
    sortRecords records = records := h.insertionSort_eq

/-- Records that were persisted in the order of their sort keys are loaded in that order. -/
lemma sortRecords_loaded {S : Session}
    (h : S.persisted.Pairwise fun a b => traceRecordSortKey a ≤ traceRecordSortKey b) :
    sortRecords S.loaded = S.persisted := by
  have hperm : (sortRecords S.loaded).Perm S.persisted :=
    (List.perm_insertionSort _ _).trans S.perm
  refine List.Perm.eq_of_pairwise ?_ (pairwise_sortRecords _) h hperm
  intro a b ha hb hle hge
  have hkey : traceRecordSortKey a = traceRecordSortKey b := le_antisymm hle hge
  have hid : a.callId = b.callId := congrArg (fun key => (ofLex (ofLex key).2).2) hkey
  exact List.inj_on_of_nodup_map S.distinct (hperm.subset ha) hb hid

/-- With the records in order, a view lists part of them in that order. -/
lemma sublist_viewOf_rowsOf {S : Session}
    (h : S.persisted.Pairwise fun a b => traceRecordSortKey a ≤ traceRecordSortKey b)
    {κ : Type} [DecidableEq κ] (key : TraceRecord → Option κ) (k : κ) (title : String) :
    (viewOf title (rowsOf S.loaded key k)).calls.Sublist S.persisted := by
  unfold viewOf rowsOf
  rw [sortRecords_loaded h, sortRecords_eq_self (h.sublist List.filter_sublist)]
  exact List.filter_sublist

/-! ### Views of ids -/

lemma optional_eq_some_iff {text key : String} :
    optional text = some key ↔ key ≠ "" ∧ text = key := by
  unfold optional
  by_cases h : text = ""
  · rw [if_pos h]
    refine iff_of_false (by simp) fun hkey => hkey.1 (hkey.2.symm.trans h)
  · rw [if_neg h, Option.some.injEq]
    exact ⟨fun heq => ⟨heq ▸ h, heq⟩, fun heq => heq.2⟩

/-- Every id has a view of its own if and only if the slugs keep the ids apart. -/
lemma named_iff {folder heading fallback : String} {id : TraceRecord → String}
    (shelf : Shelf sessionName views records (fun record => optional (id record))
      (fun key => [folder, slug key fallback]) (titled heading)
      (fun dir => dir.head? = some folder)) :
    (∀ record ∈ records, id record ≠ "" → ∃ name view,
      (writeGroupedViews sessionName views records).1.get? [folder, name] = some view ∧
        ∀ other, other ∈ view.calls ↔ other ∈ records ∧ id other = id record) ↔
    ∀ record ∈ records, ∀ other ∈ records, id record ≠ "" → id other ≠ "" →
      slug (id record) fallback = slug (id other) fallback → id record = id other := by
  have hkey {record : TraceRecord} (hne : id record ≠ "") :
      optional (id record) = some (id record) := optional_eq_some_iff.mpr ⟨hne, rfl⟩
  constructor
  · intro h record hrecord other hother hne hne' hslug
    refine shelf.found_iff.mp ?_ record hrecord other hother _ _ (hkey hne) (hkey hne')
      (congrArg (fun name => [folder, name]) hslug)
    intro record hrecord key hkey'
    obtain ⟨hne, rfl⟩ := optional_eq_some_iff.mp hkey'
    obtain ⟨name, view, hget, hlisted⟩ := h record hrecord hne
    refine ⟨[folder, name], view, rfl, hget, fun other => (hlisted other).trans ?_⟩
    rw [optional_eq_some_iff, and_iff_right hne]
  · intro h record hrecord hne
    have hinjective : ∀ record ∈ records, ∀ other ∈ records, ∀ k k',
        optional (id record) = some k → optional (id other) = some k' →
          [folder, slug k fallback] = [folder, slug k' fallback] → k = k' := by
      intro record hrecord other hother k k' hk hk' hplace
      obtain ⟨hne, rfl⟩ := optional_eq_some_iff.mp hk
      obtain ⟨hne', rfl⟩ := optional_eq_some_iff.mp hk'
      exact h record hrecord other hother hne hne' (List.cons.inj (List.cons.inj hplace).2).1
    obtain ⟨dir, view, hdir, hget, hlisted⟩ :=
      shelf.found_iff.mpr hinjective record hrecord _ (hkey hne)
    have hplace := shelf.place_eq hdir hget ((hlisted record).mpr ⟨hrecord, hkey hne⟩) (hkey hne)
    refine ⟨slug (id record) fallback, view, hplace ▸ hget, fun other => (hlisted other).trans ?_⟩
    rw [optional_eq_some_iff, and_iff_right hne]

/-! ### Group views -/

/-- Where keys keep identities apart, a group lies in the directory of its identity. -/
lemma groupDir_eq (hkeys : ∀ record ∈ records, ∀ other ∈ records, ∀ identity identity',
      traceIdentity record.traceContext = some identity →
      traceIdentity other.traceContext = some identity' →
      identity.groupingKey = identity'.groupingKey → identity = identity')
    (hrecord : record ∈ records) {identity : TraceIdentity}
    (h : traceIdentity record.traceContext = some identity) :
    groupDir records identity.groupingKey = identity.viewDir := by
  have hkey : groupKey record = some identity.groupingKey := by
    rw [groupKey, traceGroupingKey_eq, h]
    rfl
  obtain ⟨first, hhead, hfirst, hfirstKey⟩ := exists_first ⟨record, hrecord, hkey⟩
  obtain ⟨identity', hidentity', hsame, hdir⟩ := exists_traceIdentity hfirstKey
  obtain rfl := hkeys first hfirst record hrecord identity' identity hidentity' h hsame
  unfold groupDir
  rw [hhead, Option.bind_some, hdir]
  rfl

variable (records) in
/-- The view of the session. -/
lemma get?_session (view : View) :
    (writeGroupedViews sessionName views records).1.get? [] = some view ↔
      view = viewOf (s!"OpenAI Trace Session {sessionName}") (sortRecords records) := by
  have hsession : ∀ view,
      (writeGroupedViews sessionName views records).1.get? [] = some view →
        view = viewOf (s!"OpenAI Trace Session {sessionName}") (sortRecords records) := by
    intro view hget
    rw [writeGroupedViews_eq] at hget
    -- only the first write goes to the session directory
    rcases mem_of_get?_file (Dict.set _ _ _) hget with hmem | hfirst
    · have hall := List.mem_cons_of_mem
        ([], viewOf (s!"OpenAI Trace Session {sessionName}") (sortRecords records)) hmem
      rcases mem_allWrites sessionName records hall with
        ⟨-, h⟩ | ⟨h, _⟩ | ⟨h, _⟩ | ⟨⟨kind, h⟩, _⟩
      · exact h
      · cases h
      · cases h
      · cases h
    · rw [Dict.get?_set, if_pos rfl] at hfirst
      exact (Option.some.inj hfirst).symm
  refine ⟨hsession view, ?_⟩
  rintro rfl
  obtain ⟨view, hview⟩ := exists_get?_file (resetDerivedGroupDirs views)
    (List.mem_cons_self : _ ∈ allWrites sessionName records)
  have hget : (writeGroupedViews sessionName views records).1.get? [] = some view := by
    rw [writeGroupedViews_eq]
    exact hview
  exact hget.trans (congrArg some (hsession view hget))

end Session

/-! ## The theorem -/

section Theorem

variable {sessionName : String} {views : Views} {S : Session}

variable {record : TraceRecord}

lemma mem_loaded : record ∈ S.loaded ↔ record ∈ S.persisted :=
  S.perm.mem_iff

lemma groupKey_of_identity {identity : TraceIdentity}
    (h : traceIdentity record.traceContext = some identity) :
    groupKey record = some identity.groupingKey := by
  rw [groupKey, traceGroupingKey_eq, h]
  rfl

/-- What the group views promise about places follows from what they promise about records. -/
lemma groupDir_injective
    (h : LosesNoCall S.persisted (writeGroupedViews sessionName views S.loaded)) :
    ∀ record ∈ S.loaded, ∀ other ∈ S.loaded, ∀ group group', groupKey record = some group →
      groupKey other = some group' → groupDir S.loaded group = groupDir S.loaded group' →
        group = group' := by
  refine (groupShelf sessionName views S.loaded).found_iff.mp fun record hrecord group hgroup => ?_
  obtain ⟨dir, view, hdir, hget, hlisted, -⟩ :=
    h.grouped record (mem_loaded.mp hrecord) group hgroup
  refine ⟨dir, view, hdir, hget, fun other => (hlisted other).trans ?_⟩
  rw [mem_loaded]
  rfl

lemma keptApart_of_losesNoCall
    (h : LosesNoCall S.persisted (writeGroupedViews sessionName views S.loaded)) :
    KeptApart S.persisted := by
  have hkeys : ∀ record ∈ S.loaded, ∀ other ∈ S.loaded, ∀ identity identity',
      traceIdentity record.traceContext = some identity →
      traceIdentity other.traceContext = some identity' →
      identity.groupingKey = identity'.groupingKey → identity = identity' := by
    intro record hrecord other hother identity identity' hidentity hidentity' hsame
    obtain ⟨dir, view, hdir, hget, hlisted, -⟩ := h.grouped record (mem_loaded.mp hrecord) _
      (groupKey_of_identity hidentity)
    have hmem := (hlisted record).mpr ⟨mem_loaded.mp hrecord, groupKey_of_identity hidentity⟩
    have hmem' := (hlisted other).mpr
      ⟨mem_loaded.mp hother, hsame ▸ groupKey_of_identity hidentity'⟩
    have hunshared := h.unshared dir view hdir hget record hmem other hmem'
    rw [hidentity, hidentity'] at hunshared
    exact Option.some.inj hunshared
  refine ⟨fun record hrecord other hother identity identity' hidentity hidentity' hne =>
    ⟨fun hsame => hne ?_, fun hsame => hne ?_⟩, ?_, ?_, ?_⟩
  · exact hkeys record (mem_loaded.mpr hrecord) other (mem_loaded.mpr hother) _ _ hidentity
      hidentity' hsame
  · have hplaces := groupDir_injective h record (mem_loaded.mpr hrecord) other
      (mem_loaded.mpr hother) _ _ (groupKey_of_identity hidentity)
      (groupKey_of_identity hidentity') (by
        rw [groupDir_eq hkeys (mem_loaded.mpr hrecord) hidentity,
          groupDir_eq hkeys (mem_loaded.mpr hother) hidentity', hsame])
    exact hkeys record (mem_loaded.mpr hrecord) other (mem_loaded.mpr hother) _ _ hidentity
      hidentity' hplaces
  · have hbuilds := (named_iff _ _ (buildShelf sessionName views S.loaded)).mp
    simp only [mem_loaded] at hbuilds
    exact hbuilds h.builds
  · have hsolves := (named_iff _ _ (solveShelf sessionName views S.loaded)).mp
    simp only [mem_loaded] at hsolves
    exact hsolves h.solves
  · -- the session view lists all records, so it lists them in the order of persistence
    obtain ⟨view, hview, -⟩ := h.session
    have hlisted := h.inOrder [] view (.inl rfl) hview
    rw [get?_session] at hview
    have hperm : view.calls.Perm S.persisted := by
      rw [hview]
      exact ((List.perm_insertionSort _ _).trans (List.perm_insertionSort _ _)).trans S.perm
    rw [← hlisted.eq_of_length hperm.length_eq, hview]
    exact pairwise_sortRecords _

lemma losesNoCall_of_keptApart (h : KeptApart S.persisted) :
    LosesNoCall S.persisted (writeGroupedViews sessionName views S.loaded) := by
  have hkeys : ∀ record ∈ S.loaded, ∀ other ∈ S.loaded, ∀ identity identity',
      traceIdentity record.traceContext = some identity →
      traceIdentity other.traceContext = some identity' →
      identity.groupingKey = identity'.groupingKey → identity = identity' := by
    intro record hrecord other hother identity identity' hidentity hidentity' hsame
    by_contra hne
    exact (h.identities record (mem_loaded.mp hrecord) other (mem_loaded.mp hother) _ _ hidentity
      hidentity' hne).1 hsame
  have hsession := (get?_session sessionName views S.loaded _).mpr rfl
  refine ⟨⟨_, hsession, fun record hrecord => ?_⟩, fun record hrecord group hgroup => ?_,
    fun dir view hdir hget record hrecord other hother => ?_, ?_, ?_, ?_,
    fun dir view hdir hget => ?_⟩
  · rw [viewOf, mem_sortRecords, mem_sortRecords]
    exact mem_loaded.mpr hrecord
  · have hplaces : ∀ record ∈ S.loaded, ∀ other ∈ S.loaded, ∀ group group',
        groupKey record = some group → groupKey other = some group' →
          groupDir S.loaded group = groupDir S.loaded group' → group = group' := by
      intro record hrecord other hother group group' hgroup hgroup' hsame
      obtain ⟨identity, hidentity, rfl, -⟩ := exists_traceIdentity hgroup
      obtain ⟨identity', hidentity', rfl, -⟩ := exists_traceIdentity hgroup'
      rw [groupDir_eq hkeys hrecord hidentity, groupDir_eq hkeys hother hidentity'] at hsame
      by_contra hne
      exact (h.identities record (mem_loaded.mp hrecord) other (mem_loaded.mp hother) _ _
        hidentity hidentity' fun heq => hne (heq ▸ rfl)).2 hsame
    have hshelf := groupShelf sessionName views S.loaded
    obtain ⟨dir, view, hdir, hget, hlisted⟩ :=
      hshelf.found_iff.mpr hplaces record (mem_loaded.mpr hrecord) group hgroup
    have hmem := (hlisted record).mpr ⟨mem_loaded.mpr hrecord, hgroup⟩
    refine ⟨dir, view, hdir, hget, fun other => (hlisted other).trans ?_,
      fun dir' view' hdir' hget' hmem' => ?_⟩
    · rw [mem_loaded]
      rfl
    · exact (hshelf.place_eq hdir' hget' hmem' hgroup).symm.trans
        (hshelf.place_eq hdir hget hmem hgroup)
  · obtain ⟨group, -, -, rfl⟩ := (groupShelf sessionName views S.loaded).view_eq hdir hget
    obtain ⟨hmem, hgroup⟩ := mem_viewOf_rowsOf.mp hrecord
    obtain ⟨hmem', hgroup'⟩ := mem_viewOf_rowsOf.mp hother
    obtain ⟨identity, hidentity, hsame, -⟩ := exists_traceIdentity hgroup
    obtain ⟨identity', hidentity', hsame', -⟩ := exists_traceIdentity hgroup'
    rw [hidentity, hidentity', hkeys record hmem other hmem' _ _ hidentity hidentity'
      (hsame.trans hsame'.symm)]
  · exact groupedCallCount_eq sessionName views S.perm
  · have hbuilds := (named_iff _ _ (buildShelf sessionName views S.loaded)).mpr
    simp only [mem_loaded] at hbuilds
    exact hbuilds h.builds
  · have hsolves := (named_iff _ _ (solveShelf sessionName views S.loaded)).mpr
    simp only [mem_loaded] at hsolves
    exact hsolves h.solves
  · rcases hdir with rfl | hdir | hdir | hdir
    · rw [get?_session] at hget
      rw [hget, viewOf, sortRecords_loaded h.ordered, sortRecords_eq_self h.ordered]
    · obtain ⟨group, -, -, rfl⟩ := (groupShelf sessionName views S.loaded).view_eq hdir hget
      exact sublist_viewOf_rowsOf h.ordered _ _ _
    · obtain ⟨key, -, -, rfl⟩ := (buildShelf sessionName views S.loaded).view_eq hdir hget
      exact sublist_viewOf_rowsOf h.ordered _ _ _
    · obtain ⟨key, -, -, rfl⟩ := (solveShelf sessionName views S.loaded).view_eq hdir hget
      exact sublist_viewOf_rowsOf h.ordered _ _ _

end Theorem

/-- Views lose no call if and only if the records are kept apart and in order. -/
theorem losesNoCall_iff (sessionName : String) (views : Views) (S : Session) :
    LosesNoCall S.persisted (writeGroupedViews sessionName views S.loaded) ↔
      KeptApart S.persisted :=
  ⟨keptApart_of_losesNoCall, losesNoCall_of_keptApart⟩

/-! ## Two messages with one slug -/

lemma normalizeEpisodeScope_none :
    normalizeEpisodeScope none (fun _ => none) = fun _ => none := by
  funext field
  exact ite_self none

/-- The context of a message in the chat `c`. -/
def messageContext (message : String) : OpenAITraceContext where
  text
    | .factoryChatId => some "c"
    | .factoryMessageId => some message
    | _ => none
  number _ := none
  requestMode := none
  episodeKind := none
  touchedScope := []
  scope := normalizeEpisodeScope_none

def messageRecord (ordinal : ℕ) (callId message : String) : TraceRecord :=
  ⟨callId, ordinal, "2025-01-01T00:00:00+00:00", messageContext message, 0⟩

def twoMessages : List TraceRecord := [messageRecord 1 "c0001" "a b", messageRecord 2 "c0002" "a_b"]

lemma twoMessages_counted : twoMessages.Pairwise fun a b =>
    a.process = b.process → a.callOrdinal < b.callOrdinal :=
  List.pairwise_pair.mpr fun _ => Nat.one_lt_two

lemma twoMessages_distinct : (twoMessages.map (·.callId)).Nodup := by decide

def twoMessageSession : Session where
  persisted := twoMessages
  loaded := twoMessages
  perm := List.Perm.refl twoMessages
  distinct := twoMessages_distinct
  counted := twoMessages_counted

/-- The second message takes the directory of the first one, whose call is in no group view. -/
theorem message_lost_with_its_slug :
    traceGroupingKey (messageContext "a b") = some (.factoryMessage, "factory|c|a b") ∧
    traceGroupingKey (messageContext "a_b") = some (.factoryMessage, "factory|c|a_b") ∧
    factoryMessageViewDir (messageContext "a b") = factoryMessageViewDir (messageContext "a_b") ∧
    ¬LosesNoCall twoMessageSession.persisted
      (writeGroupedViews "session" .empty twoMessageSession.loaded) := by
  refine ⟨by decide +kernel, by decide +kernel, by decide +kernel, fun h => ?_⟩
  have hidentities := (keptApart_of_losesNoCall h).identities (messageRecord 1 "c0001" "a b")
    List.mem_cons_self (messageRecord 2 "c0002" "a_b")
    (List.mem_cons_of_mem _ List.mem_cons_self) (.factoryMessage "c" none "a b")
    (.factoryMessage "c" none "a_b") (by decide +kernel) (by decide +kernel) (by decide)
  exact hidentities.2 (by decide +kernel)

end Agintor.Tracing
