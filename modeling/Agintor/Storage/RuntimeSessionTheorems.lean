import Agintor.Lib.Lists
import Agintor.Storage.RuntimeSessionStore

/-!
# Continuing a runtime chat session

The next message of a session is seeded from the completed message with the largest index. This
works in every session whose completed messages carry something and that has at most ten thousand
messages.
-/

namespace Agintor.Storage.RuntimeSession

open Agintor.Core Lib

variable {G P R : Type}

/-- What a message recorded for the next one. -/
structure Carried (G P R : Type) where
  message : RuntimeSessionMessage
  longTermGraph : Option G
  predictorSnapshot : Option P
  shortTermCarryover : List R

/-- A session and what its messages have recorded. -/
structure Chat (G P R : Type) where
  session : Session G P R
  history : List (Carried G P R)

/-- What the first message that has the path in `field` recorded there. -/
def recordedAt {α : Type} (history : List (Carried G P R))
    (field : RuntimeSessionMessage → Option ArtifactPath) (value : Carried G P R → α)
    (absent : α) : Option ArtifactPath → α
  | none => absent
  | some path => ((history.find? fun e => field e.message = some path).map value).getD absent

/-- A completed message records what its result exports, and any message what was recorded at the
paths it came with. -/
def Call.carried (history : List (Carried G P R)) (c : Call G P R) : Carried G P R where
  message := c.recorded
  longTermGraph := (c.persisted.bind (·.postMessageLongTermGraph)).or
    (recordedAt history (·.longTermGraphPath) (·.longTermGraph) none c.message.longTermGraphPath)
  predictorSnapshot := (c.persisted.bind (·.postMessagePredictorSnapshot)).or
    (recordedAt history (·.predictorSnapshotPath) (·.predictorSnapshot) none
      c.message.predictorSnapshotPath)
  shortTermCarryover :=
    ((c.persisted.filter (·.hasCarryoverArtifacts)).map (·.postMessageShortTermExport)).getD
      (recordedAt history (·.boundaryStatePath) (·.shortTermCarryover) []
        c.message.boundaryStatePath)

def Chat.perform (chat : Chat G P R) (c : Call G P R) : Chat G P R :=
  match chat.session.admission c with
  | .ok _ => ⟨chat.session.perform c, chat.history ++ [c.carried chat.history]⟩
  | .error _ => chat

def Chat.run (chat : Chat G P R) (calls : List (Call G P R)) : Chat G P R :=
  calls.foldl Chat.perform chat

/-- The carryover paths of the message are those the store itself wrote. -/
structure Call.Honest (history : List (Carried G P R)) (c : Call G P R) : Prop where
  longTermGraph : ∀ path, c.message.longTermGraphPath = some path →
    ∃ e ∈ history, e.message.longTermGraphPath = some path
  predictorSnapshot : ∀ path, c.message.predictorSnapshotPath = some path →
    ∃ e ∈ history, e.message.predictorSnapshotPath = some path
  boundaryState : ∀ path, c.message.boundaryStatePath = some path →
    ∃ e ∈ history, e.message.boundaryStatePath = some path

/-- A completed message carries something: its result exports it, or its paths name it. -/
def Call.Carries (c : Call G P R) : Prop :=
  c.message.lifecycleState = .completed →
    c.resultHasCarryoverArtifacts = true ∨ c.message.hasCarryoverPath = true

/-- The call is refused, or its message carries what it must and is not added to ten thousand
others. -/
def Survives (s : Session G P R) (c : Call G P R) : Prop :=
  (∃ e, s.admission c = .error e) ∨ c.Carries ∧ s.messages.entries.length < 10000

def AllSurvive : Chat G P R → List (Call G P R) → Prop
  | _, [] => True
  | chat, c :: calls => Survives chat.session c ∧ AllSurvive (chat.perform c) calls

def AllHonest : Chat G P R → List (Call G P R) → Prop
  | _, [] => True
  | chat, c :: calls => c.Honest chat.history ∧ AllHonest (chat.perform c) calls

/-- The seed that goes on from what `e` recorded. -/
def seedFrom (emptyGraph : G) (sessionId : String) (n : ℕ) (e : Carried G P R) :
    RuntimeSessionSeed G P R where
  sessionId := sessionId
  messageIndex := n
  parentMessageId := some e.message.messageId.text
  longTermGraph := e.longTermGraph.getD emptyGraph
  predictorSnapshot := e.predictorSnapshot
  shortTermCarryover := e.shortTermCarryover

/-- The session can be continued. -/
structure Continuable (emptyGraph : G) (sessionId : String) (chat : Chat G P R) : Prop where
  messages : chat.session.readMessages = .ok (chat.history.map (·.message))
  indexes : chat.history.map (·.message.messageIndex) =
    (List.range chat.history.length).map fun i : ℕ => (i : ℤ)
  next : chat.session.nextMessageIndex = .ok chat.history.length
  seed : (∀ e ∈ chat.history, e.message.lifecycleState ≠ .completed) ∧
      chat.session.seedForNextMessage emptyGraph sessionId = .ok none ∨
    ∃ e ∈ chat.history, e.message.lifecycleState = .completed ∧
      (∀ e' ∈ chat.history, e'.message.lifecycleState = .completed →
        e'.message.messageIndex ≤ e.message.messageIndex) ∧
      chat.session.seedForNextMessage emptyGraph sessionId =
        .ok (some (seedFrom emptyGraph sessionId chat.history.length e))

/-! ## Sound sessions -/

/-- The files give back what `e` recorded. -/
structure Kept (s : Session G P R) (e : Carried G P R) : Prop where
  longTermGraph : s.loadLongTermGraph e.message.longTermGraphPath = .ok e.longTermGraph
  predictorSnapshot : s.loadPredictorSnapshot e.message.predictorSnapshotPath =
    .ok e.predictorSnapshot
  boundaryState : s.loadShortTermCarryover e.message.boundaryStatePath = .ok e.shortTermCarryover
  carries : e.message.lifecycleState = .completed → e.message.hasCarryoverPath = true

structure Sound (sessionId : String) (chat : Chat G P R) : Prop where
  manifest : ∃ identity, chat.session.manifest = some identity ∧ identity.sessionId = sessionId
  numbered : Numbered 4 (·.messageIndex) (·.messageId.text) chat.session.readMessageMetadata
    chat.session.messages (chat.history.map (·.message))
  kept : ∀ e ∈ chat.history, Kept chat.session e

/-- `s'` has all the files of `s`. -/
def Extends (s s' : Session G P R) : Prop :=
  ∀ path content, s.file? path = some content → s'.file? path = some content

lemma load_mono {α : Type} {s s' : Session G P R} (hextends : Extends s s') {artifact : String}
    {parse : Content G P R → Option α} {absent a : α} {path : Option ArtifactPath}
    (h : s.load artifact parse absent path = .ok a) : s'.load artifact parse absent path = .ok a := by
  cases path with
  | none => exact h
  | some path =>
    unfold Session.load at h ⊢
    cases hfile : s.file? path with
    | none => simp [hfile] at h
    | some content =>
      simp only [hfile] at h
      simp only [hextends path content hfile]
      cases hparse : parse content with
      | none => simp [hparse] at h
      | some a' =>
        simp only [hparse] at h ⊢
        exact h

lemma Kept.mono {s s' : Session G P R} (hextends : Extends s s') {e : Carried G P R}
    (h : Kept s e) : Kept s' e where
  longTermGraph := load_mono hextends h.longTermGraph
  predictorSnapshot := load_mono hextends h.predictorSnapshot
  boundaryState := load_mono hextends h.boundaryState
  carries := h.carries

@[simp] lemma get?_write (name x : String) (content : Option (Content G P R))
    (dir : MessageDir G P R) :
    (dir.write name content).get? x = if name = x then content.or (dir.get? x) else dir.get? x := by
  cases content with
  | none => simp [MessageDir.write]
  | some content => simp [MessageDir.write]

namespace Sound

variable {sessionId : String} {chat : Chat G P R} {c : Call G P R}

lemma latestMessage_eq (h : Sound sessionId chat) :
    chat.session.latestMessage = .ok (chat.history.map (·.message)).getLast? :=
  h.numbered.readLast_eq (by decide)

lemma nextMessageIndex_eq (h : Sound sessionId chat) :
    chat.session.nextMessageIndex = .ok chat.history.length := by
  unfold Session.nextMessageIndex
  rw [h.latestMessage_eq, ok_bind, h.numbered.nextIndex_eq, pure_eq_ok, List.length_map]

/-- What the path of an earlier message gives back is what that message recorded. -/
lemma load_recordedAt {α : Type} {artifact : String}
    {parse : Content G P R → Option α} {absent : α}
    {field : RuntimeSessionMessage → Option ArtifactPath} {value : Carried G P R → α}
    (hkept : ∀ e ∈ chat.history,
      chat.session.load artifact parse absent (field e.message) = .ok (value e))
    {path : Option ArtifactPath}
    (honest : ∀ p, path = some p → ∃ e ∈ chat.history, field e.message = some p) :
    chat.session.load artifact parse absent path =
      .ok (recordedAt chat.history field value absent path) := by
  cases path with
  | none => rfl
  | some p =>
    obtain ⟨e, he, hfield⟩ := honest p rfl
    unfold recordedAt
    cases hfind : chat.history.find? fun e => field e.message = some p with
    | none =>
      rw [List.find?_eq_none] at hfind
      exact absurd (by simp [hfield]) (hfind e he)
    | some e' =>
      have hpath : field e'.message = some p := by simpa using List.find?_some hfind
      have hload := hkept e' (List.mem_of_find?_eq_some hfind)
      rw [hpath] at hload
      simpa [hfind] using hload

variable {identity : RuntimeSessionIdentity}

section

variable (h : Sound sessionId chat)
include h

section

variable (hadmission : chat.session.admission c = .ok identity)
include hadmission

/-- The directory of an accepted message is new. -/
lemma admission_eq_ok :
    chat.session.manifest = some identity ∧ identity.sessionId = sessionId ∧
      c.message.messageIndex = chat.history.length ∧
      formatMessageDir c.message ∉ chat.session.messages.keys := by
  unfold Session.admission at hadmission
  simp only [h.nextMessageIndex_eq, bind_eq_ok_iff, raiseIf_eq_ok_iff, pure_eq_ok,
    Except.ok.injEq, exists_and_left, exists_const, not_not] at hadmission
  obtain ⟨_, hload, -, _, rfl, hindex, -, -, rfl⟩ := hadmission
  obtain ⟨identity, hidentity, hid⟩ := h.manifest
  simp only [Session.readManifest, hidentity, Except.ok.injEq] at hload
  rw [← hload]
  refine ⟨hidentity, hid, hindex, ?_⟩
  have hfresh := h.numbered.not_mem_keys c.message.messageId.text
  rw [List.length_map] at hfresh
  rwa [formatMessageDir, hindex]

/-- What an accepted call leaves. -/
lemma perform_session :
    (chat.session.perform c).messages =
        chat.session.messages.set (formatMessageDir c.message) c.files ∧
      (∃ identity, (chat.session.perform c).manifest = some identity ∧
        identity.sessionId = sessionId) ∧
      (chat.session.perform c).root = chat.session.root := by
  obtain ⟨hmanifest, hid, -⟩ := h.admission_eq_ok hadmission
  unfold Session.perform Session.recordMessage
  rw [hadmission, ok_bind]
  by_cases hinterrupted : c.interrupted = true
  · simp only [hinterrupted, if_true, pure_eq_ok]
    exact ⟨trivial, ⟨identity, hmanifest, hid⟩, trivial⟩
  · simp only [hinterrupted, pure_eq_ok]
    exact ⟨rfl, ⟨_, rfl, hid⟩, rfl⟩

lemma extends_perform :
    Extends chat.session (chat.session.perform c) := by
  obtain ⟨-, -, -, hfresh⟩ := h.admission_eq_ok hadmission
  intro path content hcontent
  obtain ⟨dir, hdir, hfile⟩ := Option.bind_eq_some_iff.mp hcontent
  have hne : formatMessageDir c.message ≠ path.dir := by
    intro heq
    rw [heq, ← Dict.get?_eq_none_iff, hdir] at hfresh
    simp at hfresh
  unfold Session.file?
  rw [(h.perform_session hadmission).1, Dict.get?_set, if_neg hne, hdir]
  exact hfile

/-- The files of an accepted message. -/
lemma file?_path
    (file : String) : (chat.session.perform c).file? (c.path file) = c.files.get? file := by
  unfold Session.file? Call.path
  rw [(h.perform_session hadmission).1]
  simp

/-- An artifact of an accepted message: the file written for it, or the one its path names. -/
lemma load_written
    {α β : Type} {artifact : String} {parse : Content G P R → Option α} {absent v : α}
    {path : Option ArtifactPath} (file : String) (own : Option β) (content : β → Content G P R)
    (value : β → α) (hfile : c.files.get? file = own.map content)
    (hparse : ∀ b, parse (content b) = some (value b))
    (hpath : chat.session.load artifact parse absent path = .ok v) :
    (chat.session.perform c).load artifact parse absent
      (if own.isSome then some (c.path file) else path) = .ok ((own.map value).getD v) := by
  cases own with
  | none => exact load_mono (h.extends_perform hadmission) hpath
  | some b =>
    have hcontent : (chat.session.perform c).file? (c.path file) = some (content b) := by
      rw [h.file?_path hadmission, hfile]
      rfl
    simp [Session.load, hcontent, hparse]

/-- The files of an accepted message give back what it recorded. -/
lemma kept_carried
    (honest : c.Honest chat.history) (hcarries : c.Carries) :
    Kept (chat.session.perform c) (c.carried chat.history) where
  longTermGraph := by
    have hload := h.load_written hadmission "long_term_graph.json"
      (c.persisted.bind (·.postMessageLongTermGraph)) .longTermGraph some (by simp [Call.files]) (fun _ => rfl)
      (load_recordedAt (fun e he => (h.kept e he).longTermGraph) honest.longTermGraph)
    refine hload.trans ?_
    unfold Call.carried
    cases c.persisted.bind (·.postMessageLongTermGraph) <;> rfl
  predictorSnapshot := by
    have hload := h.load_written hadmission "predictor_snapshot.json"
      (c.persisted.bind (·.postMessagePredictorSnapshot)) .predictorSnapshot some (by simp [Call.files]) (fun _ => rfl)
      (load_recordedAt (fun e he => (h.kept e he).predictorSnapshot) honest.predictorSnapshot)
    refine hload.trans ?_
    unfold Call.carried
    cases c.persisted.bind (·.postMessagePredictorSnapshot) <;> rfl
  boundaryState := by
    exact h.load_written hadmission "boundary_state.json"
      (c.persisted.filter fun result => result.hasCarryoverArtifacts)
      (fun result => .boundaryState result.postMessageShortTermExport)
      (fun result => result.postMessageShortTermExport) (by simp [Call.files])
      (fun _ => rfl)
      (load_recordedAt (fun e he => (h.kept e he).boundaryState) honest.boundaryState)
  carries := by
    intro hcompleted
    have hstate : c.message.lifecycleState = .completed := hcompleted
    show c.recorded.hasCarryoverPath = true
    obtain hresult | hpath := hcarries hstate
    · -- the result of the message exports something, so that there is a boundary file
      have hboundary : (c.persisted.filter (·.hasCarryoverArtifacts)).isSome = true := by
        unfold Call.resultHasCarryoverArtifacts at hresult
        unfold Call.persisted
        cases hc : c.result with
        | none => simp [hc] at hresult
        | some result =>
          rw [hc] at hresult
          simpa [hstate] using hresult
      simp [RuntimeSessionMessage.hasCarryoverPath, Call.recorded, hboundary]
    · -- a path that the message came with stays or is replaced
      simp only [RuntimeSessionMessage.hasCarryoverPath, Bool.or_eq_true] at hpath ⊢
      unfold Call.recorded
      simp only
      split_ifs <;> simp_all

end

/-- A call that the session survives keeps it sound. -/
lemma perform (honest : c.Honest chat.history)
    (hsurvives : Survives chat.session c) : Sound sessionId (chat.perform c) := by
  unfold Chat.perform
  cases hadmission : chat.session.admission c with
  | error e => exact h
  | ok identity =>
    obtain ⟨e, he⟩ | ⟨hcarries, hlength⟩ := hsurvives
    · rw [hadmission] at he
      simp at he
    obtain ⟨-, -, hindex, -⟩ := h.admission_eq_ok hadmission
    obtain ⟨hmessages, hmanifest, hroot⟩ := h.perform_session hadmission
    refine ⟨hmanifest, ?_, ?_⟩
    · have hread : (chat.session.perform c).readMessageMetadata =
          chat.session.readMessageMetadata := by
        funext name dir
        unfold Session.readMessageMetadata Session.pathText
        rw [hroot]
      have hmetadata : chat.session.readMessageMetadata (formatMessageDir c.message) c.files =
          .ok c.recorded := by
        simp [Session.readMessageMetadata, Call.files]
      simp only [hmessages, hread, List.map_append, List.map_singleton]
      apply h.numbered.append (m := c.recorded)
      · rwa [← h.numbered.length_entries]
      · rw [List.length_map]
        exact hindex
      · exact hmetadata
    · intro e he
      obtain he | rfl := by simpa using he
      · exact (h.kept e he).mono (h.extends_perform hadmission)
      · exact h.kept_carried hadmission honest hcarries

end

end Sound

/-! ## Seeding -/

lemma firstCompleted_eq {s : Session G P R} {es : List (String × MessageDir G P R)}
    {ms : List RuntimeSessionMessage}
    (hread : List.Forall₂ (fun e m => s.readMessageMetadata e.1 e.2 = .ok m) es ms)
    (hcarries : ∀ m ∈ ms, m.lifecycleState = .completed → m.hasCarryoverPath = true) :
    s.firstCompleted es = .ok (ms.find? fun m => m.lifecycleState = .completed) := by
  induction hread with
  | nil => rfl
  | @cons e m es ms hm hrest ih =>
    rw [Session.firstCompleted, hm, ok_bind]
    by_cases hcompleted : m.lifecycleState = .completed
    · have hpath := hcarries m List.mem_cons_self hcompleted
      simp [hcompleted, hpath]
    · rw [if_pos hcompleted, List.find?_cons_of_neg (by simpa using hcompleted)]
      exact ih fun m hm => hcarries m (List.mem_cons_of_mem _ hm)

namespace Sound

variable {sessionId : String} {chat : Chat G P R}

lemma latestCompletedMessage_eq (h : Sound sessionId chat) :
    chat.session.latestCompletedMessage =
      .ok ((chat.history.reverse.find? fun e => e.message.lifecycleState = .completed).map
        (·.message)) := by
  unfold Session.latestCompletedMessage
  rw [h.numbered.listing_eq (by decide)]
  have hread := List.rel_reverse h.numbered.entries
  rw [firstCompleted_eq (hread.imp fun _ _ he => he.2), ← List.map_reverse, List.find?_map]
  · rfl
  · intro m hm
    obtain ⟨e, he, rfl⟩ := List.mem_map.mp (List.mem_reverse.mp hm)
    exact (h.kept e he).carries

/-- The last completed message is the one with the largest index. -/
lemma index_le_of_find? (h : Sound sessionId chat) {e : Carried G P R}
    (hfind : (chat.history.reverse.find? fun e => e.message.lifecycleState = .completed) = some e)
    {e' : Carried G P R} (he' : e' ∈ chat.history)
    (hcompleted : e'.message.lifecycleState = .completed) :
    e'.message.messageIndex ≤ e.message.messageIndex := by
  obtain ⟨-, later, earlier, hsplit, hlater⟩ := List.find?_eq_some_iff_append.mp hfind
  have hpairwise : chat.history.reverse.Pairwise fun e e' =>
      e'.message.messageIndex < e.message.messageIndex := by
    have hindex := h.numbered.pairwise_index
    rw [List.pairwise_map] at hindex
    exact List.pairwise_reverse.mpr hindex
  rw [← List.mem_reverse, hsplit, List.mem_append, List.mem_cons] at he'
  rw [hsplit, List.pairwise_append, List.pairwise_cons] at hpairwise
  rcases he' with hmem | rfl | hmem
  · exact absurd (by simpa using hcompleted) (by simpa using hlater e' hmem)
  · exact le_refl _
  · exact (hpairwise.2.1.1 e' hmem).le

theorem continuable (h : Sound sessionId chat) (emptyGraph : G) :
    Continuable emptyGraph sessionId chat where
  messages := h.numbered.readAll_eq (by decide)
  indexes := by
    have hindexes := h.numbered.indexes
    rwa [List.map_map, List.length_map] at hindexes
  next := h.nextMessageIndex_eq
  seed := by
    unfold Session.seedForNextMessage
    rw [h.latestCompletedMessage_eq, ok_bind]
    cases hfind : chat.history.reverse.find? fun e => e.message.lifecycleState = .completed with
    | none =>
      refine Or.inl ⟨?_, rfl⟩
      intro e he
      simpa using List.find?_eq_none.mp hfind e (List.mem_reverse.mpr he)
    | some e =>
      have he := List.mem_reverse.mp (List.mem_of_find?_eq_some hfind)
      have hkept := h.kept e he
      refine Or.inr ⟨e, he, by simpa using List.find?_some hfind,
        fun e' he' => h.index_le_of_find? hfind he', ?_⟩
      simp only [Option.map_some]
      rw [hkept.longTermGraph, ok_bind, hkept.predictorSnapshot, ok_bind, hkept.boundaryState,
        ok_bind, h.nextMessageIndex_eq, ok_bind, pure_eq_ok]
      rfl

end Sound

/-! ## Runs -/

lemma sound_createSession (root sessionId : String) :
    Sound sessionId (⟨createSession root sessionId, []⟩ : Chat G P R) where
  manifest := ⟨_, rfl, rfl⟩
  numbered := .empty
  kept := by simp

lemma Sound.run {sessionId : String} {chat : Chat G P R} {calls : List (Call G P R)}
    (h : Sound sessionId chat) (honest : AllHonest chat calls) (hsurvive : AllSurvive chat calls)
    (k : ℕ) : Sound sessionId (chat.run (calls.take k)) := by
  induction calls generalizing chat k with
  | nil =>
    rw [List.take_nil]
    exact h
  | cons c calls ih =>
    cases k with
    | zero => exact h
    | succ k => exact ih (h.perform honest.1 hsurvive.1) honest.2 hsurvive.2 k

/-- In a run whose completed messages carry something and number at most ten thousand, the
session can be continued in every state reached. -/
theorem continuable_of_survived {root sessionId : String} {calls : List (Call G P R)}
    (honest : AllHonest ⟨createSession root sessionId, []⟩ calls)
    (hsurvive : AllSurvive ⟨createSession root sessionId, []⟩ calls) (emptyGraph : G) (k : ℕ) :
    Continuable emptyGraph sessionId
      (Chat.run ⟨createSession root sessionId, []⟩ (calls.take k)) :=
  ((sound_createSession root sessionId).run honest hsurvive k).continuable emptyGraph

/-- A completed message of a runtime that supports neither checkpoints nor resumption, with a
result that exports the rows `rows`. -/
def completedCall (rows : List ℕ) (index : ℤ) (id : PathComponent) : Call ℕ ℕ ℕ where
  message :=
    { messageId := id
      messageIndex := index
      parentMessageId := none
      sessionId := "sess.a"
      requestId := "req.a"
      prompt := "go on"
      createdAt := 0
      boundaryStatePath := none
      longTermGraphPath := none
      predictorSnapshotPath := none
      resultPath := none
      responsePath := none
      lifecycleState := .completed }
  promptText := "go on"
  requestPayload := none
  response := some ⟨⟨false, false⟩⟩
  result := some ⟨none, none, rows⟩
  interrupted := false

theorem msgA_component : ∀ c ∈ "msg.a".toList, c ≠ '/' ∧ c ≠ '\x00' :=
  forall_mem_of_all (by decide +kernel)

def msgA : PathComponent := ⟨"msg.a", msgA_component⟩

/-- A session is continued from a message that exported a row. -/
theorem continuable_of_survived_row :
    Continuable 0 "sess.a" (Chat.run ⟨createSession "/runtime/sess.a" "sess.a", []⟩
      ([completedCall [7] 0 msgA].take 1)) := by
  apply continuable_of_survived
  · exact ⟨⟨by simp [completedCall], by simp [completedCall], by simp [completedCall]⟩, trivial⟩
  · exact ⟨Or.inr ⟨fun _ => Or.inl rfl, by decide +kernel⟩, trivial⟩

/-- A completed message is accepted without anything to carry over, and then no seed can be made
for the next one. -/
theorem not_continuable_of_bare :
    ¬Continuable 0 "sess.a" (Chat.run ⟨createSession "/runtime/sess.a" "sess.a", []⟩
      [completedCall [] 0 msgA]) := by
  intro h
  have hfails : ((Chat.run ⟨createSession "/runtime/sess.a" "sess.a", []⟩
      [completedCall [] 0 msgA]).session.seedForNextMessage 0
        "sess.a").toBool = false := by
    decide +kernel
  obtain ⟨-, hseed⟩ | ⟨e, -, -, -, hseed⟩ := h.seed
  · simp [hseed, Except.toBool] at hfails
  · simp [hseed, Except.toBool] at hfails

end Agintor.Storage.RuntimeSession
