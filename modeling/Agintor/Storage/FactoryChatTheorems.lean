import Agintor.Lib.Lists
import Agintor.Storage.FactoryChatStore

/-!
# The history of a factory chat

A chat keeps its history through a call unless the call is killed while its temporary directory
exists, or adds a message to ten thousand others.
-/

namespace Agintor.Storage.FactoryChat

open Agintor.Core Lib

variable {S : FactoryChatStore} {chat : ChatFiles} {c : Call} {chatId : String}

/-- The artifacts that a call has to copy. -/
def Call.given (c : Call) : List (ArtifactField × ArtifactSource) :=
  c.planningArtifacts.entries.filter fun a => a.2.path ≠ ""

/-- Every copy succeeds. -/
def Call.Readable (c : Call) : Prop := ∀ a ∈ c.given, a.2.content.isSome

/-- The artifacts copied, up to the first copy that fails. -/
def Call.copied (c : Call) : List (ArtifactField × ArtifactSource) :=
  c.given.takeWhile fun a => a.2.content.isSome

/-- The steps that an admitted call makes after it creates its temporary directory, until that
directory is renamed or removed again. -/
def Call.Exposed (c : Call) : ChatStep → Prop
  | .makeDirectory => False
  | .writePrompt => c.promptText ≠ ""
  | .copyArtifact field => ∃ a ∈ c.copied, a.1 = field
  | .writeMetadata => c.Readable
  | .rename => c.Readable
  | .removeFile name => ¬c.Readable ∧
      (name = "prompt.txt" ∧ c.promptText ≠ "" ∨ ∃ a ∈ c.copied, a.2.name = name)
  | .removeDirectory => ¬c.Readable
  | .writeManifest => False

/-- The call is refused, or it does not die while its temporary directory exists and adds no
message to ten thousand others. -/
def Survives (S : FactoryChatStore) (chat : ChatFiles) (c : Call) : Prop :=
  (∃ e, S.admission chat c.message c.planningArtifacts = .error e) ∨
    (∀ i, c.crash = some i → ¬c.Exposed i) ∧
      (c.Readable → c.crash ≠ some .makeDirectory → chat.messages.entries.length < 10000)

def AllSurvive (S : FactoryChatStore) : ChatFiles → List Call → Prop
  | _, [] => True
  | chat, c :: calls => Survives S chat c ∧ AllSurvive S (S.perform chat c).2 calls

/-- Readers see the renamed messages, in the order of their indexes, and the chat goes on. -/
structure KeepsHistory (S : FactoryChatStore) (chatId : String) (chat : ChatFiles) : Prop where
  messages : S.messages chat = .ok chat.renamed
  indexes : chat.renamed.map (·.messageIndex) =
    (List.range chat.renamed.length).map fun i : ℕ => (i : ℤ)
  latest : S.latestMessage chat = .ok chat.renamed.getLast?
  next : S.nextMessageIndex chat = .ok chat.renamed.length
  continues : ∀ c : Call, c.crash = none → c.message.chatId = chatId →
    c.message.messageIndex = chat.renamed.length →
    (∀ a ∈ c.given, a.2.isFile = true ∧ a.2.content.isSome) →
    ∃ m, (S.perform chat c).1 = .ok m

/-! ## Settled chats -/

/-- A chat without temporary directories. -/
structure Settled (S : FactoryChatStore) (chatId : String) (chat : ChatFiles) : Prop where
  manifest : ∃ identity, chat.manifest = some identity ∧ identity.chatId = chatId
  numbered : Numbered 4 (·.messageIndex) (·.messageId.text) S.readMessageMetadata chat.messages
    chat.renamed

lemma settled_createChat (chatId : String) : Settled S chatId (createChat chatId) where
  manifest := ⟨_, rfl, rfl⟩
  numbered := .empty

namespace Settled

section

variable (h : Settled S chatId chat)
include h

lemma latestMessage_eq :
    S.latestMessage chat = .ok chat.renamed.getLast? := h.numbered.readLast_eq (by decide)

lemma nextMessageIndex_eq :
    S.nextMessageIndex chat = .ok chat.renamed.length := by
  unfold FactoryChatStore.nextMessageIndex
  rw [h.latestMessage_eq, ok_bind, h.numbered.nextIndex_eq, pure_eq_ok]

/-- The names of the directories start with a digit. -/
lemma temp_not_mem (name : String) : "." ++ name ∉ chat.messages.keys := by
  intro hmem
  obtain ⟨e, he, hname⟩ := List.mem_map.mp hmem
  obtain ⟨m, hm, hentry, -⟩ := exists_mem_right_of_forall₂ h.numbered.entries he
  obtain ⟨i, hi, hget⟩ := List.getElem_of_mem hm
  have hindex := h.numbered.index_eq (List.getElem?_eq_some_iff.mpr ⟨hi, hget⟩)
  rw [hname, hindex] at hentry
  have hchars := congrArg String.toList hentry
  rw [toList_numberedName, String.toList_append] at hchars
  have hlength := length_zeroPadChars (w := 4) (n := i) (by decide)
    (by have := h.numbered.bounded; omega)
  cases hpad : zeroPadChars 4 i with
  | nil => simp [hpad] at hlength
  | cons d ds =>
    have hdigit : d.isDigit := isDigit_of_mem_zeroPadChars (w := 4) (n := i) (by simp [hpad])
    rw [hpad] at hchars
    have hd : '.' = d := by simpa using congrArg List.head? hchars
    rw [← hd] at hdigit
    exact absurd hdigit (by decide)

lemma admission_eq_ok {message : FactoryMessage}
    {artifacts : Dict ArtifactField ArtifactSource} {identity : FactoryChatIdentity}
    {sources : List (ArtifactField × ArtifactSource)}
    (hadmission : S.admission chat message artifacts = .ok (identity, sources)) :
    chat.manifest = some identity ∧ identity.chatId = chatId ∧
      message.messageIndex = chat.renamed.length ∧
      sources = artifacts.entries.filter fun a => a.2.path ≠ "" := by
  unfold FactoryChatStore.admission FactoryChatStore.validatePlanningArtifacts at hadmission
  simp only [h.nextMessageIndex_eq, bind_eq_ok_iff, raiseIf_eq_ok_iff, pure_eq_ok,
    Except.ok.injEq, Prod.mk.injEq, exists_and_left, exists_const, not_not] at hadmission
  obtain ⟨_, hload, -, _, rfl, hmessage, _, ⟨-, -, rfl⟩, -, rfl, hsources⟩ := hadmission
  obtain ⟨identity, hidentity, hchat⟩ := h.manifest
  simp only [FactoryChatStore.loadChat, hidentity, Except.ok.injEq] at hload
  rw [← hload]
  exact ⟨hidentity, hchat, hmessage, hsources.symm⟩

end

end Settled

/-! ## One call -/

/-- The chat while a call fills its temporary directory. -/
def staged (chat : ChatFiles) (name : String) (dir : MessageDir) : ChatFiles :=
  { chat with messages := chat.messages.set name dir }

lemma onDir_staged (name : String) (dir : MessageDir) (f : MessageDir → MessageDir) :
    (staged chat name dir).onDir name f = staged chat name (f dir) := by
  simp [staged, ChatFiles.onDir]

/-- A process may die before the step `crash`, and otherwise nothing goes wrong. -/
def crashRules (crash : Option ChatStep) : Rules ChatStep ChatFiles where
  pending f := f = crash.map fun i => ⟨i, 0, .kill⟩
  origin _ := True
  moves _ _ := True
  waits := by
    intro i k kind h
    obtain ⟨j, -, hj⟩ := Option.map_eq_some_iff.mp h.symm
    simp at hj

section Steps

variable {crash : Option ChatStep} {P : ChatFiles → Prop} {Q : Unit → ChatFiles → Prop}
  {E : Stop ChatError → ChatFiles → Prop}

variable {i : ChatStep}

lemma allowed_crashRules {kind : Interrupt} :
    (crashRules crash).allowed i kind ↔ crash = some i ∧ kind = .kill := by
  unfold Rules.allowed crashRules
  cases crash with
  | none => simp
  | some j => simp [eq_comm]

lemma passes_crashRules : (crashRules crash).passes i ↔ crash ≠ some i := by
  unfold Rules.passes crashRules
  cases crash with
  | none => simp
  | some j => simp

lemma triple_chatStep {f : ChatFiles → ChatFiles} (hQ : crash ≠ some i → ∀ s, P s → Q () (f s))
    (hstop : crash = some i → ∀ s, P s → E .killed s) :
    Triple (crashRules crash) P (chatStep i f) Q E := by
  apply Triple.step_of_passes
  · exact fun hpasses s hs => ⟨trivial, hQ (passes_crashRules.mp hpasses) s hs⟩
  · intro s kind hs hallowed _
    obtain ⟨hi, rfl⟩ := allowed_crashRules.mp hallowed
    exact hstop hi s hs
  · intro s hs hallowed
    exact absurd (allowed_crashRules.mp hallowed).2 (by decide)

/-- Removing a temporary directory gives the chat back. -/
lemma triple_rmtree {name : String} (dir : MessageDir) (hfresh : name ∉ chat.messages.keys)
    (hfiles : ∀ file ∈ dir.keys, crash ≠ some (.removeFile file))
    (hdirectory : crash ≠ some .removeDirectory) (hE : ∀ s, s = chat → Q () s) :
    Triple (crashRules crash) (fun s => s = staged chat name dir) (FactoryChatStore.rmtree name)
      Q E := by
  unfold FactoryChatStore.rmtree
  apply Triple.read_bind
  rintro _ rfl
  have hget : (staged chat name dir).messages.get? name = some dir := by simp [staged]
  simp only [hget]
  apply Triple.bind (M := fun _ s => ∃ dir', s = staged chat name dir')
  · apply (Triple.forM (I := fun _ s => ∃ dir', s = staged chat name dir') ?_).pre
    · rintro _ rfl
      exact ⟨dir, rfl⟩
    · intro before file after hkeys
      apply triple_chatStep
      · rintro - _ ⟨dir', rfl⟩
        exact ⟨_, onDir_staged _ _ _⟩
      · intro hcrash
        exact absurd hcrash (hfiles file (by rw [hkeys]; simp))
  · intro _
    apply triple_chatStep
    · rintro - _ ⟨dir', rfl⟩
      apply hE
      simp [staged, Dict.erase_set_of_not_mem hfresh]
    · intro hcrash
      exact absurd hcrash hdirectory

end Steps

section Record

variable (S chat c)

/-- The name under which a call fills its directory. -/
def Call.tempName : String := "." ++ FactoryChatStore.formatMessageDir c.message ++ ".tmp." ++ c.suffix

/-- The message that a call adds. -/
def Call.recorded : FactoryMessage := S.recordedMessage c.message c.given

/-- The messages after the rename. -/
def Renamed (s : ChatFiles) : Prop :=
  c.Readable ∧ c.crash ≠ some .makeDirectory ∧ s.renamed = chat.renamed ++ [c.recorded S] ∧
    ∃ dir : MessageDir, dir.get? "metadata.json" = some (.message (c.recorded S)) ∧
      s.messages = chat.messages.set (FactoryChatStore.formatMessageDir c.message) dir

variable {S chat c}

/-- Copying fails at the first artifact that cannot be read, and then leaves only the prompt and
the copies made so far. -/
lemma triple_copyPlanningArtifacts {E : Stop ChatError → ChatFiles → Prop}
    (hcrash : ∀ i, c.crash = some i → ¬c.Exposed i)
    (hE : ¬c.Readable → ∀ e dir, (∀ file ∈ dir.keys, c.Exposed (.removeFile file)) →
      E (.raised e) (staged chat c.tempName dir)) :
    Triple (crashRules c.crash)
      (fun s => ∃ dir, s = staged chat c.tempName dir ∧
        ∀ file ∈ dir.keys, file = "prompt.txt" ∧ c.promptText ≠ "")
      (FactoryChatStore.copyPlanningArtifacts c.tempName c.given)
      (fun _ s => c.Readable ∧ ∃ dir, s = staged chat c.tempName dir) E := by
  -- the files there after the artifacts `before` have been copied
  unfold FactoryChatStore.copyPlanningArtifacts
  refine (Triple.forM (R := crashRules c.crash) (E := E) (l := c.given)
    (I := fun before s => (∀ a ∈ before, a.2.content.isSome) ∧
      ∃ dir, s = staged chat c.tempName dir ∧ ∀ file ∈ dir.keys,
        file = "prompt.txt" ∧ c.promptText ≠ "" ∨ ∃ a ∈ before, a.2.name = file) ?_).conseq ?_ ?_ ?_
  · intro before a after hgiven
    have htake : (∀ b ∈ before, b.2.content.isSome) → c.copied =
        before ++ (a :: after).takeWhile fun b => b.2.content.isSome := by
      intro hbefore
      rw [Call.copied, hgiven, List.takeWhile_append_of_pos hbefore]
    cases hcontent : a.2.content with
    | some content =>
      apply triple_chatStep
      · rintro - _ ⟨hbefore, dir, rfl, hfiles⟩
        refine ⟨?_, _, onDir_staged _ _ _, ?_⟩
        · intro b hb
          obtain hb | rfl := by simpa using hb
          · exact hbefore b hb
          · simp [hcontent]
        · intro file hfile
          obtain rfl | hfile := Dict.mem_keys_set.mp hfile
          · exact Or.inr ⟨a, by simp, rfl⟩
          · obtain hprompt | ⟨b, hb, hname⟩ := hfiles file hfile
            · exact Or.inl hprompt
            · exact Or.inr ⟨b, by simp [hb], hname⟩
      · rintro hstop s ⟨hbefore, -⟩
        refine absurd ⟨a, ?_, rfl⟩ (hcrash _ hstop)
        rw [htake hbefore]
        simp [hcontent]
    | none =>
      apply Triple.raise
      rintro _ ⟨hbefore, dir, rfl, hfiles⟩
      have hunreadable : ¬c.Readable := by
        intro hreadable
        have ha := hreadable a (by rw [hgiven]; simp)
        simp [hcontent] at ha
      refine hE hunreadable _ dir fun file hfile => ⟨hunreadable, ?_⟩
      obtain hprompt | ⟨b, hb, hname⟩ := hfiles file hfile
      · exact Or.inl hprompt
      · exact Or.inr ⟨b, by rw [htake hbefore]; simp [hb], hname⟩
  · rintro _ ⟨dir, rfl, hfiles⟩
    exact ⟨by simp, dir, rfl, fun file hfile => Or.inl (hfiles file hfile)⟩
  · rintro _ _ ⟨hreadable, dir, rfl, -⟩
    exact ⟨hreadable, dir, rfl⟩
  · exact fun _ _ hE => hE

lemma recorded_messageIndex : (c.recorded S).messageIndex = c.message.messageIndex ∧
    (c.recorded S).messageId = c.message.messageId := by
  unfold Call.recorded FactoryChatStore.recordedMessage
  generalize c.message = message
  suffices hfold : ∀ (l : List (ArtifactField × ArtifactSource)) (m : FactoryMessage),
      (l.foldl (fun m a => m.setattr
        (S.messageDirPath (FactoryChatStore.formatMessageDir message) ++ "/" ++ a.2.name) a.1)
          m).messageIndex = m.messageIndex ∧
      (l.foldl (fun m a => m.setattr
        (S.messageDirPath (FactoryChatStore.formatMessageDir message) ++ "/" ++ a.2.name) a.1)
          m).messageId = m.messageId from hfold _ message
  intro l
  induction l with
  | nil => exact fun m => ⟨rfl, rfl⟩
  | cons a l ih =>
    intro m
    rw [List.foldl_cons, (ih _).1, (ih _).2]
    cases a.1 <;> exact ⟨rfl, rfl⟩

lemma rename_staged {dir : MessageDir} (hfresh : c.tempName ∉ chat.messages.keys) :
    (staged chat c.tempName dir).rename c.tempName (FactoryChatStore.formatMessageDir c.message)
        (c.recorded S) =
      { chat with
        messages := chat.messages.set (FactoryChatStore.formatMessageDir c.message) dir
        renamed := chat.renamed ++ [c.recorded S] } := by
  simp [staged, ChatFiles.rename, Dict.erase_set_of_not_mem hfresh]

/-- The `try` block adds the message, or leaves the temporary directory to be removed. -/
lemma triple_publish (hfresh : c.tempName ∉ chat.messages.keys)
    (hcrash : ∀ i, c.crash = some i → ¬c.Exposed i) :
    Triple (crashRules c.crash) (fun s => s = chat)
      (FactoryChatStore.publish c.tempName c.message (c.recorded S) c.promptText c.given)
      (fun _ s => Renamed S chat c s ∧ s.manifest = chat.manifest)
      (fun r s => r = .killed ∧ s = chat ∨ ¬c.Readable ∧ ∃ e dir, r = .raised e ∧
        s = staged chat c.tempName dir ∧ ∀ file ∈ dir.keys, c.Exposed (.removeFile file)) := by
  unfold FactoryChatStore.publish
  apply Triple.bind (M := fun _ s => c.crash ≠ some .makeDirectory ∧
    s = staged chat c.tempName .empty)
  · apply triple_chatStep
    · rintro hpass _ rfl
      exact ⟨hpass, rfl⟩
    · exact fun _ s hs => Or.inl ⟨rfl, hs⟩
  intro _
  apply Triple.of_fact fun s hs => hs.1
  intro hpass
  apply Triple.bind (M := fun _ s => ∃ dir, s = staged chat c.tempName dir ∧
    ∀ file ∈ dir.keys, file = "prompt.txt" ∧ c.promptText ≠ "")
  · unfold FactoryChatStore.writePrompt
    split
    · next hprompt =>
      apply triple_chatStep
      · rintro - _ ⟨-, rfl⟩
        refine ⟨_, onDir_staged _ _ _, ?_⟩
        intro file hfile
        obtain rfl | hfile := Dict.mem_keys_set.mp hfile
        · exact ⟨rfl, hprompt⟩
        · exact absurd hfile List.not_mem_nil
      · exact fun hstop => absurd hprompt (hcrash _ hstop)
    · apply Triple.pure
      rintro _ ⟨-, rfl⟩
      exact ⟨.empty, rfl, fun file hfile => absurd hfile List.not_mem_nil⟩
  intro _
  apply Triple.bind (M := fun _ s => c.Readable ∧ ∃ dir, s = staged chat c.tempName dir)
  · apply triple_copyPlanningArtifacts hcrash
    intro hunreadable e dir hfiles
    exact Or.inr ⟨hunreadable, e, dir, rfl, rfl, hfiles⟩
  intro _
  apply Triple.of_fact fun s hs => hs.1
  intro hreadable
  apply Triple.bind (M := fun _ s => ∃ dir : MessageDir, s = staged chat c.tempName dir ∧
    dir.get? "metadata.json" = some (.message (c.recorded S)))
  · apply triple_chatStep
    · rintro - _ ⟨-, dir, rfl⟩
      exact ⟨_, onDir_staged _ _ _, by simp⟩
    · exact fun hstop => absurd hreadable (hcrash _ hstop)
  intro _
  apply triple_chatStep
  · rintro - _ ⟨dir, rfl, hmetadata⟩
    rw [rename_staged hfresh]
    exact ⟨⟨hreadable, hpass, rfl, dir, hmetadata, rfl⟩, rfl⟩
  · exact fun hstop => absurd hreadable (hcrash _ hstop)

/-- What an admitted call does that is not killed while its temporary directory exists. It ends
with the message added, or with the chat as it was. -/
lemma triple_recordMessage (h : Settled S chatId chat) {identity : FactoryChatIdentity}
    {sources : List (ArtifactField × ArtifactSource)}
    (hadmission : S.admission chat c.message c.planningArtifacts = .ok (identity, sources))
    (hcrash : ∀ i, c.crash = some i → ¬c.Exposed i) :
    Triple (crashRules c.crash) (fun s => s = chat)
      (S.recordMessage c.message c.promptText c.planningArtifacts c.suffix)
      (fun _ s => Renamed S chat c s ∧
        ∃ identity, s.manifest = some identity ∧ identity.chatId = chatId)
      (fun r s => s = chat ∧ ((∃ e, r = .raised e) → ¬c.Readable) ∨
        (∀ e, r ≠ .raised e) ∧ Renamed S chat c s ∧ s.manifest = chat.manifest) := by
  obtain ⟨hmanifest, hchat, hindex, rfl⟩ := h.admission_eq_ok hadmission
  have hfresh : c.tempName ∉ chat.messages.keys := by
    unfold Call.tempName
    rw [String.append_assoc, String.append_assoc]
    exact h.temp_not_mem _
  -- nothing is there under the temporary name
  have hclear : ∀ {crash : Option ChatStep} {E : Stop ChatError → ChatFiles → Prop},
      Triple (crashRules crash) (fun s => s = chat) (FactoryChatStore.rmtree c.tempName)
        (fun _ s => s = chat) E := by
    intro crash E
    unfold FactoryChatStore.rmtree
    apply Triple.read_bind
    rintro _ rfl
    rw [Dict.get?_eq_none_iff.mpr hfresh]
    exact Triple.pure fun _ hs => hs
  unfold FactoryChatStore.recordMessage
  apply Triple.read_bind
  intro s hs
  rw [hs]
  apply Triple.check_ok_bind hadmission
  apply Triple.bind hclear
  intro _
  apply Triple.bind (M := fun _ s => Renamed S chat c s ∧ s.manifest = chat.manifest)
  · apply Triple.tryExcept (triple_publish hfresh hcrash)
    · -- a copy failed: the temporary directory is removed
      intro e
      apply Triple.of_fact (F := ¬c.Readable)
      · rintro s (⟨hkilled, -⟩ | ⟨hunreadable, -⟩)
        · simp at hkilled
        · exact hunreadable
      intro hunreadable m hm hs
      obtain ⟨hkilled, -⟩ | ⟨-, -, dir, -, hstaged, hfiles⟩ := hs
      · simp at hkilled
      · refine triple_rmtree dir hfresh ?_ ?_ ?_ m hm hstaged
        · exact fun file hfile hstop => hcrash _ hstop (hfiles file hfile)
        · exact fun hstop => hcrash _ hstop hunreadable
        · exact fun s hs => Or.inl ⟨hs, fun _ => hunreadable⟩
    · rintro m - (⟨hkilled, -⟩ | ⟨-, e, dir, hraised, -⟩)
      · simp at hkilled
      · simp at hraised
    · rintro s (⟨hkilled, -⟩ | ⟨-, e, dir, hraised, -⟩)
      · simp at hkilled
      · simp at hraised
    · rintro s (⟨-, hs⟩ | ⟨-, e, dir, hraised, -⟩)
      · exact Or.inl ⟨hs, by simp⟩
      · simp at hraised
  intro _
  apply Triple.bind (M := fun _ s => Renamed S chat c s ∧
    ∃ identity, s.manifest = some identity ∧ identity.chatId = chatId)
  · apply triple_chatStep
    · rintro - s ⟨hrenamed, -⟩
      exact ⟨hrenamed, _, rfl, hchat⟩
    · exact fun _ s hs => Or.inr ⟨by simp, hs⟩
  intro _
  exact Triple.pure fun _ hs => hs

end Record

lemma Settled.of_renamed (h : Settled S chatId chat) {s : ChatFiles}
    (hindex : c.message.messageIndex = chat.renamed.length)
    (hlength : c.Readable → c.crash ≠ some .makeDirectory → chat.messages.entries.length < 10000)
    (hs : Renamed S chat c s)
    (hmanifest : ∃ identity, s.manifest = some identity ∧ identity.chatId = chatId) :
    Settled S chatId s := by
  obtain ⟨hreadable, hpass, hrenamed, dir, hmetadata, hmessages⟩ := hs
  obtain ⟨hsame, hid⟩ := recorded_messageIndex (S := S) (c := c)
  refine ⟨hmanifest, ?_⟩
  rw [hrenamed, hmessages, FactoryChatStore.formatMessageDir, ← hsame, ← hid]
  apply h.numbered.append
  · rw [← h.numbered.length_entries]
    exact hlength hreadable hpass
  · rw [hsame, hindex]
  · simp [FactoryChatStore.readMessageMetadata, hmetadata]

/-- The run of a call, from a machine that has done nothing yet. -/
lemma lands_perform {Q : FactoryMessage → ChatFiles → Prop} {E : Stop ChatError → ChatFiles → Prop}
    (h : Triple (crashRules c.crash) (fun s => s = chat)
      (S.recordMessage c.message c.promptText c.planningArtifacts c.suffix) Q E) :
    (∃ m, (S.perform chat c).1 = .ok m ∧ Q m (S.perform chat c).2) ∨
      ∃ r, (S.perform chat c).1 = .error r ∧ (c.crash = none → ∃ e, r = .raised e) ∧
        E r (S.perform chat c).2 := by
  obtain ⟨-, hpost⟩ := h { state := chat, fault := c.crash.map fun i => ⟨i, 0, .kill⟩ }
    ⟨rfl, fun _ _ => trivial, .singleton _⟩ rfl
  unfold FactoryChatStore.perform
  revert hpost
  generalize S.recordMessage c.message c.promptText c.planningArtifacts c.suffix
    { state := chat, fault := c.crash.map fun i => ⟨i, 0, .kill⟩ } = o
  obtain ⟨outcome, machine⟩ := o
  intro hpost
  cases outcome with
  | ok m => exact Or.inl ⟨m, rfl, hpost.2⟩
  | error r =>
    refine Or.inr ⟨r, rfl, ?_, hpost.2⟩
    intro hnone
    have hstruck := hpost.1
    have himpossible : ¬(crashRules c.crash).Possible r := by
      rintro ⟨i, kind, hallowed, -⟩
      rw [allowed_crashRules, hnone] at hallowed
      simp at hallowed
    cases r with
    | raised e => exact ⟨e, rfl⟩
    | exception => exact absurd hstruck.1 himpossible
    | baseException => exact absurd hstruck.1 himpossible
    | killed => exact absurd hstruck.1 himpossible

/-- A call that is refused changes nothing. -/
lemma triple_recordMessage_refused {e : ChatError}
    (hadmission : S.admission chat c.message c.planningArtifacts = .error e) :
    Triple (crashRules c.crash) (fun s => s = chat)
      (S.recordMessage c.message c.promptText c.planningArtifacts c.suffix)
      (fun _ _ => False) (fun _ s => s = chat) := by
  unfold FactoryChatStore.recordMessage
  apply Triple.read_bind
  intro s hs
  rw [hs, hadmission]
  exact Triple.bind (.raise fun _ hs => hs) fun _ => .of_fact (fun _ hfalse => hfalse) False.elim

/-- A call that the chat survives leaves it settled. -/
lemma Settled.perform (h : Settled S chatId chat) (hsurvives : Survives S chat c) :
    Settled S chatId (S.perform chat c).2 := by
  cases hadmission : S.admission chat c.message c.planningArtifacts with
  | error e =>
    obtain ⟨_, -, hfalse⟩ | ⟨_, -, -, hs⟩ :=
      lands_perform (triple_recordMessage_refused (S := S) hadmission)
    · exact hfalse.elim
    · rwa [hs]
  | ok admitted =>
    obtain ⟨identity, sources⟩ := admitted
    obtain ⟨e, he⟩ | ⟨hcrash, hlength⟩ := hsurvives
    · rw [hadmission] at he
      simp at he
    · have hindex := (h.admission_eq_ok hadmission).2.2.1
      obtain ⟨_, -, hrenamed, hmanifest⟩ | ⟨_, -, -, ⟨hs, -⟩ | ⟨-, hrenamed, hmanifest⟩⟩ :=
        lands_perform (triple_recordMessage h hadmission hcrash)
      · exact h.of_renamed hindex hlength hrenamed hmanifest
      · rwa [hs]
      · refine h.of_renamed hindex hlength hrenamed ?_
        rw [hmanifest]
        exact h.manifest

/-- With valid artifacts and the next index, a call is admitted. -/
lemma Settled.admits (h : Settled S chatId chat) (hchat : c.message.chatId = chatId)
    (hindex : c.message.messageIndex = chat.renamed.length)
    (hfiles : ∀ a ∈ c.given, a.2.isFile = true) :
    ∃ identity, S.admission chat c.message c.planningArtifacts = .ok (identity, c.given) := by
  obtain ⟨identity, hidentity, hid⟩ := h.manifest
  have hfree : ¬chat.messages.contains (FactoryChatStore.formatMessageDir c.message) = true := by
    rw [FactoryChatStore.formatMessageDir, hindex, Dict.contains_iff_mem_keys]
    exact h.numbered.not_mem_keys _
  have hgiven : (c.given.forM fun a => raiseIf (a.2.isFile = false)
      ("factory planning artifact " ++ quoted a.1.name ++ " is missing at " ++ a.2.path)) =
        .ok () := by
    rw [forM_eq_ok_iff]
    intro a ha
    rw [raiseIf_eq_ok_iff, hfiles a ha]
    decide
  refine ⟨identity, ?_⟩
  have hvalid : FactoryChatStore.validatePlanningArtifacts c.planningArtifacts = .ok c.given := by
    unfold FactoryChatStore.validatePlanningArtifacts
    unfold Call.given at hgiven ⊢
    simp only [hgiven, ok_bind, pure_eq_ok]
  have hload : S.loadChat chat = .ok identity := by
    simp [FactoryChatStore.loadChat, hidentity]
  unfold FactoryChatStore.admission
  rw [hload, ok_bind, raiseIf_neg (not_not_intro (hchat.trans hid.symm)), ok_bind,
    h.nextMessageIndex_eq, ok_bind, raiseIf_neg (not_not_intro hindex), ok_bind, hvalid, ok_bind,
    raiseIf_neg hfree, ok_bind, pure_eq_ok]

theorem Settled.keepsHistory (h : Settled S chatId chat) : KeepsHistory S chatId chat where
  messages := h.numbered.readAll_eq (by decide)
  indexes := h.numbered.indexes
  latest := h.latestMessage_eq
  next := h.nextMessageIndex_eq
  continues := by
    intro c hcrash hchat hindex hvalid
    obtain ⟨identity, hadmission⟩ := h.admits hchat hindex fun a ha => (hvalid a ha).1
    have hreadable : c.Readable := fun a ha => (hvalid a ha).2
    obtain ⟨m, hm, -⟩ | ⟨r, -, hraised, hstop⟩ := lands_perform
      (triple_recordMessage h hadmission fun i hi => by rw [hcrash] at hi; simp at hi)
    · exact ⟨m, hm⟩
    · -- without a crash only a failing copy stops the call
      obtain ⟨e, rfl⟩ := hraised hcrash
      obtain ⟨-, hunreadable⟩ | ⟨hnot, -⟩ := hstop
      · exact absurd hreadable (hunreadable ⟨e, rfl⟩)
      · exact absurd rfl (hnot e)

/-! ## Runs -/

lemma Settled.run {calls : List Call} (h : Settled S chatId chat)
    (hsurvive : AllSurvive S chat calls) : Settled S chatId (S.run chat calls) := by
  induction calls generalizing chat with
  | nil => exact h
  | cons c calls ih => exact ih (h.perform hsurvive.1) hsurvive.2

lemma AllSurvive.take {calls : List Call} (h : AllSurvive S chat calls) (k : ℕ) :
    AllSurvive S chat (calls.take k) := by
  induction calls generalizing chat k with
  | nil => simpa using h
  | cons c calls ih =>
    cases k with
    | zero => trivial
    | succ k => exact ⟨h.1, ih h.2 k⟩

/-- In a run whose calls the chat survives, every state reached keeps the whole history. -/
theorem keeps_history_of_survived {calls : List Call}
    (hsurvive : AllSurvive S (createChat chatId) calls) (k : ℕ) :
    KeepsHistory S chatId (S.run (createChat chatId) (calls.take k)) :=
  ((settled_createChat chatId).run (hsurvive.take k)).keepsHistory

/-- A call that records the message `index` with its goal specification. -/
def goalCall (index : ℤ) (id : PathComponent) (crash : Option ChatStep) : Call where
  message :=
    { messageId := id
      messageIndex := index
      parentMessageId := none
      chatId := "chat.a"
      prompt := "goal"
      createdAt := 0 }
  promptText := "goal"
  planningArtifacts := .set .empty .goalSpecPath
    { path := "/build/goal_spec.json", name := "goal_spec.json", isFile := true,
      content := some (.other "goal") }
  suffix := "00"
  crash := crash

def goalStore : FactoryChatStore := ⟨"/project"⟩

theorem fmsgA_component : ∀ c ∈ "fmsg.a".toList, c ≠ '/' ∧ c ≠ '\x00' :=
  forall_mem_of_all (by decide +kernel)

def fmsgA : PathComponent := ⟨"fmsg.a", fmsgA_component⟩

theorem fmsgB_component : ∀ c ∈ "fmsg.b".toList, c ≠ '/' ∧ c ≠ '\x00' :=
  forall_mem_of_all (by decide +kernel)

def fmsgB : PathComponent := ⟨"fmsg.b", fmsgB_component⟩

/-- A process dies after the rename of the second message; the chat goes on. -/
theorem keeps_history_of_survived_goal :
    KeepsHistory goalStore "chat.a" (goalStore.run (createChat "chat.a")
      ([goalCall 0 fmsgA none,
        goalCall 1 fmsgB (some .writeManifest)].take 2)) := by
  apply keeps_history_of_survived
  refine ⟨Or.inr ⟨fun i hi => ?_, fun _ _ => by decide +kernel⟩,
    Or.inr ⟨fun i hi => ?_, fun _ _ => by decide +kernel⟩, trivial⟩
  · simp [goalCall] at hi
  · obtain rfl : .writeManifest = i := by simpa [goalCall] using hi
    exact fun hexposed => hexposed

/-- A process that dies before it writes the metadata of a message leaves a chat that cannot be
read any more. -/
theorem not_keepsHistory_of_killed :
    ¬KeepsHistory goalStore "chat.a" (goalStore.run (createChat "chat.a")
      [goalCall 0 fmsgA none,
        goalCall 1 fmsgB (some .writeMetadata)]) := by
  intro h
  have hfails : (goalStore.messages (goalStore.run (createChat "chat.a")
      [goalCall 0 fmsgA none,
        goalCall 1 fmsgB (some .writeMetadata)])).toBool = false := by
    decide +kernel
  rw [h.messages] at hfails
  simp [Except.toBool] at hfails

end Agintor.Storage.FactoryChat
