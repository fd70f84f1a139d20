import Agintor.Storage.FactoryChatTheorems

/-!
# Recording beside leftovers

A call that dies before its rename leaves a directory behind whose name starts with a dot. Such
names come first in the listing, so that the last message and the next index are read as if they
were not there, and the next call can record its message beside them.
-/

namespace Agintor.Storage.FactoryChat

open Agintor.Core Lib

/-- The name of a message, not that of a temporary directory. -/
def isMessageName (name : String) : Bool := name.toList.head? ≠ some '.'

/-- The directories that have been renamed. -/
def ChatFiles.published (chat : ChatFiles) : Dict String MessageDir :=
  chat.messages.filterKeys isMessageName

/-- The steps up to the rename of a call that can read its artifacts. -/
def Call.Precedes (chat : ChatFiles) (c : Call) : ChatStep → Prop
  | .makeDirectory => True
  | .writePrompt => c.promptText ≠ ""
  | .copyArtifact field => ∃ a ∈ c.given, a.1 = field
  | .writeMetadata => True
  | .rename => True
  | .removeFile name => ∃ dir, chat.messages.get? c.tempName = some dir ∧ name ∈ dir.keys
  | .removeDirectory => (chat.messages.get? c.tempName).isSome
  | .writeManifest => False

/-- The call can copy its artifacts and does not die before it has made its rename. -/
structure Call.Publishes (chat : ChatFiles) (c : Call) : Prop where
  readable : c.Readable
  survives : ∀ i, c.crash = some i → ¬c.Precedes chat i

/-- The chat as readers see it has not changed. -/
structure Kept (chat s : ChatFiles) : Prop where
  manifest : s.manifest = chat.manifest
  renamed : s.renamed = chat.renamed
  published : s.published = chat.published

/-- The call has added its message. -/
structure Added (S : FactoryChatStore) (chat : ChatFiles) (c : Call) (s : ChatFiles) : Prop where
  renamed : s.renamed = chat.renamed ++ [c.recorded S]
  published : ∃ dir : MessageDir, dir.get? "metadata.json" = some (.message (c.recorded S)) ∧
    s.published = chat.published.set (FactoryChatStore.formatMessageDir c.message) dir

variable {S : FactoryChatStore} {chat s : ChatFiles} {c : Call}

lemma Kept.refl (chat : ChatFiles) : Kept chat chat := ⟨rfl, rfl, rfl⟩

/-! ## Names -/

lemma isMessageName_tempName (c : Call) : isMessageName c.tempName = false := by
  have hchars : c.tempName.toList = '.' :: (FactoryChatStore.formatMessageDir c.message ++ ".tmp." ++
      c.suffix).toList := by
    unfold Call.tempName
    rw [String.append_assoc, String.append_assoc, String.toList_append]
    simp
  simp [isMessageName, hchars]

/-- A numbered name starts with a digit. -/
lemma exists_head_numberedName (w n : ℕ) (identity : String) :
    ∃ d rest, (numberedName (w + 1) n identity).toList = d :: rest ∧ d.isDigit := by
  have hchars := toList_numberedName (w + 1) n identity
  cases hpad : zeroPadChars (w + 1) n with
  | nil =>
    have hlength := congrArg List.length hpad
    unfold zeroPadChars at hlength
    rw [List.length_append, List.length_replicate, List.length_nil] at hlength
    omega
  | cons d ds =>
    rw [hpad] at hchars
    exact ⟨d, _, hchars, isDigit_of_mem_zeroPadChars (w := w + 1) (n := n) (by simp [hpad])⟩

lemma isMessageName_numberedName (n : ℕ) (identity : String) :
    isMessageName (numberedName 4 n identity) = true := by
  obtain ⟨d, rest, hchars, hdigit⟩ := exists_head_numberedName 3 n identity
  have hd : d ≠ '.' := fun heq => absurd (heq ▸ hdigit) (by decide)
  simp [isMessageName, hchars, hd]

variable {name : String}

/-- A name that starts with a dot comes before a numbered one. -/
lemma le_numberedName (h : isMessageName name = false) (n : ℕ) (identity : String) :
    name ≤ numberedName 4 n identity := by
  obtain ⟨d, rest, hchars, hdigit⟩ := exists_head_numberedName 3 n identity
  have hhead : name.toList.head? = some '.' := by simpa [isMessageName] using h
  have hd : '.' < d := by
    have hzero : '0' ≤ d := by
      simp only [Char.isDigit, Bool.and_eq_true, decide_eq_true_eq] at hdigit
      exact hdigit.1
    exact lt_of_lt_of_le (by decide) hzero
  apply le_of_lt
  rw [String.lt_iff, hchars]
  cases hname : name.toList with
  | nil => simp [hname] at hhead
  | cons c cs =>
    obtain rfl : c = '.' := by simpa [hname] using hhead
    exact List.Lex.rel hd

/-! ## Steps under a temporary name -/

section

variable (h : Kept chat s) (hname : isMessageName name = false)
include h hname

lemma Kept.set (dir : MessageDir) :
    Kept chat { s with messages := s.messages.set name dir } where
  manifest := h.manifest
  renamed := h.renamed
  published := (Dict.filterKeys_set_of_neg hname).trans h.published

lemma Kept.erase :
    Kept chat { s with messages := s.messages.erase name } where
  manifest := h.manifest
  renamed := h.renamed
  published := (Dict.filterKeys_erase_of_neg hname).trans h.published

lemma Kept.onDir
    (f : MessageDir → MessageDir) : Kept chat (s.onDir name f) := by
  unfold ChatFiles.onDir
  cases s.messages.get? name with
  | none => exact h
  | some dir => exact h.set hname (f dir)

end

lemma onDir_of_get? {dir : MessageDir} (h : s.messages.get? name = some dir)
    (f : MessageDir → MessageDir) :
    s.onDir name f = { s with messages := s.messages.set name (f dir) } := by
  simp [ChatFiles.onDir, h]

/-- The rename of a directory that holds the message. -/
lemma Kept.rename {n : ℕ} (h : Kept chat s) (hindex : c.message.messageIndex = n)
    {dir : MessageDir} (hget : s.messages.get? c.tempName = some dir)
    (hmetadata : dir.get? "metadata.json" = some (.message (c.recorded S))) :
    Added S chat c (s.rename c.tempName (FactoryChatStore.formatMessageDir c.message)
      (c.recorded S)) := by
  have hname : isMessageName (FactoryChatStore.formatMessageDir c.message) = true := by
    unfold FactoryChatStore.formatMessageDir
    rw [hindex]
    exact isMessageName_numberedName n _
  unfold ChatFiles.rename
  rw [hget]
  refine ⟨congrArg (· ++ [c.recorded S]) h.renamed, dir, hmetadata, ?_⟩
  show ((s.messages.erase c.tempName).set _ dir).filterKeys isMessageName = _
  rw [Dict.filterKeys_set_of_pos hname, Dict.filterKeys_erase_of_neg (isMessageName_tempName c)]
  exact congrArg (·.set (FactoryChatStore.formatMessageDir c.message) dir) h.published

/-! ## Recording -/

section Triples

variable {E : Stop ChatError → ChatFiles → Prop}

/-- The process does not die while it removes the directory `dir`. -/
structure Call.OutlivesRemoval (c : Call) (dir : MessageDir) : Prop where
  files : ∀ file ∈ dir.keys, c.crash ≠ some (.removeFile file)
  directory : c.crash ≠ some .removeDirectory

/-- Removing what there is under the temporary name. -/
lemma triple_rmtree_kept {start : ChatFiles} (hstart : Kept chat start)
    (hE : ∀ dir, start.messages.get? c.tempName = some dir → ¬c.OutlivesRemoval dir →
      ∀ s, Kept chat s → E .killed s) :
    Triple (crashRules c.crash) (fun s => s = start) (FactoryChatStore.rmtree c.tempName)
      (fun _ s => Kept chat s ∧ ∀ dir, start.messages.get? c.tempName = some dir →
        c.OutlivesRemoval dir) E := by
  unfold FactoryChatStore.rmtree
  apply Triple.read_bind
  intro s hs
  rw [hs]
  cases hget : start.messages.get? c.tempName with
  | none =>
    apply Triple.pure
    intro s hs
    rw [hs]
    exact ⟨hstart, fun dir hdir => by simp at hdir⟩
  | some dir =>
    apply Triple.bind (M := fun _ s => (∀ file ∈ dir.keys, c.crash ≠ some (.removeFile file)) ∧
      Kept chat s)
    · apply (Triple.forM (I := fun before s =>
        (∀ file ∈ before, c.crash ≠ some (.removeFile file)) ∧ Kept chat s) ?_).pre
      · intro s hs
        rw [hs]
        exact ⟨by simp, hstart⟩
      · intro before file after hkeys
        apply triple_chatStep
        · intro hpass s hs
          refine ⟨?_, hs.2.onDir (isMessageName_tempName c) _⟩
          intro file' hfile'
          rcases List.mem_append.mp hfile' with hbefore | hlast
          · exact hs.1 file' hbefore
          · rwa [List.mem_singleton.mp hlast]
        · intro hstop s hs
          refine hE dir hget (fun h => h.files file ?_ hstop) s hs.2
          rw [hkeys]
          simp
    · intro _
      apply triple_chatStep
      · intro hpass s hs
        refine ⟨hs.2.erase (isMessageName_tempName c), fun dir' hdir' => ?_⟩
        rw [← Option.some.inj hdir']
        exact ⟨hs.1, hpass⟩
      · exact fun hstop s hs => hE dir hget (fun h => h.directory hstop) s hs.2

/-- The calls that do not get to the end of the `try` block. -/
lemma not_publishes_of_precedes {i : ChatStep} (hstop : c.crash = some i)
    (hprecedes : c.Precedes chat i) : ¬c.Publishes chat :=
  fun h => h.survives i hstop hprecedes

/-- Copying stops at the first artifact that cannot be read. -/
lemma triple_copyPlanningArtifacts_kept :
    Triple (crashRules c.crash)
      (fun s => Kept chat s ∧ (s.messages.get? c.tempName).isSome)
      (FactoryChatStore.copyPlanningArtifacts c.tempName c.given)
      (fun _ s => (c.Readable ∧ ∀ a ∈ c.given, c.crash ≠ some (.copyArtifact a.1)) ∧
        Kept chat s ∧ (s.messages.get? c.tempName).isSome)
      (fun r s => r ≠ .exception ∧ Kept chat s ∧ ¬c.Publishes chat) := by
  unfold FactoryChatStore.copyPlanningArtifacts
  refine (Triple.forM (R := crashRules c.crash) (l := c.given)
    (E := fun r s => r ≠ .exception ∧ Kept chat s ∧ ¬c.Publishes chat)
    (I := fun before s => ((∀ a ∈ before, a.2.content.isSome) ∧
      ∀ a ∈ before, c.crash ≠ some (.copyArtifact a.1)) ∧ Kept chat s ∧
      (s.messages.get? c.tempName).isSome) ?_).conseq ?_ ?_ ?_
  · intro before a after hgiven
    cases hcontent : a.2.content with
    | some content =>
      apply triple_chatStep
      · intro hpass s hs
        obtain ⟨⟨hbefore, hpassed⟩, hkept, hthere⟩ := hs
        refine ⟨⟨?_, ?_⟩, hkept.onDir (isMessageName_tempName c) _, ?_⟩
        · intro b hb
          rcases List.mem_append.mp hb with hb | hb
          · exact hbefore b hb
          · rw [List.mem_singleton.mp hb, hcontent]
            rfl
        · intro b hb
          rcases List.mem_append.mp hb with hb | hb
          · exact hpassed b hb
          · rwa [List.mem_singleton.mp hb]
        · obtain ⟨dir, hget⟩ := Option.isSome_iff_exists.mp hthere
          rw [onDir_of_get? hget]
          simp
      · intro hstop s hs
        refine ⟨by simp, hs.2.1, not_publishes_of_precedes hstop ⟨a, ?_, rfl⟩⟩
        rw [hgiven]
        simp
    | none =>
      apply Triple.raise
      intro s hs
      refine ⟨by simp, hs.2.1, fun hpublishes => ?_⟩
      have ha := hpublishes.readable a (by rw [hgiven]; simp)
      rw [hcontent] at ha
      simp at ha
  · exact fun s hs => ⟨⟨by simp, by simp⟩, hs⟩
  · exact fun _ s hs => hs
  · exact fun _ s hs => hs

/-- The `try` block: the message is added, or readers see nothing of it. -/
lemma triple_publish_kept {n : ℕ} (hindex : c.message.messageIndex = n)
    (hremoval : ∀ dir, chat.messages.get? c.tempName = some dir → c.OutlivesRemoval dir) :
    Triple (crashRules c.crash) (fun s => Kept chat s)
      (FactoryChatStore.publish c.tempName c.message (c.recorded S) c.promptText c.given)
      (fun _ s => c.Publishes chat ∧ Added S chat c s ∧ s.manifest = chat.manifest)
      (fun r s => r ≠ .exception ∧ Kept chat s ∧ ¬c.Publishes chat) := by
  unfold FactoryChatStore.publish
  have hthere : ∀ (s : ChatFiles) (f : MessageDir → MessageDir),
      (s.messages.get? c.tempName).isSome → ((s.onDir c.tempName f).messages.get? c.tempName).isSome := by
    intro s f hsome
    obtain ⟨dir, hget⟩ := Option.isSome_iff_exists.mp hsome
    rw [onDir_of_get? hget]
    simp
  have htemp := isMessageName_tempName c
  apply Triple.bind (M := fun _ s => c.crash ≠ some .makeDirectory ∧ Kept chat s ∧
    (s.messages.get? c.tempName).isSome)
  · apply triple_chatStep
    · exact fun hpass s hs => ⟨hpass, hs.set htemp _, by simp⟩
    · exact fun hstop s hs => ⟨by simp, hs, not_publishes_of_precedes hstop trivial⟩
  intro _
  apply Triple.of_fact fun s hs => hs.1
  intro hmade
  apply Triple.bind (M := fun _ s => (c.promptText ≠ "" → c.crash ≠ some .writePrompt) ∧
    Kept chat s ∧ (s.messages.get? c.tempName).isSome)
  · unfold FactoryChatStore.writePrompt
    split
    · next hprompt =>
      apply triple_chatStep
      · exact fun hpass s hs => ⟨fun _ => hpass, hs.2.1.onDir htemp _, hthere s _ hs.2.2⟩
      · exact fun hstop s hs => ⟨by simp, hs.2.1, not_publishes_of_precedes hstop hprompt⟩
    · next hprompt => exact Triple.pure fun s hs => ⟨fun h => absurd h hprompt, hs.2⟩
  intro _
  apply Triple.of_fact fun s hs => hs.1
  intro hprompted
  apply Triple.bind (triple_copyPlanningArtifacts_kept.pre fun s hs => hs.2)
  intro _
  apply Triple.of_fact fun s hs => hs.1
  intro hcopied
  apply Triple.bind (M := fun _ s => c.crash ≠ some .writeMetadata ∧ Kept chat s ∧
    ∃ dir, s.messages.get? c.tempName = some dir ∧
      dir.get? "metadata.json" = some (.message (c.recorded S)))
  · apply triple_chatStep
    · intro hpass s hs
      obtain ⟨dir, hget⟩ := Option.isSome_iff_exists.mp hs.2.2
      refine ⟨hpass, hs.2.1.onDir htemp _, dir.set "metadata.json" (.message (c.recorded S)), ?_,
        by simp⟩
      rw [onDir_of_get? hget]
      simp
    · exact fun hstop s hs => ⟨by simp, hs.2.1, not_publishes_of_precedes hstop trivial⟩
  intro _
  apply triple_chatStep
  · intro hpass s hs
    obtain ⟨hwritten, hkept, dir, hget, hmetadata⟩ := hs
    refine ⟨⟨hcopied.1, ?_⟩, hkept.rename hindex hget hmetadata, ?_⟩
    · -- every step up to here has been made
      intro i hstop hprecedes
      cases i with
      | makeDirectory => exact hmade hstop
      | writePrompt => exact hprompted hprecedes hstop
      | copyArtifact field =>
        obtain ⟨a, ha, rfl⟩ := hprecedes
        exact hcopied.2 a ha hstop
      | writeMetadata => exact hwritten hstop
      | rename => exact hpass hstop
      | removeFile name =>
        obtain ⟨dir, hdir, hname⟩ := hprecedes
        exact (hremoval dir hdir).files name hname hstop
      | removeDirectory =>
        obtain ⟨dir, hdir⟩ := Option.isSome_iff_exists.mp hprecedes
        exact (hremoval dir hdir).directory hstop
      | writeManifest => exact hprecedes
    · unfold ChatFiles.rename
      rw [hget]
      exact hkept.manifest
  · exact fun hstop s hs => ⟨by simp, hs.2.1, not_publishes_of_precedes hstop trivial⟩

/-- The manifest after a message has been recorded. -/
def counted (identity : FactoryChatIdentity) (recorded : FactoryMessage) : FactoryChatIdentity :=
  { identity with
    messageCount := max identity.messageCount (recorded.messageIndex + 1)
    lastMessageId := some recorded.messageId.text }

/-- A call that is admitted adds its message exactly when it gets to its rename. -/
lemma triple_recordMessage_kept {n : ℕ} (hindex : c.message.messageIndex = n)
    {identity : FactoryChatIdentity}
    (hadmission : S.admission chat c.message c.planningArtifacts = .ok (identity, c.given)) :
    Triple (crashRules c.crash) (fun s => s = chat)
      (S.recordMessage c.message c.promptText c.planningArtifacts c.suffix)
      (fun m s => m = c.recorded S ∧ c.Publishes chat ∧ Added S chat c s ∧
        s.manifest = some (counted identity (c.recorded S)))
      (fun r s => Kept chat s ∧ ¬c.Publishes chat ∨
        (∀ e, r ≠ .raised e) ∧ c.Publishes chat ∧ Added S chat c s ∧
          s.manifest = chat.manifest) := by
  unfold FactoryChatStore.recordMessage
  apply Triple.read_bind
  intro start hstart
  rw [hstart]
  apply Triple.check_ok_bind hadmission
  apply Triple.bind
  · apply triple_rmtree_kept (Kept.refl chat)
    intro dir hget hnot s hkept
    refine Or.inl ⟨hkept, fun h => hnot ⟨?_, ?_⟩⟩
    · exact fun file hfile hstop => h.survives _ hstop ⟨dir, hget, hfile⟩
    · exact fun hstop => h.survives _ hstop (by rw [Call.Precedes, hget]; rfl)
  intro _
  apply Triple.of_fact fun s hs => hs.2
  intro hremoval
  apply Triple.bind (M := fun _ s => c.Publishes chat ∧ Added S chat c s ∧
    s.manifest = chat.manifest)
  · apply Triple.tryExcept ((triple_publish_kept hindex hremoval).pre fun s hs => hs.1)
    · -- the call raised, and removes what it made
      intro e m hm hs
      obtain ⟨-, hkept, hnot⟩ := hs
      refine ((triple_rmtree_kept hkept ?_).post ?_) m hm rfl
      · exact fun _ _ _ s hs => Or.inl ⟨hs, hnot⟩
      · exact fun _ s hs => Or.inl ⟨hs.1, hnot⟩
    · exact fun m _ hs => absurd rfl hs.1
    · exact fun s hs => Or.inl hs.2
    · exact fun s hs => Or.inl hs.2
  intro _
  apply Triple.bind (M := fun _ s => c.Publishes chat ∧ Added S chat c s ∧
    s.manifest = some (counted identity (c.recorded S)))
  · apply triple_chatStep
    · exact fun _ s hs => ⟨hs.1, ⟨hs.2.1.renamed, hs.2.1.published⟩, rfl⟩
    · exact fun _ s hs => Or.inr ⟨by simp, hs⟩
  intro _
  exact Triple.pure fun s hs => ⟨rfl, hs⟩

end Triples

/-! ## The log beside the leftovers -/

/-- The directories that have been renamed are those of the messages recorded, and the first message
is not there only as a leftover. -/
structure Logged (S : FactoryChatStore) (chat : ChatFiles) : Prop where
  numbered : Numbered 4 (·.messageIndex) (·.messageId.text) S.readMessageMetadata chat.published
    chat.renamed
  leftovers : chat.renamed = [] → chat.messages = .empty

namespace Logged

section

variable (h : Logged S chat)
include h

lemma latestMessage_eq :
    S.latestMessage chat = .ok chat.renamed.getLast? := by
  unfold FactoryChatStore.latestMessage
  by_cases hnil : chat.renamed = []
  · rw [h.leftovers hnil, hnil]
    rfl
  · have hentries : (chat.messages.filterKeys isMessageName).entries ≠ [] := by
      intro hempty
      have hlength := h.numbered.length_entries
      unfold ChatFiles.published at hlength
      rw [hempty] at hlength
      exact hnil (List.length_eq_zero_iff.mp hlength.symm)
    rw [readLast_filterKeys ?_ hentries]
    · exact h.numbered.readLast_eq (by decide)
    · intro name _ hname name' hmem hname'
      have hpublished : name' ∈ chat.published.keys :=
        Dict.mem_keys_filterKeys.mpr ⟨hname', hmem⟩
      obtain ⟨e, he, rfl⟩ := List.mem_map.mp hpublished
      obtain ⟨m, hm, hentry, -⟩ := exists_mem_right_of_forall₂ h.numbered.entries he
      obtain ⟨i, hi, hget⟩ := List.getElem_of_mem hm
      rw [hentry, h.numbered.index_eq (List.getElem?_eq_some_iff.mpr ⟨hi, hget⟩)]
      exact le_numberedName hname i _

lemma nextMessageIndex_eq :
    S.nextMessageIndex chat = .ok chat.renamed.length := by
  unfold FactoryChatStore.nextMessageIndex
  rw [h.latestMessage_eq, ok_bind, h.numbered.nextIndex_eq, pure_eq_ok]

/-- With valid artifacts and the next index, a call on the chat is admitted. -/
lemma admits {identity : FactoryChatIdentity}
    (hmanifest : chat.manifest = some identity) (hchat : c.message.chatId = identity.chatId)
    (hindex : c.message.messageIndex = chat.renamed.length)
    (hfiles : ∀ a ∈ c.given, a.2.isFile = true) :
    S.admission chat c.message c.planningArtifacts = .ok (identity, c.given) := by
  have hfree : ¬chat.messages.contains (FactoryChatStore.formatMessageDir c.message) = true := by
    rw [FactoryChatStore.formatMessageDir, hindex, Dict.contains_iff_mem_keys]
    intro hmem
    exact h.numbered.not_mem_keys _
      (Dict.mem_keys_filterKeys.mpr ⟨isMessageName_numberedName _ _, hmem⟩)
  have hvalid : FactoryChatStore.validatePlanningArtifacts c.planningArtifacts = .ok c.given := by
    unfold FactoryChatStore.validatePlanningArtifacts
    have hgiven : (c.given.forM fun a => raiseIf (a.2.isFile = false)
        ("factory planning artifact " ++ quoted a.1.name ++ " is missing at " ++ a.2.path)) =
          .ok () := by
      rw [forM_eq_ok_iff]
      intro a ha
      rw [raiseIf_eq_ok_iff, hfiles a ha]
      decide
    unfold Call.given at hgiven ⊢
    simp only [hgiven, ok_bind, pure_eq_ok]
  have hload : S.loadChat chat = .ok identity := by
    simp [FactoryChatStore.loadChat, hmanifest]
  unfold FactoryChatStore.admission
  rw [hload, ok_bind, raiseIf_neg (not_not_intro hchat), ok_bind, h.nextMessageIndex_eq, ok_bind,
    raiseIf_neg (not_not_intro hindex), ok_bind, hvalid, ok_bind, raiseIf_neg hfree, ok_bind,
    pure_eq_ok]

lemma of_kept (hne : chat.renamed ≠ []) (hs : Kept chat s) : Logged S s where
  numbered := by
    rw [hs.published, hs.renamed]
    exact h.numbered
  leftovers := by
    intro hnil
    rw [hs.renamed] at hnil
    exact absurd hnil hne

lemma of_added (hindex : c.message.messageIndex = chat.renamed.length)
    (hlength : chat.renamed.length < 10000) (hs : Added S chat c s) : Logged S s where
  numbered := by
    obtain ⟨dir, hmetadata, hpublished⟩ := hs.published
    obtain ⟨hsame, hid⟩ := recorded_messageIndex (S := S) (c := c)
    rw [hs.renamed, hpublished, FactoryChatStore.formatMessageDir, ← hsame, ← hid]
    apply h.numbered.append hlength
    · rw [hsame, hindex]
    · simp [FactoryChatStore.readMessageMetadata, hmetadata]
  leftovers := by
    intro hnil
    rw [hs.renamed] at hnil
    simp at hnil

end

end Logged

/-- What a call does that is admitted: it adds its message exactly when it gets to its rename, and
returns it if it does not die. -/
lemma perform_of_admission {n : ℕ} (hindex : c.message.messageIndex = n)
    {identity : FactoryChatIdentity}
    (hadmission : S.admission chat c.message c.planningArtifacts = .ok (identity, c.given)) :
    (¬c.Publishes chat ∧ Kept chat (S.perform chat c).2) ∨
      c.Publishes chat ∧ Added S chat c (S.perform chat c).2 ∧
        ((S.perform chat c).2.manifest = chat.manifest ∨
          (S.perform chat c).2.manifest = some (counted identity (c.recorded S))) ∧
        (c.crash = none → (S.perform chat c).1 = .ok (c.recorded S)) := by
  rcases lands_perform (triple_recordMessage_kept hindex hadmission) with
    ⟨m, hm, rfl, hpublishes, hadded, hmanifest⟩ | ⟨r, hr, hraised, ⟨hkept, hnot⟩ | ⟨hne, hrest⟩⟩
  · exact Or.inr ⟨hpublishes, hadded, Or.inr hmanifest, fun _ => hm⟩
  · exact Or.inl ⟨hnot, hkept⟩
  · refine Or.inr ⟨hrest.1, hrest.2.1, Or.inl hrest.2.2, fun hnone => ?_⟩
    obtain ⟨e, rfl⟩ := hraised hnone
    exact absurd rfl (hne e)

end Agintor.Storage.FactoryChat
