import Agintor.Storage.FactoryRecovery

/-!
# What publication does

`_publish` recovers, prepares a transaction that continues the chat it finds, and commits it.
The lock rule joins this to what happens outside the lock: an idle disk stays idle unless the
process dies.
-/

namespace Agintor.Storage

open Agintor.Core Lib

namespace HarnessFactoryTransactionStore

variable {S : HarnessFactoryTransactionStore} {R : FactoryRules}
  {ps : List HarnessFactoryPrepare} {q : Option HarnessFactoryPrepare}
  {p : HarnessFactoryPrepare} {F : FactoryDisk → Prop} {raises : Prop} {d₀ : FactoryDisk}

/-! ## The prepared transaction -/

/-- What `_publish` builds on a chat: the next message of it. -/
structure Continues (chat : Option HarnessFactoryChatManifest) (p : HarnessFactoryPrepare) :
    Prop where
  named : Named p
  index : p.message.messageIndex = (chat.map (·.messageCount)).getD 0
  parent : p.message.parentMessageId = chat.bind (·.lastMessageId)
  release : p.message.priorActiveReleaseDigest = chat.map (·.activeReleaseDigest)
  count : p.nextChat.messageCount = p.message.messageIndex + 1

variable {d : FactoryDisk} {args : PublishArgs}

variable {chat : Option HarnessFactoryChatManifest} {pointer : Option ActiveReleasePointer}
    {P : FactoryDisk → Prop}

lemma continueChat_ok {chatId : String} {index : ℕ} {parent release : Option String}
    (h : S.continueChat args pointer chat = .ok (chatId, index, parent, release)) :
    index = (chat.map (·.messageCount)).getD 0 ∧ parent = chat.bind (·.lastMessageId) ∧
      release = chat.map (·.activeReleaseDigest) := by
  unfold continueChat at h
  cases chat with
  | none =>
    simp only [bind_eq_ok_iff, pure_eq_ok, Except.ok.injEq, Prod.mk.injEq] at h
    obtain ⟨_, -, _, -, _, -, -, hindex, hparent, hrelease⟩ := h
    exact ⟨hindex.symm, hparent.symm, hrelease.symm⟩
  | some c =>
    simp only [bind_eq_ok_iff, pure_eq_ok, Except.ok.injEq, Prod.mk.injEq] at h
    obtain ⟨_, -, _, -, _, -, _, -, _, -, -, hindex, hparent, hrelease⟩ := h
    exact ⟨hindex.symm, hparent.symm, hrelease.symm⟩

lemma buildPrepare_ok {prompt search : String} {selection : List String} {clock : FactoryClock}
    (h : S.buildPrepare args prompt search selection clock pointer chat = .ok p) :
    Continues chat p := by
  unfold buildPrepare at h
  simp only [bind_eq_ok_iff] at h
  obtain ⟨⟨chatId, index, parent, release⟩, hhead, _, -, h⟩ := h
  obtain ⟨hindex, hparent, hrelease⟩ := continueChat_ok hhead
  split at h
  · exact absurd h (by simp)
  · rename_i message hm
    obtain ⟨hidentity, hid, htxn⟩ := S.buildMessage_ok hm
    simp only [pure_eq_ok, Except.ok.injEq] at h
    rw [← h]
    refine ⟨⟨_, htxn, hid⟩, ?_, ?_, ?_, rfl⟩
    · rw [hidentity]
      exact hindex
    · rw [hidentity]
      exact hparent
    · rw [hidentity]
      exact hrelease

/-- The chat of the last transaction counts all of them. -/
lemma Linked.count_last (h : Linked ps) (hlast : ps.getLast? = some p) :
    p.nextChat.messageCount = ps.length := by
  have hget := hlast
  rw [List.getLast?_eq_getElem?] at hget
  have hcount := (h _ _ hget).count
  have hpos : 0 < ps.length := by
    have hlt := (List.getElem?_eq_some_iff.mp hget).1
    omega
  omega

/-- The message that continues the head continues the committed transactions. -/
lemma Continues.succeeds (hlinked : Linked ps) (hhead : AtHead ps d) (h : Continues d.chat p) :
    Succeeds ps.getLast? ps.length p := by
  obtain ⟨-, hindex, hparent, hrelease, hcount⟩ := h
  rw [hhead.chat] at hindex hparent hrelease
  cases hlast : ps.getLast? with
  | none =>
    rw [hlast] at hindex hparent hrelease
    have hnil : ps = [] := List.getLast?_eq_none_iff.mp hlast
    have hzero : p.message.messageIndex = ps.length := by
      rw [hindex, hnil]
      rfl
    exact ⟨hzero, hparent, hrelease, by rw [hcount, hzero]⟩
  | some p' =>
    rw [hlast] at hindex hparent hrelease
    have hlength : p.message.messageIndex = ps.length := by
      rw [hindex]
      exact hlinked.count_last hlast
    refine ⟨hlength, ?_, ?_, by rw [hcount, hlength]⟩
    · rw [hparent]
      exact p'.chat_message
    · rw [hrelease]
      exact congrArg some p'.chat_release

/-- A transaction with the next number is a new one. -/
lemma Succeeds.fresh (hlinked : Linked ps) (hnamed : ∀ p ∈ ps, Named p) (hp : Named p)
    {prior : Option HarnessFactoryPrepare} (h : Succeeds prior ps.length p) :
    ∀ p' ∈ ps, p'.transactionId ≠ p.transactionId := by
  intro p' hp' hid
  obtain ⟨i, hi, hget⟩ := List.mem_iff_getElem.mp hp'
  have hindex := (hlinked i p' (by rw [List.getElem?_eq_getElem hi, hget])).index_eq
  obtain ⟨seed, htxn, -⟩ := hp
  obtain ⟨seed', htxn', -⟩ := hnamed p' hp'
  rw [htxn, htxn'] at hid
  have heq := (transactionName_inj hid).1
  rw [hindex, h.index_eq] at heq
  omega

/-! ## Committing it -/

/-- The newest transaction is `p`, and the head is still that of the one before. -/
def Latest (ps : List HarnessFactoryPrepare) (p : HarnessFactoryPrepare) (d : FactoryDisk) : Prop :=
  ps.length ≤ 10000 → ∃ ps₀, ps = ps₀ ++ [p] ∧ AtHead ps₀ d

/-- The newest transaction is `p`, and of the head only the pointer names it. -/
structure Advanced (ps : List HarnessFactoryPrepare) (p : HarnessFactoryPrepare)
    (d : FactoryDisk) : Prop where
  pointer : d.pointer = some (activePointer p.materialized)
  chat : ps.length ≤ 10000 → ∃ ps₀, ps = ps₀ ++ [p] ∧ d.chat = ps₀.getLast?.map (·.nextChat)

/-- The transaction `p` is committed and shown. -/
structure Published (S : HarnessFactoryTransactionStore) (p : HarnessFactoryPrepare)
    (d : FactoryDisk) : Prop where
  sound : ∃ ps, Consistent S d ps none ∧ p ∈ ps
  pointer : d.pointer = some (activePointer p.materialized)
  chat : d.chat = some p.nextChat
  message : d.messages.get? (messageDirName p.message) = some (fullDir p)
  marker : p.transactionId ∈ d.committed.keys

/-- A new transaction on a disk recovered from `d₀` makes permitted moves. -/
structure Publishable (S : HarnessFactoryTransactionStore) (R : FactoryRules) (d₀ : FactoryDisk) :
    Prop where
  intent : ∀ {ps p d}, (ps ≠ [] → R.passes .advancePointer) →
    ps.length ≤ (committedIntents d₀).length → Consistent S d ps (some p) →
    (ps.length ≤ 10000 → AtHead ps d) →
    R.moves d { d with intents := d.intents.set p.transactionId (.whole (S.commitIntent p)) }
  pointer : R.passes .advancePointer → ∀ {ps p d}, ps.length ≤ (committedIntents d₀).length + 1 →
    Consistent S d ps none → p ∈ ps → Latest ps p d →
    R.moves d { d with pointer := some (activePointer p.materialized) }
  chat : R.passes .advancePointer → ∀ {ps p d}, ps.length ≤ (committedIntents d₀).length + 1 →
    Consistent S d ps none → p ∈ ps → Advanced ps p d →
    R.moves d { d with chat := some p.nextChat }

/-- An injected failure is an error of the call. -/
lemma triple_fail_bind {α : Type} {rest : FactoryProg α} {Q : α → FactoryDisk → Prop}
    (hP : ∀ d, P d → Sound S d ∧ Locked R d) {failAt : Option String} {boundary : String}
    (hrest : Triple R P rest Q (Inside S R True)) :
    Triple R P (fail failAt boundary >>= fun _ => rest) Q (Inside S R True) := by
  apply Triple.bind (Triple.check ?_ ?_) fun _ => hrest
  · exact fun _ _ _ hd => hd
  · exact fun _ _ d hd => ⟨trivial, hP d hd⟩

/-- From the commit intent to the marker. -/
theorem triple_finish (hR : Quiet R) (hpublish : Publishable S R d₀) (hp : p ∈ ps)
    (hlen : ps.length ≤ (committedIntents d₀).length + 1) (failAt : Option String) (at_ : ℕ) :
    Triple R (Working S R ps none (Latest ps p))
      (do
        fail failAt "after_commit_intent"
        let pointer ← advancePointer p
        fail failAt "after_pointer"
        S.publishMessage p
        fail failAt "after_message"
        writeChat p.nextChat
        fail failAt "after_chat_manifest"
        S.writeCommitted p (S.commitIntent p) pointer at_
        fail failAt "after_committed_marker"
        return p.message : FactoryProg HarnessFactoryMessage)
      (fun message d => (Sound S d ∧ Locked R d) ∧ message = p.message ∧ Published S p d)
      (Inside S R True) := by
  apply triple_fail_bind fun d hd => hd.safe
  apply Triple.bind (M := fun pointer d =>
    (pointer = activePointer p.materialized ∧ R.passes .advancePointer) ∧
      Working S R ps none (Advanced ps p) d)
  · apply triple_advancePointer (fun d hd => hd.safe) hR
    intro hpasses d hd
    refine ⟨hpublish.pointer hpasses hlen hd.consistent hp hd.frame, ⟨rfl, hpasses⟩, ?_⟩
    refine ⟨hd.consistent.with_pointer hp _, ⟨hd.locked.lock, hd.locked.root, hd.locked.clear⟩,
      rfl, ?_⟩
    intro hbound
    obtain ⟨ps₀, hps, hhead⟩ := hd.frame hbound
    exact ⟨ps₀, hps, hhead.chat⟩
  intro pointer
  apply Triple.of_fact fun _ hd => hd.1
  rintro ⟨rfl, hpasses⟩
  apply triple_fail_bind fun d hd => hd.2.safe
  apply Triple.bind
  · refine (triple_publishMessage hR ?_ hp).pre fun _ hd => hd.2
    intro d d' hk hd
    exact ⟨hk.pointer.trans hd.pointer, fun hbound => hk.chat ▸ hd.chat hbound⟩
  intro _
  apply triple_fail_bind fun d hd => hd.1.safe
  apply Triple.bind (M := fun _ => Working S R ps none fun d =>
    (d.pointer = some (activePointer p.materialized) ∧ d.chat = some p.nextChat) ∧
      d.messages.get? (messageDirName p.message) = some (fullDir p))
  · apply Locked.step
    · exact fun d hd => hd.1.safe
    · rintro d ⟨hd, hmessage⟩
      exact ⟨hd.consistent.with_chat hp _, ⟨hd.locked.lock, hd.locked.root, hd.locked.clear⟩,
        ⟨hd.frame.pointer, rfl⟩, hmessage⟩
    · exact fun d hd => hpublish.chat hpasses hlen hd.1.consistent hp hd.1.frame
    · exact fun d _ => ⟨hR _ _ (Keeps.refl d), rfl, rfl⟩
  intro _
  apply triple_fail_bind fun d hd => hd.safe
  apply Triple.bind
  · apply triple_writeCommitted hR ?_ hp (fun d hd => hd) fun _ _ _ => trivial
    intro d d' hk hd
    exact ⟨⟨hk.pointer.trans hd.1.1, hk.chat.trans hd.1.2⟩, hk.messages _ _ hd.2⟩
  intro _
  apply triple_fail_bind fun d hd => hd.1.safe
  apply Triple.pure
  rintro d ⟨hd, hmarker⟩
  obtain ⟨⟨hpointer, hchat⟩, hmessage⟩ := hd.frame
  exact ⟨hd.safe, rfl, ⟨ps, hd.consistent, hp⟩, hpointer, hchat, hmessage, hmarker⟩

/-- A WAL file that differs from the record of `p` can only be in the way if `p` repeats the
name of a committed transaction. -/
theorem triple_writePrepare_fresh (hR : Quiet R) (hF : ∀ d d', Keeps d d' → F d → F d')
    (hnamed : Named p) (hnew : ∀ p' ∈ ps, p'.transactionId ≠ p.transactionId)
    (hlink : ps.length ≤ 10000 → Succeeds ps.getLast? ps.length p) :
    Triple R (Working S R ps none F) (writePrepare p) (fun _ => Working S R ps (some p) F)
      (Inside S R raises) := by
  have hnone : ∀ d, Working S R ps none F d → d.prepares.get? p.transactionId = none := by
    intro d hd
    apply hd.consistent.get_prepare_none
    simpa using hnew
  unfold writePrepare
  apply Locked.writeOnce (fun d hd => hd.safe)
  · intro d f hd hget
    rw [hnone d hd] at hget
    exact absurd hget (by simp)
  · intro d hd _
    exact ⟨⟨hd.consistent.with_prepare hnamed hnew hlink,
      ⟨hd.locked.lock, hd.locked.root, hd.locked.clear⟩,
      hF d _ (keeps_of_eq rfl rfl rfl rfl rfl) hd.frame⟩, hR _ _ (keeps_of_eq rfl rfl rfl rfl rfl)⟩
  · exact fun d _ _ => ⟨hR _ _ (keeps_of_eq rfl rfl rfl rfl rfl), rfl, rfl⟩

/-- A repeated name is only accepted with the record already there. -/
theorem triple_writePrepare_repeated {p' : HarnessFactoryPrepare} (hp' : p' ∈ ps)
    (hid : p'.transactionId = p.transactionId) :
    Triple R (Working S R ps none F) (writePrepare p) (fun _ d => p' = p ∧ Working S R ps none F d)
      (Inside S R True) := by
  have hsome : ∀ d, Working S R ps none F d →
      d.prepares.get? p.transactionId = some (.whole p') := by
    intro d hd
    rw [← hid]
    exact hd.consistent.get_prepare (List.mem_append_left _ hp')
  unfold writePrepare
  apply Locked.writeOnce (fun d hd => hd.safe)
  · intro d f hd hget
    rw [hsome d hd, Option.some.injEq] at hget
    refine ⟨fun hf => ⟨?_, hd⟩, fun _ => trivial⟩
    rw [← hget, File.whole.injEq] at hf
    exact hf
  · intro d hd hget
    rw [hsome d hd] at hget
    exact absurd hget (by simp)
  · intro d hd hget
    rw [hsome d hd] at hget
    exact absurd hget (by simp)

lemma committedIntents_torn (d : FactoryDisk) {t : String} (h : d.intents.get? t = none) :
    Keeps d { d with intents := d.intents.set t .torn } := by
  refine ⟨rfl, rfl, ?_, fun _ _ hdir => hdir, fun _ ht => ht⟩
  unfold committedIntents Dict.values
  rw [Dict.entries_set_of_not_mem (Dict.get?_eq_none_iff.mp h), List.map_append, List.filterMap_append]
  simp [File.whole?]

/-- The commit intent of a fully staged new transaction. -/
theorem triple_writeCommitIntent_fresh (hR : Quiet R) (hpublish : Publishable S R d₀)
    (hpasses : ps ≠ [] → R.passes .advancePointer) (hlen : ps.length ≤ (committedIntents d₀).length)
    (hP : ∀ d, P d →
      Working S R ps (some p) (fun d => ps.length ≤ 10000 → AtHead ps d) d ∧
        d.staging.get? p.transactionId = some (fullDir p)) :
    Triple R P (writeCommitIntent (S.commitIntent p))
      (fun _ => Working S R (ps ++ [p]) none (Latest (ps ++ [p]) p)) (Inside S R raises) := by
  have hnone : ∀ d, P d → d.intents.get? p.transactionId = none := fun d hd =>
    (hP d hd).1.consistent.get_intent_none (hP d hd).1.consistent.pending_fresh
  unfold writeCommitIntent
  apply Locked.writeOnce (fun d hd => (hP d hd).1.safe)
  · intro d f hd hget
    have habsurd := (hnone d hd).symm.trans hget
    exact absurd habsurd (by simp)
  · intro d hd _
    obtain ⟨hw, hstaged⟩ := hP d hd
    refine ⟨⟨hw.consistent.with_intent hstaged, ⟨hw.locked.lock, hw.locked.root, hw.locked.clear⟩,
      ?_⟩, hpublish.intent hpasses hlen hw.consistent hw.frame⟩
    intro hbound
    have hbound' : ps.length ≤ 10000 := by
      rw [List.length_append, List.length_singleton] at hbound
      omega
    exact ⟨ps, rfl, (hw.frame hbound').pointer, (hw.frame hbound').chat⟩
  · intro d hd hget
    exact ⟨hR _ _ (committedIntents_torn d hget), rfl, rfl⟩

/-- The commit intent of a transaction that is committed already. -/
theorem triple_writeCommitIntent_repeated (hp : p ∈ ps) :
    Triple R (Working S R ps none F) (writeCommitIntent (S.commitIntent p))
      (fun _ => Working S R ps none F) (Inside S R raises) := by
  have hsome : ∀ d, Working S R ps none F d →
      d.intents.get? p.transactionId = some (.whole (S.commitIntent p)) := fun d hd =>
    hd.consistent.get_intent hp
  unfold writeCommitIntent
  apply Locked.writeOnce (fun d hd => hd.safe)
  · intro d f hd hget
    have heq := (hsome d hd).symm.trans hget
    rw [Option.some.injEq] at heq
    exact ⟨fun _ => hd, fun hne => absurd heq.symm hne⟩
  · intro d hd hget
    have habsurd := (hsome d hd).symm.trans hget
    exact absurd habsurd (by simp)
  · intro d hd hget
    have habsurd := (hsome d hd).symm.trans hget
    exact absurd habsurd (by simp)

/-- A publication, once the chat has been recovered. -/
theorem triple_commit (hR : Quiet R) (hpublish : Publishable S R d₀)
    (hpasses : ps ≠ [] → R.passes .advancePointer)
    (hlen : ps.length ≤ (committedIntents d₀).length)
    {d₁ : FactoryDisk} (hd₁ : Working S R ps none (fun d => ps.length ≤ 10000 → AtHead ps d) d₁)
    (hp : Continues d₁.chat p) (failAt : Option String) (at_ : ℕ) :
    Triple R (· = d₁)
      (do
        writePrepare p
        stageMessage p
        fail failAt "after_prepare"
        fail failAt "after_message_staged"
        let intent := S.commitIntent p
        writeCommitIntent intent
        fail failAt "after_commit_intent"
        let pointer ← advancePointer p
        fail failAt "after_pointer"
        S.publishMessage p
        fail failAt "after_message"
        writeChat p.nextChat
        fail failAt "after_chat_manifest"
        S.writeCommitted p intent pointer at_
        fail failAt "after_committed_marker"
        return p.message : FactoryProg HarnessFactoryMessage)
      (fun message d => (Sound S d ∧ Locked R d) ∧ message = p.message ∧ Published S p d)
      (Inside S R True) := by
  have hkeeps : ∀ d d', Keeps d d' → (ps.length ≤ 10000 → AtHead ps d) →
      ps.length ≤ 10000 → AtHead ps d' := fun d d' hk hd hbound => (hd hbound).keeps hk
  -- with at most 10000 messages the new one has the next number
  have hlink : ps.length ≤ 10000 → Succeeds ps.getLast? ps.length p := by
    intro hbound
    have hlinked := hd₁.consistent.linked hbound
    rw [Option.toList_none, List.append_nil] at hlinked
    exact hp.succeeds hlinked (hd₁.frame hbound)
  by_cases hnew : ∀ p' ∈ ps, p'.transactionId ≠ p.transactionId
  · apply Triple.bind
    · apply (triple_writePrepare_fresh hR hkeeps hp.named hnew hlink).pre
      rintro _ rfl
      exact hd₁
    intro _
    apply Triple.bind (triple_stageMessage hR hkeeps (by simp))
    intro _
    apply triple_fail_bind fun d hd => hd.1.safe
    apply triple_fail_bind fun d hd => hd.1.safe
    apply Triple.bind (triple_writeCommitIntent_fresh hR hpublish hpasses hlen fun d hd => hd)
    intro _
    apply triple_finish hR hpublish (by simp)
    rw [List.length_append, List.length_singleton]
    omega
  · push Not at hnew
    obtain ⟨p', hp', hid⟩ := hnew
    apply Triple.bind
    · apply (triple_writePrepare_repeated hp' hid).pre
      rintro _ rfl
      exact hd₁
    intro _
    apply Triple.of_fact fun _ hd => hd.1
    rintro rfl
    -- only beyond 10000 messages can a name repeat
    have hbeyond : ¬ps.length ≤ 10000 := by
      intro hbound
      have hlinked := hd₁.consistent.linked hbound
      rw [Option.toList_none, List.append_nil] at hlinked
      have hnamed : ∀ p ∈ ps, Named p := fun p hp =>
        hd₁.consistent.named p (List.mem_append_left _ hp)
      exact (hlink hbound).fresh hlinked hnamed hp.named p' hp' rfl
    apply Triple.bind ((triple_stageMessage hR hkeeps (by simp [hp'])).pre fun _ hd => hd.2)
    intro _
    apply triple_fail_bind fun d hd => hd.1.safe
    apply triple_fail_bind fun d hd => hd.1.safe
    apply Triple.bind ((triple_writeCommitIntent_repeated hp').pre fun _ hd => hd.1)
    intro _
    apply (triple_finish hR hpublish hp' (by omega) failAt at_).pre
    intro d hd
    exact ⟨hd.consistent, hd.locked, fun hbound => absurd hbound hbeyond⟩

/-! ## The writer lock -/

/-- No call is running on the disk, and none has died on it. -/
structure Idle (S : HarnessFactoryTransactionStore) (R : FactoryRules) (d : FactoryDisk) :
    Prop where
  unlocked : d.lock = false
  sound : Sound S d
  clear : Clean R → Clear d.temps
  bare : d.root = false → d = .empty

def Resting (S : HarnessFactoryTransactionStore) (R : FactoryRules) (d : FactoryDisk) : Prop :=
  Idle S R d ∨ Abandoned d

/-- What a call leaves when it stops; `raises` is whether it may raise. -/
abbrev Outside (S : HarnessFactoryTransactionStore) (R : FactoryRules) (raises : Prop) :
    Stop FactoryError → FactoryDisk → Prop :=
  Lib.Outside (Idle S R) Abandoned fun _ => raises

lemma keeps_lock (d : FactoryDisk) (lock : Bool) : Keeps d { d with lock := lock } :=
  keeps_of_eq rfl rfl rfl rfl rfl

lemma idle_of_locked (hsound : Sound S d) (hlocked : Locked R d) :
    Idle S R { d with lock := false } := by
  obtain ⟨ps, q, hc⟩ := hsound
  refine ⟨rfl, ⟨ps, q, hc.with_lock false⟩, hlocked.clear, ?_⟩
  intro hroot
  exact absurd (hlocked.root.symm.trans hroot) (by simp)

/-- What a locked disk is while a call takes hold of it. -/
def locked (d₀ : FactoryDisk) : FactoryDisk := { d₀ with root := true, lock := true }

/-- The lock rule: a call on an idle disk. -/
theorem triple_withWriterLock {α : Type} {body : FactoryProg α} {Q : α → FactoryDisk → Prop}
    (hR : Quiet R) (hd₀ : Idle S R d₀)
    (hbody : R.passes .makeRoot → R.passes .createLock → ∀ ps q,
      Triple R (Working S R ps q (· = locked d₀)) body
        (fun a d => (Sound S d ∧ Locked R d) ∧ Q a d) (Inside S R raises))
    (hQ : ∀ a d, Q a d → Q a { d with lock := false }) :
    Triple R (· = d₀) (withWriterLock body) (fun a d => Idle S R d ∧ Q a d)
      (Outside S R raises) := by
  obtain ⟨ps, q, hc⟩ := hd₀.sound
  have hidle : Idle S R { d₀ with root := true } :=
    ⟨hd₀.unlocked, ⟨ps, q, hc.with_root true⟩, hd₀.clear, fun h => absurd h (by simp)⟩
  unfold withWriterLock
  apply Triple.bind (M := fun _ d => R.passes .makeRoot ∧ d = { d₀ with root := true })
  · apply Triple.step_of_passes
    · rintro hpasses _ rfl
      exact ⟨hR _ _ (keeps_of_eq rfl rfl rfl rfl rfl), hpasses, rfl⟩
    · rintro _ kind rfl _ _
      exact outside_of_interrupt (Or.inl hd₀) kind
    · rintro _ rfl _
      exact ⟨hR _ _ (Keeps.refl _), outside_of_interrupt (Or.inl hd₀) .tear⟩
  intro _
  apply Triple.of_fact fun _ hd => hd.1
  intro hroot
  apply Triple.withLock (L := writerLock) (I := fun d => Sound S d ∧ Locked R d)
  · rintro _ ⟨-, rfl⟩
    exact ⟨hd₀.unlocked, hidle⟩
  · rintro _ ⟨-, rfl⟩
    exact ⟨hR _ _ (keeps_lock _ true), rfl, rfl⟩
  · intro hlock
    apply (hbody hroot hlock ps q).pre
    rintro _ ⟨_, ⟨-, rfl⟩, rfl⟩
    exact ⟨(hc.with_root true).with_lock true, ⟨rfl, rfl, hd₀.clear⟩, rfl⟩
  · rintro d ⟨hsound, hlocked⟩
    exact ⟨hlocked.abandoned, hR _ _ (Keeps.refl d), hR _ _ (keeps_lock d false),
      idle_of_locked hsound hlocked⟩
  · exact hQ

/-- A call on an abandoned disk is rejected. -/
theorem triple_withWriterLock_abandoned {α : Type} {body : FactoryProg α}
    {Q : α → FactoryDisk → Prop} (hR : Quiet R) :
    Triple R Abandoned (withWriterLock body) Q fun _ => Abandoned := by
  unfold withWriterLock
  apply Triple.bind (M := fun _ => Abandoned)
  · apply Triple.step
    · exact fun d hd => ⟨hd.lock, rfl⟩
    · exact fun d _ => hR _ _ (keeps_of_eq rfl rfl rfl rfl rfl)
    · exact fun d kind hd _ _ => hd
    · exact fun d hd _ => ⟨hR _ _ (Keeps.refl d), hd⟩
  intro _
  exact Triple.withLock_busy (fun d hd => hd.lock) fun d hd => hd

/-! ## The calls -/

/-- What a completed recovery leaves: `ps` committed and shown, and nothing prepared. -/
structure Restored (S : HarnessFactoryTransactionStore) (ps : List HarnessFactoryPrepare)
    (d : FactoryDisk) : Prop where
  consistent : Consistent S d ps none
  messages : ∀ p ∈ ps, d.messages.get? (messageDirName p.message) = some (fullDir p)
  markers : ∀ p ∈ ps, p.transactionId ∈ d.committed.keys
  head : ps.length ≤ 10000 → AtHead ps d

lemma Restored.unlock (h : Restored S ps d) : Restored S ps { d with lock := false } :=
  ⟨h.consistent.with_lock false, h.messages, h.markers, fun hbound => ⟨(h.head hbound).pointer,
    (h.head hbound).chat⟩⟩

lemma Recovered.restored {order : List HarnessFactoryPrepare} (h : Recovered S R d₀ ps order d)
    (hc : Consistent S d ps none) : Restored S ps d where
  consistent := hc
  messages := fun p hp => h.shown.messages p (h.perm.mem_iff.mpr hp)
  markers := fun p hp => h.shown.markers p (h.perm.mem_iff.mpr hp)
  head := h.atHead

/-- Recovery on an idle disk never raises. -/
theorem triple_recover (hR : Quiet R) (hd₀ : Idle S R d₀)
    (hreplay : R.passes .makeRoot → R.passes .createLock → Replayable S R (locked d₀))
    (clock : FactoryClock) :
    Triple R (· = d₀) (S.recover clock)
      (fun chat d => Idle S R d ∧ chat = d.chat ∧ ∃ ps, Restored S ps d) (Outside S R False) := by
  unfold recover
  apply Triple.read_bind
  rintro d rfl
  by_cases hroot : d.root = false
  · simp only [if_pos hroot]
    apply Triple.pure
    rintro _ rfl
    have hempty := hd₀.bare hroot
    rw [hempty] at hd₀ ⊢
    exact ⟨hd₀, rfl, [], consistent_empty S, by simp, by simp, fun _ => ⟨rfl, rfl⟩⟩
  · simp only [if_neg hroot]
    apply triple_withWriterLock hR hd₀
    · intro hpasses hpasses' ps q
      apply (triple_recoverUnlocked hR (hreplay hpasses hpasses') clock).post
      rintro chat d ⟨hchat, order, hd⟩
      exact ⟨hd.safe, hchat, ps, hd.frame.restored hd.consistent⟩
    · rintro chat d ⟨hchat, ps, hps⟩
      exact ⟨hchat, ps, hps.unlock⟩

/-- The arguments pass the checks that `_publish` makes before it takes the lock. -/
structure Admitted (S : HarnessFactoryTransactionStore) (args : PublishArgs) : Prop where
  prompt : ∃ prompt, S.assertPublicPrompt args.userPromptText = .ok prompt
  search : ∃ digest, requireDigest args.searchResultDigest "search_result_digest" = .ok digest
  selection : ∃ digests,
    sortedUniqueDigests args.selectionEvidenceDigests "selection_evidence_digests" = .ok digests ∧
      assertSelectionEvidenceMatchesRequest args.request digests = .ok ()
  failAt : args.failAt ≠ some "after_materialize"

/-- Publication on an idle disk. -/
theorem triple_publish (hR : Quiet R) (hd₀ : Idle S R d₀)
    (hmoves : Admitted S args → R.passes .materialize → R.passes .makeRoot →
      R.passes .createLock → Replayable S R (locked d₀) ∧ Publishable S R (locked d₀))
    (clock : FactoryClock) :
    Triple R (· = d₀) (S.publish args clock)
      (fun message d => Idle S R d ∧ ∃ p, message = p.message ∧ Published S p d)
      (Outside S R True) := by
  have hcheck : ∀ {α : Type} (x : Except FactoryError α),
      Triple R (· = d₀) (.check x) (fun a d => x = .ok a ∧ d = d₀) (Outside S R True) := by
    intro α x
    apply Triple.check
    · exact fun _ ha d hd => ⟨ha, hd⟩
    · rintro _ _ _ rfl
      exact ⟨trivial, Or.inl hd₀⟩
  unfold publish
  apply Triple.bind (hcheck _)
  intro prompt
  apply Triple.of_fact fun _ hd => hd.1
  intro hprompt
  apply Triple.bind ((hcheck _).pre fun _ hd => hd.2)
  intro searchDigest
  apply Triple.of_fact fun _ hd => hd.1
  intro hsearch
  apply Triple.bind ((hcheck _).pre fun _ hd => hd.2)
  intro selectionDigests
  apply Triple.of_fact fun _ hd => hd.1
  intro hselection
  apply Triple.bind ((hcheck _).pre fun _ hd => hd.2)
  intro _
  apply Triple.of_fact fun _ hd => hd.1
  intro hmatches
  apply Triple.bind (M := fun _ d => R.passes .materialize ∧ d = d₀)
  · apply Triple.step_of_passes
    · rintro hpasses _ ⟨-, rfl⟩
      exact ⟨hR _ _ (Keeps.refl _), hpasses, rfl⟩
    · rintro _ kind ⟨-, rfl⟩ _ _
      exact outside_of_interrupt (Or.inl hd₀) kind
    · rintro _ ⟨-, rfl⟩ _
      exact ⟨hR _ _ (Keeps.refl _), Or.inl hd₀⟩
  intro _
  apply Triple.of_fact fun _ hd => hd.1
  intro hmaterialize
  apply Triple.bind ((hcheck _).pre fun _ hd => hd.2)
  intro _
  apply Triple.of_fact fun _ hd => hd.1
  intro hfail
  have hadmitted : Admitted S args := ⟨⟨_, hprompt⟩, ⟨_, hsearch⟩, ⟨_, hselection, hmatches⟩,
    raiseIf_eq_ok_iff.mp hfail⟩
  apply (triple_withWriterLock hR hd₀ _ _).pre fun _ hd => hd.2
  · intro hroot hlock ps q
    obtain ⟨hreplay, hpublish⟩ := hmoves hadmitted hmaterialize hroot hlock
    apply Triple.bind (triple_recoverUnlocked hR hreplay clock)
    intro _
    apply Triple.read_bind
    rintro d₁ ⟨-, order, hd₁⟩
    have hlen : ps.length ≤ (committedIntents (locked d₀)).length := by
      obtain ⟨q', hstart⟩ := hd₁.frame.start
      rw [hstart.committedIntents_eq, List.length_map]
    apply Triple.bind (M := fun p d => Continues d₁.chat p ∧ d = d₁)
    · apply Triple.check
      · intro p hp d hd
        exact ⟨buildPrepare_ok hp, hd⟩
      · rintro _ _ _ rfl
        exact ⟨trivial, hd₁.safe⟩
    intro p
    apply Triple.of_fact fun _ hd => hd.1
    intro hp
    apply (triple_commit hR hpublish ?_ hlen ⟨hd₁.consistent, hd₁.locked, hd₁.frame.atHead⟩ hp
      args.failAt clock.committedAt).conseq
    · exact fun _ hd => hd.2
    · rintro message d ⟨hd, hmessage⟩
      exact ⟨hd, p, hmessage⟩
    · exact fun _ _ hE => hE
    · intro hne
      obtain ⟨p', hp'⟩ := List.exists_mem_of_ne_nil ps hne
      exact hd₁.frame.shown.passes p' (hd₁.frame.perm.mem_iff.mpr hp')
  · rintro message d ⟨p, hmessage, hp⟩
    obtain ⟨ps, hc, hmem⟩ := hp.sound
    exact ⟨p, hmessage, ⟨ps, hc.with_lock false, hmem⟩, hp.pointer, hp.chat, hp.message, hp.marker⟩

end HarnessFactoryTransactionStore
end Agintor.Storage
