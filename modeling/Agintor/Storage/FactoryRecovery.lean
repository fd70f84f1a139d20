import Agintor.Lib.Lists
import Agintor.Storage.FactoryTriples

/-!
# What recovery does

`_recover_unlocked` replays every committed transaction in the order of the WAL file names and
drops the prepared one. The loop invariant says what the disk shows after a part of the
transactions; after all of them every committed transaction is visible, whatever the start.
-/

namespace Agintor.Storage

open Agintor.Core Lib

namespace HarnessFactoryTransactionStore

variable {S : HarnessFactoryTransactionStore} {R : FactoryRules}
  {ps : List HarnessFactoryPrepare} {q : Option HarnessFactoryPrepare}
  {p : HarnessFactoryPrepare} {F : FactoryDisk → Prop} {raises : Prop}

/-! ## Single records -/

variable {P : FactoryDisk → Prop}

lemma sound_working (h : ∀ d, P d → Working S R ps q F d) :
    ∀ d, P d → Sound S d ∧ Locked R d := fun d hd => (h d hd).safe

/-- The release a transaction is checked against is the one it materialized. -/
theorem triple_advancePointer {Q : ActiveReleasePointer → FactoryDisk → Prop}
    (hP : ∀ d, P d → Sound S d ∧ Locked R d) (hR : Quiet R)
    (hgo : R.passes .advancePointer → ∀ d, P d →
      R.moves d { d with pointer := some (activePointer p.materialized) } ∧
        Q (activePointer p.materialized) { d with pointer := some (activePointer p.materialized) }) :
    Triple R P (advancePointer p) Q (Inside S R raises) := by
  unfold advancePointer
  apply Triple.bind (M := fun _ => Q (activePointer p.materialized))
  · apply Locked.step_of_passes hP hgo
    exact fun d _ => ⟨hR _ _ (Keeps.refl d), rfl, rfl⟩
  intro _
  apply Triple.bind (M := fun _ => Q (activePointer p.materialized))
  · apply Triple.check
    · exact fun _ _ _ hd => hd
    · intro e he
      have hrelease : (activePointer p.materialized).releaseDigest = p.message.newReleaseDigest :=
        p.message_release
      simp [raiseIf, hrelease] at he
  intro _
  exact Triple.pure fun _ hd => hd

theorem triple_writeCommitted (hR : Quiet R) (hF : ∀ d d', Keeps d d' → F d → F d') (hp : p ∈ ps)
    (hP : ∀ d, P d → Working S R ps q F d) {at_ : ℕ}
    (hold : ∀ d, P d → d.committed.get? p.transactionId ≠ none → raises) :
    Triple R P
      (S.writeCommitted p (S.commitIntent p) (activePointer p.materialized) at_)
      (fun _ d => Working S R ps q F d ∧ p.transactionId ∈ d.committed.keys)
      (Inside S R raises) := by
  unfold writeCommitted
  apply Locked.writeOnce (sound_working hP)
  · intro d f hd hget
    refine ⟨fun _ => ⟨hP d hd, ?_⟩, fun _ => hold d hd (by simp [hget])⟩
    rw [← Dict.contains_iff_mem_keys, Dict.contains, hget]
    rfl
  · intro d hd _
    have hw := hP d hd
    refine ⟨⟨⟨hw.consistent.with_committed hp at_, ?_, hF _ _ (keeps_committed d _ _) hw.frame⟩,
      Dict.mem_keys_set.mpr (Or.inl rfl)⟩, hR _ _ (keeps_committed d _ _)⟩
    exact ⟨hw.locked.lock, hw.locked.root, hw.locked.clear⟩
  · exact fun d _ _ => ⟨hR _ _ (keeps_committed d _ _), rfl, rfl⟩

/-- A prepared transaction is dropped, staging directory first. -/
theorem triple_abortPrepare (hR : Quiet R) (hF : ∀ d d', Keeps d d' → F d → F d') :
    Triple R (Working S R ps (some p) F) (abortPrepare p p.transactionId)
      (fun _ => Working S R ps none F) (Inside S R raises) := by
  have hp : p ∈ ps ++ (some p).toList := by simp
  have hpending : ∀ d, Consistent S d ps (some p) → p ∉ ps := fun d hd hps =>
    hd.pending_fresh p hps rfl
  unfold abortPrepare
  have hunlink : Triple R
      (fun d => Working S R ps (some p) F d ∧ d.staging.get? p.transactionId = none)
      (.step .unlinkPrepare id fun d => { d with prepares := d.prepares.erase p.transactionId })
      (fun _ => Working S R ps none F) (Inside S R raises) := by
    apply Locked.step
    · exact fun d hd => hd.1.safe
    · rintro d ⟨hd, hstaging⟩
      exact ⟨hd.consistent.without_prepare hstaging,
        ⟨hd.locked.lock, hd.locked.root, hd.locked.clear⟩,
        hF d _ (keeps_of_eq rfl rfl rfl rfl rfl) hd.frame⟩
    · exact fun d _ => hR _ _ (keeps_of_eq rfl rfl rfl rfl rfl)
    · exact fun d _ => ⟨hR _ _ (Keeps.refl d), rfl, rfl⟩
  -- unlinking a staged file
  have hunstage : ∀ f : MessageDir → MessageDir, (∀ s, PartOf s p → PartOf (f s) p) →
      Triple R (Working S R ps (some p) F)
        (.step .unlinkStaged id (FactoryDisk.modifyStaging p.transactionId f))
        (fun _ => Working S R ps (some p) F) (Inside S R raises) := by
    intro f hf
    apply Locked.step
    · exact fun d hd => hd.safe
    · exact fun d hd => hd.with_staging hF hp hf fun hps => absurd hps (hpending d hd.consistent)
    · exact fun d _ => hR _ _ (keeps_staging d _ _)
    · exact fun d _ => ⟨hR _ _ (Keeps.refl d), rfl, rfl⟩
  apply Triple.read_bind
  intro d₀ hd₀
  by_cases hstaging : d₀.staging.contains p.transactionId = true
  · simp only [if_pos hstaging]
    apply Triple.bind (M := fun _ => Working S R ps (some p) F)
    · apply (hunstage _ _).pre
      · rintro _ rfl
        exact hd₀
      · exact fun s hs => ⟨by simp, hs.prompt⟩
    intro _
    apply Triple.bind (M := fun _ => Working S R ps (some p) F)
    · exact hunstage _ fun s hs => ⟨hs.message, by simp⟩
    intro _
    refine Triple.bind ?_ fun _ => hunlink
    apply Locked.step
    · exact fun d hd => hd.safe
    · intro d hd
      refine ⟨⟨hd.consistent.without_staging, ⟨hd.locked.lock, hd.locked.root, hd.locked.clear⟩,
        hF d _ (keeps_of_eq rfl rfl rfl rfl rfl) hd.frame⟩, ?_⟩
      rw [Dict.get?_erase, if_pos rfl]
    · exact fun d _ => hR _ _ (keeps_of_eq rfl rfl rfl rfl rfl)
    · exact fun d _ => ⟨hR _ _ (Keeps.refl d), rfl, rfl⟩
  · simp only [if_neg hstaging]
    apply hunlink.pre
    rintro _ rfl
    refine ⟨hd₀, ?_⟩
    rw [Dict.contains, Bool.not_eq_true, Option.isSome_eq_false_iff, Option.isNone_iff_eq_none]
      at hstaging
    exact hstaging

/-! ## The loop -/

/-- The committed transactions among `before`. -/
def committedAmong (ps before : List HarnessFactoryPrepare) : List HarnessFactoryPrepare :=
  before.filter (· ∈ ps)

/-- The pointer after `before` has been replayed on `d₀`. -/
def headPointer (d₀ : FactoryDisk) (ps before : List HarnessFactoryPrepare) :
    Option ActiveReleasePointer :=
  ((committedAmong ps before).getLast?.map fun p => activePointer p.materialized).or d₀.pointer

/-- The chat after `before` has been replayed on `d₀`. -/
def headChat (d₀ : FactoryDisk) (ps before : List HarnessFactoryPrepare) :
    Option HarnessFactoryChatManifest :=
  ((committedAmong ps before).getLast?.map (·.nextChat)).or d₀.chat

/-- What the disk shows once `before` has been replayed on `d₀`. -/
structure Shown (R : FactoryRules) (d₀ : FactoryDisk) (ps before : List HarnessFactoryPrepare)
    (pointer : Option ActiveReleasePointer) (chat : Option HarnessFactoryChatManifest)
    (d : FactoryDisk) : Prop where
  pointer_eq : d.pointer = pointer
  chat_eq : d.chat = chat
  intents : committedIntents d = committedIntents d₀
  messages : ∀ p ∈ committedAmong ps before,
    d.messages.get? (messageDirName p.message) = some (fullDir p)
  markers : ∀ p ∈ committedAmong ps before, p.transactionId ∈ d.committed.keys
  passes : ∀ p ∈ committedAmong ps before, R.passes .advancePointer

lemma Shown.keeps {d₀ d d' : FactoryDisk} {before : List HarnessFactoryPrepare}
    {x : Option ActiveReleasePointer} {y : Option HarnessFactoryChatManifest} (hk : Keeps d d')
    (h : Shown R d₀ ps before x y d) : Shown R d₀ ps before x y d' where
  pointer_eq := hk.pointer.trans h.pointer_eq
  chat_eq := hk.chat.trans h.chat_eq
  intents := hk.intents.trans h.intents
  messages := fun p hp => hk.messages _ _ (h.messages p hp)
  markers := fun p hp => hk.committed _ (h.markers p hp)
  passes := h.passes

/-- A round of the loop: `order` lists the WAL in the order of its file names, and it is `p`'s
turn after `before`. -/
structure Round (S : HarnessFactoryTransactionStore) (d₀ : FactoryDisk)
    (ps : List HarnessFactoryPrepare) (q : Option HarnessFactoryPrepare)
    (order before : List HarnessFactoryPrepare) (p : HarnessFactoryPrepare)
    (after : List HarnessFactoryPrepare) : Prop where
  consistent : Consistent S d₀ ps q
  perm : order.Perm (ps ++ q.toList)
  sorted : order.map (·.transactionId) = sortedPrepares d₀
  order_eq : order = before ++ p :: after

/-- The replay of committed transactions on `d₀` makes permitted moves. -/
structure Replayable (S : HarnessFactoryTransactionStore) (R : FactoryRules) (d₀ : FactoryDisk) :
    Prop where
  pointer : R.passes .advancePointer → ∀ {ps q order before p after d},
    Round S d₀ ps q order before p after → p ∈ ps →
    Shown R d₀ ps before (headPointer d₀ ps before) (headChat d₀ ps before) d →
    R.moves d { d with pointer := some (activePointer p.materialized) }
  chat : R.passes .advancePointer → ∀ {ps q order before p after d},
    Round S d₀ ps q order before p after → p ∈ ps →
    Shown R d₀ ps before (some (activePointer p.materialized)) (headChat d₀ ps before) d →
    R.moves d { d with chat := some p.nextChat }

section Loop

variable {d₀ : FactoryDisk} {order before after : List HarnessFactoryPrepare}

lemma committedAmong_append_of_mem (hp : p ∈ ps) :
    committedAmong ps (before ++ [p]) = committedAmong ps before ++ [p] := by
  unfold committedAmong
  simp [List.filter_append, hp]

lemma committedAmong_append_of_not_mem (hp : p ∉ ps) :
    committedAmong ps (before ++ [p]) = committedAmong ps before := by
  unfold committedAmong
  simp [List.filter_append, hp]

lemma Round.turn (h : Round S d₀ ps q order before p after) : Turn ps q before p after :=
  ⟨h.order_eq ▸ h.perm, List.Nodup.of_map _ h.consistent.nodup⟩

lemma commitIntent_matches (p : HarnessFactoryPrepare) :
    S.assertIntentMatchesPrepare (S.commitIntent p) p = .ok () := by
  simp [assertIntentMatchesPrepare, commitIntent, raiseIf]

lemma headPointer_append (hp : p ∈ ps) :
    headPointer d₀ ps (before ++ [p]) = some (activePointer p.materialized) := by
  unfold headPointer
  rw [committedAmong_append_of_mem hp, List.getLast?_concat]
  rfl

lemma headChat_append (hp : p ∈ ps) : headChat d₀ ps (before ++ [p]) = some p.nextChat := by
  unfold headChat
  rw [committedAmong_append_of_mem hp, List.getLast?_concat]
  rfl

/-- A committed transaction is replayed: pointer, message, chat, marker. -/
theorem triple_replay (hR : Quiet R) (hreplay : Replayable S R d₀)
    (h : Round S d₀ ps q order before p after) (hp : p ∈ ps) (at_ : ℕ) :
    Triple R
      (Working S R ps (remaining q before)
        (Shown R d₀ ps before (headPointer d₀ ps before) (headChat d₀ ps before)))
      (do
        let pointer ← advancePointer p
        S.publishMessage p
        writeChat p.nextChat
        if (← .read).committed.get? p.transactionId = none then
          S.writeCommitted p (S.commitIntent p) pointer at_ : FactoryProg Unit)
      (fun _ => Working S R ps (remaining q before)
        (Shown R d₀ ps (before ++ [p]) (headPointer d₀ ps (before ++ [p]))
          (headChat d₀ ps (before ++ [p]))))
      (Inside S R raises) := by
  apply Triple.bind (M := fun pointer d =>
    (pointer = activePointer p.materialized ∧ R.passes .advancePointer) ∧
      Working S R ps (remaining q before)
        (Shown R d₀ ps before (some (activePointer p.materialized)) (headChat d₀ ps before)) d)
  · apply triple_advancePointer (fun d hd => hd.safe) hR
    intro hpasses d hd
    refine ⟨hreplay.pointer hpasses h hp hd.frame, ⟨rfl, hpasses⟩, ?_⟩
    exact ⟨hd.consistent.with_pointer hp _, ⟨hd.locked.lock, hd.locked.root, hd.locked.clear⟩,
      { hd.frame with pointer_eq := rfl }⟩
  intro pointer
  apply Triple.of_fact fun _ hd => hd.1
  rintro ⟨rfl, hpasses⟩
  apply Triple.bind
  · exact (triple_publishMessage hR (fun _ _ => Shown.keeps) hp).pre fun _ hd => hd.2
  intro _
  -- from here on the transaction is shown
  have hkeeps : ∀ d d', Keeps d d' →
      Shown R d₀ ps before (some (activePointer p.materialized)) (some p.nextChat) d ∧
        d.messages.get? (messageDirName p.message) = some (fullDir p) →
      Shown R d₀ ps before (some (activePointer p.materialized)) (some p.nextChat) d' ∧
        d'.messages.get? (messageDirName p.message) = some (fullDir p) :=
    fun d d' hk hd => ⟨hd.1.keeps hk, hk.messages _ _ hd.2⟩
  apply Triple.bind (M := fun _ => Working S R ps (remaining q before) fun d =>
    Shown R d₀ ps before (some (activePointer p.materialized)) (some p.nextChat) d ∧
      d.messages.get? (messageDirName p.message) = some (fullDir p))
  · apply Locked.step
    · exact fun d hd => hd.1.safe
    · rintro d ⟨hd, hmessage⟩
      exact ⟨hd.consistent.with_chat hp _, ⟨hd.locked.lock, hd.locked.root, hd.locked.clear⟩,
        { hd.frame with chat_eq := rfl }, hmessage⟩
    · exact fun d hd => hreplay.chat hpasses h hp hd.1.frame
    · exact fun d _ => ⟨hR _ _ (Keeps.refl d), rfl, rfl⟩
  intro _
  apply Triple.post (Q := fun _ d => Working S R ps (remaining q before) (fun d =>
    Shown R d₀ ps before (some (activePointer p.materialized)) (some p.nextChat) d ∧
      d.messages.get? (messageDirName p.message) = some (fullDir p)) d ∧
        p.transactionId ∈ d.committed.keys)
  · apply Triple.read_bind
    intro d₁ hd₁
    by_cases hmarker : d₁.committed.get? p.transactionId = none
    · simp only [if_pos hmarker]
      apply triple_writeCommitted hR hkeeps hp (P := fun d => d = d₁)
      · rintro _ rfl
        exact hd₁
      · rintro _ rfl hsome
        exact absurd hmarker hsome
    · simp only [if_neg hmarker]
      apply Triple.pure
      rintro _ rfl
      refine ⟨hd₁, ?_⟩
      rwa [Dict.get?_eq_none_iff, not_not] at hmarker
  · rintro _ d ⟨hd, hmarker⟩
    obtain ⟨hshown, hmessage⟩ := hd.frame
    refine ⟨hd.consistent, hd.locked, ?_, ?_, hshown.intents, ?_, ?_, ?_⟩
    · rw [headPointer_append hp]
      exact hshown.pointer_eq
    · rw [headChat_append hp]
      exact hshown.chat_eq
    · rw [committedAmong_append_of_mem hp]
      exact List.forall_mem_append.mpr ⟨hshown.messages, by simpa using hmessage⟩
    · rw [committedAmong_append_of_mem hp]
      exact List.forall_mem_append.mpr ⟨hshown.markers, by simpa using hmarker⟩
    · exact fun _ _ => hpasses

/-- One round of the loop. -/
theorem triple_recoverPrepare (hR : Quiet R) (hreplay : Replayable S R d₀)
    (h : Round S d₀ ps q order before p after) (clock : FactoryClock) :
    Triple R
      (Working S R ps (remaining q before)
        (Shown R d₀ ps before (headPointer d₀ ps before) (headChat d₀ ps before)))
      (S.recoverPrepare clock p.transactionId)
      (fun _ => Working S R ps (remaining q (before ++ [p]))
        (Shown R d₀ ps (before ++ [p]) (headPointer d₀ ps (before ++ [p]))
          (headChat d₀ ps (before ++ [p]))))
      (Inside S R raises) := by
  unfold recoverPrepare
  apply Triple.read_bind
  intro d₁ hd₁
  by_cases hp : p ∈ ps
  · have hread := hd₁.consistent.get_prepare (List.mem_append_left _ hp)
    simp only [hread, readFile]
    apply Triple.pure_bind
    apply Triple.read_bind
    rintro _ rfl
    simp only [hd₁.consistent.get_intent hp]
    apply Triple.pure_bind
    apply Triple.check_ok_bind (commitIntent_matches p)
    rw [h.turn.remaining_of_mem hp]
    apply (triple_replay hR hreplay h hp _).pre
    rintro _ rfl
    exact hd₁
  · -- the prepared transaction has no commit intent
    obtain ⟨hpending, hnone⟩ := h.turn.remaining_of_not_mem hp
    rw [hpending] at hd₁
    have hread := hd₁.consistent.get_prepare (p := p) (by simp)
    simp only [hread, readFile]
    apply Triple.pure_bind
    apply Triple.read_bind
    rintro _ rfl
    simp only [hd₁.consistent.get_intent_none hd₁.consistent.pending_fresh]
    have hsame : committedAmong ps (before ++ [p]) = committedAmong ps before :=
      committedAmong_append_of_not_mem hp
    rw [hnone]
    apply (triple_abortPrepare hR fun _ _ => Shown.keeps).conseq
    · rintro _ rfl
      exact hd₁
    · intro _ d hd
      obtain ⟨hpointer, hchat, hintents, hmessages, hmarkers, hpasses⟩ := hd.frame
      refine ⟨hd.consistent, hd.locked, ?_, ?_, hintents, ?_, ?_, ?_⟩
      · rw [hpointer, headPointer, headPointer, hsame]
      · rw [hchat, headChat, headChat, hsame]
      · rwa [hsame]
      · rwa [hsame]
      · rwa [hsame]
    · exact fun _ _ hE => hE

/-! ## The whole recovery -/

lemma sortedPrepares_perm (d : FactoryDisk) : (sortedPrepares d).Perm d.prepares.keys :=
  List.perm_insertionSort _ _

lemma pairwise_sortedPrepares (d : FactoryDisk) :
    (sortedPrepares d).Pairwise fun t t' => prepareFile t ≤ prepareFile t' := by
  have : Std.Total fun t t' : String => prepareFile t ≤ prepareFile t' :=
    ⟨fun _ _ => le_total _ _⟩
  have : IsTrans String fun t t' => prepareFile t ≤ prepareFile t' := ⟨fun _ _ _ => le_trans⟩
  exact List.pairwise_insertionSort _ _

lemma pairwise_committedAmong {d : FactoryDisk} {ps order : List HarnessFactoryPrepare}
    (hsorted : order.map (·.transactionId) = sortedPrepares d) :
    (committedAmong ps order).Pairwise fun p p' =>
      prepareFile p.transactionId ≤ prepareFile p'.transactionId := by
  have hpairwise : order.Pairwise fun p p' =>
      prepareFile p.transactionId ≤ prepareFile p'.transactionId := by
    rw [← List.pairwise_map (f := fun p : HarnessFactoryPrepare => p.transactionId)
      (R := fun t t' => prepareFile t ≤ prepareFile t'), hsorted]
    exact pairwise_sortedPrepares d
  exact hpairwise.filter _

/-- What recovery leaves: nothing prepared, every committed transaction visible, and the head
of the last one in the order of the WAL. -/
structure Recovered (S : HarnessFactoryTransactionStore) (R : FactoryRules) (d₀ : FactoryDisk)
    (ps order : List HarnessFactoryPrepare) (d : FactoryDisk) : Prop where
  shown : Shown R d₀ ps order (headPointer d₀ ps order) (headChat d₀ ps order) d
  start : ∃ q, Consistent S d₀ ps q
  sorted : (committedAmong ps order).Pairwise fun p p' =>
    prepareFile p.transactionId ≤ prepareFile p'.transactionId
  perm : (committedAmong ps order).Perm ps

lemma committedAmong_perm (hc : Consistent S d₀ ps q) (h : order.Perm (ps ++ q.toList)) :
    (committedAmong ps order).Perm ps := by
  have hfilter : (ps ++ q.toList).filter (· ∈ ps) = ps := by
    have hps : ps.filter (· ∈ ps) = ps := List.filter_eq_self.mpr (by simp)
    have hq : q.toList.filter (· ∈ ps) = [] := by
      rw [List.filter_eq_nil_iff]
      intro p hp
      obtain rfl := Option.mem_toList.mp hp
      have hfresh : p ∉ ps := fun hps => hc.pending_fresh p hps rfl
      simpa using hfresh
    rw [List.filter_append, hps, hq, List.append_nil]
  have hperm : (committedAmong ps order).Perm ((ps ++ q.toList).filter (· ∈ ps)) := h.filter _
  rwa [hfilter] at hperm

theorem triple_recoverUnlocked (hR : Quiet R) (hreplay : Replayable S R d₀) (clock : FactoryClock) :
    Triple R (Working S R ps q (· = d₀)) (S.recoverUnlocked clock)
      (fun chat d => chat = d.chat ∧ ∃ order, Working S R ps none (Recovered S R d₀ ps order) d)
      (Inside S R raises) := by
  unfold recoverUnlocked
  apply Triple.read_bind
  intro d hd
  obtain rfl : d = d₀ := hd.frame
  -- the transactions behind the sorted file names
  have hids : ((ps ++ q.toList).map (·.transactionId)).Perm (sortedPrepares d) := by
    rw [← hd.consistent.keys_prepares]
    exact (sortedPrepares_perm d).symm
  obtain ⟨order, hperm, hsorted⟩ := exists_perm_map_eq hids
  apply Triple.bind (M := fun _ => Working S R ps none (Recovered S R d ps order))
  · rw [← hsorted, Prog.forM_map]
    apply (Triple.forM (I := fun before => Working S R ps (remaining q before)
      (Shown R d ps before (headPointer d ps before) (headChat d ps before))) ?_).conseq
    · rintro _ rfl
      refine ⟨?_, hd.locked, rfl, rfl, rfl, by simp [committedAmong], by simp [committedAmong],
        by simp [committedAmong]⟩
      rw [remaining_nil]
      exact hd.consistent
    · intro _ d' hd'
      rw [remaining_eq_none hperm] at hd'
      exact ⟨hd'.consistent, hd'.locked, hd'.frame, ⟨q, hd.consistent⟩,
        pairwise_committedAmong hsorted, committedAmong_perm hd.consistent hperm⟩
    · exact fun _ _ hE => hE
    · intro before p after horder
      exact triple_recoverPrepare hR hreplay ⟨hd.consistent, hperm, hsorted, horder⟩ clock
  intro _
  apply Triple.read_bind
  intro d' hd'
  apply Triple.pure
  rintro _ rfl
  exact ⟨rfl, order, hd'⟩

/-! ### The order of the WAL -/

/-- With at most 10000 messages the file names sort by message number. -/
lemma prepareFile_lt {p p' : HarnessFactoryPrepare} (h : Named p) (h' : Named p')
    (hlt : p.message.messageIndex < p'.message.messageIndex)
    (hlen : p'.message.messageIndex < 10000) :
    prepareFile p.transactionId < prepareFile p'.transactionId := by
  obtain ⟨seed, hid, -⟩ := h
  obtain ⟨seed', hid', -⟩ := h'
  rw [hid, hid', String.lt_iff_toList_lt]
  unfold prepareFile transactionName
  simp only [String.toList_append, toList_zeroPad, List.append_assoc]
  apply List.append_left_lt
  apply List.append_left_lt
  exact zeroPadChars_append_lt (by decide) hlt (by simpa using hlen) _ _

/-- The committed transactions are replayed in the order of their commit intents. -/
lemma committedAmong_order (hc : Consistent S d₀ ps q) (hperm : (committedAmong ps order).Perm ps)
    (hsorted : (committedAmong ps order).Pairwise fun p p' =>
      prepareFile p.transactionId ≤ prepareFile p'.transactionId)
    (hlen : ps.length ≤ 10000) : committedAmong ps order = ps := by
  have hnamed : ∀ p ∈ ps, Named p := fun p hp => hc.named p (List.mem_append_left _ hp)
  have hlinked := (hc.linked hlen).left
  have hps : ps.Pairwise fun p p' =>
      prepareFile p.transactionId ≤ prepareFile p'.transactionId := by
    rw [List.pairwise_iff_getElem]
    intro i j hi hj hij
    have hindex := (hlinked i ps[i] (List.getElem?_eq_getElem hi)).index_eq
    have hindex' := (hlinked j ps[j] (List.getElem?_eq_getElem hj)).index_eq
    apply le_of_lt
    apply prepareFile_lt (hnamed _ (List.getElem_mem hi)) (hnamed _ (List.getElem_mem hj))
    · omega
    · omega
  apply List.Perm.eq_of_pairwise ?_ hsorted hps hperm
  intro p p' hp hp' hle hge
  have hfile := le_antisymm hle hge
  unfold prepareFile at hfile
  rw [String.append_left_inj, String.append_right_inj] at hfile
  exact hc.eq_of_transactionId (List.mem_append_left _ (hperm.mem_iff.mp hp))
    (List.mem_append_left _ hp') hfile

/-- The head on the disk is the last of the committed transactions. -/
structure AtHead (ps : List HarnessFactoryPrepare) (d : FactoryDisk) : Prop where
  pointer : d.pointer = ps.getLast?.map fun p => activePointer p.materialized
  chat : d.chat = ps.getLast?.map (·.nextChat)

lemma AtHead.keeps {d d' : FactoryDisk} (hk : Keeps d d') (h : AtHead ps d) : AtHead ps d' :=
  ⟨hk.pointer.trans h.pointer, hk.chat.trans h.chat⟩

theorem Recovered.atHead {d : FactoryDisk} (h : Recovered S R d₀ ps order d)
    (hlen : ps.length ≤ 10000) : AtHead ps d := by
  obtain ⟨q, hc⟩ := h.start
  have hps := committedAmong_order hc h.perm h.sorted hlen
  have hpointer := h.shown.pointer_eq
  have hchat := h.shown.chat_eq
  unfold headPointer at hpointer
  unfold headChat at hchat
  rw [hps] at hpointer hchat
  cases hlast : ps.getLast? with
  | none =>
    obtain ⟨hnochat, hnopointer⟩ := hc.heads (List.getLast?_eq_none_iff.mp hlast)
    rw [hlast] at hpointer hchat
    refine ⟨?_, ?_⟩
    · rw [hpointer, hlast, hnopointer]
      rfl
    · rw [hchat, hlast, hnochat]
      rfl
  | some p =>
    rw [hlast] at hpointer hchat
    refine ⟨?_, ?_⟩
    · rw [hpointer, hlast]
      rfl
    · rw [hchat, hlast]
      rfl

end Loop

end HarnessFactoryTransactionStore
end Agintor.Storage
