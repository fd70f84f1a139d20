import Agintor.Storage.FactoryPublication

/-!
# Crash consistency of the factory store

What holds over whole runs. After any calls, interrupted or not, a recovery that completes
shows exactly the transactions whose commit intents were written, as one linked chat. The one
exception is an interruption that is no `Exception` while a message is copied: `_publish_message`
cleans up in `except Exception`, so that its hidden directory stays, and readers list it.
-/

namespace Agintor.Storage

open Agintor.Core Lib

namespace HarnessFactoryTransactionStore

variable {S : HarnessFactoryTransactionStore} {R : FactoryRules}
  {ps : List HarnessFactoryPrepare} {p : HarnessFactoryPrepare} {d : FactoryDisk}

/-! ## Runs -/

/-- On an idle disk. -/
theorem triple_program (hR : Quiet R) {d₀ : FactoryDisk} (hd₀ : Idle S R d₀) {e : Event}
    (hrecover : e.call.publishArgs = none → R.passes .makeRoot → R.passes .createLock →
      Replayable S R (locked d₀))
    (hpublish : ∀ args, e.call.publishArgs = some args → Admitted S args →
      R.passes .materialize → R.passes .makeRoot → R.passes .createLock →
      Replayable S R (locked d₀) ∧ Publishable S R (locked d₀)) :
    Triple R (· = d₀) (S.program e)
      (fun _ d => Idle S R d ∧ (e.call.publishArgs = none → ∃ ps, Restored S ps d))
      (Outside S R (e.call.publishArgs ≠ none)) := by
  unfold program
  cases hargs : e.call.publishArgs with
  | some args =>
    have htrue : (some args ≠ none) = True := by simp
    rw [htrue]
    apply Triple.bind (triple_publish hR hd₀ (hpublish args hargs) e.clock)
    intro message
    apply Triple.pure
    exact fun d hd => ⟨hd.1, fun hnone => absurd hnone (by simp)⟩
  | none =>
    have hfalse : ((none : Option PublishArgs) ≠ none) = False := by simp
    rw [hfalse]
    apply Triple.bind (triple_recover hR hd₀ (hrecover hargs) e.clock)
    intro chat
    apply Triple.pure
    exact fun d hd => ⟨hd.1, fun _ => hd.2.2⟩

/-- On an abandoned disk every call that gets to the lock is rejected. -/
theorem triple_program_abandoned (hR : Quiet R) (e : Event) :
    Triple R Abandoned (S.program e) (fun _ _ => False) fun _ => Abandoned := by
  have hcheck : ∀ {α : Type} (x : Except FactoryError α),
      Triple R Abandoned (.check x) (fun _ => Abandoned) fun _ => Abandoned := by
    intro α x
    apply Triple.check
    · exact fun _ _ d hd => hd
    · exact fun _ _ d hd => hd
  have hpublish : ∀ args : PublishArgs,
      Triple R Abandoned (S.publish args e.clock >>= fun _ => pure ()) (fun _ _ => False)
        fun _ => Abandoned := by
    intro args
    apply Triple.bind (M := fun _ _ => False)
    · unfold publish
      apply Triple.bind (hcheck _)
      intro _
      apply Triple.bind (hcheck _)
      intro _
      apply Triple.bind (hcheck _)
      intro _
      apply Triple.bind (hcheck _)
      intro _
      apply Triple.bind (M := fun _ => Abandoned)
      · apply Triple.step
        · exact fun d hd => hd
        · exact fun d _ => hR _ _ (Keeps.refl d)
        · exact fun d kind hd _ _ => hd
        · exact fun d hd _ => ⟨hR _ _ (Keeps.refl d), hd⟩
      intro _
      apply Triple.bind (hcheck _)
      intro _
      exact triple_withWriterLock_abandoned hR
    · exact fun _ _ _ hfalse => hfalse.elim
  unfold program
  cases e.call.publishArgs with
  | some args => exact hpublish args
  | none =>
    apply Triple.bind (M := fun _ _ => False)
    · unfold recover
      apply Triple.read_bind
      intro d hd
      have hroot : ¬d.root = false := by simp [hd.root]
      simp only [if_neg hroot]
      apply (triple_withWriterLock_abandoned hR).pre
      rintro _ rfl
      exact hd
    · exact fun _ _ _ hfalse => hfalse.elim

/-- One call of a run: what it leaves is at rest again, and a completed recovery has restored
the chat. -/
theorem lands_execute (hR : Quiet R)
    {e : Event} {m : Machine FactoryStep FactoryDisk}
    (hrecover : Idle S R m.state → e.call.publishArgs = none → R.passes .makeRoot →
      R.passes .createLock → Replayable S R (locked m.state))
    (hpublish : Idle S R m.state → ∀ args, e.call.publishArgs = some args → Admitted S args →
      R.passes .materialize → R.passes .makeRoot → R.passes .createLock →
      Replayable S R (locked m.state) ∧ Publishable S R (locked m.state))
    (hm : R.Trace (m.state :: m.past))
    (hrest : Resting S R m.state) (hfault : R.pending e.fault) :
    Lands R (fun _ d => Idle S R d ∧ (e.call.publishArgs = none → ∃ ps, Restored S ps d))
      (fun r d => Resting S R d ∧ (e.call.publishArgs = none → Idle S R m.state → ∀ t, r ≠ .raised t))
      (S.execute m e) := by
  unfold execute
  have hobeys : Machine.Obeys { m with fault := e.fault } R := ⟨hfault, hm⟩
  rcases hrest with hidle | habandoned
  · have htriple := triple_program hR hidle (hrecover hidle) (hpublish hidle)
    apply (htriple.conseq (fun _ hd => hd) (fun _ _ hd => hd) ?_) _ hobeys rfl
    intro r d hd
    cases r with
    | raised t => exact ⟨hd.2, fun hcall => absurd hcall hd.1⟩
    | exception => exact ⟨hd, fun _ _ t => by simp⟩
    | baseException => exact ⟨hd, fun _ _ t => by simp⟩
    | killed => exact ⟨hd, fun _ _ t => by simp⟩
  · have htriple := triple_program_abandoned (S := S) hR e
    apply (htriple.conseq (fun _ hd => hd) (fun _ _ hfalse => hfalse.elim) ?_) _ hobeys habandoned
    intro r d hd
    refine ⟨Or.inr hd, fun _ hidle => ?_⟩
    have hlock := hidle.unlocked.symm.trans habandoned.lock
    exact absurd hlock (by simp)

/-- Rules that permit every move. -/
def anyMove (origin : FactoryDisk → Prop) (pending : Option (Fault FactoryStep) → Prop)
    (waits : ∀ i k kind, pending (some ⟨i, k + 1, kind⟩) → pending (some ⟨i, k, kind⟩)) :
    FactoryRules where
  pending := pending
  origin := origin
  moves := fun _ _ => True
  waits := waits

lemma trace_anyMove {origin : FactoryDisk → Prop} {pending : Option (Fault FactoryStep) → Prop}
    {waits : ∀ i k kind, pending (some ⟨i, k + 1, kind⟩) → pending (some ⟨i, k, kind⟩)}
    {history : List FactoryDisk} (horigin : ∀ d, history.getLast? = some d → origin d) :
    (anyMove origin pending waits).Trace history where
  origin := horigin
  chain := List.isChain_iff_forall_rel_of_append_cons_cons.mpr fun _ _ _ _ _ => trivial

section Runs

variable {origin : FactoryDisk → Prop} {faults : Option (Fault FactoryStep) → Prop}
  {waits : ∀ i k kind, faults (some ⟨i, k + 1, kind⟩) → faults (some ⟨i, k, kind⟩)}

variable {m : Machine FactoryStep FactoryDisk} {events : List Event}

section

variable (hm : (anyMove origin faults waits).Trace (m.state :: m.past))
  (hrest : Resting S (anyMove origin faults waits) m.state)
include hm hrest

theorem lands_execute_anyMove {e : Event} (hfault : faults e.fault) :
    Lands (anyMove origin faults waits)
      (fun _ d => Idle S (anyMove origin faults waits) d ∧ (e.call.publishArgs = none → ∃ ps, Restored S ps d))
      (fun r d => Resting S (anyMove origin faults waits) d ∧
        (e.call.publishArgs = none → Idle S (anyMove origin faults waits) m.state → ∀ t, r ≠ .raised t))
      (S.execute m e) := by
  have hreplay : ∀ d₀, Replayable S (anyMove origin faults waits) d₀ := fun _ =>
    ⟨fun _ _ _ _ _ _ _ _ _ _ _ => trivial, fun _ _ _ _ _ _ _ _ _ _ _ => trivial⟩
  have hpublish : ∀ d₀, Publishable S (anyMove origin faults waits) d₀ := fun _ =>
    ⟨fun _ _ _ _ => trivial, fun _ _ _ _ _ _ _ _ => trivial, fun _ _ _ _ _ _ _ _ => trivial⟩
  apply lands_execute (fun _ _ _ => trivial) _ _ hm hrest hfault
  · exact fun _ _ _ _ => hreplay _
  · exact fun _ _ _ _ _ _ _ => ⟨hreplay _, hpublish _⟩

/-- Every run leaves a disk at rest. -/
theorem resting_run
    (hfaults : ∀ e ∈ events, faults e.fault) :
    (anyMove origin faults waits).Trace ((S.run m events).state :: (S.run m events).past) ∧
      Resting S (anyMove origin faults waits) (S.run m events).state := by
  induction events generalizing m with
  | nil => exact ⟨hm, hrest⟩
  | cons e events ih =>
    rw [List.forall_mem_cons] at hfaults
    obtain ⟨hhistory, hpost⟩ := lands_execute_anyMove hm hrest hfaults.1
    apply ih hhistory _ hfaults.2
    cases hr : (S.execute m e).1 with
    | ok u =>
      rw [hr] at hpost
      exact Or.inl hpost.2.1
    | error r =>
      rw [hr] at hpost
      exact hpost.2.1

end

lemma idle_start : Idle S R start.state where
  unlocked := rfl
  sound := ⟨[], none, consistent_empty S⟩
  clear := fun _ _ hs => absurd hs (by simp [start, FactoryDisk.empty])
  bare := fun _ => rfl

lemma trace_start (horigin : origin start.state) :
    (anyMove origin faults waits).Trace (start.state :: start.past) :=
  trace_anyMove fun d hd => by
    obtain rfl : start.state = d := by simpa [start] using hd
    exact horigin

/-- A recovery that completes has started on an idle disk, and restored the chat. -/
theorem restored_of_recover {e : Event} (horigin : origin start.state)
    (hcall : e.call.publishArgs = none) (hfaults : ∀ e' ∈ events, faults e'.fault)
    (hfault : faults e.fault) (hok : (S.execute (S.run start events) e).1 = .ok ()) :
    Idle S (anyMove origin faults waits) (S.execute (S.run start events) e).2.state ∧
      ∃ ps, Restored S ps (S.execute (S.run start events) e).2.state := by
  obtain ⟨hm, hrest⟩ := resting_run (trace_start horigin) (Or.inl (idle_start (S := S))) hfaults
  obtain ⟨-, hpost⟩ := lands_execute_anyMove hm hrest hfault
  rw [hok] at hpost
  exact ⟨hpost.2.1, hpost.2.2 hcall⟩

end Runs

/-! ## The linked chat -/

/-- The chat a reader finds: the committed transactions' messages, numbered and linked, and
the head of the last one. -/
structure LinkedChat (S : HarnessFactoryTransactionStore) (d : FactoryDisk)
    (shown : List HarnessFactoryMessage) : Prop where
  visible : messages d = .ok shown
  transactions : shown.map (·.transactionId) = (committedIntents d).map (·.transactionId)
  digests : shown.map S.digests.message = (committedIntents d).map (·.messageDigest)
  index : ∀ i (m : HarnessFactoryMessage), shown[i]? = some m → m.messageIndex = i
  parent : ∀ i m, shown[i]? = some m →
    m.parentMessageId = (if i = 0 then none else shown[i - 1]?).map (·.messageId)
  prior : ∀ i m, shown[i]? = some m →
    m.priorActiveReleaseDigest = (if i = 0 then none else shown[i - 1]?).map (·.newReleaseDigest)
  pointer : d.pointer.map (fun x => (x.releaseDigest, x.manifestDigest)) =
    shown.getLast?.map fun m => (m.newReleaseDigest, m.newManifestDigest)
  chat : d.chat.map (fun c => (c.messageCount, c.lastMessageId, c.activeReleaseDigest)) =
    shown.getLast?.map fun m => (shown.length, some m.messageId, m.newReleaseDigest)

/-- With at most 10000 messages the directory names sort by message number. -/
lemma messageDirName_lt {p p' : HarnessFactoryPrepare}
    (hlt : p.message.messageIndex < p'.message.messageIndex)
    (hlen : p'.message.messageIndex < 10000) :
    messageDirName p.message < messageDirName p'.message := by
  rw [String.lt_iff_toList_lt]
  unfold messageDirName
  simp only [String.toList_append, toList_zeroPad, List.append_assoc]
  exact zeroPadChars_append_lt (by decide) hlt (by simpa using hlen) _ _

lemma pairwise_messageDirName (hlinked : Linked ps) (hlen : ps.length ≤ 10000) :
    ps.Pairwise fun p p' => messageDirName p.message < messageDirName p'.message := by
  rw [List.pairwise_iff_getElem]
  intro i j hi hj hij
  have hindex := (hlinked i ps[i] (List.getElem?_eq_getElem hi)).index_eq
  have hindex' := (hlinked j ps[j] (List.getElem?_eq_getElem hj)).index_eq
  apply messageDirName_lt
  · omega
  · omega

/-- The message directories are those of the committed transactions. -/
lemma Restored.entries_perm (h : Restored S ps d) (hlen : ps.length ≤ 10000) :
    d.messages.entries.Perm (ps.map fun p => (messageDirName p.message, fullDir p)) := by
  have hlinked : Linked ps := (h.consistent.linked hlen).left
  rw [List.perm_ext_iff_of_nodup]
  · rintro ⟨name, dir⟩
    rw [← Dict.get?_eq_some_iff, List.mem_map]
    constructor
    · intro hget
      obtain ⟨p, hp, rfl, rfl⟩ := h.consistent.messages _ _ hget
      exact ⟨p, hp, rfl⟩
    · rintro ⟨p, hp, heq⟩
      rw [Prod.mk.injEq] at heq
      rw [← heq.1, ← heq.2]
      exact h.messages p hp
  · exact List.Nodup.of_map _ d.messages.nodup
  · apply List.Nodup.of_map Prod.fst
    rw [List.map_map, List.Nodup, List.pairwise_map]
    exact (pairwise_messageDirName hlinked hlen).imp fun hlt => ne_of_lt hlt

/-- A reader lists the directories of transactions in the order of their names. -/
lemma messages_eq_of_perm (hperm : d.messages.entries.Perm
      (ps.map fun p => (messageDirName p.message, fullDir p)))
    (hnames : ps.Pairwise fun p p' => messageDirName p.message < messageDirName p'.message)
    (hclear : Clear d.temps) :
    HarnessFactoryTransactionStore.messages d = .ok (ps.map (·.message)) := by
  have hsort : d.messages.entries.insertionSort (fun e e' => e.1 ≤ e'.1) =
      ps.map fun p => (messageDirName p.message, fullDir p) := by
    have : Std.Total fun e e' : String × MessageDir => e.1 ≤ e'.1 := ⟨fun _ _ => le_total _ _⟩
    have : IsTrans (String × MessageDir) fun e e' => e.1 ≤ e'.1 := ⟨fun _ _ _ => le_trans⟩
    have hsorted := (List.perm_insertionSort (fun e e' : String × MessageDir => e.1 ≤ e'.1)
      d.messages.entries).trans hperm
    apply List.Perm.eq_of_pairwise ?_ (List.pairwise_insertionSort _ _) ?_ hsorted
    · -- a name belongs to one directory
      rintro ⟨name, dir⟩ ⟨name', dir'⟩ he he' hle hge
      obtain rfl : name = name' := le_antisymm hle hge
      have hget := Dict.get?_eq_some_iff.mpr ((List.perm_insertionSort _ _).mem_iff.mp he)
      have hget' := Dict.get?_eq_some_iff.mpr (hperm.mem_iff.mpr he')
      rw [hget, Option.some.injEq] at hget'
      rw [hget']
    · rw [List.pairwise_map]
      exact hnames.imp fun hlt => le_of_lt hlt
  have htemps : d.temps.filterMap (·.message) = [] := List.filterMap_eq_nil_iff.mpr hclear
  unfold HarnessFactoryTransactionStore.messages
  simp only [hsort, List.map_map, List.filterMap_append, htemps, List.nil_append]
  rw [List.filterMap_map, mapM_eq_ok_iff]
  have hwhole : ps.filterMap ((fun s : MessageDir => s.message) ∘ (Prod.snd ∘ fun p =>
      (messageDirName p.message, fullDir p))) = ps.map fun p => .whole p.message := by
    rw [← List.filterMap_eq_map]
    rfl
  rw [hwhole, List.forall₂_map_left_iff, List.forall₂_map_right_iff]
  exact List.forall₂_same.mpr fun p _ => rfl

/-- A reader finds the messages in the order of their commit intents. -/
theorem Restored.messages_eq (h : Restored S ps d) (hclear : Clear d.temps)
    (hlen : ps.length ≤ 10000) : HarnessFactoryTransactionStore.messages d = .ok (ps.map (·.message)) :=
  messages_eq_of_perm (h.entries_perm hlen)
    (pairwise_messageDirName (h.consistent.linked hlen).left hlen) hclear

theorem Restored.linkedChat (h : Restored S ps d) (hclear : Clear d.temps)
    (hlen : ps.length ≤ 10000) : LinkedChat S d (ps.map (·.message)) := by
  have hlinked : Linked ps := (h.consistent.linked hlen).left
  obtain ⟨hpointer, hchat⟩ := h.head hlen
  -- the transaction behind a message, and the one before it
  have hget : ∀ (i : ℕ) (m : HarnessFactoryMessage), (ps.map (·.message))[i]? = some m →
      ∃ p, ps[i]? = some p ∧ p.message = m := by
    intro i m hm
    rwa [List.getElem?_map, Option.map_eq_some_iff] at hm
  have hbefore : ∀ i, (if i = 0 then none else (ps.map (·.message))[i - 1]?) =
      (if i = 0 then none else ps[i - 1]?).map (·.message) := by
    intro i
    by_cases hi : i = 0
    · simp [hi]
    · simp [hi, List.getElem?_map]
  refine ⟨h.messages_eq hclear hlen, ?_, ?_, ?_, ?_, ?_, ?_, ?_⟩
  · rw [h.consistent.committedIntents_eq, List.map_map, List.map_map]
    exact List.map_congr_left fun p _ => p.message_transaction
  · rw [h.consistent.committedIntents_eq, List.map_map, List.map_map]
    rfl
  · intro i m hm
    obtain ⟨p, hp, rfl⟩ := hget i m hm
    exact (hlinked i p hp).index_eq
  · intro i m hm
    obtain ⟨p, hp, rfl⟩ := hget i m hm
    rw [hbefore, Option.map_map]
    exact (hlinked i p hp).parent
  · intro i m hm
    obtain ⟨p, hp, rfl⟩ := hget i m hm
    rw [hbefore, Option.map_map]
    exact (hlinked i p hp).release
  · rw [hpointer, List.getLast?_map, Option.map_map, Option.map_map]
    congr 1
    funext p
    exact Prod.ext p.message_release p.message_manifest
  · rw [hchat, List.getLast?_map, Option.map_map, Option.map_map]
    cases hlast : ps.getLast? with
    | none => rfl
    | some p =>
      have hcount : p.nextChat.messageCount = (ps.map (·.message)).length := by
        rw [List.length_map]
        exact hlinked.count_last hlast
      exact congrArg some (Prod.ext hcount (Prod.ext p.chat_message p.chat_release))

/-! ## Recovering again -/

/-- A restored disk while a second recovery replays `before` on it. -/
def replayedOn (d : FactoryDisk) (ps before : List HarnessFactoryPrepare) : FactoryDisk :=
  { locked d with pointer := headPointer d ps before, chat := headChat d ps before }

section Again

variable {T : FactoryRules} {E : Stop FactoryError → FactoryDisk → Prop}

section

variable (hT : ∀ d d', T.moves d d')
include hT

/-- A step whose interruption does not matter. -/
lemma triple_step_free {P Q : FactoryDisk → Prop} {i : FactoryStep}
    {torn f : FactoryDisk → FactoryDisk} (hQ : ∀ d, P d → Q (f d))
    (hE : ∀ kind d, T.allowed i kind → E kind.stop d) :
    Triple T P (.step i torn f) (fun _ => Q) E := by
  apply Triple.step hQ
  · exact fun d _ => hT _ _
  · exact fun d kind _ hallowed _ => hE kind d hallowed
  · exact fun d _ hallowed => ⟨hT _ _, hE .tear _ hallowed⟩

/-- Replaying a shown transaction only touches the head. -/
theorem triple_recoverPrepare_again (hE : ∀ r d, E r d)
    (h : Restored S ps d) (hp : p ∈ ps) (before : List HarnessFactoryPrepare)
    (clock : FactoryClock) :
    Triple T (· = replayedOn d ps before) (S.recoverPrepare clock p.transactionId)
      (fun _ d' => d' = replayedOn d ps (before ++ [p])) E := by
  have hread := h.consistent.get_prepare (List.mem_append_left _ hp)
  have hmarker : d.committed.get? p.transactionId ≠ none := by
    rw [Ne, Dict.get?_eq_none_iff, not_not]
    exact h.markers p hp
  have hstep : ∀ {i torn f} {d₀ d₁ : FactoryDisk}, d₁ = f d₀ →
      Triple T (· = d₀) (.step i torn f) (fun _ d => d = d₁) E := by
    intro i torn f d₀ d₁ heq
    apply triple_step_free hT
    · rintro _ rfl
      exact heq.symm
    · exact fun _ _ _ => hE _ _
  unfold recoverPrepare
  apply Triple.read_bind
  rintro _ rfl
  simp only [replayedOn, locked, hread, readFile]
  apply Triple.pure_bind
  apply Triple.read_bind
  rintro _ rfl
  simp only [h.consistent.get_intent hp]
  apply Triple.pure_bind
  apply Triple.check_ok_bind (commitIntent_matches p)
  apply Triple.bind (M := fun _ d' => d' =
    { replayedOn d ps before with pointer := some (activePointer p.materialized) })
  · unfold advancePointer
    apply Triple.bind (hstep rfl)
    intro _
    apply Triple.bind (M := fun _ d' => d' =
      { replayedOn d ps before with pointer := some (activePointer p.materialized) })
    · apply Triple.check
      · rintro _ _ _ rfl
        rfl
      · exact fun _ _ _ _ => hE _ _
    intro _
    exact Triple.pure fun _ hd => hd
  intro pointer
  apply Triple.bind (M := fun _ d' => d' =
    { replayedOn d ps before with pointer := some (activePointer p.materialized) })
  · -- the message is visible already
    unfold publishMessage
    apply Triple.read_bind
    rintro _ rfl
    simp only [replayedOn, locked, h.messages p hp, fullDir, readFile]
    apply Triple.pure_bind
    apply Triple.check
    · exact fun _ _ _ hd => hd
    · exact fun _ _ _ _ => hE _ _
  intro _
  apply Triple.bind (M := fun _ d' => d' = replayedOn d ps (before ++ [p]))
  · apply hstep
    unfold replayedOn
    rw [headPointer_append hp, headChat_append hp]
  intro _
  apply Triple.read_bind
  rintro _ rfl
  have hmarked : ¬(replayedOn d ps (before ++ [p])).committed.get? p.transactionId = none := hmarker
  simp only [if_neg hmarked]
  exact Triple.pure fun _ hd => hd

theorem triple_recoverUnlocked_again (hE : ∀ r d, E r d)
    (h : Restored S ps d) (hlen : ps.length ≤ 10000) (clock : FactoryClock) :
    Triple T (· = locked d) (S.recoverUnlocked clock) (fun _ d' => d' = locked d) E := by
  have hids : (ps.map (·.transactionId)).Perm (sortedPrepares (locked d)) := by
    have hkeys := h.consistent.keys_prepares
    rw [Option.toList_none, List.append_nil] at hkeys
    rw [← hkeys]
    exact (sortedPrepares_perm (locked d)).symm
  obtain ⟨order, hperm, hsorted⟩ := exists_perm_map_eq hids
  -- the loop replays the committed transactions in their order
  have hcommitted : committedAmong ps order = ps :=
    committedAmong_order h.consistent (committedAmong_perm h.consistent (by simpa using hperm))
      (pairwise_committedAmong hsorted) hlen
  unfold recoverUnlocked
  apply Triple.read_bind
  rintro _ rfl
  apply Triple.bind (M := fun _ d' => d' = replayedOn d ps order)
  · rw [← hsorted, Prog.forM_map]
    apply (Triple.forM (I := fun before d' => d' = replayedOn d ps before) ?_).pre
    · rintro _ rfl
      rfl
    · intro before p after heq
      have hp : p ∈ ps := by
        rw [← hperm.mem_iff, heq]
        simp
      exact triple_recoverPrepare_again hT hE h hp before clock
  intro _
  apply Triple.read_bind
  intro d' hd'
  apply Triple.pure
  rintro _ rfl
  -- the last transaction replayed is the head
  obtain ⟨hpointer, hchat⟩ := h.head hlen
  rw [hd']
  unfold replayedOn headPointer headChat
  rw [hcommitted, ← hpointer, ← hchat, Option.or_self, Option.or_self]
  rfl

/-- A second recovery that completes changes nothing. -/
theorem triple_recover_again (hE : ∀ r d, E r d) (hidle : Idle S R d)
    (h : Restored S ps d) (hlen : ps.length ≤ 10000) (clock : FactoryClock) :
    Triple T (· = d) (S.recover clock) (fun _ d' => d' = d) E := by
  unfold recover
  apply Triple.read_bind
  intro d₀ hd₀
  by_cases hroot : d₀.root = false
  · simp only [if_pos hroot]
    apply Triple.pure
    rintro _ rfl
    exact hd₀
  simp only [if_neg hroot]
  rw [hd₀, Bool.not_eq_false] at hroot
  unfold withWriterLock
  apply Triple.bind (M := fun _ d' => d' = { d with root := true })
  · apply triple_step_free hT
    · rintro _ rfl
      rw [hd₀]
    · exact fun _ _ _ => hE _ _
  intro _
  have hunlock : { locked d with lock := false } = d := by
    unfold locked
    rw [← hidle.unlocked, ← hroot]
  have hlocked : Triple T (· = { d with root := true })
      (.withLock writerLock (S.recoverUnlocked clock))
      (fun _ d' => d'.lock = false ∧ { d' with lock := false } = d)
      (Lib.Outside (fun d' => d'.lock = false) (fun _ => True) fun _ => True) := by
    apply Triple.withLock (I := fun _ => True)
    · rintro _ rfl
      exact ⟨hidle.unlocked, hidle.unlocked⟩
    · exact fun _ _ => ⟨hT _ _, trivial⟩
    · intro _
      apply (triple_recoverUnlocked_again hT (E := fun _ _ => True) _ h hlen clock).conseq
      · rintro _ ⟨_, rfl, rfl⟩
        rfl
      · rintro _ _ rfl
        exact ⟨trivial, hunlock⟩
      · intro r _ _
        cases r with
        | raised e => exact ⟨trivial, trivial⟩
        | exception => trivial
        | baseException => trivial
        | killed => trivial
      · exact fun _ _ => trivial
    · exact fun _ _ => ⟨trivial, hT _ _, hT _ _, rfl⟩
    · exact fun _ _ hd => hd
  apply hlocked.conseq
  · exact fun _ hd => hd
  · rintro _ d' ⟨hlock, rfl⟩
    rw [← hlock]
  · exact fun _ _ _ => hE _ _

end

end Again

/-! ## Interrupted runs -/

/-- A digest, for the runs on fixed inputs. -/
def sampleDigest : String := String.ofList (List.replicate 64 'a')

def sampleStore : HarnessFactoryTransactionStore where
  projectRoot := "project"
  digests :=
    { chatIdentity := fun _ => sampleDigest
      messageSeed := fun i => i.promptText ++ sampleDigest
      message := fun m => m.promptText
      chat := fun c => toString c.messageCount
      prepare := fun p => p.transactionId
      intent := fun i => i.transactionId }
  materializeHarnessRelease := fun r =>
    ⟨⟨toString r.selectionDecisions.length, sampleDigest, sampleDigest, sampleDigest, sampleDigest,
      r.epochManifestDigest⟩⟩
  assertPublicPrompt := .ok

def sampleClock : FactoryClock := ⟨0, 0, fun _ => 0⟩

/-- The first message of a chat. -/
def firstMessage (fault : Option (Fault FactoryStep)) : Event where
  call := .createInitialChat ⟨"epoch", []⟩ "a" none sampleDigest [sampleDigest] none
  clock := sampleClock
  fault := fault

def recovery : Event where
  call := .recover
  clock := sampleClock

/-- A call that an exception may interrupt. -/
def Interruptible (e : Event) : Prop :=
  ∀ ft, e.fault = some ft → ft.kind = .exception ∨ ft.kind = .baseException

/-- No exception past `except Exception` strikes between the message file of a hidden directory
and the rename of the directory. -/
def CleansUp (e : Event) : Prop :=
  ∀ ft, e.fault = some ft → ft.kind = .baseException →
    ft.step ≠ .publishPrompt ∧ ft.step ≠ .renameTemp

/-- The rules for such calls. -/
def interrupted : FactoryRules :=
  anyMove (fun d => Clear d.temps) (fun f => ∀ ft, f = some ft → (ft.kind = .exception ∨ ft.kind = .baseException) ∧
    (ft.kind = .baseException → ft.step ≠ .publishPrompt ∧ ft.step ≠ .renameTemp)) (by
      intro i k kind h ft hft
      obtain rfl := Option.some.inj hft
      exact h ⟨i, k + 1, kind⟩ rfl)

lemma clear_start : Clear start.state.temps := fun _ hs =>
  absurd hs (by simp [start, FactoryDisk.empty])

lemma clean_interrupted : Clean interrupted where
  origin := fun _ hd => hd
  none := fun ft hft => absurd hft (by simp)
  publishPrompt := fun h => ((h _ rfl).2 rfl).1 rfl
  renameTemp := fun h => ((h _ rfl).2 rfl).2 rfl

/-- Crash consistency: after any interrupted calls, a recovery that completes leaves the linked
chat of the committed transactions, and a second one changes nothing. -/
theorem recover_linkedChat (S : HarnessFactoryTransactionStore) (events : List Event) (e : Event)
    (hcall : e.call = .recover) (hevents : ∀ e' ∈ e :: events, Interruptible e' ∧ CleansUp e')
    (hok : (S.execute (S.run start events) e).1 = .ok ())
    (hlen : (committedIntents (S.execute (S.run start events) e).2.state).length ≤ 10000) :
    (∃ shown, LinkedChat S (S.execute (S.run start events) e).2.state shown) ∧
      ∀ e' : Event, e'.call = .recover →
        (S.execute (S.execute (S.run start events) e).2 e').1 = .ok () →
        (S.execute (S.execute (S.run start events) e).2 e').2.state =
          (S.execute (S.run start events) e).2.state := by
  have hfaults : ∀ e' ∈ e :: events, interrupted.pending e'.fault := fun e' he' ft hft =>
    ⟨(hevents e' he').1 ft hft, (hevents e' he').2 ft hft⟩
  rw [List.forall_mem_cons] at hfaults
  have hargs : e.call.publishArgs = none := by
    rw [hcall]
    rfl
  obtain ⟨hidle, ps, hps⟩ : Idle S interrupted (S.execute (S.run start events) e).2.state ∧
      ∃ ps, Restored S ps (S.execute (S.run start events) e).2.state :=
    restored_of_recover clear_start hargs hfaults.2 hfaults.1 hok
  rw [hps.consistent.committedIntents_eq, List.length_map] at hlen
  refine ⟨⟨_, hps.linkedChat (hidle.clear clean_interrupted) hlen⟩, ?_⟩
  intro e' hcall' hok'
  have htriple : Triple (anyMove (fun _ => True) (fun _ => True) fun _ _ _ h => h)
      (· = (S.execute (S.run start events) e).2.state) (S.program e')
      (fun _ d' => d' = (S.execute (S.run start events) e).2.state) fun _ _ => True := by
    unfold program
    rw [hcall']
    apply Triple.bind (triple_recover_again (fun _ _ => trivial) (fun _ _ => trivial) hidle hps hlen
      e'.clock)
    intro _
    exact Triple.pure fun _ hd => hd
  have hlands := htriple { (S.execute (S.run start events) e).2 with fault := e'.fault }
    ⟨trivial, trace_anyMove fun _ _ => trivial⟩ rfl
  obtain ⟨-, hpost⟩ := hlands
  have hok'' : (S.program e' { (S.execute (S.run start events) e).2 with fault := e'.fault }).1 =
    .ok () := hok'
  rw [hok''] at hpost
  exact hpost.2

/-- A first message whose copy fails, and a recovery. -/
theorem recover_linkedChat_copy_failed :
    (∃ shown, LinkedChat sampleStore (sampleStore.execute (sampleStore.run start
      [firstMessage (some ⟨.publishPrompt, 0, .exception⟩)]) recovery).2.state shown) ∧
      ∀ e' : Event, e'.call = .recover →
        (sampleStore.execute (sampleStore.execute (sampleStore.run start
          [firstMessage (some ⟨.publishPrompt, 0, .exception⟩)]) recovery).2 e').1 = .ok () →
        (sampleStore.execute (sampleStore.execute (sampleStore.run start
          [firstMessage (some ⟨.publishPrompt, 0, .exception⟩)]) recovery).2 e').2.state =
          (sampleStore.execute (sampleStore.run start
            [firstMessage (some ⟨.publishPrompt, 0, .exception⟩)]) recovery).2.state := by
  have hrun : (sampleStore.execute (sampleStore.run start
        [firstMessage (some ⟨.publishPrompt, 0, .exception⟩)]) recovery).1 = .ok () ∧
      (committedIntents (sampleStore.execute (sampleStore.run start
        [firstMessage (some ⟨.publishPrompt, 0, .exception⟩)]) recovery).2.state).length ≤ 10000 := by
    decide +kernel
  apply recover_linkedChat sampleStore [firstMessage (some ⟨.publishPrompt, 0, .exception⟩)] recovery
    rfl _ hrun.1 hrun.2
  · intro e' he'
    rcases List.mem_pair.mp he' with rfl | rfl
    · exact ⟨fun ft hft => absurd hft (by simp [recovery]),
        fun ft hft => absurd hft (by simp [recovery])⟩
    · refine ⟨fun ft hft => ?_, fun ft hft hkind => ?_⟩
      · obtain rfl := Option.some.inj hft
        exact Or.inl rfl
      · obtain rfl := Option.some.inj hft
        exact absurd hkind (by decide)

/-- An exception past `except Exception` in the same place: the message is listed twice. -/
theorem recover_linkedChat_copy_interrupted :
    ¬∀ (S : HarnessFactoryTransactionStore) (events : List Event) (e : Event), e.call = .recover →
      (∀ e' ∈ e :: events, Interruptible e') →
      (S.execute (S.run start events) e).1 = .ok () →
      (committedIntents (S.execute (S.run start events) e).2.state).length ≤ 10000 →
      ∃ shown, LinkedChat S (S.execute (S.run start events) e).2.state shown := by
  intro hclaim
  have hinterruptible : ∀ e' ∈ recovery :: [firstMessage (some ⟨.publishPrompt, 0, .baseException⟩)],
      Interruptible e' := by
    intro e' he' ft hft
    rcases List.mem_pair.mp he' with rfl | rfl
    · exact absurd hft (by simp [recovery])
    · obtain rfl := Option.some.inj hft
      exact Or.inr rfl
  obtain ⟨hok, hlen, hindexes⟩ : (sampleStore.execute (sampleStore.run start
        [firstMessage (some ⟨.publishPrompt, 0, .baseException⟩)]) recovery).1 = .ok () ∧
      (committedIntents (sampleStore.execute (sampleStore.run start
        [firstMessage (some ⟨.publishPrompt, 0, .baseException⟩)]) recovery).2.state).length ≤
          10000 ∧
      (messages (sampleStore.execute (sampleStore.run start
        [firstMessage (some ⟨.publishPrompt, 0, .baseException⟩)]) recovery).2.state).map
          (fun l => l.map fun m => m.messageIndex) = .ok [0, 0] := by
    decide +kernel
  obtain ⟨shown, hlinked⟩ := hclaim sampleStore
    [firstMessage (some ⟨.publishPrompt, 0, .baseException⟩)] recovery rfl hinterruptible hok hlen
  rw [hlinked.visible] at hindexes
  have hshown : shown.map (fun m => m.messageIndex) = [0, 0] := Except.ok.inj hindexes
  obtain ⟨m, hm, hzero⟩ : ∃ m : HarnessFactoryMessage, shown[1]? = some m ∧ m.messageIndex = 0 := by
    have hget : (shown.map fun m => m.messageIndex)[1]? = some 0 := by rw [hshown]; rfl
    rwa [List.getElem?_map, Option.map_eq_some_iff] at hget
  have hone := hlinked.index 1 m hm
  omega

end HarnessFactoryTransactionStore
end Agintor.Storage
