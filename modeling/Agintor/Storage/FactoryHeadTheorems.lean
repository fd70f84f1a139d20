import Agintor.Storage.FactoryCrashTheorems

/-!
# The head of the factory chat

Readers load `active_release.json` and `chat.json` without the lock, so that every step counts.
Each recovery replays all committed transactions and takes the head through all of them. It
stays where it belongs only as long as no later transaction than the first one has been shown.
-/

namespace Agintor.Storage

open Agintor.Core Lib

namespace HarnessFactoryTransactionStore

variable {S : HarnessFactoryTransactionStore} {ps : List HarnessFactoryPrepare}
  {q : Option HarnessFactoryPrepare} {p : HarnessFactoryPrepare} {d d' : FactoryDisk}

/-! ## The head that is shown -/

/-- The release that `active_release.json` names. -/
def shownRelease (d : FactoryDisk) : Option String := d.pointer.map (·.releaseDigest)

/-- The message count of `chat.json`. -/
def shownCount (d : FactoryDisk) : ℕ := (d.chat.map (·.messageCount)).getD 0

/-- The release of the transaction whose commit intent was written last. -/
def lastRelease (d : FactoryDisk) : Option String :=
  (committedIntents d).getLast?.map (·.newReleaseDigest)

/-- The release of the transaction before that one. -/
def previousRelease (d : FactoryDisk) : Option String :=
  (committedIntents d).dropLast.getLast?.map (·.newReleaseDigest)

/-- The head is that of the last committed transaction or of the one before it. -/
structure Current (d : FactoryDisk) : Prop where
  release : shownRelease d = lastRelease d ∨ shownRelease d = previousRelease d
  count : shownCount d = (committedIntents d).length ∨
    shownCount d + 1 = (committedIntents d).length

/-- From `d` to `d'` the head does not go back: the release changes only to that of the last
committed transaction, and the chat does not get shorter. -/
structure Forward (d d' : FactoryDisk) : Prop where
  release : shownRelease d' = shownRelease d ∨ shownRelease d' = lastRelease d'
  count : shownCount d ≤ shownCount d'

/-- No later transaction than the first one is shown. -/
structure ShowsAtMostFirst (d : FactoryDisk) : Prop where
  count : shownCount d ≤ 1
  release : ∀ r, shownRelease d = some r →
    (committedIntents d).head?.map (·.newReleaseDigest) = some r

lemma Keeps.shownRelease (h : Keeps d d') :
    HarnessFactoryTransactionStore.shownRelease d' = HarnessFactoryTransactionStore.shownRelease d := by
  unfold HarnessFactoryTransactionStore.shownRelease
  rw [h.pointer]

lemma Keeps.shownCount (h : Keeps d d') :
    HarnessFactoryTransactionStore.shownCount d' = HarnessFactoryTransactionStore.shownCount d := by
  unfold HarnessFactoryTransactionStore.shownCount
  rw [h.chat]

lemma Current.keeps (hk : Keeps d d') (h : Current d) : Current d' := by
  obtain ⟨hrelease, hcount⟩ := h
  unfold lastRelease previousRelease at hrelease
  refine ⟨?_, ?_⟩
  · unfold lastRelease previousRelease
    rw [hk.shownRelease, hk.intents]
    exact hrelease
  · rw [hk.shownCount, hk.intents]
    exact hcount

lemma ShowsAtMostFirst.keeps (hk : Keeps d d') (h : ShowsAtMostFirst d) : ShowsAtMostFirst d' := by
  refine ⟨?_, ?_⟩
  · rw [hk.shownCount]
    exact h.count
  · rw [hk.shownRelease, hk.intents]
    exact h.release

/-- While at most the first transaction is shown, at most two are committed. -/
lemma ShowsAtMostFirst.length_le (h : ShowsAtMostFirst d) (hcurrent : Current d) :
    (committedIntents d).length ≤ 2 := by
  have hshown := h.count
  rcases hcurrent.count with hcount | hcount
  · omega
  · omega

/-! ## Rules for the head -/

/-- The head stays current and does not go back. If a step is doomed, a fault strikes at it the
first time. -/
def headRules (doomed : Option FactoryStep) : FactoryRules where
  pending f := ∀ i ∈ doomed, ∃ kind, f = some ⟨i, 0, kind⟩
  origin := Current
  moves d d' := Current d → Current d' ∧ Forward d d'
  waits := by
    intro i k kind h j hj
    obtain ⟨kind', heq⟩ := h j hj
    exact absurd heq (by simp)

variable {doomed : Option FactoryStep}

lemma quiet_headRules : Quiet (headRules doomed) := by
  intro d d' hk hd
  refine ⟨hd.keeps hk, Or.inl hk.shownRelease, ?_⟩
  rw [hk.shownCount]

lemma not_clean_headRules : ¬Clean (headRules doomed) := by
  intro h
  cases doomed with
  | none => exact h.publishPrompt fun i hi => absurd hi (by simp)
  | some i =>
    obtain ⟨kind, heq⟩ := h.none i rfl
    exact absurd heq (by simp)

lemma not_passes_headRules {i : FactoryStep} : ¬(headRules (some i)).passes i := by
  rintro ⟨f, hf, hne⟩
  obtain ⟨kind, heq⟩ := hf i rfl
  exact hne kind heq

variable {m : Machine FactoryStep FactoryDisk} {doomed' : Option FactoryStep}
    {history : List FactoryDisk}

/-- What is at rest does not depend on the fault to come. -/
lemma Resting.headRules (h : Resting S (headRules doomed) d) :
    Resting S (HarnessFactoryTransactionStore.headRules doomed') d := by
  rcases h with hidle | habandoned
  · exact Or.inl ⟨hidle.unlocked, hidle.sound, fun hclean => absurd hclean not_clean_headRules,
      hidle.bare⟩
  · exact Or.inr habandoned

/-- A permitted history is current throughout and never goes back. -/
lemma current_of_trace (h : (headRules doomed).Trace history) :
    (∀ d ∈ history, Current d) ∧ history.IsChain fun d' d => Forward d d' := by
  induction history with
  | nil => exact ⟨by simp, .nil⟩
  | cons d past ih =>
    cases past with
    | nil => exact ⟨fun d' hd' => h.origin d' (by simpa using (List.mem_singleton.mp hd').symm),
        .singleton d⟩
    | cons d₁ past =>
      have hpast : (headRules doomed).Trace (d₁ :: past) := by
        refine ⟨?_, h.chain.tail⟩
        intro d' hd'
        exact h.origin d' (by rwa [List.getLast?_cons_cons])
      obtain ⟨hcurrent, hforward⟩ := ih hpast
      have hmove := h.chain.rel_head? (by rfl) (hcurrent d₁ List.mem_cons_self)
      exact ⟨List.forall_mem_cons.mpr ⟨hmove.1, hcurrent⟩, .cons_cons hmove.2 hforward⟩

/-! ## Steps of the head -/

/-- A step that only moves the pointer keeps the head as it should be, if the new release is
the last one, or the one before that and shown already. -/
lemma pointer_move {x : ActiveReleasePointer}
    (hlast : lastRelease d = some x.releaseDigest ∨
      previousRelease d = some x.releaseDigest ∧ shownRelease d = some x.releaseDigest) :
    (headRules doomed).moves d { d with pointer := some x } := by
  intro hcurrent
  rcases hlast with hlast | ⟨hprevious, hshown⟩
  · exact ⟨⟨Or.inl hlast.symm, hcurrent.count⟩, Or.inr hlast.symm, le_refl _⟩
  · exact ⟨⟨Or.inr hprevious.symm, hcurrent.count⟩, Or.inl hshown.symm, le_refl _⟩

/-- A step that only moves the chat to one with `k` messages. -/
lemma chat_move {x : HarnessFactoryChatManifest}
    (hcount : x.messageCount = (committedIntents d).length ∨
      x.messageCount + 1 = (committedIntents d).length)
    (hle : shownCount d ≤ x.messageCount) :
    (headRules doomed).moves d { d with chat := some x } := by
  intro hcurrent
  exact ⟨⟨hcurrent.release, hcount⟩, Or.inl rfl, hle⟩

variable {d₀ : FactoryDisk}

/-- Where the loop is when it is the turn of `p`. -/
lemma Round.split {order before after : List HarnessFactoryPrepare}
    (h : Round S d₀ ps q order before p after) (hp : p ∈ ps) (hlen : ps.length ≤ 10000) :
    ps = committedAmong ps before ++ p :: committedAmong ps after := by
  have horder := committedAmong_order h.consistent (committedAmong_perm h.consistent h.perm)
    (pairwise_committedAmong h.sorted) hlen
  have hcons : committedAmong ps (p :: after) = p :: committedAmong ps after := by
    unfold committedAmong
    rw [List.filter_cons_of_pos (by simpa using hp)]
  rw [h.order_eq] at horder
  unfold committedAmong at horder hcons ⊢
  rw [List.filter_append, hcons] at horder
  exact horder.symm

/-- While at most the first transaction is shown, the replay of the at most two committed ones
takes the head forward. -/
theorem replayable_headRules (hcurrent : Current d₀) (h : ShowsAtMostFirst d₀) :
    Replayable S (headRules doomed) d₀ := by
  have hlen : ∀ {ps q}, Consistent S d₀ ps q → ps.length ≤ 2 := by
    intro ps q hc
    have hle := h.length_le hcurrent
    rwa [hc.committedIntents_eq, List.length_map] at hle
  refine ⟨?_, ?_⟩
  · intro _ ps q order before p after d hround hp hshown
    have hle := hlen hround.consistent
    have hps := hround.split hp (by omega)
    have hintents₀ := hround.consistent.committedIntents_eq
    have hintents : committedIntents d = ps.map S.commitIntent := by rw [hshown.intents, hintents₀]
    have hrelease : (activePointer p.materialized).releaseDigest = p.message.newReleaseDigest :=
      p.message_release
    apply pointer_move
    unfold lastRelease previousRelease
    rw [hrelease, hintents]
    cases hafter : committedAmong ps after with
    | nil =>
      rw [hafter] at hps
      left
      rw [hps, List.map_append, List.map_singleton, List.getLast?_concat]
      rfl
    | cons p' rest =>
      -- `p` is the first of two, and what is shown is what was shown at the start
      rw [hafter] at hps
      have hlengths := congrArg List.length hps
      simp only [List.length_append, List.length_cons] at hlengths
      have hbefore : committedAmong ps before = [] := List.length_eq_zero_iff.mp (by omega)
      obtain rfl : rest = [] := List.length_eq_zero_iff.mp (by omega)
      rw [hbefore, List.nil_append] at hps
      right
      refine ⟨by rw [hps]; rfl, ?_⟩
      have hsame : shownRelease d = shownRelease d₀ := by
        unfold shownRelease
        rw [hshown.pointer_eq]
        unfold headPointer
        rw [hbefore]
        rfl
      obtain ⟨r, hr⟩ : ∃ r, shownRelease d₀ = some r := by
        rcases hcurrent.release with hlast | hprevious
        · exact ⟨_, by rw [hlast, lastRelease, hintents₀, hps]; rfl⟩
        · exact ⟨_, by rw [hprevious, previousRelease, hintents₀, hps]; rfl⟩
      have hfirst := h.release r hr
      rw [hintents₀, hps] at hfirst
      rw [hsame, hr]
      exact hfirst.symm
  · intro _ ps q order before p after d hround hp hshown
    have hle := hlen hround.consistent
    have hps := hround.split hp (by omega)
    have hlinked := (hround.consistent.linked (by omega)).left
    have hintents : (committedIntents d).length = ps.length := by
      rw [hshown.intents, hround.consistent.committedIntents_eq, List.length_map]
    -- the chat of a transaction counts the ones before it, and itself
    have hcount : p.nextChat.messageCount = (committedAmong ps before).length + 1 := by
      have hget := congrArg (fun l => l[(committedAmong ps before).length]?) hps
      simp only [List.getElem?_append_right, le_refl, Nat.sub_self, List.getElem?_cons_zero] at hget
      exact (hlinked _ p hget).count
    have hlengths := congrArg List.length hps
    simp only [List.length_append, List.length_cons] at hlengths
    apply chat_move
    · rw [hintents, hcount]
      omega
    · rw [hcount]
      unfold shownCount
      rw [hshown.chat_eq]
      unfold headChat
      cases hlast : (committedAmong ps before).getLast? with
      | none =>
        have hshown₀ := h.count
        unfold shownCount at hshown₀
        simp only [Option.map_none, Option.none_or]
        omega
      | some p' =>
        have hlinked' : Linked (committedAmong ps before) := by
          rw [hps] at hlinked
          exact hlinked.left
        have hcount' := hlinked'.count_last hlast
        simp only [Option.map_some, Option.some_or, Option.getD_some]
        omega

/-- A chat that is the last transaction's counts all of them. -/
lemma shownCount_eq (hlinked : Linked ps) (hchat : d.chat = ps.getLast?.map (·.nextChat)) :
    shownCount d = ps.length := by
  unfold shownCount
  rw [hchat]
  cases hlast : ps.getLast? with
  | none =>
    rw [List.getLast?_eq_none_iff.mp hlast]
    rfl
  | some p => exact hlinked.count_last hlast

/-- A new transaction takes a head that is up to date forward. -/
theorem publishable_headRules
    (hlen : (headRules doomed).passes .advancePointer → (committedIntents d₀).length ≤ 2) :
    Publishable S (headRules doomed) d₀ := by
  refine ⟨?_, ?_, ?_⟩
  · intro ps p d hpasses hle hc hhead hcurrent
    have hbound : ps.length ≤ 10000 := by
      by_cases hnil : ps = []
      · simp [hnil]
      · have htwo := hlen (hpasses hnil)
        omega
    obtain ⟨hpointer, hchat⟩ := hhead hbound
    have hlinked := (hc.linked hbound).left
    have hintents : committedIntents
        { d with intents := d.intents.set p.transactionId (.whole (S.commitIntent p)) } =
        ps.map S.commitIntent ++ [S.commitIntent p] := by
      have hkey : p.transactionId ∉ d.intents.keys := by
        rw [← Dict.get?_eq_none_iff]
        exact hc.get_intent_none hc.pending_fresh
      have hold := hc.committedIntents_eq
      unfold committedIntents Dict.values at hold ⊢
      rw [Dict.entries_set_of_not_mem hkey, List.map_append, List.filterMap_append, hold]
      rfl
    refine ⟨⟨Or.inr ?_, Or.inr ?_⟩, Or.inl rfl, le_refl _⟩
    · unfold previousRelease
      rw [hintents, List.dropLast_concat]
      show d.pointer.map (·.releaseDigest) = _
      rw [hpointer, List.getLast?_map, Option.map_map, Option.map_map]
      congr 1
      funext p'
      exact p'.message_release
    · rw [hintents, List.length_append, List.length_map, List.length_singleton]
      exact congrArg (· + 1) (shownCount_eq hlinked hchat)
  · intro hpasses ps p d hle hc hp hlatest
    have htwo := hlen hpasses
    obtain ⟨ps₀, rfl, hhead⟩ := hlatest (by omega)
    apply pointer_move
    left
    unfold lastRelease
    rw [hc.committedIntents_eq, List.map_append, List.map_singleton, List.getLast?_concat]
    exact congrArg some p.message_release.symm
  · intro hpasses ps p d hle hc hp hadvanced
    have htwo := hlen hpasses
    have hbound : ps.length ≤ 10000 := by omega
    obtain ⟨ps₀, rfl, hchat⟩ := hadvanced.chat hbound
    have hlinked := (hc.linked hbound).left
    have hcount : p.nextChat.messageCount = (ps₀ ++ [p]).length :=
      hlinked.count_last List.getLast?_concat
    apply chat_move
    · rw [hcount, hc.committedIntents_eq, List.length_map]
      exact Or.inl rfl
    · rw [hcount, List.length_append, List.length_singleton, shownCount_eq hlinked.left hchat]
      omega

/-! ## Runs -/

/-- The call gets to the first step of a replay, if there is something to replay: the disk is
not locked, the arguments are admitted, and no fault strikes earlier. -/
structure Replays (S : HarnessFactoryTransactionStore) (e : Event) (d : FactoryDisk) : Prop where
  unlocked : d.lock = false
  admitted : ∀ args, e.call.publishArgs = some args →
    Admitted S args ∧ ∀ kind, e.fault ≠ some ⟨.materialize, 0, kind⟩
  makeRoot : ∀ kind, e.fault ≠ some ⟨.makeRoot, 0, kind⟩
  createLock : ∀ kind, e.fault ≠ some ⟨.createLock, 0, kind⟩
  advancePointer : ∀ kind, e.fault ≠ some ⟨.advancePointer, 0, kind⟩

lemma keeps_locked (d : FactoryDisk) : Keeps d (locked d) := keeps_of_eq rfl rfl rfl rfl rfl

lemma trace_headRules (h : (headRules doomed).Trace history) : (headRules doomed').Trace history :=
  ⟨h.origin, h.chain⟩

/-- One call, under what is known of its fault. -/
lemma trace_execute_of_moves {e : Event} (hm : (headRules none).Trace (m.state :: m.past))
    (hrest : Resting S (headRules none) m.state) (hfault : (headRules doomed).pending e.fault)
    (hrecover : Idle S (headRules doomed) m.state → e.call.publishArgs = none →
      (headRules doomed).passes .makeRoot → (headRules doomed).passes .createLock →
      Replayable S (headRules doomed) (locked m.state))
    (hpublish : Idle S (headRules doomed) m.state → ∀ args, e.call.publishArgs = some args →
      Admitted S args → (headRules doomed).passes .materialize →
      (headRules doomed).passes .makeRoot → (headRules doomed).passes .createLock →
      Replayable S (headRules doomed) (locked m.state) ∧
        Publishable S (headRules doomed) (locked m.state)) :
    (headRules none).Trace ((S.execute m e).2.state :: (S.execute m e).2.past) ∧
      Resting S (headRules none) (S.execute m e).2.state := by
  obtain ⟨htrace, hpost⟩ := lands_execute quiet_headRules hrecover hpublish (trace_headRules hm)
    hrest.headRules hfault
  refine ⟨trace_headRules htrace, ?_⟩
  cases hr : (S.execute m e).1 with
  | ok u =>
    rw [hr] at hpost
    exact Resting.headRules (Or.inl hpost.2.1)
  | error r =>
    rw [hr] at hpost
    exact hpost.2.1.headRules

/-- One call keeps the history of the head as it should be. -/
theorem trace_execute {e : Event} (hm : (headRules none).Trace (m.state :: m.past))
    (hrest : Resting S (headRules none) m.state)
    (he : Replays S e m.state → ShowsAtMostFirst m.state) :
    (headRules none).Trace ((S.execute m e).2.state :: (S.execute m e).2.past) ∧
      Resting S (headRules none) (S.execute m e).2.state := by
  have hcurrent : Current (locked m.state) :=
    ((current_of_trace hm).1 _ List.mem_cons_self).keeps (keeps_locked _)
  have hdoomed : ∀ {i kind}, e.fault = some ⟨i, 0, kind⟩ → (headRules (some i)).pending e.fault := by
    intro i kind hfault j hj
    rw [Option.mem_some_iff] at hj
    exact ⟨kind, hj ▸ hfault⟩
  by_cases hroot : ∃ kind, e.fault = some ⟨.makeRoot, 0, kind⟩
  · obtain ⟨kind, hfault⟩ := hroot
    exact trace_execute_of_moves hm hrest (hdoomed hfault)
      (fun _ _ hpasses => absurd hpasses not_passes_headRules)
      fun _ _ _ _ _ hpasses => absurd hpasses not_passes_headRules
  by_cases hlock : ∃ kind, e.fault = some ⟨.createLock, 0, kind⟩
  · obtain ⟨kind, hfault⟩ := hlock
    exact trace_execute_of_moves hm hrest (hdoomed hfault)
      (fun _ _ _ hpasses => absurd hpasses not_passes_headRules)
      fun _ _ _ _ _ _ hpasses => absurd hpasses not_passes_headRules
  by_cases hadvance : ∃ kind, e.fault = some ⟨.advancePointer, 0, kind⟩
  · -- no replay can begin, and only a first message can be committed
    obtain ⟨kind, hfault⟩ := hadvance
    have hreplay : Replayable S (headRules (some .advancePointer)) (locked m.state) :=
      ⟨fun hpasses => absurd hpasses not_passes_headRules,
        fun hpasses => absurd hpasses not_passes_headRules⟩
    exact trace_execute_of_moves hm hrest (hdoomed hfault) (fun _ _ _ _ => hreplay)
      fun _ _ _ _ _ _ _ => ⟨hreplay,
        publishable_headRules fun hpasses => absurd hpasses not_passes_headRules⟩
  push Not at hroot hlock hadvance
  -- what is left gets to the replay, unless the disk is locked or the arguments are refused
  have hshown : m.state.lock = false → (∀ args, e.call.publishArgs = some args →
      Admitted S args ∧ ∀ kind, e.fault ≠ some ⟨.materialize, 0, kind⟩) →
      ShowsAtMostFirst (locked m.state) := fun hunlocked hadmitted =>
    (he ⟨hunlocked, hadmitted, hroot, hlock, hadvance⟩).keeps (keeps_locked _)
  by_cases hmaterialize : e.call.publishArgs ≠ none ∧ ∃ kind, e.fault = some ⟨.materialize, 0, kind⟩
  · obtain ⟨hargs, kind, hfault⟩ := hmaterialize
    exact trace_execute_of_moves hm hrest (hdoomed hfault) (fun _ hnone => absurd hnone hargs)
      fun _ _ _ _ hpasses => absurd hpasses not_passes_headRules
  · have hnone : (headRules none).pending e.fault := fun i hi => absurd hi (by simp)
    apply trace_execute_of_moves hm hrest hnone
    · intro hidle hargs _ _
      apply replayable_headRules hcurrent (hshown hidle.unlocked _)
      intro args hsome
      exact absurd (hargs.symm.trans hsome) (by simp)
    · intro hidle args hargs hadmitted _ _ _
      have hfirst := hshown hidle.unlocked fun args' hargs' => by
        rw [hargs, Option.some.injEq] at hargs'
        refine ⟨hargs' ▸ hadmitted, fun kind hfault => hmaterialize ⟨by simp [hargs], kind, hfault⟩⟩
      exact ⟨replayable_headRules hcurrent hfirst,
        publishable_headRules fun _ => hfirst.length_le hcurrent⟩

/-- The head never moves back in a run whose calls each start, if they get to a replay, on a
disk that shows at most the first transaction. -/
theorem head_never_moves_back (S : HarnessFactoryTransactionStore) (events : List Event)
    (hevents : ∀ before e after, events = before ++ e :: after →
      Replays S e (S.run start before).state → ShowsAtMostFirst (S.run start before).state) :
    (∀ d ∈ (S.run start events).state :: (S.run start events).past, Current d) ∧
      ((S.run start events).state :: (S.run start events).past).IsChain
        fun d' d => Forward d d' := by
  have hrun : (headRules none).Trace ((S.run start events).state :: (S.run start events).past) ∧
      Resting S (headRules none) (S.run start events).state := by
    induction events using List.reverseRecOn with
    | nil =>
      refine ⟨⟨?_, .singleton _⟩, Or.inl idle_start⟩
      intro d hd
      obtain rfl := Option.some.inj hd
      exact ⟨Or.inl rfl, Or.inl rfl⟩
    | append_singleton events e ih =>
      have hprefix := ih fun before e' after heq => hevents before e' (after ++ [e]) (by simp [heq])
      have hlast : S.run start (events ++ [e]) = (S.execute (S.run start events) e).2 := by
        unfold run
        rw [List.foldl_append]
        rfl
      rw [hlast]
      exact trace_execute hprefix.1 hprefix.2 (hevents events e [] rfl)
  exact current_of_trace hrun.1

/-- A first message and a recovery. -/
theorem head_never_moves_back_first :
    (∀ d ∈ (sampleStore.run start [firstMessage none, recovery]).state ::
      (sampleStore.run start [firstMessage none, recovery]).past, Current d) ∧
      ((sampleStore.run start [firstMessage none, recovery]).state ::
        (sampleStore.run start [firstMessage none, recovery]).past).IsChain
          fun d' d => Forward d d' := by
  have hfirst : shownCount (sampleStore.run start [firstMessage none]).state ≤ 1 ∧
      shownRelease (sampleStore.run start [firstMessage none]).state =
        (committedIntents (sampleStore.run start [firstMessage none]).state).head?.map
          fun i => i.newReleaseDigest := by
    decide +kernel
  apply head_never_moves_back
  intro before e after hsplit _
  match before with
  | [] => exact ⟨by decide, fun r hr => absurd hr (by simp [run, start, FactoryDisk.empty, shownRelease])⟩
  | [_] =>
    obtain ⟨rfl, -⟩ := List.cons.inj hsplit
    exact ⟨hfirst.1, fun r hr => hfirst.2.symm.trans hr⟩
  | _ :: _ :: before => simp at hsplit

/-- The second message of a chat. -/
def secondMessage : Event where
  call := .applyFollowup ⟨"epoch", [[]]⟩ "b" (messageName ("a" ++ sampleDigest)) none sampleDigest
    [sampleDigest] none
  clock := sampleClock

/-- With two messages shown, a recovery takes the chat back to the first one. -/
theorem head_moves_back_on_recovery :
    ¬∀ (S : HarnessFactoryTransactionStore) (events : List Event),
      (∀ d ∈ (S.run start events).state :: (S.run start events).past, Current d) ∧
        ((S.run start events).state :: (S.run start events).past).IsChain
          fun d' d => Forward d d' := by
  intro hclaim
  have hchain := (hclaim sampleStore [firstMessage none, secondMessage, recovery]).2
  have hcounts : (((sampleStore.run start [firstMessage none, secondMessage, recovery]).state ::
      (sampleStore.run start [firstMessage none, secondMessage, recovery]).past).map
        shownCount).Pairwise fun c' c => c ≤ c' :=
    (List.isChain_map_of_isChain shownCount (fun _ _ h => h.count) hchain).pairwise
  revert hcounts
  decide +kernel

end HarnessFactoryTransactionStore
end Agintor.Storage
