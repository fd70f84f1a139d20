import Agintor.Storage.FactoryCrashTheorems
import Agintor.Storage.HarnessSessionTheorems

/-!
# Recovery after a hard crash

Both stores mark their writer by a lock file that only the writer removes. A process that is
killed while it holds the lock leaves the file, and every later call is rejected. Recovery
after a kill is possible exactly when the lock file was not there yet, and then every
transaction is absent or complete.
-/

namespace Agintor.Storage

open Agintor.Core Lib

namespace HarnessFactoryTransactionStore

variable {S : HarnessFactoryTransactionStore} {ps : List HarnessFactoryPrepare} {d : FactoryDisk}

/-- No file belongs to the transaction. -/
structure Absent (d : FactoryDisk) (t : String) : Prop where
  prepare : d.prepares.get? t = none
  intent : d.intents.get? t = none
  marker : d.committed.get? t = none
  staging : d.staging.get? t = none
  message : ∀ name dir m, d.messages.get? name = some dir → dir.message = some (.whole m) →
    m.transactionId ≠ t

/-- Every record of the transaction `p` is there, and its message is visible. The last one
committed is the head. -/
structure Present (S : HarnessFactoryTransactionStore) (d : FactoryDisk)
    (p : HarnessFactoryPrepare) : Prop where
  prepare : d.prepares.get? p.transactionId = some (.whole p)
  intent : d.intents.get? p.transactionId = some (.whole (S.commitIntent p))
  message : d.messages.get? (messageDirName p.message) = some (fullDir p)
  marker : d.committed.get? p.transactionId ≠ none
  head : (committedIntents d).length ≤ 10000 →
    (committedIntents d).getLast? = some (S.commitIntent p) →
    d.pointer = some (activePointer p.materialized) ∧ d.chat = some p.nextChat

/-- A recovery by a new process completes, and leaves each transaction whole. -/
def Recovers (S : HarnessFactoryTransactionStore) (m : Machine FactoryStep FactoryDisk) : Prop :=
  ∀ clock, (S.execute m ⟨.recover, clock, none⟩).1 = .ok () ∧
    ∀ t, Absent (S.execute m ⟨.recover, clock, none⟩).2.state t ∨
      ∃ p, p.transactionId = t ∧ Present S (S.execute m ⟨.recover, clock, none⟩).2.state p

lemma Restored.present (h : Restored S ps d) {p : HarnessFactoryPrepare} (hp : p ∈ ps) :
    Present S d p := by
  have hc := h.consistent
  have hmem : p ∈ ps ++ (none : Option HarnessFactoryPrepare).toList := List.mem_append_left _ hp
  refine ⟨hc.get_prepare hmem, hc.get_intent hp, h.messages p hp, ?_, ?_⟩
  · rw [Ne, Dict.get?_eq_none_iff, not_not]
    exact h.markers p hp
  · intro hlen hlast
    rw [hc.committedIntents_eq, List.length_map] at hlen
    rw [hc.committedIntents_eq, List.getLast?_map, Option.map_eq_some_iff] at hlast
    obtain ⟨p', hlast', heq⟩ := hlast
    have hmem' : p' ∈ ps ++ (none : Option HarnessFactoryPrepare).toList :=
      List.mem_append_left _ (List.mem_of_getLast? hlast')
    obtain rfl := hc.eq_of_transactionId hmem' hmem (congrArg (·.transactionId) heq)
    obtain ⟨hpointer, hchat⟩ := h.head hlen
    rw [hpointer, hchat, hlast']
    exact ⟨rfl, rfl⟩

lemma Restored.absent_or_present (h : Restored S ps d) (t : String) :
    Absent d t ∨ ∃ p, p.transactionId = t ∧ Present S d p := by
  have hc := h.consistent
  have hsplit : ps ++ (none : Option HarnessFactoryPrepare).toList = ps := by simp
  by_cases ht : ∃ p ∈ ps, p.transactionId = t
  · obtain ⟨p, hp, rfl⟩ := ht
    exact Or.inr ⟨p, rfl, h.present hp⟩
  · push Not at ht
    refine Or.inl ⟨?_, ?_, ?_, ?_, ?_⟩
    · rw [Dict.get?_eq_none_iff, hc.keys_prepares, hsplit]
      intro hkey
      obtain ⟨p, hp, heq⟩ := List.mem_map.mp hkey
      exact ht p hp heq
    · rw [Dict.get?_eq_none_iff]
      unfold Dict.keys
      rw [hc.intents, List.map_map]
      intro hkey
      obtain ⟨p, hp, heq⟩ := List.mem_map.mp hkey
      exact ht p hp heq
    · by_contra hmarker
      obtain ⟨f, hf⟩ := Option.ne_none_iff_exists'.mp hmarker
      obtain ⟨p, hp, heq, -⟩ := hc.committed t f hf
      exact ht p hp heq
    · by_contra hstaging
      obtain ⟨s, hs⟩ := Option.ne_none_iff_exists'.mp hstaging
      obtain ⟨p, hp, heq, -⟩ := hc.staging t s hs
      rw [hsplit] at hp
      exact ht p hp heq
    · intro name dir m hdir hm heq
      obtain ⟨p, hp, -, rfl⟩ := hc.messages name dir hdir
      obtain rfl : p.message = m := by simpa [fullDir] using hm
      exact ht p hp (p.message_transaction.symm.trans heq)

/-- On a disk at rest, a recovery that nothing interrupts completes if no lock file is there. -/
theorem recovers_iff {m : Machine FactoryStep FactoryDisk}
    (hrest : Resting S (anyMove (fun _ => True) (fun _ => True) fun _ _ _ h => h) m.state) :
    Recovers S m ↔ m.state.lock = false := by
  -- the history is arbitrary, and so its hidden directories may hold anything
  let calm : FactoryRules := anyMove (fun _ => True) (· = none) (by simp)
  have hdirty : ¬Clean calm := by
    intro hclean
    have hclear := hclean.origin { FactoryDisk.empty with temps := [{ message := some .torn }] }
      trivial _ List.mem_cons_self
    exact absurd hclear (by simp)
  have hcalm : ∀ i kind, ¬calm.allowed i kind := fun i kind hallowed =>
    absurd hallowed (by simp [calm, Rules.allowed, anyMove])
  have hrest' : Resting S calm m.state := by
    rcases hrest with hidle | habandoned
    · exact Or.inl ⟨hidle.unlocked, hidle.sound, fun hclean => absurd hclean hdirty, hidle.bare⟩
    · exact Or.inr habandoned
  have hlands : ∀ clock, Lands calm
      (fun _ d => Idle S calm d ∧ (Call.recover.publishArgs = none → ∃ ps, Restored S ps d))
      (fun r d => Resting S calm d ∧
        (Call.recover.publishArgs = none → Idle S calm m.state → ∀ t, r ≠ .raised t))
      (S.execute m ⟨.recover, clock, none⟩) := fun clock =>
    lands_execute_anyMove (trace_anyMove fun _ _ => trivial) hrest' rfl
  constructor
  · intro hrecovers
    obtain ⟨hok, -⟩ := hrecovers ⟨0, 0, fun _ => 0⟩
    rcases hrest' with hidle | habandoned
    · exact hidle.unlocked
    · -- the lock rejects the call
      have hquiet : Quiet calm := fun _ _ _ => trivial
      obtain ⟨-, hpost⟩ := triple_program_abandoned hquiet (S := S)
        ⟨.recover, ⟨0, 0, fun _ => 0⟩, none⟩ { m with fault := none }
        ⟨rfl, trace_anyMove fun _ _ => trivial⟩ habandoned
      unfold execute at hok
      rw [hok] at hpost
      exact hpost.2.elim
  · intro hfree clock
    have hidle : Idle S calm m.state := by
      rcases hrest' with hidle | habandoned
      · exact hidle
      · exact absurd (habandoned.lock.symm.trans hfree) (by simp)
    obtain ⟨-, hpost⟩ := hlands clock
    cases hr : (S.execute m ⟨.recover, clock, none⟩).1 with
    | ok u =>
      rw [hr] at hpost
      obtain ⟨ps, hps⟩ := hpost.2.2 rfl
      exact ⟨rfl, hps.absent_or_present⟩
    | error r =>
      rw [hr] at hpost
      obtain ⟨hstruck, -, hnever⟩ := hpost
      have hpossible : ∀ r : Stop FactoryError, ¬calm.Possible r := by
        rintro r ⟨i, kind, hallowed, -⟩
        exact hcalm i kind hallowed
      cases r with
      | raised t => exact absurd rfl (hnever rfl hidle t)
      | exception => exact absurd hstruck.1 (hpossible _)
      | baseException => exact absurd hstruck.1 (hpossible _)
      | killed => exact absurd hstruck.1 (hpossible _)

/-- A publication that is killed. -/
def Killed (S : HarnessFactoryTransactionStore) (events : List Event) (e : Event) : Prop :=
  e.call.publishArgs ≠ none ∧ (S.execute (S.run start events) e).1 = .error .killed

theorem resting_killed (events : List Event) (e : Event) :
    Resting S (anyMove (fun _ => True) (fun _ => True) fun _ _ _ h => h)
      (S.execute (S.run start events) e).2.state := by
  have hall : Resting S (anyMove (fun _ => True) (fun _ => True) fun _ _ _ h => h)
      (S.run start (events ++ [e])).state :=
    (resting_run (trace_start trivial) (Or.inl idle_start) fun _ _ => trivial).2
  unfold run at hall ⊢
  rw [List.foldl_append] at hall
  exact hall

end HarnessFactoryTransactionStore

namespace HarnessSessionStore

variable {S : HarnessSessionStore} {d : SessionDisk}

/-- No record of the message is there. -/
structure Absent (d : SessionDisk) (m : HarnessSessionMessage) : Prop where
  prepare : prepareId m ∉ d.prepares.keys
  commit : commitId m ∉ d.commits.keys
  message : messageFile m ∉ d.messages.keys

/-- Every record of the message is there, and the manifest counts it. -/
structure Present (d : SessionDisk) (m : HarnessSessionMessage) : Prop where
  prepare : prepareId m ∈ d.prepares.keys
  commit : commitId m ∈ d.commits.keys
  message : messageFile m ∈ d.messages.keys
  manifest : ∃ manifest, d.manifest = some manifest ∧ m.sequence < manifest.messageCount

/-- A recovery by a new process completes, and leaves each message whole. -/
def Recovers (S : HarnessSessionStore) (m : Machine SessionStep SessionDisk) : Prop :=
  (S.execute m ⟨.recover none, none⟩).1 = .ok () ∧
    ∀ message, Absent (S.execute m ⟨.recover none, none⟩).2.state message ∨
      Present (S.execute m ⟨.recover none, none⟩).2.state message

/-- The names of the records of a message are one name, framed in three ways. -/
lemma names_eq {m m' : HarnessSessionMessage}
    (h : prepareId m = prepareId m' ∨ commitId m = commitId m' ∨ messageFile m = messageFile m') :
    prepareId m = prepareId m' ∧ commitId m = commitId m' ∧ messageFile m = messageFile m' := by
  unfold prepareId commitId messageFile at h ⊢
  simp only [String.append_assoc, String.append_right_inj] at h ⊢
  have hcore : zeroPad 6 m.sequence ++ ("." ++ m.messageId) =
      zeroPad 6 m'.sequence ++ ("." ++ m'.messageId) := by
    rcases h with h | h | h
    · exact h
    · exact h
    · simp only [← String.append_assoc, String.append_left_inj] at h ⊢
      exact h
  refine ⟨hcore, hcore, ?_⟩
  simp only [← String.append_assoc] at hcore ⊢
  rw [hcore]

lemma LinearHistory.absent_or_present {history : List HarnessSessionMessage}
    (h : LinearHistory S history d) (m : HarnessSessionMessage) : Absent d m ∨ Present d m := by
  have hvisible : ∀ name, name ∈ d.messages.keys ↔ ∃ m' ∈ history, name = messageFile m' := by
    intro name
    constructor
    · intro hname
      have hsome : d.messages.get? name ≠ none := fun hnone => Dict.get?_eq_none_iff.mp hnone hname
      obtain ⟨f, hf⟩ := Option.ne_none_iff_exists'.mp hsome
      obtain ⟨m', hm', hname', -⟩ := (h.visible name f).mp hf
      exact ⟨m', hm', hname'⟩
    · rintro ⟨m', hm', rfl⟩
      by_contra hname
      have hnone := Dict.get?_eq_none_iff.mpr hname
      have hsome := (h.visible _ _).mpr ⟨m', hm', rfl, rfl⟩
      exact absurd (hnone.symm.trans hsome) (by simp)
  by_cases hm : ∃ m' ∈ history, prepareId m = prepareId m'
  · obtain ⟨m', hm', hname⟩ := hm
    obtain ⟨hprepare, hcommit, hmessage⟩ := names_eq (Or.inl hname)
    obtain ⟨manifest, hmanifest, -, hcount, -⟩ := h.manifest
    refine Or.inr ⟨(h.prepared _).mpr ⟨m', hm', hprepare⟩, (h.committed _).mpr ⟨m', hm', hcommit⟩,
      (hvisible _).mpr ⟨m', hm', hmessage⟩, manifest, hmanifest, ?_⟩
    obtain ⟨i, hi⟩ := List.getElem?_of_mem hm'
    have hlt := (List.getElem?_eq_some_iff.mp hi).1
    have hsequence := (h.sequence i m' hi).1
    rw [prepareId_inj hname]
    omega
  · push Not at hm
    refine Or.inl ⟨?_, ?_, ?_⟩
    · intro hkey
      obtain ⟨m', hm', hname⟩ := (h.prepared _).mp hkey
      exact hm m' hm' hname
    · intro hkey
      obtain ⟨m', hm', hname⟩ := (h.committed _).mp hkey
      exact hm m' hm' (names_eq (Or.inr (Or.inl hname))).1
    · intro hkey
      obtain ⟨m', hm', hname⟩ := (hvisible _).mp hkey
      exact hm m' hm' (names_eq (Or.inr (Or.inr hname))).1

/-- On a disk at rest, a recovery that nothing interrupts completes if no lock file is there. -/
theorem recovers_iff {m₀ : HarnessSessionManifest} (hblank : Blank m₀)
    {m : Machine SessionStep SessionDisk} (hrest : Resting S m₀ m.state) :
    Recovers S m ↔ m.state.lock = false := by
  constructor
  · rintro ⟨hok, -⟩
    by_contra hlock
    rw [Bool.not_eq_false] at hlock
    obtain ⟨-, hpost⟩ := triple_program_abandoned (R := anyRules) S m₀
      ⟨.recover none, none⟩ { m with fault := none } (obeys_anyRules _) hlock
    unfold execute at hok
    rw [hok] at hpost
    exact hpost.2.elim
  · intro hfree
    have hidle : Idle S m₀ m.state := by
      rcases hrest with hidle | hlock
      · exact hidle
      · exact absurd (hlock.symm.trans hfree) (by simp)
    have hok := recover_returns hblank.version hidle
    obtain ⟨-, ⟨ps, hps⟩, -⟩ := restored_of_recover hblank.version hrest rfl hok
    exact ⟨hok, (hps.linearHistory hblank).absent_or_present⟩

/-- An append that is killed. -/
def Killed (S : HarnessSessionStore) (disk : SessionDisk) (events : List Event) (e : Event) : Prop :=
  e.call.recovers = false ∧ (S.execute (S.run { state := disk } events) e).1 = .error .killed

end HarnessSessionStore

/-- After a kill, as after any call, recovery is possible exactly when no lock file is there. -/
theorem recovers_of_killed_iff (F : HarnessFactoryTransactionStore)
    (publications : List HarnessFactoryTransactionStore.Event)
    (publication : HarnessFactoryTransactionStore.Event)
    (S : HarnessSessionStore) (projectDir digest sessionId : String)
    (limits : HarnessSessionLimits) (createdAt : ℕ) (disk : SessionDisk)
    (hcreate : HarnessSessionStore.createSession projectDir digest sessionId limits createdAt =
      .ok (S.sessionId, disk))
    (appends : List HarnessSessionStore.Event) (append : HarnessSessionStore.Event) :
    (F.Recovers (F.execute (F.run HarnessFactoryTransactionStore.start publications) publication).2 ↔
      (F.execute (F.run HarnessFactoryTransactionStore.start publications)
        publication).2.state.lock = false) ∧
    (S.Recovers (S.execute (S.run { state := disk } appends) append).2 ↔
      (S.execute (S.run { state := disk } appends) append).2.state.lock = false) := by
  constructor
  · exact HarnessFactoryTransactionStore.recovers_iff
      (HarnessFactoryTransactionStore.resting_killed publications publication)
  · obtain ⟨m₀, hblank, hidle⟩ := HarnessSessionStore.createSession_ok hcreate
    have hrest : S.Resting m₀ (S.run { state := disk } appends).state :=
      HarnessSessionStore.resting_run hblank.version (Or.inl hidle) appends
    exact HarnessSessionStore.recovers_iff hblank
      (HarnessSessionStore.resting_execute hblank.version hrest append).1

open HarnessFactoryTransactionStore (sampleStore sampleClock firstMessage) in
/-- A kill before the lock in either store: recovery completes. -/
theorem recovers_of_killed_before_lock :
    sampleStore.Recovers (sampleStore.execute (sampleStore.run HarnessFactoryTransactionStore.start [])
      (firstMessage (some ⟨.materialize, 0, .kill⟩))).2 ∧
    HarnessSessionStore.sampleSession.Recovers (HarnessSessionStore.sampleSession.execute
      (HarnessSessionStore.sampleSession.run { state := HarnessSessionStore.sampleDisk } [])
      (HarnessSessionStore.firstAppend (some ⟨.createLock, 0, .kill⟩))).2 := by
  have hfactory : (sampleStore.execute (sampleStore.run HarnessFactoryTransactionStore.start [])
        (firstMessage (some ⟨.materialize, 0, .kill⟩))).1 = .error .killed ∧
      (sampleStore.execute (sampleStore.run HarnessFactoryTransactionStore.start [])
        (firstMessage (some ⟨.materialize, 0, .kill⟩))).2.state.lock = false := by
    decide +kernel
  have hsession : HarnessSessionStore.createSession "project" HarnessSessionStore.sampleRelease
        "hsess.1" {} 0 = .ok (HarnessSessionStore.sampleSession.sessionId,
          HarnessSessionStore.sampleDisk) ∧
      (HarnessSessionStore.sampleSession.execute
        (HarnessSessionStore.sampleSession.run { state := HarnessSessionStore.sampleDisk } [])
        (HarnessSessionStore.firstAppend (some ⟨.createLock, 0, .kill⟩))).1 = .error .killed ∧
      (HarnessSessionStore.sampleSession.execute
        (HarnessSessionStore.sampleSession.run { state := HarnessSessionStore.sampleDisk } [])
        (HarnessSessionStore.firstAppend (some ⟨.createLock, 0, .kill⟩))).2.state.lock = false := by
    decide +kernel
  have hiff := recovers_of_killed_iff sampleStore [] (firstMessage (some ⟨.materialize, 0, .kill⟩))
    HarnessSessionStore.sampleSession _ _ _ _ _ _ hsession.1 []
    (HarnessSessionStore.firstAppend (some ⟨.createLock, 0, .kill⟩))
  exact ⟨hiff.1.mpr hfactory.2, hiff.2.mpr hsession.2.2⟩

open HarnessFactoryTransactionStore (sampleStore sampleClock firstMessage) in
/-- A kill at the first record in either store: every recovery is rejected. -/
theorem not_recovers_of_killed_at_prepare :
    ¬(∀ (S : HarnessFactoryTransactionStore) (events : List HarnessFactoryTransactionStore.Event)
        (e : HarnessFactoryTransactionStore.Event),
        HarnessFactoryTransactionStore.Killed S events e →
        S.Recovers (S.execute (S.run HarnessFactoryTransactionStore.start events) e).2) ∧
    ¬∀ (S : HarnessSessionStore) (projectDir digest sessionId : String)
        (limits : HarnessSessionLimits) (createdAt : ℕ) (disk : SessionDisk),
        HarnessSessionStore.createSession projectDir digest sessionId limits createdAt =
          .ok (S.sessionId, disk) →
        ∀ (events : List HarnessSessionStore.Event) (e : HarnessSessionStore.Event),
          HarnessSessionStore.Killed S disk events e →
          S.Recovers (S.execute (S.run { state := disk } events) e).2 := by
  constructor
  · intro hclaim
    have hrun : (sampleStore.execute (sampleStore.run HarnessFactoryTransactionStore.start [])
          (firstMessage (some ⟨.writePrepare, 0, .tear⟩))).1 = .error .killed ∧
        (sampleStore.execute (sampleStore.execute
          (sampleStore.run HarnessFactoryTransactionStore.start [])
          (firstMessage (some ⟨.writePrepare, 0, .tear⟩))).2 ⟨.recover, sampleClock, none⟩).1 =
          .error (.raised .concurrency) := by
      decide +kernel
    have hok := (hclaim sampleStore [] (firstMessage (some ⟨.writePrepare, 0, .tear⟩))
      ⟨by simp [firstMessage, HarnessFactoryTransactionStore.Call.publishArgs], hrun.1⟩
      sampleClock).1
    rw [hrun.2] at hok
    exact absurd hok (by simp)
  · intro hclaim
    have hrun : HarnessSessionStore.createSession "project" HarnessSessionStore.sampleRelease
          "hsess.1" {} 0 = .ok (HarnessSessionStore.sampleSession.sessionId,
            HarnessSessionStore.sampleDisk) ∧
        (HarnessSessionStore.sampleSession.execute
          (HarnessSessionStore.sampleSession.run { state := HarnessSessionStore.sampleDisk } [])
          (HarnessSessionStore.firstAppend (some ⟨.writePrepare, 0, .tear⟩))).1 =
            .error .killed ∧
        (HarnessSessionStore.sampleSession.execute (HarnessSessionStore.sampleSession.execute
          (HarnessSessionStore.sampleSession.run { state := HarnessSessionStore.sampleDisk } [])
          (HarnessSessionStore.firstAppend (some ⟨.writePrepare, 0, .tear⟩))).2
          ⟨.recover none, none⟩).1 = .error (.raised (.concurrency "hsess.1")) := by
      decide +kernel
    have hok := (hclaim HarnessSessionStore.sampleSession _ _ _ _ _ _ hrun.1 []
      (HarnessSessionStore.firstAppend (some ⟨.writePrepare, 0, .tear⟩)) ⟨rfl, hrun.2.1⟩).1
    rw [hrun.2.2] at hok
    exact absurd hok (by simp)

end Agintor.Storage
