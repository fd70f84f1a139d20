import Agintor.Storage.HarnessSessionRecovery

/-!
# Crash consistency of the session store

After any calls, interrupted or not, a recovery that completes leaves a linear history: the
messages that have a commit record, each one after the other.
-/

namespace Agintor.Storage

open Agintor.Core Lib

namespace HarnessSessionStore

variable {S : HarnessSessionStore} {R : SessionRules} {m₀ : HarnessSessionManifest}
  {ps : List HarnessSessionPrepare} {q : Option HarnessSessionPrepare}
  {p : HarnessSessionPrepare} {d d₀ : SessionDisk} {raises : SessionError → Prop}

/-! ## Appending -/

/-- The one error that no call raises. -/
def Historical (e : SessionError) : Prop := e ≠ .inventingHistory

variable {m : Machine SessionStep SessionDisk} {manifest : HarnessSessionManifest}
    {limits : HarnessSessionLimits} {e : SessionError}

lemma historical_of_assertRelease {digest : String} (h : assertRelease manifest digest = .error e) :
    Historical e := by
  unfold assertRelease requireDigest at h
  simp only [bind_eq_error_iff, raiseIf_eq_error_iff, pure_eq_ok, reduceCtorEq, and_false,
    exists_false, or_false] at h
  rcases h with ⟨-, rfl⟩ | ⟨_, -, -, rfl⟩ <;> simp [Historical]

lemma historical_of_assertPublicSafeText {value fieldName : String}
    (h : S.assertPublicSafeText value fieldName = .error e) : Historical e := by
  unfold assertPublicSafeText at h
  split at h
  · rw [Except.error.injEq] at h
    simp [Historical, ← h]
  · exact absurd h (by simp)

variable {carryover : List HarnessCarryoverRef} {entries : List HarnessCarryoverRef}
    {clock : SessionClock}

lemma historical_of_checkCarryover {seen : List String}
    (h : S.checkCarryover limits seen entries = .error e) : Historical e := by
  induction entries generalizing seen with
  | nil => exact absurd h (by simp [checkCarryover])
  | cons entry entries ih =>
    unfold checkCarryover at h
    simp only [bind_eq_error_iff, raiseIf_eq_error_iff] at h
    rcases h with ⟨-, rfl⟩ | ⟨_, -, h⟩
    · simp [Historical]
    rcases h with h | ⟨_, -, h⟩
    · exact historical_of_assertPublicSafeText h
    rcases h with h | ⟨_, -, h⟩
    · exact historical_of_assertPublicSafeText h
    rcases h with ⟨-, rfl⟩ | ⟨_, -, h⟩
    · simp [Historical]
    · exact ih h

lemma historical_of_normalizeCarryover (h : S.normalizeCarryover entries limits = .error e) :
    Historical e := by
  unfold normalizeCarryover at h
  simp only [bind_eq_error_iff, raiseIf_eq_error_iff, pure_eq_ok, reduceCtorEq, and_false,
    exists_false, or_false] at h
  rcases h with ⟨-, rfl⟩ | ⟨_, -, h⟩
  · simp [Historical]
  rcases h with h | ⟨_, -, -, rfl⟩
  · exact historical_of_checkCarryover h
  · simp [Historical]

lemma historical_of_buildPrepare {args : AppendArgs}
    (h : S.buildPrepare manifest args carryover clock = .error e) : Historical e := by
  unfold buildPrepare requireNonempty at h
  simp only [bind_eq_error_iff, raiseIf_eq_error_iff, pure_eq_ok, reduceCtorEq, and_false,
    exists_false, or_false] at h
  rcases h with ⟨-, rfl⟩ | ⟨_, -, h⟩
  · simp [Historical]
  · split at h
    · exact absurd h (by simp)
    · rw [Except.error.injEq] at h
      simp [Historical, ← h]

/-- The message that is prepared is built on the manifest. -/
lemma buildPrepare_ok {args : AppendArgs}
    (h : S.buildPrepare manifest args carryover clock = .ok p) : Follows S manifest p := by
  unfold buildPrepare at h
  simp only [bind_eq_ok_iff] at h
  obtain ⟨summary, -, h⟩ := h
  split at h
  · simp only [pure_eq_ok, Except.ok.injEq] at h
    rw [← h]
    exact ⟨rfl, rfl, rfl, rfl, rfl, rfl⟩
  · exact absurd h (by simp)

/-- The four writes of an append: from a restored disk to one with a message more. -/
theorem triple_writes (hR : ∀ d d', R.moves d d') (hm₀ : m₀.version = 0)
    (hp : Follows S (manifestAt m₀ ps) p) (committedAt : ℕ) :
    Triple R (fun d => d.lock = true ∧ Restored S m₀ ps d)
      (do
        writePrepare p
        writeMessageFile p.message
        writeCommit (S.commit p committedAt)
        writeManifest p.nextManifest
        return p.message)
      (fun message d => Held S m₀ d ∧ message = p.message ∧ Restored S m₀ (ps ++ [p]) d)
      (Inside S m₀ raises) := by
  apply Triple.bind (M := fun _ d =>
    Working S m₀ ps (some p) d ∧ d.manifest = some (manifestAt m₀ ps))
  · apply Triple.inside_writeOnce
    · rintro d ⟨hlock, hd⟩
      exact ⟨⟨ps, none, hd.consistent, hlock⟩, hlock⟩
    · rintro d f ⟨-, hd⟩ hf
      have hnone := (hd.consistent.with_prepare hm₀ hp).1
      exact absurd (hnone.symm.trans hf) (by simp)
    · rintro d ⟨hlock, hd⟩ -
      exact ⟨⟨⟨(hd.consistent.with_prepare hm₀ hp).2, hlock⟩, hd.manifest⟩, hR _ _⟩
    · rintro d ⟨hlock, -⟩ -
      exact ⟨hR _ _, hlock⟩
  intro _
  apply Triple.bind (M := fun _ d =>
    Working S m₀ ps (some p) d ∧ d.manifest = some (manifestAt m₀ ps) ∧
      d.messages.get? (messageFile p.message) = some (.whole p.message))
  · apply Triple.inside_writeOnce
    · exact fun d hd => hd.1.held
    · rintro d f ⟨hd, hmanifest⟩ hf
      obtain rfl := hd.consistent.get_message hm₀ Consistent.mem_pending hf
      exact ⟨fun _ => ⟨hd, hmanifest, hf⟩, fun hne => absurd rfl hne⟩
    · rintro d ⟨hd, hmanifest⟩ -
      refine ⟨⟨⟨hd.consistent.with_message hm₀, hd.lock⟩, hmanifest, ?_⟩, hR _ _⟩
      rw [Dict.get?_set, if_pos rfl]
    · rintro d ⟨hd, -⟩ -
      exact ⟨hR _ _, hd.lock⟩
  intro _
  apply Triple.bind (M := fun _ => Working S m₀ (ps ++ [p]) none)
  · apply Triple.inside_writeOnce
    · exact fun d hd => hd.1.held
    · rintro d f ⟨hd, -⟩ hf
      have hnone := hd.consistent.get_commit_none hm₀
      exact absurd (hnone.symm.trans hf) (by simp)
    · rintro d ⟨hd, hmanifest, hmessage⟩ -
      exact ⟨⟨hd.consistent.with_commit hm₀ hmessage hmanifest committedAt, hd.lock⟩, hR _ _⟩
    · rintro d ⟨hd, -⟩ -
      exact ⟨hR _ _, hd.lock⟩
  intro _
  apply Triple.bind (M := fun _ d => d.lock = true ∧ Restored S m₀ (ps ++ [p]) d)
  · apply triple_step hR (fun d hd => hd.held)
    intro d hd
    have hd' := hd.consistent.with_manifest
    rw [manifestAt_concat] at hd'
    refine ⟨hd.lock, hd', ?_⟩
    rw [manifestAt_concat]
  intro _
  apply Triple.pure
  rintro d ⟨hlock, hd⟩
  exact ⟨⟨ps ++ [p], none, hd.consistent, hlock⟩, rfl, hd⟩

/-! ## The writer lock -/

/-- No call is running on the disk, and none has died on it. -/
structure Idle (S : HarnessSessionStore) (m₀ : HarnessSessionManifest) (d : SessionDisk) :
    Prop where
  unlocked : d.lock = false
  sound : Sound S m₀ d

def Resting (S : HarnessSessionStore) (m₀ : HarnessSessionManifest) (d : SessionDisk) : Prop :=
  Idle S m₀ d ∨ d.lock = true

/-- What a call leaves when it stops. -/
abbrev Outside (S : HarnessSessionStore) (m₀ : HarnessSessionManifest)
    (raises : SessionError → Prop) : Stop SessionError → SessionDisk → Prop :=
  Lib.Outside (Idle S m₀) (fun d => d.lock = true) raises

lemma Restored.with_lock (h : Restored S m₀ ps d) (lock : Bool) :
    Restored S m₀ ps { d with lock := lock } :=
  ⟨h.consistent.with_lock lock, h.manifest⟩

/-- The lock rule: a call on an idle disk. -/
theorem triple_withWriterLock {α : Type} {body : SessionProg α} {Q : α → SessionDisk → Prop}
    (hR : ∀ d d', R.moves d d') (hc : Consistent S m₀ d₀ ps q) (hfree : d₀.lock = false)
    (hbody : Triple R (fun d => Working S m₀ ps q d ∧ d = { d₀ with lock := true }) body
      (fun a d => Held S m₀ d ∧ Q a { d with lock := false }) (Inside S m₀ raises)) :
    Triple R (· = d₀) (.withLock S.writerLock body) (fun a d => Idle S m₀ d ∧ Q a d)
      (Outside S m₀ raises) := by
  have hidle : ∀ d, Held S m₀ d → Idle S m₀ { d with lock := false } :=
    fun d ⟨ps, q, hd⟩ => ⟨rfl, ps, q, hd.consistent.with_lock false⟩
  apply (Triple.withLock (I := Held S m₀) (Q := fun a d => Q a { d with lock := false })
    ?_ ?_ ?_ ?_ ?_).post
  · rintro a d ⟨hd, hq⟩
    refine ⟨hd, ?_⟩
    have hlock := hd.unlocked
    cases d
    subst hlock
    exact hq
  · rintro _ rfl
    exact ⟨hfree, hfree, ps, q, hc⟩
  · rintro _ rfl
    exact ⟨hR _ _, rfl⟩
  · intro _
    apply hbody.pre
    rintro _ ⟨_, rfl, rfl⟩
    exact ⟨⟨hc.with_lock true, rfl⟩, rfl⟩
  · intro d hd
    exact ⟨hd.elim fun _ ⟨_, h⟩ => h.lock, hR _ _, hR _ _, hidle d hd⟩
  · exact fun _ _ hq => hq

/-! ## The calls -/

/-- Whether a completed call has recovered the session and done nothing else. -/
def Call.recovers : Call → Bool
  | .appendMessage _ _ => false
  | .contextForNext _ => true
  | .recover _ => true

lemma Restored.linked (h : Restored S m₀ ps d) : Linked S m₀ ps := by
  have hlinked := h.consistent.linked
  rwa [Option.toList_none, List.append_nil] at hlinked

/-- The version of a restored session is the number of its messages. -/
lemma Restored.expected (hm₀ : m₀.version = 0) (h : Restored S m₀ ps d) {expected : ℤ}
    {u : Unit} (hcheck : raiseIf (expected ≠ (manifestAt m₀ ps).version) e = .ok u) :
    expected = ps.length := by
  rw [← h.linked.version hm₀]
  exact not_not.mp (raiseIf_eq_ok_iff.mp hcheck)

/-- An append that returns adds its message to the committed ones, and only if the caller has
counted them right. -/
def Appended (S : HarnessSessionStore) (m₀ : HarnessSessionManifest)
    (ps : List HarnessSessionPrepare) (args : AppendArgs) (d : SessionDisk) : Prop :=
  args.expectedVersion = ps.length ∧ ∃ p, Restored S m₀ (ps ++ [p]) d

section Calls

variable (hR : ∀ d d', R.moves d d') (hm₀ : m₀.version = 0) (hc : Consistent S m₀ d₀ ps q)
  (hfree : d₀.lock = false)
include hR hm₀ hc hfree

/-- Recovery restores the session, and leaves a restored one as it is. It raises only when it is
asked to check the release. -/
theorem triple_recover (digest : Option String)
    (hraises : digest ≠ none → ∀ e, Historical e → raises e) :
    Triple R (· = d₀) (S.recover digest)
      (fun _ d => Idle S m₀ d ∧ Restored S m₀ ps d ∧
        (q = none → d₀.manifest = some (manifestAt m₀ ps) → d = d₀))
      (Outside S m₀ raises) := by
  unfold recover
  apply Triple.bind (triple_withWriterLock hR hc hfree
    (Q := fun _ d => Restored S m₀ ps d ∧
      (q = none → d₀.manifest = some (manifestAt m₀ ps) → d = d₀)) ?_)
  · intro manifest
    cases digest with
    | none => exact Triple.pure fun _ hd => hd
    | some digest =>
      apply Triple.bind (M := fun _ d => Idle S m₀ d ∧ Restored S m₀ ps d ∧
        (q = none → d₀.manifest = some (manifestAt m₀ ps) → d = d₀))
      · apply Triple.check
        · exact fun _ _ d hd => hd
        · exact fun e he d hd =>
            ⟨hraises (by simp) e (historical_of_assertRelease he), Or.inl hd.1⟩
      intro _
      exact Triple.pure fun _ hd => hd
  · apply (triple_recoverUnlocked hR hm₀).post
    rintro manifest d ⟨-, hlock, hd, hstill⟩
    refine ⟨⟨ps, none, hd.consistent, hlock⟩, hd.with_lock false, ?_⟩
    intro hq hmanifest
    rw [hstill hq hmanifest]
    cases d₀
    subst hfree
    rfl

theorem triple_contextForNext (digest : String) :
    Triple R (· = d₀) (S.contextForNext digest)
      (fun _ d => Idle S m₀ d ∧ Restored S m₀ ps d ∧
        (q = none → d₀.manifest = some (manifestAt m₀ ps) → d = d₀))
      (Outside S m₀ Historical) := by
  unfold contextForNext
  apply Triple.bind (triple_recover hR hm₀ hc hfree none fun _ _ he => he)
  intro manifest
  apply Triple.bind (M := fun _ d => Idle S m₀ d ∧ Restored S m₀ ps d ∧
    (q = none → d₀.manifest = some (manifestAt m₀ ps) → d = d₀))
  · apply Triple.check
    · exact fun _ _ d hd => hd
    · exact fun e he d hd => ⟨historical_of_assertRelease he, Or.inl hd.1⟩
  intro _
  exact Triple.pure fun _ hd => hd

theorem triple_appendMessage (args : AppendArgs) (clock : SessionClock) :
    Triple R (· = d₀) (S.appendMessage args clock)
      (fun _ d => Idle S m₀ d ∧ Appended S m₀ ps args d) (Outside S m₀ Historical) := by
  have hheld : ∀ d, d.lock = true ∧ Restored S m₀ ps d → Held S m₀ d := fun d hd =>
    ⟨ps, none, hd.2.consistent, hd.1⟩
  -- a check inside the lock changes nothing
  have hcheck : ∀ {α : Type} (x : Except SessionError α), (∀ e, x = .error e → Historical e) →
      Triple R (fun d => d.lock = true ∧ Restored S m₀ ps d) (.check x)
        (fun a d => x = .ok a ∧ d.lock = true ∧ Restored S m₀ ps d) (Inside S m₀ Historical) := by
    intro α x hx
    apply Triple.check
    · exact fun _ ha d hd => ⟨ha, hd⟩
    · exact fun e he d hd => ⟨hx e he, hheld d hd⟩
  unfold appendMessage
  apply triple_withWriterLock hR hc hfree (Q := fun _ d => Appended S m₀ ps args d)
  apply Triple.bind (triple_recoverUnlocked hR hm₀)
  intro manifest
  apply Triple.of_fact fun _ hd => hd.1
  rintro rfl
  apply Triple.bind ((hcheck _ fun _ => historical_of_assertRelease).pre
    fun _ hd => ⟨hd.2.1, hd.2.2.1⟩)
  intro _
  apply Triple.bind ((hcheck _ ?_).pre fun _ hd => hd.2)
  intro _
  apply Triple.of_fact fun _ hd => hd.2.2.expected hm₀ hd.1
  intro hexpected
  apply Triple.bind ((hcheck _ fun _ => historical_of_assertPublicSafeText).pre fun _ hd => hd.2)
  intro _
  apply Triple.bind ((hcheck _ ?_).pre fun _ hd => hd.2)
  intro _
  apply Triple.bind ((hcheck _ fun _ => historical_of_normalizeCarryover).pre fun _ hd => hd.2)
  intro carryover
  apply Triple.bind ((hcheck _ fun _ => historical_of_buildPrepare).pre fun _ hd => hd.2)
  intro p
  apply Triple.of_fact fun _ hd => hd.1
  intro hp
  apply (triple_writes hR hm₀ (buildPrepare_ok hp) clock.committedAt).conseq
  · exact fun _ hd => hd.2
  · exact fun _ _ hd => ⟨hd.1, hexpected, p, hd.2.2.with_lock false⟩
  · exact fun _ _ hE => hE
  · intro e he
    rw [raiseIf_eq_error_iff] at he
    simp [Historical, ← he.2]
  · intro e he
    rw [raiseIf_eq_error_iff] at he
    simp [Historical, ← he.2]

/-- On an idle disk. -/
theorem triple_program (e : Event) :
    Triple R (· = d₀) (S.program e)
      (fun _ d => Idle S m₀ d ∧ (e.call.recovers = true → Restored S m₀ ps d ∧
          (q = none → d₀.manifest = some (manifestAt m₀ ps) → d = d₀)) ∧
        ∀ args clock, e.call = .appendMessage args clock → Appended S m₀ ps args d)
      (Outside S m₀ Historical) := by
  unfold program
  cases e.call with
  | appendMessage args clock =>
    apply Triple.bind (triple_appendMessage hR hm₀ hc hfree args clock)
    intro _
    apply Triple.pure
    rintro d ⟨hidle, happended⟩
    refine ⟨hidle, fun h => absurd h (by simp [Call.recovers]), ?_⟩
    rintro _ _ ⟨⟩
    exact happended
  | recover digest =>
    apply Triple.bind (triple_recover hR hm₀ hc hfree digest fun _ _ he => he)
    intro _
    exact Triple.pure fun d hd => ⟨hd.1, fun _ => hd.2, fun _ _ h => by cases h⟩
  | contextForNext digest =>
    apply Triple.bind (triple_contextForNext hR hm₀ hc hfree digest)
    intro _
    exact Triple.pure fun d hd => ⟨hd.1, fun _ => hd.2, fun _ _ h => by cases h⟩

end Calls

/-- On a disk that a dead process has locked every call is rejected. -/
theorem triple_program_abandoned (S : HarnessSessionStore) (m₀ : HarnessSessionManifest)
    (e : Event) :
    Triple R (fun d => d.lock = true) (S.program e) (fun _ _ => False) (Outside S m₀ Historical) := by
  have hbusy : ∀ {α : Type} {body : SessionProg α}, Triple R (fun d => d.lock = true)
      (.withLock S.writerLock body) (fun _ _ => False) (Outside S m₀ Historical) := by
    intro α body
    apply Triple.withLock_busy
    · exact fun d hd => hd
    · exact fun d hd => ⟨by simp [Historical, writerLock], Or.inr hd⟩
  have hnever : ∀ {α β : Type} {k : α → SessionProg β}, ∀ a, Triple R (fun _ => False) (k a)
      (fun _ _ => False) (Outside S m₀ Historical) := fun _ _ _ hfalse => hfalse.elim
  unfold program
  cases e.call with
  | appendMessage args clock => exact Triple.bind hbusy hnever
  | recover digest => exact Triple.bind (Triple.bind hbusy hnever) hnever
  | contextForNext digest =>
    exact Triple.bind (Triple.bind (Triple.bind hbusy hnever) hnever) hnever

/-! ## Runs -/

/-- Rules that permit everything. -/
def anyRules : SessionRules where
  pending := fun _ => True
  origin := fun _ => True
  moves := fun _ _ => True
  waits := fun _ _ _ _ => trivial

lemma obeys_anyRules (m : Machine SessionStep SessionDisk) : m.Obeys anyRules where
  fault := trivial
  history := ⟨fun _ _ => trivial, List.isChain_iff_forall_rel_of_append_cons_cons.mpr
    fun _ _ _ _ _ => trivial⟩

section

variable (hm₀ : m₀.version = 0) (hrest : Resting S m₀ m.state)
include hm₀ hrest

/-- One call of a run leaves the disk at rest. -/
theorem resting_execute (e : Event) :
    Resting S m₀ (S.execute m e).2.state ∧
      (S.execute m e).1 ≠ .error (.raised .inventingHistory) := by
  have hlands : Lands anyRules (fun _ => Resting S m₀) (Outside S m₀ Historical) (S.execute m e) := by
    rcases hrest with ⟨hfree, ps, q, hc⟩ | hlock
    · have htriple := triple_program (R := anyRules) (fun _ _ => trivial) hm₀ hc hfree e
      exact (htriple.post fun _ _ hd => Or.inl hd.1) _ (obeys_anyRules _) rfl
    · have htriple := triple_program_abandoned (R := anyRules) S m₀ e
      exact (htriple.post fun _ _ hfalse => hfalse.elim) _ (obeys_anyRules _) hlock
  obtain ⟨-, hpost⟩ := hlands
  cases hr : (S.execute m e).1 with
  | ok u =>
    rw [hr] at hpost
    exact ⟨hpost.2, by simp⟩
  | error r =>
    rw [hr] at hpost
    cases r with
    | raised t =>
      refine ⟨hpost.2.2, ?_⟩
      intro heq
      rw [Except.error.injEq, Stop.raised.injEq] at heq
      exact hpost.2.1 heq
    | exception => exact ⟨hpost.2, by simp⟩
    | baseException => exact ⟨hpost.2, by simp⟩
    | killed => exact ⟨hpost.2, by simp⟩

/-- Every run leaves the disk at rest. -/
theorem resting_run (events : List Event) :
    Resting S m₀ (S.run m events).state := by
  induction events generalizing m with
  | nil => exact hrest
  | cons e events ih => exact ih (resting_execute hm₀ hrest e).1

/-- What a call that returns has done: it has started on an idle disk. -/
lemma executed {e : Event}
    (hok : (S.execute m e).1 = .ok ()) :
    Idle S m₀ m.state ∧ ∀ ps q, Consistent S m₀ m.state ps q →
      Idle S m₀ (S.execute m e).2.state ∧
      (e.call.recovers = true → Restored S m₀ ps (S.execute m e).2.state ∧
        (q = none → m.state.manifest = some (manifestAt m₀ ps) →
          (S.execute m e).2.state = m.state)) ∧
      ∀ args clock, e.call = .appendMessage args clock →
        Appended S m₀ ps args (S.execute m e).2.state := by
  have hobeys : Machine.Obeys { m with fault := e.fault } anyRules := obeys_anyRules _
  unfold execute at hok ⊢
  rcases hrest with hidle | hlock
  · refine ⟨hidle, fun ps q hc => ?_⟩
    obtain ⟨-, hpost⟩ := triple_program (R := anyRules) (fun _ _ => trivial) hm₀ hc hidle.unlocked e
      _ hobeys rfl
    rw [hok] at hpost
    exact hpost.2
  · obtain ⟨-, hpost⟩ := triple_program_abandoned (R := anyRules) S m₀ e _ hobeys hlock
    rw [hok] at hpost
    exact hpost.2.elim

/-- A recovery that completes has restored the session; if it was restored before, it is as it
was. -/
theorem restored_of_recover {e : Event}
    (hcall : e.call.recovers = true) (hok : (S.execute m e).1 = .ok ()) :
    Idle S m₀ (S.execute m e).2.state ∧ (∃ ps, Restored S m₀ ps (S.execute m e).2.state) ∧
      ∀ ps, Restored S m₀ ps m.state → (S.execute m e).2.state = m.state := by
  obtain ⟨⟨-, ps, q, hc⟩, hpost⟩ := executed hm₀ hrest hok
  obtain ⟨hidle, hrestored, -⟩ := hpost ps q hc
  refine ⟨hidle, ⟨ps, (hrestored hcall).1⟩, fun ps' hps' => ?_⟩
  exact ((hpost ps' none hps'.consistent).2.1 hcall).2 rfl hps'.manifest

end

/-! ## The linear history -/

/-- On an idle disk a recovery that nothing interrupts completes. -/
theorem recover_returns (hm₀ : m₀.version = 0) (hidle : Idle S m₀ m.state) :
    (S.execute m ⟨.recover none, none⟩).1 = .ok () := by
  obtain ⟨hfree, ps, q, hc⟩ := hidle
  have htriple : Triple anyRules.calm (· = m.state) (S.program ⟨.recover none, none⟩)
      (fun _ _ => True) (Outside S m₀ fun _ => False) := by
    apply Triple.bind (triple_recover (fun _ _ => trivial) hm₀ hc hfree none fun h => absurd rfl h)
    intro _
    exact Triple.pure fun _ _ => trivial
  have hobeys : Machine.Obeys { m with fault := none } anyRules.calm :=
    ⟨rfl, Rules.trace_calm.mpr (obeys_anyRules m).history⟩
  obtain ⟨_, hok, -⟩ := htriple.returns (fun e d hE => hE.1) hobeys
    anyRules.not_allowed_calm rfl
  exact hok

/-- The session is the messages `history`, each one after the other, and nothing else. -/
structure LinearHistory (S : HarnessSessionStore) (history : List HarnessSessionMessage)
    (d : SessionDisk) : Prop where
  visible : ∀ name f, d.messages.get? name = some f ↔
    ∃ m ∈ history, name = messageFile m ∧ f = .whole m
  committed : ∀ id, id ∈ d.commits.keys ↔ ∃ m ∈ history, id = commitId m
  digests : ∀ m ∈ history, ∃ c, d.commits.get? (commitId m) = some (.whole c) ∧
    c.messageDigest = S.digests.message m
  prepared : ∀ id, id ∈ d.prepares.keys ↔ ∃ m ∈ history, id = prepareId m
  sequence : ∀ i (m : HarnessSessionMessage), history[i]? = some m → m.sequence = i ∧ m.baseVersion = i
  parent : ∀ i (m : HarnessSessionMessage), history[i]? = some m →
    m.parentMessageId = (if i = 0 then none else history[i - 1]?).map (·.messageId)
  manifest : ∃ manifest, d.manifest = some manifest ∧ manifest.version = history.length ∧
    manifest.messageCount = history.length ∧ manifest.nextSequence = history.length ∧
    manifest.lastMessageId = history.getLast?.map (·.messageId) ∧
    manifest.carryover = (history.getLast?.map (·.carryover)).getD []

/-- What the first manifest knows of messages. -/
structure Blank (m₀ : HarnessSessionManifest) : Prop where
  version : m₀.version = 0
  last : m₀.lastMessageId = none
  carryover : m₀.carryover = []

/-- The message at a place is built on the manifest after those before it. -/
lemma Linked.follows (h : Linked S m₀ ps) {i : ℕ} (hi : ps[i]? = some p) :
    Follows S (manifestAt m₀ (ps.take i)) p := by
  obtain ⟨hlt, rfl⟩ := List.getElem?_eq_some_iff.mp hi
  apply h (ps.take i) ps[i] (ps.drop (i + 1))
  rw [List.getElem_cons_drop, List.take_append_drop]

/-- The head that a manifest shows is the last message. -/
lemma manifestAt_last (hblank : Blank m₀) (ps : List HarnessSessionPrepare) :
    (manifestAt m₀ ps).lastMessageId = ps.getLast?.map (·.message.messageId) ∧
      (manifestAt m₀ ps).carryover = (ps.getLast?.map (·.message.carryover)).getD [] := by
  unfold manifestAt
  cases ps.getLast? with
  | none => exact ⟨hblank.last, hblank.carryover⟩
  | some p => exact ⟨p.next_message, p.next_carryover⟩

theorem Restored.linearHistory (hblank : Blank m₀) (h : Restored S m₀ ps d) :
    LinearHistory S (ps.map (·.message)) d := by
  have hlinked := h.linked
  have hm₀ := hblank.version
  have hget : ∀ (i : ℕ) (m : HarnessSessionMessage), (ps.map (·.message))[i]? = some m →
      ∃ p, ps[i]? = some p ∧ p.message = m := by
    intro i m hm
    rwa [List.getElem?_map, Option.map_eq_some_iff] at hm
  have hsplit : ps ++ (none : Option HarnessSessionPrepare).toList = ps := by simp
  refine ⟨?_, ?_, ?_, ?_, ?_, ?_, manifestAt m₀ ps, h.manifest, ?_⟩
  · intro name f
    constructor
    · intro hf
      obtain ⟨p, hp, hname, hwhole⟩ := h.consistent.visible name f hf
      rw [hsplit] at hp
      exact ⟨p.message, List.mem_map_of_mem hp, hname, hwhole⟩
    · rintro ⟨_, hm, rfl, rfl⟩
      obtain ⟨p, hp, rfl⟩ := List.mem_map.mp hm
      exact h.consistent.messages p hp
  · intro id
    constructor
    · intro hid
      obtain ⟨p, hp, rfl⟩ := h.consistent.committed id hid
      exact ⟨p.message, List.mem_map_of_mem hp, rfl⟩
    · rintro ⟨_, hm, rfl⟩
      obtain ⟨p, hp, rfl⟩ := List.mem_map.mp hm
      obtain ⟨at_, hcommit⟩ := h.consistent.commits p hp
      by_contra hnone
      rw [Dict.get?_eq_none_iff.mpr hnone] at hcommit
      exact absurd hcommit (by simp)
  · intro m hm
    obtain ⟨p, hp, rfl⟩ := List.mem_map.mp hm
    obtain ⟨at_, hcommit⟩ := h.consistent.commits p hp
    exact ⟨_, hcommit, rfl⟩
  · intro id
    unfold Dict.keys
    rw [h.consistent.prepares, hsplit, List.map_map, List.mem_map]
    have hids : ∀ p ∈ ps, p.prepareId = prepareId p.message := by
      intro p hp
      obtain ⟨before, after, heq⟩ := List.append_of_mem hp
      exact (hlinked before p after heq).id_eq
    constructor
    · rintro ⟨p, hp, rfl⟩
      exact ⟨p.message, List.mem_map_of_mem hp, hids p hp⟩
    · rintro ⟨_, hm, rfl⟩
      obtain ⟨p, hp, rfl⟩ := List.mem_map.mp hm
      exact ⟨p, hp, hids p hp⟩
  · intro i m hm
    obtain ⟨p, hp, rfl⟩ := hget i m hm
    have hlt := (List.getElem?_eq_some_iff.mp hp).1
    have hfollows := hlinked.follows hp
    have hversion : (manifestAt m₀ (ps.take i)).version = i := by
      rw [← List.take_append_drop i ps] at hlinked
      rw [hlinked.left.version hm₀, List.length_take]
      omega
    have hmoved := (manifestAt m₀ (ps.take i)).moved
    have hbase := p.message_base
    rw [hfollows.sequence]
    rw [hfollows.base] at hbase
    omega
  · intro i m hm
    obtain ⟨p, hp, rfl⟩ := hget i m hm
    rw [(hlinked.follows hp).parent, (manifestAt_last hblank _).1]
    have hlt := (List.getElem?_eq_some_iff.mp hp).1
    by_cases hi : i = 0
    · simp [hi]
    · rw [if_neg hi, List.getElem?_map, List.getLast?_take, if_neg hi, Option.map_map]
      have hsome : ps[i - 1]? = some ps[i - 1] := List.getElem?_eq_getElem (by omega)
      rw [hsome]
      rfl
  · have hversion := hlinked.version hm₀
    have hmoved := (manifestAt m₀ ps).moved
    obtain ⟨hlast, hcarryover⟩ := manifestAt_last hblank ps
    rw [List.length_map, List.getLast?_map, Option.map_map, Option.map_map]
    exact ⟨hversion, by omega, by omega, hlast, hcarryover⟩

/-- A created session is idle and empty. -/
lemma createSession_ok {projectDir digest sessionId : String} {createdAt : ℕ} {disk : SessionDisk}
    (h : createSession projectDir digest sessionId limits createdAt = .ok (S.sessionId, disk)) :
    ∃ m₀, Blank m₀ ∧ Idle S m₀ disk := by
  unfold createSession at h
  simp only [bind_eq_ok_iff, pure_eq_ok, Except.ok.injEq, Prod.mk.injEq] at h
  obtain ⟨release, -, allocated, -, -, rfl⟩ := h
  refine ⟨_, ⟨rfl, rfl, rfl⟩, rfl, [], none, ?_, rfl, ?_, ?_, ?_, ?_, [], [], rfl,
    by simp, rfl⟩
  · intro before p after heq
    exact absurd heq (by simp)
  · exact fun _ hp => absurd hp (by simp)
  · exact fun _ hid => absurd hid (by simp [Dict.keys, newSession, Dict.empty])
  · exact fun _ hp => absurd hp (by simp)
  · exact fun _ _ hf => absurd hf (by simp [newSession])

/-! ## Interrupted runs -/

/-- A release, for the runs on fixed inputs. -/
def sampleRelease : String := String.ofList (List.replicate 64 'a')

def sampleSession : HarnessSessionStore where
  projectDir := "project"
  sessionId := "hsess.1"
  digests :=
    { carryoverRef := fun r => r.artifactDigest
      messageSeed := fun s => s.nonce
      manifest := fun m => toString m.version
      message := fun m => m.messageSummary
      prepare := fun p => p.prepareId }
  unsafeReason := fun _ => none
  encodedSize := List.length

/-- The directory of the session when it is created. -/
def sampleDisk : SessionDisk := newSession (newManifest "project" sampleRelease "hsess.1" {} 0)

/-- The first message of the session. -/
def firstAppend (fault : Option (Fault SessionStep)) : Event where
  call := .appendMessage ⟨sampleRelease, 0, "first", []⟩ ⟨0, 0, "nonce"⟩
  fault := fault

/-- After any calls, interrupted or not, no call ever has to invent history; a recovery that
completes leaves a linear history of the committed messages, and a second one completes and
changes nothing. -/
theorem recover_linearHistory {projectDir digest sessionId : String}
    {limits : HarnessSessionLimits} {createdAt : ℕ} {disk : SessionDisk}
    (hcreate : createSession projectDir digest sessionId limits createdAt = .ok (S.sessionId, disk))
    (events : List Event) (e : Event) :
    (S.execute (S.run { state := disk } events) e).1 ≠ .error (.raised .inventingHistory) ∧
    (e.call.recovers = true → (S.execute (S.run { state := disk } events) e).1 = .ok () →
      (∃ history, LinearHistory S history (S.execute (S.run { state := disk } events) e).2.state) ∧
      (S.execute (S.execute (S.run { state := disk } events) e).2 ⟨.recover none, none⟩).1 =
        .ok () ∧
      ∀ e', e'.call.recovers = true →
        (S.execute (S.execute (S.run { state := disk } events) e).2 e').1 = .ok () →
        (S.execute (S.execute (S.run { state := disk } events) e).2 e').2.state =
          (S.execute (S.run { state := disk } events) e).2.state) := by
  obtain ⟨m₀, hblank, hidle⟩ := createSession_ok hcreate
  have hrest : Resting S m₀ (S.run { state := disk } events).state :=
    resting_run hblank.version (Or.inl hidle) events
  refine ⟨(resting_execute hblank.version hrest e).2, ?_⟩
  intro hcall hok
  obtain ⟨hidle', ⟨ps, hps⟩, -⟩ := restored_of_recover hblank.version hrest hcall hok
  refine ⟨⟨_, hps.linearHistory hblank⟩, recover_returns hblank.version hidle', ?_⟩
  intro e' hcall' hok'
  exact (restored_of_recover hblank.version (Or.inl hidle') hcall' hok').2.2 ps hps

/-- A message that is committed before its manifest is written, and a recovery. -/
theorem recover_linearHistory_commit_only :
    (∃ history, LinearHistory sampleSession history (sampleSession.execute (sampleSession.run
        { state := sampleDisk } [firstAppend (some ⟨.writeManifest, 0, .exception⟩)])
        ⟨.recover none, none⟩).2.state) ∧
      (sampleSession.execute (sampleSession.run { state := sampleDisk }
        [firstAppend (some ⟨.writeManifest, 0, .exception⟩)])
        ⟨.recover none, none⟩).2.state.messages.keys = ["000000.hmsg.nonce.json"] := by
  have hrun : createSession "project" sampleRelease "hsess.1" {} 0 =
        .ok (sampleSession.sessionId, sampleDisk) ∧
      (sampleSession.execute (sampleSession.run { state := sampleDisk }
        [firstAppend (some ⟨.writeManifest, 0, .exception⟩)]) ⟨.recover none, none⟩).1 = .ok () ∧
      (sampleSession.execute (sampleSession.run { state := sampleDisk }
        [firstAppend (some ⟨.writeManifest, 0, .exception⟩)])
        ⟨.recover none, none⟩).2.state.messages.keys = ["000000.hmsg.nonce.json"] := by
    decide +kernel
  have hclaim := recover_linearHistory hrun.1
    [firstAppend (some ⟨.writeManifest, 0, .exception⟩)] ⟨.recover none, none⟩
  exact ⟨(hclaim.2 rfl hrun.2.1).1, hrun.2.2⟩

/-- After any calls, interrupted or not, an append that returns adds one message to the history
that a recovery would have found, and the caller has counted that history right. -/
theorem append_adds_one {projectDir digest sessionId : String} {limits : HarnessSessionLimits}
    {createdAt : ℕ} {disk : SessionDisk}
    (hcreate : createSession projectDir digest sessionId limits createdAt = .ok (S.sessionId, disk))
    (events : List Event) {args : AppendArgs} {clock : SessionClock}
    {fault : Option (Fault SessionStep)}
    (hok : (S.execute (S.run { state := disk } events) ⟨.appendMessage args clock, fault⟩).1 =
      .ok ()) :
    ∃ history message,
      LinearHistory S history
        (S.execute (S.run { state := disk } events) ⟨.recover none, none⟩).2.state ∧
      args.expectedVersion = history.length ∧
      LinearHistory S (history ++ [message])
        (S.execute (S.run { state := disk } events)
          ⟨.appendMessage args clock, fault⟩).2.state := by
  obtain ⟨m₀, hblank, hidle⟩ := createSession_ok hcreate
  have hm₀ := hblank.version
  have hrest : Resting S m₀ (S.run { state := disk } events).state :=
    resting_run hm₀ (Or.inl hidle) events
  obtain ⟨hbefore, hpost⟩ := executed hm₀ hrest hok
  obtain ⟨ps, q, hc⟩ := hbefore.sound
  obtain ⟨-, -, happended⟩ := hpost ps q hc
  obtain ⟨hexpected, p, hp⟩ := happended args clock rfl
  obtain ⟨-, hrecovered⟩ := executed hm₀ hrest (recover_returns hm₀ hbefore)
  have hrestored := ((hrecovered ps q hc).2.1 rfl).1
  have hafter := hp.linearHistory hblank
  rw [List.map_append] at hafter
  exact ⟨_, p.message, hrestored.linearHistory hblank, by rw [hexpected, List.length_map], hafter⟩

/-- The append after a message that was committed before its manifest was written. -/
theorem append_adds_one_commit_only : ∃ history message, history.length = 1 ∧
    LinearHistory sampleSession (history ++ [message]) (sampleSession.execute (sampleSession.run
      { state := sampleDisk } [firstAppend (some ⟨.writeManifest, 0, .exception⟩)])
      ⟨.appendMessage ⟨sampleRelease, 1, "second", []⟩ ⟨1, 1, "next"⟩, none⟩).2.state := by
  have hcreate : createSession "project" sampleRelease "hsess.1" {} 0 =
      .ok (sampleSession.sessionId, sampleDisk) := by decide +kernel
  obtain ⟨history, message, -, hexpected, hafter⟩ := append_adds_one hcreate
    [firstAppend (some ⟨.writeManifest, 0, .exception⟩)]
    (show (sampleSession.execute _
      ⟨.appendMessage ⟨sampleRelease, 1, "second", []⟩ ⟨1, 1, "next"⟩, none⟩).1 = .ok () by
      decide +kernel)
  have hone : (1 : ℤ) = history.length := hexpected
  exact ⟨history, message, by omega, hafter⟩

end HarnessSessionStore
end Agintor.Storage
