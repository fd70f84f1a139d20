import Agintor.Lib.Lists
import Agintor.Storage.HarnessSessionInvariant

/-!
# Recovery of the session store

Recovery rolls an uncommitted message back and the last committed one forward; the order in
which it meets the records does not matter.
-/

namespace Agintor.Storage

open Agintor.Core Lib

namespace HarnessSessionStore

abbrev SessionRules := Rules SessionStep SessionDisk

variable {S : HarnessSessionStore} {R : SessionRules} {m₀ : HarnessSessionManifest}
  {ps : List HarnessSessionPrepare} {q : Option HarnessSessionPrepare}
  {p : HarnessSessionPrepare} {d : SessionDisk} {raises : SessionError → Prop}

/-- The writer holds the lock on a consistent disk. -/
structure Working (S : HarnessSessionStore) (m₀ : HarnessSessionManifest)
    (ps : List HarnessSessionPrepare) (q : Option HarnessSessionPrepare) (d : SessionDisk) :
    Prop where
  consistent : Consistent S m₀ d ps q
  lock : d.lock = true

/-- What holds inside the lock, for some messages. -/
def Held (S : HarnessSessionStore) (m₀ : HarnessSessionManifest) (d : SessionDisk) : Prop :=
  ∃ ps q, Working S m₀ ps q d

abbrev Inside (S : HarnessSessionStore) (m₀ : HarnessSessionManifest)
    (raises : SessionError → Prop) : Stop SessionError → SessionDisk → Prop :=
  Lib.Inside (Held S m₀) (fun d => d.lock = true) raises

lemma Working.held (h : Working S m₀ ps q d) : Held S m₀ d ∧ d.lock = true :=
  ⟨⟨ps, q, h⟩, h.lock⟩

/-- A step inside the lock. -/
lemma triple_step (hR : ∀ d d', R.moves d d') {P : SessionDisk → Prop}
    {Q : Unit → SessionDisk → Prop} {i : SessionStep} {f : SessionDisk → SessionDisk}
    (hP : ∀ d, P d → Held S m₀ d ∧ d.lock = true) (hQ : ∀ d, P d → Q () (f d)) :
    Triple R P (.step i id f) Q (Inside S m₀ raises) := by
  apply Triple.inside_step_of_passes hP
  · exact fun _ d hd => ⟨hR _ _, hQ d hd⟩
  · exact fun d hd => ⟨hR _ _, (hP d hd).2⟩

/-! ## Rolling back -/

/-- A prepared message leaves no trace. -/
theorem triple_rollBack (hR : ∀ d d', R.moves d d') (hm₀ : m₀.version = 0)
    {manifest : Option HarnessSessionManifest} :
    Triple R (fun d => Working S m₀ ps (some p) d ∧ d.manifest = manifest)
      (S.rollBack p p.prepareId)
      (fun _ d => Working S m₀ ps none d ∧ d.manifest = manifest) (Inside S m₀ raises) := by
  unfold rollBack
  apply Triple.bind (M := fun _ d => Working S m₀ ps (some p) d ∧ d.manifest = manifest ∧
    d.messages.get? (messageFile p.message) = none)
  · unfold unlinkMessage
    apply Triple.read_bind
    rintro d ⟨hd, hmanifest⟩
    cases hget : d.messages.get? (messageFile p.message) with
    | none =>
      apply Triple.pure
      rintro _ rfl
      exact ⟨hd, hmanifest, hget⟩
    | some f =>
      obtain rfl := hd.consistent.get_message hm₀ Consistent.mem_pending hget
      apply Triple.pure_bind
      simp only [if_true]
      apply triple_step hR
      · rintro _ rfl
        exact hd.held
      · rintro _ rfl
        refine ⟨⟨hd.consistent.without_message hm₀, hd.lock⟩, hmanifest, ?_⟩
        rw [Dict.get?_erase, if_pos rfl]
  intro _
  apply triple_step hR (fun d hd => hd.1.held)
  rintro d ⟨hd, hmanifest, hnone⟩
  exact ⟨⟨hd.consistent.without_prepare hnone, hd.lock⟩, hmanifest⟩

/-! ## Rolling forward -/

/-- A committed message is the last one, or the manifest after the messages knows a later one. -/
lemma Linked.lt_or_last (hm₀ : m₀.version = 0) (h : Linked S m₀ ps) (hp : p ∈ ps) :
    p.nextManifest.version < ps.length ∨
      p.nextManifest.version = ps.length ∧ ∃ ps', ps = ps' ++ [p] := by
  obtain ⟨before, after, heq⟩ := List.append_of_mem hp
  have hbase := (h.sequence_eq hm₀ heq).2
  have hnext := p.next_version
  have hlen := congrArg List.length heq
  rw [List.length_append, List.length_cons] at hlen
  cases after with
  | nil => exact Or.inr ⟨by rw [List.length_nil] at hlen; omega, before, heq⟩
  | cons p' after =>
    rw [List.length_cons] at hlen
    left
    omega

/-- How far the loop has come after the messages `before`, on a disk that was `d₀`. -/
structure Rolled (m₀ : HarnessSessionManifest) (ps : List HarnessSessionPrepare)
    (q : Option HarnessSessionPrepare) (d₀ : SessionDisk) (before : List HarnessSessionPrepare)
    (d : SessionDisk) : Prop where
  /-- The manifest is up to date once the last message has been looked at. -/
  current : ∀ p, ps.getLast? = some p → p ∈ before → d.manifest = some (manifestAt m₀ ps)
  /-- A disk that needs no recovery stays as it is. -/
  still : q = none → d₀.manifest = some (manifestAt m₀ ps) → d = d₀

lemma commit_matches (hp : p.sessionId = S.sessionId) (at_ : ℕ) :
    S.assertCommitMatches p (S.commit p at_) = .ok () := by
  apply raiseIf_neg
  simp [commit, hp]

/-- The message file of a committed message is there already. -/
lemma triple_restoreMessage (hp : p ∈ ps) (hd : Working S m₀ ps q d) :
    Triple R (· = d) (S.restoreMessage p) (fun _ d' => d' = d) (Inside S m₀ raises) := by
  unfold restoreMessage
  apply Triple.read_bind
  rintro _ rfl
  simp only [hd.consistent.messages p hp]
  apply Triple.pure_bind
  apply Triple.check
  · exact fun _ _ _ hd' => hd'
  · intro e he
    simp [raiseIf] at he

variable {d₀ : SessionDisk}

/-- The manifest follows the last message, and is recovered without inventing history. -/
theorem triple_restoreManifest (hR : ∀ d d', R.moves d d') (hm₀ : m₀.version = 0) (hp : p ∈ ps)
    {q' : Option HarnessSessionPrepare} {before : List HarnessSessionPrepare}
    (hd : Working S m₀ ps q' d) (hrolled : Rolled m₀ ps q d₀ before d) :
    Triple R (· = d) (restoreManifest p)
      (fun _ d => Working S m₀ ps q' d ∧ Rolled m₀ ps q d₀ (before ++ [p]) d)
      (Inside S m₀ raises) := by
  have hlinked : Linked S m₀ ps := hd.consistent.linked.left
  have hnext := p.next_version
  obtain ⟨known, late, hsplit, hlate, hmanifest⟩ := hd.consistent.manifest
  have hknown : (manifestAt m₀ known).version = known.length := by
    have hprefix := hlinked
    rw [hsplit] at hprefix
    exact hprefix.left.version hm₀
  have hlen := congrArg List.length hsplit
  rw [List.length_append] at hlen
  unfold restoreManifest readManifest
  apply Triple.bind (M := fun current d' => current = manifestAt m₀ known ∧ d' = d)
  · apply Triple.read_bind
    rintro _ rfl
    simp only [hmanifest]
    apply Triple.pure
    exact fun _ hd' => ⟨rfl, hd'⟩
  intro current
  apply Triple.of_fact fun _ hd' => hd'.1
  rintro rfl
  apply Triple.pre (P := (· = d)) _ fun _ hd' => hd'.2
  by_cases hbase : (manifestAt m₀ known).version = p.baseVersion
  · -- the manifest is one behind, and `p` is the message it lacks
    simp only [if_pos hbase]
    apply triple_step hR
    · rintro _ rfl
      exact hd.held
    · rintro _ rfl
      have hlast : p.nextManifest = manifestAt m₀ ps := by
        rcases hlinked.lt_or_last hm₀ hp with hlt | ⟨-, ps', heq⟩
        · omega
        · rw [heq, manifestAt_concat]
      rw [hlast]
      refine ⟨⟨hd.consistent.with_manifest, hd.lock⟩, fun _ _ _ => rfl, ?_⟩
      intro hnone hstill
      have hsame := hrolled.still hnone hstill
      rw [hsame, hstill, Option.some.injEq] at hmanifest
      rw [hlast, hmanifest] at hnext
      omega
  · simp only [if_neg hbase]
    -- the manifest knows `p`, and so its version or its head shows it
    have hmem : p ∈ known ∧ (∀ last, ps.getLast? = some last → late ≠ [] → last ≠ p) := by
      cases late with
      | nil =>
        rw [List.append_nil] at hsplit
        exact ⟨hsplit ▸ hp, fun _ _ hne => absurd rfl hne⟩
      | cons last rest =>
        obtain rfl : rest = [] := List.length_eq_zero_iff.mp (by simpa using hlate)
        have hne : last ≠ p := by
          intro heq
          have hindex := (hlinked.sequence_eq hm₀ (hsplit.trans (by rw [heq]))).2
          omega
        refine ⟨?_, ?_⟩
        · rw [hsplit] at hp
          rcases List.mem_append.mp hp with hknown' | hlast
          · exact hknown'
          · exact absurd (List.mem_singleton.mp hlast).symm hne
        · intro last' hlast' _
          rw [hsplit, List.getLast?_concat, Option.some.injEq] at hlast'
          rwa [← hlast']
    have hprefix : Linked S m₀ known := by
      rw [hsplit] at hlinked
      exact hlinked.left
    have hshown : p.nextManifest.version < (manifestAt m₀ known).version ∨
        (manifestAt m₀ known).version = p.nextManifest.version ∧
          (manifestAt m₀ known).lastMessageId = p.nextManifest.lastMessageId := by
      rw [hknown]
      rcases hprefix.lt_or_last hm₀ hmem.1 with hlt | ⟨heq, ps', hlast⟩
      · exact Or.inl hlt
      · refine Or.inr ⟨heq.symm, ?_⟩
        rw [hlast, manifestAt_concat]
    simp only [if_pos hshown]
    apply Triple.pure
    rintro _ rfl
    refine ⟨hd, ?_, hrolled.still⟩
    intro last hlast hbefore
    by_cases hnil : late = []
    · rw [hmanifest, hsplit, hnil, List.append_nil]
    · rcases List.mem_append.mp hbefore with hold | hnow
      · exact hrolled.current last hlast hold
      · exact absurd (List.mem_singleton.mp hnow) (hmem.2 last hlast hnil)

/-! ## Recovery -/

lemma Linked.session (h : Linked S m₀ ps) (hp : p ∈ ps) : p.sessionId = S.sessionId := by
  obtain ⟨before, after, heq⟩ := List.append_of_mem hp
  exact (h before p after heq).session

/-- One round of the loop. -/
theorem triple_recoverPrepare (hR : ∀ d d', R.moves d d') (hm₀ : m₀.version = 0)
    {before after : List HarnessSessionPrepare} (hturn : Turn ps q before p after) :
    Triple R (fun d => Working S m₀ ps (remaining q before) d ∧ Rolled m₀ ps q d₀ before d)
      (S.recoverPrepare p.prepareId)
      (fun _ d => Working S m₀ ps (remaining q (before ++ [p])) d ∧
        Rolled m₀ ps q d₀ (before ++ [p]) d)
      (Inside S m₀ raises) := by
  unfold recoverPrepare
  apply Triple.read_bind
  rintro d ⟨hd, hrolled⟩
  by_cases hp : p ∈ ps
  · rw [hturn.remaining_of_mem hp]
    have hmem : p ∈ ps ++ (remaining q before).toList := List.mem_append_left _ hp
    simp only [hd.consistent.get_prepare hmem, readRecord]
    apply Triple.pure_bind
    apply Triple.check_ok_bind (raiseIf_neg (not_not.mpr (hd.consistent.linked.session hmem)))
    apply Triple.read_bind
    rintro _ rfl
    obtain ⟨at_, hcommit⟩ := hd.consistent.commits p hp
    simp only [hcommit]
    apply Triple.pure_bind
    unfold rollForward
    apply Triple.check_ok_bind (commit_matches (hd.consistent.linked.session hmem) at_)
    apply Triple.bind (triple_restoreMessage hp hd)
    intro _
    exact triple_restoreManifest hR hm₀ hp hd hrolled
  · obtain ⟨hpending, hnone⟩ := hturn.remaining_of_not_mem hp
    rw [hpending] at hd
    rw [hnone]
    have hmem : p ∈ ps ++ (some p).toList := Consistent.mem_pending
    simp only [hd.consistent.get_prepare hmem, readRecord]
    apply Triple.pure_bind
    apply Triple.check_ok_bind (raiseIf_neg (not_not.mpr (hd.consistent.linked.session hmem)))
    apply Triple.read_bind
    rintro d rfl
    simp only [hd.consistent.get_commit_none hm₀]
    apply (triple_rollBack hR hm₀).conseq
    · rintro _ rfl
      exact ⟨hd, rfl⟩
    · rintro _ d' ⟨hd', hmanifest⟩
      refine ⟨hd', ?_, ?_⟩
      · intro last hlast hbefore
        rw [hmanifest]
        rcases List.mem_append.mp hbefore with hold | hnow
        · exact hrolled.current last hlast hold
        · rw [List.mem_singleton.mp hnow] at hlast
          exact absurd (List.mem_of_getLast? hlast) hp
      · intro hq
        rw [hq] at hpending
        exact absurd hpending (by simp [remaining])
    · exact fun _ _ hE => hE

/-- What a completed recovery leaves: `ps` committed, and nothing prepared. -/
structure Restored (S : HarnessSessionStore) (m₀ : HarnessSessionManifest)
    (ps : List HarnessSessionPrepare) (d : SessionDisk) : Prop where
  consistent : Consistent S m₀ d ps none
  manifest : d.manifest = some (manifestAt m₀ ps)

lemma sortedPrepares_perm (d : SessionDisk) : (sortedPrepares d).Perm d.prepares.keys :=
  List.perm_insertionSort _ _

theorem triple_recoverUnlocked (hR : ∀ d d', R.moves d d') (hm₀ : m₀.version = 0) :
    Triple R (fun d => Working S m₀ ps q d ∧ d = d₀) S.recoverUnlocked
      (fun manifest d => manifest = manifestAt m₀ ps ∧ d.lock = true ∧ Restored S m₀ ps d ∧
        (q = none → d₀.manifest = some (manifestAt m₀ ps) → d = d₀))
      (Inside S m₀ raises) := by
  unfold recoverUnlocked
  apply Triple.bind (M := fun _ d => Working S m₀ ps q d ∧ d = d₀)
  · unfold readManifest
    apply Triple.read_bind
    rintro d ⟨hd, rfl⟩
    obtain ⟨known, -, -, -, hmanifest⟩ := hd.consistent.manifest
    simp only [hmanifest]
    apply Triple.pure
    rintro _ rfl
    exact ⟨hd, rfl⟩
  intro _
  apply Triple.read_bind
  rintro d ⟨hd, rfl⟩
  -- the messages behind the sorted file names
  have hids : ((ps ++ q.toList).map (·.prepareId)).Perm (sortedPrepares d) := by
    have hkeys : d.prepares.keys = (ps ++ q.toList).map (·.prepareId) := by
      unfold Dict.keys
      rw [hd.consistent.prepares, List.map_map]
      rfl
    rw [← hkeys]
    exact (sortedPrepares_perm d).symm
  obtain ⟨order, hperm, hsorted⟩ := exists_perm_map_eq hids
  apply Triple.bind (M := fun _ d' => Working S m₀ ps none d' ∧ Rolled m₀ ps q d order d')
  · rw [← hsorted, Prog.forM_map]
    apply (Triple.forM (I := fun before d' =>
      Working S m₀ ps (remaining q before) d' ∧ Rolled m₀ ps q d before d') ?_).conseq
    · rintro _ rfl
      rw [remaining_nil]
      exact ⟨hd, fun _ _ hp => absurd hp (by simp), fun _ _ => rfl⟩
    · intro _ d' hd'
      rwa [remaining_eq_none hperm] at hd'
    · exact fun _ _ hE => hE
    · intro before p after horder
      rw [horder] at hperm
      exact triple_recoverPrepare hR hm₀ ⟨hperm, hd.consistent.linked.nodup hm₀⟩
  intro _
  unfold readManifest
  apply Triple.read_bind
  rintro d' ⟨hd', hrolled⟩
  have hmanifest : d'.manifest = some (manifestAt m₀ ps) := by
    cases hlast : ps.getLast? with
    | none =>
      obtain ⟨known, late, hsplit, -, hmanifest⟩ := hd'.consistent.manifest
      rw [List.getLast?_eq_none_iff] at hlast
      rw [hlast] at hsplit ⊢
      rw [hmanifest, (List.append_eq_nil_iff.mp hsplit.symm).1]
    | some p =>
      apply hrolled.current p hlast
      rw [hperm.mem_iff]
      exact List.mem_append_left _ (List.mem_of_getLast? hlast)
  simp only [hmanifest]
  apply Triple.pure
  rintro _ rfl
  exact ⟨rfl, hd'.lock, ⟨hd'.consistent, hmanifest⟩, hrolled.still⟩

end HarnessSessionStore
end Agintor.Storage
