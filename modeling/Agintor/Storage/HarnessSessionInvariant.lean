import Agintor.Storage.HarnessSession

/-!
# The invariant of the session store

Between two steps of any call the WAL describes the session: the committed messages in their
order, each built on the manifest the one before it left, and at most one prepared message after
them. The manifest is that of the last committed message or of the one before it.
-/

namespace Agintor.Storage

open Agintor.Core Lib

namespace HarnessSessionStore

/-! ## Names -/

variable {m m' : HarnessSessionMessage}

lemma numbered_inj (start : String) {i j : ℕ} {s t : String}
    (h : start ++ zeroPad 6 i ++ "." ++ s = start ++ zeroPad 6 j ++ "." ++ t) : i = j := by
  have hl := congrArg String.toList h
  simp only [String.toList_append, toList_zeroPad, List.append_assoc, List.append_cancel_left_eq]
    at hl
  exact (zeroPadChars_append_cons_inj (c := '.') (by decide) hl).1

lemma prepareId_inj (h : prepareId m = prepareId m') : m.sequence = m'.sequence := numbered_inj _ h

lemma commitId_inj (h : commitId m = commitId m') : m.sequence = m'.sequence := numbered_inj _ h

lemma messageFile_inj (h : messageFile m = messageFile m') : m.sequence = m'.sequence :=
  numbered_inj "" (by simpa [messageFile, String.append_assoc] using h)

/-! ## The chain of messages -/

/-- The manifest after the messages `ps`, which starts as `m₀`. -/
def manifestAt (m₀ : HarnessSessionManifest) (ps : List HarnessSessionPrepare) :
    HarnessSessionManifest :=
  (ps.getLast?.map (·.nextManifest)).getD m₀

variable {m₀ : HarnessSessionManifest} {ps : List HarnessSessionPrepare}
  {q : Option HarnessSessionPrepare} {p : HarnessSessionPrepare}

@[simp] lemma manifestAt_nil : manifestAt m₀ [] = m₀ := rfl

@[simp] lemma manifestAt_concat : manifestAt m₀ (ps ++ [p]) = p.nextManifest := by
  unfold manifestAt
  rw [List.getLast?_concat]
  rfl

variable (S : HarnessSessionStore)

/-- `p` is the message built on a manifest. -/
structure Follows (manifest : HarnessSessionManifest) (p : HarnessSessionPrepare) : Prop where
  session : p.sessionId = S.sessionId
  id_eq : p.prepareId = prepareId p.message
  sequence : p.message.sequence = manifest.nextSequence
  base : p.baseVersion = manifest.version
  parent : p.message.parentMessageId = manifest.lastMessageId
  next : p.nextManifest = nextManifest manifest p.message

/-- Each message is built on the manifest after the ones before it. -/
def Linked (m₀ : HarnessSessionManifest) (ps : List HarnessSessionPrepare) : Prop :=
  ∀ before p after, ps = before ++ p :: after → Follows S (manifestAt m₀ before) p

variable {S}

lemma Linked.append (h : Linked S m₀ ps) (hp : Follows S (manifestAt m₀ ps) p) :
    Linked S m₀ (ps ++ [p]) := by
  intro before p' after heq
  rcases List.eq_nil_or_concat after with rfl | ⟨after', last, rfl⟩
  · obtain ⟨rfl, hlast⟩ := List.append_inj' heq rfl
    obtain rfl := (List.cons.inj hlast).1
    exact hp
  · apply h before p' after'
    have heq' : ps ++ [p] = before ++ p' :: after' ++ [last] := by
      rw [heq, List.concat_eq_append, List.append_assoc, List.cons_append]
    exact (List.append_inj' heq' rfl).1

lemma Linked.left {rest : List HarnessSessionPrepare} (h : Linked S m₀ (ps ++ rest)) :
    Linked S m₀ ps := by
  intro before p' after heq
  apply h before p' (after ++ rest)
  rw [heq, List.append_assoc, List.cons_append]

lemma Linked.last (h : Linked S m₀ (ps ++ [p])) : Follows S (manifestAt m₀ ps) p :=
  h ps p [] rfl

section

variable (hm₀ : m₀.version = 0)
include hm₀

/-- The manifest counts the messages. -/
lemma Linked.version (h : Linked S m₀ ps) :
    (manifestAt m₀ ps).version = ps.length := by
  induction ps using List.reverseRecOn with
  | nil => exact hm₀
  | append_singleton ps p ih =>
    rw [manifestAt_concat, h.last.next, List.length_append, List.length_singleton]
    exact congrArg (· + 1) (ih h.left)

/-- The numbers of the messages are their places. -/
lemma Linked.sequence_eq (h : Linked S m₀ ps)
    {before after : List HarnessSessionPrepare} (heq : ps = before ++ p :: after) :
    p.message.sequence = before.length ∧ p.baseVersion = before.length := by
  have hfollows := h before p after heq
  have hbefore : Linked S m₀ before := by
    rw [heq] at h
    exact h.left
  have hversion := hbefore.version hm₀
  have hmoved := (manifestAt m₀ before).moved
  rw [hfollows.sequence, hfollows.base]
  omega

/-- A number belongs to one message. -/
lemma Linked.eq_of_sequence (h : Linked S m₀ ps)
    {p' : HarnessSessionPrepare} (hp : p ∈ ps) (hp' : p' ∈ ps)
    (hseq : p.message.sequence = p'.message.sequence) : p = p' := by
  obtain ⟨before, after, heq⟩ := List.append_of_mem hp
  obtain ⟨before', after', heq'⟩ := List.append_of_mem hp'
  have hlen := (h.sequence_eq hm₀ heq).1
  have hlen' := (h.sequence_eq hm₀ heq').1
  have hsplit := heq.symm.trans heq'
  exact (List.cons.inj (List.append_inj hsplit (by omega)).2).1

/-- The last message has a number of its own. -/
lemma Linked.fresh (h : Linked S m₀ (ps ++ [p])) :
    ∀ p' ∈ ps, p'.message.sequence ≠ p.message.sequence := by
  intro p' hp'
  obtain ⟨before, after, heq⟩ := List.append_of_mem hp'
  have hsplit : ps ++ [p] = before ++ p' :: (after ++ [p]) := by
    rw [heq, List.append_assoc, List.cons_append]
  have hindex' := (h.sequence_eq hm₀ hsplit).1
  have hindex := (h.sequence_eq hm₀ (rfl : ps ++ [p] = ps ++ p :: [])).1
  have hlen := congrArg List.length heq
  rw [List.length_append, List.length_cons] at hlen
  omega

lemma Linked.nodup (h : Linked S m₀ ps) : ps.Nodup := by
  induction ps using List.reverseRecOn with
  | nil => exact List.nodup_nil
  | append_singleton ps p ih =>
    rw [← List.concat_eq_append]
    exact List.Nodup.concat (fun hp => h.fresh hm₀ p hp rfl) (ih h.left)

end

/-! ## The invariant -/

variable (S)

/-- The disk holds the committed messages `ps` of a session that started with the manifest `m₀`,
and the prepared message `q`. -/
structure Consistent (m₀ : HarnessSessionManifest) (d : SessionDisk)
    (ps : List HarnessSessionPrepare) (q : Option HarnessSessionPrepare) : Prop where
  linked : Linked S m₀ (ps ++ q.toList)
  prepares : d.prepares.entries = (ps ++ q.toList).map fun p => (p.prepareId, .whole p)
  commits : ∀ p ∈ ps, ∃ at_, d.commits.get? (commitId p.message) = some (.whole (S.commit p at_))
  committed : ∀ id ∈ d.commits.keys, ∃ p ∈ ps, id = commitId p.message
  messages : ∀ p ∈ ps, d.messages.get? (messageFile p.message) = some (.whole p.message)
  visible : ∀ name f, d.messages.get? name = some f →
    ∃ p ∈ ps ++ q.toList, name = messageFile p.message ∧ f = .whole p.message
  manifest : ∃ before after, ps = before ++ after ∧ after.length ≤ 1 ∧
    d.manifest = some (manifestAt m₀ before)

/-- Some list of messages describes the disk. -/
def Sound (m₀ : HarnessSessionManifest) (d : SessionDisk) : Prop := ∃ ps q, Consistent S m₀ d ps q

variable {S}

namespace Consistent

variable {d : SessionDisk}

lemma mem_pending : p ∈ ps ++ (some p).toList := by simp

/-! ### Reading the disk -/

lemma get_prepare (h : Consistent S m₀ d ps q) (hp : p ∈ ps ++ q.toList) :
    d.prepares.get? p.prepareId = some (.whole p) := by
  rw [Dict.get?_eq_some_iff, h.prepares]
  exact List.mem_map_of_mem hp

/-- The prepared message comes after the committed ones. -/
lemma pending_fresh (hm₀ : m₀.version = 0) (h : Consistent S m₀ d ps (some p)) :
    ∀ p' ∈ ps, p'.message.sequence ≠ p.message.sequence :=
  Linked.fresh hm₀ h.linked

lemma get_commit_none (hm₀ : m₀.version = 0) (h : Consistent S m₀ d ps (some p)) :
    d.commits.get? (commitId p.message) = none := by
  rw [Dict.get?_eq_none_iff]
  intro hkey
  obtain ⟨p', hp', hid⟩ := h.committed _ hkey
  exact h.pending_fresh hm₀ p' hp' (commitId_inj hid).symm

/-- A file under the name of a message is this message. -/
lemma get_message (hm₀ : m₀.version = 0) (h : Consistent S m₀ d ps q) (hp : p ∈ ps ++ q.toList)
    {f : File HarnessSessionMessage} (hf : d.messages.get? (messageFile p.message) = some f) :
    f = .whole p.message := by
  obtain ⟨p', hp', hname, rfl⟩ := h.visible _ _ hf
  rw [h.linked.eq_of_sequence hm₀ hp hp' (messageFile_inj hname)]

/-! ### Steps -/

lemma with_lock (h : Consistent S m₀ d ps q) (lock : Bool) :
    Consistent S m₀ { d with lock := lock } ps q :=
  { h with }

lemma with_manifest (h : Consistent S m₀ d ps q) :
    Consistent S m₀ { d with manifest := some (manifestAt m₀ ps) } ps q :=
  { h with manifest := ⟨ps, [], by simp, by simp, rfl⟩ }

/-- A message built on the manifest of a session without a prepared message can be prepared. -/
lemma with_prepare (hm₀ : m₀.version = 0) (h : Consistent S m₀ d ps none)
    (hp : Follows S (manifestAt m₀ ps) p) :
    d.prepares.get? p.prepareId = none ∧
      Consistent S m₀ { d with prepares := d.prepares.set p.prepareId (.whole p) } ps (some p) := by
  have hsame : ps ++ (none : Option HarnessSessionPrepare).toList = ps := by simp
  have hlinked : Linked S m₀ (ps ++ [p]) := by
    apply Linked.append _ hp
    have hold := h.linked
    rwa [hsame] at hold
  have hkey : p.prepareId ∉ d.prepares.keys := by
    unfold Dict.keys
    rw [h.prepares, hsame, List.map_map, List.mem_map]
    rintro ⟨p', hp', hid⟩
    obtain ⟨before, after, heq⟩ := List.append_of_mem hp'
    have hfollows := hlinked before p' (after ++ [p]) (by
      rw [heq, List.append_assoc, List.cons_append])
    have hids : prepareId p'.message = prepareId p.message :=
      hfollows.id_eq.symm.trans (hid.trans hp.id_eq)
    exact hlinked.fresh hm₀ p' hp' (prepareId_inj hids)
  refine ⟨Dict.get?_eq_none_iff.mpr hkey, hlinked, ?_, h.commits, h.committed, h.messages, ?_,
    h.manifest⟩
  · rw [Dict.entries_set_of_not_mem hkey, h.prepares, hsame, Option.toList_some, List.map_append,
      List.map_singleton]
  · intro name f hf
    obtain ⟨p', hp', hname⟩ := h.visible name f hf
    rw [hsame] at hp'
    exact ⟨p', List.mem_append_left _ hp', hname⟩

section

variable (hm₀ : m₀.version = 0) (h : Consistent S m₀ d ps (some p))
include hm₀ h

lemma with_message :
    Consistent S m₀ { d with messages := d.messages.set (messageFile p.message) (.whole p.message) }
      ps (some p) := by
  refine { h with messages := ?_, visible := ?_ }
  · intro p' hp'
    have hne : messageFile p.message ≠ messageFile p'.message := fun hname =>
      h.pending_fresh hm₀ p' hp' (messageFile_inj hname).symm
    rw [Dict.get?_set, if_neg hne]
    exact h.messages p' hp'
  · intro name f hf
    rw [Dict.get?_set] at hf
    by_cases hname : messageFile p.message = name
    · rw [if_pos hname, Option.some.injEq] at hf
      exact ⟨p, mem_pending, hname.symm, hf.symm⟩
    · rw [if_neg hname] at hf
      exact h.visible name f hf

/-- A prepared message that is on the disk is committed by its commit record. -/
lemma with_commit
    (hmessage : d.messages.get? (messageFile p.message) = some (.whole p.message))
    (hmanifest : d.manifest = some (manifestAt m₀ ps)) (at_ : ℕ) :
    Consistent S m₀
      { d with commits := d.commits.set (commitId p.message) (.whole (S.commit p at_)) }
      (ps ++ [p]) none := by
  have hsame : ps ++ [p] ++ (none : Option HarnessSessionPrepare).toList
      = ps ++ (some p).toList := by simp
  refine ⟨?_, ?_, ?_, ?_, ?_, ?_, ps, [p], rfl, by simp, hmanifest⟩
  · rw [hsame]
    exact h.linked
  · rw [hsame]
    exact h.prepares
  · intro p' hp'
    rcases List.mem_append.mp hp' with hps | hlast
    · have hne : commitId p.message ≠ commitId p'.message := fun hid =>
        h.pending_fresh hm₀ p' hps (commitId_inj hid).symm
      rw [Dict.get?_set, if_neg hne]
      exact h.commits p' hps
    · rw [List.mem_singleton.mp hlast, Dict.get?_set, if_pos rfl]
      exact ⟨at_, rfl⟩
  · intro id hid
    rcases Dict.mem_keys_set.mp hid with rfl | hold
    · exact ⟨p, by simp, rfl⟩
    · obtain ⟨p', hp', heq⟩ := h.committed id hold
      exact ⟨p', List.mem_append_left _ hp', heq⟩
  · intro p' hp'
    rcases List.mem_append.mp hp' with hps | hlast
    · exact h.messages p' hps
    · rw [List.mem_singleton.mp hlast]
      exact hmessage
  · rw [hsame]
    exact h.visible

/-- The file of a prepared message can be removed. -/
lemma without_message :
    Consistent S m₀ { d with messages := d.messages.erase (messageFile p.message) } ps (some p) := by
  refine { h with messages := ?_, visible := ?_ }
  · intro p' hp'
    have hne : messageFile p.message ≠ messageFile p'.message := fun hname =>
      h.pending_fresh hm₀ p' hp' (messageFile_inj hname).symm
    rw [Dict.get?_erase, if_neg hne]
    exact h.messages p' hp'
  · intro name f hf
    rw [Dict.get?_erase] at hf
    by_cases hname : messageFile p.message = name
    · simp [hname] at hf
    · rw [if_neg hname] at hf
      exact h.visible name f hf

end

/-- A prepared message that is not on the disk can be dropped. -/
lemma without_prepare (h : Consistent S m₀ d ps (some p))
    (hmessage : d.messages.get? (messageFile p.message) = none) :
    Consistent S m₀ { d with prepares := d.prepares.erase p.prepareId } ps none := by
  have hsame : ps ++ (none : Option HarnessSessionPrepare).toList = ps := by simp
  refine ⟨?_, ?_, h.commits, h.committed, h.messages, ?_, h.manifest⟩
  · rw [hsame]
    exact h.linked.left
  · have hprepares := h.prepares
    rw [Option.toList_some, List.map_append, List.map_singleton] at hprepares
    rw [Dict.entries_erase_of_last hprepares, hsame]
  · intro name f hf
    obtain ⟨p', hp', hname, hf'⟩ := h.visible name f hf
    rcases List.mem_append.mp hp' with hps | hpending
    · exact ⟨p', List.mem_append_left _ hps, hname, hf'⟩
    · rw [Option.toList_some, List.mem_singleton] at hpending
      rw [hname, hpending, hmessage] at hf
      exact absurd hf (by simp)

end Consistent

end HarnessSessionStore
end Agintor.Storage
