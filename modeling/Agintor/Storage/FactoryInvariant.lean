import Agintor.Storage.FactoryTransaction

/-!
# The invariant of the factory store

Between two steps of any call the WAL describes the chat: the committed transactions, in the
order in which their commit intents were written, and at most one prepared transaction after
them. What is visible belongs to committed transactions only. `Consistent` states this, and
the lemmas say for each kind of step how it moves the invariant along.
-/

namespace Agintor.Storage

open Agintor.Core Lib

namespace HarnessFactoryTransactionStore

/-! ## Names -/

lemma transactionName_inj {i j : ℕ} {s t : String}
    (h : transactionName i s = transactionName j t) : i = j ∧ takeChars 20 s = takeChars 20 t := by
  unfold transactionName at h
  have hl := congrArg String.toList h
  simp only [String.toList_append, toList_zeroPad, List.append_assoc, List.append_cancel_left_eq]
    at hl
  obtain ⟨hij, hst⟩ := zeroPadChars_append_cons_inj (c := '.') (by decide) hl
  exact ⟨hij, String.toList_inj.mp hst⟩

/-- The transaction and the message of a prepared record are named after one seed. -/
def Named (p : HarnessFactoryPrepare) : Prop :=
  ∃ seed, p.transactionId = transactionName p.message.messageIndex seed ∧
    p.message.messageId = messageName seed

/-- Two transactions with different ids have different message directories. -/
lemma Named.transactionId_eq {p p' : HarnessFactoryPrepare} (h : Named p) (h' : Named p')
    (hdir : messageDirName p.message = messageDirName p'.message) :
    p.transactionId = p'.transactionId := by
  obtain ⟨seed, htxn, hmsg⟩ := h
  obtain ⟨seed', htxn', hmsg'⟩ := h'
  unfold messageDirName at hdir
  have hl := congrArg String.toList hdir
  simp only [String.toList_append, toList_zeroPad, List.append_assoc] at hl
  obtain ⟨hindex, hid⟩ := zeroPadChars_append_cons_inj (c := '_') (by decide) hl
  have hids : p.message.messageId = p'.message.messageId := String.toList_inj.mp hid
  rw [hmsg, hmsg'] at hids
  unfold messageName at hids
  rw [String.append_right_inj] at hids
  rw [htxn, htxn', hindex]
  unfold transactionName
  rw [hids]

/-! ## The chain of messages -/

/-- `p` continues the chat whose last transaction is `prior`, as message number `index`. -/
structure Succeeds (prior : Option HarnessFactoryPrepare) (index : ℕ) (p : HarnessFactoryPrepare) :
    Prop where
  index_eq : p.message.messageIndex = index
  parent : p.message.parentMessageId = prior.map (·.message.messageId)
  release : p.message.priorActiveReleaseDigest = prior.map (·.message.newReleaseDigest)
  count : p.nextChat.messageCount = index + 1

/-- Each transaction continues the one before it. -/
def Linked (ps : List HarnessFactoryPrepare) : Prop :=
  ∀ i p, ps[i]? = some p → Succeeds (if i = 0 then none else ps[i - 1]?) i p

lemma Linked.append {ps : List HarnessFactoryPrepare} {p : HarnessFactoryPrepare} (h : Linked ps)
    (hp : Succeeds ps.getLast? ps.length p) : Linked (ps ++ [p]) := by
  intro i q hq
  by_cases hi : i < ps.length
  · rw [List.getElem?_append_left hi] at hq
    have hs := h i q hq
    by_cases hzero : i = 0
    · rw [if_pos hzero] at hs ⊢
      exact hs
    · rw [if_neg hzero] at hs ⊢
      rwa [List.getElem?_append_left (by omega)]
  · have hlen : i < (ps ++ [p]).length := (List.getElem?_eq_some_iff.mp hq).1
    have hi' : i = ps.length := by
      rw [List.length_append, List.length_singleton] at hlen
      omega
    rw [hi', List.getElem?_concat_length, Option.some.injEq] at hq
    rw [← hq, hi']
    by_cases hzero : ps.length = 0
    · rw [if_pos hzero]
      rw [List.length_eq_zero_iff.mp hzero] at hp ⊢
      exact hp
    · rw [if_neg hzero, List.getElem?_append_left (by omega), ← List.getLast?_eq_getElem?]
      exact hp

lemma Linked.left {ps qs : List HarnessFactoryPrepare} (h : Linked (ps ++ qs)) : Linked ps := by
  intro i p hp
  have hi : i < ps.length := (List.getElem?_eq_some_iff.mp hp).1
  have hs := h i p (by rwa [List.getElem?_append_left hi])
  by_cases hzero : i = 0
  · rw [if_pos hzero] at hs ⊢
    exact hs
  · rw [if_neg hzero] at hs ⊢
    rwa [List.getElem?_append_left (by omega)] at hs

/-! ## The invariant -/

/-- The complete directory of a transaction's message. -/
def fullDir (p : HarnessFactoryPrepare) : MessageDir where
  message := some (.whole p.message)
  prompt := some (.whole (p.message.promptText ++ "\n"))

/-- A directory with some of the files of a transaction's message. -/
structure PartOf (s : MessageDir) (p : HarnessFactoryPrepare) : Prop where
  message : ∀ f, s.message = some f → f = .whole p.message
  prompt : ∀ f, s.prompt = some f → f = .whole (p.message.promptText ++ "\n")

lemma partOf_fullDir (p : HarnessFactoryPrepare) : PartOf (fullDir p) p := by
  refine ⟨?_, ?_⟩
  · intro f hf
    exact (Option.some.inj hf).symm
  · intro f hf
    exact (Option.some.inj hf).symm

lemma partOf_empty (p : HarnessFactoryPrepare) : PartOf {} p := by
  refine ⟨?_, ?_⟩
  · intro f hf
    exact absurd hf (by simp)
  · intro f hf
    exact absurd hf (by simp)

variable (S : HarnessFactoryTransactionStore)

/-- The disk holds the committed transactions `ps`, in the order of their commit intents, and
the prepared transaction `q`. The links are only claimed while the four digits of a
transaction's name sort it by its number. -/
structure Consistent (d : FactoryDisk) (ps : List HarnessFactoryPrepare)
    (q : Option HarnessFactoryPrepare) : Prop where
  named : ∀ p ∈ ps ++ q.toList, Named p
  prepares : d.prepares.entries = (ps ++ q.toList).map fun p => (p.transactionId, .whole p)
  intents : d.intents.entries = ps.map fun p => (p.transactionId, .whole (S.commitIntent p))
  committed : ∀ t f, d.committed.get? t = some f → ∃ p ∈ ps, p.transactionId = t ∧ ∃ at_,
    f = .whole (S.committedMarker p (S.commitIntent p) (activePointer p.materialized) at_)
  staged : ∀ p ∈ ps, d.staging.get? p.transactionId = some (fullDir p)
  staging : ∀ t s, d.staging.get? t = some s →
    ∃ p ∈ ps ++ q.toList, p.transactionId = t ∧ PartOf s p
  messages : ∀ name dir, d.messages.get? name = some dir →
    ∃ p ∈ ps, name = messageDirName p.message ∧ dir = fullDir p
  heads : ps = [] → d.chat = none ∧ d.pointer = none
  linked : ps.length ≤ 10000 → Linked (ps ++ q.toList)

/-- Some list of transactions describes the disk. -/
def Sound (d : FactoryDisk) : Prop := ∃ ps q, Consistent S d ps q

lemma consistent_empty : Consistent S .empty [] none where
  named := by simp
  prepares := rfl
  intents := rfl
  committed := by simp [FactoryDisk.empty]
  staged := by simp
  staging := by simp [FactoryDisk.empty]
  messages := by simp [FactoryDisk.empty]
  heads := fun _ => ⟨rfl, rfl⟩
  linked := by simp [Linked]

namespace Consistent

variable {S} {d d' : FactoryDisk} {ps : List HarnessFactoryPrepare}
  {q : Option HarnessFactoryPrepare} {p : HarnessFactoryPrepare}

/-! ### Reading the disk -/

section

variable (h : Consistent S d ps q)
include h

lemma keys_prepares :
    d.prepares.keys = (ps ++ q.toList).map (·.transactionId) := by
  unfold Dict.keys
  rw [h.prepares, List.map_map]
  rfl

lemma nodup : ((ps ++ q.toList).map (·.transactionId)).Nodup := by
  rw [← h.keys_prepares]
  exact d.prepares.nodup

lemma eq_of_transactionId {p' : HarnessFactoryPrepare}
    (hp : p ∈ ps ++ q.toList) (hp' : p' ∈ ps ++ q.toList)
    (hid : p.transactionId = p'.transactionId) : p = p' :=
  List.inj_on_of_nodup_map h.nodup hp hp' hid

lemma get_prepare (hp : p ∈ ps ++ q.toList) :
    d.prepares.get? p.transactionId = some (.whole p) := by
  rw [Dict.get?_eq_some_iff, h.prepares]
  exact List.mem_map_of_mem hp

lemma get_prepare_none
    (hnew : ∀ p' ∈ ps ++ q.toList, p'.transactionId ≠ p.transactionId) :
    d.prepares.get? p.transactionId = none := by
  rw [Dict.get?_eq_none_iff, h.keys_prepares, List.mem_map]
  rintro ⟨p', hp', hid⟩
  exact hnew p' hp' hid

lemma get_intent (hp : p ∈ ps) :
    d.intents.get? p.transactionId = some (.whole (S.commitIntent p)) := by
  rw [Dict.get?_eq_some_iff, h.intents]
  exact List.mem_map_of_mem hp

lemma get_intent_none (hnew : ∀ p' ∈ ps, p'.transactionId ≠ p.transactionId) :
    d.intents.get? p.transactionId = none := by
  rw [Dict.get?_eq_none_iff]
  unfold Dict.keys
  rw [h.intents, List.map_map, List.mem_map]
  rintro ⟨p', hp', hid⟩
  exact hnew p' hp' hid

end

/-- The prepared transaction is none of the committed ones. -/
lemma pending_fresh (h : Consistent S d ps (some p)) : ∀ p' ∈ ps, p'.transactionId ≠ p.transactionId := by
  intro p' hp' hid
  have hnodup := h.nodup
  rw [Option.toList_some, List.map_append, List.nodup_append] at hnodup
  exact hnodup.2.2 _ (List.mem_map_of_mem hp') _ (by simp) hid

lemma staged_partOf (h : Consistent S d ps q) (hp : p ∈ ps ++ q.toList) {s : MessageDir}
    (hs : d.staging.get? p.transactionId = some s) : PartOf s p := by
  obtain ⟨p', hp', hid, hpart⟩ := h.staging _ _ hs
  rwa [h.eq_of_transactionId hp hp' hid.symm]

/-- A directory under a transaction's name is its own. -/
lemma get_message (h : Consistent S d ps q) (hp : p ∈ ps) {dir : MessageDir}
    (hdir : d.messages.get? (messageDirName p.message) = some dir) : dir = fullDir p := by
  obtain ⟨p', hp', hname, rfl⟩ := h.messages _ _ hdir
  have hid := (h.named p (List.mem_append_left _ hp)).transactionId_eq
    (h.named p' (List.mem_append_left _ hp')) hname
  rw [h.eq_of_transactionId (List.mem_append_left _ hp) (List.mem_append_left _ hp') hid]

/-! ### Steps -/

section

variable (h : Consistent S d ps q)
include h

lemma with_temps (temps : List MessageDir) :
    Consistent S { d with temps := temps } ps q :=
  { h with }

lemma with_lock (lock : Bool) :
    Consistent S { d with lock := lock } ps q :=
  { h with }

lemma with_root (root : Bool) :
    Consistent S { d with root := root } ps q :=
  { h with }

lemma with_pointer (hp : p ∈ ps) (x : Option ActiveReleasePointer) :
    Consistent S { d with pointer := x } ps q := by
  refine { h with heads := ?_ }
  intro hnil
  exact absurd hp (by simp [hnil])

lemma with_chat (hp : p ∈ ps) (x : Option HarnessFactoryChatManifest) :
    Consistent S { d with chat := x } ps q := by
  refine { h with heads := ?_ }
  intro hnil
  exact absurd hp (by simp [hnil])

/-- A staging directory may change as long as it holds nothing but its transaction's files,
and all of them once the transaction is committed. -/
lemma with_staging (hp : p ∈ ps ++ q.toList) {f : MessageDir → MessageDir}
    (hpart : ∀ s, PartOf s p → PartOf (f s) p) (hfull : p ∈ ps → f (fullDir p) = fullDir p) :
    Consistent S (d.modifyStaging p.transactionId f) ps q := by
  have hcurrent : PartOf ((d.staging.get? p.transactionId).getD {}) p := by
    cases hs : d.staging.get? p.transactionId with
    | none => exact partOf_empty p
    | some s => exact h.staged_partOf hp hs
  refine { h with staged := ?_, staging := ?_ }
  · intro p' hp'
    show (d.staging.set p.transactionId _).get? p'.transactionId = _
    rw [Dict.get?_set]
    by_cases hid : p.transactionId = p'.transactionId
    · have heq := h.eq_of_transactionId hp (List.mem_append_left _ hp') hid
      rw [if_pos hid, heq, h.staged p' hp', Option.getD_some]
      rw [← heq] at hp' ⊢
      rw [hfull hp']
    · rw [if_neg hid]
      exact h.staged p' hp'
  · intro t s hs
    have hs' : (if p.transactionId = t then some (f ((d.staging.get? p.transactionId).getD {}))
        else d.staging.get? t) = some s := by
      rw [← Dict.get?_set]
      exact hs
    by_cases hid : p.transactionId = t
    · rw [if_pos hid, Option.some.injEq] at hs'
      refine ⟨p, hp, hid, ?_⟩
      rw [← hs']
      exact hpart _ hcurrent
    · rw [if_neg hid] at hs'
      exact h.staging t s hs'

lemma with_message (hp : p ∈ ps) :
    Consistent S { d with messages := d.messages.set (messageDirName p.message) (fullDir p) } ps
      q := by
  refine { h with messages := ?_ }
  intro name dir hdir
  rw [Dict.get?_set] at hdir
  by_cases hname : messageDirName p.message = name
  · rw [if_pos hname, Option.some.injEq] at hdir
    exact ⟨p, hp, hname.symm, hdir.symm⟩
  · rw [if_neg hname] at hdir
    exact h.messages name dir hdir

lemma with_committed (hp : p ∈ ps) (at_ : ℕ) :
    Consistent S { d with committed := d.committed.set p.transactionId (.whole
      (S.committedMarker p (S.commitIntent p) (activePointer p.materialized) at_)) } ps q := by
  refine { h with committed := ?_ }
  intro t f ht
  rw [Dict.get?_set] at ht
  by_cases hid : p.transactionId = t
  · rw [if_pos hid, Option.some.injEq] at ht
    exact ⟨p, hp, hid, at_, ht.symm⟩
  · rw [if_neg hid] at ht
    exact h.committed t f ht

end

/-- The staging directory of a prepared transaction can be removed. -/
lemma without_staging (h : Consistent S d ps (some p)) :
    Consistent S { d with staging := d.staging.erase p.transactionId } ps (some p) := by
  refine { h with staged := ?_, staging := ?_ }
  · intro p' hp'
    show (d.staging.erase p.transactionId).get? p'.transactionId = _
    rw [Dict.get?_erase, if_neg (h.pending_fresh p' hp').symm]
    exact h.staged p' hp'
  · intro t s hs
    rw [Dict.get?_erase] at hs
    by_cases hid : p.transactionId = t
    · simp [hid] at hs
    · rw [if_neg hid] at hs
      exact h.staging t s hs

/-- A prepared transaction without a staging directory can be dropped. -/
lemma without_prepare (h : Consistent S d ps (some p))
    (hstaging : d.staging.get? p.transactionId = none) :
    Consistent S { d with prepares := d.prepares.erase p.transactionId } ps none := by
  refine ⟨?_, ?_, h.intents, h.committed, h.staged, ?_, h.messages, h.heads, ?_⟩
  · intro p' hp'
    rw [Option.toList_none, List.append_nil] at hp'
    exact h.named p' (List.mem_append_left _ hp')
  · have hprepares := h.prepares
    rw [Option.toList_some, List.map_append, List.map_singleton] at hprepares
    rw [Dict.entries_erase_of_last hprepares, Option.toList_none, List.append_nil]
  · intro t s hs
    obtain ⟨p', hp', hid, hpart⟩ := h.staging t s hs
    rcases List.mem_append.mp hp' with hps | hq
    · exact ⟨p', List.mem_append_left _ hps, hid, hpart⟩
    · rw [Option.toList_some, List.mem_singleton] at hq
      rw [← hid, hq, hstaging] at hs
      exact absurd hs (by simp)
  · intro hle
    rw [Option.toList_none, List.append_nil]
    exact (h.linked hle).left

/-- A new transaction that continues the chat can be prepared. -/
lemma with_prepare (h : Consistent S d ps none) (hnamed : Named p)
    (hnew : ∀ p' ∈ ps, p'.transactionId ≠ p.transactionId)
    (hlink : ps.length ≤ 10000 → Succeeds ps.getLast? ps.length p) :
    Consistent S { d with prepares := d.prepares.set p.transactionId (.whole p) } ps (some p) := by
  have hsame : ps ++ (none : Option HarnessFactoryPrepare).toList = ps := by simp
  refine ⟨?_, ?_, h.intents, h.committed, h.staged, ?_, h.messages, h.heads, ?_⟩
  · intro p' hp'
    rcases List.mem_append.mp hp' with hps | hq
    · exact h.named p' (List.mem_append_left _ hps)
    · rw [Option.toList_some, List.mem_singleton] at hq
      rwa [hq]
  · have hkey : p.transactionId ∉ d.prepares.keys := by
      rw [h.keys_prepares, hsame, List.mem_map]
      rintro ⟨p', hp', hid⟩
      exact hnew p' hp' hid
    rw [Dict.entries_set_of_not_mem hkey, h.prepares, hsame, Option.toList_some, List.map_append,
      List.map_singleton]
  · intro t s hs
    obtain ⟨p', hp', hid, hpart⟩ := h.staging t s hs
    rw [hsame] at hp'
    exact ⟨p', List.mem_append_left _ hp', hid, hpart⟩
  · intro hle
    have hl := h.linked hle
    rw [hsame] at hl
    exact hl.append (hlink hle)

/-- A fully staged transaction is committed by its commit intent. -/
lemma with_intent (h : Consistent S d ps (some p))
    (hstaged : d.staging.get? p.transactionId = some (fullDir p)) :
    Consistent S { d with intents := d.intents.set p.transactionId (.whole (S.commitIntent p)) }
      (ps ++ [p]) none := by
  have hsame : ps ++ [p] ++ (none : Option HarnessFactoryPrepare).toList
      = ps ++ (some p).toList := by simp
  refine ⟨?_, ?_, ?_, ?_, ?_, ?_, ?_, ?_, ?_⟩
  · rw [hsame]
    exact h.named
  · rw [hsame]
    exact h.prepares
  · have hkey : p.transactionId ∉ d.intents.keys := by
      rw [← Dict.get?_eq_none_iff]
      exact h.get_intent_none h.pending_fresh
    rw [Dict.entries_set_of_not_mem hkey, h.intents, List.map_append, List.map_singleton]
  · intro t f ht
    obtain ⟨p', hp', hmarker⟩ := h.committed t f ht
    exact ⟨p', List.mem_append_left _ hp', hmarker⟩
  · intro p' hp'
    rcases List.mem_append.mp hp' with hps | hlast
    · exact h.staged p' hps
    · rw [List.mem_singleton.mp hlast]
      exact hstaged
  · rw [hsame]
    exact h.staging
  · intro name dir hdir
    obtain ⟨p', hp', hname⟩ := h.messages name dir hdir
    exact ⟨p', List.mem_append_left _ hp', hname⟩
  · intro hnil
    exact absurd hnil (by simp)
  · intro hle
    rw [hsame]
    apply h.linked
    rw [List.length_append] at hle
    omega

end Consistent

end HarnessFactoryTransactionStore
end Agintor.Storage
