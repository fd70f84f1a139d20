import Agintor.Storage.FactoryCrashTheorems

/-!
# The order of the factory chat

Recovery replays the prepare records in the order of their file names, and a reader lists the
messages in the order of their directory names. Both names begin with the message number, padded to
four digits, so they sort by number as long as four digits are enough.
-/

namespace Agintor.Storage

open Agintor.Core Lib

namespace HarnessFactoryTransactionStore

/-- The disk holds the prepare records and the message directories of the chat `ps`. -/
structure HoldsChat (d : FactoryDisk) (ps : List HarnessFactoryPrepare) : Prop where
  named : ∀ p ∈ ps, Named p
  index_eq : ∀ i (p : HarnessFactoryPrepare), ps[i]? = some p → p.message.messageIndex = i
  prepares : d.prepares.keys.Perm (ps.map (·.transactionId))
  messages : d.messages.entries.Perm (ps.map fun p => (messageDirName p.message, fullDir p))
  clear : Clear d.temps

/-- The records are replayed, and the messages listed, from the first to the last. -/
structure InChatOrder (d : FactoryDisk) (ps : List HarnessFactoryPrepare) : Prop where
  replayed : sortedPrepares d = ps.map (·.transactionId)
  head : (sortedPrepares d).getLast? = ps.getLast?.map (·.transactionId)
  listed : messages d = .ok (ps.map (·.message))

/-! ## The names -/

/-- The first number with five digits sorts before the last one with four. -/
lemma zeroPadChars_ten_thousand_lt (s t : List Char) :
    zeroPadChars 4 10000 ++ s < zeroPadChars 4 9999 ++ t := by
  have hfive : zeroPadChars 4 10000 = ['1', '0', '0', '0', '0'] := by decide
  have hfour : zeroPadChars 4 9999 = ['9', '9', '9', '9'] := by decide
  rw [hfive, hfour, List.cons_append, List.cons_append (a := '9'), List.cons_lt_cons_iff]
  exact Or.inl (by decide)

lemma prepareFile_ten_thousand_lt {p p' : HarnessFactoryPrepare} (h : Named p) (h' : Named p')
    (hindex : p.message.messageIndex = 9999) (hindex' : p'.message.messageIndex = 10000) :
    prepareFile p'.transactionId < prepareFile p.transactionId := by
  obtain ⟨seed, hid, -⟩ := h
  obtain ⟨seed', hid', -⟩ := h'
  rw [hid, hid', hindex, hindex', String.lt_iff_toList_lt]
  unfold prepareFile transactionName
  simp only [String.toList_append, toList_zeroPad, List.append_assoc]
  apply List.append_left_lt
  apply List.append_left_lt
  exact zeroPadChars_ten_thousand_lt _ _

section Order

variable {d : FactoryDisk} {ps : List HarnessFactoryPrepare}

section

variable (h : HoldsChat d ps)
include h

lemma HoldsChat.pairwise_index :
    ps.Pairwise fun p p' => p.message.messageIndex < p'.message.messageIndex := by
  rw [List.pairwise_iff_getElem]
  intro i j hi hj hij
  rw [h.index_eq i _ (List.getElem?_eq_getElem hi), h.index_eq j _ (List.getElem?_eq_getElem hj)]
  exact hij

lemma HoldsChat.index_lt {p : HarnessFactoryPrepare} (hp : p ∈ ps) :
    p.message.messageIndex < ps.length := by
  obtain ⟨i, hi, rfl⟩ := List.getElem_of_mem hp
  rw [h.index_eq i _ (List.getElem?_eq_getElem hi)]
  exact hi

/-- Up to 10000 messages every file name sorts by number. -/
lemma HoldsChat.sortedPrepares_eq (hlen : ps.length ≤ 10000) :
    sortedPrepares d = ps.map (·.transactionId) := by
  have hps : ps.Pairwise fun p p' =>
      prepareFile p.transactionId < prepareFile p'.transactionId := by
    apply h.pairwise_index.imp_of_mem
    intro p p' hp hp' hlt
    apply prepareFile_lt (h.named p hp) (h.named p' hp') hlt
    have := h.index_lt hp'
    omega
  have hsorted : (sortedPrepares d).Perm (ps.map (·.transactionId)) :=
    (List.perm_insertionSort _ _).trans h.prepares
  apply List.Perm.eq_of_pairwise ?_ (pairwise_sortedPrepares d) ?_ hsorted
  · -- a file name belongs to one transaction
    intro t t' ht ht' hle hge
    have heq : prepareFile t = prepareFile t' := le_antisymm hle hge
    rwa [prepareFile, prepareFile, String.append_left_inj, String.append_right_inj] at heq
  · rw [List.pairwise_map]
    exact hps.imp fun hlt => le_of_lt hlt

lemma HoldsChat.inChatOrder (hlen : ps.length ≤ 10000) :
    InChatOrder d ps where
  replayed := h.sortedPrepares_eq hlen
  head := by rw [h.sortedPrepares_eq hlen, List.getLast?_map]
  listed := by
    apply messages_eq_of_perm h.messages ?_ h.clear
    apply h.pairwise_index.imp_of_mem
    intro p p' _ hp' hlt
    apply messageDirName_lt hlt
    have := h.index_lt hp'
    omega

/-- The eleventh thousand begins before the end of the tenth. -/
lemma HoldsChat.not_inChatOrder (hlen : 10000 < ps.length) :
    ¬InChatOrder d ps := by
  intro horder
  have hsorted := pairwise_sortedPrepares d
  rw [horder.replayed, List.pairwise_map, List.pairwise_iff_getElem] at hsorted
  have hle := hsorted 9999 10000 (by omega) hlen (by omega)
  have hlt := prepareFile_ten_thousand_lt (h.named _ (List.getElem_mem _))
    (h.named _ (List.getElem_mem _)) (h.index_eq 9999 _ (List.getElem?_eq_getElem (by omega)))
    (h.index_eq 10000 _ (List.getElem?_eq_getElem hlen))
  exact absurd hle (not_le.mpr hlt)

end

/-- Recovery and listing follow message order as long as four digits number the messages. -/
theorem inChatOrder_iff (h : HoldsChat d ps) : InChatOrder d ps ↔ ps.length ≤ 10000 := by
  constructor
  · intro horder
    by_contra hlong
    exact h.not_inChatOrder (by omega) horder
  · exact h.inChatOrder

end Order

/-! ## A chat of any length -/

/-- What identifies message number `i` of the sample chat. -/
def numberedIdentity (i : ℕ) : MessageIdentity where
  chatId := "chat"
  messageIndex := i
  parentMessageId := if i = 0 then none else some (messageName (zeroPad 4 (i - 1)))
  priorActiveReleaseDigest := if i = 0 then none else some (zeroPad 4 (i - 1))
  newReleaseDigest := zeroPad 4 i
  newManifestDigest := zeroPad 4 i
  newProtocolDigest := sampleDigest
  compiledSemanticDigest := sampleDigest
  dependencyManifestDigest := sampleDigest
  epochManifestDigest := sampleDigest
  promptText := "prompt"
  searchResultDigest := sampleDigest
  selectionEvidenceDigests := [sampleDigest]

lemma numberedIdentity_bound (i : ℕ) : (numberedIdentity i).Bound := by
  by_cases hi : i = 0
  · simp [MessageIdentity.Bound, numberedIdentity, hi]
  · simp [MessageIdentity.Bound, numberedIdentity, hi]

def numberedMessage (i : ℕ) : HarnessFactoryMessage where
  toMessageIdentity := numberedIdentity i
  messageId := messageName (zeroPad 4 i)
  transactionId := transactionName i (zeroPad 4 i)
  createdAtMs := i
  bound := numberedIdentity_bound i
  evidence := List.cons_ne_nil _ _

def numberedManifest (i : ℕ) : HarnessReleaseManifest where
  releaseDigest := zeroPad 4 i
  manifestDigest := zeroPad 4 i
  protocolSourceDigest := sampleDigest
  compiledSemanticDigest := sampleDigest
  dependencyManifestDigest := sampleDigest
  epochManifestDigest := sampleDigest

def numberedPrepare (i : ℕ) : HarnessFactoryPrepare where
  transactionId := transactionName i (zeroPad 4 i)
  chatId := "chat"
  priorChatDigest := none
  priorActiveReleaseDigest := (numberedIdentity i).priorActiveReleaseDigest
  materialized := ⟨numberedManifest i⟩
  message := numberedMessage i
  nextChat := sampleStore.nextChat none (numberedMessage i) ⟨numberedManifest i⟩ i
  message_transaction := rfl
  message_chat := ⟨rfl, rfl⟩
  message_release := rfl
  message_manifest := rfl
  message_protocol := rfl
  chat_release := rfl
  chat_message := rfl

lemma numberedPrepare_named (i : ℕ) : Named (numberedPrepare i) := ⟨zeroPad 4 i, rfl, rfl⟩

def numberedChat (n : ℕ) : List HarnessFactoryPrepare := (List.range n).map numberedPrepare

def numberedRecords (n : ℕ) : List (String × File HarnessFactoryPrepare) :=
  (numberedChat n).map fun p => (p.transactionId, .whole p)

def numberedDirectories (n : ℕ) : List (String × MessageDir) :=
  (numberedChat n).map fun p => (messageDirName p.message, fullDir p)

lemma nodup_numberedRecords (n : ℕ) : ((numberedRecords n).map Prod.fst).Nodup := by
  rw [numberedRecords, List.map_map, numberedChat, List.map_map]
  apply List.Nodup.map _ List.nodup_range
  intro i j hij
  exact (transactionName_inj hij).1

lemma nodup_numberedDirectories (n : ℕ) : ((numberedDirectories n).map Prod.fst).Nodup := by
  rw [numberedDirectories, List.map_map, numberedChat, List.map_map]
  apply List.Nodup.map _ List.nodup_range
  intro i j hij
  have hid := (numberedPrepare_named i).transactionId_eq (numberedPrepare_named j) hij
  exact (transactionName_inj hid).1

/-- The disk of the sample chat. -/
def numberedDisk (n : ℕ) : FactoryDisk where
  root := true
  lock := false
  prepares := ⟨numberedRecords n, nodup_numberedRecords n⟩
  intents := .empty
  committed := .empty
  staging := .empty
  messages := ⟨numberedDirectories n, nodup_numberedDirectories n⟩
  temps := []
  chat := none
  pointer := none

lemma holdsChat_numberedDisk (n : ℕ) : HoldsChat (numberedDisk n) (numberedChat n) where
  named p hp := by
    obtain ⟨i, _, rfl⟩ := List.mem_map.mp hp
    exact numberedPrepare_named i
  index_eq i p hp := by
    rw [numberedChat, List.getElem?_map, Option.map_eq_some_iff] at hp
    obtain ⟨j, hj, rfl⟩ := hp
    obtain ⟨_, hj⟩ := List.getElem?_eq_some_iff.mp hj
    rw [List.getElem_range] at hj
    exact hj.symm
  prepares := by
    show ((numberedRecords n).map Prod.fst).Perm _
    rw [numberedRecords, List.map_map]
    exact List.Perm.refl _
  messages := List.Perm.refl _
  clear := fun s hs => absurd hs List.not_mem_nil

/-- A chat with three messages is replayed and listed in order. -/
theorem inChatOrder_iff_three :
    InChatOrder (numberedDisk 3) (numberedChat 3) ↔ (numberedChat 3).length ≤ 10000 :=
  inChatOrder_iff (holdsChat_numberedDisk 3)

/-- A chat with 10001 messages is not. -/
theorem chat_out_of_order :
    HoldsChat (numberedDisk 10001) (numberedChat 10001) ∧
      ¬InChatOrder (numberedDisk 10001) (numberedChat 10001) := by
  refine ⟨holdsChat_numberedDisk 10001, (holdsChat_numberedDisk 10001).not_inChatOrder ?_⟩
  rw [numberedChat, List.length_map, List.length_range]
  omega

end HarnessFactoryTransactionStore

end Agintor.Storage
