import Agintor.Storage.FactoryInvariant

/-!
# What each part of the factory store does

One triple for each function of the store that writes. All of them keep the disk consistent
at every step, so that this is what an interruption leaves; the lock stays held until it is
released, and only death leaves it behind.
-/

namespace Agintor.Storage

open Agintor.Core Lib

namespace HarnessFactoryTransactionStore

/-- The complete commit intents, in the order in which they were written. -/
def committedIntents (d : FactoryDisk) : List HarnessFactoryCommitIntent :=
  d.intents.values.filterMap File.whole?

variable {d : FactoryDisk}

lemma Consistent.committedIntents_eq {S : HarnessFactoryTransactionStore}
    {ps : List HarnessFactoryPrepare} {q : Option HarnessFactoryPrepare} (h : Consistent S d ps q) :
    committedIntents d = ps.map S.commitIntent := by
  unfold committedIntents Dict.values
  rw [h.intents, List.map_map, List.filterMap_map, ← List.filterMap_eq_map]
  rfl

/-- `d'` shows what `d` shows: the same head, the same commit intents, and at least its
messages and markers. -/
structure Keeps (d d' : FactoryDisk) : Prop where
  pointer : d'.pointer = d.pointer
  chat : d'.chat = d.chat
  intents : committedIntents d' = committedIntents d
  messages : ∀ name dir, d.messages.get? name = some dir → d'.messages.get? name = some dir
  committed : ∀ t ∈ d.committed.keys, t ∈ d'.committed.keys

lemma keeps_of_eq {d d' : FactoryDisk} (hpointer : d'.pointer = d.pointer)
    (hchat : d'.chat = d.chat) (hintents : d'.intents = d.intents)
    (hmessages : d'.messages = d.messages) (hcommitted : d'.committed = d.committed) :
    Keeps d d' := by
  refine ⟨hpointer, hchat, ?_, ?_, ?_⟩
  · unfold committedIntents
    rw [hintents]
  · intro name dir hdir
    rwa [hmessages]
  · intro t ht
    rwa [hcommitted]

lemma Keeps.refl (d : FactoryDisk) : Keeps d d := keeps_of_eq rfl rfl rfl rfl rfl

lemma keeps_staging (d : FactoryDisk) (t : String) (f : MessageDir → MessageDir) :
    Keeps d (d.modifyStaging t f) := keeps_of_eq rfl rfl rfl rfl rfl

lemma keeps_message {name : String} (h : d.messages.get? name = none) (dir : MessageDir)
    (temps : List MessageDir) :
    Keeps d { d with temps := temps, messages := d.messages.set name dir } := by
  refine ⟨rfl, rfl, rfl, ?_, fun t ht => ht⟩
  intro name' dir' hdir'
  have hne : name ≠ name' := by
    intro heq
    rw [← heq, h] at hdir'
    exact absurd hdir' (by simp)
  show (d.messages.set name dir).get? name' = some dir'
  rw [Dict.get?_set, if_neg hne]
  exact hdir'

lemma keeps_committed (d : FactoryDisk) (t : String) (f : File HarnessFactoryCommitted) :
    Keeps d { d with committed := d.committed.set t f } :=
  ⟨rfl, rfl, rfl, fun _ _ h => h, fun _ ht => Dict.mem_keys_set.mpr (Or.inr ht)⟩

/-! ## Rules for the runs -/

abbrev FactoryRules := Rules FactoryStep FactoryDisk

/-- No hidden directory holds a message. -/
def Clear (temps : List MessageDir) : Prop := ∀ s ∈ temps, s.message = none

/-- No hidden directory holds a message at the start, a call may meet no fault, and no exception
that only `finally` sees strikes while a hidden directory holds a message. -/
structure Clean (R : FactoryRules) : Prop where
  origin : ∀ d, R.origin d → Clear d.temps
  none : R.pending none
  publishPrompt : ¬R.allowed .publishPrompt .baseException
  renameTemp : ¬R.allowed .renameTemp .baseException

/-- The writer holds the lock. -/
structure Locked (R : FactoryRules) (d : FactoryDisk) : Prop where
  lock : d.lock = true
  root : d.root = true
  clear : Clean R → Clear d.temps

variable (S : HarnessFactoryTransactionStore) (R : FactoryRules)

/-- A process has died, or was stopped at the release of its lock, and left it. -/
structure Abandoned (d : FactoryDisk) : Prop where
  lock : d.lock = true
  root : d.root = true

lemma Locked.abandoned {R : FactoryRules} (h : Locked R d) : Abandoned d :=
  ⟨h.lock, h.root⟩

/-- What a stop inside the writer lock leaves; `raises` is whether the code may raise. -/
abbrev Inside (raises : Prop) : Stop FactoryError → FactoryDisk → Prop :=
  Lib.Inside (fun d => Sound S d ∧ Locked R d) Abandoned fun _ => raises

variable {S R}

/-- Steps that show nothing new are permitted moves. -/
def Quiet (R : FactoryRules) : Prop := ∀ d d', Keeps d d' → R.moves d d'

variable {Q : Unit → FactoryDisk → Prop} {P : FactoryDisk → Prop} {i : FactoryStep}

section

variable (hP : ∀ d, P d → Sound S d ∧ Locked R d)
include hP

variable {torn f : FactoryDisk → FactoryDisk} {raises : Prop}

/-- A step inside the writer lock. -/
lemma Locked.step_of_passes (hgo : R.passes i → ∀ d, P d → R.moves d (f d) ∧ Q () (f d))
    (htorn : ∀ d, P d → R.moves d (torn d) ∧ (torn d).lock = d.lock ∧ (torn d).root = d.root) :
    Triple R P (.step i torn f) Q (Inside S R raises) := by
  apply Triple.inside_step_of_passes (fun d hd => ⟨hP d hd, (hP d hd).2.abandoned⟩) hgo
  intro d hd
  obtain ⟨hmove, hlock, hroot⟩ := htorn d hd
  refine ⟨hmove, ?_, ?_⟩
  · rw [hlock]
    exact (hP d hd).2.lock
  · rw [hroot]
    exact (hP d hd).2.root

lemma Locked.step (hQ : ∀ d, P d → Q () (f d)) (hmoves : ∀ d, P d → R.moves d (f d))
    (htorn : ∀ d, P d → R.moves d (torn d) ∧ (torn d).lock = d.lock ∧ (torn d).root = d.root) :
    Triple R P (.step i torn f) Q (Inside S R raises) :=
  Locked.step_of_passes hP (fun _ d hd => ⟨hmoves d hd, hQ d hd⟩) htorn

/-- A write-once record inside the writer lock. -/
lemma Locked.writeOnce {α : Type} [DecidableEq α] {get : FactoryDisk → Option (File α)}
    {put : File α → FactoryDisk → FactoryDisk} {a : α} {e : FactoryError}
    (hold : ∀ d f, P d → get d = some f → (f = .whole a → Q () d) ∧ (f ≠ .whole a → raises))
    (hnew : ∀ d, P d → get d = none → Q () (put (.whole a) d) ∧ R.moves d (put (.whole a) d))
    (htorn : ∀ d, P d → get d = none → R.moves d (put .torn d) ∧
      (put .torn d).lock = d.lock ∧ (put .torn d).root = d.root) :
    Triple R P (.writeOnce i get put a e) Q (Inside S R raises) := by
  apply Triple.inside_writeOnce (fun d hd => ⟨hP d hd, (hP d hd).2.abandoned⟩) hold hnew
  intro d hd hget
  obtain ⟨hmove, hlock, hroot⟩ := htorn d hd hget
  refine ⟨hmove, ?_, ?_⟩
  · rw [hlock]
    exact (hP d hd).2.lock
  · rw [hroot]
    exact (hP d hd).2.root

end

/-! ## Staging -/

section Parts

variable {ps : List HarnessFactoryPrepare} {q : Option HarnessFactoryPrepare}
  {p : HarnessFactoryPrepare} {F : FactoryDisk → Prop} {raises : Prop}

/-- The state a part of the store works in: consistent, locked, and with a fact `F` about
what is shown. -/
structure Working (S : HarnessFactoryTransactionStore) (R : FactoryRules)
    (ps : List HarnessFactoryPrepare) (q : Option HarnessFactoryPrepare) (F : FactoryDisk → Prop)
    (d : FactoryDisk) : Prop where
  consistent : Consistent S d ps q
  locked : Locked R d
  frame : F d

variable {d : FactoryDisk}

lemma Working.safe (h : Working S R ps q F d) : Sound S d ∧ Locked R d :=
  ⟨⟨ps, q, h.consistent⟩, h.locked⟩

/-- Staging files of a transaction may be written while working. -/
lemma Working.with_staging (h : Working S R ps q F d) (hF : ∀ d d', Keeps d d' → F d → F d')
    (hp : p ∈ ps ++ q.toList) {f : MessageDir → MessageDir}
    (hpart : ∀ s, PartOf s p → PartOf (f s) p) (hfull : p ∈ ps → f (fullDir p) = fullDir p) :
    Working S R ps q F (d.modifyStaging p.transactionId f) where
  consistent := h.consistent.with_staging hp hpart hfull
  locked := ⟨h.locked.lock, h.locked.root, h.locked.clear⟩
  frame := hF _ _ (keeps_staging d _ f) h.frame

lemma get_modifyStaging {t : String} {s : MessageDir} (h : d.staging.get? t = some s)
    (f : MessageDir → MessageDir) : (d.modifyStaging t f).staging.get? t = some (f s) := by
  unfold FactoryDisk.modifyStaging
  rw [Dict.get?_set, if_pos rfl, h, Option.getD_some]

theorem triple_stageMessage (hR : Quiet R) (hF : ∀ d d', Keeps d d' → F d → F d')
    (hp : p ∈ ps ++ q.toList) :
    Triple R (Working S R ps q F) (stageMessage p)
      (fun _ d => Working S R ps q F d ∧ d.staging.get? p.transactionId = some (fullDir p))
      (Inside S R raises) := by
  unfold stageMessage
  -- after each of the three steps the directory holds one file more
  apply Triple.bind (M := fun _ d => Working S R ps q F d ∧
    ∃ s, d.staging.get? p.transactionId = some s)
  · apply Locked.step
    · exact fun d hd => hd.safe
    · intro d hd
      refine ⟨hd.with_staging hF hp (fun _ hs => hs) fun _ => rfl, ?_⟩
      unfold FactoryDisk.modifyStaging
      rw [Dict.get?_set, if_pos rfl]
      exact ⟨_, rfl⟩
    · exact fun d _ => hR _ _ (keeps_staging d _ _)
    · exact fun d _ => ⟨hR _ _ (Keeps.refl d), rfl, rfl⟩
  intro _
  apply Triple.bind (M := fun _ d => Working S R ps q F d ∧
    ∃ s, d.staging.get? p.transactionId = some s ∧ s.message = some (.whole p.message))
  · apply Locked.writeOnce
    · exact fun d hd => hd.1.safe
    · rintro d f ⟨hd, s, hs⟩ hget
      unfold FactoryDisk.stagedMessage at hget
      rw [hs, Option.bind_some] at hget
      have hf := (hd.consistent.staged_partOf hp hs).message f hget
      exact ⟨fun _ => ⟨hd, s, hs, hf ▸ hget⟩, fun hne => absurd hf hne⟩
    · rintro d ⟨hd, s, hs⟩ _
      refine ⟨⟨hd.with_staging hF hp ?_ fun _ => rfl, ?_⟩, hR _ _ (keeps_staging d _ _)⟩
      · intro s' hs'
        exact ⟨(partOf_fullDir p).message, hs'.prompt⟩
      · exact ⟨_, get_modifyStaging hs _, rfl⟩
    · exact fun d _ _ => ⟨hR _ _ (keeps_staging d _ _), rfl, rfl⟩
  intro _
  apply Locked.writeOnce
  · exact fun d hd => hd.1.safe
  · rintro d f ⟨hd, s, hs, hmessage⟩ hget
    unfold FactoryDisk.stagedPrompt at hget
    rw [hs, Option.bind_some] at hget
    have hf := (hd.consistent.staged_partOf hp hs).prompt f hget
    refine ⟨fun _ => ⟨hd, ?_⟩, fun hne => absurd hf hne⟩
    rw [hs, fullDir, ← hmessage, ← hf, ← hget]
  · rintro d ⟨hd, s, hs, hmessage⟩ _
    refine ⟨⟨hd.with_staging hF hp ?_ fun _ => rfl, ?_⟩, hR _ _ (keeps_staging d _ _)⟩
    · intro s' hs'
      exact ⟨hs'.message, (partOf_fullDir p).prompt⟩
    · rw [get_modifyStaging hs, fullDir, ← hmessage]
  · exact fun d _ _ => ⟨hR _ _ (keeps_staging d _ _), rfl, rfl⟩

/-! ## Publishing a message -/

/-- While a hidden directory is being filled: it comes first, and the other ones are clear. -/
structure Filling (S : HarnessFactoryTransactionStore) (R : FactoryRules)
    (ps : List HarnessFactoryPrepare) (q : Option HarnessFactoryPrepare)
    (F : FactoryDisk → Prop) (d : FactoryDisk) : Prop where
  consistent : Consistent S d ps q
  lock : d.lock = true
  root : d.root = true
  frame : F d
  temps : d.temps ≠ []
  others : Clean R → Clear d.temps.tail

/-- What a stop while filling leaves for the clean-up. -/
def WhileFilling (S : HarnessFactoryTransactionStore) (R : FactoryRules)
    (ps : List HarnessFactoryPrepare) (q : Option HarnessFactoryPrepare)
    (F : FactoryDisk → Prop) : Stop FactoryError → FactoryDisk → Prop
  | .killed, d => Abandoned d
  | .raised _, _ => False
  | .exception, d => Filling S R ps q F d
  | .baseException, d => Sound S d ∧ Locked R d

lemma keeps_temp (d : FactoryDisk) (f : MessageDir → MessageDir) : Keeps d (d.modifyTemp f) :=
  keeps_of_eq rfl rfl rfl rfl rfl

lemma Filling.modifyTemp (h : Filling S R ps q F d) (hF : ∀ d d', Keeps d d' → F d → F d')
    (f : MessageDir → MessageDir) : Filling S R ps q F (d.modifyTemp f) := by
  refine ⟨h.consistent.with_temps _, h.lock, h.root, hF _ _ (keeps_temp d f) h.frame, ?_, ?_⟩
  · show d.temps.modifyHead f ≠ []
    cases htemps : d.temps with
    | nil => exact absurd htemps h.temps
    | cons s rest => simp
  · show Clean R → Clear (d.temps.modifyHead f).tail
    cases htemps : d.temps with
    | nil => exact absurd htemps h.temps
    | cons s rest =>
      have hothers := h.others
      rw [htemps] at hothers
      exact hothers

/-- A step that fills the hidden directory. Where an exception that is not caught may strike,
either nothing is visible yet or the rules are not clean. -/
lemma Filling.step {P : FactoryDisk → Prop} {Q : Unit → FactoryDisk → Prop} {i : FactoryStep}
    {torn f : FactoryDisk → FactoryDisk} (hP : ∀ d, P d → Filling S R ps q F d)
    (hQ : ∀ d, P d → Q () (f d)) (hmoves : ∀ d, P d → R.moves d (f d))
    (hbase : ∀ d, P d → R.allowed i .baseException → Clean R → Clear d.temps)
    (htorn : ∀ d, P d → R.moves d (torn d) ∧ (torn d).lock = d.lock ∧ (torn d).root = d.root) :
    Triple R P (.step i torn f) Q (WhileFilling S R ps q F) := by
  apply Triple.step hQ hmoves
  · intro d kind hd hallowed htear
    have hfill := hP d hd
    cases kind with
    | exception => exact hfill
    | baseException =>
      exact ⟨⟨ps, q, hfill.consistent⟩, hfill.lock, hfill.root, hbase d hd hallowed⟩
    | kill => exact ⟨hfill.lock, hfill.root⟩
    | tear => exact absurd rfl htear
  · intro d hd _
    obtain ⟨hmove, hlock, hroot⟩ := htorn d hd
    refine ⟨hmove, ?_, ?_⟩
    · rw [hlock]
      exact (hP d hd).lock
    · rw [hroot]
      exact (hP d hd).root

/-- The clean-up after an exception removes the hidden directory. -/
lemma triple_cleanup (hR : Quiet R) (hF : ∀ d d', Keeps d d' → F d → F d') :
    Triple R.calm (Filling S R ps q F)
      (do
        .step .unlinkTemp id (FactoryDisk.modifyTemp fun s => { s with message := none })
        .step .unlinkTemp id (FactoryDisk.modifyTemp fun s => { s with prompt := none })
        .step .removeTemp id fun d => { d with temps := d.temps.tail } : FactoryProg Unit)
      (fun _ d => Sound S d ∧ Locked R d) (fun _ _ => False) := by
  have hcalm : ∀ i kind, ¬R.calm.allowed i kind := R.not_allowed_calm
  apply Triple.bind (M := fun _ => Filling S R ps q F)
  · apply Triple.step
    · exact fun d hd => hd.modifyTemp hF _
    · exact fun d _ => hR _ _ (keeps_temp d _)
    · exact fun d kind _ h => absurd h (hcalm _ _)
    · exact fun d _ h => absurd h (hcalm _ _)
  intro _
  apply Triple.bind (M := fun _ => Filling S R ps q F)
  · apply Triple.step
    · exact fun d hd => hd.modifyTemp hF _
    · exact fun d _ => hR _ _ (keeps_temp d _)
    · exact fun d kind _ h => absurd h (hcalm _ _)
    · exact fun d _ h => absurd h (hcalm _ _)
  intro _
  apply Triple.step
  · intro d hd
    exact ⟨⟨ps, q, hd.consistent.with_temps _⟩, hd.lock, hd.root, hd.others⟩
  · exact fun d _ => hR _ _ (keeps_of_eq rfl rfl rfl rfl rfl)
  · exact fun d kind _ h => absurd h (hcalm _ _)
  · exact fun d _ h => absurd h (hcalm _ _)

theorem triple_publishMessage (hR : Quiet R) (hF : ∀ d d', Keeps d d' → F d → F d')
    (hp : p ∈ ps) :
    Triple R (Working S R ps q F) (S.publishMessage p)
      (fun _ d => Working S R ps q F d ∧
        d.messages.get? (messageDirName p.message) = some (fullDir p))
      (Inside S R raises) := by
  unfold publishMessage
  apply Triple.read_bind
  intro d₀ hd₀
  cases hdir : d₀.messages.get? (messageDirName p.message) with
  | some dir =>
    -- the message is visible already, and it is the message of this transaction
    obtain rfl := hd₀.consistent.get_message hp hdir
    apply Triple.bind (M := fun m d => m = p.message ∧ d = d₀)
    · apply Triple.pure
      intro d hd
      exact ⟨rfl, hd⟩
    intro m
    apply Triple.check
    · rintro _ _ d ⟨-, rfl⟩
      exact ⟨hd₀, hdir⟩
    · rintro e he d ⟨rfl, -⟩
      simp [raiseIf] at he
  | none =>
    have hstaged := hd₀.consistent.staged p hp
    have hmessage : d₀.stagedMessage p.transactionId = some (.whole p.message) := by
      unfold FactoryDisk.stagedMessage
      rw [hstaged]
      rfl
    have hprompt : d₀.stagedPrompt p.transactionId
        = some (.whole (p.message.promptText ++ "\n")) := by
      unfold FactoryDisk.stagedPrompt
      rw [hstaged]
      rfl
    have hne : ¬d₀.stagedMessage p.transactionId = none := by
      rw [hmessage]
      simp
    simp only [if_neg hne]
    -- a new, empty hidden directory
    apply Triple.bind (M := fun _ d => Filling S R ps q F d ∧ d.temps.head? = some {} ∧
      d.staging = d₀.staging ∧ d.messages = d₀.messages ∧ (Clean R → Clear d.temps))
    · apply Locked.step
      · rintro _ rfl
        exact hd₀.safe
      · rintro d rfl
        refine ⟨⟨hd₀.consistent.with_temps _, hd₀.locked.lock, hd₀.locked.root,
          hF d _ (keeps_of_eq rfl rfl rfl rfl rfl) hd₀.frame, by simp, hd₀.locked.clear⟩,
          rfl, rfl, rfl, ?_⟩
        intro hclean
        exact List.forall_mem_cons.mpr ⟨rfl, hd₀.locked.clear hclean⟩
      · exact fun d _ => hR _ _ (keeps_of_eq rfl rfl rfl rfl rfl)
      · exact fun d _ => ⟨hR _ _ (Keeps.refl d), rfl, rfl⟩
    intro _
    apply Triple.tryExcept (F := WhileFilling S R ps q F)
    · apply Triple.read_bind
      rintro d₁ ⟨hfill, hhead, hstaging, hmessages, hclear⟩
      have hmessage₁ : d₁.stagedMessage p.transactionId = some (.whole p.message) := by
        unfold FactoryDisk.stagedMessage at hmessage ⊢
        rwa [hstaging]
      have hprompt₁ : d₁.stagedPrompt p.transactionId
          = some (.whole (p.message.promptText ++ "\n")) := by
        unfold FactoryDisk.stagedPrompt at hprompt ⊢
        rwa [hstaging]
      simp only [hmessage₁, hprompt₁]
      apply Triple.bind (M := fun _ d => Filling S R ps q F d ∧ d.messages = d₀.messages ∧
        d.temps.head? = some { message := some (.whole p.message) })
      · apply Filling.step
        · rintro _ rfl
          exact hfill
        · rintro d rfl
          refine ⟨hfill.modifyTemp hF _, hmessages, ?_⟩
          show (d.temps.modifyHead _).head? = _
          rw [List.head?_modifyHead, hhead]
          rfl
        · exact fun d _ => hR _ _ (keeps_temp d _)
        · rintro _ rfl _
          exact hclear
        · exact fun d _ => ⟨hR _ _ (keeps_temp d _), rfl, rfl⟩
      intro _
      apply Triple.bind (M := fun _ d => Filling S R ps q F d ∧ d.messages = d₀.messages ∧
        d.temps.head? = some (fullDir p))
      · apply Filling.step
        · exact fun d hd => hd.1
        · rintro d ⟨hd, hdm, hhead'⟩
          refine ⟨hd.modifyTemp hF _, hdm, ?_⟩
          show (d.temps.modifyHead _).head? = _
          rw [List.head?_modifyHead, hhead']
          rfl
        · exact fun d _ => hR _ _ (keeps_temp d _)
        · exact fun d _ hallowed hclean => absurd hallowed hclean.publishPrompt
        · exact fun d _ => ⟨hR _ _ (keeps_temp d _), rfl, rfl⟩
      intro _
      -- the rename makes the complete directory visible
      have hrename : ∀ d, d.messages = d₀.messages ∧ d.temps.head? = some (fullDir p) →
          d.renameTemp (messageDirName p.message) =
            { d with temps := d.temps.tail
                     messages := d.messages.set (messageDirName p.message) (fullDir p) } ∧
          Keeps d (d.renameTemp (messageDirName p.message)) := by
        rintro d ⟨hdm, hhead'⟩
        have hheadD : d.temps.headD {} = fullDir p := by
          rw [List.headD_eq_head?_getD, hhead', Option.getD_some]
        unfold FactoryDisk.renameTemp
        rw [hheadD]
        refine ⟨rfl, keeps_message ?_ _ _⟩
        rw [hdm]
        exact hdir
      apply Filling.step
      · exact fun d hd => hd.1
      · rintro d ⟨hd, hrest⟩
        obtain ⟨heq, hkeeps⟩ := hrename d hrest
        have hframe := hF _ _ hkeeps hd.frame
        rw [heq] at hframe ⊢
        refine ⟨⟨(hd.consistent.with_message hp).with_temps _, ⟨hd.lock, hd.root, hd.others⟩,
          hframe⟩, ?_⟩
        rw [Dict.get?_set, if_pos rfl]
      · exact fun d hd => hR _ _ (hrename d hd.2).2
      · exact fun d _ hallowed hclean => absurd hallowed hclean.renameTemp
      · exact fun d _ => ⟨hR _ _ (Keeps.refl d), rfl, rfl⟩
    · intro e m _ hfalse
      exact hfalse.elim
    · exact triple_cleanup hR hF
    · exact fun d hd => hd
    · exact fun d hd => hd

end Parts

end HarnessFactoryTransactionStore
end Agintor.Storage
