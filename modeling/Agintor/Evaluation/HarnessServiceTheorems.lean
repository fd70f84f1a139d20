import Agintor.Evaluation.HarnessService
import Agintor.Storage.ProofRecordsTheorems

/-!
# One outcome per candidate

The store is looked at twice for an earlier outcome of the candidate, but not when the record is
appended, and the record is appended before the summary of the call is accepted. The exact condition
under which no candidate gets two outcomes, and every call that returns has a record of its own, is
about the appends: what the checks found is still true then, and the summary will be accepted.
-/

namespace Agintor.Evaluation

open Agintor.Storage.ProofRecords Lib

/-- The call has passed its first check. -/
def Stage.Admitted : Stage → Prop
  | .started => False
  | .rejected _ => False
  | _ => True

namespace HarnessEvaluationService

variable {H : HarnessEvaluationService} {calls : ℕ → EvaluateCall} {s s₀ : ProofStore} {m : System}

/-! ## The property -/

/-- No two records are of one evidence or of one candidate. -/
def Distinct (H : HarnessEvaluationService) (s : ProofStore) : Prop :=
  ∀ path path' record record', s.records.get? path = some (.whole record) →
    s.records.get? path' = some (.whole record') → path ≠ path' →
    ¬H.Duplicates record.runEvidence record'.runEvidence

/-- A record is in the store, and so is the link of its receipt. -/
def Recorded (H : HarnessEvaluationService) (s : ProofStore) (record : RunProofRecord) : Prop :=
  s.records.get? (H.proofStore.recordRelativePath record) = some (.whole record) ∧
    ∃ receipt ∈ record.outcomeReceipt,
      s.links.get? receipt.receiptDigest = some (.whole (H.proofStore.proofLink record receipt))

/-- What the claim says of a state: candidates have one outcome each, a call that returned has a
record and a link of its own, and the other calls have left the records as they were. -/
structure OnePerCandidate (H : HarnessEvaluationService) (s₀ : ProofStore) (m : System) : Prop where
  distinct : H.Distinct m.shared
  recorded : ∀ i record, m.own i = .returned record → H.Recorded m.shared record
  own : ∀ i j record record', m.own i = .returned record → m.own j = .returned record' → i ≠ j →
    H.proofStore.recordRelativePath record ≠ H.proofStore.recordRelativePath record' ∧
      record.outcomeReceipt.map (·.receiptDigest) ≠ record'.outcomeReceipt.map (·.receiptDigest)
  kept : ∀ path f, s₀.records.get? path = some f → m.shared.records.get? path = some f
  nothingElse : ∀ path f, m.shared.records.get? path = some f → s₀.records.get? path = some f ∨
    ∃ i record, m.own i = .returned record ∧ H.proofStore.recordRelativePath record = path ∧
      f = .whole record

/-! ## The condition -/

/-- An append that changes nothing, since its path is taken by another record or by this very one
and the call is refused, or one that adds the only outcome of its candidate for a call that will
return. -/
def AppendsOnce (H : HarnessEvaluationService) (call : EvaluateCall) (s : ProofStore)
    (record : RunProofRecord) : Prop :=
  match s.records.get? (H.proofStore.recordRelativePath record) with
  | some f => f ≠ .whole record ∨ call.published.toBool = false
  | none => H.assertNoDuplicateOutcome s record.runEvidence = .ok () ∧
      (∀ receipt ∈ record.outcomeReceipt, s.links.get? receipt.receiptDigest = none) ∧
      call.published.toBool = true

/-- A step that is no append, or one that appends once. -/
def StepsOnce (H : HarnessEvaluationService) (calls : ℕ → EvaluateCall) (m : System) (i : ℕ) :
    Prop :=
  ∀ record, m.own i = .issued record → H.AppendsOnce (calls i) m.shared record

/-! ## The duplicate check -/

/-- On a sound store the check passes when no record is a duplicate. -/
lemma assertNoDuplicateOutcome_eq_ok_iff (h : Sound H.proofStore s) {evidence : RunEvidence} :
    H.assertNoDuplicateOutcome s evidence = .ok () ↔
      ∀ path record, s.records.get? path = some (.whole record) →
        ¬H.Duplicates record.runEvidence evidence := by
  unfold assertNoDuplicateOutcome
  rw [forM_eq_ok_iff]
  have hmem : ∀ path, path ∈ s.records.keys.insertionSort RecordPath.Le ↔ path ∈ s.records.keys :=
    fun path => (List.perm_insertionSort RecordPath.Le s.records.keys).mem_iff
  constructor
  · intro hall path record hget
    have hkey : path ∈ s.records.keys := by
      by_contra hnot
      rw [Dict.get?_eq_none_iff.mpr hnot] at hget
      simp at hget
    have hpath := hall path ((hmem path).mpr hkey)
    unfold assertOther ProofStore.load at hpath
    simp only [hget] at hpath
    exact raiseIf_eq_ok_iff.mp hpath
  · intro hall path hpath
    obtain ⟨record, hload, hget⟩ := h.load_eq ((hmem path).mp hpath)
    unfold assertOther
    simp only [hload]
    exact raiseIf_eq_ok_iff.mpr (hall path record hget)

/-- A duplicate is one both ways. -/
lemma duplicates_comm {a b : RunEvidence} : H.Duplicates a b ↔ H.Duplicates b a := by
  unfold Duplicates
  rw [eq_comm, and_congr eq_comm (and_congr eq_comm eq_comm)]

lemma duplicates_refl (a : RunEvidence) : H.Duplicates a a := Or.inl rfl

/-! ## The invariant -/

/-- The evidence of a record that a call is about. -/
def OfCall (call : EvaluateCall) (record : RunProofRecord) : Prop :=
  record.runEvidence = call.evidence ∧ record.outcomeReceipt.isSome = true

/-- What holds of every state of a run that meets the condition. -/
structure Invariant (H : HarnessEvaluationService) (calls : ℕ → EvaluateCall) (s₀ : ProofStore)
    (m : System) : Prop where
  sound : Sound H.proofStore m.shared
  once : H.OnePerCandidate s₀ m
  issued : ∀ i record, m.own i = .issued record → OfCall (calls i) record
  fresh : ∀ i, (m.own i).Admitted → ∀ path record, s₀.records.get? path = some (.whole record) →
    ¬H.Duplicates record.runEvidence (calls i).evidence

/-! ## One step -/

lemma next_cases {α : Type} (checks : Except HarnessEvaluationRejected α) (go : α → Stage) :
    (∃ a, checks = .ok a ∧ next checks go = go a) ∨ ∃ e, next checks go = .rejected e := by
  cases checks with
  | ok a => exact Or.inl ⟨a, rfl, rfl⟩
  | error e => exact Or.inr ⟨e, rfl⟩

/-- A step that is no append. -/
structure Quiet (H : HarnessEvaluationService) (call : EvaluateCall) (stage : Stage)
    (s : ProofStore) (stage' : Stage) : Prop where
  returned : ∀ record, stage' = .returned record ↔ stage = .returned record
  issued : ∀ record, stage' = .issued record → OfCall call record
  admitted : stage'.Admitted →
    stage.Admitted ∨ H.assertNoDuplicateOutcome s call.evidence = .ok ()

variable {e : HarnessEvaluationRejected}

lemma quiet_rejected {call : EvaluateCall} {stage : Stage}
    (h : ∀ record, stage ≠ .returned record) : H.Quiet call stage s (.rejected e) where
  returned record := ⟨fun h' => by simp at h', fun h' => absurd h' (h record)⟩
  issued record h' := by simp at h'
  admitted h' := absurd h' id

/-- Only an append changes the store. -/
lemma move_quiet (call : EvaluateCall) {stage : Stage} (h : ∀ record, stage ≠ .issued record) :
    (H.move call stage s).2 = s ∧ H.Quiet call stage s (H.move call stage s).1 := by
  cases stage with
  | started =>
    refine ⟨rfl, ?_⟩
    show H.Quiet call .started s (next _ _)
    rcases next_cases (do call.prepared; H.assertNoDuplicateOutcome s call.evidence)
      (fun _ => Stage.checked) with ⟨a, hchecks, hnext⟩ | ⟨e, hnext⟩
    · rw [hnext]
      refine ⟨fun record => by simp, fun record h' => by simp at h', fun _ => Or.inr ?_⟩
      obtain ⟨-, -, hcheck⟩ := bind_eq_ok_iff.mp hchecks
      exact hcheck
    · rw [hnext]
      exact quiet_rejected (by simp)
  | checked =>
    refine ⟨rfl, ?_⟩
    show H.Quiet call .checked s (next _ _)
    rcases next_cases call.isolated (fun _ => Stage.ran) with ⟨a, -, hnext⟩ | ⟨e, hnext⟩
    · rw [hnext]
      exact ⟨fun record => by simp, fun record h' => by simp at h', fun _ => Or.inl trivial⟩
    · rw [hnext]
      exact quiet_rejected (by simp)
  | ran =>
    refine ⟨rfl, ?_⟩
    show H.Quiet call .ran s (next _ _)
    rcases next_cases (H.assertNoDuplicateOutcome s call.evidence) (fun _ => Stage.rechecked) with
      ⟨a, -, hnext⟩ | ⟨e, hnext⟩
    · rw [hnext]
      exact ⟨fun record => by simp, fun record h' => by simp at h', fun _ => Or.inl trivial⟩
    · rw [hnext]
      exact quiet_rejected (by simp)
  | rechecked =>
    refine ⟨rfl, ?_⟩
    show H.Quiet call .rechecked s (next _ _)
    rcases next_cases call.issued (fun issued => Stage.issued issued.record) with
      ⟨a, -, hnext⟩ | ⟨e, hnext⟩
    · rw [hnext]
      refine ⟨fun record => by simp, fun record h' => ?_, fun _ => Or.inl trivial⟩
      rw [← Stage.issued.inj h']
      exact ⟨rfl, rfl⟩
    · rw [hnext]
      exact quiet_rejected (by simp)
  | issued record => exact absurd rfl (h record)
  | returned record =>
    exact ⟨rfl, fun _ => Iff.rfl, fun _ h' => by simp [move] at h', fun _ => Or.inl trivial⟩
  | rejected e =>
    exact ⟨rfl, fun _ => Iff.rfl, fun _ h' => by simp [move] at h', fun h' => absurd h' id⟩

/-- What an append does, when no process dies. -/
inductive Appended (H : HarnessEvaluationService) (call : EvaluateCall) (s : ProofStore)
    (record : RunProofRecord) : Stage × ProofStore → Prop
  | completed (free : FreeRecord H.proofStore s record) (freeLink : FreeLink H.proofStore s record) :
      Appended H call s record
        (next call.published fun _ => .returned record, written H.proofStore s record)
  | refused (notFree : ¬(FreeRecord H.proofStore s record ∧ FreeLink H.proofStore s record))
      (kept : ¬Orphans H.proofStore s ⟨record, none⟩) :
      Appended H call s record
        (.rejected ⟨"proof_binding_failed"⟩, { s with manifest := some (.whole ()) })
  | orphaned (orphans : Orphans H.proofStore s ⟨record, none⟩) :
      Appended H call s record (.rejected ⟨"proof_binding_failed"⟩, { s with
        manifest := some (.whole ())
        records := s.records.set (H.proofStore.recordRelativePath record) (.whole record) })

lemma move_issued (h : Sound H.proofStore s) (call : EvaluateCall) (record : RunProofRecord) :
    Appended H call s record (H.move call (.issued record) s) := by
  have hends := (h.ends (c := ⟨record, none⟩)).1
  unfold move
  simp only
  cases hends with
  | completed path houtcome _ hfree hfreeLink hstate =>
    rw [houtcome, hstate]
    exact .completed hfree hfreeLink
  | died _ hstruck _ =>
    obtain ⟨crash, hcrash, -⟩ := hstruck
    simp at hcrash
  | refused path houtcome hnotFree hsurvives hstate =>
    rw [houtcome, hstate]
    exact .refused hnotFree hsurvives.2
  | orphaned path houtcome horphans hstate =>
    rw [houtcome, hstate]
    exact .orphaned horphans

/-! ## Steps that meet the condition -/

/-- The records, the links and the calls that returned are all that the property is about. -/
lemma OnePerCandidate.of_same {m' : System} (h : H.OnePerCandidate s₀ m)
    (hrecords : m'.shared.records = m.shared.records) (hlinks : m'.shared.links = m.shared.links)
    (hreturned : ∀ i record, m'.own i = .returned record ↔ m.own i = .returned record) :
    H.OnePerCandidate s₀ m' where
  distinct := by
    intro path path' record record'
    rw [hrecords]
    exact h.distinct path path' record record'
  recorded := by
    intro i record hi
    have hrecorded := h.recorded i record ((hreturned i record).mp hi)
    unfold Recorded at hrecorded ⊢
    rwa [hrecords, hlinks]
  own := by
    intro i j record record' hi hj
    exact h.own i j record record' ((hreturned i record).mp hi) ((hreturned j record').mp hj)
  kept := by
    intro path f hf
    rw [hrecords]
    exact h.kept path f hf
  nothingElse := by
    intro path f hf
    rw [hrecords] at hf
    rcases h.nothingElse path f hf with hold | ⟨i, record, hi, hrest⟩
    · exact Or.inl hold
    · exact Or.inr ⟨i, record, (hreturned i record).mpr hi, hrest⟩

variable {record : RunProofRecord} {i : ℕ}

section

variable (h : H.Invariant calls s₀ m)
include h

/-- The invariant after a step of call `i` that adds no record. -/
lemma Invariant.of_same
    (hsound : Sound H.proofStore (m.step (H.moves calls) i).shared)
    (hrecords : (m.step (H.moves calls) i).shared.records = m.shared.records)
    (hlinks : (m.step (H.moves calls) i).shared.links = m.shared.links)
    (hquiet : H.Quiet (calls i) (m.own i) m.shared ((m.step (H.moves calls) i).own i)) :
    H.Invariant calls s₀ (m.step (H.moves calls) i) where
  sound := hsound
  once := by
    apply h.once.of_same hrecords hlinks
    intro j record
    by_cases hj : j = i
    · rw [hj]
      exact hquiet.returned record
    · rw [Interleaved.step_own_of_ne hj]
  issued := by
    intro j record hj
    by_cases hji : j = i
    · rw [hji] at hj ⊢
      exact hquiet.issued record hj
    · rw [Interleaved.step_own_of_ne hji] at hj
      exact h.issued j record hj
  fresh := by
    intro j hj
    by_cases hji : j = i
    · rw [hji] at hj ⊢
      rcases hquiet.admitted hj with hadmitted | hcheck
      · exact h.fresh i hadmitted
      · intro path record hget
        have hnone := (assertNoDuplicateOutcome_eq_ok_iff h.sound).mp hcheck
        exact hnone path record (h.once.kept path _ hget)
    · rw [Interleaved.step_own_of_ne hji] at hj
      exact h.fresh j hj

lemma Invariant.quiet (hquiet : ∀ record, m.own i ≠ .issued record) :
    H.Invariant calls s₀ (m.step (H.moves calls) i) := by
  obtain ⟨hstore, hstage⟩ := H.move_quiet (s := m.shared) (calls i) hquiet
  have hshared : (m.step (H.moves calls) i).shared = m.shared := hstore
  apply h.of_same
  · rw [hshared]
    exact h.sound
  · rw [hshared]
  · rw [hshared]
  · rw [Interleaved.step_own_self]
    exact hstage

/-- The state after an append that completes, on a free path, with a free link, for a call that
returns. -/
lemma Invariant.completed (hi : m.own i = .issued record)
    (hpath : m.shared.records.get? (H.proofStore.recordRelativePath record) = none)
    (hcheck : H.assertNoDuplicateOutcome m.shared record.runEvidence = .ok ())
    (hlink : ∀ receipt ∈ record.outcomeReceipt, m.shared.links.get? receipt.receiptDigest = none)
    (hstore : (m.step (H.moves calls) i).shared = written H.proofStore m.shared record)
    (hstage : (m.step (H.moves calls) i).own i = .returned record) :
    H.Invariant calls s₀ (m.step (H.moves calls) i) := by
  have hnone := (assertNoDuplicateOutcome_eq_ok_iff h.sound).mp hcheck
  obtain ⟨receipt, hreceipt⟩ := Option.isSome_iff_exists.mp (h.issued i record hi).2
  have hrecords : ∀ path, (m.step (H.moves calls) i).shared.records.get? path =
      if H.proofStore.recordRelativePath record = path then some (.whole record)
      else m.shared.records.get? path := by
    intro path
    rw [hstore]
    exact Dict.get?_set _ _ _ _
  have hstored : ∀ path a, (m.step (H.moves calls) i).shared.records.get? path = some (.whole a) →
      H.proofStore.recordRelativePath record = path ∧ record = a ∨
        m.shared.records.get? path = some (.whole a) := by
    intro path a ha
    rw [hrecords] at ha
    split at ha
    · exact .inl ⟨‹_›, File.whole.inj (Option.some.inj ha)⟩
    · exact .inr ha
  have hlinks : ∀ digest, (m.step (H.moves calls) i).shared.links.get? digest =
      if receipt.receiptDigest = digest then some (.whole (H.proofStore.proofLink record receipt))
      else m.shared.links.get? digest := by
    intro digest
    rw [hstore]
    simp only [written, hreceipt]
    exact Dict.get?_set _ _ _ _
  have hreturned : ∀ j record', (m.step (H.moves calls) i).own j = .returned record' →
      i = j ∧ record = record' ∨ m.own j = .returned record' := by
    intro j record' hj
    by_cases hji : j = i
    · rw [hji, hstage] at hj
      exact .inl ⟨hji.symm, Stage.returned.inj hj⟩
    · rw [Interleaved.step_own_of_ne hji] at hj
      exact .inr hj
  -- another call's record and link lie elsewhere
  have hapart : ∀ j record', m.own j = .returned record' →
      H.proofStore.recordRelativePath record ≠ H.proofStore.recordRelativePath record' ∧
        ∀ receipt' ∈ record'.outcomeReceipt, receipt.receiptDigest ≠ receipt'.receiptDigest := by
    intro j record' hj
    obtain ⟨hstored, receipt', hreceipt', hlinked⟩ := h.once.recorded j record' hj
    constructor
    · intro heq
      rw [← heq, hpath] at hstored
      exact absurd hstored (by simp)
    · intro receipt'' hreceipt'' heq
      rw [Option.mem_def] at hreceipt' hreceipt''
      rw [hreceipt', Option.some.injEq] at hreceipt''
      rw [hreceipt'', ← heq, hlink receipt (by simp [hreceipt])] at hlinked
      exact absurd hlinked (by simp)
  refine ⟨?_, ⟨?_, ?_, ?_, ?_, ?_⟩, ?_, ?_⟩
  · rw [hstore]
    apply h.sound.written
    intro f hf
    rw [hpath] at hf
    exact absurd hf (by simp)
  · intro path path' a b ha hb hne
    rcases hstored path a ha with ⟨hp, rfl⟩ | hold
    · rcases hstored path' b hb with ⟨hp', -⟩ | hold'
      · exact absurd (hp.symm.trans hp') hne
      · rw [duplicates_comm]
        exact hnone path' b hold'
    · rcases hstored path' b hb with ⟨-, rfl⟩ | hold'
      · exact hnone path a hold
      · exact h.once.distinct path path' a b hold hold' hne
  · intro j record' hj
    rcases hreturned j record' hj with ⟨-, rfl⟩ | hold
    · refine ⟨?_, receipt, by simp [hreceipt], ?_⟩
      · rw [hrecords, if_pos rfl]
      · rw [hlinks, if_pos rfl]
    · obtain ⟨hstored, receipt', hreceipt', hlinked⟩ := h.once.recorded j record' hold
      obtain ⟨hne, hneLink⟩ := hapart j record' hold
      refine ⟨?_, receipt', hreceipt', ?_⟩
      · rw [hrecords, if_neg hne]
        exact hstored
      · rw [hlinks, if_neg (hneLink receipt' hreceipt')]
        exact hlinked
  · have hnew : ∀ j record', m.own j = .returned record' →
        H.proofStore.recordRelativePath record ≠ H.proofStore.recordRelativePath record' ∧
          record.outcomeReceipt.map (·.receiptDigest) ≠
            record'.outcomeReceipt.map (·.receiptDigest) := by
      intro j record' hj
      obtain ⟨hne, hneLink⟩ := hapart j record' hj
      obtain ⟨-, receipt', hreceipt', -⟩ := h.once.recorded j record' hj
      refine ⟨hne, ?_⟩
      rw [hreceipt, Option.mem_def.mp hreceipt', Option.map_some, Option.map_some, Ne,
        Option.some.injEq]
      exact hneLink receipt' hreceipt'
    intro j k a b hj hk hne
    rcases hreturned j a hj with ⟨rfl, rfl⟩ | hjold
    · rcases hreturned k b hk with ⟨rfl, -⟩ | hkold
      · exact absurd rfl hne
      · exact hnew k b hkold
    · rcases hreturned k b hk with ⟨-, rfl⟩ | hkold
      · exact ⟨(hnew j a hjold).1.symm, (hnew j a hjold).2.symm⟩
      · exact h.once.own j k a b hjold hkold hne
  · intro path f hf
    have hold := h.once.kept path f hf
    rw [hrecords, if_neg]
    · exact hold
    · intro hp
      rw [← hp, hpath] at hold
      exact absurd hold (by simp)
  · intro path f hf
    rw [hrecords] at hf
    by_cases hp : H.proofStore.recordRelativePath record = path
    · rw [if_pos hp, Option.some.injEq] at hf
      exact Or.inr ⟨i, record, hstage, hp, hf.symm⟩
    · rw [if_neg hp] at hf
      rcases h.once.nothingElse path f hf with hold | ⟨j, record', hj, hrest⟩
      · exact Or.inl hold
      · refine Or.inr ⟨j, record', ?_, hrest⟩
        rw [Interleaved.step_own_of_ne]
        · exact hj
        · intro hji
          rw [hji, hi] at hj
          exact absurd hj (by simp)
  · intro j record' hj
    by_cases hji : j = i
    · rw [hji, hstage] at hj
      exact absurd hj (by simp)
    · rw [Interleaved.step_own_of_ne hji] at hj
      exact h.issued j record' hj
  · intro j hj
    by_cases hji : j = i
    · rw [hji]
      exact h.fresh i (by rw [hi]; trivial)
    · rw [Interleaved.step_own_of_ne hji] at hj
      exact h.fresh j hj

/-- A stored record that equals the one of a call about to append is that of another call that
returned. -/
lemma Invariant.returned_of_stored (hi : m.own i = .issued record)
    (hget : m.shared.records.get? (H.proofStore.recordRelativePath record) = some (.whole record)) :
    ∃ j, j ≠ i ∧ m.own j = .returned record := by
  rcases h.once.nothingElse _ _ hget with hold | ⟨j, record', hj, -, hsame⟩
  · have hfresh := h.fresh i (by rw [hi]; trivial) _ record hold
    rw [(h.issued i record hi).1] at hfresh
    exact absurd (duplicates_refl _) hfresh
  · rw [File.whole.inj hsame]
    refine ⟨j, ?_, hj⟩
    intro hji
    rw [hji, hi] at hj
    exact absurd hj (by simp)

end

lemma step_issued (hi : m.own i = .issued record) :
    ((m.step (H.moves calls) i).own i, (m.step (H.moves calls) i).shared) =
      H.move (calls i) (.issued record) m.shared := by
  rw [Interleaved.step_own_self, Interleaved.step_shared]
  show (H.move (calls i) (m.own i) m.shared) = _
  rw [hi]

/-- A step that meets the condition keeps the invariant. -/
lemma Invariant.step (h : H.Invariant calls s₀ m) (hmeets : H.StepsOnce calls m i) :
    H.Invariant calls s₀ (m.step (H.moves calls) i) := by
  by_cases hquiet : ∀ record, m.own i ≠ .issued record
  · exact h.quiet hquiet
  simp only [ne_eq, not_forall, not_not] at hquiet
  obtain ⟨record, hi⟩ := hquiet
  have honce := hmeets record hi
  have happended := H.move_issued h.sound (calls i) record
  rw [← step_issued hi] at happended
  have hrejected : ∀ e, H.Quiet (calls i) (m.own i) m.shared (.rejected e) := by
    intro e
    apply quiet_rejected
    rw [hi]
    simp
  have hrefused : (m.step (H.moves calls) i).own i = .rejected ⟨"proof_binding_failed"⟩ →
      (m.step (H.moves calls) i).shared = { m.shared with manifest := some (.whole ()) } →
      H.Invariant calls s₀ (m.step (H.moves calls) i) := by
    intro hown hshared
    apply h.of_same
    · rw [hshared]
      exact h.sound.with_manifest
    · rw [hshared]
    · rw [hshared]
    · rw [hown]
      exact hrejected _
  unfold AppendsOnce at honce
  generalize hout : ((m.step (H.moves calls) i).own i, (m.step (H.moves calls) i).shared) = out
    at happended
  cases hget : m.shared.records.get? (H.proofStore.recordRelativePath record) with
  | some f =>
    rw [hget] at honce
    cases happended with
    | completed hfree hfreeLink =>
      -- the record is there already, and its link too; the call is refused
      rw [Prod.mk.injEq] at hout
      have hsame : f = .whole record := hfree f hget
      rw [hsame] at hget
      obtain ⟨j, -, hj⟩ := h.returned_of_stored hi hget
      obtain ⟨-, receipt, hreceipt, hlinked⟩ := h.once.recorded j record hj
      rw [Option.mem_def] at hreceipt
      have hfailed := honce.resolve_left (not_not.mpr hsame)
      obtain ⟨e, he⟩ : ∃ e, (calls i).published = .error e := by
        cases hpublished : (calls i).published with
        | error e => exact ⟨e, rfl⟩
        | ok u =>
          rw [hpublished] at hfailed
          exact absurd hfailed (by simp [Except.toBool])
      apply h.of_same
      · rw [hout.2]
        exact h.sound.written hfree
      · rw [hout.2]
        exact Dict.set_eq_self hget
      · rw [hout.2]
        simp only [written, hreceipt]
        exact Dict.set_eq_self hlinked
      · rw [hout.1, he]
        exact hrejected e
    | refused hnotFree hkept =>
      rw [Prod.mk.injEq] at hout
      exact hrefused hout.1 hout.2
    | orphaned horphans =>
      have hnone := horphans.1
      rw [hget] at hnone
      exact absurd hnone (by simp)
  | none =>
    rw [hget] at honce
    obtain ⟨hcheck, hlink, hpublished⟩ := honce
    cases happended with
    | completed hfree hfreeLink =>
      rw [Prod.mk.injEq] at hout
      obtain ⟨u, hu⟩ := exists_of_toBool hpublished
      refine h.completed hi hget hcheck hlink hout.2 ?_
      rw [hout.1, hu]
      rfl
    | refused hnotFree hkept =>
      rw [Prod.mk.injEq] at hout
      exact hrefused hout.1 hout.2
    | orphaned horphans =>
      obtain ⟨-, receipt, hreceipt, f, hf, -⟩ := horphans
      rw [hlink receipt hreceipt] at hf
      exact absurd hf (by simp)

/-! ## Steps against the condition -/

/-- A record that a rejected call has added belongs to no call that returned. -/
lemma not_once_of_left (h : H.Invariant calls s₀ m)
    (hpath : m.shared.records.get? (H.proofStore.recordRelativePath record) = none)
    (hown : (m.step (H.moves calls) i).own i = .rejected e)
    (hget : (m.step (H.moves calls) i).shared.records.get?
      (H.proofStore.recordRelativePath record) = some (.whole record)) :
    ¬H.OnePerCandidate s₀ (m.step (H.moves calls) i) := by
  intro honce
  rcases honce.nothingElse _ _ hget with hold | ⟨j, record', hj, hsame, -⟩
  · rw [h.once.kept _ _ hold] at hpath
    exact absurd hpath (by simp)
  · have hji : j ≠ i := by
      intro hji
      rw [hji, hown] at hj
      exact absurd hj (by simp)
    rw [Interleaved.step_own_of_ne hji] at hj
    rw [← hsame, (h.once.recorded j record' hj).1] at hpath
    exact absurd hpath (by simp)

/-- A step against the condition breaks the property. -/
lemma Invariant.breaks (h : H.Invariant calls s₀ m) (hnot : ¬H.StepsOnce calls m i) :
    ¬H.OnePerCandidate s₀ (m.step (H.moves calls) i) := by
  unfold StepsOnce at hnot
  simp only [not_forall, exists_prop] at hnot
  obtain ⟨record, hi, honce⟩ := hnot
  have happended := H.move_issued h.sound (calls i) record
  rw [← step_issued hi] at happended
  unfold AppendsOnce at honce
  obtain ⟨receipt, hreceipt⟩ := Option.isSome_iff_exists.mp (h.issued i record hi).2
  generalize hout : ((m.step (H.moves calls) i).own i, (m.step (H.moves calls) i).shared) = out
    at happended
  cases hget : m.shared.records.get? (H.proofStore.recordRelativePath record) with
  | some f =>
    -- the record of another call is returned a second time
    simp only [hget, not_or, not_not] at honce
    obtain ⟨hsame, hpublished⟩ := honce
    rw [hsame] at hget
    obtain ⟨j, hji, hj⟩ := h.returned_of_stored hi hget
    obtain ⟨-, receipt', hreceipt', hlinked⟩ := h.once.recorded j record hj
    cases happended with
    | completed hfree hfreeLink =>
      rw [Prod.mk.injEq] at hout
      obtain ⟨u, hu⟩ := exists_of_toBool (by simpa using hpublished)
      intro hafter
      have hown : (m.step (H.moves calls) i).own i = .returned record := by
        rw [hout.1, hu]
        rfl
      have hother : (m.step (H.moves calls) i).own j = .returned record := by
        rw [Interleaved.step_own_of_ne hji]
        exact hj
      exact (hafter.own i j record record hown hother hji.symm).1 rfl
    | refused hnotFree hkept =>
      -- both paths hold just what would be written
      refine absurd ⟨?_, ?_⟩ hnotFree
      · intro f' hf'
        rw [hget] at hf'
        exact (Option.some.inj hf').symm
      · intro receipt'' hreceipt'' f' hf'
        rw [Option.mem_def] at hreceipt' hreceipt''
        rw [hreceipt', Option.some.injEq] at hreceipt''
        rw [← hreceipt'', hlinked] at hf'
        rw [← hreceipt'']
        exact (Option.some.inj hf').symm
    | orphaned horphans =>
      have hnone := horphans.1
      change m.shared.records.get? (H.proofStore.recordRelativePath record) = none at hnone
      rw [hget] at hnone
      exact absurd hnone (by simp)
  | none =>
    rw [hget] at honce
    have hadded : ∀ {s' : ProofStore},
        s'.records = m.shared.records.set (H.proofStore.recordRelativePath record) (.whole record) →
        s'.records.get? (H.proofStore.recordRelativePath record) = some (.whole record) := by
      intro s' hs'
      rw [hs', Dict.get?_set, if_pos rfl]
    cases happended with
    | orphaned horphans =>
      rw [Prod.mk.injEq] at hout
      exact not_once_of_left h hget hout.1 (hadded (by rw [hout.2]))
    | refused hnotFree hkept =>
      -- the link belongs to a record elsewhere, so the record would have been left without it
      exfalso
      apply hkept
      refine ⟨hget, ?_⟩
      have hnotLink : ¬FreeLink H.proofStore m.shared record := by
        intro hlink
        apply hnotFree
        refine ⟨?_, hlink⟩
        intro f hf
        rw [hget] at hf
        exact absurd hf (by simp)
      unfold FreeLink at hnotLink
      simp only [not_forall, exists_prop] at hnotLink
      obtain ⟨receipt', hreceipt', f, hf, hother⟩ := hnotLink
      exact ⟨receipt', hreceipt', f, hf, hother⟩
    | completed hfree hfreeLink =>
      rw [Prod.mk.injEq] at hout
      have hstored : (m.step (H.moves calls) i).shared.records.get?
          (H.proofStore.recordRelativePath record) = some (.whole record) :=
        hadded (by rw [hout.2]; rfl)
      by_cases hpublished : (calls i).published.toBool = true
      · by_cases hcheck : H.assertNoDuplicateOutcome m.shared record.runEvidence = .ok ()
        · -- the link is taken by the very link of a record that is not there
          exfalso
          apply honce
          refine ⟨hcheck, ?_, hpublished⟩
          intro receipt' hreceipt'
          by_contra hlink
          obtain ⟨f, hf⟩ := Option.ne_none_iff_exists'.mp hlink
          have hsame := hfreeLink receipt' hreceipt' f hf
          obtain ⟨record', receipt'', hwhole, -, -, hstored', -⟩ := h.sound.links _ f hf
          rw [hsame, File.whole.injEq] at hwhole
          have hpaths : H.proofStore.recordRelativePath record =
              H.proofStore.recordRelativePath record' :=
            congrArg (fun link : OutcomeProofLink => link.recordPath) hwhole
          rw [← hpaths, hget] at hstored'
          exact absurd hstored' (by simp)
        · rw [assertNoDuplicateOutcome_eq_ok_iff h.sound] at hcheck
          simp only [not_forall, not_not, exists_prop] at hcheck
          obtain ⟨path, prior, hprior, hduplicates⟩ := hcheck
          intro hafter
          have hne : H.proofStore.recordRelativePath record ≠ path := by
            intro hp
            rw [← hp, hget] at hprior
            exact absurd hprior (by simp)
          refine hafter.distinct path _ prior record ?_ hstored (Ne.symm hne) hduplicates
          rw [hout.2]
          simp only [written, Dict.get?_set, if_neg hne]
          exact hprior
      · obtain ⟨e, he⟩ : ∃ e, (calls i).published = .error e := by
          cases hp : (calls i).published with
          | error e => exact ⟨e, rfl⟩
          | ok u =>
            rw [hp] at hpublished
            exact absurd rfl hpublished
        exact not_once_of_left h hget (by rw [hout.1, he]; rfl) hstored

/-! ## Runs -/

lemma Invariant.start (hsound : Sound H.proofStore s₀) (hdistinct : H.Distinct s₀) :
    H.Invariant calls s₀ (start s₀) where
  sound := hsound
  once :=
    { distinct := hdistinct
      recorded := fun i record hi => by simp [HarnessEvaluationService.start] at hi
      own := fun i j record record' hi => by simp [HarnessEvaluationService.start] at hi
      kept := fun _ _ hf => hf
      nothingElse := fun _ _ hf => Or.inl hf }
  issued := fun i record hi => by simp [HarnessEvaluationService.start] at hi
  fresh := fun i hi => absurd hi id

/-- Over every schedule of any number of calls, each candidate has one outcome in every state, each
call that returned has a record and a link of its own, and no other call has changed the records,
exactly when every append finds what the checks found and belongs to a call whose summary will be
accepted. -/
theorem onePerCandidate_iff (H : HarnessEvaluationService) (calls : ℕ → EvaluateCall)
    (s₀ : ProofStore) (schedule : List ℕ) (hsound : Sound H.proofStore s₀)
    (hdistinct : H.Distinct s₀) :
    Interleaved.Always (H.moves calls) (H.OnePerCandidate s₀) (start s₀) schedule ↔
      Interleaved.AllMeet (H.moves calls) (H.StepsOnce calls) (start s₀) schedule :=
  Interleaved.always_iff_allMeet (I := H.Invariant calls s₀) (fun _ _ h hmeets => h.step hmeets)
    (fun _ h => h.once) (fun _ _ h hnot => h.breaks hnot) (.start hsound hdistinct)

/-- One task, one protocol and one patch. -/
def repairService : HarnessEvaluationService where
  proofStore := ⟨fun key => key.taskManifestId⟩
  patchDigest _ := "patch"

def repairEvidence (digit : Char) : RunEvidence where
  evidenceDigest := String.ofList [digit]
  pairKey := ⟨"task", "linux", 0, "provider"⟩
  protocolDigest := "protocol"

def repairIssued (digit : Char) (h : (digit.isDigit || ('a' ≤ digit && digit ≤ 'f')) = true) :
    Issued (repairEvidence digit) where
  receipt := ⟨String.ofList (List.replicate 64 digit), ⟨"task", "linux", 0, "provider"⟩,
    Core.isDigest_replicate h⟩
  proofRecordDigest := "record"
  crossed := rfl

/-- An evaluation of the run with this evidence, in which nothing is refused. -/
def repairCall (digit : Char) (h : (digit.isDigit || ('a' ≤ digit && digit ≤ 'f')) = true) :
    EvaluateCall where
  evidence := repairEvidence digit
  prepared := .ok ()
  isolated := .ok ()
  issued := .ok (repairIssued digit h)
  published := .ok ()

/-- Two runs of one candidate. -/
def repairCalls (i : ℕ) : EvaluateCall :=
  if i = 0 then repairCall 'a' (by decide) else repairCall 'b' (by decide)

/-- One evaluation alone. -/
theorem onePerCandidate_iff_alone :
    Interleaved.Always (repairService.moves repairCalls) (repairService.OnePerCandidate .empty)
      (start .empty) [0, 0, 0, 0, 0] ↔
    Interleaved.AllMeet (repairService.moves repairCalls) (repairService.StepsOnce repairCalls)
      (start .empty) [0, 0, 0, 0, 0] :=
  onePerCandidate_iff repairService repairCalls .empty [0, 0, 0, 0, 0] sound_empty
    (fun path path' record record' h => by
      simp [ProofStore.empty, Dict.empty, Dict.get?, Dict.lookup] at h)

/-- Two evaluations side by side: both look for an earlier outcome before either has appended its
own, so that the candidate gets two. -/
theorem not_onePerCandidate_side_by_side :
    ¬Interleaved.Always (repairService.moves repairCalls) (repairService.OnePerCandidate .empty)
      (start .empty) [0, 1, 0, 1, 0, 1, 0, 1, 0, 1] := by
  intro h
  have hdistinct := h.2.2.2.2.2.2.2.2.2.2.distinct ⟨"task", "protocol", "a"⟩
    ⟨"task", "protocol", "b"⟩ (repairIssued 'a' (by decide)).record
    (repairIssued 'b' (by decide)).record (by decide +kernel) (by decide +kernel) (by decide)
  exact hdistinct (Or.inr ⟨rfl, rfl, rfl⟩)

end HarnessEvaluationService

end Agintor.Evaluation
