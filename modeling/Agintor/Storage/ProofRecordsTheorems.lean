import Agintor.Lib.Lists
import Agintor.Storage.ProofRecords

/-!
# What the proof store promises

An append is all or nothing exactly when no process dies while it holds the lock, and no record
is added whose receipt is linked to another one.
-/

namespace Agintor.Storage.ProofRecords

open Agintor.Contracts Agintor.Core Lib

variable {S : ImmutableProofRecordStore} {s t : ProofStore} {c : Call}

/-- Complete files stay as they are. -/
structure Keeps (s t : ProofStore) : Prop where
  records : ∀ path record, s.records.get? path = some (.whole record) →
    t.records.get? path = some (.whole record)
  links : ∀ digest link, s.links.get? digest = some (.whole link) →
    t.links.get? digest = some (.whole link)

/-- The record and its link can be read. -/
structure Readable (s : ProofStore) (record : RunProofRecord) : Prop where
  listed : ∃ records, s.iterRecords = .ok records ∧ record ∈ records
  linked : ∀ receipt ∈ record.outcomeReceipt, s.lookupOutcome receipt.receiptDigest = .ok record

/-- A call is all or nothing, and is survived by the store. -/
structure AllOrNothing (S : ImmutableProofRecordStore) (s : ProofStore) (c : Call) : Prop where
  immutable : ((S.perform s c).2.state :: (S.perform s c).2.past).IsChain fun t s => Keeps s t
  answers : ∀ digest record, (S.perform s c).2.state.lookupOutcome digest = .ok record →
    ∃ receipt, sha256Digest digest "outcome_receipt_digest" = .ok receipt.receiptDigest ∧
      record.outcomeReceipt = some receipt ∧
      (S.perform s c).2.state.linkedBy.get? receipt.receiptDigest = some record
  refused : ∀ path, (S.perform s c).1 = .error (.raised (.differentBytes path)) →
    (S.perform s c).2.state.iterRecords = s.iterRecords ∧
      ∀ digest, (S.perform s c).2.state.lookupOutcome digest = s.lookupOutcome digest
  recovers : (S.perform s c).1 = .error .killed →
    ∃ path, (S.perform (S.perform s c).2.state ⟨c.record, none⟩).1 = .ok path ∧
      Readable (S.perform (S.perform s c).2.state ⟨c.record, none⟩).2.state c.record
  whole : ∃ records, (S.perform s c).2.state.iterRecords = .ok records

/-- Every call of the run is. -/
def AllHold (S : ImmutableProofRecordStore) (s : ProofStore) : List Call → Prop
  | [] => True
  | c :: calls => AllOrNothing S s c ∧ AllHold S (S.perform s c).2.state calls

/-- The steps that an append makes once it has the lock. -/
def Reached (S : ImmutableProofRecordStore) (s : ProofStore) (record : RunProofRecord) :
    ProofStep → Prop
  | .createLock => False
  | .writeLock => True
  | .write .manifest => s.manifest = none
  | .write .record => s.records.get? (S.recordRelativePath record) = none
  | .write .link => (∃ receipt ∈ record.outcomeReceipt,
      s.links.get? receipt.receiptDigest = none) ∧
        ∀ f, s.records.get? (S.recordRelativePath record) = some f → f = .whole record
  | .removeLock => True

/-- The process dies at a step that the append makes. -/
def Struck (S : ImmutableProofRecordStore) (s : ProofStore) (c : Call) : Prop :=
  ∃ crash ∈ c.crash, Reached S s c.record crash.step

/-- The record is new, and its receipt is linked to another one. -/
def Orphans (S : ImmutableProofRecordStore) (s : ProofStore) (c : Call) : Prop :=
  s.records.get? (S.recordRelativePath c.record) = none ∧ ∃ receipt ∈ c.record.outcomeReceipt,
    ∃ f, s.links.get? receipt.receiptDigest = some f ∧ f ≠ .whole (S.proofLink c.record receipt)

def AllSurvive (S : ImmutableProofRecordStore) (s : ProofStore) : List Call → Prop
  | [] => True
  | c :: calls => (¬Struck S s c ∧ ¬Orphans S s c) ∧ AllSurvive S (S.perform s c).2.state calls

/-! ## Sound stores -/

/-- Nobody holds the lock, and all files are complete. A link leads to the record that wrote it. -/
structure Sound (S : ImmutableProofRecordStore) (s : ProofStore) : Prop where
  unlocked : s.lock = false
  manifest : ∀ f, s.manifest = some f → f = .whole ()
  records : ∀ path f, s.records.get? path = some f →
    ∃ record, f = .whole record ∧ S.recordRelativePath record = path
  links : ∀ digest f, s.links.get? digest = some f → ∃ record receipt,
    f = .whole (S.proofLink record receipt) ∧ record.outcomeReceipt = some receipt ∧
      receipt.receiptDigest = digest ∧
      s.records.get? (S.recordRelativePath record) = some (.whole record) ∧
      s.linkedBy.get? digest = some record

lemma sound_empty : Sound S .empty where
  unlocked := rfl
  manifest := by simp [ProofStore.empty]
  records := by simp [ProofStore.empty, Dict.empty, Dict.get?, Dict.lookup]
  links := by simp [ProofStore.empty, Dict.empty, Dict.get?, Dict.lookup]

namespace Sound

lemma load_eq (h : Sound S s) {path : RecordPath} (hpath : path ∈ s.records.keys) :
    ∃ record, s.load path = .ok record ∧ s.records.get? path = some (.whole record) := by
  obtain ⟨f, hf⟩ := Option.ne_none_iff_exists'.mp (mt Dict.get?_eq_none_iff.mp (not_not_intro hpath))
  obtain ⟨record, rfl, -⟩ := h.records path f hf
  exact ⟨record, by rw [ProofStore.load, hf], hf⟩

/-- Every record can be read. -/
lemma iterRecords_eq (h : Sound S s) :
    ∃ records, s.iterRecords = .ok records ∧ records.length = s.records.entries.length ∧
      ∀ path record, s.records.get? path = some (.whole record) → record ∈ records := by
  have hperm := List.perm_insertionSort RecordPath.Le s.records.keys
  obtain ⟨records, hrecords⟩ := exists_mapM_eq_ok (f := s.load)
    (l := s.records.keys.insertionSort RecordPath.Le) fun path hpath => by
      obtain ⟨record, hload, -⟩ := h.load_eq (hperm.mem_iff.mp hpath)
      exact ⟨record, hload⟩
  have hloads := mapM_eq_ok_iff.mp hrecords
  refine ⟨records, hrecords, ?_, ?_⟩
  · rw [← hloads.length_eq, hperm.length_eq, Dict.keys, List.length_map]
  · intro path record hget
    have hpath : path ∈ s.records.keys := by
      by_contra hnot
      rw [Dict.get?_eq_none_iff.mpr hnot] at hget
      simp at hget
    obtain ⟨record', hmem, hload⟩ := exists_mem_right_of_forall₂ hloads (hperm.mem_iff.mpr hpath)
    rw [ProofStore.load, hget, Except.ok.injEq] at hload
    rwa [hload]

/-- A lookup that returns follows a link to the record that wrote it. -/
lemma lookupOutcome_eq_ok (h : Sound S s) {digest : String} {record : RunProofRecord}
    (hlookup : s.lookupOutcome digest = .ok record) :
    ∃ receipt, sha256Digest digest "outcome_receipt_digest" = .ok receipt.receiptDigest ∧
      record.outcomeReceipt = some receipt ∧
      s.linkedBy.get? receipt.receiptDigest = some record := by
  unfold ProofStore.lookupOutcome at hlookup
  obtain ⟨digest', hdigest, hrest⟩ := bind_eq_ok_iff.mp hlookup
  cases hlink : s.links.get? digest' with
  | none => simp [hlink] at hrest
  | some f =>
    obtain ⟨record', receipt, rfl, hreceipt, hsame, hstored, hlinked⟩ := h.links digest' f hlink
    simp only [hlink, ImmutableProofRecordStore.proofLink, ProofStore.load, hstored, ok_bind,
      bind_eq_ok_iff, raiseIf_eq_ok_iff, pure_eq_ok, Except.ok.injEq] at hrest
    obtain ⟨-, -, -, -, -, -, rfl⟩ := hrest
    exact ⟨receipt, hsame ▸ hdigest, hreceipt, hsame ▸ hlinked⟩

end Sound

/-! ## One append -/

/-- The call does not die at the step. -/
def Passed (c : Call) (i : ProofStep) : Prop := ∀ crash ∈ c.crash, crash.step ≠ i

lemma keeps_of_eq (hrecords : t.records = s.records) (hlinks : t.links = s.links) : Keeps s t :=
  ⟨fun _ _ h => hrecords ▸ h, fun _ _ h => hlinks ▸ h⟩

/-- A process may die where the call says, and complete files stay as they are. -/
def proofRules (c : Call) : Rules ProofStep ProofStore where
  pending f := f = c.crash.map fun crash => ⟨crash.step, 0, crash.kind⟩
  origin _ := True
  moves s t := Keeps s t
  waits := by
    intro i k kind h
    obtain ⟨crash, -, hcrash⟩ := Option.map_eq_some_iff.mp h.symm
    simp at hcrash

variable {i : ProofStep} {kind : Interrupt}

lemma allowed_proofRules (h : (proofRules c).allowed i kind) :
    ∃ crash ∈ c.crash, crash.step = i ∧ crash.kind = kind := by
  obtain ⟨crash, hcrash, heq⟩ := Option.map_eq_some_iff.mp (show _ = _ from h).symm
  simp only [Fault.mk.injEq, true_and] at heq
  exact ⟨crash, hcrash, heq⟩

lemma passed_of_passes (h : (proofRules c).passes i) : Passed c i := by
  obtain ⟨f, hf, hkind⟩ := h
  intro crash hcrash hstep
  rw [Option.mem_def] at hcrash
  refine hkind crash.kind ?_
  rw [show f = _ from hf, hcrash, ← hstep]
  rfl

/-- Only death stops a step. -/
lemma stop_of_allowed (h : (proofRules c).allowed i kind) :
    (kind.stop : Stop ProofError) = .killed ∧ i ≠ .createLock := by
  obtain ⟨crash, -, rfl, rfl⟩ := allowed_proofRules h
  refine ⟨?_, crash.later⟩
  obtain hkind | hkind := crash.death <;> rw [hkind] <;> rfl

lemma struck_of_allowed (h : (proofRules c).allowed i kind) (hreached : Reached S s c.record i) :
    Struck S s c := by
  obtain ⟨crash, hcrash, rfl, -⟩ := allowed_proofRules h
  exact ⟨crash, hcrash, hreached⟩

/-- What the store holds after a completed append. -/
def written (S : ImmutableProofRecordStore) (s : ProofStore) (record : RunProofRecord) :
    ProofStore where
  lock := s.lock
  manifest := some (.whole ())
  records := s.records.set (S.recordRelativePath record) (.whole record)
  links :=
    match record.outcomeReceipt with
    | none => s.links
    | some receipt => s.links.set receipt.receiptDigest (.whole (S.proofLink record receipt))
  linkedBy :=
    match record.outcomeReceipt with
    | none => s.linkedBy
    | some receipt => s.linkedBy.set receipt.receiptDigest record

/-- The stored record is not another one. -/
def FreeRecord (S : ImmutableProofRecordStore) (s : ProofStore) (record : RunProofRecord) : Prop :=
  ∀ f, s.records.get? (S.recordRelativePath record) = some f → f = .whole record

/-- The receipt is not linked to another record. -/
def FreeLink (S : ImmutableProofRecordStore) (s : ProofStore) (record : RunProofRecord) : Prop :=
  ∀ receipt ∈ record.outcomeReceipt, ∀ f, s.links.get? receipt.receiptDigest = some f →
    f = .whole (S.proofLink record receipt)

lemma Sound.written (h : Sound S s) {record : RunProofRecord} (hrecord : FreeRecord S s record) :
    Sound S (written S s record) where
  unlocked := h.unlocked
  manifest := by simp [ProofRecords.written]
  records := by
    intro path f hf
    simp only [ProofRecords.written, Dict.get?_set] at hf
    split at hf
    · next hpath => exact ⟨record, (Option.some.inj hf).symm, hpath⟩
    · exact h.records path f hf
  links := by
    -- a record that was there is still there
    have hkept : ∀ record', s.records.get? (S.recordRelativePath record') = some (.whole record') →
        (ProofRecords.written S s record).records.get? (S.recordRelativePath record') =
          some (.whole record') := by
      intro record' hstored
      simp only [ProofRecords.written, Dict.get?_set]
      split
      · next hpath =>
        rw [← hpath] at hstored
        exact congrArg some (hrecord _ hstored).symm
      · exact hstored
    intro digest f hf
    cases hreceipt : record.outcomeReceipt with
    | none =>
      simp only [ProofRecords.written, hreceipt] at hf
      obtain ⟨record', receipt, rfl, hrest, hdigest, hstored, hlinked⟩ := h.links digest f hf
      refine ⟨record', receipt, rfl, hrest, hdigest, hkept _ hstored, ?_⟩
      simpa [ProofRecords.written, hreceipt] using hlinked
    | some receipt =>
      simp only [ProofRecords.written, hreceipt, Dict.get?_set] at hf
      by_cases hdigest : receipt.receiptDigest = digest
      · rw [if_pos hdigest, Option.some.injEq] at hf
        refine ⟨record, receipt, hf.symm, hreceipt, hdigest, ?_, ?_⟩
        · simp [ProofRecords.written]
        · simp [ProofRecords.written, hreceipt, hdigest]
      · rw [if_neg hdigest] at hf
        obtain ⟨record', receipt', rfl, hrest, hsame, hstored, hlinked⟩ := h.links digest f hf
        refine ⟨record', receipt', rfl, hrest, hsame, hkept _ hstored, ?_⟩
        simpa [ProofRecords.written, hreceipt, hdigest] using hlinked

/-- The call outlives those of the steps that the append makes. -/
def PassedAll (S : ImmutableProofRecordStore) (s : ProofStore) (c : Call) (steps : List ProofStep) :
    Prop :=
  ∀ i ∈ steps, Reached S s c.record i → Passed c i

lemma PassedAll.append {steps : List ProofStep} (h : PassedAll S s c steps)
    (hi : Reached S s c.record i → Passed c i) : PassedAll S s c (steps ++ [i]) := by
  intro j hj
  obtain hj | rfl := by simpa using hj
  · exact h j hj
  · exact hi

/-- The store while the lock is held and `records` are there. -/
def held (s : ProofStore) (records : Dict RecordPath (File RunProofRecord)) : ProofStore :=
  { s with lock := true, manifest := some (.whole ()), records := records }

/-- An append that stops before it removes the lock: its process has died, or a path holds
something else. -/
def Stopped (S : ImmutableProofRecordStore) (s : ProofStore) (c : Call) (r : Stop ProofError)
    (t : ProofStore) : Prop :=
  r = .killed ∧ Struck S s c ∧ t.lock = true ∨
    (∃ path, r = .raised (.differentBytes path)) ∧
      ¬(FreeRecord S s c.record ∧ FreeLink S s c.record) ∧
      PassedAll S s c [.writeLock, .write .manifest, .write .record, .write .link] ∧
      (¬Orphans S s c ∧ t = held s s.records ∨ Orphans S s c ∧
        t = held s (s.records.set (S.recordRelativePath c.record) (.whole c.record)))

lemma stopped_of_allowed (h : (proofRules c).allowed i kind) (hreached : Reached S s c.record i)
    (hlock : t.lock = true) : Stopped S s c kind.stop t :=
  Or.inl ⟨(stop_of_allowed h).1, struck_of_allowed h hreached, hlock⟩

lemma triple_ensureManifest (h : Sound S s) :
    Triple (proofRules c) (fun t => PassedAll S s c [.writeLock] ∧ t = { s with lock := true })
      ImmutableProofRecordStore.ensureManifest
      (fun _ t => PassedAll S s c [.writeLock, .write .manifest] ∧ t = held s s.records)
      (Stopped S s c) := by
  apply Triple.writeOnce_of_passes
  · rintro _ f ⟨hpassed, rfl⟩ hf
    have hwhole := h.manifest f hf
    refine ⟨fun _ => ⟨?_, ?_⟩, fun hne => absurd hwhole hne⟩
    · apply hpassed.append
      intro hnone
      rw [show s.manifest = none from hnone] at hf
      simp at hf
    · rw [held, ← hwhole, ← hf]
  · rintro hpasses _ ⟨hpassed, rfl⟩ hnone
    exact ⟨⟨hpassed.append fun _ => passed_of_passes hpasses, rfl⟩, keeps_of_eq rfl rfl⟩
  · rintro _ kind ⟨-, rfl⟩ hnone hallowed -
    exact stopped_of_allowed hallowed hnone rfl
  · rintro _ ⟨-, rfl⟩ hnone hallowed
    exact ⟨keeps_of_eq rfl rfl, stopped_of_allowed hallowed hnone rfl⟩

lemma triple_writeRecord :
    Triple (proofRules c)
      (fun t => PassedAll S s c [.writeLock, .write .manifest] ∧ t = held s s.records)
      (S.writeRecord c.record)
      (fun _ t => PassedAll S s c [.writeLock, .write .manifest, .write .record] ∧
        FreeRecord S s c.record ∧
        t = held s (s.records.set (S.recordRelativePath c.record) (.whole c.record)))
      (Stopped S s c) := by
  have hkeeps : ∀ f, (held s s.records).records.get? (S.recordRelativePath c.record) = none →
      Keeps (held s s.records)
        { held s s.records with
          records := s.records.set (S.recordRelativePath c.record) f } := by
    intro f hnone
    refine ⟨?_, fun _ _ hlink => hlink⟩
    intro path record hrecord
    have hne : S.recordRelativePath c.record ≠ path := by
      rintro rfl
      rw [hnone] at hrecord
      simp at hrecord
    rw [Dict.get?_set, if_neg hne]
    exact hrecord
  unfold ImmutableProofRecordStore.writeRecord
  apply Triple.writeOnce_of_passes
  · rintro _ f ⟨hpassed, rfl⟩ hf
    have hget : s.records.get? (S.recordRelativePath c.record) = some f := hf
    have hnotReached : ¬Reached S s c.record (.write .record) := fun hnone =>
      absurd ((show _ = none from hnone).symm.trans hget) (by simp)
    refine ⟨?_, ?_⟩
    · rintro rfl
      refine ⟨hpassed.append fun hreached => absurd hreached hnotReached, ?_, ?_⟩
      · intro f' hf'
        exact (Option.some.inj (hget.symm.trans hf')).symm
      · rw [Dict.set_eq_self hget]
    · -- another record is there, so that neither a new record nor a link is written
      intro hother
      refine Or.inr ⟨⟨_, rfl⟩, fun hfree => hother (hfree.1 f hget), ?_, Or.inl ⟨?_, rfl⟩⟩
      · refine (hpassed.append fun hreached => absurd hreached hnotReached).append ?_
        exact fun hreached => absurd (hreached.2 f hget) hother
      · rintro ⟨hnone, -⟩
        exact hnotReached hnone
  · rintro hpasses _ ⟨hpassed, rfl⟩ hnone
    refine ⟨⟨hpassed.append fun _ => passed_of_passes hpasses, ?_, rfl⟩, hkeeps _ hnone⟩
    intro f hf
    rw [show s.records.get? (S.recordRelativePath c.record) = none from hnone] at hf
    simp at hf
  · rintro _ kind ⟨-, rfl⟩ hnone hallowed -
    exact stopped_of_allowed hallowed hnone rfl
  · rintro _ ⟨-, rfl⟩ hnone hallowed
    exact ⟨hkeeps _ hnone, stopped_of_allowed hallowed hnone rfl⟩

lemma triple_writeLink (h : Sound S s) :
    Triple (proofRules c)
      (fun t => PassedAll S s c [.writeLock, .write .manifest, .write .record] ∧
        FreeRecord S s c.record ∧
        t = held s (s.records.set (S.recordRelativePath c.record) (.whole c.record)))
      (S.writeLink c.record)
      (fun _ t => PassedAll S s c [.writeLock, .write .manifest, .write .record, .write .link] ∧
        FreeRecord S s c.record ∧ FreeLink S s c.record ∧
        t = { written S s c.record with lock := true })
      (Stopped S s c) := by
  unfold ImmutableProofRecordStore.writeLink
  cases hreceipt : c.record.outcomeReceipt with
  | none =>
    apply Triple.pure
    rintro _ ⟨hpassed, hrecord, rfl⟩
    refine ⟨hpassed.append ?_, hrecord, ?_, ?_⟩
    · rintro ⟨⟨receipt, hmem, -⟩, -⟩
      simp [hreceipt] at hmem
    · intro receipt hmem
      simp [hreceipt] at hmem
    · simp [held, written, hreceipt]
  | some receipt =>
    have hkeeps : ∀ f linkedBy t, t.links.get? receipt.receiptDigest = none →
        Keeps t { t with links := t.links.set receipt.receiptDigest f, linkedBy := linkedBy } := by
      intro f linkedBy t hnone
      refine ⟨fun _ _ hrecord => hrecord, ?_⟩
      intro digest link hlink
      have hne : receipt.receiptDigest ≠ digest := by
        rintro rfl
        rw [hnone] at hlink
        simp at hlink
      rw [Dict.get?_set, if_neg hne]
      exact hlink
    apply Triple.writeOnce_of_passes
    · rintro _ f ⟨hpassed, hrecord, rfl⟩ hf
      have hget : s.links.get? receipt.receiptDigest = some f := hf
      have hnotReached : ¬Reached S s c.record (.write .link) := by
        rintro ⟨⟨receipt', hmem, hnone⟩, -⟩
        rw [hreceipt, Option.mem_some_iff] at hmem
        rw [← hmem, hget] at hnone
        simp at hnone
      have hall := hpassed.append fun hreached => absurd hreached hnotReached
      refine ⟨?_, ?_⟩
      · rintro rfl
        refine ⟨hall, hrecord, ?_, ?_⟩
        · intro receipt' hmem f' hf'
          rw [hreceipt, Option.mem_some_iff] at hmem
          rw [← hmem, hget] at hf'
          rw [← hmem]
          exact (Option.some.inj hf').symm
        · -- the link was written by an append of this very record
          obtain ⟨record, receipt', hlink, -, -, hstored, hlinked⟩ := h.links _ _ hget
          have hpath : S.recordRelativePath record = S.recordRelativePath c.record := by
            rw [File.whole.injEq] at hlink
            exact (congrArg (·.recordPath) hlink).symm
          rw [hpath] at hstored
          have hsame : record = c.record := by simpa using hrecord _ hstored
          rw [hsame] at hlinked
          simp [held, written, hreceipt, Dict.set_eq_self hget, Dict.set_eq_self hlinked]
      · intro hother
        refine Or.inr ⟨⟨_, rfl⟩, fun hfree => hother (hfree.2 receipt (by simp [hreceipt]) f hget),
          hall, ?_⟩
        cases hstored : s.records.get? (S.recordRelativePath c.record) with
        | none => exact Or.inr ⟨⟨hstored, receipt, by simp [hreceipt], f, hget, hother⟩, rfl⟩
        | some f' =>
          obtain rfl := hrecord f' hstored
          refine Or.inl ⟨fun ⟨hnone, _⟩ => ?_, by rw [Dict.set_eq_self hstored]⟩
          rw [hstored] at hnone
          simp at hnone
    · rintro hpasses _ ⟨hpassed, hrecord, rfl⟩ hnone
      refine ⟨⟨hpassed.append fun _ => passed_of_passes hpasses, hrecord, ?_, ?_⟩,
        hkeeps _ _ _ hnone⟩
      · intro receipt' hmem f hf
        rw [hreceipt, Option.mem_some_iff] at hmem
        rw [← hmem, show s.links.get? receipt.receiptDigest = none from hnone] at hf
        simp at hf
      · simp [held, written, hreceipt]
    · rintro _ kind ⟨-, hrecord, rfl⟩ hnone hallowed -
      exact stopped_of_allowed hallowed ⟨⟨receipt, by simp [hreceipt], hnone⟩, hrecord⟩ rfl
    · rintro _ ⟨-, hrecord, rfl⟩ hnone hallowed
      exact ⟨hkeeps _ _ _ hnone,
        stopped_of_allowed hallowed ⟨⟨receipt, by simp [hreceipt], hnone⟩, hrecord⟩ rfl⟩

/-- An append to a sound store that completes leaves all of its files, one that is refused leaves
the store as it was or the record without its link, and one whose process dies leaves the lock. -/
lemma triple_append (h : Sound S s) :
    Triple (proofRules c) (fun t => t = s) (S.append c.record)
      (fun path t => path = S.recordRelativePath c.record ∧ ¬Struck S s c ∧ ¬Orphans S s c ∧
        FreeRecord S s c.record ∧ FreeLink S s c.record ∧ t = written S s c.record)
      (fun r t => r = .killed ∧ Struck S s c ∧ t.lock = true ∨
        (∃ path, r = .raised (.differentBytes path)) ∧
          ¬(FreeRecord S s c.record ∧ FreeLink S s c.record) ∧ ¬Struck S s c ∧
          (¬Orphans S s c ∧ t = { s with manifest := some (.whole ()) } ∨ Orphans S s c ∧
            t = { s with
              manifest := some (.whole ())
              records := s.records.set (S.recordRelativePath c.record) (.whole c.record) })) := by
  -- no step strikes when those reached have been passed
  have hquiet : PassedAll S s c [.writeLock, .write .manifest, .write .record, .write .link] →
      Passed c .removeLock → ¬Struck S s c := by
    rintro hpassed hremove ⟨crash, hcrash, hreached⟩
    have hmem : crash.step ∈ [ProofStep.writeLock, .write .manifest, .write .record,
        .write .link] ∨ crash.step = .removeLock := by
      cases hstep : crash.step with
      | createLock => exact absurd hstep crash.later
      | writeLock => simp
      | write file => cases file <;> simp
      | removeLock => simp
    obtain hmem | hstep := hmem
    · exact hpassed _ hmem hreached crash hcrash rfl
    · exact hremove crash hcrash hstep
  unfold ImmutableProofRecordStore.append
  apply Triple.read_bind
  intro s' hs
  rw [hs, raiseIf_neg (by simp [h.unlocked])]
  apply Triple.check_ok_bind rfl
  apply Triple.bind (M := fun _ t => t = { s with lock := true })
  · apply Triple.step
    · rintro _ rfl
      rfl
    · rintro _ rfl
      exact keeps_of_eq rfl rfl
    · intro _ kind _ hallowed _
      exact absurd rfl (stop_of_allowed hallowed).2
    · intro _ _ hallowed
      exact absurd rfl (stop_of_allowed hallowed).2
  intro _
  -- the lock is released, or the process dies first
  have hrelease : ∀ {P Q : ProofStore → Prop} {E : Stop ProofError → ProofStore → Prop},
      (∀ t, P t → t.lock = true) → (Passed c .removeLock → ∀ t, P t → Q { t with lock := false }) →
      (∀ t, Struck S s c → t.lock = true → E .killed t) →
      Triple (proofRules c) P (Prog.step .removeLock id fun t => { t with lock := false })
        (fun _ => Q) E := by
    intro P Q E hlock hQ hE
    apply Triple.step_of_passes
    · exact fun hpasses t ht => ⟨keeps_of_eq rfl rfl, hQ (passed_of_passes hpasses) t ht⟩
    · intro t kind ht hallowed _
      rw [(stop_of_allowed hallowed).1]
      exact hE t (struck_of_allowed hallowed trivial) (hlock t ht)
    · intro t ht hallowed
      exact ⟨keeps_of_eq rfl rfl, hE t (struck_of_allowed hallowed trivial) (hlock t ht)⟩
  apply Triple.bind (M := fun _ t => ¬Struck S s c ∧ ¬Orphans S s c ∧ FreeRecord S s c.record ∧
    FreeLink S s c.record ∧ t = written S s c.record)
  · apply Triple.tryFinally (F := Stopped S s c) (M := fun _ t =>
      PassedAll S s c [.writeLock, .write .manifest, .write .record, .write .link] ∧
        FreeRecord S s c.record ∧ FreeLink S s c.record ∧
        t = { written S s c.record with lock := true })
    · apply Triple.bind (M := fun _ t => PassedAll S s c [.writeLock] ∧
        t = { s with lock := true })
      · apply Triple.step_of_passes
        · rintro hpasses _ rfl
          refine ⟨keeps_of_eq rfl rfl, ?_, rfl⟩
          intro i hi _
          rw [List.mem_singleton.mp hi]
          exact passed_of_passes hpasses
        · rintro _ kind rfl hallowed -
          exact stopped_of_allowed hallowed trivial rfl
        · rintro _ rfl hallowed
          exact ⟨keeps_of_eq rfl rfl, stopped_of_allowed hallowed trivial rfl⟩
      intro _
      apply Triple.bind (triple_ensureManifest h)
      intro _
      apply Triple.bind triple_writeRecord
      exact fun _ => triple_writeLink h
    · intro _
      apply hrelease
      · rintro _ ⟨-, -, -, rfl⟩
        rfl
      · rintro hremove _ ⟨hpassed, hrecord, hlink, rfl⟩
        refine ⟨hquiet hpassed hremove, ?_, hrecord, hlink, ?_⟩
        · rintro ⟨-, receipt, hmem, f, hf, hother⟩
          exact hother (hlink receipt hmem f hf)
        · simp [written, h.unlocked]
      · exact fun t hstruck hlock => Or.inl ⟨rfl, hstruck, hlock⟩
    · intro e
      apply hrelease
      · rintro t (⟨hkilled, -⟩ | ⟨-, -, -, ⟨-, rfl⟩ | ⟨-, rfl⟩⟩)
        · simp at hkilled
        · rfl
        · rfl
      · rintro hremove t (⟨hkilled, -⟩ | ⟨hpath, hnotFree, hpassed, hstate⟩)
        · simp at hkilled
        · refine Or.inr ⟨hpath, hnotFree, hquiet hpassed hremove, ?_⟩
          obtain ⟨hfree, rfl⟩ | ⟨horphans, rfl⟩ := hstate
          · exact Or.inl ⟨hfree, by simp [held, h.unlocked]⟩
          · exact Or.inr ⟨horphans, by simp [held, h.unlocked]⟩
      · exact fun t hstruck hlock => Or.inl ⟨rfl, hstruck, hlock⟩
    · rintro m - (⟨hkilled, -⟩ | ⟨⟨path, hraised⟩, -⟩)
      · simp at hkilled
      · simp at hraised
    · rintro m - (⟨hkilled, -⟩ | ⟨⟨path, hraised⟩, -⟩)
      · simp at hkilled
      · simp at hraised
    · rintro t (hkilled | ⟨⟨path, hraised⟩, -⟩)
      · exact Or.inl hkilled
      · simp at hraised
  intro _
  exact Triple.pure fun t ht => ⟨rfl, ht⟩

/-- How a call ends on a sound store. -/
inductive Ends (S : ImmutableProofRecordStore) (s : ProofStore) (c : Call) : Prop
  | completed (path : RecordPath) (outcome : (S.perform s c).1 = .ok path)
      (survives : ¬Struck S s c ∧ ¬Orphans S s c) (free : FreeRecord S s c.record)
      (freeLink : FreeLink S s c.record) (state : (S.perform s c).2.state = written S s c.record)
  | died (outcome : (S.perform s c).1 = .error .killed) (struck : Struck S s c)
      (locked : (S.perform s c).2.state.lock = true)
  | refused (path : String) (outcome : (S.perform s c).1 = .error (.raised (.differentBytes path)))
      (notFree : ¬(FreeRecord S s c.record ∧ FreeLink S s c.record))
      (survives : ¬Struck S s c ∧ ¬Orphans S s c)
      (state : (S.perform s c).2.state = { s with manifest := some (.whole ()) })
  | orphaned (path : String) (outcome : (S.perform s c).1 = .error (.raised (.differentBytes path)))
      (orphans : Orphans S s c)
      (state : (S.perform s c).2.state = { s with
        manifest := some (.whole ())
        records := s.records.set (S.recordRelativePath c.record) (.whole c.record) })

lemma Sound.ends (h : Sound S s) : Ends S s c ∧
    ((S.perform s c).2.state :: (S.perform s c).2.past).IsChain fun t s => Keeps s t := by
  obtain ⟨htrace, hpost⟩ := triple_append h
    { state := s, fault := c.crash.map fun crash => ⟨crash.step, 0, crash.kind⟩ }
    ⟨rfl, fun _ _ => trivial, .singleton _⟩ rfl
  refine ⟨?_, htrace.chain⟩
  have hperform : S.perform s c = S.append c.record
    { state := s, fault := c.crash.map fun crash => ⟨crash.step, 0, crash.kind⟩ } := rfl
  rw [← hperform] at hpost
  cases houtcome : (S.perform s c).1 with
  | ok path =>
    rw [houtcome] at hpost
    obtain ⟨-, -, hstruck, horphans, hfree, hfreeLink, hstate⟩ := hpost
    exact .completed path houtcome ⟨hstruck, horphans⟩ hfree hfreeLink hstate
  | error r =>
    rw [houtcome] at hpost
    obtain ⟨-, ⟨rfl, hstruck, hlock⟩ | ⟨⟨path, rfl⟩, hnotFree, hstruck, hstate⟩⟩ := hpost
    · exact .died houtcome hstruck hlock
    · obtain ⟨horphans, hstate⟩ | ⟨horphans, hstate⟩ := hstate
      · exact .refused path houtcome hnotFree ⟨hstruck, horphans⟩ hstate
      · exact .orphaned path houtcome horphans hstate

lemma Sound.with_manifest (h : Sound S s) :
    Sound S { s with manifest := some (.whole ()) } where
  __ := h
  manifest := by simp

/-- A call that survives leaves the store sound. -/
lemma Sound.perform (h : Sound S s) (hstruck : ¬Struck S s c) (horphans : ¬Orphans S s c) :
    Sound S (S.perform s c).2.state := by
  cases h.ends.1 with
  | completed path houtcome _ hfree _ hstate =>
    rw [hstate]
    exact h.written hfree
  | died houtcome hstruck' hlock => exact absurd hstruck' hstruck
  | refused path houtcome _ _ hstate =>
    rw [hstate]
    exact h.with_manifest
  | orphaned path houtcome horphans' hstate => exact absurd horphans' horphans

/-- Where the lock is left behind, every append is refused. -/
lemma perform_of_locked (hlock : s.lock = true) :
    (S.perform s c).1 = .error (.raised .activeWriter) := by
  unfold ImmutableProofRecordStore.perform ImmutableProofRecordStore.append
  show (Prog.handle Prog.read _ _).1 = _
  simp only [Prog.handle, Prog.read, hlock, raiseIf_pos]
  rfl

/-- A call is all or nothing exactly when no process dies in it and it leaves no record without
its link. -/
theorem Sound.allOrNothing_iff (h : Sound S s) :
    AllOrNothing S s c ↔ ¬Struck S s c ∧ ¬Orphans S s c := by
  obtain ⟨hends, hchain⟩ := h.ends (c := c)
  constructor
  · intro hall
    cases hends with
    | completed path houtcome hsurvives hfree hfreeLink hstate => exact hsurvives
    | refused path houtcome hnotFree hsurvives hstate => exact hsurvives
    | died houtcome hstruck hlock =>
      -- the next append finds the lock
      obtain ⟨path, hpath, -⟩ := hall.recovers houtcome
      rw [perform_of_locked hlock] at hpath
      simp at hpath
    | orphaned path houtcome horphans hstate =>
      -- the record is listed from now on
      have hsame := (hall.refused path houtcome).1
      obtain ⟨records, hrecords, hlength, -⟩ := h.iterRecords_eq
      have hfresh := Dict.get?_eq_none_iff.mp horphans.1
      rw [hrecords, ProofStore.iterRecords, mapM_eq_ok_iff] at hsame
      have hcount := hsame.length_eq
      rw [List.length_insertionSort, hstate, Dict.keys, List.length_map,
        Dict.entries_set_of_not_mem hfresh, List.length_append, List.length_singleton] at hcount
      omega
  · rintro ⟨hstruck, horphans⟩
    have hsound := h.perform hstruck horphans
    obtain ⟨records, hrecords, -⟩ := hsound.iterRecords_eq
    refine ⟨hchain, fun _ _ => hsound.lookupOutcome_eq_ok, ?_, ?_, records, hrecords⟩
    · intro path hpath
      cases hends with
      | completed path' houtcome _ _ _ _ =>
        rw [houtcome] at hpath
        simp at hpath
      | died houtcome hstruck' _ => exact absurd hstruck' hstruck
      | refused path' houtcome _ _ hstate =>
        rw [hstate]
        exact ⟨rfl, fun _ => rfl⟩
      | orphaned path' houtcome horphans' _ => exact absurd horphans' horphans
    · intro hkilled
      cases hends with
      | completed path' houtcome _ _ _ _ =>
        rw [houtcome] at hkilled
        simp at hkilled
      | died houtcome hstruck' _ => exact absurd hstruck' hstruck
      | refused path' houtcome _ _ _ =>
        rw [houtcome] at hkilled
        simp at hkilled
      | orphaned path' houtcome horphans' _ => exact absurd horphans' horphans

/-- The calls of a run are all or nothing exactly when no process dies while it holds the lock and
no record is added whose receipt is linked to another one. -/
theorem all_or_nothing_iff {calls : List Call} :
    AllHold S .empty calls ↔ AllSurvive S .empty calls := by
  have hall : ∀ s, Sound S s → (AllHold S s calls ↔ AllSurvive S s calls) := by
    induction calls with
    | nil => exact fun _ _ => Iff.rfl
    | cons c calls ih =>
      intro s h
      unfold AllHold AllSurvive
      rw [h.allOrNothing_iff]
      constructor
      · rintro ⟨⟨hstruck, horphans⟩, hrest⟩
        exact ⟨⟨hstruck, horphans⟩, (ih _ (h.perform hstruck horphans)).mp hrest⟩
      · rintro ⟨⟨hstruck, horphans⟩, hrest⟩
        exact ⟨⟨hstruck, horphans⟩, (ih _ (h.perform hstruck horphans)).mpr hrest⟩
  exact hall .empty sound_empty

/-- A record of one task under a protocol, with a receipt. -/
def repairRecord : RunProofRecord where
  proofRecordDigest := "record"
  runEvidence :=
    { evidenceDigest := "evidence"
      pairKey := ⟨"task", "linux", 0, "provider"⟩
      protocolDigest := "protocol" }
  outcomeReceipt := some ⟨String.ofList (List.replicate 64 'a'),
    ⟨"task", "linux", 0, "provider"⟩, by decide⟩
  crossed := by
    rintro receipt ⟨⟩
    rfl

/-- An append whose process dies in the middle of writing the record. -/
def tornAppend : Call := ⟨repairRecord, some ⟨.write .record, .tear, by decide, by decide⟩⟩

/-- The partly written record can never be read, and the records can no longer be listed. -/
theorem not_allHold_of_torn : ¬AllHold ⟨fun key => key.taskManifestId⟩ .empty [tornAppend] := by
  rintro ⟨h, -⟩
  obtain ⟨records, hrecords⟩ := h.whole
  have hfails : (ImmutableProofRecordStore.perform ⟨fun key => key.taskManifestId⟩ .empty
      tornAppend).2.state.iterRecords.toBool = false := by
    decide +kernel
  rw [hrecords] at hfails
  simp [Except.toBool] at hfails

end Agintor.Storage.ProofRecords
