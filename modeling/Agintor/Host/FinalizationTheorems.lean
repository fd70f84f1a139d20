import Agintor.Host.Finalization
import Agintor.Storage.RunStoreTheorems

/-!
# What is left of a run when the host has closed it

The manifest that the host writes at the end is the one it read before the attempt began: the
attempt it names is an older one, or none. What the manifest says about resuming is right as long
as the results report checkpoints of the run, and nothing that can be resumed is pruned.
-/

namespace Agintor.Host

open Lib Core
open Storage.RunStore (CheckpointReference SortKeyLe latestResumeEligibleCheckpointRow attemptName
  attemptName_injective)

variable {host : RuntimeHost} {s : HostRun} {dir : RunDirectory} {ref : String}

/-! ## What is to hold -/

/-- A checkpoint of the run that it can be resumed from. -/
def IsEligible (dir : RunDirectory) (ref : String) : Prop :=
  isBelow dir.manifest.runRoot ref = true ∧
    ∃ envelope, loadCheckpointEnvelope dir ref = some envelope ∧ envelope.resumeEligible = true

/-- The manifest on disk names the newest attempt. -/
def KeepsAttempt (s : HostRun) : Prop :=
  s.dir.manifest.currentAttemptId = some s.attempt.attemptId

/-- Once an attempt is closed, the manifest says whether the run can be resumed, and from what. -/
def SaysResumable (host : RuntimeHost) (s : HostRun) : Prop :=
  s.running = false →
    (s.dir.manifest.resumable = true ↔
      ∃ ref, latestUsableCheckpointRef host s.dir = some ref ∧ IsEligible s.dir ref) ∧
    (s.dir.manifest.resumable = true →
      ∃ ref, s.dir.manifest.latestCheckpointRef = some ref ∧ IsEligible s.dir ref)

/-- No run is pruned that can be resumed. -/
def PrunesSafely (s : HostRun) : Prop := ∀ dir ∈ s.pruned, ∀ ref, ¬IsEligible dir ref

structure Sound (host : RuntimeHost) (s : HostRun) : Prop where
  attempt : KeepsAttempt s
  resumable : SaysResumable host s
  prunes : PrunesSafely s

/-- The results report no checkpoint, or a file of the run. -/
def Reports (s : HostRun) : Event → Prop
  | .finalize outcome => s.running = true →
      ∀ ref ∈ outcome.reportedCheckpointRef s.dir s.held,
        isBelow s.dir.manifest.runRoot ref = true ∧ s.dir.files.contains ref = true
  | _ => True

def RunReports (host : RuntimeHost) (s : HostRun) : List Event → Prop
  | [] => True
  | event :: events => Reports s event ∧ RunReports host (step host s event) events

/-! ## Attempts -/

/-- The attempts are numbered, and the host holds a manifest from before the newest. -/
structure Begun (s : HostRun) : Prop where
  keys : ∀ id ∈ s.dir.attempts.keys,
    ∃ k, k < s.dir.attempts.entries.length ∧ id = attemptName (k + 1)
  attempt : s.attempt.attemptId ∈ s.dir.attempts.keys
  held : ∀ id, s.held.currentAttemptId = some id →
    id ∈ s.dir.attempts.keys ∧ id ≠ s.attempt.attemptId
  current : ∀ id, s.dir.manifest.currentAttemptId = some id → id ∈ s.dir.attempts.keys

lemma attemptName_not_mem {attempts : Dict String AttemptManifest}
    (h : ∀ id ∈ attempts.keys, ∃ k, k < attempts.entries.length ∧ id = attemptName (k + 1)) :
    attemptName (attempts.entries.length + 1) ∉ attempts.keys := by
  intro hmem
  obtain ⟨k, hk, heq⟩ := h _ hmem
  have hsame := attemptName_injective heq
  omega

lemma length_entries_eq_of_keys {κ α : Type} {d d' : Dict κ α} (h : d.keys = d'.keys) :
    d.entries.length = d'.entries.length := by
  simpa [Dict.keys] using congrArg List.length h

variable {resumedFrom : Option String} {pruned : List RunDirectory} {launchKind : LaunchKind}

lemma begun_attemptFrom (hkeys : ∀ id ∈ dir.attempts.keys,
      ∃ k, k < dir.attempts.entries.length ∧ id = attemptName (k + 1))
    (hcurrent : ∀ id, dir.manifest.currentAttemptId = some id → id ∈ dir.attempts.keys) :
    Begun (attemptFrom dir launchKind resumedFrom pruned) := by
  have hnew := attemptName_not_mem hkeys
  have hlength : (attemptFrom dir launchKind resumedFrom pruned).dir.attempts.entries.length =
      dir.attempts.entries.length + 1 := by
    simp only [attemptFrom, beginAttempt]
    rw [Dict.entries_set_of_not_mem hnew, List.length_append, List.length_singleton]
  constructor
  · intro id hid
    rw [hlength]
    rcases Dict.mem_keys_set.mp hid with rfl | hold
    · exact ⟨_, by omega, rfl⟩
    · obtain ⟨k, hk, heq⟩ := hkeys id hold
      exact ⟨k, by omega, heq⟩
  · exact Dict.mem_keys_set.mpr (Or.inl rfl)
  · intro id hid
    have hold := hcurrent id hid
    refine ⟨Dict.mem_keys_set.mpr (Or.inr hold), ?_⟩
    rintro rfl
    exact hnew hold
  · intro id hid
    exact Dict.mem_keys_set.mpr (Or.inl (Option.some.inj hid).symm)

lemma begun_launch (launchKind : LaunchKind) (runId runRoot runtimeHash : String)
    (elsewhere : Elsewhere runRoot) :
    Begun (launch launchKind runId runRoot runtimeHash elsewhere) := by
  apply begun_attemptFrom
  · intro id hid
    exact absurd hid List.not_mem_nil
  · intro id hid
    exact absurd hid (Option.some_ne_none id).symm

lemma Begun.publish {checkpointId requestId : String} {sequenceNo : ℕ} {createdAt : ℚ}
    {resumeEligible : Bool} (h : Begun s) :
    Begun (publish s checkpointId requestId sequenceNo createdAt resumeEligible) where
  __ := h
  current _ hid := Option.some.inj hid ▸ h.attempt

/-- Closing an attempt prunes the directory, or does not. -/
lemma finalize_cases (host : RuntimeHost) (s : HostRun) (outcome : Outcome) :
    (finalize host s outcome).dir = closedDirectory host s.dir s.held s.attempt outcome ∧
        (finalize host s outcome).pruned = s.pruned ∨
      (closedDirectory host s.dir s.held s.attempt outcome).manifest.pruneEligible = true ∧
        (finalize host s outcome).dir =
          pruneRun (closedDirectory host s.dir s.held s.attempt outcome)
            (closedDirectory host s.dir s.held s.attempt outcome).manifest ∧
        (finalize host s outcome).pruned =
          s.pruned ++ [closedDirectory host s.dir s.held s.attempt outcome] := by
  unfold finalize finalizeExecutionUnit
  dsimp only
  split
  · next hprune =>
    rw [Bool.and_eq_true] at hprune
    exact Or.inr ⟨hprune.1, rfl, rfl⟩
  · exact Or.inl ⟨rfl, List.append_nil _⟩

/-- Either way the manifest names the attempt that the held manifest names. -/
lemma currentAttemptId_finalize (host : RuntimeHost) (s : HostRun) (outcome : Outcome) :
    (finalize host s outcome).dir.manifest.currentAttemptId = s.held.currentAttemptId := by
  rcases finalize_cases host s outcome with ⟨hdir, -⟩ | ⟨-, hdir, -⟩ <;> rw [hdir] <;> rfl

lemma keys_attempts_finalize (h : s.attempt.attemptId ∈ s.dir.attempts.keys) (host : RuntimeHost)
    (outcome : Outcome) : (finalize host s outcome).dir.attempts.keys = s.dir.attempts.keys := by
  have hclosed : (closedDirectory host s.dir s.held s.attempt outcome).attempts.keys =
      s.dir.attempts.keys := Dict.keys_set_of_mem h
  rcases finalize_cases host s outcome with ⟨hdir, -⟩ | ⟨-, hdir, -⟩ <;> rw [hdir] <;> exact hclosed

lemma Begun.finalize (h : Begun s) (outcome : Outcome) : Begun (finalize host s outcome) := by
  have hkeys := keys_attempts_finalize h.attempt host outcome
  constructor
  · rw [hkeys, length_entries_eq_of_keys hkeys]
    exact h.keys
  · rw [hkeys]
    exact h.attempt
  · rw [hkeys]
    exact h.held
  · rw [hkeys, currentAttemptId_finalize]
    exact fun id hid => (h.held id hid).1

lemma Begun.resume (h : Begun s) (checkpointRef : Option String) :
    Begun (resume host s checkpointRef) := by
  unfold Host.resume
  split
  · exact h
  · exact begun_attemptFrom h.keys h.current

theorem Begun.step (h : Begun s) (event : Event) : Begun (step host s event) := by
  cases event with
  | publish checkpointId requestId sequenceNo createdAt resumeEligible =>
    unfold Host.step
    dsimp only
    split
    · exact h.publish
    · exact h
  | finalize outcome =>
    unfold Host.step
    dsimp only
    split
    · exact h.finalize outcome
    · exact h
  | resume checkpointRef => exact h.resume checkpointRef

variable (host) in
/-- While no attempt is closed, the manifest names the newest one. -/
lemma keepsAttempt_step {event : Event} (hrunning : s.running = true) (h : KeepsAttempt s)
    (hevent : ∀ outcome, event ≠ .finalize outcome) :
    (step host s event).running = true ∧ KeepsAttempt (step host s event) ∧
      (step host s event).pruned = s.pruned := by
  cases event with
  | publish checkpointId requestId sequenceNo createdAt resumeEligible =>
    unfold step
    dsimp only
    rw [if_pos hrunning]
    exact ⟨hrunning, rfl, rfl⟩
  | finalize outcome => exact absurd rfl (hevent outcome)
  | resume checkpointRef =>
    show (resume host s checkpointRef).running = true ∧ KeepsAttempt (resume host s checkpointRef) ∧
      (resume host s checkpointRef).pruned = s.pruned
    unfold resume
    split
    · exact ⟨hrunning, h, rfl⟩
    · exact ⟨rfl, rfl, rfl⟩

variable {envelope : CheckpointEnvelope} {events : List Event} {row : CheckpointReference}
    {outcome : Outcome}

variable (host) in
lemma keepsAttempt_run (hrunning : s.running = true) (h : KeepsAttempt s)
    (hevents : ∀ outcome, .finalize outcome ∉ events) :
    (run host s events).running = true ∧ KeepsAttempt (run host s events) ∧
      (run host s events).pruned = s.pruned := by
  induction events generalizing s with
  | nil => exact ⟨hrunning, h, rfl⟩
  | cons event events ih =>
    have hstep := keepsAttempt_step host hrunning h fun outcome heq =>
      hevents outcome (heq ▸ List.mem_cons_self)
    have hrest := ih hstep.1 hstep.2.1 fun outcome hmem =>
      hevents outcome (List.mem_cons_of_mem event hmem)
    exact ⟨hrest.1, hrest.2.1, hrest.2.2.trans hstep.2.2⟩

theorem Begun.run (h : Begun s) : Begun (run host s events) := by
  induction events generalizing s with
  | nil => exact h
  | cons event events ih => exact ih (h.step event)

/-- Once an attempt is closed, the manifest names an older one, or none. -/
lemma not_keepsAttempt_finalize (h : Begun s) (hrunning : s.running = true) (outcome : Outcome) :
    ¬KeepsAttempt (step host s (.finalize outcome)) := by
  unfold step
  dsimp only
  rw [if_pos hrunning]
  intro hkeeps
  have hcurrent : s.held.currentAttemptId = some s.attempt.attemptId :=
    (currentAttemptId_finalize host s outcome).symm.trans hkeeps
  exact (h.held _ hcurrent).2 rfl

/-- The first time that an attempt is closed. -/
lemma exists_first_finalize (h : .finalize outcome ∈ events) :
    ∃ front first rest, events = front ++ .finalize first :: rest ∧
      ∀ outcome, .finalize outcome ∉ front := by
  induction events with
  | nil => exact absurd h List.not_mem_nil
  | cons event events ih =>
    cases event with
    | finalize first => exact ⟨[], first, events, rfl, fun _ => List.not_mem_nil⟩
    | publish _ _ _ _ _ =>
      obtain ⟨front, first, rest, heq, hfront⟩ := ih ((List.mem_cons.mp h).resolve_left (by simp))
      exact ⟨_ :: front, first, rest, by rw [heq]; rfl, by simpa using hfront⟩
    | resume _ =>
      obtain ⟨front, first, rest, heq, hfront⟩ := ih ((List.mem_cons.mp h).resolve_left (by simp))
      exact ⟨_ :: front, first, rest, by rw [heq]; rfl, by simpa using hfront⟩

/-! ## Checkpoints -/

lemma isBelow_iff {directory ref : String} :
    isBelow directory ref = true ↔ (directory ++ "/").toList <+: ref.toList := by
  unfold isBelow
  rw [List.isPrefixOf_iff_prefix]

lemma isBelow_checkpointPath (runRoot checkpointId : String) :
    isBelow runRoot (checkpointPath runRoot checkpointId) = true := by
  rw [isBelow_iff]
  refine ⟨"checkpoints/".toList ++ (checkpointId ++ ".json").toList, ?_⟩
  simp only [checkpointPath, String.toList_append, List.append_assoc, List.append_cancel_left_eq]
  rfl

lemma isPruned_checkpointPath (runRoot checkpointId : String) :
    isPruned runRoot (checkpointPath runRoot checkpointId) = true := by
  unfold isPruned
  rw [List.any_eq_true]
  refine ⟨"checkpoints", List.mem_cons_self, ?_⟩
  rw [isBelow_iff]
  refine ⟨(checkpointId ++ ".json").toList, ?_⟩
  simp only [checkpointPath, String.toList_append, List.append_assoc, List.append_cancel_left_eq]
  rfl

/-- The index knows every checkpoint of the run. -/
structure Published (s : HostRun) : Prop where
  held : s.held.runRoot = s.dir.manifest.runRoot
  rows : ∀ row ∈ s.dir.index, row.ref = checkpointPath s.dir.manifest.runRoot row.checkpointId
  latest : ∀ row, s.dir.latest = some row →
    row.ref = checkpointPath s.dir.manifest.runRoot row.checkpointId
  files : ∀ ref envelope, isBelow s.dir.manifest.runRoot ref = true →
    loadCheckpointEnvelope s.dir ref = some envelope →
      ∃ row ∈ s.dir.index, row.ref = ref ∧ row.resumeEligible = envelope.resumeEligible
  prunes : PrunesSafely s

lemma mem_index_writeCheckpoint (h : row ∈ (writeCheckpoint dir envelope).index) :
    ∃ row', (row' ∈ dir.index ∧ row'.checkpointId ≠ envelope.checkpointId ∨
        row' = referenceOf (dir.index.length + 1) envelope) ∧
      row = { row' with latest := row.latest } := by
  obtain ⟨row', hmem, rfl⟩ := List.mem_map.mp h
  rw [List.mem_insertionSort, List.mem_append, List.mem_filter, List.mem_singleton] at hmem
  exact ⟨row', by simpa using hmem, rfl⟩

lemma exists_row_writeCheckpoint (dir : RunDirectory) (envelope : CheckpointEnvelope)
    (h : row ∈ dir.index ∧ row.checkpointId ≠ envelope.checkpointId ∨
      row = referenceOf (dir.index.length + 1) envelope) :
    ∃ row' ∈ (writeCheckpoint dir envelope).index, row'.ref = row.ref ∧
      row'.resumeEligible = row.resumeEligible := by
  refine ⟨_, List.mem_map_of_mem (a := row) ?_, rfl, rfl⟩
  rw [List.mem_insertionSort, List.mem_append, List.mem_filter, List.mem_singleton]
  simpa using h

/-- `LATEST.json` and the manifest name a row of the index. -/
lemma latest_writeCheckpoint (h : latestResumeEligibleCheckpointRow ((dir.index.filter
      (·.checkpointId ≠ envelope.checkpointId) ++
        [referenceOf (dir.index.length + 1) envelope]).insertionSort SortKeyLe) = some row) :
    row ∈ dir.index ∧ row.checkpointId ≠ envelope.checkpointId ∨
      row = referenceOf (dir.index.length + 1) envelope := by
  have hmem := List.mem_of_find?_eq_some h
  rw [List.mem_reverse, List.mem_insertionSort, List.mem_insertionSort, List.mem_append,
    List.mem_filter, List.mem_singleton] at hmem
  simpa using hmem

/-- What `write_checkpoint` leaves of an index that knows every checkpoint. -/
lemma Published.writeCheckpoint (h : Published s)
    (hroot : envelope.runRoot = s.dir.manifest.runRoot) :
    Published { s with dir := writeCheckpoint s.dir envelope } := by
  have hrow : ∀ row, (row ∈ s.dir.index ∧ row.checkpointId ≠ envelope.checkpointId ∨
      row = referenceOf (s.dir.index.length + 1) envelope) →
        row.ref = checkpointPath s.dir.manifest.runRoot row.checkpointId := by
    intro row hrow
    rcases hrow with ⟨hold, -⟩ | rfl
    · exact h.rows row hold
    · rw [← hroot]
      rfl
  refine ⟨h.held, ?_, ?_, ?_, h.prunes⟩
  · intro row hmem
    obtain ⟨row', hrow', heq⟩ := mem_index_writeCheckpoint hmem
    rw [heq]
    exact hrow row' hrow'
  · intro row hlatest
    obtain ⟨row', hfind, rfl⟩ := Option.map_eq_some_iff.mp hlatest
    exact hrow row' (latest_writeCheckpoint hfind)
  · intro ref loaded hbelow hload
    have hfiles : (Host.writeCheckpoint s.dir envelope).files.get? ref =
        if checkpointPath envelope.runRoot envelope.checkpointId = ref then
          some (.checkpoint envelope) else s.dir.files.get? ref := Dict.get?_set _ _ _ _
    by_cases hnew : checkpointPath envelope.runRoot envelope.checkpointId = ref
    · have hsame : envelope = loaded := by
        simpa [loadCheckpointEnvelope, hfiles, hnew] using hload
      obtain ⟨row, hmem, href, heligible⟩ := exists_row_writeCheckpoint s.dir envelope (Or.inr rfl)
      exact ⟨row, hmem, href.trans hnew, heligible.trans (hsame ▸ rfl)⟩
    · have hold : loadCheckpointEnvelope s.dir ref = some loaded := by
        simpa [loadCheckpointEnvelope, hfiles, hnew] using hload
      obtain ⟨row, hmem, href, heligible⟩ := h.files ref loaded hbelow hold
      have hother : row.checkpointId ≠ envelope.checkpointId := by
        intro hsame
        rw [hroot, ← hsame, ← h.rows row hmem] at hnew
        exact hnew href
      obtain ⟨row', hmem', href', heligible'⟩ := exists_row_writeCheckpoint s.dir
        envelope (Or.inl ⟨hmem, hother⟩)
      exact ⟨row', hmem', href'.trans href, heligible'.trans heligible⟩

/-- A run without a usable checkpoint has no checkpoint that it can be resumed from. -/
lemma Published.not_isEligible (h : Published s)
    (hnone : latestUsableCheckpointRef host s.dir = none) (ref : String) : ¬IsEligible s.dir ref := by
  rintro ⟨hbelow, envelope, hload, heligible⟩
  obtain ⟨row, hmem, href, hrow⟩ := h.files ref envelope hbelow hload
  have hcandidate : ref ∈ candidates s.dir := by
    unfold candidates
    rw [List.mem_eraseDups]
    refine List.mem_append_right _ (List.mem_map.mpr ⟨row, ?_, href⟩)
    rw [List.mem_filter, List.mem_reverse, List.mem_insertionSort]
    exact ⟨hmem, hrow.trans heligible⟩
  have husable : isUsable host s.dir ref = true := by
    unfold isUsable
    rw [hload]
    simp [heligible, belongsTo, hbelow]
  exact List.find?_eq_none.mp hnone ref hcandidate husable

/-- A directory is only pruned when the results report nothing and nothing is found. -/
lemma latestUsable_of_pruneEligible
    (h : (closedDirectory host s.dir s.held s.attempt outcome).manifest.pruneEligible = true) :
    latestUsableCheckpointRef host s.dir = none := by
  have hnone : finalCheckpointRef host s.dir s.held outcome = none := by
    have hand : (_ && !(finalCheckpointRef host s.dir s.held outcome).isSome) = true := h
    rw [Bool.and_eq_true] at hand
    simpa using hand.2
  exact (Option.or_eq_none_iff.mp hnone).2

lemma loadCheckpointEnvelope_pruneRun (dir : RunDirectory) (manifest : RunManifest) (ref : String) :
    loadCheckpointEnvelope (pruneRun dir manifest) ref =
      if isPruned manifest.runRoot ref = true then none else loadCheckpointEnvelope dir ref := by
  unfold loadCheckpointEnvelope pruneRun
  rw [Dict.get?_filterKeys]
  by_cases h : isPruned manifest.runRoot ref = true <;> simp [h]

/-- Nothing is left of the checkpoints of a run that is pruned. -/
lemma Published.load_pruneRun (h : Published s) {manifest : RunManifest}
    (hroot : manifest.runRoot = s.dir.manifest.runRoot)
    (hbelow : isBelow s.dir.manifest.runRoot ref = true) :
    loadCheckpointEnvelope (pruneRun s.dir manifest) ref = none := by
  rw [loadCheckpointEnvelope_pruneRun, hroot]
  split
  · rfl
  · next hkept =>
    by_contra hsome
    obtain ⟨envelope, hload⟩ := Option.ne_none_iff_exists'.mp hsome
    obtain ⟨row, hmem, href, -⟩ := h.files ref envelope hbelow hload
    rw [← href, h.rows row hmem] at hkept
    exact hkept (isPruned_checkpointPath _ _)

lemma Published.finalize (h : Published s) (outcome : Outcome) :
    Published (finalize host s outcome) := by
  have hclosed : (closedDirectory host s.dir s.held s.attempt outcome).manifest.runRoot =
      s.dir.manifest.runRoot := h.held
  rcases finalize_cases host s outcome with ⟨hdir, hpruned⟩ | ⟨hprune, hdir, hpruned⟩
  · refine ⟨?_, ?_, ?_, ?_, ?_⟩
    · rw [hdir]
      rfl
    · rw [hdir, hclosed]
      exact h.rows
    · rw [hdir, hclosed]
      exact h.latest
    · rw [hdir, hclosed]
      exact h.files
    · unfold PrunesSafely
      rw [hpruned]
      exact h.prunes
  · have hnone := latestUsable_of_pruneEligible hprune
    refine ⟨?_, ?_, ?_, ?_, ?_⟩
    · rw [hdir]
      rfl
    · rw [hdir]
      exact fun row hrow => absurd hrow List.not_mem_nil
    · rw [hdir]
      exact fun row hrow => absurd hrow (Option.some_ne_none row).symm
    · intro ref envelope hbelow hload
      rw [hdir] at hbelow hload
      have hgone := h.load_pruneRun hclosed (hclosed ▸ hbelow)
      exact absurd (hgone.symm.trans hload) (Option.some_ne_none envelope).symm
    · unfold PrunesSafely
      rw [hpruned]
      intro dir hmem ref heligible
      rcases List.mem_append.mp hmem with hold | hnew
      · exact h.prunes dir hold ref heligible
      · rw [List.mem_singleton.mp hnew] at heligible
        unfold IsEligible at heligible
        rw [hclosed] at heligible
        exact h.not_isEligible hnone ref heligible

lemma Published.resume (h : Published s) (checkpointRef : Option String) :
    Published (resume host s checkpointRef) := by
  unfold Host.resume
  split
  · exact h
  · exact ⟨rfl, h.rows, h.latest, h.files, h.prunes⟩

theorem Published.step (h : Published s) (event : Event) : Published (step host s event) := by
  cases event with
  | publish checkpointId requestId sequenceNo createdAt resumeEligible =>
    unfold Host.step
    dsimp only
    split
    · exact h.writeCheckpoint rfl
    · exact h
  | finalize outcome =>
    unfold Host.step
    dsimp only
    split
    · exact h.finalize outcome
    · exact h
  | resume checkpointRef => exact h.resume checkpointRef

lemma published_launch (launchKind : LaunchKind) (runId runRoot runtimeHash : String)
    (elsewhere : Elsewhere runRoot) :
    Published (launch launchKind runId runRoot runtimeHash elsewhere) where
  held := rfl
  rows row hrow := absurd hrow List.not_mem_nil
  latest row hrow := absurd hrow (Option.some_ne_none row).symm
  files ref envelope hbelow hload := by
    have hkey : ref ∈ elsewhere.files.keys := by
      by_contra hmem
      have hget := Dict.get?_eq_none_iff.mpr hmem
      simp [loadCheckpointEnvelope, launch, attemptFrom, beginAttempt, createRun, hget] at hload
    exact absurd ((elsewhere.outside ref hkey).symm.trans hbelow) Bool.false_ne_true
  prunes dir hdir := absurd hdir List.not_mem_nil

/-! ## What the manifest says -/

/-- The manifests and `LATEST.json` name files of the run. -/
structure Own (host : RuntimeHost) (s : HostRun) : Prop where
  manifest : ∀ ref, s.dir.manifest.latestCheckpointRef = some ref →
    isBelow s.dir.manifest.runRoot ref = true
  attempts : ∀ id attempt ref, s.dir.attempts.get? id = some attempt →
    attempt.latestCheckpointRef = some ref → isBelow s.dir.manifest.runRoot ref = true
  resumable : SaysResumable host s

lemma candidates_below (hpublished : Published s)
    (hmanifest : ∀ ref, s.dir.manifest.latestCheckpointRef = some ref →
      isBelow s.dir.manifest.runRoot ref = true)
    (hattempts : ∀ id attempt ref, s.dir.attempts.get? id = some attempt →
      attempt.latestCheckpointRef = some ref → isBelow s.dir.manifest.runRoot ref = true) :
    ∀ ref ∈ candidates s.dir, isBelow s.dir.manifest.runRoot ref = true := by
  intro ref hmem
  unfold candidates at hmem
  rw [List.mem_eraseDups, List.mem_append, List.mem_append, List.mem_append] at hmem
  rcases hmem with ((hmem | hmem) | hmem) | hmem
  · exact hmanifest ref (Option.mem_toList.mp hmem)
  · obtain ⟨attempt, hattempt, hlatest⟩ := Option.bind_eq_some_iff.mp (Option.mem_toList.mp hmem)
    obtain ⟨id, -, hget⟩ := Option.bind_eq_some_iff.mp hattempt
    exact hattempts id attempt ref hget hlatest
  · obtain ⟨row, hlatest, rfl⟩ := Option.map_eq_some_iff.mp (Option.mem_toList.mp hmem)
    rw [hpublished.latest row hlatest]
    exact isBelow_checkpointPath _ _
  · obtain ⟨row, hrow, rfl⟩ := List.mem_map.mp hmem
    rw [List.mem_filter, List.mem_reverse, List.mem_insertionSort] at hrow
    rw [hpublished.rows row hrow.1]
    exact isBelow_checkpointPath _ _

lemma load_of_isUsable (h : isUsable host dir ref = true) :
    ∃ envelope, loadCheckpointEnvelope dir ref = some envelope ∧ envelope.resumeEligible = true := by
  unfold isUsable at h
  split at h
  · next envelope hload =>
    rw [Bool.and_eq_true] at h
    exact ⟨envelope, hload, h.1⟩
  · exact absurd h Bool.false_ne_true

/-- With only files of the run to try, what is found is a checkpoint of the run. -/
lemma isEligible_of_latestUsable
    (hbelow : ∀ ref ∈ candidates dir, isBelow dir.manifest.runRoot ref = true)
    (h : latestUsableCheckpointRef host dir = some ref) : IsEligible dir ref :=
  ⟨hbelow ref (List.mem_of_find?_eq_some h), load_of_isUsable (List.find?_some h)⟩

/-- The manifest is asked first. -/
lemma latestUsable_of_manifest (hmanifest : dir.manifest.latestCheckpointRef = some ref)
    (heligible : IsEligible dir ref) : latestUsableCheckpointRef host dir = some ref := by
  obtain ⟨hbelow, envelope, hload, hflag⟩ := heligible
  have husable : isUsable host dir ref = true := by
    unfold isUsable
    rw [hload]
    simp [hflag, belongsTo, hbelow]
  unfold latestUsableCheckpointRef candidates
  rw [hmanifest]
  simp only [Option.toList_some, List.cons_append, List.eraseDups_cons]
  rw [List.find?_cons_of_pos husable]

lemma Own.writeCheckpoint (hpublished : Published s) (hown : Own host s)
    (hroot : envelope.runRoot = s.dir.manifest.runRoot) (hrunning : s.running = true) :
    Own host { s with dir := writeCheckpoint s.dir envelope } where
  manifest ref hlatest := by
    obtain ⟨row, hfind, rfl⟩ := Option.map_eq_some_iff.mp hlatest
    have hrow := (hpublished.writeCheckpoint hroot).latest _ (Option.map_eq_some_iff.mpr
      ⟨row, hfind, rfl⟩)
    show isBelow s.dir.manifest.runRoot row.ref = true
    rw [show row.ref = _ from hrow]
    exact isBelow_checkpointPath _ _
  attempts := hown.attempts
  resumable hclosed := absurd (hrunning.symm.trans hclosed) (Bool.false_ne_true).symm

lemma own_attemptFrom (hmanifest : ∀ ref, dir.manifest.latestCheckpointRef = some ref →
      isBelow dir.manifest.runRoot ref = true)
    (hattempts : ∀ id attempt ref, dir.attempts.get? id = some attempt →
      attempt.latestCheckpointRef = some ref → isBelow dir.manifest.runRoot ref = true) :
    Own host (attemptFrom dir launchKind resumedFrom pruned) where
  manifest := hmanifest
  attempts id attempt ref hget hlatest := by
    simp only [attemptFrom, beginAttempt, Dict.get?_set] at hget
    split at hget
    · obtain rfl := Option.some.inj hget
      exact absurd hlatest (Option.some_ne_none ref).symm
    · exact hattempts id attempt ref hget hlatest
  resumable hclosed := absurd hclosed (Bool.false_ne_true).symm

section

variable (hpublished : Published s) (hown : Own host s) (hrunning : s.running = true)
  (hreports : Reports s (.finalize outcome))
include hpublished hown hrunning hreports

/-- What is taken for the latest checkpoint is a checkpoint of the run. -/
lemma isEligible_of_final
    (h : finalCheckpointRef host s.dir s.held outcome = some ref) : IsEligible s.dir ref := by
  rcases Option.or_eq_some_iff.mp h with hreported | ⟨-, hdurable⟩
  · obtain ⟨hbelow, hcontains⟩ := hreports hrunning ref hreported
    have hkept := (Option.filter_eq_some_iff.mp hreported).2
    have heligible : checkpointRefIsResumeEligible s.dir ref = true := by
      simpa [hcontains] using hkept
    refine ⟨hbelow, ?_⟩
    unfold checkpointRefIsResumeEligible at heligible
    split at heligible
    · next envelope hload => exact ⟨envelope, hload, heligible⟩
    · exact absurd heligible Bool.false_ne_true
  · exact isEligible_of_latestUsable (candidates_below hpublished hown.manifest hown.attempts)
      hdurable

lemma Own.finalize : Own host (finalize host s outcome) := by
  have hroot : (closedDirectory host s.dir s.held s.attempt outcome).manifest.runRoot =
      s.dir.manifest.runRoot := hpublished.held
  have hfinal : ∀ ref, finalCheckpointRef host s.dir s.held outcome = some ref →
      IsEligible s.dir ref := fun ref =>
    isEligible_of_final hpublished hown hrunning hreports
  have hattempts : ∀ id attempt ref,
      (closedDirectory host s.dir s.held s.attempt outcome).attempts.get? id = some attempt →
        attempt.latestCheckpointRef = some ref → isBelow s.dir.manifest.runRoot ref = true := by
    intro id attempt ref hget hlatest
    simp only [closedDirectory, finishAttempt, Dict.get?_set] at hget
    split at hget
    · obtain rfl := Option.some.inj hget
      exact (hfinal ref hlatest).1
    · exact hown.attempts id attempt ref hget hlatest
  rcases finalize_cases host s outcome with ⟨hdir, -⟩ | ⟨-, hdir, -⟩
  · have hmanifest : ∀ ref,
        (Host.finalize host s outcome).dir.manifest.latestCheckpointRef = some ref →
          isBelow (Host.finalize host s outcome).dir.manifest.runRoot ref = true := by
      rw [hdir, hroot]
      exact fun ref hlatest => (hfinal ref hlatest).1
    have hattempts' : ∀ id (attempt : AttemptManifest) ref,
        (Host.finalize host s outcome).dir.attempts.get? id = some attempt →
          attempt.latestCheckpointRef = some ref →
            isBelow (Host.finalize host s outcome).dir.manifest.runRoot ref = true := by
      rw [hdir, hroot]
      exact hattempts
    have heligible : ∀ ref, IsEligible (Host.finalize host s outcome).dir ref ↔
        IsEligible s.dir ref := by
      intro ref
      unfold IsEligible
      rw [hdir, hroot]
      rfl
    have hlatest : (Host.finalize host s outcome).dir.manifest.latestCheckpointRef =
        finalCheckpointRef host s.dir s.held outcome := by
      rw [hdir]
      rfl
    have hflag : (Host.finalize host s outcome).dir.manifest.resumable =
        (finalCheckpointRef host s.dir s.held outcome).isSome := by
      rw [hdir]
      rfl
    refine ⟨hmanifest, hattempts', fun _ => ?_⟩
    cases hsome : finalCheckpointRef host s.dir s.held outcome with
    | some ref =>
      have hnow := (heligible ref).mpr (hfinal ref hsome)
      rw [hsome] at hlatest hflag
      exact ⟨⟨fun _ => ⟨ref, latestUsable_of_manifest hlatest hnow, hnow⟩, fun _ => hflag⟩,
        fun _ => ⟨ref, hlatest, hnow⟩⟩
    | none =>
      rw [hsome] at hflag
      have hdurable := (Option.or_eq_none_iff.mp hsome).2
      refine ⟨⟨fun htrue => absurd (hflag.symm.trans htrue) Bool.false_ne_true, ?_⟩,
        fun htrue => absurd (hflag.symm.trans htrue) Bool.false_ne_true⟩
      rintro ⟨ref, -, hnow⟩
      exact absurd ((heligible ref).mp hnow) (hpublished.not_isEligible hdurable ref)
  · have hgone : ∀ ref, ¬IsEligible (Host.finalize host s outcome).dir ref := by
      rintro ref ⟨hbelow, envelope, hload, -⟩
      rw [hdir] at hbelow hload
      have hnone := hpublished.load_pruneRun hroot (hroot ▸ hbelow)
      exact absurd (hnone.symm.trans hload) (Option.some_ne_none envelope).symm
    have hflag : (Host.finalize host s outcome).dir.manifest.resumable = false := by
      rw [hdir]
      rfl
    have hnot : ¬(Host.finalize host s outcome).dir.manifest.resumable = true := by simp [hflag]
    refine ⟨?_, ?_, fun _ => ⟨⟨fun htrue => absurd htrue hnot, ?_⟩, fun htrue => absurd htrue hnot⟩⟩
    · rw [hdir]
      exact fun ref hlatest => absurd hlatest (Option.some_ne_none ref).symm
    · rw [hdir]
      intro id attempt ref hget hlatest
      exact hroot ▸ hattempts id attempt ref hget hlatest
    · rintro ⟨ref, -, hnow⟩
      exact absurd hnow (hgone ref)

end

theorem Own.step {event : Event} (hpublished : Published s) (hown : Own host s)
    (hreports : Reports s event) : Own host (step host s event) := by
  cases event with
  | publish checkpointId requestId sequenceNo createdAt resumeEligible =>
    unfold Host.step
    dsimp only
    split
    · next hrunning => exact hown.writeCheckpoint hpublished rfl hrunning
    · exact hown
  | finalize outcome =>
    unfold Host.step
    dsimp only
    split
    · next hrunning => exact hown.finalize hpublished hrunning hreports
    · exact hown
  | resume checkpointRef =>
    show Own host (Host.resume host s checkpointRef)
    unfold Host.resume
    split
    · exact hown
    · exact own_attemptFrom hown.manifest hown.attempts

/-! ## Runs -/

lemma run_append (host : RuntimeHost) (s : HostRun) (front rest : List Event) :
    run host s (front ++ rest) = run host (run host s front) rest := List.foldl_append

theorem Published.run (h : Published s) : Published (run host s events) := by
  induction events generalizing s with
  | nil => exact h
  | cons event events ih => exact ih (h.step event)

theorem Own.run (hpublished : Published s) (hown : Own host s)
    (hreports : RunReports host s events) : Own host (run host s events) := by
  induction events generalizing s with
  | nil => exact hown
  | cons event events ih =>
    exact ih (hpublished.step event) (hown.step hpublished hreports.1) hreports.2

lemma RunReports.front {front rest : List Event} (h : RunReports host s (front ++ rest)) :
    RunReports host s front := by
  induction front generalizing s with
  | nil => trivial
  | cons event front ih => exact ⟨h.1, ih h.2⟩

/-- The host keeps what the manifest says as long as it closes no attempt, and never longer. It
never prunes a run that can be resumed, and as long as the results report checkpoints of the run,
the manifest of a run that is closed says whether it can be resumed. -/
theorem sound_iff_not_finalized (host : RuntimeHost) (launchKind : LaunchKind)
    (runId runRoot runtimeHash : String) (elsewhere : Elsewhere runRoot) (events : List Event) :
    ((∀ front rest, events = front ++ rest →
        Sound host (run host (launch launchKind runId runRoot runtimeHash elsewhere) front)) ↔
      ∀ outcome, .finalize outcome ∉ events) ∧
    (∀ front rest, events = front ++ rest →
      PrunesSafely (run host (launch launchKind runId runRoot runtimeHash elsewhere) front)) ∧
    (RunReports host (launch launchKind runId runRoot runtimeHash elsewhere) events →
      ∀ front rest, events = front ++ rest → SaysResumable host
        (run host (launch launchKind runId runRoot runtimeHash elsewhere) front)) := by
  have hpublished := published_launch launchKind runId runRoot runtimeHash elsewhere
  have hprunes : ∀ front, PrunesSafely
      (run host (launch launchKind runId runRoot runtimeHash elsewhere) front) := fun _ =>
    hpublished.run.prunes
  refine ⟨⟨?_, ?_⟩, fun front _ _ => hprunes front, ?_⟩
  · intro hsound outcome hmem
    obtain ⟨front, first, rest, heq, hfront⟩ := exists_first_finalize hmem
    have hopen := keepsAttempt_run host
      (s := launch launchKind runId runRoot runtimeHash elsewhere) rfl rfl hfront
    have hbegun : Begun (run host (launch launchKind runId runRoot runtimeHash elsewhere) front) :=
      (begun_launch launchKind runId runRoot runtimeHash elsewhere).run
    have hclosed := (hsound (front ++ [.finalize first]) rest (by simp [heq])).attempt
    rw [run_append] at hclosed
    exact not_keepsAttempt_finalize hbegun hopen.1 first hclosed
  · intro hnone front rest heq
    have hopen := keepsAttempt_run host
      (s := launch launchKind runId runRoot runtimeHash elsewhere) rfl rfl
      fun outcome hmem => hnone outcome (heq ▸ List.mem_append_left rest hmem)
    exact ⟨hopen.2.1, fun hclosed => absurd (hopen.1.symm.trans hclosed) Bool.false_ne_true.symm,
      hprunes front⟩
  · intro hreports front rest heq
    have hown : Own host (launch launchKind runId runRoot runtimeHash elsewhere) :=
      own_attemptFrom (fun ref hlatest => absurd hlatest (Option.some_ne_none ref).symm)
        fun _ _ _ hget => absurd hget (Option.some_ne_none _).symm
    exact (hown.run hpublished (heq ▸ hreports).front).resumable

/-- A first attempt that fails at once: the manifest names no attempt any more. -/
theorem not_sound_of_failed_launch :
    ¬Sound ⟨fun _ => none, true⟩ (run ⟨fun _ => none, true⟩
      (launch .solve "run.1" "/runs/run.1" "" ⟨.empty, fun _ h => absurd h List.not_mem_nil⟩)
      [.finalize ⟨none, [], some "host_launch_failure"⟩]) := by
  intro h
  exact absurd h.attempt (Option.some_ne_none _).symm

end Agintor.Host
