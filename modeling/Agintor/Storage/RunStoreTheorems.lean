import Agintor.Lib.Lists
import Agintor.Storage.RunStore

/-!
# Runs that keep their checkpoints

As long as every checkpoint is published above those of earlier attempts, the index lists the
checkpoints in the order of their publication, none is replaced, and a resume finds the last one
that the newest attempt has published. A resume from an older checkpoint breaks this: the
counter goes back with it.
-/

namespace Agintor.Storage.RunStore

open Lib

variable {s s' : RunState} {e : CheckpointEnvelope} {root : RunRoot}

/-! ## What is to hold -/

/-- A row describes a checkpoint. -/
structure Reports (row : CheckpointReference) (e : CheckpointEnvelope) : Prop where
  ref : row.ref = checkpointPath e.checkpointId
  attemptId : row.attemptId = e.attemptId
  requestId : row.requestId = e.requestId
  checkpointId : row.checkpointId = e.checkpointId
  sequenceNo : row.sequenceNo = e.sequenceNo
  createdAt : row.createdAt = e.createdAt
  resumeEligible : row.resumeEligible = e.resumeEligible

/-- Every checkpoint that was published is there, in its file and in the index. -/
def Kept (s : RunState) : Prop :=
  ∀ e ∈ s.earlier ++ s.own,
    s.root.checkpoints.get? (checkpointPath e.checkpointId) = some e ∧
      ∃ row ∈ s.root.index, Reports row e

/-- The last checkpoint to resume from among some. -/
def lastEligible (es : List CheckpointEnvelope) : Option CheckpointEnvelope :=
  es.reverse.find? (·.resumeEligible)

/-- Once the newest attempt has published a checkpoint to resume from, a resume of the run takes
the last one of these. -/
def LatestOfNewest (s : RunState) : Prop :=
  ∀ e, lastEligible s.own = some e →
    latestUsableCheckpointRef s.root = some (checkpointPath e.checkpointId) ∧
      resolveResumeTarget s.root none = .ok (checkpointPath e.checkpointId)

/-- The next sequence number is above those of the checkpoints of earlier attempts. -/
def Climbs (s : RunState) : Event → Prop
  | .publish _ _ => ∀ row ∈ s.root.index, row.attemptId ≠ s.attempt.attemptId →
      row.sequenceNo < s.attempt.checkpointSequenceNo + 1
  | _ => True

instance (s : RunState) (event : Event) : Decidable (Climbs s event) :=
  match event with
  | .publish _ _ => inferInstanceAs (Decidable (∀ row ∈ s.root.index, _ → _))
  | .finish _ => .isTrue trivial
  | .resume _ _ => .isTrue trivial

/-- The events of a run climb. -/
def RunClimbs (s : RunState) : List Event → Prop
  | [] => True
  | event :: events => Climbs s event ∧ ∀ s' ∈ step s event, RunClimbs s' events

instance decidableRunClimbs (s : RunState) :
    (events : List Event) → Decidable (RunClimbs s events)
  | [] => .isTrue trivial
  | event :: events =>
    match hstep : step s event with
    | none => decidable_of_iff (Climbs s event) (by simp [RunClimbs, hstep])
    | some s' =>
      have := decidableRunClimbs s' events
      decidable_of_iff (Climbs s event ∧ RunClimbs s' events) (by simp [RunClimbs, hstep])

/-! ## Names -/

lemma attemptName_injective : Function.Injective attemptName := by
  intro m n h
  have hlist := congrArg String.toList h
  simp only [attemptName, String.toList_append, List.append_cancel_left_eq] at hlist
  exact zeroPad_injective 4 (String.toList_inj.mp hlist)

/-- The number is what stands behind the last dot. -/
lemma sequenceNo_of_checkpointIdOf {r r' : String} {m n : ℕ}
    (h : checkpointIdOf r m = checkpointIdOf r' n) : m = n := by
  have hlist := congrArg (fun id => id.toList.reverse.takeWhile Char.isDigit) h
  have htake : ∀ (r : String) (n : ℕ), (checkpointIdOf r n).toList.reverse.takeWhile Char.isDigit =
      (zeroPadChars 4 n).reverse := by
    intro r n
    have hdot : (checkpointIdOf r n).toList.reverse =
        (zeroPadChars 4 n).reverse ++ '.' :: ("checkpoint." ++ r).toList.reverse := by
      simp [checkpointIdOf]
    have hdigits : ∀ c ∈ (zeroPadChars 4 n).reverse, c.isDigit := fun c hc =>
      isDigit_of_mem_zeroPadChars (List.mem_reverse.mp hc)
    rw [hdot, List.takeWhile_append_of_pos hdigits, List.takeWhile_cons_of_neg (by decide),
      List.append_nil]
  simp only [htake] at hlist
  exact zeroPadChars_injective 4 (List.reverse_injective hlist)

lemma checkpointPath_injective : Function.Injective checkpointPath := by
  intro a b h
  have hlist := congrArg String.toList h
  simp only [checkpointPath, String.toList_append] at hlist
  exact String.toList_inj.mp (List.append_cancel_left (List.append_cancel_right hlist))

/-! ## The invariant -/

/-- What holds while checkpoints climb. -/
structure WellKept (s : RunState) : Prop where
  increasing : (s.earlier ++ s.own).Pairwise fun e e' => e.sequenceNo < e'.sequenceNo
  rows : List.Forall₂ Reports s.root.index (s.earlier ++ s.own)
  files : ∀ e ∈ s.earlier ++ s.own,
    s.root.checkpoints.get? (checkpointPath e.checkpointId) = some e
  named : ∀ e ∈ s.earlier ++ s.own, ∃ r, e.checkpointId = checkpointIdOf r e.sequenceNo
  ownIds : ∀ e ∈ s.own, e.attemptId = s.attempt.attemptId ∧
    e.sequenceNo ≤ s.attempt.checkpointSequenceNo
  earlierIds : ∀ e ∈ s.earlier, e.attemptId ≠ s.attempt.attemptId
  attempts : s.root.attempts.keys =
    (List.range s.root.attempts.entries.length).map fun k => attemptName (k + 1)
  begun : s.attempt.attemptId ∈ s.root.attempts.keys ∧
    ∀ e ∈ s.earlier, e.attemptId ∈ s.root.attempts.keys
  latest : ∀ e, lastEligible s.own = some e →
    s.root.manifest.latestCheckpointRef = some (checkpointPath e.checkpointId) ∧
      s.attempt.latestCheckpointRef = some (checkpointPath e.checkpointId)

lemma WellKept.kept (h : WellKept s) : Kept s := by
  intro e he
  exact ⟨h.files e he, exists_mem_left_of_forall₂ h.rows he⟩

/-- The manifest is asked first. -/
lemma latestUsable_of_manifest {ref : String}
    (hmanifest : root.manifest.latestCheckpointRef = some ref)
    (heligible : checkpointRefIsResumeEligible root ref = true) :
    latestUsableCheckpointRef root = some ref := by
  unfold latestUsableCheckpointRef candidates
  rw [hmanifest]
  simp only [Option.toList_some, List.cons_append, List.eraseDups_cons]
  rw [List.find?_cons_of_pos heligible]

variable {es : List CheckpointEnvelope}

lemma lastEligible_mem (h : lastEligible es = some e) : e ∈ es ∧ e.resumeEligible = true := by
  unfold lastEligible at h
  exact ⟨List.mem_reverse.mp (List.mem_of_find?_eq_some h), List.find?_some h⟩

lemma WellKept.eligible (h : WellKept s) (he : lastEligible s.own = some e) :
    checkpointRefIsResumeEligible s.root (checkpointPath e.checkpointId) = true := by
  obtain ⟨hmem, heligible⟩ := lastEligible_mem he
  unfold checkpointRefIsResumeEligible
  rw [h.files e (List.mem_append_right _ hmem)]
  exact heligible

lemma WellKept.latestUsable (h : WellKept s) (he : lastEligible s.own = some e) :
    latestUsableCheckpointRef s.root = some (checkpointPath e.checkpointId) :=
  latestUsable_of_manifest (h.latest e he).1 (h.eligible he)

theorem WellKept.latestOfNewest (h : WellKept s) : LatestOfNewest s := by
  intro e he
  have hlatest := h.latestUsable he
  refine ⟨hlatest, ?_⟩
  unfold resolveResumeTarget
  rw [hlatest]

/-! ## Publication -/

/-- The row that `write_checkpoint` appends. -/
def newRow (root : RunRoot) (e : CheckpointEnvelope) : CheckpointReference where
  ref := checkpointPath e.checkpointId
  attemptId := e.attemptId
  requestId := e.requestId
  checkpointId := e.checkpointId
  sequenceNo := e.sequenceNo
  createdAt := e.createdAt
  checkpointCount := root.index.length + 1
  latest := false
  resumeEligible := e.resumeEligible

variable {rows : List CheckpointReference}

/-- Rows in the order of their publication are in the order of the index. -/
lemma insertionSort_rows (hrows : List.Forall₂ Reports rows es)
    (hes : es.Pairwise fun e e' => e.sequenceNo < e'.sequenceNo) :
    rows.insertionSort SortKeyLe = rows := by
  apply List.Pairwise.insertionSort_eq
  induction hrows with
  | nil => exact .nil
  | @cons row e rows es hrow hrows ih =>
    rw [List.pairwise_cons] at hes ⊢
    refine ⟨fun row' hrow' => ?_, ih hes.2⟩
    obtain ⟨e', he', hreports⟩ := exists_mem_right_of_forall₂ hrows hrow'
    left
    rw [hrow.sequenceNo, hreports.sequenceNo]
    exact hes.1 e' he'

/-- The last row to resume from describes the last checkpoint to resume from. -/
lemma find?_rows (hrows : List.Forall₂ Reports rows es) :
    (rows.find? (·.resumeEligible)).map (·.ref) =
      (es.find? (·.resumeEligible)).map fun e => checkpointPath e.checkpointId := by
  induction hrows with
  | nil => rfl
  | @cons row e rows es hrow hrows ih =>
    cases hlast : e.resumeEligible with
    | true =>
      rw [List.find?_cons_of_pos (hrow.resumeEligible.trans hlast), List.find?_cons_of_pos hlast]
      simp [hrow.ref]
    | false =>
      rw [List.find?_cons_of_neg (by simp [hrow.resumeEligible, hlast]),
        List.find?_cons_of_neg (by simp [hlast])]
      exact ih

lemma lastEligible_append (es : List CheckpointEnvelope) (e : CheckpointEnvelope) :
    lastEligible (es ++ [e]) = if e.resumeEligible then some e else lastEligible es := by
  unfold lastEligible
  rw [List.reverse_append, List.reverse_singleton, List.singleton_append, List.find?_cons]
  cases e.resumeEligible <;> rfl

/-- What `write_checkpoint` does to a directory where the new number is the highest. -/
lemma writeCheckpoint_of_climbs (hrows : List.Forall₂ Reports root.index es)
    (hes : (es ++ [e]).Pairwise fun e e' => e.sequenceNo < e'.sequenceNo)
    (hnew : ∀ e' ∈ es, e'.checkpointId ≠ e.checkpointId) :
    List.Forall₂ Reports (writeCheckpoint root e).1.index (es ++ [e]) ∧
      (writeCheckpoint root e).1.manifest.latestCheckpointRef =
        (lastEligible (es ++ [e])).map fun e' => checkpointPath e'.checkpointId := by
  have hfilter : root.index.filter (·.checkpointId ≠ e.checkpointId) = root.index := by
    rw [List.filter_eq_self]
    intro row hrow
    obtain ⟨e', he', hreports⟩ := exists_mem_right_of_forall₂ hrows hrow
    simpa [hreports.checkpointId] using hnew e' he'
  have happend : List.Forall₂ Reports (root.index ++ [newRow root e]) (es ++ [e]) :=
    List.rel_append hrows (.cons ⟨rfl, rfl, rfl, rfl, rfl, rfl, rfl⟩ .nil)
  have hsort : (root.index.filter (·.checkpointId ≠ e.checkpointId) ++ [newRow root e]).insertionSort
      SortKeyLe = root.index ++ [newRow root e] := by
    rw [hfilter]
    exact insertionSort_rows happend hes
  have hindex : (writeCheckpoint root e).1.index =
      (root.index ++ [newRow root e]).map (fun row =>
        { row with
          latest := decide ((latestResumeEligibleCheckpointRow
            (root.index ++ [newRow root e])).map (·.checkpointId) = some row.checkpointId) }) := by
    rw [← hsort]
    rfl
  have hlatest : (writeCheckpoint root e).1.manifest.latestCheckpointRef =
      (latestResumeEligibleCheckpointRow (root.index ++ [newRow root e])).map (·.ref) := by
    rw [← hsort]
    rfl
  constructor
  · rw [hindex, List.forall₂_map_left_iff]
    exact happend.imp fun _ _ h => ⟨h.ref, h.attemptId, h.requestId, h.checkpointId, h.sequenceNo,
      h.createdAt, h.resumeEligible⟩
  · rw [hlatest, latestResumeEligibleCheckpointRow, insertionSort_rows happend hes]
    exact find?_rows (List.rel_reverse happend)

theorem WellKept.publish (h : WellKept s) (resumeEligible : Bool) (createdAt : ℚ)
    (hclimbs : Climbs s (.publish resumeEligible createdAt)) :
    WellKept (publish s resumeEligible createdAt) := by
  obtain ⟨e, he⟩ : ∃ e : CheckpointEnvelope, e =
      { checkpointId := checkpointIdOf s.attempt.requestId (s.attempt.checkpointSequenceNo + 1)
        attemptId := s.attempt.attemptId
        requestId := s.attempt.requestId
        sequenceNo := s.attempt.checkpointSequenceNo + 1
        createdAt := createdAt
        resumeEligible := resumeEligible } := ⟨_, rfl⟩
  have hsequence : e.sequenceNo = s.attempt.checkpointSequenceNo + 1 := by rw [he]
  have hid : e.checkpointId = checkpointIdOf s.attempt.requestId e.sequenceNo := by rw [he]
  have hattempt : e.attemptId = s.attempt.attemptId := by rw [he]
  have hroot : (RunStore.publish s resumeEligible createdAt).root = (writeCheckpoint s.root e).1 := by
    rw [he]
    rfl
  have hown : (RunStore.publish s resumeEligible createdAt).own = s.own ++ [e] := by
    rw [he]
    rfl
  have hearlier : (RunStore.publish s resumeEligible createdAt).earlier = s.earlier := rfl
  have hid' : (RunStore.publish s resumeEligible createdAt).attempt.attemptId =
      s.attempt.attemptId := rfl
  have hcounter : (RunStore.publish s resumeEligible createdAt).attempt.checkpointSequenceNo =
      e.sequenceNo := by
    rw [he]
    rfl
  -- the new number is above all others
  have hlt : ∀ e' ∈ s.earlier ++ s.own, e'.sequenceNo < e.sequenceNo := by
    intro e' he'
    obtain he' | he' := List.mem_append.mp he'
    · obtain ⟨row, hrow, hreports⟩ := (h.kept e' (List.mem_append_left _ he')).2
      have hrowlt := hclimbs row hrow (by rw [hreports.attemptId]; exact h.earlierIds e' he')
      rw [hreports.sequenceNo] at hrowlt
      omega
    · have hle := (h.ownIds e' he').2
      omega
  have hincreasing : (s.earlier ++ s.own ++ [e]).Pairwise fun e e' => e.sequenceNo < e'.sequenceNo := by
    rw [List.pairwise_append]
    refine ⟨h.increasing, List.pairwise_singleton _ _, fun e' he' e'' he'' => ?_⟩
    rw [List.mem_singleton.mp he'']
    exact hlt e' he'
  have hnew : ∀ e' ∈ s.earlier ++ s.own, e'.checkpointId ≠ e.checkpointId := by
    intro e' he' hsame
    obtain ⟨r, hr⟩ := h.named e' he'
    have hsequences := sequenceNo_of_checkpointIdOf (hr.symm.trans (hsame.trans hid))
    have hne := hlt e' he'
    omega
  obtain ⟨hrows, hlatest⟩ := writeCheckpoint_of_climbs h.rows hincreasing hnew
  have hfiles : (writeCheckpoint s.root e).1.checkpoints =
      s.root.checkpoints.set (checkpointPath e.checkpointId) e := rfl
  constructor
  · rwa [hearlier, hown, ← List.append_assoc]
  · rwa [hroot, hearlier, hown, ← List.append_assoc]
  · rw [hroot, hearlier, hown, ← List.append_assoc, hfiles]
    intro e' he'
    rw [Dict.get?_set]
    obtain he' | he' := List.mem_append.mp he'
    · rw [if_neg fun hpath => hnew e' he' (checkpointPath_injective hpath).symm]
      exact h.files e' he'
    · rw [List.mem_singleton.mp he', if_pos rfl]
  · rw [hearlier, hown, ← List.append_assoc]
    intro e' he'
    obtain he' | he' := List.mem_append.mp he'
    · exact h.named e' he'
    · rw [List.mem_singleton.mp he']
      exact ⟨_, hid⟩
  · rw [hown, hid', hcounter]
    intro e' he'
    obtain he' | he' := List.mem_append.mp he'
    · have hle := h.ownIds e' he'
      exact ⟨hle.1, by omega⟩
    · rw [List.mem_singleton.mp he']
      exact ⟨hattempt, le_rfl⟩
  · rw [hearlier, hid']
    exact h.earlierIds
  · rw [hroot]
    exact h.attempts
  · rw [hroot, hid', hearlier]
    exact h.begun
  · rw [hroot, hown, hlatest]
    intro e' he'
    have hall : lastEligible (s.earlier ++ s.own ++ [e]) = some e' ∧
        (RunStore.publish s resumeEligible createdAt).attempt.latestCheckpointRef =
          some (checkpointPath e'.checkpointId) := by
      have hmemory : (RunStore.publish s resumeEligible createdAt).attempt.latestCheckpointRef =
          if e.resumeEligible then some (checkpointPath e.checkpointId)
            else s.attempt.latestCheckpointRef := by
        rw [he]
        rfl
      rw [lastEligible_append] at he' ⊢
      rw [hmemory]
      cases heligible : e.resumeEligible with
      | true =>
        rw [heligible] at he'
        obtain rfl : e = e' := Option.some.inj he'
        exact ⟨rfl, rfl⟩
      | false =>
        rw [heligible] at he'
        have hlast : lastEligible s.own = some e' := he'
        refine ⟨?_, (h.latest e' hlast).2⟩
        -- the last one of the attempt is the last one of all
        show lastEligible (s.earlier ++ s.own) = some e'
        unfold lastEligible at hlast ⊢
        rw [List.reverse_append, List.find?_append, hlast]
        rfl
    exact ⟨by rw [hall.1]; rfl, hall.2⟩

/-! ## The end of an attempt, and the next one -/

theorem WellKept.finish (h : WellKept s) (reports : Bool) : WellKept (finish s reports) := by
  have hkeys : (RunStore.finish s reports).root.attempts.keys = s.root.attempts.keys := by
    unfold RunStore.finish
    cases hget : s.root.attempts.get? s.attempt.attemptId with
    | none => simp only
    | some attempt =>
      simp only
      exact Dict.keys_set_of_mem (Dict.mem_keys_of_mem (Dict.get?_eq_some_iff.mp hget))
  have hlength : (RunStore.finish s reports).root.attempts.entries.length =
      s.root.attempts.entries.length := by
    have hlengths := congrArg List.length hkeys
    simpa [Dict.keys] using hlengths
  refine { h with attempts := ?_, begun := ?_, latest := ?_ }
  · rw [hkeys, hlength]
    exact h.attempts
  · rw [hkeys]
    exact h.begun
  · intro e he
    have hlast : lastEligible s.own = some e := he
    have hdurable := h.latestUsable hlast
    have heligible := h.eligible hlast
    have hmemory := (h.latest e hlast).2
    refine ⟨?_, hmemory⟩
    -- what the result names and what the directory holds are the same
    unfold RunStore.finish
    simp only [hdurable, hmemory]
    cases reports with
    | true => simp [heligible, Option.filter_some]
    | false => rfl

theorem WellKept.resume {checkpointRef requestId : Option String} (h : WellKept s)
    (hresume : resume s checkpointRef requestId = .ok s') : WellKept s' := by
  unfold RunStore.resume at hresume
  simp only [bind_eq_ok_iff, pure_eq_ok, Except.ok.injEq] at hresume
  obtain ⟨path, -, envelope, -, rfl⟩ := hresume
  have hfresh : attemptName (s.root.attempts.entries.length + 1) ∉ s.root.attempts.keys := by
    rw [h.attempts, List.mem_map]
    intro hmem
    obtain ⟨k, hk, hname⟩ := hmem
    have hlt := List.mem_range.mp hk
    have heq := attemptName_injective hname
    omega
  have hentries := Dict.entries_set_of_not_mem
    (v := AttemptManifest.mk (attemptName (s.root.attempts.entries.length + 1))
      (s.root.attempts.entries.length + 1) (some path) none) hfresh
  have hkeys : (beginAttempt s.root (some path)).1.attempts.keys =
      s.root.attempts.keys ++ [attemptName (s.root.attempts.entries.length + 1)] := by
    show ((s.root.attempts.set _ _).entries).map Prod.fst = _
    rw [hentries, List.map_append]
    rfl
  have hlength : (beginAttempt s.root (some path)).1.attempts.entries.length =
      s.root.attempts.entries.length + 1 := by
    show (s.root.attempts.set _ _).entries.length = _
    rw [hentries, List.length_append]
    rfl
  have hids : ∀ e ∈ s.earlier ++ s.own, e.attemptId ∈ s.root.attempts.keys := by
    intro e he
    obtain he | he := List.mem_append.mp he
    · exact h.begun.2 e he
    · rw [(h.ownIds e he).1]
      exact h.begun.1
  constructor
  · show (s.earlier ++ s.own ++ []).Pairwise _
    rw [List.append_nil]
    exact h.increasing
  · show List.Forall₂ Reports s.root.index (s.earlier ++ s.own ++ [])
    rw [List.append_nil]
    exact h.rows
  · show ∀ e ∈ s.earlier ++ s.own ++ [],
      s.root.checkpoints.get? (checkpointPath e.checkpointId) = some e
    rw [List.append_nil]
    exact h.files
  · show ∀ e ∈ s.earlier ++ s.own ++ [], ∃ r, e.checkpointId = checkpointIdOf r e.sequenceNo
    rw [List.append_nil]
    exact h.named
  · simp
  · intro e he hsame
    apply hfresh
    have hname : e.attemptId = attemptName (s.root.attempts.entries.length + 1) := hsame
    rw [← hname]
    exact hids e he
  · rw [hkeys, hlength, List.range_succ, List.map_append, ← h.attempts]
    rfl
  · rw [hkeys]
    refine ⟨List.mem_append_right _ (List.mem_singleton.mpr rfl), fun e he => ?_⟩
    exact List.mem_append_left _ (hids e he)
  · intro e he
    exact absurd he (by simp [lastEligible])

/-! ## Runs -/

lemma wellKept_launch (requestId : String) : WellKept (launch requestId) := by
  constructor
  case attempts => rfl
  case begun => exact ⟨List.mem_singleton.mpr rfl, by simp [launch]⟩
  all_goals simp [launch, beginAttempt, lastEligible]

theorem WellKept.step {event : Event} (h : WellKept s) (hclimbs : Climbs s event)
    (hstep : step s event = some s') : WellKept s' := by
  cases event with
  | publish resumeEligible createdAt =>
    rw [RunStore.step, Option.ite_none_right_eq_some] at hstep
    rw [← Option.some.inj hstep.2]
    exact h.publish resumeEligible createdAt hclimbs
  | finish reports =>
    rw [RunStore.step, Option.ite_none_right_eq_some] at hstep
    rw [← Option.some.inj hstep.2]
    exact h.finish reports
  | resume checkpointRef requestId =>
    rw [RunStore.step] at hstep
    cases hresume : RunStore.resume s checkpointRef requestId with
    | error e => simp [hresume, Except.toOption] at hstep
    | ok s'' =>
      obtain rfl : s'' = s' := by simpa [hresume, Except.toOption] using hstep
      exact h.resume hresume

theorem WellKept.run {events : List Event} (h : WellKept s) (hclimbs : RunClimbs s events)
    (hrun : run s events = some s') : WellKept s' := by
  induction events generalizing s with
  | nil =>
    obtain rfl : s = s' := Option.some.inj hrun
    exact h
  | cons event events ih =>
    unfold RunStore.run at hrun
    obtain ⟨s1, hstep, hrest⟩ := Option.bind_eq_some_iff.mp hrun
    exact ih (h.step hclimbs.1 hstep) (hclimbs.2 s1 hstep) hrest

/-- A run whose checkpoints climb keeps them all, and continues from its newest attempt. -/
theorem checkpoints_kept_of_climbs (requestId : String) (events : List Event) (s : RunState)
    (hrun : run (launch requestId) events = some s)
    (hclimbs : RunClimbs (launch requestId) events) : Kept s ∧ LatestOfNewest s := by
  have hkept := (wellKept_launch requestId).run hclimbs hrun
  exact ⟨hkept.kept, hkept.latestOfNewest⟩

/-- Two checkpoints, a resume of the run, another checkpoint, and the end of the attempt. -/
def sampleEvents : List Event :=
  [.publish true 0, .publish true 1, .resume none none, .publish true 2, .finish true]

theorem checkpoints_kept_of_climbs_sample :
    ∃ s, run (launch "request") sampleEvents = some s ∧ Kept s ∧ LatestOfNewest s := by
  obtain ⟨s, hs⟩ := Option.isSome_iff_exists.mp
    (by decide +kernel : (run (launch "request") sampleEvents).isSome = true)
  exact ⟨s, hs, checkpoints_kept_of_climbs "request" sampleEvents s hs (by decide +kernel)⟩

/-! ## A resume from an older checkpoint -/

/-- Three checkpoints, a resume from the first one, and another checkpoint. -/
def rewindEvents : List Event :=
  [.publish true 0, .publish true 1, .publish true 2,
    .resume (some (checkpointPath (checkpointIdOf "request" 1))) none, .publish true 3]

/-- Whether the files of all checkpoints are there. -/
def filesKept (s : RunState) : Bool :=
  (s.earlier ++ s.own).all fun e =>
    s.root.checkpoints.get? (checkpointPath e.checkpointId) = some e

/-- What a resume of the run takes, and the last checkpoint of the newest attempt. -/
def latestPair (s : RunState) : Option String × Option String :=
  (latestUsableCheckpointRef s.root,
    (lastEligible s.own).map fun e => checkpointPath e.checkpointId)

theorem checkpoints_lost_on_rewind :
    (¬∀ requestId events s, run (launch requestId) events = some s → Kept s) ∧
      ¬∀ requestId events s, run (launch requestId) events = some s → LatestOfNewest s := by
  obtain ⟨s, hs⟩ := Option.isSome_iff_exists.mp
    (by decide +kernel : (run (launch "request") rewindEvents).isSome = true)
  constructor
  · intro h
    have hfiles : (run (launch "request") rewindEvents).map filesKept = some false := by
      decide +kernel
    have hkept : filesKept s = true := by
      unfold filesKept
      rw [List.all_eq_true]
      exact fun e he => decide_eq_true (h "request" rewindEvents s hs e he).1
    rw [hs, Option.map_some, hkept] at hfiles
    exact absurd hfiles (by decide)
  · intro h
    have hpair : (run (launch "request") rewindEvents).map latestPair =
        some (some "checkpoints/checkpoint.request.0003.json",
          some "checkpoints/checkpoint.request.0002.json") := by
      decide +kernel
    rw [hs, Option.map_some, latestPair, Option.some.injEq, Prod.mk.injEq] at hpair
    obtain ⟨e, he, hpath⟩ := Option.map_eq_some_iff.mp hpair.2
    have hlatest := (h "request" rewindEvents s hs e he).1
    rw [hpair.1, hpath] at hlatest
    exact absurd hlatest (by decide)

end Agintor.Storage.RunStore
