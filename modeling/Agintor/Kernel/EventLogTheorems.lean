import Agintor.Kernel.EventLog
import Agintor.Lib.Lists

/-!
# When the runtime event log is append-only

A shell counts its events from zero, and a resume moves the counter past the events on disk only
after it has recorded its first ones. The log is append-only exactly as long as one attempt
records events.
-/

namespace Agintor.Kernel.Events

open Lib

variable {H : EventIds} {log : EventLog} {shell : FixedShell}

/-- No write met a file, the sequence numbers increase, and everything written is loaded in this
order. -/
structure AppendOnly (log : EventLog) : Prop where
  fresh : ∀ write ∈ log.writes, write.existed = false
  increasing : log.writes.Pairwise fun w w' => w.event.sequenceNo < w'.event.sequenceNo
  loaded : loadRuntimeEvents log none none = log.writes.map (·.event)

/-! ## One shell -/

instance : Std.Total EventLe where
  total a b := by
    rcases lt_trichotomy a.sequenceNo b.sequenceNo with hlt | heq | hgt
    · exact Or.inl (Or.inl hlt)
    · rcases le_total a.eventId b.eventId with hle | hle
      · exact Or.inl (Or.inr ⟨heq, hle⟩)
      · exact Or.inr (Or.inr ⟨heq.symm, hle⟩)
    · exact Or.inr (Or.inl hgt)

instance : IsTrans RuntimeEvent EventLe where
  trans a b c hab hbc := by
    rcases hab with hlt | ⟨heq, hle⟩
    · left
      rcases hbc with hlt' | ⟨heq', -⟩ <;> omega
    · rcases hbc with hlt' | ⟨heq', hle'⟩
      · left
        omega
      · exact Or.inr ⟨heq.trans heq', hle.trans hle'⟩

theorem eventFile_inj {m n : ℕ} {a b : EventName} (h : eventFile m a = eventFile n b) : m = n := by
  have hchars := congrArg String.toList h
  simp only [eventFile, String.toList_append, toList_zeroPad, List.append_assoc] at hchars
  exact (zeroPadChars_append_cons_inj (c := '.') (by decide) hchars).1

/-- The files are those that the shell has written, one for each event. -/
structure Counted (log : EventLog) (shell : FixedShell) : Prop where
  fresh : ∀ write ∈ log.writes, write.existed = false
  increasing : log.writes.Pairwise fun w w' => w.event.sequenceNo < w'.event.sequenceNo
  bounded : ∀ write ∈ log.writes, write.event.sequenceNo ≤ shell.nextSequenceNo
  files : log.files.entries =
    log.writes.map fun w => (eventFile w.event.sequenceNo w.event.event, w.event)

namespace Counted

lemma empty : Counted .empty ⟨0⟩ := ⟨by simp [EventLog.empty], .nil, by simp [EventLog.empty], rfl⟩

lemma append (h : Counted log shell) (event : RuntimeEvent) :
    Counted (appendRuntimeEvent H log shell event).1 (appendRuntimeEvent H log shell event).2 := by
  have hnew : eventFile (shell.nextSequenceNo + 1) event.event ∉ log.files.keys := by
    unfold Dict.keys
    rw [h.files, List.map_map]
    intro hmem
    obtain ⟨write, hwrite, hname⟩ := List.mem_map.mp hmem
    have hsame := eventFile_inj hname
    have hle := h.bounded write hwrite
    omega
  have hexisted : log.files.contains (eventFile (shell.nextSequenceNo + 1) event.event) = false := by
    rw [← Bool.not_eq_true, Dict.contains_iff_mem_keys]
    exact hnew
  constructor
  · intro write hwrite
    obtain hwrite | rfl := by simpa [appendRuntimeEvent] using hwrite
    · exact h.fresh write hwrite
    · exact hexisted
  · unfold appendRuntimeEvent
    rw [List.pairwise_append]
    refine ⟨h.increasing, List.pairwise_singleton _ _, ?_⟩
    intro write hwrite write' hwrite'
    have hle := h.bounded write hwrite
    rw [List.mem_singleton.mp hwrite']
    show write.event.sequenceNo < shell.nextSequenceNo + 1
    omega
  · intro write hwrite
    show write.event.sequenceNo ≤ shell.nextSequenceNo + 1
    obtain hwrite | rfl := by simpa [appendRuntimeEvent] using hwrite
    · have hle := h.bounded write hwrite
      omega
    · exact le_refl _
  · unfold appendRuntimeEvent
    simp only
    rw [Dict.entries_set_of_not_mem hnew, h.files, List.map_append, List.map_singleton]

lemma restore (h : Counted log shell) (sequenceNo : ℕ) :
    Counted log (restoreRuntimeEventCursor log shell sequenceNo) := by
  refine ⟨h.fresh, h.increasing, fun write hwrite => ?_, h.files⟩
  have hle := h.bounded write hwrite
  unfold restoreRuntimeEventCursor
  simp only
  omega

lemma actions (h : Counted log shell) (actions : List ShellAction) :
    Counted (actions.foldl (act H) (log, shell)).1 (actions.foldl (act H) (log, shell)).2 := by
  induction actions generalizing log shell with
  | nil => exact h
  | cons action actions ih =>
    cases action with
    | append event => exact ih (h.append event)
    | restore sequenceNo => exact ih (h.restore sequenceNo)

/-- What one shell has written is loaded in order. -/
lemma appendOnly (h : Counted log shell) : AppendOnly log where
  fresh := h.fresh
  increasing := h.increasing
  loaded := by
    have hall : ∀ event ∈ (log.files.entries.insertionSort fun a b => a.1 ≤ b.1).map Prod.snd,
        ((none : Option String).all fun id => decide (id = "" ∨ event.requestId = id)) &&
          (none : Option ℕ).all fun n => decide (n < event.sequenceNo) := fun _ _ => rfl
    unfold loadRuntimeEvents
    simp only
    rw [List.filter_eq_self.mpr hall]
    have hperm : ((log.files.entries.insertionSort fun a b => a.1 ≤ b.1).map Prod.snd).Perm
        (log.writes.map (·.event)) := by
      have hsort := (List.perm_insertionSort (fun a b : String × RuntimeEvent => a.1 ≤ b.1)
        log.files.entries).map Prod.snd
      rw [h.files, List.map_map] at hsort
      rw [h.files]
      exact hsort
    have hsorted := List.pairwise_insertionSort EventLe
      ((log.files.entries.insertionSort fun a b => a.1 ≤ b.1).map Prod.snd)
    have hnumbered : (log.writes.map (·.event)).Pairwise EventLe := by
      rw [List.pairwise_map]
      exact h.increasing.imp Or.inl
    -- two events with one sequence number are one event
    refine List.Perm.eq_of_pairwise ?_ hsorted hnumbered
      ((List.perm_insertionSort _ _).trans hperm)
    intro a b ha hb hab hba
    have hsame : a.sequenceNo = b.sequenceNo := by
      unfold EventLe at hab hba
      omega
    have hmem := ((List.perm_insertionSort _ _).trans hperm).mem_iff.mp ha
    have hnodup : ((log.writes.map (·.event)).map (·.sequenceNo)).Nodup := by
      rw [List.map_map, List.nodup_iff_pairwise_ne, List.pairwise_map]
      exact h.increasing.imp ne_of_lt
    exact List.inj_on_of_nodup_map hnodup hmem hb hsame

end Counted

/-! ## Runs -/

/-- Files are not removed, and the writes made are kept. -/
structure Grows (log log' : EventLog) : Prop where
  keys : ∀ name ∈ log.files.keys, name ∈ log'.files.keys
  writes : log.writes <+: log'.writes

namespace Grows

lemma refl (log : EventLog) : Grows log log := ⟨fun _ h => h, List.prefix_refl _⟩

lemma trans {log log' log'' : EventLog} (h : Grows log log') (h' : Grows log' log'') :
    Grows log log'' :=
  ⟨fun name hname => h'.keys name (h.keys name hname), h.writes.trans h'.writes⟩

lemma act (s : EventLog × FixedShell) (action : ShellAction) : Grows s.1 (act H s action).1 := by
  cases action with
  | append event =>
    constructor
    · -- a write adds its own name and keeps the others
      intro name hname
      show name ∈ (s.1.files.set _ _).keys
      rw [Dict.mem_keys_set]
      exact Or.inr hname
    · exact List.prefix_append _ _
  | restore sequenceNo => exact refl s.1

lemma actions (actions : List ShellAction) (s : EventLog × FixedShell) :
    Grows s.1 (actions.foldl (Events.act H) s).1 := by
  induction actions generalizing s with
  | nil => exact refl s.1
  | cons action actions ih => exact (act s action).trans (ih _)

lemma attempts (attempts : List Attempt) (log : EventLog) :
    Grows log (attempts.foldl (attempt H) log) := by
  induction attempts generalizing log with
  | nil => exact refl log
  | cons a attempts ih => exact (actions a.actions (log, ⟨0⟩)).trans (ih _)

end Grows

/-- The file of the first event of every attempt. -/
def firstFile : String := eventFile 1 .runStarted

namespace Attempt

variable {a : Attempt}

lemma actions_of_silent (h : a.actionCount = 0) : a.actions = [] := by
  unfold actions
  rw [h, List.take_zero]

lemma actions_of_records (h : a.actionCount ≠ 0) :
    ∃ actions, a.actions = a.record .runStarted :: actions := by
  obtain ⟨n, hn⟩ := Nat.exists_eq_succ_of_ne_zero h
  unfold actions runExecutionPlan
  rw [hn]
  exact ⟨_, rfl⟩

end Attempt

variable {a : Attempt}

lemma attempt_of_silent (log : EventLog) (h : a.actionCount = 0) : attempt H log a = log := by
  unfold attempt
  rw [Attempt.actions_of_silent h]
  rfl

/-- An attempt that records anything starts with the event file of number one. -/
lemma exists_first_write (log : EventLog) (h : a.actionCount ≠ 0) :
    firstFile ∈ (attempt H log a).files.keys ∧
      ∃ event, ⟨event, log.files.contains firstFile⟩ ∈ (attempt H log a).writes := by
  obtain ⟨actions, hactions⟩ := Attempt.actions_of_records h
  have hgrows := Grows.actions (H := H) actions (act H (log, ⟨0⟩) (a.record .runStarted))
  unfold attempt
  rw [hactions, List.foldl_cons]
  constructor
  · apply hgrows.keys
    show firstFile ∈ (log.files.set firstFile _).keys
    rw [Dict.mem_keys_set]
    exact Or.inl rfl
  · refine ⟨_, hgrows.writes.subset (List.mem_append_right _ (List.mem_singleton.mpr rfl))⟩

/-- Once an attempt has recorded anything, the next one that does overwrites its first file. -/
lemma not_fresh_of_records {attempts : List Attempt} (hfirst : firstFile ∈ log.files.keys)
    (hrecords : ∃ a ∈ attempts, a.actionCount ≠ 0) :
    ∃ write ∈ (attempts.foldl (attempt H) log).writes, write.existed = true := by
  induction attempts generalizing log with
  | nil => simp at hrecords
  | cons a attempts ih =>
    rw [List.foldl_cons]
    by_cases ha : a.actionCount = 0
    · rw [attempt_of_silent log ha]
      refine ih hfirst ?_
      obtain ⟨b, hb, hrecord⟩ := hrecords
      rcases List.mem_cons.mp hb with rfl | hb
      · exact absurd ha hrecord
      · exact ⟨b, hb, hrecord⟩
    · obtain ⟨-, event, hwrite⟩ := exists_first_write (H := H) log ha
      refine ⟨_, (Grows.attempts attempts _).writes.subset hwrite, ?_⟩
      exact Dict.contains_iff_mem_keys.mpr hfirst

lemma foldl_attempt_of_silent {attempts : List Attempt} (log : EventLog)
    (h : ∀ a ∈ attempts, a.actionCount = 0) : attempts.foldl (attempt H) log = log := by
  induction attempts with
  | nil => rfl
  | cons a attempts ih =>
    rw [List.foldl_cons, attempt_of_silent log (h a List.mem_cons_self)]
    exact ih fun b hb => h b (List.mem_cons_of_mem a hb)

/-- The attempts that get as far as recording an event. -/
def recording (attempts : List Attempt) : List Attempt :=
  attempts.filter fun a => a.actionCount ≠ 0

lemma appendOnly_empty : AppendOnly .empty := Counted.empty.appendOnly

/-- The log of a run is append-only if and only if at most one of its attempts records anything: a
second one counts from zero again before it looks at the event directory. -/
theorem appendOnly_iff_recording_le_one (H : EventIds) (attempts : List Attempt) :
    AppendOnly (run H attempts) ↔ (recording attempts).length ≤ 1 := by
  unfold run
  induction attempts with
  | nil => exact ⟨fun _ => Nat.zero_le _, fun _ => appendOnly_empty⟩
  | cons a attempts ih =>
    rw [List.foldl_cons]
    by_cases ha : a.actionCount = 0
    · rw [attempt_of_silent _ ha, ih]
      unfold recording
      rw [List.filter_cons_of_neg (by simpa using ha)]
    · have hlength : (recording (a :: attempts)).length = (recording attempts).length + 1 := by
        unfold recording
        rw [List.filter_cons_of_pos (by simpa using ha), List.length_cons]
      by_cases hrest : ∃ b ∈ attempts, b.actionCount ≠ 0
      · have hfirst := (exists_first_write (H := H) .empty ha).1
        obtain ⟨write, hwrite, hexisted⟩ := not_fresh_of_records (H := H) hfirst hrest
        constructor
        · intro happend
          have hfresh := happend.fresh write hwrite
          rw [hexisted] at hfresh
          exact absurd hfresh (by decide)
        · intro hle
          obtain ⟨b, hb, hrecord⟩ := hrest
          have hmem : b ∈ recording attempts := List.mem_filter.mpr ⟨hb, by simpa using hrecord⟩
          have hpos := List.length_pos_of_mem hmem
          omega
      · have hsilent : ∀ b ∈ attempts, b.actionCount = 0 := by
          intro b hb
          by_contra hb'
          exact hrest ⟨b, hb, hb'⟩
        have hnone : recording attempts = [] :=
          List.filter_eq_nil_iff.mpr fun b hb => by simpa using hsilent b hb
        rw [foldl_attempt_of_silent _ hsilent, hlength, hnone]
        exact ⟨fun _ => le_refl _, fun _ => (Counted.empty.actions a.actions).appendOnly⟩

/-! ## A solve and its resume -/

/-- A solve that fails after its first checkpoint, whose last event has the number four. -/
def interruptedSolve : Attempt where
  requestId := "request.1"
  planId := "plan.1"
  details _ := ("", "{}")
  planValid := true
  ingested := []
  checkpoint := none
  events := [⟨.checkpointPublished, "", 0, "request.1", "plan.1", "{}"⟩]
  actionCount := 4

def resumeFromCheckpoint : Attempt :=
  { interruptedSolve with
    requestId := "request.1.resume"
    checkpoint := some ⟨[⟨.nodeReusedFromCheckpoint, "", 0, "request.1", "plan.1", "{}"⟩], some 4⟩
    actionCount := 7 }

def sampleIds : EventIds := ⟨fun requestId planId event n =>
  requestId ++ "/" ++ planId ++ "/" ++ event.text ++ "/" ++ toString n⟩

/-- The resume overwrites the first three events of the solve. -/
theorem not_appendOnly_of_resume :
    ¬ AppendOnly (run sampleIds [interruptedSolve, resumeFromCheckpoint]) := by
  intro h
  have hoverwrites : ∃ write ∈ (run sampleIds [interruptedSolve, resumeFromCheckpoint]).writes,
      write.existed = true := by decide +kernel
  obtain ⟨write, hwrite, hexisted⟩ := hoverwrites
  rw [h.fresh write hwrite] at hexisted
  exact absurd hexisted (by decide)

end Agintor.Kernel.Events
