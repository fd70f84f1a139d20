import Mathlib.Algebra.Order.Ring.Rat
import Mathlib.Data.List.Sort
import Agintor.Lib.Decimal
import Agintor.Lib.Dict
import Agintor.Lib.Raise

/-!
# The checkpoints of a run

The run directory of `storage/run_store.py`: checkpoint files, their index, `LATEST.json`, the run
manifest and the attempt manifests. Attempts publish checkpoints under a counter that a resume
takes from the checkpoint it starts from (`checkpointing/publication.py`,
`checkpointing/restore.py`), and the host closes them (`host/finalization.py`).
-/

namespace Agintor.Storage.RunStore

open Lib

structure CheckpointEnvelope where
  checkpointId : String
  attemptId : String
  requestId : String
  sequenceNo : ℕ
  createdAt : ℚ
  resumeEligible : Bool
deriving DecidableEq

/-- A row of the index. -/
structure CheckpointReference where
  ref : String
  attemptId : String
  requestId : String
  checkpointId : String
  sequenceNo : ℕ
  createdAt : ℚ
  checkpointCount : ℕ
  latest : Bool
  resumeEligible : Bool
deriving DecidableEq

structure RunManifest where
  currentAttemptId : Option String
  latestCheckpointRef : Option String
  resumable : Bool
deriving DecidableEq

structure AttemptManifest where
  attemptId : String
  sequenceNo : ℕ
  resumedFromCheckpointRef : Option String
  latestCheckpointRef : Option String
deriving DecidableEq

/-- The files below a run root. Checkpoints are listed by their paths. -/
structure RunRoot where
  manifest : RunManifest
  attempts : Dict String AttemptManifest
  checkpoints : Dict String CheckpointEnvelope
  index : List CheckpointReference
  latest : Option CheckpointReference

/-- `FileNotFoundError` -/
abbrev NotFound := String

/-! ## The index -/

/-- `_checkpoint_index_sort_key(a) <= _checkpoint_index_sort_key(b)` -/
def SortKeyLe (a b : CheckpointReference) : Prop :=
  a.sequenceNo < b.sequenceNo ∨ a.sequenceNo = b.sequenceNo ∧
    (a.createdAt < b.createdAt ∨ a.createdAt = b.createdAt ∧ a.checkpointId ≤ b.checkpointId)

instance : DecidableRel SortKeyLe := fun a b =>
  inferInstanceAs (Decidable (a.sequenceNo < b.sequenceNo ∨ a.sequenceNo = b.sequenceNo ∧
    (a.createdAt < b.createdAt ∨ a.createdAt = b.createdAt ∧ a.checkpointId ≤ b.checkpointId)))

/-- `_latest_resume_eligible_checkpoint_row` -/
def latestResumeEligibleCheckpointRow (rows : List CheckpointReference) :
    Option CheckpointReference :=
  (rows.insertionSort SortKeyLe).reverse.find? (·.resumeEligible)

/-- `checkpoints_dir / f"{checkpoint_id}.json"` -/
def checkpointPath (checkpointId : String) : String := "checkpoints/" ++ checkpointId ++ ".json"

def writeCheckpoint (root : RunRoot) (envelope : CheckpointEnvelope) :
    RunRoot × CheckpointReference :=
  let path := checkpointPath envelope.checkpointId
  let ref : CheckpointReference :=
    { ref := path
      attemptId := envelope.attemptId
      requestId := envelope.requestId
      checkpointId := envelope.checkpointId
      sequenceNo := envelope.sequenceNo
      createdAt := envelope.createdAt
      checkpointCount := root.index.length + 1
      latest := false
      resumeEligible := envelope.resumeEligible }
  let rows := (root.index.filter (·.checkpointId ≠ envelope.checkpointId) ++ [ref]).insertionSort
    SortKeyLe
  let latestRow := latestResumeEligibleCheckpointRow rows
  let latestEligibleRef := latestRow.map (·.ref)
  ({ root with
      checkpoints := root.checkpoints.set path envelope
      index := rows.map fun row =>
        { row with latest := latestRow.map (·.checkpointId) = some row.checkpointId }
      latest := latestRow.map fun row => { row with latest := true }
      manifest :=
        { currentAttemptId := some envelope.attemptId
          latestCheckpointRef := latestEligibleRef
          resumable := latestEligibleRef.isSome } }, ref)

/-- The references that `latest_usable_checkpoint_ref` tries, in order. -/
def candidates (root : RunRoot) : List String :=
  (root.manifest.latestCheckpointRef.toList ++
    ((root.manifest.currentAttemptId.bind root.attempts.get?).bind
      (·.latestCheckpointRef)).toList ++
    (root.latest.map (·.ref)).toList ++
    ((root.index.insertionSort SortKeyLe).reverse.filter (·.resumeEligible)).map
      (·.ref)).eraseDups

/-- `checkpoint_ref_is_resume_eligible` -/
def checkpointRefIsResumeEligible (root : RunRoot) (ref : String) : Bool :=
  match root.checkpoints.get? ref with
  | some envelope => envelope.resumeEligible
  | none => false

def latestUsableCheckpointRef (root : RunRoot) : Option String :=
  (candidates root).find? (checkpointRefIsResumeEligible root)

/-- The path that `resolve_resume_target` selects. -/
def resolveResumeTarget (root : RunRoot) (checkpointRef : Option String) : Except NotFound String :=
  match checkpointRef with
  | some ref => .ok ref
  | none =>
    match latestUsableCheckpointRef root with
    | some ref => .ok ref
    | none => .error "run has no usable published checkpoint"

def loadCheckpointEnvelope (root : RunRoot) (ref : String) : Except NotFound CheckpointEnvelope :=
  match root.checkpoints.get? ref with
  | some envelope => .ok envelope
  | none => .error ("No such file: " ++ ref)

/-! ## Attempts -/

def attemptName (sequenceNo : ℕ) : String := "attempt_" ++ zeroPad 4 sequenceNo

/-- `begin_attempt`, with the id of the new attempt. -/
def beginAttempt (root : RunRoot) (resumedFrom : Option String) : RunRoot × String :=
  let sequenceNo := root.attempts.entries.length + 1
  let attemptId := attemptName sequenceNo
  ({ root with
      attempts := root.attempts.set attemptId
        { attemptId := attemptId
          sequenceNo := sequenceNo
          resumedFromCheckpointRef := resumedFrom
          latestCheckpointRef := none }
      manifest := { root.manifest with currentAttemptId := some attemptId } }, attemptId)

/-- What an attempt holds in memory. The host keeps the manifest it read before the attempt. -/
structure Attempt where
  attemptId : String
  requestId : String
  checkpointSequenceNo : ℕ
  latestCheckpointRef : Option String
  manifest : RunManifest
  running : Bool

/-- `f"checkpoint.{request_id}.{checkpoint_sequence_no:04d}"` -/
def checkpointIdOf (requestId : String) (sequenceNo : ℕ) : String :=
  "checkpoint." ++ requestId ++ "." ++ zeroPad 4 sequenceNo

/-- A run directory and its newest attempt, with everything published so far: by earlier attempts,
and by this one. -/
structure RunState where
  root : RunRoot
  attempt : Attempt
  earlier : List CheckpointEnvelope
  own : List CheckpointEnvelope

inductive Event
  /-- The newest attempt publishes a checkpoint. -/
  | publish (resumeEligible : Bool) (createdAt : ℚ)
  /-- The host closes it, with or without a result that names its latest checkpoint. -/
  | finish (reports : Bool)
  /-- A new attempt starts from a checkpoint, or from the run itself. -/
  | resume (checkpointRef : Option String) (requestId : Option String)

/-- `create_run` and the first `begin_attempt` -/
def launch (requestId : String) : RunState :=
  let manifest : RunManifest :=
    { currentAttemptId := none, latestCheckpointRef := none, resumable := false }
  let (root, attemptId) := beginAttempt
    { manifest := manifest, attempts := .empty, checkpoints := .empty, index := [], latest := none }
    none
  { root := root
    attempt :=
      { attemptId := attemptId
        requestId := requestId
        checkpointSequenceNo := 0
        latestCheckpointRef := none
        manifest := manifest
        running := true }
    earlier := []
    own := [] }

/-- `_publish_checkpoint_envelope` -/
def publish (s : RunState) (resumeEligible : Bool) (createdAt : ℚ) : RunState :=
  let sequenceNo := s.attempt.checkpointSequenceNo + 1
  let envelope : CheckpointEnvelope :=
    { checkpointId := checkpointIdOf s.attempt.requestId sequenceNo
      attemptId := s.attempt.attemptId
      requestId := s.attempt.requestId
      sequenceNo := sequenceNo
      createdAt := createdAt
      resumeEligible := resumeEligible }
  let (root, ref) := writeCheckpoint s.root envelope
  { s with
    root := root
    attempt :=
      { s.attempt with
        checkpointSequenceNo := sequenceNo
        latestCheckpointRef :=
          if ref.resumeEligible then some ref.ref else s.attempt.latestCheckpointRef }
    own := s.own ++ [envelope] }

/-- `_finalize_execution_unit`: `finish_attempt` and `finish_run` -/
def finish (s : RunState) (reports : Bool) : RunState :=
  let durable := latestUsableCheckpointRef s.root
  let reported := if reports then s.attempt.latestCheckpointRef.or durable else none
  let reported := reported.filter fun ref =>
    !(s.root.checkpoints.contains ref && !checkpointRefIsResumeEligible s.root ref)
  let latestCheckpointRef := reported.or durable
  { s with
    root :=
      { s.root with
        attempts :=
          match s.root.attempts.get? s.attempt.attemptId with
          | some attempt =>
            s.root.attempts.set s.attempt.attemptId
              { attempt with latestCheckpointRef := latestCheckpointRef }
          | none => s.root.attempts
        manifest :=
          { s.attempt.manifest with
            latestCheckpointRef := latestCheckpointRef
            resumable := latestCheckpointRef.isSome } }
    attempt := { s.attempt with running := false } }

/-- `_resolve_runtime_resume_request`, and what `_restore_from_checkpoint` puts in memory. -/
def resume (s : RunState) (checkpointRef requestId : Option String) : Except NotFound RunState := do
  let path ← resolveResumeTarget s.root checkpointRef
  let envelope ← loadCheckpointEnvelope s.root path
  let (root, attemptId) := beginAttempt s.root (some path)
  return { root := root
           attempt :=
             { attemptId := attemptId
               requestId := requestId.getD envelope.requestId
               checkpointSequenceNo := envelope.sequenceNo
               latestCheckpointRef := some path
               manifest := s.root.manifest
               running := true }
           earlier := s.earlier ++ s.own
           own := [] }

/-- One event, if it can happen. Any attempt may be gone by the time of the next one. -/
def step (s : RunState) : Event → Option RunState
  | .publish resumeEligible createdAt =>
    if s.attempt.running then some (publish s resumeEligible createdAt) else none
  | .finish reports => if s.attempt.running then some (finish s reports) else none
  | .resume checkpointRef requestId => (resume s checkpointRef requestId).toOption

def run (s : RunState) : List Event → Option RunState
  | [] => some s
  | event :: events => (step s event).bind (run · events)

end Agintor.Storage.RunStore
