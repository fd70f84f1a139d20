import Agintor.Lib.Interleaving
import Agintor.Storage.ProofRecords

/-!
# The evaluation service

`HarnessEvaluationService.evaluate` of `evaluation/harness_service.py`: a candidate is evaluated and
its outcome is appended to the proof store. The store is looked at twice for an earlier outcome, and
written once; other evaluations, in this process or in others, make their own steps in between. What
a call does between its looks at the store is given by its outcome.
-/

namespace Agintor.Evaluation

open Agintor.Storage.ProofRecords Lib

/-- `HarnessEvaluationRejected`, by its code. -/
structure HarnessEvaluationRejected where
  code : String
deriving DecidableEq

/-- The outcome receipt of an evaluation, and the digest of the record that binds it. -/
structure Issued (evidence : RunEvidence) where
  receipt : OutcomeReceipt
  proofRecordDigest : String
  crossed : receipt.pairKey = evidence.pairKey

/-- The proof record of an evaluation. -/
def Issued.record {evidence : RunEvidence} (issued : Issued evidence) : RunProofRecord where
  proofRecordDigest := issued.proofRecordDigest
  runEvidence := evidence
  outcomeReceipt := some issued.receipt
  crossed := by
    intro receipt hreceipt
    rw [← Option.mem_some_iff.mp hreceipt]
    exact issued.crossed

/-- One call of `evaluate`: its run evidence, and what comes of the checks of its arguments, of the
isolated run, of the receipt, and of the check of the public summary. -/
structure EvaluateCall where
  evidence : RunEvidence
  prepared : Except HarnessEvaluationRejected Unit
  isolated : Except HarnessEvaluationRejected Unit
  issued : Except HarnessEvaluationRejected (Issued evidence)
  published : Except HarnessEvaluationRejected Unit

/-- How far a call has come. -/
inductive Stage
  | started
  | checked
  | ran
  | rechecked
  | issued (record : RunProofRecord)
  | returned (record : RunProofRecord)
  | rejected (error : HarnessEvaluationRejected)
deriving DecidableEq

/-- The store of the service, and the patch digest of run evidence, which its digest covers. -/
structure HarnessEvaluationService where
  proofStore : ImmutableProofRecordStore
  patchDigest : RunEvidence → String

namespace HarnessEvaluationService

variable (H : HarnessEvaluationService)

/-- The same evidence, or another one of the same candidate. -/
def Duplicates (prior evidence : RunEvidence) : Prop :=
  prior.evidenceDigest = evidence.evidenceDigest ∨
    (prior.pairKey = evidence.pairKey ∧ prior.protocolDigest = evidence.protocolDigest ∧
      H.patchDigest prior = H.patchDigest evidence)

instance (prior evidence : RunEvidence) : Decidable (H.Duplicates prior evidence) :=
  inferInstanceAs (Decidable (_ ∨ _))

/-- One turn of the loop of `_assert_no_duplicate_outcome`. -/
def assertOther (s : ProofStore) (evidence : RunEvidence) (path : RecordPath) :
    Except HarnessEvaluationRejected Unit :=
  match s.load path with
  | .error _ => .error ⟨"proof_store_invalid"⟩
  | .ok record => raiseIf (H.Duplicates record.runEvidence evidence) ⟨"duplicate_outcome"⟩

/-- `_assert_no_duplicate_outcome` -/
def assertNoDuplicateOutcome (s : ProofStore) (evidence : RunEvidence) :
    Except HarnessEvaluationRejected Unit :=
  (s.records.keys.insertionSort RecordPath.Le).forM (H.assertOther s evidence)

/-- The stage after checks that raise, or that let the call go on. -/
def next {α : Type} (checks : Except HarnessEvaluationRejected α) (go : α → Stage) : Stage :=
  match checks with
  | .ok a => go a
  | .error e => .rejected e

/-- The step of a call at a stage. -/
def move (call : EvaluateCall) (stage : Stage) (s : ProofStore) : Stage × ProofStore :=
  match stage with
  | .started =>
    (next (do call.prepared; H.assertNoDuplicateOutcome s call.evidence) fun _ => .checked, s)
  | .checked => (next call.isolated fun _ => .ran, s)
  | .ran => (next (H.assertNoDuplicateOutcome s call.evidence) fun _ => .rechecked, s)
  | .rechecked => (next call.issued fun issued => .issued issued.record, s)
  | .issued record =>
    -- the record is appended before the public summary is looked at
    let (appended, m) := H.proofStore.perform s ⟨record, none⟩
    match appended with
    | .ok _ => (next call.published fun _ => .returned record, m.state)
    | .error _ => (.rejected ⟨"proof_binding_failed"⟩, m.state)
  | stage => (stage, s)

/-- Any number of calls over one store. -/
abbrev System := Interleaved ℕ ProofStore Stage

/-- The step of call `i`. -/
def moves (calls : ℕ → EvaluateCall) (i : ℕ) (stage : Stage) (s : ProofStore) : Stage × ProofStore :=
  H.move (calls i) stage s

/-- No call has begun. -/
def start (s : ProofStore) : System := ⟨s, fun _ => .started⟩

end HarnessEvaluationService

end Agintor.Evaluation
