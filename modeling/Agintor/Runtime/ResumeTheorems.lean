import Agintor.Runtime.Resume

/-!
# Theorems about resuming

Rebinding an envelope computes the digest of its plan again, and the runtime takes the plan it runs
from the same envelope. So the two digests that are compared are always equal, whatever the plan is.
-/

namespace Agintor.Runtime

open Lib Core Contracts

variable {D P K T R S X : Type}

/-! ## Digests -/

variable {plan : ExecutionPlan D P K} {V : PlanValidation D P K}

/-- A validated plan has the digest of its snapshot, if that has one. -/
lemma planDigest_of_modelValidate {snapshot : PlanSnapshot D P K}
    (h : V.modelValidate snapshot = .ok plan) :
    plan.planDigest = snapshot.planDigest.getD (V.stableHash snapshot.content) := by
  rw [PlanValidation.modelValidate, bind_eq_ok_iff] at h
  obtain ⟨traceContext, _, h⟩ := h
  rw [bind_eq_ok_iff] at h
  obtain ⟨_, _, h⟩ := h
  rw [← Except.ok.inj h]

/-- Validating a dumped plan again keeps its digest. -/
lemma planDigest_of_modelDump {plan again : ExecutionPlan D P K}
    (h : V.modelValidate plan.modelDump = .ok again) : again.planDigest = plan.planDigest :=
  planDigest_of_modelValidate h

/-! ## The comparison -/

variable [DecidableEq K] {M : ResumeRuntime D P K T R S X}

lemma restoreFromCheckpoint_ne {envelope : CheckpointEnvelope D P K T R}
    (hplan : ∀ snapshot, M.validation.modelValidate envelope.planSnapshot = .ok snapshot →
      snapshot.planDigest = plan.planDigest) (message : String) :
    restoreFromCheckpoint M plan envelope ≠ .refused .planDigestMismatch message := by
  rw [restoreFromCheckpoint]
  split_ifs
  · simp
  · simp
  · simp
  · simp
  · cases hvalidate : M.validation.modelValidate envelope.planSnapshot with
    | error e => simp
    | ok snapshot =>
      dsimp only
      rw [if_neg (not_not.mpr (hplan snapshot hvalidate))]
      cases hrestore : M.restore plan envelope.state with
      | error failure => simpa using fun hkind => absurd hkind failure.1.property
      | ok result => simp

/-- The plan that runs and the plan that is compared with it come from one envelope. -/
theorem resumeFromCheckpoint_ne (envelope : CheckpointEnvelope D P K T R) (message : String) :
    resumeFromCheckpoint M envelope ≠ .refused .planDigestMismatch message := by
  rw [resumeFromCheckpoint]
  cases hresume : resumeTaskAndPlanFromCheckpoint M envelope with
  | error e => simp
  | ok taskAndPlan =>
    obtain ⟨task, plan⟩ := taskAndPlan
    rw [resumeTaskAndPlanFromCheckpoint, bind_eq_ok_iff] at hresume
    obtain ⟨_, _, hresume⟩ := hresume
    rw [bind_eq_ok_iff] at hresume
    obtain ⟨plan', hplan, heq⟩ := hresume
    obtain ⟨rfl, rfl⟩ := Prod.mk.inj (Except.ok.inj heq)
    dsimp only
    rw [runExecutionPlan]
    cases hagain : M.validation.modelValidate plan'.modelDump with
    | error e => simp
    | ok again =>
      apply restoreFromCheckpoint_ne
      intro snapshot hsnapshot
      rw [hplan] at hsnapshot
      rw [← Except.ok.inj hsnapshot]
      exact (planDigest_of_modelDump hagain).symm

theorem resume_ne (envelope : CheckpointEnvelope D P K T R) (request : ResumeRequest S)
    (message : String) : resume M envelope request ≠ .refused .planDigestMismatch message := by
  rw [resume]
  cases solveRequestFromResumeCheckpoint M envelope request with
  | error e => simp
  | ok solved => exact resumeFromCheckpoint_ne solved.2.1 message

/-! ## Changed plans -/

/-- The envelope as the kernel publishes it: the snapshot is the dump of a valid plan, and the
envelope names the same request and plan. -/
structure Published (V : PlanValidation D P K) (envelope : CheckpointEnvelope D P K T R) :
    Prop where
  dumped : ∃ plan, V.modelValidate envelope.planSnapshot = .ok plan ∧
    plan.modelDump = envelope.planSnapshot
  requestId_eq : envelope.planSnapshot.requestId = envelope.requestId
  planId_eq : envelope.planSnapshot.content.planId = envelope.planId

/-- The envelope with another content in its plan snapshot. -/
def CheckpointEnvelope.withContent (envelope : CheckpointEnvelope D P K T R)
    (content : PlanContent D P) : CheckpointEnvelope D P K T R :=
  { envelope with planSnapshot := { envelope.planSnapshot with content := content } }

/-- `content` is that of another valid plan. -/
structure ChangesPlan (V : PlanValidation D P K) (envelope : CheckpointEnvelope D P K T R)
    (content : PlanContent D P) : Prop where
  changed : content ≠ envelope.planSnapshot.content
  valid : ∃ plan, V.modelValidate (envelope.withContent content).planSnapshot = .ok plan

/-- What a resumption is meant to do about the plan: it refuses the changed one, and not the one
that was published. -/
structure GuardsPlan (M : ResumeRuntime D P K T R S X) (envelope : CheckpointEnvelope D P K T R)
    (content : PlanContent D P) (request : ResumeRequest S) : Prop where
  refuses : ∃ message, resume M (envelope.withContent content) request =
    .refused .planDigestMismatch message
  admits : ∀ message, resume M envelope request ≠ .refused .planDigestMismatch message

/-- No changed plan is refused, and neither is an unchanged one: whatever the envelope holds, and
whatever request it is rebound to. -/
theorem resume_guards_no_plan (M : ResumeRuntime D P K T R S X)
    (envelope : CheckpointEnvelope D P K T R) (content : PlanContent D P)
    (request : ResumeRequest S) :
    ¬GuardsPlan M envelope content request ∧
      ∀ message, resume M envelope request ≠ .refused .planDigestMismatch message := by
  refine ⟨fun hguards => ?_, resume_ne envelope request⟩
  obtain ⟨message, hrefused⟩ := hguards.refuses
  exact resume_ne _ request message hrefused

/-! ## A changed plan that runs -/

/-- A plan of one node, with its objective. -/
def soloContent (objective : String) : PlanContent Unit String where
  planId := "plan.1"
  originKind := "benchmark"
  nodes := [{
    nodeId := "op_1"
    nodeKind := .builtinOp
    instruction := "add"
    outputKey := "sum" }]
  rootNodeIds := ["op_1"]
  terminalOutputKeys := ["sum"]
  verificationPlan := {}
  lifecycleState := "validated"
  rest := objective

/-- The digest of a content is the content itself. -/
def soloValidation : PlanValidation Unit String (PlanContent Unit String) where
  lax := .strict
  operationHook := fun _ => .ok ()
  stableHash := id

def soloRuntime : ResumeRuntime Unit String (PlanContent Unit String) Unit Unit Unit Unit where
  validation := soloValidation
  runtimeContractVersion := "v1"
  runtimeHash := "hash"
  readTask := .ok
  rebindState := fun _ _ _ state => .ok state
  benchmarkTaskToSolveRequest := fun _ _ => ()
  rebindSolveRequest := fun request _ => request
  restore := fun _ _ => .ok ()

/-- The plan with another objective under the first one's digest. -/
def soloPlan (objective : String) : ExecutionPlan Unit String (PlanContent Unit String) where
  planDigest := { soloContent "add two numbers" with lifecycleState := "compiled" }
  requestId := "request"
  traceContext := none
  content := soloContent objective

def soloEnvelope : CheckpointEnvelope Unit String (PlanContent Unit String) Unit Unit where
  runtimeContractVersion := "v1"
  runtimeHash := "hash"
  requestId := "request"
  originRequestId := none
  selectedCheckpointRef := none
  sourceCheckpointRef := none
  planId := "plan.1"
  planSnapshot := (soloPlan "add two numbers").modelDump
  taskPayload := ()
  state := ()

def soloRequest : ResumeRequest Unit where
  requestIdOverride := none
  requestBundle := ⟨"", none⟩
  sourceCheckpointRef := none
  traceContext := none

lemma modelValidate_soloPlan {objective : String}
    (h : validateContent soloValidation.operationHook (soloContent objective) = .ok ()) :
    soloValidation.modelValidate (soloPlan objective).modelDump = .ok (soloPlan objective) := by
  have hcontent : validateContent soloValidation.operationHook
      (soloPlan objective).modelDump.content = .ok () := h
  rw [PlanValidation.modelValidate, hcontent]
  rfl

/-- The published envelope gets another objective, and resumes all the same. -/
theorem changed_plan_resumes :
    Published soloValidation soloEnvelope ∧
      ChangesPlan soloValidation soloEnvelope (soloContent "delete the file") ∧
      resume soloRuntime (soloEnvelope.withContent (soloContent "delete the file")) soloRequest =
        .restored () := by
  have hpublished : Published soloValidation soloEnvelope :=
    ⟨⟨soloPlan "add two numbers", modelValidate_soloPlan (by decide +kernel), rfl⟩, rfl, rfl⟩
  have hchanges : ChangesPlan soloValidation soloEnvelope (soloContent "delete the file") :=
    ⟨by decide, soloPlan "delete the file", modelValidate_soloPlan (by decide +kernel)⟩
  exact ⟨hpublished, hchanges, by decide +kernel⟩

end Agintor.Runtime
