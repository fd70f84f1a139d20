import Mathlib.Algebra.GroupWithZero.Nat
import Agintor.Contracts.Epochs
import Agintor.Core.Text

/-!
# Harness protocols and composite plans

`HarnessProtocol` and `CompositeRunPlan` of `contracts/harness.py`, with the `TaskEnvelope` of
`contracts/epochs.py`. A value of one of these types has passed the checks of its model class,
and passes them again: validating it once more gives it back. Fields that admit one value are left
out. An artifact carries text.
-/

namespace Agintor.Contracts

open Agintor.Core

/-! ## Tasks -/

inductive TrustedToolId
  | search
  | read
  | publicTest
  | edit
  | diff
deriving DecidableEq

def TrustedToolId.text : TrustedToolId → String
  | search => "repo.search"
  | read => "repo.read"
  | publicTest => "repo.public_test"
  | edit => "repo.edit"
  | diff => "repo.diff"

/-- `REPO_REPAIR_TRUSTED_TOOL_IDS`, which are the `allowed_capabilities` of every task. -/
def trustedToolIds : List TrustedToolId := [.search, .read, .publicTest, .edit, .diff]

structure WorkspaceSnapshotRef where
  snapshotId : String
  uri : String
  digest : String
deriving DecidableEq

structure PublicReproductionStep where
  stepId : String
  argv : List String
  cwd : String
  timeoutMs : ℕ
  expectedExitCodes : List ℤ
  stepId_stripped : strip stepId = stepId
  argv_nonempty : argv ≠ [] ∧ ∀ part ∈ argv, strip part ≠ ""
  cwd_stripped : strip cwd = cwd
  timeout_pos : 0 < timeoutMs
  exitCodes : expectedExitCodes ≠ [] ∧ expectedExitCodes.Nodup
deriving DecidableEq

structure TaskEnvelope where
  runtimeContractVersion : String
  taskManifestId : String
  taskManifestDigest : String
  epochId : String
  epochManifestDigest : String
  capabilityEpoch : String := "repo-repair-v1"
  dataState : DataState
  splitManifestDigest : String
  issue : String
  workspaceSnapshot : WorkspaceSnapshotRef
  publicReproduction : List PublicReproductionStep
  ceilings : TaskCeilings
  reproduction_nonempty : publicReproduction ≠ []
  stepIds_nodup : (publicReproduction.map (·.stepId)).Nodup
deriving DecidableEq

/-! ## Protocols -/

inductive TaskViewField
  | issue
  | workspace
  | publicReproduction
  | sessionPublicCarryover
deriving DecidableEq

/-- `[a-z][a-z0-9_.-]{0,63}` -/
def isIdentifier (s : String) : Bool :=
  match s.toList with
  | [] => false
  | c :: cs => c.isLower && cs.length ≤ 63 &&
      cs.all fun d => d.isLower || d.isDigit || d == '_' || d == '.' || d == '-'

/-- Text that a model class has stripped of whitespace and found nonempty. -/
def isTrimmedText (s : String) : Bool := trim s == s && s != ""

structure HarnessActor where
  actorId : String
  taskView : List TaskViewField
  instruction : String
  toolIds : List TrustedToolId
  budgetShareBps : ℕ
  actorId_identifier : isIdentifier actorId = true
  taskView_valid : taskView ≠ [] ∧ taskView.Nodup
  instruction_valid : isTrimmedText instruction = true
  toolIds_valid : toolIds ≠ [] ∧ toolIds.Nodup
  toolIds_sorted : toolIds.Pairwise fun a b => a.text ≤ b.text
  share_valid : 0 < budgetShareBps ∧ budgetShareBps ≤ 10000
deriving DecidableEq

structure HarnessArtifactChannel where
  channelId : String
  producerActorId : String
  consumerActorId : String
  ids_identifiers : isIdentifier channelId = true ∧ isIdentifier producerActorId = true ∧
    isIdentifier consumerActorId = true
  distinct_actors : consumerActorId ≠ producerActorId
deriving DecidableEq

structure HarnessRevision where
  actorId : String
  feedbackChannelId : String
  instruction : String
  ids_identifiers : isIdentifier actorId = true ∧ isIdentifier feedbackChannelId = true
  instruction_valid : isTrimmedText instruction = true
deriving DecidableEq

/-- What `validate_protocol` asks of a revision. -/
def revisionValid (channels : List HarnessArtifactChannel) (finalActorId : String)
    (revision : HarnessRevision) : Prop :=
  revision.actorId = finalActorId ∧
    ∃ channel ∈ channels, channel.channelId = revision.feedbackChannelId ∧
      channel.consumerActorId = revision.actorId

instance (channels : List HarnessArtifactChannel) (finalActorId : String)
    (revision : HarnessRevision) : Decidable (revisionValid channels finalActorId revision) :=
  inferInstanceAs (Decidable (_ ∧ _))

/-- The checks of `validate_protocol`. -/
structure ProtocolValid (actors : List HarnessActor) (channels : List HarnessArtifactChannel)
    (revision : Option HarnessRevision) (finalActorId : String) : Prop where
  actors_nonempty : actors ≠ []
  actorIds_nodup : (actors.map (·.actorId)).Nodup
  shares_sum : (actors.map (·.budgetShareBps)).sum = 10000
  final_mem : finalActorId ∈ actors.map (·.actorId)
  channelIds_nodup : (channels.map (·.channelId)).Nodup
  endpoints_mem : ∀ channel ∈ channels, channel.producerActorId ∈ actors.map (·.actorId) ∧
    channel.consumerActorId ∈ actors.map (·.actorId)
  revision_valid : ∀ r ∈ revision, revisionValid channels finalActorId r

instance (actors : List HarnessActor) (channels : List HarnessArtifactChannel)
    (revision : Option HarnessRevision) (finalActorId : String) :
    Decidable (ProtocolValid actors channels revision finalActorId) :=
  decidable_of_iff
    (actors ≠ [] ∧ (actors.map (·.actorId)).Nodup ∧
      (actors.map (·.budgetShareBps)).sum = 10000 ∧ finalActorId ∈ actors.map (·.actorId) ∧
      (channels.map (·.channelId)).Nodup ∧
      (∀ channel ∈ channels, channel.producerActorId ∈ actors.map (·.actorId) ∧
        channel.consumerActorId ∈ actors.map (·.actorId)) ∧
      ∀ r ∈ revision, revisionValid channels finalActorId r)
    ⟨fun ⟨h1, h2, h3, h4, h5, h6, h7⟩ => ⟨h1, h2, h3, h4, h5, h6, h7⟩,
      fun h => ⟨h.1, h.2, h.3, h.4, h.5, h.6, h.7⟩⟩

structure HarnessProtocol where
  actors : List HarnessActor
  artifactChannels : List HarnessArtifactChannel := []
  revision : Option HarnessRevision := none
  finalActorId : String
  finalActorId_identifier : isIdentifier finalActorId = true
  valid : ProtocolValid actors artifactChannels revision finalActorId
deriving DecidableEq

@[ext]
theorem HarnessProtocol.ext {p q : HarnessProtocol} (hactors : p.actors = q.actors)
    (hchannels : p.artifactChannels = q.artifactChannels) (hrevision : p.revision = q.revision)
    (hfinal : p.finalActorId = q.finalActorId) : p = q := by
  cases p
  cases q
  simp_all

def actorPath (actorId field : String) : String := "actors[" ++ actorId ++ "]." ++ field

def channelPath (channelId field : String) : String :=
  "artifact_channels[" ++ channelId ++ "]." ++ field

def HarnessProtocol.mutableFieldPaths (protocol : HarnessProtocol) : List String :=
  (protocol.actors.flatMap fun actor =>
    ["task_view", "instruction", "tool_ids", "budget_share_bps"].map (actorPath actor.actorId)) ++
  (protocol.artifactChannels.flatMap fun channel =>
    ["producer_actor_id", "consumer_actor_id"].map (channelPath channel.channelId)) ++
  (if protocol.revision.isSome then
    ["revision.actor_id", "revision.feedback_channel_id", "revision.instruction"] else []) ++
  ["termination.final_actor_id"]

/-! ## Runtime dependencies -/

structure DependencyRef where
  dependencyId : String
  interfaceVersion : String
  implementationDigest : String
deriving DecidableEq

structure TrustedToolDependency where
  toolId : TrustedToolId
  interfaceVersion : String
  implementationDigest : String
  policyDigest : String
deriving DecidableEq

structure RuntimeDependencyManifest where
  runtimeContractVersion : String
  compiler : DependencyRef
  harnessContract : DependencyRef
  kernel : DependencyRef
  trustedTools : List TrustedToolDependency
  tools_nodup : (trustedTools.map (·.toolId)).Nodup
  tools_sorted : trustedTools.Pairwise fun a b => a.toolId.text ≤ b.toolId.text
deriving DecidableEq

/-- What the compiler reads of `CompositeCompilerMetadata`. -/
structure CompositeCompilerMetadata where
  compilerId : String := "agintor.composite_compiler"
  compilerVersion : String := "1"
  harnessContractId : String := "agintor.harness_protocol"
  harnessSchemaVersion : String := "repo-repair-harness-v1"
  trustedToolIds : List TrustedToolId := Contracts.trustedToolIds
deriving DecidableEq

/-! ## Plans -/

inductive SourceKind
  | task
  | workspace
  | artifact
  | priorActorOutput
  | session
deriving DecidableEq

structure ContextReadPlan where
  readId : String
  sourceKind : SourceKind
  sourceRef : String
deriving DecidableEq

structure ArtifactWritePlan where
  channelId : String
  artifactId : String
  producerCallId : String
  maxBytes : ℕ
deriving DecidableEq

structure ArtifactDeliveryPlan where
  channelId : String
  artifactId : String
  producerCallId : String
  consumerCallId : String
deriving DecidableEq

inductive CallKind
  | initial
  | revision
deriving DecidableEq

structure ActorCallPlan where
  callId : String
  actorId : String
  callKind : CallKind
  instruction : String
  revisionInstruction : Option String := none
  contextReads : List ContextReadPlan
  artifactWrites : List ArtifactWritePlan
  toolIds : List TrustedToolId
  budgetShareBps : ℕ
  emitsFinalPatch : Bool
deriving DecidableEq

structure CompositePlanStage where
  stageId : String
  stageIndex : ℕ
  callIds : List String
  dependsOnStageIds : List String
  inboundChannelIds : List String
  fork : Bool := false
  join : Bool := false
  revision : Bool := false
deriving DecidableEq

structure PublicVerificationActionPlan where
  stepId : String
  argv : List String
  cwd : String
  timeoutMs : ℕ
  expectedExitCodes : List ℤ
deriving DecidableEq

structure PublicVerificationPlan where
  actions : List PublicVerificationActionPlan
  runAfterCallId : String
deriving DecidableEq

structure TerminationPlan where
  finalActorCallId : String
  maxPatchBytes : ℕ
deriving DecidableEq

structure ActorBudgetSharePlan where
  actorId : String
  budgetShareBps : ℕ
deriving DecidableEq

structure BudgetLedgerPlan where
  aggregateCeiling : TaskCeilings
  actorShares : List ActorBudgetSharePlan
  scheduledModelCalls : ℕ
  scheduledRevisionCalls : ℕ
deriving DecidableEq

inductive RuntimeOwner
  | actorContext
  | artifactStore
  | toolAuthority
  | budgetLedger
  | scheduler
  | revisionController
  | terminationController
deriving DecidableEq

/-- The value of a mutable field. -/
inductive SourceValue
  | taskView (fields : List TaskViewField)
  | tools (toolIds : List TrustedToolId)
  | text (value : String)
  | number (value : ℕ)
deriving DecidableEq

structure ConsumedFieldBinding where
  sourcePath : String
  sourceValueDigest : String
  planConsumerPaths : List String
  runtimeOwners : List RuntimeOwner
deriving DecidableEq

structure ConsumedFieldLivenessManifest where
  sourceProtocolDigest : String
  bindings : List ConsumedFieldBinding
deriving DecidableEq

/-- What is hashed into the compiled digest. -/
structure SemanticPayload where
  taskEnvelopeDigest : String
  dependencyManifest : RuntimeDependencyManifest
  dependencyManifestDigest : String
  actorCalls : List ActorCallPlan
  stages : List CompositePlanStage
  artifactDeliveries : List ArtifactDeliveryPlan
  publicVerification : PublicVerificationPlan
  termination : TerminationPlan
  budgetLedger : BudgetLedgerPlan
deriving DecidableEq

structure CompositeRunPlan extends SemanticPayload where
  sourceProtocolDigest : String
  compiledSemanticDigest : String
  livenessManifest : ConsumedFieldLivenessManifest
deriving DecidableEq

/-- A digest tells two values apart. -/
def Distinguishes {α : Type} (digest : α → String) (a b : α) : Prop := digest a = digest b → a = b

/-- The digests of these records. -/
structure HarnessDigests where
  protocol : HarnessProtocol → String
  manifest : RuntimeDependencyManifest → String
  plan : SemanticPayload → String
  sourceField : SourceValue → String

end Agintor.Contracts
