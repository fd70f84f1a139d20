import Agintor.Contracts.Harness

/-!
# Semantic transactions

The patches and proposals of `contracts/harness_actions.py`. A patch has passed the checks of its
model class; of a proposal only what the mutator reads is kept.
-/

namespace Agintor.Contracts

open Agintor.Core

inductive SemanticOperator
  | actorSplit
  | channelAdd
  | channelRewire
  | revisionInsert
  | revisionRemove
  | instructionRewrite
deriving DecidableEq

def SemanticOperator.text : SemanticOperator → String
  | actorSplit => "actor_split"
  | channelAdd => "channel_add"
  | channelRewire => "channel_rewire"
  | revisionInsert => "revision_insert"
  | revisionRemove => "revision_remove"
  | instructionRewrite => "instruction_rewrite"

/-- `RuntimeOwner` of `contracts/harness_actions.py`. -/
inductive TraceOwner
  | actorContext
  | artifactStore
  | budgetLedger
  | scheduler
  | revisionController
deriving DecidableEq

def TraceOwner.text : TraceOwner → String
  | actorContext => "actor_context"
  | artifactStore => "artifact_store"
  | budgetLedger => "budget_ledger"
  | scheduler => "scheduler"
  | revisionController => "revision_controller"

inductive BudgetMode
  | unchanged
  | sharesRebalanced
deriving DecidableEq

def BudgetMode.text : BudgetMode → String
  | unchanged => "unchanged"
  | sharesRebalanced => "shares_rebalanced"

structure BudgetShareChange where
  actorId : String
  beforeBps : ℕ
  afterBps : ℕ
  bounds : beforeBps ≤ 10000 ∧ afterBps ≤ 10000
  actual_change : beforeBps ≠ afterBps
deriving DecidableEq

structure BudgetEffect where
  mode : BudgetMode
  shareChanges : List BudgetShareChange
  actorIds_nodup : (shareChanges.map (·.actorId)).Nodup
  unchanged_empty : mode = .unchanged → shareChanges = []
  rebalanced : mode = .sharesRebalanced → shareChanges ≠ [] ∧
    (shareChanges.map (·.afterBps)).sum = (shareChanges.map (·.beforeBps)).sum

/-! ## Patches -/

/-- The two values differ in the budget only. -/
def sameButBudget (before after : HarnessActor) : Prop :=
  before.actorId = after.actorId ∧ before.taskView = after.taskView ∧
    before.instruction = after.instruction ∧ before.toolIds = after.toolIds

structure ActorSplitPatch where
  sourceActorBefore : HarnessActor
  sourceActorAfter : HarnessActor
  newActor : HarnessActor
  newChannel : HarnessArtifactChannel
  budget_only : sameButBudget sourceActorBefore sourceActorAfter
  distinct_actor : newActor.actorId ≠ sourceActorBefore.actorId
  producer_eq : newChannel.producerActorId = newActor.actorId
  consumer_eq : newChannel.consumerActorId = sourceActorBefore.actorId
  shares_eq : sourceActorAfter.budgetShareBps + newActor.budgetShareBps =
    sourceActorBefore.budgetShareBps

structure ChannelRewirePatch where
  channelBefore : HarnessArtifactChannel
  channelAfter : HarnessArtifactChannel
  same_channel : channelBefore.channelId = channelAfter.channelId
  route_changes : (channelBefore.producerActorId, channelBefore.consumerActorId) ≠
    (channelAfter.producerActorId, channelAfter.consumerActorId)

/-- The shape of a revision with its two channels: `validate_revision_shape`. -/
structure RevisionShape (draftChannel feedbackChannel : HarnessArtifactChannel)
    (revision : HarnessRevision) : Prop where
  feedback_named : feedbackChannel.channelId = revision.feedbackChannelId
  feeds_reviser : feedbackChannel.consumerActorId = revision.actorId
  drafted_by_reviser : draftChannel.producerActorId = revision.actorId
  feeds_reviewer : draftChannel.consumerActorId = feedbackChannel.producerActorId
  distinct_channels : draftChannel.channelId ≠ feedbackChannel.channelId

structure RevisionInsertPatch where
  draftChannel : HarnessArtifactChannel
  feedbackChannelBefore : HarnessArtifactChannel
  revision : HarnessRevision
  shape : RevisionShape draftChannel feedbackChannelBefore revision

/-- Its shape is checked by building the insertion. -/
structure RevisionRemovePatch where
  draftChannel : HarnessArtifactChannel
  feedbackChannel : HarnessArtifactChannel
  revision : HarnessRevision
  shape : RevisionShape draftChannel feedbackChannel revision

structure InstructionRewritePatch where
  actorId : String
  beforeInstruction : String
  afterInstruction : String
  trimmed : isTrimmedText beforeInstruction = true ∧ isTrimmedText afterInstruction = true
  actual_change : beforeInstruction ≠ afterInstruction

inductive SemanticPatch
  | actorSplit (patch : ActorSplitPatch)
  | channelAdd (channel : HarnessArtifactChannel)
  | channelRewire (patch : ChannelRewirePatch)
  | revisionInsert (patch : RevisionInsertPatch)
  | revisionRemove (patch : RevisionRemovePatch)
  | instructionRewrite (patch : InstructionRewritePatch)

def SemanticPatch.operator : SemanticPatch → SemanticOperator
  | actorSplit _ => .actorSplit
  | channelAdd _ => .channelAdd
  | channelRewire _ => .channelRewire
  | revisionInsert _ => .revisionInsert
  | revisionRemove _ => .revisionRemove
  | instructionRewrite _ => .instructionRewrite

/-- `runtimeOwner` is that of the predicted trace effect. -/
structure SemanticTransactionProposal where
  operator : SemanticOperator
  normalizedPatch : SemanticPatch
  touchedSourcePaths : List String
  budgetEffect : BudgetEffect
  runtimeOwner : TraceOwner
  operator_eq : operator = normalizedPatch.operator
  touched_valid : touchedSourcePaths ≠ [] ∧ touchedSourcePaths.Nodup ∧
    touchedSourcePaths.Pairwise (· ≤ ·) ∧ "" ∉ touchedSourcePaths
  rewrite_budget : operator = .instructionRewrite → budgetEffect.mode = .unchanged

/-! ## Source paths -/

inductive ActorField
  | taskView
  | instruction
  | toolIds
  | budgetShareBps
deriving DecidableEq

def ActorField.text : ActorField → String
  | taskView => "task_view"
  | instruction => "instruction"
  | toolIds => "tool_ids"
  | budgetShareBps => "budget_share_bps"

def ActorField.valueOf (actor : HarnessActor) : ActorField → SourceValue
  | taskView => .taskView actor.taskView
  | instruction => .text actor.instruction
  | toolIds => .tools actor.toolIds
  | budgetShareBps => .number actor.budgetShareBps

inductive ChannelField
  | producerActorId
  | consumerActorId
deriving DecidableEq

def ChannelField.text : ChannelField → String
  | producerActorId => "producer_actor_id"
  | consumerActorId => "consumer_actor_id"

def ChannelField.valueOf (channel : HarnessArtifactChannel) : ChannelField → String
  | producerActorId => channel.producerActorId
  | consumerActorId => channel.consumerActorId

inductive RevisionField
  | actorId
  | feedbackChannelId
  | instruction
deriving DecidableEq

def RevisionField.text : RevisionField → String
  | actorId => "actor_id"
  | feedbackChannelId => "feedback_channel_id"
  | instruction => "instruction"

def RevisionField.valueOf (revision : HarnessRevision) : RevisionField → String
  | actorId => revision.actorId
  | feedbackChannelId => revision.feedbackChannelId
  | instruction => revision.instruction

/-- A place of a protocol that a transaction can name. -/
inductive SourcePath
  | actor (actorId : String)
  | actorField (actorId : String) (field : ActorField)
  | channel (channelId : String)
  | channelField (channelId : String) (field : ChannelField)
  | revision
  | revisionField (field : RevisionField)
  | finalActorId

def actorRoot (actorId : String) : String := "actors[" ++ actorId ++ "]"

def channelRoot (channelId : String) : String := "artifact_channels[" ++ channelId ++ "]"

def SourcePath.text : SourcePath → String
  | actor actorId => actorRoot actorId
  | actorField actorId field => actorPath actorId field.text
  | channel channelId => channelRoot channelId
  | channelField channelId field => channelPath channelId field.text
  | revision => "revision"
  | revisionField field => "revision." ++ field.text
  | finalActorId => "termination.final_actor_id"

end Agintor.Contracts
