import Agintor.Compiler.CompositeCompiler
import Agintor.Contracts.HarnessActions

/-!
# The harness mutator

The checks and the edits of `search/harness_mutator.py` between a proposal and its child protocol.
The text of a rejected protocol's validation error is left out.
-/

namespace Agintor.Search

open Agintor.Contracts Agintor.Core Agintor.Compiler Lib

/-- What the mutator raises. -/
inductive MutationError
  | semantic (message : String)
  | applicability (message : String)
  | budgetExpansion (message : String)
deriving DecidableEq

/-- `repr` of a tuple of texts without quotes. -/
def reprTuple : List String → String
  | [text] => "(" ++ quoted text ++ ",)"
  | texts => "(" ++ String.intercalate ", " (texts.map quoted) ++ ")"

/-! ## Declared paths -/

def sortedPaths (paths : List String) : List String := paths.insertionSort (· ≤ ·)

/-- `_expected_touched_paths` -/
def expectedTouchedPaths : SemanticPatch → List String
  | .actorSplit patch => sortedPaths
      [actorPath patch.sourceActorBefore.actorId "budget_share_bps",
        actorRoot patch.newActor.actorId, channelRoot patch.newChannel.channelId]
  | .channelAdd channel => [channelRoot channel.channelId]
  | .channelRewire patch => [channelRoot patch.channelBefore.channelId]
  | .revisionInsert patch => sortedPaths
      ["revision", channelRoot patch.draftChannel.channelId,
        channelRoot patch.feedbackChannelBefore.channelId]
  | .revisionRemove patch => sortedPaths
      ["revision", channelRoot patch.draftChannel.channelId,
        channelRoot patch.feedbackChannel.channelId]
  | .instructionRewrite patch => [actorPath patch.actorId "instruction"]

def allowedOwners : SemanticOperator → List TraceOwner
  | .actorSplit => [.scheduler, .artifactStore, .budgetLedger]
  | .channelAdd => [.scheduler, .artifactStore, .actorContext]
  | .channelRewire => [.scheduler, .artifactStore, .actorContext]
  | .revisionInsert => [.revisionController, .scheduler]
  | .revisionRemove => [.revisionController, .scheduler]
  | .instructionRewrite => [.actorContext]

/-- `_validate_operator_metadata` -/
def validateOperatorMetadata (proposal : SemanticTransactionProposal) :
    Except MutationError Unit := do
  let expectedPaths := expectedTouchedPaths proposal.normalizedPatch
  raiseIf (proposal.touchedSourcePaths ≠ expectedPaths) (.semantic
    ("touched_source_paths do not equal the typed patch surface: expected " ++
      reprTuple expectedPaths))
  raiseIf (proposal.runtimeOwner ∉ allowedOwners proposal.operator) (.semantic
    ("runtime owner " ++ quoted proposal.runtimeOwner.text ++ " cannot consume " ++
      quoted proposal.operator.text))
  let expectedMode := if proposal.operator = .actorSplit then BudgetMode.sharesRebalanced
    else .unchanged
  raiseIf (proposal.budgetEffect.mode ≠ expectedMode) (.budgetExpansion
    (proposal.operator.text ++ " requires budget mode " ++ quoted expectedMode.text))

/-- `_paths_overlap` -/
def pathsOverlap (left right : String) : Bool :=
  left == right || (right ++ ".").toList.isPrefixOf left.toList ||
    (left ++ ".").toList.isPrefixOf right.toList

/-! ## Edits -/

/-- `_replace_actor`: the first actor with the id. -/
def replaceActor (actors : List HarnessActor) (actor : HarnessActor) :
    Except MutationError (List HarnessActor) :=
  match actors.findIdx? (·.actorId = actor.actorId) with
  | some index => .ok (actors.set index actor)
  | none => .error (.applicability ("patch references missing actor " ++ quoted actor.actorId))

def channelOf (protocol : HarnessProtocol) (channelId : String) : Option HarnessArtifactChannel :=
  protocol.artifactChannels.find? (·.channelId = channelId)

/-- What a patch makes of the actors, the channels and the revision. -/
structure ProtocolPayload where
  actors : List HarnessActor
  channels : List HarnessArtifactChannel
  revision : Option HarnessRevision

def splitActor (parent : HarnessProtocol) (patch : ActorSplitPatch) :
    Except MutationError ProtocolPayload := do
  raiseIf (actorOf parent patch.sourceActorBefore.actorId ≠ some patch.sourceActorBefore)
    (.applicability "actor split source_actor_before does not match the parent")
  let actors ← replaceActor parent.actors patch.sourceActorAfter
  let sourceIndex := actors.findIdx (·.actorId = patch.sourceActorAfter.actorId)
  return ⟨actors.insertIdx sourceIndex patch.newActor,
    parent.artifactChannels ++ [patch.newChannel], parent.revision⟩

def rewireChannel (parent : HarnessProtocol) (patch : ChannelRewirePatch) :
    Except MutationError ProtocolPayload := do
  raiseIf (∃ revision ∈ parent.revision,
      patch.channelBefore.channelId = revision.feedbackChannelId)
    (.applicability "revision feedback channels require revision remove/insert operators")
  match parent.artifactChannels.findIdx? (·.channelId = patch.channelBefore.channelId) with
  | none => .error (.applicability "rewire channel is absent")
  | some index => do
    raiseIf (parent.artifactChannels[index]? ≠ some patch.channelBefore)
      (.applicability "channel_before does not match the parent route")
    return ⟨parent.actors, parent.artifactChannels.set index patch.channelAfter, parent.revision⟩

def insertRevision (parent : HarnessProtocol) (patch : RevisionInsertPatch) :
    Except MutationError ProtocolPayload := do
  raiseIf (parent.revision ≠ none) (.applicability "protocol already has a revision")
  raiseIf (channelOf parent patch.feedbackChannelBefore.channelId ≠
      some patch.feedbackChannelBefore)
    (.applicability "feedback_channel_before does not match the parent")
  raiseIf (patch.revision.actorId ≠ parent.finalActorId)
    (.applicability "revision insert may not change the final actor")
  return ⟨parent.actors, parent.artifactChannels ++ [patch.draftChannel], some patch.revision⟩

/-- The ids of a protocol are unique, so that the map of its channels finds the first. -/
def removeRevision (parent : HarnessProtocol) (patch : RevisionRemovePatch) :
    Except MutationError ProtocolPayload := do
  raiseIf (parent.revision ≠ some patch.revision)
    (.applicability "revision removal does not match the active revision")
  raiseIf (channelOf parent patch.draftChannel.channelId ≠ some patch.draftChannel)
    (.applicability "revision draft channel does not match the parent")
  raiseIf (channelOf parent patch.feedbackChannel.channelId ≠ some patch.feedbackChannel)
    (.applicability "revision feedback channel does not match the parent")
  return ⟨parent.actors,
    parent.artifactChannels.filter (·.channelId ≠ patch.draftChannel.channelId), none⟩

def rewriteInstruction (parent : HarnessProtocol) (patch : InstructionRewritePatch) :
    Except MutationError ProtocolPayload := do
  match actorOf parent patch.actorId with
  | none => .error (.applicability "rewrite actor is absent")
  | some current => do
    raiseIf (current.instruction ≠ patch.beforeInstruction)
      (.applicability "before_instruction does not match the parent")
    let actors ← replaceActor parent.actors { current with
      instruction := patch.afterInstruction
      instruction_valid := patch.trimmed.2 }
    return ⟨actors, parent.artifactChannels, parent.revision⟩

def patchedPayload (parent : HarnessProtocol) : SemanticPatch → Except MutationError ProtocolPayload
  | .actorSplit patch => splitActor parent patch
  | .channelAdd channel =>
    .ok ⟨parent.actors, parent.artifactChannels ++ [channel], parent.revision⟩
  | .channelRewire patch => rewireChannel parent patch
  | .revisionInsert patch => insertRevision parent patch
  | .revisionRemove patch => removeRevision parent patch
  | .instructionRewrite patch => rewriteInstruction parent patch

/-- `_apply_patch` -/
def applyPatch (parent : HarnessProtocol) (proposal : SemanticTransactionProposal) :
    Except MutationError HarnessProtocol := do
  let payload ← patchedPayload parent proposal.normalizedPatch
  if h : ProtocolValid payload.actors payload.channels payload.revision parent.finalActorId then
    return {
      actors := payload.actors
      artifactChannels := payload.channels
      revision := payload.revision
      finalActorId := parent.finalActorId
      finalActorId_identifier := parent.finalActorId_identifier
      valid := h }
  else .error (.semantic "semantic transaction violates HarnessProtocol invariants")

/-! ## The budget -/

/-- The share of an actor, 0 for an actor that is not there. -/
def shareAt (protocol : HarnessProtocol) (actorId : String) : ℕ :=
  ((actorOf protocol actorId).map (·.budgetShareBps)).getD 0

lemma shareAt_le (protocol : HarnessProtocol) (actorId : String) :
    shareAt protocol actorId ≤ 10000 := by
  unfold shareAt
  cases actorOf protocol actorId with
  | none => exact Nat.zero_le _
  | some actor => exact actor.share_valid.2

/-- `_actual_budget_changes` -/
def actualBudgetChanges (parent child : HarnessProtocol) : List BudgetShareChange :=
  (sortedUnique (actorIds parent ++ actorIds child)).filterMap fun actorId =>
    if h : shareAt parent actorId ≠ shareAt child actorId then
      some ⟨actorId, shareAt parent actorId, shareAt child actorId,
        ⟨shareAt_le parent actorId, shareAt_le child actorId⟩, h⟩
    else none

/-- `_validate_budget_effect` -/
def validateBudgetEffect (parent child : HarnessProtocol) (proposal : SemanticTransactionProposal) :
    Except MutationError Unit := do
  raiseIf ((parent.actors.map (·.budgetShareBps)).sum ≠ 10000)
    (.budgetExpansion "parent protocol budget is not aggregate-bound")
  raiseIf ((child.actors.map (·.budgetShareBps)).sum ≠ 10000)
    (.budgetExpansion "transaction expands or shrinks aggregate budget")
  let declared := proposal.budgetEffect.shareChanges.insertionSort fun a b => a.actorId ≤ b.actorId
  raiseIf (actualBudgetChanges parent child ≠ declared) (.budgetExpansion
    "declared budget rebalance does not match the normalized protocol patch")

end Agintor.Search
