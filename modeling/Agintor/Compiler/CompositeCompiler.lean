import Agintor.Contracts.Harness
import Agintor.Lib.Layers
import Agintor.Lib.Raise

/-!
# The composite compiler

`runtime/api/composite_compiler.py`: a task and a protocol become one executable plan. The
arguments are valid values of their types, which normalizing leaves as they are.
-/

namespace Agintor.Compiler

open Agintor.Contracts Agintor.Core Lib

/-- What compilation raises. -/
inductive CompileError
  | compilation (message : String)
  | inertProtocol (message : String)
  | validation (message : String)
deriving DecidableEq

/-- `', '.join` of the `repr` of texts without quotes, in brackets. -/
def reprList (texts : List String) : String :=
  "[" ++ String.intercalate ", " (texts.map fun t => "'" ++ t ++ "'") ++ "]"

/-! ## Dependencies -/

/-- `sorted(set(wanted) - set(given))` -/
def missingTools (wanted given : List TrustedToolId) : List String :=
  sortedUnique ((wanted.filter (· ∉ given)).map (·.text))

def validateDependencyContract (task : TaskEnvelope) (protocol : HarnessProtocol)
    (dependencies : RuntimeDependencyManifest) (metadata : CompositeCompilerMetadata) :
    Except CompileError Unit := do
  raiseIf (dependencies.runtimeContractVersion ≠ task.runtimeContractVersion)
    (.compilation "runtime dependency manifest and task use different contract versions")
  raiseIf (dependencies.compiler.dependencyId ≠ metadata.compilerId)
    (.compilation "compiler dependency identity is not supported")
  raiseIf (dependencies.compiler.interfaceVersion ≠ metadata.compilerVersion)
    (.compilation "compiler dependency version is not supported")
  raiseIf (dependencies.harnessContract.dependencyId ≠ metadata.harnessContractId)
    (.compilation "harness contract dependency is not supported")
  raiseIf (dependencies.harnessContract.interfaceVersion ≠ metadata.harnessSchemaVersion)
    (.compilation "harness contract version is not supported")
  let dependencyToolIds := dependencies.trustedTools.map (·.toolId)
  raiseIf (¬(dependencyToolIds ⊆ metadata.trustedToolIds ∧
      metadata.trustedToolIds ⊆ dependencyToolIds))
    (.compilation "runtime dependency manifest must pin every fixed trusted tool")
  protocol.actors.forM fun actor => do
    let unsupported := missingTools actor.toolIds dependencyToolIds
    raiseIf (unsupported ≠ []) (.compilation ("actor '" ++ actor.actorId ++
      "' references unpinned tools " ++ reprList unsupported))
    let denied := missingTools actor.toolIds trustedToolIds
    raiseIf (denied ≠ []) (.compilation ("actor '" ++ actor.actorId ++
      "' references task-denied tools " ++ reprList denied))

/-! ## Topology -/

/-- The channel that a revision names. -/
def feedbackChannel (protocol : HarnessProtocol) : Option HarnessArtifactChannel :=
  protocol.revision.bind fun revision =>
    protocol.artifactChannels.find? (·.channelId = revision.feedbackChannelId)

def primaryChannels (protocol : HarnessProtocol) : List HarnessArtifactChannel :=
  protocol.artifactChannels.filter fun channel =>
    (feedbackChannel protocol).all fun feedback => channel.channelId ≠ feedback.channelId

/-- `adjacency[actor_id]` -/
def consumersOf (protocol : HarnessProtocol) (actorId : String) : List String :=
  (((primaryChannels protocol).filter (·.producerActorId = actorId)).map
    (·.consumerActorId)).dedup

/-- `incoming[actor_id]` -/
def producersOf (protocol : HarnessProtocol) (actorId : String) : List String :=
  (((primaryChannels protocol).filter (·.consumerActorId = actorId)).map
    (·.producerActorId)).dedup

def actorIds (protocol : HarnessProtocol) : List String := protocol.actors.map (·.actorId)

/-- `_path_exists`: the loop over the pending actors, the last one first. Each channel adds an
actor at most once, so that one round more than channels is enough. -/
def pathLoop (adjacency : String → List String) (target : String) :
    ℕ → List String → List String → Bool
  | 0, _, _ => false
  | _ + 1, [], _ => false
  | n + 1, actorId :: pending, visited =>
    if actorId = target then true
    else if actorId ∈ visited then pathLoop adjacency target n pending visited
    else pathLoop adjacency target n (sortedUnique (adjacency actorId) ++ pending)
      (actorId :: visited)

def pathExists (protocol : HarnessProtocol) (start target : String) : Bool :=
  pathLoop (consumersOf protocol) target ((primaryChannels protocol).length + 1) [start] []

/-- The levels of the primary graph, from the actors without producers on. -/
def compileLevels (protocol : HarnessProtocol) : Option (List (List String)) :=
  layers (consumersOf protocol) protocol.actors.length (actorIds protocol) fun actorId =>
    ((producersOf protocol actorId).length : ℤ)

/-- The checks that the final actor, or the revision feedback, is where every path leads. -/
def validateSinks (protocol : HarnessProtocol) : Except CompileError Unit := do
  match feedbackChannel protocol with
  | none => do
    raiseIf (consumersOf protocol protocol.finalActorId ≠ [])
      (.compilation "the final actor must be the sink of the primary artifact graph")
    (actorIds protocol).forM fun actorId =>
      raiseIf (pathExists protocol actorId protocol.finalActorId = false)
        (.compilation ("actor '" ++ actorId ++ "' has no artifact path to the final actor"))
  | some feedback => do
    raiseIf (pathExists protocol protocol.finalActorId feedback.producerActorId = false)
      (.compilation "revision feedback must come from an actor downstream of the reviser")
    (actorIds protocol).forM fun actorId =>
      raiseIf (pathExists protocol actorId feedback.producerActorId = false)
        (.compilation ("actor '" ++ actorId ++ "' has no artifact path to revision feedback"))

def validateProducers (protocol : HarnessProtocol) : Except CompileError Unit :=
  (actorIds protocol).forM fun actorId =>
    raiseIf (¬(actorId = protocol.finalActorId ∧ (feedbackChannel protocol).isNone) ∧
        ∀ channel ∈ protocol.artifactChannels, channel.producerActorId ≠ actorId)
      (.compilation ("non-terminal actor '" ++ actorId ++ "' must produce an artifact"))

def compileTopology (protocol : HarnessProtocol) : Except CompileError (List (List String)) := do
  raiseIf (1 < protocol.actors.length ∧ protocol.artifactChannels = [])
    (.compilation "multi-actor protocols require consequential artifact exchange")
  match compileLevels protocol with
  | none => .error (.compilation "primary artifact channel graph must be acyclic")
  | some levels => do
    validateSinks protocol
    validateProducers protocol
    return levels

/-! ## Calls -/

def taskContextRead : TaskViewField → ContextReadPlan
  | .issue => ⟨"task.issue", .task, "issue"⟩
  | .workspace => ⟨"workspace.scratch_binding", .workspace, "scratch_workspace"⟩
  | .publicReproduction => ⟨"task.public_reproduction", .task, "public_reproduction"⟩
  | .sessionPublicCarryover => ⟨"session.public_carryover", .session, "public_carryover"⟩

def taskContextReads (actor : HarnessActor) : List ContextReadPlan :=
  actor.taskView.map taskContextRead

def initialCallId (actorId : String) : String := "actor." ++ actorId ++ ".initial"

def revisionCallId (actorId : String) : String := "actor." ++ actorId ++ ".revision"

def artifactIdOf (channelId : String) : String := "artifact." ++ channelId

/-- Where a channel is delivered: the feedback goes to the revision call. -/
def deliveryOf (protocol : HarnessProtocol) (channel : HarnessArtifactChannel) :
    ArtifactDeliveryPlan where
  channelId := channel.channelId
  artifactId := artifactIdOf channel.channelId
  producerCallId := initialCallId channel.producerActorId
  consumerCallId :=
    match protocol.revision with
    | none => initialCallId channel.consumerActorId
    | some revision =>
      if channel.channelId = revision.feedbackChannelId then revisionCallId revision.actorId
      else initialCallId channel.consumerActorId

def compileDeliveries (protocol : HarnessProtocol) : List ArtifactDeliveryPlan :=
  protocol.artifactChannels.map (deliveryOf protocol)

/-- The reads of the artifacts that are delivered to a call. -/
def artifactReads (protocol : HarnessProtocol) (callId : String) : List ContextReadPlan :=
  ((compileDeliveries protocol).filter (·.consumerCallId = callId)).map fun delivery =>
    ⟨"artifact." ++ delivery.channelId, .artifact, delivery.artifactId⟩

def artifactWritesOf (task : TaskEnvelope) (protocol : HarnessProtocol) (actorId : String) :
    List ArtifactWritePlan :=
  (protocol.artifactChannels.filter (·.producerActorId = actorId)).map fun channel =>
    { channelId := channel.channelId
      artifactId := artifactIdOf channel.channelId
      producerCallId := initialCallId actorId
      maxBytes := task.ceilings.maxArtifactBytes }

def initialCall (task : TaskEnvelope) (protocol : HarnessProtocol) (actor : HarnessActor) :
    ActorCallPlan where
  callId := initialCallId actor.actorId
  actorId := actor.actorId
  callKind := .initial
  instruction := actor.instruction
  contextReads := taskContextReads actor ++ artifactReads protocol (initialCallId actor.actorId)
  artifactWrites := artifactWritesOf task protocol actor.actorId
  toolIds := actor.toolIds
  budgetShareBps := actor.budgetShareBps
  emitsFinalPatch := protocol.revision.isNone && actor.actorId == protocol.finalActorId

def revisionCall (protocol : HarnessProtocol) (actor : HarnessActor) (instruction : String) :
    ActorCallPlan where
  callId := revisionCallId actor.actorId
  actorId := actor.actorId
  callKind := .revision
  instruction := actor.instruction
  revisionInstruction := some instruction
  contextReads := taskContextReads actor ++ artifactReads protocol (initialCallId actor.actorId) ++
    [⟨"prior." ++ initialCallId actor.actorId, .priorActorOutput, initialCallId actor.actorId⟩] ++
    artifactReads protocol (revisionCallId actor.actorId)
  artifactWrites := []
  toolIds := actor.toolIds
  budgetShareBps := actor.budgetShareBps
  emitsFinalPatch := true

/-- `actors[actor_id]` -/
def actorOf (protocol : HarnessProtocol) (actorId : String) : Option HarnessActor :=
  protocol.actors.find? (·.actorId = actorId)

/-- The revision call, if there is a revision. -/
def revisionCalls (protocol : HarnessProtocol) : List ActorCallPlan :=
  (protocol.revision.bind fun revision =>
    (actorOf protocol revision.actorId).map fun actor =>
      revisionCall protocol actor revision.instruction).toList

def compileCalls (task : TaskEnvelope) (protocol : HarnessProtocol)
    (levels : List (List String)) : List ActorCallPlan :=
  (levels.flatten.filterMap fun actorId =>
    (actorOf protocol actorId).map (initialCall task protocol)) ++ revisionCalls protocol

/-- The call that ends the plan. -/
def finalCallId (protocol : HarnessProtocol) : String :=
  match protocol.revision with
  | none => initialCallId protocol.finalActorId
  | some revision => revisionCallId revision.actorId

/-- What tells two actors apart. -/
def callSignature (call : ActorCallPlan) :
    String × List (SourceKind × String) × List TrustedToolId × List String × Bool :=
  (call.instruction, call.contextReads.map fun read => (read.sourceKind, read.sourceRef),
    call.toolIds, call.artifactWrites.map (·.channelId), call.emitsFinalPatch)

def validateActorDifferentiation (calls : List ActorCallPlan) : Except CompileError Unit :=
  raiseIf (¬((calls.filter (·.callKind = .initial)).map callSignature).Nodup)
    (.compilation ("actors must have differentiated executable instructions, views, " ++
      "tools, artifact responsibilities, or termination roles"))

/-! ## Stages -/

def stageId (index : ℕ) : String := "stage." ++ toString index

/-- `parent_indices` -/
def parentIndices (levels : List (List String)) (inbound : List HarnessArtifactChannel) :
    List ℕ :=
  ((inbound.map fun channel => layerOf levels channel.producerActorId).dedup).insertionSort
    (· ≤ ·)

def levelStage (protocol : HarnessProtocol) (levels : List (List String)) (index : ℕ)
    (level : List String) : CompositePlanStage :=
  let inbound := (primaryChannels protocol).filter (·.consumerActorId ∈ level)
  let parents := parentIndices levels inbound
  { stageId := stageId index
    stageIndex := index
    callIds := level.map initialCallId
    dependsOnStageIds := parents.map stageId
    inboundChannelIds := inbound.map (·.channelId)
    fork := decide (1 < level.length)
    join := decide (1 < parents.length ∨ 1 < inbound.length) }

def revisionStages (protocol : HarnessProtocol) (levels : List (List String)) :
    List CompositePlanStage :=
  match protocol.revision, feedbackChannel protocol with
  | some revision, some feedback =>
    [{ stageId := stageId levels.length
       stageIndex := levels.length
       callIds := [revisionCallId revision.actorId]
       dependsOnStageIds := [stageId (layerOf levels feedback.producerActorId)]
       inboundChannelIds := [feedback.channelId]
       revision := true }]
  | _, _ => []

def compileStages (protocol : HarnessProtocol) (levels : List (List String)) :
    List CompositePlanStage :=
  levels.mapIdx (levelStage protocol levels) ++ revisionStages protocol levels

/-! ## Liveness -/

def callPath (field callId : String) : String := "actor_calls[" ++ callId ++ "]." ++ field

def deliveryPath (channelId field : String) : String :=
  "artifact_deliveries[" ++ channelId ++ "]." ++ field

variable (D : HarnessDigests)

def binding (path : String) (value : SourceValue) (consumers : List String)
    (owners : List RuntimeOwner) : ConsumedFieldBinding :=
  ⟨path, D.sourceField value, consumers, owners⟩

def actorBindings (calls : List ActorCallPlan) (actor : HarnessActor) :
    List ConsumedFieldBinding :=
  let callIds := (calls.filter (·.actorId = actor.actorId)).map (·.callId)
  [binding D (actorPath actor.actorId "task_view") (.taskView actor.taskView)
      (callIds.map (callPath "context_reads")) [.actorContext],
    binding D (actorPath actor.actorId "instruction") (.text actor.instruction)
      (callIds.map (callPath "instruction")) [.actorContext],
    binding D (actorPath actor.actorId "tool_ids") (.tools actor.toolIds)
      (callIds.map (callPath "tool_ids")) [.toolAuthority],
    binding D (actorPath actor.actorId "budget_share_bps") (.number actor.budgetShareBps)
      (("budget_ledger.actor_shares[" ++ actor.actorId ++ "].budget_share_bps") ::
        callIds.map (callPath "budget_share_bps")) [.budgetLedger]]

def channelBindings (protocol : HarnessProtocol) (channel : HarnessArtifactChannel) :
    List ConsumedFieldBinding :=
  let delivery := deliveryOf protocol channel
  [binding D (channelPath channel.channelId "producer_actor_id") (.text channel.producerActorId)
      [deliveryPath channel.channelId "producer_call_id",
        callPath "artifact_writes" delivery.producerCallId] [.artifactStore, .scheduler],
    binding D (channelPath channel.channelId "consumer_actor_id") (.text channel.consumerActorId)
      [deliveryPath channel.channelId "consumer_call_id",
        callPath "context_reads" delivery.consumerCallId]
      [.artifactStore, .actorContext, .scheduler]]

def revisionBindings (revision : HarnessRevision) : List ConsumedFieldBinding :=
  let callId := revisionCallId revision.actorId
  [binding D "revision.actor_id" (.text revision.actorId) [callPath "actor_id" callId]
      [.revisionController, .scheduler],
    binding D "revision.feedback_channel_id" (.text revision.feedbackChannelId)
      [deliveryPath revision.feedbackChannelId "consumer_call_id",
        callPath "context_reads" callId] [.revisionController, .artifactStore],
    binding D "revision.instruction" (.text revision.instruction)
      [callPath "revision_instruction" callId] [.revisionController, .actorContext]]

def terminationBinding (protocol : HarnessProtocol) (finalCall : String) : ConsumedFieldBinding :=
  binding D "termination.final_actor_id" (.text protocol.finalActorId)
    ["termination.final_actor_call_id", callPath "emits_final_patch" finalCall]
    [.terminationController, .scheduler]

def compileBindings (protocol : HarnessProtocol) (calls : List ActorCallPlan)
    (finalCall : String) : List ConsumedFieldBinding :=
  protocol.actors.flatMap (actorBindings D calls) ++
    protocol.artifactChannels.flatMap (channelBindings D protocol) ++
    protocol.revision.toList.flatMap (revisionBindings D) ++
    [terminationBinding D protocol finalCall]

def compileLivenessManifest (protocol : HarnessProtocol) (calls : List ActorCallPlan) :
    Except CompileError ConsumedFieldLivenessManifest := do
  match calls.find? (·.emitsFinalPatch) with
  | none => .error (.validation "StopIteration")
  | some finalCall => do
    let bindings := compileBindings D protocol calls finalCall.callId
    (bindings.forM fun b => raiseIf (b.planConsumerPaths = []) (.compilation
      ("mutable field '" ++ b.sourcePath ++ "' has no normalized-plan consumer")))
    let paths := bindings.map (·.sourcePath)
    raiseIf (¬paths.Nodup) (.validation "liveness bindings must have unique source paths")
    let expected := protocol.mutableFieldPaths
    let missing := sortedUnique (expected.filter (· ∉ paths))
    let extra := sortedUnique (paths.filter (· ∉ expected))
    raiseIf (missing ≠ [] ∨ extra ≠ []) (.compilation
      ("consumed-field manifest does not cover the complete mutable surface: missing=" ++
        reprList missing ++ ", extra=" ++ reprList extra))
    return ⟨D.protocol protocol, bindings⟩

/-! ## The plan -/

/-- A step as the plan's model class takes it: its texts are stripped. -/
def verificationAction (step : PublicReproductionStep) : PublicVerificationActionPlan where
  stepId := trim step.stepId
  argv := step.argv.map trim
  cwd := trim step.cwd
  timeoutMs := step.timeoutMs
  expectedExitCodes := step.expectedExitCodes

def semanticPayload (task : TaskEnvelope) (protocol : HarnessProtocol)
    (dependencies : RuntimeDependencyManifest) (levels : List (List String)) :
    SemanticPayload :=
  let calls := compileCalls task protocol levels
  { taskEnvelopeDigest := task.taskManifestDigest
    dependencyManifest := dependencies
    dependencyManifestDigest := D.manifest dependencies
    actorCalls := calls
    stages := compileStages protocol levels
    artifactDeliveries := compileDeliveries protocol
    publicVerification :=
      { actions := task.publicReproduction.map verificationAction
        runAfterCallId := finalCallId protocol }
    termination :=
      { finalActorCallId := finalCallId protocol
        maxPatchBytes := task.ceilings.maxPatchBytes }
    budgetLedger :=
      { aggregateCeiling := task.ceilings
        actorShares := protocol.actors.map fun actor => ⟨actor.actorId, actor.budgetShareBps⟩
        scheduledModelCalls := calls.length
        scheduledRevisionCalls := if protocol.revision.isSome then 1 else 0 } }

/-- `BudgetLedgerPlan.validate_ledger` -/
def validateLedger (ledger : BudgetLedgerPlan) : Except CompileError Unit := do
  raiseIf ((ledger.actorShares.map (·.budgetShareBps)).sum ≠ 10000)
    (.validation "compiled actor budget shares must sum to 10000")
  raiseIf (ledger.aggregateCeiling.maxModelCalls < ledger.scheduledModelCalls)
    (.validation "compiled actor calls exceed max_model_calls")

/-- `CompositeRunPlan.validate_plan_references` -/
def validatePlanReferences (plan : CompositeRunPlan) : Except CompileError Unit := do
  let callIds : List String := plan.actorCalls.map (·.callId)
  let stagedCallIds : List String := plan.stages.flatMap (·.callIds)
  raiseIf (¬callIds.Nodup) (.validation "compiled call_id values must be unique")
  raiseIf (¬stagedCallIds.Nodup) (.validation "every actor call must appear in exactly one stage")
  raiseIf (¬(stagedCallIds ⊆ callIds ∧ callIds ⊆ stagedCallIds))
    (.validation "stages must schedule every actor call exactly once")
  raiseIf (plan.termination.finalActorCallId ∉ callIds)
    (.validation "termination references an unknown final actor call")
  raiseIf (plan.publicVerification.runAfterCallId ≠ plan.termination.finalActorCallId)
    (.validation "public verification must run after the final actor call")
  raiseIf (plan.sourceProtocolDigest ≠ plan.livenessManifest.sourceProtocolDigest)
    (.validation "liveness manifest is bound to another source protocol")
  raiseIf (plan.dependencyManifestDigest ≠ D.manifest plan.dependencyManifest)
    (.validation "dependency_manifest_digest does not match its manifest")
  raiseIf (plan.compiledSemanticDigest ≠ D.plan plan.toSemanticPayload)
    (.validation "compiled_semantic_digest does not match the normalized plan")

def compileCompositeRunPlan (metadata : CompositeCompilerMetadata) (task : TaskEnvelope)
    (protocol : HarnessProtocol) (dependencies : RuntimeDependencyManifest)
    (rejectSemanticDigest : Option String) : Except CompileError CompositeRunPlan := do
  validateDependencyContract task protocol dependencies metadata
  let levels ← compileTopology protocol
  let calls := compileCalls task protocol levels
  validateActorDifferentiation calls
  let liveness ← compileLivenessManifest D protocol calls
  let payload := semanticPayload D task protocol dependencies levels
  validateLedger payload.budgetLedger
  let compiledDigest := D.plan payload
  raiseIf (rejectSemanticDigest = some compiledDigest)
    (.inertProtocol "candidate protocol compiles to an exact semantic no-op")
  let plan : CompositeRunPlan :=
    { payload with
      sourceProtocolDigest := D.protocol protocol
      compiledSemanticDigest := compiledDigest
      livenessManifest := liveness }
  validatePlanReferences D plan
  return plan

def assertSemanticChange (parent child : CompositeRunPlan) : Except CompileError Unit := do
  raiseIf (parent.taskEnvelopeDigest ≠ child.taskEnvelopeDigest)
    (.compilation "semantic-change comparison requires the same TaskEnvelope")
  raiseIf (parent.dependencyManifestDigest ≠ child.dependencyManifestDigest)
    (.compilation "semantic-change comparison requires the same runtime dependencies")
  raiseIf (parent.compiledSemanticDigest = child.compiledSemanticDigest)
    (.inertProtocol "candidate protocol compiles to an exact semantic no-op")

end Agintor.Compiler
