import Agintor.Compiler.CompositePlans
import Agintor.Lib.Lists
import Agintor.Lib.Decimal

/-!
# The compiler loses nothing

Two protocols that compile for one task and one dependency manifest have the same semantic
payload only if they are the same protocol: each field of the source can be read off the calls,
deliveries and shares of the plan.
-/

namespace Agintor.Compiler

open Agintor.Contracts Agintor.Core Lib

/-! ## Compilation, read backwards -/

/-- What a compilation that returns has found and built. -/
structure Compiled (D : HarnessDigests) (task : TaskEnvelope) (protocol : HarnessProtocol)
    (dependencies : RuntimeDependencyManifest) (levels : List (List String))
    (plan : CompositeRunPlan) : Prop where
  topology : compileTopology protocol = .ok levels
  differentiated : validateActorDifferentiation (compileCalls task protocol levels) = .ok ()
  liveness : compileLivenessManifest D protocol (compileCalls task protocol levels) =
    .ok plan.livenessManifest
  ledger : validateLedger plan.budgetLedger = .ok ()
  references : validatePlanReferences D plan = .ok ()
  payload : plan.toSemanticPayload = semanticPayload D task protocol dependencies levels
  sourceDigest : plan.sourceProtocolDigest = D.protocol protocol
  semanticDigest : plan.compiledSemanticDigest = D.plan plan.toSemanticPayload

variable {D : HarnessDigests} {metadata : CompositeCompilerMetadata} {task : TaskEnvelope}
  {protocol : HarnessProtocol} {dependencies : RuntimeDependencyManifest}
  {reject : Option String} {plan : CompositeRunPlan} {levels : List (List String)}

theorem compile_eq_ok_iff :
    compileCompositeRunPlan D metadata task protocol dependencies reject = .ok plan ↔
      validateDependencyContract task protocol dependencies metadata = .ok () ∧
        (∃ levels, Compiled D task protocol dependencies levels plan) ∧
        reject ≠ some plan.compiledSemanticDigest := by
  simp only [compileCompositeRunPlan, bind_eq_ok_iff, raiseIf_eq_ok_iff, pure_eq_ok,
    Except.ok.injEq]
  constructor
  · rintro ⟨⟨⟩, hdependencies, levels, htopology, ⟨⟩, hdifferent, liveness, hliveness, ⟨⟩, hledger,
      ⟨⟩, hreject, ⟨⟩, hreferences, rfl⟩
    exact ⟨hdependencies, ⟨levels, htopology, hdifferent, hliveness, hledger, hreferences, rfl, rfl,
      rfl⟩, hreject⟩
  · rintro ⟨hdependencies, ⟨levels, h⟩, hreject⟩
    obtain ⟨payload, sourceDigest, semanticDigest, liveness⟩ := plan
    obtain ⟨htopology, hdifferent, hliveness, hledger, hreferences, hpayload, hsource, hsemantic⟩ := h
    simp only at hpayload hsource hsemantic hliveness hledger hreject
    subst hpayload hsource hsemantic
    exact ⟨(), hdependencies, levels, htopology, (), hdifferent, liveness, hliveness, (), hledger,
      (), hreject, (), hreferences, rfl⟩

/-- A protocol that compiles to the rejected digest is refused as a no-op. -/
theorem compile_reject
    (h : compileCompositeRunPlan D metadata task protocol dependencies reject = .ok plan) :
    compileCompositeRunPlan D metadata task protocol dependencies
        (some plan.compiledSemanticDigest) =
      .error (.inertProtocol "candidate protocol compiles to an exact semantic no-op") := by
  obtain ⟨hdependencies, ⟨levels, hcompiled⟩, -⟩ := compile_eq_ok_iff.mp h
  have hledger := hcompiled.ledger
  have hdigest := hcompiled.semanticDigest
  rw [hcompiled.payload] at hdigest
  have hbudget : plan.budgetLedger =
      (semanticPayload D task protocol dependencies levels).budgetLedger :=
    congrArg SemanticPayload.budgetLedger hcompiled.payload
  rw [hbudget] at hledger
  simp only [compileCompositeRunPlan, hdependencies, hcompiled.topology, hcompiled.differentiated,
    hcompiled.liveness, hledger, ok_bind, hdigest]
  rw [raiseIf_pos trivial, error_bind]

/-! ## What a plan tells of its protocol -/

lemma taskContextRead_injective : Function.Injective taskContextRead := by
  intro a b h
  cases a <;> cases b <;> simp_all [taskContextRead]

variable {p q : HarnessProtocol}

variable {channel other : HarnessArtifactChannel} {rejectP rejectQ : Option String}

/-- The consumer of a channel, from the call it is delivered to. -/
lemma consumer_of_delivery (hchannel : channel ∈ p.artifactChannels)
    (hother : other ∈ q.artifactChannels)
    (h : (deliveryOf p channel).consumerCallId = (deliveryOf q other).consumerCallId) :
    channel.consumerActorId = other.consumerActorId := by
  by_cases hp : channel ∈ primaryChannels p
  · rw [consumerCallId_of_primary hp] at h
    by_cases hq : other ∈ primaryChannels q
    · rwa [consumerCallId_of_primary hq, initialCallId_inj] at h
    · obtain ⟨revision, hrevision, hid, -⟩ := feedback_of_not_primary hother hq
      rw [consumerCallId_of_feedback hrevision hid] at h
      exact absurd h initialCallId_ne_revisionCallId
  · obtain ⟨revision, hrevision, hid, hconsumer⟩ := feedback_of_not_primary hchannel hp
    rw [consumerCallId_of_feedback hrevision hid] at h
    by_cases hq : other ∈ primaryChannels q
    · rw [consumerCallId_of_primary hq] at h
      exact absurd h revisionCallId_ne_initialCallId
    · obtain ⟨revision', hrevision', hid', hconsumer'⟩ := feedback_of_not_primary hother hq
      rw [consumerCallId_of_feedback hrevision' hid', revisionCallId_inj] at h
      rw [hconsumer, hconsumer', h]

lemma channel_of_delivery (hchannel : channel ∈ p.artifactChannels)
    (hother : other ∈ q.artifactChannels) (h : deliveryOf p channel = deliveryOf q other) :
    channel = other := by
  have hid : channel.channelId = other.channelId := congrArg ArtifactDeliveryPlan.channelId h
  have hproducer : channel.producerActorId = other.producerActorId :=
    initialCallId_inj.mp (congrArg ArtifactDeliveryPlan.producerCallId h)
  have hconsumer := consumer_of_delivery hchannel hother
    (congrArg ArtifactDeliveryPlan.consumerCallId h)
  cases channel
  cases other
  simp_all

/-- The deliveries tell the channels. -/
lemma channels_of_deliveries (h : compileDeliveries p = compileDeliveries q) :
    p.artifactChannels = q.artifactChannels :=
  eq_of_map_eq_map h fun _ hchannel _ hother => channel_of_delivery hchannel hother

/-- The final call tells the final actor, and whether there is a revision. -/
lemma final_of_finalCallId (h : finalCallId p = finalCallId q) :
    p.finalActorId = q.finalActorId ∧ p.revision.isSome = q.revision.isSome := by
  unfold finalCallId at h
  cases hp : p.revision with
  | none =>
    cases hq : q.revision with
    | none =>
      simp only [hp, hq, initialCallId_inj] at h
      exact ⟨h, rfl⟩
    | some revision =>
      simp only [hp, hq] at h
      exact absurd h initialCallId_ne_revisionCallId
  | some revision =>
    cases hq : q.revision with
    | none =>
      simp only [hp, hq] at h
      exact absurd h revisionCallId_ne_initialCallId
    | some revision' =>
      simp only [hp, hq, revisionCallId_inj] at h
      rw [← (p.valid.revision_valid revision hp).1, ← (q.valid.revision_valid revision' hq).1]
      exact ⟨h, rfl⟩

/-- The feedback channel is the one that is delivered to the revision call. -/
lemma feedbackChannelId_of_deliveries {revision revision' : HarnessRevision}
    (hp : p.revision = some revision) (hq : q.revision = some revision')
    (h : compileDeliveries p = compileDeliveries q) :
    revision.feedbackChannelId = revision'.feedbackChannelId := by
  obtain ⟨feedback, hmem, -, hid, -⟩ := feedbackChannel_of_revision hp
  have hdelivery : deliveryOf p feedback ∈ compileDeliveries q :=
    h ▸ mem_compileDeliveries.mpr ⟨feedback, hmem, rfl⟩
  obtain ⟨other, hother, heq⟩ := mem_compileDeliveries.mp hdelivery
  have hcall : (deliveryOf q other).consumerCallId = revisionCallId revision.actorId := by
    rw [heq, consumerCallId_of_feedback hp hid]
  have hnot : other ∉ primaryChannels q := by
    intro hprimary
    rw [consumerCallId_of_primary hprimary] at hcall
    exact absurd hcall initialCallId_ne_revisionCallId
  obtain ⟨found, hfound, hfid, -⟩ := feedback_of_not_primary hother hnot
  rw [hq, Option.some.injEq] at hfound
  subst hfound
  rw [← hid, ← hfid]
  exact (congrArg ArtifactDeliveryPlan.channelId heq).symm

variable {levelsP levelsQ : List (List String)} {planP planQ : CompositeRunPlan}

/-- The calls tell the initial calls and the instruction of the revision. -/
lemma calls_split (hsome : p.revision.isSome = q.revision.isSome)
    (h : compileCalls task p levelsP = compileCalls task q levelsQ) :
    initialCalls task p levelsP = initialCalls task q levelsQ ∧
      revisionCalls p = revisionCalls q := by
  have hlength : (revisionCalls p).length = (revisionCalls q).length := by
    cases hp : p.revision with
    | none =>
      have hq : q.revision = none := by simpa [hp] using hsome
      rw [revisionCalls_of_no_revision hp, revisionCalls_of_no_revision hq]
    | some revision =>
      obtain ⟨revision', hq⟩ := Option.isSome_iff_exists.mp
        (show q.revision.isSome = true by rw [← hsome, hp]; rfl)
      obtain ⟨_, _, _, hcalls⟩ := revisionCalls_of_revision hp
      obtain ⟨_, _, _, hcalls'⟩ := revisionCalls_of_revision hq
      rw [hcalls, hcalls']
      rfl
  exact List.append_inj' h hlength

lemma revision_of_calls (hfinal : p.finalActorId = q.finalActorId)
    (hsome : p.revision.isSome = q.revision.isSome)
    (hdeliveries : compileDeliveries p = compileDeliveries q)
    (hcalls : revisionCalls p = revisionCalls q) : p.revision = q.revision := by
  cases hp : p.revision with
  | none =>
    have hq : q.revision = none := by simpa [hp] using hsome
    exact hq.symm
  | some revision =>
    obtain ⟨revision', hq⟩ := Option.isSome_iff_exists.mp
      (show q.revision.isSome = true by rw [← hsome, hp]; rfl)
    obtain ⟨actor, -, -, hcallsP⟩ := revisionCalls_of_revision hp
    obtain ⟨actor', -, -, hcallsQ⟩ := revisionCalls_of_revision hq
    rw [hcallsP, hcallsQ, List.cons.injEq] at hcalls
    have hinstruction : revision.instruction = revision'.instruction :=
      Option.some.inj (congrArg ActorCallPlan.revisionInstruction hcalls.1)
    have hactor : revision.actorId = revision'.actorId := by
      rw [(p.valid.revision_valid revision hp).1, (q.valid.revision_valid revision' hq).1, hfinal]
    have hfeedback := feedbackChannelId_of_deliveries hp hq hdeliveries
    rw [hq, Option.some.injEq]
    cases revision
    cases revision'
    simp_all

/-- An initial call tells its actor. -/
lemma actor_of_initialCall {actor other : HarnessActor}
    (hdeliveries : compileDeliveries p = compileDeliveries q)
    (h : initialCall task p actor = initialCall task q other) : actor = other := by
  have hid : actor.actorId = other.actorId := congrArg ActorCallPlan.actorId h
  have hinstruction : actor.instruction = other.instruction :=
    congrArg ActorCallPlan.instruction h
  have htools : actor.toolIds = other.toolIds := congrArg ActorCallPlan.toolIds h
  have hshare : actor.budgetShareBps = other.budgetShareBps :=
    congrArg ActorCallPlan.budgetShareBps h
  have hview : actor.taskView = other.taskView := by
    have hreads : taskContextReads actor ++ artifactReads p (initialCallId actor.actorId) =
        taskContextReads other ++ artifactReads q (initialCallId other.actorId) :=
      congrArg ActorCallPlan.contextReads h
    -- the artifact reads come from the deliveries, which are the same
    have hartifacts : artifactReads p (initialCallId actor.actorId) =
        artifactReads q (initialCallId other.actorId) := by
      rw [artifactReads, artifactReads, hdeliveries, hid]
    rw [hartifacts, List.append_cancel_right_eq] at hreads
    exact List.map_injective_iff.mpr taskContextRead_injective hreads
  cases actor
  cases other
  simp_all

lemma actors_of_calls (hP : Levels p levelsP) (hQ : Levels q levelsQ)
    (hdeliveries : compileDeliveries p = compileDeliveries q)
    (hcalls : initialCalls task p levelsP = initialCalls task q levelsQ)
    (hids : actorIds p = actorIds q) : p.actors = q.actors := by
  have hsub : p.actors ⊆ q.actors := by
    intro actor hmem
    have hcall : initialCall task p actor ∈ initialCalls task q levelsQ :=
      hcalls ▸ (mem_initialCalls hP).mpr ⟨actor, hmem, rfl⟩
    obtain ⟨other, hother, heq⟩ := (mem_initialCalls hQ).mp hcall
    rwa [actor_of_initialCall hdeliveries heq.symm]
  refine eq_of_map_eq_map hids fun actor hactor other hother hid => ?_
  exact List.inj_on_of_nodup_map q.valid.actorIds_nodup (hsub hactor) hother hid

/-- The payload tells the protocol. -/
theorem protocol_of_semanticPayload (hP : Levels p levelsP) (hQ : Levels q levelsQ)
    (h : semanticPayload D task p dependencies levelsP =
      semanticPayload D task q dependencies levelsQ) : p = q := by
  have hcalls : compileCalls task p levelsP = compileCalls task q levelsQ :=
    congrArg SemanticPayload.actorCalls h
  have hdeliveries : compileDeliveries p = compileDeliveries q :=
    congrArg SemanticPayload.artifactDeliveries h
  have hfinalCall : finalCallId p = finalCallId q :=
    congrArg (·.termination.finalActorCallId) h
  have hshares : (p.actors.map fun actor => ActorBudgetSharePlan.mk actor.actorId
      actor.budgetShareBps) = q.actors.map fun actor => ⟨actor.actorId, actor.budgetShareBps⟩ :=
    congrArg (·.budgetLedger.actorShares) h
  have hids : actorIds p = actorIds q := by
    simpa [actorIds, Function.comp_def] using congrArg (List.map (·.actorId)) hshares
  obtain ⟨hfinal, hsome⟩ := final_of_finalCallId hfinalCall
  obtain ⟨hinitial, hrevisionCalls⟩ := calls_split hsome hcalls
  exact HarnessProtocol.ext (actors_of_calls hP hQ hdeliveries hinitial hids)
    (channels_of_deliveries hdeliveries)
    (revision_of_calls hfinal hsome hdeliveries hrevisionCalls) hfinal

/-- One protocol has one list of levels. -/
lemma Compiled.levels_eq {levels' : List (List String)} {plan' : CompositeRunPlan}
    (h : Compiled D task protocol dependencies levels plan)
    (h' : Compiled D task protocol dependencies levels' plan') : levels = levels' := by
  have htopology := h.topology.symm.trans h'.topology
  rwa [Except.ok.injEq] at htopology

/-- The payloads of two compiled protocols are equal if and only if the protocols are. -/
theorem payload_eq_iff
    (hp : compileCompositeRunPlan D metadata task p dependencies rejectP = .ok planP)
    (hq : compileCompositeRunPlan D metadata task q dependencies rejectQ = .ok planQ) :
    planP.toSemanticPayload = planQ.toSemanticPayload ↔ p = q := by
  obtain ⟨-, ⟨levelsP, hP⟩, -⟩ := compile_eq_ok_iff.mp hp
  obtain ⟨-, ⟨levelsQ, hQ⟩, -⟩ := compile_eq_ok_iff.mp hq
  constructor
  · intro h
    rw [hP.payload, hQ.payload] at h
    exact protocol_of_semanticPayload (levels_of_compileTopology hP.topology)
      (levels_of_compileTopology hQ.topology) h
  · rintro rfl
    rw [hP.payload, hQ.payload, hP.levels_eq hQ]

/-! ## Liveness -/

/-- The fields of a call that bindings name. -/
def callFields : List String :=
  ["actor_id", "instruction", "revision_instruction", "context_reads", "artifact_writes",
    "tool_ids", "budget_share_bps", "emits_final_patch"]

/-- The paths of the plan that a binding may name. -/
def planPaths (payload : SemanticPayload) : List String :=
  (payload.actorCalls.flatMap fun call => callFields.map (callPath · call.callId)) ++
  (payload.artifactDeliveries.flatMap fun delivery =>
    ["producer_call_id", "consumer_call_id"].map (deliveryPath delivery.channelId)) ++
  (payload.budgetLedger.actorShares.map fun share =>
    "budget_ledger.actor_shares[" ++ share.actorId ++ "].budget_share_bps") ++
  ["termination.final_actor_call_id"]

/-- What is asked of a binding: it names parts of the plan. -/
def Consumed (payload : SemanticPayload) (b : ConsumedFieldBinding) : Prop :=
  ∀ path ∈ b.planConsumerPaths, path ∈ planPaths payload

section Bindings

variable {payload : SemanticPayload}

lemma callPath_mem {callId field : String}
    (hcall : ∃ call ∈ payload.actorCalls, call.callId = callId) (hfield : field ∈ callFields) :
    callPath field callId ∈ planPaths payload := by
  obtain ⟨call, hmem, rfl⟩ := hcall
  unfold planPaths
  simp only [List.mem_append, List.mem_flatMap]
  exact .inl (.inl (.inl ⟨call, hmem, List.mem_map.mpr ⟨field, hfield, rfl⟩⟩))

lemma deliveryPath_mem {channelId field : String}
    (hdelivery : ∃ delivery ∈ payload.artifactDeliveries, delivery.channelId = channelId)
    (hfield : field ∈ ["producer_call_id", "consumer_call_id"]) :
    deliveryPath channelId field ∈ planPaths payload := by
  obtain ⟨delivery, hmem, rfl⟩ := hdelivery
  unfold planPaths
  simp only [List.mem_append, List.mem_flatMap]
  exact .inl (.inl (.inr ⟨delivery, hmem, List.mem_map.mpr ⟨field, hfield, rfl⟩⟩))

lemma sharePath_mem {actorId : String}
    (hshare : ∃ share ∈ payload.budgetLedger.actorShares, share.actorId = actorId) :
    "budget_ledger.actor_shares[" ++ actorId ++ "].budget_share_bps" ∈ planPaths payload := by
  obtain ⟨share, hmem, rfl⟩ := hshare
  unfold planPaths
  simp only [List.mem_append]
  exact .inl (.inr (List.mem_map.mpr ⟨share, hmem, rfl⟩))

lemma consumed_actorBindings {actor : HarnessActor}
    (hshare : ∃ share ∈ payload.budgetLedger.actorShares, share.actorId = actor.actorId) :
    ∀ b ∈ actorBindings D payload.actorCalls actor, Consumed payload b := by
  have hcalls : ∀ field ∈ callFields,
      ∀ path ∈ ((payload.actorCalls.filter (·.actorId = actor.actorId)).map (·.callId)).map
        (callPath field), path ∈ planPaths payload := by
    intro field hfield path hpath
    simp only [List.map_map, List.mem_map, List.mem_filter] at hpath
    obtain ⟨call, ⟨hcall, -⟩, rfl⟩ := hpath
    exact callPath_mem ⟨call, hcall, rfl⟩ hfield
  intro b hb
  simp only [actorBindings, List.mem_cons, List.not_mem_nil, or_false] at hb
  rcases hb with rfl | rfl | rfl | rfl
  · exact hcalls "context_reads" (by simp [callFields])
  · exact hcalls "instruction" (by simp [callFields])
  · exact hcalls "tool_ids" (by simp [callFields])
  · intro path hpath
    rcases List.mem_cons.mp hpath with rfl | hpath
    · exact sharePath_mem hshare
    · exact hcalls "budget_share_bps" (by simp [callFields]) path hpath

lemma consumed_channelBindings {channel : HarnessArtifactChannel}
    (hdelivery : deliveryOf p channel ∈ payload.artifactDeliveries)
    (hproducer : ∃ call ∈ payload.actorCalls,
      call.callId = (deliveryOf p channel).producerCallId)
    (hconsumer : ∃ call ∈ payload.actorCalls,
      call.callId = (deliveryOf p channel).consumerCallId) :
    ∀ b ∈ channelBindings D p channel, Consumed payload b := by
  have hpath : ∀ field ∈ ["producer_call_id", "consumer_call_id"],
      deliveryPath channel.channelId field ∈ planPaths payload :=
    fun field hfield => deliveryPath_mem ⟨_, hdelivery, rfl⟩ hfield
  have hwrites := @callPath_mem payload _ "artifact_writes" hproducer (by simp [callFields])
  have hreads := @callPath_mem payload _ "context_reads" hconsumer (by simp [callFields])
  intro b hb
  simp only [channelBindings, List.mem_cons, List.not_mem_nil, or_false] at hb
  rcases hb with rfl | rfl
  · exact List.forall_mem_cons.mpr
      ⟨hpath "producer_call_id" (by simp), List.forall_mem_singleton.mpr hwrites⟩
  · exact List.forall_mem_cons.mpr
      ⟨hpath "consumer_call_id" (by simp), List.forall_mem_singleton.mpr hreads⟩

lemma consumed_revisionBindings {revision : HarnessRevision}
    (hdelivery : ∃ delivery ∈ payload.artifactDeliveries,
      delivery.channelId = revision.feedbackChannelId)
    (hcall : ∃ call ∈ payload.actorCalls, call.callId = revisionCallId revision.actorId) :
    ∀ b ∈ revisionBindings D revision, Consumed payload b := by
  have hpath : ∀ field ∈ callFields,
      callPath field (revisionCallId revision.actorId) ∈ planPaths payload :=
    fun field hfield => callPath_mem hcall hfield
  have hfeedback := deliveryPath_mem hdelivery (List.mem_cons_of_mem _ List.mem_cons_self)
  intro b hb
  simp only [revisionBindings, List.mem_cons, List.not_mem_nil, or_false] at hb
  rcases hb with rfl | rfl | rfl
  · exact List.forall_mem_singleton.mpr (hpath "actor_id" (by simp [callFields]))
  · exact List.forall_mem_cons.mpr ⟨hfeedback,
      List.forall_mem_singleton.mpr (hpath "context_reads" (by simp [callFields]))⟩
  · exact List.forall_mem_singleton.mpr (hpath "revision_instruction" (by simp [callFields]))

lemma consumed_terminationBinding {call : ActorCallPlan} (hcall : call ∈ payload.actorCalls) :
    Consumed payload (terminationBinding D p call.callId) := by
  have htermination : "termination.final_actor_call_id" ∈ planPaths payload := by
    unfold planPaths
    simp only [List.mem_append]
    exact .inr (List.mem_singleton.mpr rfl)
  have hpatch := @callPath_mem payload _ "emits_final_patch" ⟨call, hcall, rfl⟩
    (by simp [callFields])
  exact List.forall_mem_cons.mpr ⟨htermination, List.forall_mem_singleton.mpr hpatch⟩

end Bindings

/-- Every binding that the compiler makes names parts of the plan. -/
lemma consumed_compileBindings (hlevels : Levels p levels) {final : ActorCallPlan}
    (hfinal : final ∈ compileCalls task p levels) :
    ∀ b ∈ compileBindings D p (compileCalls task p levels) final.callId,
      Consumed (semanticPayload D task p dependencies levels) b := by
  have hdelivery : ∀ channel ∈ p.artifactChannels, deliveryOf p channel ∈
      (semanticPayload D task p dependencies levels).artifactDeliveries :=
    fun channel hmem => mem_compileDeliveries.mpr ⟨channel, hmem, rfl⟩
  intro b hb
  simp only [compileBindings, List.mem_append, List.mem_flatMap, List.mem_singleton,
    Option.mem_toList] at hb
  rcases hb with ((⟨actor, hactor, hb⟩ | ⟨channel, hchannel, hb⟩) | ⟨revision, hrevision, hb⟩) | rfl
  · exact consumed_actorBindings ⟨_, List.mem_map.mpr ⟨actor, hactor, rfl⟩, rfl⟩ b hb
  · exact consumed_channelBindings (hdelivery channel hchannel) (exists_producerCall task hlevels hchannel)
      (exists_consumerCall task hlevels hchannel) b hb
  · obtain ⟨feedback, hmem, -, hid, -⟩ := feedbackChannel_of_revision hrevision
    have hcall := exists_consumerCall task hlevels hmem
    rw [consumerCallId_of_feedback hrevision hid] at hcall
    exact consumed_revisionBindings ⟨_, hdelivery feedback hmem, hid⟩ hcall b hb
  · exact consumed_terminationBinding hfinal

lemma sortedUnique_eq_nil {texts : List String} (h : sortedUnique texts = []) : texts = [] := by
  have hlength := congrArg List.length h
  rw [sortedUnique, List.length_insertionSort, List.length_nil, List.length_eq_zero_iff] at hlength
  cases texts with
  | nil => rfl
  | cons text rest =>
    have hmem : text ∈ (text :: rest).dedup := List.mem_dedup.mpr List.mem_cons_self
    simp [hlength] at hmem

/-- Every mutable field has a binding, and every binding names parts of the plan. -/
theorem mutable_fields_consumed (h : Compiled D task p dependencies levels plan) :
    ∀ path ∈ p.mutableFieldPaths, ∃ b ∈ plan.livenessManifest.bindings, b.sourcePath = path ∧
      b.planConsumerPaths ≠ [] ∧ Consumed plan.toSemanticPayload b := by
  have hlive := h.liveness
  unfold compileLivenessManifest at hlive
  cases hfind : (compileCalls task p levels).find? (·.emitsFinalPatch) with
  | none => simp [hfind] at hlive
  | some final =>
    simp only [hfind, bind_eq_ok_iff, raiseIf_eq_ok_iff, forM_eq_ok_iff, pure_eq_ok,
      Except.ok.injEq, not_or, not_not] at hlive
    obtain ⟨_, hnonempty, _, -, _, ⟨hmissing, -⟩, hmanifest⟩ := hlive
    rw [← hmanifest, h.payload]
    intro path hpath
    have hcovered : path ∈ (compileBindings D p (compileCalls task p levels) final.callId).map
        (·.sourcePath) := by
      by_contra hnot
      have hmem : path ∈ p.mutableFieldPaths.filter (· ∉ (compileBindings D p
          (compileCalls task p levels) final.callId).map (·.sourcePath)) :=
        List.mem_filter.mpr ⟨hpath, decide_eq_true hnot⟩
      rw [sortedUnique_eq_nil hmissing] at hmem
      simp at hmem
    obtain ⟨b, hb, hsource⟩ := List.mem_map.mp hcovered
    refine ⟨b, hb, hsource, hnonempty b hb, ?_⟩
    exact consumed_compileBindings (levels_of_compileTopology h.topology)
      (List.mem_of_find?_eq_some hfind) b hb

/-- Otherwise the digest makes no difference. -/
theorem compile_of_ne {digest : String}
    (h : compileCompositeRunPlan D metadata task protocol dependencies reject = .ok plan)
    (hne : digest ≠ plan.compiledSemanticDigest) :
    compileCompositeRunPlan D metadata task protocol dependencies (some digest) = .ok plan := by
  obtain ⟨hdependencies, hcompiled, -⟩ := compile_eq_ok_iff.mp h
  exact compile_eq_ok_iff.mpr ⟨hdependencies, hcompiled, fun heq => hne (Option.some.inj heq)⟩

/-! ## No inert mutation, no false no-op -/

/-- What `reject_semantic_digest` and `assert_semantic_change` raise. -/
def inert : CompileError := .inertProtocol "candidate protocol compiles to an exact semantic no-op"

/-- Under a digest that tells the two payloads apart, a compiled child is refused as a no-op exactly
when it is its parent. -/
theorem refused_iff
    (hp : compileCompositeRunPlan D metadata task p dependencies rejectP = .ok planP)
    (hq : compileCompositeRunPlan D metadata task q dependencies rejectQ = .ok planQ)
    (hdigest : Distinguishes D.plan planP.toSemanticPayload planQ.toSemanticPayload) :
    planP.compiledSemanticDigest = planQ.compiledSemanticDigest ↔ p = q := by
  obtain ⟨-, ⟨_, hP⟩, -⟩ := compile_eq_ok_iff.mp hp
  obtain ⟨-, ⟨_, hQ⟩, -⟩ := compile_eq_ok_iff.mp hq
  rw [hP.semanticDigest, hQ.semanticDigest]
  constructor
  · intro h
    exact (payload_eq_iff hp hq).mp (hdigest h)
  · intro h
    rw [(payload_eq_iff hp hq).mpr h]

lemma assertSemanticChange_eq_inert_iff
    (htask : planP.taskEnvelopeDigest = planQ.taskEnvelopeDigest)
    (hdependencies : planP.dependencyManifestDigest = planQ.dependencyManifestDigest) :
    assertSemanticChange planP planQ = .error inert ↔
      planP.compiledSemanticDigest = planQ.compiledSemanticDigest := by
  simp [assertSemanticChange, htask, hdependencies, inert]

/-- For one task and one manifest, compiled protocols have equal payloads exactly when they are
equal, they are refused as no-ops exactly when they are equal, and each of their mutable fields is
consumed. -/
theorem no_inert_mutation_no_false_noop {planP planQ : CompositeRunPlan}
    {rejectP rejectQ : Option String}
    (hp : compileCompositeRunPlan D metadata task p dependencies rejectP = .ok planP)
    (hq : compileCompositeRunPlan D metadata task q dependencies rejectQ = .ok planQ) :
    (planP.toSemanticPayload = planQ.toSemanticPayload ↔ p = q) ∧
      (Distinguishes D.plan planP.toSemanticPayload planQ.toSemanticPayload →
        (compileCompositeRunPlan D metadata task q dependencies
          (some planP.compiledSemanticDigest) = .error inert ↔ p = q) ∧
        (assertSemanticChange planP planQ = .error inert ↔ p = q)) ∧
      ∀ path ∈ p.mutableFieldPaths, ∃ b ∈ planP.livenessManifest.bindings, b.sourcePath = path ∧
        b.planConsumerPaths ≠ [] ∧ Consumed planP.toSemanticPayload b := by
  obtain ⟨-, ⟨_, hP⟩, -⟩ := compile_eq_ok_iff.mp hp
  obtain ⟨-, ⟨_, hQ⟩, -⟩ := compile_eq_ok_iff.mp hq
  refine ⟨payload_eq_iff hp hq, fun hdigest => ⟨?_, ?_⟩, mutable_fields_consumed hP⟩
  · rw [← refused_iff hp hq hdigest]
    constructor
    · intro hrefused
      by_contra hne
      rw [compile_of_ne hq hne] at hrefused
      simp at hrefused
    · intro heq
      rw [heq]
      exact compile_reject hq
  · rw [← refused_iff hp hq hdigest]
    have hpayload := congrArg SemanticPayload.taskEnvelopeDigest hP.payload
    have hpayload' := congrArg SemanticPayload.taskEnvelopeDigest hQ.payload
    have hmanifest := congrArg SemanticPayload.dependencyManifestDigest hP.payload
    have hmanifest' := congrArg SemanticPayload.dependencyManifestDigest hQ.payload
    exact assertSemanticChange_eq_inert_iff (hpayload.trans hpayload'.symm)
      (hmanifest.trans hmanifest'.symm)

/-! ## A task to compile for -/

def sampleCeilings : TaskCeilings where
  maxModelCalls := 4
  maxInputTokens := 1000
  maxOutputTokens := 1000
  maxCachedTokens := 0
  maxCacheWriteTokens := 0
  maxToolCalls := 8
  maxToolOutputBytes := 4096
  maxArtifactBytes := 4096
  maxPatchBytes := 4096
  maxRetries := 0
  maxWallTimeMs := 1000
  providerDeadlineMs := 1000
  maxKnownCostUsd := 1
  maxEstimatedCostUsd := 1
  positive := by decide
  knownCost_nonneg := by decide
  deadline_le := by decide
  knownCost_le := by decide

/-- A task whose reproduction runs one command. -/
def sampleTask (argv : List String) (h : argv ≠ [] ∧ ∀ part ∈ argv, strip part ≠ "") :
    TaskEnvelope where
  runtimeContractVersion := "1"
  taskManifestId := "task"
  taskManifestDigest := "task digest"
  epochId := "epoch"
  epochManifestDigest := "epoch digest"
  dataState := .development
  splitManifestDigest := "split digest"
  issue := "It fails."
  workspaceSnapshot := ⟨"snapshot", "file:///snapshot", "snapshot digest"⟩
  publicReproduction :=
    [{ stepId := "run", argv := argv, cwd := ".", timeoutMs := 1000, expectedExitCodes := [0]
       stepId_stripped := by decide +kernel
       argv_nonempty := h
       cwd_stripped := by decide +kernel
       timeout_pos := by decide
       exitCodes := by decide }]
  ceilings := sampleCeilings
  reproduction_nonempty := by simp
  stepIds_nodup := by simp

def sampleDependencies : RuntimeDependencyManifest where
  runtimeContractVersion := "1"
  compiler := ⟨"agintor.composite_compiler", "1", "compiler digest"⟩
  harnessContract := ⟨"agintor.harness_protocol", "repo-repair-harness-v1", "contract digest"⟩
  kernel := ⟨"agintor.kernel", "1", "kernel digest"⟩
  trustedTools := [.diff, .edit, .publicTest, .read, .search].map fun toolId =>
    ⟨toolId, "1", "tool digest", "policy digest"⟩
  tools_nodup := by decide
  tools_sorted := by decide +kernel

def sampleActor (actorId instruction : String) (share : ℕ) (hid : isIdentifier actorId = true)
    (hinstruction : isTrimmedText instruction = true) (hshare : 0 < share ∧ share ≤ 10000) :
    HarnessActor where
  actorId := actorId
  taskView := [.issue, .workspace]
  instruction := instruction
  toolIds := [.edit, .read]
  budgetShareBps := share
  actorId_identifier := hid
  taskView_valid := by decide
  instruction_valid := hinstruction
  toolIds_valid := by decide
  toolIds_sorted := by decide +kernel
  share_valid := hshare

/-- A fixer whose draft is reviewed, and who revises it. -/
def reviewProtocol (instruction : String) (h : isTrimmedText instruction = true) :
    HarnessProtocol where
  actors :=
    [sampleActor "fixer" "Fix the fault." 6000 (by decide +kernel) (by decide +kernel) (by decide),
      sampleActor "critic" "Review the draft." 4000 (by decide +kernel) (by decide +kernel)
        (by decide)]
  artifactChannels :=
    [⟨"draft", "fixer", "critic", by decide +kernel, by decide⟩,
      ⟨"review", "critic", "fixer", by decide +kernel, by decide⟩]
  revision := some ⟨"fixer", "review", instruction, by decide +kernel, h⟩
  finalActorId := "fixer"
  finalActorId_identifier := by decide +kernel
  valid :=
    { actors_nonempty := by simp
      actorIds_nodup := by decide +kernel
      shares_sum := by decide
      final_mem := by decide +kernel
      channelIds_nodup := by decide +kernel
      endpoints_mem := by decide +kernel
      revision_valid := by
        intro revision hrevision
        obtain rfl := Option.some.inj hrevision
        exact ⟨rfl, _, List.mem_cons_of_mem _ List.mem_cons_self, rfl, rfl⟩ }

/-- Digests that count: sixty-four hexadecimal digits. -/
def sampleDigests : HarnessDigests where
  protocol protocol := zeroPad 64 protocol.actors.length
  manifest dependencies := zeroPad 64 dependencies.trustedTools.length
  plan payload := zeroPad 64 ((payload.actorCalls.map fun call =>
    call.instruction.length + (call.revisionInstruction.getD "").length).sum)
  sourceField
    | .taskView fields => zeroPad 64 fields.length
    | .tools toolIds => zeroPad 64 toolIds.length
    | .text value => zeroPad 64 value.length
    | .number value => zeroPad 64 value

theorem pytest_argv : (["pytest"] : List String) ≠ [] ∧ ∀ part ∈ ["pytest"], strip part ≠ "" := by
  decide +kernel

/-- The plan of the sample task for a protocol. -/
def samplePlan (protocol : HarnessProtocol) : Except CompileError CompositeRunPlan :=
  compileCompositeRunPlan sampleDigests {} (sampleTask ["pytest"] pytest_argv) protocol
    sampleDependencies none

theorem reviseDraft_trimmed : isTrimmedText "Revise the draft." = true := by decide +kernel

theorem samplePlan_reviseDraft :
    (samplePlan (reviewProtocol "Revise the draft." reviseDraft_trimmed)).toBool = true := by
  decide +kernel

/-- Two protocols that differ in what the reviser is told. -/
theorem no_inert_mutation_no_false_noop_review :
    ∃ planP planQ : CompositeRunPlan, planP.toSemanticPayload ≠ planQ.toSemanticPayload ∧
      samplePlan (reviewProtocol "Revise the draft." reviseDraft_trimmed) = .ok planP ∧
      samplePlan (reviewProtocol "Answer the review." (by decide +kernel)) = .ok planQ ∧
      assertSemanticChange planP planQ ≠ .error inert := by
  obtain ⟨planP, hp⟩ := exists_of_toBool samplePlan_reviseDraft
  obtain ⟨planQ, hq⟩ := exists_of_toBool (x := samplePlan
    (reviewProtocol "Answer the review." (by decide +kernel))) (by decide +kernel)
  have hne : (reviewProtocol "Revise the draft." reviseDraft_trimmed) ≠
      reviewProtocol "Answer the review." (by decide +kernel) := by decide +kernel
  have hdigests : (samplePlan (reviewProtocol "Revise the draft." reviseDraft_trimmed)).map
        (fun plan => sampleDigests.plan plan.toSemanticPayload) ≠
      (samplePlan (reviewProtocol "Answer the review." (by decide +kernel))).map
        (fun plan => sampleDigests.plan plan.toSemanticPayload) := by decide +kernel
  rw [hp, hq] at hdigests
  obtain ⟨hpayload, hrefused, -⟩ := no_inert_mutation_no_false_noop hp hq
  have hdistinct : Distinguishes sampleDigests.plan planP.toSemanticPayload
      planQ.toSemanticPayload := fun h => absurd (congrArg Except.ok h) hdigests
  exact ⟨planP, planQ, fun h => hne (hpayload.mp h), hp, hq,
    fun h => hne ((hrefused hdistinct).2.mp h)⟩

end Agintor.Compiler
