import Agintor.Compiler.CompositeCompilerTheorems
import Agintor.Kernel.CompositeRuntime

/-!
# Compiled plans are runnable

The runtime checks a plan against its task a second time. A compiled plan passes every one of
these checks, and those of the artifact store, except that the plan's model class strips the
arguments of the public reproduction and the task's does not.
-/

namespace Agintor.Kernel

open Agintor.Contracts Agintor.Core Agintor.Compiler Lib

variable {D : HarnessDigests} {task : TaskEnvelope} {protocol : HarnessProtocol}
  {dependencies : RuntimeDependencyManifest} {levels : List (List String)}
  {plan : CompositeRunPlan}

/-! ## The parts of a compiled plan -/

section Parts

variable (h : Compiled D task protocol dependencies levels plan)
include h

lemma actorCalls_eq : plan.actorCalls = compileCalls task protocol levels :=
  congrArg SemanticPayload.actorCalls h.payload

lemma stages_eq : plan.stages = compileStages protocol levels :=
  congrArg SemanticPayload.stages h.payload

lemma deliveries_eq : plan.artifactDeliveries = compileDeliveries protocol :=
  congrArg SemanticPayload.artifactDeliveries h.payload

lemma finalActorCallId_eq : plan.termination.finalActorCallId = finalCallId protocol :=
  congrArg (·.termination.finalActorCallId) h.payload

lemma levels_of_compiled : Levels protocol levels := levels_of_compileTopology h.topology

variable {revision : HarnessRevision} {call : ActorCallPlan}

/-- A call of the plan is the first call of an actor or the revision. -/
lemma call_cases (hcall : call ∈ plan.actorCalls) :
    (∃ actor ∈ protocol.actors, initialCall task protocol actor = call) ∨
      ∃ revision, protocol.revision = some revision ∧ ∃ actor ∈ protocol.actors,
        actor.actorId = revision.actorId ∧
          revisionCall protocol actor revision.instruction = call := by
  rwa [actorCalls_eq h, mem_compileCalls (levels_of_compiled h), mem_revisionCalls] at hcall

lemma callIds_nodup : (plan.actorCalls.map (·.callId)).Nodup := by
  have href := h.references
  simp only [validatePlanReferences, bind_eq_ok_iff, raiseIf_eq_ok_iff, not_not] at href
  obtain ⟨_, hnodup, -⟩ := href
  exact hnodup

lemma staged_eq : plan.stages.flatMap (·.callIds) = plan.actorCalls.map (·.callId) := by
  rw [stages_eq h, actorCalls_eq h]
  exact flatMap_callIds (levels_of_compiled h)

lemma stage_number {i : ℕ} {stage : CompositePlanStage} (hs : plan.stages[i]? = some stage) :
    stage.stageIndex = i ∧ stage.stageId = stageId i := by
  rw [stages_eq h] at hs
  exact stage_numbered hs

/-- A call is found by its id. -/
lemma callsById_get? {callId : String} :
    (callsById plan).get? callId = some call ↔ call ∈ plan.actorCalls ∧ call.callId = callId := by
  unfold callsById
  rw [Dict.get?_foldl_set (callIds_nodup h)]
  constructor
  · rintro ⟨found, hmem, hid, rfl⟩
    exact ⟨hmem, hid⟩
  · rintro ⟨hmem, hid⟩
    exact ⟨call, hmem, hid, rfl⟩

/-- The position of a call is the number of its stage. -/
lemma callPositions_get? {callId : String} {i : ℕ} :
    (callPositions plan).get? callId = some i ↔
      ∃ stage, plan.stages[i]? = some stage ∧ callId ∈ stage.callIds := by
  have hnodup : ((plan.stages.flatMap fun stage =>
      stage.callIds.map (·, stage.stageIndex)).map Prod.fst).Nodup := by
    have hfst : (plan.stages.flatMap fun stage =>
        stage.callIds.map (·, stage.stageIndex)).map Prod.fst =
          plan.actorCalls.map (·.callId) := by
      rw [List.map_flatMap, ← staged_eq h]
      simp [Function.comp_def]
    rw [hfst]
    exact callIds_nodup h
  unfold callPositions
  rw [Dict.get?_foldl_set hnodup]
  simp only [List.mem_flatMap, List.mem_map]
  constructor
  · rintro ⟨_, ⟨stage, hstage, id, hid, rfl⟩, rfl, rfl⟩
    obtain ⟨j, hj⟩ := List.mem_iff_getElem?.mp hstage
    have hnumber := (stage_number h (hj)).1
    exact ⟨stage, hnumber ▸ hj, hid⟩
  · rintro ⟨stage, hstage, hid⟩
    have hnumber := (stage_number h (hstage)).1
    exact ⟨_, ⟨stage, List.mem_of_getElem? hstage, callId, hid, rfl⟩, rfl, hnumber⟩

lemma position_initialCall {actorId : String} (hactor : actorId ∈ actorIds protocol) :
    (callPositions plan).get? (initialCallId actorId) = some (layerOf levels actorId) := by
  obtain ⟨level, hlevel, hmem⟩ := (levels_of_compiled h).mem_layerOf hactor
  have hstage : plan.stages[layerOf levels actorId]? =
      some (levelStage protocol levels (layerOf levels actorId) level) := by
    rw [stages_eq h]
    exact getElem?_compileStages_of_lt hlevel
  exact (callPositions_get? h).mpr ⟨_, hstage, List.mem_map_of_mem hmem⟩

lemma position_revisionCall (hrevision : protocol.revision = some revision) :
    (callPositions plan).get? (revisionCallId revision.actorId) = some levels.length := by
  obtain ⟨feedback, -, hfeedback, -⟩ := feedbackChannel_of_revision hrevision
  have hstage : ∃ stage, plan.stages[levels.length]? = some stage ∧
      revisionCallId revision.actorId ∈ stage.callIds := by
    rw [stages_eq h, compileStages, List.getElem?_append_right (by simp), List.length_mapIdx]
    simp [revisionStages, hrevision, hfeedback]
  exact (callPositions_get? h).mpr hstage

/-- The initial call of the reviser is earlier than the revision call. -/
lemma earlier_revision (hrevision : protocol.revision = some revision) :
    earlier (callPositions plan) (initialCallId revision.actorId)
      (revisionCallId revision.actorId) = true := by
  have hactor : revision.actorId ∈ actorIds protocol := by
    rw [(protocol.valid.revision_valid revision hrevision).1]
    exact protocol.valid.final_mem
  have hlt := (levels_of_compiled h).layerOf_lt hactor
  rw [earlier, position_initialCall h hactor, position_revisionCall h hrevision]
  exact decide_eq_true hlt

end Parts

/-! ## Stages -/

variable {calls : Dict String ActorCallPlan}

/-- New, known calls can be scheduled. -/
lemma scheduleCalls_ok (stage : CompositePlanStage) {callIds : List String}
    {callStage : Dict String String} (hknown : ∀ callId ∈ callIds, calls.contains callId = true)
    (hnew : (callStage.keys ++ callIds).Nodup) :
    ∃ callStage' : Dict String String,
      callIds.foldlM (scheduleCall calls stage) callStage = .ok callStage' ∧
        callStage'.keys = callStage.keys ++ callIds := by
  induction callIds generalizing callStage with
  | nil => exact ⟨callStage, rfl, (List.append_nil _).symm⟩
  | cons callId rest ih =>
    have hfresh : callId ∉ callStage.keys := by
      intro hmem
      rw [List.nodup_append] at hnew
      exact hnew.2.2 _ hmem _ List.mem_cons_self rfl
    have hkeys : (callStage.set callId stage.stageId).keys = callStage.keys ++ [callId] := by
      simp [Dict.keys, Dict.entries_set_of_not_mem hfresh]
    have hrest : ((callStage.set callId stage.stageId).keys ++ rest).Nodup := by
      simpa [hkeys] using hnew
    obtain ⟨callStage', hfold, hall⟩ :=
      ih (fun id hid => hknown id (List.mem_cons_of_mem _ hid)) hrest
    refine ⟨callStage', ?_, by simpa [hkeys] using hall⟩
    have hcontains : callStage.contains callId ≠ true := fun hc =>
      hfresh (Dict.contains_iff_mem_keys.mp hc)
    rw [List.foldlM_cons, scheduleCall, raiseIf_neg (by simp [hknown callId List.mem_cons_self]),
      ok_bind, raiseIf_neg hcontains, ok_bind, pure_eq_ok, ok_bind, hfold]

/-- Stages that are numbered from `k` on, depend on earlier ones and hold known calls, each once,
are accepted. -/
lemma scanStages_ok {stages : List CompositePlanStage} {k : ℕ} {scan : StageScan}
    (hindex : ∀ i stage, stages[i]? = some stage → stage.stageIndex = k + i)
    (hdepends : ∀ (i : ℕ) (stage : CompositePlanStage), stages[i]? = some stage →
      ∀ id ∈ stage.dependsOnStageIds, id ∈ scan.completed ∨
        ∃ j < i, ∃ before : CompositePlanStage, stages[j]? = some before ∧ id = before.stageId)
    (hknown : ∀ callId ∈ stages.flatMap (·.callIds), calls.contains callId = true)
    (hnew : (scan.callStage.keys ++ stages.flatMap (·.callIds)).Nodup) :
    ∃ scan', (stages.zipIdx k).foldlM (scanStage calls) scan = .ok scan' := by
  induction stages generalizing k scan with
  | nil => exact ⟨scan, rfl⟩
  | cons stage rest ih =>
    rw [List.flatMap_cons, ← List.append_assoc] at hnew
    have hstage : (stage :: rest)[0]? = some stage := rfl
    obtain ⟨callStage, hschedule, hkeys⟩ := scheduleCalls_ok stage
      (fun id hid => hknown id (by simp [hid])) hnew.of_append_left
    have hdep : stage.dependsOnStageIds ⊆ scan.completed := by
      intro id hid
      rcases hdepends 0 stage hstage id hid with hc | ⟨j, hj, -⟩
      · exact hc
      · omega
    have hnumber : stage.stageIndex = k := hindex 0 stage hstage
    have hstep : scanStage calls scan (stage, k) =
        .ok { completed := stage.stageId :: scan.completed, callStage := callStage } := by
      simp only [scanStage]
      rw [raiseIf_neg (not_not.mpr hnumber), ok_bind,
        raiseIf_neg (not_not.mpr hdep), ok_bind, hschedule, ok_bind, pure_eq_ok]
    rw [List.zipIdx_cons, List.foldlM_cons, hstep, ok_bind]
    apply ih
    · intro i s hs
      have hnumber := hindex (i + 1) s hs
      omega
    · intro i s hs id hid
      rcases hdepends (i + 1) s hs id hid with hc | ⟨j, hj, before, hbefore, rfl⟩
      · exact .inl (List.mem_cons_of_mem _ hc)
      · cases j with
        | zero =>
          rw [List.getElem?_cons_zero, Option.some.injEq] at hbefore
          exact .inl (hbefore ▸ List.mem_cons_self)
        | succ j =>
          exact .inr ⟨j, by omega, before, hbefore, rfl⟩
    · exact fun id hid => hknown id (by simp [hid])
    · simpa [hkeys] using hnew

section Checks

variable (h : Compiled D task protocol dependencies levels plan)
include h

lemma validateStages_ok : ∃ callStage, validateStages plan = .ok callStage := by
  have hids : (plan.stages.map (·.stageId)).Nodup := by
    rw [List.nodup_iff_getElem?_ne_getElem?]
    intro i j hij hj heq
    rw [List.length_map] at hj
    have hgeti := List.getElem?_eq_getElem (hij.trans hj)
    have hgetj := List.getElem?_eq_getElem hj
    rw [List.getElem?_map, List.getElem?_map, hgeti, hgetj, Option.map_some, Option.map_some,
      Option.some.injEq, (stage_number h (hgeti)).2,
      (stage_number h (hgetj)).2] at heq
    have hlt := stageId_injective heq
    omega
  have hknown : ∀ callId ∈ plan.stages.flatMap (·.callIds),
      (callsById plan).contains callId = true := by
    intro callId hid
    rw [staged_eq h, List.mem_map] at hid
    obtain ⟨call, hcall, hid⟩ := hid
    rw [Dict.contains, (callsById_get? h).mpr ⟨hcall, hid⟩]
    rfl
  have hindex : ∀ i stage, plan.stages[i]? = some stage → stage.stageIndex = 0 + i := by
    intro i stage hs
    rw [(stage_number h (hs)).1, Nat.zero_add]
  have hdepends : ∀ (i : ℕ) (stage : CompositePlanStage), plan.stages[i]? = some stage →
      ∀ id ∈ stage.dependsOnStageIds, id ∈ ({} : StageScan).completed ∨
        ∃ j < i, ∃ before : CompositePlanStage,
          plan.stages[j]? = some before ∧ id = before.stageId := by
    intro i stage hs id hid
    obtain ⟨j, hj, rfl⟩ := dependsOn_earlier (levels_of_compiled h) (stages_eq h ▸ hs) id hid
    have hlt : j < plan.stages.length := hj.trans (List.getElem?_eq_some_iff.mp hs).1
    have hget := List.getElem?_eq_getElem hlt
    exact .inr ⟨j, hj, _, hget, (stage_number h (hget)).2.symm⟩
  have hnew : (({} : StageScan).callStage.keys ++ plan.stages.flatMap (·.callIds)).Nodup := by
    rw [staged_eq h]
    exact callIds_nodup h
  obtain ⟨scan, hscan⟩ := scanStages_ok hindex hdepends hknown hnew
  refine ⟨scan.callStage, ?_⟩
  rw [validateStages, raiseIf_neg (not_not.mpr hids), ok_bind, hscan]
  rfl

lemma validateIdentity_ok {scratchWorkspace : ScratchWorkspaceBinding}
    (hscratch : scratchWorkspace.workspaceDigest = task.workspaceSnapshot.digest) :
    validateIdentity plan task scratchWorkspace = .ok () := by
  have htask : plan.taskEnvelopeDigest = task.taskManifestDigest :=
    congrArg SemanticPayload.taskEnvelopeDigest h.payload
  have hceiling : plan.budgetLedger.aggregateCeiling = task.ceilings :=
    congrArg (·.budgetLedger.aggregateCeiling) h.payload
  have hscheduled : plan.budgetLedger.scheduledModelCalls = plan.actorCalls.length := by
    rw [actorCalls_eq h]
    exact congrArg (·.budgetLedger.scheduledModelCalls) h.payload
  simp only [validateIdentity, htask, hceiling, hscratch, hscheduled, ne_eq, not_true_eq_false]
  rfl

variable {call : ActorCallPlan} {read : ContextReadPlan} {actor : HarnessActor} {callId : String}

/-- One call emits the final patch: the one the plan ends with. -/
lemma emitsFinalPatch_iff (hcall : call ∈ plan.actorCalls) :
    call.emitsFinalPatch = true ↔ call.callId = plan.termination.finalActorCallId := by
  rw [finalActorCallId_eq h]
  rcases call_cases h hcall with ⟨actor, -, rfl⟩ | ⟨revision, hrev, actor, -, hid, rfl⟩
  · cases hrev : protocol.revision with
    | none => simp [initialCall, finalCallId, hrev]
    | some revision => simp [initialCall, finalCallId, hrev]
  · simp [revisionCall, finalCallId, hrev, hid]

lemma finalActorCallId_mem :
    plan.termination.finalActorCallId ∈ plan.actorCalls.map (·.callId) := by
  have href := h.references
  simp only [validatePlanReferences, bind_eq_ok_iff, raiseIf_eq_ok_iff, not_not] at href
  obtain ⟨_, -, _, -, _, -, _, hfinal, -⟩ := href
  exact hfinal

lemma validateTermination_ok : validateTermination plan task = .ok () := by
  have hfinal : (plan.actorCalls.filter (·.emitsFinalPatch)).map (·.callId) =
      [plan.termination.finalActorCallId] := by
    have hfilter : plan.actorCalls.filter (·.emitsFinalPatch) =
        plan.actorCalls.filter fun call => call.callId = plan.termination.finalActorCallId := by
      apply List.filter_congr
      intro call hcall
      rw [Bool.eq_iff_iff, emitsFinalPatch_iff h hcall, decide_eq_true_eq]
    have hmap : (plan.actorCalls.filter fun call =>
        call.callId = plan.termination.finalActorCallId).map (·.callId) =
          (plan.actorCalls.map (·.callId)).filter (· = plan.termination.finalActorCallId) := by
      rw [List.filter_map]
      rfl
    rw [hfilter, hmap, List.filter_eq,
      List.count_eq_one_of_mem (callIds_nodup h) (finalActorCallId_mem h)]
    rfl
  have hpatch : plan.termination.maxPatchBytes = task.ceilings.maxPatchBytes :=
    congrArg (·.termination.maxPatchBytes) h.payload
  rw [validateTermination, raiseIf_neg (not_not.mpr hfinal), ok_bind,
    raiseIf_neg (not_not.mpr hpatch)]

/-- The verification of the plan is that of the task exactly when the task's arguments are not
changed by stripping. -/
lemma validatePublicVerification_iff :
    validatePublicVerification plan task = .ok () ↔
      ∀ step ∈ task.publicReproduction, ∀ part ∈ step.argv, trim part = part := by
  have hactions : plan.publicVerification.actions = task.publicReproduction.map verificationAction :=
    congrArg (·.publicVerification.actions) h.payload
  rw [validatePublicVerification, raiseIf_eq_ok_iff, not_not, hactions, expectedVerification,
    List.map_inj_left]
  refine forall₂_congr fun step _ => ?_
  have hid := trim_of_strip step.stepId_stripped
  have hcwd := trim_of_strip step.cwd_stripped
  simp only [verificationAction, hid, hcwd, PublicVerificationActionPlan.mk.injEq, true_and,
    and_true]
  conv_lhs => rw [← List.map_id step.argv, List.map_map]
  exact List.map_inj_left

omit h in
lemma validateTools_ok : validateTools plan = .ok () := by
  rw [validateTools, forM_eq_ok_iff]
  intro call _
  rw [raiseIf_eq_ok_iff, not_not]
  intro toolId _
  cases toolId <;> decide

/-! ## Reads -/

variable {key : String × String}

lemma mem_deliveryKeys :
    key ∈ deliveryKeys plan ↔ ∃ channel ∈ protocol.artifactChannels,
      key = (artifactIdOf channel.channelId, (deliveryOf protocol channel).consumerCallId) := by
  rw [deliveryKeys, deliveries_eq h, List.mem_map]
  constructor
  · rintro ⟨delivery, hdelivery, rfl⟩
    obtain ⟨channel, hmem, rfl⟩ := mem_compileDeliveries.mp hdelivery
    exact ⟨channel, hmem, rfl⟩
  · rintro ⟨channel, hmem, rfl⟩
    exact ⟨_, mem_compileDeliveries.mpr ⟨channel, hmem, rfl⟩, rfl⟩

omit h in
lemma mem_artifactReads :
    read ∈ artifactReads protocol callId ↔ ∃ channel ∈ protocol.artifactChannels,
      (deliveryOf protocol channel).consumerCallId = callId ∧
        read = ⟨"artifact." ++ channel.channelId, .artifact, artifactIdOf channel.channelId⟩ := by
  simp only [artifactReads, List.mem_map, List.mem_filter, decide_eq_true_eq,
    mem_compileDeliveries]
  constructor
  · rintro ⟨_, ⟨⟨channel, hmem, rfl⟩, hconsumer⟩, rfl⟩
    exact ⟨channel, hmem, hconsumer, rfl⟩
  · rintro ⟨channel, hmem, hconsumer, rfl⟩
    exact ⟨_, ⟨⟨channel, hmem, rfl⟩, hconsumer⟩, rfl⟩

omit h in
/-- What a check on a read gives back: the key of a delivery. -/
lemma mem_validateRead {keys : List (String × String)}
    (hread : validateRead plan call read = .ok keys) :
    key ∈ keys ↔ read.sourceKind = .artifact ∧ key = (read.sourceRef, call.callId) ∧
      key ∈ deliveryKeys plan := by
  unfold validateRead at hread
  cases hkind : read.sourceKind with
  | task =>
    simp only [hkind, bind_eq_ok_iff, raiseIf_eq_ok_iff, pure_eq_ok, Except.ok.injEq] at hread
    obtain ⟨_, -, rfl⟩ := hread
    simp
  | workspace =>
    simp only [hkind, bind_eq_ok_iff, raiseIf_eq_ok_iff, pure_eq_ok, Except.ok.injEq] at hread
    obtain ⟨_, -, rfl⟩ := hread
    simp
  | session =>
    simp only [hkind, bind_eq_ok_iff, raiseIf_eq_ok_iff, pure_eq_ok, Except.ok.injEq] at hread
    obtain ⟨_, -, rfl⟩ := hread
    simp
  | priorActorOutput =>
    simp only [hkind, bind_eq_ok_iff, raiseIf_eq_ok_iff, pure_eq_ok, Except.ok.injEq] at hread
    obtain ⟨_, -, _, -, rfl⟩ := hread
    simp
  | artifact =>
    simp only [hkind] at hread
    by_cases hkey : (read.sourceRef, call.callId) ∈ deliveryKeys plan
    · rw [if_pos (List.contains_iff_mem.mpr hkey), pure_eq_ok, Except.ok.injEq] at hread
      rw [← hread, List.mem_singleton]
      constructor
      · rintro rfl
        exact ⟨rfl, rfl, hkey⟩
      · exact fun hk => hk.2.1
    · rw [if_neg (mt List.contains_iff_mem.mp hkey)] at hread
      simp only [bind_eq_ok_iff, raiseIf_eq_ok_iff, pure_eq_ok, Except.ok.injEq] at hread
      obtain ⟨_, -, rfl⟩ := hread
      simp only [List.not_mem_nil, true_and, false_iff, not_and]
      rintro rfl
      exact hkey

omit h in
lemma validateRead_taskView {field : TaskViewField} :
    validateRead plan call (taskContextRead field) = .ok [] := by
  cases field <;> simp [validateRead, taskContextRead, raiseIf_neg]

lemma validateRead_delivered (hid : call.callId = callId)
    (hread : read ∈ artifactReads protocol callId) :
    validateRead plan call read = .ok [(read.sourceRef, callId)] := by
  obtain ⟨channel, hmem, hconsumer, rfl⟩ := mem_artifactReads.mp hread
  have hkey : (artifactIdOf channel.channelId, call.callId) ∈ deliveryKeys plan :=
    (mem_deliveryKeys h).mpr ⟨channel, hmem, by rw [hconsumer, hid]⟩
  simp only [validateRead]
  rw [if_pos (List.contains_iff_mem.mpr hkey), hid]
  rfl

omit h in
lemma validateRead_of_retained (hkind : read.sourceKind = .artifact)
    (hkey : (read.sourceRef, call.callId) ∉ deliveryKeys plan)
    (hretained : (retainedArtifactSource plan read.sourceRef call
      (callPositions plan)).isSome = true) : validateRead plan call read = .ok [] := by
  unfold validateRead
  simp only [hkind]
  have hsome : ¬(retainedArtifactSource plan read.sourceRef call
      (callPositions plan)).isNone = true := by
    rw [Option.isNone_iff_eq_none]
    exact Option.isSome_iff_ne_none.mp hretained
  rw [if_neg (mt List.contains_iff_mem.mp hkey), raiseIf_neg hsome, ok_bind, pure_eq_ok]

section

variable {revision : HarnessRevision} (hrevision : protocol.revision = some revision)
  (hactor : actor ∈ protocol.actors) (hid : actor.actorId = revision.actorId)
include hrevision hactor hid

/-- The reviser reads again what its initial call was given. -/
lemma validateRead_retained
    (hread : read ∈ artifactReads protocol (initialCallId actor.actorId)) :
    validateRead plan (revisionCall protocol actor revision.instruction) read = .ok [] := by
  obtain ⟨channel, hmem, hconsumer, rfl⟩ := mem_artifactReads.mp hread
  have hkey : (artifactIdOf channel.channelId, revisionCallId actor.actorId) ∉
      deliveryKeys plan := by
    intro hkey
    obtain ⟨other, hother, heq⟩ := (mem_deliveryKeys h).mp hkey
    rw [Prod.mk.injEq, artifactIdOf_inj] at heq
    obtain rfl := channel_eq_of_id hmem hother heq.1
    rw [hconsumer] at heq
    exact absurd heq.2 revisionCallId_ne_initialCallId
  have hcall : initialCall task protocol actor ∈ plan.actorCalls := by
    rw [actorCalls_eq h]
    exact (mem_compileCalls (levels_of_compiled h)).mpr (.inl ⟨actor, hactor, rfl⟩)
  have hretained : (retainedArtifactSource plan (artifactIdOf channel.channelId)
      (revisionCall protocol actor revision.instruction) (callPositions plan)).isSome = true := by
    unfold retainedArtifactSource
    rw [if_neg (by simp [revisionCall]), List.findSome?_isSome_iff]
    refine ⟨deliveryOf protocol channel, ?_, ?_⟩
    · rw [deliveries_eq h]
      exact mem_compileDeliveries.mpr ⟨channel, hmem, rfl⟩
    · have hfound : (callsById plan).get? (deliveryOf protocol channel).consumerCallId =
          some (initialCall task protocol actor) :=
        (callsById_get? h).mpr ⟨hcall, hconsumer.symm⟩
      have hearlier : earlier (callPositions plan) (initialCallId actor.actorId)
          (revisionCallId actor.actorId) = true := hid ▸ earlier_revision h hrevision
      rw [hfound, Option.bind_some, if_pos ⟨rfl, rfl, hearlier⟩]
      rfl
  exact validateRead_of_retained rfl hkey hretained

lemma validateRead_prior {readId : String} :
    validateRead plan (revisionCall protocol actor revision.instruction)
      ⟨readId, .priorActorOutput, initialCallId actor.actorId⟩ = .ok [] := by
  have hcall : initialCall task protocol actor ∈ plan.actorCalls := by
    rw [actorCalls_eq h]
    exact (mem_compileCalls (levels_of_compiled h)).mpr (.inl ⟨actor, hactor, rfl⟩)
  have hfound : (callsById plan).contains (initialCallId actor.actorId) = true := by
    have hget : (callsById plan).get? (initialCallId actor.actorId) =
        some (initialCall task protocol actor) := (callsById_get? h).mpr ⟨hcall, rfl⟩
    rw [Dict.contains, hget]
    rfl
  have hearlier : earlier (callPositions plan) (initialCallId actor.actorId)
      (revisionCallId actor.actorId) = true := hid ▸ earlier_revision h hrevision
  simp only [validateRead]
  rw [raiseIf_neg (by simp [hfound]), ok_bind, raiseIf_neg (by simp [hearlier]), ok_bind,
    pure_eq_ok]

end

/-- The kinds of read that a call of the plan has. -/
lemma read_cases (hcall : call ∈ plan.actorCalls) (hread : read ∈ call.contextReads) :
    (∃ field, read = taskContextRead field) ∨ read ∈ artifactReads protocol call.callId ∨
      ∃ revision actor, protocol.revision = some revision ∧ actor ∈ protocol.actors ∧
        actor.actorId = revision.actorId ∧
        call = revisionCall protocol actor revision.instruction ∧
        (read ∈ artifactReads protocol (initialCallId actor.actorId) ∨
          read = ⟨"prior." ++ initialCallId actor.actorId, .priorActorOutput,
            initialCallId actor.actorId⟩) := by
  rcases call_cases h hcall with ⟨actor, -, rfl⟩ | ⟨revision, hrev, actor, hactor, hid, rfl⟩
  · rcases List.mem_append.mp hread with htask | hartifact
    · obtain ⟨field, -, rfl⟩ := List.mem_map.mp htask
      exact .inl ⟨field, rfl⟩
    · exact .inr (.inl hartifact)
  · simp only [revisionCall, List.mem_append, List.mem_singleton] at hread
    rcases hread with ((htask | hretained) | hprior) | hartifact
    · obtain ⟨field, -, rfl⟩ := List.mem_map.mp htask
      exact .inl ⟨field, rfl⟩
    · exact .inr (.inr ⟨revision, actor, hrev, hactor, hid, rfl, .inl hretained⟩)
    · exact .inr (.inr ⟨revision, actor, hrev, hactor, hid, rfl, .inr hprior⟩)
    · exact .inr (.inl hartifact)

lemma validateRead_ok (hcall : call ∈ plan.actorCalls) (hread : read ∈ call.contextReads) :
    ∃ keys, validateRead plan call read = .ok keys := by
  rcases read_cases h hcall hread with ⟨field, rfl⟩ | hartifact |
    ⟨revision, actor, hrev, hactor, hid, rfl, hretained | rfl⟩
  · exact ⟨_, validateRead_taskView⟩
  · exact ⟨_, validateRead_delivered h rfl hartifact⟩
  · exact ⟨_, validateRead_retained h hrev hactor hid hretained⟩
  · exact ⟨_, validateRead_prior h hrev hactor hid⟩

/-- A call reads every artifact that is delivered to it. -/
lemma artifactReads_subset (hcall : call ∈ plan.actorCalls) :
    artifactReads protocol call.callId ⊆ call.contextReads := by
  rcases call_cases h hcall with ⟨actor, -, rfl⟩ | ⟨revision, -, actor, -, -, rfl⟩
  · exact List.subset_append_right _ _
  · exact List.subset_append_right _ _

omit h in
/-- The ids of artifact reads tell their channels. -/
lemma nodup_artifactReads : ((artifactReads protocol callId).map (·.readId)).Nodup := by
  have hids : ((artifactReads protocol callId).map (·.readId)).Sublist
      ((protocol.artifactChannels.map (·.channelId)).map ("artifact." ++ ·)) := by
    have hall : (protocol.artifactChannels.map (·.channelId)).map ("artifact." ++ ·) =
        (compileDeliveries protocol).map fun delivery => "artifact." ++ delivery.channelId := by
      simp [compileDeliveries, deliveryOf, Function.comp_def]
    rw [hall, artifactReads, List.map_map]
    exact (List.filter_sublist).map _
  refine hids.nodup (protocol.valid.channelIds_nodup.map ?_)
  intro a b hab
  simpa using hab

omit h in
lemma nodup_taskContextReads : ((taskContextReads actor).map (·.readId)).Nodup := by
  rw [taskContextReads, List.map_map]
  refine actor.taskView_valid.2.map fun a b hab => ?_
  cases a <;> cases b <;> first | rfl | simp [taskContextRead] at hab

omit h in
/-- The kinds of read ids begin differently. -/
lemma head_taskRead :
    ∀ id ∈ (taskContextReads actor).map (·.readId), id.toList.head? ≠ some 'a' ∧
      id.toList.head? ≠ some 'p' := by
  intro id hid
  simp only [taskContextReads, List.map_map, List.mem_map] at hid
  obtain ⟨field, -, rfl⟩ := hid
  cases field <;> decide

omit h in
lemma head_artifactRead :
    ∀ id ∈ (artifactReads protocol callId).map (·.readId), id.toList.head? = some 'a' := by
  intro id hid
  obtain ⟨read, hread, rfl⟩ := List.mem_map.mp hid
  obtain ⟨channel, -, -, rfl⟩ := mem_artifactReads.mp hread
  simp [String.toList_append]

omit h in
/-- Two calls have no artifact read in common. -/
lemma disjoint_artifactReads {callId callId' : String} (hne : callId ≠ callId') :
    ((artifactReads protocol callId).map (·.readId)).Disjoint
      ((artifactReads protocol callId').map (·.readId)) := by
  intro id hid hid'
  obtain ⟨read, hread, rfl⟩ := List.mem_map.mp hid
  obtain ⟨read', hread', heq⟩ := List.mem_map.mp hid'
  obtain ⟨channel, hmem, hconsumer, rfl⟩ := mem_artifactReads.mp hread
  obtain ⟨other, hother, hconsumer', rfl⟩ := mem_artifactReads.mp hread'
  have hchannel : channel = other := channel_eq_of_id hmem hother (by simpa using heq.symm)
  subst hchannel
  exact hne (hconsumer.symm.trans hconsumer')

omit h in
lemma nodup_initialReads :
    ((taskContextReads actor).map (·.readId) ++
      (artifactReads protocol callId).map (·.readId)).Nodup := by
  rw [List.nodup_append]
  refine ⟨nodup_taskContextReads, nodup_artifactReads, ?_⟩
  intro id hid id' hid' heq
  exact (head_taskRead id hid).1 (heq ▸ head_artifactRead id' hid')

/-- No call has two reads with one id. -/
lemma nodup_readIds (hcall : call ∈ plan.actorCalls) :
    (call.contextReads.map (·.readId)).Nodup := by
  rcases call_cases h hcall with ⟨actor, -, rfl⟩ | ⟨revision, -, actor, -, -, rfl⟩
  · simp only [initialCall, List.map_append]
    exact nodup_initialReads
  · simp only [revisionCall, List.map_append, List.map_cons, List.map_nil]
    have hprior : ("prior." ++ initialCallId actor.actorId).toList.head? = some 'p' := by
      simp [String.toList_append]
    rw [List.nodup_append]
    refine ⟨?_, nodup_artifactReads, ?_⟩
    · rw [← List.concat_eq_append]
      refine List.Nodup.concat (fun hid => ?_) nodup_initialReads
      rcases List.mem_append.mp hid with htask | hartifact
      · exact (head_taskRead _ htask).2 hprior
      · rw [head_artifactRead _ hartifact] at hprior
        simp at hprior
    · intro id hid id' hid' heq
      subst heq
      rcases List.mem_append.mp hid with hinitial | hlast
      · rcases List.mem_append.mp hinitial with htask | hartifact
        · exact (head_taskRead id htask).1 (head_artifactRead id hid')
        · exact disjoint_artifactReads initialCallId_ne_revisionCallId hartifact hid'
      · rw [List.mem_singleton.mp hlast] at hid'
        rw [head_artifactRead _ hid'] at hprior
        simp at hprior

/-- The reads of a call are accepted, and they are those of its deliveries. -/
lemma validateCallReads_ok (hcall : call ∈ plan.actorCalls) :
    ∃ keys, validateCallReads plan call = .ok keys ∧
      ∀ key, key ∈ keys ↔ key ∈ deliveryKeys plan ∧ key.2 = call.callId := by
  obtain ⟨keys, hkeys⟩ := exists_mapM_eq_ok fun read hread => validateRead_ok h hcall hread
  have hforall := mapM_eq_ok_iff.mp hkeys
  refine ⟨keys.flatten, ?_, ?_⟩
  · rw [validateCallReads, raiseIf_neg (not_not.mpr (nodup_readIds h hcall)), ok_bind, hkeys,
      ok_bind, pure_eq_ok]
  · intro key
    rw [List.mem_flatten]
    constructor
    · rintro ⟨ks, hks, hkey⟩
      obtain ⟨read, -, hread⟩ := exists_mem_left_of_forall₂ hforall hks
      obtain ⟨-, rfl, hdelivery⟩ := (mem_validateRead hread).mp hkey
      exact ⟨hdelivery, rfl⟩
    · rintro ⟨hdelivery, hconsumer⟩
      obtain ⟨channel, hmem, rfl⟩ := (mem_deliveryKeys h).mp hdelivery
      have hread := artifactReads_subset h hcall (mem_artifactReads.mpr ⟨channel, hmem, hconsumer, rfl⟩)
      obtain ⟨ks, hks, hok⟩ := exists_mem_right_of_forall₂ hforall hread
      exact ⟨ks, hks, (mem_validateRead hok).mpr ⟨rfl, by rw [← hconsumer], hdelivery⟩⟩

lemma validateReads_ok : validateReads plan none = .ok () := by
  obtain ⟨keys, hkeys⟩ := exists_mapM_eq_ok fun call hcall =>
    (validateCallReads_ok h hcall).imp fun _ hk => hk.1
  have hforall := mapM_eq_ok_iff.mp hkeys
  have hmem : ∀ call ∈ plan.actorCalls, ∀ ks, validateCallReads plan call = .ok ks →
      ∀ key, key ∈ ks ↔ key ∈ deliveryKeys plan ∧ key.2 = call.callId := by
    intro call hcall ks hks
    obtain ⟨ks', hks', hall⟩ := validateCallReads_ok h hcall
    rw [hks, Except.ok.injEq] at hks'
    exact hks' ▸ hall
  have hsubset : keys.flatten ⊆ deliveryKeys plan := by
    intro key hkey
    obtain ⟨ks, hks, hkey⟩ := List.mem_flatten.mp hkey
    obtain ⟨call, hcall, hok⟩ := exists_mem_left_of_forall₂ hforall hks
    exact ((hmem call hcall ks hok key).mp hkey).1
  have hcovered : deliveryKeys plan ⊆ keys.flatten := by
    intro key hkey
    obtain ⟨channel, hchannel, rfl⟩ := (mem_deliveryKeys h).mp hkey
    obtain ⟨call, hcall, hid⟩ := exists_consumerCall task (levels_of_compiled h) hchannel
    rw [← actorCalls_eq h] at hcall
    obtain ⟨ks, hks, hok⟩ := exists_mem_right_of_forall₂ hforall hcall
    exact List.mem_flatten.mpr ⟨ks, hks, (hmem call hcall ks hok _).mpr ⟨hkey, hid.symm⟩⟩
  simp only [validateReads, hkeys, ok_bind]
  rw [raiseIf_neg (not_not.mpr ⟨hsubset, hcovered⟩), ok_bind, raiseIf_neg (by simp)]

end Checks

/-! ## The artifact store -/

namespace ImmutableArtifactStore

/-- Writes of new artifacts are declared one after another. -/
lemma declareWrites_ok {writes : List ArtifactWritePlan} {plans : Dict String ArtifactWritePlan}
    (hnew : (plans.keys ++ writes.map (·.artifactId)).Nodup) :
    writes.foldlM declareWrite plans =
      .ok (writes.foldl (fun plans write => plans.set write.artifactId write) plans) := by
  induction writes generalizing plans with
  | nil => rfl
  | cons write rest ih =>
    have hfresh : write.artifactId ∉ plans.keys := by
      intro hmem
      rw [List.nodup_append] at hnew
      exact hnew.2.2 _ hmem _ List.mem_cons_self rfl
    have hkeys : (plans.set write.artifactId write).keys = plans.keys ++ [write.artifactId] := by
      simp [Dict.keys, Dict.entries_set_of_not_mem hfresh]
    have hrest : ((plans.set write.artifactId write).keys ++ rest.map (·.artifactId)).Nodup := by
      simpa [hkeys] using hnew
    have hcontains : ¬plans.contains write.artifactId = true := fun hc =>
      hfresh (Dict.contains_iff_mem_keys.mp hc)
    rw [List.foldlM_cons, declareWrite, raiseIf_neg hcontains, ok_bind, pure_eq_ok, ok_bind,
      ih hrest]
    rfl

/-- What the deliveries of a plan come to. -/
def declared (deliveries : List ArtifactDeliveryPlan) (start : DeclaredDeliveries) :
    DeclaredDeliveries :=
  deliveries.foldl (fun declared delivery =>
    { plans := declared.plans.set (delivery.artifactId, delivery.consumerCallId) delivery
      intended := appendAt declared.intended delivery.artifactId delivery.consumerCallId }) start

variable {deliveries : List ArtifactDeliveryPlan} {start : DeclaredDeliveries}

lemma declareDeliveries_ok {writes : Dict String ArtifactWritePlan} (hnew : (start.plans.keys ++
      deliveries.map fun delivery => (delivery.artifactId, delivery.consumerCallId)).Nodup)
    (hwrites : ∀ delivery ∈ deliveries, ∃ write, writes.get? delivery.artifactId = some write ∧
      write.channelId = delivery.channelId ∧ write.producerCallId = delivery.producerCallId) :
    deliveries.foldlM (declareDelivery writes) start = .ok (declared deliveries start) := by
  induction deliveries generalizing start with
  | nil => rfl
  | cons delivery rest ih =>
    have hfresh : (delivery.artifactId, delivery.consumerCallId) ∉ start.plans.keys := by
      intro hmem
      rw [List.nodup_append] at hnew
      exact hnew.2.2 _ hmem _ List.mem_cons_self rfl
    have hkeys : (start.plans.set (delivery.artifactId, delivery.consumerCallId) delivery).keys =
        start.plans.keys ++ [(delivery.artifactId, delivery.consumerCallId)] := by
      simp [Dict.keys, Dict.entries_set_of_not_mem hfresh]
    have hrest : ((start.plans.set (delivery.artifactId, delivery.consumerCallId) delivery).keys ++
        rest.map fun delivery => (delivery.artifactId, delivery.consumerCallId)).Nodup := by
      simpa [hkeys] using hnew
    obtain ⟨write, hwrite, hchannel, hproducer⟩ := hwrites delivery List.mem_cons_self
    have hcontains : ¬start.plans.contains (delivery.artifactId, delivery.consumerCallId) = true :=
      fun hc => hfresh (Dict.contains_iff_mem_keys.mp hc)
    have hmatch : ¬(delivery.channelId ≠ write.channelId ∨
        delivery.producerCallId ≠ write.producerCallId) := by
      simp [hchannel, hproducer]
    rw [List.foldlM_cons, declareDelivery, raiseIf_neg hcontains, ok_bind, hwrite]
    simp only
    rw [raiseIf_neg hmatch, ok_bind, pure_eq_ok, ok_bind]
    exact ih hrest fun d hd => hwrites d (List.mem_cons_of_mem _ hd)

/-- Every artifact that is delivered has a consumer. -/
lemma intended_declared {artifactId : String} (h : (start.intended.get? artifactId).getD [] ≠ [] ∨
      artifactId ∈ deliveries.map (·.artifactId)) :
    ((declared deliveries start).intended.get? artifactId).getD [] ≠ [] := by
  induction deliveries generalizing start with
  | nil => simpa [declared] using h
  | cons delivery rest ih =>
    apply ih
    by_cases hid : delivery.artifactId = artifactId
    · left
      simp [appendAt, hid]
    · have hne : artifactId ≠ delivery.artifactId := fun heq => hid heq.symm
      simpa [appendAt, hid, hne] using h

section Compiled

variable (h : Compiled D task protocol dependencies levels plan)
include h

variable {write : ArtifactWritePlan}

/-- The writes of the plan are those of the initial calls, one for each channel. -/
lemma mem_writes :
    write ∈ plan.actorCalls.flatMap (·.artifactWrites) ↔
      ∃ channel ∈ protocol.artifactChannels, write =
        { channelId := channel.channelId
          artifactId := artifactIdOf channel.channelId
          producerCallId := initialCallId channel.producerActorId
          maxBytes := task.ceilings.maxArtifactBytes } := by
  rw [List.mem_flatMap, actorCalls_eq h]
  constructor
  · rintro ⟨call, hcall, hwrite⟩
    rcases (mem_compileCalls (levels_of_compiled h)).mp hcall with ⟨actor, -, rfl⟩ | hrevision
    · simp only [initialCall, artifactWritesOf, List.mem_map, List.mem_filter,
        decide_eq_true_eq] at hwrite
      obtain ⟨channel, ⟨hmem, hproducer⟩, rfl⟩ := hwrite
      exact ⟨channel, hmem, by rw [hproducer]⟩
    · obtain ⟨revision, -, actor, -, -, rfl⟩ := mem_revisionCalls.mp hrevision
      simp [revisionCall] at hwrite
  · rintro ⟨channel, hmem, rfl⟩
    obtain ⟨actor, hactor, hid, hcall⟩ := exists_initialCall task (levels_of_compiled h)
      (protocol.valid.endpoints_mem channel hmem).1
    refine ⟨_, hcall, ?_⟩
    simp only [initialCall, artifactWritesOf, List.mem_map, List.mem_filter, decide_eq_true_eq]
    exact ⟨channel, ⟨hmem, hid.symm⟩, by rw [hid]⟩

/-- A call declares its own writes. -/
lemma producer_of_write {call : ActorCallPlan} (hcall : call ∈ plan.actorCalls)
    (hwrite : write ∈ call.artifactWrites) : write.producerCallId = call.callId := by
  rcases call_cases h hcall with ⟨actor, -, rfl⟩ | ⟨revision, -, actor, -, -, rfl⟩
  · simp only [initialCall, artifactWritesOf, List.mem_map] at hwrite
    obtain ⟨channel, -, rfl⟩ := hwrite
    rfl
  · simp [revisionCall] at hwrite

/-- Two writes of the plan that declare one artifact are one write. -/
lemma write_eq {write other : ArtifactWritePlan}
    (hwrite : write ∈ plan.actorCalls.flatMap (·.artifactWrites))
    (hother : other ∈ plan.actorCalls.flatMap (·.artifactWrites))
    (hid : write.artifactId = other.artifactId) : write = other := by
  obtain ⟨channel, hmem, rfl⟩ := (mem_writes h).mp hwrite
  obtain ⟨channel', hmem', rfl⟩ := (mem_writes h).mp hother
  rw [channel_eq_of_id hmem hmem' (artifactIdOf_inj.mp hid)]

/-- Each artifact is declared by one write. -/
lemma nodup_writes :
    ((plan.actorCalls.flatMap (·.artifactWrites)).map (·.artifactId)).Nodup := by
  rw [List.map_flatMap, List.nodup_flatMap]
  constructor
  · intro call hcall
    rcases call_cases h hcall with ⟨actor, -, rfl⟩ | ⟨revision, -, actor, -, -, rfl⟩
    · have hids : ((artifactWritesOf task protocol actor.actorId).map (·.artifactId)) =
          ((protocol.artifactChannels.filter (·.producerActorId = actor.actorId)).map
            (·.channelId)).map artifactIdOf := by
        simp [artifactWritesOf, Function.comp_def]
      show ((artifactWritesOf task protocol actor.actorId).map (·.artifactId)).Nodup
      rw [hids]
      refine List.Nodup.map (fun a b hab => artifactIdOf_inj.mp hab) ?_
      exact ((List.filter_sublist).map _).nodup protocol.valid.channelIds_nodup
    · exact List.nodup_nil
  · -- a channel has one producer, so that two calls share no artifact
    have hids := callIds_nodup h
    rw [List.nodup_iff_pairwise_ne, List.pairwise_map] at hids
    refine hids.imp_of_mem fun {a b} ha hb hne id hida hidb => ?_
    obtain ⟨write, hwrite, rfl⟩ := List.mem_map.mp hida
    obtain ⟨other, hother, hid⟩ := List.mem_map.mp hidb
    have heq := write_eq h (List.mem_flatMap.mpr ⟨b, hb, hother⟩)
      (List.mem_flatMap.mpr ⟨a, ha, hwrite⟩) hid
    rw [← producer_of_write h ha hwrite, ← producer_of_write h hb hother, heq] at hne
    exact hne rfl

lemma nodup_deliveryKeys : (deliveryKeys plan).Nodup := by
  have hfst : (deliveryKeys plan).map Prod.fst =
      (protocol.artifactChannels.map (·.channelId)).map artifactIdOf := by
    rw [deliveryKeys, deliveries_eq h, compileDeliveries]
    simp [deliveryOf, Function.comp_def]
  refine List.Nodup.of_map Prod.fst ?_
  rw [hfst]
  exact protocol.valid.channelIds_nodup.map fun a b hab => artifactIdOf_inj.mp hab

/-- The declared write of an artifact. -/
lemma declaredWrite_get? {artifactId : String} :
    ((plan.actorCalls.flatMap (·.artifactWrites)).foldl
      (fun plans write => plans.set write.artifactId write) Dict.empty).get? artifactId =
        some write ↔
      write ∈ plan.actorCalls.flatMap (·.artifactWrites) ∧ write.artifactId = artifactId := by
  rw [Dict.get?_foldl_set (nodup_writes h)]
  constructor
  · rintro ⟨found, hmem, hid, rfl⟩
    exact ⟨hmem, hid⟩
  · rintro ⟨hmem, hid⟩
    exact ⟨write, hmem, hid, rfl⟩

/-- The store of a compiled plan: its writes and deliveries, and nothing written yet. -/
theorem init_ok : init plan task.ceilings.maxArtifactBytes = .ok
    { maxTotalBytes := task.ceilings.maxArtifactBytes
      writePlans := (plan.actorCalls.flatMap (·.artifactWrites)).foldl
        (fun plans write => plans.set write.artifactId write) Dict.empty
      deliveryPlans := (declared plan.artifactDeliveries {}).plans
      intended := (declared plan.artifactDeliveries {}).intended } := by
  have hpositive : ¬task.ceilings.maxArtifactBytes = 0 := by
    have hpos := task.ceilings.positive.2.2.2.2.2.1
    omega
  have hnew : ((Dict.empty : Dict String ArtifactWritePlan).keys ++
      (plan.actorCalls.flatMap (·.artifactWrites)).map (·.artifactId)).Nodup := by
    simpa [Dict.keys, Dict.empty] using nodup_writes h
  have hdeliveries : ((({} : DeclaredDeliveries).plans).keys ++ plan.artifactDeliveries.map
      fun delivery => (delivery.artifactId, delivery.consumerCallId)).Nodup := by
    simpa [Dict.keys, Dict.empty, deliveryKeys] using nodup_deliveryKeys h
  have hmatch : ∀ delivery ∈ plan.artifactDeliveries, ∃ write,
      ((plan.actorCalls.flatMap (·.artifactWrites)).foldl
        (fun plans write => plans.set write.artifactId write) Dict.empty).get?
          delivery.artifactId = some write ∧ write.channelId = delivery.channelId ∧
        write.producerCallId = delivery.producerCallId := by
    intro delivery hdelivery
    rw [deliveries_eq h] at hdelivery
    obtain ⟨channel, hmem, rfl⟩ := mem_compileDeliveries.mp hdelivery
    exact ⟨_, (declaredWrite_get? h).mpr ⟨(mem_writes h).mpr ⟨channel, hmem, rfl⟩, rfl⟩, rfl, rfl⟩
  have hconsumed : ∀ artifactId ∈ ((plan.actorCalls.flatMap (·.artifactWrites)).foldl
      (fun plans write => plans.set write.artifactId write) Dict.empty).keys,
      ¬((declared plan.artifactDeliveries {}).intended.get? artifactId).getD [] = [] := by
    intro artifactId hkey
    obtain ⟨⟨_, write⟩, hentry, rfl⟩ := List.mem_map.mp hkey
    obtain ⟨hwrite, hid⟩ := (declaredWrite_get? h).mp (Dict.get?_eq_some_iff.mpr hentry)
    obtain ⟨channel, hmem, rfl⟩ := (mem_writes h).mp hwrite
    refine intended_declared (.inr (List.mem_map.mpr ⟨deliveryOf protocol channel, ?_, hid⟩))
    rw [deliveries_eq h]
    exact mem_compileDeliveries.mpr ⟨channel, hmem, rfl⟩
  rw [init, raiseIf_neg hpositive, ok_bind, declareWrites_ok hnew, ok_bind,
    declareDeliveries_ok hdeliveries hmatch, ok_bind]
  have hforM := (forM_eq_ok_iff (u := ())).mpr fun artifactId hkey =>
    raiseIf_neg (e := ArtifactStoreError.store
      ("declared artifact " ++ quoted artifactId ++ " has no intended consumer"))
      (hconsumed artifactId hkey)
  rw [hforM, ok_bind, pure_eq_ok]

end Compiled

end ImmutableArtifactStore

/-! ## Construction -/

section Construction

variable (h : Compiled D task protocol dependencies levels plan)
include h

lemma revalidate_ok : revalidate D plan = .ok () := by
  have hkinds : plan.actorCalls.forM validateCallKind = .ok () := by
    rw [forM_eq_ok_iff]
    intro call hcall
    rcases call_cases h hcall with ⟨actor, -, rfl⟩ | ⟨revision, -, actor, -, -, rfl⟩
    · simp [validateCallKind, initialCall, raiseIf]
    · have hnonempty : revision.instruction ≠ "" := by
        have hvalid := revision.instruction_valid
        simp only [isTrimmedText, Bool.and_eq_true, bne_iff_ne] at hvalid
        exact hvalid.2
      simp [validateCallKind, revisionCall, raiseIf, hnonempty]
  rw [revalidate, hkinds, ok_bind, h.ledger, ok_bind, h.references]

variable {scratchWorkspace : ScratchWorkspaceBinding}

/-- What the input checks come down to. -/
lemma validateInputs_of_compiled
    (hscratch : scratchWorkspace.workspaceDigest = task.workspaceSnapshot.digest) :
    ∃ callStage, validateInputs plan task scratchWorkspace none =
      validatePublicVerification plan task >>= fun _ => .ok callStage := by
  obtain ⟨callStage, hstages⟩ := validateStages_ok h
  refine ⟨callStage, ?_⟩
  simp only [validateInputs, validateIdentity_ok h hscratch, hstages, validateTermination_ok h,
    validateTools_ok, validateReads_ok h, ok_bind, pure_eq_ok]

/-- A compiled plan is accepted with its own task exactly when stripping leaves every argument of
the public reproduction as it is. Otherwise the runtime reports a mismatch. -/
theorem runtime_of_compiled
    (hscratch : scratchWorkspace.workspaceDigest = task.workspaceSnapshot.digest) :
    ((∀ step ∈ task.publicReproduction, ∀ part ∈ step.argv, trim part = part) →
      ∃ runtime, CompositeRuntime.init D plan task scratchWorkspace none = .ok runtime) ∧
    (¬(∀ step ∈ task.publicReproduction, ∀ part ∈ step.argv, trim part = part) →
      CompositeRuntime.init D plan task scratchWorkspace none =
        .error (.composite "public_verification_mismatch"
          "compiled public verification differs from the TaskEnvelope")) := by
  obtain ⟨callStage, hinputs⟩ := validateInputs_of_compiled h hscratch
  rw [CompositeRuntime.init, revalidate_ok h, hinputs]
  constructor
  · intro hargs
    rw [(validatePublicVerification_iff h).mpr hargs, ImmutableArtifactStore.init_ok h]
    exact ⟨_, rfl⟩
  · intro hargs
    have hmismatch := mt (validatePublicVerification_iff h).mp hargs
    rw [validatePublicVerification, raiseIf_eq_ok_iff, not_not] at hmismatch
    rw [validatePublicVerification, raiseIf_pos hmismatch]
    rfl

end Construction

/-- For a compiled plan, its task and the scratch copy of its snapshot, the constructor raises no
`CompositeRuntimeError` if and only if no argument of the public reproduction has white space at
an end. -/
theorem compiled_plans_runnable_iff {metadata : CompositeCompilerMetadata} {reject : Option String}
    {scratchWorkspace : ScratchWorkspaceBinding}
    (hplan : compileCompositeRunPlan D metadata task protocol dependencies reject = .ok plan)
    (hscratch : scratchWorkspace.workspaceDigest = task.workspaceSnapshot.digest) :
    (∀ kind message callId, CompositeRuntime.init D plan task scratchWorkspace none ≠
        .error (.composite kind message callId)) ↔
      ∀ step ∈ task.publicReproduction, ∀ part ∈ step.argv, trim part = part := by
  obtain ⟨-, ⟨levels, h⟩, -⟩ := compile_eq_ok_iff.mp hplan
  obtain ⟨hok, herror⟩ := runtime_of_compiled h hscratch
  constructor
  · intro hnone
    by_contra hargs
    exact hnone _ _ _ (herror hargs)
  · intro hargs kind message callId heq
    obtain ⟨runtime, hruntime⟩ := hok hargs
    simp [hruntime] at heq

def sampleScratch : ScratchWorkspaceBinding := ⟨"scratch", "snapshot digest"⟩

/-- A reproduction without white space at the ends of its arguments. -/
theorem compiled_plans_runnable_iff_pytest :
    ∃ plan, samplePlan (reviewProtocol "Revise the draft." reviseDraft_trimmed) = .ok plan ∧
      ∀ kind message callId, CompositeRuntime.init sampleDigests plan
        (sampleTask ["pytest"] pytest_argv) sampleScratch none ≠
          .error (.composite kind message callId) := by
  obtain ⟨plan, hplan⟩ := exists_of_toBool samplePlan_reviseDraft
  have hargs : ∀ step ∈ (sampleTask ["pytest"] pytest_argv).publicReproduction,
      ∀ part ∈ step.argv, trim part = part := by decide +kernel
  exact ⟨plan, hplan, (compiled_plans_runnable_iff hplan rfl).mpr hargs⟩

theorem script_argv : (["python", "-c", "print(1)\n"] : List String) ≠ [] ∧
    ∀ part ∈ ["python", "-c", "print(1)\n"], strip part ≠ "" := by decide +kernel

/-- A script that ends with a line break: its plan compiles, and the runtime refuses it. -/
theorem compiled_plan_not_runnable :
    ∃ plan, compileCompositeRunPlan sampleDigests {}
        (sampleTask ["python", "-c", "print(1)\n"] script_argv)
        (reviewProtocol "Revise the draft." reviseDraft_trimmed) sampleDependencies none =
          .ok plan ∧
      CompositeRuntime.init sampleDigests plan
        (sampleTask ["python", "-c", "print(1)\n"] script_argv) sampleScratch none =
          .error (.composite "public_verification_mismatch"
            "compiled public verification differs from the TaskEnvelope") := by
  obtain ⟨plan, hplan⟩ := exists_of_toBool (x := compileCompositeRunPlan sampleDigests {}
    (sampleTask ["python", "-c", "print(1)\n"] script_argv)
    (reviewProtocol "Revise the draft." reviseDraft_trimmed) sampleDependencies none)
    (by decide +kernel)
  refine ⟨plan, hplan, ?_⟩
  obtain ⟨-, ⟨levels, h⟩, -⟩ := compile_eq_ok_iff.mp hplan
  exact (runtime_of_compiled h rfl).2 (by decide +kernel)

end Agintor.Kernel
