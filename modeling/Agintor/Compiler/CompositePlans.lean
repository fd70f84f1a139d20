import Agintor.Compiler.CompositeCompiler
import Mathlib.Data.List.Dedup

/-!
# Compiled plans

What is common to every plan that the compiler returns: its levels hold each actor once, after
the producers of its artifacts, and its calls, deliveries and stages are those of the protocol.
-/

namespace Agintor.Compiler

open Agintor.Contracts Agintor.Core Lib

/-! ## Ids -/

variable {channel : HarnessArtifactChannel} {a b : String} {actor : HarnessActor}
    {revision : HarnessRevision} {stage : CompositePlanStage} {call : ActorCallPlan}
    {actorId : String} {i : ℕ}

@[simp] theorem initialCallId_inj : initialCallId a = initialCallId b ↔ a = b := by
  simp [initialCallId]

@[simp] theorem revisionCallId_inj : revisionCallId a = revisionCallId b ↔ a = b := by
  simp [revisionCallId]

@[simp] theorem artifactIdOf_inj : artifactIdOf a = artifactIdOf b ↔ a = b := by
  simp [artifactIdOf]

/-- The two kinds of call ids end differently. -/
@[simp] theorem initialCallId_ne_revisionCallId : initialCallId a ≠ revisionCallId b := by
  intro h
  have hlast := congrArg (fun s => s.toList.reverse) h
  simp [initialCallId, revisionCallId, String.toList_append] at hlast

@[simp] theorem revisionCallId_ne_initialCallId :
    revisionCallId a ≠ initialCallId b := initialCallId_ne_revisionCallId.symm

/-! ## Protocols -/

variable {protocol : HarnessProtocol}

lemma actorOf_of_mem (h : actor ∈ protocol.actors) :
    actorOf protocol actor.actorId = some actor := by
  unfold actorOf
  cases hfind : protocol.actors.find? (·.actorId = actor.actorId) with
  | none =>
    have hnone := List.find?_eq_none.mp hfind actor h
    simp at hnone
  | some other =>
    have hid : other.actorId = actor.actorId := by simpa using List.find?_some hfind
    rw [Option.some.injEq]
    exact List.inj_on_of_nodup_map protocol.valid.actorIds_nodup
      (List.mem_of_find?_eq_some hfind) h hid

lemma actorOf_eq_some_iff :
    actorOf protocol actorId = some actor ↔ actor ∈ protocol.actors ∧ actor.actorId = actorId := by
  constructor
  · intro h
    exact ⟨List.mem_of_find?_eq_some h, by simpa using List.find?_some h⟩
  · rintro ⟨hmem, rfl⟩
    exact actorOf_of_mem hmem

/-- Two channels of a protocol with one id are one channel. -/
lemma channel_eq_of_id {channel other : HarnessArtifactChannel}
    (h : channel ∈ protocol.artifactChannels) (hother : other ∈ protocol.artifactChannels)
    (hid : channel.channelId = other.channelId) : channel = other :=
  List.inj_on_of_nodup_map protocol.valid.channelIds_nodup h hother hid

/-- A revision has a feedback channel, which leads to the reviser. -/
lemma feedbackChannel_of_revision (h : protocol.revision = some revision) :
    ∃ feedback ∈ protocol.artifactChannels, feedbackChannel protocol = some feedback ∧
      feedback.channelId = revision.feedbackChannelId ∧
      feedback.consumerActorId = revision.actorId := by
  obtain ⟨-, channel, hmem, hid, hconsumer⟩ := protocol.valid.revision_valid revision h
  refine ⟨channel, hmem, ?_, hid, hconsumer⟩
  unfold feedbackChannel
  rw [h, Option.bind_some]
  cases hfind : protocol.artifactChannels.find? (·.channelId = revision.feedbackChannelId) with
  | none =>
    have hnone := List.find?_eq_none.mp hfind channel hmem
    simp [hid] at hnone
  | some other =>
    have hother : other.channelId = revision.feedbackChannelId := by
      simpa using List.find?_some hfind
    rw [Option.some.injEq]
    exact channel_eq_of_id (List.mem_of_find?_eq_some hfind) hmem (hother.trans hid.symm)

lemma feedbackChannel_of_no_revision (h : protocol.revision = none) :
    feedbackChannel protocol = none := by
  simp [feedbackChannel, h]

lemma mem_primaryChannels :
    channel ∈ primaryChannels protocol ↔ channel ∈ protocol.artifactChannels ∧
      ∀ revision ∈ protocol.revision, channel.channelId ≠ revision.feedbackChannelId := by
  unfold primaryChannels
  rw [List.mem_filter]
  refine and_congr_right fun _ => ?_
  cases hrevision : protocol.revision with
  | none => simp [feedbackChannel_of_no_revision hrevision]
  | some revision =>
    obtain ⟨feedback, -, hfeedback, hid, -⟩ := feedbackChannel_of_revision hrevision
    simp [hfeedback, hid]

lemma mem_consumersOf :
    b ∈ consumersOf protocol a ↔ ∃ channel ∈ primaryChannels protocol,
      channel.producerActorId = a ∧ channel.consumerActorId = b := by
  simp [consumersOf, and_assoc]

lemma mem_producersOf :
    a ∈ producersOf protocol b ↔ ∃ channel ∈ primaryChannels protocol,
      channel.consumerActorId = b ∧ channel.producerActorId = a := by
  simp [producersOf, and_assoc]

lemma opposite_primary (protocol : HarnessProtocol) :
    Opposite (consumersOf protocol) (producersOf protocol) where
  mem_iff a b := by
    rw [mem_consumersOf, mem_producersOf]
    exact ⟨fun ⟨channel, hmem, hp, hc⟩ => ⟨channel, hmem, hc, hp⟩,
      fun ⟨channel, hmem, hc, hp⟩ => ⟨channel, hmem, hp, hc⟩⟩
  nodup a := List.nodup_dedup _

lemma producer_mem_actorIds (h : a ∈ producersOf protocol b) : a ∈ actorIds protocol := by
  obtain ⟨channel, hmem, -, rfl⟩ := mem_producersOf.mp h
  exact (protocol.valid.endpoints_mem channel (mem_primaryChannels.mp hmem).1).1

/-! ## Levels -/

/-- The levels of a protocol: every actor once, after the actors it has artifacts from. -/
abbrev Levels (protocol : HarnessProtocol) (levels : List (List String)) : Prop :=
  Layered (producersOf protocol) (actorIds protocol) levels

variable {levels : List (List String)}

lemma levels_of_compileLevels (h : compileLevels protocol = some levels) :
    Levels protocol levels := by
  refine layered_of_layers (opposite_primary protocol) protocol.valid.actorIds_nodup ?_ h
  intro a _
  have hall : (producersOf protocol a).filter (· ∈ actorIds protocol) = producersOf protocol a := by
    rw [List.filter_eq_self]
    intro b hb
    simpa using producer_mem_actorIds hb
  rw [hall]

theorem levels_of_compileTopology (h : compileTopology protocol = .ok levels) :
    Levels protocol levels := by
  simp only [compileTopology, bind_eq_ok_iff] at h
  obtain ⟨_, -, h⟩ := h
  cases hlevels : compileLevels protocol with
  | none => simp [hlevels] at h
  | some found =>
    simp only [hlevels, bind_eq_ok_iff, pure_eq_ok, Except.ok.injEq] at h
    obtain ⟨_, -, _, -, rfl⟩ := h
    exact levels_of_compileLevels hlevels

lemma mem_flatten_iff (h : Levels protocol levels) :
    actorId ∈ levels.flatten ↔ ∃ actor ∈ protocol.actors, actor.actorId = actorId := by
  rw [h.perm.mem_iff, actorIds, List.mem_map]

lemma nodup_flatten (h : Levels protocol levels) : levels.flatten.Nodup :=
  h.perm.nodup_iff.mpr protocol.valid.actorIds_nodup

/-- The consumer of a primary channel is on a later level than its producer. -/
lemma layerOf_producer_lt (h : Levels protocol levels) (hmem : channel ∈ primaryChannels protocol) :
    layerOf levels channel.producerActorId < layerOf levels channel.consumerActorId := by
  have hends := protocol.valid.endpoints_mem channel (mem_primaryChannels.mp hmem).1
  exact h.before _ hends.2 _ (mem_producersOf.mpr ⟨channel, hmem, rfl, rfl⟩) hends.1

/-! ## Calls -/

variable {task : TaskEnvelope}

@[simp] lemma callId_initialCall :
    (initialCall task protocol actor).callId = initialCallId actor.actorId := rfl

@[simp] lemma callId_revisionCall {instruction : String} :
    (revisionCall protocol actor instruction).callId = revisionCallId actor.actorId := rfl

/-- The initial calls, in the order of the levels. -/
def initialCalls (task : TaskEnvelope) (protocol : HarnessProtocol)
    (levels : List (List String)) : List ActorCallPlan :=
  levels.flatten.filterMap fun actorId => (actorOf protocol actorId).map (initialCall task protocol)

lemma mem_initialCalls (h : Levels protocol levels) :
    call ∈ initialCalls task protocol levels ↔
      ∃ actor ∈ protocol.actors, initialCall task protocol actor = call := by
  unfold initialCalls
  rw [List.mem_filterMap]
  constructor
  · rintro ⟨actorId, -, hcall⟩
    obtain ⟨actor, hactor, rfl⟩ := Option.map_eq_some_iff.mp hcall
    exact ⟨actor, (actorOf_eq_some_iff.mp hactor).1, rfl⟩
  · rintro ⟨actor, hmem, rfl⟩
    refine ⟨actor.actorId, (mem_flatten_iff h).mpr ⟨actor, hmem, rfl⟩, ?_⟩
    rw [actorOf_of_mem hmem, Option.map_some]

/-- The ids of the initial calls, which every level lists as its stage does. -/
lemma map_callId_initialCalls (h : Levels protocol levels) :
    (initialCalls task protocol levels).map (·.callId) = levels.flatten.map initialCallId := by
  have hall : ∀ actorId ∈ levels.flatten, ∃ actor, actorOf protocol actorId = some actor := by
    intro actorId hmem
    obtain ⟨actor, hactor, rfl⟩ := (mem_flatten_iff h).mp hmem
    exact ⟨actor, actorOf_of_mem hactor⟩
  unfold initialCalls
  generalize levels.flatten = actorIds at hall
  induction actorIds with
  | nil => rfl
  | cons actorId rest ih =>
    obtain ⟨actor, hactor⟩ := hall actorId List.mem_cons_self
    have hid := (actorOf_eq_some_iff.mp hactor).2
    have hrest := ih fun a ha => hall a (List.mem_cons_of_mem _ ha)
    rw [List.filterMap_cons, hactor]
    simp only [Option.map_some, List.map_cons, hrest]
    rw [← hid]
    rfl

/-- The revision call of a protocol. -/
lemma mem_revisionCalls :
    call ∈ revisionCalls protocol ↔ ∃ revision, protocol.revision = some revision ∧
      ∃ actor ∈ protocol.actors, actor.actorId = revision.actorId ∧
        revisionCall protocol actor revision.instruction = call := by
  unfold revisionCalls
  rw [Option.mem_toList, Option.bind_eq_some_iff]
  simp only [Option.map_eq_some_iff, actorOf_eq_some_iff, and_assoc]

lemma revisionCalls_of_revision (h : protocol.revision = some revision) :
    ∃ actor ∈ protocol.actors, actor.actorId = revision.actorId ∧
      revisionCalls protocol = [revisionCall protocol actor revision.instruction] := by
  have hfinal := protocol.valid.final_mem
  rw [← (protocol.valid.revision_valid revision h).1, List.mem_map] at hfinal
  obtain ⟨actor, hmem, hid⟩ := hfinal
  refine ⟨actor, hmem, hid, ?_⟩
  rw [revisionCalls, h, Option.bind_some, ← hid, actorOf_of_mem hmem]
  rfl

lemma revisionCalls_of_no_revision (h : protocol.revision = none) :
    revisionCalls protocol = [] := by
  simp [revisionCalls, h]

lemma mem_compileCalls (h : Levels protocol levels) :
    call ∈ compileCalls task protocol levels ↔
      (∃ actor ∈ protocol.actors, initialCall task protocol actor = call) ∨
        call ∈ revisionCalls protocol := by
  rw [compileCalls, List.mem_append, ← mem_initialCalls h]
  rfl

/-! ## Deliveries -/

lemma mem_compileDeliveries {delivery : ArtifactDeliveryPlan} :
    delivery ∈ compileDeliveries protocol ↔
      ∃ channel ∈ protocol.artifactChannels, deliveryOf protocol channel = delivery := by
  rw [compileDeliveries, List.mem_map]

/-- A primary channel is delivered to the initial call of its consumer. -/
lemma consumerCallId_of_primary (h : channel ∈ primaryChannels protocol) :
    (deliveryOf protocol channel).consumerCallId = initialCallId channel.consumerActorId := by
  have hnot := (mem_primaryChannels.mp h).2
  simp only [deliveryOf]
  cases hrevision : protocol.revision with
  | none => rfl
  | some revision => exact if_neg (hnot revision hrevision)

/-- The feedback channel is delivered to the revision call. -/
lemma consumerCallId_of_feedback (h : protocol.revision = some revision)
    (hid : channel.channelId = revision.feedbackChannelId) :
    (deliveryOf protocol channel).consumerCallId = revisionCallId revision.actorId := by
  simp only [deliveryOf, h]
  exact if_pos hid

/-- A channel that is not primary is the feedback of the revision. -/
lemma feedback_of_not_primary (hmem : channel ∈ protocol.artifactChannels)
    (h : channel ∉ primaryChannels protocol) :
    ∃ revision, protocol.revision = some revision ∧
      channel.channelId = revision.feedbackChannelId ∧
      channel.consumerActorId = revision.actorId := by
  rw [mem_primaryChannels, not_and] at h
  have hnot := h hmem
  push Not at hnot
  obtain ⟨revision, hrevision, hid⟩ := hnot
  obtain ⟨feedback, hfmem, -, hfid, hconsumer⟩ := feedbackChannel_of_revision hrevision
  have heq := channel_eq_of_id hmem hfmem (hid.trans hfid.symm)
  exact ⟨revision, hrevision, hid, heq ▸ hconsumer⟩

variable (task) in
/-- An initial call of every actor is in the plan. -/
lemma exists_initialCall (h : Levels protocol levels) (hactor : actorId ∈ actorIds protocol) :
    ∃ actor ∈ protocol.actors, actor.actorId = actorId ∧
      initialCall task protocol actor ∈ compileCalls task protocol levels := by
  obtain ⟨actor, hmem, hid⟩ := List.mem_map.mp hactor
  exact ⟨actor, hmem, hid, (mem_compileCalls h).mpr (.inl ⟨actor, hmem, rfl⟩)⟩

variable (task) in
/-- The call that writes the artifact of a channel. -/
lemma exists_producerCall (h : Levels protocol levels)
    (hmem : channel ∈ protocol.artifactChannels) :
    ∃ call ∈ compileCalls task protocol levels,
      call.callId = (deliveryOf protocol channel).producerCallId := by
  obtain ⟨actor, -, hid, hcall⟩ := exists_initialCall task h
    (protocol.valid.endpoints_mem channel hmem).1
  exact ⟨_, hcall, congrArg initialCallId hid⟩

variable (task) in
/-- The call that a channel is delivered to. -/
lemma exists_consumerCall (h : Levels protocol levels)
    (hmem : channel ∈ protocol.artifactChannels) :
    ∃ call ∈ compileCalls task protocol levels,
      call.callId = (deliveryOf protocol channel).consumerCallId := by
  by_cases hprimary : channel ∈ primaryChannels protocol
  · obtain ⟨actor, -, hid, hcall⟩ := exists_initialCall task h
      (protocol.valid.endpoints_mem channel hmem).2
    refine ⟨_, hcall, ?_⟩
    rw [consumerCallId_of_primary hprimary, ← hid]
    rfl
  · obtain ⟨revision, hrevision, hid, -⟩ := feedback_of_not_primary hmem hprimary
    obtain ⟨actor, hactor, hactorId, hcalls⟩ := revisionCalls_of_revision hrevision
    refine ⟨revisionCall protocol actor revision.instruction,
      (mem_compileCalls h).mpr (.inr ?_), ?_⟩
    · rw [hcalls]
      exact List.mem_singleton.mpr rfl
    · rw [consumerCallId_of_feedback hrevision hid, ← hactorId]
      rfl

/-! ## Stages -/

lemma stageId_injective : Function.Injective stageId := by
  intro m n h
  have hdigits : Nat.toDigits 10 m = Nat.toDigits 10 n := by
    simpa [stageId] using congrArg String.toList h
  calc m = Nat.ofDigitChars 10 (Nat.toDigits 10 m) 0 := Nat.ofDigitChars_ten_toDigits.symm
    _ = Nat.ofDigitChars 10 (Nat.toDigits 10 n) 0 := by rw [hdigits]
    _ = n := Nat.ofDigitChars_ten_toDigits

lemma getElem?_compileStages_of_lt {level : List String} (h : levels[i]? = some level) :
    (compileStages protocol levels)[i]? = some (levelStage protocol levels i level) := by
  have hi : i < levels.length := (List.getElem?_eq_some_iff.mp h).1
  rw [compileStages, List.getElem?_append_left (by simpa using hi), List.getElem?_mapIdx, h]
  rfl

/-- A stage of a plan is that of a level, or the stage of the revision call, which comes last. -/
lemma getElem?_compileStages (h : (compileStages protocol levels)[i]? = some stage) :
    (∃ level, levels[i]? = some level ∧ stage = levelStage protocol levels i level) ∨
      (i = levels.length ∧ ∃ revision feedback, protocol.revision = some revision ∧
        feedbackChannel protocol = some feedback ∧
        stage = { stageId := stageId levels.length
                  stageIndex := levels.length
                  callIds := [revisionCallId revision.actorId]
                  dependsOnStageIds := [stageId (layerOf levels feedback.producerActorId)]
                  inboundChannelIds := [feedback.channelId]
                  revision := true }) := by
  unfold compileStages at h
  rcases Nat.lt_or_ge i levels.length with hi | hi
  · rw [List.getElem?_append_left (by simpa using hi), List.getElem?_mapIdx,
      List.getElem?_eq_getElem hi] at h
    exact .inl ⟨levels[i], List.getElem?_eq_getElem hi, (Option.some.inj h).symm⟩
  · rw [List.getElem?_append_right (by simpa using hi), List.length_mapIdx] at h
    cases hrevision : protocol.revision with
    | none => simp [revisionStages, hrevision] at h
    | some revision =>
      obtain ⟨feedback, -, hfeedback, -⟩ := feedbackChannel_of_revision hrevision
      simp only [revisionStages, hrevision, hfeedback, List.getElem?_singleton] at h
      split at h
      · exact .inr ⟨by omega, revision, feedback, rfl, hfeedback, (Option.some.inj h).symm⟩
      · simp at h

lemma stage_numbered (h : (compileStages protocol levels)[i]? = some stage) :
    stage.stageIndex = i ∧ stage.stageId = stageId i := by
  rcases getElem?_compileStages h with ⟨level, -, rfl⟩ | ⟨hi, revision, feedback, -, -, rfl⟩
  · exact ⟨rfl, rfl⟩
  · exact ⟨hi.symm, congrArg stageId hi.symm⟩

/-- A stage depends on stages before it. -/
lemma dependsOn_earlier (h : Levels protocol levels)
    (hstage : (compileStages protocol levels)[i]? = some stage) :
    ∀ id ∈ stage.dependsOnStageIds, ∃ j < i, id = stageId j := by
  intro id hid
  rcases getElem?_compileStages hstage with ⟨level, hlevel, rfl⟩ |
    ⟨hi, revision, feedback, -, hfeedback, rfl⟩
  · simp only [levelStage, parentIndices, List.mem_map, List.mem_insertionSort, List.mem_dedup,
      List.mem_filter, decide_eq_true_eq] at hid
    obtain ⟨j, ⟨channel, ⟨hprimary, hconsumer⟩, rfl⟩, rfl⟩ := hid
    refine ⟨_, ?_, rfl⟩
    -- the consumer is on this level, its producer on an earlier one
    have hlt := layerOf_producer_lt h hprimary
    have hlayer : layerOf levels channel.consumerActorId ≤ i := by
      obtain ⟨hi, hget⟩ := List.getElem?_eq_some_iff.mp hlevel
      by_contra hnot
      have hfalse := List.not_of_lt_findIdx (not_le.mp hnot)
      simp [hget, hconsumer] at hfalse
    omega
  · simp only [List.mem_singleton] at hid
    refine ⟨_, ?_, hid⟩
    have hmem : feedback.producerActorId ∈ actorIds protocol := by
      have hfound : feedback ∈ protocol.artifactChannels := by
        unfold feedbackChannel at hfeedback
        obtain ⟨_, -, hfind⟩ := Option.bind_eq_some_iff.mp hfeedback
        exact List.mem_of_find?_eq_some hfind
      exact (protocol.valid.endpoints_mem feedback hfound).1
    rw [hi]
    exact h.layerOf_lt hmem

/-- The stages list the calls in their order. -/
lemma flatMap_callIds (h : Levels protocol levels) :
    (compileStages protocol levels).flatMap (·.callIds) =
      (compileCalls task protocol levels).map (·.callId) := by
  have hlevels : (levels.mapIdx (levelStage protocol levels)).flatMap (·.callIds) =
      levels.flatten.map initialCallId := by
    have hstages : (levels.mapIdx (levelStage protocol levels)).map (·.callIds) =
        levels.map (·.map initialCallId) := by
      apply List.ext_getElem?
      intro i
      rw [List.getElem?_map, List.getElem?_mapIdx, List.getElem?_map, Option.map_map]
      rfl
    rw [List.flatMap_def, hstages, List.map_flatten]
  have hrevision : (revisionStages protocol levels).flatMap (·.callIds) =
      (revisionCalls protocol).map (·.callId) := by
    cases hrev : protocol.revision with
    | none => simp [revisionStages, revisionCalls_of_no_revision hrev, hrev]
    | some revision =>
      obtain ⟨feedback, -, hfeedback, -⟩ := feedbackChannel_of_revision hrev
      obtain ⟨actor, -, hactor, hcalls⟩ := revisionCalls_of_revision hrev
      simp [revisionStages, hrev, hfeedback, hcalls, revisionCall, hactor]
  unfold compileStages compileCalls
  rw [List.flatMap_append, List.map_append, hlevels, hrevision, ← map_callId_initialCalls h]
  rfl

end Agintor.Compiler
