import Agintor.Compiler.CompositePlans
import Agintor.Lib.Lists
import Agintor.Search.HarnessMutator

/-!
# A transaction changes only what it declares

A proposal that passes `_validate_operator_metadata` declares all that its patch edits: the child
agrees with its parent at every path that overlaps none of the declared ones.
-/

namespace Agintor.Search

open Agintor.Contracts Agintor.Core Agintor.Compiler Lib

/-! ## Agreement of two protocols -/

/-- The two protocols have the same value at a path, or none. -/
def SameAt (parent child : HarnessProtocol) : SourcePath → Prop
  | .actor actorId => actorOf child actorId = actorOf parent actorId
  | .actorField actorId field =>
    (actorOf child actorId).map field.valueOf = (actorOf parent actorId).map field.valueOf
  | .channel channelId => channelOf child channelId = channelOf parent channelId
  | .channelField channelId field =>
    (channelOf child channelId).map field.valueOf = (channelOf parent channelId).map field.valueOf
  | .revision => child.revision = parent.revision
  | .revisionField field => child.revision.map field.valueOf = parent.revision.map field.valueOf
  | .finalActorId => child.finalActorId = parent.finalActorId

/-- The path is neither equal to, nor under, nor above a touched path. -/
def Untouched (touched : List String) (path : SourcePath) : Prop :=
  ∀ t ∈ touched, pathsOverlap path.text t = false

instance (touched : List String) (path : SourcePath) : Decidable (Untouched touched path) :=
  inferInstanceAs (Decidable (∀ t ∈ touched, _ = _))

/-- The child differs from the parent only at the touched paths. -/
structure Frame (touched : List String) (parent child : HarnessProtocol) : Prop where
  same : ∀ path, Untouched touched path → SameAt parent child path
  actors : (child.actors.filter fun actor => Untouched touched (.actor actor.actorId)) =
    parent.actors.filter fun actor => Untouched touched (.actor actor.actorId)
  channels : (child.artifactChannels.filter fun channel =>
      Untouched touched (.channel channel.channelId)) =
    parent.artifactChannels.filter fun channel => Untouched touched (.channel channel.channelId)
  shares : (child.actors.map (·.budgetShareBps)).sum = 10000

/-! ## Overlapping paths -/

lemma pathsOverlap_self (path : String) : pathsOverlap path path = true := by
  simp [pathsOverlap]

lemma pathsOverlap_below (path field : String) :
    pathsOverlap (path ++ "." ++ field) path = true := by
  have hstarts : (path ++ ".").toList.isPrefixOf (path ++ "." ++ field).toList = true := by
    rw [List.isPrefixOf_iff_prefix]
    exact ⟨field.toList, String.toList_append.symm⟩
  unfold pathsOverlap
  rw [hstarts, Bool.or_true, Bool.true_or]

lemma pathsOverlap_comm (left right : String) :
    pathsOverlap left right = pathsOverlap right left := by
  unfold pathsOverlap
  rw [Bool.beq_comm, Bool.or_assoc, Bool.or_assoc]
  congr 1
  exact Bool.or_comm _ _

lemma bracket_dot : "]." = "]" ++ "." := by decide +kernel

lemma actorPath_eq (actorId field : String) :
    actorPath actorId field = actorRoot actorId ++ "." ++ field := by
  unfold actorPath actorRoot
  rw [bracket_dot]
  exact congrArg (· ++ field) String.append_assoc.symm

lemma channelPath_eq (channelId field : String) :
    channelPath channelId field = channelRoot channelId ++ "." ++ field := by
  unfold channelPath channelRoot
  rw [bracket_dot]
  exact congrArg (· ++ field) String.append_assoc.symm

section Touched

variable {touched : List String} {actorId channelId : String}

lemma Untouched.not_mem {path : SourcePath} {t : String} (h : Untouched touched path)
    (ht : t ∈ touched) (hoverlap : pathsOverlap path.text t = true) : False := by
  rw [h t ht] at hoverlap
  cases hoverlap

lemma Untouched.actorRoot_not_mem (h : Untouched touched (.actor actorId)) :
    actorRoot actorId ∉ touched := fun ht => h.not_mem ht (pathsOverlap_self _)

lemma Untouched.actorPath_not_mem (h : Untouched touched (.actor actorId)) (field : String) :
    actorPath actorId field ∉ touched := by
  intro ht
  apply h.not_mem ht
  rw [actorPath_eq, pathsOverlap_comm]
  exact pathsOverlap_below _ _

lemma Untouched.root_of_actorField {field : ActorField}
    (h : Untouched touched (.actorField actorId field)) : actorRoot actorId ∉ touched := by
  intro ht
  apply h.not_mem ht
  show pathsOverlap (actorPath actorId field.text) _ = true
  rw [actorPath_eq]
  exact pathsOverlap_below _ _

lemma Untouched.channelRoot_not_mem (h : Untouched touched (.channel channelId)) :
    channelRoot channelId ∉ touched := fun ht => h.not_mem ht (pathsOverlap_self _)

lemma Untouched.root_of_channelField {field : ChannelField}
    (h : Untouched touched (.channelField channelId field)) : channelRoot channelId ∉ touched := by
  intro ht
  apply h.not_mem ht
  show pathsOverlap (channelPath channelId field.text) _ = true
  rw [channelPath_eq]
  exact pathsOverlap_below _ _

end Touched

/-! ## What an edit touches -/

/-- The field of an actor in a payload. -/
def fieldAt (actors : List HarnessActor) (actorId : String) (field : ActorField) :
    Option SourceValue :=
  (actors.find? (·.actorId = actorId)).map field.valueOf

/-- A payload that differs from its parent at some actors and channels, which are touched as a
whole or, for an actor, in one field. -/
structure Edits (touched : List String) (parent : HarnessProtocol) (payload : ProtocolPayload)
    (actorIds channelIds : List String) : Prop where
  actors : (payload.actors.filter fun actor => actor.actorId ∉ actorIds) =
    parent.actors.filter fun actor => actor.actorId ∉ actorIds
  channels : (payload.channels.filter fun channel => channel.channelId ∉ channelIds) =
    parent.artifactChannels.filter fun channel => channel.channelId ∉ channelIds
  actor_touched : ∀ actorId ∈ actorIds, actorRoot actorId ∈ touched ∨
    ∃ field : ActorField, actorPath actorId field.text ∈ touched ∧
      ∀ other, other ≠ field →
        fieldAt payload.actors actorId other = fieldAt parent.actors actorId other
  channel_touched : ∀ channelId ∈ channelIds, channelRoot channelId ∈ touched
  revision : "revision" ∈ touched ∨ payload.revision = parent.revision

section Edited

variable {touched actorIds channelIds : List String} {parent child : HarnessProtocol}

section

variable {payload : ProtocolPayload} (h : Edits touched parent payload actorIds channelIds)
include h

/-- An untouched actor is not edited. -/
lemma Edits.actorId_not_mem {actorId : String}
    (huntouched : Untouched touched (.actor actorId)) : actorId ∉ actorIds := by
  intro hmem
  rcases h.actor_touched actorId hmem with hroot | ⟨field, hpath, -⟩
  · exact huntouched.actorRoot_not_mem hroot
  · exact huntouched.actorPath_not_mem field.text hpath

lemma Edits.find?_actor {actorId : String} (hnot : actorId ∉ actorIds) :
    payload.actors.find? (·.actorId = actorId) = actorOf parent actorId := by
  apply find?_eq_of_filter_eq h.actors
  intro actor hactor
  rw [of_decide_eq_true hactor]
  exact decide_eq_true hnot

lemma Edits.find?_channel {channelId : String} (hnot : channelId ∉ channelIds) :
    payload.channels.find? (·.channelId = channelId) = channelOf parent channelId := by
  apply find?_eq_of_filter_eq h.channels
  intro channel hchannel
  rw [of_decide_eq_true hchannel]
  exact decide_eq_true hnot

end

/-- A child made by edits to touched places agrees with its parent elsewhere. -/
theorem Edits.frame
    (h : Edits touched parent ⟨child.actors, child.artifactChannels, child.revision⟩ actorIds
      channelIds)
    (hfinal : child.finalActorId = parent.finalActorId) : Frame touched parent child where
  same path hpath := by
    cases path with
    | actor actorId => exact h.find?_actor (h.actorId_not_mem hpath)
    | actorField actorId field =>
      by_cases hmem : actorId ∈ actorIds
      · rcases h.actor_touched actorId hmem with hroot | ⟨edited, hedited, hothers⟩
        · exact absurd hroot hpath.root_of_actorField
        · apply hothers field
          rintro rfl
          exact hpath.not_mem hedited (pathsOverlap_self _)
      · exact congrArg (Option.map field.valueOf) (h.find?_actor hmem)
    | channel channelId =>
      exact h.find?_channel fun hmem =>
        hpath.channelRoot_not_mem (h.channel_touched channelId hmem)
    | channelField channelId field =>
      exact congrArg (Option.map field.valueOf) (h.find?_channel fun hmem =>
        hpath.root_of_channelField (h.channel_touched channelId hmem))
    | revision =>
      rcases h.revision with htouched | hsame
      · exact (hpath.not_mem htouched (pathsOverlap_self _)).elim
      · exact hsame
    | revisionField field =>
      rcases h.revision with htouched | hsame
      · exact (hpath.not_mem htouched (pathsOverlap_below "revision" field.text)).elim
      · exact congrArg (Option.map field.valueOf) hsame
    | finalActorId => exact hfinal
  actors := by
    apply filter_eq_of_filter_eq h.actors
    intro actor hactor
    exact decide_eq_true (h.actorId_not_mem (of_decide_eq_true hactor))
  channels := by
    apply filter_eq_of_filter_eq h.channels
    intro channel hchannel
    have huntouched : Untouched touched (.channel channel.channelId) := of_decide_eq_true hchannel
    apply decide_eq_true
    intro hmem
    exact huntouched.channelRoot_not_mem (h.channel_touched _ hmem)
  shares := child.valid.shares_sum

end Edited

/-! ## The patches -/

section Patches

variable {parent : HarnessProtocol} {payload : ProtocolPayload} {touched : List String}

/-- A payload with other channels only. -/
lemma edits_channels {channels : List HarnessArtifactChannel} {revision : Option HarnessRevision}
    {channelIds : List String}
    (hchannels : (channels.filter fun channel => channel.channelId ∉ channelIds) =
      parent.artifactChannels.filter fun channel => channel.channelId ∉ channelIds)
    (htouched : ∀ channelId ∈ channelIds, channelRoot channelId ∈ touched)
    (hrevision : "revision" ∈ touched ∨ revision = parent.revision) :
    Edits touched parent ⟨parent.actors, channels, revision⟩ [] channelIds where
  actors := rfl
  channels := hchannels
  actor_touched _ h := absurd h List.not_mem_nil
  channel_touched := htouched
  revision := hrevision

/-- A channel at the end is no loss. -/
lemma filter_append_channel (channels : List HarnessArtifactChannel)
    (channel : HarnessArtifactChannel) :
    ((channels ++ [channel]).filter fun c => c.channelId ∉ [channel.channelId]) =
      channels.filter fun c => c.channelId ∉ [channel.channelId] := by
  rw [List.filter_append, List.filter_singleton]
  simp

variable {actors actors' : List HarnessActor} {actor : HarnessActor}

lemma replaceActor_ok (h : replaceActor actors actor = .ok actors') :
    ∃ index, actors.findIdx? (·.actorId = actor.actorId) = some index ∧
      actors' = actors.set index actor := by
  unfold replaceActor at h
  cases hindex : actors.findIdx? (·.actorId = actor.actorId) with
  | none => simp [hindex] at h
  | some index =>
    simp only [hindex, Except.ok.injEq] at h
    exact ⟨index, rfl, h.symm⟩

/-- Replacing an actor keeps the others, and the actor is found in its place. -/
lemma replaceActor_spec (h : replaceActor actors actor = .ok actors') :
    (∀ q : HarnessActor → Bool, (∀ a, a.actorId = actor.actorId → q a = false) →
      actors'.filter q = actors.filter q) ∧
      actors'.find? (·.actorId = actor.actorId) = some actor := by
  obtain ⟨index, hindex, rfl⟩ := replaceActor_ok h
  refine ⟨?_, find?_set_of_findIdx? hindex (decide_eq_true rfl)⟩
  intro q hq
  apply filter_set_of_not (hq actor rfl)
  intro a ha
  obtain ⟨hlt, hid, -⟩ := List.findIdx?_eq_some_iff_getElem.mp hindex
  obtain ⟨hlt', rfl⟩ := List.getElem?_eq_some_iff.mp ha
  exact hq _ (of_decide_eq_true hid)

lemma edits_split {patch : ActorSplitPatch}
    (h : splitActor parent patch = .ok payload)
    (hbudget : actorPath patch.sourceActorBefore.actorId "budget_share_bps" ∈ touched)
    (hnew : actorRoot patch.newActor.actorId ∈ touched)
    (hchannel : channelRoot patch.newChannel.channelId ∈ touched) :
    Edits touched parent payload [patch.sourceActorBefore.actorId, patch.newActor.actorId]
      [patch.newChannel.channelId] := by
  unfold splitActor at h
  simp only [bind_eq_ok_iff, raiseIf_eq_ok_iff, not_not, pure_eq_ok, Except.ok.injEq] at h
  obtain ⟨_, hcurrent, actors, hactors, rfl⟩ := h
  obtain ⟨hid, htaskView, hinstruction, htoolIds⟩ := patch.budget_only
  obtain ⟨hothers, hfound⟩ := replaceActor_spec hactors
  rw [← hid] at hothers hfound
  refine ⟨?_, filter_append_channel _ _, ?_, ?_, .inr rfl⟩
  · show (actors.insertIdx _ patch.newActor).filter _ = _
    rw [filter_insertIdx_of_not (by simp)]
    apply hothers
    intro a ha
    simp [ha]
  · intro actorId hactorId
    rcases List.mem_pair.mp hactorId with rfl | rfl
    · right
      refine ⟨.budgetShareBps, hbudget, ?_⟩
      intro other hother
      have hdistinct : (decide (patch.newActor.actorId = patch.sourceActorBefore.actorId)) =
          false := decide_eq_false patch.distinct_actor
      have hafter : (actors.insertIdx (actors.findIdx (·.actorId = patch.sourceActorAfter.actorId))
          patch.newActor).find? (·.actorId = patch.sourceActorBefore.actorId) =
            some patch.sourceActorAfter := by
        rw [← hfound]
        exact find?_eq_of_filter_eq (filter_insertIdx_of_not hdistinct) fun _ ha => ha
      unfold fieldAt
      rw [hafter, show parent.actors.find? _ = _ from hcurrent]
      cases other with
      | budgetShareBps => exact absurd rfl hother
      | taskView => simp [ActorField.valueOf, htaskView]
      | instruction => simp [ActorField.valueOf, hinstruction]
      | toolIds => simp [ActorField.valueOf, htoolIds]
    · exact .inl hnew
  · intro channelId hchannelId
    rwa [List.mem_singleton.mp hchannelId]

lemma edits_rewire {patch : ChannelRewirePatch} (h : rewireChannel parent patch = .ok payload)
    (hchannel : channelRoot patch.channelBefore.channelId ∈ touched) :
    Edits touched parent payload [] [patch.channelBefore.channelId] := by
  unfold rewireChannel at h
  obtain ⟨_, -, h⟩ := bind_eq_ok_iff.mp h
  cases hindex : parent.artifactChannels.findIdx?
      (·.channelId = patch.channelBefore.channelId) with
  | none => simp [hindex] at h
  | some index =>
    simp only [hindex, bind_eq_ok_iff, raiseIf_eq_ok_iff, not_not, pure_eq_ok,
      Except.ok.injEq] at h
    obtain ⟨_, hbefore, rfl⟩ := h
    apply edits_channels
    · apply filter_set_of_not
      · simp [patch.same_channel]
      · intro channel hmem
        rw [hbefore] at hmem
        obtain rfl := Option.some.inj hmem
        simp
    · intro channelId hchannelId
      rwa [List.mem_singleton.mp hchannelId]
    · exact .inr rfl

lemma edits_rewrite {patch : InstructionRewritePatch}
    (h : rewriteInstruction parent patch = .ok payload)
    (hpath : actorPath patch.actorId "instruction" ∈ touched) :
    Edits touched parent payload [patch.actorId] [] := by
  unfold rewriteInstruction at h
  cases hcurrent : actorOf parent patch.actorId with
  | none => simp [hcurrent] at h
  | some current =>
    simp only [hcurrent, bind_eq_ok_iff, raiseIf_eq_ok_iff, not_not, pure_eq_ok,
      Except.ok.injEq] at h
    obtain ⟨_, -, actors, hactors, rfl⟩ := h
    obtain ⟨hothers, hfound⟩ := replaceActor_spec hactors
    have hid : current.actorId = patch.actorId := (actorOf_eq_some_iff.mp hcurrent).2
    rw [← hid] at hcurrent hpath ⊢
    refine ⟨?_, rfl, ?_, fun _ hmem => absurd hmem List.not_mem_nil, .inr rfl⟩
    · apply hothers
      intro a ha
      simp [ha]
    · intro actorId hactorId
      rw [List.mem_singleton.mp hactorId]
      right
      refine ⟨.instruction, hpath, ?_⟩
      intro other hother
      unfold fieldAt
      rw [hfound, show parent.actors.find? _ = _ from hcurrent]
      cases other with
      | instruction => exact absurd rfl hother
      | taskView => rfl
      | toolIds => rfl
      | budgetShareBps => rfl

lemma mem_sortedPaths {path : String} {paths : List String} :
    path ∈ sortedPaths paths ↔ path ∈ paths := List.mem_insertionSort _

/-- Every patch edits only what the expected paths name. -/
theorem exists_edits {patch : SemanticPatch} (h : patchedPayload parent patch = .ok payload) :
    ∃ actorIds channelIds,
      Edits (expectedTouchedPaths patch) parent payload actorIds channelIds := by
  cases patch with
  | actorSplit patch =>
    exact ⟨_, _, edits_split h (mem_sortedPaths.mpr (by simp)) (mem_sortedPaths.mpr (by simp))
      (mem_sortedPaths.mpr (by simp))⟩
  | channelAdd channel =>
    obtain rfl := Except.ok.inj h
    refine ⟨_, _, edits_channels (filter_append_channel _ channel) ?_ (.inr rfl)⟩
    intro channelId hchannelId
    rw [List.mem_singleton.mp hchannelId]
    exact List.mem_singleton.mpr rfl
  | channelRewire patch =>
    exact ⟨_, _, edits_rewire h (List.mem_singleton.mpr rfl)⟩
  | revisionInsert patch =>
    unfold patchedPayload insertRevision at h
    simp only [bind_eq_ok_iff, raiseIf_eq_ok_iff, pure_eq_ok, Except.ok.injEq] at h
    obtain ⟨_, -, _, -, _, -, rfl⟩ := h
    refine ⟨_, _, edits_channels (filter_append_channel _ patch.draftChannel) ?_
      (.inl (mem_sortedPaths.mpr (by simp)))⟩
    intro channelId hchannelId
    rw [List.mem_singleton.mp hchannelId]
    exact mem_sortedPaths.mpr (by simp)
  | revisionRemove patch =>
    unfold patchedPayload removeRevision at h
    simp only [bind_eq_ok_iff, raiseIf_eq_ok_iff, pure_eq_ok, Except.ok.injEq] at h
    obtain ⟨_, -, _, -, _, -, rfl⟩ := h
    have hfilter : ((parent.artifactChannels.filter
          (·.channelId ≠ patch.draftChannel.channelId)).filter fun channel =>
            channel.channelId ∉ [patch.draftChannel.channelId]) =
        parent.artifactChannels.filter fun channel =>
          channel.channelId ∉ [patch.draftChannel.channelId] := by
      rw [List.filter_filter]
      apply List.filter_congr
      intro channel _
      simp
    refine ⟨_, _, edits_channels hfilter ?_ (.inl (mem_sortedPaths.mpr (by simp)))⟩
    intro channelId hchannelId
    rw [List.mem_singleton.mp hchannelId]
    exact mem_sortedPaths.mpr (by simp)
  | instructionRewrite patch =>
    exact ⟨_, _, edits_rewrite h (List.mem_singleton.mpr rfl)⟩

end Patches

/-! ## The transaction -/

/-- What the two checks accept changes only what it declares. -/
theorem semantic_transaction_frame (parent child : HarnessProtocol)
    (proposal : SemanticTransactionProposal)
    (hmetadata : validateOperatorMetadata proposal = .ok ())
    (hchild : applyPatch parent proposal = .ok child) :
    Frame proposal.touchedSourcePaths parent child := by
  have hpaths : proposal.touchedSourcePaths = expectedTouchedPaths proposal.normalizedPatch := by
    unfold validateOperatorMetadata at hmetadata
    simp only [bind_eq_ok_iff, raiseIf_eq_ok_iff, not_not] at hmetadata
    obtain ⟨_, hpaths, -⟩ := hmetadata
    exact hpaths
  obtain ⟨payload, hpayload, hbuilt⟩ := bind_eq_ok_iff.mp hchild
  obtain ⟨actorIds, channelIds, hedits⟩ := exists_edits hpayload
  split at hbuilt
  · obtain rfl := Except.ok.inj hbuilt
    rw [hpaths]
    exact Edits.frame hedits rfl
  · cases hbuilt

/-! ## A split -/

theorem issueView_valid : [TaskViewField.issue] ≠ [] ∧ [TaskViewField.issue].Nodup := by decide

theorem fixInstruction_valid : isTrimmedText "Fix the fault." = true := by decide +kernel

theorem readTool_valid : [TrustedToolId.read] ≠ [] ∧ [TrustedToolId.read].Nodup := by decide

def splitSampleActor (actorId : String) (share : ℕ) (hid : isIdentifier actorId = true)
    (hshare : 0 < share ∧ share ≤ 10000) : HarnessActor where
  actorId := actorId
  taskView := [.issue]
  instruction := "Fix the fault."
  toolIds := [.read]
  budgetShareBps := share
  actorId_identifier := hid
  taskView_valid := issueView_valid
  instruction_valid := fixInstruction_valid
  toolIds_valid := readTool_valid
  toolIds_sorted := List.pairwise_singleton _ _
  share_valid := hshare

theorem fixer_identifier : isIdentifier "fixer" = true := by decide +kernel

theorem scout_identifier : isIdentifier "scout" = true := by decide +kernel

theorem notes_identifier : isIdentifier "notes" = true := by decide +kernel

theorem fixer_ne_scout : "fixer" ≠ "scout" := by decide

theorem scout_ne_fixer : "scout" ≠ "fixer" := by decide

theorem wholeShare_valid : 0 < 10000 ∧ 10000 ≤ 10000 := by decide

theorem keptShare_valid : 0 < 6000 ∧ 6000 ≤ 10000 := by decide

theorem takenShare_valid : 0 < 4000 ∧ 4000 ≤ 10000 := by decide

/-- One actor with the whole budget. -/
def soloProtocol : HarnessProtocol where
  actors := [splitSampleActor "fixer" 10000 fixer_identifier wholeShare_valid]
  finalActorId := "fixer"
  finalActorId_identifier := fixer_identifier
  valid :=
    { actors_nonempty := by simp
      actorIds_nodup := by simp
      shares_sum := by decide
      final_mem := List.mem_singleton.mpr rfl
      channelIds_nodup := by simp
      endpoints_mem := by simp
      revision_valid := by simp }

/-- A scout takes a share of the fixer and sends it notes. -/
def scoutSplit : ActorSplitPatch where
  sourceActorBefore := splitSampleActor "fixer" 10000 fixer_identifier wholeShare_valid
  sourceActorAfter := splitSampleActor "fixer" 6000 fixer_identifier keptShare_valid
  newActor := splitSampleActor "scout" 4000 scout_identifier takenShare_valid
  newChannel := ⟨"notes", "scout", "fixer", ⟨notes_identifier, scout_identifier,
    fixer_identifier⟩, fixer_ne_scout⟩
  budget_only := ⟨rfl, rfl, rfl, rfl⟩
  distinct_actor := scout_ne_fixer
  producer_eq := rfl
  consumer_eq := rfl
  shares_eq := rfl

def scoutProposal : SemanticTransactionProposal where
  operator := .actorSplit
  normalizedPatch := .actorSplit scoutSplit
  touchedSourcePaths := ["actors[fixer].budget_share_bps", "actors[scout]",
    "artifact_channels[notes]"]
  budgetEffect :=
    { mode := .sharesRebalanced
      shareChanges := [⟨"fixer", 10000, 6000, by decide, by decide⟩,
        ⟨"scout", 0, 4000, by decide, by decide⟩]
      actorIds_nodup := by decide
      unchanged_empty := by simp
      rebalanced := by simp }
  runtimeOwner := .scheduler
  operator_eq := rfl
  touched_valid := by decide +kernel
  rewrite_budget := by simp

theorem semantic_transaction_frame_scout : ∃ child, applyPatch soloProtocol scoutProposal =
    .ok child ∧ Frame scoutProposal.touchedSourcePaths soloProtocol child := by
  have hmetadata : validateOperatorMetadata scoutProposal = .ok () := by decide +kernel
  obtain ⟨child, hchild⟩ := exists_of_toBool (x := applyPatch soloProtocol scoutProposal)
    (by decide +kernel)
  exact ⟨child, hchild, semantic_transaction_frame _ child _ hmetadata hchild⟩

end Agintor.Search
