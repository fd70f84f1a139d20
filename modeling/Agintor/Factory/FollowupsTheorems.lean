import Agintor.Contracts.PublicPayload
import Agintor.Factory.Followups
import Agintor.Storage.FactoryChatRecording

/-!
# A factory project goes on

The runtime of a project, its chat and its messages stay in step through a call unless the call
replaces the runtime, or creates the chat, and then does not get to the rename of its message; and
the pins written with the first message are those that every later call with the same settings is
checked against.
-/

namespace Agintor.Factory

open Core Lib Storage.FactoryChat

variable {H : FactoryHost} {S : FactoryChatStore} {settings : Settings} {project : Project}
  {c : FactoryCall}

/-! ## Pins -/

lemma strip_runtimeProfileHash (profile : RuntimeProfile) :
    strip (runtimeProfileHash H profile) = runtimeProfileHash H profile :=
  Contracts.strip_of_isDigest (H.isDigest_stableHash profile.payload)

lemma runtimeProfileHash_ne (profile : RuntimeProfile) : runtimeProfileHash H profile ≠ "" := by
  intro hempty
  have hdigest := H.isDigest_stableHash profile.payload
  unfold runtimeProfileHash at hempty
  rw [hempty] at hdigest
  exact absurd hdigest (by decide)

/-- What the checks of a follow-up compare. -/
structure MeetsPins (H : FactoryHost) (settings : Settings) (chat : FactoryChatIdentity)
    (profile : RuntimeProfile) : Prop where
  profileHash : runtimeProfileHash H profile = strip chat.runtimeProfileHash
  backend : effectiveBackend H settings (some chat) = H.lower (strip chat.runtimeBackend)
  kind : effectiveRuntimeKind settings (some chat) =
    strip (orElse chat.runtimeKind "policy_modules")
  runtimeProvider : H.lower (strip profile.runtimeProvider) = H.lower (strip chat.runtimeProvider)
  agintorProvider : providerName H settings.provider = H.lower (strip chat.agintorProvider)

lemma checkPins_eq_ok_iff {chat : FactoryChatIdentity} {profile : RuntimeProfile} :
    checkPins H settings chat profile = .ok () ↔ MeetsPins H settings chat profile := by
  unfold checkPins
  simp only [bind_eq_ok_iff, raiseIf_eq_ok_iff, exists_const, not_not, ne_eq]
  constructor
  · rintro ⟨_, hhash, hbackend, hkind, hruntime, hagintor⟩
    exact ⟨hhash, hbackend, hkind, hruntime, hagintor⟩
  · intro h
    refine ⟨?_, h.profileHash, h.backend, h.kind, h.runtimeProvider, h.agintorProvider⟩
    rw [← h.profileHash]
    exact runtimeProfileHash_ne profile

/-- The kind that a chat is pinned to by a runtime of this kind. -/
def pinnedKind (runtimeKind : String) : String :=
  strip (orElse (strip (orElse runtimeKind "policy_modules")) "policy_modules")

/-- The settings and the runtime of the first build give pins that the settings meet again. -/
structure PinsAgree (H : FactoryHost) (settings : Settings) (profile exported : RuntimeProfile)
    (runtimeKind : String) : Prop where
  named : settings.provider.providerName ≠ some ""
  backend : effectiveBackend H settings none ≠ ""
  kind : orElse settings.runtimeKind "policy_modules" ≠ "policy_modules" →
    strip settings.runtimeKind = pinnedKind runtimeKind
  runtimeProvider : H.lower (strip exported.runtimeProvider) =
    H.lower (strip profile.runtimeProvider)

lemma lower_strip_lower_strip (H : FactoryHost) (s : String) :
    H.lower (strip (H.lower (strip s))) = H.lower (strip s) := by
  rw [H.strip_lower, strip_strip, H.lower_lower]

/-- The provider has one name for the pipeline and for the check. -/
lemma providerName_eq {provider : ModelProvider} (h : provider.providerName ≠ some "") :
    providerName H provider = H.lower (strip (strip (pipelineProviderName H provider))) := by
  unfold providerName pipelineProviderName
  rw [strip_strip]
  cases hname : provider.providerName with
  | none =>
    show H.lower (strip provider.className) = H.lower (strip (H.lower provider.className))
    rw [H.strip_lower, H.lower_lower]
  | some name =>
    have hne : name ≠ "" := by
      intro hempty
      rw [hname, hempty] at h
      exact h rfl
    show H.lower (strip (orElse name provider.className)) = H.lower (strip name)
    rw [orElse, if_neg hne]

variable {identity : FactoryChatIdentity} {backend runtimeHash : String}
    {exported : RuntimeProfile} {calls : List FactoryCall}

lemma effectiveBackend_newIdentity
    (hidentity : identity.runtimeBackend = strip (orElse (effectiveBackend H settings none) "local"))
    (h : effectiveBackend H settings none ≠ "") :
    effectiveBackend H settings (some identity) = H.lower (strip identity.runtimeBackend) := by
  by_cases hnone : settings.runtimeBackend.getD "" = ""
  · unfold effectiveBackend
    rw [hnone]
    rfl
  · have hsame : ∀ chat, effectiveBackend H settings chat =
        H.lower (strip (settings.runtimeBackend.getD "")) := by
      intro chat
      unfold effectiveBackend
      rw [orElse, if_neg hnone]
    rw [hidentity, orElse, if_neg h, hsame, hsame, strip_strip, lower_strip_lower_strip]

lemma effectiveRuntimeKind_newIdentity {runtimeKind : String}
    (hidentity : identity.runtimeKind = strip (orElse runtimeKind "policy_modules"))
    (h : orElse settings.runtimeKind "policy_modules" ≠ "policy_modules" →
      strip settings.runtimeKind = pinnedKind runtimeKind) :
    effectiveRuntimeKind settings (some identity) =
      strip (orElse identity.runtimeKind "policy_modules") := by
  by_cases hdefault : orElse settings.runtimeKind "policy_modules" = "policy_modules"
  · exact if_pos hdefault
  · have hgiven : orElse settings.runtimeKind "policy_modules" = settings.runtimeKind := by
      by_cases hempty : settings.runtimeKind = ""
      · exact absurd (if_pos hempty) hdefault
      · exact if_neg hempty
    refine (if_neg hdefault).trans ?_
    rw [hgiven, h hdefault, hidentity]
    rfl

variable {built : Export} {postRuntimeHash : String} {exportedHash : String}
    {files : PlanningFiles} {runtime : RuntimeDir} {prior : Prior} {path : String}

/-- The chat of a first build is pinned to what it will be checked against. -/
lemma meetsPins_newIdentity {profile exported : RuntimeProfile} (chatId : String)
    (h : PinsAgree H settings profile exported built.runtimeKind) :
    MeetsPins H settings
      (newIdentity H settings chatId (built.result H settings profile) exported) exported where
  profileHash := by
    show _ = strip (strip (runtimeProfileHash H exported))
    rw [strip_strip, strip_runtimeProfileHash]
  backend := effectiveBackend_newIdentity rfl h.backend
  kind := effectiveRuntimeKind_newIdentity rfl h.kind
  runtimeProvider := by
    show _ = H.lower (strip (strip profile.runtimeProvider))
    rw [strip_strip, h.runtimeProvider]
  agintorProvider := providerName_eq h.named

/-- A profile with the same hash and provider meets the same pins. -/
lemma MeetsPins.of_same {chat : FactoryChatIdentity} {profile profile' : RuntimeProfile}
    (h : MeetsPins H settings chat profile)
    (hhash : runtimeProfileHash H profile' = strip chat.runtimeProfileHash)
    (hprovider : H.lower (strip profile'.runtimeProvider) = H.lower (strip profile.runtimeProvider)) :
    MeetsPins H settings chat profile' :=
  { h with
    profileHash := hhash
    runtimeProvider := hprovider.trans h.runtimeProvider }

/-! ## The two kinds of calls -/

lemma checking_bind_error {α β : Type} {x : Except ChatError α} {e : ChatError} (hx : x = .error e)
    (k : α → ProjectProg β) (project : Project) :
    (checking x >>= k) project = (.error (.raised e), project) := by
  rw [hx]
  rfl

lemma checking_bind_ok {α β : Type} {x : Except ChatError α} {a : α} (hx : x = .ok a)
    (k : α → ProjectProg β) (project : Project) : (checking x >>= k) project = k a project := by
  rw [hx]
  rfl

lemma loadProjectRuntimeProfile_eq_ok_iff {profile : RuntimeProfile} :
    loadProjectRuntimeProfile path runtime = .ok profile ↔
      runtime.profileFile = some (.ok profile) := by
  unfold loadProjectRuntimeProfile
  cases runtime.profileFile with
  | none => simp
  | some result => simp

/-- The hash of a runtime does not depend on where the runtime is. -/
lemma loadCurrentRuntimeHash_eq_ok_iff {profile : RuntimeProfile} :
    loadCurrentRuntimeHash path runtime profile backend = .ok runtimeHash ↔
      ∃ raw, runtime.runtimeHash profile backend = .ok raw ∧ strip raw ≠ "" ∧
        strip raw = runtimeHash := by
  unfold loadCurrentRuntimeHash
  cases runtime.runtimeHash profile backend with
  | error e => simp
  | ok raw => simp [bind_eq_ok_iff, raiseIf_eq_ok_iff, pure_eq_ok]

/-- A follow-up gets to its message from an admitted entry and a checked build. -/
structure Replaces (H : FactoryHost) (S : FactoryChatStore) (settings : Settings) (project : Project)
    (chat : FactoryChatIdentity) (c : FactoryCall) (prior : Prior) (built : Export)
    (postRuntimeHash : String) : Prop where
  entered : enterFollowup H S settings project chat c = .ok prior
  build : c.build = .returned built
  checked : checkFollowupBuild H c.stagingDir chat built = .ok postRuntimeHash
  survives : c.crash ≠ some .replaceRuntime

/-- What was checked in the staging directory is found again in the project. -/
lemma checkCommitted_of_checked {chat : FactoryChatIdentity} {stagingDir : String}
    (h : checkFollowupBuild H stagingDir chat built = .ok postRuntimeHash) :
    ∃ profile, built.runtime.profileFile = some (.ok profile) ∧
      runtimeProfileHash H profile = strip chat.runtimeProfileHash ∧
      loadCurrentRuntimeHash S.projectDir built.runtime profile
        (H.lower (strip chat.runtimeBackend)) = .ok postRuntimeHash ∧
      checkCommitted H S chat built.runtime postRuntimeHash = .ok () := by
  unfold checkFollowupBuild at h
  simp only [bind_eq_ok_iff, raiseIf_eq_ok_iff, exists_const, not_not, ne_eq] at h
  obtain ⟨_, -, profile, hprofile, hhash, hload⟩ := h
  have hfile := loadProjectRuntimeProfile_eq_ok_iff.mp hprofile
  have hload' : loadCurrentRuntimeHash S.projectDir built.runtime profile
      (H.lower (strip chat.runtimeBackend)) = .ok postRuntimeHash :=
    loadCurrentRuntimeHash_eq_ok_iff.mpr (loadCurrentRuntimeHash_eq_ok_iff.mp hload)
  refine ⟨profile, hfile, hhash, hload', ?_⟩
  unfold checkCommitted
  simp only [bind_eq_ok_iff, raiseIf_eq_ok_iff, exists_const, not_not, ne_eq]
  exact ⟨profile, loadProjectRuntimeProfile_eq_ok_iff.mpr hfile, hhash, postRuntimeHash, hload', rfl⟩

lemma followup_of_replaces {chat : FactoryChatIdentity}
    (h : Replaces H S settings project chat c prior built postRuntimeHash) :
    followup H S settings chat c project =
      (.ok (followupDraft chat c prior built postRuntimeHash),
        { project with runtime := built.runtime }) := by
  obtain ⟨-, -, -, -, hcommitted⟩ := checkCommitted_of_checked (S := S) h.checked
  have hreach : reach c .replaceRuntime = pure () := if_neg h.survives
  show (checking (enterFollowup H S settings project chat c) >>= _) project = _
  rw [checking_bind_ok h.entered, h.build]
  show (checking (checkFollowupBuild H c.stagingDir chat built) >>= _) project = _
  rw [checking_bind_ok h.checked, hreach]
  show (checking (checkCommitted H S chat built.runtime postRuntimeHash) >>= _)
    { project with runtime := built.runtime } = _
  rw [checking_bind_ok hcommitted]
  rfl

/-- A follow-up changes nothing before it records, or it has replaced the runtime. -/
lemma followup_cases (H : FactoryHost) (S : FactoryChatStore) (settings : Settings)
    (project : Project) (chat : FactoryChatIdentity) (c : FactoryCall) :
    (∃ r, followup H S settings chat c project = (.error r, project)) ∨
      ∃ prior built postRuntimeHash,
        Replaces H S settings project chat c prior built postRuntimeHash ∧
        followup H S settings chat c project =
          (.ok (followupDraft chat c prior built postRuntimeHash),
            { project with runtime := built.runtime }) := by
  have hfollowup : followup H S settings chat c project =
      (checking (enterFollowup H S settings project chat c) >>= _) project := rfl
  cases hentered : enterFollowup H S settings project chat c with
  | error e => exact Or.inl ⟨_, hfollowup.trans (checking_bind_error hentered _ _)⟩
  | ok prior =>
    rw [checking_bind_ok hentered] at hfollowup
    cases hbuild : c.build with
    | died left =>
      rw [hbuild] at hfollowup
      exact Or.inl ⟨_, hfollowup⟩
    | raised e left =>
      rw [hbuild] at hfollowup
      exact Or.inl ⟨_, hfollowup⟩
    | returned built =>
      rw [hbuild] at hfollowup
      cases hchecked : checkFollowupBuild H c.stagingDir chat built with
      | error e => exact Or.inl ⟨_, hfollowup.trans (checking_bind_error hchecked _ _)⟩
      | ok postRuntimeHash =>
        by_cases hcrash : c.crash = some .replaceRuntime
        · have hreach : reach c .replaceRuntime = Stateful.raise .killed := if_pos hcrash
          refine Or.inl ⟨.killed, hfollowup.trans ?_⟩
          show (checking (checkFollowupBuild H c.stagingDir chat built) >>= _) project = _
          rw [checking_bind_ok hchecked, hreach]
          rfl
        · have hreplaces : Replaces H S settings project chat c prior built postRuntimeHash :=
            ⟨hentered, hbuild, hchecked, hcrash⟩
          exact Or.inr ⟨prior, built, postRuntimeHash, hreplaces, followup_of_replaces hreplaces⟩

/-- `create_chat` on a project without a chat. -/
lemma createChat_apply (S : FactoryChatStore) (project : Project) (identity : FactoryChatIdentity)
    (hmanifest : project.chat.manifest = none) :
    createChat S identity project =
      if identity.chatId = "" then (.error (.raised "chat_id must not be empty"), project)
      else (.ok (), { project with chat := { project.chat with manifest := some identity } }) := by
  have hfree : raiseIf (project.chat.manifest.isSome = true) ("factory chat already exists at " ++
      S.manifestPath ++ "; use load_chat() to continue or pick a fresh project_dir") = .ok () := by
    rw [hmanifest]
    rfl
  show (checking (raiseIf (project.chat.manifest.isSome = true) _) >>= _) project = _
  rw [checking_bind_ok hfree]
  by_cases hnamed : identity.chatId = ""
  · rw [if_pos hnamed, checking_bind_error (raiseIf_pos hnamed)]
  · rw [if_neg hnamed, checking_bind_ok (raiseIf_neg hnamed)]
    rfl

/-- A first call gets to its message from a checked build. -/
structure Creates (H : FactoryHost) (S : FactoryChatStore) (settings : Settings) (c : FactoryCall)
    (profile : RuntimeProfile) (built : Export) (exported : RuntimeProfile)
    (exportedHash : String) : Prop where
  profile : c.profilePath.getD (.ok settings.defaultProfile) = .ok profile
  build : c.build = .returned built
  checked : checkInitialBuild H S settings built = .ok (exported, exportedHash)
  survives : c.crash ≠ some .createChat
  named : strip c.chatId ≠ ""

/-- The project with the chat that a first call creates. -/
def begun (project : Project) (runtime : RuntimeDir) (identity : FactoryChatIdentity) : Project where
  runtime := runtime
  chat := { project.chat with manifest := some identity }

lemma initialMessage_of_creates {profile exported : RuntimeProfile}
    (hmanifest : project.chat.manifest = none)
    (h : Creates H S settings c profile built exported exportedHash) :
    initialMessage H S settings c project = (.ok (initialDraft c built exportedHash),
      begun project built.runtime (newIdentity H settings (strip c.chatId)
        (built.result H settings profile) exported)) := by
  have hcreate := createChat_apply S { project with runtime := built.runtime }
    (newIdentity H settings (strip c.chatId) (built.result H settings profile) exported) hmanifest
  rw [if_neg (show (newIdentity H settings (strip c.chatId) (built.result H settings profile)
    exported).chatId ≠ "" from h.named)] at hcreate
  have hreach : reach c .createChat = pure () := if_neg h.survives
  show (checking (c.profilePath.getD (.ok settings.defaultProfile)) >>= _) project = _
  rw [checking_bind_ok h.profile, h.build]
  show (checking (checkInitialBuild H S settings built) >>= _)
    { project with runtime := built.runtime } = _
  rw [checking_bind_ok h.checked]
  show (reach c .createChat >>= _) _ = _
  rw [hreach]
  show (createChat S (newIdentity H settings (strip c.chatId) (built.result H settings profile)
    exported) >>= _) _ = _
  rw [Stateful.bind_of_ok (congrArg Prod.fst hcreate), hcreate]
  rfl

/-- A first call creates no chat before it records, or it has created one. -/
lemma initialMessage_cases (H : FactoryHost) (S : FactoryChatStore) (settings : Settings)
    {project : Project} (c : FactoryCall) (hmanifest : project.chat.manifest = none) :
    (∃ r runtime, initialMessage H S settings c project =
        (.error r, { project with runtime := runtime })) ∨
      ∃ profile built exported exportedHash,
        Creates H S settings c profile built exported exportedHash ∧
        initialMessage H S settings c project = (.ok (initialDraft c built exportedHash),
          begun project built.runtime (newIdentity H settings (strip c.chatId)
            (built.result H settings profile) exported)) := by
  have hinitial : initialMessage H S settings c project =
      (checking (c.profilePath.getD (.ok settings.defaultProfile)) >>= _) project := rfl
  cases hprofile : c.profilePath.getD (.ok settings.defaultProfile) with
  | error e =>
    exact Or.inl ⟨_, project.runtime, hinitial.trans (checking_bind_error hprofile _ _)⟩
  | ok profile =>
    rw [checking_bind_ok hprofile] at hinitial
    cases hbuild : c.build with
    | died left =>
      rw [hbuild] at hinitial
      exact Or.inl ⟨_, left, hinitial⟩
    | raised e left =>
      rw [hbuild] at hinitial
      exact Or.inl ⟨_, left, hinitial⟩
    | returned built =>
      rw [hbuild] at hinitial
      cases hchecked : checkInitialBuild H S settings built with
      | error e =>
        exact Or.inl ⟨_, built.runtime, hinitial.trans (checking_bind_error hchecked _ _)⟩
      | ok pair =>
        obtain ⟨exported, exportedHash⟩ := pair
        by_cases hcrash : c.crash = some .createChat
        · have hreach : reach c .createChat = Stateful.raise .killed := if_pos hcrash
          refine Or.inl ⟨.killed, built.runtime, hinitial.trans ?_⟩
          show (checking (checkInitialBuild H S settings built) >>= _) _ = _
          rw [checking_bind_ok hchecked]
          show (reach c .createChat >>= _) _ = _
          rw [hreach]
          rfl
        by_cases hnamed : strip c.chatId = ""
        · have hreach : reach c .createChat = pure () := if_neg hcrash
          have hcreate := createChat_apply S { project with runtime := built.runtime }
            (newIdentity H settings (strip c.chatId) (built.result H settings profile) exported)
            hmanifest
          rw [if_pos (show (newIdentity H settings (strip c.chatId) (built.result H settings profile)
            exported).chatId = "" from hnamed)] at hcreate
          refine Or.inl ⟨.raised "chat_id must not be empty", built.runtime, hinitial.trans ?_⟩
          show (checking (checkInitialBuild H S settings built) >>= _) _ = _
          rw [checking_bind_ok hchecked]
          show (reach c .createChat >>= _) _ = _
          rw [hreach]
          show (createChat S (newIdentity H settings (strip c.chatId)
            (built.result H settings profile) exported) >>= _) _ = _
          rw [Stateful.bind_of_error (congrArg Prod.fst hcreate), hcreate]
        · have hcreates : Creates H S settings c profile built exported exportedHash :=
            ⟨hprofile, hbuild, hchecked, hcrash, hnamed⟩
          exact Or.inr ⟨profile, built, exported, exportedHash, hcreates,
            initialMessage_of_creates hmanifest hcreates⟩

/-! ## In step -/

/-- A project without a chat. -/
structure NotBegun (chat : ChatFiles) : Prop where
  manifest : chat.manifest = none
  messages : chat.messages = .empty
  renamed : chat.renamed = []

/-- A project whose runtime is that of its last message, and meets the pins of its chat. -/
structure Ongoing (H : FactoryHost) (S : FactoryChatStore) (settings : Settings) (project : Project)
    (chat : FactoryChatIdentity) (profile : RuntimeProfile) (last : FactoryMessage) : Prop where
  manifest : project.chat.manifest = some chat
  logged : Logged S project.chat
  latest : project.chat.renamed.getLast? = some last
  goal : last.goalSpecPath ≠ ""
  profileFile : project.runtime.profileFile = some (.ok profile)
  pins : MeetsPins H settings chat profile
  runtimeHash : loadCurrentRuntimeHash S.projectDir project.runtime profile
    (H.lower (strip chat.runtimeBackend)) = .ok last.leaderRuntimeHash

def InStep (H : FactoryHost) (S : FactoryChatStore) (settings : Settings) (project : Project) :
    Prop :=
  NotBegun project.chat ∨ ∃ chat profile last, Ongoing H S settings project chat profile last

variable {chat : FactoryChatIdentity} {profile : RuntimeProfile} {last : FactoryMessage}

lemma strip_of_loaded (h : loadCurrentRuntimeHash path runtime profile backend = .ok runtimeHash) :
    strip runtimeHash = runtimeHash := by
  obtain ⟨raw, -, -, rfl⟩ := loadCurrentRuntimeHash_eq_ok_iff.mp h
  exact strip_strip raw

/-- A follow-up without a profile of its own is let in. -/
lemma Ongoing.enterFollowup_eq (h : Ongoing H S settings project chat profile last)
    (c : FactoryCall) (hprofile : c.profilePath = none) :
    enterFollowup H S settings project chat c =
      .ok ⟨profile, last, project.chat.renamed.length⟩ := by
  have hsame : ¬(strip last.leaderRuntimeHash ≠ "" ∧
      last.leaderRuntimeHash ≠ strip last.leaderRuntimeHash) := by
    rw [strip_of_loaded h.runtimeHash]
    simp
  have hgiven : ¬(none : Option (Except ChatError RuntimeProfile)).isSome = true := by simp
  unfold enterFollowup
  rw [hprofile, raiseIf_neg hgiven, ok_bind,
    loadProjectRuntimeProfile_eq_ok_iff.mpr h.profileFile, ok_bind,
    checkPins_eq_ok_iff.mpr h.pins, ok_bind]
  show (S.latestMessage project.chat >>= _) = _
  rw [h.logged.latestMessage_eq, ok_bind, h.latest]
  show (raiseIf (last.goalSpecPath = "") _ >>= _) = _
  rw [raiseIf_neg h.goal, ok_bind, h.runtimeHash, ok_bind, raiseIf_neg hsame, ok_bind,
    h.logged.nextMessageIndex_eq, ok_bind, pure_eq_ok]

lemma Ongoing.prior_eq (h : Ongoing H S settings project chat profile last)
    (hentered : enterFollowup H S settings project chat c = .ok prior) :
    prior = ⟨profile, last, project.chat.renamed.length⟩ := by
  cases hpath : c.profilePath with
  | none =>
    rw [h.enterFollowup_eq c hpath] at hentered
    exact (Except.ok.inj hentered).symm
  | some path =>
    unfold enterFollowup at hentered
    rw [hpath, raiseIf_pos (show (some path).isSome = true from rfl)] at hentered
    simp at hentered

/-! ## Recording -/

/-- What a recorded message keeps of its draft, and the copy of its goal specification. -/
lemma recorded_fields (call : Call) :
    (call.recorded S).leaderRuntimeHash = call.message.leaderRuntimeHash ∧
    (call.recorded S).parentMessageId = call.message.parentMessageId ∧
    ((∃ a ∈ call.given, a.1 = .goalSpecPath) → (call.recorded S).goalSpecPath ≠ "") := by
  unfold Call.recorded FactoryChatStore.recordedMessage
  generalize S.messageDirPath (FactoryChatStore.formatMessageDir call.message) = root
  have hpath : ∀ name, root ++ "/" ++ name ≠ "" := by
    intro name hempty
    have hlength := congrArg (fun text => text.toList.length) hempty
    simp at hlength
  -- the fold keeps the first two fields, and the path once it has been set
  have hfold : ∀ (l : List (ArtifactField × ArtifactSource)) (m : FactoryMessage),
      (l.foldl (fun m a => m.setattr (root ++ "/" ++ a.2.name) a.1) m).leaderRuntimeHash =
        m.leaderRuntimeHash ∧
      (l.foldl (fun m a => m.setattr (root ++ "/" ++ a.2.name) a.1) m).parentMessageId =
        m.parentMessageId ∧
      ((m.goalSpecPath ≠ "" ∨ ∃ a ∈ l, a.1 = .goalSpecPath) →
        (l.foldl (fun m a => m.setattr (root ++ "/" ++ a.2.name) a.1) m).goalSpecPath ≠ "") := by
    intro l
    induction l with
    | nil =>
      intro m
      refine ⟨rfl, rfl, fun h => ?_⟩
      rcases h with h | ⟨a, ha, -⟩
      · exact h
      · exact absurd ha List.not_mem_nil
    | cons a l ih =>
      intro m
      obtain ⟨hhash, hparent, hgoal⟩ := ih (m.setattr (root ++ "/" ++ a.2.name) a.1)
      rw [List.foldl_cons]
      refine ⟨hhash.trans (by cases a.1 <;> rfl), hparent.trans (by cases a.1 <;> rfl), fun h => ?_⟩
      apply hgoal
      cases ha : a.1 with
      | goalSpecPath => exact Or.inl (hpath a.2.name)
      | _ =>
        rcases h with h | ⟨b, hb, hname⟩
        · exact Or.inl h
        · rcases List.mem_cons.mp hb with rfl | hb
          · rw [ha] at hname
            cases hname
          · exact Or.inr ⟨b, hb, hname⟩
  obtain ⟨hhash, hparent, hgoal⟩ := hfold call.given call.message
  exact ⟨hhash, hparent, fun h => hgoal (Or.inr h)⟩

lemma goalSpec_mem (files : PlanningFiles) :
    ∃ a ∈ (factoryMessageArtifacts files).entries.filter fun a => a.2.path ≠ "",
      a.1 = ArtifactField.goalSpecPath := by
  have hget : (factoryMessageArtifacts files).get? .goalSpecPath = some files.goalSpec := by
    simp [factoryMessageArtifacts]
  refine ⟨(.goalSpecPath, files.goalSpec), ?_, rfl⟩
  rw [List.mem_filter]
  exact ⟨Dict.get?_eq_some_iff.mp hget, by simpa using files.goalSpec_path⟩

variable (project c) in
/-- The call that records a draft on a project whose chat is logged. -/
lemma record_cases (draft : Draft) (hlogged : Logged S project.chat)
    (hmanifest : project.chat.manifest = some chat) (hchat : draft.message.chatId = chat.chatId)
    (hindex : draft.message.messageIndex = project.chat.renamed.length)
    (hartifacts : draft.artifacts = factoryMessageArtifacts files)
    (hfiles : validateFactoryPlanningArtifacts (factoryMessageArtifacts files) = .ok ()) :
    (¬(c.recordCall draft).Publishes project.chat ∧
        Kept project.chat (record S c draft project).2.chat) ∨
      (c.recordCall draft).Publishes project.chat ∧
        Added S project.chat (c.recordCall draft) (record S c draft project).2.chat ∧
        ((record S c draft project).2.chat.manifest = some chat ∨
          (record S c draft project).2.chat.manifest =
            some (counted chat ((c.recordCall draft).recorded S))) ∧
        (c.crash = none → (record S c draft project).1 = .ok ((c.recordCall draft).recorded S)) := by
  have hadmission := hlogged.admits (c := c.recordCall draft) hmanifest hchat hindex (by
    intro a ha
    unfold validateFactoryPlanningArtifacts at hfiles
    rw [forM_eq_ok_iff] at hfiles
    have hfile := hfiles a (by
      rw [← hartifacts]
      exact ha)
    rw [raiseIf_eq_ok_iff] at hfile
    simpa using hfile)
  rcases perform_of_admission (c := c.recordCall draft) hindex hadmission with
    hkept | ⟨hpublishes, hadded, hsame, hok⟩
  · exact Or.inl hkept
  · refine Or.inr ⟨hpublishes, hadded, ?_, ?_⟩
    · rw [hmanifest] at hsame
      exact hsame
    · intro hnone
      apply hok
      show c.recordCrash = none
      unfold FactoryCall.recordCrash
      rw [hnone]

lemma MeetsPins.counted (h : MeetsPins H settings chat profile) (m : FactoryMessage) :
    MeetsPins H settings (counted chat m) profile :=
  ⟨h.profileHash, h.backend, h.kind, h.runtimeProvider, h.agintorProvider⟩

/-- A project whose call has added its message goes on with it. -/
lemma ongoing_of_added {after : Project} (hlogged : Logged S project.chat)
    (hlength : project.chat.renamed.length < 10000) {draft : Draft}
    (hindex : draft.message.messageIndex = project.chat.renamed.length)
    (hartifacts : draft.artifacts = factoryMessageArtifacts files)
    (hadded : Added S project.chat (c.recordCall draft) after.chat)
    (hmanifest : after.chat.manifest = some chat ∨
      after.chat.manifest = some (counted chat ((c.recordCall draft).recorded S)))
    (hfile : after.runtime.profileFile = some (.ok profile))
    (hpins : MeetsPins H settings chat profile)
    (hhash : loadCurrentRuntimeHash S.projectDir after.runtime profile
      (H.lower (strip chat.runtimeBackend)) = .ok draft.message.leaderRuntimeHash) :
    InStep H S settings after := by
  obtain ⟨hleader, -, hgoal⟩ := recorded_fields (S := S) (c.recordCall draft)
  have hgoal' : ((c.recordCall draft).recorded S).goalSpecPath ≠ "" := by
    apply hgoal
    unfold Call.given FactoryCall.recordCall
    rw [hartifacts]
    exact goalSpec_mem files
  have hlatest : after.chat.renamed.getLast? = some ((c.recordCall draft).recorded S) := by
    rw [hadded.renamed, List.getLast?_concat]
  have hlogged' := hlogged.of_added hindex hlength hadded
  rcases hmanifest with hmanifest | hmanifest
  · exact Or.inr ⟨chat, profile, _, hmanifest, hlogged', hlatest, hgoal', hfile, hpins,
      hhash.trans (congrArg Except.ok hleader.symm)⟩
  · exact Or.inr ⟨_, profile, _, hmanifest, hlogged', hlatest, hgoal', hfile, hpins.counted _,
      hhash.trans (congrArg Except.ok hleader.symm)⟩

/-! ## Calls that keep a project in step -/

/-- A follow-up that replaces the runtime gets to the rename of its message, unless the hash is what
it was; the new runtime names the same provider; and there is room for one more message. -/
structure FollowupLands (H : FactoryHost) (S : FactoryChatStore) (project : Project)
    (chat : FactoryChatIdentity) (c : FactoryCall) (prior : Prior) (built : Export)
    (postRuntimeHash : String) : Prop where
  provider : ∀ profile, built.runtime.profileFile = some (.ok profile) →
    H.lower (strip profile.runtimeProvider) = H.lower (strip prior.profile.runtimeProvider)
  lands : (c.recordCall (followupDraft chat c prior built postRuntimeHash)).Publishes project.chat ∨
    postRuntimeHash = prior.message.leaderRuntimeHash
  room : (c.recordCall (followupDraft chat c prior built postRuntimeHash)).Publishes project.chat →
    project.chat.renamed.length < 10000

/-- A call that creates the chat gets to the rename of its message, with pins that the settings meet
again. -/
structure CreationLands (H : FactoryHost) (settings : Settings) (project : Project)
    (c : FactoryCall) (profile : RuntimeProfile) (built : Export) (exported : RuntimeProfile)
    (exportedHash : String) : Prop where
  pins : PinsAgree H settings profile exported built.runtimeKind
  lands : (c.recordCall (initialDraft c built exportedHash)).Publishes project.chat

structure Safe (H : FactoryHost) (S : FactoryChatStore) (settings : Settings) (project : Project)
    (c : FactoryCall) : Prop where
  followup : ∀ chat prior built postRuntimeHash, project.chat.manifest = some chat →
    Replaces H S settings project chat c prior built postRuntimeHash →
    FollowupLands H S project chat c prior built postRuntimeHash
  creation : ∀ profile built exported exportedHash, project.chat.manifest = none →
    Creates H S settings c profile built exported exportedHash →
    CreationLands H settings project c profile built exported exportedHash

def AllSafe (H : FactoryHost) (S : FactoryChatStore) (settings : Settings) :
    Project → List FactoryCall → Prop
  | _, [] => True
  | project, c :: calls => Safe H S settings project c ∧
      AllSafe H S settings (applyFactoryMessage H S settings c project).2 calls

/-- A call without an instruction is refused. -/
lemma apply_of_blank (h : canonicalGoalPrompt c.instruction = "") :
    applyFactoryMessage H S settings c project =
      (.error (.raised "factory instruction may not be empty"), project) := by
  unfold applyFactoryMessage
  rw [checking_bind_error (raiseIf_pos h)]

/-- The draft of a call. -/
def draftOf (H : FactoryHost) (S : FactoryChatStore) (settings : Settings) (c : FactoryCall) :
    Option FactoryChatIdentity → ProjectProg Draft
  | some chat => followup H S settings chat c
  | none => initialMessage H S settings c

lemma apply_eq (h : canonicalGoalPrompt c.instruction ≠ "") :
    applyFactoryMessage H S settings c project =
      (draftOf H S settings c project.chat.manifest >>= record S c) project := by
  unfold applyFactoryMessage
  rw [checking_bind_ok (raiseIf_neg h)]
  show (match project.chat.manifest with
    | some chat => followup H S settings chat c >>= record S c
    | none => initialMessage H S settings c >>= record S c : ProjectProg FactoryMessage) project = _
  cases project.chat.manifest with
  | none => rfl
  | some chat => rfl

lemma apply_of_replaces (hprompt : canonicalGoalPrompt c.instruction ≠ "")
    (hmanifest : project.chat.manifest = some chat)
    (h : Replaces H S settings project chat c prior built postRuntimeHash) :
    applyFactoryMessage H S settings c project =
      record S c (followupDraft chat c prior built postRuntimeHash)
        { project with runtime := built.runtime } := by
  have hdraft := followup_of_replaces h
  rw [apply_eq hprompt, hmanifest]
  show (followup H S settings chat c >>= record S c) project = _
  rw [Stateful.bind_of_ok (congrArg Prod.fst hdraft), hdraft]

lemma apply_of_creates {profile exported : RuntimeProfile}
    (hprompt : canonicalGoalPrompt c.instruction ≠ "") (hmanifest : project.chat.manifest = none)
    (h : Creates H S settings c profile built exported exportedHash) :
    applyFactoryMessage H S settings c project = record S c (initialDraft c built exportedHash)
      (begun project built.runtime (newIdentity H settings (strip c.chatId)
        (built.result H settings profile) exported)) := by
  have hdraft := initialMessage_of_creates hmanifest h
  rw [apply_eq hprompt, hmanifest]
  show (initialMessage H S settings c >>= record S c) project = _
  rw [Stateful.bind_of_ok (congrArg Prod.fst hdraft), hdraft]

/-- The files of a build that passed its checks are there. -/
lemma validate_of_checkedFollowup {stagingDir postRuntimeHash : String}
    (h : checkFollowupBuild H stagingDir chat built = .ok postRuntimeHash) :
    validateFactoryPlanningArtifacts (factoryMessageArtifacts built.files) = .ok () := by
  unfold checkFollowupBuild at h
  obtain ⟨_, hvalid, -⟩ := bind_eq_ok_iff.mp h
  exact hvalid

lemma checkInitialBuild_eq_ok_iff :
    checkInitialBuild H S settings built = .ok (exported, exportedHash) ↔
      validateFactoryPlanningArtifacts (factoryMessageArtifacts built.files) = .ok () ∧
      built.runtime.profileFile = some (.ok exported) ∧
      loadCurrentRuntimeHash S.projectDir built.runtime exported
        (effectiveBackend H settings none) = .ok exportedHash := by
  unfold checkInitialBuild
  simp only [bind_eq_ok_iff, loadProjectRuntimeProfile_eq_ok_iff, pure_eq_ok, Except.ok.injEq,
    Prod.mk.injEq]
  constructor
  · rintro ⟨_, hvalid, _, hfile, _, hload, hexported, hhash⟩
    rw [hexported] at hfile hload
    rw [hhash] at hload
    exact ⟨hvalid, hfile, hload⟩
  · rintro ⟨hvalid, hfile, hload⟩
    exact ⟨(), hvalid, exported, hfile, exportedHash, hload, rfl, rfl⟩

/-- A follow-up that lands keeps the project in step. -/
lemma Ongoing.followup (h : Ongoing H S settings project chat profile last)
    (hreplaces : Replaces H S settings project chat c prior built postRuntimeHash)
    (hlands : FollowupLands H S project chat c prior built postRuntimeHash) :
    InStep H S settings (record S c (followupDraft chat c prior built postRuntimeHash)
      { project with runtime := built.runtime }).2 := by
  obtain ⟨profile', hfile, hhash, hload, -⟩ := checkCommitted_of_checked (S := S) hreplaces.checked
  have hprior := h.prior_eq hreplaces.entered
  have hindex : prior.messageIndex = project.chat.renamed.length := by rw [hprior]
  have hpins : MeetsPins H settings chat profile' := by
    have hprovider := hlands.provider profile' hfile
    rw [hprior] at hprovider
    exact h.pins.of_same hhash hprovider
  rcases record_cases { project with runtime := built.runtime } c
      (followupDraft chat c prior built postRuntimeHash) h.logged h.manifest rfl hindex rfl
      (validate_of_checkedFollowup hreplaces.checked) with
    ⟨hnot, hkept⟩ | ⟨hpublishes, hadded, hmanifest, -⟩
  · -- nothing was recorded, and the hash is what it was
    have hsame : postRuntimeHash = last.leaderRuntimeHash := by
      have hor := hlands.lands.resolve_left hnot
      rwa [hprior] at hor
    have hne : project.chat.renamed ≠ [] := by
      intro hnil
      have hlatest := h.latest
      rw [hnil] at hlatest
      simp at hlatest
    refine Or.inr ⟨chat, profile', last, hkept.manifest.trans h.manifest, h.logged.of_kept hne hkept,
      ?_, h.goal, hfile, hpins, hsame ▸ hload⟩
    rw [hkept.renamed]
    exact h.latest
  · exact ongoing_of_added h.logged (hlands.room hpublishes) hindex rfl hadded hmanifest hfile hpins
      hload

lemma NotBegun.logged (h : NotBegun project.chat) : Logged S project.chat where
  numbered := by
    unfold ChatFiles.published
    rw [h.messages, h.renamed]
    exact .empty
  leftovers := fun _ => h.messages

/-- A first call that lands leaves the project in step. -/
lemma NotBegun.creation (h : NotBegun project.chat)
    (hcreates : Creates H S settings c profile built exported exportedHash)
    (hlands : CreationLands H settings project c profile built exported exportedHash) :
    InStep H S settings (record S c (initialDraft c built exportedHash)
      (begun project built.runtime (newIdentity H settings (strip c.chatId)
        (built.result H settings profile) exported))).2 := by
  obtain ⟨hvalid, hfile, hload⟩ := checkInitialBuild_eq_ok_iff.mp hcreates.checked
  have hpins := meetsPins_newIdentity (strip c.chatId) hlands.pins
  have hlogged : Logged S (begun project built.runtime (newIdentity H settings (strip c.chatId)
      (built.result H settings profile) exported)).chat :=
    ⟨(h.logged (S := S)).numbered, fun _ => h.messages⟩
  have hindex : (initialDraft c built exportedHash).message.messageIndex =
      project.chat.renamed.length := by
    rw [h.renamed]
    rfl
  have hbackend : H.lower (strip (newIdentity H settings (strip c.chatId)
      (built.result H settings profile) exported).runtimeBackend) =
        effectiveBackend H settings none := by
    show H.lower (strip (strip (orElse (effectiveBackend H settings none) "local"))) = _
    rw [orElse, if_neg hlands.pins.backend, strip_strip]
    exact lower_strip_lower_strip H _
  rcases record_cases _ c (initialDraft c built exportedHash) hlogged rfl rfl hindex rfl hvalid with
    ⟨hnot, -⟩ | ⟨-, hadded, hmanifest, -⟩
  · exact absurd ⟨hlands.lands.readable, hlands.lands.survives⟩ hnot
  · refine ongoing_of_added hlogged ?_ hindex rfl hadded hmanifest hfile hpins ?_
    · show project.chat.renamed.length < 10000
      rw [h.renamed]
      decide
    · rw [hbackend]
      exact loadCurrentRuntimeHash_eq_ok_iff.mpr (loadCurrentRuntimeHash_eq_ok_iff.mp hload)

/-- A call that is safe keeps the project in step. -/
lemma InStep.apply (h : InStep H S settings project) (hsafe : Safe H S settings project c) :
    InStep H S settings (applyFactoryMessage H S settings c project).2 := by
  by_cases hblank : canonicalGoalPrompt c.instruction = ""
  · rwa [apply_of_blank hblank]
  rw [apply_eq hblank]
  rcases h with hnone | ⟨chat, profile, last, hongoing⟩
  · rw [hnone.manifest]
    show InStep H S settings ((initialMessage H S settings c >>= record S c) project).2
    rcases initialMessage_cases H S settings c hnone.manifest with
      ⟨r, runtime, hstopped⟩ | ⟨profile, built, exported, exportedHash, hcreates, hdraft⟩
    · rw [Stateful.bind_of_error (congrArg Prod.fst hstopped), hstopped]
      exact Or.inl hnone
    · rw [Stateful.bind_of_ok (congrArg Prod.fst hdraft), hdraft]
      exact hnone.creation hcreates
        (hsafe.creation profile built exported exportedHash hnone.manifest hcreates)
  · rw [hongoing.manifest]
    show InStep H S settings ((followup H S settings chat c >>= record S c) project).2
    rcases followup_cases H S settings project chat c with
      ⟨r, hstopped⟩ | ⟨prior, built, postRuntimeHash, hreplaces, hdraft⟩
    · rw [Stateful.bind_of_error (congrArg Prod.fst hstopped), hstopped]
      exact Or.inr ⟨chat, profile, last, hongoing⟩
    · rw [Stateful.bind_of_ok (congrArg Prod.fst hdraft), hdraft]
      exact hongoing.followup hreplaces
        (hsafe.followup chat prior built postRuntimeHash hongoing.manifest hreplaces)

/-! ## What a project in step promises -/

/-- The build of a call succeeds: it returns a runtime that loads, under the pinned profile where
there is one, and files that can be copied. -/
structure BuildSucceeds (H : FactoryHost) (S : FactoryChatStore) (settings : Settings)
    (project : Project) (c : FactoryCall) (built : Export) : Prop where
  build : c.build = .returned built
  files : ∀ a ∈ (factoryMessageArtifacts built.files).entries, a.2.path ≠ "" →
    a.2.isFile = true ∧ a.2.content.isSome
  loads : match project.chat.manifest with
    | some chat => ∃ postRuntimeHash, checkFollowupBuild H c.stagingDir chat built = .ok postRuntimeHash
    | none => ∃ checked, checkInitialBuild H S settings built = .ok checked

/-- The arguments of a call: a follow-up has no profile of its own, and a first call gives its chat a
name and finds its profile. -/
def Admissible (settings : Settings) (project : Project) (c : FactoryCall) : Prop :=
  match project.chat.manifest with
  | some _ => c.profilePath = none
  | none => strip c.chatId ≠ "" ∧
      ∃ profile, c.profilePath.getD (.ok settings.defaultProfile) = .ok profile

/-- The runtime, the chat and the messages agree, and the next call with the same settings is let in
and adds the next message if its build succeeds. -/
structure GoesOn (H : FactoryHost) (S : FactoryChatStore) (settings : Settings) (project : Project) :
    Prop where
  latest : S.latestMessage project.chat = .ok project.chat.renamed.getLast?
  runtimeHash : ∀ last, project.chat.renamed.getLast? = some last → ∃ chat profile,
    project.chat.manifest = some chat ∧ project.runtime.profileFile = some (.ok profile) ∧
    loadCurrentRuntimeHash S.projectDir project.runtime profile
      (H.lower (strip chat.runtimeBackend)) = .ok last.leaderRuntimeHash
  recorded : project.chat.manifest.isSome → project.chat.renamed ≠ []
  pinned : ∀ c chat, project.chat.manifest = some chat → c.profilePath = none →
    ∃ prior, enterFollowup H S settings project chat c = .ok prior
  next : ∀ c built, canonicalGoalPrompt c.instruction ≠ "" → c.crash = none →
    Admissible settings project c → BuildSucceeds H S settings project c built →
    ∃ m, (applyFactoryMessage H S settings c project).1 = .ok m ∧
      (applyFactoryMessage H S settings c project).2.chat.renamed = project.chat.renamed ++ [m] ∧
      m.messageIndex = project.chat.renamed.length ∧
      m.parentMessageId = project.chat.renamed.getLast?.map (·.messageId.text)

/-- A call whose artifacts can be copied and that does not die gets to its rename. -/
lemma publishes_of_succeeds {chat : ChatFiles} {draft : Draft} (hcrash : c.crash = none)
    (hartifacts : draft.artifacts = factoryMessageArtifacts built.files)
    (hfiles : ∀ a ∈ (factoryMessageArtifacts built.files).entries, a.2.path ≠ "" →
      a.2.isFile = true ∧ a.2.content.isSome) : (c.recordCall draft).Publishes chat where
  readable := by
    intro a ha
    unfold Call.given FactoryCall.recordCall at ha
    rw [hartifacts] at ha
    obtain ⟨hmem, hpath⟩ := List.mem_filter.mp ha
    exact (hfiles a hmem (by simpa using hpath)).2
  survives := by
    intro i hi
    unfold FactoryCall.recordCall FactoryCall.recordCrash at hi
    rw [hcrash] at hi
    simp at hi

variable (project) in
/-- A call that records a draft and does not die returns the message it has added. -/
lemma record_adds (draft : Draft) {parent : Option String} (hlogged : Logged S project.chat)
    (hmanifest : project.chat.manifest = some chat) (hcrash : c.crash = none)
    (hchat : draft.message.chatId = chat.chatId)
    (hindex : draft.message.messageIndex = project.chat.renamed.length)
    (hparent : draft.message.parentMessageId = parent)
    (hartifacts : draft.artifacts = factoryMessageArtifacts files)
    (hvalid : validateFactoryPlanningArtifacts (factoryMessageArtifacts files) = .ok ())
    (hpublishes : (c.recordCall draft).Publishes project.chat) :
    ∃ m, (record S c draft project).1 = .ok m ∧
      (record S c draft project).2.chat.renamed = project.chat.renamed ++ [m] ∧
      m.messageIndex = project.chat.renamed.length ∧ m.parentMessageId = parent := by
  rcases record_cases project c draft hlogged hmanifest hchat hindex hartifacts hvalid with
    ⟨hnot, -⟩ | ⟨-, hadded, -, hok⟩
  · exact absurd hpublishes hnot
  · refine ⟨_, hok hcrash, hadded.renamed, ?_, ?_⟩
    · rw [recorded_messageIndex.1]
      exact hindex
    · rw [(recorded_fields (c.recordCall draft)).2.1]
      exact hparent

lemma NotBegun.goesOn (h : NotBegun project.chat) : GoesOn H S settings project where
  latest := (h.logged (S := S)).latestMessage_eq
  runtimeHash := by
    intro last hlast
    rw [h.renamed] at hlast
    simp at hlast
  recorded := by
    rw [h.manifest]
    simp
  pinned := by
    intro c chat hmanifest
    rw [h.manifest] at hmanifest
    simp at hmanifest
  next := by
    intro c built hprompt hcrash harguments hbuild
    unfold Admissible at harguments
    rw [h.manifest] at harguments
    obtain ⟨hnamed, profile, hprofile⟩ := harguments
    have hloads := hbuild.loads
    rw [h.manifest] at hloads
    obtain ⟨⟨exported, exportedHash⟩, hchecked⟩ := hloads
    have hcreates : Creates H S settings c profile built exported exportedHash :=
      ⟨hprofile, hbuild.build, hchecked, by simp [hcrash], hnamed⟩
    have hpublishes : (c.recordCall (initialDraft c built exportedHash)).Publishes
        (begun project built.runtime (newIdentity H settings (strip c.chatId)
          (built.result H settings profile) exported)).chat :=
      publishes_of_succeeds hcrash rfl hbuild.files
    have hindex : (0 : ℤ) = project.chat.renamed.length := by
      rw [h.renamed]
      rfl
    have hparent : project.chat.renamed.getLast?.map (·.messageId.text) = none := by
      rw [h.renamed]
      rfl
    rw [apply_of_creates hprompt h.manifest hcreates, hparent]
    exact record_adds (begun project built.runtime
      (newIdentity H settings (strip c.chatId) (built.result H settings profile) exported))
      (initialDraft c built exportedHash) ⟨(h.logged (S := S)).numbered, fun _ => h.messages⟩
      rfl hcrash rfl hindex rfl rfl (checkInitialBuild_eq_ok_iff.mp hchecked).1 hpublishes

lemma Ongoing.goesOn (h : Ongoing H S settings project chat profile last) :
    GoesOn H S settings project where
  latest := h.logged.latestMessage_eq
  runtimeHash := by
    intro last' hlast
    rw [h.latest] at hlast
    rw [← Option.some.inj hlast]
    exact ⟨chat, profile, h.manifest, h.profileFile, h.runtimeHash⟩
  recorded := by
    intro _ hnil
    have hlatest := h.latest
    rw [hnil] at hlatest
    simp at hlatest
  pinned := by
    intro c chat' hmanifest hprofile
    rw [h.manifest] at hmanifest
    rw [← Option.some.inj hmanifest]
    exact ⟨_, h.enterFollowup_eq c hprofile⟩
  next := by
    intro c built hprompt hcrash harguments hbuild
    unfold Admissible at harguments
    rw [h.manifest] at harguments
    have hloads := hbuild.loads
    rw [h.manifest] at hloads
    obtain ⟨postRuntimeHash, hchecked⟩ := hloads
    have hreplaces : Replaces H S settings project chat c
        ⟨profile, last, project.chat.renamed.length⟩ built postRuntimeHash :=
      ⟨h.enterFollowup_eq c harguments, hbuild.build, hchecked, by simp [hcrash]⟩
    rw [apply_of_replaces hprompt h.manifest hreplaces, h.latest]
    exact record_adds { project with runtime := built.runtime } _ h.logged h.manifest
      hcrash rfl rfl rfl rfl (validate_of_checkedFollowup hchecked)
      (publishes_of_succeeds hcrash rfl hbuild.files)

lemma InStep.goesOn (h : InStep H S settings project) : GoesOn H S settings project := by
  rcases h with hnone | ⟨chat, profile, last, hongoing⟩
  · exact hnone.goesOn
  · exact hongoing.goesOn

/-! ## Runs -/

lemma inStep_run (h : InStep H S settings project) (hsafe : AllSafe H S settings project calls) :
    InStep H S settings (run H S settings project calls) := by
  induction calls generalizing project with
  | nil => exact h
  | cons c calls ih =>
    unfold run
    rw [List.foldl_cons]
    exact ih (h.apply hsafe.1) hsafe.2

lemma AllSafe.take (h : AllSafe H S settings project calls) (k : ℕ) :
    AllSafe H S settings project (calls.take k) := by
  induction calls generalizing project k with
  | nil => simpa using h
  | cons c calls ih =>
    cases k with
    | zero => trivial
    | succ k => exact ⟨h.1, ih h.2 k⟩

/-- A directory without a chat. -/
def freshProject (runtime : RuntimeDir) : Project where
  runtime := runtime
  chat := { manifest := none, messages := .empty, renamed := [] }

theorem isDigest_profileHash : isDigest (String.ofList (List.replicate 64 '1')) = true :=
  isDigest_replicate (by decide)

/-- Texts in lower case, and one profile. -/
def plainHost : FactoryHost where
  lower s := s
  stableHash _ := String.ofList (List.replicate 64 '1')
  lower_lower _ := rfl
  strip_lower _ := rfl
  isDigest_stableHash _ := isDigest_profileHash

def openaiProfile : RuntimeProfile := ⟨"openai", .null⟩

def plainSettings : Settings where
  provider := ⟨some "minimax", "MiniMaxProvider"⟩
  runtimeBackend := none
  runtimeKind := "policy_modules"
  defaultProfile := openaiProfile

def runtimeOf (runtimeHash : String) : RuntimeDir where
  profileFile := some (.ok openaiProfile)
  runtimeHash _ _ := .ok runtimeHash

def planningFile (name : String) : ArtifactSource where
  path := "/build/" ++ name
  name := name
  isFile := true
  content := some (.other name)

def absentFile : ArtifactSource := ⟨"", "", false, none⟩

theorem goalSpec_path_ne : (planningFile "goal_spec.json").path ≠ "" := by decide

def goalFiles : PlanningFiles where
  goalSpec := planningFile "goal_spec.json"
  successCriteria := absentFile
  benchmarkPlan := absentFile
  verifierBundle := absentFile
  runtimePlan := absentFile
  deploymentContract := absentFile
  exportSummary := absentFile
  buildSummary := absentFile
  signalSufficiency := absentFile
  goalSpec_path := goalSpec_path_ne

/-- A call whose build exports a runtime with this hash. -/
def buildCall (messageId : PathComponent) (runtimeHash : String) (crash : Option FactoryStep) :
    FactoryCall where
  instruction := "solve"
  profilePath := none
  chatId := "chat.a"
  messageId := messageId
  createdAt := 0
  stagingDir := "/staging"
  suffix := "00"
  build := .returned ⟨runtimeOf runtimeHash, "policy_modules", goalFiles⟩
  crash := crash

lemma pinsAgree_plain : PinsAgree plainHost plainSettings openaiProfile openaiProfile
    "policy_modules" where
  named := by decide
  backend := by decide
  kind := by decide
  runtimeProvider := rfl

lemma goalFiles_copied : ∀ a ∈ (factoryMessageArtifacts goalFiles).entries, a.2.path ≠ "" →
    a.2.isFile = true ∧ a.2.content.isSome := by
  intro a ha
  have hall : ((factoryMessageArtifacts goalFiles).entries.all fun a =>
      a.2.path = "" || (a.2.isFile && a.2.content.isSome)) = true := by decide +kernel
  have hfile := List.all_eq_true.mp hall a ha
  intro hpath
  simpa [hpath] using hfile

end Agintor.Factory
