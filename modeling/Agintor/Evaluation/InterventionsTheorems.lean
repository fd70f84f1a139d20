import Agintor.Contracts.ObservedValues
import Agintor.Contracts.RunEvidenceTheorems
import Agintor.Evaluation.Interventions

/-!
# What a matched pair has in common

The join compares a list of identities, the shapes of the calls and routes and a few totals.
Contexts, artifacts and reads are checked within each run, so two joined runs differ through the
replaced delivery only if the parts that nothing compares agree.
-/

namespace Agintor.Evaluation

open Core Contracts Lib RunEvidence

/-! ## Values of one run -/

/-- The values of a run are those of Python, whose dictionaries have a key once. -/
structure Typed (e : RunEvidence) : Prop where
  entries : ∀ context ∈ e.contexts, ∀ entry ∈ context.entries,
    distinctKeys entry.observed.value = true
  artifacts : ∀ artifact ∈ e.artifacts, distinctKeys artifact.observed.value = true
  deliveries : ∀ delivery ∈ e.deliveries, distinctKeys delivery.observed.value = true
  reads : ∀ read ∈ e.reads, distinctKeys read.observed.value = true

/-- The entry is the one of a read. -/
def Named (e : RunEvidence) (context : PreCallContextEvidence) (entry : ContextEntry) : Prop :=
  ∃ read ∈ e.reads, readEntry read = (context.contextId, entry.entryId)

section Run

variable {e : RunEvidence} {context : PreCallContextEvidence} {entry : ContextEntry}
  {read : ArtifactReadEvidence}

/-- A read and the entry that it names are of one call, artifact and value. -/
lemma entry_of_read (h : Accepted e) (hcontext : context ∈ e.contexts)
    (hentry : entry ∈ context.entries) (hread : read ∈ e.reads)
    (hnamed : readEntry read = (context.contextId, entry.entryId)) :
    context.callId = read.consumerCallId ∧ entry.sourceRef = read.artifactId ∧
      entry.observed.same read.observed = true := by
  obtain ⟨hcontextId, hentryId⟩ := Prod.mk.inj hnamed
  obtain ⟨other, hother, hid, hcall, own, hown, hownId, href, hsame⟩ :=
    (h.artifactFlow.reads read hread).entry
  obtain rfl := List.inj_on_of_nodup_map h.identified.contexts hother hcontext
    (hid.trans hcontextId)
  obtain rfl := List.inj_on_of_nodup_map (h.contextEntries other hother)
    (List.mem_of_mem_filter hown) hentry (hownId.trans hentryId)
  exact ⟨hcall, href, hsame⟩

/-- What is read of an artifact, other than a replacement, is the produced value. -/
lemma artifact_of_read (h : Accepted e) (ht : Typed e) (hread : read ∈ e.reads)
    (hintact : ∀ delivery ∈ e.deliveries, deliveryKey delivery = readKey read →
      delivery.deliveryKind = .intact) :
    ∃ artifact ∈ e.artifacts, artifact.artifactId = read.artifactId ∧
      artifact.observed.same read.observed = true := by
  have hlinks := h.artifactFlow.reads read hread
  by_cases hkind : read.readKind = .directDelivery
  · obtain ⟨delivery, hdelivery, hkey, -, hsame⟩ := hlinks.direct hkind
    obtain ⟨artifact, hartifact, hid, hsame'⟩ :=
      (h.artifactFlow.deliveries delivery hdelivery).intact (hintact delivery hdelivery hkey)
    exact ⟨artifact, hartifact, hid.trans (Prod.mk.inj hkey).1,
      ObservedValue.same_trans hsame' (ObservedValue.same_symm (ht.reads read hread) hsame)⟩
  · obtain ⟨-, artifact, hartifact, hid, hsame⟩ := hlinks.retained hkind
    exact ⟨artifact, hartifact, hid, ObservedValue.same_symm (ht.reads read hread) hsame⟩

/-- The value of a named entry, other than of a replacement, is the produced one. -/
lemma artifact_of_named (h : Accepted e) (ht : Typed e) (hcontext : context ∈ e.contexts)
    (hentry : entry ∈ context.entries) (hnamed : Named e context entry)
    (hintact : ∀ delivery ∈ e.deliveries,
      deliveryKey delivery = (entry.sourceRef, context.callId) → delivery.deliveryKind = .intact) :
    ∃ artifact ∈ e.artifacts, artifact.artifactId = entry.sourceRef ∧
      artifact.observed.same entry.observed = true := by
  obtain ⟨read, hread, hname⟩ := hnamed
  obtain ⟨hcall, href, hsame⟩ := entry_of_read h hcontext hentry hread hname
  obtain ⟨artifact, hartifact, hid, hsame'⟩ := artifact_of_read h ht hread
    (fun delivery hdelivery hkey => hintact delivery hdelivery (by rw [hkey, href, hcall]; rfl))
  exact ⟨artifact, hartifact, hid.trans href.symm, ObservedValue.same_trans hsame'
    (ObservedValue.same_symm (ht.entries context hcontext entry hentry) hsame)⟩

lemma intact_of_arm (h : Accepted e) (harm : e.arm = .intact)
    {delivery : ArtifactDeliveryEvidence} (hdelivery : delivery ∈ e.deliveries) :
    delivery.deliveryKind = .intact := by
  cases hkind : delivery.deliveryKind with
  | intact => rfl
  | neutralReplacement =>
    have hneutral := (h.artifactFlow.deliveries delivery hdelivery).neutral hkind
    rw [harm] at hneutral
    exact absurd hneutral (by decide)

/-- A neutral run has one replacement. -/
lemma replacement_unique (h : Accepted e) (harm : e.arm = .neutralArtifact)
    {a b : ArtifactDeliveryEvidence} (ha : a ∈ e.deliveries) (hb : b ∈ e.deliveries)
    (hkindA : a.deliveryKind = .neutralReplacement) (hkindB : b.deliveryKind = .neutralReplacement) :
    a = b := by
  have hone := h.artifactFlow.neutralDeliveries harm
  unfold RunEvidence.neutralDeliveries at hone
  obtain ⟨only, honly⟩ := List.length_eq_one_iff.mp hone
  have hmem : ∀ delivery ∈ e.deliveries, delivery.deliveryKind = .neutralReplacement →
      delivery = only := by
    intro delivery hdelivery hkind
    rw [← List.mem_singleton, ← honly]
    exact List.mem_filter.mpr ⟨hdelivery, by simpa using hkind⟩
  rw [hmem a ha hkindA, hmem b hb hkindB]

end Run

/-! ## What is built and joined -/

variable {E : InterventionEncoding} {U : UnicodeTables} {intactRun neutralRun : RunEvidence}
  {intervention : NeutralArtifactIntervention} {pair : MatchedInterventionRunPair}

lemma NeutralArtifactIntervention.of_validated {built : NeutralArtifactIntervention}
    (h : built.validated E = .ok intervention) :
    intervention.original.valueDigest ≠ intervention.neutral.valueDigest := by
  unfold NeutralArtifactIntervention.validated at h
  simp only [bind_eq_ok_iff, raiseIf_eq_ok_iff, exists_const, pure_eq_ok, Except.ok.injEq] at h
  obtain ⟨-, hdiffers, -, -, rfl⟩ := h
  exact hdiffers

section Build

variable {artifactId consumerCallId neutralValue : String} {pricedInputMeasure : String → ℤ}
  {canaryValues canaryDigests : List String}

lemma of_build (h : buildNeutralArtifactIntervention E U intactRun artifactId consumerCallId
      neutralValue pricedInputMeasure canaryValues canaryDigests = .ok intervention) :
    intervention.original.valueDigest ≠ intervention.neutral.valueDigest := by
  unfold buildNeutralArtifactIntervention at h
  simp only [bind_eq_ok_iff] at h
  obtain ⟨_, -, _, -, _, -, _, -, _, -, _, -, _, -, hvalidated⟩ := h
  exact NeutralArtifactIntervention.of_validated hvalidated

end Build

/-- A value like the neutral one is not the original. -/
lemma not_original {value : ObservedValue}
    (hdiffers : intervention.original.valueDigest ≠ intervention.neutral.valueDigest)
    (h : value.same intervention.neutral = true) : intervention.original.same value = false := by
  rw [ObservedValue.same_eq_true] at h
  by_contra hsame
  rw [Bool.not_eq_false, ObservedValue.same_eq_true] at hsame
  exact hdiffers (hsame.2.1.trans h.2.1)

/-- The parts of a join that the comparison rests on. -/
structure Joined (intactRun neutralRun : RunEvidence)
    (intervention : NeutralArtifactIntervention) : Prop where
  intactArm : intactRun.arm = .intact
  neutralArm : neutralRun.arm = .neutralArtifact
  identities : crossedIdentities intactRun neutralRun = []
  replacement : ∃ delivery ∈ neutralRun.deliveries,
    deliveryKey delivery = (intervention.artifactId, intervention.consumerCallId) ∧
      delivery.deliveryKind = .neutralReplacement ∧
      delivery.observed.same intervention.neutral = true

lemma joined_of_join
    (h : joinMatchedInterventionRuns E intactRun neutralRun intervention = .ok pair) :
    Joined intactRun neutralRun intervention := by
  unfold joinMatchedInterventionRuns at h
  simp only [bind_eq_ok_iff, raiseIf_eq_ok_iff, exists_const, not_or, not_not, ne_eq,
    Bool.not_eq_false] at h
  obtain ⟨⟨hintact, hneutral⟩, -, -, hcrossed, -, -, -, hdelivers, -⟩ := h
  refine ⟨hintact, hneutral, hcrossed, ?_⟩
  unfold deliversReplacement at hdelivers
  simp only [Option.any_eq_true, decide_eq_true_eq] at hdelivers
  obtain ⟨delivery, hfind, _, -, hkind, -, hsame, -⟩ := hdelivers
  have hkey : delivery.artifactId = intervention.artifactId ∧
      delivery.consumerCallId = intervention.consumerCallId := by
    simpa using List.find?_some hfind
  exact ⟨delivery, List.mem_of_find?_eq_some hfind, Prod.ext hkey.1 hkey.2, hkind, hsame⟩

/-! ## The property -/

/-- The runs are pinned to the same identities. -/
structure SamePins (a b : RunEvidence) : Prop where
  runtimeContractVersion : a.runtimeContractVersion = b.runtimeContractVersion
  dataState : a.dataState = b.dataState
  epochId : a.epochId = b.epochId
  epochManifestDigest : a.epochManifestDigest = b.epochManifestDigest
  releaseDigest : a.releaseDigest = b.releaseDigest
  releaseManifestDigest : a.releaseManifestDigest = b.releaseManifestDigest
  profileDigest : a.profileDigest = b.profileDigest
  splitManifestDigest : a.splitManifestDigest = b.splitManifestDigest
  pairKey : a.pairKey = b.pairKey
  taskManifestDigest : a.taskManifestDigest = b.taskManifestDigest
  protocolDigest : a.protocolDigest = b.protocolDigest
  compiledSemanticDigest : a.compiledSemanticDigest = b.compiledSemanticDigest
  dependencyManifestDigest : a.dependencyManifestDigest = b.dependencyManifestDigest
  compilerDigest : a.compilerDigest = b.compilerDigest
  kernelDigest : a.kernelDigest = b.kernelDigest
  toolManifestDigest : a.toolManifestDigest = b.toolManifestDigest
  providerConfigDigest : a.providerConfigDigest = b.providerConfigDigest
  decodingPolicyDigest : a.decodingPolicyDigest = b.decodingPolicyDigest
  priceScheduleDigest : a.priceScheduleDigest = b.priceScheduleDigest
  commandContainerPolicyDigest : a.commandContainerPolicyDigest = b.commandContainerPolicyDigest
  deploymentId : a.deploymentId = b.deploymentId
  provider : a.provider = b.provider
  model : a.model = b.model

/-- A context of another call, assembled before all of the consumer's. -/
def Before (e : RunEvidence) (consumer : String) (context : PreCallContextEvidence) : Prop :=
  context ∈ e.contexts ∧ context.callId ≠ consumer ∧
    ∀ own ∈ e.contexts, own.callId = consumer → context.sequenceNo < own.sequenceNo

/-- The calls that the consumer's may have influenced: through an artifact, an output that is read,
or a route. -/
inductive DependsOn (e : RunEvidence) (consumer : String) : String → Prop
  | consumer : DependsOn e consumer consumer
  | artifact {read : ArtifactReadEvidence} {artifact : ArtifactEvidence} (hread : read ∈ e.reads)
      (hartifact : artifact ∈ e.artifacts) (hid : artifact.artifactId = read.artifactId)
      (h : DependsOn e consumer artifact.producerCallId) : DependsOn e consumer read.consumerCallId
  | output {context : PreCallContextEvidence} {entry : ContextEntry}
      (hcontext : context ∈ e.contexts) (hentry : entry ∈ context.entries)
      (hkind : entry.sourceKind = .priorActorOutput) (h : DependsOn e consumer entry.sourceRef) :
      DependsOn e consumer context.callId
  | route {route : RouteEvidence} {callId : String} (hroute : route ∈ e.routes)
      (hfrom : route.fromCallId = some callId) (h : DependsOn e consumer callId) :
      DependsOn e consumer route.toCallId

/-- The call depends on the consumer's in neither run. -/
def Independent (intactRun neutralRun : RunEvidence) (consumer callId : String) : Prop :=
  ¬DependsOn intactRun consumer callId ∧ ¬DependsOn neutralRun consumer callId

/-- Both runs produced the artifact, with one value. -/
def Unchanged (intactRun neutralRun : RunEvidence) (artifactId : String) : Prop :=
  ∃ a ∈ intactRun.artifacts, ∃ b ∈ neutralRun.artifacts, a.artifactId = artifactId ∧
    b.artifactId = artifactId ∧ a.observed.same b.observed = true

def SameEntry (a b : ContextEntry) : Prop :=
  a.sourceKind = b.sourceKind ∧ a.sourceRef = b.sourceRef ∧ a.observed.same b.observed = true

/-- The actor of the consumer's call. -/
def Receives (neutralRun : RunEvidence) (consumer actorId : String) : Prop :=
  ∃ own ∈ neutralRun.contexts, own.callId = consumer ∧ own.actorId = actorId

/-- The runs differ only through the replaced delivery. -/
structure Matched (intactRun neutralRun : RunEvidence)
    (intervention : NeutralArtifactIntervention) : Prop where
  pins : SamePins intactRun neutralRun
  contexts : ∀ x, Before intactRun intervention.consumerCallId x →
    ∃ y ∈ neutralRun.contexts, y.callId = x.callId ∧ List.Forall₂ SameEntry x.entries y.entries
  contexts' : ∀ y, Before neutralRun intervention.consumerCallId y →
    ∃ x ∈ intactRun.contexts, x.callId = y.callId ∧ List.Forall₂ SameEntry x.entries y.entries
  artifacts : ∀ a ∈ intactRun.artifacts ++ neutralRun.artifacts,
    Independent intactRun neutralRun intervention.consumerCallId a.producerCallId →
      Unchanged intactRun neutralRun a.artifactId
  deliveries : ∀ a ∈ intactRun.deliveries, ∀ b ∈ neutralRun.deliveries,
    deliveryKey a = deliveryKey b →
    deliveryKey a ≠ (intervention.artifactId, intervention.consumerCallId) →
      Unchanged intactRun neutralRun a.artifactId → a.observed.same b.observed = true
  original : ∀ context ∈ neutralRun.contexts,
    Receives neutralRun intervention.consumerCallId context.actorId →
      ∀ entry ∈ context.entries, intervention.original.same entry.observed = false

/-! ## What the join leaves open -/

/-- The identities that the join does not compare. -/
structure SameUnjoinedPins (a b : RunEvidence) : Prop where
  releaseDigest : a.releaseDigest = b.releaseDigest
  releaseManifestDigest : a.releaseManifestDigest = b.releaseManifestDigest
  profileDigest : a.profileDigest = b.profileDigest
  compiledSemanticDigest : a.compiledSemanticDigest = b.compiledSemanticDigest
  dependencyManifestDigest : a.dependencyManifestDigest = b.dependencyManifestDigest
  decodingPolicyDigest : a.decodingPolicyDigest = b.decodingPolicyDigest
  priceScheduleDigest : a.priceScheduleDigest = b.priceScheduleDigest
  commandContainerPolicyDigest : a.commandContainerPolicyDigest = b.commandContainerPolicyDigest

/-- Entries of one source, whose artifacts agree where both were read and whose values agree
otherwise. -/
structure Corresponds (intactRun neutralRun : RunEvidence) (x y : PreCallContextEvidence)
    (a b : ContextEntry) : Prop where
  source : a.sourceKind = b.sourceKind ∧ a.sourceRef = b.sourceRef
  named : Named intactRun x a → Named neutralRun y b →
    Unchanged intactRun neutralRun a.sourceRef
  other : ¬(Named intactRun x a ∧ Named neutralRun y b) → a.observed.same b.observed = true

/-- The records that the join does not compare agree, and the receiving actor read no other
artifact with the original value and has it from no other source. -/
structure UnjoinedAgree (intactRun neutralRun : RunEvidence)
    (intervention : NeutralArtifactIntervention) : Prop where
  pins : SameUnjoinedPins intactRun neutralRun
  contexts : ∀ x, Before intactRun intervention.consumerCallId x → ∃ y ∈ neutralRun.contexts,
    y.callId = x.callId ∧
      List.Forall₂ (Corresponds intactRun neutralRun x y) x.entries y.entries
  contexts' : ∀ y, Before neutralRun intervention.consumerCallId y → ∃ x ∈ intactRun.contexts,
    x.callId = y.callId ∧
      List.Forall₂ (Corresponds intactRun neutralRun x y) x.entries y.entries
  artifacts : ∀ a ∈ intactRun.artifacts ++ neutralRun.artifacts,
    Independent intactRun neutralRun intervention.consumerCallId a.producerCallId →
      Unchanged intactRun neutralRun a.artifactId
  reads : ∀ read ∈ neutralRun.reads, ∀ context ∈ neutralRun.contexts,
    context.contextId = read.contextId →
    Receives neutralRun intervention.consumerCallId context.actorId →
    readKey read ≠ (intervention.artifactId, intervention.consumerCallId) →
      ∀ artifact ∈ neutralRun.artifacts, artifact.artifactId = read.artifactId →
        intervention.original.same artifact.observed = false
  entries : ∀ context ∈ neutralRun.contexts,
    Receives neutralRun intervention.consumerCallId context.actorId →
      ∀ entry ∈ context.entries, ¬Named neutralRun context entry →
        intervention.original.same entry.observed = false

/-! ## Pins -/

lemma provider_of_check (h : intactRun.check E.toEvidenceEncoding U = .ok ()) :
    intactRun.pairKey.providerConfigDigest = intactRun.providerConfigDigest := by
  unfold RunEvidence.check at h
  simp only [bind_eq_ok_iff, raiseIf_eq_ok_iff, exists_const, not_not, ne_eq] at h
  obtain ⟨_, -, -, -, -, hprovider, -⟩ := h
  exact hprovider

lemma samePins_iff (hintact : intactRun.check E.toEvidenceEncoding U = .ok ())
    (hneutral : neutralRun.check E.toEvidenceEncoding U = .ok ())
    (hjoined : Joined intactRun neutralRun intervention) :
    SamePins intactRun neutralRun ↔ SameUnjoinedPins intactRun neutralRun := by
  constructor
  · intro h
    exact ⟨h.releaseDigest, h.releaseManifestDigest, h.profileDigest, h.compiledSemanticDigest,
      h.dependencyManifestDigest, h.decodingPolicyDigest, h.priceScheduleDigest,
      h.commandContainerPolicyDigest⟩
  · intro h
    have hcrossed := hjoined.identities
    unfold crossedIdentities at hcrossed
    rw [List.map_eq_nil_iff, List.filter_eq_nil_iff] at hcrossed
    simp only [List.forall_mem_cons, Bool.not_eq_true', decide_eq_false_iff_not, not_not] at hcrossed
    obtain ⟨hversion, hstate, hepoch, hmanifest, hsplit, hpair, htask, hprotocol, hcompiler, hkernel,
      htool, hdeployment, hprovider, hmodel, -⟩ := hcrossed
    have hconfig : intactRun.providerConfigDigest = neutralRun.providerConfigDigest := by
      rw [← provider_of_check hintact, ← provider_of_check hneutral, hpair]
    exact
      { runtimeContractVersion := hversion
        dataState := hstate
        epochId := hepoch
        epochManifestDigest := hmanifest
        releaseDigest := h.releaseDigest
        releaseManifestDigest := h.releaseManifestDigest
        profileDigest := h.profileDigest
        splitManifestDigest := hsplit
        pairKey := hpair
        taskManifestDigest := htask
        protocolDigest := hprotocol
        compiledSemanticDigest := h.compiledSemanticDigest
        dependencyManifestDigest := h.dependencyManifestDigest
        compilerDigest := hcompiler
        kernelDigest := hkernel
        toolManifestDigest := htool
        providerConfigDigest := hconfig
        decodingPolicyDigest := h.decodingPolicyDigest
        priceScheduleDigest := h.priceScheduleDigest
        commandContainerPolicyDigest := h.commandContainerPolicyDigest
        deploymentId := hdeployment
        provider := hprovider
        model := hmodel }

/-! ## Two runs -/

/-- Two accepted runs that were joined. -/
structure Runs (intactRun neutralRun : RunEvidence) (intervention : NeutralArtifactIntervention) :
    Prop where
  intact : Accepted intactRun
  neutral : Accepted neutralRun
  intactTyped : Typed intactRun
  neutralTyped : Typed neutralRun
  joined : Joined intactRun neutralRun intervention
  differs : intervention.original.valueDigest ≠ intervention.neutral.valueDigest

namespace Runs

variable (h : Runs intactRun neutralRun intervention)

include h

/-- Only the replaced delivery of the neutral run is a replacement. -/
lemma intact_of_ne {delivery : ArtifactDeliveryEvidence} (hdelivery : delivery ∈ neutralRun.deliveries)
    (hne : deliveryKey delivery ≠ (intervention.artifactId, intervention.consumerCallId)) :
    delivery.deliveryKind = .intact := by
  cases hkind : delivery.deliveryKind with
  | intact => rfl
  | neutralReplacement =>
    obtain ⟨other, hother, hkey, hkind', -⟩ := h.joined.replacement
    have heq := replacement_unique h.neutral h.joined.neutralArm hdelivery hother hkind hkind'
    exact absurd (heq ▸ hkey) hne

variable {a b : ArtifactEvidence}

lemma unchanged_iff (ha : a ∈ intactRun.artifacts) (hb : b ∈ neutralRun.artifacts)
    {artifactId : String} (hidA : a.artifactId = artifactId) (hidB : b.artifactId = artifactId) :
    Unchanged intactRun neutralRun artifactId ↔ a.observed.same b.observed = true := by
  constructor
  · rintro ⟨a', ha', b', hb', hidA', hidB', hsame⟩
    obtain rfl := List.inj_on_of_nodup_map h.intact.identified.artifacts ha' ha
      (hidA'.trans hidA.symm)
    obtain rfl := List.inj_on_of_nodup_map h.neutral.identified.artifacts hb' hb
      (hidB'.trans hidB.symm)
    exact hsame
  · intro hsame
    exact ⟨a, ha, b, hb, hidA, hidB, hsame⟩

/-- Entries that hold the values of two artifacts are the same exactly if the artifacts are. -/
lemma same_iff_of_artifacts {v w : ObservedValue} (ha : a ∈ intactRun.artifacts)
    (hb : b ∈ neutralRun.artifacts) (hav : a.observed.same v = true)
    (hbw : b.observed.same w = true) : v.same w = true ↔ a.observed.same b.observed = true := by
  constructor
  · intro hvw
    exact ObservedValue.same_trans (ObservedValue.same_trans hav hvw)
      (ObservedValue.same_symm (h.neutralTyped.artifacts b hb) hbw)
  · intro hab
    exact ObservedValue.same_trans (ObservedValue.same_trans
      (ObservedValue.same_symm (h.intactTyped.artifacts a ha) hav) hab) hbw

/-- Entries correspond exactly if they are the same, in contexts of a call that is not the
consumer's. -/
lemma sameEntry_iff {x y : PreCallContextEvidence} {a b : ContextEntry} (hx : x ∈ intactRun.contexts)
    (hy : y ∈ neutralRun.contexts) (hcall : y.callId ≠ intervention.consumerCallId)
    (ha : a ∈ x.entries) (hb : b ∈ y.entries) :
    SameEntry a b ↔ Corresponds intactRun neutralRun x y a b := by
  have hiff : a.sourceRef = b.sourceRef → Named intactRun x a → Named neutralRun y b →
      (a.observed.same b.observed = true ↔ Unchanged intactRun neutralRun a.sourceRef) := by
    intro href hnamedA hnamedB
    obtain ⟨p, hp, hidP, hsameP⟩ := artifact_of_named h.intact h.intactTyped hx ha hnamedA
      (fun delivery hdelivery _ => intact_of_arm h.intact h.joined.intactArm hdelivery)
    obtain ⟨q, hq, hidQ, hsameQ⟩ := artifact_of_named h.neutral h.neutralTyped hy hb hnamedB
      (fun delivery hdelivery hkey => h.intact_of_ne hdelivery fun heq =>
        hcall (Prod.mk.inj (hkey.symm.trans heq)).2)
    rw [h.unchanged_iff hp hq hidP (hidQ.trans href.symm)]
    exact h.same_iff_of_artifacts hp hq hsameP hsameQ
  constructor
  · rintro ⟨hkind, href, hsame⟩
    exact ⟨⟨hkind, href⟩, fun hA hB => (hiff href hA hB).mp hsame, fun _ => hsame⟩
  · rintro ⟨⟨hkind, href⟩, hnamed, hother⟩
    refine ⟨hkind, href, ?_⟩
    by_cases hboth : Named intactRun x a ∧ Named neutralRun y b
    · exact (hiff href hboth.1 hboth.2).mpr (hnamed hboth.1 hboth.2)
    · exact hother hboth

/-- A delivery that is not the replaced one delivers what its artifact was. -/
lemma deliveries_same {a b : ArtifactDeliveryEvidence} (ha : a ∈ intactRun.deliveries)
    (hb : b ∈ neutralRun.deliveries) (hkey : deliveryKey a = deliveryKey b)
    (hne : deliveryKey a ≠ (intervention.artifactId, intervention.consumerCallId))
    (hunchanged : Unchanged intactRun neutralRun a.artifactId) :
    a.observed.same b.observed = true := by
  obtain ⟨p, hp, hidP, hsameP⟩ := (h.intact.artifactFlow.deliveries a ha).intact
    (intact_of_arm h.intact h.joined.intactArm ha)
  obtain ⟨q, hq, hidQ, hsameQ⟩ := (h.neutral.artifactFlow.deliveries b hb).intact
    (h.intact_of_ne hb (hkey ▸ hne))
  have hid : b.artifactId = a.artifactId := (Prod.mk.inj hkey).1.symm
  rw [h.unchanged_iff hp hq hidP (hidQ.trans hid)] at hunchanged
  exact (h.same_iff_of_artifacts hp hq hsameP hsameQ).mpr hunchanged

/-- What a read of the replaced delivery shows is not the original. -/
lemma not_original_of_replaced {read : ArtifactReadEvidence} (hread : read ∈ neutralRun.reads)
    (hkey : readKey read = (intervention.artifactId, intervention.consumerCallId))
    {value : ObservedValue} (hvalue : value.same read.observed = true) :
    intervention.original.same value = false := by
  obtain ⟨replacement, hreplacement, hkey', -, hneutral⟩ := h.joined.replacement
  have hlinks := h.neutral.artifactFlow.reads read hread
  by_cases hkind : read.readKind = .directDelivery
  · obtain ⟨delivery, hdelivery, hdeliveryKey, -, hsame⟩ := hlinks.direct hkind
    obtain rfl := List.inj_on_of_nodup_map h.neutral.artifactFlow.deliveryKeys hdelivery
      hreplacement (hdeliveryKey.trans (hkey.trans hkey'.symm))
    exact not_original h.differs
      (ObservedValue.same_trans (ObservedValue.same_trans hvalue hsame) hneutral)
  · exact absurd (List.mem_map.mpr ⟨replacement, hreplacement, hkey'.trans hkey.symm⟩)
      (hlinks.retained hkind).1

/-- The receiving actor never sees the original exactly if no other artifact that it read has that
value and no other entry of its contexts holds it. -/
lemma original_iff :
    (∀ context ∈ neutralRun.contexts,
      Receives neutralRun intervention.consumerCallId context.actorId →
        ∀ entry ∈ context.entries, intervention.original.same entry.observed = false) ↔
    (∀ read ∈ neutralRun.reads, ∀ context ∈ neutralRun.contexts,
      context.contextId = read.contextId →
      Receives neutralRun intervention.consumerCallId context.actorId →
      readKey read ≠ (intervention.artifactId, intervention.consumerCallId) →
        ∀ artifact ∈ neutralRun.artifacts, artifact.artifactId = read.artifactId →
          intervention.original.same artifact.observed = false) ∧
    ∀ context ∈ neutralRun.contexts,
      Receives neutralRun intervention.consumerCallId context.actorId →
        ∀ entry ∈ context.entries, ¬Named neutralRun context entry →
          intervention.original.same entry.observed = false := by
  constructor
  · intro hnone
    refine ⟨?_, fun context hcontext hreceives entry hentry _ =>
      hnone context hcontext hreceives entry hentry⟩
    intro read hread context hcontext hid hreceives hne artifact hartifact hartifactId
    obtain ⟨other, hother, hotherId, -, entry, hentry, -, -, hsame⟩ :=
      (h.neutral.artifactFlow.reads read hread).entry
    obtain rfl := List.inj_on_of_nodup_map h.neutral.identified.contexts hother hcontext
      (hotherId.trans hid.symm)
    obtain ⟨own, hown, hownId, hvalue⟩ := artifact_of_read h.neutral h.neutralTyped hread
      (fun delivery hdelivery hkey => h.intact_of_ne hdelivery (hkey ▸ hne))
    obtain rfl := List.inj_on_of_nodup_map h.neutral.identified.artifacts hown hartifact
      (hownId.trans hartifactId.symm)
    have hentry' := List.mem_of_mem_filter hentry
    have hfalse := hnone other hother hreceives entry hentry'
    rw [Bool.eq_false_iff] at hfalse ⊢
    intro horiginal
    exact hfalse (ObservedValue.same_trans (ObservedValue.same_trans horiginal hvalue)
      (ObservedValue.same_symm (h.neutralTyped.entries other hother entry hentry') hsame))
  · rintro ⟨hreads, hentries⟩ context hcontext hreceives entry hentry
    by_cases hnamed : Named neutralRun context entry
    · obtain ⟨read, hread, hname⟩ := hnamed
      obtain ⟨-, -, hsame⟩ := entry_of_read h.neutral hcontext hentry hread hname
      by_cases hkey : readKey read = (intervention.artifactId, intervention.consumerCallId)
      · exact h.not_original_of_replaced hread hkey hsame
      · obtain ⟨artifact, hartifact, hid, hvalue⟩ := artifact_of_read h.neutral h.neutralTyped hread
          (fun delivery hdelivery hdeliveryKey => h.intact_of_ne hdelivery (hdeliveryKey ▸ hkey))
        have hfalse := hreads read hread context hcontext (Prod.mk.inj hname).1.symm hreceives hkey
          artifact hartifact hid
        rw [Bool.eq_false_iff] at hfalse ⊢
        intro horiginal
        exact hfalse (ObservedValue.same_trans (ObservedValue.same_trans horiginal hsame)
          (ObservedValue.same_symm (h.neutralTyped.artifacts artifact hartifact) hvalue))
    · exact hentries context hcontext hreceives entry hentry hnamed

end Runs

/-! ## The pair -/

lemma forall₂_iff_of_mem {α β : Type} {R S : α → β → Prop} {xs : List α} {ys : List β}
    (h : ∀ a ∈ xs, ∀ b ∈ ys, (R a b ↔ S a b)) : List.Forall₂ R xs ys ↔ List.Forall₂ S xs ys := by
  rw [List.forall₂_iff_zip, List.forall₂_iff_zip]
  refine and_congr_right fun _ => ?_
  constructor
  · intro hR a b hmem
    exact (h a (List.of_mem_zip hmem).1 b (List.of_mem_zip hmem).2).mp (hR hmem)
  · intro hS a b hmem
    exact (h a (List.of_mem_zip hmem).1 b (List.of_mem_zip hmem).2).mpr (hS hmem)

lemma Runs.entries_iff (h : Runs intactRun neutralRun intervention) {x y : PreCallContextEvidence}
    (hx : x ∈ intactRun.contexts) (hy : y ∈ neutralRun.contexts)
    (hcall : y.callId ≠ intervention.consumerCallId) :
    List.Forall₂ SameEntry x.entries y.entries ↔
      List.Forall₂ (Corresponds intactRun neutralRun x y) x.entries y.entries :=
  forall₂_iff_of_mem fun _ ha _ hb => h.sameEntry_iff hx hy hcall ha hb

variable {artifactId consumerCallId neutralValue : String} {pricedInputMeasure : String → ℤ}
  {canaryValues canaryDigests : List String}

/-- Joined runs differ only through the replaced delivery exactly if what the join does not compare
agrees. -/
theorem matched_iff (hintact : intactRun.check E.toEvidenceEncoding U = .ok ())
    (hintactTyped : Typed intactRun)
    (hbuild : buildNeutralArtifactIntervention E U intactRun artifactId consumerCallId neutralValue
      pricedInputMeasure canaryValues canaryDigests = .ok intervention)
    (hneutral : neutralRun.check E.toEvidenceEncoding U = .ok ())
    (hneutralTyped : Typed neutralRun)
    (hjoin : joinMatchedInterventionRuns E intactRun neutralRun intervention = .ok pair) :
    Matched intactRun neutralRun intervention ↔
      UnjoinedAgree intactRun neutralRun intervention := by
  have hruns : Runs intactRun neutralRun intervention :=
    ⟨accepted_of_check hintact, accepted_of_check hneutral, hintactTyped, hneutralTyped,
      joined_of_join hjoin, of_build hbuild⟩
  have hpins := samePins_iff hintact hneutral hruns.joined
  constructor
  · intro h
    refine ⟨hpins.mp h.pins, ?_, ?_, h.artifacts, (hruns.original_iff.mp h.original).1,
      (hruns.original_iff.mp h.original).2⟩
    · intro x hx
      obtain ⟨y, hy, hcall, hsame⟩ := h.contexts x hx
      exact ⟨y, hy, hcall, (hruns.entries_iff hx.1 hy (hcall ▸ hx.2.1)).mp hsame⟩
    · intro y hy
      obtain ⟨x, hx, hcall, hsame⟩ := h.contexts' y hy
      exact ⟨x, hx, hcall, (hruns.entries_iff hx hy.1 hy.2.1).mp hsame⟩
  · intro h
    refine ⟨hpins.mpr h.pins, ?_, ?_, h.artifacts, ?_,
      hruns.original_iff.mpr ⟨h.reads, h.entries⟩⟩
    · intro x hx
      obtain ⟨y, hy, hcall, hsame⟩ := h.contexts x hx
      exact ⟨y, hy, hcall, (hruns.entries_iff hx.1 hy (hcall ▸ hx.2.1)).mpr hsame⟩
    · intro y hy
      obtain ⟨x, hx, hcall, hsame⟩ := h.contexts' y hy
      exact ⟨x, hx, hcall, (hruns.entries_iff hx hy.1 hy.2.1).mpr hsame⟩
    · intro a ha b hb hkey hne hunchanged
      exact hruns.deliveries_same ha hb hkey hne hunchanged

/-! ## A run and its neutral arm -/

def pairEncoding : InterventionEncoding where
  toEvidenceEncoding := sampleEncoding
  sealedCanary _ := zeros
  interventionId _ _ _ _ := "neutral"
  intervention _ := ones
  matchedPairId _ _ _ := "pair"
  matchedPair _ := zeros

def replacement : ObservedValue := ⟨.str "n", ones, 3⟩

/-- What stands for the artifact that `c1` delivers to `c2`. -/
def sampleIntervention : NeutralArtifactIntervention where
  interventionId := "neutral"
  interventionDigest := ones
  sourceRunEvidenceDigest := zeros
  pairKey := ⟨"task", "env", 0, zeros⟩
  protocolDigest := zeros
  artifactId := "art"
  channelId := "ch"
  producerCallId := "c1"
  consumerCallId := "c2"
  deliveryId := "d1"
  readId := "r1"
  contextId := "x2"
  contextEntryId := "e2"
  original := sampleValue
  neutral := replacement
  originalPricedInputUnits := 1
  neutralPricedInputUnits := 1

def sampleIntact : RunEvidence := sampleEvidence [sampleRead "r1" 0]

/-- The run with the neutral value, of a release. -/
def sampleNeutral (releaseDigest : String) : RunEvidence :=
  sampleRun .neutralArtifact (some ones) releaseDigest (sampleContexts replacement)
    [⟨"d1", 0, "art", "ch", "c1", "c2", .neutralReplacement, some ones, replacement, 1⟩]
    [{ sampleRead "r1" 0 with observed := replacement }]

lemma sampleNeutral_checkFields {releaseDigest : String} (h : isDigest releaseDigest = true) :
    (sampleNeutral releaseDigest).checkFields sampleEncoding noLetters = .ok () :=
  sampleRun_checkFields (by decide +kernel) h (by decide +kernel) (by decide +kernel)
    (by decide +kernel)

lemma sampleIntervention_built : buildNeutralArtifactIntervention pairEncoding noLetters
    sampleIntact "art" "c2" "n" (fun _ => 1) [] [] = .ok sampleIntervention := by
  rfl

def samplePair : MatchedInterventionRunPair where
  matchedPairId := "pair"
  matchedPairDigest := zeros
  pairKey := ⟨"task", "env", 0, zeros⟩
  protocolDigest := zeros
  interventionDigest := ones
  intactRunEvidenceDigest := zeros
  neutralRunEvidenceDigest := zeros
  providerCallCount := 3
  toolCallCount := 1
  routeCount := 1
  inputTokensPerArm := 0

lemma sampleIntact_typed : Typed sampleIntact :=
  ⟨by decide, by decide, by decide, by decide⟩

lemma sampleNeutral_typed (releaseDigest : String) : Typed (sampleNeutral releaseDigest) := by
  have h : Typed (sampleNeutral zeros) := ⟨by decide, by decide, by decide, by decide⟩
  exact ⟨h.entries, h.artifacts, h.deliveries, h.reads⟩

lemma sampleNeutral_joined (releaseDigest : String) : joinMatchedInterventionRuns pairEncoding
    sampleIntact (sampleNeutral releaseDigest) sampleIntervention = .ok samplePair := by
  rfl

/-- The replaced delivery is the only read, and it names the only entry of the consumer. -/
lemma sampleNeutral_agree : UnjoinedAgree sampleIntact (sampleNeutral zeros) sampleIntervention := by
  have hnamed : ∀ context entry, Named sampleIntact context entry →
      (context.contextId, entry.entryId) = ("x2", "e2") := by
    rintro context entry ⟨read, hread, hname⟩
    obtain rfl := List.mem_singleton.mp hread
    exact hname.symm
  refine ⟨⟨rfl, rfl, rfl, rfl, rfl, rfl, rfl, rfl⟩, ?_, ?_, ?_, ?_, ?_⟩
  · rintro x ⟨hx, hother, -⟩
    rcases List.mem_cons.mp hx with rfl | hx
    · refine ⟨_, List.mem_cons_self, rfl, List.Forall₂.cons ⟨⟨rfl, rfl⟩, ?_, ?_⟩ .nil⟩
      · exact fun h => absurd (hnamed _ _ h) (by decide)
      · exact fun _ => by decide
    · obtain rfl := List.mem_singleton.mp hx
      exact absurd rfl hother
  · rintro y ⟨hy, hother, -⟩
    rcases List.mem_cons.mp hy with rfl | hy
    · refine ⟨_, List.mem_cons_self, rfl, List.Forall₂.cons ⟨⟨rfl, rfl⟩, ?_, ?_⟩ .nil⟩
      · exact fun h => absurd (hnamed _ _ h) (by decide)
      · exact fun _ => by decide
    · obtain rfl := List.mem_singleton.mp hy
      exact absurd rfl hother
  · intro a ha _
    have hid : a.artifactId = "art" := by
      rcases List.mem_append.mp ha with ha | ha <;> obtain rfl := List.mem_singleton.mp ha <;> rfl
    rw [hid]
    exact ⟨_, List.mem_singleton.mpr rfl, _, List.mem_singleton.mpr rfl, rfl, rfl, by decide⟩
  · intro read hread context _ _ _ hne
    obtain rfl := List.mem_singleton.mp hread
    exact absurd rfl hne
  · intro context hcontext hreceives entry hentry hnot
    rcases List.mem_cons.mp hcontext with rfl | hcontext
    · -- the producer's context
      obtain ⟨own, hown, hcall, hactor⟩ := hreceives
      rcases List.mem_cons.mp hown with rfl | hown
      · exact absurd hcall (by decide)
      · obtain rfl := List.mem_singleton.mp hown
        exact absurd hactor (by decide)
    · obtain rfl := List.mem_singleton.mp hcontext
      obtain rfl := List.mem_singleton.mp hentry
      exact absurd ⟨_, List.mem_singleton.mpr rfl, rfl⟩ hnot

theorem matched_iff_sample : Matched sampleIntact (sampleNeutral zeros) sampleIntervention := by
  have hneutral : (sampleNeutral zeros).check sampleEncoding noLetters = .ok () := by
    unfold RunEvidence.check
    rw [sampleNeutral_checkFields isDigest_zeros, ok_bind]
    decide +kernel
  exact (matched_iff (E := pairEncoding) sampleEvidence_accepted sampleIntact_typed
    sampleIntervention_built hneutral (sampleNeutral_typed zeros) (sampleNeutral_joined zeros)).mpr
    sampleNeutral_agree

/-- A neutral run of another release is joined. -/
theorem releaseCrossed : ¬∀ (intactRun neutralRun : RunEvidence)
    (intervention : NeutralArtifactIntervention) (pair : MatchedInterventionRunPair),
    intactRun.check pairEncoding.toEvidenceEncoding noLetters = .ok () → Typed intactRun →
    buildNeutralArtifactIntervention pairEncoding noLetters intactRun "art" "c2" "n" (fun _ => 1)
      [] [] = .ok intervention →
    neutralRun.check pairEncoding.toEvidenceEncoding noLetters = .ok () → Typed neutralRun →
    joinMatchedInterventionRuns pairEncoding intactRun neutralRun intervention = .ok pair →
      Matched intactRun neutralRun intervention := by
  intro hall
  have hneutral : (sampleNeutral ones).check sampleEncoding noLetters = .ok () := by
    unfold RunEvidence.check
    rw [sampleNeutral_checkFields (by decide +kernel), ok_bind]
    decide +kernel
  have hmatched := hall sampleIntact (sampleNeutral ones) sampleIntervention samplePair
    sampleEvidence_accepted sampleIntact_typed sampleIntervention_built hneutral
    (sampleNeutral_typed ones) (sampleNeutral_joined ones)
  exact absurd hmatched.pins.releaseDigest (by decide)

end Agintor.Evaluation
