import Agintor.Contracts.RunEvidence
import Mathlib.Data.List.Pairwise
import Mathlib.Data.List.Perm.Subperm

/-!
# What accepted run evidence accounts for

The validator compares sets and dictionaries of keys. Records that share a key are taken for one
there, so the account is one to one exactly if such records do not occur.
-/

namespace Agintor.Contracts

open Core Lib

/-! ## Lookups -/

section Lookups

variable {α κ : Type} {items : List α} {x : α}

lemma lastWhere_mem {p : α → Bool} (h : lastWhere p items = some x) : x ∈ items ∧ p x = true :=
  ⟨List.mem_reverse.mp (List.mem_of_find?_eq_some h), List.find?_some h⟩

lemma lastWhere_isSome {p : α → Bool} (hmem : x ∈ items) (hp : p x = true) :
    ∃ y, lastWhere p items = some y := by
  have hsome : (items.reverse.find? p).isSome = true :=
    List.find?_isSome.mpr ⟨x, List.mem_reverse.mpr hmem, hp⟩
  exact Option.isSome_iff_exists.mp hsome

lemma mem_distinct [DecidableEq α] : x ∈ distinct items ↔ x ∈ items := by
  unfold distinct
  rw [List.mem_reverse, List.mem_dedup, List.mem_reverse]

/-- Items with the same value under a function whose values do not repeat are the same item. -/
lemma eq_of_nodup_filterMap {f : α → Option κ} {y : α} {k : κ} (hnodup : (items.filterMap f).Nodup)
    (hx : x ∈ items) (hy : y ∈ items) (hfx : f x = some k) (hfy : f y = some k) : x = y := by
  by_contra hne
  have hpairwise := List.pairwise_filterMap.mp hnodup
  have : Std.Symm fun a b => ∀ k, f a = some k → ∀ l, f b = some l → k ≠ l :=
    ⟨fun a b h k hk l hl heq => h l hl k hk heq.symm⟩
  exact hpairwise.forall hx hy hne k hfx k hfy rfl

end Lookups

namespace RunEvidence

variable {E : EvidenceEncoding} {U : UnicodeTables} {e : RunEvidence}

/-! ## What the checks say -/

/-- The parts of an accepted value that the account rests on. -/
structure Accepted (e : RunEvidence) : Prop where
  contextEntries : ∀ context ∈ e.contexts, (context.entries.map (·.entryId)).Nodup
  toolKinds : ∀ call ∈ e.providerCalls,
    (call.responseKind = some .toolRequest ↔ call.toolRequestId.getD "" ≠ "")
  patchBytes : e.patch.patchBytes = (e.patch.text.map (·.utf8ByteSize)).getD 0
  unique : e.validateUniqueAndOrdered = .ok ()
  calls : e.validateContextCalls = .ok ()
  flow : e.validateArtifactFlow = .ok ()
  retries : e.validateRetryLinks = .ok ()
  totals : e.validatePatchTermination = .ok ()

lemma PatchEvidence.patchBytes_of_check {patch : PatchEvidence} (h : patch.check E U = .ok ()) :
    patch.patchBytes = (patch.text.map (·.utf8ByteSize)).getD 0 := by
  unfold PatchEvidence.check at h
  simp only [bind_eq_ok_iff, raiseIf_eq_ok_iff, exists_const] at h
  obtain ⟨-, -, -, -, hemitted, hbytes, -, hnot⟩ := h
  cases hstatus : patch.status with
  | emitted =>
    simp only [hstatus, true_and, not_or] at hemitted hbytes
    cases htext : patch.text with
    | none => exact absurd htext hemitted.2.1
    | some text =>
      simp only [htext, Option.any_some, decide_eq_true_eq, ne_eq, not_not] at hbytes
      rw [hbytes]
      rfl
  | notEmitted =>
    simp only [hstatus, true_and, not_or, ne_eq, not_not, Bool.not_eq_true] at hnot
    have hnone : patch.observed = none := by simpa using hnot.1
    have htext : patch.text = none := by
      unfold PatchEvidence.text
      rw [hnone]
    rw [htext, hnot.2.2.2]
    rfl

lemma accepted_of_check (h : e.check E U = .ok ()) : Accepted e := by
  unfold check at h
  simp only [bind_eq_ok_iff, raiseIf_eq_ok_iff, exists_const] at h
  obtain ⟨_, hfields, -, -, -, -, _, -, -, -, -, _, hunique, _, hcalls, _, hflow, _, hretries, _,
    htotals, -⟩ := h
  unfold checkFields at hfields
  simp only [bind_eq_ok_iff, raiseIf_eq_ok_iff, exists_const] at hfields
  obtain ⟨-, _, -, _, -, _, -, _, hcontexts, _, -, _, -, _, -, _, -, _, hproviderCalls, _, -, _, -,
    _, -, _, -, _, hpatch, -⟩ := hfields
  rw [forM_eq_ok_iff] at hcontexts hproviderCalls
  refine ⟨?_, ?_, PatchEvidence.patchBytes_of_check hpatch, hunique, hcalls, hflow, hretries,
    htotals⟩
  · intro context hcontext
    have hcheck := hcontexts context hcontext
    unfold PreCallContextEvidence.check at hcheck
    simp only [bind_eq_ok_iff, raiseIf_eq_ok_iff, exists_const, not_not] at hcheck
    obtain ⟨_, -, -, _, -, hnodup, -⟩ := hcheck
    exact hnodup
  · intro call hcall
    have hcheck := hproviderCalls call hcall
    unfold ProviderCallEvidence.check at hcheck
    simp only [bind_eq_ok_iff, raiseIf_eq_ok_iff, exists_const, not_not] at hcheck
    obtain ⟨_, -, _, -, _, -, -, -, -, -, -, -, -, hkind, -⟩ := hcheck
    exact hkind

/-! ## Identities -/

lemma nodup_of_checkCollection {label : String} {identifiers : List String}
    {sequence : Option (List ℕ)} (h : checkCollection label identifiers sequence = .ok ()) :
    identifiers.Nodup := by
  unfold checkCollection at h
  simp only [bind_eq_ok_iff, raiseIf_eq_ok_iff, exists_const, not_not] at h
  exact h.1

/-- The identities that do not repeat. -/
structure Identified (e : RunEvidence) : Prop where
  contexts : (e.contexts.map (·.contextId)).Nodup
  artifacts : (e.artifacts.map (·.artifactId)).Nodup
  deliveries : (e.deliveries.map (·.deliveryId)).Nodup
  reads : (e.reads.map (·.readId)).Nodup
  providerCalls : (e.providerCalls.map (·.providerCallId)).Nodup
  toolReceipts : (e.toolReceipts.map (·.toolCallId)).Nodup
  retries : (e.retries.map (·.retryId)).Nodup

lemma Accepted.identified (h : Accepted e) : Identified e := by
  have hunique := h.unique
  unfold validateUniqueAndOrdered at hunique
  simp only [bind_eq_ok_iff] at hunique
  obtain ⟨_, hcontexts, _, hartifacts, _, hdeliveries, _, hreads, _, -, _, hcalls, _, hreceipts,
    hretries⟩ := hunique
  exact ⟨nodup_of_checkCollection hcontexts, nodup_of_checkCollection hartifacts,
    nodup_of_checkCollection hdeliveries, nodup_of_checkCollection hreads,
    nodup_of_checkCollection hcalls, nodup_of_checkCollection hreceipts,
    nodup_of_checkCollection hretries⟩

/-! ## Deliveries and reads -/

variable {deliveries : List ArtifactDeliveryEvidence}

variable {seen result : List (String × String)} {delivery : ArtifactDeliveryEvidence}
    {read : ArtifactReadEvidence} {request : Option String} {retry : RetryEvidence}

/-- A loop that refuses a key it has seen accepts different keys only. -/
lemma nodup_of_checkDelivery (h : deliveries.foldlM e.checkDelivery seen = .ok result) :
    (deliveries.map deliveryKey).Nodup ∧ ∀ delivery ∈ deliveries, deliveryKey delivery ∉ seen := by
  induction deliveries generalizing seen with
  | nil => exact ⟨List.nodup_nil, fun delivery hmem => absurd hmem List.not_mem_nil⟩
  | cons delivery rest ih =>
    rw [List.foldlM_cons, bind_eq_ok_iff] at h
    obtain ⟨next, hnext, hrest⟩ := h
    unfold checkDelivery at hnext
    simp only [bind_eq_ok_iff, raiseIf_eq_ok_iff, exists_const, pure_eq_ok, Except.ok.injEq]
      at hnext
    obtain ⟨-, -, -, -, -, -, hfresh, rfl⟩ := hnext
    obtain ⟨hnodup, hnot⟩ := ih hrest
    constructor
    · rw [List.map_cons, List.nodup_cons]
      refine ⟨fun hmem => ?_, hnodup⟩
      obtain ⟨other, hother, heq⟩ := List.mem_map.mp hmem
      exact hnot other hother (heq ▸ List.mem_cons_self)
    · intro other hother
      rcases List.mem_cons.mp hother with rfl | hother
      · exact hfresh
      · exact fun hseen => hnot other hother (List.mem_cons_of_mem _ hseen)

/-- Every delivery passed the checks of its round. -/
lemma passed_of_checkDelivery (h : deliveries.foldlM e.checkDelivery seen = .ok result) :
    ∀ delivery ∈ deliveries, ∃ before after, e.checkDelivery before delivery = .ok after := by
  induction deliveries generalizing seen with
  | nil => exact fun delivery hmem => absurd hmem List.not_mem_nil
  | cons delivery rest ih =>
    rw [List.foldlM_cons, bind_eq_ok_iff] at h
    obtain ⟨next, hnext, hrest⟩ := h
    exact List.forall_mem_cons.mpr ⟨⟨seen, next, hnext⟩, ih hrest⟩

/-- A delivery that has been checked. -/
structure DeliveryLinks (e : RunEvidence) (delivery : ArtifactDeliveryEvidence) : Prop where
  intact : delivery.deliveryKind = .intact → ∃ artifact ∈ e.artifacts,
    artifact.artifactId = delivery.artifactId ∧ artifact.observed.same delivery.observed = true
  neutral : delivery.deliveryKind = .neutralReplacement → e.arm = .neutralArtifact

lemma deliveryLinks_of_checkDelivery {before after : List (String × String)}
    (h : e.checkDelivery before delivery = .ok after) : DeliveryLinks e delivery := by
  unfold checkDelivery at h
  simp only [bind_eq_ok_iff, raiseIf_eq_ok_iff, exists_const, not_and, Bool.not_eq_false,
    Option.any_eq_true, not_not] at h
  obtain ⟨-, -, hintact, harm, -⟩ := h
  refine ⟨fun hkind => ?_, fun hkind => by simpa using harm hkind⟩
  obtain ⟨artifact, hget, hsame⟩ := hintact hkind
  obtain ⟨hmem, hid⟩ := lastWhere_mem hget
  exact ⟨artifact, hmem, by simpa using hid, hsame⟩

/-- A read that has been checked. -/
structure ReadLinks (e : RunEvidence) (read : ArtifactReadEvidence) : Prop where
  direct : read.readKind = .directDelivery → ∃ delivery ∈ e.deliveries,
    deliveryKey delivery = readKey read ∧ read.deliveryId = some delivery.deliveryId ∧
      read.observed.same delivery.observed = true
  retained : read.readKind ≠ .directDelivery → readKey read ∉ e.deliveries.map deliveryKey ∧
    ∃ artifact ∈ e.artifacts, artifact.artifactId = read.artifactId ∧
      read.observed.same artifact.observed = true
  entry : ∃ context ∈ e.contexts, context.contextId = read.contextId ∧
    context.callId = read.consumerCallId ∧
    ∃ entry ∈ artifactEntries context, entry.entryId = read.contextEntryId ∧
      entry.sourceRef = read.artifactId ∧ entry.observed.same read.observed = true

lemma readLinks_of_checkRead (h : e.checkRead read = .ok ()) : ReadLinks e read := by
  unfold checkRead at h
  split at h
  · cases h
  · next artifact hartifact =>
    rw [bind_eq_ok_iff] at h
    obtain ⟨_, hkind, hcontext⟩ := h
    constructor
    · intro hdirect
      rw [checkReadKind, if_pos hdirect] at hkind
      unfold checkDirectRead at hkind
      simp only [bind_eq_ok_iff, raiseIf_eq_ok_iff, exists_const, Bool.not_eq_false,
        Option.any_eq_true, decide_eq_true_eq] at hkind
      obtain ⟨⟨delivery, hdelivery, hid⟩, other, hother, -, hsame, -⟩ := hkind
      obtain rfl := Option.some.inj (hother.symm.trans hdelivery)
      obtain ⟨hmem, hkey⟩ := lastWhere_mem hdelivery
      exact ⟨other, hmem, by simpa using hkey, hid, hsame⟩
    · intro hretained
      rw [checkReadKind, if_neg hretained] at hkind
      unfold checkRetainedRead at hkind
      simp only [bind_eq_ok_iff, raiseIf_eq_ok_iff, exists_const, not_not] at hkind
      obtain ⟨hnone, -, -, -, -, hsame, -⟩ := hkind
      obtain ⟨hmem, hid⟩ := lastWhere_mem hartifact
      refine ⟨fun hkey => hnone ?_, artifact, hmem, by simpa using hid, hsame⟩
      obtain ⟨delivery, hdelivery, hkey'⟩ := List.mem_map.mp hkey
      obtain ⟨other, hother⟩ := lastWhere_isSome
        (p := fun delivery => deliveryKey delivery = readKey read) hdelivery (by simpa using hkey')
      exact Option.isSome_iff_exists.mpr ⟨other, hother⟩
    · unfold checkReadContext at hcontext
      simp only [bind_eq_ok_iff, raiseIf_eq_ok_iff, exists_const, Bool.not_eq_false,
        Option.any_eq_true, decide_eq_true_eq] at hcontext
      obtain ⟨⟨context, hget, hcall⟩, other, hother, entry, hentry, hkind', href, hsame⟩ := hcontext
      obtain rfl := Option.some.inj (hother.symm.trans hget)
      obtain ⟨hmem, hid⟩ := lastWhere_mem hget
      have hentryId := List.find?_some hentry
      refine ⟨other, hmem, by simpa using hid, hcall, entry, ?_, by simpa using hentryId, href,
        hsame⟩
      exact List.mem_filter.mpr ⟨List.mem_of_find?_eq_some hentry, by simpa using hkind'⟩

/-- What the artifact flow says. -/
structure Flow (e : RunEvidence) : Prop where
  deliveryKeys : (e.deliveries.map deliveryKey).Nodup
  deliveries : ∀ delivery ∈ e.deliveries, DeliveryLinks e delivery
  neutralDeliveries : e.arm = .neutralArtifact → e.neutralDeliveries = 1
  reads : ∀ read ∈ e.reads, ReadLinks e read
  delivered : e.deliveries.map deliveryKey ⊆ e.directReadKeys

lemma Accepted.artifactFlow (h : Accepted e) : Flow e := by
  have hflow := h.flow
  unfold validateArtifactFlow at hflow
  simp only [bind_eq_ok_iff, raiseIf_eq_ok_iff, exists_const, not_not] at hflow
  obtain ⟨seen, hdeliveries, hneutral, -, _, hreads, hkeys, -⟩ := hflow
  rw [forM_eq_ok_iff] at hreads
  refine
    { deliveryKeys := (nodup_of_checkDelivery hdeliveries).1
      deliveries := fun delivery hdelivery => ?_
      neutralDeliveries := fun harm => by simpa [harm] using hneutral
      reads := fun read hread => readLinks_of_checkRead (hreads read hread)
      delivered := hkeys.2 }
  obtain ⟨before, after, hcheck⟩ := passed_of_checkDelivery hdeliveries delivery hdelivery
  exact deliveryLinks_of_checkDelivery hcheck

/-- The direct reads of a delivery. -/
def DirectReadOf (e : RunEvidence) (delivery : ArtifactDeliveryEvidence)
    (read : ArtifactReadEvidence) : Prop :=
  read ∈ e.reads ∧ read.readKind = .directDelivery ∧ read.deliveryId = some delivery.deliveryId

/-- Every delivery is read, by its consumer and as delivered. -/
lemma Accepted.delivery_read (h : Accepted e) (hdelivery : delivery ∈ e.deliveries) :
    (∃ read, DirectReadOf e delivery read) ∧ ∀ read, DirectReadOf e delivery read →
      read.consumerCallId = delivery.consumerCallId ∧
        read.observed.same delivery.observed = true := by
  have hflow := h.artifactFlow
  constructor
  · obtain ⟨read, hread, hkey⟩ := List.mem_map.mp
      (hflow.delivered (List.mem_map_of_mem hdelivery))
    obtain ⟨hmem, hdirect⟩ := List.mem_filter.mp hread
    have hkind : read.readKind = .directDelivery := by simpa using hdirect
    obtain ⟨other, hother, hsame, hid, -⟩ := (hflow.reads read hmem).direct hkind
    obtain rfl := List.inj_on_of_nodup_map hflow.deliveryKeys hother hdelivery (hsame.trans hkey)
    exact ⟨read, hmem, hkind, hid⟩
  · rintro read ⟨hmem, hkind, hid⟩
    obtain ⟨other, hother, hkey, hid', hsame⟩ := (hflow.reads read hmem).direct hkind
    obtain rfl := List.inj_on_of_nodup_map h.identified.deliveries hother hdelivery
      (Option.some.inj (hid'.symm.trans hid))
    exact ⟨(congrArg Prod.snd hkey).symm, hsame⟩

/-- The direct reads. -/
def directReads (e : RunEvidence) : List ArtifactReadEvidence :=
  e.reads.filter fun read => read.readKind = .directDelivery

lemma mem_directReads :
    read ∈ e.directReads ↔ read ∈ e.reads ∧ read.readKind = .directDelivery := by
  unfold directReads
  rw [List.mem_filter, decide_eq_true_eq]

/-- Every delivery has one direct read exactly if no two direct reads name one delivery. -/
lemma Accepted.existsUnique_directRead_iff (h : Accepted e) :
    (∀ delivery ∈ e.deliveries, ∃! read, DirectReadOf e delivery read) ↔
      (e.directReads.map (·.deliveryId)).Nodup := by
  constructor
  · intro hunique
    refine List.Nodup.map_on ?_ ((List.Nodup.of_map _ h.identified.reads).filter _)
    intro read hread other hother heq
    obtain ⟨hmem, hkind⟩ := mem_directReads.mp hread
    obtain ⟨hmem', hkind'⟩ := mem_directReads.mp hother
    obtain ⟨delivery, hdelivery, -, hid, -⟩ := (h.artifactFlow.reads read hmem).direct hkind
    exact (hunique delivery hdelivery).unique ⟨hmem, hkind, hid⟩ ⟨hmem', hkind', heq ▸ hid⟩
  · intro hnodup delivery hdelivery
    obtain ⟨read, hmem, hkind, hid⟩ := (h.delivery_read hdelivery).1
    refine ⟨read, ⟨hmem, hkind, hid⟩, ?_⟩
    rintro other ⟨hmem', hkind', hid'⟩
    exact List.inj_on_of_nodup_map hnodup (mem_directReads.mpr ⟨hmem', hkind'⟩)
      (mem_directReads.mpr ⟨hmem, hkind⟩) (hid'.trans hid.symm)

/-! ## Entries of contexts -/

/-- The entry that a read names. -/
def readEntry (read : ArtifactReadEvidence) : String × String := (read.contextId, read.contextEntryId)

/-- The artifact entries of all contexts. -/
def allEntries (e : RunEvidence) : List (String × String) :=
  e.contexts.flatMap fun context =>
    (artifactEntries context).map fun entry => (context.contextId, entry.entryId)

lemma mem_allEntries {key : String × String} : key ∈ e.allEntries ↔
    ∃ context ∈ e.contexts, ∃ entry ∈ artifactEntries context,
      (context.contextId, entry.entryId) = key := by
  unfold allEntries
  simp only [List.mem_flatMap, List.mem_map]

lemma Accepted.nodup_allEntries (h : Accepted e) : e.allEntries.Nodup := by
  unfold allEntries
  rw [List.nodup_flatMap]
  constructor
  · intro context hcontext
    refine List.Nodup.map_on ?_ ((List.Nodup.of_map _ (h.contextEntries context hcontext)).filter _)
    intro entry hentry other hother heq
    exact List.inj_on_of_nodup_map (h.contextEntries context hcontext)
      (List.mem_of_mem_filter hentry) (List.mem_of_mem_filter hother) (Prod.mk.inj heq).2
  · have hcontexts := List.pairwise_map.mp h.identified.contexts
    refine hcontexts.imp fun {a b} hne => ?_
    show List.Disjoint _ _
    intro key hkey hkey'
    obtain ⟨entry, -, rfl⟩ := List.mem_map.mp hkey
    obtain ⟨other, -, heq⟩ := List.mem_map.mp hkey'
    exact hne (Prod.mk.inj heq).1.symm

lemma Accepted.readEntries_subset (h : Accepted e) : e.reads.map readEntry ⊆ e.allEntries := by
  intro key hkey
  obtain ⟨read, hread, rfl⟩ := List.mem_map.mp hkey
  obtain ⟨context, hcontext, hid, -, entry, hentry, hentryId, -⟩ :=
    (h.artifactFlow.reads read hread).entry
  exact mem_allEntries.mpr ⟨context, hcontext, entry, hentry, by rw [hid, hentryId]; rfl⟩

/-- Every artifact entry belongs to one read exactly if the reads name different entries and there
are as many of them as artifact entries. -/
lemma Accepted.existsUnique_entryRead_iff (h : Accepted e) :
    (∀ key ∈ e.allEntries, ∃! read, read ∈ e.reads ∧ readEntry read = key) ↔
      (e.reads.map readEntry).Nodup ∧ e.reads.length = e.allEntries.length := by
  have hsubset := h.readEntries_subset
  constructor
  · intro hunique
    have hnodup : (e.reads.map readEntry).Nodup := by
      refine List.Nodup.map_on ?_ (List.Nodup.of_map _ h.identified.reads)
      intro read hread other hother heq
      exact (hunique _ (hsubset (List.mem_map_of_mem hread))).unique ⟨hread, rfl⟩
        ⟨hother, heq.symm⟩
    have hall : e.allEntries ⊆ e.reads.map readEntry := by
      intro key hkey
      obtain ⟨read, hread, hentry⟩ := (hunique key hkey).exists
      exact hentry ▸ List.mem_map_of_mem hread
    have hle := (List.subperm_of_subset hnodup hsubset).length_le
    have hge := (List.subperm_of_subset h.nodup_allEntries hall).length_le
    rw [List.length_map] at hle hge
    exact ⟨hnodup, by omega⟩
  · rintro ⟨hnodup, hlength⟩ key hkey
    have hperm := (List.subperm_of_subset hnodup hsubset).perm_of_length_le
      (by rw [List.length_map, hlength])
    obtain ⟨read, hread, hentry⟩ := List.mem_map.mp (hperm.mem_iff.mpr hkey)
    refine ⟨read, ⟨hread, hentry⟩, ?_⟩
    rintro other ⟨hother, hentry'⟩
    exact List.inj_on_of_nodup_map hnodup hother hread (hentry'.trans hentry.symm)

/-! ## Tool requests -/

/-- The rounds that ask for a tool, and the receipts that answer them. -/
def Asks (e : RunEvidence) (call : ProviderCallEvidence) : Prop :=
  call ∈ e.providerCalls ∧ call.responseKind = some .toolRequest

def Answers (e : RunEvidence) (receipt : ToolReceiptEvidence) : Prop :=
  receipt ∈ e.toolReceipts ∧ receipt.phase = .actorTool

lemma mem_providerToolRequests :
    request ∈ e.providerToolRequests ↔ ∃ call, Asks e call ∧ call.toolRequestId = request := by
  unfold providerToolRequests Asks
  simp only [List.mem_map, List.mem_filter, decide_eq_true_eq]

lemma mem_receiptToolRequests :
    request ∈ e.receiptToolRequests ↔
      ∃ receipt, Answers e receipt ∧ receipt.toolRequestId = request := by
  unfold receiptToolRequests Answers
  simp only [List.mem_map, List.mem_filter, decide_eq_true_eq]

/-- What the calls say about tool requests. -/
structure ToolLinks (e : RunEvidence) : Prop where
  distinct : ∀ {a b}, Asks e a → Asks e b → a.toolRequestId = b.toolRequestId → a = b
  answered : e.providerToolRequests ⊆ e.receiptToolRequests
  asked : e.receiptToolRequests ⊆ e.providerToolRequests

lemma Accepted.toolLinks (h : Accepted e) : ToolLinks e := by
  have hcalls := h.calls
  unfold validateContextCalls at hcalls
  simp only [bind_eq_ok_iff, raiseIf_eq_ok_iff, exists_const, not_not] at hcalls
  obtain ⟨_, -, -, hnodup, _, -, hanswered, hasked⟩ := hcalls
  refine ⟨?_, hanswered, hasked⟩
  rintro a b ⟨ha, hkind⟩ ⟨hb, -⟩ heq
  have hne := (h.toolKinds a ha).mp hkind
  cases hid : a.toolRequestId with
  | none => simp [hid] at hne
  | some id =>
    rw [hid, Option.getD_some] at hne
    refine eq_of_nodup_filterMap (k := id) hnodup ha hb ?_ ?_
    · rw [hid, Option.filter_some, if_pos (by simpa using hne)]
    · rw [← heq, hid, Option.filter_some, if_pos (by simpa using hne)]

/-- Every actor tool receipt answers one round. -/
lemma Accepted.existsUnique_round (h : Accepted e) {receipt : ToolReceiptEvidence}
    (hreceipt : Answers e receipt) :
    ∃! call, Asks e call ∧ call.toolRequestId = receipt.toolRequestId := by
  obtain ⟨call, hcall, hid⟩ := mem_providerToolRequests.mp
    (h.toolLinks.asked (mem_receiptToolRequests.mpr ⟨receipt, hreceipt, rfl⟩))
  refine ⟨call, ⟨hcall, hid⟩, ?_⟩
  rintro other ⟨hother, hid'⟩
  exact h.toolLinks.distinct hother hcall (hid'.trans hid.symm)

/-- Every round that asks for a tool has one receipt exactly if no two receipts answer one
request. -/
lemma Accepted.existsUnique_receipt_iff (h : Accepted e) :
    (∀ call, Asks e call →
        ∃! receipt, Answers e receipt ∧ receipt.toolRequestId = call.toolRequestId) ↔
      e.receiptToolRequests.Nodup := by
  constructor
  · intro hunique
    refine List.Nodup.map_on ?_ ((List.Nodup.of_map _ h.identified.toolReceipts).filter _)
    intro receipt hreceipt other hother heq
    rw [List.mem_filter, decide_eq_true_eq] at hreceipt hother
    obtain ⟨call, ⟨hcall, hid⟩, -⟩ := h.existsUnique_round hreceipt
    exact (hunique call hcall).unique ⟨hreceipt, hid.symm⟩ ⟨hother, (hid.trans heq).symm⟩
  · intro hnodup call hcall
    obtain ⟨receipt, hreceipt, hid⟩ := mem_receiptToolRequests.mp
      (h.toolLinks.answered (mem_providerToolRequests.mpr ⟨call, hcall, rfl⟩))
    refine ⟨receipt, ⟨hreceipt, hid⟩, ?_⟩
    rintro other ⟨⟨hother, hphase⟩, hid'⟩
    exact List.inj_on_of_nodup_map hnodup
      (List.mem_filter.mpr ⟨hother, by simpa using hphase⟩)
      (List.mem_filter.mpr ⟨hreceipt.1, by simpa using hreceipt.2⟩) (hid'.trans hid.symm)

/-! ## Turns -/

/-- An attempt of a logical call that succeeded. -/
def Succeeded (e : RunEvidence) (callId : String) (call : ProviderCallEvidence) : Prop :=
  call ∈ e.providerCalls ∧ call.callId = callId ∧ call.status = .succeeded

/-- The succeeded turns of a logical call: they are contiguous, a terminal response is in the last
of them, and there is one unless an attempt failed. -/
structure Turns (e : RunEvidence) (callId : String) (n : ℕ) : Prop where
  contiguous : ∀ turn, turn < n ↔ ∃ call, Succeeded e callId call ∧ call.turnIndex = turn
  terminal : ∀ call, Succeeded e callId call → call.responseKind = some .terminal →
    call.turnIndex + 1 = n
  ended : 0 < n → (∀ call ∈ e.providerCalls, call.callId = callId → call.status = .succeeded) →
    ∃ call, Succeeded e callId call ∧ call.responseKind = some .terminal

lemma mem_turnIndexes {succeeded : List ProviderCallEvidence} {turn : ℕ} :
    turn ∈ turnIndexes succeeded ↔ ∃ call ∈ succeeded, call.turnIndex = turn := by
  unfold turnIndexes
  rw [List.mem_insertionSort, List.mem_dedup, List.mem_map]

lemma turns_of_checkRounds {callId : String} (h : e.checkRounds callId = .ok ()) :
    ∃ n, Turns e callId n := by
  unfold checkRounds at h
  simp only [bind_eq_ok_iff, raiseIf_eq_ok_iff, exists_const, not_not] at h
  obtain ⟨hrange, hterminal, hended, -⟩ := h
  have hmem : ∀ call, call ∈ (e.providerCalls.filter fun call => call.callId = callId).filter
      isSucceeded ↔ Succeeded e callId call := by
    intro call
    unfold Succeeded isSucceeded
    simp only [List.mem_filter, decide_eq_true_eq, and_assoc]
  generalize hsucceeded : (e.providerCalls.filter fun call => call.callId = callId).filter
    isSucceeded = succeeded at hmem hrange hterminal hended
  have hcontiguous : ∀ turn, turn < (turnIndexes succeeded).length ↔
      ∃ call, Succeeded e callId call ∧ call.turnIndex = turn := by
    intro turn
    rw [← List.mem_range, ← hrange, mem_turnIndexes]
    simp only [hmem]
  refine ⟨(turnIndexes succeeded).length, hcontiguous, ?_, ?_⟩
  · intro call hcall hkind
    have hin : call ∈ succeeded.filter fun call => call.responseKind = some .terminal :=
      List.mem_filter.mpr ⟨(hmem call).mpr hcall, by simpa using hkind⟩
    generalize succeeded.filter (fun call => call.responseKind = some .terminal) = terminals
      at hin hterminal
    rw [not_and, not_or] at hterminal
    obtain ⟨hone, hlast⟩ := hterminal (List.ne_nil_of_mem hin)
    obtain ⟨last, rfl⟩ := List.length_eq_one_iff.mp (not_not.mp hone)
    obtain rfl := List.mem_singleton.mp hin
    have hturn : call.turnIndex = (turnIndexes succeeded).getLastD 0 := by simpa using hlast
    have hlt := (hcontiguous call.turnIndex).mpr ⟨call, hcall, rfl⟩
    rw [hrange, List.getLastD_eq_getLast?, List.getLast?_range] at hturn
    split at hturn
    · omega
    · rw [Option.getD_some] at hturn
      omega
  · intro hpos hall
    obtain ⟨call, hcall, -⟩ := (hcontiguous 0).mp hpos
    by_contra hnone
    refine hended ⟨List.ne_nil_of_mem ((hmem call).mpr hcall), ?_, ?_⟩
    · rw [List.filter_eq_nil_iff]
      intro other hother hkind
      exact hnone ⟨other, (hmem other).mp hother, by simpa using hkind⟩
    · rw [List.all_eq_true]
      intro other hother
      rw [List.mem_filter, decide_eq_true_eq] at hother
      exact decide_eq_true (hall other hother.1 hother.2)

lemma Accepted.turns (h : Accepted e) (callId : String) : ∃ n, Turns e callId n := by
  have hcalls := h.calls
  unfold validateContextCalls at hcalls
  simp only [bind_eq_ok_iff, raiseIf_eq_ok_iff, exists_const] at hcalls
  obtain ⟨_, -, -, -, _, hrounds, -⟩ := hcalls
  rw [forM_eq_ok_iff] at hrounds
  by_cases hmem : callId ∈ e.providerCalls.map (·.callId)
  · exact turns_of_checkRounds (hrounds callId (mem_distinct.mpr hmem))
  · -- a call without attempts
    have hnone : ∀ call, ¬Succeeded e callId call := by
      rintro call ⟨hcall, rfl, -⟩
      exact hmem (List.mem_map_of_mem hcall)
    refine ⟨0, ?_, fun call hcall => absurd hcall (hnone call), fun hpos => absurd hpos (by omega)⟩
    intro turn
    constructor
    · intro hlt
      omega
    · intro hexists
      obtain ⟨call, hcall, -⟩ := hexists
      exact absurd hcall (hnone call)

/-- The succeeded attempts, by logical call and turn. -/
def succeededTurns (e : RunEvidence) : List (String × ℕ) :=
  (e.providerCalls.filter isSucceeded).map fun call => (call.callId, call.turnIndex)

/-- Every turn has at most one succeeded attempt exactly if no call and turn repeats. -/
lemma Accepted.succeeded_unique_iff (h : Accepted e) :
    (∀ callId a b, Succeeded e callId a → Succeeded e callId b → a.turnIndex = b.turnIndex → a = b) ↔
      e.succeededTurns.Nodup := by
  constructor
  · intro hunique
    refine List.Nodup.map_on ?_ ((List.Nodup.of_map _ h.identified.providerCalls).filter _)
    intro a ha b hb heq
    unfold isSucceeded at ha hb
    rw [List.mem_filter, decide_eq_true_eq] at ha hb
    obtain ⟨hcall, hturn⟩ := Prod.mk.inj heq
    exact hunique b.callId a b ⟨ha.1, hcall, ha.2⟩ ⟨hb.1, rfl, hb.2⟩ hturn
  · rintro hnodup callId a b ⟨ha, hcallA, hstatusA⟩ ⟨hb, hcallB, hstatusB⟩ hturn
    refine List.inj_on_of_nodup_map hnodup (List.mem_filter.mpr ⟨ha, decide_eq_true hstatusA⟩)
      (List.mem_filter.mpr ⟨hb, decide_eq_true hstatusB⟩) ?_
    rw [hcallA, hcallB, hturn]

/-! ## Retries -/

/-- A retry that names a failed attempt and leads to the one after it in the same turn. -/
def RetryLinked (e : RunEvidence) (retry : RetryEvidence) : Prop :=
  ∃ failed ∈ e.providerCalls, failed.providerCallId = retry.failedProviderCallId ∧
    failed.callId = retry.callId ∧ failed.status ≠ .succeeded ∧
    ∃ next ∈ e.providerCalls, next.callId = failed.callId ∧ next.turnIndex = failed.turnIndex ∧
      next.attemptIndex = retry.nextAttemptIndex ∧ next.attemptIndex = failed.attemptIndex + 1

/-- The next attempt that a retry names is recorded, in the turn of the attempt that failed. -/
def NextRecorded (e : RunEvidence) (retry : RetryEvidence) : Prop :=
  ∀ failed ∈ e.providerCalls, failed.providerCallId = retry.failedProviderCallId →
    retry.nextAttemptIndex = failed.attemptIndex + 1 ∧
      (failed.callId, failed.turnIndex, retry.nextAttemptIndex) ∈ e.providerCalls.map attemptKey

lemma Accepted.retry_failed (h : Accepted e) (hretry : retry ∈ e.retries) :
    ∃ failed ∈ e.providerCalls, failed.providerCallId = retry.failedProviderCallId ∧
      failed.callId = retry.callId ∧ failed.status ≠ .succeeded := by
  have hretries := h.retries
  unfold validateRetryLinks at hretries
  simp only [bind_eq_ok_iff, raiseIf_eq_ok_iff] at hretries
  obtain ⟨_, hall, -⟩ := hretries
  rw [forM_eq_ok_iff] at hall
  have hcheck := hall retry hretry
  unfold checkRetry at hcheck
  simp only [bind_eq_ok_iff, raiseIf_eq_ok_iff, exists_const, Bool.not_eq_false,
    Option.any_eq_true, decide_eq_true_eq] at hcheck
  obtain ⟨⟨failed, hget, hcall, hstatus⟩, -⟩ := hcheck
  obtain ⟨hmem, hid⟩ := lastWhere_mem hget
  exact ⟨failed, hmem, by simpa using hid, hcall, hstatus⟩

lemma Accepted.retryLinked_iff (h : Accepted e) (hretry : retry ∈ e.retries) :
    RetryLinked e retry ↔ NextRecorded e retry := by
  constructor
  · rintro ⟨failed, hfailed, hid, -, -, next, hnext, hcall, hturn, hindex, hafter⟩ other hother hid'
    obtain rfl := List.inj_on_of_nodup_map h.identified.providerCalls hother hfailed
      (hid'.trans hid.symm)
    refine ⟨by rw [← hindex, hafter], List.mem_map.mpr ⟨next, hnext, ?_⟩⟩
    unfold attemptKey
    rw [hcall, hturn, hindex]
  · intro hrecorded
    obtain ⟨failed, hfailed, hid, hcall, hstatus⟩ := h.retry_failed hretry
    obtain ⟨hindex, hmem⟩ := hrecorded failed hfailed hid
    obtain ⟨next, hnext, hkey⟩ := List.mem_map.mp hmem
    obtain ⟨hnextCall, hnextTurn, hnextIndex⟩ : next.callId = failed.callId ∧
        next.turnIndex = failed.turnIndex ∧ next.attemptIndex = retry.nextAttemptIndex := by
      simpa [attemptKey] using hkey
    exact ⟨failed, hfailed, hid, hcall, hstatus, next, hnext, hnextCall, hnextTurn, hnextIndex,
      hnextIndex.trans hindex⟩

lemma Accepted.retries_distinct_iff (h : Accepted e) :
    (∀ a ∈ e.retries, ∀ b ∈ e.retries, a.failedProviderCallId = b.failedProviderCallId → a = b) ↔
      (e.retries.map (·.failedProviderCallId)).Nodup := by
  constructor
  · intro hdistinct
    refine List.Nodup.map_on ?_ (List.Nodup.of_map _ h.identified.retries)
    intro a ha b hb heq
    exact hdistinct a ha b hb heq
  · intro hnodup a ha b hb heq
    exact List.inj_on_of_nodup_map hnodup ha hb heq

/-! ## Totals -/

/-- The totals of the ledger are those of the records. -/
structure TotalsAgree (e : RunEvidence) : Prop where
  modelCalls : e.costLedger.cost.modelCalls = (e.providerCalls.filter (·.requestSent)).length
  toolCalls : e.costLedger.cost.toolCalls = e.toolReceipts.length
  retries : e.costLedger.cost.retries = e.retries.length
  patchBytes : e.costLedger.cost.patchBytes = (e.patch.text.map (·.utf8ByteSize)).getD 0

lemma Accepted.totalsAgree (h : Accepted e) : TotalsAgree e := by
  have htotals := h.totals
  have hretries := h.retries
  unfold validatePatchTermination at htotals
  unfold validateRetryLinks at hretries
  simp only [bind_eq_ok_iff, raiseIf_eq_ok_iff, exists_const, not_not, ne_eq] at htotals hretries
  obtain ⟨-, -, -, hpatch, hmodel, htool, -⟩ := htotals
  obtain ⟨_, -, hcount⟩ := hretries
  exact ⟨hmodel, htool, hcount.symm, hpatch.trans h.patchBytes⟩

/-! ## The account -/

/-- The records are a one-to-one account of the run. -/
structure OneToOne (e : RunEvidence) : Prop where
  deliveries : ∀ delivery ∈ e.deliveries, (∃! read, DirectReadOf e delivery read) ∧
    ∀ read, DirectReadOf e delivery read → read.consumerCallId = delivery.consumerCallId ∧
      read.observed.same delivery.observed = true
  entries : ∀ context ∈ e.contexts, ∀ entry ∈ artifactEntries context,
    ∃! read, read ∈ e.reads ∧ readEntry read = (context.contextId, entry.entryId)
  receipts : ∀ receipt, Answers e receipt →
    ∃! call, Asks e call ∧ call.toolRequestId = receipt.toolRequestId
  rounds : ∀ call, Asks e call →
    ∃! receipt, Answers e receipt ∧ receipt.toolRequestId = call.toolRequestId
  attempts : ∀ callId a b, Succeeded e callId a → Succeeded e callId b →
    a.turnIndex = b.turnIndex → a = b
  turns : ∀ callId, ∃ n, Turns e callId n
  retries : ∀ retry ∈ e.retries, RetryLinked e retry
  retriesDistinct : ∀ a ∈ e.retries, ∀ b ∈ e.retries,
    a.failedProviderCallId = b.failedProviderCallId → a = b
  totals : TotalsAgree e

/-- No two records share a key that the validator compares sets of, and a retry leads to the next
attempt of its turn. -/
structure Unshared (e : RunEvidence) : Prop where
  directReads : (e.directReads.map (·.deliveryId)).Nodup
  readEntries : (e.reads.map readEntry).Nodup
  entryCount : e.reads.length = e.allEntries.length
  receipts : e.receiptToolRequests.Nodup
  turns : e.succeededTurns.Nodup
  retries : (e.retries.map (·.failedProviderCallId)).Nodup
  nextAttempts : ∀ retry ∈ e.retries, NextRecorded e retry

/-- Accepted evidence is a one-to-one account exactly if no keys are shared. -/
theorem oneToOne_iff (h : e.check E U = .ok ()) : OneToOne e ↔ Unshared e := by
  have haccepted := accepted_of_check h
  have hentries : (∀ context ∈ e.contexts, ∀ entry ∈ artifactEntries context,
      ∃! read, read ∈ e.reads ∧ readEntry read = (context.contextId, entry.entryId)) ↔
      ∀ key ∈ e.allEntries, ∃! read, read ∈ e.reads ∧ readEntry read = key := by
    constructor
    · intro hall key hkey
      obtain ⟨context, hcontext, entry, hentry, rfl⟩ := mem_allEntries.mp hkey
      exact hall context hcontext entry hentry
    · intro hall context hcontext entry hentry
      exact hall _ (mem_allEntries.mpr ⟨context, hcontext, entry, hentry, rfl⟩)
  constructor
  · intro hone
    have hreads := haccepted.existsUnique_entryRead_iff.mp (hentries.mp hone.entries)
    exact
      { directReads := haccepted.existsUnique_directRead_iff.mp fun delivery hdelivery =>
          (hone.deliveries delivery hdelivery).1
        readEntries := hreads.1
        entryCount := hreads.2
        receipts := haccepted.existsUnique_receipt_iff.mp hone.rounds
        turns := haccepted.succeeded_unique_iff.mp hone.attempts
        retries := haccepted.retries_distinct_iff.mp hone.retriesDistinct
        nextAttempts := fun retry hretry =>
          (haccepted.retryLinked_iff hretry).mp (hone.retries retry hretry) }
  · intro hunshared
    have hdirect := haccepted.existsUnique_directRead_iff.mpr hunshared.directReads
    exact
      { deliveries := fun delivery hdelivery =>
          ⟨hdirect delivery hdelivery, (haccepted.delivery_read hdelivery).2⟩
        entries := hentries.mpr (haccepted.existsUnique_entryRead_iff.mpr
          ⟨hunshared.readEntries, hunshared.entryCount⟩)
        receipts := fun receipt hreceipt => haccepted.existsUnique_round hreceipt
        rounds := haccepted.existsUnique_receipt_iff.mpr hunshared.receipts
        attempts := haccepted.succeeded_unique_iff.mpr hunshared.turns
        turns := haccepted.turns
        retries := fun retry hretry =>
          (haccepted.retryLinked_iff hretry).mpr (hunshared.nextAttempts retry hretry)
        retriesDistinct := haccepted.retries_distinct_iff.mpr hunshared.retries
        totals := haccepted.totalsAgree }

/-! ## A run of two calls -/

lemma noDollars : (0 : ℚ) ≤ 0 ∧ (0 : ℚ) ≤ 0 := ⟨le_refl 0, le_refl 0⟩

lemma noTokens : 0 + 0 ≤ 0 := le_refl 0

def zeros : String := String.ofList (List.replicate 64 '0')

def ones : String := String.ofList (List.replicate 64 '1')

/-- Digests that tell one value from the others. -/
def sampleEncoding : EvidenceEncoding where
  observedValue value := if sameJson value (.str "n") then ones else zeros
  jsonSize _ := 3
  text _ := "v"
  context _ := zeros
  costLedger _ := zeros
  environment _ := zeros
  finalDiff _ := zeros
  run _ := zeros
  runtimeContractVersion := "1"

def noLetters : UnicodeTables := ⟨fun _ => false⟩

def sampleValue : ObservedValue := ⟨.str "v", zeros, 3⟩

/-- A read of the delivery to `c2`. -/
def sampleRead (readId : String) (sequenceNo : ℕ) : ArtifactReadEvidence where
  readId := readId
  sequenceNo := sequenceNo
  artifactId := "art"
  channelId := "ch"
  consumerCallId := "c2"
  contextId := "x2"
  contextEntryId := "e2"
  readKind := .directDelivery
  deliveryId := some "d1"
  observed := sampleValue
  payloadBytes := 1

/-- An attempt of `c2`. -/
def sampleCall (providerCallId : String) (sequenceNo turnIndex attemptIndex : ℕ) (digit : Char)
    (response : Option (String × ResponseKind × Option String)) : ProviderCallEvidence where
  providerCallId := providerCallId
  sequenceNo := sequenceNo
  callId := "c2"
  actorId := "a2"
  turnIndex := turnIndex
  attemptIndex := attemptIndex
  contextId := "x2"
  contextDigest := zeros
  deploymentId := "dep"
  provider := "pro"
  model := "mod"
  providerConfigDigest := zeros
  requestDigest := String.ofList (List.replicate 64 digit)
  status := if response.isSome then .succeeded else .failedPreSend
  requestSent := response.isSome
  responseId := response.map Prod.fst
  responseDigest := response.map fun _ => zeros
  responseKind := response.map fun answer => answer.2.1
  toolRequestId := response.bind fun answer => answer.2.2
  startedAtMs := 0
  finishedAtMs := 0

/-- `c1` produces an artifact for `c2`, which fails once, is retried, asks for a tool and ends. -/
def sampleRun (arm : Arm) (interventionDigest : Option String) (releaseDigest : String)
    (contexts : List PreCallContextEvidence) (deliveries : List ArtifactDeliveryEvidence)
    (reads : List ArtifactReadEvidence) : RunEvidence where
  runtimeContractVersion := "1"
  evidenceId := "ev"
  evidenceDigest := zeros
  runId := "run"
  executionMode := .deterministicReplay
  liveInferenceStatus := .notRun
  realInferenceRequestsSent := 0
  arm := arm
  interventionDigest := interventionDigest
  dataState := .development
  epochId := "ep"
  epochManifestDigest := zeros
  releaseDigest := releaseDigest
  releaseManifestDigest := zeros
  profileDigest := zeros
  splitManifestDigest := zeros
  pairKey := ⟨"task", "env", 0, zeros⟩
  taskManifestDigest := zeros
  protocolDigest := zeros
  compiledSemanticDigest := zeros
  dependencyManifestDigest := zeros
  compilerDigest := zeros
  kernelDigest := zeros
  toolManifestDigest := zeros
  providerConfigDigest := zeros
  decodingPolicyDigest := zeros
  priceScheduleDigest := zeros
  commandContainerPolicyDigest := zeros
  deploymentId := "dep"
  provider := "pro"
  model := "mod"
  contexts := contexts
  artifacts := [⟨"art", "ch", "c1", .text, sampleValue, 1, ["c2"], ["c2"]⟩]
  deliveries := deliveries
  reads := reads
  routes := [⟨"ro", 0, .sequential, some "c1", "c2", "st", .producerCompleted⟩]
  providerCalls :=
    [sampleCall "p1" 0 0 0 'a' none,
      sampleCall "p2" 1 0 1 'b' (some ("resp1", .toolRequest, some "t1")),
      sampleCall "p3" 2 1 0 'c' (some ("resp2", .terminal, none))]
  toolReceipts := [⟨"tc", 0, "c2", "repo.read", .actorTool, some "t1", none, zeros, "rec", zeros,
    .succeeded, zeros, 0, 0, 0, 0⟩]
  retries := [⟨"re", 0, "c2", "p1", 1, "timeout", false, none⟩]
  costLedger :=
    ⟨zeros, ⟨2, 0, 0, 0, 0, 1, 0, 0, 0, 1, 0, 0, 0, false, true, noDollars, noTokens⟩, 1, false, 0,
      true⟩
  environment := ⟨"env", zeros, zeros, "py", "os", zeros, none⟩
  patch := ⟨.notEmitted, none, none, 0, none, none⟩
  termination := ⟨.hardFailure, none, none, 0, false⟩
  health := ⟨true, true, true, true, true, true, true⟩

/-- The contexts of the two calls, where the second reads a value. -/
def sampleContexts (observed : ObservedValue) : List PreCallContextEvidence :=
  [⟨"x1", zeros, 0, "c1", "a1", [⟨"e1", .instruction, "s", sampleValue⟩]⟩,
    ⟨"x2", zeros, 1, "c2", "a2", [⟨"e2", .artifact, "art", observed⟩]⟩]

def sampleEvidence (reads : List ArtifactReadEvidence) : RunEvidence :=
  sampleRun .intact none zeros (sampleContexts sampleValue)
    [⟨"d1", 0, "art", "ch", "c1", "c2", .intact, none, sampleValue, 1⟩] reads

lemma isDigest_zeros : isDigest zeros = true := isDigest_replicate (by decide)

lemma checkDigests_eq_ok {fields : List (String × String)}
    (h : ∀ field ∈ fields, isDigest field.2 = true) : checkDigests fields = .ok () := by
  unfold checkDigests
  rw [forM_eq_ok_iff]
  intro field hfield
  show raiseIf (isDigest field.2 = false) _ = .ok ()
  rw [raiseIf_eq_ok_iff, h field hfield]
  exact Bool.true_eq_false_eq_False

lemma checkOptionalDigest_eq_ok {fieldName : String} {value : Option String}
    (h : ∀ digest ∈ value, isDigest digest = true) : checkOptionalDigest fieldName value = .ok () := by
  unfold checkOptionalDigest checkDigest
  rw [forM_eq_ok_iff]
  intro digest hdigest
  rw [raiseIf_eq_ok_iff, h digest (Option.mem_toList.mp hdigest)]
  exact Bool.true_eq_false_eq_False

lemma sampleCall_check {providerCallId : String} {sequenceNo turnIndex attemptIndex : ℕ}
    {digit : Char} {response : Option (String × ResponseKind × Option String)}
    (hid : checkText "provider_call_id" providerCallId = .ok ())
    (hdigit : (digit.isDigit || ('a' ≤ digit && digit ≤ 'f')) = true)
    (hresponse : ∀ answer ∈ response, isResponseId noLetters answer.1 = true ∧
      (answer.2.1 = .toolRequest ↔ answer.2.2.getD "" ≠ "")) :
    (sampleCall providerCallId sequenceNo turnIndex attemptIndex digit response).check noLetters =
      .ok () := by
  have htexts : checkTexts [("call_id", "c2"), ("actor_id", "a2"), ("context_id", "x2"),
      ("deployment_id", "dep"), ("provider", "pro"), ("model", "mod")] = .ok () := by
    decide +kernel
  unfold ProviderCallEvidence.check
  simp only [bind_eq_ok_iff, raiseIf_eq_ok_iff, exists_const]
  refine ⟨(), ?_, (), checkDigests_eq_ok ?_, (), checkOptionalDigest_eq_ok ?_, ?_⟩
  · show (checkText "provider_call_id" providerCallId >>= fun _ => checkTexts _) = .ok ()
    rw [hid, ok_bind]
    exact htexts
  · simp only [sampleCall, List.forall_mem_cons, isDigest_zeros, isDigest_replicate hdigit,
      List.not_mem_nil, false_imp_iff, implies_true, and_self]
  · intro digest hdigest
    obtain ⟨answer, -, rfl⟩ := Option.map_eq_some_iff.mp hdigest
    exact isDigest_zeros
  · cases response with
    | none => simp [sampleCall]
    | some answer =>
      obtain ⟨hid', hkind⟩ := hresponse answer rfl
      simp [sampleCall, hid', hkind]

lemma sampleRun_checkFields {arm : Arm} {interventionDigest : Option String}
    {releaseDigest : String} {contexts : List PreCallContextEvidence}
    {reads : List ArtifactReadEvidence}
    (hintervention : checkOptionalDigest "intervention_digest" interventionDigest = .ok ())
    (hrelease : isDigest releaseDigest = true)
    (hcontexts : contexts.forM (·.check sampleEncoding noLetters) = .ok ())
    (hdeliveries : deliveries.forM (·.check sampleEncoding noLetters) = .ok ())
    (hreads : reads.forM (·.check sampleEncoding noLetters) = .ok ()) :
    (sampleRun arm interventionDigest releaseDigest contexts deliveries reads).checkFields
      sampleEncoding noLetters = .ok () := by
  unfold checkFields
  simp only [bind_eq_ok_iff, raiseIf_eq_ok_iff, exists_const]
  refine ⟨fun h => h rfl, (), ?_, (), checkDigests_eq_ok ?_, (), hintervention, (), hcontexts, (), ?_,
    (), hdeliveries, (), hreads, (), ?_, (), ?_, (), ?_, (), ?_, (), ?_, (), ?_, (), ?_, ?_⟩
  · show checkTexts [("evidence_id", "ev"), ("run_id", "run"), ("epoch_id", "ep"),
      ("deployment_id", "dep"), ("provider", "pro"), ("model", "mod")] = .ok ()
    decide +kernel
  · simp only [sampleRun, List.forall_mem_cons, isDigest_zeros, hrelease, List.not_mem_nil,
      false_imp_iff, implies_true, and_self]
  · show ([⟨"art", "ch", "c1", .text, sampleValue, 1, ["c2"], ["c2"]⟩] :
      List ArtifactEvidence).forM (·.check sampleEncoding noLetters) = .ok ()
    decide +kernel
  · show ([⟨"ro", 0, .sequential, some "c1", "c2", "st", .producerCompleted⟩] :
      List RouteEvidence).forM (·.check) = .ok ()
    decide +kernel
  · rw [forM_eq_ok_iff]
    show ∀ call ∈ [sampleCall "p1" 0 0 0 'a' none,
      sampleCall "p2" 1 0 1 'b' (some ("resp1", .toolRequest, some "t1")),
      sampleCall "p3" 2 1 0 'c' (some ("resp2", .terminal, none))], call.check noLetters = .ok ()
    simp only [List.forall_mem_cons]
    refine ⟨sampleCall_check (by decide +kernel) (by decide) ?_,
      sampleCall_check (by decide +kernel) (by decide) ?_,
      sampleCall_check (by decide +kernel) (by decide) ?_, ?_⟩
    · intro answer hanswer
      exact absurd hanswer (Option.not_mem_none answer)
    · intro answer hanswer
      obtain rfl := Option.some.inj hanswer
      exact ⟨by decide +kernel, by decide⟩
    · intro answer hanswer
      obtain rfl := Option.some.inj hanswer
      exact ⟨by decide +kernel, by decide⟩
    · exact fun _ h => absurd h List.not_mem_nil
  · rw [forM_eq_ok_iff]
    intro receipt hreceipt
    obtain rfl := List.mem_singleton.mp hreceipt
    unfold ToolReceiptEvidence.check
    simp only [bind_eq_ok_iff, raiseIf_eq_ok_iff, exists_const]
    refine ⟨(), by decide +kernel, (), checkDigests_eq_ok ?_, by decide, by decide, by decide⟩
    simp only [List.forall_mem_cons, isDigest_zeros, List.not_mem_nil, false_imp_iff, implies_true,
      and_self]
  · show ([⟨"re", 0, "c2", "p1", 1, "timeout", false, none⟩] : List RetryEvidence).forM (·.check) =
      .ok ()
    decide +kernel
  · show CostLedgerEvidence.check sampleEncoding ⟨zeros, _, 1, false, 0, true⟩ = .ok ()
    decide +kernel
  · show EnvironmentEvidence.check sampleEncoding ⟨"env", zeros, zeros, "py", "os", zeros, none⟩ =
      .ok ()
    unfold EnvironmentEvidence.check
    simp only [bind_eq_ok_iff, raiseIf_eq_ok_iff]
    refine ⟨(), by decide +kernel, (), checkDigests_eq_ok ?_, (), rfl, fun h => h rfl⟩
    simp only [List.forall_mem_cons, isDigest_zeros, List.not_mem_nil, false_imp_iff, implies_true,
      and_self]
  · show PatchEvidence.check sampleEncoding noLetters ⟨.notEmitted, none, none, 0, none, none⟩ =
      .ok ()
    decide +kernel
  · show TerminationEvidence.check ⟨.hardFailure, none, none, 0, false⟩ = .ok ()
    decide +kernel

lemma sampleEvidence_accepted :
    (sampleEvidence [sampleRead "r1" 0]).check sampleEncoding noLetters = .ok () := by
  unfold check
  rw [show (sampleEvidence _).checkFields _ _ = .ok () from sampleRun_checkFields rfl isDigest_zeros
    (by decide +kernel) (by decide +kernel) (by decide +kernel), ok_bind]
  decide +kernel

theorem oneToOne_iff_sample : OneToOne (sampleEvidence [sampleRead "r1" 0]) := by
  refine (oneToOne_iff sampleEvidence_accepted).mpr
    ⟨by decide, by decide, by decide, by decide, by decide, by decide, ?_⟩
  intro retry hretry failed hfailed hid
  obtain rfl := List.mem_singleton.mp hretry
  -- only the first attempt has the identity that the retry names
  obtain rfl | rfl | rfl : failed = sampleCall "p1" 0 0 0 'a' none ∨
      failed = sampleCall "p2" 1 0 1 'b' (some ("resp1", .toolRequest, some "t1")) ∨
      failed = sampleCall "p3" 2 1 0 'c' (some ("resp2", .terminal, none)) := by
    simpa [sampleEvidence, sampleRun] using hfailed
  · exact ⟨rfl, by decide⟩
  · exact absurd hid (by decide)
  · exact absurd hid (by decide)

/-- A second direct read of the delivery passes: the direct reads are keyed by delivery. -/
theorem deliveryReadTwice : ¬∀ e : RunEvidence, e.check sampleEncoding noLetters = .ok () →
    OneToOne e := by
  intro hall
  have haccepted : (sampleEvidence [sampleRead "r1" 0, sampleRead "r2" 1]).check sampleEncoding
      noLetters = .ok () := by
    unfold check
    rw [show (sampleEvidence _).checkFields _ _ = .ok () from sampleRun_checkFields rfl
      isDigest_zeros (by decide +kernel) (by decide +kernel) (by decide +kernel), ok_bind]
    decide +kernel
  have hone := hall _ haccepted
  have hunique := (hone.deliveries _ (List.mem_singleton.mpr rfl)).1
  have hsame : sampleRead "r1" 0 = sampleRead "r2" 1 :=
    hunique.unique ⟨List.mem_cons_self, by decide, by decide⟩
      ⟨List.mem_cons_of_mem _ List.mem_cons_self, by decide, by decide⟩
  exact absurd (congrArg ArtifactReadEvidence.readId hsame) (by decide)

end RunEvidence

end Agintor.Contracts
