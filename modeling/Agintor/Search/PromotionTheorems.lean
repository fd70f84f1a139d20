import Mathlib.Data.List.Dedup
import Agintor.Lib.Lists
import Agintor.Search.Promotion

/-!
# Paired retention is order-free and a strict order

The order in which proofs are listed is forgotten when they are mapped by their keys. A panel
that is retained over another one repairs more tasks than it, and so retention has no cycle.
-/

namespace Agintor.Search

open Agintor.Contracts Lib

variable {D : PromotionDigests} {epoch : ResearchEpochManifest} {profile : Option String}
  {label : String}

/-! ## Mapping a panel by its keys -/

variable {bindings : List EvaluatorOutcomeProofBinding}
    {m : Dict String EvaluatorOutcomeProofBinding} {a : PromotionAuthorization}

/-- What the loop accepts, and the map it leaves. -/
lemma mapProofs_eq_ok_iff {mapped m : Dict String EvaluatorOutcomeProofBinding} :
    mapProofs D label epoch profile mapped bindings = .ok m ↔
      (∀ b ∈ bindings, assertAuthoritativeOutcomeProof D b epoch profile = .ok ()) ∧
      (mapped.keys ++ bindings.map (pairKeyOf D)).Nodup ∧
      m.entries = mapped.entries ++ bindings.map fun b => (pairKeyOf D b, b) := by
  induction bindings generalizing mapped with
  | nil =>
    simp only [mapProofs, Except.ok.injEq, List.map_nil, List.append_nil, List.not_mem_nil,
      false_imp_iff, implies_true, true_and]
    constructor
    · intro h
      rw [← h]
      exact ⟨mapped.nodup, rfl⟩
    · intro h
      exact Dict.ext h.2.symm
  | cons b bs ih =>
    unfold mapProofs
    simp only [bind_eq_ok_iff, raiseIf_eq_ok_iff, List.forall_mem_cons]
    have hassoc : mapped.keys ++ (b :: bs).map (pairKeyOf D) =
        mapped.keys ++ [pairKeyOf D b] ++ bs.map (pairKeyOf D) := by simp
    have hset : pairKeyOf D b ∉ mapped.keys →
        (mapped.set (pairKeyOf D b) b).entries = mapped.entries ++ [(pairKeyOf D b, b)] :=
      Dict.entries_set_of_not_mem
    have hkeys : pairKeyOf D b ∉ mapped.keys →
        (mapped.set (pairKeyOf D b) b).keys = mapped.keys ++ [pairKeyOf D b] := by
      intro hb
      unfold Dict.keys
      rw [hset hb, List.map_append]
      rfl
    constructor
    · rintro ⟨_, hok, _, hb, h⟩
      obtain ⟨hall, hnodup, hentries⟩ := ih.mp h
      rw [hkeys hb, ← hassoc] at hnodup
      rw [hset hb, List.append_assoc] at hentries
      exact ⟨⟨hok, hall⟩, hnodup, hentries⟩
    · rintro ⟨⟨hok, hall⟩, hnodup, hentries⟩
      have hb : pairKeyOf D b ∉ mapped.keys := by
        rw [List.nodup_append] at hnodup
        intro hmem
        exact hnodup.2.2 _ hmem _ (by simp) rfl
      refine ⟨(), hok, (), hb, ih.mpr ⟨hall, ?_, ?_⟩⟩
      · rw [hkeys hb, ← hassoc]
        exact hnodup
      · rw [hset hb, List.append_assoc]
        exact hentries

/-- The proofs of a panel pass their checks, one for each key, and share one release. -/
structure PanelAccepted (D : PromotionDigests) (epoch : ResearchEpochManifest)
    (profile : Option String) (bindings : List EvaluatorOutcomeProofBinding) : Prop where
  nonempty : bindings ≠ []
  authoritative : ∀ b ∈ bindings, assertAuthoritativeOutcomeProof D b epoch profile = .ok ()
  nodup : (bindings.map (pairKeyOf D)).Nodup
  release : (bindings.map releaseIdentity).dedup.length = 1

/-- The map of a panel lists its proofs under their keys. -/
def MapOf (D : PromotionDigests) (bindings : List EvaluatorOutcomeProofBinding)
    (m : Dict String EvaluatorOutcomeProofBinding) : Prop :=
  m.entries = bindings.map fun b => (pairKeyOf D b, b)

lemma MapOf.values (h : MapOf D bindings m) : m.values = bindings := by
  unfold Dict.values
  rw [h, List.map_map]
  exact List.map_id bindings

lemma MapOf.keys (h : MapOf D bindings m) : m.keys = bindings.map (pairKeyOf D) := by
  unfold Dict.keys
  rw [h, List.map_map]
  rfl

theorem proofMap_eq_ok_iff :
    proofMap D bindings label epoch profile = .ok m ↔
      PanelAccepted D epoch profile bindings ∧ MapOf D bindings m := by
  unfold proofMap
  simp only [bind_eq_ok_iff, raiseIf_eq_ok_iff, pure_eq_ok, Except.ok.injEq, mapProofs_eq_ok_iff,
    not_not]
  constructor
  · rintro ⟨_, hne, m', ⟨hall, hnodup, hentries⟩, _, hrelease, rfl⟩
    have hmap : MapOf D bindings m' := hentries
    rw [hmap.values] at hrelease
    exact ⟨⟨hne, hall, hnodup, hrelease⟩, hmap⟩
  · rintro ⟨haccepted, hmap⟩
    refine ⟨(), haccepted.nonempty, m, ⟨haccepted.authoritative, haccepted.nodup, hmap⟩, (), ?_,
      rfl⟩
    rw [hmap.values]
    exact haccepted.release

/-- An accepted panel has a map. -/
lemma PanelAccepted.exists_map (h : PanelAccepted D epoch profile bindings) :
    ∃ m, MapOf D bindings m := by
  refine ⟨⟨bindings.map fun b => (pairKeyOf D b, b), ?_⟩, rfl⟩
  rw [List.map_map]
  exact h.nodup

theorem PanelAccepted.perm {bindings bindings' : List EvaluatorOutcomeProofBinding}
    (hperm : bindings.Perm bindings') (h : PanelAccepted D epoch profile bindings) :
    PanelAccepted D epoch profile bindings' where
  nonempty := fun hnil => h.nonempty (List.Perm.eq_nil (hnil ▸ hperm))
  authoritative := fun b hb => h.authoritative b (hperm.mem_iff.mpr hb)
  nodup := (hperm.map _).nodup_iff.mp h.nodup
  release := (hperm.map _).dedup.length_eq.symm.trans h.release

/-! ## The order of the maps -/

section Order

variable {parent parent' child child' : Dict String EvaluatorOutcomeProofBinding}

lemma proofAt_congr (h : parent.entries.Perm parent'.entries) : proofAt parent = proofAt parent' := by
  funext key
  unfold proofAt
  rw [Dict.get?_eq_of_perm h key]

lemma countPairs_congr (hparent : parent.entries.Perm parent'.entries)
    (hchild : child.entries.Perm child'.entries) (gains regressions : ℕ) (keys : List String) :
    countPairs parent child gains regressions keys =
      countPairs parent' child' gains regressions keys := by
  induction keys generalizing gains regressions with
  | nil => rfl
  | cons key keys ih =>
    unfold countPairs
    simp only [ih, proofAt_congr hparent, proofAt_congr hchild]

lemma orderedKeys_congr (h : parent.entries.Perm parent'.entries) :
    orderedKeys parent = orderedKeys parent' := by
  apply (insertionSort_eq_iff_perm le_total (fun _ _ _ => le_trans) fun _ _ => le_antisymm).mpr
  exact h.map Prod.fst

lemma panelProtocol_congr (h : parent.entries.Perm parent'.entries) :
    panelProtocol parent = panelProtocol parent' := by
  have hdedup : (parent.values.map (·.outcomeReceipt.protocolDigest)).dedup.Perm
      (parent'.values.map (·.outcomeReceipt.protocolDigest)).dedup :=
    ((h.map Prod.snd).map _).dedup
  have hone : ∀ {l l' : List String} {p : String}, l.Perm l' → l = [p] → l' = [p] := by
    intro l l' p hperm hl
    rw [hl] at hperm
    exact List.perm_singleton.mp hperm.symm
  unfold panelProtocol
  split
  · next hl => simp only [hone hdedup hl]
  · next hl =>
    split
    · next hl' => exact absurd (hone hdedup.symm hl') (hl _)
    · rfl

/-- Once the panels are mapped by their keys, their order has no influence. -/
theorem authorizePanels_congr (hparent : parent.entries.Perm parent'.entries)
    (hchild : child.entries.Perm child'.entries) :
    authorizePanels D epoch parent child = authorizePanels D epoch parent' child' := by
  have hkeys : parent.keys.Perm parent'.keys := hparent.map Prod.fst
  have hkeys' : child.keys.Perm child'.keys := hchild.map Prod.fst
  have hpaired : (parent.keys ⊆ child.keys ∧ child.keys ⊆ parent.keys) ↔
      (parent'.keys ⊆ child'.keys ∧ child'.keys ⊆ parent'.keys) := by
    rw [hkeys.subset_congr_left, hkeys'.subset_congr_right, hkeys'.subset_congr_left,
      hkeys.subset_congr_right]
  have hlive : (parent.values ++ child.values).all liveCapabilityProof =
      (parent'.values ++ child'.values).all liveCapabilityProof := by
    have hperm : (parent.values ++ child.values).Perm (parent'.values ++ child'.values) :=
      (hparent.map Prod.snd).append (hchild.map Prod.snd)
    rw [Bool.eq_iff_iff, List.all_eq_true, List.all_eq_true]
    simp only [hperm.mem_iff]
  unfold authorizePanels
  simp only [hpaired, hkeys.length_eq, panelProtocol_congr hparent, panelProtocol_congr hchild,
    orderedKeys_congr hparent, countPairs_congr hparent hchild, proofAt_congr hparent,
    proofAt_congr hchild, hlive]

end Order

/-! ## Retention -/

variable {parent child : Dict String EvaluatorOutcomeProofBinding}
    {ps cs : List EvaluatorOutcomeProofBinding}

/-- The panels of a retention, and their maps. -/
lemma authorizePairedSearchRetention_eq_ok_iff :
    authorizePairedSearchRetention D epoch ps cs profile = .ok a ↔
      (epoch.promotionCapable = true ∧ epoch.capabilityEpoch = "repo-repair-v1") ∧
      PanelAccepted D epoch profile ps ∧ PanelAccepted D epoch profile cs ∧
      ∃ parent child, MapOf D ps parent ∧ MapOf D cs child ∧
        authorizePanels D epoch parent child = .ok a := by
  unfold authorizePairedSearchRetention
  simp only [bind_eq_ok_iff, raiseIf_eq_ok_iff, proofMap_eq_ok_iff, not_or, Bool.not_eq_false,
    not_not]
  constructor
  · rintro ⟨_, hepoch, parent, ⟨hps, hparent⟩, child, ⟨hcs, hchild⟩, h⟩
    exact ⟨hepoch, hps, hcs, parent, child, hparent, hchild, h⟩
  · rintro ⟨hepoch, hps, hcs, parent, child, hparent, hchild, h⟩
    exact ⟨(), hepoch, parent, ⟨hps, hparent⟩, child, ⟨hcs, hchild⟩, h⟩

/-- A retention survives a rearrangement of its panels. -/
theorem retention_perm {ps ps' cs cs' : List EvaluatorOutcomeProofBinding} (hps : ps.Perm ps')
    (hcs : cs.Perm cs') (h : authorizePairedSearchRetention D epoch ps cs profile = .ok a) :
    authorizePairedSearchRetention D epoch ps' cs' profile = .ok a := by
  rw [authorizePairedSearchRetention_eq_ok_iff] at h ⊢
  obtain ⟨hepoch, hpanel, hpanel', parent, child, hparent, hchild, ha⟩ := h
  obtain ⟨parent', hparent'⟩ := (hpanel.perm hps).exists_map
  obtain ⟨child', hchild'⟩ := (hpanel'.perm hcs).exists_map
  refine ⟨hepoch, hpanel.perm hps, hpanel'.perm hcs, parent', child', hparent', hchild', ?_⟩
  rw [← ha]
  apply authorizePanels_congr
  · rw [hparent, hparent']
    exact (hps.map _).symm
  · rw [hchild, hchild']
    exact (hcs.map _).symm

/-! ## The gain -/

/-- The number of complete repairs of a panel. -/
def repairs (bindings : List EvaluatorOutcomeProofBinding) : ℕ :=
  bindings.countP (·.outcomeReceipt.completeRepair)

/-- Whether a proof shows a complete repair, as a number. -/
def repair (binding : EvaluatorOutcomeProofBinding) : ℤ :=
  if binding.outcomeReceipt.completeRepair then 1 else 0

lemma sum_repair (bindings : List EvaluatorOutcomeProofBinding) :
    (bindings.map repair).sum = repairs bindings := by
  induction bindings with
  | nil => rfl
  | cons b bs ih =>
    rw [List.map_cons, List.sum_cons, ih]
    unfold repairs repair
    rw [List.countP_cons]
    push_cast
    exact add_comm _ _

/-- The loop adds up, key by key, what the child repairs and the parent does not. -/
lemma countPairs_eq_ok {gains regressions gains' regressions' : ℕ} {keys : List String}
    (h : countPairs parent child gains regressions keys = .ok (gains', regressions')) :
    (gains' : ℤ) - regressions' = gains - regressions +
      ((keys.map fun k => ((child.get? k).map repair).getD 0).sum -
        (keys.map fun k => ((parent.get? k).map repair).getD 0).sum) := by
  induction keys generalizing gains regressions with
  | nil =>
    simp only [countPairs, Except.ok.injEq, Prod.mk.injEq] at h
    obtain ⟨rfl, rfl⟩ := h
    simp
  | cons key keys ih =>
    unfold countPairs proofAt at h
    simp only [bind_eq_ok_iff, raiseIf_eq_ok_iff] at h
    obtain ⟨pb, hpb, cb, hcb, _, -, h⟩ := h
    have hparent : parent.get? key = some pb := by
      cases hget : parent.get? key with
      | none => simp [hget] at hpb
      | some b => simpa [hget] using hpb
    have hchild : child.get? key = some cb := by
      cases hget : child.get? key with
      | none => simp [hget] at hcb
      | some b => simpa [hget] using hcb
    simp only [List.map_cons, List.sum_cons, hparent, hchild, Option.map_some, Option.getD_some,
      repair]
    cases hp : pb.outcomeReceipt.completeRepair with
    | true =>
      cases hc : cb.outcomeReceipt.completeRepair with
      | true =>
        have hrest := ih (by simpa [hp, hc] using h)
        simp only [if_true]
        omega
      | false =>
        have hrest := ih (by simpa [hp, hc] using h)
        simp only [if_true, Bool.false_eq_true, if_false]
        push_cast at hrest
        omega
    | false =>
      cases hc : cb.outcomeReceipt.completeRepair with
      | true =>
        have hrest := ih (by simpa [hp, hc] using h)
        simp only [if_true, Bool.false_eq_true, if_false]
        push_cast at hrest
        omega
      | false =>
        have hrest := ih (by simpa [hp, hc] using h)
        simp only [Bool.false_eq_true, if_false]
        omega

/-- What an authorization says of its panels. -/
theorem authorizePanels_gain (h : authorizePanels D epoch parent child = .ok a) :
    a.completeRepairGain = repairs child.values - repairs parent.values ∧
      (epoch.promotionMargins.minimumCompleteRepairGain : ℤ) ≤ a.completeRepairGain ∧
      a.pairKeyDigests = orderedKeys parent ∧ parent.keys.Perm child.keys := by
  unfold authorizePanels at h
  simp only [bind_eq_ok_iff, raiseIf_eq_ok_iff, not_not] at h
  obtain ⟨_, ⟨hsub, hsub'⟩, _, -, h⟩ := h
  have hkeys : parent.keys.Perm child.keys := by
    apply (List.perm_ext_iff_of_nodup parent.nodup child.nodup).mpr
    intro key
    exact ⟨fun hkey => hsub hkey, fun hkey => hsub' hkey⟩
  split at h
  · simp only [bind_eq_ok_iff, raiseIf_eq_ok_iff, pure_eq_ok, Except.ok.injEq, Prod.exists,
      not_lt] at h
    obtain ⟨_, -, gains, regressions, hcount, _, -, _, hmargin, _, -, _, -, rfl⟩ := h
    have hgain := countPairs_eq_ok hcount
    have hordered : (orderedKeys parent).Perm parent.keys := List.perm_insertionSort _ _
    rw [((hordered.trans hkeys).map _).sum_eq, (hordered.map _).sum_eq, Dict.sum_map_get?,
      Dict.sum_map_get?, sum_repair, sum_repair] at hgain
    refine ⟨?_, hmargin, rfl, hkeys⟩
    show (gains : ℤ) - regressions = _
    rw [hgain]
    simp
  · exact absurd h (by simp)

/-- A retained panel repairs more than its parent, by the margin at least, on the same keys. -/
theorem retention_gain (h : authorizePairedSearchRetention D epoch ps cs profile = .ok a) :
    a.completeRepairGain = repairs cs - repairs ps ∧
      (epoch.promotionMargins.minimumCompleteRepairGain : ℤ) ≤ a.completeRepairGain ∧
      a.pairKeyDigests.Perm (ps.map (pairKeyOf D)) ∧ a.pairKeyDigests.Perm (cs.map (pairKeyOf D)) := by
  rw [authorizePairedSearchRetention_eq_ok_iff] at h
  obtain ⟨-, -, -, parent, child, hparent, hchild, ha⟩ := h
  obtain ⟨hgain, hmargin, hdigests, hkeys⟩ := authorizePanels_gain ha
  rw [hparent.values, hchild.values] at hgain
  rw [hparent.keys, hchild.keys] at hkeys
  have hordered : (orderedKeys parent).Perm parent.keys := List.perm_insertionSort _ _
  rw [hparent.keys] at hordered
  rw [hdigests]
  exact ⟨hgain, hmargin, hordered, hordered.trans hkeys⟩

/-- Panel `j` is authorized over panel `i`. -/
def Retained (D : PromotionDigests) (epoch : ResearchEpochManifest) (profile : Option String)
    {ι : Type} (panel : ι → List EvaluatorOutcomeProofBinding) (i j : ι) : Prop :=
  ∃ a, authorizePairedSearchRetention D epoch (panel i) (panel j) profile = .ok a

/-- Along a chain of retentions the repairs grow. -/
lemma repairs_lt_of_transGen {ι : Type} {panel : ι → List EvaluatorOutcomeProofBinding} {i j : ι}
    (h : Relation.TransGen (Retained D epoch profile panel) i j) :
    repairs (panel i) < repairs (panel j) := by
  have hstep : ∀ i j, Retained D epoch profile panel i j → repairs (panel i) < repairs (panel j) := by
    rintro i j ⟨a, ha⟩
    obtain ⟨hgain, hmargin, -, -⟩ := retention_gain ha
    have hpos := epoch.promotionMargins.positive.1
    omega
  induction h with
  | single hij => exact hstep _ _ hij
  | tail _ hjk ih => exact ih.trans (hstep _ _ hjk)

/-- Paired retention does not depend on the order of its panels, reports the gain in complete
repairs, and has no cycle. -/
theorem retention_order_free_and_strict (D : PromotionDigests) (epoch : ResearchEpochManifest)
    (profile : Option String) :
    (∀ ps ps' cs cs' : List EvaluatorOutcomeProofBinding, ps.Perm ps' → cs.Perm cs' →
      (authorizePairedSearchRetention D epoch ps cs profile).toOption =
        (authorizePairedSearchRetention D epoch ps' cs' profile).toOption) ∧
    (∀ (ps cs : List EvaluatorOutcomeProofBinding) (a : PromotionAuthorization),
      authorizePairedSearchRetention D epoch ps cs profile = .ok a →
      a.completeRepairGain = repairs cs - repairs ps ∧
        (epoch.promotionMargins.minimumCompleteRepairGain : ℤ) ≤ a.completeRepairGain ∧
        a.pairKeyDigests.Perm (ps.map (pairKeyOf D)) ∧
        a.pairKeyDigests.Perm (cs.map (pairKeyOf D))) ∧
    ∀ (ι : Type) (panel : ι → List EvaluatorOutcomeProofBinding) (i : ι),
      ¬Relation.TransGen (Retained D epoch profile panel) i i := by
  refine ⟨?_, fun _ _ _ h => retention_gain h, ?_⟩
  · intro ps ps' cs cs' hps hcs
    have hiff : ∀ a, authorizePairedSearchRetention D epoch ps cs profile = .ok a ↔
        authorizePairedSearchRetention D epoch ps' cs' profile = .ok a := fun a =>
      ⟨retention_perm hps hcs, retention_perm hps.symm hcs.symm⟩
    ext a
    have htoOption : ∀ x : Except Refusal PromotionAuthorization,
        x.toOption = some a ↔ x = .ok a := by
      intro x
      cases x with
      | error e => simp [Except.toOption]
      | ok b => simp [Except.toOption]
    rw [htoOption, htoOption, hiff]
  · intro ι panel i hcycle
    exact lt_irrefl _ (repairs_lt_of_transGen hcycle)

/-! A panel of two tasks, of which the child repairs one more than its parent. -/

def sampleDigests : PromotionDigests where
  pairKey := fun key => key.taskManifestId
  outcomeReceipt := fun _ => "receipt"
  publicPromotionProof := fun _ => "proof"
  proofBinding := fun _ => "binding"
  authorization := fun _ => "authorization"

theorem sampleSplits_differ : "development" ≠ "sealed" := by decide

theorem noCost_nonneg : (0 : ℚ) ≤ 0 := le_refl 0

theorem one_le : 1 ≤ 1 := Nat.le_refl 1

theorem ones_pos : 0 < 1 ∧ 0 < 1 ∧ 0 < 1 ∧ 0 < 1 ∧ 0 < 1 ∧ 0 < 1 ∧ 0 < 1 ∧ 0 < 1 ∧ 0 < 1 := by
  decide

theorem threeOnes_pos : 0 < 1 ∧ 0 < 1 ∧ 0 < 1 := by decide

theorem margins_pos : 1 ≤ 1 ∧ 1 ≤ 1 := by decide

theorem stops_pos : 0 < 1 ∧ 0 < 1 := by decide

def sampleEpoch : ResearchEpochManifest where
  runtimeContractVersion := "1"
  epochId := "epoch"
  epochManifestDigest := "epoch"
  developmentSplitDigest := "development"
  sealedConfirmationSplitDigest := "sealed"
  deployment := ⟨"deployment", "provider", "model", "config", "decoding", "prices", "commands"⟩
  perRunCeilings :=
    ⟨1, 1, 1, 0, 0, 1, 1, 1, 1, 0, 1, 1, 0, 0, ones_pos, noCost_nonneg, one_le, noCost_nonneg⟩
  searchEnvelope :=
    { maxSteps := 1, offspringPerStep := 1, samplingReplicates := 1, taskPanelDigest := "panel"
      positive := threeOnes_pos }
  promotionMargins := { positive := margins_pos }
  stopRule := ⟨1, 1, stops_pos⟩
  evaluatorAuthority := ⟨"evaluator", "evaluator", "policy"⟩
  splits_differ := sampleSplits_differ
  batch_le := one_le

def sampleReceipt (task protocol : String) (completeRepair : Bool) : OutcomeReceipt where
  runtimeContractVersion := "1"
  receiptDigest := "receipt"
  executionMode := .deterministicReplay
  liveInferenceStatus := .notRun
  realInferenceRequestsSent := 0
  capabilityEpoch := "repo-repair-v1"
  dataState := .development
  epochId := "epoch"
  epochManifestDigest := "epoch"
  releaseDigest := "release"
  releaseManifestDigest := "release"
  profileDigest := "profile"
  splitManifestDigest := "development"
  taskManifestId := task
  taskManifestDigest := task
  evaluationContractId := "contract"
  evaluationContractDigest := "contract"
  evaluatorId := "evaluator"
  evaluatorIdentityDigest := "evaluator"
  evaluationPolicyDigest := "policy"
  pairKey := ⟨task, "environment", 0, "config"⟩
  protocolDigest := protocol
  compilerDigest := "compiler"
  kernelDigest := "kernel"
  toolManifestDigest := "tools"
  providerConfigDigest := "config"
  decodingPolicyDigest := "decoding"
  priceScheduleDigest := "prices"
  commandContainerPolicyDigest := "commands"
  evaluatorEnvironmentDigest := "environment"
  patchDigest := "patch"
  completeRepair := completeRepair
  health := ⟨true, true, true, true, true⟩
  exclusions := []
  cost := ⟨0, 0, 0, 0, 0, 0, 0, 0, 0, 0, 0, 0, 0, false, true, by decide, by decide⟩

def sampleProof (task protocol : String) (completeRepair : Bool) :
    EvaluatorOutcomeProofBinding where
  bindingDigest := "binding"
  publicProofDigest := "proof"
  proofRecordId := task
  proofRecordDigest := task
  outcomeReceipt := sampleReceipt task protocol completeRepair
  runEvidence :=
    { evidenceDigest := "evidence", executionMode := .deterministicReplay
      liveInferenceStatus := .notRun, realInferenceRequestsSent := 0, arm := .intact
      interventionDigest := none, releaseDigest := "release", releaseManifestDigest := "release"
      profileDigest := "profile", compiledSemanticDigest := "plan"
      dependencyManifestDigest := "dependencies", providerConfigDigest := "config"
      decodingPolicyDigest := "decoding", priceScheduleDigest := "prices"
      commandContainerPolicyDigest := "commands", deploymentId := "deployment"
      provider := "provider", model := "model", healthy := true }
  runEvidenceDigest := "evidence"
  live_eq := ⟨rfl, rfl, rfl⟩
  release_eq := ⟨rfl, rfl, rfl⟩
  policies_eq := ⟨rfl, rfl, rfl, rfl⟩
  task_eq := rfl

def sampleParents : List EvaluatorOutcomeProofBinding :=
  [sampleProof "one" "parent" false, sampleProof "two" "parent" true]

def sampleChildren : List EvaluatorOutcomeProofBinding :=
  [sampleProof "one" "child" true, sampleProof "two" "child" true]

theorem retention_order_free_and_strict_two_tasks :
    (authorizePairedSearchRetention sampleDigests sampleEpoch sampleParents sampleChildren
      (some "profile")).toOption.isSome = true ∧
    (authorizePairedSearchRetention sampleDigests sampleEpoch sampleParents sampleChildren
      (some "profile")).toOption =
      (authorizePairedSearchRetention sampleDigests sampleEpoch sampleParents.reverse
        sampleChildren (some "profile")).toOption ∧
    ∀ a, authorizePairedSearchRetention sampleDigests sampleEpoch sampleParents sampleChildren
      (some "profile") = .ok a → a.completeRepairGain = 1 := by
  refine ⟨by decide +kernel, ?_, ?_⟩
  · exact (retention_order_free_and_strict sampleDigests sampleEpoch (some "profile")).1 _ _ _ _
      (List.reverse_perm _).symm (List.Perm.refl _)
  · intro a ha
    exact ((retention_order_free_and_strict sampleDigests sampleEpoch (some "profile")).2.1 _ _ a
      ha).1

end Agintor.Search
