import Agintor.Evaluation.Pairing
import Agintor.Search.PromotionTheorems
import Mathlib.Data.List.Perm.Subperm

/-!
# Joining is an exact pairing, free of order

The three sequences are only read through their maps, and so their order is forgotten. A panel
that is returned pairs the receipts of every expected key, and of no other.
-/

namespace Agintor.Evaluation

open Agintor.Contracts Core Lib Search

variable {D : PairingDigests} {epoch : ResearchEpochManifest} {side : String}

/-! ## Order -/

section Order

variable {expected expected' : Dict String PairKey}
  {parent parent' child child' : Dict String OutcomeReceipt}

lemma sort_congr {left right : List String} (h : left.Perm right) :
    left.insertionSort (· ≤ ·) = right.insertionSort (· ≤ ·) :=
  (insertionSort_eq_iff_perm le_total (fun _ _ _ => le_trans) fun _ _ => le_antisymm).mpr h

variable {left left' right right' : List String} {keys keys' : List PairKey}

lemma sortedDifference_congr (hleft : left.Perm left') (hright : right.Perm right') :
    sortedDifference left right = sortedDifference left' right' := by
  have hmem : (fun digest => decide (digest ∉ right)) = fun digest => decide (digest ∉ right') := by
    funext digest
    simp only [hright.mem_iff]
  unfold sortedDifference
  rw [hmem]
  exact sort_congr (hleft.filter _)

lemma assertCoverage_congr (hleft : left.Perm left') (hright : right.Perm right') :
    assertCoverage side left right = assertCoverage side left' right' := by
  unfold assertCoverage
  rw [sortedDifference_congr hleft hright, sortedDifference_congr hright hleft]

lemma itemAt_congr {α : Type} {mapped mapped' : Dict String α}
    (h : mapped.entries.Perm mapped'.entries) : itemAt mapped = itemAt mapped' := by
  funext digest
  unfold itemAt
  rw [Dict.get?_eq_of_perm h digest]

lemma sideProtocol_congr (h : parent.entries.Perm parent'.entries) :
    sideProtocol parent = sideProtocol parent' := by
  have hdedup : (parent.values.map (·.protocolDigest)).dedup.Perm
      (parent'.values.map (·.protocolDigest)).dedup := ((h.map Prod.snd).map _).dedup
  unfold sideProtocol
  split
  · next hl =>
    rw [hl] at hdedup
    rw [List.perm_singleton.mp hdedup.symm]
  · next hl =>
    split
    · next hl' =>
      rw [hl'] at hdedup
      exact absurd (List.perm_singleton.mp hdedup) (hl _)
    · rfl

/-- Once the sequences are mapped by their keys, their order has no influence. -/
theorem joinMaps_congr (hexpected : expected.entries.Perm expected'.entries)
    (hparent : parent.entries.Perm parent'.entries) (hchild : child.entries.Perm child'.entries) :
    joinMaps D epoch expected parent child = joinMaps D epoch expected' parent' child' := by
  have hkeys : expected.keys.Perm expected'.keys := hexpected.map Prod.fst
  have hparentKeys : parent.keys.Perm parent'.keys := hparent.map Prod.fst
  have hchildKeys : child.keys.Perm child'.keys := hchild.map Prod.fst
  have hpair : joinPair D expected parent child = joinPair D expected' parent' child' := by
    funext digest
    unfold joinPair
    rw [itemAt_congr hexpected, itemAt_congr hparent, itemAt_congr hchild]
  unfold joinMaps
  simp only [assertCoverage_congr hkeys hparentKeys, assertCoverage_congr hkeys hchildKeys,
    sideProtocol_congr hparent, sideProtocol_congr hchild, sort_congr hkeys, hpair]

lemma expectedMap_perm {m : Dict String PairKey} (hperm : keys.Perm keys')
    (h : expectedMap D keys epoch = .ok m) :
    ∃ m', expectedMap D keys' epoch = .ok m' ∧ m.entries.Perm m'.entries := by
  unfold expectedMap at h ⊢
  obtain ⟨_, hne, hmap⟩ := bind_eq_ok_iff.mp h
  obtain ⟨m', hmap', hentries⟩ := mapByKey_perm hperm hmap
  refine ⟨m', ?_, hentries⟩
  rw [raiseIf_eq_ok_iff] at hne
  rw [raiseIf_neg, ok_bind]
  · exact hmap'
  · intro hnil
    rw [hnil] at hperm
    exact hne hperm.eq_nil

/-- A panel is returned for any permutation of the sequences. -/
theorem joinOutcomeReceipts_perm {parents parents' children children' : List OutcomeReceipt}
    {panel : JoinedOutcomePanel} (hkeys : keys.Perm keys') (hparents : parents.Perm parents')
    (hchildren : children.Perm children')
    (h : joinOutcomeReceipts D epoch keys parents children = .ok panel) :
    joinOutcomeReceipts D epoch keys' parents' children' = .ok panel := by
  unfold joinOutcomeReceipts at h ⊢
  rw [bind_eq_ok_iff] at h
  obtain ⟨expected, hexpected, h⟩ := h
  obtain ⟨parent, hparent, h⟩ := bind_eq_ok_iff.mp h
  obtain ⟨child, hchild, h⟩ := bind_eq_ok_iff.mp h
  obtain ⟨expected', hexpected', hentries⟩ := expectedMap_perm hkeys hexpected
  obtain ⟨parent', hparent', hparentEntries⟩ := mapByKey_perm hparents hparent
  obtain ⟨child', hchild', hchildEntries⟩ := mapByKey_perm hchildren hchild
  rw [hexpected', ok_bind, show receiptMap D parents' "parent" epoch = .ok parent' from hparent',
    ok_bind, show receiptMap D children' "child" epoch = .ok child' from hchild', ok_bind,
    ← joinMaps_congr hentries hparentEntries hchildEntries]
  exact h

end Order

/-! ## What is joined -/

section Joined

variable {expected : Dict String PairKey} {parent child : Dict String OutcomeReceipt}
  {pair : JoinedOutcomePair} {panel : JoinedOutcomePanel}

lemma checkReceipt_eq_ok_iff {receipt : OutcomeReceipt} : checkReceipt D side epoch receipt = .ok () ↔
    assertAuthoritativeOutcomeReceipt D.toPromotionDigests receipt epoch = .ok () := by
  unfold checkReceipt
  cases assertAuthoritativeOutcomeReceipt D.toPromotionDigests receipt epoch with
  | error e => simp [Except.mapError]
  | ok u => simp [Except.mapError]

variable {left right : List String}

lemma subset_of_sortedDifference (h : sortedDifference left right = []) : left ⊆ right := by
  intro digest hdigest
  by_contra hright
  have hmem : digest ∈ sortedDifference left right := by
    unfold sortedDifference
    rw [List.mem_insertionSort, List.mem_filter]
    exact ⟨hdigest, decide_eq_true hright⟩
  rw [h] at hmem
  exact List.not_mem_nil hmem

/-- A side that is covered has the expected keys. -/
lemma perm_of_assertCoverage (hleft : left.Nodup) (hright : right.Nodup)
    (h : assertCoverage side left right = .ok ()) : left.Perm right := by
  unfold assertCoverage at h
  simp only [raiseIf_eq_ok_iff, not_or, not_not] at h
  rw [List.perm_ext_iff_of_nodup hleft hright]
  intro digest
  exact ⟨fun hmem => subset_of_sortedDifference h.1 hmem,
    fun hmem => subset_of_sortedDifference h.2 hmem⟩

lemma itemAt_eq_ok_iff {α : Type} {mapped : Dict String α} {digest : String} {item : α} :
    itemAt mapped digest = .ok item ↔ mapped.get? digest = some item := by
  unfold itemAt
  cases mapped.get? digest <;> simp

/-- Where the parts of a pair come from. -/
structure PairOf (D : PairingDigests) (expected : Dict String PairKey)
    (parent child : Dict String OutcomeReceipt) (digest : String) (pair : JoinedOutcomePair) : Prop where
  digest_eq : pair.pairKeyDigest = digest
  key_digest : D.pairKey pair.pairKey = digest
  key : expected.get? digest = some pair.pairKey
  parent : parent.get? digest = some pair.parentReceipt
  child : child.get? digest = some pair.childReceipt

lemma joinPair_eq_ok {digest : String} (h : joinPair D expected parent child digest = .ok pair) :
    PairOf D expected parent child digest pair := by
  unfold joinPair at h
  simp only [bind_eq_ok_iff, itemAt_eq_ok_iff] at h
  obtain ⟨parentReceipt, hparent, childReceipt, hchild, _, -, pairKey, hkey, h⟩ := h
  unfold validatePair at h
  split at h
  · cases h
  · next hdigest =>
    rw [not_not] at hdigest
    split at h
    · split at h
      · obtain rfl := Except.ok.inj h
        exact ⟨rfl, hdigest.symm, hkey, hparent, hchild⟩
      · cases h
    · cases h

lemma validatePanel_eq_ok {payload : PanelPayload} (h : validatePanel D payload = .ok panel) :
    panel.toPanelPayload = payload := by
  unfold validatePanel at h
  split at h
  · cases h
  · split at h
    · split at h
      · obtain rfl := Except.ok.inj h
        rfl
      · cases h
    · cases h

/-- The pairs of a panel are those of the expected keys in their order. -/
lemma joinMaps_eq_ok (h : joinMaps D epoch expected parent child = .ok panel) :
    expected.keys.Perm parent.keys ∧ expected.keys.Perm child.keys ∧
      panel.expectedPairKeyDigests = expected.keys.insertionSort (· ≤ ·) ∧
      List.Forall₂ (PairOf D expected parent child) panel.expectedPairKeyDigests panel.pairs := by
  unfold joinMaps at h
  obtain ⟨_, hparent, h⟩ := bind_eq_ok_iff.mp h
  obtain ⟨_, hchild, h⟩ := bind_eq_ok_iff.mp h
  refine ⟨perm_of_assertCoverage expected.nodup parent.nodup hparent,
    perm_of_assertCoverage expected.nodup child.nodup hchild, ?_⟩
  cases hparentProtocol : sideProtocol parent with
  | none =>
    rw [hparentProtocol] at h
    cases h
  | some parentProtocol =>
    cases hchildProtocol : sideProtocol child with
    | none =>
      rw [hparentProtocol, hchildProtocol] at h
      cases h
    | some childProtocol =>
      rw [hparentProtocol, hchildProtocol] at h
      obtain ⟨pairs, hpairs, h⟩ := bind_eq_ok_iff.mp h
      have hpayload := validatePanel_eq_ok h
      rw [mapM_eq_ok_iff] at hpairs
      rw [hpayload]
      exact ⟨rfl, hpairs.imp fun digest pair => joinPair_eq_ok⟩

end Joined

/-- A panel pairs the one parent and the one child receipt of every expected key. -/
structure ExactlyPaired (D : PairingDigests) (epoch : ResearchEpochManifest)
    (expectedPairKeys : List PairKey) (parentReceipts childReceipts : List OutcomeReceipt)
    (panel : JoinedOutcomePanel) : Prop where
  authoritative : ∀ receipt ∈ parentReceipts ++ childReceipts,
    assertAuthoritativeOutcomeReceipt D.toPromotionDigests receipt epoch = .ok ()
  /-- No key is expected twice, and each side has one receipt for each and none for another. -/
  distinct : expectedPairKeys.Nodup
  parents : (parentReceipts.map (·.pairKey)).Perm expectedPairKeys
  children : (childReceipts.map (·.pairKey)).Perm expectedPairKeys
  pairs : (panel.pairs.map (·.pairKey)).Perm expectedPairKeys
  carried : ∀ pair ∈ panel.pairs, pair.parentReceipt ∈ parentReceipts ∧
    pair.childReceipt ∈ childReceipts ∧ pair.parentReceipt.pairKey = pair.pairKey ∧
    pair.childReceipt.pairKey = pair.pairKey
  digests : panel.pairs.map (·.pairKeyDigest) = panel.pairs.map fun pair => D.pairKey pair.pairKey
  ordered : (panel.pairs.map (·.pairKeyDigest)).Pairwise (· < ·)

/-- Elements that a function tells apart, as many as there are, are all. -/
lemma perm_of_subset {α κ : Type} {as bs : List α} {f : α → κ} (hdistinct : (as.map f).Nodup)
    (hsubset : as ⊆ bs) (hlength : bs.length ≤ as.length) : as.Perm bs :=
  (List.subperm_of_subset (List.Nodup.of_map f hdistinct) hsubset).perm_of_length_le hlength

lemma exactlyPaired_of_ok {keys : List PairKey} {parents children : List OutcomeReceipt}
    {panel : JoinedOutcomePanel} (h : joinOutcomeReceipts D epoch keys parents children = .ok panel) :
    ExactlyPaired D epoch keys parents children panel := by
  unfold joinOutcomeReceipts at h
  obtain ⟨expected, hexpected, h⟩ := bind_eq_ok_iff.mp h
  obtain ⟨parent, hparent, h⟩ := bind_eq_ok_iff.mp h
  obtain ⟨child, hchild, h⟩ := bind_eq_ok_iff.mp h
  unfold expectedMap at hexpected
  obtain ⟨_, -, hexpected⟩ := bind_eq_ok_iff.mp hexpected
  obtain ⟨hparentKeys, hchildKeys, hdigests, hpairs⟩ := joinMaps_eq_ok h
  have hkeysDistinct := (mapByKey_empty_eq_ok_iff.mp hexpected).1.distinct
  -- the keys of the pairs are the expected ones
  have hof : ∀ pair ∈ panel.pairs, ∃ digest, PairOf D expected parent child digest pair := by
    intro pair hpair
    obtain ⟨digest, -, hpairOf⟩ := exists_mem_left_of_forall₂ hpairs hpair
    exact ⟨digest, hpairOf⟩
  have hsame : panel.pairs.map (·.pairKeyDigest) = panel.pairs.map fun pair => D.pairKey pair.pairKey := by
    refine List.map_congr_left fun pair hpair => ?_
    obtain ⟨digest, hpairOf⟩ := hof pair hpair
    rw [hpairOf.digest_eq, hpairOf.key_digest]
  have hcovers : (panel.pairs.map fun pair => D.pairKey pair.pairKey).Perm expected.keys := by
    rw [← hsame, panel.covers, hdigests]
    exact List.perm_insertionSort _ _
  have hdistinct : ((panel.pairs.map (·.pairKey)).map D.pairKey).Nodup := by
    rw [List.map_map]
    exact hcovers.nodup_iff.mpr expected.nodup
  have hlength : panel.pairs.length = expected.keys.length := by
    simpa using hcovers.length_eq
  have hkeys : (panel.pairs.map (·.pairKey)).Perm keys := by
    refine perm_of_subset hdistinct ?_ ?_
    · intro key hkey
      obtain ⟨pair, hpair, rfl⟩ := List.mem_map.mp hkey
      obtain ⟨digest, hpairOf⟩ := hof pair hpair
      exact ((get?_of_mapByKey hexpected).mp hpairOf.key).1
    · rw [List.length_map, hlength, keys_of_mapByKey hexpected, List.length_map]
  -- and so are those of the receipts that the pairs carry, which are all of a side
  have hside : ∀ {receipts : List OutcomeReceipt} {mapped : Dict String OutcomeReceipt} {side : String}
      (select : JoinedOutcomePair → OutcomeReceipt), (∀ pair, (select pair).pairKey = pair.pairKey) →
      receiptMap D receipts side epoch = .ok mapped → expected.keys.Perm mapped.keys →
      (∀ pair ∈ panel.pairs, select pair ∈ receipts) → (receipts.map (·.pairKey)).Perm keys := by
    intro receipts mapped side select hselect hmapped hcovered hmem
    have hselected : (panel.pairs.map select).map (·.pairKey) = panel.pairs.map (·.pairKey) := by
      rw [List.map_map]
      exact List.map_congr_left fun pair _ => hselect pair
    have hreceipts : (panel.pairs.map select).Perm receipts := by
      refine perm_of_subset (f := (·.pairKey)) ?_ ?_ ?_
      · rw [hselected]
        exact List.Nodup.of_map D.pairKey hdistinct
      · intro receipt hreceipt
        obtain ⟨pair, hpair, rfl⟩ := List.mem_map.mp hreceipt
        exact hmem pair hpair
      · have hcount := hcovered.length_eq
        rw [keys_of_mapByKey hmapped, List.length_map] at hcount
        rw [List.length_map, hlength, hcount]
    exact ((hreceipts.map (·.pairKey)).symm.trans (hselected ▸ List.Perm.refl _)).trans hkeys
  have hparents : ∀ pair ∈ panel.pairs, pair.parentReceipt ∈ parents := by
    intro pair hpair
    obtain ⟨digest, hpairOf⟩ := hof pair hpair
    exact ((get?_of_mapByKey hparent).mp hpairOf.parent).1
  have hchildren : ∀ pair ∈ panel.pairs, pair.childReceipt ∈ children := by
    intro pair hpair
    obtain ⟨digest, hpairOf⟩ := hof pair hpair
    exact ((get?_of_mapByKey hchild).mp hpairOf.child).1
  refine ⟨?_, List.Nodup.of_map D.pairKey hkeysDistinct,
    hside (·.parentReceipt) (·.parent_eq) hparent hparentKeys hparents,
    hside (·.childReceipt) (·.child_eq) hchild hchildKeys hchildren, hkeys,
    fun pair hpair => ⟨hparents pair hpair, hchildren pair hpair, pair.parent_eq, pair.child_eq⟩,
    hsame, ?_⟩
  · intro receipt hreceipt
    rcases List.mem_append.mp hreceipt with hreceipt | hreceipt
    · exact checkReceipt_eq_ok_iff.mp ((mapByKey_empty_eq_ok_iff.mp hparent).1.checked receipt hreceipt)
    · exact checkReceipt_eq_ok_iff.mp ((mapByKey_empty_eq_ok_iff.mp hchild).1.checked receipt hreceipt)
  · rw [panel.covers]
    have hsorted : panel.expectedPairKeyDigests.Pairwise (· ≤ ·) := by
      rw [← panel.canonical]
      exact List.pairwise_insertionSort _ _
    exact hsorted.imp₂ (fun _ _ hle hne => lt_of_le_of_ne hle hne) panel.unique

/-- A panel that is returned is an exact pairing of the three sequences, and any permutation of
them gives the same panel or none. -/
theorem joinOutcomeReceipts_exact (D : PairingDigests) (epoch : ResearchEpochManifest)
    (expectedPairKeys : List PairKey) (parentReceipts childReceipts : List OutcomeReceipt) :
    (∀ panel, joinOutcomeReceipts D epoch expectedPairKeys parentReceipts childReceipts = .ok panel →
      ExactlyPaired D epoch expectedPairKeys parentReceipts childReceipts panel) ∧
    ∀ expectedPairKeys' parentReceipts' childReceipts', expectedPairKeys.Perm expectedPairKeys' →
      parentReceipts.Perm parentReceipts' → childReceipts.Perm childReceipts' →
      (joinOutcomeReceipts D epoch expectedPairKeys parentReceipts childReceipts).toOption =
        (joinOutcomeReceipts D epoch expectedPairKeys' parentReceipts' childReceipts').toOption := by
  refine ⟨fun _ => exactlyPaired_of_ok, ?_⟩
  intro keys' parents' children' hkeys hparents hchildren
  ext panel
  have htoOption : ∀ x : Except PairingError JoinedOutcomePanel,
      x.toOption = some panel ↔ x = .ok panel := by
    intro x
    cases x with
    | error e => simp [Except.toOption]
    | ok b => simp [Except.toOption]
  rw [htoOption, htoOption]
  constructor
  · exact joinOutcomeReceipts_perm hkeys hparents hchildren
  · exact joinOutcomeReceipts_perm hkeys.symm hparents.symm hchildren.symm

/-! Two tasks. -/

def sampleJoin : PairingDigests where
  toPromotionDigests := sampleDigests
  joinIdentity := fun _ _ _ => "join"
  joinPanel := fun _ => "panel"

def sampleKey (task : String) : PairKey := ⟨task, "environment", 0, "config"⟩

theorem joinOutcomeReceipts_exact_two_tasks :
    (joinOutcomeReceipts sampleJoin sampleEpoch [sampleKey "two", sampleKey "one"]
      [sampleReceipt "one" "parent" false, sampleReceipt "two" "parent" true]
      [sampleReceipt "two" "child" true, sampleReceipt "one" "child" true]).toOption.isSome = true ∧
    (∀ panel, joinOutcomeReceipts sampleJoin sampleEpoch [sampleKey "two", sampleKey "one"]
        [sampleReceipt "one" "parent" false, sampleReceipt "two" "parent" true]
        [sampleReceipt "two" "child" true, sampleReceipt "one" "child" true] = .ok panel →
      (panel.pairs.map (·.pairKey)).Perm [sampleKey "two", sampleKey "one"]) ∧
    (joinOutcomeReceipts sampleJoin sampleEpoch [sampleKey "two", sampleKey "one"]
        [sampleReceipt "one" "parent" false, sampleReceipt "two" "parent" true]
        [sampleReceipt "two" "child" true, sampleReceipt "one" "child" true]).toOption =
      (joinOutcomeReceipts sampleJoin sampleEpoch [sampleKey "one", sampleKey "two"]
        [sampleReceipt "one" "parent" false, sampleReceipt "two" "parent" true]
        [sampleReceipt "two" "child" true, sampleReceipt "one" "child" true]).toOption := by
  have h := joinOutcomeReceipts_exact sampleJoin sampleEpoch [sampleKey "two", sampleKey "one"]
    [sampleReceipt "one" "parent" false, sampleReceipt "two" "parent" true]
    [sampleReceipt "two" "child" true, sampleReceipt "one" "child" true]
  exact ⟨by decide +kernel, fun panel hpanel => (h.1 panel hpanel).pairs,
    h.2 _ _ _ (List.Perm.swap _ _ _) (List.Perm.refl _) (List.Perm.refl _)⟩

end Agintor.Evaluation
