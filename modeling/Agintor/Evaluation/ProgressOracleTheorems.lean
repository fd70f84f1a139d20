import Mathlib.Algebra.Order.BigOperators.Group.List
import Mathlib.Algebra.Order.Field.Rat
import Mathlib.Data.List.Dedup
import Mathlib.Data.List.Zip
import Mathlib.Tactic.Linarith
import Mathlib.Tactic.Ring
import Agintor.Evaluation.ProgressOracle
import Agintor.Lib.Lists

/-!
# Promotion in both directions

What `decide_evaluations` can say when the two evaluations swap their sides. Quality effects
change sign, so an axis that improves one way regresses the other way and is protected. Relative
savings do not change sign, but their sum is at most zero on each task, so one efficiency axis on
which lower is better cannot promote both ways.
-/

namespace Agintor.Evaluation

open Agintor.Contracts Agintor.Core Lib

variable {K : Type} [Field K] [LinearOrder K]

/-! ## Means -/

omit [LinearOrder K] in
lemma mean_eq (values : List K) : mean values = values.sum / values.length := by
  cases values <;> simp [mean]

omit [LinearOrder K] in
lemma mean_neg (values : List K) : mean (values.map fun v => -v) = -mean values := by
  rw [mean_eq, mean_eq, List.length_map, ← List.sum_neg, neg_div]

variable [IsStrictOrderedRing K]

lemma sum_map_nonpos {α : Type} {l : List α} {f : α → K} (h : ∀ a ∈ l, f a ≤ 0) :
    (l.map f).sum ≤ 0 := by
  have hle := List.sum_le_sum (g := fun _ => 0) h
  simpa using hle

/-- What holds of every summand of two sums together holds of the two means. -/
lemma mean_add_nonpos {α : Type} {l : List α} {f g : α → K} (h : ∀ a ∈ l, f a + g a ≤ 0) :
    mean (l.map f) + mean (l.map g) ≤ 0 := by
  rw [mean_eq, mean_eq, List.length_map, List.length_map, ← add_div, ← List.sum_map_add]
  exact div_nonpos_of_nonpos_of_nonneg (sum_map_nonpos h) (Nat.cast_nonneg _)

lemma neg_one_le_mean {values : List K} (h : ∀ v ∈ values, -1 ≤ v) : -1 ≤ mean values := by
  cases values with
  | nil => simp [mean]
  | cons v vs =>
    have hlen : (0 : K) < ((v :: vs).length : K) := by
      simp only [List.length_cons]
      positivity
    rw [mean_eq, le_div_iff₀ hlen]
    have hsum := List.card_nsmul_le_sum (v :: vs) (-1) h
    rw [nsmul_eq_mul] at hsum
    linarith

/-- A relative saving one way is at most the relative loss the other way. -/
lemma relative_saving_add_nonpos (p c : K) : (p - c) / max 1 p + (c - p) / max 1 c ≤ 0 := by
  have hp : 0 < max 1 p := lt_max_of_lt_left one_pos
  have hc : 0 < max 1 c := lt_max_of_lt_left one_pos
  have hcross : (p - c) * (max 1 c - max 1 p) ≤ 0 := by
    rcases le_total p c with h | h
    · exact mul_nonpos_of_nonpos_of_nonneg (sub_nonpos.mpr h)
        (sub_nonneg.mpr (max_le_max_left 1 h))
    · exact mul_nonpos_of_nonneg_of_nonpos (sub_nonneg.mpr h)
        (sub_nonpos.mpr (max_le_max_left 1 h))
  rw [div_add_div _ _ hp.ne' hc.ne']
  apply div_nonpos_of_nonpos_of_nonneg _ (mul_pos hp hc).le
  calc (p - c) * max 1 c + max 1 p * (c - p) = (p - c) * (max 1 c - max 1 p) := by ring
    _ ≤ 0 := hcross

/-! ## Effects -/

variable (F : OracleFunctions K) (config : ProgressOracleConfig K)

/-- What is assumed of the numbers that the oracle is set up with. -/
structure Admissible : Prop where
  stdError_nonneg : ∀ deltas, 0 ≤ F.stdError deltas
  confidenceZ_nonneg : 0 ≤ config.confidenceZ
  capabilityEpsilon_nonneg : 0 ≤ config.capabilityEpsilon
  efficiencyEpsilon_nonneg : 0 ≤ config.efficiencyEpsilon

omit [IsStrictOrderedRing K] in
lemma pairedMeanEffect_estimate (pairs : List (K × K)) (margin : K) :
    (pairedMeanEffect F config pairs margin).estimate = mean (pairs.map fun p => p.1 - p.2) := by
  cases pairs <;> simp [pairedMeanEffect, PairedEffect.zero, mean]

variable {F config}

lemma pairedMeanEffect_lower_le (hA : Admissible F config) (pairs : List (K × K)) {margin : K}
    (hmargin : 0 ≤ margin) :
    (pairedMeanEffect F config pairs margin).lower ≤
      max (-1) (pairedMeanEffect F config pairs margin).estimate := by
  have hspread := mul_nonneg hA.confidenceZ_nonneg
    (hA.stdError_nonneg (pairs.map fun p => p.1 - p.2))
  cases pairs with
  | nil => simp [pairedMeanEffect, PairedEffect.zero]
  | cons p ps =>
    simp only [pairedMeanEffect, List.map_cons] at hspread ⊢
    apply max_le_max_left
    split <;> linarith

lemma pos_of_lt_max_neg_one {x y : K} (h : x ≤ max (-1) y) (hx : 0 < x) : 0 < y := by
  rcases le_max_iff.mp h with h | h <;> linarith

/-! ## Swapping the sides -/

omit [Field K] [LinearOrder K] [IsStrictOrderedRing K] in
/-- The evidence of a task when parent and child swap. -/
def TaskEvidence.swap (task : TaskEvidence K) : TaskEvidence K :=
  { task with pairs := task.pairs.map Prod.swap }

variable {A B : SuiteEvaluation K}

omit [Field K] [LinearOrder K] [IsStrictOrderedRing K] in
lemma sharedTasks_comm (A B : SuiteEvaluation K) : sharedTasks A B = sharedTasks B A := by
  unfold sharedTasks sortedUnique
  rw [insertionSort_eq_iff_perm le_total (fun _ _ _ => le_trans) (fun _ _ => le_antisymm),
    List.perm_ext_iff_of_nodup (List.nodup_dedup _) (List.nodup_dedup _)]
  intro task
  simp only [List.mem_dedup, List.mem_filter, decide_eq_true_eq]
  exact and_comm

/-- The two evaluations are about the same tasks. -/
def SameTasks (A B : SuiteEvaluation K) : Prop :=
  ∀ taskId ∈ sharedTasks A B, A.taskMetadata taskId = B.taskMetadata taskId

omit [Field K] [LinearOrder K] [IsStrictOrderedRing K] in
lemma taskMetadata_comm {taskId : String} (h : A.taskMetadata taskId = B.taskMetadata taskId) :
    taskMetadata A B taskId = taskMetadata B A taskId := by
  simp [taskMetadata, h]

omit [Field K] [LinearOrder K] [IsStrictOrderedRing K] in
lemma SameTasks.symm (h : SameTasks A B) : SameTasks B A := by
  intro taskId hmem
  rw [sharedTasks_comm] at hmem
  exact (h taskId hmem).symm

variable {contract : Option (DomainEvidenceContract K)}

omit [LinearOrder K] [IsStrictOrderedRing K] in
lemma taskEvidence_swap {taskId : String} (h : A.taskMetadata taskId = B.taskMetadata taskId) :
    taskEvidence contract B A taskId = (taskEvidence contract A B taskId).swap := by
  simp only [taskEvidence, TaskEvidence.swap, taskMetadata_comm h, List.zip_swap]

omit [LinearOrder K] [IsStrictOrderedRing K] in
lemma pairedTasks_swap (h : SameTasks A B) :
    pairedTasks contract B A = (pairedTasks contract A B).map TaskEvidence.swap := by
  have hmap : (sharedTasks A B).map (taskEvidence contract B A) =
      ((sharedTasks A B).map (taskEvidence contract A B)).map TaskEvidence.swap := by
    rw [List.map_map]
    exact List.map_congr_left fun taskId hmem => taskEvidence_swap (h taskId hmem)
  unfold pairedTasks
  rw [sharedTasks_comm B A, hmap, List.filter_map]
  congr 1
  apply List.filter_congr
  intro task _
  simp [TaskEvidence.swap]

omit [Field K] [LinearOrder K] [IsStrictOrderedRing K] in
lemma bucketOf_swap (tasks : List (TaskEvidence K)) (axisId : String) :
    bucketOf (tasks.map TaskEvidence.swap) axisId = (bucketOf tasks axisId).map .swap := by
  unfold bucketOf
  rw [List.filter_map]
  rfl

/-- How an axis looks from the other side. -/
structure Mirrored (a b : AxisDelta K) : Prop where
  axisId : b.axisId = a.axisId
  promotionKind : b.promotionKind = a.promotionKind
  evidenceCount : b.evidenceCount = a.evidenceCount
  source : b.source = a.source
  estimate : b.estimate = -a.estimate
  lower_le : a.lower ≤ max (-1) a.estimate
  lower_le' : b.lower ≤ max (-1) b.estimate

omit [LinearOrder K] [IsStrictOrderedRing K] in
lemma mean_swap (pairs : List (K × K)) :
    mean ((pairs.map Prod.swap).map fun p => p.1 - p.2) = -mean (pairs.map fun p => p.1 - p.2) := by
  rw [← mean_neg, List.map_map, List.map_map]
  congr 1
  apply List.map_congr_left
  intro p _
  simp

variable (config) in
/-- Whether both sides of these pairs are saturated. -/
def pairsSaturated (pairs : List (K × K)) : Bool :=
  decide (config.saturationThreshold ≤ mean (pairs.map (·.2)) ∧
    config.saturationThreshold ≤ mean (pairs.map (·.1)))

omit [IsStrictOrderedRing K] in
lemma pairsSaturated_swap (pairs : List (K × K)) :
    pairsSaturated config (pairs.map Prod.swap) = pairsSaturated config pairs := by
  have hparent : (pairs.map Prod.swap).map (·.2) = pairs.map (·.1) := by
    rw [List.map_map]
    rfl
  have hchild : (pairs.map Prod.swap).map (·.1) = pairs.map (·.2) := by
    rw [List.map_map]
    rfl
  unfold pairsSaturated
  rw [hparent, hchild, decide_eq_decide]
  exact and_comm

omit [IsStrictOrderedRing K] in
lemma axisDelta_estimate (axisId : String) (bucket : List (TaskEvidence K)) :
    (axisDelta F config axisId bucket).estimate =
      if pairsSaturated config (bucket.flatMap (·.pairs)) then 0
      else mean ((bucket.flatMap (·.pairs)).map fun p => p.1 - p.2) := by
  show (if pairsSaturated config (bucket.flatMap (·.pairs)) then _
    else pairedMeanEffect F config (bucket.flatMap (·.pairs)) 1).estimate = _
  rw [apply_ite PairedEffect.estimate, pairedMeanEffect_estimate]

omit [IsStrictOrderedRing K] in
lemma axisDelta_lower (axisId : String) (bucket : List (TaskEvidence K)) :
    (axisDelta F config axisId bucket).lower =
      if pairsSaturated config (bucket.flatMap (·.pairs)) then 0
      else (pairedMeanEffect F config (bucket.flatMap (·.pairs)) 1).lower := by
  show (if pairsSaturated config (bucket.flatMap (·.pairs)) then _
    else pairedMeanEffect F config (bucket.flatMap (·.pairs)) 1).lower = _
  rw [apply_ite PairedEffect.lower]

section

variable (hA : Admissible F config)
include hA

lemma axisDelta_lower_le (axisId : String)
    (bucket : List (TaskEvidence K)) :
    (axisDelta F config axisId bucket).lower ≤
      max (-1) (axisDelta F config axisId bucket).estimate := by
  rw [axisDelta_lower, axisDelta_estimate]
  split
  · exact le_max_right _ _
  · have hle := pairedMeanEffect_lower_le hA (bucket.flatMap (·.pairs)) zero_le_one
    rwa [pairedMeanEffect_estimate] at hle

lemma axisDelta_mirrored (axisId : String)
    (bucket : List (TaskEvidence K)) :
    Mirrored (axisDelta F config axisId bucket)
      (axisDelta F config axisId (bucket.map TaskEvidence.swap)) := by
  have hpairs : (bucket.map TaskEvidence.swap).flatMap (·.pairs) =
      (bucket.flatMap (·.pairs)).map Prod.swap := by
    rw [List.flatMap_map, List.map_flatMap]
    rfl
  have hsource : (bucket.map TaskEvidence.swap).map (·.source) = bucket.map (·.source) := by
    rw [List.map_map]
    rfl
  refine ⟨rfl, ?_, ?_, ?_, ?_, axisDelta_lower_le hA _ _, axisDelta_lower_le hA _ _⟩
  · cases bucket <;> rfl
  · show ((bucket.map TaskEvidence.swap).flatMap (·.pairs)).length = _
    rw [hpairs, List.length_map]
    rfl
  · simp only [axisDelta, hsource]
  · rw [axisDelta_estimate, axisDelta_estimate, hpairs, pairsSaturated_swap, mean_swap]
    split <;> simp

lemma qualityAxisDeltas_mirrored (tasks : List (TaskEvidence K)) :
    List.Forall₂ Mirrored (qualityAxisDeltas F config tasks)
      (qualityAxisDeltas F config (tasks.map TaskEvidence.swap)) := by
  have hids : (tasks.map TaskEvidence.swap).map (·.axisId) = tasks.map (·.axisId) := by
    rw [List.map_map]
    rfl
  unfold qualityAxisDeltas
  rw [hids, List.forall₂_map_left_iff, List.forall₂_map_right_iff]
  apply List.forall₂_same.mpr
  intro axisId _
  rw [bucketOf_swap]
  exact axisDelta_mirrored hA axisId _

lemma compareEvaluations_mirrored (hsame : SameTasks A B)
    (contract : Option (DomainEvidenceContract K)) (leakage leakage' : Option LeakageStatus)
    (health health' : Option (List (String × String))) :
    List.Forall₂ Mirrored (compareEvaluations F config A B contract leakage health).axisDeltas
      (compareEvaluations F config B A contract leakage' health').axisDeltas := by
  show List.Forall₂ Mirrored (qualityAxisDeltas F config (pairedTasks contract A B))
    (qualityAxisDeltas F config (pairedTasks contract B A))
  rw [pairedTasks_swap hsame]
  exact qualityAxisDeltas_mirrored hA _

end

variable {health : Option (List (String × String))} {as bs : List (AxisDelta K)}
    {leakage : Option LeakageStatus} {a b : AxisDelta K}

/-- An improvement seen from the other side is a loss. -/
lemma Mirrored.lower_neg (h : Mirrored a b) (ha : 0 < a.lower) : b.lower < 0 := by
  have hestimate := pos_of_lt_max_neg_one h.lower_le ha
  have hlower := h.lower_le'
  rw [h.estimate] at hlower
  rcases le_max_iff.mp hlower with h | h <;> linarith

/-! ## Scores between 0 and 1 -/

/-- Verifier scores are rates. -/
def UnitScores (A : SuiteEvaluation K) : Prop :=
  ∀ run ∈ A.runResults, 0 ≤ run.verifierScore ∧ run.verifierScore ≤ 1

lemma qualityScore_mem {run : RunResult K} (h : 0 ≤ run.verifierScore ∧ run.verifierScore ≤ 1) :
    0 ≤ qualityScore run ∧ qualityScore run ≤ 1 := by
  unfold qualityScore
  split
  · exact ⟨le_refl 0, zero_le_one⟩
  · exact h

lemma neg_one_le_taskEvidence (hunitA : UnitScores A) (hunitB : UnitScores B) (taskId : String) :
    ∀ p ∈ (taskEvidence contract A B taskId).pairs, -1 ≤ p.1 - p.2 := by
  intro p hp
  obtain ⟨hchild, hparent⟩ := List.of_mem_zip hp
  obtain ⟨childRun, hchildRun, hchildScore⟩ := List.mem_map.mp hchild
  obtain ⟨parentRun, hparentRun, hparentScore⟩ := List.mem_map.mp hparent
  have hb := qualityScore_mem (hunitB childRun (List.mem_of_mem_filter hchildRun))
  have ha := qualityScore_mem (hunitA parentRun (List.mem_of_mem_filter hparentRun))
  rw [← hchildScore, ← hparentScore]
  linarith [hb.1, ha.2]

lemma neg_one_le_estimate (hunitA : UnitScores A) (hunitB : UnitScores B) :
    ∀ axis ∈ (compareEvaluations F config A B contract leakage health).axisDeltas,
      -1 ≤ axis.estimate := by
  intro axis haxis
  obtain ⟨axisId, _, rfl⟩ := List.mem_map.mp haxis
  rw [axisDelta_estimate]
  split
  · simp
  · apply neg_one_le_mean
    intro v hv
    obtain ⟨p, hp, rfl⟩ := List.mem_map.mp hv
    obtain ⟨task, htask, hp⟩ := List.mem_flatMap.mp hp
    have hpaired := List.mem_of_mem_filter (List.mem_of_mem_filter htask)
    obtain ⟨taskId, _, rfl⟩ := List.mem_map.mp hpaired
    exact neg_one_le_taskEvidence hunitA hunitB taskId p hp

/-- Two axes whose lower bounds cannot both be positive, and that count alike. -/
structure Opposed (a b : AxisDelta K) : Prop where
  axisId : b.axisId = a.axisId
  promotionKind : b.promotionKind = a.promotionKind
  evidenceCount : b.evidenceCount = a.evidenceCount
  lower_add_nonpos : a.lower + b.lower ≤ 0

lemma Mirrored.opposed (h : Mirrored a b) (ha : -1 ≤ a.estimate) (hb : -1 ≤ b.estimate) :
    Opposed a b := by
  have hlower := h.lower_le
  have hlower' := h.lower_le'
  rw [max_eq_right ha] at hlower
  rw [max_eq_right hb] at hlower'
  refine ⟨h.axisId, h.promotionKind, h.evidenceCount, ?_⟩
  have hestimate := h.estimate
  linarith

lemma opposed_of_mirrored (h : List.Forall₂ Mirrored as bs) (has : ∀ a ∈ as, -1 ≤ a.estimate)
    (hbs : ∀ b ∈ bs, -1 ≤ b.estimate) : List.Forall₂ Opposed as bs := by
  induction h with
  | nil => exact .nil
  | cons hab _ ih =>
    rw [List.forall_mem_cons] at has hbs
    exact .cons (hab.opposed has.1 hbs.1) (ih has.2 hbs.2)

/-! ## Aggregates -/

variable (terms : DomainEvidenceContract K)

/-- What an axis weighs if any axis weighs something. -/
def rawWeight (axis : AxisDelta K) : K :=
  (axis.evidenceCount : K) * qualityAxisWeight terms axis.axisId

/-- What an axis weighs among these axes. -/
def axisWeight (axes : List (AxisDelta K)) (axis : AxisDelta K) : K :=
  if (axes.map (rawWeight terms)).sum ≤ 0 then 1 else rawWeight terms axis

lemma rawWeight_nonneg (axis : AxisDelta K) : 0 ≤ rawWeight terms axis := by
  apply mul_nonneg (Nat.cast_nonneg _)
  unfold qualityAxisWeight
  cases findAxis terms axis.axisId with
  | none => exact zero_le_one
  | some found => exact le_max_left 0 _

lemma axisWeight_nonneg (axes : List (AxisDelta K)) (axis : AxisDelta K) :
    0 ≤ axisWeight terms axes axis := by
  unfold axisWeight
  split
  · exact zero_le_one
  · exact rawWeight_nonneg terms axis

variable {comparison' : PairedComparison K} {d d' : PromotionDecision K}
    {axes : List (AxisDelta K)} {kind : PromotionKind}

omit [IsStrictOrderedRing K] in
lemma aggregateQuality_lower (h : axes ≠ []) :
    (aggregateQuality terms axes).lower =
      max (-1) ((axes.map fun axis => axis.lower * axisWeight terms axes axis).sum /
        (axes.map (axisWeight terms axes)).sum) := by
  have hweighted : weightedAxes terms axes =
      axes.map fun axis => (axis, axisWeight terms axes axis) := by
    have hraw : (axes.map fun axis => (axis, rawWeight terms axis)).map (·.2) =
        axes.map (rawWeight terms) := by
      rw [List.map_map]
      rfl
    show (if ((axes.map fun axis => (axis, rawWeight terms axis)).map (·.2)).sum ≤ 0 then _
      else axes.map fun axis => (axis, rawWeight terms axis)) = _
    rw [hraw]
    unfold axisWeight
    split <;> rfl
  cases axes with
  | nil => exact absurd rfl h
  | cons axis rest =>
    simp only [aggregateQuality, weightedMean, hweighted, List.map_map, Function.comp_def]

/-- A positive aggregate has a positive part. -/
lemma exists_lower_pos (h : 0 < (aggregateQuality terms axes).lower) :
    ∃ axis ∈ axes, 0 < axis.lower := by
  by_contra hnone
  push Not at hnone
  by_cases hnil : axes = []
  · simp [hnil, aggregateQuality, PairedEffect.zero] at h
  · rw [aggregateQuality_lower terms hnil] at h
    have hmean := pos_of_lt_max_neg_one (le_refl _) h
    have hsum : (axes.map fun axis => axis.lower * axisWeight terms axes axis).sum ≤ 0 :=
      sum_map_nonpos fun axis haxis =>
        mul_nonpos_of_nonpos_of_nonneg (hnone axis haxis) (axisWeight_nonneg terms axes axis)
    have hweights : 0 ≤ (axes.map (axisWeight terms axes)).sum := by
      apply List.sum_nonneg
      intro w hw
      obtain ⟨axis, _, rfl⟩ := List.mem_map.mp hw
      exact axisWeight_nonneg terms axes axis
    exact absurd hmean (not_lt.mpr (div_nonpos_of_nonpos_of_nonneg hsum hweights))

variable {terms}

omit [IsStrictOrderedRing K] in
variable (terms) in
lemma Opposed.rawWeight_eq (h : Opposed a b) : rawWeight terms b = rawWeight terms a := by
  unfold rawWeight
  rw [h.axisId, h.evidenceCount]

lemma weighted_sums_nonpos (h : List.Forall₂ Opposed as bs) {weight : AxisDelta K → K}
    (hnonneg : ∀ a, 0 ≤ weight a) (hweight : ∀ a b, Opposed a b → weight b = weight a) :
    (as.map fun a => a.lower * weight a).sum + (bs.map fun b => b.lower * weight b).sum ≤ 0 := by
  induction h with
  | nil => simp
  | @cons a b as bs hab _ ih =>
    have hhead : (a.lower + b.lower) * weight a ≤ 0 :=
      mul_nonpos_of_nonpos_of_nonneg hab.lower_add_nonpos (hnonneg a)
    simp only [List.map_cons, List.sum_cons, hweight a b hab]
    linarith

omit [IsStrictOrderedRing K] in
lemma eligibleAxes_opposed (h : List.Forall₂ Opposed as bs) (kind : PromotionKind) :
    List.Forall₂ Opposed (eligibleAxes terms kind as) (eligibleAxes terms kind bs) := by
  induction h with
  | nil => exact .nil
  | @cons a b as bs hab _ ih =>
    unfold eligibleAxes at ih ⊢
    rw [List.filter_cons, List.filter_cons, hab.promotionKind, hab.axisId]
    split
    · exact .cons hab ih
    · exact ih

/-- Two opposed aggregates are not both positive. -/
lemma aggregateQuality_opposed (h : List.Forall₂ Opposed as bs)
    (ha : 0 < (aggregateQuality terms as).lower) : ¬0 < (aggregateQuality terms bs).lower := by
  intro hb
  have hnil : as ≠ [] := by
    intro hnil
    simp [hnil, aggregateQuality, PairedEffect.zero] at ha
  have hnil' : bs ≠ [] := by
    intro hnil
    simp [hnil, aggregateQuality, PairedEffect.zero] at hb
  rw [aggregateQuality_lower terms hnil] at ha
  rw [aggregateQuality_lower terms hnil'] at hb
  have hraw := map_eq_map_of_forall₂ h fun _ _ hab => (hab.rawWeight_eq terms).symm
  have hfun : axisWeight terms bs = axisWeight terms as := by
    funext axis
    unfold axisWeight
    rw [← hraw]
  have hweight : ∀ a b, Opposed a b → axisWeight terms as b = axisWeight terms as a := by
    intro a b hab
    unfold axisWeight
    rw [hab.rawWeight_eq]
  have hmean := pos_of_lt_max_neg_one (le_refl _) ha
  have hmean' := pos_of_lt_max_neg_one (le_refl _) hb
  rw [hfun, ← map_eq_map_of_forall₂ h fun a b hab => (hweight a b hab).symm] at hmean'
  have hsums := weighted_sums_nonpos h (axisWeight_nonneg terms as) hweight
  have htotal : 0 ≤ (as.map (axisWeight terms as)).sum := by
    apply List.sum_nonneg
    intro w hw
    obtain ⟨axis, _, rfl⟩ := List.mem_map.mp hw
    exact axisWeight_nonneg terms as axis
  have hboth := add_pos hmean hmean'
  rw [← add_div] at hboth
  exact absurd hboth (not_lt.mpr (div_nonpos_of_nonpos_of_nonneg hsums htotal))

/-! ## What a promoting decision rests on -/

variable (config terms) in
/-- The condition of the branch that makes a decision of this type. -/
def Supports (comparison : PairedComparison K) : PromotionDecisionType → Prop
  | .capability => 0 < (aggregateQuality terms
      (eligibleAxes terms .capability comparison.axisDeltas)).lower
  | .subskill => 0 < (aggregateQuality terms
      (eligibleAxes terms .subskill comparison.axisDeltas)).lower
  | .efficiency => efficiencyCleared config terms comparison
  | _ => False

variable {comparison : PairedComparison K} {decided : PromotionDecision K} {verdict : Verdict K}

omit [IsStrictOrderedRing K] in
lemma decision_eq_ok (h : decision config terms comparison verdict = .ok decided) :
    decided.decisionType = verdict.decisionType ∧
      decided.efficiency = bestEfficiencyDelta comparison ∧
      (verdict.decisionType = .capability →
        0 < (verdict.qualityOverride.getD (aggregateQuality terms comparison.axisDeltas)).lower) := by
  unfold decision at h
  simp only [bind_eq_ok_iff, raiseIf_eq_ok_iff, pure_eq_ok, Except.ok.injEq, not_and, not_le] at h
  obtain ⟨_, hquality, _, _, rfl⟩ := h
  exact ⟨rfl, rfl, hquality⟩

omit [IsStrictOrderedRing K] in
lemma effectVerdict_promoting {saturated frontier : Bool}
    (hε : 0 ≤ config.capabilityEpsilon)
    (hp : (effectVerdict config terms comparison saturated frontier).decisionType.promoting = true) :
    regressedAxes config terms comparison = [] ∧
      Supports config terms comparison
        (effectVerdict config terms comparison saturated frontier).decisionType := by
  unfold effectVerdict at hp ⊢
  by_cases hregressed : regressedAxes config terms comparison ≠ []
  · simp [hregressed, PromotionDecisionType.promoting] at hp
  · refine ⟨not_not.mp hregressed, ?_⟩
    simp only [if_neg hregressed] at hp ⊢
    split
    · rename_i hcapability
      exact lt_of_le_of_lt hε hcapability.2
    · rename_i hcapability
      rw [if_neg hcapability] at hp
      split
      · assumption
      · rename_i hefficiency
        rw [if_neg hefficiency] at hp
        split
        · rename_i himproved
          simp [himproved, PromotionDecisionType.promoting] at hp
        · rename_i himproved
          rw [if_neg himproved] at hp
          unfold subskillVerdict at hp ⊢
          by_cases hsubskill :
              improvedAxes config terms (eligibleAxes terms .subskill comparison.axisDeltas) ≠ [] ∧
                config.capabilityEpsilon < (aggregateQuality terms
                  (eligibleAxes terms .subskill comparison.axisDeltas)).lower
          · simp only [if_pos hsubskill]
            exact lt_of_le_of_lt hε hsubskill.2
          · simp only [if_neg hsubskill] at hp
            -- the other ends of `decide` do not promote
            split at hp
            · simp [PromotionDecisionType.promoting] at hp
            · split at hp <;> simp [PromotionDecisionType.promoting] at hp

omit [Field K] [LinearOrder K] [IsStrictOrderedRing K] in
lemma admissionIssue_not_promoting {decisionType : PromotionDecisionType}
    {reasonCodes : List String}
    (h : admissionIssue F terms comparison = some (decisionType, reasonCodes)) :
    decisionType.promoting = false := by
  unfold admissionIssue at h
  grind [PromotionDecisionType.promoting]

omit [IsStrictOrderedRing K] in
lemma decideUnder_promoting {child : SuiteEvaluation K} (hε : 0 ≤ config.capabilityEpsilon)
    (h : decideUnder F config terms child comparison = .ok decided)
    (hp : decided.decisionType.promoting = true) :
    regressedAxes config terms comparison = [] ∧
      Supports config terms comparison decided.decisionType ∧
      decided.efficiency = bestEfficiencyDelta comparison := by
  unfold decideUnder at h
  split at h
  · rw [(decision_eq_ok h).1] at hp
    simp [PromotionDecisionType.promoting] at hp
  · unfold ProgressOracle.decide at h
    cases hissue : admissionIssue F terms comparison with
    | some issue =>
      rw [hissue] at h
      rw [(decision_eq_ok h).1, admissionIssue_not_promoting hissue] at hp
      exact absurd hp (by decide)
    | none =>
      rw [hissue] at h
      obtain ⟨htype, hefficiency, _⟩ := decision_eq_ok h
      rw [htype] at hp ⊢
      obtain ⟨hregressed, hsupports⟩ := effectVerdict_promoting hε hp
      exact ⟨hregressed, hsupports, hefficiency⟩

/-! ## Efficiency -/

omit [Field K] [IsStrictOrderedRing K] in
lemma maxByLower_mem (best : EfficiencyDelta K) (deltas : List (EfficiencyDelta K)) :
    maxByLower best deltas ∈ best :: deltas := by
  induction deltas generalizing best with
  | nil => exact List.mem_singleton.mpr rfl
  | cons delta deltas ih =>
    have hmem := ih (if best.lower < delta.lower then delta else best)
    rw [List.mem_cons] at hmem
    rcases hmem with heq | hmem
    · unfold maxByLower
      rw [heq]
      split <;> simp
    · exact List.mem_cons_of_mem _ (List.mem_cons_of_mem _ hmem)

omit [IsStrictOrderedRing K] in
lemma bestEfficiencyDelta_mem (h : comparison.efficiencyDeltas ≠ []) :
    bestEfficiencyDelta comparison ∈ comparison.efficiencyDeltas := by
  unfold bestEfficiencyDelta
  cases hdeltas : comparison.efficiencyDeltas with
  | nil => exact absurd hdeltas h
  | cons delta deltas => exact maxByLower_mem delta deltas

omit [Field K] [LinearOrder K] [IsStrictOrderedRing K] in
/-- A compared axis is known by its id. -/
lemma comparedAxes_inj {x y : EfficiencyAxis K} (hx : x ∈ comparedAxes terms)
    (hy : y ∈ comparedAxes terms) (h : x.axisId = y.axisId) : x = y := by
  have hunique := terms.unique_ids
  unfold axisIds at hunique
  rw [List.filter_append, List.nodup_append] at hunique
  have hnodup := hunique.2.1
  rw [List.filter_map] at hnodup
  have hnamed {z : EfficiencyAxis K} (hz : z ∈ comparedAxes terms) :
      z ∈ terms.efficiencyAxes.filter ((fun id => decide (id ≠ "")) ∘ (·.axisId)) := by
    obtain ⟨hmem, hz⟩ := List.mem_filter.mp hz
    rw [decide_eq_true_eq] at hz
    exact List.mem_filter.mpr ⟨hmem, by simpa using hz.1⟩
  exact List.inj_on_of_nodup_map hnodup (hnamed hx) (hnamed hy) h

/-- The efficiency axes have nonnegative epsilons. -/
def NonnegEpsilons (terms : DomainEvidenceContract K) : Prop :=
  ∀ axis ∈ terms.efficiencyAxes, ∀ epsilon ∈ axis.epsilon, 0 ≤ epsilon

omit [IsStrictOrderedRing K] in
lemma efficiencyAxisEpsilon_nonneg (hA : Admissible F config) (hterms : NonnegEpsilons terms)
    (axisId : String) : 0 ≤ efficiencyAxisEpsilon terms axisId config.efficiencyEpsilon := by
  unfold efficiencyAxisEpsilon
  cases hfind : terms.efficiencyAxes.find? (·.axisId = axisId) with
  | none => exact hA.efficiencyEpsilon_nonneg
  | some axis =>
    have hmem := List.mem_of_find?_eq_some hfind
    cases hepsilon : axis.epsilon with
    | none => simpa [hepsilon] using hA.efficiencyEpsilon_nonneg
    | some epsilon => simpa [hepsilon] using hterms axis hmem epsilon hepsilon

omit [IsStrictOrderedRing K] in
/-- What the best delta of an efficiency decision is about. -/
lemma efficiencyCleared_axis (hA : Admissible F config) (hterms : NonnegEpsilons terms)
    (h : efficiencyCleared config terms
      (compareEvaluations F config A B (some terms) leakage health)) :
    ∃ axis ∈ comparedAxes terms,
      axis.axisId = (bestEfficiencyDelta
        (compareEvaluations F config A B (some terms) leakage health)).axisId ∧
      0 < (efficiencyMetricEffect F config A B axis.metric axis.lowerIsBetter).lower := by
  obtain ⟨hnil, _, hlower⟩ := h
  obtain ⟨axis, haxis, hbest⟩ := List.mem_map.mp (bestEfficiencyDelta_mem hnil)
  rw [← hbest] at hlower ⊢
  exact ⟨axis, haxis, rfl,
    lt_of_le_of_lt (efficiencyAxisEpsilon_nonneg hA hterms _) hlower⟩

/-- Where lower is better, one metric cannot improve both ways. -/
lemma efficiencyMetricEffect_not_both (hA : Admissible F config) {metric : EfficiencyMetric}
    (h : 0 < (efficiencyMetricEffect F config A B metric true).lower) :
    ¬0 < (efficiencyMetricEffect F config B A metric true).lower := by
  intro h'
  unfold efficiencyMetricEffect at h h'
  have hmean := pos_of_lt_max_neg_one (pairedMeanEffect_lower_le hA _ (le_refl 0)) h
  have hmean' := pos_of_lt_max_neg_one (pairedMeanEffect_lower_le hA _ (le_refl 0)) h'
  rw [pairedMeanEffect_estimate, List.map_map] at hmean hmean'
  rw [sharedTasks_comm B A] at hmean'
  have hsum := mean_add_nonpos (l := sharedTasks A B)
    (f := (fun p : K × K => p.1 - p.2) ∘ efficiencyPair A B metric true)
    (g := (fun p : K × K => p.1 - p.2) ∘ efficiencyPair B A metric true) (by
      intro taskId _
      simp only [Function.comp_apply, efficiencyPair, if_true, sub_zero]
      exact relative_saving_add_nonpos _ _)
  linarith

/-! ## Both directions -/

/-- Two efficiency decisions that are about different axes, or about one on which higher is
better. -/
def TradesEfficiency (terms : DomainEvidenceContract K) (d d' : PromotionDecision K) : Prop :=
  d.decisionType = .efficiency ∧ d'.decisionType = .efficiency ∧
    ∃ x ∈ comparedAxes terms, ∃ y ∈ comparedAxes terms,
      x.axisId = d.efficiency.axisId ∧ y.axisId = d'.efficiency.axisId ∧
        (x.axisId ≠ y.axisId ∨ x.lowerIsBetter = false)

variable (config terms) in
/-- An axis is improved whose loss on the way back would be tolerated. -/
def ToleratesLoss (comparison : PairedComparison K) : Prop :=
  ∃ axis ∈ comparison.axisDeltas, 0 < axis.lower ∧
    0 < axisRegressionTolerance terms axis.axisId config.protectedRegressionTolerance

omit [IsStrictOrderedRing K] in
lemma not_regressed (h : regressedAxes config terms comparison = []) :
    ∀ axis ∈ comparison.axisDeltas,
      -axisRegressionTolerance terms axis.axisId config.protectedRegressionTolerance ≤
        axis.lower := by
  intro axis haxis
  by_contra hlt
  have hmem : axis.axisId ∈ regressedAxes config terms comparison := by
    refine List.mem_map.mpr ⟨axis, List.mem_filter.mpr ⟨haxis, ?_⟩, rfl⟩
    rw [decide_eq_true_eq]
    exact lt_of_le_of_lt (min_le_left _ _) (not_le.mp hlt)
  rw [h] at hmem
  exact absurd hmem List.not_mem_nil

lemma toleratesLoss_of_lower_pos
    (hmirror : List.Forall₂ Mirrored comparison.axisDeltas comparison'.axisDeltas)
    (hregressed : regressedAxes config terms comparison' = [])
    (h : 0 < (aggregateQuality terms (eligibleAxes terms kind comparison.axisDeltas)).lower) :
    ToleratesLoss config terms comparison := by
  obtain ⟨a, ha, hlower⟩ := exists_lower_pos terms h
  have hmem := List.mem_of_mem_filter ha
  obtain ⟨b, hb, hab⟩ := exists_mem_right_of_forall₂ hmirror hmem
  have hneg := hab.lower_neg hlower
  have htolerated := not_regressed hregressed b hb
  rw [hab.axisId] at htolerated
  refine ⟨a, hmem, hlower, ?_⟩
  linarith

lemma not_both_of_kind (hA : Admissible F config) (hsame : SameTasks A B) (hunitA : UnitScores A)
    (hunitB : UnitScores B) {leakage leakage' : Option LeakageStatus}
    {health health' : Option (List (String × String))}
    (h : 0 < (aggregateQuality terms (eligibleAxes terms kind
      (compareEvaluations F config A B contract leakage health).axisDeltas)).lower) :
    ¬0 < (aggregateQuality terms (eligibleAxes terms kind
      (compareEvaluations F config B A contract leakage' health').axisDeltas)).lower := by
  have hmirror := compareEvaluations_mirrored hA hsame contract leakage leakage' health health'
  have hopposed := opposed_of_mirrored hmirror (neg_one_le_estimate hunitA hunitB)
    (neg_one_le_estimate hunitB hunitA)
  exact aggregateQuality_opposed (eligibleAxes_opposed hopposed kind) h

/-- Two promoting decisions under one contract. -/
lemma both_ways (hA : Admissible F config) (hterms : NonnegEpsilons terms) (hsame : SameTasks A B)
    {leakage leakage' : Option LeakageStatus} {health health' : Option (List (String × String))}
    (h : decideUnder F config terms B
      (compareEvaluations F config A B (some terms) leakage health) = .ok d)
    (h' : decideUnder F config terms A
      (compareEvaluations F config B A (some terms) leakage' health') = .ok d')
    (hp : d.decisionType.promoting = true) (hp' : d'.decisionType.promoting = true) :
    TradesEfficiency terms d d' ∨
      (ToleratesLoss config terms
          (compareEvaluations F config A B (some terms) leakage health) ∨
        ToleratesLoss config terms
          (compareEvaluations F config B A (some terms) leakage' health')) ∧
      (UnitScores A → UnitScores B → d.decisionType ≠ d'.decisionType) := by
  have hmirror := compareEvaluations_mirrored hA hsame (some terms) leakage leakage' health
    health'
  have hmirror' := compareEvaluations_mirrored hA hsame.symm (some terms) leakage' leakage
    health' health
  obtain ⟨hregressed, hsupports, hbest⟩ :=
    decideUnder_promoting hA.capabilityEpsilon_nonneg h hp
  obtain ⟨hregressed', hsupports', hbest'⟩ :=
    decideUnder_promoting hA.capabilityEpsilon_nonneg h' hp'
  -- quality decisions need a tolerance, and are not made twice on the same kind of axis
  have hloss {kind : PromotionKind} (hquality : 0 < (aggregateQuality terms
      (eligibleAxes terms kind
        (compareEvaluations F config A B (some terms) leakage health).axisDeltas)).lower) :
      ToleratesLoss config terms (compareEvaluations F config A B (some terms) leakage health) :=
    toleratesLoss_of_lower_pos hmirror hregressed' hquality
  have hloss' {kind : PromotionKind} (hquality : 0 < (aggregateQuality terms
      (eligibleAxes terms kind
        (compareEvaluations F config B A (some terms) leakage' health').axisDeltas)).lower) :
      ToleratesLoss config terms
        (compareEvaluations F config B A (some terms) leakage' health') :=
    toleratesLoss_of_lower_pos hmirror' hregressed hquality
  cases htype : d.decisionType with
  | capability =>
    rw [htype] at hsupports
    refine .inr ⟨.inl (hloss hsupports), fun hunitA hunitB htype' => ?_⟩
    rw [← htype'] at hsupports'
    exact not_both_of_kind hA hsame hunitA hunitB hsupports hsupports'
  | subskill =>
    rw [htype] at hsupports
    refine .inr ⟨.inl (hloss hsupports), fun hunitA hunitB htype' => ?_⟩
    rw [← htype'] at hsupports'
    exact not_both_of_kind hA hsame hunitA hunitB hsupports hsupports'
  | efficiency =>
    rw [htype] at hsupports
    cases htype' : d'.decisionType with
    | capability =>
      rw [htype'] at hsupports'
      exact .inr ⟨.inr (hloss' hsupports'), fun _ _ hne => by simp at hne⟩
    | subskill =>
      rw [htype'] at hsupports'
      exact .inr ⟨.inr (hloss' hsupports'), fun _ _ hne => by simp at hne⟩
    | efficiency =>
      rw [htype'] at hsupports'
      left
      obtain ⟨x, hx, hxid, hxlower⟩ := efficiencyCleared_axis hA hterms hsupports
      obtain ⟨y, hy, hyid, hylower⟩ := efficiencyCleared_axis hA hterms hsupports'
      refine ⟨htype, htype', x, hx, y, hy, by rw [hbest, hxid], by rw [hbest', hyid], ?_⟩
      by_cases hid : x.axisId = y.axisId
      · right
        have hxy := comparedAxes_inj hx hy hid
        subst hxy
        by_contra hbetter
        rw [Bool.not_eq_false] at hbetter
        rw [hbetter] at hxlower hylower
        exact efficiencyMetricEffect_not_both hA hxlower hylower
      · exact .inl hid
    | preference | noProgress | abstain | reject | quarantine =>
      rw [htype'] at hsupports'
      exact hsupports'.elim
  | preference | noProgress | abstain | reject | quarantine =>
    rw [htype] at hsupports
    exact hsupports.elim

/-! ## Without a contract -/

omit [IsStrictOrderedRing K] in
/-- Both directions are judged under the same implicit contract. -/
lemma implicitContract_mirrored
    (h : List.Forall₂ Mirrored comparison.axisDeltas comparison'.axisDeltas) :
    implicitContract config comparison' = implicitContract config comparison := by
  have hmap {α : Type} {f : AxisDelta K → α} (hf : ∀ a b, Mirrored a b → f a = f b) :
      comparison'.axisDeltas.map f = comparison.axisDeltas.map f :=
    (map_eq_map_of_forall₂ h hf).symm
  have hlength : comparison'.axisDeltas.length = comparison.axisDeltas.length := h.length_eq.symm
  have hfrontier : comparison'.axisDeltas.any (·.source = .frontier) =
      comparison.axisDeltas.any (·.source = .frontier) := by
    have hsources := hmap (f := fun axis => decide (axis.source = .frontier))
      fun a b hab => by rw [hab.source]
    have hany (axes : List (AxisDelta K)) : axes.any (·.source = .frontier) =
        (axes.map fun axis => decide (axis.source = .frontier)).any id := by
      rw [List.any_map]
      rfl
    rw [hany, hany, hsources]
  have hquality (kind : PromotionKind) :=
    hmap (f := fun axis => ({ axisId := axis.axisId
                              weight := 1
                              promotionKind := kind
                              epsilon := some config.capabilityEpsilon
                              protectedRegressionTolerance :=
                                some config.protectedRegressionTolerance } : QualityAxis K))
      fun a b hab => by rw [hab.axisId]
  unfold implicitContract
  simp only [hlength, hfrontier, hquality]

omit [LinearOrder K] [IsStrictOrderedRing K] in
/-- What an implicit contract says about its axes. -/
lemma implicitContract_eq_ok (h : implicitContract config comparison = .ok terms) :
    (∀ axisId, axisRegressionTolerance terms axisId config.protectedRegressionTolerance =
        config.protectedRegressionTolerance) ∧
      terms.efficiencyAxes =
        [{ axisId := "runtime_efficiency", epsilon := some config.efficiencyEpsilon }] := by
  rcases dite_eq_iff.mp h with ⟨_, h⟩ | ⟨_, h⟩
  · rw [Except.ok.injEq] at h
    subst h
    refine ⟨fun axisId => ?_, rfl⟩
    unfold axisRegressionTolerance findAxis
    rw [List.find?_map]
    cases hfind : List.find? _ comparison.axisDeltas with
    | none => rfl
    | some axis => rfl
  · simp at h

lemma implicit_not_both (hA : Admissible F config) (hsame : SameTasks A B)
    (htolerance : config.protectedRegressionTolerance = 0)
    (h : decideEvaluations F config A B none leakage health = .ok d)
    (h' : decideEvaluations F config B A none leakage health = .ok d')
    (hp : d.decisionType.promoting = true) : d'.decisionType.promoting = false := by
  have hmirror := compareEvaluations_mirrored hA hsame none leakage leakage health health
  simp only [decideEvaluations, bind_eq_ok_iff] at h h'
  obtain ⟨terms, hterms, h⟩ := h
  obtain ⟨terms', hterms', h'⟩ := h'
  rw [implicitContract_mirrored hmirror, hterms, Except.ok.injEq] at hterms'
  subst hterms'
  obtain ⟨htolerances, haxes⟩ := implicitContract_eq_ok hterms
  have hepsilons : NonnegEpsilons terms := by
    unfold NonnegEpsilons
    simpa [haxes] using hA.efficiencyEpsilon_nonneg
  by_contra hp'
  rw [Bool.not_eq_false] at hp'
  rcases both_ways hA hepsilons hsame h h' hp hp' with htrades | ⟨hloss, _⟩
  · obtain ⟨_, _, x, hx, y, hy, _, _, hdiffer⟩ := htrades
    -- the only axis is one where lower is better
    have hxmem := List.mem_of_mem_filter hx
    have hymem := List.mem_of_mem_filter hy
    rw [haxes, List.mem_singleton] at hxmem hymem
    subst hxmem hymem
    simp at hdiffer
  · have htolerated {c : PairedComparison K} : ¬ToleratesLoss config terms c := by
      intro hloss
      obtain ⟨axis, _, _, hpos⟩ := hloss
      rw [htolerances, htolerance] at hpos
      exact lt_irrefl 0 hpos
    exact hloss.elim htolerated htolerated

variable (F config) in
/-- The oracle promotes two evaluations over the same tasks both ways only if both decisions are
for efficiency, on different axes or on one where higher is better, or if a positive regression
tolerance lets an improved axis get worse; then, with scores between 0 and 1, the decisions are of
different types. Without a contract and at zero tolerance it never does. -/
theorem promotes_both_ways_only (hA : Admissible F config) (A B : SuiteEvaluation K)
    (hsame : SameTasks A B) (leakage : Option LeakageStatus)
    (health : Option (List (String × String))) :
    (∀ (terms : DomainEvidenceContract K) (d d' : PromotionDecision K), NonnegEpsilons terms →
      decideEvaluations F config A B (some terms) leakage health = .ok d →
      decideEvaluations F config B A (some terms) leakage health = .ok d' →
      d.decisionType.promoting = true → d'.decisionType.promoting = true →
        TradesEfficiency terms d d' ∨
          (ToleratesLoss config terms
              (compareEvaluations F config A B (some terms) leakage health) ∨
            ToleratesLoss config terms
              (compareEvaluations F config B A (some terms) leakage health)) ∧
          (UnitScores A → UnitScores B → d.decisionType ≠ d'.decisionType)) ∧
      (config.protectedRegressionTolerance = 0 → ∀ d d' : PromotionDecision K,
        decideEvaluations F config A B none leakage health = .ok d →
        decideEvaluations F config B A none leakage health = .ok d' →
          ¬(d.decisionType.promoting = true ∧ d'.decisionType.promoting = true)) := by
  constructor
  · intro terms d d' hterms h h' hp hp'
    exact both_ways hA hterms hsame h h' hp hp'
  · intro htolerance d d' h h' hboth
    rw [implicit_not_both hA hsame htolerance h h' hboth.1] at hboth
    exact absurd hboth.2 (by decide)

/-! ## A trade of cost against latency -/

/-- The standard error of at most one delta. -/
def oneDelta : OracleFunctions ℚ where
  stdError := fun _ => 0
  lower := id

/-- A contract on cost and latency. -/
def costAndLatency : DomainEvidenceContract ℚ where
  contractId := "cost-and-latency"
  version := "v1"
  qualityAxes := []
  efficiencyAxes :=
    [{ axisId := "cost", metric := .cost, epsilon := some 0 },
      { axisId := "latency", metric := .latency, epsilon := some 0 }]
  has_axis := .inr (List.cons_ne_nil _ _)
  unique_ids := by decide

/-- A solved task of this cost and latency. -/
def solvedAt (cost latency : ℚ) : SuiteEvaluation ℚ where
  runtimeHash := "runtime"
  runResults := [{ taskId := "task", verifierScore := 1, cost := cost, latency := latency }]

/-- The cheap one is promoted over the fast one, and the fast one over the cheap one. -/
theorem cheap_and_fast_promote_each_other :
    (decideEvaluations oneDelta .default (solvedAt 10 20) (solvedAt 20 10) (some costAndLatency)
        none none).map (·.decisionType) = .ok .efficiency ∧
      (decideEvaluations oneDelta .default (solvedAt 20 10) (solvedAt 10 20) (some costAndLatency)
        none none).map (·.decisionType) = .ok .efficiency := by
  decide +kernel

lemma oneDelta_admissible : Admissible oneDelta (.default : ProgressOracleConfig ℚ) where
  stdError_nonneg := fun _ => le_refl 0
  confidenceZ_nonneg := by simp only [ProgressOracleConfig.default]; norm_num
  capabilityEpsilon_nonneg := by simp only [ProgressOracleConfig.default]; norm_num
  efficiencyEpsilon_nonneg := by simp only [ProgressOracleConfig.default]; norm_num

/-- The two trade cost against latency under the contract; without one they are not promoted both
ways. -/
theorem promotes_both_ways_only_cheap_fast :
    (∃ d d' : PromotionDecision ℚ,
      decideEvaluations oneDelta .default (solvedAt 10 20) (solvedAt 20 10) (some costAndLatency)
          none none = .ok d ∧
        decideEvaluations oneDelta .default (solvedAt 20 10) (solvedAt 10 20) (some costAndLatency)
          none none = .ok d' ∧ TradesEfficiency costAndLatency d d') ∧
      ¬∃ d d' : PromotionDecision ℚ,
        decideEvaluations oneDelta .default (solvedAt 10 20) (solvedAt 20 10) none none none = .ok d ∧
          decideEvaluations oneDelta .default (solvedAt 20 10) (solvedAt 10 20) none none none =
            .ok d' ∧ d.decisionType.promoting = true ∧ d'.decisionType.promoting = true := by
  have hboth := promotes_both_ways_only oneDelta .default oneDelta_admissible (solvedAt 10 20)
    (solvedAt 20 10) (fun _ _ => rfl) none none
  have hepsilons : NonnegEpsilons costAndLatency := by
    simp [NonnegEpsilons, costAndLatency]
  have hunit (cost latency : ℚ) : UnitScores (solvedAt cost latency) := by
    simp [UnitScores, solvedAt]
  constructor
  · obtain ⟨d, hd, htype⟩ := map_eq_ok_iff.mp (show (decideEvaluations oneDelta .default
      (solvedAt 10 20) (solvedAt 20 10) (some costAndLatency) none none).map (·.decisionType) =
        .ok .efficiency by decide +kernel)
    obtain ⟨d', hd', htype'⟩ := map_eq_ok_iff.mp (show (decideEvaluations oneDelta .default
      (solvedAt 20 10) (solvedAt 10 20) (some costAndLatency) none none).map (·.decisionType) =
        .ok .efficiency by decide +kernel)
    refine ⟨d, d', hd, hd', ?_⟩
    rcases hboth.1 costAndLatency d d' hepsilons hd hd' (by rw [htype]; rfl) (by rw [htype']; rfl)
      with htrades | ⟨_, hne⟩
    · exact htrades
    · exact absurd (htype.trans htype'.symm) (hne (hunit 10 20) (hunit 20 10))
  · intro hex
    obtain ⟨d, d', hd, hd', hp⟩ := hex
    exact hboth.2 rfl d d' hd hd' hp

end Agintor.Evaluation
