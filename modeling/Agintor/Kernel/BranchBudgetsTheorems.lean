import Agintor.Kernel.BranchBudgets
import Mathlib.Algebra.BigOperators.Ring.List
import Mathlib.Data.List.GetD
import Mathlib.Data.String.Basic
import Mathlib.Tactic.FieldSimp

/-!
# What the branches are given

The branches share out the calls and the checks that are left to the last one, each close to
its proportional share, and no more latency than is left.
-/

namespace Agintor.Kernel

open Lib

/-! ## The remainders of the ideals -/

section Remainders

variable {ideals : List ℚ} {i : ℕ}

@[simp] lemma length_baseExtras : (baseExtras ideals).length = ideals.length :=
  List.length_map _

lemma getD_baseExtras (hi : i < ideals.length) : (baseExtras ideals).getD i 0 = ⌊ideals[i]⌋₊ := by
  have hbase : i < (baseExtras ideals).length := by simpa using hi
  rw [List.getD_eq_getElem _ _ hbase]
  simp only [baseExtras, List.getElem_map, Int.floor_toNat]

lemma remainderAt_eq (hi : i < ideals.length) :
    remainderAt ideals i = ideals[i] - ⌊ideals[i]⌋₊ := by
  unfold remainderAt
  rw [List.getD_eq_getElem _ _ hi, getD_baseExtras hi]

lemma remainderAt_nonneg (hnonneg : ∀ x ∈ ideals, 0 ≤ x) (hi : i < ideals.length) :
    0 ≤ remainderAt ideals i := by
  rw [remainderAt_eq hi]
  have hle := Nat.floor_le (hnonneg _ (List.getElem_mem hi))
  linarith

lemma remainderAt_lt_one (hi : i < ideals.length) : remainderAt ideals i < 1 := by
  rw [remainderAt_eq hi]
  have hlt := Nat.lt_floor_add_one ideals[i]
  linarith

lemma sum_sub_floor (ideals : List ℚ) :
    (ideals.map fun x => x - (⌊x⌋₊ : ℚ)).sum = ideals.sum - ((baseExtras ideals).sum : ℕ) := by
  induction ideals with
  | nil => simp [baseExtras]
  | cons x ideals ih =>
    have hbase : (baseExtras (x :: ideals)).sum = ⌊x⌋₊ + (baseExtras ideals).sum := by
      show ⌊x⌋.toNat + (baseExtras ideals).sum = _
      rw [Int.floor_toNat]
    rw [List.map_cons, List.sum_cons, ih, List.sum_cons, hbase]
    push_cast
    ring

lemma sum_remainderAt (ideals : List ℚ) :
    ((List.range ideals.length).map (remainderAt ideals)).sum =
      ideals.sum - ((baseExtras ideals).sum : ℕ) := by
  have hmap : (List.range ideals.length).map (remainderAt ideals) =
      ideals.map fun x => x - (⌊x⌋₊ : ℚ) := by
    apply List.ext_getElem
    · simp
    · intro i hi _
      have hlength : i < ideals.length := by simpa using hi
      rw [List.getElem_map, List.getElem_range, remainderAt_eq hlength, List.getElem_map]
  rw [hmap, sum_sub_floor]

end Remainders

/-! ## The order of the units -/

section Order

variable (ideals weights : List ℚ)

/-- `order` -/
def bumpOrder : List ℕ :=
  (List.range weights.length).insertionSort (BumpedBefore ideals weights)

instance : Std.Total (BumpedBefore ideals weights) where
  total i j := by
    unfold BumpedBefore
    rcases lt_trichotomy (remainderAt ideals i) (remainderAt ideals j) with h | h | h
    · exact Or.inr (Or.inl h)
    · rcases lt_trichotomy (weights.getD i 0) (weights.getD j 0) with hw | hw | hw
      · exact Or.inr (Or.inr ⟨h.symm, Or.inl hw⟩)
      · rcases Nat.le_total i j with hij | hij
        · exact Or.inl (Or.inr ⟨h, Or.inr ⟨hw, hij⟩⟩)
        · exact Or.inr (Or.inr ⟨h.symm, Or.inr ⟨hw.symm, hij⟩⟩)
      · exact Or.inl (Or.inr ⟨h, Or.inl hw⟩)
    · exact Or.inl (Or.inl h)

instance : IsTrans ℕ (BumpedBefore ideals weights) where
  trans i j k := by
    unfold BumpedBefore
    intro hij hjk
    grind

lemma bumpOrder_perm : (bumpOrder ideals weights).Perm (List.range weights.length) :=
  List.perm_insertionSort _ _

lemma bumpOrder_sorted :
    (bumpOrder ideals weights).Pairwise fun i j => remainderAt ideals j ≤ remainderAt ideals i := by
  apply (List.pairwise_insertionSort _ _).imp
  intro i j hij
  rcases hij with hlt | ⟨heq, _⟩
  · exact hlt.le
  · exact heq.ge

lemma nodup_bumpOrder : (bumpOrder ideals weights).Nodup :=
  (bumpOrder_perm ideals weights).nodup_iff.mpr List.nodup_range

lemma mem_bumpOrder {i : ℕ} : i ∈ bumpOrder ideals weights ↔ i < weights.length := by
  rw [(bumpOrder_perm ideals weights).mem_iff, List.mem_range]

end Order

/-! ## Integers -/

/-- `shares` give `total` away, to each its minimum and its share of what the minimums leave, up
to one unit. -/
structure Apportioned (total : ℕ) (weights : List ℚ) (minimums shares : List ℕ) : Prop where
  length : shares.length = weights.length
  sum : shares.sum = total
  least : ∀ i, minimums.getD i 0 ≤ shares.getD i 0
  near : ∀ i, |(shares.getD i 0 - minimums.getD i 0 : ℚ) -
    weights.getD i 0 / weights.sum * (total - minimums.sum)| < 1

section Integers

variable {total : ℕ} {weights : List ℚ} {minimums : List ℕ}

lemma map_max_eq_self (hpos : ∀ w ∈ weights, 0 < w) : weights.map (max 0) = weights := by
  conv_rhs => rw [← List.map_id weights]
  apply List.map_congr_left
  intro w hw
  exact max_eq_right (hpos w hw).le

section

variable (hne : weights ≠ []) (hpos : ∀ w ∈ weights, 0 < w)
include hne hpos

lemma sum_pos_of_pos : 0 < weights.sum :=
  List.sum_pos weights hpos hne

lemma weightTotal_eq :
    weightTotal weights = weights.sum :=
  if_neg (sum_pos_of_pos hne hpos).ne'

lemma idealExtras_nonneg (remainder : ℕ) :
    ∀ x ∈ idealExtras remainder weights, 0 ≤ x := by
  intro x hx
  obtain ⟨w, hw, rfl⟩ := List.mem_map.mp hx
  rw [weightTotal_eq hne hpos]
  have hsum := sum_pos_of_pos hne hpos
  have hweight := hpos w hw
  positivity

lemma sum_idealExtras (remainder : ℕ) :
    (idealExtras remainder weights).sum = remainder := by
  have hsum := sum_pos_of_pos hne hpos
  have hmap : idealExtras remainder weights =
      weights.map fun w => w * (remainder / weights.sum : ℚ) := by
    apply List.map_congr_left
    intro w _
    rw [weightTotal_eq hne hpos]
    ring
  rw [hmap, List.sum_map_mul_right, List.map_id']
  field_simp

end

lemma length_idealExtras (remainder : ℕ) :
    (idealExtras remainder weights).length = weights.length := List.length_map _

/-- What the rounded ideals leave is the sum of their remainders, one for each unit. -/
lemma leftover (hne : weights ≠ []) (hpos : ∀ w ∈ weights, 0 < w) (remainder : ℕ) :
    (baseExtras (idealExtras remainder weights)).sum ≤ remainder ∧
      ((bumpOrder (idealExtras remainder weights) weights).map
        (remainderAt (idealExtras remainder weights))).sum =
          ((remainder - (baseExtras (idealExtras remainder weights)).sum : ℕ) : ℚ) := by
  have hlength : (idealExtras remainder weights).length = weights.length :=
    length_idealExtras remainder
  have hsum := sum_remainderAt (idealExtras remainder weights)
  rw [sum_idealExtras hne hpos, hlength] at hsum
  have hnonneg : 0 ≤ ((List.range weights.length).map
      (remainderAt (idealExtras remainder weights))).sum := by
    apply List.sum_nonneg
    intro x hx
    obtain ⟨i, hi, rfl⟩ := List.mem_map.mp hx
    apply remainderAt_nonneg (idealExtras_nonneg hne hpos remainder)
    rw [hlength]
    exact List.mem_range.mp hi
  have hle : (baseExtras (idealExtras remainder weights)).sum ≤ remainder := by
    have hcast : ((baseExtras (idealExtras remainder weights)).sum : ℚ) ≤ remainder := by linarith
    exact_mod_cast hcast
  refine ⟨hle, ?_⟩
  rw [((bumpOrder_perm _ weights).map _).sum_eq, hsum, Nat.cast_sub hle]

/-- The minimums and the rounded ideals, before the units are given. -/
def roundedShares (remainder : ℕ) (weights : List ℚ) (minimums : List ℕ) : List ℕ :=
  List.zipWith (· + ·) minimums (baseExtras (idealExtras remainder weights))

/-- The places that get a unit. -/
def bumped (remainder : ℕ) (weights : List ℚ) : List ℕ :=
  (bumpOrder (idealExtras remainder weights) weights).take
    (remainder - (baseExtras (idealExtras remainder weights)).sum)

lemma apportionIntegerBudget_exact (hne : weights ≠ []) (hfit : minimums.sum = total) :
    apportionIntegerBudget total weights minimums = minimums := by
  unfold apportionIntegerBudget
  rw [if_neg hne, if_neg (by omega)]
  show (if total - minimums.sum = 0 then minimums else _) = minimums
  rw [if_pos (by omega)]

lemma apportionIntegerBudget_rest (hne : weights ≠ []) (hpos : ∀ w ∈ weights, 0 < w)
    (hfit : minimums.sum < total) :
    apportionIntegerBudget total weights minimums =
      addUnits (roundedShares (total - minimums.sum) weights minimums)
        (bumped (total - minimums.sum) weights) := by
  have hrest : total - minimums.sum ≠ 0 := by omega
  unfold apportionIntegerBudget
  rw [if_neg hne, if_neg (by omega)]
  simp only [if_neg hrest, map_max_eq_self hpos]
  rfl

lemma length_roundedShares (hlength : minimums.length = weights.length) (remainder : ℕ) :
    (roundedShares remainder weights minimums).length = weights.length := by
  unfold roundedShares
  rw [List.length_zipWith, length_baseExtras, length_idealExtras, hlength, min_self]

lemma sum_zipWith_add {a b : List ℕ} (hlength : a.length = b.length) :
    (List.zipWith (· + ·) a b).sum = a.sum + b.sum := by
  induction a generalizing b with
  | nil =>
    rw [List.length_nil, eq_comm, List.length_eq_zero_iff] at hlength
    rw [hlength]
    rfl
  | cons x a ih =>
    cases b with
    | nil => simp at hlength
    | cons y b =>
      have hrest := ih (b := b) (by simpa using hlength)
      simp only [List.zipWith_cons_cons, List.sum_cons, hrest]
      omega

lemma mem_bumped {remainder i : ℕ} (hi : i ∈ bumped remainder weights) : i < weights.length :=
  (mem_bumpOrder _ weights).mp (List.mem_of_mem_take hi)

section

variable (hne : weights ≠ []) (hpos : ∀ w ∈ weights, 0 < w)
include hne hpos

/-- There is a place for every unit. -/
lemma length_bumped (remainder : ℕ) :
    (bumped remainder weights).length =
      remainder - (baseExtras (idealExtras remainder weights)).sum := by
  unfold bumped
  rw [List.length_take]
  apply min_eq_left
  apply le_length_of_sum _ (leftover hne hpos remainder).2
  intro i hi
  apply remainderAt_lt_one
  rw [length_idealExtras]
  exact (mem_bumpOrder _ weights).mp hi

/-- Whoever gets a unit was rounded down. -/
lemma remainderAt_pos_of_bumped
    {remainder i : ℕ} (hi : i ∈ bumped remainder weights) :
    0 < remainderAt (idealExtras remainder weights) i := by
  apply pos_of_mem_take (bumpOrder_sorted _ weights) _ (leftover hne hpos remainder).2 hi
  intro j hj
  apply remainderAt_lt_one
  rw [length_idealExtras]
  exact (mem_bumpOrder _ weights).mp hj

lemma sum_apportioned
    (hlength : minimums.length = weights.length) (remainder : ℕ) :
    (addUnits (roundedShares remainder weights minimums) (bumped remainder weights)).sum =
      minimums.sum + remainder := by
  have hle := (leftover hne hpos remainder).1
  have hplaces : ∀ i ∈ bumped remainder weights,
      i < (roundedShares remainder weights minimums).length := by
    intro i hi
    rw [length_roundedShares hlength]
    exact mem_bumped hi
  have hbase : minimums.length = (baseExtras (idealExtras remainder weights)).length := by
    rw [length_baseExtras, length_idealExtras, hlength]
  rw [sum_addUnits hplaces, length_bumped hne hpos]
  unfold roundedShares
  rw [sum_zipWith_add hbase]
  omega

end

/-- A share is its minimum, the rounded ideal and, for the bumped, one more. -/
lemma getD_apportioned (hlength : minimums.length = weights.length) (remainder : ℕ) {i : ℕ}
    (hi : i < weights.length) :
    (addUnits (roundedShares remainder weights minimums) (bumped remainder weights)).getD i 0 =
      minimums.getD i 0 + ⌊weights.getD i 0 / weightTotal weights * remainder⌋₊ +
        if i ∈ bumped remainder weights then 1 else 0 := by
  have hmin : i < minimums.length := by rw [hlength]; exact hi
  have hideal : i < (idealExtras remainder weights).length := by
    rw [length_idealExtras]; exact hi
  have hbase : i < (baseExtras (idealExtras remainder weights)).length := by
    rw [length_baseExtras]; exact hideal
  have hcount : (bumped remainder weights).count i =
      if i ∈ bumped remainder weights then 1 else 0 := by
    have hnodup : (bumped remainder weights).Nodup :=
      (List.take_sublist _ _).nodup (nodup_bumpOrder _ weights)
    split
    · next hmem => exact List.count_eq_one_of_mem hnodup hmem
    · next hmem => exact List.count_eq_zero_of_not_mem hmem
  have hget : (roundedShares remainder weights minimums)[i]? =
      some (minimums[i] + ⌊weights[i] / weightTotal weights * remainder⌋₊) := by
    unfold roundedShares
    rw [List.getElem?_zipWith, List.getElem?_eq_getElem hmin, List.getElem?_eq_getElem hbase]
    simp only [baseExtras, idealExtras, List.getElem_map, Int.floor_toNat]
  rw [List.getD_eq_getElem?_getD, getElem?_addUnits, hget, hcount,
    List.getD_eq_getElem _ _ hmin, List.getD_eq_getElem _ _ hi]
  rfl

lemma near_of_rest (hne : weights ≠ []) (hpos : ∀ w ∈ weights, 0 < w) {i : ℕ}
    (hi : i < weights.length) (remainder : ℕ) :
    |(⌊weights.getD i 0 / weightTotal weights * remainder⌋₊ +
      (if i ∈ bumped remainder weights then 1 else 0 : ℕ) : ℚ) -
        weights.getD i 0 / weightTotal weights * remainder| < 1 := by
  have hideal : i < (idealExtras remainder weights).length := by
    rw [length_idealExtras]
    exact hi
  have hnonneg := remainderAt_nonneg (idealExtras_nonneg hne hpos remainder) hideal
  have hlt := remainderAt_lt_one hideal
  have hbumped : i ∈ bumped remainder weights →
      0 < remainderAt (idealExtras remainder weights) i := remainderAt_pos_of_bumped hne hpos
  rw [remainderAt_eq hideal] at hnonneg hlt hbumped
  simp only [idealExtras, List.getElem_map] at hnonneg hlt hbumped
  rw [List.getD_eq_getElem _ _ hi, abs_lt]
  by_cases hmem : i ∈ bumped remainder weights
  · -- a unit above the rounded ideal, which was not whole
    have hfraction := hbumped hmem
    rw [if_pos hmem]
    push_cast
    constructor <;> linarith
  · rw [if_neg hmem]
    push_cast
    constructor <;> linarith

/-- The largest remainders conserve the total. -/
theorem apportioned (hne : weights ≠ []) (hpos : ∀ w ∈ weights, 0 < w)
    (hlength : minimums.length = weights.length) (hfit : minimums.sum ≤ total) :
    Apportioned total weights minimums (apportionIntegerBudget total weights minimums) := by
  rcases hfit.eq_or_lt with hexact | hrest
  · rw [apportionIntegerBudget_exact hne hexact]
    refine ⟨hlength, hexact, fun i => le_rfl, fun i => ?_⟩
    rw [← hexact, sub_self, sub_self, mul_zero, sub_zero, abs_zero]
    exact zero_lt_one
  rw [apportionIntegerBudget_rest hne hpos hrest]
  have hshares : (addUnits (roundedShares (total - minimums.sum) weights minimums)
      (bumped (total - minimums.sum) weights)).length = weights.length := by
    rw [length_addUnits, length_roundedShares hlength]
  have hslack : ((total - minimums.sum : ℕ) : ℚ) = total - minimums.sum := Nat.cast_sub hfit
  refine ⟨hshares, ?_, fun i => ?_, fun i => ?_⟩
  · rw [sum_apportioned hne hpos hlength]
    omega
  · rcases Nat.lt_or_ge i weights.length with hi | hi
    · rw [getD_apportioned hlength _ hi]
      omega
    · rw [List.getD_eq_default _ _ (hlength.trans_le hi)]
      exact Nat.zero_le _
  · rcases Nat.lt_or_ge i weights.length with hi | hi
    · have hnear := near_of_rest hne hpos hi (total - minimums.sum)
      rw [getD_apportioned hlength _ hi, ← weightTotal_eq hne hpos, ← hslack]
      push_cast at hnear ⊢
      convert hnear using 2
      ring
    · rw [List.getD_eq_default _ _ (hlength.trans_le hi),
        List.getD_eq_default _ _ (hshares.trans_le hi), List.getD_eq_default _ _ hi]
      simp

end Integers

/-! ## Latency -/

variable {remaining : RemainingBudget} {weights minimums : List ℚ}

/-- Everything but the last share is rounded, and the last takes what the others left. -/
lemma splitLatency_conserves (total remainder : ℚ) {remaining : ℚ}
    (hlength : minimums.length = weights.length) (hne : weights ≠ []) (hnonneg : 0 ≤ remaining) :
    List.Forall₂ (· ≤ ·) minimums (splitLatency total remainder remaining weights minimums) ∧
      (splitLatency total remainder remaining weights minimums).sum =
        minimums.sum + remaining := by
  induction weights generalizing remaining minimums with
  | nil => exact absurd rfl hne
  | cons weight weights ih =>
    rcases minimums with _ | ⟨minimum, minimums⟩
    · simp at hlength
    have hlater : minimums.length = weights.length := by simpa using hlength
    rcases weights with _ | ⟨next, weights⟩
    · -- the last one
      rw [List.length_nil, List.length_eq_zero_iff] at hlater
      subst hlater
      refine ⟨.cons ?_ .nil, ?_⟩
      · exact le_add_of_nonneg_right (le_max_left _ _)
      · show minimum + max 0 remaining + 0 = minimum + 0 + remaining
        rw [max_eq_right hnonneg]
        ring
    · show List.Forall₂ _ _ ((minimum + min (max 0 (roundMicro (weight / total * remainder)))
        remaining) :: splitLatency total remainder (remaining - min (max 0 (roundMicro
          (weight / total * remainder))) remaining) (next :: weights) minimums) ∧
            List.sum (_ :: _) = _
      generalize hshare : min (max 0 (roundMicro (weight / total * remainder))) remaining = share
      have hshareNonneg : 0 ≤ share := by
        rw [← hshare]
        exact le_min (le_max_left _ _) hnonneg
      have hshareLe : share ≤ remaining := by
        rw [← hshare]
        exact min_le_right _ _
      obtain ⟨hleast, hsum⟩ := ih hlater (by simp) (sub_nonneg.mpr hshareLe)
      refine ⟨.cons (le_add_of_nonneg_right hshareNonneg) hleast, ?_⟩
      rw [List.sum_cons, hsum, List.sum_cons]
      ring

/-- Latencies that fit are shared out without going over the total. -/
theorem latency_apportioned {total : ℚ} (hne : weights ≠ [])
    (hlength : minimums.length = weights.length) (hfit : minimums.sum ≤ total + latencyTolerance) :
    List.Forall₂ (· ≤ ·) minimums (apportionLatencyBudget total weights minimums) ∧
      (apportionLatencyBudget total weights minimums).sum ≤ total + latencyTolerance := by
  unfold apportionLatencyBudget
  rw [if_neg hne, if_neg (not_lt.mpr hfit)]
  show List.Forall₂ _ _ (if max 0 (total - minimums.sum) ≤ latencyTolerance then minimums else _) ∧
    List.sum (if max 0 (total - minimums.sum) ≤ latencyTolerance then minimums else _) ≤ _
  have htolerance : (0 : ℚ) < latencyTolerance := by unfold latencyTolerance; norm_num
  by_cases hrest : max 0 (total - minimums.sum) ≤ latencyTolerance
  · rw [if_pos hrest]
    exact ⟨List.forall₂_refl _, hfit⟩
  · rw [if_neg hrest]
    have hslack : max 0 (total - minimums.sum) = total - minimums.sum := by
      apply max_eq_right
      by_contra hneg
      rw [max_eq_left (not_le.mp hneg).le] at hrest
      exact hrest htolerance.le
    have hlengths : minimums.length = (weights.map (max 0)).length := by
      rw [List.length_map, hlength]
    obtain ⟨hleast, hsum⟩ := splitLatency_conserves (weightTotal (weights.map (max 0)))
      (max 0 (total - minimums.sum)) hlengths (by simpa using hne) (le_max_left _ _)
    refine ⟨hleast, ?_⟩
    rw [hsum, hslack]
    linarith

/-! ## Launching -/

/-- The longest of the prefixes whose minimums fit. -/
structure LongestFitting (remaining : RemainingBudget) (specs launched : List BranchSpec) :
    Prop where
  initial : launched <+: specs
  fits : MinimumsFit remaining launched
  longest : ∀ longer, longer <+: specs → MinimumsFit remaining longer →
    longer.length ≤ launched.length

lemma minimumsFit_nil (hlatency : 0 ≤ remaining.latency) : MinimumsFit remaining [] := by
  refine ⟨Nat.zero_le _, Nat.zero_le _, ?_⟩
  show (0 : ℚ) ≤ remaining.latency + latencyTolerance
  unfold latencyTolerance
  linarith

lemma dropLast_isPrefix_of_lt {specs longer : List BranchSpec} (hstart : longer <+: specs)
    (hne : longer ≠ specs) : longer <+: specs.dropLast := by
  have hlength : longer.length < specs.length := by
    apply lt_of_le_of_ne hstart.length_le
    intro heq
    exact hne (hstart.eq_of_length heq)
  rw [List.prefix_iff_eq_take] at hstart ⊢
  rw [List.dropLast_eq_take, List.take_take, min_eq_left (by omega)]
  exact hstart

/-- Whoever is popped, the rest does not fit with it. -/
lemma popUnfit_longest (hlatency : 0 ≤ remaining.latency) {n : ℕ} {specs : List BranchSpec}
    (hn : specs.length ≤ n) : LongestFitting remaining specs (popUnfit remaining n specs) := by
  induction n generalizing specs with
  | zero =>
    have hnil : specs = [] := List.length_eq_zero_iff.mp (by omega)
    subst hnil
    exact ⟨List.prefix_rfl, minimumsFit_nil hlatency, fun longer hlonger _ => hlonger.length_le⟩
  | succ n ih =>
    rw [popUnfit]
    by_cases hpop : specs ≠ [] ∧ ¬MinimumsFit remaining specs
    · rw [if_pos hpop]
      have hrest : LongestFitting remaining specs.dropLast
          (popUnfit remaining n specs.dropLast) := by
        apply ih
        rw [List.length_dropLast]
        omega
      have hdrop := List.dropLast_prefix specs
      refine ⟨hrest.initial.trans hdrop, hrest.fits, ?_⟩
      intro longer hlonger hfits
      apply hrest.longest longer _ hfits
      apply dropLast_isPrefix_of_lt hlonger
      rintro rfl
      exact hpop.2 hfits
    · rw [if_neg hpop]
      refine ⟨List.prefix_rfl, ?_, fun longer hlonger _ => hlonger.length_le⟩
      by_contra hunfit
      apply hpop ⟨?_, hunfit⟩
      rintro rfl
      exact hunfit (minimumsFit_nil hlatency)

/-- A branch has its minimums, and beyond them its proportional share of what all the minimums
leave, up to one call and one check. -/
structure Funded (remaining : RemainingBudget) (specs : List BranchSpec) (spec : BranchSpec)
    (plan : BranchPlan) : Prop where
  worker : plan.assignedNodeIds = spec.worker.opIds
  predictedSolve : plan.predictedSolve = spec.worker.predictedSolve
  calls_least : spec.minCalls ≤ plan.reservedBudget.modelCallsMax
  calls_near : |(plan.reservedBudget.modelCallsMax - spec.minCalls : ℚ) -
    spec.weight / (specs.map (·.weight)).sum *
      (remaining.calls - (specs.map (·.minCalls)).sum)| < 1
  checks_least : spec.minChecks ≤ plan.reservedBudget.checksMax
  checks_near : |(plan.reservedBudget.checksMax - spec.minChecks : ℚ) -
    spec.weight / (specs.map (·.weight)).sum *
      (remaining.checks - (specs.map (·.minChecks)).sum)| < 1
  latency_least : spec.minLatency ≤ plan.reservedBudget.latencyMax

/-- The branches of these specs have what is left, and are the longest prefix of the ranked
workers that it can carry. -/
structure Conserved (remaining : RemainingBudget) (ranked specs : List BranchSpec)
    (plans : List BranchPlan) : Prop where
  longest : LongestFitting remaining ranked specs
  funded : List.Forall₂ (Funded remaining specs) specs plans
  calls : plans ≠ [] → (plans.map (·.reservedBudget.modelCallsMax)).sum = remaining.calls
  checks : plans ≠ [] → (plans.map (·.reservedBudget.checksMax)).sum = remaining.checks
  latency : (plans.map (·.reservedBudget.latencyMax)).sum ≤ remaining.latency + latencyTolerance

section Launching

variable {minimumModelCalls : BranchWorker → ℕ} {minimumLatency : BranchWorker → ℚ}

variable {remaining : RemainingBudget} {workers : List BranchWorker}

lemma launchableSpecs_longest (hlatency : 0 ≤ remaining.latency) (workers : List BranchWorker) :
    LongestFitting remaining
      ((rankedWorkers workers).map (branchSpec minimumModelCalls minimumLatency))
      (launchableSpecs minimumModelCalls minimumLatency remaining workers) :=
  popUnfit_longest hlatency le_rfl

variable {specs : List BranchSpec}

/-- No weight is below a hundredth. -/
lemma weight_pos_of_initial
    (hstart : specs <+: workers.map (branchSpec minimumModelCalls minimumLatency)) :
    ∀ w ∈ specs.map (·.weight), 0 < w := by
  intro w hw
  obtain ⟨spec, hspec, rfl⟩ := List.mem_map.mp hw
  obtain ⟨worker, _, rfl⟩ := List.mem_map.mp (hstart.subset hspec)
  apply lt_of_lt_of_le _ (le_max_left _ _)
  norm_num

lemma getD_map_of_lt {α β : Type} {specs : List α} {i : ℕ} (hi : i < specs.length) (f : α → β)
    (d : β) : (specs.map f).getD i d = f (specs.get ⟨i, hi⟩) := by
  rw [List.getD_eq_getElem _ _ (by rwa [List.length_map]), List.getElem_map]
  rfl

/-- The `index`th plan holds the `index`th share. -/
lemma map_mapIdx_getD {α β γ : Type} {specs : List α} {shares : List β} {d : β}
    {plan : ℕ → α → γ} {share : γ → β} (hlength : shares.length = specs.length)
    (hshare : ∀ index spec, share (plan index spec) = shares.getD index d) :
    (specs.mapIdx plan).map share = shares := by
  apply List.ext_getElem
  · rw [List.length_map, List.length_mapIdx, hlength]
  · intro i _ hi
    rw [List.getElem_map, List.getElem_mapIdx, hshare, List.getD_eq_getElem _ _ hi]

lemma launchableBranchPlans_nil {allow : Bool}
    (hnil : launchableSpecs minimumModelCalls minimumLatency remaining workers = []) :
    launchableBranchPlans minimumModelCalls minimumLatency allow remaining workers = [] :=
  if_pos (Or.inl hnil)

lemma launchableBranchPlans_cons {allow : Bool}
    (hspecs : launchableSpecs minimumModelCalls minimumLatency remaining workers = specs)
    {calls checks : List ℕ} {latencies : List ℚ}
    (hcalls : apportionIntegerBudget remaining.calls (specs.map (·.weight))
      (specs.map (·.minCalls)) = calls)
    (hchecks : apportionIntegerBudget remaining.checks (specs.map (·.weight))
      (specs.map (·.minChecks)) = checks)
    (hlatencies : apportionLatencyBudget remaining.latency (specs.map (·.weight))
      (specs.map (·.minLatency)) = latencies)
    (hne : ¬(specs = [] ∨ calls = [] ∨ checks = [] ∨ latencies = [])) :
    launchableBranchPlans minimumModelCalls minimumLatency allow remaining workers =
      specs.mapIdx fun index spec =>
        { branchId := spec.worker.workerId.getD ("branch_" ++ toString index)
          assignedNodeIds := spec.worker.opIds
          mergePriority := index
          predictedSolve := spec.worker.predictedSolve
          reservedBudget :=
            { modelCallsMax := calls.getD index 0
              checksMax := checks.getD index 0
              latencyMax := latencies.getD index 0
              allowToolSynthesis := allow } } := by
  unfold launchableBranchPlans
  simp only [hspecs, hcalls, hchecks, hlatencies]
  rw [if_neg hne]

/-- Launched branches share out what is left of the run's budget. -/
theorem branch_budgets_conserved (minimumModelCalls : BranchWorker → ℕ)
    (minimumLatency : BranchWorker → ℚ) (allowToolSynthesis : Bool)
    {remaining : RemainingBudget} (workers : List BranchWorker)
    (hlatency : 0 ≤ remaining.latency) :
    Conserved remaining
      ((rankedWorkers workers).map (branchSpec minimumModelCalls minimumLatency))
      (launchableSpecs minimumModelCalls minimumLatency remaining workers)
      (launchableBranchPlans minimumModelCalls minimumLatency allowToolSynthesis remaining
        workers) := by
  have hlongest : LongestFitting remaining
      ((rankedWorkers workers).map (branchSpec minimumModelCalls minimumLatency))
      (launchableSpecs minimumModelCalls minimumLatency remaining workers) :=
    launchableSpecs_longest hlatency workers
  generalize hspecs : launchableSpecs minimumModelCalls minimumLatency remaining workers = specs
    at hlongest ⊢
  have hpos := weight_pos_of_initial hlongest.initial
  obtain ⟨hfitCalls, hfitChecks, hfitLatency⟩ := hlongest.fits
  by_cases hnil : specs = []
  · -- nothing is launched
    rw [launchableBranchPlans_nil (hspecs.trans hnil)]
    refine ⟨hlongest, hnil ▸ .nil, fun h => absurd rfl h, fun h => absurd rfl h, ?_⟩
    rw [hnil] at hfitLatency
    exact hfitLatency
  have hne : specs.map (·.weight) ≠ [] := by simpa using hnil
  have hlengths {α : Type} (f : BranchSpec → α) :
      (specs.map f).length = (specs.map (·.weight)).length := by
    rw [List.length_map, List.length_map]
  have hcalls := apportioned hne hpos (hlengths (·.minCalls)) hfitCalls
  have hchecks := apportioned hne hpos (hlengths (·.minChecks)) hfitChecks
  have hlatencies := latency_apportioned hne (hlengths (·.minLatency)) hfitLatency
  generalize hcallShares : apportionIntegerBudget remaining.calls (specs.map (·.weight))
    (specs.map (·.minCalls)) = calls at hcalls
  generalize hcheckShares : apportionIntegerBudget remaining.checks (specs.map (·.weight))
    (specs.map (·.minChecks)) = checks at hchecks
  generalize hlatencyShares : apportionLatencyBudget remaining.latency (specs.map (·.weight))
    (specs.map (·.minLatency)) = latencies at hlatencies
  have hcallsLength : calls.length = specs.length := by rw [hcalls.length, List.length_map]
  have hchecksLength : checks.length = specs.length := by rw [hchecks.length, List.length_map]
  have hlatenciesLength : latencies.length = specs.length := by
    rw [← hlatencies.1.length_eq, List.length_map]
  have hall : ¬(specs = [] ∨ calls = [] ∨ checks = [] ∨ latencies = []) := by
    have hlength := List.length_pos_iff.mpr hnil
    simp only [← List.length_eq_zero_iff]
    omega
  rw [launchableBranchPlans_cons hspecs hcallShares hcheckShares hlatencyShares hall]
  refine ⟨hlongest, ?_, fun _ => ?_, fun _ => ?_, ?_⟩
  · rw [List.forall₂_iff_get]
    refine ⟨by rw [List.length_mapIdx], fun i hi hplan => ?_⟩
    have hshare : i < latencies.length := by rwa [hlatenciesLength]
    have hleast := (List.forall₂_iff_get.mp hlatencies.1).2 i (by simpa using hi) hshare
    have hcallLeast := hcalls.least i
    have hcallNear := hcalls.near i
    have hcheckLeast := hchecks.least i
    have hcheckNear := hchecks.near i
    rw [getD_map_of_lt hi] at hcallLeast hcallNear hcheckLeast hcheckNear
    rw [getD_map_of_lt hi] at hcallNear hcheckNear
    simp only [List.get_eq_getElem, List.getElem_map, List.getElem_mapIdx] at hleast ⊢
    refine ⟨rfl, rfl, hcallLeast, hcallNear, hcheckLeast, hcheckNear, ?_⟩
    show _ ≤ latencies.getD i 0
    rw [List.getD_eq_getElem _ _ hshare]
    exact hleast
  · exact (congrArg List.sum (map_mapIdx_getD hcallsLength fun _ _ => rfl)).trans hcalls.sum
  · exact (congrArg List.sum (map_mapIdx_getD hchecksLength fun _ _ => rfl)).trans hchecks.sum
  · exact (congrArg List.sum (map_mapIdx_getD hlatenciesLength fun _ _ => rfl)).trans_le
      hlatencies.2

end Launching

/-- Two workers, the likelier one with the larger minimums. -/
def solvers : List BranchWorker :=
  [{ workerId := some "worker_b", predictedSolve := 1 / 4, opIds := ["verify_b"] },
    { workerId := some "worker_a", predictedSolve := 3 / 5, opIds := ["solve_a", "verify_a"] }]

def callsOf (worker : BranchWorker) : ℕ := worker.opIds.length

def latencyOf (worker : BranchWorker) : ℚ := 2 * worker.opIds.length

theorem branch_budgets_conserved_solvers :
    Conserved ⟨10, 3, 15 / 2⟩ ((rankedWorkers solvers).map (branchSpec callsOf latencyOf))
      (launchableSpecs callsOf latencyOf ⟨10, 3, 15 / 2⟩ solvers)
      (launchableBranchPlans callsOf latencyOf true ⟨10, 3, 15 / 2⟩ solvers) :=
  branch_budgets_conserved callsOf latencyOf true solvers (by norm_num)

example : (launchableBranchPlans callsOf latencyOf true ⟨10, 3, 15 / 2⟩ solvers).map
    (fun plan => (plan.branchId, plan.reservedBudget.modelCallsMax,
      plan.reservedBudget.checksMax)) = [("worker_a", 7, 2), ("worker_b", 3, 1)] := by
  decide +kernel

/-- Where not even the first worker fits, no branch has the calls that are left. -/
theorem nothing_launched :
    ¬∀ (minimumModelCalls : BranchWorker → ℕ) (minimumLatency : BranchWorker → ℚ)
      (allowToolSynthesis : Bool) (remaining : RemainingBudget) (workers : List BranchWorker),
      (∀ worker ∈ workers, 0 ≤ minimumLatency worker) → 0 ≤ remaining.latency →
        ((launchableBranchPlans minimumModelCalls minimumLatency allowToolSynthesis remaining
          workers).map (·.reservedBudget.modelCallsMax)).sum = remaining.calls := by
  intro h
  have hnone : ((launchableBranchPlans (fun _ => 6) (fun _ => 0) true ⟨5, 0, 0⟩ solvers).map
      (·.reservedBudget.modelCallsMax)).sum = 0 := by decide +kernel
  have hall := h (fun _ => 6) (fun _ => 0) true ⟨5, 0, 0⟩ solvers (fun _ _ => le_rfl) le_rfl
  rw [hnone] at hall
  exact absurd hall (by decide)

end Agintor.Kernel
