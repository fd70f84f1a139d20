import Agintor.Learning.Calibration
import Mathlib.Order.Bounds.Basic

/-!
# Theorems about the calibration

Every block stands for a run of the sorted pairs, pooled to its mean label. The loop keeps this and
keeps the values nondecreasing up to its index.
-/

namespace Agintor.Learning

open Lib

/-! ## Sorted pairs -/

lemma exists_last_of_mem {α : Type} {runs : List (List (α × α))} {xs : List α}
    (hxs : xs.map some = runs.map fun run => run.getLast?.map (·.1)) {x : α}
    (hx : x ∈ xs) : ∃ run ∈ runs, ∃ p, run.getLast? = some p ∧ p.1 = x := by
  have hsome : some x ∈ xs.map some := List.mem_map_of_mem hx
  rw [hxs] at hsome
  obtain ⟨run, hrun, hlast⟩ := List.mem_map.mp hsome
  exact ⟨run, hrun, Option.map_eq_some_iff.mp hlast⟩

section Pairs

variable {α : Type} [LinearOrder α] {runs : List (List (α × α))} {xs : List α}

lemma sortedPairs_perm (scores labels : List α) :
    (sortedPairs scores labels).Perm (scores.zip labels) := List.perm_insertionSort _ _

lemma pairwise_sortedPairs (scores labels : List α) :
    (sortedPairs scores labels).Pairwise fun p q => p.1 ≤ q.1 := by
  have htotal : Std.Total fun p q : α × α => p.1 ≤ q.1 := ⟨fun p q => le_total p.1 q.1⟩
  have htrans : IsTrans (α × α) fun p q => p.1 ≤ q.1 := ⟨fun _ _ _ => le_trans⟩
  exact List.pairwise_insertionSort _ _

/-- The last scores of consecutive runs of sorted pairs. -/
lemma pairwise_last (hsorted : runs.flatten.Pairwise fun p q => p.1 ≤ q.1)
    (hxs : xs.map some = runs.map fun run => run.getLast?.map (·.1)) :
    xs.Pairwise (· ≤ ·) := by
  induction runs generalizing xs with
  | nil =>
    rw [List.map_nil, List.map_eq_nil_iff] at hxs
    rw [hxs]
    exact List.Pairwise.nil
  | cons run runs ih =>
    rcases xs with _ | ⟨x, xs⟩
    · exact List.Pairwise.nil
    rw [List.map_cons, List.map_cons, List.cons.injEq] at hxs
    rw [List.flatten_cons, List.pairwise_append] at hsorted
    refine List.pairwise_cons.mpr ⟨fun later hlater => ?_, ih hsorted.2.1 hxs.2⟩
    obtain ⟨p, hp, rfl⟩ := Option.map_eq_some_iff.mp hxs.1.symm
    obtain ⟨run', hrun', q, hq, rfl⟩ := exists_last_of_mem hxs.2 hlater
    exact hsorted.2.2 p (List.mem_of_getLast? hp) q
      (List.mem_flatten.mpr ⟨run', hrun', List.mem_of_getLast? hq⟩)

lemma le_of_getLast {run : List (α × α)} (hsorted : run.Pairwise fun p q => p.1 ≤ q.1)
    {p last : α × α} (hlast : run.getLast? = some last) (hp : p ∈ run) : p.1 ≤ last.1 := by
  obtain ⟨before, rfl⟩ := List.getLast?_eq_some_iff.mp hlast
  rcases List.mem_append.mp hp with hbefore | heq
  · exact (List.pairwise_append.mp hsorted).2.2 p hbefore last (List.mem_singleton.mpr rfl)
  · rw [List.mem_singleton.mp heq]

/-- The greatest score is the last score of its run. -/
lemma greatest_mem_last (hsorted : runs.flatten.Pairwise fun p q => p.1 ≤ q.1)
    (hxs : xs.map some = runs.map fun run => run.getLast?.map (·.1)) {greatest : α}
    (hgreatest : IsGreatest {score | ∃ p ∈ runs.flatten, p.1 = score} greatest) :
    greatest ∈ xs := by
  obtain ⟨⟨p, hp, rfl⟩, hupper⟩ := hgreatest
  obtain ⟨run, hrun, hmem⟩ := List.mem_flatten.mp hp
  have hsome : run.getLast?.map (·.1) ∈ xs.map some := by
    rw [hxs]
    exact List.mem_map_of_mem (f := fun run : List (α × α) => run.getLast?.map (·.1)) hrun
  obtain ⟨x, hx, hx_eq⟩ := List.mem_map.mp hsome
  obtain ⟨last, hlast, rfl⟩ := Option.map_eq_some_iff.mp hx_eq.symm
  have hle := le_of_getLast (hsorted.sublist (List.sublist_flatten_of_mem hrun)) hlast hmem
  have hge : last.1 ≤ p.1 := by
    apply hupper
    exact ⟨last, List.mem_flatten.mpr ⟨run, hrun, List.mem_of_getLast? hlast⟩, rfl⟩
  rwa [le_antisymm hle hge]

/-- The first point at or above a score comes before all the others. -/
lemma exists_find_of_mem {points : List (α × α)} {q : α × α} {score : α}
    (hsorted : points.Pairwise fun p q => p.2 ≤ q.2) (hq : q ∈ points) (hle : score ≤ q.1) :
    ∃ p ∈ points, (points.find? fun point => score ≤ point.1) = some p ∧ p.2 ≤ q.2 := by
  induction points with
  | nil => exact absurd hq (List.not_mem_nil)
  | cons p points ih =>
    by_cases hp : score ≤ p.1
    · refine ⟨p, List.mem_cons_self, List.find?_cons_of_pos (decide_eq_true hp), ?_⟩
      rcases List.mem_cons.mp hq with rfl | hlater
      · exact le_rfl
      · exact (List.pairwise_cons.mp hsorted).1 q hlater
    · rcases List.mem_cons.mp hq with rfl | hlater
      · exact absurd hle hp
      · obtain ⟨found, hmem, hfind, hle⟩ := ih (List.pairwise_cons.mp hsorted).2 hlater
        refine ⟨found, List.mem_cons_of_mem _ hmem, ?_, hle⟩
        rw [List.find?_cons_of_neg (by simpa using hp), hfind]

end Pairs

variable {K : Type} [Field K] [LinearOrder K]

/-! ## The runs of the blocks -/

/-- The mean label of a run. -/
def meanLabel (run : List (K × K)) : K := (run.map (·.2)).sum / run.length

structure StandsFor (run : List (K × K)) (block : Block K) : Prop where
  weight_eq : block.weight = run.length
  pooled : Pooled (run.map (·.2)) block.value
  last_eq : run.getLast?.map (·.1) = some block.last

/-- The blocks stand for consecutive runs of the pairs. -/
inductive Represents : List (List (K × K)) → List (Block K) → Prop
  | nil : Represents [] []
  | cons {run : List (K × K)} {block : Block K} {runs : List (List (K × K))}
      {blocks : List (Block K)} (head : StandsFor run block) (tail : Represents runs blocks) :
      Represents (run :: runs) (block :: blocks)

lemma represents_singletons (pairs : List (K × K)) :
    Represents (pairs.map ([·])) (pairs.map fun p => ⟨p.1, p.1, p.2, 1⟩) := by
  induction pairs with
  | nil => exact .nil
  | cons p pairs ih => exact .cons ⟨rfl, pooled_singleton p.2, rfl⟩ ih

variable {run : List (K × K)} {block : Block K}

lemma StandsFor.ne_nil (h : StandsFor run block) : run ≠ [] := by
  intro hnil
  apply h.pooled.ne_nil
  rw [hnil, List.map_nil]

lemma flatten_singletons {α : Type} (pairs : List α) : (pairs.map ([·])).flatten = pairs := by
  induction pairs with
  | nil => rfl
  | cons p pairs ih => rw [List.map_cons, List.flatten_cons, ih, List.singleton_append]

/-! ## The values of the loop -/

/-- The values up to the index of the loop, read backwards, do not increase. -/
def SortedUpTo (before rest : List (Block K)) : Prop :=
  (rest.head?.toList ++ before).Pairwise fun later earlier => earlier.value ≤ later.value

lemma pairwise_poolBlocks (before rest : List (Block K)) (h : SortedUpTo before rest) :
    (poolBlocks before rest).Pairwise fun a b => a.value ≤ b.value := by
  fun_induction poolBlocks before rest with
  | case1 a b rest hlt ih => exact ih (List.pairwise_singleton _ _)
  | case2 a b rest hle ih =>
    apply ih
    apply List.pairwise_cons.mpr ⟨?_, List.pairwise_singleton _ _⟩
    intro earlier hearlier
    rw [List.mem_singleton.mp hearlier]
    exact not_lt.mp hle
  | case3 c before a b rest hlt ih => exact ih (List.pairwise_cons.mp h).2
  | case4 c before a b rest hle ih =>
    apply ih
    have hab : a.value ≤ b.value := not_lt.mp hle
    refine List.pairwise_cons.mpr ⟨?_, h⟩
    intro earlier hearlier
    rcases List.mem_cons.mp hearlier with rfl | hbefore
    · exact hab
    · exact ((List.pairwise_cons.mp h).1 earlier hbefore).trans hab
  | case5 before rest hnil hcons =>
    rcases rest with _ | ⟨a, _ | ⟨b, rest⟩⟩
    · rw [List.append_nil]
      exact List.pairwise_reverse.mpr h
    · have hreversed := List.pairwise_reverse.mpr h
      simpa using hreversed
    · rcases before with _ | ⟨c, before⟩
      · exact (hnil a b rest rfl rfl).elim
      · exact (hcons c before a b rest rfl rfl).elim

/-! ## The fitted values -/

/-- Each pair of a run has the `y` of the run. -/
def fittedValues (runs : List (List (K × K))) (ys : List K) : List K :=
  (List.zipWith (fun run y => List.replicate run.length y) runs ys).flatten

section Fitted

variable {runs : List (List (K × K))} {blocks : List (Block K)}

lemma fittedValues_cons {α : Type} (run : List (α × α)) (tail : List (List (α × α))) (y : α)
    (ys : List α) : fittedValues (run :: tail) (y :: ys) =
      List.replicate run.length y ++ fittedValues tail ys := rfl

lemma Represents.length_fittedValues (h : Represents runs blocks) :
    (fittedValues runs (blocks.map (·.value))).length = runs.flatten.length := by
  induction h with
  | nil => rfl
  | cons hhead _ ih =>
    rw [List.map_cons, fittedValues_cons, List.length_append, ih, List.length_replicate,
      List.flatten_cons, List.length_append]

lemma Represents.sum_fittedValues (h : Represents runs blocks) :
    (fittedValues runs (blocks.map (·.value))).sum = (runs.flatten.map (·.2)).sum := by
  induction h with
  | nil => rfl
  | cons hhead _ ih =>
    rw [List.map_cons, fittedValues_cons, List.sum_append, ih, List.flatten_cons, List.map_append,
      List.sum_append, hhead.pooled.sum_eq, List.sum_replicate, nsmul_eq_mul, List.length_map]

omit [Field K] [LinearOrder K] in
lemma mem_fittedValues {y : K} {ys : List K} (h : y ∈ fittedValues runs ys) : y ∈ ys := by
  induction runs generalizing ys with
  | nil => simp [fittedValues] at h
  | cons run runs ih =>
    rcases ys with _ | ⟨head, ys⟩
    · simp [fittedValues] at h
    rw [fittedValues_cons, List.mem_append] at h
    rcases h with hhead | htail
    · rw [List.eq_of_mem_replicate hhead]
      exact List.mem_cons_self
    · exact List.mem_cons_of_mem _ (ih htail)

omit [Field K] in
lemma pairwise_fittedValues {ys : List K} (h : ys.Pairwise (· ≤ ·)) :
    (fittedValues runs ys).Pairwise (· ≤ ·) := by
  induction runs generalizing ys with
  | nil => exact List.Pairwise.nil
  | cons run runs ih =>
    rcases ys with _ | ⟨head, ys⟩
    · exact List.Pairwise.nil
    rw [fittedValues_cons, List.pairwise_append]
    refine ⟨List.pairwise_replicate.mpr (Or.inr le_rfl), ih (List.pairwise_cons.mp h).2, ?_⟩
    intro y hy later hlater
    rw [List.eq_of_mem_replicate hy]
    exact (List.pairwise_cons.mp h).1 later (mem_fittedValues hlater)

lemma Represents.ne_nil (h : Represents runs blocks) : ∀ run ∈ runs, run ≠ [] := by
  induction h with
  | nil => simp
  | cons hhead _ ih =>
    intro run hrun
    rcases List.mem_cons.mp hrun with rfl | htail
    · exact hhead.ne_nil
    · exact ih run htail

lemma Represents.map_last (h : Represents runs blocks) :
    (blocks.map (·.last)).map some = runs.map fun run => run.getLast?.map (·.1) := by
  induction h with
  | nil => rfl
  | cons hhead _ ih => rw [List.map_cons, List.map_cons, List.map_cons, ih, hhead.last_eq]

end Fitted

/-! ## Prediction -/

omit [LinearOrder K] in
lemma getLastD_mem {ys : List K} (h : ys ≠ []) : ys.getLastD 0 ∈ ys := by
  rw [List.getLastD_eq_getLast?, List.getLast?_eq_getLast_of_ne_nil h]
  exact List.getLast_mem h

lemma le_getLastD {ys : List K} (hsorted : ys.Pairwise (· ≤ ·)) {y : K} (hy : y ∈ ys) :
    y ≤ ys.getLastD 0 := by
  have hne := List.ne_nil_of_mem hy
  rw [List.getLastD_eq_getLast?, List.getLast?_eq_getLast_of_ne_nil hne]
  rw [← List.dropLast_concat_getLast hne, List.mem_append] at hy
  rcases hy with hbefore | hlast
  · rw [← List.dropLast_concat_getLast hne, List.pairwise_append] at hsorted
    exact hsorted.2.2 y hbefore _ (List.mem_singleton.mpr rfl)
  · exact (List.mem_singleton.mp hlast).le

lemma monotone_clip : Monotone fun score : K => clip score 0 1 := by
  intro score score' hle
  exact max_le_max le_rfl (min_le_min le_rfl hle)

lemma isotonicPredict_mem {xs ys : List K} (hlength : xs.length = ys.length) (hne : ys ≠ [])
    (score : K) : isotonicPredict xs ys score ∈ ys := by
  have hxs : xs ≠ [] := by
    intro hnil
    rw [hnil, List.length_nil, eq_comm, List.length_eq_zero_iff] at hlength
    exact hne hlength
  rw [isotonicPredict, if_neg hxs]
  cases hfind : (xs.zip ys).find? fun point => score ≤ point.1 with
  | none => exact getLastD_mem hne
  | some point => exact (List.of_mem_zip (List.mem_of_find?_eq_some hfind)).2

theorem isotonicPredict_mono {xs ys : List K} (hlength : xs.length = ys.length)
    (hsorted : ys.Pairwise (· ≤ ·)) : Monotone (isotonicPredict xs ys) := by
  intro score score' hle
  by_cases hxs : xs = []
  · rw [isotonicPredict, isotonicPredict, if_pos hxs, if_pos hxs]
    exact monotone_clip hle
  have hys : ys ≠ [] := by
    intro hnil
    rw [hnil, List.length_nil, List.length_eq_zero_iff] at hlength
    exact hxs hlength
  have hpoints : (xs.zip ys).Pairwise fun p q => p.2 ≤ q.2 := by
    have hmap : ((xs.zip ys).map Prod.snd).Pairwise (· ≤ ·) := by
      rwa [List.map_snd_zip hlength.ge]
    exact List.pairwise_map.mp hmap
  rw [isotonicPredict, if_neg hxs, isotonicPredict, if_neg hxs]
  cases hfind' : (xs.zip ys).find? fun point => score' ≤ point.1 with
  | none =>
    -- the higher score lies past every point
    have hmem := isotonicPredict_mem hlength hys score
    rw [isotonicPredict, if_neg hxs] at hmem
    exact le_getLastD hsorted hmem
  | some q =>
    have hq : score' ≤ q.1 := by simpa using List.find?_some hfind'
    obtain ⟨p, _, hfind, hpq⟩ := exists_find_of_mem hpoints (List.mem_of_find?_eq_some hfind')
      (hle.trans hq)
    rw [hfind]
    exact hpq

/-! ## Merging -/

variable [IsStrictOrderedRing K]

lemma StandsFor.length_pos (h : StandsFor run block) : (0 : K) < run.length := by
  exact_mod_cast List.length_pos_iff.mpr h.ne_nil

lemma StandsFor.value_eq (h : StandsFor run block) : block.value = meanLabel run := by
  have hsum := h.pooled.sum_eq
  rw [List.length_map] at hsum
  rw [meanLabel, hsum, mul_div_cancel_left₀ _ h.length_pos.ne']

lemma StandsFor.merge {run₁ run₂ : List (K × K)} {a b : Block K} (h₁ : StandsFor run₁ a)
    (h₂ : StandsFor run₂ b) (hlt : b.value < a.value) :
    StandsFor (run₁ ++ run₂) (mergeBlocks a b) where
  weight_eq := by
    rw [List.length_append, ← h₁.weight_eq, ← h₂.weight_eq]
    rfl
  pooled := by
    rw [List.map_append]
    apply h₁.pooled.append h₂.pooled hlt
    have hpos : (0 : K) < (run₁.length + run₂.length : ℕ) := by
      push_cast
      exact add_pos h₁.length_pos h₂.length_pos
    have hvalue : (mergeBlocks a b).value =
        (a.value * run₁.length + b.value * run₂.length) / (run₁.length + run₂.length : ℕ) := by
      rw [← h₁.weight_eq, ← h₂.weight_eq]
      rfl
    rw [List.sum_append, h₁.pooled.sum_eq, h₂.pooled.sum_eq, hvalue, List.length_append,
      List.length_map, List.length_map, mul_div_cancel₀ _ hpos.ne']
    ring
  last_eq := by
    rw [List.getLast?_append_of_ne_nil _ h₂.ne_nil]
    exact h₂.last_eq

lemma Represents.merge {before rest : List (Block K)} {a b : Block K}
    {runs : List (List (K × K))} (h : Represents runs (before ++ a :: b :: rest))
    (hlt : b.value < a.value) :
    ∃ runs', runs'.flatten = runs.flatten ∧
      Represents runs' (before ++ mergeBlocks a b :: rest) := by
  induction before generalizing runs with
  | nil =>
    rcases h with _ | ⟨h₁, _ | ⟨h₂, htail⟩⟩
    exact ⟨_, by simp, .cons (h₁.merge h₂ hlt) htail⟩
  | cons c before ih =>
    rcases h with _ | ⟨hhead, htail⟩
    obtain ⟨runs', hflatten, hrepresents⟩ := ih htail
    exact ⟨_ :: runs', by simp [hflatten], .cons hhead hrepresents⟩

/-! ## The loop -/

lemma represents_poolBlocks (before rest : List (Block K)) (runs : List (List (K × K)))
    (h : Represents runs (before.reverse ++ rest)) :
    ∃ runs', runs'.flatten = runs.flatten ∧ Represents runs' (poolBlocks before rest) := by
  fun_induction poolBlocks before rest generalizing runs with
  | case1 a b rest hlt ih =>
    obtain ⟨merged, hflatten, hmerged⟩ := h.merge hlt
    obtain ⟨runs', hruns', hrepresents⟩ := ih merged hmerged
    exact ⟨runs', hruns'.trans hflatten, hrepresents⟩
  | case2 a b rest hle ih => exact ih runs h
  | case3 c before a b rest hlt ih =>
    obtain ⟨merged, hflatten, hmerged⟩ := h.merge hlt
    rw [List.reverse_cons, List.append_assoc, List.singleton_append] at hmerged
    obtain ⟨runs', hruns', hrepresents⟩ := ih merged hmerged
    exact ⟨runs', hruns'.trans hflatten, hrepresents⟩
  | case4 c before a b rest hle ih =>
    apply ih
    rw [List.reverse_cons, List.append_assoc, List.singleton_append]
    exact h
  | case5 before rest => exact ⟨runs, rfl, h⟩

/-! ## The least squared error -/

section Blocks

variable {runs : List (List (K × K))} {blocks : List (Block K)}

lemma Represents.map_value (h : Represents runs blocks) :
    blocks.map (·.value) = runs.map meanLabel := by
  induction h with
  | nil => rfl
  | cons hhead _ ih => rw [List.map_cons, List.map_cons, ih, hhead.value_eq]

/-- The fitted values have the least squared error, run by run. -/
lemma Represents.sqError_le (h : Represents runs blocks) {gs : List K}
    (hlength : gs.length = runs.flatten.length) (hmono : gs.Pairwise (· ≤ ·)) :
    sqError (runs.flatten.map (·.2)) (fittedValues runs (blocks.map (·.value))) ≤
      sqError (runs.flatten.map (·.2)) gs := by
  induction h generalizing gs with
  | nil => exact le_rfl
  | @cons run block runs blocks hhead _ ih =>
    rw [List.flatten_cons, List.length_append] at hlength
    have htake : (gs.take run.length).length = run.length := by
      rw [List.length_take]
      omega
    have hdrop : (gs.drop run.length).length = runs.flatten.length := by
      rw [List.length_drop]
      omega
    have htake' : (run.map (·.2)).length = (gs.take run.length).length := by
      rw [htake, List.length_map]
    have hrun := hhead.pooled.sqError_le htake' (hmono.sublist (List.take_sublist _ _))
    have hrest := ih hdrop (hmono.sublist (List.drop_sublist _ _))
    rw [List.length_map] at hrun
    rw [List.map_cons, fittedValues_cons, List.flatten_cons, List.map_append,
      sqError_append (by rw [List.length_map, List.length_replicate])]
    rw [← List.take_append_drop run.length gs,
      sqError_append (by rw [List.length_map, htake])]
    exact add_le_add hrun hrest

end Blocks

/-! ## The calibration -/

lemma meanLabel_le {bound : K} (hne : run ≠ []) (hbound : ∀ p ∈ run, p.2 ≤ bound) :
    meanLabel run ≤ bound := by
  have hpos : (0 : K) < run.length := by
    exact_mod_cast List.length_pos_iff.mpr hne
  have hlabels : ∀ label ∈ run.map (·.2), label ≤ bound := by
    intro label hlabel
    obtain ⟨p, hp, rfl⟩ := List.mem_map.mp hlabel
    exact hbound p hp
  have hsum := List.sum_le_card_nsmul (run.map (·.2)) bound hlabels
  rw [List.length_map, nsmul_eq_mul] at hsum
  exact (div_le_iff₀' hpos).mpr hsum

lemma le_meanLabel {bound : K} (hne : run ≠ []) (hbound : ∀ p ∈ run, bound ≤ p.2) :
    bound ≤ meanLabel run := by
  have hpos : (0 : K) < run.length := by
    exact_mod_cast List.length_pos_iff.mpr hne
  have hlabels : ∀ label ∈ run.map (·.2), bound ≤ label := by
    intro label hlabel
    obtain ⟨p, hp, rfl⟩ := List.mem_map.mp hlabel
    exact hbound p hp
  have hsum := List.card_nsmul_le_sum (run.map (·.2)) bound hlabels
  rw [List.length_map, nsmul_eq_mul] at hsum
  exact (le_div_iff₀' hpos).mpr hsum

/-- The points `fit` are an isotonic regression of the labels on the scores. -/
structure IsotonicRegression (scores labels : List K) (runs : List (List (K × K)))
    (fit : List K × List K) : Prop where
  /-- the runs are consecutive runs of the sorted pairs -/
  perm : runs.flatten.Perm (scores.zip labels)
  sorted : runs.flatten.Pairwise fun p q => p.1 ≤ q.1
  nonempty : ∀ run ∈ runs, run ≠ []
  /-- the points are the last score and the mean label of each run -/
  xs_eq : fit.1.map some = runs.map fun run => run.getLast?.map (·.1)
  ys_eq : fit.2 = runs.map meanLabel
  xs_sorted : fit.1.Pairwise (· ≤ ·)
  ys_sorted : fit.2.Pairwise (· ≤ ·)
  greatest_mem : ∀ greatest, IsGreatest {score | ∃ p ∈ scores.zip labels, p.1 = score} greatest →
    greatest ∈ fit.1
  /-- the fitted values are nondecreasing, keep the sum and have the least squared error -/
  fitted_sorted : (fittedValues runs fit.2).Pairwise (· ≤ ·)
  fitted_length : (fittedValues runs fit.2).length = (scores.zip labels).length
  sum_eq : (fittedValues runs fit.2).sum = ((scores.zip labels).map (·.2)).sum
  least_error : ∀ gs : List K, gs.length = (scores.zip labels).length → gs.Pairwise (· ≤ ·) →
    sqError (runs.flatten.map (·.2)) (fittedValues runs fit.2) ≤
      sqError (runs.flatten.map (·.2)) gs
  predict_mono : Monotone (isotonicPredict fit.1 fit.2)
  predict_between : ∀ least greatest,
    IsLeast {label | ∃ p ∈ scores.zip labels, p.2 = label} least →
    IsGreatest {label | ∃ p ∈ scores.zip labels, p.2 = label} greatest →
    ∀ score, least ≤ isotonicPredict fit.1 fit.2 score ∧
      isotonicPredict fit.1 fit.2 score ≤ greatest

/-- The fit is an isotonic regression. The loop ends because each pass shortens the blocks before
the index and twice the rest together. -/
theorem isotonic_regression (scores labels : List K) :
    ∃ runs, IsotonicRegression scores labels runs (monotonicIsotonicFit scores labels) := by
  obtain ⟨runs, hflatten, hrepresents⟩ := represents_poolBlocks []
    ((sortedPairs scores labels).map fun p => ⟨p.1, p.1, p.2, 1⟩)
    ((sortedPairs scores labels).map ([·])) (represents_singletons _)
  rw [flatten_singletons] at hflatten
  have hvalues : ((fittedBlocks scores labels).map (·.value)).Pairwise (· ≤ ·) := by
    apply List.pairwise_map.mpr
    apply pairwise_poolBlocks
    unfold SortedUpTo
    rw [List.append_nil]
    cases (List.map _ (sortedPairs scores labels)).head? with
    | none => exact List.Pairwise.nil
    | some block => exact List.pairwise_singleton _ _
  have hperm : runs.flatten.Perm (scores.zip labels) := by
    rw [hflatten]
    exact sortedPairs_perm scores labels
  have hsorted : runs.flatten.Pairwise fun p q => p.1 ≤ q.1 := by
    rw [hflatten]
    exact pairwise_sortedPairs scores labels
  have hys : (monotonicIsotonicFit scores labels).2 = runs.map meanLabel := hrepresents.map_value
  have hlength : (monotonicIsotonicFit scores labels).1.length =
      (monotonicIsotonicFit scores labels).2.length := by
    rw [monotonicIsotonicFit, List.length_map, List.length_map]
  refine ⟨runs, hperm, hsorted, hrepresents.ne_nil, hrepresents.map_last, hys,
    pairwise_last hsorted hrepresents.map_last, hvalues, ?_, pairwise_fittedValues hvalues,
    ?_, ?_, ?_, isotonicPredict_mono hlength hvalues, ?_⟩
  · intro greatest hgreatest
    apply greatest_mem_last hsorted hrepresents.map_last
    simpa only [hperm.mem_iff] using hgreatest
  · rw [← hperm.length_eq]
    exact hrepresents.length_fittedValues
  · rw [← (hperm.map (·.2)).sum_eq]
    exact hrepresents.sum_fittedValues
  · intro gs hgs hmono
    rw [← hperm.length_eq] at hgs
    exact hrepresents.sqError_le hgs hmono
  · intro least greatest hleast hgreatest score
    have hne : (monotonicIsotonicFit scores labels).2 ≠ [] := by
      obtain ⟨⟨p, hp, _⟩, _⟩ := hleast
      intro hnil
      rw [hys, List.map_eq_nil_iff] at hnil
      rw [hnil, List.flatten_nil] at hperm
      exact List.not_mem_nil (hperm.symm.subset hp)
    have hmem := isotonicPredict_mem hlength hne score
    rw [hys] at hmem
    obtain ⟨run, hrun, hvalue⟩ := List.mem_map.mp hmem
    rw [← hys] at hvalue
    rw [← hvalue]
    have hpairs : ∀ p ∈ run, p ∈ scores.zip labels := by
      intro p hp
      exact hperm.subset (List.mem_flatten.mpr ⟨run, hrun, hp⟩)
    constructor
    · apply le_meanLabel (hrepresents.ne_nil run hrun)
      intro p hp
      exact hleast.2 ⟨p, hpairs p hp, rfl⟩
    · apply meanLabel_le (hrepresents.ne_nil run hrun)
      intro p hp
      exact hgreatest.2 ⟨p, hpairs p hp, rfl⟩

/-- Scores out of order with labels that pool. -/
theorem isotonic_regression_rationals :
    ∃ runs, IsotonicRegression [3, 1, 2, (4 : ℚ)] [0, 0, 1, 1] runs
      (monotonicIsotonicFit [3, 1, 2, 4] [0, 0, 1, 1]) :=
  isotonic_regression _ _

end Agintor.Learning
