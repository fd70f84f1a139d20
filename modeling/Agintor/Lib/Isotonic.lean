import Mathlib.Algebra.BigOperators.Group.List.Basic
import Mathlib.Algebra.Order.BigOperators.Group.List
import Mathlib.Algebra.Order.Field.Basic
import Mathlib.Tactic.Linarith
import Mathlib.Tactic.Ring

/-!
# Pooled runs

A run of values is pooled to its mean when no beginning of the run has a smaller mean. Two pooled
runs of which the first has the larger mean pool together, and among all nondecreasing lists the
mean of a pooled run has the least squared error.
-/

namespace Lib

variable {K : Type} [Field K]

/-! ## The squared error -/

/-- The squared error of `gs` as values for `ys`. -/
def sqError (ys gs : List K) : K := (List.zipWith (fun y g => (y - g) ^ 2) ys gs).sum

@[simp] lemma sqError_cons (y g : K) (ys gs : List K) :
    sqError (y :: ys) (g :: gs) = (y - g) ^ 2 + sqError ys gs := rfl

variable {ys gs : List K}

lemma sqError_append (hlength : ys.length = gs.length) (ys' gs' : List K) :
    sqError (ys ++ ys') (gs ++ gs') = sqError ys gs + sqError ys' gs' := by
  unfold sqError
  rw [List.zipWith_append hlength, List.sum_append]

/-- The squared error around a common value. -/
lemma sqError_expand (hlength : ys.length = gs.length) (mean : K) :
    sqError ys gs = sqError ys (List.replicate ys.length mean) +
      (gs.map fun g => (mean - g) ^ 2).sum + 2 * mean * (ys.map (· - mean)).sum -
        2 * (List.zipWith (· * ·) (ys.map (· - mean)) gs).sum := by
  induction ys generalizing gs with
  | nil =>
    rw [List.length_nil, eq_comm, List.length_eq_zero_iff] at hlength
    simp [hlength]
  | cons y ys ih =>
    rcases gs with _ | ⟨g, gs⟩
    · simp at hlength
    rw [List.length_cons, List.replicate_succ, sqError_cons, sqError_cons,
      ih (by simpa using hlength)]
    simp only [List.map_cons, List.sum_cons, List.zipWith_cons_cons]
    ring

lemma sum_map_sub (ys : List K) (mean : K) :
    (ys.map (· - mean)).sum = ys.sum - ys.length * mean := by
  induction ys with
  | nil => simp
  | cons y ys ih =>
    rw [List.map_cons, List.sum_cons, ih, List.sum_cons, List.length_cons]
    push_cast
    ring

/-! ## Pooling -/

variable [LinearOrder K]

/-- The mean of a run is at most the mean of each of its beginnings. -/
structure Pooled (ys : List K) (mean : K) : Prop where
  ne_nil : ys ≠ []
  sum_eq : ys.sum = ys.length * mean
  le_sum_take : ∀ k, (ys.take k).length * mean ≤ (ys.take k).sum

lemma pooled_singleton (y : K) : Pooled [y] y where
  ne_nil := by simp
  sum_eq := by simp
  le_sum_take k := by
    cases k with
    | zero => simp
    | succ k => simp

variable [IsStrictOrderedRing K]

section Append

variable {ys zs : List K} {a b mean : K}

/-- What is left of a pooled run has no larger mean. -/
lemma Pooled.sum_drop_le (h : Pooled zs b) (k : ℕ) :
    (zs.drop k).sum ≤ (zs.drop k).length * b := by
  have hsum := congrArg List.sum (List.take_append_drop k zs)
  have hlength := congrArg List.length (List.take_append_drop k zs)
  rw [List.sum_append] at hsum
  rw [List.length_append] at hlength
  have htake := h.le_sum_take k
  have htotal := h.sum_eq
  rw [← hlength] at htotal
  push_cast at htotal
  linarith

/-- The mean of two runs together lies between their means. -/
lemma mean_between (hys : Pooled ys a) (hzs : Pooled zs b) (hlt : b < a)
    (hmean : (ys ++ zs).sum = (ys ++ zs).length * mean) : b ≤ mean ∧ mean ≤ a := by
  have hn : (0 : K) < ys.length := by
    exact_mod_cast List.length_pos_iff.mpr hys.ne_nil
  have hm : (0 : K) < zs.length := by
    exact_mod_cast List.length_pos_iff.mpr hzs.ne_nil
  rw [List.sum_append, List.length_append, hys.sum_eq, hzs.sum_eq] at hmean
  push_cast at hmean
  constructor
  · by_contra hnot
    have hbelow : mean < b := not_le.mp hnot
    have h₁ : ys.length * mean < ys.length * a :=
      mul_lt_mul_of_pos_left (hbelow.trans hlt) hn
    have h₂ : zs.length * mean < zs.length * b := mul_lt_mul_of_pos_left hbelow hm
    linarith
  · by_contra hnot
    have habove : a < mean := not_le.mp hnot
    have h₁ : ys.length * a < ys.length * mean := mul_lt_mul_of_pos_left habove hn
    have h₂ : zs.length * b < zs.length * mean := mul_lt_mul_of_pos_left (hlt.trans habove) hm
    linarith

/-- Pooling two runs that are in the wrong order. -/
theorem Pooled.append (hys : Pooled ys a) (hzs : Pooled zs b) (hlt : b < a)
    (hmean : (ys ++ zs).sum = (ys ++ zs).length * mean) : Pooled (ys ++ zs) mean := by
  obtain ⟨hb, ha⟩ := mean_between hys hzs hlt hmean
  refine ⟨by simp [hys.ne_nil], hmean, fun k => ?_⟩
  rcases Nat.le_total k ys.length with hk | hk
  · -- a beginning of the first run
    rw [List.take_append_of_le_length hk]
    have htake := hys.le_sum_take k
    have hle : (ys.take k).length * mean ≤ (ys.take k).length * a :=
      mul_le_mul_of_nonneg_left ha (Nat.cast_nonneg _)
    linarith
  · -- all but an end of the second run
    have hsplit : (ys ++ zs).take k ++ zs.drop (k - ys.length) = ys ++ zs := by
      rw [List.take_append, List.take_of_length_le hk, List.append_assoc,
        List.take_append_drop]
    have hsum := congrArg List.sum hsplit
    have hlength : ((ys ++ zs).take k).length + (zs.drop (k - ys.length)).length =
        (ys ++ zs).length := by
      rw [← List.length_append, hsplit]
    rw [List.sum_append] at hsum
    have hdrop := hzs.sum_drop_le (k - ys.length)
    have hle : (zs.drop (k - ys.length)).length * b ≤ (zs.drop (k - ys.length)).length * mean :=
      mul_le_mul_of_nonneg_left hb (Nat.cast_nonneg _)
    rw [hmean, ← hlength] at hsum
    push_cast at hsum
    linarith

end Append

/-! ## The least squared error -/

/-- Summation by parts: deviations whose partial sums are not negative, and that cancel out, do not
correlate with a nondecreasing list. -/
lemma sum_mul_nonpos {ds gs : List K} {c g : K} (hlength : ds.length = gs.length)
    (hsums : ∀ k, 0 ≤ c + (ds.take k).sum) (htotal : c + ds.sum = 0)
    (hmono : (g :: gs).Pairwise (· ≤ ·)) : c * g + (List.zipWith (· * ·) ds gs).sum ≤ 0 := by
  induction ds generalizing gs c g with
  | nil =>
    rw [List.sum_nil, add_zero] at htotal
    simp [htotal]
  | cons d ds ih =>
    rcases gs with _ | ⟨next, gs⟩
    · simp at hlength
    have hc : 0 ≤ c := by simpa using hsums 0
    have hrest : (c + d) * next + (List.zipWith (· * ·) ds gs).sum ≤ 0 := by
      apply ih (by simpa using hlength)
      · intro k
        have hk := hsums (k + 1)
        rw [List.take_succ_cons, List.sum_cons] at hk
        linarith
      · rw [List.sum_cons] at htotal
        linarith
      · exact (List.pairwise_cons.mp hmono).2
    have hnext : g ≤ next := (List.pairwise_cons.mp hmono).1 next List.mem_cons_self
    have hle : c * g ≤ c * next := mul_le_mul_of_nonneg_left hnext hc
    rw [List.zipWith_cons_cons, List.sum_cons]
    linarith

/-- No nondecreasing list is closer to a pooled run than its mean. -/
theorem Pooled.sqError_le {mean : K} (h : Pooled ys mean) (hlength : ys.length = gs.length)
    (hmono : gs.Pairwise (· ≤ ·)) : sqError ys (List.replicate ys.length mean) ≤ sqError ys gs := by
  have hzero : (ys.map (· - mean)).sum = 0 := by rw [sum_map_sub, h.sum_eq, sub_self]
  have hcross : (List.zipWith (· * ·) (ys.map (· - mean)) gs).sum ≤ 0 := by
    rcases gs with _ | ⟨g, gs⟩
    · simp
    have hsums : ∀ k, 0 ≤ 0 + ((ys.map (· - mean)).take k).sum := by
      intro k
      rw [zero_add, ← List.map_take, sum_map_sub]
      exact sub_nonneg.mpr (h.le_sum_take k)
    have hagain : (g :: g :: gs).Pairwise (· ≤ ·) := by
      apply List.pairwise_cons.mpr ⟨?_, hmono⟩
      intro next hnext
      rcases List.mem_cons.mp hnext with rfl | hlater
      · exact le_rfl
      · exact (List.pairwise_cons.mp hmono).1 next hlater
    have hparts := sum_mul_nonpos (by rwa [List.length_map]) hsums
      (by rw [zero_add, hzero]) hagain
    rwa [zero_mul, zero_add] at hparts
  have hsquares : 0 ≤ (gs.map fun g => (mean - g) ^ 2).sum := by
    apply List.sum_nonneg
    intro x hx
    obtain ⟨g, _, rfl⟩ := List.mem_map.mp hx
    exact sq_nonneg _
  rw [sqError_expand hlength mean, hzero]
  linarith

end Lib
