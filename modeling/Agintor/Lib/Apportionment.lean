import Mathlib.Algebra.Order.BigOperators.Group.List
import Mathlib.Algebra.Order.Floor.Ring
import Mathlib.Data.List.Count
import Mathlib.Data.List.Sort
import Mathlib.Data.Rat.Floor
import Mathlib.Tactic.Linarith

/-!
# Largest remainders

Amounts that add up to a whole number are rounded down; what is left goes, one unit each, to the
largest remainders. The units are never more than the remainders that are positive.
-/

namespace Lib

variable {ι : Type}

section Order

variable {f : ι → ℚ} {order : List ι} {k : ℕ}

/-- Remainders below one need as many places as their sum. -/
lemma le_length_of_sum (hlt : ∀ i ∈ order, f i < 1) (hsum : (order.map f).sum = k) :
    k ≤ order.length := by
  have hle := List.sum_le_card_nsmul (order.map f) 1 (by
    intro x hx
    obtain ⟨i, hi, rfl⟩ := List.mem_map.mp hx
    exact (hlt i hi).le)
  rw [hsum, List.length_map, nsmul_eq_mul, mul_one] at hle
  exact_mod_cast hle

/-- In descending order, as many remainders as their sum are positive. -/
theorem pos_of_mem_take (hsorted : order.Pairwise fun i j => f j ≤ f i)
    (hlt : ∀ i ∈ order, f i < 1) (hsum : (order.map f).sum = k) {i : ι}
    (hi : i ∈ order.take k) : 0 < f i := by
  by_contra hnot
  -- split the order at `i`: from there on every remainder is zero
  obtain ⟨before, after, hsplit⟩ := List.mem_iff_append.mp hi
  have horder : order = before ++ i :: (after ++ order.drop k) := by
    rw [← List.cons_append, ← List.append_assoc, ← hsplit, List.take_append_drop]
  have hshort : before.length < k := by
    have hlength := congrArg List.length hsplit
    rw [List.length_append, List.length_cons] at hlength
    have htake := List.length_take_le k order
    omega
  rw [horder] at hsorted hsum hlt
  have hrest : ∀ j ∈ i :: (after ++ order.drop k), f j ≤ 0 := by
    intro j hj
    rcases List.mem_cons.mp hj with rfl | hlater
    · exact not_lt.mp hnot
    · have hpair := (List.pairwise_append.mp hsorted).2.1
      exact ((List.pairwise_cons.mp hpair).1 j hlater).trans (not_lt.mp hnot)
  have hbefore := List.sum_le_card_nsmul (before.map f) 1 (by
    intro x hx
    obtain ⟨j, hj, rfl⟩ := List.mem_map.mp hx
    exact (hlt j (List.mem_append_left _ hj)).le)
  have hafter := List.sum_le_card_nsmul ((i :: (after ++ order.drop k)).map f) 0 (by
    intro x hx
    obtain ⟨j, hj, rfl⟩ := List.mem_map.mp hx
    exact hrest j hj)
  rw [List.length_map, nsmul_eq_mul, mul_one] at hbefore
  rw [nsmul_eq_mul, mul_zero] at hafter
  rw [List.map_append, List.sum_append] at hsum
  have hle : (k : ℚ) ≤ before.length := by linarith
  have hnat : k ≤ before.length := by exact_mod_cast hle
  omega

end Order

/-! ## Units to places -/

/-- One more at each of these places. -/
def addUnits (amounts : List ℕ) (places : List ℕ) : List ℕ :=
  places.foldl (fun amounts i => amounts.modify i (· + 1)) amounts

@[simp] lemma addUnits_cons (amounts : List ℕ) (i : ℕ) (places : List ℕ) :
    addUnits amounts (i :: places) = addUnits (amounts.modify i (· + 1)) places := rfl

@[simp] lemma length_addUnits (amounts places : List ℕ) :
    (addUnits amounts places).length = amounts.length := by
  induction places generalizing amounts with
  | nil => rfl
  | cons i places ih => rw [addUnits_cons, ih, List.length_modify]

lemma getElem?_addUnits (amounts places : List ℕ) (j : ℕ) :
    (addUnits amounts places)[j]? = amounts[j]?.map (· + places.count j) := by
  induction places generalizing amounts with
  | nil => simp [addUnits]
  | cons i places ih =>
    rw [addUnits_cons, ih, List.getElem?_modify, List.count_cons]
    by_cases hij : i = j
    · subst hij
      cases amounts[i]? with
      | none => rfl
      | some a => simp [Nat.add_comm, Nat.add_left_comm]
    · cases amounts[j]? <;> simp [hij]

lemma sum_modify_succ {amounts : List ℕ} {i : ℕ} (hi : i < amounts.length) :
    (amounts.modify i (· + 1)).sum = amounts.sum + 1 := by
  induction amounts generalizing i with
  | nil => simp at hi
  | cons a amounts ih =>
    cases i with
    | zero =>
      simp only [List.modify_zero_cons, List.sum_cons]
      omega
    | succ i =>
      have hrest := ih (i := i) (by simpa using hi)
      simp only [List.modify_succ_cons, List.sum_cons, hrest]
      omega

lemma sum_addUnits {amounts places : List ℕ} (h : ∀ i ∈ places, i < amounts.length) :
    (addUnits amounts places).sum = amounts.sum + places.length := by
  induction places generalizing amounts with
  | nil => rfl
  | cons i places ih =>
    have hrest : (addUnits (amounts.modify i (· + 1)) places).sum =
        (amounts.modify i (· + 1)).sum + places.length := by
      apply ih
      intro j hj
      rw [List.length_modify]
      exact h j (List.mem_cons_of_mem i hj)
    rw [addUnits_cons, hrest, sum_modify_succ (h i List.mem_cons_self), List.length_cons]
    omega

end Lib
