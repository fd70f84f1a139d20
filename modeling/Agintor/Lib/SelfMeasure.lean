import Mathlib.Data.Nat.Basic
import Mathlib.Logic.Function.Iterate
import Mathlib.Order.Monotone.Basic
import Mathlib.Tactic.Ring

/-!
# Numbers that measure a text they are written in

A number is computed from the length of a text, and its numeral is part of that text. Writing it in
can make the text longer and so change the number. Measured again and again from zero, the number
stays the same from the third time on: the text grows by a digit once at most.
-/

namespace Lib

/-- The number of characters of a decimal numeral. -/
def numeralLength (n : ℕ) : ℕ := (Nat.toDigits 10 n).length

lemma numeralLength_pos (n : ℕ) : 0 < numeralLength n := Nat.length_toDigits_pos

lemma numeralLength_le_iff {n k : ℕ} (hk : 0 < k) : numeralLength n ≤ k ↔ n < 10 ^ k :=
  Nat.length_toDigits_le_iff (by omega) hk

lemma numeralLength_mono : Monotone numeralLength := by
  intro m n hmn
  rw [numeralLength_le_iff (numeralLength_pos n)]
  have hn := (numeralLength_le_iff (numeralLength_pos n)).mp (le_refl (numeralLength n))
  omega

lemma lt_pow_numeralLength (n : ℕ) : n < 10 ^ numeralLength n :=
  (numeralLength_le_iff (numeralLength_pos n)).mp le_rfl

@[simp] lemma numeralLength_zero : numeralLength 0 = 1 := by decide

/-- A longer text measures more, and one more character counts for one at most. -/
structure Gauge (measure : ℕ → ℕ) : Prop where
  mono : Monotone measure
  succ_le : ∀ n, measure (n + 1) ≤ measure n + 1

namespace Gauge

variable {measure : ℕ → ℕ} (h : Gauge measure)

include h in
lemma add_le (n k : ℕ) : measure (n + k) ≤ measure n + k := by
  induction k with
  | zero => exact le_rfl
  | succ k ih =>
    have hstep := h.succ_le (n + k)
    show measure (n + k + 1) ≤ measure n + (k + 1)
    omega

/-- The measure of a text with `rest` characters and the numeral of `n`. -/
def remeasure (measure : ℕ → ℕ) (rest n : ℕ) : ℕ := measure (rest + numeralLength n)

variable (rest : ℕ)

include h in
lemma remeasure_mono : Monotone (remeasure measure rest) := by
  intro m n hmn
  have hlength := numeralLength_mono hmn
  exact h.mono (by omega)

lemma remeasure_congr {m n : ℕ} (hlength : numeralLength m = numeralLength n) :
    remeasure measure rest m = remeasure measure rest n := by
  unfold remeasure
  rw [hlength]

include h in
/-- What a numeral longer than one digit adds. -/
lemma remeasure_le (n : ℕ) :
    remeasure measure rest n + 1 ≤ remeasure measure rest 0 + numeralLength n := by
  have hpos := numeralLength_pos n
  have hadd := h.add_le (rest + 1) (numeralLength n - 1)
  have hsum : rest + 1 + (numeralLength n - 1) = rest + numeralLength n := by omega
  rw [hsum] at hadd
  show measure (rest + numeralLength n) + 1 ≤ measure (rest + numeralLength 0) + numeralLength n
  rw [numeralLength_zero]
  omega

include h in
/-- The third number measures itself. -/
theorem remeasure_settles :
    (remeasure measure rest)^[4] 0 = (remeasure measure rest)^[3] 0 := by
  let e₁ := remeasure measure rest 0
  let e₂ := remeasure measure rest e₁
  let e₃ := remeasure measure rest e₂
  have h12 : e₁ ≤ e₂ := h.remeasure_mono rest (Nat.zero_le e₁)
  have h23 : e₂ ≤ e₃ := h.remeasure_mono rest h12
  have hd12 : numeralLength e₁ ≤ numeralLength e₂ := numeralLength_mono h12
  have hd23 : numeralLength e₂ ≤ numeralLength e₃ := numeralLength_mono h23
  have hlt₁ := lt_pow_numeralLength e₁
  have hle₂ : e₂ + 1 ≤ e₁ + numeralLength e₁ := h.remeasure_le rest e₁
  have hle₃ : e₃ + 1 ≤ e₁ + numeralLength e₂ := h.remeasure_le rest e₂
  have hpow : 10 ^ (numeralLength e₁ + 1) = 10 * 10 ^ numeralLength e₁ := by ring
  have hself : numeralLength e₁ < 10 ^ numeralLength e₁ := Nat.lt_pow_self (by omega)
  -- a second digit more would need a number ten times the first
  have hd2 : numeralLength e₂ ≤ numeralLength e₁ + 1 := by
    rw [numeralLength_le_iff (by omega)]
    omega
  have hd3 : numeralLength e₃ = numeralLength e₂ := by
    rcases Nat.lt_or_ge (numeralLength e₁) (numeralLength e₂) with hlt | hge
    · have heq : numeralLength e₂ = numeralLength e₁ + 1 := by omega
      have hle : numeralLength e₃ ≤ numeralLength e₁ + 1 := by
        rw [numeralLength_le_iff (by omega)]
        omega
      omega
    · have heq : numeralLength e₂ = numeralLength e₁ := by omega
      have hsame : e₃ = e₂ := remeasure_congr rest heq
      rw [hsame]
  show remeasure measure rest e₃ = remeasure measure rest e₂
  exact remeasure_congr rest hd3

end Gauge

end Lib
