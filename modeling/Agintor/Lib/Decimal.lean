import Mathlib.Data.Nat.Basic
import Mathlib.Data.List.Basic
import Mathlib.Tactic.Ring
import Mathlib.Tactic.Linarith

/-!
# Zero-padded decimals

`zeroPad w n` is the decimal numeral of `n`, padded on the left with zeros to at least `w`
digits (the format `{n:0wd}`). It is injective in `n` for every width, and below `10 ^ w`
the lexicographic order of the numerals is the order of the numbers.
-/

namespace Lib

/-- The digits of `n`, with leading zeros up to `w` characters. -/
def zeroPadChars (w n : ℕ) : List Char :=
  List.replicate (w - (Nat.toDigits 10 n).length) '0' ++ Nat.toDigits 10 n

/-- `f"{n:0wd}"`. -/
def zeroPad (w n : ℕ) : String := String.ofList (zeroPadChars w n)

/-- `f"{i:0wd}"` for any integer: the sign counts as a character. -/
def zeroPadInt (w : ℕ) : ℤ → String
  | .ofNat n => zeroPad w n
  | .negSucc n => "-" ++ zeroPad (w - 1) (n + 1)

@[simp] theorem toList_zeroPad (w n : ℕ) : (zeroPad w n).toList = zeroPadChars w n :=
  String.toList_ofList

/-- Reading a padded numeral back gives the number. -/
theorem ofDigitChars_zeroPadChars (w n : ℕ) : Nat.ofDigitChars 10 (zeroPadChars w n) 0 = n := by
  rw [zeroPadChars, Nat.ofDigitChars_append, Nat.ofDigitChars_replicate_zero, Nat.mul_zero,
    Nat.ofDigitChars_ten_toDigits]

theorem zeroPadChars_injective (w : ℕ) : Function.Injective (zeroPadChars w) := by
  intro m n h
  rw [← ofDigitChars_zeroPadChars w m, h, ofDigitChars_zeroPadChars]

theorem zeroPad_injective (w : ℕ) : Function.Injective (zeroPad w) := fun m n h =>
  zeroPadChars_injective w (by simpa using congrArg String.toList h)

variable {w m n : ℕ} {c : Char}

theorem isDigit_of_mem_zeroPadChars {w n : ℕ} (h : c ∈ zeroPadChars w n) : c.isDigit := by
  rcases List.mem_append.mp h with hz | hd
  · rw [(List.mem_replicate.mp hz).2]
    decide
  · exact Nat.isDigit_of_mem_toDigits (by decide) (by decide) hd

/-- A number below `10 ^ w` fills exactly `w` characters. -/
theorem length_zeroPadChars {w n : ℕ} (hw : 0 < w) (h : n < 10 ^ w) :
    (zeroPadChars w n).length = w := by
  have hlen := (Nat.length_toDigits_le_iff (b := 10) (by decide) hw).mpr h
  rw [zeroPadChars, List.length_append, List.length_replicate]
  omega

/-- A padded numeral ends at the first character that is no digit. -/
theorem zeroPadChars_append_inj {c d : Char} (hc : c.isDigit = false) (hd : d.isDigit = false)
    {s t : List Char} (h : zeroPadChars w m ++ c :: s = zeroPadChars w n ++ d :: t) :
    m = n ∧ c = d ∧ s = t := by
  have hprefix : ∀ (k : ℕ) (x : Char) (l : List Char), x.isDigit = false →
      (zeroPadChars w k ++ x :: l).takeWhile Char.isDigit = zeroPadChars w k := by
    intro k x l hx
    rw [List.takeWhile_append_of_pos fun d hd => isDigit_of_mem_zeroPadChars hd,
      List.takeWhile_cons_of_neg (by rw [hx]; decide), List.append_nil]
  have hmn : zeroPadChars w m = zeroPadChars w n := by
    rw [← hprefix m c s hc, h, hprefix n d t hd]
  rw [hmn, List.append_cancel_left_eq, List.cons.injEq] at h
  exact ⟨zeroPadChars_injective w hmn, h⟩

theorem zeroPadChars_append_cons_inj (hc : c.isDigit = false) {s t : List Char}
    (h : zeroPadChars w m ++ c :: s = zeroPadChars w n ++ c :: t) : m = n ∧ s = t := by
  obtain ⟨hmn, -, hst⟩ := zeroPadChars_append_inj hc hc h
  exact ⟨hmn, hst⟩

/-! ## Order of numerals -/

theorem isDigit_toNat (h : c.isDigit) : 48 ≤ c.toNat ∧ c.toNat ≤ 57 := by
  simp only [Char.isDigit, Bool.and_eq_true, decide_eq_true_eq] at h
  exact ⟨UInt32.le_iff_toNat_le.mp h.1, UInt32.le_iff_toNat_le.mp h.2⟩

theorem ofDigitChars_cons_zero (c : Char) (l : List Char) :
    Nat.ofDigitChars 10 (c :: l) 0 = 10 ^ l.length * (c.toNat - 48) + Nat.ofDigitChars 10 l 0 := by
  rw [Nat.ofDigitChars_cons, Nat.ofDigitChars_eq_ofDigitChars_zero, Nat.mul_zero, Nat.zero_add]
  rfl

theorem ofDigitChars_lt {l : List Char} (h : ∀ c ∈ l, c.isDigit) :
    Nat.ofDigitChars 10 l 0 < 10 ^ l.length := by
  induction l with
  | nil => simp
  | cons c l ih =>
    have hc := isDigit_toNat (h c List.mem_cons_self)
    have hl := ih fun d hd => h d (List.mem_cons_of_mem _ hd)
    rw [ofDigitChars_cons_zero, List.length_cons, pow_succ]
    have hle : 10 ^ l.length * (c.toNat - 48) ≤ 10 ^ l.length * 9 :=
      Nat.mul_le_mul_left _ (by omega)
    omega

/-- Digit strings of one length are ordered like the numbers they denote, whatever follows
them. -/
theorem append_lt_append_of_ofDigitChars_lt {a b : List Char} (s t : List Char)
    (hlen : a.length = b.length) (ha : ∀ c ∈ a, c.isDigit) (hb : ∀ c ∈ b, c.isDigit)
    (h : Nat.ofDigitChars 10 a 0 < Nat.ofDigitChars 10 b 0) : a ++ s < b ++ t := by
  induction a generalizing b with
  | nil =>
    obtain rfl : b = [] := List.length_eq_zero_iff.mp hlen.symm
    simp at h
  | cons x a ih =>
    cases b with
    | nil => simp at hlen
    | cons y b =>
      have hlen' : a.length = b.length := by simpa using hlen
      have hx := isDigit_toNat (ha x List.mem_cons_self)
      have hy := isDigit_toNat (hb y List.mem_cons_self)
      have hbl := ofDigitChars_lt fun c hc => hb c (List.mem_cons_of_mem _ hc)
      rw [ofDigitChars_cons_zero, ofDigitChars_cons_zero, hlen'] at h
      rw [List.cons_append, List.cons_append, List.cons_lt_cons_iff]
      rcases Nat.lt_trichotomy x.toNat y.toNat with hlt | heq | hgt
      · exact Or.inl (Char.lt_def.mpr (UInt32.lt_iff_toNat_lt.mpr hlt))
      · refine Or.inr ⟨Char.ext (UInt32.toNat.inj heq), ?_⟩
        rw [heq] at h
        exact ih hlen' (fun c hc => ha c (List.mem_cons_of_mem _ hc))
          (fun c hc => hb c (List.mem_cons_of_mem _ hc)) (by omega)
      · -- a larger leading digit outweighs everything after it
        have hle : 10 ^ b.length * (y.toNat - 48) + 10 ^ b.length
            ≤ 10 ^ b.length * (x.toNat - 48) := by
          rw [← Nat.mul_succ]
          exact Nat.mul_le_mul_left _ (by omega)
        omega

/-- Below `10 ^ w`, padded numerals sort numerically, whatever follows them. -/
theorem zeroPadChars_append_lt (hw : 0 < w) (hmn : m < n) (hn : n < 10 ^ w) (s t : List Char) :
    zeroPadChars w m ++ s < zeroPadChars w n ++ t := by
  apply append_lt_append_of_ofDigitChars_lt
  · rw [length_zeroPadChars hw (by omega), length_zeroPadChars hw hn]
  · exact fun c hc => isDigit_of_mem_zeroPadChars hc
  · exact fun c hc => isDigit_of_mem_zeroPadChars hc
  · rwa [ofDigitChars_zeroPadChars, ofDigitChars_zeroPadChars]

end Lib
