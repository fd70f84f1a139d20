import Agintor.Lib.Lists
import Mathlib.Data.Set.Function
import Mathlib.Data.UInt

/-!
# Length-framed encodings

Numerals of fixed width, frames (a tag, the length of the payload in eight bytes, the
payload) and sequences of self-delimiting words. A word of a self-delimiting set is found
again at the front of any byte string that starts with it, so a sequence of known length
can be cut in one way only.
-/

namespace Lib

abbrev Bytes := List UInt8

/-- The UTF-8 encoding of a string. -/
def utf8 (s : String) : Bytes := s.toByteArray.data.toList

theorem utf8_injective : Function.Injective utf8 := by
  intro s t h
  apply String.toByteArray_inj.mp
  apply ByteArray.ext
  exact Array.toList_inj.mp h

/-! ## Fixed-width numerals -/

section Positional

variable {α : Type} {digit : ℕ → α} {b : ℕ}

/-- The `w` low digits of `n` in base `b`, most significant first. -/
def positional (digit : ℕ → α) (b : ℕ) : ℕ → ℕ → List α
  | 0, _ => []
  | w + 1, n => positional digit b w (n / b) ++ [digit (n % b)]

@[simp] theorem length_positional (w n : ℕ) : (positional digit b w n).length = w := by
  induction w generalizing n with
  | zero => rfl
  | succ w ih => simp [positional, ih]

theorem positional_inj (hb : 0 < b) (hd : Set.InjOn digit {d | d < b}) {w m n : ℕ}
    (hm : m < b ^ w) (hn : n < b ^ w) (h : positional digit b w m = positional digit b w n) :
    m = n := by
  induction w generalizing m n with
  | zero =>
    rw [pow_zero] at hm hn
    omega
  | succ w ih =>
    unfold positional at h
    obtain ⟨hhigh, hlow⟩ := List.append_inj' h rfl
    have hquot : m / b = n / b := by
      rw [pow_succ] at hm hn
      exact ih (Nat.div_lt_of_lt_mul (by rwa [Nat.mul_comm]))
        (Nat.div_lt_of_lt_mul (by rwa [Nat.mul_comm])) hhigh
    have hrem : m % b = n % b :=
      hd (Nat.mod_lt m hb) (Nat.mod_lt n hb) (List.singleton_inj.mp hlow)
    rw [← Nat.div_add_mod m b, ← Nat.div_add_mod n b, hquot, hrem]

end Positional

/-- `n.to_bytes(w, byteorder="big", signed=False)`, for `n < 256 ^ w`. -/
def bigEndian (w n : ℕ) : Bytes := positional UInt8.ofNat 256 w n

@[simp] theorem length_bigEndian (w n : ℕ) : (bigEndian w n).length = w := length_positional w n

theorem bigEndian_inj {w m n : ℕ} (hm : m < 256 ^ w) (hn : n < 256 ^ w)
    (h : bigEndian w m = bigEndian w n) : m = n := by
  refine positional_inj (by decide) ?_ hm hn h
  intro d hd d' hd' hdd
  have hnat := congrArg UInt8.toNat hdd
  rwa [UInt8.toNat_ofNat_of_lt' hd, UInt8.toNat_ofNat_of_lt' hd'] at hnat

/-! ## Frames -/

/-- A tag, the length of the payload in eight bytes, and the payload. -/
def frameBytes (tag : UInt8) (payload : Bytes) : Bytes :=
  tag :: (bigEndian 8 payload.length ++ payload)

/-- A frame can be cut off the front of a byte string in one way only. -/
theorem frameBytes_append_inj {tag tag' : UInt8} {payload payload' s s' : Bytes}
    (hp : payload.length < 2 ^ 64) (hp' : payload'.length < 2 ^ 64)
    (h : frameBytes tag payload ++ s = frameBytes tag' payload' ++ s') :
    tag = tag' ∧ payload = payload' ∧ s = s' := by
  unfold frameBytes at h
  rw [List.cons_append, List.cons_append, List.cons.injEq, List.append_assoc,
    List.append_assoc] at h
  obtain ⟨htag, hrest⟩ := h
  obtain ⟨hlen, hbody⟩ := List.append_inj hrest (by simp)
  have hlength : payload.length = payload'.length := bigEndian_inj hp hp' hlen
  obtain ⟨hpayload, hs⟩ := List.append_inj hbody hlength
  exact ⟨htag, hpayload, hs⟩

theorem frameBytes_inj {tag tag' : UInt8} {payload payload' : Bytes}
    (hp : payload.length < 2 ^ 64) (hp' : payload'.length < 2 ^ 64)
    (h : frameBytes tag payload = frameBytes tag' payload') : tag = tag' ∧ payload = payload' := by
  have happ : frameBytes tag payload ++ [] = frameBytes tag' payload' ++ [] := by
    rw [h]
  obtain ⟨htag, hpayload, -⟩ := frameBytes_append_inj hp hp' happ
  exact ⟨htag, hpayload⟩

/-! ## Self-delimiting words -/

section Words

variable {α : Type}

/-- No word of `C` begins another one, whatever follows the two. -/
def SelfDelimiting (C : Set (List α)) : Prop :=
  ∀ x ∈ C, ∀ y ∈ C, ∀ s t, x ++ s = y ++ t → x = y

variable {C : Set (List α)}

/-- Two words side by side can be told apart. -/
theorem SelfDelimiting.pair_inj (hC : SelfDelimiting C) {x x' y y' s t : List α} (hx : x ∈ C)
    (hx' : x' ∈ C) (hy : y ∈ C) (hy' : y' ∈ C) (h : x ++ y ++ s = x' ++ y' ++ t) :
    x = x' ∧ y = y' := by
  rw [List.append_assoc, List.append_assoc] at h
  have hfst : x = x' := hC x hx x' hx' _ _ h
  rw [hfst, List.append_cancel_left_eq] at h
  exact ⟨hfst, hC y hy y' hy' _ _ h⟩

/-- Pairs of words are self-delimiting again. -/
theorem SelfDelimiting.pairs (hC : SelfDelimiting C) :
    SelfDelimiting {w | ∃ x ∈ C, ∃ y ∈ C, w = x ++ y} := by
  rintro _ ⟨x, hx, y, hy, rfl⟩ _ ⟨x', hx', y', hy', rfl⟩ s t h
  obtain ⟨rfl, rfl⟩ := hC.pair_inj hx hx' hy hy' h
  rfl

/-- A sequence of known length can be cut in one way only. -/
theorem SelfDelimiting.flatten_inj (hC : SelfDelimiting C) {xs ys : List (List α)}
    (hxs : ∀ x ∈ xs, x ∈ C) (hys : ∀ y ∈ ys, y ∈ C) (hlen : xs.length = ys.length) {s t : List α}
    (h : xs.flatten ++ s = ys.flatten ++ t) : xs = ys := by
  induction xs generalizing ys with
  | nil => exact (List.length_eq_zero_iff.mp hlen.symm).symm
  | cons x xs ih =>
    cases ys with
    | nil => simp at hlen
    | cons y ys =>
      rw [List.flatten_cons, List.flatten_cons, List.append_assoc, List.append_assoc] at h
      have hxy : x = y := hC x (hxs x List.mem_cons_self) y (hys y List.mem_cons_self) _ _ h
      rw [hxy, List.append_cancel_left_eq] at h
      have hrest : xs = ys := ih (fun z hz => hxs z (List.mem_cons_of_mem _ hz))
        (fun z hz => hys z (List.mem_cons_of_mem _ hz)) (by simpa using hlen) h
      rw [hxy, hrest]

end Words

end Lib
