import Mathlib.Data.String.Basic
import Mathlib.Data.List.DropRight
import Mathlib.Data.List.Infix
import Mathlib.Data.List.Sort

/-!
# Text checks

The string methods and patterns that the stores and contracts check their inputs with.
-/

namespace Agintor.Core

/-- The characters `str.strip` removes. -/
def isSpace (c : Char) : Bool :=
  let n := c.toNat
  (0x09 ≤ n && n ≤ 0x0D) || (0x1C ≤ n && n ≤ 0x20) || n == 0x85 || n == 0xA0 || n == 0x1680 ||
    (0x2000 ≤ n && n ≤ 0x200A) || n == 0x2028 || n == 0x2029 || n == 0x202F || n == 0x205F ||
    n == 0x3000

/-- `str.strip()` -/
def strip (s : String) : String :=
  String.ofList (((s.toList.dropWhile isSpace).reverse.dropWhile isSpace).reverse)

/-- The characters that a model class with `str_strip_whitespace` removes: Unicode `White_Space`,
which the separators 0x1C to 0x1F do not have. -/
def isWhiteSpace (c : Char) : Bool := isSpace c && !(0x1C ≤ c.toNat && c.toNat ≤ 0x1F)

/-- Stripping under `str_strip_whitespace`. -/
def trim (s : String) : String :=
  String.ofList (((s.toList.dropWhile isWhiteSpace).reverse.dropWhile isWhiteSpace).reverse)

lemma dropWhile_eq_self_of_le {p q : Char → Bool} (hle : ∀ c, q c = true → p c = true)
    {l : List Char} (h : l.dropWhile p = l) : l.dropWhile q = l := by
  cases l with
  | nil => rfl
  | cons c rest =>
    have hc : p c = false := by
      by_contra hp
      rw [List.dropWhile_cons_of_pos (by simpa using hp)] at h
      have hlength := (List.dropWhile_sublist (l := rest) p).length_le
      rw [h, List.length_cons] at hlength
      omega
    have hq : ¬q c = true := fun hq => by simp [hle c hq] at hc
    rw [List.dropWhile_cons_of_neg hq]

/-- Text that `str.strip` leaves as it is, `str_strip_whitespace` leaves as it is. -/
lemma trim_of_strip {s : String} (h : strip s = s) : trim s = s := by
  have hle : ∀ c, isWhiteSpace c = true → isSpace c = true := by
    intro c hc
    simp only [isWhiteSpace, Bool.and_eq_true] at hc
    exact hc.1
  have hlist : ((s.toList.dropWhile isSpace).reverse.dropWhile isSpace).reverse = s.toList := by
    simpa [strip] using congrArg String.toList h
  have hfront : s.toList.dropWhile isSpace = s.toList := by
    -- neither end can lose anything, or the result would be shorter
    refine (List.dropWhile_sublist isSpace).eq_of_length_le ?_
    have hback := (List.dropWhile_sublist (l := (s.toList.dropWhile isSpace).reverse)
      isSpace).length_le
    have hlength := congrArg List.length hlist
    rw [List.length_reverse] at hlength hback
    omega
  rw [hfront] at hlist
  have hreverse : s.toList.reverse.dropWhile isSpace = s.toList.reverse := by
    rw [← List.reverse_inj, hlist, List.reverse_reverse]
  rw [trim, dropWhile_eq_self_of_le hle hfront, dropWhile_eq_self_of_le hle hreverse,
    List.reverse_reverse, String.ofList_toList]

lemma strip_of_no_space {s : String} (h : ∀ c ∈ s.toList, isSpace c = false) : strip s = s := by
  have hdrop : ∀ l : List Char, (∀ c ∈ l, isSpace c = false) → l.dropWhile isSpace = l := by
    intro l hl
    cases l with
    | nil => rfl
    | cons c rest => exact List.dropWhile_cons_of_neg (by simp [hl c List.mem_cons_self])
  have hreverse : ∀ c ∈ s.toList.reverse, isSpace c = false := by
    intro c hc
    exact h c (List.mem_reverse.mp hc)
  unfold strip
  rw [hdrop _ h, hdrop _ hreverse, List.reverse_reverse, String.ofList_toList]

lemma strip_eq_rdropWhile (s : String) :
    strip s = String.ofList ((s.toList.dropWhile isSpace).rdropWhile isSpace) := rfl

/-- Stripping again changes nothing. -/
lemma strip_strip (s : String) : strip (strip s) = strip s := by
  rw [strip_eq_rdropWhile s, strip_eq_rdropWhile, String.toList_ofList]
  have hfront : ((s.toList.dropWhile isSpace).rdropWhile isSpace).dropWhile isSpace =
      (s.toList.dropWhile isSpace).rdropWhile isSpace := by
    rcases hl : (s.toList.dropWhile isSpace).rdropWhile isSpace with _ | ⟨c, cs⟩
    · rfl
    -- what is left starts with the first character that was not dropped
    obtain ⟨rest, hrest⟩ := List.rdropWhile_prefix isSpace (l := s.toList.dropWhile isSpace)
    rw [hl] at hrest
    have hc : isSpace c = false := by
      have hhead := List.head?_dropWhile_not isSpace s.toList
      rw [← hrest] at hhead
      simpa using hhead
    exact List.dropWhile_cons_of_neg (by simp [hc])
  rw [hfront, List.rdropWhile_idempotent]

/-- `[0-9a-f]{64}` -/
def isDigest (s : String) : Bool :=
  s.toList.length == 64 && s.toList.all fun c => c.isDigit || ('a' ≤ c && c ≤ 'f')

/-- Sixty-four times one digit. -/
lemma isDigest_replicate {c : Char} (h : (c.isDigit || ('a' ≤ c && c ≤ 'f')) = true) :
    isDigest (String.ofList (List.replicate 64 c)) = true := by
  unfold isDigest
  rw [String.toList_ofList, List.length_replicate, List.all_replicate, h]
  rfl

/-- `[A-Za-z0-9][A-Za-z0-9_.-]{0,127}`, and no two dots in a row. -/
def isPortableIdentifier (s : String) : Bool :=
  match s.toList with
  | [] => false
  | c :: cs => c.isAlphanum && cs.length ≤ 127 &&
      (cs.all fun d => d.isAlphanum || d == '_' || d == '.' || d == '-') &&
      !decide (['.', '.'] <:+: c :: cs)

/-- What a test finds of every member of a list. -/
theorem forall_mem_of_all {α : Type*} {p : α → Prop} [DecidablePred p] {xs : List α}
    (h : (xs.all fun x => decide (p x)) = true) : ∀ x ∈ xs, p x :=
  fun x hx => of_decide_eq_true (List.all_eq_true.mp h x hx)

/-- A name that is a single component of a path. -/
structure PathComponent where
  text : String
  component : ∀ c ∈ text.toList, c ≠ '/' ∧ c ≠ '\x00'
deriving DecidableEq

/-- `{text!r}` of a text without quotes. -/
def quoted (text : String) : String := "'" ++ text ++ "'"

/-- `s[:n]` -/
def takeChars (n : ℕ) (s : String) : String := String.ofList (s.toList.take n)

/-- `sorted(set(xs))` -/
def sortedUnique (xs : List String) : List String := xs.dedup.insertionSort (· ≤ ·)

end Agintor.Core
