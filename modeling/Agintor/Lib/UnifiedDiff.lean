import Agintor.Lib.Decimal
import Agintor.Lib.SplitLines

/-!
# Unified diffs

`difflib.unified_diff` over the matching blocks of a `SequenceMatcher`, of which only what its
documentation says of them is used: they are nonempty, they match and they come one after the
other. The blocks turn into opcodes, the opcodes into groups with some context, and each group
into a hunk.
-/

namespace Lib

variable {α : Type}

/-! ## Matching blocks -/

/-- `a[i:i + size] == b[j:j + size]` -/
structure Block where
  i : ℕ
  j : ℕ
  size : ℕ

/-- Two lists agree on `n` elements, from `i` and from `j` on. -/
def Agree (a b : List α) (i j n : ℕ) : Prop := ∀ k < n, a[i + k]? = b[j + k]?

/-- Nonempty blocks that match, one after the other, from positions `i` and `j` on. -/
def Matching (a b : List α) : ℕ → ℕ → List Block → Prop
  | i, j, [] => i ≤ a.length ∧ j ≤ b.length
  | i, j, m :: ms =>
    (i ≤ m.i ∧ j ≤ m.j ∧ 0 < m.size ∧ m.i + m.size ≤ a.length ∧ m.j + m.size ≤ b.length ∧
      Agree a b m.i m.j m.size) ∧ Matching a b (m.i + m.size) (m.j + m.size) ms

/-- `get_matching_blocks`, without the dummy at its end. -/
structure SequenceMatcher (α : Type) where
  matchingBlocks : List α → List α → List Block
  matching : ∀ a b, Matching a b 0 0 (matchingBlocks a b)

/-! ## Opcodes -/

inductive Tag
  | equal
  | replace
  | delete
  | insert
deriving DecidableEq

/-- `a[i1:i2]` becomes `b[j1:j2]`. -/
structure Opcode where
  tag : Tag
  i1 : ℕ
  i2 : ℕ
  j1 : ℕ
  j2 : ℕ
deriving DecidableEq

/-- The loop of `get_opcodes`. -/
def opcodesFrom (i j : ℕ) : List Block → List Opcode
  | [] => []
  | m :: ms =>
    (if i < m.i ∧ j < m.j then [⟨.replace, i, m.i, j, m.j⟩]
      else if i < m.i then [⟨.delete, i, m.i, j, m.j⟩]
      else if j < m.j then [⟨.insert, i, m.i, j, m.j⟩]
      else []) ++
    ((if 0 < m.size then [⟨.equal, m.i, m.i + m.size, m.j, m.j + m.size⟩] else []) ++
      opcodesFrom (m.i + m.size) (m.j + m.size) ms)

def getOpcodes (M : SequenceMatcher α) (a b : List α) : List Opcode :=
  opcodesFrom 0 0 (M.matchingBlocks a b ++ [⟨a.length, b.length, 0⟩])

/-- Leave `n` elements of a leading match. -/
def trimFirst (n : ℕ) : List Opcode → List Opcode
  | [] => []
  | c :: cs =>
    if c.tag = .equal then
      { c with i1 := max c.i1 (c.i2 - n), j1 := max c.j1 (c.j2 - n) } :: cs
    else c :: cs

/-- Leave `n` elements of a trailing match. -/
def trimLast (n : ℕ) : List Opcode → List Opcode
  | [] => []
  | [c] =>
    if c.tag = .equal then [{ c with i2 := min c.i2 (c.i1 + n), j2 := min c.j2 (c.j1 + n) }]
    else [c]
  | c :: d :: cs => c :: trimLast n (d :: cs)

/-- The loop of `get_grouped_opcodes`: a match of more than `2 * n` elements ends a group. -/
def groupOpcodes (n : ℕ) (group : List Opcode) : List Opcode → List (List Opcode)
  | [] =>
    match group with
    | [] => []
    | [c] => if c.tag = .equal then [] else [[c]]
    | c :: d :: cs => [c :: d :: cs]
  | c :: cs =>
    if c.tag = .equal ∧ 2 * n < c.i2 - c.i1 then
      (group ++ [{ c with i2 := min c.i2 (c.i1 + n), j2 := min c.j2 (c.j1 + n) }]) ::
        groupOpcodes n [{ c with i1 := max c.i1 (c.i2 - n), j1 := max c.j1 (c.j2 - n) }] cs
    else groupOpcodes n (group ++ [c]) cs

def getGroupedOpcodes (M : SequenceMatcher α) (n : ℕ) (a b : List α) : List (List Opcode) :=
  let codes := getOpcodes M a b
  let codes := if codes = [] then [⟨.equal, 0, 1, 0, 1⟩] else codes
  groupOpcodes n [] (trimLast n (trimFirst n codes))

/-! ## Hunks -/

/-- A line of a hunk. -/
inductive Item (α : Type)
  | keep (line : α)
  | del (line : α)
  | add (line : α)

/-- `xs[i:j]` -/
def slice (xs : List α) (i j : ℕ) : List α := (xs.drop i).take (j - i)

def itemsOf (a b : List α) (c : Opcode) : List (Item α) :=
  match c.tag with
  | .equal => (slice a c.i1 c.i2).map .keep
  | .replace => (slice a c.i1 c.i2).map .del ++ (slice b c.j1 c.j2).map .add
  | .delete => (slice a c.i1 c.i2).map .del
  | .insert => (slice b c.j1 c.j2).map .add

/-- The ranges of a group and its lines. -/
structure Hunk (α : Type) where
  i1 : ℕ
  i2 : ℕ
  j1 : ℕ
  j2 : ℕ
  items : List (Item α)

def hunkOf (a b : List α) (group : List Opcode) : Hunk α where
  i1 := (group.head?.map (·.i1)).getD 0
  i2 := (group.getLast?.map (·.i2)).getD 0
  j1 := (group.head?.map (·.j1)).getD 0
  j2 := (group.getLast?.map (·.j2)).getD 0
  items := group.flatMap (itemsOf a b)

def hunks (M : SequenceMatcher α) (a b : List α) : List (Hunk α) :=
  (getGroupedOpcodes M 3 a b).map (hunkOf a b)

/-! ## Text -/

/-- A line of a text. -/
abbrev Line := List Char

def Item.text : Item Line → Line
  | .keep line => ' ' :: line
  | .del line => '-' :: line
  | .add line => '+' :: line

/-- `_format_range_unified` -/
def rangeText (start stop : ℕ) : List Char :=
  let length := stop - start
  if length = 1 then zeroPadChars 0 (start + 1)
  else if length = 0 then zeroPadChars 0 start ++ ',' :: zeroPadChars 0 length
  else zeroPadChars 0 (start + 1) ++ ',' :: zeroPadChars 0 length

/-- The header line of a hunk and its lines. -/
def Hunk.lines (h : Hunk Line) : List Line :=
  (['@', '@', ' ', '-'] ++ rangeText h.i1 h.i2 ++ [' ', '+'] ++ rangeText h.j1 h.j2 ++
    [' ', '@', '@', '\n']) :: h.items.map Item.text

/-- `unified_diff(a, b, fromfile, tofile)` -/
def unifiedDiff (M : SequenceMatcher Line) (a b : List Line) (fromfile tofile : List Char) :
    List Line :=
  match hunks M a b with
  | [] => []
  | h :: hs =>
    (['-', '-', '-', ' '] ++ fromfile ++ ['\n']) :: (['+', '+', '+', ' '] ++ tofile ++ ['\n']) ::
      (h :: hs).flatMap Hunk.lines

/-! ## What the opcodes say -/

variable {a b : List α} {i j i' j' n : ℕ}

/-- An opcode is about these lists. -/
structure CodeOk (a b : List α) (c : Opcode) : Prop where
  le : c.i1 ≤ c.i2 ∧ c.j1 ≤ c.j2
  le_length : c.i2 ≤ a.length ∧ c.j2 ≤ b.length
  equal : c.tag = .equal →
    c.i1 < c.i2 ∧ c.i2 - c.i1 = c.j2 - c.j1 ∧ Agree a b c.i1 c.j1 (c.i2 - c.i1)
  delete : c.tag = .delete → c.j1 = c.j2
  insert : c.tag = .insert → c.i1 = c.i2
  adds : c.tag = .replace ∨ c.tag = .insert → c.j1 < c.j2

/-- Opcodes one after the other, from `i` and `j` on, up to where the lists agree. A change is
followed by a match. -/
inductive Codes (a b : List α) : ℕ → ℕ → List Opcode → Prop
  | nil {i j : ℕ} : (∀ k, a[i + k]? = b[j + k]?) → Codes a b i j []
  | cons {c : Opcode} {cs : List Opcode} : CodeOk a b c →
      (c.tag ≠ .equal → ∀ d ∈ cs.head?, d.tag = .equal) → Codes a b c.i2 c.j2 cs →
      Codes a b c.i1 c.j1 (c :: cs)

variable {c : Opcode}

lemma Codes.of_change {cs : List Opcode} (hok : CodeOk a b c) (hcs : ∀ d ∈ cs.head?, d.tag = .equal)
    (h : Codes a b c.i2 c.j2 cs) : Codes a b c.i1 c.j1 (c :: cs) :=
  .cons hok (fun _ => hcs) h

/-- The change in front of a block. -/
lemma codes_change {x y : ℕ} {cs : List Opcode} (hi : i ≤ x) (hj : j ≤ y) (hx : x ≤ a.length)
    (hy : y ≤ b.length) (hcs : ∀ d ∈ cs.head?, d.tag = .equal) (h : Codes a b x y cs) :
    Codes a b i j
      ((if i < x ∧ j < y then [⟨.replace, i, x, j, y⟩]
        else if i < x then [⟨.delete, i, x, j, y⟩]
        else if j < y then [⟨.insert, i, x, j, y⟩]
        else []) ++ cs) := by
  have hle : ∀ t, CodeOk a b ⟨t, i, x, j, y⟩ → Codes a b i j (⟨t, i, x, j, y⟩ :: cs) :=
    fun t hok => Codes.of_change (c := ⟨t, i, x, j, y⟩) hok hcs h
  split
  · next hlt =>
    exact hle _ ⟨⟨hi, hj⟩, ⟨hx, hy⟩, by simp, by simp, by simp, fun _ => hlt.2⟩
  · split
    · next hnot hlt =>
      refine hle _ ⟨⟨hi, hj⟩, ⟨hx, hy⟩, by simp, fun _ => ?_, by simp, by simp⟩
      show j = y
      omega
    · split
      · next hnot hnlt hlt =>
        refine hle _ ⟨⟨hi, hj⟩, ⟨hx, hy⟩, by simp, by simp, fun _ => ?_, fun _ => hlt⟩
        show i = x
        omega
      · next hnot hnlt hnlt' =>
        obtain rfl : i = x := by omega
        obtain rfl : j = y := by omega
        exact h

theorem codes_opcodesFrom {ms : List Block} (h : Matching a b i j ms) :
    Codes a b i j (opcodesFrom i j (ms ++ [⟨a.length, b.length, 0⟩])) := by
  induction ms generalizing i j with
  | nil =>
    obtain ⟨hi, hj⟩ := h
    unfold opcodesFrom
    apply codes_change hi hj le_rfl le_rfl
    · simp [opcodesFrom]
    · -- nothing is left of either list
      refine .nil fun k => ?_
      rw [List.getElem?_eq_none (by omega), List.getElem?_eq_none (by omega)]
  | cons m ms ih =>
    obtain ⟨⟨hi, hj, hpos, hx, hy, hagree⟩, hms⟩ := h
    rw [List.cons_append, opcodesFrom, if_pos hpos]
    apply codes_change hi hj (by omega) (by omega)
    · simp
    · have hok : CodeOk a b ⟨.equal, m.i, m.i + m.size, m.j, m.j + m.size⟩ := by
        refine ⟨⟨by simp, by simp⟩, ⟨hx, hy⟩, fun _ => ⟨?_, ?_, ?_⟩, by simp, by simp, by simp⟩
        · show m.i < m.i + m.size
          omega
        · show m.i + m.size - m.i = m.j + m.size - m.j
          omega
        · show Agree a b m.i m.j (m.i + m.size - m.i)
          rwa [Nat.add_sub_cancel_left]
      exact Codes.cons hok (by simp) (ih hms)

/-! ## Matches between groups -/

/-- From `i` and `j` the lists agree up to `i'` and `j'`. -/
def Gap (a b : List α) (i j i' j' : ℕ) : Prop := ∃ n, i' = i + n ∧ j' = j + n ∧ Agree a b i j n

lemma Gap.refl : Gap a b i j i j := ⟨0, rfl, rfl, fun _ h => absurd h (Nat.not_lt_zero _)⟩

lemma Gap.trans {x y : ℕ} (h : Gap a b i j i' j') (h' : Gap a b i' j' x y) : Gap a b i j x y := by
  obtain ⟨n, rfl, rfl, hn⟩ := h
  obtain ⟨m, rfl, rfl, hm⟩ := h'
  refine ⟨n + m, by omega, by omega, fun k hk => ?_⟩
  by_cases hlt : k < n
  · exact hn k hlt
  · have hrest := hm (k - n) (by omega)
    rwa [show i + n + (k - n) = i + k by omega, show j + n + (k - n) = j + k by omega] at hrest

lemma Gap.rest (h : Gap a b i j i' j') (hrest : ∀ k, a[i' + k]? = b[j' + k]?) (k : ℕ) :
    a[i + k]? = b[j + k]? := by
  obtain ⟨n, rfl, rfl, hn⟩ := h
  by_cases hlt : k < n
  · exact hn k hlt
  · have hat := hrest (k - n)
    rwa [show i + n + (k - n) = i + k by omega, show j + n + (k - n) = j + k by omega] at hat

/-- Part of a match. -/
lemma CodeOk.part (hok : CodeOk a b c) (hc : c.tag = .equal) {x m : ℕ} (hm : 0 < m)
    (h : x + m ≤ c.i2 - c.i1) :
    CodeOk a b ⟨.equal, c.i1 + x, c.i1 + x + m, c.j1 + x, c.j1 + x + m⟩ := by
  obtain ⟨hlt, hlength, hagree⟩ := hok.equal hc
  have hle := hok.le_length
  refine ⟨⟨by simp, by simp⟩, ⟨?_, ?_⟩, fun _ => ⟨?_, ?_, ?_⟩, by simp, by simp, by simp⟩
  · show c.i1 + x + m ≤ a.length
    omega
  · show c.j1 + x + m ≤ b.length
    omega
  · show c.i1 + x < c.i1 + x + m
    omega
  · show c.i1 + x + m - (c.i1 + x) = c.j1 + x + m - (c.j1 + x)
    omega
  · show Agree a b (c.i1 + x) (c.j1 + x) (c.i1 + x + m - (c.i1 + x))
    intro k hk
    have hat := hagree (x + k) (by omega)
    rwa [← Nat.add_assoc, ← Nat.add_assoc] at hat

lemma CodeOk.gap (hok : CodeOk a b c) (hc : c.tag = .equal) {x m : ℕ} (h : x + m ≤ c.i2 - c.i1) :
    Gap a b (c.i1 + x) (c.j1 + x) (c.i1 + x + m) (c.j1 + x + m) := by
  refine ⟨m, rfl, rfl, fun k hk => ?_⟩
  have hat := (hok.equal hc).2.2 (x + k) (by omega)
  rwa [← Nat.add_assoc, ← Nat.add_assoc] at hat

end Lib
