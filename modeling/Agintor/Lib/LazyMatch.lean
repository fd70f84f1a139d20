import Mathlib.Data.List.Infix
import Mathlib.Data.List.Range

/-!
# Substrings and lazy matches

Where a text occurs in another, overlapping occurrences included, and the matches of a pattern made
of literals and lazy groups. A lazy group ends at the first place where the rest of the pattern
matches.
-/

namespace Lib

variable {α β : Type}

/-! ## Lazy groups -/

/-- `.*?` and then `next`: the shortest beginning after which `next` matches. -/
def lazily (next : List α → Option β) : List α → Option (List α × β)
  | [] => (next []).map fun b => ([], b)
  | c :: text =>
    match next (c :: text) with
    | some b => some ([], b)
    | none => (lazily next text).map fun found => (c :: found.1, found.2)

variable {next : List α → Option β} {needle source : List α}

/-- The group is the shortest beginning. -/
theorem lazily_eq_some_iff {text s : List α} {b : β} :
    lazily next text = some (s, b) ↔
      ∃ rest, text = s ++ rest ∧ next rest = some b ∧
        ∀ i < s.length, next (text.drop i) = none := by
  induction text generalizing s with
  | nil =>
    rw [lazily, Option.map_eq_some_iff]
    constructor
    · rintro ⟨b', hnext, heq⟩
      obtain ⟨rfl, rfl⟩ := Prod.mk.inj heq
      exact ⟨[], rfl, hnext, by simp⟩
    · rintro ⟨rest, htext, hnext, -⟩
      obtain ⟨rfl, rfl⟩ := List.append_eq_nil_iff.mp htext.symm
      exact ⟨b, hnext, rfl⟩
  | cons c text ih =>
    rw [lazily]
    cases hhead : next (c :: text) with
    | some b' =>
      constructor
      · intro heq
        obtain ⟨rfl, rfl⟩ := Prod.mk.inj (Option.some.inj heq)
        exact ⟨c :: text, rfl, hhead, by simp⟩
      · rintro ⟨rest, htext, hnext, hearlier⟩
        rcases s with _ | ⟨d, s⟩
        · rw [List.nil_append] at htext
          rw [← htext, hhead] at hnext
          rw [Option.some.inj hnext]
        · have hzero := hearlier 0 (by simp)
          rw [List.drop_zero, hhead] at hzero
          exact absurd hzero (by simp)
    | none =>
      dsimp only
      rw [Option.map_eq_some_iff]
      constructor
      · rintro ⟨⟨s', b'⟩, hfound, heq⟩
        obtain ⟨rfl, rfl⟩ := Prod.mk.inj heq
        obtain ⟨rest, rfl, hnext, hearlier⟩ := ih.mp hfound
        refine ⟨rest, rfl, hnext, fun i hi => ?_⟩
        rcases i with _ | i
        · exact hhead
        · exact hearlier i (by simpa using hi)
      · rintro ⟨rest, htext, hnext, hearlier⟩
        rcases s with _ | ⟨d, s⟩
        · rw [List.nil_append] at htext
          rw [← htext, hhead] at hnext
          exact absurd hnext (by simp)
        · obtain ⟨rfl, rfl⟩ := List.cons.inj htext
          refine ⟨(s, b), ih.mpr ⟨rest, rfl, hnext, fun i hi => ?_⟩, rfl⟩
          exact hearlier (i + 1) (by simpa using hi)

/-- A group ends somewhere when the rest of the pattern matches somewhere. -/
lemma lazily_isSome (s : List α) {rest : List α} (h : (next rest).isSome) :
    (lazily next (s ++ rest)).isSome := by
  induction s with
  | nil =>
    cases rest with
    | nil => rwa [List.nil_append, lazily, Option.isSome_map]
    | cons c text =>
      obtain ⟨b, hb⟩ := Option.isSome_iff_exists.mp h
      rw [List.nil_append, lazily, hb]
      rfl
  | cons c s ih =>
    rw [List.cons_append, lazily]
    cases next (c :: (s ++ rest)) with
    | some b => rfl
    | none => rwa [Option.isSome_map]

/-! ## All matches -/

/-- `re.finditer` past the first `skip` characters. A match gives what is left of the text. -/
def findIterFrom (pattern : List α → Option (β × List α)) : ℕ → List α → List β
  | _, [] => []
  | skip + 1, _ :: text => findIterFrom pattern skip text
  | 0, c :: text =>
    match pattern (c :: text) with
    | some (b, rest) => b :: findIterFrom pattern (text.length - rest.length) text
    | none => findIterFrom pattern 0 text

def findIter (pattern : List α → Option (β × List α)) (text : List α) : List β :=
  findIterFrom pattern 0 text

lemma findIterFrom_append (pattern : List α → Option (β × List α)) (skipped text : List α) :
    findIterFrom pattern skipped.length (skipped ++ text) = findIter pattern text := by
  induction skipped with
  | nil => rfl
  | cons c skipped ih => exact ih

/-- The search goes on behind a match. -/
lemma findIter_append {pattern : List α → Option (β × List α)} {used rest : List α} {b : β}
    (hne : used ≠ []) (h : pattern (used ++ rest) = some (b, rest)) :
    findIter pattern (used ++ rest) = b :: findIter pattern rest := by
  obtain ⟨c, used, rfl⟩ := List.exists_cons_of_ne_nil hne
  rw [List.cons_append] at h
  rw [findIter, List.cons_append, findIterFrom, h]
  dsimp only
  rw [List.length_append, Nat.add_sub_cancel_right, findIterFrom_append]

/-! ## Occurrences -/

variable [DecidableEq α]

/-- The literal text `lit`. -/
def literal (lit text : List α) : Option (List α) :=
  if lit <+: text then some (text.drop lit.length) else none

@[simp] lemma literal_append (lit text : List α) : literal lit (lit ++ text) = some text := by
  rw [literal, if_pos (List.prefix_append lit text), List.drop_left]

lemma literal_eq_some_iff {lit text rest : List α} :
    literal lit text = some rest ↔ text = lit ++ rest := by
  constructor
  · intro h
    rw [literal] at h
    split at h
    · rename_i hfront
      obtain ⟨rest', rfl⟩ := hfront
      rw [List.drop_left] at h
      rw [Option.some.inj h]
    · exact absurd h (by simp)
  · rintro rfl
    exact literal_append lit rest

lemma literal_eq_none {lit text : List α} : literal lit text = none ↔ ¬lit <+: text := by
  rw [literal]
  split
  · rename_i h
    simp [h]
  · rename_i h
    simp [h]

/-- The positions at which `needle` occurs in `source`. -/
def occurrences (needle source : List α) : List ℕ :=
  (List.range (source.length + 1)).filter fun i => needle <+: source.drop i

/-- `source.find(needle, start)` -/
def findFrom (needle source : List α) (start : ℕ) : Option ℕ :=
  (List.range' start (source.length + 1 - start)).find? fun i => needle <+: source.drop i

lemma mem_occurrences {i : ℕ} :
    i ∈ occurrences needle source ↔ i ≤ source.length ∧ needle <+: source.drop i := by
  rw [occurrences, List.mem_filter, List.mem_range, Nat.lt_add_one_iff, decide_eq_true_iff]

lemma pairwise_occurrences (needle source : List α) :
    (occurrences needle source).Pairwise (· < ·) :=
  List.pairwise_lt_range.sublist List.filter_sublist

lemma mem_occurrences_append (before needle after : List α) :
    before.length ∈ occurrences needle (before ++ needle ++ after) := by
  rw [mem_occurrences, List.append_assoc, List.drop_left, List.length_append]
  exact ⟨by omega, List.prefix_append needle after⟩

theorem findFrom_zero (needle source : List α) :
    findFrom needle source 0 = (occurrences needle source).head? := by
  rw [findFrom, occurrences, List.head?_filter, List.range_eq_range', Nat.sub_zero]

/-- The search behind the first occurrence finds the second. -/
theorem findFrom_succ {first : ℕ} {more : List ℕ} (h : occurrences needle source = first :: more) :
    findFrom needle source (first + 1) = more.head? := by
  have hsorted := pairwise_occurrences needle source
  have hfirst : first ∈ occurrences needle source := by
    rw [h]
    exact List.mem_cons_self
  obtain ⟨hle, hoccurs⟩ := mem_occurrences.mp hfirst
  have hcount : source.length + 1 = first + (source.length + 1 - (first + 1) + 1) := by omega
  have hrange : List.range (source.length + 1) =
      List.range first ++ first :: List.range' (first + 1) (source.length + 1 - (first + 1)) := by
    have hsplit := List.range'_append_1 (s := 0) (m := first)
      (n := source.length + 1 - (first + 1) + 1)
    rw [← hcount, Nat.zero_add, List.range'_succ] at hsplit
    rw [List.range_eq_range', List.range_eq_range', hsplit]
  have hnone : (List.range first).filter (fun i => needle <+: source.drop i) = [] := by
    rw [List.filter_eq_nil_iff]
    intro j hj hjoccurs
    have hlt := List.mem_range.mp hj
    have hmem : j ∈ first :: more := by
      rw [← h, mem_occurrences]
      exact ⟨by omega, of_decide_eq_true hjoccurs⟩
    rw [h] at hsorted
    rcases List.mem_cons.mp hmem with rfl | hlater
    · omega
    · have := (List.pairwise_cons.mp hsorted).1 j hlater
      omega
  have hmore : (List.range' (first + 1) (source.length + 1 - (first + 1))).filter
      (fun i => needle <+: source.drop i) = more := by
    rw [occurrences, hrange, List.filter_append, hnone, List.nil_append, List.filter_cons,
      if_pos (decide_eq_true hoccurs)] at h
    exact (List.cons.inj h).2
  rw [findFrom, ← List.head?_filter, hmore]

/-! ## Delimiters -/

/-- `delim` does not occur in `text ++ delim` before its end. -/
def Delimited (delim text : List α) : Prop :=
  ∀ i < text.length, ¬delim <+: (text ++ delim).drop i

omit [DecidableEq α] in
/-- What follows the delimiter does not matter. -/
lemma prefix_drop_append {delim text rest : List α} {i : ℕ} (hi : i ≤ text.length) :
    delim <+: (text ++ delim ++ rest).drop i ↔ delim <+: (text ++ delim).drop i := by
  have hlength : i ≤ (text ++ delim).length := by
    rw [List.length_append]
    omega
  rw [List.drop_append_of_le_length hlength]
  constructor
  · intro h
    apply List.prefix_of_prefix_length_le h (List.prefix_append _ rest)
    rw [List.length_drop, List.length_append]
    omega
  · intro h
    exact h.trans (List.prefix_append _ rest)

omit [DecidableEq α] in
/-- A delimiter that overlaps itself in `border` at most occurs early only inside the text and
a border. -/
theorem delimited_iff {delim border text : List α} (hborder : border <+: delim)
    (hlt : border.length < delim.length)
    (hself : ∀ u < delim.length - border.length, 1 ≤ u → ¬delim.drop u <+: delim) :
    Delimited delim text ↔ ¬delim <:+: text ++ border := by
  constructor
  · rintro h ⟨before, after, htext⟩
    have hlength := congrArg List.length htext
    simp only [List.length_append] at hlength
    apply h before.length (by omega)
    have hdrop : (text ++ border).drop before.length = delim ++ after := by
      rw [← htext, List.append_assoc, List.drop_left]
    obtain ⟨more, rfl⟩ := hborder
    rw [← List.append_assoc, List.drop_append_of_le_length, hdrop, List.append_assoc]
    · exact List.prefix_append _ _
    · rw [List.length_append]
      omega
  · intro hnot i hi hoccurs
    rcases Nat.lt_or_ge (text.length + border.length) (i + delim.length) with hover | hinside
    · -- the occurrence runs into the delimiter
      apply hself (text.length - i) (by omega) (by omega)
      have hdrop := hoccurs.drop (text.length - i)
      rwa [List.drop_drop, Nat.add_sub_cancel' hi.le, List.drop_left] at hdrop
    · obtain ⟨more, rfl⟩ := hborder
      have hi' : i ≤ (text ++ border).length := by
        rw [List.length_append]
        omega
      rw [← List.append_assoc, List.drop_append_of_le_length hi'] at hoccurs
      have hinner : border ++ more <+: (text ++ border).drop i := by
        apply List.prefix_of_prefix_length_le hoccurs (List.prefix_append _ more)
        have htext : (text ++ border).length = text.length + border.length := List.length_append
        rw [List.length_drop, htext]
        omega
      exact hnot (hinner.isInfix.trans (List.drop_suffix i _).isInfix)

/-- A lazy group in front of a delimiter. -/
theorem lazily_literal_eq_some_iff {delim text s rest : List α} :
    lazily (literal delim) text = some (s, rest) ↔
      text = s ++ delim ++ rest ∧ Delimited delim s := by
  rw [lazily_eq_some_iff]
  constructor
  · rintro ⟨rest', rfl, hrest', hearlier⟩
    rw [literal_eq_some_iff] at hrest'
    subst hrest'
    refine ⟨(List.append_assoc _ _ _).symm, fun i hi hoccurs => ?_⟩
    rw [← List.append_assoc] at hearlier
    exact literal_eq_none.mp (hearlier i hi) ((prefix_drop_append hi.le).mpr hoccurs)
  · rintro ⟨rfl, hdelimited⟩
    refine ⟨delim ++ rest, List.append_assoc _ _ _, literal_append delim rest, fun i hi => ?_⟩
    rw [literal_eq_none, prefix_drop_append hi.le]
    exact hdelimited i hi

end Lib
