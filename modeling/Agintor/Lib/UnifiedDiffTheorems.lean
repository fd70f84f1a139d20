import Agintor.Lib.UnifiedDiff

/-!
# A unified diff determines what it leads to

The hunks of a diff tell, over the old list, every element of the new one. The text of the
hunks can be taken apart again: the ranges say how many lines of each side are to come, a line
of the old side is known beforehand, and a line of the new side ends at its break. A last line
without a break is followed by the next file's header, or by nothing.
-/

namespace Lib

variable {α : Type} {a b b' : List α} {i j i1 j1 i2 j2 i' j' n : ℕ}

/-! ## The lines of a hunk -/

/-- Lines that lead from positions `i`, `j` to `i2`, `j2`. Nothing follows the last element of
`b` once it has been added. -/
inductive Items (a b : List α) (i2 j2 : ℕ) : ℕ → ℕ → List (Item α) → Prop
  | nil : Items a b i2 j2 i2 j2 []
  | keep {i j : ℕ} {l : α} {xs : List (Item α)} : a[i]? = some l → b[j]? = some l →
      Items a b i2 j2 (i + 1) (j + 1) xs → Items a b i2 j2 i j (.keep l :: xs)
  | del {i j : ℕ} {l : α} {xs : List (Item α)} : a[i]? = some l →
      Items a b i2 j2 (i + 1) j xs → Items a b i2 j2 i j (.del l :: xs)
  | add {i j : ℕ} {l : α} {xs : List (Item α)} : b[j]? = some l →
      (xs = [] ∨ j + 1 < b.length) → Items a b i2 j2 i (j + 1) xs → Items a b i2 j2 i j (.add l :: xs)

/-- The lines do not end with an addition. -/
def NoLastAdd (xs : List (Item α)) : Prop := ∀ l, xs.getLast? ≠ some (.add l)

theorem Items.append {xs ys : List (Item α)} (h : Items a b i' j' i j xs)
    (h' : Items a b i2 j2 i' j' ys) (hadd : ys = [] ∨ j' < b.length ∨ NoLastAdd xs) :
    Items a b i2 j2 i j (xs ++ ys) := by
  induction h with
  | nil => exact h'
  | @keep i j l xs ha hb _ ih =>
    refine .keep ha hb (ih ?_)
    refine hadd.imp_right (Or.imp_right fun hlast m hm => hlast m ?_)
    rw [List.getLast?_cons, hm]
    rfl
  | @del i j l xs ha _ ih =>
    refine .del ha (ih ?_)
    refine hadd.imp_right (Or.imp_right fun hlast m hm => hlast m ?_)
    rw [List.getLast?_cons, hm]
    rfl
  | @add i j l xs hb hend htail ih =>
    have hadd' : ys = [] ∨ j' < b.length ∨ NoLastAdd xs := by
      refine hadd.imp_right (Or.imp_right fun hlast m hm => hlast m ?_)
      rw [List.getLast?_cons, hm]
      rfl
    refine .add hb ?_ (ih hadd')
    obtain rfl | hlt := hend
    · -- the addition was the last one so far
      cases htail
      obtain rfl | hlt | hlast := hadd
      · exact Or.inl rfl
      · exact Or.inr hlt
      · exact absurd rfl (hlast l)
    · exact Or.inr hlt

lemma slice_succ {l : α} (h : a[i]? = some l) (hi : i < i2) :
    slice a i i2 = l :: slice a (i + 1) i2 := by
  obtain ⟨hlt, rfl⟩ := List.getElem?_eq_some_iff.mp h
  unfold slice
  rw [List.drop_eq_getElem_cons hlt, show i2 - i = (i2 - (i + 1)) + 1 by omega,
    List.take_succ_cons]

lemma slice_self : slice a i i = [] := by
  unfold slice
  rw [Nat.sub_self, List.take_zero]

lemma items_keep (hi : i ≤ i2) (ha : i2 ≤ a.length) (hlength : i2 - i = j2 - j) (hj : j ≤ j2)
    (hagree : Agree a b i j (i2 - i)) : Items a b i2 j2 i j ((slice a i i2).map .keep) := by
  obtain ⟨d, hd⟩ : ∃ d, d = i2 - i := ⟨_, rfl⟩
  induction d generalizing i j with
  | zero =>
    obtain rfl : i = i2 := by omega
    obtain rfl : j = j2 := by omega
    rw [slice_self]
    exact .nil
  | succ d ih =>
    have hget : a[i]? = some a[i] := List.getElem?_eq_getElem (by omega)
    have hget' : b[j]? = some a[i] := by
      rw [← hget]
      exact (hagree 0 (by omega)).symm
    rw [slice_succ hget (by omega), List.map_cons]
    refine .keep hget hget' (ih (by omega) (by omega) (by omega) ?_ (by omega))
    intro k hk
    have hat := hagree (k + 1) (by omega)
    rwa [← Nat.add_assoc, Nat.add_right_comm, ← Nat.add_assoc, Nat.add_right_comm j] at hat

lemma items_del {ys : List (Item α)} (hi : i ≤ i2) (ha : i2 ≤ a.length)
    (h : Items a b i2 j2 i2 j ys) : Items a b i2 j2 i j ((slice a i i2).map .del ++ ys) := by
  obtain ⟨d, hd⟩ : ∃ d, d = i2 - i := ⟨_, rfl⟩
  induction d generalizing i with
  | zero =>
    obtain rfl : i = i2 := by omega
    rw [slice_self]
    exact h
  | succ d ih =>
    have hget : a[i]? = some a[i] := List.getElem?_eq_getElem (by omega)
    rw [slice_succ hget (by omega), List.map_cons]
    exact .del hget (ih (by omega) (by omega))

lemma items_add (hj : j ≤ j2) (hb : j2 ≤ b.length) :
    Items a b i2 j2 i2 j ((slice b j j2).map .add) := by
  obtain ⟨d, hd⟩ : ∃ d, d = j2 - j := ⟨_, rfl⟩
  induction d generalizing j with
  | zero =>
    obtain rfl : j = j2 := by omega
    rw [slice_self]
    exact .nil
  | succ d ih =>
    have hget : b[j]? = some b[j] := List.getElem?_eq_getElem (by omega)
    rw [slice_succ hget (by omega), List.map_cons]
    refine .add hget ?_ (ih (by omega) (by omega))
    by_cases hlast : j + 1 = j2
    · left
      rw [hlast, slice_self]
      rfl
    · right
      omega

variable {line line' text text' : List Char} {c : Opcode}

/-- The lines of an opcode. -/
theorem CodeOk.items (h : CodeOk a b c) : Items a b c.i2 c.j2 c.i1 c.j1 (itemsOf a b c) := by
  obtain ⟨hi, hj⟩ := h.le
  obtain ⟨hi2, hj2⟩ := h.le_length
  unfold itemsOf
  cases htag : c.tag with
  | equal =>
    obtain ⟨-, hlength, hagree⟩ := h.equal htag
    exact items_keep hi hi2 hlength hj hagree
  | replace => exact items_del hi hi2 (items_add hj hj2)
  | delete =>
    rw [h.delete htag]
    have hdel := items_del hi hi2 (.nil : Items a b c.i2 c.j2 c.i2 c.j2 [])
    rwa [List.append_nil] at hdel
  | insert =>
    rw [h.insert htag]
    exact items_add hj hj2

/-! ## Groups -/

/-- A group in the making, which leads from `i1`, `j1` to `i2`, `j2`. -/
structure GroupAt (a b : List α) (group : List Opcode) (i1 j1 i2 j2 : ℕ) : Prop where
  ok : ∀ c ∈ group, CodeOk a b c
  first : ∀ c ∈ group.head?, c.i1 = i1 ∧ c.j1 = j1
  last : ∀ c ∈ group.getLast?, c.i2 = i2 ∧ c.j2 = j2
  items : Items a b i2 j2 i1 j1 (group.flatMap (itemsOf a b))

lemma groupAt_nil : GroupAt a b [] i j i j where
  ok := by simp
  first := by simp
  last := by simp
  items := .nil

lemma groupAt_singleton (h : CodeOk a b c) :
    GroupAt a b [c] c.i1 c.j1 c.i2 c.j2 where
  ok := by simpa using h
  first := by simp
  last := by simp
  items := by simpa using h.items

variable {group : List Opcode} {xs : List (Item α)} {cs : List Opcode}

/-- A group whose last opcode is a match does not end with an addition. -/
lemma GroupAt.noLastAdd (h : GroupAt a b group i1 j1 i j)
    (hlast : ∀ d ∈ group.getLast?, d.tag = .equal) : NoLastAdd (group.flatMap (itemsOf a b)) := by
  intro l
  obtain rfl | ⟨ds, d, rfl⟩ := List.eq_nil_or_concat group
  · simp
  · have hd : d.tag = .equal := hlast d (by simp)
    have hne : slice a d.i1 d.i2 ≠ [] := by
      obtain ⟨hlt, -, -⟩ := (h.ok d (by simp)).equal hd
      have hle := (h.ok d (by simp)).le_length.1
      rw [slice_succ (List.getElem?_eq_getElem (by omega : d.i1 < a.length)) hlt]
      simp
    have hitems : itemsOf a b d = (slice a d.i1 d.i2).map .keep := by
      unfold itemsOf
      rw [hd]
    rw [List.concat_eq_append, List.flatMap_append, List.flatMap_singleton, hitems,
      List.getLast?_append_of_ne_nil _ (by simpa using hne), List.getLast?_map]
    cases (slice a d.i1 d.i2).getLast? with
    | none => simp
    | some x => simp

theorem GroupAt.snoc (h : GroupAt a b group i1 j1 c.i1 c.j1) (hok : CodeOk a b c)
    (hprev : ∀ d ∈ group.getLast?, d.tag ≠ .equal → c.tag = .equal) :
    GroupAt a b (group ++ [c]) i1 j1 c.i2 c.j2 where
  ok := by
    intro d hd
    obtain hd | hd := List.mem_append.mp hd
    · exact h.ok d hd
    · obtain rfl := List.mem_singleton.mp hd
      exact hok
  first := by
    intro d hd
    cases group with
    | nil =>
      obtain rfl : c = d := by simpa using hd
      have hitems := h.items
      cases hitems
      exact ⟨rfl, rfl⟩
    | cons e es => exact h.first d (by simpa using hd)
  last := by simp
  items := by
    rw [List.flatMap_append, List.flatMap_singleton]
    refine h.items.append hok.items ?_
    have hj2 := hok.le_length.2
    by_cases hc : c.tag = .equal
    · obtain ⟨hlt, hlength, -⟩ := hok.equal hc
      exact Or.inr (Or.inl (by omega))
    · by_cases hdelete : c.tag = .delete
      · -- a deletion is not preceded by another change
        refine Or.inr (Or.inr (h.noLastAdd fun d hd => ?_))
        by_contra hne
        exact hc (hprev d hd hne)
      · have hlt := hok.adds (by cases htag : c.tag <;> simp_all)
        exact Or.inr (Or.inl (by omega))

/-- Hunks from `i` and `j` on, with matches between them. A hunk that others follow does not
reach the end of `b`. -/
inductive Hunks (a b : List α) : ℕ → ℕ → List (Hunk α) → Prop
  | nil {i j : ℕ} : (∀ k, a[i + k]? = b[j + k]?) → Hunks a b i j []
  | cons {i j : ℕ} {h : Hunk α} {hs : List (Hunk α)} : Gap a b i j h.i1 h.j1 →
      h.i1 ≤ h.i2 → h.j1 ≤ h.j2 →
      Items a b h.i2 h.j2 h.i1 h.j1 h.items → (hs = [] ∨ h.j2 < b.length) →
      Hunks a b h.i2 h.j2 hs → Hunks a b i j (h :: hs)

lemma Items.le (h : Items a b i2 j2 i j xs) : i ≤ i2 ∧ j ≤ j2 := by
  induction h with
  | nil => omega
  | keep _ _ _ ih => omega
  | del _ _ ih => omega
  | add _ _ _ ih => omega

lemma GroupAt.hunk {hs : List (Hunk α)} (hne : group ≠ []) (h : GroupAt a b group i1 j1 i2 j2)
    (hgap : Gap a b i j i1 j1) (hmore : hs = [] ∨ j2 < b.length) (hrest : Hunks a b i2 j2 hs) :
    Hunks a b i j (hunkOf a b group :: hs) := by
  have hfirst : (hunkOf a b group).i1 = i1 ∧ (hunkOf a b group).j1 = j1 := by
    unfold hunkOf
    cases group with
    | nil => exact absurd rfl hne
    | cons c cs => simpa using h.first c (by simp)
  have hlast : (hunkOf a b group).i2 = i2 ∧ (hunkOf a b group).j2 = j2 := by
    unfold hunkOf
    obtain rfl | ⟨cs, c, rfl⟩ := List.eq_nil_or_concat group
    · exact absurd rfl hne
    · simpa using h.last c (by simp)
  have hitems : Items a b (hunkOf a b group).i2 (hunkOf a b group).j2 (hunkOf a b group).i1
      (hunkOf a b group).j1 (hunkOf a b group).items := by
    rw [hfirst.1, hfirst.2, hlast.1, hlast.2]
    exact h.items
  refine .cons ?_ hitems.le.1 hitems.le.2 hitems ?_ ?_
  · rwa [hfirst.1, hfirst.2]
  · rwa [hlast.2]
  · rwa [hlast.1, hlast.2]

/-- The groups make up hunks. -/
theorem hunks_groupOpcodes {cs group : List Opcode} (hn : 0 < n) (hcs : Codes a b i2 j2 cs)
    (hgroup : GroupAt a b group i1 j1 i2 j2)
    (hprev : ∀ d ∈ group.getLast?, d.tag ≠ .equal → ∀ c ∈ cs.head?, c.tag = .equal)
    (hgap : Gap a b i j i1 j1) :
    Hunks a b i j ((groupOpcodes n group cs).map (hunkOf a b)) := by
  induction hcs generalizing group i1 j1 i j with
  | @nil i2 j2 hrest =>
    match group, hgroup with
    | [], hgroup =>
      have hitems := hgroup.items
      cases hitems
      exact .nil (hgap.rest hrest)
    | [c], hgroup =>
      have hfirst := hgroup.first c (by simp)
      have hlast := hgroup.last c (by simp)
      have hok := hgroup.ok c (by simp)
      show Hunks a b i j ((if c.tag = .equal then [] else [[c]]).map (hunkOf a b))
      by_cases hc : c.tag = .equal
      · rw [if_pos hc]
        -- a match on its own is no group
        obtain ⟨hlt, hlength, -⟩ := hok.equal hc
        have hmatch := hok.gap hc (x := 0) (m := c.i2 - c.i1) (by omega)
        have hle := hok.le
        rw [show c.i1 + 0 + (c.i2 - c.i1) = i2 by omega,
          show c.j1 + 0 + (c.i2 - c.i1) = j2 by omega, Nat.add_zero, Nat.add_zero, hfirst.1,
          hfirst.2] at hmatch
        exact .nil ((hgap.trans hmatch).rest hrest)
      · rw [if_neg hc]
        exact hgroup.hunk (by simp) hgap (Or.inl rfl) (.nil hrest)
    | c :: d :: cs, hgroup => exact hgroup.hunk (by simp) hgap (Or.inl rfl) (.nil hrest)
  | @cons c cs hok hnext hcs ih =>
    unfold groupOpcodes
    split
    · next hlong =>
      obtain ⟨hc, hlong⟩ := hlong
      obtain ⟨hlt, hlength, -⟩ := hok.equal hc
      have hle := hok.le
      have hle' := hok.le_length
      -- the match is cut into the end of this group, what no hunk shows, and the next start
      have hlead : ({ c with i2 := min c.i2 (c.i1 + n), j2 := min c.j2 (c.j1 + n) } : Opcode) =
          ⟨.equal, c.i1 + 0, c.i1 + 0 + n, c.j1 + 0, c.j1 + 0 + n⟩ := by
        rw [← hc, Nat.min_eq_right (by omega), Nat.min_eq_right (by omega), Nat.add_zero,
          Nat.add_zero]
      have htrail : ({ c with i1 := max c.i1 (c.i2 - n), j1 := max c.j1 (c.j2 - n) } : Opcode) =
          ⟨.equal, c.i1 + (c.i2 - n - c.i1), c.i1 + (c.i2 - n - c.i1) + n,
            c.j1 + (c.i2 - n - c.i1), c.j1 + (c.i2 - n - c.i1) + n⟩ := by
        rw [← hc, Nat.max_eq_right (by omega), Nat.max_eq_right (by omega)]
        congr 1 <;> omega
      have hskip := hok.gap hc (x := n) (m := c.i2 - n - c.i1 - n) (by omega)
      rw [hlead, htrail, List.map_cons]
      have hfirst : GroupAt a b (group ++ [⟨.equal, c.i1 + 0, c.i1 + 0 + n, c.j1 + 0,
          c.j1 + 0 + n⟩]) i1 j1 (c.i1 + 0 + n) (c.j1 + 0 + n) :=
        GroupAt.snoc (c := ⟨.equal, c.i1 + 0, c.i1 + 0 + n, c.j1 + 0, c.j1 + 0 + n⟩) hgroup
          (hok.part hc hn (by omega)) (fun _ _ _ => rfl)
      have hsecond : GroupAt a b [⟨.equal, c.i1 + (c.i2 - n - c.i1), c.i1 + (c.i2 - n - c.i1) + n,
          c.j1 + (c.i2 - n - c.i1), c.j1 + (c.i2 - n - c.i1) + n⟩] (c.i1 + (c.i2 - n - c.i1))
          (c.j1 + (c.i2 - n - c.i1)) (c.i1 + (c.i2 - n - c.i1) + n)
          (c.j1 + (c.i2 - n - c.i1) + n) :=
        groupAt_singleton (hok.part hc hn (by omega))
      rw [show c.i1 + (c.i2 - n - c.i1) + n = c.i2 by omega,
        show c.j1 + (c.i2 - n - c.i1) + n = c.j2 by omega] at hsecond ⊢
      rw [show c.i1 + n + (c.i2 - n - c.i1 - n) = c.i1 + (c.i2 - n - c.i1) by omega,
        show c.j1 + n + (c.i2 - n - c.i1 - n) = c.j1 + (c.i2 - n - c.i1) by omega] at hskip
      exact hfirst.hunk (by simp) hgap (Or.inr (by omega)) (ih hsecond (by simp) hskip)
    · refine ih (hgroup.snoc hok ?_) ?_ hgap
      · intro d hd hne
        exact hprev d hd hne c (by simp)
      · intro d hd hne e he
        obtain rfl : c = d := by simpa using hd
        exact hnext hne e he

lemma Codes.rest (h : Codes a b i j []) (k : ℕ) : a[i + k]? = b[j + k]? := by
  cases h with
  | nil hrest => exact hrest k

lemma Hunks.rest (h : Hunks a b i j []) (k : ℕ) : a[i + k]? = b[j + k]? := by
  cases h with
  | nil hrest => exact hrest k

theorem codes_trimFirst (hn : 0 < n) (h : Codes a b i j cs) :
    ∃ i' j', Gap a b i j i' j' ∧ Codes a b i' j' (trimFirst n cs) := by
  cases h with
  | nil hrest => exact ⟨i, j, .refl, .nil hrest⟩
  | @cons c cs hok hnext hcs =>
    rw [trimFirst]
    split
    · next hc =>
      obtain ⟨hlt, hlength, -⟩ := hok.equal hc
      have hle := hok.le
      obtain ⟨x, hx⟩ : ∃ x, x = c.i2 - min n (c.i2 - c.i1) - c.i1 := ⟨_, rfl⟩
      have hcode : ({ c with i1 := max c.i1 (c.i2 - n), j1 := max c.j1 (c.j2 - n) } : Opcode) =
          ⟨.equal, c.i1 + x, c.i1 + x + (c.i2 - c.i1 - x), c.j1 + x,
            c.j1 + x + (c.i2 - c.i1 - x)⟩ := by
        rw [← hc]
        congr 1 <;> omega
      have hgap := hok.gap hc (x := 0) (m := x) (by omega)
      rw [hcode]
      refine ⟨c.i1 + x, c.j1 + x, by simpa using hgap, ?_⟩
      refine .cons (c := ⟨.equal, c.i1 + x, c.i1 + x + (c.i2 - c.i1 - x), c.j1 + x,
        c.j1 + x + (c.i2 - c.i1 - x)⟩) (hok.part hc (by omega) (by omega)) (by simp) ?_
      show Codes a b (c.i1 + x + (c.i2 - c.i1 - x)) (c.j1 + x + (c.i2 - c.i1 - x)) cs
      rwa [show c.i1 + x + (c.i2 - c.i1 - x) = c.i2 by omega,
        show c.j1 + x + (c.i2 - c.i1 - x) = c.j2 by omega]
    · exact ⟨c.i1, c.j1, .refl, .cons hok hnext hcs⟩

lemma head?_trimLast (h : ∀ d ∈ cs.head?, d.tag = .equal) :
    ∀ d ∈ (trimLast n cs).head?, d.tag = .equal := by
  match cs, h with
  | [], _ => simp [trimLast]
  | [c], h =>
    have hc : c.tag = .equal := h c rfl
    simp [trimLast, hc]
  | c :: d :: cs, h => simpa [trimLast] using h

theorem codes_trimLast (hn : 0 < n) (h : Codes a b i j cs) : Codes a b i j (trimLast n cs) := by
  induction h with
  | nil hrest => exact .nil hrest
  | @cons c cs hok hnext hcs ih =>
    cases cs with
    | cons d ds => exact .cons hok (fun hc => head?_trimLast (hnext hc)) ih
    | nil =>
      rw [trimLast]
      split
      · next hc =>
        obtain ⟨hlt, hlength, -⟩ := hok.equal hc
        have hle := hok.le
        obtain ⟨m, hm⟩ : ∃ m, m = min n (c.i2 - c.i1) := ⟨_, rfl⟩
        have hcode : ({ c with i2 := min c.i2 (c.i1 + n), j2 := min c.j2 (c.j1 + n) } : Opcode) =
            ⟨.equal, c.i1 + 0, c.i1 + 0 + m, c.j1 + 0, c.j1 + 0 + m⟩ := by
          rw [← hc]
          congr 1 <;> omega
        have hgap := hok.gap hc (x := m) (m := c.i2 - c.i1 - m) (by omega)
        rw [show c.i1 + m + (c.i2 - c.i1 - m) = c.i2 by omega,
          show c.j1 + m + (c.i2 - c.i1 - m) = c.j2 by omega] at hgap
        rw [hcode]
        exact .cons (c := ⟨.equal, c.i1 + 0, c.i1 + 0 + m, c.j1 + 0, c.j1 + 0 + m⟩)
          (hok.part hc (by omega) (by omega)) (by simp) (.nil (hgap.rest hcs.rest))
      · exact .cons hok hnext hcs

/-- The hunks of two lists tell their difference. -/
theorem hunks_hunks (M : SequenceMatcher α) (a b : List α) : Hunks a b 0 0 (hunks M a b) := by
  have hcodes : Codes a b 0 0 (getOpcodes M a b) := codes_opcodesFrom (M.matching a b)
  unfold hunks getGroupedOpcodes
  by_cases hnil : getOpcodes M a b = []
  · rw [hnil] at hcodes ⊢
    exact .nil hcodes.rest
  · simp only [if_neg hnil]
    obtain ⟨i', j', hgap, htrim⟩ := codes_trimFirst (n := 3) (by decide) hcodes
    exact hunks_groupOpcodes (by decide) (codes_trimLast (by decide) htrim) groupAt_nil (by simp)
      hgap

/-- Only equal lists have no hunks. -/
theorem eq_of_hunks_eq_nil {M : SequenceMatcher α} (h : hunks M a b = []) : a = b := by
  have hhunks := hunks_hunks M a b
  rw [h] at hhunks
  ext1 k
  simpa using hhunks.rest k

/-! ## Taking the text apart -/

/-- What may follow the last hunk of a file: nothing, or the header of the next file. -/
def Tail (text : List Char) : Prop :=
  text = [] ∨ ∃ name rest, Unbroken name ∧
    text = ['-', '-', '-', ' ', 'a', '/'] ++ name ++ '\n' ::
      (['+', '+', '+', ' ', 'b', '/'] ++ name ++ '\n' :: rest)

/-- What may follow a hunk. -/
def Start (text : List Char) : Prop := ∀ c ∈ text.head?, c = '@' ∨ c = '-'

lemma Tail.start {text : List Char} (h : Tail text) : Start text := by
  obtain rfl | ⟨name, rest, -, rfl⟩ := h
  · simp [Start]
  · simp [Start]

lemma Start.not_newline {text : List Char} (h : Start text) : text.head? ≠ some '\n' := by
  intro hnewline
  have hstart := h '\n' hnewline
  simp at hstart

/-- A last line without a break takes in the first line of the next header. -/
lemma breakLine_tail {line name rest : List Char} (hline : Unbroken line) (hname : Unbroken name) :
    breakLine (line ++ (['-', '-', '-', ' ', 'a', '/'] ++ name ++ '\n' :: rest)) =
      (line ++ (['-', '-', '-', ' ', 'a', '/'] ++ name ++ ['\n']), rest) := by
  have hheader : Unbroken (line ++ (['-', '-', '-', ' ', 'a', '/'] ++ name)) := by
    rw [unbroken_append, unbroken_append]
    exact ⟨hline, by simp [Unbroken]; decide, hname⟩
  have hbreak := breakLine_append_newline hheader rest
  simpa [List.append_assoc] using hbreak

/-- A last line without a break is not mistaken for one that has a break. -/
lemma append_tail_ne (hline : Unbroken line) (htext : Tail text) (hline' : Ended line')
    (htext' : Start text') : line ++ text ≠ line' ++ text' := by
  intro h
  have hbreak := hline'.breakLine_append htext'.not_newline
  rw [← h] at hbreak
  obtain rfl | ⟨name, rest, hname, rfl⟩ := htext
  · rw [List.append_nil, breakLine_unbroken hline, Prod.mk.injEq] at hbreak
    exact hline'.not_unbroken (hbreak.1 ▸ hline)
  · rw [breakLine_tail hline hname, Prod.mk.injEq] at hbreak
    -- the rest would start with the second line of a header
    have hplus := htext' '+' (by rw [← hbreak.2]; rfl)
    simp at hplus

/-- Nor for another one without. -/
lemma append_tail_inj (hline : Unbroken line) (hline' : Unbroken line') (htext : Tail text)
    (htext' : Tail text') (h : line ++ text = line' ++ text') : line = line' ∧ text = text' := by
  have hbreak := congrArg breakLine h
  obtain rfl | ⟨name, rest, hname, rfl⟩ := htext
  · obtain rfl | ⟨name', rest', hname', rfl⟩ := htext'
    · simpa using h
    · rw [List.append_nil, breakLine_unbroken hline, breakLine_tail hline' hname',
        Prod.mk.injEq] at hbreak
      exact absurd hbreak.2 (by simp)
  · obtain rfl | ⟨name', rest', hname', rfl⟩ := htext'
    · rw [List.append_nil, breakLine_unbroken hline', breakLine_tail hline hname,
        Prod.mk.injEq] at hbreak
      exact absurd hbreak.2 (by simp)
    · rw [breakLine_tail hline hname, breakLine_tail hline' hname', Prod.mk.injEq] at hbreak
      obtain ⟨hfirst, hrest⟩ := hbreak
      -- the second line of the header repeats the name
      simp only [List.append_assoc] at hrest
      have hsecond := congrArg breakLine (List.append_cancel_left hrest)
      rw [breakLine_append_newline hname, breakLine_append_newline hname', Prod.mk.injEq] at hsecond
      obtain rfl : name = name' := List.append_cancel_right hsecond.1
      obtain rfl : line = line' := List.append_cancel_right hfirst
      exact ⟨rfl, List.append_cancel_left h⟩

/-- The text of the lines of a hunk. -/
def itemsText (xs : List (Item Line)) : List Char := (xs.map Item.text).flatten

lemma Items.length_le (h : Items a b i2 j2 i j xs) : xs.length ≤ (i2 - i) + (j2 - j) := by
  induction h with
  | nil => simp
  | keep _ _ h ih =>
    have hle := h.le
    rw [List.length_cons]
    omega
  | del _ h ih =>
    have hle := h.le
    rw [List.length_cons]
    omega
  | add _ _ h ih =>
    have hle := h.le
    rw [List.length_cons]
    omega

lemma Items.eq_nil (h : Items a b i j i j xs) : xs = [] := by
  have hlength := h.length_le
  exact List.length_eq_zero_iff.mp (by omega)

section Text

variable {a b b' : List Line}

/-- The two sides of a diff hold the same element from `j` on, up to `j2`. -/
def SameOn (b b' : List Line) (j j2 : ℕ) : Prop := ∀ k, j ≤ k → k < j2 → b[k]? = b'[k]?

lemma SameOn.cons (h : b[j]? = b'[j]?) (hrest : SameOn b b' (j + 1) j2) : SameOn b b' j j2 := by
  intro k hj hk
  by_cases hlt : j = k
  · rw [← hlt, h]
  · exact hrest k (by omega) hk

variable {text : List Char}

/-- What follows an addition does not complete its break. -/
lemma not_newline_itemsText {xs : List (Item Line)} (h : Start text) :
    (itemsText xs ++ text).head? ≠ some '\n' := by
  cases xs with
  | nil => exact h.not_newline
  | cons x xs => cases x <;> simp [itemsText, Item.text]

/-- The lines of a hunk, and what follows it, are found again from its text, its ranges and the
old lines. -/
theorem itemsText_inj {xs xs' : List (Item Line)} {text text' : List Char} (hb : Lines b)
    (hb' : Lines b') (hxs : Items a b i2 j2 i j xs) (hxs' : Items a b' i2 j2 i j xs')
    (hstart : Start text) (hstart' : Start text') (htail : j2 = b.length → Tail text)
    (htail' : j2 = b'.length → Tail text')
    (h : itemsText xs ++ text = itemsText xs' ++ text') :
    SameOn b b' j j2 ∧ text = text' := by
  induction hxs generalizing xs' with
  | nil =>
    rw [hxs'.eq_nil] at h
    exact ⟨fun k hj hk => absurd hj (by omega), h⟩
  | @keep i j l xs ha hbj hxs ih =>
    have hle := hxs.le
    cases hxs' with
    | nil => omega
    | @keep _ _ l' xs' ha' hbj' hxs' =>
      obtain rfl : l = l' := by simpa [ha] using ha'
      obtain ⟨hsame, htext⟩ := ih hxs' (by simpa [itemsText, Item.text] using h)
      exact ⟨hsame.cons (by rw [hbj, hbj']), htext⟩
    | del ha' hxs' => simp [itemsText, Item.text] at h
    | add hbj' hend' hxs' => simp [itemsText, Item.text] at h
  | @del i j l xs ha hxs ih =>
    have hle := hxs.le
    cases hxs' with
    | nil => omega
    | keep ha' hbj' hxs' => simp [itemsText, Item.text] at h
    | @del _ _ l' xs' ha' hxs' =>
      obtain rfl : l = l' := by simpa [ha] using ha'
      exact ih hxs' (by simpa [itemsText, Item.text] using h)
    | add hbj' hend' hxs' => simp [itemsText, Item.text] at h
  | @add i j l xs hbj hend hxs ih =>
    have hle := hxs.le
    cases hxs' with
    | nil => omega
    | keep ha' hbj' hxs' => simp [itemsText, Item.text] at h
    | del ha' hxs' => simp [itemsText, Item.text] at h
    | @add _ _ l' xs' hbj' hend' hxs' =>
      have hlines : l ++ (itemsText xs ++ text) = l' ++ (itemsText xs' ++ text') := by
        simpa [itemsText, Item.text] using h
      -- a line without a break is the last one of its side, and of the hunk
      have hlast : ∀ {c : List Line} {l : Line} {xs : List (Item Line)},
          (xs = [] ∨ j + 1 < c.length) → Items a c i2 j2 i (j + 1) xs → j + 1 = c.length →
            i = i2 ∧ j + 1 = j2 ∧ j2 = c.length := by
        intro c l xs hend hxs hj
        obtain rfl | hlt := hend
        · cases hxs
          exact ⟨rfl, rfl, hj⟩
        · omega
      obtain hl | ⟨hj, hl⟩ := hb.getElem? hbj
      · obtain hl' | ⟨hj', hl'⟩ := hb'.getElem? hbj'
        · have hbreak := congrArg breakLine hlines
          rw [hl.breakLine_append (not_newline_itemsText hstart),
            hl'.breakLine_append (not_newline_itemsText hstart'), Prod.mk.injEq] at hbreak
          obtain ⟨hsame, htext⟩ := ih hxs' hbreak.2
          exact ⟨hsame.cons (by rw [hbj, hbj', hbreak.1]), htext⟩
        · obtain ⟨rfl, rfl, hj2⟩ := hlast (l := l') hend' hxs' hj'
          rw [hxs.eq_nil, hxs'.eq_nil] at hlines
          exact absurd hlines.symm (append_tail_ne hl' (htail' hj2) hl hstart)
      · obtain ⟨rfl, rfl, hj2⟩ := hlast (l := l) hend hxs hj
        rw [hxs.eq_nil, hxs'.eq_nil] at hlines
        obtain hl' | ⟨hj', hl'⟩ := hb'.getElem? hbj'
        · exact absurd hlines (append_tail_ne hl (htail hj2) hl' hstart')
        · obtain ⟨hline, htext⟩ := append_tail_inj hl hl' (htail hj2) (htail' hj') hlines
          refine ⟨SameOn.cons (by rw [hbj, hbj', hline]) ?_, htext⟩
          exact fun k hk hlt => absurd hlt (by omega)

/-! ## Hunks -/

/-- A range is found again in front of a blank. -/
lemma rangeText_append_inj {s t s' t' : ℕ} (hst : s ≤ t) (hst' : s' ≤ t') {x x' : List Char}
    (h : rangeText s t ++ ' ' :: x = rangeText s' t' ++ ' ' :: x') : s = s' ∧ t = t' ∧ x = x' := by
  have hblank : (' ' : Char).isDigit = false := rfl
  have hcomma : (',' : Char).isDigit = false := rfl
  -- the text as a first number, what stands behind it, and a second number
  have hform : ∀ {s t : ℕ} {x : List Char}, s ≤ t →
      (t = s + 1 ∧ rangeText s t ++ ' ' :: x = zeroPadChars 0 (s + 1) ++ ' ' :: x) ∨
      (t = s ∧ rangeText s t ++ ' ' :: x =
        zeroPadChars 0 s ++ ',' :: (zeroPadChars 0 (t - s) ++ ' ' :: x)) ∨
      (s + 1 < t ∧ rangeText s t ++ ' ' :: x =
        zeroPadChars 0 (s + 1) ++ ',' :: (zeroPadChars 0 (t - s) ++ ' ' :: x)) := by
    intro s t x hst
    by_cases hone : t - s = 1
    · left
      refine ⟨by omega, ?_⟩
      simp only [rangeText, if_pos hone]
    · by_cases hzero : t - s = 0
      · right; left
        refine ⟨by omega, ?_⟩
        simp only [rangeText, if_neg hone, if_pos hzero, List.append_assoc, List.cons_append]
      · right; right
        refine ⟨by omega, ?_⟩
        simp only [rangeText, if_neg hone, if_neg hzero, List.append_assoc, List.cons_append]
  obtain ⟨ht, heq⟩ | ⟨ht, heq⟩ | ⟨ht, heq⟩ := hform (x := x) hst
  · obtain ⟨ht', heq'⟩ | ⟨ht', heq'⟩ | ⟨ht', heq'⟩ := hform (x := x') hst'
    · obtain ⟨hs, -, hx⟩ := zeroPadChars_append_inj hblank hblank (heq ▸ heq' ▸ h)
      exact ⟨by omega, by omega, hx⟩
    · exact absurd (zeroPadChars_append_inj hblank hcomma (heq ▸ heq' ▸ h)).2.1 (by decide)
    · exact absurd (zeroPadChars_append_inj hblank hcomma (heq ▸ heq' ▸ h)).2.1 (by decide)
  all_goals
    obtain ⟨ht', heq'⟩ | ⟨ht', heq'⟩ | ⟨ht', heq'⟩ := hform (x := x') hst'
    · exact absurd (zeroPadChars_append_inj hcomma hblank (heq ▸ heq' ▸ h)).2.1 (by decide)
    all_goals
      obtain ⟨hs, -, hx⟩ := zeroPadChars_append_inj hcomma hcomma (heq ▸ heq' ▸ h)
      obtain ⟨hlength, -, hx⟩ := zeroPadChars_append_inj hblank hblank hx
      exact ⟨by omega, by omega, hx⟩

def hunksText (hs : List (Hunk Line)) : List Char := (hs.flatMap Hunk.lines).flatten

lemma hunksText_cons (h : Hunk Line) (hs : List (Hunk Line)) (text : List Char) :
    hunksText (h :: hs) ++ text =
      '@' :: '@' :: ' ' :: '-' :: (rangeText h.i1 h.i2 ++ ' ' :: ('+' :: (rangeText h.j1 h.j2 ++
        ' ' :: ('@' :: '@' :: '\n' :: (itemsText h.items ++ (hunksText hs ++ text)))))) := by
  simp [hunksText, Hunk.lines, itemsText]

lemma start_hunksText {hs : List (Hunk Line)} (h : Start text) : Start (hunksText hs ++ text) := by
  cases hs with
  | nil => exact h
  | cons h hs =>
    rw [hunksText_cons]
    simp [Start]

/-- A hunk is no header of a file. -/
lemma Tail.ne_hunksText_cons (htext : Tail text) (h : Hunk Line) (hs : List (Hunk Line))
    (text' : List Char) : text ≠ hunksText (h :: hs) ++ text' := by
  rw [hunksText_cons]
  obtain rfl | ⟨name, rest, -, rfl⟩ := htext
  · simp
  · simp

/-- The new side, and what follows the hunks, are found again from their text and the old
side. -/
theorem hunksText_inj {hs hs' : List (Hunk Line)} {text text' : List Char} (hb : Lines b)
    (hb' : Lines b') (h : Hunks a b i j hs) (h' : Hunks a b' i j hs') (htail : Tail text)
    (htail' : Tail text') (heq : hunksText hs ++ text = hunksText hs' ++ text') :
    (∀ k, b[j + k]? = b'[j + k]?) ∧ text = text' := by
  induction h generalizing hs' with
  | nil hrest =>
    cases hs' with
    | nil => exact ⟨fun k => (hrest k).symm.trans (h'.rest k), heq⟩
    | cons g gs => exact absurd heq (htail.ne_hunksText_cons g gs text')
  | @cons i j g gs hgap hi hj hitems hmore hrest ih =>
    cases h' with
    | nil hrest' => exact absurd heq.symm (htail'.ne_hunksText_cons g gs text)
    | @cons _ _ g' gs' hgap' hi' hj' hitems' hmore' hrest' =>
      rw [hunksText_cons, hunksText_cons] at heq
      simp only [List.cons.injEq, true_and] at heq
      -- the ranges of the two hunks are the same
      obtain ⟨hi1, hi2, heq⟩ := rangeText_append_inj hi hi' heq
      simp only [List.cons.injEq, true_and] at heq
      obtain ⟨hj1, hj2, heq⟩ := rangeText_append_inj hj hj' heq
      simp only [List.cons.injEq, true_and] at heq
      rw [← hi1, ← hi2, ← hj1, ← hj2] at hitems'
      rw [← hi2, ← hj2] at hrest'
      rw [← hi1, ← hj1] at hgap'
      have hstart : Start (hunksText gs ++ text) := start_hunksText htail.start
      have hstart' : Start (hunksText gs' ++ text') := start_hunksText htail'.start
      obtain ⟨hsame, heq⟩ := itemsText_inj hb hb' hitems hitems' hstart hstart'
        (fun hlast => by
          obtain rfl | hlt := hmore
          · exact htail
          · omega)
        (fun hlast => by
          obtain rfl | hlt := hmore'
          · exact htail'
          · omega) heq
      obtain ⟨hafter, htext⟩ := ih hrest' heq
      refine ⟨fun k => ?_, htext⟩
      obtain ⟨n, hi1, hj1, hn⟩ := hgap
      obtain ⟨n', hi1', hj1', hn'⟩ := hgap'
      obtain rfl : n = n' := by omega
      by_cases hk : k < n
      · exact (hn k hk).symm.trans (hn' k hk)
      · by_cases hk2 : j + k < g.j2
        · exact hsame (j + k) (by omega) hk2
        · have hat := hafter (j + k - g.j2)
          rwa [show g.j2 + (j + k - g.j2) = j + k by omega] at hat

/-! ## Several files -/

variable {M : SequenceMatcher Line} {name name' : List Char}

/-- The diff of a file under the prefixes `a/` and `b/`. -/
def fileDiff (M : SequenceMatcher Line) (name : List Char) (a b : List Line) : List Char :=
  (unifiedDiff M a b ('a' :: '/' :: name) ('b' :: '/' :: name)).flatten

lemma fileDiff_append (h : a ≠ b) (text : List Char) :
    fileDiff M name a b ++ text =
      ['-', '-', '-', ' ', 'a', '/'] ++ name ++ '\n' ::
        (['+', '+', '+', ' ', 'b', '/'] ++ name ++ '\n' :: (hunksText (hunks M a b) ++ text)) := by
  unfold fileDiff unifiedDiff
  cases hhunks : hunks M a b with
  | nil => exact absurd (eq_of_hunks_eq_nil hhunks) h
  | cons g gs => simp [hunksText]

lemma tail_fileDiff_append (h : a ≠ b) (hname : Unbroken name) (text : List Char) :
    Tail (fileDiff M name a b ++ text) :=
  Or.inr ⟨name, _, hname, fileDiff_append h text⟩

/-- Changes of files with plain names. -/
def Changes (base : List Char → List Line) (changes : List (List Char × List Line)) : Prop :=
  ∀ c ∈ changes, Unbroken c.1 ∧ base c.1 ≠ c.2 ∧ Lines c.2

/-- The diffs of several files, one after the other. -/
def filesDiff (M : SequenceMatcher Line) (base : List Char → List Line)
    (changes : List (List Char × List Line)) : List Char :=
  changes.flatMap fun c => fileDiff M c.1 (base c.1) c.2

variable {base : List Char → List Line}

lemma tail_filesDiff {changes : List (List Char × List Line)} (h : Changes base changes) :
    Tail (filesDiff M base changes) := by
  cases changes with
  | nil => exact Or.inl rfl
  | cons c cs =>
    obtain ⟨hname, hne, -⟩ := h c (by simp)
    exact tail_fileDiff_append hne hname _

/-- The text of several diffs determines the changes. -/
theorem filesDiff_inj {cs cs' : List (List Char × List Line)} (hcs : Changes base cs)
    (hcs' : Changes base cs') (h : filesDiff M base cs = filesDiff M base cs') : cs = cs' := by
  induction cs generalizing cs' with
  | nil =>
    cases cs' with
    | nil => rfl
    | cons c' cs' =>
      have hne := (hcs' c' (by simp)).2.1
      rw [filesDiff, filesDiff, List.flatMap_nil, List.flatMap_cons, fileDiff_append hne] at h
      simp at h
  | cons c cs ih =>
    obtain ⟨hname, hne, hlines⟩ := hcs c (by simp)
    cases cs' with
    | nil =>
      rw [filesDiff, filesDiff, List.flatMap_nil, List.flatMap_cons, fileDiff_append hne] at h
      simp at h
    | cons c' cs' =>
      obtain ⟨hname', hne', hlines'⟩ := hcs' c' (by simp)
      have hrest : Changes base cs := fun d hd => hcs d (by simp [hd])
      have hrest' : Changes base cs' := fun d hd => hcs' d (by simp [hd])
      have htail := tail_filesDiff (M := M) hrest
      have htail' := tail_filesDiff (M := M) hrest'
      have hfirst : fileDiff M c.1 (base c.1) c.2 ++ filesDiff M base cs =
          fileDiff M c'.1 (base c'.1) c'.2 ++ filesDiff M base cs' := h
      rw [fileDiff_append hne, fileDiff_append hne'] at hfirst
      simp only [List.append_assoc] at hfirst
      -- the names end at the first break
      have hheader := congrArg breakLine (List.append_cancel_left hfirst)
      rw [breakLine_append_newline hname, breakLine_append_newline hname', Prod.mk.injEq] at hheader
      have hnames : c.1 = c'.1 := List.append_cancel_right hheader.1
      rw [← hnames] at hheader hne'
      have hhunks := List.append_cancel_left (List.append_cancel_left hheader.2)
      simp only [List.cons.injEq, true_and] at hhunks
      obtain ⟨hsame, htext⟩ := hunksText_inj hlines hlines' (hunks_hunks M _ _)
        (hunks_hunks M _ _) htail htail' hhunks
      have hside : c.2 = c'.2 := by
        ext1 k
        simpa using hsame k
      rw [ih hrest hrest' htext, Prod.ext hnames hside]

end Text

end Lib
