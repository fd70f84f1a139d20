import Mathlib.Data.Fintype.Card
import Mathlib.Data.Fintype.EquivFin
import Mathlib.Data.Fintype.Sets
import Mathlib.Data.List.Perm.Basic
import Mathlib.Data.List.Nodup
import Mathlib.Logic.Relation
import Mathlib.Order.WellFounded
import Mathlib.Data.Int.Notation
import Mathlib.Data.Nat.Notation

/-!
# Layers of a dependency graph

Kahn's method, a whole layer at a time: the nodes whose degree has come down to zero make up the
next layer, and the degrees of their successors come down by one each. A graph is given by its
successor and predecessor lists.
-/

namespace Lib

variable {α : Type} [DecidableEq α]

/-- The degrees after a layer is taken. -/
def settle (successors : α → List α) (ready : List α) (degree : α → ℤ) (a : α) : ℤ :=
  degree a - ((ready.filter fun r => a ∈ successors r).length : ℤ)

/-- The layers of the remaining nodes, in at most `n` rounds. A round without a ready node fails;
every other round takes a node, so that as many rounds as nodes are enough. -/
def layers (successors : α → List α) : ℕ → List α → (α → ℤ) → Option (List (List α))
  | 0, remaining, _ => if remaining = [] then some [] else none
  | n + 1, remaining, degree =>
    if remaining = [] then some []
    else
      let ready := remaining.filter fun a => degree a = 0
      if ready = [] then none
      else
        (layers successors n (remaining.filter (· ∉ ready)) (settle successors ready degree)).map
          (ready :: ·)

/-- The number of the layer that holds a node. -/
def layerOf (ls : List (List α)) (a : α) : ℕ := ls.findIdx (a ∈ ·)

variable {successors predecessors : α → List α}

/-- Two lists that describe one graph. -/
structure Opposite (successors predecessors : α → List α) : Prop where
  mem_iff : ∀ a b, b ∈ successors a ↔ a ∈ predecessors b
  nodup : ∀ a, (predecessors a).Nodup

/-- Degrees count the predecessors that remain. -/
def Counts (predecessors : α → List α) (remaining : List α) (degree : α → ℤ) : Prop :=
  ∀ a ∈ remaining, degree a = (((predecessors a).filter (· ∈ remaining)).length : ℤ)

/-- Counting the ready nodes before `a` from either side. -/
lemma length_ready_predecessors (hop : Opposite successors predecessors) {ready : List α}
    (hready : ready.Nodup) (a : α) :
    (ready.filter fun r => a ∈ successors r).length =
      ((predecessors a).filter (· ∈ ready)).length := by
  apply List.Perm.length_eq
  rw [List.perm_ext_iff_of_nodup (hready.filter _) ((hop.nodup a).filter _)]
  intro r
  simp only [List.mem_filter, decide_eq_true_eq, hop.mem_iff]
  exact and_comm

lemma length_filter_split (l : List α) (s t : List α) (hst : t ⊆ s) :
    (l.filter (· ∈ s)).length =
      (l.filter (· ∈ t)).length + (l.filter fun a => a ∈ s.filter (· ∉ t)).length := by
  induction l with
  | nil => rfl
  | cons a l ih =>
    by_cases hs : a ∈ s
    · by_cases ht : a ∈ t
      · simp only [List.filter_cons, List.mem_filter, hs, ht, decide_true, not_true_eq_false,
          decide_false, and_false, if_true, List.length_cons, Bool.false_eq_true, if_false]
        simp only [List.mem_filter] at ih
        omega
      · simp only [List.filter_cons, List.mem_filter, hs, ht, decide_true, not_false_eq_true,
          and_self, if_true, List.length_cons, decide_false, Bool.false_eq_true, if_false]
        simp only [List.mem_filter] at ih
        omega
    · have ht : a ∉ t := fun h => hs (hst h)
      simp only [List.filter_cons, List.mem_filter, hs, ht, decide_false, false_and,
        Bool.false_eq_true, if_false]
      simp only [List.mem_filter] at ih
      exact ih

variable {remaining : List α} {degree : α → ℤ} {a : α} {n : ℕ}

/-- A round keeps the degrees right. -/
lemma Counts.settle (hop : Opposite successors predecessors) {remaining ready : List α}
    (h : Counts predecessors remaining degree) (hnodup : ready.Nodup) (hsub : ready ⊆ remaining) :
    Counts predecessors (remaining.filter (· ∉ ready)) (Lib.settle successors ready degree) := by
  intro a ha
  have hdegree := h a (List.mem_of_mem_filter ha)
  have hsplit := length_filter_split (predecessors a) remaining ready hsub
  have hready := length_ready_predecessors hop hnodup a
  unfold Lib.settle
  omega

/-- What is known of the layers of some nodes. -/
structure Layered (predecessors : α → List α) (nodes : List α) (ls : List (List α)) : Prop where
  perm : ls.flatten.Perm nodes
  nonempty : ∀ l ∈ ls, l ≠ []
  before : ∀ a ∈ nodes, ∀ p ∈ predecessors a, p ∈ nodes → layerOf ls p < layerOf ls a

lemma layerOf_cons_of_mem {l : List α} {ls : List (List α)} (h : a ∈ l) :
    layerOf (l :: ls) a = 0 := by
  simp [layerOf, List.findIdx_cons, h]

lemma layerOf_cons_of_not_mem {l : List α} {ls : List (List α)} (h : a ∉ l) :
    layerOf (l :: ls) a = layerOf ls a + 1 := by
  simp [layerOf, List.findIdx_cons, h]

/-- The ready nodes of a round. -/
def readyNodes (remaining : List α) (degree : α → ℤ) : List α :=
  remaining.filter fun a => degree a = 0

/-- What the layers of some remaining nodes look like. -/
lemma layers_cases {ls : List (List α)} (h : layers successors n remaining degree = some ls) :
    (remaining = [] ∧ ls = []) ∨
      ∃ m rest, n = m + 1 ∧ readyNodes remaining degree ≠ [] ∧
        layers successors m (remaining.filter (· ∉ readyNodes remaining degree))
          (settle successors (readyNodes remaining degree) degree) = some rest ∧
        ls = readyNodes remaining degree :: rest := by
  cases n with
  | zero =>
    rw [layers, Option.ite_none_right_eq_some, Option.some.injEq] at h
    exact .inl ⟨h.1, h.2.symm⟩
  | succ m =>
    rw [layers] at h
    split at h
    · rename_i hnil
      exact .inl ⟨hnil, (Option.some.inj h).symm⟩
    · simp only at h
      split at h
      · simp at h
      · rename_i hready
        obtain ⟨rest, hrest, rfl⟩ := Option.map_eq_some_iff.mp h
        exact .inr ⟨m, rest, rfl, hready, hrest, rfl⟩

omit [DecidableEq α] in
lemma mem_readyNodes : a ∈ readyNodes remaining degree ↔ a ∈ remaining ∧ degree a = 0 := by
  simp [readyNodes]

lemma mem_not_ready (ha : a ∈ remaining) (hnot : a ∉ readyNodes remaining degree) :
    a ∈ remaining.filter (· ∉ readyNodes remaining degree) :=
  List.mem_filter.mpr ⟨ha, decide_eq_true hnot⟩

/-- The layers hold every node once, each after its predecessors. -/
theorem layered_of_layers (hop : Opposite successors predecessors) {ls : List (List α)}
    (hnodup : remaining.Nodup) (hcounts : Counts predecessors remaining degree)
    (h : layers successors n remaining degree = some ls) : Layered predecessors remaining ls := by
  induction n generalizing remaining degree ls with
  | zero =>
    rcases layers_cases h with ⟨rfl, rfl⟩ | ⟨m, rest, hm, -⟩
    · exact ⟨List.Perm.refl _, by simp, by simp⟩
    · omega
  | succ n ih =>
    rcases layers_cases h with ⟨rfl, rfl⟩ | ⟨m, rest, hm, hready, hrest, rfl⟩
    · exact ⟨List.Perm.refl _, by simp, by simp⟩
    · obtain rfl : n = m := by omega
      have hih := ih (hnodup.filter _)
        (hcounts.settle hop (hnodup.filter _) (List.filter_subset_self _)) hrest
      have hperm : (readyNodes remaining degree ++
          remaining.filter (· ∉ readyNodes remaining degree)).Perm remaining := by
        have hnot : remaining.filter (· ∉ readyNodes remaining degree) =
            remaining.filter fun a => !decide (degree a = 0) := by
          apply List.filter_congr
          intro a ha
          simp [mem_readyNodes, ha]
        rw [hnot]
        exact List.filter_append_perm _ _
      refine ⟨?_, ?_, ?_⟩
      · rw [List.flatten_cons]
        exact (hih.perm.append_left _).trans hperm
      · intro l hl
        rcases List.mem_cons.mp hl with rfl | hl
        · exact hready
        · exact hih.nonempty l hl
      · intro a ha p hp hpmem
        by_cases haready : a ∈ readyNodes remaining degree
        · -- a ready node has no predecessor that remains
          have hcount := hcounts a ha
          rw [(mem_readyNodes.mp haready).2] at hcount
          have hlen : ((predecessors a).filter (· ∈ remaining)).length = 0 := by omega
          have hmem : p ∈ (predecessors a).filter (· ∈ remaining) := by
            simp [hp, hpmem]
          rw [List.length_eq_zero_iff.mp hlen] at hmem
          simp at hmem
        · rw [layerOf_cons_of_not_mem haready]
          by_cases hpready : p ∈ readyNodes remaining degree
          · rw [layerOf_cons_of_mem hpready]
            omega
          · rw [layerOf_cons_of_not_mem hpready]
            have hlt := hih.before a (mem_not_ready ha haready) p hp (mem_not_ready hpmem hpready)
            omega

variable {nodes : List α} {ls : List (List α)}

lemma Layered.layerOf_lt (h : Layered predecessors nodes ls) (ha : a ∈ nodes) :
    layerOf ls a < ls.length := by
  obtain ⟨l, hl, hal⟩ := List.mem_flatten.mp (h.perm.mem_iff.mpr ha)
  exact List.findIdx_lt_length_of_exists ⟨l, hl, by simpa using hal⟩

lemma Layered.mem_layerOf (h : Layered predecessors nodes ls) (ha : a ∈ nodes) :
    ∃ l, ls[layerOf ls a]? = some l ∧ a ∈ l := by
  have hlt := h.layerOf_lt ha
  refine ⟨ls[layerOf ls a], List.getElem?_eq_getElem hlt, ?_⟩
  exact of_decide_eq_true (List.findIdx_getElem (p := fun l => decide (a ∈ l)) (w := hlt))

/-! ## Every layer is as low as it can be -/

/-- Layers list the nodes in their order. -/
theorem sublist_of_layers {ls : List (List α)}
    (h : layers successors n remaining degree = some ls) : ∀ l ∈ ls, l.Sublist remaining := by
  induction n generalizing remaining degree ls with
  | zero =>
    rcases layers_cases h with ⟨-, rfl⟩ | ⟨m, rest, hm, -⟩
    · simp
    · omega
  | succ n ih =>
    rcases layers_cases h with ⟨-, rfl⟩ | ⟨m, rest, hm, -, hrest, rfl⟩
    · simp
    · obtain rfl : n = m := by omega
      intro l hl
      rcases List.mem_cons.mp hl with rfl | hl
      · exact List.filter_sublist
      · exact (ih hrest l hl).trans List.filter_sublist

/-- A node that is not on the first layer has a predecessor on the layer before. -/
theorem exists_predecessor_of_layers (hop : Opposite successors predecessors) {ls : List (List α)}
    (hnodup : remaining.Nodup) (hcounts : Counts predecessors remaining degree)
    (h : layers successors n remaining degree = some ls) (ha : a ∈ remaining)
    (hpos : 0 < layerOf ls a) :
    ∃ p ∈ predecessors a, p ∈ remaining ∧ layerOf ls a = layerOf ls p + 1 := by
  induction n generalizing remaining degree ls with
  | zero =>
    rcases layers_cases h with ⟨rfl, rfl⟩ | ⟨m, rest, hm, -⟩
    · simp at ha
    · omega
  | succ n ih =>
    rcases layers_cases h with ⟨rfl, rfl⟩ | ⟨m, rest, hm, -, hrest, rfl⟩
    · simp at ha
    · obtain rfl : n = m := by omega
      have hready : a ∉ readyNodes remaining degree := by
        intro hmem
        rw [layerOf_cons_of_mem hmem] at hpos
        omega
      have hnodup' : (readyNodes remaining degree).Nodup := hnodup.filter _
      have hcounts' := hcounts.settle hop hnodup' (List.filter_subset_self _)
      have hlayered := layered_of_layers hop (hnodup.filter _) hcounts' hrest
      rw [layerOf_cons_of_not_mem hready]
      rcases Nat.eq_zero_or_pos (layerOf rest a) with hzero | hmore
      · -- its degree was not zero, and all predecessors that were left were ready
        have hdegree : degree a ≠ 0 := fun hdegree => hready (mem_readyNodes.mpr ⟨ha, hdegree⟩)
        have hcount := hcounts a ha
        have hne : (predecessors a).filter (· ∈ remaining) ≠ [] := by
          intro hnil
          rw [hnil] at hcount
          exact hdegree hcount
        obtain ⟨p, hp⟩ := List.exists_mem_of_ne_nil _ hne
        obtain ⟨hp, hpmem⟩ := List.mem_filter.mp hp
        have hpmem := of_decide_eq_true hpmem
        refine ⟨p, hp, hpmem, ?_⟩
        have hpready : p ∈ readyNodes remaining degree := by
          by_contra hnot
          have hlt := hlayered.before a (mem_not_ready ha hready) p hp (mem_not_ready hpmem hnot)
          omega
        rw [layerOf_cons_of_mem hpready]
        omega
      · obtain ⟨p, hp, hpmem, hlayer⟩ :=
          ih (hnodup.filter _) hcounts' hrest (mem_not_ready ha hready) hmore
        obtain ⟨hpmem, hnot⟩ := List.mem_filter.mp hpmem
        refine ⟨p, hp, hpmem, ?_⟩
        rw [layerOf_cons_of_not_mem (of_decide_eq_true hnot)]
        omega

/-! ## Cycles -/

/-- A round without a ready node has found a cycle. -/
lemma exists_readyNodes (hacyclic : ∀ a, ¬Relation.TransGen (fun p a => p ∈ predecessors a) a a)
    (hcounts : Counts predecessors remaining degree) (hne : remaining ≠ []) :
    readyNodes remaining degree ≠ [] := by
  let before (x y : {a // a ∈ remaining}) : Prop :=
    Relation.TransGen (fun p a => p ∈ predecessors a) x.1 y.1
  have hfinite : Finite {a // a ∈ remaining} := inferInstance
  have htrans : IsTrans _ before := ⟨fun x y z hxy hyz => hxy.trans hyz⟩
  have hirrefl : Std.Irrefl before := ⟨fun x h => hacyclic x.1 h⟩
  obtain ⟨b, hb⟩ := List.exists_mem_of_ne_nil _ hne
  obtain ⟨m, -, hmin⟩ := (Finite.wellFounded_of_trans_of_irrefl before).has_min Set.univ
    ⟨⟨b, hb⟩, trivial⟩
  have hnil : (predecessors m.1).filter (· ∈ remaining) = [] := by
    rw [List.filter_eq_nil_iff]
    intro p hp hpmem
    exact hmin ⟨p, of_decide_eq_true hpmem⟩ trivial (.single hp)
  have hdegree : degree m.1 = 0 := by
    rw [hcounts m.1 m.2, hnil]
    rfl
  exact List.ne_nil_of_mem (mem_readyNodes.mpr ⟨m.2, hdegree⟩)

/-- Every round takes a node. -/
lemma length_filter_not_ready (h : readyNodes remaining degree ≠ []) :
    (remaining.filter (· ∉ readyNodes remaining degree)).length < remaining.length := by
  obtain ⟨a, ha⟩ := List.exists_mem_of_ne_nil _ h
  apply List.length_filter_lt_length_iff_exists.mpr
  exact ⟨a, (mem_readyNodes.mp ha).1, by simpa using ha⟩

/-- As many rounds as nodes are enough: the loop ends. -/
theorem layers_eq_of_le {n m : ℕ} (hn : remaining.length ≤ n) (hm : remaining.length ≤ m) :
    layers successors n remaining degree = layers successors m remaining degree := by
  induction n generalizing m remaining degree with
  | zero =>
    obtain rfl := List.length_eq_zero_iff.mp (Nat.le_zero.mp hn)
    cases m <;> rfl
  | succ n ih =>
    cases m with
    | zero =>
      obtain rfl := List.length_eq_zero_iff.mp (Nat.le_zero.mp hm)
      rfl
    | succ m =>
      by_cases hnil : remaining = []
      · subst hnil
        rfl
      · by_cases hready : readyNodes remaining degree = []
        · simp only [layers, if_neg hnil]
          show (if readyNodes remaining degree = [] then none else _) =
            (if readyNodes remaining degree = [] then none else _)
          rw [if_pos hready, if_pos hready]
        · have hlt := length_filter_not_ready hready
          have hrest : layers successors n
                (remaining.filter (· ∉ readyNodes remaining degree))
                (settle successors (readyNodes remaining degree) degree) =
              layers successors m (remaining.filter (· ∉ readyNodes remaining degree))
                (settle successors (readyNodes remaining degree) degree) :=
            ih (by omega) (by omega)
          simp only [layers, if_neg hnil]
          show (if readyNodes remaining degree = [] then none else Option.map _
              (layers successors n (remaining.filter (· ∉ readyNodes remaining degree)) _)) =
            (if readyNodes remaining degree = [] then none else Option.map _
              (layers successors m (remaining.filter (· ∉ readyNodes remaining degree)) _))
          rw [if_neg hready, if_neg hready]
          exact congrArg _ hrest

/-- A graph without cycles has layers. -/
theorem layers_isSome (hop : Opposite successors predecessors)
    (hacyclic : ∀ a, ¬Relation.TransGen (fun p a => p ∈ predecessors a) a a)
    (hnodup : remaining.Nodup) (hcounts : Counts predecessors remaining degree)
    (hn : remaining.length ≤ n) : (layers successors n remaining degree).isSome := by
  induction n generalizing remaining degree with
  | zero =>
    obtain rfl := List.length_eq_zero_iff.mp (Nat.le_zero.mp hn)
    rfl
  | succ n ih =>
    by_cases hnil : remaining = []
    · subst hnil
      rfl
    · have hready := exists_readyNodes hacyclic hcounts hnil
      have hlt := length_filter_not_ready hready
      have hrest : (layers successors n (remaining.filter (· ∉ readyNodes remaining degree))
          (settle successors (readyNodes remaining degree) degree)).isSome :=
        ih (hnodup.filter _) (hcounts.settle hop (hnodup.filter _) (List.filter_subset_self _))
          (by omega)
      simp only [layers, if_neg hnil]
      show (if readyNodes remaining degree = [] then none else Option.map _
        (layers successors n (remaining.filter (· ∉ readyNodes remaining degree)) _)).isSome
      rw [if_neg hready, Option.isSome_map]
      exact hrest

/-- Layers exclude cycles. -/
theorem Layered.acyclic {nodes : List α} {ls : List (List α)} (h : Layered predecessors nodes ls)
    (hclosed : ∀ a, ∀ p ∈ predecessors a, p ∈ nodes ∧ a ∈ nodes) (a : α) :
    ¬Relation.TransGen (fun p a => p ∈ predecessors a) a a := by
  have hlt : ∀ {a b}, Relation.TransGen (fun p a => p ∈ predecessors a) a b →
      layerOf ls a < layerOf ls b := by
    intro a b hab
    induction hab with
    | single hp => exact h.before _ (hclosed _ _ hp).2 _ hp (hclosed _ _ hp).1
    | tail _ hp ih => exact ih.trans (h.before _ (hclosed _ _ hp).2 _ hp (hclosed _ _ hp).1)
  intro hcycle
  exact absurd (hlt hcycle) (lt_irrefl _)

end Lib
