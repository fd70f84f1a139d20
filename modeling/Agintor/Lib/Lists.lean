import Mathlib.Algebra.BigOperators.Group.List.Basic
import Mathlib.Data.List.Sort
import Mathlib.Data.List.Perm.Basic
import Mathlib.Data.List.Forall2

/-!
# Lists up to order

Facts about lists that are related element by element, or that are permutations of one
another, and about going through such a list.
-/

namespace Lib

variable {α β : Type}

variable {R : α → β → Prop} {bs : List β}

/-- What each related pair says about its right side holds of the whole right list. -/
theorem forall_mem_of_forall₂ {P : β → Prop} {as : List α} (h : List.Forall₂ R as bs)
    (hP : ∀ a b, R a b → P b) : ∀ b ∈ bs, P b := by
  induction h with
  | nil => simp
  | cons hab _ ih => exact List.forall_mem_cons.mpr ⟨hP _ _ hab, ih⟩

theorem exists_mem_left_of_forall₂ {as : List α} (h : List.Forall₂ R as bs) {b : β} (hb : b ∈ bs) :
    ∃ a ∈ as, R a b := by
  induction h with
  | nil => simp at hb
  | @cons a b' as bs hab _ ih =>
    obtain rfl | hb := List.mem_cons.mp hb
    · exact ⟨a, List.mem_cons_self, hab⟩
    · obtain ⟨a', ha', hab'⟩ := ih hb
      exact ⟨a', List.mem_cons_of_mem _ ha', hab'⟩

theorem exists_mem_right_of_forall₂ {as : List α} (h : List.Forall₂ R as bs) {a : α} (ha : a ∈ as) :
    ∃ b ∈ bs, R a b :=
  exists_mem_left_of_forall₂ (List.Forall₂.flip h : List.Forall₂ (flip R) bs as) ha

/-- Two functions that agree on related elements give the same image. -/
theorem map_eq_map_of_forall₂ {γ : Type} {as : List α} (h : List.Forall₂ R as bs) {f : α → γ}
    {g : β → γ} (hfg : ∀ a b, R a b → f a = g b) : as.map f = bs.map g := by
  induction h with
  | nil => rfl
  | cons hab _ ih => rw [List.map_cons, List.map_cons, hfg _ _ hab, ih]

/-- Two lists with one image, element by element, under functions that tell them apart. -/
theorem eq_of_map_eq_map {γ : Type} {f g : α → γ} {as bs : List α} (h : as.map f = bs.map g)
    (hinj : ∀ a ∈ as, ∀ b ∈ bs, f a = g b → a = b) : as = bs := by
  apply List.ext_getElem
  · simpa using congrArg List.length h
  · intro i ha hb
    have hi : f as[i] = g bs[i] := by
      simpa [ha, hb] using congrArg (·[i]?) h
    exact hinj _ (List.getElem_mem ha) _ (List.getElem_mem hb) hi

/-- Sorting forgets the order, and nothing else. -/
theorem insertionSort_eq_iff_perm {r : α → α → Prop} [DecidableRel r] (htotal : ∀ a b, r a b ∨ r b a)
    (htrans : ∀ a b c, r a b → r b c → r a c) (hantisymm : ∀ a b, r a b → r b a → a = b)
    {l l' : List α} : l.insertionSort r = l'.insertionSort r ↔ l.Perm l' := by
  have : Std.Total r := ⟨htotal⟩
  have : IsTrans α r := ⟨htrans⟩
  constructor
  · intro h
    exact (List.perm_insertionSort r l).symm.trans (h ▸ List.perm_insertionSort r l')
  · intro h
    have hperm := ((List.perm_insertionSort r l).trans h).trans
      (List.perm_insertionSort r l').symm
    exact List.Perm.eq_of_pairwise (fun a b _ _ => hantisymm a b)
      (List.pairwise_insertionSort r l) (List.pairwise_insertionSort r l') hperm

/-- Lists related to permutations of one another are permutations up to the relation. -/
theorem exists_perm_forall₂ {as : List α} {bs cs : List β} (h : List.Forall₂ R as bs)
    (hp : bs.Perm cs) : ∃ as', as'.Perm as ∧ List.Forall₂ R as' cs := by
  have hflip : List.Forall₂ (flip R) bs as := List.Forall₂.flip h
  obtain ⟨as', hrel, hperm⟩ := List.perm_comp_forall₂ hp.symm hflip
  exact ⟨as', hperm, List.Forall₂.flip hrel⟩

/-- Choosing the elements behind a rearranged list of their images. -/
theorem exists_perm_map_eq {f : α → β} {as : List α} (h : (as.map f).Perm bs) :
    ∃ as' : List α, as'.Perm as ∧ as'.map f = bs := by
  have hforall : List.Forall₂ (fun a b => f a = b) as (as.map f) := by
    rw [List.forall₂_map_right_iff]
    exact List.forall₂_same.mpr fun a _ => rfl
  obtain ⟨as', hperm, hall⟩ := exists_perm_forall₂ hforall h
  refine ⟨as', hperm, ?_⟩
  rw [← List.forall₂_eq_eq_eq, List.forall₂_map_left_iff]
  exact hall

/-! ## Going through a rearranged list -/

variable {as before after : List α} {q : Option α} {a : α}

/-- Elements `as` and perhaps one more, in some order, when it is the turn of `a`. -/
structure Turn (as : List α) (q : Option α) (before : List α) (a : α) (after : List α) : Prop where
  perm : (before ++ a :: after).Perm (as ++ q.toList)
  nodup : (as ++ q.toList).Nodup

lemma Turn.mem (h : Turn as q before a after) : a ∈ as ++ q.toList := by
  rw [← h.perm.mem_iff]
  simp

lemma Turn.not_mem_before (h : Turn as q before a after) : a ∉ before := by
  have hnodup := h.perm.nodup_iff.mpr h.nodup
  rw [List.nodup_append] at hnodup
  intro ha
  exact hnodup.2.2 a ha a List.mem_cons_self rfl

variable [DecidableEq α]

/-- The element `q`, unless it has been met. -/
def remaining (q : Option α) (met : List α) : Option α := q.filter (· ∉ met)

lemma remaining_nil (q : Option α) : remaining q [] = q := by
  cases q with
  | none => rfl
  | some a => simp [remaining, Option.filter]

/-- The turn of one of `as` leaves what remains as it is. -/
lemma Turn.remaining_of_mem (h : Turn as q before a after) (ha : a ∈ as) :
    remaining q (before ++ [a]) = remaining q before := by
  cases q with
  | none => rfl
  | some b =>
    have hnodup := h.nodup
    rw [Option.toList_some, List.nodup_append] at hnodup
    have hne : b ≠ a := fun heq => hnodup.2.2 a ha b (by simp) heq.symm
    simp [remaining, Option.filter, hne]

/-- Otherwise it is the turn of what remained. -/
lemma Turn.remaining_of_not_mem (h : Turn as q before a after) (ha : a ∉ as) :
    remaining q before = some a ∧ remaining q (before ++ [a]) = none := by
  have hq : q = some a := by
    rcases List.mem_append.mp h.mem with has | hq
    · exact absurd has ha
    · exact Option.mem_toList.mp hq
  have hbefore := h.not_mem_before
  subst hq
  simp [remaining, Option.filter, hbefore]

/-- In the end nothing remains. -/
lemma remaining_eq_none {all : List α} (h : all.Perm (as ++ q.toList)) : remaining q all = none := by
  cases q with
  | none => rfl
  | some b =>
    have hb : b ∈ all := by
      rw [h.mem_iff]
      simp
    simp [remaining, Option.filter, hb]

/-! ## Sums by key -/

/-- A sum over the elements of a list, taken key by key. -/
theorem sum_eq_sum_filter {α κ M : Type} [AddCommMonoid M] [DecidableEq κ] (key : α → κ)
    (f : α → M) {keys : List κ} (hnodup : keys.Nodup) {l : List α} (h : ∀ a ∈ l, key a ∈ keys) :
    (l.map f).sum = (keys.map fun k => ((l.filter (key · = k)).map f).sum).sum := by
  have hone (k : κ) (x : M) : ∀ {keys : List κ}, keys.Nodup → k ∈ keys →
      (keys.map fun k' => if k = k' then x else 0).sum = x := by
    intro keys hnodup hmem
    induction keys with
    | nil => simp at hmem
    | cons k' keys ih =>
      rw [List.nodup_cons] at hnodup
      rw [List.map_cons, List.sum_cons]
      by_cases hk : k = k'
      · have hrest : (keys.map fun k'' => if k = k'' then x else 0).sum = 0 := by
          apply List.sum_eq_zero
          intro y hy
          obtain ⟨k'', hk'', rfl⟩ := List.mem_map.mp hy
          rw [if_neg]
          intro heq
          exact hnodup.1 (hk ▸ heq ▸ hk'')
        rw [if_pos hk, hrest, add_zero]
      · rw [if_neg hk, zero_add]
        exact ih hnodup.2 ((List.mem_cons.mp hmem).resolve_left hk)
  induction l with
  | nil => simp
  | cons a l ih =>
    have hsplit (k : κ) : (((a :: l).filter (key · = k)).map f).sum =
        (if key a = k then f a else 0) + ((l.filter (key · = k)).map f).sum := by
      rw [List.filter_cons]
      by_cases hk : key a = k
      · simp [hk]
      · simp [hk]
    rw [List.map_cons, List.sum_cons, ih fun b hb => h b (List.mem_cons_of_mem a hb)]
    simp only [hsplit]
    rw [List.sum_map_add, hone (key a) (f a) hnodup (h a List.mem_cons_self)]

/-! ## Edits that a filter does not see -/

section Edits

variable {q r : α → Bool} {l l' : List α} {i : ℕ} {b : α}
omit [DecidableEq α]

lemma filter_set_of_not (hb : q b = false) (hi : ∀ a ∈ l[i]?, q a = false) :
    (l.set i b).filter q = l.filter q := by
  induction l generalizing i with
  | nil => rfl
  | cons a l ih =>
    cases i with
    | zero =>
      have ha : q a = false := hi a rfl
      simp [hb, ha]
    | succ i =>
      rw [List.set_cons_succ, List.filter_cons, List.filter_cons, ih hi]

lemma filter_insertIdx_of_not (hb : q b = false) : (l.insertIdx i b).filter q = l.filter q := by
  induction l generalizing i with
  | nil => cases i <;> simp [hb]
  | cons a l ih =>
    cases i with
    | zero => simp [hb]
    | succ i => rw [List.insertIdx_succ_cons, List.filter_cons, List.filter_cons, ih]

/-- A search finds what a coarser filter keeps. -/
lemma find?_eq_of_filter_eq (h : l.filter q = l'.filter q) (hr : ∀ a, r a = true → q a = true) :
    l.find? r = l'.find? r := by
  have hboth : (fun a => q a && r a) = r := by
    funext a
    cases hra : r a with
    | false => exact Bool.and_false _
    | true => rw [hr a hra]; rfl
  calc l.find? r = (l.filter q).find? r := by rw [List.find?_filter]; simp [hboth]
    _ = (l'.filter q).find? r := by rw [h]
    _ = l'.find? r := by rw [List.find?_filter]; simp [hboth]

lemma filter_eq_of_filter_eq (h : l.filter q = l'.filter q) (hr : ∀ a, r a = true → q a = true) :
    l.filter r = l'.filter r := by
  have hboth (a : α) : (r a && q a) = r a := by
    cases hra : r a with
    | false => rfl
    | true => exact hr a hra
  calc l.filter r = (l.filter q).filter r := by simp [List.filter_filter, hboth]
    _ = (l'.filter q).filter r := by rw [h]
    _ = l'.filter r := by simp [List.filter_filter, hboth]

/-- The element that a search found, replaced by another that it finds. -/
lemma find?_set_of_findIdx? (h : l.findIdx? r = some i) (hb : r b = true) :
    (l.set i b).find? r = some b := by
  induction l generalizing i with
  | nil => simp at h
  | cons a l ih =>
    rw [List.findIdx?_cons] at h
    cases ha : r a with
    | true =>
      rw [ha, if_pos rfl] at h
      obtain rfl := Option.some.inj h
      simp [hb]
    | false =>
      rw [ha] at h
      obtain ⟨j, hj, rfl⟩ := Option.map_eq_some_iff.mp h
      rw [List.set_cons_succ, List.find?_cons, ha]
      exact ih hj

end Edits

end Lib
