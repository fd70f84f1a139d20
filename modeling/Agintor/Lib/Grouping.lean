import Agintor.Lib.Dict

/-!
# Grouping a list by a key

A loop that puts each element of a list to the group of its key, and a loop that files views under
places, where a later view takes the place of an earlier one.
-/

namespace Lib

variable {α κ γ ρ β : Type}

/-! ## Groups -/

section Group

variable [DecidableEq κ] (key : α → Option κ) (add : Option γ → α → γ)

/-- `add` makes the new group of an element's key from the old one, if there is one. -/
def groupStep (groups : Dict κ γ) (a : α) : Dict κ γ :=
  match key a with
  | some k => groups.set k (add (groups.get? k) a)
  | none => groups

def groupWith (l : List α) (groups : Dict κ γ) : Dict κ γ := l.foldl (groupStep key add) groups

/-- A group is made from the elements with its key, in the order of the list. -/
theorem get?_groupWith (l : List α) (groups : Dict κ γ) (k : κ) :
    (groupWith key add l groups).get? k =
      (l.filter fun a => key a = some k).foldl (fun group a => some (add group a))
        (groups.get? k) := by
  induction l generalizing groups with
  | nil => rfl
  | cons a l ih =>
    have hstep : groupWith key add (a :: l) groups =
        groupWith key add l (groupStep key add groups a) := rfl
    rw [hstep, ih, groupStep]
    cases hkey : key a with
    | none => rw [List.filter_cons_of_neg (by simp [hkey])]
    | some k' =>
      dsimp only
      rw [Dict.get?_set]
      by_cases hk : k' = k
      · subst hk
        rw [if_pos rfl, List.filter_cons_of_pos (by simp [hkey])]
        rfl
      · rw [if_neg hk, List.filter_cons_of_neg (by simp [hkey, hk])]

end Group

/-! ## Views filed under places -/

section File

variable [DecidableEq ρ] {writes : List (ρ × β)} {views : Dict ρ β} {place : ρ} {view : β}

def file (writes : List (ρ × β)) (views : Dict ρ β) : Dict ρ β :=
  writes.foldl (fun views w => views.set w.1 w.2) views

lemma file_append (writes later : List (ρ × β)) (views : Dict ρ β) :
    file (writes ++ later) views = file later (file writes views) := List.foldl_append

/-- What is found at a place was filed there, or it stood there before. -/
lemma mem_of_get?_file (views : Dict ρ β) (h : (file writes views).get? place = some view) :
    (place, view) ∈ writes ∨ views.get? place = some view := by
  induction writes generalizing views with
  | nil => exact .inr h
  | cons w writes ih =>
    rcases ih (views.set w.1 w.2) h with hmem | hbefore
    · exact .inl (List.mem_cons_of_mem _ hmem)
    · rw [Dict.get?_set] at hbefore
      split at hbefore
      · rename_i hplace
        left
        rw [← hplace, ← Option.some.inj hbefore]
        exact List.mem_cons_self
      · exact .inr hbefore

lemma exists_get?_file_of_get? (views : Dict ρ β) (h : ∃ view, views.get? place = some view) :
    ∃ view, (file writes views).get? place = some view := by
  induction writes generalizing views with
  | nil => exact h
  | cons w writes ih =>
    refine ih (views.set w.1 w.2) ?_
    rw [Dict.get?_set]
    split
    · exact ⟨_, rfl⟩
    · exact h

/-- Something is found wherever something was filed. -/
lemma exists_get?_file (views : Dict ρ β) {w : ρ × β} (h : w ∈ writes) :
    ∃ view, (file writes views).get? w.1 = some view := by
  induction writes generalizing views with
  | nil => cases h
  | cons w' writes ih =>
    rcases List.mem_cons.mp h with rfl | h
    · refine exists_get?_file_of_get? (views.set w.1 w.2) ⟨w.2, ?_⟩
      rw [Dict.get?_set, if_pos rfl]
    · exact ih (views.set w'.1 w'.2) h

end File

/-! ## One view for each key -/

/-- Views are found under the places of their keys. Every key finds a view of its own if and only
if no two keys have one place. -/
theorem each_found_iff {keys : List κ} {place : κ → ρ} {shelf : ρ → Option β} {Here : ρ → Prop}
    {About : β → κ → Prop} (view : κ → β)
    (habout : ∀ k ∈ keys, ∀ k' ∈ keys, About (view k') k ↔ k' = k)
    (hhere : ∀ k ∈ keys, Here (place k)) (hfiled : ∀ k ∈ keys, ∃ v, shelf (place k) = some v)
    (honly : ∀ p v, Here p → shelf p = some v → ∃ k ∈ keys, place k = p ∧ view k = v) :
    (∀ k ∈ keys, ∃ p v, Here p ∧ shelf p = some v ∧ About v k) ↔
      ∀ k ∈ keys, ∀ k' ∈ keys, place k = place k' → k = k' := by
  constructor
  · intro hfound k hk k' hk' hplace
    -- the view that is left at the place is about one key, which both keys are
    obtain ⟨v, hv⟩ := hfiled k hk
    obtain ⟨k₀, hk₀, _, rfl⟩ := honly _ v (hhere k hk) hv
    have hkept : ∀ other ∈ keys, place other = place k → k₀ = other := by
      intro other hother hsame
      obtain ⟨p, v, hp, hv', hown⟩ := hfound other hother
      obtain ⟨k₁, hk₁, rfl, rfl⟩ := honly p v hp hv'
      obtain rfl := (habout other hother k₁ hk₁).mp hown
      rw [hsame, hv] at hv'
      rw [← Option.some.inj hv'] at hown
      exact (habout k₁ hother k₀ hk₀).mp hown
    exact (hkept k hk rfl).symm.trans (hkept k' hk' hplace.symm)
  · intro hinjective k hk
    obtain ⟨v, hv⟩ := hfiled k hk
    obtain ⟨k', hk', hplace, rfl⟩ := honly _ v (hhere k hk) hv
    exact ⟨place k, view k', hhere k hk, hv,
      (habout k hk k' hk').mpr (hinjective k' hk' k hk hplace)⟩

end Lib
