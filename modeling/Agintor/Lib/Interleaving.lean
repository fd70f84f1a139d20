import Mathlib.Logic.Function.Basic

/-!
# Processes over a shared state

Processes that each have a state of their own take turns on a shared one: a schedule says who moves
next. A property of all states of a run follows from a condition on its steps, and where a step
against the condition breaks the property, the two are equivalent.
-/

namespace Lib

/-- A shared state, and the state of each process. -/
structure Interleaved (ι σ α : Type) where
  shared : σ
  own : ι → α

namespace Interleaved

variable {ι σ α : Type} [DecidableEq ι]

/-- Process `i` makes its next move. -/
def step (move : ι → α → σ → α × σ) (m : Interleaved ι σ α) (i : ι) : Interleaved ι σ α where
  shared := (move i (m.own i) m.shared).2
  own := Function.update m.own i (move i (m.own i) m.shared).1

variable {move : ι → α → σ → α × σ} {m : Interleaved ι σ α} {i j : ι}

@[simp] lemma step_own_self : (m.step move i).own i = (move i (m.own i) m.shared).1 :=
  Function.update_self i _ _

@[simp] lemma step_own_of_ne (h : j ≠ i) : (m.step move i).own j = m.own j :=
  Function.update_of_ne h _ _

@[simp] lemma step_shared : (m.step move i).shared = (move i (m.own i) m.shared).2 := rfl

/-- Every state of a run has the property, the first and the last one included. -/
def Always (move : ι → α → σ → α × σ) (P : Interleaved ι σ α → Prop) :
    Interleaved ι σ α → List ι → Prop
  | m, [] => P m
  | m, i :: schedule => P m ∧ Always move P (m.step move i) schedule

/-- Every step of a run is made where the condition on it holds. -/
def AllMeet (move : ι → α → σ → α × σ) (C : Interleaved ι σ α → ι → Prop) :
    Interleaved ι σ α → List ι → Prop
  | _, [] => True
  | m, i :: schedule => C m i ∧ AllMeet move C (m.step move i) schedule

/-- A condition under which steps keep an invariant, and against which they break the property, is
the exact condition for it. -/
theorem always_iff_allMeet {I P : Interleaved ι σ α → Prop} {C : Interleaved ι σ α → ι → Prop}
    (hkeep : ∀ m i, I m → C m i → I (m.step move i)) (hholds : ∀ m, I m → P m)
    (hbreak : ∀ m i, I m → ¬C m i → ¬P (m.step move i)) {schedule : List ι} (h : I m) :
    Always move P m schedule ↔ AllMeet move C m schedule := by
  induction schedule generalizing m with
  | nil => exact ⟨fun _ => trivial, fun _ => hholds m h⟩
  | cons i schedule ih =>
    have hfirst : ∀ m schedule, Always move P m schedule → P m := by
      intro m schedule hall
      cases schedule with
      | nil => exact hall
      | cons j schedule => exact hall.1
    constructor
    · rintro ⟨-, hrest⟩
      have hmeets : C m i := by
        by_contra hnot
        exact hbreak m i h hnot (hfirst _ _ hrest)
      exact ⟨hmeets, (ih (hkeep m i h hmeets)).mp hrest⟩
    · rintro ⟨hmeets, hrest⟩
      exact ⟨hholds m h, (ih (hkeep m i h hmeets)).mpr hrest⟩

end Interleaved

end Lib
