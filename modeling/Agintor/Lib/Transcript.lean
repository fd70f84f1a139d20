import Agintor.Lib.Lists
import Agintor.Lib.Stateful

/-!
# Transcripts that are read once

A player answers calls from a list of rows, in order: a call that it answers takes the row at its
position and moves on by one, and a call that it refuses stays where it is. `playAll` is a session
of calls, some answered and some refused; its answers are the first rows of the list.
-/

namespace Lib

variable {σ ε κ α ρ : Type}

/-- Calls made one after the other, each with its outcome. -/
def playAll (play : κ → Stateful σ ε α) : List κ → σ → List (κ × Except ε α) × σ
  | [], s => ([], s)
  | call :: calls, s =>
    let step := play call s
    let rest := playAll play calls step.2
    ((call, step.1) :: rest.1, rest.2)

/-- The calls that were answered, each with its answer. -/
def answered (log : List (κ × Except ε α)) : List (κ × α) :=
  log.filterMap fun entry => entry.2.toOption.map (entry.1, ·)

@[simp] theorem answered_nil : answered ([] : List (κ × Except ε α)) = [] := rfl

@[simp] theorem answered_cons_ok (call : κ) (a : α) (log : List (κ × Except ε α)) :
    answered ((call, .ok a) :: log) = (call, a) :: answered log := rfl

@[simp] theorem answered_cons_error (call : κ) (e : ε) (log : List (κ × Except ε α)) :
    answered ((call, .error e) :: log) = answered log := rfl

theorem answered_append (log log' : List (κ × Except ε α)) :
    answered (log ++ log') = answered log ++ answered log' := List.filterMap_append

/-- What holds at the start and is kept by every call, whatever its outcome, holds after every
session. -/
theorem playAll_invariant {play : κ → Stateful σ ε α} {I : List (κ × Except ε α) → σ → Prop}
    {calls : List κ}
    (hstep : ∀ log s, ∀ call ∈ calls, I log s → I (log ++ [(call, (play call s).1)]) (play call s).2)
    {s : σ} (hstart : I [] s) : I (playAll play calls s).1 (playAll play calls s).2 := by
  -- the log so far is a parameter of the induction
  have hall : ∀ log s, I log s → I (log ++ (playAll play calls s).1) (playAll play calls s).2 := by
    induction calls with
    | nil =>
      intro log s h
      show I (log ++ []) s
      rwa [List.append_nil]
    | cons call calls ih =>
      intro log s h
      have hhead := hstep log s call List.mem_cons_self h
      have hrest := ih (fun log s c hc => hstep log s c (List.mem_cons_of_mem call hc)) _ _ hhead
      rwa [List.append_assoc, List.singleton_append] at hrest
  exact hall [] s hstart

/-- How a player reads `rows`: from `position`, a row that `Fits` the call, giving its
`answer`. -/
structure ReadsOnce (play : κ → Stateful σ ε α) (rows : List ρ) (position : σ → ℕ)
    (answer : ρ → α) (Fits : ρ → κ → Prop) : Prop where
  answers : ∀ {s : σ} {call : κ} {a : α}, (play call s).1 = .ok a →
    ∃ row, rows[position s]? = some row ∧ Fits row call ∧ answer row = a ∧
      position (play call s).2 = position s + 1
  refuses : ∀ {s : σ} {call : κ} {e : ε}, (play call s).1 = .error e →
    position (play call s).2 = position s

namespace ReadsOnce

variable {play : κ → Stateful σ ε α} {rows : List ρ} {position : σ → ℕ} {answer : ρ → α}
  {Fits : ρ → κ → Prop}

/-- After a session the position is the number of answers, and these are the first rows. -/
theorem session (h : ReadsOnce play rows position answer Fits) {s : σ} (hstart : position s = 0)
    (calls : List κ) :
    position (playAll play calls s).2 = (answered (playAll play calls s).1).length ∧
      List.Forall₂ (fun entry row => Fits row entry.1 ∧ answer row = entry.2)
        (answered (playAll play calls s).1)
        (rows.take (answered (playAll play calls s).1).length) := by
  refine playAll_invariant (I := fun log s => position s = (answered log).length ∧
    List.Forall₂ (fun entry row => Fits row entry.1 ∧ answer row = entry.2) (answered log)
      (rows.take (answered log).length)) ?_ ⟨hstart, by simp⟩
  intro log s call _ hinv
  obtain ⟨hposition, hrows⟩ := hinv
  rw [answered_append]
  cases houtcome : (play call s).1 with
  | error e =>
    rw [answered_cons_error, answered_nil, List.append_nil, h.refuses houtcome]
    exact ⟨hposition, hrows⟩
  | ok a =>
    obtain ⟨row, hrow, hfits, hanswer, hnext⟩ := h.answers houtcome
    rw [hposition] at hrow
    obtain ⟨hlt, hget⟩ := List.getElem?_eq_some_iff.mp hrow
    have htake : rows.take ((answered log).length + 1) = rows.take (answered log).length ++ [row] := by
      rw [List.take_add_one, hrow]
      rfl
    rw [answered_cons_ok, answered_nil, List.length_append, List.length_singleton, htake, hnext]
    refine ⟨by omega, List.rel_append hrows ?_⟩
    exact .cons ⟨hfits, hanswer⟩ .nil

variable (h : ReadsOnce play rows position answer Fits) {s : σ} (hstart : position s = 0)
  (calls : List κ)

include h hstart

theorem answers_eq :
    (answered (playAll play calls s).1).map Prod.snd =
      (rows.take (answered (playAll play calls s).1).length).map answer := by
  have hrows := (h.session hstart calls).2
  exact map_eq_map_of_forall₂ hrows fun entry row hrow => hrow.2.symm

theorem length_le : (answered (playAll play calls s).1).length ≤ rows.length := by
  have hlength := (h.session hstart calls).2.length_eq
  rw [List.length_take] at hlength
  omega

end ReadsOnce

end Lib
