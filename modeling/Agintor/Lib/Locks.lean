import Agintor.Lib.Interrupts

/-!
# Programs that hold a lock

A lock is a part of the durable state: a process that dies while it holds the lock leaves it.
Inside the lock an invariant holds at every step; outside it the state is open, or it is
abandoned by a process that died.
-/

namespace Lib

variable {ι σ ε α : Type}

structure Lock (ι σ ε : Type) where
  create : ι
  remove : ι
  held : σ → Bool
  set : Bool → σ → σ
  busy : ε

variable [DecidableEq ι]

/-- `with lock: body`; the lock file may be there although its creation was torn. -/
def Prog.withLock (L : Lock ι σ ε) (body : Prog ι σ ε α) : Prog ι σ ε α := do
  if L.held (← read) then
    raise L.busy
  step L.create (L.set true) (L.set true)
  tryFinally body (step L.remove id (L.set false))

/-- What a stop of code inside the lock leaves, where `I` is the invariant, `D` is what remains
after a death, and `raises` are the errors of the code. -/
def Inside (I D : σ → Prop) (raises : ε → Prop) : Stop ε → σ → Prop
  | .killed, s => D s
  | .raised e, s => raises e ∧ I s
  | _, s => I s

/-- What a stop of a call leaves, where `O` is the invariant outside the lock. -/
def Outside (O D : σ → Prop) (raises : ε → Prop) : Stop ε → σ → Prop
  | .raised e, s => raises e ∧ (O s ∨ D s)
  | _, s => O s ∨ D s

variable {R : Rules ι σ} {I D O P B : σ → Prop} {raises : ε → Prop}

omit [DecidableEq ι] in
lemma inside_of_interrupt {s : σ} (hI : I s) (hD : D s) (kind : Interrupt) :
    Inside I D raises kind.stop s := by
  cases kind with
  | exception => exact hI
  | baseException => exact hI
  | kill => exact hD
  | tear => exact hD

omit [DecidableEq ι] in
lemma outside_of_interrupt {s : σ} (h : O s ∨ D s) (kind : Interrupt) :
    Outside O D raises kind.stop s := by
  cases kind with
  | exception => exact h
  | baseException => exact h
  | kill => exact h
  | tear => exact h

namespace Triple

/-- A step inside the lock. -/
theorem inside_step_of_passes {Q : Unit → σ → Prop} {i : ι} {torn f : σ → σ}
    (hP : ∀ s, P s → I s ∧ D s) (hgo : R.passes i → ∀ s, P s → R.moves s (f s) ∧ Q () (f s))
    (htorn : ∀ s, P s → R.moves s (torn s) ∧ D (torn s)) :
    Triple R P (.step i torn f) Q (Inside I D raises) := by
  apply Triple.step_of_passes hgo
  · exact fun s kind hs _ _ => inside_of_interrupt (hP s hs).1 (hP s hs).2 kind
  · exact fun s hs _ => htorn s hs

/-- A write-once record inside the lock. -/
theorem inside_writeOnce {β : Type} [DecidableEq β] {Q : Unit → σ → Prop} {i : ι}
    {get : σ → Option (File β)} {put : File β → σ → σ} {b : β} {e : ε}
    (hP : ∀ s, P s → I s ∧ D s)
    (hold : ∀ s f, P s → get s = some f → (f = .whole b → Q () s) ∧ (f ≠ .whole b → raises e))
    (hnew : ∀ s, P s → get s = none → Q () (put (.whole b) s) ∧ R.moves s (put (.whole b) s))
    (htorn : ∀ s, P s → get s = none → R.moves s (put .torn s) ∧ D (put .torn s)) :
    Triple R P (.writeOnce i get put b e) Q (Inside I D raises) := by
  apply Triple.writeOnce _ hnew
  · exact fun s kind hs _ _ => inside_of_interrupt (hP s hs).1 (hP s hs).2 kind
  · exact fun s hs hget _ => htorn s hs hget
  · intro s f hs hget
    obtain ⟨hsame, hother⟩ := hold s f hs hget
    exact ⟨hsame, fun hne => ⟨hother hne, (hP s hs).1⟩⟩

variable {L : Lock ι σ ε} {body : Prog ι σ ε α} {Q : α → σ → Prop}

/-- The lock rule: from a state where the lock is free. -/
theorem withLock (hfree : ∀ s, P s → L.held s = false ∧ O s)
    (hcreate : ∀ s, P s → R.moves s (L.set true s) ∧ D (L.set true s))
    (hbody : R.passes L.create →
      Triple R (fun s => ∃ s₀, P s₀ ∧ s = L.set true s₀) body (fun a s => I s ∧ Q a s)
        (Inside I D raises))
    (hI : ∀ s, I s → D s ∧ R.moves s s ∧ R.moves s (L.set false s) ∧ O (L.set false s))
    (hQ : ∀ a s, Q a s → Q a (L.set false s)) :
    Triple R P (Prog.withLock L body) (fun a s => O s ∧ Q a s) (Outside O D raises) := by
  have hremove : ∀ {P' Q' : σ → Prop}, (∀ s, P' s → I s) → (∀ s, P' s → Q' (L.set false s)) →
      Triple R P' (.step L.remove id (L.set false)) (fun _ => Q') (Outside O D raises) := by
    intro P' Q' hP' hQ'
    apply Triple.step hQ'
    · exact fun s hs => (hI s (hP' s hs)).2.2.1
    · exact fun s kind hs _ _ => outside_of_interrupt (Or.inr (hI s (hP' s hs)).1) kind
    · exact fun s hs _ => ⟨(hI s (hP' s hs)).2.1, Or.inr (hI s (hP' s hs)).1⟩
  have hcalm : Triple R.calm I (.step L.remove id (L.set false) : Prog ι σ ε Unit)
      (fun _ s => O s ∨ D s) fun _ _ => False := by
    apply Triple.step
    · exact fun s hs => Or.inl (hI s hs).2.2.2
    · exact fun s hs => (hI s hs).2.2.1
    · exact fun s kind _ h => absurd h (R.not_allowed_calm _ _)
    · exact fun s _ h => absurd h (R.not_allowed_calm _ _)
  unfold Prog.withLock
  apply Triple.read_bind
  intro s₀ hs₀
  obtain ⟨hheld, hO⟩ := hfree s₀ hs₀
  have hnot : ¬L.held s₀ = true := by simp [hheld]
  simp only [if_neg hnot]
  apply Triple.bind (M := fun _ s => R.passes L.create ∧ ∃ s₀, P s₀ ∧ s = L.set true s₀)
  · apply Triple.step_of_passes
    · rintro hpasses _ rfl
      exact ⟨(hcreate _ hs₀).1, hpasses, _, hs₀, rfl⟩
    · rintro _ kind rfl _ _
      exact outside_of_interrupt (Or.inl hO) kind
    · rintro _ rfl _
      exact ⟨(hcreate _ hs₀).1, Or.inr (hcreate _ hs₀).2⟩
  intro _
  apply Triple.of_fact fun _ hs => hs.1
  intro hpasses
  -- every way out but death releases the lock
  apply Triple.tryFinally ((hbody hpasses).pre fun _ hs => hs.2)
  · intro a
    apply hremove
    · exact fun s hs => hs.1
    · exact fun s hs => ⟨(hI s hs.1).2.2.2, hQ a s hs.2⟩
  · intro e
    apply hremove
    · exact fun s hs => hs.2
    · exact fun s hs => ⟨hs.1, Or.inl (hI s hs.2).2.2.2⟩
  · exact hcalm
  · exact hcalm
  · exact fun s hs => Or.inr hs

/-- A held lock rejects the call. -/
theorem withLock_busy {E : Stop ε → σ → Prop} (hheld : ∀ s, P s → L.held s = true)
    (hE : ∀ s, P s → E (.raised L.busy) s) : Triple R P (Prog.withLock L body) Q E := by
  unfold Prog.withLock
  apply Triple.read_bind
  intro s hs
  simp only [if_pos (hheld s hs)]
  apply Triple.bind (M := fun _ _ => False)
  · apply Triple.raise
    rintro _ rfl
    exact hE _ hs
  · exact fun _ _ _ hfalse => hfalse.elim

end Triple
end Lib
