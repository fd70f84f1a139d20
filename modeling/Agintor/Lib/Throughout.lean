import Agintor.Lib.Locks

/-!
# Invariants of interrupted programs

What every step of a program keeps holds of whatever the program leaves, however it ends, and what
the program returns may be read off the states it has seen.
-/

namespace Lib

variable {ι σ ε α β : Type}

/-- From a state with `I` the program leaves one with `I`, and what it returns has `Q`. -/
def Throughout (I : σ → Prop) (p : Prog ι σ ε α) (Q : α → Prop) : Prop :=
  ∀ m : Machine ι σ, I m.state → I (p m).2.state ∧ ∀ a, (p m).1 = .ok a → Q a

namespace Throughout

variable {I : σ → Prop} {p : Prog ι σ ε α} {Q Q' : α → Prop}

theorem pure {a : α} (h : Q a) : Throughout I (Pure.pure a : Prog ι σ ε α) Q := by
  intro m hm
  refine ⟨hm, fun b hb => ?_⟩
  cases hb
  exact h

theorem raise {e : ε} : Throughout I (Prog.raise e : Prog ι σ ε α) Q := by
  intro m hm
  refine ⟨hm, fun b hb => ?_⟩
  cases hb

/-- Nothing follows what was raised. -/
theorem raise_bind {e : ε} {k : α → Prog ι σ ε β} {Q' : β → Prop} :
    Throughout I ((Prog.raise e : Prog ι σ ε α) >>= k) Q' := by
  intro m hm
  refine ⟨hm, fun b hb => ?_⟩
  cases hb

theorem bind {k : α → Prog ι σ ε β} {Q' : β → Prop} (hp : Throughout I p Q)
    (hk : ∀ a, Q a → Throughout I (k a) Q') : Throughout I (p >>= k) Q' := by
  intro m hm
  obtain ⟨hstate, hreturns⟩ := hp m hm
  show I (Prog.handle p _ m).2.state ∧ ∀ b, (Prog.handle p _ m).1 = .ok b → Q' b
  unfold Prog.handle
  cases hr : (p m).1 with
  | ok a => exact hk a (hreturns a hr) _ hstate
  | error r =>
    refine ⟨hstate, fun b hb => ?_⟩
    cases hb

/-- What is read has the invariant. -/
theorem read_bind {k : σ → Prog ι σ ε β} {Q' : β → Prop}
    (h : ∀ s, I s → Throughout I (k s) Q') : Throughout I (Prog.read >>= k) Q' :=
  fun m hm => h m.state hm m hm

theorem check {x : Except ε α} (h : ∀ a, x = .ok a → Q a) :
    Throughout I (Prog.check x : Prog ι σ ε α) Q := by
  cases x with
  | ok a => exact pure (h a rfl)
  | error e => exact raise

theorem tryFinally {q : Prog ι σ ε Unit} (hp : Throughout I p Q)
    (hq : Throughout I q fun _ => True) : Throughout I (Prog.tryFinally p q) Q := by
  intro m hm
  obtain ⟨hstate, hreturns⟩ := hp m hm
  have hcleanup : ∀ {r : Except (Stop ε) α}, (∀ a, r = .ok a → Q a) →
      Throughout I (q >>= fun _ => Prog.done r) Q := by
    intro r hr
    apply hq.bind
    intro _ _ m hm
    exact ⟨hm, hr⟩
  have hstopped : ∀ {s : Stop ε} (a : α), Except.error s = .ok a → Q a := by
    intro s a ha
    cases ha
  unfold Prog.tryFinally Prog.handle
  cases hr : (p m).1 with
  | ok a => exact hcleanup (fun b hb => hreturns b (hr.trans hb)) _ hstate
  | error r =>
    cases r with
    | killed => exact ⟨hstate, hstopped⟩
    | raised e => exact hcleanup hstopped _ hstate
    | exception => exact hcleanup hstopped _ hstate
    | baseException => exact hcleanup hstopped _ hstate

theorem forM {l : List α} {f : α → Prog ι σ ε Unit} (h : ∀ a, Throughout I (f a) fun _ => True) :
    Throughout I (l.forM f) fun _ => True := by
  induction l with
  | nil => exact pure trivial
  | cons a l ih => exact (h a).bind fun _ _ => ih

variable [DecidableEq ι]

theorem step {i : ι} {torn f : σ → σ} (hf : ∀ s, I s → I (f s)) (htorn : ∀ s, I s → I (torn s)) :
    Throughout I (Prog.step i torn f : Prog ι σ ε Unit) fun _ => True := by
  intro m hm
  refine ⟨?_, fun _ _ => trivial⟩
  unfold Prog.step
  cases hfault : m.fault with
  | none => exact hf _ hm
  | some fault =>
    dsimp only
    split
    · exact hf _ hm
    · split
      · exact hf _ hm
      · split
        · exact htorn _ hm
        · exact hm

theorem writeOnce [DecidableEq α] {i : ι} {get : σ → Option (File α)} {put : File α → σ → σ} {a : α}
    {e : ε} (hwhole : ∀ s, I s → I (put (.whole a) s)) (htorn : ∀ s, I s → I (put .torn s)) :
    Throughout I (Prog.writeOnce i get put a e) fun _ => True := by
  unfold Prog.writeOnce
  apply read_bind
  intro s _
  cases get s with
  | none => exact step hwhole htorn
  | some f =>
    dsimp only
    split
    · exact pure trivial
    · exact raise

theorem withLock {L : Lock ι σ ε} (hset : ∀ s held, I s → I (L.set held s))
    (hp : Throughout I p Q) : Throughout I (Prog.withLock L p) Q := by
  unfold Prog.withLock
  apply read_bind
  intro s _
  have hbody : Throughout I (Prog.step L.create (L.set true) (L.set true) >>= fun _ =>
      Prog.tryFinally p (Prog.step L.remove id (L.set false))) Q := by
    apply (step (fun s hs => hset s true hs) fun s hs => hset s true hs).bind
    intro _ _
    exact hp.tryFinally (step (fun s hs => hset s false hs) fun s hs => hs)
  dsimp only
  split
  · exact raise_bind
  · exact hbody

end Throughout

end Lib
