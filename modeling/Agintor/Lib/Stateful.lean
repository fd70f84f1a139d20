import Agintor.Lib.Raise

/-!
# Programs with a state that raise

A `Stateful` program changes a state and returns a value or raises; what it did to the state
before it raised stays done. `Sat` is a Hoare triple for such programs, with a postcondition for
a run that returns and one for a run that raises.
-/

namespace Lib

variable {σ ε α β : Type}

def Stateful (σ ε α : Type) : Type := σ → Except ε α × σ

namespace Stateful

/-- Run `k` on the value of `p`, unless `p` raises. -/
def andThen (p : Stateful σ ε α) (k : α → Stateful σ ε β) : Stateful σ ε β := fun s =>
  match p s with
  | (.ok a, s') => k a s'
  | (.error e, s') => (.error e, s')

instance : Monad (Stateful σ ε) where
  pure a := fun s => (.ok a, s)
  bind := andThen

lemma bind_apply (p : Stateful σ ε α) (k : α → Stateful σ ε β) (s : σ) :
    (p >>= k) s = andThen p k s := rfl

variable {k : α → Stateful σ ε β}

variable {p : Stateful σ ε α} {s : σ}

lemma bind_of_error {e : ε} (h : (p s).1 = .error e) : (p >>= k) s = (.error e, (p s).2) := by
  rw [bind_apply, andThen]
  match hp : p s, h with
  | (.error _, s'), rfl => rfl

lemma bind_of_ok {a : α} (h : (p s).1 = .ok a) : (p >>= k) s = k a (p s).2 := by
  rw [bind_apply, andThen]
  match hp : p s, h with
  | (.ok _, s'), rfl => rfl

lemma map_id (p : Stateful σ ε α) : id <$> p = p := by
  funext s
  show andThen p (fun a => pure a) s = p s
  unfold andThen
  match p s with
  | (.ok a, s') => rfl
  | (.error e, s') => rfl

lemma bind_bind {γ : Type} (p : Stateful σ ε α) (k : α → Stateful σ ε β)
    (j : β → Stateful σ ε γ) : p >>= k >>= j = p >>= fun a => k a >>= j := by
  funext s
  simp only [bind_apply, andThen]
  match p s with
  | (.ok a, s') => rfl
  | (.error e, s') => rfl

instance : LawfulMonad (Stateful σ ε) :=
  LawfulMonad.mk' (Stateful σ ε) map_id (fun _ _ => rfl) bind_bind

lemma map_apply (g : α → β) (p : Stateful σ ε α) (s : σ) :
    (g <$> p) s = ((p s).1.map g, (p s).2) := by
  show andThen p (fun a => pure (g a)) s = _
  unfold andThen
  match p s with
  | (.ok a, s') => rfl
  | (.error e, s') => rfl

def get : Stateful σ ε σ := fun s => (.ok s, s)

def modify (f : σ → σ) : Stateful σ ε Unit := fun s => (.ok (), f s)

def raise (e : ε) : Stateful σ ε α := fun s => (.error e, s)

/-- A computation that only checks. -/
def check : Except ε α → Stateful σ ε α
  | .ok a => pure a
  | .error e => raise e

lemma check_bind_pure (x : Except ε α) (g : α → β) (s : σ) :
    (check x >>= fun a => pure (g a)) s = (x.map g, s) := by
  cases x with
  | ok a => rfl
  | error e => rfl

lemma check_bind_of_ok {x : Except ε α} {a : α} (h : x = .ok a) : (check x >>= k) s = k a s := by
  rw [h]
  rfl

lemma check_bind_of_error {x : Except ε α} {e : ε} (h : x = .error e) :
    (check x >>= k) s = (.error e, s) := by
  rw [h]
  rfl

lemma get_bind_apply (k : σ → Stateful σ ε α) (s : σ) : (get >>= k) s = k s s := rfl

lemma modify_bind_apply (f : σ → σ) (k : Unit → Stateful σ ε α) (s : σ) :
    (modify f >>= k) s = k () (f s) := rfl

/-- Goes on with another value where `p` raises; what `p` did to the state stays done. -/
def recover (p : Stateful σ ε α) (handler : ε → α) : Stateful σ ε α := fun s =>
  match p s with
  | (.ok a, s') => (.ok a, s')
  | (.error e, s') => (.ok (handler e), s')

section Recover

variable {p : Stateful σ ε α} {handler : ε → α} {s s' : σ}

lemma recover_of_ok {a : α} (h : p s = (.ok a, s')) : recover p handler s = (.ok a, s') := by
  unfold recover
  rw [h]

lemma recover_of_error {e : ε} (h : p s = (.error e, s')) :
    recover p handler s = (.ok (handler e), s') := by
  unfold recover
  rw [h]

end Recover

/-- The end of a transition that has made all its checks: it changes the state if they passed, and
leaves it as it was if they did not. -/
def commit {γ : Type} (checks : Except ε β) (change : β → σ → σ) (answer : β → γ) (s : σ) :
    Except ε γ × σ :=
  match checks with
  | .ok b => (.ok (answer b), change b s)
  | .error e => (.error e, s)

section Commit

variable {γ : Type} {checks : Except ε β} {change : β → σ → σ} {answer : β → γ} {s : σ}

theorem commit_ok {c : γ} (h : (commit checks change answer s).1 = .ok c) :
    ∃ b, checks = .ok b ∧ answer b = c ∧ (commit checks change answer s).2 = change b s := by
  cases checks with
  | error e => simp [commit] at h
  | ok b => exact ⟨b, rfl, Except.ok.inj h, rfl⟩

theorem commit_error {e : ε} (h : (commit checks change answer s).1 = .error e) :
    checks = .error e ∧ (commit checks change answer s).2 = s := by
  cases checks with
  | error e' =>
    obtain rfl : e' = e := Except.error.inj h
    exact ⟨rfl, rfl⟩
  | ok b => simp [commit] at h

/-- A transition that makes all its checks before it changes the state. -/
theorem commit_apply (x : Except ε α) (y : σ → α → Except ε β) (change : β → σ → σ)
    (answer : β → γ) (s : σ) :
    (do
      let a ← check x
      let s ← get
      let b ← check (y s a)
      modify (change b)
      return answer b : Stateful σ ε γ) s = commit (x >>= y s) change answer s := by
  cases x with
  | error e => rfl
  | ok a =>
    show (check (y s a) >>= fun b => modify (change b) >>= fun _ => Pure.pure (answer b)) s =
      commit (y s a) change answer s
    cases y s a with
    | error e => rfl
    | ok b => rfl

end Commit

/-- A transition that is done as a whole or not at all. -/
def atomically (f : σ → Except ε (α × σ)) : Stateful σ ε α := fun s =>
  match f s with
  | .ok (a, s') => (.ok a, s')
  | .error e => (.error e, s)

section Atomically

variable {f : σ → Except ε (α × σ)} {s s' : σ}

theorem atomically_of_ok {a : α} (h : f s = .ok (a, s')) : atomically f s = (.ok a, s') := by
  unfold atomically
  rw [h]

theorem atomically_of_error {e : ε} (h : f s = .error e) : atomically f s = (.error e, s) := by
  unfold atomically
  rw [h]

/-- A check before an atomic rest is part of the transition. -/
theorem check_bind_atomically (x : Except ε β) (g : β → σ → Except ε (α × σ)) :
    (check x >>= fun b => atomically (g b)) = atomically fun s => x >>= fun b => g b s := by
  funext s
  cases x with
  | ok b => rfl
  | error e => rfl

theorem get_bind_atomically (g : σ → σ → Except ε (α × σ)) :
    (get >>= fun s => atomically (g s)) = atomically fun s => g s s := rfl

/-- After the first change nothing may raise: the rest is a function. -/
theorem atomically_bind_total (f : σ → Except ε (α × σ)) (g : α → σ → β × σ) :
    (atomically f >>= fun a => atomically fun s => .ok (g a s)) =
      atomically fun s => f s >>= fun r => .ok (g r.1 r.2) := by
  funext s
  rw [bind_apply]
  unfold andThen atomically
  beta_reduce
  cases f s with
  | error e => rfl
  | ok r => rfl

theorem modify_bind_total (f : σ → σ) (g : σ → β × σ) :
    ((modify f : Stateful σ ε Unit) >>= fun _ => atomically fun s => .ok (g s)) =
      atomically fun s => .ok (g (f s)) := rfl

/-- A loop of changes is one change. -/
theorem forM_modify (f : σ → α → σ) (l : List α) :
    (l.forM fun a => (modify fun s => f s a : Stateful σ ε Unit)) = modify fun s => l.foldl f s := by
  induction l with
  | nil => rfl
  | cons a l ih =>
    show (modify (fun s => f s a) >>= fun _ => l.forM fun a => modify fun s => f s a) = _
    rw [ih]
    rfl

end Atomically

/-- From a state with `P`, the program returns `a` in a state with `Q a`, or raises `e` in a state
with `E e`. -/
def Sat (P : σ → Prop) (p : Stateful σ ε α) (Q : α → σ → Prop) (E : ε → σ → Prop) : Prop :=
  ∀ s, P s → match p s with
    | (.ok a, s') => Q a s'
    | (.error e, s') => E e s'

namespace Sat

variable {P P' : σ → Prop} {Q Q' : α → σ → Prop} {E E' : ε → σ → Prop}

theorem pure {a : α} (h : ∀ s, P s → Q a s) : Sat P (Pure.pure a : Stateful σ ε α) Q E := h

theorem raise {e : ε} (h : ∀ s, P s → E e s) : Sat P (Stateful.raise e : Stateful σ ε α) Q E := h

theorem bind {p : Stateful σ ε α} {k : α → Stateful σ ε β} {M : α → σ → Prop}
    {Q : β → σ → Prop} (hp : Sat P p M E) (hk : ∀ a, Sat (M a) (k a) Q E) :
    Sat P (p >>= k) Q E := by
  intro s hs
  have hmid := hp s hs
  show match andThen p k s with
    | (.ok b, s') => Q b s'
    | (.error e, s') => E e s'
  unfold andThen
  match hps : p s with
  | (.ok a, s') =>
    rw [hps] at hmid
    exact hk a s' hmid
  | (.error e, s') =>
    rw [hps] at hmid
    exact hmid

/-- The value read is the state, about which the precondition may be used. -/
theorem get_bind {k : σ → Stateful σ ε β} {Q : β → σ → Prop}
    (h : ∀ s₀, P s₀ → Sat (fun s => s = s₀) (k s₀) Q E) :
    Sat P (Stateful.get >>= k) Q E := by
  intro s hs
  exact h s hs s rfl

theorem check {x : Except ε α} (hok : ∀ a, x = .ok a → ∀ s, P s → Q a s)
    (herror : ∀ e, x = .error e → ∀ s, P s → E e s) : Sat P (Stateful.check x) Q E := by
  cases x with
  | ok a => exact Sat.pure (hok a rfl)
  | error e => exact Sat.raise (herror e rfl)

end Sat

end Stateful

end Lib
