import Mathlib.Data.List.Basic
import Mathlib.Data.List.Chain
import Mathlib.Order.Basic

/-!
# Programs that can be interrupted

A `Prog` changes a durable state in labelled atomic steps. A run may carry one fault, which
strikes at a chosen step: an exception, an exception that ordinary handlers do not catch, or
the death of the process, before the step or in the middle of it. After a stop the handlers
and the `finally` blocks on the way out run, unless the process died.

`Triple` is a Hoare triple for such programs. It has a postcondition for a run that returns
and one for every way of stopping, and it says that each single step the program makes,
handlers included, is a permitted move.
-/

namespace Lib

/-- How a run can be cut short from outside. -/
inductive Interrupt
  | exception
  | baseException
  | kill
  /-- Killed in the middle of the step. -/
  | tear
deriving DecidableEq

/-- The fault of a run: it strikes at the step labelled `step` that follows `skip` other ones
of this label. -/
structure Fault (ι : Type) where
  step : ι
  skip : ℕ
  kind : Interrupt
deriving DecidableEq

/-- Why a run stopped. -/
inductive Stop (ε : Type)
  | raised (e : ε)
  | exception
  | baseException
  | killed
deriving DecidableEq

def Interrupt.stop {ε : Type} : Interrupt → Stop ε
  | .exception => .exception
  | .baseException => .baseException
  | .kill => .killed
  | .tear => .killed

/-- The state, the fault still to come, and the earlier states, latest first. -/
structure Machine (ι σ : Type) where
  state : σ
  fault : Option (Fault ι) := none
  past : List σ := []

variable {ι σ ε α β : Type}

/-- One move of the state. -/
def Machine.advance (m : Machine ι σ) (f : σ → σ) : Machine ι σ :=
  { m with state := f m.state, past := m.state :: m.past }

def Prog (ι σ ε α : Type) : Type := Machine ι σ → Except (Stop ε) α × Machine ι σ

namespace Prog

/-- End with the outcome `r`. -/
def done (r : Except (Stop ε) α) : Prog ι σ ε α := fun m => (r, m)

/-- Run `p` and go on with its outcome, whatever it is. -/
def handle (p : Prog ι σ ε α) (k : Except (Stop ε) α → Prog ι σ ε β) : Prog ι σ ε β := fun m =>
  k (p m).1 (p m).2

instance : Monad (Prog ι σ ε) where
  pure a := done (.ok a)
  bind p k := handle p fun
    | .ok a => k a
    | .error s => done (.error s)

/-- `raise e` -/
def raise (e : ε) : Prog ι σ ε α := done (.error (.raised e))

/-- The current state. -/
def read : Prog ι σ ε σ := fun m => (.ok m.state, m)

/-- A computation that only checks. -/
def check : Except ε α → Prog ι σ ε α
  | .ok a => pure a
  | .error e => raise e

/-- `try: p finally: q` -/
def tryFinally (p : Prog ι σ ε α) (q : Prog ι σ ε Unit) : Prog ι σ ε α :=
  handle p fun
    | .error .killed => done (.error .killed)
    | r => q >>= fun _ => done r

/-- `try: p except Exception: q; raise` -/
def tryExcept (p : Prog ι σ ε α) (q : Prog ι σ ε Unit) : Prog ι σ ε α :=
  handle p fun
    | .ok a => pure a
    | .error .killed => done (.error .killed)
    | .error .baseException => done (.error .baseException)
    | .error s => q >>= fun _ => done (.error s)

theorem forM_map {γ : Type} (g : γ → α) (f : α → Prog ι σ ε Unit) (l : List γ) :
    (l.map g).forM f = l.forM fun c => f (g c) := by
  induction l with
  | nil => rfl
  | cons c l ih =>
    show (f (g c) >>= fun _ => (l.map g).forM f) = _
    rw [ih]
    rfl

variable [DecidableEq ι]

/-- The atomic step `f` labelled `i`; a process that dies in the middle of it leaves `torn`. -/
def step (i : ι) (torn f : σ → σ) : Prog ι σ ε Unit := fun m =>
  match m.fault with
  | none => (.ok (), m.advance f)
  | some ft =>
    if ft.step ≠ i then (.ok (), m.advance f)
    else match ft.skip with
      | k + 1 => (.ok (), { m.advance f with fault := some { ft with skip := k } })
      | 0 =>
        if ft.kind = .tear then (.error .killed, { m.advance torn with fault := none })
        else (.error ft.kind.stop, { m with fault := none })

end Prog

/-! ## Triples -/

/-- What may happen to a run: which faults may be to come, where it starts, and which moves of
the state are permitted. -/
structure Rules (ι σ : Type) where
  pending : Option (Fault ι) → Prop
  origin : σ → Prop
  moves : σ → σ → Prop
  waits : ∀ i k kind, pending (some ⟨i, k + 1, kind⟩) → pending (some ⟨i, k, kind⟩)

/-- A fault of this kind can strike at a step labelled `i`. -/
def Rules.allowed (R : Rules ι σ) (i : ι) (kind : Interrupt) : Prop :=
  R.pending (some ⟨i, 0, kind⟩)

/-- A step labelled `i` can be made: it is not certain that a fault strikes there. -/
def Rules.passes (R : Rules ι σ) (i : ι) : Prop :=
  ∃ f, R.pending f ∧ ∀ kind, f ≠ some ⟨i, 0, kind⟩

/-- A history, latest first: permitted moves from a permitted start. -/
structure Rules.Trace (R : Rules ι σ) (history : List σ) : Prop where
  origin : ∀ s, history.getLast? = some s → R.origin s
  chain : List.IsChain (fun s' s => R.moves s s') history

lemma Rules.Trace.cons {R : Rules ι σ} {s s' : σ} {past : List σ} (h : R.Trace (s :: past))
    (hmove : R.moves s s') : R.Trace (s' :: s :: past) where
  origin := fun t ht => h.origin t (by rwa [List.getLast?_cons_cons] at ht)
  chain := .cons_cons hmove h.chain

/-- The fault of the run is one that may be to come, and its history is permitted. -/
structure Machine.Obeys (m : Machine ι σ) (R : Rules ι σ) : Prop where
  fault : R.pending m.fault
  history : R.Trace (m.state :: m.past)

/-- The reasons for stopping that some fault accounts for. -/
def Rules.Possible (R : Rules ι σ) (s : Stop ε) : Prop :=
  ∃ i kind, R.allowed i kind ∧ kind.stop = s

/-- The same moves, without any fault. -/
def Rules.calm (R : Rules ι σ) : Rules ι σ where
  pending := (· = none)
  origin := R.origin
  moves := R.moves
  waits := by simp

lemma Rules.not_allowed_calm (R : Rules ι σ) (i : ι) (kind : Interrupt) :
    ¬R.calm.allowed i kind := by
  intro h
  exact absurd h (by simp [allowed, calm])

lemma Rules.trace_calm {R : Rules ι σ} {history : List σ} : R.calm.Trace history ↔ R.Trace history :=
  ⟨fun h => ⟨h.origin, h.chain⟩, fun h => ⟨h.origin, h.chain⟩⟩

/-- The program itself stopped the run, or a fault that is now spent. -/
def Rules.Struck (R : Rules ι σ) (s : Stop ε) (m : Machine ι σ) : Prop :=
  match s with
  | .raised _ => R.pending m.fault
  | s => R.Possible s ∧ m.fault = none

/-- The outcome of a run is as `Q` and `E` say. -/
def Lands (R : Rules ι σ) (Q : α → σ → Prop) (E : Stop ε → σ → Prop)
    (o : Except (Stop ε) α × Machine ι σ) : Prop :=
  R.Trace (o.2.state :: o.2.past) ∧
    match o.1 with
    | .ok a => R.pending o.2.fault ∧ Q a o.2.state
    | .error s => R.Struck s o.2 ∧ E s o.2.state

/-- From a state with `P`, the program returns `a` in a state with `Q a`, or stops for reason
`s` in a state with `E s`. -/
def Triple (R : Rules ι σ) (P : σ → Prop) (p : Prog ι σ ε α) (Q : α → σ → Prop)
    (E : Stop ε → σ → Prop) : Prop :=
  ∀ m : Machine ι σ, m.Obeys R → P m.state → Lands R Q E (p m)

namespace Triple

variable {R : Rules ι σ} {P P' : σ → Prop} {Q Q' : α → σ → Prop} {E E' : Stop ε → σ → Prop}

variable {p : Prog ι σ ε α} {F : Stop ε → σ → Prop} {k : α → Prog ι σ ε β} {q : Prog ι σ ε Unit}
    {M : α → σ → Prop} {m : Machine ι σ}

theorem conseq (h : Triple R P p Q E) (hP : ∀ s, P' s → P s) (hQ : ∀ a s, Q a s → Q' a s)
    (hE : ∀ r s, E r s → E' r s) : Triple R P' p Q' E' := by
  intro m hm hPm
  obtain ⟨hhistory, hpost⟩ := h m hm (hP _ hPm)
  refine ⟨hhistory, ?_⟩
  cases hr : (p m).1 with
  | ok a =>
    rw [hr] at hpost
    exact ⟨hpost.1, hQ a _ hpost.2⟩
  | error r =>
    rw [hr] at hpost
    exact ⟨hpost.1, hE r _ hpost.2⟩

theorem pre (h : Triple R P p Q E) (hP : ∀ s, P' s → P s) : Triple R P' p Q E :=
  h.conseq hP (fun _ _ hQ => hQ) fun _ _ hE => hE

theorem post (h : Triple R P p Q E) (hQ : ∀ a s, Q a s → Q' a s) : Triple R P p Q' E :=
  h.conseq (fun _ hP => hP) hQ fun _ _ hE => hE

/-- The rule every other one comes from: go on with whatever outcome the program had. After
a fault the rest of the run meets no other one. -/
theorem handle {k : Except (Stop ε) α → Prog ι σ ε β} {Q : β → σ → Prop} (hp : Triple R P p M F)
    (hok : ∀ a, Triple R (M a) (k (.ok a)) Q E)
    (hraised : ∀ e, Triple R (F (.raised e)) (k (.error (.raised e))) Q E)
    (hfault : ∀ r, (∀ e, r ≠ .raised e) → R.Possible r → ∀ m : Machine ι σ, m.Obeys R.calm →
      F r m.state → Lands R Q E (k (.error r) m)) : Triple R P (Prog.handle p k) Q E := by
  intro m hm hPm
  obtain ⟨hhistory, hpost⟩ := hp m hm hPm
  unfold Prog.handle
  cases hr : (p m).1 with
  | ok a =>
    rw [hr] at hpost
    exact hok a _ ⟨hpost.1, hhistory⟩ hpost.2
  | error r =>
    rw [hr] at hpost
    obtain ⟨hstruck, hF⟩ := hpost
    have hcalm := Rules.trace_calm.mpr hhistory
    cases r with
    | raised e => exact hraised e _ ⟨hstruck, hhistory⟩ hF
    | exception => exact hfault _ (by simp) hstruck.1 _ ⟨hstruck.2, hcalm⟩ hF
    | baseException => exact hfault _ (by simp) hstruck.1 _ ⟨hstruck.2, hcalm⟩ hF
    | killed => exact hfault _ (by simp) hstruck.1 _ ⟨hstruck.2, hcalm⟩ hF

theorem pure {a : α} (h : ∀ s, P s → Q a s) :
    Triple R P (Pure.pure a : Prog ι σ ε α) Q E := by
  intro m hm hPm
  exact ⟨hm.history, hm.fault, h _ hPm⟩

theorem raise {e : ε} (h : ∀ s, P s → E (.raised e) s) :
    Triple R P (Prog.raise e : Prog ι σ ε α) Q E := by
  intro m hm hPm
  exact ⟨hm.history, hm.fault, h _ hPm⟩

/-- A program that keeps a fault's stop as it is. -/
lemma lands_done {r : Stop ε} (hne : ∀ e, r ≠ .raised e) (hr : R.Possible r) (hm : m.Obeys R.calm)
    (h : E r m.state) : Lands R Q E ((Prog.done (.error r) : Prog ι σ ε α) m) := by
  refine ⟨Rules.trace_calm.mp hm.history, ?_, h⟩
  cases r with
  | raised e => exact absurd rfl (hne e)
  | exception => exact ⟨hr, hm.fault⟩
  | baseException => exact ⟨hr, hm.fault⟩
  | killed => exact ⟨hr, hm.fault⟩

theorem bind {Q : β → σ → Prop} (hp : Triple R P p M E) (hk : ∀ a, Triple R (M a) (k a) Q E) :
    Triple R P (p >>= k) Q E :=
  handle hp hk (fun _ => raise fun _ hE => hE)
    fun _ hne hr _ hm hE => lands_done hne hr hm hE

theorem pure_bind {a : α} {Q : β → σ → Prop} (h : Triple R P (k a) Q E) :
    Triple R P (Pure.pure a >>= k) Q E := h

/-- A check that succeeds changes nothing. -/
theorem check_ok_bind {x : Except ε α} {a : α} (hx : x = .ok a) {Q : β → σ → Prop}
    (h : Triple R P (k a) Q E) : Triple R P (Prog.check x >>= k) Q E := by
  rw [hx]
  exact h

/-- A program that reads the state goes on from the state it read. -/
theorem read_bind {k : σ → Prog ι σ ε β} {Q : β → σ → Prop}
    (h : ∀ s, P s → Triple R (fun s' => s' = s) (k s) Q E) :
    Triple R P (Prog.read >>= k) Q E := by
  intro m hm hPm
  exact h m.state hPm m hm rfl

theorem check {x : Except ε α} (hok : ∀ a, x = .ok a → ∀ s, P s → Q a s)
    (herror : ∀ e, x = .error e → ∀ s, P s → E (.raised e) s) :
    Triple R P (Prog.check x) Q E := by
  cases x with
  | ok a => exact .pure (hok a rfl)
  | error e => exact .raise (herror e rfl)

/-- What the precondition says about other things than the state holds throughout. -/
theorem of_fact {F : Prop} (hF : ∀ s, P s → F) (h : F → Triple R P p Q E) : Triple R P p Q E := by
  intro m hm hPm
  exact h (hF _ hPm) m hm hPm

theorem forM {l : List α} {f : α → Prog ι σ ε Unit} {I : List α → σ → Prop}
    (h : ∀ before a after, l = before ++ a :: after →
      Triple R (I before) (f a) (fun _ => I (before ++ [a])) E) :
    Triple R (I []) (l.forM f) (fun _ => I l) E := by
  -- the invariant speaks of the elements done; the induction is on those still to do
  have hall : ∀ before after, l = before ++ after →
      Triple R (I before) (after.forM f) (fun _ => I l) E := by
    intro before after
    induction after generalizing before with
    | nil =>
      intro hl
      rw [List.append_nil] at hl
      rw [hl]
      exact .pure fun s hs => hs
    | cons a after ih =>
      intro hl
      apply Triple.bind (h before a after hl)
      intro _
      apply ih
      rw [hl, List.append_assoc, List.singleton_append]
  exact hall [] l rfl

/-- After a fault, the clean-up `q` and then the same stop. -/
lemma lands_cleanup {r : Stop ε} (hne : ∀ e, r ≠ .raised e) (hr : R.Possible r)
    (hq : Triple R.calm (E' r) q (fun _ => E r) fun _ _ => False) (hm : m.Obeys R.calm)
    (h : E' r m.state) : Lands R Q E ((q >>= fun _ => Prog.done (.error r) : Prog ι σ ε α) m) := by
  obtain ⟨hhistory, hpost⟩ := hq m hm h
  show Lands R Q E (Prog.handle q _ m)
  unfold Prog.handle
  cases ho : (q m).1 with
  | ok u =>
    rw [ho] at hpost
    exact lands_done hne hr ⟨hpost.1, hhistory⟩ hpost.2
  | error r' =>
    rw [ho] at hpost
    exact hpost.2.elim

theorem tryFinally (hp : Triple R P p M F) (hok : ∀ a, Triple R (M a) q (fun _ => Q a) E)
    (hraised : ∀ e, Triple R (F (.raised e)) q (fun _ => E (.raised e)) E)
    (hexception : Triple R.calm (F .exception) q (fun _ => E .exception) fun _ _ => False)
    (hbase : Triple R.calm (F .baseException) q (fun _ => E .baseException) fun _ _ => False)
    (hkill : ∀ s, F .killed s → E .killed s) : Triple R P (Prog.tryFinally p q) Q E := by
  apply handle hp
  · intro a
    exact bind (hok a) fun _ => pure fun _ hQ => hQ
  · intro e
    exact bind (hraised e) fun _ => raise fun _ hE => hE
  · intro r hne hr m hm hF
    cases r with
    | raised e => exact absurd rfl (hne e)
    | killed => exact lands_done hne hr hm (hkill _ hF)
    | exception => exact lands_cleanup hne hr hexception hm hF
    | baseException => exact lands_cleanup hne hr hbase hm hF

theorem tryExcept (hp : Triple R P p Q F)
    (hraised : ∀ e, Triple R (F (.raised e)) q (fun _ => E (.raised e)) E)
    (hexception : Triple R.calm (F .exception) q (fun _ => E .exception) fun _ _ => False)
    (hbase : ∀ s, F .baseException s → E .baseException s)
    (hkill : ∀ s, F .killed s → E .killed s) : Triple R P (Prog.tryExcept p q) Q E := by
  apply handle hp
  · intro a
    exact pure fun _ hQ => hQ
  · intro e
    exact bind (hraised e) fun _ => raise fun _ hE => hE
  · intro r hne hr m hm hE'
    cases r with
    | raised e => exact absurd rfl (hne e)
    | killed => exact lands_done hne hr hm (hkill _ hE')
    | baseException => exact lands_done hne hr hm (hbase _ hE')
    | exception => exact lands_cleanup hne hr hexception hm hE'

variable [DecidableEq ι]

/-- One atomic step: where it goes if no fault strikes at it, and what is left if one does. -/
theorem step_of_passes {i : ι} {torn f : σ → σ} {Q : Unit → σ → Prop}
    (hgo : R.passes i → ∀ s, P s → R.moves s (f s) ∧ Q () (f s))
    (hstop : ∀ s kind, P s → R.allowed i kind → kind ≠ .tear → E kind.stop s)
    (htear : ∀ s, P s → R.allowed i .tear → R.moves s (torn s) ∧ E .killed (torn s)) :
    Triple R P (Prog.step i torn f : Prog ι σ ε Unit) Q E := by
  intro m hm hPm
  have hpending := hm.fault
  -- the step is made, and the fault `fault'` is still to come
  have hmade : ∀ fault', R.passes i → R.pending fault' → Lands R Q E
      ((.ok (), { m.advance f with fault := fault' }) : Except (Stop ε) Unit × Machine ι σ) := by
    intro fault' hpasses hfault'
    obtain ⟨hmove, hQ⟩ := hgo hpasses _ hPm
    exact ⟨hm.history.cons hmove, hfault', hQ⟩
  unfold Prog.step
  cases hf : m.fault with
  | none =>
    rw [hf] at hpending
    have hnone := hmade none ⟨none, hpending, by simp⟩ hpending
    rw [← hf] at hnone
    exact hnone
  | some ft =>
    obtain ⟨i', skip, kind⟩ := ft
    rw [hf] at hpending
    by_cases hi : i' ≠ i
    · have hpasses : R.passes i := ⟨_, hpending, by simp [hi]⟩
      have hother := hmade m.fault hpasses (hf ▸ hpending)
      simp only [if_pos hi]
      exact hother
    · rw [not_not] at hi
      subst hi
      simp only [ne_eq, not_true_eq_false, if_false]
      cases skip with
      | succ k =>
        have hpasses : R.passes i' := ⟨_, hpending, by simp⟩
        exact hmade (some ⟨i', k, kind⟩) hpasses (R.waits _ _ _ hpending)
      | zero =>
        -- the fault strikes here, and none is left afterwards
        by_cases hkind : kind = .tear
        · simp only [if_pos hkind]
          rw [hkind] at hpending
          obtain ⟨hmove, hE⟩ := htear _ hPm hpending
          exact ⟨hm.history.cons hmove, ⟨⟨i', .tear, hpending, rfl⟩, rfl⟩, hE⟩
        · simp only [if_neg hkind]
          refine ⟨hm.history, ?_, hstop _ _ hPm hpending hkind⟩
          have hpossible : R.Possible (kind.stop : Stop ε) := ⟨i', kind, hpending, rfl⟩
          cases kind with
          | tear => exact absurd rfl hkind
          | exception => exact ⟨hpossible, rfl⟩
          | baseException => exact ⟨hpossible, rfl⟩
          | kill => exact ⟨hpossible, rfl⟩

theorem step {i : ι} {torn f : σ → σ} {Q : Unit → σ → Prop} (hQ : ∀ s, P s → Q () (f s))
    (hmoves : ∀ s, P s → R.moves s (f s))
    (hstop : ∀ s kind, P s → R.allowed i kind → kind ≠ .tear → E kind.stop s)
    (htear : ∀ s, P s → R.allowed i .tear → R.moves s (torn s) ∧ E .killed (torn s)) :
    Triple R P (Prog.step i torn f : Prog ι σ ε Unit) Q E :=
  step_of_passes (fun _ s hs => ⟨hmoves s hs, hQ s hs⟩) hstop htear

omit [DecidableEq ι] in
/-- A run without a fault returns when the program never raises. -/
theorem returns (h : Triple R P p Q E) (hE : ∀ e s, ¬E (.raised e) s) (hm : m.Obeys R)
    (hR : ∀ i kind, ¬R.allowed i kind) (hP : P m.state) :
    ∃ a, (p m).1 = .ok a ∧ Q a (p m).2.state := by
  obtain ⟨-, hpost⟩ := h m hm hP
  have hpossible : ∀ r : Stop ε, ¬R.Possible r := fun r ⟨i, kind, hallowed, _⟩ => hR i kind hallowed
  cases hr : (p m).1 with
  | ok a =>
    rw [hr] at hpost
    exact ⟨a, rfl, hpost.2⟩
  | error r =>
    rw [hr] at hpost
    cases r with
    | raised e => exact absurd hpost.2 (hE e _)
    | exception => exact absurd hpost.1.1 (hpossible _)
    | baseException => exact absurd hpost.1.1 (hpossible _)
    | killed => exact absurd hpost.1.1 (hpossible _)

end Triple

/-! ## Write-once files -/

/-- The content of a file: complete, or cut off by the death of its writer. -/
inductive File (α : Type)
  | whole (a : α)
  | torn
deriving DecidableEq

/-- The content of a complete file. -/
def File.whole? : File α → Option α
  | .whole a => some a
  | .torn => none

variable [DecidableEq ι] [DecidableEq α]

/-- Create a file that must not change: an existing one with other content raises. -/
def Prog.writeOnce (i : ι) (get : σ → Option (File α)) (put : File α → σ → σ) (a : α) (e : ε) :
    Prog ι σ ε Unit := do
  match get (← read) with
  | none => step i (put .torn) (put (.whole a))
  | some f => if f = .whole a then pure () else raise e

theorem Triple.writeOnce_of_passes {R : Rules ι σ} {P : σ → Prop} {Q : Unit → σ → Prop}
    {E : Stop ε → σ → Prop} {i : ι} {get : σ → Option (File α)} {put : File α → σ → σ} {a : α}
    {e : ε} (hold : ∀ s f, P s → get s = some f →
      (f = .whole a → Q () s) ∧ (f ≠ .whole a → E (.raised e) s))
    (hnew : R.passes i → ∀ s, P s → get s = none →
      Q () (put (.whole a) s) ∧ R.moves s (put (.whole a) s))
    (hstop : ∀ s kind, P s → get s = none → R.allowed i kind → kind ≠ .tear → E kind.stop s)
    (htear : ∀ s, P s → get s = none → R.allowed i .tear →
      R.moves s (put .torn s) ∧ E .killed (put .torn s)) :
    Triple R P (Prog.writeOnce i get put a e) Q E := by
  unfold Prog.writeOnce
  apply Triple.read_bind
  intro s hs
  cases hget : get s with
  | none =>
    apply Triple.step_of_passes
    · rintro hpasses _ rfl
      exact (hnew hpasses _ hs hget).symm
    · rintro _ kind rfl
      exact hstop _ kind hs hget
    · rintro _ rfl
      exact htear _ hs hget
  | some f =>
    obtain ⟨hsame, hother⟩ := hold s f hs hget
    by_cases hf : f = .whole a
    · simp only [if_pos hf]
      apply Triple.pure
      rintro _ rfl
      exact hsame hf
    · simp only [if_neg hf]
      apply Triple.raise
      rintro _ rfl
      exact hother hf

theorem Triple.writeOnce {R : Rules ι σ} {P : σ → Prop} {Q : Unit → σ → Prop}
    {E : Stop ε → σ → Prop} {i : ι} {get : σ → Option (File α)} {put : File α → σ → σ} {a : α}
    {e : ε} (hold : ∀ s f, P s → get s = some f →
      (f = .whole a → Q () s) ∧ (f ≠ .whole a → E (.raised e) s))
    (hnew : ∀ s, P s → get s = none → Q () (put (.whole a) s) ∧ R.moves s (put (.whole a) s))
    (hstop : ∀ s kind, P s → R.allowed i kind → kind ≠ .tear → E kind.stop s)
    (htear : ∀ s, P s → get s = none → R.allowed i .tear →
      R.moves s (put .torn s) ∧ E .killed (put .torn s)) :
    Triple R P (Prog.writeOnce i get put a e) Q E :=
  .writeOnce_of_passes hold (fun _ => hnew) (fun s kind hs _ => hstop s kind hs) htear

end Lib
