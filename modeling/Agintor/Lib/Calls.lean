import Agintor.Lib.Stateful

/-!
# Calls that may fail

A program that makes one call after another. An environment says at which steps a call raises; a
call that raises leaves a state of its own, and nothing is called after it.
-/

namespace Lib

variable {ι σ ε α : Type}

/-- A call by its step, with the states it leaves when it succeeds and when it fails. -/
structure Call (ι σ : Type) where
  step : ι
  done : σ → σ
  failed : σ → σ

/-- The call raises what `fails` says of its step. -/
def Call.run (fails : ι → Option ε) (c : Call ι σ) : Stateful σ ε Unit := fun s =>
  match fails c.step with
  | some e => (.error e, c.failed s)
  | none => (.ok (), c.done s)

namespace Call

variable {fails : ι → Option ε} {c : Call ι σ} {s : σ}

lemma run_of_none (h : fails c.step = none) : c.run fails s = (.ok (), c.done s) := by
  unfold run
  rw [h]

lemma run_of_some {e : ε} (h : fails c.step = some e) : c.run fails s = (.error e, c.failed s) := by
  unfold run
  rw [h]

/-- What follows a call need only agree on the state that the call leaves when it succeeds. -/
lemma run_bind_congr {k k' : Unit → Stateful σ ε α} (h : k () (c.done s) = k' () (c.done s)) :
    (c.run fails >>= k) s = (c.run fails >>= k') s := by
  show Stateful.andThen _ _ _ = Stateful.andThen _ _ _
  unfold Stateful.andThen
  cases hc : fails c.step with
  | some e => rw [run_of_some hc]
  | none =>
    rw [run_of_none hc]
    exact h

end Call

/-- Programs that agree on a state may stand for one another there. -/
lemma Stateful.bind_congr_left {β : Type} {p p' : Stateful σ ε α} {k : α → Stateful σ ε β} {s : σ}
    (h : p s = p' s) : (p >>= k) s = (p' >>= k) s := by
  rw [Stateful.bind_apply, Stateful.bind_apply, Stateful.andThen, Stateful.andThen, h]

namespace Calls

/-- One call after another. -/
def run (fails : ι → Option ε) : List (Call ι σ) → Stateful σ ε Unit
  | [] => pure ()
  | c :: calls => c.run fails >>= fun _ => run fails calls

/-- The state that calls leave when all of them succeed. -/
def after (calls : List (Call ι σ)) (s : σ) : σ := calls.foldl (fun s c => c.done s) s

/-- The step at which a run raises. -/
def firstFailure (fails : ι → Option ε) (steps : List ι) : Option ι :=
  steps.find? fun step => (fails step).isSome

variable {fails : ι → Option ε} {calls before rest : List (Call ι σ)} {c : Call ι σ} {s : σ}

lemma after_cons : after (c :: calls) s = after calls (c.done s) := rfl

lemma after_append : after (before ++ rest) s = after rest (after before s) := List.foldl_append

lemma run_append : run fails (before ++ rest) = run fails before >>= fun _ => run fails rest := by
  induction before with
  | nil => rfl
  | cons c before ih =>
    show c.run fails >>= (fun _ => run fails (before ++ rest)) = _
    rw [ih]
    exact (Stateful.bind_bind _ _ _).symm

lemma run_of_forall (h : ∀ c ∈ calls, fails c.step = none) :
    run fails calls s = (.ok (), after calls s) := by
  induction calls generalizing s with
  | nil => rfl
  | cons c calls ih =>
    have hc : c.run fails s = (.ok (), c.done s) := Call.run_of_none (h c List.mem_cons_self)
    show (c.run fails >>= fun _ => run fails calls) s = _
    rw [Stateful.bind_of_ok (a := ()) (congrArg Prod.fst hc), hc, after_cons]
    exact ih fun c' hc' => h c' (List.mem_cons_of_mem _ hc')

lemma run_of_fails {e : ε} (h : ∀ b ∈ before, fails b.step = none) (he : fails c.step = some e) :
    run fails (before ++ c :: rest) s = (.error e, c.failed (after before s)) := by
  have hbefore : run fails before s = (.ok (), after before s) := run_of_forall h
  have hc : c.run fails (after before s) = (.error e, c.failed (after before s)) :=
    Call.run_of_some he
  rw [run_append, Stateful.bind_of_ok (a := ()) (congrArg Prod.fst hbefore), hbefore]
  show (c.run fails >>= fun _ => run fails rest) (after before s) = _
  rw [Stateful.bind_of_error (congrArg Prod.fst hc), hc]

/-- What follows the calls need only agree on the state that they leave when they succeed. -/
lemma run_bind_congr {k k' : Unit → Stateful σ ε α}
    (h : k () (after calls s) = k' () (after calls s)) :
    (run fails calls >>= k) s = (run fails calls >>= k') s := by
  induction calls generalizing s with
  | nil => exact h
  | cons c calls ih =>
    show (c.run fails >>= (fun _ => run fails calls) >>= k) s =
      (c.run fails >>= (fun _ => run fails calls) >>= k') s
    rw [Stateful.bind_bind, Stateful.bind_bind]
    exact Call.run_bind_congr (ih h)

/-- A run makes all its calls, or it ends at the first one that fails. -/
theorem run_cases (fails : ι → Option ε) (calls : List (Call ι σ)) (s : σ) :
    (firstFailure fails (calls.map Call.step) = none ∧
      run fails calls s = (.ok (), after calls s)) ∨
    ∃ before c rest e, calls = before ++ c :: rest ∧
      firstFailure fails (calls.map Call.step) = some c.step ∧
      run fails calls s = (.error e, c.failed (after before s)) := by
  have hmap : firstFailure fails (calls.map Call.step) =
      (calls.find? fun c => (fails c.step).isSome).map Call.step := List.find?_map
  cases hfind : calls.find? fun c => (fails c.step).isSome with
  | none =>
    left
    refine ⟨by rw [hmap, hfind]; rfl, run_of_forall fun c hc => ?_⟩
    simpa using List.find?_eq_none.mp hfind c hc
  | some c =>
    right
    obtain ⟨hc, before, rest, rfl, hbefore⟩ := List.find?_eq_some_iff_append.mp hfind
    obtain ⟨e, he⟩ := Option.isSome_iff_exists.mp hc
    refine ⟨before, c, rest, e, rfl, by rw [hmap, hfind]; rfl, run_of_fails (fun b hb => ?_) he⟩
    simpa using hbefore b hb

/-- Two lists after each other, cut at one element. -/
lemma append_eq_append_cons {β : Type} {xs ys before rest : List β} {b : β}
    (h : xs ++ ys = before ++ b :: rest) :
    (∃ last, xs = before ++ b :: last) ∨
      ∃ first, before = xs ++ first ∧ ys = first ++ b :: rest := by
  rcases List.append_eq_append_iff.mp h with ⟨first, hbefore, hys⟩ | ⟨last, hxs, hrest⟩
  · exact .inr ⟨first, hbefore, hys⟩
  · cases last with
    | nil => exact .inr ⟨[], by simpa using hxs.symm, by simpa using hrest.symm⟩
    | cons b' last =>
      obtain ⟨rfl, -⟩ := List.cons.inj hrest
      exact .inl ⟨last, hxs⟩

/-- The calls of a loop, cut at one of them: the round it belongs to, and the calls of that round
before it. -/
lemma flatMap_eq_append_cons {β : Type} {f : β → List (Call ι σ)} {names : List β}
    (h : names.flatMap f = before ++ c :: rest) :
    ∃ earlier name later first last, names = earlier ++ name :: later ∧
      f name = first ++ c :: last ∧ before = earlier.flatMap f ++ first := by
  induction names generalizing before with
  | nil => simp at h
  | cons name names ih =>
    rw [List.flatMap_cons] at h
    rcases append_eq_append_cons h with ⟨last, hname⟩ | ⟨first, rfl, hnames⟩
    · exact ⟨[], name, names, before, last, rfl, hname, rfl⟩
    · obtain ⟨earlier, name', later, first', last', rfl, hname', rfl⟩ := ih hnames
      exact ⟨name :: earlier, name', later, first', last', rfl, hname',
        by rw [List.flatMap_cons, List.append_assoc]⟩

end Calls

end Lib
