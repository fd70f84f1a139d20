import Mathlib.Data.List.Basic
import Mathlib.Data.List.Forall2

/-!
# Programs that raise

Straight-line code that checks and raises is written in `Except ε`: `raiseIf c e` is
`if c: raise e`. The lemmas here read a successful run backwards, one statement at a time:
each check that was passed, each intermediate value, and each iteration of a loop.
-/

namespace Lib

variable {ε α β : Type}

/-- `if c: raise e` -/
def raiseIf (c : Prop) [Decidable c] (e : ε) : Except ε Unit :=
  if c then .error e else .ok ()

variable {f : α → Except ε β} {l : List α} {x : Except ε α} {c : Prop} {e : ε}

@[simp] theorem raiseIf_eq_ok_iff [Decidable c] {u : Unit} : raiseIf c e = .ok u ↔ ¬c := by
  by_cases h : c <;> simp [raiseIf, h]

theorem raiseIf_pos [Decidable c] (h : c) : raiseIf c e = .error e := if_pos h

theorem raiseIf_neg [Decidable c] (h : ¬c) : raiseIf c e = .ok () := if_neg h

/-- A sequence succeeds when its first part does and the rest does on the value produced. -/
@[simp] theorem bind_eq_ok_iff {b : β} : (x >>= f) = .ok b ↔ ∃ a, x = .ok a ∧ f a = .ok b := by
  cases x with
  | error e => simp [bind, Except.bind]
  | ok a => simp [bind, Except.bind]

@[simp] theorem raiseIf_eq_error_iff [Decidable c] {e e' : ε} :
    raiseIf c e = .error e' ↔ c ∧ e = e' := by
  by_cases h : c <;> simp [raiseIf, h]

/-- A sequence raises when its first part does, or the rest does on the value produced. -/
@[simp] theorem bind_eq_error_iff :
    (x >>= f) = .error e ↔ x = .error e ∨ ∃ a, x = .ok a ∧ f a = .error e := by
  cases x with
  | error e' => simp [bind, Except.bind]
  | ok a => simp [bind, Except.bind]

@[simp] theorem ok_bind (a : α) (f : α → Except ε β) : ((.ok a : Except ε α) >>= f) = f a := rfl

@[simp] theorem error_bind (e : ε) (f : α → Except ε β) :
    ((.error e : Except ε α) >>= f) = .error e := rfl

@[simp] theorem pure_eq_ok (a : α) : (pure a : Except ε α) = .ok a := rfl

theorem map_eq_ok_iff {f : α → β} {b : β} : x.map f = .ok b ↔ ∃ a, x = .ok a ∧ f a = b := by
  cases x with
  | error e => simp [Except.map]
  | ok a => simp [Except.map]

/-- A loop of checks succeeds when every check does. -/
theorem forM_eq_ok_iff {f : α → Except ε Unit} {u : Unit} :
    l.forM f = .ok u ↔ ∀ a ∈ l, f a = .ok () := by
  induction l with
  | nil => simp
  | cons a l ih =>
    have hcons : (a :: l).forM f = (f a >>= fun _ => l.forM f) := rfl
    rw [hcons, bind_eq_ok_iff, List.forall_mem_cons]
    exact ⟨fun ⟨_, ha, hl⟩ => ⟨ha, ih.mp hl⟩, fun ⟨ha, hl⟩ => ⟨(), ha, ih.mpr hl⟩⟩

/-- A loop of checks raises what one of its checks raises. -/
theorem exists_error_of_forM {f : α → Except ε Unit} (h : l.forM f = .error e) :
    ∃ a ∈ l, f a = .error e := by
  induction l with
  | nil => cases h
  | cons a l ih =>
    have hcons : (f a >>= fun _ => l.forM f) = .error e := h
    rcases bind_eq_error_iff.mp hcons with hfirst | ⟨_, -, hrest⟩
    · exact ⟨a, List.mem_cons_self, hfirst⟩
    · obtain ⟨b, hb, herror⟩ := ih hrest
      exact ⟨b, List.mem_cons_of_mem _ hb, herror⟩

/-- A loop that builds a list succeeds when every element does. -/
theorem mapM_eq_ok_iff {bs : List β} :
    l.mapM f = .ok bs ↔ List.Forall₂ (fun a b => f a = .ok b) l bs := by
  induction l generalizing bs with
  | nil => simp [List.mapM_nil, eq_comm]
  | cons a l ih =>
    rw [List.mapM_cons]
    simp only [bind_eq_ok_iff, pure_eq_ok, Except.ok.injEq, ih, List.forall₂_cons_left_iff]
    constructor
    · rintro ⟨b, hb, bs', hbs, rfl⟩
      exact ⟨b, bs', hb, hbs, rfl⟩
    · rintro ⟨b, bs', hb, hbs, rfl⟩
      exact ⟨b, hb, bs', hbs, rfl⟩

theorem exists_of_toBool (h : x.toBool = true) : ∃ a, x = .ok a := by
  cases x with
  | error e => simp [Except.toBool] at h
  | ok a => exact ⟨a, rfl⟩

/-- A loop that builds a list succeeds when each element does. -/
theorem exists_mapM_eq_ok (h : ∀ a ∈ l, ∃ b, f a = .ok b) : ∃ bs, l.mapM f = .ok bs := by
  induction l with
  | nil => exact ⟨[], rfl⟩
  | cons a l ih =>
    obtain ⟨b, hb⟩ := h a List.mem_cons_self
    obtain ⟨bs, hbs⟩ := ih fun x hx => h x (List.mem_cons_of_mem _ hx)
    exact ⟨b :: bs, by rw [List.mapM_cons, hb, ok_bind, hbs, ok_bind, pure_eq_ok]⟩

/-- A loop in which no turn raises is a map. -/
theorem mapM_eq_map {g : α → β} (h : ∀ a ∈ l, f a = .ok (g a)) : l.mapM f = .ok (l.map g) := by
  rw [mapM_eq_ok_iff, List.forall₂_map_right_iff, List.forall₂_same]
  exact h

/-- A loop that builds a list is a map of what its turns give, where it succeeds. -/
theorem mapM_eq_ok_iff_map {g : α → β} (hg : ∀ a b, f a = .ok b → g a = b) {bs : List β} :
    l.mapM f = .ok bs ↔ (∀ a ∈ l, ∃ b, f a = .ok b) ∧ bs = l.map g := by
  constructor
  · intro h
    have hturns := mapM_eq_ok_iff.mp h
    refine ⟨fun a ha => ?_, ?_⟩
    · by_contra hnone
      have herror : ∀ b, f a ≠ .ok b := fun b hb => hnone ⟨b, hb⟩
      clear h
      induction hturns with
      | nil => exact absurd ha List.not_mem_nil
      | cons hb _ ih =>
        rcases List.mem_cons.mp ha with rfl | ha
        · exact herror _ hb
        · exact ih ha
    · clear h
      induction hturns with
      | nil => rfl
      | cons hb _ ih => rw [List.map_cons, ← ih, hg _ _ hb]
  · rintro ⟨hok, rfl⟩
    refine mapM_eq_map fun a ha => ?_
    obtain ⟨b, hb⟩ := hok a ha
    rw [hb, hg a b hb]

theorem mapM_congr {f g : α → Except ε β} (h : ∀ a ∈ l, f a = g a) : l.mapM f = l.mapM g := by
  induction l with
  | nil => rfl
  | cons a l ih =>
    rw [List.mapM_cons, List.mapM_cons, h a List.mem_cons_self,
      ih fun b hb => h b (List.mem_cons_of_mem a hb)]

/-- A search in which no turn raises. -/
theorem anyM_map_eq_any {γ : Type} {p : α → Except ε Bool} {f : γ → α} {g : γ → Bool} {l : List γ}
    (h : ∀ c ∈ l, p (f c) = .ok (g c)) : (l.map f).anyM p = .ok (l.any g) := by
  induction l with
  | nil => rfl
  | cons c l ih =>
    rw [List.map_cons, List.anyM_cons, h c List.mem_cons_self, ok_bind, List.any_cons]
    cases g c with
    | true => rfl
    | false => exact ih fun d hd => h d (List.mem_cons_of_mem c hd)

/-- A loop that computes a value in each turn and takes it in: the values come first. -/
theorem foldlM_eq_ok_iff {γ : Type} {take : γ → β → γ} {s s' : γ} :
    (l.foldlM (fun s a => f a >>= fun b => .ok (take s b)) s : Except ε γ) = .ok s' ↔
      ∃ bs, l.mapM f = .ok bs ∧ bs.foldl take s = s' := by
  induction l generalizing s with
  | nil => simp [List.mapM_nil]
  | cons a l ih =>
    rw [List.foldlM_cons, List.mapM_cons]
    cases f a with
    | error e => simp
    | ok b =>
      rw [ok_bind, ok_bind, ok_bind, ih]
      constructor
      · rintro ⟨bs, hbs, rfl⟩
        exact ⟨b :: bs, by rw [hbs, ok_bind, pure_eq_ok], rfl⟩
      · rintro ⟨bs', hbs', rfl⟩
        obtain ⟨bs, hbs, heq⟩ := bind_eq_ok_iff.mp hbs'
        cases heq
        exact ⟨bs, hbs, rfl⟩

/-- A loop that carries a value succeeds when no turn raises. -/
theorem exists_foldlM_eq_ok {f : β → α → Except ε β} {b : β}
    (h : ∀ a ∈ l, ∀ b, ∃ c, f b a = .ok c) : ∃ c, l.foldlM f b = .ok c := by
  induction l generalizing b with
  | nil => exact ⟨b, rfl⟩
  | cons a l ih =>
    obtain ⟨c, hc⟩ := h a List.mem_cons_self b
    obtain ⟨d, hd⟩ := ih (b := c) fun x hx => h x (List.mem_cons_of_mem a hx)
    exact ⟨d, by rw [List.foldlM_cons, hc, ok_bind, hd]⟩

/-- Goes on with a result and the fact that it is the result. -/
def withResult (x : Except ε α) (f : ∀ a, x = .ok a → Except ε β) : Except ε β :=
  match x, f with
  | .ok a, f => f a rfl
  | .error e, _ => .error e

theorem withResult_of_ok {f : ∀ a, x = .ok a → Except ε β} {a : α} (h : x = .ok a) :
    withResult x f = f a h := by
  subst h
  rfl

end Lib
