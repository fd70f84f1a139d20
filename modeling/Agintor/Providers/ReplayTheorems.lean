import Agintor.Providers.Replay
import Mathlib.Data.List.Nodup
import Mathlib.Data.List.Perm.Basic

/-!
# Replay rows are handed out once

A window that is reserved lies above every row handed out before, so the windows of one allocator
are apart. A persisted allocation is accepted when its end is inside the file; whether its window
lies below the allocator's cursor is not asked, and on a provider that starts over the shared cursor
still has these rows to give.
-/

namespace Agintor.Providers

variable {Row : Type}

/-- A row from the first of a window on, before its end. -/
def Within (window : ℕ × ℕ) (r : ℕ) : Prop := window.1 ≤ r ∧ r < window.2

instance (window : ℕ × ℕ) (r : ℕ) : Decidable (Within window r) :=
  inferInstanceAs (Decidable (_ ∧ _))

/-- No row is in both windows. -/
def Apart (v w : ℕ × ℕ) : Prop := ∀ r, Within v r → ¬Within w r

lemma Apart.symm {v w : ℕ × ℕ} (h : Apart v w) : Apart w v := fun r hw hv => h r hv hw

lemma not_within_of_le {lower upper r : ℕ} (h : upper ≤ lower) : ¬Within (lower, upper) r := by
  intro hr
  have hlower : lower ≤ r := hr.1
  have hupper : r < upper := hr.2
  omega

def ReplayAllocation.window (a : ReplayAllocation) : ℕ × ℕ :=
  (a.cursorStart.toNat, a.cursorEnd.toNat)

namespace ReplayClone

/-- The window of a clone. The shared cursor has none. -/
def window (k : ReplayClone) : ℕ × ℕ :=
  if k.coordinator.useAllocatorCursor then (0, 0)
  else (k.coordinator.cursorStart, k.coordinator.cursorEnd)

/-- The rows of its window that were left when the clone was made. -/
def remaining (k : ReplayClone) : ℕ × ℕ :=
  if k.coordinator.useAllocatorCursor then (0, 0) else (k.first, k.coordinator.cursorEnd)

/-- The rows of its window that are left now. -/
def unread (k : ReplayClone) : ℕ × ℕ :=
  if k.coordinator.useAllocatorCursor then (0, 0)
  else (k.coordinator.cursor, k.coordinator.cursorEnd)

end ReplayClone

/-- The cursors of a coordinator are in order, inside the file. -/
lemma ReplayCoordinator.create_order (allocator : ReplayAllocator Row) (arguments : CursorArguments)
    {use : Bool} (hwindow : (create allocator arguments use).useAllocatorCursor = false) :
    (create allocator arguments use).cursorStart ≤ (create allocator arguments use).cursor ∧
      (create allocator arguments use).cursor ≤ (create allocator arguments use).cursorEnd ∧
      (create allocator arguments use).cursorEnd ≤ allocator.rows.length := by
  have huse : use = false := hwindow
  subst huse
  simp only [create, Bool.false_eq_true, if_false]
  omega

namespace ReplayRun

/-- The windows reserved and those of the clones. -/
def windows (s : ReplayRun Row) : List (ℕ × ℕ) :=
  s.reserved.map (·.window) ++ s.clones.map (·.window)

/-- The same without the rows that earlier providers read. -/
def remaining (s : ReplayRun Row) : List (ℕ × ℕ) :=
  s.reserved.map (·.window) ++ s.clones.map (·.remaining)

/-- The rows that a clone returned, in order. -/
def rowsOf (s : ReplayRun Row) (i : ℕ) : List ℕ := (s.returned.filter (·.1 = i)).map (·.2)

def rowsReturned (s : ReplayRun Row) : List ℕ := s.returned.map (·.2)

/-- A clone with the shared cursor. -/
def IsShared (s : ReplayRun Row) (i : ℕ) : Prop :=
  (s.clones[i]?.map (·.coordinator.useAllocatorCursor)) = some true

instance (s : ReplayRun Row) (i : ℕ) : Decidable (s.IsShared i) :=
  inferInstanceAs (Decidable (_ = _))

/-- What the rows handed out so far come to, for an allocator whose cursor was `c₀` at first. -/
structure HandedOutOnce (c₀ : ℕ) (s : ReplayRun Row) : Prop where
  once : s.rowsReturned.Nodup
  window_rows : ∀ i k, s.clones[i]? = some k → k.coordinator.useAllocatorCursor = false →
    s.rowsOf i = List.range' k.first (k.coordinator.cursor - k.first) ∧
      k.coordinator.cursor ≤ k.coordinator.cursorEnd
  window_next : ∀ k ∈ s.clones, k.coordinator.useAllocatorCursor = false →
    k.coordinator.cursor < k.coordinator.cursorEnd →
    ∃ row, s.allocator.rows[k.coordinator.cursor]? = some row ∧
      k.coordinator.nextRow s.allocator = .ok ((k.coordinator.cursor, row), s.allocator,
        { k.coordinator with cursor := k.coordinator.cursor + 1 })
  shared_outside : ∀ i, s.IsShared i → ∀ r ∈ s.rowsOf i, ∀ w ∈ s.windows, ¬Within w r
  unreturned : ∀ r < s.allocator.rows.length, r ∉ s.rowsReturned ↔
    ((∀ w ∈ s.remaining, ¬Within w r) ∧ (r < c₀ ∨ s.allocator.cursor ≤ r)) ∨
      (∃ a ∈ s.reserved, Within a.window r) ∨ ∃ k ∈ s.clones, Within k.unread r

/-! ## Which allocations fit -/

/-- The window is below the allocator's cursor, no shared clone returned a row of it, and the rows
left in it are in no other window. -/
def Fits (s : ReplayRun Row) (c : ReplayCoordinator) : Prop :=
  (∀ r < c.cursorEnd, c.cursorStart ≤ r → r < s.allocator.cursor ∧
    ∀ p ∈ s.returned, p.2 = r → ¬s.IsShared p.1) ∧
  ∀ r < c.cursorEnd, c.cursor ≤ r → ∀ w ∈ s.remaining, ¬Within w r

instance (s : ReplayRun Row) (c : ReplayCoordinator) : Decidable (s.Fits c) :=
  inferInstanceAs (Decidable (_ ∧ _))

/-- A persisted allocation that is cloned fits. -/
def MeetsAt (s : ReplayRun Row) : ReplayEvent → Prop
  | .cloneForAllocation _ allocation =>
    allocation ∈ s.reserved ∨ s.Fits (.cloneWindow s.allocator allocation)
  | _ => True

instance (s : ReplayRun Row) : (e : ReplayEvent) → Decidable (s.MeetsAt e)
  | .cloneForAllocation .. => inferInstanceAs (Decidable (_ ∨ _))
  | .reserveRows .. | .sharedClone _ | .generate _ => isTrue trivial

instance (s : ReplayRun Row) : (e : ReplayEvent) → Decidable (s.Admits e)
  | .cloneForAllocation .. => inferInstanceAs (Decidable (_ ∧ _))
  | .reserveRows .. | .sharedClone _ | .generate _ => isTrue trivial

/-- The calls of a run, one after the other. -/
def run (s : ReplayRun Row) (events : List ReplayEvent) : ReplayRun Row := events.foldl step s

/-- Every call of a run is made where the condition on it holds. -/
def Along (C : ReplayRun Row → ReplayEvent → Prop) (s : ReplayRun Row) : List ReplayEvent → Prop
  | [] => True
  | e :: events => C s e ∧ Along C (s.step e) events

instance Along.decidable (C : ReplayRun Row → ReplayEvent → Prop) [∀ s e, Decidable (C s e)]
    (s : ReplayRun Row) : (events : List ReplayEvent) → Decidable (Along C s events)
  | [] => isTrue trivial
  | e :: events =>
    have := Along.decidable C (s.step e) events
    inferInstanceAs (Decidable (_ ∧ _))

/-- A provider that starts with a window of its own has read it, as far as its rows are below the
allocator's cursor. -/
def StartFits (s : ReplayRun Row) : Prop :=
  ∀ k ∈ s.clones, ∀ r < k.window.2, k.window.1 ≤ r → r < s.allocator.cursor

instance (s : ReplayRun Row) : Decidable s.StartFits :=
  inferInstanceAs (Decidable (∀ _ ∈ _, _))

/-! ## The invariant -/

/-- An allocation as `reserve_window` makes it. -/
def Reserved (s : ReplayRun Row) (a : ReplayAllocation) : Prop :=
  0 ≤ a.cursorStart ∧ a.cursorStart ≤ a.cursorEnd ∧ a.nextCursor = a.cursorStart ∧
    a.cursorEnd ≤ s.allocator.rows.length

structure Invariant (c₀ : ℕ) (s : ReplayRun Row) : Prop where
  start_le : c₀ ≤ s.allocator.cursor
  cursor_le : s.allocator.cursor ≤ s.allocator.rows.length
  reserved : ∀ a ∈ s.reserved, s.Reserved a
  below : ∀ w ∈ s.windows, ∀ r, Within w r → r < s.allocator.cursor
  order : ∀ k ∈ s.clones, k.coordinator.useAllocatorCursor = false →
    k.coordinator.cursorStart ≤ k.first ∧ k.first ≤ k.coordinator.cursor ∧
      k.coordinator.cursor ≤ k.coordinator.cursorEnd ∧
      k.coordinator.cursorEnd ≤ s.allocator.rows.length
  apart : s.remaining.Pairwise Apart
  window_rows : ∀ i k, s.clones[i]? = some k → k.coordinator.useAllocatorCursor = false →
    s.rowsOf i = List.range' k.first (k.coordinator.cursor - k.first)
  shared_rows : ∀ i, s.IsShared i → ∀ r ∈ s.rowsOf i,
    c₀ ≤ r ∧ r < s.allocator.cursor ∧ ∀ w ∈ s.windows, ¬Within w r
  accounted : ∀ r, c₀ ≤ r → r < s.allocator.cursor →
    (∃ w ∈ s.remaining, Within w r) ∨ r ∈ s.rowsReturned
  once : s.rowsReturned.Nodup
  returned_clone : ∀ p ∈ s.returned, p.1 < s.clones.length

variable {c₀ : ℕ} {s : ReplayRun Row} {i : ℕ} {k : ReplayClone}

lemma mem_rowsOf {r : ℕ} : r ∈ s.rowsOf i ↔ (i, r) ∈ s.returned := by
  simp [rowsOf]

lemma mem_rowsReturned {r : ℕ} : r ∈ s.rowsReturned ↔ ∃ i, r ∈ s.rowsOf i := by
  simp [rowsReturned, mem_rowsOf]

lemma mem_windows {w : ℕ × ℕ} : w ∈ s.windows ↔
    (∃ a ∈ s.reserved, a.window = w) ∨ ∃ k ∈ s.clones, k.window = w := by
  simp [windows]

lemma mem_remaining {w : ℕ × ℕ} : w ∈ s.remaining ↔
    (∃ a ∈ s.reserved, a.window = w) ∨ ∃ k ∈ s.clones, k.remaining = w := by
  simp [remaining]

lemma isShared_iff (hk : s.clones[i]? = some k) :
    s.IsShared i ↔ k.coordinator.useAllocatorCursor = true := by
  simp [IsShared, hk]

namespace Invariant

variable {r : ℕ}

section

variable (h : Invariant c₀ s)
include h

/-- A row left in a window is in the window. -/
lemma within_window {w : ℕ × ℕ} (hw : w ∈ s.remaining) (hr : Within w r) :
    ∃ v ∈ s.windows, Within v r := by
  rcases mem_remaining.mp hw with ⟨a, ha, rfl⟩ | ⟨k, hk, rfl⟩
  · exact ⟨_, mem_windows.mpr (Or.inl ⟨a, ha, rfl⟩), hr⟩
  · refine ⟨_, mem_windows.mpr (Or.inr ⟨k, hk, rfl⟩), ?_⟩
    cases hshared : k.coordinator.useAllocatorCursor with
    | true => simpa [ReplayClone.remaining, ReplayClone.window, hshared] using hr
    | false =>
      have horder := h.order k hk hshared
      simp only [ReplayClone.remaining, ReplayClone.window, hshared, Within, Bool.false_eq_true,
        if_false] at hr ⊢
      omega

lemma remaining_below {w : ℕ × ℕ} (hw : w ∈ s.remaining) (hr : Within w r) :
    r < s.allocator.cursor := by
  obtain ⟨v, hv, hvr⟩ := h.within_window hw hr
  exact h.below v hv r hvr

/-- Rows between the two cursors of a window clone are what the clone returned. -/
lemma mem_rowsOf_window (hk : s.clones[i]? = some k)
    (hwindow : k.coordinator.useAllocatorCursor = false) :
    r ∈ s.rowsOf i ↔ k.first ≤ r ∧ r < k.coordinator.cursor := by
  have horder := h.order k (List.mem_of_getElem? hk) hwindow
  rw [h.window_rows i k hk hwindow, List.mem_range'_1]
  omega

/-- A returned row was left in a window, or came from the shared cursor. -/
lemma returned_cases (hr : r ∈ s.rowsOf i) :
    (∃ k, s.clones[i]? = some k ∧ k.coordinator.useAllocatorCursor = false ∧ k.first ≤ r ∧
      r < k.coordinator.cursor ∧ k.coordinator.cursor ≤ k.coordinator.cursorEnd) ∨ s.IsShared i := by
  have hlt : i < s.clones.length := h.returned_clone _ (mem_rowsOf.mp hr)
  have hk : s.clones[i]? = some s.clones[i] := List.getElem?_eq_getElem hlt
  cases hshared : s.clones[i].coordinator.useAllocatorCursor with
  | true => exact Or.inr ((isShared_iff hk).mpr hshared)
  | false =>
    have horder := h.order _ (List.mem_of_getElem? hk) hshared
    have hrange := (h.mem_rowsOf_window hk hshared).mp hr
    exact Or.inl ⟨_, hk, hshared, hrange.1, hrange.2, horder.2.2.1⟩

lemma returned_below (hr : r ∈ s.rowsReturned) : r < s.allocator.cursor := by
  obtain ⟨i, hi⟩ := mem_rowsReturned.mp hr
  rcases h.returned_cases hi with ⟨k, hk, hwindow, hfirst, hcursor, hend⟩ | hshared
  · apply h.remaining_below (mem_remaining.mpr (Or.inr ⟨k, List.mem_of_getElem? hk, rfl⟩))
    simp only [ReplayClone.remaining, hwindow, Within, Bool.false_eq_true, if_false]
    omega
  · exact (h.shared_rows i hshared r hi).2.1

/-- Two clones have no row left in common. -/
lemma clones_apart {j : ℕ} {k' : ReplayClone} (hk : s.clones[i]? = some k)
    (hk' : s.clones[j]? = some k') (hne : i ≠ j) : Apart k.remaining k'.remaining := by
  have hclones := List.pairwise_map.mp (List.pairwise_append.mp h.apart).2.1
  obtain ⟨hi, rfl⟩ := List.getElem?_eq_some_iff.mp hk
  obtain ⟨hj, rfl⟩ := List.getElem?_eq_some_iff.mp hk'
  have hget := List.pairwise_iff_getElem.mp hclones
  rcases lt_or_gt_of_ne hne with hlt | hgt
  · exact hget i j hi hj hlt
  · exact (hget j i hj hi hgt).symm

end

end Invariant

/-! ## What a step does -/

/-- A reservation takes rows from the allocator's cursor on, or is refused. -/
lemma reserveRows_cases (s : ReplayRun Row) (i : ℕ) (k : ReplayClone) (rowCount : ℤ)
    (key : String) : s.reserveRows i k rowCount key = s ∨
    ∃ size, s.allocator.cursor + size ≤ s.allocator.rows.length ∧
      s.reserveRows i k rowCount key = { s with
        allocator := { s.allocator with cursor := s.allocator.cursor + size }
        clones := s.replaceClone i k (if k.coordinator.useAllocatorCursor then
          { k.coordinator with cursor := s.allocator.cursor + size } else k.coordinator)
        reserved := s.reserved ++
          [⟨key, s.allocator.cursor, (s.allocator.cursor + size : ℕ), s.allocator.cursor⟩] } := by
  by_cases hfull : s.allocator.rows.length < s.allocator.cursor + (max 0 rowCount).toNat
  · left
    simp only [reserveRows, ReplayCoordinator.reserveWindow, hfull, if_true]
  · right
    refine ⟨(max 0 rowCount).toNat, by omega, ?_⟩
    simp only [reserveRows, ReplayCoordinator.reserveWindow, hfull, if_false]

/-- A call returns the row at the shared cursor or the next one of the clone's window, or nothing. -/
lemma generate_cases (s : ReplayRun Row) (i : ℕ) (k : ReplayClone) :
    s.generate i k = s ∨
    (k.coordinator.useAllocatorCursor = true ∧
      s.allocator.cursor < s.allocator.rows.length ∧
      s.generate i k = { s with
        allocator := { s.allocator with cursor := s.allocator.cursor + 1 }
        clones := s.replaceClone i k { k.coordinator with cursor := s.allocator.cursor + 1 }
        returned := s.returned ++ [(i, s.allocator.cursor)] }) ∨
    (k.coordinator.useAllocatorCursor = false ∧
      k.coordinator.cursor < k.coordinator.cursorEnd ∧
      s.generate i k = { s with
        clones := s.replaceClone i k { k.coordinator with cursor := k.coordinator.cursor + 1 }
        returned := s.returned ++ [(i, k.coordinator.cursor)] }) := by
  cases hshared : k.coordinator.useAllocatorCursor with
  | true =>
    cases hrow : s.allocator.rows[s.allocator.cursor]? with
    | none => exact Or.inl (by simp only [generate, ReplayCoordinator.nextRow, hshared, hrow, if_true])
    | some row =>
      have hlt := (List.getElem?_eq_some_iff.mp hrow).1
      refine Or.inr (Or.inl ⟨rfl, hlt, ?_⟩)
      simp only [generate, ReplayCoordinator.nextRow, hshared, hrow, if_true]
  | false =>
    by_cases hend : k.coordinator.cursorEnd ≤ k.coordinator.cursor
    · exact Or.inl (by simp [generate, ReplayCoordinator.nextRow, hshared, hend])
    · cases hrow : s.allocator.rows[k.coordinator.cursor]? with
      | none => exact Or.inl (by simp [generate, ReplayCoordinator.nextRow, hshared, hend, hrow])
      | some row =>
        refine Or.inr (Or.inr ⟨rfl, by omega, ?_⟩)
        simp [generate, ReplayCoordinator.nextRow, hshared, hend, hrow]

variable {c : ReplayCoordinator}

/-- What a clone keeps when its cursor moves is the same in the list of clones. -/
lemma map_replaceClone {β : Type} {f : ReplayClone → β} (hk : s.clones[i]? = some k)
    (hf : f { k with coordinator := c } = f k) : (s.replaceClone i k c).map f = s.clones.map f := by
  rw [replaceClone, List.map_set, hf]
  apply List.ext_getElem?
  intro j
  rw [List.getElem?_set]
  by_cases hij : i = j
  · subst hij
    obtain ⟨hlt, hget⟩ := List.getElem?_eq_some_iff.mp hk
    simp [hlt, hget]
  · simp [hij]

lemma getElem?_replaceClone {j : ℕ} {k' : ReplayClone} (hk : s.clones[i]? = some k)
    (hk' : (s.replaceClone i k c)[j]? = some k') :
    (j = i ∧ k' = { k with coordinator := c }) ∨ (j ≠ i ∧ s.clones[j]? = some k') := by
  have hlt := (List.getElem?_eq_some_iff.mp hk).1
  rw [replaceClone, List.getElem?_set] at hk'
  by_cases hij : i = j
  · subst hij
    simp only [if_true, hlt, Option.some.injEq] at hk'
    exact Or.inl ⟨rfl, hk'.symm⟩
  · rw [if_neg hij] at hk'
    exact Or.inr ⟨fun h => hij h.symm, hk'⟩

lemma isShared_replaceClone {s' : ReplayRun Row} {j : ℕ} (hs' : s'.clones = s.replaceClone i k c)
    (hk : s.clones[i]? = some k) (hc : c.useAllocatorCursor = k.coordinator.useAllocatorCursor) :
    s'.IsShared j ↔ s.IsShared j := by
  have hmap := map_replaceClone (f := (·.coordinator.useAllocatorCursor)) hk hc
  rw [IsShared, IsShared, ← List.getElem?_map, ← List.getElem?_map, hs', hmap]

namespace Invariant

lemma mem_of_getElem? (hk : s.clones[i]? = some k) : k ∈ s.clones := List.mem_of_getElem? hk

section

variable (h : Invariant c₀ s)
include h

/-- A reserved window is above all others. -/
lemma reserveRows (hk : s.clones[i]? = some k) (rowCount : ℤ) (key : String) :
    Invariant c₀ (s.reserveRows i k rowCount key) := by
  rcases reserveRows_cases s i k rowCount key with heq | ⟨size, hfull, heq⟩
  · rw [heq]
    exact h
  rw [heq]
  set a : ReplayAllocation :=
    ⟨key, s.allocator.cursor, (s.allocator.cursor + size : ℕ), s.allocator.cursor⟩ with ha
  set c : ReplayCoordinator := if k.coordinator.useAllocatorCursor then
    { k.coordinator with cursor := s.allocator.cursor + size } else k.coordinator with hc
  set s' : ReplayRun Row := { s with
    allocator := { s.allocator with cursor := s.allocator.cursor + size }
    clones := s.replaceClone i k c
    reserved := s.reserved ++ [a] } with hs'
  have hwindow : a.window = (s.allocator.cursor, s.allocator.cursor + size) := by
    show ((s.allocator.cursor : ℤ).toNat, ((s.allocator.cursor + size : ℕ) : ℤ).toNat) = _
    rw [Int.toNat_natCast, Int.toNat_natCast]
  have huse : c.useAllocatorCursor = k.coordinator.useAllocatorCursor := by
    rw [hc]
    split <;> simp
  have hwindows : s'.windows.Perm (a.window :: s.windows) := by
    have hmap : (s.replaceClone i k c).map (·.window) = s.clones.map (·.window) :=
      map_replaceClone hk (by rw [hc]; unfold ReplayClone.window; split <;> simp_all)
    simp only [windows, hs', hmap, List.map_append, List.map_singleton, List.append_assoc,
      List.singleton_append]
    exact List.perm_middle
  have hremaining : s'.remaining.Perm (a.window :: s.remaining) := by
    have hmap : (s.replaceClone i k c).map (·.remaining) = s.clones.map (·.remaining) :=
      map_replaceClone hk (by rw [hc]; unfold ReplayClone.remaining; split <;> simp_all)
    simp only [remaining, hs', hmap, List.map_append, List.map_singleton, List.append_assoc,
      List.singleton_append]
    exact List.perm_middle
  -- the clone whose call it is keeps its window and what it returned
  have hclone : ∀ (j : ℕ) (k' : ReplayClone), s'.clones[j]? = some k' → k'.coordinator.useAllocatorCursor = false →
      s.clones[j]? = some k' := by
    intro j k' hk' hwindow'
    rcases getElem?_replaceClone hk hk' with ⟨rfl, rfl⟩ | ⟨-, hold⟩
    · have hfalse : k.coordinator.useAllocatorCursor = false := huse ▸ hwindow'
      have hsame : c = k.coordinator := by simp [hc, hfalse]
      rw [hsame]
      exact hk
    · exact hold
  constructor
  case start_le => exact le_trans h.start_le (Nat.le_add_right _ _)
  case cursor_le => exact hfull
  case reserved =>
    intro b hb
    rcases List.mem_append.mp hb with hb | hb
    · exact h.reserved b hb
    · rw [List.mem_singleton.mp hb]
      refine ⟨Int.natCast_nonneg _, ?_, rfl, ?_⟩
      · show (s.allocator.cursor : ℤ) ≤ (s.allocator.cursor + size : ℕ)
        omega
      · show ((s.allocator.cursor + size : ℕ) : ℤ) ≤ s.allocator.rows.length
        omega
  case below =>
    intro w hw r hr
    show r < s.allocator.cursor + size
    rcases List.mem_cons.mp (hwindows.mem_iff.mp hw) with rfl | hw
    · rw [hwindow] at hr
      exact hr.2
    · have hold := h.below w hw r hr
      omega
  case order =>
    intro k' hk' hwindow'
    obtain ⟨j, hj⟩ := List.mem_iff_getElem?.mp hk'
    exact h.order k' (mem_of_getElem? (hclone j k' hj hwindow')) hwindow'
  case apart =>
    rw [hremaining.pairwise_iff Apart.symm, List.pairwise_cons]
    refine ⟨?_, h.apart⟩
    intro w hw r hr hwr
    have hold := h.remaining_below hw hwr
    rw [hwindow] at hr
    have hnew : s.allocator.cursor ≤ r := hr.1
    omega
  case window_rows =>
    intro j k' hk' hwindow'
    exact h.window_rows j k' (hclone j k' hk' hwindow') hwindow'
  case shared_rows =>
    intro j hj r hr
    rw [isShared_replaceClone rfl hk huse] at hj
    have hold := h.shared_rows j hj r hr
    refine ⟨hold.1, by show r < s.allocator.cursor + size; omega, ?_⟩
    intro w hw
    rcases List.mem_cons.mp (hwindows.mem_iff.mp hw) with rfl | hw
    · rw [hwindow]
      intro hr
      have hnew : s.allocator.cursor ≤ r := hr.1
      omega
    · exact hold.2.2 w hw
  case accounted =>
    intro r hstart hcursor
    by_cases hold : r < s.allocator.cursor
    · rcases h.accounted r hstart hold with ⟨w, hw, hr⟩ | hr
      · exact Or.inl ⟨w, hremaining.mem_iff.mpr (List.mem_cons_of_mem _ hw), hr⟩
      · exact Or.inr hr
    · refine Or.inl ⟨a.window, hremaining.mem_iff.mpr List.mem_cons_self, ?_⟩
      rw [hwindow]
      exact ⟨by show s.allocator.cursor ≤ r; omega, hcursor⟩
  case once => exact h.once
  case returned_clone =>
    intro p hp
    simpa [hs', replaceClone] using h.returned_clone p hp

/-- A clone is made where its window and the rows left in it have room. -/
lemma addClone {s' : ReplayRun Row} {c : ReplayCoordinator}
    (hallocator : s'.allocator = s.allocator) (hreturned : s'.returned = s.returned)
    (hclones : s'.clones = s.clones ++ [.create c]) (hreserved : s'.reserved ⊆ s.reserved)
    (horder : c.useAllocatorCursor = false → c.cursorStart ≤ c.cursor ∧ c.cursor ≤ c.cursorEnd ∧
      c.cursorEnd ≤ s.allocator.rows.length)
    (hbelow : ∀ r, Within (ReplayClone.create c).window r → r < s.allocator.cursor ∧
      ∀ i, s.IsShared i → r ∉ s.rowsOf i)
    (hapart : s'.remaining.Pairwise Apart) (hremaining : s.remaining ⊆ s'.remaining) :
    Invariant c₀ s' := by
  have hrows : ∀ i, s'.rowsOf i = s.rowsOf i := by
    intro i
    rw [rowsOf, rowsOf, hreturned]
  have hnone : s.rowsOf s.clones.length = [] := by
    rw [List.eq_nil_iff_forall_not_mem]
    intro r hr
    exact absurd (h.returned_clone _ (mem_rowsOf.mp hr)) (lt_irrefl _)
  have hwindows : ∀ w ∈ s'.windows, w ∈ s.windows ∨ w = (ReplayClone.create c).window := by
    intro w hw
    rw [mem_windows] at hw ⊢
    rcases hw with ⟨a, ha, rfl⟩ | ⟨k, hk, rfl⟩
    · exact Or.inl (Or.inl ⟨a, hreserved ha, rfl⟩)
    · rw [hclones, List.mem_append, List.mem_singleton] at hk
      rcases hk with hk | rfl
      · exact Or.inl (Or.inr ⟨k, hk, rfl⟩)
      · exact Or.inr rfl
  -- a clone of the longer list is an earlier one, or the new one
  have hget : ∀ (i : ℕ) (k : ReplayClone), s'.clones[i]? = some k →
      s.clones[i]? = some k ∨ (i = s.clones.length ∧ k = .create c) := by
    intro i k hk
    rw [hclones, List.getElem?_append] at hk
    split at hk
    · exact Or.inl hk
    · rename_i hlen
      have hlast := List.getElem?_eq_some_iff.mp hk
      have hlt : i - s.clones.length < 1 := hlast.1
      have hi : i - s.clones.length = 0 := by omega
      simp only [hi, List.getElem?_cons_zero, Option.some.injEq] at hk
      exact Or.inr ⟨by omega, hk.symm⟩
  constructor
  case start_le => exact hallocator ▸ h.start_le
  case cursor_le => exact hallocator ▸ h.cursor_le
  case reserved =>
    intro a ha
    rw [Reserved, hallocator]
    exact h.reserved a (hreserved ha)
  case below =>
    intro w hw r hr
    rw [hallocator]
    rcases hwindows w hw with hold | rfl
    · exact h.below w hold r hr
    · exact (hbelow r hr).1
  case order =>
    intro k hk hwindow
    rw [hclones, List.mem_append, List.mem_singleton] at hk
    rw [hallocator]
    rcases hk with hk | rfl
    · exact h.order k hk hwindow
    · have hnew := horder hwindow
      exact ⟨hnew.1, le_refl _, hnew.2⟩
  case apart => exact hapart
  case window_rows =>
    intro i k hk hwindow
    rw [hrows]
    rcases hget i k hk with hold | ⟨rfl, rfl⟩
    · exact h.window_rows i k hold hwindow
    · rw [hnone]
      simp [ReplayClone.create]
  case shared_rows =>
    intro i hi r hr
    rw [hrows] at hr
    have hlt : i < s.clones.length := h.returned_clone _ (mem_rowsOf.mp hr)
    have hshared : s.IsShared i := by
      rw [IsShared, hclones, List.getElem?_append_left hlt] at hi
      exact hi
    have hold := h.shared_rows i hshared r hr
    rw [hallocator]
    refine ⟨hold.1, hold.2.1, ?_⟩
    intro w hw hwr
    rcases hwindows w hw with hw | rfl
    · exact hold.2.2 w hw hwr
    · exact (hbelow r hwr).2 i hshared hr
  case accounted =>
    intro r hstart hcursor
    rw [hallocator] at hcursor
    rcases h.accounted r hstart hcursor with ⟨w, hw, hr⟩ | hr
    · exact Or.inl ⟨w, hremaining hw, hr⟩
    · rw [rowsReturned, hreturned]
      exact Or.inr hr
  case once =>
    rw [rowsReturned, hreturned]
    exact h.once
  case returned_clone =>
    intro p hp
    rw [hreturned] at hp
    have hlt := h.returned_clone p hp
    rw [hclones, List.length_append]
    omega

lemma sharedClone : Invariant c₀ s.sharedClone := by
  have hremaining : s.sharedClone.remaining = s.remaining ++ [(0, 0)] := by
    simp [remaining, ReplayRun.sharedClone, ReplayClone.create, ReplayClone.remaining,
      ReplayCoordinator.cloneShared, ReplayCoordinator.create]
  refine h.addClone rfl rfl rfl (List.Subset.refl _) ?_ ?_ ?_ ?_
  · exact ReplayCoordinator.create_order _ _
  · intro r hr
    exact absurd hr (not_within_of_le (le_refl 0))
  · rw [hremaining, List.pairwise_append]
    refine ⟨h.apart, List.pairwise_singleton _ _, ?_⟩
    intro v _ w hw r _ hr
    rw [List.mem_singleton.mp hw] at hr
    exact not_within_of_le (le_refl 0) hr
  · rw [hremaining]
    exact List.subset_append_left _ _

/-- A reserved allocation takes its window with it. -/
lemma cloneReserved {a : ReplayAllocation} (ha : a ∈ s.reserved) :
    Invariant c₀ (s.cloneForAllocation a) := by
  have hfresh := h.reserved a ha
  obtain ⟨hnonneg, hle, hnext, hend⟩ := hfresh
  have hclone : ReplayCoordinator.cloneWindow s.allocator a =
      ⟨false, a.cursorStart.toNat, a.cursorEnd.toNat, a.cursorStart.toNat⟩ := by
    simp only [ReplayCoordinator.cloneWindow, ReplayCoordinator.create, Option.getD_some, hnext,
      Bool.false_eq_true, if_false, ReplayCoordinator.mk.injEq, true_and]
    omega
  have hperm : (s.cloneForAllocation a).remaining.Perm s.remaining := by
    have herase : (s.reserved.map (·.window)).Perm
        (a.window :: (s.reserved.erase a).map (·.window)) :=
      (List.perm_cons_erase ha).map _
    have hnew : (s.cloneForAllocation a).remaining =
        ((s.reserved.erase a).map (·.window) ++ s.clones.map (·.remaining)) ++ [a.window] := by
      simp [remaining, ReplayRun.cloneForAllocation, hclone, ReplayClone.create,
        ReplayClone.remaining, ReplayAllocation.window]
    rw [hnew]
    exact (List.perm_append_singleton _ _).trans (herase.symm.append_right _)
  have hwindow : (ReplayClone.create (.cloneWindow s.allocator a)).window = a.window := by
    simp [ReplayClone.create, ReplayClone.window, hclone, ReplayAllocation.window]
  have hmem : a.window ∈ s.windows := mem_windows.mpr (Or.inl ⟨a, ha, rfl⟩)
  refine h.addClone rfl rfl rfl List.erase_subset ?_ ?_ ?_ ?_
  · exact ReplayCoordinator.create_order _ _
  · intro r hr
    rw [hwindow] at hr
    refine ⟨h.below _ hmem r hr, ?_⟩
    intro i hi hrow
    exact (h.shared_rows i hi r hrow).2.2 _ hmem hr
  · exact (hperm.pairwise_iff Apart.symm).mpr h.apart
  · exact hperm.symm.subset

/-- A persisted allocation that fits takes a window of its own. -/
lemma clonePersisted {a : ReplayAllocation} (ha : a ∉ s.reserved)
    (hfits : s.Fits (.cloneWindow s.allocator a)) : Invariant c₀ (s.cloneForAllocation a) := by
  set c := ReplayCoordinator.cloneWindow s.allocator a with hc
  have huse : c.useAllocatorCursor = false := rfl
  have hremaining : (s.cloneForAllocation a).remaining =
      s.remaining ++ [(c.cursor, c.cursorEnd)] := by
    simp [remaining, ReplayRun.cloneForAllocation, List.erase_of_not_mem ha, ReplayClone.create,
      ReplayClone.remaining, ← hc, huse]
  refine h.addClone rfl rfl rfl List.erase_subset ?_ ?_ ?_ ?_
  · exact ReplayCoordinator.create_order _ _
  · intro r hr
    have hwithin : Within (c.cursorStart, c.cursorEnd) r := by
      simpa [ReplayClone.create, ReplayClone.window, ← hc, huse] using hr
    have hfit := hfits.1 r hwithin.2 hwithin.1
    refine ⟨hfit.1, ?_⟩
    intro i hi hrow
    exact hfit.2 (i, r) (mem_rowsOf.mp hrow) rfl hi
  · rw [hremaining, List.pairwise_append]
    refine ⟨h.apart, List.pairwise_singleton _ _, ?_⟩
    intro v hv w hw r hvr hr
    rw [List.mem_singleton.mp hw] at hr
    exact hfits.2 r hr.2 hr.1 v hv hvr
  · rw [hremaining]
    exact List.subset_append_left _ _

/-- A row is returned that was not before: the next one of a window, or one outside them all. -/
lemma returnRow {s' : ReplayRun Row} {c : ReplayCoordinator} {r : ℕ}
    (hk : s.clones[i]? = some k) (hrows : s'.allocator.rows = s.allocator.rows)
    (hcursor : s.allocator.cursor ≤ s'.allocator.cursor ∧
      s'.allocator.cursor ≤ s.allocator.rows.length)
    (hclones : s'.clones = s.replaceClone i k c) (hreserved : s'.reserved = s.reserved)
    (hreturned : s'.returned = s.returned ++ [(i, r)])
    (hc : c.useAllocatorCursor = k.coordinator.useAllocatorCursor ∧
      c.cursorStart = k.coordinator.cursorStart ∧ c.cursorEnd = k.coordinator.cursorEnd)
    (hwindow : k.coordinator.useAllocatorCursor = false → r = k.coordinator.cursor ∧
      c.cursor = k.coordinator.cursor + 1 ∧ c.cursor ≤ c.cursorEnd)
    (hshared : k.coordinator.useAllocatorCursor = true →
      c₀ ≤ r ∧ r < s'.allocator.cursor ∧ ∀ w ∈ s.windows, ¬Within w r)
    (hnew : r ∉ s.rowsReturned)
    (haccounted : ∀ q, s.allocator.cursor ≤ q → q < s'.allocator.cursor → q = r) :
    Invariant c₀ s' := by
  obtain ⟨huse, hstart, hend⟩ := hc
  have hwindows : s'.windows = s.windows := by
    have hmap : (s.replaceClone i k c).map (·.window) = s.clones.map (·.window) :=
      map_replaceClone hk (by simp only [ReplayClone.window, huse, hstart, hend])
    rw [windows, windows, hclones, hmap, hreserved]
  have hremaining : s'.remaining = s.remaining := by
    have hmap : (s.replaceClone i k c).map (·.remaining) = s.clones.map (·.remaining) :=
      map_replaceClone hk (by simp only [ReplayClone.remaining, huse, hend])
    rw [remaining, remaining, hclones, hmap, hreserved]
  have hsame : ∀ j, j ≠ i → s'.rowsOf j = s.rowsOf j := by
    intro j hj
    simp [rowsOf, hreturned, List.filter_append, hj.symm]
  have hrow : s'.rowsOf i = s.rowsOf i ++ [r] := by
    simp [rowsOf, hreturned, List.filter_append]
  have hget : ∀ (j : ℕ) (k' : ReplayClone), s'.clones[j]? = some k' →
      (j = i ∧ k' = { k with coordinator := c }) ∨ (j ≠ i ∧ s.clones[j]? = some k') := by
    intro j k' hk'
    rw [hclones] at hk'
    exact getElem?_replaceClone hk hk'
  constructor
  case start_le => exact h.start_le.trans hcursor.1
  case cursor_le => exact hrows ▸ hcursor.2
  case reserved =>
    intro a ha
    rw [Reserved, hrows]
    exact h.reserved a (hreserved ▸ ha)
  case below =>
    intro w hw q hq
    exact (h.below w (hwindows ▸ hw) q hq).trans_le hcursor.1
  case order =>
    intro k' hk' hwindow'
    obtain ⟨j, hj⟩ := List.mem_iff_getElem?.mp hk'
    rw [hrows]
    rcases hget j k' hj with ⟨-, rfl⟩ | ⟨-, hold⟩
    · have hfalse : k.coordinator.useAllocatorCursor = false := huse ▸ hwindow'
      have horder := h.order k (mem_of_getElem? hk) hfalse
      have hstep := hwindow hfalse
      show c.cursorStart ≤ k.first ∧ k.first ≤ c.cursor ∧ c.cursor ≤ c.cursorEnd ∧
        c.cursorEnd ≤ s.allocator.rows.length
      omega
    · exact h.order k' (mem_of_getElem? hold) hwindow'
  case apart => exact hremaining ▸ h.apart
  case window_rows =>
    intro j k' hk' hwindow'
    rcases hget j k' hk' with ⟨rfl, rfl⟩ | ⟨hj, hold⟩
    · have hfalse : k.coordinator.useAllocatorCursor = false := huse ▸ hwindow'
      have horder := h.order k (mem_of_getElem? hk) hfalse
      obtain ⟨hr, hnext, -⟩ := hwindow hfalse
      have hlen : c.cursor - k.first = (k.coordinator.cursor - k.first) + 1 := by omega
      have hlast : k.first + (k.coordinator.cursor - k.first) = r := by omega
      show s'.rowsOf j = List.range' k.first (c.cursor - k.first)
      rw [hrow, h.window_rows j k hk hfalse, hlen, List.range'_1_concat, hlast]
    · rw [hsame j hj]
      exact h.window_rows j k' hold hwindow'
  case shared_rows =>
    intro j hj q hq
    rw [isShared_replaceClone hclones hk huse] at hj
    rw [hwindows]
    have hold : q ∈ s.rowsOf j → c₀ ≤ q ∧ q < s'.allocator.cursor ∧ ∀ w ∈ s.windows, ¬Within w q := by
      intro hq
      have hbefore := h.shared_rows j hj q hq
      exact ⟨hbefore.1, hbefore.2.1.trans_le hcursor.1, hbefore.2.2⟩
    by_cases hji : j = i
    · subst hji
      rw [hrow, List.mem_append, List.mem_singleton] at hq
      rcases hq with hq | rfl
      · exact hold hq
      · exact hshared ((isShared_iff hk).mp hj)
    · rw [hsame j hji] at hq
      exact hold hq
  case accounted =>
    intro q hstart' hq
    rw [hremaining, rowsReturned, hreturned, List.map_append, List.mem_append]
    by_cases hold : q < s.allocator.cursor
    · rcases h.accounted q hstart' hold with hw | hret
      · exact Or.inl hw
      · exact Or.inr (Or.inl hret)
    · have hqr := haccounted q (by omega) hq
      exact Or.inr (Or.inr (by simp [hqr]))
  case once =>
    rw [rowsReturned, hreturned, List.map_append, List.map_singleton, ← List.concat_eq_append]
    exact List.Nodup.concat hnew h.once
  case returned_clone =>
    intro p hp
    have hlt := (List.getElem?_eq_some_iff.mp hk).1
    rw [hclones, replaceClone, List.length_set]
    rw [hreturned, List.mem_append, List.mem_singleton] at hp
    rcases hp with hp | rfl
    · exact h.returned_clone p hp
    · exact hlt

/-- The row at the cursor of a window was not returned: not by this clone, which is in order, and
not by another one, whose rows are outside the window. -/
lemma cursor_not_mem (hk : s.clones[i]? = some k)
    (hwindow : k.coordinator.useAllocatorCursor = false)
    (hleft : k.coordinator.cursor < k.coordinator.cursorEnd) :
    k.coordinator.cursor ∉ s.rowsReturned := by
  have horder := h.order k (mem_of_getElem? hk) hwindow
  have hwithin : Within k.remaining k.coordinator.cursor := by
    simp only [ReplayClone.remaining, hwindow, Within, Bool.false_eq_true, if_false]
    omega
  intro hr
  obtain ⟨j, hj⟩ := mem_rowsReturned.mp hr
  rcases h.returned_cases hj with ⟨k', hk', hwindow', hfirst, hcursor, hend⟩ | hshared
  · by_cases hij : i = j
    · subst hij
      rw [hk, Option.some.injEq] at hk'
      subst hk'
      omega
    · apply h.clones_apart hk hk' hij _ hwithin
      simp only [ReplayClone.remaining, hwindow', Within, Bool.false_eq_true, if_false]
      omega
  · have hk' : k.remaining ∈ s.remaining :=
      mem_remaining.mpr (Or.inr ⟨k, mem_of_getElem? hk, rfl⟩)
    obtain ⟨w, hw, hwr⟩ := h.within_window hk' hwithin
    exact (h.shared_rows j hshared _ hj).2.2 w hw hwr

lemma generate (hk : s.clones[i]? = some k) :
    Invariant c₀ (s.generate i k) := by
  rcases generate_cases s i k with heq | ⟨hshared, hfull, heq⟩ | ⟨hwindow, hleft, heq⟩
  · rw [heq]
    exact h
  · rw [heq]
    refine h.returnRow hk rfl ⟨Nat.le_succ _, hfull⟩ rfl rfl rfl ⟨rfl, rfl, rfl⟩ ?_ ?_ ?_ ?_
    · intro hwindow
      rw [hshared] at hwindow
      cases hwindow
    · intro _
      refine ⟨h.start_le, Nat.lt_succ_self _, ?_⟩
      intro w hw hr
      exact absurd (h.below w hw _ hr) (lt_irrefl _)
    · intro hr
      exact absurd (h.returned_below hr) (lt_irrefl _)
    · intro q hle hlt
      exact Nat.le_antisymm (Nat.lt_succ_iff.mp hlt) hle
  · rw [heq]
    refine h.returnRow hk rfl ⟨le_refl _, h.cursor_le⟩ rfl rfl rfl ⟨rfl, rfl, rfl⟩ ?_ ?_ ?_ ?_
    · intro _
      exact ⟨rfl, rfl, hleft⟩
    · intro hshared
      rw [hwindow] at hshared
      cases hshared
    · exact h.cursor_not_mem hk hwindow hleft
    · intro q hle hlt
      exact absurd hlt (not_lt.mpr hle)

end

/-! ## Runs -/

/-- Every call keeps the invariant, where it meets the condition. -/
lemma step (h : Invariant c₀ s) {e : ReplayEvent} (hmeets : s.MeetsAt e) :
    Invariant c₀ (s.step e) := by
  cases e with
  | reserveRows i rowCount key =>
    rw [ReplayRun.step]
    cases hk : s.clones[i]? with
    | none => exact h
    | some k => exact h.reserveRows hk rowCount key
  | cloneForAllocation i a =>
    rw [ReplayRun.step]
    cases hk : s.clones[i]? with
    | none => exact h
    | some k =>
      by_cases ha : a ∈ s.reserved
      · exact h.cloneReserved ha
      · exact h.clonePersisted ha (hmeets.resolve_left ha)
  | sharedClone i =>
    rw [ReplayRun.step]
    cases hk : s.clones[i]? with
    | none => exact h
    | some k => exact h.sharedClone
  | generate i =>
    rw [ReplayRun.step]
    cases hk : s.clones[i]? with
    | none => exact h
    | some k => exact h.generate hk

lemma run (h : Invariant c₀ s) {events : List ReplayEvent} (hmeets : Along MeetsAt s events) :
    Invariant c₀ (s.run events) := by
  induction events generalizing s with
  | nil => exact h
  | cons e events ih => exact ih (h.step hmeets.1) hmeets.2

lemma start (rows : List Row) (arguments : CursorArguments)
    (hfits : (start rows arguments).StartFits) :
    Invariant (ReplayRun.start rows arguments).allocator.cursor
      (ReplayRun.start rows arguments) := by
  have hcursor : (ReplayRun.start rows arguments).allocator.cursor ≤ rows.length := by
    simp only [ReplayRun.start, ReplayAllocator.create]
    omega
  constructor
  case start_le => exact le_refl _
  case cursor_le => exact hcursor
  case reserved => simp [ReplayRun.start]
  case below =>
    intro w hw r hr
    rcases mem_windows.mp hw with ⟨a, ha, -⟩ | ⟨k, hk, rfl⟩
    · simp [ReplayRun.start] at ha
    · exact hfits k hk r hr.2 hr.1
  case order =>
    intro k hk hwindow
    rw [ReplayRun.start, List.mem_singleton] at hk
    subst hk
    have horder := ReplayCoordinator.create_order _ _ hwindow
    exact ⟨horder.1, le_refl _, horder.2⟩
  case apart => exact List.pairwise_singleton _ _
  case window_rows =>
    intro i k hk _
    rw [ReplayRun.start] at hk
    have hkeep : k.coordinator.cursor - k.first = 0 := by
      have hmem := List.mem_singleton.mp (List.mem_of_getElem? hk)
      rw [hmem]
      exact Nat.sub_self _
    rw [hkeep]
    rfl
  case shared_rows => simp [rowsOf, ReplayRun.start]
  case accounted =>
    intro r hle hlt
    omega
  case once => exact List.nodup_nil
  case returned_clone => simp [ReplayRun.start]

/-- What the invariant says about the rows handed out. -/
lemma handedOutOnce (h : Invariant c₀ s) : s.HandedOutOnce c₀ := by
  constructor
  case once => exact h.once
  case window_rows =>
    intro i k hk hwindow
    exact ⟨h.window_rows i k hk hwindow, (h.order k (mem_of_getElem? hk) hwindow).2.2.1⟩
  case window_next =>
    intro k hk hwindow hleft
    have horder := h.order k hk hwindow
    have hlt : k.coordinator.cursor < s.allocator.rows.length := by omega
    refine ⟨_, List.getElem?_eq_getElem hlt, ?_⟩
    simp [ReplayCoordinator.nextRow, hwindow, not_le.mpr hleft, List.getElem?_eq_getElem hlt]
  case shared_outside =>
    intro i hi r hr
    exact (h.shared_rows i hi r hr).2.2
  case unreturned =>
    intro r hlt
    constructor
    · intro hr
      by_cases hleft : ∃ w ∈ s.remaining, Within w r
      · right
        obtain ⟨w, hw, hwr⟩ := hleft
        rcases mem_remaining.mp hw with ⟨a, ha, rfl⟩ | ⟨k, hk, rfl⟩
        · exact Or.inl ⟨a, ha, hwr⟩
        · refine Or.inr ⟨k, hk, ?_⟩
          obtain ⟨i, hi⟩ := List.mem_iff_getElem?.mp hk
          cases hshared : k.coordinator.useAllocatorCursor with
          | true => simpa [ReplayClone.remaining, ReplayClone.unread, hshared] using hwr
          | false =>
            have hnot : ¬(k.first ≤ r ∧ r < k.coordinator.cursor) := by
              intro hread
              exact hr (mem_rowsReturned.mpr ⟨i, (h.mem_rowsOf_window hi hshared).mpr hread⟩)
            simp only [ReplayClone.remaining, ReplayClone.unread, hshared, Within,
              Bool.false_eq_true, if_false] at hwr ⊢
            omega
      · left
        refine ⟨fun w hw hwr => hleft ⟨w, hw, hwr⟩, ?_⟩
        by_contra hno
        rw [not_or, not_lt, not_le] at hno
        exact (h.accounted r hno.1 hno.2).elim hleft hr
    · intro hcases hr
      obtain ⟨i, hi⟩ := mem_rowsReturned.mp hr
      have hbelow := h.returned_below hr
      rcases h.returned_cases hi with ⟨k, hk, hwindow, hfirst, hcursor, hend⟩ | hshared
      · have hmem : k.remaining ∈ s.remaining :=
          mem_remaining.mpr (Or.inr ⟨k, mem_of_getElem? hk, rfl⟩)
        have hwithin : Within k.remaining r := by
          simp only [ReplayClone.remaining, hwindow, Within, Bool.false_eq_true, if_false]
          omega
        rcases hcases with ⟨hout, -⟩ | ⟨a, ha, har⟩ | ⟨k', hk', hunread⟩
        · exact hout _ hmem hwithin
        · have hacross := (List.pairwise_append.mp h.apart).2.2 a.window
            (List.mem_map_of_mem ha) k.remaining
            (List.mem_map_of_mem (List.mem_of_getElem? hk))
          exact hacross r har hwithin
        · obtain ⟨j, hj⟩ := List.mem_iff_getElem?.mp hk'
          cases hshared' : k'.coordinator.useAllocatorCursor with
          | true =>
            rw [ReplayClone.unread, if_pos hshared'] at hunread
            exact not_within_of_le (le_refl 0) hunread
          | false =>
            have horder := h.order k' hk' hshared'
            simp only [ReplayClone.unread, hshared', Within, Bool.false_eq_true,
              if_false] at hunread
            by_cases hij : i = j
            · subst hij
              rw [hk, Option.some.injEq] at hj
              subst hj
              omega
            · apply h.clones_apart hk hj hij r hwithin
              simp only [ReplayClone.remaining, hshared', Within, Bool.false_eq_true, if_false]
              omega
      · have hout := h.shared_rows i hshared r hi
        rcases hcases with ⟨-, hlow⟩ | ⟨a, ha, har⟩ | ⟨k', hk', hunread⟩
        · omega
        · exact hout.2.2 _ (mem_windows.mpr (Or.inl ⟨a, ha, rfl⟩)) har
        · apply hout.2.2 _ (mem_windows.mpr (Or.inr ⟨k', hk', rfl⟩))
          cases hshared' : k'.coordinator.useAllocatorCursor with
          | true => simpa [ReplayClone.unread, ReplayClone.window, hshared'] using hunread
          | false =>
            have horder := h.order k' hk' hshared'
            simp only [ReplayClone.unread, ReplayClone.window, hshared', Within,
              Bool.false_eq_true, if_false] at hunread ⊢
            omega

end Invariant

/-- In every run that clones only persisted allocations that fit, the rows are handed out once. -/
theorem rows_handed_out_once (rows : List Row) (arguments : CursorArguments)
    (events : List ReplayEvent) (hfits : (start rows arguments).StartFits)
    (hmeets : Along MeetsAt (start rows arguments) events) :
    ((start rows arguments).run events).HandedOutOnce (start rows arguments).allocator.cursor :=
  ((Invariant.start rows arguments hfits).run hmeets).handedOutOnce

/-- An allocation of two rows, saved after the first, is applied to a provider rebuilt behind it. -/
theorem rows_handed_out_once_saved :
    ((start ["a", "b", "c"] { cursor := some 2 }).run
      [.cloneForAllocation 0 ⟨"branch", 0, 2, 1⟩, .generate 1, .generate 0]).HandedOutOnce
      (start ["a", "b", "c"] { cursor := some 2 }).allocator.cursor :=
  rows_handed_out_once _ _ _ (by decide) (by decide)

/-- A provider is rebuilt from its payload at the start of a run, and the allocation that the run
reserved is applied to it: the clone and the provider return the same row. -/
theorem row_returned_twice :
    (start ["a"] {}).clones.map (fun k => k.coordinator.snapshotPayload (start ["a"] {}).allocator) =
      [{}] ∧
    ((start ["a"] {}).run [.reserveRows 0 1 "branch"]).reserved = [⟨"branch", 0, 1, 0⟩] ∧
    Along Admits (start ["a"] {})
      [.cloneForAllocation 0 ⟨"branch", 0, 1, 0⟩, .generate 1, .generate 0] ∧
    ¬((start ["a"] {}).run
      [.cloneForAllocation 0 ⟨"branch", 0, 1, 0⟩, .generate 1, .generate 0]).HandedOutOnce
      (start ["a"] {}).allocator.cursor := by
  refine ⟨by decide, by decide, by decide, ?_⟩
  intro h
  exact absurd h.once (by decide)

end ReplayRun

end Agintor.Providers
