import Mathlib.Data.List.Basic
import Mathlib.Data.Nat.Basic

/-!
# Trees with any number of children

The walk through a tree in breadth-first order, by a queue, and the edit of the children of the
topmost nodes of a kind. Recursion over a tree goes together with one over its children.
-/

namespace Lib

inductive RoseTree (α : Type) where
  | node (label : α) (children : List (RoseTree α))

namespace RoseTree

variable {α : Type}

def label : RoseTree α → α
  | node a _ => a

def children : RoseTree α → List (RoseTree α)
  | node _ ts => ts

mutual

def size : RoseTree α → ℕ
  | node _ ts => sizes ts + 1

def sizes : List (RoseTree α) → ℕ
  | [] => 0
  | t :: ts => size t + sizes ts

end

/-! ## Breadth first -/

/-- A queue is served from the front, and the children of what is served join it at the end. -/
def serve : ℕ → List (RoseTree α) → List (RoseTree α)
  | 0, _ => []
  | _, [] => []
  | fuel + 1, t :: todo => t :: serve fuel (todo ++ t.children)

/-- All nodes of some trees, breadth first. -/
def walk (ts : List (RoseTree α)) : List (RoseTree α) := serve (sizes ts) ts

/-! ## The topmost nodes of a kind -/

mutual

/-- Change the children of the topmost nodes of a kind, and go no deeper there. -/
def editTop (kind : α → Bool) (edit : List (RoseTree α) → List (RoseTree α)) :
    RoseTree α → RoseTree α
  | node a ts => if kind a then node a (edit ts) else node a (editTops kind edit ts)

def editTops (kind : α → Bool) (edit : List (RoseTree α) → List (RoseTree α)) :
    List (RoseTree α) → List (RoseTree α)
  | [] => []
  | t :: ts => editTop kind edit t :: editTops kind edit ts

end

mutual

/-- The children of each of the topmost nodes of a kind. -/
def top (kind : α → Bool) : RoseTree α → List (List (RoseTree α))
  | node a ts => if kind a then [ts] else tops kind ts

def tops (kind : α → Bool) : List (RoseTree α) → List (List (RoseTree α))
  | [] => []
  | t :: ts => top kind t ++ tops kind ts

end

variable {kind : α → Bool} {edit edit' : List (RoseTree α) → List (RoseTree α)}

lemma editTops_append (ts us : List (RoseTree α)) :
    editTops kind edit (ts ++ us) = editTops kind edit ts ++ editTops kind edit us := by
  induction ts with
  | nil => rfl
  | cons t ts ih => rw [List.cons_append, editTops, ih, editTops, List.cons_append]

lemma length_editTops (ts : List (RoseTree α)) : (editTops kind edit ts).length = ts.length := by
  induction ts with
  | nil => rfl
  | cons t ts ih => rw [editTops, List.length_cons, List.length_cons, ih]

mutual

/-- Two edits make the same of a tree if and only if they do of each of its topmost nodes. -/
theorem editTop_eq_iff (t : RoseTree α) :
    editTop kind edit t = editTop kind edit' t ↔ ∀ ts ∈ top kind t, edit ts = edit' ts := by
  match t with
  | node a ts =>
    unfold editTop top
    by_cases h : kind a = true
    · rw [if_pos h, if_pos h, if_pos h, node.injEq, List.forall_mem_singleton]
      exact and_iff_right rfl
    · rw [if_neg h, if_neg h, if_neg h, node.injEq, editTops_eq_iff ts]
      exact and_iff_right rfl

theorem editTops_eq_iff (ts : List (RoseTree α)) :
    editTops kind edit ts = editTops kind edit' ts ↔ ∀ us ∈ tops kind ts, edit us = edit' us := by
  match ts with
  | [] =>
    unfold editTops tops
    exact iff_of_true rfl (List.forall_mem_nil _)
  | t :: ts =>
    unfold editTops tops
    rw [List.cons.injEq, editTop_eq_iff t, editTops_eq_iff ts, List.forall_mem_append]

end

mutual

lemma editTop_id (t : RoseTree α) : editTop kind id t = t := by
  match t with
  | node a ts =>
    unfold editTop
    rw [editTops_id ts, id, ite_self]

lemma editTops_id (ts : List (RoseTree α)) : editTops kind id ts = ts := by
  match ts with
  | [] => rfl
  | t :: ts => rw [editTops, editTop_id t, editTops_id ts]

end

/-- An edit leaves trees as they are if and only if it does their topmost nodes. -/
lemma editTops_eq_self_iff (ts : List (RoseTree α)) :
    editTops kind edit ts = ts ↔ ∀ us ∈ tops kind ts, edit us = us := by
  have h : editTops kind edit ts = editTops kind id ts ↔ ∀ us ∈ tops kind ts, edit us = id us :=
    editTops_eq_iff ts
  rw [editTops_id] at h
  exact h

end RoseTree

end Lib
