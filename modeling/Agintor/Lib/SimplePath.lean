import Mathlib.Data.List.Nodup
import Mathlib.Data.List.Perm.Basic

/-!
# Simple paths

A list of edges is a simple path when it is the hops of a list of vertices without repetition.
Whoever follows the first edge out of each vertex then meets the path and nothing else, and if
every vertex met has one edge out of it and the last one none, the edges are a simple path.
-/

namespace Lib

variable {α β : Type}

/-- From each vertex of a path to the next one. -/
def hops (path : List α) : List (α × α) := path.zip path.tail

@[simp] theorem hops_cons_cons (a b : α) (path : List α) :
    hops (a :: b :: path) = (a, b) :: hops (b :: path) := rfl

@[simp] theorem hops_singleton (a : α) : hops [a] = [] := rfl

theorem mem_hops_append (front : List α) (a b : α) (rest : List α) :
    (a, b) ∈ hops (front ++ a :: b :: rest) := by
  induction front with
  | nil => simp
  | cons first front ih =>
    cases front with
    | nil => simp
    | cons second front => exact List.mem_cons_of_mem _ ih

/-- The path gets a vertex at its end. -/
theorem hops_concat (front : List α) (a b : α) :
    hops (front ++ [a] ++ [b]) = hops (front ++ [a]) ++ [(a, b)] := by
  induction front with
  | nil => rfl
  | cons first front ih =>
    cases front with
    | nil => rfl
    | cons second front => simpa using ih

variable {path : List α}

/-- Every vertex but the last one is left. -/
theorem exists_hop {a last : α} (ha : a ∈ path) (hlast : path.getLast? = some last)
    (hne : a ≠ last) : ∃ b, (a, b) ∈ hops path := by
  obtain ⟨front, rest, rfl⟩ := List.append_of_mem ha
  cases rest with
  | nil =>
    rw [List.getLast?_concat] at hlast
    exact absurd (Option.some.inj hlast) hne
  | cons b rest => exact ⟨b, mem_hops_append front a b rest⟩

theorem map_fst_hops (path : List α) : (hops path).map Prod.fst = path.dropLast := by
  induction path with
  | nil => rfl
  | cons a path ih =>
    cases path with
    | nil => rfl
    | cons b path => rw [hops_cons_cons, List.map_cons, ih, List.dropLast_cons_cons]

/-- The last vertex is not left. -/
theorem fst_ne_last {last : α} (hnodup : path.Nodup) (hlast : path.getLast? = some last) :
    last ∉ (hops path).map Prod.fst := by
  obtain ⟨front, rfl⟩ := List.getLast?_eq_some_iff.mp hlast
  rw [map_fst_hops, List.dropLast_concat]
  intro hmem
  exact (List.nodup_append.mp hnodup).2.2 last hmem last (List.mem_singleton_self last) rfl

theorem nodup_map_fst_hops (h : path.Nodup) : ((hops path).map Prod.fst).Nodup := by
  rw [map_fst_hops]
  exact (List.dropLast_sublist path).nodup h

/-- An element is alone under its key. -/
theorem filter_key_eq [DecidableEq β] {f : α → β} {xs : List α} {x : α} (hnodup : (xs.map f).Nodup)
    (hx : x ∈ xs) : xs.filter (fun y => f y = f x) = [x] := by
  obtain ⟨front, rest, rfl⟩ := List.append_of_mem hx
  rw [List.map_append, List.map_cons, List.nodup_append] at hnodup
  obtain ⟨-, hrest, hfront⟩ := hnodup
  have hnone : ∀ y ∈ front, ¬f y = f x := fun y hy =>
    hfront (f y) (List.mem_map_of_mem hy) (f x) List.mem_cons_self
  have hnone' : ∀ y ∈ rest, ¬f y = f x := by
    intro y hy hxy
    exact (List.nodup_cons.mp hrest).1 (hxy ▸ List.mem_map_of_mem hy)
  rw [List.filter_append, List.filter_cons_of_pos (by simp),
    List.filter_eq_nil_iff.mpr (by simpa using hnone),
    List.filter_eq_nil_iff.mpr (by simpa using hnone')]
  rfl

/-- The edges are those of a path that meets no vertex twice. -/
structure IsSimplePath (edges : List (α × α)) (first last : α) (path : List α) : Prop where
  nodup : path.Nodup
  head : path.head? = some first
  last : path.getLast? = some last
  edges : edges.Perm (hops path)

namespace IsSimplePath

variable {edges : List (α × α)} {first last : α} {path : List α} [DecidableEq α]

/-- The next hop is the only edge out of a vertex. -/
theorem filter_eq (h : IsSimplePath edges first last path) {hop : α × α} (hhop : hop ∈ hops path) :
    edges.filter (fun edge => edge.1 = hop.1) = [hop] := by
  have hperm := h.edges.filter fun edge => edge.1 = hop.1
  rw [filter_key_eq (nodup_map_fst_hops h.nodup) hhop] at hperm
  exact List.perm_singleton.mp hperm

/-- No edge leaves the last vertex. -/
theorem filter_last (h : IsSimplePath edges first last path) :
    edges.filter (fun edge => edge.1 = last) = [] := by
  rw [List.filter_eq_nil_iff]
  intro edge hedge hlast
  rw [decide_eq_true_eq] at hlast
  exact fst_ne_last h.nodup h.last
    (hlast ▸ List.mem_map_of_mem (h.edges.mem_iff.mp hedge))

/-- A vertex in the middle is followed by the next one. -/
theorem filter_append {front : List α} {a b : α} {rest : List α}
    (h : IsSimplePath edges first last (front ++ a :: b :: rest)) :
    edges.filter (fun edge => edge.1 = a) = [(a, b)] :=
  h.filter_eq (mem_hops_append front a b rest)

/-- A path whose vertices have no other edges is all there is. -/
theorem of_filter (hnodup : path.Nodup) (hhead : path.head? = some first)
    (hlast : path.getLast? = some last)
    (hhops : ∀ hop ∈ hops path, edges.filter (fun edge => edge.1 = hop.1) = [hop])
    (hend : edges.filter (fun edge => edge.1 = last) = [])
    (hcover : ∀ edge ∈ edges, edge.1 ∈ path) : IsSimplePath edges first last path := by
  have hedge : ∀ edge ∈ edges, edge ∈ hops path := by
    intro edge hmem
    have hself : edge ∈ edges.filter (fun other => other.1 = edge.1) := by
      simpa using hmem
    by_cases heq : edge.1 = last
    · rw [heq, hend] at hself
      exact absurd hself List.not_mem_nil
    · obtain ⟨b, hb⟩ := exists_hop (hcover edge hmem) hlast heq
      rw [hhops _ hb, List.mem_singleton] at hself
      rwa [hself]
  have hmem : ∀ hop ∈ hops path, hop ∈ edges := by
    intro hop hhop
    have hself : hop ∈ edges.filter (fun edge => edge.1 = hop.1) := by
      rw [hhops hop hhop]
      exact List.mem_singleton_self hop
    exact List.mem_of_mem_filter hself
  have hnodupEdges : edges.Nodup := by
    rw [List.nodup_iff_count_le_one]
    intro edge
    by_cases hin : edge ∈ edges
    · have hcount : edges.count edge = (edges.filter (fun other => other.1 = edge.1)).count edge :=
        (List.count_filter (by simp)).symm
      have hone : edges.count edge = 1 := by
        rw [hcount, hhops edge (hedge edge hin), List.count_singleton_self]
      omega
    · rw [List.count_eq_zero_of_not_mem hin]
      omega
  refine ⟨hnodup, hhead, hlast, ?_⟩
  rw [List.perm_ext_iff_of_nodup hnodupEdges
    (List.Nodup.of_map _ (nodup_map_fst_hops hnodup))]
  exact fun edge => ⟨hedge edge, hmem edge⟩

end IsSimplePath

end Lib
