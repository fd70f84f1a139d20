import Agintor.Lib.Raise

/-!
# Depth-first search

The recursive searches of a graph given by the list of the nodes next to each: one that raises on a
cycle, one that lists every node behind the nodes it leads to, and one that collects what can be
reached. The recursion is bounded by a number that the nodes of a path cannot exceed.
-/

namespace Lib

variable {α ε : Type} [DecidableEq α] (next : α → List α)

/-- The nodes that have been left, in this order. `path` are the nodes entered and not yet left;
to come back to one of them raises. -/
def visit (cyclic : ε) : ℕ → List α → List α → α → Except ε (List α)
  | 0, _, _, _ => .error cyclic
  | fuel + 1, path, visited, a =>
    if a ∈ visited then .ok visited
    else if a ∈ path then .error cyclic
    else do
      let visited ← (next a).foldlM (visit cyclic fuel (a :: path)) visited
      return visited ++ [a]

/-- Every known node after the nodes it leads to. -/
def postorder (nodes : List α) : ℕ → List α → α → List α
  | 0, visited, _ => visited
  | fuel + 1, visited, a =>
    if a ∈ visited ∨ a ∉ nodes then visited
    else (next a).foldl (postorder nodes fuel) visited ++ [a]

/-- What can be reached. -/
def mark : ℕ → List α → α → List α
  | 0, reachable, _ => reachable
  | fuel + 1, reachable, a =>
    if a ∈ reachable then reachable else (next a).foldl (mark fuel) (a :: reachable)

end Lib
