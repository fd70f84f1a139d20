import Agintor.Lib.Isotonic
import Mathlib.Data.List.Sort

/-!
# Calibration

`monotonic_isotonic_fit` and `isotonic_predict` of `utils.py`, over any ordered field.
-/

namespace Agintor.Learning

variable {K : Type} [Field K] [LinearOrder K]

/-- A block of the fit: its first and last score, its value and its weight. -/
structure Block (K : Type) where
  first : K
  last : K
  value : K
  weight : ℕ

/-- `merged` -/
def mergeBlocks (a b : Block K) : Block K where
  first := a.first
  last := b.last
  value := (a.value * a.weight + b.value * b.weight) / (a.weight + b.weight : ℕ)
  weight := a.weight + b.weight

/-- The `while` loop. The blocks before the index are listed in reverse, then the rest. -/
def poolBlocks : List (Block K) → List (Block K) → List (Block K)
  | [], a :: b :: rest =>
    if b.value < a.value then poolBlocks [] (mergeBlocks a b :: rest)
    else poolBlocks [a] (b :: rest)
  | c :: before, a :: b :: rest =>
    if b.value < a.value then poolBlocks before (c :: mergeBlocks a b :: rest)
    else poolBlocks (a :: c :: before) (b :: rest)
  | before, rest => before.reverse ++ rest
termination_by before rest => before.length + 2 * rest.length

/-- `pairs` -/
def sortedPairs (scores labels : List K) : List (K × K) :=
  (scores.zip labels).insertionSort fun p q => p.1 ≤ q.1

/-- `blocks`, when the loop ends. -/
def fittedBlocks (scores labels : List K) : List (Block K) :=
  poolBlocks [] ((sortedPairs scores labels).map fun p => ⟨p.1, p.1, p.2, 1⟩)

/-- `monotonic_isotonic_fit` -/
def monotonicIsotonicFit (scores labels : List K) : List K × List K :=
  ((fittedBlocks scores labels).map (·.last), (fittedBlocks scores labels).map (·.value))

def clip (x lo hi : K) : K := max lo (min hi x)

/-- `isotonic_predict` -/
def isotonicPredict (xPoints yPoints : List K) (score : K) : K :=
  if xPoints = [] then clip score 0 1
  else
    match (xPoints.zip yPoints).find? fun point => score ≤ point.1 with
    | some point => point.2
    | none => yPoints.getLastD 0

end Agintor.Learning
