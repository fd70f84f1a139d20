import Agintor.Lib.LazyMatch

/-!
# Patches

SEARCH/REPLACE patches of `patches.py`. A text is a list of characters.
-/

namespace Agintor.Core

open Lib

structure SearchReplaceBlock where
  search : List Char
  replace : List Char
deriving DecidableEq, Repr

def header : List Char := "<<<<<<< SEARCH\n".toList

def divider : List Char := "\n=======\n".toList

def footer : List Char := "\n>>>>>>> REPLACE".toList

/-- The part of `PATCH_RE` from the divider on. -/
def matchReplace (text : List Char) : Option (List Char × List Char) :=
  (literal divider text).bind (lazily (literal footer))

/-- `PATCH_RE` -/
def matchBlock (text : List Char) : Option (SearchReplaceBlock × List Char) :=
  ((literal header text).bind (lazily matchReplace)).map fun found =>
    (⟨found.1, found.2.1⟩, found.2.2)

/-- `parse_patch` -/
def parsePatch (text : List Char) : Except String (List SearchReplaceBlock) :=
  let blocks := findIter matchBlock text
  if blocks = [] then .error "patch contained no SEARCH/REPLACE blocks" else .ok blocks

/-- `unique_search_match` -/
def uniqueSearchMatch (source needle : List Char) : ℤ :=
  match findFrom needle source 0 with
  | none => -1
  | some first =>
    match findFrom needle source (first + 1) with
    | some _ => -2
    | none => first

/-- `source.replace(search, replace, 1)` -/
def replaceFirst (source search replace : List Char) : List Char :=
  match findFrom search source 0 with
  | none => source
  | some first => source.take first ++ replace ++ source.drop (first + search.length)

/-- The body of the loop of `apply_patch_to_text`. -/
def applyBlock (result : List Char) (block : SearchReplaceBlock) : Except String (List Char) :=
  if uniqueSearchMatch result block.search = -1 then .error "SEARCH block not found"
  else if uniqueSearchMatch result block.search = -2 then
    .error "SEARCH block matched multiple locations"
  else .ok (replaceFirst result block.search block.replace)

/-- `apply_patch_to_text` -/
def applyPatchToText (source patchText : List Char) : Except String (List Char) := do
  let blocks ← parsePatch patchText
  blocks.foldlM applyBlock source

/-- `build_patch` -/
def buildPatch (block : SearchReplaceBlock) : List Char :=
  header ++ (block.search ++ divider ++ (block.replace ++ footer))

end Agintor.Core
