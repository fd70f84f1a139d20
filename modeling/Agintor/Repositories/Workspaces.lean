import Agintor.Core.Text
import Agintor.Lib.Dict
import Agintor.Lib.Framing
import Agintor.Lib.Raise
import Agintor.Lib.UnifiedDiff

/-!
# The final patch of a workspace

`unified_diff_between` of `repositories/workspaces.py`. A root is given by the regular files
below it, under their posix paths. A `RepositorySnapshotError` is its message.
-/

namespace Agintor.Repositories

open Agintor.Core Lib

/-- `RepositorySnapshotError` -/
abbrev SnapshotError := String

/-- The regular files below a directory. -/
abbrev Root := Dict String Bytes

/-- `_IGNORED_PARTS` -/
def ignoredParts : List String := [".git", ".pytest_cache", "__pycache__", ".agintor"]

/-- `relative.parts` -/
def parts (relative : String) : List String := (relative.toList.splitOn '/').map String.ofList

/-- `_file_bytes_map` -/
def fileBytesMap (root : Root) : Dict String Bytes :=
  ⟨root.entries.filter fun e => ¬∃ part ∈ parts e.1, part ∈ ignoredParts,
    root.nodup.sublist (List.filter_sublist.map _)⟩

def decodeChangedText (raw : Bytes) (relative : String) : Except SnapshotError (List Char) := do
  raiseIf (0 ∈ raw) ("binary file changes are not supported in MVP patches: " ++ relative)
  match String.fromUTF8? ⟨raw.toArray⟩ with
  | some text => return text.toList
  | none => .error ("non-UTF-8 file changes are not supported: " ++ relative)

/-- `files.get(relative, b"")` -/
def contentOf (files : Dict String Bytes) (relative : String) : Bytes :=
  (files.get? relative).getD []

/-- The loop over the paths. -/
def diffFiles (M : SequenceMatcher Line) (baseFiles workingFiles : Dict String Bytes)
    (maxPatchBytes encodedSize : ℕ) (chunks : List (List Char)) :
    List String → Except SnapshotError (List (List Char))
  | [] => .ok chunks
  | relative :: paths => do
    let beforeRaw := contentOf baseFiles relative
    let afterRaw := contentOf workingFiles relative
    if beforeRaw = afterRaw then
      diffFiles M baseFiles workingFiles maxPatchBytes encodedSize chunks paths
    else do
      let before := splitlines (← decodeChangedText beforeRaw relative)
      let after := splitlines (← decodeChangedText afterRaw relative)
      let diff := (unifiedDiff M before after ('a' :: '/' :: relative.toList)
        ('b' :: '/' :: relative.toList)).flatten
      let encodedSize := encodedSize + (utf8 (String.ofList diff)).length
      raiseIf (maxPatchBytes < encodedSize) "generated patch exceeds max_patch_bytes"
      diffFiles M baseFiles workingFiles maxPatchBytes encodedSize (chunks ++ [diff]) paths

/-- `unified_diff_between(base_root, working_root, max_patch_bytes=…)` -/
def unifiedDiffBetween (M : SequenceMatcher Line) (base working : Root) (maxPatchBytes : ℕ) :
    Except SnapshotError String := do
  let baseFiles := fileBytesMap base
  let workingFiles := fileBytesMap working
  let chunks ← diffFiles M baseFiles workingFiles maxPatchBytes 0 []
    (sortedUnique (baseFiles.keys ++ workingFiles.keys))
  return String.ofList chunks.flatten

end Agintor.Repositories
