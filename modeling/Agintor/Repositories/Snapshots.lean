import Agintor.Core.Json
import Agintor.Lib.FileTree
import Agintor.Repositories.Workspaces

/-!
# Snapshots of a directory

`repository_snapshot_digest` of `repositories/workspaces.py`: the digest of the regular files below
a root, which may have no links outside the ignored directories.
-/

namespace Agintor.Repositories

open Agintor.Core Lib

/-- `RepositoryMaterializationPolicy` -/
structure RepositoryMaterializationPolicy where
  maxFiles : ℕ := 20000
  maxTotalBytes : ℕ := 512 * 1024 * 1024
  maxSingleFileBytes : ℕ := 16 * 1024 * 1024

/-- The digest functions of a snapshot: SHA-256 of bytes, and identities. -/
structure SnapshotDigests extends Identities where
  sha256 : Bytes → String

/-- `path.as_posix()` of a relative path. -/
def posix (p : TreePath) : String := if p = [] then "." else "/".intercalate p

/-- `path.as_posix()` of an absolute path. -/
def absolutePosix (p : TreePath) : String := "/" ++ "/".intercalate p

/-- What lies below a directory, under relative paths, in the order of the walk. -/
def entriesBelow (T : FileTree) (root : TreePath) : List (TreePath × Node) :=
  ((T.entries.filter fun e => root <+: e.1 ∧ e.1 ≠ root).map fun e =>
    (e.1.drop root.length, e.2)).insertionSort fun a b => a.1 ≤ b.1

/-- `_iter_snapshot_entries`, as far as the ignored directories go. -/
def snapshotEntries (T : FileTree) (root : TreePath) : List (TreePath × Node) :=
  (entriesBelow T root).filter fun e => ¬∃ part ∈ e.1, part ∈ ignoredParts

/-- `_reject_unsafe_path_components` and `_reject_unsafe_link` on the root. -/
def checkRoot (T : FileTree) (root : TreePath) : Except SnapshotError Unit := do
  match T.crossesLink root with
  | some component => .error ("repository snapshot path may not cross symlinks or junctions: "
      ++ absolutePosix component)
  | none => .ok ()
  raiseIf (T.isDirectory root = false)
    ("repository snapshot is not a directory: " ++ absolutePosix root)

/-- The loop of `_snapshot_manifest`, from the total and the rows so far. -/
def manifestRows (D : SnapshotDigests) (policy : RepositoryMaterializationPolicy) (total : ℕ)
    (manifest : List Json) : List (TreePath × Node) → Except SnapshotError (List Json)
  | [] => .ok manifest
  | (_, .directory) :: entries => manifestRows D policy total manifest entries
  | (relative, .link _) :: _ => .error
      ("repository snapshots may not contain symlinks or junctions: " ++ posix relative)
  | (relative, .file content) :: entries => do
    let size := content.length
    raiseIf (policy.maxSingleFileBytes < size)
      ("repository file exceeds max_single_file_bytes: " ++ posix relative)
    raiseIf (policy.maxTotalBytes < total + size) "repository snapshot exceeds max_total_bytes"
    let manifest := manifest ++ [.object [("path", .str (posix relative)), ("size", .int size),
      ("sha256", .str (D.sha256 content))]]
    raiseIf (policy.maxFiles < manifest.length) "repository snapshot exceeds max_files"
    manifestRows D policy (total + size) manifest entries

/-- `repository_snapshot_digest(root)` -/
def repositorySnapshotDigest (D : SnapshotDigests) (T : FileTree) (root : TreePath) :
    Except SnapshotError String := do
  checkRoot T root
  let files ← manifestRows D {} 0 [] (snapshotEntries T root)
  return D.canonicalIdentityDigest "repository-snapshot"
    (.object [("format", .str "agintor-directory-snapshot-v1"), ("files", .array files)])

end Agintor.Repositories
