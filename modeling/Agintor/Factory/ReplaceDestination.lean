import Agintor.Lib.Calls
import Agintor.Lib.Dict

/-!
# The replacement of a runtime destination

`_replace_runtime_destination` and `_reject_nested_runtime_replacement` of `factory/export.py`. The
calls to the file system are named by steps. An environment says which of them raise and what a call
that raises leaves behind. The source is not changed.
-/

namespace Agintor.Factory.Destination

open Lib

inductive Tree
  | file (content : String)
  | directory (entries : List (String × Tree))

/-- `shutil.ignore_patterns("__pycache__", "*.pyc", "*.pyo")` -/
def isIgnored (name : String) : Bool :=
  name = "__pycache__" || ".pyc".toList.isSuffixOf name.toList ||
    ".pyo".toList.isSuffixOf name.toList

mutual

/-- What `copytree` makes of a tree. -/
def copyOf : Tree → Tree
  | .file content => .file content
  | .directory entries => .directory (copyOfEntries entries)

def copyOfEntries : List (String × Tree) → List (String × Tree)
  | [] => []
  | (name, tree) :: entries =>
    if isIgnored name then copyOfEntries entries
    else (name, copyOf tree) :: copyOfEntries entries

end

lemma keys_copyOfEntries_sublist (entries : List (String × Tree)) :
    ((copyOfEntries entries).map Prod.fst).Sublist (entries.map Prod.fst) := by
  induction entries with
  | nil => exact List.Sublist.refl []
  | cons entry entries ih =>
    rw [copyOfEntries]
    split
    · exact ih.cons entry.1
    · exact ih.cons_cons entry.1

/-- What `copytree` makes of the source directory. -/
def copytree (source : Dict String Tree) : Dict String Tree :=
  ⟨copyOfEntries source.entries, source.nodup.sublist (keys_copyOfEntries_sublist source.entries)⟩

/-- What stands at a path. -/
inductive Place
  | absent
  | file (content : String)
  | directory (entries : Dict String Tree)

namespace Place

def get? : Place → String → Option Tree
  | .directory entries, name => entries.get? name
  | _, _ => none

/-- The place with a new entry, or without one. -/
def put : Place → String → Option Tree → Place
  | .directory entries, name, some tree => .directory (entries.set name tree)
  | .directory entries, name, none => .directory (entries.erase name)
  | place, _, _ => place

/-- `ensure_directory(path)` -/
def ensured : Place → Place
  | .absent => .directory .empty
  | place => place

end Place

/-- The destination, and the side directory next to it. -/
structure World where
  destination : Place
  preserveRoot : Place

/-- The calls of a replacement that may raise. -/
inductive Step
  /-- `exists`, `is_dir` and `iterdir` of the destination -/
  | inspect
  | unlinkDestination
  | makePreserveRoot
  | clearAside (name : String)
  | moveAside (name : String)
  | removeDestination
  | copy
  | clear (name : String)
  | restore (name : String)
deriving DecidableEq

structure Environment where
  fails : Step → Option String
  /-- What a call that raises leaves of the entry it was to remove or to move away. -/
  left : Step → Option Tree
  /-- What a move that raises leaves where it was to put the entry. -/
  made : Step → Option Tree
  /-- What `copytree` leaves at the destination when it raises. -/
  halfCopied : Place
  /-- What `rmtree(preserve_root, ignore_errors=True)` leaves. -/
  remains : Place → Place

/-- The arguments, with the source directory that is read. -/
structure Replacement where
  /-- The resolved paths, by the names from the root down. -/
  sourceRuntimeDir : List String
  destinationPath : List String
  source : Dict String Tree
  force : Bool
  preserveNames : List String

namespace Replacement

variable (r : Replacement)

def nested : Bool :=
  r.destinationPath.isPrefixOf r.sourceRuntimeDir || r.sourceRuntimeDir.isPrefixOf r.destinationPath

def copied : Dict String Tree := copytree r.source

end Replacement

def pathText (path : List String) : String := "/" ++ "/".intercalate path

/-! ## The calls -/

section Calls

variable (env : Environment)

def inspect : Call Step World := ⟨.inspect, id, id⟩

def unlinkDestination : Call Step World :=
  ⟨.unlinkDestination, fun w => { w with destination := .absent }, id⟩

def makePreserveRoot : Call Step World :=
  ⟨.makePreserveRoot, fun w => { w with preserveRoot := w.preserveRoot.ensured }, id⟩

def clearAside (name : String) : Call Step World :=
  ⟨.clearAside name, fun w => { w with preserveRoot := w.preserveRoot.put name none },
    fun w => { w with preserveRoot := w.preserveRoot.put name (env.left (.clearAside name)) }⟩

/-- `shutil.move` of an entry of the destination -/
def moveAside (name : String) : Call Step World :=
  ⟨.moveAside name,
    fun w => ⟨w.destination.put name none, w.preserveRoot.put name (w.destination.get? name)⟩,
    fun w => ⟨w.destination.put name (env.left (.moveAside name)),
      w.preserveRoot.put name (env.made (.moveAside name))⟩⟩

/-- `rmdir` or `rmtree` of the destination, which is empty by then. -/
def removeDestination : Call Step World :=
  ⟨.removeDestination, fun w => { w with destination := .absent }, id⟩

def copy (r : Replacement) : Call Step World :=
  ⟨.copy, fun w => { w with destination := .directory r.copied },
    fun w => { w with destination := env.halfCopied }⟩

/-- `rmtree` or `unlink` of an entry that an old one replaces -/
def clear (name : String) : Call Step World :=
  ⟨.clear name, fun w => { w with destination := w.destination.put name none },
    fun w => { w with destination := w.destination.put name (env.left (.clear name)) }⟩

/-- `shutil.move` of an entry of the side directory -/
def restore (name : String) : Call Step World :=
  ⟨.restore name,
    fun w => ⟨w.destination.put name (w.preserveRoot.get? name), w.preserveRoot.put name none⟩,
    fun w => ⟨w.destination.put name (env.made (.restore name)),
      w.preserveRoot.put name (env.left (.restore name))⟩⟩

end Calls

/-! ## The replacement -/

section Replace

variable (env : Environment) (r : Replacement)

def rejectNestedRuntimeReplacement : Except String Unit :=
  let destination := pathText r.destinationPath
  let source := pathText r.sourceRuntimeDir
  if r.nested then
    .error s!"refusing to replace runtime destination {destination} from nested source {source}"
  else .ok ()

/-- The loop that moves the old entries to the side directory. -/
def moveEntriesAside : List String → Stateful World String Unit
  | [] => pure ()
  | name :: names => do
    let w ← Stateful.get
    if (w.preserveRoot.get? name).isSome then (clearAside env name).run env.fails
    (moveAside env name).run env.fails
    moveEntriesAside names

/-- The loop over `preserved`. -/
def restoreEntries : List String → Stateful World String Unit
  | [] => pure ()
  | name :: names => do
    let w ← Stateful.get
    if (w.destination.get? name).isSome && !r.preserveNames.contains name then
      restoreEntries names
    else
      if (w.destination.get? name).isSome then (clear env name).run env.fails
      (restore env name).run env.fails
      restoreEntries names

def alreadyExists : String :=
  let destination := pathText r.destinationPath
  s!"destination {destination} already exists"

/-- What comes before the copy. The names in `preserved` are returned. -/
def clearDestination : Stateful World String (List String) := do
  inspect.run env.fails
  let w ← Stateful.get
  match w.destination with
  | .absent => return []
  | .file _ =>
    if !r.force then Stateful.raise (alreadyExists r)
    unlinkDestination.run env.fails
    return []
  | .directory entries =>
    if !entries.entries.isEmpty && !r.force then Stateful.raise (alreadyExists r)
    if r.force then
      makePreserveRoot.run env.fails
      moveEntriesAside env entries.keys
      removeDestination.run env.fails
      return entries.keys
    else
      removeDestination.run env.fails
      return []

/-- The `try` block. -/
def replaceEntries : Stateful World String Unit := do
  let preserved ← clearDestination env r
  (copy env r).run env.fails
  restoreEntries env r preserved

/-- The `finally` block after a program. -/
def removingPreserveRoot (body : Stateful World String Unit) : Stateful World String Unit :=
  fun w =>
    let (result, w) := body w
    match w.preserveRoot with
    | .absent => (result, w)
    | root => (result, { w with preserveRoot := env.remains root })

def replaceRuntimeDestination : Stateful World String Unit := do
  Stateful.check (rejectNestedRuntimeReplacement r)
  removingPreserveRoot env (replaceEntries env r)

end Replace

end Agintor.Factory.Destination
