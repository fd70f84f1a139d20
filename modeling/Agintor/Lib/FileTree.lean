import Agintor.Lib.Dict
import Agintor.Lib.Framing
import Agintor.Lib.Stateful

/-!
# A tree of files

Files, directories and symbolic links under absolute paths, and the calls of an operating system
that change them. A call that fails raises the name of its exception and leaves the tree as the
steps before left it.
-/

namespace Lib

/-- The names from the root down. -/
abbrev TreePath := List String

inductive Node
  | file (content : Bytes)
  | directory
  /-- A link, by the path where it finally leads. -/
  | link (target : TreePath)
deriving DecidableEq

def Node.isLink : Node → Bool
  | .link _ => true
  | _ => false

/-- The nodes below the root, which is a directory. -/
abbrev FileTree := Dict TreePath Node

namespace FileTree

def node? (T : FileTree) (p : TreePath) : Option Node :=
  if p = [] then some .directory else T.get? p

def isDirectory (T : FileTree) (p : TreePath) : Bool := T.node? p = some .directory

/-- Files and links are what a directory lists besides directories. -/
def leaf? (T : FileTree) (p : TreePath) : Option Node :=
  (T.node? p).filter (· ≠ .directory)

/-- The names below `p`, from a resolved path, with links followed. -/
def resolveFrom (T : FileTree) : TreePath → List String → TreePath
  | p, [] => p
  | p, name :: names =>
    match T.node? (p ++ [name]) with
    | some (.link target) => resolveFrom T target names
    | _ => resolveFrom T (p ++ [name]) names

/-- `path.resolve()` -/
def resolve (T : FileTree) (p : TreePath) : TreePath := T.resolveFrom [] p

/-- Whether a component of a path is a link. -/
def crossesLink (T : FileTree) (p : TreePath) : Option TreePath :=
  p.inits.find? fun q => (T.node? q).any Node.isLink

/-- Directories for the names below an existing one. -/
def makeFrom : TreePath → List String → Stateful FileTree String Unit
  | _, [] => pure ()
  | p, name :: names => fun T =>
    match T.node? (p ++ [name]) with
    | none => makeFrom (p ++ [name]) names (T.set (p ++ [name]) .directory)
    | some .directory => makeFrom (p ++ [name]) names T
    | some (.file _) =>
      (.error (if names = [] then "FileExistsError" else "NotADirectoryError"), T)
    | some (.link target) =>
      if T.isDirectory target then makeFrom target names T
      else (.error (if names = [] then "FileExistsError" else "FileNotFoundError"), T)

/-- `path.mkdir(parents=True, exist_ok=True)` -/
def makeDirectory (p : TreePath) : Stateful FileTree String Unit := makeFrom [] p

/-- Where opening a path leads. -/
def destination (T : FileTree) (p : TreePath) : TreePath :=
  match T.node? p with
  | some (.link target) => target
  | _ => p

/-- `path.write_bytes(content)` -/
def writeFile (p : TreePath) (content : Bytes) : Stateful FileTree String Unit := fun T =>
  let p := T.destination p
  if T.isDirectory p then (.error "IsADirectoryError", T)
  else if T.isDirectory p.dropLast then (.ok (), T.set p (.file content))
  else (.error "FileNotFoundError", T)

/-- `source.replace(target)` -/
def replace (source target : TreePath) : Stateful FileTree String Unit := fun T =>
  match T.node? source with
  | none => (.error "FileNotFoundError", T)
  | some node =>
    if T.isDirectory target then (.error "IsADirectoryError", T)
    else if source = target then (.ok (), T)
    else (.ok (), (T.erase source).set target node)

/-- `path.unlink(missing_ok=True)`, when an error is passed over. -/
def unlink (p : TreePath) (T : FileTree) : FileTree := if T.isDirectory p then T else T.erase p

/-! ## What the calls leave alone -/

variable {T T' : FileTree} {p q : TreePath}

lemma node?_set (hp : p ≠ []) (node : Node) :
    node? (T.set p node) q = if p = q then some node else T.node? q := by
  unfold node?
  by_cases hq : q = []
  · rw [if_pos hq, if_pos hq, if_neg (by rw [hq]; exact hp)]
  · rw [if_neg hq, if_neg hq, Dict.get?_set]

lemma node?_erase (hp : p ≠ []) : node? (T.erase p) q = if p = q then none else T.node? q := by
  unfold node?
  by_cases hq : q = []
  · rw [if_pos hq, if_pos hq, if_neg (by rw [hq]; exact hp)]
  · rw [if_neg hq, if_neg hq, Dict.get?_erase]

lemma leaf?_congr (h : T'.node? p = T.node? p) : T'.leaf? p = T.leaf? p := by
  rw [leaf?, leaf?, h]

lemma leaf?_file {content : Bytes} (h : T.node? p = some (.file content)) :
    T.leaf? p = some (.file content) := by
  rw [leaf?, h]
  rfl

lemma leaf?_eq_none_iff : T.leaf? p = none ↔ T.node? p = none ∨ T.isDirectory p = true := by
  unfold leaf? isDirectory
  cases T.node? p with
  | none => simp
  | some node => simp [Option.filter_some]

/-- Making directories changes no file. -/
lemma leaf?_makeFrom (names : List String) : (makeFrom p names T).2.leaf? q = T.leaf? q := by
  induction names generalizing p T with
  | nil => rfl
  | cons name names ih =>
    unfold makeFrom
    match hnode : T.node? (p ++ [name]) with
    | none =>
      simp only
      rw [ih]
      by_cases hq : p ++ [name] = q
      · rw [← hq]
        unfold leaf?
        rw [hnode, node?_set (by simp), if_pos rfl]
        rfl
      · apply leaf?_congr
        rw [node?_set (by simp), if_neg hq]
    | some .directory => exact ih
    | some (.file content) => rfl
    | some (.link target) =>
      simp only
      split
      · exact ih
      · rfl

lemma leaf?_makeDirectory : (makeDirectory p T).2.leaf? q = T.leaf? q := leaf?_makeFrom p

/-- A path without links leads where it says. -/
lemma resolveFrom_of_no_link {names : List String}
    (h : ∀ front, front <+: names → ∀ target, T.node? (p ++ front) ≠ some (.link target)) :
    T.resolveFrom p names = p ++ names := by
  induction names generalizing p with
  | nil => simp [resolveFrom]
  | cons name names ih =>
    have hrest : T.resolveFrom (p ++ [name]) names = p ++ name :: names := by
      rw [ih, List.append_assoc, List.singleton_append]
      intro front hfront target
      have hcons := h (name :: front) ((List.prefix_cons_inj name).mpr hfront) target
      rwa [← List.singleton_append, ← List.append_assoc] at hcons
    unfold resolveFrom
    split
    · next target hlink =>
      exact absurd hlink (h [name] ((List.prefix_cons_inj name).mpr List.nil_prefix) target)
    · exact hrest

lemma resolve_of_no_link (h : ∀ front, front <+: p → ∀ target, T.node? front ≠ some (.link target)) :
    T.resolve p = p := by
  have hfrom : T.resolveFrom [] p = [] ++ p := resolveFrom_of_no_link h
  exact hfrom

lemma no_link_of_crossesLink (h : T.crossesLink p = none) :
    ∀ front, front <+: p → ∀ target, T.node? front ≠ some (.link target) := by
  intro front hfront target hlink
  have hnone := List.find?_eq_none.mp h front ((List.mem_inits front p).mpr hfront)
  rw [hlink] at hnone
  exact hnone rfl

/-- The links are leaves. -/
lemma node?_link_iff {target : TreePath} :
    T.node? p = some (.link target) ↔ T.leaf? p = some (.link target) := by
  unfold leaf?
  cases T.node? p with
  | none => simp
  | some node => cases node <;> simp [Option.filter_some]

lemma destination_of_leaf?_eq_none (h : T.leaf? p = none) : T.destination p = p := by
  unfold destination
  split
  · next target hlink =>
    rw [node?_link_iff, h] at hlink
    exact absurd hlink (by simp)
  · rfl

lemma not_mem_keys (h : T.node? p = none) : p ∉ T.keys := by
  unfold node? at h
  split at h
  · simp at h
  · exact Dict.get?_eq_none_iff.mp h

/-- An unlinked path is no file. -/
lemma leaf?_unlink (hp : p ≠ []) : (unlink p T).leaf? p = none := by
  unfold unlink
  by_cases hdirectory : T.isDirectory p = true
  · rw [if_pos hdirectory]
    exact leaf?_eq_none_iff.mpr (Or.inr hdirectory)
  · rw [if_neg hdirectory]
    refine leaf?_eq_none_iff.mpr (Or.inl ?_)
    rw [node?_erase hp, if_pos rfl]

end FileTree

end Lib
