import Agintor.Kernel.ToolReservationTheorems

/-!
# What an edit leaves behind

A `repo.edit` writes its file through a temporary one, and only then looks at the immutable roots
and at the size of its confirmation. So a receipt that reports a failure may stand for a file that
was changed, and the exact condition under which receipts are truthful says when these late checks
pass, and that the temporary name is free and is not the file itself.
-/

namespace Agintor.Kernel

open Agintor.Contracts Agintor.Core Agintor.Repositories Agintor.Isolation Lib

namespace TrustedRepairToolService

variable {S : TrustedRepairToolService} {H : ToolHost}

/-! ## Truthful receipts -/

/-- A path in one of the protected directories of the working copy. -/
def OnProtectedPath (S : TrustedRepairToolService) (path : TreePath) : Prop :=
  ∃ p ∈ fixedProtectedPaths, S.workspace.workingRoot ++ [p] <+: path

/-- A failed edit leaves the files of the working copy as they were; an edit that succeeded has
changed the file it names, to the content it was given, and no other one. -/
structure TruthfulEdit (S : TrustedRepairToolService) (H : ToolHost) (call : ToolCall)
    (status : RepairToolStatus) (T T' : FileTree) : Prop where
  failed : status ≠ .succeeded →
    ∀ p, S.workspace.workingRoot <+: p → T'.leaf? p = T.leaf? p
  succeeded : status = .succeeded → ∃ relative path content,
    S.relativePath H T ((Json.get? "path" call.arguments).getD .null) false =
      .ok (relative, path) ∧
    Json.get? "content" call.arguments = some (.str content) ∧
    T'.leaf? path = some (.file (utf8 content)) ∧
    (∀ p, S.workspace.workingRoot <+: p → p ≠ path → T'.leaf? p = T.leaf? p) ∧
    ¬S.OnProtectedPath path

/-! ## The exact condition -/

/-- The call is affordable and its arguments are admitted: it comes to the temporary file, with
`made` as the tree in which the directories are there. -/
structure ReachesWrite (S : TrustedRepairToolService) (H : ToolHost) (call : ToolCall)
    (now : ToolReadings) (st : ToolState) (relative : String) (path : TreePath) (content : String)
    (made : FileTree) : Prop where
  affordable : ∃ reserved, st.ledger.reserveToolCall now.reserved
    (S.callLimit st.ledger call.toolId) = .ok reserved
  roots : S.immutableSourceUnchanged H st.tree = true
  prepared : S.prepareEdit H call.arguments st.tree = (.ok (relative, path, content), made)

/-- The late checks of an edit that leaves the tree `T`. -/
def Confirmed (S : TrustedRepairToolService) (H : ToolHost) (limit : ℕ) (relative content : String)
    (T : FileTree) : Prop :=
  S.immutableSourceUnchanged H T = true ∧ S.Fits H limit (editOutput H relative content)

/-- The temporary file cannot be made. -/
def Unwritable (T : FileTree) (temp : TreePath) : Prop :=
  T.isDirectory temp = true ∨ T.isDirectory temp.dropLast = false

/-- When an edit that comes to its temporary file is truthful: nothing is lost under the temporary
name, and either nothing can be written, or the file written is the file named, and the late
checks pass and it is not protected, or they fail and the file has the content already. -/
def SafeWrite (S : TrustedRepairToolService) (H : ToolHost) (limit : ℕ) (T : FileTree)
    (relative : String) (path : TreePath) (content : String) (made : FileTree)
    (temp : TreePath) : Prop :=
  T.leaf? temp = none ∧
    (Unwritable made temp ∨
      (temp = path ∧ ¬S.Confirmed H limit relative content made) ∨
      (temp ≠ path ∧
        (made.isDirectory path = true ∨
          (S.Confirmed H limit relative content (made.set path (.file (utf8 content))) ∧
            ¬S.OnProtectedPath path) ∨
          (¬S.Confirmed H limit relative content (made.set path (.file (utf8 content))) ∧
            T.leaf? path = some (.file (utf8 content))))))

def SafeEdit (S : TrustedRepairToolService) (H : ToolHost) (call : ToolCall) (now : ToolReadings)
    (st : ToolState) : Prop :=
  ∀ relative path content made, S.ReachesWrite H call now st relative path content made →
    S.SafeWrite H (S.callLimit st.ledger call.toolId) st.tree relative path content made
      (tempPath H path.dropLast st.sequence)

/-! ## Writing through the temporary file -/

section Write

variable {T : FileTree} {temp path : TreePath} {content : Lib.Bytes}

/-- Whatever happens, nothing stays under the temporary name. -/
lemma leaf?_writeThrough_temp (htemp : temp ≠ []) :
    (writeThrough temp path content T).2.leaf? temp = none :=
  FileTree.leaf?_unlink htemp

section

variable (hfree : T.leaf? temp = none)
include hfree

lemma writeFile_free (hwritable : ¬Unwritable T temp) :
    FileTree.writeFile temp content T = (.ok (), T.set temp (.file content)) := by
  have hdirectory : T.isDirectory temp = false := by
    by_contra h
    exact hwritable (Or.inl (by simpa using h))
  have hparent : T.isDirectory temp.dropLast = true := by
    by_contra h
    exact hwritable (Or.inr (by simpa using h))
  unfold FileTree.writeFile
  simp only [FileTree.destination_of_leaf?_eq_none hfree, hdirectory, hparent, if_true,
    Bool.false_eq_true, if_false]

lemma writeFile_unwritable (hunwritable : Unwritable T temp) :
    ∃ e, FileTree.writeFile temp content T = (.error e, T) := by
  unfold FileTree.writeFile
  simp only [FileTree.destination_of_leaf?_eq_none hfree]
  by_cases hdirectory : T.isDirectory temp = true
  · exact ⟨_, by rw [if_pos hdirectory]⟩
  · have hparent := hunwritable.resolve_left hdirectory
    exact ⟨_, by rw [if_neg hdirectory, hparent, if_neg (by decide)]⟩

/-- A temporary file that cannot be made changes no file. -/
lemma writeThrough_unwritable (htemp : temp ≠ [])
    (hunwritable : Unwritable T temp) :
    ∃ e T', writeThrough temp path content T = (.error e, T') ∧ ∀ p, T'.leaf? p = T.leaf? p := by
  obtain ⟨e, hwrite⟩ : ∃ e, FileTree.writeFile temp content T = (.error e, T) :=
    writeFile_unwritable hfree hunwritable
  refine ⟨.other e, FileTree.unlink temp T, ?_, ?_⟩
  · unfold writeThrough system
    rw [Stateful.bind_of_error (e := e) (by rw [hwrite]), hwrite]
  · intro p
    unfold FileTree.unlink
    split
    · rfl
    · next hdirectory =>
      apply FileTree.leaf?_congr
      rw [FileTree.node?_erase htemp]
      split
      · next hp =>
        rw [← hp]
        exact ((FileTree.leaf?_eq_none_iff.mp hfree).resolve_right hdirectory).symm
      · rfl

/-- What a write does after its temporary file is made. -/
lemma writeThrough_eq (hwritable : ¬Unwritable T temp) :
    writeThrough temp path content T =
      let moved := system (FileTree.replace temp path) (T.set temp (.file content))
      (moved.1, FileTree.unlink temp moved.2) := by
  have hwrite : FileTree.writeFile temp content T = (.ok (), T.set temp (.file content)) :=
    writeFile_free hfree hwritable
  unfold writeThrough system
  rw [Stateful.bind_of_ok (a := ()) (by rw [hwrite]), hwrite]

lemma node?_eq_none (hwritable : ¬Unwritable T temp) :
    T.node? temp = none :=
  (FileTree.leaf?_eq_none_iff.mp hfree).resolve_right fun h => hwritable (Or.inl h)

end

/-- The temporary file is removed again. -/
lemma unlink_set (hnode : T.node? temp = none) (htemp : temp ≠ []) :
    FileTree.unlink temp (T.set temp (.file content)) = T := by
  have hfile : ¬FileTree.isDirectory (T.set temp (.file content)) temp = true := by
    unfold FileTree.isDirectory
    rw [FileTree.node?_set htemp, if_pos rfl]
    simp
  unfold FileTree.unlink
  rw [if_neg hfile]
  exact Dict.erase_set_of_not_mem (FileTree.not_mem_keys hnode)

section

variable (hfree : T.leaf? temp = none) (htemp : temp ≠ []) (hwritable : ¬Unwritable T temp)
include hfree htemp hwritable

/-- A write to its own temporary name ends with nothing there. -/
lemma writeThrough_self : writeThrough temp temp content T = (.ok (), T) := by
  have hset : FileTree.node? (T.set temp (.file content)) temp = some (.file content) := by
    rw [FileTree.node?_set htemp, if_pos rfl]
  have hmoved : FileTree.replace temp temp (T.set temp (.file content)) =
      (.ok (), T.set temp (.file content)) := by
    unfold FileTree.replace FileTree.isDirectory
    simp [hset]
  rw [writeThrough_eq hfree hwritable]
  unfold system
  simp only [hmoved, unlink_set (node?_eq_none hfree hwritable) htemp]

/-- A directory is not replaced. -/
lemma writeThrough_directory (hne : temp ≠ path) (hpath : T.isDirectory path = true) :
    ∃ e, writeThrough temp path content T = (.error e, T) := by
  have hset : FileTree.node? (T.set temp (.file content)) temp = some (.file content) := by
    rw [FileTree.node?_set htemp, if_pos rfl]
  have hdirectory : FileTree.isDirectory (T.set temp (.file content)) path = true := by
    unfold FileTree.isDirectory at hpath ⊢
    rwa [FileTree.node?_set htemp, if_neg hne]
  have hmoved : FileTree.replace temp path (T.set temp (.file content)) =
      (.error "IsADirectoryError", T.set temp (.file content)) := by
    unfold FileTree.replace
    simp [hset, hdirectory]
  refine ⟨.other "IsADirectoryError", ?_⟩
  rw [writeThrough_eq hfree hwritable]
  unfold system
  simp only [hmoved, unlink_set (node?_eq_none hfree hwritable) htemp]

/-- Any other file is written, and nothing else. -/
lemma writeThrough_file (hne : temp ≠ path) (hpath : T.isDirectory path = false) :
    writeThrough temp path content T = (.ok (), T.set path (.file content)) := by
  have hnode := node?_eq_none hfree hwritable
  have hroot : path ≠ [] := by
    intro h
    rw [h] at hpath
    exact absurd hpath (by simp [FileTree.isDirectory, FileTree.node?])
  have hset : FileTree.node? (T.set temp (.file content)) temp = some (.file content) := by
    rw [FileTree.node?_set htemp, if_pos rfl]
  have hdirectory : FileTree.isDirectory (T.set temp (.file content)) path = false := by
    unfold FileTree.isDirectory at hpath ⊢
    rwa [FileTree.node?_set htemp, if_neg hne]
  have hmoved : FileTree.replace temp path (T.set temp (.file content)) =
      (.ok (), T.set path (.file content)) := by
    unfold FileTree.replace
    simp only [hset, hdirectory, Bool.false_eq_true, if_false, if_neg hne]
    rw [Dict.erase_set_of_not_mem (FileTree.not_mem_keys hnode)]
  have hgone : FileTree.node? (T.set path (.file content)) temp = none := by
    rw [FileTree.node?_set hroot, if_neg (Ne.symm hne)]
    exact hnode
  rw [writeThrough_eq hfree hwritable]
  unfold system
  simp only [hmoved]
  unfold FileTree.unlink
  rw [if_neg (by rw [FileTree.isDirectory, hgone]; decide),
    Dict.erase_of_not_mem (FileTree.not_mem_keys hgone)]

end

end Write

/-! ## One edit -/

/-- Up to the temporary file an edit changes no file. -/
lemma prepareEdit_spec (arguments : List (String × Json)) (T : FileTree) :
    Stateful.Sat (fun T₀ => T₀ = T) (S.prepareEdit H arguments)
      (fun admitted made => S.admitEdit H T arguments = .ok admitted ∧
        made.resolve S.workspace.workingRoot <+: made.resolve admitted.2.1.dropLast ∧
        ∀ p, made.leaf? p = T.leaf? p)
      (fun _ made => ∀ p, made.leaf? p = T.leaf? p) := by
  unfold prepareEdit
  apply Stateful.Sat.get_bind
  intro T₀ hT₀
  rw [hT₀]
  apply Stateful.Sat.bind (M := fun admitted T' => S.admitEdit H T arguments = .ok admitted ∧ T' = T)
  · apply Stateful.Sat.check
    · exact fun admitted hadmitted T' hT' => ⟨hadmitted, hT'⟩
    · intro e _ T' hT' p
      rw [hT']
  intro admitted
  apply Stateful.Sat.bind (M := fun _ made => S.admitEdit H T arguments = .ok admitted ∧
    ∀ p, made.leaf? p = T.leaf? p)
  · -- only directories are made
    rintro T' ⟨hadmitted, rfl⟩
    have hleaf : ∀ p, (FileTree.makeDirectory admitted.2.1.dropLast T').2.leaf? p = T'.leaf? p :=
      fun p => FileTree.leaf?_makeDirectory
    unfold system
    rcases hmade : FileTree.makeDirectory admitted.2.1.dropLast T' with ⟨e | u, made⟩
    · rw [hmade] at hleaf
      exact hleaf
    · rw [hmade] at hleaf
      exact ⟨hadmitted, hleaf⟩
  intro _
  apply Stateful.Sat.get_bind
  rintro made ⟨hadmitted, hleaf⟩
  apply Stateful.Sat.bind (M := fun _ T' => T' = made ∧
    made.resolve S.workspace.workingRoot <+: made.resolve admitted.2.1.dropLast)
  · apply Stateful.Sat.check
    · intro _ hinside T' hT'
      rw [raiseIf_eq_ok_iff, not_not] at hinside
      exact ⟨hT', hinside⟩
    · intro e _ T' hT'
      rw [hT']
      exact hleaf
  intro _
  apply Stateful.Sat.pure
  rintro T' ⟨rfl, hinside⟩
  exact ⟨hadmitted, hinside, hleaf⟩

variable {arguments : List (String × Json)} {call : ToolCall} {sequence : ℕ}

variable {relative content : String} {path : TreePath} {T : FileTree}

lemma admitEdit_ok (h : S.admitEdit H T arguments = .ok (relative, path, content)) :
    S.relativePath H T ((Json.get? "path" arguments).getD .null) false = .ok (relative, path) ∧
      Json.get? "content" arguments = some (.str content) := by
  unfold admitEdit at h
  simp only [bind_eq_ok_iff] at h
  obtain ⟨-, -, ⟨relative', path'⟩, hpath, -, -, h⟩ := h
  split at h
  · next content' hcontent =>
    simp only [bind_eq_ok_iff, pure_eq_ok, Except.ok.injEq, Prod.mk.injEq] at h
    obtain ⟨-, -, -, -, hrelative, hpath', hcontent'⟩ := h
    rw [hpath, hcontent, hrelative, hpath', hcontent']
    exact ⟨rfl, rfl⟩
  · exact absurd h (by simp)

/-- The path that is meant is below the working copy. -/
lemma prefix_of_relativePath {raw : Json} {relative : String}
    (h : S.relativePath H T raw false = .ok (relative, path)) :
    T.resolve S.workspace.workingRoot <+: path := by
  unfold relativePath at h
  simp only [bind_eq_ok_iff, raiseIf_eq_ok_iff, pure_eq_ok, Except.ok.injEq, Prod.mk.injEq,
    not_not] at h
  obtain ⟨-, -, -, -, -, -, -, hprefix, -, hpath⟩ := h
  rwa [← hpath]

lemma no_link_of_digest {before : String} (h : S.currentWorkspaceDigest H T = .ok before) :
    T.crossesLink S.workspace.workingRoot = none := by
  unfold currentWorkspaceDigest repositorySnapshotDigest checkRoot at h
  cases hlink : T.crossesLink S.workspace.workingRoot with
  | none => rfl
  | some component =>
    rw [hlink] at h
    exact absurd h (by simp)

/-- The temporary file of an edit that reaches its write is in the working copy. -/
lemma prefix_dropLast {T made : FileTree} {before : String}
    (hbefore : S.currentWorkspaceDigest H T = .ok before)
    (hprepared : S.prepareEdit H arguments T = (.ok (relative, path, content), made)) :
    S.workspace.workingRoot <+: path.dropLast := by
  have hspec := S.prepareEdit_spec (H := H) arguments T T rfl
  rw [hprepared] at hspec
  obtain ⟨hadmitted, hinside, hleaf⟩ := hspec
  have hlinks := FileTree.no_link_of_crossesLink (no_link_of_digest hbefore)
  have hmadeLinks : ∀ front, front <+: S.workspace.workingRoot →
      ∀ target, made.node? front ≠ some (.link target) := by
    intro front hfront target hlink
    rw [FileTree.node?_link_iff, hleaf, ← FileTree.node?_link_iff] at hlink
    exact hlinks front hfront target hlink
  have hpath := prefix_of_relativePath (admitEdit_ok hadmitted).1
  rw [FileTree.resolve_of_no_link hlinks] at hpath
  change made.resolve S.workspace.workingRoot <+: made.resolve path.dropLast at hinside
  rw [FileTree.resolve_of_no_link hmadeLinks] at hinside
  obtain ⟨rest, hrest⟩ := hpath
  rcases List.eq_nil_or_concat rest with hnil | ⟨front, name, hconcat⟩
  · -- the working copy itself is not below its parent, unless it is the root
    rw [hnil, List.append_nil] at hrest
    rw [← hrest] at hinside ⊢
    have hparent : made.resolve S.workspace.workingRoot.dropLast =
        S.workspace.workingRoot.dropLast := by
      apply FileTree.resolve_of_no_link
      intro front hfront
      exact hmadeLinks front (hfront.trans (List.dropLast_prefix _))
    rwa [hparent] at hinside
  · rw [← hrest, hconcat, List.concat_eq_append, ← List.append_assoc, List.dropLast_concat]
    exact List.prefix_append _ _

/-! ## The receipt -/

/-- A receipt of an edit is that of a refused call, or of the run of the tool. -/
lemma invoke_returned {now : ToolReadings} {st st' : ToolState} {r : RepairToolReceipt}
    (h : S.invoke H call now st = (.ok r, st')) :
    ∃ before, S.currentWorkspaceDigest H st.tree = .ok before ∧
      ((r.status = .budgetRejected ∧ st'.tree = st.tree ∧
        ∀ reserved, st.ledger.reserveToolCall now.reserved (S.callLimit st.ledger call.toolId) ≠
          .ok reserved) ∨
      (∃ reserved, st.ledger.reserveToolCall now.reserved (S.callLimit st.ledger call.toolId) =
        .ok reserved) ∧
        r.status = (S.bounded H (S.callLimit st.ledger call.toolId)
          (S.perform H st.sequence call st.tree).1).status ∧
        st'.tree = (S.perform H st.sequence call st.tree).2) := by
  have hrecord : ∀ {receipt : RepairToolReceipt} {s : ToolState},
      record receipt s = (.ok r, st') → r = receipt ∧ st'.tree = s.tree := by
    intro receipt s hrecord
    refine ⟨eq_of_record (by rw [hrecord]), ?_⟩
    have htree : (record receipt s).2.tree = s.tree := by
      unfold record
      cases receipt.validateOrigin <;> rfl
    rwa [hrecord] at htree
  unfold invoke at h
  rcases hbefore : S.currentWorkspaceDigest H st.tree with message | before
  · simp [hbefore] at h
  refine ⟨before, rfl, ?_⟩
  simp only [hbefore] at h
  rcases hreserve : st.ledger.reserveToolCall now.reserved (S.callLimit st.ledger call.toolId) with
    e | ⟨reservation, L⟩
  · left
    rw [hreserve] at h
    cases e with
    | exhausted metric requested remaining =>
      obtain ⟨rfl, htree⟩ := hrecord h
      exact ⟨rfl, htree, fun reserved hr => by simp at hr⟩
    | _ => simp at h
  · right
    refine ⟨⟨_, rfl⟩, ?_⟩
    rw [hreserve] at h
    simp only [charge] at h
    split at h
    · simp at h
    · split at h
      · simp at h
      · obtain ⟨rfl, htree⟩ := hrecord h
        exact ⟨rfl, htree⟩

lemma perform_tree (sequence : ℕ) (call : ToolCall) (T : FileTree) :
    (S.perform H sequence call T).2 = (S.execute H sequence call T).2 := by
  unfold perform
  rcases S.execute H sequence call T with ⟨result, T'⟩
  simp only
  split <;> rfl

/-- An edit is reported as succeeded when it returns and the late checks pass. -/
lemma status_eq_succeeded_iff {sequence limit : ℕ} (hid : call.toolId = "repo.edit") :
    (S.bounded H limit (S.perform H sequence call T).1).status = .succeeded ↔
      ∃ output evidence, (S.execute H sequence call T).1 = .ok (output, evidence) ∧
        S.immutableSourceUnchanged H (S.execute H sequence call T).2 = true ∧
        S.Fits H limit output := by
  have hbounded : ∀ outcome : ToolOutcome, (S.bounded H limit outcome).status = .succeeded ↔
      outcome.status = .succeeded ∧ S.Fits H limit outcome.output := by
    intro outcome
    unfold bounded
    split
    · next hfits => exact ⟨fun h => ⟨h, hfits⟩, fun h => h.1⟩
    · next hfits => exact ⟨fun h => by simp at h, fun h => absurd h.2 hfits⟩
  rw [hbounded]
  unfold perform
  rcases S.execute H sequence call T with ⟨result, T'⟩
  by_cases hroots : S.immutableSourceUnchanged H T' = true
  · simp only [hroots, if_true]
    cases result with
    | error e => cases e <;> simp [settle, raised]
    | ok r =>
      have hsettle : settle call.toolId (.ok r) = ⟨.succeeded, none, r.1, r.2⟩ := by
        show returned call.toolId r.1 r.2 = _
        unfold returned
        rw [hid, if_neg (by decide)]
      rw [hsettle]
      constructor
      · intro h
        exact ⟨r.1, r.2, rfl, trivial, h.2⟩
      · rintro ⟨output, evidence, hr, -, hfits⟩
        rw [Except.ok.injEq] at hr
        rw [hr]
        exact ⟨rfl, hfits⟩
  · simp [hroots]

lemma execute_changed (hid : call.toolId = "repo.edit")
    (hroots : S.immutableSourceUnchanged H T = false) :
    S.execute H sequence call T = (.error (.repairTool "immutable_source_changed"), T) := by
  unfold execute
  rw [hid, raiseIf_neg (by decide)]
  show Stateful.andThen (Stateful.check (raiseIf (S.immutableSourceUnchanged H T = false) _)) _ T = _
  rw [raiseIf_pos hroots]
  rfl

lemma execute_edit (hid : call.toolId = "repo.edit")
    (hroots : S.immutableSourceUnchanged H T = true) :
    S.execute H sequence call T =
      (((S.edit H sequence call.arguments T).1.map fun output => (output, [])),
        (S.edit H sequence call.arguments T).2) := by
  unfold execute
  rw [hid, raiseIf_neg (by decide)]
  show Stateful.andThen (Stateful.check (raiseIf (S.immutableSourceUnchanged H T = false) _)) _ T = _
  rw [raiseIf_neg (by rw [hroots]; decide)]
  show Stateful.andThen (S.edit H sequence call.arguments) _ T = _
  unfold Stateful.andThen
  rcases S.edit H sequence call.arguments T with ⟨e | output, T'⟩ <;> rfl

/-- An edit is refused, or it is as its write is. -/
lemma edit_error {T made : FileTree} {e : ToolException}
    (h : S.prepareEdit H arguments T = (.error e, made)) :
    S.edit H sequence arguments T = (.error e, made) := by
  unfold edit
  rw [Stateful.bind_of_error (e := e) (by rw [h]), h]

lemma edit_ok {T made : FileTree}
    (h : S.prepareEdit H arguments T = (.ok (relative, path, content), made)) :
    S.edit H sequence arguments T =
      let written := writeThrough (tempPath H path.dropLast sequence) path (utf8 content) made
      (written.1.map fun _ => editOutput H relative content, written.2) := by
  unfold edit
  rw [Stateful.bind_of_ok (a := (relative, path, content)) (by rw [h]), h]
  show Stateful.andThen (writeThrough _ path (utf8 content)) _ made = _
  unfold Stateful.andThen
  rcases writeThrough (tempPath H path.dropLast sequence) path (utf8 content) made with
    ⟨e | u, T'⟩ <;> rfl

/-! ## Truth of the receipt -/

/-- The content lies at the path, and everything else is as it was. -/
lemma leaf?_set_of_ne {made : FileTree} {path p : TreePath} {node : Node} (hroot : path ≠ [])
    (hp : p ≠ path) : FileTree.leaf? (made.set path node) p = made.leaf? p := by
  apply FileTree.leaf?_congr
  rw [FileTree.node?_set hroot, if_neg (Ne.symm hp)]

lemma leaf?_set_self {made : FileTree} {content : Lib.Bytes} (hroot : path ≠ []) :
    FileTree.leaf? (made.set path (.file content)) path = some (.file content) := by
  apply FileTree.leaf?_file
  rw [FileTree.node?_set hroot, if_pos rfl]

/-- The receipt of an edit that comes to its temporary file. -/
lemma truthful_iff_safeWrite {limit : ℕ} {status : RepairToolStatus} {T made : FileTree}
    {path temp : TreePath} (htemp : temp ≠ []) (hbelow : S.workspace.workingRoot <+: temp)
    (hpath : S.relativePath H T ((Json.get? "path" call.arguments).getD .null) false =
      .ok (relative, path)) (hroot : S.workspace.workingRoot <+: path)
    (hcontent : Json.get? "content" call.arguments = some (.str content))
    (hleaf : ∀ p, made.leaf? p = T.leaf? p)
    (hstatus : status = .succeeded ↔ (writeThrough temp path (utf8 content) made).1 = .ok () ∧
      S.Confirmed H limit relative content (writeThrough temp path (utf8 content) made).2) :
    S.TruthfulEdit H call status T (writeThrough temp path (utf8 content) made).2 ↔
      S.SafeWrite H limit T relative path content made temp := by
  have hnamed : ∀ {relative' path' content'},
      S.relativePath H T ((Json.get? "path" call.arguments).getD .null) false =
        .ok (relative', path') →
      Json.get? "content" call.arguments = some (.str content') →
      path' = path ∧ content' = content := by
    intro relative' path' content' hpath' hcontent'
    rw [hpath, Except.ok.injEq, Prod.mk.injEq] at hpath'
    rw [hcontent, Option.some.injEq, Json.str.injEq] at hcontent'
    exact ⟨hpath'.2.symm, hcontent'.symm⟩
  have hunchanged : ∀ {T' : FileTree}, status ≠ .succeeded → (∀ p, T'.leaf? p = T.leaf? p) →
      S.TruthfulEdit H call status T T' := fun hfailed hsame =>
    ⟨fun _ p _ => hsame p, fun hsucceeded => absurd hsucceeded hfailed⟩
  by_cases hfree : T.leaf? temp = none
  swap
  · -- what lay under the temporary name is lost
    refine iff_of_false (fun h => ?_) (fun h => hfree h.1)
    have hgone : (writeThrough temp path (utf8 content) made).2.leaf? temp = none :=
      leaf?_writeThrough_temp htemp
    by_cases hsucceeded : status = .succeeded
    · obtain ⟨relative', path', content', hpath', hcontent', hfile, hframe, -⟩ :=
        h.succeeded hsucceeded
      obtain ⟨rfl, rfl⟩ := hnamed hpath' hcontent'
      by_cases hself : temp = path'
      · have hboth : some (Node.file (utf8 content')) = none := by
          rw [← hfile, ← hgone]
          exact congrArg _ hself.symm
        exact absurd hboth (by simp)
      · rw [hframe temp hbelow hself] at hgone
        exact hfree hgone
    · rw [h.failed hsucceeded temp hbelow] at hgone
      exact hfree hgone
  have hmadeFree : made.leaf? temp = none := by rw [hleaf, hfree]
  unfold SafeWrite
  rw [and_iff_right hfree]
  by_cases hunwritable : Unwritable made temp
  · obtain ⟨e, T', hwrite, hsame⟩ : ∃ e T', writeThrough temp path (utf8 content) made =
        (.error e, T') ∧ ∀ p, T'.leaf? p = made.leaf? p :=
      writeThrough_unwritable hmadeFree htemp hunwritable
    rw [hwrite] at hstatus ⊢
    refine iff_of_true (hunchanged ?_ fun p => (hsame p).trans (hleaf p)) (Or.inl hunwritable)
    intro hsucceeded
    exact absurd (hstatus.mp hsucceeded).1 (by simp)
  rw [or_iff_right hunwritable]
  by_cases hself : temp = path
  · rw [← hself] at hstatus hnamed ⊢
    rw [writeThrough_self hmadeFree htemp hunwritable] at hstatus ⊢
    simp only [true_and, ne_eq, not_true_eq_false, false_and, or_false]
    have hiff : status = .succeeded ↔ S.Confirmed H limit relative content made :=
      hstatus.trans (and_iff_right rfl)
    rw [← hiff]
    refine ⟨fun h hsucceeded => ?_, fun hfailed => hunchanged hfailed hleaf⟩
    obtain ⟨relative', path', content', hpath', hcontent', hfile, -, -⟩ := h.succeeded hsucceeded
    obtain ⟨rfl, rfl⟩ := hnamed hpath' hcontent'
    rw [hmadeFree] at hfile
    exact absurd hfile (by simp)
  rw [or_iff_right (fun h => hself h.1), and_iff_right hself]
  by_cases hdirectory : made.isDirectory path = true
  · obtain ⟨e, hwrite⟩ : ∃ e, writeThrough temp path (utf8 content) made = (.error e, made) :=
      writeThrough_directory hmadeFree htemp hunwritable hself hdirectory
    rw [hwrite] at hstatus ⊢
    refine iff_of_true (hunchanged ?_ hleaf) (Or.inl hdirectory)
    intro hsucceeded
    exact absurd (hstatus.mp hsucceeded).1 (by simp)
  have hpathNe : path ≠ [] := by
    intro h
    rw [h] at hdirectory
    exact hdirectory rfl
  rw [writeThrough_file hmadeFree htemp hunwritable hself (by simpa using hdirectory)] at hstatus ⊢
  have hiff := hstatus.trans (and_iff_right rfl)
  have hfile : FileTree.leaf? (made.set path (.file (utf8 content))) path =
      some (.file (utf8 content)) := leaf?_set_self hpathNe
  have hframe : ∀ p, p ≠ path →
      FileTree.leaf? (made.set path (.file (utf8 content))) p = T.leaf? p := by
    intro p hp
    rw [leaf?_set_of_ne hpathNe hp, hleaf]
  rw [or_iff_right hdirectory, ← hiff]
  by_cases hsucceeded : status = .succeeded
  · rw [or_iff_left (fun h => h.1 hsucceeded), and_iff_right hsucceeded]
    constructor
    · intro h
      obtain ⟨relative', path', content', hpath', hcontent', -, -, hprotected⟩ :=
        h.succeeded hsucceeded
      obtain ⟨rfl, rfl⟩ := hnamed hpath' hcontent'
      exact hprotected
    · intro hprotected
      exact ⟨fun hfailed => absurd hsucceeded hfailed, fun _ => ⟨relative, path, content, hpath,
        hcontent, hfile, fun p _ hp => hframe p hp, hprotected⟩⟩
  · rw [or_iff_right (fun h => hsucceeded h.1), and_iff_right hsucceeded]
    constructor
    · intro h
      rw [← h.failed hsucceeded path hroot]
      exact hfile
    · intro hsame
      apply hunchanged hsucceeded
      intro p
      by_cases hp : p = path
      · rw [hp, hfile, hsame]
      · exact hframe p hp

/-- What the receipt of an edit says about the files is true exactly when the edit is safe. -/
theorem truthfulEdit_iff_safeEdit (S : TrustedRepairToolService) (H : ToolHost) (call : ToolCall)
    (now : ToolReadings) (st st' : ToolState) (r : RepairToolReceipt)
    (hid : call.toolId = "repo.edit") (h : S.invoke H call now st = (.ok r, st')) :
    S.TruthfulEdit H call r.status st.tree st'.tree ↔ S.SafeEdit H call now st := by
  have hunchanged : r.status ≠ .succeeded → (∀ p, st'.tree.leaf? p = st.tree.leaf? p) →
      S.TruthfulEdit H call r.status st.tree st'.tree := fun hfailed hsame =>
    ⟨fun _ p _ => hsame p, fun hsucceeded => absurd hsucceeded hfailed⟩
  obtain ⟨before, hbefore, ⟨hstatus, htree, hrefused⟩ | ⟨haffordable, hstatus, htree⟩⟩ :=
    invoke_returned h
  · refine iff_of_true (hunchanged (by rw [hstatus]; decide) fun p => by rw [htree]) ?_
    intro relative path content made hreaches
    obtain ⟨reserved, hreserved⟩ := hreaches.affordable
    exact absurd hreserved (hrefused reserved)
  have hsucceeded : (S.bounded H (S.callLimit st.ledger call.toolId)
      (S.perform H st.sequence call st.tree).1).status = .succeeded ↔ _ :=
    status_eq_succeeded_iff hid
  rw [← hstatus] at hsucceeded
  rw [perform_tree] at htree
  by_cases hroots : S.immutableSourceUnchanged H st.tree = true
  swap
  · rw [execute_changed hid (by simpa using hroots)] at hsucceeded htree
    refine iff_of_true (hunchanged ?_ fun p => by rw [htree]) fun _ _ _ _ hreaches =>
      absurd hreaches.roots hroots
    intro hs
    obtain ⟨output, evidence, herror, -⟩ := hsucceeded.mp hs
    exact absurd herror (by simp)
  rw [execute_edit hid hroots] at hsucceeded htree
  have hspec := S.prepareEdit_spec (H := H) call.arguments st.tree st.tree rfl
  rcases hprepared : S.prepareEdit H call.arguments st.tree with ⟨e | ⟨relative, path, content⟩, made⟩
  · rw [edit_error hprepared] at hsucceeded htree
    rw [hprepared] at hspec
    refine iff_of_true (hunchanged ?_ fun p => ?_) ?_
    · intro hs
      obtain ⟨output, evidence, herror, -⟩ := hsucceeded.mp hs
      exact absurd herror (by simp [Except.map])
    · rw [htree]
      exact hspec p
    · intro relative path content made' hreaches
      have hok := hreaches.prepared
      rw [hprepared] at hok
      exact absurd hok (by simp)
  · rw [edit_ok hprepared] at hsucceeded htree
    rw [hprepared] at hspec
    obtain ⟨hadmitted, -, hleaf⟩ := hspec
    obtain ⟨hpath, hcontent⟩ := admitEdit_ok hadmitted
    have hbelow := prefix_dropLast hbefore hprepared
    -- one write is reached, so the condition is about that write
    have hsafe : S.SafeEdit H call now st ↔ S.SafeWrite H (S.callLimit st.ledger call.toolId) st.tree
        relative path content made (tempPath H path.dropLast st.sequence) := by
      constructor
      · intro hsafe
        exact hsafe relative path content made ⟨haffordable, hroots, hprepared⟩
      · intro hsafe relative' path' content' made' hreaches
        have hsame := hreaches.prepared
        rw [hprepared] at hsame
        simp only [Prod.mk.injEq, Except.ok.injEq] at hsame
        obtain ⟨⟨rfl, rfl, rfl⟩, rfl⟩ := hsame
        exact hsafe
    rw [hsafe, htree]
    refine truthful_iff_safeWrite (by simp [tempPath]) (hbelow.trans (List.prefix_append _ _)) hpath
      (hbelow.trans (List.dropLast_prefix _)) hcontent hleaf ?_
    rw [hsucceeded]
    simp only
    rcases writeThrough (tempPath H path.dropLast st.sequence) path (utf8 content) made with
      ⟨e | u, T'⟩
    · simp [Except.map]
    · simp [Except.map, Confirmed]

/-- The edit of a new file. -/
def sampleEdit : ToolCall := { bareEdit with
  arguments := [("path", .str "a"), ("content", .str "b")] }

/-- A fresh state with so many bytes of output left. -/
def sampleState (bytes : ℕ) (hpos : 0 < bytes) : ToolState :=
  ⟨emptyTree, AggregateBudgetLedger.init (outputCeilings bytes hpos) 0, 0, []⟩

def sampleService (bytes : ℕ) (hpos : 0 < bytes) : TrustedRepairToolService :=
  ⟨outputCeilings bytes hpos, {}, emptyWorkspace⟩

/-- A receipt of an edit with 4096 bytes of output left. -/
theorem truthfulEdit_iff_safeEdit_sample : ∃ r st',
    (sampleService 4096 (by decide)).invoke sampleHost sampleEdit ⟨0, 0, 0, 0⟩
      (sampleState 4096 (by decide)) = (.ok r, st') ∧
    ((sampleService 4096 (by decide)).TruthfulEdit sampleHost sampleEdit r.status emptyTree st'.tree ↔
      (sampleService 4096 (by decide)).SafeEdit sampleHost sampleEdit ⟨0, 0, 0, 0⟩
        (sampleState 4096 (by decide))) := by
  have hreturns : ((sampleService 4096 (by decide)).invoke sampleHost sampleEdit ⟨0, 0, 0, 0⟩
      (sampleState 4096 (by decide))).1.toBool = true := by
    decide +kernel
  rcases hinvoke : (sampleService 4096 (by decide)).invoke sampleHost sampleEdit ⟨0, 0, 0, 0⟩
    (sampleState 4096 (by decide)) with ⟨e | r, st'⟩
  · rw [hinvoke] at hreturns
    exact absurd hreturns Bool.false_ne_true
  · exact ⟨r, st', rfl, truthfulEdit_iff_safeEdit _ _ _ _ _ _ _ rfl hinvoke⟩

/-- With 64 bytes of output left the file is written, and the receipt reports a failure. -/
theorem sampleEdit_untruthful : ∃ r st',
    (sampleService 64 (by decide)).invoke sampleHost sampleEdit ⟨0, 0, 0, 0⟩
      (sampleState 64 (by decide)) = (.ok r, st') ∧
    r.status = .outputLimit ∧ st'.tree.leaf? ["work", "a"] = some (.file [98]) ∧
    ¬(sampleService 64 (by decide)).TruthfulEdit sampleHost sampleEdit r.status emptyTree
      st'.tree := by
  have hstatus : (((sampleService 64 (by decide)).invoke sampleHost sampleEdit ⟨0, 0, 0, 0⟩
      (sampleState 64 (by decide))).1.toOption.map (·.status)) = some .outputLimit := by
    decide +kernel
  have htree : ((sampleService 64 (by decide)).invoke sampleHost sampleEdit ⟨0, 0, 0, 0⟩
      (sampleState 64 (by decide))).2.tree.leaf? ["work", "a"] = some (.file [98]) := by
    decide +kernel
  rcases hinvoke : (sampleService 64 (by decide)).invoke sampleHost sampleEdit ⟨0, 0, 0, 0⟩
    (sampleState 64 (by decide)) with ⟨e | r, st'⟩
  · rw [hinvoke] at hstatus
    exact absurd hstatus (by simp [Except.toOption])
  · rw [hinvoke] at hstatus htree
    have hr : r.status = .outputLimit := Option.some.inj hstatus
    refine ⟨r, st', rfl, hr, htree, fun h => ?_⟩
    have hsame := h.failed (by rw [hr]; decide) ["work", "a"] ⟨["a"], rfl⟩
    rw [htree] at hsame
    exact absurd hsame (by decide)

end TrustedRepairToolService
end Agintor.Kernel
