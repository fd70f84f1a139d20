import Agintor.Lib.UnifiedDiffTheorems
import Agintor.Repositories.Workspaces

/-!
# What a final patch says

A patch is made of the diffs of the files whose bytes differ, where a file that is missing counts
as empty. It determines these bytes. It does not tell an empty file from no file.
-/

namespace Agintor.Repositories

open Agintor.Core Lib

variable {M : SequenceMatcher Line} {base w w' : Root} {limit : ℕ} {patch : String}

/-- The two trees have the same files with the same bytes. -/
def SameFiles (w w' : Root) : Prop :=
  ∀ path, (fileBytesMap w).get? path = (fileBytesMap w').get? path

/-- The two trees have the same bytes under each path, where no file is an empty one. -/
def SameContents (w w' : Root) : Prop :=
  ∀ path, contentOf (fileBytesMap w) path = contentOf (fileBytesMap w') path

/-- Some path is an empty file in one tree and no file in the other, and nothing else differs. -/
def DifferInEmptyFiles (w w' : Root) : Prop := SameContents w w' ∧ ¬SameFiles w w'

/-- No path of a changed file has a line break in it. -/
def PlainPaths (base w : Root) : Prop :=
  ∀ path, contentOf (fileBytesMap base) path ≠ contentOf (fileBytesMap w) path →
    Unbroken path.toList

/-! ## Changed files -/

/-- The text of a file. -/
def textOf (raw : Bytes) : List Char := ((String.fromUTF8? ⟨raw.toArray⟩).map String.toList).getD []

/-- The bytes are the UTF-8 encoding of a text. -/
def Decodes (raw : Bytes) : Prop := utf8 (String.ofList (textOf raw)) = raw

lemma decodeChangedText_eq_ok {raw : Bytes} {relative : String} {text : List Char}
    (h : decodeChangedText raw relative = .ok text) : text = textOf raw ∧ Decodes raw := by
  unfold decodeChangedText at h
  rw [bind_eq_ok_iff] at h
  obtain ⟨_, -, h⟩ := h
  unfold Decodes textOf
  cases hdecode : String.fromUTF8? ⟨raw.toArray⟩ with
  | none => simp [hdecode] at h
  | some s =>
    have hbytes : s.toByteArray = ⟨raw.toArray⟩ := by
      unfold String.fromUTF8? at hdecode
      split at hdecode
      · rw [← Option.some.inj hdecode]
        rfl
      · exact absurd hdecode (by simp)
    rw [hdecode] at h
    refine ⟨?_, ?_⟩
    · simpa using (Except.ok.inj h).symm
    · show utf8 (String.ofList s.toList) = raw
      rw [String.ofList_toList, utf8, hbytes]

lemma textOf_inj {raw raw' : Bytes} (h : Decodes raw) (h' : Decodes raw')
    (htext : textOf raw = textOf raw') : raw = raw' := by
  rw [← h, ← h', htext]

/-- The paths under which the bytes differ. -/
def changedPaths (before after : Dict String Bytes) (paths : List String) : List String :=
  paths.filter fun path => contentOf before path ≠ contentOf after path

/-- The new lines of the files that differ. -/
def changes (before after : Dict String Bytes) (paths : List String) :
    List (List Char × List Line) :=
  (changedPaths before after paths).map fun path =>
    (path.toList, splitlines (textOf (contentOf after path)))

/-- The old lines of a file. -/
def oldLines (before : Dict String Bytes) (name : List Char) : List Line :=
  splitlines (textOf (contentOf before (String.ofList name)))

variable {paths : List String}

variable {before after : Dict String Bytes} {chunks : List (List Char)} {size : ℕ}

/-- What the loop adds to the chunks. -/
theorem diffFiles_eq_ok {chunks out : List (List Char)}
    (h : diffFiles M before after limit size chunks paths = .ok out) :
    out.flatten = chunks.flatten ++ filesDiff M (oldLines before) (changes before after paths) ∧
      ∀ path ∈ changedPaths before after paths,
        Decodes (contentOf before path) ∧ Decodes (contentOf after path) := by
  induction paths generalizing size chunks with
  | nil =>
    obtain rfl : chunks = out := Except.ok.inj h
    exact ⟨by simp [filesDiff, changes, changedPaths], by simp [changedPaths]⟩
  | cons path paths ih =>
    unfold diffFiles at h
    by_cases hsame : contentOf before path = contentOf after path
    · simp only [if_pos hsame] at h
      have hskip : changedPaths before after (path :: paths) = changedPaths before after paths :=
        List.filter_cons_of_neg (by simpa using hsame)
      unfold changes
      rw [hskip]
      exact ih h
    · simp only [if_neg hsame, bind_eq_ok_iff, raiseIf_eq_ok_iff] at h
      obtain ⟨old, hold, new, hnew, _, -, h⟩ := h
      obtain ⟨rfl, hdecodes⟩ := decodeChangedText_eq_ok hold
      obtain ⟨rfl, hdecodes'⟩ := decodeChangedText_eq_ok hnew
      have htake : changedPaths before after (path :: paths) =
          path :: changedPaths before after paths :=
        List.filter_cons_of_pos (by simpa using hsame)
      obtain ⟨hout, hall⟩ := ih h
      constructor
      · have hold' : oldLines before path.toList = splitlines (textOf (contentOf before path)) := by
          rw [oldLines, String.ofList_toList]
        unfold changes
        rw [htake, List.map_cons, filesDiff, List.flatMap_cons, hold', hout, List.flatten_append,
          List.append_assoc]
        simp only [List.flatten_cons, List.flatten_nil, List.append_nil]
        rfl
      · rw [htake]
        exact List.forall_mem_cons.mpr ⟨⟨hdecodes, hdecodes'⟩, hall⟩

/-- The loop passes over the files that do not differ. -/
lemma diffFiles_changedPaths :
    diffFiles M before after limit size chunks paths =
      diffFiles M before after limit size chunks (changedPaths before after paths) := by
  induction paths generalizing size chunks with
  | nil => rfl
  | cons path paths ih =>
    by_cases hsame : contentOf before path = contentOf after path
    · have hskip : changedPaths before after (path :: paths) = changedPaths before after paths :=
        List.filter_cons_of_neg (by simpa using hsame)
      rw [hskip, ← ih]
      simp only [diffFiles, if_pos hsame]
    · have htake : changedPaths before after (path :: paths) =
          path :: changedPaths before after paths :=
        List.filter_cons_of_pos (by simpa using hsame)
      rw [htake]
      simp only [diffFiles, if_neg hsame, ih]

/-- Only the bytes under each path are looked at. -/
lemma diffFiles_congr {before after after' : Dict String Bytes}
    (h : ∀ path, contentOf after path = contentOf after' path) :
    diffFiles M before after limit size chunks paths =
      diffFiles M before after' limit size chunks paths := by
  induction paths generalizing size chunks with
  | nil => rfl
  | cons path paths ih => simp only [diffFiles, h, ih]

/-! ## All paths -/

/-- `sorted(set(base_files) | set(working_files))` -/
def allPaths (base working : Root) : List String :=
  sortedUnique ((fileBytesMap base).keys ++ (fileBytesMap working).keys)

/-- The paths at which the trees differ, in order. -/
def differing (base w : Root) : List String :=
  changedPaths (fileBytesMap base) (fileBytesMap w) (allPaths base w)

/-- A path with different bytes is one of the paths gone through. -/
lemma mem_differing {path : String} :
    path ∈ differing base w ↔
      contentOf (fileBytesMap base) path ≠ contentOf (fileBytesMap w) path := by
  unfold differing changedPaths
  simp only [List.mem_filter, ne_eq, decide_eq_true_eq, and_iff_right_iff_imp]
  intro hne
  unfold allPaths sortedUnique
  rw [List.mem_insertionSort, List.mem_dedup, List.mem_append]
  by_contra hmem
  rw [not_or, ← Dict.get?_eq_none_iff, ← Dict.get?_eq_none_iff] at hmem
  apply hne
  rw [contentOf, contentOf, hmem.1, hmem.2]

lemma pairwise_differing (base w : Root) : (differing base w).Pairwise (· ≤ ·) :=
  (List.pairwise_insertionSort (· ≤ ·) _).filter _

lemma nodup_differing (base w : Root) : (differing base w).Nodup :=
  ((List.perm_insertionSort (· ≤ ·) _).nodup_iff.mpr (List.nodup_dedup _)).filter _

/-- Trees with the same bytes differ from the base at the same paths. -/
lemma differing_congr (h : SameContents w w') : differing base w = differing base w' := by
  have hperm : (differing base w).Perm (differing base w') := by
    apply (List.perm_ext_iff_of_nodup (nodup_differing base w) (nodup_differing base w')).mpr
    intro path
    rw [mem_differing, mem_differing, h path]
  exact hperm.eq_of_pairwise (fun _ _ _ _ => le_antisymm) (pairwise_differing base w)
    (pairwise_differing base w')

/-- Equal bytes give equal patches. -/
theorem unifiedDiffBetween_congr (h : SameContents w w') :
    unifiedDiffBetween M base w limit = unifiedDiffBetween M base w' limit := by
  have hloop : diffFiles M (fileBytesMap base) (fileBytesMap w) limit 0 [] (allPaths base w) =
      diffFiles M (fileBytesMap base) (fileBytesMap w') limit 0 [] (allPaths base w') := by
    rw [diffFiles_changedPaths, diffFiles_congr h]
    exact (congrArg _ (differing_congr h)).trans diffFiles_changedPaths.symm
  unfold unifiedDiffBetween
  exact congrArg (· >>= _) hloop

/-- A patch is the diff of the files that differ, which are texts. -/
lemma unifiedDiffBetween_eq_ok (h : unifiedDiffBetween M base w limit = .ok patch) :
    patch.toList = filesDiff M (oldLines (fileBytesMap base))
        ((differing base w).map fun path =>
          (path.toList, splitlines (textOf (contentOf (fileBytesMap w) path)))) ∧
      ∀ path ∈ differing base w, Decodes (contentOf (fileBytesMap base) path) ∧
        Decodes (contentOf (fileBytesMap w) path) := by
  unfold unifiedDiffBetween at h
  rw [bind_eq_ok_iff] at h
  obtain ⟨chunks, hchunks, h⟩ := h
  obtain ⟨hout, hdecodes⟩ := diffFiles_eq_ok hchunks
  obtain rfl : String.ofList chunks.flatten = patch := Except.ok.inj h
  rw [String.toList_ofList]
  exact ⟨hout, hdecodes⟩

lemma changes_differing (hplain : PlainPaths base w)
    (hdecodes : ∀ path ∈ differing base w, Decodes (contentOf (fileBytesMap base) path) ∧
      Decodes (contentOf (fileBytesMap w) path)) :
    Changes (oldLines (fileBytesMap base)) ((differing base w).map fun path =>
      (path.toList, splitlines (textOf (contentOf (fileBytesMap w) path)))) := by
  intro c hc
  obtain ⟨path, hpath, rfl⟩ := List.mem_map.mp hc
  have hne := mem_differing.mp hpath
  refine ⟨hplain path hne, ?_, lines_splitlines _⟩
  intro hlines
  rw [oldLines, String.ofList_toList] at hlines
  exact hne (textOf_inj (hdecodes path hpath).1 (hdecodes path hpath).2
    (splitlines_injective hlines))

/-- A patch determines the bytes under each path. -/
theorem sameContents_of_patch (hplain : PlainPaths base w) (hplain' : PlainPaths base w')
    (h : unifiedDiffBetween M base w limit = .ok patch)
    (h' : unifiedDiffBetween M base w' limit = .ok patch) : SameContents w w' := by
  obtain ⟨hpatch, hdecodes⟩ := unifiedDiffBetween_eq_ok h
  obtain ⟨hpatch', hdecodes'⟩ := unifiedDiffBetween_eq_ok h'
  have hchanges := filesDiff_inj (changes_differing hplain hdecodes)
    (changes_differing hplain' hdecodes') (hpatch.symm.trans hpatch')
  have hpaths : differing base w = differing base w' := by
    have hnames := congrArg (List.map fun c => String.ofList c.1) hchanges
    simpa [Function.comp_def] using hnames
  intro path
  by_cases hpath : path ∈ differing base w
  · rw [← hpaths] at hchanges hdecodes'
    have hlines := List.map_inj_left.mp hchanges path hpath
    exact textOf_inj (hdecodes path hpath).2 (hdecodes' path hpath).2
      (splitlines_injective (Prod.ext_iff.mp hlines).2)
  · -- the file is the one of the base in both trees
    have hbase := hpath
    rw [hpaths, mem_differing, not_not] at hpath
    rw [mem_differing, not_not] at hbase
    exact hbase.symm.trans hpath

/-- Finds no matching blocks. -/
def noBlocks : SequenceMatcher Line where
  matchingBlocks := fun _ _ => []
  matching := fun _ _ => ⟨Nat.zero_le _, Nat.zero_le _⟩

def sampleBase : Root := Dict.empty.set "a.txt" (utf8 "x\n")

def sampleWorking : Root := Dict.empty.set "a.txt" (utf8 "y\n")

/-- The same change, and a new empty file. -/
def samplePackage : Root := sampleWorking.set "pkg/__init__.py" []

lemma differInEmptyFiles_sample : DifferInEmptyFiles sampleWorking samplePackage := by
  constructor
  · intro path
    have hfiles : fileBytesMap samplePackage =
        (fileBytesMap sampleWorking).set "pkg/__init__.py" [] := by decide +kernel
    rw [hfiles, contentOf, contentOf, Dict.get?_set]
    split
    · next hpath =>
      have hmissing : (fileBytesMap sampleWorking).get? "pkg/__init__.py" = none := by
        decide +kernel
      rw [← hpath, hmissing]
      rfl
    · rfl
  · intro hsame
    exact absurd (hsame "pkg/__init__.py") (by decide +kernel)

end Agintor.Repositories
