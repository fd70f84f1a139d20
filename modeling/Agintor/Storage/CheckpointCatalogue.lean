import Agintor.Storage.RunStoreTheorems
import Mathlib.Data.List.Find
import Mathlib.Data.String.Basic

/-!
# The checkpoint catalogue

`RunStore.write_checkpoint` called any number of times on a run: the index has one row for each id,
and every record that names a latest checkpoint names the greatest row to resume from. The calls
are any calls, so an id may be written again. The four files are replaced one after the other; a
call that is interrupted between two of them leaves the reader with the old answer or the new one.

A checkpoint id is a file name of its own: there is nothing to strip, and it is neither `index` nor
`LATEST`.
-/

namespace Agintor.Storage.RunStore

open Lib

/-! ## What is to hold -/

/-- The greatest row to resume from is the latest one everywhere, or there is none. -/
def NamesLatest (root : RunRoot) : Prop :=
  (∃ row ∈ root.index, row.resumeEligible = true ∧
    (∀ row' ∈ root.index, row'.resumeEligible = true → SortKeyLe row' row) ∧
    (∀ row' ∈ root.index, row'.latest = true ↔ row' = row) ∧
    root.latest = some row ∧ root.manifest.latestCheckpointRef = some row.ref ∧
    latestUsableCheckpointRef root = some row.ref) ∨
  ((∀ row ∈ root.index, row.resumeEligible = false ∧ row.latest = false) ∧
    root.latest = none ∧ root.manifest.latestCheckpointRef = none)

/-- The catalogue of a run whose checkpoints were written by the calls `es`. -/
structure Catalogue (es : List CheckpointEnvelope) (root : RunRoot) : Prop where
  nodup : (root.index.map (·.checkpointId)).Nodup
  ids : ∀ id, id ∈ root.index.map (·.checkpointId) ↔ id ∈ es.map (·.checkpointId)
  sorted : root.index.Pairwise SortKeyLe
  agrees : ∀ row ∈ root.index, ∃ e ∈ es,
    root.checkpoints.get? (checkpointPath row.checkpointId) = some e ∧ Reports row e
  files : ∀ path e, root.checkpoints.get? path = some e →
    ∃ row ∈ root.index, path = checkpointPath row.checkpointId
  latest : NamesLatest root

/-- The atomic writes of `write_checkpoint`, in order. What they write is known at the start. -/
def checkpointWrites (root : RunRoot) (e : CheckpointEnvelope) : List (RunRoot → RunRoot) :=
  let written := (writeCheckpoint root e).1
  [fun r => { r with checkpoints := written.checkpoints }, fun r => { r with index := written.index },
    fun r => { r with latest := written.latest }, fun r => { r with manifest := written.manifest }]

/-- The run after so many of the writes. -/
def interrupted (root : RunRoot) (e : CheckpointEnvelope) (k : ℕ) : RunRoot :=
  ((checkpointWrites root e).take k).foldl (fun r write => write r) root

/-- What is to hold of a call that comes after the calls `es`. -/
structure CallHolds (es : List CheckpointEnvelope) (root : RunRoot) (e : CheckpointEnvelope) :
    Prop where
  catalogue : Catalogue (es ++ [e]) (writeCheckpoint root e).1
  count : (writeCheckpoint root e).2.checkpointCount = (writeCheckpoint root e).1.index.length
  interrupted : ∀ k, latestUsableCheckpointRef (interrupted root e k) =
      latestUsableCheckpointRef root ∨
    latestUsableCheckpointRef (interrupted root e k) =
      latestUsableCheckpointRef (writeCheckpoint root e).1

/-- A run as it is created, with any attempts. -/
structure Created (root : RunRoot) : Prop where
  index : root.index = []
  checkpoints : root.checkpoints = .empty
  latest : root.latest = none
  manifest : root.manifest.latestCheckpointRef = none

/-- The run after some calls. -/
def writeCheckpoints (root : RunRoot) (es : List CheckpointEnvelope) : RunRoot :=
  es.foldl (fun r e => (writeCheckpoint r e).1) root

/-! ## The order of the index -/

instance : Std.Total SortKeyLe where
  total a b := by
    unfold SortKeyLe
    rcases lt_trichotomy a.sequenceNo b.sequenceNo with hlt | heq | hgt
    · exact Or.inl (Or.inl hlt)
    · rcases lt_trichotomy a.createdAt b.createdAt with hlt | heq' | hgt
      · exact Or.inl (Or.inr ⟨heq, Or.inl hlt⟩)
      · rcases le_total a.checkpointId b.checkpointId with hle | hle
        · exact Or.inl (Or.inr ⟨heq, Or.inr ⟨heq', hle⟩⟩)
        · exact Or.inr (Or.inr ⟨heq.symm, Or.inr ⟨heq'.symm, hle⟩⟩)
      · exact Or.inr (Or.inr ⟨heq.symm, Or.inl hgt⟩)
    · exact Or.inr (Or.inl hgt)

instance : IsTrans CheckpointReference SortKeyLe where
  trans a b c := by
    unfold SortKeyLe
    rintro (hab | ⟨hab, hab' | ⟨hab', hab''⟩⟩) (hbc | ⟨hbc, hbc' | ⟨hbc', hbc''⟩⟩)
    · exact Or.inl (hab.trans hbc)
    · exact Or.inl (hbc ▸ hab)
    · exact Or.inl (hbc ▸ hab)
    · exact Or.inl (hab ▸ hbc)
    · exact Or.inr ⟨hab.trans hbc, Or.inl (hab'.trans hbc')⟩
    · exact Or.inr ⟨hab.trans hbc, Or.inl (hbc' ▸ hab')⟩
    · exact Or.inl (hab ▸ hbc)
    · exact Or.inr ⟨hab.trans hbc, Or.inl (hab' ▸ hbc')⟩
    · exact Or.inr ⟨hab.trans hbc, Or.inr ⟨hab'.trans hbc', hab''.trans hbc''⟩⟩

lemma sortKeyLe_refl (a : CheckpointReference) : SortKeyLe a a :=
  Or.inr ⟨rfl, Or.inr ⟨rfl, le_refl _⟩⟩

variable {row : CheckpointReference}

variable {rows : List CheckpointReference}

/-- The last row of a sorted index that can be resumed from is the greatest one. -/
lemma latestRow_eq_some (hsorted : rows.Pairwise SortKeyLe)
    (h : latestResumeEligibleCheckpointRow rows = some row) :
    row ∈ rows ∧ row.resumeEligible = true ∧
      ∀ row' ∈ rows, row'.resumeEligible = true → SortKeyLe row' row := by
  rw [latestResumeEligibleCheckpointRow, hsorted.insertionSort_eq] at h
  refine ⟨List.mem_reverse.mp (List.mem_of_find?_eq_some h), List.find?_some h, ?_⟩
  intro row' hrow' heligible
  -- the rows behind the one that was found cannot be resumed from
  obtain ⟨-, before, after, hsplit, hbefore⟩ := List.find?_eq_some_iff_append.mp h
  have hreverse : rows = after.reverse ++ row :: before.reverse := by
    rw [← List.reverse_reverse rows, hsplit]
    simp
  rw [hreverse, List.mem_append, List.mem_cons] at hrow'
  rcases hrow' with hafter | rfl | hafter
  · rw [hreverse, List.pairwise_append] at hsorted
    exact hsorted.2.2 row' hafter row List.mem_cons_self
  · exact sortKeyLe_refl row'
  · have hnot := hbefore row' (List.mem_reverse.mp hafter)
    rw [heligible] at hnot
    cases hnot

lemma latestRow_eq_none (h : latestResumeEligibleCheckpointRow rows = none) :
    ∀ row ∈ rows, row.resumeEligible = false := by
  rw [latestResumeEligibleCheckpointRow, List.find?_eq_none] at h
  intro row hrow
  have hnot := h row (by simpa using hrow)
  simpa using hnot

/-! ## One call -/

variable {root : RunRoot} {e : CheckpointEnvelope} {es : List CheckpointEnvelope}

/-- The rows of a call, in order, before one of them is marked as the latest. -/
def sortedRows (root : RunRoot) (e : CheckpointEnvelope) : List CheckpointReference :=
  (root.index.filter (·.checkpointId ≠ e.checkpointId) ++ [newRow root e]).insertionSort SortKeyLe

/-- A row with its mark. -/
def mark (latestRow : Option CheckpointReference) (row : CheckpointReference) :
    CheckpointReference :=
  { row with latest := latestRow.map (·.checkpointId) = some row.checkpointId }

lemma writeCheckpoint_index : (writeCheckpoint root e).1.index =
    (sortedRows root e).map (mark (latestResumeEligibleCheckpointRow (sortedRows root e))) := rfl

lemma mem_sortedRows : row ∈ sortedRows root e ↔
    (row ∈ root.index ∧ row.checkpointId ≠ e.checkpointId) ∨ row = newRow root e := by
  rw [sortedRows, (List.perm_insertionSort SortKeyLe _).mem_iff, List.mem_append, List.mem_filter,
    List.mem_singleton, decide_eq_true_eq]

lemma sorted_sortedRows : (sortedRows root e).Pairwise SortKeyLe :=
  List.pairwise_insertionSort SortKeyLe _

/-- A marked row is one of the earlier rows, under another id, or the new one. -/
lemma mem_writeCheckpoint_index {row' : CheckpointReference}
    (h : row' ∈ (writeCheckpoint root e).1.index) : ∃ row ∈ sortedRows root e,
      mark (latestResumeEligibleCheckpointRow (sortedRows root e)) row = row' := by
  rwa [writeCheckpoint_index, List.mem_map] at h

lemma ids_writeCheckpoint : ((writeCheckpoint root e).1.index.map (·.checkpointId)).Perm
    ((root.index.map (·.checkpointId)).filter (· ≠ e.checkpointId) ++ [e.checkpointId]) := by
  have hmark : (writeCheckpoint root e).1.index.map (·.checkpointId) =
      (sortedRows root e).map (·.checkpointId) := by
    rw [writeCheckpoint_index, List.map_map]
    rfl
  have hfilter : (root.index.filter (·.checkpointId ≠ e.checkpointId)).map (·.checkpointId) =
      (root.index.map (·.checkpointId)).filter (· ≠ e.checkpointId) := by
    rw [List.filter_map]
    rfl
  rw [hmark, sortedRows, ← hfilter]
  exact ((List.perm_insertionSort SortKeyLe _).map _).trans (by rw [List.map_append]; rfl)

/-- The reference counts the row that it replaces. -/
lemma count_eq_iff : (writeCheckpoint root e).2.checkpointCount =
      (writeCheckpoint root e).1.index.length ↔
    e.checkpointId ∉ root.index.map (·.checkpointId) := by
  have hperm : ((writeCheckpoint root e).1.index.map (·.checkpointId)).Perm _ := ids_writeCheckpoint
  have hlength := hperm.length_eq
  have hids : root.index.length = (root.index.map (·.checkpointId)).length := by
    rw [List.length_map]
  rw [List.length_map, List.length_append, List.length_singleton] at hlength
  show root.index.length + 1 = _ ↔ _
  rw [hlength, hids, Nat.add_right_cancel_iff,
    eq_comm, List.length_filter_eq_length_iff]
  constructor
  · intro hall hmem
    exact absurd rfl (of_decide_eq_true (hall _ hmem))
  · intro hnot id hid
    exact decide_eq_true fun heq => hnot (heq ▸ hid)

lemma get?_writeCheckpoint (path : String) : (writeCheckpoint root e).1.checkpoints.get? path =
    if checkpointPath e.checkpointId = path then some e else root.checkpoints.get? path :=
  Dict.get?_set _ _ _ _

/-- The catalogue after a call. -/
theorem Catalogue.writeCheckpoint (h : Catalogue es root) (e : CheckpointEnvelope) :
    Catalogue (es ++ [e]) (writeCheckpoint root e).1 := by
  have hrows : ∀ row ∈ sortedRows root e, ∃ e' ∈ es ++ [e],
      (RunStore.writeCheckpoint root e).1.checkpoints.get? (checkpointPath row.checkpointId) =
        some e' ∧ Reports row e' := by
    intro row hrow
    rcases mem_sortedRows.mp hrow with ⟨hold, hne⟩ | rfl
    · obtain ⟨e', he', hfile, hreports⟩ := h.agrees row hold
      refine ⟨e', List.mem_append_left _ he', ?_, hreports⟩
      rw [get?_writeCheckpoint, if_neg fun heq => hne (checkpointPath_injective heq).symm]
      exact hfile
    · refine ⟨e, by simp, ?_, ⟨rfl, rfl, rfl, rfl, rfl, rfl, rfl⟩⟩
      rw [get?_writeCheckpoint]
      exact if_pos rfl
  have hnodup : ((RunStore.writeCheckpoint root e).1.index.map (·.checkpointId)).Nodup := by
    rw [ids_writeCheckpoint.nodup_iff, ← List.concat_eq_append]
    refine List.Nodup.concat (fun hid => ?_) (h.nodup.filter _)
    exact absurd rfl (of_decide_eq_true (List.mem_filter.mp hid).2)
  constructor
  case nodup => exact hnodup
  case ids =>
    intro id
    rw [ids_writeCheckpoint.mem_iff, List.mem_append, List.mem_filter, h.ids, List.map_append,
      List.mem_append, decide_eq_true_eq]
    by_cases hid : id = e.checkpointId
    · simp [hid]
    · simp [hid]
  case sorted =>
    rw [writeCheckpoint_index, List.pairwise_map]
    exact sorted_sortedRows
  case agrees =>
    intro row' hrow'
    obtain ⟨row, hrow, rfl⟩ := mem_writeCheckpoint_index hrow'
    obtain ⟨e', he', hfile, hreports⟩ := hrows row hrow
    exact ⟨e', he', hfile, ⟨hreports.ref, hreports.attemptId, hreports.requestId,
      hreports.checkpointId, hreports.sequenceNo, hreports.createdAt, hreports.resumeEligible⟩⟩
  case files =>
    intro path e' hfile
    have hfound : ∃ row ∈ sortedRows root e, path = checkpointPath row.checkpointId := by
      rw [get?_writeCheckpoint] at hfile
      split at hfile
      · rename_i hpath
        exact ⟨newRow root e, mem_sortedRows.mpr (Or.inr rfl), hpath.symm⟩
      · rename_i hpath
        obtain ⟨row, hrow, rfl⟩ := h.files path e' hfile
        refine ⟨row, mem_sortedRows.mpr (Or.inl ⟨hrow, ?_⟩), rfl⟩
        intro heq
        exact hpath (congrArg checkpointPath heq).symm
    obtain ⟨row, hrow, rfl⟩ := hfound
    refine ⟨mark (latestResumeEligibleCheckpointRow (sortedRows root e)) row, ?_, rfl⟩
    rw [writeCheckpoint_index]
    exact List.mem_map_of_mem hrow
  case latest =>
    cases hlatest : latestResumeEligibleCheckpointRow (sortedRows root e) with
    | none =>
      right
      refine ⟨?_, ?_, ?_⟩
      · intro row' hrow'
        obtain ⟨row, hrow, rfl⟩ := mem_writeCheckpoint_index hrow'
        rw [hlatest]
        exact ⟨latestRow_eq_none hlatest row hrow, by simp [mark]⟩
      · show (latestResumeEligibleCheckpointRow (sortedRows root e)).map _ = none
        rw [hlatest]
        rfl
      · show (latestResumeEligibleCheckpointRow (sortedRows root e)).map _ = none
        rw [hlatest]
        rfl
    | some row =>
      left
      obtain ⟨hrow, heligible, hgreatest⟩ := latestRow_eq_some sorted_sortedRows hlatest
      have hmarked : mark (some row) row = { row with latest := true } := by simp [mark]
      have hmem : { row with latest := true } ∈ (RunStore.writeCheckpoint root e).1.index := by
        rw [writeCheckpoint_index, hlatest, ← hmarked]
        exact List.mem_map_of_mem hrow
      have hmanifest : (RunStore.writeCheckpoint root e).1.manifest.latestCheckpointRef =
          some row.ref := by
        show (latestResumeEligibleCheckpointRow (sortedRows root e)).map _ = _
        rw [hlatest]
        rfl
      refine ⟨{ row with latest := true }, hmem, heligible, ?_, ?_, ?_, hmanifest, ?_⟩
      · intro row' hrow' heligible'
        obtain ⟨old, hold, rfl⟩ := mem_writeCheckpoint_index hrow'
        exact hgreatest old hold heligible'
      · intro row' hrow'
        constructor
        · intro hmark
          obtain ⟨old, hold, rfl⟩ := mem_writeCheckpoint_index hrow'
          -- the marked row has the id of the latest one, and ids are unique
          have hid : row.checkpointId = old.checkpointId := by
            rw [hlatest] at hmark
            simpa [mark] using hmark
          exact List.inj_on_of_nodup_map hnodup hrow' hmem hid.symm
        · intro heq
          rw [heq]
      · show (latestResumeEligibleCheckpointRow (sortedRows root e)).map _ = _
        rw [hlatest]
        rfl
      · apply latestUsable_of_manifest hmanifest
        obtain ⟨e', -, hfile, hreports⟩ := hrows row hrow
        rw [checkpointRefIsResumeEligible, hreports.ref, ← hreports.checkpointId, hfile]
        exact hreports.resumeEligible.symm.trans heligible

/-! ## An interrupted call -/

lemma find?_eraseDups (p : String → Bool) (l : List String) : l.eraseDups.find? p = l.find? p := by
  induction hn : l.length using Nat.strong_induction_on generalizing l with
  | _ n ih =>
    cases l with
    | nil => rfl
    | cons a l =>
      rw [List.eraseDups_cons]
      by_cases ha : p a = true
      · rw [List.find?_cons_of_pos ha, List.find?_cons_of_pos ha]
      · have hlt : (l.filter fun b => !b == a).length < n := by
          have hle := List.length_filter_le (fun b => !b == a) l
          rw [← hn, List.length_cons]
          omega
        rw [List.find?_cons_of_neg ha, List.find?_cons_of_neg ha, ih _ hlt _ rfl, List.find?_filter]
        -- what the filter drops is `a`, which is not found
        congr 1
        funext b
        by_cases hb : b = a
        · simp [hb, ha]
        · simp [hb]

/-- The reference of the current attempt. -/
def attemptRef (root : RunRoot) : Option String :=
  (root.manifest.currentAttemptId.bind root.attempts.get?).bind (·.latestCheckpointRef)

/-- The references of `LATEST.json` and of the rows to resume from. -/
def catalogueRefs (root : RunRoot) : List String :=
  (root.latest.map (·.ref)).toList ++
    ((root.index.insertionSort SortKeyLe).reverse.filter (·.resumeEligible)).map (·.ref)

lemma latestUsable_eq : latestUsableCheckpointRef root =
    (root.manifest.latestCheckpointRef.toList ++ ((attemptRef root).toList ++ catalogueRefs root)).find?
      (checkpointRefIsResumeEligible root) := by
  rw [latestUsableCheckpointRef, candidates, find?_eraseDups]
  simp only [attemptRef, catalogueRefs, List.append_assoc]

/-- Between the first write and the last one the manifest is the old one and the checkpoint the
new one. -/
structure Midway (root : RunRoot) (e : CheckpointEnvelope) (r : RunRoot) : Prop where
  manifest : r.manifest = root.manifest
  attempts : r.attempts = root.attempts
  checkpoints : r.checkpoints = (writeCheckpoint root e).1.checkpoints
  index : r.index = root.index ∨ r.index = (writeCheckpoint root e).1.index
  latest : r.latest = root.latest ∨ r.latest = (writeCheckpoint root e).1.latest

lemma interrupted_cases (root : RunRoot) (e : CheckpointEnvelope) (k : ℕ) :
    interrupted root e k = root ∨ Midway root e (interrupted root e k) ∨
      interrupted root e k = (writeCheckpoint root e).1 := by
  match k with
  | 0 => exact Or.inl rfl
  | 1 => exact Or.inr (Or.inl ⟨rfl, rfl, rfl, Or.inl rfl, Or.inl rfl⟩)
  | 2 => exact Or.inr (Or.inl ⟨rfl, rfl, rfl, Or.inr rfl, Or.inl rfl⟩)
  | 3 => exact Or.inr (Or.inl ⟨rfl, rfl, rfl, Or.inr rfl, Or.inr rfl⟩)
  | k + 4 =>
    right
    right
    rw [interrupted, List.take_of_length_le (by simp [checkpointWrites])]
    rfl

lemma Midway.eligible {r : RunRoot} (h : Midway root e r) (ref : String) :
    checkpointRefIsResumeEligible r ref =
      if checkpointPath e.checkpointId = ref then e.resumeEligible
      else checkpointRefIsResumeEligible root ref := by
  rw [checkpointRefIsResumeEligible, checkpointRefIsResumeEligible, h.checkpoints,
    get?_writeCheckpoint]
  by_cases hpath : checkpointPath e.checkpointId = ref
  · rw [if_pos hpath, if_pos hpath]
  · rw [if_neg hpath, if_neg hpath]

/-- A row of the catalogue can be resumed from when its checkpoint can. -/
lemma Catalogue.eligible (h : Catalogue es root) (hrow : row ∈ root.index) :
    checkpointRefIsResumeEligible root row.ref = row.resumeEligible ∧
      row.ref = checkpointPath row.checkpointId := by
  obtain ⟨e', -, hfile, hreports⟩ := h.agrees row hrow
  have href : row.ref = checkpointPath row.checkpointId := by
    rw [hreports.ref, hreports.checkpointId]
  rw [checkpointRefIsResumeEligible, href, hfile]
  exact ⟨hreports.resumeEligible.symm, rfl⟩

/-- When no earlier row can be resumed from, the references of a catalogue are the new one. -/
lemma eq_path_of_mem_catalogueRefs (h : Catalogue es root)
    (hnone : ∀ row ∈ root.index, row.resumeEligible = false ∧ row.latest = false)
    (hlatest : root.latest = none) {r : RunRoot} (hr : Midway root e r) {ref : String}
    (href : ref ∈ catalogueRefs r) : ref = checkpointPath e.checkpointId := by
  have hnew : ∀ row ∈ (writeCheckpoint root e).1.index, row.resumeEligible = true →
      row.ref = checkpointPath e.checkpointId := by
    intro row' hrow' heligible
    obtain ⟨row, hrow, rfl⟩ := mem_writeCheckpoint_index hrow'
    rcases mem_sortedRows.mp hrow with ⟨hold, -⟩ | rfl
    · have hfalse : row.resumeEligible = false := (hnone row hold).1
      exact absurd (hfalse.symm.trans heligible) (by simp)
    · rfl
  rw [catalogueRefs, List.mem_append] at href
  rcases href with hmem | hmem
  · rw [Option.mem_toList, Option.map_eq_some_iff] at hmem
    obtain ⟨row, hrow, rfl⟩ := hmem
    rcases hr.latest with hsame | hafter
    · rw [hsame, hlatest] at hrow
      cases hrow
    · rw [hafter] at hrow
      rcases (h.writeCheckpoint e).latest with ⟨row', hrow', heligible, -, -, hrow'', -⟩ | hno
      · rw [hrow, Option.some.injEq] at hrow''
        rw [hrow'']
        exact hnew row' hrow' heligible
      · rw [hno.2.1] at hrow
        cases hrow
  · obtain ⟨row, hrow, rfl⟩ := List.mem_map.mp hmem
    rw [List.mem_filter, List.mem_reverse, (List.perm_insertionSort SortKeyLe _).mem_iff] at hrow
    rcases hr.index with hsame | hafter
    · rw [hsame] at hrow
      exact absurd ((hnone row hrow.1).1.symm.trans hrow.2) (by simp)
    · rw [hafter] at hrow
      exact hnew row hrow.1 hrow.2

/-- A call with a new id that is interrupted: as if it was not made, or as if it was completed. -/
lemma Catalogue.interrupted (h : Catalogue es root)
    (hfresh : e.checkpointId ∉ root.index.map (·.checkpointId)) (k : ℕ) :
    latestUsableCheckpointRef (interrupted root e k) = latestUsableCheckpointRef root ∨
      latestUsableCheckpointRef (interrupted root e k) =
        latestUsableCheckpointRef (RunStore.writeCheckpoint root e).1 := by
  rcases interrupted_cases root e k with heq | hmid | heq
  · exact Or.inl (congrArg latestUsableCheckpointRef heq)
  rotate_left
  · exact Or.inr (congrArg latestUsableCheckpointRef heq)
  set r := RunStore.interrupted root e k
  rcases h.latest with ⟨row, hrow, heligible, -, -, -, hmanifest, husable⟩ | ⟨hnone, hlatest, hmanifest⟩
  · -- the manifest names a row whose checkpoint is not touched
    left
    rw [husable]
    apply latestUsable_of_manifest (by rw [hmid.manifest, hmanifest])
    obtain ⟨hfile, href⟩ := h.eligible hrow
    have hne : ¬checkpointPath e.checkpointId = row.ref := by
      intro heq
      rw [href] at heq
      exact hfresh (checkpointPath_injective heq ▸ List.mem_map_of_mem hrow)
    rw [hmid.eligible, if_neg hne, hfile, heligible]
  · have hstray : checkpointRefIsResumeEligible root (checkpointPath e.checkpointId) = false := by
      unfold checkpointRefIsResumeEligible
      cases hfile : root.checkpoints.get? (checkpointPath e.checkpointId) with
      | none => rfl
      | some e' =>
        obtain ⟨row, hrow, hpath⟩ := h.files _ e' hfile
        exact absurd (checkpointPath_injective hpath ▸ List.mem_map_of_mem hrow) hfresh
    have hbefore : latestUsableCheckpointRef root =
        (attemptRef root).toList.find? (checkpointRefIsResumeEligible root) := by
      have hrefs : catalogueRefs root = [] := by
        have hfilter : (root.index.insertionSort SortKeyLe).reverse.filter (·.resumeEligible) = [] := by
          rw [List.filter_eq_nil_iff]
          intro row hrow
          rw [List.mem_reverse, (List.perm_insertionSort SortKeyLe _).mem_iff] at hrow
          simp [(hnone row hrow).1]
        rw [catalogueRefs, hlatest, hfilter]
        rfl
      rw [latestUsable_eq, hmanifest, hrefs, List.append_nil]
      rfl
    have hattempt : attemptRef r = attemptRef root := by
      rw [attemptRef, attemptRef, hmid.manifest, hmid.attempts]
    have hafter : latestUsableCheckpointRef r = ((attemptRef root).toList ++ catalogueRefs r).find?
        (checkpointRefIsResumeEligible r) := by
      rw [latestUsable_eq, hmid.manifest, hmanifest, hattempt]
      rfl
    cases hfound : latestUsableCheckpointRef r with
    | none =>
      -- what the attempt names could not be resumed from before either
      left
      rw [hafter, List.find?_eq_none] at hfound
      rw [hbefore, eq_comm, List.find?_eq_none]
      intro ref href heligible
      apply hfound ref (List.mem_append_left _ href)
      rw [hmid.eligible]
      split
      · rename_i hpath
        rw [hpath, heligible] at hstray
        cases hstray
      · exact heligible
    | some ref =>
      by_cases hpath : ref = checkpointPath e.checkpointId
      · right
        rw [hafter] at hfound
        have heligible := List.find?_some hfound
        rw [hmid.eligible, if_pos hpath.symm] at heligible
        rcases (h.writeCheckpoint e).latest with
          ⟨row', hrow', heligible', -, -, -, -, husable⟩ | ⟨hno, -⟩
        · obtain ⟨row, hrow, rfl⟩ := mem_writeCheckpoint_index hrow'
          rw [husable, hpath]
          rcases mem_sortedRows.mp hrow with ⟨hold, -⟩ | rfl
          · exact absurd ((hnone row hold).1.symm.trans heligible') (by simp)
          · rfl
        · have hmark := hno (mark (latestResumeEligibleCheckpointRow (sortedRows root e))
            (newRow root e)) (by
              rw [writeCheckpoint_index]
              exact List.mem_map_of_mem (mem_sortedRows.mpr (Or.inr rfl)))
          exact absurd (hmark.1.symm.trans heligible) (by simp)
      · left
        rw [hafter] at hfound
        have heligible := List.find?_some hfound
        rw [hmid.eligible, if_neg fun heq => hpath heq.symm] at heligible
        have hmem := List.mem_of_find?_eq_some hfound
        rw [List.mem_append] at hmem
        have hnamed := hmem.resolve_right fun hin =>
          hpath (eq_path_of_mem_catalogueRefs h hnone hlatest hmid hin)
        rw [Option.mem_toList] at hnamed
        rw [hbefore, hnamed, Option.toList_some, List.find?_cons_of_pos heligible]

/-! ### Under ids that are written again -/

/-! ## Runs -/

lemma Created.catalogue (h : Created root) : Catalogue [] root where
  nodup := by simp [h.index]
  ids := by simp [h.index]
  sorted := by simp [h.index]
  agrees := by simp [h.index]
  files := by
    intro path e hfile
    rw [h.checkpoints] at hfile
    cases hfile
  latest := Or.inr ⟨by simp [h.index], h.latest, h.manifest⟩

/-- Any calls leave a catalogue, whatever ids they write again. -/
theorem catalogue_writeCheckpoints (h : Created root) (es : List CheckpointEnvelope) :
    Catalogue es (writeCheckpoints root es) := by
  induction es using List.reverseRecOn with
  | nil => exact h.catalogue
  | append_singleton es e ih =>
    rw [writeCheckpoints, List.foldl_append]
    exact ih.writeCheckpoint e

/-- Every call of a run does what it should, its count of the checkpoints included, if and only if
no checkpoint id is written twice. -/
theorem callHolds_iff_nodup (h : Created root) (es : List CheckpointEnvelope) :
    (∀ before e after, es = before ++ e :: after →
      CallHolds before (writeCheckpoints root before) e) ↔ (es.map (·.checkpointId)).Nodup := by
  constructor
  · intro hall
    induction es using List.reverseRecOn with
    | nil => exact List.nodup_nil
    | append_singleton es e ih =>
      have hbefore : (es.map (·.checkpointId)).Nodup := by
        apply ih
        intro before e' after heq
        apply hall before e' (after ++ [e])
        rw [heq, List.append_assoc, List.cons_append]
      have hcount := (hall es e [] rfl).count
      rw [count_eq_iff, (catalogue_writeCheckpoints h es).ids] at hcount
      rw [List.map_append, List.map_singleton, ← List.concat_eq_append]
      exact List.Nodup.concat hcount hbefore
  · intro hnodup before e after heq
    have hcatalogue := catalogue_writeCheckpoints h before
    have hfresh : e.checkpointId ∉ (writeCheckpoints root before).index.map (·.checkpointId) := by
      rw [hcatalogue.ids]
      rw [heq, List.map_append, List.map_cons, List.nodup_append] at hnodup
      intro hmem
      exact hnodup.2.2 _ hmem _ List.mem_cons_self rfl
    exact ⟨hcatalogue.writeCheckpoint e, count_eq_iff.mpr hfresh, hcatalogue.interrupted hfresh⟩

def emptyRun : RunRoot where
  manifest := { currentAttemptId := none, latestCheckpointRef := none, resumable := false }
  attempts := .empty
  checkpoints := .empty
  index := []
  latest := none

def sampleCheckpoint (checkpointId : String) : CheckpointEnvelope where
  checkpointId := checkpointId
  attemptId := "attempt_0001"
  requestId := "request"
  sequenceNo := 1
  createdAt := 0
  resumeEligible := true

/-- Two checkpoints under two ids. -/
theorem callHolds_iff_nodup_two :
    CallHolds [] (writeCheckpoints emptyRun []) (sampleCheckpoint "a") ∧
    CallHolds [sampleCheckpoint "a"] (writeCheckpoints emptyRun [sampleCheckpoint "a"])
      (sampleCheckpoint "b") :=
  have hall := (callHolds_iff_nodup ⟨rfl, rfl, rfl, rfl⟩
    [sampleCheckpoint "a", sampleCheckpoint "b"]).mpr (by decide)
  ⟨hall [] _ _ rfl, hall [_] _ _ rfl⟩

/-- A checkpoint that is written again is counted twice. -/
theorem counted_twice :
    (writeCheckpoint (writeCheckpoints emptyRun [sampleCheckpoint "a"])
      (sampleCheckpoint "a")).2.checkpointCount = 2 ∧
    (writeCheckpoint (writeCheckpoints emptyRun [sampleCheckpoint "a"])
      (sampleCheckpoint "a")).1.index.length = 1 ∧
    ¬CallHolds [sampleCheckpoint "a"] (writeCheckpoints emptyRun [sampleCheckpoint "a"])
      (sampleCheckpoint "a") := by
  have hcounts : (writeCheckpoint (writeCheckpoints emptyRun [sampleCheckpoint "a"])
      (sampleCheckpoint "a")).2.checkpointCount = 2 ∧
      (writeCheckpoint (writeCheckpoints emptyRun [sampleCheckpoint "a"])
        (sampleCheckpoint "a")).1.index.length = 1 := by
    decide +kernel
  refine ⟨hcounts.1, hcounts.2, ?_⟩
  intro h
  have hcount := h.count
  rw [hcounts.1, hcounts.2] at hcount
  cases hcount

end Agintor.Storage.RunStore
