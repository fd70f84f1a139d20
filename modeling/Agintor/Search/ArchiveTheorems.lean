import Agintor.Search.Archive
import Mathlib.Tactic.Linarith

/-!
# Islands and elites

The cells and the islands of the archive hold the same records. An elite gives way to a worse
score only at a near tie with smaller code, so that near ties in a row may take the score of a
cell further down than one of them does.
-/

namespace Agintor.Search

open Lib

variable {K : Type} [DecidableEq K]

/-! ## The two indexes -/

/-- The records of the cells of an objective. -/
def ArchiveStore.cellsOf (store : ArchiveStore K) (objective : String) : List (ArchiveRecord K) :=
  (store.cells.entries.filter (·.1.1 = objective)).map (·.2)

namespace ArchiveStore

/-- A record lies in its own cell, and the islands list the cells. -/
structure Indexed (store : ArchiveStore K) : Prop where
  placed : ∀ {cell record}, store.cells.get? cell = some record →
    (record.objective, record.key) = cell
  islands : ∀ objective, (store.byObjective objective).Perm (store.cellsOf objective)

lemma indexed_empty : (empty : ArchiveStore K).Indexed where
  placed h := by simp [empty] at h
  islands _ := .nil

variable {store : ArchiveStore K} {record : ArchiveRecord K}

lemma Indexed.key_eq (h : store.Indexed) {entry : (String × K) × ArchiveRecord K}
    (hentry : entry ∈ store.cells.entries) : (entry.2.objective, entry.2.key) = entry.1 :=
  h.placed (Dict.get?_eq_some_iff.mpr hentry)

/-- No two records of an island have one key. -/
lemma Indexed.nodup (h : store.Indexed) (objective : String) :
    ((store.byObjective objective).map (·.key)).Nodup := by
  rw [((h.islands objective).map _).nodup_iff]
  unfold cellsOf
  rw [List.map_map]
  apply List.Nodup.map_on
  · intro a ha b hb hkey
    obtain ⟨hamem, haobj⟩ := List.mem_filter.mp ha
    obtain ⟨hbmem, hbobj⟩ := List.mem_filter.mp hb
    have hcell : a.1 = b.1 := by
      apply Prod.ext
      · exact (of_decide_eq_true haobj).trans (of_decide_eq_true hbobj).symm
      · have hakey := congrArg Prod.snd (h.key_eq hamem)
        have hbkey := congrArg Prod.snd (h.key_eq hbmem)
        exact hakey.symm.trans (Eq.trans hkey hbkey)
    have haget := Dict.get?_eq_some_iff.mpr hamem
    have hbget := Dict.get?_eq_some_iff.mpr hbmem
    rw [hcell, hbget] at haget
    exact Prod.ext hcell (Option.some_injective _ haget).symm
  · exact store.cells.nodup_entries.filter _

/-- The cells of the record's objective, when it takes its place. -/
lemma cellsOf_replace_self (h : store.Indexed) :
    ((store.replace record).cellsOf record.objective).Perm
      ((store.cellsOf record.objective).filter (·.key ≠ record.key) ++ [record]) := by
  have hset := store.cells.entries_set_perm (record.objective, record.key) record
  have hcells := (hset.filter fun e => e.1.1 = record.objective).map Prod.snd
  have herased : ((store.cells.erase (record.objective, record.key)).entries.filter
      fun e => e.1.1 = record.objective).map Prod.snd =
        (store.cellsOf record.objective).filter (·.key ≠ record.key) := by
    show ((store.cells.entries.filter _).filter _).map _ =
      ((store.cells.entries.filter _).map _).filter _
    rw [List.filter_map, List.filter_filter, List.filter_filter]
    apply congrArg (List.map Prod.snd)
    apply List.filter_congr
    intro e he
    have hkey := h.key_eq he
    rw [← hkey]
    simp only [Function.comp_apply, ne_eq, Prod.mk.injEq, decide_not]
    by_cases hobj : e.2.objective = record.objective <;> simp [hobj]
  rw [List.filter_append, List.map_append, herased] at hcells
  simpa [cellsOf, replace] using hcells

/-- The cells of another objective. -/
lemma cellsOf_replace_of_ne {objective : String} (hne : objective ≠ record.objective) :
    ((store.replace record).cellsOf objective).Perm (store.cellsOf objective) := by
  have hset := store.cells.entries_set_perm (record.objective, record.key) record
  have hcells := (hset.filter fun e => e.1.1 = objective).map Prod.snd
  have herased : (store.cells.erase (record.objective, record.key)).entries.filter
      (fun e => e.1.1 = objective) = store.cells.entries.filter fun e => e.1.1 = objective := by
    show (store.cells.entries.filter _).filter _ = _
    rw [List.filter_filter]
    apply List.filter_congr
    intro e he
    by_cases hobj : e.1.1 = objective
    · have hcell : e.1 ≠ (record.objective, record.key) := by
        intro heq
        exact hne (hobj.symm.trans (congrArg Prod.fst heq))
      simp [hobj, hcell]
    · simp [hobj]
  rw [List.filter_append, List.map_append, herased] at hcells
  simpa [cellsOf, replace, Ne.symm hne] using hcells

lemma Indexed.replace (h : store.Indexed) (record : ArchiveRecord K) :
    (store.replace record).Indexed where
  placed {cell stored} hget := by
    rw [ArchiveStore.replace, Dict.get?_set] at hget
    by_cases hcell : (record.objective, record.key) = cell
    · rw [if_pos hcell] at hget
      rw [← Option.some_injective _ hget]
      exact hcell
    · rw [if_neg hcell] at hget
      exact h.placed hget
  islands objective := by
    by_cases hobj : objective = record.objective
    · subst hobj
      show (Function.update store.byObjective record.objective _ record.objective).Perm _
      rw [Function.update_self]
      exact (((h.islands _).filter _).append_right _).trans (cellsOf_replace_self h).symm
    · show (Function.update store.byObjective record.objective _ objective).Perm _
      rw [Function.update_of_ne hobj]
      exact (h.islands objective).trans (cellsOf_replace_of_ne hobj).symm

/-- A first record replaces nothing. -/
lemma Indexed.add_eq_replace (h : store.Indexed)
    (hnone : store.cells.get? (record.objective, record.key) = none) :
    store.add record = store.replace record := by
  have hisland : (store.byObjective record.objective).filter (·.key ≠ record.key) =
      store.byObjective record.objective := by
    rw [List.filter_eq_self]
    intro stored hstored
    obtain ⟨entry, hentry, rfl⟩ := List.mem_map.mp ((h.islands _).mem_iff.mp hstored)
    obtain ⟨hmem, hobj⟩ := List.mem_filter.mp hentry
    apply decide_eq_true
    intro hkey
    have hcell : entry.1 = (record.objective, record.key) := by
      rw [← h.key_eq hmem, hkey]
      exact congrArg (·, record.key) ((congrArg Prod.fst (h.key_eq hmem)).trans
        (of_decide_eq_true hobj))
    rw [← hcell, Dict.get?_eq_none_iff] at hnone
    exact hnone (Dict.mem_keys_of_mem hmem)
  unfold add ArchiveStore.replace
  rw [hisland]

/-- A round leaves the store as it is, or stores the record in the place of an incumbent that it
may replace. -/
lemma Indexed.offer_cases (h : store.Indexed) (deltaF score : ℚ) (record : ArchiveRecord K) :
    store.offer deltaF record score = (store, false) ∨
      store.offer deltaF record score = (store.replace record, true) ∧
        ∀ incumbent ∈ store.cells.get? (record.objective, record.key),
          Replaces deltaF record.objective score record.entry.mutableLoc incumbent := by
  unfold offer
  cases hget : store.cells.get? (record.objective, record.key) with
  | none =>
    right
    refine ⟨?_, fun incumbent hincumbent => by simp at hincumbent⟩
    show (store.add record, true) = _
    rw [h.add_eq_replace hget]
  | some incumbent =>
    show (if Replaces deltaF record.objective score record.entry.mutableLoc incumbent then _
      else _) = _ ∨ (if Replaces deltaF record.objective score record.entry.mutableLoc incumbent
        then _ else _) = _ ∧ _
    by_cases hreplaces : Replaces deltaF record.objective score record.entry.mutableLoc incumbent
    · right
      rw [if_pos hreplaces]
      refine ⟨rfl, ?_⟩
      intro other hother
      rw [← Option.mem_some_iff.mp hother]
      exact hreplaces
    · left
      rw [if_neg hreplaces]

lemma Indexed.offer (h : store.Indexed) (deltaF score : ℚ) (record : ArchiveRecord K) :
    (store.offer deltaF record score).1.Indexed := by
  rcases h.offer_cases deltaF score record with hkeep | ⟨hstored, _⟩
  · rw [hkeep]
    exact h
  · rw [hstored]
    exact h.replace record

end ArchiveStore

/-! ## One call -/

section Call

variable (stableHash : CellIdentity → K) {call : Insertion} {deltaF : ℚ}
  {kind : ArchiveKind} {descriptor : RuntimeDescriptor} {cell : String × K}

variable {store : ArchiveStore K}

lemma indexed_offerAll (h : store.Indexed) (inserted objectives) :
    (call.offerAll stableHash deltaF kind descriptor store inserted objectives).1.Indexed := by
  induction objectives generalizing store inserted with
  | nil => exact h
  | cons objective objectives ih => exact ih (h.offer _ _ _) _

/-- What a call puts into a cell. -/
structure Replacement (deltaF : ℚ) (call : Insertion) (kind : ArchiveKind)
    (descriptor : RuntimeDescriptor) (cell : String × K) (before : Option (ArchiveRecord K))
    (record : ArchiveRecord K) : Prop where
  offered : record = call.record stableHash kind descriptor cell.1
  placed : (record.objective, record.key) = cell
  replaces : ∀ incumbent ∈ before, Replaces deltaF cell.1
    (call.promotionScore kind cell.1) call.mutableLoc incumbent

lemma offer_cell (h : store.Indexed) (objective : String) :
    let record := call.record stableHash kind descriptor objective
    let after := (store.offer deltaF record (call.promotionScore kind objective)).1
    after.cells.get? cell = store.cells.get? cell ∨
      after.cells.get? cell = some record ∧
        Replacement stableHash deltaF call kind descriptor cell (store.cells.get? cell) record := by
  intro record after
  rcases h.offer_cases deltaF (call.promotionScore kind objective) record with
    hkeep | ⟨hstored, hreplaces⟩
  · left
    show (store.offer deltaF record _).1.cells.get? cell = _
    rw [hkeep]
  · have hafter : after = store.replace record := congrArg Prod.fst hstored
    have hget : after.cells.get? cell =
        if (objective, record.key) = cell then some record else store.cells.get? cell := by
      rw [hafter]
      exact Dict.get?_set _ _ _ _
    by_cases hcell : (objective, record.key) = cell
    · right
      rw [if_pos hcell] at hget
      subst hcell
      exact ⟨hget, rfl, rfl, hreplaces⟩
    · left
      rw [if_neg hcell] at hget
      exact hget

/-- All the rounds of a call change a cell once at most: a second record for the cell would be
the first one again. -/
lemma offerAll_cell (h : store.Indexed) (inserted objectives) :
    let after := (call.offerAll stableHash deltaF kind descriptor store inserted objectives).1
    after.cells.get? cell = store.cells.get? cell ∨
      ∃ record, after.cells.get? cell = some record ∧
        Replacement stableHash deltaF call kind descriptor cell (store.cells.get? cell) record := by
  induction objectives generalizing store inserted with
  | nil => exact Or.inl rfl
  | cons objective objectives ih =>
    have hfirst : (store.offer deltaF (call.record stableHash kind descriptor objective)
        (call.promotionScore kind objective)).1.cells.get? cell = store.cells.get? cell ∨ _ :=
      offer_cell stableHash h objective
    have hlater := ih (h.offer deltaF (call.promotionScore kind objective)
      (call.record stableHash kind descriptor objective))
      (if (store.offer deltaF (call.record stableHash kind descriptor objective)
        (call.promotionScore kind objective)).2 then
        inserted ++ [(call.record stableHash kind descriptor objective).key] else inserted)
    intro after
    rcases hfirst with hkeep | ⟨hstored, hreplacement⟩
    · rw [hkeep] at hlater
      exact hlater
    · right
      rcases hlater with hsame | ⟨record, hrecord, hagain⟩
      · exact ⟨_, hsame.trans hstored, hreplacement⟩
      · refine ⟨_, ?_, hreplacement⟩
        rw [hreplacement.offered, ← hagain.offered]
        exact hrecord

end Call

/-! ## The archive -/

namespace QualityDiversityArchive

/-- The islands of every kind list its cells. -/
def Indexed (archive : QualityDiversityArchive K) : Prop :=
  ∀ kind, (archive.stores kind).Indexed

/-- The score of the record in a cell. -/
def eliteScore (archive : QualityDiversityArchive K) (kind : ArchiveKind)
    (cell : String × K) : Option ℚ :=
  ((archive.stores kind).cells.get? cell).bind (·.entry.promotionScore)

section Runs

variable (stableHash : CellIdentity → K)

/-- The call takes the cell to a lower score. -/
def Lowers (archive : QualityDiversityArchive K) (call : Insertion) (kind : ArchiveKind)
    (cell : String × K) : Prop :=
  ∃ score ∈ archive.eliteScore kind cell,
    ∃ lower ∈ (archive.afterInsert stableHash call).eliteScore kind cell, lower < score

instance (archive : QualityDiversityArchive K) (call : Insertion) (kind : ArchiveKind)
    (cell : String × K) : Decidable (archive.Lowers stableHash call kind cell) :=
  inferInstanceAs (Decidable (∃ _ ∈ _, ∃ _ ∈ _, _))

/-- How many of the calls take the cell to a lower score. -/
def lowerings (kind : ArchiveKind) (cell : String × K) :
    QualityDiversityArchive K → List Insertion → ℕ
  | _, [] => 0
  | archive, call :: calls =>
    (if archive.Lowers stableHash call kind cell then 1 else 0) +
      lowerings kind cell (archive.afterInsert stableHash call) calls

variable {stableHash} {archive : QualityDiversityArchive K}

/-- What a call does to the stores. -/
lemma stores_afterInsert (archive : QualityDiversityArchive K) (call : Insertion) :
    (archive.afterInsert stableHash call).deltaF = archive.deltaF ∧
      ((archive.afterInsert stableHash call).stores = archive.stores ∨
        ∃ kind descriptor, (archive.afterInsert stableHash call).stores =
          Function.update archive.stores kind (call.offerAll stableHash archive.deltaF kind
            descriptor (archive.stores kind) [] call.targetObjectives).1) := by
  unfold afterInsert insert
  cases ArchiveKind.ofText? call.archiveKind with
  | none => exact ⟨rfl, Or.inl rfl⟩
  | some kind =>
    dsimp only
    refine ⟨?_, Or.inr ⟨kind, call.descriptor
      (archive.runtimeDescriptors.values.map (·.mutableAstNodes)), ?_⟩⟩
    · split <;> rfl
    · split <;> rfl

lemma Indexed.afterInsert (h : archive.Indexed) (call : Insertion) :
    (archive.afterInsert stableHash call).Indexed := by
  rcases (stores_afterInsert archive call).2 with hkeep | ⟨kind, descriptor, hstores⟩
  · intro other
    rw [hkeep]
    exact h other
  · intro other
    rw [hstores]
    by_cases hkind : other = kind
    · subst hkind
      rw [Function.update_self]
      exact indexed_offerAll stableHash (h other) _ _
    · rw [Function.update_of_ne hkind]
      exact h other

lemma Indexed.insertAll (h : archive.Indexed) (calls : List Insertion) :
    (archive.insertAll stableHash calls).Indexed := by
  induction calls generalizing archive with
  | nil => exact h
  | cons call calls ih => exact ih (h.afterInsert call)

lemma indexed_init (deltaF : ℚ) : (init deltaF : QualityDiversityArchive K).Indexed :=
  fun _ => ArchiveStore.indexed_empty

lemma deltaF_insertAll (archive : QualityDiversityArchive K) (calls : List Insertion) :
    (archive.insertAll stableHash calls).deltaF = archive.deltaF := by
  induction calls generalizing archive with
  | nil => rfl
  | cons call calls ih => exact (ih _).trans (stores_afterInsert archive call).1

/-- A call leaves a cell as it is, or offers it a record that may replace the incumbent. -/
lemma cell_afterInsert (stableHash : CellIdentity → K) (h : archive.Indexed) (call : Insertion)
    (kind : ArchiveKind) (cell : String × K) :
    ((archive.afterInsert stableHash call).stores kind).cells.get? cell =
        (archive.stores kind).cells.get? cell ∨
      ∃ record descriptor,
        ((archive.afterInsert stableHash call).stores kind).cells.get? cell = some record ∧
          Replacement stableHash archive.deltaF call kind descriptor cell
            ((archive.stores kind).cells.get? cell) record := by
  rcases (stores_afterInsert archive call).2 with hkeep | ⟨stored, descriptor, hstores⟩
  · left
    rw [hkeep]
  · rw [hstores]
    by_cases hkind : kind = stored
    · subst hkind
      rw [Function.update_self]
      rcases offerAll_cell stableHash (h kind) [] call.targetObjectives with
        hsame | ⟨record, hrecord⟩
      · exact Or.inl hsame
      · exact Or.inr ⟨record, descriptor, hrecord⟩
    · left
      rw [Function.update_of_ne hkind]

variable {kind : ArchiveKind} {cell : String × K}

omit [DecidableEq K] in
/-- A call that changes the score of a cell lowers it by no more than a near tie, and then with
smaller code. -/
lemma score_of_replacement {call : Insertion} {descriptor : RuntimeDescriptor}
    {old record : ArchiveRecord K} {deltaF score : ℚ}
    (h : Replacement stableHash deltaF call kind descriptor cell (some old) record)
    (hscore : old.entry.promotionScore = some score) :
    ∃ stored, record.entry.promotionScore = some stored ∧ score ≤ stored + |deltaF| ∧
      (stored < score → 0 ≤ deltaF → record.entry.mutableLoc < old.entry.mutableLoc) := by
  have hincumbent : old.incumbentScore cell.1 = some score := by
    unfold ArchiveRecord.incumbentScore
    rw [hscore]
    rfl
  have hloc : record.entry.mutableLoc = call.mutableLoc := by
    rw [h.offered]
    rfl
  refine ⟨call.promotionScore kind cell.1, ?_, ?_, ?_⟩
  · rw [h.offered]
    rfl
  · have hneg := neg_abs_le deltaF
    rcases h.replaces old rfl score hincumbent with hgain | ⟨hnear, _⟩
    · linarith
    · have hbelow := (abs_le.mp hnear).1
      have habs := le_abs_self deltaF
      linarith
  · intro hlower hdelta
    rcases h.replaces old rfl score hincumbent with hgain | ⟨_, hsmaller⟩
    · linarith
    · rw [hloc]
      exact hsmaller

/-- After one call the score is at most one near tie lower. -/
lemma eliteScore_afterInsert (stableHash : CellIdentity → K) (h : archive.Indexed)
    (call : Insertion) {score : ℚ} (hscore : archive.eliteScore kind cell = some score) :
    ∃ stored, (archive.afterInsert stableHash call).eliteScore kind cell = some stored ∧
      score ≤ stored + |archive.deltaF| *
        (if archive.Lowers stableHash call kind cell then 1 else 0 : ℕ) := by
  obtain ⟨old, hold, hpromotion⟩ := Option.bind_eq_some_iff.mp hscore
  rcases cell_afterInsert stableHash h call kind cell with
    hsame | ⟨record, descriptor, hrecord, hreplacement⟩
  · refine ⟨score, ?_, ?_⟩
    · unfold eliteScore at hscore ⊢
      rw [hsame]
      exact hscore
    · have hbound := abs_nonneg archive.deltaF
      exact le_add_of_nonneg_right (mul_nonneg hbound (Nat.cast_nonneg _))
  · rw [hold] at hreplacement
    obtain ⟨stored, hstored, hle, _⟩ := score_of_replacement hreplacement hpromotion
    have helite : (archive.afterInsert stableHash call).eliteScore kind cell = some stored := by
      unfold eliteScore
      rw [hrecord]
      exact hstored
    refine ⟨stored, helite, ?_⟩
    by_cases hlower : stored < score
    · have hlowers : archive.Lowers stableHash call kind cell :=
        ⟨score, hscore, stored, helite, hlower⟩
      rw [if_pos hlowers, Nat.cast_one, mul_one]
      exact hle
    · have hbound := abs_nonneg archive.deltaF
      exact (not_lt.mp hlower).trans
        (le_add_of_nonneg_right (mul_nonneg hbound (Nat.cast_nonneg _)))

lemma eliteScore_insertAll (h : archive.Indexed) (calls : List Insertion) {score : ℚ}
    (hscore : archive.eliteScore kind cell = some score) :
    ∃ elite, (archive.insertAll stableHash calls).eliteScore kind cell = some elite ∧
      score ≤ elite + |archive.deltaF| * lowerings stableHash kind cell archive calls := by
  induction calls generalizing archive score with
  | nil =>
    refine ⟨score, hscore, ?_⟩
    simp [lowerings]
  | cons call calls ih =>
    have hcall := eliteScore_afterInsert stableHash h call hscore
    obtain ⟨stored, hstored, hstep⟩ := hcall
    obtain ⟨elite, helite, hlater⟩ := ih (h.afterInsert call) hstored
    refine ⟨elite, helite, ?_⟩
    rw [(stores_afterInsert archive call).1] at hlater
    rw [lowerings, Nat.cast_add, mul_add]
    linarith

end Runs

end QualityDiversityArchive

/-! ## Whole runs -/

open QualityDiversityArchive

/-- A call that lowers the score of a cell does so at a near tie with smaller code. -/
def LowersAtNearTies (archive after : QualityDiversityArchive K) : Prop :=
  ∀ kind cell old record score lower, (archive.stores kind).cells.get? cell = some old →
    (after.stores kind).cells.get? cell = some record → old.entry.promotionScore = some score →
      record.entry.promotionScore = some lower → lower < score →
        score - lower ≤ |archive.deltaF| ∧
          (0 ≤ archive.deltaF → record.entry.mutableLoc < old.entry.mutableLoc)

lemma lowersAtNearTies_afterInsert {stableHash : CellIdentity → K}
    {archive : QualityDiversityArchive K} (h : archive.Indexed) (call : Insertion) :
    LowersAtNearTies archive (archive.afterInsert stableHash call) := by
  intro kind cell old record score lower hold hrecord hscore hlower hlt
  rcases cell_afterInsert stableHash h call kind cell with
    hsame | ⟨stored, descriptor, hstored, hreplacement⟩
  · rw [hsame, hold, Option.some_inj] at hrecord
    subst hrecord
    rw [hscore, Option.some_inj] at hlower
    exact absurd hlt (not_lt.mpr hlower.le)
  · rw [hstored, Option.some_inj] at hrecord
    subst hrecord
    rw [hold] at hreplacement
    obtain ⟨found, hfound, hle, hloc⟩ := score_of_replacement hreplacement hscore
    rw [hfound, Option.some_inj] at hlower
    subst hlower
    refine ⟨?_, hloc hlt⟩
    linarith

/-- In every run the islands are the cells of their objectives, and no score that a cell ever held
lies further above its elite than the calls that lowered it since allow. -/
theorem archive_indexes_and_elites (stableHash : CellIdentity → K) (deltaF : ℚ)
    (before calls : List Insertion) :
    let archive := (init deltaF).insertAll stableHash before
    let later := archive.insertAll stableHash calls
    (∀ kind objective, (later.island objective kind).Perm
        ((later.stores kind).cellsOf objective) ∧
      ((later.island objective kind).map (·.key)).Nodup) ∧
    (∀ kind cell score, archive.eliteScore kind cell = some score →
      ∃ elite, later.eliteScore kind cell = some elite ∧
        score ≤ elite + |deltaF| * archive.lowerings stableHash kind cell calls) ∧
    ∀ call, LowersAtNearTies later (later.afterInsert stableHash call) := by
  intro archive later
  have harchive : archive.Indexed := (indexed_init deltaF).insertAll before
  have hlater : later.Indexed := harchive.insertAll calls
  refine ⟨?_, ?_, ?_⟩
  · intro kind objective
    exact ⟨(hlater kind).islands objective, (hlater kind).nodup objective⟩
  · intro kind cell score hscore
    have hdelta : archive.deltaF = deltaF := deltaF_insertAll (init deltaF) before
    rw [← hdelta]
    exact eliteScore_insertAll harchive calls hscore
  · exact lowersAtNearTies_afterInsert hlater

/-- A runtime without runs, of one objective. -/
def nearTie (score : ℚ) (mutableLoc : ℤ) : Insertion where
  runtimeDir := "runtime"
  runtimeHash := "runtime"
  codeHash := "code"
  mutableLoc := mutableLoc
  evaluation := ⟨⟨[("axis:speed", score)], List.nodup_singleton _⟩, []⟩
  scope := ["top"]
  mutableAstNodes := some 5
  interfaceDiffMask := none
  archiveKind := "capability"
  promotionDecision := none
  objectives := none
  oraclePackageHash := ""
  runtimeSpecDigest := ""
  mutationActionIds := []

def speedCell : CellIdentity where
  archiveKind := "capability"
  objective := "axis:speed"
  interfaceDiffMask := "1000"
  behaviorBin := ["single", "low", "low", "low"]
  scopeTag := "top"
  complexityBucket := 0

/-- Two near ties in a row, each with smaller code, take an elite two steps down. -/
theorem elite_drifts :
    ¬∀ (stableHash : CellIdentity → CellIdentity) (deltaF : ℚ) (before calls : List Insertion)
      (kind : ArchiveKind) (cell : String × CellIdentity) (score elite : ℚ),
      Function.Injective stableHash → 0 ≤ deltaF →
        ((init deltaF).insertAll stableHash before).eliteScore kind cell = some score →
          (((init deltaF).insertAll stableHash before).insertAll stableHash calls).eliteScore kind
            cell = some elite → score ≤ elite + deltaF := by
  intro h
  have hscore : ((init (1 / 500)).insertAll id [nearTie (1 / 2) 10]).eliteScore .capability
      ("axis:speed", speedCell) = some (1 / 2) := by decide +kernel
  have helite : (((init (1 / 500)).insertAll id [nearTie (1 / 2) 10]).insertAll id
      [nearTie (249 / 500) 9, nearTie (248 / 500) 8]).eliteScore .capability
        ("axis:speed", speedCell) = some (248 / 500) := by decide +kernel
  have hbound := h id (1 / 500) [nearTie (1 / 2) 10]
    [nearTie (249 / 500) 9, nearTie (248 / 500) 8] .capability ("axis:speed", speedCell)
    (1 / 2) (248 / 500) Function.injective_id (by norm_num) hscore helite
  norm_num at hbound

end Agintor.Search
