import Mathlib
import Agintor.Factory.Export

/-!
# The leader of a build

Of the candidates that validate, the leader has the highest goal score, and of those the highest
validation score; without one that validates there is no leader. Records that tie in the
deduplication are kept by their order. Where such records say the same, the leader does not depend
on the order of the archive.
-/

namespace Agintor.Factory.Export

open Lib Search

/-! ## Candidates -/

section Candidates

variable {names : List String} {rank : Dict String ℕ}

/-- A name has the rank of one of its places. -/
lemma getElem?_of_objectiveRank {name : String} {place : ℕ}
    (h : (objectiveRank names).get? name = some place) : names[place]? = some name := by
  induction names using List.reverseRecOn generalizing place with
  | nil => exact absurd h (by simp [objectiveRank])
  | append_singleton names last ih =>
    rw [objectiveRank, List.zipIdx_append, List.foldl_append] at h
    show _ = _
    have hset : ((objectiveRank names).set last names.length).get? name = some place := by
      simpa [objectiveRank] using h
    rw [Dict.get?_set] at hset
    by_cases hlast : last = name
    · rw [if_pos hlast, Option.some.injEq] at hset
      rw [← hset, ← hlast, List.getElem?_append_right le_rfl]
      simp
    · rw [if_neg hlast] at hset
      have hplace := ih hset
      have hlt : place < names.length := (List.getElem?_eq_some_iff.mp hplace).1
      rw [List.getElem?_append_left hlt]
      exact hplace

/-- What the deduplication compares: smaller is better. -/
def rankKey (rank : Dict String ℕ) (record : ArchiveRecord) : ℕ ×ₗ Scoreᵒᵈ :=
  toLex ((rank.get? record.objective).getD rank.entries.length,
    .toDual (scoreOf record.scores record.objective))

lemma replaces_iff {record existing : ArchiveRecord} :
    Replaces rank record existing ↔ rankKey rank record < rankKey rank existing := by
  rw [rankKey, rankKey, Prod.Lex.toLex_lt_toLex]
  rfl

/-- A best record of every runtime that has one with a ranked objective. -/
structure Kept (rank : Dict String ℕ) (records : List ArchiveRecord)
    (deduped : Dict String ArchiveRecord) : Prop where
  mem : ∀ hash record, deduped.get? hash = some record →
    record ∈ records ∧ record.runtimeHash = hash ∧ rank.contains record.objective = true
  best : ∀ hash record, deduped.get? hash = some record → ∀ other ∈ records,
    rank.contains other.objective = true → other.runtimeHash = hash →
      rankKey rank record ≤ rankKey rank other
  all : ∀ record ∈ records, rank.contains record.objective = true →
    ∃ kept, deduped.get? record.runtimeHash = some kept

variable {records : List ArchiveRecord} {deduped : Dict String ArchiveRecord}
  {record : ArchiveRecord}

/-- A record that is not kept is no better than the one that is. -/
lemma Kept.leave (h : Kept rank records deduped)
    (hworse : rank.contains record.objective = true → ∃ existing,
      deduped.get? record.runtimeHash = some existing ∧
        rankKey rank existing ≤ rankKey rank record) :
    Kept rank (records ++ [record]) deduped where
  mem hash kept hkept := by
    obtain ⟨hmem, hrest⟩ := h.mem hash kept hkept
    exact ⟨List.mem_append_left _ hmem, hrest⟩
  best hash kept hkept other hother hranked hhash := by
    rcases List.mem_append.mp hother with hother | hother
    · exact h.best hash kept hkept other hother hranked hhash
    · rw [List.mem_singleton] at hother
      subst hother
      obtain ⟨existing, hexisting, hle⟩ := hworse hranked
      rw [hhash, hkept, Option.some.injEq] at hexisting
      rwa [hexisting]
  all other hother hranked := by
    rcases List.mem_append.mp hother with hother | hother
    · exact h.all other hother hranked
    · rw [List.mem_singleton] at hother
      subst hother
      obtain ⟨existing, hexisting, -⟩ := hworse hranked
      exact ⟨existing, hexisting⟩

/-- A record that is kept is better than the one before. -/
lemma Kept.take (h : Kept rank records deduped) (hranked : rank.contains record.objective = true)
    (hbetter : ∀ existing, deduped.get? record.runtimeHash = some existing →
      rankKey rank record ≤ rankKey rank existing) :
    Kept rank (records ++ [record]) (deduped.set record.runtimeHash record) where
  mem hash kept hkept := by
    rw [Dict.get?_set] at hkept
    by_cases hhash : record.runtimeHash = hash
    · rw [if_pos hhash, Option.some.injEq] at hkept
      subst hkept
      exact ⟨by simp, hhash, hranked⟩
    · rw [if_neg hhash] at hkept
      obtain ⟨hmem, hrest⟩ := h.mem hash kept hkept
      exact ⟨List.mem_append_left _ hmem, hrest⟩
  best hash kept hkept other hother hother' hhash := by
    rw [Dict.get?_set] at hkept
    rw [List.mem_append, List.mem_singleton] at hother
    by_cases hsame : record.runtimeHash = hash
    · rw [if_pos hsame, Option.some.injEq] at hkept
      subst hkept
      rcases hother with hother | rfl
      · obtain ⟨existing, hexisting⟩ := h.all other hother hother'
        rw [hhash] at hexisting
        have hle := h.best hash existing hexisting other hother hother' hhash
        exact (hbetter existing (hsame ▸ hexisting)).trans hle
      · exact le_rfl
    · rw [if_neg hsame] at hkept
      rcases hother with hother | rfl
      · exact h.best hash kept hkept other hother hother' hhash
      · exact absurd hhash hsame
  all other hother hother' := by
    by_cases hhash : record.runtimeHash = other.runtimeHash
    · exact ⟨record, by rw [Dict.get?_set, if_pos hhash]⟩
    · rw [List.mem_append, List.mem_singleton] at hother
      rcases hother with hother | rfl
      · obtain ⟨existing, hexisting⟩ := h.all other hother hother'
        exact ⟨existing, by rw [Dict.get?_set, if_neg hhash]; exact hexisting⟩
      · exact absurd rfl hhash

lemma Kept.keepCandidate (h : Kept rank records deduped) :
    Kept rank (records ++ [record]) (keepCandidate rank deduped record) := by
  unfold Export.keepCandidate
  by_cases hranked : rank.contains record.objective = true
  · rw [if_pos hranked]
    cases hget : deduped.get? record.runtimeHash with
    | none => exact h.take hranked fun existing hexisting => by simp [hget] at hexisting
    | some existing =>
      by_cases hreplaces : Replaces rank record existing
      · simp only [if_pos hreplaces]
        refine h.take hranked fun other hother => ?_
        rw [hget, Option.some.injEq] at hother
        exact hother ▸ (replaces_iff.mp hreplaces).le
      · simp only [if_neg hreplaces]
        exact h.leave fun _ => ⟨existing, hget, not_lt.mp (mt replaces_iff.mpr hreplaces)⟩
  · rw [if_neg hranked]
    exact h.leave fun hranked' => absurd hranked' hranked

theorem kept_foldl (rank : Dict String ℕ) (records : List ArchiveRecord) :
    Kept rank records (records.foldl (Export.keepCandidate rank) Dict.empty) := by
  induction records using List.reverseRecOn with
  | nil => exact ⟨by simp, by simp, by simp⟩
  | append_singleton records record ih =>
    rw [List.foldl_append]
    exact ih.keepCandidate

/-- The records from which the candidates are chosen. -/
def exportRank (engine : Engine) (goalKeys : List String) : Dict String ℕ :=
  objectiveRank (engine.exportObjectiveNames goalKeys)

variable {engine : Engine} {goalKeys : List String}

lemma mem_exportCandidateRecords : record ∈ exportCandidateRecords engine goalKeys records ↔
    (records.foldl (keepCandidate (exportRank engine goalKeys)) Dict.empty).get?
      record.runtimeHash = some record := by
  have hkept := kept_foldl (exportRank engine goalKeys) records
  unfold exportCandidateRecords
  rw [Dict.mem_values_iff]
  constructor
  · rintro ⟨hash, hget⟩
    rw [(hkept.mem hash record hget).2.1]
    exact hget
  · intro hget
    exact ⟨record.runtimeHash, hget⟩

/-- Candidates have different hashes. -/
lemma nodup_exportCandidateRecords :
    ((exportCandidateRecords engine goalKeys records).map (·.runtimeHash)).Nodup := by
  have hkept := kept_foldl (exportRank engine goalKeys) records
  have hkeys : (exportCandidateRecords engine goalKeys records).map (·.runtimeHash) =
      (records.foldl (keepCandidate (exportRank engine goalKeys)) Dict.empty).keys := by
    unfold exportCandidateRecords Dict.values Dict.keys
    rw [List.map_map]
    refine List.map_congr_left fun entry hentry => ?_
    exact (hkept.mem entry.1 entry.2 (Dict.get?_eq_some_iff.mpr hentry)).2.1
  rw [hkeys]
  exact Dict.nodup _

end Candidates

/-! ## Groups -/

section Groups

variable (engine : Engine) (scoringKeys : List String)

/-- A candidate that validates: without an exception, and with a positive score when there is an
oracle package. -/
def Validates (record : ArchiveRecord) : Prop :=
  passes engine (validation engine scoringKeys record) = true

instance : DecidablePred (Validates engine scoringKeys) := fun _ =>
  inferInstanceAs (Decidable (_ = true))

variable {engine scoringKeys} {candidates : List ArchiveRecord}

/-- The outcomes of a group, on top of earlier ones. -/
lemma get?_outcomes (hhashes : (candidates.map (·.runtimeHash)).Nodup) {group : List ArchiveRecord}
    (hgroup : ∀ record ∈ group, record ∈ candidates)
    (outcomes : Dict String (Except String Score)) {record : ArchiveRecord}
    (hrecord : record ∈ candidates)
    (h : record ∈ group ∨
      outcomes.get? record.runtimeHash = some (validation engine scoringKeys record)) :
    (group.foldl (fun outcomes record =>
        outcomes.set record.runtimeHash (validation engine scoringKeys record)) outcomes).get?
      record.runtimeHash = some (validation engine scoringKeys record) := by
  induction group generalizing outcomes with
  | nil => exact h.resolve_left List.not_mem_nil
  | cons first group ih =>
    rw [List.foldl_cons]
    refine ih (fun other hother => hgroup other (List.mem_cons_of_mem _ hother)) _ ?_
    by_cases hsame : first = record
    · exact .inr (by rw [hsame, Dict.get?_set, if_pos rfl])
    · rcases h with h | h
      · exact .inl ((List.mem_cons.mp h).resolve_left (Ne.symm hsame))
      · have hne : first.runtimeHash ≠ record.runtimeHash := fun heq =>
          hsame (List.inj_on_of_nodup_map hhashes (hgroup first List.mem_cons_self) hrecord heq)
        exact .inr (by rw [Dict.get?_set, if_neg hne]; exact h)

lemma groupValidates_iff {score : Score} :
    groupValidates engine scoringKeys candidates score = true ↔ ∃ record ∈ candidates,
      goalScore scoringKeys record = score ∧ Validates engine scoringKeys record := by
  rw [groupValidates, List.any_eq_true]
  simp only [List.mem_filter, decide_eq_true_iff, and_assoc]
  rfl

variable (engine scoringKeys) in
/-- The winning score is the first whose group has a candidate that validates, and this group has
been validated. -/
lemma validateGroups_spec (hhashes : (candidates.map (·.runtimeHash)).Nodup) (scores : List Score)
    (outcomes : Dict String (Except String Score)) :
    (validateGroups engine scoringKeys candidates scores outcomes).2 =
        scores.find? (groupValidates engine scoringKeys candidates) ∧
      ∀ record ∈ candidates,
        (validateGroups engine scoringKeys candidates scores outcomes).2 =
          some (goalScore scoringKeys record) →
        (validateGroups engine scoringKeys candidates scores outcomes).1.get? record.runtimeHash =
          some (validation engine scoringKeys record) := by
  induction scores generalizing outcomes with
  | nil => exact ⟨rfl, fun record _ h => by simp [validateGroups] at h⟩
  | cons score scores ih =>
    unfold validateGroups
    by_cases hvalid : groupValidates engine scoringKeys candidates score = true
    · simp only [if_pos hvalid, List.find?_cons_of_pos hvalid]
      refine ⟨trivial, fun record hrecord hscore => ?_⟩
      rw [Option.some.injEq] at hscore
      refine get?_outcomes hhashes (fun other hother => List.mem_of_mem_filter hother) _ hrecord ?_
      exact .inl (List.mem_filter.mpr ⟨hrecord, decide_eq_true hscore.symm⟩)
    · simp only [if_neg hvalid, List.find?_cons_of_neg hvalid]
      exact ih _

/-- The highest goal score of the candidates that validate. -/
lemma winning_iff {score : Score} :
    (groupScores scoringKeys candidates).find? (groupValidates engine scoringKeys candidates) =
        some score ↔
      (∃ record ∈ candidates,
        goalScore scoringKeys record = score ∧ Validates engine scoringKeys record) ∧
      ∀ record ∈ candidates, Validates engine scoringKeys record →
        goalScore scoringKeys record ≤ score := by
  have hmem : ∀ record ∈ candidates,
      goalScore scoringKeys record ∈ groupScores scoringKeys candidates := by
    intro record hrecord
    rw [groupScores, List.mem_insertionSort, List.mem_dedup]
    exact List.mem_map_of_mem hrecord
  have hsorted : (groupScores scoringKeys candidates).Pairwise (· ≥ ·) :=
    List.pairwise_insertionSort _ _
  -- the scores are sorted from high to low, so no score before the found one is higher
  have hfirst {found : Score} (hfind : (groupScores scoringKeys candidates).find?
      (groupValidates engine scoringKeys candidates) = some found) :
      ∀ record ∈ candidates, Validates engine scoringKeys record →
        goalScore scoringKeys record ≤ found := by
    intro record hrecord hvalid
    obtain ⟨-, before, after, heq, hbefore⟩ := List.find?_eq_some_iff_append.mp hfind
    have hin := hmem record hrecord
    rw [heq, List.mem_append, List.mem_cons] at hin
    rw [heq, List.pairwise_append, List.pairwise_cons] at hsorted
    rcases hin with hin | hin | hin
    · have hnone := hbefore _ hin
      rw [groupValidates_iff.mpr ⟨record, hrecord, rfl, hvalid⟩] at hnone
      exact absurd hnone (by simp)
    · exact hin.le
    · exact hsorted.2.1.1 _ hin
  constructor
  · intro hfind
    exact ⟨groupValidates_iff.mp (List.find?_some hfind), hfirst hfind⟩
  · rintro ⟨⟨record, hrecord, rfl, hvalid⟩, hmax⟩
    have hsome : ((groupScores scoringKeys candidates).find?
        (groupValidates engine scoringKeys candidates)).isSome := by
      rw [List.find?_isSome]
      exact ⟨_, hmem record hrecord, groupValidates_iff.mpr ⟨record, hrecord, rfl, hvalid⟩⟩
    obtain ⟨found, hfound⟩ := Option.isSome_iff_exists.mp hsome
    obtain ⟨other, hother, heq, hothervalid⟩ := groupValidates_iff.mp (List.find?_some hfound)
    rw [hfound, Option.some.injEq]
    exact le_antisymm (heq ▸ hmax other hother hothervalid) (hfirst hfound record hrecord hvalid)

end Groups

/-! ## The leader -/

section Leader

variable (engine : Engine) (goalKeys : List String) (candidates : List ArchiveRecord)

/-- The row of a candidate among the others. -/
def rowOf (record : ArchiveRecord) : ScoreRow :=
  let scoringKeys := engine.exportObjectiveNames goalKeys
  let validated := validateGroups engine scoringKeys candidates
    (groupScores scoringKeys candidates) Dict.empty
  scoreRow engine scoringKeys validated.1 validated.2 record

variable {row : ScoreRow}

lemma mem_scoreRowsForCandidates :
    row ∈ scoreRowsForCandidates engine candidates goalKeys ↔
      ∃ record ∈ candidates, rowOf engine goalKeys candidates record = row := by
  show row ∈ List.insertionSort _ _ ↔ _
  rw [List.mem_insertionSort, List.mem_map]
  rfl

variable {engine goalKeys candidates} {record : ArchiveRecord}

/-- A row may be exported if its candidate validates and none that does has a higher goal score. -/
lemma exportEligible_iff (hhashes : (candidates.map (·.runtimeHash)).Nodup)
    (hrecord : record ∈ candidates) (hkind : record.archiveKind = .capability) :
    (rowOf engine goalKeys candidates record).exportEligible = true ↔
      Validates engine (engine.exportObjectiveNames goalKeys) record ∧
        ∀ other ∈ candidates, Validates engine (engine.exportObjectiveNames goalKeys) other →
          goalScore (engine.exportObjectiveNames goalKeys) other ≤
            goalScore (engine.exportObjectiveNames goalKeys) record := by
  obtain ⟨hwinning, houtcome⟩ := validateGroups_spec engine (engine.exportObjectiveNames goalKeys)
    hhashes (groupScores (engine.exportObjectiveNames goalKeys) candidates) Dict.empty
  have hscore := houtcome record hrecord
  rw [hwinning, winning_iff] at hscore
  unfold rowOf scoreRow
  simp only [decide_eq_true_iff]
  rw [hwinning, winning_iff]
  constructor
  · rintro ⟨-, hbest, hpasses⟩
    rw [hscore hbest] at hpasses
    exact ⟨hpasses, hbest.2⟩
  · rintro ⟨hvalid, hmax⟩
    have hbest : (∃ other ∈ candidates, goalScore (engine.exportObjectiveNames goalKeys) other =
          goalScore (engine.exportObjectiveNames goalKeys) record ∧
            Validates engine (engine.exportObjectiveNames goalKeys) other) ∧
        ∀ other ∈ candidates, Validates engine (engine.exportObjectiveNames goalKeys) other →
          goalScore (engine.exportObjectiveNames goalKeys) other ≤
            goalScore (engine.exportObjectiveNames goalKeys) record :=
      ⟨⟨record, hrecord, rfl, hvalid⟩, hmax⟩
    refine ⟨hkind, hbest, ?_⟩
    rw [hscore hbest]
    exact hvalid

/-- A row that may be exported has the score that validation gave. -/
lemma validationScore_of_exportEligible (hhashes : (candidates.map (·.runtimeHash)).Nodup)
    (hrecord : record ∈ candidates)
    (heligible : (rowOf engine goalKeys candidates record).exportEligible = true) :
    (rowOf engine goalKeys candidates record).validationScore =
      (validation engine (engine.exportObjectiveNames goalKeys) record).toOption := by
  have houtcome := (validateGroups_spec engine (engine.exportObjectiveNames goalKeys) hhashes
    (groupScores (engine.exportObjectiveNames goalKeys) candidates) Dict.empty).2 record hrecord
  unfold rowOf scoreRow at heligible ⊢
  simp only [decide_eq_true_iff] at heligible ⊢
  rw [houtcome heligible.2.1]
  rfl

/-- The first row that may be exported is the least of those that may. -/
lemma least_of_find?
    (hfind : (scoreRowsForCandidates engine candidates goalKeys).find? (·.exportEligible) =
      some row) :
    ∀ other ∈ candidates, (rowOf engine goalKeys candidates other).exportEligible = true →
      row.sortKey ≤ (rowOf engine goalKeys candidates other).sortKey := by
  intro other hother heligible
  have hsorted : (scoreRowsForCandidates engine candidates goalKeys).Pairwise
      fun row other => row.sortKey ≤ other.sortKey := List.pairwise_insertionSort _ _
  obtain ⟨-, before, after, heq, hbefore⟩ := List.find?_eq_some_iff_append.mp hfind
  have hin := (mem_scoreRowsForCandidates engine goalKeys candidates).mpr ⟨other, hother, rfl⟩
  rw [heq, List.mem_append, List.mem_cons] at hin
  rw [heq, List.pairwise_append, List.pairwise_cons] at hsorted
  rcases hin with hin | hin | hin
  · have hnone := hbefore _ hin
    rw [heligible] at hnone
    exact absurd hnone (by simp)
  · exact hin ▸ le_rfl
  · exact hsorted.2.1.1 _ hin

/-- Among rows that may be exported and have one goal score, the least has the highest validation
score. -/
lemma validationScore_le_of_sortKey_le {row other : ScoreRow} (hrow : row.exportEligible = true)
    (hother : other.exportEligible = true) (hgoal : other.goalScore = row.goalScore)
    (h : row.sortKey ≤ other.sortKey) :
    other.validationScore.getD 0 ≤ row.validationScore.getD 0 := by
  unfold ScoreRow.sortKey at h
  rw [hrow, hother, hgoal, Prod.Lex.toLex_le_toLex, Prod.Lex.toLex_le_toLex] at h
  have hrest := (h.resolve_left (lt_irrefl _)).2.resolve_left (lt_irrefl _)
  rw [Prod.Lex.toLex_le_toLex] at hrest
  rcases hrest.2 with hlt | hle
  · exact le_of_lt hlt
  · exact le_of_eq hle.1.symm

variable (engine goalKeys candidates) in
/-- The row of a candidate that validates and that no other one that does beats: none has a higher
goal score, and none with the same goal score has a higher validation score. -/
def IsBest (row : ScoreRow) : Prop :=
  let scoringKeys := engine.exportObjectiveNames goalKeys
  ∃ record ∈ candidates, ∃ score, row.runtimeHash = record.runtimeHash ∧
    row.goalScore = goalScore scoringKeys record ∧ row.validationScore = some score ∧
    validation engine scoringKeys record = .ok score ∧ Validates engine scoringKeys record ∧
    ∀ other ∈ candidates, Validates engine scoringKeys other →
      goalScore scoringKeys other ≤ goalScore scoringKeys record ∧
        ∀ otherScore, goalScore scoringKeys other = goalScore scoringKeys record →
          validation engine scoringKeys other = .ok otherScore → otherScore ≤ score

lemma exists_ok_of_validates {scoringKeys : List String}
    (h : Validates engine scoringKeys record) :
    ∃ score, validation engine scoringKeys record = .ok score := by
  unfold Validates passes at h
  cases houtcome : validation engine scoringKeys record with
  | ok score => exact ⟨score, rfl⟩
  | error message => simp [houtcome] at h

section

variable (hhashes : (candidates.map (·.runtimeHash)).Nodup)
  (hkind : ∀ record ∈ candidates, record.archiveKind = .capability)
include hhashes hkind

/-- The first row that may be exported is the best. -/
lemma isBest_of_find?
    (hfind : (scoreRowsForCandidates engine candidates goalKeys).find? (·.exportEligible) =
      some row) : IsBest engine goalKeys candidates row := by
  have hleast := least_of_find? hfind
  have heligible : row.exportEligible = true := List.find?_some hfind
  obtain ⟨record, hrecord, rfl⟩ :=
    (mem_scoreRowsForCandidates engine goalKeys candidates).mp (List.mem_of_find?_eq_some hfind)
  obtain ⟨hvalid, hmax⟩ := (exportEligible_iff hhashes hrecord (hkind record hrecord)).mp heligible
  obtain ⟨score, hscore⟩ := exists_ok_of_validates hvalid
  have hvalidation := validationScore_of_exportEligible hhashes hrecord heligible
  rw [hscore] at hvalidation
  refine ⟨record, hrecord, score, rfl, rfl, hvalidation, hscore, hvalid, ?_⟩
  intro other hother hothervalid
  refine ⟨hmax other hother hothervalid, fun otherScore hgoal hotherscore => ?_⟩
  have hothereligible : (rowOf engine goalKeys candidates other).exportEligible = true :=
    (exportEligible_iff hhashes hother (hkind other hother)).mpr
      ⟨hothervalid, fun third hthird hthirdvalid => hgoal ▸ hmax third hthird hthirdvalid⟩
  have hothervalidation := validationScore_of_exportEligible hhashes hother hothereligible
  rw [hotherscore] at hothervalidation
  have hle := validationScore_le_of_sortKey_le heligible hothereligible hgoal
    (hleast other hother hothereligible)
  rw [hvalidation, hothervalidation] at hle
  exact hle

/-- A candidate that validates gives a row that may be exported. -/
lemma exists_find?
    (h : ∃ record ∈ candidates,
      Validates engine (engine.exportObjectiveNames goalKeys) record) :
    ∃ row, (scoreRowsForCandidates engine candidates goalKeys).find? (·.exportEligible) =
      some row := by
  obtain ⟨record, hrecord, hvalid⟩ := h
  -- the winning group is that of the highest goal score
  have hsome : ((groupScores (engine.exportObjectiveNames goalKeys) candidates).find?
      (groupValidates engine (engine.exportObjectiveNames goalKeys) candidates)).isSome := by
    rw [List.find?_isSome]
    refine ⟨goalScore (engine.exportObjectiveNames goalKeys) record, ?_,
      groupValidates_iff.mpr ⟨record, hrecord, rfl, hvalid⟩⟩
    rw [groupScores, List.mem_insertionSort, List.mem_dedup]
    exact List.mem_map_of_mem hrecord
  obtain ⟨score, hscore⟩ := Option.isSome_iff_exists.mp hsome
  obtain ⟨⟨best, hbest, rfl, hbestvalid⟩, hmax⟩ := winning_iff.mp hscore
  have heligible := (exportEligible_iff hhashes hbest (hkind best hbest)).mpr ⟨hbestvalid, hmax⟩
  rw [← Option.isSome_iff_exists, List.find?_isSome]
  exact ⟨_, (mem_scoreRowsForCandidates engine goalKeys candidates).mpr ⟨best, hbest, rfl⟩,
    heligible⟩

end

end Leader

/-! ## The order of the archive -/

section Order

/-- Records of one runtime that say the same to the export. -/
structure Alike (record other : ArchiveRecord) : Prop where
  runtimeHash : record.runtimeHash = other.runtimeHash
  scores : ∀ key, record.scores.get? key = other.scores.get? key
  runtimeDir : record.runtimeDir = other.runtimeDir
  mutableLoc : record.mutableLoc = other.mutableLoc

/-- Records of one runtime that tie in the deduplication, with one objective and the same score
for it, say the same. -/
def TiesAgree (records : List ArchiveRecord) : Prop :=
  ∀ record ∈ records, ∀ other ∈ records, record.runtimeHash = other.runtimeHash →
    record.objective = other.objective →
      scoreOf record.scores record.objective = scoreOf other.scores other.objective →
        Alike record other

variable {engine : Engine} {goalKeys : List String} {records others : List ArchiveRecord}
  {record other : ArchiveRecord}

lemma Alike.goalScore (h : Alike record other) (scoringKeys : List String) :
    Export.goalScore scoringKeys record = Export.goalScore scoringKeys other := by
  have hscore : scoreOf record.scores = scoreOf other.scores := by
    ext1 key
    rw [scoreOf, scoreOf, h.scores]
  unfold Export.goalScore meanGoalScore
  rw [hscore]

lemma Alike.validation (h : Alike record other) (scoringKeys : List String) :
    Export.validation engine scoringKeys record = Export.validation engine scoringKeys other := by
  unfold Export.validation
  rw [h.runtimeDir]

lemma Alike.validates (h : Alike record other) {scoringKeys : List String}
    (hvalid : Validates engine scoringKeys record) : Validates engine scoringKeys other := by
  unfold Validates at hvalid ⊢
  rwa [h.validation] at hvalid

/-- Records of equal rank have one objective and tie. -/
lemma tie_of_rankKey_eq (hrecord : (exportRank engine goalKeys).contains record.objective = true)
    (hother : (exportRank engine goalKeys).contains other.objective = true)
    (h : rankKey (exportRank engine goalKeys) record = rankKey (exportRank engine goalKeys) other) :
    record.objective = other.objective ∧
      scoreOf record.scores record.objective = scoreOf other.scores other.objective := by
  rw [rankKey, rankKey, toLex_inj, Prod.mk.injEq, OrderDual.toDual_inj] at h
  obtain ⟨place, hplace⟩ := Option.isSome_iff_exists.mp hrecord
  obtain ⟨otherPlace, hotherPlace⟩ := Option.isSome_iff_exists.mp hother
  refine ⟨?_, h.2⟩
  rw [hplace, hotherPlace, Option.getD_some, Option.getD_some] at h
  have hname := getElem?_of_objectiveRank hplace
  rw [h.1, getElem?_of_objectiveRank hotherPlace, Option.some.injEq] at hname
  exact hname.symm

/-- Whatever the order of the records, the candidates say the same. -/
lemma exists_alike (hperm : records.Perm others) (hties : TiesAgree records)
    (hrecord : record ∈ exportCandidateRecords engine goalKeys records) :
    ∃ other ∈ exportCandidateRecords engine goalKeys others, Alike record other := by
  rw [mem_exportCandidateRecords] at hrecord
  have hkept := kept_foldl (exportRank engine goalKeys) records
  have hkept' := kept_foldl (exportRank engine goalKeys) others
  obtain ⟨hmem, -, hranked⟩ := hkept.mem _ _ hrecord
  obtain ⟨other, hother⟩ := hkept'.all record (hperm.subset hmem) hranked
  obtain ⟨hmem', hhash, hranked'⟩ := hkept'.mem _ _ hother
  refine ⟨other, mem_exportCandidateRecords.mpr (hhash.symm ▸ hother), ?_⟩
  -- each of the two is no worse than the other
  have hle := hkept.best _ _ hrecord other (hperm.symm.subset hmem') hranked' hhash
  have hge := hkept'.best _ _ hother record (hperm.subset hmem) hranked rfl
  obtain ⟨hobjective, hscore⟩ := tie_of_rankKey_eq hranked hranked' (le_antisymm hle hge)
  exact hties record hmem other (hperm.symm.subset hmem') hhash.symm hobjective hscore

lemma TiesAgree.perm (hperm : records.Perm others) (h : TiesAgree records) : TiesAgree others :=
  fun record hrecord other hother =>
    h record (hperm.symm.subset hrecord) other (hperm.symm.subset hother)

lemma archiveKind_of_candidate (hkind : ∀ record ∈ records, record.archiveKind = .capability) :
    ∀ record ∈ exportCandidateRecords engine goalKeys records,
      record.archiveKind = .capability := by
  intro record hrecord
  have hkept := kept_foldl (exportRank engine goalKeys) records
  exact hkind record (hkept.mem _ _ (mem_exportCandidateRecords.mp hrecord)).1

/-- The rows of candidates that say the same are sorted alike. -/
lemma alike_row (hkind : ∀ record ∈ records, record.archiveKind = .capability)
    (hperm : records.Perm others) (hties : TiesAgree records)
    (hrecord : record ∈ exportCandidateRecords engine goalKeys records)
    (hother : other ∈ exportCandidateRecords engine goalKeys others) (halike : Alike record other)
    (heligible : (rowOf engine goalKeys (exportCandidateRecords engine goalKeys records)
      record).exportEligible = true) :
    (rowOf engine goalKeys (exportCandidateRecords engine goalKeys others)
        other).exportEligible = true ∧
      (rowOf engine goalKeys (exportCandidateRecords engine goalKeys others) other).sortKey =
        (rowOf engine goalKeys (exportCandidateRecords engine goalKeys records) record).sortKey := by
  have hkind' : ∀ record ∈ others, record.archiveKind = .capability :=
    fun record hrecord => hkind record (hperm.symm.subset hrecord)
  obtain ⟨hvalid, hmax⟩ := (exportEligible_iff nodup_exportCandidateRecords hrecord
    (archiveKind_of_candidate hkind _ hrecord)).mp heligible
  have heligible' : (rowOf engine goalKeys (exportCandidateRecords engine goalKeys others)
      other).exportEligible = true := by
    refine (exportEligible_iff nodup_exportCandidateRecords hother
      (archiveKind_of_candidate hkind' _ hother)).mpr ⟨halike.validates hvalid, ?_⟩
    intro third hthird hthirdvalid
    obtain ⟨third', hthird', halike'⟩ := exists_alike hperm.symm (hties.perm hperm) hthird
    rw [halike'.goalScore, ← halike.goalScore]
    exact hmax third' hthird' (halike'.validates hthirdvalid)
  refine ⟨heligible', ?_⟩
  have hvalidation := validationScore_of_exportEligible nodup_exportCandidateRecords hrecord
    heligible
  have hvalidation' := validationScore_of_exportEligible nodup_exportCandidateRecords hother
    heligible'
  rw [← halike.validation, ← hvalidation] at hvalidation'
  have htrain : scoreOf record.scores = scoreOf other.scores := by
    ext1 key
    rw [scoreOf, scoreOf, halike.scores]
  unfold ScoreRow.sortKey
  rw [heligible, heligible', hvalidation']
  show toLex (_, toLex (OrderDual.toDual (Export.goalScore _ other), toLex (_,
    toLex (OrderDual.toDual (scoreOf other.scores _),
      toLex (other.mutableLoc, other.runtimeHash)))))
      = toLex (_, toLex (OrderDual.toDual (Export.goalScore _ record), toLex (_,
        toLex (OrderDual.toDual (scoreOf record.scores _),
          toLex (record.mutableLoc, record.runtimeHash)))))
  rw [halike.goalScore, htrain, halike.mutableLoc, halike.runtimeHash]

/-- What a build reports of its leader. -/
def leaderReport (row : ScoreRow) : String × Score × Option Score :=
  (row.runtimeHash, row.goalScore, row.validationScore)

lemma leaderReport_of_sortKey_eq {row row' : ScoreRow} (hrow : row.validationScore.isSome)
    (hrow' : row'.validationScore.isSome) (h : row.sortKey = row'.sortKey) :
    leaderReport row = leaderReport row' := by
  unfold ScoreRow.sortKey at h
  simp only [toLex_inj, Prod.mk.injEq, OrderDual.toDual_inj] at h
  obtain ⟨-, hgoal, hvalidation, -, -, hhash⟩ := h
  obtain ⟨score, hscore⟩ := Option.isSome_iff_exists.mp hrow
  obtain ⟨score', hscore'⟩ := Option.isSome_iff_exists.mp hrow'
  rw [hscore, hscore', Option.getD_some, Option.getD_some] at hvalidation
  unfold leaderReport
  rw [hhash, hgoal, hscore, hscore', hvalidation]

section

variable (hkind : ∀ record ∈ records, record.archiveKind = .capability)
include hkind

section

variable (hperm : records.Perm others) (hties : TiesAgree records)
include hperm hties

/-- The leader of the records comes no later than that of the same records in another order. -/
lemma sortKey_leader_le {row row' : ScoreRow}
    (hrow : leaderRow engine goalKeys records = some row)
    (hrow' : leaderRow engine goalKeys others = some row') : row'.sortKey ≤ row.sortKey := by
  have heligible : row.exportEligible = true := List.find?_some hrow
  obtain ⟨record, hrecord, rfl⟩ :=
    (mem_scoreRowsForCandidates engine goalKeys _).mp (List.mem_of_find?_eq_some hrow)
  obtain ⟨other, hother, halike⟩ := exists_alike hperm hties hrecord
  obtain ⟨heligible', hkey⟩ := alike_row hkind hperm hties hrecord hother halike heligible
  rw [← hkey]
  exact least_of_find? hrow' other hother heligible'

lemma exists_leaderRow_of_perm {row : ScoreRow}
    (hrow : leaderRow engine goalKeys records = some row) :
    ∃ row', leaderRow engine goalKeys others = some row' := by
  have hkind' : ∀ record ∈ others, record.archiveKind = .capability :=
    fun record hrecord => hkind record (hperm.symm.subset hrecord)
  obtain ⟨record, hrecord, -, -, -, -, -, hvalid, -⟩ := isBest_of_find? nodup_exportCandidateRecords
    (archiveKind_of_candidate hkind) hrow
  obtain ⟨other, hother, halike⟩ := exists_alike hperm hties hrecord
  exact exists_find? nodup_exportCandidateRecords (archiveKind_of_candidate hkind')
    ⟨other, hother, halike.validates hvalid⟩

lemma leaderRow_perm :
    (leaderRow engine goalKeys others).map leaderReport =
      (leaderRow engine goalKeys records).map leaderReport := by
  have hkind' : ∀ record ∈ others, record.archiveKind = .capability :=
    fun record hrecord => hkind record (hperm.symm.subset hrecord)
  have hscored {records : List ArchiveRecord}
      (hkind : ∀ record ∈ records, record.archiveKind = .capability) {row : ScoreRow}
      (hrow : leaderRow engine goalKeys records = some row) : row.validationScore.isSome := by
    obtain ⟨-, -, score, -, -, hscore, -⟩ := isBest_of_find? nodup_exportCandidateRecords
      (archiveKind_of_candidate hkind) hrow
    rw [hscore]
    rfl
  cases hrow : leaderRow engine goalKeys records with
  | none =>
    cases hrow' : leaderRow engine goalKeys others with
    | none => rfl
    | some row' =>
      obtain ⟨row, hsome⟩ := exists_leaderRow_of_perm hkind' hperm.symm (hties.perm hperm) hrow'
      rw [hrow] at hsome
      cases hsome
  | some row =>
    obtain ⟨row', hrow'⟩ := exists_leaderRow_of_perm hkind hperm hties hrow
    rw [hrow', Option.map_some, Option.map_some]
    have hle := sortKey_leader_le hkind hperm hties hrow hrow'
    have hge := sortKey_leader_le hkind' hperm.symm (hties.perm hperm) hrow' hrow
    exact congrArg some (leaderReport_of_sortKey_eq (hscored hkind' hrow') (hscored hkind hrow)
      (le_antisymm hle hge))

end

end

end Order

/-- The leader is the best candidate that validates, there is one if any candidate does, and its
hash and scores are the same whatever the order of the records, where ties say the same. -/
theorem leaderRow_best (engine : Engine) (goalKeys : List String) {records : List ArchiveRecord}
    (hkind : ∀ record ∈ records, record.archiveKind = .capability) :
    ((∃ record ∈ exportCandidateRecords engine goalKeys records,
        Validates engine (engine.exportObjectiveNames goalKeys) record) →
      ∃ row, leaderRow engine goalKeys records = some row ∧
        IsBest engine goalKeys (exportCandidateRecords engine goalKeys records) row) ∧
    ((∀ record ∈ exportCandidateRecords engine goalKeys records,
        ¬Validates engine (engine.exportObjectiveNames goalKeys) record) →
      ∀ row ∈ scoreRowsForCandidates engine (exportCandidateRecords engine goalKeys records)
        goalKeys, row.exportEligible = false) ∧
    (TiesAgree records → ∀ others, records.Perm others →
      (leaderRow engine goalKeys others).map leaderReport =
        (leaderRow engine goalKeys records).map leaderReport) := by
  have hcandidates : ∀ record ∈ exportCandidateRecords engine goalKeys records,
      record.archiveKind = .capability := archiveKind_of_candidate hkind
  refine ⟨fun hsome => ?_, fun hnone row hrow => ?_, fun hties others hperm =>
    leaderRow_perm hkind hperm hties⟩
  · obtain ⟨row, hrow⟩ := exists_find? nodup_exportCandidateRecords hcandidates hsome
    exact ⟨row, hrow, isBest_of_find? nodup_exportCandidateRecords hcandidates hrow⟩
  · obtain ⟨record, hrecord, rfl⟩ := (mem_scoreRowsForCandidates engine goalKeys _).mp hrow
    rw [Bool.eq_false_iff]
    intro heligible
    exact hnone record hrecord ((exportEligible_iff nodup_exportCandidateRecords hrecord
      (hcandidates record hrecord)).mp heligible).1

/-! ## An archive with two runtimes -/

/-- A record with the goal score 1. -/
def goalRecord (runtimeHash : String) (global : ℚ) : ArchiveRecord where
  objective := "goal"
  runtimeHash := runtimeHash
  scores := (Dict.empty.set "goal" ((1 : ℚ) : Score)).set "sbar:global" (global : Score)
  runtimeDir := runtimeHash

/-- Every runtime validates with the score 1. -/
def plainEngine : Engine where
  oracleObjectives := none
  validationObjectiveName := "sbar:global"
  evaluateValidation := fun _ _ => .ok (Dict.empty.set "sbar:global" ((1 : ℚ) : Score))

/-- Two records of two runtimes do not tie. -/
lemma tiesAgree_pair : TiesAgree [goalRecord "a" 4, goalRecord "b" 2] := by
  intro record hrecord other hother hhash _ _
  have hsame : record = other := by
    rw [List.mem_cons, List.mem_singleton] at hrecord hother
    rcases hrecord with rfl | rfl <;> rcases hother with rfl | rfl
    · rfl
    · exact absurd hhash (by decide)
    · exact absurd hhash (by decide)
    · rfl
  subst hsame
  exact ⟨rfl, fun _ => rfl, rfl, rfl⟩

theorem leaderRow_best_pair :
    (∃ row, leaderRow plainEngine ["goal"] [goalRecord "a" 4, goalRecord "b" 2] = some row ∧
      IsBest plainEngine ["goal"] (exportCandidateRecords plainEngine ["goal"]
        [goalRecord "a" 4, goalRecord "b" 2]) row) ∧
    ∀ others, [goalRecord "a" 4, goalRecord "b" 2].Perm others →
      (leaderRow plainEngine ["goal"] others).map leaderReport =
        (leaderRow plainEngine ["goal"] [goalRecord "a" 4, goalRecord "b" 2]).map leaderReport := by
  have hkind : ∀ record ∈ [goalRecord "a" 4, goalRecord "b" 2],
      record.archiveKind = .capability := by
    intro record hrecord
    rw [List.mem_cons, List.mem_singleton] at hrecord
    rcases hrecord with rfl | rfl <;> rfl
  obtain ⟨hbest, -, hperm⟩ := leaderRow_best plainEngine ["goal"] hkind
  exact ⟨hbest ⟨goalRecord "a" 4, by simp [mem_exportCandidateRecords]; rfl, rfl⟩,
    hperm tiesAgree_pair⟩

/-- Records of one runtime with one score for the goal, but not for everything: the first one is
kept, and it decides which runtime leads. -/
theorem order_decides :
    [goalRecord "a" 4, goalRecord "a" 0, goalRecord "b" 2].Perm
        [goalRecord "a" 0, goalRecord "a" 4, goalRecord "b" 2] ∧
      (leaderRow plainEngine ["goal"]
        [goalRecord "a" 4, goalRecord "a" 0, goalRecord "b" 2]).map (·.runtimeHash) = some "a" ∧
      (leaderRow plainEngine ["goal"]
        [goalRecord "a" 0, goalRecord "a" 4, goalRecord "b" 2]).map (·.runtimeHash) = some "b" := by
  refine ⟨List.Perm.swap _ _ _, ?_, ?_⟩
  · decide +kernel
  · decide +kernel

end Agintor.Factory.Export
