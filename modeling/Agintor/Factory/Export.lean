import Agintor.Search.Archive
import Mathlib.Data.List.Dedup
import Mathlib.Data.Prod.Lex
import Mathlib.Order.WithBot
import Mathlib.Algebra.Order.Monoid.Unbundled.WithTop

/-!
# The choice of the runtime that a build exports

`_export_candidate_records` and `_score_rows_for_candidates` of `factory/export.py`, with the
functions that score a runtime, and the choice of the leader in `_run_factory_pipeline`. A score is
a float that is no NaN, in exact arithmetic. What the evaluator makes of a runtime is a parameter.
-/

namespace Agintor.Factory.Export

open Lib Search

/-- `⊥` is `-inf`, `⊤` is `inf`. -/
abbrev Score := WithBot (WithTop ℚ)

/-- What the export reads of an archive record and its entry. -/
structure ArchiveRecord where
  objective : String
  runtimeHash : String
  scores : Dict String Score
  runtimeDir : String
  archiveKind : ArchiveKind := .capability
  promotionType : Option String := none
  entryPromotionType : Option String := none
  mutableLoc : ℤ := 0
  scopeTag : String := ""
  behaviorBin : List String := []

/-- What the export asks the engine for. -/
structure Engine where
  /-- `_active_objective_ids()`, if there is an oracle package. -/
  oracleObjectives : Option (List String)
  /-- `_validation_objective_name()` -/
  validationObjectiveName : String
  /-- The objective scores of `evaluate_validation_for_objective`, or the exception it raises. -/
  evaluateValidation : String → String → Except String (Dict String Score)

/-- `scores.get(key, float("-inf"))` -/
def scoreOf (scores : Dict String Score) (key : String) : Score := (scores.get? key).getD ⊥

/-- `sum(values) / len(values)`, where no value is `-inf`. -/
def meanOf (values : List Score) : Score :=
  ((values.map (WithBot.unbotD 0)).sum.map (· / (values.length : ℚ)) : WithTop ℚ)

/-- `_mean_goal_score` -/
def meanGoalScore (scores : Dict String Score) (goalKeys : List String) : Score :=
  if goalKeys = [] then scoreOf scores "sbar:global"
  else if ⊥ ∈ goalKeys.map (scoreOf scores) then ⊥
  else meanOf (goalKeys.map (scoreOf scores))

namespace Engine

variable (engine : Engine)

/-- `oracle_mode` -/
def oracleMode : Bool := engine.oracleObjectives.isSome

/-- `_export_objective_names` -/
def exportObjectiveNames (goalKeys : List String) : List String :=
  let active := engine.oracleObjectives.getD []
  if active ≠ [] then active
  else (goalKeys ++ ["sbar:global"]).foldl
    (fun names name => if name ∈ names then names else names ++ [name]) []

/-- `_export_validation_score` -/
def exportValidationScore (runtimeDir : String) (objectiveNames : List String) :
    Except String Score :=
  if engine.oracleMode ∧ objectiveNames ≠ [] then do
    let scores ← objectiveNames.mapM fun name =>
      (engine.evaluateValidation runtimeDir name).map (scoreOf · name)
    return scores.foldl min ⊤
  else
    let named := if engine.oracleMode then engine.validationObjectiveName else "sbar:global"
    let validationObjective := if named ∈ objectiveNames then named else objectiveNames.headD named
    (engine.evaluateValidation runtimeDir validationObjective).map (scoreOf · validationObjective)

end Engine

/-! ## Candidates -/

/-- `objective_rank`: the last place of each name. -/
def objectiveRank (objectiveNames : List String) : Dict String ℕ :=
  objectiveNames.zipIdx.foldl (fun rank entry => rank.set entry.1 entry.2) Dict.empty

/-- Whether a record takes the place of the one kept for its runtime. -/
def Replaces (rank : Dict String ℕ) (record existing : ArchiveRecord) : Prop :=
  let currentRank := (rank.get? record.objective).getD rank.entries.length
  let existingRank := (rank.get? existing.objective).getD rank.entries.length
  currentRank < existingRank ∨ currentRank = existingRank ∧
    scoreOf existing.scores existing.objective < scoreOf record.scores record.objective

instance (rank : Dict String ℕ) (record existing : ArchiveRecord) :
    Decidable (Replaces rank record existing) := inferInstanceAs (Decidable (_ ∨ _ ∧ _))

/-- The body of the loop of `_export_candidate_records`. -/
def keepCandidate (rank : Dict String ℕ) (deduped : Dict String ArchiveRecord)
    (record : ArchiveRecord) : Dict String ArchiveRecord :=
  if rank.contains record.objective then
    match deduped.get? record.runtimeHash with
    | none => deduped.set record.runtimeHash record
    | some existing =>
      if Replaces rank record existing then deduped.set record.runtimeHash record else deduped
  else deduped

/-- `_export_candidate_records` -/
def exportCandidateRecords (engine : Engine) (goalKeys : List String)
    (capabilityRecords : List ArchiveRecord) : List ArchiveRecord :=
  (capabilityRecords.foldl (keepCandidate (objectiveRank (engine.exportObjectiveNames goalKeys)))
    Dict.empty).values

/-! ## Rows -/

structure ScoreRow where
  runtimeHash : String
  runtimeDir : String
  goalScore : Score
  validationScore : Option Score
  validationEvaluated : Bool
  validationError : Option String
  exportEligible : Bool
  archiveKind : ArchiveKind
  promotionType : String
  trainScore : Score
  mutableLoc : ℤ
  scopeTag : String
  behaviorBin : List String

/-- The key by which the rows are sorted. -/
def ScoreRow.sortKey (row : ScoreRow) :
    ℕ ×ₗ Scoreᵒᵈ ×ₗ Scoreᵒᵈ ×ₗ Scoreᵒᵈ ×ₗ ℤ ×ₗ String :=
  toLex (if row.exportEligible then 0 else 1,
    toLex (.toDual row.goalScore,
      toLex (.toDual (row.validationScore.getD 0),
        toLex (.toDual row.trainScore,
          toLex (row.mutableLoc, row.runtimeHash)))))

section Rows

variable (engine : Engine) (scoringKeys : List String)

/-- `goal_scores`; candidates have different hashes. -/
def goalScore (record : ArchiveRecord) : Score := meanGoalScore record.scores scoringKeys

/-- What `_export_validation_score` makes of a candidate. -/
def validation (record : ArchiveRecord) : Except String Score :=
  engine.exportValidationScore record.runtimeDir scoringKeys

/-- A validation that passes: no exception and, with an oracle package, a positive score. -/
def passes (outcome : Except String Score) : Bool :=
  match outcome with
  | .ok score => !engine.oracleMode || 0 < score
  | .error _ => false

/-- `successful_validations` of a group. -/
def groupValidates (candidates : List ArchiveRecord) (score : Score) : Bool :=
  (candidates.filter fun record => goalScore scoringKeys record = score).any fun record =>
    passes engine (validation engine scoringKeys record)

/-- The loop over the groups of candidates: the outcomes of the validations, and
`winning_goal_score`. -/
def validateGroups (candidates : List ArchiveRecord) :
    List Score → Dict String (Except String Score) →
      Dict String (Except String Score) × Option Score
  | [], outcomes => (outcomes, none)
  | score :: scores, outcomes =>
    let group := candidates.filter fun record => goalScore scoringKeys record = score
    let outcomes := group.foldl
      (fun outcomes record =>
        outcomes.set record.runtimeHash (validation engine scoringKeys record))
      outcomes
    if groupValidates engine scoringKeys candidates score then (outcomes, some score)
    else validateGroups candidates scores outcomes

/-- `sorted(grouped_candidates, reverse=True)` -/
def groupScores (candidates : List ArchiveRecord) : List Score :=
  (candidates.map (goalScore scoringKeys)).dedup.insertionSort (· ≥ ·)

/-- The row of a candidate. -/
def scoreRow (outcomes : Dict String (Except String Score)) (winningGoalScore : Option Score)
    (record : ArchiveRecord) : ScoreRow :=
  let outcome := outcomes.get? record.runtimeHash
  { runtimeHash := record.runtimeHash
    runtimeDir := record.runtimeDir
    goalScore := goalScore scoringKeys record
    validationScore := outcome.bind Except.toOption
    validationEvaluated := outcome.isSome
    validationError := outcome.bind fun outcome =>
      match outcome with
      | .ok _ => none
      | .error message => some message
    exportEligible :=
      record.archiveKind = .capability ∧ winningGoalScore = some (goalScore scoringKeys record) ∧
        (outcome.map (passes engine)).getD false = true
    archiveKind := record.archiveKind
    promotionType := ((record.promotionType <|> record.entryPromotionType).getD "")
    trainScore := scoreOf record.scores (scoringKeys.headD "sbar:global")
    mutableLoc := record.mutableLoc
    scopeTag := record.scopeTag
    behaviorBin := record.behaviorBin }

end Rows

/-- `_score_rows_for_candidates` -/
def scoreRowsForCandidates (engine : Engine) (candidates : List ArchiveRecord)
    (goalKeys : List String) : List ScoreRow :=
  let scoringKeys := engine.exportObjectiveNames goalKeys
  let (outcomes, winningGoalScore) := validateGroups engine scoringKeys candidates
    (groupScores scoringKeys candidates) Dict.empty
  (candidates.map (scoreRow engine scoringKeys outcomes winningGoalScore)).insertionSort
    fun row other => row.sortKey ≤ other.sortKey

/-- The leader of a build: the first row that may be exported. -/
def leaderRow (engine : Engine) (goalKeys : List String) (capabilityRecords : List ArchiveRecord) :
    Option ScoreRow :=
  (scoreRowsForCandidates engine (exportCandidateRecords engine goalKeys capabilityRecords)
    goalKeys).find? (·.exportEligible)

end Agintor.Factory.Export
