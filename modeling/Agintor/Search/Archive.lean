import Agintor.Core.Text
import Agintor.Lib.Dict
import Mathlib.Algebra.Order.Field.Rat
import Mathlib.Data.List.MinMax

/-!
# The quality-diversity archive

`QualityDiversityArchive.insert` of `search/archive.py` in exact arithmetic, with cell keys of any
type `K`. The promotion types of decisions are those of the enumeration; with any other an entry
fails its own validation before anything is stored.
-/

namespace Agintor.Search

open Agintor.Core Lib

/-! ## Evaluations and decisions -/

/-- What the archive reads of a `RunResult`. -/
structure ArchivedRun where
  taskId : String
  mode : Option String
  createdTools : ℤ
  promotedNodes : ℤ
  checksUsed : ℤ
  traceRef : String

structure SuiteEvaluation where
  objectiveScores : Dict String ℚ
  runResults : List ArchivedRun

structure ProgressSignal where
  improvedAxes : List String
  regressedAxes : List String
  tiedAxes : List String

/-- What the archive reads of a promotion decision; a field that a mapping lacks is `none`. -/
structure PromotionDecision where
  decisionType : Option String
  decisionId : Option String
  progressSignalRef : Option String
  contractId : Option String
  evidenceDigest : Option String
  oraclePackageHash : Option String
  childRuntimeSpecDigest : Option String
  progressSignal : Option ProgressSignal
  efficiencyDeltaLower : Option ℚ
  efficiencyDeltaEstimate : Option ℚ

/-- `decision_field_value` -/
def decisionFieldValue (decision : Option PromotionDecision)
    (field : PromotionDecision → Option String) : String :=
  (decision.bind field).getD ""

/-- `a or b` of texts. -/
def textOr (text other : String) : String := if text = "" then other else text

/-! ## Descriptors -/

structure RuntimeDescriptor where
  codeHash : String
  runtimeHash : String
  behaviorBin : List String
  interfaceDiffMask : String
  scopeTag : String
  complexityBucket : ℕ
  mutableLoc : ℤ
  mutableAstNodes : ℤ

/-- `INTERFACES` -/
def interfaces : List String := ["top", "mem", "tool", "ctl"]

def interfaceBitmask (scope : List String) : String :=
  String.join (interfaces.map fun name => if name ∈ scope then "1" else "0")

/-- `tri_bin` -/
def triBin (value low high : ℚ) : String :=
  if value < low then "low" else if value < high then "mid" else "high"

/-- Per run, with one run at least. -/
def density (count : ArchivedRun → ℤ) (runs : List ArchivedRun) : ℚ :=
  (runs.map count).sum / max 1 runs.length

/-- `run.mode or "single"` -/
def runMode (run : ArchivedRun) : String := textOr (run.mode.getD "") "single"

/-- The first of the most frequent modes. -/
def dominantMode (modes : List String) : String :=
  ((sortedUnique modes).argmax fun mode => modes.count mode).getD "single"

/-- `behavior_descriptor` -/
def behaviorDescriptor (evaluation : SuiteEvaluation) : List String :=
  [dominantMode (evaluation.runResults.map runMode),
    triBin (density (·.createdTools) evaluation.runResults) (34 / 100) (67 / 100),
    triBin (density (·.promotedNodes) evaluation.runResults) (34 / 100) (67 / 100),
    triBin (density (·.checksUsed) evaluation.runResults) (75 / 100) (150 / 100)]

/-- `_complexity_bucket`, from the sizes of the runtimes that were inserted before. -/
def complexityBucket (counts : List ℤ) (mutableAstNodes : ℤ) : ℕ :=
  let sorted := counts.insertionSort (· ≤ ·)
  let quartile (q : ℕ) : ℤ := sorted.getD ((sorted.length - 1) * q / 4) 0
  if counts = [] then 0
  else if mutableAstNodes ≤ quartile 1 then 0
  else if mutableAstNodes ≤ quartile 2 then 1
  else if mutableAstNodes ≤ quartile 3 then 2
  else 3

/-! ## Records -/

/-- `ARCHIVE_KINDS` -/
inductive ArchiveKind
  | capability
  | efficiency
  | subskill
  | preference
deriving DecidableEq

namespace ArchiveKind

def text : ArchiveKind → String
  | capability => "capability"
  | efficiency => "efficiency"
  | subskill => "subskill"
  | preference => "preference"

def all : List ArchiveKind := [capability, efficiency, subskill, preference]

def ofText? (text : String) : Option ArchiveKind := all.find? (·.text = text)

end ArchiveKind

structure ArchiveEntry where
  codeHash : String
  runtimeHash : String
  scores : Dict String ℚ
  behaviorBin : List String
  scopeTag : String
  complexityBucket : ℕ
  mutableLoc : ℤ
  traceRefs : List String
  promotionType : Option String
  promotionDecisionRef : Option String
  progressSignalRef : Option String
  evidenceContractId : String
  evidenceDigest : String
  oraclePackageHash : String
  runtimeSpecDigest : String
  mutationActionIds : List String
  promotionScore : Option ℚ
  improvedAxes : List String
  regressedAxes : List String
  tiedAxes : List String

structure ArchiveRecord (K : Type) where
  objective : String
  key : K
  entry : ArchiveEntry
  runtimeDir : String
  archiveKind : ArchiveKind
  promotionType : Option String
  promotionDecisionRef : Option String
  evidenceContractId : String
  oraclePackageHash : String
  runtimeSpecDigest : String

/-- The cells of one kind, and its islands by objective; an objective without a list has the
empty one. -/
structure ArchiveStore (K : Type) where
  cells : Dict (String × K) (ArchiveRecord K)
  byObjective : String → List (ArchiveRecord K)

structure QualityDiversityArchive (K : Type) where
  deltaF : ℚ
  stores : ArchiveKind → ArchiveStore K
  runtimeDirs : Dict String String
  runtimeEvaluations : Dict String SuiteEvaluation
  runtimeDescriptors : Dict String RuntimeDescriptor

/-- The arguments of `insert`. -/
structure Insertion where
  runtimeDir : String
  runtimeHash : String
  codeHash : String
  mutableLoc : ℤ
  evaluation : SuiteEvaluation
  scope : List String
  mutableAstNodes : Option ℤ
  interfaceDiffMask : Option String
  archiveKind : String
  promotionDecision : Option PromotionDecision
  objectives : Option (List String)
  oraclePackageHash : String
  runtimeSpecDigest : String
  mutationActionIds : List String

/-- What a cell key is the hash of. -/
structure CellIdentity where
  archiveKind : String
  objective : String
  interfaceDiffMask : String
  behaviorBin : List String
  scopeTag : String
  complexityBucket : ℕ
deriving DecidableEq

inductive ArchiveError
  | unknownKind (kind : String)
deriving DecidableEq

namespace Insertion

/-- `_promotion_score` -/
def promotionScore (call : Insertion) (kind : ArchiveKind) (objective : String) : ℚ :=
  if kind = .efficiency then
    let delta := call.promotionDecision.bind fun decision =>
      decision.efficiencyDeltaLower <|> decision.efficiencyDeltaEstimate
    delta.getD 0
  else (call.evaluation.objectiveScores.get? objective).getD 0

/-- The text after the first colon, and the text before it. -/
def splitColon (objective : String) : Option (String × String) :=
  match objective.toList.span (· ≠ ':') with
  | (_, []) => none
  | (before, _ :: after) => some (String.ofList before, String.ofList after)

/-- `_trace_refs_for_objective` -/
def traceRefs (call : Insertion) (objective : String) : List String :=
  let runs := call.evaluation.runResults
  match splitColon objective with
  | some ("s", taskId) => (runs.filter (·.taskId = taskId)).map (·.traceRef)
  | some (_, family) =>
    if family ∈ ["top", "mem", "tool", "e2e"] then
      (runs.filter fun run => (family ++ ".").isPrefixOf run.taskId).map (·.traceRef)
    else runs.map (·.traceRef)
  | none => runs.map (·.traceRef)

/-- `target_objectives` -/
def targetObjectives (call : Insertion) : List String :=
  call.objectives.getD call.evaluation.objectiveScores.keys

def descriptor (call : Insertion) (counts : List ℤ) : RuntimeDescriptor :=
  let astNodes := call.mutableAstNodes.getD call.mutableLoc
  { codeHash := call.codeHash
    runtimeHash := call.runtimeHash
    behaviorBin := behaviorDescriptor call.evaluation
    interfaceDiffMask := textOr (call.interfaceDiffMask.getD "") (interfaceBitmask call.scope)
    scopeTag := textOr (String.intercalate "+" (call.scope.insertionSort (· ≤ ·))) "seed"
    complexityBucket := Search.complexityBucket counts astNodes
    mutableLoc := call.mutableLoc
    mutableAstNodes := astNodes }

end Insertion

/-! ## Insertion -/

section Insert

variable {K : Type} [DecidableEq K] (stableHash : CellIdentity → K)

/-- The score an incumbent is held against; `none` is minus infinity. -/
def ArchiveRecord.incumbentScore (record : ArchiveRecord K) (objective : String) : Option ℚ :=
  record.entry.promotionScore <|> record.entry.scores.get? objective

/-- A clear gain, or a near tie with smaller code. -/
def Replaces (deltaF : ℚ) (objective : String) (score : ℚ) (mutableLoc : ℤ)
    (incumbent : ArchiveRecord K) : Prop :=
  ∀ incumbentScore ∈ incumbent.incumbentScore objective,
    incumbentScore + deltaF < score ∨
      |score - incumbentScore| ≤ deltaF ∧ mutableLoc < incumbent.entry.mutableLoc

instance (deltaF : ℚ) (objective : String) (score : ℚ) (mutableLoc : ℤ)
    (incumbent : ArchiveRecord K) :
    Decidable (Replaces deltaF objective score mutableLoc incumbent) :=
  inferInstanceAs (Decidable (∀ _ ∈ _, _ ∨ _ ∧ _))

namespace ArchiveStore

def empty : ArchiveStore K := ⟨.empty, fun _ => []⟩

/-- The cell and the island of a first record. -/
def add (store : ArchiveStore K) (record : ArchiveRecord K) : ArchiveStore K where
  cells := store.cells.set (record.objective, record.key) record
  byObjective := Function.update store.byObjective record.objective
    (store.byObjective record.objective ++ [record])

/-- The cell and the island of a record that takes the place of another. -/
def replace (store : ArchiveStore K) (record : ArchiveRecord K) : ArchiveStore K where
  cells := store.cells.set (record.objective, record.key) record
  byObjective := Function.update store.byObjective record.objective
    ((store.byObjective record.objective).filter (·.key ≠ record.key) ++ [record])

end ArchiveStore

/-- `_cell_key` -/
def cellKey (kind : ArchiveKind) (objective : String) (descriptor : RuntimeDescriptor) : K :=
  stableHash
    { archiveKind := kind.text
      objective := objective
      interfaceDiffMask := descriptor.interfaceDiffMask
      behaviorBin := descriptor.behaviorBin
      scopeTag := descriptor.scopeTag
      complexityBucket := descriptor.complexityBucket }

namespace Insertion

/-- `entry` -/
def entry (call : Insertion) (kind : ArchiveKind) (descriptor : RuntimeDescriptor)
    (objective : String) : ArchiveEntry :=
  let decision := call.promotionDecision
  let signal := decision.bind (·.progressSignal)
  { codeHash := call.codeHash
    runtimeHash := call.runtimeHash
    scores := call.evaluation.objectiveScores
    behaviorBin := descriptor.behaviorBin
    scopeTag := descriptor.scopeTag
    complexityBucket := descriptor.complexityBucket
    mutableLoc := call.mutableLoc
    traceRefs := call.traceRefs objective
    promotionType := decision.bind (·.decisionType)
    promotionDecisionRef := decision.bind (·.decisionId)
    progressSignalRef := decision.bind (·.progressSignalRef)
    evidenceContractId := decisionFieldValue decision (·.contractId)
    evidenceDigest := decisionFieldValue decision (·.evidenceDigest)
    oraclePackageHash := textOr call.oraclePackageHash
      (decisionFieldValue decision (·.oraclePackageHash))
    runtimeSpecDigest := textOr call.runtimeSpecDigest
      (decisionFieldValue decision (·.childRuntimeSpecDigest))
    mutationActionIds := call.mutationActionIds
    promotionScore := some (call.promotionScore kind objective)
    improvedAxes := (signal.map (·.improvedAxes)).getD []
    regressedAxes := (signal.map (·.regressedAxes)).getD []
    tiedAxes := (signal.map (·.tiedAxes)).getD [] }

/-- `record` -/
def record (call : Insertion) (kind : ArchiveKind) (descriptor : RuntimeDescriptor)
    (objective : String) : ArchiveRecord K :=
  let entry := call.entry kind descriptor objective
  { objective := objective
    key := cellKey stableHash kind objective descriptor
    entry := entry
    runtimeDir := call.runtimeDir
    archiveKind := kind
    promotionType := entry.promotionType
    promotionDecisionRef := entry.promotionDecisionRef
    evidenceContractId := entry.evidenceContractId
    oraclePackageHash := entry.oraclePackageHash
    runtimeSpecDigest := entry.runtimeSpecDigest }

end Insertion

/-- One round of the loop over the objectives: the store, and whether the record was stored. -/
def ArchiveStore.offer (deltaF : ℚ) (store : ArchiveStore K) (record : ArchiveRecord K)
    (score : ℚ) : ArchiveStore K × Bool :=
  match store.cells.get? (record.objective, record.key) with
  | none => (store.add record, true)
  | some incumbent =>
    if Replaces deltaF record.objective score record.entry.mutableLoc incumbent then
      (store.replace record, true)
    else (store, false)

/-- The loop, with the keys inserted so far. -/
def Insertion.offerAll (call : Insertion) (deltaF : ℚ) (kind : ArchiveKind)
    (descriptor : RuntimeDescriptor) :
    ArchiveStore K → List K → List String → ArchiveStore K × List K
  | store, inserted, [] => (store, inserted)
  | store, inserted, objective :: objectives =>
    let record := call.record stableHash kind descriptor objective
    let outcome := store.offer deltaF record (call.promotionScore kind objective)
    call.offerAll deltaF kind descriptor outcome.1
      (if outcome.2 then inserted ++ [record.key] else inserted) objectives

namespace QualityDiversityArchive

def init (deltaF : ℚ) : QualityDiversityArchive K where
  deltaF := deltaF
  stores _ := .empty
  runtimeDirs := .empty
  runtimeEvaluations := .empty
  runtimeDescriptors := .empty

/-- `insert` -/
def insert (archive : QualityDiversityArchive K) (call : Insertion) :
    Except ArchiveError (QualityDiversityArchive K × List K) :=
  match ArchiveKind.ofText? call.archiveKind with
  | none => .error (.unknownKind call.archiveKind)
  | some kind =>
    let descriptor := call.descriptor (archive.runtimeDescriptors.values.map (·.mutableAstNodes))
    let outcome := call.offerAll stableHash archive.deltaF kind descriptor (archive.stores kind) []
      call.targetObjectives
    let stored := { archive with stores := Function.update archive.stores kind outcome.1 }
    .ok (if outcome.2 = [] then stored else
      { stored with
        runtimeDirs := stored.runtimeDirs.set call.runtimeHash call.runtimeDir
        runtimeEvaluations := stored.runtimeEvaluations.set call.runtimeHash call.evaluation
        runtimeDescriptors := stored.runtimeDescriptors.set call.runtimeHash descriptor },
      outcome.2)

/-- `archive_records` of one kind. -/
def archiveRecords (archive : QualityDiversityArchive K) (kind : ArchiveKind) :
    List (ArchiveRecord K) :=
  (archive.stores kind).cells.values

def island (archive : QualityDiversityArchive K) (objective : String) (kind : ArchiveKind) :
    List (ArchiveRecord K) :=
  (archive.stores kind).byObjective objective

/-- The archive after a call; one that raises leaves it as it is. -/
def afterInsert (archive : QualityDiversityArchive K) (call : Insertion) :
    QualityDiversityArchive K :=
  match archive.insert stableHash call with
  | .error _ => archive
  | .ok (after, _) => after

def insertAll (archive : QualityDiversityArchive K) (calls : List Insertion) :
    QualityDiversityArchive K :=
  calls.foldl (fun archive call => archive.afterInsert stableHash call) archive

end QualityDiversityArchive

end Insert

end Agintor.Search
