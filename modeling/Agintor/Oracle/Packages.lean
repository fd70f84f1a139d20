import Agintor.Core.Json

/-!
# Oracle packages

`contracts/oracle.py`, `contracts/evidence.py` and `contracts/validation.py`: the parts of a package
that an evaluation reads. The validation plan is not written with a package; it is made again from
the claims when the package is read back.
-/

namespace Agintor.Oracle

open Core

/-- What Python says of one character (`str.isdigit`, `int`) and of JSON data (`str`). -/
structure PythonText where
  isDigit : Char → Bool
  digit? : Char → Option ℕ
  str : Json → String
  digit?_digitChar : ∀ n < 10, digit? (Nat.digitChar n) = some n
  isDigit_of_digit? : ∀ c n, digit? c = some n → isDigit c = true ∧ n < 10
  str_text : ∀ s, str (.str s) = s

/-! ## Authority -/

inductive AuthorityLevel
  | none
  | heuristic
  | preference
  | traceOrArtifact
  | privateOracle
  | humanAudited
  | formalOrCertifiedProof
  | promotionNone
  | promotionExploration
  | promotionWeakPreference
  | promotionGroundedSubskill
  | promotionLocalCapability
  | promotionSealedCapability
  | promotionCertifiedInvariant
deriving DecidableEq

def AuthorityLevel.name : AuthorityLevel → String
  | .none => "NONE"
  | .heuristic => "HEURISTIC"
  | .preference => "PREFERENCE"
  | .traceOrArtifact => "TRACE_OR_ARTIFACT"
  | .privateOracle => "PRIVATE_ORACLE"
  | .humanAudited => "HUMAN_AUDITED"
  | .formalOrCertifiedProof => "FORMAL_OR_CERTIFIED_PROOF"
  | .promotionNone => "PROMOTION_NONE"
  | .promotionExploration => "PROMOTION_EXPLORATION"
  | .promotionWeakPreference => "PROMOTION_WEAK_PREFERENCE"
  | .promotionGroundedSubskill => "PROMOTION_GROUNDED_SUBSKILL"
  | .promotionLocalCapability => "PROMOTION_LOCAL_CAPABILITY"
  | .promotionSealedCapability => "PROMOTION_SEALED_CAPABILITY"
  | .promotionCertifiedInvariant => "PROMOTION_CERTIFIED_INVARIANT"

def AuthorityLevel.value : AuthorityLevel → String
  | .none => "A0"
  | .heuristic => "A1"
  | .preference => "A2"
  | .traceOrArtifact => "A3"
  | .privateOracle => "A4"
  | .humanAudited => "A5"
  | .formalOrCertifiedProof => "A6"
  | .promotionNone => "M0"
  | .promotionExploration => "M1"
  | .promotionWeakPreference => "M2"
  | .promotionGroundedSubskill => "M3"
  | .promotionLocalCapability => "M4"
  | .promotionSealedCapability => "M5"
  | .promotionCertifiedInvariant => "M6"

/-- What a field of authority holds. Validation keeps the value of a member of the enumeration that
is given; a default is not validated and stays a member. -/
inductive FieldValue
  | json (value : Json)
  | level (level : AuthorityLevel)

namespace FieldValue

/-- `str(value)` -/
def str (P : PythonText) : FieldValue → String
  | json value => P.str value
  | level authority => "AuthorityLevel." ++ authority.name

/-- `model_dump(mode="json")` -/
def dump : FieldValue → Json
  | json value => value
  | level authority => .str authority.value

end FieldValue

/-! ## Packages -/

structure ClaimSpec where
  claimId : String
  minimumAuthority : String := "A4"

structure ClaimGraph where
  claims : List ClaimSpec
  unique : (claims.map (·.claimId)).Nodup

structure ValidatorSpec where
  validatorId : String
  familyId : String
  claimIds : List String := []
  authorityCeiling : String := "A4"
  independenceGroup : String := "default"

structure OracleTask where
  taskId : String
  benchmarkTaskId : String
  claimIds : List String := []
  validatorIds : List String := []

structure OracleTaskSet where
  tasks : List OracleTask := []

/-- A quality axis is a `QualityAxisSpec`, or the dictionary that an axis given as one stays. -/
inductive QualityAxis
  | spec (axisId : String) (minimumAuthority : FieldValue)
  | raw (fields : List (String × FieldValue))

/-- `QualityAxisSpec(axis_id=axis_id)` -/
def QualityAxis.default (axisId : String) : QualityAxis := .spec axisId (.level .privateOracle)

structure EvidenceContract where
  qualityAxes : List QualityAxis

structure ValidationClaim where
  claimId : String
  authorityFloor : FieldValue := .level .privateOracle

structure ValidationPlan where
  claims : List ValidationClaim

structure OraclePackage where
  claimGraph : ClaimGraph
  validatorSpecs : List ValidatorSpec
  taskSets : List OracleTaskSet
  evidenceContract : EvidenceContract
  validationPlan : Option ValidationPlan

namespace QualityAxis

/-- `raw.get(key, default)` -/
def field (fields : List (String × FieldValue)) (key : String) (default : String) : FieldValue :=
  ((fields.find? fun entry => entry.1 = key).map Prod.snd).getD (.json (.str default))

/-- `getattr(axis, "axis_id", raw.get("axis_id", ""))` -/
def axisId : QualityAxis → FieldValue
  | spec axisId _ => .json (.str axisId)
  | raw fields => field fields "axis_id" ""

/-- `getattr(axis, "minimum_authority", raw.get("minimum_authority", "A0"))` -/
def minimumAuthority : QualityAxis → FieldValue
  | spec _ minimumAuthority => minimumAuthority
  | raw fields => field fields "minimum_authority" "A0"

/-- The dictionary that is written for an axis, and stays one when it is read back. -/
def dump : QualityAxis → QualityAxis
  | spec axisId minimumAuthority => .raw
    [("axis_id", .json (.str axisId)), ("minimum_authority", .json minimumAuthority.dump)]
  | raw fields => .raw (fields.map fun entry => (entry.1, .json entry.2.dump))

end QualityAxis

/-! ## Writing and reading -/

/-- `validation_plan_from_oracle_package` -/
def validationPlanFromOraclePackage (package : OraclePackage) : ValidationPlan where
  claims := package.claimGraph.claims.map fun claim =>
    ⟨claim.claimId, .json (.str claim.minimumAuthority)⟩

namespace OraclePackage

/-- `_bind_validation_plan` -/
def bindValidationPlan (package : OraclePackage) : OraclePackage :=
  { package with validationPlan := some (validationPlanFromOraclePackage package) }

/-- The package that `model_validate` makes of the payload of a package. -/
def sealedPayload (package : OraclePackage) : OraclePackage :=
  { package with
    evidenceContract := ⟨package.evidenceContract.qualityAxes.map QualityAxis.dump⟩
    validationPlan := none }

/-- `load_oracle_package` after `write_oracle_package` -/
def loaded (package : OraclePackage) : OraclePackage := package.sealedPayload.bindValidationPlan

/-- The package was built without a plan, or with the plan of its claims. -/
def PlanDerived (package : OraclePackage) : Prop :=
  package.validationPlan = none ∨
    package.validationPlan = some (validationPlanFromOraclePackage package)

end OraclePackage

end Agintor.Oracle
