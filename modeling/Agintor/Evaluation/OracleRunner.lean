import Mathlib.Algebra.Order.Ring.Rat
import Agintor.Lib.Dict
import Agintor.Lib.Raise
import Agintor.Oracle.Packages

/-!
# Evaluation under an oracle package

`evaluation/oracle_runner.py`: the validators of a task give results, the results of a claim are
joined, each result becomes a report, and a claim's posterior is read off its reports against the
authority that the claim needs. Digests and times are left out.
-/

namespace Agintor.Evaluation

open Core Lib Oracle

inductive ValidatorStatus
  | pass
  | fail
  | error
  | abstain
  | quarantine
deriving DecidableEq

inductive EvidenceStatus
  | pass
  | fail
  | score
  | abstain
  | contradiction
  | error
  | quarantine
deriving DecidableEq

def ValidatorStatus.evidence : ValidatorStatus → EvidenceStatus
  | .pass => .pass
  | .fail => .fail
  | .error => .error
  | .abstain => .abstain
  | .quarantine => .quarantine

def ValidatorStatus.verdict : ValidatorStatus → Option Bool
  | .pass => some true
  | .fail => some false
  | _ => none

structure ValidatorResult where
  validatorId : String
  familyId : String := ""
  claimIds : List String := []
  status : ValidatorStatus
  authorityUsed : String := "A0"
  observations : List (String × Json) := []

structure ClaimResult where
  claimId : String
  satisfied : Option Bool
  posteriorLower : Option ℚ
  posteriorUpper : Option ℚ
  authorityMass : Dict String ℚ
  coverage : ℚ
  residualUnverified : String
  validatorResultIds : List String

structure ValidatorReport where
  validatorId : String
  familyId : String
  claimIds : List String
  status : EvidenceStatus
  score : Option ℚ
  intervalLower : Option ℚ
  intervalUpper : Option ℚ
  authorityUsed : String
  authorityCeiling : String
  coverage : ℚ
  independenceGroup : String
  leakageFlags : List String
  observations : List (String × Json)

inductive PosteriorState
  | satisfied
  | failed
  | uncertain
  | abstained
  | quarantined
  | unverifiable
deriving DecidableEq

structure ClaimPosterior where
  claimId : String
  state : PosteriorState
  posteriorLower : Option ℚ
  posteriorUpper : Option ℚ
  authorityMass : Dict String ℚ
  coverage : ℚ
  residualMass : ℚ
  residualReason : String

inductive AuditStatus
  | pass
  | fail
  | abstain
  | quarantine
  | diagnostic
deriving DecidableEq

structure EvidenceLedger where
  validatorReports : List ValidatorReport
  claimPosteriors : List ClaimPosterior
  authorityMass : Dict String ℚ
  coverage : Dict String ℚ
  leakageFlags : List String
  unverifiableResidual : Dict String String
  auditStatus : AuditStatus

namespace OracleEvaluationRunner

/-- `authority_mass[key] += amount` -/
def addMass (mass : Dict String ℚ) (key : String) (amount : ℚ) : Dict String ℚ :=
  mass.set key ((mass.get? key).getD 0 + amount)

/-- `1.0 if passed else 0.0 if failed else None` -/
def bound : Option Bool → Option ℚ
  | some true => some 1
  | some false => some 0
  | none => none

/-! ## Claim results -/

/-- `by_claim.get(claim_id, [])`: the results that name the claim, once for each time they do. -/
def byClaim (allowed : Option (List String)) (results : List ValidatorResult) (claimId : String) :
    List ValidatorResult :=
  results.flatMap fun result =>
    (result.claimIds.filter fun id => id = claimId ∧ allowed.all (id ∈ ·)).map fun _ => result

/-- The verdict of the results of one claim. -/
def satisfiedBy (results : List ValidatorResult) : Option Bool :=
  let passed := results.filter (·.status = .pass)
  let failed := results.filter (·.status ∈ [.fail, .error, .quarantine])
  if failed ≠ [] then some false else if passed ≠ [] then some true else none

/-- `ClaimResult(…)` -/
def claimResult (claimId : String) (results : List ValidatorResult) : ClaimResult where
  claimId := claimId
  satisfied := satisfiedBy results
  posteriorLower := bound (satisfiedBy results)
  posteriorUpper := bound (satisfiedBy results)
  authorityMass := results.foldl (fun mass result => addMass mass result.authorityUsed 1) .empty
  coverage := if results ≠ [] then 1 else 0
  residualUnverified := if results ≠ [] then "" else "missing_validator_result"
  validatorResultIds := results.map (·.validatorId)

/-- `_claim_results` -/
def claimResults (package : OraclePackage) (validatorResults : List ValidatorResult)
    (claimIds : Option (List String)) : List ClaimResult :=
  (package.claimGraph.claims.filter fun claim => claimIds.all (claim.claimId ∈ ·)).map fun claim =>
    claimResult claim.claimId (byClaim claimIds validatorResults claim.claimId)

/-! ## Validator reports -/

variable (P : PythonText)

/-- `[str(flag) for flag in raw]` -/
def flagTexts : Json → Except String (List String)
  | .array items => .ok (items.map P.str)
  | .object fields => .ok (fields.map Prod.fst)
  | .str s => .ok (s.toList.map String.singleton)
  | .null => .error "'NoneType' object is not iterable"
  | .bool _ => .error "'bool' object is not iterable"
  | .int _ => .error "'int' object is not iterable"
  | .float _ | .nonFinite => .error "'float' object is not iterable"

/-- The value under a key, when it is there and true. -/
def observed (observations : List (String × Json)) (key : String) : Option Json :=
  (Json.get? key observations).filter Json.truthy

def leakageFlags (observations : List (String × Json)) : Except String (List String) :=
  if (observed observations "leakage").isSome ∨ (observed observations "leakage_flags").isSome then
    flagTexts P ((observed observations "leakage_flags").getD (.array [.str "leakage"]))
  else
    .ok []

/-- `spec_by_id` -/
def specById (validators : List ValidatorSpec) : Dict String ValidatorSpec :=
  validators.foldl (fun specs validator => specs.set validator.validatorId validator) .empty

/-- `ValidatorReport(…)`, given the specification of the validator. -/
def validatorReport (result : ValidatorResult) (spec : Option ValidatorSpec)
    (leakageFlags : List String) : ValidatorReport where
  validatorId := result.validatorId
  familyId := result.familyId
  claimIds := result.claimIds
  status := result.status.evidence
  score := bound result.status.verdict
  intervalLower := bound result.status.verdict
  intervalUpper := bound result.status.verdict
  authorityUsed := result.authorityUsed
  authorityCeiling := (spec.map (·.authorityCeiling)).getD "A0"
  coverage := if result.status ∈ [.pass, .fail] then 1 else 0
  independenceGroup := (spec.map (·.independenceGroup)).getD "default"
  leakageFlags := leakageFlags
  observations := result.observations

/-- `_validator_reports` -/
def validatorReports (validatorResults : List ValidatorResult) (validators : List ValidatorSpec) :
    Except String (List ValidatorReport) :=
  validatorResults.mapM fun result => do
    let flags ← leakageFlags P result.observations
    .ok (validatorReport result ((specById validators).get? result.validatorId) flags)

/-! ## Authority -/

/-- `_authority_rank`: the text is split into the letter and one more character. -/
def authorityRank (authority : String) : Except String ℕ :=
  match authority.toList with
  | ['A', c] =>
    if P.isDigit c then
      match P.digit? c with
      | some n => .ok n
      | none => .error ("invalid literal for int() with base 10: '" ++ String.singleton c ++ "'")
    else
      .ok 0
  | _ => .ok 0

/-- `f"A{rank}"` -/
def authorityText (rank : ℕ) : String := "A" ++ toString rank

def planRank (plan : Option ValidationPlan) (claimId : String) : Except String ℕ :=
  match plan.bind fun plan => plan.claims.find? (·.claimId = claimId) with
  | some claim => authorityRank P (claim.authorityFloor.str P)
  | none => .ok 0

def claimRank (graph : ClaimGraph) (claimId : String) : Except String ℕ :=
  match graph.claims.find? (·.claimId = claimId) with
  | some claim => authorityRank P claim.minimumAuthority
  | none => .ok 0

/-- `_claim_authority_floor` -/
def claimAuthorityFloor (package : OraclePackage) (claimId : String) : Except String String := do
  let plan ← planRank P package.validationPlan claimId
  let claim ← claimRank P package.claimGraph claimId
  let axes := package.evidenceContract.qualityAxes.filter fun axis => axis.axisId.str P = claimId
  let ranks ← axes.mapM fun axis => authorityRank P (axis.minimumAuthority.str P)
  .ok (authorityText (ranks.foldl max (max plan claim)))

/-- `_effective_authority_rank` -/
def effectiveAuthorityRank (report : ValidatorReport) : Except String ℕ := do
  let used ← authorityRank P report.authorityUsed
  let ceiling ← authorityRank P report.authorityCeiling
  .ok (min used ceiling)

/-- `_supporting_authority_meets_floor` -/
def supportingAuthorityMeetsFloor (reports : List ValidatorReport) (authorityFloor : String) :
    Except String Bool := do
  let floor ← authorityRank P authorityFloor
  if floor ≤ 0 then
    .ok true
  else
    reports.anyM fun report =>
      if report.status ∈ [.pass, .score] ∧ 0 < report.coverage then do
        let rank ← effectiveAuthorityRank P report
        .ok (decide (floor ≤ rank))
      else
        .ok false

/-- `_authority_mass_for_reports` -/
def authorityMassForReports (reports : List ValidatorReport) : Except String (Dict String ℚ) :=
  reports.foldlM (fun mass report =>
    let coverage := max 0 report.coverage
    if 0 < coverage then do
      let rank ← effectiveAuthorityRank P report
      .ok (addMass mass (authorityText rank) coverage)
    else
      .ok mass) .empty

/-! ## Claim posteriors -/

/-- `_posterior_coverage` -/
def posteriorCoverage (reports : List ValidatorReport) : ℚ :=
  let supported := reports.filter fun report =>
    report.status ∈ [.pass, .fail, .score] ∧ 0 < report.coverage
  min 1 (supported.map fun report => max 0 report.coverage).sum

/-- `_posterior_quarantine_reason` -/
def posteriorQuarantineReason (reports : List ValidatorReport) : String :=
  if reports.any fun report => report.status = .quarantine then "validator_quarantine"
  else if reports.any fun report => report.leakageFlags ≠ [] then "leakage_flag"
  else ""

/-- `report_by_validator` -/
def reportByValidator (reports : List ValidatorReport) : Dict String ValidatorReport :=
  reports.foldl (fun byId report => byId.set report.validatorId report) .empty

/-- What a posterior rests on: its reports, and what was found of them. -/
structure PosteriorBasis where
  reports : List ValidatorReport
  coverage : ℚ
  authoritySufficient : Bool
  quarantineReason : String

def PosteriorBasis.state (basis : PosteriorBasis) (result : ClaimResult) : PosteriorState :=
  if basis.quarantineReason ≠ "" then .quarantined
  else if result.satisfied = some true ∧ basis.authoritySufficient then .satisfied
  else if result.satisfied = some true then .abstained
  else if result.satisfied = some false then .failed
  else if result.residualUnverified ≠ "" then .unverifiable
  else if basis.reports ≠ [] ∧ basis.coverage ≤ 0 then .abstained
  else .uncertain

/-- The posterior withholds its interval and coverage. -/
def PosteriorBasis.withheld (basis : PosteriorBasis) (result : ClaimResult) : Bool :=
  basis.quarantineReason ≠ "" ∨ (result.satisfied = some true ∧ ¬basis.authoritySufficient)

def PosteriorBasis.heldCoverage (basis : PosteriorBasis) (result : ClaimResult) : ℚ :=
  if basis.withheld result then 0 else basis.coverage

def PosteriorBasis.residualReason (basis : PosteriorBasis) (result : ClaimResult) : String :=
  let reason :=
    if basis.quarantineReason ≠ "" then basis.quarantineReason
    else if basis.withheld result ∧ result.residualUnverified = "" then "insufficient_authority"
    else result.residualUnverified
  if basis.reports ≠ [] ∧ basis.heldCoverage result ≤ 0 ∧ reason = "" then
    "unsupported_validator_result"
  else
    reason

/-- `ClaimPosterior(…)` -/
def PosteriorBasis.posterior (basis : PosteriorBasis) (result : ClaimResult)
    (authorityMass : Dict String ℚ) : ClaimPosterior where
  claimId := result.claimId
  state := basis.state result
  posteriorLower := if basis.withheld result then none else result.posteriorLower
  posteriorUpper := if basis.withheld result then none else result.posteriorUpper
  authorityMass := authorityMass
  coverage := basis.heldCoverage result
  residualMass := max 0 (1 - basis.heldCoverage result)
  residualReason := basis.residualReason result

/-- `_claim_posteriors` -/
def claimPosteriors (package : OraclePackage) (results : List ClaimResult)
    (reports : List ValidatorReport) : Except String (List ClaimPosterior) :=
  results.mapM fun result => do
    let authorityFloor ← claimAuthorityFloor P package result.claimId
    let own := result.validatorResultIds.filterMap (reportByValidator reports).get?
    let sufficient ← supportingAuthorityMeetsFloor P own authorityFloor
    let basis : PosteriorBasis :=
      ⟨own, posteriorCoverage own, sufficient, posteriorQuarantineReason own⟩
    let authorityMass ← authorityMassForReports P own
    .ok (basis.posterior result authorityMass)

/-! ## The ledger -/

/-- `_audit_status` -/
def auditStatus (reports : List ValidatorReport) (posteriors : List ClaimPosterior)
    (leakageFlags : List String) : AuditStatus :=
  let supported := reports.filter fun report =>
    report.status ∈ [.pass, .score] ∧ 0 < report.coverage
  if leakageFlags ≠ [] ∨ reports.any fun report => report.status = .quarantine then .quarantine
  else if reports.any fun report => report.status ∈ [.fail, .error, .contradiction] then .fail
  else if reports = [] then .diagnostic
  else if posteriors = [] then .diagnostic
  else if posteriors.any fun posterior => posterior.residualReason ≠ "" ∨
      posterior.state ∈ [.abstained, .unverifiable] ∨ 0 < posterior.residualMass then .abstain
  else if supported.length = reports.length ∧
      posteriors.any fun posterior => posterior.state = .satisfied then .pass
  else if reports.any fun report => report.status = .abstain then .abstain
  else .diagnostic

/-- `_evidence_ledger` -/
def evidenceLedger (reports : List ValidatorReport) (posteriors : List ClaimPosterior) :
    Except String EvidenceLedger := do
  let leakageFlags := reports.flatMap (·.leakageFlags)
  let authorityMass ← authorityMassForReports P reports
  let unverified := posteriors.filter fun posterior => posterior.residualReason ≠ ""
  .ok
    { validatorReports := reports
      claimPosteriors := posteriors
      authorityMass := authorityMass
      coverage :=
        posteriors.foldl (fun d posterior => d.set posterior.claimId posterior.coverage) .empty
      leakageFlags := leakageFlags
      unverifiableResidual :=
        unverified.foldl (fun d posterior => d.set posterior.claimId posterior.residualReason) .empty
      auditStatus := auditStatus reports posteriors leakageFlags }

/-- The end of `evaluate_run_with_ledger`: what it makes of the results of a task. -/
def evaluateResults (package : OraclePackage) (oracleTask : OracleTask)
    (validatorResults : List ValidatorResult) :
    Except String (List ClaimResult × EvidenceLedger) := do
  let validators := package.validatorSpecs.filter (·.validatorId ∈ oracleTask.validatorIds)
  let results := claimResults package validatorResults (some oracleTask.claimIds)
  let reports ← validatorReports P validatorResults validators
  let posteriors ← claimPosteriors P package results reports
  let ledger ← evidenceLedger P reports posteriors
  .ok (results, ledger)

/-! ## A run -/

/-- The families of a registry; a family's `run_validator` raises or returns. -/
def Registry (π : Type) : Type := String → Option (ValidatorSpec → π → Except String ValidatorResult)

variable {π : Type}

/-- `_run_validator` -/
def runValidator (registry : Registry π) (payload : π) (spec : ValidatorSpec) : ValidatorResult :=
  match registry spec.familyId with
  | none =>
    { validatorId := spec.validatorId, familyId := spec.familyId, claimIds := spec.claimIds
      status := .abstain
      observations := [("reason", .str "unsupported_validator_family")] }
  | some family =>
    match family spec payload with
    | .ok result => result
    | .error exc =>
      { validatorId := spec.validatorId, familyId := spec.familyId, claimIds := spec.claimIds
        status := .error
        observations := [("error", .str exc)] }

/-- `_task_for_run` -/
def taskForRun (package : OraclePackage) (runTaskId : String) : Option OracleTask :=
  (package.taskSets.flatMap (·.tasks)).find? fun task =>
    runTaskId = task.taskId ∨ runTaskId = task.benchmarkTaskId

/-- `evaluate_run_with_ledger`, given the payload that the validators of a task receive. -/
def evaluateRunWithLedger (registry : Registry π) (package : OraclePackage) (runTaskId : String)
    (payload : OracleTask → π) :
    Except String (List ValidatorResult × List ClaimResult × EvidenceLedger) :=
  match taskForRun package runTaskId with
  | none => do
    let results := claimResults package [] (some [])
    let posteriors ← claimPosteriors P package results []
    let ledger ← evidenceLedger P [] posteriors
    .ok ([], results, ledger)
  | some task => do
    let validators := package.validatorSpecs.filter (·.validatorId ∈ task.validatorIds)
    let validatorResults := validators.map (runValidator registry (payload task))
    let evaluated ← evaluateResults P package task validatorResults
    .ok (validatorResults, evaluated.1, evaluated.2)

end OracleEvaluationRunner

end Agintor.Evaluation
