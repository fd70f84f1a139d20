import Agintor.Evaluation.OracleRunner
import Mathlib.Data.List.Perm.Basic
import Mathlib.Tactic.IntervalCases

/-!
# What the posterior of a claim says

Where every text of authority has a rank and every leakage flag can be listed, an evaluation
returns, and what it says of a claim is a function of the results that name the claim, in any order.
Adding a result that blocks a claim never makes it satisfied. A package that is written and read
back judges as before.
-/

namespace Agintor.Evaluation.OracleEvaluationRunner

open Core Lib Oracle

variable (P : PythonText)

/-! ## Ranks -/

def Ranked (authority : String) : Prop := ∃ n, authorityRank P authority = .ok n

/-- The rank of a text that has one. -/
def rank (authority : String) : ℕ := ((authorityRank P authority).toOption).getD 0

/-- The authority that a field was given: of a member of the enumeration, its value. -/
def given (field : FieldValue) : String := P.str field.dump

variable {P} {authority : String} {n : ℕ}

lemma rank_of_ok (h : authorityRank P authority = .ok n) : rank P authority = n := by
  unfold rank
  rw [h]
  rfl

lemma Ranked.eq_ok (h : Ranked P authority) :
    authorityRank P authority = .ok (rank P authority) := by
  obtain ⟨n, hn⟩ := h
  rw [rank_of_ok hn, hn]

lemma Ranked.lt (h : Ranked P authority) : rank P authority < 10 := by
  obtain ⟨n, hn⟩ := h
  rw [rank_of_ok hn]
  unfold authorityRank at hn
  split at hn
  · next c _ =>
    split at hn
    · split at hn
      · next m hm =>
        have hlt := (P.isDigit_of_digit? c m hm).2
        rw [← Except.ok.inj hn]
        exact hlt
      · exact absurd hn (by simp)
    · rw [← Except.ok.inj hn]
      omega
  · rw [← Except.ok.inj hn]
    omega

lemma toList_authorityText (h : n < 10) : (authorityText n).toList = ['A', Nat.digitChar n] := by
  interval_cases n <;> decide +kernel

/-- The text of a rank below ten has that rank. -/
lemma authorityRank_authorityText (h : n < 10) : authorityRank P (authorityText n) = .ok n := by
  have hdigit := P.digit?_digitChar n h
  have hisDigit := (P.isDigit_of_digit? _ n hdigit).1
  unfold authorityRank
  rw [toList_authorityText h]
  show (if P.isDigit (Nat.digitChar n) = true then _ else _) = _
  rw [if_pos hisDigit, hdigit]

lemma ranked_zero : Ranked P "A0" := by
  have htext : authorityText 0 = "A0" := by decide +kernel
  exact ⟨0, htext ▸ authorityRank_authorityText (by omega)⟩

lemma foldl_max_lt {bound start : ℕ} {ns : List ℕ} (hstart : start < bound)
    (h : ∀ n ∈ ns, n < bound) : ns.foldl max start < bound := by
  induction ns generalizing start with
  | nil => exact hstart
  | cons n ns ih =>
    have hn := h n List.mem_cons_self
    exact ih (by omega) fun m hm => h m (List.mem_cons_of_mem n hm)

/-! ## The authority that a claim needs -/

variable (P) in
/-- The minimum authorities of a claim, by the plan, the graph and the axes, where a field of
authority is taken as `text` says. -/
def authoritiesBy (text : FieldValue → String) (package : OraclePackage) (claimId : String) :
    List String :=
  let planClaim := package.validationPlan.bind fun plan => plan.claims.find? (·.claimId = claimId)
  let claim := package.claimGraph.claims.find? (·.claimId = claimId)
  let axes := package.evidenceContract.qualityAxes.filter fun axis =>
    axis.axisId.str P = claimId
  planClaim.toList.map (fun claim => text claim.authorityFloor) ++
    claim.toList.map (·.minimumAuthority) ++ axes.map fun axis => text axis.minimumAuthority

variable (P) in
/-- The authorities that an evaluation reads. -/
def requiredAuthorities (package : OraclePackage) (claimId : String) : List String :=
  authoritiesBy P (FieldValue.str P) package claimId

variable (P) in
/-- The largest rank that an evaluation reads. -/
def requiredRank (package : OraclePackage) (claimId : String) : ℕ :=
  ((requiredAuthorities P package claimId).map (rank P)).foldl max 0

variable (P) in
/-- The largest rank of the authorities that were given for the claim. -/
def floorRank (package : OraclePackage) (claimId : String) : ℕ :=
  ((authoritiesBy P (given P) package claimId).map (rank P)).foldl max 0

/-- The field does not hold a member of the enumeration. -/
def Plain (field : FieldValue) : Prop := ∃ value, field = .json value

variable (P) in
/-- The authorities of the claim were given, not left to their defaults. -/
structure GivenAsText (package : OraclePackage) (claimId : String) : Prop where
  plan : ∀ plan, package.validationPlan = some plan → ∀ claim ∈ plan.claims,
    claim.claimId = claimId → Plain claim.authorityFloor
  axisIds : ∀ axis ∈ package.evidenceContract.qualityAxes, Plain axis.axisId
  axes : ∀ axis ∈ package.evidenceContract.qualityAxes, axis.axisId.str P = claimId →
    Plain axis.minimumAuthority

variable {package : OraclePackage} {task : OracleTask} {results : List ValidatorResult}
  {claimId : String}

lemma Plain.str {field : FieldValue} (h : Plain field) : field.str P = given P field := by
  obtain ⟨value, rfl⟩ := h
  rfl

/-- Of a claim whose authorities were given, an evaluation reads what was given. -/
lemma requiredRank_eq (htext : GivenAsText P package claimId) :
    requiredRank P package claimId = floorRank P package claimId := by
  have hplan : ∀ claim ∈ (package.validationPlan.bind fun plan =>
      plan.claims.find? (·.claimId = claimId)).toList,
      claim.authorityFloor.str P = given P claim.authorityFloor := by
    intro claim hclaim
    obtain ⟨plan, hplan, hfind⟩ := Option.bind_eq_some_iff.mp (Option.mem_toList.mp hclaim)
    have hid := List.find?_some hfind
    exact (htext.plan plan hplan claim (List.mem_of_find?_eq_some hfind) (of_decide_eq_true hid)).str
  have haxes : ∀ axis ∈ package.evidenceContract.qualityAxes.filter fun axis =>
      axis.axisId.str P = claimId,
      axis.minimumAuthority.str P = given P axis.minimumAuthority := by
    intro axis haxis
    obtain ⟨hmem, hid⟩ := List.mem_filter.mp haxis
    exact (htext.axes axis hmem (of_decide_eq_true hid)).str
  unfold requiredRank floorRank requiredAuthorities authoritiesBy
  simp only [List.map_congr_left hplan, List.map_congr_left haxes]

lemma planRank_eq
    (hranked : ∀ authority ∈ requiredAuthorities P package claimId, Ranked P authority) :
    planRank P package.validationPlan claimId = .ok ((((package.validationPlan.bind fun plan =>
      plan.claims.find? (·.claimId = claimId)).toList.map
        fun claim => claim.authorityFloor.str P).map (rank P)).foldl max 0) := by
  unfold planRank
  rcases hclaim : package.validationPlan.bind fun plan =>
    plan.claims.find? (·.claimId = claimId) with _ | claim
  · rw [hclaim]
    rfl
  rw [hclaim]
  have hrank : Ranked P (claim.authorityFloor.str P) := by
    apply hranked
    unfold requiredAuthorities authoritiesBy
    rw [hclaim]
    exact List.mem_append_left _ (List.mem_append_left _ List.mem_cons_self)
  show authorityRank P (claim.authorityFloor.str P) = .ok (max 0 (rank P (claim.authorityFloor.str P)))
  rw [hrank.eq_ok, Nat.zero_max]

lemma claimRank_eq
    (hranked : ∀ authority ∈ requiredAuthorities P package claimId, Ranked P authority) :
    claimRank P package.claimGraph claimId =
      .ok ((((package.claimGraph.claims.find? (·.claimId = claimId)).toList.map
        (·.minimumAuthority)).map (rank P)).foldl max 0) := by
  unfold claimRank
  rcases hclaim : package.claimGraph.claims.find? (·.claimId = claimId) with _ | claim
  · rw [hclaim]
    rfl
  rw [hclaim]
  have hrank : Ranked P claim.minimumAuthority := by
    apply hranked
    unfold requiredAuthorities authoritiesBy
    rw [hclaim]
    exact List.mem_append_left _ (List.mem_append_right _ List.mem_cons_self)
  show authorityRank P claim.minimumAuthority = .ok (max 0 (rank P claim.minimumAuthority))
  rw [hrank.eq_ok, Nat.zero_max]

lemma foldl_max_append (ns ms : List ℕ) :
    (ns ++ ms).foldl max 0 = max (ns.foldl max 0) (ms.foldl max 0) := by
  rw [List.foldl_append]
  generalize ns.foldl max 0 = start
  induction ms generalizing start with
  | nil => rw [List.foldl_nil, List.foldl_nil, Nat.max_zero]
  | cons m ms ih =>
    rw [List.foldl_cons, List.foldl_cons, ih, ih (max 0 m)]
    omega

/-- Where every authority has a rank, the floor is the largest. -/
lemma claimAuthorityFloor_eq
    (hranked : ∀ authority ∈ requiredAuthorities P package claimId, Ranked P authority) :
    claimAuthorityFloor P package claimId = .ok (authorityText (requiredRank P package claimId)) := by
  have haxes : (package.evidenceContract.qualityAxes.filter fun axis =>
      axis.axisId.str P = claimId).mapM (fun axis =>
        authorityRank P (axis.minimumAuthority.str P)) =
      .ok ((package.evidenceContract.qualityAxes.filter fun axis =>
        axis.axisId.str P = claimId).map fun axis => rank P (axis.minimumAuthority.str P)) := by
    apply mapM_eq_map
    intro axis haxis
    have hrank : Ranked P (axis.minimumAuthority.str P) :=
      hranked _ (List.mem_append_right _ (List.mem_map_of_mem haxis))
    exact hrank.eq_ok
  unfold claimAuthorityFloor
  rw [planRank_eq hranked, claimRank_eq hranked]
  simp only [ok_bind, haxes]
  congr 2
  unfold requiredRank requiredAuthorities authoritiesBy
  rw [← foldl_max_append]
  simp only [List.map_append, List.map_map, List.foldl_append]
  rfl

lemma requiredRank_lt
    (hranked : ∀ authority ∈ requiredAuthorities P package claimId, Ranked P authority) :
    requiredRank P package claimId < 10 := by
  apply foldl_max_lt (by omega)
  intro n hn
  obtain ⟨authority, hauthority, rfl⟩ := List.mem_map.mp hn
  exact (hranked authority hauthority).lt

/-! ## Results and their reports -/

/-- The result carries a leakage flag. -/
def Flagged (result : ValidatorResult) : Prop :=
  (observed result.observations "leakage").isSome ∨
    (observed result.observations "leakage_flags").isSome

/-- The result is a failure, or it shows a leak. -/
def Blocks (result : ValidatorResult) : Prop :=
  result.status ∈ [.fail, .error, .quarantine] ∨ Flagged result

variable (P) in
/-- The results come from different validators, their leakage flags can be listed, and the
authorities that an evaluation of them ranks have ranks. -/
structure Judgeable (package : OraclePackage) (results : List ValidatorResult) : Prop where
  onePerValidator : (results.map (·.validatorId)).Nodup
  flags : ∀ result ∈ results, ∃ flags, leakageFlags P result.observations = .ok flags
  used : ∀ result ∈ results, Ranked P result.authorityUsed
  ceilings : ∀ validator ∈ package.validatorSpecs, Ranked P validator.authorityCeiling
  floors : ∀ claim ∈ package.claimGraph.claims,
    ∀ authority ∈ requiredAuthorities P package claim.claimId, Ranked P authority

variable {result : ValidatorResult} {results' : List ValidatorResult}
    {reports : List ValidatorReport} {flags : List String}

lemma Judgeable.perm (h : Judgeable P package results) (hperm : results'.Perm results) :
    Judgeable P package results' where
  onePerValidator := (hperm.map _).nodup_iff.mpr h.onePerValidator
  flags result hresult := h.flags result (hperm.mem_iff.mp hresult)
  used result hresult := h.used result (hperm.mem_iff.mp hresult)
  ceilings := h.ceilings
  floors := h.floors

/-- The specifications of a task's validators. -/
def taskSpecs (package : OraclePackage) (task : OracleTask) : Dict String ValidatorSpec :=
  specById (package.validatorSpecs.filter (·.validatorId ∈ task.validatorIds))

variable (P) in
def reportOf (package : OraclePackage) (task : OracleTask) (result : ValidatorResult) :
    ValidatorReport :=
  validatorReport result ((taskSpecs package task).get? result.validatorId)
    ((leakageFlags P result.observations).toOption.getD [])

variable (P) in
/-- The lower of the authority that a result used and the ceiling of its validator. -/
def effectiveRank (package : OraclePackage) (task : OracleTask) (result : ValidatorResult) : ℕ :=
  min (rank P result.authorityUsed) (rank P (reportOf P package task result).authorityCeiling)

lemma flagTexts_ne_nil {raw : Json} (htruthy : raw.truthy = true)
    (h : flagTexts P raw = .ok flags) : flags ≠ [] := by
  cases raw with
  | array items =>
    obtain rfl := Except.ok.inj h
    simpa [Json.truthy] using htruthy
  | object fields =>
    obtain rfl := Except.ok.inj h
    simpa [Json.truthy] using htruthy
  | str s =>
    obtain rfl := Except.ok.inj h
    simpa [Json.truthy] using htruthy
  | _ => exact absurd h (by simp [flagTexts])

lemma truthy_of_observed {observations : List (String × Json)} {key : String} {value : Json}
    (h : observed observations key = some value) : value.truthy = true :=
  (Option.filter_eq_some_iff.mp h).2

/-- The flags of a report are not empty exactly when the result carries one. -/
lemma leakageFlags_ne_nil_iff (h : leakageFlags P result.observations = .ok flags) :
    flags ≠ [] ↔ Flagged result := by
  unfold leakageFlags at h
  split at h
  · next hflagged =>
    refine iff_of_true (flagTexts_ne_nil ?_ h) hflagged
    rcases hraw : observed result.observations "leakage_flags" with _ | raw
    · rfl
    · exact truthy_of_observed hraw
  · next hflagged =>
    refine iff_of_false (fun hne => hne ?_) hflagged
    exact (Except.ok.inj h).symm

variable (package task) in
lemma flags_reportOf (h : ∃ flags, leakageFlags P result.observations = .ok flags) :
    (reportOf P package task result).leakageFlags ≠ [] ↔ Flagged result := by
  obtain ⟨flags, hflags⟩ := h
  rw [← leakageFlags_ne_nil_iff hflags]
  show (leakageFlags P result.observations).toOption.getD [] ≠ [] ↔ _
  rw [hflags]
  rfl

lemma validatorReports_eq (h : Judgeable P package results) :
    validatorReports P results
      (package.validatorSpecs.filter (·.validatorId ∈ task.validatorIds)) =
      .ok (results.map (reportOf P package task)) := by
  apply mapM_eq_map
  intro result hresult
  obtain ⟨flags, hflags⟩ := h.flags result hresult
  unfold reportOf
  rw [hflags]
  rfl

lemma mem_of_get?_specById {validators : List ValidatorSpec} {specs : Dict String ValidatorSpec}
    {id : String} {spec : ValidatorSpec}
    (h : (validators.foldl (fun specs validator => specs.set validator.validatorId validator)
      specs).get? id = some spec) : spec ∈ validators ∨ specs.get? id = some spec := by
  induction validators generalizing specs with
  | nil => exact Or.inr h
  | cons validator validators ih =>
    rcases ih h with hmem | hget
    · exact Or.inl (List.mem_cons_of_mem validator hmem)
    rw [Dict.get?_set] at hget
    split at hget
    · rw [← Option.some.inj hget]
      exact Or.inl List.mem_cons_self
    · exact Or.inr hget

lemma ranked_ceiling (h : Judgeable P package results) (result : ValidatorResult) :
    Ranked P (reportOf P package task result).authorityCeiling := by
  show Ranked P ((((taskSpecs package task).get? result.validatorId).map
    (·.authorityCeiling)).getD "A0")
  rcases hspec : (taskSpecs package task).get? result.validatorId with _ | spec
  · exact ranked_zero
  · rcases mem_of_get?_specById hspec with hmem | hempty
    · exact h.ceilings spec (List.mem_of_mem_filter hmem)
    · exact absurd hempty (by simp)

lemma effectiveAuthorityRank_eq (h : Judgeable P package results) (hresult : result ∈ results) :
    effectiveAuthorityRank P (reportOf P package task result) =
      .ok (effectiveRank P package task result) := by
  have hused : authorityRank P (reportOf P package task result).authorityUsed =
      .ok (rank P result.authorityUsed) := (h.used result hresult).eq_ok
  unfold effectiveAuthorityRank
  rw [hused, (ranked_ceiling h result).eq_ok]
  rfl

/-! ## The reports on a claim -/

variable (P) in
/-- The reports on the results that name a claim. -/
def ownReports (package : OraclePackage) (task : OracleTask) (results : List ValidatorResult)
    (claimId : String) : List ValidatorReport :=
  (byClaim (some task.claimIds) results claimId).map (reportOf P package task)

lemma mem_byClaim (hclaim : claimId ∈ task.claimIds) :
    result ∈ byClaim (some task.claimIds) results claimId ↔
      result ∈ results ∧ claimId ∈ result.claimIds := by
  unfold byClaim
  simp only [List.mem_flatMap, List.mem_map, List.mem_filter, decide_eq_true_eq]
  constructor
  · intro h
    obtain ⟨own, hown, id, ⟨hid, rfl, -⟩, rfl⟩ := h
    exact ⟨hown, hid⟩
  · intro h
    exact ⟨result, h.1, claimId, ⟨h.2, rfl, decide_eq_true hclaim⟩, rfl⟩

lemma mem_of_mem_byClaim {allowed : Option (List String)}
    (h : result ∈ byClaim allowed results claimId) : result ∈ results := by
  obtain ⟨own, hown, hresult⟩ := List.mem_flatMap.mp h
  obtain ⟨-, -, rfl⟩ := List.mem_map.mp hresult
  exact hown

/-- With one result of each validator, a claim's reports are found by their validators. -/
lemma ownReports_eq (h : Judgeable P package results) :
    ((byClaim (some task.claimIds) results claimId).map (·.validatorId)).filterMap
      (reportByValidator (results.map (reportOf P package task))).get? =
      ownReports P package task results claimId := by
  have hids : (results.map (reportOf P package task)).map (·.validatorId) =
      results.map (·.validatorId) := by
    rw [List.map_map]
    rfl
  have hget : ∀ result ∈ byClaim (some task.claimIds) results claimId,
      (reportByValidator (results.map (reportOf P package task))).get? result.validatorId =
        some (reportOf P package task result) := by
    intro result hresult
    have hnodup := hids ▸ h.onePerValidator
    apply (Dict.get?_foldl_set hnodup).mpr
    exact ⟨_, List.mem_map_of_mem (mem_of_mem_byClaim hresult), rfl, rfl⟩
  rw [List.filterMap_map]
  exact (List.filterMap_congr hget).trans (congrFun List.filterMap_eq_map _)

lemma pass_report_iff :
    (reportOf P package task result).status ∈ [EvidenceStatus.pass, .score] ∧
      0 < (reportOf P package task result).coverage ↔ result.status = .pass := by
  show result.status.evidence ∈ [EvidenceStatus.pass, .score] ∧
    0 < (if result.status ∈ [ValidatorStatus.pass, .fail] then (1 : ℚ) else 0) ↔ _
  cases result.status <;> simp [ValidatorStatus.evidence]

variable (P) in
/-- A result that names the claim passed with the authority that the claim needs. -/
def supported (package : OraclePackage) (task : OracleTask) (results : List ValidatorResult)
    (claimId : String) : Bool :=
  decide (requiredRank P package claimId ≤ 0) ||
    (byClaim (some task.claimIds) results claimId).any fun result =>
      result.status = .pass ∧ requiredRank P package claimId ≤ effectiveRank P package task result

lemma supportingAuthorityMeetsFloor_eq (h : Judgeable P package results)
    (hranked : ∀ authority ∈ requiredAuthorities P package claimId, Ranked P authority) :
    supportingAuthorityMeetsFloor P (ownReports P package task results claimId)
      (authorityText (requiredRank P package claimId)) =
      .ok (supported P package task results claimId) := by
  unfold supportingAuthorityMeetsFloor supported
  rw [authorityRank_authorityText (requiredRank_lt hranked), ok_bind]
  by_cases hzero : requiredRank P package claimId ≤ 0
  · rw [if_pos hzero, decide_eq_true hzero, Bool.true_or]
  rw [if_neg hzero, decide_eq_false hzero, Bool.false_or]
  unfold ownReports
  rw [anyM_map_eq_any (g := fun result => result.status = .pass ∧
    requiredRank P package claimId ≤ effectiveRank P package task result)]
  intro result hresult
  by_cases hpass : result.status = .pass
  · rw [if_pos (pass_report_iff.mpr hpass), effectiveAuthorityRank_eq h (mem_of_mem_byClaim hresult),
      ok_bind]
    simp [hpass]
  · rw [if_neg (mt pass_report_iff.mp hpass)]
    simp [hpass]

variable (task) in
lemma exists_authorityMass (h : Judgeable P package results) {own : List ValidatorResult}
    (hown : ∀ result ∈ own, result ∈ results) :
    ∃ mass, authorityMassForReports P (own.map (reportOf P package task)) = .ok mass := by
  apply exists_foldlM_eq_ok
  intro report hreport mass
  obtain ⟨result, hresult, rfl⟩ := List.mem_map.mp hreport
  by_cases hpositive : 0 < max 0 (reportOf P package task result).coverage
  · exact ⟨_, by
      simp only [if_pos hpositive, effectiveAuthorityRank_eq h (hown result hresult), ok_bind]
      rfl⟩
  · exact ⟨mass, if_neg hpositive⟩

/-! ## The verdict on a claim -/

/-- What a posterior says of its claim. -/
structure ClaimVerdict where
  claimId : String
  state : PosteriorState
  posteriorLower : Option ℚ
  posteriorUpper : Option ℚ
  coverage : ℚ
  residualMass : ℚ
  residualReason : String

def verdictOf (posterior : ClaimPosterior) : ClaimVerdict where
  claimId := posterior.claimId
  state := posterior.state
  posteriorLower := posterior.posteriorLower
  posteriorUpper := posterior.posteriorUpper
  coverage := posterior.coverage
  residualMass := posterior.residualMass
  residualReason := posterior.residualReason

variable (P) in
def basisOf (package : OraclePackage) (task : OracleTask) (results : List ValidatorResult)
    (claimId : String) : PosteriorBasis where
  reports := ownReports P package task results claimId
  coverage := posteriorCoverage (ownReports P package task results claimId)
  authoritySufficient := supported P package task results claimId
  quarantineReason := posteriorQuarantineReason (ownReports P package task results claimId)

variable (P) in
/-- The posterior of a claim, but for its authority mass. -/
def posteriorOf (package : OraclePackage) (task : OracleTask) (results : List ValidatorResult)
    (claimId : String) (authorityMass : Dict String ℚ) : ClaimPosterior :=
  (basisOf P package task results claimId).posterior
    (claimResult claimId (byClaim (some task.claimIds) results claimId)) authorityMass

/-- The ids of the claims that a task lists, in the order of the graph. -/
def taskClaims (package : OraclePackage) (task : OracleTask) : List String :=
  (package.claimGraph.claims.map (·.claimId)).filter (· ∈ task.claimIds)

lemma claimResults_eq : claimResults package results (some task.claimIds) =
    (taskClaims package task).map fun claimId =>
      claimResult claimId (byClaim (some task.claimIds) results claimId) := by
  unfold claimResults taskClaims
  rw [List.filter_map, List.map_map]
  rfl

lemma evidenceLedger_eq {mass : Dict String ℚ}
    (hmass : authorityMassForReports P reports = .ok mass) (posteriors : List ClaimPosterior) :
    ∃ ledger, evidenceLedger P reports posteriors = .ok ledger ∧
      ledger.claimPosteriors = posteriors ∧
      ledger.auditStatus = auditStatus reports posteriors (reports.flatMap (·.leakageFlags)) := by
  unfold evidenceLedger
  rw [hmass, ok_bind]
  exact ⟨_, rfl, rfl, rfl⟩

/-- Where the results can be judged, an evaluation returns, and its posteriors are those of the
claims of the task. -/
lemma evaluateResults_eq (h : Judgeable P package results) :
    ∃ ledger, evaluateResults P package task results =
        .ok (claimResults package results (some task.claimIds), ledger) ∧
      ledger.claimPosteriors.map verdictOf = (taskClaims package task).map (fun claimId =>
        verdictOf (posteriorOf P package task results claimId .empty)) ∧
      ledger.auditStatus = auditStatus (results.map (reportOf P package task))
        ledger.claimPosteriors ((results.map (reportOf P package task)).flatMap (·.leakageFlags)) := by
  have hmass : ∀ claimId, ∃ mass,
      authorityMassForReports P (ownReports P package task results claimId) = .ok mass :=
    fun claimId => exists_authorityMass task h fun result hresult => mem_of_mem_byClaim hresult
  choose mass hmass using hmass
  obtain ⟨total, htotal⟩ := exists_authorityMass task h fun result hresult => hresult
  have hposteriors : claimPosteriors P package (claimResults package results (some task.claimIds))
      (results.map (reportOf P package task)) =
      .ok ((taskClaims package task).map fun claimId =>
        posteriorOf P package task results claimId (mass claimId)) := by
    have hmap : (taskClaims package task).map (fun claimId =>
        posteriorOf P package task results claimId (mass claimId)) =
        (claimResults package results (some task.claimIds)).map fun result =>
          (basisOf P package task results result.claimId).posterior result (mass result.claimId) := by
      rw [claimResults_eq, List.map_map]
      rfl
    rw [hmap]
    apply mapM_eq_map
    intro result hresult
    rw [claimResults_eq] at hresult
    obtain ⟨claimId, hclaim, rfl⟩ := List.mem_map.mp hresult
    obtain ⟨claim, hgraph, rfl⟩ := List.mem_map.mp (List.mem_of_mem_filter hclaim)
    have hranked := h.floors claim hgraph
    show (claimAuthorityFloor P package claim.claimId >>= _) = _
    rw [claimAuthorityFloor_eq hranked, ok_bind]
    show (supportingAuthorityMeetsFloor P (((byClaim (some task.claimIds) results claim.claimId).map
      (·.validatorId)).filterMap _) _ >>= _) = _
    rw [ownReports_eq h, supportingAuthorityMeetsFloor_eq h hranked, ok_bind]
    show (authorityMassForReports P (((byClaim (some task.claimIds) results claim.claimId).map
      (·.validatorId)).filterMap _) >>= _) = _
    rw [ownReports_eq h, hmass, ok_bind]
    show _ = Except.ok ((basisOf P package task results claim.claimId).posterior _ _)
    unfold basisOf
    rw [← ownReports_eq h]
    rfl
  obtain ⟨ledger, hledger, hclaimPosteriors, haudit⟩ := evidenceLedger_eq htotal
    ((taskClaims package task).map fun claimId =>
      posteriorOf P package task results claimId (mass claimId))
  refine ⟨ledger, ?_, ?_, ?_⟩
  · show (validatorReports P results _ >>= _) = _
    rw [validatorReports_eq h, ok_bind]
    show (claimPosteriors P package _ _ >>= _) = _
    rw [hposteriors, ok_bind, hledger]
    rfl
  · rw [hclaimPosteriors, List.map_map]
    rfl
  · rw [hclaimPosteriors, haudit]

/-! ## States -/

/-- A result that names the claim is in quarantine, or carries a leakage flag. -/
def Quarantined (results : List ValidatorResult) (claimId : String) : Prop :=
  ∃ result ∈ results, claimId ∈ result.claimIds ∧ (result.status = .quarantine ∨ Flagged result)

variable (P package task) in
lemma quarantine_report_iff :
    (reportOf P package task result).status = .quarantine ↔ result.status = .quarantine := by
  show result.status.evidence = .quarantine ↔ _
  cases result.status <;> simp [ValidatorStatus.evidence]

lemma quarantineReason_ne_iff (h : Judgeable P package results) (hclaim : claimId ∈ task.claimIds) :
    posteriorQuarantineReason (ownReports P package task results claimId) ≠ "" ↔
      Quarantined results claimId := by
  have hreason : ∀ reports : List ValidatorReport, posteriorQuarantineReason reports ≠ "" ↔
      ∃ report ∈ reports, report.status = .quarantine ∨ report.leakageFlags ≠ [] := by
    intro reports
    unfold posteriorQuarantineReason
    by_cases hquarantine : reports.any fun report => report.status = .quarantine
    · rw [if_pos hquarantine]
      refine iff_of_true (by decide) ?_
      obtain ⟨report, hreport, hstatus⟩ := List.any_eq_true.mp hquarantine
      exact ⟨report, hreport, Or.inl (of_decide_eq_true hstatus)⟩
    rw [if_neg hquarantine]
    by_cases hleak : reports.any fun report => report.leakageFlags ≠ []
    · rw [if_pos hleak]
      refine iff_of_true (by decide) ?_
      obtain ⟨report, hreport, hflags⟩ := List.any_eq_true.mp hleak
      exact ⟨report, hreport, Or.inr (of_decide_eq_true hflags)⟩
    rw [if_neg hleak]
    refine iff_of_false (fun hne => hne rfl) ?_
    rintro ⟨report, hreport, hstatus | hflags⟩
    · exact hquarantine (List.any_eq_true.mpr ⟨report, hreport, decide_eq_true hstatus⟩)
    · exact hleak (List.any_eq_true.mpr ⟨report, hreport, decide_eq_true hflags⟩)
  rw [hreason]
  constructor
  · rintro ⟨report, hreport, hbad⟩
    obtain ⟨result, hresult, rfl⟩ := List.mem_map.mp hreport
    obtain ⟨hmem, hnames⟩ := (mem_byClaim hclaim).mp hresult
    rw [quarantine_report_iff, flags_reportOf package task (h.flags result hmem)] at hbad
    exact ⟨result, hmem, hnames, hbad⟩
  · rintro ⟨result, hmem, hnames, hbad⟩
    rw [← quarantine_report_iff P package task,
      ← flags_reportOf package task (h.flags result hmem)] at hbad
    exact ⟨_, List.mem_map_of_mem ((mem_byClaim hclaim).mpr ⟨hmem, hnames⟩), hbad⟩

lemma satisfiedBy_eq_true_iff : satisfiedBy results = some true ↔
    (∃ result ∈ results, result.status = .pass) ∧
      ∀ result ∈ results, result.status ∉ [ValidatorStatus.fail, .error, .quarantine] := by
  have hfailed : results.filter (fun result =>
      result.status ∈ [ValidatorStatus.fail, .error, .quarantine]) ≠ [] ↔
      ∃ result ∈ results, result.status ∈ [ValidatorStatus.fail, .error, .quarantine] := by
    simp only [ne_eq, List.filter_eq_nil_iff, decide_eq_true_eq, not_forall, not_not, exists_prop]
  have hpassed : results.filter (fun result => result.status = .pass) ≠ [] ↔
      ∃ result ∈ results, result.status = .pass := by
    simp only [ne_eq, List.filter_eq_nil_iff, decide_eq_true_eq, not_forall, not_not, exists_prop]
  unfold satisfiedBy
  simp only [hfailed, hpassed]
  by_cases hfail : ∃ result ∈ results, result.status ∈ [ValidatorStatus.fail, .error, .quarantine]
  · rw [if_pos hfail]
    refine iff_of_false (by simp) fun h => ?_
    obtain ⟨result, hresult, hstatus⟩ := hfail
    exact h.2 result hresult hstatus
  rw [if_neg hfail]
  have hnone : ∀ result ∈ results,
      result.status ∉ [ValidatorStatus.fail, .error, .quarantine] := fun result hresult hstatus =>
    hfail ⟨result, hresult, hstatus⟩
  by_cases hpass : ∃ result ∈ results, result.status = .pass
  · rw [if_pos hpass]
    exact iff_of_true rfl ⟨hpass, hnone⟩
  · rw [if_neg hpass]
    exact iff_of_false (by simp) fun h => hpass h.1

lemma supported_iff (hclaim : claimId ∈ task.claimIds)
    (hpass : ∃ result ∈ results, claimId ∈ result.claimIds ∧ result.status = .pass) :
    supported P package task results claimId = true ↔
      ∃ result ∈ results, claimId ∈ result.claimIds ∧ result.status = .pass ∧
        requiredRank P package claimId ≤ effectiveRank P package task result := by
  unfold supported
  rw [Bool.or_eq_true, decide_eq_true_eq, List.any_eq_true]
  constructor
  · rintro (hzero | ⟨result, hresult, hsupports⟩)
    · obtain ⟨result, hmem, hnames, hstatus⟩ := hpass
      exact ⟨result, hmem, hnames, hstatus, by omega⟩
    · obtain ⟨hmem, hnames⟩ := (mem_byClaim hclaim).mp hresult
      exact ⟨result, hmem, hnames, of_decide_eq_true hsupports⟩
  · rintro ⟨result, hmem, hnames, hsupports⟩
    exact Or.inr ⟨result, (mem_byClaim hclaim).mpr ⟨hmem, hnames⟩, decide_eq_true hsupports⟩

lemma state_eq_quarantined_iff {basis : PosteriorBasis} {result : ClaimResult} :
    basis.state result = .quarantined ↔ basis.quarantineReason ≠ "" := by
  unfold PosteriorBasis.state
  by_cases hreason : basis.quarantineReason ≠ ""
  · rw [if_pos hreason]
    exact iff_of_true rfl hreason
  · rw [if_neg hreason]
    refine iff_of_false ?_ hreason
    split_ifs <;> simp

lemma state_eq_satisfied_iff {basis : PosteriorBasis} {result : ClaimResult} :
    basis.state result = .satisfied ↔ basis.quarantineReason = "" ∧
      result.satisfied = some true ∧ basis.authoritySufficient = true := by
  unfold PosteriorBasis.state
  by_cases hreason : basis.quarantineReason ≠ ""
  · rw [if_pos hreason]
    exact iff_of_false (by simp) fun h => hreason h.1
  rw [if_neg hreason, and_iff_right (not_not.mp hreason)]
  by_cases hsatisfied : result.satisfied = some true ∧ basis.authoritySufficient = true
  · rw [if_pos hsatisfied]
    exact iff_of_true rfl hsatisfied
  · rw [if_neg hsatisfied]
    refine iff_of_false ?_ hsatisfied
    split_ifs <;> simp

lemma quarantined_iff (h : Judgeable P package results) (hclaim : claimId ∈ task.claimIds) :
    (posteriorOf P package task results claimId .empty).state = .quarantined ↔
      Quarantined results claimId :=
  state_eq_quarantined_iff.trans (quarantineReason_ne_iff h hclaim)

/-- A claim is satisfied exactly when a result that names it passed with enough authority, and no
result that names it blocks it. -/
lemma satisfied_iff (h : Judgeable P package results) (hclaim : claimId ∈ task.claimIds) :
    (posteriorOf P package task results claimId .empty).state = .satisfied ↔
      (∃ result ∈ results, claimId ∈ result.claimIds ∧ result.status = .pass ∧
        requiredRank P package claimId ≤ effectiveRank P package task result) ∧
      ∀ result ∈ results, claimId ∈ result.claimIds → ¬Blocks result := by
  have hstate : (posteriorOf P package task results claimId .empty).state = .satisfied ↔
      posteriorQuarantineReason (ownReports P package task results claimId) = "" ∧
        satisfiedBy (byClaim (some task.claimIds) results claimId) = some true ∧
          supported P package task results claimId = true := state_eq_satisfied_iff
  have hquarantine : posteriorQuarantineReason (ownReports P package task results claimId) ≠ "" ↔
      Quarantined results claimId := quarantineReason_ne_iff h hclaim
  rw [hstate, satisfiedBy_eq_true_iff]
  constructor
  · rintro ⟨hreason, ⟨⟨passed, hpassed, hstatus⟩, hfailed⟩, hsupported⟩
    obtain ⟨hmem, hnames⟩ := (mem_byClaim hclaim).mp hpassed
    refine ⟨(supported_iff hclaim ⟨passed, hmem, hnames, hstatus⟩).mp hsupported, ?_⟩
    rintro result hresult hnames (hfail | hflagged)
    · exact hfailed result ((mem_byClaim hclaim).mpr ⟨hresult, hnames⟩) hfail
    · exact hquarantine.mpr ⟨result, hresult, hnames, Or.inr hflagged⟩ hreason
  · rintro ⟨⟨passed, hmem, hnames, hstatus, hrank⟩, hblocks⟩
    refine ⟨?_, ⟨⟨passed, (mem_byClaim hclaim).mpr ⟨hmem, hnames⟩, hstatus⟩, ?_⟩, ?_⟩
    · by_contra hreason
      obtain ⟨result, hresult, hnames, hquarantined | hflagged⟩ := hquarantine.mp hreason
      · exact hblocks result hresult hnames (Or.inl (by simp [hquarantined]))
      · exact hblocks result hresult hnames (Or.inr hflagged)
    · intro result hresult hfail
      obtain ⟨hresult, hnames⟩ := (mem_byClaim hclaim).mp hresult
      exact hblocks result hresult hnames (Or.inl hfail)
    · exact (supported_iff hclaim ⟨passed, hmem, hnames, hstatus⟩).mpr
        ⟨passed, hmem, hnames, hstatus, hrank⟩

/-! ## The order of the results -/

lemma eq_nil_iff_of_perm {α : Type} {l l' : List α} (h : l'.Perm l) : l' = [] ↔ l = [] := by
  rw [← List.length_eq_zero_iff, h.length_eq, List.length_eq_zero_iff]

lemma perm_byClaim (hperm : results'.Perm results) :
    (byClaim (some task.claimIds) results' claimId).Perm
      (byClaim (some task.claimIds) results claimId) := hperm.flatMap_right _

lemma satisfiedBy_perm (hperm : results'.Perm results) :
    satisfiedBy results' = satisfiedBy results := by
  have hfilter : ∀ p : ValidatorResult → Bool, results'.filter p ≠ [] ↔ results.filter p ≠ [] := by
    intro p
    exact not_congr (eq_nil_iff_of_perm (hperm.filter p))
  unfold satisfiedBy
  simp only [hfilter]

lemma posteriorCoverage_perm {reports reports' : List ValidatorReport}
    (hperm : reports'.Perm reports) : posteriorCoverage reports' = posteriorCoverage reports := by
  unfold posteriorCoverage
  exact congrArg (min 1) ((hperm.filter _).map _).sum_eq

/-- What a posterior says depends on the reports through their coverage, their authority and their
flags. -/
lemma posterior_congr {basis basis' : PosteriorBasis} {result result' : ClaimResult}
    {mass mass' : Dict String ℚ} (hreports : basis'.reports = [] ↔ basis.reports = [])
    (hcoverage : basis'.coverage = basis.coverage)
    (hsufficient : basis'.authoritySufficient = basis.authoritySufficient)
    (hreason : basis'.quarantineReason = basis.quarantineReason)
    (hclaim : result'.claimId = result.claimId) (hsatisfied : result'.satisfied = result.satisfied)
    (hlower : result'.posteriorLower = result.posteriorLower)
    (hupper : result'.posteriorUpper = result.posteriorUpper)
    (hresidual : result'.residualUnverified = result.residualUnverified) :
    verdictOf (basis'.posterior result' mass') = verdictOf (basis.posterior result mass) := by
  unfold verdictOf PosteriorBasis.posterior PosteriorBasis.residualReason
    PosteriorBasis.heldCoverage PosteriorBasis.withheld PosteriorBasis.state
  simp only [ne_eq, hreports, hcoverage, hsufficient, hreason, hclaim, hsatisfied, hlower, hupper,
    hresidual]

/-- A permutation of the results leaves the verdict on every claim as it is. -/
lemma verdict_perm (hperm : results'.Perm results) :
    verdictOf (posteriorOf P package task results' claimId .empty) =
      verdictOf (posteriorOf P package task results claimId .empty) := by
  have hown : (byClaim (some task.claimIds) results' claimId).Perm
      (byClaim (some task.claimIds) results claimId) := perm_byClaim hperm
  have hreports : (ownReports P package task results' claimId).Perm
      (ownReports P package task results claimId) := hown.map _
  have hsatisfied := satisfiedBy_perm hown
  apply posterior_congr
  · exact eq_nil_iff_of_perm hreports
  · exact posteriorCoverage_perm hreports
  · show supported P package task results' claimId = supported P package task results claimId
    unfold supported
    rw [hown.any_eq]
  · show posteriorQuarantineReason _ = posteriorQuarantineReason _
    unfold posteriorQuarantineReason
    rw [hreports.any_eq, hreports.any_eq]
  · rfl
  · exact hsatisfied
  · exact congrArg bound hsatisfied
  · exact congrArg bound hsatisfied
  · show (if byClaim (some task.claimIds) results' claimId ≠ [] then _ else _) =
      if byClaim (some task.claimIds) results claimId ≠ [] then _ else _
    simp only [ne_eq, eq_nil_iff_of_perm hown]

/-! ## The audit -/

/-- The posterior leaves nothing of its claim open. -/
def Settled (verdict : ClaimVerdict) : Prop :=
  verdict.residualReason = "" ∧ verdict.state ∉ [PosteriorState.abstained, .unverifiable] ∧
    verdict.residualMass ≤ 0

lemma auditStatus_eq_pass_iff {posteriors : List ClaimPosterior} :
    auditStatus reports posteriors flags = .pass ↔
      flags = [] ∧ reports ≠ [] ∧
      (∀ report ∈ reports, report.status ∈ [EvidenceStatus.pass, .score] ∧ 0 < report.coverage) ∧
      (∀ posterior ∈ posteriors, Settled (verdictOf posterior)) ∧
      ∃ posterior ∈ posteriors, posterior.state = .satisfied := by
  have hopen : (posteriors.any fun posterior => posterior.residualReason ≠ "" ∨
      posterior.state ∈ [.abstained, .unverifiable] ∨ 0 < posterior.residualMass) = true ↔
      ¬∀ posterior ∈ posteriors, Settled (verdictOf posterior) := by
    rw [List.any_eq_true]
    simp only [not_forall, exists_prop]
    apply exists_congr
    intro posterior
    apply and_congr_right
    intro _
    rw [decide_eq_true_eq]
    show _ ↔ ¬(posterior.residualReason = "" ∧
      posterior.state ∉ [PosteriorState.abstained, .unverifiable] ∧ posterior.residualMass ≤ 0)
    rw [not_and_or, not_and_or, not_not, not_le]
  have hsupported : (reports.filter fun report =>
      report.status ∈ [EvidenceStatus.pass, .score] ∧ 0 < report.coverage).length = reports.length ↔
      ∀ report ∈ reports, report.status ∈ [EvidenceStatus.pass, .score] ∧ 0 < report.coverage := by
    rw [List.length_filter_eq_length_iff]
    simp only [decide_eq_true_eq]
  have hstatus : ∀ report : ValidatorReport, report.status ∈ [EvidenceStatus.pass, .score] →
      report.status ≠ .quarantine ∧ report.status ∉ [EvidenceStatus.fail, .error, .contradiction] := by
    intro report hreport
    simp only [List.mem_cons, List.not_mem_nil, or_false] at hreport ⊢
    rcases hreport with h | h <;> simp [h]
  unfold auditStatus
  by_cases hflags : flags ≠ [] ∨ (reports.any fun report => report.status = .quarantine) = true
  · rw [if_pos hflags]
    refine iff_of_false (by simp) fun h => ?_
    rcases hflags with hflags | hquarantine
    · exact hflags h.1
    · obtain ⟨report, hreport, hquarantined⟩ := List.any_eq_true.mp hquarantine
      exact (hstatus report (h.2.2.1 report hreport).1).1 (of_decide_eq_true hquarantined)
  rw [if_neg hflags, and_iff_right (not_not.mp fun hne => hflags (Or.inl hne))]
  by_cases hfail : (reports.any fun report =>
      report.status ∈ [EvidenceStatus.fail, .error, .contradiction]) = true
  · rw [if_pos hfail]
    refine iff_of_false (by simp) fun h => ?_
    obtain ⟨report, hreport, hfailed⟩ := List.any_eq_true.mp hfail
    exact (hstatus report (h.2.1 report hreport).1).2 (of_decide_eq_true hfailed)
  rw [if_neg hfail]
  by_cases hreports : reports = []
  · rw [if_pos hreports]
    exact iff_of_false (by simp) fun h => h.1 hreports
  rw [if_neg hreports, and_iff_right hreports]
  by_cases hposteriors : posteriors = []
  · rw [if_pos hposteriors, hposteriors]
    exact iff_of_false (by simp) fun h => by simpa using h.2.2
  rw [if_neg hposteriors]
  by_cases hsettled : ∀ posterior ∈ posteriors, Settled (verdictOf posterior)
  swap
  · rw [if_pos (hopen.mpr hsettled)]
    exact iff_of_false (by simp) fun h => hsettled h.2.1
  rw [if_neg (fun h => hopen.mp h hsettled)]
  simp only [hsupported, List.any_eq_true, decide_eq_true_eq]
  by_cases hpass : (∀ report ∈ reports,
      report.status ∈ [EvidenceStatus.pass, .score] ∧ 0 < report.coverage) ∧
      ∃ posterior ∈ posteriors, posterior.state = .satisfied
  · rw [if_pos hpass]
    exact iff_of_true rfl ⟨hpass.1, hsettled, hpass.2⟩
  · rw [if_neg hpass]
    refine iff_of_false ?_ fun h => hpass ⟨h.1, h.2.2⟩
    split_ifs <;> simp

lemma posteriorCoverage_eq_one {report : ValidatorReport} (hmem : report ∈ reports)
    (hstatus : report.status = .pass) (hcoverage : report.coverage = 1) :
    posteriorCoverage reports = 1 := by
  unfold posteriorCoverage
  apply min_eq_left
  have hle := List.single_le_sum (l := (reports.filter fun report =>
    report.status ∈ [EvidenceStatus.pass, .fail, .score] ∧ 0 < report.coverage).map fun report =>
      max 0 report.coverage) (by
        intro x hx
        obtain ⟨other, -, rfl⟩ := List.mem_map.mp hx
        exact le_max_left 0 _) (max 0 report.coverage) (by
        apply List.mem_map_of_mem
        rw [List.mem_filter, decide_eq_true_eq, hstatus, hcoverage]
        exact ⟨hmem, by simp, one_pos⟩)
  rw [hcoverage] at hle
  exact (le_max_right 0 1).trans hle

/-- The posterior of a satisfied claim leaves nothing open. -/
lemma settled_of_satisfied
    (h : (posteriorOf P package task results claimId .empty).state = .satisfied) :
    Settled (verdictOf (posteriorOf P package task results claimId .empty)) := by
  obtain ⟨hreason, hsatisfied, hsufficient⟩ := state_eq_satisfied_iff.mp h
  obtain ⟨⟨passed, hpassed, hstatus⟩, -⟩ := satisfiedBy_eq_true_iff.mp hsatisfied
  have hcoverage : (basisOf P package task results claimId).coverage = 1 :=
    posteriorCoverage_eq_one (List.mem_map_of_mem hpassed)
      (by show passed.status.evidence = _; rw [hstatus]; rfl)
      (by show (if passed.status ∈ _ then (1 : ℚ) else 0) = 1; rw [hstatus]; rfl)
  have hresidual : (claimResult claimId
      (byClaim (some task.claimIds) results claimId)).residualUnverified = "" :=
    if_pos (List.ne_nil_of_mem hpassed)
  have hheld : (basisOf P package task results claimId).withheld
      (claimResult claimId (byClaim (some task.claimIds) results claimId)) = false := by
    unfold PosteriorBasis.withheld
    simp [hreason, hsufficient]
  have hheldCoverage : (basisOf P package task results claimId).heldCoverage
      (claimResult claimId (byClaim (some task.claimIds) results claimId)) = 1 := by
    unfold PosteriorBasis.heldCoverage
    rw [hheld, hcoverage]
    rfl
  refine ⟨?_, ?_, ?_⟩
  · show PosteriorBasis.residualReason _ _ = ""
    unfold PosteriorBasis.residualReason
    rw [hheldCoverage]
    simp [hreason, hheld, hresidual]
  · show (posteriorOf P package task results claimId .empty).state ∉ _
    rw [h]
    decide
  · show max 0 (1 - PosteriorBasis.heldCoverage _ _) ≤ 0
    rw [hheldCoverage, sub_self, max_self]

/-- A claim is satisfied when every result passed without a leak and its posterior leaves nothing
open. -/
lemma satisfied_of_settled (h : Judgeable P package results) (hclaim : claimId ∈ task.claimIds)
    (hpassed : ∀ result ∈ results, result.status = .pass ∧ ¬Flagged result)
    (hsettled : Settled (verdictOf (posteriorOf P package task results claimId .empty))) :
    (posteriorOf P package task results claimId .empty).state = .satisfied := by
  have hreason : (basisOf P package task results claimId).quarantineReason = "" := by
    by_contra hne
    obtain ⟨result, hresult, -, hquarantine | hflagged⟩ :=
      (quarantineReason_ne_iff h hclaim).mp hne
    · rw [(hpassed result hresult).1] at hquarantine
      exact absurd hquarantine (by decide)
    · exact (hpassed result hresult).2 hflagged
  have hnot : (posteriorOf P package task results claimId .empty).state ∉
      [PosteriorState.abstained, .unverifiable] := hsettled.2.1
  rcases hown : byClaim (some task.claimIds) results claimId with _ | ⟨first, rest⟩
  · -- no result names the claim
    have hstate : (posteriorOf P package task results claimId .empty).state = .unverifiable := by
      show PosteriorBasis.state _ (claimResult claimId _) = _
      unfold PosteriorBasis.state claimResult
      rw [hown]
      simp [hreason, satisfiedBy]
    rw [hstate] at hnot
    exact absurd hnot (by decide)
  have hsatisfied : satisfiedBy (byClaim (some task.claimIds) results claimId) = some true := by
    rw [satisfiedBy_eq_true_iff]
    refine ⟨⟨first, hown ▸ List.mem_cons_self, ?_⟩, ?_⟩
    · exact (hpassed first (mem_of_mem_byClaim (hown ▸ List.mem_cons_self))).1
    · intro result hresult
      rw [(hpassed result (mem_of_mem_byClaim hresult)).1]
      decide
  rcases hsupported : supported P package task results claimId with _ | _
  · have hstate : (posteriorOf P package task results claimId .empty).state = .abstained := by
      show PosteriorBasis.state _ (claimResult claimId _) = _
      unfold PosteriorBasis.state claimResult
      have hsufficient : (basisOf P package task results claimId).authoritySufficient = false :=
        hsupported
      rw [hsatisfied]
      simp [hreason, hsufficient]
    rw [hstate] at hnot
    exact absurd hnot (by decide)
  · exact state_eq_satisfied_iff.mpr ⟨hreason, hsatisfied, hsupported⟩

/-! ## Writing and reading -/

lemma field_dump (fields : List (String × FieldValue)) (key default : String) :
    QualityAxis.field (fields.map fun entry => (entry.1, .json entry.2.dump)) key default =
      .json (QualityAxis.field fields key default).dump := by
  unfold QualityAxis.field
  rw [List.find?_map]
  show ((Option.map _ (fields.find? fun entry => entry.1 = key)).map Prod.snd).getD _ = _
  cases fields.find? fun entry => entry.1 = key with
  | none => rfl
  | some entry => rfl

/-- An axis that is written holds the authority that it was given. -/
lemma axis_dump (axis : QualityAxis) : axis.dump.axisId = .json axis.axisId.dump ∧
    axis.dump.minimumAuthority = .json axis.minimumAuthority.dump := by
  cases axis with
  | spec axisId minimumAuthority => exact ⟨rfl, rfl⟩
  | raw fields => exact ⟨field_dump fields _ _, field_dump fields _ _⟩

lemma Plain.dump {field : FieldValue} (h : Plain field) : FieldValue.json field.dump = field := by
  obtain ⟨value, rfl⟩ := h
  rfl

/-- The plan that is made of the claims asks for what the claims ask. -/
lemma planRank_derived : planRank P (some (validationPlanFromOraclePackage package)) claimId =
    claimRank P package.claimGraph claimId := by
  unfold planRank claimRank validationPlanFromOraclePackage
  rw [Option.bind_some, List.find?_map]
  unfold Function.comp
  cases package.claimGraph.claims.find? fun claim => claim.claimId = claimId with
  | none => rfl
  | some claim => exact congrArg (authorityRank P) (P.str_text _)

/-- A package that is read back asks for the same authority, unless it held a default. -/
lemma claimAuthorityFloor_loaded (htext : GivenAsText P package claimId)
    (hderived : package.PlanDerived) :
    claimAuthorityFloor P package.loaded claimId = claimAuthorityFloor P package claimId := by
  have hfilter : (package.evidenceContract.qualityAxes.map QualityAxis.dump).filter (fun axis =>
      axis.axisId.str P = claimId) =
      (package.evidenceContract.qualityAxes.filter fun axis =>
        axis.axisId.str P = claimId).map QualityAxis.dump := by
    rw [List.filter_map]
    congr 1
    apply List.filter_congr
    intro axis haxis
    show decide (axis.dump.axisId.str P = claimId) = _
    rw [(axis_dump axis).1, (htext.axisIds axis haxis).dump]
  have haxes : ∀ axis ∈ package.evidenceContract.qualityAxes.filter fun axis =>
      axis.axisId.str P = claimId,
      authorityRank P (axis.dump.minimumAuthority.str P) =
        authorityRank P (axis.minimumAuthority.str P) := by
    intro axis haxis
    obtain ⟨hmem, hid⟩ := List.mem_filter.mp haxis
    rw [(axis_dump axis).2, (htext.axes axis hmem (of_decide_eq_true hid)).dump]
  have hloaded : planRank P package.loaded.validationPlan claimId =
      claimRank P package.claimGraph claimId := planRank_derived
  unfold claimAuthorityFloor
  rw [hloaded]
  show (claimRank P package.claimGraph claimId >>= fun plan =>
    claimRank P package.claimGraph claimId >>= fun claim =>
      ((package.evidenceContract.qualityAxes.map QualityAxis.dump).filter _).mapM _ >>= _) = _
  rw [hfilter, List.mapM_map]
  unfold Function.comp
  rw [mapM_congr haxes]
  rcases hderived with hnone | hsome
  · rw [hnone]
    show _ = claimRank P package.claimGraph claimId >>= _
    cases claimRank P package.claimGraph claimId with
    | error message => rfl
    | ok n =>
      rw [ok_bind, ok_bind, ok_bind, max_self, Nat.zero_max]
  · rw [hsome, planRank_derived]

/-- So its claims are judged by the same results as before. -/
lemma evaluateResults_loaded (htext : ∀ claimId ∈ taskClaims package task, GivenAsText P package claimId)
    (hderived : package.PlanDerived) :
    evaluateResults P package.loaded task results = evaluateResults P package task results := by
  have hposteriors : ∀ reports,
      claimPosteriors P package.loaded (claimResults package results (some task.claimIds)) reports =
        claimPosteriors P package (claimResults package results (some task.claimIds)) reports := by
    intro reports
    unfold claimPosteriors
    apply mapM_congr
    intro result hresult
    rw [claimResults_eq] at hresult
    obtain ⟨claimId, hclaim, rfl⟩ := List.mem_map.mp hresult
    show (claimAuthorityFloor P package.loaded claimId >>= _) = claimAuthorityFloor P package claimId >>= _
    rw [claimAuthorityFloor_loaded (htext claimId hclaim) hderived]
  unfold evaluateResults
  simp only [← hposteriors]
  rfl

/-! ## What an evaluation says -/

variable (P) in
/-- The ledger judges the claims of a task by the results. -/
structure Sound (package : OraclePackage) (task : OracleTask) (results : List ValidatorResult)
    (ledger : EvidenceLedger) : Prop where
  claims : ledger.claimPosteriors.map (·.claimId) = taskClaims package task
  satisfied : ∀ posterior ∈ ledger.claimPosteriors, GivenAsText P package posterior.claimId →
    (posterior.state = .satisfied ↔
      (∃ result ∈ results, posterior.claimId ∈ result.claimIds ∧ result.status = .pass ∧
        floorRank P package posterior.claimId ≤ effectiveRank P package task result) ∧
      ∀ result ∈ results, posterior.claimId ∈ result.claimIds → ¬Blocks result)
  unblocked : ∀ posterior ∈ ledger.claimPosteriors, posterior.state = .satisfied →
    ∀ result ∈ results, posterior.claimId ∈ result.claimIds → ¬Blocks result
  quarantined : ∀ posterior ∈ ledger.claimPosteriors,
    posterior.state = .quarantined ↔ Quarantined results posterior.claimId
  audit : ledger.auditStatus = .pass ↔
    results ≠ [] ∧ (∀ result ∈ results, result.status = .pass ∧ ¬Flagged result) ∧
    ledger.claimPosteriors ≠ [] ∧
    ∀ posterior ∈ ledger.claimPosteriors, posterior.state = .satisfied

lemma exists_claim_of_mem {ledger : EvidenceLedger}
    (hverdicts : ledger.claimPosteriors.map verdictOf = (taskClaims package task).map (fun claimId =>
      verdictOf (posteriorOf P package task results claimId .empty)))
    {posterior : ClaimPosterior} (hposterior : posterior ∈ ledger.claimPosteriors) :
    posterior.claimId ∈ task.claimIds ∧
      verdictOf posterior = verdictOf (posteriorOf P package task results posterior.claimId .empty) := by
  have hmem : verdictOf posterior ∈ (taskClaims package task).map (fun claimId =>
      verdictOf (posteriorOf P package task results claimId .empty)) :=
    hverdicts ▸ List.mem_map_of_mem hposterior
  obtain ⟨claimId, hclaim, heq⟩ := List.mem_map.mp hmem
  have hid : claimId = posterior.claimId := congrArg ClaimVerdict.claimId heq
  rw [← hid]
  exact ⟨of_decide_eq_true (List.mem_filter.mp hclaim).2, heq.symm⟩

variable (task) in
lemma evaluateResults_sound (h : Judgeable P package results) :
    ∃ ledger, evaluateResults P package task results =
        .ok (claimResults package results (some task.claimIds), ledger) ∧
      Sound P package task results ledger ∧
      ledger.claimPosteriors.map verdictOf = (taskClaims package task).map (fun claimId =>
        verdictOf (posteriorOf P package task results claimId .empty)) := by
  obtain ⟨ledger, hevaluated, hverdicts, haudit⟩ := evaluateResults_eq h
  have hsatisfied : ∀ posterior ∈ ledger.claimPosteriors, posterior.state = .satisfied ↔
      (∃ result ∈ results, posterior.claimId ∈ result.claimIds ∧ result.status = .pass ∧
        requiredRank P package posterior.claimId ≤ effectiveRank P package task result) ∧
      ∀ result ∈ results, posterior.claimId ∈ result.claimIds → ¬Blocks result := by
    intro posterior hposterior
    obtain ⟨hclaim, hverdict⟩ := exists_claim_of_mem hverdicts hposterior
    rw [← satisfied_iff h hclaim]
    exact Eq.congr_left (congrArg ClaimVerdict.state hverdict)
  refine ⟨ledger, hevaluated, ⟨?_, ?_, ?_, ?_, ?_⟩, hverdicts⟩
  · have hids := congrArg (List.map ClaimVerdict.claimId) hverdicts
    rw [List.map_map, List.map_map] at hids
    exact hids.trans (List.map_id _)
  · intro posterior hposterior htext
    rw [hsatisfied posterior hposterior, requiredRank_eq htext]
  · intro posterior hposterior hstate
    exact ((hsatisfied posterior hposterior).mp hstate).2
  · intro posterior hposterior
    obtain ⟨hclaim, hverdict⟩ := exists_claim_of_mem hverdicts hposterior
    rw [← quarantined_iff h hclaim]
    exact Eq.congr_left (congrArg ClaimVerdict.state hverdict)
  · have hall : ∀ Q : ClaimVerdict → Prop,
        (∀ posterior ∈ ledger.claimPosteriors, Q (verdictOf posterior)) ↔
          ∀ claimId ∈ taskClaims package task,
            Q (verdictOf (posteriorOf P package task results claimId .empty)) := by
      intro Q
      rw [← List.forall_mem_map (f := verdictOf), hverdicts, List.forall_mem_map]
    have hflags : (results.map (reportOf P package task)).flatMap (·.leakageFlags) = [] ↔
        ∀ result ∈ results, ¬Flagged result := by
      rw [List.flatMap_eq_nil_iff, List.forall_mem_map]
      refine forall₂_congr fun result hresult => ?_
      rw [← flags_reportOf package task (h.flags result hresult), ne_eq, not_not]
    have hpass : (∀ report ∈ results.map (reportOf P package task),
        report.status ∈ [EvidenceStatus.pass, .score] ∧ 0 < report.coverage) ↔
        ∀ result ∈ results, result.status = .pass := by
      rw [List.forall_mem_map]
      exact forall₂_congr fun result _ => pass_report_iff
    have hstates : (∀ posterior ∈ ledger.claimPosteriors, posterior.state = .satisfied) ↔
        ∀ claimId ∈ taskClaims package task,
          (posteriorOf P package task results claimId .empty).state = .satisfied :=
      hall fun verdict => verdict.state = .satisfied
    rw [haudit, auditStatus_eq_pass_iff, hall Settled, hstates, hflags, hpass, ne_eq,
      List.map_eq_nil_iff]
    constructor
    · rintro ⟨hunflagged, hne, hpassed, hsettled, posterior, hposterior, -⟩
      have hall' : ∀ result ∈ results, result.status = .pass ∧ ¬Flagged result :=
        fun result hresult => ⟨hpassed result hresult, hunflagged result hresult⟩
      refine ⟨hne, hall', List.ne_nil_of_mem hposterior, fun claimId hclaim => ?_⟩
      exact satisfied_of_settled h (of_decide_eq_true (List.mem_filter.mp hclaim).2) hall'
        (hsettled claimId hclaim)
    · rintro ⟨hne, hpassed, hposteriors, hsatisfied⟩
      obtain ⟨posterior, hposterior⟩ := List.exists_mem_of_ne_nil _ hposteriors
      refine ⟨fun result hresult => (hpassed result hresult).2, hne,
        fun result hresult => (hpassed result hresult).1,
        fun claimId hclaim => settled_of_satisfied (hsatisfied claimId hclaim),
        posterior, hposterior, ?_⟩
      exact hstates.mpr hsatisfied posterior hposterior

/-- An evaluation returns and judges every claim by the results that name it. The order of the
results does not matter; a failing, erring or quarantined result that is added leaves no claim that
it names satisfied; and the package that is written and read back judges the same. -/
theorem claim_verdicts (P : PythonText) (package : OraclePackage) (task : OracleTask)
    (results : List ValidatorResult) (h : Judgeable P package results) :
    ∃ claims ledger, evaluateResults P package task results = .ok (claims, ledger) ∧
      Sound P package task results ledger ∧
      (∀ results', results'.Perm results → ∃ claims' ledger',
        evaluateResults P package task results' = .ok (claims', ledger') ∧
        ledger'.claimPosteriors.map verdictOf = ledger.claimPosteriors.map verdictOf) ∧
      (∀ result results', results'.Perm (result :: results) → Judgeable P package results' →
        result.status ∈ [.fail, .error, .quarantine] → ∃ claims' ledger',
          evaluateResults P package task results' = .ok (claims', ledger') ∧
          ∀ posterior ∈ ledger'.claimPosteriors, posterior.claimId ∈ result.claimIds →
            posterior.state ≠ .satisfied) ∧
      ((∀ claimId ∈ taskClaims package task, GivenAsText P package claimId) → package.PlanDerived →
        evaluateResults P package.loaded task results = evaluateResults P package task results) := by
  obtain ⟨ledger, hevaluated, hsound, hverdicts⟩ := evaluateResults_sound task h
  refine ⟨_, ledger, hevaluated, hsound, ?_, ?_, evaluateResults_loaded⟩
  · intro results' hperm
    obtain ⟨ledger', hevaluated', -, hverdicts'⟩ :=
      evaluateResults_sound task (h.perm hperm)
    refine ⟨_, ledger', hevaluated', ?_⟩
    rw [hverdicts, hverdicts']
    exact List.map_congr_left fun claimId _ => verdict_perm hperm
  · intro result results' hperm h' hstatus
    obtain ⟨ledger', hevaluated', hsound', -⟩ := evaluateResults_sound task h'
    refine ⟨_, ledger', hevaluated', fun posterior hposterior hnames hsatisfied => ?_⟩
    exact hsound'.unblocked posterior hposterior hsatisfied result
      (hperm.mem_iff.mpr List.mem_cons_self) hnames (Or.inl hstatus)

/-! ## A leak that no claim of the task names -/

lemma asciiDigits (n : ℕ) (h : n < 10) :
    (if (Nat.digitChar n).isDigit then some ((Nat.digitChar n).toNat - 48) else none) = some n := by
  interval_cases n <;> decide

lemma isDigit_of_asciiDigits (c : Char) (n : ℕ)
    (h : (if c.isDigit then some (c.toNat - 48) else none) = some n) :
    c.isDigit = true ∧ n < 10 := by
  split at h
  · next hdigit =>
    refine ⟨hdigit, ?_⟩
    have hrange : c.toNat ≤ 57 := by
      rw [Char.isDigit, Bool.and_eq_true, decide_eq_true_eq, decide_eq_true_eq] at hdigit
      exact hdigit.2
    have hn := Option.some.inj h
    omega
  · exact absurd h (by simp)

/-- The text functions on ASCII characters and on texts. -/
def asciiText : PythonText where
  isDigit := Char.isDigit
  digit? c := if c.isDigit then some (c.toNat - 48) else none
  str value := match value with
    | .str s => s
    | _ => ""
  digit?_digitChar := asciiDigits
  isDigit_of_digit? := isDigit_of_asciiDigits
  str_text _ := rfl

/-- Two claims, with a validator each. -/
def twoClaims : OraclePackage where
  claimGraph := ⟨[⟨"c1", "A3"⟩, ⟨"c2", "A3"⟩], by decide⟩
  validatorSpecs := [{ validatorId := "v1", familyId := "trace_state", claimIds := ["c1"] },
    { validatorId := "v2", familyId := "trace_state", claimIds := ["c2"] }]
  taskSets := []
  evidenceContract := ⟨[.spec "c1" (.json (.str "A4"))]⟩
  validationPlan := none

/-- The task lists both validators, but only the first claim. -/
def firstClaimTask : OracleTask where
  taskId := "t1"
  benchmarkTaskId := "t1"
  claimIds := ["c1"]
  validatorIds := ["v1", "v2"]

def bothPassed (observations : List (String × Json)) : List ValidatorResult :=
  [{ validatorId := "v1", claimIds := ["c1"], status := .pass, authorityUsed := "A4" },
    { validatorId := "v2", claimIds := ["c2"], status := .pass, authorityUsed := "A4",
      observations := observations }]

lemma judgeable_bothPassed : Judgeable asciiText twoClaims (bothPassed []) where
  onePerValidator := by decide
  flags result hresult := by
    have hall : ∀ result ∈ bothPassed [],
        (leakageFlags asciiText result.observations).toBool = true := by decide +kernel
    exact exists_of_toBool (hall result hresult)
  used result hresult := by
    have hall : ∀ result ∈ bothPassed [],
        (authorityRank asciiText result.authorityUsed).toBool = true := by decide +kernel
    exact exists_of_toBool (hall result hresult)
  ceilings validator hvalidator := by
    have hall : ∀ validator ∈ twoClaims.validatorSpecs,
        (authorityRank asciiText validator.authorityCeiling).toBool = true := by decide +kernel
    exact exists_of_toBool (hall validator hvalidator)
  floors claim hclaim authority hauthority := by
    have hall : ∀ claim ∈ twoClaims.claimGraph.claims,
        ∀ authority ∈ requiredAuthorities asciiText twoClaims claim.claimId,
          (authorityRank asciiText authority).toBool = true := by decide +kernel
    exact exists_of_toBool (hall claim hclaim authority hauthority)

theorem claim_verdicts_bothPassed : ∃ claims ledger,
    evaluateResults asciiText twoClaims firstClaimTask (bothPassed []) = .ok (claims, ledger) ∧
      Sound asciiText twoClaims firstClaimTask (bothPassed []) ledger := by
  obtain ⟨claims, ledger, hevaluated, hsound, -⟩ := claim_verdicts asciiText twoClaims
    firstClaimTask (bothPassed []) judgeable_bothPassed
  exact ⟨claims, ledger, hevaluated, hsound⟩

/-- Every result passed and the claim of the task is satisfied, but the audit ends in quarantine:
the second validator saw a leak. -/
theorem leak_elsewhere_quarantines : ∃ claims ledger,
    evaluateResults asciiText twoClaims firstClaimTask (bothPassed [("leakage", .bool true)]) =
      .ok (claims, ledger) ∧
    (∀ result ∈ bothPassed [("leakage", .bool true)], result.status = .pass) ∧
    ledger.claimPosteriors.map (·.state) = [.satisfied] ∧ ledger.auditStatus = .quarantine := by
  have hevaluated : ((evaluateResults asciiText twoClaims firstClaimTask
      (bothPassed [("leakage", .bool true)])).toOption.map fun evaluated =>
        (evaluated.2.claimPosteriors.map (·.state), evaluated.2.auditStatus)) =
      some ([.satisfied], .quarantine) := by decide +kernel
  rcases hresult : evaluateResults asciiText twoClaims firstClaimTask
    (bothPassed [("leakage", .bool true)]) with message | evaluated
  · rw [hresult] at hevaluated
    exact absurd hevaluated (by simp [Except.toOption])
  · rw [hresult] at hevaluated
    have hpair := Prod.mk.inj (Option.some.inj hevaluated)
    exact ⟨evaluated.1, evaluated.2, rfl, by decide, hpair.1, hpair.2⟩

end Agintor.Evaluation.OracleEvaluationRunner
