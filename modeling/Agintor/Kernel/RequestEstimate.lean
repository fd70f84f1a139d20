import Agintor.Core.JsonText
import Agintor.Kernel.CompositeReplay
import Agintor.Kernel.CompositeRun
import Agintor.Lib.SelfMeasure

/-!
# The token estimate of a request

`CompositeRuntime._request_for`, with the loop that puts the estimate of its input tokens into a
request. What pydantic refuses of a call has been refused with the plan.
-/

namespace Agintor.Kernel.RequestEstimate

open Contracts Core Lib

/-- `count_tokens_rough` -/
def countTokensRough (text : List Char) : ℕ :=
  if text = [] then 0 else max 1 ⌈(text.length : ℚ) / 4⌉₊

section RequestFor

variable (ids : Identities) (F : FloatText)

/-- `json.dumps(request.model_dump(mode="json"), sort_keys=True, separators=(",", ":"))` -/
def serialized (request : Replay.ActorCallRequest) : List Char := (request.dump ids).writeAscii F

/-- The variables of the loop. -/
structure Estimation where
  request : Option Replay.ActorCallRequest
  estimate : ℕ

/-- The loop, with the rounds that it has left. -/
def estimateRounds (build : ℕ → Replay.ActorCallRequest) : ℕ → Estimation → Estimation
  | 0, current => current
  | n + 1, current =>
    let request := build current.estimate
    let nextEstimate := countTokensRough (serialized ids F request)
    if nextEstimate = current.estimate then { current with request := some request }
    else estimateRounds build n { request := some request, estimate := nextEstimate }

variable (runId : String) (runtime : CompositeRuntime) (call : ActorCallPlan)
  (context : Replay.PreCallContextManifest) (turnIndex : ℕ)
  (toolResults : List Replay.ActorToolResultContext)

/-- The request that a round of the loop builds. -/
def buildRequest (estimate : ℕ) : Replay.ActorCallRequest where
  runId := runId
  compiledSemanticDigest := runtime.plan.compiledSemanticDigest
  callId := call.callId
  actorId := call.actorId
  callKind := call.callKind
  instruction := call.instruction
  revisionInstruction := call.revisionInstruction
  allowedToolIds := call.toolIds
  budgetShareBps := call.budgetShareBps
  context := context
  turnIndex := turnIndex
  toolResults := toolResults
  inputTokenEstimate := estimate
  maxOutputTokens :=
    tokenShare runtime.task.ceilings.maxOutputTokens (callShareBps runtime.plan call)

/-- The most input tokens that the call may have. -/
def inputLimit : ℕ :=
  tokenShare runtime.task.ceilings.maxInputTokens (callShareBps runtime.plan call)

def shareExhausted : RuntimeError :=
  .composite "actor_input_share_exhausted"
    ("call " ++ quoted call.callId ++ " context exceeds its actor input-token share")
    (some call.callId)

/-- `_request_for` -/
def requestFor : Except RuntimeError Replay.ActorCallRequest := do
  let build := buildRequest runId runtime call context turnIndex toolResults
  let final := estimateRounds ids F build 8 { request := none, estimate := 0 }
  match final.request with
  | none => .error (.other "'NoneType' object has no attribute 'model_dump'")
  | some request => do
    let request :=
      if request.inputTokenEstimate ≠ final.estimate then
        { request with inputTokenEstimate := final.estimate }
      else request
    raiseIf (inputLimit runtime call < request.inputTokenEstimate) (shareExhausted call)
    return request

/-- The length of the text of the request, for each estimate that may stand in it. -/
def textLength (estimate : ℕ) : ℕ :=
  (serialized ids F (buildRequest runId runtime call context turnIndex toolResults estimate)).length

end RequestFor

/-! ## What the estimate adds to the text -/

lemma ceil_quarter (n : ℕ) : ⌈(n : ℚ) / 4⌉₊ = (n + 3) / 4 := by
  apply le_antisymm
  · have habove : n ≤ (n + 3) / 4 * 4 := by omega
    rw [Nat.ceil_le, div_le_iff₀ (by norm_num)]
    exact_mod_cast habove
  · have hceil := Nat.le_ceil ((n : ℚ) / 4)
    rw [div_le_iff₀ (by norm_num)] at hceil
    have hle : n ≤ ⌈(n : ℚ) / 4⌉₊ * 4 := by exact_mod_cast hceil
    omega

lemma countTokensRough_eq {text : List Char} (h : 0 < text.length) :
    countTokensRough text = (text.length + 3) / 4 := by
  have hne : text ≠ [] := List.length_pos_iff.mp h
  unfold countTokensRough
  rw [if_neg hne, ceil_quarter]
  omega

/-- Four characters count for one token, so a text that is not empty has a gauge. -/
lemma gauge_tokens : Gauge fun length => (length + 3) / 4 where
  mono := by
    intro m n hmn
    show (m + 3) / 4 ≤ (n + 3) / 4
    omega
  succ_le := by
    intro n
    omega

section Length

variable {ids : Identities} {F : FloatText}

/-- A digest is sixty-four characters and its quotes. -/
lemma asciiLength_digest {s : String} (h : isDigest s = true) :
    Json.asciiLength ((Json.str s).write F) = 66 := by
  have hplain : ∀ c ∈ hexDigits, Json.escape c = none ∧ ' ' ≤ c ∧ c ≤ '~' :=
    forall_mem_of_all (by decide +kernel)
  have hhex := mem_hexDigits_of_isDigest h
  have hlength : s.toList.length = 64 := by
    simp only [isDigest, Bool.and_eq_true, beq_iff_eq] at h
    exact h.1
  rw [Json.asciiLength_str fun c hc => hplain c (hhex c hc), ← String.length_toList, hlength]

variable (ids F) (runId : String) (runtime : CompositeRuntime) (call : ActorCallPlan)
  (context : Replay.PreCallContextManifest) (turnIndex : ℕ)
  (toolResults : List Replay.ActorToolResultContext)

/-- The text depends on the estimate through the number of its digits. -/
lemma exists_textLength_eq : ∃ rest, ∀ estimate,
    textLength ids F runId runtime call context turnIndex toolResults estimate =
      rest + numeralLength estimate := by
  let build := buildRequest runId runtime call context turnIndex toolResults
  let before := ((build 0).content ids).take 12
  let after := ((build 0).content ids).drop 13
  let key := Json.asciiLength (Json.quote "input_token_estimate".toList)
  let digestKey := Json.asciiLength (Json.quote "request_digest".toList)
  have hdump : ∀ estimate, (build estimate).dump ids =
      .object (before ++ ("input_token_estimate", .int estimate) :: after ++
        [("request_digest", .str ((build estimate).requestDigest ids))]) := fun _ => rfl
  refine ⟨(before.map (Json.entryLength F)).sum + key + 1 + (after.map (Json.entryLength F)).sum +
    digestKey + 67 + (before.length + after.length + 1) + 2, fun estimate => ?_⟩
  have hdigest : Json.asciiLength ((Json.str ((build estimate).requestDigest ids)).write F) = 66 :=
    asciiLength_digest (ids.isDigest _ _)
  have hint : Json.asciiLength ((Json.int estimate).write F) = numeralLength estimate :=
    Json.asciiLength_int F estimate
  show Json.asciiLength (((build estimate).dump ids).write F) = _
  rw [hdump, Json.asciiLength_object]
  simp only [List.map_append, List.map_cons, List.map_nil, List.sum_append, List.sum_cons,
    List.sum_nil, List.length_append, List.length_cons, List.length_nil, Json.entryLength, hdigest,
    hint]
  omega

/-- A request is never empty, so its text is what counts. -/
lemma countTokensRough_build (estimate : ℕ) :
    countTokensRough (serialized ids F
        (buildRequest runId runtime call context turnIndex toolResults estimate)) =
      (textLength ids F runId runtime call context turnIndex toolResults estimate + 3) / 4 := by
  obtain ⟨rest, hrest⟩ :=
    exists_textLength_eq ids F runId runtime call context turnIndex toolResults
  have hpos := numeralLength_pos estimate
  have hlength := hrest estimate
  exact countTokensRough_eq (show 0 < textLength ids F runId runtime call context turnIndex
    toolResults estimate by omega)

end Length

/-! ## The loop -/

section Rounds

variable {ids : Identities} {F : FloatText} {build : ℕ → Replay.ActorCallRequest}

/-- The estimate a round of the loop makes of the estimate before it. -/
def nextEstimate (ids : Identities) (F : FloatText) (build : ℕ → Replay.ActorCallRequest)
    (estimate : ℕ) : ℕ :=
  countTokensRough (serialized ids F (build estimate))

lemma estimateRounds_of_stays (n : ℕ) {current : Estimation}
    (h : nextEstimate ids F build current.estimate = current.estimate) :
    estimateRounds ids F build (n + 1) current =
      ⟨some (build current.estimate), current.estimate⟩ := by
  rw [estimateRounds]
  exact if_pos h

lemma estimateRounds_of_changes (n : ℕ) {current : Estimation}
    (h : nextEstimate ids F build current.estimate ≠ current.estimate) :
    estimateRounds ids F build (n + 1) current = estimateRounds ids F build n
      ⟨some (build current.estimate), nextEstimate ids F build current.estimate⟩ := by
  rw [estimateRounds]
  exact if_neg h

/-- Estimates that settle before the rounds are used up end the loop, with the request that was
measured last. -/
lemma estimateRounds_of_settled {k n : ℕ} (current : Estimation) (hk : k < n)
    (h : (nextEstimate ids F build)^[k + 1] current.estimate =
      (nextEstimate ids F build)^[k] current.estimate) :
    ∃ estimate, estimateRounds ids F build n current = ⟨some (build estimate), estimate⟩ ∧
      nextEstimate ids F build estimate = estimate := by
  obtain ⟨n, rfl⟩ : ∃ m, n = m + 1 := ⟨n - 1, by omega⟩
  induction k generalizing n current with
  | zero => exact ⟨current.estimate, estimateRounds_of_stays n h, h⟩
  | succ k ih =>
    by_cases hstays : nextEstimate ids F build current.estimate = current.estimate
    · exact ⟨current.estimate, estimateRounds_of_stays n hstays, hstays⟩
    · obtain ⟨m, rfl⟩ : ∃ m, n = m + 1 := ⟨n - 1, by omega⟩
      rw [estimateRounds_of_changes (m + 1) hstays]
      exact ih ⟨_, nextEstimate ids F build current.estimate⟩ h m (by omega)

/-- The loop of `Kernel.requestFor`, which counts with a function it is given, ends with the same
estimate. -/
lemma estimate_estimateRounds (n : ℕ) (current : Estimation) :
    (estimateRounds ids F build n current).estimate =
      settleEstimate (nextEstimate ids F build) n current.estimate := by
  induction n generalizing current with
  | zero => rfl
  | succ n ih =>
    rw [settleEstimate]
    split
    · rename_i hstays
      rw [estimateRounds_of_stays n hstays]
    · rename_i hchanges
      rw [estimateRounds_of_changes n hchanges, ih]

end Rounds

variable (ids : Identities) (F : FloatText) (runId : String) (runtime : CompositeRuntime)
  (call : ActorCallPlan) (context : Replay.PreCallContextManifest) (turnIndex : ℕ)
  (toolResults : List Replay.ActorToolResultContext)

/-- The loop ends within four of its eight rounds, with a request whose estimate is that of its own
text. -/
lemma estimateRounds_settled :
    ∃ estimate, estimateRounds ids F
        (buildRequest runId runtime call context turnIndex toolResults) 8 ⟨none, 0⟩ =
          ⟨some (buildRequest runId runtime call context turnIndex toolResults estimate),
            estimate⟩ ∧
      nextEstimate ids F (buildRequest runId runtime call context turnIndex toolResults) estimate =
        estimate := by
  obtain ⟨rest, hrest⟩ :=
    exists_textLength_eq ids F runId runtime call context turnIndex toolResults
  have hnext : nextEstimate ids F (buildRequest runId runtime call context turnIndex toolResults) =
      Gauge.remeasure (fun length => (length + 3) / 4) rest := by
    funext estimate
    rw [nextEstimate, countTokensRough_build, hrest]
    rfl
  refine estimateRounds_of_settled ⟨none, 0⟩ (k := 3) (by omega) ?_
  rw [hnext]
  exact gauge_tokens.remeasure_settles rest

/-- The estimate in a request is exact. The length of the request's text depends on the estimate in
it through the number of its digits only; the loop always ends at a round that leaves the estimate
as it was, so the request that is returned is the one that was measured. -/
theorem requestFor_estimate_exact :
    (∃ rest, ∀ estimate,
      textLength ids F runId runtime call context turnIndex toolResults estimate =
        rest + (toString estimate).length) ∧
    ∃ request : Replay.ActorCallRequest,
      estimateRounds ids F (buildRequest runId runtime call context turnIndex toolResults) 8
        ⟨none, 0⟩ = ⟨some request, request.inputTokenEstimate⟩ ∧
      request = buildRequest runId runtime call context turnIndex toolResults
        request.inputTokenEstimate ∧
      request.inputTokenEstimate = ⌈(textLength ids F runId runtime call context turnIndex
        toolResults request.inputTokenEstimate : ℚ) / 4⌉₊ ∧
      requestFor ids F runId runtime call context turnIndex toolResults =
        if inputLimit runtime call < request.inputTokenEstimate then .error (shareExhausted call)
        else .ok request := by
  refine ⟨?_, ?_⟩
  · obtain ⟨rest, hrest⟩ :=
      exists_textLength_eq ids F runId runtime call context turnIndex toolResults
    refine ⟨rest, fun estimate => ?_⟩
    rw [hrest, Nat.toString_eq_repr, ← String.length_toList, Nat.toList_repr]
    rfl
  · obtain ⟨estimate, hfinal, hsettled⟩ :=
      estimateRounds_settled ids F runId runtime call context turnIndex toolResults
    refine ⟨_, hfinal, rfl, ?_, ?_⟩
    · show estimate = ⌈(textLength ids F runId runtime call context turnIndex toolResults
        estimate : ℚ) / 4⌉₊
      rw [ceil_quarter, ← countTokensRough_build]
      exact hsettled.symm
    · unfold requestFor
      dsimp only
      rw [hfinal]
      dsimp only
      -- the request that is left was built with the estimate that is left
      rw [if_neg (fun hne => hne rfl)]
      let request := buildRequest runId runtime call context turnIndex toolResults estimate
      by_cases hlimit : inputLimit runtime call < request.inputTokenEstimate
      · rw [raiseIf_pos hlimit]
        exact (if_pos hlimit).symm
      · rw [raiseIf_neg hlimit]
        exact (if_neg hlimit).symm

end Agintor.Kernel.RequestEstimate
