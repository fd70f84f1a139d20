import Agintor.Contracts.Ceilings
import Agintor.Lib.Decimal
import Agintor.Lib.Dict
import Agintor.Lib.Raise
import Mathlib.Data.Rat.Floor
import Mathlib.Data.List.Sort

/-!
# The aggregate budget ledger

`AggregateBudgetLedger` of `runtime/kernel/composite_budget.py`, in exact arithmetic.
Every operation runs under the ledger's lock, so the ledger is a state with one atomic
transition per operation; a clock reading is an argument of the operation that takes it.
An operation that raises leaves the ledger as it was.
-/

namespace Agintor.Kernel

open Agintor.Contracts Lib

/-! ## Metrics -/

inductive CostStatus
  | known | estimated | unknown
deriving DecidableEq

inductive UsageStatus
  | known | estimated | unknown
deriving DecidableEq

inductive ReservationKind
  | provider | tool
deriving DecidableEq

def ReservationKind.value : ReservationKind → String
  | .provider => "provider"
  | .tool => "tool"

/-- The metrics counted in whole units. -/
inductive CountedMetric
  | modelCalls | inputTokens | outputTokens | cachedTokens | cacheWriteTokens | retries
  | toolCalls | toolOutputBytes
deriving DecidableEq

def CountedMetric.name : CountedMetric → String
  | .modelCalls => "model_calls"
  | .inputTokens => "input_tokens"
  | .outputTokens => "output_tokens"
  | .cachedTokens => "cached_tokens"
  | .cacheWriteTokens => "cache_write_tokens"
  | .retries => "retries"
  | .toolCalls => "tool_calls"
  | .toolOutputBytes => "tool_output_bytes"

/-- The ceiling on a counted metric. -/
def limit (ceilings : TaskCeilings) : CountedMetric → ℕ
  | .modelCalls => ceilings.maxModelCalls
  | .inputTokens => ceilings.maxInputTokens
  | .outputTokens => ceilings.maxOutputTokens
  | .cachedTokens => ceilings.maxCachedTokens
  | .cacheWriteTokens => ceilings.maxCacheWriteTokens
  | .retries => ceilings.maxRetries
  | .toolCalls => ceilings.maxToolCalls
  | .toolOutputBytes => ceilings.maxToolOutputBytes

/-- The entries of the violation set. -/
inductive Violation
  | reservationExceeded (metric : CountedMetric)
  | costReservationExceeded
  | ceilingExceeded (metric : CountedMetric)
  | knownCostCeilingExceeded
  | estimatedCostCeilingExceeded
deriving DecidableEq

def Violation.text : Violation → String
  | .reservationExceeded m => m.name ++ "_reservation_exceeded"
  | .costReservationExceeded => "cost_reservation_exceeded"
  | .ceilingExceeded m => m.name ++ "_ceiling_exceeded"
  | .knownCostCeilingExceeded => "known_cost_usd_ceiling_exceeded"
  | .estimatedCostCeilingExceeded => "estimated_cost_usd_ceiling_exceeded"

/-! ## Records -/

/-- What a provider reports about one call; the checks of `validate_status_payload` are
fields. -/
structure ProviderUsageReport where
  usageStatus : UsageStatus
  inputTokens : Option ℕ
  outputTokens : Option ℕ
  cachedTokens : Option ℕ
  cacheWriteTokens : Option ℕ
  costStatus : CostStatus
  costUsd : Option ℚ
  responseId : Option String
  tokens_reported : usageStatus ≠ .unknown → inputTokens.isSome ∧ outputTokens.isSome ∧
    cachedTokens.isSome ∧ cacheWriteTokens.isSome
  cached_subcategories : usageStatus ≠ .unknown → ∀ i ∈ inputTokens, ∀ c ∈ cachedTokens,
    ∀ w ∈ cacheWriteTokens, c + w ≤ i
  cost_reported : costUsd.isSome ↔ costStatus ≠ .unknown
  cost_nonneg : ∀ c ∈ costUsd, 0 ≤ c

/-- `ProviderUsageReport.unknown()` -/
def ProviderUsageReport.unknown : ProviderUsageReport where
  usageStatus := .unknown
  inputTokens := none
  outputTokens := none
  cachedTokens := none
  cacheWriteTokens := none
  costStatus := .unknown
  costUsd := none
  responseId := none
  tokens_reported h := absurd rfl h
  cached_subcategories h := absurd rfl h
  cost_reported := by simp
  cost_nonneg := by simp

/-- The token count a report gives for a metric; calls and retries are not reported. -/
def ProviderUsageReport.observed (usage : ProviderUsageReport) : CountedMetric → Option ℕ
  | .inputTokens => usage.inputTokens
  | .outputTokens => usage.outputTokens
  | .cachedTokens => usage.cachedTokens
  | .cacheWriteTokens => usage.cacheWriteTokens
  | _ => none

/-- The keys of `observed_tokens`, in order. -/
def tokenMetrics : List CountedMetric :=
  [.inputTokens, .outputTokens, .cachedTokens, .cacheWriteTokens]

/-- What one outstanding call holds back from the ceilings. -/
structure BudgetReservation where
  reservationId : String
  kind : ReservationKind
  modelCalls : ℕ := 0
  inputTokens : ℕ := 0
  outputTokens : ℕ := 0
  cachedTokens : ℕ := 0
  cacheWriteTokens : ℕ := 0
  estimatedCostUsd : ℚ := 0
  expectedCostStatus : Option CostStatus := none
  toolCalls : ℕ := 0
  toolOutputBytes : ℕ := 0
  retries : ℕ := 0
deriving DecidableEq

/-- The amount a reservation holds of a counted metric. -/
def BudgetReservation.amount (r : BudgetReservation) : CountedMetric → ℕ
  | .modelCalls => r.modelCalls
  | .inputTokens => r.inputTokens
  | .outputTokens => r.outputTokens
  | .cachedTokens => r.cachedTokens
  | .cacheWriteTokens => r.cacheWriteTokens
  | .retries => r.retries
  | .toolCalls => r.toolCalls
  | .toolOutputBytes => r.toolOutputBytes

/-- The committed totals `_Totals`. -/
structure Totals where
  modelCalls : ℕ := 0
  inputTokens : ℕ := 0
  outputTokens : ℕ := 0
  cachedTokens : ℕ := 0
  cacheWriteTokens : ℕ := 0
  knownCostUsd : ℚ := 0
  estimatedCostUsd : ℚ := 0
  unknownCostEvents : ℕ := 0
  unknownUsageEvents : ℕ := 0
  toolCalls : ℕ := 0
  toolOutputBytes : ℕ := 0
  retries : ℕ := 0
  latencyMs : ℚ := 0
deriving DecidableEq

def Totals.count (t : Totals) : CountedMetric → ℕ
  | .modelCalls => t.modelCalls
  | .inputTokens => t.inputTokens
  | .outputTokens => t.outputTokens
  | .cachedTokens => t.cachedTokens
  | .cacheWriteTokens => t.cacheWriteTokens
  | .retries => t.retries
  | .toolCalls => t.toolCalls
  | .toolOutputBytes => t.toolOutputBytes

/-- `totals.<metric> += n` -/
def Totals.add (t : Totals) (n : ℕ) : CountedMetric → Totals
  | .modelCalls => { t with modelCalls := t.modelCalls + n }
  | .inputTokens => { t with inputTokens := t.inputTokens + n }
  | .outputTokens => { t with outputTokens := t.outputTokens + n }
  | .cachedTokens => { t with cachedTokens := t.cachedTokens + n }
  | .cacheWriteTokens => { t with cacheWriteTokens := t.cacheWriteTokens + n }
  | .retries => { t with retries := t.retries + n }
  | .toolCalls => { t with toolCalls := t.toolCalls + n }
  | .toolOutputBytes => { t with toolOutputBytes := t.toolOutputBytes + n }

/-- Exceptions of the ledger: `BudgetExhaustedError`, and `ValueError` with its cause. -/
inductive BudgetError
  | exhausted (metric : String) (requested remaining : ℚ)
  | negative (name : String)
  | cacheReservation
  | unboundedCost
  | unknownReservation (reservationId : String)
  | reservationMismatch (reservationId : String)
  | preSendUsage
deriving DecidableEq

/-- The text of the raised exception. -/
def BudgetError.message : BudgetError → String
  | .exhausted metric _ _ => "aggregate budget exhausted for " ++ metric
  | .negative name => name ++ " may not be negative"
  | .cacheReservation => "cache reservations must not exceed input tokens"
  | .unboundedCost => "provider calls require a bounded known or estimated cost reservation"
  | .unknownReservation id => "unknown or finalized budget reservation " ++ id
  | .reservationMismatch id => "budget reservation " ++ id ++ " does not match ledger state"
  | .preSendUsage => "a pre-send provider result cannot report provider usage"

structure AggregateBudgetSnapshot where
  totals : Totals
  elapsedWallTimeMs : ℤ
  remainingWallTimeMs : ℤ
  deadlineExceeded : Bool
  activeReservations : ℕ
  violations : List String
  healthy : Bool
  reconciled : Bool
  promotionEligible : Bool
deriving DecidableEq

structure AggregateBudgetLedger where
  ceilings : TaskCeilings
  startedAt : ℚ
  totals : Totals
  reservations : Dict String BudgetReservation
  sequence : ℕ
  violations : List Violation

namespace AggregateBudgetLedger

/-- The ledger as constructed, at clock reading `clock`. -/
def init (ceilings : TaskCeilings) (clock : ℚ) : AggregateBudgetLedger where
  ceilings := ceilings
  startedAt := clock
  totals := {}
  reservations := .empty
  sequence := 0
  violations := []

/-! ## Time -/

def elapsedMs (L : AggregateBudgetLedger) (clock : ℚ) : ℚ := max 0 ((clock - L.startedAt) * 1000)

def remainingWallTimeMs (L : AggregateBudgetLedger) (clock : ℚ) : ℤ :=
  max 0 ⌊(L.ceilings.maxWallTimeMs : ℚ) - L.elapsedMs clock⌋

def providerTimeoutMs (L : AggregateBudgetLedger) (clock : ℚ) : ℤ :=
  min (L.ceilings.providerDeadlineMs : ℤ) (L.remainingWallTimeMs clock)

def requireTime (L : AggregateBudgetLedger) (clock : ℚ) : Except BudgetError Unit :=
  raiseIf ((L.ceilings.maxWallTimeMs : ℚ) - L.elapsedMs clock ≤ 0) (.exhausted "wall_time_ms" 1 0)

/-! ## Capacity -/

def requireNonnegative (name : String) (value : ℚ) : Except BudgetError Unit :=
  raiseIf (value < 0) (.negative name)

/-- The slack `1e-12` of the ledger's comparisons. -/
def tolerance : ℚ := 1 / 10 ^ 12

def requireCapacity (metric : String) (current reserved requested limit : ℚ) :
    Except BudgetError Unit :=
  let remaining := max 0 (limit - current - reserved)
  raiseIf (requested > remaining + tolerance) (.exhausted metric requested remaining)

/-- The sum of a counted field over the active reservations. -/
def reserved (L : AggregateBudgetLedger) (m : CountedMetric) : ℕ :=
  (L.reservations.values.map fun r => r.amount m).sum

def remainingToolOutputBytes (L : AggregateBudgetLedger) : ℕ :=
  L.ceilings.maxToolOutputBytes - L.totals.toolOutputBytes - L.reserved .toolOutputBytes

/-- One entry of the `checks` loop of the reserve calls. -/
def requireCounted (L : AggregateBudgetLedger) (check : CountedMetric × ℕ) :
    Except BudgetError Unit :=
  requireCapacity check.1.name (L.totals.count check.1) (L.reserved check.1) check.2
    (limit L.ceilings check.1)

def nextReservationId (L : AggregateBudgetLedger) (kind : ReservationKind) : String :=
  "budget." ++ kind.value ++ "." ++ zeroPad 6 (L.sequence + 1)

/-- `self._reservations[reservation.reservation_id] = reservation`, after the sequence
number was taken. -/
def addReservation (L : AggregateBudgetLedger) (r : BudgetReservation) : AggregateBudgetLedger :=
  { L with sequence := L.sequence + 1, reservations := L.reservations.set r.reservationId r }

/-- Arguments of `reserve_provider_call`. -/
structure ProviderCallArgs where
  inputTokens : ℤ
  maxOutputTokens : ℤ
  maxCachedTokens : ℤ := 0
  maxCacheWriteTokens : ℤ := 0
  estimatedCostUsd : ℚ
  expectedCostStatus : CostStatus := .known
  isRetry : Bool := false

/-- The reservation a provider call is given. -/
def providerReservation (L : AggregateBudgetLedger) (args : ProviderCallArgs) :
    BudgetReservation where
  reservationId := L.nextReservationId .provider
  kind := .provider
  modelCalls := 1
  inputTokens := args.inputTokens.toNat
  outputTokens := args.maxOutputTokens.toNat
  cachedTokens := args.maxCachedTokens.toNat
  cacheWriteTokens := args.maxCacheWriteTokens.toNat
  estimatedCostUsd := args.estimatedCostUsd
  expectedCostStatus := some args.expectedCostStatus
  retries := args.isRetry.toNat

def reserveProviderCall (L : AggregateBudgetLedger) (clock : ℚ) (args : ProviderCallArgs) :
    Except BudgetError (BudgetReservation × AggregateBudgetLedger) := do
  requireNonnegative "input_tokens" args.inputTokens
  requireNonnegative "max_output_tokens" args.maxOutputTokens
  requireNonnegative "max_cached_tokens" args.maxCachedTokens
  requireNonnegative "max_cache_write_tokens" args.maxCacheWriteTokens
  requireNonnegative "estimated_cost_usd" args.estimatedCostUsd
  raiseIf (args.inputTokens < args.maxCachedTokens ∨ args.inputTokens < args.maxCacheWriteTokens)
    .cacheReservation
  raiseIf (args.expectedCostStatus = .unknown) .unboundedCost
  L.requireTime clock
  raiseIf (L.totals.unknownCostEvents ≠ 0 ∨ L.totals.unknownUsageEvents ≠ 0)
    (.exhausted "provider_accounting_unknown" 1 0)
  raiseIf (L.violations ≠ []) (.exhausted "ledger_accounting_invalid" 1 0)
  let r := L.providerReservation args
  [CountedMetric.modelCalls, .inputTokens, .outputTokens, .cachedTokens, .cacheWriteTokens,
    .retries].forM fun m => L.requireCounted (m, r.amount m)
  requireCapacity "estimated_cost_usd" (L.totals.knownCostUsd + L.totals.estimatedCostUsd)
    (L.reservations.values.map (·.estimatedCostUsd)).sum args.estimatedCostUsd
    L.ceilings.maxEstimatedCostUsd
  if args.expectedCostStatus = .known then
    requireCapacity "known_cost_usd" L.totals.knownCostUsd
      ((L.reservations.values.filter (·.expectedCostStatus = some .known)).map
        (·.estimatedCostUsd)).sum
      args.estimatedCostUsd L.ceilings.maxKnownCostUsd
  return (r, L.addReservation r)

/-- The reservation a tool call is given. -/
def toolReservation (L : AggregateBudgetLedger) (maxOutputBytes : ℤ) : BudgetReservation where
  reservationId := L.nextReservationId .tool
  kind := .tool
  toolCalls := 1
  toolOutputBytes := maxOutputBytes.toNat

def reserveToolCall (L : AggregateBudgetLedger) (clock : ℚ) (maxOutputBytes : ℤ) :
    Except BudgetError (BudgetReservation × AggregateBudgetLedger) := do
  requireNonnegative "max_output_bytes" maxOutputBytes
  L.requireTime clock
  raiseIf (L.totals.unknownCostEvents ≠ 0 ∨ L.totals.unknownUsageEvents ≠ 0)
    (.exhausted "ledger_accounting_unknown" 1 0)
  raiseIf (L.violations ≠ []) (.exhausted "ledger_accounting_invalid" 1 0)
  let r := L.toolReservation maxOutputBytes
  [CountedMetric.toolCalls, .toolOutputBytes].forM fun m => L.requireCounted (m, r.amount m)
  return (r, L.addReservation r)

/-! ## Finalising a reservation -/

/-- The stored reservation, which must equal the caller's, and the ledger without it. -/
def popReservation (L : AggregateBudgetLedger) (reservation : BudgetReservation)
    (expectedKind : ReservationKind) :
    Except BudgetError (BudgetReservation × AggregateBudgetLedger) :=
  match L.reservations.get? reservation.reservationId with
  | none => .error (.unknownReservation reservation.reservationId)
  | some stored => do
    raiseIf (stored ≠ reservation ∨ stored.kind ≠ expectedKind)
      (.reservationMismatch reservation.reservationId)
    return (stored, { L with reservations := L.reservations.erase reservation.reservationId })

def snapshot (L : AggregateBudgetLedger) (clock : ℚ) : AggregateBudgetSnapshot :=
  let elapsed := L.elapsedMs clock
  let unknown := L.totals.unknownCostEvents ≠ 0 ∨ L.totals.unknownUsageEvents ≠ 0
  let healthy : Bool := L.violations = [] ∧ ¬unknown
  let deadlineExceeded : Bool := (L.ceilings.maxWallTimeMs : ℚ) ≤ elapsed
  { totals := L.totals
    elapsedWallTimeMs := ⌈elapsed⌉
    remainingWallTimeMs := L.remainingWallTimeMs clock
    deadlineExceeded := deadlineExceeded
    activeReservations := L.reservations.entries.length
    violations := (L.violations.map Violation.text).insertionSort (· ≤ ·)
    healthy := healthy
    reconciled := L.reservations.entries = [] ∧ ¬unknown
    promotionEligible := healthy && !deadlineExceeded }

/-- `self._violations.add(v)` -/
def addViolation (L : AggregateBudgetLedger) (v : Violation) : AggregateBudgetLedger :=
  { L with violations := L.violations.insert v }

def addViolationIf (L : AggregateBudgetLedger) (c : Prop) [Decidable c] (v : Violation) :
    AggregateBudgetLedger := if c then L.addViolation v else L

def recordCeilingViolations (L : AggregateBudgetLedger) : AggregateBudgetLedger :=
  let counted := [CountedMetric.modelCalls, .inputTokens, .outputTokens, .cachedTokens,
    .cacheWriteTokens, .toolCalls, .toolOutputBytes, .retries].foldl
    (fun acc m => acc.addViolationIf
      ((L.totals.count m : ℚ) > (limit L.ceilings m : ℚ) + tolerance) (.ceilingExceeded m)) L
  let known := counted.addViolationIf
    (L.totals.knownCostUsd > L.ceilings.maxKnownCostUsd + tolerance) .knownCostCeilingExceeded
  known.addViolationIf
    (L.totals.knownCostUsd + L.totals.estimatedCostUsd
      > L.ceilings.maxEstimatedCostUsd + tolerance) .estimatedCostCeilingExceeded

def cancelReservation (L : AggregateBudgetLedger) (clock : ℚ) (reservation : BudgetReservation) :
    Except BudgetError (AggregateBudgetSnapshot × AggregateBudgetLedger) := do
  let (_, L) ← L.popReservation reservation reservation.kind
  return (L.snapshot clock, L)

/-- `setattr(totals, field, getattr(totals, field) + observed)`, and the violation when the
observed use exceeds what was held. -/
def commitObserved (usage : ProviderUsageReport) (stored : BudgetReservation)
    (L : AggregateBudgetLedger) (m : CountedMetric) : AggregateBudgetLedger :=
  match usage.observed m with
  | none => L
  | some observed =>
    { L with totals := L.totals.add observed m }.addViolationIf (observed > stored.amount m)
      (.reservationExceeded m)

/-- The cost part of a report, and the count of reports that leave it open. -/
def commitCost (usage : ProviderUsageReport) (t : Totals) : Totals :=
  let t := if usage.usageStatus = .unknown then
    { t with unknownUsageEvents := t.unknownUsageEvents + 1 } else t
  match usage.costStatus with
  | .known => { t with knownCostUsd := t.knownCostUsd + usage.costUsd.getD 0 }
  | .estimated => { t with estimatedCostUsd := t.estimatedCostUsd + usage.costUsd.getD 0 }
  | .unknown => { t with unknownCostEvents := t.unknownCostEvents + 1 }

def completeProviderCall (L : AggregateBudgetLedger) (clock : ℚ) (reservation : BudgetReservation)
    (usage : ProviderUsageReport) (latencyMs : ℚ) (requestSent : Bool) :
    Except BudgetError (AggregateBudgetSnapshot × AggregateBudgetLedger) := do
  requireNonnegative "latency_ms" latencyMs
  raiseIf (requestSent = false ∧ (usage.usageStatus ≠ .unknown ∨ usage.costStatus ≠ .unknown))
    .preSendUsage
  let (stored, L) ← L.popReservation reservation .provider
  let L := { L with totals := { L.totals.add stored.retries .retries with
    latencyMs := L.totals.latencyMs + latencyMs } }
  if requestSent = false then
    return (L.snapshot clock, L)
  let L := { L with totals := L.totals.add 1 .modelCalls }
  let L := tokenMetrics.foldl (commitObserved usage stored) L
  let L := { L with totals := commitCost usage L.totals }
  let L := L.addViolationIf (∃ cost ∈ usage.costUsd, cost > stored.estimatedCostUsd + tolerance)
    .costReservationExceeded
  let L := L.recordCeilingViolations
  return (L.snapshot clock, L)

def completeProviderFailure (L : AggregateBudgetLedger) (clock : ℚ)
    (reservation : BudgetReservation) (requestSent : Bool) (usage : Option ProviderUsageReport)
    (latencyMs : ℚ) : Except BudgetError (AggregateBudgetSnapshot × AggregateBudgetLedger) :=
  if requestSent then
    L.completeProviderCall clock reservation (usage.getD .unknown) latencyMs true
  else
    L.completeProviderCall clock reservation .unknown latencyMs false

def completeToolCall (L : AggregateBudgetLedger) (clock : ℚ) (reservation : BudgetReservation)
    (outputBytes : ℤ) (latencyMs : ℚ) :
    Except BudgetError (AggregateBudgetSnapshot × AggregateBudgetLedger) := do
  requireNonnegative "output_bytes" outputBytes
  requireNonnegative "latency_ms" latencyMs
  let (stored, L) ← L.popReservation reservation .tool
  let totals := (L.totals.add 1 .toolCalls).add outputBytes.toNat .toolOutputBytes
  let L := { L with totals := { totals with latencyMs := totals.latencyMs + latencyMs } }
  let L := L.addViolationIf (outputBytes > stored.toolOutputBytes)
    (.reservationExceeded .toolOutputBytes)
  let L := L.recordCeilingViolations
  return (L.snapshot clock, L)

/-! ## Runs -/

/-- One call on the ledger, with its arguments and the clock reading it takes. -/
inductive Call
  | reserveProviderCall (clock : ℚ) (args : ProviderCallArgs)
  | reserveToolCall (clock : ℚ) (maxOutputBytes : ℤ)
  | cancelReservation (clock : ℚ) (reservation : BudgetReservation)
  | completeProviderCall (clock : ℚ) (reservation : BudgetReservation)
      (usage : ProviderUsageReport) (latencyMs : ℚ) (requestSent : Bool)
  | completeProviderFailure (clock : ℚ) (reservation : BudgetReservation) (requestSent : Bool)
      (usage : Option ProviderUsageReport) (latencyMs : ℚ)
  | completeToolCall (clock : ℚ) (reservation : BudgetReservation) (outputBytes : ℤ)
      (latencyMs : ℚ)
  | snapshot (clock : ℚ)

/-- The ledger after a call that returned, or the exception it raised. -/
def perform (L : AggregateBudgetLedger) : Call → Except BudgetError AggregateBudgetLedger
  | .reserveProviderCall clock args => (·.2) <$> L.reserveProviderCall clock args
  | .reserveToolCall clock maxOutputBytes => (·.2) <$> L.reserveToolCall clock maxOutputBytes
  | .cancelReservation clock r => (·.2) <$> L.cancelReservation clock r
  | .completeProviderCall clock r usage latencyMs requestSent =>
    (·.2) <$> L.completeProviderCall clock r usage latencyMs requestSent
  | .completeProviderFailure clock r requestSent usage latencyMs =>
    (·.2) <$> L.completeProviderFailure clock r requestSent usage latencyMs
  | .completeToolCall clock r outputBytes latencyMs =>
    (·.2) <$> L.completeToolCall clock r outputBytes latencyMs
  | .snapshot _ => .ok L

/-- The ledger after a call, whether it returned or raised. -/
def step (L : AggregateBudgetLedger) (call : Call) : AggregateBudgetLedger :=
  match L.perform call with
  | .ok L' => L'
  | .error _ => L

/-- The ledger after any interleaving of calls: one list, in the order the lock was taken. -/
def run (L : AggregateBudgetLedger) (calls : List Call) : AggregateBudgetLedger :=
  calls.foldl step L

end AggregateBudgetLedger
end Agintor.Kernel
